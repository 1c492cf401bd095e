import Pipoco.Runs
import Pipoco.Slots
import Pipoco.Keyed
import Pipoco.Trains
import Pipoco.Interp
import Pipoco.Evidence
import Pipoco.Debounce
import Pipoco.Domain
import Pipoco.SchedState
import Pipoco.SchedQueue
import Pipoco.Draws
import Pipoco.DrainOrder
import Pipoco.Lowering
import Pipoco.OutAdapter
import Pipoco.OutPins
import Pipoco.Rejections
import Pipoco.Discard
import Pipoco.Ownership
import Pipoco.Suspension
import Pipoco.Bookkeeping
import Pipoco.Horizons
import Pipoco.Levels
import Pipoco.Watchdog
import Pipoco.Banks
import Pipoco.TrigDecoder
import Pipoco.TrigCoherence
import Pipoco.TrigWheel
import Pipoco.Control
import Pipoco.SemFuel
import Pipoco.OutProfiles
import Pipoco.Planning
import Pipoco.EngineTypes
import Pipoco.EngineControl
import Pipoco.EngineStep
import Pipoco.EngineEmit
import Pipoco.EngineArms
import Pipoco.EngineReturn
import Pipoco.EngineCancel
import Pipoco.EngineFill
import Pipoco.EngineLatch
import Pipoco.EngineShutdown
import Pipoco.Bytes
import Pipoco.Nor
import Pipoco.KvAb
import Pipoco.SideRecords
import Pipoco.ObdHistory
import Pipoco.StmStore
import Pipoco.StmAtomic
import Pipoco.KeyLaw
import Pipoco.RpStore
import Pipoco.FlashKeys
import Pipoco.CalibrationPackage
import Pipoco.EditSurface
import Pipoco.TuningLink
import Pipoco.TuningPages
import Pipoco.CanTransport
import Pipoco.CanTransfer
import Pipoco.CanDelivery
import Pipoco.CanRecovery
import Pipoco.WholeBatch
import Pipoco.Rotation
import Pipoco.FlippedBit
import Pipoco.CompatState
import Pipoco.LimpLimit
import Pipoco.VoltageRecovery
import Pipoco.SensorFaults
import Pipoco.SyncWindow
import Pipoco.Torque
import Pipoco.TorqueArbitration
import Pipoco.CompatFuel
import Pipoco.Acceleration
import Pipoco.LambdaGates
import Pipoco.VehicleSpeed
import Pipoco.KnockRecovery
import Pipoco.SpecTrigger
import Pipoco.DiagRing
import Pipoco.ArmReplay
import Pipoco.KeyGenerations
import Pipoco.TrigEdges
import Pipoco.TrigRevolution
import Pipoco.TrigAngle
import Pipoco.TrigProfiled
import Pipoco.TrigCam
import Pipoco.TrigProfileAngle
import Pipoco.TrigStartup
import Pipoco.SemArbiter
import Pipoco.SemHardRev
import Pipoco.SemCycles
import Pipoco.SemDfco
import Pipoco.SemAe
import Pipoco.SemKnock
import Pipoco.SemSchedule
import Pipoco.SemTables
import Pipoco.SemLoops
import Pipoco.SpecCalibration
import Pipoco.SpecFuel
import Pipoco.SpecSchedule
import Pipoco.TsProto
import Pipoco.TsSerial
import Pipoco.TsFraming
import Pipoco.TsServer
import Pipoco.TsReplies
import Pipoco.RpFlash
