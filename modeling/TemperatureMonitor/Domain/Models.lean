/-
# Value objects of the monitoring domain

The records and enumerations the alarm pipeline passes around, after
`domain/models.py`. An enumeration's text (`value`) is given where a key or
a stored row is made of it. A float is an exact rational: the pipeline only
compares and stores it.
-/
import Mathlib.Data.Rat.Defs
import TemperatureMonitor.Library.Iso

namespace TemperatureMonitor

/-- The exceptions the modelled code raises, by class, with their texts. -/
inductive PyError
  | valueError (text : String)
  | runtimeError (text : String)
  | keyError (text : String)
  /-- `sqlite3.IntegrityError`: a constraint of the schema. -/
  | integrityError (text : String)
deriving DecidableEq

/-! ### Enumerations -/

inductive TemperatureStatus
  | normal | low | high | unknown
deriving DecidableEq

inductive OverallStatus
  | normal | violation | unknown
deriving DecidableEq

inductive ApplicabilityStatus
  | applicable | notApplicable | noStandard
deriving DecidableEq

inductive DataQualityStatus
  | good | offline | missing | error
deriving DecidableEq

inductive AlarmLifecycleState
  | normal | pending | alarm | recovery
deriving DecidableEq

inductive AlarmActionType
  | createVerifyTask | cancelVerifyTask | completeVerifyTask
  | createAlarmEvent | updateAlarmEvent | notifyAlarm
  | startRecovery | markAlarmRecovered | notifyRecovery
  | notifyPrewarning | notifyPrewarningRecovery
deriving DecidableEq

def AlarmActionType.value : AlarmActionType → String
  | createVerifyTask => "CREATE_VERIFY_TASK"
  | cancelVerifyTask => "CANCEL_VERIFY_TASK"
  | completeVerifyTask => "COMPLETE_VERIFY_TASK"
  | createAlarmEvent => "CREATE_ALARM_EVENT"
  | updateAlarmEvent => "UPDATE_ALARM_EVENT"
  | notifyAlarm => "NOTIFY_ALARM"
  | startRecovery => "START_RECOVERY"
  | markAlarmRecovered => "MARK_ALARM_RECOVERED"
  | notifyRecovery => "NOTIFY_RECOVERY"
  | notifyPrewarning => "NOTIFY_PREWARNING"
  | notifyPrewarningRecovery => "NOTIFY_PREWARNING_RECOVERY"

inductive AutomationTaskStatus
  | pending | running | succeeded | cancelled | failed
  /-- Historical external work, kept for review and never claimed. -/
  | legacyPending
deriving DecidableEq

def AutomationTaskStatus.value : AutomationTaskStatus → String
  | pending => "PENDING"
  | running => "RUNNING"
  | succeeded => "SUCCEEDED"
  | cancelled => "CANCELLED"
  | failed => "FAILED"
  | legacyPending => "LEGACY_PENDING"

/-! ### Samples and results -/

/-- One observation of a device. -/
structure MonitorSample where
  deviceId : String
  sampleTime : DateTime
  temperature : Option ℚ
  humidity : Option ℚ
  onlineStatus : Option String := none
  dataQuality : Option DataQualityStatus := none
deriving DecidableEq

/-- Why a reading counts as near a limit. -/
structure PrewarningDetail where
  dimension : String
  direction : String
  value : ℚ
  limit : ℚ
  distance : ℚ
  unit : String
deriving DecidableEq

/-- The result of evaluating one sample against one standard. -/
structure MonitorResult where
  deviceId : String
  overallStatus : OverallStatus
  temperatureStatus : TemperatureStatus := .normal
  humidityStatus : TemperatureStatus := .normal
  standardId : Option String := none
  standardRevision : Option String := none
  standardSource : Option String := none
  applicability : ApplicabilityStatus := .applicable
  prewarningReasons : List String := []
  prewarningDetails : List (String × PrewarningDetail) := []
deriving DecidableEq

/-! ### The alarm state and its actions -/

/-- The persisted lifecycle state of a device, kept apart from its events. -/
structure AlarmState where
  deviceId : String
  state : AlarmLifecycleState
  violationStartedAt : Option DateTime := none
  alarmStartedAt : Option DateTime := none
  recoveryStartedAt : Option DateTime := none
  activeAlarmId : Option String := none
  pendingTaskId : Option String := none
  prewarningActive : Bool := false
  prewarningStartedAt : Option DateTime := none
  prewarningEpisodeId : Option String := none
  prewarningReasons : List String := []
  prewarningDetails : List (String × PrewarningDetail) := []
  prewarningStandardId : Option String := none
  prewarningStandardRevision : Option String := none
  prewarningNotifyTaskId : Option String := none
  prewarningMessageId : Option String := none
  prewarningRecoveredAt : Option DateTime := none
  prewarningRecoveryTaskId : Option String := none
  prewarningRecoveryMessageId : Option String := none
deriving DecidableEq

/-- `AlarmState.normal(device_id)`. -/
def AlarmState.ofDevice (deviceId : String) : AlarmState :=
  { deviceId, state := .normal }

/-- An instruction for the application layer. -/
structure AlarmAction where
  actionType : AlarmActionType
  deviceId : String
  runAt : Option DateTime := none
  alarmId : Option String := none
deriving DecidableEq

/-- What the state machine decides for one sample. -/
structure StateTransition where
  previous : AlarmState
  next : AlarmState
  actions : List AlarmAction := []
  reason : String := ""
deriving DecidableEq

end TemperatureMonitor
