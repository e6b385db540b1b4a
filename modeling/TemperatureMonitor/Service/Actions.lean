/-
# Application actions

`ApplicationActionMapper.map` turns the actions of a transition into
application actions, adding a notification to an alarm and to a recovery;
`_enrich_action_metadata` then gives each its durable identities: the event,
the task, and the dedupe key its effect is known by.
-/
import TemperatureMonitor.Service.Prewarning
import TemperatureMonitor.Store.Tasks

namespace TemperatureMonitor

inductive ApplicationActionKind
  | scheduleTask | cancelTask | completeTask | event | notification | integration
deriving DecidableEq

/-- A domain action with its routing metadata. -/
structure ApplicationAction where
  actionType : AlarmActionType
  kind : ApplicationActionKind
  deviceId : String
  runAt : Option DateTime := none
  alarmId : Option String := none
  taskType : Option String := none
  entityType : Option String := none
  entityId : Option String := none
  taskId : Option String := none
  dedupeKey : Option String := none
  payload : TaskPayload := {}
deriving DecidableEq

/-! ### The mapper -/

def kindOf : AlarmActionType → ApplicationActionKind
  | .createAlarmEvent | .updateAlarmEvent | .startRecovery | .markAlarmRecovered => .event
  | .notifyAlarm | .notifyRecovery | .notifyPrewarning | .notifyPrewarningRecovery => .notification
  | _ => .integration

/-- The message that goes with an event action. -/
def notificationType : AlarmActionType → Option AlarmActionType
  | .createAlarmEvent => some .notifyAlarm
  | .markAlarmRecovered => some .notifyRecovery
  | _ => none

/-- `VERIFY_ALARM:<device>:<violation start>`. -/
def verifyAlarmKey (deviceId : String) (start : DateTime) : String :=
  "VERIFY_ALARM:" ++ deviceId ++ ":" ++ start.isoformat

def mapPlain (reason : String) (action : AlarmAction) : ApplicationAction :=
  { actionType := action.actionType, kind := kindOf action.actionType, deviceId := action.deviceId,
    runAt := action.runAt, alarmId := action.alarmId, payload := { reason := some reason } }

/-- One action of a transition. -/
def mapAction (emitNotifications : Bool) (tr : StateTransition) (action : AlarmAction) :
    Except PyError (List ApplicationAction) :=
  match action.actionType with
  | .createVerifyTask =>
    match action.runAt, tr.next.violationStartedAt with
    | some runAt, some start =>
      .ok [{ actionType := action.actionType, kind := .scheduleTask, deviceId := action.deviceId,
             runAt := some runAt, taskType := some "VERIFY_ALARM", entityType := some "DEVICE",
             entityId := some action.deviceId,
             dedupeKey := some (verifyAlarmKey action.deviceId start),
             payload := { reason := some tr.reason } }]
    | _, _ => .error (.valueError "verification action requires a due time and start time")
  | .cancelVerifyTask =>
    .ok [{ actionType := action.actionType, kind := .cancelTask, deviceId := action.deviceId,
           taskType := some "VERIFY_ALARM", entityType := some "DEVICE",
           entityId := some action.deviceId, taskId := tr.previous.pendingTaskId }]
  | .completeVerifyTask =>
    .ok [{ actionType := action.actionType, kind := .completeTask, deviceId := action.deviceId,
           taskType := some "VERIFY_ALARM", entityType := some "DEVICE",
           entityId := some action.deviceId, taskId := tr.previous.pendingTaskId }]
  | _ =>
    match notificationType action.actionType with
    | some message =>
      if emitNotifications then
        .ok [mapPlain tr.reason action, mapPlain tr.reason { action with actionType := message }]
      else .ok [mapPlain tr.reason action]
    | none => .ok [mapPlain tr.reason action]

/-- `ApplicationActionMapper.map`. -/
def mapActions (emitNotifications : Bool) (tr : StateTransition) :
    List AlarmAction → Except PyError (List ApplicationAction)
  | [] => .ok []
  | action :: rest =>
    match mapAction emitNotifications tr action with
    | .error e => .error e
    | .ok mapped =>
      match mapActions emitNotifications tr rest with
      | .error e => .error e
      | .ok others => .ok (mapped ++ others)

/-! ### Effect keys -/

/-- The result a context carries: the evaluation itself, or what a task's
payload has of it. -/
inductive ResultDict
  | evaluated (result : MonitorResult)
  | stored (temperatureStatus humidityStatus : Option TemperatureStatus)
      (standardId standardRevision standardSource : Option String)
deriving DecidableEq

/-- What the digest of an update is taken of; the sample time as its instant. -/
structure UpdateMaterial where
  eventId : String
  sampleTime : Option ℤ
  sample : MonitorSample
  result : ResultDict
deriving DecidableEq

/-- `canonical_instant`: one text for an instant, whatever its offset. -/
def canonicalInstant (t : DateTime) : String := toString t.epochMilliseconds

/-- `external_effect_key`; `digest` is the hash of an update's material. -/
def externalEffectKey (digest : UpdateMaterial → String) (actionType : AlarmActionType)
    (eventId : String) (sampleTime recoveredAt : Option DateTime) (sample : MonitorSample)
    (result : ResultDict) : Except PyError String :=
  let event := strip eventId
  if event = "" then .error (.valueError "event_id cannot be empty")
  else match actionType with
  | .createAlarmEvent => .ok ("ENV_CREATE:" ++ event)
  | .markAlarmRecovered =>
    match recoveredAt <|> sampleTime with
    | some t => .ok ("ENV_RECOVERY:" ++ event ++ ":" ++ canonicalInstant t)
    | none => .error (.valueError "recovery effect requires a logical recovery instant")
  | .updateAlarmEvent => .ok ("ENV_UPDATE:" ++ event ++ ":" ++ 
      digest ⟨event, sampleTime.map (·.epochMilliseconds), sample, result⟩)
  | other => .ok ("ENV_EFFECT:" ++ other.value ++ ":" ++ event)

def notifyAlarmKey (alarmId : String) : String := "NOTIFY_ALARM:" ++ alarmId

/-- `NOTIFY_RECOVERY:<event>:<recovery window start>`. -/
def notifyRecoveryKey (alarmId : String) (start : DateTime) : String :=
  "NOTIFY_RECOVERY:" ++ alarmId ++ ":" ++ start.isoformat

/-- `"|".join(reasons)`, or `unknown` where that is empty. -/
def direction (reasons : List String) : String :=
  let joined := "|".intercalate reasons
  if joined = "" then "unknown" else joined

/-- `value or "unknown"`. -/
def orUnknown (value : Option String) : String :=
  if truthy value then value.getD "" else "unknown"

/-- What a prewarning key says of the standard and the limits near. -/
def warningText (result : MonitorResult) (reasons : List String) : String :=
  orUnknown result.standardId ++ ":" ++ orUnknown result.standardRevision ++ ":" ++
    direction reasons

/-- `<action>:<device>:<standard>:<revision>:<direction>:<episode>`. -/
def prewarningKey (actionType : AlarmActionType) (deviceId text episodeId : String) : String :=
  actionType.value ++ ":" ++ deviceId ++ ":" ++ text ++ ":" ++ episodeId

/-- `_recovery_started_at`. -/
def recoveryStartedAt (tr : StateTransition) (fallback : DateTime) : DateTime :=
  (tr.next.recoveryStartedAt <|> tr.previous.recoveryStartedAt).getD fallback

/-! ### Enrichment -/

/-- The arguments of an enrichment that come from the sample. -/
structure SampleFacts where
  sample : MonitorSample
  result : MonitorResult
  createdAt : DateTime
  schedulerTaskId : Option String := none

def isEventAction (t : AlarmActionType) : Bool :=
  t = .createAlarmEvent ∨ t = .updateAlarmEvent ∨ t = .markAlarmRecovered

/-- The task an action is attributed to. -/
def actionTaskId (tr : StateTransition) (schedulerTaskId : Option String) (a : ApplicationAction) :
    Option String :=
  match a.actionType with
  | .createVerifyTask | .startRecovery => tr.next.pendingTaskId <|> schedulerTaskId
  | .cancelVerifyTask | .completeVerifyTask => tr.previous.pendingTaskId <|> schedulerTaskId
  | .notifyAlarm | .notifyRecovery | .notifyPrewarning | .notifyPrewarningRecovery => a.taskId
  | _ => a.taskId <|> schedulerTaskId

/-- The event an action is about. -/
def actionAlarmId (tr : StateTransition) (a : ApplicationAction) : Option String :=
  a.alarmId <|>
    if isEventAction a.actionType ∨ a.actionType = .startRecovery ∨ a.actionType = .notifyAlarm ∨
        a.actionType = .notifyRecovery then
      tr.next.activeAlarmId <|> tr.previous.activeAlarmId
    else none

/-- The episode and the reasons of a prewarning action. -/
def prewarningEpisode (tr : StateTransition) : Option String :=
  tr.next.prewarningEpisodeId <|> tr.previous.prewarningEpisodeId

def prewarningReasons (tr : StateTransition) : List String :=
  if tr.next.prewarningReasons = [] then tr.previous.prewarningReasons
    else tr.next.prewarningReasons

/-- The key and payload of a prewarning action. -/
def enrichPrewarning (tr : StateTransition) (f : SampleFacts) (a : ApplicationAction) :
    ApplicationAction :=
  match prewarningEpisode tr with
  | none => a
  | some episodeId =>
    let reasons := prewarningReasons tr
    { a with
      dedupeKey := some (prewarningKey a.actionType f.sample.deviceId (warningText f.result reasons)
        episodeId)
      payload := { a.payload with
        notificationType := some
          (if a.actionType = .notifyPrewarning then "PREWARNING" else "PREWARNING_RECOVERY")
        prewarningEpisodeId := some episodeId
        prewarningReasons := reasons
        prewarningDetails := if tr.next.prewarningDetails = [] then tr.previous.prewarningDetails
          else tr.next.prewarningDetails
        prewarningStartedAt := tr.next.prewarningStartedAt <|> tr.previous.prewarningStartedAt
        standardId := some (orUnknown f.result.standardId)
        standardRevision := some (orUnknown f.result.standardRevision) } }

/-- The key and payload of an action's message. -/
def enrichNotification (tr : StateTransition) (f : SampleFacts) (alarmId : Option String)
    (a : ApplicationAction) : ApplicationAction :=
  match a.actionType, alarmId with
  | .notifyAlarm, some id =>
    { a with dedupeKey := some (notifyAlarmKey id)
             payload := { a.payload with notificationType := some "ALARM" } }
  | .notifyRecovery, some id =>
    let start := recoveryStartedAt tr f.createdAt
    { a with dedupeKey := some (notifyRecoveryKey id start)
             payload := { a.payload with notificationType := some "RECOVERY"
                                         recoveryStartedAt := some start } }
  | .notifyPrewarning, _ | .notifyPrewarningRecovery, _ => enrichPrewarning tr f a
  | _, _ => a

/-- `_enrich_action_metadata`, for one action. -/
def enrichAction (digest : UpdateMaterial → String) (tr : StateTransition) (f : SampleFacts)
    (a : ApplicationAction) : Except PyError ApplicationAction :=
  let alarmId := actionAlarmId tr a
  let enriched := { enrichNotification tr f alarmId a with
    alarmId := alarmId, taskId := actionTaskId tr f.schedulerTaskId a }
  match alarmId with
  | some id =>
    if isEventAction a.actionType ∨ a.actionType = .startRecovery then
      match externalEffectKey digest a.actionType id (some f.sample.sampleTime) (some f.createdAt)
          f.sample (.evaluated f.result) with
      | .error e => .error e
      | .ok key => .ok { enriched with
          dedupeKey := some key, payload :=
            { enriched.payload with externalEffectKey := some key } }
    else .ok enriched
  | none => .ok enriched

def enrichActions (digest : UpdateMaterial → String) (tr : StateTransition) (f : SampleFacts) :
    List ApplicationAction → Except PyError (List ApplicationAction)
  | [] => .ok []
  | a :: rest =>
    match enrichAction digest tr f a with
    | .error e => .error e
    | .ok enriched =>
      match enrichActions digest tr f rest with
      | .error e => .error e
      | .ok others => .ok (enriched :: others)

end TemperatureMonitor
