/-
# The monitoring system and its steps

The stores, the markers of the prewarning messages, and every notification
action produced so far with the context it is executed in. A step is one
sample's local unit, one write that follows it or that the scheduler makes,
one reconciliation attempt, one re-arming by the scanner, or one delivery of
a message. Steps come in any order: a failed external write is a run without
the write, a crash is a run without what would have followed.
-/
import TemperatureMonitor.Library.Runs
import TemperatureMonitor.Service.Reconcile

namespace TemperatureMonitor

/-- A notification action and the context it is executed in. -/
structure Emission where
  action : ApplicationAction
  context : NotificationContext

structure World where
  service : ServiceState := {}
  effects : List (String × EffectMarker) := []
  emitted : List Emission := []

/-! ### Messages -/

/-- A message on its way to the sender: `key` is its effect key. -/
structure Message where
  actionType : AlarmActionType
  eventId : String
  key : String
deriving DecidableEq

/-- `_notification_effect_key`; a prewarning is known by its dedupe key. -/
def notificationEffectKey (actionType : AlarmActionType) (eventId : String)
    (dedupeKey : Option String)
    (recoveryStartedAt : Option DateTime) (c : NotificationContext) : Option String :=
  match actionType with
  | .notifyAlarm => some (notifyAlarmKey eventId)
  | .notifyPrewarning | .notifyPrewarningRecovery => if truthy dedupeKey then dedupeKey else none
  | _ => some (notifyRecoveryKey eventId
      ((recoveryStartedAt <|> c.transition.recoveryStartedAt <|> c.recoveredAt).getD c.createdAt))

/-- The message of an action executed inline. -/
def Emission.message (e : Emission) : Option Message :=
  (notificationEffectKey e.action.actionType (e.action.alarmId.getD "") e.action.dedupeKey none
    e.context).map fun key => ⟨e.action.actionType, e.action.alarmId.getD "", key⟩

/-- The type of the notification a task carries. -/
def AutomationTask.notification (t : AutomationTask) : Option AlarmActionType :=
  [AlarmActionType.notifyAlarm, .notifyRecovery, .notifyPrewarning, .notifyPrewarningRecovery].find?
    fun a => a.value = t.taskType

/-- The message of a task: its payload is the context of its execution. -/
def AutomationTask.message (t : AutomationTask) : Option Message :=
  t.notification.bind fun actionType =>
    let eventId :=
      if isPrewarningMessage actionType then "" else strip ((t.payload.eventId).getD t.entityId)
    (notificationEffectKey actionType eventId t.dedupeKey t.payload.recoveryStartedAt
      { deviceId := t.payload.deviceId.getD t.entityId, createdAt := t.payload.createdAt.getD t.createdAt
        sampleTime := t.payload.sampleTime.getD t.createdAt, transition :=
          t.payload.transition.getD {}
        recoveredAt := t.payload.recoveredAt }).map fun key => ⟨actionType, eventId, key⟩

/-- How one execution of a notification ends. -/
inductive Delivery
  /-- The device has an event that is not closed. -/
  | suppressed
  | alreadySent
  /-- No recipient is found: nothing is sent. -/
  | unreachable
  | failed (outcomeUnknown : Bool)
  /-- The process ends behind the request. -/
  | lost
  | sent
deriving DecidableEq

/-- The sender is called. -/
def Delivery.calls : Delivery → Bool
  | failed _ | lost | sent => true
  | _ => false

/-- Insert or replace the marker of a key. -/
def putMarker (key : String) (m : EffectMarker) : List (String × EffectMarker) →
    List (String × EffectMarker)
  | [] => [(key, m)]
  | (k, old) :: rest => if k = key then (k, m) :: rest else (k, old) :: putMarker key m rest

def succeeded (m : Option EffectMarker) : Bool := m.any (·.status = "SUCCEEDED")

/-- `_handle_prewarning_notification`, on the markers. -/
def deliverPrewarning (effects : List (String × EffectMarker)) (m : Message) (d : Delivery) :
    Except PyError (List (String × EffectMarker)) :=
  let put := fun status => putMarker m.key { status, actionType := some m.actionType.value } effects
  match d with
  | .suppressed => .ok effects
  | .alreadySent =>
    if succeeded (effects.lookup m.key) then .ok effects else .error (.runtimeError "not sent yet")
  | d =>
    if succeeded (effects.lookup m.key) then .error (.runtimeError "already sent")
    else match d with
    | .unreachable =>
      if (effects.lookup m.key).isSome then .ok (put "FAILED")
      else .error (.keyError ("unknown prewarning effect: " ++ m.key))
    | .failed _ => .ok (put "FAILED")
    | .lost => .ok (put "PENDING")
    | _ => .ok (put "SUCCEEDED")

/-- `handle_notification_action` for an alarm or a recovery, on the events. -/
def deliverEvent (events : List EnvironmentEvent) (m : Message) (at_ : DateTime) (d : Delivery) :
    Except PyError (List EnvironmentEvent) :=
  match eventById events m.eventId with
  | none => .error (.runtimeError ("local environment event is missing: " ++ m.eventId))
  | some e =>
    if ¬ truthy e.payload.feishuRecordId then
      .error (.runtimeError "event projection is not bound; notification will retry after CREATE")
    else
      let pending := markExternalEffectPending events m.eventId m.key m.actionType.value at_
      match d with
      | .suppressed => .error (.runtimeError "only a prewarning is suppressed")
      | .alreadySent =>
        if succeeded (e.payload.feishuExternalEffects.lookup m.key) then .ok events
        else .error (.runtimeError "not sent yet")
      | d =>
        if succeeded (e.payload.feishuExternalEffects.lookup m.key) then
          .error (.runtimeError "already sent")
        else match pending, d with
        | _, .unreachable => markExternalEffectFailed events m.eventId m.key "recipient" "FAILED"
        | .error err, _ => .error err
        | .ok events', .failed outcomeUnknown =>
          markExternalEffectFailed events' m.eventId m.key "send" (if outcomeUnknown then "UNKNOWN"
            else "FAILED")
        | .ok events', .lost => .ok events'
        | .ok events', _ => markExternalEffectSucceeded events' m.eventId m.key at_

/-- One execution of a message. -/
def World.deliver (w : World) (m : Message) (at_ : DateTime) (d : Delivery) :
    Except PyError World :=
  if isPrewarningMessage m.actionType then
    (deliverPrewarning w.effects m d).map fun effects => { w with effects }
  else
    (deliverEvent w.service.events m at_ d).map fun events =>
      { w with service := { w.service with events } }

/-! ### The writes behind an execution -/

/-- `_persist_prewarning_outcomes`, for one execution that succeeded. -/
def persistPrewarningOutcome (alarms : String → Option AlarmState) (deviceId : String)
    (recovery : Bool) (taskId messageId : Option String) : String → Option AlarmState :=
  match alarms deviceId with
  | none => alarms
  | some st =>
    Function.update alarms deviceId (some
      (if recovery then
        { st with prewarningRecoveryTaskId := taskId <|> st.prewarningRecoveryTaskId
                  prewarningRecoveryMessageId := messageId <|> st.prewarningRecoveryMessageId }
      else
        { st with prewarningNotifyTaskId := taskId <|> st.prewarningNotifyTaskId
                  prewarningMessageId := messageId <|> st.prewarningMessageId }))

/-- The emissions of a handled sample. -/
def SampleOutput.emissions (out : SampleOutput) (i : SampleInput) : List Emission :=
  (out.actions.filter fun a => a.kind = .notification).map fun a =>
    ⟨a, i.notificationContext out.transition⟩

/-- The emissions of an attempt. -/
def reconcileEmissions : Except PyError (Option ReconcileOutput) → List Emission
  | .ok (some out) => out.notifications.map fun a => ⟨a, out.context⟩
  | _ => []

/-! ### The steps -/

inductive Label
  | sample (i : SampleInput) (out : SampleOutput)
  | outcome (deviceId : String) (recovery : Bool) (taskId messageId : Option String)
  | event (write : EventWrite)
  | task (write : TaskWrite)
  | reconcile (r : ReconcileInput) (answer : Except PyError (Option ReconcileOutput))
  | ensure (eventId : String)
  | deliver (message : Message) (delivery : Delivery)

/-- The emissions of a step. -/
def Label.emissions : Label → List Emission
  | sample i out => out.emissions i
  | reconcile _ answer => reconcileEmissions answer
  | _ => []

/-- A message comes from an action executed inline or from a task. -/
inductive Deliverable (w : World) (m : Message) : Prop
  | inline (e : Emission) : e ∈ w.emitted → e.message = some m → Deliverable w m
  | task (t : AutomationTask) : t ∈ w.service.tasks → t.message = some m → Deliverable w m

inductive Step (cfg : ServiceConfig) (w : World) : Label → World → Prop
  | sample {i : SampleInput} {s' : ServiceState} {out : SampleOutput} :
      handleSample cfg i w.service = .ok (s', some out) →
      Step cfg w (.sample i out) { w with service := s', emitted := w.emitted ++ out.emissions i }
  | outcome (deviceId : String) (recovery : Bool) (taskId messageId : Option String) :
      Step cfg w (.outcome deviceId recovery taskId messageId)
        { w with service := { w.service with
            alarms := persistPrewarningOutcome w.service.alarms deviceId recovery taskId
              messageId } }
  | event {write : EventWrite} {events' : List EnvironmentEvent} :
      write.apply w.service.events = .ok events' →
      Step cfg w (.event write) { w with service := { w.service with events := events' } }
  | task {write : TaskWrite} {tasks' : List AutomationTask} :
      write.apply w.service.tasks = .ok tasks' →
      Step cfg w (.task write) { w with service := { w.service with tasks := tasks' } }
  /-- The scheduler hands over a row it has claimed, by its type. -/
  | reconcile {r : ReconcileInput} {row : AutomationTask} :
      row ∈ w.service.tasks → row.taskType = reconcileType → SameTask row r.task →
      Step cfg w (.reconcile r (reconcileAlarmEventTask cfg r w.service).2)
        { w with service := (reconcileAlarmEventTask cfg r w.service).1
                 emitted :=
                   w.emitted ++ reconcileEmissions (reconcileAlarmEventTask cfg r w.service).2 }
  | ensure {a : RuntimeActivation} {area : String} {now : DateTime} {eventId : String} {s' : ServiceState} :
      ensureEventReconciliation cfg a area now eventId w.service = .ok s' →
      Step cfg w (.ensure eventId) { w with service := s' }
  | deliver {m : Message} {at_ : DateTime} {d : Delivery} {w' : World} :
      Deliverable w m → w.deliver m at_ d = .ok w' → Step cfg w (.deliver m d) w'

/-- Everything empty. -/
def World.empty : World := {}

/-- The evaluations of a run: the device and the time. -/
def Label.evaluation : Label → Option (String × DateTime)
  | .sample i _ => some (i.deviceId, i.now)
  | _ => none

/-- Each device is evaluated at strictly increasing times. -/
def Increasing (ls : List Label) : Prop :=
  (ls.filterMap Label.evaluation).Pairwise fun a b => a.1 = b.1 → a.2.instant < b.2.instant

instance (ls : List Label) : Decidable (Increasing ls) := by
  unfold Increasing
  infer_instance

end TemperatureMonitor
