/-
# A reconciliation attempt

`_reconcile_alarm_event_task` up to the execution of its event actions: the
checks on the durable task, the actions for what is still owed of the event,
their identities, and the notification tasks. An attempt that raises leaves
its task rescheduled. `ensureEventReconciliation` is the scanner that arms
such a task again for an event that waits for its record.
-/
import TemperatureMonitor.Service.Sample
import TemperatureMonitor.Store.Binding

namespace TemperatureMonitor

/-- One call of `reconcile_alarm_event_task`. -/
structure ReconcileInput extends Gates where
  task : AutomationTask
  /-- The configured device, and its area. -/
  deviceId : String
  deviceArea : String := ""
  now : DateTime
  /-- The backoff of a retry, by its attempt number. -/
  retryDelay : ℤ → ℤ := fun _ => 30000000

/-- What an attempt leaves to the executor: the event actions; its
notifications are sent through their tasks. -/
structure ReconcileOutput where
  context : NotificationContext
  actions : List ApplicationAction := []
  notifications : List ApplicationAction := []

/-! ### The checks -/

/-- The text behind the first colon, or the whole where there is none. -/
def afterColon (l : List Char) : List Char :=
  match l.dropWhile (· ≠ ':') with
  | [] => l
  | _ :: rest => rest

/-- The start of an event's cycle: the recorded one, or the one in its key. -/
def EnvironmentEvent.localStart (cfg : ServiceConfig) (e : EnvironmentEvent) : Option DateTime :=
  e.payload.violationStartedAt <|>
    if "ENV:".toList.isPrefixOf e.eventKey.toList then
      cfg.fromisoformat (String.ofList (afterColon (afterColon e.eventKey.toList)))
    else none

/-- `_same_instant`: to the millisecond. -/
def sameInstant (s t : DateTime) : Bool := s.epochMilliseconds = t.epochMilliseconds

def cycleStartMismatch : PyError :=
  .valueError "reconciliation cycle start mismatch; manual review required"

/-- The start of the cycle of the task's local event. -/
def checkLocalEvent (cfg : ServiceConfig) (r : ReconcileInput) (device : String)
    (e : EnvironmentEvent) : Except PyError DateTime :=
  if normalizeDeviceId cfg.upper e.deviceId ≠ some device then
    .error (.valueError "reconciliation local event/device mismatch")
  else match e.localStart cfg with
  | none => .error (.valueError "reconciliation cycle start is unknown; manual review required")
  | some start =>
    if r.task.payload.violationStartedAt.any fun expected => !sameInstant expected start then
      .error cycleStartMismatch
    else .ok start

/-- A bound event that owes neither its recovery nor an update. -/
def EventPayload.projected (p : EventPayload) : Bool :=
  truthy p.feishuRecordId && p.feishuRecoveryPending ≠ some true &&
    p.feishuUpdatePending ≠ some true

/-- `str(task.payload.get("local_event_id") or "").strip() or None`. -/
def TaskPayload.localEvent (p : TaskPayload) : Option String :=
  match p.localEventId with
  | none => none
  | some id => if blank id then none else some (strip id)

/-! ### The actions -/

def EnvironmentEvent.recoveryPending (e : EnvironmentEvent) : Bool :=
  e.payload.feishuRecoveryPending = some true

/-- The record of an unbound event, or an update of it. -/
def sourceAction (device : String) (localEventId : Option String)
    (event : Option EnvironmentEvent) : AlarmAction :=
  { actionType := if event.any fun e => !truthy e.payload.feishuRecordId then .createAlarmEvent
      else .updateAlarmEvent
    deviceId := device, alarmId := localEventId }

/-- What is still owed: the record or an update of it, and the recovery. -/
def owedActions (device : String) (localEventId : Option String) (event : Option EnvironmentEvent) :
    List AlarmAction :=
  let source := sourceAction device localEventId event
  let recovery : AlarmAction := { source with actionType := .markAlarmRecovered }
  match event with
  | none => [source]
  | some e =>
    if e.recoveryPending then
      if truthy e.payload.feishuRecordId ∧ e.payload.feishuUpdatePending ≠ some true then [recovery]
      else [source, recovery]
    else [source]

/-- `_recovery_started_at_from_context`. -/
def NotificationContext.recoveryStart (c : NotificationContext) : DateTime :=
  (c.transition.recoveryStartedAt <|> c.recoveredAt).getD c.createdAt

/-- The sample and the result of the context, from the task's payload and the
values of a pending update. -/
def reconcileSample (r : ReconcileInput) (device : String) (event : Option EnvironmentEvent) :
    MonitorSample × ResultDict :=
  let p := r.task.payload
  let snapshot := event.bind fun e =>
    if e.payload.feishuUpdatePending = some true then
      some (e.payload.feishuUpdateSnapshot.getD ⟨none, none, none, none⟩)
    else none
  let sampleTime := p.sampleTime.getD r.now
  match snapshot with
  | none =>
    (⟨device, sampleTime, p.temperature, p.humidity, p.onlineStatus, p.dataQuality⟩,
      .stored p.temperatureStatus p.humidityStatus p.standardId p.standardRevision p.standardSource)
  | some u =>
    (⟨device, sampleTime, u.temperature, u.humidity, p.onlineStatus, p.dataQuality⟩,
      .stored u.temperatureStatus u.humidityStatus p.standardId p.standardRevision p.standardSource)

/-- `_enrich_reconciliation_actions`, for one action. -/
def enrichReconciliation (digest : UpdateMaterial → String) (c : NotificationContext)
    (facts : MonitorSample × ResultDict) (taskId : String) (localEventId : Option String)
    (a : ApplicationAction) : Except PyError ApplicationAction :=
  match a.alarmId <|> localEventId with
  | none => .ok a
  | some alarmId =>
    if a.kind = .notification then
      if a.actionType = .notifyAlarm then
        .ok { a with alarmId := some alarmId, taskId := none, dedupeKey := some (notifyAlarmKey alarmId)
                     payload := { a.payload with notificationType := some "ALARM" } }
      else
        .ok { a with alarmId := some alarmId, taskId := none
                     dedupeKey := some (notifyRecoveryKey alarmId c.recoveryStart)
                     payload := { a.payload with notificationType := some "RECOVERY"
                                                 recoveryStartedAt := some c.recoveryStart } }
    else if isEventAction a.actionType then
      match externalEffectKey digest a.actionType alarmId (some c.sampleTime)
          (c.recoveredAt <|> some c.createdAt) facts.1 facts.2 with
      | .error e => .error e
      | .ok key => .ok { a with alarmId := some alarmId, taskId := some taskId
                                dedupeKey := some (reconcileKey (some alarmId))
                                payload := { a.payload with externalEffectKey := some key } }
    else .ok a

def enrichReconciliations (digest : UpdateMaterial → String) (c : NotificationContext)
    (facts : MonitorSample × ResultDict) (taskId : String) (localEventId : Option String) :
    List ApplicationAction → Except PyError (List ApplicationAction)
  | [] => .ok []
  | a :: rest =>
    match enrichReconciliation digest c facts taskId localEventId a with
    | .error e => .error e
    | .ok enriched =>
      match enrichReconciliations digest c facts taskId localEventId rest with
      | .error e => .error e
      | .ok others => .ok (enriched :: others)

/-- The context of an attempt. -/
def reconcileContext (r : ReconcileInput) (device : String) (localEventId : Option String)
    (event : Option EnvironmentEvent) (start : Option DateTime) : NotificationContext :=
  { deviceId := device
    createdAt := r.now
    sampleTime := r.task.payload.sampleTime.getD r.now
    transition :=
      { reason := "alarm_event_reconciliation", violationStartedAt := start
        alarmStartedAt := r.task.payload.alarmStartedAt, activeAlarmId := localEventId }
    recoveredAt := event.bind fun e =>
      if e.recoveryPending then e.payload.feishuRecoveredAt <|> e.closedAt else none }

/-- Issue the actions that are owed. -/
def issueReconciliation (cfg : ServiceConfig) (r : ReconcileInput) (device : String)
    (localEventId : Option String) (event : Option EnvironmentEvent) (start : Option DateTime)
    (state : AlarmState) (store : TaskStore) : Except PyError (TaskStore × ReconcileOutput) :=
  let context := reconcileContext r device localEventId event start
  match mapActions cfg.emitNotifications
      { previous := state, next := state, reason := "alarm_event_reconciliation" }
      (owedActions device localEventId event) with
  | .error e => .error e
  | .ok mapped =>
    match enrichReconciliations cfg.digest context (reconcileSample r device event) r.task.taskId
        localEventId mapped with
    | .error e => .error e
    | .ok enriched =>
      let prepared := prepareNotificationTasks cfg r.toGates context
        (enriched.filter fun a => a.kind = .notification) store
      let attached := attachNotificationTaskMetadata enriched prepared.2 localEventId
      .ok (prepared.1, { context, actions := attached.filter fun a => a.kind ≠ .notification,
                         notifications := attached.filter fun a => a.kind = .notification })

/-! ### The attempt -/

/-- The device of the task, where it is the configured one. -/
def ReconcileInput.device (cfg : ServiceConfig) (r : ReconcileInput) : Option String :=
  match normalizeDeviceId cfg.upper r.task.entityId with
  | none => none
  | some device =>
    if normalizeDeviceId cfg.upper r.deviceId = some device then some device else none

/-- An event of before the marker may have been posted: it is marked so. -/
def attempted (events : List EnvironmentEvent) (event : EnvironmentEvent) : List EnvironmentEvent :=
  if event.payload.feishuCreateAttempted.isNone ∧ ¬ truthy event.payload.feishuRecordId then
    updateEvent events event.eventId (·.patch ProjectionValues.createAttempted.apply)
  else events

/-- A task without a local event: the alarm state must name the cycle. -/
def checkLegacyTask (r : ReconcileInput) (state : Option AlarmState) :
    Except PyError (Option DateTime) :=
  let expected := r.task.payload.violationStartedAt
  if ¬ state.any fun st => st.state = .alarm then
    .error (.valueError "reconciliation has no trustworthy local cycle identity")
  else
    match expected, state.bind fun st => st.violationStartedAt <|> st.alarmStartedAt with
    | some e, some current =>
      if sameInstant e current then .ok expected
      else .error
        (.valueError "reconciliation cycle differs from current alarm; manual review required")
    | _, _ => .ok expected

/-- `_reconcile_alarm_event_task`: the stores it leaves, and its answer; `none`
where nothing is owed. -/
def reconcileAttempt (cfg : ServiceConfig) (r : ReconcileInput) (s : ServiceState) :
    ServiceState × Except PyError (Option ReconcileOutput) :=
  let issue := fun (s : ServiceState) device localEventId event start =>
    match issueReconciliation cfg r device localEventId event start
        ((s.alarms device).getD (AlarmState.ofDevice device)) ⟨s.tasks, s.drawn⟩ with
    | .error e => (s, .error e)
    | .ok (store, out) => ({ s with tasks := store.tasks, drawn := store.drawn }, .ok (some out))
  match r.device cfg with
  | none => (s, .error (.valueError "alarm event reconciliation device mismatch"))
  | some device =>
    let localEventId := r.task.payload.localEvent
    match localEventId.bind (eventById s.events) with
    | some event =>
      match checkLocalEvent cfg r device event with
      | .error e => (s, .error e)
      | .ok start =>
        let s := { s with events := attempted s.events event }
        if event.payload.projected then (s, .ok none)
        else issue s device localEventId (some event) (some start)
    | none =>
      if localEventId.isSome then
        (s, .error (.valueError "reconciliation local event is missing; manual review required"))
      else
        match checkLegacyTask r (s.alarms device) with
        | .error e => (s, .error e)
        | .ok start => issue s device ((s.alarms device).bind (·.activeAlarmId)) none start

/-- `reconcile_alarm_event_task`: an attempt that raises is retried later. -/
def reconcileAlarmEventTask (cfg : ServiceConfig) (r : ReconcileInput) (s : ServiceState) :
    ServiceState × Except PyError (Option ReconcileOutput) :=
  match reconcileAttempt cfg r s with
  | (s', .ok out) => (s', .ok out)
  | (s', .error e) =>
    let payload := retryPayload r.task.payload
    match rescheduleRunning s'.tasks r.task (r.now.add (r.retryDelay payload.retryAttempt))
      r.now payload with
    | .ok tasks => ({ s' with tasks }, .error e)
    | .error e' => (s', .error e')

/-! ### The scanner -/

/-- The task `_ensure_event_reconciliation_tasks` arms for an event. -/
def ensureSpec (cfg : ServiceConfig) (device area : String) (now : DateTime)
    (e : EnvironmentEvent) : TaskSpec :=
  { taskType := reconcileType, entityType := "DEVICE", entityId := device, dueAt := now
    payload :=
      { deviceId := some device
        localEventId := some e.eventId
        area := some (strip (if truthy e.payload.area then e.payload.area.getD "" else area))
        sampleTime := e.payload.sampleTime <|> some e.openedAt
        temperature := e.payload.temperature
        humidity := e.payload.humidity
        violationStartedAt := e.localStart cfg }
    dedupeKey := some (reconcileKey (some e.eventId)), createdAt := now }

/-- `_ensure_event_reconciliation_tasks`, for one event the scan finds; its
markers are written first (`EventWrite.patch`, `EventWrite.bindingPending`). -/
def ensureEventReconciliation (cfg : ServiceConfig) (a : RuntimeActivation) (area : String)
    (now : DateTime) (eventId : String) (s : ServiceState) : Except PyError ServiceState :=
  match eventById s.events eventId with
  | none => .error (unknownEvent eventId)
  | some e =>
    let device := cfg.upper (strip e.deviceId)
    match createOrGetUnfinished s.tasks a (cfg.uuid s.drawn) (ensureSpec cfg device area now e)
        (reconcileKey (some e.eventId)) with
    | .error err => .error err
    | .ok (tasks, _) => .ok { s with tasks, drawn := s.drawn + 1 }

end TemperatureMonitor
