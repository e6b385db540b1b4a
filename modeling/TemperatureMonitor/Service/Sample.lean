/-
# One sample through the local unit of work

`MonitorApplicationService._handle_sample` up to the commit of its local
transaction: the state machine, the advisory, the projection of the actions
onto the task and event stores, the durable tasks armed before any external
effect, and the saved alarm state. The evaluation of the sample and the gates
of the moment come with the input. What an exception leaves is the state
before: the unit is atomic.
-/
import TemperatureMonitor.Service.Actions
import TemperatureMonitor.Store.Events
import TemperatureMonitor.Store.TaskRows

namespace TemperatureMonitor

/-- What a deployed service is made with. -/
structure ServiceConfig where
  machine : AlarmStateMachine
  emitNotifications : Bool
  /-- `str.upper`. -/
  upper : String → String
  /-- `datetime.fromisoformat`, `none` where it raises. -/
  fromisoformat : String → Option DateTime
  /-- The results of `uuid4().hex`, in the order they are drawn. -/
  uuid : ℕ → String
  /-- The digest in the effect key of an update. -/
  digest : UpdateMaterial → String

/-- The repositories, and how many uuids have been drawn. -/
structure ServiceState where
  alarms : String → Option AlarmState := fun _ => none
  latest : String → Option DateTime := fun _ => none
  tasks : List AutomationTask := []
  events : List EnvironmentEvent := []
  drawn : ℕ := 0

/-- The notification flags. -/
structure NotifyFlags where
  alarm : Bool := true
  recovery : Bool := true
  prewarning : Bool := true
  prewarningRecovery : Bool := true

/-- The mode and the gates of the moment. -/
structure Gates where
  activation : RuntimeActivation := { mode := "active" }
  /-- `_active_event_writes_enabled` of the device. -/
  writesEnabled : Bool := true
  flags : NotifyFlags := {}

/-- `_active_notification_enabled`. -/
def Gates.notificationEnabled (g : Gates) (t : AlarmActionType) : Bool :=
  g.writesEnabled && match t with
    | .notifyAlarm => g.flags.alarm
    | .notifyRecovery => g.flags.recovery
    | .notifyPrewarning => g.flags.prewarning
    | .notifyPrewarningRecovery => g.flags.prewarningRecovery
    | _ => false

/-- One call of `_handle_sample`. -/
structure SampleInput extends Gates where
  sample : MonitorSample
  result : MonitorResult
  areaId : String := ""
  now : DateTime
  schedulerTaskId : Option String := none
  unclosed : Option UnclosedLookup := none

def SampleInput.deviceId (i : SampleInput) : String := i.sample.deviceId

/-- `normalize_device_id`. -/
def normalizeDeviceId (upper : String → String) (deviceId : String) : Option String :=
  if upper (strip deviceId) = "" then none else some (upper (strip deviceId))

/-- `normalize_device_id(device_id) or device_id`. -/
def normalizedDevice (upper : String → String) (deviceId : String) : String :=
  (normalizeDeviceId upper deviceId).getD deviceId

/-! ### The local projection -/

/-- What the projection works on. -/
structure Local where
  tasks : List AutomationTask
  events : List EnvironmentEvent
  drawn : ℕ
  next : AlarmState

/-- `_finish_or_skip_task`: a task that is gone or finished is left alone. -/
def finishOrSkipTask (tasks : List AutomationTask) (taskId : String) (createdAt : DateTime)
    (schedulerTaskId : Option String) : List AutomationTask :=
  if some taskId = schedulerTaskId then tasks
  else match cancelTask tasks taskId createdAt with
    | .ok tasks' => tasks'
    | .error _ => tasks

/-- `ENV:<device>:<violation start>`. -/
def eventKey (deviceId : String) (start : DateTime) : String :=
  "ENV:" ++ deviceId ++ ":" ++ start.isoformat

/-- `VERIFY_RECOVERY:<device>:<event>:<recovery start>`. -/
def verifyRecoveryKey (deviceId alarmId : String) (start : DateTime) : String :=
  "VERIFY_RECOVERY:" ++ deviceId ++ ":" ++ alarmId ++ ":" ++ start.isoformat

/-- `_max_number`. -/
def maxNumber : Option ℚ → Option ℚ → Option ℚ
  | some a, some b => some (max a b)
  | a, b => a <|> b

section Project

variable (cfg : ServiceConfig) (i : SampleInput) (tr : StateTransition)

/-- The task of a SCHEDULE_TASK action. -/
def scheduleSpec (a : ApplicationAction) : TaskSpec :=
  { taskType := a.taskType.getD a.actionType.value, entityType := a.entityType.getD "DEVICE"
    entityId := a.entityId.getD i.deviceId, dueAt := a.runAt.getD i.now
    payload :=
      { a.payload with deviceId := some i.deviceId, sampleTime := some i.sample.sampleTime }
    dedupeKey := a.dedupeKey, createdAt := i.now }

/-- A SCHEDULE_TASK action. -/
def projectSchedule (a : ApplicationAction) (l : Local) : Local :=
  let made := createOrGet l.tasks i.activation (cfg.uuid l.drawn) (scheduleSpec i a)
  { l with tasks := made.1, drawn := l.drawn + 1, next := { l.next with pendingTaskId := some made.2.taskId } }

/-- The task that confirms a recovery. -/
def recoverySpec (next : AlarmState) : TaskSpec :=
  let started := next.recoveryStartedAt.getD i.now
  { taskType := "VERIFY_RECOVERY", entityType := "DEVICE", entityId := i.deviceId
    dueAt := started.add cfg.machine.recoveryAfter
    payload := { deviceId := some i.deviceId, sampleTime := some i.sample.sampleTime
                 alarmId := next.activeAlarmId }
    dedupeKey := some (verifyRecoveryKey i.deviceId (next.activeAlarmId.getD "unknown") started)
    createdAt := i.now }

/-- `_schedule_recovery_task`. -/
def scheduleRecoveryTask (l : Local) : Local :=
  if cfg.machine.recoveryAfter ≤ 0 then l
  else
    let made := createOrGet l.tasks i.activation (cfg.uuid l.drawn) (recoverySpec cfg i l.next)
    { l with tasks := made.1, drawn := l.drawn + 1, next := { l.next with pendingTaskId := some made.2.taskId } }

/-- A CANCEL_VERIFY_TASK or COMPLETE_VERIFY_TASK action. -/
def projectFinish (l : Local) : Local :=
  { l with
    tasks := match tr.previous.pendingTaskId with
      | some taskId => finishOrSkipTask l.tasks taskId i.now i.schedulerTaskId
      | none => l.tasks
    next := { l.next with pendingTaskId := none } }

/-- The payload of a new event. -/
def newEventPayload (next : AlarmState) : EventPayload :=
  { createdMode := some i.activation.mode
    activeEpoch := i.activation.activeEpoch
    createdAt := some i.now
    sampleTime := some i.sample.sampleTime
    violationStartedAt := next.violationStartedAt
    area := some i.areaId
    temperature := i.sample.temperature
    humidity := i.sample.humidity
    peakTemperature := i.sample.temperature
    peakHumidity := i.sample.humidity
    feishuBindingStatus := if i.writesEnabled then some "PENDING" else none
    feishuCreateAttempted := some false }

/-- A CREATE_ALARM_EVENT action. -/
def projectCreate (l : Local) : Except PyError Local :=
  match createOrGetActive l.events (cfg.uuid l.drawn) i.deviceId
      (eventKey i.deviceId (l.next.violationStartedAt.getD i.now))
        i.now (newEventPayload i l.next) with
  | .error e => .error e
  | .ok (events, event) =>
    let done : List EnvironmentEvent → Local := fun events =>
      { l with events, drawn := l.drawn + 1, next := { l.next with activeAlarmId := some event.eventId } }
    if i.writesEnabled then
      match markExternalBindingPending events event.eventId i.now with
      | .error e => .error e
      | .ok events' => .ok (done events')
    else .ok (done events)

/-- An UPDATE_ALARM_EVENT action: the measured and the peak values. -/
def projectUpdate (a : ApplicationAction) (l : Local) : Except PyError Local :=
  match a.alarmId <|> tr.previous.activeAlarmId with
  | none => .ok l
  | some eventId =>
    match eventById l.events eventId with
    | none => .ok l
    | some event =>
      match patchExternalProjection l.events eventId fun p =>
          { p with
            temperature := i.sample.temperature
            humidity := i.sample.humidity
            peakTemperature := maxNumber event.payload.peakTemperature i.sample.temperature
            peakHumidity := maxNumber event.payload.peakHumidity i.sample.humidity } with
      | .error e => .error e
      | .ok events => .ok { l with events }

/-- A MARK_ALARM_RECOVERED action. -/
def projectRecovered (a : ApplicationAction) (l : Local) : Except PyError Local :=
  match a.alarmId <|> tr.previous.activeAlarmId with
  | none => .ok l
  | some eventId =>
    let marked := if i.writesEnabled then
        patchExternalProjection l.events eventId fun p =>
          { p with feishuRecoveryPending := some true, feishuRecoveredAt := some i.now }
      else .ok l.events
    match marked with
    | .error e => .error e
    | .ok events =>
      match markRecovered events eventId i.now with
      | .error e => .error e
      | .ok events' => .ok { l with events := events' }

/-- One action of the projection. -/
def projectAction (a : ApplicationAction) (l : Local) : Except PyError Local :=
  match a.actionType with
  | .createVerifyTask => .ok (projectSchedule cfg i a l)
  | .startRecovery => .ok (scheduleRecoveryTask cfg i l)
  | .cancelVerifyTask | .completeVerifyTask => .ok (projectFinish i tr l)
  | .createAlarmEvent => projectCreate cfg i l
  | .updateAlarmEvent => projectUpdate i tr a l
  | .markAlarmRecovered => projectRecovered i tr a l
  | _ => .ok l

def projectActions : List ApplicationAction → Local → Except PyError Local
  | [], l => .ok l
  | a :: rest, l =>
    match projectAction cfg i tr a l with
    | .error e => .error e
    | .ok l' => projectActions rest l'

/-- The recovery task of a recovery that is left, by whatever action. -/
def leaveRecovery (actions : List ApplicationAction) (l : Local) : Local :=
  match tr.previous.pendingTaskId with
  | none => l
  | some taskId =>
    if (tr.previous.state = .recovery ∧ tr.next.state ≠ .recovery) ∧
        ¬ actions.any fun a =>
          a.actionType = .cancelVerifyTask || a.actionType = .completeVerifyTask then
      { l with
        tasks := finishOrSkipTask l.tasks taskId i.now i.schedulerTaskId
        next := { l.next with pendingTaskId := none } }
    else l

/-- `_project_local_actions`. -/
def projectLocalActions (actions : List ApplicationAction) (s : ServiceState) :
    Except PyError Local :=
  projectActions cfg i tr actions (leaveRecovery i tr actions ⟨s.tasks, s.events, s.drawn, tr.next⟩)

end Project

/-! ### Arming the durable tasks -/

/-- The local event of a transition. -/
def StateTransition.eventId (tr : StateTransition) : Option String :=
  tr.next.activeAlarmId <|> tr.previous.activeAlarmId

/-- The start a reconciliation task is given. -/
def reconciliationStart (tr : StateTransition) (createdAt : DateTime) : DateTime :=
  (tr.next.violationStartedAt <|> tr.next.alarmStartedAt).getD createdAt

def reconciliationPayload (upper : String → String) (tr : StateTransition) (i : SampleInput) :
    TaskPayload :=
  { deviceId := some (normalizedDevice upper i.deviceId)
    localEventId := tr.eventId
    area := some i.areaId
    sampleTime := some i.sample.sampleTime
    temperature := i.sample.temperature
    humidity := i.sample.humidity
    peakTemperature := i.sample.temperature
    peakHumidity := i.sample.humidity
    temperatureStatus := some i.result.temperatureStatus
    humidityStatus := some i.result.humidityStatus
    onlineStatus := i.sample.onlineStatus
    dataQuality := i.sample.dataQuality
    standardId := i.result.standardId
    standardRevision := i.result.standardRevision
    standardSource := i.result.standardSource
    violationStartedAt := some (reconciliationStart tr i.now)
    alarmStartedAt := tr.next.alarmStartedAt
    retryAttempt := 0 }

/-- `RECONCILE_ALARM_EVENT:<event>`. -/
def reconcileKey (eventId : Option String) : String :=
  "RECONCILE_ALARM_EVENT:" ++ eventId.getD "None"

def reconciliationSpec (upper : String → String) (tr : StateTransition)
    (i : SampleInput) : TaskSpec :=
  { taskType := "RECONCILE_ALARM_EVENT", entityType := "DEVICE",
    entityId := normalizedDevice upper i.deviceId, dueAt := i.now,
    payload := reconciliationPayload upper tr i, dedupeKey := some (reconcileKey tr.eventId),
    createdAt := i.now }

/-- One task for each event action. -/
def armReconciliations (cfg : ServiceConfig) (tr : StateTransition) (i : SampleInput) :
    List ApplicationAction → TaskStore → Except PyError (TaskStore × List String)
  | [], store => .ok (store, [])
  | _ :: rest, store =>
    match createOrGetUnfinished store.tasks i.activation (cfg.uuid store.drawn)
        (reconciliationSpec cfg.upper tr i) (reconcileKey tr.eventId) with
    | .error e => .error e
    | .ok (tasks, task) =>
      match armReconciliations cfg tr i rest ⟨tasks, store.drawn + 1⟩ with
      | .error e => .error e
      | .ok (store', ids) => .ok (store', task.taskId :: ids)

/-- `_prepare_event_reconciliation_tasks`. -/
def prepareEventReconciliationTasks (cfg : ServiceConfig) (tr : StateTransition) (i : SampleInput)
    (actions : List ApplicationAction) (store : TaskStore) :
    Except PyError (TaskStore × List String) :=
  if i.writesEnabled then
    armReconciliations cfg tr i (actions.filter fun a => isEventAction a.actionType) store
  else .ok (store, [])

/-- Give the ids, in order, to the actions that take one. -/
def attachIds (takes : ApplicationAction → Bool)
    (give : String → ApplicationAction → ApplicationAction) :
    List ApplicationAction → List String → List ApplicationAction
  | [], _ => []
  | actions, [] => actions
  | a :: rest, id :: ids =>
    if takes a then give id a :: attachIds takes give rest ids
    else a :: attachIds takes give rest (id :: ids)

/-- `_attach_reconciliation_task_metadata`. -/
def attachReconciliationTaskMetadata (actions : List ApplicationAction) (taskIds : List String)
    (eventId : Option String) : List ApplicationAction :=
  attachIds (fun a => isEventAction a.actionType) (fun id a =>
    let localEventId := a.alarmId <|> eventId
    { a with
      taskId := some id
      dedupeKey := if localEventId.isSome then some (reconcileKey localEventId) else a.dedupeKey
      alarmId := localEventId }) actions taskIds

/-- `_attach_notification_task_metadata`. -/
def attachNotificationTaskMetadata (actions : List ApplicationAction) (taskIds : List String)
    (eventId : Option String) : List ApplicationAction :=
  attachIds (fun a => a.kind = .notification) (fun id a =>
    { a with taskId := some id, alarmId := a.alarmId <|> eventId }) actions taskIds

/-- What a notification task is prepared from. -/
structure NotificationContext where
  deviceId : String
  createdAt : DateTime
  sampleTime : DateTime
  transition : TransitionContext
  recoveredAt : Option DateTime := none

/-- `_transition_dict`. -/
def StateTransition.context (tr : StateTransition) : TransitionContext :=
  { reason := tr.reason
    violationStartedAt := tr.next.violationStartedAt <|> tr.previous.violationStartedAt
    alarmStartedAt := tr.next.alarmStartedAt <|> tr.previous.alarmStartedAt
    recoveryStartedAt := tr.next.recoveryStartedAt <|> tr.previous.recoveryStartedAt
    activeAlarmId := tr.eventId }

/-- The context of a sample's notifications. -/
def SampleInput.notificationContext (i : SampleInput) (tr : StateTransition) :
    NotificationContext :=
  { deviceId := i.deviceId, createdAt := i.now, sampleTime := i.sample.sampleTime, transition := tr.context }

/-- The payload of a notification task. -/
def notificationPayload (c : NotificationContext) (a : ApplicationAction)
    (eventId : Option String) : TaskPayload :=
  let event := if isPrewarningMessage a.actionType then none else eventId
  { a.payload with
    deviceId := some c.deviceId
    createdAt := some c.createdAt
    sampleTime := some c.sampleTime
    transition := some c.transition
    eventId := event
    alarmId := event
    actionType := some a.actionType
    dedupeKey := a.dedupeKey
    retryAttempt := 0
    recoveryStartedAt := if a.actionType = .notifyRecovery then
        a.payload.recoveryStartedAt <|> c.transition.recoveryStartedAt
      else a.payload.recoveryStartedAt
    recoveredAt := if a.actionType = .notifyRecovery then c.recoveredAt <|> some c.createdAt
      else c.recoveredAt }

/-- The task of a notification action. -/
def notificationSpec (c : NotificationContext) (a : ApplicationAction) (key : String) : TaskSpec :=
  { taskType := a.actionType.value
    entityType := if isPrewarningMessage a.actionType then "DEVICE" else "EVENT"
    entityId := if isPrewarningMessage a.actionType then c.deviceId else a.alarmId.getD ""
    dueAt := c.createdAt, payload := notificationPayload c a a.alarmId
    dedupeKey := some key, createdAt := c.createdAt }

/-- `_prepare_notification_tasks_from_context`, over the notification actions. -/
def prepareNotificationTasks (cfg : ServiceConfig) (g : Gates) (c : NotificationContext) :
    List ApplicationAction → TaskStore → TaskStore × List String
  | [], store => (store, [])
  | a :: rest, store =>
    match a.dedupeKey with
    | none => prepareNotificationTasks cfg g c rest store
    | some key =>
      if g.notificationEnabled a.actionType = false ∨
          (isPrewarningMessage a.actionType = false ∧ truthy a.alarmId = false) ∨ key = "" then
        prepareNotificationTasks cfg g c rest store
      else
        let made :=
          createOrGet store.tasks g.activation (cfg.uuid store.drawn) (notificationSpec c a key)
        let others := prepareNotificationTasks cfg g c rest ⟨made.1, store.drawn + 1⟩
        (others.1, made.2.taskId :: others.2)

/-- `_attach_prewarning_task_metadata`. -/
def attachPrewarningTaskMetadata : List ApplicationAction → List String → AlarmState → AlarmState
  | [], _, next => next
  | _, [], next => next
  | a :: rest, id :: ids, next =>
    if a.kind = .notification ∧ isPrewarningMessage a.actionType then
      attachPrewarningTaskMetadata rest ids
        (if a.actionType = .notifyPrewarning then { next with prewarningNotifyTaskId := some id }
         else { next with prewarningRecoveryTaskId := some id })
    else attachPrewarningTaskMetadata rest (id :: ids) next

/-! ### The unit of work -/

/-- What the unit decides and leaves to the executor. -/
structure SampleOutput where
  transition : StateTransition
  actions : List ApplicationAction
  eventTaskIds : List String
  notificationTaskIds : List String

/-- The state a sample finds. -/
def ServiceState.alarm (s : ServiceState) (deviceId : String) : AlarmState :=
  (s.alarms deviceId).getD (AlarmState.ofDevice deviceId)

/-- The transition of a sample: the state machine, then the advisory. -/
def sampleTransition (cfg : ServiceConfig) (i : SampleInput) (s : ServiceState) :
    Except PyError StateTransition :=
  match cfg.machine.apply i.result (s.alarm i.deviceId) i.now with
  | .error e => .error e
  | .ok tr => .ok (applyPrewarningTransition i.result i.now (cfg.uuid s.drawn) i.unclosed tr)

/-- The local unit of work of a transition. -/
def sampleUnit (cfg : ServiceConfig) (i : SampleInput) (tr : StateTransition) (s : ServiceState) :
    Except PyError (ServiceState × SampleOutput) :=
  match mapActions cfg.emitNotifications tr tr.actions with
  | .error e => .error e
  | .ok mapped =>
    match projectLocalActions cfg i tr mapped s with
    | .error e => .error e
    | .ok l =>
      let tr := { tr with next := l.next }
      match enrichActions cfg.digest tr ⟨i.sample, i.result, i.now, i.schedulerTaskId⟩ mapped with
      | .error e => .error e
      | .ok enriched =>
        match prepareEventReconciliationTasks cfg tr i enriched ⟨l.tasks, l.drawn⟩ with
        | .error e => .error e
        | .ok (armed, eventTaskIds) =>
          let actions := attachReconciliationTaskMetadata enriched eventTaskIds tr.eventId
          let notified := prepareNotificationTasks cfg i.toGates (i.notificationContext tr)
            (actions.filter fun a => a.kind = .notification) armed
          let actions := attachNotificationTaskMetadata actions notified.2 tr.eventId
          let next := attachPrewarningTaskMetadata actions notified.2 tr.next
          .ok
            ({ alarms := Function.update s.alarms i.deviceId (some next)
               latest := Function.update s.latest i.deviceId (some i.sample.sampleTime)
               tasks := notified.1.tasks
               events := l.events
               drawn := notified.1.drawn },
             { transition := { tr with next := next }, actions, eventTaskIds,
               notificationTaskIds := notified.2 })

/-- An observation older than the latest one is ignored. -/
def isOld (i : SampleInput) (s : ServiceState) : Bool :=
  (s.latest i.deviceId).any fun t => i.sample.sampleTime.epochMilliseconds < t.epochMilliseconds

/-- `_handle_sample`, to the commit of its local unit. -/
def handleSample (cfg : ServiceConfig) (i : SampleInput) (s : ServiceState) :
    Except PyError (ServiceState × Option SampleOutput) :=
  if isOld i s then .ok (s, none)
  else
    match sampleTransition cfg i s with
    | .error e => .error e
    | .ok tr =>
      match sampleUnit cfg i tr { s with drawn := s.drawn + 1 } with
      | .error e => .error e
      | .ok (s', out) => .ok (s', some out)

end TemperatureMonitor
