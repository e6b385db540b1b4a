/-
# The work on the events

What runs the event writer: a handled sample with its actions, the worker on a
reconciliation task, and the scan for bindings that are owed. Each is a program
of calls in Active scope, where no gate keeps an action from its handler.
-/
import TemperatureMonitor.Service.EventNotice
import TemperatureMonitor.Service.ReconcileRun

namespace TemperatureMonitor

section Work

variable (cfg : WriterConfig)

/-! ### Executing actions -/

/-- One execution: the type of the action, and how its handler ended. -/
abbrev EventExecution := AlarmActionType × Except WriterFailure Unit

/-- `ActionExecutionStatus.SUCCEEDED`. -/
def EventExecution.succeeded (x : EventExecution) : Bool := x.2.toBool

/-- An action by its handler; those of the verification tasks do nothing. -/
def handlerOf (c : WriterContext) (n : NotificationContext) (a : ApplicationAction) :
    EventProg Unit :=
  if isEventAction a.actionType ∨ a.actionType = .startRecovery then handleAlarmAction cfg a c
  else
    match Emission.message ⟨a, n⟩ with
    | some m =>
      if a.kind ≠ .notification then pure ()
      else if isPrewarningMessage m.actionType then .perform (EventCall.notify m n.createdAt)
      else handleNotification cfg m n.createdAt n.createdAt
    | none => pure ()

/-- `execute`, in Active scope. -/
def executeEvents (c : WriterContext) (n : NotificationContext) : List ApplicationAction →
    EventProg (List EventExecution)
  | [] => pure []
  | a :: rest => do
    let ended ← (handlerOf cfg c n a).captured
    let others ← executeEvents c n rest
    pure ((a.actionType, ended) :: others)

/-! ### A sample -/

/-- The context of a sample's actions. -/
def SampleInput.writerContext (i : SampleInput) (tr : StateTransition) : WriterContext :=
  { createdAt := i.now, sampleTime := i.sample.sampleTime, sample := i.sample, result := .evaluated i.result
    transition := tr.context, areaId := i.areaId }

/-- A task that is gone or no longer unfinished is left alone. -/
def skipped (p : EventProg Unit) : EventProg Unit := tryCatch p fun e =>
  match e with
  | .python (.valueError _) | .python (.keyError _) => pure ()
  | e => throw e

/-- `_finish_successful_tasks`: the tasks are those of the counted actions, in order. -/
def finishSuccessful (counted : AlarmActionType → Bool) (updatedAt : DateTime) :
    List EventExecution → List String → EventProg Unit
  | [], _ | _, [] => pure ()
  | x :: rest, taskId :: taskIds =>
    if counted x.1 then do
      if x.succeeded then skipped (.perform (EventCall.cancel taskId updatedAt)) else pure ()
      finishSuccessful counted updatedAt rest taskIds
    else finishSuccessful counted updatedAt rest (taskId :: taskIds)

/-- A notification of any type. -/
def isNotification (t : AlarmActionType) : Bool := kindOf t = .notification

/-- The executions of a handled sample. -/
def runActions (i : SampleInput) (out : SampleOutput) : EventProg Unit := do
  let executions ← executeEvents cfg (i.writerContext out.transition)
    (i.notificationContext out.transition) out.actions
  finishSuccessful isEventAction i.now executions out.eventTaskIds
  finishSuccessful isNotification i.now executions out.notificationTaskIds

/-- `_handle_sample`. -/
def runSample (i : SampleInput) : EventProg Unit := do
  match ← (.perform (EventCall.localUnit i) : EventProg (Option SampleOutput)) with
  | none => pure ()
  | some out => runActions cfg i out

/-! ### A reconciliation -/

/-- The context of what is owed. -/
def reconcileWriterContext (r : ReconcileInput) (c : NotificationContext)
    (facts : MonitorSample × ResultDict) : WriterContext :=
  { createdAt := c.createdAt, sampleTime := c.sampleTime, recoveredAt := c.recoveredAt, sample := facts.1
    result := facts.2, transition := c.transition
    areaId := strip (if truthy r.task.payload.area then r.task.payload.area.getD ""
      else r.deviceArea) }

/-- `_prepare_notification_tasks_from_context`. -/
def prepareNotices (g : Gates) (c : NotificationContext) : List ApplicationAction →
    EventProg (List String)
  | [] => pure []
  | a :: rest =>
    match a.dedupeKey with
    | none => prepareNotices g c rest
    | some key =>
      if g.notificationEnabled a.actionType = false ∨
          (isPrewarningMessage a.actionType = false ∧ truthy a.alarmId = false) ∨ key = "" then
        prepareNotices g c rest
      else do
        let task ← createTask g.activation (notificationSpec c a key)
        let others ← prepareNotices g c rest
        pure (task.taskId :: others)

/-- The first execution that did not succeed is raised. -/
def raiseFailed : List EventExecution → EventProg Unit
  | [] => pure ()
  | (_, .ok ()) :: rest => raiseFailed rest
  | (_, .error e) :: _ =>
    throw (.python
      (.runtimeError (if e.text = "" then "alarm event reconciliation failed" else e.text)))

/-- What is owed of the event is executed. -/
def runOwed (r : ReconcileInput) (device : String) (localEventId : Option String)
    (event : Option EnvironmentEvent)
    (start : Option DateTime) (state : Option AlarmState) : EventProg Unit := do
  let context := reconcileContext r device localEventId event start
  let facts := reconcileSample r device event
  let known := state.getD (AlarmState.ofDevice device)
  let mapped ← .ofExcept ((mapActions cfg.emitNotifications
    { previous := known, next := known, reason := "alarm_event_reconciliation" }
    (owedActions device localEventId event)).mapError .python)
  let enriched ← .ofExcept
      ((enrichReconciliations cfg.digest context facts r.task.taskId localEventId mapped).mapError
    .python)
  let ids ← prepareNotices r.toGates context (enriched.filter fun a => a.kind = .notification)
  let attached := attachNotificationTaskMetadata enriched ids localEventId
  let executions ← executeEvents cfg (reconcileWriterContext r context facts) context
    (attached.filter fun a => a.kind ≠ .notification)
  raiseFailed executions

/-- An event of before the marker may have been posted. -/
def markAttempted (e : EnvironmentEvent) : EventProg Unit :=
  if e.payload.feishuCreateAttempted.isNone ∧ ¬ truthy e.payload.feishuRecordId then do
    let _ ← writeEvent (.patch e.eventId .createAttempted)
    pure ()
  else pure ()

/-- The attempt for a local event. -/
def runLocal (r : ReconcileInput) (device : String) (e : EnvironmentEvent) : EventProg Unit := do
  let start ← .ofExcept ((checkLocalEvent cfg.toServiceConfig r device e).mapError .python)
  markAttempted e
  if e.payload.projected then pure ()
  else do
    let state ← getAlarm device
    runOwed cfg r device r.task.payload.localEvent (some e) (some start) state

/-- The attempt for a task of before the events: the alarm state must name the cycle. -/
def runLegacy (r : ReconcileInput) (device : String) : EventProg Unit := do
  let state ← getAlarm device
  let start ← .ofExcept ((checkLegacyTask r state).mapError .python)
  runOwed cfg r device (state.bind (·.activeAlarmId)) none start state

/-- `_reconcile_alarm_event_task`. -/
def runAttempt (r : ReconcileInput) : EventProg Unit :=
  match r.device cfg.toServiceConfig with
  | none => throw (.python (.valueError "alarm event reconciliation device mismatch"))
  | some device =>
    match r.task.payload.localEvent with
    | none => runLegacy cfg r device
    | some eventId => do
      match ← getEvent eventId with
      | none =>
        throw (.python
          (.valueError "reconciliation local event is missing; manual review required"))
      | some e => runLocal cfg r device e

/-- `_schedule_event_reconciliation_retry`. -/
def scheduleRetry (r : ReconcileInput) : EventProg Unit :=
  let payload := retryPayload r.task.payload
  .perform (EventCall.reschedule r.task (r.now.add (r.retryDelay payload.retryAttempt))
    r.now payload)

/-- `reconcile_alarm_event_task`. -/
def runReconcile (r : ReconcileInput) : EventProg Unit :=
  tryCatch (runAttempt cfg r) fun e => do
    scheduleRetry r
    throw e

/-- A reconciliation task in the hands of a worker. -/
structure ReconcileWork extends ReconcileInput where
  workerId : String := "scheduler"
  finishedAt : DateTime

/-- The worker's end of a task. -/
def endTask (w : ReconcileWork) (error : Option String) : EventProg Unit :=
  skipped (.perform (EventCall.finishTask w.task.taskId error w.finishedAt w.workerId))

/-- The task from its claim to its end; one that was put back is left. -/
def runReconcileTask (w : ReconcileWork) : EventProg Unit := do
  match ← (runReconcile cfg w.toReconcileInput).captured with
  | .ok () => endTask w none
  | .error e => do
    let row ← getTask w.task.taskId
    if row.any fun t => t.status = .pending then throw e
    else do
      endTask w (some e.text)
      throw e

/-! ### The scan -/

/-- `_ensure_event_reconciliation_tasks` of one tick: the configured devices
with their areas, and the scope. -/
structure ScanInput where
  now : DateTime
  devices : String → Option String
  inScope : String → Bool
  activation : RuntimeActivation

/-- `event_external_effect_allowed`. -/
def RuntimeActivation.allowsEvent (a : RuntimeActivation) (p : EventPayload) : Bool :=
  a.mode = "active" && truthy a.activeEpoch && p.createdMode = some "active" &&
    p.activeEpoch = a.activeEpoch

/-- The markers of an event that is armed again. -/
def markPending (x : ScanInput) (e : EnvironmentEvent) : EventProg Unit :=
  if truthy e.payload.feishuRecordId then pure ()
  else do
    markAttempted e
    if e.payload.feishuBindingStatus = some "PENDING" then pure ()
    else do
      let _ ← writeEvent (.patch e.eventId .createAttempted)
      let _ ← writeEvent (.bindingPending e.eventId x.now)
      pure ()

/-- One event of the scan. -/
def armEvent (x : ScanInput) (e : EnvironmentEvent) : EventProg Unit :=
  let device := cfg.upper (strip e.deviceId)
  match x.devices device with
  | none => pure ()
  | some area =>
    if x.inScope device = false then pure ()
    else if x.activation.allowsEvent e.payload = false then do
      -- an event of before the cutover is held for manual review
      let _ ← writeEvent (.patch e.eventId .shadowOnly)
      pure ()
    else do
      markPending x e
      let _ ← createUnfinished x.activation (ensureSpec cfg.toServiceConfig device area x.now e)
        (reconcileKey (some e.eventId))
      pure ()

def armEvents (x : ScanInput) : List EnvironmentEvent → EventProg Unit
  | [] => pure ()
  | e :: rest => do
    armEvent cfg x e
    armEvents x rest

/-- `_ensure_event_reconciliation_tasks`. -/
def runScan (x : ScanInput) : EventProg Unit := do
  let events ← listPendingBindings
  armEvents cfg x events

/-! ### All of it -/

inductive EventWork
  | sample (i : SampleInput)
  | reconcile (w : ReconcileWork)
  | scan (x : ScanInput)

def EventWork.prog : EventWork → EventProg Unit
  | sample i => runSample cfg i
  | reconcile w => runReconcileTask cfg w
  | scan x => runScan cfg x

end Work

end TemperatureMonitor
