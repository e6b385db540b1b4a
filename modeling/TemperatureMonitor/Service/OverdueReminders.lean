/-
# Reminders of overdue operations

`_ensure_operation_overdue_tasks` and `handle_operation_overdue_notification`
of the shadow runtime, over the operation store and the task table. The
reminder cursor is on the operation's row: the scanner reads it and queues a
task, the handler sends what its task says and writes the cursor.

The handler and the synchronization of operations hold the execution lock, so
a handler's effects are one step, which a crash may cut short; the scanner
runs between the batches of the scheduler. The log is the history of the
operations, the messages and the notes, newest first.
-/
import TemperatureMonitor.Service.Executor
import TemperatureMonitor.Service.OperationSync
import TemperatureMonitor.Store.ReminderRows

namespace TemperatureMonitor

/-! ### Open operations -/

structure ActiveOperation where
  deviceId : String
  areaId : String
  operationType : Option String
  workOrder : Option String
  sourceRecordId : String
  startedAt : DateTime
  initiatorId : Option String
  initiatorIdType : Option String
  initiatorName : Option String
  registrationNumber : Option String
  note : Option String
  overdueNotificationStatus : Option String
  overdueNotificationAt : Option DateTime
  overdueNotificationSequence : Option ℤ
deriving DecidableEq

/-- The row of the query for a state: a device has one current observation. -/
def OperationStateRow.active (current : List OperationObservation) (s : OperationStateRow) :
    Option ActiveOperation :=
  if s.state = .operating then
    match rowOf OperationObservation.deviceId current s.deviceId, s.startedAt with
    | some c, some startedAt =>
      some { deviceId := s.deviceId, areaId := s.areaId, operationType := s.operationType, workOrder := s.workOrder
             sourceRecordId := c.sourceRecordId, startedAt := startedAt, initiatorId :=
               s.initiatorId
             initiatorIdType := s.initiatorIdType, initiatorName := s.initiatorName
             registrationNumber := s.registrationNumber, note := s.note
             overdueNotificationStatus := s.overdueNotificationStatus
             overdueNotificationAt := s.overdueNotificationAt
             overdueNotificationSequence := s.overdueNotificationSequence }
    | _, _ => none
  else none

/-- `list_active_operations`. -/
def OperationStore.listActiveOperations (store : OperationStore) : List ActiveOperation :=
  (store.states.filterMap (·.active store.current)).insertionSort fun a b => a.deviceId ≤ b.deviceId

/-- `update_overdue_notification`, for one row. -/
def noteRow (current : List OperationObservation) (deviceId recordId status : String)
    (at_ : DateTime)
    (messageId error : Option String) (sequence : Option ℤ) (s : OperationStateRow) :
    OperationStateRow :=
  if s.deviceId = deviceId ∧ s.state = .operating ∧
      (current.any fun c => c.deviceId = s.deviceId && c.sourceRecordId = recordId) = true then
    { s with overdueNotificationStatus := some status
             overdueNotificationAt :=
               if status = "SENT" ∨ status = "RETRY_EXHAUSTED" then some at_
                 else s.overdueNotificationAt
             overdueNotificationSequence := sequence <|> s.overdueNotificationSequence
             overdueNotificationMessageId := messageId <|> s.overdueNotificationMessageId
             overdueNotificationError := error }
  else s

/-- `update_overdue_notification`. -/
def OperationStore.updateOverdueNotification (store : OperationStore)
    (deviceId recordId status : String)
    (at_ : DateTime) (messageId error : Option String) (sequence : Option ℤ) : OperationStore :=
  { store with states := store.states.map (noteRow store.current deviceId recordId status at_ messageId error sequence) }

/-! ### The scanner -/

structure OverdueConfig where
  /-- `str.upper`. -/
  upper : String → String
  /-- `FEISHU_OPERATION_OVERDUE_NOTIFY_ENABLED`. -/
  notifyEnabled : Bool := true
  /-- `FEISHU_OPERATION_OVERDUE_AFTER_HOURS`. -/
  afterHours : ℤ := 6
  /-- `FEISHU_OPERATION_OVERDUE_REPEAT_HOURS`. -/
  repeatHours : ℤ := 1
  activeDeviceIds : List String

def OverdueConfig.overdueAfter (cfg : OverdueConfig) : ℤ := cfg.afterHours * 3600000000

def OverdueConfig.repeatEvery (cfg : OverdueConfig) : ℤ := cfg.repeatHours * 3600000000

/-- The sequence of the next reminder and when it is due; none after a final failure. -/
def ActiveOperation.next (cfg : OverdueConfig) (now : DateTime) (o : ActiveOperation) :
    Option (ℤ × DateTime) :=
  let sequence := max 0 (o.overdueNotificationSequence.getD 0)
  match o.overdueNotificationStatus with
  | some "SKIPPED_NO_INITIATOR" | some "FAILED_FINAL" => none
  | some "PENDING" => some (sequence, now)
  | some "SENT" =>
    some (sequence + 1, match o.overdueNotificationAt with
      | some at_ => at_.add cfg.repeatEvery
      | none => o.startedAt.add cfg.overdueAfter)
  | _ => some (0, o.startedAt.add cfg.overdueAfter)

def overdueTaskKey (deviceId recordId : String) (sequence : ℤ) : String :=
  "NOTIFY_OPERATION_OVERDUE:" ++ deviceId ++ ":" ++ recordId ++ ":" ++ toString sequence

/-- The task the scanner asks for. -/
def overdueSpec (now : DateTime) (deviceId recordId : String) (sequence : ℤ) : TaskSpec :=
  { taskType := overdueType, entityType := "DEVICE", entityId := deviceId, dueAt := now
    payload :=
      { deviceId := some deviceId, sourceRecordId := some recordId, reminderSequence := sequence }
    dedupeKey := some (overdueTaskKey deviceId recordId sequence), createdAt := now }

/-- `get_unfinished_by_dedupe_key` finds a task. -/
def hasUnfinished (tasks : List AutomationTask) (key : String) : Bool :=
  tasks.any fun t => t.dedupeKey = some key && t.unfinished

/-- The scanner at one operation. -/
def scanOperation (cfg : OverdueConfig) (now : DateTime) (db : TaskDb) (o : ActiveOperation)
    (newId : String) : Except PyError TaskDb :=
  let deviceId := cfg.upper (strip o.deviceId)
  if activeScopeAllows cfg.upper deviceId cfg.activeDeviceIds then
    match o.next cfg now with
    | none => .ok db
    | some (sequence, dueAt) =>
      let key := overdueTaskKey deviceId o.sourceRecordId sequence
      if o.overdueNotificationStatus = some "PENDING" ∧
        hasUnfinished db.tasks key = true then .ok db
      else if now.instant < dueAt.instant then .ok db
      else (createOrGetUnfinished db.tasks db.activation newId
          (overdueSpec now deviceId o.sourceRecordId sequence)
        key).map fun r => { db with tasks := r.1 }
  else .ok db

/-- One operation after another; an exception ends the scan. -/
def scanOperations (cfg : OverdueConfig) (now : DateTime) (db : TaskDb) :
    List (ActiveOperation × String) → TaskDb
  | [] => db
  | (o, newId) :: rest =>
    match scanOperation cfg now db o newId with
    | .ok db' => scanOperations cfg now db' rest
    | .error _ => db

/-- `_ensure_operation_overdue_tasks`; `ready` says that the canary is enabled and the standards
are ready. -/
def ensureOperationOverdueTasks (cfg : OverdueConfig) (now : DateTime) (ready : Bool)
    (store : OperationStore) (db : TaskDb) (newIds : List String) : TaskDb :=
  if ready = false ∨ cfg.notifyEnabled = false ∨ cfg.afterHours ≤ 0 then db
  else scanOperations cfg now db (store.listActiveOperations.zip newIds)

/-! ### The handler -/

/-- A reminder of an operation record of a device. -/
structure Reminder where
  deviceId : String
  recordId : String
  sequence : ℤ
deriving DecidableEq

/-- The reminder a task asks for. -/
def AutomationTask.reminder (upper : String → String) (t : AutomationTask) : Reminder :=
  ⟨upper (strip t.entityId), t.payload.sourceRecordId.getD "", t.payload.reminderSequence⟩

/-- The idempotency key of a message. -/
def Reminder.effectKey (r : Reminder) : String :=
  "OPERATION_OVERDUE:" ++ r.deviceId ++ ":" ++ r.recordId ++ ":" ++ toString r.sequence

/-- What `send_operation_overdue` comes to. -/
inductive OverdueReply
  | delivered (messageId : String)
  /-- `FeishuNotificationError`. -/
  | refused (errorCode text : String) (retryable outcomeUnknown : Bool)
deriving DecidableEq

/-- An effect of the handler, in the order they are made. -/
inductive ReminderEffect
  | note (status : String) (messageId error : Option String)
  | send (recipient receiveIdType idempotencyKey : String) (o : ActiveOperation)
  | reschedule (dueAt : DateTime) (payload : TaskPayload)

/-- The delay before a retry, in seconds. -/
def overdueRetrySeconds (attempt : ℤ) : ℤ := min 3600 (30 * 2 ^ (min (attempt - 1) 7).toNat)

/-- What follows the reply of the sender. -/
def replyEffects (task : AutomationTask) (now : DateTime) : OverdueReply → List ReminderEffect
  | .delivered messageId => [.note "SENT" (some messageId) none]
  | .refused errorCode text retryable outcomeUnknown =>
    if retryable || outcomeUnknown then
      let attempt := task.payload.retryAttempt + 1
      [.reschedule (now.add (overdueRetrySeconds attempt * 1000000))
        { task.payload with retryAttempt := attempt }]
    else [.note "FAILED_FINAL" none (some (errorCode ++ ": " ++ text))]

/-- The open operation a task is about. -/
def openFor (upper : String → String) (store : OperationStore) (r : Reminder) :
    Option ActiveOperation :=
  store.listActiveOperations.find? fun o =>
    upper o.deviceId = r.deviceId && o.sourceRecordId = r.recordId

/-- `handle_operation_overdue_notification`. -/
def handleOperationOverdue (upper : String → String) (store : OperationStore)
    (task : AutomationTask) (now : DateTime) (reply : OverdueReply) : List ReminderEffect :=
  match openFor upper store (task.reminder upper) with
  | none => []
  | some o =>
    if truthy o.initiatorId && truthy o.initiatorIdType then
      .note "PENDING" none none ::
        .send (o.initiatorId.getD "") (o.initiatorIdType.getD "")
          (task.reminder upper).effectKey o ::
        replyEffects task now reply
    else [.note "SKIPPED_NO_INITIATOR" none
      (some "operation record creator identity is unavailable")]

/-! ### The system -/

inductive ReminderEvent
  /-- A START or SWITCH observation is accepted, with these reminders queued or in hand. -/
  | opened (deviceId recordId : String) (startedAt : DateTime) (queued : List Reminder)
  /-- An END observation is accepted. -/
  | closed (deviceId : String)
  /-- A message is handed to the sender, about an operation the store lists. -/
  | sent (r : Reminder) (idempotencyKey : String) (o : ActiveOperation) (at_ : DateTime)
  /-- `update_overdue_notification` is called. -/
  | recorded (r : Reminder) (status : String) (at_ : DateTime)
deriving DecidableEq

structure ReminderState where
  store : OperationStore := {}
  db : TaskDb := {}
  /-- The reminder tasks of the scheduler's batch, as they were claimed. -/
  claimed : List AutomationTask := []
  now : DateTime
  /-- Newest first. -/
  log : List ReminderEvent := []

/-- The reminders that are queued or in hand. -/
def ReminderState.queued (upper : String → String) (s : ReminderState) : List Reminder :=
  ((s.claimed ++ s.db.tasks.filter (·.unfinished)).filter (·.taskType = overdueType)).map
    (·.reminder upper)

/-- The entry of the log for an observation. -/
def OperationObservation.opening (o : OperationObservation) (queued : List Reminder) :
    ReminderEvent :=
  match o.action with
  | .startOperation | .switchOperation =>
    .opened o.deviceId o.sourceRecordId o.sourceCreatedAt queued
  | .endOperation => .closed o.deviceId

/-- `OperationObservationService.apply`. -/
def ReminderState.observe (upper : String → String) (s : ReminderState) (o : OperationObservation) :
    ReminderState :=
  { s with store := (s.store.apply o).1
           log := if isNewerOperation o (s.store.getCurrent o.deviceId) then
               o.opening (s.queued upper) :: s.log
             else s.log }

/-- One effect of the handler of a task, at the moment of the state. -/
def ReminderState.effect (task : AutomationTask) (r : Reminder) (s : ReminderState) :
    ReminderEffect → ReminderState
  | .note status messageId error =>
    { s with store := s.store.updateOverdueNotification r.deviceId r.recordId status s.now messageId error (some r.sequence)
             log := .recorded r status s.now :: s.log }
  | .send _ _ idempotencyKey o => { s with log := .sent r idempotencyKey o s.now :: s.log }
  | .reschedule dueAt payload =>
    match rescheduleRunning s.db.tasks task dueAt s.now payload with
    | .ok tasks => { s with db := { s.db with tasks := tasks } }
    | .error _ => s

/-- The handler of a claimed task, up to a crash after `cut` effects. -/
def ReminderState.execute (upper : String → String) (s : ReminderState) (task : AutomationTask)
    (now : DateTime) (reply : OverdueReply) (cut : ℕ) : ReminderState :=
  ((handleOperationOverdue upper s.store task now reply).take cut).foldl
    (ReminderState.effect task (task.reminder upper))
      { s with now := now, claimed := s.claimed.erase task }

inductive ReminderOp
  | observe (o : OperationObservation)
  /-- A call on the task table by anyone; a claim hands its reminders to the scheduler. -/
  | queue (op : QueueOp)
  | tick (now : DateTime) (ready : Bool) (newIds : List String)
  | execute (task : AutomationTask) (now : DateTime) (reply : OverdueReply) (cut : ℕ)
  /-- The rest of the batch is not handled: the process stopped. -/
  | stop

def ReminderState.next (cfg : OverdueConfig) (s : ReminderState) : ReminderOp → ReminderState
  | .observe o => s.observe cfg.upper o
  | .queue op =>
    match op.apply s.db with
    | .ok (db, out) =>
      { s with db := db, claimed := s.claimed ++ out.filter (·.taskType = overdueType) }
    | .error _ => s
  | .tick now ready newIds =>
    { s with now := now, db := ensureOperationOverdueTasks cfg now ready s.store s.db newIds }
  | .execute task now reply cut => s.execute cfg.upper task now reply cut
  | .stop => { s with claimed := [] }

/-- What the callers see to: observations carry a normalized device id, only
the scanner and the handler write reminders, between the batches of the
scheduler, fresh ids are fresh, and times do not decrease. -/
def ReminderOp.Fits (cfg : OverdueConfig) (s : ReminderState) : ReminderOp → Prop
  | .observe o => strip o.deviceId = o.deviceId ∧ cfg.upper o.deviceId = o.deviceId
  | .queue op => op.LeavesReminders s.db
  | .tick now _ newIds => s.claimed = [] ∧ s.now.instant ≤ now.instant ∧ newIds.Nodup ∧
      newIds.length = s.store.listActiveOperations.length ∧ ∀ t ∈ s.db.tasks, t.taskId ∉ newIds
  | .execute task now _ _ => task ∈ s.claimed ∧ s.now.instant ≤ now.instant
  | .stop => True

instance decidableReminderFits (cfg : OverdueConfig) (s : ReminderState) (op : ReminderOp) :
    Decidable (op.Fits cfg s) := by
  unfold ReminderOp.Fits
  split <;> infer_instance

def ReminderStep (cfg : OverdueConfig) (s : ReminderState) (op : ReminderOp)
    (s' : ReminderState) : Prop :=
  op.Fits cfg s ∧ s' = s.next cfg op

/-- No operation is known and no reminder is queued. -/
structure ReminderState.Fresh (s : ReminderState) : Prop where
  store : s.store = {}
  ids : (s.db.tasks.map (·.taskId)).Nodup
  tasks : ∀ t ∈ s.db.tasks, t.taskType ≠ overdueType
  claimed : s.claimed = []
  log : s.log = []

/-- One step after another. -/
def ReminderState.play (cfg : OverdueConfig) (s : ReminderState) (ops : List ReminderOp) :
    ReminderState :=
  ops.foldl (ReminderState.next cfg) s

/-- Every step fits when it is taken. -/
def PlayFits (cfg : OverdueConfig) : ReminderState → List ReminderOp → Prop
  | _, [] => True
  | s, op :: ops => op.Fits cfg s ∧ PlayFits cfg (s.next cfg op) ops

instance decidablePlayFits (cfg : OverdueConfig) : ∀ (s : ReminderState) (ops : List ReminderOp),
    Decidable (PlayFits cfg s ops)
  | _, [] => isTrue trivial
  | s, op :: ops => @instDecidableAnd _ _ _ (decidablePlayFits cfg (s.next cfg op) ops)

/-- Every list of steps that fit is a run. -/
theorem playReminders_run {cfg : OverdueConfig} {ops : List ReminderOp} {s : ReminderState}
    (h : PlayFits cfg s ops) : Run (ReminderStep cfg) s ops (s.play cfg ops) := by
  induction ops generalizing s with
  | nil => exact .nil
  | cons op ops ih => exact .cons ⟨h.1, rfl⟩ (ih h.2)

end TemperatureMonitor
