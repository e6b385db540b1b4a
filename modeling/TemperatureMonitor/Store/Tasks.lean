/-
# The durable task table

Rows of `automation_tasks` and the operations of
`SQLiteAutomationTaskRepository` that create, reuse, cancel and reschedule
them. Each operation is one local transaction. A fresh `uuid4` is an argument
(`newId`); the row's origin is the runtime context of the moment.

A payload is the JSON object a row carries, with the keys the modelled code
reads; a key that is absent is `none`. A text that is no JSON object reads as
the empty payload, as it does for both of its readers.
-/
import Mathlib.Data.List.Sort
import TemperatureMonitor.Library.Text
import TemperatureMonitor.Domain.FeishuCell
import TemperatureMonitor.Domain.Models

namespace TemperatureMonitor

/-- `python_alarm_transition` of a context. -/
structure TransitionContext where
  reason : String := ""
  violationStartedAt : Option DateTime := none
  alarmStartedAt : Option DateTime := none
  recoveryStartedAt : Option DateTime := none
  activeAlarmId : Option String := none
deriving DecidableEq

structure TaskPayload where
  deviceId : Option String := none
  createdAt : Option DateTime := none
  sampleTime : Option DateTime := none
  reason : Option String := none
  alarmId : Option String := none
  localEventId : Option String := none
  eventId : Option String := none
  area : Option String := none
  temperature : Option ℚ := none
  humidity : Option ℚ := none
  peakTemperature : Option ℚ := none
  peakHumidity : Option ℚ := none
  temperatureStatus : Option TemperatureStatus := none
  humidityStatus : Option TemperatureStatus := none
  onlineStatus : Option String := none
  dataQuality : Option DataQualityStatus := none
  standardId : Option String := none
  standardRevision : Option String := none
  standardSource : Option String := none
  violationStartedAt : Option DateTime := none
  alarmStartedAt : Option DateTime := none
  recoveryStartedAt : Option DateTime := none
  recoveredAt : Option DateTime := none
  transition : Option TransitionContext := none
  actionType : Option AlarmActionType := none
  notificationType : Option String := none
  dedupeKey : Option String := none
  externalEffectKey : Option String := none
  prewarningEpisodeId : Option String := none
  prewarningReasons : List String := []
  prewarningDetails : List (String × PrewarningDetail) := []
  prewarningStartedAt : Option DateTime := none
  desiredHash : Option String := none
  desiredFields : DesiredFields := .empty
  /-- `int(payload.get("projection_attempt", 0) or 0)`. -/
  projectionAttempt : ℤ := 0
  externalEffectPolicy : Option String := none
  /-- `int(payload.get("retry_attempt", 0) or 0)`, zero where it is no integer. -/
  retryAttempt : ℤ := 0
  /-- `payload.get("retryable") is True`. -/
  retryable : Bool := false
  /-- One of the keys that name a next attempt is present. -/
  nextRetry : Bool := false
  sourceRecordId : Option String := none
  /-- `int(payload.get("reminder_sequence", 0) or 0)`. -/
  reminderSequence : ℤ := 0
deriving DecidableEq

/-- A row of `automation_tasks`. -/
structure AutomationTask where
  taskId : String
  taskType : String
  entityType : String
  entityId : String
  dueAt : DateTime
  status : AutomationTaskStatus := .pending
  payload : TaskPayload := {}
  dedupeKey : Option String := none
  createdAt : DateTime
  updatedAt : DateTime
  startedAt : Option DateTime := none
  finishedAt : Option DateTime := none
  leaseUntil : Option DateTime := none
  workerId : Option String := none
  attemptCount : ℕ := 0
  lastError : Option String := none
  createdMode : Option String := none
  activeEpoch : Option String := none
deriving DecidableEq

/-- PENDING or RUNNING. -/
def AutomationTask.unfinished (t : AutomationTask) : Bool :=
  t.status = .pending ∨ t.status = .running

/-- `_EXTERNAL_EFFECT_TASK_TYPES`. -/
def externalEffectTaskTypes : List String :=
  ["RECONCILE_ALARM_EVENT", "NOTIFY_ALARM", "NOTIFY_RECOVERY", "NOTIFY_PREWARNING",
    "NOTIFY_PREWARNING_RECOVERY", "NOTIFY_OPERATION_OVERDUE", "PROJECT_DEVICE_STATUS"]

/-- The persisted mode boundary. -/
structure RuntimeActivation where
  mode : String
  activeEpoch : Option String := none
  activeCutoverAt : Option DateTime := none
  updatedAt : Option DateTime := none
deriving DecidableEq

/-- `_creation_metadata`. -/
def RuntimeActivation.creationMetadata (a : RuntimeActivation) : Option String × Option String :=
  if a.mode = "disabled" ∨ a.mode = "shadow" ∨ a.mode = "active" then (some a.mode, a.activeEpoch)
  else (none, none)

/-! ### Creating -/

/-- The arguments of a task creation. -/
structure TaskSpec where
  taskType : String
  entityType : String
  entityId : String
  dueAt : DateTime
  payload : TaskPayload := {}
  dedupeKey : Option String
  createdAt : DateTime

/-- The row an insert writes. -/
def TaskSpec.row (spec : TaskSpec) (a : RuntimeActivation) (newId : String) : AutomationTask :=
  { taskId := newId, taskType := spec.taskType, entityType := spec.entityType,
    entityId := spec.entityId, dueAt := spec.dueAt, payload := spec.payload,
    dedupeKey := spec.dedupeKey, createdAt := spec.createdAt, updatedAt := spec.createdAt,
    createdMode := a.creationMetadata.1, activeEpoch := a.creationMetadata.2 }

/-- The row with a dedupe key; `none` is never equal to a key. -/
def byDedupeKey (tasks : List AutomationTask) (key : Option String) : Option AutomationTask :=
  tasks.find? fun t => key.isSome && t.dedupeKey = key

def byId (tasks : List AutomationTask) (taskId : String) : Option AutomationTask :=
  tasks.find? fun t => t.taskId = taskId

/-- `create_or_get`: insert, or return the row that has the dedupe key,
whatever its status. -/
def createOrGet (tasks : List AutomationTask) (a : RuntimeActivation) (newId : String)
    (spec : TaskSpec) : List AutomationTask × AutomationTask :=
  match byDedupeKey tasks spec.dedupeKey with
  | some t => (tasks, t)
  | none => (tasks ++ [spec.row a newId], spec.row a newId)

/-- The order of the candidates of a business identity: running rows first. -/
def unfinishedLe (s t : AutomationTask) : Bool :=
  let rank := fun x : AutomationTask => if x.status = .running then 0 else 1
  if rank s ≠ rank t then rank s < rank t
  else if s.dueAt.isoformat ≠ t.dueAt.isoformat then s.dueAt.isoformat < t.dueAt.isoformat
  else s.taskId ≤ t.taskId

/-- The row's identity is the one asked for: for a reconciliation the dedupe
key, a retry key of it or the same local event; for a device projection the
dedupe key; otherwise the entity. -/
def sameIdentity (spec : TaskSpec) (key : String) (t : AutomationTask) : Bool :=
  t.taskType = spec.taskType ∧
    (if spec.taskType = "RECONCILE_ALARM_EVENT" then
      t.dedupeKey = some key ∨
          (t.dedupeKey.any fun k => (key ++ ":retry:").toList.isPrefixOf k.toList) ∨
        (spec.payload.localEventId.isSome ∧ t.payload.localEventId = spec.payload.localEventId)
    else if spec.taskType = "PROJECT_DEVICE_STATUS" then t.dedupeKey = some key
    else t.entityId = spec.entityId)

/-- `active_rows`. -/
def activeRows (tasks : List AutomationTask) (spec : TaskSpec) (key : String) :
    List AutomationTask :=
  (tasks.filter fun t => t.unfinished && sameIdentity spec key t).mergeSort unfinishedLe

def cancelRow (at_ : DateTime) (t : AutomationTask) : AutomationTask :=
  { t with status := .cancelled, updatedAt := at_, finishedAt := some at_, leaseUntil := none,
           workerId := none }

/-- The rows behind the winner's are cancelled while they are pending. -/
def cancelDuplicates (tasks : List AutomationTask) (at_ : DateTime) (others : List AutomationTask) :
    List AutomationTask :=
  let duplicates := (others.filter (·.status = .pending)).map (·.taskId)
  tasks.map fun t => if t.taskId ∈ duplicates ∧ t.status = .pending then cancelRow at_ t else t

/-- Update the row of an id. -/
def updateRow (tasks : List AutomationTask) (taskId : String)
    (f : AutomationTask → AutomationTask) : List AutomationTask :=
  tasks.map fun t => if t.taskId = taskId then f t else t

/-- `SET dedupe_key`, of one row: the column is UNIQUE. -/
def setDedupeKey (tasks : List AutomationTask) (taskId key : String) :
    Except PyError (List AutomationTask) :=
  if tasks.any fun t => t.taskId ≠ taskId && t.dedupeKey = some key then
    .error (.integrityError "UNIQUE constraint failed: automation_tasks.dedupe_key")
  else .ok (updateRow tasks taskId fun t => { t with dedupeKey := some key })

/-- `_release_dedupe_key_from_other_row`. -/
def releaseDedupeKey (tasks : List AutomationTask) (key : String) (winnerId : Option String) :
    Except PyError (List AutomationTask) :=
  match byDedupeKey tasks (some key) with
  | none => .ok tasks
  | some owner =>
    if some owner.taskId = winnerId then .ok tasks
    else setDedupeKey tasks owner.taskId (key ++ ":HISTORY:" ++ owner.taskId)

/-- A pending comparison is given the newest expectation. -/
def refreshWinner (tasks : List AutomationTask) (spec : TaskSpec) (winner : AutomationTask) :
    List AutomationTask :=
  if spec.taskType = "SHADOW_COMPARE" ∧ winner.status = .pending then
    updateRow tasks winner.taskId fun t =>
      { t with payload := spec.payload, updatedAt := spec.createdAt }
  else tasks

/-- The key is taken from the row that has it. -/
def takeKey (tasks : List AutomationTask) (key : String) (winner : AutomationTask) :
    Except PyError (List AutomationTask) :=
  match releaseDedupeKey tasks key (some winner.taskId) with
  | .error e => .error e
  | .ok released =>
    if winner.dedupeKey = some key then .ok released else setDedupeKey released winner.taskId key

/-- A pending row may move earlier, never later. -/
def moveEarlier (tasks : List AutomationTask) (spec : TaskSpec) (winner : AutomationTask) :
    List AutomationTask :=
  if winner.status = .pending ∧ spec.dueAt.instant < winner.dueAt.instant then
    updateRow tasks winner.taskId fun t =>
      if t.status = .pending ∧ spec.dueAt.isoformat < t.dueAt.isoformat then
        { t with dueAt := spec.dueAt, updatedAt := spec.createdAt }
      else t
  else tasks

/-- The winner of a business identity other than a reconciliation. -/
def adoptWinner (tasks : List AutomationTask) (spec : TaskSpec) (key : String)
    (winner : AutomationTask) : Except PyError (List AutomationTask) :=
  (takeKey (refreshWinner tasks spec winner) key winner).map fun keyed =>
    moveEarlier keyed spec winner

/-- `create_or_get_unfinished`. -/
def createOrGetUnfinished (tasks : List AutomationTask) (a : RuntimeActivation) (newId : String)
    (spec : TaskSpec) (key : String) : Except PyError (List AutomationTask × AutomationTask) :=
  if blank spec.taskType then .error (.valueError "task_type cannot be empty")
  else if blank spec.entityId then .error (.valueError "entity_id cannot be empty")
  else if blank key then .error (.valueError "dedupe_key cannot be empty")
  else match activeRows tasks spec key with
  | [] =>
    let row := { spec with dedupeKey := some key }.row a newId
    match releaseDedupeKey tasks key none with
    | .error e => .error e
    | .ok released => .ok (released ++ [row], row)
  | winner :: others =>
    let cancelled := cancelDuplicates tasks spec.createdAt others
    match if spec.taskType = "RECONCILE_ALARM_EVENT" then .ok cancelled
      else adoptWinner cancelled spec key winner with
    | .error e => .error e
    | .ok final =>
      match byId final winner.taskId with
      | some t => .ok (final, t)
      | none => .error (.keyError ("unknown automation task: " ++ winner.taskId))

/-! ### Finishing -/

/-- `cancel`. -/
def cancelTask (tasks : List AutomationTask) (taskId : String) (updatedAt : DateTime) :
    Except PyError (List AutomationTask) :=
  match byId tasks taskId with
  | none => .error (.keyError ("unknown automation task: " ++ taskId))
  | some t =>
    if t.unfinished then .ok (updateRow tasks taskId (cancelRow updatedAt))
    else .error (.valueError ("cannot cancel task in state " ++ t.status.value))

/-- `reschedule_running`: the row of the task, while it is running under the
task's worker. -/
def rescheduleRunning (tasks : List AutomationTask) (task : AutomationTask)
    (dueAt updatedAt : DateTime) (payload : TaskPayload) : Except PyError (List AutomationTask) :=
  if tasks.any fun t => t.taskId = task.taskId && t.status = .running && t.workerId.isSome &&
      t.workerId = task.workerId then
    .ok (updateRow tasks task.taskId fun t =>
      { t with status := .pending, dueAt := dueAt, updatedAt := updatedAt, payload := payload,
               leaseUntil := none, workerId := none })
  else .error (.valueError "reconciliation task ownership was lost")

end TemperatureMonitor
