/-
# The queue of tasks

The calls of `SQLiteAutomationTaskRepository` that the runtime, the scheduler
and the services make on the task table and the runtime row. Each is one
locked section or transaction, save that `claim_due` is two: the quarantine
commits before the claim begins.
-/
import TemperatureMonitor.Library.IsoOrder
import TemperatureMonitor.Library.Runs
import TemperatureMonitor.Store.Readiness
import TemperatureMonitor.Store.Unfinished

namespace TemperatureMonitor

/-- The table and the row of `automation_runtime_state`. -/
structure TaskDb where
  tasks : List AutomationTask := []
  runtime : Option RuntimeActivation := none
deriving DecidableEq

/-- `runtime_context`. -/
def TaskDb.activation (db : TaskDb) : RuntimeActivation := db.runtime.getD { mode := "unknown" }

/-! ### Modes -/

/-- The modes a runtime can be in. -/
def runtimeModes : List String := ["disabled", "shadow", "active"]

/-- The Active row a restart finds. -/
def activePrevious (previous : Option RuntimeActivation) : Option RuntimeActivation :=
  previous.filter fun p => p.mode = "active" && truthy p.activeEpoch

/-- `active_epoch or uuid.uuid4().hex`. -/
def newEpoch (activeEpoch : Option String) (uuid : String) : String :=
  if truthy activeEpoch then activeEpoch.getD "" else uuid

/-- The epoch and the cutover of a mode: a restart while active keeps them. -/
def nextBoundary (previous : Option RuntimeActivation) (mode : String) (now : DateTime)
    (activeEpoch : Option String) (uuid : String) : Option String × Option DateTime :=
  if mode = "active" then
    match activePrevious previous with
    | some p => (p.activeEpoch, p.activeCutoverAt)
    | none => (some (newEpoch activeEpoch uuid), some now)
  else (none, none)

/-- `set_runtime_context`. -/
def setRuntimeContext (db : TaskDb) (mode : String) (now : DateTime) (activeEpoch : Option String)
    (uuid : String) : Except PyError TaskDb :=
  let modeValue := (strip mode).toLower
  if modeValue ∈ runtimeModes then
    let boundary := nextBoundary db.runtime modeValue now activeEpoch uuid
    .ok { db with runtime := some { mode := modeValue, activeEpoch := boundary.1, activeCutoverAt := boundary.2
                                    updatedAt := some now } }
  else .error (.valueError ("unsupported runtime mode: '" ++ mode ++ "'"))

/-! ### Quarantine and recovery -/

/-- `created_mode IS NULL OR created_mode <> 'active' OR active_epoch IS NULL
OR active_epoch <> ? OR created_at < ?`: the tests for NULL leave no unknown. -/
def beforeCutover (epoch : Option String) (cutover : DateTime) (t : AutomationTask) : Bool :=
  t.createdMode ≠ some "active" || t.activeEpoch ≠ epoch ||
    t.createdAt.isoformat < cutover.isoformat

/-- `quarantine_legacy_external_tasks`. -/
def quarantineLegacyExternalTasks (db : TaskDb) (now : DateTime)
    (activeEpoch : Option String) : TaskDb :=
  let activation := db.activation
  let epoch := if truthy activeEpoch then activeEpoch else activation.activeEpoch
  -- a repository without a runtime context is not rewritten
  if activation.mode ∉ runtimeModes then db
  else if activation.mode = "active" then
    if truthy epoch then
      { db with tasks := db.tasks.map fun t =>
          if beforeCutover epoch (activation.activeCutoverAt.getD now) t then
            quarantineRow now "legacy_external_effect_before_active_cutover" t
          else t }
    else db
  else { db with tasks := db.tasks.map (quarantineRow now "external_effect_blocked_while_runtime_not_active") }

/-- A running row whose lease is over, or a pending one long due. -/
def isRecoverable (now staleCutoff : DateTime) (t : AutomationTask) : Bool :=
  (t.status = .running && t.leaseUntil.any fun l => l.isoformat ≤ now.isoformat) ||
    (t.status = .pending && t.dueAt.isoformat ≤ staleCutoff.isoformat)

/-- `recover_stale_tasks`. -/
def recoverStaleTasks (tasks : List AutomationTask) (now : DateTime) (staleAfter : ℤ) :
    Except PyError (List AutomationTask) :=
  if staleAfter ≤ 0 then .error (.valueError "stale_after must be positive")
  else .ok (tasks.map fun t => if isRecoverable now (now.add (-staleAfter)) t then
    requeueRow now t else t)

/-! ### Claims -/

/-- The arguments of a `claim_due`. -/
structure ClaimCall where
  now : DateTime
  limit : ℤ := 20
  workerId : String := "scheduler"
  leaseFor : ℤ := 300000000
  excludeTaskIds : List String := []
deriving DecidableEq

def ClaimCall.leaseUntil (c : ClaimCall) : DateTime := c.now.add c.leaseFor

/-- The checks of the arguments. -/
def ClaimCall.check (c : ClaimCall) : Except PyError Unit :=
  if c.limit ≤ 0 then .error (.valueError "limit must be positive")
  else if blank c.workerId then .error (.valueError "worker_id cannot be empty")
  else if c.leaseFor ≤ 0 then .error (.valueError "lease_for must be positive")
  else .ok ()

/-- Due, or running under a lease that is over. -/
def claimable (now : DateTime) (t : AutomationTask) : Bool :=
  (t.status = .pending ∧ t.dueAt.isoformat ≤ now.isoformat) ∨
    (t.status = .running ∧ t.leaseUntil.any fun l => l.isoformat ≤ now.isoformat)

/-- `task_type LIKE 'NOTIFY_%'`: the case of ASCII letters is ignored, and the
underscore stands for any character. -/
def likeNotify (taskType : String) : Bool :=
  let text := taskType.toLower.toList
  "notify".toList.isPrefixOf text && 7 ≤ text.length

/-- Alarms and notifications first, recent comparisons last. -/
def claimRank (now : DateTime) (t : AutomationTask) : ℕ :=
  if ["VERIFY_ALARM", "VERIFY_RECOVERY", "RECONCILE_ALARM_EVENT", "SYNC_STANDARD"].contains
      t.taskType ||
      likeNotify t.taskType then 0
  else if t.taskType = "SHADOW_COMPARE" ∧ (now.add (-60000000)).isoformat < t.dueAt.isoformat then 2
  else 1

/-- The order of the candidates. -/
def claimLe (now : DateTime) (s t : AutomationTask) : Bool :=
  if claimRank now s ≠ claimRank now t then claimRank now s < claimRank now t
  else if s.dueAt.isoformat ≠ t.dueAt.isoformat then s.dueAt.isoformat < t.dueAt.isoformat
  else s.taskId ≤ t.taskId

/-- The ids a claim selects. -/
def claimIds (tasks : List AutomationTask) (c : ClaimCall) : List String :=
  (((tasks.filter fun t => claimable c.now t && !c.excludeTaskIds.contains t.taskId).mergeSort
      (claimLe c.now)).take
    c.limit.toNat).map (·.taskId)

/-- The second transaction of `claim_due`. -/
def claimTransaction (tasks : List AutomationTask) (c : ClaimCall) :
    List AutomationTask × List AutomationTask :=
  let ids := claimIds tasks c
  let claimed :=
    tasks.map fun t => if t.taskId ∈ ids then claimRow c.workerId c.now c.leaseUntil t else t
  (claimed, ids.filterMap (byId claimed))

/-- `claim_due`. -/
def claimDue (db : TaskDb) (c : ClaimCall) : Except PyError (TaskDb × List AutomationTask) :=
  match c.check with
  | .error e => .error e
  | .ok () =>
    let kept := quarantineLegacyExternalTasks db c.now none
    .ok ({ kept with tasks := (claimTransaction kept.tasks c).1 },
      (claimTransaction kept.tasks c).2)

/-! ### Ends -/

/-- `repr` of an optional text without quotes or escapes. -/
def reprText : Option String → String
  | none => "None"
  | some text => "'" ++ text ++ "'"

/-- `_finish`: `mark_failed` gives an error text, `mark_succeeded` none. -/
def finishTask (tasks : List AutomationTask) (taskId : String) (error : Option String)
    (finishedAt : DateTime) (workerId : Option String) : Except PyError (List AutomationTask) :=
  match byId tasks taskId with
  | none => .error (.keyError ("unknown automation task: " ++ taskId))
  | some t =>
    if t.status ≠ .running then
      .error (.valueError ("cannot finish task in state " ++ t.status.value))
    else if workerId.isSome ∧ t.workerId ≠ workerId then
      .error (.valueError
        ("task is leased by worker " ++ reprText t.workerId ++ ", not " ++ reprText workerId))
    else if t.leaseUntil.any fun l => l.instant ≤ finishedAt.instant then
      .error (.valueError "task lease has expired")
    else .ok (updateRow tasks taskId (finishRow error finishedAt))

/-! ### Calls -/

/-- A call on the repository. A fresh `uuid4` is an argument. -/
inductive QueueOp
  | setRuntimeContext (mode : String) (now : DateTime) (activeEpoch : Option String) (uuid : String)
  | createOrGet (newId : String) (spec : TaskSpec)
  | createOrGetUnfinished (newId : String) (spec : TaskSpec) (key : String)
  | quarantine (now : DateTime) (activeEpoch : Option String)
  | recoverStale (now : DateTime) (staleAfter : ℤ)
  | claimDue (c : ClaimCall)
  /-- The second transaction of a `claim_due` whose first another call followed. -/
  | claimTransaction (c : ClaimCall)
  /-- `mark_succeeded` or `mark_failed`. -/
  | finish (taskId : String) (error : Option String) (finishedAt : DateTime) (workerId : Option String)
  | reschedule (task : AutomationTask) (dueAt updatedAt : DateTime) (payload : TaskPayload)
  | cancel (taskId : String) (updatedAt : DateTime)

/-- The time the call is made at. -/
def QueueOp.time : QueueOp → DateTime
  | setRuntimeContext _ now _ _ => now
  | createOrGet _ spec => spec.createdAt
  | createOrGetUnfinished _ spec _ => spec.createdAt
  | quarantine now _ => now
  | recoverStale now _ => now
  | claimDue c => c.now
  | claimTransaction c => c.now
  | finish _ _ finishedAt _ => finishedAt
  | reschedule _ _ updatedAt _ => updatedAt
  | cancel _ updatedAt => updatedAt

/-- The database after a call, and the tasks a claim returns. -/
def QueueOp.apply (db : TaskDb) : QueueOp → Except PyError (TaskDb × List AutomationTask)
  | setRuntimeContext mode now activeEpoch uuid =>
    (TemperatureMonitor.setRuntimeContext db mode now activeEpoch uuid).map fun db' => (db', [])
  | createOrGet newId spec =>
    .ok ({ db with tasks := (TemperatureMonitor.createOrGet db.tasks db.activation newId spec).1 },
      [])
  | createOrGetUnfinished newId spec key =>
    (TemperatureMonitor.createOrGetUnfinished db.tasks db.activation newId spec key).map fun r =>
      ({ db with tasks := r.1 }, [])
  | quarantine now activeEpoch => .ok (quarantineLegacyExternalTasks db now activeEpoch, [])
  | recoverStale now staleAfter =>
    (recoverStaleTasks db.tasks now staleAfter).map fun tasks => ({ db with tasks := tasks }, [])
  | claimDue c => TemperatureMonitor.claimDue db c
  | claimTransaction c =>
    c.check.map fun _ => ({ db with tasks := (TemperatureMonitor.claimTransaction db.tasks c).1 },
      (TemperatureMonitor.claimTransaction db.tasks c).2)
  | finish taskId error finishedAt workerId =>
    (finishTask db.tasks taskId error finishedAt workerId).map fun tasks =>
      ({ db with tasks := tasks }, [])
  | reschedule task dueAt updatedAt payload =>
    (rescheduleRunning db.tasks task dueAt updatedAt payload).map fun tasks =>
      ({ db with tasks := tasks }, [])
  | cancel taskId updatedAt =>
    (cancelTask db.tasks taskId updatedAt).map fun tasks => ({ db with tasks := tasks }, [])

/-- A call and the tasks it returned; `none` when it raised. -/
structure QueueCall where
  op : QueueOp
  out : Option (List AutomationTask)

/-- A call that raises leaves the database. -/
def QueueStep (db : TaskDb) (l : QueueCall) (db' : TaskDb) : Prop :=
  match l.out with
  | some out => l.op.apply db = .ok (db', out)
  | none => db' = db ∧ ∃ e, l.op.apply db = .error e

/-! ### Playing calls -/

def QueueOp.call (db : TaskDb) (op : QueueOp) : QueueCall × TaskDb :=
  match op.apply db with
  | .ok (db', out) => (⟨op, some out⟩, db')
  | .error _ => (⟨op, none⟩, db)

/-- One call after another. -/
def playQueue (db : TaskDb) : List QueueOp → List QueueCall × TaskDb
  | [] => ([], db)
  | op :: ops =>
    ((op.call db).1 :: (playQueue (op.call db).2 ops).1, (playQueue (op.call db).2 ops).2)

/-- Every call meets a condition when it is made. -/
def PlayGuarded (C : TaskDb → QueueCall → Prop) (db : TaskDb) : List QueueOp → Prop
  | [] => True
  | op :: ops => C db (op.call db).1 ∧ PlayGuarded C (op.call db).2 ops

instance decidablePlayGuarded {C : TaskDb → QueueCall → Prop} [∀ db l, Decidable (C db l)] :
    ∀ (db : TaskDb) (ops : List QueueOp), Decidable (PlayGuarded C db ops)
  | _, [] => isTrue trivial
  | db, op :: ops => @instDecidableAnd _ _ _ (decidablePlayGuarded (op.call db).2 ops)

theorem QueueOp.call_step (db : TaskDb) (op : QueueOp) :
    QueueStep db (op.call db).1 (op.call db).2 := by
  unfold QueueOp.call
  cases h : op.apply db with
  | error e => exact ⟨rfl, e, h⟩
  | ok r => exact h

/-- Every list of calls is a run. -/
theorem playQueue_run {C : TaskDb → QueueCall → Prop} :
    ∀ {ops : List QueueOp} {db : TaskDb}, PlayGuarded C db ops →
    Run (Guarded C QueueStep) db (playQueue db ops).1 (playQueue db ops).2
  | [], _, _ => .nil
  | op :: _, db, h => .cons ⟨h.1, op.call_step db⟩ (playQueue_run h.2)

end TemperatureMonitor
