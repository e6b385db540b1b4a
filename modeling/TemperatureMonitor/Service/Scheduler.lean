/-
# One run of the scheduler

`TaskScheduler.run_once` as a program of its calls: it claims one task at a
time, runs its handler, and ends the task, while the handlers, the other
workers and the services go on calling the queue. What a handler does is among
those calls; to the scheduler it returns, or raises with a text. The log keeps
every call in the order it took effect.
-/
import TemperatureMonitor.Library.Program
import TemperatureMonitor.Store.Leases

namespace TemperatureMonitor

/-- A scheduler, as its constructor accepts it. -/
structure TaskScheduler where
  workerId : String := "scheduler"
  leaseFor : ℤ := 300000000
  /-- The task types that have a handler. -/
  handlers : List String
  named : blank workerId = false
  leased : 0 < leaseFor

/-- `SchedulerRunReport`. -/
structure SchedulerRunReport where
  claimed : ℕ
  succeeded : ℕ
  failed : ℕ
  skipped : ℕ
deriving DecidableEq

/-! ### The calls -/

/-- What escapes a call: an error of the repository, or of SQLite itself. -/
inductive SchedulerError
  | python (e : PyError)
  | operational (text : String)
deriving DecidableEq

inductive SchedulerCall
  /-- `clock_now`. -/
  | clock
  /-- The first transaction of a claim. -/
  | quarantine (now : DateTime)
  /-- The second. -/
  | claim (c : ClaimCall)
  | handle (task : AutomationTask)
  | get (taskId : String)
  /-- `mark_failed` gives an error text, `mark_succeeded` none. -/
  | finish (taskId : String) (error : Option String) (finishedAt : DateTime) (workerId : String)

/-- What a call answers: a handler, the text of what it raised. -/
abbrev SchedulerCall.Answer : SchedulerCall → Type
  | clock => DateTime
  | quarantine _ => Unit
  | claim _ => List AutomationTask
  | handle _ => Option String
  | get _ => Option AutomationTask
  | finish .. => Unit

abbrev SchedulerProg := Prog SchedulerCall SchedulerCall.Answer SchedulerError

abbrev clockNow : SchedulerProg DateTime := .perform SchedulerCall.clock

abbrev runHandler (task : AutomationTask) : SchedulerProg (Option String) :=
  .perform (SchedulerCall.handle task)

abbrev currentTask (taskId : String) : SchedulerProg (Option AutomationTask) :=
  .perform (SchedulerCall.get taskId)

/-- `repository.claim_due`. -/
def claimDueTasks (c : ClaimCall) : SchedulerProg (List AutomationTask) := do
  Prog.ofExcept (c.check.mapError .python)
  Prog.perform (SchedulerCall.quarantine c.now)
  Prog.perform (SchedulerCall.claim c)

/-! ### The loop -/

/-- How a claimed task left the loop. -/
inductive TaskExit
  | succeeded | failed | skipped
deriving DecidableEq

/-- The counters of a run. -/
structure SchedulerTally where
  processed : List String := []
  succeeded : ℕ := 0
  failed : ℕ := 0
  skipped : ℕ := 0

def SchedulerTally.count (t : SchedulerTally) : TaskExit → SchedulerTally
  | .succeeded => { t with succeeded := t.succeeded + 1 }
  | .failed => { t with failed := t.failed + 1 }
  | .skipped => { t with skipped := t.skipped + 1 }

def SchedulerTally.report (t : SchedulerTally) : SchedulerRunReport :=
  { claimed := t.processed.length, succeeded := t.succeeded, failed := t.failed, skipped := t.skipped }

namespace TaskScheduler

variable (x : TaskScheduler)

/-- The claim of an iteration. -/
def claimCall (now : DateTime) (processed : List String) : ClaimCall :=
  { now, limit := 1, workerId := x.workerId, leaseFor := x.leaseFor, excludeTaskIds := processed }

/-- The end of a task: a `TaskStateError` skips it. -/
def finishClaimed (task : AutomationTask) (error : Option String) (done : TaskExit) :
    SchedulerProg TaskExit := do
  let finishedAt ← clockNow
  tryCatch (do
    Prog.perform (SchedulerCall.finish task.taskId error finishedAt x.workerId); pure done) fun e =>
    match e with
    | .python (.valueError _) => pure .skipped
    | e => throw e

/-- The error of a task no handler is registered for. -/
def noHandler (taskType : String) : String := "no handler for task type " ++ taskType

/-- What the loop does with a claimed task. -/
def runTask (task : AutomationTask) : SchedulerProg TaskExit := do
  if x.handlers.contains task.taskType then
    match ← runHandler task with
    | some text =>
      let current ← currentTask task.taskId
      -- the handler rescheduled it: `FAILED` is not written over the backoff
      if current.any (·.status = .pending) then pure .failed
      else x.finishClaimed task (some text) .failed
    | none => x.finishClaimed task none .succeeded
  else x.finishClaimed task (some (noHandler task.taskType)) .failed

/-- The iterations that are left. -/
def runLoop : ℕ → SchedulerTally → SchedulerProg SchedulerRunReport
  | 0, tally => pure tally.report
  | n + 1, tally => do
    let now ← clockNow
    match ← claimDueTasks (x.claimCall now tally.processed) with
    | [] => pure tally.report
    | task :: _ =>
      let exit ← x.runTask task
      runLoop n ({ tally with processed := tally.processed ++ [task.taskId] }.count exit)

/-- `run_once`. -/
def runOnce (limit : ℤ) : SchedulerProg SchedulerRunReport :=
  if limit ≤ 0 then throw (.python (.valueError "limit must be positive"))
  else x.runLoop limit.toNat {}

end TaskScheduler

/-! ### The queue under it -/

/-- What took effect on the queue, or what the handler of a task came to. -/
inductive SchedulerEvent
  /-- A call of a handler, of another worker or of a service. -/
  | other (l : QueueCall)
  | quarantined (now : DateTime)
  | claimed (c : ClaimCall) (out : List AutomationTask)
  | ended (taskId : String) (raised : Option String)
  | finished (taskId : String) (error : Option String) (finishedAt : DateTime)

/-- It is the run's own. -/
def SchedulerEvent.own : SchedulerEvent → Bool
  | other _ => false
  | _ => true

/-- The call is not the worker's: who else claims, claims under another id. A
row it inserts has a fresh id. -/
structure Foreign (workerId : String) (db : TaskDb) (op : QueueOp) : Prop where
  fresh : ∀ row ∈ op.created db.activation, ∀ t ∈ db.tasks, t.taskId ≠ row.taskId
  owner : ∀ c, op = .claimDue c ∨ op = .claimTransaction c → c.workerId ≠ workerId

/-- The queue before and after an event. -/
def LogStep (workerId : String) (db : TaskDb) (e : SchedulerEvent) (db' : TaskDb) : Prop :=
  match e with
  | .other l => Foreign workerId db l.op ∧ QueueStep db l db'
  | .quarantined now => (QueueOp.quarantine now none).apply db = .ok (db', [])
  | .claimed c out => c.workerId = workerId ∧ (QueueOp.claimTransaction c).apply db = .ok (db', out)
  | .ended .. => db' = db
  | .finished taskId error finishedAt =>
    (QueueOp.finish taskId error finishedAt (some workerId)).apply db = .ok (db', [])

/-- The queue, and what happened to it. -/
structure SchedulerSite where
  db : TaskDb
  log : List SchedulerEvent := []

/-- The calls of the others, any number of them. -/
def Meanwhile (workerId : String) (s s' : SchedulerSite) : Prop :=
  ∃ ls : List SchedulerEvent, (∀ e ∈ ls, e.own = false) ∧ Run (LogStep workerId) s.db ls s'.db ∧
    s'.log = s.log ++ ls

def Logged (workerId : String) (s : SchedulerSite) (e : SchedulerEvent)
    (s' : SchedulerSite) : Prop :=
  LogStep workerId s.db e s'.db ∧ s'.log = s.log ++ [e]

/-- A call the database did not serve. -/
def Unserved {α : Type} (s : SchedulerSite) (r : Except SchedulerError α)
    (s' : SchedulerSite) : Prop :=
  (∃ text, r = .error (.operational text)) ∧ s' = s

/-- What a call of the run does. -/
def Serves (workerId : String) (s : SchedulerSite) :
    (c : SchedulerCall) → Except SchedulerError c.Answer → SchedulerSite → Prop
  | .clock, r, s' => (∃ t, r = .ok t) ∧ s' = s
  | .quarantine now, r, s' =>
    (r = .ok () ∧ Logged workerId s (.quarantined now) s') ∨ Unserved s r s'
  | .claim c, r, s' =>
    (∃ out, r = .ok out ∧ Logged workerId s (.claimed c out) s') ∨ Unserved s r s'
  | .handle task, r, s' =>
    ∃ raised, r = .ok raised ∧ Logged workerId s (.ended task.taskId raised) s'
  | .get taskId, r, s' => (r = .ok (byId s.db.tasks taskId) ∧ s' = s) ∨ Unserved s r s'
  | .finish taskId error finishedAt w, r, s' =>
    (w = workerId ∧ r = .ok () ∧ Logged workerId s (.finished taskId error finishedAt) s') ∨
      (∃ e, finishTask s.db.tasks taskId error finishedAt (some w) = .error e ∧
        r = .error (.python e) ∧ s' = s) ∨
      Unserved s r s'

/-- The others go on before every call. -/
def Works (workerId : String) (s : SchedulerSite) (c : SchedulerCall)
    (r : Except SchedulerError c.Answer) (s' : SchedulerSite) : Prop :=
  ∃ m, Meanwhile workerId s m ∧ Serves workerId m c r s'

end TemperatureMonitor
