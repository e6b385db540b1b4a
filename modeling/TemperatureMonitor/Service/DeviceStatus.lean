/-
# The projection of a device's status

`DeviceStatusProjector` for one device: `request` stores the desired fields and
asks for a task, `execute_task` reads the remote row and sends the fields that
differ, `handle_task` records a failure and reschedules the task. A step of the
projector is a call of `request`, or one round of the scheduler's worker: it
claims a task, handles it and finishes it.

The desired fields and the outcome of each remote call are inputs; the hash
of the fields is a parameter (`stableHash`).
-/
import TemperatureMonitor.Store.DeviceProjection
import TemperatureMonitor.Store.Queue

namespace TemperatureMonitor

/-! ### The remote row -/

/-- The device's row of the remote table; a field without a cell reads as null. -/
structure RemoteRow where
  recordId : String
  fields : String → Json

/-- An exception of a remote call: the code of a `FeishuAPIError`, the type's name and the text. -/
structure RemoteError where
  code : Option ℤ := none
  name : String := "FeishuAPIError"
  text : String
deriving DecidableEq

/-- `isinstance(exc, FeishuAPIError) and exc.code == 1254043`. -/
def RemoteError.recordDeleted (e : RemoteError) : Bool := e.code = some 1254043

/-- An update returns, or raises with the fields stored or not. -/
inductive UpdateOutcome
  | returned
  | raised (e : RemoteError) (stored : Bool)
deriving DecidableEq

def UpdateOutcome.isStored : UpdateOutcome → Bool
  | returned => true
  | raised _ stored => stored

/-! ### The projector -/

structure ProjectorConfig where
  /-- The device, in the spelling `_normalized_device` gives. -/
  deviceId : String
  activeDeviceIds : List String
  maxRetries : ℤ := 5
  /-- The backoff in microseconds. -/
  backoff : ℤ := 30000000
  workerId : String := "scheduler"

/-- The gates of an execution, as they are found. -/
structure ProjectionGates where
  projectionEnabled : Bool := true
  writeEnabled : Bool := true
  cutoverAck : Bool := true
  effectAllowed : Bool := true
  standardsReady : Bool := true
deriving DecidableEq

structure Projector where
  rows : List (DeviceStatusRow Json) := []
  db : TaskDb := {}
  remote : RemoteRow

/-- `now`, `force` and the desired fields of the moment; the id is the uuid of a new task. -/
structure StatusRequest where
  fields : DesiredFields
  now : DateTime
  force : Bool := false
  projectionEnabled : Bool := true
  newId : String

/-- A round of the worker: the claim, the time of the handler, what the gates and the remote calls
do, and the time the task is finished. -/
structure StatusRound where
  claimedAt : DateTime
  leaseFor : ℤ := 300000000
  excludeTaskIds : List String := []
  now : DateTime
  gates : ProjectionGates := {}
  schema : Option RemoteError := none
  read : Option RemoteError := none
  update : UpdateOutcome := .returned
  /-- The cells of the remote row once an update is stored. -/
  after : String → Json
  finishedAt : DateTime

section Projector

variable (py : PyText) (stableHash : DesiredFields → String) (cfg : ProjectorConfig)

def Projector.row (s : Projector) : Option (DeviceStatusRow Json) :=
  getDeviceStatus s.rows cfg.deviceId

/-- An update of the device's row. -/
def Projector.mark (s : Projector) (f : DeviceStatusRow Json → DeviceStatusRow Json) : Projector :=
  { s with rows := updateDeviceStatus s.rows cfg.deviceId f }

def projectionKey (hash : String) : String :=
  "PROJECT_DEVICE_STATUS:" ++ cfg.deviceId ++ ":" ++ hash

/-- The task `request` asks for. -/
def projectionSpec (a : RuntimeActivation) (r : StatusRequest) : TaskSpec :=
  { taskType := "PROJECT_DEVICE_STATUS"
    entityType := "DEVICE"
    entityId := cfg.deviceId
    dueAt := r.now
    payload := { deviceId := some cfg.deviceId
                 desiredHash := some (stableHash r.fields)
                 desiredFields := r.fields
                 externalEffectPolicy :=
                   some (if a.mode = "active" then "DEVICE_STATUS_PROJECTION" else "SHADOW_ONLY") }
    dedupeKey := some (projectionKey cfg (stableHash r.fields))
    createdAt := r.now }

/-- The desired fields are what is there already. -/
def settled (existing : Option (DeviceStatusRow Json)) (r : StatusRequest) (mode : String) : Bool :=
  !r.force && existing.any fun row =>
    row.desiredHash = some (stableHash r.fields) &&
        (row.status = .succeeded || row.status = .shadowOnly) &&
      !(row.status = .shadowOnly && r.projectionEnabled && mode = "active")

/-- `request`. What is stored before an exception stays. -/
def Projector.request (s : Projector) (r : StatusRequest) :
    Projector × Except PyError (Option AutomationTask) :=
  let existing := s.row cfg
  let hash := stableHash r.fields
  let saved :=
    { s with rows := saveDesired s.rows cfg.deviceId (existing.bind (·.recordId)) hash r.fields.json r.now }
  if existing.any (·.status = .remoteRecordDeleted) && !r.force then (saved, .ok none)
  else
    let activation := s.db.activation
    if activation.mode = "active" && !cfg.activeDeviceIds.contains cfg.deviceId then
      (saved.mark cfg (·.markShadowOnly r.now), .ok none)
    else if settled stableHash existing r activation.mode then (saved, .ok none)
    else
      match createOrGetUnfinished s.db.tasks activation r.newId
          (projectionSpec stableHash cfg activation r)
          (projectionKey cfg hash) with
      | .error e => (saved, .error e)
      | .ok (tasks, task) =>
        let queued := { saved with db := { s.db with tasks } }
        (if activation.mode = "active" then queued.mark cfg (·.markPending task.taskId)
         else queued.mark cfg (·.markShadowOnly r.now), .ok (some task))

/-- `changed_fields`, with the values asked for. -/
def changedCells (remote : String → Json) (fields : DesiredFields) : List (String × DeviceCell) :=
  fields.cells.filter fun c => !sameCell py (remote c.1) c.2.json

/-- A call of the device table's `update`. -/
structure UpdateCall where
  recordId : String
  cells : List (String × DeviceCell)
deriving DecidableEq

/-- `execute_task`: what it leaves, the update it sent and whether it raised. -/
def Projector.executeTask (s : Projector) (task : AutomationTask) (x : StatusRound) :
    Projector × Option UpdateCall × Option RemoteError :=
  match s.row cfg with
  | none => (s, none, none)
  | some row =>
    if row.desiredHash ≠ some (task.payload.desiredHash.getD "") then (s, none, none)
    else if row.status = .remoteRecordDeleted then (s, none, none)
    else
      let changed := changedCells py s.remote.fields task.payload.desiredFields
      if !x.gates.projectionEnabled then
        match x.schema <|> x.read with
        | some e => (s, none, some e)
        | none =>
          (s.mark cfg (·.markGated s.remote.recordId
            (task.payload.desiredFields.cells.map fun c => (c.1, s.remote.fields c.1))
              (changed.map (·.1)) x.now task.taskId),
            none, none)
      else if !x.gates.writeEnabled then
        (s, none, some { name := "RuntimeError", text := "FEISHU_WRITE_ENABLED=false; device status projection is disabled" })
      else if !x.gates.cutoverAck then
        (s, none, some { name := "RuntimeError", text := "ACTIVE_CUTOVER_ACK is not valid; device status projection is disabled" })
      else if !x.gates.effectAllowed then
        (s, none, some { name := "RuntimeError", text := "device status projection is outside current Active boundary" })
      else if !cfg.activeDeviceIds.contains cfg.deviceId then
        (s.mark cfg (·.markShadowOnly x.now), none, none)
      else if !x.gates.standardsReady then
        (s, none, some { name := "RuntimeError", text := "standards_ready=false; device status projection remains pending" })
      else
        match x.schema <|> x.read with
        | some e => (s, none, some e)
        | none =>
          let success := fun s : Projector =>
            s.mark cfg (·.markSuccess s.remote.recordId task.payload.desiredFields.json x.now)
          if changed.isEmpty then (success s, none, none)
          else
            let call := some { recordId := s.remote.recordId, cells := changed : UpdateCall }
            let sent :=
              if x.update.isStored then
                { s with remote := { s.remote with fields := x.after } } else s
            match x.update with
            | .returned => (success sent, call, none)
            | .raised e _ => (sent, call, some e)

/-- The delay before the next attempt, in microseconds. -/
def ProjectorConfig.delay (attempt : ℤ) : ℤ := max 1000000 (cfg.backoff * 2 ^ (attempt - 1).toNat)

/-- `handle_task`: what it leaves, the update it sent and the text of what it raised. -/
def Projector.handleTask (s : Projector) (task : AutomationTask) (x : StatusRound) :
    Projector × Option UpdateCall × Option String :=
  match s.executeTask py cfg task x with
  | (done, call, none) => (done, call, none)
  | (done, call, some e) =>
    if e.recordDeleted then
      (done.mark cfg (·.markRemoteRecordDeleted ((done.row cfg).bind (·.recordId)) e.text x.now),
        call, none)
    else
      let attempt := task.payload.projectionAttempt + 1
      let terminal : Bool := max 1 cfg.maxRetries ≤ attempt
      let marked := done.mark cfg (·.markFailure (e.name ++ ": " ++ e.text) x.now terminal)
      if terminal then (marked, call, some e.text)
      else
        match rescheduleRunning marked.db.tasks task (x.now.add (cfg.delay attempt)) x.now
            { task.payload with projectionAttempt := attempt } with
        | .ok tasks => ({ marked with db := { marked.db with tasks } }, call, some e.text)
        | .error _ => (marked, call, some "reconciliation task ownership was lost")

/-- `mark_succeeded` or `mark_failed`; where the lease was lost, the task is left. -/
def Projector.finishAs (s : Projector) (task : AutomationTask) (error : Option String)
    (x : StatusRound) : Projector :=
  match finishTask s.db.tasks task.taskId error x.finishedAt (some cfg.workerId) with
  | .ok tasks => { s with db := { s.db with tasks } }
  | .error _ => s

/-- The end of a round of the scheduler: a task that was put back is left, any other is finished. -/
def Projector.finish (s : Projector) (task : AutomationTask) (raised : Option String)
    (x : StatusRound) : Projector :=
  match raised with
  | none => s.finishAs cfg task none x
  | some e =>
    if (byId s.db.tasks task.taskId).any (·.status = .pending) then s
      else s.finishAs cfg task (some e) x

/-- What a round did: the task, the update it sent and whether its handler raised. -/
structure RoundResult where
  task : Option AutomationTask
  call : Option UpdateCall := none
  raised : Option String := none

/-- One round of the worker: claim, handle, finish. -/
def Projector.round (s : Projector) (x : StatusRound) : Projector × RoundResult :=
  match claimDue s.db { now := x.claimedAt, limit := 1, workerId := cfg.workerId, leaseFor := x.leaseFor
                        excludeTaskIds := x.excludeTaskIds } with
  | .ok (db, task :: _) =>
    let handled := ({ s with db } : Projector).handleTask py cfg task x
    (handled.1.finish cfg task handled.2.2 x, { task := some task, call := handled.2.1, raised := handled.2.2 })
  | .ok (db, []) => ({ s with db }, { task := none })
  | .error _ => (s, { task := none })

/-! ### Steps -/

/-- A call of `request`, or a round. -/
inductive ProjectorOp
  | request (r : StatusRequest)
  | round (x : StatusRound)

def ProjectorStep (s : Projector) (op : ProjectorOp) (s' : Projector) : Prop :=
  match op with
  | .request r => s' = (s.request stableHash cfg r).1
  | .round x => s' = (s.round py cfg x).1

end Projector

end TemperatureMonitor
