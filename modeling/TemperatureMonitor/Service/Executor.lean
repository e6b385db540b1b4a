/-
# The executor of actions

`ActionExecutor`: one boundary before every handler. A list of actions is
executed one by one under the context of the call; `denied` is the first gate
that keeps an action from its handler, `handle` the handler itself. What the
injected providers answer at the moment of an action, and which handlers there
are, comes with the moment; a provider that raises denies.
-/
import TemperatureMonitor.Service.Sample

namespace TemperatureMonitor

inductive AutomationMode
  | disabled | shadow | active
deriving DecidableEq

def AutomationMode.value : AutomationMode → String
  | disabled => "disabled"
  | shadow => "shadow"
  | active => "active"

inductive ActionExecutionStatus
  | skipped | planned | succeeded | failed
deriving DecidableEq

/-! ### Values of a context -/

/-- A datetime object: aware, or a wall clock without an offset. -/
inductive PyDateTime
  | aware (t : DateTime)
  | naive (wall : ℤ)
deriving DecidableEq

/-- What a provider or a context key can hold. -/
inductive PyValue
  | none
  | text (s : String)
  | datetime (t : PyDateTime)
  | other (truth : Bool)
deriving DecidableEq

/-- `bool(value)`. -/
def PyValue.truth : PyValue → Bool
  | .none => false
  | .text s => s ≠ ""
  | .datetime _ => true
  | .other b => b

/-- `a or b`. -/
def PyValue.or (a b : PyValue) : PyValue := if a.truth then a else b

/-- The keys of an execution context that are read at the boundary or written
by a handler. `createdMode` and `activeEpoch` tell a missing key from `None`. -/
structure ActionContext where
  deviceId : Option String
  createdMode : Option (Option String) := none
  activeEpoch : Option (Option String) := none
  automationTaskId : Option String := none
  taskCreatedAt : PyValue := .none
  createdAt : PyValue := .none
  eventId : Option String := none
  dedupeKey : Option String := none
  externalEffectKey : Option String := none
  notificationAttemptedAt : Option DateTime := none
  result : Option String := none
  recipient : Option String := none
  receiveIdType : Option String := none
  messageId : Option String := none
  sentAt : Option DateTime := none
  errorCode : Option String := none
  retryable : Bool := false
  outcomeUnknown : Bool := false
deriving DecidableEq

/-- `ActionExecution`. -/
structure ActionExecution where
  action : ApplicationAction
  mode : AutomationMode
  status : ActionExecutionStatus
  error : Option String := none
  context : ActionContext
  createdAt : Option DateTime := none

/-! ### Times -/

/-- `value.replace("Z", "+00:00")`. -/
def replaceZ (s : String) : String :=
  String.ofList (s.toList.flatMap fun c => if c = 'Z' then "+00:00".toList else [c])

/-- `_coerce_datetime`. -/
def coerceDatetime (fromisoformat : String → Option PyDateTime) : PyValue → Option PyDateTime
  | .datetime t => some t
  | .text s => if blank s then none else fromisoformat (replaceZ s)
  | _ => none

/-- `_at_or_after`: a wall clock takes the offset of the other. -/
def atOrAfter : PyDateTime → PyDateTime → Bool
  | .naive w, .aware r => r.instant ≤ w - r.offset
  | .aware v, .naive r => r - v.offset ≤ v.instant
  | .aware v, .aware r => r.instant ≤ v.instant
  | .naive w, .naive r => r ≤ w

/-! ### The device scope -/

/-- An allowlist as it is configured. -/
inductive DeviceIds
  | absent
  | text (s : String)
  | ids (l : List String)

/-- The ids of an allowlist, before they are normalized. -/
def DeviceIds.raw : DeviceIds → List String
  | absent => []
  | text s => (s.toList.splitOn ',').map String.ofList
  | ids l => l

/-- `normalize_device_ids`. -/
def normalizeDeviceIds (upper : String → String) (l : List String) : List String :=
  l.filterMap (normalizeDeviceId upper)

/-- `active_scope_allows`, of an allowlist that is not `None`. -/
def activeScopeAllows (upper : String → String) (deviceId : String)
    (allowlist : List String) : Bool :=
  match normalizeDeviceId upper deviceId with
  | none => false
  | some id => decide (id ∈ normalizeDeviceIds upper allowlist)

/-! ### One action -/

structure ActionExecutor where
  mode : AutomationMode
  allowlist : DeviceIds
  /-- `str.upper`. -/
  upper : String → String
  /-- `datetime.fromisoformat`, `none` where it raises. -/
  fromisoformat : String → Option PyDateTime

/-- `self.active_device_ids`. -/
def ActionExecutor.activeDeviceIds (x : ActionExecutor) : List String :=
  normalizeDeviceIds x.upper x.allowlist.raw

/-- What the providers answer and the handlers do at the moment of an action.
A provider that is `none` was not injected; a handler answers with the context
it leaves and the text of what it raises. -/
structure Moment where
  standardsReadyProvider : Option (Except PyError Bool) := none
  activeEpochProvider : Option (Except PyError PyValue) := none
  activeCutoverAtProvider : Option (Except PyError PyValue) := none
  actionEnabledProvider : Option (ApplicationAction → Except PyError Bool) := none
  handlers : AlarmActionType → Option (ApplicationAction → Option String) := fun _ => none
  contextHandlers : AlarmActionType →
    Option (ApplicationAction → ActionContext → ActionContext × Option String) := fun _ => none

/-- A provider's answer, or what stands for one that raises. -/
def answer {α : Type} (fallback : α) : Except PyError α → α
  | .ok value => value
  | .error _ => fallback

/-- `standards_ready`. -/
def Moment.standardsReady (m : Moment) : Bool :=
  match m.standardsReadyProvider with
  | none => false
  | some provided => answer false provided

/-- The context of one action: its own identities go first. -/
def ActionContext.forAction (c : ActionContext) (a : ApplicationAction) : ActionContext :=
  { c with
    automationTaskId := a.taskId <|> c.automationTaskId
    eventId := a.alarmId <|> c.eventId
    dedupeKey := a.dedupeKey <|> c.dedupeKey
    externalEffectKey := if truthy a.payload.externalEffectKey then a.payload.externalEffectKey
      else c.externalEffectKey }

/-- `has_task_context`. -/
def ActionContext.hasTask (c : ActionContext) : Bool :=
  c.automationTaskId.isSome || c.createdMode.isSome || c.activeEpoch.isSome

/-- The value of an optional text. -/
def PyValue.ofText (s : Option String) : PyValue := s.elim .none .text

/-- `context.get("task_created_at") or context.get("created_at") or created_at`. -/
def ActionContext.taskTime (c : ActionContext) (createdAt : Option DateTime) : PyValue :=
  c.taskCreatedAt.or (c.createdAt.or (createdAt.elim .none fun t => .datetime (.aware t)))

/-- How a refused action ends. -/
abbrev Refusal := ActionExecutionStatus × Option String

section Gates

variable (x : ActionExecutor) (m : Moment) (c : ActionContext) (createdAt : Option DateTime)
  (a : ApplicationAction)

/-- `None` as an f-string prints it. -/
def printed (s : Option String) : String := s.getD "None"

/-- The device scope: the context's device is allowed, and is the action's. -/
def deniedDevice : Option Refusal :=
  match c.deviceId.bind (normalizeDeviceId x.upper) with
  | none => some (.failed, some ("active action requires a non-empty context.device_id; " ++
      "refusing external write"))
  | some deviceId =>
    if x.activeDeviceIds = [] then
      some (.planned, some "ACTIVE_DEVICE_IDS is empty; action remains PLANNED")
    else if activeScopeAllows x.upper deviceId x.activeDeviceIds = false then
      some (.planned, some ("device_id " ++ deviceId ++ " is not in ACTIVE_DEVICE_IDS; " ++
        "action remains PLANNED"))
    else if normalizeDeviceId x.upper a.deviceId ≠ some deviceId then
      some (.failed,
          some ("active action device scope mismatch: " ++ "context.device_id=" ++ deviceId ++
        ", action.device_id=" ++ printed (normalizeDeviceId x.upper a.deviceId) ++
          "; refusing external write"))
    else none

/-- The epoch the task was created in is the current one. -/
def epochCurrent (current : PyValue) : Bool :=
  c.createdMode.join = some "active" && current.truth && PyValue.ofText c.activeEpoch.join = current

/-- The task is not older than the cutover. -/
def afterCutover (cutover : PyValue) : Bool :=
  match coerceDatetime x.fromisoformat cutover,
    coerceDatetime x.fromisoformat (c.taskTime createdAt) with
  | some cutoverAt, some taskCreatedAt => atOrAfter taskCreatedAt cutoverAt
  | _, _ => false

/-- The epoch and the cutover, where an epoch provider is injected. -/
def deniedEpoch : Option Refusal :=
  match m.activeEpochProvider with
  | none => none
  | some provided =>
    if c.hasTask = false then none
    else if epochCurrent c (answer .none provided) = false then
      some (.planned,
        some "external effect is outside the current Active epoch; action remains PLANNED")
    else match m.activeCutoverAtProvider with
    | none => none
    | some cutover =>
      if afterCutover x c createdAt (answer .none cutover) = false then
        some (.planned,
          some "external effect is before the current Active cutover; action remains PLANNED")
      else none

/-- The feature gate, where it is injected. -/
def deniedFeature : Option Refusal :=
  match m.actionEnabledProvider with
  | none => none
  | some enabled =>
    if answer false (enabled a) = false then
      some (.skipped,
        some ("action " ++ a.actionType.value ++ " is disabled by its runtime feature gate"))
    else none

/-- The gates of `_execute_one`, in their order: how the first closed one ends
the action. -/
def denied : Option Refusal :=
  match x.mode with
  | .disabled => some (.skipped, none)
  | .shadow => some (.planned, none)
  | .active =>
    if m.standardsReady = false then
      some (.planned, some "standards_ready=false; production action remains PLANNED")
    else deniedDevice x c a <|> deniedEpoch x m c createdAt <|> deniedFeature m a

/-- The handler of an action: the context it leaves, and what it raises. -/
def Moment.handle : Option (ActionContext × Option String) :=
  match m.contextHandlers a.actionType with
  | some handler => some (handler a c)
  | none => (m.handlers a.actionType).map fun handler => (c, handler a)

/-- An execution, and whether a handler ran. -/
structure Executed where
  execution : ActionExecution
  handled : Bool

/-- `_execute_one`. -/
def executeOne : Executed :=
  let ended := fun (status : ActionExecutionStatus) (error : Option String)
      (context : ActionContext) =>
    ({ action := a, mode := x.mode, status, error, context, createdAt } : ActionExecution)
  match denied x m c createdAt a with
  | some refusal => ⟨ended refusal.1 refusal.2 c, false⟩
  | none =>
    match m.handle c a with
    | none => ⟨ended .failed (some ("no handler for " ++ a.actionType.value)) c, false⟩
    | some (context, some error) => ⟨ended .failed (some error) context, true⟩
    | some (context, none) => ⟨ended .succeeded none context, true⟩

end Gates

/-- `execute`; the moments of the actions by their place in the list. -/
def ActionExecutor.execute (x : ActionExecutor) (moments : ℕ → Moment) (c : ActionContext)
    (createdAt : Option DateTime) (actions : List ApplicationAction) : List Executed :=
  actions.mapIdx fun i a => executeOne x (moments i) (c.forAction a) createdAt a

end TemperatureMonitor
