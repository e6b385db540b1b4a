/-
# The calls of the event writer

The table of remote events, and every call the event writer and its callers
make: on the repositories, which answer at once and as they are modelled, and
over the network, where a `Transport` says what can happen. A failed request
can have changed the table, and a read can lag behind it. What the sender of
messages does is in its answer.
-/
import TemperatureMonitor.Library.Program
import TemperatureMonitor.Service.PrewarningNotice

namespace TemperatureMonitor

/-! ### The remote table -/

/-- The cells of a write; `none` is a cell that is left alone. A recovery time
may be cleared. -/
structure EventFields where
  deviceId : Option String := none
  deviceIdText : Option String := none
  area : Option String := none
  startTime : Option ℤ := none
  status : Option String := none
  owner : Option Json := none
  controlRequirement : Option String := none
  recoveryTime : Option (Option ℤ) := none
  peakTemperature : Option ℚ := none
  peakHumidity : Option ℚ := none
  triggerTemperatureStatus : Option String := none
  triggerHumidityStatus : Option String := none
  anomalyType : Option String := none

/-- `not fields`. -/
def EventFields.isEmpty (f : EventFields) : Bool :=
  f.deviceId.isNone && f.deviceIdText.isNone && f.area.isNone && f.startTime.isNone &&
      f.status.isNone &&
    f.owner.isNone && f.controlRequirement.isNone && f.recoveryTime.isNone &&
      f.peakTemperature.isNone &&
    f.peakHumidity.isNone && f.triggerTemperatureStatus.isNone && f.triggerHumidityStatus.isNone &&
    f.anomalyType.isNone

/-- A record of the event table, as far as the writer reads it: the texts of
its cells, and the instant of its start in milliseconds. -/
structure RemoteEvent where
  recordId : String
  device : String
  deviceText : String := ""
  startText : String
  startTime : Option ℤ
  recoveryTime : Option ℤ := none
  status : String := ""
  /-- The formula field of the business closure, where the table has it. -/
  closure : Option String := none
  peakTemperature : Option ℚ := none
  peakHumidity : Option ℚ := none
deriving DecidableEq

/-- A write of some cells. -/
def RemoteEvent.write (f : EventFields) (r : RemoteEvent) : RemoteEvent :=
  { r with
    device := f.deviceId.getD r.device
    deviceText := f.deviceIdText.getD r.deviceText
    startText := (f.startTime.map toString).getD r.startText
    startTime := f.startTime <|> r.startTime
    recoveryTime := f.recoveryTime.getD r.recoveryTime
    status := f.status.getD r.status
    peakTemperature := f.peakTemperature <|> r.peakTemperature
    peakHumidity := f.peakHumidity <|> r.peakHumidity }

/-- The record a POST makes. -/
def EventFields.record (f : EventFields) (recordId : String) : RemoteEvent :=
  RemoteEvent.write f { recordId, device := "", startText := "", startTime := none }

def writeRecord (rows : List RemoteEvent) (recordId : String) (f : EventFields) :
    List RemoteEvent :=
  rows.map fun r => if r.recordId = recordId then r.write f else r

/-- A record of the device table: its device, its owner, and its control requirement. -/
structure DeviceRecord where
  device : String
  owner : Json
  controlRequirement : String

/-! ### Failures -/

/-- The class of what a transport raises. -/
inductive TransportErrorKind
  /-- Explicit evidence that the CREATE did not reach the table. -/
  | notPersisted
  | notRetryable
  | outcomeUnknown
  /-- `FeishuAPIError`. -/
  | api (code : ℤ) (outcomeUnknown : Bool)
  /-- `TimeoutError` and `ConnectionError`. -/
  | timeout
  /-- Another `RuntimeError`, and another exception. -/
  | runtime
  | other
deriving DecidableEq

/-- What a handler raises. -/
inductive WriterFailure
  | python (e : PyError)
  /-- `FeishuWriteError`. -/
  | refused (text : String)
  | transport (kind : TransportErrorKind) (text : String)
  | notification (e : NotificationError)
deriving DecidableEq

/-- `str(exc)`. -/
def WriterFailure.text : WriterFailure → String
  | python (.keyError text) => reprText (some text)
  | python (.valueError text) | python (.runtimeError text) | python (.integrityError text) => text
  | refused text | transport _ text => text
  | notification e => e.text

/-- `_create_failure_outcome`. -/
def createFailureOutcome : WriterFailure → ExternalCreateOutcome
  | .transport .notPersisted _ => .retryable
  | .transport .notRetryable _ => .notRetryable
  | .transport .outcomeUnknown _ => .unknown
  | .transport (.api _ outcomeUnknown) _ => if outcomeUnknown then .unknown else .notRetryable
  | .transport .timeout _ => .unknown
  | .transport .runtime _ | .refused _ | .notification _ | .python (.runtimeError _) => .unknown
  | .transport .other _ | .python _ => .notRetryable

/-- `_is_deleted_feishu_record`. -/
def isDeletedFeishuRecord : WriterFailure → Bool
  | .transport (.api code _) _ => code = 1254043
  | _ => false

/-! ### The calls -/

inductive EventCall
  /-- The local unit of work of a sample. -/
  | localUnit (i : SampleInput)
  | event (eventId : String)
  | effect (eventId effectKey : String)
  | write (w : EventWrite)
  | alarm (deviceId : String)
  | task (taskId : String)
  /-- `list_pending_external_bindings`. -/
  | pendingBindings
  | createTask (a : RuntimeActivation) (spec : TaskSpec)
  | createUnfinished (a : RuntimeActivation) (spec : TaskSpec) (key : String)
  | cancel (taskId : String) (updatedAt : DateTime)
  | reschedule (task : AutomationTask) (dueAt updatedAt : DateTime) (payload : TaskPayload)
  /-- The end of a claimed task by its worker. -/
  | finishTask (taskId : String) (error : Option String) (finishedAt : DateTime) (workerId : String)
  /-- `uuid4`, for the owner of a create lease. -/
  | newOwner
  | readEvents
  | readDevices
  | post (fields : EventFields) (token : String)
  | update (recordId : String) (fields : EventFields)
  /-- The read of the event table, and the recipient the owner of a record names. -/
  | eventOwner (recordId : String)
  /-- The read of the device table, and the recipient the owner of a device names. -/
  | deviceOwner (deviceId : String)
  | send (recipient receiveIdType idempotencyKey : String)
  /-- The message of a prewarning, which has no event, by its own handler. -/
  | notify (m : Message) (at_ : DateTime)

/-- What a call answers. A reservation and a claim say whether they were
granted, a POST gives the id of its record, an update the code of its response. -/
abbrev EventCall.Answer : EventCall → Type
  | localUnit _ => Option SampleOutput
  | event _ => Option EnvironmentEvent
  | effect .. => Option EffectMarker
  | write _ => Bool
  | alarm _ => Option AlarmState
  | task _ => Option AutomationTask
  | pendingBindings => List EnvironmentEvent
  | createTask .. | createUnfinished .. => AutomationTask
  | cancel .. | reschedule .. | finishTask .. | notify .. => Unit
  | newOwner => String
  | readEvents => List RemoteEvent
  | readDevices => List DeviceRecord
  | post .. => Option String
  | update .. => ℤ
  | eventOwner _ | deviceOwner _ => Except String (Option (String × String))
  | send .. => SendOutcome

/-- A handler and what runs it. -/
abbrev EventProg := Prog EventCall EventCall.Answer WriterFailure

/-! ### One call -/

abbrev getEvent (eventId : String) : EventProg (Option EnvironmentEvent) :=
  .perform (EventCall.event eventId)

abbrev getEventEffect (eventId effectKey : String) : EventProg (Option EffectMarker) :=
  .perform (EventCall.effect eventId effectKey)

abbrev writeEvent (w : EventWrite) : EventProg Bool := .perform (EventCall.write w)

abbrev getAlarm (deviceId : String) : EventProg (Option AlarmState) :=
  .perform (EventCall.alarm deviceId)

abbrev getTask (taskId : String) : EventProg (Option AutomationTask) :=
  .perform (EventCall.task taskId)

abbrev listPendingBindings : EventProg (List EnvironmentEvent) := .perform EventCall.pendingBindings

abbrev createTask (a : RuntimeActivation) (spec : TaskSpec) : EventProg AutomationTask :=
  .perform (EventCall.createTask a spec)

abbrev createUnfinished (a : RuntimeActivation) (spec : TaskSpec) (key : String) :
    EventProg AutomationTask :=
  .perform (EventCall.createUnfinished a spec key)

abbrev newOwner : EventProg String := .perform EventCall.newOwner

abbrev readEvents : EventProg (List RemoteEvent) := .perform EventCall.readEvents

abbrev readDevices : EventProg (List DeviceRecord) := .perform EventCall.readDevices

abbrev postRecord (fields : EventFields) (token : String) : EventProg (Option String) :=
  .perform (EventCall.post fields token)

abbrev updateRecord (recordId : String) (fields : EventFields) : EventProg ℤ :=
  .perform (EventCall.update recordId fields)

/-- What is on the network side: what a read of the rows answers, and what a
POST or an update of them answers and leaves. -/
structure Transport where
  readEvents : List RemoteEvent → Except WriterFailure (List RemoteEvent) → Prop
  post : List RemoteEvent → EventFields → Except WriterFailure (Option String) →
    List RemoteEvent → Prop
  update : List RemoteEvent → String → EventFields → Except WriterFailure ℤ →
    List RemoteEvent → Prop

/-- The repositories and the remote table. -/
structure Site where
  service : ServiceState := {}
  rows : List RemoteEvent := []

def Site.events (s : Site) : List EnvironmentEvent := s.service.events

def Site.withEvents (s : Site) (events : List EnvironmentEvent) : Site :=
  { s with service := { s.service with events } }

def Site.withTasks (s : Site) (tasks : List AutomationTask) : Site :=
  { s with service := { s.service with tasks } }

/-- A write with what it answers. -/
def EventWrite.run (events : List EnvironmentEvent) : EventWrite →
    Except PyError (List EnvironmentEvent × Bool)
  | .reserve id => reserveExternalPost events id
  | .claim id owner at_ seconds => claimExternalCreate events id owner at_ seconds
  | w => (w.apply events).map fun events => (events, true)

/-- Bound rows are found by their flags, unbound ones by their marker or by the
audit of an earlier CREATE. -/
def pendingExternalBinding (audited : List String) (e : EnvironmentEvent) : Bool :=
  let p := e.payload
  p.externalEffectPolicy ≠ some "SHADOW_ONLY" && p.feishuRecordMissing ≠ some true &&
    ((!truthy p.feishuRecordId &&
        (p.feishuBindingStatus = some "PENDING" || audited.contains e.eventId)) ||
      p.feishuRecoveryPending = some true || p.feishuUpdatePending = some true)

/-- An answer that leaves the site as it is, or changes it. -/
def answered {α : Type} (s : Site) (result : Except PyError (Site × α)) (r : Except WriterFailure α)
    (s' : Site) : Prop :=
  match result with
  | .ok (t, a) => r = .ok a ∧ s' = t
  | .error e => r = .error (.python e) ∧ s' = s

/-- What a call does. -/
def Answers (t : Transport) (cfg : ServiceConfig) (s : Site) :
    (c : EventCall) → Except WriterFailure c.Answer → Site → Prop
  | .localUnit i, r, s' =>
    answered s ((handleSample cfg i s.service).map fun p => ({ s with service := p.1 }, p.2)) r s'
  | .event id, r, s' => answered s (.ok (s, eventById s.events id)) r s'
  | .effect id key, r, s' =>
    answered s ((getExternalEffect s.events id key).map fun m => (s, m)) r s'
  | .write w, r, s' => answered s ((w.run s.events).map fun p => (s.withEvents p.1, p.2)) r s'
  | .alarm deviceId, r, s' => answered s (.ok (s, s.service.alarms deviceId)) r s'
  | .task taskId, r, s' => answered s (.ok (s, byId s.service.tasks taskId)) r s'
  | .pendingBindings, r, s' =>
    ∃ audited, answered s (.ok (s, s.events.filter (pendingExternalBinding audited))) r s'
  | .createTask a spec, r, s' =>
    let made := createOrGet s.service.tasks a (cfg.uuid s.service.drawn) spec
    answered s
      (.ok ({ s with service := { s.service with tasks := made.1, drawn := s.service.drawn + 1 } },
      made.2)) r s'
  | .createUnfinished a spec key, r, s' =>
    answered s
        ((createOrGetUnfinished s.service.tasks a (cfg.uuid s.service.drawn) spec key).map
        fun made =>
      ({ s with service := { s.service with tasks := made.1, drawn := s.service.drawn + 1 } },
        made.2)) r s'
  | .cancel taskId at_, r, s' =>
    answered s ((cancelTask s.service.tasks taskId at_).map fun tasks =>
      (s.withTasks tasks, ())) r s'
  | .reschedule task dueAt at_ payload, r, s' =>
    answered s ((rescheduleRunning s.service.tasks task dueAt at_ payload).map fun tasks =>
      (s.withTasks tasks, ())) r s'
  | .finishTask taskId error at_ workerId, r, s' =>
    answered s ((TemperatureMonitor.finishTask s.service.tasks taskId error at_ (some workerId)).map
        fun tasks =>
      (s.withTasks tasks, ())) r s'
  | .newOwner, r, s' => s' = s ∧ ∃ owner, r = .ok owner
  | .readEvents, r, s' => s' = s ∧ t.readEvents s.rows r
  | .readDevices, _, s' => s' = s
  | .post fields _, r, s' => ∃ rows, t.post s.rows fields r rows ∧ s' = { s with rows }
  | .update recordId fields, r, s' =>
    ∃ rows, t.update s.rows recordId fields r rows ∧ s' = { s with rows }
  | .eventOwner _, _, s' | .deviceOwner _, _, s' | .send .., _, s' | .notify .., _, s' => s' = s

/-! ### What the calls keep -/

section Keeps

variable {t : Transport} {cfg : ServiceConfig} {s s' : Site}

theorem EventWrite.run_fst {events : List EnvironmentEvent} (w : EventWrite) :
    (w.run events).map Prod.fst = w.apply events := by
  cases w with
  | reserve | claim => rfl
  | _ =>
    simp only [EventWrite.run]
    cases EventWrite.apply events _ <;> rfl

/-- A write changes the rows as it is applied, or nothing. -/
theorem answers_write {w : EventWrite} {r : Except WriterFailure Bool}
    (h : Answers t cfg s (.write w) r s') :
    (∃ e, w.apply s.events = .error e ∧ r = .error (.python e) ∧ s' = s) ∨
      ∃ events b, w.run s.events = .ok (events, b) ∧ w.apply s.events = .ok events ∧ r = .ok b ∧
        s' = s.withEvents events := by
  have hfst : (w.run s.events).map Prod.fst = w.apply s.events := EventWrite.run_fst w
  simp only [Answers] at h
  cases hrun : w.run s.events with
  | error e =>
    rw [hrun] at h hfst
    exact .inl ⟨e, hfst.symm, h.1, h.2⟩
  | ok p =>
    rw [hrun] at h hfst
    exact .inr ⟨p.1, p.2, rfl, hfst.symm, h.1, h.2⟩

end Keeps

end TemperatureMonitor
