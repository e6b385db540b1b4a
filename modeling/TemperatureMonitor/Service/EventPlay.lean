/-
# Runs of the event writer that are computed

What a network does is a `Weather`; with it every call has one answer
(`Site.reply`), which is one that `Answers` allows (`reply_answers`). A session
of handlers is then computed turn by turn.
-/
import TemperatureMonitor.Service.EventCalls

namespace TemperatureMonitor

/-- What the network does of each request, given the rows. -/
structure Weather where
  read : List RemoteEvent → Except WriterFailure (List RemoteEvent) := .ok
  post : List RemoteEvent → EventFields → Except WriterFailure (Option String) × List RemoteEvent
  update : List RemoteEvent → String → EventFields → Except WriterFailure ℤ × List RemoteEvent :=
    fun rows recordId fields => (.ok 0, writeRecord rows recordId fields)
  devices : Except WriterFailure (List DeviceRecord) := .ok []
  send : SendOutcome := .returned none
  notify : Except WriterFailure Unit := .ok ()

/-- Every request is answered by one of them. -/
def Transport.of (P : Weather → Prop) : Transport where
  readEvents rows r := ∃ w, P w ∧ r = w.read rows
  post rows fields r rows' := ∃ w, P w ∧ (r, rows') = w.post rows fields
  update rows recordId fields r rows' := ∃ w, P w ∧ (r, rows') = w.update rows recordId fields

/-- The answer of a repository; a failure leaves the site. -/
def Site.settle {α : Type} (s : Site) : Except PyError (Site × α) → Except WriterFailure α × Site
  | .ok (u, a) => (.ok a, u)
  | .error e => (.error (.python e), s)

theorem settle_answered {α : Type} (s : Site) (result : Except PyError (Site × α)) :
    answered s result (s.settle result).1 (s.settle result).2 := by
  cases result with
  | ok p => exact ⟨rfl, rfl⟩
  | error e => exact ⟨rfl, rfl⟩

/-- The answer to a call. -/
def Site.reply (cfg : ServiceConfig) (w : Weather) (s : Site) : (c : EventCall) →
    Except WriterFailure c.Answer × Site
  | .localUnit i =>
    s.settle ((handleSample cfg i s.service).map fun p => ({ s with service := p.1 }, p.2))
  | .event id => (.ok (eventById s.events id), s)
  | .effect id key => s.settle ((getExternalEffect s.events id key).map fun m => (s, m))
  | .write write => s.settle ((write.run s.events).map fun p => (s.withEvents p.1, p.2))
  | .alarm deviceId => (.ok (s.service.alarms deviceId), s)
  | .task taskId => (.ok (byId s.service.tasks taskId), s)
  | .pendingBindings => (.ok (s.events.filter (pendingExternalBinding [])), s)
  | .createTask a spec =>
    let made := createOrGet s.service.tasks a (cfg.uuid s.service.drawn) spec
    (.ok made.2,
      { s with service := { s.service with tasks := made.1, drawn := s.service.drawn + 1 } })
  | .createUnfinished a spec key =>
    s.settle ((createOrGetUnfinished s.service.tasks a (cfg.uuid s.service.drawn) spec key).map
        fun made =>
      ({ s with service := { s.service with tasks := made.1, drawn := s.service.drawn + 1 } },
        made.2))
  | .cancel taskId at_ =>
    s.settle ((cancelTask s.service.tasks taskId at_).map fun tasks => (s.withTasks tasks, ()))
  | .reschedule task dueAt at_ payload =>
    s.settle ((rescheduleRunning s.service.tasks task dueAt at_ payload).map fun tasks =>
      (s.withTasks tasks, ()))
  | .finishTask taskId error at_ workerId =>
    s.settle ((TemperatureMonitor.finishTask s.service.tasks taskId error at_ (some workerId)).map
        fun tasks =>
      (s.withTasks tasks, ()))
  | .newOwner => (.ok "owner", s)
  | .readEvents => (w.read s.rows, s)
  | .readDevices => (w.devices, s)
  | .post fields _ => ((w.post s.rows fields).1, { s with rows := (w.post s.rows fields).2 })
  | .update recordId fields =>
    ((w.update s.rows recordId fields).1, { s with rows := (w.update s.rows recordId fields).2 })
  | .eventOwner _ | .deviceOwner _ => (.ok (.ok (some ("ou_1", "open_id"))), s)
  | .send .. => (.ok w.send, s)
  | .notify .. => (w.notify, s)

/-- **The answer is one the call can have.** -/
theorem reply_answers {P : Weather → Prop} {w : Weather} (hw : P w) (cfg : ServiceConfig) (s : Site)
    (c : EventCall) : Answers (.of P) cfg s c (s.reply cfg w c).1 (s.reply cfg w c).2 := by
  cases c with
  | localUnit | effect | write | createUnfinished | cancel | reschedule | finishTask =>
    exact settle_answered s _
  | event | alarm | task | createTask => exact ⟨rfl, rfl⟩
  | pendingBindings => exact ⟨[], rfl, rfl⟩
  | newOwner => exact ⟨rfl, "owner", rfl⟩
  | readEvents => exact ⟨rfl, w, hw, rfl⟩
  | readDevices | eventOwner | deviceOwner | send | notify => rfl
  | post | update => exact ⟨_, ⟨w, hw, rfl⟩, rfl⟩

end TemperatureMonitor
