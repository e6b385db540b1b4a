/-
# What a call does to the row of an event

A write changes the row it is about as `EventWrite.onRow` says, and of the
other rows at most those that hand their record over. A local unit changes a
row as `UnitRow` says. No other call of the writer or of what runs it changes
a row.
-/
import TemperatureMonitor.Service.EventWork
import TemperatureMonitor.Service.RecoveryMarks
import TemperatureMonitor.Store.QueueRows

namespace TemperatureMonitor

/-! ### Writes -/

/-- The event a write is about. -/
def EventWrite.target : EventWrite → String
  | patch id _ | bindingPending id _ | recordMissing id _ | reserve id | outcome id .. | claim
    id .. | bind id _
  | effectPending id .. | effectSucceeded id .. | effectFailed id .. => id

/-- A row with the marker of an effect merged. -/
def EnvironmentEvent.marked (effectKey : String) (merge : Option EffectMarker → EffectMarker)
    (e : EnvironmentEvent) : EnvironmentEvent :=
  e.patch fun p =>
    { p with feishuExternalEffects := mergeMarker effectKey merge p.feishuExternalEffects }

/-- What a write makes of its row; a reservation and a claim only where they are granted. -/
def EventWrite.onRow (granted : Bool) (e : EnvironmentEvent) : EventWrite → EnvironmentEvent
  | patch _ values => e.patch values.apply
  | bindingPending _ at_ => e.patch (·.bindingPending at_)
  | recordMissing _ at_ => e.recordMissing at_
  | reserve _ => if granted then e.patch (·.reserved) else e
  | outcome _ o error at_ => (e.patch (·.createOutcome o error at_)).released
  | claim _ owner at_ seconds =>
    if granted then
      { e with createOwner := some owner
               createLeaseUntil := some ((DateTime.utc at_.instant).add (max 1 seconds * 1000000)) }
    else e
  | bind _ recordId => e.bound recordId
  | effectPending _ key actionType at_ => e.marked key fun m =>
      { m.getD { status := "" } with actionType := some actionType, status := "PENDING", requestedAt := some at_ }
  | effectSucceeded _ key at_ => e.marked key fun m =>
      { m.getD { status := "" } with status := "SUCCEEDED", completedAt := some at_, error := none }
  | effectFailed _ key error status => e.marked key fun m =>
      { m.getD { status := "" } with status := status, error := some error }

section Writes

variable {events events' : List EnvironmentEvent} {id : String} {e : EnvironmentEvent}
  {w : EventWrite} {b : Bool}

theorem eventById_updateOther {updated : String} {f : EnvironmentEvent → EnvironmentEvent}
    (hid : id ≠ updated) (he : eventById events id = some e) (hf : ∀ e, (f e).eventId = e.eventId) :
    eventById (updateEvent events updated f) id = some e := by
  have hr : List.Forall₂ (fun e e' => e'.eventId = e.eventId ∧
      (e.eventId ≠ updated → e' = e)) events
      (updateEvent events updated f) := by
    rw [updateEvent, List.forall₂_map_right_iff]
    refine List.forall₂_same.mpr fun e _ => ?_
    split_ifs with h
    · exact ⟨hf e, fun hne => absurd h hne⟩
    · exact ⟨rfl, fun _ => rfl⟩
  obtain ⟨e', he', -, heq⟩ := eventById_forall₂ (fun _ _ h => h.1) hr he
  rw [he', heq fun h => hid ((eventById_mem he).2.symm.trans h)]

/-- A transaction on one row. -/
theorem onEvent_row {updated : String} {f : EnvironmentEvent → EnvironmentEvent}
    (h : onEvent events updated f = .ok events') (he : eventById events id = some e)
    (hf : ∀ e, (f e).eventId = e.eventId) :
    eventById events' id = some (if id = updated then f e else e) := by
  unfold onEvent at h
  split at h
  · cases h
  · cases h
    by_cases hid : id = updated
    · subst hid
      rw [if_pos rfl]
      exact eventById_update hf he
    · rw [if_neg hid]
      exact eventById_updateOther hid he hf

/-- The rows of a bind: its own, and those that hand their record over. -/
theorem bindExternalRecord_row {recordId : String} {owner : String}
    (h : bindExternalRecord events owner recordId = .ok events')
    (he : eventById events id = some e) :
    (id = owner ∧ eventById events' id = some (e.bound recordId) ∧
        (e.payload.feishuRecordId = none ∨ e.payload.feishuRecordId = some recordId)) ∨
      (id ≠ owner ∧
        (eventById events' id = some e ∨
          eventById events' id = some (e.patch (·.superseded owner)))) := by
  have hbind : ∀ o, bindExternalRecord.bindTo events owner recordId o = .ok events' →
      eventById events' id = some (if id = owner then e.bound recordId
        else if e.payload.feishuRecordId = some recordId then e.patch (·.superseded owner)
          else e) := by
    intro o ho
    unfold bindExternalRecord.bindTo at ho
    split at ho
    · cases ho
    · cases ho
      have hr : List.Forall₂ (fun a b => b.eventId = a.eventId ∧
          b = (if a.eventId = owner then a.bound recordId
          else if a.payload.feishuRecordId = some recordId then a.patch (·.superseded owner)
            else a)) events
          (events.map fun other => if other.eventId = owner then other.bound recordId
            else if other.payload.feishuRecordId = some recordId then
              other.patch (·.superseded owner) else other) := by
        rw [List.forall₂_map_right_iff]
        refine List.forall₂_same.mpr fun a _ => ⟨?_, rfl⟩
        split_ifs <;> rfl
      obtain ⟨e', he', -, heq⟩ := eventById_forall₂ (fun _ _ h => h.1) hr he
      rw [he', heq, (eventById_mem he).2]
  unfold bindExternalRecord at h
  split_ifs at h
  split at h
  · cases h
  · rename_i o ho
    by_cases hid : id = owner
    · subst hid
      obtain rfl := Option.some.inj (he.symm.trans ho)
      left
      split at h
      · rename_i existing hex
        split_ifs at h with hne
        have hrow := hbind e h
        rw [if_pos rfl] at hrow
        exact ⟨rfl, hrow, .inr (by rw [hex, not_not.mp hne])⟩
      · rename_i hnone
        have hrow := hbind e h
        rw [if_pos rfl] at hrow
        exact ⟨rfl, hrow, .inl hnone⟩
    · right
      refine ⟨hid, ?_⟩
      have hrow : eventById events' id = some (if id = owner then e.bound recordId
          else if e.payload.feishuRecordId = some recordId then e.patch (·.superseded owner)
            else e) := by
        split at h
        · split_ifs at h
          exact hbind o h
        · exact hbind o h
      rw [if_neg hid] at hrow
      split_ifs at hrow
      · exact .inr hrow
      · exact .inl hrow

/-- A row behind an accepted write: the write's own row, a row that is left, or
one that hands its record over. -/
def EventWrite.Leaves (w : EventWrite) (granted : Bool) (e : EnvironmentEvent)
    (events' : List EnvironmentEvent) : Prop :=
  (e.eventId = w.target ∧ eventById events' e.eventId = some (w.onRow granted e)) ∨
    (e.eventId ≠ w.target ∧ (eventById events' e.eventId = some e ∨
      (∃ recordId, w = .bind w.target recordId) ∧
        eventById events' e.eventId = some (e.patch (·.superseded w.target))))

theorem EventWrite.leaves_onEvent {f : EnvironmentEvent → EnvironmentEvent}
    (hf : ∀ e, (f e).eventId = e.eventId)
    (hfe : f e = w.onRow b e) (h : onEvent events w.target f = .ok events')
    (he : eventById events e.eventId = some e) : w.Leaves b e events' := by
  have hrow := onEvent_row h he hf
  by_cases hid : e.eventId = w.target
  · rw [if_pos hid, hfe] at hrow
    exact .inl ⟨hid, hrow⟩
  · rw [if_neg hid] at hrow
    exact .inr ⟨hid, .inl hrow⟩

theorem EventWrite.leaves_effect {key : String} {merge : Option EffectMarker → EffectMarker}
    (hfe : e.marked key merge = w.onRow b e)
    (h : patchExternalEffect events w.target key merge = .ok events')
    (he : eventById events e.eventId = some e) : w.Leaves b e events' := by
  unfold patchExternalEffect at h
  split_ifs at h
  exact leaves_onEvent (f := (·.marked key merge)) (fun _ => rfl) hfe h he

/-- A write that is not granted leaves its row. -/
theorem EventWrite.leaves_refused (hrow : w.onRow b e = e)
    (he : eventById events e.eventId = some e) : w.Leaves b e events := by
  by_cases hid : e.eventId = w.target
  · exact .inl ⟨hid, hrow.symm ▸ he⟩
  · exact .inr ⟨hid, .inl he⟩

/-- **What an accepted write does to a row.** -/
theorem EventWrite.run_row (h : w.run events = .ok (events', b))
    (he : eventById events e.eventId = some e) : w.Leaves b e events' := by
  have happly : (w.run events).map Prod.fst = .ok events' := by rw [h]; rfl
  rw [EventWrite.run_fst] at happly
  cases w with
  | patch owner values =>
    exact leaves_onEvent (f := (·.patch values.apply)) (fun _ => rfl) rfl happly he
  | bindingPending owner at_ =>
    exact leaves_onEvent (f := (·.patch (·.bindingPending at_))) (fun _ => rfl) rfl happly he
  | recordMissing owner at_ =>
    exact leaves_onEvent (f := (·.recordMissing at_)) (fun _ => rfl) rfl happly he
  | outcome owner o error at_ =>
    exact leaves_onEvent (f := fun e => (e.patch (·.createOutcome o error at_)).released) (fun _ =>
      rfl) rfl happly he
  | effectPending owner key actionType at_ => exact leaves_effect rfl happly he
  | effectSucceeded owner key at_ => exact leaves_effect rfl happly he
  | effectFailed owner key error status => exact leaves_effect rfl happly he
  | reserve owner =>
    simp only [EventWrite.run, reserveExternalPost] at h
    split at h
    · cases h
    · rename_i o ho
      split_ifs at h
      · cases h
        exact leaves_refused rfl he
      · cases h
        refine leaves_onEvent (f := (·.patch (·.reserved))) (fun _ => rfl) rfl ?_ he
        show onEvent events owner _ = _
        unfold onEvent
        rw [ho]
  | claim owner by_ at_ seconds =>
    simp only [EventWrite.run, claimExternalCreate] at h
    split_ifs at h
    split at h
    · cases h
    · rename_i o ho
      split_ifs at h
      · cases h
        refine leaves_onEvent (f := fun e => { e with
          createOwner := some by_
          createLeaseUntil := some ((DateTime.utc at_.instant).add (max 1 seconds * 1000000)) })
          (fun _ => rfl) rfl ?_ he
        show onEvent events owner _ = _
        unfold onEvent
        rw [ho]
      · cases h
        exact leaves_refused rfl he
  | bind owner recordId =>
    rcases bindExternalRecord_row happly he with ⟨hid, hrow, -⟩ | ⟨hid, hrow | hrow⟩
    · exact .inl ⟨hid, hrow⟩
    · exact .inr ⟨hid, .inl hrow⟩
    · exact .inr ⟨hid, .inr ⟨⟨recordId, rfl⟩, hrow⟩⟩

end Writes

/-! ### Local units -/

/-- The values of an UPDATE sample on the row of its event. -/
def EnvironmentEvent.measured (m : MonitorSample) (e : EnvironmentEvent) : EnvironmentEvent :=
  e.patch fun p =>
    { p with
      temperature := m.temperature
      humidity := m.humidity
      peakTemperature := maxNumber p.peakTemperature m.temperature
      peakHumidity := maxNumber p.peakHumidity m.humidity }

/-- What a local unit makes of a row. -/
inductive UnitRow (i : SampleInput) (e : EnvironmentEvent) : EnvironmentEvent → Prop
  | same : UnitRow i e e
  | pending : UnitRow i e (e.patch (·.bindingPending i.now))
  | measured : UnitRow i e (e.measured i.sample)
  | recovered : UnitRow i e (e.recovered i.writesEnabled i.now)

section Units

variable {cfg : ServiceConfig} {i : SampleInput} {tr : StateTransition} {l l' : Local}
  {s s' : ServiceState}
  {id : String} {e : EnvironmentEvent} {formal : List ApplicationAction}

theorem projectCreate_row (h : projectCreate cfg i l = .ok l')
    (he : eventById l.events id = some e) :
    ∃ e', eventById l'.events id = some e' ∧ (e' = e ∨ e' = e.patch (·.bindingPending i.now)) := by
  unfold projectCreate at h
  split at h
  · cases h
  · rename_i events event hcreated
    have he' : eventById events id = some e := by
      unfold createOrGetActive at hcreated
      split_ifs at hcreated
      split at hcreated
      · cases hcreated
        exact he
      · cases hcreated
        exact eventById_append he _
    simp only at h
    split_ifs at h
    · split at h
      · cases h
      · rename_i events' hmark
        cases h
        unfold markExternalBindingPending at hmark
        have hrow := onEvent_row hmark he' fun _ => rfl
        split_ifs at hrow
        · exact ⟨_, hrow, .inr rfl⟩
        · exact ⟨_, hrow, .inl rfl⟩
    · cases h
      exact ⟨e, he', .inl rfl⟩

theorem projectUpdate_row {a : ApplicationAction} (h : projectUpdate i tr a l = .ok l')
    (he : eventById l.events id = some e) :
    eventById l'.events id = some (if (a.alarmId <|> tr.previous.activeAlarmId) = some id then
      e.measured i.sample else e) := by
  unfold projectUpdate at h
  split at h
  · rename_i hnone
    cases h
    rw [hnone, if_neg (by simp)]
    exact he
  · rename_i eventId hid
    rw [hid]
    split at h
    · rename_i hnone
      cases h
      rw [if_neg (by rintro ⟨rfl⟩; rw [he] at hnone; cases hnone)]
      exact he
    · rename_i event hevent
      split at h
      · cases h
      · rename_i events hpatch
        cases h
        unfold patchExternalProjection at hpatch
        have hrow := onEvent_row hpatch he fun _ => rfl
        show eventById events id = _
        rw [hrow]
        by_cases hsame : id = eventId
        · subst hsame
          obtain rfl := Option.some.inj (he.symm.trans hevent)
          rw [if_pos rfl, if_pos rfl]
          rfl
        · rw [if_neg hsame, if_neg fun h => hsame (Option.some.inj h).symm]

theorem projectRecovered_row {a : ApplicationAction} (h : projectRecovered i tr a l = .ok l')
    (he : eventById l.events id = some e) :
    eventById l'.events id = some (if (a.alarmId <|> tr.previous.activeAlarmId) = some id
      then e.recovered i.writesEnabled i.now else e) := by
  rcases projectRecovered_events h with ⟨hnone, rfl⟩ | ⟨eventId, event, hsome, hevent, hrows⟩
  · rw [hnone, if_neg (by simp)]
    exact he
  · rw [hsome, hrows]
    by_cases hsame : id = eventId
    · subst hsame
      rw [if_pos rfl]
      exact eventById_update (fun e => (sameCycle_recovered _ _ e).eventId) he
    · rw [if_neg fun h => hsame (Option.some.inj h).symm]
      exact eventById_updateOther hsame he fun e => (sameCycle_recovered _ _ e).eventId

theorem LocalMove.row (h : LocalMove cfg i tr l formal l') (he : eventById l.events id = some e) :
    ∃ e', eventById l'.events id = some e' ∧ UnitRow i e e' := by
  cases h with
  | quiet | started | dropped => exact ⟨e, he, .same⟩
  | recovering =>
    refine ⟨e, ?_, .same⟩
    unfold scheduleRecoveryTask
    split_ifs <;> exact he
  | verified _ _ hcreate =>
    obtain ⟨e', he', rfl | rfl⟩ := projectCreate_row hcreate he
    · exact ⟨_, he', .same⟩
    · exact ⟨_, he', .pending⟩
  | active _ _ hupdate =>
    have hrow := projectUpdate_row hupdate he
    split_ifs at hrow
    · exact ⟨_, hrow, .measured⟩
    · exact ⟨_, hrow, .same⟩
  | returned _ _ hupdate =>
    rw [← leaveRecovery_events] at he
    have hrow := projectUpdate_row hupdate he
    split_ifs at hrow
    · exact ⟨_, hrow, .measured⟩
    · exact ⟨_, hrow, .same⟩
  | recovered _ _ hmark =>
    rw [← leaveRecovery_events] at he
    have hrow := projectRecovered_row hmark he
    split_ifs at hrow
    · exact ⟨_, hrow, .recovered⟩
    · exact ⟨_, hrow, .same⟩

/-- **What a sample does to the row of an event.** -/
theorem handleSample_row {out : Option SampleOutput} (h : handleSample cfg i s = .ok (s', out))
    (he : eventById s.events id = some e) : ∃ e', eventById s'.events id = some e' ∧
      UnitRow i e e' := by
  cases out with
  | none =>
    unfold handleSample at h
    split_ifs at h
    · cases h
      exact ⟨e, he, .same⟩
    · split at h
      · cases h
      · split at h <;> cases h
  | some out =>
    obtain ⟨T⟩ := handleSample_trace h
    rw [T.events_eq]
    exact T.localMove.row he

end Units

/-! ### Calls -/

/-- A call of which the events of a site can differ. -/
def EventCall.touches : EventCall → Bool
  | .localUnit _ | .write _ => true
  | _ => false

section Calls

variable {t : Transport} {cfg : ServiceConfig} {s s' : Site} {id : String} {e : EnvironmentEvent}

theorem answered_keeps {α : Type} {result : Except PyError (Site × α)} {r : Except WriterFailure α}
    (hkeep : ∀ u a, result = .ok (u, a) → u.events = s.events) (h : answered s result r s') :
    s'.events = s.events := by
  unfold answered at h
  split at h
  · rw [h.2]
    exact hkeep _ _ rfl
  · rw [h.2]

/-- The other calls leave the events. -/
theorem answers_untouched {c : EventCall} {r : Except WriterFailure c.Answer}
    (hc : c.touches = false) (h : Answers t cfg s c r s') : s'.events = s.events := by
  cases c with
  | localUnit | write => cases hc
  | event | alarm | task =>
    simp only [Answers] at h
    exact answered_keeps (by rintro u a ⟨⟩; rfl) h
  | effect =>
    simp only [Answers] at h
    refine answered_keeps (fun u a hu => ?_) h
    obtain ⟨x, -, hx⟩ := map_ok hu
    cases hx
    rfl
  | pendingBindings =>
    obtain ⟨audited, h⟩ := h
    exact answered_keeps (by rintro u a ⟨⟩; rfl) h
  | createTask =>
    simp only [Answers] at h
    exact answered_keeps (by rintro u a ⟨⟩; rfl) h
  | createUnfinished | cancel | reschedule | finishTask =>
    simp only [Answers] at h
    refine answered_keeps (fun u a hu => ?_) h
    obtain ⟨x, -, hx⟩ := map_ok hu
    cases hx
    rfl
  | newOwner | readEvents => rw [h.1]
  | readDevices | eventOwner | deviceOwner | send | notify =>
    have hs : s' = s := h
    rw [hs]
  | post | update =>
    obtain ⟨rows, -, rfl⟩ := h
    rfl

/-- A write that is answered. -/
theorem answers_write_ok {w : EventWrite} {b : Bool} (h : Answers t cfg s (.write w) (.ok b) s') :
    w.run s.events = .ok (s'.events, b) ∧ s' = s.withEvents s'.events := by
  rcases answers_write h with ⟨e, -, herr, -⟩ | ⟨events, b', hrun, -, hb, rfl⟩
  · cases herr
  · cases hb
    exact ⟨hrun, rfl⟩

/-- **The row a write is about, where the write is answered.** -/
theorem answers_write_row {w : EventWrite} {b : Bool} (h : Answers t cfg s (.write w) (.ok b) s')
    (he : eventById s.events w.target = some e) :
    eventById s'.events w.target = some (w.onRow b e) := by
  have hid := (eventById_mem he).2
  rcases EventWrite.run_row (answers_write_ok h).1 (e := e)
    (hid.symm ▸ he) with ⟨-, hrow⟩ | ⟨hne, -⟩
  · exact hid ▸ hrow
  · exact absurd hid hne

end Calls

end TemperatureMonitor
