/-
# What a sample does to the events

A verified alarm appends one event, when no event has its key and none of the
device is open; a recovery marks the event it names and closes it; all else a
sample does to the table is a write of its rows.
-/
import TemperatureMonitor.Service.SampleRun
import TemperatureMonitor.Store.Binding

namespace TemperatureMonitor

/-! ### Lookups -/

section Lookup

variable {events : List EnvironmentEvent} {eventId : String} {e : EnvironmentEvent}

theorem findByKey_none {key : String} (h : ∀ e ∈ events, e.eventKey ≠ key) :
    findByKey events key = none :=
  List.find?_eq_none.mpr fun e he => by simpa using h e he

theorem findActive_none {deviceId : String}
    (h : ∀ e ∈ events, e.deviceId = deviceId → e.status = .closed) :
    findActive events deviceId = none :=
  List.find?_eq_none.mpr fun e he => by
    by_cases hd : e.deviceId = deviceId
    · simp [h e he hd]
    · simp [hd]

end Lookup

/-! ### The event of a verified alarm -/

/-- The event a verified alarm opens. -/
structure NewEvent (cfg : ServiceConfig) (i : SampleInput) (drawn : ℕ) (start : DateTime)
    (e : EnvironmentEvent) : Prop where
  eventId : e.eventId = cfg.uuid drawn
  deviceId : e.deviceId = i.deviceId
  eventKey : e.eventKey = eventKey i.deviceId start
  violationStartedAt : e.payload.violationStartedAt = some start
  open_ : e.status = .open ∧ e.closedAt = none
  unrecovered : e.payload.feishuRecoveryPending = none ∧ e.payload.feishuRecoveredAt = none

/-- The row of the event whose recovery a sample confirms. -/
def EnvironmentEvent.recovered (writesEnabled : Bool) (now : DateTime) (e : EnvironmentEvent) :
    EnvironmentEvent :=
  (if writesEnabled then
    e.patch fun p => { p with feishuRecoveryPending := some true, feishuRecoveredAt := some now }
  else e).close now

section Project

variable {cfg : ServiceConfig} {i : SampleInput} {tr : StateTransition} {l l' : Local}
  {formal : List ApplicationAction}

/-- Creating finds an event, or appends the new one. -/
theorem projectCreate_cases (h : projectCreate cfg i l = .ok l') {start : DateTime}
    (hstart : l.next.violationStartedAt = some start) :
    (findByKey l.events (eventKey i.deviceId start) <|> findActive l.events i.deviceId) ≠ none ∧
        RowsWritten l.events l'.events ∨
      ∃ e, NewEvent cfg i l.drawn start e ∧ RowsWritten (l.events ++ [e]) l'.events ∧
        l'.next = { l.next with activeAlarmId := some (cfg.uuid l.drawn) } := by
  have hmark : ∀ {events events' : List EnvironmentEvent} {eventId : String},
      markExternalBindingPending events eventId i.now = .ok events' → RowsWritten events events' :=
    rowsWritten_onEvent fun e => .bindingPending i.now
  unfold projectCreate createOrGetActive at h
  rw [hstart, Option.getD_some] at h
  split at h
  · cases h
  · rename_i events event hcreated
    split_ifs at hcreated
    have hwrite : RowsWritten events l'.events ∧
        l'.next = { l.next with activeAlarmId := some event.eventId } := by
      simp only at h
      split_ifs at h
      · split at h
        · cases h
        · rename_i events' hm
          cases h
          exact ⟨hmark hm, rfl⟩
      · cases h
        exact ⟨rowsWritten_refl _, rfl⟩
    split at hcreated
    · rename_i existing hfound
      cases hcreated
      exact .inl ⟨by rw [hfound]; exact Option.some_ne_none _, hwrite.1⟩
    · cases hcreated
      exact .inr ⟨_, ⟨rfl, rfl, rfl, hstart, ⟨rfl, rfl⟩, rfl, rfl⟩, hwrite⟩

/-- Where the key is free and no event of the device is open, one is opened. -/
theorem projectCreate_events (h : projectCreate cfg i l = .ok l') {start : DateTime}
    (hstart : l.next.violationStartedAt = some start)
    (hkey : ∀ e ∈ l.events, e.eventKey ≠ eventKey i.deviceId start)
    (hclosed : ∀ e ∈ l.events, e.deviceId = i.deviceId → e.status = .closed) :
    ∃ e, NewEvent cfg i l.drawn start e ∧ RowsWritten (l.events ++ [e]) l'.events ∧
      l'.next = { l.next with activeAlarmId := some (cfg.uuid l.drawn) } := by
  refine (projectCreate_cases h hstart).resolve_left fun hx => hx.1 ?_
  rw [findByKey_none hkey, findActive_none hclosed]
  rfl

theorem projectUpdate_events {a : ApplicationAction} (h : projectUpdate i tr a l = .ok l') :
    RowsWritten l.events l'.events := by
  unfold projectUpdate at h
  split at h
  · cases h
    exact rowsWritten_refl _
  · split at h
    · cases h
      exact rowsWritten_refl _
    · split at h
      · cases h
      · rename_i events hpatch
        cases h
        exact rowsWritten_onEvent (fun e => .measured _ _ _ _) hpatch

theorem updateEvent_comp (events : List EnvironmentEvent) (eventId : String)
    {f g : EnvironmentEvent → EnvironmentEvent} (hf : ∀ e, (f e).eventId = e.eventId) :
    updateEvent (updateEvent events eventId f) eventId g = updateEvent events eventId fun e =>
      g (f e) := by
  unfold updateEvent
  rw [List.map_map]
  refine List.map_congr_left fun e _ => ?_
  simp only [Function.comp_apply]
  by_cases hid : e.eventId = eventId
  · rw [if_pos hid, if_pos ((hf e).trans hid), if_pos hid]
  · rw [if_neg hid, if_neg hid, if_neg hid]

/-- **A confirmed recovery** marks the event it names and closes it. -/
theorem projectRecovered_events {a : ApplicationAction} (h : projectRecovered i tr a l = .ok l') :
    (a.alarmId <|> tr.previous.activeAlarmId) = none ∧ l' = l ∨
      ∃ eventId e, (a.alarmId <|> tr.previous.activeAlarmId) = some eventId ∧
        eventById l.events eventId = some e ∧
        l'.events = updateEvent l.events eventId (·.recovered i.writesEnabled i.now) := by
  unfold projectRecovered at h
  split at h
  · rename_i hid
    cases h
    exact .inl ⟨hid, rfl⟩
  · rename_i eventId hid
    simp only at h
    split at h
    · cases h
    · rename_i events hmarked
      split at h
      · cases h
      · rename_i events' hclosed
        cases h
        unfold markRecovered onEvent at hclosed
        split at hclosed
        · cases hclosed
        · rename_i e₁ he₁
          cases hclosed
          split_ifs at hmarked with hw
          · unfold patchExternalProjection onEvent at hmarked
            split at hmarked
            · cases hmarked
            · rename_i e he
              cases hmarked
              refine .inr ⟨eventId, e, hid, he, ?_⟩
              refine (updateEvent_comp l.events eventId fun e => ?_).trans ?_
              · rfl
              · simp only [EnvironmentEvent.recovered, hw, if_true]
          · cases hmarked
            refine .inr ⟨eventId, e₁, hid, he₁, ?_⟩
            simp only [EnvironmentEvent.recovered, hw]
            rfl

theorem sameCycle_recovered (writesEnabled : Bool) (now : DateTime) (e : EnvironmentEvent) :
    SameCycle e (e.recovered writesEnabled now) := by
  unfold EnvironmentEvent.recovered
  split_ifs
  · have hmarked : SameCycle e (e.patch fun p =>
        { p with feishuRecoveryPending := some true, feishuRecoveredAt := some now }) :=
      ⟨rfl, rfl, rfl, rfl, rfl, id⟩
    exact hmarked.trans (sameCycle_close now _)
  · exact sameCycle_close now e

theorem recovered_status (writesEnabled : Bool) (now : DateTime) (e : EnvironmentEvent) :
    (e.recovered writesEnabled now).status = .closed :=
  EnvironmentEvent.close_status _ _

/-- What a sample does to the events. -/
inductive EventsMove (cfg : ServiceConfig) (i : SampleInput) (tr : StateTransition)
    (l l' : Local) : Prop
  | written : RowsWritten l.events l'.events → EventsMove cfg i tr l l'
  | opened (start : DateTime) (e : EnvironmentEvent) : tr.previous.state = .pending →
      tr.previous.violationStartedAt.getD i.now = start → tr.next.state = .alarm →
        NewEvent cfg i l.drawn start e →
      RowsWritten (l.events ++ [e]) l'.events → l'.drawn = l.drawn + 1 → EventsMove cfg i tr l l'
  | recovered (eventId : String) (e : EnvironmentEvent) :
      (tr.previous.state = .alarm ∨ tr.previous.state = .recovery) → tr.next.state = .normal →
      tr.previous.activeAlarmId = some eventId → eventById l.events eventId = some e →
      l'.events = updateEvent l.events eventId (·.recovered i.writesEnabled i.now) →
        EventsMove cfg i tr l l'

/-- **A sample writes rows, opens the event of a verified alarm, or marks the
event of a confirmed recovery.** -/
theorem LocalMove.eventsMove (h : LocalMove cfg i tr l formal l') (hl : l.next = tr.next) :
    EventsMove cfg i tr l l' := by
  cases h with
  | quiet => exact .written (rowsWritten_refl _)
  | started => exact .written (rowsWritten_refl _)
  | dropped => exact .written (rowsWritten_refl _)
  | verified hprev hformal hcreate =>
    have hstart : (projectFinish i tr l).next.violationStartedAt =
        some (tr.previous.violationStartedAt.getD i.now) := by
      show l.next.violationStartedAt = _
      rw [hl]
      exact hformal.violationStartedAt
    rcases projectCreate_cases hcreate hstart with ⟨-, hsame⟩ | ⟨e, hnew, hsame, -⟩
    · exact .written hsame
    · exact .opened _ e hprev rfl hformal.state hnew hsame (projectCreate_tasks hcreate).2
  | active _ _ hupdate => exact .written (projectUpdate_events hupdate)
  | returned _ _ hupdate =>
    have h := projectUpdate_events hupdate
    rw [leaveRecovery_events] at h
    exact .written h
  | recovering =>
    unfold scheduleRecoveryTask
    split_ifs <;> exact .written (rowsWritten_refl _)
  | recovered hprev hformal hmark =>
    have hid : ((eventAction tr .markAlarmRecovered tr.previous.activeAlarmId).alarmId <|>
        tr.previous.activeAlarmId) = tr.previous.activeAlarmId := by
      show (tr.previous.activeAlarmId <|> tr.previous.activeAlarmId) = _
      cases tr.previous.activeAlarmId <;> rfl
    rcases projectRecovered_events hmark with ⟨-, he⟩ | ⟨eventId, e, hevent, hfound, he⟩
    · refine .written ?_
      rw [he, leaveRecovery_events]
      exact rowsWritten_refl _
    · rw [leaveRecovery_events] at hfound he
      exact .recovered eventId e (hprev.imp And.left And.left)
        hformal.state (hid.symm.trans hevent) hfound he

/-- Every row stays the same cycle, but for the event of a verified alarm. -/
theorem LocalMove.events (h : LocalMove cfg i tr l formal l') (hl : l.next = tr.next) :
    SameCycles l.events l'.events ∨
    ∃ start e, tr.previous.state = .pending ∧ tr.previous.violationStartedAt.getD i.now = start ∧
      tr.next.state = .alarm ∧ NewEvent cfg i l.drawn start e ∧
        SameCycles (l.events ++ [e]) l'.events ∧
      l'.drawn = l.drawn + 1 := by
  cases h.eventsMove hl with
  | written hrows => exact .inl hrows.sameCycles
  | opened start e hprev hstart hnext hnew hrows hdrawn =>
    exact .inr ⟨start, e, hprev, hstart, hnext, hnew, hrows.sameCycles, hdrawn⟩
  | recovered eventId e _ _ _ _ he =>
    rw [he]
    exact .inl (sameCycles_update fun e => sameCycle_recovered _ _ e)

/-- A violation is pending since this sample, or as it was. -/
theorem LocalMove.pending (h : LocalMove cfg i tr l formal l') (hs : tr.next.state = .pending) :
    tr.previous.state = .pending ∧ tr.next.violationStartedAt = tr.previous.violationStartedAt ∨
      tr.previous.state = .normal ∧ tr.next.violationStartedAt = some i.now := by
  cases h with
  | quiet hformal => exact .inl ⟨hformal.state ▸ hs, hformal.violationStartedAt⟩
  | started hprev hformal => exact .inr ⟨hprev, hformal.violationStartedAt⟩
  | dropped _ hformal => exact absurd (hformal.state.symm.trans hs) (by simp [AlarmState.ofDevice])
  | verified _ hformal => exact absurd (hformal.state.symm.trans hs) (by simp)
  | active hprev hformal => exact absurd (hprev.symm.trans (hformal.state.symm.trans hs)) (by simp)
  | returned _ hformal => exact absurd (hformal.state.symm.trans hs) (by simp)
  | recovering _ _ hformal => exact absurd (hformal.state.symm.trans hs) (by simp)
  | recovered _ hformal =>
    exact absurd (hformal.state.symm.trans hs) (by simp [AlarmState.ofDevice])

end Project

end TemperatureMonitor
