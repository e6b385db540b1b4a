/-
# One recovery for a cycle

The recovery of an event has two times: the start of its window, which keys
the notification of the sample that confirms it, and the confirmation, which
the event records and which keys the notification of every attempt
(`RecoveryOf`). With a window the two differ. `one_recovery_iff`: the
notifications are one key, one task and one message exactly in the runs in
which no attempt finds the recovery pending.
-/
import TemperatureMonitor.Service.RecoveryNotice

namespace TemperatureMonitor

/-! ### The statement -/

/-- The task of a recovery notification of the event. -/
structure RecoveryTask (t : AutomationTask) (eventId : String) : Prop where
  taskType : t.taskType = "NOTIFY_RECOVERY"
  entityId : t.entityId = eventId

/-- The message tells of the recovery of the event. -/
def Message.Recovers (m : Message) (eventId : String) : Prop :=
  m.actionType = .notifyRecovery ∧ m.eventId = eventId

/-- The recovery notifications of the event have one dedupe key and resolve to
one effect key, inline and from a task; there is one task at most, and behind a
message that was sent none calls the sender. -/
structure OneRecovery (ls : List Label) (w : World) (eventId : String) : Prop where
  key : ∀ e ∈ w.emitted, ∀ e' ∈ w.emitted, RecoveryNotice e eventId → RecoveryNotice e' eventId →
    e.action.dedupeKey = e'.action.dedupeKey
  effect : ∀ m m', Deliverable w m → Deliverable w m' → m.Recovers eventId → m'.Recovers eventId →
    m.key = m'.key
  task : ∀ t ∈ w.service.tasks, ∀ t' ∈ w.service.tasks, RecoveryTask t eventId →
    RecoveryTask t' eventId → t = t'
  sent : ls.Pairwise fun l l' => ∀ m m' d, l = .deliver m .sent → l' = .deliver m' d →
      m.Recovers eventId →
    m'.Recovers eventId → d.calls = false

/-- An attempt finds the recovery of the event pending, and there is a recovery
window. -/
def repeatsRecovery (cfg : ServiceConfig) (eventId : String) (w : World) (l : Label) : Bool :=
  decide (cfg.machine.recoveryAfter ≠ 0) && cfg.emitNotifications && findsRecovery cfg eventId w l

/-! ### The two times of a recovery -/

structure RecoveryTimes where
  started : DateTime
  confirmed : DateTime

/-- What a confirmed recovery leaves behind. -/
structure Confirmed (cfg : ServiceConfig) (eventId : String) (ls : List Label) (w : World)
    (t : RecoveryTimes) : Prop where
  counted : 0 < ls.countP (Label.recovers eventId)
  found : ∃ e, eventById w.service.events eventId = some e
  inline : cfg.emitNotifications = true → ∃ e ∈ w.emitted, RecoveryNotice e eventId ∧
    NoticeFrom e eventId t.started
  window : cfg.machine.recoveryAfter ≤ t.confirmed.instant - t.started.instant
  atOnce : cfg.machine.recoveryAfter = 0 → t.started = t.confirmed

/-- The rows and the notices of the event tell of one recovery. Only where
`mixed` holds is a notice keyed by the confirmation. -/
structure RecoveryOf (cfg : ServiceConfig) (mixed : Prop) (eventId : String)
    (ls : List Label) (w : World) (c : Option RecoveryTimes) : Prop where
  mark : ∀ e, eventById w.service.events eventId = some e → RecoveryMark (c.map (·.confirmed)) e
  notice : ∀ e ∈ w.emitted, RecoveryNotice e eventId →
    ∃ t, c = some t ∧ (NoticeFrom e eventId t.started ∨ mixed ∧ NoticeFrom e eventId t.confirmed)
  confirmed : ∀ t, c = some t → Confirmed cfg eventId ls w t

section Marks

variable {events events' : List EnvironmentEvent} {eventId : String} {c c' : Option DateTime}

/-- The mark of the event, row by row. -/
theorem mark_forall₂ {R : EnvironmentEvent → EnvironmentEvent → Prop}
    (hr : List.Forall₂ R events events') (hid : ∀ e e', R e e' → e'.eventId = e.eventId)
    (hmark : ∀ e e', R e e' → e.eventId = eventId → RecoveryMark c e → RecoveryMark c' e')
    (h : ∀ e, eventById events eventId = some e → RecoveryMark c e) {e' : EnvironmentEvent}
    (he' : eventById events' eventId = some e') : RecoveryMark c' e' := by
  obtain ⟨e, he, hR⟩ := eventById_forall₂ (R := flip R) (fun a b h => (hid b a h).symm) hr.flip he'
  exact hmark e e' hR (eventById_mem he).2 (h e he)

theorem RowsWritten.mark (hr : RowsWritten events events')
    (h : ∀ e, eventById events eventId = some e → RecoveryMark c e) {e' : EnvironmentEvent}
    (he' : eventById events' eventId = some e') : RecoveryMark c e' := by
  have hkept : List.Forall₂ (fun e e' : EnvironmentEvent => e'.eventId = e.eventId ∧
      (RecoveryMark c e → RecoveryMark c e')) events events' :=
    RowsWritten.keeps (fun e => ⟨rfl, id⟩) (fun _ _ _ h h' => ⟨h'.1.trans h.1, h'.2 ∘ h.2⟩)
      (fun e e' hw => ⟨hw.sameCycle.eventId, hw.recoveryMark⟩) hr
  exact mark_forall₂ hkept (fun _ _ h => h.1) (fun _ _ h _ => h.2) h he'

/-- The row an update may change. -/
theorem mark_update {f : EnvironmentEvent → EnvironmentEvent} {updated : String}
    (hf : ∀ e, (f e).eventId = e.eventId) (hmark : ∀ e, e.eventId = eventId → RecoveryMark c e →
      RecoveryMark c' (if e.eventId = updated then f e else e))
    (h : ∀ e, eventById events eventId = some e → RecoveryMark c e) {e' : EnvironmentEvent}
    (he' : eventById (updateEvent events updated f) eventId = some e') : RecoveryMark c' e' := by
  have hr : List.Forall₂ (fun e e' => e' = if e.eventId = updated then f e else e) events
      (updateEvent events updated f) := by
    rw [updateEvent, List.forall₂_map_right_iff]
    exact List.forall₂_same.mpr fun _ _ => rfl
  refine mark_forall₂ hr (fun e e' he => ?_) (fun e e' he hid hm => ?_) h he'
  · rw [he]
    split_ifs
    · exact hf e
    · rfl
  · rw [he]
    exact hmark e hid hm

end Marks

theorem recovered_eventId (writesEnabled : Bool) (now : DateTime) (e : EnvironmentEvent) :
    (e.recovered writesEnabled now).eventId = e.eventId := (sameCycle_recovered _ _ e).eventId

/-! ### The confirmation -/

section Confirm

variable {cfg : ServiceConfig} {i : SampleInput} {s s' : ServiceState} {out : SampleOutput}
  {eventId : String}

/-- The sample confirms the recovery of the event. -/
structure SampleTrace.Confirms (T : SampleTrace cfg i s s' out) (eventId : String) : Prop where
  previous : (s.alarm i.deviceId).state = .alarm ∨ (s.alarm i.deviceId).state = .recovery
  next : T.tr.next.state = .normal
  active : (s.alarm i.deviceId).activeAlarmId = some eventId

theorem SampleTrace.Confirms.events {T : SampleTrace cfg i s s' out} (h : T.Confirms eventId) :
    (∃ e, eventById s.events eventId = some e) ∧
      s'.events = updateEvent s.events eventId (·.recovered i.writesEnabled i.now) := by
  have hprev := h.previous
  have hactive := h.active
  rw [← T.previous_eq] at hprev hactive
  obtain ⟨-, -, hmark⟩ := T.localMove.confirmed hprev h.next
  have hid : ((eventAction T.tr .markAlarmRecovered T.tr.previous.activeAlarmId).alarmId <|>
      T.tr.previous.activeAlarmId) = some eventId := by
    show (T.tr.previous.activeAlarmId <|> T.tr.previous.activeAlarmId) = _
    rw [hactive]
    rfl
  rcases projectRecovered_events hmark with ⟨hnone, -⟩ | ⟨id, e, hsome, hfound, heq⟩
  · rw [hid] at hnone
    cases hnone
  · obtain rfl := Option.some.inj (hid.symm.trans hsome)
    rw [leaveRecovery_events] at hfound heq
    exact ⟨⟨e, hfound⟩, T.events_eq.trans heq⟩

/-- The window it closes. -/
theorem SampleTrace.Confirms.window {T : SampleTrace cfg i s s' out} (h : T.Confirms eventId)
    (hw : Windows cfg.machine (s.alarm i.deviceId)) :
    cfg.machine.recoveryAfter ≤ i.now.instant -
      ((s.alarm i.deviceId).recoveryStartedAt.getD i.now).instant ∧
      (cfg.machine.recoveryAfter = 0 →
        (s.alarm i.deviceId).recoveryStartedAt.getD i.now = i.now) := by
  have hnext := h.next
  rw [T.prewarning.formal.state] at hnext
  obtain ⟨-, ⟨hstate, hzero⟩ | ⟨hstate, hle⟩⟩ := (T.move.confirms_iff h.previous).mp hnext
  · have hnone := (hw.atOnce hzero).2 hstate
    rw [hnone, Option.getD_none, hzero]
    exact ⟨by omega, fun _ => rfl⟩
  · exact ⟨hle, fun hzero => absurd hstate (hw.atOnce hzero).1⟩

end Confirm

/-! ### Steps -/

section Step

variable {cfg : ServiceConfig} {mixed : Prop} {eventId : String} {ls : List Label}
  {w w' : World} {l : Label}
  {c : Option RecoveryTimes} {t : RecoveryTimes}

theorem Confirmed.step (h : Confirmed cfg eventId ls w t) (hinj : Function.Injective cfg.uuid)
    (hs : w.store.Sound cfg.uuid) (hstep : Step cfg w l w') :
    Confirmed cfg eventId (ls ++ [l]) w' t where
  counted := by
    rw [List.countP_append]
    exact Nat.add_pos_left h.counted _
  found := by
    obtain ⟨e, he⟩ := h.found
    obtain ⟨e', he', -⟩ := hstep.keepsEvent hinj hs he
    exact ⟨e', he'⟩
  inline := fun hemit => by
    obtain ⟨e, he, hn⟩ := h.inline hemit
    exact ⟨e, hstep.emitted_mem he, hn⟩
  window := h.window
  atOnce := h.atOnce

/-- A step that confirms nothing, given the marks it leaves and what its notices are keyed by. -/
theorem RecoveryOf.step (h : RecoveryOf cfg mixed eventId ls w c)
    (hinj : Function.Injective cfg.uuid) (hs : w.store.Sound cfg.uuid) (hstep : Step cfg w l w')
    (hmark : ∀ e, eventById w'.service.events eventId = some e →
      RecoveryMark (c.map (·.confirmed)) e)
    (hnotice : ∀ e ∈ l.emissions, RecoveryNotice e eventId →
      ∃ t, c = some t ∧
        (NoticeFrom e eventId t.started ∨ mixed ∧ NoticeFrom e eventId t.confirmed)) :
    RecoveryOf cfg mixed eventId (ls ++ [l]) w' c where
  mark := hmark
  notice := fun e he hn => by
    rw [hstep.emitted_eq] at he
    rcases List.mem_append.mp he with he | he
    · exact h.notice e he hn
    · exact hnotice e he hn
  confirmed := fun t ht => (h.confirmed t ht).step hinj hs hstep

/-- A notice of a step is of the sample that confirms, or of an attempt. -/
theorem RecoveryOf.aside (h : RecoveryOf cfg mixed eventId ls w c)
    (hinj : Function.Injective cfg.uuid)
    (hs : w.store.Sound cfg.uuid) (hstep : Step cfg w l w') (hl : ∀ i out, l ≠ .sample i out)
    (hguard : mixed ∨ repeatsRecovery cfg eventId w l = false) :
    RecoveryOf cfg mixed eventId (ls ++ [l]) w' c := by
  refine h.step hinj hs hstep (fun e' he' => (hstep.written hinj hs hl).2.mark h.mark he')
    fun e he hn => ?_
  cases hstep with
  | sample => exact absurd rfl (hl _ _)
  | @reconcile r row hrow htype hsame =>
    obtain ⟨hemit, id, event, hn', hlocal, hfound, hpending, hcheck, hfrom⟩ :=
      attempt_notice he hn.actionType
    obtain rfl : id = eventId := Option.some.inj (hn'.alarmId.symm.trans hn.alarmId)
    obtain ⟨hne, hat⟩ := (h.mark event hfound).pending hpending
    cases c with
    | none => exact absurd rfl hne
    | some t =>
      refine ⟨t, rfl, ?_⟩
      rcases hguard with hmixed | hguard
      · exact .inr ⟨hmixed, hfrom _ hat⟩
      · -- only without a window does the attempt get this far
        have hzero : cfg.machine.recoveryAfter = 0 := by
          by_contra hne
          have hfinds :
              findsRecovery cfg id w (.reconcile r (reconcileAlarmEventTask cfg r w.service).2) =
              true :=
            findsRecovery_iff.mpr ⟨hlocal, event, hfound, hpending, hcheck⟩
          unfold repeatsRecovery at hguard
          rw [hemit, hfinds] at hguard
          simp [hne] at hguard
        rw [(h.confirmed t rfl).atOnce hzero]
        exact .inl (hfrom _ hat)
  | _ => cases he

/-- The sample that confirms. -/
theorem RecoveryOf.confirms {i : SampleInput} {s' : ServiceState} {out : SampleOutput}
    (h : RecoveryOf cfg mixed eventId ls w none) (T : SampleTrace cfg i w.service s' out)
    (hC : T.Confirms eventId) (hw : Windows cfg.machine (w.service.alarm i.deviceId)) :
    RecoveryOf cfg mixed eventId (ls ++ [.sample i out])
      { w with service := s', emitted := w.emitted ++ out.emissions i }
      (some ⟨(w.service.alarm i.deviceId).recoveryStartedAt.getD i.now, i.now⟩) := by
  obtain ⟨⟨e, he⟩, hevents⟩ := hC.events
  have hmark : ∀ e', eventById s'.events eventId = some e' → RecoveryMark (some i.now) e' := by
    intro e' he'
    rw [hevents] at he'
    refine mark_update (recovered_eventId _ _) (fun e hid hm => ?_) h.mark he'
    rw [if_pos hid]
    exact RecoveryMark.recovered hm _ _
  have hfrom : ∀ e ∈ out.emissions i, RecoveryNotice e eventId →
      NoticeFrom e eventId ((w.service.alarm i.deviceId).recoveryStartedAt.getD i.now) := by
    intro e he hn
    obtain ⟨id, hn', -, -, -, -, hfrom⟩ := T.notice hw he hn.actionType
    obtain rfl : id = eventId := Option.some.inj (hn'.alarmId.symm.trans hn.alarmId)
    exact hfrom
  refine ⟨hmark, fun e he hn => ?_, fun t ht => ?_⟩
  · rcases List.mem_append.mp he with he | he
    · obtain ⟨t, ht, -⟩ := h.notice e he hn
      cases ht
    · exact ⟨_, rfl, .inl (hfrom e he hn)⟩
  · obtain rfl := Option.some.inj ht
    obtain ⟨hwindow, hatOnce⟩ := hC.window hw
    refine ⟨?_, ⟨e.recovered i.writesEnabled i.now, ?_⟩, fun hemit => ?_, hwindow, hatOnce⟩
    · rw [List.countP_append, List.countP_singleton,
        if_pos (T.recovers hC.previous hC.next hC.active)]
      omega
    · show eventById s'.events eventId = _
      rw [hevents]
      exact eventById_update (recovered_eventId _ _) he
    · obtain ⟨n, hn, hnotice⟩ := T.emits_notice hC.previous hC.next hemit hC.active
      exact ⟨n, List.mem_append_right _ hn, hnotice, hfrom n hn hnotice⟩

/-- A sample that does not. -/
theorem RecoveryOf.sample {i : SampleInput} {s' : ServiceState} {out : SampleOutput}
    (h : RecoveryOf cfg mixed eventId ls w c) (hinj : Function.Injective cfg.uuid)
    (hs : w.store.Sound cfg.uuid)
    (hw : Windows cfg.machine (w.service.alarm i.deviceId)) (T : SampleTrace cfg i w.service s' out)
    (hstep : Step cfg w (.sample i out)
      { w with service := s', emitted := w.emitted ++ out.emissions i })
    (hC : ¬ T.Confirms eventId) :
    RecoveryOf cfg mixed eventId (ls ++ [.sample i out])
      { w with service := s', emitted := w.emitted ++ out.emissions i } c := by
  refine h.step hinj hs hstep (fun e' he' => ?_) fun e he hn => ?_
  · rw [show World.service _ = s' from rfl, T.events_eq] at he'
    cases T.localMove.eventsMove rfl with
    | written hrows => exact hrows.mark h.mark he'
    | opened start e _ _ _ hnew hrows =>
      refine hrows.mark (fun a ha => ?_) he'
      cases hold : eventById w.service.events eventId with
      | some b =>
        have hb := eventById_append hold [e]
        obtain rfl := Option.some.inj (ha.symm.trans hb)
        exact h.mark _ hold
      | none =>
        -- the new event: nothing can have confirmed its recovery
        have hnone : c = none := by
          cases hc : c with
          | none => rfl
          | some t =>
            obtain ⟨b, hb⟩ := (h.confirmed t hc).found
            rw [hold] at hb
            cases hb
        have hae : a = e := by
          unfold eventById at ha hold
          rw [List.find?_append, hold, Option.none_or, List.find?_singleton] at ha
          split_ifs at ha
          exact (Option.some.inj ha).symm
        subst hae
        rw [hnone]
        refine ⟨fun hpend => ?_, fun _ => ⟨hnew.unrecovered.2, hnew.open_.2, fun _ => ?_⟩⟩
        · unfold EnvironmentEvent.recoveryPending at hpend
          rw [hnew.unrecovered.1] at hpend
          cases hpend
        · rw [hnew.open_.1]
          simp
    | recovered id e hprev hnext hactive _ heq =>
      rw [heq] at he'
      refine mark_update (recovered_eventId _ _) (fun e hid hm => ?_) h.mark he'
      rw [if_neg fun hid' => hC ?_]
      · exact hm
      · rw [T.previous_eq] at hprev hactive
        exact ⟨hprev, hnext, hactive.trans (congrArg some (hid'.symm.trans hid))⟩
  · obtain ⟨id, hn', -, hprev, hnext, hactive, -⟩ := T.notice hw he hn.actionType
    obtain rfl : id = eventId := Option.some.inj (hn'.alarmId.symm.trans hn.alarmId)
    exact absurd ⟨hprev, hnext, hactive⟩ hC

end Step

/-! ### Runs -/

section Run

variable {cfg : ServiceConfig} {eventId : String} {w : World} {ls : List Label}

/-- **A cycle is confirmed once**, and the rows and the notices of its event tell
of that. -/
theorem recoveryOf_run (hinj : Function.Injective cfg.uuid) {mixed : Prop}
    (h : Run (Guarded (fun w l => mixed ∨ repeatsRecovery cfg eventId w l = false) (Step cfg))
      World.empty ls w)
    (hone : ls.countP (Label.recovers eventId) ≤ 1) : ∃ c, RecoveryOf cfg mixed eventId ls w c := by
  induction h with
  | nil =>
    exact ⟨none, ⟨fun e he => (by cases he), fun e he => (by cases he), fun t ht => by cases ht⟩⟩
  | @snoc ls a l b hrun hstep ih =>
    obtain ⟨hguard, hstep⟩ := hstep
    rw [List.countP_append] at hone
    obtain ⟨c, hc⟩ := ih (by omega)
    have hrun' := hrun.mono fun _ _ _ h => h.2
    have hs := sound_run hinj hrun'
    by_cases hl : ∀ i out, l ≠ .sample i out
    · exact ⟨c, hc.aside hinj hs hstep hl hguard⟩
    · push Not at hl
      obtain ⟨i, out, rfl⟩ := hl
      have hw := windows_run hinj hrun' i.deviceId
      cases hstep with
      | @sample _ s' _ hsample =>
        obtain ⟨T⟩ := handleSample_trace hsample
        by_cases hC : T.Confirms eventId
        · cases c with
          | none => exact ⟨_, hc.confirms T hC hw⟩
          | some t =>
            have hcounted := (hc.confirmed t rfl).counted
            rw [List.countP_singleton, if_pos (T.recovers hC.previous hC.next hC.active)] at hone
            omega
        · exact ⟨c, hc.sample hinj hs hw T (.sample hsample) hC⟩

/-- A recovery notification names an event that is there. -/
theorem recoveryNotice_run (hinj : Function.Injective cfg.uuid)
    (h : Run (Step cfg) World.empty ls w) : ∀ e ∈ w.emitted, e.action.actionType = .notifyRecovery →
      ∃ eventId event, RecoveryNotice e eventId ∧
        eventById w.service.events eventId = some event := by
  refine Run.inv_labels (I := fun _ w => ∀ e ∈ w.emitted, e.action.actionType = .notifyRecovery →
    ∃ eventId event, RecoveryNotice e eventId ∧ eventById w.service.events eventId = some event)
    (fun e he => by cases he) (fun ls a l b hrun ih hstep e he ht => ?_) h
  have hnamed : ∃ id event, RecoveryNotice e id ∧ eventById a.service.events id = some event := by
    rw [hstep.emitted_eq] at he
    rcases List.mem_append.mp he with he | he
    · exact ih e he ht
    · cases hstep with
      | sample hsample =>
        obtain ⟨T⟩ := handleSample_trace hsample
        obtain ⟨id, hn, -, hprev, hnext, hactive, -⟩ := T.notice (windows_run hinj hrun _) he ht
        have hC : T.Confirms id := ⟨hprev, hnext, hactive⟩
        obtain ⟨⟨event, hfound⟩, -⟩ := hC.events
        exact ⟨id, event, hn, hfound⟩
      | reconcile =>
        obtain ⟨-, id, event, hn, -, hfound, -⟩ := attempt_notice he ht
        exact ⟨id, event, hn, hfound⟩
      | _ => cases he
  obtain ⟨id, event, hn, hfound⟩ := hnamed
  obtain ⟨event', hfound', -⟩ := hstep.keepsEvent hinj (sound_run hinj hrun) hfound
  exact ⟨id, event', hn, hfound'⟩

/-- The notice behind a recovery task. -/
theorem RecoveryTask.announced (hinj : Function.Injective cfg.uuid)
    (h : Run (Step cfg) World.empty ls w)
    {t : AutomationTask} (ht : t ∈ w.service.tasks) (htype : t.taskType = "NOTIFY_RECOVERY") :
    ∃ e ∈ w.emitted, ∃ id event, RecoveryNotice e id ∧ eventById w.service.events id = some event ∧
      t.entityId = id ∧ t.dedupeKey = e.action.dedupeKey ∧ t.payload.eventId = some id ∧
      ∀ start, e.action.payload.recoveryStartedAt = some start →
        t.payload.recoveryStartedAt = some start := by
  obtain ⟨e, he, hrow⟩ := announced_run hinj h t ht (by rw [htype]; decide)
  have hact : e.action.actionType = .notifyRecovery :=
    AlarmActionType.value_injective (hrow.taskType.symm.trans htype)
  obtain ⟨id, event, hn, hfound⟩ := recoveryNotice_run hinj h e he hact
  obtain ⟨n, hpayload⟩ := hrow.payload
  refine ⟨e, he, id, event, hn, hfound, ?_, hrow.dedupeKey, ?_, fun start hstart => ?_⟩
  · rw [hrow.entityId, hact, hn.alarmId]
    rfl
  · rw [hpayload]
    simp [notificationPayload, hact, isPrewarningMessage, hn.alarmId]
  · rw [hpayload]
    simp [notificationPayload, hact, hstart]

/-- A recovery message that is executed is that of a notice, under its key. -/
theorem Deliverable.recovery (hu : FreshUuids cfg.uuid) (h : Run (Step cfg) World.empty ls w)
    {start : DateTime}
    (hfrom : ∀ e ∈ w.emitted, RecoveryNotice e eventId → NoticeFrom e eventId start) {m : Message}
    (hD : Deliverable w m) (hm : m.Recovers eventId) : m.key = notifyRecoveryKey eventId start := by
  obtain ⟨htype, hid⟩ := hm
  cases hD with
  | inline e he hmsg =>
    have hact : e.action.actionType = m.actionType ∧ e.action.alarmId.getD "" = m.eventId := by
      simp only [Emission.message, Option.map_eq_some_iff] at hmsg
      obtain ⟨key, -, rfl⟩ := hmsg
      exact ⟨rfl, rfl⟩
    obtain ⟨id, event, hn, -⟩ := recoveryNotice_run hu.injective h e he (hact.1.trans htype)
    obtain rfl : id = eventId := by
      rw [hn.alarmId] at hact
      exact hact.2.trans hid
    have hmsg' := (hfrom e he hn).message
    rw [hmsg] at hmsg'
    exact congrArg Message.key (Option.some.inj hmsg')
  | task t ht hmsg =>
    simp only [AutomationTask.message, Option.bind_eq_some_iff, Option.map_eq_some_iff] at hmsg
    obtain ⟨a, hnot, key, hkey, rfl⟩ := hmsg
    obtain rfl : a = .notifyRecovery := htype
    obtain ⟨e, he, id, event, hn, hfound, -, -, hpay, hstart⟩ :=
      RecoveryTask.announced hu.injective h ht (notification_mem hnot).1.symm
    have hplain : strip id = id := by
      obtain ⟨hmem, heid⟩ := eventById_mem hfound
      obtain ⟨n, -, hn⟩ := minted_run hu.injective h event hmem
      rw [← heid, hn]
      exact hu.strip n
    simp only [isPrewarningMessage, hpay, Option.getD_some, hplain] at hid hkey
    subst hid
    have hs := hstart _ (hfrom e he hn).recoveryStartedAt
    simp only [notificationEffectKey, hs, Option.some.injEq] at hkey
    exact hkey.symm

theorem notifyRecoveryKey_inj {s t : DateTime}
    (h : notifyRecoveryKey eventId s = notifyRecoveryKey eventId t) : s = t := by
  unfold notifyRecoveryKey at h
  exact (DateTime.colon_isoformat_inj h).2

/-- The same of a message that was executed in the course of the run. -/
theorem delivered_recovery (hu : FreshUuids cfg.uuid) (h : Run (Step cfg) World.empty ls w)
    {start : DateTime}
    (hfrom : ∀ e ∈ w.emitted, RecoveryNotice e eventId → NoticeFrom e eventId start) {m : Message}
    {d : Delivery}
    (hl : .deliver m d ∈ ls) (hm : m.Recovers eventId) :
    m.key = notifyRecoveryKey eventId start := by
  obtain ⟨pre, post, rfl⟩ := List.append_of_mem hl
  obtain ⟨a, b, hpre, hstep, hpost⟩ := h.at_label
  have hlater : ∀ e ∈ a.emitted, e ∈ w.emitted := fun _ => emitted_run (.cons hstep hpost)
  cases hstep with
  | deliver hD _ => exact hD.recovery hu hpre (fun e he hn => hfrom e (hlater e he) hn) hm

/-! ### A cycle is confirmed once -/

/-- The violation of the state is no older. -/
def Since (t : DateTime) (st : AlarmState) : Prop :=
  st.state = .normal ∨ ∃ start, st.violationStartedAt = some start ∧ t.instant ≤ start.instant

theorem Since.same {t : DateTime} {st st' : AlarmState} (h : Since t st) (hs : SameFormal st st') :
    Since t st' := by
  unfold Since
  rw [hs.state, hs.violationStartedAt]
  exact h

theorem LocalMove.since {i : SampleInput} {tr : StateTransition} {l l' : Local}
    {formal : List ApplicationAction}
    {t : DateTime} (h : LocalMove cfg i tr l formal l') (ht : t.instant ≤ i.now.instant)
    (hprev : Since t tr.previous) : Since t tr.next := by
  have hkept (hne : tr.previous.state ≠ .normal)
      (heq : tr.next.violationStartedAt = tr.previous.violationStartedAt) :
      Since t tr.next := by
    unfold Since
    rw [heq]
    exact .inr (hprev.resolve_left hne)
  cases h with
  | quiet hformal => exact hprev.same hformal
  | started _ hformal => exact .inr ⟨_, hformal.violationStartedAt, ht⟩
  | dropped _ hformal => exact .inl hformal.state
  | verified hp hformal =>
    refine .inr ⟨_, hformal.violationStartedAt, ?_⟩
    obtain ⟨start, hstart, hle⟩ := hprev.resolve_left (by rw [hp]; simp)
    rw [hstart]
    exact hle
  | active hp hformal => exact hkept (by rw [hp]; simp) hformal.violationStartedAt
  | returned hp hformal => exact hkept (by rw [hp]; simp) hformal.violationStartedAt
  | recovering hp _ hformal => exact hkept (by rw [hp]; simp) hformal.violationStartedAt
  | recovered _ hformal => exact .inl hformal.state

/-- Only a confirmed recovery is marked. -/
theorem LocalMove.marks {i : SampleInput} {tr : StateTransition} {l l' : Local}
    {formal : List ApplicationAction}
    {a : ApplicationAction} (h : LocalMove cfg i tr l formal l') (ha : a ∈ formal)
    (ht : a.actionType = .markAlarmRecovered) :
    (tr.previous.state = .alarm ∨ tr.previous.state = .recovery) ∧ tr.next.state = .normal := by
  rcases h.event_next ha (by rw [ht]; rfl) with halarm | ⟨hnext, hprev⟩
  · cases h with
    | quiet => cases ha
    | started _ hformal => rw [hformal.state] at halarm; cases halarm
    | dropped _ hformal => rw [hformal.state] at halarm; cases halarm
    | verified =>
      rcases List.mem_append.mp ha with ha | ha
      · rw [(finishAction_kind ha).2] at ht
        cases ht
      rcases List.mem_cons.mp ha with rfl | ha
      · cases ht
      · rw [(mem_messageAction ha).2] at ht
        cases ht
    | active => rw [List.mem_singleton.mp ha] at ht; cases ht
    | returned => rw [List.mem_singleton.mp ha] at ht; cases ht
    | recovering _ _ hformal => rw [hformal.state] at halarm; cases halarm
    | recovered _ hformal => rw [hformal.state] at halarm; cases halarm
  · exact ⟨hprev, hnext⟩

/-- A sample that recovers an event confirms its recovery. -/
theorem SampleTrace.confirms {i : SampleInput} {s s' : ServiceState} {out : SampleOutput}
    (T : SampleTrace cfg i s s' out) (hw : Windows cfg.machine (s.alarm i.deviceId))
    (h : (Label.sample i out).recovers eventId = true) : T.Confirms eventId := by
  obtain ⟨b, hb, hmark⟩ := List.any_eq_true.mp h
  obtain ⟨htype, hid⟩ := of_decide_eq_true hmark
  rw [T.actions_out] at hb
  obtain ⟨c, hc, hcb⟩ := forall₂_mem_right (attachNotification_passed _ _ _) hb
  obtain ⟨a', ha', hac⟩ := forall₂_mem_right (attachReconciliation_passed _ _ _) hc
  obtain ⟨a, ha, henr⟩ := forall₂_mem_right T.enriched_forall₂ ha'
  have hpass := hac.trans hcb
  have hat : a.actionType = .markAlarmRecovered := by
    rw [← (enrichAction_type henr).1, ← hpass.actionType]
    exact htype
  have hformal : a ∈ T.formal := by
    rcases List.mem_append.mp ha with ha | ha
    · exact ha
    · obtain ⟨x, hx, rfl⟩ := List.mem_map.mp ha
      have hm := (T.mem_advice hx).2
      rw [show x.actionType = .markAlarmRecovered from hat] at hm
      cases hm
  obtain ⟨hprev, hnext⟩ := T.localMove.marks hformal hat
  rw [T.previous_eq] at hprev
  obtain ⟨id, hactive⟩ := Option.ne_none_iff_exists'.mp (hw.named hprev)
  have hal : a'.alarmId = some id := by
    obtain ⟨-, hlist⟩ := T.confirmed_mapped hprev hnext
    rw [hlist] at hformal
    rw [enrichAction_alarmId henr, T.confirmed_alarmId hprev hnext ?_, hactive]
    rcases List.mem_cons.mp hformal with rfl | hmsg
    · rfl
    · rw [(mem_messageAction hmsg).2]
      rfl
  refine ⟨hprev, hnext, hactive.trans ?_⟩
  rcases hpass.alarmId with hx | hx
  · rw [← hal, ← hx, hid]
  · rw [hal] at hx
    cases hx

/-- A violation that starts behind a sample stays so. -/
theorem since_run (hinj : Function.Injective cfg.uuid) {w₀ : World} {pre post : List Label}
    {t : DateTime} {d : String}
    (hpre : Run (Step cfg) World.empty pre w₀) (h0 : Since t (w₀.service.alarm d))
    (h : Run (Step cfg) w₀ post w)
    (hlater : ∀ i out, .sample i out ∈ post → i.deviceId = d → t.instant ≤ i.now.instant) :
    Since t (w.service.alarm d) := by
  refine Run.inv_labels (I := fun ks w =>
    (∀ i out, .sample i out ∈ ks → i.deviceId = d → t.instant ≤ i.now.instant) →
      Since t (w.service.alarm d))
    (fun _ => h0) (fun ks a l b hrun ih hstep hks => ?_) h hlater
  have hprev := ih fun i out hi => hks i out (List.mem_append_left _ hi)
  have hs := sound_run hinj (hpre.append hrun)
  by_cases hl : ∀ i out, l ≠ .sample i out
  · exact hprev.same ((hstep.aside hinj hs hl).1 d)
  · push Not at hl
    obtain ⟨i, out, rfl⟩ := hl
    cases hstep with
    | @sample _ s' _ hsample =>
      obtain ⟨T⟩ := handleSample_trace hsample
      show Since t (s'.alarm d)
      by_cases hd : i.deviceId = d
      · have hnow := hks i out (List.mem_append_right _ List.mem_cons_self) hd
        subst hd
        rw [← T.previous_eq] at hprev
        have hnext := T.localMove.since hnow hprev
        unfold Since at hnext ⊢
        rw [T.state_eq.1, T.state_eq.2]
        exact hnext
      · rw [T.alarm_other hd]
        exact hprev

/-- A confirmation is of the violation its event started with, and ends it. -/
theorem confirms_cycle (hinj : Function.Injective cfg.uuid) (h : Run (Step cfg) World.empty ls w)
    {i : SampleInput} {out : SampleOutput} {w' : World} (hstep : Step cfg w (.sample i out) w')
    (hinc : Increasing ls)
    (hrec : (Label.sample i out).recovers eventId = true) :
    (w'.service.alarm i.deviceId).state = .normal ∧
      (w.service.alarm i.deviceId).state ≠ .normal ∧
      ∃ e start, eventById w.service.events eventId = some e ∧ e.deviceId = i.deviceId ∧
        (w.service.alarm i.deviceId).violationStartedAt = some start ∧
          e.payload.violationStartedAt = some start := by
  cases hstep with
  | sample hsample =>
    obtain ⟨T⟩ := handleSample_trace hsample
    have hC := T.confirms (windows_run hinj h _) hrec
    refine ⟨T.state_eq.1.trans hC.next, fun hn => ?_, ?_⟩
    · rcases hC.previous with hp | hp <;> rw [hn] at hp <;> cases hp
    · obtain ⟨id, e, start, hactive, hfound, hd, hst, -, hpay, -⟩ :=
        (coherent_run hinj h hinc i.deviceId).active hC.previous
      obtain rfl := Option.some.inj (hactive.symm.trans hC.active)
      exact ⟨e, start, hfound, hd, hst, hpay⟩

/-- **The recovery of an event is confirmed once** where the evaluations of a
device are strictly increasing. -/
theorem recovers_once (hu : FreshUuids cfg.uuid) (h : Run (Step cfg) World.empty ls w)
    (hinc : Increasing ls) (eventId : String) : ls.countP (Label.recovers eventId) ≤ 1 := by
  have hinj := hu.injective
  induction h with
  | nil => exact Nat.zero_le 1
  | @snoc ls a l b hrun hstep ih =>
    rw [List.countP_append, List.countP_singleton]
    have hbefore := ih hinc.init
    split_ifs with hl
    · rcases Nat.eq_zero_or_pos (ls.countP (Label.recovers eventId)) with hzero | hpos
      · omega
      · -- two confirmations of one event: the second violation would start behind the first confirmation
        obtain ⟨first, hfirst, hf⟩ := List.countP_pos_iff.mp hpos
        obtain ⟨j, o, rfl⟩ : ∃ j o, first = .sample j o := by
          cases first with
          | sample j o => exact ⟨j, o, rfl⟩
          | _ => cases hf
        obtain ⟨i, out, rfl⟩ : ∃ i out, l = .sample i out := by
          cases l with
          | sample i out => exact ⟨i, out, rfl⟩
          | _ => cases hl
        obtain ⟨pre, post, rfl⟩ := List.append_of_mem hfirst
        obtain ⟨a₀, b₀, hpre, hstep₀, hpost⟩ := hrun.at_label
        have hinc₀ : Increasing (pre ++ [.sample j o]) := by
          have := hinc.init
          rw [List.append_cons] at this
          exact this.init
        obtain ⟨hnormal, -, e₀, start₀, hfound₀, hd₀, -, hpay₀⟩ :=
          confirms_cycle hinj hpre hstep₀ hinc₀.init hf
        obtain ⟨-, hne, e, start, hfound, hd, hst, hpay⟩ :=
          confirms_cycle hinj hrun hstep hinc.init hl
        obtain ⟨e', hfound', hse⟩ := (kept_run hinj hpre (.cons hstep₀ hpost)).2 _ _ hfound₀
        obtain rfl := Option.some.inj (hfound'.symm.trans hfound)
        have hstart : start = start₀ := by
          rw [hse.violationStartedAt, hpay₀] at hpay
          exact (Option.some.inj hpay).symm
        have hsince : Since j.now (a.service.alarm j.deviceId) := by
          refine since_run hinj (hpre.snoc hstep₀) (.inl hnormal) hpost fun k out' hk hdk => ?_
          obtain ⟨p, q, rfl⟩ := List.append_of_mem hk
          have hinck : Increasing ((pre ++ .sample j o :: p) ++ .sample k out' :: q) := by
            have := hinc.init
            simpa using this
          refine le_of_lt (hinck.later j.now ?_)
          rw [List.filterMap_append, hdk]
          exact List.mem_append_right _ List.mem_cons_self
        have hdevice : j.deviceId = i.deviceId := hd₀.symm.trans (hse.deviceId.symm.trans hd)
        rw [hdevice] at hsince
        obtain ⟨s, hs, hle⟩ := hsince.resolve_left hne
        obtain rfl := Option.some.inj (hs.symm.trans hst)
        obtain ⟨start', -, hpay', at_, hseen, hlt⟩ :=
          (cycles_run hinj hpre hinc₀.init).keyed e₀ (eventById_mem hfound₀).1
        obtain rfl := Option.some.inj (hpay₀.symm.trans hpay')
        have := hinc₀.later at_ (hd₀ ▸ hseen)
        rw [hstart] at hle
        omega
    · omega

/-- **The notifications of a recovery are one** exactly in the runs in which no
attempt finds the recovery pending while there is a recovery window. -/
theorem one_recovery_iff (hu : FreshUuids cfg.uuid) (h : Run (Step cfg) World.empty ls w)
    (eventId : String) (hone : ls.countP (Label.recovers eventId) ≤ 1) : OneRecovery ls w eventId ↔
      Run (Guarded (fun w l => repeatsRecovery cfg eventId w l = false) (Step cfg))
        World.empty ls w := by
  have hinj := hu.injective
  constructor
  · intro hrec
    rcases h.guarded_or (C := fun w l => repeatsRecovery cfg eventId w l = false) with
      hg | ⟨pre, l, post, a, b, rfl, hpre, hstep, hbad, hpost⟩
    · exact hg
    · have hbad : repeatsRecovery cfg eventId a l = true := by simpa using hbad
      simp only [repeatsRecovery, Bool.and_eq_true, decide_eq_true_eq] at hbad
      obtain ⟨⟨hwindow, hemit⟩, hfinds⟩ := hbad
      obtain ⟨c, hc⟩ := @recoveryOf_run cfg eventId a pre hinj True (hpre.mono fun _ _ _ h =>
          ⟨.inl trivial, h⟩) (by
        rw [List.countP_append] at hone
        omega)
      cases hstep with
      | @reconcile r row hrow htype hsame =>
        -- the attempt keys its notice by the confirmation, the sample keyed one by the start
        obtain ⟨late, hlate, hln⟩ := attempt_emits hemit hfinds
        obtain ⟨-, id, event, hn', -, hfound, hpending, -, hfrom⟩ :=
          attempt_notice hlate hln.actionType
        obtain rfl : id = eventId := Option.some.inj (hn'.alarmId.symm.trans hln.alarmId)
        obtain ⟨hne, hat⟩ := (hc.mark event hfound).pending hpending
        obtain ⟨t, rfl⟩ : ∃ t, c = some t := by
          cases c with
          | none => exact absurd rfl hne
          | some t => exact ⟨t, rfl⟩
        obtain ⟨first, hfirst, hfn, hstart⟩ := (hc.confirmed t rfl).inline hemit
        have hkey := hrec.key first (emitted_run hpost (List.mem_append_left _ hfirst)) late
          (emitted_run hpost (List.mem_append_right _ hlate)) hfn hln
        rw [hstart.dedupeKey, (hfrom _ hat).dedupeKey] at hkey
        have heq : t.started = t.confirmed := notifyRecoveryKey_inj (Option.some.inj hkey)
        have hle := (hc.confirmed t rfl).window
        have hpos := cfg.machine.recovery_nonneg
        rw [heq] at hle
        omega
      | _ => cases hfinds
  · intro hg
    obtain ⟨c, hc⟩ :=
      @recoveryOf_run cfg eventId w ls hinj False (hg.mono fun _ _ _ h => ⟨.inr h.1, h.2⟩) hone
    obtain ⟨start, hfrom⟩ : ∃ start, ∀ e ∈ w.emitted, RecoveryNotice e eventId →
        NoticeFrom e eventId start := by
      refine ⟨(c.map (·.started)).getD (.utc 0), fun e he hn => ?_⟩
      obtain ⟨t, rfl, hstart | ⟨hfalse, -⟩⟩ := hc.notice e he hn
      · exact hstart
      · cases hfalse
    refine ⟨fun e he e' he' hn hn' => ?_, fun m m' hD hD' hm hm' => ?_,
      fun t ht t' ht' htr htr' => ?_, ?_⟩
    · rw [(hfrom e he hn).dedupeKey, (hfrom e' he' hn').dedupeKey]
    · rw [hD.recovery hu h hfrom hm, hD'.recovery hu h hfrom hm']
    · have hkey : ∀ t ∈ w.service.tasks, RecoveryTask t eventId →
          t.dedupeKey = some (notifyRecoveryKey eventId start) := by
        intro t ht htr
        obtain ⟨e, he, id, -, hn, -, hid, hdk, -⟩ := RecoveryTask.announced hinj h ht htr.taskType
        obtain rfl := hid.symm.trans htr.entityId
        rw [hdk, (hfrom e he hn).dedupeKey]
      refine eq_of_taskId (sound_run hinj h).nodup ht ht' ?_
      refine uniqueKeys_run hinj h t' ht' t ht (by rw [htr'.taskType]; decide) ?_ ?_
      · rw [hkey t' ht' htr']
        exact Option.some_ne_none _
      · rw [hkey t ht htr, hkey t' ht' htr']
    · refine (called_once hinj h).imp_of_mem fun {l l'} hl hl' hcalled m m' d hm hm' hr hr' => ?_
      subst hm hm'
      by_contra hcalls
      refine hcalled m m' d rfl rfl (by simpa using hcalls) (by rw [hr.1]; rfl) (by rw [hr'.1]; rfl)
        (hr'.2.trans hr.2.symm) ?_
      rw [delivered_recovery hu h hfrom hl hr, delivered_recovery hu h hfrom hl' hr']

/-- The inline write of the recovery succeeds, and the attempt behind it finds
nothing pending. -/
theorem one_recovery_pilot : ∃ ls w, Run (Step pilot) World.empty ls w ∧ w.emitted.length = 2 ∧
    OneRecovery ls w (pilotUuid 3) := by
  have h : (World.empty.play pilot (fun w l => !repeatsRecovery pilot (pilotUuid 3) w l)
      [.sample (pilotSample .violation 0), .sample (pilotSample .violation 300),
        .event (.bind (pilotUuid 3) "rec1"), .sample (pilotSample .normal 400),
          .sample (pilotSample .normal 460),
        .event (.patch (pilotUuid 3) .recoveryDone),
          .reconcile (pilotUuid 4) "TH-01" (.utc 470000000)]).any
        (fun r => Increasing r.1 ∧ r.2.emitted.length = 2) = true := by
    decide +kernel
  obtain ⟨ls, w, hrun, hP⟩ := play_any h
  obtain ⟨hinc, hemitted⟩ := of_decide_eq_true hP
  have hplain := hrun.mono fun _ _ _ h => h.2
  exact ⟨ls, w, hplain, hemitted, (one_recovery_iff pilot_fresh hplain (pilotUuid 3)
    (recovers_once pilot_fresh hplain hinc _)).mpr (hrun.mono fun _ _ _ h =>
      ⟨by simpa using h.1, h.2⟩)⟩

/-- The step sends the message. -/
def Label.sends (m : Message) : Label → Bool
  | .deliver m' .sent => m' = m
  | _ => false

theorem Label.sends_eq {m : Message} {l : Label} (h : l.sends m = true) : l = .deliver m .sent := by
  unfold Label.sends at h
  split at h
  · rw [of_decide_eq_true h]
  · cases h

/-- The inline write fails and the task of the CREATE, still unfinished, is run
behind the confirmation: its notice has another key than the sample's, a task of
its own, and a second message is sent. -/
theorem attempt_repeats_recovery : ∃ ls w m m', Run (Step pilot) World.empty ls w ∧ Increasing ls ∧
    (∃ e ∈ w.emitted, ∃ e' ∈ w.emitted, RecoveryNotice e (pilotUuid 3) ∧
      RecoveryNotice e' (pilotUuid 3) ∧
      e.action.dedupeKey = some m.key ∧ e'.action.dedupeKey = some m'.key) ∧
    (∃ t ∈ w.service.tasks, ∃ t' ∈ w.service.tasks, RecoveryTask t (pilotUuid 3) ∧
      RecoveryTask t' (pilotUuid 3) ∧
      t ≠ t') ∧
    m.Recovers (pilotUuid 3) ∧ m'.Recovers (pilotUuid 3) ∧ m.key ≠ m'.key ∧
    Label.deliver m .sent ∈ ls ∧ Label.deliver m' .sent ∈ ls ∧
      ¬ OneRecovery ls w (pilotUuid 3) := by
  have h : (World.empty.play pilot (fun _ _ => true)
      [.sample (pilotSample .violation 0), .sample (pilotSample .violation 300),
        .event (.bind (pilotUuid 3) "rec1"), .sample (pilotSample .normal 400),
          .sample (pilotSample .normal 460),
        .deliver ⟨.notifyRecovery, "aaaa", "NOTIFY_RECOVERY:aaaa:1970-01-01T00:06:40+00:00"⟩
          (.utc 461000000) .sent,
        .reconcile (pilotUuid 4) "TH-01" (.utc 470000000),
        .deliver ⟨.notifyRecovery, "aaaa", "NOTIFY_RECOVERY:aaaa:1970-01-01T00:07:40+00:00"⟩
            (.utc 471000000)
          .sent]).any (fun r => Increasing r.1 ∧
          (r.2.emitted.any fun e => r.2.emitted.any fun e' =>
            decide (e.action.actionType = .notifyRecovery ∧ e.action.alarmId = some "aaaa" ∧
              e'.action.actionType = .notifyRecovery ∧ e'.action.alarmId = some "aaaa" ∧
              e.action.dedupeKey = some "NOTIFY_RECOVERY:aaaa:1970-01-01T00:06:40+00:00" ∧
              e'.action.dedupeKey = some "NOTIFY_RECOVERY:aaaa:1970-01-01T00:07:40+00:00")) ∧
          (r.2.service.tasks.any fun t => r.2.service.tasks.any fun t' =>
            decide (t.taskType = "NOTIFY_RECOVERY" ∧ t.entityId = "aaaa" ∧
                t'.taskType = "NOTIFY_RECOVERY" ∧
              t'.entityId = "aaaa" ∧ t ≠ t')) ∧
          r.1.any (Label.sends ⟨.notifyRecovery, "aaaa",
            "NOTIFY_RECOVERY:aaaa:1970-01-01T00:06:40+00:00"⟩) ∧
          r.1.any (Label.sends ⟨.notifyRecovery, "aaaa",
            "NOTIFY_RECOVERY:aaaa:1970-01-01T00:07:40+00:00"⟩)) =
        true := by
    decide +kernel
  obtain ⟨ls, w, hrun, hP⟩ := play_any h
  obtain ⟨hinc, hnotices, htasks, hsent, hsent'⟩ := of_decide_eq_true hP
  obtain ⟨e, he, hnotices⟩ := List.any_eq_true.mp hnotices
  obtain ⟨e', he', hnotices⟩ := List.any_eq_true.mp hnotices
  obtain ⟨ht, hal, ht', hal', hkey, hkey'⟩ := of_decide_eq_true hnotices
  obtain ⟨t, htm, htasks⟩ := List.any_eq_true.mp htasks
  obtain ⟨t', htm', htasks⟩ := List.any_eq_true.mp htasks
  obtain ⟨h1, h2, h1', h2', hne⟩ := of_decide_eq_true htasks
  obtain ⟨l, hl, hm⟩ := List.any_eq_true.mp hsent
  obtain ⟨l', hl', hm'⟩ := List.any_eq_true.mp hsent'
  rw [Label.sends_eq hm] at hl
  rw [Label.sends_eq hm'] at hl'
  refine ⟨ls, w, _, _, hrun.mono fun _ _ _ h => h.2, hinc,
    ⟨e, he, e', he', ⟨ht, hal⟩, ⟨ht', hal'⟩, hkey, hkey'⟩,
      ⟨t, htm, t', htm', ⟨h1, h2⟩, ⟨h1', h2'⟩, hne⟩,
    ⟨rfl, rfl⟩, ⟨rfl, rfl⟩, by decide, hl, hl', fun hone => ?_⟩
  exact hne (hone.task t htm t' htm' ⟨h1, h2⟩ ⟨h1', h2'⟩)

end Run

end TemperatureMonitor
