/-
# The alarm state, the events and the tasks agree

In NORMAL and PENDING no event of the device is open. In ALARM and RECOVERY
the state names the event of its violation start, and no other event of the
device is open. The pending task is the verification the state waits for.
`LocalMove.coherent` keeps this for the device of a sample, given that the key
of a pending violation is free; `coherent_run` carries it over a run, where
strictly increasing evaluations keep the key free.
-/
import TemperatureMonitor.Service.EventMoves
import TemperatureMonitor.Service.Play
import TemperatureMonitor.Service.WorldRun

namespace TemperatureMonitor

/-! ### Coherence of one device -/

/-- No event of the device is open. -/
def NoneOpen (d : String) (events : List EnvironmentEvent) : Prop :=
  ∀ e ∈ events, e.deviceId = d → e.status = .closed

/-- The state names the event of its violation start, the only one that may be
open. -/
def NamesEvent (d : String) (st : AlarmState) (events : List EnvironmentEvent) : Prop :=
  ∃ eventId e start, st.activeAlarmId = some eventId ∧ eventById events eventId = some e ∧
      e.deviceId = d ∧
    st.violationStartedAt = some start ∧ e.eventKey = eventKey d start ∧
      e.payload.violationStartedAt = some start ∧
    ∀ other ∈ events, other.deviceId = d → other.eventId ≠ eventId → other.status = .closed

/-- The task of a type under a key. -/
def KeyedTask (type key : String) (t : AutomationTask) : Prop :=
  t.taskType = type ∧ t.dedupeKey = some key

structure Coherent (d : String) (st : AlarmState) (events : List EnvironmentEvent)
    (tasks : List AutomationTask) : Prop where
  closed : st.state = .normal ∨ st.state = .pending → NoneOpen d events
  active : st.state = .alarm ∨ st.state = .recovery → NamesEvent d st events
  verifying : st.state = .pending → ∃ start taskId, st.violationStartedAt = some start ∧
    st.pendingTaskId = some taskId ∧
      HasRow tasks taskId (KeyedTask "VERIFY_ALARM" (verifyAlarmKey d start))
  recovering : st.state = .recovery → ∃ eventId start taskId, st.activeAlarmId = some eventId ∧
    st.recoveryStartedAt = some start ∧ st.pendingTaskId = some taskId ∧
    HasRow tasks taskId (KeyedTask "VERIFY_RECOVERY" (verifyRecoveryKey d eventId start))
  idle : st.state = .normal ∨ st.state = .alarm → st.pendingTaskId = none

section Frame

variable {d : String} {st st' : AlarmState} {events events' : List EnvironmentEvent}
  {tasks tasks' : List AutomationTask}

theorem NoneOpen.frame (h : NoneOpen d events) (hev : SameCycles events events') :
    NoneOpen d events' := by
  intro e' he' hd
  obtain ⟨e, he, hs⟩ := forall₂_mem_right hev he'
  exact hs.closed (h e he (hs.deviceId ▸ hd))

theorem NamesEvent.frame (h : NamesEvent d st events)
    (hactive : st'.activeAlarmId = st.activeAlarmId)
    (hstart : st'.violationStartedAt = st.violationStartedAt) (hev : SameCycles events events') :
    NamesEvent d st' events' := by
  obtain ⟨eventId, e, start, hid, hfound, hd, hst, hkey, hpay, hothers⟩ := h
  obtain ⟨e', hfound', hs⟩ := hev.byId hfound
  refine ⟨eventId, e', start, hactive.trans hid, hfound', hs.deviceId.trans hd, hstart.trans hst,
    hs.eventKey.trans hkey, hs.violationStartedAt.trans hpay, fun other' ho hod hne => ?_⟩
  obtain ⟨other, hom, hso⟩ := forall₂_mem_right hev ho
  exact hso.closed (hothers other hom (hso.deviceId ▸ hod) (hso.eventId ▸ hne))

/-- An event of another device changes nothing for this one. -/
theorem NamesEvent.append (h : NamesEvent d st events) {e : EnvironmentEvent}
    (hd : e.deviceId ≠ d) : NamesEvent d st (events ++ [e]) := by
  obtain ⟨eventId, e₀, start, hid, hfound, hd₀, hst, hkey, hpay, hothers⟩ := h
  refine ⟨eventId, e₀, start, hid, eventById_append hfound _, hd₀, hst, hkey, hpay,
    fun other ho hod hne => ?_⟩
  rcases List.mem_append.mp ho with ho | ho
  · exact hothers other ho hod hne
  · obtain rfl := List.mem_singleton.mp ho
    exact absurd hod hd

theorem KeyedTask.same {type key : String} (hne : type ≠ reconcileType) {t t' : AutomationTask}
    (hs : SameTask t t') (h : KeyedTask type key t) : KeyedTask type key t' :=
  ⟨hs.taskType.trans h.1, (hs.dedupeKey (h.1 ▸ hne)).trans h.2⟩

theorem KeepsRows.keyed {type key taskId : String} (h : KeepsRows tasks tasks')
    (hne : type ≠ reconcileType)
    (hrow : HasRow tasks taskId (KeyedTask type key)) : HasRow tasks' taskId (KeyedTask type key) :=
  h taskId _ (fun _ _ hs hk => hk.same hne hs) hrow

/-- What leaves the lifecycle, the cycles and the rows leaves the agreement. -/
theorem Coherent.frame (h : Coherent d st events tasks) (hst : SameFormal st st')
    (hclosed : NoneOpen d events → NoneOpen d events')
    (hactive : NamesEvent d st events → NamesEvent d st events') (hrows : KeepsRows tasks tasks') :
    Coherent d st' events' tasks' where
  closed := fun hs => hclosed (h.closed (hst.state ▸ hs))
  active := fun hs =>
    (hactive (h.active (hst.state ▸ hs))).frame hst.activeAlarmId hst.violationStartedAt
      (sameCycles_refl _)
  verifying := fun hs => by
    obtain ⟨start, taskId, hstart, hid, hrow⟩ := h.verifying (hst.state ▸ hs)
    exact ⟨start, taskId, hst.violationStartedAt.trans hstart, hst.pendingTaskId.trans hid,
      hrows.keyed (by decide) hrow⟩
  recovering := fun hs => by
    obtain ⟨eventId, start, taskId, hev, hstart, hid, hrow⟩ := h.recovering (hst.state ▸ hs)
    exact ⟨eventId, start, taskId, hst.activeAlarmId.trans hev, hst.recoveryStartedAt.trans hstart,
      hst.pendingTaskId.trans hid, hrows.keyed (by decide) hrow⟩
  idle := fun hs => hst.pendingTaskId.trans (h.idle (hst.state ▸ hs))

theorem Coherent.cycles (h : Coherent d st events tasks) (hst : SameFormal st st')
    (hev : SameCycles events events') (hrows : KeepsRows tasks tasks') :
    Coherent d st' events' tasks' :=
  h.frame hst (fun h => h.frame hev) (fun h => h.frame rfl rfl hev) hrows

/-- The states before an alarm. -/
theorem Coherent.ofNormal (hs : st.state = .normal) (hclosed : NoneOpen d events)
    (hidle : st.pendingTaskId = none) : Coherent d st events tasks where
  closed := fun _ => hclosed
  active := fun h => by rcases h with h | h <;> rw [hs] at h <;> cases h
  verifying := fun h => by rw [hs] at h; cases h
  recovering := fun h => by rw [hs] at h; cases h
  idle := fun _ => hidle

theorem Coherent.ofPending (hs : st.state = .pending) (hclosed : NoneOpen d events)
    {start : DateTime}
    {taskId : String} (hstart : st.violationStartedAt = some start)
    (htask : st.pendingTaskId = some taskId)
    (hrow : HasRow tasks taskId (KeyedTask "VERIFY_ALARM" (verifyAlarmKey d start))) :
    Coherent d st events tasks where
  closed := fun _ => hclosed
  active := fun h => by rcases h with h | h <;> rw [hs] at h <;> cases h
  verifying := fun _ => ⟨start, taskId, hstart, htask, hrow⟩
  recovering := fun h => by rw [hs] at h; cases h
  idle := fun h => by rcases h with h | h <;> rw [hs] at h <;> cases h

theorem Coherent.ofRecovery (hs : st.state = .recovery) (hactive : NamesEvent d st events)
    {eventId taskId : String}
    {start : DateTime} (hevent : st.activeAlarmId = some eventId)
    (hstart : st.recoveryStartedAt = some start) (htask : st.pendingTaskId = some taskId)
    (hrow : HasRow tasks taskId (KeyedTask "VERIFY_RECOVERY" (verifyRecoveryKey d eventId start))) :
    Coherent d st events tasks where
  closed := fun h => by rcases h with h | h <;> rw [hs] at h <;> cases h
  active := fun _ => hactive
  verifying := fun h => by rw [hs] at h; cases h
  recovering := fun _ => ⟨eventId, start, taskId, hevent, hstart, htask, hrow⟩
  idle := fun h => by rcases h with h | h <;> rw [hs] at h <;> cases h

theorem Coherent.ofAlarm (hs : st.state = .alarm) (hactive : NamesEvent d st events)
    (hidle : st.pendingTaskId = none) : Coherent d st events tasks where
  closed := fun h => by rcases h with h | h <;> rw [hs] at h <;> cases h
  active := fun _ => hactive
  verifying := fun h => by rw [hs] at h; cases h
  recovering := fun h => by rw [hs] at h; cases h
  idle := fun _ => hidle

end Frame

/-! ### The sample of the device -/

/-- A created task is in the table, under its type and its key. -/
theorem createOrGet_keyed {uuid : ℕ → String} {tasks : List AutomationTask} {drawn : ℕ}
    (hs : TaskStore.Sound uuid ⟨tasks, drawn⟩) (hinj : Function.Injective uuid)
    (a : RuntimeActivation) (spec : TaskSpec) {key : String} (hkey : spec.dedupeKey = some key)
    (hk : (spec.row a (uuid drawn)).Keyed) :
    HasRow (createOrGet tasks a (uuid drawn) spec).1
      (createOrGet tasks a (uuid drawn) spec).2.taskId
      (KeyedTask spec.taskType key) := by
  obtain ⟨hrun, t, ht, -, hdk⟩ :=
    createOrGet_run (P := fun _ => True) hs hinj a spec hkey hk trivial
  have hkeyed := (hrun.sound hinj hs).keyed t (byId_mem ht).1
  have htype : t.taskType = (spec.row a (uuid drawn)).taskType :=
    hk.type_eq hkeyed
        (by rw [show (spec.row a (uuid drawn)).dedupeKey = _ from hkey]; exact Option.some_ne_none _)
      (hdk.trans hkey.symm)
  exact ⟨t, ht, htype, hdk⟩

section Sample

variable {cfg : ServiceConfig} {i : SampleInput} {tr : StateTransition}
  {formal : List ApplicationAction}
  {events : List EnvironmentEvent} {tasks : List AutomationTask} {drawn : ℕ} {l' : Local}

/-- **The sample of a device keeps the agreement**, when the key of a pending
violation is free. -/
theorem LocalMove.coherent (hinj : Function.Injective cfg.uuid)
    (hs : TaskStore.Sound cfg.uuid ⟨tasks, drawn⟩) (hdevice : tr.previous.deviceId = i.deviceId)
    (hminted : ∀ e ∈ events, e.eventId ≠ cfg.uuid drawn)
    (hfree : ∀ start, tr.previous.state = .pending → tr.previous.violationStartedAt = some start →
      ∀ e ∈ events, e.eventKey ≠ eventKey i.deviceId start)
    (hI : Coherent i.deviceId tr.previous events tasks)
    (h : LocalMove cfg i tr ⟨tasks, events, drawn, tr.next⟩ formal l') :
    Coherent i.deviceId l'.next l'.events l'.tasks := by
  have hrows : KeepsRows tasks l'.tasks := (h.tasksRun hinj hs).keepsRows
  cases h with
  | quiet hformal => exact hI.cycles hformal (sameCycles_refl _) hrows
  | started hprev hformal =>
    have hrow := createOrGet_keyed hs hinj i.activation (scheduleSpec i (verifyAction cfg i tr)) rfl
      (verifyAlarm_keyed _)
    refine .ofPending hformal.state (hI.closed (.inl hprev)) hformal.violationStartedAt rfl ?_
    rw [← hdevice]
    exact hrow
  | dropped hprev hformal => exact .ofNormal hformal.state (hI.closed (.inr hprev)) rfl
  | verified hprev hformal hcreate =>
    obtain ⟨start, -, hstart, -⟩ := hI.verifying hprev
    have hclosed : NoneOpen i.deviceId events := hI.closed (.inr hprev)
    have hnext : tr.next.violationStartedAt = some start := by
      rw [hformal.violationStartedAt, hstart]
      rfl
    obtain ⟨e, hnew, hrows', hl'⟩ :=
      projectCreate_events hcreate hnext (hfree start hprev hstart) hclosed
    have hsame := hrows'.sameCycles
    have hnames : NamesEvent i.deviceId l'.next (events ++ [e]) := by
      have hfresh : ∀ a ∈ events, a.eventId ≠ e.eventId := fun a ha => hnew.eventId ▸ hminted a ha
      refine ⟨e.eventId, e, start, ?_, eventById_new hfresh, hnew.deviceId, ?_, hnew.eventKey,
        hnew.violationStartedAt, ?_⟩
      · rw [hl', hnew.eventId]
      · rw [hl']
        exact hnext
      · intro other ho hod hne
        rcases List.mem_append.mp ho with ho | ho
        · exact hclosed other ho hod
        · exact absurd (by rw [List.mem_singleton.mp ho]) hne
    refine .ofAlarm ?_ (hnames.frame rfl rfl hsame) ?_
    · rw [hl']
      exact hformal.state
    · rw [hl']
      rfl
  | active hprev hformal hupdate =>
    obtain ⟨-, -, hnext⟩ := projectUpdate_tasks hupdate
    exact hI.cycles (hnext ▸ hformal) (projectUpdate_events hupdate).sameCycles hrows
  | returned hprev hformal hupdate =>
    obtain ⟨-, -, hnext⟩ := projectUpdate_tasks hupdate
    have hsame := (projectUpdate_events hupdate).sameCycles
    rw [leaveRecovery_events] at hsame
    have hidle : (⟨tasks, events, drawn, tr.next⟩ : Local).next.pendingTaskId = none :=
      hformal.pendingTaskId
    rw [leaveRecovery_idle _ hidle] at hnext
    rw [hnext]
    refine .ofAlarm hformal.state ?_ hformal.pendingTaskId
    exact (hI.active (.inr hprev)).frame hformal.activeAlarmId hformal.violationStartedAt hsame
  | recovering hprev hne hformal =>
    have hnames := hI.active (.inl hprev)
    obtain ⟨eventId, -, -, hid, -⟩ := hI.active (.inl hprev)
    have hevent : tr.next.activeAlarmId = some eventId := hformal.activeAlarmId.trans hid
    have hstart : tr.next.recoveryStartedAt = some i.now := hformal.recoveryStartedAt
    have hrow :=
      createOrGet_keyed hs hinj i.activation (recoverySpec cfg i tr.next)
        rfl (verifyRecovery_keyed _ _)
    unfold scheduleRecoveryTask
    rw [if_neg (by have := cfg.machine.recovery_nonneg; omega)]
    refine .ofRecovery hformal.state
      (hnames.frame hformal.activeAlarmId hformal.violationStartedAt (sameCycles_refl _))
        hevent hstart rfl ?_
    rw [hevent, hstart] at hrow
    exact hrow
  | recovered hprev hformal hmark =>
    obtain ⟨-, -, hnext⟩ := projectRecovered_tasks hmark
    have hidle : (⟨tasks, events, drawn, tr.next⟩ : Local).next.pendingTaskId = none :=
      hformal.pendingTaskId
    rw [leaveRecovery_idle _ hidle] at hnext
    obtain ⟨eventId, -, -, hid, -, -, -, -, -, hothers⟩ := hI.active (hprev.imp And.left And.left)
    have heid : ((eventAction tr .markAlarmRecovered tr.previous.activeAlarmId).alarmId <|>
        tr.previous.activeAlarmId) = some eventId := by
      rw [show (eventAction tr .markAlarmRecovered tr.previous.activeAlarmId).alarmId =
        tr.previous.activeAlarmId from rfl, hid]
      rfl
    refine .ofNormal (hnext ▸ hformal.state) (fun e' he' hd => ?_) (hnext ▸ hformal.pendingTaskId)
    rcases projectRecovered_events hmark with ⟨hnone, -⟩ | ⟨eventId', -, hsome, -, he⟩
    · rw [heid] at hnone
      cases hnone
    · obtain rfl : eventId = eventId' := Option.some.inj (heid.symm.trans hsome)
      rw [he, leaveRecovery_events] at he'
      obtain ⟨e, hem, rfl⟩ := List.mem_map.mp he'
      by_cases hmarked : e.eventId = eventId
      · rw [if_pos hmarked]
        exact recovered_status _ _ e
      · rw [if_neg hmarked] at hd ⊢
        exact hothers e hem hd hmarked

end Sample

/-! ### Every device of the system -/

theorem eventKey_inj {d d' : String} {s t : DateTime} (h : eventKey d s = eventKey d' t) :
    d = d' ∧ s = t := by
  obtain ⟨hd, ht⟩ := DateTime.colon_isoformat_inj h
  refine ⟨?_, ht⟩
  have hl := congrArg String.toList hd
  simp only [String.toList_append] at hl
  exact String.toList_inj.mp (List.append_cancel_left hl)

/-- Every device is coherent, and the starts of the cycles are no later than an
evaluation that was `seen`. -/
structure Cycles (seen : List (String × DateTime)) (s : ServiceState) : Prop where
  device : ∀ d, (s.alarm d).deviceId = d
  keyed : ∀ e ∈ s.events, ∃ start, e.eventKey = eventKey e.deviceId start ∧
    e.payload.violationStartedAt = some start ∧ ∃ t, (e.deviceId, t) ∈ seen ∧
      start.instant ≤ t.instant
  pending : ∀ d start, (s.alarm d).state = .pending → (s.alarm d).violationStartedAt = some start →
    (∃ t, (d, t) ∈ seen ∧ start.instant ≤ t.instant) ∧ ∀ e ∈ s.events, e.eventKey ≠ eventKey d start
  coherent : ∀ d, Coherent d (s.alarm d) s.events s.tasks

section Cycles

variable {cfg : ServiceConfig} {seen : List (String × DateTime)} {s s' : ServiceState}

theorem Cycles.empty : Cycles [] {} where
  device := fun _ => rfl
  keyed := fun e he => by cases he
  pending := fun d start h => by cases h
  coherent := fun d => .ofNormal rfl (fun e he => by cases he) rfl

/-- What leaves the lifecycles, the cycles and the rows. -/
theorem Cycles.aside (h : Cycles seen s) (hst : ∀ d, SameFormal (s.alarm d) (s'.alarm d))
    (hev : SameCycles s.events s'.events) (hrows : KeepsRows s.tasks s'.tasks) :
    Cycles seen s' where
  device := fun d => (hst d).deviceId.trans (h.device d)
  keyed := fun e' he' => by
    obtain ⟨e, he, hs⟩ := forall₂_mem_right hev he'
    rw [hs.eventKey, hs.deviceId, hs.violationStartedAt]
    exact h.keyed e he
  pending := fun d start hp hstart => by
    obtain ⟨hseen, hfree⟩ :=
      h.pending d start ((hst d).state ▸ hp) ((hst d).violationStartedAt ▸ hstart)
    refine ⟨hseen, fun e' he' => ?_⟩
    obtain ⟨e, he, hs⟩ := forall₂_mem_right hev he'
    rw [hs.eventKey]
    exact hfree e he
  coherent := fun d => (h.coherent d).cycles (hst d) hev hrows

section Sample

variable {i : SampleInput} {out : SampleOutput}

/-- What a sample of a coherent device makes of the events. -/
inductive EventsMoved (cfg : ServiceConfig) (i : SampleInput) (s s' : ServiceState) : Prop
  | same : SameCycles s.events s'.events → EventsMoved cfg i s s'
  | opened (start : DateTime) (e : EnvironmentEvent) : (s.alarm i.deviceId).state = .pending →
      (s.alarm i.deviceId).violationStartedAt = some start → (s'.alarm i.deviceId).state = .alarm →
      NewEvent cfg i (s.drawn + 1) start e → SameCycles (s.events ++ [e]) s'.events →
      EventsMoved cfg i s s'

/-- A row behind a sample was there, or is the event it opened. -/
theorem EventsMoved.row (h : EventsMoved cfg i s s') {e' : EnvironmentEvent}
    (he' : e' ∈ s'.events) :
    (∃ e ∈ s.events, SameCycle e e') ∨ ∃ start e, (s.alarm i.deviceId).state = .pending ∧
      (s.alarm i.deviceId).violationStartedAt = some start ∧ (s'.alarm i.deviceId).state = .alarm ∧
      NewEvent cfg i (s.drawn + 1) start e ∧ SameCycle e e' := by
  cases h with
  | same hsame =>
    obtain ⟨e, he, hse⟩ := forall₂_mem_right hsame he'
    exact .inl ⟨e, he, hse⟩
  | opened start e hp hst ha hnew hsame =>
    obtain ⟨e₀, he₀, hse⟩ := forall₂_mem_right hsame he'
    rcases List.mem_append.mp he₀ with he₀ | he₀
    · exact .inl ⟨e₀, he₀, hse⟩
    · rw [List.mem_singleton.mp he₀] at hse
      exact .inr ⟨start, e, hp, hst, ha, hnew, hse⟩

theorem SampleTrace.state_eq (T : SampleTrace cfg i s s' out) :
    (s'.alarm i.deviceId).state = T.tr.next.state ∧
      (s'.alarm i.deviceId).violationStartedAt = T.tr.next.violationStartedAt :=
  ⟨T.alarm_formal.state.trans T.localMove.window.state,
    T.alarm_formal.violationStartedAt.trans T.localMove.window.violationStartedAt⟩

theorem SampleTrace.device_eq (T : SampleTrace cfg i s s' out) :
    (s'.alarm i.deviceId).deviceId = (s.alarm i.deviceId).deviceId := by
  rw [T.alarm_formal.deviceId, T.localMove.window.deviceId]
  exact T.prewarning.formal.deviceId.trans T.move.deviceId

section Trace

variable (hinj : Function.Injective cfg.uuid) (hs : TaskStore.Sound cfg.uuid ⟨s.tasks, s.drawn⟩)
include hinj hs

theorem SampleTrace.keepsRows (T : SampleTrace cfg i s s' out) : KeepsRows s.tasks s'.tasks :=
  (T.tasksRun hinj hs).keepsRows

omit hinj hs in
theorem SampleTrace.moved (T : SampleTrace cfg i s s' out)
    (hc : Coherent i.deviceId (s.alarm i.deviceId) s.events s.tasks) : EventsMoved cfg i s s' := by
  rcases T.localMove.events rfl with hsame | ⟨start, e, hp, hst, ha, hnew, hsame, -⟩
  · exact .same (T.events_eq ▸ hsame)
  · rw [T.previous_eq] at hp hst
    obtain ⟨start', -, hst', -⟩ := hc.verifying hp
    rw [hst', Option.getD_some] at hst
    exact .opened start e hp (hst ▸ hst') (T.state_eq.1.trans ha) hnew (T.events_eq ▸ hsame)

/-- A sample keeps the agreement of every device. -/
theorem Cycles.sample_coherent (h : Cycles seen s) (T : SampleTrace cfg i s s' out)
    (hminted : ∀ e ∈ s.events, ∃ n < s.drawn, e.eventId = cfg.uuid n) (d : String) :
    Coherent d (s'.alarm d) s'.events s'.tasks := by
  have hmoved := T.moved (h.coherent _)
  have hrows := T.keepsRows hinj hs
  by_cases hd : i.deviceId = d
  · subst hd
    have hprev := T.previous_eq
    have hfresh : ∀ e ∈ s.events, e.eventId ≠ cfg.uuid (s.drawn + 1) := by
      intro e he hid
      obtain ⟨n, hn, hn'⟩ := hminted e he
      have := hinj (hn'.symm.trans hid)
      omega
    have hlocal := T.localMove.coherent hinj hs.draw (hprev ▸ h.device _) hfresh
      (fun start hp hst => (h.pending _ start (hprev ▸ hp) (hprev ▸ hst)).2) (hprev ▸ h.coherent _)
    have harm := T.armRun hinj ((T.localMove.tasksRun hinj hs.draw).sound hinj hs.draw)
    rw [← T.events_eq] at hlocal
    exact hlocal.cycles T.alarm_formal (sameCycles_refl _) harm.keepsRows
  · rw [T.alarm_other hd]
    cases hmoved with
    | same hsame => exact (h.coherent d).cycles (.refl _) hsame hrows
    | opened start e _ _ _ hnew hsame =>
      have hne : e.deviceId ≠ d := fun he => hd (hnew.deviceId.symm.trans he)
      refine (h.coherent d).frame (.refl _) (fun hclosed => ?_) (fun ha =>
        (ha.append hne).frame rfl rfl hsame) hrows
      refine NoneOpen.frame (fun e' he' hd' => ?_) hsame
      rcases List.mem_append.mp he' with he' | he'
      · exact hclosed e' he' hd'
      · exact absurd (List.mem_singleton.mp he' ▸ hd') hne

/-- **A sample evaluated later than all before it** keeps the cycles. -/
theorem Cycles.sample (h : Cycles seen s) (T : SampleTrace cfg i s s' out)
    (hminted : ∀ e ∈ s.events, ∃ n < s.drawn, e.eventId = cfg.uuid n)
    (hlater : ∀ t, (i.deviceId, t) ∈ seen → t.instant < i.now.instant) :
    Cycles (seen ++ [(i.deviceId, i.now)]) s' := by
  have hmoved := T.moved (h.coherent _)
  refine ⟨fun d => ?_, fun e' he' => ?_, fun d start hp hst => ?_,
    h.sample_coherent hinj hs T hminted⟩
  · by_cases hd : i.deviceId = d
    · subst hd
      exact T.device_eq.trans (h.device _)
    · rw [T.alarm_other hd]
      exact h.device d
  · rcases hmoved.row he' with ⟨e, he, hse⟩ | ⟨start, e, hp, hst, -, hnew, hse⟩
    · obtain ⟨start, hkey, hpay, t, ht, hle⟩ := h.keyed e he
      rw [hse.eventKey, hse.deviceId, hse.violationStartedAt]
      exact ⟨start, hkey, hpay, t, List.mem_append_left _ ht, hle⟩
    · obtain ⟨⟨t, ht, hle⟩, -⟩ := h.pending _ start hp hst
      rw [hse.eventKey, hse.deviceId, hse.violationStartedAt, hnew.deviceId]
      exact ⟨start, hnew.eventKey, hnew.violationStartedAt, t, List.mem_append_left _ ht, hle⟩
  by_cases hd : i.deviceId = d
  · subst hd
    rw [T.state_eq.1] at hp
    rw [T.state_eq.2] at hst
    rcases T.localMove.pending hp with ⟨hp₀, hst₀⟩ | ⟨-, hnow⟩
    · rw [T.previous_eq] at hp₀ hst₀
      obtain ⟨⟨t, ht, hle⟩, hfree⟩ := h.pending _ start hp₀ (hst₀.symm.trans hst)
      refine ⟨⟨t, List.mem_append_left _ ht, hle⟩, fun e' he' => ?_⟩
      rcases hmoved.row he' with ⟨e, he, hse⟩ | ⟨_, _, -, -, ha, -⟩
      · rw [hse.eventKey]
        exact hfree e he
      · rw [T.state_eq.1, hp] at ha
        cases ha
    · rw [hnow] at hst
      obtain rfl := Option.some.inj hst
      refine ⟨⟨i.now, List.mem_append_right _ List.mem_cons_self, le_refl _⟩, fun e' he' hkey => ?_⟩
      rcases hmoved.row he' with ⟨e, he, hse⟩ | ⟨_, _, -, -, ha, -⟩
      · -- no event started as late as this sample
        obtain ⟨start, hkey₀, -, t, ht, hle⟩ := h.keyed e he
        obtain ⟨hdev, rfl⟩ := eventKey_inj (hkey₀.symm.trans (hse.eventKey.symm.trans hkey))
        have := hlater t (hdev ▸ ht)
        omega
      · rw [T.state_eq.1, hp] at ha
        cases ha
  · rw [T.alarm_other hd] at hp hst
    obtain ⟨⟨t, ht, hle⟩, hfree⟩ := h.pending d start hp hst
    refine ⟨⟨t, List.mem_append_left _ ht, hle⟩, fun e' he' hkey => ?_⟩
    rcases hmoved.row he' with ⟨e, he, hse⟩ | ⟨_, e, -, -, -, hnew, hse⟩
    · exact hfree e he (hse.eventKey.symm.trans hkey)
    · exact hd (eventKey_inj (hnew.eventKey.symm.trans (hse.eventKey.symm.trans hkey))).1

end Trace

end Sample

end Cycles

/-! ### Runs -/

section Run

variable {cfg : ServiceConfig} {w : World} {ls : List Label}

theorem cycles_run (hinj : Function.Injective cfg.uuid) (h : Run (Step cfg) World.empty ls w)
    (hinc : Increasing ls) : Cycles (ls.filterMap Label.evaluation) w.service := by
  induction h with
  | nil => exact .empty
  | @snoc ls a l b hrun hstep ih =>
    unfold Increasing at hinc
    rw [List.filterMap_append, List.pairwise_append] at hinc
    obtain ⟨hbefore, -, hlater⟩ := hinc
    have hC := ih hbefore
    have hs := sound_run hinj hrun
    by_cases hl : ∀ i out, l ≠ .sample i out
    · obtain ⟨hst, hev⟩ := hstep.aside hinj hs hl
      have hnone : [l].filterMap Label.evaluation = [] := by
        cases l with
        | sample i out => exact absurd rfl (hl i out)
        | _ => rfl
      rw [List.filterMap_append, hnone, List.append_nil]
      exact hC.aside hst hev (hstep.tasksRun hinj hs).keepsRows
    · push Not at hl
      obtain ⟨i, out, rfl⟩ := hl
      cases hstep with
      | sample hsample =>
        obtain ⟨T⟩ := handleSample_trace hsample
        rw [List.filterMap_append]
        exact hC.sample hinj hs T (minted_run hinj hrun) fun t ht =>
          hlater _ ht _ List.mem_cons_self rfl

/-- **Alarm state, events and tasks agree** after every run whose evaluations
of a device are strictly increasing. -/
theorem coherent_run (hinj : Function.Injective cfg.uuid) (h : Run (Step cfg) World.empty ls w)
    (hinc : Increasing ls) (d : String) :
    Coherent d (w.service.alarm d) w.service.events w.service.tasks :=
  (cycles_run hinj h hinc).coherent d

/-- An alarm whose remote record is deleted before the device recovers. -/
theorem coherent_run_pilot : ∃ ls w, Run (Step pilot) World.empty ls w ∧
    (w.service.alarm "TH-01").state = .recovery ∧
      Coherent "TH-01" (w.service.alarm "TH-01") w.service.events w.service.tasks := by
  have h : (World.empty.play pilot (fun _ _ => true)
      [.sample (pilotSample .violation 0), .sample (pilotSample .violation 300),
        .event (.recordMissing (pilotUuid 3) (.utc 350000000)),
          .sample (pilotSample .normal 400)]).any
        (fun r => Increasing r.1 ∧ (r.2.service.alarm "TH-01").state = .recovery) = true := by
    decide +kernel
  obtain ⟨ls, w, hrun, hP⟩ := play_any h
  obtain ⟨hinc, hstate⟩ := of_decide_eq_true hP
  have hrun' := hrun.mono fun _ _ _ h => h.2
  exact ⟨ls, w, hrun', hstate, coherent_run pilotUuid_injective hrun' hinc "TH-01"⟩

end Run

end TemperatureMonitor
