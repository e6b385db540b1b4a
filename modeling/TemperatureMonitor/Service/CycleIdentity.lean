/-
# The cycle a reconciliation task names

A reconciliation task carries the start of a violation, and an attempt
compares it with the start its local event records. The task of a CREATE or an
UPDATE is armed in ALARM, where the state still holds the start of the event's
cycle. The task of a confirmed recovery is armed behind the reset to NORMAL:
its start is the moment of the sample, unless an unfinished task of the event
is there to be reused. `cycle_identity_iff` says that this is the only way the
two starts come apart, and `recovery_mismatch` is the run in which they do.
-/
import TemperatureMonitor.Service.Coherence

namespace TemperatureMonitor

/-! ### The two starts -/

/-- The start in a task's payload, and the start its local event records. -/
structure CycleStarts (events : List EnvironmentEvent) (t : AutomationTask)
    (start eventStart : DateTime) : Prop where
  task : t.payload.violationStartedAt = some start
  event : ∃ e, t.payload.localEventId = some e.eventId ∧ eventById events e.eventId = some e ∧
    e.payload.violationStartedAt = some eventStart

/-- The task names the cycle of its local event. -/
def StartsAgree (events : List EnvironmentEvent) (t : AutomationTask) : Prop :=
  ∃ start eventStart, CycleStarts events t start eventStart ∧ start.instant = eventStart.instant

/-- The task is a reconciliation of the event. -/
def AutomationTask.reconciles (eventId : String) (t : AutomationTask) : Bool :=
  t.taskType = reconcileType ∧
    (t.dedupeKey = some (reconcileKey (some eventId)) ∨
      (t.dedupeKey.any fun k =>
        (reconcileKey (some eventId) ++ ":retry:").toList.isPrefixOf k.toList) ∨
      t.payload.localEventId = some eventId)

/-- The sample confirms a recovery while no unfinished task reconciles the event. -/
def armsRecoveryAfresh (cfg : ServiceConfig) (w : World) : Label → Bool
  | .sample i _ =>
    let st := w.service.alarm i.deviceId
    i.writesEnabled && decide (cfg.machine.ConfirmsRecovery i.result.overallStatus st i.now) &&
      st.activeAlarmId.any fun eventId => w.service.tasks.all fun t =>
        !(t.unfinished && t.reconciles eventId)
  | _ => false

/-- Every armed task names the cycle of its local event, and no attempt finds
the starts apart. -/
structure CycleIdentity (ls : List Label) (w : World) : Prop where
  agree : ∀ i out, .sample i out ∈ ls → ∀ taskId ∈ out.eventTaskIds,
    HasRow w.service.tasks taskId (StartsAgree w.service.events)
  noMismatch : ∀ r, .reconcile r (.error cycleStartMismatch) ∉ ls

section Starts

variable {events events' : List EnvironmentEvent} {t t' : AutomationTask}
  {start eventStart : DateTime}

theorem CycleStarts.kept (h : CycleStarts events t start eventStart) (hs : SameTask t t')
    (hev : KeepsEvents events events') : CycleStarts events' t' start eventStart := by
  obtain ⟨n, hn⟩ := hs.payload
  obtain ⟨e, hid, hfound, hstart⟩ := h.event
  obtain ⟨e', hfound', hse⟩ := hev _ _ hfound
  refine ⟨by rw [hn]; exact h.task, e', ?_, ?_, hse.violationStartedAt.trans hstart⟩
  · rw [hn, hse.eventId]
    exact hid
  · rw [hse.eventId]
    exact hfound'

theorem StartsAgree.kept (h : StartsAgree events t) (hs : SameTask t t')
    (hev : KeepsEvents events events') : StartsAgree events' t' := by
  obtain ⟨start, eventStart, hstarts, heq⟩ := h
  exact ⟨start, eventStart, hstarts.kept hs hev, heq⟩

/-- Starts that differ do not agree. -/
theorem CycleStarts.not_agree (h : CycleStarts events t start eventStart)
    (hne : start.instant ≠ eventStart.instant) : ¬ StartsAgree events t := by
  rintro ⟨s, s', ⟨htask, e, hid, hfound, hstart⟩, heq⟩
  obtain ⟨e₀, hid₀, hfound₀, hstart₀⟩ := h.event
  obtain rfl : start = s := Option.some.inj (h.task.symm.trans htask)
  have hids : e₀.eventId = e.eventId := Option.some.inj (hid₀.symm.trans hid)
  rw [hids, hfound] at hfound₀
  obtain rfl := Option.some.inj hfound₀
  obtain rfl : eventStart = s' := Option.some.inj (hstart₀.symm.trans hstart)
  exact hne heq

end Starts

/-! ### The attempt -/

section Attempt

variable {cfg : ServiceConfig} {r : ReconcileInput} {s : ServiceState} {err : PyError}

theorem mapActions_error {emit : Bool} {tr : StateTransition} : ∀ {as : List AlarmAction},
    mapActions emit tr as = .error err →
      err = .valueError "verification action requires a due time and start time"
  | [], h => by cases h
  | a :: as, h => by
    simp only [mapActions] at h
    split at h
    · rename_i e he
      cases h
      unfold mapAction at he
      split at he
      · split at he <;> cases he
        rfl
      · cases he
      · cases he
      · split at he
        · split_ifs at he
        · cases he
    · split at h
      · rename_i rest e he
        cases h
        exact mapActions_error he
      · cases h

theorem externalEffectKey_error {digest : UpdateMaterial → String} {actionType : AlarmActionType}
    {eventId : String}
    {sampleTime recoveredAt : Option DateTime} {sample : MonitorSample} {result : ResultDict}
    (h : externalEffectKey digest actionType eventId sampleTime recoveredAt sample result =
      .error err) :
    err = .valueError "event_id cannot be empty" ∨
      err = .valueError "recovery effect requires a logical recovery instant" := by
  unfold externalEffectKey at h
  simp only at h
  split_ifs at h
  · cases h
    exact .inl rfl
  · split at h
    · cases h
    · split at h <;> cases h
      exact .inr rfl
    · cases h
    · cases h

theorem enrichReconciliations_error {digest : UpdateMaterial → String} {c : NotificationContext}
    {facts : MonitorSample × ResultDict} {taskId : String} {localEventId : Option String} :
    ∀ {as : List ApplicationAction}, enrichReconciliations digest c facts taskId localEventId as =
      .error err →
      err = .valueError "event_id cannot be empty" ∨
        err = .valueError "recovery effect requires a logical recovery instant"
  | [], h => by cases h
  | a :: as, h => by
    simp only [enrichReconciliations] at h
    split at h
    · rename_i e he
      cases h
      unfold enrichReconciliation at he
      split at he
      · cases he
      · split_ifs at he
        split at he
        · rename_i e' hkey
          cases he
          exact externalEffectKey_error hkey
        · cases he
    · split at h
      · rename_i rest e he
        cases h
        exact enrichReconciliations_error he
      · cases h

/-- Issuing fails on other grounds. -/
theorem issueReconciliation_ne_mismatch {device : String} {localEventId : Option String}
    {event : Option EnvironmentEvent} {start : Option DateTime} {state : AlarmState}
    {store : TaskStore} :
    issueReconciliation cfg r device localEventId event start state store ≠
      .error cycleStartMismatch := by
  intro h
  unfold issueReconciliation at h
  simp only at h
  split at h
  · rename_i e he
    rw [mapActions_error he] at h
    exact absurd (Except.error.inj h) (by decide)
  · split at h
    · rename_i e he
      rcases enrichReconciliations_error he with rfl | rfl <;> exact absurd
        (Except.error.inj h) (by decide)
    · cases h

/-- A mismatch comes from the check of the task's local event. -/
theorem reconcileAttempt_mismatch (h : (reconcileAttempt cfg r s).2 = .error cycleStartMismatch) :
    ∃ device e, r.task.payload.localEvent.bind (eventById s.events) = some e ∧
      checkLocalEvent cfg r device e = .error cycleStartMismatch := by
  unfold reconcileAttempt at h
  simp only at h
  split at h
  · exact absurd (Except.error.inj h) (by decide)
  · rename_i device _
    split at h
    · rename_i e he
      refine ⟨device, e, he, ?_⟩
      split at h
      · rename_i err hcheck
        cases h
        exact hcheck
      · split_ifs at h
        split at h
        · rename_i err hissue
          cases h
          exact absurd hissue issueReconciliation_ne_mismatch
        · cases h
    · split_ifs at h
      · exact absurd (Except.error.inj h) (by decide)
      split at h
      · rename_i err hlegacy
        cases h
        unfold checkLegacyTask at hlegacy
        simp only at hlegacy
        split_ifs at hlegacy
        · split at hlegacy
          · split_ifs at hlegacy
            exact absurd (Except.error.inj hlegacy) (by decide)
          · cases hlegacy
        · exact absurd (Except.error.inj hlegacy) (by decide)
      · split at h
        · rename_i err hissue
          cases h
          exact absurd hissue issueReconciliation_ne_mismatch
        · cases h

theorem reconcileAlarmEventTask_mismatch
    (h : (reconcileAlarmEventTask cfg r s).2 = .error cycleStartMismatch) :
    (reconcileAttempt cfg r s).2 = .error cycleStartMismatch := by
  unfold reconcileAlarmEventTask at h
  split at h
  · rename_i s' out heq
    cases h
  · rename_i s' err heq
    simp only at h
    split at h
    · rw [heq]
      exact h
    · rename_i err' hlost
      unfold rescheduleRunning at hlost
      split_ifs at hlost
      cases hlost
      exact absurd (Except.error.inj h) (by decide)

/-- **Where the starts agree, the check passes.** -/
theorem StartsAgree.no_mismatch (h : StartsAgree s.events r.task)
    (hplain : ∀ e ∈ s.events, strip e.eventId = e.eventId) :
    (reconcileAlarmEventTask cfg r s).2 ≠ .error cycleStartMismatch := by
  intro hm
  obtain ⟨device, e, he, hcheck⟩ := reconcileAttempt_mismatch (reconcileAlarmEventTask_mismatch hm)
  obtain ⟨start, eventStart, ⟨htask, e₀, hid₀, hfound, hstart⟩, heq⟩ := h
  have hlocal : e = e₀ := by
    unfold TaskPayload.localEvent at he
    rw [hid₀] at he
    simp only at he
    split_ifs at he
    · cases he
    rw [Option.bind_some, hplain e₀ (eventById_mem hfound).1, hfound] at he
    exact (Option.some.inj he).symm
  subst hlocal
  have hls : e.localStart cfg = some eventStart := by
    unfold EnvironmentEvent.localStart
    rw [hstart]
    rfl
  have hsame : sameInstant start eventStart = true := by
    simp [sameInstant, DateTime.epochMilliseconds, heq]
  unfold checkLocalEvent at hcheck
  rw [hls, htask] at hcheck
  simp only [Option.any_some, hsame] at hcheck
  split_ifs at hcheck with hdevice htrue
  · exact absurd (Except.error.inj hcheck) (by decide)
  · cases htrue

end Attempt

/-! ### The move of a sample -/

section Move

variable {cfg : ServiceConfig} {i : SampleInput} {tr : StateTransition} {l l' : Local}
  {formal : List ApplicationAction} {a : ApplicationAction}

/-- An event action is taken in ALARM, or confirms a recovery. -/
theorem LocalMove.event_next (h : LocalMove cfg i tr l formal l') (ha : a ∈ formal)
    (he : isEventAction a.actionType = true) : tr.next.state = .alarm ∨
      tr.next.state = .normal ∧ (tr.previous.state = .alarm ∨ tr.previous.state = .recovery) := by
  cases h with
  | quiet => cases ha
  | started =>
    obtain rfl := List.mem_singleton.mp ha
    cases he
  | dropped =>
    rw [(finishAction_kind ha).2] at he
    cases he
  | verified _ hformal => exact .inl hformal.state
  | active hprev hformal => exact .inl (hformal.state.trans hprev)
  | returned _ hformal => exact .inl hformal.state
  | recovering =>
    obtain rfl := List.mem_singleton.mp ha
    cases he
  | recovered hprev hformal => exact .inr ⟨hformal.state, hprev.imp And.left And.left⟩

/-- An alarm is left for NORMAL by a confirmed recovery. -/
theorem LocalMove.confirmed (h : LocalMove cfg i tr l formal l')
    (hprev : tr.previous.state = .alarm ∨ tr.previous.state = .recovery)
    (hnext : tr.next.state = .normal) :
    formal = eventAction tr .markAlarmRecovered tr.previous.activeAlarmId ::
        messageAction cfg tr .notifyRecovery tr.previous.activeAlarmId ∧
      SameFormal (AlarmState.ofDevice tr.previous.deviceId) tr.next ∧
      projectRecovered i tr (eventAction tr .markAlarmRecovered tr.previous.activeAlarmId)
        (leaveRecovery i tr [] l) = .ok l' := by
  cases h with
  | recovered _ hformal hmark => exact ⟨rfl, hformal, hmark⟩
  | quiet hformal => rcases hprev with hp | hp <;> rw [hformal.state, hp] at hnext <;> cases hnext
  | started hp => rcases hprev with hp' | hp' <;> rw [hp] at hp' <;> cases hp'
  | dropped hp => rcases hprev with hp' | hp' <;> rw [hp] at hp' <;> cases hp'
  | verified _ hformal => rw [hformal.state] at hnext; cases hnext
  | active hp hformal => rw [hformal.state, hp] at hnext; cases hnext
  | returned _ hformal => rw [hformal.state] at hnext; cases hnext
  | recovering _ _ hformal => rw [hformal.state] at hnext; cases hnext

/-- It leaves nothing of the cycle in the state. -/
theorem LocalMove.confirmed_next (h : LocalMove cfg i tr l formal l') (hl : l.next = tr.next)
    (hprev : tr.previous.state = .alarm ∨ tr.previous.state = .recovery)
    (hnext : tr.next.state = .normal) :
    SameFormal (AlarmState.ofDevice tr.previous.deviceId) l'.next := by
  obtain ⟨-, hformal, hmark⟩ := h.confirmed hprev hnext
  rw [(projectRecovered_tasks hmark).2.2,
    leaveRecovery_idle _ (by rw [hl]; exact hformal.pendingTaskId), hl]
  exact hformal

/-- Finishing a task of another type leaves the reconciliations. -/
theorem mem_finishOrSkip {tasks : List AutomationTask} {taskId : String} {at_ : DateTime}
    {scheduled : Option String}
    (hne : ∀ u ∈ tasks, u.taskId = taskId → u.taskType ≠ reconcileType) {t : AutomationTask}
    (ht : t.taskType = reconcileType) : t ∈ finishOrSkipTask tasks taskId at_ scheduled ↔
      t ∈ tasks := by
  unfold finishOrSkipTask cancelTask
  split_ifs
  · exact Iff.rfl
  · split
    · rename_i tasks' hcancel
      split at hcancel
      · cases hcancel
      · split_ifs at hcancel
        cases hcancel
        unfold updateRow
        rw [List.mem_map]
        constructor
        · rintro ⟨u, hu, rfl⟩
          split_ifs at ht ⊢ with hid
          · exact absurd ht (hne u hu hid)
          · exact hu
        · intro htm
          exact ⟨t, htm, if_neg fun hid => hne t htm hid ht⟩
    · exact Iff.rfl

/-- It finishes the verification the recovery was waiting for, no reconciliation. -/
theorem LocalMove.confirmed_tasks (h : LocalMove cfg i tr l formal l')
    (hprev : tr.previous.state = .alarm ∨ tr.previous.state = .recovery)
    (hnext : tr.next.state = .normal)
    (hne : ∀ taskId, tr.previous.pendingTaskId = some taskId → ∀ u ∈ l.tasks, u.taskId = taskId →
      u.taskType ≠ reconcileType) {t : AutomationTask} (ht : t.taskType = reconcileType) :
    t ∈ l'.tasks ↔ t ∈ l.tasks := by
  obtain ⟨-, -, hmark⟩ := h.confirmed hprev hnext
  rw [(projectRecovered_tasks hmark).1]
  unfold leaveRecovery
  split
  · exact Iff.rfl
  · rename_i taskId hpending
    split_ifs
    · exact mem_finishOrSkip (hne taskId hpending) ht
    · exact Iff.rfl

end Move

/-! ### The armed row -/

theorem sameIdentity_reconciles {spec : TaskSpec} {eventId : String}
    (htype : spec.taskType = reconcileType)
    (hid : spec.payload.localEventId = some eventId) (t : AutomationTask) :
    sameIdentity spec (reconcileKey (some eventId)) t = t.reconciles eventId := by
  simp [sameIdentity, AutomationTask.reconciles, htype, hid, reconcileType]

theorem activeRows_nil {tasks : List AutomationTask} {spec : TaskSpec} {key : String} :
    activeRows tasks spec key = [] ↔ ∀ t ∈ tasks, t.unfinished = true →
      sameIdentity spec key t = false := by
  unfold activeRows
  rw [← List.length_eq_zero_iff, List.length_mergeSort, List.length_eq_zero_iff,
    List.filter_eq_nil_iff]
  simp

section Trace

variable {cfg : ServiceConfig} {i : SampleInput} {s s' : ServiceState} {out : SampleOutput}
  (T : SampleTrace cfg i s s' out) {t : AutomationTask}

/-- The task the state waits for is no reconciliation. -/
theorem Coherent.pending_type {d : String} {st : AlarmState} {events : List EnvironmentEvent}
    {tasks : List AutomationTask} (h : Coherent d st events tasks)
    (hn : (tasks.map (·.taskId)).Nodup)
    (hs : st.state = .alarm ∨ st.state = .recovery) {taskId : String}
    (hid : st.pendingTaskId = some taskId)
    {u : AutomationTask} (hu : u ∈ tasks) (hut : u.taskId = taskId) :
    u.taskType ≠ reconcileType := by
  rcases hs with hs | hs
  · rw [h.idle (.inr hs)] at hid
    cases hid
  · obtain ⟨eventId, start, taskId', -, -, hid', t, ht, hkeyed⟩ := h.recovering hs
    obtain rfl : taskId = taskId' := Option.some.inj (hid.symm.trans hid')
    obtain ⟨htm, htid⟩ := byId_mem ht
    obtain rfl := eq_of_taskId hn hu htm (hut.trans htid.symm)
    rw [hkeyed.1]
    decide

include T

/-- Where an alarm is left for NORMAL, a reconciliation is armed for the event the
state named, from the time of the sample on, and the projection has left the
unfinished ones alone. -/
theorem SampleTrace.confirmed (hn : (s.tasks.map (·.taskId)).Nodup)
    (hc : Coherent i.deviceId (s.alarm i.deviceId) s.events s.tasks)
    (hprev : (s.alarm i.deviceId).state = .alarm ∨ (s.alarm i.deviceId).state = .recovery)
    (hnext : T.tr.next.state = .normal) :
    T.projected.eventId = (s.alarm i.deviceId).activeAlarmId ∧
      reconciliationStart T.projected i.now = i.now ∧
      (∃ a ∈ T.formal, isEventAction a.actionType = true) ∧
      ∀ t, t.taskType = reconcileType → (t ∈ T.l.tasks ↔ t ∈ s.tasks) := by
  rw [← T.previous_eq] at hc hprev ⊢
  have hnone := T.localMove.confirmed_next rfl hprev hnext
  obtain ⟨hformal, -, -⟩ := T.localMove.confirmed hprev hnext
  refine ⟨?_, ?_, ?_, fun t ht => T.localMove.confirmed_tasks hprev hnext ?_ ht⟩
  · show (T.l.next.activeAlarmId <|> T.tr.previous.activeAlarmId) = _
    rw [hnone.activeAlarmId]
    rfl
  · show ((T.l.next.violationStartedAt <|> T.l.next.alarmStartedAt).getD i.now) = i.now
    rw [hnone.violationStartedAt, hnone.alarmStartedAt]
    rfl
  · rw [hformal]
    exact ⟨_, List.mem_cons_self, rfl⟩
  · exact fun taskId hid u hu hut => hc.pending_type hn hprev hid hu hut

/-- The task a sample hands its event action: the new one, or an unfinished
reconciliation of the event. -/
theorem SampleTrace.armed_row (hinj : Function.Injective cfg.uuid)
    (hs : TaskStore.Sound cfg.uuid ⟨T.l.tasks, T.l.drawn⟩)
    {taskId : String} (hid : taskId ∈ out.eventTaskIds) :
    HasRow s'.tasks taskId fun t => t.taskType = reconcileType ∧
      ((∃ n, t.payload = { reconciliationPayload cfg.upper T.projected i with retryAttempt := n }) ∨
        ∃ old ∈ T.l.tasks, old.unfinished = true ∧
            sameIdentity (reconciliationSpec cfg.upper T.projected i)
          (reconcileKey T.projected.eventId) old = true) := by
  have hkeep : KeepsRows T.armed.tasks s'.tasks :=
    (T.notificationsRun hinj ((T.reconciliationRun hinj hs).sound hinj hs)).keepsRows
  rcases T.armed_cases with ⟨-, hnil, -⟩ | ⟨-, -, task, hmade, hdrawn, hids⟩
  · rw [hnil] at hid
    cases hid
  · rw [hids, List.mem_singleton] at hid
    subst hid
    refine hkeep _ _ (fun t t' hst ⟨htype, hrow⟩ => ⟨hst.taskType.trans htype, hrow.imp ?_ id⟩) ?_
    · rintro ⟨n, hn⟩
      obtain ⟨m, hm⟩ := hst.payload
      exact ⟨m, by rw [hm, hn]⟩
    · rw [SampleTrace.reconcileKey_eq] at hmade ⊢
      obtain ⟨-, t, ht, rfl, hrow⟩ := createOrGetUnfinished_run (P := fun _ => True)
          hs hinj i.activation _ rfl
        (fun _ => trivial) hmade
      refine ⟨t, ht, ?_⟩
      rcases hrow with rfl | ⟨old, hold, hst, hun, hsame⟩
      · exact ⟨rfl, .inl ⟨0, rfl⟩⟩
      · have htype : old.taskType = reconcileType := by
          have h := hsame
          unfold sameIdentity at h
          exact (of_decide_eq_true h).1
        exact ⟨hst.taskType.trans htype, .inr ⟨old, hold, hun, hsame⟩⟩

variable {T}

/-- A task armed in ALARM names the cycle. -/
theorem SampleTrace.ArmedRow.agree (h : T.ArmedRow t)
    (hc : Coherent i.deviceId (s'.alarm i.deviceId) s'.events s'.tasks)
    (ha : T.tr.next.state = .alarm) : StartsAgree s'.events t := by
  obtain ⟨eventId, e, start, hid, hfound, -, hst, -, hpay, -⟩ :=
    hc.active (.inl (T.state_eq.1.trans ha))
  rw [T.alarm_formal.activeAlarmId] at hid
  rw [T.alarm_formal.violationStartedAt] at hst
  obtain rfl : e.eventId = eventId := (eventById_mem hfound).2
  refine ⟨start, start, ⟨?_, e, ?_, hfound, hpay⟩, rfl⟩
  · rw [h.payload]
    show some ((T.l.next.violationStartedAt <|> T.l.next.alarmStartedAt).getD i.now) = _
    rw [hst]
    rfl
  · rw [h.payload]
    show (T.l.next.activeAlarmId <|> T.tr.previous.activeAlarmId) = _
    rw [hid]
    rfl

end Trace

theorem armsRecoveryAfresh_iff {cfg : ServiceConfig} {w : World} {i : SampleInput}
    {out : SampleOutput} :
    armsRecoveryAfresh cfg w (.sample i out) = true ↔ i.writesEnabled = true ∧
      cfg.machine.ConfirmsRecovery i.result.overallStatus (w.service.alarm i.deviceId) i.now ∧
      ∃ eventId, (w.service.alarm i.deviceId).activeAlarmId = some eventId ∧
        ∀ t ∈ w.service.tasks, t.unfinished = true → t.reconciles eventId = false := by
  simp only [armsRecoveryAfresh, Bool.and_eq_true, decide_eq_true_eq, Option.any_eq_true,
    List.all_eq_true, and_assoc]
  refine and_congr_right fun _ => and_congr_right fun _ => exists_congr fun eventId =>
      and_congr_right fun _ =>
    forall₂_congr fun t _ => ?_
  cases t.unfinished <;> simp

/-! ### Runs -/

section Run

variable {cfg : ServiceConfig} {w : World} {ls : List Label}

theorem Increasing.init {ks : List Label} (h : Increasing (ls ++ ks)) : Increasing ls := by
  unfold Increasing at h ⊢
  rw [List.filterMap_append] at h
  exact (List.pairwise_append.mp h).1

/-- A sample is later than all its device was evaluated at. -/
theorem Increasing.later {i : SampleInput} {out : SampleOutput} {ks : List Label}
    (h : Increasing (ls ++ .sample i out :: ks)) :
    ∀ t, (i.deviceId, t) ∈ ls.filterMap Label.evaluation → t.instant < i.now.instant := by
  unfold Increasing at h
  rw [List.filterMap_append] at h
  exact fun t ht => (List.pairwise_append.mp h).2.2 _ ht _ List.mem_cons_self rfl

/-- A new task behind a confirmed recovery is armed afresh. -/
theorem SampleTrace.ArmedRow.afresh {i : SampleInput} {s' : ServiceState} {out : SampleOutput}
    {T : SampleTrace cfg i w.service s' out} {t : AutomationTask} (h : T.ArmedRow t)
    (hn : (w.service.tasks.map (·.taskId)).Nodup)
    (hc : Coherent i.deviceId (w.service.alarm i.deviceId) w.service.events w.service.tasks)
    (hprev : (w.service.alarm i.deviceId).state = .alarm ∨
      (w.service.alarm i.deviceId).state = .recovery)
    (hnext : T.tr.next.state = .normal) : armsRecoveryAfresh cfg w (.sample i out) = true := by
  obtain ⟨hid, -, -, htasks⟩ := T.confirmed hn hc hprev hnext
  obtain ⟨eventId, -, -, hactive, -⟩ := hc.active hprev
  refine armsRecoveryAfresh_iff.mpr ⟨h.writes, ?_, eventId, hactive, fun u hu hun => ?_⟩
  · rw [T.prewarning.formal.state] at hnext
    exact (T.move.confirms_iff hprev).mp hnext
  · have hfree := h.free
    rw [hid, hactive] at hfree
    by_contra hrec
    have hrec : u.reconciles eventId = true := by simpa using hrec
    have htype : u.taskType = reconcileType := by
      unfold AutomationTask.reconciles at hrec
      exact (of_decide_eq_true hrec).1
    have := activeRows_nil.mp hfree u ((htasks u htype).mpr hu) hun
    rw [sameIdentity_reconciles rfl (hid.trans hactive), hrec] at this
    cases this

/-- Where no recovery is armed afresh, every reconciliation names the cycle of
its event. -/
theorem rows_agree_run (hinj : Function.Injective cfg.uuid)
    (h : Run (Guarded (fun w l => armsRecoveryAfresh cfg w l = false) (Step cfg)) World.empty ls w)
    (hinc : Increasing ls) : ∀ t ∈ w.service.tasks, t.taskType = reconcileType →
      StartsAgree w.service.events t := by
  induction h with
  | nil => intro t ht; cases ht
  | @snoc ls a l b hrun hstep ih =>
    obtain ⟨hguard, hstep⟩ := hstep
    have hrun' := hrun.mono fun _ _ _ h => h.2
    have hs := sound_run hinj hrun'
    have hC := cycles_run hinj hrun' hinc.init
    have hC' := cycles_run hinj (hrun'.snoc hstep) hinc
    have hev : KeepsEvents a.service.events b.service.events :=
      fun _ _ he => hstep.keepsEvent hinj hs he
    have h0 : ∀ t ∈ a.service.tasks, t.taskType = reconcileType → StartsAgree b.service.events t :=
      fun t ht htype => (ih hinc.init t ht htype).kept (.refl t) hev
    have hsame : ∀ t t', SameTask t t' →
        (t.taskType = reconcileType → StartsAgree b.service.events t) →
        t'.taskType = reconcileType → StartsAgree b.service.events t' :=
      fun t t' hst ht htype => (ht (hst.taskType ▸ htype)).kept hst fun _ e he => ⟨e, he, .refl e⟩
    by_cases hl : ∀ i out, l ≠ .sample i out
    · refine (hstep.tasksRun hinj hs).forall_rows h0 hsame fun t hrow htype => ?_
      cases hrow with
      | sample => exact absurd rfl (hl _ _)
      | notification e _ hr =>
        exact absurd (hr.taskType.symm.trans htype) e.action.actionType.value_ne_reconcile
      | ensured he =>
        -- the scanner copies the start the event records
        obtain ⟨e, hfound, hid, hstart⟩ := he.event
        obtain ⟨start, -, hpay, -⟩ := hC.keyed e (eventById_mem hfound).1
        have heid := (eventById_mem hfound).2
        have hagree : StartsAgree a.service.events t := by
          refine ⟨start, start, ⟨?_, e, by rw [hid, heid], by rw [heid]; exact hfound, hpay⟩, rfl⟩
          rw [hstart, EnvironmentEvent.localStart, hpay]
          rfl
        exact hagree.kept (.refl t) hev
    · push Not at hl
      obtain ⟨i, out, rfl⟩ := hl
      cases hstep with
      | sample hsample =>
        obtain ⟨T⟩ := handleSample_trace hsample
        refine (T.tasksRun hinj hs).forall_rows h0 hsame fun t hrow htype => ?_
        cases hrow with
        | verify hv =>
          rcases hv with hv | hv <;> rw [hv] at htype <;> exact absurd htype (by decide)
        | notification e _ hr =>
          exact absurd (hr.taskType.symm.trans htype) e.action.actionType.value_ne_reconcile
        | armed ha =>
          obtain ⟨action, hmem, hevent⟩ := ha.event
          rcases T.localMove.event_next hmem hevent with halarm | ⟨hnext, hprev⟩
          · exact ha.agree (hC'.coherent _) halarm
          · rw [T.previous_eq] at hprev
            rw [ha.afresh hs.nodup (hC.coherent _) hprev hnext] at hguard
            cases hguard

/-- **A recovery armed afresh** is dated by its sample, behind the start of its
event's cycle. -/
theorem afresh_starts (hinj : Function.Injective cfg.uuid) (h : Run (Step cfg) World.empty ls w)
    {i : SampleInput} {out : SampleOutput} {w' : World} (hstep : Step cfg w (.sample i out) w')
    (hinc : Increasing (ls ++ [.sample i out]))
    (hafresh : armsRecoveryAfresh cfg w (.sample i out) = true) :
    ∃ taskId ∈ out.eventTaskIds, HasRow w'.service.tasks taskId fun t =>
      ∃ eventStart, CycleStarts w'.service.events t i.now eventStart ∧
        eventStart.instant < i.now.instant := by
  obtain ⟨hwrites, hconfirms, eventId, hactive, hfree⟩ := armsRecoveryAfresh_iff.mp hafresh
  have hs := sound_run hinj h
  have hC := cycles_run hinj h hinc.init
  have hprev : (w.service.alarm i.deviceId).state = .alarm ∨
      (w.service.alarm i.deviceId).state = .recovery :=
    hconfirms.2.imp And.left And.left
  have hev : KeepsEvents w.service.events w'.service.events :=
    fun _ _ he => hstep.keepsEvent hinj hs he
  cases hstep with
  | @sample _ s' _ hsample =>
    obtain ⟨T⟩ := handleSample_trace hsample
    have hnext : T.tr.next.state = .normal := by
      rw [T.prewarning.formal.state]
      exact (T.move.confirms_iff hprev).mpr hconfirms
    obtain ⟨hid, hstart, ⟨action, hmem, hevent⟩, htasks⟩ :=
      T.confirmed hs.nodup (hC.coherent _) hprev hnext
    have hlocal := (T.localMove.tasksRun hinj hs.draw).sound hinj hs.draw
    obtain ⟨taskId, hmemid⟩ : ∃ taskId, taskId ∈ out.eventTaskIds := by
      rcases T.armed_cases with ⟨-, -, hoff | hnone⟩ | ⟨-, -, task, -, -, hids⟩
      · rw [hwrites] at hoff
        cases hoff
      · rw [hnone action hmem] at hevent
        cases hevent
      · exact ⟨task.taskId, by rw [hids]; exact List.mem_cons_self⟩
    obtain ⟨t, ht, -, hrow⟩ := T.armed_row hinj hlocal hmemid
    refine ⟨taskId, hmemid, t, ht, ?_⟩
    rcases hrow with ⟨n, hpayload⟩ | ⟨old, hold, hun, hsame⟩
    · obtain ⟨eventId', e, start, hactive', hfound, hd, -, hkey, hpay, -⟩ :=
        (hC.coherent i.deviceId).active hprev
      obtain rfl : e.eventId = eventId' := (eventById_mem hfound).2
      obtain ⟨start', hkey', -, at_, hseen, hle⟩ := hC.keyed e (eventById_mem hfound).1
      obtain rfl : start = start' := (eventKey_inj (hkey.symm.trans (hd ▸ hkey'))).2
      have hstarts : CycleStarts w.service.events t i.now start := by
        refine ⟨?_, e, ?_, hfound, hpay⟩
        · rw [hpayload]
          exact congrArg some hstart
        · rw [hpayload]
          exact hid.trans hactive'
      have hlt := hinc.later at_ (hd ▸ hseen)
      exact ⟨start, hstarts.kept (.refl t) hev, by omega⟩
    · -- no unfinished reconciliation was there to be reused
      rw [hid, hactive, sameIdentity_reconciles rfl (hid.trans hactive)] at hsame
      have htype : old.taskType = reconcileType := by
        have h := hsame
        unfold AutomationTask.reconciles at h
        exact (of_decide_eq_true h).1
      rw [hfree old ((htasks old htype).mp hold) hun] at hsame
      cases hsame

/-- **A run keeps the identity of its cycles** exactly when no sample of it arms
the reconciliation of a confirmed recovery afresh. -/
theorem cycle_identity_iff (hu : FreshUuids cfg.uuid) (h : Run (Step cfg) World.empty ls w)
    (hinc : Increasing ls) : CycleIdentity ls w ↔
      Run (Guarded (fun w l => armsRecoveryAfresh cfg w l = false) (Step cfg))
        World.empty ls w := by
  have hinj := hu.injective
  constructor
  · intro hid
    rcases h.guarded_or (C := fun w l => armsRecoveryAfresh cfg w l = false) with hg | ⟨pre, l,
      post, a, b, rfl, hpre, hstep, hbad, hpost⟩
    · exact hg
    · obtain ⟨i, out, rfl⟩ : ∃ i out, l = .sample i out := by
        cases l with
        | sample i out => exact ⟨i, out, rfl⟩
        | _ => exact absurd rfl hbad
      have hinc' : Increasing (pre ++ [.sample i out]) := by
        rw [List.append_cons] at hinc
        exact hinc.init
      obtain ⟨taskId, hmem, hrow⟩ := afresh_starts hinj hpre hstep hinc' (by simpa using hbad)
      obtain ⟨hrows, hev⟩ := kept_run hinj (hpre.snoc hstep) hpost
      obtain ⟨t, ht, eventStart, hstarts, hlt⟩ := hrows _ _
        (fun t t' hst ⟨start, hstarts, hlt⟩ =>
          ⟨start, hstarts.kept hst fun _ e he => ⟨e, he, .refl e⟩, hlt⟩) hrow
      obtain ⟨u, hu, hagree⟩ := hid.agree i out (by simp) taskId hmem
      obtain rfl := Option.some.inj (ht.symm.trans hu)
      exact absurd hagree ((hstarts.kept (.refl t) hev).not_agree (by omega))
  · intro hg
    refine ⟨fun i out hmem taskId hid => ?_, fun r hmem => ?_⟩
    · obtain ⟨pre, post, rfl⟩ := List.append_of_mem hmem
      obtain ⟨a, b, hpre, hstep, hpost⟩ := h.at_label
      have hs := sound_run hinj hpre
      have hrow : HasRow b.service.tasks taskId fun t => t.taskType = reconcileType := by
        cases hstep with
        | sample hsample =>
          obtain ⟨T⟩ := handleSample_trace hsample
          have hlocal := (T.localMove.tasksRun hinj hs.draw).sound hinj hs.draw
          obtain ⟨t, ht, htype, -⟩ := T.armed_row hinj hlocal hid
          exact ⟨t, ht, htype⟩
      obtain ⟨t, ht, htype⟩ := (kept_run hinj (hpre.snoc hstep) hpost).1 _ _
        (fun t t' hst hq => hst.taskType.trans hq) hrow
      exact ⟨t, ht, rows_agree_run hinj hg hinc t (byId_mem ht).1 htype⟩
    · obtain ⟨pre, post, rfl⟩ := List.append_of_mem hmem
      obtain ⟨a, b, hpre, ⟨-, hstep⟩, -⟩ := hg.at_label
      have hrows := rows_agree_run hinj hpre hinc.init
      have hminted := minted_run hinj (hpre.mono fun _ _ _ h => h.2)
      generalize hl : Label.reconcile r (.error cycleStartMismatch) = l at hstep
      cases hstep with
      | reconcile hrow htype hsame =>
        obtain ⟨rfl, hanswer⟩ := Label.reconcile.inj hl
        have hagree := (hrows _ hrow htype).kept hsame fun _ e he => ⟨e, he, .refl e⟩
        refine hagree.no_mismatch (fun e he => ?_) hanswer.symm
        obtain ⟨n, -, hn⟩ := hminted e he
        rw [hn]
        exact hu.strip n
      | _ => cases hl

/-- The task of the CREATE is still unfinished when the recovery is confirmed. -/
theorem cycle_identity_pilot : ∃ ls w, Run (Step pilot) World.empty ls w ∧ Increasing ls ∧
    (w.service.alarm "TH-01").state = .normal ∧ w.service.events.length = 1 ∧
      CycleIdentity ls w := by
  have h : (World.empty.play pilot (fun w l => !armsRecoveryAfresh pilot w l)
      [.sample (pilotSample .violation 0), .sample (pilotSample .violation 300),
          .sample (pilotSample .normal 400),
        .sample (pilotSample .normal 460), .reconcile (pilotUuid 4) "TH-01" (.utc 470000000)]).any
        (fun r => Increasing r.1 ∧ (r.2.service.alarm "TH-01").state = .normal ∧
            r.2.service.events.length = 1) =
          true := by
    decide +kernel
  obtain ⟨ls, w, hrun, hP⟩ := play_any h
  obtain ⟨hinc, hstate, hlength⟩ := of_decide_eq_true hP
  have hguarded : Run (Guarded (fun w l => armsRecoveryAfresh pilot w l = false) (Step pilot))
      World.empty ls w :=
    hrun.mono fun _ _ _ h => ⟨by simpa using h.1, h.2⟩
  have hplain := hrun.mono fun _ _ _ h => h.2
  exact ⟨ls, w, hplain, hinc, hstate, hlength,
    (cycle_identity_iff pilot_fresh hplain hinc).mpr hguarded⟩

def Label.mismatches : Label → Bool
  | .reconcile _ (.error err) => err = cycleStartMismatch
  | _ => false

/-- The task of the CREATE is finished before the recovery is confirmed, the
inline write of the recovery fails, and its reconciliation never gets past the
check: the task starts at the confirmation, the event 460 seconds before. -/
theorem recovery_mismatch : ∃ ls w, Run (Step pilot) World.empty ls w ∧ Increasing ls ∧
    (∃ r, Label.reconcile r (.error cycleStartMismatch) ∈ ls) ∧
    ∃ t ∈ w.service.tasks, t.taskType = reconcileType ∧
      CycleStarts w.service.events t (.utc 460000000) (.utc 0) := by
  have h : (World.empty.play pilot (fun _ _ => true)
      [.sample (pilotSample .violation 0), .sample (pilotSample .violation 300),
        .event (.bind (pilotUuid 3) "rec1"), .task (.cancel (pilotUuid 4) (.utc 301000000)),
        .sample (pilotSample .normal 400), .sample (pilotSample .normal 460),
        .task (.claim (pilotUuid 9) "worker" (.utc 465000000) (.utc 765000000)),
        .reconcile (pilotUuid 9) "TH-01" (.utc 470000000)]).any (fun r =>
          Increasing r.1 ∧ r.1.any Label.mismatches ∧
          (r.2.service.tasks.any fun t => t.taskType = reconcileType ∧
              t.payload.violationStartedAt = some (.utc 460000000) ∧
            t.payload.localEventId = some (pilotUuid 3)) ∧
          (eventById r.2.service.events (pilotUuid 3)).any fun e =>
            e.payload.violationStartedAt = some (.utc 0)) = true := by
    decide +kernel
  obtain ⟨ls, w, hrun, hP⟩ := play_any h
  obtain ⟨hinc, hmis, htask, hevent⟩ := of_decide_eq_true hP
  refine ⟨ls, w, hrun.mono fun _ _ _ h => h.2, hinc, ?_, ?_⟩
  · obtain ⟨l, hl, hm⟩ := List.any_eq_true.mp hmis
    unfold Label.mismatches at hm
    split at hm
    · obtain rfl := of_decide_eq_true hm
      exact ⟨_, hl⟩
    · cases hm
  · obtain ⟨t, ht, hfields⟩ := List.any_eq_true.mp htask
    obtain ⟨htype, hstart, hid⟩ := of_decide_eq_true hfields
    obtain ⟨e, he, hes⟩ := (Option.any_eq_true _ _).mp hevent
    have heid := (eventById_mem he).2
    exact ⟨t, ht, htype, hstart, e, by rw [hid, heid], by
      rw [heid]; exact he, of_decide_eq_true hes⟩

end Run

end TemperatureMonitor
