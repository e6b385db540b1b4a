/-
# One recovery notification for a cycle

The confirmation of a recovery emits a notification keyed by the start of the
recovery window. An attempt that finds the recovery of the event pending emits
one keyed by the time the event records, which is the time of the
confirmation. `one_recovery_iff`: the two are one key, one task and one
message exactly in the runs in which no attempt gets so far while there is a
recovery window.
-/
import TemperatureMonitor.Service.CycleIdentity
import TemperatureMonitor.Service.RecoveryMarks

namespace TemperatureMonitor

/-! ### The windows of a state -/

/-- An alarm names an event, and without a recovery window it is never in RECOVERY. -/
structure Windows (m : AlarmStateMachine) (st : AlarmState) : Prop where
  named : st.state = .alarm ∨ st.state = .recovery → st.activeAlarmId ≠ none
  atOnce : m.recoveryAfter = 0 → st.state ≠ .recovery ∧
    (st.state = .alarm → st.recoveryStartedAt = none)

section Windows

variable {m : AlarmStateMachine} {st st' : AlarmState} {cfg : ServiceConfig} {i : SampleInput}
  {tr : StateTransition} {l l' : Local} {formal : List ApplicationAction}

theorem Windows.same (h : Windows m st) (hs : SameFormal st st') : Windows m st' where
  named := fun ha => by
    rw [hs.activeAlarmId]
    exact h.named (hs.state ▸ ha)
  atOnce := fun h0 => by
    rw [hs.state, hs.recoveryStartedAt]
    exact h.atOnce h0

/-- Before an alarm there is nothing to keep. -/
theorem Windows.ofBefore (h : st.state = .normal ∨ st.state = .pending) : Windows m st where
  named := fun ha => by rcases h with h | h <;> rw [h] at ha <;> simp at ha
  atOnce := fun _ => by rcases h with h | h <;> rw [h] <;> simp

theorem projectCreate_names (h : projectCreate cfg i l = .ok l') :
    l'.next.activeAlarmId ≠ none := by
  unfold projectCreate at h
  split at h
  · cases h
  · simp only at h
    split_ifs at h
    · split at h
      · cases h
      · cases h
        exact Option.some_ne_none _
    · cases h
      exact Option.some_ne_none _

theorem LocalMove.windows (h : LocalMove cfg i tr l formal l') (hl : l.next = tr.next)
    (hw : Windows cfg.machine tr.previous) : Windows cfg.machine l'.next := by
  have hwin := h.window
  cases h with
  | quiet hformal => exact hl ▸ hw.same hformal
  | started _ hformal => exact .ofBefore (.inr (hwin.state.trans (hl ▸ hformal.state)))
  | dropped _ hformal => exact .ofBefore (.inl (hwin.state.trans (hl ▸ hformal.state)))
  | verified _ hformal hcreate =>
    rw [hl] at hwin
    have hstate : l'.next.state = .alarm := hwin.state.trans hformal.state
    refine ⟨fun _ => projectCreate_names hcreate, fun _ => ⟨by rw [hstate]; simp, fun _ => ?_⟩⟩
    rw [hwin.recoveryStartedAt, hformal.recoveryStartedAt]
  | active hprev hformal hupdate =>
    rw [(projectUpdate_tasks hupdate).2.2, hl]
    exact hw.same hformal
  | returned hprev hformal hupdate =>
    rw [(projectUpdate_tasks hupdate).2.2,
      leaveRecovery_idle _ (by rw [hl]; exact hformal.pendingTaskId), hl]
    refine ⟨fun _ => ?_, fun _ => ⟨by rw [hformal.state]; simp, fun _ => hformal.recoveryStartedAt⟩⟩
    rw [hformal.activeAlarmId]
    exact hw.named (.inr hprev)
  | recovering hprev hne hformal =>
    have hactive : (scheduleRecoveryTask cfg i l).next.activeAlarmId = l.next.activeAlarmId := by
      unfold scheduleRecoveryTask
      split_ifs <;> rfl
    refine ⟨fun _ => ?_, fun h0 => absurd h0 hne⟩
    rw [hactive, hl, hformal.activeAlarmId]
    exact hw.named (.inl hprev)
  | recovered _ hformal => exact .ofBefore (.inl (hwin.state.trans (hl ▸ hformal.state)))

end Windows

section Run

variable {cfg : ServiceConfig} {w : World} {ls : List Label}

theorem windows_run (hinj : Function.Injective cfg.uuid) (h : Run (Step cfg) World.empty ls w)
    (d : String) : Windows cfg.machine (w.service.alarm d) := by
  refine Run.inv_labels (I := fun _ w => ∀ d, Windows cfg.machine (w.service.alarm d)) (fun d =>
      .ofBefore (.inl rfl))
    (fun ls a l b hrun ih hstep d => ?_) h d
  by_cases hl : ∀ i out, l ≠ .sample i out
  · exact (ih d).same ((hstep.aside hinj (sound_run hinj hrun) hl).1 d)
  · push Not at hl
    obtain ⟨i, out, rfl⟩ := hl
    cases hstep with
    | @sample _ s' _ hsample =>
      obtain ⟨T⟩ := handleSample_trace hsample
      by_cases hd : i.deviceId = d
      · subst hd
        exact (T.localMove.windows rfl (T.previous_eq ▸ ih _)).same T.alarm_formal
      · show Windows cfg.machine (s'.alarm d)
        rw [T.alarm_other hd]
        exact ih d

end Run

/-! ### The notices of an event -/

/-- A recovery notification of the event. -/
structure RecoveryNotice (e : Emission) (eventId : String) : Prop where
  actionType : e.action.actionType = .notifyRecovery
  alarmId : e.action.alarmId = some eventId

/-- It is keyed by the start, and sent under that key. -/
structure NoticeFrom (e : Emission) (eventId : String) (start : DateTime) : Prop where
  dedupeKey : e.action.dedupeKey = some (notifyRecoveryKey eventId start)
  recoveryStartedAt : e.action.payload.recoveryStartedAt = some start
  message : e.message = some ⟨.notifyRecovery, eventId, notifyRecoveryKey eventId start⟩

theorem message_recovery {e : Emission} {eventId : String} {start : DateTime}
    (hn : RecoveryNotice e eventId)
    (hstart : (e.context.transition.recoveryStartedAt <|> e.context.recoveredAt).getD
      e.context.createdAt = start) :
    e.message = some ⟨.notifyRecovery, eventId, notifyRecoveryKey eventId start⟩ := by
  unfold Emission.message
  rw [hn.actionType, hn.alarmId, ← hstart]
  rfl

/-- The step confirms the recovery of the event. -/
def Label.recovers (eventId : String) : Label → Bool
  | .sample _ out => out.actions.any fun a => a.actionType = .markAlarmRecovered ∧
    a.alarmId = some eventId
  | _ => false

theorem enrichAction_alarmId {digest : UpdateMaterial → String} {tr : StateTransition}
    {f : SampleFacts}
    {a a' : ApplicationAction} (h : enrichAction digest tr f a = .ok a') :
    a'.alarmId = actionAlarmId tr a := by
  unfold enrichAction at h
  simp only at h
  split at h
  · split_ifs at h
    · split at h
      · cases h
      · cases h
        rfl
    · cases h
      rfl
  · cases h
    rfl

section Sample

variable {cfg : ServiceConfig} {i : SampleInput} {s s' : ServiceState} {out : SampleOutput}
  {eventId : String}

/-- A mapped action is passed on, whatever ids it is given. -/
theorem SampleTrace.passes (T : SampleTrace cfg i s s' out) {a : ApplicationAction}
    (ha : a ∈ T.mapped) :
    ∃ a', enrichAction cfg.digest T.projected ⟨i.sample, i.result, i.now, i.schedulerTaskId⟩
      a = .ok a' ∧
      ∃ b ∈ out.actions, Passed a' b := by
  obtain ⟨a', ha', he⟩ := forall₂_mem_left T.enriched_forall₂ ha
  obtain ⟨c, hc, hac⟩ :=
    forall₂_mem_left (attachReconciliation_passed _ out.eventTaskIds T.projected.eventId) ha'
  obtain ⟨b, hb, hcb⟩ := forall₂_mem_left
    (attachNotification_passed _ out.notificationTaskIds T.projected.eventId) hc
  exact ⟨a', he, b, by rw [T.actions_out]; exact hb, hac.trans hcb⟩

section Confirmed

variable (T : SampleTrace cfg i s s' out)
  (hprev : (s.alarm i.deviceId).state = .alarm ∨ (s.alarm i.deviceId).state = .recovery)
  (hnext : T.tr.next.state = .normal)
include hprev hnext

theorem SampleTrace.confirmed_mapped :
    SameFormal (AlarmState.ofDevice T.tr.previous.deviceId) T.l.next ∧
    T.formal = eventAction T.tr .markAlarmRecovered (s.alarm i.deviceId).activeAlarmId ::
      messageAction cfg T.tr .notifyRecovery (s.alarm i.deviceId).activeAlarmId := by
  rw [← T.previous_eq] at hprev ⊢
  exact ⟨T.localMove.confirmed_next rfl hprev hnext, (T.localMove.confirmed hprev hnext).1⟩

theorem SampleTrace.confirmed_alarmId {a : ApplicationAction}
    (ha : a.alarmId = (s.alarm i.deviceId).activeAlarmId) :
    actionAlarmId T.projected a = (s.alarm i.deviceId).activeAlarmId := by
  obtain ⟨hnone, -⟩ := T.confirmed_mapped hprev hnext
  unfold actionAlarmId
  have hev : (T.projected.next.activeAlarmId <|> T.projected.previous.activeAlarmId) =
      (s.alarm i.deviceId).activeAlarmId := by
    show (T.l.next.activeAlarmId <|> T.tr.previous.activeAlarmId) = _
    rw [hnone.activeAlarmId, T.previous_eq]
    rfl
  rw [ha, hev]
  cases (s.alarm i.deviceId).activeAlarmId with
  | none => split_ifs <;> rfl
  | some id => rfl

/-- The confirmation is in the actions, under the event's name. -/
theorem SampleTrace.recovers (hid : (s.alarm i.deviceId).activeAlarmId = some eventId) :
    (Label.sample i out).recovers eventId = true := by
  obtain ⟨-, hformal⟩ := T.confirmed_mapped hprev hnext
  have ha : eventAction T.tr .markAlarmRecovered (s.alarm i.deviceId).activeAlarmId ∈ T.mapped := by
    refine List.mem_append_left _ ?_
    rw [hformal]
    exact List.mem_cons_self
  obtain ⟨a', he, b, hb, hpass⟩ := T.passes ha
  have hid' : a'.alarmId = some eventId := by
    rw [enrichAction_alarmId he, T.confirmed_alarmId hprev hnext rfl, hid]
  refine List.any_eq_true.mpr ⟨b, hb, ?_⟩
  have htype : b.actionType = .markAlarmRecovered := hpass.actionType.trans (enrichAction_type he).1
  have halarm : b.alarmId = some eventId := by
    rcases hpass.alarmId with hx | hx
    · exact hx.trans hid'
    · rw [hx] at hid'
      cases hid'
  simp [htype, halarm]

/-- Its notification is emitted. -/
theorem SampleTrace.emits_notice (hemit : cfg.emitNotifications = true)
    (hid : (s.alarm i.deviceId).activeAlarmId = some eventId) :
    ∃ e ∈ out.emissions i, RecoveryNotice e eventId := by
  obtain ⟨-, hformal⟩ := T.confirmed_mapped hprev hnext
  obtain ⟨a, ha, hkind, htype, hal⟩ : ∃ a ∈ T.mapped, a.kind = .notification ∧
      a.actionType = .notifyRecovery ∧
      a.alarmId = (s.alarm i.deviceId).activeAlarmId := by
    refine ⟨mapPlain T.tr.reason ⟨.notifyRecovery, T.tr.previous.deviceId, none,
        (s.alarm i.deviceId).activeAlarmId⟩,
      List.mem_append_left _ ?_, rfl, rfl, rfl⟩
    rw [hformal, messageAction, if_pos hemit]
    exact List.mem_cons_of_mem _ List.mem_cons_self
  obtain ⟨a', he, b, hb, hpass⟩ := T.passes ha
  have hid' : a'.alarmId = some eventId := by
    rw [enrichAction_alarmId he, T.confirmed_alarmId hprev hnext hal, hid]
  obtain ⟨htype', hkind'⟩ := enrichAction_type he
  refine ⟨⟨b, i.notificationContext out.transition⟩, ?_,
    hpass.actionType.trans (htype'.trans htype), ?_⟩
  · exact List.mem_map.mpr ⟨b, List.mem_filter.mpr ⟨hb, by simp [hpass.kind, hkind', hkind]⟩, rfl⟩
  · rcases hpass.alarmId with hx | hx
    · exact hx.trans hid'
    · rw [hx] at hid'
      cases hid'

end Confirmed

/-- **A notice of a sample** is of the event its state named, and is keyed by
the start of the window. -/
theorem SampleTrace.notice (T : SampleTrace cfg i s s' out)
    (hw : Windows cfg.machine (s.alarm i.deviceId))
    {e : Emission} (he : e ∈ out.emissions i) (ht : e.action.actionType = .notifyRecovery) :
    ∃ eventId, RecoveryNotice e eventId ∧ cfg.emitNotifications = true ∧
      ((s.alarm i.deviceId).state = .alarm ∨ (s.alarm i.deviceId).state = .recovery) ∧
      T.tr.next.state = .normal ∧ (s.alarm i.deviceId).activeAlarmId = some eventId ∧
      NoticeFrom e eventId ((s.alarm i.deviceId).recoveryStartedAt.getD i.now) := by
  obtain ⟨a, ha, a', hk, hplain, henr, hpass, hctx⟩ := T.emission he
  have htype : a.actionType = .notifyRecovery := by
    rw [← (enrichAction_type henr).1, ← hpass.actionType]
    exact ht
  have hformal : a ∈ T.formal := by
    rcases List.mem_append.mp ha with ha | ha
    · exact ha
    · obtain ⟨b, hb, rfl⟩ := List.mem_map.mp ha
      have hm := (T.mem_advice hb).2
      rw [show b.actionType = .notifyRecovery from htype] at hm
      cases hm
  obtain ⟨hemit, hmsg⟩ := T.localMove.message hformal hk
  rcases hmsg with ⟨-, rfl⟩ | ⟨hprev, hnone, ha_eq⟩
  · cases htype
  · rw [T.previous_eq] at hprev
    have hprev' := hprev.imp And.left id
    have hnext : T.tr.next.state = .normal := hnone.state
    obtain ⟨hl, -⟩ := T.confirmed_mapped hprev' hnext
    have hid := T.confirmed_alarmId hprev' hnext
      (show a.alarmId = _ by rw [ha_eq, ← T.previous_eq]; rfl)
    obtain ⟨id, hactive⟩ := Option.ne_none_iff_exists'.mp (hw.named hprev')
    obtain ⟨hdk, hpay, hal⟩ := enrichAction_notification hplain.not_event henr
    have henrich :
        enrichNotification T.projected ⟨i.sample, i.result, i.now, i.schedulerTaskId⟩ (some id) a =
        { a with
          dedupeKey := some (notifyRecoveryKey id (recoveryStartedAt T.projected i.now))
          payload := { a.payload with
            notificationType := some "RECOVERY"
            recoveryStartedAt := some (recoveryStartedAt T.projected i.now) } } := by
      unfold enrichNotification
      rw [htype]
    rw [hid, hactive, henrich] at hdk hpay
    rw [hid, hactive] at hal
    have hn : RecoveryNotice e id := by
      refine ⟨ht, ?_⟩
      rcases hpass.alarmId with hx | hx
      · exact hx.trans hal
      · rw [hx] at hal
        cases hal
    have hstart : recoveryStartedAt T.projected i.now =
        (s.alarm i.deviceId).recoveryStartedAt.getD i.now := by
      show (T.l.next.recoveryStartedAt <|> T.tr.previous.recoveryStartedAt).getD i.now = _
      rw [hl.recoveryStartedAt, T.previous_eq]
      rfl
    rw [hstart] at hdk hpay
    refine ⟨id, hn, hemit, hprev', hnext, hactive, ?_, ?_, message_recovery hn ?_⟩
    · rw [hpass.dedupeKey ((enrichAction_type henr).1 ▸ hplain.not_event.1), hdk]
    · rw [hpass.payload, hpay]
    · rw [hctx]
      show ((T.l.next.recoveryStartedAt <|> T.tr.previous.recoveryStartedAt) <|> none).getD i.now =
        _
      rw [hl.recoveryStartedAt, T.previous_eq]
      cases (s.alarm i.deviceId).recoveryStartedAt <;> rfl

end Sample

/-! ### The notices of an attempt -/

/-- The attempt gets past its checks to the event, and finds its recovery pending. -/
def findsRecovery (cfg : ServiceConfig) (eventId : String) (w : World) : Label → Bool
  | .reconcile r _ =>
    r.task.payload.localEvent = some eventId &&
      (eventById w.service.events eventId).any fun e =>
        e.recoveryPending && (r.device cfg).any fun device => (checkLocalEvent cfg r device e).isOk
  | _ => false

section Attempt

variable {cfg : ServiceConfig} {r : ReconcileInput} {s : ServiceState} {eventId : String}

theorem findsRecovery_iff {w : World} {answer : Except PyError (Option ReconcileOutput)} :
    findsRecovery cfg eventId w (.reconcile r answer) = true ↔
      r.task.payload.localEvent = some eventId ∧
      ∃ e, eventById w.service.events eventId = some e ∧ e.recoveryPending = true ∧
        ∃ device start, r.device cfg = some device ∧
          checkLocalEvent cfg r device e = .ok start := by
  unfold findsRecovery
  rw [Bool.and_eq_true, decide_eq_true_eq, Option.any_eq_true]
  refine and_congr_right fun _ => exists_congr fun e => and_congr_right fun _ => ?_
  rw [Bool.and_eq_true, Option.any_eq_true]
  refine and_congr_right fun _ => exists_congr fun device => ?_
  cases checkLocalEvent cfg r device e with
  | error err => simp [Except.isOk, Except.toBool]
  | ok start => simp [Except.isOk, Except.toBool]

theorem reconcileAlarmEventTask_ok {out : ReconcileOutput} :
    (reconcileAlarmEventTask cfg r s).2 = .ok (some out) ↔
      (reconcileAttempt cfg r s).2 = .ok (some out) := by
  unfold reconcileAlarmEventTask
  generalize reconcileAttempt cfg r s = res
  obtain ⟨s', answer⟩ := res
  cases answer with
  | ok _ => exact Iff.rfl
  | error err =>
    simp only
    split <;> simp

/-- What an attempt issues about an event has passed the checks. -/
theorem reconcileAttempt_checked {out : ReconcileOutput} {e : EnvironmentEvent}
    (h : (reconcileAttempt cfg r s).2 = .ok (some out))
    (hid : r.task.payload.localEvent = some eventId) (he : eventById s.events eventId = some e) :
    ∃ device start, r.device cfg = some device ∧ checkLocalEvent cfg r device e = .ok start := by
  unfold reconcileAttempt at h
  simp only at h
  split at h
  · cases h
  · rename_i device hdevice
    rw [hid, Option.bind_some, he] at h
    simp only at h
    split at h
    · cases h
    · rename_i start hcheck
      exact ⟨device, start, hdevice, hcheck⟩

/-- **A notice of an attempt** is keyed by the time the event records. -/
theorem attempt_notice {e : Emission}
    (he : e ∈ reconcileEmissions (reconcileAlarmEventTask cfg r s).2)
    (hn : e.action.actionType = .notifyRecovery) : cfg.emitNotifications = true ∧
      ∃ eventId event, RecoveryNotice e eventId ∧ r.task.payload.localEvent = some eventId ∧
        eventById s.events eventId = some event ∧ event.recoveryPending = true ∧
        (∃ device start, r.device cfg = some device ∧
          checkLocalEvent cfg r device event = .ok start) ∧
        ∀ at_, event.payload.feishuRecoveredAt = some at_ → NoticeFrom e eventId at_ := by
  obtain ⟨store', out, hissued, hmem, hctx⟩ := reconcileEmissions_issued he
  have hanswer : ∃ out, (reconcileAttempt cfg r s).2 = .ok (some out) := by
    unfold reconcileEmissions at he
    split at he
    · rename_i out' hok
      exact ⟨out', reconcileAlarmEventTask_ok.mp hok⟩
    · cases he
  obtain ⟨out', hok⟩ := hanswer
  rcases hissued.message _ hmem with ht | ⟨-, hemit, id, event, hlocal, hfound, hpending, hal,
    hnone, hrec, hdk, hpay⟩
  · rw [hn] at ht
    cases ht
  · have hnotice : RecoveryNotice e id := ⟨hn, hal⟩
    refine ⟨hemit, id, event, hnotice, hlocal, hfound, hpending,
        reconcileAttempt_checked hok hlocal hfound,
      fun at_ hat => ?_⟩
    have hstart : out.context.recoveryStart = at_ := by
      unfold NotificationContext.recoveryStart
      rw [hnone, hrec, hat]
      rfl
    rw [hstart] at hdk hpay
    refine ⟨hdk, hpay, message_recovery hnotice ?_⟩
    rw [hctx]
    exact hstart

theorem externalEffectKey_ok {digest : UpdateMaterial → String} {actionType : AlarmActionType}
    {sampleTime recoveredAt : Option DateTime} {sample : MonitorSample} {result : ResultDict}
    (hid : strip eventId ≠ "") (hat : (recoveredAt <|> sampleTime) ≠ none) :
    ∃ key, externalEffectKey digest actionType eventId sampleTime recoveredAt sample result =
      .ok key := by
  unfold externalEffectKey
  simp only [if_neg hid]
  obtain ⟨t, ht⟩ := Option.ne_none_iff_exists'.mp hat
  rw [ht]
  cases actionType <;> exact ⟨_, rfl⟩

theorem enrichReconciliations_ok (digest : UpdateMaterial → String) (c : NotificationContext)
    (facts : MonitorSample × ResultDict) (taskId : String) (hid : strip eventId ≠ "") :
    ∀ {as : List ApplicationAction}, (∀ a ∈ as, a.alarmId = some eventId) →
      ∃ as', enrichReconciliations digest c facts taskId (some eventId) as = .ok as'
  | [], _ => ⟨[], rfl⟩
  | a :: as, has => by
    obtain ⟨as', hrest⟩ := enrichReconciliations_ok digest c facts taskId hid fun b hb =>
      has b (List.mem_cons_of_mem _ hb)
    have hone : ∃ a', enrichReconciliation digest c facts taskId (some eventId) a = .ok a' := by
      have hsome : (some eventId <|> some eventId : Option String) = some eventId := rfl
      have hat : ((c.recoveredAt <|> some c.createdAt) <|> some c.sampleTime) ≠ none := by
        cases c.recoveredAt <;> simp
      obtain ⟨key, hkey⟩ : ∃ key, externalEffectKey digest a.actionType eventId (some c.sampleTime)
          (c.recoveredAt <|> some c.createdAt) facts.1 facts.2 = .ok key :=
            externalEffectKey_ok hid hat
      unfold enrichReconciliation
      simp only [has a List.mem_cons_self, hsome, hkey]
      split_ifs
      · exact ⟨_, rfl⟩
      · exact ⟨_, rfl⟩
      · exact ⟨_, rfl⟩
      · exact ⟨_, rfl⟩
    obtain ⟨a', ha'⟩ := hone
    exact ⟨a' :: as', by simp only [enrichReconciliations, ha', hrest]⟩

/-- Event actions are mapped without fail, a recovery with its notification. -/
theorem mapActions_events (tr : StateTransition) (hemit : cfg.emitNotifications = true) :
    ∀ {as : List AlarmAction},
      (∀ b ∈ as, isEventAction b.actionType = true ∧ b.alarmId = some eventId) →
      ∃ mapped, mapActions cfg.emitNotifications tr as = .ok mapped ∧
        (∀ a ∈ mapped, a.alarmId = some eventId) ∧
        ∀ b ∈ as, b.actionType = .markAlarmRecovered →
          ∃ a ∈ mapped, a.kind = .notification ∧ a.actionType = .notifyRecovery
  | [], _ => ⟨[], rfl, (fun a ha => by cases ha), fun b hb => by cases hb⟩
  | b :: as, has => by
    obtain ⟨mapped, hrest, halarm, hmark⟩ :=
      mapActions_events tr hemit fun c hc => has c (List.mem_cons_of_mem _ hc)
    obtain ⟨hevent, hid⟩ := has b List.mem_cons_self
    obtain ⟨xs, hxs, hxalarm, hxmark⟩ : ∃ xs, mapAction cfg.emitNotifications tr b = .ok xs ∧
        (∀ a ∈ xs, a.alarmId = some eventId) ∧ (b.actionType = .markAlarmRecovered →
          ∃ a ∈ xs, a.kind = .notification ∧ a.actionType = .notifyRecovery) := by
      unfold mapAction
      cases ht : b.actionType <;> rw [ht] at hevent <;> try cases hevent
      all_goals simp only [notificationType, hemit, if_true]
      · exact ⟨_, rfl, by simp [mapPlain, hid], by simp⟩
      · exact ⟨_, rfl, by simp [mapPlain, hid], by simp⟩
      · exact ⟨_, rfl, by simp [mapPlain, hid], fun _ =>
          ⟨mapPlain tr.reason { b with actionType := .notifyRecovery }, by simp, rfl, rfl⟩⟩
    refine ⟨xs ++ mapped, by simp only [mapActions, hxs, hrest], fun a ha => ?_, fun c hc hct => ?_⟩
    · rcases List.mem_append.mp ha with ha | ha
      · exact hxalarm a ha
      · exact halarm a ha
    · rcases List.mem_cons.mp hc with rfl | hc
      · obtain ⟨a, ha, h⟩ := hxmark hct
        exact ⟨a, List.mem_append_left _ ha, h⟩
      · obtain ⟨a, ha, h⟩ := hmark c hc hct
        exact ⟨a, List.mem_append_right _ ha, h⟩

/-- A recovery that is pending is owed. -/
theorem owedActions_recovery {device : String} {e : EnvironmentEvent}
    (hpending : e.recoveryPending = true) :
    (∀ b ∈ owedActions device (some eventId) (some e), isEventAction b.actionType = true ∧
      b.alarmId = some eventId) ∧
      ∃ b ∈ owedActions device (some eventId) (some e), b.actionType = .markAlarmRecovered := by
  refine ⟨fun b hb => ?_, ?_⟩
  · obtain ⟨-, hid, ht | ht | ⟨ht, -⟩⟩ := mem_owedActions hb <;> exact ⟨by rw [ht]; rfl, hid⟩
  · unfold owedActions
    simp only [hpending, if_true]
    split_ifs
    · exact ⟨_, List.mem_cons_self, rfl⟩
    · exact ⟨_, List.mem_cons_of_mem _ List.mem_cons_self, rfl⟩

/-- What is issued for it has the notification. -/
theorem issueReconciliation_notice (hemit : cfg.emitNotifications = true) (hid : strip eventId ≠ "")
    {device : String}
    {e : EnvironmentEvent} (hpending : e.recoveryPending = true) (start : Option DateTime)
    (state : AlarmState) (store : TaskStore) : ∃ store' out,
      issueReconciliation cfg r device (some eventId) (some e) start state store =
        .ok (store', out) ∧
        ∃ a ∈ out.notifications, a.actionType = .notifyRecovery ∧ a.alarmId = some eventId := by
  obtain ⟨hall, b, hb, hbt⟩ := @owedActions_recovery eventId device e hpending
  obtain ⟨mapped, hmapped, halarm, hmark⟩ := mapActions_events
    { previous := state, next := state, actions := [], reason := "alarm_event_reconciliation" }
      hemit hall
  obtain ⟨enriched, henriched⟩ := enrichReconciliations_ok cfg.digest
    (reconcileContext r device (some eventId) (some e) start) (reconcileSample r device (some e))
      r.task.taskId hid
    halarm
  obtain ⟨a, ha, hk, ht⟩ := hmark b hb hbt
  obtain ⟨a', ha', he⟩ := forall₂_mem_left (enrichReconciliations_forall₂ henriched) ha
  have hid' : a'.alarmId = some eventId := by
    rcases enrichReconciliation_message hk (halarm a ha) he with ⟨-, hnone⟩ | ⟨id, hsome, hal, -⟩
    · cases hnone
    · exact hal.trans hsome.symm
  obtain ⟨htype, hkind⟩ := enrichReconciliation_type he
  unfold issueReconciliation
  simp only [hmapped, henriched]
  refine ⟨_, _, rfl, ?_⟩
  obtain ⟨c, hc, hac⟩ := forall₂_mem_left
      (attachNotification_passed enriched (prepareNotificationTasks cfg r.toGates
    (reconcileContext r device (some eventId) (some e) start) (enriched.filter fun a =>
      a.kind = .notification)
    store).2 (some eventId)) ha'
  refine ⟨c, List.mem_filter.mpr ⟨hc, by simp [hac.kind, hkind, hk]⟩,
    hac.actionType.trans (htype.trans ht), ?_⟩
  rcases hac.alarmId with hx | hx
  · exact hx.trans hid'
  · rw [hx] at hid'
    cases hid'

theorem TaskPayload.strip_localEvent {p : TaskPayload} (h : p.localEvent = some eventId) :
    strip eventId ≠ "" := by
  unfold TaskPayload.localEvent at h
  split at h
  · cases h
  · split_ifs at h with hb
    obtain rfl := Option.some.inj h
    rw [strip_strip]
    simpa [blank] using hb

/-- **An attempt that finds a recovery pending emits its notice.** -/
theorem attempt_emits {w : World} (hemit : cfg.emitNotifications = true)
    (hf : findsRecovery cfg eventId w (.reconcile r (reconcileAlarmEventTask cfg r w.service).2) =
      true) :
    ∃ e ∈ reconcileEmissions (reconcileAlarmEventTask cfg r w.service).2,
      RecoveryNotice e eventId := by
  obtain ⟨hlocal, e, he, hpending, device, start, hdevice, hcheck⟩ := findsRecovery_iff.mp hf
  have hprojected : e.payload.projected = false := by
    have hp : e.payload.feishuRecoveryPending = some true := by
      simpa [EnvironmentEvent.recoveryPending] using hpending
    simp [EventPayload.projected, hp]
  obtain ⟨store', out, hissue, a, ha, ht, hal⟩ := @issueReconciliation_notice cfg r eventId hemit
    (TaskPayload.strip_localEvent hlocal) device e hpending (some start)
    ((w.service.alarms device).getD (AlarmState.ofDevice device)) ⟨w.service.tasks, w.service.drawn⟩
  have hok : (reconcileAttempt cfg r w.service).2 = .ok (some out) := by
    unfold reconcileAttempt
    simp only [hdevice, hlocal, Option.bind_some, he, hcheck, hprojected, Bool.false_eq_true,
      if_false, hissue]
  rw [reconcileAlarmEventTask_ok.mpr hok]
  exact ⟨⟨a, out.context⟩, List.mem_map.mpr ⟨a, ha, rfl⟩, ht, hal⟩

end Attempt

end TemperatureMonitor
