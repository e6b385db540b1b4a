/-
# What one sample does to the local stores

The inversion of the projection: `LocalMove` lists what the local unit of a
sample makes of the tables and of the lifecycle state, one constructor for
each kind of transition, and `projectLocalActions_move` says the projection is
always one of them. An invariant of the stores is a case analysis of it.
-/
import TemperatureMonitor.Service.Sample

namespace TemperatureMonitor

/-! ### Lists of actions -/

theorem mapActions_append (emit : Bool) (tr : StateTransition) :
    ∀ (as bs : List AlarmAction) (mapped : List ApplicationAction),
      mapActions emit tr (as ++ bs) = .ok mapped →
      ∃ xs ys, mapActions emit tr as = .ok xs ∧ mapActions emit tr bs = .ok ys ∧ mapped = xs ++ ys
  | [], bs, mapped, h => ⟨[], mapped, rfl, h, rfl⟩
  | a :: as, bs, mapped, h => by
    simp only [List.cons_append, mapActions] at h ⊢
    split at h
    · cases h
    · rename_i x hx
      split at h
      · cases h
      · rename_i rest hrest
        cases h
        obtain ⟨xs, ys, hxs, hys, rfl⟩ := mapActions_append emit tr as bs rest hrest
        exact ⟨x ++ xs, ys, by rw [hxs], hys, (List.append_assoc _ _ _).symm⟩

section Project

variable (cfg : ServiceConfig) (i : SampleInput) (tr : StateTransition)

theorem projectActions_append : ∀ (as bs : List ApplicationAction) (l l' : Local),
    projectActions cfg i tr (as ++ bs) l = .ok l' →
    ∃ m, projectActions cfg i tr as l = .ok m ∧ projectActions cfg i tr bs m = .ok l'
  | [], _, l, _, h => ⟨l, rfl, h⟩
  | a :: as, bs, l, l', h => by
    simp only [List.cons_append, projectActions] at h ⊢
    split at h
    · cases h
    · rename_i m hm
      exact projectActions_append as bs m l' h

/-- A message of the advisory, as the mapper passes it on. -/
def adviceAction (message : AlarmActionType) : ApplicationAction :=
  mapPlain tr.reason { actionType := message, deviceId := tr.next.deviceId }

/-- The message the mapper adds to an event action. -/
def messageAction (message : AlarmActionType) (alarmId : Option String) : List ApplicationAction :=
  if cfg.emitNotifications then
    [mapPlain tr.reason { actionType := message, deviceId := tr.previous.deviceId, alarmId }]
  else []

/-- The event action of a transition, as the mapper passes it on. -/
def eventAction (actionType : AlarmActionType) (alarmId : Option String) : ApplicationAction :=
  mapPlain tr.reason { actionType, deviceId := tr.previous.deviceId, alarmId }

def verifyAction : ApplicationAction :=
  { actionType := .createVerifyTask, kind := .scheduleTask, deviceId := tr.previous.deviceId,
    runAt := some (i.now.add cfg.machine.verifyAfter), taskType := some "VERIFY_ALARM",
    entityType := some "DEVICE", entityId := some tr.previous.deviceId,
    dedupeKey := some (verifyAlarmKey tr.previous.deviceId i.now),
    payload := { reason := some tr.reason } }

/-- The action that ends the pending task. -/
def finishAction (actionType : AlarmActionType) (kind : ApplicationActionKind) :
    List ApplicationAction :=
  match tr.previous.pendingTaskId with
  | none => []
  | some taskId =>
    [{ actionType, kind, deviceId := tr.previous.deviceId, taskType := some "VERIFY_ALARM",
       entityType := some "DEVICE", entityId := some tr.previous.deviceId, taskId := some taskId }]

/-! ### The moves -/

/-- What the projection makes of `l`, and the formal actions it is given. -/
inductive LocalMove (l : Local) : List ApplicationAction → Local → Prop
  | quiet : SameFormal tr.previous tr.next → LocalMove l [] l
  | started : tr.previous.state = .normal →
      SameFormal { deviceId := tr.previous.deviceId, state := .pending,
                   violationStartedAt := some i.now } tr.next →
      LocalMove l [verifyAction cfg i tr] (projectSchedule cfg i (verifyAction cfg i tr) l)
  | dropped : tr.previous.state = .pending →
      SameFormal (AlarmState.ofDevice tr.previous.deviceId) tr.next →
      LocalMove l (finishAction tr .cancelVerifyTask .cancelTask) (projectFinish i tr l)
  | verified {l' : Local} : tr.previous.state = .pending →
      SameFormal { deviceId := tr.previous.deviceId, state := .alarm,
                   violationStartedAt := some (tr.previous.violationStartedAt.getD i.now),
                   alarmStartedAt := some i.now } tr.next →
      projectCreate cfg i (projectFinish i tr l) = .ok l' →
      LocalMove l (finishAction tr .completeVerifyTask .completeTask ++
        eventAction tr .createAlarmEvent none :: messageAction cfg tr .notifyAlarm none) l'
  | active {l' : Local} : tr.previous.state = .alarm → SameFormal tr.previous tr.next →
      projectUpdate i tr (eventAction tr .updateAlarmEvent tr.previous.activeAlarmId) l = .ok l' →
      LocalMove l [eventAction tr .updateAlarmEvent tr.previous.activeAlarmId] l'
  | returned {l' : Local} : tr.previous.state = .recovery →
      SameFormal { deviceId := tr.previous.deviceId, state := .alarm,
                   violationStartedAt := tr.previous.violationStartedAt,
                   alarmStartedAt := tr.previous.alarmStartedAt,
                   activeAlarmId := tr.previous.activeAlarmId } tr.next →
      projectUpdate i tr (eventAction tr .updateAlarmEvent tr.previous.activeAlarmId)
        (leaveRecovery i tr [] l) = .ok l' →
      LocalMove l [eventAction tr .updateAlarmEvent tr.previous.activeAlarmId] l'
  | recovering : tr.previous.state = .alarm → cfg.machine.recoveryAfter ≠ 0 →
      SameFormal { deviceId := tr.previous.deviceId, state := .recovery,
                   violationStartedAt := tr.previous.violationStartedAt,
                   alarmStartedAt := tr.previous.alarmStartedAt,
                   recoveryStartedAt := some i.now,
                   activeAlarmId := tr.previous.activeAlarmId } tr.next →
      LocalMove l [eventAction tr .startRecovery tr.previous.activeAlarmId]
        (scheduleRecoveryTask cfg i l)
  | recovered {l' : Local} :
      (tr.previous.state = .alarm ∧ cfg.machine.recoveryAfter = 0 ∨ tr.previous.state = .recovery ∧
        cfg.machine.recoveryAfter ≤ i.now.instant -
          (tr.previous.recoveryStartedAt.getD i.now).instant) →
      SameFormal (AlarmState.ofDevice tr.previous.deviceId) tr.next →
      projectRecovered i tr (eventAction tr .markAlarmRecovered tr.previous.activeAlarmId)
        (leaveRecovery i tr [] l) = .ok l' →
      LocalMove l (eventAction tr .markAlarmRecovered tr.previous.activeAlarmId ::
        messageAction cfg tr .notifyRecovery tr.previous.activeAlarmId) l'

end Project

section Inversion

variable {cfg : ServiceConfig} {i : SampleInput} {tr : StateTransition}

theorem projectAction_advice {message : AlarmActionType} (hm : isPrewarningMessage message = true)
    (l : Local) : projectAction cfg i tr (adviceAction tr message) l = .ok l := by
  cases message <;> simp_all [isPrewarningMessage, adviceAction, projectAction, mapPlain]

/-- The advisory's messages do nothing to the stores. -/
theorem projectActions_advice {advice : List AlarmAction} (l : Local)
    (ha : advice = [] ∨ ∃ message, isPrewarningMessage message = true ∧
      advice = [{ actionType := message, deviceId := tr.next.deviceId }]) :
    projectActions cfg i tr (advice.map fun a => adviceAction tr a.actionType) l = .ok l := by
  rcases ha with rfl | ⟨message, hm, rfl⟩
  · rfl
  · simp [projectActions, projectAction_advice hm]

/-- They end no task either, so a recovery is left as without them. -/
theorem leaveRecovery_congr {as bs : List ApplicationAction} (l : Local)
    (h : (as.any fun a => a.actionType = .cancelVerifyTask || a.actionType = .completeVerifyTask) =
      bs.any fun a => a.actionType = .cancelVerifyTask || a.actionType = .completeVerifyTask) :
    leaveRecovery i tr as l = leaveRecovery i tr bs l := by
  unfold leaveRecovery
  rw [h]

theorem leaveRecovery_other {as : List ApplicationAction} (l : Local)
    (h : tr.previous.state ≠ .recovery ∨ tr.next.state = .recovery) :
    leaveRecovery i tr as l = l := by
  unfold leaveRecovery
  split
  · rfl
  · rw [if_neg]
    rintro ⟨⟨h1, h2⟩, -⟩
    rcases h with h | h
    · exact h h1
    · exact h2 h

section Formal

variable {formal : List ApplicationAction} {l m : Local}

theorem quiet_move (hformal : SameFormal tr.previous tr.next)
    (hleave : tr.previous.state ≠ .recovery ∨ tr.next.state = .recovery)
    (hf : mapActions cfg.emitNotifications tr [] = .ok formal)
    (hproj : projectActions cfg i tr formal (leaveRecovery i tr formal l) = .ok m) :
    LocalMove cfg i tr l formal m := by
  cases hf
  rw [leaveRecovery_other _ hleave] at hproj
  cases hproj
  exact .quiet hformal

/-- The pending task is finished by the action for it, or there is none. -/
theorem projectActions_finish {actionType : AlarmActionType} {kind : ApplicationActionKind}
    (ha : actionType = .cancelVerifyTask ∨ actionType = .completeVerifyTask)
    (hnext : tr.next.pendingTaskId = none) (hl : l.next = tr.next) :
    projectActions cfg i tr (finishAction tr actionType kind) l = .ok (projectFinish i tr l) := by
  unfold finishAction
  cases hp : tr.previous.pendingTaskId with
  | none =>
    have hsame : { tr.next with pendingTaskId := none } = tr.next := by rw [← hnext]
    obtain ⟨tasks, events, drawn, next⟩ := l
    obtain rfl : next = tr.next := hl
    simp only [projectActions, projectFinish, hp, hsame]
  | some taskId =>
    rcases ha with rfl | rfl <;> rfl

theorem mapActions_finish {actionType : AlarmActionType} {kind : ApplicationActionKind}
    {as : List AlarmAction}
    (ha : actionType = .cancelVerifyTask ∧ kind = .cancelTask ∧
        as = AlarmStateMachine.cancelTaskAction tr.previous ∨
      actionType = .completeVerifyTask ∧ kind = .completeTask ∧
        as = AlarmStateMachine.completeTaskAction tr.previous)
    (hf : mapActions cfg.emitNotifications tr as = .ok formal) :
    formal = finishAction tr actionType kind := by
  unfold finishAction
  rcases ha with ⟨rfl, rfl, rfl⟩ | ⟨rfl, rfl, rfl⟩ <;>
    simp only [AlarmStateMachine.cancelTaskAction, AlarmStateMachine.completeTaskAction] at hf <;>
    cases hp : tr.previous.pendingTaskId <;>
    simpa [hp, mapActions, mapAction] using hf.symm

/-- An event action is passed on with its message, if it has one. -/
theorem mapActions_event {actionType : AlarmActionType} {alarmId : Option String}
    {messages : List ApplicationAction}
    (ha : actionType = .createAlarmEvent ∧ messages = messageAction cfg tr .notifyAlarm alarmId ∨
      actionType = .markAlarmRecovered ∧ messages = messageAction cfg tr .notifyRecovery alarmId ∨
      (actionType = .updateAlarmEvent ∨ actionType = .startRecovery) ∧ messages = [])
    (hf : mapActions cfg.emitNotifications tr
      [{ actionType, deviceId := tr.previous.deviceId, alarmId }] = .ok formal) :
    formal = eventAction tr actionType alarmId :: messages := by
  unfold messageAction at ha
  rcases ha with ⟨rfl, rfl⟩ | ⟨rfl, rfl⟩ | ⟨rfl | rfl, rfl⟩ <;>
    simp only [mapActions, mapAction, notificationType] at hf
  · split_ifs at hf <;> cases hf <;> simp_all [eventAction, mapPlain]
  · split_ifs at hf <;> cases hf <;> simp_all [eventAction, mapPlain]
  · cases hf
    rfl
  · cases hf
    rfl

/-- Its message does nothing to the stores. -/
theorem projectActions_message {message : AlarmActionType} {alarmId : Option String}
    (hm : message = .notifyAlarm ∨ message = .notifyRecovery) (l : Local) :
    projectActions cfg i tr (messageAction cfg tr message alarmId) l = .ok l := by
  unfold messageAction
  rcases hm with rfl | rfl <;> split_ifs <;> rfl

/-- An event action and its message end no task, so a recovery is left as by none. -/
theorem leaveRecovery_event {actionType : AlarmActionType} {alarmId : Option String}
    {messages : List ApplicationAction}
    (ha : actionType = .markAlarmRecovered ∨ actionType = .updateAlarmEvent)
    (hm : ∀ a ∈ messages, a.actionType = .notifyRecovery) (l : Local) :
    leaveRecovery i tr (eventAction tr actionType alarmId :: messages) l =
      leaveRecovery i tr [] l := by
  refine leaveRecovery_congr l ?_
  have hnone : (messages.any fun a =>
      a.actionType = .cancelVerifyTask || a.actionType = .completeVerifyTask) = false := by
    rw [List.any_eq_false]
    intro a ha
    simp [hm a ha]
  rw [List.any_cons, hnone]
  rcases ha with rfl | rfl <;> rfl

theorem mem_messageAction {message : AlarmActionType} {alarmId : Option String}
    {a : ApplicationAction} (h : a ∈ messageAction cfg tr message alarmId) :
    cfg.emitNotifications = true ∧
      a = mapPlain tr.reason
        { actionType := message, deviceId := tr.previous.deviceId, alarmId } := by
  unfold messageAction at h
  split_ifs at h with he
  · exact ⟨he, List.mem_singleton.mp h⟩
  · cases h

end Formal

open AlarmStateMachine in
/-- **The projection is one of the moves**, whatever message the advisory adds. -/
theorem projectLocalActions_move {status : OverallStatus} {base : StateTransition}
    {s : ServiceState} {mapped : List ApplicationAction} {l : Local} {advice : List AlarmAction}
    (hmove : Move cfg.machine status tr.previous i.now base)
    (hformal : SameFormal base.next tr.next)
    (hreason : tr.reason = base.reason) (hactions : tr.actions = base.actions ++ advice)
    (hadvice : advice = [] ∨ ∃ message, isPrewarningMessage message = true ∧
      advice = [{ actionType := message, deviceId := tr.next.deviceId }])
    (hmap : mapActions cfg.emitNotifications tr tr.actions = .ok mapped)
    (hl : projectLocalActions cfg i tr mapped s = .ok l) :
    ∃ formal, mapped = formal ++ advice.map (fun a => adviceAction tr a.actionType) ∧
      LocalMove cfg i tr ⟨s.tasks, s.events, s.drawn, tr.next⟩ formal l := by
  rw [hactions] at hmap
  obtain ⟨formal, messages, hf, hm, rfl⟩ := mapActions_append _ _ _ _ _ hmap
  have hmsg : messages = advice.map (fun a => adviceAction tr a.actionType) := by
    rcases hadvice with rfl | ⟨message, hpre, rfl⟩
    · cases hm
      rfl
    · cases message <;> simp_all [isPrewarningMessage, mapActions, mapAction, notificationType,
        adviceAction]
  subst hmsg
  refine ⟨formal, rfl, ?_⟩
  have hleave : leaveRecovery i tr (formal ++ advice.map fun a => adviceAction tr a.actionType)
      ⟨s.tasks, s.events, s.drawn, tr.next⟩ =
      leaveRecovery i tr formal ⟨s.tasks, s.events, s.drawn, tr.next⟩ := by
    refine leaveRecovery_congr _ ?_
    rcases hadvice with rfl | ⟨message, hpre, rfl⟩
    · simp
    · cases message <;> simp_all [isPrewarningMessage, adviceAction, mapPlain]
  unfold projectLocalActions at hl
  rw [hleave] at hl
  obtain ⟨m, hproj, hrest⟩ := projectActions_append cfg i tr _ _ _ _ hl
  rw [projectActions_advice _ hadvice] at hrest
  cases hrest
  cases hmove with
  | normalSample hs =>
    exact quiet_move hformal (.inl (by simp [hs])) hf hproj
  | pendingUnknown hs =>
    exact quiet_move hformal (.inl (by simp [hs])) hf hproj
  | windowOpen hs =>
    exact quiet_move hformal (.inl (by simp [hs])) hf hproj
  | alarmUnknown hs =>
    exact quiet_move hformal (.inl (by simp [hs])) hf hproj
  | recoveryUnknown hs =>
    exact quiet_move hformal (.inr (hformal.state.trans hs)) hf hproj
  | recoveryOpen hs =>
    exact quiet_move hformal (.inr (hformal.state.trans hs)) hf hproj
  | violationStarted hs =>
    have hstart : tr.next.violationStartedAt = some i.now := hformal.violationStartedAt
    have : formal = [verifyAction cfg i tr] := by
      simpa [mapActions, mapAction, hstart, verifyAction] using hf.symm
    subst this
    rw [leaveRecovery_other _ (.inl (by simp [hs]))] at hproj
    cases hproj
    exact .started hs hformal
  | pendingCleared hs =>
    obtain rfl := mapActions_finish (.inl ⟨rfl, rfl, rfl⟩) hf
    rw [leaveRecovery_other _ (.inl (by simp [hs])),
      projectActions_finish (.inl rfl) hformal.pendingTaskId rfl] at hproj
    cases hproj
    exact .dropped hs hformal
  | verified hs =>
    obtain ⟨xs, ys, hx, hy, rfl⟩ := mapActions_append _ _ _ _ _ hf
    obtain rfl := mapActions_finish (.inr ⟨rfl, rfl, rfl⟩) hx
    obtain rfl := mapActions_event (.inl ⟨rfl, rfl⟩) hy
    rw [leaveRecovery_other _ (.inl (by simp [hs]))] at hproj
    obtain ⟨k, hk, hproj⟩ := projectActions_append cfg i tr _ _ _ _ hproj
    rw [projectActions_finish (.inr rfl) hformal.pendingTaskId rfl] at hk
    cases hk
    simp only [projectActions] at hproj
    split at hproj
    · cases hproj
    · rename_i created hcreate
      rw [projectActions_message (.inl rfl)] at hproj
      cases hproj
      exact .verified hs hformal hcreate
  | stillActive hs =>
    obtain rfl := mapActions_event (.inr (.inr ⟨.inl rfl, rfl⟩)) hf
    rw [leaveRecovery_other _ (.inl (by simp [hs]))] at hproj
    simp only [projectActions] at hproj
    split at hproj
    · cases hproj
    · rename_i updated hupdate
      cases hproj
      exact .active hs hformal hupdate
  | recoveredAtOnce hs hst h0 =>
    obtain rfl := mapActions_event (.inr (.inl ⟨rfl, rfl⟩)) hf
    rw [leaveRecovery_event (.inl rfl) fun a ha => by rw [(mem_messageAction ha).2]; rfl] at hproj
    simp only [projectActions] at hproj
    split at hproj
    · cases hproj
    · rename_i marked hmark
      rw [projectActions_message (.inr rfl)] at hproj
      cases hproj
      exact .recovered (.inl ⟨hs, h0⟩) hformal hmark
  | recoveryStarted hs hst h0 =>
    obtain rfl := mapActions_event (.inr (.inr ⟨.inr rfl, rfl⟩)) hf
    rw [leaveRecovery_other _ (.inl (by simp [hs]))] at hproj
    cases hproj
    exact .recovering hs h0 hformal
  | violationReturned hs =>
    obtain rfl := mapActions_event (.inr (.inr ⟨.inl rfl, rfl⟩)) hf
    rw [leaveRecovery_event (.inr rfl) (by simp)] at hproj
    simp only [projectActions] at hproj
    split at hproj
    · cases hproj
    · rename_i updated hupdate
      cases hproj
      exact .returned hs hformal hupdate
  | recovered hs hst hw =>
    obtain rfl := mapActions_event (.inr (.inl ⟨rfl, rfl⟩)) hf
    rw [leaveRecovery_event (.inl rfl) fun a ha => by rw [(mem_messageAction ha).2]; rfl] at hproj
    simp only [projectActions] at hproj
    split at hproj
    · cases hproj
    · rename_i marked hmark
      rw [projectActions_message (.inr rfl)] at hproj
      cases hproj
      exact .recovered (.inr ⟨hs, hw⟩) hformal hmark

end Inversion

/-! ### The whole unit -/

/-- The values a handled sample goes through, and how each comes from the one
before. -/
structure SampleTrace (cfg : ServiceConfig) (i : SampleInput) (s s' : ServiceState)
    (out : SampleOutput) where
  base : StateTransition
  tr : StateTransition
  advice : List AlarmAction
  formal : List ApplicationAction
  l : Local
  enriched : List ApplicationAction
  armed : TaskStore
  move : AlarmStateMachine.Move cfg.machine i.result.overallStatus (s.alarm i.deviceId) i.now base
  prewarning : PrewarningMove i.result i.now (cfg.uuid s.drawn) i.unclosed base tr
  actions_eq : tr.actions = base.actions ++ advice
  advice_eq : advice = [] ∨ tr.next.state = .normal ∧
      ∃ message, isPrewarningMessage message = true ∧
    advice = [{ actionType := message, deviceId := tr.next.deviceId }]
  localMove : LocalMove cfg i tr ⟨s.tasks, s.events, s.drawn + 1, tr.next⟩ formal l
  enriched_eq : enrichActions cfg.digest { tr with next := l.next }
    ⟨i.sample, i.result, i.now, i.schedulerTaskId⟩
    (formal ++ advice.map fun a => adviceAction tr a.actionType) = .ok enriched
  armed_eq :
      prepareEventReconciliationTasks cfg { tr with next := l.next } i enriched ⟨l.tasks, l.drawn⟩ =
    .ok (armed, out.eventTaskIds)
  notified_eq :
      prepareNotificationTasks cfg i.toGates (i.notificationContext { tr with next := l.next })
    ((attachReconciliationTaskMetadata enriched out.eventTaskIds
      ({ tr with next := l.next } : StateTransition).eventId).filter fun a =>
        a.kind = .notification) armed =
    (⟨s'.tasks, s'.drawn⟩, out.notificationTaskIds)
  actions_out : out.actions = attachNotificationTaskMetadata
    (attachReconciliationTaskMetadata enriched out.eventTaskIds
      ({ tr with next := l.next } : StateTransition).eventId)
    out.notificationTaskIds ({ tr with next := l.next } : StateTransition).eventId
  transition_out : out.transition = { tr with
    next := attachPrewarningTaskMetadata out.actions out.notificationTaskIds l.next }
  alarms_eq : s'.alarms = Function.update s.alarms i.deviceId (some out.transition.next)
  events_eq : s'.events = l.events

theorem handleSample_trace {cfg : ServiceConfig} {i : SampleInput} {s s' : ServiceState}
    {out : SampleOutput}
    (h : handleSample cfg i s = .ok (s', some out)) : Nonempty (SampleTrace cfg i s s' out) := by
  unfold handleSample at h
  split_ifs at h with hold
  · cases h
  split at h
  · cases h
  · rename_i tr htr
    unfold sampleTransition at htr
    split at htr
    · cases htr
    · rename_i base hbase
      cases htr
      split at h
      · cases h
      · rename_i s1 out1 hunit
        cases h
        have hmove :
            AlarmStateMachine.Move cfg.machine i.result.overallStatus (s.alarm i.deviceId) i.now
            base := AlarmStateMachine.apply_move hbase
        have hpre := applyPrewarning_move i.result i.now (cfg.uuid s.drawn) i.unclosed base
        obtain ⟨advice, hactions, hadvice⟩ : ∃ advice,
            (applyPrewarningTransition i.result i.now (cfg.uuid s.drawn) i.unclosed base).actions =
              base.actions ++ advice ∧ (advice = [] ∨ base.next.state = .normal ∧ ∃ message,
                isPrewarningMessage message = true ∧
                  advice = [{ actionType := message, deviceId := base.next.deviceId }]) := by
          rcases hpre.actions with he | ⟨hs, message, hm, he⟩
          · exact ⟨[], by rw [he, List.append_nil], .inl rfl⟩
          · exact ⟨_, he, .inr ⟨hs, message, hm, rfl⟩⟩
        generalize applyPrewarningTransition i.result i.now (cfg.uuid s.drawn)
          i.unclosed base = tr at *
        rw [← hpre.formal.state, ← hpre.formal.deviceId] at hadvice
        unfold sampleUnit at hunit
        split at hunit
        · cases hunit
        · rename_i mapped hmapped
          split at hunit
          · cases hunit
          · rename_i l hl
            simp only at hunit
            split at hunit
            · cases hunit
            · rename_i enriched henriched
              split at hunit
              · cases hunit
              · rename_i armed ids harmed
                have hprev : tr.previous = s.alarm i.deviceId := hpre.previous.trans hmove.previous
                obtain ⟨formal, rfl, hlocal⟩ := projectLocalActions_move
                    (hprev.symm ▸ hmove) hpre.formal
                  hpre.reason hactions (hadvice.imp id fun ⟨_, h⟩ => h) hmapped hl
                cases hunit
                exact ⟨base, tr, advice, formal, l, enriched, armed, hmove, hpre, hactions,
                    hadvice, hlocal,
                  henriched, harmed, rfl, rfl, rfl, rfl, rfl⟩

end TemperatureMonitor
