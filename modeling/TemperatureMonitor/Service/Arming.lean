/-
# The durable tasks of a sample and of an attempt

Which rows a sample and a reconciliation attempt insert. Every task of a
notification is the task of an emission (`NotificationRow`): it carries its
key and its payload. A sample arms a reconciliation at most once, since a
transition has one event action at most.
-/
import TemperatureMonitor.Service.SampleRun

namespace TemperatureMonitor

theorem AlarmActionType.value_plain (t : AlarmActionType) : ':' ∉ t.value.toList := by
  cases t <;> decide

theorem AlarmActionType.value_ne_reconcile (t : AlarmActionType) : t.value ≠ reconcileType := by
  cases t <;> decide

theorem AlarmActionType.value_injective {s t : AlarmActionType}
    (h : s.value = t.value) : s = t := by
  revert h
  cases s <;> cases t <;> decide

/-! ### Notifications -/

/-- The task of a notification action in a context. -/
structure NotificationRow (c : NotificationContext) (a : ApplicationAction)
    (t : AutomationTask) : Prop where
  taskType : t.taskType = a.actionType.value
  dedupeKey : t.dedupeKey = a.dedupeKey
  entityId : t.entityId = if isPrewarningMessage a.actionType then c.deviceId else a.alarmId.getD ""
  payload : ∃ n, t.payload = { notificationPayload c a a.alarmId with retryAttempt := n }
  event : isPrewarningMessage a.actionType = false → truthy a.alarmId = true

theorem NotificationRow.same {c : NotificationContext} {a : ApplicationAction}
    {t t' : AutomationTask}
    (h : NotificationRow c a t) (hs : SameTask t t') : NotificationRow c a t' := by
  have hne : t.taskType ≠ reconcileType := h.taskType ▸ a.actionType.value_ne_reconcile
  refine ⟨hs.taskType.trans h.taskType, (hs.dedupeKey hne).trans h.dedupeKey,
      hs.entityId.trans h.entityId,
    ?_, h.event⟩
  obtain ⟨n, hn⟩ := h.payload
  obtain ⟨m, hm⟩ := hs.payload
  exact ⟨m, by rw [hm, hn]⟩

/-- Preparing notifications is a run that inserts their tasks. -/
theorem prepareNotificationTasks_run {cfg : ServiceConfig}
    (hinj : Function.Injective cfg.uuid) (g : Gates)
    (c : NotificationContext) : ∀ (as : List ApplicationAction) (store : TaskStore),
      store.Sound cfg.uuid →
      (∀ a ∈ as, ∀ k, a.dedupeKey = some k → ∃ rest, k = a.actionType.value ++ ":" ++ rest) →
      TasksRun cfg.uuid (fun t => ∃ a ∈ as, NotificationRow c a t) store
        (prepareNotificationTasks cfg g c as store).1
  | [], _, _, _ => .refl
  | a :: as, store, hs, hkeys => by
    have hkeys' : ∀ b ∈ as, ∀ k, b.dedupeKey = some k →
        ∃ rest, k = b.actionType.value ++ ":" ++ rest :=
      fun b hb => hkeys b (List.mem_cons_of_mem _ hb)
    have hrest : ∀ s : TaskStore, s.Sound cfg.uuid →
        TasksRun cfg.uuid (fun t => ∃ b ∈ a :: as, NotificationRow c b t) s
          (prepareNotificationTasks cfg g c as s).1 := fun s hsound =>
      (prepareNotificationTasks_run hinj g c as s hsound hkeys').mono
        fun t ⟨b, hb, hr⟩ => ⟨b, List.mem_cons_of_mem _ hb, hr⟩
    unfold prepareNotificationTasks
    split
    · exact hrest store hs
    · rename_i key hkey
      split_ifs with hskip
      · exact hrest store hs
      · obtain ⟨rest, hform⟩ := hkeys a List.mem_cons_self key hkey
        have hrow : NotificationRow c a
            ((notificationSpec c a key).row g.activation (cfg.uuid store.drawn)) := by
          refine ⟨rfl, hkey.symm, rfl, ⟨_, rfl⟩, fun hpre => ?_⟩
          by_contra hne
          exact hskip (.inr (.inl ⟨hpre, by simpa using hne⟩))
        have hone := (createOrGet_run (P := fun t => ∃ b ∈ a :: as, NotificationRow c b t)
          hs hinj g.activation (notificationSpec c a key) rfl
          (keyed_row _ _ rest a.actionType.value_plain (congrArg some hform))
            ⟨a, List.mem_cons_self, hrow⟩).1
        exact hone.trans (hrest _ (hone.sound hinj hs))

/-! ### The messages of a sample -/

section Messages

variable {cfg : ServiceConfig} {i : SampleInput} {tr : StateTransition} {l l' : Local}
  {formal : List ApplicationAction} {a a' : ApplicationAction}

theorem finishAction_kind {actionType : AlarmActionType} {kind : ApplicationActionKind}
    (h : a ∈ finishAction tr actionType kind) : a.kind = kind ∧ a.actionType = actionType := by
  unfold finishAction at h
  split at h
  · cases h
  · obtain rfl := List.mem_singleton.mp h
    exact ⟨rfl, rfl⟩

/-- The messages among the formal actions: of an alarm that begins, and of one
that ends. -/
theorem LocalMove.message (h : LocalMove cfg i tr l formal l') (ha : a ∈ formal)
    (hk : a.kind = .notification) : cfg.emitNotifications = true ∧
    (tr.previous.state = .pending ∧
        a = mapPlain tr.reason { actionType := .notifyAlarm, deviceId := tr.previous.deviceId } ∨
      (tr.previous.state = .alarm ∧ cfg.machine.recoveryAfter = 0 ∨ tr.previous.state = .recovery) ∧
        SameFormal (AlarmState.ofDevice tr.previous.deviceId) tr.next ∧
        a = mapPlain tr.reason { actionType := .notifyRecovery, deviceId := tr.previous.deviceId,
                                 alarmId := tr.previous.activeAlarmId }) := by
  cases h with
  | quiet => cases ha
  | started =>
    obtain rfl := List.mem_singleton.mp ha
    cases hk
  | dropped =>
    rw [(finishAction_kind ha).1] at hk
    cases hk
  | verified hs =>
    rcases List.mem_append.mp ha with ha | ha
    · rw [(finishAction_kind ha).1] at hk
      cases hk
    · rcases List.mem_cons.mp ha with rfl | ha
      · cases hk
      · obtain ⟨he, rfl⟩ := mem_messageAction ha
        exact ⟨he, .inl ⟨hs, rfl⟩⟩
  | active =>
    obtain rfl := List.mem_singleton.mp ha
    cases hk
  | returned =>
    obtain rfl := List.mem_singleton.mp ha
    cases hk
  | recovering =>
    obtain rfl := List.mem_singleton.mp ha
    cases hk
  | recovered hs hformal =>
    rcases List.mem_cons.mp ha with rfl | ha
    · cases hk
    · obtain ⟨he, rfl⟩ := mem_messageAction ha
      exact ⟨he, .inr ⟨hs.imp id fun h => h.1, hformal, rfl⟩⟩

/-- The mapped action a message was made of. -/
structure PlainMessage (a : ApplicationAction) : Prop where
  dedupeKey : a.dedupeKey = none
  type : a.actionType = .notifyAlarm ∨ a.actionType = .notifyRecovery ∨
    isPrewarningMessage a.actionType = true

theorem PlainMessage.not_event (h : PlainMessage a) :
    isEventAction a.actionType = false ∧ a.actionType ≠ .startRecovery := by
  obtain ⟨-, ht⟩ := h
  revert ht
  cases a.actionType <;> simp [isPrewarningMessage, isEventAction]

theorem enrichPrewarning_key {f : SampleFacts} (hp : PlainMessage a) {k : String}
    (hk : (enrichPrewarning tr f a).dedupeKey = some k) :
    ∃ rest, k = a.actionType.value ++ ":" ++ rest := by
  unfold enrichPrewarning at hk
  split at hk
  · rw [hp.dedupeKey] at hk
    cases hk
  · rename_i episode _
    cases hk
    refine ⟨f.sample.deviceId ++ ":" ++ warningText f.result (prewarningReasons tr) ++ ":" ++
      episode, ?_⟩
    unfold prewarningKey
    simp only [String.append_assoc]

/-- A message's key begins with its type. -/
theorem enriched_key {digest : UpdateMaterial → String} {f : SampleFacts} (hp : PlainMessage a)
    (h : enrichAction digest tr f a = .ok a') {k : String} (hk : a'.dedupeKey = some k) :
    ∃ rest, k = a'.actionType.value ++ ":" ++ rest := by
  rw [(enrichAction_type h).1]
  rw [(enrichAction_notification hp.not_event h).1] at hk
  unfold enrichNotification at hk
  split at hk
  · rename_i id htype _
    cases hk
    exact ⟨id, by rw [htype]; exact literal_key "NOTIFY_ALARM:" (by decide) rfl⟩
  · rename_i id htype _
    cases hk
    refine ⟨id ++ ":" ++ (recoveryStartedAt tr f.createdAt).isoformat, ?_⟩
    rw [htype]
    refine literal_key "NOTIFY_RECOVERY:" (by decide) ?_
    unfold notifyRecoveryKey
    simp only [String.append_assoc]
  · exact enrichPrewarning_key hp hk
  · exact enrichPrewarning_key hp hk
  · rw [hp.dedupeKey] at hk
    cases hk

end Messages

/-! ### From the mapped actions to the emissions -/

/-- What attaching task ids keeps of an action. -/
structure Passed (a b : ApplicationAction) : Prop where
  actionType : b.actionType = a.actionType
  kind : b.kind = a.kind
  payload : b.payload = a.payload
  dedupeKey : isEventAction a.actionType = false → b.dedupeKey = a.dedupeKey
  alarmId : b.alarmId = a.alarmId ∨ a.alarmId = none

theorem Passed.refl (a : ApplicationAction) : Passed a a := ⟨rfl, rfl, rfl, fun _ => rfl, .inl rfl⟩

theorem Passed.trans {a b c : ApplicationAction} (h : Passed a b) (h' : Passed b c) :
    Passed a c where
  actionType := h'.actionType.trans h.actionType
  kind := h'.kind.trans h.kind
  payload := h'.payload.trans h.payload
  dedupeKey := fun he => (h'.dedupeKey (h.actionType ▸ he)).trans (h.dedupeKey he)
  alarmId := by
    rcases h.alarmId with h1 | h1
    · rw [← h1]
      exact h'.alarmId
    · exact .inr h1

theorem alarmId_orElse (a b : Option String) : (a <|> b) = a ∨ a = none := by
  cases a with
  | none => exact .inr rfl
  | some _ => exact .inl rfl

theorem attachReconciliation_passed (as : List ApplicationAction) (ids : List String)
    (eventId : Option String) :
    List.Forall₂ Passed as (attachReconciliationTaskMetadata as ids eventId) := by
  refine (attachIds_forall₂ _ _ as ids).imp fun a b h => ?_
  rcases h with rfl | ⟨ht, id, rfl⟩
  · exact .refl b
  · exact ⟨rfl, rfl, rfl, fun he => absurd ht (by simp [he]), alarmId_orElse _ _⟩

theorem attachNotification_passed (as : List ApplicationAction) (ids : List String)
    (eventId : Option String) :
    List.Forall₂ Passed as (attachNotificationTaskMetadata as ids eventId) := by
  refine (attachIds_forall₂ _ _ as ids).imp fun a b h => ?_
  rcases h with rfl | ⟨-, id, rfl⟩
  · exact .refl b
  · exact ⟨rfl, rfl, rfl, fun _ => rfl, alarmId_orElse _ _⟩

/-- A row prepared for an action is the row of what the action is passed on as. -/
theorem NotificationRow.passed {c : NotificationContext} {a b : ApplicationAction}
    {t : AutomationTask}
    (h : NotificationRow c a t) (hp : Passed a b) (hn : isEventAction a.actionType = false) :
    NotificationRow c b t := by
  have hdk := hp.dedupeKey hn
  by_cases hpre : isPrewarningMessage a.actionType = true
  · have hpre' : isPrewarningMessage b.actionType = true := hp.actionType ▸ hpre
    refine ⟨hp.actionType ▸ h.taskType, hdk ▸ h.dedupeKey, ?_, ?_, fun hf =>
      absurd hpre' (by simp [hf])⟩
    · rw [h.entityId, if_pos hpre, if_pos hpre']
    · obtain ⟨n, hn⟩ := h.payload
      exact ⟨n, by simp [hn, notificationPayload, hpre, hp.actionType, hp.payload, hdk]⟩
  · have htruthy := h.event (by simpa using hpre)
    have halarm : b.alarmId = a.alarmId := by
      rcases hp.alarmId with he | he
      · exact he
      · simp [he, truthy] at htruthy
    refine ⟨hp.actionType ▸ h.taskType, hdk ▸ h.dedupeKey, ?_, ?_, fun _ => halarm ▸ htruthy⟩
    · rw [h.entityId, hp.actionType, halarm]
    · obtain ⟨n, hn⟩ := h.payload
      exact ⟨n, by simp [hn, notificationPayload, hp.actionType, hp.payload, hdk, halarm]⟩

namespace SampleTrace

variable {cfg : ServiceConfig} {i : SampleInput} {s s' : ServiceState} {out : SampleOutput}
  (T : SampleTrace cfg i s s' out)

/-- The mapped actions. -/
def mapped : List ApplicationAction :=
  T.formal ++ T.advice.map fun a => adviceAction T.tr a.actionType

/-- The transition behind the projection. -/
def projected : StateTransition := { T.tr with next := T.l.next }

theorem mem_advice {a : AlarmAction} (h : a ∈ T.advice) :
    T.tr.next.state = .normal ∧ isPrewarningMessage a.actionType = true := by
  rcases T.advice_eq with he | ⟨hs, message, hm, he⟩
  · rw [he] at h
    cases h
  · rw [he] at h
    obtain rfl := List.mem_singleton.mp h
    exact ⟨hs, hm⟩

theorem plain {a : ApplicationAction} (ha : a ∈ T.mapped) (hk : a.kind = .notification) :
    PlainMessage a := by
  rcases List.mem_append.mp ha with ha | ha
  · obtain ⟨-, ⟨-, rfl⟩ | ⟨-, -, rfl⟩⟩ := T.localMove.message ha hk
    · exact ⟨rfl, .inl rfl⟩
    · exact ⟨rfl, .inr (.inl rfl)⟩
  · obtain ⟨b, hb, rfl⟩ := List.mem_map.mp ha
    exact ⟨rfl, .inr (.inr (T.mem_advice hb).2)⟩

theorem enriched_forall₂ : List.Forall₂ (fun a a' => enrichAction cfg.digest T.projected
    ⟨i.sample, i.result, i.now, i.schedulerTaskId⟩ a = .ok a') T.mapped T.enriched :=
  enrichActions_forall₂ T.enriched_eq

/-- An enriched message and the mapped one it comes from. -/
theorem enriched_message {a' : ApplicationAction} (ha : a' ∈ T.enriched)
    (hk : a'.kind = .notification) :
    ∃ a ∈ T.mapped, PlainMessage a ∧ enrichAction cfg.digest T.projected
      ⟨i.sample, i.result, i.now, i.schedulerTaskId⟩ a = .ok a' := by
  obtain ⟨a, ham, he⟩ := forall₂_mem_right T.enriched_forall₂ ha
  exact ⟨a, ham, T.plain ham ((enrichAction_type he).2.symm.trans hk), he⟩

theorem enriched_not_event {a' : ApplicationAction} (ha : a' ∈ T.enriched)
    (hk : a'.kind = .notification) : isEventAction a'.actionType = false := by
  obtain ⟨a, -, hp, he⟩ := T.enriched_message ha hk
  rw [(enrichAction_type he).1]
  exact hp.not_event.1

/-- The actions the notification tasks are prepared for are enriched ones. -/
theorem prepared_message {b : ApplicationAction}
    (hb : b ∈ attachReconciliationTaskMetadata T.enriched out.eventTaskIds T.projected.eventId)
    (hk : b.kind = .notification) : ∃ a' ∈ T.enriched, a'.kind = .notification ∧ Passed a' b := by
  obtain ⟨a', ha, hp⟩ := forall₂_mem_right (attachReconciliation_passed _ _ _) hb
  exact ⟨a', ha, hp.kind.symm.trans hk, hp⟩

/-- The prewarning messages' tasks are saved, and nothing else. -/
theorem attachPrewarning_names : ∀ (actions : List ApplicationAction) (ids : List String)
    (next : AlarmState), ∃ notifyId recoveryId, attachPrewarningTaskMetadata actions ids next =
      { next with prewarningNotifyTaskId := notifyId, prewarningRecoveryTaskId := recoveryId }
  | [], _, next =>
    ⟨next.prewarningNotifyTaskId, next.prewarningRecoveryTaskId, by
      unfold attachPrewarningTaskMetadata; rfl⟩
  | _ :: _, [], next =>
    ⟨next.prewarningNotifyTaskId, next.prewarningRecoveryTaskId, by
      unfold attachPrewarningTaskMetadata; rfl⟩
  | a :: rest, id :: ids, next => by
    unfold attachPrewarningTaskMetadata
    split_ifs
    · obtain ⟨n, r, h⟩ :=
        attachPrewarning_names rest ids { next with prewarningNotifyTaskId := some id }
      exact ⟨n, r, h⟩
    · obtain ⟨n, r, h⟩ :=
        attachPrewarning_names rest ids { next with prewarningRecoveryTaskId := some id }
      exact ⟨n, r, h⟩
    · exact attachPrewarning_names rest (id :: ids) next

theorem attachPrewarning_formal (actions : List ApplicationAction) (ids : List String)
    (next : AlarmState) : SameFormal next (attachPrewarningTaskMetadata actions ids next) := by
  obtain ⟨n, r, h⟩ := attachPrewarning_names actions ids next
  rw [h]
  exact ⟨rfl, rfl, rfl, rfl, rfl, rfl, rfl⟩

theorem attachPrewarning_advisory (actions : List ApplicationAction) (ids : List String)
    (next : AlarmState) : SameAdvisory next (attachPrewarningTaskMetadata actions ids next) := by
  obtain ⟨n, r, h⟩ := attachPrewarning_names actions ids next
  rw [h]
  exact ⟨rfl, rfl, rfl, rfl, rfl⟩

/-- The state the device is left in. -/
theorem alarm_eq (T : SampleTrace cfg i s s' out) : s'.alarm i.deviceId =
    attachPrewarningTaskMetadata out.actions out.notificationTaskIds T.l.next := by
  rw [ServiceState.alarm, T.alarms_eq, T.transition_out, Function.update_self]
  rfl

theorem alarm_formal (T : SampleTrace cfg i s s' out) :
    SameFormal T.l.next (s'.alarm i.deviceId) := by
  rw [T.alarm_eq]
  exact attachPrewarning_formal _ _ _

theorem alarm_other (T : SampleTrace cfg i s s' out) {d : String} (hd : i.deviceId ≠ d) :
    s'.alarm d = s.alarm d := by
  rw [ServiceState.alarm, T.alarms_eq, Function.update_of_ne (Ne.symm hd)]
  rfl

theorem previous_eq (T : SampleTrace cfg i s s' out) : T.tr.previous = s.alarm i.deviceId :=
  T.prewarning.previous.trans T.move.previous

/-- The tasks and the executor see one context. -/
theorem context_eq : i.notificationContext out.transition = i.notificationContext T.projected := by
  have h := attachPrewarning_formal out.actions out.notificationTaskIds T.l.next
  rw [T.transition_out]
  simp only [SampleInput.notificationContext, StateTransition.context,
      StateTransition.eventId, projected,
    h.violationStartedAt, h.alarmStartedAt, h.recoveryStartedAt, h.activeAlarmId]

/-- **An emission comes from a mapped message**, and carries what its
enrichment gave it. -/
theorem emission {e : Emission} (he : e ∈ out.emissions i) :
    ∃ a ∈ T.mapped, ∃ a', a.kind = .notification ∧ PlainMessage a ∧
      enrichAction cfg.digest T.projected
      ⟨i.sample, i.result, i.now, i.schedulerTaskId⟩ a = .ok a' ∧ Passed a' e.action ∧
      e.context = i.notificationContext T.projected := by
  unfold SampleOutput.emissions at he
  obtain ⟨b, hb, rfl⟩ := List.mem_map.mp he
  obtain ⟨hb, hk⟩ := List.mem_filter.mp hb
  rw [T.actions_out] at hb
  obtain ⟨c, hc, hcb⟩ := forall₂_mem_right (attachNotification_passed _ _ _) hb
  have hkind : b.kind = .notification := by simpa using hk
  obtain ⟨a', ha', hk', hpc⟩ := T.prepared_message hc (hcb.kind.symm.trans hkind)
  obtain ⟨a, ha, hp, henr⟩ := T.enriched_message ha' hk'
  exact ⟨a, ha, a', (enrichAction_type henr).2.symm.trans hk', hp, henr, hpc.trans hcb,
    T.context_eq⟩

/-! ### The reconciliation of a sample -/

theorem countP_messages {tr : StateTransition} {message : AlarmActionType} {alarmId : Option String}
    (hm : message = .notifyAlarm ∨ message = .notifyRecovery) :
    (messageAction cfg tr message alarmId).countP (fun a => isEventAction a.actionType) = 0 := by
  rw [List.countP_eq_zero]
  intro a ha
  obtain ⟨-, rfl⟩ := mem_messageAction ha
  rcases hm with rfl | rfl <;> simp [mapPlain, isEventAction]

theorem countP_finish {tr : StateTransition} {actionType : AlarmActionType}
    {kind : ApplicationActionKind}
    (hm : actionType = .cancelVerifyTask ∨ actionType = .completeVerifyTask) :
    (finishAction tr actionType kind).countP (fun a => isEventAction a.actionType) = 0 := by
  rw [List.countP_eq_zero]
  intro a ha
  rw [(finishAction_kind ha).2]
  rcases hm with rfl | rfl <;> simp [isEventAction]

/-- A transition has one event action at most. -/
theorem localMove_countP_events {tr : StateTransition} {l l' : Local}
    {formal : List ApplicationAction} (h : LocalMove cfg i tr l formal l') :
    formal.countP (fun a => isEventAction a.actionType) ≤ 1 := by
  cases h with
  | quiet => exact Nat.zero_le 1
  | started => exact Nat.zero_le 1
  | dropped => rw [countP_finish (.inl rfl)]; exact Nat.zero_le 1
  | verified =>
    rw [List.countP_append, countP_finish (.inr rfl), List.countP_cons, countP_messages (.inl rfl)]
    rfl
  | active => exact le_refl 1
  | returned => exact le_refl 1
  | recovering => exact Nat.zero_le 1
  | recovered =>
    rw [List.countP_cons, countP_messages (.inr rfl)]
    rfl

theorem enriched_countP : T.enriched.countP (fun a => isEventAction a.actionType) =
    T.formal.countP fun a => isEventAction a.actionType := by
  rw [← forall₂_countP (fun a a' h => by rw [(enrichAction_type h).1]) T.enriched_forall₂, mapped,
    List.countP_append, Nat.add_eq_left, List.countP_eq_zero]
  intro a ha
  obtain ⟨b, hb, rfl⟩ := List.mem_map.mp ha
  have hm := (T.mem_advice hb).2
  revert hm
  show isPrewarningMessage b.actionType = true → ¬ isEventAction b.actionType = true
  cases b.actionType <;> simp [isPrewarningMessage, isEventAction]

/-- A sample arms nothing, or one reconciliation for its one event action. -/
theorem armed_cases :
    (T.armed = ⟨T.l.tasks, T.l.drawn⟩ ∧ out.eventTaskIds = [] ∧
        (i.writesEnabled = false ∨ ∀ a ∈ T.formal, isEventAction a.actionType = false)) ∨
      i.writesEnabled = true ∧ (∃ a ∈ T.formal, isEventAction a.actionType = true) ∧
        ∃ task, createOrGetUnfinished T.l.tasks i.activation (cfg.uuid T.l.drawn)
            (reconciliationSpec cfg.upper T.projected i) (reconcileKey T.projected.eventId) =
              .ok (T.armed.tasks, task) ∧
          T.armed.drawn = T.l.drawn + 1 ∧ out.eventTaskIds = [task.taskId] := by
  have harm := T.armed_eq
  have hcount := T.enriched_countP
  have hle := localMove_countP_events T.localMove
  rw [List.countP_eq_length_filter] at hcount
  unfold prepareEventReconciliationTasks at harm
  split_ifs at harm with hw
  · cases hf : T.enriched.filter fun a => isEventAction a.actionType with
    | nil =>
      rw [hf] at harm
      obtain ⟨h1, h2⟩ := Prod.mk.inj (Except.ok.inj harm)
      rw [hf] at hcount
      exact .inl ⟨h1.symm, h2.symm, .inr fun a ha => by
        simpa using List.countP_eq_zero.mp hcount.symm a ha⟩
    | cons a as =>
      rw [hf] at harm hcount
      obtain rfl : as = [] := by
        cases as with
        | nil => rfl
        | cons b bs =>
          simp only [List.length_cons] at hcount
          omega
      simp only [armReconciliations] at harm
      split at harm
      · cases harm
      · rename_i tasks task hmade
        obtain ⟨h1, h2⟩ := Prod.mk.inj (Except.ok.inj harm)
        refine .inr ⟨hw, ?_, task, by rw [← h1]; exact hmade, by rw [← h1], h2.symm⟩
        have hpos : 0 < T.formal.countP fun a => isEventAction a.actionType := by
          rw [← hcount]
          exact Nat.one_pos
        obtain ⟨b, hb, he⟩ := List.countP_pos_iff.mp hpos
        exact ⟨b, hb, he⟩
  · obtain ⟨h1, h2⟩ := Prod.mk.inj (Except.ok.inj harm)
    exact .inl ⟨h1.symm, h2.symm, .inl (by simpa using hw)⟩

/-! ### The rows of a sample -/

/-- The reconciliation a sample inserts: no unfinished row has its identity. -/
structure ArmedRow (t : AutomationTask) : Prop where
  writes : i.writesEnabled = true
  taskType : t.taskType = reconcileType
  payload : t.payload = reconciliationPayload cfg.upper T.projected i
  free : activeRows T.l.tasks (reconciliationSpec cfg.upper T.projected i)
    (reconcileKey T.projected.eventId) = []
  event : ∃ a ∈ T.formal, isEventAction a.actionType = true

/-- The rows a sample inserts. -/
inductive Row (t : AutomationTask) : Prop
  | verify : VerifyRow t → Row t
  | armed : T.ArmedRow t → Row t
  | notification (e : Emission) : e ∈ out.emissions i → NotificationRow e.context e.action t → Row t

theorem reconcileKey_eq (eventId : Option String) :
    reconcileKey eventId = reconcileType ++ ":" ++ eventId.getD "None" :=
  literal_key "RECONCILE_ALARM_EVENT:" (by decide) rfl

/-- Arming the reconciliation is a run of the task table. -/
theorem reconciliationRun (hinj : Function.Injective cfg.uuid)
    (hsound : TaskStore.Sound cfg.uuid ⟨T.l.tasks, T.l.drawn⟩) :
    TasksRun cfg.uuid T.Row ⟨T.l.tasks, T.l.drawn⟩ T.armed := by
  rcases T.armed_cases with ⟨he, -⟩ | ⟨hw, hevent, task, hmade, hdrawn, -⟩
  · rw [he]
    exact .refl
  · rw [show T.armed = ⟨T.armed.tasks, T.l.drawn + 1⟩ by rw [← hdrawn]]
    rw [reconcileKey_eq] at hmade
    refine (createOrGetUnfinished_run hsound hinj i.activation _ rfl (fun hfree => ?_) hmade).1
    rw [← reconcileKey_eq] at hfree
    exact .armed ⟨hw, rfl, rfl, hfree, hevent⟩

/-- So are the notifications behind it. -/
theorem notificationsRun (hinj : Function.Injective cfg.uuid) (hsound : T.armed.Sound cfg.uuid) :
    TasksRun cfg.uuid T.Row T.armed ⟨s'.tasks, s'.drawn⟩ := by
  have hnotify := prepareNotificationTasks_run hinj i.toGates (i.notificationContext T.projected)
    ((attachReconciliationTaskMetadata T.enriched out.eventTaskIds T.projected.eventId).filter
      fun a => a.kind = .notification) T.armed hsound ?_
  · have heq := T.notified_eq
    unfold projected at hnotify
    rw [heq] at hnotify
    refine hnotify.mono fun t ⟨c, hc, hrow⟩ => ?_
    obtain ⟨hc, hk⟩ := List.mem_filter.mp hc
    have hkind : c.kind = .notification := by simpa using hk
    obtain ⟨a', ha', hk', hpass⟩ := T.prepared_message hc hkind
    have hne : isEventAction c.actionType = false := hpass.actionType ▸ T.enriched_not_event ha' hk'
    obtain ⟨b, hb, hcb⟩ := forall₂_mem_left
      (attachNotification_passed _ out.notificationTaskIds T.projected.eventId) hc
    refine .notification ⟨b, i.notificationContext out.transition⟩ ?_ ?_
    · unfold SampleOutput.emissions
      refine List.mem_map.mpr
        ⟨b, List.mem_filter.mpr ⟨?_, by simpa using hcb.kind.trans hkind⟩, rfl⟩
      rw [T.actions_out]
      exact hb
    · rw [T.context_eq]
      exact hrow.passed hcb hne
  · intro c hc k hk
    obtain ⟨hc, hkind⟩ := List.mem_filter.mp hc
    obtain ⟨a', ha', hk', hpass⟩ := T.prepared_message hc (by simpa using hkind)
    obtain ⟨a, -, hp, henr⟩ := T.enriched_message ha' hk'
    rw [hpass.dedupeKey (T.enriched_not_event ha' hk')] at hk
    rw [hpass.actionType]
    exact enriched_key hp henr hk

/-- Arming the tasks of a sample is a run of the task table. -/
theorem armRun (hinj : Function.Injective cfg.uuid)
    (hsound : TaskStore.Sound cfg.uuid ⟨T.l.tasks, T.l.drawn⟩) :
    TasksRun cfg.uuid T.Row ⟨T.l.tasks, T.l.drawn⟩ ⟨s'.tasks, s'.drawn⟩ :=
  have harm := T.reconciliationRun hinj hsound
  harm.trans (T.notificationsRun hinj (harm.sound hinj hsound))

/-- **The unit of a sample is a run of the task table**, behind the id its
advisory has drawn. -/
theorem unitRun (hinj : Function.Injective cfg.uuid)
    (hs : TaskStore.Sound cfg.uuid ⟨s.tasks, s.drawn + 1⟩) :
    TasksRun cfg.uuid T.Row ⟨s.tasks, s.drawn + 1⟩ ⟨s'.tasks, s'.drawn⟩ := by
  have hproject : TasksRun cfg.uuid T.Row ⟨s.tasks, s.drawn + 1⟩ ⟨T.l.tasks, T.l.drawn⟩ :=
    (T.localMove.tasksRun hinj hs).mono fun _ h => .verify h
  exact hproject.trans (T.armRun hinj (hproject.sound hinj hs))

theorem tasksRun (hinj : Function.Injective cfg.uuid)
    (hs : TaskStore.Sound cfg.uuid ⟨s.tasks, s.drawn⟩) :
    TasksRun cfg.uuid T.Row ⟨s.tasks, s.drawn⟩ ⟨s'.tasks, s'.drawn⟩ :=
  TasksRun.trans (.drew .refl) (T.unitRun hinj hs.draw)

/-- A sample draws an id at least. -/
theorem drawn_lt (T : SampleTrace cfg i s s' out) (hinj : Function.Injective cfg.uuid)
    (hs : TaskStore.Sound cfg.uuid ⟨s.tasks, s.drawn⟩) :
    s.drawn < s'.drawn :=
  (T.unitRun hinj hs.draw).drawn_le

end SampleTrace

end TemperatureMonitor
