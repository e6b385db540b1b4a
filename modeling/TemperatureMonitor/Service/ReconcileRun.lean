/-
# What a reconciliation attempt inserts and emits

An attempt changes no alarm state and no cycle; the rows it inserts are the
tasks of the notifications it emits. A recovery notification is emitted for
an event whose recovery is pending, and dated by the recovery recorded there.
-/
import TemperatureMonitor.Service.Arming

namespace TemperatureMonitor

section Owed

variable {cfg : ServiceConfig} {r : ReconcileInput} {device : String} {localEventId : Option String}
  {event : Option EnvironmentEvent} {mapped : List ApplicationAction} {a a' : ApplicationAction}

theorem mem_mapActions {emit : Bool} {tr : StateTransition} : ∀ {as : List AlarmAction}
    {mapped : List ApplicationAction}, mapActions emit tr as = .ok mapped → ∀ {a}, a ∈ mapped →
    ∃ b ∈ as, ∃ xs, mapAction emit tr b = .ok xs ∧ a ∈ xs
  | [], mapped, h, a, ha => by
    cases h
    cases ha
  | b :: as, mapped, h, a, ha => by
    simp only [mapActions] at h
    split at h
    · cases h
    · rename_i xs hxs
      split at h
      · cases h
      · rename_i rest hrest
        cases h
        rcases List.mem_append.mp ha with ha | ha
        · exact ⟨b, List.mem_cons_self, xs, hxs, ha⟩
        · obtain ⟨c, hc, ys, hys, hay⟩ := mem_mapActions hrest ha
          exact ⟨c, List.mem_cons_of_mem _ hc, ys, hys, hay⟩

/-- What is owed: the record or an update of it, and a recovery that is pending. -/
theorem mem_owedActions {b : AlarmAction} (h : b ∈ owedActions device localEventId event) :
    b.deviceId = device ∧ b.alarmId = localEventId ∧
      (b.actionType = .createAlarmEvent ∨ b.actionType = .updateAlarmEvent ∨
        b.actionType = .markAlarmRecovered ∧ ∃ e, event = some e ∧ e.recoveryPending = true) := by
  have hsource : (sourceAction device localEventId event).actionType = .createAlarmEvent ∨
      (sourceAction device localEventId event).actionType = .updateAlarmEvent := by
    unfold sourceAction
    split_ifs
    · exact .inl rfl
    · exact .inr rfl
  have hone : b = sourceAction device localEventId event → b.deviceId = device ∧
      b.alarmId = localEventId ∧
      (b.actionType = .createAlarmEvent ∨ b.actionType = .updateAlarmEvent ∨
        b.actionType = .markAlarmRecovered ∧ ∃ e, event = some e ∧ e.recoveryPending = true) := by
    rintro rfl
    exact ⟨rfl, rfl, hsource.imp id .inl⟩
  unfold owedActions at h
  cases event with
  | none => exact hone (List.mem_singleton.mp h)
  | some e =>
    simp only at h
    by_cases hpending : e.recoveryPending = true
    · rw [if_pos hpending] at h
      have hrec :
          b = { sourceAction device localEventId (some e) with actionType := .markAlarmRecovered } →
          b.deviceId = device ∧ b.alarmId = localEventId ∧
            (b.actionType = .createAlarmEvent ∨ b.actionType = .updateAlarmEvent ∨
              b.actionType = .markAlarmRecovered ∧ ∃ e', some e = some e' ∧
                e'.recoveryPending = true) := by
        rintro rfl
        exact ⟨rfl, rfl, .inr (.inr ⟨rfl, e, rfl, hpending⟩)⟩
      split_ifs at h
      · exact hrec (List.mem_singleton.mp h)
      · rcases List.mem_cons.mp h with h | h
        · exact hone h
        · exact hrec (List.mem_singleton.mp h)
    · rw [if_neg hpending] at h
      exact hone (List.mem_singleton.mp h)

/-- The messages of an attempt: of the alarm, and of a recovery that is pending. -/
theorem owed_message {tr : StateTransition}
    (hm : mapActions cfg.emitNotifications tr (owedActions device localEventId event) = .ok mapped)
    (ha : a ∈ mapped) (hk : a.kind = .notification) :
    PlainMessage a ∧ a.alarmId = localEventId ∧ cfg.emitNotifications = true ∧
      (a.actionType = .notifyAlarm ∨
        a.actionType = .notifyRecovery ∧ ∃ e, event = some e ∧ e.recoveryPending = true) := by
  obtain ⟨b, hb, xs, hxs, hax⟩ := mem_mapActions hm ha
  obtain ⟨-, hid, ht⟩ := mem_owedActions hb
  unfold mapAction at hxs
  rcases ht with ht | ht | ⟨ht, hpending⟩ <;> rw [ht] at hxs <;> simp only [notificationType] at hxs
  · split_ifs at hxs with he <;> cases hxs
    · rcases List.mem_cons.mp hax with rfl | hax
      · simp [mapPlain, ht, kindOf] at hk
      · obtain rfl := List.mem_singleton.mp hax
        exact ⟨⟨rfl, .inl rfl⟩, hid, he, .inl rfl⟩
    · obtain rfl := List.mem_singleton.mp hax
      simp [mapPlain, ht, kindOf] at hk
  · cases hxs
    obtain rfl := List.mem_singleton.mp hax
    simp [mapPlain, ht, kindOf] at hk
  · split_ifs at hxs with he <;> cases hxs
    · rcases List.mem_cons.mp hax with rfl | hax
      · simp [mapPlain, ht, kindOf] at hk
      · obtain rfl := List.mem_singleton.mp hax
        exact ⟨⟨rfl, .inr (.inl rfl)⟩, hid, he, .inr ⟨rfl, hpending⟩⟩
    · obtain rfl := List.mem_singleton.mp hax
      simp [mapPlain, ht, kindOf] at hk

theorem enrichReconciliations_forall₂ {digest : UpdateMaterial → String} {c : NotificationContext}
    {facts : MonitorSample × ResultDict} {taskId : String} {as as' : List ApplicationAction}
    (h : enrichReconciliations digest c facts taskId localEventId as = .ok as') :
    List.Forall₂ (fun a a' => enrichReconciliation digest c facts taskId localEventId a = .ok a')
      as as' := by
  induction as generalizing as' with
  | nil =>
    cases h
    exact .nil
  | cons a as ih =>
    simp only [enrichReconciliations] at h
    split at h
    · cases h
    · rename_i enriched he
      split at h
      · cases h
      · rename_i others ho
        cases h
        exact .cons he (ih ho)

theorem enrichReconciliation_type {digest : UpdateMaterial → String} {c : NotificationContext}
    {facts : MonitorSample × ResultDict} {taskId : String}
    (h : enrichReconciliation digest c facts taskId localEventId a = .ok a') :
    a'.actionType = a.actionType ∧ a'.kind = a.kind := by
  unfold enrichReconciliation at h
  split at h
  · cases h
    exact ⟨rfl, rfl⟩
  · split_ifs at h
    · cases h
      exact ⟨rfl, rfl⟩
    · cases h
      exact ⟨rfl, rfl⟩
    · split at h
      · cases h
      · cases h
        exact ⟨rfl, rfl⟩
    · cases h
      exact ⟨rfl, rfl⟩

/-- A message of an attempt, enriched: without an event it stays as it is, with
one it is given the key of its type. -/
theorem enrichReconciliation_message {digest : UpdateMaterial → String} {c : NotificationContext}
    {facts : MonitorSample × ResultDict} {taskId : String} (hk : a.kind = .notification)
    (hid : a.alarmId = localEventId)
    (h : enrichReconciliation digest c facts taskId localEventId a = .ok a') :
    a' = a ∧ localEventId = none ∨ ∃ id, localEventId = some id ∧ a'.alarmId = some id ∧
      (a.actionType = .notifyAlarm ∧ a'.dedupeKey = some (notifyAlarmKey id) ∨
        a.actionType ≠ .notifyAlarm ∧ a'.dedupeKey = some (notifyRecoveryKey id c.recoveryStart) ∧
          a'.payload.recoveryStartedAt = some c.recoveryStart) := by
  unfold enrichReconciliation at h
  rw [hid] at h
  cases localEventId with
  | none =>
    cases h
    exact .inl ⟨rfl, rfl⟩
  | some id =>
    have hsome : (some id <|> some id : Option String) = some id := rfl
    simp only [hsome, if_pos hk] at h
    refine .inr ⟨id, rfl, ?_⟩
    split_ifs at h with ht
    · cases h
      exact ⟨rfl, .inl ⟨ht, rfl⟩⟩
    · cases h
      exact ⟨rfl, .inr ⟨ht, rfl, rfl⟩⟩

end Owed

/-! ### The attempt -/

section Attempt

variable {cfg : ServiceConfig} {r : ReconcileInput} {s s' : ServiceState}

/-- Everything an attempt issues, from the event it found. -/
structure Issued (cfg : ServiceConfig) (r : ReconcileInput) (events : List EnvironmentEvent)
    (store : TaskStore) (store' : TaskStore) (out : ReconcileOutput) : Prop where
  tasksRun : Function.Injective cfg.uuid → store.Sound cfg.uuid →
    TasksRun cfg.uuid (fun t => ∃ a ∈ out.notifications, NotificationRow out.context a t)
      store store'
  /-- The messages: of the alarm, and of a recovery the found event has pending. -/
  message : ∀ a ∈ out.notifications, a.actionType = .notifyAlarm ∨ a.actionType = .notifyRecovery ∧
    cfg.emitNotifications = true ∧ ∃ id e, r.task.payload.localEvent = some id ∧
      eventById events id = some e ∧ e.recoveryPending = true ∧ a.alarmId = some id ∧
      out.context.transition.recoveryStartedAt = none ∧
      out.context.recoveredAt = (e.payload.feishuRecoveredAt <|> e.closedAt) ∧
      a.dedupeKey = some (notifyRecoveryKey id out.context.recoveryStart) ∧
      a.payload.recoveryStartedAt = some out.context.recoveryStart

theorem issueReconciliation_issued {device : String} {localEventId : Option String}
    {event : Option EnvironmentEvent} {start : Option DateTime} {state : AlarmState}
    {store store' : TaskStore} {out : ReconcileOutput} (hevent : ∀ e, event = some e →
      localEventId = r.task.payload.localEvent ∧ localEventId.bind (eventById s.events) = some e)
    (h : issueReconciliation cfg r device localEventId event start state store =
      .ok (store', out)) :
    Issued cfg r s.events store store' out := by
  unfold issueReconciliation at h
  simp only at h
  split at h
  · cases h
  · rename_i mapped hmapped
    split at h
    · cases h
    · rename_i enriched henriched
      obtain ⟨h1, h2⟩ := Prod.mk.inj (Except.ok.inj h)
      subst h1 h2
      have hall := enrichReconciliations_forall₂ henriched
      have hmsg : ∀ b ∈ enriched, b.kind = .notification → ∃ a ∈ mapped, a.kind = .notification ∧
          enrichReconciliation cfg.digest (reconcileContext r device localEventId event start)
            (reconcileSample r device event) r.task.taskId localEventId a = .ok b := by
        intro b hb hk
        obtain ⟨a, ha, he⟩ := forall₂_mem_right hall hb
        exact ⟨a, ha, (enrichReconciliation_type he).2.symm.trans hk, he⟩
      have hne : ∀ b ∈ enriched, b.kind = .notification → isEventAction b.actionType = false := by
        intro b hb hk
        obtain ⟨a, ha, hka, he⟩ := hmsg b hb hk
        rw [(enrichReconciliation_type he).1]
        exact (owed_message hmapped ha hka).1.not_event.1
      refine ⟨fun hinj hs => ?_, ?_⟩
      · refine (prepareNotificationTasks_run hinj r.toGates _ _ store hs ?_).mono ?_
        · intro b hb k hbk
          obtain ⟨hb, hk⟩ := List.mem_filter.mp hb
          have hk : b.kind = .notification := by simpa using hk
          obtain ⟨a, ha, hka, he⟩ := hmsg b hb hk
          obtain ⟨hplain, hid, -, ht⟩ := owed_message hmapped ha hka
          rw [(enrichReconciliation_type he).1]
          rcases enrichReconciliation_message hka hid he with ⟨rfl, -⟩ | ⟨id, -, -,
            ⟨hta, hdk⟩ | ⟨hta, hdk, -⟩⟩
          · rw [hplain.dedupeKey] at hbk
            cases hbk
          · rw [hdk] at hbk
            cases hbk
            exact ⟨id, by rw [hta]; exact literal_key "NOTIFY_ALARM:" (by decide) rfl⟩
          · rw [hdk] at hbk
            cases hbk
            refine ⟨id ++ ":" ++
              (reconcileContext r device localEventId event start).recoveryStart.isoformat, ?_⟩
            rw [ht.resolve_left hta |>.1]
            refine literal_key "NOTIFY_RECOVERY:" (by decide) ?_
            unfold notifyRecoveryKey
            simp only [String.append_assoc]
        · rintro t ⟨b, hb, hrow⟩
          obtain ⟨hb, hk⟩ := List.mem_filter.mp hb
          have hk : b.kind = .notification := by simpa using hk
          obtain ⟨c, hc, hbc⟩ := forall₂_mem_left (attachNotification_passed _ _ _) hb
          exact ⟨c, List.mem_filter.mpr ⟨hc, by simpa using hbc.kind.trans hk⟩,
            hrow.passed hbc (hne b hb hk)⟩
      · intro c hc
        obtain ⟨hc, hk⟩ := List.mem_filter.mp hc
        obtain ⟨b, hb, hbc⟩ := forall₂_mem_right (attachNotification_passed _ _ _) hc
        have hk : b.kind = .notification := hbc.kind.symm.trans (by simpa using hk)
        obtain ⟨a, ha, hka, he⟩ := hmsg b hb hk
        obtain ⟨hplain, hid, hemit, ht⟩ := owed_message hmapped ha hka
        have htype : c.actionType = a.actionType :=
          hbc.actionType.trans (enrichReconciliation_type he).1
        rcases ht with ht | ⟨ht, e, rfl, hpending⟩
        · exact .inl (htype.trans ht)
        · refine .inr ⟨htype.trans ht, hemit, ?_⟩
          obtain ⟨hlocal, hfound⟩ := hevent e rfl
          rcases enrichReconciliation_message hka hid he with ⟨-, hnone⟩ | ⟨id, hsome, hbid, hkey⟩
          · rw [hnone] at hfound
            cases hfound
          · have hkey' := hkey.resolve_left fun hx => absurd (ht ▸ hx.1) (by decide)
            rw [hsome] at hfound hlocal
            refine ⟨id, e, hlocal.symm, hfound, hpending, ?_, rfl, ?_, ?_, ?_⟩
            · rcases hbc.alarmId with hx | hx
              · rw [hx, hbid]
              · rw [hx] at hbid
                cases hbid
            · simp [reconcileContext, hpending]
            · rw [hbc.dedupeKey (hne b hb hk)]
              exact hkey'.2.1
            · rw [hbc.payload]
              exact hkey'.2.2

theorem rowsWritten_attempted (events : List EnvironmentEvent) (e : EnvironmentEvent) :
    RowsWritten events (attempted events e) := by
  unfold attempted
  split_ifs
  · exact rowsWritten_update fun e => .values .createAttempted
  · exact rowsWritten_refl events

/-- What an attempt leaves: it marks an event as posted at most, and what it
inserts and emits is what it issues. -/
structure Attempted (cfg : ServiceConfig) (r : ReconcileInput) (s s' : ServiceState)
    (answer : Except PyError (Option ReconcileOutput)) : Prop where
  alarms : s'.alarms = s.alarms
  events : s'.events = s.events ∨ ∃ e, s'.events = attempted s.events e
  failed : ∀ err, answer = .error err → s'.tasks = s.tasks ∧ s'.drawn = s.drawn
  nothing : answer = .ok none → s'.tasks = s.tasks ∧ s'.drawn = s.drawn
  issued : ∀ out, answer = .ok (some out) →
    Issued cfg r s.events ⟨s.tasks, s.drawn⟩ ⟨s'.tasks, s'.drawn⟩ out

theorem Attempted.idle {answer : Except PyError (Option ReconcileOutput)}
    (h : ∀ out, answer ≠ .ok (some out)) : Attempted cfg r s s answer :=
  ⟨rfl, .inl rfl, fun _ _ => ⟨rfl, rfl⟩, fun _ => ⟨rfl, rfl⟩, fun out ho => absurd ho (h out)⟩

theorem reconcileAttempt_attempted :
    Attempted cfg r s (reconcileAttempt cfg r s).1 (reconcileAttempt cfg r s).2 := by
  unfold reconcileAttempt
  simp only
  split
  · exact .idle fun _ h => by cases h
  · rename_i device _
    split
    · rename_i event hevent
      split
      · exact .idle fun _ h => by cases h
      · rename_i start _
        split_ifs
        · exact ⟨rfl, .inr ⟨event, rfl⟩, fun _ _ => ⟨rfl, rfl⟩, fun _ =>
            ⟨rfl, rfl⟩, fun _ ho => by cases ho⟩
        · split
          · exact ⟨rfl, .inr ⟨event, rfl⟩, fun _ _ =>
              ⟨rfl, rfl⟩, (fun ho => by cases ho), fun _ ho => by cases ho⟩
          · rename_i store out hissue
            refine ⟨rfl, .inr ⟨event, rfl⟩, (fun _ ho => by cases ho), (fun ho => by cases ho),
              fun _ ho => ?_⟩
            cases ho
            exact issueReconciliation_issued (s := s) (fun e he => ⟨rfl, he ▸ hevent⟩) hissue
    · split_ifs
      · exact .idle fun _ h => by cases h
      · split
        · exact .idle fun _ h => by cases h
        · split
          · exact .idle fun _ h => by cases h
          · rename_i store out hissue
            refine ⟨rfl, .inl rfl, (fun _ ho => by cases ho), (fun ho => by cases ho),
              fun _ ho => ?_⟩
            cases ho
            exact issueReconciliation_issued (s := s) (fun e he => by cases he) hissue

/-- The row the task was claimed from is in the table. -/
def Claimed (s : ServiceState) (task : AutomationTask) : Prop := ∃ row ∈ s.tasks, SameTask row task

/-- **An attempt, with the retry of one that raises.** -/
theorem reconcileAlarmEventTask_run (hinj : Function.Injective cfg.uuid)
    (hs : TaskStore.Sound cfg.uuid ⟨s.tasks, s.drawn⟩) (hclaimed : Claimed s r.task)
    {answer : Except PyError (Option ReconcileOutput)}
    (h : reconcileAlarmEventTask cfg r s = (s', answer)) :
    s'.alarms = s.alarms ∧ (s'.events = s.events ∨ ∃ e, s'.events = attempted s.events e) ∧
      TasksRun cfg.uuid (fun t =>
        ∃ e ∈ reconcileEmissions answer, NotificationRow e.context e.action t)
        ⟨s.tasks, s.drawn⟩ ⟨s'.tasks, s'.drawn⟩ := by
  have hatt := @reconcileAttempt_attempted cfg r s
  unfold reconcileAlarmEventTask at h
  generalize reconcileAttempt cfg r s = res at h hatt
  obtain ⟨s1, answer1⟩ := res
  cases answer1 with
  | ok out =>
    cases h
    refine ⟨hatt.alarms, hatt.events, ?_⟩
    cases out with
    | none =>
      obtain ⟨h1, h2⟩ := hatt.nothing rfl
      rw [h1, h2]
      exact .refl
    | some out =>
      refine ((hatt.issued out rfl).tasksRun hinj hs).mono fun t ⟨a, ha, hrow⟩ => ?_
      exact ⟨⟨a, out.context⟩, List.mem_map.mpr ⟨a, ha, rfl⟩, hrow⟩
  | error err =>
    obtain ⟨h1, h2⟩ := hatt.failed err rfl
    simp only at h
    split at h
    · rename_i tasks htasks
      cases h
      refine ⟨hatt.alarms, hatt.events, ?_⟩
      rw [h1] at htasks
      obtain ⟨row, hrow, hsame⟩ := hclaimed
      rw [h2]
      refine TasksRun.refl.rows (sameTasks_reschedule (fun t ht hid => ?_) htasks)
      obtain rfl := eq_of_taskId hs.nodup ht hrow (hid.trans hsame.taskId)
      obtain ⟨n, hn⟩ := hsame.payload
      exact ⟨(retryPayload r.task.payload).retryAttempt, by rw [hn, retryPayload]⟩
    · cases h
      refine ⟨hatt.alarms, hatt.events, ?_⟩
      rw [h1, h2]
      exact .refl

/-- An emission of an attempt is one of the messages it issues. -/
theorem reconcileEmissions_issued {e : Emission}
    (he : e ∈ reconcileEmissions (reconcileAlarmEventTask cfg r s).2) :
    ∃ store' out, Issued cfg r s.events ⟨s.tasks, s.drawn⟩ store' out ∧
      e.action ∈ out.notifications ∧
      e.context = out.context := by
  have hatt := @reconcileAttempt_attempted cfg r s
  unfold reconcileAlarmEventTask at he
  generalize reconcileAttempt cfg r s = res at he hatt
  obtain ⟨s1, answer1⟩ := res
  cases answer1 with
  | ok out =>
    cases out with
    | none => cases he
    | some out =>
      obtain ⟨a, ha, rfl⟩ := List.mem_map.mp he
      exact ⟨_, out, hatt.issued out rfl, ha, rfl⟩
  | error err =>
    simp only at he
    split at he <;> cases he

end Attempt

end TemperatureMonitor
