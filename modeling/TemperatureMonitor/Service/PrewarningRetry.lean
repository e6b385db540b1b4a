/-
# Retries of a prewarning message

A task whose message fails in a way that can be tried again is put back with
one attempt more, and the failure stands in its marker, exactly when the
remote events could be read and either the device table could be read too or
an earlier attempt has left a marker (`prewarning_retry_iff`). Otherwise the
retry is lost on the way: the first read raises before the context is
filled in, and without a marker it is the recording of the failure that raises.
-/
import TemperatureMonitor.Service.PrewarningNotice
import TemperatureMonitor.Store.ProjectionTasks

namespace TemperatureMonitor

section Failures

variable (hasMarkers : Bool) (w : NoticeWorld) (effects : List PrewarningEffect)
  (a : ApplicationAction) (c : ActionContext)

/-- The failure of a delivery, before anything is recorded. -/
def deliveryFailure : Option NotificationError :=
  match w.hasUnclosedEvent with
  | .error e => some e
  | .ok true => none
  | .ok false =>
    if noticeKey a c = "" then
      some { text := "prewarning notification is missing dedupe_key", errorCode := "dedupe_key_missing", retryable := false }
    else if !hasMarkers then
      some { text := "prewarning effect marker repository is not configured"
             errorCode := "prewarning_marker_unavailable", retryable := false }
    else if ((getEffect effects (noticeKey a c)).filter (·.status = .succeeded)).isSome then none
    else match w.resolveDeviceRecipient with
      | .error e => some e
      | .ok found => match w.sendText found.1 with
        | .error e => some e
        | .ok _ => none

/-- The remote events were read, and the device table too unless there is a marker. -/
def ReadsDone (key : String) : Prop :=
  (w.activeEvent = true ∨ ∃ unclosed, w.events = .ok unclosed) ∧
    ((∃ found, w.recipient = .ok found) ∨ ∃ marker, getEffect effects key = some marker)

/-- The marker of a key records the failure. -/
def Recorded (key : String) (e : NotificationError) (at_ : DateTime) : Prop :=
  ∃ r, getEffect effects key = some r ∧ r.status = .failed ∧ r.failedAt = some at_ ∧
      r.error = some e.text ∧
    ("error_code", .text e.errorCode) ∈ r.metadata ∧ ("retryable", .bool e.retryable) ∈ r.metadata

end Failures

section Writer

variable {hasMarkers : Bool} {w : NoticeWorld} {effects : List PrewarningEffect}
  {a : ApplicationAction}
  {c : ActionContext} {e : NotificationError} {key : String}

/-- A failure is recorded and passed on, or lost for want of a marker. -/
theorem failPrewarning_cases (marked recipient receiveIdType : Option String) :
    (getEffect effects key = none ∧
      failPrewarning w effects c key e marked recipient receiveIdType =
      ⟨effects, c, some (.python (unknownEffect key))⟩) ∨
    ∃ old effects', getEffect effects key = some old ∧
      failPrewarning w effects c key e marked recipient receiveIdType =
        ⟨effects', c.failed e recipient receiveIdType, some (.notification e)⟩ ∧
      Recorded effects' key e (c.attemptTime w.clock) := by
  unfold failPrewarning
  rcases @markEffectFailed_cases effects key (c.attemptTime w.clock)
      e.text (failureMetadata key e marked) with
    ⟨hnone, herr⟩ | ⟨old, effects', r, hold, hok, hr, hst, hat, htext, hmeta⟩
  · left
    rw [herr]
    exact ⟨hnone, rfl⟩
  · right
    rw [hok]
    exact ⟨old, effects', hold, rfl, r, hr, hst, hat, htext, hmeta _ (by simp [failureMetadata]),
      hmeta _ (by simp [failureMetadata])⟩

/-- A failure of the sender is recorded: there is a pending marker. -/
theorem sendPrewarning_failed {recipient receiveIdType : String}
    (h : w.sendText recipient = .error e) :
    ∃ effects', sendPrewarning w effects a c key recipient receiveIdType =
        ⟨effects', c.failed e (some recipient) (some receiveIdType), some (.notification e)⟩ ∧
      Recorded effects' key e (c.attemptTime w.clock) := by
  unfold sendPrewarning
  simp only [h]
  have hmarker := @getEffect_pending effects key (noticeDevice a c)
      a.actionType.value (c.attemptTime w.clock)
    [("dedupe_key", .text key), ("recipient", .text recipient),
        ("receive_id_type", .text receiveIdType),
      ("device_id", .text (noticeDevice a c))]
  rcases @failPrewarning_cases w _ c e key (some recipient) (some recipient)
      (some receiveIdType) with
    ⟨hnone, -⟩ | ⟨old, effects', -, heq, hrec⟩
  · rw [hnone] at hmarker
    cases hmarker
  · exact ⟨effects', heq, hrec⟩

/-! ### The two reads -/

theorem hasUnclosedEvent_read {unclosed : Bool} (h : w.hasUnclosedEvent = .ok unclosed) :
    w.activeEvent = true ∨ ∃ unclosed, w.events = .ok unclosed := by
  unfold NoticeWorld.hasUnclosedEvent at h
  by_cases hactive : w.activeEvent = true
  · exact .inl hactive
  · right
    rw [if_neg hactive] at h
    cases hread : w.events with
    | ok unclosed' => exact ⟨unclosed', rfl⟩
    | error text =>
      rw [hread] at h
      cases h

theorem hasUnclosedEvent_failed (h : w.hasUnclosedEvent = .error e) :
    ¬(w.activeEvent = true ∨ ∃ unclosed, w.events = .ok unclosed) := by
  unfold NoticeWorld.hasUnclosedEvent at h
  rintro (hactive | ⟨unclosed, hread⟩)
  · rw [if_pos hactive] at h
    cases h
  · simp only [hread] at h
    split at h <;> cases h

theorem resolve_read {found : String × String} (h : w.resolveDeviceRecipient = .ok found) :
    ∃ found, w.recipient = .ok found := by
  unfold NoticeWorld.resolveDeviceRecipient at h
  cases hread : w.recipient with
  | ok found' => exact ⟨found', rfl⟩
  | error text =>
    rw [hread] at h
    cases h

/-- A device without a recipient is no failure to try again. -/
theorem resolve_failed (h : w.resolveDeviceRecipient = .error e) (hretry : e.retryable = true) :
    ¬∃ found, w.recipient = .ok found := by
  rintro ⟨found, hread⟩
  unfold NoticeWorld.resolveDeviceRecipient at h
  rw [hread] at h
  cases found with
  | none =>
    rw [← Except.error.inj h] at hretry
    cases hretry
  | some pair => cases h

/-- **What the writer does with a failure that can be tried again.** -/
theorem handlePrewarning_failed (hfails : deliveryFailure hasMarkers w effects a c = some e)
    (hretry : e.retryable = true) :
    (ReadsDone w effects (noticeKey a c) ∧ ∃ effects' context, context.retryable = true ∧
      handlePrewarningNotification hasMarkers w effects a c =
        ⟨effects', context, some (.notification e)⟩ ∧
      Recorded effects' (noticeKey a c) e (c.attemptTime w.clock)) ∨
    (¬ReadsDone w effects (noticeKey a c) ∧ ∃ failure,
      handlePrewarningNotification hasMarkers w effects a c = ⟨effects, c, some failure⟩) := by
  unfold deliveryFailure at hfails
  unfold handlePrewarningNotification
  cases hclosure : w.hasUnclosedEvent with
  | error e' =>
    exact .inr ⟨fun hdone => hasUnclosedEvent_failed hclosure hdone.1, .notification e', rfl⟩
  | ok unclosed =>
    have hread := hasUnclosedEvent_read hclosure
    simp only [hclosure] at hfails ⊢
    cases unclosed with
    | true => cases hfails
    | false =>
      simp only at hfails ⊢
      by_cases hkey : noticeKey a c = ""
      · rw [if_pos hkey] at hfails
        rw [← Option.some.inj hfails] at hretry
        cases hretry
      rw [if_neg hkey] at hfails ⊢
      by_cases hmarkers : (!hasMarkers) = true
      · rw [if_pos hmarkers] at hfails
        rw [← Option.some.inj hfails] at hretry
        cases hretry
      rw [if_neg hmarkers] at hfails ⊢
      cases hsent : (getEffect effects (noticeKey a c)).filter (·.status = .succeeded) with
      | some marker =>
        rw [hsent] at hfails
        cases hfails
      | none =>
        rw [hsent] at hfails
        simp only [Option.isSome_none, Bool.false_eq_true, if_false] at hfails ⊢
        cases hfound : w.resolveDeviceRecipient with
        | ok found =>
          rw [hfound] at hfails
          simp only at hfails ⊢
          cases hsend : w.sendText found.1 with
          | ok messageId =>
            rw [hsend] at hfails
            cases hfails
          | error e' =>
            rw [hsend] at hfails
            obtain rfl := Option.some.inj hfails
            obtain ⟨effects', heq, hrec⟩ :=
              @sendPrewarning_failed w effects a c e' (noticeKey a c) found.1 found.2 hsend
            exact .inl ⟨⟨hread, .inl (resolve_read hfound)⟩, effects', _, hretry, heq, hrec⟩
        | error e' =>
          rw [hfound] at hfails
          obtain rfl := Option.some.inj hfails
          simp only
          rcases @failPrewarning_cases w effects c e' (noticeKey a c) none e'.recipient none with
            ⟨hnone, heq⟩ | ⟨old, effects', hold, heq, hrec⟩
          · refine .inr ⟨fun hdone => ?_, _, heq⟩
            rcases hdone.2 with hdevice | ⟨marker, hmarker⟩
            · exact resolve_failed hfound hretry hdevice
            · rw [hnone] at hmarker
              cases hmarker
          · exact .inl ⟨⟨hread, .inr ⟨old, hold⟩⟩, effects', _, hretry, heq, hrec⟩

end Writer

/-! ### The task -/

section Task

variable {svc : NoticeService} {m : Moment} {w : NoticeWorld} {s : NoticeState}
  {task : AutomationTask}
  {actionType : AlarmActionType} {now finishedAt : DateTime} {workerId : String}
  {e : NotificationError}

/-- The task waits for its next attempt. -/
def PutBack (task : AutomationTask) (tasks : List AutomationTask) : Prop :=
  ∃ t, byId tasks task.taskId = some t ∧ t.status = .pending ∧
    t.payload = { task.payload with retryAttempt := task.payload.attempts + 1 }

/-- The gates open, the execution is the writer's. -/
theorem noticeExecution_failed (htype : isPrewarningMessage actionType = true)
    (hgates : denied svc.executor m (noticeContext svc task actionType now) (some now)
      (task.noticeAction actionType) = none)
    {effects' : List PrewarningEffect} {context : ActionContext} {failure : NoticeFailure}
    (hhandle : handlePrewarningNotification svc.hasMarkers w s.effects
      (task.noticeAction actionType)
      (noticeContext svc task actionType now) = ⟨effects', context, some failure⟩) :
    noticeExecution svc m w s task actionType now =
      ⟨{ action := task.noticeAction actionType, mode := svc.executor.mode, status := .failed, error := some failure.text
         context, createdAt := some now }, true⟩ := by
  have hsame : denied svc.executor (m.withWriter svc.hasMarkers w s.effects)
      (noticeContext svc task actionType now)
      (some now) (task.noticeAction actionType) = none := hgates
  have hcall :
      (m.withWriter svc.hasMarkers w s.effects).handle (noticeContext svc task actionType now)
      (task.noticeAction actionType) = some (context, some failure.text) := by
    unfold Moment.handle Moment.withWriter
    have htype' : isPrewarningMessage (task.noticeAction actionType).actionType = true := htype
    simp only [htype', if_true, hhandle, Option.map_some]
  unfold noticeExecution executeOne
  simp only [hsame, hcall]

/-- A failure that the context does not call retryable ends the attempt without another. -/
theorem run_not_retryable (hids : (s.tasks.map (·.taskId)).Nodup) (htask : task ∈ s.tasks)
    (hrunning : task.status = .running)
    {x : Executed} (hx : noticeExecution svc m w s task actionType now = x)
    (hstatus : x.execution.status = .failed) (hretry : x.execution.context.retryable = false) :
    ¬PutBack task
      (runNotificationTask svc m w s task actionType now finishedAt workerId).tasks := by
  have hfound : byId s.tasks task.taskId = some task := byId_of_mem hids htask
  obtain ⟨after, raised, hexec, htasks⟩ : ∃ after raised,
      executeNotificationTask svc m w s task actionType now = (after, some raised) ∧
        after.tasks = s.tasks := by
    unfold executeNotificationTask
    simp only [hx, hstatus, hretry, Bool.false_and, Bool.false_eq_true, if_false, reduceCtorEq]
    exact ⟨_, _, rfl, rfl⟩
  rintro ⟨t, ht, hp, -⟩
  unfold runNotificationTask finishNotice at ht
  rw [hexec] at ht
  simp only [htasks, hfound, Option.any_some, hrunning, reduceCtorEq, decide_false, Bool.and_false,
      Bool.false_eq_true,
    if_false] at ht
  split at ht
  · rename_i tasks hfin
    unfold finishTask at hfin
    rw [hfound] at hfin
    simp only at hfin
    split_ifs at hfin
    obtain rfl := Except.ok.inj hfin
    have hend := byId_updateRow hids htask (finishRow_taskId (some raised) finishedAt)
    rw [hend] at ht
    rw [← Option.some.inj ht] at hp
    unfold finishRow at hp
    split_ifs at hp
    rw [hrunning] at hp
    cases hp
  · rw [htasks, hfound] at ht
    rw [← Option.some.inj ht, hrunning] at hp
    cases hp

/-- A failure that the context calls retryable puts the task back. -/
theorem run_retryable (hids : (s.tasks.map (·.taskId)).Nodup) (htask : task ∈ s.tasks)
    (hrunning : task.status = .running)
    (hworker : task.workerId.isSome = true)
    (hbelow : task.payload.attempts + 1 < max 1 svc.limits.maxRetries)
    {x : Executed} (hx : noticeExecution svc m w s task actionType now = x)
    (hstatus : x.execution.status = .failed) (hretry : x.execution.context.retryable = true) :
    PutBack task (runNotificationTask svc m w s task actionType now finishedAt workerId).tasks ∧
      (runNotificationTask svc m w s task actionType now finishedAt workerId).effects =
        noticeEffects svc m w s task actionType now := by
  have hown :
      (s.tasks.any fun t => t.taskId = task.taskId && t.status = .running && t.workerId.isSome &&
      t.workerId = task.workerId) = true := by
    rw [List.any_eq_true]
    exact ⟨task, htask, by simp [hrunning, hworker]⟩
  have hexec : ∃ due raised, executeNotificationTask svc m w s task actionType now =
      ({ s with effects := noticeEffects svc m w s task actionType now
                tasks := updateRow s.tasks task.taskId fun t =>
                  { t with status := .pending, dueAt := due, updatedAt := now
                           payload :=
                             { task.payload with retryAttempt := task.payload.attempts + 1 }
                           leaseUntil := none, workerId := none } }, some raised) := by
    unfold executeNotificationTask rescheduleRunning
    simp only [hx, hstatus, hretry, hbelow, hown, decide_true, Bool.and_self, if_true,
      reduceCtorEq, if_false]
    exact ⟨_, _, rfl⟩
  obtain ⟨due, raised, hexec⟩ := hexec
  have hback := byId_updateRow (f := fun t => { t with
    status := .pending, dueAt := due, updatedAt := now
    payload := { task.payload with retryAttempt := task.payload.attempts + 1 }, leaseUntil :=
      none, workerId := none })
    hids htask fun _ => rfl
  have hrun : runNotificationTask svc m w s task actionType now finishedAt workerId =
      (executeNotificationTask svc m w s task actionType now).1 := by
    unfold runNotificationTask finishNotice
    rw [hexec]
    simp only [hback, Option.any_some, decide_true, Option.isSome_some, Bool.and_self, if_true]
  rw [hrun, hexec]
  exact ⟨⟨_, hback, rfl, rfl⟩, rfl⟩

/-- **A failure that can be tried again is retried and recorded exactly when the reads were
done.** -/
theorem prewarning_retry_iff (htype : isPrewarningMessage actionType = true)
    -- the running task of the worker, below the last attempt
    (hids : (s.tasks.map (·.taskId)).Nodup) (htask : task ∈ s.tasks)
    (hrunning : task.status = .running)
    (hworker : task.workerId.isSome = true) (hplain : task.payload.retryable = false)
    (hbelow : task.payload.attempts + 1 < max 1 svc.limits.maxRetries)
    -- the message reaches the writer, and fails
    (hgates : denied svc.executor m (noticeContext svc task actionType now) (some now)
      (task.noticeAction actionType) = none)
    (hfails : deliveryFailure svc.hasMarkers w s.effects (task.noticeAction actionType)
      (noticeContext svc task actionType now) = some e) (hretry : e.retryable = true) :
    (PutBack task (runNotificationTask svc m w s task actionType now finishedAt workerId).tasks ∧
      Recorded (runNotificationTask svc m w s task actionType now finishedAt workerId).effects
        (noticeKey (task.noticeAction actionType) (noticeContext svc task actionType now)) e now) ↔
    ReadsDone w s.effects
      (noticeKey (task.noticeAction actionType) (noticeContext svc task actionType now)) := by
  rcases handlePrewarning_failed hfails hretry with ⟨hdone, effects', context, hcontext,
      hhandle, hrec⟩ |
    ⟨hnot, failure, hhandle⟩
  · refine iff_of_true ?_ hdone
    have hx := @noticeExecution_failed svc m w s task actionType now htype hgates _ _ _ hhandle
    obtain ⟨hback, heffects⟩ := @run_retryable svc m w s task actionType now finishedAt workerId
        hids htask hrunning
      hworker hbelow _ hx rfl hcontext
    refine ⟨hback, ?_⟩
    rw [heffects]
    unfold noticeEffects
    rw [hx, hhandle]
    exact hrec
  · refine iff_of_false (fun h => ?_) hnot
    have hx := @noticeExecution_failed svc m w s task actionType now htype hgates _ _ _ hhandle
    exact run_not_retryable hids htask hrunning hx rfl hplain h.1

end Task

/-! ### The device table is down -/

section Pilot

def pilotNotices : NoticeService := { executor := pilotExecutor }

/-- The claimed task of a prewarning. -/
def pilotNotice : AutomationTask where
  taskId := "t1"
  taskType := "NOTIFY_PREWARNING"
  entityType := "DEVICE"
  entityId := "TH-01"
  dueAt := .utc 0
  status := .running
  payload := { deviceId := some "TH-01" }
  dedupeKey := some "PREWARNING:TH-01:e1"
  createdAt := .utc 0
  updatedAt := .utc 0
  leaseUntil := some (.utc 300000000)
  workerId := some "scheduler"
  createdMode := some "active"
  activeEpoch := some "epoch-1"

def tableDown : NoticeWorld :=
  { recipient := .error "timeout", send := .returned none, clock := .utc 1000000 }

def tableDownError : NotificationError :=
  { text := "unable to resolve Feishu device owner: timeout", errorCode := "recipient_lookup_failed", retryable := true }

/-- On the first attempt the retry is lost. -/
theorem prewarning_retry_lost :
    deliveryFailure true tableDown [] (pilotNotice.noticeAction .notifyPrewarning)
        (noticeContext pilotNotices pilotNotice .notifyPrewarning (.utc 1000000)) =
          some tableDownError ∧
      pilotNotice.payload.attempts + 1 < max 1 pilotNotices.limits.maxRetries ∧
      (runNotificationTask pilotNotices pilotMoment tableDown { tasks := [pilotNotice] }
        pilotNotice .notifyPrewarning
        (.utc 1000000) (.utc 2000000) "scheduler").tasks.map (fun t => (t.status, t.lastError)) =
          [(.failed, some "'unknown prewarning effect: PREWARNING:TH-01:e1'")] := by
  decide +kernel

/-- An attempt before has left a marker. -/
def pilotMarkers : List PrewarningEffect :=
  markEffectPending [] "PREWARNING:TH-01:e1" "TH-01" "NOTIFY_PREWARNING" (.utc 0) []

theorem prewarning_retry_marked :
    PutBack pilotNotice (runNotificationTask pilotNotices pilotMoment tableDown
        { tasks := [pilotNotice], effects := pilotMarkers }
          pilotNotice .notifyPrewarning (.utc 1000000) (.utc 2000000)
        "scheduler").tasks ∧
      Recorded (runNotificationTask pilotNotices pilotMoment tableDown
          { tasks := [pilotNotice], effects := pilotMarkers }
        pilotNotice .notifyPrewarning (.utc 1000000) (.utc 2000000) "scheduler").effects
        (noticeKey (pilotNotice.noticeAction .notifyPrewarning)
          (noticeContext pilotNotices pilotNotice .notifyPrewarning (.utc 1000000)))
            tableDownError (.utc 1000000) := by
  have hkey : noticeKey (pilotNotice.noticeAction .notifyPrewarning)
      (noticeContext pilotNotices pilotNotice .notifyPrewarning (.utc 1000000)) =
        "PREWARNING:TH-01:e1" := by decide +kernel
  refine (@prewarning_retry_iff pilotNotices pilotMoment tableDown
      { tasks := [pilotNotice], effects := pilotMarkers }
    pilotNotice .notifyPrewarning (.utc 1000000) (.utc 2000000)
      "scheduler" tableDownError rfl (by decide) (by decide) rfl
    rfl rfl (by decide) (by decide +kernel) (by decide +kernel) rfl).mpr
      ⟨.inr ⟨false, rfl⟩, .inr ?_⟩
  rw [hkey]
  exact ⟨_, rfl⟩

end Pilot

end TemperatureMonitor
