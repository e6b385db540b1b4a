/-
# What a handled sample inserts and emits

The task operations of one sample are a run of the store, and each row it
inserts is a verification task, a reconciliation of the transition's event or
the task of a notification. Each notification it emits comes from one mapped
action, whose enrichment gave it the key it carries.
-/
import TemperatureMonitor.Service.LocalMove
import TemperatureMonitor.Service.World

namespace TemperatureMonitor

/-! ### The projection -/

/-- A verification task of the debounce windows. -/
def VerifyRow (t : AutomationTask) : Prop :=
  t.taskType = "VERIFY_ALARM" ∨ t.taskType = "VERIFY_RECOVERY"

section Project

variable {cfg : ServiceConfig} {i : SampleInput} {tr : StateTransition} {l l' : Local}
  {formal : List ApplicationAction}

theorem sameTasks_finishOrSkip (tasks : List AutomationTask) (taskId : String)
    (createdAt : DateTime) (schedulerTaskId : Option String) :
    SameTasks tasks (finishOrSkipTask tasks taskId createdAt schedulerTaskId) := by
  unfold finishOrSkipTask
  split_ifs
  · exact sameTasks_refl tasks
  · split
    · rename_i tasks' h
      exact sameTasks_cancel h
    · exact sameTasks_refl tasks

theorem projectFinish_tasks : SameTasks l.tasks (projectFinish i tr l).tasks := by
  unfold projectFinish
  split
  · exact sameTasks_finishOrSkip _ _ _ _
  · exact sameTasks_refl _

theorem leaveRecovery_tasks (as : List ApplicationAction) :
    SameTasks l.tasks (leaveRecovery i tr as l).tasks := by
  unfold leaveRecovery
  split
  · exact sameTasks_refl _
  · split_ifs
    · exact sameTasks_finishOrSkip _ _ _ _
    · exact sameTasks_refl _

@[simp] theorem leaveRecovery_events (as : List ApplicationAction) :
    (leaveRecovery i tr as l).events = l.events := by
  unfold leaveRecovery
  split
  · rfl
  · split_ifs <;> rfl

@[simp] theorem leaveRecovery_drawn (as : List ApplicationAction) :
    (leaveRecovery i tr as l).drawn = l.drawn := by
  unfold leaveRecovery
  split
  · rfl
  · split_ifs <;> rfl

theorem projectUpdate_tasks {a : ApplicationAction} (h : projectUpdate i tr a l = .ok l') :
    l'.tasks = l.tasks ∧ l'.drawn = l.drawn ∧ l'.next = l.next := by
  unfold projectUpdate at h
  split at h
  · cases h
    exact ⟨rfl, rfl, rfl⟩
  · split at h
    · cases h
      exact ⟨rfl, rfl, rfl⟩
    · split at h
      · cases h
      · cases h
        exact ⟨rfl, rfl, rfl⟩

theorem projectRecovered_tasks {a : ApplicationAction} (h : projectRecovered i tr a l = .ok l') :
    l'.tasks = l.tasks ∧ l'.drawn = l.drawn ∧ l'.next = l.next := by
  unfold projectRecovered at h
  split at h
  · cases h
    exact ⟨rfl, rfl, rfl⟩
  · simp only at h
    split at h
    · cases h
    · split at h
      · cases h
      · cases h
        exact ⟨rfl, rfl, rfl⟩

theorem projectCreate_tasks (h : projectCreate cfg i l = .ok l') :
    l'.tasks = l.tasks ∧ l'.drawn = l.drawn + 1 := by
  unfold projectCreate at h
  split at h
  · cases h
  · simp only at h
    split_ifs at h
    · split at h
      · cases h
      · cases h
        exact ⟨rfl, rfl⟩
    · cases h
      exact ⟨rfl, rfl⟩

/-- A row with a key of its type. -/
theorem keyed_row {spec : TaskSpec} (a : RuntimeActivation) (newId : String) (rest : String)
    (hplain : ':' ∉ spec.taskType.toList)
    (hk : spec.dedupeKey = some (spec.taskType ++ ":" ++ rest)) : (spec.row a newId).Keyed :=
  ⟨hplain, fun _ he => ⟨rest, Option.some.inj (he.symm.trans hk)⟩⟩

theorem verifyAlarmKey_eq (deviceId : String) (start : DateTime) :
    verifyAlarmKey deviceId start = "VERIFY_ALARM" ++ ":" ++ (deviceId ++ ":" ++ start.isoformat) :=
  literal_key "VERIFY_ALARM:" (by decide) (by
    unfold verifyAlarmKey
    simp only [String.append_assoc])

theorem verifyRecoveryKey_eq (deviceId alarmId : String) (start : DateTime) :
    verifyRecoveryKey deviceId alarmId start =
      "VERIFY_RECOVERY" ++ ":" ++ (deviceId ++ ":" ++ alarmId ++ ":" ++ start.isoformat) :=
  literal_key "VERIFY_RECOVERY:" (by decide) (by
    unfold verifyRecoveryKey
    simp only [String.append_assoc])

theorem verifyAlarm_keyed (newId : String) :
    ((scheduleSpec i (verifyAction cfg i tr)).row i.activation newId).Keyed :=
  keyed_row _ _ _ (by show ':' ∉ "VERIFY_ALARM".toList; decide)
    (congrArg some (verifyAlarmKey_eq tr.previous.deviceId i.now))

theorem verifyRecovery_keyed (next : AlarmState) (newId : String) :
    ((recoverySpec cfg i next).row i.activation newId).Keyed :=
  keyed_row _ _ _ (by show ':' ∉ "VERIFY_RECOVERY".toList; decide)
    (congrArg some (verifyRecoveryKey_eq i.deviceId (next.activeAlarmId.getD "unknown")
      (next.recoveryStartedAt.getD i.now)))

/-- The projection is a run that inserts verification tasks only. -/
theorem LocalMove.tasksRun (hinj : Function.Injective cfg.uuid)
    (hs : TaskStore.Sound cfg.uuid ⟨l.tasks, l.drawn⟩) (h : LocalMove cfg i tr l formal l') :
    TasksRun cfg.uuid VerifyRow ⟨l.tasks, l.drawn⟩ ⟨l'.tasks, l'.drawn⟩ := by
  cases h with
  | quiet => exact .refl
  | started =>
    exact (createOrGet_run hs hinj i.activation (scheduleSpec i (verifyAction cfg i tr)) rfl
      (verifyAlarm_keyed _) (.inl rfl)).1
  | dropped => exact .rows .refl projectFinish_tasks
  | verified _ _ hcreate =>
    obtain ⟨h1, h2⟩ := projectCreate_tasks hcreate
    rw [h1, h2]
    exact .drew (.rows .refl projectFinish_tasks)
  | active _ _ hupdate =>
    obtain ⟨h1, h2, -⟩ := projectUpdate_tasks hupdate
    rw [h1, h2]
    exact .refl
  | returned _ _ hupdate =>
    obtain ⟨h1, h2, -⟩ := projectUpdate_tasks hupdate
    rw [h1, h2, leaveRecovery_drawn]
    exact .rows .refl (leaveRecovery_tasks _)
  | recovering =>
    unfold scheduleRecoveryTask
    split_ifs
    · exact .refl
    · exact (createOrGet_run hs hinj i.activation (recoverySpec cfg i l.next) rfl
        (verifyRecovery_keyed l.next _) (.inr rfl)).1
  | recovered _ _ hmark =>
    obtain ⟨h1, h2, -⟩ := projectRecovered_tasks hmark
    rw [h1, h2, leaveRecovery_drawn]
    exact .rows .refl (leaveRecovery_tasks _)

/-- The projection names the event and the task, and changes nothing else of the state. -/
def Renames (a b : AlarmState) : Prop :=
  ∃ alarmId taskId, b = { a with activeAlarmId := alarmId, pendingTaskId := taskId }

theorem Renames.refl (a : AlarmState) : Renames a a := ⟨a.activeAlarmId, a.pendingTaskId, rfl⟩

theorem projectCreate_renames (h : projectCreate cfg i l = .ok l') : Renames l.next l'.next := by
  unfold projectCreate at h
  split at h
  · cases h
  · simp only at h
    split_ifs at h
    · split at h
      · cases h
      · cases h
        exact ⟨_, _, rfl⟩
    · cases h
      exact ⟨_, _, rfl⟩

theorem leaveRecovery_renames (as : List ApplicationAction) :
    Renames l.next (leaveRecovery i tr as l).next := by
  unfold leaveRecovery
  split
  · exact .refl _
  · split_ifs
    · exact ⟨_, _, rfl⟩
    · exact .refl _

/-- Where no task is pending, leaving a recovery leaves the state. -/
theorem leaveRecovery_idle (as : List ApplicationAction) (h : l.next.pendingTaskId = none) :
    (leaveRecovery i tr as l).next = l.next := by
  unfold leaveRecovery
  split
  · rfl
  · split_ifs
    · show { l.next with pendingTaskId := none } = l.next
      rw [← h]
    · rfl

theorem LocalMove.renames (h : LocalMove cfg i tr l formal l') : Renames l.next l'.next := by
  cases h with
  | quiet => exact .refl _
  | started => exact ⟨_, _, rfl⟩
  | dropped => exact ⟨_, _, rfl⟩
  | verified _ _ hcreate =>
    obtain ⟨alarmId, taskId, hnext⟩ := projectCreate_renames hcreate
    exact ⟨alarmId, taskId, hnext⟩
  | active _ _ hupdate =>
    rw [(projectUpdate_tasks hupdate).2.2]
    exact .refl _
  | returned _ _ hupdate =>
    rw [(projectUpdate_tasks hupdate).2.2]
    exact leaveRecovery_renames _
  | recovering =>
    unfold scheduleRecoveryTask
    split_ifs
    · exact .refl _
    · exact ⟨_, _, rfl⟩
  | recovered _ _ hmark =>
    rw [(projectRecovered_tasks hmark).2.2]
    exact leaveRecovery_renames _

/-- The projection touches no part of the advisory. -/
structure SameAdvisory (a b : AlarmState) : Prop where
  prewarningActive : b.prewarningActive = a.prewarningActive
  prewarningStartedAt : b.prewarningStartedAt = a.prewarningStartedAt
  prewarningEpisodeId : b.prewarningEpisodeId = a.prewarningEpisodeId
  prewarningReasons : b.prewarningReasons = a.prewarningReasons
  prewarningDetails : b.prewarningDetails = a.prewarningDetails

theorem LocalMove.advisory (h : LocalMove cfg i tr l formal l') : SameAdvisory l.next l'.next := by
  obtain ⟨alarmId, taskId, hnext⟩ := h.renames
  rw [hnext]
  exact ⟨rfl, rfl, rfl, rfl, rfl⟩

/-- What the projection keeps of the lifecycle: it names the event and the task. -/
structure SameWindow (a b : AlarmState) : Prop where
  deviceId : b.deviceId = a.deviceId
  state : b.state = a.state
  violationStartedAt : b.violationStartedAt = a.violationStartedAt
  alarmStartedAt : b.alarmStartedAt = a.alarmStartedAt
  recoveryStartedAt : b.recoveryStartedAt = a.recoveryStartedAt

theorem LocalMove.window (h : LocalMove cfg i tr l formal l') : SameWindow l.next l'.next := by
  obtain ⟨alarmId, taskId, hnext⟩ := h.renames
  rw [hnext]
  exact ⟨rfl, rfl, rfl, rfl, rfl⟩

end Project

/-! ### Enrichment and attachment -/

section Enrich

variable {digest : UpdateMaterial → String} {tr : StateTransition} {f : SampleFacts}
  {a a' : ApplicationAction} {as as' : List ApplicationAction}

theorem enrichActions_forall₂ (h : enrichActions digest tr f as = .ok as') :
    List.Forall₂ (fun a a' => enrichAction digest tr f a = .ok a') as as' := by
  induction as generalizing as' with
  | nil =>
    cases h
    exact .nil
  | cons a as ih =>
    simp only [enrichActions] at h
    split at h
    · cases h
    · rename_i enriched he
      split at h
      · cases h
      · rename_i others ho
        cases h
        exact .cons he (ih ho)

theorem enrichPrewarning_type : (enrichPrewarning tr f a).actionType = a.actionType ∧
    (enrichPrewarning tr f a).kind = a.kind := by
  unfold enrichPrewarning
  split <;> exact ⟨rfl, rfl⟩

theorem enrichNotification_type (alarmId : Option String) :
    (enrichNotification tr f alarmId a).actionType = a.actionType ∧
      (enrichNotification tr f alarmId a).kind = a.kind := by
  unfold enrichNotification
  split
  · exact ⟨rfl, rfl⟩
  · exact ⟨rfl, rfl⟩
  · exact enrichPrewarning_type
  · exact enrichPrewarning_type
  · exact ⟨rfl, rfl⟩

/-- Enrichment changes no action's type. -/
theorem enrichAction_type (h : enrichAction digest tr f a = .ok a') :
    a'.actionType = a.actionType ∧ a'.kind = a.kind := by
  unfold enrichAction at h
  simp only at h
  split at h
  · split_ifs at h
    · split at h
      · cases h
      · cases h
        exact enrichNotification_type _
    · cases h
      exact enrichNotification_type _
  · cases h
    exact enrichNotification_type _

/-- A message is enriched by its own branch and given its event. -/
theorem enrichAction_notification
    (hn : isEventAction a.actionType = false ∧ a.actionType ≠ .startRecovery)
    (h : enrichAction digest tr f a = .ok a') :
    a'.dedupeKey = (enrichNotification tr f (actionAlarmId tr a) a).dedupeKey ∧
      a'.payload = (enrichNotification tr f (actionAlarmId tr a) a).payload ∧
      a'.alarmId = actionAlarmId tr a := by
  unfold enrichAction at h
  simp only at h
  split at h
  · rename_i id hid
    rw [if_neg (by simp [hn.1, hn.2])] at h
    cases h
    exact ⟨rfl, rfl, rfl⟩
  · rename_i hid
    cases h
    exact ⟨rfl, rfl, rfl⟩

theorem attachIds_forall₂ (takes : ApplicationAction → Bool)
    (give : String → ApplicationAction → ApplicationAction) :
    ∀ (as : List ApplicationAction) (ids : List String),
      List.Forall₂ (fun a a' => a' = a ∨ takes a = true ∧ ∃ id, a' = give id a) as
        (attachIds takes give as ids)
  | [], ids => by
    unfold attachIds
    exact .nil
  | a :: as, [] => by
    unfold attachIds
    exact List.forall₂_same.mpr fun _ _ => .inl rfl
  | a :: as, id :: ids => by
    unfold attachIds
    split_ifs with ht
    · exact .cons (.inr ⟨ht, id, rfl⟩) (attachIds_forall₂ takes give as ids)
    · exact .cons (.inl rfl) (attachIds_forall₂ takes give as (id :: ids))

end Enrich

end TemperatureMonitor
