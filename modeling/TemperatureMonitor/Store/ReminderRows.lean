/-
# What a call keeps of a reminder task

A call of the queue leaves the reminder a row of the overdue type stands for:
its device, its record and its sequence (`QueueOp.reminders`). No call makes a
finished row unfinished. A call that creates or adopts is a chain of small
writes, so a relation that holds across each of them holds across the call
(`TaskRelation`, `createOrGetUnfinished_rows`).
-/
import TemperatureMonitor.Store.QueueRows

namespace TemperatureMonitor

/-! ### Small writes -/

/-- A relation between a row and itself after some of the writes of
`create_or_get_unfinished`. -/
structure TaskRelation (R : AutomationTask → AutomationTask → Prop) : Prop where
  refl : ∀ t, R t t
  trans : ∀ {a b c}, R a b → R b c → R a c
  rekeyed : ∀ t k, R t { t with dedupeKey := k }
  moved : ∀ t dueAt updatedAt, R t { t with dueAt := dueAt, updatedAt := updatedAt }
  cancelled : ∀ t at_, R t (cancelRow at_ t)
  refreshed : ∀ t payload updatedAt, t.taskType = "SHADOW_COMPARE" →
    R t { t with payload := payload, updatedAt := updatedAt }

section Writes

variable {R : AutomationTask → AutomationTask → Prop} {tasks tasks' : List AutomationTask}
  {spec : TaskSpec}
  {key taskId : String} {winner : AutomationTask}

theorem TaskRelation.same (hR : TaskRelation R) (tasks : List AutomationTask) :
    List.Forall₂ R tasks tasks :=
  List.forall₂_same.mpr fun t _ => hR.refl t

theorem TaskRelation.chain (hR : TaskRelation R) {rows : List AutomationTask}
    (h : List.Forall₂ R tasks rows)
    (h' : List.Forall₂ R rows tasks') : List.Forall₂ R tasks tasks' :=
  forall₂_trans (R := R) (fun _ _ _ => hR.trans) h h'

theorem TaskRelation.setDedupeKey (hR : TaskRelation R)
    (h : setDedupeKey tasks taskId key = .ok tasks') : List.Forall₂ R tasks tasks' := by
  unfold TemperatureMonitor.setDedupeKey at h
  split_ifs at h
  cases h
  exact forall₂_updateRow hR.refl fun t _ _ => hR.rekeyed t _

theorem TaskRelation.release (hR : TaskRelation R) {winnerId : Option String}
    (h : releaseDedupeKey tasks key winnerId = .ok tasks') : List.Forall₂ R tasks tasks' := by
  unfold releaseDedupeKey at h
  split at h
  · cases h
    exact hR.same _
  · split_ifs at h
    · cases h
      exact hR.same _
    · exact hR.setDedupeKey h

theorem TaskRelation.takeKey (hR : TaskRelation R) (h : takeKey tasks key winner = .ok tasks') :
    List.Forall₂ R tasks tasks' := by
  unfold TemperatureMonitor.takeKey at h
  split at h
  · cases h
  · rename_i released hreleased
    have hrel := hR.release hreleased
    split_ifs at h
    · cases h
      exact hrel
    · exact hR.chain hrel (hR.setDedupeKey h)

theorem TaskRelation.adoptWinner (hR : TaskRelation R)
    (htype : spec.taskType = "SHADOW_COMPARE" → ∀ t ∈ tasks, t.taskId = winner.taskId →
      t.taskType = "SHADOW_COMPARE")
    (h : adoptWinner tasks spec key winner = .ok tasks') : List.Forall₂ R tasks tasks' := by
  unfold TemperatureMonitor.adoptWinner at h
  obtain ⟨keyed, hkeyed, rfl⟩ := map_ok h
  have hrefreshed : List.Forall₂ R tasks (refreshWinner tasks spec winner) := by
    unfold refreshWinner
    split_ifs with hshadow
    · exact forall₂_updateRow hR.refl fun t ht hid => hR.refreshed t _ _ (htype hshadow.1 t ht hid)
    · exact hR.same _
  have hmoved : List.Forall₂ R keyed (moveEarlier keyed spec winner) := by
    unfold moveEarlier
    split_ifs
    · refine forall₂_updateRow hR.refl fun t _ _ => ?_
      split_ifs
      · exact hR.moved t _ _
      · exact hR.refl t
    · exact hR.same _
  exact hR.chain (hR.chain hrefreshed (hR.takeKey hkeyed)) hmoved

theorem TaskRelation.cancelDuplicates (hR : TaskRelation R) (at_ : DateTime)
    (others : List AutomationTask) : List.Forall₂ R tasks (cancelDuplicates tasks at_ others) := by
  rw [TemperatureMonitor.cancelDuplicates, List.forall₂_map_right_iff]
  refine List.forall₂_same.mpr fun t _ => ?_
  split_ifs
  · exact hR.cancelled t at_
  · exact hR.refl t

/-- A call that creates or adopts relates the rows, and inserts at most one: only
where no unfinished row has the identity. -/
theorem createOrGetUnfinished_rows (hR : TaskRelation R) (hn : (tasks.map (·.taskId)).Nodup)
    {a : RuntimeActivation} {newId : String} {task : AutomationTask}
    (h : createOrGetUnfinished tasks a newId spec key = .ok (tasks', task)) :
    ∃ rows new, tasks' = rows ++ new ∧ List.Forall₂ R tasks rows ∧
      (new = [] ∨ new = [{ spec with dedupeKey := some key }.row a newId] ∧
        activeRows tasks spec key = []) := by
  unfold createOrGetUnfinished at h
  iterate 3
    split at h
    · cases h
  split at h
  · rename_i hnone
    split at h
    · cases h
    rename_i released hreleased
    cases h
    exact ⟨released, _, rfl, hR.release hreleased, .inr ⟨rfl, hnone⟩⟩
  · rename_i winner others hactive
    have hcancelled : List.Forall₂ R tasks (cancelDuplicates tasks spec.createdAt others) :=
      hR.cancelDuplicates spec.createdAt others
    have hwin :=
      mem_activeRows.mp (hactive ▸ List.mem_cons_self : winner ∈ activeRows tasks spec key)
    have hshadow : spec.taskType = "SHADOW_COMPARE" →
        ∀ t ∈ cancelDuplicates tasks spec.createdAt others, t.taskId = winner.taskId →
          t.taskType = "SHADOW_COMPARE" := by
      intro hspec t ht hid
      obtain ⟨u, hu, rfl⟩ := List.mem_map.mp ht
      have hsame : u.taskId = winner.taskId → u.taskType = "SHADOW_COMPARE" := by
        intro huid
        obtain rfl := eq_of_taskId hn hu hwin.1 huid
        have hident := hwin.2.2
        unfold sameIdentity at hident
        simp only [decide_eq_true_eq] at hident
        exact hident.1.trans hspec
      split_ifs at hid ⊢
      · exact hsame hid
      · exact hsame hid
    dsimp only at h
    generalize hok : (if spec.taskType = "RECONCILE_ALARM_EVENT" then
        Except.ok (TemperatureMonitor.cancelDuplicates tasks spec.createdAt others)
      else TemperatureMonitor.adoptWinner
          (TemperatureMonitor.cancelDuplicates tasks spec.createdAt others) spec key
        winner) = result at h
    cases result with
    | error e => cases h
    | ok final =>
      have hrows : List.Forall₂ R tasks final := by
        split_ifs at hok
        · cases hok
          exact hcancelled
        · exact hR.chain hcancelled (hR.adoptWinner hshadow hok)
      dsimp only at h
      split at h
      · cases h
        exact ⟨_, [], (List.append_nil _).symm, hrows, .inl rfl⟩
      · cases h

end Writes

/-! ### Reminders -/

def overdueType : String := "NOTIFY_OPERATION_OVERDUE"

/-- What a reminder task stands for, and whether it may still run. -/
structure SameReminder (t t' : AutomationTask) : Prop where
  taskId : t'.taskId = t.taskId
  taskType : t'.taskType = t.taskType
  entityId : t'.entityId = t.entityId
  payload : t.taskType = overdueType → t'.payload.sourceRecordId = t.payload.sourceRecordId ∧
    t'.payload.reminderSequence = t.payload.reminderSequence
  unfinished : t'.unfinished = true → t.unfinished = true

theorem SameReminder.refl (t : AutomationTask) : SameReminder t t :=
  ⟨rfl, rfl, rfl, fun _ => ⟨rfl, rfl⟩, id⟩

/-- A write that leaves the payload. -/
theorem SameReminder.ofPayload {t t' : AutomationTask} (hid : t'.taskId = t.taskId)
    (htype : t'.taskType = t.taskType)
    (hent : t'.entityId = t.entityId) (hpay : t'.payload = t.payload)
    (hunf : t'.unfinished = true → t.unfinished = true) : SameReminder t t' :=
  ⟨hid, htype, hent, fun _ => by rw [hpay]; exact ⟨rfl, rfl⟩, hunf⟩

theorem SameReminder.trans {a b c : AutomationTask} (h : SameReminder a b) (h' : SameReminder b c) :
    SameReminder a c where
  taskId := h'.taskId.trans h.taskId
  taskType := h'.taskType.trans h.taskType
  entityId := h'.entityId.trans h.entityId
  payload := fun ha => by
    have hb := h'.payload (h.taskType.trans ha)
    exact ⟨hb.1.trans (h.payload ha).1, hb.2.trans (h.payload ha).2⟩
  unfinished := fun hc => h.unfinished (h'.unfinished hc)

theorem sameReminder_relation : TaskRelation SameReminder where
  refl := .refl
  trans := SameReminder.trans
  rekeyed := fun _ _ => .ofPayload rfl rfl rfl rfl id
  moved := fun _ _ _ => .ofPayload rfl rfl rfl rfl id
  cancelled := fun t at_ => .ofPayload rfl rfl rfl rfl fun h => by
    simp [AutomationTask.unfinished, cancelRow] at h
  refreshed := fun t payload updatedAt hshadow =>
    ⟨rfl, rfl, rfl, fun hover => by rw [hshadow] at hover; exact absurd hover (by decide), id⟩

section Calls

variable {db db' : TaskDb} {op : QueueOp} {out : List AutomationTask}

theorem quarantineRow_reminder (now : DateTime) (reason : String) (t : AutomationTask) :
    SameReminder t (quarantineRow now reason t) := by
  unfold quarantineRow
  split_ifs
  · exact .ofPayload rfl rfl rfl rfl fun h => by simp [AutomationTask.unfinished] at h
  · exact .refl t

theorem quarantine_reminders (db : TaskDb) (now : DateTime) (activeEpoch : Option String) :
    List.Forall₂ SameReminder db.tasks
      (quarantineLegacyExternalTasks db now activeEpoch).tasks := by
  refine (quarantine_rows db now activeEpoch).imp fun t t' ht => ?_
  rcases ht with rfl | ⟨-, -, reason, rfl⟩
  · exact .refl _
  · exact quarantineRow_reminder now reason t

theorem claimRow_reminder {t : AutomationTask} (workerId : String) {now : DateTime}
    (leaseUntil : DateTime)
    (h : claimable now t = true) : SameReminder t (claimRow workerId now leaseUntil t) := by
  have hunf : t.unfinished = true := by
    unfold claimable at h
    rw [unfinished_iff]
    simp only [Bool.decide_or, Bool.or_eq_true, decide_eq_true_eq] at h
    exact h.imp And.left And.left
  unfold claimRow
  split_ifs
  · exact .ofPayload rfl rfl rfl rfl fun _ => hunf
  · exact .refl t

theorem claimTransaction_reminders {tasks : List AutomationTask} (hn : (tasks.map (·.taskId)).Nodup)
    (c : ClaimCall) : List.Forall₂ SameReminder tasks (claimTransaction tasks c).1 ∧
      ∀ t' ∈ (claimTransaction tasks c).2, ∃ t ∈ tasks, t.unfinished = true ∧
        SameReminder t t' := by
  have hrows := claimTransaction_rows (c := c) hn
  refine ⟨hrows.imp fun t t' ht => ?_, fun t' ht' => ?_⟩
  · rcases ht with ⟨hc, -, rfl⟩ | ⟨rfl, -⟩
    · exact claimRow_reminder _ _ hc
    · exact .refl _
  · obtain ⟨id, -, hfound⟩ := List.mem_filterMap.mp ht'
    obtain ⟨t, ht, hrow⟩ := forall₂_mem_right hrows (byId_mem hfound).1
    rcases hrow with ⟨hc, -, rfl⟩ | ⟨rfl, hno⟩
    · have hunf : t.unfinished = true := by
        have hc' := hc
        unfold claimable at hc'
        rw [unfinished_iff]
        simp only [Bool.decide_or, Bool.or_eq_true, decide_eq_true_eq] at hc'
        exact hc'.imp And.left And.left
      exact ⟨t, ht, hunf, claimRow_reminder _ _ hc⟩
    · exact absurd rfl (hno _ ht')

/-- The call neither creates a reminder nor reschedules one. -/
def QueueOp.LeavesReminders (db : TaskDb) : QueueOp → Prop
  | createOrGet newId spec => spec.taskType ≠ overdueType ∧ ∀ t ∈ db.tasks, t.taskId ≠ newId
  | createOrGetUnfinished newId spec _ =>
    spec.taskType ≠ overdueType ∧ ∀ t ∈ db.tasks, t.taskId ≠ newId
  | reschedule task _ _ _ => ∀ t ∈ db.tasks, t.taskId = task.taskId → t.taskType ≠ overdueType
  | _ => True

instance decidableLeavesReminders (db : TaskDb) (op : QueueOp) :
    Decidable (op.LeavesReminders db) := by
  unfold QueueOp.LeavesReminders
  split <;> infer_instance

/-- The rows stand for the reminders they stood for, the new ones for none, and
what is returned for a row that was unfinished. -/
structure ReminderFrame (tasks tasks' out : List AutomationTask) : Prop where
  ids : (tasks'.map (·.taskId)).Nodup
  kept : ∀ t ∈ tasks, ∃ t' ∈ tasks', SameReminder t t'
  rows : ∀ t' ∈ tasks', t'.taskType = overdueType → ∃ t ∈ tasks, SameReminder t t'
  out : ∀ t' ∈ out, ∃ t ∈ tasks, t.unfinished = true ∧ SameReminder t t'

theorem ReminderFrame.ofRows {tasks tasks' : List AutomationTask}
    (hn : (tasks.map (·.taskId)).Nodup) (h : List.Forall₂ SameReminder tasks tasks')
    (hout : ∀ t' ∈ out, ∃ t ∈ tasks, t.unfinished = true ∧ SameReminder t t') :
    ReminderFrame tasks tasks' out where
  ids := by
    rw [forall₂_ids (fun _ _ ht => ht.taskId) h]
    exact hn
  kept := fun t ht => forall₂_mem_left h ht
  rows := fun t' ht' _ => forall₂_mem_right h ht'
  out := hout

theorem ReminderFrame.ofInsert {tasks rows : List AutomationTask} {row : AutomationTask}
    (hn : (tasks.map (·.taskId)).Nodup) (h : List.Forall₂ SameReminder tasks rows)
    (htype : row.taskType ≠ overdueType)
    (hfresh : ∀ t ∈ tasks, t.taskId ≠ row.taskId) : ReminderFrame tasks (rows ++ [row]) [] where
  ids := by
    rw [List.map_append, forall₂_ids (fun _ _ ht => ht.taskId) h]
    refine List.nodup_append.mpr ⟨hn, List.nodup_singleton _, fun id hid id' hid' => ?_⟩
    obtain ⟨t, ht, rfl⟩ := List.mem_map.mp hid
    rw [List.mem_singleton.mp hid']
    exact hfresh t ht
  kept := fun t ht => by
    obtain ⟨t', ht', hs⟩ := forall₂_mem_left h ht
    exact ⟨t', List.mem_append_left _ ht', hs⟩
  rows := fun t' ht' hover => by
    rcases List.mem_append.mp ht' with ht' | ht'
    · exact forall₂_mem_right h ht'
    · rw [List.mem_singleton.mp ht'] at hover
      exact absurd hover htype
  out := fun t' ht' => absurd ht' List.not_mem_nil

theorem ReminderFrame.refl {tasks : List AutomationTask} (hn : (tasks.map (·.taskId)).Nodup) :
    ReminderFrame tasks tasks [] :=
  .ofRows hn (sameReminder_relation.same tasks) fun _ h => absurd h List.not_mem_nil

theorem claimDue_reminders (hn : (db.tasks.map (·.taskId)).Nodup) {c : ClaimCall}
    (h : claimDue db c = .ok (db', out)) : ReminderFrame db.tasks db'.tasks out := by
  unfold claimDue at h
  split at h
  · cases h
  cases h
  have hheld := quarantine_reminders db c.now none
  have hn' : ((quarantineLegacyExternalTasks db c.now none).tasks.map (·.taskId)).Nodup := by
    rw [forall₂_ids (fun _ _ ht => ht.taskId) hheld]
    exact hn
  obtain ⟨hrows, hclaimed⟩ := claimTransaction_reminders hn' c
  refine .ofRows hn (sameReminder_relation.chain hheld hrows) fun t' ht' => ?_
  obtain ⟨u, hu, hunf, hsame⟩ := hclaimed t' ht'
  obtain ⟨t, ht, hheldt⟩ := forall₂_mem_right hheld hu
  exact ⟨t, ht, hheldt.unfinished hunf, hheldt.trans hsame⟩

theorem requeueRow_reminder {t : AutomationTask} {now staleCutoff : DateTime}
    (h : isRecoverable now staleCutoff t = true) : SameReminder t (requeueRow now t) := by
  refine .ofPayload rfl rfl rfl rfl fun _ => ?_
  rw [unfinished_iff]
  unfold isRecoverable at h
  simp only [Bool.or_eq_true, Bool.and_eq_true, decide_eq_true_eq] at h
  rcases h with h | h
  · exact .inr h.1
  · exact .inl h.1

theorem finishTask_reminders {tasks tasks' : List AutomationTask} {taskId : String}
    {error : Option String} {finishedAt : DateTime} {workerId : Option String}
    (h : finishTask tasks taskId error finishedAt workerId = .ok tasks') :
    List.Forall₂ SameReminder tasks tasks' := by
  unfold finishTask at h
  split at h
  · cases h
  split_ifs at h
  cases h
  refine forall₂_updateRow .refl fun t _ _ => ?_
  by_cases hrun : t.status = .running ∧ ¬ (t.leaseUntil.any fun l => l.instant ≤ finishedAt.instant)
  · rw [finishRow, if_pos hrun]
    exact .ofPayload rfl rfl rfl rfl fun _ => unfinished_iff.mpr (.inr hrun.1)
  · rw [finishRow, if_neg hrun]
    exact .refl t

theorem cancelTask_reminders {tasks tasks' : List AutomationTask} {taskId : String}
    {updatedAt : DateTime}
    (h : cancelTask tasks taskId updatedAt = .ok tasks') :
    List.Forall₂ SameReminder tasks tasks' := by
  unfold cancelTask at h
  split at h
  · cases h
  split_ifs at h
  cases h
  exact forall₂_updateRow .refl fun t _ _ => sameReminder_relation.cancelled t updatedAt

/-- A rescheduled row goes on as it is, with another payload. -/
theorem rescheduleRunning_reminders {tasks tasks' : List AutomationTask} {task : AutomationTask}
    {dueAt updatedAt : DateTime} {payload : TaskPayload} (hn : (tasks.map (·.taskId)).Nodup)
    (hpay : ∀ t ∈ tasks, t.taskId = task.taskId → t.taskType = overdueType →
      payload.sourceRecordId = t.payload.sourceRecordId ∧
        payload.reminderSequence = t.payload.reminderSequence)
    (h : rescheduleRunning tasks task dueAt updatedAt payload = .ok tasks') :
    List.Forall₂ SameReminder tasks tasks' := by
  unfold rescheduleRunning at h
  split_ifs at h with hany
  cases h
  obtain ⟨u, hu, hrow⟩ := List.any_eq_true.mp hany
  simp only [Bool.and_eq_true, decide_eq_true_eq] at hrow
  refine forall₂_updateRow .refl fun t ht hid => ⟨rfl, rfl, rfl, hpay t ht hid, fun _ => ?_⟩
  obtain rfl := eq_of_taskId hn ht hu (hid.trans hrow.1.1.1.symm)
  exact unfinished_iff.mpr (.inr hrow.1.1.2)

/-- **Every call** that leaves reminders alone keeps what each row stands for. -/
theorem QueueOp.reminders (hn : (db.tasks.map (·.taskId)).Nodup) (hop : op.LeavesReminders db)
    (h : op.apply db = .ok (db', out)) : ReminderFrame db.tasks db'.tasks out := by
  have hnone : ∀ t' ∈ ([] : List AutomationTask), ∃ t ∈ db.tasks, t.unfinished = true ∧
      SameReminder t t' :=
    fun _ ht => absurd ht List.not_mem_nil
  cases op with
  | setRuntimeContext mode now activeEpoch uuid =>
    obtain ⟨d, hd, he⟩ := map_ok h
    cases he
    unfold TemperatureMonitor.setRuntimeContext at hd
    dsimp only at hd
    split at hd
    · cases hd
      exact .refl hn
    · cases hd
  | createOrGet newId spec =>
    cases h
    unfold TemperatureMonitor.createOrGet
    dsimp only
    split
    · exact .refl hn
    · exact .ofInsert hn (sameReminder_relation.same _) hop.1 hop.2
  | createOrGetUnfinished newId spec key =>
    obtain ⟨⟨tasks', task⟩, hr, he⟩ := map_ok h
    cases he
    obtain ⟨rows, new, rfl, hrows, hnew⟩ := createOrGetUnfinished_rows sameReminder_relation hn hr
    rcases hnew with rfl | ⟨rfl, -⟩
    · rw [List.append_nil]
      exact .ofRows hn hrows hnone
    · exact .ofInsert hn hrows hop.1 hop.2
  | quarantine now activeEpoch =>
    cases h
    exact .ofRows hn (quarantine_reminders db now activeEpoch) hnone
  | recoverStale now staleAfter =>
    obtain ⟨tasks, hr, he⟩ := map_ok h
    cases he
    unfold recoverStaleTasks at hr
    split_ifs at hr
    cases hr
    refine .ofRows hn ?_ hnone
    rw [List.forall₂_map_right_iff]
    refine List.forall₂_same.mpr fun t _ => ?_
    split_ifs with hrec
    · exact requeueRow_reminder hrec
    · exact .refl t
  | claimDue c => exact claimDue_reminders hn h
  | claimTransaction c =>
    obtain ⟨-, -, he⟩ := map_ok h
    cases he
    obtain ⟨hrows, hclaimed⟩ := claimTransaction_reminders hn c
    exact .ofRows hn hrows hclaimed
  | finish taskId error finishedAt workerId =>
    obtain ⟨tasks, hr, he⟩ := map_ok h
    cases he
    exact .ofRows hn (finishTask_reminders hr) hnone
  | reschedule task dueAt updatedAt payload =>
    obtain ⟨tasks, hr, he⟩ := map_ok h
    cases he
    refine .ofRows hn (rescheduleRunning_reminders hn (fun t ht hid hover => ?_) hr) hnone
    exact absurd hover (hop t ht hid)
  | cancel taskId updatedAt =>
    obtain ⟨tasks, hr, he⟩ := map_ok h
    cases he
    exact .ofRows hn (cancelTask_reminders hr) hnone

end Calls

end TemperatureMonitor
