/-
# What a call does to a row

Each call of the queue moves each row of the table by one of the moves of
`RowMove`, and inserts at most one row (`QueueOp.rows`). No move changes a
row's origin: its id, its type, and the mode, the epoch and the time it was
created in.
-/
import TemperatureMonitor.Library.Lease
import TemperatureMonitor.Store.Queue

namespace TemperatureMonitor

theorem map_ok {ε α β : Type*} {x : Except ε α} {f : α → β} {b : β} (h : x.map f = .ok b) :
    ∃ a, x = .ok a ∧ f a = b := by
  cases x with
  | error e => cases h
  | ok a => exact ⟨a, rfl, Except.ok.inj h⟩

/-- What a row is from its creation on. -/
structure TaskOrigin where
  taskId : String
  taskType : String
  createdAt : DateTime
  createdMode : Option String
  activeEpoch : Option String
deriving DecidableEq

def AutomationTask.origin (t : AutomationTask) : TaskOrigin :=
  ⟨t.taskId, t.taskType, t.createdAt, t.createdMode, t.activeEpoch⟩

/-- The row keeps its status and its lease. -/
structure SameSlot (t t' : AutomationTask) : Prop where
  origin : t'.origin = t.origin
  status : t'.status = t.status
  leaseUntil : t'.leaseUntil = t.leaseUntil
  workerId : t'.workerId = t.workerId

theorem SameSlot.refl (t : AutomationTask) : SameSlot t t := ⟨rfl, rfl, rfl, rfl⟩

theorem SameSlot.trans {a b c : AutomationTask} (h : SameSlot a b) (h' : SameSlot b c) :
    SameSlot a c :=
  ⟨h'.origin.trans h.origin, h'.status.trans h.status, h'.leaseUntil.trans h.leaseUntil,
    h'.workerId.trans h.workerId⟩

/-- What a call that returned `out` shows of the lease of a task. -/
def QueueOp.event (taskId : String) (out : List AutomationTask) : QueueOp →
    Option (LeaseEvent String ℤ)
  | claimDue c | claimTransaction c =>
    if out.any (·.taskId = taskId) then some (.taken c.workerId c.leaseUntil.instant) else none
  | finish id _ _ workerId => if id = taskId then some (.finished workerId) else none
  | reschedule task _ _ _ =>
    if task.taskId = taskId then some (.released (task.workerId.getD "")) else none
  | _ => none

/-- The row a call inserts, if it inserts one. -/
def QueueOp.created (a : RuntimeActivation) : QueueOp → Option AutomationTask
  | createOrGet newId spec => some (spec.row a newId)
  | createOrGetUnfinished newId spec key => some ({ spec with dedupeKey := some key }.row a newId)
  | _ => none

/-- The moves of a row under a call. -/
inductive RowMove (op : QueueOp) (out : List AutomationTask) (t t' : AutomationTask) : Prop
  | same : SameSlot t t' → op.event t.taskId out = none → RowMove op out t t'
  | claimed (c : ClaimCall) : op = .claimDue c ∨ op = .claimTransaction c → claimable c.now t = true → t' ∈ out →
      t' = claimRow c.workerId c.now c.leaseUntil t → RowMove op out t t'
  | finished (error : Option String) (finishedAt : DateTime) (workerId : Option String) :
      op = .finish t.taskId error finishedAt workerId → t.status = .running →
      (workerId.isSome = true → t.workerId = workerId) →
        (∀ u ∈ t.leaseUntil, finishedAt.instant < u.instant) →
      t' = finishRow error finishedAt t → RowMove op out t t'
  | rescheduled (task : AutomationTask) (dueAt updatedAt : DateTime) (payload : TaskPayload) :
      op = .reschedule task dueAt updatedAt payload → task.taskId = t.taskId → t.status = .running →
      t.workerId = task.workerId →
      t' = { t with status := .pending, dueAt := dueAt, updatedAt := updatedAt, payload := payload,
                    leaseUntil := none, workerId := none } → RowMove op out t t'
  | cancelled (at_ : DateTime) : t.unfinished = true → SameSlot (cancelRow at_ t) t' →
      op.event t.taskId out = none → RowMove op out t t'
  | requeued (now : DateTime) (staleAfter : ℤ) : op = .recoverStale now staleAfter →
      isRecoverable now (now.add (-staleAfter)) t = true → t' = requeueRow now t →
        RowMove op out t t'
  | quarantined (now : DateTime) (reason : String) : isExternal t = true → t.unfinished = true →
      t' = quarantineRow now reason t → op.event t.taskId out = none → RowMove op out t t'

/-! ### Creation -/

section Creation

variable {tasks tasks' : List AutomationTask} {spec : TaskSpec} {key taskId : String}
  {winner : AutomationTask}

theorem sameSlots_refl (tasks : List AutomationTask) : List.Forall₂ SameSlot tasks tasks :=
  List.forall₂_same.mpr fun t _ => .refl t

theorem sameSlots_setDedupeKey (h : setDedupeKey tasks taskId key = .ok tasks') :
    List.Forall₂ SameSlot tasks tasks' := by
  unfold setDedupeKey at h
  split_ifs at h
  cases h
  exact forall₂_updateRow .refl fun t _ _ => ⟨rfl, rfl, rfl, rfl⟩

theorem sameSlots_release {winnerId : Option String}
    (h : releaseDedupeKey tasks key winnerId = .ok tasks') :
    List.Forall₂ SameSlot tasks tasks' := by
  unfold releaseDedupeKey at h
  split at h
  · cases h
    exact sameSlots_refl _
  · split_ifs at h
    · cases h
      exact sameSlots_refl _
    · exact sameSlots_setDedupeKey h

theorem sameSlots_takeKey (h : takeKey tasks key winner = .ok tasks') :
    List.Forall₂ SameSlot tasks tasks' := by
  unfold takeKey at h
  split at h
  · cases h
  · rename_i released hreleased
    split_ifs at h
    · cases h
      exact sameSlots_release hreleased
    · exact forall₂_trans (R := SameSlot) (fun _ _ _ => SameSlot.trans)
          (sameSlots_release hreleased)
        (sameSlots_setDedupeKey h)

theorem sameSlots_adoptWinner (h : adoptWinner tasks spec key winner = .ok tasks') :
    List.Forall₂ SameSlot tasks tasks' := by
  unfold adoptWinner at h
  obtain ⟨keyed, hkeyed, rfl⟩ := map_ok h
  have hrefreshed : List.Forall₂ SameSlot tasks (refreshWinner tasks spec winner) := by
    unfold refreshWinner
    split_ifs
    · exact forall₂_updateRow .refl fun t _ _ => ⟨rfl, rfl, rfl, rfl⟩
    · exact sameSlots_refl _
  have hmoved : List.Forall₂ SameSlot keyed (moveEarlier keyed spec winner) := by
    unfold moveEarlier
    split_ifs
    · refine forall₂_updateRow .refl fun t _ _ => ?_
      split_ifs
      · exact ⟨rfl, rfl, rfl, rfl⟩
      · exact .refl t
    · exact sameSlots_refl _
  have htrans := fun a b c => @SameSlot.trans a b c
  exact forall₂_trans htrans (forall₂_trans htrans hrefreshed (sameSlots_takeKey hkeyed)) hmoved

/-- A call that creates or adopts leaves rows or cancels pending ones, and inserts at most one. -/
theorem createOrGetUnfinished_slots {a : RuntimeActivation} {newId : String} {task : AutomationTask}
    (h : createOrGetUnfinished tasks a newId spec key = .ok (tasks', task)) :
    ∃ rows new, tasks' = rows ++ new ∧
      List.Forall₂ (fun t t' => SameSlot t t' ∨ t.status = .pending ∧
        SameSlot (cancelRow spec.createdAt t) t')
        tasks rows ∧ (new = [] ∨ new = [{ spec with dedupeKey := some key }.row a newId]) := by
  unfold createOrGetUnfinished at h
  iterate 3
    split at h
    · cases h
  split at h
  · split at h
    · cases h
    rename_i released hreleased
    cases h
    exact ⟨released, _, rfl, (sameSlots_release hreleased).imp fun _ _ h => .inl h, .inr rfl⟩
  · rename_i winner others _
    have hcancelled : List.Forall₂
        (fun t t' => t' = t ∨ t.status = .pending ∧ t' = cancelRow spec.createdAt t) tasks
        (cancelDuplicates tasks spec.createdAt others) := by
      rw [cancelDuplicates, List.forall₂_map_right_iff]
      refine List.forall₂_same.mpr fun t _ => ?_
      split_ifs with hdup
      · exact .inr ⟨hdup.2, rfl⟩
      · exact .inl rfl
    have hfinal {final : List AutomationTask}
        (hs : List.Forall₂ SameSlot (cancelDuplicates tasks spec.createdAt others) final) :
        List.Forall₂ (fun t t' => SameSlot t t' ∨ t.status = .pending ∧
            SameSlot (cancelRow spec.createdAt t) t')
          tasks final := by
      refine forall₂_comp (fun t u t' htu hut => ?_) hcancelled hs
      rcases htu with rfl | ⟨hp, rfl⟩
      · exact .inl hut
      · exact .inr ⟨hp, hut⟩
    dsimp only at h
    generalize hok : (if spec.taskType = "RECONCILE_ALARM_EVENT" then
        Except.ok (cancelDuplicates tasks spec.createdAt others)
      else adoptWinner (cancelDuplicates tasks spec.createdAt others) spec key winner) = result at h
    cases result with
    | error e => cases h
    | ok final =>
      have hslots : List.Forall₂ SameSlot (cancelDuplicates tasks spec.createdAt others) final := by
        split_ifs at hok
        · cases hok
          exact sameSlots_refl _
        · exact sameSlots_adoptWinner hok
      dsimp only at h
      split at h
      · cases h
        exact ⟨_, [], (List.append_nil _).symm, hfinal hslots, .inl rfl⟩
      · cases h

end Creation

/-! ### Claims and quarantine -/

section Claims

variable {tasks : List AutomationTask} {c : ClaimCall}

theorem forall₂_ids {R : AutomationTask → AutomationTask → Prop}
    (hR : ∀ t t', R t t' → t'.taskId = t.taskId)
    {rows rows' : List AutomationTask} (h : List.Forall₂ R rows rows') :
    rows'.map (·.taskId) = rows.map (·.taskId) := by
  induction h with
  | nil => rfl
  | cons hr _ ih => rw [List.map_cons, List.map_cons, hR _ _ hr, ih]

theorem claimIds_claimable (hn : (tasks.map (·.taskId)).Nodup) {t : AutomationTask} (ht : t ∈ tasks)
    (hid : t.taskId ∈ claimIds tasks c) : claimable c.now t = true := by
  obtain ⟨u, hu, huid⟩ := List.mem_map.mp hid
  have hmem := List.mem_mergeSort.mp (List.mem_of_mem_take hu)
  rw [List.mem_filter, Bool.and_eq_true] at hmem
  rw [← eq_of_taskId hn hmem.1 ht huid]
  exact hmem.2.1

theorem claimRow_taskId (workerId : String) (now leaseUntil : DateTime) (t : AutomationTask) :
    (claimRow workerId now leaseUntil t).taskId = t.taskId := by
  unfold claimRow
  split_ifs <;> rfl

/-- The rows of a claim: those it returns, and the others. -/
theorem claimTransaction_rows (hn : (tasks.map (·.taskId)).Nodup) :
    List.Forall₂ (fun t t' =>
      (claimable c.now t = true ∧ t' ∈ (claimTransaction tasks c).2 ∧
        t' = claimRow c.workerId c.now c.leaseUntil t) ∨
        t' = t ∧ ∀ u ∈ (claimTransaction tasks c).2, u.taskId ≠ t.taskId)
          tasks (claimTransaction tasks c).1 := by
  have hids :
      List.Forall₂ (fun t t' => t'.taskId = t.taskId) tasks (claimTransaction tasks c).1 := by
    simp only [claimTransaction, List.forall₂_map_right_iff]
    refine List.forall₂_same.mpr fun t _ => ?_
    split_ifs
    · exact claimRow_taskId _ _ _ t
    · rfl
  have hn' : ((claimTransaction tasks c).1.map (·.taskId)).Nodup := by
    rw [forall₂_ids (fun _ _ h => h) hids]
    exact hn
  simp only [claimTransaction, List.forall₂_map_right_iff]
  refine List.forall₂_same.mpr fun t ht => ?_
  split_ifs with hid
  · refine .inl ⟨claimIds_claimable hn ht hid, List.mem_filterMap.mpr ⟨t.taskId, hid, ?_⟩, rfl⟩
    have hmem : claimRow c.workerId c.now c.leaseUntil t ∈ (claimTransaction tasks c).1 :=
      List.mem_map.mpr ⟨t, ht, if_pos hid⟩
    have hfound := byId_of_mem hn' hmem
    rw [claimRow_taskId] at hfound
    exact hfound
  · refine .inr ⟨rfl, fun u hu huid => ?_⟩
    obtain ⟨id, hmem, hfound⟩ := List.mem_filterMap.mp hu
    rw [← huid, (byId_mem hfound).2] at hid
    exact hid hmem

/-- The rows of a quarantine: those held back, and the others. -/
theorem quarantine_rows (db : TaskDb) (now : DateTime) (activeEpoch : Option String) :
    List.Forall₂ (fun t t' => t' = t ∨ isExternal t = true ∧ t.unfinished = true ∧
      ∃ reason, t' = quarantineRow now reason t)
      db.tasks (quarantineLegacyExternalTasks db now activeEpoch).tasks := by
  have hrow (reason : String) (t : AutomationTask) : quarantineRow now reason t = t ∨
      isExternal t = true ∧ t.unfinished = true ∧
        ∃ r, quarantineRow now reason t = quarantineRow now r t := by
    by_cases hq : externalEffectTaskTypes.contains t.taskType = true ∧ t.unfinished = true
    · exact .inr ⟨hq.1, hq.2, reason, rfl⟩
    · exact .inl (if_neg hq)
  have hsame : List.Forall₂ (fun t t' => t' = t ∨ isExternal t = true ∧ t.unfinished = true ∧
      ∃ reason, t' = quarantineRow now reason t) db.tasks db.tasks := List.forall₂_same.mpr
        fun t _ => .inl rfl
  unfold quarantineLegacyExternalTasks
  dsimp only
  generalize (if truthy activeEpoch = true then activeEpoch else db.activation.activeEpoch) = epoch
  split
  · exact hsame
  split
  · split
    · rw [List.forall₂_map_right_iff]
      refine List.forall₂_same.mpr fun t _ => ?_
      split_ifs
      · exact hrow _ t
      · exact .inl rfl
    · exact hsame
  · rw [List.forall₂_map_right_iff]
    exact List.forall₂_same.mpr fun t _ => hrow _ t

end Claims

/-! ### Every call -/

section Calls

variable {db db' : TaskDb} {op : QueueOp} {out : List AutomationTask}

/-- Rows the call does not name. -/
theorem rowMoves_refl (h : ∀ taskId, op.event taskId out = none) (tasks : List AutomationTask) :
    List.Forall₂ (RowMove op out) tasks tasks :=
  List.forall₂_same.mpr fun t _ => .same (.refl t) (h t.taskId)

theorem rowMoves_updateRow {tasks : List AutomationTask} {taskId : String}
    {f : AutomationTask → AutomationTask} (hquiet : ∀ id, id ≠ taskId → op.event id out = none)
    (hf : ∀ t ∈ tasks, t.taskId = taskId → RowMove op out t (f t)) :
    List.Forall₂ (RowMove op out) tasks (updateRow tasks taskId f) := by
  rw [updateRow, List.forall₂_map_right_iff]
  refine List.forall₂_same.mpr fun t ht => ?_
  split_ifs with hid
  · exact hf t ht hid
  · exact .same (.refl t) (hquiet _ hid)

theorem claimEvent_none {c : ClaimCall} {taskId : String} (h : ∀ u ∈ out, u.taskId ≠ taskId) :
    (QueueOp.claimDue c).event taskId out = none ∧
      (QueueOp.claimTransaction c).event taskId out = none := by
  have hany : out.any (·.taskId = taskId) = false := by simpa using h
  simp [QueueOp.event, hany]

theorem claimDue_rows (hn : (db.tasks.map (·.taskId)).Nodup) {c : ClaimCall}
    (h : claimDue db c = .ok (db', out)) :
    List.Forall₂ (RowMove (.claimDue c) out) db.tasks db'.tasks := by
  unfold claimDue at h
  split at h
  · cases h
  cases h
  have hheld := quarantine_rows db c.now none
  have hn' : ((quarantineLegacyExternalTasks db c.now none).tasks.map (·.taskId)).Nodup := by
    rw [forall₂_ids (fun t t' ht => ?_) hheld]
    · exact hn
    · rcases ht with rfl | ⟨-, -, reason, rfl⟩
      · rfl
      · unfold quarantineRow
        split_ifs <;> rfl
  refine forall₂_comp (fun t u t' htu hut => ?_) hheld (claimTransaction_rows hn')
  rcases htu with rfl | ⟨hext, hunf, reason, rfl⟩
  · rcases hut with ⟨hc, hmem, rfl⟩ | ⟨rfl, hno⟩
    · exact .claimed c (.inl rfl) hc hmem rfl
    · exact .same (.refl _) (claimEvent_none hno).1
  · have hq : quarantineRow c.now reason t =
        { t with status := .legacyPending, updatedAt := c.now, lastError := t.lastError <|> some reason,
                 leaseUntil := none, workerId := none } := if_pos ⟨hext, hunf⟩
    rcases hut with ⟨hc, -, -⟩ | ⟨rfl, hno⟩
    · -- a quarantined row is not claimable
      rw [hq] at hc
      simp [claimable] at hc
    · refine .quarantined c.now reason hext hunf rfl (claimEvent_none fun u hu => ?_).1
      have hid := hno u hu
      rw [hq] at hid
      exact hid

theorem finishTask_rows (hn : (db.tasks.map (·.taskId)).Nodup) {taskId : String}
    {error : Option String}
    {finishedAt : DateTime} {workerId : Option String} {tasks : List AutomationTask}
    (h : finishTask db.tasks taskId error finishedAt workerId = .ok tasks) :
    List.Forall₂ (RowMove (.finish taskId error finishedAt workerId) []) db.tasks tasks := by
  unfold finishTask at h
  split at h
  · cases h
  rename_i u hu
  split_ifs at h with hrun hworker hlease
  cases h
  refine rowMoves_updateRow (fun id hid => by simp [QueueOp.event, Ne.symm hid]) fun t ht hid => ?_
  obtain ⟨hmem, huid⟩ := byId_mem hu
  obtain rfl := eq_of_taskId hn ht hmem (hid.trans huid.symm)
  refine .finished error finishedAt workerId (by rw [hid]) (not_not.mp hrun) (fun hsome => ?_)
    (fun l hl => ?_) rfl
  · by_contra hne
    exact hworker ⟨hsome, hne⟩
  · by_contra hle
    exact hlease (by rw [hl]; simpa using not_lt.mp hle)

theorem rescheduleRunning_rows (hn : (db.tasks.map (·.taskId)).Nodup) {task : AutomationTask}
    {dueAt updatedAt : DateTime} {payload : TaskPayload} {tasks : List AutomationTask}
    (h : rescheduleRunning db.tasks task dueAt updatedAt payload = .ok tasks) :
    List.Forall₂ (RowMove (.reschedule task dueAt updatedAt payload) []) db.tasks tasks := by
  unfold rescheduleRunning at h
  split_ifs at h with hany
  cases h
  obtain ⟨u, hu, hrow⟩ := List.any_eq_true.mp hany
  simp only [Bool.and_eq_true, decide_eq_true_eq] at hrow
  refine rowMoves_updateRow (fun id hid => by simp [QueueOp.event, Ne.symm hid]) fun t ht hid => ?_
  obtain rfl := eq_of_taskId hn ht hu (hid.trans hrow.1.1.1.symm)
  exact .rescheduled task dueAt updatedAt payload rfl hid.symm hrow.1.1.2 hrow.2 rfl

theorem cancelTask_rows (hn : (db.tasks.map (·.taskId)).Nodup) {taskId : String}
    {updatedAt : DateTime}
    {tasks : List AutomationTask} (h : cancelTask db.tasks taskId updatedAt = .ok tasks) :
    List.Forall₂ (RowMove (.cancel taskId updatedAt) []) db.tasks tasks := by
  unfold cancelTask at h
  split at h
  · cases h
  rename_i u hu
  split_ifs at h with hunf
  cases h
  refine rowMoves_updateRow (fun _ _ => rfl) fun t ht hid => ?_
  obtain ⟨hmem, huid⟩ := byId_mem hu
  obtain rfl := eq_of_taskId hn ht hmem (hid.trans huid.symm)
  exact .cancelled updatedAt hunf (.refl _) rfl

/-- **Every call** moves each row by one move, and inserts at most one row. -/
theorem QueueOp.rows (hn : (db.tasks.map (·.taskId)).Nodup) (h : op.apply db = .ok (db', out)) :
    ∃ rows new, db'.tasks = rows ++ new ∧ List.Forall₂ (RowMove op out) db.tasks rows ∧
      (new = [] ∨ ∃ row, op.created db.activation = some row ∧ new = [row]) := by
  cases op with
  | setRuntimeContext mode now activeEpoch uuid =>
    obtain ⟨d, hd, he⟩ := map_ok h
    cases he
    unfold TemperatureMonitor.setRuntimeContext at hd
    dsimp only at hd
    split at hd
    · cases hd
      exact ⟨db.tasks, [], (List.append_nil _).symm, rowMoves_refl (fun _ => rfl) _, .inl rfl⟩
    · cases hd
  | createOrGet newId spec =>
    cases h
    unfold TemperatureMonitor.createOrGet
    dsimp only
    split
    · exact ⟨db.tasks, [], (List.append_nil _).symm, rowMoves_refl (fun _ => rfl) _, .inl rfl⟩
    · exact ⟨db.tasks, _, rfl, rowMoves_refl (fun _ => rfl) _, .inr ⟨_, rfl, rfl⟩⟩
  | createOrGetUnfinished newId spec key =>
    obtain ⟨⟨tasks', task⟩, hr, he⟩ := map_ok h
    cases he
    obtain ⟨rows, new, htasks, hrows, hnew⟩ := createOrGetUnfinished_slots hr
    refine ⟨rows, new, htasks, hrows.imp fun t t' ht => ?_, ?_⟩
    · rcases ht with hs | ⟨hp, hs⟩
      · exact .same hs rfl
      · exact .cancelled spec.createdAt (unfinished_iff.mpr (.inl hp)) hs rfl
    · rcases hnew with rfl | rfl
      · exact .inl rfl
      · exact .inr ⟨_, rfl, rfl⟩
  | quarantine now activeEpoch =>
    cases h
    refine ⟨_, [], (List.append_nil _).symm,
      (quarantine_rows db now activeEpoch).imp fun t t' ht => ?_, .inl rfl⟩
    rcases ht with rfl | ⟨hext, hunf, reason, rfl⟩
    · exact .same (.refl _) rfl
    · exact .quarantined now reason hext hunf rfl rfl
  | recoverStale now staleAfter =>
    obtain ⟨tasks, hr, he⟩ := map_ok h
    cases he
    unfold recoverStaleTasks at hr
    split_ifs at hr
    cases hr
    refine ⟨_, [], (List.append_nil _).symm, ?_, .inl rfl⟩
    rw [List.forall₂_map_right_iff]
    refine List.forall₂_same.mpr fun t _ => ?_
    split_ifs with hrec
    · exact .requeued now staleAfter rfl hrec rfl
    · exact .same (.refl t) rfl
  | claimDue c => exact ⟨_, [], (List.append_nil _).symm, claimDue_rows hn h, .inl rfl⟩
  | claimTransaction c =>
    obtain ⟨-, -, he⟩ := map_ok h
    cases he
    refine ⟨_, [], (List.append_nil _).symm,
      (claimTransaction_rows hn).imp fun t t' ht => ?_, .inl rfl⟩
    rcases ht with ⟨hc, hmem, rfl⟩ | ⟨rfl, hno⟩
    · exact .claimed c (.inr rfl) hc hmem rfl
    · exact .same (.refl _) (claimEvent_none hno).2
  | finish taskId error finishedAt workerId =>
    obtain ⟨tasks, hr, he⟩ := map_ok h
    cases he
    exact ⟨tasks, [], (List.append_nil _).symm, finishTask_rows hn hr, .inl rfl⟩
  | reschedule task dueAt updatedAt payload =>
    obtain ⟨tasks, hr, he⟩ := map_ok h
    cases he
    exact ⟨tasks, [], (List.append_nil _).symm, rescheduleRunning_rows hn hr, .inl rfl⟩
  | cancel taskId updatedAt =>
    obtain ⟨tasks, hr, he⟩ := map_ok h
    cases he
    exact ⟨tasks, [], (List.append_nil _).symm, cancelTask_rows hn hr, .inl rfl⟩

end Calls

end TemperatureMonitor
