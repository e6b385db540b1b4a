/-
# One unfinished task for a business identity

`create_or_get_unfinished` on an arbitrary table: ids are the primary key and
dedupe keys are UNIQUE, all else may be left from older versions. The row it
returns is unfinished and owns the key; its identity has one candidate left;
running rows keep their lease, and a terminal row is at most renamed to a
history key (`createOrGetUnfinished_identity`). A call that raises rolls its
transaction back.
-/
import Mathlib.Data.List.Nodup
import Mathlib.Data.Prod.Lex
import TemperatureMonitor.Library.Grouping
import TemperatureMonitor.Store.TaskRows

namespace TemperatureMonitor

/-! ### The table -/

/-- What the schema says of a table. -/
structure TaskTable (tasks : List AutomationTask) : Prop where
  ids : (tasks.map (·.taskId)).Nodup
  keys : (tasks.filterMap (·.dedupeKey)).Nodup

instance (tasks : List AutomationTask) : Decidable (TaskTable tasks) :=
  decidable_of_iff ((tasks.map (·.taskId)).Nodup ∧ (tasks.filterMap (·.dedupeKey)).Nodup)
    ⟨fun h => ⟨h.1, h.2⟩, fun h => ⟨h.ids, h.keys⟩⟩

section Table

variable {tasks tasks' : List AutomationTask} {key taskId : String}

/-- Rows of different ids have different keys. -/
def Apart (t u : AutomationTask) : Prop :=
  t.taskId ≠ u.taskId ∧ ∀ k, t.dedupeKey = some k → u.dedupeKey ≠ some k

theorem taskTable_iff : TaskTable tasks ↔ tasks.Pairwise Apart := by
  constructor
  · intro h
    have hkeys := List.pairwise_filterMap.mp h.keys
    refine ((List.pairwise_map.mp h.ids).and hkeys).imp fun {t u} htu => ⟨htu.1, fun k ht hu => ?_⟩
    exact htu.2 k ht k hu rfl
  · intro h
    refine ⟨List.pairwise_map.mpr (h.imp fun htu => htu.1), List.pairwise_filterMap.mpr (h.imp ?_)⟩
    rintro t u ⟨-, hk⟩ k ht k' hu rfl
    exact hk k ht hu

/-- A write that leaves ids and keys. -/
theorem TaskTable.congr (h : TaskTable tasks)
    (hr : List.Forall₂ (fun t t' => t'.taskId = t.taskId ∧ t'.dedupeKey = t.dedupeKey)
      tasks tasks') :
    TaskTable tasks' := by
  refine taskTable_iff.mpr
    (forall₂_pairwise (fun t u t' u' ht hu htu => ?_) hr (taskTable_iff.mp h))
  unfold Apart
  rw [ht.1, ht.2, hu.1, hu.2]
  exact htu

instance : Std.Symm Apart where
  symm := fun _ _ h => ⟨h.1.symm, fun k hu ht => h.2 k ht hu⟩

theorem TaskTable.eq_of_key (h : TaskTable tasks) {t u : AutomationTask} (ht : t ∈ tasks)
    (hu : u ∈ tasks) (hkt : t.dedupeKey = some key) (hku : u.dedupeKey = some key) : t = u := by
  by_contra hne
  exact ((taskTable_iff.mp h).forall ht hu hne).2 key hkt hku

/-- Writing a key keeps the keys unique, or raises. -/
theorem setDedupeKey_table (h : TaskTable tasks)
    (hset : setDedupeKey tasks taskId key = .ok tasks') : TaskTable tasks' := by
  unfold setDedupeKey at hset
  split_ifs at hset with hfree
  cases hset
  have hother : ∀ t ∈ tasks, t.taskId ≠ taskId → t.dedupeKey ≠ some key := by
    intro t ht hid hk
    exact hfree (List.any_eq_true.mpr ⟨t, ht, by simp [hid, hk]⟩)
  unfold updateRow
  rw [taskTable_iff, List.pairwise_map]
  refine (taskTable_iff.mp h).imp_of_mem fun {t u} ht hu htu => ?_
  by_cases h1 : t.taskId = taskId <;> by_cases h2 : u.taskId = taskId
  · exact absurd (h1.trans h2.symm) htu.1
  · rw [if_pos h1, if_neg h2]
    refine ⟨htu.1, fun k hk => ?_⟩
    cases hk
    exact hother u hu h2
  · rw [if_neg h1, if_pos h2]
    refine ⟨htu.1, fun k hk hk' => ?_⟩
    cases hk'
    exact hother t ht h1 hk
  · rw [if_neg h1, if_neg h2]
    exact htu

theorem forall₂_updateRow {R : AutomationTask → AutomationTask → Prop}
    {f : AutomationTask → AutomationTask}
    (hrefl : ∀ t, R t t) (hf : ∀ t ∈ tasks, t.taskId = taskId → R t (f t)) :
    List.Forall₂ R tasks (updateRow tasks taskId f) := by
  rw [updateRow, List.forall₂_map_right_iff]
  refine List.forall₂_same.mpr fun t ht => ?_
  split_ifs with hid
  · exact hf t ht hid
  · exact hrefl t

end Table

/-! ### What a call does to a row -/

/-- The key a row is archived under. -/
def historyKey (key : String) (t : AutomationTask) : String := key ++ ":HISTORY:" ++ t.taskId

/-- A pending row may be cancelled or moved earlier, a running one may lose or
take the key, a terminal one may be archived. -/
structure Kept (key : String) (t t' : AutomationTask) : Prop where
  taskId : t'.taskId = t.taskId
  taskType : t'.taskType = t.taskType
  entityId : t'.entityId = t.entityId
  status : t'.status = t.status ∨ t.status = .pending ∧ t'.status = .cancelled
  dueAt : t'.dueAt.instant ≤ t.dueAt.instant
  running : t.status = .running → t' = { t with dedupeKey := t'.dedupeKey }
  terminal : t.unfinished = false → t' = t ∨ t' = { t with dedupeKey := some (historyKey key t) }

section Kept

variable {key : String} {t t' t'' : AutomationTask}

theorem unfinished_iff : t.unfinished = true ↔ t.status = .pending ∨ t.status = .running := by
  simp [AutomationTask.unfinished]

theorem Kept.refl (key : String) (t : AutomationTask) : Kept key t t :=
  ⟨rfl, rfl, rfl, .inl rfl, le_refl _, fun _ => rfl, fun _ => .inl rfl⟩

theorem Kept.trans (h : Kept key t t') (h' : Kept key t' t'') : Kept key t t'' where
  taskId := h'.taskId.trans h.taskId
  taskType := h'.taskType.trans h.taskType
  entityId := h'.entityId.trans h.entityId
  status := by
    rcases h.status with hs | ⟨hp, hc⟩
    · have hs' := h'.status
      rw [hs] at hs'
      exact hs'
    · refine .inr ⟨hp, ?_⟩
      rcases h'.status with hs' | ⟨hp', -⟩
      · exact hs'.trans hc
      · rw [hc] at hp'
        cases hp'
  dueAt := h'.dueAt.trans h.dueAt
  running := fun hr => by
    have ht := h.running hr
    have hr' : t'.status = .running := by rw [ht]; exact hr
    have ht' := h'.running hr'
    rw [ht', ht]
  terminal := fun hu => by
    have hid := h.taskId
    rcases h.terminal hu with rfl | ht
    · exact h'.terminal hu
    · have hu' : t'.unfinished = false := by rw [ht]; exact hu
      rcases h'.terminal hu' with ht' | ht'
      · exact .inr (ht'.trans ht)
      · refine .inr ?_
        rw [ht', ht]
        simp [historyKey]

/-- A write of a pending row that is not later than before. -/
theorem Kept.ofPending (hp : t.status = .pending) (hid : t'.taskId = t.taskId)
    (htype : t'.taskType = t.taskType)
    (hent : t'.entityId = t.entityId) (hs : t'.status = .pending ∨ t'.status = .cancelled)
    (hdue : t'.dueAt.instant ≤ t.dueAt.instant) : Kept key t t' where
  taskId := hid
  taskType := htype
  entityId := hent
  status := hs.imp (fun h => h.trans hp.symm) fun h => ⟨hp, h⟩
  dueAt := hdue
  running := fun hr => by rw [hp] at hr; cases hr
  terminal := fun hu => by simp [AutomationTask.unfinished, hp] at hu

/-- An unfinished row that is given another key. -/
theorem Kept.rekeyed (hu : t.unfinished = true) (k : Option String) :
    Kept key t { t with dedupeKey := k } :=
  ⟨rfl, rfl, rfl, .inl rfl, le_refl _, fun _ => rfl, fun h => by rw [hu] at h; cases h⟩

theorem Kept.archived (key : String) (t : AutomationTask) :
    Kept key t { t with dedupeKey := some (historyKey key t) } :=
  ⟨rfl, rfl, rfl, .inl rfl, le_refl _, fun _ => rfl, fun _ => .inr rfl⟩

end Kept

/-! ### Releasing the key -/

/-- The key of the owner's history is another row's key already. -/
def HistoryTaken (tasks : List AutomationTask) (key : String) : Prop :=
  ∃ owner ∈ tasks, owner.dedupeKey = some key ∧
    ∃ t ∈ tasks, t.taskId ≠ owner.taskId ∧ t.dedupeKey = some (historyKey key owner)

section Release

variable {tasks tasks' : List AutomationTask} {key : String} {winnerId : Option String}

theorem historyKey_ne (key : String) (t : AutomationTask) : historyKey key t ≠ key := by
  intro h
  have hl := congrArg (fun s => s.toList.length) h
  simp [historyKey, String.toList_append] at hl

/-- The row that has the key, and is not the winner, is archived. -/
theorem releaseDedupeKey_ok (hT : TaskTable tasks)
    (h : releaseDedupeKey tasks key winnerId = .ok tasks') :
    TaskTable tasks' ∧ List.Forall₂ (fun t t' => t' = t ∨
      some t.taskId ≠ winnerId ∧ t' = { t with dedupeKey := some (historyKey key t) })
        tasks tasks' ∧
      ∀ t ∈ tasks', t.dedupeKey = some key → some t.taskId = winnerId := by
  unfold releaseDedupeKey at h
  split at h
  · rename_i hnone
    cases h
    exact ⟨hT, List.forall₂_same.mpr fun _ _ => .inl rfl, fun t ht hk =>
      absurd hk (byDedupeKey_none hnone t ht)⟩
  · rename_i owner howner
    obtain ⟨hmem, hkey, -⟩ := byDedupeKey_some howner
    split_ifs at h with hwinner
    · cases h
      refine ⟨hT, List.forall₂_same.mpr fun _ _ => .inl rfl, fun t ht hk => ?_⟩
      rw [hT.eq_of_key ht hmem hk hkey]
      exact hwinner
    · refine ⟨setDedupeKey_table hT h, ?_⟩
      unfold setDedupeKey at h
      split_ifs at h
      cases h
      have howned : ∀ t ∈ tasks, t.taskId = owner.taskId → t = owner :=
        fun t ht hid => eq_of_taskId hT.ids ht hmem hid
      refine ⟨forall₂_updateRow (fun t => .inl rfl) fun t ht hid => ?_, fun t ht hk => ?_⟩
      · obtain rfl := howned t ht hid
        exact .inr ⟨hwinner, rfl⟩
      · obtain ⟨u, hu, rfl⟩ := List.mem_map.mp ht
        by_cases hid : u.taskId = owner.taskId
        · rw [if_pos hid] at hk
          exact absurd (Option.some.inj hk) (historyKey_ne key owner)
        · rw [if_neg hid] at hk
          exact absurd (congrArg AutomationTask.taskId (hT.eq_of_key hu hmem hk hkey)) hid

theorem releaseDedupeKey_error {err : PyError}
    (h : releaseDedupeKey tasks key winnerId = .error err) : HistoryTaken tasks key := by
  unfold releaseDedupeKey at h
  split at h
  · cases h
  · rename_i owner howner
    obtain ⟨hmem, hkey, -⟩ := byDedupeKey_some howner
    split_ifs at h
    unfold setDedupeKey at h
    split_ifs at h with htaken
    obtain ⟨t, ht, htk⟩ := List.any_eq_true.mp htaken
    simp only [Bool.and_eq_true, decide_eq_true_eq] at htk
    exact ⟨owner, hmem, hkey, t, ht, htk.1, htk.2⟩

end Release

/-! ### The winner and its duplicates -/

/-- The order of the candidates, as an order of keys. -/
def unfinishedRank (t : AutomationTask) : ℕ ×ₗ String ×ₗ String :=
  toLex (if t.status = .running then 0 else 1, toLex (t.dueAt.isoformat, t.taskId))

theorem unfinishedLe_iff {s t : AutomationTask} : unfinishedLe s t = true ↔
    unfinishedRank s ≤ unfinishedRank t := by
  have hkeys :
      (if s.dueAt.isoformat ≠ t.dueAt.isoformat then decide (s.dueAt.isoformat < t.dueAt.isoformat)
      else decide (s.taskId ≤ t.taskId)) = true ↔ s.dueAt.isoformat < t.dueAt.isoformat ∨
        s.dueAt.isoformat = t.dueAt.isoformat ∧ s.taskId ≤ t.taskId := by
    by_cases hx : s.dueAt.isoformat = t.dueAt.isoformat
    · rw [if_neg (not_not.mpr hx), hx]
      simp
    · rw [if_pos hx]
      simp [hx]
  unfold unfinishedLe unfinishedRank
  simp only [Prod.Lex.toLex_le_toLex]
  rw [← hkeys]
  by_cases hs : s.status = .running <;> by_cases ht : t.status = .running <;> simp [hs, ht]

section Call

variable {tasks tasks' : List AutomationTask} {spec : TaskSpec} {key : String}
  {winner : AutomationTask}
  {others : List AutomationTask}

theorem mem_activeRows {t : AutomationTask} :
    t ∈ activeRows tasks spec key ↔ t ∈ tasks ∧ t.unfinished = true ∧
      sameIdentity spec key t = true := by
  simp [activeRows]

/-- A running candidate is first. -/
theorem activeRows_running (h : activeRows tasks spec key = winner :: others) {t : AutomationTask}
    (ht : t ∈ others) (hr : t.status = .running) : winner.status = .running := by
  have hsorted : (activeRows tasks spec key).Pairwise fun a b => unfinishedLe a b = true := by
    refine List.pairwise_mergeSort (fun a b c => ?_) (fun a b => ?_) _
    · rw [unfinishedLe_iff, unfinishedLe_iff, unfinishedLe_iff]
      exact le_trans
    · rw [Bool.or_eq_true, unfinishedLe_iff, unfinishedLe_iff]
      exact le_total _ _
  rw [h] at hsorted
  have hle := (List.pairwise_cons.mp hsorted).1 t ht
  by_contra hw
  unfold unfinishedLe at hle
  simp [hr, hw] at hle

theorem cancelDuplicates_kept (key : String) (at_ : DateTime) :
    List.Forall₂ (fun t t' => Kept key t t' ∧ t'.dedupeKey = t.dedupeKey)
      tasks (cancelDuplicates tasks at_ others) := by
  rw [cancelDuplicates, List.forall₂_map_right_iff]
  refine List.forall₂_same.mpr fun t _ => ?_
  split_ifs with hdup
  · exact ⟨.ofPending hdup.2 rfl rfl rfl (.inr rfl) (le_refl _), rfl⟩
  · exact ⟨.refl key t, rfl⟩

/-- Of the identity only the winner is left, if it is pending; it is the row it was. -/
theorem cancelDuplicates_winner (hT : TaskTable tasks)
    (h : activeRows tasks spec key = winner :: others)
    (at_ : DateTime) : winner ∈ cancelDuplicates tasks at_ others ∧
      (∀ t ∈ cancelDuplicates tasks at_ others, sameIdentity spec key t = true →
        t.status = .pending → t = winner) ∧
      ∀ t ∈ cancelDuplicates tasks at_ others, sameIdentity spec key t = true →
        t.status = .running →
        winner.status = .running := by
  have hperm : ((winner :: others).map (·.taskId)).Nodup := by
    rw [← h]
    exact ((List.mergeSort_perm _ _).map _).nodup_iff.mpr ((List.filter_sublist.map _).nodup hT.ids)
  have hwin := mem_activeRows.mp (h ▸ List.mem_cons_self : winner ∈ activeRows tasks spec key)
  have hnot : winner.taskId ∉ (others.filter (·.status = .pending)).map (·.taskId) := by
    intro hmem
    obtain ⟨t, ht, hid⟩ := List.mem_map.mp hmem
    exact (List.nodup_cons.mp hperm).1 (List.mem_map.mpr ⟨t, (List.mem_filter.mp ht).1, hid⟩)
  refine ⟨List.mem_map.mpr ⟨winner, hwin.1, if_neg fun hdup => hnot hdup.1⟩, ?_, ?_⟩
  · intro t ht hsame hp
    obtain ⟨u, hu, rfl⟩ := List.mem_map.mp ht
    split_ifs at hsame hp ⊢ with hdup
    · cases hp
    · have hmem : u ∈ activeRows tasks spec key :=
        mem_activeRows.mpr ⟨hu, unfinished_iff.mpr (.inl hp), hsame⟩
      rw [h] at hmem
      rcases List.mem_cons.mp hmem with rfl | hother
      · rfl
      · exact absurd ⟨List.mem_map_of_mem (List.mem_filter.mpr ⟨hother, by simpa using hp⟩), hp⟩
          hdup
  · intro t ht hsame hr
    obtain ⟨u, hu, rfl⟩ := List.mem_map.mp ht
    split_ifs at hsame hr with hdup
    · cases hr
    · have hmem : u ∈ activeRows tasks spec key :=
        mem_activeRows.mpr ⟨hu, unfinished_iff.mpr (.inr hr), hsame⟩
      rw [h] at hmem
      rcases List.mem_cons.mp hmem with rfl | hother
      · exact hr
      · exact activeRows_running h hother hr

theorem HistoryTaken.of_rows
    (hr : List.Forall₂ (fun t t' => t'.taskId = t.taskId ∧ t'.dedupeKey = t.dedupeKey) tasks tasks')
    (h : HistoryTaken tasks' key) : HistoryTaken tasks key := by
  obtain ⟨owner', ho', hkey, t', ht', hne, hhist⟩ := h
  obtain ⟨owner, ho, hoid, hok⟩ := forall₂_mem_right hr ho'
  obtain ⟨t, ht, hid, hk⟩ := forall₂_mem_right hr ht'
  refine ⟨owner, ho, hok ▸ hkey, t, ht, by rw [← hid, ← hoid]; exact hne, ?_⟩
  unfold historyKey at hhist ⊢
  rw [← hk, hhist, hoid]

/-- A row that keeps its slot of the queue. -/
structure KeptSlot (key : String) (t t' : AutomationTask) : Prop extends Kept key t t' where
  sameStatus : t'.status = t.status
  sameDue : t'.dueAt = t.dueAt

theorem KeptSlot.refl (key : String) (t : AutomationTask) : KeptSlot key t t :=
  ⟨.refl key t, rfl, rfl⟩

theorem KeptSlot.trans {a b c : AutomationTask} (h : KeptSlot key a b) (h' : KeptSlot key b c) :
    KeptSlot key a c :=
  ⟨h.toKept.trans h'.toKept, h'.sameStatus.trans h.sameStatus, h'.sameDue.trans h.sameDue⟩

/-- The row of the winner is the winner's, whatever was written. -/
theorem winner_row {R : AutomationTask → AutomationTask → Prop} (hT : TaskTable tasks)
    (hmem : winner ∈ tasks)
    (hid : ∀ t t', R t t' → t'.taskId = t.taskId) (hr : List.Forall₂ R tasks tasks')
    {t : AutomationTask} (ht : t ∈ tasks') (htid : t.taskId = winner.taskId) : R winner t := by
  obtain ⟨old, hold, hR⟩ := forall₂_mem_right hr ht
  obtain rfl := eq_of_taskId hT.ids hold hmem ((hid _ _ hR).symm.trans htid)
  exact hR

theorem refreshWinner_kept (hT : TaskTable tasks) (hmem : winner ∈ tasks) :
    List.Forall₂ (fun t t' => KeptSlot key t t' ∧ t'.dedupeKey = t.dedupeKey)
      tasks (refreshWinner tasks spec winner) := by
  unfold refreshWinner
  split_ifs with hshadow
  · refine forall₂_updateRow (fun t => ⟨.refl key t, rfl⟩) fun t ht hid => ?_
    obtain rfl := eq_of_taskId hT.ids ht hmem hid
    exact ⟨⟨.ofPending hshadow.2 rfl rfl rfl (.inl hshadow.2) (le_refl _), rfl, rfl⟩, rfl⟩
  · exact List.forall₂_same.mpr fun t _ => ⟨.refl key t, rfl⟩

/-- **The winner takes the key**, unless the owner's history is taken. -/
theorem takeKey_cases (hT : TaskTable tasks) (hwinner : ∀ t ∈ tasks, t.taskId = winner.taskId →
      t.unfinished = true ∧ t.dedupeKey = winner.dedupeKey) :
    (∃ tasks', takeKey tasks key winner = .ok tasks' ∧ TaskTable tasks' ∧
      List.Forall₂ (KeptSlot key) tasks tasks' ∧
      ∀ t ∈ tasks', t.taskId = winner.taskId → t.dedupeKey = some key) ∨
    (∃ err, takeKey tasks key winner = .error err) ∧ HistoryTaken tasks key := by
  unfold takeKey
  cases hrelease : releaseDedupeKey tasks key (some winner.taskId) with
  | error err => exact .inr ⟨⟨err, rfl⟩, releaseDedupeKey_error hrelease⟩
  | ok released =>
    obtain ⟨hT', hrows, howner⟩ := releaseDedupeKey_ok hT hrelease
    have hkept : List.Forall₂ (KeptSlot key) tasks released := by
      refine hrows.imp fun t t' h => ?_
      rcases h with rfl | ⟨-, rfl⟩
      · exact .refl key _
      · exact ⟨.archived key t, rfl, rfl⟩
    have hrow : ∀ t ∈ released, t.taskId = winner.taskId → t ∈ tasks := by
      intro t ht hid
      obtain ⟨u, hu, rfl | ⟨hne, rfl⟩⟩ := forall₂_mem_right hrows ht
      · exact hu
      · exact absurd (congrArg some hid) hne
    refine .inl ?_
    simp only
    split_ifs with hown
    · exact ⟨released, rfl, hT', hkept, fun t ht hid =>
        (hwinner t (hrow t ht hid) hid).2.trans hown⟩
    · cases hset : setDedupeKey released winner.taskId key with
      | error err =>
        -- the key is free by now
        unfold setDedupeKey at hset
        split_ifs at hset with htaken
        obtain ⟨t, ht, htk⟩ := List.any_eq_true.mp htaken
        simp only [Bool.and_eq_true, decide_eq_true_eq] at htk
        exact absurd (Option.some.inj (howner t ht htk.2)) htk.1
      | ok keyed =>
        refine ⟨keyed, rfl, setDedupeKey_table hT' hset, ?_⟩
        unfold setDedupeKey at hset
        split_ifs at hset
        cases hset
        refine ⟨?_, fun t ht hid => ?_⟩
        · exact forall₂_trans (R := KeptSlot key) (fun _ _ _ => KeptSlot.trans)
              hkept (forall₂_updateRow (.refl key)
            fun t ht hid => ⟨.rekeyed (hwinner t (hrow t ht hid) hid).1 _, rfl, rfl⟩)
        · obtain ⟨u, hu, rfl⟩ := List.mem_map.mp ht
          split_ifs at hid ⊢ with huid
          · rfl
          · exact absurd hid huid

theorem moveEarlier_kept
    (hwinner : ∀ t ∈ tasks, t.taskId = winner.taskId → t.dueAt = winner.dueAt) :
    List.Forall₂ (fun t t' => Kept key t t' ∧ t'.status = t.status ∧
      t'.dedupeKey = t.dedupeKey) tasks
      (moveEarlier tasks spec winner) := by
  unfold moveEarlier
  split_ifs with hdue
  · refine forall₂_updateRow (fun t => ⟨.refl key t, rfl, rfl⟩) fun t ht hid => ?_
    split_ifs with hp
    · refine ⟨.ofPending hp.1 rfl rfl rfl (.inl hp.1) ?_, rfl, rfl⟩
      rw [hwinner t ht hid]
      exact le_of_lt hdue.2
    · exact ⟨.refl key t, rfl, rfl⟩
  · exact List.forall₂_same.mpr fun t _ => ⟨.refl key t, rfl, rfl⟩

/-- **Adopting the winner** keeps the rows and their statuses, and gives the
winner the key. -/
theorem adoptWinner_cases (hT : TaskTable tasks) (hmem : winner ∈ tasks)
    (hu : winner.unfinished = true) :
    (∃ tasks', adoptWinner tasks spec key winner = .ok tasks' ∧ TaskTable tasks' ∧
      List.Forall₂ (fun t t' => Kept key t t' ∧ t'.status = t.status) tasks tasks' ∧
      ∀ t ∈ tasks', t.taskId = winner.taskId → t.dedupeKey = some key) ∨
    (∃ err, adoptWinner tasks spec key winner = .error err) ∧ HistoryTaken tasks key := by
  have hrefreshed := @refreshWinner_kept tasks spec key winner hT hmem
  have hsame : List.Forall₂ (fun t t' => t'.taskId = t.taskId ∧ t'.dedupeKey = t.dedupeKey) tasks
      (refreshWinner tasks spec winner) := hrefreshed.imp fun _ _ h => ⟨h.1.taskId, h.2⟩
  unfold adoptWinner
  rcases @takeKey_cases (refreshWinner tasks spec winner) key winner (hT.congr hsame)
      (fun t ht hid => by
      have hrow := winner_row hT hmem (fun _ _ h => h.1.taskId) hrefreshed ht hid
      rw [unfinished_iff] at hu ⊢
      rw [hrow.1.sameStatus]
      exact ⟨hu, hrow.2⟩) with ⟨keyed, heq, hTk, hkeyed, hown⟩ | ⟨⟨err, heq⟩, htaken⟩
  · have hslot : List.Forall₂ (KeptSlot key) tasks keyed :=
      forall₂_trans (R := KeptSlot key) (fun _ _ _ => KeptSlot.trans)
        (hrefreshed.imp fun _ _ h => h.1) hkeyed
    have hmoved := @moveEarlier_kept keyed spec key winner fun t ht hid =>
      (winner_row hT hmem (fun _ _ h => h.taskId) hslot ht hid).sameDue
    rw [heq]
    refine .inl ⟨_, rfl, hTk.congr (hmoved.imp fun _ _ h => ⟨h.1.taskId, h.2.2⟩), ?_,
      fun t ht hid => ?_⟩
    · exact forall₂_trans (fun _ _ _ h h' => ⟨h.1.trans h'.1, h'.2.trans h.2⟩)
        (hslot.imp fun _ _ h => ⟨h.toKept, h.sameStatus⟩) (hmoved.imp fun _ _ h => ⟨h.1, h.2.1⟩)
    · obtain ⟨u, hu', hku⟩ := forall₂_mem_right hmoved ht
      exact hku.2.2.trans (hown u hu' (hku.1.taskId.symm.trans hid))
  · rw [heq]
    exact .inr ⟨⟨err, rfl⟩, htaken.of_rows hsame⟩

end Call

/-! ### The call -/

/-- What a call leaves: the table's constraints, an unfinished row that owns the
key, one candidate of the identity, and every row kept. -/
structure UnfinishedIdentity (spec : TaskSpec) (key : String) (tasks tasks' : List AutomationTask)
    (task : AutomationTask) : Prop where
  table : TaskTable tasks'
  returned : task ∈ tasks' ∧ task.unfinished = true
  owns : spec.taskType ≠ reconcileType → task.dedupeKey = some key
  running : (∃ t ∈ tasks', sameIdentity spec key t = true ∧ t.status = .running) →
    ∀ t ∈ tasks', sameIdentity spec key t = true → t.status ≠ .pending
  pending : ∀ t ∈ tasks', ∀ u ∈ tasks', sameIdentity spec key t = true →
      sameIdentity spec key u = true →
    t.status = .pending → u.status = .pending → t = u
  rows : ∀ t ∈ tasks, ∃ t' ∈ tasks', Kept key t t'

section Identity

variable {tasks : List AutomationTask} {spec : TaskSpec} {key : String} {winner : AutomationTask}
  {others : List AutomationTask}

/-- A retry key is no history key. -/
theorem retry_not_history (t : AutomationTask) :
    (key ++ ":retry:").toList.isPrefixOf (historyKey key t).toList = false := by
  rw [Bool.eq_false_iff]
  intro h
  have hpre := List.isPrefixOf_iff_prefix.mp h
  simp only [historyKey, String.toList_append, List.append_assoc] at hpre
  have := (List.prefix_append_right_inj _).mp hpre
  simp at this

/-- An archived row has the identity only if it had it before. -/
theorem sameIdentity_archived {t : AutomationTask}
    (h : sameIdentity spec key { t with dedupeKey := some (historyKey key t) } = true) :
    sameIdentity spec key t = true := by
  have hne := historyKey_ne key t
  have hretry := @retry_not_history key t
  unfold sameIdentity at h ⊢
  simp only [Option.some.injEq, hne, Option.any_some, hretry, Bool.false_eq_true, false_or,
    decide_eq_true_eq] at h ⊢
  refine ⟨h.1, ?_⟩
  split_ifs at h ⊢ with hrec hproj
  · exact .inr (.inr h.2)
  · exact h.2.elim
  · exact h.2

/-- Where no row has the identity unfinished, one is inserted. -/
theorem inserted_identity (hT : TaskTable tasks) {a : RuntimeActivation} {newId : String}
    (hfresh : ∀ t ∈ tasks, t.taskId ≠ newId) (hnone : activeRows tasks spec key = [])
    {released : List AutomationTask} (h : releaseDedupeKey tasks key none = .ok released) :
    UnfinishedIdentity spec key tasks
      (released ++ [{ spec with dedupeKey := some key }.row a newId])
      ({ spec with dedupeKey := some key }.row a newId) := by
  obtain ⟨hT', hrows, hfree⟩ := releaseDedupeKey_ok hT h
  have hold : ∀ t ∈ released, sameIdentity spec key t = true → t.unfinished = false := by
    intro t ht hsame
    by_contra hu
    have hu : t.unfinished = true := by simpa using hu
    obtain ⟨u, hu', heq⟩ := forall₂_mem_right hrows ht
    have hmem : u ∈ activeRows tasks spec key := by
      rcases heq with rfl | ⟨-, rfl⟩
      · exact mem_activeRows.mpr ⟨hu', hu, hsame⟩
      · exact mem_activeRows.mpr ⟨hu', hu, sameIdentity_archived hsame⟩
    rw [hnone] at hmem
    cases hmem
  have hnew : ∀ t ∈ released ++ [{ spec with dedupeKey := some key }.row a newId],
      sameIdentity spec key t = true → t.unfinished = true →
        t = { spec with dedupeKey := some key }.row a newId := by
    intro t ht hsame hu
    rcases List.mem_append.mp ht with ht | ht
    · rw [hold t ht hsame] at hu
      cases hu
    · exact List.mem_singleton.mp ht
  refine ⟨?_, ⟨by simp, rfl⟩, fun _ => rfl, ?_, ?_, fun t ht => ?_⟩
  · rw [taskTable_iff, List.pairwise_append]
    refine ⟨taskTable_iff.mp hT', List.pairwise_singleton _ _, fun t ht u hu => ?_⟩
    obtain rfl := List.mem_singleton.mp hu
    refine ⟨?_, fun k hk hk' => ?_⟩
    · obtain ⟨old, hold', heq⟩ := forall₂_mem_right hrows ht
      have hid : t.taskId = old.taskId := by rcases heq with rfl | ⟨-, rfl⟩ <;> rfl
      rw [hid]
      exact hfresh old hold'
    · cases hk'
      exact absurd (hfree t ht hk) (by simp)
  · rintro ⟨t, ht, hsame, hr⟩ u hu hsame' hp
    obtain rfl := hnew t ht hsame (unfinished_iff.mpr (.inr hr))
    cases hr
  · intro t ht u hu hsame hsame' hp hp'
    rw [hnew t ht hsame (unfinished_iff.mpr (.inl hp)),
      hnew u hu hsame' (unfinished_iff.mpr (.inl hp'))]
  · obtain ⟨t', ht', heq⟩ := forall₂_mem_left hrows ht
    refine ⟨t', List.mem_append_left _ ht', ?_⟩
    rcases heq with rfl | ⟨-, rfl⟩
    · exact .refl key _
    · exact .archived key t

/-- A reconciliation leaves its winner as it is. -/
theorem reconcile_identity (hT : TaskTable tasks) (htype : spec.taskType = reconcileType)
    (h : activeRows tasks spec key = winner :: others) (at_ : DateTime) :
    UnfinishedIdentity spec key tasks (cancelDuplicates tasks at_ others) winner := by
  obtain ⟨hmem, hpending, hrunning⟩ := cancelDuplicates_winner hT h at_
  have hwin := mem_activeRows.mp (h ▸ List.mem_cons_self : winner ∈ activeRows tasks spec key)
  have hkept := @cancelDuplicates_kept tasks others key at_
  refine ⟨hT.congr (hkept.imp fun _ _ h => ⟨h.1.taskId, h.2⟩), ⟨hmem, hwin.2.1⟩, fun hne =>
      absurd htype hne,
    ?_, ?_, fun t ht => ?_⟩
  · rintro ⟨t, ht, hsame, hr⟩ u hu hsame' hp
    obtain rfl := hpending u hu hsame' hp
    rw [hrunning t ht hsame hr] at hp
    cases hp
  · intro t ht u hu hsame hsame' hp hp'
    rw [hpending t ht hsame hp, hpending u hu hsame' hp']
  · obtain ⟨t', ht', hk, -⟩ := forall₂_mem_left hkept ht
    exact ⟨t', ht', hk⟩

theorem sameIdentity_projection (hproj : spec.taskType = "PROJECT_DEVICE_STATUS")
    {t : AutomationTask} (h : sameIdentity spec key t = true) : t.dedupeKey = some key := by
  unfold sameIdentity at h
  simp only [hproj, decide_eq_true_eq] at h
  exact h.2

/-- Else the identity is the type and the entity. -/
theorem sameIdentity_entity (hrec : spec.taskType ≠ reconcileType)
    (hproj : spec.taskType ≠ "PROJECT_DEVICE_STATUS")
    {t t' : AutomationTask} (hk : Kept key t t') (h : sameIdentity spec key t' = true) :
    sameIdentity spec key t = true := by
  have hrec : ¬ spec.taskType = "RECONCILE_ALARM_EVENT" := hrec
  unfold sameIdentity at h ⊢
  simp only [hrec, hproj, if_false, hk.taskType, hk.entityId] at h ⊢
  exact h

/-- Another winner is adopted, or the owner's history is taken. -/
theorem adopted_identity (hT : TaskTable tasks) (htype : spec.taskType ≠ reconcileType)
    (h : activeRows tasks spec key = winner :: others) (at_ : DateTime) :
    (∃ tasks' task, adoptWinner (cancelDuplicates tasks at_ others) spec key winner = .ok tasks' ∧
      byId tasks' winner.taskId = some task ∧ UnfinishedIdentity spec key tasks tasks' task) ∨
    (∃ err, adoptWinner (cancelDuplicates tasks at_ others) spec key winner = .error err) ∧
      HistoryTaken tasks key := by
  obtain ⟨hmem, hpending, hrunning⟩ := cancelDuplicates_winner hT h at_
  have hwin := mem_activeRows.mp (h ▸ List.mem_cons_self : winner ∈ activeRows tasks spec key)
  have hcancelled := @cancelDuplicates_kept tasks others key at_
  have hsame : List.Forall₂ (fun t t' => t'.taskId = t.taskId ∧ t'.dedupeKey = t.dedupeKey) tasks
      (cancelDuplicates tasks at_ others) := hcancelled.imp fun _ _ h => ⟨h.1.taskId, h.2⟩
  rcases @adoptWinner_cases (cancelDuplicates tasks at_ others) spec key winner (hT.congr hsame)
      hmem hwin.2.1 with
    ⟨tasks', heq, hT', hkept, hown⟩ | ⟨herr, htaken⟩
  · have hrows : List.Forall₂ (Kept key) tasks tasks' :=
      forall₂_trans (R := Kept key) (fun _ _ _ => Kept.trans) (hcancelled.imp fun _ _ h => h.1)
        (hkept.imp fun _ _ h => h.1)
    obtain ⟨task, htask, hk, hs⟩ := forall₂_mem_left hkept hmem
    have hfound : byId tasks' winner.taskId = some task := by
      rw [← hk.taskId]
      exact byId_of_mem hT'.ids htask
    -- a candidate of the identity is the winner: by its key, or as it was before
    have hone : ∀ t ∈ tasks', sameIdentity spec key t = true → t.status = .pending → t = task := by
      intro t ht hident hp
      refine eq_of_taskId hT'.ids ht htask ?_
      obtain ⟨old, hold, hko, hso⟩ := forall₂_mem_right hkept ht
      by_cases hproj : spec.taskType = "PROJECT_DEVICE_STATUS"
      · rw [hT'.eq_of_key ht htask (sameIdentity_projection hproj hident)
          (hown task htask hk.taskId)]
      · have hold' :=
          hpending old hold (sameIdentity_entity htype hproj hko hident) (hso.symm.trans hp)
        rw [hko.taskId, hk.taskId, hold']
    have hrun : ∀ t ∈ tasks', sameIdentity spec key t = true → t.status = .running →
        task.status = .running := by
      intro t ht hident hr
      obtain ⟨old, hold, hko, hso⟩ := forall₂_mem_right hkept ht
      by_cases hproj : spec.taskType = "PROJECT_DEVICE_STATUS"
      · rw [← hT'.eq_of_key ht htask (sameIdentity_projection hproj hident)
          (hown task htask hk.taskId)]
        exact hr
      · rw [hs]
        exact hrunning old hold (sameIdentity_entity htype hproj hko hident) (hso.symm.trans hr)
    refine .inl ⟨tasks', task, heq, hfound, hT', ⟨htask, ?_⟩, fun _ =>
      hown task htask hk.taskId, ?_, ?_, fun t ht => ?_⟩
    · rw [unfinished_iff, hs]
      exact unfinished_iff.mp hwin.2.1
    · rintro ⟨t, ht, hident, hr⟩ u hu hident' hp
      obtain rfl := hone u hu hident' hp
      rw [hrun t ht hident hr] at hp
      cases hp
    · intro t ht u hu hident hident' hp hp'
      rw [hone t ht hident hp, hone u hu hident' hp']
    · exact forall₂_mem_left hrows ht
  · exact .inr ⟨herr, htaken.of_rows hsame⟩

/-- **Every call** on a table of the schema leaves one unfinished task for its
identity, or raises: on a blank argument, or where the history key of the
key's owner is another row's. -/
theorem createOrGetUnfinished_identity (hT : TaskTable tasks) (a : RuntimeActivation)
    {newId : String} (hfresh : ∀ t ∈ tasks, t.taskId ≠ newId) (spec : TaskSpec) (key : String) :
    (∃ tasks' task, createOrGetUnfinished tasks a newId spec key = .ok (tasks', task) ∧
      UnfinishedIdentity spec key tasks tasks' task) ∨
    (∃ err, createOrGetUnfinished tasks a newId spec key = .error err) ∧
      (blank spec.taskType = true ∨ blank spec.entityId = true ∨ blank key = true ∨
        HistoryTaken tasks key) := by
  unfold createOrGetUnfinished
  by_cases h1 : blank spec.taskType = true
  · rw [if_pos h1]
    exact .inr ⟨⟨_, rfl⟩, .inl h1⟩
  by_cases h2 : blank spec.entityId = true
  · rw [if_neg h1, if_pos h2]
    exact .inr ⟨⟨_, rfl⟩, .inr (.inl h2)⟩
  by_cases h3 : blank key = true
  · rw [if_neg h1, if_neg h2, if_pos h3]
    exact .inr ⟨⟨_, rfl⟩, .inr (.inr (.inl h3))⟩
  rw [if_neg h1, if_neg h2, if_neg h3]
  cases hrows : activeRows tasks spec key with
  | nil =>
    simp only
    cases hrelease : releaseDedupeKey tasks key none with
    | error err => exact .inr ⟨⟨err, rfl⟩, .inr (.inr (.inr (releaseDedupeKey_error hrelease)))⟩
    | ok released => exact .inl ⟨_, _, rfl, inserted_identity hT hfresh hrows hrelease⟩
  | cons winner others =>
    simp only
    have hwin := mem_activeRows.mp (hrows ▸ List.mem_cons_self : winner ∈ activeRows tasks spec key)
    by_cases htype : spec.taskType = reconcileType
    · have hI := reconcile_identity hT htype hrows spec.createdAt
      rw [if_pos (show spec.taskType = "RECONCILE_ALARM_EVENT" from htype)]
      simp only [byId_of_mem hI.table.ids hI.returned.1]
      exact .inl ⟨_, _, rfl, hI⟩
    · rw [if_neg (show ¬ spec.taskType = "RECONCILE_ALARM_EVENT" from htype)]
      rcases adopted_identity hT htype hrows spec.createdAt with ⟨tasks', task, heq, hfound,
        hI⟩ | ⟨⟨err, heq⟩, htaken⟩
      · simp only [heq, hfound]
        exact .inl ⟨_, _, rfl, hI⟩
      · simp only [heq]
        exact .inr ⟨⟨err, rfl⟩, .inr (.inr (.inr htaken))⟩

/-- A table left from an older version: the key is a succeeded row's, and two
duplicates are pending. -/
def legacyTasks : List AutomationTask :=
  let row : AutomationTask :=
    { taskId := "t1", taskType := "SYNC_STANDARD", entityType := "SYSTEM", entityId := "standards"
      dueAt := .utc 5000000, createdAt := .utc 0, updatedAt := .utc 0 }
  [{ row with status := .succeeded, dedupeKey := some "SYNC_STANDARD" },
      { row with taskId := "t2" },
    { row with taskId := "t3", dueAt := .utc 4000000, dedupeKey := some "SYNC_STANDARD:old" }]

def legacySpec : TaskSpec :=
  { taskType := "SYNC_STANDARD", entityType := "SYSTEM", entityId := "standards", dueAt := .utc 3000000
    dedupeKey := none, createdAt := .utc 1000000 }

/-- One duplicate takes the key, the other is cancelled, the old owner is archived. -/
theorem createOrGetUnfinished_identity_legacy : ∃ tasks' task,
    createOrGetUnfinished legacyTasks { mode := "shadow" } "t4" legacySpec "SYNC_STANDARD" =
      .ok (tasks', task) ∧
      UnfinishedIdentity legacySpec "SYNC_STANDARD" legacyTasks tasks' task := by
  rcases @createOrGetUnfinished_identity legacyTasks (by decide) { mode := "shadow" }
      "t4" (by decide) legacySpec
    "SYNC_STANDARD" with hok | ⟨-, hblank | hblank | hblank | htaken⟩
  · exact hok
  · exact absurd hblank (by decide)
  · exact absurd hblank (by decide)
  · exact absurd hblank (by decide)
  · unfold HistoryTaken at htaken
    exact absurd htaken (by decide)

/-- The history key that the key's owner would be given is a row's already. -/
def heldHistoryTasks : List AutomationTask :=
  let row : AutomationTask :=
    { taskId := "t1", taskType := "SYNC_STANDARD", entityType := "SYSTEM", entityId := "standards"
      dueAt := .utc 5000000, createdAt := .utc 0, updatedAt := .utc 0 }
  [{ row with status := .succeeded, dedupeKey := some "SYNC_STANDARD" },
    { row with taskId := "t2", status := .succeeded, dedupeKey := some "SYNC_STANDARD:HISTORY:t1" },
    { row with taskId := "t3", dueAt := .utc 4000000 }, { row with taskId := "t4" }]

theorem heldHistory_rows : activeRows heldHistoryTasks legacySpec "SYNC_STANDARD" =
    heldHistoryTasks.filter fun t => t.unfinished && sameIdentity legacySpec "SYNC_STANDARD" t :=
  List.mergeSort_of_pairwise (by decide)

/-- The call raises, and the two pending rows of the identity stay. -/
theorem heldHistory_unsettled : TaskTable heldHistoryTasks ∧
    (∀ t ∈ heldHistoryTasks, t.taskId ≠ "t5") ∧
    blank legacySpec.taskType = false ∧ blank legacySpec.entityId = false ∧
      blank "SYNC_STANDARD" = false ∧
    (∃ err, createOrGetUnfinished heldHistoryTasks { mode := "shadow" }
      "t5" legacySpec "SYNC_STANDARD" = .error err) ∧
    ∃ t ∈ heldHistoryTasks, ∃ u ∈ heldHistoryTasks, t ≠ u ∧ t.status = .pending ∧
        u.status = .pending ∧
      sameIdentity legacySpec "SYNC_STANDARD" t = true ∧
        sameIdentity legacySpec "SYNC_STANDARD" u = true := by
  refine ⟨by decide, by decide, by decide, by decide, by decide, ?_, by decide⟩
  unfold createOrGetUnfinished
  rw [heldHistory_rows]
  exact ⟨_, rfl⟩

end Identity

end TemperatureMonitor
