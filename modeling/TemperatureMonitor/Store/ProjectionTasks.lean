/-
# Tasks of the device projection

For a `PROJECT_DEVICE_STATUS` task `create_or_get_unfinished` knows a task by
its dedupe key alone. With unique ids and keys it does one of two things
(`createOrGetUnfinished_projection`): an unfinished row of the key is returned,
pulled forward to the due time asked for if it is pending and due later; or the
row that has the key is archived and a new row inserted.
-/
import TemperatureMonitor.Store.QueueRows

namespace TemperatureMonitor

section Projection

variable {tasks : List AutomationTask} {spec : TaskSpec} {key newId : String} {w : AutomationTask}

def projectionType : String := "PROJECT_DEVICE_STATUS"

/-- A pending row that is due later is pulled forward. -/
def pullForward (spec : TaskSpec) (t : AutomationTask) : AutomationTask :=
  if t.status = .pending ∧ spec.dueAt.instant < t.dueAt.instant ∧
      spec.dueAt.isoformat < t.dueAt.isoformat then
    { t with dueAt := spec.dueAt, updatedAt := spec.createdAt }
  else t

/-- The row that has the key gives it up. -/
def archiveKey (key : String) (t : AutomationTask) : AutomationTask :=
  if t.dedupeKey = some key then { t with dedupeKey := some (historyKey key t) } else t

theorem pullForward_slot (spec : TaskSpec) (t : AutomationTask) : SameSlot t (pullForward spec t) ∧
    (pullForward spec t).payload = t.payload ∧ (pullForward spec t).dedupeKey = t.dedupeKey ∧
      (pullForward spec t).entityId = t.entityId := by
  unfold pullForward
  split_ifs
  · exact ⟨⟨rfl, rfl, rfl, rfl⟩, rfl, rfl, rfl⟩
  · exact ⟨.refl t, rfl, rfl, rfl⟩

/-- The row of an id is updated by itself. -/
theorem updateRow_congr {f g : AutomationTask → AutomationTask} {taskId : String}
    (h : ∀ t ∈ tasks, t.taskId = taskId → f t = g t) :
    updateRow tasks taskId f = updateRow tasks taskId g := by
  unfold updateRow
  apply List.map_congr_left
  intro t ht
  by_cases hid : t.taskId = taskId
  · rw [if_pos hid, if_pos hid, h t ht hid]
  · rw [if_neg hid, if_neg hid]

theorem updateRow_self (taskId : String) : updateRow tasks taskId (fun t => t) = tasks := by
  unfold updateRow
  simp

theorem updateRow_ids {f : AutomationTask → AutomationTask} (hf : ∀ t, (f t).taskId = t.taskId)
    (taskId : String) : (updateRow tasks taskId f).map (·.taskId) = tasks.map (·.taskId) := by
  unfold updateRow
  rw [List.map_map]
  apply List.map_congr_left
  intro t _
  by_cases h : t.taskId = taskId
  · simp [h, hf]
  · simp [h]

theorem mem_updateRow {f : AutomationTask → AutomationTask} {t : AutomationTask} {taskId : String} :
    t ∈ updateRow tasks taskId f ↔ ∃ u ∈ tasks, (if u.taskId = taskId then f u else u) = t :=
  List.mem_map

theorem byId_updateRow {f : AutomationTask → AutomationTask} {t : AutomationTask}
    (hn : (tasks.map (·.taskId)).Nodup)
    (ht : t ∈ tasks) (hf : ∀ t, (f t).taskId = t.taskId) :
    byId (updateRow tasks t.taskId f) t.taskId = some (f t) := by
  have hn' : ((updateRow tasks t.taskId f).map (·.taskId)).Nodup := by
    rw [updateRow_ids hf]
    exact hn
  have hmem : f t ∈ updateRow tasks t.taskId f := mem_updateRow.mpr ⟨t, ht, if_pos rfl⟩
  have hfound := byId_of_mem hn' hmem
  rw [hf t] at hfound
  exact hfound

theorem finishRow_taskId (error : Option String) (at_ : DateTime) (t : AutomationTask) :
    (finishRow error at_ t).taskId = t.taskId := by
  unfold finishRow
  split_ifs <;> rfl

theorem releaseDedupeKey_none (hT : TaskTable tasks) (hhist : ¬HistoryTaken tasks key) :
    releaseDedupeKey tasks key none = .ok (tasks.map (archiveKey key)) := by
  cases hrel : releaseDedupeKey tasks key none with
  | error e => exact absurd (releaseDedupeKey_error hrel) hhist
  | ok released =>
    congr 1
    unfold releaseDedupeKey at hrel
    split at hrel
    · rename_i hnone
      obtain rfl := Except.ok.inj hrel
      symm
      rw [← List.map_id tasks, List.map_map]
      apply List.map_congr_left
      intro t ht
      exact if_neg (byDedupeKey_none hnone t ht)
    · rename_i owner howner
      obtain ⟨hmem, hkey, -⟩ := byDedupeKey_some howner
      rw [if_neg (by simp)] at hrel
      unfold setDedupeKey at hrel
      split_ifs at hrel
      obtain rfl := Except.ok.inj hrel
      apply List.map_congr_left
      intro t ht
      by_cases hid : t.taskId = owner.taskId
      · obtain rfl := eq_of_taskId hT.ids ht hmem hid
        rw [if_pos rfl, archiveKey, if_pos hkey]
        rfl
      · rw [if_neg hid, archiveKey, if_neg fun hk =>
          hid (congrArg _ (hT.eq_of_key ht hmem hk hkey))]

/-- The candidates have the key. -/
theorem activeRows_projection (hT : TaskTable tasks) (htype : spec.taskType = projectionType) :
    (∃ w ∈ tasks, w.unfinished = true ∧ w.taskType = projectionType ∧ w.dedupeKey = some key ∧
      activeRows tasks spec key = [w]) ∨
    ((∀ w ∈ tasks, w.unfinished = true → w.taskType = projectionType → w.dedupeKey ≠ some key) ∧
      activeRows tasks spec key = []) := by
  have hcand : ∀ t, t ∈ activeRows tasks spec key ↔
      t ∈ tasks ∧ t.unfinished = true ∧ t.taskType = projectionType ∧ t.dedupeKey = some key := by
    intro t
    rw [mem_activeRows]
    unfold sameIdentity
    rw [htype]
    simp [projectionType]
  cases hrows : activeRows tasks spec key with
  | nil =>
    refine .inr ⟨fun w hw hu ht hk => ?_, rfl⟩
    have hmem := (hcand w).mpr ⟨hw, hu, ht, hk⟩
    rw [hrows] at hmem
    cases hmem
  | cons w others =>
    obtain ⟨hw, hu, ht, hk⟩ := (hcand w).mp (hrows ▸ List.mem_cons_self)
    refine .inl ⟨w, hw, hu, ht, hk, ?_⟩
    have hperm : ((w :: others).map (·.taskId)).Nodup := by
      rw [← hrows]
      exact ((List.mergeSort_perm _ _).map _).nodup_iff.mpr
        ((List.filter_sublist.map _).nodup hT.ids)
    cases others with
    | nil => rfl
    | cons u rest =>
      obtain ⟨hu', -, -, hk'⟩ := (hcand u).mp (hrows ▸ List.mem_cons_of_mem _ List.mem_cons_self)
      obtain rfl := hT.eq_of_key hw hu' hk hk'
      simp at hperm

/-- The winner has the key already. -/
theorem adoptWinner_projection (hT : TaskTable tasks) (htype : spec.taskType = projectionType)
    (hw : w ∈ tasks) (hk : w.dedupeKey = some key) :
    adoptWinner tasks spec key w = .ok (updateRow tasks w.taskId (pullForward spec)) := by
  have hrefresh : refreshWinner tasks spec w = tasks :=
    if_neg (by rw [htype]; simp [projectionType])
  have htake : takeKey tasks key w = .ok tasks := by
    unfold takeKey releaseDedupeKey
    cases howner : byDedupeKey tasks (some key) with
    | none => exact absurd hk (byDedupeKey_none howner w hw)
    | some owner =>
      obtain ⟨hmem, hkey, -⟩ := byDedupeKey_some howner
      obtain rfl := hT.eq_of_key hmem hw hkey hk
      simp [hk]
  unfold adoptWinner
  rw [hrefresh, htake]
  show Except.ok (moveEarlier tasks spec w) = _
  congr 1
  have hself : ∀ t ∈ tasks, t.taskId = w.taskId → t = w :=
    fun t ht hid => eq_of_taskId hT.ids ht hw hid
  unfold moveEarlier
  by_cases hdue : w.status = .pending ∧ spec.dueAt.instant < w.dueAt.instant
  · rw [if_pos hdue]
    apply updateRow_congr
    intro t ht hid
    obtain rfl := hself t ht hid
    unfold pullForward
    simp [hdue]
  · rw [if_neg hdue]
    refine (@updateRow_self tasks w.taskId).symm.trans (updateRow_congr ?_)
    intro t ht hid
    obtain rfl := hself t ht hid
    unfold pullForward
    rw [if_neg fun h => hdue ⟨h.1, h.2.1⟩]

/-- **What a request for a projection task does to the table.** -/
theorem createOrGetUnfinished_projection (hT : TaskTable tasks)
    (htype : spec.taskType = projectionType)
    (hentity : blank spec.entityId = false) (hkey : blank key = false)
    (hhist : ¬HistoryTaken tasks key) (a : RuntimeActivation) (newId : String) :
    (∃ w ∈ tasks, w.unfinished = true ∧ w.taskType = projectionType ∧ w.dedupeKey = some key ∧
      createOrGetUnfinished tasks a newId spec key =
        .ok (updateRow tasks w.taskId (pullForward spec), pullForward spec w)) ∨
    ((∀ w ∈ tasks, w.unfinished = true → w.taskType = projectionType → w.dedupeKey ≠ some key) ∧
      createOrGetUnfinished tasks a newId spec key =
        .ok (tasks.map (archiveKey key) ++ [{ spec with dedupeKey := some key }.row a newId],
          { spec with dedupeKey := some key }.row a newId)) := by
  have htypeBlank : blank spec.taskType = false := by
    rw [htype]
    decide
  unfold createOrGetUnfinished
  rw [if_neg (by simp [htypeBlank]), if_neg (by simp [hentity]), if_neg (by simp [hkey])]
  rcases @activeRows_projection tasks spec key hT htype with ⟨w, hw, hu, ht, hk,
    hrows⟩ | ⟨hnone, hrows⟩
  · refine .inl ⟨w, hw, hu, ht, hk, ?_⟩
    have hcancel : cancelDuplicates tasks spec.createdAt [] = tasks := by simp [cancelDuplicates]
    rw [hrows]
    simp only
    rw [hcancel, if_neg (by rw [htype]; simp [projectionType]),
      adoptWinner_projection hT htype hw hk]
    simp only
    have hslot := pullForward_slot spec
    have hid : ∀ t, (pullForward spec t).taskId = t.taskId :=
      fun t => congrArg TaskOrigin.taskId (hslot t).1.origin
    rw [byId_updateRow hT.ids hw hid]
  · refine .inr ⟨hnone, ?_⟩
    rw [hrows]
    simp only
    rw [releaseDedupeKey_none hT hhist]

end Projection

/-! ### Claims of one task -/

section Claim

variable {db : TaskDb} {c : ClaimCall}

/-- The quarantine leaves rows of the epoch in force. -/
theorem quarantine_eq {now : DateTime} (hmode : db.activation.mode = "active")
    (hrows : ∀ t ∈ db.tasks,
      beforeCutover db.activation.activeEpoch (db.activation.activeCutoverAt.getD now) t = false) :
    quarantineLegacyExternalTasks db now none = db := by
  unfold quarantineLegacyExternalTasks
  simp only [truthy, Option.any_none, Bool.false_eq_true, if_false]
  rw [if_neg (by rw [hmode]; decide), if_pos hmode]
  split_ifs
  · have hmap : (db.tasks.map fun t =>
        if beforeCutover db.activation.activeEpoch (db.activation.activeCutoverAt.getD now)
            t = true then
          quarantineRow now "legacy_external_effect_before_active_cutover" t
        else t) = db.tasks.map id := by
      apply List.map_congr_left
      intro t ht
      rw [if_neg (by rw [hrows t ht]; decide)]
      rfl
    rw [hmap, List.map_id]
  · rfl

/-- A claim of one task raises, finds none, or takes one that is due. -/
theorem claimDue_one (hids : (db.tasks.map (·.taskId)).Nodup) (hlimit : c.limit = 1)
    (hheld : quarantineLegacyExternalTasks db c.now none = db) :
    (∃ e, c.check = .error e ∧ claimDue db c = .error e) ∨
      (claimIds db.tasks c = [] ∧ claimDue db c = .ok (db, [])) ∨
      ∃ t ∈ db.tasks, claimable c.now t = true ∧ claimIds db.tasks c = [t.taskId] ∧
        claimDue db c =
          .ok ({ db with tasks := updateRow db.tasks t.taskId (claimRow c.workerId c.now c.leaseUntil) },
          [claimRow c.workerId c.now c.leaseUntil t]) := by
  unfold claimDue
  cases hcheck : c.check with
  | error e => exact .inl ⟨e, rfl, rfl⟩
  | ok u =>
    right
    simp only [hheld]
    have hlen : (claimIds db.tasks c).length ≤ 1 := by
      unfold claimIds
      rw [hlimit, List.length_map]
      exact List.length_take_le _ _
    cases hclaimed : claimIds db.tasks c with
    | nil =>
      left
      refine ⟨rfl, ?_⟩
      unfold claimTransaction
      rw [hclaimed]
      simp
    | cons taskId rest =>
      have hrest : rest = [] := by
        rw [hclaimed, List.length_cons] at hlen
        exact List.length_eq_zero_iff.mp (by omega)
      subst hrest
      right
      have hmem : taskId ∈ claimIds db.tasks c := by
        rw [hclaimed]
        exact List.mem_singleton_self _
      obtain ⟨t, ht, rfl⟩ := List.mem_map.mp hmem
      have ht : t ∈ db.tasks :=
        (List.mem_filter.mp (List.mem_mergeSort.mp (List.mem_of_mem_take ht))).1
      refine ⟨t, ht, claimIds_claimable hids ht hmem, rfl, ?_⟩
      have htasks : (claimTransaction db.tasks c).1 =
          updateRow db.tasks t.taskId (claimRow c.workerId c.now c.leaseUntil) := by
        unfold claimTransaction updateRow
        rw [hclaimed]
        simp
      have hfound := byId_updateRow hids ht (claimRow_taskId c.workerId c.now c.leaseUntil)
      have hout : (claimTransaction db.tasks c).2 = [claimRow c.workerId c.now c.leaseUntil t] := by
        show (claimIds db.tasks c).filterMap (byId (claimTransaction db.tasks c).1) = _
        rw [htasks, hclaimed]
        simp [hfound]
      rw [htasks, hout]

end Claim

end TemperatureMonitor
