/-
# Times compared as texts

A recovery, a claim and the quarantine compare the times of a row as the table
holds them, as texts; `health_summary` and `external_effect_allowed` compare
instants. A text shows a clock before its offset (`isoformat_le_iff_readsBy`),
so the two agree exactly where the clocks of two times are in the order of
their instants: `boundaries_agree_iff`.
-/
import TemperatureMonitor.Store.Epochs

namespace TemperatureMonitor

/-- The two times are in one order as texts and as instants. -/
def SameOrder (s t : DateTime) : Prop := s.ReadsBy t ↔ s.instant ≤ t.instant

instance (s t : DateTime) : Decidable (SameOrder s t) := by
  unfold SameOrder
  infer_instance

/-- Created in mode active, in the epoch in force and not before its cutover: what
`external_effect_allowed` asks of a row's creation. -/
def CreatedInEpoch (a : RuntimeActivation) (t : AutomationTask) : Prop :=
  t.createdMode = some "active" ∧ t.activeEpoch = a.activeEpoch ∧
    ∃ c, a.activeCutoverAt = some c ∧ c.instant ≤ t.createdAt.instant

/-- The due time or the end of the lease is not after the time. -/
def DueBy (now : DateTime) (t : AutomationTask) : Prop :=
  t.status = .pending ∧ t.dueAt.instant ≤ now.instant ∨
    t.status = .running ∧ ∃ l, t.leaseUntil = some l ∧ l.instant ≤ now.instant

/-- An active runtime has an epoch and a cutover. -/
def RuntimeActivation.Bounded (a : RuntimeActivation) : Prop :=
  a.mode = "active" → truthy a.activeEpoch = true ∧ ∃ c, a.activeCutoverAt = some c ∧ c.Supported

/-- The times of a row are in the years of `datetime`. -/
structure AutomationTask.TimesSupported (t : AutomationTask) : Prop where
  dueAt : t.dueAt.Supported
  createdAt : t.createdAt.Supported
  leaseUntil : ∀ l, t.leaseUntil = some l → l.Supported

/-- What the calls that compare texts do is what the instants say. -/
structure BoundariesAgree (db : TaskDb) (now : DateTime) (staleAfter : ℤ) : Prop where
  /-- A recovery requeues the rows that `health_summary` counts as stale. -/
  requeued : recoverStaleTasks db.tasks now staleAfter =
    .ok (db.tasks.map fun t => if isStale now (now.add (-staleAfter)) t then
      requeueRow now t else t)
  /-- A claim returns rows that are due. -/
  claimed : ∀ c : ClaimCall, c.now = now → ∀ db' out, claimDue db c = .ok (db', out) →
    ∀ t ∈ out, ∃ r ∈ db.tasks, r.taskId = t.taskId ∧ DueBy now r
  /-- The quarantine leaves the external effects of the epoch. -/
  kept : db.activation.mode = "active" → ∀ activeEpoch, activeEpoch = none ∨
      activeEpoch = db.activation.activeEpoch →
    ∀ t ∈ db.tasks, t.status = .pending → isExternal t = true →
      (t ∈ (quarantineLegacyExternalTasks db now activeEpoch).tasks ↔
        CreatedInEpoch db.activation t)

/-- The clocks of the times that are compared are in the order of the instants. -/
structure ClocksAgree (db : TaskDb) (now : DateTime) (staleAfter : ℤ) : Prop where
  lease : ∀ t ∈ db.tasks, t.status = .running → ∀ l, t.leaseUntil = some l → SameOrder l now
  stale : ∀ t ∈ db.tasks, t.status = .pending → SameOrder t.dueAt (now.add (-staleAfter))
  /-- A row that may run and reads due is due. -/
  due : ∀ t ∈ db.tasks, t.status = .pending →
    (isExternal t = false ∨ db.activation.mode ∉ runtimeModes ∨
      db.activation.mode = "active" ∧ CreatedInEpoch db.activation t) →
    t.dueAt.ReadsBy now → t.dueAt.instant ≤ now.instant
  cutover : db.activation.mode = "active" → ∀ t ∈ db.tasks, t.status = .pending →
      isExternal t = true →
    t.createdMode = some "active" → t.activeEpoch = db.activation.activeEpoch →
    ∀ c, db.activation.activeCutoverAt = some c → SameOrder c t.createdAt

/-! ### Recovery -/

section Recovery

variable {now cutoff : DateTime} {staleAfter : ℤ} {t : AutomationTask}

/-- A row is recovered as a stale one exactly if its time is in one order with the boundary. -/
theorem isRecoverable_eq_isStale (ht : t.TimesSupported) (hnow : now.Supported)
    (hcut : cutoff.Supported) : isRecoverable now cutoff t = isStale now cutoff t ↔
      (t.status = .running → ∀ l, t.leaseUntil = some l → SameOrder l now) ∧
        (t.status = .pending → SameOrder t.dueAt cutoff) := by
  unfold isRecoverable isStale SameOrder
  by_cases hrun : t.status = .running
  · cases hl : t.leaseUntil with
    | none => simp [hrun]
    | some l =>
      have htext := DateTime.isoformat_le_iff_readsBy (ht.leaseUntil l hl) hnow
      simp [hrun, htext]
  · by_cases hpend : t.status = .pending
    · have htext := DateTime.isoformat_le_iff_readsBy ht.dueAt hcut
      simp [hpend, htext]
    · simp [hrun, hpend]

/-- A requeued row differs from what it was. -/
theorem requeueRow_ne (hcut : cutoff.Supported) (hnow : now.Supported)
    (hlt : cutoff.instant < now.instant)
    (ho : cutoff.offset = now.offset)
    (h : isRecoverable now cutoff t = true ∨ isStale now cutoff t = true) :
    requeueRow now t ≠ t := by
  intro he
  have hstatus : t.status = .pending := by rw [← he]; rfl
  have hdue : t.dueAt = now := by rw [← he]; rfl
  have htext : ¬now.isoformat ≤ cutoff.isoformat :=
    not_le.mpr (DateTime.isoformat_lt ho hcut hnow hlt)
  rcases h with h | h
  · simp [isRecoverable, hstatus, hdue, htext] at h
  · simp only [isStale, hstatus, hdue, reduceCtorEq, if_false, decide_true, Bool.true_and,
      decide_eq_true_eq] at h
    omega

theorem recoverStaleTasks_eq_iff {tasks : List AutomationTask} (hpos : 0 < staleAfter)
    (htasks : ∀ t ∈ tasks, t.TimesSupported) (hnow : now.Supported)
    (hcut : (now.add (-staleAfter)).Supported) : recoverStaleTasks tasks now staleAfter =
        .ok (tasks.map fun t => if isStale now (now.add (-staleAfter)) t then
          requeueRow now t else t) ↔
      ∀ t ∈ tasks, (t.status = .running → ∀ l, t.leaseUntil = some l → SameOrder l now) ∧
        (t.status = .pending → SameOrder t.dueAt (now.add (-staleAfter))) := by
  unfold recoverStaleTasks
  rw [if_neg (by omega), Except.ok.injEq, List.map_inj_left]
  refine forall₂_congr fun t ht => ?_
  rw [← isRecoverable_eq_isStale (htasks t ht) hnow hcut]
  constructor
  · intro h
    have hne := requeueRow_ne (t := t) hcut hnow (by simp only [DateTime.add_instant]; omega) rfl
    by_cases hr : isRecoverable now (now.add (-staleAfter)) t = true
    · by_cases hs : isStale now (now.add (-staleAfter)) t = true
      · rw [hr, hs]
      · rw [if_pos hr, if_neg hs] at h
        exact absurd h (hne (.inl hr))
    · by_cases hs : isStale now (now.add (-staleAfter)) t = true
      · rw [if_neg hr, if_pos hs] at h
        exact absurd h.symm (hne (.inr hs))
      · rw [Bool.not_eq_true] at hr hs
        rw [hr, hs]
  · intro h
    rw [h]

end Recovery

/-! ### The quarantine -/

section Quarantine

variable {db : TaskDb} {now : DateTime} {activeEpoch : Option String} {t : AutomationTask}

/-- The quarantine holds an unfinished external effect back. -/
def Held (db : TaskDb) (now : DateTime) (activeEpoch : Option String) (t : AutomationTask) : Prop :=
  db.activation.mode ∈ runtimeModes ∧ (db.activation.mode = "active" →
    truthy (if truthy activeEpoch then activeEpoch else db.activation.activeEpoch) = true ∧
      beforeCutover (if truthy activeEpoch then activeEpoch else db.activation.activeEpoch)
        (db.activation.activeCutoverAt.getD now) t = true)

theorem quarantineRow_eq_self {reason : String} :
    quarantineRow now reason t = t ↔ ¬(isExternal t = true ∧ t.unfinished = true) := by
  constructor
  · rintro h ⟨hx, hu⟩
    rw [quarantineRow_eq hx hu] at h
    rw [← h] at hu
    cases hu
  · intro h
    exact if_neg h

theorem mem_map_self {tasks : List AutomationTask} {f : AutomationTask → AutomationTask}
    (hids : (tasks.map (·.taskId)).Nodup) (hf : ∀ u, (f u).taskId = u.taskId) (ht : t ∈ tasks) :
    t ∈ tasks.map f ↔ f t = t := by
  constructor
  · intro h
    obtain ⟨u, hu, he⟩ := List.mem_map.mp h
    have hid : u.taskId = t.taskId := by rw [← he, hf]
    rwa [eq_of_taskId hids hu ht hid] at he
  · intro h
    exact List.mem_map.mpr ⟨t, ht, h⟩

theorem quarantineRow_taskId (now : DateTime) (reason : String) (t : AutomationTask) :
    (quarantineRow now reason t).taskId = t.taskId := by
  unfold quarantineRow
  split_ifs <;> rfl

/-- A row stays as it is unless it is an unfinished external effect that is held back. -/
theorem mem_quarantine (hids : (db.tasks.map (·.taskId)).Nodup) (ht : t ∈ db.tasks) :
    t ∈ (quarantineLegacyExternalTasks db now activeEpoch).tasks ↔
      ¬(isExternal t = true ∧ t.unfinished = true ∧ Held db now activeEpoch t) := by
  unfold quarantineLegacyExternalTasks Held
  dsimp only
  generalize (if truthy activeEpoch = true then activeEpoch else db.activation.activeEpoch) = epoch
  by_cases hmode : db.activation.mode ∈ runtimeModes
  · rw [if_neg (not_not.mpr hmode)]
    by_cases hactive : db.activation.mode = "active"
    · rw [if_pos hactive]
      by_cases hepoch : truthy epoch = true
      · rw [if_pos hepoch, mem_map_self hids ?_ ht]
        · by_cases hb : beforeCutover epoch (db.activation.activeCutoverAt.getD now) t = true
          · simp [hb, quarantineRow_eq_self, hmode, hepoch]
          · simp [hb, hactive]
        · intro u
          split_ifs
          · exact quarantineRow_taskId _ _ u
          · rfl
      · simp [hepoch, hactive, ht]
    · rw [if_neg hactive, mem_map_self hids (quarantineRow_taskId _ _) ht, quarantineRow_eq_self]
      simp [hmode, hactive]
  · simp [hmode, ht]

/-- Held back in mode active: the mode, the epoch or the clock of the creation. -/
theorem held_active_iff (hmode : db.activation.mode = "active") (hb : db.activation.Bounded)
    (hae : activeEpoch = none ∨ activeEpoch = db.activation.activeEpoch) (ht : t.TimesSupported)
    {c : DateTime} (hc : db.activation.activeCutoverAt = some c) :
    ¬Held db now activeEpoch t ↔ t.createdMode = some "active" ∧
      t.activeEpoch = db.activation.activeEpoch ∧
      c.ReadsBy t.createdAt := by
  obtain ⟨htruthy, c', hc', hsup⟩ := hb hmode
  obtain rfl : c = c' := Option.some.inj (hc.symm.trans hc')
  have hepoch : (if truthy activeEpoch then activeEpoch else db.activation.activeEpoch) =
      db.activation.activeEpoch := by
    rcases hae with rfl | rfl
    · rfl
    · rw [ite_self]
  rw [← DateTime.isoformat_le_iff_readsBy hsup ht.createdAt]
  have hknown : "active" ∈ runtimeModes := by decide
  simp only [Held, hepoch, hmode, htruthy, hc, hknown, beforeCutover, Option.getD_some, true_and,
      true_implies,
    Bool.or_eq_true, decide_eq_true_eq, not_or, ne_eq, not_not, not_lt, and_assoc]

end Quarantine

/-! ### Claims -/

section Claims

variable {db db' : TaskDb} {c : ClaimCall} {out : List AutomationTask} {t : AutomationTask}

theorem quarantine_ids (hids : (db.tasks.map (·.taskId)).Nodup) (now : DateTime)
    (activeEpoch : Option String) :
    ((quarantineLegacyExternalTasks db now activeEpoch).tasks.map (·.taskId)).Nodup := by
  rw [forall₂_ids (fun t t' ht => ?_) (quarantine_rows db now activeEpoch)]
  · exact hids
  · rcases ht with rfl | ⟨-, -, reason, rfl⟩
    · rfl
    · exact quarantineRow_taskId _ _ t

/-- What a claim returns is a row that the quarantine left and that could be claimed. -/
theorem claimDue_row (hids : (db.tasks.map (·.taskId)).Nodup) (h : claimDue db c = .ok (db', out))
    (ht : t ∈ out) : ∃ r ∈ db.tasks, r.taskId = t.taskId ∧ claimable c.now r = true ∧
      r ∈ (quarantineLegacyExternalTasks db c.now none).tasks := by
  have hn := quarantine_ids hids c.now none
  unfold claimDue at h
  split at h
  · cases h
  cases h
  obtain ⟨id, hid, hfound⟩ := List.mem_filterMap.mp ht
  obtain ⟨r, hr, hrow⟩ := forall₂_mem_right (claimTransaction_rows hn) (byId_mem hfound).1
  rcases hrow with ⟨hc, -, rfl⟩ | ⟨rfl, hno⟩
  · obtain ⟨r', hr', hq⟩ := forall₂_mem_right (quarantine_rows db c.now none) hr
    rcases hq with rfl | ⟨hx, hu, reason, rfl⟩
    · exact ⟨r, hr', (claimRow_taskId _ _ _ r).symm, hc, hr⟩
    · rw [quarantineRow_eq hx hu] at hc
      simp [claimable] at hc
  · exact absurd rfl (hno t ht)

/-- A claim with no exclusion and room for every row. -/
def wideClaim (db : TaskDb) (now : DateTime) : ClaimCall := { now, limit := db.tasks.length + 1 }

/-- Such a claim returns every row that the quarantine left and that can be claimed. -/
theorem wideClaim_returns {now : DateTime}
    (hleft : t ∈ (quarantineLegacyExternalTasks db now none).tasks) (hc : claimable now t = true) :
    ∃ db' out, claimDue db (wideClaim db now) = .ok (db', out) ∧
      ∃ u ∈ out, u.taskId = t.taskId := by
  have hcheck : (wideClaim db now).check = .ok () := by
    have hlimit : ¬((db.tasks.length : ℤ) + 1 ≤ 0) := by omega
    have hworker : blank "scheduler" = false := by decide
    simp [ClaimCall.check, wideClaim, hlimit, hworker]
  have hlen : (quarantineLegacyExternalTasks db now none).tasks.length = db.tasks.length :=
    (quarantine_rows db now none).length_eq.symm
  have hid :
      t.taskId ∈ claimIds (quarantineLegacyExternalTasks db now none).tasks (wideClaim db now) := by
    unfold claimIds
    rw [List.take_of_length_le]
    · refine List.mem_map.mpr ⟨t, List.mem_mergeSort.mpr (List.mem_filter.mpr ⟨hleft, ?_⟩), rfl⟩
      simp [wideClaim, hc]
    · rw [List.length_mergeSort]
      have hfilter := List.length_filter_le (fun u => claimable (wideClaim db now).now u &&
        !(wideClaim db now).excludeTaskIds.contains u.taskId)
          (quarantineLegacyExternalTasks db now none).tasks
      simp only [wideClaim] at hfilter ⊢
      omega
  refine ⟨_, _, by simp only [claimDue, hcheck]; rfl, ?_⟩
  obtain ⟨u, hu⟩ : ∃ u, byId (claimTransaction (quarantineLegacyExternalTasks db now none).tasks
      (wideClaim db now)).1 t.taskId = some u := by
    refine Option.isSome_iff_exists.mp
      (List.find?_isSome.mpr ⟨_, List.mem_map.mpr ⟨t, hleft, rfl⟩, ?_⟩)
    rw [if_pos hid, decide_eq_true_eq]
    exact claimRow_taskId _ _ _ t
  exact ⟨u, List.mem_filterMap.mpr ⟨_, hid, hu⟩, (byId_mem hu).2⟩

end Claims

/-! ### The boundaries -/

section Boundaries

variable {db : TaskDb} {now : DateTime} {staleAfter : ℤ} {t : AutomationTask}

theorem pending_unfinished (h : t.status = .pending) : t.unfinished = true :=
  unfinished_iff.mpr (.inl h)

/-- A pending external effect is left exactly if it reads as one of the epoch. -/
theorem left_iff_reads (hids : (db.tasks.map (·.taskId)).Nodup) (hb : db.activation.Bounded)
    (hmode : db.activation.mode = "active") {activeEpoch : Option String}
    (hae : activeEpoch = none ∨ activeEpoch = db.activation.activeEpoch) (ht : t ∈ db.tasks)
    (hts : t.TimesSupported) (hp : t.status = .pending) (hx : isExternal t = true) {c : DateTime}
    (hc : db.activation.activeCutoverAt = some c) :
    t ∈ (quarantineLegacyExternalTasks db now activeEpoch).tasks ↔
      t.createdMode = some "active" ∧ t.activeEpoch = db.activation.activeEpoch ∧
        c.ReadsBy t.createdAt := by
  have hheld : ¬Held db now activeEpoch t ↔ _ := held_active_iff hmode hb hae hts hc
  rw [mem_quarantine hids ht, ← hheld]
  simp [hx, pending_unfinished hp]

theorem createdInEpoch_iff {a : RuntimeActivation} {c : DateTime}
    (hc : a.activeCutoverAt = some c) : CreatedInEpoch a t ↔
      t.createdMode = some "active" ∧ t.activeEpoch = a.activeEpoch ∧
        c.instant ≤ t.createdAt.instant := by
  simp [CreatedInEpoch, hc]

/-- With the clocks of the creations in order, the quarantine leaves the rows of the epoch. -/
theorem ClocksAgree.kept (h : ClocksAgree db now staleAfter)
    (hids : (db.tasks.map (·.taskId)).Nodup)
    (hb : db.activation.Bounded) (htasks : ∀ t ∈ db.tasks, t.TimesSupported)
    (hmode : db.activation.mode = "active")
    {activeEpoch : Option String}
    (hae : activeEpoch = none ∨ activeEpoch = db.activation.activeEpoch)
    (ht : t ∈ db.tasks) (hp : t.status = .pending) (hx : isExternal t = true) :
    t ∈ (quarantineLegacyExternalTasks db now activeEpoch).tasks ↔
      CreatedInEpoch db.activation t := by
  obtain ⟨-, c, hc, -⟩ := hb hmode
  rw [left_iff_reads hids hb hmode hae ht (htasks t ht) hp hx hc, createdInEpoch_iff hc]
  constructor
  · rintro ⟨hm, he, hr⟩
    exact ⟨hm, he, (h.cutover hmode t ht hp hx hm he c hc).mp hr⟩
  · rintro ⟨hm, he, hi⟩
    exact ⟨hm, he, (h.cutover hmode t ht hp hx hm he c hc).mpr hi⟩

/-- With the clocks in order, what a claim returns is due. -/
theorem ClocksAgree.claimed (h : ClocksAgree db now staleAfter)
    (hids : (db.tasks.map (·.taskId)).Nodup)
    (hb : db.activation.Bounded) (htasks : ∀ t ∈ db.tasks, t.TimesSupported) (hnow : now.Supported)
    {c : ClaimCall}
    (hc : c.now = now) {db' : TaskDb} {out : List AutomationTask}
    (hclaim : claimDue db c = .ok (db', out))
    (ht : t ∈ out) : ∃ r ∈ db.tasks, r.taskId = t.taskId ∧ DueBy now r := by
  subst hc
  obtain ⟨r, hr, hid, hcl, hleft⟩ := claimDue_row hids hclaim ht
  refine ⟨r, hr, hid, ?_⟩
  have hrs := htasks r hr
  simp only [claimable, decide_eq_true_eq] at hcl
  rcases hcl with ⟨hp, hdue⟩ | ⟨hrun, hlease⟩
  · refine .inl ⟨hp, h.due r hr hp ?_ ((DateTime.isoformat_le_iff_readsBy hrs.dueAt hnow).mp hdue)⟩
    by_cases hx : isExternal r = true
    · right
      by_cases hmode : db.activation.mode ∈ runtimeModes
      · right
        have hactive : db.activation.mode = "active" := by
          by_contra hno
          exact (mem_quarantine hids hr).mp hleft ⟨hx, pending_unfinished hp, hmode, fun hm =>
            absurd hm hno⟩
        exact ⟨hactive, (h.kept hids hb htasks hactive (.inl rfl) hr hp hx).mp hleft⟩
      · exact .inl hmode
    · exact .inl (Bool.eq_false_iff.mpr hx)
  · obtain ⟨l, hl, hle⟩ := (Option.any_eq_true _ _).mp hlease
    have hl' : r.leaseUntil = some l := hl
    rw [decide_eq_true_eq, DateTime.isoformat_le_iff_readsBy (hrs.leaseUntil l hl') hnow] at hle
    exact .inr ⟨hrun, l, hl', (h.lease r hr hrun l hl').mp hle⟩

/-- Where no claim is early, a row that may run and reads due is due. -/
theorem BoundariesAgree.due (h : BoundariesAgree db now staleAfter)
    (hids : (db.tasks.map (·.taskId)).Nodup)
    (htasks : ∀ t ∈ db.tasks, t.TimesSupported) (hnow : now.Supported) (ht : t ∈ db.tasks)
    (hp : t.status = .pending) (hrun : isExternal t = false ∨ db.activation.mode ∉ runtimeModes ∨
      db.activation.mode = "active" ∧ CreatedInEpoch db.activation t)
    (hreads : t.dueAt.ReadsBy now) : t.dueAt.instant ≤ now.instant := by
  have hleft : t ∈ (quarantineLegacyExternalTasks db now none).tasks := by
    by_cases hx : isExternal t = true
    · rcases hrun with hno | hmode | ⟨hactive, hcreated⟩
      · rw [hx] at hno
        cases hno
      · exact (mem_quarantine hids ht).mpr fun hheld => hmode hheld.2.2.1
      · exact (h.kept hactive none (.inl rfl) t ht hp hx).mpr hcreated
    · exact (mem_quarantine hids ht).mpr fun hheld => hx hheld.1
  have hclaim : claimable now t = true := by
    have htext := (DateTime.isoformat_le_iff_readsBy (htasks t ht).dueAt hnow).mpr hreads
    simp [claimable, hp, htext]
  obtain ⟨db', out, hout, u, hu, hid⟩ := wideClaim_returns hleft hclaim
  obtain ⟨r, hr, hrid, hdue⟩ := h.claimed _ rfl db' out hout u hu
  rw [eq_of_taskId hids hr ht (hrid.trans hid)] at hdue
  rcases hdue with ⟨-, hle⟩ | ⟨hrunning, -⟩
  · exact hle
  · rw [hp] at hrunning
    cases hrunning

/-- **The boundaries agree exactly where the clocks do.** -/
theorem boundaries_agree_iff (hpos : 0 < staleAfter) (hids : (db.tasks.map (·.taskId)).Nodup)
    (hb : db.activation.Bounded) (htasks : ∀ t ∈ db.tasks, t.TimesSupported) (hnow : now.Supported)
    (hcut : (now.add (-staleAfter)).Supported) :
    BoundariesAgree db now staleAfter ↔ ClocksAgree db now staleAfter := by
  have hreq := recoverStaleTasks_eq_iff hpos htasks hnow hcut
  constructor
  · intro h
    have hclocks := hreq.mp h.requeued
    refine ⟨fun t ht => (hclocks t ht).1, fun t ht => (hclocks t ht).2, fun t ht hp =>
      h.due hids htasks hnow ht hp, fun hmode t ht hp hx hm he c hc => ?_⟩
    have hkept := h.kept hmode none (.inl rfl) t ht hp hx
    rw [left_iff_reads hids hb hmode (.inl rfl) ht (htasks t ht) hp hx hc,
      createdInEpoch_iff hc] at hkept
    simpa only [hm, he, true_and, SameOrder] using hkept
  · intro h
    exact ⟨hreq.mpr fun t ht => ⟨h.lease t ht, h.stale t ht⟩,
      fun c hc db' out hout t ht => h.claimed hids hb htasks hnow hc hout ht,
      fun hmode activeEpoch hae t ht hp hx => h.kept hids hb htasks hmode hae ht hp hx⟩

/-- `set_runtime_context` writes an epoch and a cutover with mode active. -/
theorem setRuntimeContext_bounded {db' : TaskDb} {mode uuid : String} {activeEpoch : Option String}
    (hprev : ∀ p, db.runtime = some p → p.Bounded) (hnow : now.Supported) (huuid : uuid ≠ "")
    (h : setRuntimeContext db mode now activeEpoch uuid = .ok db') : db'.activation.Bounded := by
  unfold setRuntimeContext at h
  dsimp only at h
  split at h
  · cases h
    intro hmode
    simp only [TaskDb.activation, Option.getD_some] at hmode ⊢
    rcases nextBoundary_cases db.runtime (strip mode).toLower now activeEpoch uuid with
      ⟨p, hp, -, he⟩ | ⟨-, -, he⟩ | ⟨hno, -⟩
    · obtain ⟨hrow, hpm, -⟩ := activePrevious_some hp
      rw [he]
      exact hprev p hrow hpm
    · rw [he]
      refine ⟨?_, now, rfl, hnow⟩
      by_cases ht : truthy activeEpoch = true
      · have hnew : some (newEpoch activeEpoch uuid) = activeEpoch := by
          obtain ⟨e, rfl, -⟩ := (Option.any_eq_true _ _).mp ht
          exact congrArg some (if_pos ht)
        rw [hnew]
        exact ht
      · have hnew : newEpoch activeEpoch uuid = uuid := if_neg ht
        rw [hnew]
        simp [truthy, huuid]
    · exact absurd hmode hno
  · cases h

end Boundaries

theorem eightHours_lt : |(28800000000 : ℤ)| < 86400000000 := by decide

/-- Its lease has been over for an hour, and its clock is seven hours ahead. -/
def overLease : AutomationTask where
  taskId := "t1"
  taskType := "VERIFY_ALARM"
  entityType := "DEVICE"
  entityId := "d"
  dueAt := .utc 0
  createdAt := .utc 0
  updatedAt := .utc 0
  status := .running
  workerId := some "w"
  leaseUntil := some ⟨3600000000, 28800000000, eightHours_lt⟩

/-- Due in an hour, four hours ago by its clock. -/
def laterDue : AutomationTask where
  taskId := "t2"
  taskType := "VERIFY_ALARM"
  entityType := "DEVICE"
  entityId := "d"
  dueAt := ⟨10800000000, -18000000000, by decide⟩
  createdAt := .utc 0
  updatedAt := .utc 0

/-- Created an hour after the cutover, four hours before it by its clock. -/
def freshNotice : AutomationTask where
  taskId := "t3"
  taskType := "NOTIFY_ALARM"
  entityType := "EVENT"
  entityId := "E"
  dueAt := .utc 14400000000
  createdAt := ⟨3600000000, -18000000000, by decide⟩
  updatedAt := .utc 0
  createdMode := some "active"
  activeEpoch := some "e"

def mixedOffsets : TaskDb where
  runtime := some { mode := "active", activeEpoch := some "e", activeCutoverAt := some (.utc 0) }
  tasks := [overLease, laterDue, freshNotice]

/-- **The three boundaries by text, at two o'clock.** The lease that is over is not recovered, the
row that is not due is claimed, and the notification of the epoch is held back. -/
theorem mixedOffsets_disagree :
    ¬BoundariesAgree mixedOffsets (.utc 7200000000) 300000000 ∧
      (isStale (.utc 7200000000) (.utc 6900000000) overLease = true ∧
        isRecoverable (.utc 7200000000) (.utc 6900000000) overLease = false) ∧
      (∃ c db' out, c.now = .utc 7200000000 ∧ claimDue mixedOffsets c = .ok (db', out) ∧
        ∃ t ∈ out, t.taskId = laterDue.taskId ∧ ¬DueBy (.utc 7200000000) laterDue) ∧
      CreatedInEpoch mixedOffsets.activation freshNotice ∧
        freshNotice ∉
          (quarantineLegacyExternalTasks mixedOffsets (.utc 7200000000) none).tasks := by
  have hids : (mixedOffsets.tasks.map (·.taskId)).Nodup := by decide
  have hbound : mixedOffsets.activation.Bounded := fun _ => ⟨by decide, .utc 0, rfl, by decide⟩
  have hover : overLease.TimesSupported := ⟨by decide, by decide, fun l h => by cases h; decide⟩
  have hlater : laterDue.TimesSupported := ⟨by decide, by decide, fun l h => by cases h⟩
  have hfresh : freshNotice.TimesSupported := ⟨by decide, by decide, fun l h => by cases h⟩
  have hsup : ∀ t ∈ mixedOffsets.tasks, t.TimesSupported := by
    simp [mixedOffsets, hover, hlater, hfresh]
  have hdue : ¬DueBy (.utc 7200000000) laterDue := by
    rintro (⟨-, h⟩ | ⟨h, -⟩)
    · exact absurd h (by decide)
    · cases h
  have hlease : isRecoverable (.utc 7200000000) (.utc 6900000000) overLease = false := by
    decide +kernel
  refine ⟨fun h => ?_, ⟨by decide, hlease⟩, ?_, ⟨rfl, rfl, .utc 0, rfl, by decide⟩, ?_⟩
  · have horder := (recoverStaleTasks_eq_iff (by decide) hsup (by decide) (by decide)).mp h.requeued
    exact absurd ((horder overLease (by simp [mixedOffsets])).1 rfl _ rfl) (by decide)
  · have hleft :
        laterDue ∈ (quarantineLegacyExternalTasks mixedOffsets (.utc 7200000000) none).tasks :=
      (mem_quarantine hids (by simp [mixedOffsets])).mpr fun h => absurd h.1 (by decide)
    obtain ⟨db', out, hout, u, hu, hid⟩ := wideClaim_returns hleft (by decide +kernel)
    exact ⟨_, db', out, rfl, hout, u, hu, hid, hdue⟩
  · rw [left_iff_reads hids hbound rfl (.inl rfl) (by simp [mixedOffsets]) hfresh rfl (by decide)
      (c := .utc 0) rfl]
    decide

/-- The same rows with clocks that agree, and one more created before the cutover. -/
def agreeingTasks : List AutomationTask :=
  [{ overLease with leaseUntil := some ⟨3600000000, 1800000000, by decide⟩ },
      { laterDue with dueAt := .utc 10800000000 },
    { freshNotice with createdAt := ⟨3600000000, 3600000000, by decide⟩ },
    { freshNotice with taskId := "t4", createdAt := ⟨-7200000000, 3600000000, by decide⟩ }]

def agreeing : TaskDb where
  runtime :=
    some { mode := "active", activeEpoch := some "e", activeCutoverAt := some (.utc 0), updatedAt := some (.utc 0) }
  tasks := agreeingTasks

/-- The runtime row is one that `set_runtime_context` writes. -/
theorem agreeing_set : setRuntimeContext { tasks := agreeingTasks } "active" (.utc 0) (some "e")
    "u" = .ok agreeing := by
  have hmode : (strip "active").toLower = "active" := by decide +kernel
  simp [setRuntimeContext, hmode, agreeing, runtimeModes, nextBoundary]
  decide

theorem agreeing_boundaries : BoundariesAgree agreeing (.utc 7200000000) 300000000 := by
  have htimes : ∀ t ∈ agreeing.tasks, t.dueAt.Supported ∧ t.createdAt.Supported := by decide
  have hleases : ∀ t ∈ agreeing.tasks, t.leaseUntil.all fun l =>
    l.Supported ∧ SameOrder l (.utc 7200000000) := by decide
  have hlease {t : AutomationTask} (ht : t ∈ agreeing.tasks) {l : DateTime}
      (hl : t.leaseUntil = some l) :
      l.Supported ∧ SameOrder l (.utc 7200000000) :=
        of_decide_eq_true (Option.all_eq_true _ _ |>.mp (hleases t ht) l hl)
  have hstale : ∀ t ∈ agreeing.tasks,
    SameOrder t.dueAt ((DateTime.utc 7200000000).add (-300000000)) := by decide
  have hdue : ∀ t ∈ agreeing.tasks, t.dueAt.ReadsBy (.utc 7200000000) →
    t.dueAt.instant ≤ 7200000000 := by decide
  have hcutover : ∀ t ∈ agreeing.tasks, SameOrder (.utc 0) t.createdAt := by decide
  refine (boundaries_agree_iff (by decide) (by decide) ?_ ?_ (by decide) (by decide)).mpr
    ⟨?_, ?_, ?_, ?_⟩
  · exact setRuntimeContext_bounded (fun _ h => by cases h) (by decide) (by decide) agreeing_set
  · exact fun t ht => ⟨(htimes t ht).1, (htimes t ht).2, fun l hl => (hlease ht hl).1⟩
  · exact fun t ht _ l hl => (hlease ht hl).2
  · exact fun t ht _ => hstale t ht
  · exact fun t ht _ _ => hdue t ht
  · intro _ t ht _ _ _ _ c hc
    obtain rfl := Option.some.inj hc
    exact hcutover t ht

end TemperatureMonitor
