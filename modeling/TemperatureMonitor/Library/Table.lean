/-
# Rows under a key, and columns that only rise

A table is a list of rows, a row known by its key. `alterRow` is an upsert: it
updates the row of a key, or adds one. A watermark is a nullable column that a
guarded update (`WHERE column IS NULL OR column < ?`) advances: it is `Reached`
by every value up to it, and never falls (`Reached.advance`).
-/
import Mathlib.Data.List.Nodup
import Mathlib.Order.Lattice

namespace TemperatureMonitor

/-! ### Rows under a key -/

section Rows

variable {α κ : Type*} [DecidableEq κ] {key : α → κ} {k k' : κ} {f : Option α → α} {rows : List α}

/-- The row of a key. -/
def rowOf (key : α → κ) (rows : List α) (k : κ) : Option α := rows.find? fun r => key r = k

/-- Update the row of a key, or add one. -/
def alterRow (key : α → κ) (k : κ) (f : Option α → α) : List α → List α
  | [] => [f none]
  | r :: rows => if key r = k then f (some r) :: rows else r :: alterRow key k f rows

/-- A key that is new is added at the end. -/
theorem alterRow_new (h : ∀ r ∈ rows, key r ≠ k) : alterRow key k f rows = rows ++ [f none] := by
  induction rows with
  | nil => rfl
  | cons r rows ih =>
    rw [alterRow, if_neg (h r List.mem_cons_self), ih fun x hx => h x (List.mem_cons_of_mem _ hx)]
    rfl

theorem rowOf_cons (r : α) (rows : List α) (k : κ) :
    rowOf key (r :: rows) k = if key r = k then some r else rowOf key rows k := by
  unfold rowOf
  rw [List.find?_cons]
  by_cases h : key r = k
  · simp [h]
  · simp [h]

theorem mem_of_rowOf {r : α} (h : rowOf key rows k = some r) : r ∈ rows ∧ key r = k :=
  ⟨List.mem_of_find?_eq_some h, by simpa using List.find?_some h⟩

/-- With unique keys a row is the row of its key. -/
theorem rowOf_of_mem {r : α} (hn : (rows.map key).Nodup) (hr : r ∈ rows) :
    rowOf key rows (key r) = some r := by
  obtain ⟨x, hx⟩ : ∃ x, rowOf key rows (key r) = some x := by
    rw [← Option.isSome_iff_exists, rowOf, List.find?_isSome]
    exact ⟨r, hr, by simp⟩
  obtain ⟨hmem, hkey⟩ := mem_of_rowOf hx
  rw [hx, List.inj_on_of_nodup_map hn hmem hr hkey]

theorem rowOf_isSome_iff : (∃ r, rowOf key rows k = some r) ↔ ∃ r ∈ rows, key r = k := by
  rw [← Option.isSome_iff_exists, rowOf, List.find?_isSome]
  simp

theorem rowOf_alterRow_self (hf : ∀ o, key (f o) = k) :
    rowOf key (alterRow key k f rows) k = some (f (rowOf key rows k)) := by
  induction rows with
  | nil =>
    show rowOf key [f none] k = some (f none)
    rw [rowOf_cons, if_pos (hf none)]
  | cons r rows ih =>
    unfold alterRow
    rw [rowOf_cons r rows]
    by_cases h : key r = k
    · rw [if_pos h, if_pos h, rowOf_cons, if_pos (hf (some r))]
    · rw [if_neg h, if_neg h, rowOf_cons, if_neg h, ih]

theorem rowOf_alterRow_other (hf : ∀ o, key (f o) = k) (hk : k' ≠ k) :
    rowOf key (alterRow key k f rows) k' = rowOf key rows k' := by
  induction rows with
  | nil =>
    show rowOf key [f none] k' = none
    rw [rowOf_cons, if_neg (by rw [hf none]; exact hk.symm)]
    rfl
  | cons r rows ih =>
    unfold alterRow
    by_cases h : key r = k
    · rw [if_pos h, rowOf_cons, rowOf_cons, if_neg (by rw [hf]; exact hk.symm),
        if_neg (by rw [h]; exact hk.symm)]
    · rw [if_neg h, rowOf_cons, rowOf_cons, ih]

/-- An update of rows that keeps their keys. -/
theorem rowOf_map {g : α → α} (hg : ∀ r, key (g r) = key r) :
    rowOf key (rows.map g) k = (rowOf key rows k).map g := by
  induction rows with
  | nil => rfl
  | cons r rows ih =>
    rw [List.map_cons, rowOf_cons, rowOf_cons, hg, ih]
    by_cases h : key r = k
    · rw [if_pos h, if_pos h, Option.map_some]
    · rw [if_neg h, if_neg h]

/-- The row of any key after an upsert. -/
theorem rowOf_alterRow (hf : ∀ o, key (f o) = k) : rowOf key (alterRow key k f rows) k' =
    if k' = k then some (f (rowOf key rows k)) else rowOf key rows k' := by
  by_cases h : k' = k
  · rw [if_pos h, h, rowOf_alterRow_self hf]
  · rw [if_neg h, rowOf_alterRow_other hf h]

/-- An upsert keeps every key, and adds at most its own. -/
theorem key_mem_alterRow (hf : ∀ o, key (f o) = k) : (∃ r ∈ alterRow key k f rows, key r = k') ↔
    k' = k ∨ ∃ r ∈ rows, key r = k' := by
  rw [← rowOf_isSome_iff, ← rowOf_isSome_iff, rowOf_alterRow hf]
  by_cases h : k' = k
  · simp [h]
  · simp [h]

/-- A row after an upsert was there, or is the updated one. -/
theorem mem_alterRow {r : α} (h : r ∈ alterRow key k f rows) : r ∈ rows ∨
    ∃ o, (∀ x, o = some x → x ∈ rows ∧ key x = k) ∧ r = f o := by
  induction rows with
  | nil => exact .inr ⟨none, (fun x hx => by cases hx), List.mem_singleton.mp h⟩
  | cons x rows ih =>
    unfold alterRow at h
    by_cases hx : key x = k
    · rw [if_pos hx] at h
      rcases List.mem_cons.mp h with rfl | h
      · refine .inr ⟨some x, fun y hy => ?_, rfl⟩
        obtain rfl := Option.some.inj hy
        exact ⟨List.mem_cons_self, hx⟩
      · exact .inl (List.mem_cons_of_mem _ h)
    · rw [if_neg hx] at h
      rcases List.mem_cons.mp h with rfl | h
      · exact .inl List.mem_cons_self
      · rcases ih h with h | ⟨o, ho, hr⟩
        · exact .inl (List.mem_cons_of_mem _ h)
        · exact .inr ⟨o, fun y hy => ⟨List.mem_cons_of_mem _ (ho y hy).1, (ho y hy).2⟩, hr⟩

theorem nodup_alterRow (hf : ∀ o, key (f o) = k) (hn : (rows.map key).Nodup) :
    ((alterRow key k f rows).map key).Nodup := by
  induction rows with
  | nil => exact List.nodup_singleton _
  | cons r rows ih =>
    obtain ⟨hr, hrows⟩ := List.nodup_cons.mp hn
    unfold alterRow
    by_cases h : key r = k
    · rw [if_pos h, List.map_cons, hf, ← h]
      exact hn
    · rw [if_neg h, List.map_cons]
      refine List.nodup_cons.mpr ⟨fun hmem => ?_, ih hrows⟩
      rcases (key_mem_alterRow hf).mp (List.mem_map.mp hmem) with hk | hmem
      · exact h hk
      · exact hr (List.mem_map.mpr hmem)

/-- The row of any key after an insert. -/
theorem rowOf_insert {r : α} :
    rowOf key (rows ++ [r]) k = (rowOf key rows k).or (if key r = k then some r else none) := by
  unfold rowOf
  rw [List.find?_append]
  by_cases h : key r = k
  · rw [if_pos h, List.find?_singleton, if_pos (by simpa using h)]
  · rw [if_neg h, List.find?_singleton, if_neg (by simpa using h)]

/-- Deleting other rows. -/
theorem rowOf_filter {p : α → Bool} (hp : ∀ r, key r = k → p r = true) :
    rowOf key (rows.filter p) k = rowOf key rows k := by
  induction rows with
  | nil => rfl
  | cons r rows ih =>
    rw [List.filter_cons]
    by_cases h : key r = k
    · rw [if_pos (hp r h), rowOf_cons, rowOf_cons, if_pos h, if_pos h]
    · by_cases hr : p r = true
      · rw [if_pos hr, rowOf_cons, rowOf_cons, if_neg h, if_neg h, ih]
      · rw [if_neg hr, rowOf_cons, if_neg h, ih]

/-- Deleting the row of a key. -/
theorem rowOf_delete : rowOf key (rows.filter fun r => decide (key r ≠ k)) k = none := by
  unfold rowOf
  refine List.find?_eq_none.mpr fun r hr => ?_
  have hne := (List.mem_filter.mp hr).2
  simpa using hne

end Rows

/-! ### Watermarks -/

section Watermark

variable {τ : Type*} [LinearOrder τ] {w v : Option τ} {t u : τ}

/-- The guarded update. -/
def advance (w : Option τ) (t : τ) : Option τ := if w.all fun x => x < t then some t else w

/-- The watermark is at `t` or beyond. -/
def Reached (w : Option τ) (t : τ) : Prop := ∃ x ∈ w, t ≤ x

/-- The first watermark is not beyond the second. -/
def Within (v w : Option τ) : Prop := ∀ t ∈ v, Reached w t

theorem advance_cases : advance w t = some t ∧ ¬ Reached w t ∨ advance w t = w ∧ Reached w t := by
  unfold advance Reached
  cases w with
  | none => exact .inl ⟨rfl, by rintro ⟨x, hx, -⟩; cases hx⟩
  | some x =>
    by_cases h : x < t
    · refine .inl ⟨by simp [h], ?_⟩
      rintro ⟨y, hy, hle⟩
      rw [← Option.some.inj hy] at hle
      exact absurd h (not_lt.mpr hle)
    · exact .inr ⟨by simp [h], x, rfl, not_lt.mp h⟩

theorem reached_advance : Reached (advance w t) t := by
  rcases advance_cases (w := w) (t := t) with ⟨h, -⟩ | ⟨h, hr⟩
  · rw [h]
    exact ⟨t, rfl, le_refl t⟩
  · rw [h]
    exact hr

theorem Reached.trans (h : Reached w t) (hu : u ≤ t) : Reached w u := by
  obtain ⟨x, hx, hle⟩ := h
  exact ⟨x, hx, hu.trans hle⟩

/-- **A watermark does not fall.** -/
theorem Reached.advance (h : Reached w u) : Reached (advance w t) u := by
  rcases advance_cases (w := w) (t := t) with ⟨heq, hno⟩ | ⟨heq, -⟩
  · rw [heq]
    refine ⟨t, rfl, ?_⟩
    by_contra hlt
    exact hno (h.trans (le_of_lt (not_le.mp hlt)))
  · rw [heq]
    exact h

theorem within_refl (w : Option τ) : Within w w := fun t ht => ⟨t, ht, le_refl t⟩

theorem within_none (w : Option τ) : Within none w := fun _ h => by cases h

theorem Within.trans {a : Option τ} (h : Within v w) (h' : Within w a) : Within v a := by
  intro t ht
  obtain ⟨x, hx, hle⟩ := h t ht
  exact (h' x hx).trans hle

theorem Within.reached (h : Within v w) (hv : Reached v t) : Reached w t := by
  obtain ⟨x, hx, hle⟩ := hv
  exact (h x hx).trans hle

theorem within_advance : Within w (advance w t) := fun x hx => Reached.advance ⟨x, hx, le_refl x⟩

theorem Within.advance_left (h : Within v w) (ht : Reached w t) : Within (advance v t) w := by
  rcases advance_cases (w := v) (t := t) with ⟨heq, -⟩ | ⟨heq, -⟩
  · rw [heq]
    intro x hx
    rw [← Option.some.inj hx]
    exact ht
  · rw [heq]
    exact h

end Watermark

end TemperatureMonitor
