/-
# A register that keeps the newest value

A register takes a value if it is newer than the one it holds. What it holds
is the newest of the values offered (`IsNewest`), so with distinct times it
depends on the set of values alone, not on their order or on repetitions
(`isNewest_unique`).
-/
import Mathlib.Data.List.Induction
import Mathlib.Order.Lattice

namespace TemperatureMonitor

section Newest

variable {α τ : Type*} [LinearOrder τ] {time : α → τ} {l k : List α} {r s : Option α}

/-- The value of the register after one is offered. -/
def keepNewest (time : α → τ) (current : Option α) (x : α) : Option α :=
  match current with
  | none => some x
  | some c => if time c < time x then some x else some c

/-- The register holds a newest one of the values, if there is any. -/
def IsNewest (time : α → τ) (l : List α) (r : Option α) : Prop :=
  (∀ m, r = some m → m ∈ l) ∧ ∀ x ∈ l, ∃ m, r = some m ∧ time x ≤ time m

theorem isNewest_nil : IsNewest time [] none := ⟨(fun _ h => by cases h), fun _ h => by cases h⟩

theorem IsNewest.keep (h : IsNewest time l r) (x : α) :
    IsNewest time (l ++ [x]) (keepNewest time r x) := by
  unfold keepNewest
  cases r with
  | none =>
    refine ⟨fun m hm => ?_, fun y hy => ?_⟩
    · obtain rfl := Option.some.inj hm
      exact List.mem_append_right _ (List.mem_singleton_self _)
    · rcases List.mem_append.mp hy with hy | hy
      · obtain ⟨m, hm, -⟩ := h.2 y hy
        cases hm
      · exact ⟨x, rfl, (congrArg time (List.mem_singleton.mp hy)).le⟩
  | some c =>
    have hc : ∀ y ∈ l, time y ≤ time c := by
      intro y hy
      obtain ⟨m, hm, hle⟩ := h.2 y hy
      obtain rfl := Option.some.inj hm
      exact hle
    by_cases hlt : time c < time x
    · simp only [if_pos hlt]
      refine ⟨fun m hm => ?_, fun y hy => ⟨x, rfl, ?_⟩⟩
      · obtain rfl := Option.some.inj hm
        exact List.mem_append_right _ (List.mem_singleton_self _)
      · rcases List.mem_append.mp hy with hy | hy
        · exact (hc y hy).trans hlt.le
        · exact (congrArg time (List.mem_singleton.mp hy)).le
    · simp only [if_neg hlt]
      refine ⟨fun m hm => List.mem_append_left _ (h.1 m hm), fun y hy => ⟨c, rfl, ?_⟩⟩
      rcases List.mem_append.mp hy with hy | hy
      · exact hc y hy
      · rw [List.mem_singleton.mp hy]
        exact not_lt.mp hlt

/-- The newest of a list, the first of several. -/
def newestOf (time : α → τ) (l : List α) : Option α := l.foldl (keepNewest time) none

theorem isNewest_newestOf (l : List α) : IsNewest time l (newestOf time l) := by
  induction l using List.reverseRecOn with
  | nil => exact isNewest_nil
  | append_singleton l x ih =>
    rw [newestOf, List.foldl_append, List.foldl_cons, List.foldl_nil]
    exact ih.keep x

/-- Order and repetitions do not matter: with distinct times the newest of the same values is the
same. -/
theorem isNewest_unique (hdistinct : ∀ a ∈ l, ∀ b ∈ l, time a = time b → a = b)
    (hsame : ∀ x, x ∈ l ↔ x ∈ k) (hl : IsNewest time l r) (hk : IsNewest time k s) : r = s := by
  cases r with
  | none =>
    cases s with
    | none => rfl
    | some b =>
      obtain ⟨m, hm, -⟩ := hl.2 b ((hsame b).mpr (hk.1 b rfl))
      cases hm
  | some a =>
    obtain ⟨b, rfl, hab⟩ := hk.2 a ((hsame a).mp (hl.1 a rfl))
    obtain ⟨a', ha', hba⟩ := hl.2 b ((hsame b).mpr (hk.1 b rfl))
    obtain rfl := Option.some.inj ha'
    rw [hdistinct a (hl.1 a rfl) b ((hsame b).mpr (hk.1 b rfl)) (le_antisymm hab hba)]

/-- In the order of their times, the newest is the last. -/
theorem newestOf_sorted (h : l.Pairwise fun a b => time a < time b) :
    newestOf time l = l.getLast? := by
  induction l using List.reverseRecOn with
  | nil => rfl
  | append_singleton l x ih =>
    obtain ⟨hl, -, hx⟩ := List.pairwise_append.mp h
    have hlast : newestOf time (l ++ [x]) = keepNewest time l.getLast? x := by
      rw [newestOf, List.foldl_append, List.foldl_cons, List.foldl_nil, ← ih hl]
      rfl
    rw [hlast, List.getLast?_concat]
    unfold keepNewest
    cases hc : l.getLast? with
    | none => rfl
    | some c =>
      have hlt : time c < time x := hx c (List.mem_of_getLast? hc) x (List.mem_singleton_self x)
      exact if_pos hlt

end Newest

end TemperatureMonitor
