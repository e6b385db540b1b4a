/-
# What a program can cost

Every call has a cost. A bound for a program is put together from bounds for its
parts (`Prog.Within`), whatever its calls are answered; on any system, the calls
a program has made have not cost more than the bound (`Takes.within`). Costs are
added up in any ordered monoid without negative elements: numbers of calls, or time.
-/
import Mathlib.Algebra.Order.Monoid.Canonical.Defs
import Mathlib.Algebra.Order.BigOperators.Group.List
import TemperatureMonitor.Library.Program

namespace TemperatureMonitor
namespace Prog

variable {κ : Type} {β : κ → Type} {ε α γ M : Type} [AddCommMonoid M] [PartialOrder M]
  {cost : κ → M} {p : Prog κ β ε α} {b b' : M}

/-- Whatever the calls are answered, together they cost no more than `b`. -/
def Within (cost : κ → M) : Prog κ β ε α → M → Prop
  | done _, _ => True
  | call c next, b => ∃ b', cost c + b' ≤ b ∧ ∀ r, Within cost (next r) b'

theorem within_pure (a : α) : Within cost (Pure.pure a : Prog κ β ε α) b := trivial

theorem within_throw (e : ε) : Within cost (throw e : Prog κ β ε α) b := trivial

theorem within_ofExcept (r : Except ε α) : Within cost (ofExcept r : Prog κ β ε α) b := trivial

theorem within_perform {c : κ} (h : cost c ≤ b) : Within cost (perform c : Prog κ β ε (β c)) b :=
  ⟨0, by simpa using h, fun _ => trivial⟩

theorem Within.mono (h : Within cost p b) (hb : b ≤ b') : Within cost p b' := by
  cases p with
  | done r => trivial
  | call c next =>
    obtain ⟨d, hd, hnext⟩ := h
    exact ⟨d, hd.trans hb, hnext⟩

theorem within_captured (hp : Within cost p b) : Within cost p.captured b := by
  induction p generalizing b with
  | done r => cases r <;> trivial
  | call c next ih =>
    obtain ⟨d, hd, hnext⟩ := hp
    exact ⟨d, hd, fun r => ih r (hnext r)⟩

/-- What the calls made cost. -/
def spent (cost : κ → M) (made : List (Made κ β ε)) : M := (made.map fun m => cost m.1).sum

omit [PartialOrder M] in
theorem spent_append (made rest : List (Made κ β ε)) :
    spent cost (made ++ rest) = spent cost made + spent cost rest := by
  simp [spent]

/-! ### Parts, one after the other -/

variable [IsOrderedAddMonoid M] [CanonicallyOrderedAdd M]

/-- One part after the other costs what both cost. -/
theorem within_bind {f : α → Prog κ β ε γ} (hp : Within cost p b) (hf : ∀ a, Within cost (f a) b') :
    Within cost (p >>= f) (b + b') := by
  show Within cost (p.bind f) (b + b')
  induction p generalizing b with
  | done r =>
    cases r with
    | ok a => exact (hf a).mono (le_add_of_nonneg_left zero_le)
    | error e => trivial
  | call c next ih =>
    obtain ⟨d, hd, hnext⟩ := hp
    refine ⟨d + b', ?_, fun r => ih r (hnext r)⟩
    calc cost c + (d + b') = cost c + d + b' := (add_assoc _ _ _).symm
      _ ≤ b + b' := add_le_add_left hd b'

/-! ### Executions -/

section Spent

variable {σ : Type} {does : σ → (c : κ) → Except ε (β c) → σ → Prop} {s s' : σ}
  {made : List (Made κ β ε)}
  {p' : Prog κ β ε α}

omit [CanonicallyOrderedAdd M] in
/-- What is left of a program costs what is left of the bound. -/
theorem Takes.left (h : Takes does p s made p' s') (hp : Within cost p b) :
    ∃ b', spent cost made + b' ≤ b ∧ Within cost p' b' := by
  induction h with
  | nil => exact ⟨b, by simp [spent], hp⟩
  | @snoc made c next t u r _ _ ih =>
    obtain ⟨b', hb', d, hd, hnext⟩ := ih
    refine ⟨d, ?_, hnext r⟩
    rw [spent_append]
    calc spent cost made + spent cost [⟨c, r⟩] + d = spent cost made +
        (cost c + d) := by simp [spent, add_assoc]
      _ ≤ spent cost made + b' := add_le_add_right hd _
      _ ≤ b := hb'

/-- **No execution costs more than the bound.** -/
theorem Takes.within (h : Takes does p s made p' s') (hp : Within cost p b) :
    spent cost made ≤ b := by
  obtain ⟨b', hb', -⟩ := h.left hp
  exact (le_add_of_nonneg_right zero_le).trans hb'

end Spent

/-! ### What the calls say -/

section Reads

variable {σ δ : Type} {does : σ → (c : κ) → Except ε (β c) → σ → Prop} {s s' : σ}
  {made : List (Made κ β ε)}
  {p' : Prog κ β ε α}

/-- A state that is put together from the calls and the answers they can have. -/
def reads (can : (c : κ) → Except ε (β c) → Prop) (next : δ → Made κ β ε → δ) (d : δ) (c : κ)
    (r : Except ε (β c)) (d' : δ) : Prop := can c r ∧ d' = next d ⟨c, r⟩

variable {can : (c : κ) → Except ε (β c) → Prop} {next : δ → Made κ β ε → δ} {d : δ}

theorem Takes.reads (hcan : ∀ s c r s', does s c r s' → can c r) (h : Takes does p s made p' s') :
    Takes (Prog.reads can next) p d made p' (made.foldl next d) := by
  induction h with
  | nil => exact .nil
  | snoc _ hd ih =>
    rw [List.foldl_append]
    exact ih.snoc ⟨hcan _ _ _ _ hd, rfl⟩

/-- What a program returns, and what its calls say, on any system. -/
theorem Takes.observed {r : Except ε α} {Q : Except ε α → δ → Prop}
    (hcan : ∀ s c r s', does s c r s' → can c r)
    (h : Takes does p s made (done r) s')
    (hp : Prog.wp (fun _ _ => True) (Prog.reads can next) p Q d) : Q r (made.foldl next d) :=
  Takes.wp (h.reads hcan) hp

end Reads

/-! ### Executions, put together -/

section Together

variable {σ : Type} {does : σ → (c : κ) → Except ε (β c) → σ → Prop} {s t u : σ} {q : Prog κ β ε α}
  {made more : List (Made κ β ε)}

theorem Takes.trans (h : Takes does p s made q t) {q' : Prog κ β ε α}
    (h' : Takes does q t more q' u) : Takes does p s (made ++ more) q' u := by
  induction h' with
  | nil => rwa [List.append_nil]
  | snoc _ hd ih =>
    rw [← List.append_assoc]
    exact ih.snoc hd

/-- The first part of a program on its way. -/
theorem Takes.bind {γ : Type} (h : Takes does p s made q t) (f : α → Prog κ β ε γ) :
    Takes does (p >>= f) s made (q >>= f) t := by
  induction h with
  | nil => exact .nil
  | snoc _ hd ih => exact ih.snoc hd

/-- Each call of an execution was answered by the system. -/
theorem Takes.mem (h : Takes does p s made q t) {m : Made κ β ε} (hm : m ∈ made) :
    ∃ s t, does s m.1 m.2 t := by
  induction h with
  | nil => exact absurd hm List.not_mem_nil
  | snoc _ hd ih =>
    rcases List.mem_append.mp hm with hm | hm
    · exact ih hm
    · rw [List.mem_singleton.mp hm]
      exact ⟨_, _, hd⟩

/-- Each call of an execution was answered in a state it went through. -/
theorem Takes.split (h : Takes does p s made q t) {m : Made κ β ε} (hm : m ∈ made) :
    ∃ first next t' u, first <+: made ∧ Takes does p s first (call m.1 next) t' ∧
      does t' m.1 m.2 u := by
  induction h with
  | nil => exact absurd hm List.not_mem_nil
  | @snoc made c next t u r hrun hd ih =>
    rcases List.mem_append.mp hm with hm | hm
    · obtain ⟨first, next', t', u', hprefix, hfirst, hdoes⟩ := ih hm
      exact ⟨first, next', t', u', hprefix.trans (List.prefix_append _ _), hfirst, hdoes⟩
    · obtain rfl := List.mem_singleton.mp hm
      exact ⟨made, next, t, u, List.prefix_append _ _, hrun, hd⟩

/-- What is known of the calls of a program is known of those it has made. -/
theorem Takes.calls {P : κ → Prop} (h : Takes does p s made q t) (hp : p.Calls P) :
    (∀ m ∈ made, P m.1) ∧ q.Calls P := by
  induction h with
  | nil => exact ⟨fun m hm => absurd hm List.not_mem_nil, hp⟩
  | snoc _ _ ih =>
    refine ⟨fun m hm => ?_, ih.2.2 _⟩
    rcases List.mem_append.mp hm with hm | hm
    · exact ih.1 m hm
    · rw [List.mem_singleton.mp hm]
      exact ih.2.1

end Together

/-- The value of a program that has ended. -/
def returned : Prog κ β ε α → Option α
  | done (.ok a) => some a
  | _ => none

theorem returned_eq {a : α} (h : p.returned = some a) : p = done (.ok a) := by
  cases p with
  | done r =>
    cases r with
    | ok b => rw [Option.some.inj h]
    | error e => cases h
  | call c next => cases h

theorem done_of_returned (h : p.returned.isSome = true) : ∃ a, p = done (.ok a) := by
  obtain ⟨a, ha⟩ := Option.isSome_iff_exists.mp h
  exact ⟨a, returned_eq ha⟩

end Prog
end TemperatureMonitor
