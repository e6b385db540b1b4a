/-
# A latch with two conditions

A latch is set by what meets the stronger condition and stays set as long as
the weaker one is met. It is set after a list exactly when some element set it
and every later one held it (`latched_step`): the rule looks at the last
value of the latch only, what it says is about the whole past.
-/
import Mathlib.Data.List.Basic

namespace TemperatureMonitor

section Latch

variable {α : Type*} {sets holds : α → Prop} {l : List α} {x : α}

/-- Some element sets the latch, and every later one holds it. -/
def Latched (sets holds : α → Prop) (l : List α) : Prop :=
  ∃ before x after, l = before ++ x :: after ∧ sets x ∧ ∀ y ∈ after, holds y

theorem not_latched_nil : ¬ Latched sets holds [] := by
  rintro ⟨before, x, after, h, -⟩
  simp at h

theorem latched_concat : Latched sets holds (l ++ [x]) ↔ sets x ∨ Latched sets holds l ∧
    holds x := by
  constructor
  · rintro ⟨before, y, after, h, hy, hafter⟩
    rcases List.eq_nil_or_concat' after with rfl | ⟨after, z, rfl⟩
    · obtain ⟨-, hx⟩ := List.append_inj' h rfl
      rw [(List.cons.inj hx).1]
      exact .inl hy
    · rw [← List.cons_append, ← List.append_assoc] at h
      obtain ⟨hl, hx⟩ := List.append_inj' h rfl
      rw [(List.cons.inj hx).1]
      exact .inr ⟨⟨before, y, after, hl, hy, fun w hw => hafter w (List.mem_append_left _ hw)⟩,
        hafter z (List.mem_append_right _ (List.mem_singleton_self z))⟩
  · rintro (hx | ⟨⟨before, y, after, rfl, hy, hafter⟩, hx⟩)
    · exact ⟨l, x, [], rfl, hx, fun y hy => by cases hy⟩
    · refine ⟨before, y, after ++ [x], by simp, hy, fun z hz => ?_⟩
      rcases List.mem_append.mp hz with hz | hz
      · exact hafter z hz
      · rw [List.mem_singleton.mp hz]
        exact hx

/-- **The latch remembers its past.** One step, with a first condition that implies the second. -/
theorem latched_step (himp : ∀ x, sets x → holds x) {was now : Prop}
    (hwas : was ↔ Latched sets holds l)
    (hnow : now ↔ was ∧ holds x ∨ ¬ was ∧ sets x) : now ↔ Latched sets holds (l ++ [x]) := by
  rw [hnow, latched_concat, ← hwas]
  by_cases hw : was
  · have hx := himp x
    tauto
  · tauto

end Latch

end TemperatureMonitor
