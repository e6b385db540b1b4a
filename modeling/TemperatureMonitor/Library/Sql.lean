/-
# SQL conditions on nullable columns

A condition is true, false or unknown (`none`). `WHERE` keeps a row when its
condition is true, so a row of unknown condition is kept neither by the
condition nor by its negation: counting with one and with the other misses
it (`countP_unknown`).
-/
import Mathlib.Data.List.Count

namespace TemperatureMonitor
namespace Sql

/-- A truth value of a condition. -/
abbrev Truth := Option Bool

def and : Truth → Truth → Truth
  | some false, _ => some false
  | _, some false => some false
  | some true, some true => some true
  | _, _ => none

def not : Truth → Truth := Option.map Bool.not

/-- `column = value`. -/
def eq {α : Type*} [DecidableEq α] (column : Option α) (value : α) : Truth :=
  column.map fun x => decide (x = value)

/-- What `WHERE` keeps. -/
def holds (t : Truth) : Bool := t == some true

/-- Not kept, not kept negated: unknown. -/
theorem holds_not_iff (t : Truth) : holds (not t) = (!holds t && t.isSome) := by
  rcases t with _ | _ | _ <;> rfl

theorem holds_isSome {t : Truth} (h : holds t = true) : t.isSome = true := by
  rcases t with _ | _ | _ <;> simp_all [holds]

variable {α : Type*}

theorem countP_split (p q : α → Bool) (l : List α) :
    l.countP p = l.countP (fun x => p x && q x) + l.countP (fun x => p x && !q x) := by
  induction l with
  | nil => rfl
  | cons x l ih =>
    simp only [List.countP_cons, ih]
    cases p x <;> cases q x <;> simp <;> omega

/-- The rows not kept by a condition are those its negation keeps and those
it is unknown on. -/
theorem countP_unknown (p : α → Bool) (t : α → Truth) (l : List α) :
    l.countP (fun x => p x && !holds (t x)) =
      l.countP (fun x => p x && holds (not (t x))) + l.countP (fun x => p x && (t x).isNone) := by
  rw [countP_split (fun x => p x && !holds (t x)) (fun x => (t x).isSome)]
  congr 1 <;> refine List.countP_congr fun x _ => ?_
  · rw [holds_not_iff, Bool.and_assoc]
  · have := holds_isSome (t := t x)
    cases hp : p x <;> cases ht : t x <;> simp_all [holds]

end Sql
end TemperatureMonitor
