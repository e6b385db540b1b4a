/-
# Dealing out by position

A loop that walks a list with an index into another one deals the second out:
each taker gets the next value, until there are none. Where the values were
made from some of the takers, `deal_filterMap_iff` says when each gets its own,
and `deal_filter_iff` when each taker of a kind does in a deal among these.
-/
import Mathlib.Data.List.Basic

namespace TemperatureMonitor

section Dealing

variable {α β : Type*}

/-- What each taker gets. -/
def deal : List α → List β → List (Option β)
  | [], _ => []
  | _ :: as, [] => none :: deal as []
  | _ :: as, b :: bs => some b :: deal as bs

theorem deal_nil (as : List α) : deal as ([] : List β) = as.map fun _ => none := by
  induction as with
  | nil => rfl
  | cons a as ih =>
    rw [List.map_cons, ← ih]
    rfl

/-- Only the number of takers counts. -/
theorem deal_length_congr {γ : Type*} : ∀ {as : List α} {cs : List γ}
    (bs : List β), as.length = cs.length → deal as bs = deal cs bs
  | [], [], _, _ => rfl
  | _ :: _, _ :: _, [], h => congrArg (none :: ·) (deal_length_congr [] (Nat.succ.inj h))
  | _ :: _, _ :: _, b :: bs, h => congrArg (some b :: ·) (deal_length_congr bs (Nat.succ.inj h))

variable {f : α → Option β} {as : List α}

theorem filterMap_eq_nil' : as.filterMap f = [] ↔ as.map f = as.map fun _ => none := by
  rw [List.filterMap_eq_nil_iff, List.map_inj_left]

/-- Each taker gets its own exactly if the ones with a value come first. -/
theorem deal_filterMap_iff : deal as (as.filterMap f) = as.map f ↔
    as.Pairwise fun a b => (f b).isSome → (f a).isSome := by
  induction as with
  | nil => simp [deal]
  | cons a as ih =>
    rw [List.pairwise_cons, List.map_cons]
    cases ha : f a with
    | some v =>
      rw [List.filterMap_cons_some ha]
      show some v :: deal as (as.filterMap f) = some v :: as.map f ↔ _
      rw [List.cons_inj_right, ih]
      simp
    | none =>
      rw [List.filterMap_cons_none ha]
      have hnone : (∀ b ∈ as, (f b).isSome → (none : Option β).isSome) ↔ as.filterMap f = [] := by
        simp [List.filterMap_eq_nil_iff]
      rw [hnone]
      cases hfs : as.filterMap f with
      | nil =>
        have hall : as.map f = as.map fun _ => none := filterMap_eq_nil'.mp hfs
        rw [hfs, deal_nil] at ih
        have hrest := ih.mp hall.symm
        rw [hall, ← deal_nil]
        exact ⟨fun _ => ⟨rfl, hrest⟩, fun _ => rfl⟩
      | cons v vs => simp [deal]

/-- Among the takers of a kind, which are dealt all the values: each gets its
own exactly if no value of another kind comes before a taker of this one. -/
theorem deal_filter_iff {p : α → Bool} (hfirst : as.Pairwise fun a b => (f b).isSome → (f a).isSome)
    (hdiff : ∀ a ∈ as, ∀ b ∈ as, p a = false → p b = true → f a = f b → f a = none) :
    deal (as.filter p) (as.filterMap f) = (as.filter p).map f ↔
      as.Pairwise fun a b => (f a).isSome → p b = true → p a = true := by
  induction as with
  | nil => simp [deal]
  | cons a as ih =>
    rw [List.pairwise_cons] at hfirst ⊢
    have ih :=
      ih hfirst.2 fun x hx y hy => hdiff x (List.mem_cons_of_mem _ hx) y (List.mem_cons_of_mem _ hy)
    cases ha : f a with
    | none =>
      -- no value follows either
      have hnone : ∀ b ∈ as, f b = none := fun b hb => by simpa [ha] using hfirst.1 b hb
      have hall : ∀ b ∈ (a :: as).filter p, f b = none := by
        intro b hb
        rcases List.mem_cons.mp (List.mem_of_mem_filter hb) with rfl | hb
        · exact ha
        · exact hnone b hb
      rw [List.filterMap_cons_none ha, List.filterMap_eq_nil_iff.mpr hnone, deal_nil]
      refine iff_of_true (List.map_congr_left fun b hb => (hall b hb).symm) ⟨by simp, ?_⟩
      refine List.pairwise_of_forall_mem_list fun x hx y _ hsome => ?_
      rw [hnone x hx] at hsome
      cases hsome
    | some v =>
      rw [List.filterMap_cons_some ha]
      by_cases hp : p a = true
      · rw [List.filter_cons_of_pos hp, List.map_cons, ha]
        show some v :: deal (as.filter p) (as.filterMap f) = _ ↔ _
        rw [List.cons_inj_right, ih]
        simp [hp]
      · have hp : p a = false := by simpa using hp
        rw [List.filter_cons_of_neg (by simp [hp])]
        cases htakers : as.filter p with
        | nil =>
          have hno : ∀ b ∈ as, p b = false := by simpa [List.filter_eq_nil_iff] using htakers
          refine iff_of_true rfl ⟨fun b hb _ hpb => ?_, ?_⟩
          · rw [hno b hb] at hpb
            cases hpb
          · refine List.pairwise_of_forall_mem_list fun x _ y hy _ hpy => ?_
            rw [hno y hy] at hpy
            cases hpy
        | cons c cs =>
          -- the first taker of the kind is dealt a value of the other
          have hc : c ∈ as.filter p := htakers ▸ List.mem_cons_self
          obtain ⟨hmem, hpc⟩ := List.mem_filter.mp hc
          refine iff_of_false ?_ fun h => ?_
          · intro h
            have hfc : some v = f c := (List.cons.inj h).1
            have hav :=
              hdiff a List.mem_cons_self c (List.mem_cons_of_mem _ hmem) hp hpc (ha.trans hfc)
            rw [ha] at hav
            cases hav
          · have hpa := h.1 c hmem rfl hpc
            rw [hp] at hpa
            cases hpa

end Dealing

end TemperatureMonitor
