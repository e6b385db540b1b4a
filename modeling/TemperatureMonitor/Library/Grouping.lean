/-
# Grouping a list by a key, and its pairs

`groupBy` is the loop `groups.setdefault(key(x), []).append(x)` over an
insertion-ordered dictionary: the groups are the nonempty fibres of the key
(`mem_groupBy`), one for each key. `flatMapPairs` is the loop over every
element and each one after it.
-/
import Mathlib.Data.List.Nodup
import Mathlib.Data.List.Induction

namespace TemperatureMonitor

section Grouping

variable {α β κ : Type*} [DecidableEq κ]

/-- `groups.setdefault(key, []).append(x)`. -/
def appendTo (key : κ) (x : α) : List (κ × List α) → List (κ × List α)
  | [] => [(key, [x])]
  | (k, g) :: rest => if k = key then (k, g ++ [x]) :: rest else (k, g) :: appendTo key x rest

/-- The groups of a list, in the order their keys come up. -/
def groupBy (key : α → κ) (l : List α) : List (κ × List α) :=
  l.foldl (fun groups x => appendTo (key x) x groups) []

theorem groupBy_concat (key : α → κ) (l : List α) (x : α) :
    groupBy key (l ++ [x]) = appendTo (key x) x (groupBy key l) := by
  simp [groupBy]

theorem mem_keys_appendTo {key k : κ} {x : α} : ∀ {gs : List (κ × List α)},
    k ∈ (appendTo key x gs).map Prod.fst ↔ k ∈ gs.map Prod.fst ∨ k = key
  | [] => by simp [appendTo]
  | (j, g) :: rest => by
    unfold appendTo
    split_ifs with h
    · subst h
      simp only [List.map_cons, List.mem_cons]
      tauto
    · have ih : k ∈ (appendTo key x rest).map Prod.fst ↔ k ∈ rest.map Prod.fst ∨ k = key :=
        mem_keys_appendTo
      simp only [List.map_cons, List.mem_cons, ih]
      tauto

theorem keys_appendTo_nodup {key : κ} {x : α} : ∀ {gs : List (κ × List α)},
    (gs.map Prod.fst).Nodup → ((appendTo key x gs).map Prod.fst).Nodup
  | [], _ => by simp [appendTo]
  | (j, g) :: rest, h => by
    obtain ⟨hj, hrest⟩ := List.nodup_cons.mp h
    unfold appendTo
    split_ifs with hk
    · exact List.nodup_cons.mpr ⟨hj, hrest⟩
    · refine List.nodup_cons.mpr ⟨fun hm => ?_, keys_appendTo_nodup hrest⟩
      rcases mem_keys_appendTo.mp hm with hm | hm
      · exact hj hm
      · exact hk hm

theorem mem_appendTo {key k : κ} {x : α} {g : List α} : ∀ {gs : List (κ × List α)},
    (gs.map Prod.fst).Nodup → ((k, g) ∈ appendTo key x gs ↔
      (k ≠ key ∧ (k, g) ∈ gs) ∨ (k = key ∧ (key ∉ gs.map Prod.fst ∧ g = [x] ∨
        ∃ g', (key, g') ∈ gs ∧ g = g' ++ [x])))
  | [], _ => by
    simp only [appendTo, List.mem_singleton, Prod.mk.injEq, List.map_nil, List.not_mem_nil]
    simp
  | (j, g₀) :: rest, h => by
    obtain ⟨hj, hrest⟩ := List.nodup_cons.mp h
    have hmem : ∀ {g'}, (j, g') ∉ rest := fun hg => hj (List.mem_map.mpr ⟨_, hg, rfl⟩)
    unfold appendTo
    split_ifs with hk
    · subst hk
      by_cases hkj : k = j
      · subst hkj
        simp [hmem]
      · simp [hkj]
    · have hk' : key ≠ j := fun he => hk he.symm
      by_cases hkj : k = j
      · subst hkj
        simp [mem_appendTo hrest, hk, hmem]
      · simp [mem_appendTo hrest, hkj, hk']

/-- The groups are the nonempty fibres of the key, each key once. -/
theorem groupBy_spec (key : α → κ) (l : List α) :
    ((groupBy key l).map Prod.fst).Nodup ∧
      ∀ k g, (k, g) ∈ groupBy key l ↔ g = l.filter (fun x => key x = k) ∧ g ≠ [] := by
  induction l using List.reverseRecOn with
  | nil => exact ⟨List.nodup_nil, fun k g => by simp [groupBy]⟩
  | append_singleton l x ih =>
    obtain ⟨hnodup, hmem⟩ := ih
    rw [groupBy_concat]
    refine ⟨keys_appendTo_nodup hnodup, fun k g => ?_⟩
    have hkeys : key x ∉ (groupBy key l).map Prod.fst ↔ l.filter (fun y => key y = key x) = [] := by
      rw [List.mem_map]
      constructor
      · intro h
        by_contra hne
        exact h ⟨(key x, _), (hmem _ _).mpr ⟨rfl, hne⟩, rfl⟩
      · rintro h ⟨⟨k', g'⟩, hm, rfl⟩
        obtain ⟨rfl, hne⟩ := (hmem _ _).mp hm
        exact hne h
    rw [mem_appendTo hnodup, hkeys, List.filter_append]
    by_cases hk : k = key x
    · subst hk
      simp only [ne_eq, not_true_eq_false, false_and, true_and, false_or, hmem, decide_true,
        List.filter_cons_of_pos, List.filter_nil]
      constructor
      · rintro (⟨h1, rfl⟩ | ⟨g', ⟨rfl, -⟩, rfl⟩)
        · simp [h1]
        · simp
      · rintro ⟨rfl, -⟩
        by_cases h1 : l.filter (fun y => key y = key x) = []
        · exact .inl ⟨h1, by simp [h1]⟩
        · exact .inr ⟨_, ⟨rfl, h1⟩, rfl⟩
    · have hk' : key x ≠ k := fun he => hk he.symm
      simp [hk, hk', hmem]

theorem groupBy_keys_nodup (key : α → κ) (l : List α) : ((groupBy key l).map Prod.fst).Nodup :=
  (groupBy_spec key l).1

theorem mem_groupBy {key : α → κ} {l : List α} {k : κ} {g : List α} :
    (k, g) ∈ groupBy key l ↔ g = l.filter (fun x => key x = k) ∧ g ≠ [] :=
  (groupBy_spec key l).2 k g

/-- The groups of two orders of a list have the same keys. -/
theorem groupBy_keys_perm (key : α → κ) {l k : List α}
    (h : l.Perm k) : ((groupBy key l).map Prod.fst).Perm ((groupBy key k).map Prod.fst) := by
  have hmem : ∀ {l k : List α}, l.Perm k → ∀ x, x ∈ (groupBy key l).map Prod.fst →
      x ∈ (groupBy key k).map Prod.fst := by
    intro l k h x hx
    obtain ⟨⟨x, g⟩, hg, rfl⟩ := List.mem_map.mp hx
    obtain ⟨rfl, hne⟩ := mem_groupBy.mp hg
    refine List.mem_map.mpr ⟨(x, _), mem_groupBy.mpr ⟨rfl, fun he => hne ?_⟩, rfl⟩
    have hf := h.filter fun y => decide (key y = x)
    rw [he] at hf
    exact hf.eq_nil
  refine (List.perm_ext_iff_of_nodup (groupBy_keys_nodup key l) (groupBy_keys_nodup key k)).mpr ?_
  exact fun x => ⟨hmem h x, hmem h.symm x⟩

end Grouping

section Pairs

variable {α β : Type*}

/-- What `f` yields on every element and each one after it. -/
def flatMapPairs (f : α → α → List β) : List α → List β
  | [] => []
  | x :: xs => xs.flatMap (f x) ++ flatMapPairs f xs

theorem flatMapPairs_eq_nil {f : α → α → List β} : ∀ {l : List α},
    flatMapPairs f l = [] ↔ l.Pairwise fun a b => f a b = []
  | [] => by simp [flatMapPairs]
  | x :: xs => by
    simp only [flatMapPairs, List.append_eq_nil_iff, List.flatMap_eq_nil_iff, List.pairwise_cons,
      flatMapPairs_eq_nil]

/-- In lists related element by element, each element has its partner. -/
theorem forall₂_mem_right {R : α → β → Prop} {l : List α} {k : List β} (h : List.Forall₂ R l k)
    {b : β} (hb : b ∈ k) : ∃ a ∈ l, R a b := by
  induction h with
  | nil => simp at hb
  | cons hr _ ih =>
    rcases List.mem_cons.mp hb with rfl | hb
    · exact ⟨_, by simp, hr⟩
    · obtain ⟨a, ha, hr⟩ := ih hb
      exact ⟨a, List.mem_cons_of_mem _ ha, hr⟩

theorem forall₂_mem_left {R : α → β → Prop} {l : List α} {k : List β} (h : List.Forall₂ R l k)
    {a : α} (ha : a ∈ l) : ∃ b ∈ k, R a b :=
  forall₂_mem_right (R := fun b a => R a b) h.flip ha

theorem forall₂_comp {γ : Type*} {R : α → β → Prop} {S : β → γ → Prop} {T : α → γ → Prop}
    (hT : ∀ a b c, R a b → S b c → T a c) {as : List α} {bs : List β} {cs : List γ}
    (h : List.Forall₂ R as bs) (h' : List.Forall₂ S bs cs) : List.Forall₂ T as cs := by
  induction h generalizing cs with
  | nil =>
    cases h'
    exact .nil
  | cons hr _ ih =>
    cases h' with
    | cons hr' h' => exact .cons (hT _ _ _ hr hr') (ih h')

theorem forall₂_trans {R : α → α → Prop} (hR : ∀ a b c, R a b → R b c → R a c) {as bs cs : List α}
    (h : List.Forall₂ R as bs) (h' : List.Forall₂ R bs cs) : List.Forall₂ R as cs :=
  forall₂_comp hR h h'

theorem forall₂_pairwise {R : α → β → Prop} {S : α → α → Prop} {T : β → β → Prop}
    (hST : ∀ a a' b b', R a b → R a' b' → S a a' → T b b') {as : List α} {bs : List β}
    (h : List.Forall₂ R as bs) (hs : as.Pairwise S) : bs.Pairwise T := by
  induction h with
  | nil => exact .nil
  | cons hr hrest ih =>
    obtain ⟨hhead, htail⟩ := List.pairwise_cons.mp hs
    refine List.pairwise_cons.mpr ⟨fun b hb => ?_, ih htail⟩
    obtain ⟨a, ha, hab⟩ := forall₂_mem_right hrest hb
    exact hST _ _ _ _ hr hab (hhead a ha)

theorem forall₂_countP {R : α → β → Prop} {p : α → Bool} {q : β → Bool}
    (hpq : ∀ a b, R a b → p a = q b) {as : List α} {bs : List β} (h : List.Forall₂ R as bs) :
    as.countP p = bs.countP q := by
  induction h with
  | nil => rfl
  | cons hr _ ih => rw [List.countP_cons, List.countP_cons, ih, hpq _ _ hr]

end Pairs

end TemperatureMonitor
