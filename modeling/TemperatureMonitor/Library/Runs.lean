/-
# Runs of a labelled step relation

A run is the list of labels a system took, oldest first, and the state it
is in. `Run.inv` is the induction every safety theorem uses: what holds at
the start and is kept by each step holds after every run. A run all of whose
steps meet a condition is a run of the guarded relation (`Guarded`), so the
same rule serves for "in every run whose steps ...". `ComesFirst` says which of
two kinds of labels a list has first.
-/
import Mathlib.Data.List.Basic

namespace TemperatureMonitor

variable {S L : Type*}

/-- The runs of `step` from `s`. -/
inductive Run (step : S → L → S → Prop) (s : S) : List L → S → Prop
  | nil : Run step s [] s
  | snoc {ls : List L} {t : S} {l : L} {u : S} :
      Run step s ls t → step t l u → Run step s (ls ++ [l]) u

/-- A step that meets the condition `C` on the state before it and its label. -/
def Guarded (C : S → L → Prop) (step : S → L → S → Prop) (s : S) (l : L) (t : S) : Prop :=
  C s l ∧ step s l t

namespace Run

variable {step step' : S → L → S → Prop} {s t u : S} {ls ks : List L}

/-- What holds at the start and is kept by each step holds after every run. -/
theorem inv {I : S → Prop} (h0 : I s) (hstep : ∀ a l b, I a → step a l b → I b)
    (h : Run step s ls t) : I t := by
  induction h with
  | nil => exact h0
  | snoc _ hs ih => exact hstep _ _ _ ih hs

/-- As `inv`, for a property of the state and the labels so far. -/
theorem inv_labels {I : List L → S → Prop} (h0 : I [] s)
    (hstep : ∀ ls a l b, Run step s ls a → I ls a → step a l b → I (ls ++ [l]) b)
    (h : Run step s ls t) : I ls t := by
  induction h with
  | nil => exact h0
  | snoc hr hs ih => exact hstep _ _ _ _ hr ih hs

theorem mono (hsub : ∀ a l b, step a l b → step' a l b) (h : Run step s ls t) :
    Run step' s ls t := by
  induction h with
  | nil => exact nil
  | snoc _ hs ih => exact ih.snoc (hsub _ _ _ hs)

/-- A run whose labels all meet a condition. -/
theorem guarded {C : S → L → Prop} (h : Run step s ls t) (hC : ∀ a, ∀ l ∈ ls, C a l) :
    Run (Guarded C step) s ls t := by
  induction h with
  | nil => exact nil
  | snoc _ hs ih =>
    refine (ih fun a l hl => hC a l (List.mem_append_left _ hl)).snoc ⟨hC _ _ ?_, hs⟩
    simp

theorem append (h : Run step s ls t) (h' : Run step t ks u) : Run step s (ls ++ ks) u := by
  induction h' with
  | nil => simpa using h
  | snoc _ hs ih => simpa using ih.snoc hs

theorem one {l : L} (h : step s l t) : Run step s [l] t := nil.snoc h

theorem cons {l : L} (h : step s l t) (h' : Run step t ls u) : Run step s (l :: ls) u :=
  (one h).append h'

/-- A run projects onto a run of another system, step by step: a step onto one
with the label `f` gives, or onto none. -/
theorem filterMap {S' L' : Type*} {step' : S' → L' → S' → Prop} {p : S → S'} {f : L → Option L'}
    (h : Run step s ls t)
    (hnone : ∀ a l b, step a l b → f l = none → p b = p a)
    (hsome : ∀ ks a l b m, Run step s ks a → Run step' (p s) (ks.filterMap f) (p a) → step a l b →
      f l = some m → step' (p a) m (p b)) :
    Run step' (p s) (ls.filterMap f) (p t) := by
  induction h with
  | nil => exact nil
  | @snoc ls t l u hr hs ih =>
    rw [List.filterMap_append]
    cases hl : f l with
    | none =>
      rw [List.filterMap_cons_none hl, List.filterMap_nil, List.append_nil, hnone t l u hs hl]
      exact ih
    | some m =>
      rw [List.filterMap_cons_some hl, List.filterMap_nil]
      exact ih.snoc (hsome ls t l u m hr ih hs hl)

/-- A run through a label stops right before it and right after it. -/
theorem at_label {post : List L} {l : L} (h : Run step s (ls ++ l :: post) u) :
    ∃ t t', Run step s ls t ∧ step t l t' ∧ Run step t' post u := by
  generalize hall : ls ++ l :: post = all at h
  induction h generalizing post with
  | nil => simp at hall
  | @snoc ks t k u hr hs ih =>
    rcases List.eq_nil_or_concat' post with rfl | ⟨post', x, rfl⟩
    · obtain ⟨rfl, hk⟩ := List.append_inj' hall rfl
      obtain rfl := (List.cons.inj hk).1
      exact ⟨t, u, hr, hs, nil⟩
    · rw [← List.cons_append, ← List.append_assoc] at hall
      obtain ⟨hks, hk⟩ := List.append_inj' hall rfl
      obtain rfl := (List.cons.inj hk).1
      obtain ⟨a, b, ha, hab, hb⟩ := ih hks
      exact ⟨a, b, ha, hab, hb.snoc hs⟩

/-- A run stops between any two of its labels. -/
theorem split (h : Run step s (ls ++ ks) u) : ∃ t, Run step s ls t ∧ Run step t ks u := by
  cases ks with
  | nil => exact ⟨u, by simpa using h, nil⟩
  | cons k ks =>
    obtain ⟨t, t', ht, hs, hrest⟩ := h.at_label
    exact ⟨t, ht, cons hs hrest⟩

theorem of_nil (h : Run step s [] t) : t = s := by
  generalize hn : ([] : List L) = ks at h
  cases h with
  | nil => rfl
  | snoc => simp at hn

/-- The first step of a run. -/
theorem uncons {l : L} (h : Run step s (l :: ls) u) : ∃ t, step s l t ∧ Run step t ls u := by
  obtain ⟨a, t, ha, hs, hrest⟩ := at_label (show Run step s ([] ++ l :: ls) u from h)
  obtain rfl := ha.of_nil
  exact ⟨t, hs, hrest⟩

/-- The runs of a function are determined by their labels. -/
theorem unique (hstep : ∀ a l b c, step a l b → step a l c → b = c) (h : Run step s ls t)
    (h' : Run step s ls u) : t = u := by
  induction ls generalizing s with
  | nil => rw [h.of_nil, h'.of_nil]
  | cons l ls ih =>
    obtain ⟨a, ha, hrest⟩ := h.uncons
    obtain ⟨b, hb, hrest'⟩ := h'.uncons
    obtain rfl := hstep _ _ _ _ ha hb
    exact ih hrest hrest'

/-- A run without a label. -/
theorem without {l : L} (h : Run step s ls t) (hno : l ∉ ls) :
    Run (Guarded (fun _ k => k ≠ l) step) s ls t := by
  induction h with
  | nil => exact nil
  | @snoc ls t k u _ hs ih =>
    have hk : k ≠ l := fun hkl => hno (List.mem_append_right _ (hkl ▸ List.mem_singleton_self k))
    exact (ih fun hmem => hno (List.mem_append_left _ hmem)).snoc ⟨hk, hs⟩

/-- All steps of a run meet a condition, or one does not. -/
theorem guarded_or {C : S → L → Prop} (h : Run step s ls t) : Run (Guarded C step) s ls t ∨
    ∃ pre l post a b, ls = pre ++ l :: post ∧ Run step s pre a ∧ step a l b ∧ ¬ C a l ∧
      Run step b post t := by
  induction h with
  | nil => exact .inl .nil
  | @snoc ks t k u hr hs ih =>
    rcases ih with hg | ⟨pre, l, post, a, b, rfl, hpre, hstep, hbad, hpost⟩
    · by_cases hC : C t k
      · exact .inl (hg.snoc ⟨hC, hs⟩)
      · exact .inr ⟨ks, k, [], t, u, rfl, hr, hs, hC, .nil⟩
    · exact .inr ⟨pre, l, post ++ [k], a, b, by simp, hpre, hstep, hbad, hpost.snoc hs⟩

/-- The last step of a run. -/
theorem last {l : L} (h : Run step s (ls ++ [l]) u) : ∃ t, Run step s ls t ∧ step t l u := by
  generalize hall : ls ++ [l] = all at h
  cases h with
  | nil => simp at hall
  | snoc hr hs =>
    obtain ⟨rfl, hl⟩ := List.append_inj' hall rfl
    obtain rfl := (List.cons.inj hl).1
    exact ⟨_, hr, hs⟩

end Run

/-! ### What comes first -/

/-- The list has a label of the first kind, and none of the second before it. -/
def ComesFirst (P Q : L → Prop) (ls : List L) : Prop :=
  ∃ pre l post, ls = pre ++ l :: post ∧ P l ∧ ∀ k ∈ pre, ¬ Q k

section ComesFirst

variable {P Q : L → Prop} {ls : List L}

theorem ComesFirst.append (h : ComesFirst P Q ls) (ks : List L) : ComesFirst P Q (ls ++ ks) := by
  obtain ⟨pre, l, post, rfl, hl, hpre⟩ := h
  exact ⟨pre, l, post ++ ks, by simp, hl, hpre⟩

theorem comesFirst_last {l : L} (hls : ∀ k ∈ ls, ¬ Q k) (hl : P l) : ComesFirst P Q (ls ++ [l]) :=
  ⟨ls, l, [], rfl, hl, hls⟩

/-- What comes first among the labels a run projects onto. -/
theorem ComesFirst.of_filterMap {L' : Type*} {P' Q' : L' → Prop} {f : L → Option L'}
    (h : ComesFirst P' Q' (ls.filterMap f)) (hP : ∀ l m, f l = some m → P' m → P l)
    (hQ : ∀ l, Q l → ∃ m, f l = some m ∧ Q' m) : ComesFirst P Q ls := by
  obtain ⟨pre, m, post, hsplit, hm, hpre⟩ := h
  obtain ⟨as, bs, rfl, has, hbs⟩ := List.filterMap_eq_append_iff.mp hsplit
  obtain ⟨cs, l, ds, rfl, hcs, hl, -⟩ := List.filterMap_eq_cons_iff.mp hbs
  refine ⟨as ++ cs, l, ds, by simp, hP l m hl hm, fun k hk hq => ?_⟩
  obtain ⟨n, hn, hqn⟩ := hQ k hq
  rcases List.mem_append.mp hk with hk | hk
  · exact hpre n (has ▸ List.mem_filterMap.mpr ⟨k, hk, hn⟩) hqn
  · rw [hcs k hk] at hn
    cases hn

/-- A label that only one projects onto. -/
theorem mem_filterMap_iff {L' : Type*} {f : L → Option L'} {l : L} {m : L'}
    (h : ∀ k, f k = some m ↔ k = l) : m ∈ ls.filterMap f ↔ l ∈ ls := by
  rw [List.mem_filterMap]
  constructor
  · rintro ⟨k, hk, hm⟩
    rwa [← (h k).mp hm]
  · exact fun hl => ⟨l, hl, (h l).mpr rfl⟩

end ComesFirst

end TemperatureMonitor
