/-
# The resolver's choice

What `select_standard` gives does not depend on the order its source returned
the standards in (`SameOutcome` of any two orders), and a standard it gives is
the current revision of its chain and outranks the current revision of every
other chain (`Outranks`). The stages are followed one by one: candidates,
chains, collapsed revisions and winners of two orders are permutations of each
other, and an error of any stage has one kind.
-/
import Mathlib.Data.List.Perm.Basic
import TemperatureMonitor.Domain.StandardsSound

namespace TemperatureMonitor

/-- The classes of the exceptions. -/
inductive ResolutionErrorKind
  | valueError | standardNotFound | configurationConflict
deriving DecidableEq

def StandardResolutionError.kind : StandardResolutionError → ResolutionErrorKind
  | .valueError _ => .valueError
  | .standardNotFound .. => .standardNotFound
  | .configurationConflict _ => .configurationConflict

/-- The same value, or errors of one kind. -/
def SameOutcome {α : Type*} (a b : Except StandardResolutionError α) : Prop :=
  a.mapError (·.kind) = b.mapError (·.kind)

section Choice

variable {upper : String → String} {standards : List EnvironmentStandard} {q : StandardQuery}

/-! ### The order of the rows -/

theorem max?_eq_of_perm {α : Type*} [LinearOrder α] {l k : List α} (h : l.Perm k) :
    l.max? = k.max? := by
  cases hk : k.max? with
  | none =>
    rw [List.max?_eq_none_iff] at hk ⊢
    rw [hk] at h
    exact h.eq_nil
  | some m =>
    obtain ⟨hmem, hmax⟩ := List.max?_eq_some_iff.mp hk
    exact List.max?_eq_some_iff.mpr ⟨h.mem_iff.mpr hmem, fun b hb => hmax b (h.mem_iff.mp hb)⟩

theorem latestRevisions_perm {l k : List EnvironmentStandard} (h : l.Perm k) :
    (latestRevisions l).Perm (latestRevisions k) := by
  have hmax := max?_eq_of_perm (h.map (·.effectiveFrom.instant))
  unfold latestRevisions
  rw [hmax]
  exact h.filter _

theorem winners_perm {l k : List EnvironmentStandard} (h : l.Perm k) :
    (winners upper q l).Perm (winners upper q k) := by
  have hmax := max?_eq_of_perm (h.map (precedence upper q))
  unfold winners
  rw [hmax]
  exact h.filter _

theorem collapse_kind {l : List EnvironmentStandard} {e : StandardResolutionError}
    (h : collapse upper l = .error e) : e.kind = .configurationConflict := by
  unfold collapse at h
  split_ifs at h
  · cases h
    rfl
  · split at h
    · cases h
    · cases h
      rfl

/-- What a chain collapses to: the only revision with the latest start. -/
theorem collapse_eq_ok {l : List EnvironmentStandard} {s : EnvironmentStandard} :
    collapse upper l = .ok s ↔
      (l.map (logicalSelectorKey upper)).dedup.length = 1 ∧ latestRevisions l = [s] := by
  unfold collapse
  split_ifs with hk
  · simp [hk]
  · rw [not_not] at hk
    split
    · rename_i latest hl
      simp [hk, hl]
    · rename_i hl
      simp only [reduceCtorEq, false_iff, not_and]
      exact fun _ he => hl s he

theorem collapse_perm {l k : List EnvironmentStandard} (h : l.Perm k) {s : EnvironmentStandard}
    (hl : collapse upper l = .ok s) : collapse upper k = .ok s := by
  rw [collapse_eq_ok] at hl ⊢
  obtain ⟨hkeys, hlatest⟩ := hl
  have hp := latestRevisions_perm h
  rw [hlatest] at hp
  exact ⟨by rw [← (h.map _).dedup.length_eq, hkeys], List.perm_singleton.mp hp.symm⟩

theorem collapseAll_kind : ∀ {gs : List (String × List EnvironmentStandard)}
    {e : StandardResolutionError}, collapseAll upper gs = .error e → e.kind = .configurationConflict
  | [], _, h => by cases h
  | g :: rest, e, h => by
    unfold collapseAll at h
    split at h
    · rename_i hg
      cases h
      exact collapse_kind hg
    · split at h
      · rename_i hrest
        cases h
        exact collapseAll_kind hrest
      · cases h

theorem collapseAll_forall₂ : ∀ {gs : List (String × List EnvironmentStandard)}
    {cs : List EnvironmentStandard}, collapseAll upper gs = .ok cs →
    List.Forall₂ (fun g s => collapse upper g.2 = .ok s) gs cs
  | [], cs, h => by
    cases h
    exact .nil
  | g :: rest, cs, h => by
    unfold collapseAll at h
    split at h
    · cases h
    · rename_i s hs
      split at h
      · cases h
      · rename_i collapsed hrest
        cases h
        exact .cons hs (collapseAll_forall₂ hrest)

/-- The collapsed chains are the chains, each collapsed. -/
theorem collapsed_map {l cs : List EnvironmentStandard}
    (h : collapseAll upper (groupBy (·.standardId) l) = .ok cs) :
    cs.map Except.ok = ((groupBy (·.standardId) l).map Prod.fst).map fun k =>
      collapse upper (l.filter fun s => s.standardId = k) := by
  have hall := collapseAll_forall₂ h
  have hfibre : ∀ g ∈ groupBy (·.standardId) l, g.2 = l.filter fun s => s.standardId = g.1 :=
    fun g hg => (mem_groupBy.mp hg).1
  clear h
  generalize groupBy (·.standardId) l = gs at hall hfibre
  induction hall with
  | nil => rfl
  | cons hg _ ih =>
    rw [List.map_cons, List.map_cons, List.map_cons, ← hfibre _ (by simp), hg,
      ih fun g hg => hfibre g (List.mem_cons_of_mem _ hg)]

theorem collapseAll_perm {l k cs : List EnvironmentStandard} (h : l.Perm k)
    (hl : collapseAll upper (groupBy (·.standardId) l) = .ok cs) :
    ∃ cs', collapseAll upper (groupBy (·.standardId) k) = .ok cs' ∧ cs.Perm cs' := by
  have hall := collapseAll_forall₂ hl
  have hkeys := groupBy_keys_perm (fun s : EnvironmentStandard => s.standardId) h
  have hgroup : ∀ g ∈ groupBy (·.standardId) k, ∃ s, collapse upper g.2 = .ok s ∧ True := by
    rintro ⟨x, g⟩ hg
    obtain ⟨rfl, -⟩ := mem_groupBy.mp hg
    obtain ⟨⟨x', g'⟩, hg', rfl⟩ := List.mem_map.mp
      (hkeys.mem_iff.mpr (List.mem_map_of_mem (f := Prod.fst) hg))
    obtain ⟨rfl, -⟩ := mem_groupBy.mp hg'
    obtain ⟨s, -, hs⟩ := forall₂_mem_left hall hg'
    exact ⟨s, collapse_perm (h.filter _) hs, trivial⟩
  obtain ⟨cs', hk, -⟩ := collapseAll_ok (P := fun _ _ => True) hgroup
  refine ⟨cs', hk, ?_⟩
  have hinj :
      Function.Injective (Except.ok : EnvironmentStandard → Except StandardResolutionError _) :=
    fun a b hab => by cases hab; rfl
  refine (List.map_perm_map_iff hinj).mp ?_
  rw [collapsed_map hl, collapsed_map hk]
  refine (hkeys.map _).trans (List.Perm.of_eq (List.map_congr_left fun x hx => ?_))
  obtain ⟨⟨x, g⟩, hg, rfl⟩ := List.mem_map.mp (hkeys.mem_iff.mpr hx)
  obtain ⟨rfl, -⟩ := mem_groupBy.mp hg
  obtain ⟨s, -, hs⟩ := forall₂_mem_left hall hg
  rw [collapse_perm (h.filter _) hs]
  exact hs

theorem onlyWinner_perm {l k : List EnvironmentStandard} (h : l.Perm k) :
    SameOutcome (onlyWinner l) (onlyWinner k) := by
  by_cases hk : ∃ s, k = [s]
  · obtain ⟨s, rfl⟩ := hk
    rw [List.perm_singleton.mp h]
    rfl
  · have hl : ¬ ∃ s, l = [s] := fun ⟨s, he⟩ => hk ⟨s, List.perm_singleton.mp (he ▸ h.symm)⟩
    have hconflict : ∀ {m : List EnvironmentStandard}, (¬ ∃ s, m = [s]) →
        (onlyWinner m).mapError (·.kind) = .error .configurationConflict := by
      intro m hm
      unfold onlyWinner
      split
      · exact absurd ⟨_, rfl⟩ hm
      · rfl
    exact (hconflict hl).trans (hconflict hk).symm

theorem selectStandard_perm {permuted : List EnvironmentStandard} (h : permuted.Perm standards) :
    SameOutcome (selectStandard upper permuted q) (selectStandard upper standards q) := by
  have hcand : (permuted.filter (applies upper q)).Perm (standards.filter (applies upper q)) :=
    h.filter _
  unfold selectStandard
  by_cases harea : blank q.areaId = true
  · rw [if_pos harea, if_pos harea]
    rfl
  rw [if_neg harea, if_neg harea]
  simp only
  by_cases hnone : standards.filter (applies upper q) = []
  · rw [if_pos hnone, if_pos (by rw [hnone] at hcand; exact hcand.eq_nil)]
    rfl
  rw [if_neg hnone, if_neg fun he => hnone (by rw [he] at hcand; exact hcand.symm.eq_nil)]
  cases hl : collapseAll upper (groupBy (·.standardId) (permuted.filter (applies upper q))) with
  | ok cs =>
    obtain ⟨cs', hk, hcs⟩ := collapseAll_perm hcand hl
    rw [hk]
    exact onlyWinner_perm (winners_perm hcs)
  | error e =>
    cases hk : collapseAll upper (groupBy (·.standardId) (standards.filter (applies upper q))) with
    | ok cs =>
      obtain ⟨cs', hl', -⟩ := collapseAll_perm hcand.symm hk
      rw [hl] at hl'
      cases hl'
    | error e' =>
      change Except.error e.kind = Except.error e'.kind
      rw [collapseAll_kind hl, collapseAll_kind hk]

/-! ### The standard chosen -/

/-- `s` stands in the list once, matches the query, and every other matching
revision of its `standard_id` started earlier. -/
def Current (upper : String → String) (standards : List EnvironmentStandard) (q : StandardQuery)
    (s : EnvironmentStandard) : Prop :=
  applies upper q s = true ∧ ∃ before after, standards = before ++ s :: after ∧
    ∀ r ∈ before ++ after, applies upper q r = true → r.standardId = s.standardId →
      r.effectiveFrom.instant < s.effectiveFrom.instant

/-- Every other chain with a matching revision has a current one, and it has a
lower precedence. -/
def Outranks (upper : String → String) (standards : List EnvironmentStandard) (q : StandardQuery)
    (s : EnvironmentStandard) : Prop :=
  (∀ r ∈ standards, applies upper q r = true → r.standardId ≠ s.standardId →
    ∃ c, Current upper standards q c ∧ c.standardId = r.standardId) ∧
  ∀ c, Current upper standards q c → c.standardId ≠ s.standardId →
    precedence upper q c < precedence upper q s

theorem current_of_collapse {k : String} {s : EnvironmentStandard}
    (h : collapse upper ((standards.filter (applies upper q)).filter (·.standardId = k)) = .ok s) :
    Current upper standards q s ∧ s.standardId = k := by
  obtain ⟨-, hlatest⟩ := collapse_eq_ok.mp h
  have hs : s ∈ latestRevisions
      ((standards.filter (applies upper q)).filter (·.standardId = k)) := by
    rw [hlatest]
    simp
  obtain ⟨hchain, htop⟩ := List.mem_filter.mp hs
  obtain ⟨hcand, hid⟩ := List.mem_filter.mp hchain
  have hid := of_decide_eq_true hid
  obtain ⟨-, hq⟩ := mem_candidates.mp hcand
  have hmax := (List.max?_eq_some_iff.mp (of_decide_eq_true htop).symm).2
  refine ⟨⟨hq, ?_⟩, hid⟩
  -- the rows that start as late as `s` are `s` alone
  rw [latestRevisions, List.filter_filter, List.filter_filter] at hlatest
  obtain ⟨before, after, rfl, hbefore, -, hafter⟩ := List.filter_eq_cons_iff.mp hlatest
  refine ⟨before, after, rfl, fun r hr hrq hrid => ?_⟩
  have hrchain : r ∈ ((before ++ s :: after).filter (applies upper q)).filter (·.standardId = k) :=
    List.mem_filter.mpr
        ⟨mem_candidates.mpr ⟨by simp only [List.mem_append, List.mem_cons] at hr ⊢; tauto,
      hrq⟩, decide_eq_true (hrid.trans hid)⟩
  refine lt_of_le_of_ne (hmax _ (List.mem_map_of_mem hrchain)) fun he => ?_
  have hpass := of_decide_eq_true htop
  rw [← he] at hpass
  rcases List.mem_append.mp hr with hr | hr
  · have hno := hbefore r hr
    simp only [hpass, hrid.trans hid, hrq, decide_true, Bool.and_self, not_true_eq_false] at hno
  · have hno := List.filter_eq_nil_iff.mp hafter r hr
    simp only [hpass, hrid.trans hid, hrq, decide_true, Bool.and_self, not_true_eq_false] at hno

theorem Current.unique {s t : EnvironmentStandard} (hs : Current upper standards q s)
    (ht : Current upper standards q t) (hid : s.standardId = t.standardId) : s = t := by
  obtain ⟨hsq, before, after, hsplit, hlt⟩ := hs
  obtain ⟨htq, before', after', hsplit', hlt'⟩ := ht
  by_contra hne
  have hmem : t ∈ before ++ after := by
    have : t ∈ before ++ s :: after := by rw [← hsplit, hsplit']; simp
    simp only [List.mem_append, List.mem_cons] at this ⊢
    rcases this with h | h | h
    · exact .inl h
    · exact absurd h.symm hne
    · exact .inr h
  have hmem' : s ∈ before' ++ after' := by
    have : s ∈ before' ++ t :: after' := by rw [← hsplit', hsplit]; simp
    simp only [List.mem_append, List.mem_cons] at this ⊢
    rcases this with h | h | h
    · exact .inl h
    · exact absurd h hne
    · exact .inr h
  exact lt_asymm (hlt t hmem htq hid.symm) (hlt' s hmem' hsq hid)

/-- What a successful selection went through. -/
theorem selectStandard_ok {s : EnvironmentStandard} (h : selectStandard upper standards q = .ok s) :
    ∃ cs, collapseAll upper (groupBy (·.standardId) (standards.filter (applies upper q))) = .ok cs ∧
      winners upper q cs = [s] := by
  unfold selectStandard at h
  split_ifs at h
  simp only at h
  split_ifs at h
  split at h
  · cases h
  · rename_i cs hcs
    refine ⟨cs, hcs, ?_⟩
    unfold onlyWinner at h
    split at h
    · rename_i w hw
      cases h
      exact hw
    · cases h

theorem selectStandard_current {s : EnvironmentStandard}
    (h : selectStandard upper standards q = .ok s) :
    Current upper standards q s ∧ Outranks upper standards q s := by
  obtain ⟨cs, hcs, hw⟩ := selectStandard_ok h
  have hall := collapseAll_forall₂ hcs
  have hcurrent : ∀ c ∈ cs, Current upper standards q c := by
    intro c hc
    obtain ⟨⟨k, g⟩, hg, hcol⟩ := forall₂_mem_right hall hc
    obtain ⟨rfl, -⟩ := mem_groupBy.mp hg
    exact (current_of_collapse hcol).1
  have hchain : ∀ r ∈ standards, applies upper q r = true →
      ∃ c ∈ cs, Current upper standards q c ∧ c.standardId = r.standardId := by
    intro r hr hrq
    have hne : (standards.filter (applies upper q)).filter (·.standardId = r.standardId) ≠ [] :=
      List.ne_nil_of_mem (List.mem_filter.mpr ⟨mem_candidates.mpr ⟨hr, hrq⟩, decide_eq_true rfl⟩)
    obtain ⟨c, hc, hcol⟩ := forall₂_mem_left hall (mem_groupBy.mpr ⟨rfl, hne⟩)
    exact ⟨c, hc, current_of_collapse hcol⟩
  have hne : cs ≠ [] := by
    rintro rfl
    simp [winners] at hw
  have hs : s ∈ winners upper q cs := by rw [hw]; simp
  obtain ⟨hsc, htop⟩ := ((winners_spec hne).2 s).mp hs
  refine ⟨hcurrent s hsc, fun r hr hrq _ => ?_, fun c hc hid => ?_⟩
  · obtain ⟨c, -, hc⟩ := hchain r hr hrq
    exact ⟨c, hc⟩
  · -- a current revision is among the collapsed ones, and a tie would be a second winner
    obtain ⟨hcq, before, after, hsplit, -⟩ := id hc
    obtain ⟨d, hd, hdc, hdid⟩ := hchain c (by rw [hsplit]; simp) hcq
    obtain rfl := hdc.unique hc hdid
    refine lt_of_le_of_ne (htop d hd) fun he => ?_
    have hdw : d ∈ winners upper q cs :=
      ((winners_spec hne).2 d).mpr ⟨hd, fun x hx => he ▸ htop x hx⟩
    rw [hw, List.mem_singleton] at hdw
    exact hid (by rw [hdw])

/-- **The choice is the table's, not its order's.** -/
theorem selectStandard_chooses (upper : String → String) (standards : List EnvironmentStandard)
    (q : StandardQuery) :
    (∀ permuted : List EnvironmentStandard, permuted.Perm standards →
      SameOutcome (selectStandard upper permuted q) (selectStandard upper standards q)) ∧
    ∀ s, selectStandard upper standards q = .ok s →
      s.enabled = true ∧ s.effectiveAt q.timestamp = true ∧ s.area = q.areaId ∧
        deviceMatches upper q s = true ∧
        (s.operationType = none ∨ s.operationType = q.operationType) ∧
        Current upper standards q s ∧ Outranks upper standards q s := by
  refine ⟨fun permuted h => selectStandard_perm h, fun s h => ?_⟩
  obtain ⟨hcurrent, houtranks⟩ := selectStandard_current h
  obtain ⟨hen, harea, hdev, heff, hop⟩ := applies_iff.mp hcurrent.1
  exact ⟨hen, heff, harea, hdev, hop, hcurrent, houtranks⟩

end Choice
end TemperatureMonitor
