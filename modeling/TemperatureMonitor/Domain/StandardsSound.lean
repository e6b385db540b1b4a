/-
# What snapshot validation promises the resolver

A snapshot accepted without errors (`Accepted`) has one effective revision of
each logical standard at any time, so collapsing the chains never fails
(`collapseAll_candidates`). What is left to go wrong is the last step: two
standards of different chains with the winning precedence. The check of pairs
compares device ids as they are written and the resolver compares them
stripped and in upper case, so such a pair exists exactly when two spellings
of one device id meet (`Clash`): `accepted_resolves_iff`.
-/
import TemperatureMonitor.Domain.Standards

namespace TemperatureMonitor

variable {upper : String → String} {standards : List EnvironmentStandard} {q : StandardQuery}

/-! ### What acceptance says -/

/-- The facts of an accepted snapshot the resolver rests on. -/
structure Accepted (upper : String → String) (standards : List EnvironmentStandard) : Prop where
  device : ∀ s ∈ standards, ∃ d, s.deviceId = some d ∧ d ≠ ""
  chains : ∀ k, ((standards.filter (·.enabled)).filter (·.standardId = k)).Pairwise fun a b =>
    intervalsOverlap a b → logicalSelectorKey upper a = logicalSelectorKey upper b ∧
      a.effectiveFrom.instant ≠ b.effectiveFrom.instant
  pairs : standards.Pairwise fun a b => a.enabled → b.enabled → a.standardId ≠ b.standardId →
    intervalsOverlap a b → ¬ samePrecedenceGroup a b

theorem fieldErrors_of_rowErrors : ∀ {l : List EnvironmentStandard} {ids : List (String × String)},
    rowErrors ids l = [] → ∀ s ∈ l, fieldErrors s = []
  | [], _, _, s, hs => by simp at hs
  | x :: l, ids, h, s, hs => by
    simp only [rowErrors, List.append_eq_nil_iff] at h
    rcases List.mem_cons.mp hs with rfl | hs
    · exact h.1.2
    · exact fieldErrors_of_rowErrors h.2 s hs

theorem device_of_fieldErrors {s : EnvironmentStandard} (h : fieldErrors s = []) :
    ∃ d, s.deviceId = some d ∧ d ≠ "" := by
  simp only [fieldErrors, List.append_eq_nil_iff, ite_eq_right_iff, reduceCtorEq, imp_false] at h
  have hd : ¬ s.deviceId.all blank = true := h.1.1.1.1.1.1.1.1
  cases hs : s.deviceId with
  | none => simp [hs] at hd
  | some d =>
    refine ⟨d, rfl, ?_⟩
    rintro rfl
    simp only [hs, Option.all_some] at hd
    exact hd (by decide)

theorem accepted_of_valid (h : validateStandardSnapshot upper standards = []) :
    Accepted upper standards := by
  simp only [validateStandardSnapshot, List.append_eq_nil_iff, List.flatMap_eq_nil_iff,
    flatMapPairs_eq_nil] at h
  obtain ⟨⟨⟨-, hrows⟩, hchains⟩, hpairs⟩ := h
  refine ⟨fun s hs => device_of_fieldErrors (fieldErrors_of_rowErrors hrows s hs), fun k => ?_,
    hpairs.imp fun {a b} hab ha hb hid hov hsame => ?_⟩
  · by_cases hne : (standards.filter (·.enabled)).filter (·.standardId = k) = []
    · rw [hne]
      exact List.Pairwise.nil
    · refine (hchains (k, _) (mem_groupBy.mpr ⟨rfl, hne⟩)).imp fun {a b} hab hov => ?_
      unfold revisionErrors at hab
      split_ifs at hab with h1 h2
      exact ⟨not_not.mp h1, h2⟩
  · unfold precedenceErrors at hab
    split_ifs at hab with h1 h2
    · simp_all
    · exact h2 ⟨hsame, hov⟩

theorem overlap_of_effective {a b : EnvironmentStandard} {t : DateTime} (ha : a.effectiveAt t)
    (hb : b.effectiveAt t) : intervalsOverlap a b := by
  simp only [EnvironmentStandard.effectiveAt, Bool.decide_and, Bool.and_eq_true,
    decide_eq_true_eq] at ha hb
  unfold intervalsOverlap
  cases h1 : a.effectiveTo <;> cases h2 : b.effectiveTo <;> simp_all <;> omega

theorem intervalsOverlap_comm (a b : EnvironmentStandard) :
    intervalsOverlap a b = intervalsOverlap b a := by
  unfold intervalsOverlap
  cases a.effectiveTo <;> cases b.effectiveTo <;> simp only [max_comm, min_comm]

/-! ### One revision in force -/

/-- The newest enabled revision of its chain that is effective at `t`. -/
structure InForce (standards : List EnvironmentStandard) (t : DateTime) (s : EnvironmentStandard) :
    Prop where
  mem : s ∈ standards
  enabled : s.enabled = true
  effective : s.effectiveAt t = true
  newest : ∀ r ∈ standards, r.enabled = true → r.standardId = s.standardId →
    r.effectiveAt t = true → r.effectiveFrom.instant ≤ s.effectiveFrom.instant

theorem applies_iff {s : EnvironmentStandard} : applies upper q s = true ↔
    s.enabled = true ∧ s.area = q.areaId ∧ deviceMatches upper q s = true ∧
      s.effectiveAt q.timestamp = true ∧
      (s.operationType = none ∨ s.operationType = q.operationType) := by
  simp [applies]

theorem mem_candidates {s : EnvironmentStandard} :
    s ∈ standards.filter (applies upper q) ↔ s ∈ standards ∧ applies upper q s = true :=
  List.mem_filter

/-- Two effective revisions of one chain: one selector, different starts. -/
theorem Accepted.revisions (h : Accepted upper standards) {a b : EnvironmentStandard} {t : DateTime}
    (ha : a ∈ standards) (hb : b ∈ standards) (hae : a.enabled = true) (hbe : b.enabled = true)
    (hid : a.standardId = b.standardId) (hat : a.effectiveAt t = true)
    (hbt : b.effectiveAt t = true)
    (hne : a ≠ b) : logicalSelectorKey upper a = logicalSelectorKey upper b ∧
      a.effectiveFrom.instant ≠ b.effectiveFrom.instant := by
  have hsymm : Std.Symm fun a b : EnvironmentStandard => intervalsOverlap a b →
      logicalSelectorKey upper a = logicalSelectorKey upper b ∧
        a.effectiveFrom.instant ≠ b.effectiveFrom.instant := by
    refine ⟨fun a b hab hov => ?_⟩
    obtain ⟨hkey, hstart⟩ := hab (intervalsOverlap_comm a b ▸ hov)
    exact ⟨hkey.symm, hstart.symm⟩
  refine (h.chains b.standardId).forall ?_ ?_ hne (overlap_of_effective hat hbt)
  · simp [ha, hae, hid]
  · simp [hb, hbe]

/-- A candidate's chain is a candidate as far as it is effective. -/
theorem Accepted.applies_chain (h : Accepted upper standards) {r s : EnvironmentStandard}
    (hr : r ∈ standards) (hre : r.enabled = true) (hid : r.standardId = s.standardId)
    (hrt : r.effectiveAt q.timestamp = true) (hs : s ∈ standards) (hq : applies upper q s = true) :
    applies upper q r = true := by
  by_cases hrs : r = s
  · rwa [hrs]
  obtain ⟨hse, harea, hdev, hst, hop⟩ := applies_iff.mp hq
  obtain ⟨hkey, -⟩ := h.revisions hr hs hre hse hid hrt hst hrs
  obtain ⟨d, hd, hd0⟩ := h.device r hr
  obtain ⟨e, he, he0⟩ := h.device s hs
  simp only [logicalSelectorKey, hd, he, Option.bind_some, if_neg hd0, if_neg he0, Prod.mk.injEq,
    Option.some.injEq] at hkey
  obtain ⟨ha, hde, ho, -⟩ := hkey
  refine applies_iff.mpr ⟨hre, ha.trans harea, ?_, hrt, by rwa [ho]⟩
  simp only [deviceMatches, hd, he] at hdev ⊢
  rwa [hde]

/-! ### Collapsing the chains -/

/-- Revisions of one selector and different starts collapse to the newest. -/
theorem collapse_ok {l : List EnvironmentStandard} (hne : l ≠ [])
    (h : l.Pairwise fun a b => logicalSelectorKey upper a = logicalSelectorKey upper b ∧
      a.effectiveFrom.instant ≠ b.effectiveFrom.instant) :
    ∃ s ∈ l, collapse upper l = .ok s ∧
      ∀ r ∈ l, r.effectiveFrom.instant ≤ s.effectiveFrom.instant := by
  obtain ⟨x, xs, rfl⟩ := List.exists_cons_of_ne_nil hne
  have hkeys : ((x :: xs).map (logicalSelectorKey upper)).dedup.length = 1 := by
    have hrep : (x :: xs).map (logicalSelectorKey upper) =
        List.replicate (xs.length + 1) (logicalSelectorKey upper x) := by
      refine List.eq_replicate_iff.mpr ⟨by simp, fun k hk => ?_⟩
      obtain ⟨r, hr, rfl⟩ := List.mem_map.mp hk
      rcases List.mem_cons.mp hr with rfl | hr
      · rfl
      · exact ((List.pairwise_cons.mp h).1 r hr).1.symm
    rw [hrep, List.replicate_dedup (by omega), List.length_singleton]
  -- the greatest start is taken by one revision only
  obtain ⟨top, htop⟩ : ∃ top, ((x :: xs).map (·.effectiveFrom.instant)).max? = some top :=
    Option.isSome_iff_exists.mp (by simp)
  obtain ⟨hmem, hmax⟩ := List.max?_eq_some_iff.mp htop
  obtain ⟨s, hs, rfl⟩ := List.mem_map.mp hmem
  have hle : ∀ r ∈ x :: xs, r.effectiveFrom.instant ≤ s.effectiveFrom.instant := fun r hr =>
    hmax _ (List.mem_map_of_mem hr)
  have hsl : s ∈ latestRevisions (x :: xs) :=
    List.mem_filter.mpr ⟨hs, decide_eq_true htop.symm⟩
  have honly : latestRevisions (x :: xs) = [s] := by
    have hp : (latestRevisions (x :: xs)).Pairwise fun _ _ => False := by
      refine List.Pairwise.imp_of_mem ?_ (h.sublist List.filter_sublist)
      intro a b ha hb hab
      have ha' := (List.mem_filter.mp ha).2
      have hb' := (List.mem_filter.mp hb).2
      rw [htop] at ha' hb'
      simp only [Option.some.injEq, decide_eq_true_eq] at ha' hb'
      exact hab.2 (ha'.trans hb'.symm)
    match hl : latestRevisions (x :: xs), hp, hsl with
    | [y], _, hy => rw [List.mem_singleton.mp hy]
    | y :: z :: _, hp, _ => exact absurd ((List.pairwise_cons.mp hp).1 z (by simp)) id
  exact ⟨s, hs, by rw [collapse, if_neg (not_not.mpr hkeys), honly], hle⟩

/-- What holds of each group and the revision it collapses to holds group by group. -/
theorem collapseAll_ok {P : String × List EnvironmentStandard → EnvironmentStandard → Prop} :
    ∀ {groups : List (String × List EnvironmentStandard)},
    (∀ g ∈ groups, ∃ s, collapse upper g.2 = .ok s ∧ P g s) →
    ∃ cs, collapseAll upper groups = .ok cs ∧ List.Forall₂ P groups cs
  | [], _ => ⟨[], rfl, .nil⟩
  | g :: rest, h => by
    obtain ⟨s, hs, hP⟩ := h g (by simp)
    obtain ⟨cs, hcs, hall⟩ := collapseAll_ok fun g' hg' => h g' (List.mem_cons_of_mem _ hg')
    exact ⟨s :: cs, by rw [collapseAll, hs, hcs], .cons hP hall⟩

/-- A revision `s` stands for the group `g`: it is the newest of the candidates of its chain. -/
def StandsFor (candidates : List EnvironmentStandard) (g : String × List EnvironmentStandard)
    (s : EnvironmentStandard) : Prop :=
  s ∈ candidates ∧ s.standardId = g.1 ∧
    ∀ r ∈ candidates, r.standardId = g.1 → r.effectiveFrom.instant ≤ s.effectiveFrom.instant

theorem standsFor_keys {candidates cs : List EnvironmentStandard} :
    ∀ {groups : List (String × List EnvironmentStandard)},
    List.Forall₂ (StandsFor candidates) groups cs → cs.map (·.standardId) = groups.map Prod.fst
  | _, .nil => rfl
  | _, .cons h rest => by rw [List.map_cons, List.map_cons, standsFor_keys rest, h.2.1]

/-- On an accepted snapshot the candidates collapse to one revision in force
of each chain. -/
theorem Accepted.collapseAll_candidates (h : Accepted upper standards) (q : StandardQuery) :
    ∃ cs, collapseAll upper (groupBy (·.standardId) (standards.filter (applies upper q))) = .ok cs ∧
      cs.Pairwise (fun a b => a.standardId ≠ b.standardId) ∧
      ∀ c, c ∈ cs ↔ InForce standards q.timestamp c ∧ applies upper q c = true := by
  generalize hc : standards.filter (applies upper q) = candidates
  have hmemc : ∀ s, s ∈ candidates ↔ s ∈ standards ∧ applies upper q s = true := fun s =>
    hc ▸ mem_candidates
  have hgroup : ∀ g ∈ groupBy (·.standardId) candidates,
      ∃ s, collapse upper g.2 = .ok s ∧ StandsFor candidates g s := by
    rintro ⟨k, g⟩ hg
    obtain ⟨rfl, hne⟩ := mem_groupBy.mp hg
    have hsub : (candidates.filter (·.standardId = k)).Sublist
        ((standards.filter (·.enabled)).filter (·.standardId = k)) := by
      rw [← hc]
      exact (List.monotone_filter_right _ fun s hs => (applies_iff.mp hs).1).filter _
    have hp : (candidates.filter (·.standardId = k)).Pairwise fun a b =>
        logicalSelectorKey upper a = logicalSelectorKey upper b ∧
          a.effectiveFrom.instant ≠ b.effectiveFrom.instant := by
      refine List.Pairwise.imp_of_mem ?_ ((h.chains k).sublist hsub)
      intro a b ha hb hab
      have ha' := (applies_iff.mp ((hmemc a).mp (List.mem_filter.mp ha).1).2).2.2.2.1
      have hb' := (applies_iff.mp ((hmemc b).mp (List.mem_filter.mp hb).1).2).2.2.2.1
      exact hab (overlap_of_effective ha' hb')
    obtain ⟨s, hs, hok, hle⟩ := collapse_ok hne hp
    obtain ⟨hs, hid⟩ := List.mem_filter.mp hs
    exact ⟨s, hok, hs, of_decide_eq_true hid, fun r hr hrk =>
      hle r (List.mem_filter.mpr ⟨hr, decide_eq_true hrk⟩)⟩
  obtain ⟨cs, hcs, hall⟩ := collapseAll_ok hgroup
  have hkeys := standsFor_keys hall
  refine ⟨cs, hcs, ?_, fun c => ⟨fun hmem => ?_, fun ⟨hin, hq⟩ => ?_⟩⟩
  · have hnodup := groupBy_keys_nodup (·.standardId) candidates
    rw [← hkeys] at hnodup
    exact List.pairwise_map.mp hnodup
  · obtain ⟨g, -, hcand, hid, hle⟩ := forall₂_mem_right hall hmem
    obtain ⟨hstd, hq⟩ := (hmemc c).mp hcand
    obtain ⟨hen, -, -, heff, -⟩ := applies_iff.mp hq
    refine ⟨⟨hstd, hen, heff, fun r hr hre hrid hrt => ?_⟩, hq⟩
    exact hle r ((hmemc r).mpr ⟨hr, h.applies_chain hr hre hrid hrt hstd hq⟩) (hrid.trans hid)
  · -- the chain of `c` is a group, and what it collapses to is `c`
    have hcc := (hmemc c).mpr ⟨hin.mem, hq⟩
    have hne : candidates.filter (·.standardId = c.standardId) ≠ [] :=
      List.ne_nil_of_mem (List.mem_filter.mpr ⟨hcc, decide_eq_true rfl⟩)
    obtain ⟨s, hs, hsc, hid, hle⟩ := forall₂_mem_left hall (mem_groupBy.mpr ⟨rfl, hne⟩)
    obtain ⟨hstd, hsq⟩ := (hmemc s).mp hsc
    obtain ⟨hen, -, -, heff, -⟩ := applies_iff.mp hsq
    have heq : s.effectiveFrom.instant = c.effectiveFrom.instant :=
      le_antisymm (hin.newest s hstd hen hid heff) (hle c hcc rfl)
    by_cases hsame : s = c
    · exact hsame ▸ hs
    · exact absurd heq (h.revisions hstd hin.mem hen hin.enabled hid heff hin.effective hsame).2

/-! ### The winning precedence -/

theorem Accepted.precedence_eq (h : Accepted upper standards) {s : EnvironmentStandard}
    (hs : s ∈ standards) (hq : applies upper q s = true) : precedence upper q s =
      toLex (1, toLex ((q.operationType.isSome && s.operationType = q.operationType).toNat,
        s.priority)) := by
  obtain ⟨d, hd, -⟩ := h.device s hs
  obtain ⟨-, -, hdev, -, -⟩ := applies_iff.mp hq
  simp only [deviceMatches, hd] at hdev
  simp only [precedence, hd, Option.any_some, hdev, Bool.toNat_true]

/-- Candidates of one operation type are ranked by priority, and an exact
operation type beats none. -/
theorem precedence_le_iff {a c : EnvironmentStandard}
    (ha : precedence upper q a = toLex (1, toLex ((q.operationType.isSome &&
      a.operationType = q.operationType).toNat, a.priority)))
    (hc : precedence upper q c = toLex (1, toLex ((q.operationType.isSome &&
      c.operationType = q.operationType).toNat, c.priority)))
    (hop : c.operationType = a.operationType) :
    precedence upper q c ≤ precedence upper q a ↔ c.priority ≤ a.priority := by
  rw [ha, hc, hop]
  simp [Prod.Lex.toLex_le_toLex]

theorem winners_spec {cs : List EnvironmentStandard} (hne : cs ≠ []) :
    winners upper q cs ≠ [] ∧ ∀ a, a ∈ winners upper q cs ↔
      a ∈ cs ∧ ∀ c ∈ cs, precedence upper q c ≤ precedence upper q a := by
  obtain ⟨x, xs, rfl⟩ := List.exists_cons_of_ne_nil hne
  obtain ⟨top, htop⟩ : ∃ top, ((x :: xs).map (precedence upper q)).max? = some top :=
    Option.isSome_iff_exists.mp (by simp)
  obtain ⟨hmem, hmax⟩ := List.max?_eq_some_iff.mp htop
  have hiff : ∀ a, a ∈ winners upper q (x :: xs) ↔
      a ∈ x :: xs ∧ ∀ c ∈ x :: xs, precedence upper q c ≤ precedence upper q a := by
    intro a
    unfold winners
    rw [List.mem_filter, htop, decide_eq_true_eq, Option.some.injEq]
    refine and_congr_right fun ha =>
      ⟨fun he c hc => he ▸ hmax _ (List.mem_map_of_mem hc), fun hle => ?_⟩
    obtain ⟨s, hs, hst⟩ := List.mem_map.mp hmem
    exact le_antisymm (hmax _ (List.mem_map_of_mem ha)) (hst ▸ hle s hs)
  obtain ⟨s, hs, hst⟩ := List.mem_map.mp hmem
  exact ⟨List.ne_nil_of_mem ((hiff s).mpr ⟨hs, fun c hc => hst ▸ hmax _ (List.mem_map_of_mem hc)⟩),
    hiff⟩

/-! ### Two spellings of one device -/

/-- At `t` two standards of different chains are in force for one area,
operation type and priority, and for one device spelled in two ways; and no
standard in force for these has a higher priority. -/
structure Clash (upper : String → String) (standards : List EnvironmentStandard) (t : DateTime)
    (a b : EnvironmentStandard) : Prop where
  left : InForce standards t a
  right : InForce standards t b
  chains : a.standardId ≠ b.standardId
  area : a.area = b.area
  operation : a.operationType = b.operationType
  priority : a.priority = b.priority
  spelled : a.deviceId ≠ b.deviceId
  device : a.deviceId.map (canonicalDevice upper) = b.deviceId.map (canonicalDevice upper)
  top : ∀ c, InForce standards t c → c.area = a.area → c.operationType = a.operationType →
    c.deviceId.map (canonicalDevice upper) = a.deviceId.map (canonicalDevice upper) →
    c.priority ≤ a.priority

theorem Accepted.device_of_applies (h : Accepted upper standards) {s : EnvironmentStandard}
    (hs : s ∈ standards) (hq : applies upper q s = true) :
    s.deviceId.map (canonicalDevice upper) = q.deviceId.map (canonicalDevice upper) := by
  obtain ⟨d, hd, -⟩ := h.device s hs
  obtain ⟨-, -, hdev, -, -⟩ := applies_iff.mp hq
  simp only [deviceMatches, hd] at hdev
  cases he : q.deviceId <;> simp_all

theorem applies_of_device {a c : EnvironmentStandard} (hq : applies upper q a = true)
    (hd : c.deviceId.map (canonicalDevice upper) = q.deviceId.map (canonicalDevice upper))
    (hen : c.enabled = true) (heff : c.effectiveAt q.timestamp = true) (harea : c.area = a.area)
    (hop : c.operationType = a.operationType) : applies upper q c = true := by
  obtain ⟨-, ha, -, -, ho⟩ := applies_iff.mp hq
  refine applies_iff.mpr ⟨hen, harea.trans ha, ?_, heff, by rwa [hop]⟩
  unfold deviceMatches
  cases hc : c.deviceId <;> cases he : q.deviceId <;> simp_all

theorem operation_eq {a b : EnvironmentStandard} (ha : applies upper q a = true)
    (hb : applies upper q b = true)
    (he : (q.operationType.isSome && a.operationType = q.operationType).toNat =
      (q.operationType.isSome && b.operationType = q.operationType).toNat) :
    a.operationType = b.operationType := by
  obtain ⟨-, -, -, -, hao⟩ := applies_iff.mp ha
  obtain ⟨-, -, -, -, hbo⟩ := applies_iff.mp hb
  cases hq : q.operationType <;> rcases hao with h1 | h1 <;> rcases hbo with h2 | h2 <;> simp_all

/-- Two winners of one query clash. -/
theorem Accepted.clash_of_winners (h : Accepted upper standards) {a b : EnvironmentStandard}
    {cs : List EnvironmentStandard}
    (hcs : ∀ c, c ∈ cs ↔ InForce standards q.timestamp c ∧ applies upper q c = true)
    (ha : a ∈ winners upper q cs) (hb : b ∈ winners upper q cs)
    (hid : a.standardId ≠ b.standardId) : Clash upper standards q.timestamp a b := by
  have hne : cs ≠ [] := List.ne_nil_of_mem (List.mem_of_mem_filter ha)
  obtain ⟨hac, hatop⟩ := ((winners_spec hne).2 a).mp ha
  obtain ⟨hbc, hbtop⟩ := ((winners_spec hne).2 b).mp hb
  obtain ⟨hain, haq⟩ := (hcs a).mp hac
  obtain ⟨hbin, hbq⟩ := (hcs b).mp hbc
  have hpa := h.precedence_eq hain.mem haq
  have hpb := h.precedence_eq hbin.mem hbq
  have heq : precedence upper q a = precedence upper q b := le_antisymm (hbtop a hac) (hatop b hbc)
  rw [hpa, hpb] at heq
  simp only [EmbeddingLike.apply_eq_iff_eq, Prod.mk.injEq, true_and] at heq
  obtain ⟨hopn, hprio⟩ := heq
  have hop := operation_eq haq hbq hopn
  have hda := h.device_of_applies hain.mem haq
  have hdb := h.device_of_applies hbin.mem hbq
  have harea : a.area = b.area :=
    (applies_iff.mp haq).2.1.trans (applies_iff.mp hbq).2.1.symm
  refine ⟨hain, hbin, hid, harea, hop, hprio, fun hspell => ?_, hda.trans hdb.symm,
    fun c hc hca hco hcd => ?_⟩
  · -- spelled alike, the check of pairs has refused them
    have hsymm : Std.Symm fun a b : EnvironmentStandard => a.enabled → b.enabled →
        a.standardId ≠ b.standardId → intervalsOverlap a b → ¬ samePrecedenceGroup a b := by
      refine ⟨fun a b hab hbe hae hne hov hgroup => ?_⟩
      refine hab hae hbe hne.symm (intervalsOverlap_comm a b ▸ hov) ?_
      simp only [samePrecedenceGroup, Bool.decide_and, Bool.and_eq_true,
        decide_eq_true_eq] at hgroup ⊢
      exact ⟨hgroup.1.symm, hgroup.2.1.symm, hgroup.2.2.1.symm, hgroup.2.2.2.symm⟩
    refine h.pairs.forall hain.mem hbin.mem (fun he => hid (he ▸ rfl)) hain.enabled hbin.enabled hid
      (overlap_of_effective hain.effective hbin.effective) ?_
    simp [samePrecedenceGroup, hspell, harea, hop, hprio]
  · have hcq := applies_of_device haq (hcd.trans hda) hc.enabled hc.effective hca hco
    exact (precedence_le_iff hpa (h.precedence_eq hc.mem hcq) hco).mp
      (hatop c ((hcs c).mpr ⟨hc, hcq⟩))

/-- A clash has a query both standards win. -/
theorem Accepted.winners_of_clash (h : Accepted upper standards) {a b : EnvironmentStandard}
    {t : DateTime} (hclash : Clash upper standards t a b) {cs : List EnvironmentStandard}
    (hq : q = { areaId := a.area, operationType := a.operationType, timestamp := t,
                deviceId := a.deviceId })
    (hcs : ∀ c, c ∈ cs ↔ InForce standards q.timestamp c ∧ applies upper q c = true) :
    a ∈ winners upper q cs ∧ b ∈ winners upper q cs := by
  have ht : q.timestamp = t := by rw [hq]
  have haq : applies upper q a = true := by
    obtain ⟨d, hd, -⟩ := h.device a hclash.left.mem
    refine applies_iff.mpr ⟨hclash.left.enabled, by
      rw [hq], ?_, ht ▸ hclash.left.effective, by simp [hq]⟩
    simp [deviceMatches, hq, hd]
  rw [ht] at hcs
  have hbq : applies upper q b = true :=
    applies_of_device haq (by rw [hq]; exact hclash.device.symm) hclash.right.enabled
      (ht ▸ hclash.right.effective) hclash.area.symm hclash.operation.symm
  have hac := (hcs a).mpr ⟨hclash.left, haq⟩
  have hbc := (hcs b).mpr ⟨hclash.right, hbq⟩
  have hpa := h.precedence_eq hclash.left.mem haq
  have hpb := h.precedence_eq hclash.right.mem hbq
  have hne : cs ≠ [] := List.ne_nil_of_mem hac
  have hab : precedence upper q a = precedence upper q b := by
    rw [hpa, hpb, hclash.operation, hclash.priority]
  have htop : ∀ c ∈ cs, precedence upper q c ≤ precedence upper q a := by
    intro c hc
    obtain ⟨hcin, hcq⟩ := (hcs c).mp hc
    have hpc := h.precedence_eq hcin.mem hcq
    rcases eq_or_ne c.operationType a.operationType with hop | hop
    · refine (precedence_le_iff hpa hpc hop).mpr (hclash.top c hcin ?_ hop ?_)
      · exact (applies_iff.mp hcq).2.1.trans (by rw [hq])
      · rw [h.device_of_applies hcin.mem hcq, hq]
    · have hnone : c.operationType = none :=
        (applies_iff.mp hcq).2.2.2.2.resolve_right (by rw [hq]; exact hop)
      obtain ⟨o, ho⟩ := Option.ne_none_iff_exists'.mp fun he => hop (hnone.trans he.symm)
      rw [hpa, hpc]
      simp [Prod.Lex.toLex_le_toLex, hq, ho, hnone]
  exact ⟨((winners_spec hne).2 a).mpr ⟨hac, htop⟩,
    ((winners_spec hne).2 b).mpr ⟨hbc, fun c hc => hab ▸ htop c hc⟩⟩

/-! ### The resolver on an accepted snapshot -/

/-- The resolver gives one standard of the snapshot, or finds none. (A blank
area is refused before the snapshot is looked at.) -/
def Resolves (upper : String → String) (standards : List EnvironmentStandard) (q : StandardQuery) :
    Prop :=
  (∃ s ∈ standards, selectStandard upper standards q = .ok s) ∨
    selectStandard upper standards q =
      .error (.standardNotFound q.areaId q.operationType q.timestamp) ∨
    blank q.areaId = true ∧
      selectStandard upper standards q = .error (.valueError "area_id cannot be empty")

theorem Accepted.selectStandard_eq (h : Accepted upper standards) (harea : blank q.areaId = false)
    {s : EnvironmentStandard} (hs : s ∈ standards) (hq : applies upper q s = true) :
    ∃ cs, cs ≠ [] ∧ cs.Pairwise (fun a b => a.standardId ≠ b.standardId) ∧
      (∀ c, c ∈ cs ↔ InForce standards q.timestamp c ∧ applies upper q c = true) ∧
      selectStandard upper standards q = onlyWinner (winners upper q cs) := by
  obtain ⟨cs, hcs, hids, hmem⟩ := h.collapseAll_candidates q
  have hcand : standards.filter (applies upper q) ≠ [] :=
    List.ne_nil_of_mem (mem_candidates.mpr ⟨hs, hq⟩)
  have hsel : selectStandard upper standards q = onlyWinner (winners upper q cs) := by
    simp only [selectStandard, harea, Bool.false_eq_true, ↓reduceIte, if_neg hcand, hcs]
  refine ⟨cs, ?_, hids, hmem, hsel⟩
  -- a candidate's group collapses to some revision
  rintro rfl
  have hne : (standards.filter (applies upper q)).filter (·.standardId = s.standardId) ≠ [] :=
    List.ne_nil_of_mem (List.mem_filter.mpr ⟨mem_candidates.mpr ⟨hs, hq⟩, decide_eq_true rfl⟩)
  have hg := mem_groupBy.mpr ⟨rfl, hne⟩
  cases hgs : groupBy (·.standardId) (standards.filter (applies upper q)) with
  | nil => rw [hgs] at hg; simp at hg
  | cons g rest =>
    rw [hgs, collapseAll] at hcs
    split at hcs
    · cases hcs
    · split at hcs <;> cases hcs

/-- **What validation is worth.** An accepted snapshot resolves every query
exactly when no two spellings of one device id clash in it. -/
theorem accepted_resolves_iff (h : validateStandardSnapshot upper standards = []) :
    (∀ q, Resolves upper standards q) ↔ ∀ t a b, ¬ Clash upper standards t a b := by
  have hacc := accepted_of_valid h
  constructor
  · intro hall t a b hclash
    obtain ⟨q, hq⟩ : ∃ q : StandardQuery, q = ⟨a.area, a.operationType, t, a.deviceId⟩ := ⟨_, rfl⟩
    have haq : applies upper q a = true := by
      obtain ⟨d, hd, -⟩ := hacc.device a hclash.left.mem
      refine applies_iff.mpr
          ⟨hclash.left.enabled, by rw [hq], ?_, by rw [hq]; exact hclash.left.effective,
        by simp [hq]⟩
      simp [deviceMatches, hq, hd]
    have harea : blank q.areaId = false := by rw [hq]; exact a.area_not_blank
    obtain ⟨cs, -, -, hmem, hsel⟩ := hacc.selectStandard_eq harea hclash.left.mem haq
    obtain ⟨ha, hb⟩ := hacc.winners_of_clash hclash hq hmem
    rcases hall q with ⟨s, -, hs⟩ | hs | ⟨hblank, -⟩
    · rw [hsel] at hs
      unfold onlyWinner at hs
      split at hs
      · rename_i w hw
        rw [hw, List.mem_singleton] at ha hb
        exact hclash.chains (by rw [ha, hb])
      · cases hs
    · rw [hsel] at hs
      unfold onlyWinner at hs
      split at hs <;> cases hs
    · rw [harea] at hblank
      cases hblank
  · intro hno q
    cases harea : blank q.areaId with
    | true => exact .inr (.inr ⟨harea, by simp [selectStandard, harea]⟩)
    | false =>
      by_cases hcand : standards.filter (applies upper q) = []
      · exact .inr (.inl (by simp [selectStandard, harea, hcand]))
      obtain ⟨s, hs⟩ := List.exists_mem_of_ne_nil _ hcand
      obtain ⟨hs, hq⟩ := mem_candidates.mp hs
      obtain ⟨cs, hne, hids, hmem, hsel⟩ := hacc.selectStandard_eq harea hs hq
      have hsub : (winners upper q cs).Sublist cs := List.filter_sublist
      match hw : winners upper q cs with
      | [] => exact absurd hw (winners_spec hne).1
      | [w] =>
        have hwc : w ∈ cs := hsub.subset (by rw [hw]; simp)
        exact .inl ⟨w, ((hmem w).mp hwc).1.mem, by rw [hsel, hw]; rfl⟩
      | a :: b :: rest =>
        have hids' := hids.sublist hsub
        rw [hw] at hids'
        refine absurd
            (hacc.clash_of_winners hmem ?_ ?_ ((List.pairwise_cons.mp hids').1 b (by simp)))
          (hno q.timestamp a b) <;> rw [hw] <;> simp

section Spellings

/-- A day-long standard of the clean room for one device. -/
def cleanRoom (standardId deviceId : String)
    (h : (StandardFields.mk standardId "A" "CLEAN" none (some (.finite 18)) (some (.finite 26))
      (some (.finite 40)) (some (.finite 60)) (.utc 0) none "SOP-1" 0 true (some deviceId)
      (some .allDay) "feishu").postInit = .ok ()) : EnvironmentStandard :=
  { toStandardFields := _, postInit_ok := h }

def twoSpellings : List EnvironmentStandard :=
  [cleanRoom "STD-1" "TH-01" (by decide), cleanRoom "STD-2" "th-01" (by decide)]

/-- Accepted, and no sample of the device can be evaluated. -/
theorem twoSpellings_conflict : validateStandardSnapshot asciiUpper twoSpellings = [] ∧
    selectStandard asciiUpper twoSpellings ⟨"CLEAN", none, .utc 0, some "TH-01"⟩ =
      .error (.configurationConflict
        "multiple standards have the same precedence: STD-1/A, STD-2/A") := by
  decide

/-- A day-long standard of the device, by its revision, start and priority. -/
def dayRevision (standardId revision : String) (effectiveFrom : DateTime) (priority : ℤ)
    (h : (StandardFields.mk standardId revision "CLEAN" none (some (.finite 18)) (some (.finite 26))
      (some (.finite 40)) (some (.finite 60)) effectiveFrom none "SOP-1" priority true
        (some "TH-01")
      (some .allDay) "feishu").postInit = .ok ()) : EnvironmentStandard :=
  { toStandardFields := _, postInit_ok := h }

/-- Two revisions of one standard, and a second standard of higher priority, all in force at the
end. -/
def overlapping : List EnvironmentStandard :=
  [dayRevision "STD-1" "A" (.utc 0) 0 (by decide),
      dayRevision "STD-1" "B" (.utc 3600000000) 0 (by decide),
    dayRevision "STD-2" "A" (.utc 7200000000) 1 (by decide)]

/-- Where no device is spelled in two ways the overlaps are resolved. -/
theorem overlapping_resolved :
    Resolves asciiUpper overlapping ⟨"CLEAN", none, .utc 3600000000, some "TH-01"⟩ ∧
      Resolves asciiUpper overlapping ⟨"CLEAN", none, .utc 7200000000, some "th-01"⟩ := by
  have hvalid : validateStandardSnapshot asciiUpper overlapping = [] := by decide
  have hall : ∀ q, Resolves asciiUpper overlapping q := (accepted_resolves_iff hvalid).mpr ?_
  · exact ⟨hall _, hall _⟩
  · intro t a b hclash
    have hspelled : ∀ s ∈ overlapping, s.deviceId = some "TH-01" := by decide
    exact hclash.spelled ((hspelled a hclash.left.mem).trans (hspelled b hclash.right.mem).symm)

end Spellings

end TemperatureMonitor
