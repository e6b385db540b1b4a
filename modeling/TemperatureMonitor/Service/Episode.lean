/-
# The prewarning episode over a run

One sample keeps the episode of its device, drops it, or opens one under a
fresh id (`advisory_step`). Along a run an episode therefore belongs to one
device, its id was drawn before, and each warning carries the id its device's
state holds.
-/
import TemperatureMonitor.Service.WorldRun

namespace TemperatureMonitor

/-! ### One sample -/

/-- An active advisory is NORMAL, and no alarm holds an episode. -/
structure EpisodeInv (st : AlarmState) : Prop where
  active : st.prewarningActive = true → st.state = .normal
  alarm : st.state = .alarm ∨ st.state = .recovery → st.prewarningEpisodeId = none

theorem EpisodeInv.ofDevice (deviceId : String) : EpisodeInv (AlarmState.ofDevice deviceId) where
  active := by simp [AlarmState.ofDevice]
  alarm := fun _ => rfl

/-- The advisory is off and its episode is held: in NORMAL, where a sample that
was not applicable has suspended it. -/
def Suspended (st : AlarmState) : Prop :=
  st.state = .normal ∧ st.prewarningActive = false ∧ st.prewarningEpisodeId ≠ none

instance (st : AlarmState) : Decidable (Suspended st) := by
  unfold Suspended
  infer_instance

/-- Evaluated NORMAL, with no limit near. -/
def CleanResult (result : MonitorResult) : Prop :=
  result.overallStatus = .normal ∧ result.prewarningReasons = []

section Step

open AlarmStateMachine

variable {m : AlarmStateMachine} {result : MonitorResult} {st : AlarmState} {now : DateTime}
  {newId : String} {unclosed : Option UnclosedLookup} {base tr : StateTransition}

/-- A transition keeps the whole state or starts one without an advisory. -/
theorem move_advisory {status : OverallStatus} (h : Move m status st now base) : base.next = st ∨
    base.next.prewarningActive = false ∧ base.next.prewarningEpisodeId = none := by
  cases h <;> simp [same, AlarmState.ofDevice]

/-- From NORMAL a sample leads to NORMAL or PENDING. -/
theorem move_from_normal {status : OverallStatus} (h : Move m status st now base)
    (hs : st.state = .normal) :
    status ≠ .violation ∧ base.next = st ∨ status = .violation ∧ base.next.state = .pending := by
  cases h <;> simp_all [same]

/-- A state that is kept in NORMAL was NORMAL, and a NORMAL result keeps
NORMAL. -/
theorem move_normal {status : OverallStatus} (h : Move m status st now base)
    (hstatus : status = .normal)
    (hs : st.state = .normal ∨ st.state = .pending) : base.next.state = .normal := by
  subst hstatus
  cases h <;> simp_all [same, AlarmState.ofDevice]

/-- **One sample keeps the episode, drops it, or opens a fresh one**, and keeps
its invariant. -/
theorem advisory_step (hmove : Move m result.overallStatus st now base)
    (hp : PrewarningMove result now newId unclosed base tr) (hI : EpisodeInv st) :
    EpisodeInv tr.next ∧ (tr.next.prewarningEpisodeId = none ∨
      tr.next.prewarningEpisodeId = st.prewarningEpisodeId ∨
        tr.next.prewarningEpisodeId = some newId ∧ st.prewarningEpisodeId = none) := by
  have hprev : base.previous = st := hmove.previous
  have hkeep : base.next.prewarningEpisodeId = none ∨
      base.next.prewarningEpisodeId = st.prewarningEpisodeId := by
    rcases move_advisory hmove with h | h
    · exact .inr (by rw [h])
    · exact .inl h.2
  have hbase : EpisodeInv base.next := by
    rcases move_advisory hmove with h | h
    · rw [h]
      exact hI
    · exact ⟨fun ha => by simp [h.1] at ha, fun _ => h.2⟩
  have hor : (tr.next.prewarningEpisodeId = none ∨
      tr.next.prewarningEpisodeId = st.prewarningEpisodeId) → (tr.next.prewarningEpisodeId = none ∨
      tr.next.prewarningEpisodeId = st.prewarningEpisodeId ∨
        tr.next.prewarningEpisodeId = some newId ∧ st.prewarningEpisodeId = none) :=
    fun h => h.imp id .inl
  have hnormal : ¬ Breached result base → base.next.state = .normal := fun hb =>
    not_not.mp fun hs => hb (.inr hs)
  have henter :
      ((enterPrewarning result now newId base.previous base.next).prewarningEpisodeId = none ∨
      (enterPrewarning result now newId base.previous base.next).prewarningEpisodeId =
        st.prewarningEpisodeId ∨
      (enterPrewarning result now newId base.previous base.next).prewarningEpisodeId = some newId ∧
        st.prewarningEpisodeId = none) := by
    simp only [enterPrewarning, hprev]
    cases st.prewarningEpisodeId with
    | none => exact .inr (.inr ⟨rfl, rfl⟩)
    | some ep => exact .inr (.inl rfl)
  cases hp with
  | hidden hb ha =>
    rw [hprev] at ha
    have hs : base.next.state = .normal ∨ base.next.state = .pending := by
      rcases move_from_normal hmove (hI.active ha) with ⟨-, h⟩ | ⟨-, h⟩
      · exact .inl (h ▸ hI.active ha)
      · exact .inr h
    refine ⟨⟨fun h => by simp [hidePrewarning] at h, fun h => ?_⟩,
      hor (.inr (by simp [hidePrewarning, hprev]))⟩
    simp only [hidePrewarning] at h
    rcases hs with hs | hs <;> rw [hs] at h <;> simp at h
  | breached => exact ⟨hbase, hor hkeep⟩
  | suspended hb =>
    refine ⟨⟨fun h => by simp [suspendPrewarning] at h, fun h => ?_⟩, hor hkeep⟩
    exact hbase.alarm h
  | unknown => exact ⟨hbase, hor hkeep⟩
  | blocked => exact ⟨⟨fun h => by simp [blockPrewarning] at h, fun _ => rfl⟩, .inl rfl⟩
  | entered hb =>
    refine ⟨⟨fun _ => hnormal hb, fun h => ?_⟩, henter⟩
    simp only [enterPrewarning, hnormal hb] at h
    rcases h with h | h <;> cases h
  | stayed hb =>
    refine ⟨⟨fun _ => hnormal hb, fun h => ?_⟩, henter⟩
    simp only [enterPrewarning, hnormal hb] at h
    rcases h with h | h <;> cases h
  | cleared => exact ⟨⟨fun h => by simp [clearPrewarning] at h, fun _ => rfl⟩, .inl rfl⟩
  | quiet => exact ⟨hbase, hor hkeep⟩

/-- **A clean sample drops the episode**, unless it is suspended. -/
theorem advisory_clean (hmove : Move m result.overallStatus st now base)
    (hp : PrewarningMove result now newId unclosed base tr) (hI : EpisodeInv st)
    (hclean : CleanResult result)
    (hsuspended : ¬ Suspended st) : tr.next.prewarningEpisodeId = none := by
  obtain ⟨hstatus, hreasons⟩ := hclean
  have hprev : base.previous = st := hmove.previous
  cases hp with
  | hidden hb ha =>
    rw [hprev] at ha
    have := move_normal hmove hstatus (.inl (hI.active ha))
    rcases hb with hb | hb
    · rw [hstatus] at hb
      cases hb
    · exact absurd this hb
  | breached hb ha =>
    rcases move_advisory hmove with h | h
    · refine h ▸ hI.alarm ?_
      rcases hb with hb | hb
      · rw [hstatus] at hb
        cases hb
      · rw [h] at hb
        have hne := mt (move_normal hmove hstatus) (h ▸ hb)
        revert hne
        cases st.state <;> simp
    · exact h.2
  | suspended _ hu => rw [hstatus] at hu; cases hu
  | unknown _ hu => rw [hstatus] at hu; cases hu
  | blocked => rfl
  | entered _ _ _ hr => exact absurd hreasons hr
  | stayed _ _ _ hr => exact absurd hreasons hr
  | cleared => rfl
  | quiet hb _ _ ha =>
    rw [hprev] at ha
    rcases move_advisory hmove with h | h
    · rw [h]
      by_contra hne
      refine hsuspended ⟨?_, ha, hne⟩
      rw [← h]
      exact not_not.mp fun hs => hb (.inr hs)
    · exact h.2

end Step

end TemperatureMonitor
