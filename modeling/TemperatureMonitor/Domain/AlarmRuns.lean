/-
# Runs of the alarm state machine

The machine fed its own next states, over any sequence of results at
nondecreasing times. The stored start times are times of past results:
`Explains` says which, one case for each lifecycle state, and `explains_step`
is its step lemma. What an emitted action implies about the past is read off
it, and the alternation of alarms and recoveries off the cycle being open or
not (`CycleOpen`).
-/
import TemperatureMonitor.Library.Runs
import TemperatureMonitor.Domain.AlarmMachine

namespace TemperatureMonitor

/-- One evaluation of a run: the result, its time and what the machine made of it. -/
structure Observation where
  result : MonitorResult
  now : DateTime
  transition : StateTransition

namespace Observation

def status (o : Observation) : OverallStatus := o.result.overallStatus

def Emits (o : Observation) (a : AlarmActionType) : Prop :=
  ∃ x ∈ o.transition.actions, x.actionType = a

/-- The alarms and recoveries among the actions. -/
def cycleActions (o : Observation) : List AlarmActionType :=
  (o.transition.actions.map (·.actionType)).filter fun a =>
    a = .createAlarmEvent ∨ a = .markAlarmRecovered

end Observation

namespace AlarmStateMachine

/-- One application, the next state fed back in. -/
def Step (m : AlarmStateMachine) (s : AlarmState) (o : Observation) (s' : AlarmState) : Prop :=
  m.apply o.result s o.now = .ok o.transition ∧ s' = o.transition.next

/-- The run on a sequence of results, computed. -/
def feed (m : AlarmStateMachine) : AlarmState → List (MonitorResult × DateTime) →
    Except PyError (List Observation × AlarmState)
  | s, [] => .ok ([], s)
  | s, (result, now) :: rest =>
    match m.apply result s now with
    | .error e => .error e
    | .ok transition =>
      match m.feed transition.next rest with
      | .error e => .error e
      | .ok (obs, s') => .ok ({ result, now, transition } :: obs, s')

theorem feed_run {m : AlarmStateMachine} : ∀ {inputs : List (MonitorResult × DateTime)}
    {s s' : AlarmState} {obs : List Observation},
    m.feed s inputs = .ok (obs, s') → Run m.Step s obs s'
  | [], s, s', obs, h => by
    cases h
    exact .nil
  | (result, now) :: rest, s, s', obs, h => by
    unfold feed at h
    split at h
    · cases h
    · rename_i tr happ
      split at h
      · cases h
      · rename_i obs' t hrest
        cases h
        exact .cons ⟨happ, rfl⟩ (feed_run hrest)

/-- The results come at nondecreasing times. -/
def InOrder (obs : List Observation) : Prop :=
  obs.Pairwise fun a b => a.now.instant ≤ b.now.instant

/-! ### What the past says -/

/-- A result of `status` was seen at `t`, and none of `avoid` after it. -/
def SeenSince (status avoid : OverallStatus) (hist : List Observation) (t : DateTime) : Prop :=
  ∃ pre o mid, hist = pre ++ o :: mid ∧ o.status = status ∧ o.now = t ∧ ∀ x ∈ mid, x.status ≠ avoid

section SeenSince

variable {status avoid : OverallStatus} {hist : List Observation} {o : Observation} {t : DateTime}

theorem seenSince_last (h : o.status = status) : SeenSince status avoid (hist ++ [o]) o.now :=
  ⟨hist, o, [], rfl, h, rfl, by simp⟩

theorem SeenSince.snoc (h : SeenSince status avoid hist t) (ho : o.status ≠ avoid) :
    SeenSince status avoid (hist ++ [o]) t := by
  obtain ⟨pre, e, mid, rfl, hs, ht, hmid⟩ := h
  refine ⟨pre, e, mid ++ [o], by simp, hs, ht, fun x hx => ?_⟩
  rcases List.mem_append.mp hx with hx | hx
  · exact hmid x hx
  · exact List.mem_singleton.mp hx ▸ ho

end SeenSince

/-- The stored start times are exactly those of the lifecycle state, each
explained by a past result, and in order. -/
inductive Explains (hist : List Observation) (s : AlarmState) : Prop
  | normal : s.state = .normal → s.violationStartedAt = none → s.alarmStartedAt = none →
      s.recoveryStartedAt = none → Explains hist s
  | pending (v : DateTime) : s.state = .pending → s.violationStartedAt = some v →
      s.alarmStartedAt = none → s.recoveryStartedAt = none →
      SeenSince .violation .normal hist v → Explains hist s
  | alarm (v a : DateTime) : s.state = .alarm → s.violationStartedAt = some v →
      s.alarmStartedAt = some a → s.recoveryStartedAt = none →
      v.instant ≤ a.instant → (∃ o ∈ hist, o.now = a) → Explains hist s
  | recovery (v a r : DateTime) : s.state = .recovery → s.violationStartedAt = some v →
      s.alarmStartedAt = some a → s.recoveryStartedAt = some r →
      v.instant ≤ a.instant → a.instant ≤ r.instant → (∃ o ∈ hist, o.now = a) →
      SeenSince .normal .violation hist r → Explains hist s

theorem SeenSince.le {status avoid : OverallStatus} {hist : List Observation} {t : DateTime} {x : ℤ}
    (h : SeenSince status avoid hist t) (hx : ∀ o ∈ hist, o.now.instant ≤ x) : t.instant ≤ x := by
  obtain ⟨pre, o, mid, rfl, -, rfl, -⟩ := h
  exact hx o (by simp)

/-- One application keeps the explanation. -/
theorem explains_step {m : AlarmStateMachine} {hist : List Observation} {s s' : AlarmState}
    {o : Observation} (hs : Explains hist s) (hle : ∀ x ∈ hist, x.now.instant ≤ o.now.instant)
    (h : m.Step s o s') : Explains (hist ++ [o]) s' := by
  obtain ⟨happ, rfl⟩ := h
  have hmove := apply_move happ
  generalize o.transition = tr at hmove ⊢
  have hmem : ∀ {a : DateTime}, (∃ x ∈ hist, x.now = a) → ∃ x ∈ hist ++ [o], x.now = a :=
    fun ⟨x, hx, he⟩ => ⟨x, List.mem_append_left _ hx, he⟩
  have hlast : ∃ x ∈ hist ++ [o], x.now = o.now := ⟨o, by simp, rfl⟩
  cases hs with
  | normal hst hv ha hr =>
    cases hmove with
    | normalSample _ _ => exact .normal hst hv ha hr
    | violationStarted _ h2 => exact .pending o.now rfl rfl rfl rfl (seenSince_last h2)
    | _ => simp_all
  | pending v hst hv ha hr hseen =>
    cases hmove with
    | pendingUnknown _ h2 =>
      exact .pending v hst hv ha hr (hseen.snoc (by simp [Observation.status, h2]))
    | pendingCleared _ _ => exact .normal rfl rfl rfl rfl
    | windowOpen _ h2 _ =>
      exact .pending v hst hv ha hr (hseen.snoc (by simp [Observation.status, h2]))
    | verified _ _ _ =>
      refine .alarm v o.now rfl (by simp [hv]) rfl rfl (hseen.le hle) hlast
    | _ => simp_all
  | alarm v a hst hv ha hr hva hseen =>
    have hao : a.instant ≤ o.now.instant := by
      obtain ⟨x, hx, rfl⟩ := hseen
      exact hle x hx
    cases hmove with
    | stillActive _ _ => exact .alarm v a hst hv ha hr hva (hmem hseen)
    | alarmUnknown _ _ => exact .alarm v a hst hv ha hr hva (hmem hseen)
    | recoveredAtOnce _ _ _ => exact .normal rfl rfl rfl rfl
    | recoveryStarted _ h2 _ =>
      exact .recovery v a o.now rfl hv ha rfl hva hao (hmem hseen) (seenSince_last h2)
    | _ => simp_all
  | recovery v a r hst hv ha hr hva har hseen hrec =>
    cases hmove with
    | violationReturned _ _ => exact .alarm v a rfl hv ha rfl hva (hmem hseen)
    | recoveryUnknown _ h2 =>
      exact .recovery v a r hst hv ha hr hva har (hmem hseen)
        (hrec.snoc (by simp [Observation.status, h2]))
    | recoveryOpen _ h2 _ =>
      exact .recovery v a r hst hv ha hr hva har (hmem hseen)
        (hrec.snoc (by simp [Observation.status, h2]))
    | recovered _ _ _ => exact .normal rfl rfl rfl rfl
    | _ => simp_all

/-- The start times a lifecycle state calls for, and their order. -/
def StartTimesFit (s : AlarmState) : Prop :=
  match s.state, s.violationStartedAt, s.alarmStartedAt, s.recoveryStartedAt with
  | .normal, none, none, none => True
  | .pending, some _, none, none => True
  | .alarm, some v, some a, none => v.instant ≤ a.instant
  | .recovery, some v, some a, some r => v.instant ≤ a.instant ∧ a.instant ≤ r.instant
  | _, _, _, _ => False

instance (s : AlarmState) : Decidable (StartTimesFit s) := by
  unfold StartTimesFit
  split <;> infer_instance

theorem Explains.fit {hist : List Observation} {s : AlarmState} (h : Explains hist s) :
    StartTimesFit s := by
  unfold StartTimesFit
  cases h <;> simp_all

theorem explains_start {s : AlarmState} (hn : s.state = .normal) (hf : StartTimesFit s) :
    Explains [] s := by
  unfold StartTimesFit at hf
  rw [hn] at hf
  split at hf <;> first | exact .normal hn ‹_› ‹_› ‹_› | contradiction

/-- Over a run in order, the state is explained by the results so far. -/
theorem explains_run {m : AlarmStateMachine} {obs : List Observation} {s₀ s : AlarmState}
    (hn : s₀.state = .normal) (hf : StartTimesFit s₀) (h : Run m.Step s₀ obs s) :
    InOrder obs → Explains obs s := by
  refine h.inv_labels (I := fun obs s => InOrder obs → Explains obs s)
    (fun _ => explains_start hn hf) fun hist a o b _ ih hs hord => ?_
  obtain ⟨hpre, -, hlast⟩ := List.pairwise_append.mp hord
  exact explains_step (ih hpre) (fun x hx => hlast x hx o (by simp)) hs

/-! ### What an action says about the past -/

/-- Each `action` at `t` comes with a result of `status`, and one at least
`window` before with none of `avoid` in between. -/
def Debounced (action : AlarmActionType) (status avoid : OverallStatus) (window : ℤ)
    (obs : List Observation) : Prop :=
  ∀ pre o post, obs = pre ++ o :: post → o.Emits action →
    o.status = status ∧
      ∃ t, SeenSince status avoid (pre ++ [o]) t ∧ t.instant ≤ o.now.instant - window

theorem create_debounced {m : AlarmStateMachine} {hist : List Observation} {s s' : AlarmState}
    {o : Observation} (hs : Explains hist s) (h : m.Step s o s') (he : o.Emits .createAlarmEvent) :
    o.status = .violation ∧ ∃ t, SeenSince .violation .normal (hist ++ [o]) t ∧
      t.instant ≤ o.now.instant - m.verifyAfter := by
  have hmove := apply_move h.1
  obtain ⟨x, hx, hty⟩ := he
  generalize o.transition = tr at hmove hx
  cases hmove with
  | verified hst h2 hw =>
    refine ⟨h2, ?_⟩
    cases hs with
    | pending v _ hv _ _ hseen =>
      rw [hv] at hw
      simp only [Option.getD_some] at hw
      exact ⟨v, hseen.snoc (by simp [Observation.status, h2]), by omega⟩
    | _ => simp_all
  | _ => grind [same, cancelTaskAction]

theorem recovery_debounced {m : AlarmStateMachine} {hist : List Observation} {s s' : AlarmState}
    {o : Observation} (hs : Explains hist s) (h : m.Step s o s')
    (he : o.Emits .markAlarmRecovered) :
    o.status = .normal ∧ ∃ t, SeenSince .normal .violation (hist ++ [o]) t ∧
      t.instant ≤ o.now.instant - m.recoveryAfter := by
  have hmove := apply_move h.1
  obtain ⟨x, hx, hty⟩ := he
  generalize o.transition = tr at hmove hx
  cases hmove with
  | recoveredAtOnce _ h2 h0 => exact ⟨h2, o.now, seenSince_last h2, by omega⟩
  | recovered hst h2 hw =>
    refine ⟨h2, ?_⟩
    cases hs with
    | recovery v a r _ _ _ hr _ _ _ hseen =>
      rw [hr] at hw
      simp only [Option.getD_some] at hw
      exact ⟨r, hseen.snoc (by simp [Observation.status, h2]), by omega⟩
    | _ => simp_all
  | _ => grind [same, cancelTaskAction, completeTaskAction]

/-! ### Alarms and recoveries alternate -/

/-- Alarm, recovery, alarm, recovery, ... -/
def Alternates (l : List AlarmActionType) : Prop :=
  ∀ i (h : i < l.length), l[i] = if i % 2 = 0 then .createAlarmEvent else .markAlarmRecovered

/-- An alarm has been raised and has not recovered. -/
def CycleOpen (s : AlarmState) : Prop := s.state = .alarm ∨ s.state = .recovery

instance (s : AlarmState) : Decidable (CycleOpen s) := by unfold CycleOpen; infer_instance

theorem alternates_concat {l : List AlarmActionType} {a : AlarmActionType} (h : Alternates l)
    (ha : a = if l.length % 2 = 0 then .createAlarmEvent else .markAlarmRecovered) :
    Alternates (l ++ [a]) := by
  intro i hi
  rw [List.length_append, List.length_singleton] at hi
  by_cases hlt : i < l.length
  · rw [List.getElem_append_left hlt]
    exact h i hlt
  · obtain rfl : i = l.length := by omega
    rw [List.getElem_concat_length rfl]
    exact ha

/-- An evaluation raises an alarm when it opens the cycle, recovers when it
closes it, and does neither otherwise. -/
theorem cycleActions_step {m : AlarmStateMachine} {s s' : AlarmState} {o : Observation}
    (h : m.Step s o s') : o.cycleActions =
      if ¬ CycleOpen s ∧ CycleOpen s' then [.createAlarmEvent]
      else if CycleOpen s ∧ ¬ CycleOpen s' then [.markAlarmRecovered] else [] := by
  obtain ⟨happ, rfl⟩ := h
  have hmove := apply_move happ
  unfold Observation.cycleActions
  generalize o.transition = tr at hmove ⊢
  cases hmove <;> rename_i h1 <;>
    simp_all [CycleOpen, same, AlarmState.ofDevice, cancelTaskAction, completeTaskAction] <;>
    split <;> simp

theorem alternates_run {m : AlarmStateMachine} {obs : List Observation} {s₀ s : AlarmState}
    (hn : s₀.state = .normal) (h : Run m.Step s₀ obs s) :
    Alternates (obs.flatMap (·.cycleActions)) ∧
      (obs.flatMap (·.cycleActions)).length % 2 = if CycleOpen s then 1 else 0 := by
  refine h.inv_labels (I := fun obs s => Alternates (obs.flatMap (·.cycleActions)) ∧
    (obs.flatMap (·.cycleActions)).length % 2 = if CycleOpen s then 1 else 0)
    ⟨fun i hi => absurd hi (by simp), by simp [CycleOpen, hn]⟩ fun hist a o b _ ih hs => ?_
  obtain ⟨halt, hlen⟩ := ih
  rw [List.flatMap_append, List.flatMap_singleton, cycleActions_step hs]
  by_cases ha : CycleOpen a <;> by_cases hb : CycleOpen b <;> simp only [ha, hb, not_true_eq_false,
    not_false_eq_true, and_true, and_false, ↓reduceIte, List.append_nil] at hlen ⊢
  · exact ⟨halt, hlen⟩
  · refine ⟨alternates_concat halt (by rw [hlen]; rfl), ?_⟩
    rw [List.length_append, List.length_singleton]
    omega
  · refine ⟨alternates_concat halt (by rw [hlen]; rfl), ?_⟩
    rw [List.length_append, List.length_singleton]
    omega
  · exact ⟨halt, hlen⟩

/-! ### The lifecycle -/

theorem unknown_step {m : AlarmStateMachine} {s s' : AlarmState} {o : Observation}
    (h : m.Step s o s') (hu : o.status = .unknown) : s' = s ∧ o.transition.actions = [] := by
  obtain ⟨happ, rfl⟩ := h
  have hmove := apply_move happ
  generalize o.transition = tr at hmove ⊢
  unfold Observation.status at hu
  cases hmove <;> simp_all [same]

/-- **Lifecycle safety.** From NORMAL, on any results at nondecreasing times:
an alarm is raised after a violation window with no normal result in it, and
marked recovered after a normal window with no violation in it; the two
alternate; an unknown result changes and emits nothing; and the state holds
the start times of its lifecycle value, in order. -/
theorem lifecycle_safety {m : AlarmStateMachine} {obs : List Observation} {s₀ s : AlarmState}
    (hn : s₀.state = .normal) (hf : StartTimesFit s₀) (h : Run m.Step s₀ obs s)
    (hord : InOrder obs) :
    Debounced .createAlarmEvent .violation .normal m.verifyAfter obs ∧
      Debounced .markAlarmRecovered .normal .violation m.recoveryAfter obs ∧
      Alternates (obs.flatMap (·.cycleActions)) ∧
      (∀ pre o post, obs = pre ++ o :: post → o.status = .unknown →
        ∃ t, Run m.Step s₀ pre t ∧ m.Step t o t ∧ o.transition.actions = []) ∧
      StartTimesFit s := by
  -- the state before each evaluation is explained by the results before it
  have hbefore : ∀ {pre o post}, obs = pre ++ o :: post →
      ∃ t t', Run m.Step s₀ pre t ∧ Explains pre t ∧ m.Step t o t' := by
    rintro pre o post rfl
    obtain ⟨t, t', hr, hs, -⟩ := h.at_label
    exact ⟨t, t', hr, explains_run hn hf hr (List.pairwise_append.mp hord).1, hs⟩
  refine ⟨fun pre o post he hem => ?_, fun pre o post he hem => ?_, (alternates_run hn h).1,
    fun pre o post he hu => ?_, (explains_run hn hf h hord).fit⟩
  · obtain ⟨t, t', -, hex, hs⟩ := hbefore he
    exact create_debounced hex hs hem
  · obtain ⟨t, t', -, hex, hs⟩ := hbefore he
    exact recovery_debounced hex hs hem
  · obtain ⟨t, t', hr, -, hs⟩ := hbefore he
    obtain ⟨rfl, hact⟩ := unknown_step hs hu
    exact ⟨t', hr, hs, hact⟩

section Cycle

def minutes : AlarmStateMachine := ⟨300000000, 60000000, by decide, by decide⟩

/-- A violation kept up through an unknown result, then a normal minute. -/
def cycleResults : List (MonitorResult × DateTime) :=
  [(.violation, 0), (.unknown, 60), (.violation, 300), (.normal, 400), (.normal, 460)].map
    fun (status, t) => ({ deviceId := "TH-01", overallStatus := status }, .utc (t * 1000000))

theorem lifecycle_safety_cycle : ∃ obs,
    minutes.feed (AlarmState.ofDevice "TH-01") cycleResults =
      .ok (obs, AlarmState.ofDevice "TH-01") ∧
      obs.flatMap (·.cycleActions) = [.createAlarmEvent, .markAlarmRecovered] ∧
      Debounced .createAlarmEvent .violation .normal 300000000 obs ∧
      Debounced .markAlarmRecovered .normal .violation 60000000 obs := by
  refine ⟨_, rfl, by decide, ?_⟩
  have hrun : minutes.feed (AlarmState.ofDevice "TH-01") cycleResults = .ok (_, _) := rfl
  obtain ⟨hc, hr, -⟩ := lifecycle_safety rfl (by decide) (feed_run hrun) (by unfold InOrder; decide)
  exact ⟨hc, hr⟩

end Cycle

end AlarmStateMachine
end TemperatureMonitor
