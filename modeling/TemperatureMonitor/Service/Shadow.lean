/-
# Comparing the expected state with the observed one

`compare_states`: an event difference, then the differences of the fields. A
difference is put down to the remote side's delay where the timestamps are close
and the observed values are those of the preceding expected state. The fields a
kind of difference stands for come from a table of their own
(`differenceFields`), which has no entry for an event still present.
-/
import TemperatureMonitor.Domain.Models

namespace TemperatureMonitor

/-! ### The two states -/

/-- The fields of `expected_comparison_values`. -/
inductive ComparisonField
  | alarmState | operationState | eventExists | overallStatus | standardId | standardRevision | standardSource
  | applicability | dataQuality | temperatureStatus | humidityStatus | operationType
deriving DecidableEq

/-- The key of a field. -/
def ComparisonField.name : ComparisonField → String
  | alarmState => "alarm_state"
  | operationState => "operation_state"
  | eventExists => "event_exists"
  | overallStatus => "overall_status"
  | standardId => "standard_id"
  | standardRevision => "standard_revision"
  | standardSource => "standard_source"
  | applicability => "applicability"
  | dataQuality => "data_quality"
  | temperatureStatus => "temperature_status"
  | humidityStatus => "humidity_status"
  | operationType => "operation_type"

/-- The value of a field: a text that may be missing, or a flag. -/
inductive FieldValue
  | text (value : Option String)
  | flag (value : Bool)
deriving DecidableEq

structure ExpectedAutomationState where
  deviceId : String
  alarmState : String
  operationState : String
  eventExists : Bool
  overallStatus : Option String := none
  standardId : Option String := none
  standardRevision : Option String := none
  standardSource : Option String := none
  activeEventCount : Option ℕ := none
  expectedAt : Option DateTime := none
  applicability : Option String := none
  dataQuality : Option String := none
  temperatureStatus : Option String := none
  humidityStatus : Option String := none
  activeEventIds : List String := []
  operationType : Option String := none
  /-- The values of the preceding expected state. -/
  previousState : Option (List (ComparisonField × FieldValue)) := none
deriving DecidableEq

structure ObservedAutomationState where
  deviceId : String
  alarmState : String
  operationState : String
  eventExists : Bool
  overallStatus : Option String := none
  standardId : Option String := none
  standardRevision : Option String := none
  standardSource : Option String := none
  activeEventCount : Option ℕ := none
  observedAt : Option DateTime := none
  applicability : Option String := none
  dataQuality : Option String := none
  temperatureStatus : Option String := none
  humidityStatus : Option String := none
  activeEventIds : List String := []
  operationType : Option String := none
  /-- Events with a recovery time that nobody has closed yet. -/
  pendingClosureCount : Option ℕ := none
deriving DecidableEq

def ExpectedAutomationState.get (s : ExpectedAutomationState) : ComparisonField → FieldValue
  | .alarmState => .text s.alarmState
  | .operationState => .text s.operationState
  | .eventExists => .flag s.eventExists
  | .overallStatus => .text s.overallStatus
  | .standardId => .text s.standardId
  | .standardRevision => .text s.standardRevision
  | .standardSource => .text s.standardSource
  | .applicability => .text s.applicability
  | .dataQuality => .text s.dataQuality
  | .temperatureStatus => .text s.temperatureStatus
  | .humidityStatus => .text s.humidityStatus
  | .operationType => .text s.operationType

def ObservedAutomationState.get (s : ObservedAutomationState) : ComparisonField → FieldValue
  | .alarmState => .text s.alarmState
  | .operationState => .text s.operationState
  | .eventExists => .flag s.eventExists
  | .overallStatus => .text s.overallStatus
  | .standardId => .text s.standardId
  | .standardRevision => .text s.standardRevision
  | .standardSource => .text s.standardSource
  | .applicability => .text s.applicability
  | .dataQuality => .text s.dataQuality
  | .temperatureStatus => .text s.temperatureStatus
  | .humidityStatus => .text s.humidityStatus
  | .operationType => .text s.operationType

/-- `expected_comparison_values`. -/
def expectedComparisonValues (s : ExpectedAutomationState) : List (ComparisonField × FieldValue) :=
  [.alarmState, .operationState, .eventExists, .overallStatus, .standardId, .standardRevision,
      .standardSource,
    .applicability, .dataQuality, .temperatureStatus, .humidityStatus, .operationType].map fun f =>
      (f, s.get f)

/-! ### The result -/

inductive DifferenceType
  /-- A field of the legacy comparison, its name in capitals. -/
  | legacy (f : ComparisonField)
  | eventDuplicated | eventMissing | eventStateMismatch
  | standardMismatch | operationStateMismatch | alarmStateMismatch | overallStatusMismatch
  | applicabilityMismatch | dataQualityMismatch | temperatureStatusMismatch | humidityStatusMismatch
  | feishuDelay
deriving DecidableEq

/-- An entry of the details. -/
inductive Detail
  | values (expected observed : FieldValue)
  | counts (expected : Option ℕ) (observed : ℕ)
  /-- Expected `">=1"`. -/
  | atLeastOne (observed : ℕ)
  | standard (expected observed : Option String × Option String)
  /-- A duration, in microseconds. -/
  | duration (micros : ℤ)
  | evidence (text : String)
deriving DecidableEq

structure AutomationDiff where
  matched : Bool
  differenceType : List DifferenceType
  details : List (String × Detail)
deriving DecidableEq

/-! ### The differences -/

section Compare

variable (expected : ExpectedAutomationState) (observed : ObservedAutomationState)

/-- Neither state has more than the first version's fields. -/
def legacyShape (expectedAt : Option DateTime) : Bool :=
  expected.expectedAt.isNone && observed.observedAt.isNone && expected.overallStatus.isNone &&
    observed.overallStatus.isNone && expected.standardId.isNone && observed.standardId.isNone &&
    expected.standardRevision.isNone && observed.standardRevision.isNone &&
      expected.standardSource.isNone &&
    observed.standardSource.isNone && expected.activeEventCount.isNone &&
      observed.activeEventCount.isNone &&
    expected.applicability.isNone && observed.applicability.isNone && expected.dataQuality.isNone &&
    observed.dataQuality.isNone && expected.temperatureStatus.isNone &&
      observed.temperatureStatus.isNone &&
    expected.humidityStatus.isNone && observed.humidityStatus.isNone &&
      expected.activeEventIds.isEmpty &&
    observed.activeEventIds.isEmpty && expected.operationType.isNone &&
      observed.operationType.isNone &&
    expected.previousState.isNone && expectedAt.isNone

/-- The fields of the first version that differ. -/
def legacyFields : List ComparisonField :=
  [.alarmState, .operationState, .eventExists].filter fun f => expected.get f ≠ observed.get f

/-- An alarm is seen: by the count, or by the flag without one. -/
def hasObservedAlarm : Bool :=
  match observed.activeEventCount with
  | some n => 0 < n
  | none => observed.eventExists

/-- `_event_difference`, with its details. -/
def eventDifference : Option DifferenceType × List (String × Detail) :=
  match observed.activeEventCount.filter (1 < ·) with
  | some n => (some .eventDuplicated, [("active_event_count", .counts expected.activeEventCount n)])
  | none =>
    if expected.eventExists then
      if hasObservedAlarm observed then (none, [])
      -- an event with its recovery written stays open for a person to close
      else if expected.alarmState = "RECOVERY" &&
        observed.pendingClosureCount.any (0 < ·) then (none, [])
      else (some .eventMissing, ("event_exists", .values (.flag true) (.flag false)) ::
        match observed.activeEventCount with
        | some n => [("active_event_count", .atLeastOne n)]
        | none => [])
    else if !hasObservedAlarm observed then (none, [])
    else
      match observed.activeEventCount, observed.pendingClosureCount.filter (0 < ·) with
      | some 0, some n => (none, [("pending_closure_count", .counts (some 0) n)])
      | _, _ => (some .eventStateMismatch, [("event_exists", .values (.flag false) (.flag true))])

/-- The idle operation of the remote table against none of the local one. -/
def operationStateEquivalent : Bool :=
  expected.operationState = "NOT_APPLICABLE" && observed.operationState = "IDLE" &&
    observed.operationType = some "N/A"

/-- A difference of a field, if the condition holds. -/
def fieldDifference (cond : Bool) (kind : DifferenceType) (f : ComparisonField) :
    Option (DifferenceType × String × Detail) :=
  if cond then some (kind, f.name, .values (expected.get f) (observed.get f)) else none

/-- Both sides have a value of the field, another. -/
def bothDiffer (f : ComparisonField) : Bool :=
  expected.get f ≠ .text none && observed.get f ≠ .text none && expected.get f ≠ observed.get f

/-- The checks of `_canonical_differences`, in order. -/
def canonicalChecks : List (Option (DifferenceType × String × Detail)) :=
  [if (observed.standardId.isSome || observed.standardRevision.isSome) &&
      (expected.standardId ≠ observed.standardId ||
        expected.standardRevision ≠ observed.standardRevision) then
    some (.standardMismatch, "standard", .standard (expected.standardId, expected.standardRevision)
      (observed.standardId, observed.standardRevision))
  else none,
  fieldDifference expected observed
    (expected.operationState ≠ observed.operationState &&
      !operationStateEquivalent expected observed)
    .operationStateMismatch .operationState,
  fieldDifference expected observed (bothDiffer expected observed .operationType)
    .operationStateMismatch .operationType,
  fieldDifference expected observed (expected.alarmState ≠ observed.alarmState)
    .alarmStateMismatch .alarmState,
  fieldDifference expected observed (bothDiffer expected observed .overallStatus)
    .overallStatusMismatch .overallStatus,
  fieldDifference expected observed (bothDiffer expected observed .applicability)
    .applicabilityMismatch .applicability,
  fieldDifference expected observed (bothDiffer expected observed .dataQuality)
    .dataQualityMismatch .dataQuality,
  fieldDifference expected observed (bothDiffer expected observed .temperatureStatus)
      .temperatureStatusMismatch
    .temperatureStatus,
  fieldDifference expected observed (bothDiffer expected observed .humidityStatus)
      .humidityStatusMismatch
    .humidityStatus]

/-- `_canonical_differences`: each kind once, and the details. -/
def canonicalDifferences : List DifferenceType × List (String × Detail) :=
  let found := (canonicalChecks expected observed).filterMap id
  ((found.map (·.1)).eraseDups, found.map (·.2))

/-- The fields behind a kind of difference. -/
def differenceFields (details : List (String × Detail)) : DifferenceType → List ComparisonField
  | .standardMismatch => [.standardId, .standardRevision]
  | .operationStateMismatch =>
    [.operationState, .operationType].filter fun f => (details.map (·.1)).contains f.name
  | .eventMissing => [.eventExists]
  | .eventDuplicated => [.eventExists]
  | .alarmStateMismatch => [.alarmState]
  | .overallStatusMismatch => [.overallStatus]
  | .applicabilityMismatch => [.applicability]
  | .dataQualityMismatch => [.dataQuality]
  | .temperatureStatusMismatch => [.temperatureStatus]
  | .humidityStatusMismatch => [.humidityStatus]
  | _ => []

/-- `_observed_matches_previous_expected`. -/
def observedMatchesPreviousExpected (previousState : List (ComparisonField × FieldValue))
    (differences : List DifferenceType) (details : List (String × Detail)) : Bool :=
  !differences.isEmpty && differences.all fun d =>
    !(differenceFields details d).isEmpty &&
      (differenceFields details d).all fun f => previousState.lookup f = some (observed.get f)

/-- `_latency_seconds`, in microseconds. -/
def latency (expectedAt observedAt : Option DateTime) : Option ℤ :=
  match expectedAt, observedAt with
  | some e, some o => some (e.instant - o.instant)
  | _, _ => none

/-- The text of what shows a delay, if anything does. -/
def delayEvidence (maxFeishuDelay : ℤ) (differences : List DifferenceType)
    (details : List (String × Detail)) (l : ℤ) : Option String :=
  match expected.previousState with
  | some previousState =>
    if |l| ≤ maxFeishuDelay &&
        observedMatchesPreviousExpected observed previousState differences details then
      some "observed_matches_previous_expected"
    else none
  | none =>
    if 0 ≤ l && l ≤ maxFeishuDelay then some "legacy_observed_timestamp_precedes_expected" else none

/-- `compare_states`. -/
def compareStates (expectedAt : Option DateTime) (maxFeishuDelay : ℤ) :
    Except PyError AutomationDiff :=
  if expected.deviceId ≠ observed.deviceId then
    .error (.valueError "expected and observed device IDs must match")
  else if legacyShape expected observed expectedAt then
    let fields := legacyFields expected observed
    .ok ⟨fields.isEmpty, fields.map .legacy, fields.map fun f =>
      (f.name, .values (expected.get f) (observed.get f))⟩
  else
    let event := eventDifference expected observed
    if event.1 = some .eventDuplicated then .ok ⟨false, [.eventDuplicated], event.2⟩
    else
      let canonical := canonicalDifferences expected observed
      let differences := event.1.toList ++ canonical.1
      let details := event.2 ++ canonical.2
      if differences.isEmpty then .ok ⟨true, [], details⟩
      else
        let undelayed := match event.1 with
          | some d => [d]
          | none => differences
        match latency (expected.expectedAt <|> expectedAt) observed.observedAt with
        | none => .ok ⟨false, undelayed, details⟩
        | some l =>
          let timed := details ++ [("feishu_latency_seconds", .duration l),
            ("feishu_timestamp_skew_seconds", .duration |l|),
            ("allowed_feishu_delay_seconds", .duration maxFeishuDelay)]
          match delayEvidence expected observed maxFeishuDelay differences timed l with
          | some text =>
            .ok ⟨false, [.feishuDelay], timed ++ [("feishu_delay_evidence", .evidence text)]⟩
          | none => .ok ⟨false, undelayed, timed⟩

end Compare

/-! ### What lies behind a difference

`behindDifference` says of each field whether it differs in the sense of the
comparison; the standard's two columns count as one field. -/

section Behind

variable (expected : ExpectedAutomationState) (observed : ObservedAutomationState)

/-- The expected event is not to be seen. -/
def eventMissing : Bool :=
  expected.eventExists && !hasObservedAlarm observed &&
    !(expected.alarmState = "RECOVERY" && observed.pendingClosureCount.any (0 < ·))

/-- An event is still to be seen where none is expected. -/
def eventStillPresent : Bool := !expected.eventExists && hasObservedAlarm observed

def standardDiffers : Bool :=
  (observed.standardId.isSome || observed.standardRevision.isSome) &&
    (expected.standardId ≠ observed.standardId ||
      expected.standardRevision ≠ observed.standardRevision)

def operationStateDiffers : Bool :=
  expected.operationState ≠ observed.operationState && !operationStateEquivalent expected observed

/-- The field is behind a difference of the two states. -/
def behindDifference (f : ComparisonField) : Bool :=
  match f with
  | .eventExists => eventMissing expected observed || eventStillPresent expected observed
  | .standardId => standardDiffers expected observed
  | .standardRevision => standardDiffers expected observed
  | .operationState => operationStateDiffers expected observed
  | .alarmState => expected.alarmState ≠ observed.alarmState
  | .standardSource => false
  | f => bothDiffer expected observed f

/-- The kind a field's difference is reported as. -/
def fieldKind : ComparisonField → DifferenceType
  | .eventExists => .eventMissing
  | .standardId => .standardMismatch
  | .standardRevision => .standardMismatch
  | .standardSource => .standardMismatch
  | .operationState => .operationStateMismatch
  | .operationType => .operationStateMismatch
  | .alarmState => .alarmStateMismatch
  | .overallStatus => .overallStatusMismatch
  | .applicability => .applicabilityMismatch
  | .dataQuality => .dataQualityMismatch
  | .temperatureStatus => .temperatureStatusMismatch
  | .humidityStatus => .humidityStatusMismatch

/-- At most one active event, and the flag agrees with the count. -/
def OneActiveEvent : Prop :=
  ∀ n, observed.activeEventCount = some n → n ≤ 1 ∧ observed.eventExists = decide (0 < n)

variable {expected observed}

theorem fieldDifference_eq_some {cond : Bool} {kind : DifferenceType} {f : ComparisonField}
    {x : DifferenceType × String × Detail} :
    some x = fieldDifference expected observed cond kind f ↔
      cond = true ∧ x = (kind, f.name, .values (expected.get f) (observed.get f)) := by
  unfold fieldDifference
  by_cases h : cond = true
  · simp [h]
  · simp [h]

/-- An entry of the checks, by its kind and its key. -/
theorem mem_canonicalChecks {k : DifferenceType} {key : String} :
    (∃ v, some (k, key, v) ∈ canonicalChecks expected observed) ↔
      (standardDiffers expected observed = true ∧ k = .standardMismatch ∧ key = "standard") ∨
      ∃ f, f ≠ .eventExists ∧ f ≠ .standardId ∧ f ≠ .standardRevision ∧
        behindDifference expected observed f = true ∧ k = fieldKind f ∧ key = f.name := by
  simp only [canonicalChecks, List.mem_cons, List.not_mem_nil, or_false, fieldDifference_eq_some]
  constructor
  · rintro ⟨v, h | h | h | h | h | h | h | h | h⟩
    · split at h
      · rename_i hc
        simp only [Option.some.injEq, Prod.mk.injEq] at h
        exact .inl ⟨hc, h.1, h.2.1⟩
      · cases h
    · exact .inr ⟨.operationState, by simp, by simp, by simp, h.1, by simp_all [fieldKind]⟩
    · exact .inr ⟨.operationType, by simp, by simp, by simp, h.1, by simp_all [fieldKind]⟩
    · exact .inr ⟨.alarmState, by simp, by simp, by simp, h.1, by simp_all [fieldKind]⟩
    · exact .inr ⟨.overallStatus, by simp, by simp, by simp, h.1, by simp_all [fieldKind]⟩
    · exact .inr ⟨.applicability, by simp, by simp, by simp, h.1, by simp_all [fieldKind]⟩
    · exact .inr ⟨.dataQuality, by simp, by simp, by simp, h.1, by simp_all [fieldKind]⟩
    · exact .inr ⟨.temperatureStatus, by simp, by simp, by simp, h.1, by simp_all [fieldKind]⟩
    · exact .inr ⟨.humidityStatus, by simp, by simp, by simp, h.1, by simp_all [fieldKind]⟩
  · rintro (⟨hs, rfl, rfl⟩ | ⟨f, h1, h2, h3, hb, rfl, rfl⟩)
    · exact ⟨_, .inl (if_pos hs).symm⟩
    · cases f <;> simp_all [fieldKind, behindDifference, operationStateDiffers]

/-- The kinds found are those of the fields that differ. -/
theorem mem_canonicalDifferences {d : DifferenceType} :
    d ∈ (canonicalDifferences expected observed).1 ↔
      ∃ f, f ≠ .eventExists ∧ behindDifference expected observed f = true ∧ fieldKind f = d := by
  have hfound : d ∈ (canonicalDifferences expected observed).1 ↔
      ∃ key v, some (d, key, v) ∈ canonicalChecks expected observed := by
    simp [canonicalDifferences]
  simp only [hfound, mem_canonicalChecks]
  constructor
  · rintro ⟨key, ⟨hs, rfl, -⟩ | ⟨f, h1, -, -, hb, rfl, -⟩⟩
    · exact ⟨.standardId, by simp, hs, rfl⟩
    · exact ⟨f, h1, hb, rfl⟩
  · rintro ⟨f, h1, hb, rfl⟩
    by_cases hstd : f = .standardId ∨ f = .standardRevision
    · have hs : standardDiffers expected observed = true := by
        rcases hstd with rfl | rfl <;> exact hb
      refine ⟨"standard", .inl ⟨hs, ?_, rfl⟩⟩
      rcases hstd with rfl | rfl <;> rfl
    · exact ⟨f.name, .inr ⟨f, h1, fun h => hstd (.inl h), fun h => hstd (.inr h), hb, rfl, rfl⟩⟩

/-- The keys of the details. -/
theorem mem_canonicalDetails {key : String} :
    key ∈ (canonicalDifferences expected observed).2.map (·.1) ↔
      (standardDiffers expected observed = true ∧ key = "standard") ∨
      ∃ f, f ≠ .eventExists ∧ f ≠ .standardId ∧ f ≠ .standardRevision ∧
        behindDifference expected observed f = true ∧ key = f.name := by
  have hfound : key ∈ (canonicalDifferences expected observed).2.map (·.1) ↔
      ∃ k v, some (k, key, v) ∈ canonicalChecks expected observed := by
    simp [canonicalDifferences]
  simp only [hfound, mem_canonicalChecks]
  constructor
  · rintro ⟨k, ⟨hs, -, h⟩ | ⟨f, h1, h2, h3, hb, -, h⟩⟩
    · exact .inl ⟨hs, h⟩
    · exact .inr ⟨f, h1, h2, h3, hb, h⟩
  · rintro (⟨hs, h⟩ | ⟨f, h1, h2, h3, hb, h⟩)
    · exact ⟨_, .inl ⟨hs, rfl, h⟩⟩
    · exact ⟨_, .inr ⟨f, h1, h2, h3, hb, rfl, h⟩⟩

theorem ComparisonField.name_injective : Function.Injective ComparisonField.name := by
  intro f g h
  cases f <;> cases g <;> first | rfl | simp [ComparisonField.name] at h

/-! ### The verdict -/

/-- The event's difference, under one active event at most. -/
theorem eventDifference_kind (h1 : OneActiveEvent observed) :
    (eventDifference expected observed).1 =
      if eventMissing expected observed then some .eventMissing
      else if eventStillPresent expected observed then some .eventStateMismatch else none := by
  have hone : observed.activeEventCount.filter (1 < ·) = none := by
    cases hc : observed.activeEventCount with
    | none => rfl
    | some n =>
      have hn := (h1 n hc).1
      exact Option.filter_some_neg (by simpa using hn)
  simp only [eventDifference, hone]
  by_cases he : expected.eventExists = true
  · have hs : eventStillPresent expected observed = false := by simp [eventStillPresent, he]
    by_cases ha : hasObservedAlarm observed = true
    · simp [he, ha, eventMissing, hs]
    · simp only [he, ha, hs, eventMissing, Bool.not_false, Bool.and_true, Bool.true_and,
          if_true, if_false,
        Bool.false_eq_true]
      by_cases hr :
          (expected.alarmState = "RECOVERY" && observed.pendingClosureCount.any (0 < ·)) = true
      · rw [if_pos hr, hr]
        rfl
      · rw [if_neg hr, Bool.eq_false_iff.mpr hr]
        rfl
  · have hm : eventMissing expected observed = false := by simp [eventMissing, he]
    by_cases ha : hasObservedAlarm observed = true
    · have hs : eventStillPresent expected observed = true := by simp [eventStillPresent, he, ha]
      have hnone : observed.activeEventCount ≠ some 0 := by
        intro h0
        simp [hasObservedAlarm, h0] at ha
      simp only [he, ha, hm, hs, Bool.not_true, Bool.false_eq_true, if_false, if_true]
      split
      · contradiction
      · rfl
    · simp [he, ha, hm, eventStillPresent]

theorem eventMissing_or (expected : ExpectedAutomationState) (observed : ObservedAutomationState) :
    eventMissing expected observed = false ∨ eventStillPresent expected observed = false := by
  by_cases he : expected.eventExists = true
  · exact .inr (by simp [eventStillPresent, he])
  · exact .inl (by simp [eventMissing, he])

theorem mem_eventDifference (h1 : OneActiveEvent observed) {d : DifferenceType} :
    d ∈ (eventDifference expected observed).1.toList ↔
      (d = .eventMissing ∧ eventMissing expected observed = true) ∨
        (d = .eventStateMismatch ∧ eventStillPresent expected observed = true) := by
  rw [eventDifference_kind h1]
  rcases eventMissing_or expected observed with h | h
  · by_cases hs : eventStillPresent expected observed = true
    · simp [h, hs]
    · simp [h, hs]
  · by_cases hm : eventMissing expected observed = true
    · simp [h, hm]
    · simp [h, hm]

/-- The kinds reported without a delay: an event still present, and those of the fields behind a
difference. -/
theorem mem_differences (h1 : OneActiveEvent observed)
    (hs : eventStillPresent expected observed = false) {d : DifferenceType} :
    d ∈ (eventDifference expected observed).1.toList ++ (canonicalDifferences expected observed).1 ↔
      ∃ f, behindDifference expected observed f = true ∧ fieldKind f = d := by
  have hexists : behindDifference expected observed .eventExists =
      eventMissing expected observed := by
    simp [behindDifference, hs]
  rw [List.mem_append, mem_eventDifference h1, mem_canonicalDifferences, hs]
  constructor
  · rintro ((⟨rfl, hm⟩ | ⟨-, h⟩) | ⟨f, -, h⟩)
    · exact ⟨.eventExists, hexists.trans hm, rfl⟩
    · cases h
    · exact ⟨f, h⟩
  · rintro ⟨f, hb, rfl⟩
    by_cases hf : f = .eventExists
    · subst hf
      exact .inl (.inl ⟨rfl, hexists.symm.trans hb⟩)
    · exact .inr ⟨f, hf, hb, rfl⟩

/-- No key of the event's details is a field of the operation. -/
theorem eventDifference_keys {f : ComparisonField} (hf : f = .operationState ∨ f = .operationType) :
    f.name ∉ (eventDifference expected observed).2.map (·.1) := by
  unfold eventDifference
  rcases hf with rfl | rfl <;> (repeat' split) <;> simp [ComparisonField.name]

/-- Every kind but the operation's stands for fixed fields. -/
theorem mem_differenceFields_fixed {details : List (String × Detail)} {f g : ComparisonField}
    (hkind : fieldKind g ≠ .operationStateMismatch) :
    f ∈ differenceFields details (fieldKind g) ↔ f ≠ .standardSource ∧
      fieldKind f = fieldKind g := by
  cases g <;> first | exact absurd rfl hkind | (cases f <;> simp [differenceFields, fieldKind])

/-- Fields of one such kind differ together. -/
theorem behindDifference_congr {f g : ComparisonField}
    (hkind : fieldKind g ≠ .operationStateMismatch)
    (hk : fieldKind f = fieldKind g) (hf : f ≠ .standardSource) (hg : g ≠ .standardSource) :
    behindDifference expected observed f = behindDifference expected observed g := by
  cases g <;> cases f <;> first | rfl | contradiction

/-- The fields of a reported kind are those behind it; only an event still present has none. -/
theorem mem_differenceFields {timing : List (String × Detail)} {f : ComparisonField}
    {d : DifferenceType} (htiming : ∀ g : ComparisonField, g.name ∉ timing.map (·.1))
    (hd : d = .eventMissing ∧ eventMissing expected observed = true ∨
      d ∈ (canonicalDifferences expected observed).1) :
    f ∈ differenceFields
        ((eventDifference expected observed).2 ++
          (canonicalDifferences expected observed).2 ++ timing) d ↔
      behindDifference expected observed f = true ∧ fieldKind f = d := by
  have hop : ∀ g : ComparisonField, g = .operationState ∨ g = .operationType →
      (g.name ∈ ((eventDifference expected observed).2 ++
          (canonicalDifferences expected observed).2 ++ timing).map
        (·.1) ↔ behindDifference expected observed g = true) := by
    intro g hg
    have hev : g.name ∉ (eventDifference expected observed).2.map (·.1) := eventDifference_keys hg
    rw [List.map_append, List.map_append, List.mem_append, List.mem_append, mem_canonicalDetails]
    constructor
    · rintro ((h | ⟨-, h⟩ | ⟨g', -, -, -, hb, h⟩) | h)
      · exact absurd h hev
      · rcases hg with rfl | rfl <;> simp [ComparisonField.name] at h
      · rwa [ComparisonField.name_injective h]
      · exact absurd h (htiming g)
    · intro hb
      refine .inl (.inr (.inr ⟨g, ?_, ?_, ?_, hb, rfl⟩)) <;> rcases hg with rfl | rfl <;> simp
  rcases hd with ⟨rfl, hm⟩ | hd
  · cases f <;> simp [differenceFields, fieldKind, behindDifference, hm]
  · obtain ⟨g, hg, hb, rfl⟩ := mem_canonicalDifferences.mp hd
    by_cases hkind : fieldKind g = .operationStateMismatch
    · rw [hkind]
      simp only [differenceFields, List.mem_filter, List.contains_iff_mem, List.mem_cons,
        List.not_mem_nil, or_false]
      constructor
      · rintro ⟨hf, hkey⟩
        refine ⟨(hop f hf).mp hkey, ?_⟩
        rcases hf with rfl | rfl <;> rfl
      · rintro ⟨hbf, hkf⟩
        have hf : f = .operationState ∨ f = .operationType := by cases f <;> simp_all [fieldKind]
        exact ⟨hf, (hop f hf).mpr hbf⟩
    · rw [mem_differenceFields_fixed hkind]
      have hsource : behindDifference expected observed .standardSource = false := rfl
      constructor
      · rintro ⟨hfs, hkf⟩
        refine ⟨?_, hkf⟩
        rwa [behindDifference_congr hkind hkf hfs (by rintro rfl; simp [hsource] at hb)]
      · rintro ⟨hbf, hkf⟩
        exact ⟨by rintro rfl; simp [hsource] at hbf, hkf⟩

/-- Every field of an earlier expected state is in its comparison values. -/
theorem lookup_expectedComparisonValues (prev : ExpectedAutomationState) (f : ComparisonField) :
    (expectedComparisonValues prev).lookup f = some (prev.get f) := by
  cases f <;> rfl

/-- Unless an event is still present, the observed values pass for the preceding ones exactly if
they are. -/
theorem observedMatchesPreviousExpected_iff {prev : ExpectedAutomationState}
    (h1 : OneActiveEvent observed)
    {timing : List (String × Detail)} (htiming : ∀ g : ComparisonField, g.name ∉ timing.map (·.1))
    (hdiff : ∃ f, behindDifference expected observed f = true) :
    observedMatchesPreviousExpected observed (expectedComparisonValues prev)
        ((eventDifference expected observed).1.toList ++ (canonicalDifferences expected observed).1)
        ((eventDifference expected observed).2 ++ (canonicalDifferences expected observed).2 ++
          timing) = true ↔
      eventStillPresent expected observed = false ∧
        ∀ f, behindDifference expected observed f = true → observed.get f = prev.get f := by
  by_cases hs : eventStillPresent expected observed = true
  · -- its kind has no field in the table, so the check fails
    have hmem : DifferenceType.eventStateMismatch ∈
        (eventDifference expected observed).1.toList ++
          (canonicalDifferences expected observed).1 :=
      List.mem_append_left _ ((mem_eventDifference h1).mpr (.inr ⟨rfl, hs⟩))
    simp only [observedMatchesPreviousExpected, hs, Bool.and_eq_true, List.all_eq_true,
        Bool.true_eq_false, false_and,
      iff_false, not_and]
    intro _ hall
    have hnil := (hall _ hmem).1
    simp [differenceFields] at hnil
  · rw [Bool.not_eq_true] at hs
    have hfields : ∀ d ∈ (eventDifference expected observed).1.toList ++
        (canonicalDifferences expected observed).1,
        ∀ f, f ∈ differenceFields
          ((eventDifference expected observed).2 ++
            (canonicalDifferences expected observed).2 ++ timing) d ↔
          behindDifference expected observed f = true ∧ fieldKind f = d := by
      intro d hd f
      refine mem_differenceFields htiming ?_
      rw [List.mem_append, mem_eventDifference h1, hs] at hd
      simpa using hd
    simp only [observedMatchesPreviousExpected, Bool.and_eq_true, Bool.not_eq_true',
        List.all_eq_true,
      List.isEmpty_eq_false_iff, decide_eq_true_eq, lookup_expectedComparisonValues,
        Option.some.injEq, hs, true_and]
    constructor
    · rintro ⟨-, hall⟩ f hb
      have hd := (mem_differences h1 hs).mpr ⟨f, hb, rfl⟩
      exact ((hall _ hd).2 f ((hfields _ hd f).mpr ⟨hb, rfl⟩)).symm
    · intro hall
      refine ⟨?_, fun d hd => ?_⟩
      · obtain ⟨f, hb⟩ := hdiff
        exact List.ne_nil_of_mem ((mem_differences h1 hs).mpr ⟨f, hb, rfl⟩)
      · obtain ⟨f, hbk⟩ := (mem_differences h1 hs).mp hd
        refine ⟨List.ne_nil_of_mem ((hfields d hd f).mpr hbk), fun g hg => ?_⟩
        exact (hall g ((hfields d hd g).mp hg).1).symm

/-- A difference is found exactly if a field is behind one. -/
theorem differences_eq_nil (h1 : OneActiveEvent observed) :
    ((eventDifference expected observed).1.toList ++
      (canonicalDifferences expected observed).1).isEmpty = true ↔
      ∀ f, behindDifference expected observed f = false := by
  rw [List.isEmpty_iff, List.eq_nil_iff_forall_not_mem]
  by_cases hs : eventStillPresent expected observed = true
  · have hb : behindDifference expected observed .eventExists = true := by
      simp [behindDifference, hs]
    constructor
    · intro h
      exact absurd (List.mem_append_left _ ((mem_eventDifference h1).mpr (.inr ⟨rfl, hs⟩))) (h _)
    · intro h
      rw [h] at hb
      cases hb
  · rw [Bool.not_eq_true] at hs
    simp only [mem_differences h1 hs]
    constructor
    · intro h f
      rw [← Bool.not_eq_true]
      exact fun hb => h _ ⟨f, hb, rfl⟩
    · rintro h d ⟨f, hb, -⟩
      rw [h f] at hb
      cases hb

/-- A delay is no kind of difference. -/
theorem feishuDelay_not_mem (h1 : OneActiveEvent observed) :
    DifferenceType.feishuDelay ∉
      (eventDifference expected observed).1.toList ++
        (canonicalDifferences expected observed).1 := by
  rw [List.mem_append, mem_eventDifference h1, mem_canonicalDifferences]
  rintro ((⟨h, -⟩ | ⟨h, -⟩) | ⟨f, -, -, h⟩)
  · cases h
  · cases h
  · cases f <;> cases h

end Behind

/-- The keys of the timing details. -/
theorem timing_keys {l a m : ℤ} (g : ComparisonField) :
    g.name ∉ [("feishu_latency_seconds", Detail.duration l),
      ("feishu_timestamp_skew_seconds", .duration a),
      ("allowed_feishu_delay_seconds", .duration m)].map (·.1) := by
  cases g <;> simp [ComparisonField.name]

/-- What is reported under one active event at most: a delay exactly if the times are close, no
event is still present and every field behind a difference shows the preceding value. -/
theorem compareStates_delay {expected prev : ExpectedAutomationState}
    {observed : ObservedAutomationState}
    {expectedAt : Option DateTime} {maxFeishuDelay : ℤ} {e o : DateTime}
    (hprev : expected.previousState = some (expectedComparisonValues prev))
    (hdev : expected.deviceId = observed.deviceId)
    (hat : (expected.expectedAt <|> expectedAt) = some e)
    (hobs : observed.observedAt = some o) (h1 : OneActiveEvent observed) :
    ∃ diff, compareStates expected observed expectedAt maxFeishuDelay = .ok diff ∧
      (diff.matched = false ↔ ∃ f, behindDifference expected observed f = true) ∧
      (diff.differenceType = [.feishuDelay] ↔ (∃ f, behindDifference expected observed f = true) ∧
        |e.instant - o.instant| ≤ maxFeishuDelay ∧ eventStillPresent expected observed = false ∧
        ∀ f, behindDifference expected observed f = true → observed.get f = prev.get f) := by
  have hshape : legacyShape expected observed expectedAt = false := by simp [legacyShape, hprev]
  have hdup : (eventDifference expected observed).1 ≠ some .eventDuplicated := by
    intro h
    have hmem : DifferenceType.eventDuplicated ∈ (eventDifference expected observed).1.toList :=
      Option.mem_toList.mpr h
    rw [mem_eventDifference h1] at hmem
    simp at hmem
  simp only [compareStates, hdev, ne_eq, not_true_eq_false, if_false, hshape,
    Bool.false_eq_true, hdup]
  by_cases hnil : ((eventDifference expected observed).1.toList ++
      (canonicalDifferences expected observed).1).isEmpty = true
  · have hnone := (differences_eq_nil h1).mp hnil
    rw [if_pos hnil]
    refine ⟨_, rfl, ?_, ?_⟩ <;> simp [hnone]
  · have hsome : ∃ f, behindDifference expected observed f = true := by
      by_contra hno
      refine hnil ((differences_eq_nil h1).mpr fun f => ?_)
      rw [← Bool.not_eq_true]
      exact fun hb => hno ⟨f, hb⟩
    have hmatch := @observedMatchesPreviousExpected_iff _ _ prev h1 _
      (timing_keys (l := e.instant - o.instant) (a := |e.instant - o.instant|)
        (m := maxFeishuDelay)) hsome
    have hundelayed : (match (eventDifference expected observed).1 with
        | some d => [d]
        | none =>
            (eventDifference expected observed).1.toList ++
              (canonicalDifferences expected observed).1) ≠
          [.feishuDelay] := by
      intro h
      have hmem : DifferenceType.feishuDelay ∉
          (eventDifference expected observed).1.toList ++
            (canonicalDifferences expected observed).1 := feishuDelay_not_mem h1
      refine hmem ?_
      cases hev : (eventDifference expected observed).1 with
      | none =>
        rw [hev] at h
        have h' : none.toList ++ (canonicalDifferences expected observed).1 = [.feishuDelay] := h
        rw [h']
        exact List.mem_singleton_self _
      | some d =>
        rw [hev] at h
        simp only [List.cons.injEq, and_true] at h
        simp [h]
    have hevidence :=
      (and_congr_right_iff (a := |e.instant - o.instant| ≤ maxFeishuDelay)).mpr fun _ => hmatch
    rw [← decide_eq_true_eq (p := |e.instant - o.instant| ≤ maxFeishuDelay), ← Bool.and_eq_true,
      decide_eq_true_eq] at hevidence
    rw [if_neg hnil, hat, hobs]
    simp only [latency, delayEvidence, hprev]
    by_cases hcond : |e.instant - o.instant| ≤ maxFeishuDelay ∧
        eventStillPresent expected observed = false ∧
        ∀ f, behindDifference expected observed f = true → observed.get f = prev.get f
    · rw [if_pos (hevidence.mpr hcond)]
      exact ⟨_, rfl, by simp [hsome], fun _ => ⟨hsome, hcond⟩, fun _ => rfl⟩
    · rw [if_neg (mt hevidence.mp hcond)]
      refine ⟨_, rfl, by simp [hsome], ?_⟩
      simp only [hcond, and_false, iff_false]
      exact hundelayed

/-- Every field behind a difference shows the value of the preceding state. -/
def ShowsPreceding (expected prev : ExpectedAutomationState)
    (observed : ObservedAutomationState) : Prop :=
  ∀ f, behindDifference expected observed f = true → observed.get f = prev.get f

/-- A reported difference is the delay exactly if the times are close and the preceding state is
what is seen, except where an event is still present. -/
theorem delay_reported_iff {expected prev : ExpectedAutomationState}
    {observed : ObservedAutomationState}
    {expectedAt : Option DateTime} {maxFeishuDelay : ℤ} {e o : DateTime}
    (hprev : expected.previousState = some (expectedComparisonValues prev))
    (hdev : expected.deviceId = observed.deviceId)
    (hat : (expected.expectedAt <|> expectedAt) = some e)
    (hobs : observed.observedAt = some o) (h1 : OneActiveEvent observed) :
    ∃ diff, compareStates expected observed expectedAt maxFeishuDelay = .ok diff ∧
      (diff.matched = false ↔ ∃ f, behindDifference expected observed f = true) ∧
      ((diff.matched = false → (diff.differenceType = [.feishuDelay] ↔
          |e.instant - o.instant| ≤ maxFeishuDelay ∧ ShowsPreceding expected prev observed)) ↔
        ¬(eventStillPresent expected observed = true ∧ |e.instant - o.instant| ≤ maxFeishuDelay ∧
          ShowsPreceding expected prev observed)) := by
  obtain ⟨diff, hdiff, hmatched, hdelay⟩ :=
    @compareStates_delay _ _ _ _ maxFeishuDelay _ _ hprev hdev hat hobs h1
  refine ⟨diff, hdiff, hmatched, ?_⟩
  by_cases hs : eventStillPresent expected observed = true
  · have hsome : ∃ f, behindDifference expected observed f = true :=
      ⟨.eventExists, by simp [behindDifference, hs]⟩
    have hno : diff.differenceType ≠ [.feishuDelay] := by
      intro h
      have hfalse := (hdelay.mp h).2.2.1
      rw [hs] at hfalse
      cases hfalse
    simp only [hmatched.mpr hsome, hno, hs, false_iff, true_and, forall_const]
  · have hfalse : eventStillPresent expected observed = false := Bool.eq_false_iff.mpr hs
    simp only [hs, Bool.false_eq_true, false_and, not_false_eq_true, iff_true]
    intro hm
    rw [hdelay]
    exact ⟨fun h => ⟨h.2.1, h.2.2.2⟩, fun h => ⟨hmatched.mp hm, h.1, hfalse, h.2⟩⟩

/-- Recovered, the event closed. -/
def closedState : ExpectedAutomationState where
  deviceId := "d"
  alarmState := "NORMAL"
  operationState := "OPERATING"
  eventExists := false
  expectedAt := some (.utc 5000000)
  previousState := some (expectedComparisonValues
    { deviceId := "d", alarmState := "RECOVERY", operationState := "OPERATING", eventExists := true })

/-- The table as it was before. -/
def lingeringState : ObservedAutomationState where
  deviceId := "d"
  alarmState := "RECOVERY"
  operationState := "OPERATING"
  eventExists := true
  activeEventCount := some 1
  observedAt := some (.utc 3000000)

/-- The alarm state alone lags. -/
def laggingState : ObservedAutomationState :=
  { lingeringState with eventExists := false, activeEventCount := some 0 }

theorem delay_reported_at_lagging :
    ∃ diff, compareStates closedState laggingState none 60000000 = .ok diff ∧
      (diff.matched = false ↔ ∃ f, behindDifference closedState laggingState f = true) ∧
      ((diff.matched = false → (diff.differenceType = [.feishuDelay] ↔
          |(5000000 : ℤ) - 3000000| ≤ 60000000 ∧ ShowsPreceding closedState
            { deviceId := "d", alarmState := "RECOVERY", operationState := "OPERATING", eventExists := true }
            laggingState)) ↔
        ¬(eventStillPresent closedState laggingState = true ∧ |(5000000 : ℤ) - 3000000| ≤ 60000000 ∧
          ShowsPreceding closedState
            { deviceId := "d", alarmState := "RECOVERY", operationState := "OPERATING", eventExists := true }
            laggingState)) :=
  delay_reported_iff (e := .utc 5000000) (o := .utc 3000000) rfl rfl rfl rfl (by
    intro n h
    obtain rfl : 0 = n := Option.some.inj h
    decide)

/-- The event of the preceding state, two seconds later, is reported as a mismatch. -/
theorem still_present_reported :
    compareStates closedState lingeringState none 60000000 =
      .ok ⟨false, [.eventStateMismatch],
        [("event_exists", .values (.flag false) (.flag true)),
          ("alarm_state", .values (.text "NORMAL") (.text "RECOVERY")),
          ("feishu_latency_seconds", .duration 2000000),
            ("feishu_timestamp_skew_seconds", .duration 2000000),
          ("allowed_feishu_delay_seconds", .duration 60000000)]⟩ ∧
      OneActiveEvent lingeringState ∧ ShowsPreceding closedState
        { deviceId := "d", alarmState := "RECOVERY", operationState := "OPERATING", eventExists := true }
        lingeringState := by
  refine ⟨by decide +kernel, ?_, ?_⟩
  · intro n h
    obtain rfl : 1 = n := Option.some.inj h
    decide
  · intro f hf
    cases f <;> rfl

end TemperatureMonitor
