/-
# Operations and their observations

`domain/operation.py` and the `OperationState` of `domain/models.py`, which
checks its fields when it is built: the structure carries what the check found.
-/
import TemperatureMonitor.Domain.Models

namespace TemperatureMonitor

inductive OperationStatus
  | idle | operating | notApplicable
deriving DecidableEq

inductive OperationAction
  | startOperation | switchOperation | endOperation
deriving DecidableEq

structure OperationObservation where
  deviceId : String
  areaId : String
  action : OperationAction
  operationType : Option String
  workOrder : Option String
  sourceRecordId : String
  sourceCreatedAt : DateTime
  observedAt : DateTime
  initiatorId : Option String := none
  initiatorIdType : Option String := none
  initiatorName : Option String := none
  registrationNumber : Option String := none
  note : Option String := none
deriving DecidableEq

/-- `is_newer_operation`. -/
def isNewerOperation (incoming : OperationObservation)
    (current : Option OperationObservation) : Bool :=
  match current with
  | none => true
  | some c => c.sourceCreatedAt.instant < incoming.sourceCreatedAt.instant

/-- An operation state that passed its checks. -/
structure OperationState where
  areaId : String
  state : OperationStatus
  operationType : Option String
  workOrder : Option String
  startedAt : Option DateTime
  endedAt : Option DateTime
  area : blank areaId = false
  started : endedAt.isSome = true → startedAt.isSome = true
  ordered : ∀ s e, startedAt = some s → endedAt = some e → s.instant ≤ e.instant

/-- `OperationState(...)`, with `__post_init__`. -/
def OperationState.ofFields (areaId : String) (state : OperationStatus)
    (operationType workOrder : Option String)
    (startedAt endedAt : Option DateTime) : Except PyError OperationState :=
  if harea : blank areaId = true then .error (.valueError "area_id cannot be empty")
  else if hstarted : endedAt.isSome = true ∧ startedAt = none then
    .error (.valueError "ended_at requires started_at")
  else if hordered : ∃ s ∈ startedAt, ∃ e ∈ endedAt, e.instant < s.instant then
    .error (.valueError "ended_at cannot precede started_at")
  else .ok
    { areaId, state, operationType, workOrder, startedAt, endedAt
      area := Bool.eq_false_iff.mpr harea
      started := fun he => by
        cases hs : startedAt with
        | none => exact absurd ⟨he, hs⟩ hstarted
        | some s => rfl
      ordered := fun s e hs he => not_lt.mp fun hlt => hordered ⟨s, hs, e, he, hlt⟩ }

/-- The checks pass exactly for the fields of an operation state. -/
theorem OperationState.ofFields_ok (s : OperationState) :
    OperationState.ofFields s.areaId s.state s.operationType s.workOrder s.startedAt s.endedAt =
      .ok s := by
  have hstarted : ¬(s.endedAt.isSome = true ∧ s.startedAt = none) := by
    rintro ⟨he, hs⟩
    have hsome := s.started he
    rw [hs] at hsome
    cases hsome
  have hordered : ¬∃ a ∈ s.startedAt, ∃ e ∈ s.endedAt, e.instant < a.instant := by
    rintro ⟨a, ha, e, he, hlt⟩
    exact absurd (s.ordered a e ha he) (not_le.mpr hlt)
  unfold OperationState.ofFields
  rw [dif_neg (by rw [s.area]; decide), dif_neg hstarted, dif_neg hordered]

end TemperatureMonitor
