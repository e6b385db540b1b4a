/-
# The prewarning episode of a transition

`_apply_prewarning_transition` adds the near-limit advisory to a transition
of the state machine. An episode has an id, kept while the advisory is hidden
by a breach; a new id is a fresh `uuid4` (`newId`).
-/
import TemperatureMonitor.Domain.AlarmMachine

namespace TemperatureMonitor

/-- What `unclosed_event_provider` does when it is asked. -/
inductive UnclosedLookup
  | answered (blocked : Bool)
  | raised
deriving DecidableEq

/-- Nothing may be advised while business closure is unknown. -/
def UnclosedLookup.blocked : UnclosedLookup → Bool
  | answered b => b
  | raised => true

/-- Hide the advisory and keep its episode. -/
def hidePrewarning (previous next : AlarmState) : AlarmState :=
  { next with
    prewarningActive := false
    prewarningStartedAt := previous.prewarningStartedAt
    prewarningReasons := previous.prewarningReasons
    prewarningDetails := previous.prewarningDetails
    prewarningEpisodeId := previous.prewarningEpisodeId
    prewarningStandardId := previous.prewarningStandardId
    prewarningStandardRevision := previous.prewarningStandardRevision
    prewarningNotifyTaskId := previous.prewarningNotifyTaskId
    prewarningMessageId := previous.prewarningMessageId
    prewarningRecoveredAt := previous.prewarningRecoveredAt
    prewarningRecoveryTaskId := previous.prewarningRecoveryTaskId
    prewarningRecoveryMessageId := previous.prewarningRecoveryMessageId }

/-- Suspend the advisory of a device that is not to be monitored now. -/
def suspendPrewarning (next : AlarmState) : AlarmState :=
  { next with
    prewarningActive := false
    prewarningReasons := []
    prewarningDetails := []
    prewarningRecoveredAt := none }

/-- Drop the advisory and its episode: an event of the device is open. -/
def blockPrewarning (next : AlarmState) : AlarmState :=
  { next with
    prewarningActive := false
    prewarningStartedAt := none
    prewarningEpisodeId := none
    prewarningReasons := []
    prewarningDetails := []
    prewarningMessageId := none
    prewarningNotifyTaskId := none
    prewarningRecoveredAt := none
    prewarningRecoveryTaskId := none
    prewarningRecoveryMessageId := none }

/-- Enter or stay in the episode. -/
def enterPrewarning (result : MonitorResult) (now : DateTime) (newId : String)
    (previous next : AlarmState) : AlarmState :=
  { next with
    prewarningActive := true
    prewarningStartedAt :=
      match previous.prewarningEpisodeId, previous.prewarningStartedAt with
      | some _, some started => some started
      | _, _ => some now
    prewarningEpisodeId := some (previous.prewarningEpisodeId.getD newId)
    prewarningReasons := result.prewarningReasons
    prewarningDetails := result.prewarningDetails
    prewarningStandardId := result.standardId
    prewarningStandardRevision := result.standardRevision
    prewarningRecoveredAt := none }

/-- The advisory is over. -/
def clearPrewarning (now : DateTime) (previous next : AlarmState) : AlarmState :=
  { next with
    prewarningActive := false
    prewarningStartedAt := none
    prewarningEpisodeId := none
    prewarningReasons := []
    prewarningDetails := []
    prewarningRecoveredAt := some now
    prewarningStandardId := previous.prewarningStandardId
    prewarningStandardRevision := previous.prewarningStandardRevision }

/-- The lookup is made when there is something to advise or to clear. -/
def unclosedBlocks (result : MonitorResult) (previous : AlarmState)
    (unclosed : Option UnclosedLookup) : Bool :=
  (result.prewarningReasons ≠ [] || previous.prewarningActive) && unclosed.any (·.blocked)

/-- A breach, or a lifecycle state other than NORMAL. -/
def Breached (result : MonitorResult) (tr : StateTransition) : Prop :=
  result.overallStatus = .violation ∨ tr.next.state ≠ .normal

instance (result : MonitorResult) (tr : StateTransition) : Decidable (Breached result tr) := by
  unfold Breached
  infer_instance

/-- `_apply_prewarning_transition`. -/
def applyPrewarningTransition (result : MonitorResult) (now : DateTime) (newId : String)
    (unclosed : Option UnclosedLookup) (tr : StateTransition) : StateTransition :=
  let previous := tr.previous
  let next := tr.next
  if Breached result tr then
    -- a real breach hides the advisory and keeps its episode
    if previous.prewarningActive then { tr with next := hidePrewarning previous next } else tr
  else if result.overallStatus ≠ .normal then
    if result.applicability = .notApplicable ∧ previous.prewarningActive then
      { tr with next := suspendPrewarning next }
    else tr
  else if unclosedBlocks result previous unclosed then { tr with next := blockPrewarning next }
  else if result.prewarningReasons ≠ [] then
    { tr with
      next := enterPrewarning result now newId previous next
      actions := if previous.prewarningActive then tr.actions
        else tr.actions ++ [{ actionType := .notifyPrewarning, deviceId := next.deviceId }] }
  else if previous.prewarningActive then
    { tr with
      next := clearPrewarning now previous next
      actions :=
        tr.actions ++ [{ actionType := .notifyPrewarningRecovery, deviceId := next.deviceId }] }
  else tr

/-- The two messages of the advisory. -/
def isPrewarningMessage (t : AlarmActionType) : Bool :=
  t = .notifyPrewarning ∨ t = .notifyPrewarningRecovery

/-! ### Everything the advisory can do -/

/-- The branches of the advisory, with their guards. -/
inductive PrewarningMove (result : MonitorResult) (now : DateTime) (newId : String)
    (unclosed : Option UnclosedLookup) (tr : StateTransition) : StateTransition → Prop
  | hidden : Breached result tr → tr.previous.prewarningActive = true →
      PrewarningMove result now newId unclosed tr
        { tr with next := hidePrewarning tr.previous tr.next }
  | breached : Breached result tr → tr.previous.prewarningActive = false →
      PrewarningMove result now newId unclosed tr tr
  | suspended : ¬ Breached result tr → result.overallStatus = .unknown →
      result.applicability = .notApplicable → tr.previous.prewarningActive = true →
      PrewarningMove result now newId unclosed tr { tr with next := suspendPrewarning tr.next }
  | unknown : ¬ Breached result tr → result.overallStatus = .unknown →
      ¬ (result.applicability = .notApplicable ∧ tr.previous.prewarningActive = true) →
      PrewarningMove result now newId unclosed tr tr
  | blocked : ¬ Breached result tr → result.overallStatus = .normal →
      unclosedBlocks result tr.previous unclosed = true →
      PrewarningMove result now newId unclosed tr { tr with next := blockPrewarning tr.next }
  | entered : ¬ Breached result tr → result.overallStatus = .normal →
      unclosedBlocks result tr.previous unclosed = false → result.prewarningReasons ≠ [] →
      tr.previous.prewarningActive = false →
      PrewarningMove result now newId unclosed tr
        { tr with
          next := enterPrewarning result now newId tr.previous tr.next
          actions :=
            tr.actions ++ [{ actionType := .notifyPrewarning, deviceId := tr.next.deviceId }] }
  | stayed : ¬ Breached result tr → result.overallStatus = .normal →
      unclosedBlocks result tr.previous unclosed = false → result.prewarningReasons ≠ [] →
      tr.previous.prewarningActive = true →
      PrewarningMove result now newId unclosed tr
        { tr with next := enterPrewarning result now newId tr.previous tr.next }
  | cleared : ¬ Breached result tr → result.overallStatus = .normal →
      unclosedBlocks result tr.previous unclosed = false → result.prewarningReasons = [] →
      tr.previous.prewarningActive = true →
      PrewarningMove result now newId unclosed tr
        { tr with
          next := clearPrewarning now tr.previous tr.next
          actions := tr.actions ++
            [{ actionType := .notifyPrewarningRecovery, deviceId := tr.next.deviceId }] }
  | quiet : ¬ Breached result tr → result.overallStatus = .normal →
      result.prewarningReasons = [] → tr.previous.prewarningActive = false →
      PrewarningMove result now newId unclosed tr tr

section Move

variable {result : MonitorResult} {now : DateTime} {newId : String}
  {unclosed : Option UnclosedLookup}
  {tr tr' : StateTransition}

theorem applyPrewarning_move (result : MonitorResult) (now : DateTime) (newId : String)
    (unclosed : Option UnclosedLookup) (tr : StateTransition) :
    PrewarningMove result now newId unclosed tr
      (applyPrewarningTransition result now newId unclosed tr) := by
  unfold applyPrewarningTransition
  simp only
  by_cases hb : Breached result tr
  · rw [if_pos hb]
    cases ha : tr.previous.prewarningActive with
    | true => exact .hidden hb ha
    | false => exact .breached hb ha
  rw [if_neg hb]
  by_cases hn : result.overallStatus = .normal
  · rw [if_neg (not_not.mpr hn)]
    cases hu : unclosedBlocks result tr.previous unclosed with
    | true => exact .blocked hb hn hu
    | false =>
      by_cases hr : result.prewarningReasons = []
      · cases ha : tr.previous.prewarningActive with
        | true => simpa [hr] using PrewarningMove.cleared hb hn hu hr ha
        | false => simpa [hr] using PrewarningMove.quiet hb hn hr ha
      · cases ha : tr.previous.prewarningActive with
        | true => simpa [hr] using PrewarningMove.stayed hb hn hu hr ha
        | false => simpa [hr] using PrewarningMove.entered hb hn hu hr ha
  · rw [if_pos hn]
    have hk : result.overallStatus = .unknown := by
      cases hs : result.overallStatus with
      | normal => exact absurd hs hn
      | violation => exact absurd (.inl hs) hb
      | unknown => rfl
    split_ifs with hna
    · exact .suspended hb hk hna.1 hna.2
    · exact .unknown hb hk hna

/-- The parts of a state that belong to the alarm lifecycle. -/
structure SameFormal (a b : AlarmState) : Prop where
  deviceId : b.deviceId = a.deviceId
  state : b.state = a.state
  violationStartedAt : b.violationStartedAt = a.violationStartedAt
  alarmStartedAt : b.alarmStartedAt = a.alarmStartedAt
  recoveryStartedAt : b.recoveryStartedAt = a.recoveryStartedAt
  activeAlarmId : b.activeAlarmId = a.activeAlarmId
  pendingTaskId : b.pendingTaskId = a.pendingTaskId

theorem SameFormal.refl (a : AlarmState) : SameFormal a a := ⟨rfl, rfl, rfl, rfl, rfl, rfl, rfl⟩

/-- The advisory changes no part of the alarm lifecycle. -/
theorem PrewarningMove.formal (h : PrewarningMove result now newId unclosed tr tr') :
    SameFormal tr.next tr'.next := by
  cases h <;> exact ⟨rfl, rfl, rfl, rfl, rfl, rfl, rfl⟩

theorem PrewarningMove.previous (h : PrewarningMove result now newId unclosed tr tr') :
    tr'.previous = tr.previous := by
  cases h <;> rfl

theorem PrewarningMove.reason (h : PrewarningMove result now newId unclosed tr tr') :
    tr'.reason = tr.reason := by
  cases h <;> rfl

/-- What the advisory adds to the actions: one message at most, while NORMAL. -/
theorem PrewarningMove.actions (h : PrewarningMove result now newId unclosed tr tr') :
    tr'.actions = tr.actions ∨ tr.next.state = .normal ∧ ∃ message,
      isPrewarningMessage message = true ∧
        tr'.actions = tr.actions ++ [{ actionType := message, deviceId := tr.next.deviceId }] := by
  have hnormal : ¬ Breached result tr → tr.next.state = .normal := fun hb =>
    not_not.mp fun hs => hb (.inr hs)
  cases h with
  | entered hb => exact .inr ⟨hnormal hb, .notifyPrewarning, rfl, rfl⟩
  | cleared hb => exact .inr ⟨hnormal hb, .notifyPrewarningRecovery, rfl, rfl⟩
  | _ => exact .inl rfl

end Move

end TemperatureMonitor
