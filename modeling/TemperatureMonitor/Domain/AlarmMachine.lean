/-
# The alarm lifecycle state machine

`AlarmStateMachine.apply`, branch for branch after
`domain/alarm_state_machine.py`, and its inversion: `Move` lists everything
one application can do, with the guard it does it under (`apply_move`). Every
invariant of the lifecycle is a case analysis of `Move`.
-/
import TemperatureMonitor.Domain.Models

namespace TemperatureMonitor

/-- The two debounce windows, in microseconds. -/
structure AlarmStateMachine where
  verifyAfter : ℤ
  recoveryAfter : ℤ
  verify_nonneg : 0 ≤ verifyAfter
  recovery_nonneg : 0 ≤ recoveryAfter

namespace AlarmStateMachine

/-- `__init__`: negative windows are refused. -/
def init (verifyAfter recoveryAfter : ℤ) : Except PyError AlarmStateMachine :=
  if hv : verifyAfter < 0 then .error (.valueError "verify_after cannot be negative")
  else if hr : recoveryAfter < 0 then .error (.valueError "recovery_after cannot be negative")
  else .ok ⟨verifyAfter, recoveryAfter, not_lt.mp hv, not_lt.mp hr⟩

/-! ### The four states -/

def same (state : AlarmState) (reason : String) (actions : List AlarmAction) : StateTransition :=
  { previous := state, next := state, actions, reason }

def cancelTaskAction (state : AlarmState) : List AlarmAction :=
  match state.pendingTaskId with
  | none => []
  | some _ => [{ actionType := .cancelVerifyTask, deviceId := state.deviceId }]

def completeTaskAction (state : AlarmState) : List AlarmAction :=
  match state.pendingTaskId with
  | none => []
  | some _ => [{ actionType := .completeVerifyTask, deviceId := state.deviceId }]

def fromNormal (m : AlarmStateMachine) (result : MonitorResult) (state : AlarmState)
    (now : DateTime) : StateTransition :=
  if result.overallStatus ≠ .violation then same state "normal_sample" []
  else
    { previous := state
      next := { deviceId := state.deviceId, state := .pending, violationStartedAt := some now }
      actions := [{ actionType := .createVerifyTask, deviceId := state.deviceId,
                    runAt := some (now.add m.verifyAfter) }]
      reason := "violation_started" }

def fromPending (m : AlarmStateMachine) (result : MonitorResult) (state : AlarmState)
    (now : DateTime) : StateTransition :=
  match result.overallStatus with
  | .unknown => same state "pending_unknown_sample" []
  | .normal =>
    { previous := state
      next := AlarmState.ofDevice state.deviceId
      actions := cancelTaskAction state
      reason := "violation_recovered_before_verification" }
  | .violation =>
    let startedAt := state.violationStartedAt.getD now
    if now.instant - startedAt.instant < m.verifyAfter then same state "verification_window_open" []
    else
      { previous := state
        next := { deviceId := state.deviceId, state := .alarm,
                  violationStartedAt := some startedAt, alarmStartedAt := some now }
        actions := completeTaskAction state ++
          [{ actionType := .createAlarmEvent, deviceId := state.deviceId }]
        reason := "violation_verified" }

def fromAlarm (m : AlarmStateMachine) (result : MonitorResult) (state : AlarmState)
    (now : DateTime) : StateTransition :=
  match result.overallStatus with
  | .violation =>
    same state "alarm_still_active" [{ actionType := .updateAlarmEvent, deviceId := state.deviceId,
                                       alarmId := state.activeAlarmId }]
  | .unknown => same state "alarm_unknown_sample" []
  | .normal =>
    if m.recoveryAfter = 0 then
      { previous := state
        next := AlarmState.ofDevice state.deviceId
        actions := [{ actionType := .markAlarmRecovered, deviceId := state.deviceId,
                      alarmId := state.activeAlarmId }]
        reason := "alarm_recovered" }
    else
      { previous := state
        next := { deviceId := state.deviceId, state := .recovery,
                  violationStartedAt := state.violationStartedAt,
                  alarmStartedAt := state.alarmStartedAt,
                  recoveryStartedAt := some now,
                  activeAlarmId := state.activeAlarmId }
        actions := [{ actionType := .startRecovery, deviceId := state.deviceId,
                      alarmId := state.activeAlarmId }]
        reason := "recovery_confirmation_started" }

def fromRecovery (m : AlarmStateMachine) (result : MonitorResult) (state : AlarmState)
    (now : DateTime) : StateTransition :=
  match result.overallStatus with
  | .violation =>
    { previous := state
      next := { deviceId := state.deviceId, state := .alarm,
                violationStartedAt := state.violationStartedAt,
                alarmStartedAt := state.alarmStartedAt,
                activeAlarmId := state.activeAlarmId }
      actions := [{ actionType := .updateAlarmEvent, deviceId := state.deviceId,
                    alarmId := state.activeAlarmId }]
      reason := "violation_returned_during_recovery" }
  | .unknown => same state "recovery_unknown_sample" []
  | .normal =>
    let startedAt := state.recoveryStartedAt.getD now
    if now.instant - startedAt.instant < m.recoveryAfter then same state "recovery_window_open" []
    else
      { previous := state
        next := AlarmState.ofDevice state.deviceId
        actions := [{ actionType := .markAlarmRecovered, deviceId := state.deviceId,
                      alarmId := state.activeAlarmId }]
        reason := "recovery_confirmed" }

/-- The next state and the actions for one evaluation. -/
def apply (m : AlarmStateMachine) (result : MonitorResult) (currentState : AlarmState)
    (now : DateTime) : Except PyError StateTransition :=
  if result.deviceId ≠ currentState.deviceId then
    .error (.valueError "result.device_id must match current_state.device_id")
  else match currentState.state with
  | .normal => .ok (fromNormal m result currentState now)
  | .pending => .ok (fromPending m result currentState now)
  | .alarm => .ok (fromAlarm m result currentState now)
  | .recovery => .ok (fromRecovery m result currentState now)

/-! ### Everything one application can do -/

/-- The moves of the machine from `s` on a result of the given status. -/
inductive Move (m : AlarmStateMachine) (status : OverallStatus) (s : AlarmState) (now : DateTime) :
    StateTransition → Prop
  | normalSample : s.state = .normal → status ≠ .violation →
      Move m status s now (same s "normal_sample" [])
  | violationStarted : s.state = .normal → status = .violation →
      Move m status s now
        { previous := s
          next := { deviceId := s.deviceId, state := .pending, violationStartedAt := some now }
          actions := [{ actionType := .createVerifyTask, deviceId := s.deviceId,
                        runAt := some (now.add m.verifyAfter) }]
          reason := "violation_started" }
  | pendingUnknown : s.state = .pending → status = .unknown →
      Move m status s now (same s "pending_unknown_sample" [])
  | pendingCleared : s.state = .pending → status = .normal →
      Move m status s now
        { previous := s, next := AlarmState.ofDevice s.deviceId, actions := cancelTaskAction s
          reason := "violation_recovered_before_verification" }
  | windowOpen : s.state = .pending → status = .violation →
      now.instant - (s.violationStartedAt.getD now).instant < m.verifyAfter →
      Move m status s now (same s "verification_window_open" [])
  | verified : s.state = .pending → status = .violation →
      m.verifyAfter ≤ now.instant - (s.violationStartedAt.getD now).instant →
      Move m status s now
        { previous := s
          next := { deviceId := s.deviceId, state := .alarm,
                    violationStartedAt := some (s.violationStartedAt.getD now),
                    alarmStartedAt := some now }
          actions :=
            completeTaskAction s ++ [{ actionType := .createAlarmEvent, deviceId := s.deviceId }]
          reason := "violation_verified" }
  | stillActive : s.state = .alarm → status = .violation →
      Move m status s now
        (same s "alarm_still_active"
          [{ actionType := .updateAlarmEvent, deviceId := s.deviceId, alarmId := s.activeAlarmId }])
  | alarmUnknown : s.state = .alarm → status = .unknown →
      Move m status s now (same s "alarm_unknown_sample" [])
  | recoveredAtOnce : s.state = .alarm → status = .normal → m.recoveryAfter = 0 →
      Move m status s now
        { previous := s, next := AlarmState.ofDevice s.deviceId
          actions := [{ actionType := .markAlarmRecovered, deviceId := s.deviceId,
                        alarmId := s.activeAlarmId }]
          reason := "alarm_recovered" }
  | recoveryStarted : s.state = .alarm → status = .normal → m.recoveryAfter ≠ 0 →
      Move m status s now
        { previous := s
          next := { deviceId := s.deviceId, state := .recovery,
                    violationStartedAt := s.violationStartedAt,
                    alarmStartedAt := s.alarmStartedAt,
                    recoveryStartedAt := some now,
                    activeAlarmId := s.activeAlarmId }
          actions :=
            [{ actionType := .startRecovery, deviceId := s.deviceId, alarmId := s.activeAlarmId }]
          reason := "recovery_confirmation_started" }
  | violationReturned : s.state = .recovery → status = .violation →
      Move m status s now
        { previous := s
          next := { deviceId := s.deviceId, state := .alarm,
                    violationStartedAt := s.violationStartedAt,
                    alarmStartedAt := s.alarmStartedAt,
                    activeAlarmId := s.activeAlarmId }
          actions :=
            [{ actionType := .updateAlarmEvent, deviceId := s.deviceId, alarmId := s.activeAlarmId }]
          reason := "violation_returned_during_recovery" }
  | recoveryUnknown : s.state = .recovery → status = .unknown →
      Move m status s now (same s "recovery_unknown_sample" [])
  | recoveryOpen : s.state = .recovery → status = .normal →
      now.instant - (s.recoveryStartedAt.getD now).instant < m.recoveryAfter →
      Move m status s now (same s "recovery_window_open" [])
  | recovered : s.state = .recovery → status = .normal →
      m.recoveryAfter ≤ now.instant - (s.recoveryStartedAt.getD now).instant →
      Move m status s now
        { previous := s, next := AlarmState.ofDevice s.deviceId
          actions := [{ actionType := .markAlarmRecovered, deviceId := s.deviceId,
                        alarmId := s.activeAlarmId }]
          reason := "recovery_confirmed" }

variable {m : AlarmStateMachine} {result : MonitorResult} {s : AlarmState} {now : DateTime}
  {tr : StateTransition}

theorem move_fromNormal (h : s.state = .normal) :
    Move m result.overallStatus s now (fromNormal m result s now) := by
  unfold fromNormal
  split_ifs with hv
  · exact .normalSample h hv
  · exact .violationStarted h (not_not.mp hv)

theorem move_fromPending (h : s.state = .pending) :
    Move m result.overallStatus s now (fromPending m result s now) := by
  unfold fromPending
  cases hst : result.overallStatus with
  | unknown => exact .pendingUnknown h rfl
  | normal => exact .pendingCleared h rfl
  | violation =>
    simp only
    split_ifs with hw
    · exact .windowOpen h rfl hw
    · exact .verified h rfl (not_lt.mp hw)

theorem move_fromAlarm (h : s.state = .alarm) :
    Move m result.overallStatus s now (fromAlarm m result s now) := by
  unfold fromAlarm
  cases hst : result.overallStatus with
  | unknown => exact .alarmUnknown h rfl
  | violation => exact .stillActive h rfl
  | normal =>
    simp only
    split_ifs with h0
    · exact .recoveredAtOnce h rfl h0
    · exact .recoveryStarted h rfl h0

theorem move_fromRecovery (h : s.state = .recovery) :
    Move m result.overallStatus s now (fromRecovery m result s now) := by
  unfold fromRecovery
  cases hst : result.overallStatus with
  | unknown => exact .recoveryUnknown h rfl
  | violation => exact .violationReturned h rfl
  | normal =>
    simp only
    split_ifs with hw
    · exact .recoveryOpen h rfl hw
    · exact .recovered h rfl (not_lt.mp hw)

/-- Whatever `apply` returns is one of the moves. -/
theorem apply_move (h : m.apply result s now = .ok tr) : Move m result.overallStatus s now tr := by
  unfold apply at h
  split_ifs at h with hd
  split at h <;> rename_i hs <;> cases h
  · exact move_fromNormal hs
  · exact move_fromPending hs
  · exact move_fromAlarm hs
  · exact move_fromRecovery hs

theorem Move.previous {status : OverallStatus} (h : Move m status s now tr) : tr.previous = s := by
  cases h <;> rfl

theorem Move.deviceId {status : OverallStatus} (h : Move m status s now tr) :
    tr.next.deviceId = s.deviceId := by
  cases h <;> rfl

/-- The sample confirms that the alarm is over. -/
def ConfirmsRecovery (m : AlarmStateMachine) (status : OverallStatus) (s : AlarmState)
    (now : DateTime) : Prop :=
  status = .normal ∧ (s.state = .alarm ∧ m.recoveryAfter = 0 ∨
    s.state = .recovery ∧ m.recoveryAfter ≤ now.instant - (s.recoveryStartedAt.getD now).instant)

instance (m : AlarmStateMachine) (status : OverallStatus) (s : AlarmState) (now : DateTime) :
    Decidable (m.ConfirmsRecovery status s now) := by
  unfold ConfirmsRecovery
  infer_instance

/-- An alarm is left for NORMAL where the sample confirms it. -/
theorem Move.confirms_iff {status : OverallStatus} (h : Move m status s now tr)
    (hs : s.state = .alarm ∨ s.state = .recovery) :
    tr.next.state = .normal ↔ m.ConfirmsRecovery status s now := by
  unfold ConfirmsRecovery
  cases h <;> simp_all [same, AlarmState.ofDevice]

end AlarmStateMachine
end TemperatureMonitor
