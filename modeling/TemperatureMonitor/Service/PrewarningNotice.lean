/-
# The delivery of a prewarning message

`_handle_prewarning_notification` of the notification writer,
`execute_notification_task` around it, and the worker's end of the task. What
the remote reads and the sender answer is the `NoticeWorld` of an attempt; the
handler answers with the markers and the context it leaves, and with what it
raises.
-/
import TemperatureMonitor.Service.World
import TemperatureMonitor.Service.WriteGate
import TemperatureMonitor.Store.PrewarningEffects
import TemperatureMonitor.Store.Queue

namespace TemperatureMonitor

/-! ### Failures -/

/-- `FeishuNotificationError`. -/
structure NotificationError where
  text : String
  errorCode : String
  retryable : Bool
  outcomeUnknown : Bool := false
  recipient : Option String := none
deriving DecidableEq

/-- What the writer raises. -/
inductive NoticeFailure
  | notification (e : NotificationError)
  | python (e : PyError)
deriving DecidableEq

/-- `str(exc)`; a `KeyError` prints the `repr` of its text. -/
def NoticeFailure.text : NoticeFailure → String
  | notification e => e.text
  | python (.keyError text) => reprText (some text)
  | python (.valueError text) | python (.runtimeError text) | python (.integrityError text) => text

/-! ### What an attempt finds -/

/-- What `send_text` does: the message id of its response, or what it raises. -/
inductive SendOutcome
  | returned (messageId : Option String)
  | notificationError (e : NotificationError)
  | imError (text errorCode : String) (retryable outcomeUnknown : Bool)
  | raised (text : String)
deriving DecidableEq

structure NoticeWorld where
  /-- The local events have an active one of the device. -/
  activeEvent : Bool := false
  /-- The read of the remote events: what it raises, or whether one of the device is not closed. -/
  events : Except String Bool := .ok false
  /-- The read of the device table: what it raises, or the recipient its row names, with the type of
  its id. -/
  recipient : Except String (Option (String × String))
  send : SendOutcome
  /-- `datetime.now`. -/
  clock : DateTime

/-- `has_unclosed_event`. -/
def NoticeWorld.hasUnclosedEvent (w : NoticeWorld) : Except NotificationError Bool :=
  if w.activeEvent then .ok true
  else match w.events with
    | .error text => .error { text := "unable to check unresolved environmental events: " ++ text
                              errorCode := "event_closure_lookup_failed", retryable := true }
    | .ok unclosed => .ok unclosed

/-- `_resolve_device_recipient`. -/
def NoticeWorld.resolveDeviceRecipient (w : NoticeWorld) :
    Except NotificationError (String × String) :=
  match w.recipient with
  | .error text => .error { text := "unable to resolve Feishu device owner: " ++ text
                            errorCode := "recipient_lookup_failed", retryable := true }
  | .ok none => .error { text := "no device default Feishu recipient could be resolved"
                         errorCode := "recipient_unresolved", retryable := false }
  | .ok (some found) => .ok found

/-- The call of the sender, with every exception as the writer classifies it. -/
def NoticeWorld.sendText (w : NoticeWorld) (recipient : String) : Except NotificationError String :=
  match w.send with
  | .returned messageId =>
    if truthy messageId then .ok (messageId.getD "")
    else .error { text := "Feishu success response is missing message_id", errorCode := "message_id_missing"
                  retryable := false, outcomeUnknown := true, recipient := some recipient }
  | .notificationError e => .error e
  | .imError text errorCode retryable outcomeUnknown =>
    .error { text, errorCode, retryable, outcomeUnknown, recipient := some recipient }
  | .raised text =>
    .error { text, errorCode := "notification_error", retryable := true, outcomeUnknown := true
             recipient := some recipient }

/-! ### The writer -/

structure NoticeResult where
  effects : List PrewarningEffect
  context : ActionContext
  raised : Option NoticeFailure := none

/-- `_attempt_time`. -/
def ActionContext.attemptTime (c : ActionContext) (clock : DateTime) : DateTime :=
  c.notificationAttemptedAt.getD clock

/-- `a or b` of two texts of cells. -/
def textOr (a b : Option String) : String :=
  if strip (a.getD "") ≠ "" then strip (a.getD "") else strip (b.getD "")

def jsonText : Option String → Json
  | none => .null
  | some s => .text s

section Writer

variable (hasMarkers : Bool) (w : NoticeWorld) (effects : List PrewarningEffect)
  (a : ApplicationAction) (c : ActionContext)

/-- The device of the message. -/
def noticeDevice : String := textOr (some a.deviceId) c.deviceId

/-- The effect key of the message: its dedupe key. -/
def noticeKey : String := textOr a.dedupeKey c.dedupeKey

/-- The context of a failure. -/
def ActionContext.failed (c : ActionContext) (e : NotificationError)
    (recipient receiveIdType : Option String) : ActionContext :=
  { c with result := some "FAILED", errorCode := some e.errorCode, recipient, receiveIdType
           retryable := e.retryable, outcomeUnknown := e.outcomeUnknown }

/-- The metadata of a failure. -/
def failureMetadata (key : String) (e : NotificationError) (recipient : Option String) : Metadata :=
  [("dedupe_key", .text key), ("recipient", jsonText recipient), ("error_code", .text e.errorCode),
    ("retryable", .bool e.retryable)]

/-- `_mark_prewarning_failed` and `_set_context`, then the exception is raised again: without a
marker it is the repository that raises. -/
def failPrewarning (key : String) (e : NotificationError)
    (marked recipient receiveIdType : Option String) : NoticeResult :=
  match markEffectFailed effects key (c.attemptTime w.clock)
    e.text (failureMetadata key e marked) with
  | .error err => ⟨effects, c, some (.python err)⟩
  | .ok effects' => ⟨effects', c.failed e recipient receiveIdType, some (.notification e)⟩

/-- The message is sent under its key, behind a pending marker. -/
def sendPrewarning (key recipient receiveIdType : String) : NoticeResult :=
  let pending := markEffectPending effects key (noticeDevice a c)
      a.actionType.value (c.attemptTime w.clock)
    [("dedupe_key", .text key), ("recipient", .text recipient),
        ("receive_id_type", .text receiveIdType),
      ("device_id", .text (noticeDevice a c))]
  match w.sendText recipient with
  | .error e =>
    failPrewarning w pending c key e (some recipient) (some recipient) (some receiveIdType)
  | .ok messageId =>
    match markEffectSucceeded pending key w.clock
        [("dedupe_key", .text key), ("recipient", .text recipient),
            ("receive_id_type", .text receiveIdType),
          ("message_id", .text messageId), ("sent_at", .text w.clock.isoformat),
            ("result", .text "SUCCEEDED")] with
    | .error err => ⟨pending, c, some (.python err)⟩
    | .ok effects' =>
      ⟨effects', { c with result := some "SUCCEEDED", errorCode := none, recipient := some recipient
                          receiveIdType := some receiveIdType, messageId :=
                            some messageId, sentAt := some w.clock
                          retryable := false }, none⟩

/-- `_handle_prewarning_notification`. -/
def handlePrewarningNotification : NoticeResult :=
  match w.hasUnclosedEvent with
  | .error e => ⟨effects, c, some (.notification e)⟩
  | .ok true =>
    ⟨effects, { c with result := some "SUPPRESSED_UNCLOSED_EVENT", errorCode := none, retryable := false }, none⟩
  | .ok false =>
    let key := noticeKey a c
    if key = "" then
      ⟨effects, c, some (.notification { text := "prewarning notification is missing dedupe_key"
                                         errorCode := "dedupe_key_missing", retryable := false })⟩
    else if !hasMarkers then
      ⟨effects, { c with result := some "FAILED", errorCode := some "prewarning_marker_unavailable", retryable := false },
        some (.notification { text := "prewarning effect marker repository is not configured"
                              errorCode := "prewarning_marker_unavailable", retryable := false })⟩
    else match (getEffect effects key).filter (·.status = .succeeded) with
      | some marker =>
        ⟨effects, { c with result := some "ALREADY_SENT", recipient := some (strip (marker.recipient.getD ""))
                           receiveIdType := some (strip (marker.receiveIdType.getD ""))
                           messageId := some (strip (marker.messageId.getD "")), sentAt :=
                             marker.completedAt, errorCode := none
                           retryable := false }, none⟩
      | none =>
        match w.resolveDeviceRecipient with
        | .error e => failPrewarning w effects c key e none e.recipient none
        | .ok (recipient, receiveIdType) => sendPrewarning w effects a c key recipient receiveIdType

end Writer

/-! ### The task of a message -/

/-- The limits of the retries; times in microseconds. -/
structure RetryLimits where
  maxRetries : ℤ := 5
  base : ℤ := 30000000
  longest : ℤ := 600000000

/-- The delay before an attempt. -/
def RetryLimits.delay (l : RetryLimits) (attempt : ℤ) : ℤ :=
  min (max 1000000 l.base * 2 ^ (min (max (attempt - 1) 0) 20).toNat)
    (max (max 1000000 l.base) l.longest)

/-- `_retry_attempt`. -/
def TaskPayload.attempts (p : TaskPayload) : ℤ := max 0 p.retryAttempt

structure NoticeState where
  tasks : List AutomationTask := []
  effects : List PrewarningEffect := []
  alarms : String → Option AlarmState := fun _ => none

structure NoticeService where
  executor : ActionExecutor
  hasMarkers : Bool := true
  limits : RetryLimits := {}

/-- The moment of an attempt: the providers of `m`, and the writer as the handler of the message. -/
def Moment.withWriter (m : Moment) (hasMarkers : Bool) (w : NoticeWorld)
    (effects : List PrewarningEffect) : Moment :=
  { m with contextHandlers := fun actionType =>
      if isPrewarningMessage actionType then some fun a c =>
        ((handlePrewarningNotification hasMarkers w effects a c).context,
          (handlePrewarningNotification hasMarkers w effects a c).raised.map NoticeFailure.text)
      else m.contextHandlers actionType }

section Task

variable (svc : NoticeService) (m : Moment) (w : NoticeWorld) (s : NoticeState)
  (task : AutomationTask)
  (actionType : AlarmActionType) (now : DateTime)

/-- The action of the task and its context. -/
def noticeContext : ActionContext :=
  ((ContextSource.notification task actionType now).context svc.executor.mode).forAction
    (task.noticeAction actionType)

/-- The execution of the task's action. -/
def noticeExecution : Executed :=
  executeOne svc.executor (m.withWriter svc.hasMarkers w s.effects)
      (noticeContext svc task actionType now) (some now)
    (task.noticeAction actionType)

/-- The markers behind the execution. -/
def noticeEffects : List PrewarningEffect :=
  if (noticeExecution svc m w s task actionType now).handled then
    (handlePrewarningNotification svc.hasMarkers w s.effects (task.noticeAction actionType)
      (noticeContext svc task actionType now)).effects
  else s.effects

/-- `execute_notification_task`, of a prewarning message; `none` when it returns, else the text it
raises. -/
def executeNotificationTask : NoticeState × Option String :=
  let execution := (noticeExecution svc m w s task actionType now).execution
  let context := execution.context
  let after := { s with effects := noticeEffects svc m w s task actionType now }
  if execution.status = .succeeded then
    ({ after with
        alarms := persistPrewarningOutcome s.alarms
            (strip (if truthy context.deviceId then context.deviceId.getD ""
            else execution.action.deviceId)) (decide (actionType = .notifyPrewarningRecovery))
          (if truthy context.automationTaskId then context.automationTaskId
            else execution.action.taskId)
          (if truthy context.messageId then context.messageId else none) }, none)
  else
    let attempt := task.payload.attempts + 1
    let raised := (execution.error.filter (· ≠ "") <|> context.errorCode.filter (· ≠ "")).getD
      (actionType.value ++ " failed")
    if context.retryable && attempt < max 1 svc.limits.maxRetries then
      match rescheduleRunning s.tasks task (now.add (svc.limits.delay attempt)) now
          { task.payload with retryAttempt := attempt } with
      | .ok tasks => ({ after with tasks }, some raised)
      | .error _ => (after, some "reconciliation task ownership was lost")
    else (after, some raised)

/-- The worker's end of the task: a task that was put back is left. -/
def finishNotice (s : NoticeState) (raised : Option String) (finishedAt : DateTime)
    (workerId : String) : NoticeState :=
  if raised.isSome && (byId s.tasks task.taskId).any (·.status = .pending) then s
  else match finishTask s.tasks task.taskId raised finishedAt (some workerId) with
    | .ok tasks => { s with tasks }
    | .error _ => s

/-- The task from its claim to its end. -/
def runNotificationTask (finishedAt : DateTime) (workerId : String) : NoticeState :=
  finishNotice task (executeNotificationTask svc m w s task actionType now).1
    (executeNotificationTask svc m w s task actionType now).2 finishedAt workerId

end Task

end TemperatureMonitor
