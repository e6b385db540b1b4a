/-
# The messages of an event

`handle_notification_action` of the notification writer for an alarm or a
recovery, as a program of calls: the marker is read first, and the sender is
called between the marks of the attempt and of its outcome.
-/
import TemperatureMonitor.Service.EventWriter

namespace TemperatureMonitor

/-- The answer of the sender, as the writer classifies it. -/
def SendOutcome.classified (o : SendOutcome) (recipient : String) (clock : DateTime) :
    Except NotificationError String :=
  NoticeWorld.sendText { recipient := .ok none, send := o, clock } recipient

/-- A read of a table for its owner. -/
def lookedUp (subject : String) (found : Except String (Option (String × String))) :
    Except WriterFailure (Option (String × String)) :=
  found.mapError fun text => .notification
    { text := "unable to resolve Feishu " ++ subject ++ ": " ++ text, errorCode := "recipient_lookup_failed", retryable := true }

/-- `_resolve_recipient`: the owner of the record, the owner of the device, or the chat. -/
def resolveRecipient (alarmChatId : String) (e : EnvironmentEvent) (recordId : String) : EventProg (String × String) := do
  let owner ← (.perform (EventCall.eventOwner recordId) : EventProg _)
  match ← (.ofExcept (lookedUp "recipient record" owner) : EventProg _) with
  | some found => pure found
  | none => do
    let owner ← (.perform (EventCall.deviceOwner e.deviceId) : EventProg _)
    match ← (.ofExcept (lookedUp "device owner" owner) : EventProg _) with
    | some found => pure found
    | none =>
      if strip alarmChatId ≠ "" then pure (strip alarmChatId, "chat_id")
      else throw (.notification { text := "no Feishu recipient could be resolved from owner or fallback chat"
                                  errorCode := "recipient_unresolved", retryable := false })

/-- `_mark_failed`, and the exception again. -/
def failNotification (m : Message) (e : WriterFailure) : EventProg Unit := do
  let unknown := match e with
    | .notification e => e.outcomeUnknown
    | _ => false
  let _ ← writeEvent
    (.effectFailed m.eventId m.key e.text (if unknown then "UNKNOWN" else "FAILED"))
  throw e

/-- The message, between its marks. -/
def sendNotification (m : Message) (attemptedAt sentAt : DateTime) (recipient : String × String) :
    EventProg Unit := do
  let _ ← writeEvent (.effectPending m.eventId m.key m.actionType.value attemptedAt)
  let outcome ← (.perform (EventCall.send recipient.1 recipient.2 m.key) : EventProg SendOutcome)
  match outcome.classified recipient.1 attemptedAt with
  | .error e => failNotification m (.notification e)
  | .ok _ => do
    let _ ← writeEvent (.effectSucceeded m.eventId m.key sentAt)
    pure ()

/-- `handle_notification_action`, for the message of an event. -/
def handleNotification (cfg : WriterConfig) (m : Message) (attemptedAt sentAt : DateTime) : EventProg Unit := do
  match ← getEvent m.eventId with
  | none =>
    throw (.notification { text := "local environment event is missing: " ++ m.eventId, errorCode := "event_missing"
                           retryable := false })
  | some e =>
    let recordId := strip (e.payload.feishuRecordId.getD "")
    if recordId = "" then
      throw (.notification { text := "event projection is not bound; notification will retry after CREATE"
                             errorCode := "event_projection_pending", retryable := true })
    else do
      let marker ← getEventEffect m.eventId m.key
      if succeeded marker then pure ()
      else do
        match ← (resolveRecipient cfg.alarmChatId e recordId).captured with
        | .error err => failNotification m err
        | .ok recipient => sendNotification m attemptedAt sentAt recipient

end TemperatureMonitor
