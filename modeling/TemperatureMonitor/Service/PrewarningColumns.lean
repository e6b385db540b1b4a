/-
# The columns of a prewarning marker

A marker names the recipient of its message, the type of the recipient's id and
the id of the message in columns of its own, beside the metadata of its calls.
The columns are to hold the last value that a call brought, so that a later
attempt can say whom the message went to. They never do: a call leaves them
as it finds them (`playEffects_column`), and a marker it makes has them
NULL. So they follow the metadata exactly where no call brings anything else
than they held before, and an attempt after the message was sent reports
the recipient and the id only of a marker that held both before the sending
(`effectColumns_account`).
-/
import TemperatureMonitor.Service.PrewarningNotice

namespace TemperatureMonitor

/-! ### Calls on one marker -/

/-- A call of `SQLitePrewarningEffectRepository`. -/
inductive EffectCall
  | markPending (deviceId actionType : String) (requestedAt : DateTime) (metadata : Metadata)
  | markSucceeded (completedAt : DateTime) (metadata : Metadata)
  | markFailed (failedAt : DateTime) (error : String) (metadata : Metadata)

namespace EffectCall

def metadata : EffectCall → Metadata
  | markPending _ _ _ metadata | markSucceeded _ metadata | markFailed _ _ metadata => metadata

def on (key : String) (effects : List PrewarningEffect) : EffectCall →
    Except PyError (List PrewarningEffect)
  | markPending deviceId actionType requestedAt metadata =>
    .ok (markEffectPending effects key deviceId actionType requestedAt metadata)
  | markSucceeded completedAt metadata => markEffectSucceeded effects key completedAt metadata
  | markFailed failedAt error metadata => markEffectFailed effects key failedAt error metadata

/-- The markers after a call: one that raises has written nothing. -/
def next (key : String) (effects : List PrewarningEffect) (call : EffectCall) :
    List PrewarningEffect :=
  match call.on key effects with
  | .ok effects' => effects'
  | .error _ => effects

end EffectCall

/-- The markers after a sequence of calls on one key. -/
def playEffects (key : String) (effects : List PrewarningEffect) (calls : List EffectCall) :
    List PrewarningEffect :=
  calls.foldl (EffectCall.next key) effects

/-! ### Columns -/

inductive EffectColumn
  | recipient | receiveIdType | messageId
deriving DecidableEq

namespace EffectColumn

/-- The key of the column in the metadata. -/
def field : EffectColumn → String
  | recipient => "recipient"
  | receiveIdType => "receive_id_type"
  | messageId => "message_id"

def of : EffectColumn → PrewarningEffect → Option String
  | recipient => PrewarningEffect.recipient
  | receiveIdType => PrewarningEffect.receiveIdType
  | messageId => PrewarningEffect.messageId

end EffectColumn

/-- The value that a metadata object supplies for a column. -/
def supplied (metadata : Metadata) (column : EffectColumn) : Option Json :=
  match metadata.lookup column.field with
  | none | some .null => none
  | some value => some value

/-- The last value that the calls supplied for a column; a call that raised supplied none. -/
def latestSupplied (key : String) (column : EffectColumn) : List PrewarningEffect →
    List EffectCall → Option Json
  | _, [] => none
  | effects, call :: calls =>
    latestSupplied key column (call.next key effects) calls <|>
      match call.on key effects with
      | .ok _ => supplied call.metadata column
      | .error _ => none

section Columns

variable (effects : List PrewarningEffect) (key : String)

/-- What a column of the key holds; without a marker, nothing. -/
def heldColumn (column : EffectColumn) : Json := jsonText ((getEffect effects key).bind column.of)

/-- **The columns hold the last value supplied**, or what they held before where there was none. -/
def ColumnsFollow (calls : List EffectCall) : Prop :=
  ∀ column, heldColumn (playEffects key effects calls) key column =
    (latestSupplied key column effects calls).getD (heldColumn effects key column)

end Columns

section Calls

variable {effects effects' : List PrewarningEffect} {key key' : String} {call : EffectCall}
  {calls : List EffectCall}

/-- An upsert leaves the columns as they are, NULL where there was no marker. -/
theorem getEffect_upsert_column (v : PrewarningEffect) (column : EffectColumn) :
    (getEffect (upsertEffect effects v) v.effectKey).bind column.of =
      (getEffect effects v.effectKey).bind column.of := by
  unfold getEffect upsertEffect
  rw [rowOf_alterRow_self fun old => by cases old <;> rfl]
  cases hold : rowOf PrewarningEffect.effectKey effects v.effectKey with
  | none => cases column <;> rfl
  | some old => cases column <;> rfl

theorem getEffect_upsert_other {v : PrewarningEffect} (h : key ≠ v.effectKey) :
    getEffect (upsertEffect effects v) key = getEffect effects key := by
  unfold getEffect upsertEffect
  exact rowOf_alterRow_other (fun old => by cases old <;> rfl) h

/-- What a call does is an upsert under its key. -/
theorem EffectCall.on_ok (h : call.on key effects = .ok effects') :
    ∃ v : PrewarningEffect, v.effectKey = key ∧ effects' = upsertEffect effects v := by
  cases call with
  | markPending deviceId actionType requestedAt metadata =>
    obtain rfl := Except.ok.inj h
    exact ⟨_, rfl, rfl⟩
  | markSucceeded completedAt metadata =>
    simp only [EffectCall.on, markEffectSucceeded] at h
    split at h
    · cases h
    · obtain rfl := Except.ok.inj h
      exact ⟨_, rfl, rfl⟩
  | markFailed failedAt error metadata =>
    simp only [EffectCall.on, markEffectFailed] at h
    split at h
    · cases h
    · obtain rfl := Except.ok.inj h
      exact ⟨_, rfl, rfl⟩

theorem EffectCall.next_column (column : EffectColumn) :
    (getEffect (call.next key effects) key).bind column.of =
      (getEffect effects key).bind column.of := by
  unfold EffectCall.next
  split
  · rename_i effects' h
    obtain ⟨v, rfl, rfl⟩ := EffectCall.on_ok h
    exact getEffect_upsert_column v column
  · rfl

theorem EffectCall.next_other (h : key' ≠ key) :
    getEffect (call.next key effects) key' = getEffect effects key' := by
  unfold EffectCall.next
  split
  · rename_i effects' hon
    obtain ⟨v, rfl, rfl⟩ := EffectCall.on_ok hon
    exact getEffect_upsert_other h
  · rfl

/-- **No sequence of calls changes a column.** -/
theorem playEffects_column (column : EffectColumn) : ∀ (calls : List EffectCall)
    (effects : List PrewarningEffect),
    (getEffect (playEffects key effects calls) key).bind column.of =
      (getEffect effects key).bind column.of
  | [], _ => rfl
  | call :: calls, effects => by
    have hrest := playEffects_column column calls (call.next key effects)
    exact hrest.trans (EffectCall.next_column column)

theorem playEffects_other (h : key' ≠ key) : ∀ (calls : List EffectCall)
    (effects : List PrewarningEffect),
    getEffect (playEffects key effects calls) key' = getEffect effects key'
  | [], _ => rfl
  | call :: calls, effects => by
    have hrest := playEffects_other h calls (call.next key effects)
    exact hrest.trans (EffectCall.next_other h)

/-- The columns follow where nothing else was supplied than they held. -/
theorem columnsFollow_iff : ColumnsFollow effects key calls ↔
    ∀ column value, latestSupplied key column effects calls = some value →
      value = heldColumn effects key column := by
  have hheld : ∀ column, heldColumn (playEffects key effects calls) key column =
      heldColumn effects key column := by
    intro column
    unfold heldColumn
    rw [playEffects_column]
  constructor
  · intro h column value hvalue
    have hcolumn := h column
    rw [hheld, hvalue] at hcolumn
    exact hcolumn.symm
  · intro h column
    rw [hheld]
    cases hvalue : latestSupplied key column effects calls with
    | none => rfl
    | some value => exact (h column value hvalue).symm

end Calls

/-! ### Attempts of the handler -/

/-- An attempt to send a prewarning message, with what it finds. -/
structure NoticeAttempt where
  hasMarkers : Bool := true
  world : NoticeWorld
  action : ApplicationAction
  context : ActionContext

namespace NoticeAttempt

def key (n : NoticeAttempt) : String := noticeKey n.action n.context

def handle (n : NoticeAttempt) (effects : List PrewarningEffect) : NoticeResult :=
  handlePrewarningNotification n.hasMarkers n.world effects n.action n.context

/-- The message is sent, and recorded `SUCCEEDED`. -/
def Sends (n : NoticeAttempt) (effects : List PrewarningEffect)
    (recipient messageId : String) : Prop :=
  (n.handle effects).raised = none ∧ (n.handle effects).context.result = some "SUCCEEDED" ∧
    (n.handle effects).context.recipient = some recipient ∧
      (n.handle effects).context.messageId = some messageId

/-- The attempt comes to its marker: it could read the events, and none of the device is open. -/
def Reaches (n : NoticeAttempt) : Prop := n.hasMarkers = true ∧ n.world.hasUnclosedEvent = .ok false

/-- `ALREADY_SENT`, with the recipient and the id of a message. -/
def Reports (n : NoticeAttempt) (effects : List PrewarningEffect)
    (recipient messageId : String) : Prop :=
  (n.handle effects).raised = none ∧ (n.handle effects).context.result = some "ALREADY_SENT" ∧
    (n.handle effects).context.recipient = some recipient ∧
      (n.handle effects).context.messageId = some messageId

end NoticeAttempt

/-- The markers after some attempts. -/
def playAttempts (effects : List PrewarningEffect) (attempts : List NoticeAttempt) :
    List PrewarningEffect :=
  attempts.foldl (fun effects n => (n.handle effects).effects) effects

/-- The marker of a key holds the recipient and the id. -/
def MessageHeld (effects : List PrewarningEffect) (key recipient messageId : String) : Prop :=
  strip (((getEffect effects key).bind EffectColumn.recipient.of).getD "") = recipient ∧
    strip (((getEffect effects key).bind EffectColumn.messageId.of).getD "") = messageId

section Attempts

variable {n : NoticeAttempt} {effects : List PrewarningEffect} {key recipient messageId : String}
  {row : PrewarningEffect}

/-- A failure is a call of `mark_failed`, or none. -/
theorem failPrewarning_plays (w : NoticeWorld) (c : ActionContext) (e : NotificationError)
    (marked receiver receiveIdType : Option String) :
    ∃ calls, (failPrewarning w effects c key e marked receiver receiveIdType).effects =
      playEffects key effects calls := by
  unfold failPrewarning
  cases hfail : markEffectFailed effects key (c.attemptTime w.clock)
    e.text (failureMetadata key e marked) with
  | error err => exact ⟨[], rfl⟩
  | ok effects' =>
    refine ⟨[.markFailed (c.attemptTime w.clock) e.text (failureMetadata key e marked)], ?_⟩
    have hnext :
        (EffectCall.markFailed (c.attemptTime w.clock) e.text (failureMetadata key e marked)).next
        key effects =
        effects' := by
      simp only [EffectCall.next, EffectCall.on, hfail]
    exact hnext.symm

/-- A sending is a call of `mark_pending`, and one of its end. -/
theorem sendPrewarning_plays (w : NoticeWorld) (a : ApplicationAction) (c : ActionContext)
    (receiver receiveIdType : String) :
    ∃ calls, (sendPrewarning w effects a c key receiver receiveIdType).effects =
      playEffects key effects calls := by
  unfold sendPrewarning
  set metadata : Metadata := [("dedupe_key", .text key), ("recipient", .text receiver),
    ("receive_id_type", .text receiveIdType), ("device_id", .text (noticeDevice a c))]
  have hpending :
      ∀ calls, playEffects key (markEffectPending effects key (noticeDevice a c) a.actionType.value
        (c.attemptTime w.clock) metadata) calls =
      playEffects key effects
        (.markPending (noticeDevice a c) a.actionType.value (c.attemptTime w.clock) metadata ::
          calls) := fun _ => rfl
  cases hsend : w.sendText receiver with
  | error e =>
    obtain ⟨calls, hcalls⟩ :=
      failPrewarning_plays w c e (some receiver) (some receiver) (some receiveIdType)
    exact ⟨_, hcalls.trans (hpending calls)⟩
  | ok id =>
    simp only
    set done :
        Metadata :=
        [("dedupe_key", .text key), ("recipient", .text receiver),
          ("receive_id_type", .text receiveIdType),
      ("message_id", .text id), ("sent_at", .text w.clock.isoformat), ("result", .text "SUCCEEDED")]
    split
    · exact ⟨_, hpending []⟩
    · rename_i effects' hdone
      refine ⟨_, Eq.trans ?_ (hpending [.markSucceeded w.clock done])⟩
      simp only [playEffects, List.foldl_cons, List.foldl_nil, EffectCall.next,
        EffectCall.on, hdone]

/-- **An attempt plays calls of its key**, none where the message was sent. -/
theorem NoticeAttempt.handle_plays (n : NoticeAttempt) (effects : List PrewarningEffect) :
    ∃ calls, (n.handle effects).effects = playEffects n.key effects calls ∧
      (((getEffect effects n.key).filter (·.status = .succeeded)).isSome = true → calls = []) := by
  unfold NoticeAttempt.handle NoticeAttempt.key handlePrewarningNotification
  cases hclosure : n.world.hasUnclosedEvent with
  | error e => exact ⟨[], rfl, fun _ => rfl⟩
  | ok unclosed =>
    cases unclosed with
    | true => exact ⟨[], rfl, fun _ => rfl⟩
    | false =>
      simp only
      by_cases hkey : noticeKey n.action n.context = ""
      · rw [if_pos hkey]
        exact ⟨[], rfl, fun _ => rfl⟩
      rw [if_neg hkey]
      by_cases hmarkers : (!n.hasMarkers) = true
      · rw [if_pos hmarkers]
        exact ⟨[], rfl, fun _ => rfl⟩
      rw [if_neg hmarkers]
      cases hsent :
          (getEffect effects (noticeKey n.action n.context)).filter (·.status = .succeeded) with
      | some marker => exact ⟨[], rfl, fun _ => rfl⟩
      | none =>
        simp only [Option.isSome_none, Bool.false_eq_true, false_implies, and_true]
        cases hfound : n.world.resolveDeviceRecipient with
        | error e => exact failPrewarning_plays n.world n.context e none e.recipient none
        | ok found => exact sendPrewarning_plays n.world n.action n.context found.1 found.2

/-- An attempt leaves the marker of a message that was sent, and every column of any marker. -/
theorem NoticeAttempt.handle_keeps (n : NoticeAttempt) (h : getEffect effects key = some row)
    (hsent : row.status = .succeeded) : getEffect (n.handle effects).effects key = some row := by
  obtain ⟨calls, heq, hnone⟩ := n.handle_plays effects
  rw [heq]
  by_cases hkey : key = n.key
  · subst hkey
    have hcalls : calls = [] := hnone (by rw [h]; simp [hsent])
    rw [hcalls]
    exact h
  · rw [playEffects_other hkey]
    exact h

theorem NoticeAttempt.handle_column (n : NoticeAttempt) (column : EffectColumn) :
    (getEffect (n.handle effects).effects key).bind column.of =
      (getEffect effects key).bind column.of := by
  obtain ⟨calls, heq, -⟩ := n.handle_plays effects
  rw [heq]
  by_cases hkey : key = n.key
  · subst hkey
    exact playEffects_column column calls effects
  · rw [playEffects_other hkey]

theorem playAttempts_keeps (hsent : row.status = .succeeded) : ∀ (attempts : List NoticeAttempt)
    (effects : List PrewarningEffect), getEffect effects key = some row →
    getEffect (playAttempts effects attempts) key = some row
  | [], _, h => h
  | n :: attempts, _, h => playAttempts_keeps hsent attempts _ (n.handle_keeps h hsent)

theorem playAttempts_column (column : EffectColumn) :
    ∀ (attempts : List NoticeAttempt) (effects : List PrewarningEffect),
    (getEffect (playAttempts effects attempts) key).bind column.of =
      (getEffect effects key).bind column.of
  | [], _ => rfl
  | n :: attempts, effects => by
    have hrest := playAttempts_column column attempts (n.handle effects).effects
    exact hrest.trans (n.handle_column column)

/-! ### A message that was sent -/

theorem failPrewarning_raised (w : NoticeWorld) (c : ActionContext) (e : NotificationError)
    (marked receiver receiveIdType : Option String) :
    (failPrewarning w effects c key e marked receiver receiveIdType).raised ≠ none := by
  unfold failPrewarning
  split <;> simp

/-- A message that was sent has an id. -/
theorem sendText_ok {w : NoticeWorld} {receiver id : String} (h : w.sendText receiver = .ok id) :
    id ≠ "" := by
  unfold NoticeWorld.sendText at h
  cases hsend : w.send with
  | returned messageId =>
    rw [hsend] at h
    simp only at h
    by_cases hid : truthy messageId = true
    · rw [if_pos hid] at h
      obtain rfl := Except.ok.inj h
      cases messageId with
      | none => cases hid
      | some id => simpa [truthy] using hid
    · rw [if_neg hid] at h
      cases h
  | notificationError e => simp [hsend] at h
  | imError text errorCode retryable outcomeUnknown => simp [hsend] at h
  | raised text => simp [hsend] at h

/-- The marker of a message that was sent is `SUCCEEDED`. -/
theorem sendPrewarning_sent {w : NoticeWorld} {a : ApplicationAction} {c : ActionContext}
    {receiver receiveIdType : String}
    (hraised : (sendPrewarning w effects a c key receiver receiveIdType).raised = none) :
    ∃ id row, id ≠ "" ∧
      (sendPrewarning w effects a c key receiver receiveIdType).context.messageId = some id ∧
      getEffect (sendPrewarning w effects a c key receiver receiveIdType).effects key = some row ∧
      row.status = .succeeded := by
  unfold sendPrewarning at hraised ⊢
  cases hsend : w.sendText receiver with
  | error e =>
    simp only [hsend] at hraised
    exact absurd hraised (failPrewarning_raised w c e _ _ _)
  | ok id =>
    simp only [hsend] at hraised ⊢
    split at hraised
    · simp at hraised
    · rename_i effects' hdone
      have hend := hdone
      unfold markEffectSucceeded at hend
      split at hend
      · cases hend
      · obtain rfl := Except.ok.inj hend
        obtain ⟨row, hrow, hstatus, -⟩ := @getEffect_upsert
            (markEffectPending effects key (noticeDevice a c)
          a.actionType.value (c.attemptTime w.clock) _) _
        exact ⟨id, row, sendText_ok hsend, rfl, hrow, hstatus⟩

theorem NoticeAttempt.Sends.marker (h : n.Sends effects recipient messageId) :
    messageId ≠ "" ∧ n.key ≠ "" ∧ ∃ row, getEffect (n.handle effects).effects n.key = some row ∧
      row.status = .succeeded := by
  obtain ⟨hraised, hresult, -, hid⟩ := h
  unfold NoticeAttempt.handle NoticeAttempt.key at *
  unfold handlePrewarningNotification at hraised hresult hid ⊢
  cases hclosure : n.world.hasUnclosedEvent with
  | error e => simp [hclosure] at hraised
  | ok unclosed =>
    simp only [hclosure] at hraised hresult hid ⊢
    cases unclosed with
    | true => simp at hresult
    | false =>
      simp only at hraised hresult hid ⊢
      by_cases hkey : noticeKey n.action n.context = ""
      · simp [hkey] at hraised
      rw [if_neg hkey] at hraised hresult hid ⊢
      by_cases hmarkers : (!n.hasMarkers) = true
      · simp [hmarkers] at hraised
      rw [if_neg hmarkers] at hraised hresult hid ⊢
      cases hsent :
          (getEffect effects (noticeKey n.action n.context)).filter (·.status = .succeeded) with
      | some marker => simp [hsent] at hresult
      | none =>
        simp only [hsent] at hraised hresult hid ⊢
        cases hfound : n.world.resolveDeviceRecipient with
        | error e =>
          simp only [hfound] at hraised
          exact absurd hraised (failPrewarning_raised n.world n.context e _ _ _)
        | ok found =>
          simp only [hfound] at hraised hid ⊢
          obtain ⟨id, row, hne, hid', hrow, hstatus⟩ := sendPrewarning_sent hraised
          rw [hid'] at hid
          obtain rfl := Option.some.inj hid
          exact ⟨hne, hkey, row, hrow, hstatus⟩

/-- An attempt after the sending says what the columns hold, once it comes to the marker. -/
theorem NoticeAttempt.reports_iff (hkey : n.key ≠ "") (hrow : getEffect effects n.key = some row)
    (hsent : row.status = .succeeded) :
    n.Reports effects recipient messageId ↔ n.Reaches ∧
      MessageHeld effects n.key recipient messageId := by
  unfold NoticeAttempt.Reports NoticeAttempt.handle handlePrewarningNotification
    NoticeAttempt.Reaches
  unfold NoticeAttempt.key at hkey hrow ⊢
  cases hclosure : n.world.hasUnclosedEvent with
  | error e => simp
  | ok unclosed =>
    cases unclosed with
    | true => simp
    | false =>
      by_cases hmarkers : n.hasMarkers = true
      · simp [hmarkers, hkey, hrow, hsent, Option.filter_some, MessageHeld, EffectColumn.of]
      · simp [hmarkers, hkey]

end Attempts

/-- An attempt of a message that was sent before. -/
theorem retry_reports_iff (effects : List PrewarningEffect) (sent : NoticeAttempt)
    (recipient messageId : String)
    (later : List NoticeAttempt) (retry : NoticeAttempt)
    (hsends : sent.Sends effects recipient messageId) (hsame : retry.key = sent.key) :
    retry.Reports (playAttempts (sent.handle effects).effects later) recipient messageId ↔
      retry.Reaches ∧ MessageHeld effects sent.key recipient messageId := by
  obtain ⟨-, hkey, row, hrow, hstatus⟩ := hsends.marker
  have hlater := playAttempts_keeps hstatus later _ hrow
  rw [← hsame] at hkey hlater
  rw [NoticeAttempt.reports_iff hkey hlater hstatus, hsame]
  unfold MessageHeld
  rw [playAttempts_column, playAttempts_column, sent.handle_column, sent.handle_column]

/-- **The columns and the metadata.** -/
theorem effectColumns_account (effects : List PrewarningEffect) :
    -- the columns of a key after a sequence of calls
    (∀ key calls, ColumnsFollow effects key calls ↔
      ∀ column value, latestSupplied key column effects calls = some value →
        value = heldColumn effects key column) ∧
    -- an attempt of a message that was sent before
    (∀ (sent : NoticeAttempt) (recipient messageId : String) (later : List NoticeAttempt)
      (retry : NoticeAttempt),
      sent.Sends effects recipient messageId → retry.key = sent.key →
      (retry.Reports (playAttempts (sent.handle effects).effects later) recipient messageId ↔
        retry.Reaches ∧ MessageHeld effects sent.key recipient messageId)) ∧
    -- where the handler made every marker
    (∀ (before : List NoticeAttempt) (sent : NoticeAttempt) (recipient messageId : String)
      (later : List NoticeAttempt)
      (retry : NoticeAttempt), effects = playAttempts [] before →
      sent.Sends effects recipient messageId → retry.key = sent.key →
      ¬retry.Reports (playAttempts (sent.handle effects).effects later) recipient messageId) := by
  refine ⟨fun _ _ => columnsFollow_iff, retry_reports_iff effects,
    fun before sent recipient messageId later retry hmade hsends hsame => ?_⟩
  rw [retry_reports_iff effects sent recipient messageId later retry hsends hsame]
  rintro ⟨-, -, hid⟩
  have hcolumn := @playAttempts_column sent.key .messageId before []
  rw [hmade, hcolumn] at hid
  exact hsends.marker.1 hid.symm

/-! ### A message that was sent, and a second attempt -/

section Pilot

def sentWarning : NoticeAttempt where
  world := { recipient := .ok (some ("ou_7", "open_id")), send := .returned (some "om_9"), clock := .utc 5000000 }
  action := { actionType := .notifyPrewarning, kind := .notification, deviceId := "TH-01"
              dedupeKey := some "PREWARNING:TH-01:e7" }
  context := { deviceId := some "TH-01" }

/-- The calls of its marker. -/
def sentCalls : List EffectCall :=
  [.markPending "TH-01" "NOTIFY_PREWARNING" (.utc 4000000) [("recipient", .text "ou_7")],
    .markSucceeded (.utc 5000000) [("message_id", .text "om_9")]]

theorem columns_never_filled :
    (¬ColumnsFollow [] "PREWARNING:TH-01:e7" sentCalls) ∧
      sentWarning.Sends [] "ou_7" "om_9" ∧ sentWarning.Reaches ∧
      sentWarning.Reports (sentWarning.handle []).effects "" "" ∧
      ¬sentWarning.Reports (sentWarning.handle []).effects "ou_7" "om_9" := by
  have hagain : sentWarning.Reports (sentWarning.handle []).effects "" "" := by
    unfold NoticeAttempt.Reports
    decide +kernel
  refine ⟨fun h => ?_, ?_, ?_, hagain, fun hsent => ?_⟩
  · have hid : Json.null = .text "om_9" := h .messageId
    cases hid
  · unfold NoticeAttempt.Sends
    decide +kernel
  · exact ⟨rfl, rfl⟩
  · have hid := hagain.2.2.2.symm.trans hsent.2.2.2
    revert hid
    decide

theorem effectColumns_account_sent :
    ¬ColumnsFollow [] "PREWARNING:TH-01:e7" sentCalls ∧
      ¬sentWarning.Reports (playAttempts (sentWarning.handle []).effects [sentWarning])
        "ou_7" "om_9" := by
  constructor
  · rw [(effectColumns_account []).1]
    intro h
    have hid : Json.text "om_9" = .null := h .messageId _ rfl
    cases hid
  · refine (effectColumns_account []).2.2 [] sentWarning "ou_7" "om_9" [sentWarning]
      sentWarning rfl ?_ rfl
    unfold NoticeAttempt.Sends
    decide +kernel

end Pilot

end TemperatureMonitor
