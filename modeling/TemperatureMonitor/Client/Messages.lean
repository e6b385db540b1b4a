/-
# Messages and what became of them

`FeishuIMClient.send_text` sends one text, with the token of its business key as
the message's `uuid`. A `FeishuIMError` says whether the outcome is known. It is
known where nothing was sent, and where the server's last answer refuses the
message; the requests before it, if more than one try is allowed, failed on the
network or were answered with a status that asks for another try (`send_outcome`).
The scheduler allows one try, and there a known outcome is a message that was not
delivered.
-/
import Mathlib.Data.List.Infix
import TemperatureMonitor.Client.Records

namespace TemperatureMonitor

/-- `FeishuIMError`. -/
structure FeishuImError where
  message : String
  errorCode : String
  retryable : Bool
  outcomeUnknown : Bool
  httpStatus : Option ℕ := none
  result : JsonDict := []

structure ImConfig where
  baseUrl : String := "https://open.feishu.cn"
  /-- `str.lower`. -/
  lower : String → String
  /-- `json.dumps`. -/
  dumps : Json → String

/-- `marker in text`. -/
def mentions (text marker : String) : Bool := marker.toList <:+: text.toList

/-- A message that is to be sent. -/
structure ImMessage where
  receiveId : String
  receiveIdType : String
  text : String
  idempotencyKey : Option String := none
  maxAttempts : Option ℕ := none
  timeout : Option ℚ := none

namespace Client

variable (cfg : ClientConfig) (im : ImConfig)

/-- `_ALLOWED_RECEIVE_ID_TYPES`. -/
def allowedReceiveIdTypes : List String := ["open_id", "user_id", "union_id", "email", "chat_id"]

/-- The checks before anything is sent. -/
def checkMessage (m : ImMessage) : Option FeishuImError :=
  if strip m.receiveId = "" then
    some { message := "Feishu IM recipient is empty", errorCode := "invalid_recipient", retryable := false, outcomeUnknown := false }
  else if im.lower (strip m.receiveIdType) ∉ allowedReceiveIdTypes then
    some
      { message := "unsupported Feishu receive_id_type: " ++ im.lower (strip m.receiveIdType)
        errorCode := "invalid_receive_id_type", retryable := false, outcomeUnknown := false }
  else if strip m.text = "" then
    some { message := "Feishu IM message text is empty", errorCode := "invalid_message", retryable := false, outcomeUnknown := false }
  else none

/-- No token: nothing has been sent. -/
def tokenUnavailable (e : ClientError) : FeishuImError where
  message := "Feishu tenant token unavailable: " ++ e.text cfg.str
  errorCode := "token_unavailable"
  retryable :=
    ["timeout", "timed out", "connection", "tempor"].any (mentions (im.lower (e.text cfg.str)))
  outcomeUnknown := false

def imRequest (m : ImMessage) (token uuid : String) : HttpRequest where
  method := "POST"
  path := im.baseUrl ++ "/open-apis/im/v1/messages"
  query := [("receive_id_type", im.lower (strip m.receiveIdType))]
  token := some token
  body := some (.object [("receive_id", .text (strip m.receiveId)), ("msg_type", .text "text"),
    ("content", .text (im.dumps (.object [("text", .text m.text)]))), ("uuid", .text uuid)])
  timeout := m.timeout

def transportFailed (e : ClientError) : FeishuImError where
  message := "Feishu IM transport failed: " ++ e.text cfg.str
  errorCode := "network_error"
  retryable := true
  outcomeUnknown := true

/-- An answer that is no success. -/
def sendFailed (status : ℕ) (code : ℤ) (result : JsonDict) : FeishuImError :=
  let transient : Bool := code ∈ transientBitableCodes
  let retryable : Bool := (status = 429 || 500 ≤ status || transient || code = invalidTokenCode) &&
    !(status ∈ [400, 401, 403, 404] && !transient)
  { message := "Feishu IM send failed: HTTP=" ++ toString status ++ ", code=" ++ toString code ++ ", msg=" ++
      cfg.str ((result.lookup "msg").getD .null)
    errorCode :=
      if status = 429 ∨ transient then "rate_limited"
      else if status = 403 then "permission_denied"
      else if status = 401 then "unauthorized"
      else if 400 ≤ status ∧ status < 500 then "invalid_request"
      else "feishu_http_error"
    retryable
    outcomeUnknown := retryable || 500 ≤ status
    httpStatus := some status
    result }

/-- `result.get("data")`'s `message_id`, where it is a text that is not blank. -/
def messageId (result : JsonDict) : Option String :=
  match result.lookup "data" with
  | some (.object data) =>
    match data.lookup "message_id" with
    | some (.text id) => if strip id = "" then none else some id
    | _ => none
  | _ => none

/-- What the answer comes to. -/
def readAnswer (response : HttpResponse) : ClientProg (Except FeishuImError JsonDict) :=
  match response.json with
  | none =>
    pure (.error
      { message := "Feishu IM returned non-JSON content", errorCode := "invalid_response", retryable := false
        outcomeUnknown := true, httpStatus := some response.status })
  | some (.object result) => do
    let code ← Prog.ofExcept (codeOf result)
    if response.status ≠ 200 ∨ code ≠ 0 then do
      clearInvalidToken code
      pure (.error (sendFailed cfg response.status code result))
    else if (messageId result).isNone then
      pure (.error
        { message := "Feishu IM success response is missing message_id", errorCode := "message_id_missing"
          retryable := false, outcomeUnknown := true, httpStatus := some response.status, result })
    else pure (.ok result)
  | some _ =>
    pure (.error
      { message := "Feishu IM response is not an object", errorCode := "invalid_response", retryable := false
        outcomeUnknown := true, httpStatus := some response.status })

/-- The request, and what became of it. -/
def sendRequest (m : ImMessage) (token uuid : String) :
    ClientProg (Except FeishuImError JsonDict) := do
  let sent ← (requestWithRetry cfg (imRequest im m token uuid) m.maxAttempts).captured
  match sent with
  | .ok response => readAnswer cfg response
  | .error e => pure (.error (transportFailed cfg e))

/-- `send_text`: a `FeishuIMError` is a value, what else is raised ends the program. -/
def sendText (m : ImMessage) : ClientProg (Except FeishuImError JsonDict) :=
  match checkMessage im m with
  | some e => pure (.error e)
  | none => do
    let token ← (getToken cfg m.maxAttempts).captured
    match token with
    | .error e => pure (.error (tokenUnavailable cfg im e))
    | .ok token => do
      let uuid ← normalizeClientToken cfg m.idempotencyKey
      sendRequest cfg im m token uuid

/-! ### The history of a message -/

variable {cfg im} {m : ImMessage}

/-- A request that was followed by another: it failed on the network, or the status asks for another
try. -/
def Retried (answer : Except ClientError HttpResponse) : Prop :=
  match answer with
  | .ok response => response.status = 429 ∨ 500 ≤ response.status ∧ response.status ≤ 599
  | .error e => e.network = true

/-- What so many tries of a request can have been, and what they come to. -/
structure History (request : HttpRequest) (left : ℕ) (r : Except ClientError HttpResponse)
    (history : Posted) : Prop where
  bounded : history.length ≤ left
  sent : 0 < left → history ≠ []
  same : ∀ m ∈ history, m.1 = request
  answered : ∀ response, r = .ok response → ∃ pre, history = pre ++ [(request, .ok response)] ∧
    ∀ m ∈ pre, Retried m.2

theorem History.cons {request : HttpRequest} {left : ℕ} {r : Except ClientError HttpResponse}
    {history : Posted}
    {answer : Except ClientError HttpResponse} (h : History request left r history)
    (hretried : Retried answer) : History request (left + 1) r ((request, answer) :: history) where
  bounded := Nat.succ_le_succ h.bounded
  sent _ := List.cons_ne_nil _ _
  same m hm := by
    rcases List.mem_cons.mp hm with rfl | hm
    · rfl
    · exact h.same m hm
  answered response hr := by
    obtain ⟨pre, rfl, hpre⟩ := h.answered response hr
    refine ⟨(request, answer) :: pre, rfl, fun m hm => ?_⟩
    rcases List.mem_cons.mp hm with rfl | hm
    · exact hretried
    · exact hpre m hm

/-- The server's answer refuses the message. -/
def Refuses (response : HttpResponse) : Prop :=
  response.status < 500 ∧ response.status ≠ 429 ∧
      ∃ result code, response.json = some (.object result) ∧
    codeOf result = .ok code ∧ ¬ (response.status = 200 ∧ code = 0)

/-- What the requests for a message say of its outcome: a request is the same
each time, with the `uuid` of the key. -/
structure MessageTold (cfg : ClientConfig) (im : ImConfig) (m : ImMessage)
    (res : Except ClientError (Except FeishuImError JsonDict)) (history : Posted) : Prop where
  bounded : history.length ≤ m.maxAttempts.getD cfg.requestRetryTimes
  same : ∃ token uuid, TokenFor cfg m.idempotencyKey uuid ∧
    ∀ p ∈ history, p.1 = imRequest im m token uuid
  delivered : ∀ result, res = .ok (.ok result) → codeOf result = .ok 0 ∧
      (messageId result).isSome = true ∧
    ∃ pre request digits, history = pre ++ [(request, .ok ⟨200, some (.object result), digits⟩)] ∧
      ∀ p ∈ pre, Retried p.2
  refused : ∀ e, res = .ok (.error e) → e.outcomeUnknown = false → history = [] ∨
    e.retryable = false ∧ ∃ pre request response, history = pre ++ [(request, .ok response)] ∧
        Refuses response ∧
      ∀ p ∈ pre, Retried p.2
  unknown : ∀ e, res = .ok (.error e) → e.outcomeUnknown = true →
      0 < m.maxAttempts.getD cfg.requestRetryTimes →
    history ≠ []

theorem tokenFor_exists (cfg : ClientConfig) (key : Option String) :
    ∃ uuid, TokenFor cfg key uuid :=
  ⟨keyToken cfg (key.getD ""), by rintro key rfl _; rfl⟩

/-- Nothing was sent. -/
theorem MessageTold.unsent {res : Except ClientError (Except FeishuImError JsonDict)}
    (hok : ∀ result, res ≠ .ok (.ok result))
    (hknown : ∀ e, res = .ok (.error e) → e.outcomeUnknown = false) :
    MessageTold cfg im m res [] := by
  obtain ⟨uuid, huuid⟩ := tokenFor_exists cfg m.idempotencyKey
  exact
    { bounded := Nat.zero_le _
      same := ⟨"", uuid, huuid, fun _ h => absurd h List.not_mem_nil⟩
      delivered := fun result h => absurd h (hok result)
      refused := fun _ _ _ => .inl rfl
      unknown :=
        fun e h hunknown => absurd (hknown e h) (by rw [hunknown]; exact Bool.noConfusion) }

section Sent

variable {token uuid : String} {r : Except ClientError HttpResponse} {history : Posted}
  {response : HttpResponse}

/-- An error is raised after the requests. -/
theorem History.raised
    (h : History (imRequest im m token uuid) (m.maxAttempts.getD cfg.requestRetryTimes) r history)
    (huuid : TokenFor cfg m.idempotencyKey uuid) (e : ClientError) :
    MessageTold cfg im m (.error e) history where
  bounded := h.bounded
  same := ⟨token, uuid, huuid, h.same⟩
  delivered _ hres := by cases hres
  refused _ hres := by cases hres
  unknown _ hres := by cases hres

/-- The outcome is not known. -/
theorem History.unknown
    (h : History (imRequest im m token uuid) (m.maxAttempts.getD cfg.requestRetryTimes) r history)
    (huuid : TokenFor cfg m.idempotencyKey uuid) {e : FeishuImError}
    (he : e.outcomeUnknown = true) : MessageTold cfg im m (.ok (.error e)) history where
  bounded := h.bounded
  same := ⟨token, uuid, huuid, h.same⟩
  delivered _ hres := by cases hres
  refused e' hres hknown := by
    cases hres
    rw [he] at hknown
    cases hknown
  unknown _ _ _ hlimit := h.sent hlimit

theorem sendFailed_unknown (status : ℕ) (code : ℤ) (result : JsonDict) :
    (sendFailed cfg status code result).outcomeUnknown =
    ((sendFailed cfg status code result).retryable || 500 ≤ status) := rfl

theorem sendFailed_limited (code : ℤ) (result : JsonDict) :
    (sendFailed cfg 429 code result).retryable = true := by
  unfold sendFailed
  simp

/-- An answer that is no success and no reason for another try refuses the message. -/
theorem sendFailed_known {status : ℕ} {code : ℤ} {result : JsonDict}
    (h : (sendFailed cfg status code result).outcomeUnknown = false) :
    (sendFailed cfg status code result).retryable = false ∧ status < 500 ∧ status ≠ 429 := by
  rw [sendFailed_unknown, Bool.or_eq_false_iff, decide_eq_false_iff_not] at h
  refine ⟨h.1, not_le.mp h.2, ?_⟩
  rintro rfl
  rw [sendFailed_limited] at h
  exact Bool.noConfusion h.1

/-- The server says that the message is not sent. -/
theorem History.failed
    (h : History (imRequest im m token uuid) (m.maxAttempts.getD cfg.requestRetryTimes)
      (.ok response) history)
    (huuid : TokenFor cfg m.idempotencyKey uuid) {result : JsonDict} {code : ℤ}
    (hjson : response.json = some (.object result))
    (hcode : codeOf result = .ok code) (hfail : response.status ≠ 200 ∨ code ≠ 0) :
    MessageTold cfg im m (.ok (.error (sendFailed cfg response.status code result))) history where
  bounded := h.bounded
  same := ⟨token, uuid, huuid, h.same⟩
  delivered _ hres := by cases hres
  refused e hres hknown := by
    obtain rfl := Except.error.inj (Except.ok.inj hres)
    obtain ⟨hretry, hlt, hne⟩ := sendFailed_known hknown
    obtain ⟨pre, rfl, hpre⟩ := h.answered response rfl
    refine .inr ⟨hretry, pre, _, response, rfl, ⟨hlt, hne, result, code, hjson, hcode, ?_⟩, hpre⟩
    rintro ⟨hstatus, hzero⟩
    exact hfail.elim (absurd hstatus) (absurd hzero)
  unknown _ _ _ hlimit := h.sent hlimit

/-- The message is delivered. -/
theorem History.delivered
    (h : History (imRequest im m token uuid) (m.maxAttempts.getD cfg.requestRetryTimes)
      (.ok response) history)
    (huuid : TokenFor cfg m.idempotencyKey uuid) {result : JsonDict}
    (hjson : response.json = some (.object result))
    (hcode : codeOf result = .ok 0) (hstatus : response.status = 200)
    (hid : (messageId result).isSome = true) : MessageTold cfg im m (.ok (.ok result)) history where
  bounded := h.bounded
  same := ⟨token, uuid, huuid, h.same⟩
  delivered result' hres := by
    obtain rfl := Except.ok.inj (Except.ok.inj hres)
    obtain ⟨pre, hhistory, hpre⟩ := h.answered response rfl
    obtain ⟨status, json, digits⟩ := response
    obtain rfl : status = 200 := hstatus
    obtain rfl : json = some (.object result) := hjson
    exact ⟨hcode, hid, pre, _, digits, hhistory, hpre⟩
  refused _ hres := by cases hres
  unknown _ hres := by cases hres

end Sent

end Client
end TemperatureMonitor
