/-
# Requests of the remote client

One HTTP call with bounded retry, and the tenant token that every call of the
remote API carries. The token is cached by the process, whose threads share it.
Their locks only take interleavings away, so the client is a program whose calls
may be mixed with those of any other.
-/
import Mathlib.Algebra.Order.Ring.NNRat
import TemperatureMonitor.Domain.FeishuCell
import TemperatureMonitor.Library.Cost

namespace TemperatureMonitor

/-! ### Requests, responses, exceptions -/

/-- A request; the query as pairs, before `urlencode`. -/
structure HttpRequest where
  method : String
  path : String
  query : List (String × String) := []
  /-- The bearer of the `Authorization` header. -/
  token : Option String := none
  body : Option Json := none
  /-- Instead of `REQUEST_TIMEOUT_SECONDS`. -/
  timeout : Option ℚ := none

/-- A response: `json` is `none` where `response.json()` raises. A status has three digits. -/
structure HttpResponse where
  status : ℕ
  json : Option Json
  digits : 100 ≤ status := by decide

theorem success_digits : 100 ≤ 200 := by decide

/-- A response of status 200. -/
def HttpResponse.success (json : Json) : HttpResponse := ⟨200, some json, success_digits⟩

/-- A dict of `json.loads`. -/
abbrev JsonDict := List (String × Json)

/-- What may be raised in the client. -/
inductive ClientError
  /-- `requests.ConnectionError`. -/
  | connection (message : String)
  /-- `requests.Timeout`. -/
  | timeout (message : String)
  | runtime (message : String)
  | value (message : String)
  | typeError (message : String)
  | attributeError (message : String)
  | keyError (name : String)
  /-- `FeishuAPIError`. -/
  | feishuApi (result : JsonDict) (operation : String)
  /-- Any other exception. -/
  | other (message : String)

/-- `except (requests.ConnectionError, requests.Timeout)`. -/
def ClientError.network : ClientError → Bool
  | connection _ | timeout _ => true
  | _ => false

/-- `str(exc)`, given `str` of a value. -/
def ClientError.text (str : Json → String) : ClientError → String
  | connection message | timeout message | runtime message | value message | typeError message
  | attributeError message | other message => message
  | keyError name => "'" ++ name ++ "'"
  | feishuApi result operation =>
      "飞书" ++ operation ++ "失败: code=" ++ str ((result.lookup "code").getD .null) ++
      ", msg=" ++ str ((result.lookup "msg").getD .null)

/-! ### The calls of the client -/

/-- What the client asks of the network, of the clock, of the memory the
threads share and of the local database. -/
inductive ClientCall
  | send (request : HttpRequest)
  | sleep (seconds : ℚ≥0)
  | time
  | uuid4
  | cachedToken
  | storeToken (token : Json) (expire : ℚ)
  | clearToken
  | recordMissing (tableId recordId : String)
  | markRecordMissing (tableId recordId error : String)

abbrev ClientCall.Answer : ClientCall → Type
  | send _ => HttpResponse
  | time => ℚ
  | uuid4 => String
  | cachedToken => Json × ℚ
  | recordMissing .. | markRecordMissing .. => Bool
  | _ => Unit

abbrev ClientProg := Prog ClientCall ClientCall.Answer ClientError

def ask (c : ClientCall) : ClientProg c.Answer := Prog.perform c

/-- The settings the client reads; a negative number of tries is none. -/
structure ClientConfig where
  appId : String := ""
  appSecret : String := ""
  appToken : String := ""
  tableId : String := ""
  requestRetryTimes : ℕ := 3
  requestRetryBackoffSeconds : ℚ≥0 := 4 / 5
  tokenRefreshMarginSeconds : ℤ := 300
  /-- `str` of a value. -/
  str : Json → String
  /-- `str.upper`. -/
  upper : String → String
  /-- The digits of `hashlib.sha256(token)`. -/
  sha256 : String → Fin 64 → Fin 16

/-! ### Values of a response -/

/-- `int` of a text: a sign and digits. -/
def intOfText (s : String) : Option ℤ :=
  match (strip s).toList with
  | '+' :: digits => (String.ofList digits).toNat?.map Int.ofNat
  | digits => (String.ofList digits).toInt?

/-- `int(value)`. -/
def intOf : Json → Except ClientError ℤ
  | .bool b => .ok (if b then 1 else 0)
  | .number q => .ok (q.num.tdiv q.den)
  | .text s =>
    ((intOfText s).map Except.ok).getD
      (.error (.value ("invalid literal for int() with base 10: " ++ s)))
  | _ => .error (.typeError "int() argument must be a string, a bytes-like object or a real number")

/-- A value that has `.get`. -/
def dictOf : Json → Except ClientError JsonDict
  | .object fields => .ok fields
  | _ => .error (.attributeError "object has no attribute 'get'")

/-- `int(result.get("code", -1))`. -/
def codeOf (result : JsonDict) : Except ClientError ℤ :=
  intOf ((result.lookup "code").getD (.number (-1)))

/-- `result[key] = value`. -/
def setField (result : JsonDict) (key : String) (value : Json) : JsonDict :=
  if (result.lookup key).isSome then result.map fun f => if f.1 = key then (key, value) else f
  else result ++ [(key, value)]

theorem lookup_map_set (key k : String) (value : Json) (fields : JsonDict) :
    (fields.map fun f => if f.1 = key then (key, value) else f).lookup k =
      if k = key then (fields.lookup k).map fun _ => value else fields.lookup k := by
  induction fields with
  | nil => simp
  | cons f rest ih =>
    obtain ⟨name, old⟩ := f
    rw [List.map_cons]
    by_cases hname : name = key
    · subst hname
      rw [if_pos rfl]
      by_cases hk : k = name
      · subst hk
        simp
      · have hne : (k == name) = false := beq_false_of_ne hk
        rw [List.lookup_cons, List.lookup_cons, hne, ih]
    · rw [if_neg hname]
      by_cases hk : k = name
      · subst hk
        simp [hname]
      · have hne : (k == name) = false := beq_false_of_ne hk
        rw [List.lookup_cons, List.lookup_cons, hne, ih]

@[simp] theorem lookup_setField (result : JsonDict) (key k : String) (value : Json) :
    (setField result key value).lookup k = if k = key then some value else result.lookup k := by
  unfold setField
  split_ifs with hkey hk hk
  · subst hk
    rw [lookup_map_set, if_pos rfl]
    obtain ⟨old, hold⟩ := Option.isSome_iff_exists.mp hkey
    rw [hold]
    rfl
  · rw [lookup_map_set, if_neg hk]
  · subst hk
    rw [Bool.not_eq_true, Option.isSome_eq_false_iff, Option.isNone_iff_eq_none] at hkey
    rw [List.lookup_append, hkey]
    simp
  · have hne : (k == key) = false := beq_false_of_ne hk
    rw [List.lookup_append, List.lookup_cons, hne]
    simp

/-- `value == 0`. -/
def Json.isZero : Json → Bool
  | .number q => q = 0
  | .bool b => !b
  | _ => false

namespace Client

variable (cfg : ClientConfig)

/-! ### `request_with_retry` -/

/-- `REQUEST_RETRY_BACKOFF_SECONDS * (2 ** (attempt - 1))`. -/
def backoff (attempt : ℕ) : ℚ≥0 := cfg.requestRetryBackoffSeconds * 2 ^ (attempt - 1)

/-- The loop of `request_with_retry` from `attempt` on, with so many tries left. -/
def tries (request : HttpRequest) (retryTimes attempt : ℕ) (last : String) : ℕ →
    ClientProg HttpResponse
  | 0 => throw (.connection ("请求连续失败 " ++ toString retryTimes ++ " 次: " ++ last))
  | left + 1 => do
    let sent ← (ask (.send request)).captured
    match sent with
    | .ok response =>
      if (response.status = 429 ∨ 500 ≤ response.status ∧ response.status ≤ 599) ∧
          attempt < retryTimes then do
        ask (.sleep (backoff cfg attempt))
        tries request retryTimes (attempt + 1) last left
      else pure response
    | .error e =>
      if e.network then
        if attempt < retryTimes then do
          ask (.sleep (backoff cfg attempt))
          tries request retryTimes (attempt + 1) (e.text cfg.str) left
        else tries request retryTimes (attempt + 1) (e.text cfg.str) left
      else throw e

def requestWithRetry (request : HttpRequest) (attempts : Option ℕ) : ClientProg HttpResponse :=
  tries cfg request (attempts.getD cfg.requestRetryTimes)
    1 "None" (attempts.getD cfg.requestRetryTimes)

/-! ### `get_token` -/

def tokenPath : String := "https://open.feishu.cn/open-apis/auth/v3/tenant_access_token/internal"

def tokenRequest : HttpRequest where
  method := "POST"
  path := tokenPath
  body := some (.object [("app_id", .text cfg.appId), ("app_secret", .text cfg.appSecret)])

/-- What the answer of the token endpoint gives: the token and its seconds. -/
def tokenOf (response : HttpResponse) : Except ClientError (Json × ℤ) := do
  let json ← (response.json.map Except.ok).getD (.error (.runtime "Token 接口返回了非 JSON 内容"))
  let result ← dictOf json
  if response.status ≠ 200 ∨ !(result.lookup "code").any Json.isZero then
    throw (.runtime ("Token 获取失败: HTTP=" ++ toString response.status ++ ", code=" ++
      cfg.str ((result.lookup "code").getD .null) ++ ", msg=" ++
        cfg.str ((result.lookup "msg").getD .null)))
  let token ← ((result.lookup "tenant_access_token").map Except.ok).getD
    (.error (.keyError "tenant_access_token"))
  let expire ← intOf ((result.lookup "expire").getD (.number 7200))
  return (token, expire)

def getToken (attempts : Option ℕ) : ClientProg String := do
  let now ← ask .time
  let cached ← ask .cachedToken
  if cached.1.truth ∧ now < cached.2 then return cfg.str cached.1
  if cfg.appId = "" ∨ cfg.appSecret = "" then throw (.runtime "缺少飞书环境变量 APP_ID 或 APP_SECRET")
  let response ← requestWithRetry cfg (tokenRequest cfg) attempts
  let (token, expire) ← Prog.ofExcept (tokenOf cfg response)
  ask (.storeToken token (now + (max 60 (expire - cfg.tokenRefreshMarginSeconds) : ℤ)))
  return cfg.str token

end Client

end TemperatureMonitor
