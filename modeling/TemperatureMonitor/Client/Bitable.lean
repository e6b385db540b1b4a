/-
# Requests to the remote tables

`_request_bitable_json` retries a refused token, a rate limit, a conflict and a
broken connection, each try with a token of its own. Whatever is answered, a
request of `n` tries sends at most `n` requests to the table and `n * n` for the
token (`request_budget`), and a request that is bounded to one try never sleeps.
-/
import Mathlib.Tactic.Linarith
import Mathlib.Tactic.Ring
import TemperatureMonitor.Client.Http

namespace TemperatureMonitor

/-- The arguments of `_request_bitable_json`. -/
structure BitableRequest where
  method : String
  path : String
  query : List (String × String) := []
  operation : String
  jsonData : Option Json := none
  maxAttempts : Option ℕ := none
  timeout : Option ℚ := none

/-- The request that is sent, with its token. -/
def BitableRequest.http (r : BitableRequest) (token : String) : HttpRequest where
  method := r.method
  path := r.path
  query := r.query
  token := some token
  body := r.jsonData
  timeout := r.timeout

/-- `_TRANSIENT_BITABLE_CODES`. -/
def transientBitableCodes : List ℤ := [1254290, 1254291, 1254607, 1255040]

/-- The code of a token that is not valid. -/
def invalidTokenCode : ℤ := 99991663

/-- A response after which the same request may be tried again. -/
def transientAnswer (status : ℕ) (code : ℤ) : Bool :=
  status = 429 || 500 ≤ status || code ∈ transientBitableCodes

namespace Client

variable (cfg : ClientConfig)

/-- `attempts_limit`. -/
def attemptsLimit (r : BitableRequest) : ℕ := r.maxAttempts.getD (max 1 cfg.requestRetryTimes)

/-- What is returned for a response that is no JSON. -/
def nonJsonResult (r : BitableRequest) (status : ℕ) : JsonDict :=
  [("code", .number (-2)), ("msg", .text ("飞书" ++ r.operation ++ "接口返回了非 JSON 内容")),
    ("http_status", .number status)]

/-- What is returned when the tries are used up. -/
def failedResult (r : BitableRequest) : JsonDict :=
  [("code", .number (-3)), ("msg", .text ("飞书" ++ r.operation ++ "失败"))]

/-- What is returned for a success that is none for HTTP. -/
def httpFailure (result : JsonDict) (status : ℕ) : JsonDict :=
  setField (setField result "code" (.number (-status))) "msg" (.text ("HTTP " ++ toString status))

/-- The cached token is dropped when the server refused one. -/
def clearInvalidToken (code : ℤ) : ClientProg Unit :=
  if code = invalidTokenCode then ask .clearToken else pure ()

/-- The loop of `_request_bitable_json` from `attempt` on, with so many tries left. -/
def bitableAttempts (r : BitableRequest) (attempt : ℕ) (tokenRefreshed : Bool) : ℕ →
    ClientProg JsonDict
  | 0 => return failedResult r
  | left + 1 => do
    let token ← getToken cfg r.maxAttempts
    let sent ← (requestWithRetry cfg (r.http token) (some 1)).captured
    match sent with
    | .error e =>
      if e.network ∧ attempt < attemptsLimit cfg r then do
        ask (.sleep (backoff cfg attempt))
        bitableAttempts r (attempt + 1) tokenRefreshed left
      else throw e
    | .ok response =>
      match response.json with
      | none => return nonJsonResult r response.status
      | some json => do
        let result ← Prog.ofExcept (dictOf json)
        let code ← Prog.ofExcept (codeOf result)
        clearInvalidToken code
        -- a bounded request leaves the fresh token to the next attempt of its task
        if code = invalidTokenCode ∧ tokenRefreshed = false ∧
            (r.maxAttempts = none ∨ attempt < attemptsLimit cfg r) then
          bitableAttempts r (attempt + 1) true left
        else if transientAnswer response.status code ∧ attempt < attemptsLimit cfg r then do
          ask (.sleep (backoff cfg attempt))
          bitableAttempts r (attempt + 1) tokenRefreshed left
        else if response.status ≠ 200 ∧ code = 0 then return httpFailure result response.status
        else return result

def requestBitableJson (r : BitableRequest) : ClientProg JsonDict :=
  bitableAttempts cfg r 1 false (attemptsLimit cfg r)

/-- `_require_success`. -/
def requireSuccess (result : JsonDict) (operation : String) : Except ClientError JsonDict := do
  let code ← codeOf result
  if code ≠ 0 then throw (.feishuApi result operation)
  return result

end Client

/-- `outcome_unknown` of a `FeishuAPIError`. -/
def outcomeUnknown (result : JsonDict) : Except ClientError Bool := do
  let code ← codeOf result
  match result.lookup "http_status" with
  | none | some .null => return code ∈ transientBitableCodes || code < 0
  | some status =>
    let status ← intOf status
    return status = 429 || 500 ≤ status || code ∈ transientBitableCodes || code < 0

/-! ### What a request costs -/

/-- The calls that count are requests and pauses. -/
def ClientCall.counts : ClientCall → Bool
  | send _ | sleep _ => true
  | _ => false

namespace Client

variable {cfg : ClientConfig}
  {M : Type} [AddCommMonoid M] [PartialOrder M] [IsOrderedAddMonoid M] [CanonicallyOrderedAdd M]
  {cost : ClientCall → M}

/-- The pauses after so many tries, from `attempt` on. -/
def pauses (cfg : ClientConfig) (cost : ClientCall → M) (attempt : ℕ) : ℕ → M
  | 0 => 0
  | n + 1 => cost (.sleep (backoff cfg attempt)) + pauses cfg cost (attempt + 1) n

/-- A pause and what follows it. -/
theorem paused_within {α : Type} {p : ClientProg α} {attempt left : ℕ} {c : M} (hleft : 0 < left)
    (h : p.Within cost (left • c + pauses cfg cost (attempt + 1) (left - 1))) :
    (ask (.sleep (backoff cfg attempt)) >>= fun _ =>
      p).Within cost (left • c + pauses cfg cost attempt left) := by
  obtain ⟨n, rfl⟩ : ∃ n, left = n + 1 := ⟨left - 1, by omega⟩
  refine (Prog.within_bind (Prog.within_perform le_rfl) fun _ => h).mono (le_of_eq ?_)
  simp only [pauses, Nat.add_sub_cancel]
  rw [add_left_comm]

/-- The pauses from the next try on. -/
theorem pauses_next (attempt left : ℕ) :
    pauses cfg cost (attempt + 1) (left - 1) ≤ pauses cfg cost attempt left := by
  cases left with
  | zero => exact zero_le
  | succ n => exact le_add_of_nonneg_left zero_le

theorem tries_within {request : HttpRequest} {retryTimes : ℕ} :
    ∀ (left attempt : ℕ) (last : String),
    attempt + left = retryTimes + 1 → (tries cfg request retryTimes attempt last left).Within cost
      (left • cost (.send request) + pauses cfg cost attempt (left - 1))
  | 0, _, _, _ => Prog.within_throw _
  | left + 1, attempt, last, hleft => by
    have hsum : (left + 1) • cost (.send request) + pauses cfg cost attempt (left + 1 - 1) =
        cost (.send request) + (left • cost (.send request) + pauses cfg cost attempt left) := by
      rw [succ_nsmul', add_assoc, Nat.add_sub_cancel]
    have hrest (last : String) : (tries cfg request retryTimes (attempt + 1) last left).Within cost
        (left • cost (.send request) + pauses cfg cost (attempt + 1) (left - 1)) :=
          tries_within left (attempt + 1) last (by omega)
    rw [hsum]
    unfold tries
    refine Prog.within_bind (Prog.within_captured (Prog.within_perform le_rfl)) fun sent => ?_
    cases sent with
    | ok response =>
      dsimp only
      split_ifs with hretry
      · exact paused_within (by omega) (hrest last)
      · exact Prog.within_pure _
    | error e =>
      dsimp only
      split_ifs with hnet hretry
      · exact paused_within (by omega) (hrest _)
      · obtain rfl : left = 0 := by omega
        exact Prog.within_throw _
      · exact Prog.within_throw _

/-- What one request and its retries cost. -/
theorem requestWithRetry_within {request : HttpRequest} {attempts : Option ℕ} :
    (requestWithRetry cfg request attempts).Within cost
      (attempts.getD cfg.requestRetryTimes • cost (.send request) +
        pauses cfg cost 1 (attempts.getD cfg.requestRetryTimes - 1)) :=
  tries_within _ 1 "None" (Nat.add_comm 1 _)

section Free

variable (hfree : ∀ c, c.counts = false → cost c = 0)
include hfree

omit [IsOrderedAddMonoid M] in
theorem ask_within {c : ClientCall} (hc : c.counts = false) (b : M) : (ask c).Within cost b :=
  Prog.within_perform ((hfree c hc).trans_le zero_le)

/-- A token costs what its request costs. -/
theorem getToken_within {attempts : Option ℕ} {b : M}
    (hb : (requestWithRetry cfg (tokenRequest cfg) attempts).Within cost b) :
    (getToken cfg attempts).Within cost b := by
  have hzero : b = 0 + (0 + (b + (0 + 0))) := by simp
  rw [hzero]
  unfold getToken
  refine Prog.within_bind (ask_within hfree rfl 0) fun now =>
    Prog.within_bind (ask_within hfree rfl 0) fun cached => ?_
  split_ifs
  · exact Prog.within_pure _
  · exact Prog.within_throw _
  · refine Prog.within_bind hb fun response =>
      Prog.within_bind (Prog.within_ofExcept _) fun answer => ?_
    exact (Prog.within_bind (ask_within hfree rfl 0) fun _ =>
      Prog.within_pure _).mono (add_zero 0).le

/-- **What a request to a table costs**: each try a token and a request. -/
theorem bitableAttempts_within {r : BitableRequest} {t c : M}
    (htoken : (getToken cfg r.maxAttempts).Within cost t)
    (hsend : ∀ token, (requestWithRetry cfg (r.http token) (some 1)).Within cost c) :
    ∀ (left attempt : ℕ) (refreshed : Bool), attempt + left = attemptsLimit cfg r + 1 →
      (bitableAttempts cfg r attempt refreshed left).Within cost
        (left • (t + c) + pauses cfg cost attempt (left - 1))
  | 0, _, _, _ => Prog.within_pure _
  | left + 1, attempt, refreshed, hleft => by
    have hsum : (left + 1) • (t + c) + pauses cfg cost attempt (left + 1 - 1) =
        t + (c + (left • (t + c) + pauses cfg cost attempt left)) := by
      rw [succ_nsmul', Nat.add_sub_cancel, add_assoc, add_assoc]
    have hrest (refreshed : Bool) : (bitableAttempts cfg r (attempt + 1) refreshed left).Within cost
        (left • (t + c) + pauses cfg cost (attempt + 1) (left - 1)) :=
      bitableAttempts_within htoken hsend left (attempt + 1) refreshed (by omega)
    rw [hsum]
    unfold bitableAttempts
    refine Prog.within_bind htoken fun token =>
      Prog.within_bind (Prog.within_captured (hsend token)) fun sent => ?_
    cases sent with
    | error e =>
      dsimp only
      split_ifs with hretry
      · exact paused_within (by omega) (hrest _)
      · exact Prog.within_throw _
    | ok response =>
      dsimp only
      split
      · exact Prog.within_pure _
      · rename_i json _
        have hzero : left • (t + c) + pauses cfg cost attempt left =
            0 + (0 + (0 + (left • (t + c) + pauses cfg cost attempt left))) := by
          simp
        rw [hzero]
        refine Prog.within_bind (Prog.within_ofExcept _) fun result =>
          Prog.within_bind (Prog.within_ofExcept _) fun code => ?_
        refine Prog.within_bind ?_ fun _ => ?_
        · unfold clearInvalidToken
          split_ifs
          · exact ask_within hfree rfl 0
          · exact Prog.within_pure _
        · split_ifs with hrefresh hretry
          · exact (hrest true).mono (add_le_add_right (pauses_next attempt left) _)
          · exact paused_within (by omega) (hrest _)
          · exact Prog.within_pure _
          · exact Prog.within_pure _

end Free

/-! ### The budget of a request -/

/-- A request that carries a token is one to a table. -/
def tableRequests : ClientCall → ℕ
  | .send request => if request.token.isSome then 1 else 0
  | _ => 0

/-- A request for the token carries none. -/
def tokenRequests : ClientCall → ℕ
  | .send request => if request.token.isSome then 0 else 1
  | _ => 0

def slept : ClientCall → ℚ≥0
  | .sleep seconds => seconds
  | _ => 0

omit [PartialOrder M] [IsOrderedAddMonoid M] [CanonicallyOrderedAdd M] in
/-- Pauses that cost nothing. -/
theorem pauses_zero (hsleep : ∀ seconds, cost (.sleep seconds) = 0) :
    ∀ attempt n, pauses cfg cost attempt n = 0
  | _, 0 => rfl
  | attempt, n + 1 => by rw [pauses, hsleep, pauses_zero hsleep, add_zero]

/-- Pauses that double. -/
theorem pauses_slept (cfg : ClientConfig) : ∀ attempt n : ℕ,
    ((pauses cfg slept (attempt + 1) n : ℚ≥0) : ℚ) =
      cfg.requestRetryBackoffSeconds * 2 ^ attempt * (2 ^ n - 1)
  | _, 0 => by simp [pauses]
  | attempt, n + 1 => by
    have hrest := pauses_slept cfg (attempt + 1) n
    have hfirst : (slept (.sleep (backoff cfg (attempt + 1))) : ℚ) =
        cfg.requestRetryBackoffSeconds * 2 ^ attempt := by
      simp [slept, backoff]
    rw [pauses, NNRat.cast_add, hrest, hfirst]
    ring

theorem pauses_mono (cfg : ClientConfig) (cost : ClientCall → M) (attempt : ℕ) {m n : ℕ}
    (h : m ≤ n) : pauses cfg cost attempt m ≤ pauses cfg cost attempt n := by
  induction m generalizing attempt n with
  | zero => exact zero_le
  | succ m ih =>
    obtain ⟨k, rfl⟩ : ∃ k, n = k + 1 := ⟨n - 1, by omega⟩
    exact add_le_add_right (ih (attempt + 1) (by omega)) _

section Budget

variable {r : BitableRequest} {σ : Type}
  {does : σ → (c : ClientCall) → Except ClientError c.Answer → σ → Prop} {s s' : σ}
  {made : List (Made ClientCall ClientCall.Answer ClientError)} {p : ClientProg JsonDict}

/-- What a request costs, when each of its own requests and each pause has a price. -/
theorem requestBitableJson_within (cost : ClientCall → M) (table : M)
    (hfree : ∀ c, c.counts = false → cost c = 0)
    (htable : ∀ token, cost (.send (r.http token)) = table) :
    (requestBitableJson cfg r).Within cost
      (attemptsLimit cfg r •
        (r.maxAttempts.getD cfg.requestRetryTimes • cost (.send (tokenRequest cfg)) +
        pauses cfg cost 1 (r.maxAttempts.getD cfg.requestRetryTimes - 1) + table) +
          pauses cfg cost 1 (attemptsLimit cfg r - 1)) := by
  refine bitableAttempts_within hfree (getToken_within hfree requestWithRetry_within)
      (fun token => ?_) _ 1 false
    (Nat.add_comm 1 _)
  have hone : (requestWithRetry cfg (r.http token) (some 1)).Within cost _ :=
    requestWithRetry_within
  rw [htable token] at hone
  simpa [pauses, one_nsmul] using hone

/-- The token has no more tries than the request. -/
theorem tokenTries_le : r.maxAttempts.getD cfg.requestRetryTimes ≤ attemptsLimit cfg r := by
  unfold attemptsLimit
  cases r.maxAttempts with
  | none => exact le_max_right _ _
  | some n => exact le_rfl

/-- **The budget of a request.** Whatever is answered, `n` tries send at most
`n` requests to the table and `n * n` for the token, and the pauses between them
are those of `n + 1` loops of `n` tries. -/
theorem request_budget (h : Prog.Takes does (requestBitableJson cfg r) s made p s') :
    Prog.spent tableRequests made ≤ attemptsLimit cfg r ∧
      Prog.spent tokenRequests made ≤ attemptsLimit cfg r * attemptsLimit cfg r ∧
      ((Prog.spent slept made : ℚ≥0) : ℚ) ≤
        (attemptsLimit cfg r + 1) *
          (cfg.requestRetryBackoffSeconds * (2 ^ (attemptsLimit cfg r - 1) - 1)) := by
  have hle : r.maxAttempts.getD cfg.requestRetryTimes ≤ attemptsLimit cfg r := tokenTries_le
  refine ⟨?_, ?_, ?_⟩
  · have hcost := h.within (requestBitableJson_within tableRequests 1
      (fun c hc => by cases c <;> first | rfl | cases hc) fun _ => rfl)
    rw [pauses_zero fun _ => rfl, pauses_zero fun _ => rfl] at hcost
    have hnone : tableRequests (.send (tokenRequest cfg)) = 0 := rfl
    simpa [hnone] using hcost
  · have hcost := h.within (requestBitableJson_within tokenRequests 0
      (fun c hc => by cases c <;> first | rfl | cases hc) fun _ => rfl)
    rw [pauses_zero fun _ => rfl, pauses_zero fun _ => rfl] at hcost
    have hone : tokenRequests (.send (tokenRequest cfg)) = 1 := rfl
    simp only [hone, nsmul_eq_mul, Nat.cast_id, mul_one, add_zero] at hcost
    exact hcost.trans (Nat.mul_le_mul_left _ hle)
  · have hcost := h.within (requestBitableJson_within slept 0
      (fun c hc => by cases c <;> first | rfl | cases hc) fun _ => rfl)
    have hnone : slept (.send (tokenRequest cfg)) = 0 := rfl
    rw [hnone, nsmul_zero, zero_add, add_zero] at hcost
    have htoken := pauses_mono cfg slept 1 (Nat.sub_le_sub_right hle 1)
    have hall : Prog.spent slept made ≤
        attemptsLimit cfg r • pauses cfg slept 1 (attemptsLimit cfg r - 1) +
          pauses cfg slept 1 (attemptsLimit cfg r - 1) :=
      hcost.trans (add_le_add_left (nsmul_le_nsmul_right htoken _) _)
    have hclosed := pauses_slept cfg 0 (attemptsLimit cfg r - 1)
    rw [pow_zero, mul_one] at hclosed
    have hcast : ((Prog.spent slept made : ℚ≥0) : ℚ) ≤
        attemptsLimit cfg r * ((pauses cfg slept 1 (attemptsLimit cfg r - 1) : ℚ≥0) : ℚ) +
        ((pauses cfg slept 1 (attemptsLimit cfg r - 1) : ℚ≥0) : ℚ) := by
      exact_mod_cast (by simpa using hall)
    rw [hclosed] at hcast
    linarith

/-- A process with a token in its cache, whose requests are all answered. -/
def steady (answer : HttpRequest → HttpResponse) (_ : Unit) : (c : ClientCall) →
    Except ClientError c.Answer × Unit
  | .send request => (.ok (answer request), ())
  | .time => (.ok 0, ())
  | .uuid4 => (.ok "9b2f6c1e-4d37-4a6b-8e0f-5c1d2a7b9e34", ())
  | .cachedToken => (.ok (.text "t-1", 7200), ())
  | .recordMissing .. => (.ok false, ())
  | .markRecordMissing .. => (.ok true, ())
  | .sleep _ | .storeToken .. | .clearToken => (.ok (), ())

/-- The runs of such a process. -/
def Steady (answer : HttpRequest → HttpResponse) (s : Unit) (c : ClientCall)
    (r : Except ClientError c.Answer) (s' : Unit) : Prop :=
  (r, s') = steady answer s c

theorem takes_steady {α : Type} (answer : HttpRequest → HttpResponse) (n : ℕ) (p : ClientProg α) :
    Prog.Takes (Steady answer) p () (Prog.answered (steady answer) n p ()).1
      (Prog.answered (steady answer) n p ()).2.1
      (Prog.answered (steady answer) n p ()).2.2 :=
  Prog.takes_answered (fun _ _ => rfl) n .nil

/-- The settings of an installation; `str` of a text is the text, `str` of an integer its digits. -/
def plainConfig : ClientConfig where
  appId := "cli_a1"
  appSecret := "secret"
  appToken := "bascn1"
  tableId := "tblDevice"
  str := fun
    | .text s => s
    | .number q => toString q.num
    | _ => ""
  upper := asciiUpper
  sha256 := fun _ _ => 0

theorem unavailable_budget :
    let r : BitableRequest := { method := "GET", path := "/records", operation := "查询记录" }
    let made :=
      (Prog.answered (steady fun _ => ⟨503, some (.object [("code", .number 1)]), by decide⟩)
        20 (requestBitableJson plainConfig r) ()).1
    Prog.spent tableRequests made ≤ 3 ∧ Prog.spent tokenRequests made ≤ 3 * 3 ∧
      ((Prog.spent slept made : ℚ≥0) : ℚ) ≤ (3 + 1) * (((4 / 5 : ℚ≥0) : ℚ) * (2 ^ 2 - 1)) :=
  request_budget (takes_steady _ 20 _)

end Budget

end Client

end TemperatureMonitor
