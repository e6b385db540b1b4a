/-
# Writes of remote records

A record is created with the token of its business key, and by one request: the
call returns only what the server confirmed, and an error that says what became
of the record is the server's own (`create_outcome`). A record that is known to be
deleted is not written again (`tombstoned_never_updated`).
-/
import TemperatureMonitor.Client.Bitable

namespace TemperatureMonitor

/-! ### `normalize_client_token` -/

/-- A digit of `uuid.UUID.__str__`. -/
def hexDigit (n : Fin 16) : Char := Char.ofNat (if n.val < 10 then 48 + n.val else 87 + n.val)

/-- A digest has a first digit. -/
instance digestNeZero : NeZero 64 := ⟨by decide⟩

/-- `str(uuid.UUID(bytes=digest[:16], version=4))`: the version and the variant are set. -/
def uuidText (digest : Fin 64 → Fin 16) : String :=
  let at' (i : Fin 64) : Char := hexDigit (digest i)
  let variant : Fin 16 := ⟨8 + (digest 16).val % 4, by omega⟩
  String.ofList
    [at' 0, at' 1, at' 2, at' 3, at' 4, at' 5, at' 6, at' 7, '-', at' 8, at' 9, at' 10, at' 11, '-',
      '4', at' 13, at' 14, at' 15, '-', hexDigit variant, at' 17, at' 18, at' 19, '-',
      at' 20, at' 21, at' 22, at' 23, at' 24, at' 25, at' 26, at' 27, at' 28, at' 29,
        at' 30, at' 31]

/-- A character of a version 4 in its place. -/
def uuid4Char (c : Char) (i : ℕ) : Bool :=
  if [8, 13, 18, 23].contains i then c == '-'
  else if i = 14 then c == '4'
  else if i = 19 then ['8', '9', 'a', 'b'].contains c
  else isHex c

/-- A text that `uuid.UUID` reads as a version 4 and writes back unchanged. -/
def canonicalUuid4 (token : String) : Bool :=
  token.toList.length = 36 && token.toList.zipIdx.all fun c => uuid4Char c.1 c.2

namespace Client

variable (cfg : ClientConfig)

/-- The token of a business key. -/
def keyToken (key : String) : String :=
  if canonicalUuid4 key then key else uuidText (cfg.sha256 key)

def normalizeClientToken (clientToken : Option String) : ClientProg String :=
  let token := clientToken.getD ""
  if token = "" then ask .uuid4 else return keyToken cfg token

/-- `_validate_bitable_config`. -/
def validateBitableConfig (requireDefaultTable : Bool) : Except ClientError Unit := do
  if cfg.appToken = "" then throw (.runtime "缺少飞书环境变量 APP_TOKEN 或 FEISHU_BASE_APP_TOKEN")
  if requireDefaultTable && cfg.tableId = "" then
    throw (.runtime "缺少飞书环境变量 TABLE_ID 或 FEISHU_DEVICE_TABLE_ID")

/-- The path under a table. -/
def tablePath (tableId suffix : String) : String :=
  "https://open.feishu.cn/open-apis/bitable/v1/apps/" ++ cfg.appToken ++ "/tables/" ++
    strip tableId ++ suffix

/-- `_bitable_table_url`. -/
def bitableTableUrl (tableId suffix : String) : Except ClientError String :=
  if strip tableId = "" then .error (.runtime "飞书 table_id 不能为空")
    else .ok (tablePath cfg tableId suffix)

/-- A request, and `_require_success` of what it returns. -/
def requestSuccess (r : BitableRequest) : ClientProg JsonDict := do
  let result ← requestBitableJson cfg r
  Prog.ofExcept (requireSuccess result r.operation)

def createRequest (path token : String) (fields : JsonDict) : BitableRequest where
  method := "POST"
  path := path
  query := [("client_token", token)]
  operation := "新增 Base 记录"
  jsonData := some (.object [("fields", .object fields)])
  maxAttempts := some 1

def createBitableRecord (tableId : String) (fields : JsonDict) (clientToken : Option String) :
    ClientProg JsonDict := do
  Prog.ofExcept (validateBitableConfig cfg false)
  if strip tableId = "" then throw (.value "table_id 不能为空")
  else do
    let token ← normalizeClientToken cfg clientToken
    let path ← Prog.ofExcept (bitableTableUrl cfg (strip tableId) "/records")
    requestSuccess cfg (createRequest path token fields)

def historyRequest (path token : String) (fields : JsonDict) : BitableRequest where
  method := "POST"
  path := path
  query := [("client_token", token)]
  operation := "新增历史记录"
  jsonData := some (.object [("fields", .object fields)])

/-- The business key of a history record: its table, its device and its sampling time. -/
def historyKey (tableId : String) (fields : JsonDict) (sampledAt : Json) : String :=
  "HISTORY:" ++ tableId ++ ":" ++ cfg.upper
    (normalizeFieldValue cfg.str ((fields.lookup "设备编号").getD .null)) ++ ":" ++ cfg.str sampledAt

def createHistoryRecord (tableId : String) (fields : JsonDict) : ClientProg JsonDict := do
  Prog.ofExcept (validateBitableConfig cfg false)
  let sampledAt ← Prog.ofExcept
    (((fields.lookup "采集时间").map Except.ok).getD (.error (.keyError "采集时间")))
  let token ← normalizeClientToken cfg (some (historyKey cfg tableId fields sampledAt))
  let path ← Prog.ofExcept (bitableTableUrl cfg tableId "/records")
  requestBitableJson cfg (historyRequest path token fields)

def recordDeletedCode : ℤ := 1254043

/-- The error for a record that is known to be deleted. -/
def knownMissing : JsonDict :=
  [("code", .number recordDeletedCode), ("msg", .text "SQLite 已登记该 Feishu record 远端删除，跳过重复更新"),
    ("http_status", .number 404)]

def updateRequest (path : String) (fields : JsonDict) (attemptTimeout : Option ℚ) :
    BitableRequest where
  method := "PUT"
  path := path
  operation := "更新 Base 记录"
  jsonData := some (.object [("fields", .object fields)])
  maxAttempts := if attemptTimeout.isSome then some 1 else none
  timeout := attemptTimeout

/-- `exc.code == 1254043` of a `FeishuAPIError`. -/
def recordDeletedError : ClientError → Bool
  | .feishuApi result _ =>
    match codeOf result with
    | .ok code => code = recordDeletedCode
    | .error _ => false
  | _ => false

/-- What a failed update leaves behind: a tombstone, when the server says that the record is
gone. -/
def failedUpdate (tableId recordId : String) (e : ClientError) : ClientProg JsonDict := do
  if recordDeletedError e then do
    let _ ← (ask (.markRecordMissing tableId recordId (e.text cfg.str))).captured
    throw e
  else throw e

def updateBitableRecord (tableId recordId : String) (fields : JsonDict)
    (attemptTimeout : Option ℚ) : ClientProg JsonDict := do
  Prog.ofExcept (validateBitableConfig cfg false)
  if strip tableId = "" then throw (.value "table_id 不能为空")
  else if strip recordId = "" then throw (.value "record_id 不能为空")
  else do
    let missing ← (ask (.recordMissing (strip tableId) (strip recordId))).captured
    match missing with
    | .ok true => throw (.feishuApi knownMissing "更新 Base 记录")
    -- a failed lookup must not block the write
    | _ => do
      let path ← Prog.ofExcept (bitableTableUrl cfg (strip tableId) ("/records/" ++ strip recordId))
      tryCatch (requestSuccess cfg (updateRequest path fields attemptTimeout))
        (failedUpdate cfg (strip tableId) (strip recordId))

/-! ### What a request has posted -/

section Posts

/-- The requests to tables, and what they were answered. -/
abbrev Posted := List (HttpRequest × Except ClientError HttpResponse)

def posted (g : Posted) : Made ClientCall ClientCall.Answer ClientError → Posted
  | ⟨.send request, r⟩ => if request.token.isSome then g ++ [(request, r)] else g
  | _ => g

def posts (made : List (Made ClientCall ClientCall.Answer ClientError)) : Posted :=
  made.foldl posted []

/-- No `FeishuAPIError`. -/
def NotApi {α : Type} (r : Except ClientError α) : Prop :=
  ∀ result operation, r ≠ .error (.feishuApi result operation)

/-- Only the client itself raises a `FeishuAPIError`. -/
def ClientCan (c : ClientCall) (r : Except ClientError c.Answer) : Prop := NotApi r

/-- Where a program ends, after which posts. -/
abbrev Posting {α : Type} (p : ClientProg α) (Q : Except ClientError α → Posted → Prop)
    (g : Posted) : Prop :=
  p.wp (fun _ _ => True) (Prog.reads ClientCan posted) Q g

variable {α : Type} {cfg : ClientConfig} {g : Posted} {p : ClientProg α}

theorem notApi_ok (a : α) : NotApi (.ok a : Except ClientError α) := fun _ _ h => by cases h

theorem NotApi.error {γ : Type} {e : ClientError} (h : NotApi (.error e : Except ClientError α)) :
    NotApi (.error e : Except ClientError γ) :=
  fun result operation he => h result operation (by rw [Except.error.inj he])

/-- A call that is no request to a table. -/
theorem posting_ask {c : ClientCall} (hc : ∀ r, posted g ⟨c, r⟩ = g)
    {Q : Except ClientError c.Answer → Posted → Prop}
    (h : ∀ r, NotApi r → Q r g) : Posting (ask c) Q g := by
  refine ⟨trivial, fun r g' hr => ?_⟩
  obtain ⟨hcan, rfl⟩ := hr
  rw [hc]
  exact h r hcan

/-- The posts a program leaves as they are, without a `FeishuAPIError`. -/
def Quiet (p : ClientProg α) : Prop := ∀ g, Posting p (fun r g' => g' = g ∧ NotApi r) g

theorem quiet_ask {c : ClientCall} (hc : ∀ g r, posted g ⟨c, r⟩ = g) : Quiet (ask c) :=
  fun g => posting_ask (hc g) fun _ hr => ⟨rfl, hr⟩

theorem quiet_pure (a : α) : Quiet (pure a : ClientProg α) := fun _ => ⟨rfl, notApi_ok a⟩

theorem quiet_ofExcept {r : Except ClientError α} (h : NotApi r) : Quiet (Prog.ofExcept r) :=
  fun _ => ⟨rfl, h⟩

theorem quiet_bind {γ : Type} {f : α → ClientProg γ} (hp : Quiet p) (hf : ∀ a, Quiet (f a)) :
    Quiet (p >>= f) := by
  refine fun g => Prog.wp_bind.mpr (Prog.wp_mono (hp g) fun r g' hr => ?_)
  obtain ⟨rfl, hr⟩ := hr
  cases r with
  | ok a => exact hf a g'
  | error e => exact ⟨rfl, hr.error⟩

/-- What follows a quiet program. -/
theorem Quiet.then {γ : Type} {f : α → ClientProg γ} {Q : Except ClientError γ → Posted → Prop}
    (hp : Quiet p)
    (hf : ∀ a, Posting (f a) Q g)
    (herror : ∀ e, NotApi (.error e : Except ClientError γ) → Q (.error e) g) :
    Posting (p >>= f) Q g := by
  refine Prog.wp_bind.mpr (Prog.wp_mono (hp g) fun r g' hr => ?_)
  obtain ⟨rfl, hr⟩ := hr
  cases r with
  | ok a => exact hf a
  | error e => exact herror e hr.error

/-- What was read before. -/
theorem posting_ofExcept {γ : Type} {r : Except ClientError α} {a : α} {f : α → ClientProg γ}
    {Q : Except ClientError γ → Posted → Prop} (hr : r = .ok a) (h : Posting (f a) Q g) :
    Posting (Prog.ofExcept r >>= f) Q g := by
  rw [hr]
  exact h

theorem posting_raised {γ : Type} {r : Except ClientError α} {e : ClientError}
    {f : α → ClientProg γ}
    {Q : Except ClientError γ → Posted → Prop} (hr : r = .error e) (h : Q (.error e) g) :
    Posting (Prog.ofExcept r >>= f) Q g := by
  rw [hr]
  exact h

theorem notApi_connection (message : String) :
    NotApi (.error (.connection message) : Except ClientError α) :=
  fun _ _ h => by cases h

theorem quiet_clear (code : ℤ) : Quiet (clearInvalidToken code) := by
  unfold clearInvalidToken
  split_ifs
  · exact quiet_ask fun _ _ => rfl
  · exact quiet_pure ()

theorem quiet_sleep (attempt : ℕ) : Quiet (ask (.sleep (backoff cfg attempt))) :=
  quiet_ask fun _ _ => rfl

/-- A request without a token is no post. -/
theorem quiet_tries {request : HttpRequest} (hrequest : request.token = none) (retryTimes : ℕ) :
    ∀ (left attempt : ℕ) (last : String), Quiet (tries cfg request retryTimes attempt last left)
  | 0, _, _ => quiet_ofExcept (r := .error _) (notApi_connection _)
  | left + 1, attempt, last => by
    have hrest := quiet_tries hrequest retryTimes left (attempt + 1)
    intro g
    unfold tries
    refine Prog.wp_bind.mpr (Prog.wp_captured.mpr (posting_ask (fun r => ?_) fun sent hsent => ?_))
    · simp [posted, hrequest]
    · cases sent with
      | ok response =>
        rw [Prog.followed_ok]
        dsimp only
        split_ifs
        · exact quiet_bind (quiet_sleep attempt) (fun _ => hrest last) g
        · exact quiet_pure response g
      | error e =>
        rw [Prog.followed_ok]
        dsimp only
        split_ifs
        · exact quiet_bind (quiet_sleep attempt) (fun _ => hrest _) g
        · exact hrest _ g
        · exact ⟨rfl, hsent.error⟩

/-! ### Values that are read without a `FeishuAPIError` -/

theorem NotApi.bind {γ : Type} {r : Except ClientError α} {f : α → Except ClientError γ}
    (hr : NotApi r) (hf : ∀ a, NotApi (f a)) : NotApi (r >>= f) := by
  cases r with
  | ok a => exact hf a
  | error e => exact hr.error

theorem notApi_getD {o : Option α} {e : ClientError}
    (he : NotApi (.error e : Except ClientError α)) :
    NotApi ((o.map Except.ok).getD (.error e)) := by
  cases o with
  | none => exact he
  | some a => exact notApi_ok a

theorem notApi_dictOf (json : Json) : NotApi (dictOf json) := by
  intro result operation h
  cases json <;> cases h

theorem notApi_intOf (json : Json) : NotApi (intOf json) := by
  cases json with
  | text s => exact notApi_getD fun _ _ h => by cases h
  | _ => exact fun _ _ h => by cases h

theorem notApi_codeOf (result : JsonDict) : NotApi (codeOf result) := notApi_intOf _

theorem notApi_tokenOf (response : HttpResponse) : NotApi (tokenOf cfg response) := by
  unfold tokenOf
  refine (notApi_getD fun _ _ h => by cases h).bind fun json =>
    (notApi_dictOf json).bind fun result => ?_
  split_ifs
  · exact fun _ _ h => by cases h
  · exact (notApi_getD fun _ _ h => by cases h).bind fun token =>
      (notApi_intOf _).bind fun expire => notApi_ok _

theorem quiet_getToken (attempts : Option ℕ) : Quiet (getToken cfg attempts) := by
  unfold getToken
  refine quiet_bind (quiet_ask fun _ _ => rfl) fun now =>
    quiet_bind (quiet_ask fun _ _ => rfl) fun cached => ?_
  split_ifs
  · exact quiet_pure _
  · exact quiet_ofExcept (r := .error _) fun _ _ h => by cases h
  · refine quiet_bind (quiet_tries rfl _ _ _ _) fun response => ?_
    refine quiet_bind (quiet_ofExcept (notApi_tokenOf response)) fun answer => ?_
    exact quiet_bind (quiet_ask fun _ _ => rfl) fun _ => quiet_pure _

/-! ### The last answer -/

/-- What is returned for a response that is not followed by another request. -/
def finalResult (r : BitableRequest) (response : HttpResponse) : Except ClientError JsonDict :=
  match response.json with
  | none => .ok (nonJsonResult r response.status)
  | some json => do
    let result ← dictOf json
    let code ← codeOf result
    if response.status ≠ 200 ∧ code = 0 then return httpFailure result response.status
    return result

theorem finalResult_eq {r : BitableRequest} {response : HttpResponse} {json : Json}
    {result : JsonDict} {code : ℤ}
    (hjson : response.json = some json) (hdict : dictOf json = .ok result)
    (hcode : codeOf result = .ok code) : finalResult r response =
      .ok (if response.status ≠ 200 ∧ code = 0 then httpFailure result response.status
        else result) := by
  unfold finalResult
  simp only [hjson, hdict, hcode, bind, Except.bind]
  split_ifs <;> rfl

/-- The posts of a request: each is the request with some token, and what is returned is the last
answer. -/
def Answered (r : BitableRequest) (res : Except ClientError JsonDict) (new : Posted) : Prop :=
  (∀ m ∈ new, ∃ token, m.1 = r.http token) ∧ NotApi res ∧
    ∀ result, res = .ok result → result = failedResult r ∨
      ∃ pre token response, new = pre ++ [(r.http token, .ok response)] ∧
        finalResult r response = .ok result

theorem answered_error {r : BitableRequest} {e : ClientError} {new : Posted}
    (hnew : ∀ m ∈ new, ∃ token, m.1 = r.http token)
    (he : NotApi (.error e : Except ClientError JsonDict)) : Answered r (.error e) new :=
  ⟨hnew, he, fun result h => by cases h⟩

theorem answered_final {r : BitableRequest} {new : Posted} {token : String}
    {response : HttpResponse} {result : JsonDict}
    (hnew : ∀ m ∈ new, ∃ token, m.1 = r.http token) (h : finalResult r response = .ok result) :
    Answered r (.ok result) (new ++ [(r.http token, .ok response)]) := by
  refine ⟨fun m hm => ?_, notApi_ok _, fun result' h' => .inr ⟨new, token, response, rfl, ?_⟩⟩
  · rcases List.mem_append.mp hm with hm | hm
    · exact hnew m hm
    · exact ⟨token, by rw [List.mem_singleton.mp hm]⟩
  · rw [h, Except.ok.inj h']

/-- One request, and what it was answered. -/
theorem posting_once {request : HttpRequest} (hrequest : request.token.isSome = true)
    {Q : Except ClientError HttpResponse → Posted → Prop}
    (hok : ∀ response, Q (.ok response) (g ++ [(request, .ok response)]))
    (herror : ∀ e e', NotApi (.error e : Except ClientError HttpResponse) →
      NotApi (.error e' : Except ClientError HttpResponse) →
        Q (.error e) (g ++ [(request, .error e')])) :
    Posting (requestWithRetry cfg request (some 1)) Q g := by
  unfold requestWithRetry tries
  refine Prog.wp_bind.mpr (Prog.wp_captured.mpr ⟨trivial, fun sent g' hsent => ?_⟩)
  obtain ⟨hcan, rfl⟩ := hsent
  have hpost : posted g ⟨.send request, sent⟩ = g ++ [(request, sent)] := if_pos hrequest
  rw [hpost, Prog.wp_done, Prog.followed_ok]
  cases sent with
  | ok response =>
    dsimp only
    rw [if_neg (by simp)]
    exact hok response
  | error e =>
    dsimp only
    split_ifs with hnet hlt
    · simp at hlt
    · exact herror _ e (notApi_connection _) hcan
    · exact herror e e hcan hcan

/-- **What a request returns is its last answer**, or that its tries are used up. -/
theorem bitableAttempts_answered {r : BitableRequest} : ∀ (left attempt : ℕ) (refreshed : Bool) {new : Posted},
    (∀ m ∈ new, ∃ token, m.1 = r.http token) → Posting (bitableAttempts cfg r attempt refreshed left) (Answered r) new
  | 0, _, _, _, hnew => ⟨hnew, notApi_ok _, fun _ h => .inl (Except.ok.inj h).symm⟩
  | left + 1, attempt, refreshed, new, hnew => by
    have hrest (refreshed : Bool) {new : Posted} (hnew : ∀ m ∈ new, ∃ token, m.1 = r.http token) :=
      bitableAttempts_answered left (attempt + 1) refreshed hnew
    have hmore (token : String) (sent : Except ClientError HttpResponse) :
        ∀ m ∈ new ++ [(r.http token, sent)], ∃ token, m.1 = r.http token := by
      intro m hm
      rcases List.mem_append.mp hm with hm | hm
      · exact hnew m hm
      · exact ⟨token, by rw [List.mem_singleton.mp hm]⟩
    unfold bitableAttempts
    refine (quiet_getToken r.maxAttempts).then (fun token => ?_) fun e he => answered_error hnew he
    refine Prog.wp_bind.mpr (Prog.wp_captured.mpr (posting_once rfl (fun response => ?_) fun e e' he _ => ?_))
    · rw [Prog.followed_ok]
      dsimp only
      cases hjson : response.json with
      | none =>
        exact answered_final hnew (by simp [finalResult, hjson])
      | some json =>
        dsimp only
        cases hdict : dictOf json with
        | error e => exact answered_error (hmore token _) (hdict ▸ notApi_dictOf json : NotApi (.error e)).error
        | ok result =>
          refine posting_ofExcept rfl ?_
          cases hcode : codeOf result with
          | error e => exact answered_error (hmore token _) (hcode ▸ notApi_codeOf result : NotApi (.error e)).error
          | ok code =>
            have hfinal := finalResult_eq (r := r) hjson hdict hcode
            refine posting_ofExcept rfl ?_
            refine (quiet_clear code).then (fun _ => ?_) fun e he => answered_error (hmore token _) he
            split_ifs with hrefresh hretry hhttp
            · exact hrest true (hmore token _)
            · exact (quiet_sleep attempt).then (fun _ => hrest refreshed (hmore token _)) fun e he => answered_error (hmore token _) he
            · rw [if_pos hhttp] at hfinal
              exact answered_final hnew hfinal
            · rw [if_neg hhttp] at hfinal
              exact answered_final hnew hfinal
    · rw [Prog.followed_ok]
      dsimp only
      split_ifs with hretry
      · exact (quiet_sleep attempt).then (fun _ => hrest refreshed (hmore token _)) fun e he => answered_error (hmore _ _) he
      · exact answered_error (hmore _ _) he.error

/-! ### What became of a record -/

theorem intOf_number (n : ℤ) : intOf (.number n) = .ok n := by
  unfold intOf
  simp

/-- A success that is none for HTTP has a code below zero. -/
theorem codeOf_httpFailure (result : JsonDict) (status : ℕ) :
    codeOf (httpFailure result status) = .ok (-status) := by
  have hint := intOf_number (-status)
  unfold codeOf httpFailure
  simp only [lookup_setField, String.reduceEq, if_false, if_true, Option.getD_some]
  simpa using hint

theorem codeOf_nonJsonResult (r : BitableRequest) (status : ℕ) :
    codeOf (nonJsonResult r status) = .ok (-2) := intOf_number (-2)

theorem codeOf_failedResult (r : BitableRequest) : codeOf (failedResult r) = .ok (-3) :=
  intOf_number (-3)

/-- **A code that is not negative is the server's**, and zero its success. -/
theorem finalResult_definite {r : BitableRequest} {response : HttpResponse}
    {result : JsonDict} {code : ℤ}
    (h : finalResult r response = .ok result) (hcode : codeOf result = .ok code)
    (hnonneg : 0 ≤ code) :
    response.json = some (.object result) ∧ (code = 0 → response.status = 200) := by
  cases hjson : response.json with
  | none =>
    have hresult : nonJsonResult r response.status = result := by simpa [finalResult, hjson] using h
    have hcode' := codeOf_nonJsonResult r response.status
    rw [hresult, hcode] at hcode'
    have : code = -2 := Except.ok.inj hcode'
    omega
  | some json =>
    cases hdict : dictOf json with
    | error e =>
      unfold finalResult at h
      simp only [hjson, hdict, bind, Except.bind] at h
      cases h
    | ok fields =>
      cases hfields : codeOf fields with
      | error e =>
        unfold finalResult at h
        simp only [hjson, hdict, hfields, bind, Except.bind] at h
        cases h
      | ok code' =>
        have hjson' : json = .object fields := by
          cases json with
          | object f =>
            cases hdict
            rfl
          | _ => cases hdict
        rw [finalResult_eq hjson hdict hfields] at h
        have hresult := Except.ok.inj h
        have hdigits := response.digits
        split_ifs at hresult with hhttp
        · have hneg := codeOf_httpFailure fields response.status
          rw [hresult, hcode] at hneg
          have : code = -response.status := Except.ok.inj hneg
          omega
        · subst hresult
          obtain rfl : code' = code := Except.ok.inj (hfields.symm.trans hcode)
          refine ⟨by rw [hjson'], fun hzero => ?_⟩
          by_contra hstatus
          exact hhttp ⟨hstatus, hzero⟩

theorem codeOf_of_success {result : JsonDict} {operation : String} {res : JsonDict}
    (h : requireSuccess result operation = .ok res) : result = res ∧ codeOf result = .ok 0 := by
  unfold requireSuccess at h
  cases hcode : codeOf result with
  | error e =>
    simp only [hcode, bind, Except.bind] at h
    cases h
  | ok code =>
    simp only [hcode, bind, Except.bind] at h
    split_ifs at h with hzero
    · rw [not_not.mp hzero]
      exact ⟨Except.ok.inj h, rfl⟩

/-- Where `_require_success` raises, the result is in the error. -/
theorem result_of_failure {result : JsonDict} {operation : String} {e : ClientError}
    (h : requireSuccess result operation = .error e) :
    NotApi (.error e : Except ClientError JsonDict) ∨
      e = .feishuApi result operation ∧ ∃ code, codeOf result = .ok code ∧ code ≠ 0 := by
  unfold requireSuccess at h
  cases hcode : codeOf result with
  | error e' =>
    simp only [hcode, bind, Except.bind] at h
    rw [← Except.error.inj h]
    exact .inl (hcode ▸ notApi_codeOf result : NotApi (.error e')).error
  | ok code =>
    simp only [hcode, bind, Except.bind] at h
    split_ifs at h with hzero
    · exact .inr ⟨(Except.error.inj h).symm, code, rfl, hzero⟩
    · cases h

/-- An error with a known outcome has a code of the server, and not one of those that pass. -/
theorem outcome_known {result : JsonDict} {code : ℤ} (h : outcomeUnknown result = .ok false)
    (hcode : codeOf result = .ok code) : 0 ≤ code ∧ code ∉ transientBitableCodes := by
  have hpair {x y : Bool} {P Q : Prop} [Decidable P] [Decidable Q]
      (hb : (x || y || decide P || decide Q) = false) : ¬ P ∧ ¬ Q := by
    simp only [Bool.or_eq_false_iff, decide_eq_false_iff_not] at hb
    exact ⟨hb.1.2, hb.2⟩
  unfold outcomeUnknown at h
  simp only [hcode, bind, Except.bind] at h
  split at h
  · have hb := hpair (x := false) (y := false) (Except.ok.inj h)
    exact ⟨by omega, hb.1⟩
  · have hb := hpair (x := false) (y := false) (Except.ok.inj h)
    exact ⟨by omega, hb.1⟩
  · rename_i status _ _
    cases hstatus : intOf status with
    | error e =>
      rw [hstatus] at h
      cases h
    | ok status' =>
      rw [hstatus] at h
      have hb := hpair (Except.ok.inj h)
      exact ⟨by omega, hb.1⟩

/-- What became of a request, told from its end: a value is what the server
confirmed last, and a code of an error that is not negative is the server's last. -/
structure Settled (r : BitableRequest) (res : Except ClientError JsonDict)
    (new : Posted) : Prop where
  requests : ∀ m ∈ new, ∃ token, m.1 = r.http token
  confirmed : ∀ result, res = .ok result → codeOf result = .ok 0 ∧
    ∃ pre token digits, new = pre ++ [(r.http token, .ok ⟨200, some (.object result), digits⟩)]
  refused : ∀ result operation, res = .error (.feishuApi result operation) →
      ∃ code, codeOf result = .ok code ∧ code ≠ 0 ∧
    (0 ≤ code → ∃ pre token response, new = pre ++ [(r.http token, .ok response)] ∧
      response.json = some (.object result))

theorem settled_error {r : BitableRequest} {e : ClientError} {new : Posted}
    (hnew : ∀ m ∈ new, ∃ token, m.1 = r.http token)
    (he : NotApi (.error e : Except ClientError JsonDict)) : Settled r (.error e) new :=
  ⟨hnew, fun _ h => (by cases h), fun result operation h => absurd h (he result operation)⟩

/-- A result with a code that is not negative is the last answer of the server. -/
theorem definite_last {r : BitableRequest} {result : JsonDict} {new : Posted} {code : ℤ}
    (hlast : result = failedResult r ∨
      ∃ pre token response, new = pre ++ [(r.http token, .ok response)] ∧
        finalResult r response = .ok result)
    (hcode : codeOf result = .ok code) (hnonneg : 0 ≤ code) :
    ∃ pre token response, new = pre ++ [(r.http token, .ok response)] ∧
      response.json = some (.object result) ∧
      (code = 0 → response.status = 200) := by
  rcases hlast with rfl | ⟨pre, token, response, hpre, hfinal⟩
  · have : code = -3 := Except.ok.inj (hcode.symm.trans (codeOf_failedResult r))
    omega
  · obtain ⟨hjson, hstatus⟩ := finalResult_definite hfinal hcode hnonneg
    exact ⟨pre, token, response, hpre, hjson, hstatus⟩

/-- A success is the last answer of the server, and one for HTTP. -/
theorem confirmed_last {r : BitableRequest} {result : JsonDict} {new : Posted}
    (hlast : result = failedResult r ∨
      ∃ pre token response, new = pre ++ [(r.http token, .ok response)] ∧
        finalResult r response = .ok result)
    (hcode : codeOf result = .ok 0) :
    ∃ pre token digits,
      new = pre ++ [(r.http token, .ok ⟨200, some (.object result), digits⟩)] := by
  obtain ⟨pre, token, ⟨status, json, digits⟩, hpre, hjson, hstatus⟩ :=
    definite_last hlast hcode le_rfl
  obtain rfl : status = 200 := hstatus rfl
  obtain rfl : json = some (.object result) := hjson
  exact ⟨pre, token, digits, hpre⟩

/-- What `_require_success` makes of the last answer. -/
theorem requestSuccess_settled {r : BitableRequest} :
    Posting (requestSuccess cfg r) (Settled r) [] := by
  unfold requestSuccess
  refine Prog.wp_bind.mpr
    (Prog.wp_mono (bitableAttempts_answered _ 1 false (fun m hm => absurd hm List.not_mem_nil)) ?_)
  rintro res new ⟨hnew, hapi, hlast⟩
  cases res with
  | error e => exact settled_error hnew hapi
  | ok result =>
    rw [Prog.followed_ok, Prog.wp_ofExcept]
    cases hrequire : requireSuccess result r.operation with
    | ok res =>
      obtain ⟨rfl, hzero⟩ := codeOf_of_success hrequire
      obtain ⟨pre, token, digits, hpre⟩ := confirmed_last (hlast result rfl) hzero
      refine ⟨hnew, fun result' h => ?_, fun _ _ h => by cases h⟩
      obtain rfl := Except.ok.inj h
      exact ⟨hzero, pre, token, digits, hpre⟩
    | error e =>
      rcases result_of_failure hrequire with he | ⟨rfl, code, hcode, hne⟩
      · exact settled_error hnew he
      · refine ⟨hnew, fun _ h => (by cases h), fun result' operation h => ?_⟩
        cases h
        refine ⟨code, hcode, hne, fun hnonneg => ?_⟩
        obtain ⟨pre, token, response, hpre, hjson, -⟩ :=
          definite_last (hlast result rfl) hcode hnonneg
        exact ⟨pre, token, response, hpre, hjson⟩

theorem notApi_validate (requireDefaultTable : Bool) :
    NotApi (validateBitableConfig cfg requireDefaultTable) := by
  unfold validateBitableConfig
  split_ifs <;> exact fun _ _ h => by cases h

theorem notApi_url (tableId suffix : String) : NotApi (bitableTableUrl cfg tableId suffix) := by
  unfold bitableTableUrl
  split_ifs <;> exact fun _ _ h => by cases h

theorem quiet_normalize (clientToken : Option String) :
    Quiet (normalizeClientToken cfg clientToken) := by
  unfold normalizeClientToken
  dsimp only
  split_ifs
  · exact quiet_ask fun _ _ => rfl
  · exact quiet_pure _

/-- Nothing was posted, or a request was settled. -/
def PostedFor (requests : BitableRequest → Prop) (res : Except ClientError JsonDict)
    (new : Posted) : Prop :=
  (new = [] ∧ (∀ result, res ≠ .ok result) ∧ NotApi res) ∨ ∃ r, requests r ∧ Settled r res new

theorem postedFor_error {requests : BitableRequest → Prop} {e : ClientError}
    (he : NotApi (.error e : Except ClientError JsonDict)) :
    PostedFor requests (.error e) [] := .inl ⟨rfl, fun _ h => (by cases h), he⟩

/-- The token of a request is that of the key, if there is one. -/
def TokenFor (cfg : ClientConfig) (clientToken : Option String) (token : String) : Prop :=
  ∀ key, clientToken = some key → key ≠ "" → token = keyToken cfg key

theorem posting_normalize {α : Type} {clientToken : Option String} {f : String → ClientProg α}
    {Q : Except ClientError α → Posted → Prop}
    (hf : ∀ token, TokenFor cfg clientToken token → Posting (f token) Q g)
    (herror : ∀ e, NotApi (.error e : Except ClientError α) → Q (.error e) g) :
    Posting (normalizeClientToken cfg clientToken >>= f) Q g := by
  by_cases hkey : clientToken.getD "" = ""
  · have hany (token : String) : TokenFor cfg clientToken token := by
      rintro key rfl hne
      exact absurd hkey hne
    exact (quiet_normalize clientToken).then (fun token => hf token (hany token)) herror
  · have htoken : TokenFor cfg clientToken (keyToken cfg (clientToken.getD "")) := by
      rintro key rfl _
      rfl
    have hprog : normalizeClientToken cfg clientToken = pure (keyToken cfg (clientToken.getD "")) :=
      if_neg hkey
    rw [hprog]
    exact hf _ htoken

attribute [local irreducible] Prog.wp Prog.Within

theorem createBitableRecord_posts {tableId : String} {fields : JsonDict}
    {clientToken : Option String} : Posting (createBitableRecord cfg tableId fields clientToken)
      (PostedFor fun r => ∃ path token, r = createRequest path token fields ∧
        TokenFor cfg clientToken token) [] := by
  unfold createBitableRecord
  refine (quiet_ofExcept (notApi_validate false)).then (fun _ => ?_) fun e he => postedFor_error he
  split_ifs with htable
  · exact (Prog.wp_throw _).mpr (postedFor_error fun _ _ h => by cases h)
  · refine posting_normalize (fun token htoken => ?_) fun e he => postedFor_error he
    refine (quiet_ofExcept (notApi_url _ _)).then (fun path => ?_) fun e he => postedFor_error he
    exact Prog.wp_mono requestSuccess_settled fun res new h =>
      .inr ⟨_, ⟨path, token, rfl, htoken⟩, h⟩

/-- The posts are the requests to tables. -/
theorem length_posts (made : List (Made ClientCall ClientCall.Answer ClientError)) :
    (posts made).length = Prog.spent tableRequests made := by
  have hlength (g : Posted) :
      (made.foldl posted g).length = g.length + Prog.spent tableRequests made := by
    induction made generalizing g with
    | nil => simp [Prog.spent]
    | cons m made ih =>
      have hone : (posted g m).length = g.length + tableRequests m.1 := by
        obtain ⟨c, r⟩ := m
        cases c with
        | send request =>
          unfold posted tableRequests
          dsimp only
          split_ifs <;> simp
        | _ => rfl
      have hspent : Prog.spent tableRequests (m :: made) =
          tableRequests m.1 + Prog.spent tableRequests made := by
        simp [Prog.spent]
      rw [List.foldl_cons, ih, hone, hspent, Nat.add_assoc]
  have hall := hlength []
  rwa [List.length_nil, Nat.zero_add] at hall

/-- What a request may post. -/
theorem requestBitableJson_table (r : BitableRequest) :
    (requestBitableJson cfg r).Within tableRequests (attemptsLimit cfg r) := by
  have hcost :
      (requestBitableJson cfg r).Within tableRequests _ := requestBitableJson_within tableRequests 1
    (fun c hc => by cases c <;> first | rfl | cases hc) fun _ => rfl
  rw [pauses_zero fun _ => rfl, pauses_zero fun _ => rfl] at hcost
  have hnone : tableRequests (.send (tokenRequest cfg)) = 0 := rfl
  rwa [hnone, nsmul_zero, zero_add, zero_add, add_zero, nsmul_eq_mul, Nat.cast_id, mul_one] at hcost

theorem requestSuccess_table (r : BitableRequest) :
    (requestSuccess cfg r).Within tableRequests (attemptsLimit cfg r) :=
  (Prog.within_bind (requestBitableJson_table r) fun _ =>
    Prog.within_ofExcept (b := 0) _).mono (Nat.add_zero _).le

theorem normalizeClientToken_table (clientToken : Option String) :
    (normalizeClientToken cfg clientToken).Within tableRequests 0 := by
  unfold normalizeClientToken
  dsimp only
  split_ifs
  · exact Prog.within_perform le_rfl
  · exact Prog.within_pure _

theorem createBitableRecord_table {tableId : String} {fields : JsonDict}
    {clientToken : Option String} :
    (createBitableRecord cfg tableId fields clientToken).Within tableRequests 1 := by
  have hsum : 1 = 0 + (0 + (0 + 1)) := rfl
  rw [hsum]
  unfold createBitableRecord
  refine Prog.within_bind (Prog.within_ofExcept _) fun _ => ?_
  split_ifs
  · exact Prog.within_throw _
  · exact Prog.within_bind (normalizeClientToken_table _) fun token =>
      Prog.within_bind (Prog.within_ofExcept _) fun path => requestSuccess_table _

/-- A list of at most one, told from its last element. -/
theorem only_last {γ : Type} {l pre : List γ} {a : γ} (h : l = pre ++ [a]) (hlen : l.length ≤ 1) :
    l = [a] := by
  subst h
  cases pre with
  | nil => rfl
  | cons b pre =>
    simp at hlen

variable {σ : Type} {does : σ → (c : ClientCall) → Except ClientError c.Answer → σ → Prop}
  {s s' : σ}
  {made : List (Made ClientCall ClientCall.Answer ClientError)} {tableId : String}
  {fields : JsonDict}
  {clientToken : Option String} {res : Except ClientError JsonDict}

/-- **A record is created by one request.** Whatever happens on the way, at most
one request is posted, with the token of the key. A value is returned only for a
record the server confirmed, and an error with a known outcome only where the
server refused this request. -/
theorem create_outcome (hcan : ∀ s c r s', does s c r s' → ClientCan c r)
    (h : Prog.Takes does (createBitableRecord cfg tableId fields clientToken)
      s made (.done res) s') :
    (posts made).length ≤ 1 ∧
      (∀ m ∈ posts made, ∃ path token bearer, m.1 = (createRequest path token fields).http bearer ∧
        TokenFor cfg clientToken token) ∧
      (∀ result, res = .ok result →
        ∃ request digits, posts made = [(request, .ok ⟨200, some (.object result), digits⟩)]) ∧
      ∀ result operation, res = .error (.feishuApi result operation) →
        outcomeUnknown result = .ok false →
        ∃ request response code, posts made = [(request, .ok response)] ∧
          response.json = some (.object result) ∧
          codeOf result = .ok code ∧ 0 < code ∧ code ∉ transientBitableCodes := by
  have hlen : (posts made).length ≤ 1 := by
    rw [length_posts]
    exact h.within createBitableRecord_table
  rcases h.observed hcan createBitableRecord_posts with ⟨hnone, hok, hapi⟩ | ⟨r,
    ⟨path, token, rfl, htoken⟩, hsettled⟩
  · have hnil : posts made = [] := hnone
    refine ⟨hlen, ?_, fun result hres => absurd hres (hok result), fun result operation hres =>
      absurd hres (hapi result operation)⟩
    rw [hnil]
    exact fun m hm => absurd hm List.not_mem_nil
  · refine ⟨hlen, fun m hm => ?_, fun result hres => ?_, fun result operation hres hknown => ?_⟩
    · obtain ⟨bearer, hbearer⟩ := hsettled.requests m hm
      exact ⟨path, token, bearer, hbearer, htoken⟩
    · obtain ⟨-, pre, bearer, digits, hpre⟩ := hsettled.confirmed result hres
      exact ⟨_, digits, only_last hpre hlen⟩
    · obtain ⟨code, hcode, hne, hlast⟩ := hsettled.refused result operation hres
      obtain ⟨hnonneg, htransient⟩ := outcome_known hknown hcode
      obtain ⟨pre, bearer, response, hpre, hjson⟩ := hlast hnonneg
      exact ⟨_, response, code, only_last hpre hlen, hjson, hcode, by omega, htransient⟩

theorem canCreate_steady (answer : HttpRequest → HttpResponse) (s : Unit) (c : ClientCall)
    (r : Except ClientError c.Answer) (s' : Unit) (h : Steady answer s c r s') : ClientCan c r := by
  have hr : r = (steady answer s c).1 := congrArg Prod.fst h
  rw [hr]
  cases c <;> exact fun _ _ he => by cases he

/-- A success of the server. -/
def accepted (_ : HttpRequest) : HttpResponse := .success (.object [("code", .number 0)])

def firstRecord : ClientProg JsonDict :=
  createBitableRecord plainConfig "tblEvents" [("设备编号", .text "TH-01")]
    (some "3f2b8c1e-9d47-4a6b-8e0f-5c1d2a7b9e34")

theorem record_created :
    ∃ made result request digits,
      Prog.Takes (Steady accepted) firstRecord () made (.done (.ok result)) () ∧
      posts made = [(request, .ok ⟨200, some (.object result), digits⟩)] := by
  have hrun := takes_steady accepted 10 firstRecord
  obtain ⟨result, hdone⟩ :=
    Prog.done_of_returned (p := (Prog.answered (steady accepted) 10 firstRecord ()).2.1)
      (by decide +kernel)
  rw [hdone] at hrun
  obtain ⟨request, digits, hposts⟩ := (create_outcome (canCreate_steady _) hrun).2.2.1 result rfl
  exact ⟨_, result, request, digits, hrun, hposts⟩

/-! ### History records -/

/-- What a history record leaves: nothing was posted, or its request with the token of its key, as
often as it took. -/
def HistoryPosted (cfg : ClientConfig) (tableId : String) (fields : JsonDict)
    (res : Except ClientError JsonDict) (new : Posted) : Prop :=
  (new = [] ∧ ∀ result, res ≠ .ok result) ∨
      ∃ path sampledAt, fields.lookup "采集时间" = some sampledAt ∧
    Answered (historyRequest path (keyToken cfg (historyKey cfg tableId fields sampledAt)) fields)
      res new

theorem historyPosted_error {e : ClientError} : HistoryPosted cfg tableId fields (.error e) [] :=
  .inl ⟨rfl, fun _ h => by cases h⟩

theorem createHistoryRecord_posts :
    Posting (createHistoryRecord cfg tableId fields) (HistoryPosted cfg tableId fields) [] := by
  unfold createHistoryRecord
  refine (quiet_ofExcept (notApi_validate false)).then (fun _ => ?_) fun e _ => historyPosted_error
  cases hsampled : fields.lookup "采集时间" with
  | none => exact posting_raised rfl historyPosted_error
  | some sampledAt =>
    refine posting_ofExcept rfl ?_
    refine posting_normalize (fun token htoken => ?_) fun e _ => historyPosted_error
    refine (quiet_ofExcept (notApi_url _ _)).then (fun path => ?_) fun e _ => historyPosted_error
    have hkey : historyKey cfg tableId fields sampledAt ≠ "" := by simp [historyKey]
    obtain rfl := htoken _ rfl hkey
    exact Prog.wp_mono (bitableAttempts_answered _ 1 false fun m hm => absurd hm List.not_mem_nil)
        fun res new h =>
      .inr ⟨path, sampledAt, hsampled, h⟩

theorem createHistoryRecord_table :
    (createHistoryRecord cfg tableId fields).Within tableRequests
      (max 1 cfg.requestRetryTimes) := by
  have hsum :
      max 1 cfg.requestRetryTimes = 0 + (0 + (0 + (0 + max 1 cfg.requestRetryTimes))) := by omega
  rw [hsum]
  unfold createHistoryRecord
  exact Prog.within_bind (Prog.within_ofExcept _) fun _ =>
      Prog.within_bind (Prog.within_ofExcept _) fun sampledAt =>
    Prog.within_bind (normalizeClientToken_table _) fun token =>
        Prog.within_bind (Prog.within_ofExcept _) fun path =>
      requestBitableJson_table _

/-- **A history record is retried as it is.** Every request of a call, at most
as many as the settings allow, carries the token of its table, device and
sampling time, and a result with the code zero is the last answer. -/
theorem history_outcome (hcan : ∀ s c r s', does s c r s' → ClientCan c r)
    (h : Prog.Takes does (createHistoryRecord cfg tableId fields) s made (.done res) s') :
    (posts made).length ≤ max 1 cfg.requestRetryTimes ∧
      (∀ m ∈ posts made, ∃ path sampledAt bearer, fields.lookup "采集时间" = some sampledAt ∧
        m.1 = (historyRequest path (keyToken cfg (historyKey cfg tableId fields sampledAt))
          fields).http bearer) ∧
      ∀ result, res = .ok result → codeOf result = .ok 0 →
        ∃ pre request digits, posts made =
          pre ++ [(request, .ok ⟨200, some (.object result), digits⟩)] := by
  have hlen : (posts made).length ≤ max 1 cfg.requestRetryTimes := by
    rw [length_posts]
    exact h.within createHistoryRecord_table
  rcases h.observed hcan createHistoryRecord_posts with ⟨hnone, hok⟩ | ⟨path, sampledAt, hsampled,
    hrequests, -, hlast⟩
  · have hnil : posts made = [] := hnone
    refine ⟨hlen, ?_, fun result hres => absurd hres (hok result)⟩
    rw [hnil]
    exact fun m hm => absurd hm List.not_mem_nil
  · refine ⟨hlen, fun m hm => ?_, fun result hres hcode => ?_⟩
    · obtain ⟨bearer, hbearer⟩ := hrequests m hm
      exact ⟨path, sampledAt, bearer, hsampled, hbearer⟩
    · obtain ⟨pre, bearer, digits, hpre⟩ := confirmed_last (hlast result hres) hcode
      exact ⟨pre, _, digits, hpre⟩

def firstHistory : ClientProg JsonDict :=
  createHistoryRecord plainConfig "tblHistory"
    [("设备编号", .text "TH-01"), ("采集时间", .number 1700000000000)]

theorem history_recorded :
    ∃ made result, Prog.Takes (Steady accepted) firstHistory () made (.done (.ok result)) () ∧
      (posts made).length ≤ 3 ∧
      ∀ m ∈ posts made, ∃ path bearer,
        m.1 = (historyRequest path (keyToken plainConfig "HISTORY:tblHistory:TH-01:1700000000000")
        [("设备编号", .text "TH-01"), ("采集时间", .number 1700000000000)]).http bearer := by
  have hrun := takes_steady accepted 10 firstHistory
  obtain ⟨result, hdone⟩ :=
    Prog.done_of_returned (p := (Prog.answered (steady accepted) 10 firstHistory ()).2.1)
      (by decide +kernel)
  rw [hdone] at hrun
  obtain ⟨hlen, hrequests, -⟩ := history_outcome (canCreate_steady _) hrun
  refine ⟨_, result, hrun, hlen, fun m hm => ?_⟩
  obtain ⟨path, sampledAt, bearer, hsampled, hm⟩ := hrequests m hm
  obtain rfl : Json.number 1700000000000 = sampledAt := Option.some.inj hsampled
  have hkey :
      historyKey plainConfig "tblHistory" [("设备编号", .text "TH-01"), ("采集时间", .number 1700000000000)]
      (.number 1700000000000) = "HISTORY:tblHistory:TH-01:1700000000000" := by decide +kernel
  rw [hkey] at hm
  exact ⟨path, bearer, hm⟩

end Posts

end Client

end TemperatureMonitor
