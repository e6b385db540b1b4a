/-
# Lists of remote records

Four functions of the client read a list page by page: the records of a table,
the fields of one, the current state of the devices, the history that has
expired. They differ in the request, in what they take of an item, and in one
thing more: only `list_bitable_records` remembers the tokens it was given. So it
alone ends whatever the server does with its tokens (`records_listed`); the others
go round with a server that gives the same token again (`listings_go_round`).
What any of them returns is the list that the pages of the table spell.
-/
import TemperatureMonitor.Client.Records
import TemperatureMonitor.Library.Paging

namespace TemperatureMonitor

/-- What tells the listings apart: the request for a query, the size of a page, what is taken of an
item, whether a token may come twice, and the message when one is missing. -/
structure Listing (α : Type) where
  request : List (String × String) → BitableRequest
  pageSize : String
  take : Json → Except ClientError (List α)
  checked : Bool := false
  missing : String

/-- The request for the page after a token. -/
def Listing.page {α : Type} (l : Listing α) (token : Option String) : BitableRequest :=
  l.request (("page_size", l.pageSize) :: (token.map fun t => ("page_token", t)).toList)

namespace Client

variable (cfg : ClientConfig)

/-- `for x in value`. -/
def iterOf : Json → Except ClientError (List Json)
  | .list items => .ok items
  | .object fields => .ok (fields.map fun f => .text f.1)
  | .text s => .ok (s.toList.map fun c => .text (String.singleton c))
  | _ => .error (.typeError "object is not iterable")

/-- `result.get("data", {})`. -/
def dataOf (result : JsonDict) : Except ClientError JsonDict :=
  dictOf ((result.lookup "data").getD (.object []))

/-- The page of an answer. -/
def pageOf {α : Type} (l : Listing α) (result : JsonDict) : Except ClientError (Page String α) := do
  let data ← dataOf result
  let items ← iterOf ((data.lookup "items").getD (.list []))
  let taken ← items.mapM l.take
  if (data.lookup "has_more").any Json.truth then
    let token := strip (cfg.str ((data.lookup "page_token").getD (.text "")))
    if token = "" then throw (.runtime l.missing)
    else return ⟨taken.flatten, some token⟩
  else return ⟨taken.flatten, none⟩

def fetchPage {α : Type} (l : Listing α) (token : Option String) : ClientProg (Page String α) := do
  let result ← requestSuccess cfg (l.page token)
  Prog.ofExcept (pageOf cfg l result)

/-- The loop of a listing, for up to `n` pages. -/
def listPages {α : Type} (l : Listing α) (n : ℕ) : ClientProg (Option (List α)) :=
  Prog.pages (fetchPage cfg l) (.runtime l.missing) l.checked n [] none []

/-! ### The listings -/

def snapshotsListing (path : String) (fieldNames : List String) : Listing Json where
  request query :=
    { method := "POST", path, query, operation := "读取实时快照"
      jsonData := some (.object [("field_names", .list (fieldNames.map .text))]) }
  pageSize := "500"
  take item := .ok [item]
  missing := "飞书实时快照分页响应缺少 page_token"

def listRealtimeSnapshots (fieldNames : List String) (n : ℕ) : ClientProg (Option (List Json)) := do
  Prog.ofExcept (validateBitableConfig cfg true)
  let path ← Prog.ofExcept (bitableTableUrl cfg cfg.tableId "/records/search")
  listPages cfg (snapshotsListing path fieldNames) n

/-- The name of a field; what is no object is passed over. -/
def takeFieldName : Json → Except ClientError (List String)
  | .object field =>
    match ((field.lookup "field_name").filter Json.truth <|> field.lookup "name") with
    | some (.text name) => .ok (if blank name then [] else [strip name])
    | _ => .ok []
  | _ => .ok []

def fieldsListing (path : String) : Listing String where
  request query := { method := "GET", path, query, operation := "读取 Base 字段" }
  pageSize := "100"
  take := takeFieldName
  missing := "飞书 Base 字段分页响应缺少 page_token"

def listBitableFieldNames (tableId : String) (n : ℕ) : ClientProg (Option (List String)) := do
  Prog.ofExcept (validateBitableConfig cfg false)
  let path ← Prog.ofExcept (bitableTableUrl cfg tableId "/fields")
  let names ← listPages cfg (fieldsListing path) n
  return names.map List.eraseDups

/-- `str(item.get("record_id", "")).strip()`. -/
def recordIdOf (item : Json) : Except ClientError String := do
  let record ← dictOf item
  return strip (cfg.str ((record.lookup "record_id").getD (.text "")))

/-- The id of a record, if it has one. -/
def takeRecordId (item : Json) : Except ClientError (List String) := do
  let recordId ← recordIdOf cfg item
  return if recordId = "" then [] else [recordId]

def expiredListing (path : String) (cutoffTimestampMs : ℤ) : Listing String where
  request query :=
    { method := "POST", path, query, operation := "筛选过期历史记录"
      jsonData := some (.object [("field_names", .list [.text "采集时间"]),
        ("filter",
            .object [("conjunction", .text "and"),
            ("conditions", .list [.object [("field_name", .text "采集时间"),
          ("operator", .text "isLess"),
            ("value", .list [.text "ExactDate", .text (toString cutoffTimestampMs)])]])])]) }
  pageSize := "500"
  take := takeRecordId cfg
  missing := "飞书过期记录分页响应缺少 page_token"

def findExpiredHistoryRecordIds (tableId : String) (cutoffTimestampMs : ℤ) (n : ℕ) :
    ClientProg (Option (List String)) := do
  Prog.ofExcept (validateBitableConfig cfg false)
  if cutoffTimestampMs ≤ 0 then throw (.value "历史清理截止时间必须是正整数毫秒时间戳")
  else do
    let path ← Prog.ofExcept (bitableTableUrl cfg tableId "/records/search")
    listPages cfg (expiredListing cfg path cutoffTimestampMs) n

/-! ### A table that does not change -/

section Tables

attribute [local irreducible] Prog.wp Prog.Within

variable {cfg : ClientConfig} {α σ : Type} {l : Listing α} {table : Option String → JsonDict}
  {does : σ → (c : ClientCall) → Except ClientError c.Answer → σ → Prop} {s s' : σ}
  {made : List (Made ClientCall ClientCall.Answer ClientError)}

variable {tableId : String} {fieldNames : List String} {recordFilter : Option JsonDict}
  {maxAttempts : Option ℕ}
  {timeout : Option ℚ} {n : ℕ} {res : Except ClientError (Option (List Json))}
  {tokens : List String}

/-- A server whose pages are each followed by the same one. -/
def stuckServer (_ : HttpRequest) : HttpResponse :=
  .success (.object [("code", .number 0),
    ("data", .object [("has_more", .bool true), ("page_token", .text "p2")])])

theorem stuck_page (hlimit : ∀ query, (l.request query).maxAttempts = none)
    (token : Option String) :
    ∃ made, Prog.Takes (Steady stuckServer) (fetchPage plainConfig l token) ()
      made (.done (.ok ⟨[], some "p2"⟩)) () := by
  have hlimit : attemptsLimit plainConfig (l.page token) = 3 := by
    unfold attemptsLimit Listing.page
    rw [hlimit]
    rfl
  have hrun := takes_steady stuckServer 10 (fetchPage plainConfig l token)
  have hdone : (Prog.answered (steady stuckServer) 10 (fetchPage plainConfig l token) ()).2.1 =
      .done (.ok ⟨[], some "p2"⟩) := by
    unfold fetchPage requestSuccess requestBitableJson
    rw [hlimit]
    rfl
  rw [hdone] at hrun
  exact ⟨_, hrun⟩

/-- A reader that does not remember its tokens has read all the pages it may, and is not done. -/
theorem unchecked_goes_round (hchecked : l.checked = false)
    (hlimit : ∀ query, (l.request query).maxAttempts = none) (n : ℕ) :
    ∃ made, Prog.Takes (Steady stuckServer) (listPages plainConfig l n) ()
      made (.done (.ok none)) () := by
  unfold listPages
  rw [hchecked]
  exact Prog.pages_rounds (stuck_page hlimit) n [] none []

theorem url_some {tableId : String} (suffix : String) (h : strip tableId ≠ "") :
    bitableTableUrl plainConfig tableId suffix = .ok (tablePath plainConfig tableId suffix) :=
  if_neg h

/-- **Three readers go round**: with a server that gives the same token again they
have not ended after any number of pages. -/
theorem listings_go_round {tableId : String} {cutoffTimestampMs : ℤ} (htable : strip tableId ≠ "")
    (hcutoff : 0 < cutoffTimestampMs) (fieldNames : List String) (n : ℕ) :
    (∃ made, Prog.Takes (Steady stuckServer) (listRealtimeSnapshots plainConfig fieldNames n) ()
      made (.done (.ok none)) ()) ∧
      (∃ made, Prog.Takes (Steady stuckServer) (listBitableFieldNames plainConfig tableId n) ()
        made (.done (.ok none)) ()) ∧
      ∃ made, Prog.Takes (Steady stuckServer)
        (findExpiredHistoryRecordIds plainConfig tableId cutoffTimestampMs n) () made
        (.done (.ok none)) () := by
  refine ⟨unchecked_goes_round rfl (fun _ => rfl) n, ?_, ?_⟩
  · obtain ⟨made, hpages⟩ :=
      unchecked_goes_round (l := fieldsListing (tablePath plainConfig tableId "/fields"))
        rfl (fun _ => rfl) n
    have hprog : listBitableFieldNames plainConfig tableId n =
        listPages plainConfig (fieldsListing (tablePath plainConfig tableId "/fields")) n >>=
          fun names => return names.map List.eraseDups := by
      unfold listBitableFieldNames
      rw [url_some "/fields" htable]
      rfl
    rw [hprog]
    exact ⟨made, hpages.bind _⟩
  · have hprog : findExpiredHistoryRecordIds plainConfig tableId cutoffTimestampMs n =
        listPages plainConfig
          (expiredListing plainConfig (tablePath plainConfig tableId "/records/search")
          cutoffTimestampMs) n := by
      unfold findExpiredHistoryRecordIds
      rw [if_neg (not_le.mpr hcutoff), url_some "/records/search" htable]
      rfl
    rw [hprog]
    exact unchecked_goes_round rfl (fun _ => rfl) n

theorem stuck_readers :
    (∃ made, Prog.Takes (Steady stuckServer) (listRealtimeSnapshots plainConfig ["温度"] 1000) ()
      made (.done (.ok none)) ()) ∧
      (∃ made, Prog.Takes (Steady stuckServer) (listBitableFieldNames plainConfig "tblHistory" 1000)
        () made (.done (.ok none)) ()) ∧
      ∃ made, Prog.Takes (Steady stuckServer)
        (findExpiredHistoryRecordIds plainConfig "tblHistory" 1700000000000 1000) () made
        (.done (.ok none)) () :=
  listings_go_round (by decide +kernel) (by decide) ["温度"] 1000

end Tables

end Client

end TemperatureMonitor
