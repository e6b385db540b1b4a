/-
# History sampling

`sample_history`: the bucket of the moment, the snapshots of the live table,
and for each device a row in its own history table, behind a watermark in the
process and a capture in SQLite; then the cleanup of expired rows. A device's
part of a call touches what belongs to that device alone (`DeviceHistory`).

Times are in seconds: a call reads the clock to the minute. A `ZoneInfo` is a
parameter (`Zone`); of two datetimes of one zone Python compares the wall
clocks. The configuration is a valid one, and a remote call's outcome is an
input.
-/
import TemperatureMonitor.Domain.FeishuCell
import TemperatureMonitor.Domain.Models
import TemperatureMonitor.Library.Table

namespace TemperatureMonitor

/-! ### Time -/

/-- A time zone: the wall clock of an instant, and the instant of a wall clock (`fold=0`). -/
structure Zone where
  wall : ℤ → ℤ
  instant : ℤ → ℤ

structure HistoryConfig where
  devices : List String
  /-- A device has a history table of its own. -/
  intervalMinutes : ℤ := 10
  retentionDays : ℤ := 90
  cleanupEnabled : Bool := false
  cleanupHour : ℤ := 2

/-- `floor_sample_time`: the wall clock of the bucket. -/
def floorSampleTime (cfg : HistoryConfig) (z : Zone) (now : ℤ) : ℤ :=
  let localNow := z.wall now
  let bucketMinutes := localNow % 86400 / 60 / cfg.intervalMinutes * cfg.intervalMinutes
  localNow / 86400 * 86400 + bucketMinutes * 60

/-- `int(sample_time.timestamp() * 1000)`. -/
def Zone.ms (z : Zone) (sampleTime : ℤ) : ℤ := z.instant sampleTime * 1000

/-- `_coerce_history_datetime` of a number: up to 10 000 000 000 it is taken for seconds. -/
def Zone.coerce (z : Zone) (numeric : ℤ) : ℤ :=
  z.wall (if 10000000000 < numeric then numeric / 1000 else numeric)

/-! ### Fields -/

section Fields

variable (py : PyText)

/-- `_normalize_number`; `parse` is `float` of a text, without what is not finite. -/
def normalizeNumber (parse : String → Option ℚ) : Json → Option ℚ
  | .null | .bool _ => none
  | .number q => some q
  | .text s => if s = "" then none else parse (strip s)
  | value => parse (strip (py.str value))

/-- The fields of a record of the live table; a missing one reads as null. -/
abbrev Snapshot := String → Json

/-- A row of history: what is captured, and what is sent. -/
structure HistoryFields where
  device : String
  area : String
  onlineStatus : String
  tempJudgment : String
  humidityJudgment : String
  process : String
  overallJudgment : String
  workStatus : String
  alarmStatus : String
  temperature : Option ℚ
  humidity : Option ℚ
  sampleTimeMs : ℤ
deriving DecidableEq

/-- `build_history_fields`. -/
def buildHistoryFields (parse : String → Option ℚ) (fields : Snapshot) (sampleTimeMs : ℤ) :
    HistoryFields :=
  let text := fun name => normalizeFieldValue py.str (fields name)
  let online := text "在线状态" = "在线"
  { device := text "设备编号"
    area := text "区域"
    onlineStatus := text "在线状态"
    tempJudgment := text "温度判定"
    humidityJudgment := text "湿度判定"
    process := text "当前工艺"
    overallJudgment := text "当前判定状态"
    workStatus := text "当前作业状态"
    alarmStatus := text "警报状态"
    temperature := if online then normalizeNumber py parse (fields "当前温度") else none
    humidity := if online then normalizeNumber py parse (fields "当前湿度") else none
    sampleTimeMs }

def sortedTexts (l : List String) : List String := l.mergeSort fun a b => a ≤ b

/-- `_index_realtime_snapshots`. -/
def indexRealtimeSnapshots (upper : String → String) (expected : List String)
    (records : List Snapshot) : Except PyError (List (String × Snapshot)) :=
  let indexed := records.filterMap fun fields =>
    let device := upper (normalizeFieldValue py.str (fields "设备编号"))
    if device ∈ expected then some (device, fields) else none
  let duplicates := expected.filter fun device => 1 < (indexed.map (·.1)).count device
  let missing := expected.filter fun device => device ∉ indexed.map (·.1)
  if duplicates ≠ [] then
    .error (.runtimeError ("实时总表设备编号重复: " ++ ", ".intercalate (sortedTexts duplicates)))
  else if missing ≠ [] then
    .error (.runtimeError ("实时总表缺少设备: " ++ ", ".intercalate (sortedTexts missing)))
  else .ok indexed

end Fields

/-! ### A device -/

/-- A row of a history table, and the bucket it was made for. -/
structure HistoryRow where
  sampleTime : ℤ
  fields : HistoryFields
deriving DecidableEq

/-- What belongs to a device: its captures, its entries in the dicts of the process, and its remote
table. `given` are the rows the table was ever given. -/
structure DeviceHistory where
  captured : List HistoryFields := []
  latestSample : Option (Option ℤ) := none
  cleanupDate : Option ℤ := none
  remote : List HistoryRow := []
  given : List HistoryRow := []

/-- The newest sampling time of a table. -/
def newestMs (rows : List HistoryRow) : Option ℤ := (rows.map (·.fields.sampleTimeMs)).max?

inductive CreateOutcome
  | accepted
  /-- A response with an error code. -/
  | refused
  | failed (stored : Bool)
deriving DecidableEq

inductive CleanupOutcome
  | completed
  /-- A query or a batch failed; these rows are gone already. -/
  | failed (gone : HistoryRow → Bool)

/-- What a device's part of a call finds. -/
structure DeviceCall where
  latestRead : Bool := true
  saved : Bool := true
  fetched : Bool := true
  create : CreateOutcome := .accepted
  cleanup : CleanupOutcome := .completed

inductive DeviceReport
  | created | skipped | failed
deriving DecidableEq

/-- What a device's part of a call did; `sent` is the payload of its create attempt. -/
structure DeviceResult where
  history : DeviceHistory
  report : DeviceReport
  sent : Option HistoryFields := none

/-- `INSERT OR IGNORE` under the key of the sampling time. -/
def captureFields (fields : HistoryFields) (captured : List HistoryFields) : List HistoryFields :=
  if (rowOf HistoryFields.sampleTimeMs captured fields.sampleTimeMs).isSome then captured
    else captured ++ [fields]

/-- The table is given a row. -/
def DeviceHistory.receive (h : DeviceHistory) (row : HistoryRow) : DeviceHistory :=
  { h with remote := h.remote ++ [row], given := h.given ++ [row] }

section Device

variable (cfg : HistoryConfig) (z : Zone)

/-- A create attempt. -/
def DeviceHistory.create (h : DeviceHistory) (sampleTime : ℤ) (payload : HistoryFields)
    (outcome : CreateOutcome) : DeviceResult :=
  match outcome with
  | .accepted =>
    ⟨{ h.receive ⟨sampleTime, payload⟩ with latestSample := some (some sampleTime) }, .created,
      some payload⟩
  | .refused => ⟨{ h with latestSample := none }, .failed, some payload⟩
  | .failed true =>
    ⟨{ h.receive ⟨sampleTime, payload⟩ with latestSample := none }, .failed, some payload⟩
  | .failed false => ⟨{ h with latestSample := none }, .failed, some payload⟩

/-- The body of the loop over the devices. -/
def DeviceHistory.sample (h : DeviceHistory) (device : String) (sampleTime : ℤ)
    (built : HistoryFields) (x : DeviceCall) : DeviceResult :=
  match h.latestSample <|> if x.latestRead then some ((newestMs h.remote).map z.coerce)
    else none with
  | none => ⟨h, .failed, none⟩
  | some latest =>
    let known := { h with latestSample := some latest }
    if latest.any (sampleTime ≤ ·) then ⟨known, .skipped, none⟩
    else if !x.saved then ⟨known, .failed, none⟩
    else
      let saved := { known with captured := captureFields { built with device } known.captured }
      match (rowOf HistoryFields.sampleTimeMs saved.captured built.sampleTimeMs).filter fun _ =>
        x.fetched with
      | none => ⟨saved, .failed, none⟩
      | some payload => saved.create sampleTime payload x.create

/-- `run_cleanup_if_due`, of one device. -/
def DeviceHistory.cleanup (h : DeviceHistory) (sampleTime : ℤ) (outcome : CleanupOutcome) :
    DeviceHistory :=
  let today := sampleTime / 86400
  let cutoffMs := z.ms ((today - cfg.retentionDays) * 86400)
  if !cfg.cleanupEnabled || sampleTime % 86400 / 3600 < cfg.cleanupHour ||
    h.cleanupDate = some today || cutoffMs ≤ 0 then h
  else match outcome with
    | .completed =>
      { h with remote := h.remote.filter fun row => cutoffMs ≤ row.fields.sampleTimeMs, cleanupDate := some today }
    | .failed gone =>
      { h with remote := h.remote.filter fun row => cutoffMs ≤ row.fields.sampleTimeMs || !gone row }

end Device

/-! ### Calls -/

def HistoryState := String → DeviceHistory

/-- A call: the clock, the records of the live table or the text of what the read raises, and what
each device's part finds. -/
structure SampleCall where
  now : ℤ
  records : Except String (List Snapshot)
  device : String → DeviceCall := fun _ => {}

/-- A create attempt of a run. -/
structure CreateAttempt where
  device : String
  sampleTime : ℤ
  payload : HistoryFields
deriving DecidableEq

section Calls

variable (py : PyText) (parse : String → Option ℚ) (upper : String → String)
  (cfg : HistoryConfig) (z : Zone)

/-- The snapshots of a call, by device. -/
def SampleCall.snapshots (c : SampleCall) : Except PyError (List (String × Snapshot)) :=
  match c.records with
  | .error text => .error (.runtimeError text)
  | .ok records => indexRealtimeSnapshots py upper cfg.devices records

/-- A device's part of a call. -/
def SampleCall.sampleDevice (c : SampleCall) (snapshots : List (String × Snapshot))
    (h : DeviceHistory) (device : String) : DeviceResult :=
  let sampleTime := floorSampleTime cfg z c.now
  h.sample z device sampleTime
    (buildHistoryFields py parse ((snapshots.lookup device).getD fun _ => .null) (z.ms sampleTime))
      (c.device device)

/-- `sample_history`: what it leaves, and the create attempts it makes. A read that fails ends the
call. -/
def sampleHistory (c : SampleCall) (s : HistoryState) : HistoryState × List CreateAttempt :=
  match c.snapshots py upper cfg with
  | .error _ => (s, [])
  | .ok snapshots =>
    let sampleTime := floorSampleTime cfg z c.now
    let result := fun device => c.sampleDevice py parse cfg z snapshots (s device) device
    (fun device =>
        if device ∈ cfg.devices then
          (result device).history.cleanup cfg z sampleTime (c.device device).cleanup
        else s device,
      cfg.devices.filterMap fun device => (result device).sent.map fun payload =>
        ⟨device, sampleTime, payload⟩)

/-- A new process: the dicts are empty. -/
def HistoryState.restart (s : HistoryState) : HistoryState :=
  fun device => { s device with latestSample := none, cleanupDate := none }

inductive HistoryOp
  | sample (c : SampleCall)
  | restart

def HistoryOp.apply (s : HistoryState) : HistoryOp → HistoryState × List CreateAttempt
  | sample c => sampleHistory py parse upper cfg z c s
  | restart => (s.restart, [])

end Calls

end TemperatureMonitor
