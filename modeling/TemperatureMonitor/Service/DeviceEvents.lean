/-
# Samples and the events of a device

`persist_sample` stores one sample of a device and a source, and the
transitions against the row stored before: `evaluate_transitions` compares the
two rows' status and temperature band. Each write is a unit of its own. What a
read or a write does is part of the call (`SampleWrites`): it may be refused, so
that the mirror notes the failure and goes on, or raise.
-/
import TemperatureMonitor.Domain.FeishuCell
import TemperatureMonitor.Domain.Standards
import TemperatureMonitor.Library.Newest
import TemperatureMonitor.Service.Dispatch

namespace TemperatureMonitor

/-! ### The inputs -/

/-- `str.lower` and `str.upper`, of which the code relies on the ASCII letters. -/
structure CaseMapping where
  lower : String → String
  upper : String → String
  lower_ascii : ∀ s : String, (∀ c ∈ s.toList, 97 ≤ c.toNat ∧ c.toNat ≤ 122) → lower s = s
  upper_ascii : ∀ s : String, (∀ c ∈ s.toList, 97 ≤ c.toNat ∧ c.toNat ≤ 122) →
    upper s = asciiUpper s

/-- A reading as it is handed in: a text comes with the number `float` makes of it, if any. -/
inductive RawReading
  | missing
  | bool (b : Bool)
  | number (x : Number)
  /-- An integer too large for a float. -/
  | hugeInteger
  | text (parsed : Option Number)
deriving DecidableEq

/-- `_coerce_number`; `none` outside for the `OverflowError` of `float`. -/
def coerceNumber : RawReading → Option (Option ℚ)
  | .number (.finite q) => some (some q)
  | .text (some (.finite q)) => some (some q)
  | .hugeInteger => none
  | _ => some none

/-- `normalize_status`. -/
def normalizeStatus (py : CaseMapping) (value : String) : Option String :=
  let text := py.lower (strip value)
  if text ∈ ["online", "on", "1", "true", "在线", "run", "running"] then some "online"
  else if text ∈ ["offline", "off", "0", "false", "离线", "unavailable", "unknown", "none",
      "null", "nan",
      "stopped", "fault"] then some "offline"
  else none

/-! ### Transitions -/

inductive DeviceEventType
  | statusChange | temperatureAlert
deriving DecidableEq

/-- An event that `evaluate_transitions` returns. -/
structure Transition where
  eventType : DeviceEventType
  oldState : String
  newState : String
  value : Option ℚ := none
  message : String
deriving DecidableEq

/-- `f"{x:.1f}"`. -/
def fixed1 (x : ℚ) : String :=
  let tenths := (roundHalfEven (|x| * 10)).toNat
  (if x < 0 then "-" else "") ++ toString (tenths / 10) ++ "." ++ toString (tenths % 10)

/-- `_temperature_band`. -/
def temperatureBand (temperature threshold : Option ℚ) : Option String :=
  match threshold, temperature with
  | some high, some t => some (if t > high then "TEMPERATURE_HIGH" else "NORMAL")
  | _, _ => none

section Events

variable (py : CaseMapping) (threshold : Option ℚ)

/-- The state of a row in the events of a type, where it has one. -/
def DeviceEventType.stateOf : DeviceEventType → SampleRow → Option String
  | statusChange, r => if py.lower r.status = "" then none else some (py.upper (py.lower r.status))
  | temperatureAlert, r => temperatureBand r.temperature threshold

/-- The crossing between two rows, both of a known state. -/
def DeviceEventType.crossing (kind : DeviceEventType) (previous : Option SampleRow)
    (current : SampleRow) : Option (String × String) :=
  match previous.bind (kind.stateOf py threshold), kind.stateOf py threshold current with
  | some old, some new => if old = new then none else some (old, new)
  | _, _ => none

/-- The text and the value of an event. -/
def DeviceEventType.event (kind : DeviceEventType) (current : SampleRow) (old new : String) :
    Transition :=
  match kind with
  | statusChange =>
    { eventType := .statusChange, oldState := old, newState := new, message := old ++ " -> " ++ new }
  | temperatureAlert =>
    { eventType := .temperatureAlert, oldState := old, newState := new, value := current.temperature
      message := old ++ " -> " ++ new ++ ": " ++ fixed1 (current.temperature.getD 0) ++ "C " ++
        (if new = "TEMPERATURE_HIGH" then ">" else "<=") ++ " threshold " ++
          fixed1 (threshold.getD 0) ++ "C" }

/-- The event of a type, if there is one. -/
def DeviceEventType.transition (kind : DeviceEventType) (previous : Option SampleRow)
    (current : SampleRow) : List Transition :=
  match kind.crossing py threshold previous current with
  | some (old, new) => [kind.event threshold current old new]
  | none => []

/-- `evaluate_transitions`. -/
def evaluateTransitions (previous : Option SampleRow) (current : SampleRow) : List Transition :=
  DeviceEventType.statusChange.transition py threshold previous current ++
    DeviceEventType.temperatureAlert.transition py threshold previous current

end Events

/-! ### The tables -/

/-- A row of `device_events`. -/
structure DeviceEventRow extends Transition where
  deviceId : String
  source : String
deriving DecidableEq

structure DeviceTables where
  samples : List SampleRow := []
  presence : List DevicePresence := []
  events : List DeviceEventRow := []
deriving DecidableEq

/-- What becomes of a mirror write. -/
inductive WriteResult
  | stored | refused | raised
deriving DecidableEq

/-- What the database does in the course of a call. -/
structure SampleWrites where
  /-- The row stored before can be read. -/
  readable : Bool := true
  sample : WriteResult := .stored
  statusEvent : WriteResult := .stored
  alertEvent : WriteResult := .stored
deriving DecidableEq

def SampleWrites.event (w : SampleWrites) : DeviceEventType → WriteResult
  | .statusChange => w.statusEvent
  | .temperatureAlert => w.alertEvent

/-- The arguments of a call, the clock and the database. -/
structure PersistCall where
  device : String
  source : String
  temperature : RawReading := .missing
  humidity : RawReading := .missing
  status : String
  sampleTimeMs : Option ℤ := none
  onlyOnStatusChange : Bool := false
  dedupeWindowMs : ℤ := 0
  nowMs : ℤ
  /-- The sample time can be made a local time. -/
  representable : Bool := true
  writes : SampleWrites := {}
deriving DecidableEq

structure SamplePersistOutcome where
  sample : Option ObservedSample := none
  sampleTimeMs : Option ℤ := none
  duplicate : Bool := false
  persisted : Bool := false
  transitions : List Transition := []
  reason : Option String := none
deriving DecidableEq

/-! ### The call -/

/-- `KNOWN_SOURCES`. -/
def knownSources : List String := [sourceHomeAssistant, "modbus"]

/-- What the checks before the first write come to. -/
inductive Intake
  | refused (reason : String)
  | repeated (previous : SampleRow)
  | accepted (row : SampleRow) (previous : Option SampleRow)
deriving DecidableEq

section Persist

variable (py : CaseMapping) (threshold : Option ℚ)

/-- `_is_duplicate_sample`. -/
def isDuplicateSample (previous current : SampleRow) (dedupeWindowMs : ℤ) : Bool :=
  let delta := current.sampleTimeMs - previous.sampleTimeMs
  ¬(delta < 0 ∨ delta > dedupeWindowMs) ∧ py.lower previous.status = current.status ∧
    previous.temperature = current.temperature ∧ previous.humidity = current.humidity

/-- The row stored before, as far as it can be read. -/
def PersistCall.baseline (c : PersistCall) (rows : List SampleRow) (device source : String) :
    Option SampleRow :=
  if c.writes.readable then fetchPreviousDeviceSample rows device source else none

def PersistCall.intake (c : PersistCall) (rows : List SampleRow) : Intake :=
  let device := py.upper (strip c.device)
  let source := py.lower (strip c.source)
  if device = "" then .refused "empty_device"
  else if source ∉ knownSources then .refused "unknown_source"
  else match normalizeStatus py c.status with
  | none => .refused "unknown_status"
  | some status =>
    match coerceNumber c.temperature, coerceNumber c.humidity with
    | some temperature, some humidity =>
      let row : SampleRow :=
        { device, source, sampleTimeMs := c.sampleTimeMs.getD c.nowMs, temperature, humidity, status }
      let previous := c.baseline rows device source
      if c.onlyOnStatusChange ∧ status = "offline" ∧ previous.any fun p =>
          py.lower p.status = "offline" then
        .refused "status_unchanged"
      else if c.dedupeWindowMs > 0 ∧ previous.any fun p =>
          isDuplicateSample py p row c.dedupeWindowMs then
        match previous with
        | some p => .repeated p
        | none => .accepted row previous
      else .accepted row previous
    | _, _ => .refused "exception"

/-- `save_device_sample`: the row and the presence, in one unit. -/
def DeviceTables.saveSample (s : DeviceTables) (row : SampleRow) (heartbeatAtMs : ℤ) :
    DeviceTables :=
  let offline := row.status = "offline"
  { s with
    samples := saveDeviceSample s.samples row
    presence := upsertDevicePresence s.presence row.device row.source
      (if offline then none else some row.sampleTimeMs) heartbeatAtMs
      (if offline then "offline" else "online") row.temperature row.humidity }

/-- `save_device_event` for each transition, until one raises: the rows stored, and whether one
raised. -/
def saveTransitions (w : SampleWrites) (device source : String) : List Transition →
    List DeviceEventRow × Bool
  | [] => ([], false)
  | t :: rest =>
    match w.event t.eventType with
    | .raised => ([], true)
    | .refused => saveTransitions w device source rest
    | .stored =>
      let r := saveTransitions w device source rest
      ({ t with deviceId := device, source := source } :: r.1, r.2)

/-- The sample as it is handed to the listeners. -/
def observed (row : SampleRow) (nowMs : ℤ) : ObservedSample :=
  { deviceId := row.device
    sampleTime := fromTimestampMs row.sampleTimeMs
    temperature := row.temperature
    humidity := row.humidity
    onlineStatus := some row.status
    dataQuality := if row.status = "offline" then some .offline else none
    recordType := "MEASUREMENT"
    measurementTime := some (fromTimestampMs row.sampleTimeMs)
    heartbeatTime := some (fromTimestampMs nowMs)
    availability := some row.status }

/-- The writes for an accepted row. -/
def DeviceTables.write (s : DeviceTables) (c : PersistCall) (row : SampleRow)
    (previous : Option SampleRow) : SamplePersistOutcome × DeviceTables :=
  let transitions := evaluateTransitions py threshold previous row
  let events := saveTransitions c.writes row.device row.source transitions
  let outcome (persisted : Bool) : SamplePersistOutcome :=
    if events.2 ∨ ¬ c.representable then { reason := some "exception" }
    else { sample := some (observed row c.nowMs), sampleTimeMs := some row.sampleTimeMs, persisted, transitions }
  match c.writes.sample with
  | .raised => ({ reason := some "exception" }, s)
  -- what the write returned is noted, and the transitions are evaluated either way
  | .refused => (outcome false, { s with events := s.events ++ events.1 })
  | .stored =>
    let s := s.saveSample row c.nowMs
    (outcome true, { s with events := s.events ++ events.1 })

/-- `persist_sample`. -/
def DeviceTables.persistSample (s : DeviceTables) (c : PersistCall) :
    SamplePersistOutcome × DeviceTables :=
  match c.intake py s.samples with
  | .refused reason => ({ reason := some reason }, s)
  | .repeated previous =>
    (if c.representable then
      { sample := some (sampleFromRow previous.device previous previous.sampleTimeMs
          (fetchDevicePresence s.presence previous.device previous.source))
        sampleTimeMs := some previous.sampleTimeMs, duplicate := true }
    else { reason := some "exception" }, s)
  | .accepted row previous => s.write py threshold c row previous

end Persist

end TemperatureMonitor
