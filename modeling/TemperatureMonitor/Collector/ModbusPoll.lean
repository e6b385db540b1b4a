/-
# One poll of a Modbus device

`poll_once` connects if it has to, reads the registers of the map in blocks, by
type, and makes a sample of them. The device is on the other side of the calls:
it may refuse, answer an error or too few registers, and its registers may change
between two requests. A poll asks for the addresses of the map and for no others,
and what it returns is what reading each field on its own would have given, each
at the moment of a request that covered it (`poll_account`).
-/
import TemperatureMonitor.Collector.RegisterMap
import TemperatureMonitor.Library.Cost

namespace TemperatureMonitor

/-- What a call raises: the classes `poll_once` catches, and others. -/
inductive ModbusRaise
  | runtime (name : String)
  | os (name : String)
  | value (name : String)
  | modbus (name : String)
  | other (name : String)
deriving DecidableEq

def ModbusRaise.caught : ModbusRaise → Bool
  | other _ => false
  | _ => true

/-- `type(exc).__name__`. -/
def ModbusRaise.name : ModbusRaise → String
  | runtime name | os name | value name | modbus name | other name => name

/-- A response of the client; `registers` is `none` where it has no list of them. -/
structure ModbusResponse where
  isError : Bool
  registers : Option (List ℕ)

inductive ModbusCall
  | connected
  | connect
  | read (type : RegisterType) (start count : ℕ)
  | close
  | time
deriving DecidableEq

def ModbusCall.Answer : ModbusCall → Type
  | connected | connect => Bool
  | read .. => ModbusResponse
  | close => Unit
  | time => ℚ

abbrev ModbusProg (α : Type) := Prog ModbusCall ModbusCall.Answer ModbusRaise α

/-- The stats of a poller. -/
structure PollerStats where
  lastSuccess : Option ℚ := none
  lastErrorSummary : Option String := none
  consecutiveFailures : ℕ := 0
deriving DecidableEq

/-- `_mark_failure`. -/
def PollerStats.markFailure (s : PollerStats) (e : ModbusRaise) : PollerStats :=
  { s with lastErrorSummary := some e.name, consecutiveFailures := s.consecutiveFailures + 1 }

/-- The sample of a poll; device and source are the poller's. -/
structure UnifiedSample where
  temperature : Option ℚ
  humidity : Option ℚ
  online : Bool
deriving DecidableEq

/-! ### A sample of raw values -/

section Sample

variable (fl : FloatArith)

/-- `decode_register`. -/
def decodeRegister (field : MeasurementField) (raw : ℕ) : Number :=
  fl.times (if field.encoding = .int16 ∧ 0x8000 ≤ raw then (raw : ℤ) - 0x10000 else raw) field.scale

/-- `round(value, 2) if _in_range(value, bounds) else None`. -/
def roundedIn (low high : ℚ) : Number → Option ℚ
  | .finite q => if low ≤ q ∧ q ≤ high then some (fl.round2 q) else none
  | _ => none

end Sample

/-! ### The poll -/

namespace Modbus

def ask (c : ModbusCall) : ModbusProg c.Answer := Prog.perform c

/-- What `_read_run` makes of a response. -/
def registersOf (count : ℕ) (response : ModbusResponse) : Except ModbusRaise (List ℕ) :=
  if response.isError then .error (.runtime "ModbusReadError")
  else
    match response.registers with
    | some registers =>
      if registers.length < count then .error (.runtime "ModbusShortResponseError")
        else .ok (registers.take count)
    | none => .error (.runtime "ModbusShortResponseError")

/-- `_read_run`. -/
def readRun (type : RegisterType) (start count : ℕ) : ModbusProg (List ℕ) := do
  let response ← ask (.read type start count)
  Prog.ofExcept (registersOf count response)

/-- Raw values by address, the newest first. -/
abbrev RawValues := List (ℕ × ℕ)

/-- `raw_values.update` with the registers of a block. -/
def RawValues.update (values : RawValues) (start : ℕ) (registers : List ℕ) : RawValues :=
  (registers.zipIdx start).map (fun r => (r.2, r.1)) ++ values

/-- The blocks, one request each. -/
def readBlocks (type : RegisterType) : List (ℕ × ℕ) → RawValues → ModbusProg RawValues
  | [], values => pure values
  | block :: rest, values => do
    let registers ← readRun type block.1 (block.2 - block.1 + 1)
    readBlocks type rest (values.update block.1 registers)

/-- `_read_registers_by_type`. -/
def readRegistersByType (m : RegisterMap) (type : RegisterType) : ModbusProg RawValues :=
  readBlocks type (blocks (m.addresses type)) []

/-- `_raw`: a `KeyError` for an address that was not read. -/
def rawValue (holding input : RawValues) (place : RegisterPlace) : Except ModbusRaise ℕ :=
  match (match place.type with | .holding => holding | .input => input).lookup
    place.address.val with
  | some raw => .ok raw
  | none => .error (.other "KeyError")

/-- What `poll_once` makes of the raw values. -/
def sampleOfValues (fl : FloatArith) (m : RegisterMap) (holding input : RawValues) :
    Except ModbusRaise UnifiedSample := do
  let temperature ← rawValue holding input m.temperature.toRegisterPlace
  let humidity ← rawValue holding input m.humidity.toRegisterPlace
  let online ← match m.deviceStatus with
    | none => pure true
    | some field =>
      (rawValue holding input field.toRegisterPlace).map fun raw =>
        decide ((raw : ℤ) = field.onlineValue)
  pure
    { temperature := roundedIn fl (-50) 100 (decodeRegister fl m.temperature temperature)
      humidity := roundedIn fl 0 100 (decodeRegister fl m.humidity humidity)
      online }

def connectNow : ModbusProg Unit := do
  let up : Bool ← ask .connect
  if up then pure () else throw (.os "ConnectionError")

/-- `if not connected and not connect(): raise ConnectionError`. -/
def ensureConnected : ModbusProg Unit := do
  let connected : Bool ← ask .connected
  if connected then pure () else connectNow

/-- The part of `poll_once` that may raise. -/
def pollTried (fl : FloatArith) (m : RegisterMap) : ModbusProg (UnifiedSample × PollerStats) := do
  ensureConnected
  let holding ← readRegistersByType m .holding
  let input ← readRegistersByType m .input
  let sample ← Prog.ofExcept (sampleOfValues fl m holding input)
  let now ← ask .time
  pure (sample, { lastSuccess := some now })

/-- `_safe_close_client`. -/
def safeClose : ModbusProg Unit := do
  let _ ← (ask .close).captured
  pure ()

/-- `poll_once`: the sample, if there is one, and the stats after it. -/
def pollOnce (fl : FloatArith) (m : RegisterMap) (stats : PollerStats) :
    ModbusProg (Option UnifiedSample × PollerStats) := do
  let tried ← (pollTried fl m).captured
  match tried with
  | .ok (sample, stats) => pure (some sample, stats)
  | .error e =>
    if e.caught then do
      safeClose
      pure (none, stats.markFailure e)
    else throw e

/-! ### What is asked for -/

/-- A request for addresses of the map. -/
def Mapped (m : RegisterMap) : ModbusCall → Prop
  | .read type start count => ∀ a, start ≤ a → a < start + count → a ∈ m.addresses type
  | _ => True

/-- The registers a call asks for. -/
def asked : ModbusCall → ℕ
  | .read _ _ count => count
  | _ => 0

section Asks

variable {fl : FloatArith} {m : RegisterMap} {stats : PollerStats} {type : RegisterType}

end Asks

/-! ### What is returned -/

/-- Calls of a poll, with their answers. -/
abbrev Calls := List (Made ModbusCall ModbusCall.Answer ModbusRaise)

/-- The device answered with this value for the register. -/
def Answered (made : Calls) (type : RegisterType) (address value : ℕ) : Prop :=
  ∃ start count response registers, ⟨.read type start count, .ok response⟩ ∈ made ∧
      response.isError = false ∧
    response.registers = some registers ∧ count ≤ registers.length ∧ start ≤ address ∧
      address < start + count ∧
    registers[address - start]? = some value

/-- The raw values were answered by the device. -/
def Sound (made : Calls) (type : RegisterType) (values : RawValues) : Prop :=
  ∀ a v, values.lookup a = some v → Answered made type a v

section Values

variable {made more : Calls} {type : RegisterType} {values : RawValues}

theorem Answered.append {a v : ℕ} (h : Answered made type a v) (more : Calls) :
    Answered (made ++ more) type a v := by
  obtain ⟨start, count, response, registers, hmem, h⟩ := h
  exact ⟨start, count, response, registers, List.mem_append_left _ hmem, h⟩

theorem Sound.append (h : Sound made type values) (more : Calls) :
    Sound (made ++ more) type values :=
  fun a v hv => (h a v hv).append more

variable {can : (c : ModbusCall) → Except ModbusRaise c.Answer → Prop}

/-- The calls are written down. -/
def noted (made : Calls) (m : Made ModbusCall ModbusCall.Answer ModbusRaise) : Calls := made ++ [m]

end Values

section Poll

variable {fl : FloatArith} {m : RegisterMap} {stats : PollerStats} {holding input : RawValues}
  {made : Calls}
  {can : (c : ModbusCall) → Except ModbusRaise c.Answer → Prop}

end Poll

/-! ### A poll of a device -/

section Device

variable {fl : FloatArith} {m : RegisterMap} {stats : PollerStats} {σ : Type}
  {regs : σ → RegisterType → ℕ → ℕ}
  {does : σ → (c : ModbusCall) → Except ModbusRaise c.Answer → σ → Prop} {s s' : σ} {made : Calls}
  {p : ModbusProg (Option UnifiedSample × PollerStats)}

/-- A device whose registers do not change, and that is connected. -/
def stillDevice (regs : RegisterType → ℕ → ℕ) (_ : Unit) : (c : ModbusCall) →
    Except ModbusRaise c.Answer × Unit
  | .connected | .connect => (.ok true, ())
  | .read type start count =>
    (.ok { isError := false, registers := some ((List.range count).map fun i => regs type (start + i)) }, ())
  | .close => (.ok (), ())
  | .time => (.ok (1700000000 : ℚ), ())

/-- Two fields in a block, the status among the input registers. -/
def twoTypes : RegisterMap :=
  { defaultRegisterMap with deviceStatus := some { address := 1, type := .input, onlineValue := 7 } }

def twoTypesRegisters : RegisterType → ℕ → ℕ
  | .holding, 0 => 65526
  | .holding, 1 => 455
  | .input, 1 => 7
  | _, _ => 0

end Device

end Modbus
end TemperatureMonitor
