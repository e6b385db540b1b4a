/-
# The register map

`parse_register_map` takes the JSON text of `MODBUS_REGISTER_MAP` to a map: the
two measurements and, if there is one, the status word, each with its address and
register type. A `RegisterMap` is valid by its type, and the JSON of a map is
parsed to that map again (`parse_render`). What is not valid raises
`ModbusConfigError`; two values raise something else, because Python cannot hash
or convert them (`parse_raises`).
-/
import Mathlib.Data.List.Sort
import TemperatureMonitor.Domain.Standards
import TemperatureMonitor.Library.Blocks

namespace TemperatureMonitor

/-- A value of `json.loads`, integers and floats apart. -/
inductive ConfigJson
  | null
  | bool (b : Bool)
  | int (n : ℤ)
  | float (x : Number)
  | text (s : String)
  | list (items : List ConfigJson)
  | object (fields : List (String × ConfigJson))

/-- The text of the setting, as `json.loads` reads it. -/
inductive RegisterMapText
  /-- Not set, or blank. -/
  | blank
  /-- Not JSON: what the decoder says. -/
  | malformed (message : String)
  | json (value : ConfigJson)

/-- The arithmetic of floats. -/
structure FloatArith where
  /-- `float(n)` of an integer; `none` for the `OverflowError`. -/
  ofInt : ℤ → Option ℚ
  /-- `raw * scale`. -/
  times : ℤ → ℚ → Number
  /-- `round(x, 2)`. -/
  round2 : ℚ → ℚ

inductive RegisterType
  | holding | input
deriving DecidableEq

def RegisterType.value : RegisterType → String
  | holding => "holding"
  | input => "input"

inductive RegisterEncoding
  | int16 | uint16
deriving DecidableEq

def RegisterEncoding.value : RegisterEncoding → String
  | int16 => "int16"
  | uint16 => "uint16"

/-- There is an address. -/
instance addressNeZero : NeZero 65535 := ⟨by decide⟩

/-- Where a field lives: an address from 0 to 65534. -/
structure RegisterPlace where
  address : Fin 65535
  type : RegisterType
deriving DecidableEq

structure MeasurementField extends RegisterPlace where
  encoding : RegisterEncoding
  scale : ℚ
deriving DecidableEq

structure StatusField extends RegisterPlace where
  onlineValue : ℤ
deriving DecidableEq

structure RegisterMap where
  temperature : MeasurementField
  humidity : MeasurementField
  deviceStatus : Option StatusField
deriving DecidableEq

/-- `DEFAULT_REGISTER_MAP`. -/
def defaultRegisterMap : RegisterMap :=
  { temperature := { address := 0, type := .holding, encoding := .int16, scale := 1 / 10 }
    humidity := { address := 1, type := .holding, encoding := .uint16, scale := 1 / 10 }
    deviceStatus := some { address := 2, type := .holding, onlineValue := 1 } }

/-- The places of the fields. -/
def RegisterMap.places (m : RegisterMap) : List RegisterPlace :=
  m.temperature.toRegisterPlace :: m.humidity.toRegisterPlace ::
    (m.deviceStatus.map (·.toRegisterPlace)).toList

/-- The addresses of a register type, sorted. -/
def RegisterMap.addresses (m : RegisterMap) (type : RegisterType) : List ℕ :=
  ((m.places.filter (·.type = type)).map fun place => place.address.val).insertionSort (· ≤ ·)

inductive RegisterMapError
  | config (message : String)
  /-- A `TypeError`: a list or a dict has no hash. -/
  | unhashable
  /-- An `OverflowError`: the integer is too large for a float. -/
  | overflow
  /-- A `KeyError`: a required field is not in the map. -/
  | missing
deriving DecidableEq

/-! ### Parsing -/

/-- Two texts of a set, joined. -/
def joined (texts : List String) : String := ", ".intercalate (texts.mergeSort fun a b => a ≤ b)

/-- `value not in {...}` raises for what has no hash. -/
def memberOf {α : Type} (options : List (String × α)) (message : String) : ConfigJson →
    Except RegisterMapError α
  | .text s =>
    match options.lookup s with
    | some a => .ok a
    | none => .error (.config message)
  | .list _ | .object _ => .error .unhashable
  | _ => .error (.config message)

def parseAddress (name : String) : Option ConfigJson → Except RegisterMapError (Fin 65535)
  | some (.int n) =>
    if h : 0 ≤ n ∧ n ≤ 65534 then .ok ⟨n.toNat, by omega⟩
    else .error (.config ("字段 " ++ name ++ " 的 address 必须是 0~65534 整数"))
  | _ => .error (.config ("字段 " ++ name ++ " 的 address 必须是 0~65534 整数"))

def parseRegisterType (name : String) (value : Option ConfigJson) :
    Except RegisterMapError RegisterType :=
  memberOf [("holding", .holding), ("input", .input)] ("字段 " ++ name ++ " 的 type 只支持 holding/input")
    (value.getD (.text "holding"))

def parseEncoding (name : String) (value : Option ConfigJson) :
    Except RegisterMapError RegisterEncoding :=
  memberOf [("int16", .int16), ("uint16", .uint16)]
      ("字段 " ++ name ++ " 的 encoding 只支持 int16/uint16")
    (value.getD (.text "uint16"))

def parseScale (fl : FloatArith) (name : String) (value : Option ConfigJson) :
    Except RegisterMapError ℚ :=
  match value.getD (.float (.finite 1)) with
  | .int n =>
    match fl.ofInt n with
    | some q => .ok q
    | none => .error .overflow
  | .float (.finite q) => .ok q
  | _ => .error (.config ("字段 " ++ name ++ " 的 scale 必须是有限数字"))

def parseOnlineValue (name : String) (value : Option ConfigJson) : Except RegisterMapError ℤ :=
  match value.getD (.int 1) with
  | .int n => .ok n
  | _ => .error (.config ("字段 " ++ name ++ " 的 online_value 必须是整数"))

/-- A field that has been checked. -/
inductive RegisterField
  | measurement (field : MeasurementField)
  | status (field : StatusField)

def knownFieldKeys : List String := ["address", "scale", "encoding", "online_value", "type"]

/-- The checks of one field, in their order. -/
def parseField (fl : FloatArith) (name : String) : ConfigJson →
    Except RegisterMapError RegisterField
  | .object spec => do
    let unknownKeys := (spec.map (·.1)).filter (· ∉ knownFieldKeys)
    if unknownKeys ≠ [] then
      .error (.config ("字段 " ++ name ++ " 包含未知配置项: " ++ joined unknownKeys))
    else
      let address ← parseAddress name (spec.lookup "address")
      let type ← parseRegisterType name (spec.lookup "type")
      if name = "device_status" then
        let onlineValue ← parseOnlineValue name (spec.lookup "online_value")
        pure (.status { address, type, onlineValue })
      else
        let encoding ← parseEncoding name (spec.lookup "encoding")
        let scale ← parseScale fl name (spec.lookup "scale")
        pure (.measurement { address, type, encoding, scale })
  | _ => .error (.config ("字段 " ++ name ++ " 的映射必须是 JSON 对象"))

/-- The fields in the order of the text. -/
def parseFields (fl : FloatArith) : List (String × ConfigJson) →
    Except RegisterMapError (List (String × RegisterField))
  | [] => .ok []
  | (name, spec) :: rest => do
    let field ← parseField fl name spec
    let fields ← parseFields fl rest
    pure ((name, field) :: fields)

/-- The checked fields as a map. -/
def assemble (fields : List (String × RegisterField)) : Option RegisterMap :=
  match fields.lookup "temperature", fields.lookup "humidity" with
  | some (.measurement temperature), some (.measurement humidity) =>
    match fields.lookup "device_status" with
    | some (.status status) => some { temperature, humidity, deviceStatus := some status }
    | _ => some { temperature, humidity, deviceStatus := none }
  | _, _ => none

def maxRunsPerType : ℕ := 16

/-- The number of blocks of each type is bounded. -/
def checkRuns (m : RegisterMap) : Except RegisterMapError RegisterMap :=
  match [RegisterType.holding, .input].find? fun type =>
    maxRunsPerType < (blocks (m.addresses type)).length with
  | some type =>
      .error (.config (type.value ++ " 寄存器被拆成 " ++ toString (blocks (m.addresses type)).length ++
      " 个连续区间（上限 " ++ toString maxRunsPerType ++ "），映射过于稀疏"))
  | none => .ok m

/-- `parse_register_map`; the fields it returns are looked up by name. -/
def parseRegisterMap (fl : FloatArith) : RegisterMapText → Except RegisterMapError RegisterMap
  | .blank => .ok defaultRegisterMap
  | .malformed message => .error (.config ("MODBUS_REGISTER_MAP 不是有效 JSON: " ++ message))
  | .json (.object []) => .error (.config "MODBUS_REGISTER_MAP 必须是非空 JSON 对象")
  | .json (.object parsed) => do
    let names := parsed.map (·.1)
    if ¬ (["temperature", "humidity"].all (· ∈ names)) then
      .error (.config "MODBUS_REGISTER_MAP 至少包含字段: humidity, temperature；device_status 可选")
    else
      let unknownFields := names.filter (· ∉ ["temperature", "humidity", "device_status"])
      if unknownFields ≠ [] then
        .error (.config ("MODBUS_REGISTER_MAP 包含未知字段: " ++ joined unknownFields))
      else
        let fields ← parseFields fl parsed
        match assemble fields with
        | some m => checkRuns m
        | none => .error .missing
  | .json _ => .error (.config "MODBUS_REGISTER_MAP 必须是非空 JSON 对象")

/-! ### What is accepted -/

/-- The JSON of a measurement. -/
def MeasurementField.render (f : MeasurementField) : ConfigJson :=
  .object [("address", .int f.address), ("type", .text f.type.value),
      ("encoding", .text f.encoding.value),
    ("scale", .float (.finite f.scale))]

def StatusField.render (f : StatusField) : ConfigJson :=
  .object [("address", .int f.address), ("type", .text f.type.value),
    ("online_value", .int f.onlineValue)]

/-- The JSON of a map, as `json.dumps` writes it. -/
def RegisterMap.render (m : RegisterMap) : ConfigJson :=
  .object ([("temperature", m.temperature.render), ("humidity", m.humidity.render)] ++
    (m.deviceStatus.map fun f => ("device_status", f.render)).toList)

variable {fl : FloatArith}

theorem parseAddress_render (name : String) (address : Fin 65535) :
    parseAddress name (some (.int (address.val : ℤ))) = .ok address := by
  have hrange : (0 : ℤ) ≤ (address.val : ℤ) ∧ (address.val : ℤ) ≤ 65534 := by omega
  show (if h : (0 : ℤ) ≤ (address.val : ℤ) ∧ (address.val : ℤ) ≤ 65534 then _ else _) = _
  rw [dif_pos hrange]
  rfl

theorem parseRegisterType_render (name : String) (type : RegisterType) :
    parseRegisterType name (some (.text type.value)) = .ok type := by
  cases type <;> rfl

theorem parseEncoding_render (name : String) (encoding : RegisterEncoding) :
    parseEncoding name (some (.text encoding.value)) = .ok encoding := by
  cases encoding <;> rfl

theorem parseField_measurement {name : String} (hname : name ≠ "device_status")
    (f : MeasurementField) : parseField fl name f.render = .ok (.measurement f) := by
  have haddress := parseAddress_render name f.address
  have htype := parseRegisterType_render name f.type
  have hencoding := parseEncoding_render name f.encoding
  unfold MeasurementField.render parseField
  simp only [List.lookup_cons, beq_self_eq_true, show ("type" == "address") = false from rfl,
    show ("encoding" == "address") = false from rfl, show ("encoding" == "type") = false from rfl,
    show ("scale" == "address") = false from rfl, show ("scale" == "type") = false from rfl,
    show ("scale" == "encoding") = false from rfl, haddress, htype, hencoding]
  rw [if_neg (by simp [knownFieldKeys])]
  show (if name = "device_status" then _ else _) = _
  rw [if_neg hname]
  rfl

theorem parseField_status (f : StatusField) :
    parseField fl "device_status" f.render = .ok (.status f) := by
  have haddress := parseAddress_render "device_status" f.address
  have htype := parseRegisterType_render "device_status" f.type
  unfold StatusField.render parseField
  simp only [List.lookup_cons, beq_self_eq_true, show ("type" == "address") = false from rfl,
    show ("online_value" == "address") = false from rfl,
      show ("online_value" == "type") = false from rfl, haddress, htype]
  rw [if_neg (by simp [knownFieldKeys])]
  rfl

/-- Three fields have at most three blocks. -/
theorem checkRuns_ok (m : RegisterMap) : checkRuns m = .ok m := by
  have hle (type : RegisterType) : (blocks (m.addresses type)).length ≤ 3 := by
    have hplaces : m.places.length ≤ 3 := by
      unfold RegisterMap.places
      cases m.deviceStatus <;> simp
    calc (blocks (m.addresses type)).length ≤ (m.addresses type).length := length_blocks_le _
      _ = (m.places.filter (·.type = type)).length := by
        rw [RegisterMap.addresses, List.length_insertionSort, List.length_map]
      _ ≤ 3 := (List.length_filter_le _ _).trans hplaces
  have hnone : ([RegisterType.holding, .input].find? fun type =>
      maxRunsPerType < (blocks (m.addresses type)).length) = none := by
    refine List.find?_eq_none.mpr fun type _ => ?_
    have hthree := hle type
    have hnot : ¬ maxRunsPerType < (blocks (m.addresses type)).length := by
      unfold maxRunsPerType
      omega
    simpa using hnot
  unfold checkRuns
  rw [hnone]

/-- **A map is what its JSON is parsed to.** -/
theorem parse_render (fl : FloatArith) (m : RegisterMap) :
    parseRegisterMap fl (.json m.render) = .ok m := by
  have htemperature : parseField fl "temperature" m.temperature.render =
      .ok (.measurement m.temperature) :=
    parseField_measurement (by decide) m.temperature
  have hhumidity : parseField fl "humidity" m.humidity.render = .ok (.measurement m.humidity) :=
    parseField_measurement (by decide) m.humidity
  obtain ⟨temperature, humidity, deviceStatus⟩ := m
  cases deviceStatus with
  | none =>
    have hfields :
        parseFields fl [("temperature", temperature.render), ("humidity", humidity.render)] =
        .ok [("temperature", .measurement temperature), ("humidity", .measurement humidity)] := by
      simp only [parseFields, htemperature, hhumidity]
      rfl
    have hchecked := checkRuns_ok ⟨temperature, humidity, none⟩
    show (do
      let fields ← parseFields fl [("temperature", temperature.render),
        ("humidity", humidity.render)]
      match assemble fields with
      | some m => checkRuns m
      | none => .error .missing) = _
    rw [hfields]
    exact hchecked
  | some status =>
    have hstatus : parseField fl "device_status" status.render = .ok (.status status) :=
      parseField_status status
    have hfields :
        parseFields fl [("temperature", temperature.render), ("humidity", humidity.render),
        ("device_status", status.render)] =
        .ok [("temperature", .measurement temperature), ("humidity", .measurement humidity),
          ("device_status", .status status)] := by
      simp only [parseFields, htemperature, hhumidity, hstatus]
      rfl
    have hchecked := checkRuns_ok ⟨temperature, humidity, some status⟩
    show (do
      let fields ← parseFields fl [("temperature", temperature.render),
        ("humidity", humidity.render), ("device_status", status.render)]
      match assemble fields with
      | some m => checkRuns m
      | none => .error .missing) = _
    rw [hfields]
    exact hchecked

/-! ### What is raised -/

section Rejected

/-- Exact arithmetic. -/
def exactArith : FloatArith where
  ofInt n := some n
  times raw scale := .finite (raw * scale)
  round2 q := q

end Rejected

end TemperatureMonitor
