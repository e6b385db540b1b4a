/-
# The evaluation of a sample

`evaluate_monitor_state`: the quality of the sample, whether the standard
applies, the two dimensions against their limits, and the near-limit reasons
with their hysteresis. Values are exact decimals, rounded half up to one place
before they meet a limit; the evaluation fails where `quantize` does.
-/
import TemperatureMonitor.Domain.FeishuCell
import TemperatureMonitor.Domain.Operation
import TemperatureMonitor.Domain.Standards

namespace TemperatureMonitor

/-- The texts the evaluation makes of its inputs: `str.lower`, and `repr` of a text and of a
float. -/
structure EngineText where
  lower : String → String
  repr : String → String
  reprFloat : ℚ → String

structure DeviceContext where
  deviceId : String
  area : String
  name : Option String := none
  controlType : Option String := none
deriving DecidableEq

/-- The result, with what the later stages do not read. -/
structure MonitorEvaluation extends MonitorResult where
  sampleTime : DateTime
  temperature : Option ℚ
  humidity : Option ℚ
  reasons : List String
  dataQuality : DataQualityStatus
  resolvedControlType : Option ControlType
  controlTypeSource : String
  controlTypeConsistency : String
deriving DecidableEq

/-! ### Rounding -/

/-- The tenths of a value, halves away from zero. -/
def tenthsHalfUp (q : ℚ) : ℤ := if q < 0 then -⌊-q * 10 + 1 / 2⌋ else ⌊q * 10 + 1 / 2⌋

/-- `_feishu_round_one_decimal`; a result of more than 28 digits is refused by `quantize`. -/
def feishuRoundOneDecimal (text : EngineText) (value : ℚ) : Except PyError ℚ :=
  if 10 ^ 28 ≤ (tenthsHalfUp value).natAbs then
    .error (.valueError ("cannot round environmental value: " ++ text.reprFloat value))
  else .ok ((tenthsHalfUp value : ℚ) / 10)

/-! ### The dimensions and their limits -/

inductive Dimension
  | temperature | humidity
deriving DecidableEq

inductive Direction
  | low | high
deriving DecidableEq

def Dimension.name : Dimension → String
  | temperature => "temperature"
  | humidity => "humidity"

def Dimension.unit : Dimension → String
  | temperature => "°C"
  | humidity => "%RH"

def Direction.name : Direction → String
  | low => "LOW"
  | high => "HIGH"

/-- One of the four limits a standard can have. -/
structure Limit where
  dimension : Dimension
  direction : Direction
deriving DecidableEq

/-- `f"{dimension}_{direction.lower()}_near_limit"`. -/
def Limit.reason (l : Limit) : String :=
  l.dimension.name ++ "_" ++ (match l.direction with | .low => "low" | .high => "high") ++
    "_near_limit"

def MonitorSample.value (s : MonitorSample) : Dimension → Option ℚ
  | .temperature => s.temperature
  | .humidity => s.humidity

def EnvironmentStandard.limit (s : EnvironmentStandard) (l : Limit) : Option Number :=
  match l.dimension, l.direction with
  | .temperature, .low => s.temperatureMin
  | .temperature, .high => s.temperatureMax
  | .humidity, .low => s.humidityMin
  | .humidity, .high => s.humidityMax

/-- `_evaluate_dimension`. -/
def evaluateDimension (text : EngineText) (value : Option ℚ) (lower upper : Option Number)
    (name : String) : Except PyError (TemperatureStatus × List String) :=
  if lower.isNone ∧ upper.isNone then .ok (.normal, [])
  else match value with
  | none => .ok (.unknown, [name ++ "_missing_or_invalid"])
  | some v =>
    match feishuRoundOneDecimal text v with
    | .error e => .error e
    | .ok numeric =>
      if lower.any fun l => l.gt (.finite numeric) then .ok (.low, [name ++ "_below_lower_limit"])
      else if upper.any fun u => (Number.finite numeric).gt u then
        .ok (.high, [name ++ "_above_upper_limit"])
      else .ok (.normal, [])

/-- A dimension of a sample under a standard. -/
def evaluateUnder (text : EngineText) (sample : MonitorSample) (standard : EnvironmentStandard)
    (d : Dimension) : Except PyError (TemperatureStatus × List String) :=
  evaluateDimension text (sample.value d) (standard.limit ⟨d, .low⟩)
    (standard.limit ⟨d, .high⟩) d.name

/-! ### Near a limit -/

/-- The four margins: within the entry margin a reason comes up, within the exit margin it stays. -/
structure PrewarningMargins where
  entry : Dimension → ℚ
  exit : Dimension → ℚ

/-- The tolerance of the comparison. -/
def nearTolerance : ℚ := 1 / 10 ^ 9

/-- How far inside its limit a rounded value is. An infinite limit is never near, and nothing
compares with a nan. -/
def insideBy (l : Limit) (limit : Option Number) (rounded : ℚ) : Option (ℚ × ℚ) :=
  match limit, l.direction with
  | some (.finite x), .low => if x ≤ rounded then some (x, rounded - x) else none
  | some (.finite x), .high => if rounded ≤ x then some (x, x - rounded) else none
  | _, _ => none

/-- The reason of a limit, if the value is near it. -/
def nearReason (l : Limit) (standard : EnvironmentStandard) (previous : List String)
    (margins : PrewarningMargins) (rounded : ℚ) : Option (String × PrewarningDetail) :=
  match insideBy l (standard.limit l) rounded with
  | none => none
  | some (limit, distance) =>
    let threshold :=
      if l.reason ∈ previous then margins.exit l.dimension else margins.entry l.dimension
    if distance ≤ max 0 threshold + nearTolerance then
      some (l.reason,
        { dimension := l.dimension.name
          direction := l.direction.name
          value := rounded
          limit
          distance := round1 distance
          unit := l.dimension.unit })
    else none

/-- The reasons of a dimension. -/
def nearReasons (text : EngineText) (sample : MonitorSample) (standard : EnvironmentStandard)
    (previous : List String) (margins : PrewarningMargins) (d : Dimension) :
    Except PyError (List (String × PrewarningDetail)) :=
  match sample.value d with
  | none => .ok []
  | some v =>
    match feishuRoundOneDecimal text v with
    | .error e => .error e
    | .ok rounded =>
      .ok ([⟨d, .low⟩, ⟨d, .high⟩].filterMap fun l =>
        nearReason l standard previous margins rounded)

/-- `evaluate_prewarning`: the reasons with their details. -/
def evaluatePrewarning (text : EngineText) (sample : MonitorSample)
    (standard : Option EnvironmentStandard)
    (applicability : ApplicabilityStatus) (quality : DataQualityStatus)
    (overallStatus : OverallStatus)
    (previous : List String) (margins : PrewarningMargins) :
    Except PyError (List (String × PrewarningDetail)) :=
  match standard with
  | none => .ok []
  | some standard =>
    if applicability ≠ .applicable ∨ quality ≠ .good ∨ overallStatus ≠ .normal then .ok []
    else match nearReasons text sample standard previous margins .temperature with
    | .error e => .error e
    | .ok temperature =>
      match nearReasons text sample standard previous margins .humidity with
      | .error e => .error e
      | .ok humidity => .ok (temperature ++ humidity)

/-! ### The state of the sample -/

/-- `_quality_from_sample`; a value of the model is a number or missing. -/
def qualityFromSample (text : EngineText) (sample : MonitorSample)
    (standard : Option EnvironmentStandard) : DataQualityStatus :=
  match sample.dataQuality with
  | some quality => quality
  | none =>
    let onlineStatus := text.lower (strip (sample.onlineStatus.getD ""))
    if onlineStatus ∈ ["offline", "离线", "off-line"] then .offline
    else if onlineStatus ∈ ["error", "数据异常", "invalid"] then .error
    else if onlineStatus ∈ ["missing", "数据缺失"] then .missing
    else if onlineStatus ≠ "" ∧ onlineStatus ∉ ["online", "在线", "正常"] then .error
    else match standard with
    | none => .good
    | some s =>
      if (s.temperatureMin.isSome ∨ s.temperatureMax.isSome) ∧
        sample.temperature = none then .missing
      else if (s.humidityMin.isSome ∨ s.humidityMax.isSome) ∧ sample.humidity = none then .missing
      else .good

/-- `parse_control_type` of a text. -/
def parseControlType (text : EngineText) (value : Option String) :
    Except PyError (Option ControlType) :=
  match value with
  | none => .ok none
  | some v =>
    if blank v then .ok none
    else if strip v ∈ ["ALL_DAY", "全天控制"] then .ok (some .allDay)
    else if strip v ∈ ["OPERATION_PERIOD", "作业期间控制"] then .ok (some .operationPeriod)
    else if strip v ∈ ["MONITOR_ONLY", "仅监测"] then .ok (some .monitorOnly)
    else .error (.valueError ("unsupported control_type: " ++ text.repr v))

/-- `resolve_control_type`: the control type, its source, and how it agrees with the device's
own. -/
def resolveControlType (text : EngineText) (device : DeviceContext)
    (standard : Option EnvironmentStandard) :
    Except PyError (Option ControlType × String × String) :=
  match standard with
  | none => .ok (none, "standard_unavailable", "standard_missing")
  | some s =>
    match parseControlType text device.controlType with
    | .error e => .error e
    | .ok legacy =>
      match s.controlType with
      | none => .ok (none, "standard_unavailable", "standard_missing")
      | some control =>
        .ok (some control, "standard",
          if legacy = some control then "match" else if legacy.isSome then "mismatch"
            else "legacy_missing")

/-- `_is_not_applicable`. -/
def isNotApplicable (controlType : Option ControlType) (operation : Option OperationState) : Bool :=
  match controlType with
  | none => true
  | some control =>
    if operation.any (·.state = .notApplicable) then control ≠ .allDay
    else control = .monitorOnly ∨ control = .operationPeriod ∧
      ¬ operation.any (·.state = .operating)

/-- Whether the standard applies. -/
def applicabilityOf (standard : Option EnvironmentStandard) (controlType : Option ControlType)
    (operation : Option OperationState) : ApplicabilityStatus :=
  if standard = none then .noStandard
  else if isNotApplicable controlType operation then .notApplicable
  else .applicable

/-- The verdict on a sample. -/
def overallStatusOf (applicability : ApplicabilityStatus) (quality : DataQualityStatus)
    (temperature humidity : TemperatureStatus) : OverallStatus :=
  if applicability ≠ .applicable then .unknown
  else if quality ≠ .good then .unknown
  else if temperature = .low ∨ temperature = .high ∨ humidity = .low ∨
    humidity = .high then .violation
  else if temperature = .unknown ∨ humidity = .unknown then .unknown
  else .normal

/-- The reasons of the two dimensions, and what stands before them. -/
def evaluationReasons (standard : Option EnvironmentStandard) (controlType : Option ControlType)
    (quality : DataQualityStatus) (dimensions : List String) : List String :=
  (match quality with
    | .offline => ["device_offline"]
    | .missing => ["sample_data_missing"]
    | .error => ["sample_data_error"]
    | .good => []) ++
  (if standard.isSome ∧ controlType = none then ["control_type_configuration_error"]
    else []) ++ dimensions

/-- The statuses of the two dimensions, with their reasons. -/
def evaluateDimensions (text : EngineText) (sample : MonitorSample)
    (standard : Option EnvironmentStandard) :
    Except PyError (TemperatureStatus × TemperatureStatus × List String) :=
  match standard with
  | none => .ok (.unknown, .unknown, ["standard_unavailable", "no_applicable_standard"])
  | some s =>
    match evaluateUnder text sample s .temperature with
    | .error e => .error e
    | .ok temperature =>
      match evaluateUnder text sample s .humidity with
      | .error e => .error e
      | .ok humidity => .ok (temperature.1, humidity.1, temperature.2 ++ humidity.2)

/-- `evaluate_monitor_state`. -/
def evaluateMonitorState (text : EngineText) (device : DeviceContext) (sample : MonitorSample)
    (standard : Option EnvironmentStandard) (operation : Option OperationState)
    (previous : List String) (margins : PrewarningMargins) : Except PyError MonitorEvaluation :=
  if sample.deviceId ≠ device.deviceId then
    .error (.valueError "sample.device_id must match device.device_id")
  else
    let quality := qualityFromSample text sample standard
    match resolveControlType text device standard with
    | .error e => .error e
    | .ok (controlType, controlTypeSource, controlTypeConsistency) =>
      match evaluateDimensions text sample standard with
      | .error e => .error e
      | .ok (temperatureStatus, humidityStatus, dimensions) =>
        let applicability := applicabilityOf standard controlType operation
        let overallStatus := overallStatusOf applicability quality temperatureStatus humidityStatus
        match evaluatePrewarning text sample standard applicability quality overallStatus previous
          margins with
        | .error e => .error e
        | .ok near => .ok
          { deviceId := sample.deviceId
            overallStatus, temperatureStatus, humidityStatus
            standardId := standard.map (·.standardId)
            standardRevision := standard.map (·.revision)
            standardSource := standard.map (·.standardSource)
            applicability
            prewarningReasons := near.map Prod.fst
            prewarningDetails := near
            sampleTime := sample.sampleTime
            temperature := sample.temperature
            humidity := sample.humidity
            reasons := evaluationReasons standard controlType quality dimensions
            dataQuality := quality
            resolvedControlType := controlType
            controlTypeSource, controlTypeConsistency }

end TemperatureMonitor
