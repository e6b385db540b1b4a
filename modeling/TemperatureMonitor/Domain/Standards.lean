/-
# Environment standards: the snapshot check and the resolver

`validate_standard_snapshot` looks at every pair of standards before a
snapshot is activated; `select_standard` picks the one in force for a
sample. `upper` is `str.upper`, whose table is not part of the program.
-/
import Mathlib.Data.Prod.Lex
import Mathlib.Data.List.Dedup
import TemperatureMonitor.Library.Grouping
import TemperatureMonitor.Library.Text
import TemperatureMonitor.Domain.Models

namespace TemperatureMonitor

inductive ControlType
  | allDay | operationPeriod | monitorOnly
deriving DecidableEq

/-- A float that has been read from a table: a rational, an infinity or no number. -/
inductive Number
  | finite (value : ℚ)
  | infinity
  | minusInfinity
  | nan
deriving DecidableEq

namespace Number

/-- `math.isfinite`. -/
def isFinite : Number → Bool
  | finite _ => true
  | _ => false

/-- `a <= b`; no comparison with a nan holds. -/
def le : Number → Number → Bool
  | nan, _ => false
  | _, nan => false
  | minusInfinity, _ => true
  | _, infinity => true
  | finite a, finite b => a ≤ b
  | _, _ => false

/-- `a > b`. -/
def gt (a b : Number) : Bool := b.le a && !a.le b

end Number

/-- The fields of a standard, as a source row gives them. -/
structure StandardFields where
  standardId : String
  revision : String
  area : String
  operationType : Option String
  temperatureMin : Option Number
  temperatureMax : Option Number
  humidityMin : Option Number
  humidityMax : Option Number
  effectiveFrom : DateTime
  effectiveTo : Option DateTime
  sourceDocument : String
  priority : ℤ := 0
  enabled : Bool := true
  deviceId : Option String := none
  controlType : Option ControlType := none
  standardSource : String := "feishu"
deriving DecidableEq

/-- `__post_init__`. The datetimes are aware and the control type is parsed
by their types. -/
def StandardFields.postInit (s : StandardFields) : Except PyError Unit :=
  if blank s.standardId then .error (.valueError "standard_id cannot be empty")
  else if blank s.revision then .error (.valueError "revision cannot be empty")
  else if blank s.area then .error (.valueError "area cannot be empty")
  else if s.deviceId.any blank then
    .error (.valueError "device_id cannot be blank when provided")
  else if blank s.standardSource then .error (.valueError "standard_source cannot be empty")
  else if blank s.sourceDocument then .error (.valueError "source_document cannot be empty")
  else if s.temperatureMin.isNone ≠ s.temperatureMax.isNone then
    .error (.valueError "temperature bounds must be provided as a pair")
  else if s.humidityMin.isNone ≠ s.humidityMax.isNone then
    .error (.valueError "humidity bounds must be provided as a pair")
  else if (s.temperatureMin.any fun lo => s.temperatureMax.any lo.gt) then
    .error (.valueError "temperature_min cannot exceed temperature_max")
  else if (s.humidityMin.any fun lo => s.humidityMax.any lo.gt) then
    .error (.valueError "humidity_min cannot exceed humidity_max")
  else if (s.effectiveTo.any fun t => t.instant < s.effectiveFrom.instant) then
    .error (.valueError "effective_to cannot precede effective_from")
  else .ok ()

/-- A standard that could be constructed. -/
structure EnvironmentStandard extends StandardFields where
  postInit_ok : toStandardFields.postInit = .ok ()
deriving DecidableEq

theorem EnvironmentStandard.area_not_blank (s : EnvironmentStandard) : blank s.area = false := by
  have h := s.postInit_ok
  by_contra hb
  grind [StandardFields.postInit]

section Standards

variable (upper : String → String)

/-- `device_id.strip().upper()`. -/
def canonicalDevice (deviceId : String) : String := upper (strip deviceId)

/-- The selector identity a revision chain shares. -/
def logicalSelectorKey (s : EnvironmentStandard) :
    String × Option String × Option String × Option ControlType :=
  (s.area, s.deviceId.bind fun d => if d = "" then none else some (canonicalDevice upper d),
    s.operationType, s.controlType)

/-- `f"{standard_id}/{revision}"`. -/
def EnvironmentStandard.identity (s : EnvironmentStandard) : String :=
  s.standardId ++ "/" ++ s.revision

/-! ### The snapshot check -/

/-- Half-open intervals with an open end overlap. -/
def intervalsOverlap (left right : EnvironmentStandard) : Bool :=
  let latestStart := max left.effectiveFrom.instant right.effectiveFrom.instant
  match left.effectiveTo, right.effectiveTo with
  | none, none => true
  | none, some e => latestStart < e.instant
  | some e, none => latestStart < e.instant
  | some e, some e' => latestStart < min e.instant e'.instant

/-- A bound that is required: missing or not finite. -/
def boundErrors (name : String) (value : Option Number) (identity : String) : List String :=
  match value with
  | none => [name ++ " is required and numeric: " ++ identity]
  | some x => if x.isFinite then [] else [name ++ " must be finite: " ++ identity]

/-- A pair of bounds that does not leave room between them. -/
def orderErrors (text : String) (low high : Option Number) (identity : String) : List String :=
  if low.any fun lo => high.any fun hi => hi.le lo then [text ++ ": " ++ identity] else []

/-- The checks of one standard; its type already makes the priority an
integer and `enabled` a boolean. -/
def fieldErrors (s : EnvironmentStandard) : List String :=
  (if s.deviceId.all blank then ["device_id is required: " ++ s.identity] else []) ++
  (if s.controlType = none then ["control_type must be a supported enum: " ++ s.identity]
    else []) ++
  (if blank s.revision then ["revision/version is required: " ++ s.identity] else []) ++
  boundErrors "temperature_min" s.temperatureMin s.identity ++
  boundErrors "temperature_max" s.temperatureMax s.identity ++
  boundErrors "humidity_min" s.humidityMin s.identity ++
  boundErrors "humidity_max" s.humidityMax s.identity ++
  orderErrors "temp_min must be less than temp_max" s.temperatureMin s.temperatureMax s.identity ++
  orderErrors "humidity_min must be less than humidity_max" s.humidityMin s.humidityMax s.identity

/-- The first loop: duplicate revisions and the checks of each standard. -/
def rowErrors (identities : List (String × String)) : List EnvironmentStandard → List String
  | [] => []
  | s :: rest =>
    (if (s.standardId, s.revision) ∈ identities then
      ["duplicate standard revision: " ++ s.identity] else []) ++
    fieldErrors s ++ rowErrors ((s.standardId, s.revision) :: identities) rest

/-- Two enabled revisions of one logical standard. -/
def revisionErrors (left right : EnvironmentStandard) : List String :=
  if ¬ intervalsOverlap left right then []
  else if logicalSelectorKey upper left ≠ logicalSelectorKey upper right then
    ["overlapping revisions of the same logical standard have incompatible selectors: " ++
      left.identity ++ ", " ++ right.identity]
  else if left.effectiveFrom.instant = right.effectiveFrom.instant then
    ["logical standard revisions have the same effective_from: " ++
      left.identity ++ ", " ++ right.identity]
  else []

/-- `same_precedence_group`: the device ids are compared as they are written. -/
def samePrecedenceGroup (left right : EnvironmentStandard) : Bool :=
  left.deviceId = right.deviceId ∧ left.area = right.area ∧
    left.operationType = right.operationType ∧ left.priority = right.priority

/-- Two standards of different logical identities. -/
def precedenceErrors (left right : EnvironmentStandard) : List String :=
  if ¬ left.enabled ∨ ¬ right.enabled ∨ left.standardId = right.standardId then []
  else if samePrecedenceGroup left right ∧ intervalsOverlap left right then
    ["overlapping standards with same area, operation_type and priority: " ++
      left.identity ++ ", " ++ right.identity]
  else []

/-- `validate_standard_snapshot`: the errors of a full snapshot. -/
def validateStandardSnapshot (standards : List EnvironmentStandard) : List String :=
  (if standards = [] then ["standard snapshot cannot be empty"] else []) ++
  rowErrors [] standards ++
  (groupBy (·.standardId) (standards.filter (·.enabled))).flatMap
    (fun group => flatMapPairs (revisionErrors upper) group.2) ++
  flatMapPairs precedenceErrors standards

/-! ### The resolver -/

inductive StandardResolutionError
  | valueError (text : String)
  /-- `StandardNotFoundError`, with what its text is made of. -/
  | standardNotFound (areaId : String) (operationType : Option String) (timestamp : DateTime)
  /-- `StandardConfigurationConflictError`. -/
  | configurationConflict (text : String)
deriving DecidableEq

/-- The context a standard is asked for. -/
structure StandardQuery where
  areaId : String
  operationType : Option String
  timestamp : DateTime
  deviceId : Option String := none

/-- Effective at `t`, on the half-open interval. -/
def EnvironmentStandard.effectiveAt (s : EnvironmentStandard) (t : DateTime) : Bool :=
  s.effectiveFrom.instant ≤ t.instant ∧ s.effectiveTo.all fun e => t.instant < e.instant

/-- The standard is written for no device or for this one. -/
def deviceMatches (q : StandardQuery) (s : EnvironmentStandard) : Bool :=
  match s.deviceId with
  | none => true
  | some d => q.deviceId.any fun e => canonicalDevice upper d = canonicalDevice upper e

/-- The standard is a candidate. -/
def applies (q : StandardQuery) (s : EnvironmentStandard) : Bool :=
  s.enabled ∧ s.area = q.areaId ∧ deviceMatches upper q s ∧ s.effectiveAt q.timestamp ∧
    (s.operationType = none ∨ s.operationType = q.operationType)

/-- `", ".join` of the identities. -/
def identities (l : List EnvironmentStandard) : String := ", ".intercalate (l.map (·.identity))

/-- The revisions with the latest start. -/
def latestRevisions (revisions : List EnvironmentStandard) : List EnvironmentStandard :=
  revisions.filter fun r =>
    some r.effectiveFrom.instant = (revisions.map (·.effectiveFrom.instant)).max?

/-- One logical chain, collapsed to its effective revision. -/
def collapse (revisions : List EnvironmentStandard) :
    Except StandardResolutionError EnvironmentStandard :=
  if (revisions.map (logicalSelectorKey upper)).dedup.length ≠ 1 then
    .error (.configurationConflict
      ("logical standard has incompatible active revision selectors: " ++ identities revisions))
  else match latestRevisions revisions with
  | [latest] => .ok latest
  | latest => .error (.configurationConflict
      ("logical standard revisions have the same effective_from: " ++ identities latest))

def collapseAll : List (String × List EnvironmentStandard) →
    Except StandardResolutionError (List EnvironmentStandard)
  | [] => .ok []
  | group :: rest =>
    match collapse upper group.2 with
    | .error e => .error e
    | .ok s =>
      match collapseAll rest with
      | .error e => .error e
      | .ok collapsed => .ok (s :: collapsed)

/-- Exact device, then exact operation, then priority. -/
def precedence (q : StandardQuery) (s : EnvironmentStandard) : ℕ ×ₗ ℕ ×ₗ ℤ :=
  toLex ((s.deviceId.any fun d => q.deviceId.any fun e =>
      canonicalDevice upper d = canonicalDevice upper e).toNat,
    toLex ((q.operationType.isSome && s.operationType = q.operationType).toNat, s.priority))

/-- The candidates of the winning precedence. -/
def winners (q : StandardQuery) (candidates : List EnvironmentStandard) :
    List EnvironmentStandard :=
  candidates.filter fun s =>
    some (precedence upper q s) = (candidates.map (precedence upper q)).max?

/-- The only winner, or the conflict of several. -/
def onlyWinner : List EnvironmentStandard → Except StandardResolutionError EnvironmentStandard
  | [winner] => .ok winner
  | several => .error (.configurationConflict
      ("multiple standards have the same precedence: " ++ identities several))

/-- `select_standard`. -/
def selectStandard (standards : List EnvironmentStandard) (q : StandardQuery) :
    Except StandardResolutionError EnvironmentStandard :=
  if blank q.areaId then .error (.valueError "area_id cannot be empty")
  else
    let candidates := standards.filter (applies upper q)
    if candidates = [] then .error (.standardNotFound q.areaId q.operationType q.timestamp)
    else match collapseAll upper (groupBy (·.standardId) candidates) with
    | .error e => .error e
    | .ok collapsed => onlyWinner (winners upper q collapsed)

end Standards
end TemperatureMonitor
