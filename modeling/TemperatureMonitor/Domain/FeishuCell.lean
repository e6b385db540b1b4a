/-
# Cells of the remote table

What a read gives for a cell is a JSON value, and one value has several
spellings there: a number or a text, a user as an object or a list of them.
`_canonical` takes a cell to what two equal cells have in common, `sameCell`
is the comparison the code makes of two cells. `DesiredFields` is the device row
the projection asks for, as a dict: no field twice.
-/
import Mathlib.Algebra.Order.Floor.Defs
import Mathlib.Data.Rat.Floor
import TemperatureMonitor.Library.Text

namespace TemperatureMonitor

/-- A value of `json.loads`. -/
inductive Json
  | null
  | bool (b : Bool)
  | number (q : ℚ)
  | text (s : String)
  | list (items : List Json)
  | object (fields : List (String × Json))

/-- What `_canonical` returns. -/
inductive Canon
  | none
  | bool (b : Bool)
  | number (q : ℚ)
  | text (s : String)
  | tuple (items : List Canon)

/-- `str` of a cell and `repr` of a canonical value. -/
structure PyText where
  str : Json → String
  repr : Canon → String

/-- The truth value of a cell. -/
def Json.truth : Json → Bool
  | null => false
  | bool b => b
  | number q => q ≠ 0
  | text s => s ≠ ""
  | list items => !items.isEmpty
  | object fields => !fields.isEmpty

section FieldText

variable (str : Json → String)

mutual

/-- `normalize_field_value`. -/
def normalizeFieldValue : Json → String
  | .list items => " ".intercalate ((normalizeItems items).filter (· ≠ ""))
  | .object fields =>
    match (normalizeFields fields).lookup "value" with
    | some text => text
    | none => strip (((fields.lookup "text").orElse fun _ => fields.lookup "name").elim "" str)
  | .null => ""
  | .bool b => if b then strip (str (.bool b)) else ""
  | .number q => if q = 0 then "" else strip (str (.number q))
  | .text s => strip s

def normalizeItems : List Json → List String
  | [] => []
  | item :: items => normalizeFieldValue item :: normalizeItems items

def normalizeFields : List (String × Json) → List (String × String)
  | [] => []
  | (key, item) :: fields => (key, normalizeFieldValue item) :: normalizeFields fields

end

end FieldText

/-- `round` to an integer: halves to the even one. -/
def roundHalfEven (q : ℚ) : ℤ :=
  let below := ⌊q⌋
  if q - below < 1 / 2 then below
  else if 1 / 2 < q - below then below + 1
  else if below % 2 = 0 then below
  else below + 1

/-- `round(number, 1)`. -/
def round1 (q : ℚ) : ℚ := (roundHalfEven (q * 10) : ℚ) / 10

/-- `round(float(value), 6)`. -/
def round6 (q : ℚ) : ℚ := (roundHalfEven (q * 1000000) : ℚ) / 1000000

/-- The keys that identify a user. -/
def userKeys : List String := ["id", "open_id", "user_id", "union_id", "email"]

/-- The first of the keys with a value that is true. -/
def userKey (fields : List (String × Json)) : Option (String × Json) :=
  userKeys.findSome? fun key => ((fields.lookup key).filter (·.truth)).map fun value => (key, value)

section Canonical

variable (py : PyText)

mutual

/-- `_canonical`. -/
def canonical : Json → Canon
  | .null => .none
  | .bool b => .bool b
  | .number q => .number (round6 q)
  | .text s => if s = "" then .none else .text (strip s)
  | .list items =>
    let sorted := (canonicalItems items).mergeSort fun a b => py.repr a ≤ py.repr b
    -- the empty tuple is false
    if sorted.isEmpty then .none else .tuple sorted
  | .object fields =>
    let canons := canonicalFields fields
    match userKey fields with
    | some (key, value) => .tuple [.text key, .text (strip (py.str value))]
    | none =>
      match canons.lookup "value" with
      | some c => c
      | none =>
        .tuple ((canons.mergeSort fun a b => a.1 ≤ b.1).map fun f => .tuple [.text f.1, f.2])

def canonicalItems : List Json → List Canon
  | [] => []
  | item :: items => canonical item :: canonicalItems items

def canonicalFields : List (String × Json) → List (String × Canon)
  | [] => []
  | (key, item) :: fields => (key, canonical item) :: canonicalFields fields

end

end Canonical

mutual

/-- `==`: a truth value is the number zero or one. -/
def Canon.same : Canon → Canon → Bool
  | .none, .none => true
  | .bool a, .bool b => a == b
  | .bool a, .number q => (if a then 1 else 0) = q
  | .number q, .bool b => q = if b then 1 else 0
  | .number p, .number q => p = q
  | .text s, .text t => s = t
  | .tuple as, .tuple bs => Canon.sameItems as bs
  | _, _ => false

def Canon.sameItems : List Canon → List Canon → Bool
  | [], [] => true
  | a :: as, b :: bs => Canon.same a b && Canon.sameItems as bs
  | _, _ => false

end

/-- `_canonical(a) == _canonical(b)`. -/
def sameCell (py : PyText) (a b : Json) : Bool := (canonical py a).same (canonical py b)

/-! ### The fields of a device's row -/

/-- A cell `build_desired` makes. -/
inductive DeviceCell
  | empty
  | number (q : ℚ)
  | text (s : String)
  | users (ids : List String)
deriving DecidableEq

/-- The cell as it is sent. -/
def DeviceCell.json : DeviceCell → Json
  | empty => .null
  | number q => .number q
  | text s => .text s
  | users ids => .list (ids.map fun id => .object [("id", .text id)])

/-- A dict of cells. -/
structure DesiredFields where
  cells : List (String × DeviceCell) := []
  nodup : (cells.map (·.1)).Nodup := by decide
deriving DecidableEq

/-- `{}`. -/
def DesiredFields.empty : DesiredFields := ⟨[], List.nodup_nil⟩

/-- The two dicts have the same cells. -/
def DesiredFields.Same (f g : DesiredFields) : Prop := ∀ cell, cell ∈ f.cells ↔ cell ∈ g.cells

/-- The dict, as the row of the projection stores it. -/
def DesiredFields.json (f : DesiredFields) : List (String × Json) :=
  f.cells.map fun c => (c.1, c.2.json)

end TemperatureMonitor
