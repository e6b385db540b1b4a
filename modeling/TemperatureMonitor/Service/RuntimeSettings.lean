/-
# Runtime settings

The whitelisted settings: an override of `runtime_settings`, or the default of
the configuration. `apply_changes` checks the whole change set, and then writes
the settings and one audit row for each key in one transaction, under the bounded
retries of `run_sqlite_write_with_retry`. What the database does to a call is part
of the call (`Attempt`): which of its reads fail, and which of its statements.
-/
import TemperatureMonitor.Library.Table
import TemperatureMonitor.Service.DeviceEvents

namespace TemperatureMonitor

/-! ### Floats and values -/

/-- The finite floats, with what Python prints and reads of them. -/
structure PyFloats where
  F : Type
  value : F → ℚ
  /-- A literal of the code. -/
  literal : ℚ → F
  /-- `float(n)`, `none` where it overflows. -/
  ofInt : ℤ → Option F
  repr : F → String
  /-- `float(text)`, `none` where it raises or the number is not finite. -/
  float : String → Option F
  float_repr : ∀ x, float (repr x) = some x

/-- What the code needs of Python's texts and numbers. -/
structure SettingsText extends PyFloats where
  case : CaseMapping

inductive SettingValue (py : SettingsText)
  | float (x : py.F)
  | bool (b : Bool)

/-- `a == b`, of values of one type. -/
def SettingValue.eq {py : SettingsText} : SettingValue py → SettingValue py → Bool
  | float x, float y => py.value x = py.value y
  | bool a, bool b => a = b
  | _, _ => false

/-- The type of a setting, with its fallback. -/
inductive SettingKind
  | float (fallback : ℚ)
  | bool (fallback : Bool)
deriving DecidableEq

/-- `value_type`. -/
def SettingKind.valueType : SettingKind → String
  | float _ => "float"
  | bool _ => "bool"

structure SettingDefinition where
  key : String
  kind : SettingKind
  configAttr : String
  label : String
  unit : Option String := none
  minimum : Option ℚ := none
  maximum : Option ℚ := none
deriving DecidableEq

/-- `SETTING_DEFINITIONS`. -/
def settingDefinitions : List SettingDefinition :=
  [{ key := "temperature_prewarning_margin_c", kind := .float (2 / 10), configAttr := "TEMPERATURE_PREWARNING_MARGIN_C"
     label := "温度预警提前量", unit := some "°C", minimum := some 0, maximum := some 5 },
    { key := "humidity_prewarning_margin_rh", kind := .float 2, configAttr := "HUMIDITY_PREWARNING_MARGIN_RH"
      label := "湿度预警提前量", unit := some "%RH", minimum := some 0, maximum := some 20 },
    { key := "temperature_prewarning_exit_margin_c", kind := .float (3 / 10)
      configAttr := "TEMPERATURE_PREWARNING_EXIT_MARGIN_C"
      label := "温度预警退出裕量", unit := some "°C", minimum := some 0, maximum := some 10 },
    { key := "humidity_prewarning_exit_margin_rh", kind := .float 3, configAttr := "HUMIDITY_PREWARNING_EXIT_MARGIN_RH"
      label := "湿度预警退出裕量", unit := some "%RH", minimum := some 0, maximum := some 40 },
    { key := "feishu_alarm_notify_enabled", kind := .bool false, configAttr := "FEISHU_ALARM_NOTIFY_ENABLED"
      label := "飞书报警通知" },
    { key := "feishu_recovery_notify_enabled", kind := .bool false, configAttr := "FEISHU_RECOVERY_NOTIFY_ENABLED"
      label := "飞书恢复通知" },
    { key := "feishu_prewarning_notify_enabled", kind := .bool false, configAttr := "FEISHU_PREWARNING_NOTIFY_ENABLED"
      label := "飞书接近限值预警" },
    { key := "feishu_prewarning_recovery_notify_enabled", kind := .bool false
      configAttr := "FEISHU_PREWARNING_RECOVERY_NOTIFY_ENABLED"
      label := "飞书接近限值恢复通知" }]

/-- `SETTING_DEFINITIONS.get(key)`. -/
def settingDefinition (key : String) : Option SettingDefinition :=
  settingDefinitions.find? (·.key = key)

/-! ### Tables -/

/-- A row of `runtime_settings`. -/
structure SettingRow where
  key : String
  value : String
  valueType : String
  updatedAt : String
  updatedBy : String
deriving DecidableEq

/-- A row of `runtime_setting_audit`. -/
structure SettingAudit where
  key : String
  oldValue : String
  newValue : String
  changedAt : String
  changedBy : String
  reason : String
deriving DecidableEq

structure SettingsTables where
  settings : List SettingRow := []
  audit : List SettingAudit := []
deriving DecidableEq

/-- The mirror connection: what is durable, and the open transaction. -/
structure SettingsConnection where
  durable : SettingsTables := {}
  tx : Option SettingsTables := none
deriving DecidableEq

namespace SettingsConnection

/-- What a statement of the connection sees. -/
def content (c : SettingsConnection) : SettingsTables := c.tx.getD c.durable

/-- A write outside a transaction opens one. -/
def write (f : SettingsTables → SettingsTables) (c : SettingsConnection) : SettingsConnection :=
  { c with tx := some (f c.content) }

def commit (c : SettingsConnection) : SettingsConnection := { durable := c.content }

/-- A rollback waits for no lock. -/
def rollback (c : SettingsConnection) : SettingsConnection := { c with tx := none }

end SettingsConnection

/-- `sqlite3.Error`, and whether it is a lock conflict. -/
structure SqliteFault where
  locked : Bool
  text : String
deriving DecidableEq

/-- What the database does in one attempt: the reads that fail, by the key they
are made for, and the statements that do, in their order; the last is the `COMMIT`. -/
structure Attempt where
  readFails : String → Bool := fun _ => false
  fault : ℕ → Option SqliteFault := fun _ => none

/-! ### Reading -/

section Settings

variable (py : SettingsText)

/-- A value of `config.py`: what `float` makes of it, if it is finite, and `bool`. -/
structure ConfigValue where
  float : Option py.F
  truth : Bool

/-- The configuration, by attribute; `none` is a value that is absent or `None`. -/
abbrev SettingsConfig := String → Option (ConfigValue py)

variable {py} (config : SettingsConfig py)

/-- `_default_value`. -/
def defaultValue (d : SettingDefinition) : SettingValue py :=
  match d.kind, config d.configAttr with
  | .float fallback, none => .float (py.literal fallback)
  | .float fallback, some raw => .float (raw.float.getD (py.literal fallback))
  | .bool fallback, none => .bool fallback
  | .bool _, some raw => .bool raw.truth

/-- `_format_value`. -/
def formatValue : SettingValue py → String
  | .float x => py.repr x
  | .bool b => if b then "true" else "false"

/-- The range of a definition. -/
def SettingDefinition.inRange (d : SettingDefinition) (q : ℚ) : Bool :=
  d.minimum.all (· ≤ q) && d.maximum.all (q ≤ ·)

variable (py) in
/-- `_parse_stored`. -/
def parseStored (d : SettingDefinition) (text valueType : String) : Option (SettingValue py) :=
  if valueType ≠ d.kind.valueType then none
  else match d.kind with
    | .bool _ =>
      let normalized := py.case.lower (strip text)
      if normalized = "true" then some (.bool true) else if normalized = "false" then
        some (.bool false) else none
    | .float _ =>
      (py.float text).bind fun x => if d.inRange (py.value x) then some (.float x) else none

/-- `_read_overrides`: a read that fails gives none. -/
def readOverrides (t : SettingsTables) (fails : Bool) : List SettingRow :=
  if fails then [] else t.settings.filter fun r => (settingDefinition r.key).isSome

/-- `_resolve`, with the source of the value. -/
def resolveSetting (d : SettingDefinition) (overrides : List SettingRow) :
    SettingValue py × String :=
  match (rowOf (·.key) overrides d.key).bind fun r => parseStored py d r.value r.valueType with
  | some value => (value, "override")
  | none => (defaultValue config d, "default")

/-- `get_setting`. -/
def getSetting (t : SettingsTables) (key : String) (fails : Bool) :
    Except PyError (SettingValue py) :=
  match settingDefinition key with
  | none => .error (.keyError ("未知运行配置项: " ++ key))
  | some d => .ok (resolveSetting config d (readOverrides t fails)).1

/-- The value of a setting that is in force. -/
def effective (t : SettingsTables) (d : SettingDefinition) : SettingValue py :=
  (resolveSetting config d (readOverrides t false)).1

/-! ### The change set -/

variable (py) in
/-- A value of the decoded change set. -/
inductive InputValue
  | bool (b : Bool)
  | int (n : ℤ)
  | float (x : py.F)
  /-- `NaN` and the infinities. -/
  | notFinite
  | other

variable (py) in
/-- `changes`, as it is handed in: the keys are `str(key)`. -/
inductive ChangesArg
  | notMapping
  | mapping (items : List (String × InputValue py))

inductive SettingsError
  /-- `SettingsValidationError`, with its field. -/
  | validation (message : String) (field : Option String)
  /-- `SettingsWriteError`. -/
  | write (message : String)
  /-- `OverflowError`. -/
  | overflow
deriving DecidableEq

variable (py) in
/-- An optional bound in an f-string. -/
def printedBound (bound : Option ℚ) : String := bound.elim "None" fun q => py.repr (py.literal q)

/-- A number within the range of its definition. -/
def checkRange (d : SettingDefinition) (x : py.F) : Except SettingsError (SettingValue py) :=
  if d.inRange (py.value x) then .ok (.float x)
  else .error (.validation
    (d.label ++ " 超出合法范围 [" ++ printedBound py d.minimum ++ ", " ++
        printedBound py d.maximum ++ "]" ++
      d.unit.elim "" (" " ++ ·) ++ "，当前值: " ++ py.repr x) (some d.key))

/-- `_validate_input`. -/
def validateInput (d : SettingDefinition) (value : InputValue py) :
    Except SettingsError (SettingValue py) :=
  match d.kind, value with
  | .bool _, .bool b => .ok (.bool b)
  | .bool _, _ => .error (.validation (d.label ++ " 必须是布尔值 true/false") (some d.key))
  | .float _, .float x => checkRange d x
  | .float _, .int n =>
    match py.ofInt n with
    | some x => checkRange d x
    | none => .error .overflow
  | .float _, .notFinite => .error (.validation (d.label ++ " 必须是有限数字（不允许 NaN/inf）") (some d.key))
  | .float _, _ => .error (.validation (d.label ++ " 必须是数字") (some d.key))

/-- A checked change: the setting and its new value. -/
abbrev SettingChange (py : SettingsText) := SettingDefinition × SettingValue py

/-- `normalized[key] = value`. -/
def setChange (normalized : List (SettingChange py)) (d : SettingDefinition)
    (value : SettingValue py) : List (SettingChange py) :=
  alterRow (fun change : SettingChange py => change.1.key) d.key (fun _ => (d, value)) normalized

/-- The values, checked one after another. -/
def validateItems : List (String × InputValue py) → List (SettingChange py) →
    Except SettingsError (List (SettingChange py))
  | [], normalized => .ok normalized
  | (key, value) :: items, normalized =>
    match settingDefinition key with
    | none => validateItems items normalized
    | some d =>
      match validateInput d value with
      | .error e => .error e
      | .ok checked => validateItems items (setChange normalized d checked)

/-- `_validate_change_set`. -/
def validateChangeSet : ChangesArg py → Except SettingsError (List (SettingChange py))
  | .notMapping => .error (.validation "changes 必须是 JSON 对象" none)
  | .mapping items =>
    if items.isEmpty then .error (.validation "changes 不能为空" none)
    else
      let unknown := (items.map (·.1)).filter fun key => (settingDefinition key).isNone
      if unknown.isEmpty then validateItems items []
      else .error (.validation ("未知或不允许修改的配置项: " ++ ", ".intercalate (unknown.mergeSort (· ≤ ·)) ++
        "；允许的配置项: " ++ ", ".intercalate (settingDefinitions.map (·.key))) none)

/-- `_validate_reason`; `none` is no text. -/
def validateReason : Option String → Except SettingsError String
  | none => .error (.validation "reason 不能为空：每次配置变更必须记录原因" none)
  | some reason =>
    if blank reason then .error (.validation "reason 不能为空：每次配置变更必须记录原因" none)
    else if 500 < (strip reason).length then .error (.validation "reason 长度不能超过 500 字符" none)
    else .ok (strip reason)

/-- `(changed_by or "console").strip()[:64] or "console"`. -/
def actorOf (changedBy : String) : String :=
  let actor :=
    String.ofList ((strip (if changedBy = "" then "console" else changedBy)).toList.take 64)
  if actor = "" then "console" else actor

end Settings

/-! ### Writing -/

/-- Statements, one after another, until one fails. -/
def executeStatements (w : Attempt) : ℕ → List (SettingsTables → SettingsTables) →
    SettingsConnection → Except SqliteFault Unit × SettingsConnection
  | _, [], c => (.ok (), c)
  | n, f :: fs, c =>
    match w.fault n with
    | some e => (.error e, c)
    | none => executeStatements w (n + 1) fs (c.write f)

/-- Statements and the `COMMIT` behind them. -/
def runTransaction (w : Attempt) (statements : List (SettingsTables → SettingsTables))
    (c : SettingsConnection) : Except SqliteFault Unit × SettingsConnection :=
  match executeStatements w 0 statements c with
  | (.error e, c') => (.error e, c')
  | (.ok (), c') =>
    match w.fault statements.length with
    | some e => (.error e, c')
    | none => (.ok (), c'.commit)

/-- `_SQLITE_LOCK_RETRY_DELAYS`, in milliseconds. -/
def sqliteLockRetryDelays : List ℕ := [20, 50, 100, 200]

/-- What follows an attempt that raised: what it opened is rolled back. -/
def SettingsConnection.afterFault (before after : SettingsConnection) : SettingsConnection :=
  if before.tx.isSome then after else after.rollback

/-- `run_sqlite_write_with_retry`, from the attempt `n` on, with `left` attempts after it. -/
def runSqliteWriteWithRetry
    (callback : Attempt → SettingsConnection → Except SqliteFault Unit × SettingsConnection)
    (attempts : ℕ → Attempt) (n : ℕ) : ℕ → SettingsConnection →
      Except SqliteFault Unit × SettingsConnection
  | 0, c =>
    match callback (attempts n) c with
    | (.ok (), c') => (.ok (), c')
    | (.error e, c') => (.error e, c.afterFault c')
  | left + 1, c =>
    match callback (attempts n) c with
    | (.ok (), c') => (.ok (), c')
    | (.error e, c') =>
      if c.tx.isSome || !e.locked then (.error e, c.afterFault c')
      else runSqliteWriteWithRetry callback attempts (n + 1) left (c.afterFault c')

section Settings

variable {py : SettingsText} (config : SettingsConfig py)

/-- The write of one setting: its default clears the override. -/
def settingStatement (now actor : String) (change : SettingChange py) (t : SettingsTables) :
    SettingsTables :=
  if change.2.eq (defaultValue config change.1) then
    { t with settings := t.settings.filter (·.key ≠ change.1.key) }
  else { t with settings := alterRow (·.key) change.1.key (fun _ =>
    { key := change.1.key, value := formatValue change.2, valueType := change.1.kind.valueType
      updatedAt := now, updatedBy := actor }) t.settings }

/-- The audit row of one change. -/
def auditRow (now actor reason : String) (old : SettingValue py) (change : SettingChange py) :
    SettingAudit :=
  { key := change.1.key, oldValue := formatValue old, newValue := formatValue change.2
    changedAt := now, changedBy := actor, reason }

def auditStatement (row : SettingAudit) (t : SettingsTables) : SettingsTables :=
  { t with audit := t.audit ++ [row] }

/-- `current[key]`, as the attempt reads it. -/
def currentValue (w : Attempt) (c : SettingsConnection) (d : SettingDefinition) : SettingValue py :=
  (resolveSetting config d (readOverrides c.content (w.readFails d.key))).1

/-- The audit rows of an attempt. -/
def auditRows (now actor reason : String) (normalized : List (SettingChange py)) (w : Attempt)
    (c : SettingsConnection) : List SettingAudit :=
  normalized.map fun change => auditRow now actor reason (currentValue config w c change.1) change

/-- The statements of an attempt. -/
def applyStatements (now actor reason : String) (normalized : List (SettingChange py)) (w : Attempt)
    (c : SettingsConnection) : List (SettingsTables → SettingsTables) :=
  normalized.map (settingStatement config now actor) ++
    (auditRows config now actor reason normalized w c).map auditStatement

/-- `_apply_locked`. -/
def applyLocked (now actor reason : String) (normalized : List (SettingChange py)) (w : Attempt)
    (c : SettingsConnection) : Except SqliteFault Unit × SettingsConnection :=
  runTransaction w (applyStatements config now actor reason normalized w c) c

variable (py) in
/-- A call of `apply_changes`, with what its moment brings. -/
structure SettingsCall where
  changes : ChangesArg py
  /-- `none` is a reason that is no text. -/
  reason : Option String
  changedBy : String := "console"
  /-- `peek_connection` gives a connection. -/
  connected : Bool := true
  now : String
  attempts : ℕ → Attempt := fun _ => {}
  /-- The read of the answer fails. -/
  overviewFails : Bool := false

/-- An entry of `settings_overview`. -/
structure SettingOverview (py : SettingsText) where
  definition : SettingDefinition
  value : SettingValue py
  default : SettingValue py
  source : String

/-- The number of a margin. -/
def SettingValue.number : SettingValue py → ℚ
  | float x => py.value x
  | bool b => if b then 1 else 0

/-- `max(entry, exit)`: the first of two equal values. -/
def exitMargin (entry exit : SettingValue py) : SettingValue py :=
  if entry.number < exit.number then exit else entry

/-- The margin the value of an exit margin is not to fall below. -/
def entryKey (key : String) : Option String :=
  if key = "temperature_prewarning_exit_margin_c" then some "temperature_prewarning_margin_c"
  else if key = "humidity_prewarning_exit_margin_rh" then some "humidity_prewarning_margin_rh"
  else none

/-- `_prewarning_margins_from`, of one key: the value in force, and for an exit
margin no less than the margin it leaves. -/
def effectiveMargin (overrides : List SettingRow) (d : SettingDefinition) : SettingValue py :=
  let value := (resolveSetting config d overrides).1
  match (entryKey d.key).bind settingDefinition with
  | some entry => exitMargin (resolveSetting config entry overrides).1 value
  | none => value

/-- `settings_overview`. -/
def settingsOverview (t : SettingsTables) (fails : Bool) : List (SettingOverview py) :=
  let overrides := readOverrides t fails
  settingDefinitions.map fun d =>
    { definition := d, value := effectiveMargin config overrides d, default := defaultValue config d
      source := (resolveSetting config d overrides).2 }

/-- What `apply_changes` returns. -/
structure SettingsUpdate (py : SettingsText) where
  updated : List String
  settings : List (SettingOverview py)

/-- `apply_changes`. -/
def applyChanges (k : SettingsCall py) (c : SettingsConnection) :
    Except SettingsError (SettingsUpdate py) × SettingsConnection :=
  match validateChangeSet k.changes, validateReason k.reason with
  | .error e, _ => (.error e, c)
  | .ok _, .error e => (.error e, c)
  | .ok normalized, .ok reason =>
    if !k.connected then (.error (.write "SQLite 本地镜像未启用或初始化失败，无法保存配置"), c)
    else
      match runSqliteWriteWithRetry
          (applyLocked config k.now (actorOf k.changedBy) reason normalized) k.attempts 0
          sqliteLockRetryDelays.length c with
      | (.error e, c') => (.error (.write ("配置写入数据库失败：" ++ e.text)), c'.rollback)
      | (.ok (), c') =>
        (.ok ⟨(normalized.map (·.1.key)).mergeSort (· ≤ ·),
          settingsOverview config c'.content k.overviewFails⟩, c')

end Settings

end TemperatureMonitor
