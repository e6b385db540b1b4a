/-
# The audit of the settings replays

A call of `apply_changes` that raises leaves both tables; one that succeeds
writes one audit row for each key, whose new value is the value then in force. Its
old value is what the committing attempt read: the read of an override that
fails gives none, and the audit then says the default. In a run without such a
read (`ReadsHold`) the audit rows of a key are a chain from the first value in
force to the last (`AuditLinked`).
-/
import TemperatureMonitor.Library.Runs
import TemperatureMonitor.Service.DeviceEventChain
import TemperatureMonitor.Service.RuntimeSettings

namespace TemperatureMonitor

variable {py : SettingsText} {config : SettingsConfig py}

/-! ### Values and their texts -/

section Values

variable {a b c v : SettingValue py} {d : SettingDefinition}

theorem SettingValue.eq_refl (a : SettingValue py) : a.eq a = true := by
  cases a <;> simp [SettingValue.eq]

theorem SettingValue.eq_symm (h : a.eq b = true) : b.eq a = true := by
  cases a <;> cases b <;> simp_all [SettingValue.eq]

theorem SettingValue.eq_trans (h : a.eq b = true) (h' : b.eq c = true) : a.eq c = true := by
  cases a <;> cases b <;> cases c <;> simp_all [SettingValue.eq]

/-- The value is of the type of the setting. -/
def SettingDefinition.Types (d : SettingDefinition) : SettingValue py → Prop
  | .float _ => d.kind.valueType = "float"
  | .bool _ => d.kind.valueType = "bool"

/-- A value that may be written. -/
def SettingDefinition.Admits (d : SettingDefinition) : SettingValue py → Prop
  | .float x => d.kind.valueType = "float" ∧ d.inRange (py.value x) = true
  | .bool _ => d.kind.valueType = "bool"

variable (py) in
/-- The value an audit text stands for. -/
def SettingDefinition.readBack (d : SettingDefinition) (text : String) : Option (SettingValue py) :=
  match d.kind with
  | .float _ => (py.float text).map .float
  | .bool _ =>
    if text = "true" then some (.bool true) else if text = "false" then some (.bool false) else none

theorem SettingDefinition.Admits.types (h : d.Admits v) : d.Types v := by
  cases v with
  | float x => exact h.1
  | bool b => exact h

theorem types_defaultValue (d : SettingDefinition) : d.Types (defaultValue config d) := by
  unfold defaultValue
  cases hk : d.kind with
  | float fallback =>
    cases config d.configAttr <;> simp [SettingDefinition.Types, hk, SettingKind.valueType]
  | bool fallback =>
    cases config d.configAttr <;> simp [SettingDefinition.Types, hk, SettingKind.valueType]

theorem types_parseStored {text valueType : String} (h : parseStored py d text valueType = some v) :
    d.Types v := by
  unfold parseStored at h
  split_ifs at h
  cases hk : d.kind with
  | float fallback =>
    rw [hk] at h
    obtain ⟨x, -, hx⟩ := Option.bind_eq_some_iff.mp h
    split_ifs at hx
    cases hx
    simp [SettingDefinition.Types, hk, SettingKind.valueType]
  | bool fallback =>
    rw [hk] at h
    dsimp only at h
    split_ifs at h <;> cases h <;> simp [SettingDefinition.Types, hk, SettingKind.valueType]

/-- **What is written is read back.** -/
theorem readBack_formatValue (h : d.Types v) : d.readBack py (formatValue v) = some v := by
  unfold SettingDefinition.readBack
  cases hk : d.kind with
  | float fallback =>
    cases v with
    | float x => simp [formatValue, py.float_repr]
    | bool b => simp [SettingDefinition.Types, hk, SettingKind.valueType] at h
  | bool fallback =>
    cases v with
    | float x => simp [SettingDefinition.Types, hk, SettingKind.valueType] at h
    | bool b => cases b <;> simp [formatValue]

/-- And a stored override is the value in force. -/
theorem parseStored_formatValue (h : d.Admits v) :
    parseStored py d (formatValue v) d.kind.valueType = some v := by
  have hword (word : String) (hw : ∀ c ∈ word.toList, 97 ≤ c.toNat ∧ c.toNat ≤ 122) :
      py.case.lower (strip word) = word := by
    have hstrip : strip word = word := by
      refine strip_eq fun c hc => ?_
      have hrange := hw c hc
      simp only [isSpace, Bool.or_eq_false_iff, Bool.and_eq_false_iff, decide_eq_false_iff_not,
        beq_eq_false_iff_ne]
      omega
    rw [hstrip, py.case.lower_ascii word hw]
  unfold parseStored
  rw [if_neg (by simp)]
  cases hk : d.kind with
  | float fallback =>
    cases v with
    | float x =>
      show ((py.float (py.repr x)).bind _) = _
      rw [py.float_repr, Option.bind_some, if_pos h.2]
    | bool b => simp [SettingDefinition.Admits, hk, SettingKind.valueType] at h
  | bool fallback =>
    cases v with
    | float x => simp [SettingDefinition.Admits, hk, SettingKind.valueType] at h
    | bool b =>
      cases b with
      | true =>
        have hlower := hword "true" (by simp)
        simp [formatValue, hlower]
      | false =>
        have hlower := hword "false" (by simp)
        simp [formatValue, hlower]

end Values

/-! ### The settings in force -/

section InForce

variable {t : SettingsTables} {d d' : SettingDefinition} {v : SettingValue py} {now actor : String}

theorem settingDefinition_mem {key : String} (h : settingDefinition key = some d) :
    d ∈ settingDefinitions ∧ d.key = key :=
  ⟨List.mem_of_find?_eq_some h, by simpa using List.find?_some h⟩

theorem settingKeys_nodup : (settingDefinitions.map (·.key)).Nodup := by decide

theorem definition_eq (hd : d ∈ settingDefinitions) (hd' : d' ∈ settingDefinitions)
    (hkey : d.key = d'.key) : d = d' :=
  List.inj_on_of_nodup_map settingKeys_nodup hd hd' hkey

theorem settingDefinition_of_mem (hd : d ∈ settingDefinitions) :
    settingDefinition d.key = some d := by
  have hfound : (settingDefinition d.key).isSome = true := List.find?_isSome.mpr ⟨d, hd, by simp⟩
  obtain ⟨d', hd'⟩ := Option.isSome_iff_exists.mp hfound
  obtain ⟨hmem, hkey⟩ := settingDefinition_mem hd'
  rw [hd', definition_eq hmem hd hkey]

/-- The value in force is that of the row of the key. -/
theorem effective_eq (hd : d ∈ settingDefinitions) : effective config t d =
    ((rowOf (·.key) t.settings d.key).bind fun r =>
      parseStored py d r.value r.valueType).getD (defaultValue config d) := by
  have hrow : rowOf (·.key) (readOverrides t false) d.key = rowOf (·.key) t.settings d.key := by
    refine rowOf_filter fun r hr => ?_
    rw [hr, settingDefinition_of_mem hd]
    rfl
  unfold effective resolveSetting
  rw [hrow]
  cases (rowOf (·.key) t.settings d.key).bind fun r => parseStored py d r.value r.valueType <;> rfl

theorem effective_congr (hd : d ∈ settingDefinitions) {t' : SettingsTables}
    (h : rowOf (·.key) t'.settings d.key = rowOf (·.key) t.settings d.key) :
    effective config t' d = effective config t d := by
  rw [effective_eq hd, effective_eq hd, h]

theorem types_effective (d : SettingDefinition) : d.Types (effective config t d) := by
  unfold effective resolveSetting
  split
  · rename_i value hvalue
    obtain ⟨r, -, hparsed⟩ := Option.bind_eq_some_iff.mp hvalue
    exact types_parseStored hparsed
  · exact types_defaultValue d

/-- A written setting is in force. -/
theorem effective_settingStatement (hd : d ∈ settingDefinitions) (hv : d.Admits v) :
    (effective config (settingStatement config now actor (d, v) t) d).eq v = true := by
  rw [effective_eq hd]
  unfold settingStatement
  dsimp only
  by_cases hdefault : v.eq (defaultValue config d) = true
  · rw [if_pos hdefault]
    dsimp only
    rw [rowOf_delete]
    exact SettingValue.eq_symm hdefault
  · rw [if_neg hdefault]
    dsimp only
    rw [rowOf_alterRow_self]
    · rw [Option.bind_some, parseStored_formatValue hv]
      exact SettingValue.eq_refl v
    · exact fun _ => rfl

/-- And no other is touched. -/
theorem effective_settingStatement_other (hd' : d' ∈ settingDefinitions) (hne : d'.key ≠ d.key) :
    effective config (settingStatement config now actor (d, v) t) d' = effective config t d' := by
  refine effective_congr hd' ?_
  unfold settingStatement
  dsimp only
  split_ifs
  · refine rowOf_filter fun r hr => ?_
    simpa [hr] using hne
  · exact rowOf_alterRow_other (fun _ => rfl) hne

end InForce

/-! ### A checked change set -/

/-- Known settings with values they admit, each once. -/
structure CheckedChanges (normalized : List (SettingChange py)) : Prop where
  known : ∀ change ∈ normalized, change.1 ∈ settingDefinitions
  admits : ∀ change ∈ normalized, change.1.Admits change.2
  once : (normalized.map (·.1.key)).Nodup

/-- The keys a call names. -/
def ChangesArg.keys : ChangesArg py → List String
  | notMapping => []
  | mapping items => items.map (·.1)

section Checked

variable {d : SettingDefinition} {value : InputValue py} {checked : SettingValue py}
  {normalized : List (SettingChange py)}
  {items : List (String × InputValue py)}

theorem checkRange_admits {x : py.F} (hk : d.kind.valueType = "float")
    (h : checkRange d x = .ok checked) : d.Admits checked := by
  unfold checkRange at h
  split_ifs at h with hrange
  cases h
  exact ⟨hk, hrange⟩

theorem validateInput_admits (h : validateInput d value = .ok checked) : d.Admits checked := by
  unfold validateInput at h
  split at h
  · rename_i hk
    cases h
    show d.kind.valueType = "bool"
    rw [hk]
    rfl
  · cases h
  · rename_i hk
    exact checkRange_admits (by rw [hk]; rfl) h
  · rename_i hk
    split at h
    · exact checkRange_admits (by rw [hk]; rfl) h
    · cases h
  · cases h
  · cases h

theorem CheckedChanges.set (h : CheckedChanges normalized) (hd : d ∈ settingDefinitions)
    (hv : d.Admits checked) : CheckedChanges (setChange normalized d checked) := by
  refine ⟨fun change hmem => ?_, fun change hmem => ?_, nodup_alterRow (fun _ => rfl) h.once⟩
  · rcases mem_alterRow hmem with hmem | ⟨o, -, rfl⟩
    · exact h.known change hmem
    · exact hd
  · rcases mem_alterRow hmem with hmem | ⟨o, -, rfl⟩
    · exact h.admits change hmem
    · exact hv

theorem setChange_keys (normalized : List (SettingChange py)) (d : SettingDefinition)
    (checked : SettingValue py) (key : String) :
    key ∈ (setChange normalized d checked).map (·.1.key) ↔ key = d.key ∨
      key ∈ normalized.map (·.1.key) := by
  rw [List.mem_map, List.mem_map]
  exact key_mem_alterRow fun _ => rfl

theorem validateItems_checked (hitems : ∀ item ∈ items, (settingDefinition item.1).isSome = true)
    (hn : CheckedChanges normalized) {result : List (SettingChange py)}
    (h : validateItems items normalized = .ok result) :
    CheckedChanges result ∧ ∀ key, key ∈ result.map (·.1.key) ↔ key ∈ normalized.map (·.1.key) ∨
      key ∈ items.map (·.1) := by
  induction items generalizing normalized with
  | nil =>
    cases h
    exact ⟨hn, fun key => by simp⟩
  | cons item items ih =>
    obtain ⟨key, value⟩ := item
    obtain ⟨d, hd⟩ := Option.isSome_iff_exists.mp (hitems _ List.mem_cons_self)
    obtain ⟨hmem, hkey⟩ := settingDefinition_mem hd
    unfold validateItems at h
    rw [hd] at h
    dsimp only at h
    split at h
    · cases h
    rename_i checked hchecked
    obtain ⟨hresult, hkeys⟩ := ih (fun item hitem => hitems item (List.mem_cons_of_mem _ hitem))
      (hn.set hmem (validateInput_admits hchecked)) h
    refine ⟨hresult, fun k => ?_⟩
    rw [hkeys, setChange_keys, hkey, List.map_cons, List.mem_cons]
    tauto

theorem validateChangeSet_checked {changes : ChangesArg py}
    (h : validateChangeSet changes = .ok normalized) :
    CheckedChanges normalized ∧ ∀ key, key ∈ normalized.map (·.1.key) ↔ key ∈ changes.keys := by
  cases changes with
  | notMapping => cases h
  | mapping items =>
    unfold validateChangeSet at h
    dsimp only at h
    split_ifs at h with hempty hunknown
    have hitems : ∀ item ∈ items, (settingDefinition item.1).isSome = true := by
      intro item hitem
      by_contra hno
      have hmem : item.1 ∈ (items.map (·.1)).filter fun key => (settingDefinition key).isNone :=
        List.mem_filter.mpr ⟨List.mem_map_of_mem hitem, by simpa using hno⟩
      rw [List.isEmpty_iff.mp hunknown] at hmem
      cases hmem
    have hstart : CheckedChanges ([] : List (SettingChange py)) :=
      ⟨by simp, by simp, List.nodup_nil⟩
    obtain ⟨hchecked, hkeys⟩ := validateItems_checked hitems hstart h
    exact ⟨hchecked, fun key => by simp [hkeys, ChangesArg.keys]⟩

end Checked

/-! ### The transaction -/

/-- The first statement of `n` and their `COMMIT` that fails. -/
def Attempt.failure (w : Attempt) (n : ℕ) : Option SqliteFault :=
  (List.range (n + 1)).findSome? w.fault

/-- The attempt that ends a call: the first without a lock conflict. -/
def endingAttempt (attempts : ℕ → Attempt) (n : ℕ) : Option Attempt :=
  ((List.range (sqliteLockRetryDelays.length + 1)).map attempts).find? fun w =>
    (w.failure n).all fun e => !e.locked

/-- The attempt that commits, if one does. -/
def committingAttempt (attempts : ℕ → Attempt) (n : ℕ) : Option Attempt :=
  (endingAttempt attempts n).filter fun w => (w.failure n).isNone

section Transaction

variable {w : Attempt} {c c' : SettingsConnection}
  {statements : List (SettingsTables → SettingsTables)}

/-- The statements before the first that fails; what is durable stays. -/
theorem executeStatements_result (w : Attempt) (n : ℕ)
    (statements : List (SettingsTables → SettingsTables))
    (c : SettingsConnection) : ∃ c', executeStatements w n statements c =
      (((List.range' n statements.length).findSome? w.fault).elim (.ok ()) .error, c') ∧
        c'.durable = c.durable ∧
        ((List.range' n statements.length).findSome? w.fault = none →
          c'.content = statements.foldl (fun t f => f t) c.content) := by
  induction statements generalizing n c with
  | nil => exact ⟨c, rfl, rfl, fun _ => rfl⟩
  | cons f fs ih =>
    unfold executeStatements
    rw [List.length_cons, List.range'_succ, List.findSome?_cons]
    cases hf : w.fault n with
    | some e => exact ⟨c, rfl, rfl, fun h => by cases h⟩
    | none =>
      obtain ⟨c', hrun, hdurable, hcontent⟩ := ih (n + 1) (c.write f)
      exact ⟨c', hrun, hdurable, hcontent⟩

/-- **A transaction** commits all its statements, or leaves what is durable. -/
theorem runTransaction_result (w : Attempt) (statements : List (SettingsTables → SettingsTables))
    (c : SettingsConnection) : (w.failure statements.length = none ∧
      runTransaction w statements c =
        (.ok (), ⟨statements.foldl (fun t f => f t) c.content, none⟩)) ∨
    ∃ e c', w.failure statements.length = some e ∧ runTransaction w statements c = (.error e, c') ∧
      c'.durable = c.durable := by
  obtain ⟨c', hrun, hdurable, hcontent⟩ := executeStatements_result w 0 statements c
  have hfailure : w.failure statements.length =
      (((List.range' 0 statements.length).findSome? w.fault).or (w.fault statements.length)) := by
    unfold Attempt.failure
    rw [List.range_succ, List.findSome?_append, List.range_eq_range']
    cases hf : w.fault statements.length <;> simp [hf]
  unfold runTransaction
  rw [hrun, hfailure]
  cases hstatements : (List.range' 0 statements.length).findSome? w.fault with
  | some e => exact .inr ⟨e, c', rfl, rfl, hdurable⟩
  | none =>
    cases hcommit : w.fault statements.length with
    | some e => exact .inr ⟨e, c', rfl, rfl, hdurable⟩
    | none =>
      refine .inl ⟨rfl, ?_⟩
      show (Except.ok (), c'.commit) = _
      unfold SettingsConnection.commit
      rw [hcontent hstatements]

variable {callback : Attempt → SettingsConnection → Except SqliteFault Unit × SettingsConnection}
  {n : ℕ}

/-- An attempt on an idle connection that raised leaves it as it was. -/
theorem afterFault_idle (hc : c.tx = none) (hdurable : c'.durable = c.durable) :
    c.afterFault c' = c := by
  obtain ⟨durable, tx⟩ := c
  obtain rfl : tx = none := hc
  show c'.rollback = _
  unfold SettingsConnection.rollback
  rw [hdurable]

/-- The retries of a transaction: the first attempt without a lock conflict ends it. -/
theorem retry_result (attempts : ℕ → Attempt)
    {statementsOf : Attempt → List (SettingsTables → SettingsTables)}
    (hlength : ∀ w, (statementsOf w).length = n) (hc : c.tx = none)
    (hcallback : ∀ w, callback w c = runTransaction w (statementsOf w) c) (first left : ℕ) :
    (∃ w, ((List.range' first (left + 1)).map attempts).find? (fun w => (w.failure n).all fun e =>
      !e.locked) = some w ∧
        w.failure n = none ∧ runSqliteWriteWithRetry callback attempts first left c =
          (.ok (), ⟨(statementsOf w).foldl (fun t f => f t) c.durable, none⟩)) ∨
      ∃ e, (((List.range' first (left + 1)).map attempts).find? fun w => (w.failure n).all fun e =>
        !e.locked).filter
          (fun w => (w.failure n).isNone) = none ∧
        runSqliteWriteWithRetry callback attempts first left c = (.error e, c) := by
  have hcontent : c.content = c.durable := by
    unfold SettingsConnection.content
    rw [hc]
    rfl
  induction left generalizing first with
  | zero =>
    unfold runSqliteWriteWithRetry
    rw [hcallback]
    rcases runTransaction_result (attempts first) (statementsOf (attempts first)) c with
      ⟨hok, hrun⟩ | ⟨e, c', herror, hrun, hdurable⟩
    · rw [hlength] at hok
      rw [hrun, hcontent]
      exact .inl ⟨attempts first, by simp [hok], hok, rfl⟩
    · rw [hlength] at herror
      rw [hrun]
      refine .inr ⟨e, ?_, ?_⟩
      · cases hl : e.locked <;> simp [herror, hl]
      · show (Except.error e, c.afterFault c') = _
        rw [afterFault_idle hc hdurable]
  | succ left ih =>
    unfold runSqliteWriteWithRetry
    rw [hcallback, List.range'_succ, List.map_cons, List.find?_cons]
    rcases runTransaction_result (attempts first) (statementsOf (attempts first)) c with
      ⟨hok, hrun⟩ | ⟨e, c', herror, hrun, hdurable⟩
    · rw [hlength] at hok
      rw [hrun, hok, hcontent]
      exact .inl ⟨attempts first, rfl, hok, rfl⟩
    · rw [hlength] at herror
      rw [hrun, herror]
      dsimp only
      rw [hc, afterFault_idle hc hdurable]
      cases hl : e.locked with
      | true =>
        simp only [Option.isSome_none, Bool.not_true, Bool.or_self, Bool.false_eq_true, if_false,
          Option.all_some, hl]
        exact ih (first + 1)
      | false =>
        simp only [Option.isSome_none, Bool.not_false, Bool.or_true, if_true, Option.all_some, hl]
        refine .inr ⟨e, ?_, rfl⟩
        simp [herror]

end Transaction

/-! ### One call -/

section Calls

variable {t : SettingsTables} {normalized : List (SettingChange py)} {now actor reason : String}
  {d : SettingDefinition}
  {v : SettingValue py}

/-- The settings of a change set, one after another. -/
def writeSettings (config : SettingsConfig py) (now actor : String)
    (normalized : List (SettingChange py)) (t : SettingsTables) : SettingsTables :=
  (normalized.map (settingStatement config now actor)).foldl (fun t f => f t) t

theorem writeSettings_audit (config : SettingsConfig py) (now actor : String)
    (normalized : List (SettingChange py))
    (t : SettingsTables) : (writeSettings config now actor normalized t).audit = t.audit := by
  induction normalized generalizing t with
  | nil => rfl
  | cons change rest ih =>
    show (writeSettings config now actor rest (settingStatement config now actor change t)).audit =
      t.audit
    rw [ih]
    unfold settingStatement
    split_ifs <;> rfl

theorem effective_writeSettings_other (hd : d ∈ settingDefinitions)
    (hno : d.key ∉ normalized.map (·.1.key)) :
    effective config (writeSettings config now actor normalized t) d = effective config t d := by
  induction normalized generalizing t with
  | nil => rfl
  | cons change rest ih =>
    rw [List.map_cons, List.mem_cons, not_or] at hno
    show effective config
      (writeSettings config now actor rest (settingStatement config now actor change t)) d = _
    rw [ih hno.2]
    exact effective_settingStatement_other hd hno.1

theorem effective_writeSettings (hn : CheckedChanges normalized) (hchange : (d, v) ∈ normalized) :
    (effective config (writeSettings config now actor normalized t) d).eq v = true := by
  induction normalized generalizing t with
  | nil => cases hchange
  | cons change rest ih =>
    have honce := List.nodup_cons.mp hn.once
    show (effective config
      (writeSettings config now actor rest (settingStatement config now actor change t)) d).eq v =
      true
    rcases List.mem_cons.mp hchange with rfl | hrest
    · rw [effective_writeSettings_other (hn.known _ List.mem_cons_self) honce.1]
      exact effective_settingStatement (hn.known _ List.mem_cons_self)
        (hn.admits _ List.mem_cons_self)
    · exact ih ⟨fun c hc => hn.known c (List.mem_cons_of_mem _ hc), fun c hc =>
          hn.admits c (List.mem_cons_of_mem _ hc),
        honce.2⟩ hrest

theorem foldl_auditStatement (rows : List SettingAudit) (t : SettingsTables) :
    (rows.map auditStatement).foldl (fun t f => f t) t = { t with audit := t.audit ++ rows } := by
  induction rows generalizing t with
  | nil => simp
  | cons r rows ih =>
    rw [List.map_cons, List.foldl_cons, ih]
    simp [auditStatement]

/-- The tables an attempt commits. -/
def appliedTables (config : SettingsConfig py) (now actor reason : String)
    (normalized : List (SettingChange py))
    (w : Attempt) (c : SettingsConnection) : SettingsTables :=
  { writeSettings config now actor normalized c.durable with
    audit := c.durable.audit ++ auditRows config now actor reason normalized w c }

/-- **A call raises and leaves everything, or commits its changes** with the rows of
the committing attempt. -/
theorem applyChanges_cases (config : SettingsConfig py) {c : SettingsConnection} (hc : c.tx = none)
    (k : SettingsCall py) :
    (∃ e, applyChanges config k c = (.error e, c)) ∨
      ∃ normalized reason w u, validateChangeSet k.changes = .ok normalized ∧
      validateReason k.reason = .ok reason ∧ k.connected = true ∧
      committingAttempt k.attempts (2 * normalized.length) = some w ∧
      applyChanges config k c =
        (.ok u, ⟨appliedTables config k.now (actorOf k.changedBy) reason normalized w c,
          none⟩) := by
  have hrollback : c.rollback = c := by
    obtain ⟨durable, tx⟩ := c
    obtain rfl : tx = none := hc
    rfl
  unfold applyChanges
  cases hchanges : validateChangeSet k.changes with
  | error e => exact .inl ⟨e, rfl⟩
  | ok normalized =>
    cases hreason : validateReason k.reason with
    | error e => exact .inl ⟨e, rfl⟩
    | ok reason =>
      dsimp only
      cases hconnected : k.connected with
      | false => exact .inl ⟨_, rfl⟩
      | true =>
        rw [if_neg (by simp)]
        have hlength (w : Attempt) :
            (applyStatements config k.now (actorOf k.changedBy) reason normalized w c).length =
            2 * normalized.length := by
          simp only [applyStatements, auditRows, List.length_append, List.length_map]
          omega
        have hcallback (w : Attempt) :
            applyLocked config k.now (actorOf k.changedBy) reason normalized w c =
            runTransaction w
              (applyStatements config k.now (actorOf k.changedBy) reason normalized w c) c := rfl
        rcases retry_result k.attempts hlength hc hcallback 0 sqliteLockRetryDelays.length with
          ⟨w, hfind, hnone, hrun⟩ | ⟨e, -, hrun⟩
        · have htables :
              (applyStatements config k.now (actorOf k.changedBy) reason normalized w c).foldl
              (fun t f => f t)
              c.durable = appliedTables config k.now (actorOf k.changedBy)
                reason normalized w c := by
            have haudit :=
              writeSettings_audit config k.now (actorOf k.changedBy) normalized c.durable
            unfold applyStatements
            rw [List.foldl_append, foldl_auditStatement]
            unfold appliedTables
            rw [← haudit]
            rfl
          have hcommits : committingAttempt k.attempts (2 * normalized.length) = some w := by
            unfold committingAttempt endingAttempt
            rw [List.range_eq_range', hfind, Option.filter_some, hnone]
            rfl
          rw [hrun, htables]
          exact .inr ⟨normalized, reason, w, _, rfl, rfl, rfl, hcommits, rfl⟩
        · rw [hrun]
          exact .inl ⟨_, congrArg (Prod.mk _) hrollback⟩

end Calls

/-! ### Chains -/

/-- The audit rows of a setting lead from one value to another: each old value
is the new value of the row before it. -/
def AuditLinked (d : SettingDefinition) : SettingValue py → List SettingAudit →
    SettingValue py → Prop
  | first, [], last => first.eq last = true
  | first, r :: rows, last =>
      ∃ old new, d.readBack py r.oldValue = some old ∧ d.readBack py r.newValue = some new ∧
      first.eq old = true ∧ AuditLinked d new rows last

section Chains

variable {d : SettingDefinition} {a b v : SettingValue py} {rows : List SettingAudit}
  {r : SettingAudit}

theorem AuditLinked.last (h : AuditLinked d a rows b) (hv : b.eq v = true) :
    AuditLinked d a rows v := by
  induction rows generalizing a with
  | nil => exact SettingValue.eq_trans h hv
  | cons r rows ih =>
    obtain ⟨old, new, hold, hnew, hfirst, hrest⟩ := h
    exact ⟨old, new, hold, hnew, hfirst, ih hrest⟩

theorem AuditLinked.snoc {old new : SettingValue py} (h : AuditLinked d a rows b)
    (hold : d.readBack py r.oldValue = some old)
    (hnew : d.readBack py r.newValue = some new) (hb : b.eq old = true) (hv : new.eq v = true) :
    AuditLinked d a (rows ++ [r]) v := by
  induction rows generalizing a with
  | nil => exact ⟨old, new, hold, hnew, SettingValue.eq_trans h hb, hv⟩
  | cons k rows ih =>
    obtain ⟨old', new', hold', hnew', hfirst, hrest⟩ := h
    exact ⟨old', new', hold', hnew', hfirst, ih hrest⟩

/-- The rows of one setting in a change set: one if it is changed, none if not. -/
theorem filter_auditRows (config : SettingsConfig py) {normalized : List (SettingChange py)}
    (hn : CheckedChanges normalized) {now actor reason : String}
    (w : Attempt) (c : SettingsConnection) (hd : d ∈ settingDefinitions) :
    (∃ v, (d, v) ∈ normalized ∧
      (auditRows config now actor reason normalized w c).filter (fun r => decide (r.key = d.key)) =
        [auditRow now actor reason (currentValue config w c d) (d, v)]) ∨
      d.key ∉ normalized.map (·.1.key) ∧
        (auditRows config now actor reason normalized w c).filter (fun r =>
          decide (r.key = d.key)) = [] := by
  induction normalized with
  | nil => exact .inr ⟨by simp, rfl⟩
  | cons change rest ih =>
    have honce := List.nodup_cons.mp hn.once
    have hrest : CheckedChanges rest := ⟨fun c hc => hn.known c (List.mem_cons_of_mem _ hc),
      fun c hc => hn.admits c (List.mem_cons_of_mem _ hc), honce.2⟩
    obtain ⟨d', v⟩ := change
    have hkey : (auditRow now actor reason (currentValue config w c d') (d', v)).key = d'.key := rfl
    unfold auditRows at ih ⊢
    rw [List.map_cons, List.filter_cons, hkey, List.map_cons, List.mem_cons, not_or]
    by_cases hsame : d'.key = d.key
    · obtain rfl := definition_eq (hn.known _ List.mem_cons_self) hd hsame
      rw [if_pos (by simp)]
      rcases ih hrest with ⟨v', hv', -⟩ | ⟨-, hnil⟩
      · exact absurd (List.mem_map.mpr ⟨_, hv', rfl⟩) honce.1
      · exact .inl ⟨v, List.mem_cons_self, by rw [hnil]⟩
    · rw [if_neg (by simpa using hsame)]
      rcases ih hrest with ⟨v', hv', hfilter⟩ | ⟨hno, hnil⟩
      · exact .inl ⟨v', List.mem_cons_of_mem _ hv', hfilter⟩
      · exact .inr ⟨⟨Ne.symm hsame, hno⟩, hnil⟩

end Chains

/-! ### Runs of calls -/

/-- A call, and what it returned or raised. -/
structure SettingsLabel (py : SettingsText) where
  call : SettingsCall py
  result : Except SettingsError (SettingsUpdate py)

/-- Nothing else writes the tables. -/
def SettingsStep (config : SettingsConfig py) (c : SettingsConnection) (l : SettingsLabel py)
    (c' : SettingsConnection) : Prop :=
  applyChanges config l.call c = (l.result, c')

/-- The attempt that commits a call reads each override that is in force and is changed. -/
def ReadsHold (config : SettingsConfig py) (t : SettingsTables) (k : SettingsCall py) : Prop :=
  ∀ normalized reason w, validateChangeSet k.changes = .ok normalized →
      validateReason k.reason = .ok reason →
    k.connected = true → committingAttempt k.attempts (2 * normalized.length) = some w →
    ∀ change ∈ normalized, w.readFails change.1.key = true →
      (effective config t change.1).eq (defaultValue config change.1) = true

section Runs

variable {c c' : SettingsConnection} {normalized : List (SettingChange py)} {w : Attempt}
  {d : SettingDefinition}

/-- What an attempt reads of a setting. -/
theorem currentValue_eq (hc : c.tx = none) (w : Attempt) (d : SettingDefinition) :
    currentValue config w c d = if w.readFails d.key then defaultValue config d
      else effective config c.durable d := by
  have hcontent : c.content = c.durable := by
    unfold SettingsConnection.content
    rw [hc]
    rfl
  unfold currentValue
  rw [hcontent]
  cases w.readFails d.key with
  | true => rfl
  | false => rfl

theorem types_currentValue (hc : c.tx = none) (w : Attempt) (d : SettingDefinition) :
    d.Types (currentValue config w c d) := by
  rw [currentValue_eq hc]
  split_ifs
  · exact types_defaultValue d
  · exact types_effective d

/-- The value read is the one in force, unless a failing read hides another. -/
theorem currentValue_holds_iff (hc : c.tx = none) :
    (effective config c.durable d).eq (currentValue config w c d) = true ↔
    (w.readFails d.key = true →
      (effective config c.durable d).eq (defaultValue config d) = true) := by
  rw [currentValue_eq hc]
  cases w.readFails d.key with
  | true => simp
  | false => simp [SettingValue.eq_refl]

/-- The audit rows of a call say what was in force before it. -/
def OldValuesHold (config : SettingsConfig py) (t : SettingsTables)
    (rows : List SettingAudit) : Prop :=
  ∀ r ∈ rows, ∀ d ∈ settingDefinitions, d.key = r.key →
    ∃ old, d.readBack py r.oldValue = some old ∧ (effective config t d).eq old = true

theorem oldValuesHold_iff {now actor reason : String} (hc : c.tx = none)
    (hn : CheckedChanges normalized) :
    OldValuesHold config c.durable (auditRows config now actor reason normalized w c) ↔
      ∀ change ∈ normalized, w.readFails change.1.key = true →
        (effective config c.durable change.1).eq (defaultValue config change.1) = true := by
  constructor
  · intro h change hchange
    have hmem : auditRow now actor reason (currentValue config w c change.1) change ∈
        auditRows config now actor reason normalized w c := List.mem_map_of_mem hchange
    obtain ⟨old, hold, heq⟩ := h _ hmem change.1 (hn.known change hchange) rfl
    have hread : change.1.readBack py (formatValue (currentValue config w c change.1)) = some old :=
      hold
    rw [readBack_formatValue (types_currentValue hc w change.1)] at hread
    rw [← Option.some.inj hread] at heq
    exact (currentValue_holds_iff hc).mp heq
  · intro h r hr d hd hkey
    obtain ⟨change, hchange, rfl⟩ := List.mem_map.mp hr
    obtain rfl := definition_eq hd (hn.known change hchange) hkey
    refine ⟨currentValue config w c change.1,
      readBack_formatValue (types_currentValue hc w change.1), ?_⟩
    exact (currentValue_holds_iff hc).mpr (h change hchange)

/-- A step raises and changes nothing, or commits what its last attempt wrote. -/
theorem SettingsStep.ends (hc : c.tx = none) {l : SettingsLabel py}
    (h : SettingsStep config c l c') :
    (∃ e, l.result = .error e ∧ c' = c) ∨
      ∃ normalized reason w u, validateChangeSet l.call.changes = .ok normalized ∧
      validateReason l.call.reason = .ok reason ∧ l.call.connected = true ∧
      committingAttempt l.call.attempts (2 * normalized.length) = some w ∧ l.result = .ok u ∧
      c' = ⟨appliedTables config l.call.now (actorOf l.call.changedBy) reason normalized w c,
        none⟩ := by
  unfold SettingsStep at h
  rcases applyChanges_cases config hc l.call with ⟨e, he⟩ | ⟨normalized, reason, w, u, hv, hr,
    hconn, hw, happly⟩
  · rw [he, Prod.mk.injEq] at h
    exact .inl ⟨e, h.1.symm, h.2.symm⟩
  · rw [happly, Prod.mk.injEq] at h
    exact .inr ⟨normalized, reason, w, u, hv, hr, hconn, hw, h.1.symm, h.2.symm⟩

theorem SettingsStep.tx (hc : c.tx = none) {l : SettingsLabel py} (h : SettingsStep config c l c') :
    c'.tx = none := by
  rcases h.ends hc with ⟨e, -, rfl⟩ | ⟨normalized, reason, w, u, -, -, -, -, -, rfl⟩
  · exact hc
  · rfl

/-- One call: it raises and changes nothing, or writes one row for each key it names. -/
theorem SettingsStep.account (hc : c.tx = none) {l : SettingsLabel py}
    (h : SettingsStep config c l c') : ((∃ e, l.result = .error e) → c' = c) ∧
    ∀ u, l.result = .ok u → ∃ rows, c'.durable.audit = c.durable.audit ++ rows ∧
      (rows.map (·.key)).Nodup ∧
      (∀ key, key ∈ rows.map (·.key) ↔ key ∈ l.call.changes.keys) ∧
      (OldValuesHold config c.durable rows ↔ ReadsHold config c.durable l.call) := by
  rcases h.ends hc with ⟨e, he, rfl⟩ | ⟨normalized, reason, w, u, hv, hr, hconn, hw, hok, rfl⟩
  · refine ⟨fun _ => rfl, fun u hu => ?_⟩
    rw [he] at hu
    cases hu
  · obtain ⟨hn, hkeys⟩ := validateChangeSet_checked hv
    have hrowkeys :
        (auditRows config l.call.now (actorOf l.call.changedBy) reason normalized w c).map (·.key) =
        normalized.map (·.1.key) := by
      unfold auditRows
      rw [List.map_map]
      rfl
    refine ⟨?_, fun u' _ =>
      ⟨auditRows config l.call.now (actorOf l.call.changedBy)
        reason normalized w c, ?_, ?_, ?_, ?_⟩⟩
    · rintro ⟨e, he⟩
      rw [hok] at he
      cases he
    · rfl
    · rw [hrowkeys]
      exact hn.once
    · rw [hrowkeys]
      exact hkeys
    · rw [oldValuesHold_iff hc hn]
      constructor
      · intro hold normalized' reason' w' hv' _ _ hw'
        obtain rfl := Except.ok.inj (hv.symm.trans hv')
        obtain rfl := Option.some.inj (hw.symm.trans hw')
        exact hold
      · exact fun hreads => hreads normalized reason w hv hr hconn hw

/-- One call extends the chain of every setting. -/
theorem SettingsStep.linked (hc : c.tx = none) {l : SettingsLabel py}
    (h : SettingsStep config c l c')
    (hreads : ReadsHold config c.durable l.call) :
    ∃ rows, c'.durable.audit = c.durable.audit ++ rows ∧
      ∀ d ∈ settingDefinitions, ∀ first past,
        AuditLinked d first past (effective config c.durable d) →
        AuditLinked d first (past ++ rows.filter fun r => decide (r.key = d.key))
          (effective config c'.durable d) := by
  rcases h.ends hc with ⟨e, -, rfl⟩ | ⟨normalized, reason, w, u, hv, hr, hconn, hw, -, rfl⟩
  · refine ⟨[], (List.append_nil _).symm, fun d _ first past hlinked => ?_⟩
    rw [List.filter_nil, List.append_nil]
    exact hlinked
  · obtain ⟨hn, -⟩ := validateChangeSet_checked hv
    refine ⟨auditRows config l.call.now (actorOf l.call.changedBy) reason normalized w c, rfl,
      fun d hd first past hlinked => ?_⟩
    have hcurrent : (effective config c.durable d).eq (currentValue config w c d) = true ∨
        d.key ∉ normalized.map (·.1.key) := by
      by_cases hmem : d.key ∈ normalized.map (·.1.key)
      · obtain ⟨change, hchange, hkey⟩ := List.mem_map.mp hmem
        obtain rfl := definition_eq (hn.known change hchange) hd hkey
        exact .inl
          ((currentValue_holds_iff hc).mpr
          (hreads normalized reason w hv hr hconn hw change hchange))
      · exact .inr hmem
    -- the settings of the committed tables are those written, whatever their audit
    have heffective :
        effective config
        (appliedTables config l.call.now (actorOf l.call.changedBy) reason normalized w c) d =
        effective config
          (writeSettings config l.call.now (actorOf l.call.changedBy) normalized c.durable) d := rfl
    rw [heffective]
    rcases filter_auditRows config hn w c hd with ⟨v, hchange, hfilter⟩ | ⟨hno, hfilter⟩
    · rw [hfilter]
      have hold := hcurrent.resolve_right fun hno => hno (List.mem_map.mpr ⟨_, hchange, rfl⟩)
      refine hlinked.snoc (readBack_formatValue (types_currentValue hc w d))
        (readBack_formatValue (hn.admits _ hchange).types) hold ?_
      exact SettingValue.eq_symm (effective_writeSettings hn hchange)
    · rw [hfilter, List.append_nil, effective_writeSettings_other hd hno]
      exact hlinked

/-- The audit since `c₀` leads from every setting there to the setting now. -/
def Replays (config : SettingsConfig py) (c₀ c : SettingsConnection) : Prop :=
  ∃ rows, c.durable.audit = c₀.durable.audit ++ rows ∧ ∀ d ∈ settingDefinitions,
    AuditLinked d (effective config c₀.durable d) (rows.filter fun r => decide (r.key = d.key))
      (effective config c.durable d)

end Runs

/-- **Settings changes are atomic, and their audit replays.** A call that raises
changes nothing; one that succeeds writes exactly one audit row for each key it
names, and the old values in them are those in force before it exactly if its
committing attempt could read them. In a run of such calls the audit rows of a
setting lead from its first value to what `get_setting` returns. -/
theorem settings_account {c₀ c : SettingsConnection} {ls : List (SettingsLabel py)}
    (hidle : c₀.tx = none) (hrun : Run (SettingsStep config) c₀ ls c) :
    (∀ pre l post, ls = pre ++ l :: post → ∃ a b, Run (SettingsStep config) c₀ pre a ∧
      SettingsStep config a l b ∧
      ((∃ e, l.result = .error e) → b = a) ∧
      ∀ u, l.result = .ok u → ∃ rows, b.durable.audit = a.durable.audit ++ rows ∧
        (rows.map (·.key)).Nodup ∧
        (∀ key, key ∈ rows.map (·.key) ↔ key ∈ l.call.changes.keys) ∧
        (OldValuesHold config a.durable rows ↔ ReadsHold config a.durable l.call)) ∧
    (Run (Guarded (fun c l => ReadsHold config c.durable l.call) (SettingsStep config)) c₀ ls c →
      ∃ rows, c.durable.audit = c₀.durable.audit ++ rows ∧ ∀ d ∈ settingDefinitions, ∃ value,
        getSetting config c.durable d.key false = .ok value ∧
        AuditLinked d (effective config c₀.durable d) (rows.filter fun r => decide (r.key = d.key))
          value) := by
  have hclosed {ks : List (SettingsLabel py)} {a : SettingsConnection}
      (h : Run (SettingsStep config) c₀ ks a) : a.tx = none :=
    Run.inv (I := fun c => c.tx = none) hidle (fun _ _ _ ha hs => hs.tx ha) h
  refine ⟨?_, fun hguarded => ?_⟩
  · rintro pre l post rfl
    obtain ⟨a, b, ha, hstep, -⟩ := hrun.at_label
    exact ⟨a, b, ha, hstep, hstep.account (hclosed ha)⟩
  · have hstart : c₀.tx = none ∧ Replays config c₀ c₀ :=
      ⟨hidle, [], (List.append_nil _).symm, fun d _ =>
        SettingValue.eq_refl (effective config c₀.durable d)⟩
    have hlinks : c.tx = none ∧ Replays config c₀ c := by
      refine Run.inv (I := fun c => c.tx = none ∧ Replays config c₀ c) hstart ?_ hguarded
      rintro a l b ⟨ha, past, haudit, hlinked⟩ ⟨hreads, hstep⟩
      obtain ⟨rows, hrows, hextend⟩ := hstep.linked ha hreads
      refine ⟨hstep.tx ha, past ++ rows, by rw [hrows, haudit, List.append_assoc], fun d hd => ?_⟩
      rw [List.filter_append]
      exact hextend d hd _ _ (hlinked d hd)
    obtain ⟨-, rows, haudit, hlinked⟩ := hlinks
    refine ⟨rows, haudit, fun d hd => ⟨effective config c.durable d, ?_, hlinked d hd⟩⟩
    unfold getSetting
    rw [settingDefinition_of_mem hd]
    rfl

/-! ### A read that fails -/

/-- The floats from 0.0 to 10.0 with one decimal. -/
def tenthText (n : Fin 101) : String := toString (n.val / 10) ++ "." ++ toString (n.val % 10)

def tenths : SettingsText where
  F := Fin 101
  value n := (n.val : ℚ) / 10
  literal q := Fin.ofNat 101 (q * 10).floor.toNat
  ofInt n := if 0 ≤ n ∧ n ≤ 10 then some (Fin.ofNat 101 (n.toNat * 10)) else none
  repr := tenthText
  float text := (List.finRange 101).find? fun n => tenthText n = text
  float_repr := by decide +kernel
  case := asciiCase

/-- A configuration without values: every setting has its fallback. -/
def plainSettings : SettingsConfig tenths := fun _ => none

def marginChange (n : Fin 101) (reads : String → Bool) : SettingsCall tenths :=
  { changes := .mapping [("temperature_prewarning_margin_c", .float n)], reason := some "pilot", now := "2026-01-01T00:00:00+08:00"
    attempts := fun _ => { readFails := reads } }

/-- The margin is 0.5, and then 1.0; the second call cannot read the override. -/
def hiddenChanges : List (SettingsCall tenths) :=
  [marginChange 5 fun _ => false, marginChange 10 fun key =>
    key = "temperature_prewarning_margin_c"]

/-- The calls one after another. -/
def playSettings (config : SettingsConfig py) (c : SettingsConnection) : List (SettingsCall py) →
    List (SettingsLabel py) × SettingsConnection
  | [] => ([], c)
  | k :: ks =>
    let r := applyChanges config k c
    (⟨k, r.1⟩ :: (playSettings config r.2 ks).1, (playSettings config r.2 ks).2)

theorem playSettings_run (c : SettingsConnection) (ks : List (SettingsCall py)) :
    Run (SettingsStep config) c (playSettings config c ks).1 (playSettings config c ks).2 := by
  induction ks generalizing c with
  | nil => exact .nil
  | cons k ks ih => exact .cons rfl (ih _)

/-- The read of the override fails behind the lock of another process: the second
audit row starts from the default, where the first ended at 0.5. -/
theorem failedRead_breaks_audit : ∃ ls c, Run (SettingsStep plainSettings) {} ls c ∧
    ls.length = 2 ∧ (∀ l ∈ ls, l.result.isOk = true) ∧
    c.durable.audit.map (fun r => (r.oldValue, r.newValue)) = [("0.2", "0.5"), ("0.2", "1.0")] ∧
    ¬ Replays plainSettings {} c := by
  refine ⟨_, _, playSettings_run {} hiddenChanges, rfl, ?_, by decide +kernel, ?_⟩
  · have hall : (playSettings plainSettings {} hiddenChanges).1.all (fun l => l.result.isOk) =
      true := by decide +kernel
    exact List.all_eq_true.mp hall
  · rintro ⟨rows, haudit, hlinked⟩
    have hrows : rows.map (fun r => (r.key, r.oldValue, r.newValue)) =
        [("temperature_prewarning_margin_c", "0.2", "0.5"),
          ("temperature_prewarning_margin_c", "0.2", "1.0")] := by
      rw [show rows =
        (playSettings plainSettings {} hiddenChanges).2.durable.audit from haudit.symm]
      decide +kernel
    obtain ⟨first, rest, rfl, hfirst, hrest⟩ := List.map_eq_cons_iff.mp hrows
    obtain ⟨second, rest, rfl, hsecond, hnil⟩ := List.map_eq_cons_iff.mp hrest
    obtain rfl := List.map_eq_nil_iff.mp hnil
    simp only [Prod.mk.injEq] at hfirst hsecond
    have h := hlinked (settingDefinitions.head (by decide)) (List.head_mem _)
    have hfilter :
        [first, second].filter (fun r =>
        decide (r.key = (settingDefinitions.head (by decide)).key)) =
        [first, second] := by
      rw [List.filter_eq_self]
      simp only [List.mem_cons, List.not_mem_nil, or_false]
      rintro r (rfl | rfl)
      · rw [hfirst.1]
        decide
      · rw [hsecond.1]
        decide
    rw [hfilter] at h
    obtain ⟨-, new, -, hnew, -, old, -, hold, -, heq, -⟩ := h
    have hread (n : Fin 101) :
        (settingDefinitions.head (by decide)).readBack tenths (tenthText n) = some (.float n) :=
      congrArg (Option.map SettingValue.float) (tenths.float_repr n)
    rw [hfirst.2.2] at hnew
    rw [hsecond.2.1] at hold
    have h5 : new = .float (5 : Fin 101) := Option.some.inj (hnew.symm.trans (hread 5))
    have h2 : old = .float (2 : Fin 101) := Option.some.inj (hold.symm.trans (hread 2))
    rw [h5, h2] at heq
    exact absurd heq (by decide +kernel)

/-- Attempts that can read hide nothing. -/
theorem reads_marginChange (t : SettingsTables) (n : Fin 101) :
    ReadsHold plainSettings t (marginChange n fun _ => false) := by
  intro normalized reason w _ _ _ hw change _ hfails
  obtain ⟨hending, -⟩ := Option.filter_eq_some_iff.mp hw
  obtain ⟨m, -, rfl⟩ := List.mem_map.mp (List.mem_of_find?_eq_some hending)
  cases hfails

/-- Three changes of the margin. -/
def shownChanges : List (SettingsCall tenths) :=
  [5, 10, 3].map fun n => marginChange n fun _ => false

theorem settings_account_margins : ∃ ls c, Run (SettingsStep plainSettings) {} ls c ∧
    ls.length = 3 ∧
    c.durable.audit.map (fun r => (r.oldValue, r.newValue)) =
      [("0.2", "0.5"), ("0.5", "1.0"), ("1.0", "0.3")] ∧
    ∃ rows, c.durable.audit = [] ++ rows ∧ ∀ d ∈ settingDefinitions, ∃ value,
      getSetting plainSettings c.durable d.key false = .ok value ∧
      AuditLinked d (effective plainSettings {} d) (rows.filter fun r =>
        decide (r.key = d.key)) value := by
  have hrun : Run (SettingsStep plainSettings) {} _ _ := playSettings_run {} shownChanges
  have hguarded :
      Run (Guarded (fun c l => ReadsHold plainSettings c.durable l.call)
      (SettingsStep plainSettings)) {}
      (playSettings plainSettings {} shownChanges).1
        (playSettings plainSettings {} shownChanges).2 :=
    .cons ⟨reads_marginChange _ 5, rfl⟩
      (.cons ⟨reads_marginChange _ 10, rfl⟩ (.one ⟨reads_marginChange _ 3, rfl⟩))
  exact ⟨_, _, hrun, rfl, by decide +kernel, (settings_account rfl hrun).2 hguarded⟩

end TemperatureMonitor
