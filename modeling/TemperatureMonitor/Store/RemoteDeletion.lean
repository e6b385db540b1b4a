/-
# Deleted remote records

The registry `feishu_remote_record_state` and the two operations on it: a
writer registers the entity a remote record stands for, and a record the
server no longer knows is marked, with a tombstone here and its status in
every table linked to it. An event is linked by its payload, or by the
registered binding (`Linked`). The sweep upper-cases the id of the binding and
compares it with the id of the event as it is, so it finds the event of a
binding exactly where that changes nothing (`missing_propagates_iff`); the
ids the store makes are lower-case hexadecimal.
-/
import TemperatureMonitor.Store.DeviceProjection
import TemperatureMonitor.Store.Events
import TemperatureMonitor.Store.MirrorWrite
import TemperatureMonitor.Store.ProjectionState

namespace TemperatureMonitor

variable {Cell : Type*}

inductive RemoteRecordState
  | bound | remoteRecordDeleted
deriving DecidableEq

/-- A row of `feishu_remote_record_state`. -/
structure RemoteRecordRow where
  tableId : String
  recordId : String
  entityType : Option String := none
  entityId : Option String := none
  state : RemoteRecordState := .bound
  missingAt : Option DateTime := none
  lastError : Option String := none
  updatedAt : DateTime
deriving DecidableEq

/-- The primary key. -/
def RemoteRecordRow.key (r : RemoteRecordRow) : String × String := (r.tableId, r.recordId)

/-- The tables of the client's database; of three of them the code asks first whether they exist. -/
structure MirrorTables (Cell : Type*) where
  remoteRecordState : List RemoteRecordRow := []
  deviceStatus : Option (List (DeviceStatusRow Cell)) := none
  sampleStates : Option (List ProjectionRow) := none
  environmentEvents : Option (List EnvironmentEvent) := none

/-- What a statement does to the tables. -/
abbrev MirrorStatement (Cell : Type*) := MirrorTables Cell → MirrorTables Cell

def runStatements (t : MirrorTables Cell) (ws : List (MirrorStatement Cell)) : MirrorTables Cell :=
  ws.foldl (fun t w => w t) t

/-- The tables as the connection sees them, over those it began with. -/
def Conn.tables (base : MirrorTables Cell) (c : Conn (MirrorStatement Cell)) : MirrorTables Cell :=
  runStatements base c.db.visible

structure MirrorConfig where
  sqliteEnabled : Bool := true
  tableId : String := ""
  feishuDeviceTableId : String := ""
  feishuEventTableId : String := ""

/-- How the database behaves during a call: whether there is a connection, which statement fails,
the `COMMIT`. -/
structure MirrorIo where
  connected : Bool := true
  fault : Option ℕ := none
  commit : CommitResult := .done

/-- An operation on a remote record: it returns `False` at once, or runs its statements. -/
def recordCall (cfg : MirrorConfig) (io : MirrorIo) (tableId recordId : String)
    (writes : List (MirrorStatement Cell))
    (c : Conn (MirrorStatement Cell)) : MirrorResult × Conn (MirrorStatement Cell) :=
  mirrorWrite io.connected
    (if !cfg.sqliteEnabled || blank tableId || blank recordId then none
     else some { frame := .committed, writes, raises := false, fault := io.fault, commit := io.commit }) c

/-! ### Registering -/

/-- `str(value).strip() if value else None`. -/
def stripped (value : Option String) : Option String := (value.filter (· ≠ "")).map strip

/-- The upsert of a registration: the state and the tombstone's columns stay. -/
def registeredRow (table record : String) (entityType entityId : Option String) (now : DateTime)
    (old : Option RemoteRecordRow) : RemoteRecordRow :=
  let r := old.getD { tableId := table, recordId := record, updatedAt := now }
  { r with tableId := table, recordId := record, entityType := entityType <|> r.entityType
           entityId := entityId <|> r.entityId, updatedAt := now }

theorem key_registeredRow (table record : String) (entityType entityId : Option String)
    (now : DateTime)
    (old : Option RemoteRecordRow) :
    (registeredRow table record entityType entityId now old).key = (table, record) := rfl

def registerStatement (table record : String) (entityType entityId : Option String) (now : DateTime) :
    MirrorStatement Cell := fun t =>
  { t with remoteRecordState :=
      alterRow RemoteRecordRow.key (table, record) (registeredRow table record entityType entityId now) t.remoteRecordState }

/-- A call of `register_feishu_record_binding`. -/
structure Registration where
  io : MirrorIo
  tableId : String
  recordId : String
  entityType : Option String := none
  entityId : Option String := none
  now : DateTime

/-- `register_feishu_record_binding`. -/
def registerFeishuRecordBinding (cfg : MirrorConfig) (c : Conn (MirrorStatement Cell))
    (g : Registration) : MirrorResult × Conn (MirrorStatement Cell) :=
  recordCall cfg g.io g.tableId g.recordId
    [registerStatement (strip g.tableId) (strip g.recordId) (stripped g.entityType)
      (stripped g.entityId) g.now] c

/-- Registrations, one after the other. -/
def registerAll (cfg : MirrorConfig) (c : Conn (MirrorStatement Cell)) (gs : List Registration) :
    Conn (MirrorStatement Cell) :=
  gs.foldl (fun c g => (registerFeishuRecordBinding cfg c g).2) c

/-! ### Marking -/

/-- The upsert of a tombstone: what is registered stays. -/
def deletedRow (table record error : String) (when_ : DateTime) (old : Option RemoteRecordRow) :
    RemoteRecordRow :=
  { old.getD { tableId := table, recordId := record, updatedAt := when_ } with
    tableId := table, recordId := record, state := .remoteRecordDeleted, missingAt := some when_
    lastError := some error, updatedAt := when_ }

def tombstoneStatement (table record error : String) (when_ : DateTime) : MirrorStatement Cell := fun t =>
  { t with remoteRecordState :=
      alterRow RemoteRecordRow.key (table, record) (deletedRow table record error when_) t.remoteRecordState }

def deviceMissingStatement (record entityId error : String) (when_ : DateTime) :
    MirrorStatement Cell := fun t =>
  { t with deviceStatus := t.deviceStatus.map fun rows => rows.map fun r =>
      if r.recordId = some record ∨ entityId ≠ "" ∧ r.deviceId = entityId then
        { r with status := .remoteRecordDeleted, pending := false, failed := false, lastAttemptAt := some when_
                 lastError := some error, updatedAt := when_ }
      else r }

def sampleMissingStatement (entityId error : String) (when_ : DateTime) :
    MirrorStatement Cell := fun t =>
  { t with sampleStates := t.sampleStates.map fun rows => rows.map fun r =>
      if r.device = entityId then
        { r with projectionStatus := .remoteRecordDeleted, lastError := some (String.ofList (error.toList.take 500))
                 lastAttemptAt := some when_ }
      else r }

/-- `payload.update(remote_record_missing_payload(...))`. -/
def EventPayload.stampMissing (error : String) (missingAt : DateTime) (p : EventPayload) :
    EventPayload :=
  { p.recordMissing missingAt with feishuRecordMissingError := some error }

/-- The row of an event is closed, with the payload made from the one that was read. -/
def missingRow (error : String) (when_ : DateTime) (read e : EnvironmentEvent) : EnvironmentEvent :=
  { e with status := .closed, closedAt := e.closedAt <|> some when_, payload := read.payload.stampMissing error when_ }

def eventMissingStatement (error : String) (when_ : DateTime) (read : EnvironmentEvent) :
    MirrorStatement Cell := fun t =>
  { t with environmentEvents := t.environmentEvents.map fun rows =>
      updateEvent rows read.eventId (missingRow error when_ read) }

section Mark

variable (upper : String → String) (cfg : MirrorConfig)

/-- `is_device_record`. -/
def isDeviceRecord (table entityType : String) : Bool :=
  entityType == "DEVICE" ||
    table ≠ "" &&
      ([strip cfg.feishuDeviceTableId, strip cfg.tableId].filter (· ≠ "")).contains table

/-- `linked`. -/
def linkedRow (table record entityType entityId : String) (e : EnvironmentEvent) : Bool :=
  (table == strip cfg.feishuEventTableId && e.payload.feishuRecordId == some record) ||
    (entityType == "ENVIRONMENT_EVENT" && entityId ≠ "" && e.eventId == entityId)

/-- What the record stands for, as registered: its kind, and its id. -/
def boundType (t : MirrorTables Cell) (table record : String) : String :=
  upper (((rowOf RemoteRecordRow.key t.remoteRecordState (table, record)).bind (·.entityType)).getD
    "")

def boundId (t : MirrorTables Cell) (table record : String) : Option String :=
  (rowOf RemoteRecordRow.key t.remoteRecordState (table, record)).bind (·.entityId)

/-- What a marking does to the projections of a device. -/
def deviceStatements (table record entityType entityId error : String) (when_ : DateTime) :
    List (MirrorStatement Cell) :=
  if isDeviceRecord cfg table entityType then
    if entityType = "DEVICE" ∧ entityId ≠ "" then
      [deviceMissingStatement record entityId error when_,
        sampleMissingStatement entityId error when_]
    else [deviceMissingStatement record entityId error when_]
  else []

/-- The statements of a marking, on the tables it finds. -/
def missingStatements (table record error : String) (when_ : DateTime) (t : MirrorTables Cell) :
    List (MirrorStatement Cell) :=
  let binding := tombstoneStatement table record error when_ t
  let entityType := boundType upper binding table record
  let entityId := upper (strip ((boundId binding table record).getD ""))
  tombstoneStatement table record error when_ ::
    deviceStatements cfg table record entityType entityId error when_ ++
  ((t.environmentEvents.getD []).filter (linkedRow cfg table record entityType entityId)).map
    (eventMissingStatement error when_)

/-- `mark_feishu_record_missing`. -/
def markFeishuRecordMissing (base : MirrorTables Cell) (io : MirrorIo)
    (tableId recordId error : String)
    (missingAt : Option DateTime) (now : DateTime) (c : Conn (MirrorStatement Cell)) :
    MirrorResult × Conn (MirrorStatement Cell) :=
  recordCall cfg io tableId recordId
    (missingStatements upper cfg (strip tableId) (strip recordId)
        (String.ofList (error.toList.take 1000))
      (missingAt.getD now) (c.tables base)) c

end Mark

/-! ### Calls -/

section Calls

variable {upper : String → String} {cfg : MirrorConfig} {base t : MirrorTables Cell}
  {c : Conn (MirrorStatement Cell)}
  {io : MirrorIo} {tableId recordId table record error : String} {ws : List (MirrorStatement Cell)}
  {when_ : DateTime}

theorem runStatements_append (t : MirrorTables Cell) (ws ws' : List (MirrorStatement Cell)) :
    runStatements t (ws ++ ws') = runStatements (runStatements t ws) ws' := List.foldl_append

/-- What every statement of a list keeps, the list keeps. -/
theorem runStatements_keeps {β : Type*} {f : MirrorTables Cell → β}
    (h : ∀ w ∈ ws, ∀ t, f (w t) = f t) : f (runStatements t ws) = f t := by
  induction ws generalizing t with
  | nil => rfl
  | cons w ws ih =>
    have hrest : f (runStatements (w t) ws) = f (w t) :=
      ih fun w' hw' => h w' (List.mem_cons_of_mem _ hw')
    exact hrest.trans (h w List.mem_cons_self t)

theorem recordCall_false (h : (recordCall cfg io tableId recordId ws c).1 = .returned false) :
    (recordCall cfg io tableId recordId ws c).2.db = c.db := mirrorWrite_false h

/-- A call shows its statements, or nothing. -/
theorem recordCall_tables (cfg : MirrorConfig) (base : MirrorTables Cell) (io : MirrorIo)
    (tableId recordId : String)
    (ws : List (MirrorStatement Cell)) (c : Conn (MirrorStatement Cell)) :
    (recordCall cfg io tableId recordId ws c).2.tables base = c.tables base ∨
      (recordCall cfg io tableId recordId ws c).2.tables base =
        runStatements (c.tables base) ws := by
  unfold recordCall Conn.tables
  rcases mirrorWrite_visible io.connected _ c with h | ⟨k, hk, h⟩
  · left
    rw [h]
  · right
    rw [h, runStatements_append]
    split_ifs at hk
    obtain rfl := Option.some.inj hk
    rfl

theorem recordCall_true (h : (recordCall cfg io tableId recordId ws c).1 = .returned true) :
    (recordCall cfg io tableId recordId ws c).2.tables base = runStatements (c.tables base) ws := by
  unfold recordCall at h ⊢
  obtain ⟨k, hk, hvis⟩ := mirrorWrite_true h
  unfold Conn.tables
  rw [hvis, runStatements_append]
  split_ifs at hk
  obtain rfl := Option.some.inj hk
  rfl

/-! ### The tombstone -/

/-- The record is known to be deleted. -/
def Tombstoned (table record : String) (t : MirrorTables Cell) : Prop :=
  ∃ r, rowOf RemoteRecordRow.key t.remoteRecordState (table, record) = some r ∧
    r.state = .remoteRecordDeleted

theorem tombstoned_tombstone (t : MirrorTables Cell) :
    Tombstoned table record (tombstoneStatement table record error when_ t) :=
  ⟨_, rowOf_alterRow_self fun _ => rfl, rfl⟩

/-- A registration keeps every tombstone. -/
theorem Tombstoned.register (h : Tombstoned table record t) (table' record' : String)
    (entityType entityId : Option String)
    (now : DateTime) :
    Tombstoned table record (registerStatement table' record' entityType entityId now t) := by
  obtain ⟨r, hr, hstate⟩ := h
  have hkey := key_registeredRow table' record' entityType entityId now
  by_cases hk : (table, record) = (table', record')
  · refine ⟨registeredRow table' record' entityType entityId now (some r), ?_, hstate⟩
    rw [hk] at hr ⊢
    rw [← hr]
    exact rowOf_alterRow_self hkey
  · exact ⟨r, (rowOf_alterRow_other hkey hk).trans hr, hstate⟩

theorem tombstoned_registerAll (gs : List Registration)
    (h : Tombstoned table record (c.tables base)) :
    Tombstoned table record ((registerAll cfg c gs).tables base) := by
  induction gs generalizing c with
  | nil => exact h
  | cons g gs ih =>
    apply ih (c := (registerFeishuRecordBinding cfg c g).2)
    unfold registerFeishuRecordBinding
    rcases recordCall_tables cfg base g.io g.tableId g.recordId _ c with hsame | hrun
    · rw [hsame]
      exact h
    · rw [hrun]
      exact h.register _ _ _ _ _

/-! ### The statements of a marking -/

theorem deviceStatements_keep {entityType entityId : String} {w : MirrorStatement Cell}
    (hw : w ∈ deviceStatements cfg table record entityType entityId error when_)
    (t : MirrorTables Cell) :
    (w t).remoteRecordState = t.remoteRecordState ∧
      (w t).environmentEvents = t.environmentEvents := by
  have hcases : w = deviceMissingStatement record entityId error when_ ∨
      w = sampleMissingStatement entityId error when_ := by
    unfold deviceStatements at hw
    split_ifs at hw
    · simpa using hw
    · exact .inl (List.mem_singleton.mp hw)
    · exact absurd hw List.not_mem_nil
  rcases hcases with rfl | rfl
  · exact ⟨rfl, rfl⟩
  · exact ⟨rfl, rfl⟩

/-- A marking sets the tombstone; no other statement of it touches the registry. -/
theorem tombstoned_missingStatements (t : MirrorTables Cell) :
    Tombstoned table record
      (runStatements t (missingStatements upper cfg table record error when_ t)) := by
  have htomb : Tombstoned table record (tombstoneStatement table record error when_ t) :=
    tombstoned_tombstone t
  obtain ⟨r, hr, hstate⟩ := htomb
  refine ⟨r, ?_, hstate⟩
  unfold missingStatements
  rw [List.cons_append]
  show rowOf _ (runStatements (tombstoneStatement table record error when_ t) _).remoteRecordState
    _ = _
  rw [runStatements_keeps (f := fun t =>
    rowOf RemoteRecordRow.key t.remoteRecordState (table, record)) ?_]
  · exact hr
  intro w hw t
  rcases List.mem_append.mp hw with hw | hw
  · rw [(deviceStatements_keep hw t).1]
  · obtain ⟨e, -, rfl⟩ := List.mem_map.mp hw
    rfl

/-- Updates of the rows of some events, each made from the row that was read. -/
theorem foldl_updateEvent (f : EnvironmentEvent → EnvironmentEvent → EnvironmentEvent)
    (l rows : List EnvironmentEvent) :
    l.foldl (fun rows e => updateEvent rows e.eventId (f e)) rows =
      rows.map fun x => l.foldl (fun x e => if x.eventId = e.eventId then f e x else x) x := by
  induction l generalizing rows with
  | nil => simp
  | cons e l ih =>
    rw [List.foldl_cons, ih]
    unfold updateEvent
    rw [List.map_map]
    rfl

/-- A row is changed by the update made from it, and by no other. -/
theorem foldl_row {f : EnvironmentEvent → EnvironmentEvent → EnvironmentEvent}
    (hf : ∀ e x, (f e x).eventId = x.eventId)
    {x : EnvironmentEvent} : ∀ l : List EnvironmentEvent, (l.map (·.eventId)).Nodup →
      (∀ e ∈ l, e.eventId = x.eventId → e = x) →
      l.foldl (fun x e => if x.eventId = e.eventId then f e x else x) x = if x ∈ l then f x x
        else x := by
  have hother : ∀ (l : List EnvironmentEvent) (y : EnvironmentEvent),
      (∀ e ∈ l, e.eventId ≠ y.eventId) →
      l.foldl (fun x e => if x.eventId = e.eventId then f e x else x) y = y := by
    intro l
    induction l with
    | nil => exact fun y _ => rfl
    | cons e l ih =>
      intro y hy
      rw [List.foldl_cons, if_neg fun h => hy e List.mem_cons_self h.symm]
      exact ih y fun e' he' => hy e' (List.mem_cons_of_mem _ he')
  intro l
  induction l with
  | nil => exact fun _ _ => rfl
  | cons e l ih =>
    intro hn hx
    rw [List.map_cons, List.nodup_cons] at hn
    rw [List.foldl_cons]
    by_cases he : x.eventId = e.eventId
    · obtain rfl := hx e List.mem_cons_self he.symm
      rw [if_pos rfl, if_pos List.mem_cons_self]
      apply hother
      intro e' he' hid
      rw [hf] at hid
      exact hn.1 (List.mem_map.mpr ⟨e', he', hid⟩)
    · rw [if_neg he, ih hn.2 fun e' he' => hx e' (List.mem_cons_of_mem _ he')]
      have hne : x ≠ e := fun h => he (congrArg _ h)
      simp [hne]

/-- `SET status = 'CLOSED', ...` with the payload of the row itself. -/
def EnvironmentEvent.stampMissing (error : String) (missingAt : DateTime) (e : EnvironmentEvent) :
    EnvironmentEvent :=
  missingRow error missingAt e e

/-- The tombstone keeps what is registered. -/
theorem bound_tombstone (t : MirrorTables Cell) :
    boundType upper (tombstoneStatement table record error when_ t) table record =
      boundType upper t table record ∧
      boundId (tombstoneStatement table record error when_ t) table record =
        boundId t table record := by
  have hrow :
      rowOf RemoteRecordRow.key (tombstoneStatement table record error when_ t).remoteRecordState
      (table, record) =
      some (deletedRow table record error when_
        (rowOf RemoteRecordRow.key t.remoteRecordState (table, record))) :=
    rowOf_alterRow_self fun _ => rfl
  unfold boundType boundId
  rw [hrow]
  cases rowOf RemoteRecordRow.key t.remoteRecordState (table, record) with
  | none => exact ⟨rfl, rfl⟩
  | some r => exact ⟨rfl, rfl⟩

/-- **What a marking does to the events.** -/
theorem missingStatements_events {t : MirrorTables Cell}
    (hn : ∀ rows ∈ t.environmentEvents, (rows.map (·.eventId)).Nodup) :
    (runStatements t (missingStatements upper cfg table record error when_ t)).environmentEvents =
      t.environmentEvents.map fun rows => rows.map fun e =>
        if linkedRow cfg table record (boundType upper t table record)
          (upper (strip ((boundId t table record).getD ""))) e then e.stampMissing error when_
            else e := by
  have hbound : boundType upper (tombstoneStatement table record error when_ t) table record =
      boundType upper t table record ∧
        boundId (tombstoneStatement table record error when_ t) table record =
          boundId t table record := bound_tombstone t
  unfold missingStatements
  simp only [hbound.1, hbound.2]
  generalize boundType upper t table record = entityType
  generalize upper (strip ((boundId t table record).getD "")) = entityId
  rw [runStatements_append]
  have hfront : (runStatements t (tombstoneStatement table record error when_ ::
      deviceStatements cfg table record entityType entityId error when_)).environmentEvents =
        t.environmentEvents := by
    apply runStatements_keeps
    intro w hw t
    rcases List.mem_cons.mp hw with rfl | hw
    · rfl
    · exact (deviceStatements_keep hw t).2
  have hrun : ∀ (l : List EnvironmentEvent) (s : MirrorTables Cell),
      (runStatements s (l.map (eventMissingStatement error when_))).environmentEvents =
        s.environmentEvents.map fun rows =>
          l.foldl (fun rows e => updateEvent rows e.eventId (missingRow error when_ e)) rows := by
    intro l
    induction l with
    | nil => exact fun s => by simp [runStatements]
    | cons e l ih =>
      intro s
      rw [List.map_cons]
      show (runStatements (eventMissingStatement error when_ e s) _).environmentEvents = _
      rw [ih]
      unfold eventMissingStatement
      rw [Option.map_map]
      rfl
  rw [hrun, hfront]
  cases hrows : t.environmentEvents with
  | none => rfl
  | some rows =>
    rw [Option.map_some, Option.map_some, Option.getD_some, foldl_updateEvent]
    have hids := hn rows hrows
    congr 1
    apply List.map_congr_left
    intro e he
    rw [foldl_row (f := missingRow error when_) (fun _ _ => rfl)
        _ ((List.filter_sublist.map _).nodup hids) fun e' he' hid =>
      List.inj_on_of_nodup_map hids (List.mem_filter.mp he').1 he hid]
    by_cases hl : linkedRow cfg table record entityType entityId e
    · rw [if_pos (List.mem_filter.mpr ⟨he, hl⟩), if_pos hl]
      rfl
    · rw [if_neg fun h => hl (List.mem_filter.mp h).2, if_neg hl]

/-! ### What is linked -/

/-- The event's payload names the record, and the table is the event table. -/
def LinkedByPayload (cfg : MirrorConfig) (table record : String) (e : EnvironmentEvent) : Prop :=
  table = strip cfg.feishuEventTableId ∧ e.payload.feishuRecordId = some record

/-- The record is registered as the one of the event. -/
def LinkedByBinding (upper : String → String) (t : MirrorTables Cell) (table record : String)
    (e : EnvironmentEvent) :
    Prop := boundType upper t table record = "ENVIRONMENT_EVENT" ∧
      boundId t table record = some e.eventId

/-- The event is linked to the record. -/
def Linked (upper : String → String) (cfg : MirrorConfig) (t : MirrorTables Cell)
    (table record : String)
    (e : EnvironmentEvent) : Prop :=
  LinkedByPayload cfg table record e ∨ LinkedByBinding upper t table record e

instance (e : EnvironmentEvent) : Decidable (Linked upper cfg t table record e) := by
  unfold Linked LinkedByPayload LinkedByBinding
  infer_instance

/-- Stripping and upper-casing the bound id does not change whether it is the id of the event. -/
def SameId (upper : String → String) (t : MirrorTables Cell) (table record : String)
    (e : EnvironmentEvent) : Prop :=
  boundId t table record = some e.eventId ↔
    upper (strip ((boundId t table record).getD "")) = e.eventId ∧ e.eventId ≠ ""

theorem linkedRow_iff {e : EnvironmentEvent} :
    linkedRow cfg table record (boundType upper t table record)
      (upper (strip ((boundId t table record).getD ""))) e = true ↔
      LinkedByPayload cfg table record e ∨ boundType upper t table record = "ENVIRONMENT_EVENT" ∧
        upper (strip ((boundId t table record).getD "")) = e.eventId ∧ e.eventId ≠ "" := by
  unfold linkedRow LinkedByPayload
  simp only [Bool.or_eq_true, Bool.and_eq_true, beq_iff_eq, decide_eq_true_eq, ne_eq]
  constructor
  · rintro (h | ⟨⟨htype, hne⟩, hid⟩)
    · exact .inl h
    · exact .inr ⟨htype, hid.symm, hid ▸ hne⟩
  · rintro (h | ⟨htype, hid, hne⟩)
    · exact .inl h
    · exact .inr ⟨⟨htype, hid ▸ hne⟩, hid.symm⟩

/-- A row is stamped exactly where it is linked, if its id survives what is done to the bound
one. -/
theorem stamped_iff {e : EnvironmentEvent} :
    ((if linkedRow cfg table record (boundType upper t table record)
        (upper (strip ((boundId t table record).getD ""))) e then
          e.stampMissing error when_ else e) =
      if Linked upper cfg t table record e then e.stampMissing error when_ else e) ↔
    (¬LinkedByPayload cfg table record e → e.stampMissing error when_ ≠ e →
      boundType upper t table record = "ENVIRONMENT_EVENT" → SameId upper t table record e) := by
  have hite : ∀ {p q : Prop} [Decidable p] [Decidable q] {x y : EnvironmentEvent},
      ((if p then x else y) = if q then x else y) ↔ (x ≠ y → (p ↔ q)) := by
    intro p q _ _ x y
    by_cases hxy : x = y
    · simp [hxy]
    · by_cases hp : p
      · by_cases hq : q
        · simp [hp, hq]
        · simp [hp, hq, hxy]
      · by_cases hq : q
        · simp [hp, hq, hxy, eq_comm]
        · simp [hp, hq]
  rw [hite, linkedRow_iff]
  unfold Linked LinkedByBinding SameId
  by_cases hp : LinkedByPayload cfg table record e
  · simp [hp]
  by_cases htype : boundType upper t table record = "ENVIRONMENT_EVENT"
  · simp only [hp, htype, false_or, true_and, not_false_eq_true, forall_const]
    exact forall_congr' fun _ => iff_comm
  · simp [hp, htype]

/-! ### The propagation -/

/-- **Marking a record as deleted.** A marking that returns `False` leaves the database. One that
returns `True` sets a tombstone no registration removes, and stamps exactly the events linked to the
record if and only if the bound id, where it matters, is as good upper-cased. -/
theorem missing_propagates_iff (upper : String → String) (cfg : MirrorConfig)
    (base : MirrorTables Cell) (io : MirrorIo)
    (tableId recordId error : String) (missingAt : Option DateTime) (now : DateTime)
    (c : Conn (MirrorStatement Cell))
    (hids : ∀ rows ∈ (c.tables base).environmentEvents, (rows.map (·.eventId)).Nodup) :
    let r := markFeishuRecordMissing upper cfg base io tableId recordId error missingAt now c
    let stamp :=
      EnvironmentEvent.stampMissing (String.ofList (error.toList.take 1000)) (missingAt.getD now)
    (r.1 = .returned false → r.2.db = c.db) ∧
    (r.1 = .returned true →
      (∀ gs, Tombstoned (strip tableId) (strip recordId) ((registerAll cfg r.2 gs).tables base)) ∧
      ((r.2.tables base).environmentEvents =
          (c.tables base).environmentEvents.map (fun rows => rows.map fun e =>
          if Linked upper cfg (c.tables base) (strip tableId) (strip recordId) e then
            stamp e else e) ↔
        ∀ rows ∈ (c.tables base).environmentEvents, ∀ e ∈ rows,
          ¬LinkedByPayload cfg (strip tableId) (strip recordId) e → stamp e ≠ e →
          boundType upper (c.tables base) (strip tableId) (strip recordId) = "ENVIRONMENT_EVENT" →
          SameId upper (c.tables base) (strip tableId) (strip recordId) e)) := by
  intro r stamp
  refine ⟨recordCall_false, fun htrue => ?_⟩
  have htables :
      r.2.tables base = runStatements (c.tables base) (missingStatements upper cfg (strip tableId)
      (strip recordId) (String.ofList (error.toList.take 1000)) (missingAt.getD now)
        (c.tables base)) :=
    recordCall_true htrue
  constructor
  · intro gs
    apply tombstoned_registerAll
    rw [htables]
    exact tombstoned_missingStatements _
  rw [htables, missingStatements_events hids]
  cases hrows : (c.tables base).environmentEvents with
  | none => simp
  | some rows =>
    simp only [Option.map_some, Option.some.injEq, List.map_inj_left, Option.mem_def, forall_eq']
    refine forall₂_congr fun e _ => ?_
    exact stamped_iff

end Calls

def deletedAt : DateTime := .utc 1740823200000000

/-- An open event, and the event table. -/
def openEvents : MirrorTables String :=
  { environmentEvents := some [{ eventId := "3f2504e04f89", deviceId := "TH-01", eventKey := "alarm:TH-01"
                                 openedAt := deletedAt }] }

def eventTable : MirrorConfig := { feishuEventTableId := "tblEvents" }

/-- The id of the event is registered, the record deleted: the event stays open. -/
theorem boundEvent_stays_open :
    let c := registerAll eventTable {} [{ io := {}, tableId := "tblEvents", recordId := "rec1"
                                          entityType := some "ENVIRONMENT_EVENT", entityId :=
                                            some "3f2504e04f89"
                                          now := deletedAt }]
    let r := markFeishuRecordMissing asciiUpper eventTable openEvents {}
      "tblEvents" "rec1" "RecordIdNotFound" none deletedAt c
    r.1 = .returned true ∧
      (∀ e ∈ ((c.tables openEvents).environmentEvents.getD []),
        Linked asciiUpper eventTable (c.tables openEvents) "tblEvents" "rec1" e) ∧
      (r.2.tables openEvents).environmentEvents = openEvents.environmentEvents ∧
      (∀ e ∈ ((r.2.tables openEvents).environmentEvents.getD []), e.status = .open) := by
  decide +kernel

/-- An event named by its payload, one bound by its id, and one with another record. -/
def threeEvents : MirrorTables String :=
  { environmentEvents := some
      [{ eventId := "3f2504e04f89", deviceId := "TH-01", eventKey := "alarm:TH-01", openedAt := deletedAt
         payload := { feishuRecordId := some "rec1" } },
       { eventId := "E2", deviceId := "TH-02", eventKey := "alarm:TH-02", openedAt := deletedAt },
       { eventId := "E3", deviceId := "TH-03", eventKey := "alarm:TH-03", openedAt := deletedAt
         payload := { feishuRecordId := some "rec3" } }] }

/-- The connection after the second event is registered. -/
def boundSecond : Conn (MirrorStatement String) :=
  registerAll eventTable {} [{ io := {}, tableId := "tblEvents", recordId := "rec1", entityType := some "ENVIRONMENT_EVENT"
                               entityId := some "E2", now := deletedAt }]

/-- The first two are closed. -/
theorem missing_propagates_three :
    let r := markFeishuRecordMissing asciiUpper eventTable threeEvents {}
      "tblEvents" " rec1" "RecordIdNotFound" none deletedAt boundSecond
    ((r.2.tables threeEvents).environmentEvents.getD []).map (·.status) =
        [.closed, .closed, .open] ∧
      (r.2.tables threeEvents).environmentEvents =
          (boundSecond.tables threeEvents).environmentEvents.map (fun rows => rows.map fun e =>
        if Linked asciiUpper eventTable (boundSecond.tables threeEvents) "tblEvents" "rec1" e then
          e.stampMissing "RecordIdNotFound" deletedAt
        else e) := by
  refine ⟨by
    decide +kernel,
      ((missing_propagates_iff asciiUpper eventTable threeEvents {}
      "tblEvents" " rec1" "RecordIdNotFound" none
    deletedAt boundSecond (by decide +kernel)).2 (by decide +kernel)).2.mpr
      fun rows hrows e he _ _ _ => ?_⟩
  have hbound : boundId (boundSecond.tables threeEvents) "tblEvents" (strip " rec1") =
    some "E2" := by decide +kernel
  have hupper : asciiUpper (strip "E2") = "E2" := by decide +kernel
  unfold SameId
  rw [show strip "tblEvents" = "tblEvents" by
    decide +kernel, hbound, Option.getD_some, hupper, Option.some.injEq]
  exact ⟨fun heq => ⟨heq, by rw [← heq]; decide⟩, And.left⟩

end TemperatureMonitor
