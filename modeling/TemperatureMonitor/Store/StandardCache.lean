/-
# The cache of the standards

The tables of `SQLiteStandardRepository` and its operations. The business
content of a version is immutable: a snapshot that brings a known revision
brings the same content, or its transaction is rolled back. A snapshot that
differs from the active one becomes the active and the last-known-good one.
The uuids of the rows and the failures of the connection are given from outside.
-/
import Mathlib.Data.List.Sort
import TemperatureMonitor.Domain.StandardChoice
import TemperatureMonitor.Library.Table
import TemperatureMonitor.Library.Transaction
import TemperatureMonitor.Store.Queue

namespace TemperatureMonitor

/-! ### Tables -/

/-- A row of `standard_versions`. -/
structure StandardVersion where
  fields : StandardFields
  validationStatus : String := "UNVALIDATED"
  validatedAt : Option DateTime := none
  createdAt : DateTime
  updatedAt : DateTime

/-- The primary key of a version. -/
def StandardVersion.key (v : StandardVersion) : String × String :=
  (v.fields.standardId, v.fields.revision)

structure StandardSnapshot where
  snapshotId : String
  source : String
  syncedAt : DateTime
  standardCount : ℕ
  status : String
  createdAt : DateTime

structure SnapshotMember where
  snapshotId : String
  standardId : String
  revision : String
deriving DecidableEq

structure StandardSyncRun where
  id : String
  source : String
  status : String
  standardCount : ℕ
  errors : List String
  startedAt : DateTime
  finishedAt : Option DateTime := none
  snapshotId : Option String := none

/-- The database; the two pointers are the row of `standard_runtime_state`. -/
structure StandardDb where
  versions : List StandardVersion := []
  snapshots : List StandardSnapshot := []
  members : List SnapshotMember := []
  activeSnapshotId : Option String := none
  lastKnownGoodSnapshotId : Option String := none
  syncRuns : List StandardSyncRun := []

/-! ### Rows and standards -/

/-- `str(exc)`; a `KeyError` prints the `repr` of its text. -/
def PyError.str : PyError → String
  | .keyError text => reprText (some text)
  | .valueError text | .runtimeError text | .integrityError text => text

/-- `_is_feishu_source`; `lower` is `str.lower`. -/
def isFeishuSource (lower : String → String) (value : String) : Bool :=
  "feishu:".toList.isPrefixOf (lower (strip value)).toList

/-- `_standard_signature`: the content without its provenance. -/
def StandardFields.signature (f : StandardFields) : StandardFields :=
  { f with standardSource := "" }

/-- The row of a new version. -/
def EnvironmentStandard.newVersion (standard : EnvironmentStandard) (source : String)
    (validatedAt : DateTime) : StandardVersion where
  fields := { standard.toStandardFields with standardSource := source }
  validationStatus := "VALIDATED"
  validatedAt := some validatedAt
  createdAt := validatedAt
  updatedAt := validatedAt

/-- `EnvironmentStandard(...)`. -/
def StandardFields.construct (f : StandardFields) : Except PyError EnvironmentStandard :=
  match h : f.postInit with
  | .ok () => .ok ⟨f, h⟩
  | .error e => .error e

/-- `row["standard_source"] or "legacy"`, beside the other columns. -/
def StandardVersion.columns (v : StandardVersion) : StandardFields :=
  { v.fields with standardSource := if v.fields.standardSource = "" then "legacy" else v.fields.standardSource }

/-- `_from_row`. -/
def StandardVersion.fromRow (v : StandardVersion) : Except PyError EnvironmentStandard :=
  v.columns.construct

def fromRows : List StandardVersion → Except PyError (List EnvironmentStandard)
  | [] => .ok []
  | v :: rows =>
    match v.fromRow with
    | .error e => .error e
    | .ok s =>
      match fromRows rows with
      | .error e => .error e
      | .ok standards => .ok (s :: standards)

/-- `ORDER BY standard_id, revision`. -/
def versionOrder (v v' : StandardVersion) : Bool :=
  v.fields.standardId < v'.fields.standardId ||
    (v.fields.standardId = v'.fields.standardId && v.fields.revision ≤ v'.fields.revision)

namespace StandardDb

variable (db : StandardDb)

def versionOf (key : String × String) : Option StandardVersion :=
  rowOf StandardVersion.key db.versions key

/-- The members of a snapshot with their versions. -/
def memberVersions (snapshotId : String) : List StandardVersion :=
  ((db.members.filter (·.snapshotId = snapshotId)).filterMap fun m =>
      db.versionOf (m.standardId, m.revision)).insertionSort
    fun v v' => versionOrder v v' = true

/-! ### `apply_snapshot` -/

section Apply

variable (syncId snapshotId source : String) (standards : List EnvironmentStandard)
  (syncedAt : DateTime)

/-- The row of the running sync. -/
def insertSyncRun : Except PyError StandardDb :=
  if db.syncRuns.any (·.id = syncId) then
    .error (.integrityError "UNIQUE constraint failed: standard_sync_runs.id")
  else .ok { db with syncRuns := db.syncRuns ++
    [{ id := syncId, source, status := "RUNNING", standardCount := standards.length, errors := [], startedAt := syncedAt }] }

/-- `_insert_or_validate_no_commit`: the content of a known revision is compared, its provenance
replaced. -/
def insertOrValidate (standard : EnvironmentStandard) : Except PyError StandardDb :=
  match db.versionOf (standard.standardId, standard.revision) with
  | none => .ok { db with versions := db.versions ++ [standard.newVersion source syncedAt] }
  | some existing =>
    match existing.fromRow with
    | .error e => .error e
    | .ok found =>
      if found.signature ≠ standard.signature then
        .error (.valueError ("immutable standard revision changed: " ++ standard.identity))
      else .ok { db with versions := db.versions.map fun v =>
        if v.key = (standard.standardId, standard.revision) then
          { v with fields := { v.fields with standardSource := source }, validationStatus := "VALIDATED"
                   validatedAt := some syncedAt, updatedAt := syncedAt }
        else v }

/-- `_snapshot_matches_active_no_commit`: the sorted signatures are the same. -/
def snapshotMatchesActive : Except PyError Bool :=
  match db.activeSnapshotId with
  | none => .ok false
  | some active =>
    match fromRows (db.memberVersions active) with
    | .error e => .error e
    | .ok current => .ok (decide ((current.map (·.signature)).Perm (standards.map (·.signature))))

/-- The rows of the members; a version is a member once. -/
def insertMembers (members : List SnapshotMember) : List EnvironmentStandard →
    Except PyError (List SnapshotMember)
  | [] => .ok members
  | s :: rest =>
    if ⟨snapshotId, s.standardId, s.revision⟩ ∈ members then
      .error (.integrityError
          ("UNIQUE constraint failed: standard_snapshot_members.snapshot_id, " ++
        "standard_snapshot_members.standard_id, standard_snapshot_members.revision"))
    else insertMembers (members ++ [⟨snapshotId, s.standardId, s.revision⟩]) rest

/-- `_create_snapshot_no_commit`. -/
def createSnapshot : Except PyError StandardDb :=
  if db.snapshots.any (·.snapshotId = snapshotId) then
    .error (.integrityError "UNIQUE constraint failed: standard_snapshots.snapshot_id")
  else
    match insertMembers snapshotId db.members standards with
    | .error e => .error e
    | .ok members => .ok { db with
        snapshots := db.snapshots ++ [{ snapshotId, source, syncedAt, standardCount := standards.length
                                        status := "VALIDATED", createdAt := syncedAt }]
        members
        activeSnapshotId := some snapshotId
        lastKnownGoodSnapshotId := some snapshotId }

end Apply

end StandardDb

/-- The transaction of `apply_snapshot` and its local `snapshot_id`. -/
structure Applying where
  db : StandardDb
  snapshotId : Option String := none

namespace StandardDb

section Apply

variable (lower : String → String) (syncId snapshotId source : String)
  (standards : List EnvironmentStandard)
  (syncedAt : DateTime) (fault : ℕ → Option PyError)

def liftStatement (statement : StandardDb → Except PyError StandardDb) (a : Applying) :
    Except PyError Applying :=
  match statement a.db with
  | .ok db => .ok { a with db }
  | .error e => .error e

/-- The snapshot of the sync: the active one where it has the same standards, a new one
otherwise. -/
def chooseSnapshot (a : Applying) : Except PyError Applying :=
  match a.db.snapshotMatchesActive standards with
  | .error e => .error e
  | .ok true => .ok { a with snapshotId := a.db.activeSnapshotId }
  | .ok false =>
    match a.db.createSnapshot snapshotId source standards syncedAt with
    | .error e => .error e
    | .ok db => .ok ⟨db, some snapshotId⟩

/-- The end of the row of the sync. -/
def finishSyncRun (a : Applying) : Except PyError Applying :=
  .ok { a with db := { a.db with syncRuns := a.db.syncRuns.map fun run =>
    if run.id = syncId then
      { run with status := "SUCCEEDED", finishedAt := some syncedAt, snapshotId := a.snapshotId }
    else run } }

def applyStatements : List (Applying → Except PyError Applying) :=
  liftStatement (insertSyncRun · syncId source standards syncedAt) ::
    (standards.map fun s => liftStatement (insertOrValidate · source syncedAt s)) ++
      [chooseSnapshot snapshotId source standards syncedAt, finishSyncRun syncId syncedAt]

/-- `apply_snapshot`. -/
def applySnapshot (db : StandardDb) : Except PyError String × StandardDb :=
  if blank source then (.error (.valueError "standard source cannot be empty"), db)
  else if !isFeishuSource lower source then
    (.error (.valueError "validated standard source must be feishu:*"), db)
  else
    match transaction fault (applyStatements syncId snapshotId source standards syncedAt)
      ⟨db, none⟩ with
    | (none, a) => (.ok syncId, a.db)
    | (some e, a) => (.error e, a.db)

/-- `record_sync_failure`. -/
def recordSyncFailure (db : StandardDb) (syncId source : String) (standardCount : ℕ)
    (errors : List String)
    (startedAt finishedAt : DateTime) (fault : Option PyError) :
    Except PyError String × StandardDb :=
  match fault with
  | some e => (.error e, db)
  | none =>
    if db.syncRuns.any (·.id = syncId) then
      (.error (.integrityError "UNIQUE constraint failed: standard_sync_runs.id"), db)
    else (.ok syncId, { db with syncRuns := db.syncRuns ++
      [{ id := syncId, source, status := "FAILED", standardCount, errors, startedAt, finishedAt := some finishedAt }] })

end Apply

/-! ### Reads -/

section Reads

variable (lower upper : String → String) (db : StandardDb)

def snapshotOf (id : String) : Option StandardSnapshot :=
  rowOf StandardSnapshot.snapshotId db.snapshots id

/-- The validated versions of the active snapshot. -/
def validatedRows : List StandardVersion :=
  match db.activeSnapshotId with
  | none => []
  | some active =>
    if (db.snapshotOf active).any (·.status = "VALIDATED") then
      (db.memberVersions active).filter (·.validationStatus = "VALIDATED")
    else []

/-- The devices with a validated version: disabled versions count too. -/
def validatedDevices : List String :=
  ((db.validatedRows.filterMap (·.fields.deviceId)).filter fun d =>
    !blank d).map (canonicalDevice upper) |>.dedup

/-- The last row of an order of texts, by its key and then by its id. -/
def newestRun (time : StandardSyncRun → DateTime) (runs : List StandardSyncRun) :
    Option StandardSyncRun :=
  runs.foldl (fun best run => match best with
    | none => some run
    | some b =>
      if (time b).isoformat < (time run).isoformat ||
          ((time b).isoformat = (time run).isoformat && decide (b.id < run.id)) then some run
            else some b) none

/-- `ORDER BY started_at DESC, id DESC LIMIT 1`. -/
def latestSync : Option StandardSyncRun := newestRun (·.startedAt) db.syncRuns

/-- The succeeded run of a Feishu source, with its snapshot; SQL's `lower` knows ASCII only. -/
def successfulRun (run : StandardSyncRun) : Bool :=
  run.status = "SUCCEEDED" && "feishu:".toList.isPrefixOf (asciiLower run.source).toList &&
    run.snapshotId.isSome

def latestSuccess : Option StandardSyncRun :=
  newestRun (fun run => run.finishedAt.getD run.startedAt) (db.syncRuns.filter successfulRun)

/-- What `readiness` answers. -/
structure Report where
  activeSnapshotId : Option String
  lastKnownGoodSnapshotId : Option String
  validatedStandardCount : ℕ
  validatedDeviceCount : ℕ
  expectedStandardCount : ℕ
  expectedDeviceCount : ℕ
  latestSyncStatus : Option String
  lastSyncAttemptAt : Option DateTime
  lastSuccessfulSyncAt : Option DateTime
  standardSource : Option String
  standardsReady : Bool
  activeSnapshotStatus : Option String
  lastKnownGoodSnapshotStatus : Option String

/-- The expected devices, as they are compared. -/
def expectedDevices (expected : List String) : List String :=
  ((expected.filter fun d => !blank d).map (canonicalDevice upper)).dedup

/-- `readiness`. -/
def readiness (expected : List String) : Report :=
  let expectedIds := expectedDevices upper expected
  let active := db.activeSnapshotId.bind db.snapshotOf
  let good := db.lastKnownGoodSnapshotId.bind db.snapshotOf
  let devices := db.validatedDevices upper
  { activeSnapshotId := db.activeSnapshotId
    lastKnownGoodSnapshotId := db.lastKnownGoodSnapshotId
    validatedStandardCount := db.validatedRows.length
    validatedDeviceCount := devices.length
    expectedStandardCount := expectedIds.length
    expectedDeviceCount := expectedIds.length
    latestSyncStatus := db.latestSync.map (·.status)
    lastSyncAttemptAt := db.latestSync.map (·.startedAt)
    lastSuccessfulSyncAt := db.latestSuccess.map fun run => run.finishedAt.getD run.startedAt
    standardSource := active.map (·.source)
    standardsReady := truthy db.activeSnapshotId && truthy db.lastKnownGoodSnapshotId &&
      active.any (·.status = "VALIDATED") && good.any (·.status = "VALIDATED") &&
        !expectedIds.isEmpty &&
      (devices.all expectedIds.contains && expectedIds.all devices.contains) &&
        db.latestSuccess.isSome &&
      active.any fun s => isFeishuSource lower s.source
    activeSnapshotStatus := active.map (·.status)
    lastKnownGoodSnapshotStatus := good.map (·.status) }

/-- `standards_ready`. -/
def standardsReady (expected : List String) : Bool :=
  (db.readiness lower upper expected).standardsReady

end Reads

end StandardDb

end TemperatureMonitor
