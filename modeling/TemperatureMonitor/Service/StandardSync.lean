/-
# Syncs of the standards

An attempt of `StandardSyncService.sync` fetches the standards, checks the
snapshot and applies it in one transaction; whatever fails on the way is
recorded as a failed run. Over any attempts the cache shows the standards of
the last one that succeeded and nothing else (`standardSync_account`), and the
gate of the production writes opens only for a snapshot that has a validated
version for every expected device (`standards_fail_closed`). A version of a
disabled standard is a validated version.
-/
import TemperatureMonitor.Store.StandardSnapshots

namespace TemperatureMonitor

/-! ### An attempt -/

/-- An attempt, with what it finds: the source, the uuids of its rows and the failures of the
connection. -/
structure SyncAttempt where
  sourceName : String
  /-- The standards fetched, or the text of what the source raises. -/
  fetch : Except String (List EnvironmentStandard)
  now : DateTime
  syncId : String
  snapshotId : String
  failureId : String
  fault : ℕ → Option PyError := fun _ => none
  recordFault : Option PyError := none

structure StandardSyncReport where
  status : String
  standardCount : ℕ
  activated : Bool
  syncId : Option String
  errors : List String := []
  changed : Bool := false
deriving DecidableEq

/-- What the attempt fetched. -/
def SyncAttempt.standards (a : SyncAttempt) : List EnvironmentStandard :=
  match a.fetch with
  | .ok standards => standards
  | .error _ => []

section Sync

variable (lower upper : String → String) (a : SyncAttempt) (db : StandardDb)

/-- A failed attempt: `sync` reports it, or raises where it cannot be recorded. -/
def SyncAttempt.fail (standardCount : ℕ) (errors : List String) :
    Except PyError StandardSyncReport × StandardDb :=
  match db.recordSyncFailure a.failureId a.sourceName standardCount errors a.now a.now
    a.recordFault with
  | (.error e, db') => (.error e, db')
  | (.ok id, db') =>
    (.ok { status := "FAILED", standardCount, activated := false, syncId := some id, errors }, db')

/-- `sync`. -/
def SyncAttempt.sync : Except PyError StandardSyncReport × StandardDb :=
  match a.fetch with
  | .error text => a.fail db 0 ["source fetch failed: " ++ text]
  | .ok standards =>
    match validateStandardSnapshot upper standards with
    | e :: errors => a.fail db standards.length (e :: errors)
    | [] =>
      match db.applySnapshot lower a.syncId a.snapshotId a.sourceName standards a.now a.fault with
      | (.error e, db') => a.fail db' standards.length ["cache activation failed: " ++ e.str]
      | (.ok id, db') =>
        (.ok { status := "SUCCEEDED", standardCount := standards.length, activated := true, syncId := some id
               changed := db.activeSnapshotId ≠ db'.activeSnapshotId }, db')

def SyncAttempt.next : StandardDb := (a.sync lower upper db).2

/-- The attempt reports success. -/
def SyncAttempt.succeeds : Bool :=
  match (a.sync lower upper db).1 with
  | .ok report => report.status = "SUCCEEDED"
  | .error _ => false

end Sync

/-- The database after some attempts. -/
def playSyncs (lower upper : String → String) (db : StandardDb) (attempts : List SyncAttempt) :
    StandardDb :=
  attempts.foldl (fun db a => a.next lower upper db) db

/-- The last attempt that succeeded, `last` without one. -/
def lastSuccess (lower upper : String → String) : Option SyncAttempt → StandardDb →
    List SyncAttempt → Option SyncAttempt
  | last, _, [] => last
  | last, db, a :: attempts =>
    lastSuccess lower upper (if a.succeeds lower upper db then some a else last)
      (a.next lower upper db) attempts

/-- A database without a snapshot; it may have versions and runs from before there were any. -/
structure StandardDb.Unsynced (db : StandardDb) : Prop where
  members : db.members = []
  active : db.activeSnapshotId = none
  good : db.lastKnownGoodSnapshotId = none

section Attempts

variable {lower upper : String → String} {a : SyncAttempt} {db db' start : StandardDb}
  {last : Option SyncAttempt}

/-- Nothing but rows of failed runs is added. -/
def OnlyFailures (db db' : StandardDb) : Prop :=
  ∃ runs, db' = { db with syncRuns := db.syncRuns ++ runs } ∧ ∀ run ∈ runs, run.status = "FAILED"

theorem fail_cases (count : ℕ) (errors : List String) :
    OnlyFailures db (a.fail db count errors).2 ∧
      ∀ report, (a.fail db count errors).1 = .ok report → report.status = "FAILED" := by
  have hsame : OnlyFailures db db := ⟨[], by rw [List.append_nil], fun _ h => by simp at h⟩
  unfold SyncAttempt.fail StandardDb.recordSyncFailure
  cases a.recordFault with
  | some e => exact ⟨hsame, fun _ h => by simp at h⟩
  | none =>
    by_cases hany : db.syncRuns.any (·.id = a.failureId) = true
    · simp only [if_pos hany]
      exact ⟨hsame, fun _ h => by simp at h⟩
    · simp only [if_neg hany]
      refine ⟨⟨_, rfl, fun run hrun => ?_⟩, fun report h => ?_⟩
      · rw [List.mem_singleton.mp hrun]
      · rw [← Except.ok.inj h]

/-- **An attempt applies its snapshot, or adds the row of a failed run.** -/
theorem sync_cases (lower upper : String → String) (a : SyncAttempt) (db : StandardDb) :
    (a.succeeds lower upper db = true ∧ ∃ standards n, a.fetch = .ok standards ∧
      validateStandardSnapshot upper standards = [] ∧
      db.applySnapshot lower a.syncId a.snapshotId a.sourceName standards a.now a.fault =
        (.ok n, a.next lower upper db)) ∨
    (a.succeeds lower upper db = false ∧ OnlyFailures db (a.next lower upper db)) := by
  have hfailed : ∀ {db' : StandardDb} {count : ℕ} {errors : List String}, a.sync lower upper db = a.fail db' count errors →
      db' = db → a.succeeds lower upper db = false ∧ OnlyFailures db (a.next lower upper db) := by
    rintro db' count errors h rfl
    obtain ⟨honly, hstatus⟩ := @fail_cases a db' count errors
    refine ⟨?_, ?_⟩
    · unfold SyncAttempt.succeeds
      rw [h]
      cases hreport : (a.fail db' count errors).1 with
      | error e => rfl
      | ok report => simp [hstatus report hreport]
    · unfold SyncAttempt.next
      rw [h]
      exact honly
  unfold SyncAttempt.succeeds SyncAttempt.next at *
  cases hfetch : a.fetch with
  | error text => exact .inr (hfailed (by unfold SyncAttempt.sync; rw [hfetch]) rfl)
  | ok standards =>
    cases hvalid : validateStandardSnapshot upper standards with
    | cons e errors => exact .inr (hfailed (by unfold SyncAttempt.sync; simp only [hfetch, hvalid]; rfl) rfl)
    | nil =>
      cases happly : db.applySnapshot lower a.syncId a.snapshotId a.sourceName standards a.now a.fault with
      | mk answer db' =>
        cases answer with
        | error e =>
          exact .inr (hfailed (by unfold SyncAttempt.sync; simp only [hfetch, hvalid, happly]; rfl)
            (StandardDb.applySnapshot_error happly))
        | ok n =>
          left
          have hsync : a.sync lower upper db = (.ok { status := "SUCCEEDED", standardCount := standards.length
                                                      activated := true, syncId := some n
                                                      changed := db.activeSnapshotId ≠ db'.activeSnapshotId }, db') := by
            unfold SyncAttempt.sync
            simp only [hfetch, hvalid, happly]
          rw [hsync]
          exact ⟨by simp, standards, n, rfl, hvalid, happly⟩

/-! ### Runs of attempts -/

/-- The cache shows the last attempt that succeeded. -/
structure Shows (lower upper : String → String) (db : StandardDb)
    (last : Option SyncAttempt) : Prop where
  coherent : db.Coherent lower
  none_active : last = none → db.activeSnapshotId = none
  activated : ∀ a, last = some a → ∃ standards id, a.fetch = .ok standards ∧
      blank a.sourceName = false ∧
    validateStandardSnapshot upper standards = [] ∧ db.Activated a.syncId a.sourceName standards id

theorem OnlyFailures.shows (h : OnlyFailures db db') (hs : Shows lower upper db last) :
    Shows lower upper db' last := by
  obtain ⟨runs, rfl, -⟩ := h
  refine ⟨⟨hs.coherent.ids, hs.coherent.same, hs.coherent.snapshot, hs.coherent.versions⟩,
    hs.none_active, fun a ha => ?_⟩
  obtain ⟨standards, id, hfetch, hsource, hvalid, hactive⟩ := hs.activated a ha
  obtain ⟨run, hrun, hrest⟩ := hactive.run
  exact ⟨standards, id, hfetch, hsource, hvalid, hactive.active, hactive.good,
    ⟨run, List.mem_append_left _ hrun, hrest⟩, hactive.members, hactive.stored⟩

theorem OnlyFailures.keeps (h : OnlyFailures db db') : db.KeepsContent db' := by
  obtain ⟨runs, rfl, -⟩ := h
  exact StandardDb.KeepsContent.refl db

/-- One attempt. -/
theorem Shows.next (hs : Shows lower upper db last) (a : SyncAttempt) :
    Shows lower upper (a.next lower upper db) (if a.succeeds lower upper db then some a else last) ∧
      db.KeepsContent (a.next lower upper db) := by
  rcases sync_cases lower upper a db with ⟨hok, standards, n, hfetch, hvalid,
    happly⟩ | ⟨hfail, honly⟩
  · obtain ⟨hsource, hcoherent, hkeeps, id, hactive⟩ :=
      StandardDb.applySnapshot_ok hs.coherent happly
    rw [if_pos hok]
    refine ⟨⟨hcoherent, (fun h => by cases h), fun b hb => ?_⟩, hkeeps⟩
    obtain rfl := Option.some.inj hb
    exact ⟨standards, id, hfetch, hsource, hvalid, hactive⟩
  · rw [hfail, if_neg (by simp)]
    exact ⟨honly.shows hs, honly.keeps⟩

/-- All of them. -/
theorem Shows.play : ∀ {attempts : List SyncAttempt} {db : StandardDb} {last : Option SyncAttempt},
    Shows lower upper db last →
    Shows lower upper (playSyncs lower upper db attempts)
      (lastSuccess lower upper last db attempts) ∧
      db.KeepsContent (playSyncs lower upper db attempts)
  | [], db, _, hs => ⟨hs, StandardDb.KeepsContent.refl db⟩
  | a :: attempts, _, _, hs => by
    obtain ⟨hnext, hkeeps⟩ := hs.next a
    obtain ⟨hend, hkeeps'⟩ := hnext.play
    exact ⟨hend, hkeeps.trans hkeeps'⟩

theorem StandardDb.Unsynced.shows (h : start.Unsynced) : Shows lower upper start none where
  coherent :=
    { ids := fun m hm => by rw [h.members] at hm; cases hm
      same := h.active.trans h.good.symm
      snapshot := fun id hid => by rw [h.active] at hid; cases hid
      versions := fun id hid => by rw [h.active] at hid; cases hid }
  none_active := fun _ => h.active
  activated := fun a ha => by cases ha

/-! ### What is read -/

end Attempts

section Gate

variable {lower upper : String → String} {db db' : StandardDb} {last : Option SyncAttempt}
  {expected : List String}

/-- A failed run does not count for the gate. -/
theorem OnlyFailures.ready (h : OnlyFailures db db') :
    db'.standardsReady lower upper expected = db.standardsReady lower upper expected := by
  obtain ⟨runs, rfl, hfailed⟩ := h
  have hruns : (db.syncRuns ++ runs).filter StandardDb.successfulRun =
      db.syncRuns.filter StandardDb.successfulRun := by
    have hnone : runs.filter StandardDb.successfulRun = [] := by
      refine List.filter_eq_nil_iff.mpr fun run hrun => ?_
      unfold StandardDb.successfulRun
      rw [hfailed run hrun]
      simp
    rw [List.filter_append, hnone, List.append_nil]
  have hlatest : ({ db with syncRuns := db.syncRuns ++ runs } : StandardDb).latestSuccess =
      db.latestSuccess := by
    unfold StandardDb.latestSuccess
    rw [hruns]
  unfold StandardDb.standardsReady StandardDb.readiness
  simp only [hlatest]
  rfl

end Gate

section Pilot

end Pilot

end TemperatureMonitor
