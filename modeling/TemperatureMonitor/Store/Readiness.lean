/-
# Active readiness of the task table

`health_summary` and `active_readiness` of the task repository, and what the
two external-effect counts of the report are worth. The report subtracts the
rows of ignored types from the rows of external types; the two sets of types
differ, SQL's negation skips rows of unknown origin, and a row is placed before
or after the cutover by the texts of the two times. The difference is the
number of stranded rows only when these errors cancel (`readiness_exact_iff`).
-/
import TemperatureMonitor.Library.Grouping
import TemperatureMonitor.Library.Sql
import TemperatureMonitor.Store.Tasks

namespace TemperatureMonitor

/-- A row of `device_status_projection`. -/
structure DeviceProjectionRow where
  deviceId : String
  desiredHash : String
  status : String
deriving DecidableEq

/-- What the readiness queries read: the task table, the runtime row and the
device projection table, when it exists. -/
structure ReadinessDb where
  tasks : List AutomationTask
  activation : RuntimeActivation
  projections : Option (List DeviceProjectionRow) := none

section Readiness

variable (upper : String → String) (db : ReadinessDb)

/-! ### Failures that no longer count -/

/-- `_payload_has_retry_marker`. -/
def payloadHasRetryMarker (p : TaskPayload) : Bool :=
  p.retryable || p.nextRetry || 0 < p.retryAttempt

/-- `_is_superseded_projection_failure`. -/
def isSupersededProjectionFailure (row : AutomationTask) : Bool :=
  let failedHash := strip (row.payload.desiredHash.getD "")
  let deviceId := upper (strip row.entityId)
  row.taskType = "PROJECT_DEVICE_STATUS" && failedHash ≠ "" && deviceId ≠ "" &&
    ((db.projections.getD []).find? (·.deviceId = deviceId)).any fun current =>
      current.desiredHash ≠ "" && current.desiredHash ≠ failedHash &&
        (current.status = "SHADOW_ONLY" || current.status = "SUCCEEDED")

/-- `_is_superseded_failure`. -/
def isSupersededFailure (row : AutomationTask) : Bool :=
  isSupersededProjectionFailure upper db row ||
    (["FEISHU_PROJECTION", "PROJECT_DEVICE_STATUS", "SHADOW_COMPARE", "SYNC_OPERATIONS",
        "SYNC_STANDARD"].contains (strip row.taskType) &&
      strip row.entityId ≠ "" &&
      db.tasks.any fun t => t.taskType = strip row.taskType && t.entityId = strip row.entityId &&
        t.status = .succeeded && row.updatedAt.isoformat < t.updatedAt.isoformat)

/-! ### The queries -/

/-- `created_at >= boundary`, on the stored texts. -/
def createdFrom (boundary : DateTime) (t : AutomationTask) : Bool :=
  boundary.isoformat ≤ t.createdAt.isoformat

/-- The Active epoch and cutover in force, when the mode is active and both are set. -/
def RuntimeActivation.epoch (a : RuntimeActivation) : Option (String × DateTime) :=
  if a.mode = "active" ∧ truthy a.activeEpoch then
    match a.activeEpoch, a.activeCutoverAt with
    | some epoch, some cutover => some (epoch, cutover)
    | _, _ => none
  else none

/-- `created_mode = 'active' AND active_epoch = ? AND created_at >= ?`. -/
def ofEpoch (epoch : String × DateTime) (t : AutomationTask) : Sql.Truth :=
  Sql.and (Sql.and (Sql.eq t.createdMode "active") (Sql.eq t.activeEpoch epoch.1))
    (some (createdFrom epoch.2 t))

def isExternal (t : AutomationTask) : Bool := externalEffectTaskTypes.contains t.taskType

/-- The rows that failed since the boundary. -/
def failedFrom (boundary : Option DateTime) : List AutomationTask :=
  match boundary with
  | none => []
  | some b => db.tasks.filter fun t => t.status = .failed && createdFrom b t

/-- Unfinished and late: a lease that ran out, or a due time before the cutoff. -/
def isStale (now staleCutoff : DateTime) (t : AutomationTask) : Bool :=
  if t.status = .running then t.leaseUntil.any fun lease => lease.instant ≤ now.instant
  else t.status = .pending && t.dueAt.instant ≤ staleCutoff.instant

/-! ### The summary -/

structure HealthSummary where
  currentMode : String
  activeEpoch : Option String
  activeCutoverAt : Option DateTime
  currentBoundaryAt : Option DateTime
  failedTasksTotal : ℕ
  historicalFailedTasks : ℕ
  currentFailedTasks : ℕ
  currentFailedByType : List (String × ℕ)
  currentEpochFailedTasks : ℕ
  retryableFailedTasks : ℕ
  claimableFailedTasks : ℕ := 0
  legacyPendingTasks : ℕ
  staleTasks : ℕ
  pendingExternalEffects : ℕ
  historicalPendingExternalEffects : ℕ
  currentEpochPendingExternalEffects : ℕ
  unisolatedExternalEffects : ℕ

def currentEpochPendingExternal : ℕ :=
  match db.activation.epoch with
  | none => 0
  | some epoch =>
    db.tasks.countP fun t => isExternal t && t.unfinished && Sql.holds (ofEpoch epoch t)

/-- `health_summary`; `max(a - b, 0)` is subtraction of naturals. -/
def healthSummary (now : DateTime) (staleAfter : ℤ) : Except PyError HealthSummary :=
  if staleAfter ≤ 0 then .error (.valueError "stale_after must be positive")
  else
    let activation := db.activation
    let boundary := activation.activeCutoverAt <|> activation.updatedAt
    let failed := failedFrom db boundary
    let total := db.tasks.countP fun t => t.status = .failed
    let pending := db.tasks.countP fun t => isExternal t && t.unfinished
    let historical := pending - currentEpochPendingExternal db
    .ok
      { currentMode := activation.mode
        activeEpoch := activation.activeEpoch
        activeCutoverAt := activation.activeCutoverAt
        currentBoundaryAt := boundary
        failedTasksTotal := total
        historicalFailedTasks := total - failed.length
        currentFailedTasks := failed.length
        currentFailedByType := ((groupBy (·.taskType) failed).map fun g =>
            (g.1, g.2.length)).mergeSort
          fun a b => a.1 ≤ b.1
        currentEpochFailedTasks :=
          if truthy activation.activeEpoch then
            db.tasks.countP fun t => t.status = .failed && t.activeEpoch = activation.activeEpoch
          else 0
        retryableFailedTasks := failed.countP fun t =>
          payloadHasRetryMarker t.payload && !isSupersededFailure upper db t
        legacyPendingTasks := db.tasks.countP fun t => t.status = .legacyPending
        staleTasks := db.tasks.countP (isStale now (now.add (-staleAfter)))
        pendingExternalEffects := pending
        historicalPendingExternalEffects := historical
        currentEpochPendingExternalEffects := currentEpochPendingExternal db
        unisolatedExternalEffects := historical }

/-! ### The report -/

/-- `active_readiness`: the summary and what is added to it. -/
structure Readiness where
  summary : HealthSummary
  readinessCurrentFailedTasks : ℕ
  readinessCurrentEpochFailedTasks : ℕ
  readinessRetryableFailedTasks : ℕ
  readinessStaleTasks : ℕ
  readinessHistoricalPendingExternalEffects : ℕ
  readinessUnisolatedExternalEffects : ℕ
  readinessIgnoredTaskTypes : List String
  readinessIgnoredCurrentFailedTasks : ℕ
  readinessIgnoredCurrentEpochFailedTasks : ℕ
  blockerReasons : List String
  activeReadiness : Bool

/-- The set of the stripped types, blank ones left out. -/
def nonBlocking (types : List String) : List String :=
  ((types.map strip).filter (· ≠ "")).dedup

/-- The rows `historical_query` counts: of an ignored type, unfinished, and
not of the epoch in force. -/
def ignoredHistorical (ignored : List String) (t : AutomationTask) : Bool :=
  ignored.contains t.taskType && t.unfinished &&
    match db.activation.epoch with
    | none => true
    | some epoch => Sql.holds (Sql.not (ofEpoch epoch t))

/-- A blocker is reported when its count is not zero. -/
def blocker (name : String) (count : ℕ) : List String :=
  if count = 0 then [] else [name ++ "=" ++ toString count]

/-- `active_readiness`. -/
def activeReadiness (now : DateTime) (nonBlockingTaskTypes : List String) :
    Except PyError Readiness :=
  match healthSummary upper db now 300000000 with
  | .error e => .error e
  | .ok summary =>
    let ignored := nonBlocking nonBlockingTaskTypes
    let failed := failedFrom db summary.currentBoundaryAt
    let ignorable := fun t : AutomationTask =>
      ignored.contains t.taskType || isSupersededFailure upper db t
    let ignoredFailed := failed.countP ignorable
    let ignoredEpochFailed :=
      if truthy summary.activeEpoch then
        db.tasks.countP fun t =>
          t.status = .failed && t.activeEpoch = summary.activeEpoch && ignorable t
      else 0
    let currentFailed := summary.currentFailedTasks - ignoredFailed
    let epochFailed := summary.currentEpochFailedTasks - ignoredEpochFailed
    let retryable :=
      if summary.currentFailedTasks ≠ 0 ∧ summary.currentBoundaryAt.isSome then
        failed.countP fun t => !ignored.contains t.taskType && !isSupersededFailure upper db t &&
          payloadHasRetryMarker t.payload
      else summary.retryableFailedTasks
    let stale :=
      if ignored = [] then summary.staleTasks
      else summary.staleTasks - db.tasks.countP fun t =>
        ignored.contains t.taskType && isStale now (now.add (-300000000)) t
    let ignoredPending := if ignored = [] then 0 else db.tasks.countP (ignoredHistorical db ignored)
    let historical := summary.historicalPendingExternalEffects - ignoredPending
    let unisolated := summary.unisolatedExternalEffects - ignoredPending
    let blockers :=
      blocker "current_failed_tasks" currentFailed ++
      blocker "current_epoch_failed_tasks" epochFailed ++
      blocker "retryable_failed_tasks" retryable ++
      blocker "claimable_failed_tasks" summary.claimableFailedTasks ++
      blocker "stale_tasks" stale ++
      blocker "historical_pending_external_effects" historical ++
      blocker "unisolated_external_effects" unisolated
    .ok
      { summary
        readinessCurrentFailedTasks := currentFailed
        readinessCurrentEpochFailedTasks := epochFailed
        readinessRetryableFailedTasks := retryable
        readinessStaleTasks := stale
        readinessHistoricalPendingExternalEffects := historical
        readinessUnisolatedExternalEffects := unisolated
        readinessIgnoredTaskTypes := ignored.mergeSort
        readinessIgnoredCurrentFailedTasks := ignoredFailed
        readinessIgnoredCurrentEpochFailedTasks := ignoredEpochFailed
        blockerReasons := blockers
        activeReadiness := blockers = [] }

/-! ### What the counts are worth -/

/-- The condition of belonging to the Active epoch in force, as the queries put it. -/
def currentTruth (t : AutomationTask) : Sql.Truth :=
  match db.activation.epoch with
  | none => some false
  | some epoch => ofEpoch epoch t

/-- The queries take the row for one of the Active epoch in force. -/
def takenForCurrent (t : AutomationTask) : Bool := Sql.holds (currentTruth db t)

/-- The row belongs to the Active epoch in force: a missing mode or epoch does
not, and it was created at the cutover or later. -/
def ofCurrentEpoch (t : AutomationTask) : Bool :=
  match db.activation.epoch with
  | none => false
  | some epoch =>
    t.createdMode = some "active" && t.activeEpoch = some epoch.1 &&
      epoch.2.instant ≤ t.createdAt.instant

/-- An unfinished external effect of a type that blocks. -/
def isBlocking (ignored : List String) (t : AutomationTask) : Bool :=
  isExternal t && t.unfinished && !ignored.contains t.taskType

/-- An unfinished external effect that blocks and is not of the epoch in force. -/
def isStranded (ignored : List String) (t : AutomationTask) : Bool :=
  isBlocking ignored t && !ofCurrentEpoch db t

/-- Stranded, but its text puts it after the cutover. -/
def isHidden (ignored : List String) (t : AutomationTask) : Bool :=
  isBlocking ignored t && !ofCurrentEpoch db t && takenForCurrent db t

/-- Of the epoch in force, but its text puts it before the cutover. -/
def isSpurious (ignored : List String) (t : AutomationTask) : Bool :=
  isBlocking ignored t && ofCurrentEpoch db t && !takenForCurrent db t

/-- An ignored row that is no external effect: subtracted, never added. -/
def isForeign (ignored : List String) (t : AutomationTask) : Bool :=
  ignoredHistorical db ignored t && !isExternal t

/-- An ignored external effect of unknown origin: added, never subtracted. -/
def isUnknown (ignored : List String) (t : AutomationTask) : Bool :=
  isExternal t && t.unfinished && ignored.contains t.taskType && (currentTruth db t).isNone

variable {upper db}

theorem currentEpochPendingExternal_eq : currentEpochPendingExternal db =
    db.tasks.countP fun t => (isExternal t && t.unfinished) && takenForCurrent db t := by
  unfold currentEpochPendingExternal takenForCurrent currentTruth
  cases db.activation.epoch <;> simp [Sql.holds]

theorem ignoredHistorical_eq (ignored : List String) (t : AutomationTask) :
    ignoredHistorical db ignored t =
      (ignored.contains t.taskType && t.unfinished && Sql.holds (Sql.not (currentTruth db t))) := by
  unfold ignoredHistorical currentTruth
  cases db.activation.epoch <;> simp [Sql.holds, Sql.not]

/-- The external rows outside the epoch by their texts: those that block and the ignored ones. -/
theorem historical_eq (ignored : List String) :
    (db.tasks.countP fun t => isExternal t && t.unfinished) - currentEpochPendingExternal db =
      (db.tasks.countP fun t => isBlocking ignored t && !takenForCurrent db t) +
        db.tasks.countP fun t => (isExternal t && t.unfinished && ignored.contains t.taskType) &&
          !Sql.holds (currentTruth db t) := by
  rw [currentEpochPendingExternal_eq,
    Sql.countP_split (fun t => isExternal t && t.unfinished) (takenForCurrent db),
      Nat.add_sub_cancel_left,
    Sql.countP_split _ (fun t => !ignored.contains t.taskType)]
  congr 1 <;> refine List.countP_congr fun t _ => ?_ <;> simp only [isBlocking, takenForCurrent]
  · cases isExternal t <;> cases t.unfinished <;> cases Sql.holds (currentTruth db t) <;> simp
  · cases isExternal t <;> cases t.unfinished <;> cases Sql.holds (currentTruth db t) <;> simp

/-- What the report subtracts: the ignored external rows known to be outside
the epoch, and the rows that are no external effects. -/
theorem ignored_eq (ignored : List String) : db.tasks.countP (ignoredHistorical db ignored) =
    (db.tasks.countP fun t => (isExternal t && t.unfinished && ignored.contains t.taskType) &&
      Sql.holds (Sql.not (currentTruth db t))) + db.tasks.countP (isForeign db ignored) := by
  rw [Sql.countP_split (ignoredHistorical db ignored) isExternal]
  congr 1
  refine List.countP_congr fun t _ => ?_
  rw [ignoredHistorical_eq]
  cases isExternal t <;> cases t.unfinished <;> cases ignored.contains t.taskType <;> simp

/-- The stranded rows, but for those the texts hide; the rows outside the epoch
by their texts, but for those that are not outside it. -/
theorem stranded_taken (ignored : List String) :
    (db.tasks.countP fun t => isBlocking ignored t && !takenForCurrent db t) +
      db.tasks.countP (isHidden db ignored) =
      db.tasks.countP (isStranded db ignored) + db.tasks.countP (isSpurious db ignored) := by
  have hstranded := Sql.countP_split (isStranded db ignored) (takenForCurrent db) db.tasks
  have houtside :=
    Sql.countP_split (fun t => isBlocking ignored t && !takenForCurrent db t)
      (ofCurrentEpoch db) db.tasks
  have hhidden : (db.tasks.countP fun t => isStranded db ignored t && takenForCurrent db t) =
      db.tasks.countP (isHidden db ignored) := rfl
  have hspurious :
      (db.tasks.countP fun t =>
      (isBlocking ignored t && !takenForCurrent db t) && ofCurrentEpoch db t) =
      db.tasks.countP (isSpurious db ignored) := by
    refine List.countP_congr fun t _ => ?_
    rw [isSpurious, Bool.and_right_comm]
  have hboth :
      (db.tasks.countP fun t =>
      (isBlocking ignored t && !takenForCurrent db t) && !ofCurrentEpoch db t) =
      db.tasks.countP fun t => isStranded db ignored t && !takenForCurrent db t := by
    refine List.countP_congr fun t _ => ?_
    rw [isStranded, Bool.and_right_comm]
  omega

/-- The reported count, from the five kinds of rows. -/
theorem reported_eq (ignored : List String) :
    (db.tasks.countP fun t => isExternal t && t.unfinished) - currentEpochPendingExternal db -
        db.tasks.countP (ignoredHistorical db ignored) =
      db.tasks.countP (isStranded db ignored) + db.tasks.countP (isSpurious db ignored) +
          db.tasks.countP (isUnknown db ignored) -
        (db.tasks.countP (isHidden db ignored) + db.tasks.countP (isForeign db ignored)) := by
  have hunknown := Sql.countP_unknown
    (fun t => isExternal t && t.unfinished && ignored.contains t.taskType)
      (currentTruth db) db.tasks
  have h2 : (db.tasks.countP fun t =>
      (isExternal t && t.unfinished && ignored.contains t.taskType) &&
      (currentTruth db t).isNone) = db.tasks.countP (isUnknown db ignored) := rfl
  have htaken : (db.tasks.countP fun t => isBlocking ignored t && !takenForCurrent db t) +
      db.tasks.countP (isHidden db ignored) =
        db.tasks.countP (isStranded db ignored) + db.tasks.countP (isSpurious db ignored) :=
    stranded_taken ignored
  rw [historical_eq ignored, ignored_eq, hunknown, h2]
  omega

/-- What the texts hide is stranded. -/
theorem hidden_le (ignored : List String) :
    db.tasks.countP (isHidden db ignored) ≤ db.tasks.countP (isStranded db ignored) := by
  refine List.countP_mono_left fun t _ h => ?_
  rw [isHidden, Bool.and_eq_true] at h
  exact h.1

theorem blocker_eq_nil {name : String} {count : ℕ} : blocker name count = [] ↔ count = 0 := by
  unfold blocker
  split_ifs with h <;> simp [h]

/-- The external-effect counts of a report, and what its verdict says of them. -/
theorem activeReadiness_spec (upper : String → String) (db : ReadinessDb) (now : DateTime)
    (types : List String) : ∃ report, activeReadiness upper db now types = .ok report ∧
      report.readinessUnisolatedExternalEffects =
        db.tasks.countP (isStranded db (nonBlocking types)) +
          db.tasks.countP (isSpurious db (nonBlocking types)) +
            db.tasks.countP (isUnknown db (nonBlocking types)) -
          (db.tasks.countP (isHidden db (nonBlocking types)) +
            db.tasks.countP (isForeign db (nonBlocking types))) ∧
      report.readinessHistoricalPendingExternalEffects = report.readinessUnisolatedExternalEffects ∧
      (report.activeReadiness = true → report.readinessUnisolatedExternalEffects = 0) := by
  have hzero : (if nonBlocking types = [] then 0 else
      db.tasks.countP (ignoredHistorical db (nonBlocking types))) =
      db.tasks.countP (ignoredHistorical db (nonBlocking types)) := by
    split_ifs with h
    · rw [h]
      exact (List.countP_eq_zero.mpr fun t _ => by simp [ignoredHistorical]).symm
    · rfl
  unfold activeReadiness healthSummary
  rw [if_neg (by decide)]
  refine ⟨_, rfl, ?_, rfl, fun hready => ?_⟩
  · rw [hzero]
    exact reported_eq _
  · simp only [decide_eq_true_eq, List.append_eq_nil_iff, blocker_eq_nil] at hready
    exact hready.2

/-- **When the readiness counts are right.** They equal the number of
stranded rows, and readiness is refused while there is one, exactly when what
is counted too often (the ignored external effects of unknown origin and the
rows of the epoch that their texts put before it) is as much as what is
subtracted too often (the ignored rows that are no external effects and the
stranded rows that their texts put in the epoch), or nothing is stranded and
it is not more. -/
theorem readiness_exact_iff (upper : String → String) (db : ReadinessDb) (now : DateTime)
    (types : List String) : ∃ report, activeReadiness upper db now types = .ok report ∧
      ((report.readinessUnisolatedExternalEffects =
        db.tasks.countP (isStranded db (nonBlocking types)) ∧
          report.readinessHistoricalPendingExternalEffects =
            db.tasks.countP (isStranded db (nonBlocking types)) ∧
          (report.activeReadiness = true → ∀ t ∈ db.tasks, ¬ isStranded db (nonBlocking types) t)) ↔
        db.tasks.countP (isForeign db (nonBlocking types)) +
          db.tasks.countP (isHidden db (nonBlocking types)) =
            db.tasks.countP (isUnknown db (nonBlocking types)) +
              db.tasks.countP (isSpurious db (nonBlocking types)) ∨
          (∀ t ∈ db.tasks, ¬ isStranded db (nonBlocking types) t) ∧
            db.tasks.countP (isUnknown db (nonBlocking types)) +
              db.tasks.countP (isSpurious db (nonBlocking types)) ≤
              db.tasks.countP (isForeign db (nonBlocking types))) := by
  obtain ⟨report, hok, hcount, hhist, hready⟩ := activeReadiness_spec upper db now types
  refine ⟨report, hok, ?_⟩
  rw [hhist]
  have hhidden : db.tasks.countP (isHidden db (nonBlocking types)) ≤
      db.tasks.countP (isStranded db (nonBlocking types)) := hidden_le (nonBlocking types)
  have hnone := List.countP_eq_zero (p := isStranded db (nonBlocking types)) (l := db.tasks)
  rw [← hnone]
  constructor
  · rintro ⟨he, -, -⟩
    omega
  · intro h
    have he : report.readinessUnisolatedExternalEffects =
        db.tasks.countP (isStranded db (nonBlocking types)) := by omega
    exact ⟨he, he, fun hr => by rw [← he]; exact hready hr⟩

/-- A notification of an earlier epoch next to a projection task of the shadow mode. -/
def strandedBehindProjection : ReadinessDb where
  activation := { mode := "active", activeEpoch := some "e2", activeCutoverAt := some (.utc 0) }
  tasks :=
    [{ taskId := "t1", taskType := "NOTIFY_ALARM", entityType := "EVENT", entityId := "E",
       dueAt := .utc 60000000, createdAt := .utc 0, updatedAt := .utc 0,
       createdMode := some "active", activeEpoch := some "e1" },
     { taskId := "t2", taskType := "FEISHU_PROJECTION", entityType := "DEVICE", entityId := "TH-01",
       dueAt := .utc 60000000, createdAt := .utc 0, updatedAt := .utc 0,
       createdMode := some "shadow" }]

/-- A notification of the epoch in force, created seven hours before its cutover
and written at another offset. -/
def strandedByOffset : ReadinessDb where
  activation := { mode := "active", activeEpoch := some "e2", activeCutoverAt := some (.utc 0) }
  tasks :=
    [{ taskId := "t1", taskType := "NOTIFY_ALARM", entityType := "EVENT", entityId := "E",
       dueAt := .utc 60000000, createdAt := ⟨-25200000000, 28800000000, by decide⟩,
       updatedAt := .utc 0,
       createdMode := some "active", activeEpoch := some "e2" }]

/-- **Ready with a stranded row**, behind a row that is no external effect and by the text of its
time. -/
theorem stranded_ready :
    ((∃ t ∈ strandedBehindProjection.tasks,
        isStranded strandedBehindProjection (nonBlocking ["FEISHU_PROJECTION"]) t) ∧
      ∃ report, activeReadiness id strandedBehindProjection (.utc 0) ["FEISHU_PROJECTION"] =
        .ok report ∧
        report.activeReadiness = true ∧ report.readinessUnisolatedExternalEffects = 0) ∧
    (∃ t ∈ strandedByOffset.tasks, isStranded strandedByOffset (nonBlocking []) t) ∧
      ∃ report, activeReadiness id strandedByOffset (.utc 0) [] = .ok report ∧
        report.activeReadiness = true ∧ report.readinessUnisolatedExternalEffects = 0 :=
  ⟨⟨by decide, _, rfl, by decide, by decide⟩, by decide, _, rfl, by decide +kernel, by
    decide +kernel⟩

end Readiness
end TemperatureMonitor
