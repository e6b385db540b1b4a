/-
# Runs of the device projection

What a run of requests and rounds keeps (`ProjectorInv`): every task carries
the hash of its own fields, under the key of that hash while it is unfinished;
a row that is PENDING has an unfinished task of its hash. A round either
leaves the row, or attempts the task of the hash that is stored
(`executeTask_cases`); what it does to the table is an update of the claimed row
alone.
-/
import TemperatureMonitor.Service.DeviceStatus
import TemperatureMonitor.Store.Leases
import TemperatureMonitor.Store.ProjectionTasks

namespace TemperatureMonitor

/-! ### Keys -/

section Keys

variable {cfg : ProjectorConfig} {h h' : String} {t t' : AutomationTask}

theorem projectionKey_toList (h : String) : (projectionKey cfg h).toList =
    ("PROJECT_DEVICE_STATUS:" ++ cfg.deviceId ++ ":").toList ++ h.toList :=
  String.toList_append

theorem historyKey_toList (h : String) (t : AutomationTask) :
    (historyKey (projectionKey cfg h) t).toList =
    ("PROJECT_DEVICE_STATUS:" ++ cfg.deviceId ++ ":").toList ++
      (h.toList ++ ':' :: ("HISTORY:".toList ++ t.taskId.toList)) := by
  have hcolon : ":HISTORY:".toList = ':' :: "HISTORY:".toList := by decide
  rw [historyKey, String.toList_append, String.toList_append, projectionKey_toList, hcolon]
  simp only [List.append_assoc, List.cons_append]

theorem projectionKey_inj (hk : projectionKey cfg h = projectionKey cfg h') : h = h' := by
  have hl := congrArg String.toList hk
  rw [projectionKey_toList, projectionKey_toList] at hl
  exact String.toList_inj.mp (List.append_cancel_left hl)

/-- The key of a hash is no history key. -/
theorem projectionKey_ne_history (hh : ':' ∉ h.toList) :
    projectionKey cfg h ≠ historyKey (projectionKey cfg h') t := by
  intro hk
  have hl := congrArg String.toList hk
  rw [projectionKey_toList, historyKey_toList] at hl
  have hcut := List.append_cancel_left hl
  apply hh
  rw [hcut]
  simp

theorem historyKey_inj (hh : ':' ∉ h.toList) (hh' : ':' ∉ h'.toList)
    (hk : historyKey (projectionKey cfg h) t = historyKey (projectionKey cfg h') t') :
    t.taskId = t'.taskId := by
  have hl := congrArg String.toList hk
  rw [historyKey_toList, historyKey_toList] at hl
  have hrest := (append_cons_inj hh hh' (List.append_cancel_left hl)).2
  exact String.toList_inj.mp (List.append_cancel_left hrest)

theorem projectionKey_not_blank (h : String) : blank (projectionKey cfg h) = false := by
  have hmem : 'P' ∈ (projectionKey cfg h).toList := by
    rw [projectionKey_toList, String.toList_append, String.toList_append]
    exact List.mem_append_left _ (List.mem_append_left _ (List.mem_append_left _ (by decide)))
  exact not_blank hmem (by decide)

end Keys

/-! ### The tasks of the device -/

section Tasks

variable (stableHash : DesiredFields → String) (asked : DesiredFields → Prop)
  (cfg : ProjectorConfig)
  (a : RuntimeActivation) (cutover : DateTime)

/-- A task carries fields that were asked for with their hash, and the key of the hash while it is
unfinished; it is of the epoch. -/
structure ProjectionTask (t : AutomationTask) : Prop where
  taskType : t.taskType = projectionType
  fields : asked t.payload.desiredFields
  hash : t.payload.desiredHash = some (stableHash t.payload.desiredFields)
  key : t.dedupeKey = some (projectionKey cfg (stableHash t.payload.desiredFields)) ∨
    t.dedupeKey = some (historyKey (projectionKey cfg (stableHash t.payload.desiredFields)) t)
  live : t.unfinished = true →
    t.dedupeKey = some (projectionKey cfg (stableHash t.payload.desiredFields))
  era : beforeCutover a.activeEpoch cutover t = false

/-- The table of the device's tasks. -/
structure ProjectionTable (tasks : List AutomationTask) : Prop where
  table : TaskTable tasks
  all : ∀ t ∈ tasks, ProjectionTask stableHash asked cfg a cutover t

end Tasks

section Table

variable {stableHash : DesiredFields → String} {asked : DesiredFields → Prop}
  {cfg : ProjectorConfig}
  {a : RuntimeActivation} {cutover : DateTime} {tasks : List AutomationTask}
  {t t' u : AutomationTask} {f : AutomationTask → AutomationTask}

theorem ProjectionTask.congr (h : ProjectionTask stableHash asked cfg a cutover t)
    (horigin : t'.origin = t.origin)
    (hpay : ∃ n, t'.payload = { t.payload with projectionAttempt := n })
    (hkey : t'.dedupeKey = t.dedupeKey)
    (hlive : t'.unfinished = true → t.unfinished = true) :
        ProjectionTask stableHash asked cfg a cutover t' := by
  obtain ⟨n, hn⟩ := hpay
  have hid : t'.taskId = t.taskId := congrArg TaskOrigin.taskId horigin
  refine ⟨(congrArg TaskOrigin.taskType horigin).trans h.taskType, ?_, ?_, ?_, fun hu => ?_, ?_⟩
  · rw [hn]
    exact h.fields
  · rw [hn]
    exact h.hash
  · rw [hkey, hn]
    unfold historyKey
    rw [hid]
    exact h.key
  · rw [hkey, hn]
    exact h.live (hlive hu)
  · have hera := h.era
    unfold beforeCutover at hera ⊢
    have hmode : t'.createdMode = t.createdMode := congrArg TaskOrigin.createdMode horigin
    have hepoch : t'.activeEpoch = t.activeEpoch := congrArg TaskOrigin.activeEpoch horigin
    have hat : t'.createdAt = t.createdAt := congrArg TaskOrigin.createdAt horigin
    rw [hmode, hepoch, hat]
    exact hera

theorem ProjectionTask.claim (h : ProjectionTask stableHash asked cfg a cutover t) (c : ClaimCall) :
    ProjectionTask stableHash asked cfg a cutover (claimRow c.workerId c.now c.leaseUntil t) := by
  by_cases hc : claimable c.now t = true
  · rw [claimRow_eq hc]
    refine h.congr rfl ⟨t.payload.projectionAttempt, rfl⟩ rfl fun _ => ?_
    simp only [claimable, decide_eq_true_eq] at hc
    exact unfinished_iff.mpr (hc.imp (·.1) (·.1))
  · rw [claimRow, if_neg (by simpa [claimable] using hc)]
    exact h

theorem ProjectionTask.finish (h : ProjectionTask stableHash asked cfg a cutover t)
    (error : Option String) (at_ : DateTime) :
    ProjectionTask stableHash asked cfg a cutover (finishRow error at_ t) := by
  unfold finishRow
  by_cases hr : t.status = .running ∧ ¬(t.leaseUntil.any fun l => l.instant ≤ at_.instant) = true
  · rw [if_pos hr]
    exact h.congr rfl ⟨t.payload.projectionAttempt, rfl⟩ rfl fun _ => unfinished_iff.mpr (.inr hr.1)
  · rw [if_neg hr]
    exact h

/-- An update of the row of an id that keeps ids and keys. -/
theorem ProjectionTable.update (h : ProjectionTable stableHash asked cfg a cutover tasks)
    {taskId : String}
    (hid : ∀ t, (f t).taskId = t.taskId) (hkey : ∀ t, (f t).dedupeKey = t.dedupeKey)
    (hf : ∀ t ∈ tasks, t.taskId = taskId → ProjectionTask stableHash asked cfg a cutover (f t)) :
    ProjectionTable stableHash asked cfg a cutover (updateRow tasks taskId f) := by
  refine ⟨h.table.congr (forall₂_updateRow (fun _ => ⟨rfl, rfl⟩) fun t _ _ => ⟨hid t, hkey t⟩),
    fun t ht => ?_⟩
  obtain ⟨u, hu, rfl⟩ := mem_updateRow.mp ht
  by_cases hu' : u.taskId = taskId
  · rw [if_pos hu']
    exact hf u hu hu'
  · rw [if_neg hu']
    exact h.all u hu

/-- The history key of a key is free. -/
theorem ProjectionTable.history_free (hcolon : ∀ f, ':' ∉ (stableHash f).toList)
    (h : ProjectionTable stableHash asked cfg a cutover tasks) (fields : DesiredFields) :
    ¬HistoryTaken tasks (projectionKey cfg (stableHash fields)) := by
  rintro ⟨owner, -, -, t, ht, hne, hk⟩
  rcases (h.all t ht).key with hbase | hhist
  · exact projectionKey_ne_history (hcolon _) (Option.some.inj (hbase.symm.trans hk))
  · exact hne (historyKey_inj (hcolon _) (hcolon _) (Option.some.inj (hhist.symm.trans hk)))

/-- Giving up the key of a hash, when no unfinished task has it. -/
theorem ProjectionTask.archive (hcolon : ∀ f, ':' ∉ (stableHash f).toList)
    (h : ProjectionTask stableHash asked cfg a cutover t)
    {fields : DesiredFields}
    (hdone : t.dedupeKey = some (projectionKey cfg (stableHash fields)) → t.unfinished = false) :
    ProjectionTask stableHash asked cfg a cutover
      (archiveKey (projectionKey cfg (stableHash fields)) t) := by
  unfold archiveKey
  by_cases hk : t.dedupeKey = some (projectionKey cfg (stableHash fields))
  · rw [if_pos hk]
    have hbase : projectionKey cfg (stableHash fields) =
        projectionKey cfg (stableHash t.payload.desiredFields) := by
      rcases h.key with hbase | hhist
      · exact Option.some.inj (hk.symm.trans hbase)
      · exact absurd (Option.some.inj (hk.symm.trans hhist)) (projectionKey_ne_history (hcolon _))
    refine ⟨h.taskType, h.fields, h.hash, .inr ?_, fun hu => ?_, h.era⟩
    · show some (historyKey (projectionKey cfg (stableHash fields)) t) = _
      rw [hbase]
      rfl
    · have hu : t.unfinished = true := hu
      rw [hdone hk] at hu
      cases hu
  · rw [if_neg hk]
    exact h

/-- **A request leaves an unfinished task of its hash.** -/
theorem ProjectionTable.request (hcolon : ∀ f, ':' ∉ (stableHash f).toList)
    (hdevice : blank cfg.deviceId = false)
    (h : ProjectionTable stableHash asked cfg a cutover tasks) (hmode : a.mode = "active")
    (r : StatusRequest)
    (hasked : asked r.fields) (hfresh : ∀ t ∈ tasks, t.taskId ≠ r.newId)
    (hera : cutover.isoformat ≤ r.now.isoformat) :
    ∃ tasks' task, createOrGetUnfinished tasks a r.newId (projectionSpec stableHash cfg a r)
        (projectionKey cfg (stableHash r.fields)) = .ok (tasks', task) ∧
      ProjectionTable stableHash asked cfg a cutover tasks' ∧ task ∈ tasks' ∧
        task.unfinished = true ∧
        task.payload.desiredHash = some (stableHash r.fields) := by
  have hhist := h.history_free hcolon r.fields
  have hkeyBlank : blank (projectionKey cfg (stableHash r.fields)) = false :=
    projectionKey_not_blank _
  rcases createOrGetUnfinished_identity h.table a hfresh (projectionSpec stableHash cfg a r)
    (projectionKey cfg (stableHash r.fields)) with ⟨tasks', task, hok, hident⟩ | ⟨-, hbad⟩
  swap
  · have htype : blank "PROJECT_DEVICE_STATUS" = false := by decide
    rcases hbad with hb | hb | hb | hb
    · exact absurd (htype.symm.trans hb) (by decide)
    · exact absurd (hdevice.symm.trans hb) (by decide)
    · exact absurd (hkeyBlank.symm.trans hb) (by decide)
    · exact absurd hb hhist
  refine ⟨tasks', task, hok, ⟨hident.table, ?_⟩, hident.returned.1, hident.returned.2, ?_⟩
  all_goals
    rcases @createOrGetUnfinished_projection tasks (projectionSpec stableHash cfg a r)
        _ h.table rfl hdevice hkeyBlank hhist
      a r.newId with ⟨w, hw, hu, -, hk, heq⟩ | ⟨hnone, heq⟩
    all_goals
      rw [hok] at heq
      obtain ⟨rfl, rfl⟩ := Prod.mk.inj (Except.ok.inj heq)
  · intro t ht
    obtain ⟨u, hu', rfl⟩ := mem_updateRow.mp ht
    split_ifs
    · obtain ⟨hslot, hpay, hkey, -⟩ := pullForward_slot (projectionSpec stableHash cfg a r) u
      refine (h.all u hu').congr hslot.origin ⟨u.payload.projectionAttempt, hpay⟩ hkey fun hu => ?_
      rw [unfinished_iff, hslot.status] at hu
      exact unfinished_iff.mpr hu
    · exact h.all u hu'
  · intro t ht
    rcases List.mem_append.mp ht with ht | ht
    · obtain ⟨u, hu', rfl⟩ := List.mem_map.mp ht
      refine (h.all u hu').archive hcolon fun hk => ?_
      by_contra hu
      exact hnone u hu' (by simpa using hu) (h.all u hu').taskType hk
    · rw [List.mem_singleton.mp ht]
      refine ⟨rfl, hasked, rfl, .inl rfl, fun _ => rfl, ?_⟩
      have hmeta : a.creationMetadata = (some "active", a.activeEpoch) := by
        rw [RuntimeActivation.creationMetadata, if_pos (.inr (.inr hmode)), hmode]
      unfold beforeCutover TaskSpec.row
      simp only [hmeta, Bool.or_eq_false_iff, decide_eq_false_iff_not, not_lt, ne_eq,
          not_true_eq_false, not_false_eq_true,
        and_self, true_and]
      exact hera
  · obtain ⟨-, hpay, -, -⟩ := pullForward_slot (projectionSpec stableHash cfg a r) w
    rw [hpay, (h.all w hw).hash]
    rw [(h.all w hw).live hu] at hk
    rw [projectionKey_inj (Option.some.inj hk)]
  · rfl

end Table

/-! ### A round -/

section Round

variable (py : PyText) (cfg : ProjectorConfig)

def StatusRound.claim (x : StatusRound) : ClaimCall :=
  { now := x.claimedAt, limit := 1, workerId := cfg.workerId, leaseFor := x.leaseFor
    excludeTaskIds := x.excludeTaskIds }

/-- The row of a task once it is claimed. -/
def StatusRound.claimed (x : StatusRound) (u : AutomationTask) : AutomationTask :=
  claimRow (x.claim cfg).workerId (x.claim cfg).now (x.claim cfg).leaseUntil u

/-- The table with the task claimed. -/
def StatusRound.claimedTasks (x : StatusRound) (s : Projector) (u : AutomationTask) :
    List AutomationTask :=
  updateRow s.db.tasks u.taskId (x.claimed cfg)

/-- The task is handled as one of the hash that is stored. -/
def Attempts (s : Projector) (t : AutomationTask) : Prop :=
  ∃ row, s.row cfg = some row ∧ row.desiredHash = some (t.payload.desiredHash.getD "") ∧
    row.status ≠ .remoteRecordDeleted

/-- How an attempt ends. -/
inductive AttemptEnd
  | succeeded | deleted | failed | retried
deriving DecidableEq

def AttemptEnd.status : AttemptEnd → DeviceProjectionStatus
  | succeeded => .succeeded
  | deleted => .remoteRecordDeleted
  | failed => .failed
  | retried => .pending

/-- The task is left as it was claimed, or finished. -/
def TaskEnds (s : Projector) (u : AutomationTask) (x : StatusRound) (s' : Projector) : Prop :=
  s'.db.tasks = x.claimedTasks cfg s u ∨
    ∃ error, s'.db.tasks = updateRow (x.claimedTasks cfg s u)
      u.taskId (finishRow error x.finishedAt)

/-- The row of a task that is tried again. -/
def StatusRound.retry (x : StatusRound) (attempt : ℤ) (t : AutomationTask) : AutomationTask :=
  { t with status := .pending, dueAt := x.now.add (cfg.delay attempt), updatedAt := x.now
           payload := { t.payload with projectionAttempt := attempt }, leaseUntil :=
             none, workerId := none }

/-- The task is tried again: it keeps its identity, and waits for the delay of its attempt. -/
def TaskRetried (s : Projector) (u : AutomationTask) (x : StatusRound) (s' : Projector) : Prop :=
  s'.db.tasks = updateRow (x.claimedTasks cfg s u)
    u.taskId (x.retry cfg (u.payload.projectionAttempt + 1))

/-- The remote row after an attempt: nothing was sent, or what differs was sent. -/
def Sent (s : Projector) (u : AutomationTask) (x : StatusRound) (s' : Projector)
    (call : Option UpdateCall) (fin : AttemptEnd) : Prop :=
  call = none ∧ s'.remote = s.remote ∧
      (fin = .succeeded → changedCells py s.remote.fields u.payload.desiredFields = []) ∨
    call = some ⟨s.remote.recordId, changedCells py s.remote.fields u.payload.desiredFields⟩ ∧
      s'.remote = (if x.update.isStored then { s.remote with fields := x.after } else s.remote) ∧
      (fin = .succeeded → x.update.isStored = true)

/-- What a round does. -/
inductive RoundEffect (s : Projector) (x : StatusRound) (s' : Projector) (res : RoundResult) : Prop
  | idle : s' = s → res.task = none → res.call = none → RoundEffect s x s' res
  | passed (u : AutomationTask) : u ∈ s.db.tasks → claimable x.claimedAt u = true → res.task = some (x.claimed cfg u) →
      ¬Attempts cfg s u → res.call = none → s'.rows = s.rows → s'.remote = s.remote →
        s'.db.runtime = s.db.runtime →
      TaskEnds cfg s u x s' → RoundEffect s x s' res
  | attempted (u : AutomationTask) (row row' : DeviceStatusRow Json) (fin : AttemptEnd) : u ∈ s.db.tasks →
      claimable x.claimedAt u = true → res.task = some (x.claimed cfg u) → s.row cfg = some row →
      row.desiredHash = some (u.payload.desiredHash.getD "") → row.status ≠ .remoteRecordDeleted →
      s'.row cfg = some row' → row'.desiredHash = row.desiredHash →
        row'.desiredFields = row.desiredFields →
      row'.status = fin.status → Sent py s u x s' res.call fin → s'.db.runtime = s.db.runtime →
      (if fin = .retried then TaskRetried cfg s u x s' else TaskEnds cfg s u x s') →
        RoundEffect s x s' res

end Round

section RoundCases

variable {py : PyText} {cfg : ProjectorConfig} {s s' : Projector} {x : StatusRound}
  {u t : AutomationTask}
  {row : DeviceStatusRow Json}

theorem claimed_payload (cfg : ProjectorConfig) (x : StatusRound) (u : AutomationTask) :
    (x.claimed cfg u).payload = u.payload ∧ (x.claimed cfg u).taskId = u.taskId := by
  unfold StatusRound.claimed claimRow
  split_ifs
  · exact ⟨rfl, rfl⟩
  · exact ⟨rfl, rfl⟩

theorem row_mark {f : DeviceStatusRow Json → DeviceStatusRow Json}
    (hf : ∀ r, (f r).deviceId = r.deviceId) : (s.mark cfg f).row cfg = (s.row cfg).map f := by
  unfold Projector.row Projector.mark getDeviceStatus updateDeviceStatus
  have hkey : ∀ r : DeviceStatusRow Json, (if r.deviceId = cfg.deviceId then f r else r).deviceId =
      r.deviceId := by
    intro r
    by_cases h : r.deviceId = cfg.deviceId
    · rw [if_pos h, hf]
    · rw [if_neg h]
  rw [rowOf_map hkey]
  cases hrow : rowOf DeviceStatusRow.deviceId s.rows cfg.deviceId with
  | none => rfl
  | some r => rw [Option.map_some, Option.map_some, if_pos (mem_of_rowOf hrow).2]

/-- Rows and remote row stay, and the task is at most finished. -/
def FinishOf (task : AutomationTask) (x : StatusRound) (s s' : Projector) : Prop :=
  s'.rows = s.rows ∧ s'.remote = s.remote ∧ s'.db.runtime = s.db.runtime ∧
    (s'.db.tasks = s.db.tasks ∨
      ∃ error, s'.db.tasks = updateRow s.db.tasks task.taskId (finishRow error x.finishedAt))

theorem finishAs_ends (s : Projector) (task : AutomationTask) (error : Option String)
    (x : StatusRound) : FinishOf task x s (s.finishAs cfg task error x) := by
  unfold Projector.finishAs finishTask
  split
  · rename_i tasks heq
    split at heq
    · cases heq
    · split_ifs at heq
      obtain rfl := Except.ok.inj heq
      exact ⟨rfl, rfl, rfl, .inr ⟨error, rfl⟩⟩
  · exact ⟨rfl, rfl, rfl, .inl rfl⟩

theorem finish_ends (s : Projector) (task : AutomationTask) (raised : Option String)
    (x : StatusRound) : FinishOf task x s (s.finish cfg task raised x) := by
  unfold Projector.finish
  cases raised with
  | none => exact finishAs_ends s task none x
  | some e =>
    simp only
    by_cases hp : ((byId s.db.tasks task.taskId).any (·.status = .pending)) = true
    · rw [if_pos hp]
      exact ⟨rfl, rfl, rfl, .inl rfl⟩
    · rw [if_neg hp]
      exact finishAs_ends s task (some e) x

theorem executeTask_passed (h : ¬Attempts cfg s t) :
    s.executeTask py cfg t x = (s, none, none) := by
  unfold Projector.executeTask
  cases hrow : s.row cfg with
  | none => rfl
  | some row =>
    simp only
    by_cases hhash : row.desiredHash ≠ some (t.payload.desiredHash.getD "")
    · rw [if_pos hhash]
    · rw [if_neg hhash]
      by_cases hdel : row.status = .remoteRecordDeleted
      · rw [if_pos hdel]
      · exact absurd ⟨row, hrow, not_not.mp hhash, hdel⟩ h

/-- **An attempt with all gates open**: a read or a schema that fails, nothing to send, or an
update. -/
theorem executeTask_cases (hscope : cfg.deviceId ∈ cfg.activeDeviceIds) (hgates : x.gates = {})
    (hrow : s.row cfg = some row) (hhash : row.desiredHash = some (t.payload.desiredHash.getD ""))
    (hdel : row.status ≠ .remoteRecordDeleted) :
    (∃ e, s.executeTask py cfg t x = (s, none, some e)) ∨
    (changedCells py s.remote.fields t.payload.desiredFields = [] ∧ s.executeTask py cfg t x =
      (s.mark cfg (·.markSuccess s.remote.recordId t.payload.desiredFields.json x.now),
        none, none)) ∨
    ∃ sent, sent =
      { s with remote := if x.update.isStored then { s.remote with fields := x.after } else s.remote } ∧
      ((x.update.isStored = true ∧ s.executeTask py cfg t x =
        (sent.mark cfg (·.markSuccess s.remote.recordId t.payload.desiredFields.json x.now),
          some ⟨s.remote.recordId, changedCells py s.remote.fields t.payload.desiredFields⟩,
            none)) ∨
      ∃ e, s.executeTask py cfg t x =
        (sent, some ⟨s.remote.recordId, changedCells py s.remote.fields t.payload.desiredFields⟩,
          some e)) := by
  unfold Projector.executeTask
  simp only [hrow, hhash, hdel, hgates, ne_eq, not_true_eq_false, if_false, Bool.not_true,
      Bool.false_eq_true,
    List.contains_iff_mem.mpr hscope]
  cases hread : x.schema <|> x.read with
  | some e => exact .inl ⟨e, rfl⟩
  | none =>
    right
    by_cases hnil : changedCells py s.remote.fields t.payload.desiredFields = []
    · left
      refine ⟨hnil, ?_⟩
      simp only [hnil, List.isEmpty_nil, if_true]
    · right
      refine ⟨_, rfl, ?_⟩
      have hempty : (changedCells py s.remote.fields t.payload.desiredFields).isEmpty = false := by
        simpa using hnil
      simp only [hempty, Bool.false_eq_true, if_false]
      cases hup : x.update with
      | returned => exact .inl ⟨rfl, rfl⟩
      | raised e stored =>
        right
        refine ⟨e, ?_⟩
        cases stored with
        | false => rfl
        | true => rfl

/-- The two ways a failure leaves the task: handled, or raised again. -/
theorem handleTask_failed {done : Projector} {call : Option UpdateCall} {e : RemoteError}
    (hexec : s.executeTask py cfg t x = (done, call, some e)) (ht : t ∈ done.db.tasks)
    (hrun : t.status = .running) (hworker : t.workerId.isSome = true) :
    (s.handleTask py cfg t x =
        (done.mark cfg (·.markRemoteRecordDeleted ((done.row cfg).bind (·.recordId)) e.text x.now),
          call, none)) ∨
    (s.handleTask py cfg t x =
      (done.mark cfg (·.markFailure (e.name ++ ": " ++ e.text) x.now true), call, some e.text)) ∨
    s.handleTask py cfg t x =
      ({ done.mark cfg (·.markFailure (e.name ++ ": " ++ e.text) x.now false) with
          db := { done.db with tasks := updateRow done.db.tasks t.taskId fun u =>
            { u with status := .pending, dueAt := x.now.add (cfg.delay (t.payload.projectionAttempt + 1)), updatedAt := x.now
                     payload :=
                       { t.payload with projectionAttempt := t.payload.projectionAttempt + 1 }
                     leaseUntil := none, workerId := none } } }, call, some e.text) := by
  unfold Projector.handleTask
  rw [hexec]
  simp only
  by_cases hdeleted : e.recordDeleted = true
  · rw [if_pos hdeleted]
    exact .inl rfl
  rw [if_neg hdeleted]
  by_cases hterminal : max 1 cfg.maxRetries ≤ t.payload.projectionAttempt + 1
  · simp only [hterminal, decide_true, if_true]
    exact .inr (.inl trivial)
  · simp only [hterminal, decide_false, Bool.false_eq_true, if_false]
    right
    right
    have hown :
        (done.db.tasks.any fun u =>
        u.taskId = t.taskId && u.status = .running && u.workerId.isSome &&
        u.workerId = t.workerId) = true := by
      rw [List.any_eq_true]
      exact ⟨t, ht, by simp [hrun, hworker]⟩
    have hresched : ∀ due upd payload, rescheduleRunning done.db.tasks t due upd payload =
        .ok (updateRow done.db.tasks t.taskId fun u =>
          { u with status := .pending, dueAt := due, updatedAt := upd, payload := payload, leaseUntil := none
                   workerId := none }) := fun due upd payload => if_pos hown
    simp only [Projector.mark, hresched]

theorem claimed_eq (hc : claimable x.claimedAt u = true) : x.claimed cfg u =
    { u with status := .running, startedAt := u.startedAt <|> some x.claimedAt
             leaseUntil := some (x.claimedAt.add x.leaseFor), workerId :=
               some cfg.workerId, updatedAt := x.claimedAt
             attemptCount := u.attemptCount + 1 } :=
  @claimRow_eq u (x.claim cfg) hc

theorem row_bind_mark {f : DeviceStatusRow Json → DeviceStatusRow Json}
    (hf : ∀ r, (f r).deviceId = r.deviceId)
    (hrow : s.row cfg = some row) : (s.mark cfg f).row cfg = some (f row) := by
  rw [row_mark hf, hrow]
  rfl

/-- A round that claims nothing. -/
theorem round_idle (h : (∃ e, claimDue s.db (x.claim cfg) = .error e) ∨ claimDue s.db (x.claim cfg) = .ok (s.db, [])) :
    s.round py cfg x = (s, { task := none }) := by
  unfold Projector.round
  have hcall : claimDue s.db { now := x.claimedAt, limit := 1, workerId := cfg.workerId, leaseFor := x.leaseFor
                               excludeTaskIds := x.excludeTaskIds } = claimDue s.db (x.claim cfg) := rfl
  rw [hcall]
  rcases h with ⟨e, he⟩ | hnone
  · rw [he]
  · rw [hnone]

/-- The state with the task claimed. -/
def StatusRound.claimedState (cfg : ProjectorConfig) (x : StatusRound) (s : Projector)
    (u : AutomationTask) : Projector :=
  { s with db := { s.db with tasks := x.claimedTasks cfg s u } }

/-- The round claims the task. -/
structure RoundClaims (cfg : ProjectorConfig) (s : Projector) (x : StatusRound)
    (u : AutomationTask) : Prop where
  mem : u ∈ s.db.tasks
  due : claimable x.claimedAt u = true
  call : claimDue s.db (x.claim cfg) = .ok ((x.claimedState cfg s u).db, [x.claimed cfg u])
  ids : (s.db.tasks.map (·.taskId)).Nodup

theorem RoundClaims.mem_claimed (h : RoundClaims cfg s x u) :
    x.claimed cfg u ∈ (x.claimedState cfg s u).db.tasks :=
  mem_updateRow.mpr ⟨u, h.mem, if_pos rfl⟩

theorem RoundClaims.ids_claimed (h : RoundClaims cfg s x u) :
    ((x.claimedState cfg s u).db.tasks.map (·.taskId)).Nodup := by
  show ((updateRow s.db.tasks u.taskId (x.claimed cfg)).map (·.taskId)).Nodup
  rw [updateRow_ids fun v => (claimed_payload cfg x v).2]
  exact h.ids

/-- A round that claims a task hands it to the handler. -/
theorem RoundClaims.round (h : RoundClaims cfg s x u) {done : Projector} {call : Option UpdateCall} {raised : Option String}
    (hhandle : (x.claimedState cfg s u).handleTask py cfg (x.claimed cfg u) x = (done, call, raised)) :
    s.round py cfg x = (done.finish cfg (x.claimed cfg u) raised x, { task := some (x.claimed cfg u), call, raised }) := by
  unfold Projector.round
  have hcall : claimDue s.db { now := x.claimedAt, limit := 1, workerId := cfg.workerId, leaseFor := x.leaseFor
                               excludeTaskIds := x.excludeTaskIds } = _ := h.call
  rw [hcall]
  simp only
  have hstate : ({ s with db := (x.claimedState cfg s u).db } : Projector) = x.claimedState cfg s u := rfl
  rw [hstate, hhandle]

/-- An end of the attempt that leaves the task to the worker. -/
theorem RoundClaims.ends (h : RoundClaims cfg s x u) (hrow : s.row cfg = some row)
    (hhash : row.desiredHash = some (u.payload.desiredHash.getD ""))
    (hdel : row.status ≠ .remoteRecordDeleted)
    {done : Projector} {call : Option UpdateCall} {raised : Option String}
    {row' : DeviceStatusRow Json} (fin : AttemptEnd) (hfin : fin ≠ .retried)
    (hhandle : (x.claimedState cfg s u).handleTask py cfg (x.claimed cfg u) x =
      (done, call, raised))
    (hrow' : done.row cfg = some row')
    (hsame : row'.desiredHash = row.desiredHash ∧ row'.desiredFields = row.desiredFields)
    (hst : row'.status = fin.status) (hsent : Sent py s u x done call fin)
    (hdb : done.db = (x.claimedState cfg s u).db) :
    RoundEffect py cfg s x (s.round py cfg x).1 (s.round py cfg x).2 := by
  rw [h.round hhandle]
  obtain ⟨hrows, hremote, hruntime, htasks⟩ := @finish_ends cfg done (x.claimed cfg u) raised x
  refine .attempted u row row' fin h.mem h.due rfl hrow hhash hdel ?_ hsame.1 hsame.2 hst ?_ ?_ ?_
  · unfold Projector.row
    rw [hrows]
    exact hrow'
  · unfold Sent at hsent ⊢
    rw [hremote]
    exact hsent
  · rw [hruntime, hdb]
    rfl
  · rw [if_neg hfin]
    unfold TaskEnds
    rw [hdb, (claimed_payload cfg x u).2] at htasks
    exact htasks

/-- The task that was put back is left as it is. -/
theorem finish_pending {task : AutomationTask} {e : String}
    (hfound : byId s.db.tasks t.taskId = some task) (hp : task.status = .pending) :
    s.finish cfg t (some e) x = s := by
  unfold Projector.finish
  simp [hfound, hp]

/-- **A failed attempt**: the record is gone, no attempt is left, or the task waits for the next
one. -/
theorem RoundClaims.failed (h : RoundClaims cfg s x u) (hrow : s.row cfg = some row)
    (hhash : row.desiredHash = some (u.payload.desiredHash.getD ""))
    (hdel : row.status ≠ .remoteRecordDeleted)
    {done : Projector} {call : Option UpdateCall} {e : RemoteError}
    (hexec : (x.claimedState cfg s u).executeTask py cfg (x.claimed cfg u) x = (done, call, some e))
    (hrows : done.rows = s.rows) (hdb : done.db = (x.claimedState cfg s u).db)
    (hsent : ∀ fin, fin ≠ .succeeded → Sent py s u x done call fin) :
    RoundEffect py cfg s x (s.round py cfg x).1 (s.round py cfg x).2 := by
  obtain ⟨hpay, hid⟩ := claimed_payload cfg x u
  have hin := h.mem_claimed
  have hrowd : done.row cfg = some row := by
    unfold Projector.row
    rw [hrows]
    exact hrow
  have hstatus : (x.claimed cfg u).status = .running := by rw [claimed_eq h.due]
  have hworker : (x.claimed cfg u).workerId.isSome = true := by
    rw [claimed_eq h.due]
    rfl
  rcases handleTask_failed hexec (by rw [hdb]; exact hin) hstatus hworker with hh | hh | hh
  · exact h.ends hrow hhash hdel .deleted (by decide) hh (row_bind_mark (fun _ => rfl) hrowd)
        ⟨rfl, rfl⟩ rfl
      (hsent .deleted (by decide)) hdb
  · exact h.ends hrow hhash hdel .failed (by decide) hh (row_bind_mark (fun _ => rfl) hrowd)
        ⟨rfl, rfl⟩ rfl
      (hsent .failed (by decide)) hdb
  · -- the row that waits has the claimed one's id
    have hfound := byId_updateRow (f := fun v => { v with
        status := .pending, dueAt :=
          x.now.add (cfg.delay ((x.claimed cfg u).payload.projectionAttempt + 1))
        updatedAt := x.now
        payload := { (x.claimed cfg u).payload with
          projectionAttempt := (x.claimed cfg u).payload.projectionAttempt + 1 }
        leaseUntil := none, workerId := none }) h.ids_claimed hin fun _ => rfl
    rw [h.round hh, finish_pending (by rw [hdb]; exact hfound) rfl]
    refine .attempted u row _ .retried h.mem h.due rfl hrow hhash hdel
        (row_bind_mark (fun _ => rfl) hrowd) rfl rfl rfl
      (hsent .retried (by decide)) (by rw [hdb]; rfl) ?_
    rw [if_pos rfl]
    unfold TaskRetried
    simp only [hdb, hid]
    -- the claimed row has the payload the task was read with
    apply updateRow_congr
    intro v hv hvid
    obtain rfl := eq_of_taskId h.ids_claimed hv hin (hvid.trans hid.symm)
    unfold StatusRound.retry
    rw [hpay]

/-- **What a round does**, with all gates open. -/
theorem round_effect (hscope : cfg.deviceId ∈ cfg.activeDeviceIds) (hgates : x.gates = {})
    (hids : (s.db.tasks.map (·.taskId)).Nodup)
    (hheld : quarantineLegacyExternalTasks s.db x.claimedAt none = s.db) :
    RoundEffect py cfg s x (s.round py cfg x).1 (s.round py cfg x).2 := by
  rcases @claimDue_one s.db (x.claim cfg)
    hids rfl hheld with ⟨e, -, he⟩ | ⟨-, hnone⟩ | ⟨u, hu, hc, -, hok⟩
  · rw [round_idle (.inl ⟨e, he⟩)]
    exact .idle rfl rfl rfl
  · rw [round_idle (.inr hnone)]
    exact .idle rfl rfl rfl
  have h : RoundClaims cfg s x u := ⟨hu, hc, hok, hids⟩
  obtain ⟨hpay, hid⟩ := claimed_payload cfg x u
  by_cases hatt : Attempts cfg s u
  · obtain ⟨row, hrow, hhash, hdel⟩ := hatt
    have hhash1 : row.desiredHash = some ((x.claimed cfg u).payload.desiredHash.getD "") := by
      rw [hpay]; exact hhash
    have hrow1 : (x.claimedState cfg s u).row cfg = some row := hrow
    rcases @executeTask_cases py cfg (x.claimedState cfg s u) x (x.claimed cfg u)
        row hscope hgates hrow1 hhash1 hdel with
      ⟨e, hexec⟩ | ⟨hnil, hexec⟩ | ⟨sent, hsent, ⟨hstored, hexec⟩ | ⟨e, hexec⟩⟩
    · exact h.failed hrow hhash hdel hexec rfl rfl fun fin hfin =>
        .inl ⟨rfl, rfl, fun h => absurd h hfin⟩
    · have hhandle : (x.claimedState cfg s u).handleTask py cfg (x.claimed cfg u) x =
          ((x.claimedState cfg s u).mark cfg (·.markSuccess s.remote.recordId
            (x.claimed cfg u).payload.desiredFields.json x.now), none, none) := by
        unfold Projector.handleTask
        rw [hexec]
        rfl
      rw [hpay] at hnil
      exact h.ends hrow hhash hdel .succeeded (by decide)
          hhandle (row_bind_mark (fun _ => rfl) hrow) ⟨rfl, rfl⟩ rfl
        (.inl ⟨rfl, rfl, fun _ => hnil⟩) rfl
    · have hhandle : (x.claimedState cfg s u).handleTask py cfg (x.claimed cfg u) x =
          (sent.mark cfg
              (·.markSuccess s.remote.recordId (x.claimed cfg u).payload.desiredFields.json x.now),
            some ⟨s.remote.recordId,
              changedCells py s.remote.fields (x.claimed cfg u).payload.desiredFields⟩, none) := by
        unfold Projector.handleTask
        rw [hexec]
        rfl
      rw [hpay] at hhandle
      subst hsent
      exact h.ends hrow hhash hdel .succeeded (by decide)
          hhandle (row_bind_mark (fun _ => rfl) hrow) ⟨rfl, rfl⟩ rfl
        (.inr ⟨rfl, rfl, fun _ => hstored⟩) rfl
    · subst hsent
      refine h.failed hrow hhash hdel hexec rfl rfl fun fin hfin =>
        .inr ⟨?_, rfl, fun h => absurd h hfin⟩
      rw [hpay]
      rfl
  · have hatt1 : ¬Attempts cfg (x.claimedState cfg s u) (x.claimed cfg u) := by
      rintro ⟨row, hrow, hhash, hdel⟩
      rw [hpay] at hhash
      exact hatt ⟨row, hrow, hhash, hdel⟩
    have hhandle : (x.claimedState cfg s u).handleTask py cfg (x.claimed cfg u) x =
        (x.claimedState cfg s u, none, none) := by
      unfold Projector.handleTask
      rw [executeTask_passed hatt1]
    rw [h.round hhandle]
    obtain ⟨hrows, hremote, hruntime, htasks⟩ :=
      @finish_ends cfg (x.claimedState cfg s u) (x.claimed cfg u) none x
    refine .passed u hu hc rfl hatt rfl hrows hremote hruntime ?_
    unfold TaskEnds
    rw [hid] at htasks
    exact htasks

end RoundCases

end TemperatureMonitor
