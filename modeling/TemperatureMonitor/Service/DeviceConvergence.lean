/-
# The device's row converges

For one device in the scope of the active epoch, all gates open: whatever is
requested and however the remote calls end, an update is sent only for the hash
that is stored and with cells that differ, a PENDING row has an unfinished task
of its hash, a SUCCEEDED row agrees with the remote one as long as the remote
table stores what it is sent, and a deleted record is left by a forced
request alone (`projection_converges`).
-/
import TemperatureMonitor.Service.DeviceStatusRun

namespace TemperatureMonitor

section Convergence

variable (py : PyText) (stableHash : DesiredFields → String) (asked : DesiredFields → Prop)
  (cfg : ProjectorConfig)
  (a : RuntimeActivation) (cutover : DateTime)

/-- The device is in the scope of the active epoch. -/
structure ActiveScope : Prop where
  device : blank cfg.deviceId = false
  active : cfg.deviceId ∈ cfg.activeDeviceIds
  mode : a.mode = "active"
  cutover : a.activeCutoverAt = some cutover

/-- The hash is a hexadecimal text, and among the dicts that are asked for no two share one. -/
structure HexHash : Prop where
  hex : ∀ f, ':' ∉ (stableHash f).toList
  inj : ∀ f g, asked f → asked g → stableHash f = stableHash g → f.Same g

/-- A request is made in the epoch and draws a fresh id; a round finds the gates open. -/
def InEpoch (s : Projector) : ProjectorOp → Prop
  | .request r => asked r.fields ∧ cutover.isoformat ≤ r.now.isoformat ∧
    ∀ t ∈ s.db.tasks, t.taskId ≠ r.newId
  | .round x => x.gates = {}

/-- The cells sent read back as the same cells, and no other cell is touched. -/
def Stores (cells : List (String × DeviceCell)) (before after : String → Json) : Prop :=
  (∀ c ∈ cells, sameCell py (after c.1) c.2.json = true) ∧ ∀ key, key ∉ cells.map (·.1) →
    after key = before key

/-- The remote table stores what it is sent. -/
def RemoteStores (s : Projector) : ProjectorOp → Prop
  | .request _ => True
  | .round x => ∀ call, (s.round py cfg x).2.call = some call → x.update.isStored = true →
      Stores py call.cells s.remote.fields x.after

/-- What every run keeps. -/
structure ProjectorInv (s : Projector) : Prop where
  runtime : s.db.runtime = some a
  tasks : ProjectionTable stableHash asked cfg a cutover s.db.tasks
  row : ∀ row, s.row cfg = some row → row.status ≠ .shadowOnly ∧
    ∃ f, asked f ∧ row.desiredHash = some (stableHash f) ∧ row.desiredFields = f.json
  pending : ∀ row, s.row cfg = some row → row.status = .pending →
    ∃ t ∈ s.db.tasks, t.unfinished = true ∧ t.payload.desiredHash = row.desiredHash

/-- A projection that succeeded shows in the remote row. -/
def Agrees (s : Projector) : Prop := ∀ row, s.row cfg = some row → row.status = .succeeded →
  ∀ c ∈ row.desiredFields, sameCell py (s.remote.fields c.1) c.2 = true

end Convergence

section Steps

variable {py : PyText} {stableHash : DesiredFields → String} {asked : DesiredFields → Prop}
  {cfg : ProjectorConfig}
  {a : RuntimeActivation} {cutover : DateTime} {s s' : Projector} {r : StatusRequest}
  {x : StatusRound}

/-! ### Requests -/

/-- The row a request stores. -/
def savedRow (stableHash : DesiredFields → String) (cfg : ProjectorConfig) (existing : Option (DeviceStatusRow Json))
    (r : StatusRequest) : DeviceStatusRow Json :=
  match existing with
  | some row => { row.desire row.recordId (stableHash r.fields) r.fields.json r.now with deviceId := cfg.deviceId }
  | none => { deviceId := cfg.deviceId, desiredHash := some (stableHash r.fields), desiredFields := r.fields.json
              pending := true, updatedAt := r.now }

theorem row_saveDesired :
    getDeviceStatus (saveDesired s.rows cfg.deviceId ((s.row cfg).bind (·.recordId))
    (stableHash r.fields) r.fields.json r.now) cfg.deviceId =
      some (savedRow stableHash cfg (s.row cfg) r) := by
  unfold getDeviceStatus saveDesired
  rw [rowOf_alterRow_self fun old => by cases old <;> rfl]
  have hexisting : rowOf DeviceStatusRow.deviceId s.rows cfg.deviceId = s.row cfg := rfl
  rw [hexisting]
  unfold savedRow
  cases s.row cfg with
  | none => rfl
  | some row => rfl

theorem savedRow_desired (existing : Option (DeviceStatusRow Json)) (r : StatusRequest) :
    (savedRow stableHash cfg existing r).desiredHash = some (stableHash r.fields) ∧
      (savedRow stableHash cfg existing r).desiredFields = r.fields.json := by
  cases existing with
  | none => exact ⟨rfl, rfl⟩
  | some row => exact ⟨rfl, rfl⟩

/-- A deleted record stays deleted under the save, and the hash of a row stays what it is. -/
theorem savedRow_status {row : DeviceStatusRow Json} (h : row.status = .remoteRecordDeleted ∨
    row.desiredHash = some (stableHash r.fields)) : (savedRow stableHash cfg (some row) r).status =
      row.status := by
  show (if row.status = .remoteRecordDeleted then row.status else if _ then _ else row.status) = _
  rcases h with h | h
  · rw [if_pos h]
  · rw [h]
    split_ifs with h1 h2
    · rfl
    · simp at h2
    · rfl

/-- A request does not touch the remote row. -/
theorem Projector.request_remote : (s.request stableHash cfg r).1.remote = s.remote := by
  unfold Projector.request
  simp only
  split
  · rfl
  · split
    · rfl
    · split
      · rfl
      · split
        · rfl
        · split <;> rfl

/-- **What a request does**: the row is saved, and it stays so or waits for a task of its hash. -/
theorem request_effect (hscope : ActiveScope cfg a cutover) (hhash : HexHash stableHash asked)
    (hinv : ProjectorInv stableHash asked cfg a cutover s)
    (hr : InEpoch asked cutover s (.request r)) : (s.request stableHash cfg r).1.remote = s.remote ∧
    (∃ row, s.row cfg = some row ∧ (s.request stableHash cfg r).1.db = s.db ∧
      (s.request stableHash cfg r).1.row cfg = some (savedRow stableHash cfg (some row) r) ∧
      (row.status = .remoteRecordDeleted ∧ r.force = false ∨
        row.status = .succeeded ∧ row.desiredHash = some (stableHash r.fields) ∧ r.force = false)) ∨
    (s.request stableHash cfg r).1.remote = s.remote ∧
      ∃ tasks task, createOrGetUnfinished s.db.tasks a r.newId (projectionSpec stableHash cfg a r)
          (projectionKey cfg (stableHash r.fields)) = .ok (tasks, task) ∧
        (s.request stableHash cfg r).1.db = { s.db with tasks } ∧
        (s.request stableHash cfg r).1.row cfg =
          some ((savedRow stableHash cfg (s.row cfg) r).markPending task.taskId) ∧
        ProjectionTable stableHash asked cfg a cutover tasks ∧ task ∈ tasks ∧
          task.unfinished = true ∧
        task.payload.desiredHash = some (stableHash r.fields) ∧
        ((∃ row, s.row cfg = some row ∧ row.status = .remoteRecordDeleted) → r.force = true) := by
  obtain ⟨tasks, task, hok, htable, hmem, hunf, hhashTask⟩ :=
    hinv.tasks.request hhash.hex hscope.device hscope.mode r
    hr.1 hr.2.2 hr.2.1
  have hact : s.db.activation = a := by
    unfold TaskDb.activation
    rw [hinv.runtime]
    rfl
  set saved : Projector := { s with
    rows := saveDesired s.rows cfg.deviceId ((s.row cfg).bind (·.recordId)) (stableHash r.fields)
      r.fields.json r.now }
    with hsaved
  have hsavedRow : saved.row cfg = some (savedRow stableHash cfg (s.row cfg) r) := row_saveDesired
  have hin : (!cfg.activeDeviceIds.contains cfg.deviceId) = false := by
    rw [List.contains_iff_mem.mpr hscope.active]
    rfl
  have hdef : s.request stableHash cfg r =
      if (s.row cfg).any (·.status = .remoteRecordDeleted) && !r.force then (saved, .ok none)
      else if settled stableHash (s.row cfg) r a.mode then (saved, .ok none)
      else ({ saved with db := { s.db with tasks } }.mark cfg (·.markPending task.taskId),
        .ok (some task)) := by
    unfold Projector.request
    simp only [hact, hok, hscope.mode, decide_true, Bool.true_and, hin, Bool.false_eq_true,
      if_false, if_true, ← hsaved]
    rfl
  by_cases hdeleted : ((s.row cfg).any (·.status = .remoteRecordDeleted) && !r.force) = true
  · left
    rw [hdef, if_pos hdeleted]
    simp only [Bool.and_eq_true, Option.any_eq_true, decide_eq_true_eq,
      Bool.not_eq_true'] at hdeleted
    obtain ⟨⟨row, hrow, hstatus⟩, hforce⟩ := hdeleted
    rw [hrow] at hsavedRow
    exact ⟨rfl, row, hrow, rfl, hsavedRow, .inl ⟨hstatus, hforce⟩⟩
  by_cases hsettled : settled stableHash (s.row cfg) r a.mode = true
  · left
    rw [hdef, if_neg hdeleted, if_pos hsettled]
    simp only [settled, Bool.and_eq_true, Bool.not_eq_true', Option.any_eq_true, Bool.or_eq_true,
      decide_eq_true_eq] at hsettled
    obtain ⟨hforce, row, hrow, ⟨hsame, hstatus⟩, -⟩ := hsettled
    rw [hrow] at hsavedRow
    refine ⟨rfl, row, hrow, rfl, hsavedRow, .inr ⟨?_, hsame, hforce⟩⟩
    rcases hstatus with hstatus | hshadow
    · exact hstatus
    · exact absurd hshadow (hinv.row row hrow).1
  · right
    rw [hdef, if_neg hdeleted, if_neg hsettled]
    refine ⟨rfl, tasks, task, hok, rfl, ?_, htable, hmem, hunf, hhashTask, ?_⟩
    · exact @row_bind_mark cfg { saved with db := { s.db with tasks } } _ _ (fun _ => rfl) hsavedRow
    · rintro ⟨row, hrow, hstatus⟩
      by_contra hforce
      apply hdeleted
      simp only [hrow, Option.any_some, hstatus, decide_true, Bool.true_and, Bool.not_eq_true']
      exact Bool.eq_false_of_not_eq_true hforce

/-! ### Steps -/

theorem updateRow_other {tasks : List AutomationTask} {f : AutomationTask → AutomationTask}
    {t : AutomationTask}
    {taskId : String} (ht : t ∈ tasks) (hid : t.taskId ≠ taskId) : t ∈ updateRow tasks taskId f :=
  mem_updateRow.mpr ⟨t, ht, if_neg hid⟩

/-- The table of the claimed task, and of the task once it is finished or put back. -/
theorem claimedTasks_table (htable : ProjectionTable stableHash asked cfg a cutover s.db.tasks)
    (u : AutomationTask) :
    ProjectionTable stableHash asked cfg a cutover (x.claimedTasks cfg s u) := by
  refine htable.update (fun t => (claimed_payload cfg x t).2) (fun t => ?_) fun t ht _ =>
    (htable.all t ht).claim (x.claim cfg)
  unfold StatusRound.claimed claimRow
  split_ifs <;> rfl

theorem taskEnds_table (htable : ProjectionTable stableHash asked cfg a cutover s.db.tasks)
    {u : AutomationTask}
    (hends : TaskEnds cfg s u x s') :
    ProjectionTable stableHash asked cfg a cutover s'.db.tasks := by
  have hclaimed := claimedTasks_table (x := x) htable u
  rcases hends with h | ⟨error, h⟩
  · rw [h]
    exact hclaimed
  · rw [h]
    refine hclaimed.update (finishRow_taskId error x.finishedAt) (fun t => ?_) fun t ht _ =>
      (hclaimed.all t ht).finish error x.finishedAt
    unfold finishRow
    split_ifs <;> rfl

/-- The row that waits for its next attempt. -/
theorem taskRetried_mem {u : AutomationTask} (hu : u ∈ s.db.tasks)
    (hretried : TaskRetried cfg s u x s') :
    x.retry cfg (u.payload.projectionAttempt + 1) (x.claimed cfg u) ∈ s'.db.tasks := by
  rw [hretried]
  refine mem_updateRow.mpr ⟨x.claimed cfg u, mem_updateRow.mpr ⟨u, hu, if_pos rfl⟩, ?_⟩
  rw [if_pos (claimed_payload cfg x u).2]

theorem taskRetried_table (htable : ProjectionTable stableHash asked cfg a cutover s.db.tasks)
    {u : AutomationTask}
    (hu : u ∈ s.db.tasks) (hc : claimable x.claimedAt u = true)
    (hretried : TaskRetried cfg s u x s') :
    ProjectionTable stableHash asked cfg a cutover s'.db.tasks := by
  have hclaimed := claimedTasks_table (x := x) htable u
  rw [hretried]
  refine hclaimed.update (fun _ => rfl) (fun _ => rfl) fun t ht hid => ?_
  refine (hclaimed.all t ht).congr rfl ⟨u.payload.projectionAttempt + 1, rfl⟩ rfl fun _ => ?_
  -- the row of the id is the claimed one, and it runs
  have hrow : t = x.claimed cfg u := by
    refine eq_of_taskId hclaimed.table.ids ht (mem_updateRow.mpr ⟨u, hu, if_pos rfl⟩) ?_
    rw [hid, (claimed_payload cfg x u).2]
  rw [hrow, claimed_eq hc]
  exact unfinished_iff.mpr (.inr rfl)

/-- A task that is not the claimed one stays. -/
theorem taskEnds_other {u t : AutomationTask} (ht : t ∈ s.db.tasks) (hid : t.taskId ≠ u.taskId)
    (hends : TaskEnds cfg s u x s') : t ∈ s'.db.tasks := by
  have hclaimed : t ∈ x.claimedTasks cfg s u := updateRow_other ht hid
  rcases hends with h | ⟨error, h⟩
  · rw [h]
    exact hclaimed
  · rw [h]
    exact updateRow_other hclaimed hid

theorem round_idle_quarantine (hscope : ActiveScope cfg a cutover)
    (hinv : ProjectorInv stableHash asked cfg a cutover s)
    (now : DateTime) : quarantineLegacyExternalTasks s.db now none = s.db := by
  have hact : s.db.activation = a := by
    unfold TaskDb.activation
    rw [hinv.runtime]
    rfl
  refine quarantine_eq (by rw [hact]; exact hscope.mode) fun t ht => ?_
  rw [hact, hscope.cutover]
  exact (hinv.tasks.all t ht).era

theorem round_effect_inv (hscope : ActiveScope cfg a cutover)
    (hinv : ProjectorInv stableHash asked cfg a cutover s)
    (hgates : x.gates = {}) : RoundEffect py cfg s x (s.round py cfg x).1 (s.round py cfg x).2 :=
  round_effect hscope.active hgates hinv.tasks.table.ids
    (round_idle_quarantine hscope hinv x.claimedAt)

/-- **Every step keeps the invariant.** -/
theorem ProjectorInv.step (hscope : ActiveScope cfg a cutover) (hhash : HexHash stableHash asked)
    (hinv : ProjectorInv stableHash asked cfg a cutover s) {op : ProjectorOp}
    (hop : InEpoch asked cutover s op)
    (hstep : ProjectorStep py stableHash cfg s op s') :
    ProjectorInv stableHash asked cfg a cutover s' := by
  cases op with
  | request r =>
    obtain rfl : s' = (s.request stableHash cfg r).1 := hstep
    rcases request_effect hscope hhash hinv hop with ⟨-, row, hrow, hdb, hrow', hcase⟩ |
      ⟨-, tasks, task, -, hdb, hrow', htable, hmem, hunf, htask, -⟩
    · have hdesired := @savedRow_desired stableHash cfg (some row) r
      have hstatus : (savedRow stableHash cfg (some row) r).status = row.status :=
        savedRow_status (hcase.imp (·.1) (·.2.1))
      refine ⟨by rw [hdb]; exact hinv.runtime, by
        rw [hdb]; exact hinv.tasks, fun row1 h1 => ?_, fun row1 h1 hp => ?_⟩
      · obtain rfl := Option.some.inj (hrow'.symm.trans h1)
        refine ⟨?_, r.fields, hop.1, hdesired⟩
        rw [hstatus]
        exact (hinv.row row hrow).1
      · obtain rfl := Option.some.inj (hrow'.symm.trans h1)
        rw [hstatus] at hp
        rcases hcase with ⟨h, -⟩ | ⟨h, -⟩
        · rw [h] at hp
          cases hp
        · rw [h] at hp
          cases hp
    · have hdesired := @savedRow_desired stableHash cfg (s.row cfg) r
      refine ⟨by rw [hdb]; exact hinv.runtime, by
        rw [hdb]; exact htable, fun row1 h1 => ?_, fun row1 h1 _ => ?_⟩
      · obtain rfl := Option.some.inj (hrow'.symm.trans h1)
        exact ⟨by simp [DeviceStatusRow.markPending], r.fields, hop.1, hdesired⟩
      · obtain rfl := Option.some.inj (hrow'.symm.trans h1)
        rw [hdb]
        exact ⟨task, hmem, hunf, htask.trans hdesired.1.symm⟩
  | round x =>
    obtain rfl : s' = (s.round py cfg x).1 := hstep
    have heffect : RoundEffect py cfg s x (s.round py cfg x).1 (s.round py cfg x).2 :=
      round_effect_inv hscope hinv hop
    cases heffect with
    | idle hs _ _ =>
      rw [hs]
      exact hinv
    | passed u hu hc htask hpass hcall hrows hremote hruntime hends =>
      have hrow : (s.round py cfg x).1.row cfg = s.row cfg := by
        unfold Projector.row
        rw [hrows]
      refine ⟨hruntime.trans hinv.runtime, taskEnds_table hinv.tasks hends, fun row h => ?_,
        fun row h hp => ?_⟩
      · rw [hrow] at h
        exact hinv.row row h
      · rw [hrow] at h
        obtain ⟨t, ht, hunf, hth⟩ := hinv.pending row h hp
        -- the task of the stored hash is not the claimed one
        have hne : t.taskId ≠ u.taskId := by
          intro hid
          obtain rfl := eq_of_taskId hinv.tasks.table.ids ht hu hid
          refine hpass ⟨row, h, ?_, by rw [hp]; decide⟩
          rw [← hth, (hinv.tasks.all t ht).hash]
          rfl
        exact ⟨t, taskEnds_other ht hne hends, hunf, hth⟩
    | attempted u row row' fin hu hc htask hrow hhashu hdel hrow' hh hf hst hsent hruntime htasks =>
      have hkeep : ∀ row1, (s.round py cfg x).1.row cfg = some row1 → row1.status ≠ .shadowOnly ∧
          ∃ f, asked f ∧ row1.desiredHash = some (stableHash f) ∧ row1.desiredFields = f.json := by
        intro row1 h1
        obtain rfl := Option.some.inj (hrow'.symm.trans h1)
        obtain ⟨-, f, hfa, hf1, hf2⟩ := hinv.row row hrow
        refine ⟨?_, f, hfa, hh.trans hf1, hf.trans hf2⟩
        rw [hst]
        cases fin <;> decide
      by_cases hfin : fin = .retried
      · rw [if_pos hfin] at htasks
        refine ⟨hruntime.trans hinv.runtime, taskRetried_table hinv.tasks hu hc htasks, hkeep,
          fun row1 h1 _ => ?_⟩
        obtain rfl := Option.some.inj (hrow'.symm.trans h1)
        refine ⟨_, taskRetried_mem hu htasks, unfinished_iff.mpr (.inl rfl), ?_⟩
        show (x.claimed cfg u).payload.desiredHash = _
        rw [(claimed_payload cfg x u).1, hh, hhashu, (hinv.tasks.all u hu).hash]
        rfl
      · rw [if_neg hfin] at htasks
        refine ⟨hruntime.trans hinv.runtime, taskEnds_table hinv.tasks htasks, hkeep,
          fun row1 h1 hp => ?_⟩
        obtain rfl := Option.some.inj (hrow'.symm.trans h1)
        rw [hst] at hp
        cases fin <;> simp [AttemptEnd.status] at hp hfin

/-- Two dicts of one hash store the same cells. -/
theorem mem_json_of_hash (hhash : HexHash stableHash asked) {f g : DesiredFields} (hf : asked f)
    (hg : asked g) (h : stableHash f = stableHash g)
    {c : String × Json} (hc : c ∈ f.json) : c ∈ g.json := by
  obtain ⟨cell, hcell, rfl⟩ := List.mem_map.mp hc
  exact List.mem_map.mpr ⟨cell, (hhash.inj f g hf hg h cell).mp hcell, rfl⟩

/-- What was asked for shows once the cells that differ are stored. -/
theorem shows_of_stored {fields : DesiredFields} {before after : String → Json}
    (h : Stores py (changedCells py before fields) before after) {c : String × DeviceCell}
    (hc : c ∈ fields.cells) : sameCell py (after c.1) c.2.json = true := by
  by_cases hsame : sameCell py (before c.1) c.2.json = true
  · have hkey : c.1 ∉ (changedCells py before fields).map (·.1) := by
      intro hmem
      obtain ⟨d, hd, hdc⟩ := List.mem_map.mp hmem
      obtain ⟨hdm, hdiff⟩ := List.mem_filter.mp hd
      obtain rfl := List.inj_on_of_nodup_map fields.nodup hdm hc hdc
      simp [hsame] at hdiff
    rw [h.2 c.1 hkey]
    exact hsame
  · exact h.1 c (List.mem_filter.mpr ⟨hc, by simp [hsame]⟩)

/-- A step of a remote table that stores what it is sent keeps the agreement. -/
theorem Agrees.step (hscope : ActiveScope cfg a cutover) (hhash : HexHash stableHash asked)
    (hinv : ProjectorInv stableHash asked cfg a cutover s) (hagrees : Agrees py cfg s)
    {op : ProjectorOp}
    (hop : InEpoch asked cutover s op) (hremote : RemoteStores py cfg s op)
    (hstep : ProjectorStep py stableHash cfg s op s') : Agrees py cfg s' := by
  intro row1 h1 hst1 c hc
  cases op with
  | request r =>
    obtain rfl : s' = (s.request stableHash cfg r).1 := hstep
    rcases request_effect hscope hhash hinv hop with ⟨hsame, row, hrow, -, hrow', hcase⟩ |
      ⟨-, tasks, task, -, -, hrow', -⟩
    · obtain rfl := Option.some.inj (hrow'.symm.trans h1)
      rw [savedRow_status (hcase.imp (·.1) (·.2.1))] at hst1
      rcases hcase with ⟨hdel, -⟩ | ⟨-, hh, -⟩
      · rw [hdel] at hst1
        cases hst1
      · obtain ⟨-, f, hfa, hf1, hf2⟩ := hinv.row row hrow
        rw [hsame]
        apply hagrees row hrow hst1
        rw [hf2]
        rw [(savedRow_desired (some row) r).2] at hc
        exact mem_json_of_hash hhash hop.1 hfa (Option.some.inj (hh.symm.trans hf1)) hc
    · obtain rfl := Option.some.inj (hrow'.symm.trans h1)
      cases hst1
  | round x =>
    obtain rfl : s' = (s.round py cfg x).1 := hstep
    have heffect : RoundEffect py cfg s x (s.round py cfg x).1 (s.round py cfg x).2 :=
      round_effect_inv hscope hinv hop
    cases heffect with
    | idle hs _ _ =>
      rw [hs] at h1 ⊢
      exact hagrees row1 h1 hst1 c hc
    | passed u hu hcl htask hpass hcall hrows hsame hruntime hends =>
      have hrow : (s.round py cfg x).1.row cfg = s.row cfg := by
        unfold Projector.row
        rw [hrows]
      rw [hrow] at h1
      rw [hsame]
      exact hagrees row1 h1 hst1 c hc
    | attempted u row row' fin hu hcl htask hrow hhashu hdel hrow' hh hf hst hsent hruntime htasks =>
      obtain rfl := Option.some.inj (hrow'.symm.trans h1)
      have hfin : fin = .succeeded := by
        rw [hst] at hst1
        cases fin <;> simp [AttemptEnd.status] at hst1 ⊢
      obtain ⟨-, f, hfa, hf1, hf2⟩ := hinv.row row hrow
      have hshash : stableHash f = stableHash u.payload.desiredFields := by
        rw [(hinv.tasks.all u hu).hash, hf1] at hhashu
        exact Option.some.inj hhashu
      rw [hf, hf2] at hc
      obtain ⟨cell, hcell, rfl⟩ :=
        List.mem_map.mp (mem_json_of_hash hhash hfa (hinv.tasks.all u hu).fields hshash hc)
      show sameCell py ((s.round py cfg x).1.remote.fields cell.1) cell.2.json = true
      rcases hsent with ⟨-, hremote', hnil⟩ | ⟨hcall, hremote', hstored⟩
      · rw [hremote']
        by_contra hdiff
        have hmem : cell ∈ changedCells py s.remote.fields u.payload.desiredFields :=
          List.mem_filter.mpr ⟨hcell, by simp [hdiff]⟩
        rw [hnil hfin] at hmem
        cases hmem
      · rw [hremote', if_pos (hstored hfin)]
        exact shows_of_stored (hremote _ hcall (hstored hfin)) hcell

/-! ### Runs -/

/-- An update is sent for the task of the stored hash, with cells that differ. -/
theorem update_differs (hscope : ActiveScope cfg a cutover)
    (hinv : ProjectorInv stableHash asked cfg a cutover s)
    (hgates : x.gates = {}) {call : UpdateCall} (hcall : (s.round py cfg x).2.call = some call) :
    ∃ task row, (s.round py cfg x).2.task = some task ∧ s.row cfg = some row ∧
      task.payload.desiredHash = row.desiredHash ∧
      ∀ c ∈ call.cells, c ∈ task.payload.desiredFields.cells ∧
        sameCell py (s.remote.fields c.1) c.2.json = false := by
  have heffect : RoundEffect py cfg s x (s.round py cfg x).1 (s.round py cfg x).2 :=
    round_effect_inv hscope hinv hgates
  cases heffect with
  | idle _ _ hnone =>
    rw [hnone] at hcall
    cases hcall
  | passed u hu hcl htask hpass hnone hrows hsame hruntime hends =>
    rw [hnone] at hcall
    cases hcall
  | attempted u row row' fin hu hcl htask hrow hhashu hdel hrow' hh hf hst hsent hruntime htasks =>
    refine ⟨_, row, htask, hrow, ?_, fun c hc => ?_⟩
    · rw [(claimed_payload cfg x u).1, hhashu, (hinv.tasks.all u hu).hash]
      rfl
    · rcases hsent with ⟨hnone, -⟩ | ⟨hsome, -⟩
      · rw [hnone] at hcall
        cases hcall
      · rw [hsome] at hcall
        obtain rfl := Option.some.inj hcall
        obtain ⟨hmem, hdiff⟩ := List.mem_filter.mp hc
        rw [(claimed_payload cfg x u).1]
        exact ⟨hmem, by simpa using hdiff⟩

/-- A deleted record is left by a forced request alone. -/
theorem deleted_left (hscope : ActiveScope cfg a cutover) (hhash : HexHash stableHash asked)
    (hinv : ProjectorInv stableHash asked cfg a cutover s) {op : ProjectorOp}
    (hop : InEpoch asked cutover s op)
    (hstep : ProjectorStep py stableHash cfg s op s') {row : DeviceStatusRow Json}
    (hrow : s.row cfg = some row)
    (hdel : row.status = .remoteRecordDeleted) :
    (∃ row', s'.row cfg = some row' ∧ row'.status = .remoteRecordDeleted) ∨
      ∃ r, op = .request r ∧ r.force = true := by
  cases op with
  | request r =>
    obtain rfl : s' = (s.request stableHash cfg r).1 := hstep
    rcases request_effect hscope hhash hinv hop with ⟨-, row0, hrow0, -, hrow', -⟩ |
      ⟨-, tasks, task, -, -, -, -, -, -, -, hforce⟩
    · left
      obtain rfl := Option.some.inj (hrow.symm.trans hrow0)
      exact ⟨_, hrow', (savedRow_status (.inl hdel)).trans hdel⟩
    · exact .inr ⟨r, rfl, hforce ⟨row, hrow, hdel⟩⟩
  | round x =>
    obtain rfl : s' = (s.round py cfg x).1 := hstep
    left
    have heffect : RoundEffect py cfg s x (s.round py cfg x).1 (s.round py cfg x).2 :=
      round_effect_inv hscope hinv hop
    cases heffect with
    | idle hs _ _ =>
      rw [hs]
      exact ⟨row, hrow, hdel⟩
    | passed u hu hcl htask hpass hcall hrows hsame hruntime hends =>
      refine ⟨row, ?_, hdel⟩
      unfold Projector.row
      rw [hrows]
      exact hrow
    | attempted u row0 row' fin hu hcl htask hrow0 hhashu hdel0 =>
      obtain rfl := Option.some.inj (hrow.symm.trans hrow0)
      exact absurd hdel hdel0

end Steps

/-- A device that was never projected. -/
def Projector.fresh (a : RuntimeActivation) (remote : RemoteRow) : Projector :=
  { db := { runtime := some a }, remote }

theorem projectorInv_fresh {stableHash : DesiredFields → String} {asked : DesiredFields → Prop}
    {cfg : ProjectorConfig} {a : RuntimeActivation} {cutover : DateTime} {remote : RemoteRow} :
    ProjectorInv stableHash asked cfg a cutover (.fresh a remote) := by
  have hrow : (Projector.fresh a remote).row cfg = none := rfl
  refine ⟨rfl, ⟨⟨List.nodup_nil, List.nodup_nil⟩, fun t ht => absurd ht List.not_mem_nil⟩,
    fun row h => ?_, fun row h => ?_⟩
  · rw [hrow] at h
    cases h
  · rw [hrow] at h
    cases h

/-- **The projection of a device converges.** -/
theorem projection_converges {py : PyText} {stableHash : DesiredFields → String}
    {asked : DesiredFields → Prop}
    {cfg : ProjectorConfig} {a : RuntimeActivation} {cutover : DateTime}
    (hscope : ActiveScope cfg a cutover) (hhash : HexHash stableHash asked)
    {remote : RemoteRow} {ops : List ProjectorOp} {s : Projector}
    (hrun : Run (Guarded (InEpoch asked cutover) (ProjectorStep py stableHash cfg))
      (.fresh a remote) ops s) :
    -- an update is sent for the task of the stored hash alone, with cells that differ
    (∀ x : StatusRound, x.gates = {} → ∀ call, (s.round py cfg x).2.call = some call → ∃ task row,
      (s.round py cfg x).2.task = some task ∧ s.row cfg = some row ∧
        task.payload.desiredHash = row.desiredHash ∧
      ∀ c ∈ call.cells, c ∈ task.payload.desiredFields.cells ∧
        sameCell py (s.remote.fields c.1) c.2.json = false) ∧
    -- a pending row has an unfinished task of its hash
    (∀ row, s.row cfg = some row → row.status = .pending →
      ∃ t ∈ s.db.tasks, t.unfinished = true ∧ t.payload.desiredHash = row.desiredHash) ∧
    -- a row that succeeded shows in the remote one
    (Run (Guarded (fun s op => InEpoch asked cutover s op ∧ RemoteStores py cfg s op)
      (ProjectorStep py stableHash cfg))
        (.fresh a remote) ops s →
      ∀ row, s.row cfg = some row → row.status = .succeeded →
        ∀ c ∈ row.desiredFields, sameCell py (s.remote.fields c.1) c.2 = true) ∧
    -- a deleted record is left by a forced request alone
    (∀ row, s.row cfg = some row → row.status = .remoteRecordDeleted →
      ∀ op s', InEpoch asked cutover s op →
      ProjectorStep py stableHash cfg s op s' →
      (∃ row', s'.row cfg = some row' ∧ row'.status = .remoteRecordDeleted) ∨ ∃ r, op = .request r ∧
        r.force = true) := by
  have hinv : ProjectorInv stableHash asked cfg a cutover s :=
    hrun.inv projectorInv_fresh fun _ _ _ hi hs => hi.step hscope hhash hs.1 hs.2
  refine ⟨fun x hx call hcall =>
      update_differs hscope hinv hx hcall, hinv.pending, fun hstores => ?_,
    fun row hrow hdel op s' hop hstep => deleted_left hscope hhash hinv hop hstep hrow hdel⟩
  have hboth : ProjectorInv stableHash asked cfg a cutover s ∧ Agrees py cfg s := by
    refine hstores.inv (I := fun s => ProjectorInv stableHash asked cfg a cutover s ∧
        Agrees py cfg s) ⟨projectorInv_fresh, fun row h => ?_⟩ fun _ _ _ hi hs =>
      ⟨hi.1.step hscope hhash hs.1.1 hs.2, hi.2.step hscope hhash hi.1 hs.1.1 hs.1.2 hs.2⟩
    have hrow : (Projector.fresh a remote).row cfg = none := rfl
    rw [hrow] at h
    cases h
  exact hboth.2

/-! ### A first projection -/

section First

/-- `str` and `repr` of no value are asked for. -/
def plainText : PyText := ⟨fun _ => "", fun _ => ""⟩

def firstConfig : ProjectorConfig := { deviceId := "TH-01", activeDeviceIds := ["TH-01"] }

def firstActivation : RuntimeActivation :=
  { mode := "active", activeEpoch := some "e1", activeCutoverAt := some (.utc 0) }

/-- A digest in place of the fields' own. -/
def firstDigest : String := "5f2c8e0d47b19a36c0f4d21b7e8a95530c6fd1e2479ab38c5d0e6f7142b9a8d3"

def firstFields : DesiredFields := { cells := [("警报状态", .text "预警"), ("当前工艺", .empty)] }

def firstRequest : StatusRequest := { fields := firstFields, now := .utc 1000000, newId := "t1" }

def firstRound : StatusRound :=
  { claimedAt := .utc 2000000, now := .utc 2000000, finishedAt := .utc 3000000
    after := fun key => if key = "警报状态" then .text "预警" else .null }

def firstStart : Projector :=
  .fresh firstActivation { recordId := "rec1", fields := fun _ => .null }

/-- The request stores the fields, the round sends the one cell that differs. -/
def firstEnd : Projector :=
  ((firstStart.request (fun _ => firstDigest) firstConfig firstRequest).1.round plainText
    firstConfig firstRound).1

theorem firstRound_call :
    ((firstStart.request (fun _ => firstDigest) firstConfig firstRequest).1.round
      plainText firstConfig
    firstRound).2.call = some ⟨"rec1", [("警报状态", .text "预警")]⟩ := by
  decide +kernel

theorem firstConfig_scope : ActiveScope firstConfig firstActivation (.utc 0) :=
  ⟨by decide, by decide, rfl, rfl⟩

theorem firstHash_hex : HexHash (fun _ => firstDigest) (· = firstFields) := by
  refine ⟨fun _ => by decide, fun f g hf hg _ => ?_⟩
  rw [hf, hg]
  exact fun _ => Iff.rfl

theorem firstRequest_inEpoch :
    InEpoch (· = firstFields) (.utc 0) firstStart (.request firstRequest) :=
  ⟨rfl, by decide +kernel, fun t ht => absurd ht List.not_mem_nil⟩

theorem projection_converges_first : (firstEnd.row firstConfig).map (·.status) = some .succeeded ∧
    ∀ row, firstEnd.row firstConfig = some row → row.status = .succeeded →
      ∀ c ∈ row.desiredFields, sameCell plainText (firstEnd.remote.fields c.1) c.2 = true := by
  have hremote :
      RemoteStores plainText firstConfig
      (firstStart.request (fun _ => firstDigest) firstConfig firstRequest).1
      (.round firstRound) := by
    intro call hcall _
    obtain rfl := Option.some.inj (firstRound_call.symm.trans hcall)
    refine ⟨by decide +kernel, fun key hkey => ?_⟩
    have hne : key ≠ "警报状态" :=
      fun h => hkey (List.mem_map.mpr ⟨_, List.mem_singleton_self _, h.symm⟩)
    have hsame : (firstStart.request (fun _ => firstDigest) firstConfig firstRequest).1.remote =
        firstStart.remote :=
      Projector.request_remote
    rw [hsame]
    exact if_neg hne
  have hrun :
      Run (Guarded (InEpoch (· = firstFields) (.utc 0))
      (ProjectorStep plainText (fun _ => firstDigest) firstConfig))
      firstStart [.request firstRequest, .round firstRound] firstEnd :=
        .cons ⟨firstRequest_inEpoch, rfl⟩ (.one ⟨rfl, rfl⟩)
  exact ⟨by decide +kernel, (projection_converges firstConfig_scope firstHash_hex hrun).2.2.1
    (.cons ⟨⟨firstRequest_inEpoch, trivial⟩, rfl⟩ (.one ⟨⟨rfl, hremote⟩, rfl⟩))⟩

end First

end TemperatureMonitor
