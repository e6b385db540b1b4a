/-
# One lease for a task

The status, the lease and the worker of a row are a lease in the sense of
`Library/Lease`: every call moves it by a lease move (`leaseView`). So two
claims of a task are an expiry or a reschedule apart, a finish takes effect
only under the worker's unexpired lease, and a claim is ended at most once,
for all interleavings of calls and of the two transactions of a claim.

The store compares texts where a claim or a recovery looks at a lease, and
instants where a finish does: the two agree for datetimes of one offset.
-/
import TemperatureMonitor.Store.QueueRows

namespace TemperatureMonitor

/-- Written at one offset from UTC, in the years of `datetime`. -/
def InZone (offset : ℤ) (d : DateTime) : Prop := d.offset = offset ∧ d.Supported

instance (offset : ℤ) (d : DateTime) : Decidable (InZone offset d) := by
  unfold InZone
  infer_instance

theorem InZone.le_iff {o : ℤ} {d e : DateTime} (hd : InZone o d) (he : InZone o e) :
    d.isoformat ≤ e.isoformat ↔ d.instant ≤ e.instant :=
  DateTime.isoformat_le_iff (hd.1.trans he.1.symm) hd.2 he.2

/-! ### The lease of a row -/

/-- A pending row is free, a running one held, any other closed. -/
def AutomationTask.lease (t : AutomationTask) : Lease String ℤ :=
  match t.status with
  | .pending => .free
  | .running => .held (t.workerId.getD "") (t.leaseUntil.elim 0 (·.instant))
  | _ => .closed

/-- A running row has a worker and a lease. -/
def AutomationTask.Leased (offset : ℤ) (t : AutomationTask) : Prop :=
  t.status = .running → t.workerId.isSome = true ∧ ∃ u, t.leaseUntil = some u ∧ InZone offset u

section Row

variable {o : ℤ} {op : QueueOp} {out : List AutomationTask} {t t' : AutomationTask}

theorem lease_pending (h : t.status = .pending) : t.lease = .free := by
  unfold AutomationTask.lease
  rw [h]

theorem lease_running {u : DateTime} (h : t.status = .running) (hu : t.leaseUntil = some u) :
    t.lease = .held (t.workerId.getD "") u.instant := by
  unfold AutomationTask.lease
  rw [h, hu]
  rfl

theorem lease_closed (h : t.unfinished = false) : t.lease = .closed := by
  unfold AutomationTask.lease
  unfold AutomationTask.unfinished at h
  cases hs : t.status <;> simp [hs] at h ⊢

theorem SameSlot.lease (h : SameSlot t t') : t'.lease = t.lease := by
  unfold AutomationTask.lease
  rw [h.status, h.leaseUntil, h.workerId]

theorem SameSlot.leased (h : SameSlot t t') (ht : t.Leased o) : t'.Leased o := by
  unfold AutomationTask.Leased
  rw [h.status, h.leaseUntil, h.workerId]
  exact ht

/-- A status other than running leaves nothing to show. -/
theorem leased_of_ne (h : t.status ≠ .running) : t.Leased o := fun hr => absurd hr h

theorem claimRow_eq {c : ClaimCall} (h : claimable c.now t = true) :
    claimRow c.workerId c.now c.leaseUntil t =
    { t with status := .running, startedAt := t.startedAt <|> some c.now, leaseUntil := some c.leaseUntil,
             workerId := some c.workerId, updatedAt := c.now, attemptCount :=
               t.attemptCount + 1 } :=
  if_pos (by simpa [claimable] using h)

theorem finishRow_eq {error : Option String} {finishedAt : DateTime} (hr : t.status = .running)
    (hu : ∀ u ∈ t.leaseUntil, finishedAt.instant < u.instant) : finishRow error finishedAt t =
      { t with status := if error.isSome then .failed else .succeeded, updatedAt := finishedAt
               finishedAt := some finishedAt, leaseUntil := none, workerId := none, lastError :=
                 error } := by
  refine if_pos ⟨hr, fun hany => ?_⟩
  obtain ⟨u, hmem, hle⟩ := Option.any_eq_true _ _ |>.mp hany
  have hlt := hu u hmem
  simp only [decide_eq_true_eq] at hle
  omega

theorem quarantineRow_eq {now : DateTime} {reason : String} (he : isExternal t = true)
    (hu : t.unfinished = true) : quarantineRow now reason t =
      { t with status := .legacyPending, updatedAt := now, lastError := t.lastError <|> some reason
               leaseUntil := none, workerId := none } := if_pos ⟨he, hu⟩

/-! ### What a move keeps -/

theorem RowMove.origin (h : RowMove op out t t') : t'.origin = t.origin := by
  cases h with
  | same hs => exact hs.origin
  | claimed c _ hc _ he => rw [he, claimRow_eq hc]; rfl
  | finished error at_ w _ hr _ hu he => rw [he, finishRow_eq hr hu]; rfl
  | rescheduled task due upd payload _ _ _ _ he => rw [he]; rfl
  | cancelled at_ _ hs => exact hs.origin
  | requeued now stale _ _ he => rw [he]; rfl
  | quarantined now reason hx hu he => rw [he, quarantineRow_eq hx hu]; rfl

theorem RowMove.taskId (h : RowMove op out t t') : t'.taskId = t.taskId :=
  congrArg TaskOrigin.taskId h.origin

/-- A row that is not unfinished keeps its status. -/
theorem RowMove.terminal (h : RowMove op out t t') (ht : t.unfinished = false) :
    t'.status = t.status := by
  have hne : t.status ≠ .pending ∧ t.status ≠ .running := by
    rw [← not_or, ← unfinished_iff, ht]
    decide
  cases h with
  | same hs => exact hs.status
  | claimed c _ hc => simp [claimable, hne] at hc
  | finished error at_ w _ hr => exact absurd hr hne.2
  | rescheduled task due upd payload _ _ hr => exact absurd hr hne.2
  | cancelled at_ hu => rw [ht] at hu; cases hu
  | requeued now stale _ hr => simp [isRecoverable, hne] at hr
  | quarantined now reason _ hu => rw [ht] at hu; cases hu

theorem RowMove.leased (h : RowMove op out t t')
    (hz : ∀ c, op = .claimDue c ∨ op = .claimTransaction c →
    InZone o c.leaseUntil) (ht : t.Leased o) : t'.Leased o := by
  cases h with
  | same hs => exact hs.leased ht
  | claimed c hop hc _ he =>
    rw [he, claimRow_eq hc]
    exact fun _ => ⟨rfl, _, rfl, hz c hop⟩
  | finished error at_ w _ hr _ hu he =>
    rw [he, finishRow_eq hr hu]
    refine leased_of_ne ?_
    show (if error.isSome = true then AutomationTaskStatus.failed else .succeeded) ≠ .running
    split_ifs <;> decide
  | rescheduled task due upd payload _ _ _ _ he =>
    rw [he]
    exact leased_of_ne (by simp)
  | cancelled at_ _ hs => exact hs.leased (leased_of_ne (by simp [cancelRow]))
  | requeued now stale _ _ he =>
    rw [he]
    exact leased_of_ne (by simp [requeueRow])
  | quarantined now reason hx hu he =>
    rw [he, quarantineRow_eq hx hu]
    exact leased_of_ne (by simp)

/-- **A move of a row is a lease move.** -/
theorem RowMove.lease (h : RowMove op out t t') (hz : InZone o op.time) (ht : t.Leased o) :
    LeaseMove op.time.instant (op.event t.taskId out) t.lease t'.lease := by
  cases h with
  | same hs hq =>
    rw [hs.lease, hq]
    exact .stay _
  | claimed c hop hc hmem he =>
    have hid : t'.taskId = t.taskId := by rw [he, claimRow_eq hc]
    have hany : out.any (·.taskId = t.taskId) = true :=
      List.any_eq_true.mpr ⟨t', hmem, by simp [hid]⟩
    have hevent : op.event t.taskId out = some (.taken c.workerId c.leaseUntil.instant) ∧
        op.time = c.now := by
      rcases hop with rfl | rfl <;> exact ⟨if_pos hany, rfl⟩
    have hlease : t'.lease = .held c.workerId c.leaseUntil.instant := by
      rw [he, claimRow_eq hc]
      rfl
    rw [hevent.1, hlease]
    simp only [claimable, decide_eq_true_eq] at hc
    rcases hc with ⟨hp, -⟩ | ⟨hr, hle⟩
    · rw [lease_pending hp]
      exact .take _ _
    · obtain ⟨-, u, hu, hzu⟩ := ht hr
      rw [lease_running hr hu]
      rw [hu] at hle
      rw [hevent.2] at hz ⊢
      exact .takeOver _ _ _ _ ((hzu.le_iff hz).mp (by simpa using hle))
  | finished error at_ w hop hr hw hu he =>
    obtain ⟨hsome, u, hlease, -⟩ := ht hr
    have hclosed : t'.lease = .closed := by
      rw [he, finishRow_eq hr hu]
      refine lease_closed ?_
      show decide _ = false
      cases error <;> simp
    rw [hclosed, hop, lease_running hr hlease]
    have hevent : (QueueOp.finish t.taskId error at_ w).event t.taskId out = some (.finished w) :=
      if_pos rfl
    rw [hevent]
    refine .finish _ w _ (fun v hv => ?_) (hu u hlease)
    rw [hw (by rw [hv]; rfl), hv]
    rfl
  | rescheduled task due upd payload hop hid hr hw he =>
    obtain ⟨-, u, hlease, -⟩ := ht hr
    have hevent : op.event t.taskId out = some (.released (t.workerId.getD "")) := by
      rw [hop, hw]
      exact if_pos hid
    have hfree : t'.lease = .free := by
      rw [he]
      exact lease_pending rfl
    rw [hevent, hfree, lease_running hr hlease]
    exact .release _ _
  | cancelled at_ _ hs hq =>
    have hclosed : t'.lease = .closed := by
      rw [hs.lease]
      exact lease_closed rfl
    rw [hq, hclosed]
    exact .withdraw _
  | requeued now stale hop hrec he =>
    have hfree : t'.lease = .free := by
      rw [he]
      exact lease_pending rfl
    rw [hop] at hz ⊢
    rw [hfree]
    simp only [isRecoverable, Bool.or_eq_true, Bool.and_eq_true, decide_eq_true_eq] at hrec
    rcases hrec with ⟨hr, hle⟩ | ⟨hp, -⟩
    · obtain ⟨-, u, hu, hzu⟩ := ht hr
      have hnow : InZone o now := hz
      rw [lease_running hr hu]
      rw [hu] at hle
      exact .expire _ _ ((hzu.le_iff hnow).mp (by simpa using hle))
    · rw [lease_pending hp]
      exact .stay _
  | quarantined now reason hx hu he hq =>
    have hclosed : t'.lease = .closed := by
      rw [he, quarantineRow_eq hx hu]
      exact lease_closed rfl
    rw [hq, hclosed]
    exact .withdraw _

end Row

/-! ### The table -/

/-- Ids are the primary key, and running rows are leased. -/
structure TaskDb.Leases (offset : ℤ) (db : TaskDb) : Prop where
  ids : (db.tasks.map (·.taskId)).Nodup
  leased : ∀ t ∈ db.tasks, t.Leased offset

/-- The lease of an id; a task that is not there yet is free. -/
def TaskDb.lease (taskId : String) (db : TaskDb) : Lease String ℤ :=
  (byId db.tasks taskId).elim .free AutomationTask.lease

/-- The datetimes of a call that leases are compared with. -/
def QueueOp.times (op : QueueOp) : List DateTime :=
  op.time :: match op with
    | claimDue c | claimTransaction c => [c.leaseUntil]
    | _ => []

/-- The call is made in the zone, and a row it inserts has a fresh id. -/
structure QueueOp.Fits (offset : ℤ) (db : TaskDb) (op : QueueOp) : Prop where
  zone : ∀ d ∈ op.times, InZone offset d
  fresh : ∀ row ∈ op.created db.activation, ∀ t ∈ db.tasks, t.taskId ≠ row.taskId

/-- The calls of a run, as a guard of its steps. -/
def CallFits (offset : ℤ) (db : TaskDb) (l : QueueCall) : Prop := l.op.Fits offset db

def QueueCall.event (taskId : String) (l : QueueCall) : Option (LeaseEvent String ℤ) :=
  l.out.bind fun out => l.op.event taskId out

def QueueCall.time (l : QueueCall) : ℤ := l.op.time.instant

section Table

variable {o : ℤ} {db db' : TaskDb} {op : QueueOp} {out : List AutomationTask} {taskId : String}

theorem created_row {a : RuntimeActivation} {row : AutomationTask} (h : op.created a = some row) :
    row.status = .pending := by
  cases op with
  | createOrGet newId spec => cases h; rfl
  | createOrGetUnfinished newId spec key => cases h; rfl
  | _ => cases h

/-- Ids stay the primary key. -/
theorem QueueOp.nodup_ids (hids : (db.tasks.map (·.taskId)).Nodup)
    (hfresh : ∀ row ∈ op.created db.activation, ∀ t ∈ db.tasks, t.taskId ≠ row.taskId)
    (h : op.apply db = .ok (db', out)) : (db'.tasks.map (·.taskId)).Nodup := by
  obtain ⟨rows, new, htasks, hrows, hnew⟩ := op.rows hids h
  have hsame : rows.map (·.taskId) = db.tasks.map (·.taskId) :=
    forall₂_ids (fun _ _ h => h.taskId) hrows
  rw [htasks, List.map_append, hsame]
  rcases hnew with rfl | ⟨row, hrow, rfl⟩
  · rw [List.map_nil, List.append_nil]
    exact hids
  · refine List.nodup_append.mpr ⟨hids, List.nodup_singleton _, fun a ha b hb => ?_⟩
    obtain ⟨t, ht, rfl⟩ := List.mem_map.mp ha
    obtain rfl := List.mem_singleton.mp hb
    exact hfresh row hrow t ht

/-- The rows after a call: those before it, moved, and the one it inserts. -/
theorem QueueOp.mem_cases (hids : (db.tasks.map (·.taskId)).Nodup)
    (h : op.apply db = .ok (db', out)) {t' : AutomationTask} (ht' : t' ∈ db'.tasks) :
    (∃ t ∈ db.tasks, RowMove op out t t') ∨ op.created db.activation = some t' := by
  obtain ⟨rows, new, htasks, hrows, hnew⟩ := op.rows hids h
  rw [htasks] at ht'
  rcases List.mem_append.mp ht' with ht' | ht'
  · exact .inl (forall₂_mem_right hrows ht')
  · rcases hnew with rfl | ⟨row, hrow, rfl⟩
    · cases ht'
    · rw [List.mem_singleton.mp ht']
      exact .inr hrow

/-- A row stays, moved. -/
theorem QueueOp.mem_moved (hids : (db.tasks.map (·.taskId)).Nodup)
    (h : op.apply db = .ok (db', out))
    {t : AutomationTask} (ht : t ∈ db.tasks) : ∃ t' ∈ db'.tasks, RowMove op out t t' := by
  obtain ⟨rows, new, htasks, hrows, -⟩ := op.rows hids h
  obtain ⟨t', ht', hmove⟩ := forall₂_mem_left hrows ht
  exact ⟨t', by rw [htasks]; exact List.mem_append_left _ ht', hmove⟩

/-- A call keeps the table. -/
theorem TaskDb.Leases.apply (hdb : db.Leases o) (hf : op.Fits o db)
    (h : op.apply db = .ok (db', out)) : db'.Leases o := by
  refine ⟨op.nodup_ids hdb.ids hf.fresh h, fun t' ht' => ?_⟩
  rcases op.mem_cases hdb.ids h ht' with ⟨t, ht, hmove⟩ | hrow
  · refine hmove.leased (fun c hop => hf.zone _ ?_) (hdb.leased t ht)
    rcases hop with rfl | rfl <;> simp [QueueOp.times]
  · exact leased_of_ne (by rw [created_row hrow]; decide)

/-- Rows by id, before and after a call. -/
theorem QueueOp.byId_cases (hdb : db.Leases o) (hdb' : db'.Leases o)
    (h : op.apply db = .ok (db', out)) (taskId : String) :
    (∃ t t', byId db.tasks taskId = some t ∧ byId db'.tasks taskId = some t' ∧
      RowMove op out t t') ∨
      byId db.tasks taskId = none ∧ ∀ t' ∈ db'.tasks, t'.taskId = taskId →
        op.created db.activation = some t' := by
  cases hb : byId db.tasks taskId with
  | some t =>
    obtain ⟨hmem, hid⟩ := byId_mem hb
    obtain ⟨t', ht', hmove⟩ := op.mem_moved hdb.ids h hmem
    refine .inl ⟨t, t', rfl, ?_, hmove⟩
    rw [← hid, ← hmove.taskId]
    exact byId_of_mem hdb'.ids ht'
  | none =>
    refine .inr ⟨rfl, fun t' ht' hid => ?_⟩
    rcases op.mem_cases hdb.ids h ht' with ⟨t, ht, hmove⟩ | hrow
    · have := List.find?_eq_none.mp hb t ht
      simp [hmove.taskId.symm.trans hid] at this
    · exact hrow

/-- What a call shows is of a task that is there. -/
theorem QueueOp.event_present (h : op.apply db = .ok (db', out))
    (hnone : byId db.tasks taskId = none) : op.event taskId out = none := by
  have hno : ∀ t ∈ db.tasks, t.taskId ≠ taskId :=
    fun t ht => by simpa using List.find?_eq_none.mp hnone t ht
  have hclaimed {tasks : List AutomationTask} {c : ClaimCall}
      (hids : tasks.map (·.taskId) = db.tasks.map (·.taskId)) :
      ∀ u ∈ (TemperatureMonitor.claimTransaction tasks c).2, u.taskId ≠ taskId := by
    intro u hu hid
    obtain ⟨id, hmem, hfound⟩ := List.mem_filterMap.mp hu
    obtain ⟨hin, huid⟩ := byId_mem hfound
    obtain ⟨t, ht, rfl⟩ := List.mem_map.mp hin
    have : t.taskId ∈ db.tasks.map (·.taskId) := hids ▸ List.mem_map_of_mem ht
    obtain ⟨v, hv, hvid⟩ := List.mem_map.mp this
    refine hno v hv (hvid.trans (Eq.trans ?_ hid))
    split_ifs
    · rw [claimRow_taskId]
    · rfl
  cases op with
  | claimDue c =>
    simp only [QueueOp.apply, TemperatureMonitor.claimDue] at h
    split at h
    · cases h
    cases h
    refine (claimEvent_none (hclaimed ?_)).1
    refine forall₂_ids (fun t t' ht => ?_) (quarantine_rows db c.now none)
    rcases ht with rfl | ⟨hx, hu, reason, rfl⟩
    · rfl
    · rw [quarantineRow_eq hx hu]
  | claimTransaction c =>
    obtain ⟨-, -, he⟩ := map_ok h
    cases he
    exact (claimEvent_none (hclaimed rfl)).2
  | finish id error at_ w =>
    obtain ⟨tasks, hr, he⟩ := map_ok h
    unfold finishTask at hr
    refine if_neg fun hid => ?_
    rw [hid, hnone] at hr
    cases hr
  | reschedule task due upd payload =>
    obtain ⟨tasks, hr, he⟩ := map_ok h
    unfold rescheduleRunning at hr
    split_ifs at hr with hany
    obtain ⟨u, hu, hrow⟩ := List.any_eq_true.mp hany
    simp only [Bool.and_eq_true, decide_eq_true_eq] at hrow
    exact if_neg fun hid => hno u hu (hrow.1.1.1.trans hid)
  | _ => rfl

/-- Each call is a lease move of each task. -/
theorem QueueOp.leaseMove (hdb : db.Leases o) (hf : op.Fits o db) (h : op.apply db = .ok (db', out))
    (taskId : String) :
    LeaseMove op.time.instant (op.event taskId out) (db.lease taskId) (db'.lease taskId) := by
  unfold TaskDb.lease
  rcases op.byId_cases hdb (hdb.apply hf h) h taskId with ⟨t, t', ht, ht', hmove⟩ | ⟨hnone, hnew⟩
  · rw [ht, ht']
    have hm := hmove.lease (hf.zone _ (by simp [QueueOp.times])) (hdb.leased t (byId_mem ht).1)
    rw [(byId_mem ht).2] at hm
    exact hm
  · rw [hnone, op.event_present h hnone]
    cases hb : byId db'.tasks taskId with
    | none => exact .stay _
    | some t' =>
      obtain ⟨hmem, hid⟩ := byId_mem hb
      show LeaseMove _ none .free t'.lease
      rw [lease_pending (created_row (hnew t' hmem hid))]
      exact .stay _

end Table

/-! ### Runs -/

/-- The steps of a run that fits, from a leased table. -/
abbrev LeaseStep (offset : ℤ) : TaskDb → QueueCall → TaskDb → Prop :=
  Guarded (fun db l => db.Leases offset ∧ CallFits offset db l) QueueStep

/-- **The queue keeps a lease for each task.** -/
def leaseView (offset : ℤ) (taskId : String) : LeaseView (LeaseStep offset) String ℤ where
  lease := TaskDb.lease taskId
  event := QueueCall.event taskId
  time := QueueCall.time
  move := fun db l db' h => by
    obtain ⟨⟨hdb, hfits⟩, hstep⟩ := h
    unfold QueueStep at hstep
    unfold QueueCall.event
    cases hout : l.out with
    | none =>
      rw [hout] at hstep
      rw [hstep.1]
      exact .stay _
    | some out =>
      rw [hout] at hstep
      exact l.op.leaseMove hdb hfits hstep taskId

section Runs

variable {o : ℤ} {db db' : TaskDb} {l : QueueCall} {ls : List QueueCall}

theorem TaskDb.Leases.step (hdb : db.Leases o) (h : Guarded (CallFits o) QueueStep db l db') :
    db'.Leases o := by
  obtain ⟨hfits, hstep⟩ := h
  unfold QueueStep at hstep
  cases hout : l.out with
  | none =>
    rw [hout] at hstep
    rw [hstep.1]
    exact hdb
  | some out =>
    rw [hout] at hstep
    exact hdb.apply hfits hstep

/-- The table's invariant holds at every step of a run. -/
theorem leaseRun (hdb : db.Leases o) (h : Run (Guarded (CallFits o) QueueStep) db ls db') :
    Run (LeaseStep o) db ls db' ∧ db'.Leases o := by
  induction h with
  | nil => exact ⟨.nil, hdb⟩
  | snoc _ hs ih => exact ⟨ih.1.snoc ⟨⟨ih.2, hs.1⟩, hs.2⟩, ih.2.step hs⟩

/-- Where a worker holds the unexpired lease, its finish takes effect. -/
theorem finishTask_held (hdb : db.Leases o) {taskId w : String} {finishedAt : DateTime} {till : ℤ}
    (error : Option String)
    (hheld : db.lease taskId = .held w till) (hlt : finishedAt.instant < till) :
    ∃ tasks, finishTask db.tasks taskId error finishedAt (some w) = .ok tasks := by
  unfold TaskDb.lease at hheld
  cases hb : byId db.tasks taskId with
  | none =>
    rw [hb] at hheld
    cases hheld
  | some t =>
    rw [hb] at hheld
    have hrun : t.status = .running := by
      by_contra hne
      by_cases hp : t.status = .pending
      · exact nomatch (lease_pending hp).symm.trans hheld
      · exact nomatch (lease_closed (by simp [AutomationTask.unfinished, hp, hne])).symm.trans hheld
    obtain ⟨hsome, u, hu, -⟩ := hdb.leased t (byId_mem hb).1 hrun
    obtain ⟨v, hv⟩ := Option.isSome_iff_exists.mp hsome
    have hlease := (lease_running hrun hu).symm.trans hheld
    rw [hv] at hlease
    cases hlease
    refine ⟨updateRow db.tasks taskId (finishRow error finishedAt), ?_⟩
    unfold finishTask
    simp [hb, hrun, hv, hu, hlt]

/-- A finish by a worker takes effect when it holds the task's unexpired
lease, and leaves the database otherwise. -/
theorem finish_effect (hs : LeaseStep o db l db') {taskId w : String} {error : Option String}
    {finishedAt : DateTime} (hl : l.op = .finish taskId error finishedAt (some w)) :
    (l.out.isSome = true ↔ ∃ till, db.lease taskId = .held w till ∧ finishedAt.instant < till) ∧
      (l.out.isSome = true → db'.lease taskId = .closed) ∧ (l.out = none → db' = db) := by
  have hm := (leaseView o taskId).move db l db' hs
  obtain ⟨⟨hdb, -⟩, h⟩ := hs
  unfold QueueStep at h
  cases hout : l.out with
  | none =>
    rw [hout, hl] at h
    refine ⟨⟨fun hs => (nomatch hs), ?_⟩, fun hs => (nomatch hs), fun _ => h.1⟩
    rintro ⟨till, hheld, hlt⟩
    obtain ⟨tasks, hok⟩ := finishTask_held hdb error hheld hlt
    obtain ⟨e, herr⟩ := h.2
    simp only [QueueOp.apply, hok] at herr
    cases herr
  | some out =>
    have hevent : (leaseView o taskId).event l = some (.finished (some w)) := by
      show l.out.bind _ = _
      rw [hout, hl]
      exact if_pos rfl
    have htime : (leaseView o taskId).time l = finishedAt.instant := by
      show l.op.time.instant = _
      rw [hl]
      rfl
    rw [hevent, htime] at hm
    obtain ⟨till, hheld, hlt, hclosed⟩ := hm.of_finished
    exact ⟨⟨fun _ => ⟨till, hheld, hlt⟩, fun _ => rfl⟩, fun _ => hclosed, fun hn => (nomatch hn)⟩

/-- A row that is not unfinished keeps its status along every run. -/
theorem terminal_run (hdb : db.Leases o) (hrun : Run (Guarded (CallFits o) QueueStep) db ls db')
    {t : AutomationTask} (ht : t ∈ db.tasks) (hterm : t.unfinished = false) :
    ∃ t' ∈ db'.tasks, t'.taskId = t.taskId ∧ t'.status = t.status := by
  refine Run.inv (I := fun d => d.Leases o ∧ ∃ t' ∈ d.tasks, t'.taskId = t.taskId ∧
      t'.status = t.status)
    ⟨hdb, t, ht, rfl, rfl⟩ (fun a l b ⟨ha, t', ht', hid, hstatus⟩ hs => ⟨ha.step hs, ?_⟩) hrun |>.2
  have hstep := hs.2
  unfold QueueStep at hstep
  cases hout : l.out with
  | none =>
    rw [hout] at hstep
    rw [hstep.1]
    exact ⟨t', ht', hid, hstatus⟩
  | some out =>
    rw [hout] at hstep
    obtain ⟨u, hu, hmove⟩ := l.op.mem_moved ha.ids hstep ht'
    have hterm' : t'.unfinished = false := by
      unfold AutomationTask.unfinished at hterm ⊢
      rw [hstatus]
      exact hterm
    exact ⟨u, hu, hmove.taskId.trans hid, (hmove.terminal hterm').trans hstatus⟩

/-- **One lease for a task**, in every interleaving of calls at nondecreasing
times: a second claim comes when the first lease is over, or the first worker
rescheduled the task in between; a finish by a worker takes effect exactly
while it holds the unexpired lease; a terminal status stays; between two
ends of a task there is a claim. -/
theorem lease_exclusivity (hdb : db.Leases o)
    (hrun : Run (Guarded (CallFits o) QueueStep) db ls db')
    (hclock : (ls.map QueueCall.time).Pairwise (· ≤ ·)) :
    (∀ pre l mid k post taskId w till w' till', ls = (pre ++ l :: mid) ++ k :: post →
      l.event taskId = some (.taken w till) → k.event taskId = some (.taken w' till') →
      (∀ x ∈ mid, x.event taskId ≠ some (.released w)) → till ≤ k.time) ∧
    (∀ pre l post, ls = pre ++ l :: post → ∃ a b, Run (Guarded (CallFits o) QueueStep) db pre a ∧
      QueueStep a l b ∧
      ∀ taskId error finishedAt w, l.op = .finish taskId error finishedAt (some w) →
        (l.out.isSome = true ↔ ∃ till, a.lease taskId = .held w till ∧ finishedAt.instant < till) ∧
          (l.out = none → b = a)) ∧
    (∀ pre a post, ls = pre ++ post → Run (Guarded (CallFits o) QueueStep) db pre a →
      Run (Guarded (CallFits o) QueueStep) a post db' → ∀ t ∈ a.tasks, t.unfinished = false →
        ∃ t' ∈ db'.tasks, t'.taskId = t.taskId ∧ t'.status = t.status) ∧
    ∀ pre l mid k post taskId e e', ls = (pre ++ l :: mid) ++ k :: post → l.event taskId = some e →
      k.event taskId = some e' → e.ends = true → e'.ends = true →
      ∃ x ∈ mid, ∃ w till, x.event taskId = some (.taken w till) := by
  have hlease := (leaseRun hdb hrun).1
  have hcut {pre l mid k post} (hls : ls = (pre ++ l :: mid) ++ k :: post) :
      ∃ u, Run (LeaseStep o) db (pre ++ l :: mid ++ [k]) u := by
    rw [hls] at hlease
    obtain ⟨a, u, hpre, hs, -⟩ := hlease.at_label
    exact ⟨u, hpre.snoc hs⟩
  refine ⟨?_, ?_, ?_, ?_⟩
  · intro pre l mid k post taskId w till w' till' hls hl hk hno
    obtain ⟨u, hu⟩ := hcut hls
    refine (leaseView o taskId).exclusive hu ?_ hl hk hno
    rw [hls, List.append_cons, List.map_append] at hclock
    exact (List.pairwise_append.mp hclock).1
  · intro pre l post hls
    rw [hls] at hrun
    obtain ⟨a, b, hpre, hs, -⟩ := hrun.at_label
    refine ⟨a, b, hpre, hs.2, fun taskId error finishedAt w hl => ?_⟩
    have heffect := finish_effect ⟨⟨(leaseRun hdb hpre).2, hs.1⟩, hs.2⟩ hl
    exact ⟨heffect.1, heffect.2.2⟩
  · intro pre a post _ hpre hpost t ht hterm
    exact terminal_run (leaseRun hdb hpre).2 hpost ht hterm
  · intro pre l mid k post taskId e e' hls hl hk he he'
    obtain ⟨u, hu⟩ := hcut hls
    exact (leaseView o taskId).one_end hu hl hk he he'

end Runs

/-! ### A lease that runs out -/

instance (offset : ℤ) (db : TaskDb) (op : QueueOp) : Decidable (op.Fits offset db) :=
  decidable_of_iff ((∀ d ∈ op.times, InZone offset d) ∧
      (op.created db.activation).all fun row => db.tasks.all fun t => t.taskId ≠ row.taskId)
    ⟨fun h => ⟨h.1, fun row hrow t ht => by
        have hall := h.2
        rw [Option.mem_def.mp hrow] at hall
        simpa using List.all_eq_true.mp hall t ht⟩,
      fun h => ⟨h.zone, Option.all_eq_true _ _ |>.mpr fun row hrow =>
          List.all_eq_true.mpr fun t ht => by
        simpa using h.fresh row hrow t ht⟩⟩

/-- A task is claimed, its lease runs out at the second claim, and both workers finish. -/
def leaseOps : List QueueOp :=
  [.createOrGet "t1" { taskType := "SYNC_STANDARD", entityType := "SYSTEM", entityId := "standards"
                       dueAt := .utc 0, dedupeKey := none, createdAt := .utc 0 },
    .claimDue { now := .utc 1000000, workerId := "w1", leaseFor := 10000000 },
    .claimDue { now := .utc 11000000, workerId := "w2", leaseFor := 10000000 },
    .finish "t1" none (.utc 11000000) (some "w1"),
    .finish "t1" none (.utc 12000000) (some "w2")]

instance (offset : ℤ) (db : TaskDb) (l : QueueCall) : Decidable (CallFits offset db l) :=
  inferInstanceAs (Decidable (l.op.Fits offset db))

theorem lease_exclusivity_reclaimed :
    (playQueue {} leaseOps).1.map (QueueCall.event "t1") =
        [none, some (.taken "w1" 11000000), some (.taken "w2" 21000000), none,
          some (.finished (some "w2"))] ∧
      ∀ pre l mid k post w till w' till', (playQueue {} leaseOps).1 =
        (pre ++ l :: mid) ++ k :: post →
        l.event "t1" = some (.taken w till) → k.event "t1" = some (.taken w' till') →
        (∀ x ∈ mid, x.event "t1" ≠ some (.released w)) → till ≤ k.time :=
  ⟨by decide +kernel, fun pre l mid k post w till w' till' =>
    (@lease_exclusivity 0 {} _ _ ⟨List.nodup_nil, fun _ h => by cases h⟩
        (@playQueue_run (CallFits 0) leaseOps {} (by decide +kernel))
      (by decide +kernel)).1 pre l mid k post "t1" w till w' till'⟩

end TemperatureMonitor
