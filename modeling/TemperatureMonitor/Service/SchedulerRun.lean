/-
# The account of a run of the scheduler

Each task a run claims leaves the loop by one exit (`TaskExit`), and the log
tells which. A row that an end is written on was running under the run's own
lease at every moment since its claim (`heldThrough`): a row that was
rescheduled, cancelled, taken or recovered is never again running under the
run's worker. So an end follows what the handler came to, and every other claimed
row is left to whoever moved it, save that the claims after it quarantine the
external tasks of another mode or epoch.
-/
import TemperatureMonitor.Service.Scheduler

namespace TemperatureMonitor

/-- The row is running under a lease of the worker. -/
structure AutomationTask.Held (workerId : String) (till : Option DateTime)
    (t : AutomationTask) : Prop where
  status : t.status = .running
  workerId : t.workerId = some workerId
  leaseUntil : t.leaseUntil = till

/-- The call of the queue an event is. -/
def SchedulerEvent.call (workerId : String) : SchedulerEvent → Option QueueCall
  | other l => some l
  | quarantined now => some ⟨.quarantine now none, some []⟩
  | claimed c out => some ⟨.claimTransaction c, some out⟩
  | ended .. => none
  | finished taskId error finishedAt =>
    some ⟨.finish taskId error finishedAt (some workerId), some []⟩

/-! ### Events and rows -/

section Steps

variable {w taskId : String} {till : Option DateTime} {a b : TaskDb} {e : SchedulerEvent}
  {ls : List SchedulerEvent}

/-- An event changes nothing, or is a call that returned. -/
theorem LogStep.changes (h : LogStep w a e b) : b = a ∨ ∃ op out, e.call w = some ⟨op, some out⟩ ∧
    op.apply a = .ok (b, out) ∧ ∀ row ∈ op.created a.activation, ∀ t ∈ a.tasks,
      t.taskId ≠ row.taskId := by
  cases e with
  | other l =>
    obtain ⟨op, out⟩ := l
    obtain ⟨hforeign, hstep⟩ := h
    cases out with
    | none => exact .inl hstep.1
    | some out => exact .inr ⟨op, out, rfl, hstep, hforeign.fresh⟩
  | quarantined now => exact .inr ⟨_, _, rfl, h, by rintro _ ⟨⟩⟩
  | claimed c out => exact .inr ⟨_, _, rfl, h.2, by rintro _ ⟨⟩⟩
  | ended => exact .inl h
  | finished id error at_ => exact .inr ⟨_, _, rfl, h, by rintro _ ⟨⟩⟩

theorem LogStep.nodup_ids (hids : (a.tasks.map (·.taskId)).Nodup) (h : LogStep w a e b) :
    (b.tasks.map (·.taskId)).Nodup := by
  rcases h.changes with rfl | ⟨op, out, -, happly, hfresh⟩
  · exact hids
  · exact op.nodup_ids hids hfresh happly

theorem logRun_nodup_ids (hids : (a.tasks.map (·.taskId)).Nodup) (h : Run (LogStep w) a ls b) :
    (b.tasks.map (·.taskId)).Nodup :=
  Run.inv (I := fun db => (db.tasks.map (·.taskId)).Nodup) hids (fun _ _ _ hdb hstep =>
    hstep.nodup_ids hdb) h

/-- A move into a held row, by a call that claims for no one or for another, was none. -/
theorem RowMove.held {op : QueueOp} {out : List AutomationTask} {t t' : AutomationTask}
    (h : RowMove op out t t')
    (howner : ∀ c, op = .claimDue c ∨ op = .claimTransaction c → c.workerId ≠ w)
    (ht : t'.Held w till) : t.Held w till := by
  have hrun := ht.status
  cases h with
  | same hs =>
    exact ⟨hs.status ▸ ht.status, hs.workerId ▸ ht.workerId, hs.leaseUntil ▸ ht.leaseUntil⟩
  | claimed c hop hc _ he =>
    have hw := ht.workerId
    rw [he, claimRow_eq hc] at hw
    exact absurd (Option.some.inj hw) (howner c hop)
  | finished error at_ w' _ hr _ hu he =>
    rw [he, finishRow_eq hr hu] at hrun
    simp only at hrun
    split_ifs at hrun
  | rescheduled task due upd payload _ _ _ _ he =>
    rw [he] at hrun
    cases hrun
  | cancelled at_ _ hs =>
    rw [hs.status] at hrun
    cases hrun
  | requeued now stale _ _ he =>
    rw [he] at hrun
    cases hrun
  | quarantined now reason hx hu he =>
    rw [he, quarantineRow_eq hx hu] at hrun
    cases hrun

/-- A row that is held after an event of the others was held before it. -/
theorem LogStep.held_before (hids : (a.tasks.map (·.taskId)).Nodup) (h : LogStep w a e b)
    (he : e.own = false ∨ ∃ id raised, e = .ended id raised)
    (hb : ∃ t ∈ b.tasks, t.taskId = taskId ∧ t.Held w till) : ∃ t ∈ a.tasks, t.taskId = taskId ∧
      t.Held w till := by
  rcases he with he | ⟨id, raised, rfl⟩
  · cases e with
    | other l =>
      obtain ⟨op, out⟩ := l
      obtain ⟨hforeign, hstep⟩ := h
      cases out with
      | none =>
        obtain ⟨rfl, -⟩ := hstep
        exact hb
      | some out =>
        obtain ⟨t', ht', hid, hheld⟩ := hb
        rcases op.mem_cases hids hstep ht' with ⟨t, ht, hmove⟩ | hrow
        · exact ⟨t, ht, hmove.taskId.symm.trans hid, hmove.held hforeign.owner hheld⟩
        · have hpending := created_row hrow
          rw [hheld.status] at hpending
          cases hpending
    | _ => cases he
  · obtain rfl : b = a := h
    exact hb

/-- A row that is held at the end of such a run was held all along. -/
theorem heldThrough (hids : (a.tasks.map (·.taskId)).Nodup) (h : Run (LogStep w) a ls b)
    (hls : ∀ e ∈ ls, e.own = false ∨ ∃ id raised, e = .ended id raised)
    (hb : ∃ t ∈ b.tasks, t.taskId = taskId ∧ t.Held w till) : ∃ t ∈ a.tasks, t.taskId = taskId ∧
      t.Held w till := by
  induction h with
  | nil => exact hb
  | @snoc ks t k u hr hs ih =>
    refine ih (fun e he => hls e (List.mem_append_left _ he)) ?_
    exact hs.held_before (logRun_nodup_ids hids hr)
      (hls k (List.mem_append_right _ (List.mem_singleton_self k))) hb

end Steps

/-! ### The log of a run -/

/-- The tasks the run claimed, in order. -/
def claimedIds (log : List SchedulerEvent) : List String :=
  log.flatMap fun
    | .claimed _ out => out.map (·.taskId)
    | _ => []

/-- The ends the run committed as SUCCEEDED. -/
def committed (log : List SchedulerEvent) : ℕ :=
  log.countP fun
    | .finished _ none _ => true
    | _ => false

/-- The error an end is written with: what the handler came to, or that there is none. -/
def TaskScheduler.Earned (x : TaskScheduler) (task : AutomationTask) (error : Option String)
    (since : List SchedulerEvent) : Prop :=
  if x.handlers.contains task.taskType then since.filter (·.own) = [.ended task.taskId error]
  else since.filter (·.own) = [] ∧ error = some (TaskScheduler.noHandler task.taskType)

/-- An end follows the claim of its task, and nothing else of the run but the handler's end. -/
def TaskScheduler.Due (x : TaskScheduler) (pre : List SchedulerEvent) (taskId : String)
    (error : Option String) : Prop :=
  ∃ before c task since, pre = before ++ .claimed c [task] :: since ∧ task.taskId = taskId ∧
    x.Earned task error since

/-- What every log of a run is. -/
structure TaskScheduler.Audit (x : TaskScheduler) (db : TaskDb) (limit : ℕ)
    (s : SchedulerSite) : Prop where
  run : Run (LogStep x.workerId) db s.log s.db
  once : (claimedIds s.log).Nodup
  few : (claimedIds s.log).length ≤ limit
  due : ∀ pre taskId error finishedAt post,
      s.log = pre ++ .finished taskId error finishedAt :: post →
    x.Due pre taskId error

section Log

variable {x : TaskScheduler} {db : TaskDb} {limit : ℕ} {s s' : SchedulerSite}
  {log ls pre post : List SchedulerEvent}
  {e : SchedulerEvent}

@[simp] theorem claimedIds_append (log ls : List SchedulerEvent) :
    claimedIds (log ++ ls) = claimedIds log ++ claimedIds ls := by
  simp [claimedIds]

@[simp] theorem committed_append (log ls : List SchedulerEvent) :
    committed (log ++ ls) = committed log + committed ls := by
  simp [committed]

theorem claimedIds_foreign (h : ∀ e ∈ ls, e.own = false) : claimedIds ls = [] := by
  refine List.flatMap_eq_nil_iff.mpr fun e he => ?_
  have hown := h e he
  cases e with
  | other l => rfl
  | _ => cases hown

theorem committed_foreign (h : ∀ e ∈ ls, e.own = false) : committed ls = 0 := by
  refine List.countP_eq_zero.mpr fun e he => ?_
  have hown := h e he
  cases e with
  | other l => simp
  | _ => cases hown

/-- Appended events that hold no such event leave the place of one. -/
theorem append_cons_cases (h : log ++ ls = pre ++ e :: post) : (∃ post', log = pre ++ e :: post') ∨
    e ∈ ls := by
  rcases List.append_eq_append_iff.mp h with ⟨mid, rfl, hls⟩ | ⟨mid, rfl, hmid⟩
  · exact .inr (hls ▸ List.mem_append_right _ (List.mem_cons_self ..))
  · cases mid with
    | nil => exact .inr (by simp at hmid; simp [← hmid])
    | cons k mid =>
      obtain ⟨rfl, -⟩ := List.cons.inj (hmid : e :: post = k :: (mid ++ ls))
      exact .inl ⟨mid, rfl⟩

/-- Events that claim nothing and end nothing. -/
theorem TaskScheduler.Audit.extend (h : x.Audit db limit s)
    (hrun : Run (LogStep x.workerId) s.db ls s'.db)
    (hlog : s'.log = s.log ++ ls) (hids : claimedIds ls = [])
    (hends : ∀ taskId error finishedAt, .finished taskId error finishedAt ∉ ls) :
    x.Audit db limit s' := by
  have hsame : claimedIds s'.log = claimedIds s.log := by
    rw [hlog, claimedIds_append, hids, List.append_nil]
  refine ⟨by rw [hlog]; exact h.run.append hrun, by rw [hsame]; exact h.once, by
    rw [hsame]; exact h.few, ?_⟩
  intro pre taskId error finishedAt post hpre
  rcases append_cons_cases (hlog.symm.trans hpre) with ⟨post', hpost⟩ | hmem
  · exact h.due pre taskId error finishedAt post' hpost
  · exact absurd hmem (hends taskId error finishedAt)

/-- What the others leave: they have claimed nothing for the run. -/
theorem TaskScheduler.Audit.meanwhile (h : x.Audit db limit s) (hm : Meanwhile x.workerId s s') :
    x.Audit db limit s' ∧ claimedIds s'.log = claimedIds s.log ∧
      committed s'.log = committed s.log := by
  obtain ⟨ls, hown, hrun, hlog⟩ := hm
  have hids := claimedIds_foreign hown
  refine ⟨h.extend hrun hlog hids fun taskId error finishedAt hmem => ?_, ?_, ?_⟩
  · have := hown _ hmem
    cases this
  · rw [hlog, claimedIds_append, hids, List.append_nil]
  · rw [hlog, committed_append, committed_foreign hown, Nat.add_zero]

end Log

/-! ### Claims and ends -/

section Ends

variable {x : TaskScheduler} {db a b : TaskDb} {limit : ℕ} {s s' : SchedulerSite} {c : ClaimCall}
  {tasks out : List AutomationTask} {task u : AutomationTask}

/-- A claim returns no more tasks than it may, and none it excludes. -/
theorem claimTransaction_out (c : ClaimCall) (tasks : List AutomationTask) :
    (claimTransaction tasks c).2.length ≤ c.limit.toNat ∧
      ∀ u ∈ (claimTransaction tasks c).2, u.taskId ∉ c.excludeTaskIds := by
  constructor
  · refine (List.length_filterMap_le _ _).trans ?_
    rw [claimIds, List.length_map]
    exact List.length_take_le _ _
  · intro u hu
    obtain ⟨id, hid, hfound⟩ := List.mem_filterMap.mp hu
    obtain ⟨t, ht, rfl⟩ := List.mem_map.mp hid
    have hmem := List.mem_mergeSort.mp (List.mem_of_mem_take ht)
    rw [List.mem_filter, Bool.and_eq_true, Bool.not_eq_true', List.contains_eq_mem,
      decide_eq_false_iff_not] at hmem
    rw [(byId_mem hfound).2]
    exact hmem.2.2

/-- The rows of a claim are held under its lease. -/
theorem claimTransaction_held (hids : (tasks.map (·.taskId)).Nodup)
    (hu : u ∈ (claimTransaction tasks c).2) :
    ∃ t ∈ (claimTransaction tasks c).1, t.taskId = u.taskId ∧
      t.Held c.workerId (some c.leaseUntil) := by
  obtain ⟨id, -, hfound⟩ := List.mem_filterMap.mp hu
  obtain ⟨hmem, -⟩ := byId_mem hfound
  refine ⟨u, hmem, rfl, ?_⟩
  obtain ⟨t, -, ⟨hc, -, he⟩ | ⟨he, hno⟩⟩ := forall₂_mem_right (claimTransaction_rows hids) hmem
  · rw [he, claimRow_eq hc]
    exact ⟨rfl, rfl, rfl⟩
  · exact absurd (congrArg (·.taskId) he) (hno u hu)

theorem claimed_apply (h : (QueueOp.claimTransaction c).apply a = .ok (b, out)) :
    b.tasks = (claimTransaction a.tasks c).1 ∧ out = (claimTransaction a.tasks c).2 := by
  obtain ⟨-, -, he⟩ := map_ok h
  cases he
  exact ⟨rfl, rfl⟩

/-- A claim of the run claims a task at most, and a new one. -/
theorem TaskScheduler.Audit.claimed (h : x.Audit db limit s) (hlimit : c.limit = 1)
    (hexclude : c.excludeTaskIds = claimedIds s.log) (hroom : (claimedIds s.log).length < limit)
    (hs : Logged x.workerId s (.claimed c out) s') :
    x.Audit db limit s' ∧ claimedIds s'.log = claimedIds s.log ++ out.map (·.taskId) ∧
      committed s'.log = committed s.log ∧ (out = [] ∨ ∃ task, out = [task]) := by
  obtain ⟨hstep, hlog⟩ := hs
  obtain ⟨-, hout⟩ := claimed_apply hstep.2
  obtain ⟨hlength, hnew⟩ := claimTransaction_out c s.db.tasks
  rw [← hout, hlimit] at hlength
  rw [← hout, hexclude] at hnew
  have hids : claimedIds s'.log = claimedIds s.log ++ out.map (·.taskId) := by
    rw [hlog, claimedIds_append]
    simp [claimedIds]
  have hcases : out = [] ∨ ∃ task, out = [task] := by
    cases out with
    | nil => exact .inl rfl
    | cons task rest =>
      have hrest : rest = [] := List.eq_nil_of_length_eq_zero (by simpa using hlength)
      exact .inr ⟨task, by rw [hrest]⟩
  refine ⟨⟨by rw [hlog]; exact h.run.snoc hstep, ?_, ?_, ?_⟩, hids, ?_, hcases⟩
  · rw [hids]
    rcases hcases with rfl | ⟨task, rfl⟩
    · simpa using h.once
    · have hno := hnew task (List.mem_singleton_self task)
      refine List.nodup_append.mpr ⟨h.once, List.nodup_singleton _, fun id hid id' hid' heq =>
        hno ?_⟩
      rw [List.map_singleton, List.mem_singleton] at hid'
      rw [← hid', ← heq]
      exact hid
  · rw [hids, List.length_append, List.length_map]
    simp only [Int.toNat_one] at hlength
    omega
  · intro pre taskId error finishedAt post hpre
    rcases append_cons_cases (hlog.symm.trans hpre) with ⟨post', hpost⟩ | hmem
    · exact h.due pre taskId error finishedAt post' hpost
    · cases List.mem_singleton.mp hmem
  · rw [hlog, committed_append]
    simp [committed]

/-- An end that is due. -/
theorem TaskScheduler.Audit.finished {taskId : String} {error : Option String}
    {finishedAt : DateTime} (h : x.Audit db limit s) (hdue : x.Due s.log taskId error)
    (hs : Logged x.workerId s (.finished taskId error finishedAt) s') :
    x.Audit db limit s' ∧ claimedIds s'.log = claimedIds s.log ∧
      committed s'.log = committed s.log + if error = none then 1 else 0 := by
  obtain ⟨hstep, hlog⟩ := hs
  have hids : claimedIds s'.log = claimedIds s.log := by
    rw [hlog, claimedIds_append]
    simp [claimedIds]
  refine ⟨⟨by rw [hlog]; exact h.run.snoc hstep, by rw [hids]; exact h.once, by
    rw [hids]; exact h.few, ?_⟩, hids, ?_⟩
  · intro pre id error' at_ post hpre
    rcases List.eq_nil_or_concat' post with rfl | ⟨post', k, rfl⟩
    · obtain ⟨rfl, hlast⟩ := List.append_inj' (hlog.symm.trans hpre) rfl
      cases hlast
      exact hdue
    · rw [hlog, ← List.cons_append, ← List.append_assoc] at hpre
      obtain ⟨hinit, -⟩ := List.append_inj' hpre rfl
      exact h.due pre id error' at_ post' hinit
  · rw [hlog, committed_append]
    cases error <;> simp [committed]

end Ends

/-! ### The program -/

section Loop

variable {x : TaskScheduler} {db : TaskDb} {limit : ℕ} {s s' : SchedulerSite}
  {task : AutomationTask}
  {error : Option String} {log ls : List SchedulerEvent} {taskId : String}

theorem TaskScheduler.Due.foreign (h : x.Due log taskId error) (hls : ∀ e ∈ ls, e.own = false) :
    x.Due (log ++ ls) taskId error := by
  obtain ⟨before, c, task, since, rfl, hid, hearned⟩ := h
  refine ⟨before, c, task, since ++ ls, by simp, hid, ?_⟩
  have hnone : ls.filter (·.own) = [] := List.filter_eq_nil_iff.mpr fun e he => by simp [hls e he]
  unfold TaskScheduler.Earned at hearned ⊢
  rw [List.filter_append, hnone, List.append_nil]
  exact hearned

/-- How a claimed task leaves the loop: with an end of its own, or with none. -/
def TaskScheduler.Left (x : TaskScheduler) (db : TaskDb) (limit : ℕ) (s : SchedulerSite)
    (r : Except SchedulerError TaskExit) (s' : SchedulerSite) : Prop :=
  x.Audit db limit s' ∧ claimedIds s'.log = claimedIds s.log ∧
    ∀ exit, r = .ok exit → committed s'.log = committed s.log + if exit = .succeeded then 1 else 0

theorem TaskScheduler.Left.of (hids : claimedIds s'.log = claimedIds s.log)
    (hends : committed s'.log = committed s.log)
    {r : Except SchedulerError TaskExit} {t : SchedulerSite} (h : x.Left db limit s' r t) :
    x.Left db limit s r t :=
  ⟨h.1, h.2.1.trans hids, fun exit hr => by rw [h.2.2 exit hr, hends]⟩

/-- Nothing was written. -/
theorem TaskScheduler.Audit.left (h : x.Audit db limit s) {r : Except SchedulerError TaskExit}
    (hr : r ≠ .ok .succeeded) : x.Left db limit s r s := by
  refine ⟨h, rfl, fun exit hexit => ?_⟩
  rw [if_neg (fun he => hr (by rw [hexit, he])), Nat.add_zero]

theorem TaskScheduler.finishClaimed_spec {done : TaskExit}
    (hdone : done = .succeeded ↔ error = none)
    (h : x.Audit db limit s) (hdue : x.Due s.log task.taskId error) :
    (x.finishClaimed task error done).wp (fun s _ => x.Audit db limit s) (Works x.workerId)
      (x.Left db limit s) s := by
  simp only [TaskScheduler.finishClaimed, Prog.wp_bind, Prog.wp_perform, Prog.wp_tryCatch]
  refine ⟨h, ?_⟩
  rintro r t ⟨m, hm, ⟨finishedAt, rfl⟩, rfl⟩
  obtain ⟨hm', hids, hends⟩ := h.meanwhile hm
  have hdue' : x.Due t.log task.taskId error := by
    obtain ⟨ls, hown, -, hlog⟩ := hm
    rw [hlog]
    exact hdue.foreign hown
  refine ⟨hm', ?_⟩
  rintro r u ⟨v, hv, hserves⟩
  obtain ⟨hv', hids', hends'⟩ := hm'.meanwhile hv
  have hdue'' : x.Due v.log task.taskId error := by
    obtain ⟨ls, hown, -, hlog⟩ := hv
    rw [hlog]
    exact hdue'.foreign hown
  have hback {r : Except SchedulerError TaskExit} {t : SchedulerSite}
      (hleft : x.Left db limit v r t) : x.Left db limit s r t :=
    hleft.of (hids'.trans hids) (hends'.trans hends)
  rcases hserves with ⟨-, rfl, hlogged⟩ | ⟨e, -, rfl, rfl⟩ | ⟨⟨text, rfl⟩, rfl⟩
  · obtain ⟨hu, huids, huends⟩ := hv'.finished hdue'' hlogged
    refine hback ⟨hu, huids, fun exit hexit => ?_⟩
    cases hexit
    rw [huends]
    simp only [hdone]
  · cases e with
    | valueError text => exact hback (hv'.left (by simp))
    | _ => exact hback (hv'.left (by simp))
  · exact hback (hv'.left (by simp))

/-- The handler's end leaves the task to be ended with what the handler came to. -/
theorem TaskScheduler.Audit.handled {c : ClaimCall} {before : List SchedulerEvent}
    {raised : Option String}
    {m : SchedulerSite} (h : x.Audit db limit s) (hlog : s.log = before ++ [.claimed c [task]])
    (hhandler : x.handlers.contains task.taskType = true) (hm : Meanwhile x.workerId s m)
    (hended : Logged x.workerId m (.ended task.taskId raised) s') :
    x.Audit db limit s' ∧ claimedIds s'.log = claimedIds s.log ∧
      committed s'.log = committed s.log ∧
      x.Due s'.log task.taskId raised := by
  obtain ⟨hm', hids, hends⟩ := h.meanwhile hm
  obtain ⟨ls, hown, -, hmlog⟩ := hm
  obtain ⟨hstep, hslog⟩ := hended
  refine ⟨hm'.extend (Run.one hstep) hslog rfl (by simp), ?_, ?_, before, c, task,
    ls ++ [.ended task.taskId raised], ?_, rfl, ?_⟩
  · rw [hslog, claimedIds_append, hids]
    simp [claimedIds]
  · rw [hslog, committed_append, hends]
    simp [committed]
  · rw [hslog, hmlog, hlog]
    simp
  · have hnone : ls.filter (·.own) = [] :=
      List.filter_eq_nil_iff.mpr fun e he => by simp [hown e he]
    unfold TaskScheduler.Earned
    rw [if_pos hhandler, List.filter_append, hnone]
    rfl

theorem TaskScheduler.runTask_spec {c : ClaimCall} {before : List SchedulerEvent}
    (h : x.Audit db limit s) (hlog : s.log = before ++ [.claimed c [task]]) :
    (x.runTask task).wp (fun s _ => x.Audit db limit s) (Works x.workerId)
      (x.Left db limit s) s := by
  unfold TaskScheduler.runTask
  by_cases hhandler : x.handlers.contains task.taskType = true
  · rw [if_pos hhandler]
    refine Prog.wp_bind.mpr (Prog.wp_perform.mpr ⟨h, ?_⟩)
    rintro r t ⟨m, hm, raised, rfl, hended⟩
    obtain ⟨ht, hids, hends, hdue⟩ := h.handled hlog hhandler hm hended
    cases raised with
    | none =>
      exact Prog.wp_mono (x.finishClaimed_spec (by simp) ht hdue) fun _ _ hleft =>
        hleft.of hids hends
    | some text =>
      refine Prog.wp_bind.mpr (Prog.wp_perform.mpr ⟨ht, ?_⟩)
      rintro r u ⟨v, hv, hserves⟩
      obtain ⟨hv', hids', hends'⟩ := ht.meanwhile hv
      have hback {r : Except SchedulerError TaskExit} {t : SchedulerSite}
          (hleft : x.Left db limit v r t) :
          x.Left db limit s r t := hleft.of (hids'.trans hids) (hends'.trans hends)
      rcases hserves with ⟨rfl, rfl⟩ | ⟨⟨text', rfl⟩, rfl⟩
      · show (if _ then _ else _ : SchedulerProg TaskExit).wp _ _ _ _
        by_cases hpending : (byId u.db.tasks task.taskId).any (·.status = .pending) = true
        · rw [if_pos hpending]
          exact hback (hv'.left (by simp))
        · rw [if_neg hpending]
          have hdue' : x.Due u.log task.taskId (some text) := by
            obtain ⟨ls, hown, -, hvlog⟩ := hv
            rw [hvlog]
            exact hdue.foreign hown
          exact Prog.wp_mono (x.finishClaimed_spec (by simp) hv' hdue') fun _ _ hleft => hback hleft
      · exact hback (hv'.left (by simp))
  · rw [if_neg hhandler]
    refine x.finishClaimed_spec (by simp) h ⟨before, c, task, [], hlog, rfl, ?_⟩
    unfold TaskScheduler.Earned
    rw [if_neg hhandler]
    exact ⟨rfl, rfl⟩

/-- The counters are the log's. -/
structure SchedulerTally.Counts (t : SchedulerTally) (log : List SchedulerEvent) : Prop where
  processed : t.processed = claimedIds log
  succeeded : t.succeeded = committed log
  total : t.processed.length = t.succeeded + t.failed + t.skipped

/-- What a report says. -/
def SchedulerRunReport.Accounts (report : SchedulerRunReport) (log : List SchedulerEvent) : Prop :=
  report.claimed = (claimedIds log).length ∧
      report.claimed = report.succeeded + report.failed + report.skipped ∧
    report.succeeded = committed log

theorem SchedulerTally.Counts.report {t : SchedulerTally} (h : t.Counts log) :
    t.report.Accounts log :=
  ⟨congrArg List.length h.processed, h.total, h.succeeded⟩

/-- One more task, by its exit. -/
theorem SchedulerTally.Counts.count {t : SchedulerTally} {exit : TaskExit} (h : t.Counts log)
    (hids : claimedIds ls = claimedIds log ++ [taskId])
    (hends : committed ls = committed log + if exit = .succeeded then 1 else 0) :
    ({ t with processed := t.processed ++ [taskId] }.count exit).Counts ls := by
  have hlength : (t.processed ++ [taskId]).length = t.processed.length + 1 := by simp
  obtain ⟨hprocessed, hsucceeded, htotal⟩ := h
  cases exit with
  | succeeded =>
    refine ⟨by rw [hids, ← hprocessed]; rfl, ?_, ?_⟩
    · simp [SchedulerTally.count, hends, hsucceeded]
    · simp only [SchedulerTally.count]
      omega
  | failed =>
    refine ⟨by rw [hids, ← hprocessed]; rfl, ?_, ?_⟩
    · simp [SchedulerTally.count, hends, hsucceeded]
    · simp only [SchedulerTally.count]
      omega
  | skipped =>
    refine ⟨by rw [hids, ← hprocessed]; rfl, ?_, ?_⟩
    · simp [SchedulerTally.count, hends, hsucceeded]
    · simp only [SchedulerTally.count]
      omega

theorem TaskScheduler.claimCall_check (x : TaskScheduler) (now : DateTime)
    (processed : List String) : (x.claimCall now processed).check = .ok () := by
  have hlease : ¬ x.leaseFor ≤ 0 := not_le.mpr x.leased
  simp [ClaimCall.check, TaskScheduler.claimCall, x.named, hlease]

/-- What the loop is to end with. -/
def TaskScheduler.Reported (x : TaskScheduler) (db : TaskDb) (limit : ℕ)
    (r : Except SchedulerError SchedulerRunReport) (s : SchedulerSite) : Prop :=
  x.Audit db limit s ∧ ∀ report, r = .ok report → report.Accounts s.log

/-- A claim of the loop, before the task of it is handled. -/
theorem TaskScheduler.claimDueTasks_spec {now : DateTime} {processed : List String}
    {Q : Except SchedulerError (List AutomationTask) → SchedulerSite → Prop}
    (h : x.Audit db limit s)
    (hprocessed : processed = claimedIds s.log) (hroom : (claimedIds s.log).length < limit)
    (hraise : ∀ e t, x.Audit db limit t → Q (.error e) t)
    (hclaim : ∀ c out before t, x.Audit db limit t → t.log = before ++ [.claimed c out] →
      claimedIds t.log = claimedIds s.log ++ out.map (·.taskId) →
        committed t.log = committed s.log →
      (out = [] ∨ ∃ task, out = [task]) → Q (.ok out) t) :
    (claimDueTasks (x.claimCall now processed)).wp (fun s _ => x.Audit db limit s)
      (Works x.workerId) Q s := by
  unfold claimDueTasks
  rw [x.claimCall_check]
  refine Prog.wp_bind.mpr (Prog.wp_bind.mpr (Prog.wp_perform.mpr ⟨h, ?_⟩))
  rintro r t ⟨m, hm, hserves⟩
  obtain ⟨hm', hids, hends⟩ := h.meanwhile hm
  rcases hserves with ⟨rfl, hstep, hlog⟩ | ⟨⟨text, rfl⟩, rfl⟩
  · have ht : x.Audit db limit t := hm'.extend (Run.one hstep) hlog rfl (by simp)
    have htids : claimedIds t.log = claimedIds s.log := by
      rw [hlog, claimedIds_append, hids]
      simp [claimedIds]
    have htends : committed t.log = committed s.log := by
      rw [hlog, committed_append, hends]
      simp [committed]
    refine ⟨ht, ?_⟩
    rintro r u ⟨v, hv, hserves⟩
    obtain ⟨hv', hvids, hvends⟩ := ht.meanwhile hv
    rcases hserves with ⟨out, rfl, hlogged⟩ | ⟨⟨text, rfl⟩, rfl⟩
    · obtain ⟨hu, huids, huends, hout⟩ := hv'.claimed rfl (by rw [hvids, htids]; exact hprocessed)
        (by rw [hvids, htids]; exact hroom) hlogged
      exact hclaim _ out v.log u hu hlogged.2 (by rw [huids, hvids, htids])
        (by rw [huends, hvends, htends]) hout
    · exact hraise _ _ hv'
  · exact hraise _ _ hm'

theorem TaskScheduler.runLoop_spec (n : ℕ) {tally : SchedulerTally} (h : x.Audit db limit s)
    (hcounts : tally.Counts s.log) (hroom : (claimedIds s.log).length + n ≤ limit) :
    (x.runLoop n tally).wp (fun s _ => x.Audit db limit s) (Works x.workerId)
      (x.Reported db limit) s := by
  induction n generalizing tally s with
  | zero =>
    refine ⟨h, ?_⟩
    rintro _ ⟨⟩
    exact hcounts.report
  | succ n ih =>
    unfold TaskScheduler.runLoop
    refine Prog.wp_bind.mpr (Prog.wp_perform.mpr ⟨h, ?_⟩)
    rintro r t ⟨m, hm, ⟨now, rfl⟩, rfl⟩
    obtain ⟨ht, hids, hends⟩ := h.meanwhile hm
    have hprocessed : tally.processed = claimedIds t.log := hcounts.processed.trans hids.symm
    have htroom : (claimedIds t.log).length < limit := by
      rw [hids]
      omega
    have hraise (e : SchedulerError) (u : SchedulerSite) (hu : x.Audit db limit u) :
        x.Reported db limit (.error e) u := ⟨hu, fun report hr => by cases hr⟩
    rw [Prog.followed_ok, Prog.wp_bind]
    refine x.claimDueTasks_spec ht hprocessed htroom hraise ?_
    intro c out before u hu hlog huids huends hout
    rcases hout with rfl | ⟨task, rfl⟩
    · have hsame : tally.Counts u.log := by
        refine ⟨?_, ?_, hcounts.total⟩
        · rw [huids, hids, List.map_nil, List.append_nil]
          exact hcounts.processed
        · rw [huends, hends]
          exact hcounts.succeeded
      exact ⟨hu, fun report hr => Except.ok.inj hr ▸ hsame.report⟩
    · refine Prog.wp_bind.mpr (Prog.wp_mono (x.runTask_spec hu hlog) fun r v hleft => ?_)
      cases r with
      | error e => exact ⟨hleft.1, by rintro _ ⟨⟩⟩
      | ok exit =>
        have hvids : claimedIds v.log = claimedIds s.log ++ [task.taskId] := by
          rw [hleft.2.1, huids, hids, List.map_singleton]
        refine ih hleft.1 (hcounts.count hvids ?_) ?_
        · rw [hleft.2.2 exit rfl, huends, hends]
        · rw [hvids, List.length_append, List.length_singleton]
          omega

theorem TaskScheduler.runOnce_spec (x : TaskScheduler) (db : TaskDb) (limit : ℤ) :
    (x.runOnce limit).wp (fun s _ => x.Audit db limit.toNat s) (Works x.workerId)
      (x.Reported db limit.toNat) ⟨db, []⟩ := by
  have hstart : x.Audit db limit.toNat ⟨db, []⟩ := ⟨.nil, List.nodup_nil, Nat.zero_le _, by simp⟩
  unfold TaskScheduler.runOnce
  by_cases hlimit : limit ≤ 0
  · rw [if_pos hlimit]
    exact ⟨hstart, by rintro _ ⟨⟩⟩
  · rw [if_neg hlimit]
    refine x.runLoop_spec limit.toNat hstart ⟨rfl, rfl, rfl⟩ ?_
    show 0 + limit.toNat ≤ limit.toNat
    omega

end Loop

/-! ### What the log tells -/

/-- The status an end writes. -/
def endStatus (error : Option String) : AutomationTaskStatus :=
  if error.isSome then .failed else .succeeded

section Told

variable {x : TaskScheduler} {db a b c : TaskDb} {limit : ℕ} {s : SchedulerSite} {w taskId : String}
  {e : SchedulerEvent} {ls pre post : List SchedulerEvent} {error : Option String}
  {finishedAt : DateTime}

theorem QueueStep.unique {l : QueueCall} (h : QueueStep a l b) (h' : QueueStep a l c) : b = c := by
  obtain ⟨op, out⟩ := l
  cases out with
  | none => exact h.1.trans h'.1.symm
  | some out => exact congrArg Prod.fst (Except.ok.inj (Eq.trans (Eq.symm h) h'))

theorem LogStep.unique (h : LogStep w a e b) (h' : LogStep w a e c) : b = c := by
  cases e with
  | other l => exact QueueStep.unique h.2 h'.2
  | ended => exact Eq.trans h (Eq.symm h')
  | claimed c out => exact congrArg Prod.fst (Except.ok.inj (Eq.trans (Eq.symm h.2) h'.2))
  | quarantined now => exact congrArg Prod.fst (Except.ok.inj (Eq.trans (Eq.symm h) h'))
  | finished id error at_ => exact congrArg Prod.fst (Except.ok.inj (Eq.trans (Eq.symm h) h'))

/-- The row an end is written on, before it and after it. -/
theorem finished_row (h : LogStep w a (.finished taskId error finishedAt) b) :
    (∃ t ∈ a.tasks, t.taskId = taskId ∧ t.Held w t.leaseUntil ∧
      ∀ u ∈ t.leaseUntil, finishedAt.instant < u.instant) ∧
      ∃ t ∈ b.tasks, t.taskId = taskId ∧ t.status = endStatus error ∧ t.lastError = error := by
  obtain ⟨tasks, hfinish, he⟩ := map_ok h
  cases he
  unfold finishTask at hfinish
  split at hfinish
  · cases hfinish
  rename_i t ht
  obtain ⟨hmem, hid⟩ := byId_mem ht
  split_ifs at hfinish with hrun hworker hlease
  have hstatus : t.status = .running := not_not.mp hrun
  have hheld : t.workerId = some w := by
    by_contra hne
    exact hworker ⟨rfl, hne⟩
  have hunexpired : ∀ u ∈ t.leaseUntil, finishedAt.instant < u.instant := by
    intro u hu
    by_contra hle
    exact hlease (by rw [hu]; simpa using not_lt.mp hle)
  refine ⟨⟨t, hmem, hid, ⟨hstatus, hheld, rfl⟩, hunexpired⟩, finishRow error finishedAt t, ?_, ?_⟩
  · rw [← Except.ok.inj hfinish]
    exact List.mem_map.mpr ⟨t, hmem, if_pos hid⟩
  · rw [finishRow_eq hstatus hunexpired]
    exact ⟨hid, rfl, rfl⟩

/-- **An end is earned.** Its row was held under the lease of the claim from the
claim on, and the lease was not over. -/
theorem TaskScheduler.Audit.earned (hids : (db.tasks.map (·.taskId)).Nodup) (h : x.Audit db limit s)
    (hpre : s.log = pre ++ .finished taskId error finishedAt :: post) :
    ∃ before c task since, pre = before ++ .claimed c [task] :: since ∧ task.taskId = taskId ∧
      x.Earned task error since ∧
      finishedAt.instant < c.leaseUntil.instant ∧
      ∀ since₁ since₂ a, since = since₁ ++ since₂ →
        Run (LogStep x.workerId) db (before ++ .claimed c [task] :: since₁) a →
        ∃ t ∈ a.tasks, t.taskId = taskId ∧ t.Held x.workerId (some c.leaseUntil) := by
  obtain ⟨before, c, task, since, rfl, hid, hearned⟩ := h.due _ _ _ _ _ hpre
  have hrun := h.run
  rw [hpre] at hrun
  obtain ⟨a, b, ha, hstep, -⟩ := hrun.at_label
  obtain ⟨⟨t, ht, htid, hheld, hunexpired⟩, -⟩ := finished_row hstep
  have hquiet : ∀ e ∈ since, e.own = false ∨ ∃ id raised, e = .ended id raised := by
    intro e he
    by_cases hown : e.own = true
    · have hmem : e ∈ since.filter (·.own) := List.mem_filter.mpr ⟨he, hown⟩
      unfold TaskScheduler.Earned at hearned
      split_ifs at hearned
      · rw [hearned] at hmem
        exact .inr ⟨_, _, List.mem_singleton.mp hmem⟩
      · rw [hearned.1] at hmem
        cases hmem
    · exact .inl (Bool.not_eq_true _ ▸ hown)
  have hsteps : ∀ a e b c, LogStep x.workerId a e b → LogStep x.workerId a e c → b = c :=
    fun _ _ _ _ => LogStep.unique
  -- back from the end to any state since the claim
  have hback : ∀ since₁ since₂ d, since = since₁ ++ since₂ →
      Run (LogStep x.workerId) db (before ++ .claimed c [task] :: since₁) d →
        ∃ u ∈ d.tasks, u.taskId = taskId ∧ u.Held x.workerId t.leaseUntil := by
    intro since₁ since₂ d hsince hd
    rw [hsince, ← List.cons_append, ← List.append_assoc] at ha
    obtain ⟨d', hd', hrest⟩ := Run.split ha
    obtain rfl : d = d' := Run.unique hsteps hd hd'
    refine heldThrough (logRun_nodup_ids hids hd) hrest (fun e he => ?_) ⟨t, ht, htid, hheld⟩
    exact hquiet e (hsince ▸ List.mem_append_right _ he)
  have hlease : t.leaseUntil = some c.leaseUntil := by
    obtain ⟨d, d', hd, hclaim, hrest⟩ := ha.at_label
    obtain ⟨u, hu, huid, huheld⟩ := hback [] since d' rfl (by simpa using hd.snoc hclaim)
    obtain ⟨htasks, hout⟩ := claimed_apply hclaim.2
    obtain ⟨v, hv, hvid, hvheld⟩ := claimTransaction_held (c := c) (u := task)
        (logRun_nodup_ids hids hd)
      (hout ▸ List.mem_singleton_self task)
    rw [← htasks] at hv
    obtain rfl :=
      eq_of_taskId (hclaim.nodup_ids (logRun_nodup_ids hids hd))
        hu hv (huid.trans (hid.symm.trans hvid.symm))
    exact huheld.leaseUntil.symm.trans hvheld.leaseUntil
  refine ⟨before, c, task, since, rfl, hid, hearned, hunexpired _ hlease,
    fun since₁ since₂ d hsince hd => ?_⟩
  rw [← hlease]
  exact hback since₁ since₂ d hsince hd

/-- A row under a relation of tables that keeps the ids. -/
theorem byId_related {R : AutomationTask → AutomationTask → Prop}
    (hR : ∀ t t', R t t' → t'.taskId = t.taskId)
    {rows rows' : List AutomationTask} (h : List.Forall₂ R rows rows') (taskId : String) :
    (byId rows taskId = none ∧ byId rows' taskId = none) ∨
      ∃ t t', byId rows taskId = some t ∧ byId rows' taskId = some t' ∧ R t t' := by
  induction h with
  | nil => exact .inl ⟨rfl, rfl⟩
  | @cons t t' rows rows' hr _ ih =>
    unfold byId at ih ⊢
    rw [List.find?_cons, List.find?_cons, hR t t' hr]
    by_cases hid : t.taskId = taskId
    · simp only [hid, decide_true]
      exact .inr ⟨t, t', rfl, rfl, hr⟩
    · simp only [hid, decide_false]
      exact ih

/-- **The others' rows are left alone.** Of the events of the run, only its end
writes on the row of a task it claimed before, and the quarantine of a later claim. -/
theorem TaskScheduler.Audit.leaves (hids : (db.tasks.map (·.taskId)).Nodup) (h : x.Audit db limit s)
    (hpre : s.log = pre ++ e :: post) (ha : Run (LogStep x.workerId) db pre a)
    (hstep : LogStep x.workerId a e b)
    (hown : e.own = true) (hclaimed : taskId ∈ claimedIds pre)
    (hend : ∀ error at_, e ≠ .finished taskId error at_) :
    byId b.tasks taskId = byId a.tasks taskId ∨ ∃ now reason t, e = .quarantined now ∧
      byId a.tasks taskId = some t ∧
      byId b.tasks taskId = some (quarantineRow now reason t) := by
  have hn := logRun_nodup_ids hids ha
  cases e with
  | other l => cases hown
  | ended id raised => exact .inl (congrArg (fun d => byId d.tasks taskId) hstep)
  | quarantined now =>
    obtain rfl := congrArg Prod.fst (Except.ok.inj hstep)
    have hrows : List.Forall₂ (fun t t' => t'.taskId = t.taskId ∧
        (t' = t ∨ ∃ reason, t' = quarantineRow now reason t))
        a.tasks (quarantineLegacyExternalTasks a now none).tasks := by
      refine (quarantine_rows a now none).imp fun t t' ht => ?_
      rcases ht with rfl | ⟨-, -, reason, rfl⟩
      · exact ⟨rfl, .inl rfl⟩
      · refine ⟨?_, .inr ⟨reason, rfl⟩⟩
        unfold quarantineRow
        split_ifs <;> rfl
    rcases byId_related (fun _ _ ht => ht.1)
      hrows taskId with ⟨hnone, hnone'⟩ | ⟨t, t', ht, ht', -, rfl | ⟨reason, rfl⟩⟩
    · exact .inl (hnone'.trans hnone.symm)
    · exact .inl (ht'.trans ht.symm)
    · exact .inr ⟨now, reason, t, rfl, ht, ht'⟩
  | claimed c out =>
    left
    obtain ⟨htasks, hout⟩ := claimed_apply hstep.2
    have hnot : ∀ u ∈ out, u.taskId ≠ taskId := by
      intro u hu hid
      have honce := h.once
      rw [hpre, claimedIds_append] at honce
      refine (List.nodup_append.mp honce).2.2 taskId hclaimed taskId ?_ rfl
      refine List.mem_flatMap.mpr ⟨_, List.mem_cons_self .., ?_⟩
      exact List.mem_map.mpr ⟨u, hu, hid⟩
    have hrows :
        List.Forall₂ (fun t t' => t'.taskId = t.taskId ∧ (t' ∈ out ∨ t' = t)) a.tasks b.tasks := by
      rw [htasks, hout]
      refine (claimTransaction_rows hn).imp fun t t' ht => ?_
      rcases ht with ⟨-, hmem, rfl⟩ | ⟨rfl, -⟩
      · exact ⟨claimRow_taskId _ _ _ t, .inl hmem⟩
      · exact ⟨rfl, .inr rfl⟩
    rcases byId_related (fun _ _ ht => ht.1)
      hrows taskId with ⟨hnone, hnone'⟩ | ⟨t, t', ht, ht', -, hmem | rfl⟩
    · exact hnone'.trans hnone.symm
    · exact absurd (byId_mem ht').2 (hnot t' hmem)
    · exact ht'.trans ht.symm
  | finished id error at_ =>
    left
    have hne : id ≠ taskId := by
      rintro rfl
      exact hend error at_ rfl
    obtain ⟨tasks, hfinish, he⟩ := map_ok hstep
    cases he
    unfold finishTask at hfinish
    split at hfinish
    · cases hfinish
    split_ifs at hfinish
    rw [← Except.ok.inj hfinish]
    have hrows : List.Forall₂ (fun t t' : AutomationTask =>
        t'.taskId = t.taskId ∧ (t.taskId = id ∨ t' = t)) a.tasks
        (updateRow a.tasks id (finishRow error at_)) := by
      rw [updateRow, List.forall₂_map_right_iff]
      refine List.forall₂_same.mpr fun t _ => ?_
      split_ifs with hid
      · refine ⟨?_, .inl hid⟩
        unfold finishRow
        split_ifs <;> rfl
      · exact ⟨rfl, .inr rfl⟩
    rcases byId_related (fun t t' ht => ht.1)
      hrows taskId with ⟨hnone, hnone'⟩ | ⟨t, t', ht, ht', -, hid | rfl⟩
    · exact hnone'.trans hnone.symm
    · exact absurd (hid.symm.trans (byId_mem ht).2) hne
    · exact ht'.trans ht.symm

/-- What ended a row that was running. -/
theorem ended_by (hids : (a.tasks.map (·.taskId)).Nodup)
    (hrunning : ∀ t ∈ a.tasks, t.taskId = taskId → t.status = .running)
    (h : Run (LogStep w) a ls b) :
    ∀ t ∈ b.tasks, t.taskId = taskId → t.status = .succeeded ∨ t.status = .failed →
      ∃ e ∈ ls, ∃ error finishedAt worker out,
        e.call w = some ⟨.finish taskId error finishedAt worker, some out⟩ ∧
          t.status = endStatus error := by
  refine Run.inv_labels (I := fun ls (b : TaskDb) => ∀ t ∈ b.tasks, t.taskId = taskId →
    t.status = .succeeded ∨ t.status = .failed → ∃ e ∈ ls, ∃ error finishedAt worker out,
      e.call w = some ⟨.finish taskId error finishedAt worker, some out⟩ ∧
        t.status = endStatus error) ?_ ?_ h
  · intro t ht hid hstatus
    rw [hrunning t ht hid] at hstatus
    simp at hstatus
  · intro ls c e d hrun ih hstep t' ht' hid hstatus
    have hlater : (∃ e ∈ ls, ∃ error finishedAt worker out,
        e.call w = some ⟨.finish taskId error finishedAt worker, some out⟩ ∧
          t'.status = endStatus error) →
        ∃ e' ∈ ls ++ [e], ∃ error finishedAt worker out,
          e'.call w = some ⟨.finish taskId error finishedAt worker, some out⟩ ∧
            t'.status = endStatus error := by
      rintro ⟨k, hk, hrest⟩
      exact ⟨k, List.mem_append_left _ hk, hrest⟩
    rcases hstep.changes with rfl | ⟨op, out, hcall, happly, -⟩
    · exact hlater (ih t' ht' hid hstatus)
    rcases op.mem_cases (logRun_nodup_ids hids hrun) happly ht' with ⟨t, ht, hmove⟩ | hrow
    · have htid := hmove.taskId.symm.trans hid
      cases hmove with
      | same hs =>
        rw [hs.status] at hstatus hlater ⊢
        exact hlater (ih t ht htid hstatus)
      | claimed c _ hc _ he =>
        rw [he, claimRow_eq hc] at hstatus
        simp at hstatus
      | finished error at_ worker hop hr _ hu he =>
        refine ⟨e, List.mem_append_right _ (List.mem_singleton_self e), error, at_, worker,
          out, ?_, ?_⟩
        · rw [hcall, hop, htid]
        · rw [he, finishRow_eq hr hu]
          rfl
      | rescheduled task due upd payload _ _ _ _ he =>
        rw [he] at hstatus
        simp at hstatus
      | cancelled at_ _ hs =>
        rw [hs.status] at hstatus
        simp [cancelRow] at hstatus
      | requeued now stale _ _ he =>
        rw [he] at hstatus
        simp [requeueRow] at hstatus
      | quarantined now reason hx hu he =>
        rw [he, quarantineRow_eq hx hu] at hstatus
        simp at hstatus
    · rw [created_row hrow] at hstatus
      simp at hstatus

/-- A claimed row is ended by an end in the log. -/
theorem TaskScheduler.Audit.ended_by (hids : (db.tasks.map (·.taskId)).Nodup)
    (h : x.Audit db limit s)
    (hclaimed : taskId ∈ claimedIds s.log) {t : AutomationTask} (ht : t ∈ s.db.tasks)
    (hid : t.taskId = taskId) (hstatus : t.status = .succeeded ∨ t.status = .failed) :
    ∃ e ∈ s.log, ∃ error finishedAt worker out,
      e.call x.workerId = some ⟨.finish taskId error finishedAt worker, some out⟩ ∧
        t.status = endStatus error := by
  obtain ⟨e, he, hmem⟩ := List.mem_flatMap.mp hclaimed
  cases e with
  | claimed c out =>
    obtain ⟨u, hu, huid⟩ := List.mem_map.mp hmem
    obtain ⟨before, post, hlog⟩ := List.append_of_mem he
    have hrun := h.run
    rw [hlog] at hrun
    obtain ⟨d, d', hd, hstep, hrest⟩ := hrun.at_label
    have hn := hstep.nodup_ids (logRun_nodup_ids hids hd)
    obtain ⟨htasks, hout⟩ := claimed_apply hstep.2
    obtain ⟨v, hv, hvid, hvheld⟩ := claimTransaction_held (logRun_nodup_ids hids hd) (hout ▸ hu)
    rw [← htasks] at hv
    have hrunning : ∀ t ∈ d'.tasks, t.taskId = taskId → t.status = .running := by
      intro t ht hid
      obtain rfl := eq_of_taskId hn ht hv (hid.trans (huid.symm.trans hvid.symm))
      exact hvheld.status
    obtain ⟨k, hk, hend⟩ := TemperatureMonitor.ended_by hn hrunning hrest t ht hid hstatus
    exact ⟨k, hlog ▸ List.mem_append_right _ (List.mem_cons_of_mem _ hk), hend⟩
  | _ => cases hmem

end Told

/-- **The account of `run_once`**, whatever the handlers and the others do and
wherever the run is cut off. No task is claimed twice, and no more than the
limit. A task the run ends was held under its claim's lease from the claim to the
end, which says what the handler came to; on every other row it claimed the run
writes nothing more, but for the quarantine of a later claim; a claimed row that
is SUCCEEDED or FAILED was ended by a call in the log; and a report counts the
claims, the exits and the ends committed as SUCCEEDED. -/
theorem runOnce_accounts (x : TaskScheduler) (limit : ℤ) {db : TaskDb}
    (hids : (db.tasks.map (·.taskId)).Nodup)
    {made : List (Made SchedulerCall SchedulerCall.Answer SchedulerError)}
    {rest : SchedulerProg SchedulerRunReport}
    {s : SchedulerSite} (h : Prog.Takes (Works x.workerId) (x.runOnce limit) ⟨db, []⟩ made rest s) :
    (claimedIds s.log).Nodup ∧ (claimedIds s.log).length ≤ limit.toNat ∧
    (∀ pre taskId error finishedAt post, s.log = pre ++ .finished taskId error finishedAt :: post →
      (∃ before c task since, pre = before ++ .claimed c [task] :: since ∧ task.taskId = taskId ∧
        x.Earned task error since ∧
        finishedAt.instant < c.leaseUntil.instant ∧
        ∀ since₁ since₂ a, since = since₁ ++ since₂ →
          Run (LogStep x.workerId) db (before ++ .claimed c [task] :: since₁) a →
          ∃ t ∈ a.tasks, t.taskId = taskId ∧ t.Held x.workerId (some c.leaseUntil)) ∧
      ∀ b, Run (LogStep x.workerId) db (pre ++ [.finished taskId error finishedAt]) b →
        ∃ t ∈ b.tasks, t.taskId = taskId ∧ t.status = endStatus error ∧ t.lastError = error) ∧
    (∀ pre e post a b taskId, s.log = pre ++ e :: post → Run (LogStep x.workerId) db pre a →
      LogStep x.workerId a e b →
      e.own = true → taskId ∈ claimedIds pre →
        (∀ error finishedAt, e ≠ .finished taskId error finishedAt) →
        byId b.tasks taskId = byId a.tasks taskId ∨ ∃ now reason t, e = .quarantined now ∧
          byId a.tasks taskId = some t ∧
          byId b.tasks taskId = some (quarantineRow now reason t)) ∧
    (∀ t ∈ s.db.tasks, t.taskId ∈ claimedIds s.log → t.status = .succeeded ∨ t.status = .failed →
      ∃ e ∈ s.log, ∃ error finishedAt worker out,
        e.call x.workerId = some ⟨.finish t.taskId error finishedAt worker, some out⟩ ∧
          t.status = endStatus error) ∧
    ∀ report, rest = .done (.ok report) → report.Accounts s.log := by
  have hwp := h.wp (x.runOnce_spec db limit)
  have haudit : x.Audit db limit.toNat s := by
    cases rest with
    | done r => exact hwp.1
    | call c next => exact hwp.1
  refine ⟨haudit.once, haudit.few, ?_, ?_, ?_, ?_⟩
  · intro pre taskId error finishedAt post hpre
    refine ⟨haudit.earned hids hpre, fun b hb => ?_⟩
    obtain ⟨a, -, hstep⟩ := hb.last
    exact (finished_row hstep).2
  · intro pre e post a b taskId hpre ha hstep hown hclaimed hend
    exact haudit.leaves hids hpre ha hstep hown hclaimed hend
  · intro t ht hclaimed hstatus
    exact haudit.ended_by hids hclaimed ht rfl hstatus
  · rintro report rfl
    exact hwp.2 report rfl

/-! ### A task that a handler rescheduled -/

/-- One handler, of alarm notifications. -/
def notifier : TaskScheduler where
  workerId := "w1"
  leaseFor := 60000000
  handlers := ["NOTIFY_ALARM", "SYNC_STANDARD"]
  named := by decide
  leased := by decide

/-- An alarm notification of the active epoch. -/
def activeNotice : AutomationTask :=
  { taskId := "t1", taskType := "NOTIFY_ALARM", entityType := "ALARM", entityId := "a1", dueAt := .utc 0, createdAt := .utc 0
    updatedAt := .utc 0, createdMode := some "active", activeEpoch := some "e1" }

def syncTask : AutomationTask :=
  { taskId := "t2", taskType := "SYNC_STANDARD", entityType := "SYSTEM", entityId := "standards", dueAt := .utc 1000000
    createdAt := .utc 0, updatedAt := .utc 0 }

/-- The runtime row after the start in Active mode, and after another process started in Shadow. -/
def activeRuntime : RuntimeActivation :=
  { mode := "active", activeEpoch := some "e1", activeCutoverAt := some (.utc 0), updatedAt := some (.utc 0) }

def shadowRuntime : RuntimeActivation := { mode := "shadow", updatedAt := some (.utc 1500000) }

def noticeDb (runtime : RuntimeActivation) (notice sync : AutomationTask) : TaskDb :=
  { tasks := [notice, sync], runtime := some runtime }

def claimedNotice : AutomationTask :=
  { activeNotice with status := .running, startedAt := some (.utc 0), leaseUntil := some (.utc 60000000)
                      workerId := some "w1", attemptCount := 1 }

def rescheduledNotice : AutomationTask :=
  { claimedNotice with status := .pending, dueAt := .utc 5000000, updatedAt := .utc 500000, leaseUntil := none, workerId := none }

def quarantinedNotice : AutomationTask :=
  quarantineRow (.utc 2000000) "external_effect_blocked_while_runtime_not_active" rescheduledNotice

def claimedSync : AutomationTask :=
  { syncTask with status := .running, startedAt := some (.utc 2000000), leaseUntil := some (.utc 62000000)
                  workerId := some "w1", updatedAt := .utc 2000000, attemptCount := 1 }

/-- The log until the second claim. -/
def noticeLog : List SchedulerEvent :=
  [.quarantined (.utc 0), .claimed (notifier.claimCall (.utc 0) []) [claimedNotice],
    .other ⟨.reschedule claimedNotice (.utc 5000000) (.utc 500000) {}, some []⟩, .ended "t1" none,
    .other ⟨.setRuntimeContext "shadow" (.utc 1500000) none "", some []⟩]

/-- The log from the second claim on. -/
def syncLog : List SchedulerEvent :=
  [.claimed (notifier.claimCall (.utc 2000000) ["t1"]) [claimedSync], .ended "t2" none,
    .finished "t2" none (.utc 3000000)]

theorem works_alone {w : String} {s t : SchedulerSite} {c : SchedulerCall}
    {r : Except SchedulerError c.Answer} (h : Serves w s c r t) : Works w s c r t :=
  ⟨s, ⟨[], by simp, .nil, (List.append_nil _).symm⟩, h⟩

/-- A call of another before a call of the run. -/
theorem works_after {w : String} {s m t : SchedulerSite} {l : QueueCall} {c : SchedulerCall}
    {r : Except SchedulerError c.Answer} (hl : LogStep w s.db (.other l) m.db)
    (hlog : m.log = s.log ++ [.other l]) (h : Serves w m c r t) : Works w s c r t :=
  ⟨m, ⟨[.other l], fun _ he => List.mem_singleton.mp he ▸ rfl, .one hl, hlog⟩, h⟩

theorem notice_claimed : LogStep "w1" (noticeDb activeRuntime activeNotice syncTask)
    (.claimed (notifier.claimCall (.utc 0) []) [claimedNotice])
      (noticeDb activeRuntime claimedNotice syncTask) :=
  ⟨rfl, by decide +kernel⟩

theorem notice_rescheduled : LogStep "w1" (noticeDb activeRuntime claimedNotice syncTask)
    (.other ⟨.reschedule claimedNotice (.utc 5000000) (.utc 500000) {}, some []⟩)
    (noticeDb activeRuntime rescheduledNotice syncTask) :=
  ⟨⟨by rintro _ ⟨⟩, by simp⟩, show _ = _ by decide +kernel⟩

theorem runtime_shadowed : LogStep "w1" (noticeDb activeRuntime rescheduledNotice syncTask)
    (.other ⟨.setRuntimeContext "shadow" (.utc 1500000) none "", some []⟩)
      (noticeDb shadowRuntime rescheduledNotice syncTask) :=
  ⟨⟨by rintro _ ⟨⟩, by simp⟩, show _ = _ by decide +kernel⟩

theorem notice_kept :
    LogStep "w1" (noticeDb activeRuntime activeNotice syncTask) (.quarantined (.utc 0))
    (noticeDb activeRuntime activeNotice syncTask) := by
  show _ = _
  decide +kernel

theorem notice_quarantined :
    LogStep "w1" (noticeDb shadowRuntime rescheduledNotice syncTask) (.quarantined (.utc 2000000))
    (noticeDb shadowRuntime quarantinedNotice syncTask) := by
  show _ = _
  decide +kernel

theorem noticeLog_run : Run (LogStep "w1") (noticeDb activeRuntime activeNotice syncTask) noticeLog
    (noticeDb shadowRuntime rescheduledNotice syncTask) :=
  .cons notice_kept
    (.cons notice_claimed (.cons notice_rescheduled (.cons rfl (.one runtime_shadowed))))

/-- Two claims: the first task was rescheduled by its handler, the second is done. -/
theorem notifier_run : ∃ made,
    Prog.Takes (Works "w1") (notifier.runOnce 2) ⟨noticeDb activeRuntime activeNotice syncTask, []⟩
    made (.done (.ok ⟨2, 1, 0, 1⟩))
    ⟨noticeDb shadowRuntime quarantinedNotice (finishRow none (.utc 3000000) claimedSync),
      noticeLog ++ .quarantined (.utc 2000000) :: syncLog⟩ := by
  have hrefused : finishTask (noticeDb activeRuntime rescheduledNotice syncTask).tasks "t1" none
      (.utc 1000000) (some "w1") =
      .error (.valueError "cannot finish task in state PENDING") := by decide +kernel
  have hsync : (QueueOp.claimTransaction (notifier.claimCall (.utc 2000000) ["t1"])).apply
      (noticeDb shadowRuntime quarantinedNotice syncTask) =
      .ok (noticeDb shadowRuntime quarantinedNotice claimedSync, [claimedSync]) := by decide +kernel
  have hdone : (QueueOp.finish "t2" none (.utc 3000000) (some "w1")).apply
      (noticeDb shadowRuntime quarantinedNotice claimedSync) =
      .ok (noticeDb shadowRuntime quarantinedNotice (finishRow none (.utc 3000000) claimedSync),
        []) := by decide +kernel
  have h0 : Prog.Takes (Works "w1") (notifier.runOnce 2)
      ⟨noticeDb activeRuntime activeNotice syncTask, []⟩ []
      (notifier.runOnce 2) ⟨noticeDb activeRuntime activeNotice syncTask, []⟩ := .nil
  have h1 := h0.snoc (works_alone (c := .clock) (r := .ok (.utc 0)) ⟨⟨_, rfl⟩, rfl⟩)
  have h2 := h1.snoc (works_alone (r := .ok ())
      (t := ⟨noticeDb activeRuntime activeNotice syncTask, noticeLog.take 1⟩)
    (.inl ⟨rfl, notice_kept, rfl⟩))
  have h3 := h2.snoc (works_alone (r := .ok [claimedNotice])
    (t := ⟨noticeDb activeRuntime claimedNotice syncTask, noticeLog.take 2⟩)
      (.inl ⟨_, rfl, notice_claimed, rfl⟩))
  have h4 := h3.snoc (works_after (r := .ok none)
    (m := ⟨noticeDb activeRuntime rescheduledNotice syncTask, noticeLog.take 3⟩)
    (t := ⟨noticeDb activeRuntime rescheduledNotice syncTask, noticeLog.take 4⟩)
      notice_rescheduled rfl ⟨none, rfl, rfl, rfl⟩)
  have h5 := h4.snoc (works_alone (c := .clock) (r := .ok (.utc 1000000)) ⟨⟨_, rfl⟩, rfl⟩)
  have h6 := h5.snoc (works_alone (.inr (.inl ⟨_, hrefused, rfl, rfl⟩)))
  have h7 := h6.snoc (works_after (c := .clock) (r := .ok (.utc 2000000))
    (m := ⟨noticeDb shadowRuntime rescheduledNotice syncTask, noticeLog⟩)
      runtime_shadowed rfl ⟨⟨_, rfl⟩, rfl⟩)
  have h8 := h7.snoc (works_alone (r := .ok ())
    (t := ⟨noticeDb shadowRuntime quarantinedNotice syncTask,
      noticeLog ++ [.quarantined (.utc 2000000)]⟩)
    (.inl ⟨rfl, notice_quarantined, rfl⟩))
  have h9 := h8.snoc (works_alone (r := .ok [claimedSync])
    (t := ⟨noticeDb shadowRuntime quarantinedNotice claimedSync,
      noticeLog ++ .quarantined (.utc 2000000) :: syncLog.take 1⟩)
    (.inl ⟨[claimedSync], rfl, ⟨rfl, hsync⟩, rfl⟩))
  have h10 := h9.snoc (works_alone (r := .ok none)
    (t := ⟨noticeDb shadowRuntime quarantinedNotice claimedSync,
      noticeLog ++ .quarantined (.utc 2000000) :: syncLog.take 2⟩)
    ⟨none, rfl, rfl, rfl⟩)
  have h11 := h10.snoc (works_alone (c := .clock) (r := .ok (.utc 3000000)) ⟨⟨_, rfl⟩, rfl⟩)
  have h12 := h11.snoc (works_alone (r := .ok ())
    (t := ⟨noticeDb shadowRuntime quarantinedNotice (finishRow none (.utc 3000000) claimedSync),
      noticeLog ++ .quarantined (.utc 2000000) :: syncLog⟩) (.inl ⟨rfl, rfl, hdone, rfl⟩))
  exact ⟨_, h12⟩

theorem runOnce_accounts_notifier :
    (claimedIds (noticeLog ++ .quarantined (.utc 2000000) :: syncLog)).Nodup ∧
    SchedulerRunReport.Accounts ⟨2, 1, 0, 1⟩
      (noticeLog ++ .quarantined (.utc 2000000) :: syncLog) := by
  obtain ⟨made, hrun⟩ := notifier_run
  have h := runOnce_accounts notifier 2 (by decide) hrun
  exact ⟨h.1, h.2.2.2.2.2 _ rfl⟩

/-- The run writes no end on the task its handler rescheduled, and still moves
it: another process started in Shadow meanwhile, and the claim of the next task
holds external effects back. -/
theorem rescheduled_quarantined :
    setRuntimeContext {} "active" (.utc 0) none "e1" = .ok { runtime := some activeRuntime } ∧
    ∃ made report s pre now post a b,
    Prog.Takes (Works "w1") (notifier.runOnce 2) ⟨noticeDb activeRuntime activeNotice syncTask, []⟩
        made (.done (.ok report)) s ∧
      s.log = pre ++ .quarantined now :: post ∧ "t1" ∈ claimedIds pre ∧
      (∀ e ∈ s.log, ∀ error finishedAt, e ≠ .finished "t1" error finishedAt) ∧
      Run (LogStep "w1") (noticeDb activeRuntime activeNotice syncTask) pre a ∧
        LogStep "w1" a (.quarantined now) b ∧
      (byId a.tasks "t1").map (·.status) = some .pending ∧
        (byId b.tasks "t1").map (·.status) = some .legacyPending ∧
      (byId s.db.tasks "t1").map (·.status) = some .legacyPending := by
  obtain ⟨made, hrun⟩ := notifier_run
  refine ⟨by decide +kernel, made, _, _, noticeLog, _, syncLog, _, _, hrun, rfl, by
    decide, ?_, noticeLog_run,
    notice_quarantined, by decide, by decide +kernel, by decide +kernel⟩
  intro e he error finishedAt
  simp only [noticeLog, syncLog, List.cons_append, List.nil_append, List.mem_cons, List.not_mem_nil,
    or_false] at he
  rcases he with rfl | rfl | rfl | rfl | rfl | rfl | rfl | rfl | rfl <;> simp

end TemperatureMonitor
