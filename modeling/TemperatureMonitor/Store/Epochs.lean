/-
# External effects stay in their epoch

A row that stands for an external effect carries the mode and the epoch it was
created in. Once a runtime context has been set, a claim returns such a row
only in the Active epoch it was created in, and not from before the cutover
(`claimed_in_epoch`): the quarantine that begins a claim holds back every
other one, whichever call put it back in the queue. A repository without a
runtime context claims everything (`epoch_isolation_unknown_mode`).
-/
import TemperatureMonitor.Store.Leases

namespace TemperatureMonitor

/-! ### The runtime row -/

/-- What `set_runtime_context` writes. -/
structure RuntimeActivation.Valid (offset : ℤ) (a : RuntimeActivation) : Prop where
  mode : a.mode ∈ runtimeModes
  active : a.mode = "active" → truthy a.activeEpoch = true ∧ ∃ c, a.activeCutoverAt = some c ∧
    InZone offset c

/-- The Active epoch a call opens. -/
def QueueOp.opens (db : TaskDb) : QueueOp → Option String
  | setRuntimeContext mode _ activeEpoch uuid =>
    if (strip mode).toLower = "active" ∧ activePrevious db.runtime = none then
      some (newEpoch activeEpoch uuid) else none
  | _ => none

/-- The runtime row is a call's, ids are the primary key, and creation times are in the zone. -/
structure TaskDb.Epochs (offset : ℤ) (db : TaskDb) : Prop where
  ids : (db.tasks.map (·.taskId)).Nodup
  runtime : ∀ a ∈ db.runtime, a.Valid offset
  created : ∀ t ∈ db.tasks, InZone offset t.createdAt

/-- The call is made in the zone, a row it inserts has a fresh id, and an epoch
it opens is fresh. -/
structure EpochFits (offset : ℤ) (db : TaskDb) (l : QueueCall) : Prop where
  zone : InZone offset l.op.time
  freshId : ∀ row ∈ l.op.created db.activation, ∀ t ∈ db.tasks, t.taskId ≠ row.taskId
  freshEpoch : ∀ e ∈ l.op.opens db, e ≠ "" ∧ ∀ t ∈ db.tasks, t.activeEpoch ≠ some e

theorem quarantine_runtime (db : TaskDb) (now : DateTime) (activeEpoch : Option String) :
    (quarantineLegacyExternalTasks db now activeEpoch).runtime = db.runtime := by
  unfold quarantineLegacyExternalTasks
  dsimp only
  generalize (if truthy activeEpoch = true then activeEpoch else db.activation.activeEpoch) = epoch
  split
  · rfl
  split
  · split <;> rfl
  · rfl

section Step

variable {o : ℤ} {db db' : TaskDb} {op : QueueOp} {out : List AutomationTask} {l : QueueCall}

theorem activation_some {a : RuntimeActivation} (h : db.runtime = some a) : db.activation = a := by
  unfold TaskDb.activation
  rw [h]
  rfl

/-- The epoch of a valid active row. -/
theorem epoch_of_valid {a : RuntimeActivation} (ha : a.Valid o) (hm : a.mode = "active") :
    ∃ e c, a.activeEpoch = some e ∧ a.activeCutoverAt = some c ∧ e ≠ "" ∧ InZone o c ∧
      a.epoch = some (e, c) := by
  obtain ⟨ht, c, hc, hz⟩ := ha.active hm
  unfold truthy at ht
  obtain ⟨e, he, hne⟩ := Option.any_eq_true _ _ |>.mp ht
  refine ⟨e, c, he, hc, by simpa using hne, hz, ?_⟩
  unfold RuntimeActivation.epoch
  rw [if_pos ⟨hm, by unfold truthy; exact ht⟩, he, hc]

theorem epoch_of_inactive {a : RuntimeActivation} (hm : a.mode ≠ "active") : a.epoch = none :=
  if_neg fun h => hm h.1

theorem epoch_eq {a : RuntimeActivation} {e : String} {c : DateTime} (h : a.epoch = some (e, c)) :
    a.mode = "active" ∧ a.activeEpoch = some e ∧ a.activeCutoverAt = some c := by
  unfold RuntimeActivation.epoch at h
  split_ifs at h with hm
  split at h
  · rename_i e' c' he hc
    cases h
    exact ⟨hm.1, he, hc⟩
  · cases h

/-- The runtime row after a call: the same, or one that `set_runtime_context` wrote. -/
theorem QueueOp.runtime_cases (h : op.apply db = .ok (db', out)) :
    db'.runtime = db.runtime ∨ ∃ mode now activeEpoch uuid,
      op = .setRuntimeContext mode now activeEpoch uuid ∧
      (strip mode).toLower ∈ runtimeModes ∧ db'.tasks = db.tasks ∧ out = [] ∧
      db'.runtime = some
        { mode := (strip mode).toLower
          activeEpoch := (nextBoundary db.runtime (strip mode).toLower now activeEpoch uuid).1
          activeCutoverAt := (nextBoundary db.runtime (strip mode).toLower now activeEpoch uuid).2
          updatedAt := some now } := by
  cases op with
  | setRuntimeContext mode now activeEpoch uuid =>
    obtain ⟨d, hd, he⟩ := map_ok h
    cases he
    unfold TemperatureMonitor.setRuntimeContext at hd
    dsimp only at hd
    split at hd
    · rename_i hmode
      cases hd
      exact .inr ⟨mode, now, activeEpoch, uuid, rfl, hmode, rfl, rfl, rfl⟩
    · cases hd
  | createOrGet newId spec =>
    cases h
    exact .inl rfl
  | quarantine now activeEpoch =>
    cases h
    exact .inl (quarantine_runtime db now activeEpoch)
  | claimDue c =>
    simp only [QueueOp.apply, TemperatureMonitor.claimDue] at h
    split at h
    · cases h
    cases h
    exact .inl (quarantine_runtime db c.now none)
  | _ =>
    obtain ⟨r, -, he⟩ := map_ok h
    cases he
    exact .inl rfl

/-- The boundary of a mode. -/
theorem nextBoundary_cases (previous : Option RuntimeActivation) (mode : String) (now : DateTime)
    (activeEpoch : Option String) (uuid : String) :
    (∃ p, activePrevious previous = some p ∧ mode = "active" ∧
        nextBoundary previous mode now activeEpoch uuid = (p.activeEpoch, p.activeCutoverAt)) ∨
      (activePrevious previous = none ∧ mode = "active" ∧
        nextBoundary previous mode now activeEpoch uuid =
          (some (newEpoch activeEpoch uuid), some now)) ∨
      mode ≠ "active" ∧ nextBoundary previous mode now activeEpoch uuid = (none, none) := by
  unfold nextBoundary
  by_cases hm : mode = "active"
  · rw [if_pos hm]
    cases hp : activePrevious previous with
    | some p => exact .inl ⟨p, rfl, hm, rfl⟩
    | none => exact .inr (.inl ⟨rfl, hm, rfl⟩)
  · rw [if_neg hm]
    exact .inr (.inr ⟨hm, rfl⟩)

theorem activePrevious_some {previous : Option RuntimeActivation} {p : RuntimeActivation}
    (h : activePrevious previous = some p) : previous = some p ∧ p.mode = "active" ∧
      truthy p.activeEpoch = true := by
  unfold activePrevious at h
  obtain ⟨hs, hc⟩ := Option.filter_eq_some_iff.mp h
  simp only [Bool.and_eq_true, decide_eq_true_eq] at hc
  exact ⟨hs, hc.1, hc.2⟩

theorem created_at {a : RuntimeActivation} {row : AutomationTask} (h : op.created a = some row) :
    row.createdAt = op.time := by
  cases op with
  | createOrGet newId spec => cases h; rfl
  | createOrGetUnfinished newId spec key => cases h; rfl
  | _ => cases h

/-- A call keeps the runtime row valid. -/
theorem TaskDb.Epochs.apply (hdb : db.Epochs o) (hf : EpochFits o db ⟨op, some out⟩)
    (h : op.apply db = .ok (db', out)) : db'.Epochs o := by
  refine ⟨op.nodup_ids hdb.ids hf.freshId h, fun a ha => ?_, fun t' ht' => ?_⟩
  · rcases op.runtime_cases h with hsame | ⟨mode, now, activeEpoch, uuid, rfl, hmode, -, -, hrt⟩
    · exact hdb.runtime a (hsame ▸ ha)
    · rw [hrt] at ha
      cases ha
      refine ⟨hmode, fun hactive => ?_⟩
      rcases nextBoundary_cases db.runtime (strip mode).toLower now activeEpoch uuid with
        ⟨p, hp, -, heq⟩ | ⟨hnone, -, heq⟩ | ⟨hne, -⟩
      · obtain ⟨hsome, hpm, ht⟩ := activePrevious_some hp
        have hvalid := hdb.runtime p hsome
        show truthy (nextBoundary _ _ _ _ _).1 = true ∧ ∃ c, (nextBoundary _ _ _ _ _).2 = some c ∧ _
        rw [heq]
        exact ⟨ht, (hvalid.active hpm).2⟩
      · show truthy (nextBoundary _ _ _ _ _).1 = true ∧ ∃ c, (nextBoundary _ _ _ _ _).2 = some c ∧ _
        rw [heq]
        have hfresh := (hf.freshEpoch (newEpoch activeEpoch uuid) (if_pos ⟨hactive, hnone⟩)).1
        exact ⟨by simp [truthy, hfresh], now, rfl, hf.zone⟩
      · exact absurd hactive hne
  · rcases op.mem_cases hdb.ids h ht' with ⟨t, ht, hmove⟩ | hrow
    · rw [show t'.createdAt = t.createdAt from congrArg TaskOrigin.createdAt hmove.origin]
      exact hdb.created t ht
    · rw [created_at hrow]
      exact hf.zone

/-! ### What a claim returns -/

/-- An external effect the quarantine leaves unfinished was created in the
Active epoch in force, from its cutover on. -/
theorem quarantine_eligible {a : RuntimeActivation} (hdb : db.Epochs o) (ha : db.runtime = some a)
    {now : DateTime}
    {t : AutomationTask} (ht : t ∈ (quarantineLegacyExternalTasks db now none).tasks)
    (hx : isExternal t = true)
    (hu : t.unfinished = true) : ∃ e c, a.epoch = some (e, c) ∧ t.createdMode = some "active" ∧
      t.activeEpoch = some e ∧ c.instant ≤ t.createdAt.instant := by
  have hvalid := hdb.runtime a ha
  have hheld {reason : String} {r : AutomationTask} (hr : quarantineRow now reason r = t) :
      False := by
    by_cases hq : isExternal r = true ∧ r.unfinished = true
    · rw [quarantineRow_eq hq.1 hq.2] at hr
      rw [← hr] at hu
      cases hu
    · have hsame : quarantineRow now reason r = r := if_neg hq
      rw [hsame] at hr
      exact hq (hr ▸ ⟨hx, hu⟩)
  unfold quarantineLegacyExternalTasks at ht
  rw [activation_some ha] at ht
  dsimp only at ht
  rw [if_neg (show ¬ truthy none = true by decide), if_neg (not_not.mpr hvalid.mode)] at ht
  by_cases hm : a.mode = "active"
  · obtain ⟨e, c, he, hc, -, hz, hepoch⟩ := epoch_of_valid hvalid hm
    rw [if_pos hm, if_pos (hvalid.active hm).1, hc] at ht
    obtain ⟨r, hr, heq⟩ := List.mem_map.mp ht
    split at heq
    · exact (hheld heq).elim
    · rename_i hnot
      rw [heq] at hr hnot
      simp only [beforeCutover, he, Option.getD_some, Bool.or_eq_true, decide_eq_true_eq, not_or,
        not_not, not_lt] at hnot
      exact ⟨e, c, hepoch, hnot.1.1, hnot.1.2, (hz.le_iff (hdb.created t hr)).mp hnot.2⟩
  · rw [if_neg hm] at ht
    obtain ⟨r, -, heq⟩ := List.mem_map.mp ht
    exact (hheld heq).elim

/-- What a claim returns was unfinished behind the quarantine. -/
theorem claimDue_mem {c : ClaimCall} (hids : (db.tasks.map (·.taskId)).Nodup)
    (h : claimDue db c = .ok (db', out)) {t : AutomationTask} (ht : t ∈ out) : t ∈ db'.tasks ∧
      ∃ r ∈ (quarantineLegacyExternalTasks db c.now none).tasks, r.unfinished = true ∧
        r.origin = t.origin := by
  unfold claimDue at h
  split at h
  · cases h
  cases h
  obtain ⟨id, -, hfound⟩ := List.mem_filterMap.mp ht
  have hn : ((quarantineLegacyExternalTasks db c.now none).tasks.map (·.taskId)).Nodup := by
    rw [forall₂_ids (fun t t' ht => ?_) (quarantine_rows db c.now none)]
    · exact hids
    · rcases ht with rfl | ⟨hx, hu, reason, rfl⟩
      · rfl
      · rw [quarantineRow_eq hx hu]
  have hmem := (byId_mem hfound).1
  refine ⟨hmem, ?_⟩
  obtain ⟨r, hr, hrow⟩ := forall₂_mem_right (claimTransaction_rows hn) hmem
  rcases hrow with ⟨hc, -, rfl⟩ | ⟨rfl, hno⟩
  · refine ⟨r, hr, ?_, by rw [claimRow_eq hc]; rfl⟩
    simp only [claimable, decide_eq_true_eq] at hc
    exact unfinished_iff.mpr (hc.imp And.left And.left)
  · exact absurd rfl (hno t ht)

/-- **A claim returns the external effects of its epoch**, once a runtime context has been set. -/
theorem claimDue_epoch {a : RuntimeActivation} {c : ClaimCall} (hdb : db.Epochs o)
    (ha : db.runtime = some a)
    (h : claimDue db c = .ok (db', out)) {t : AutomationTask} (ht : t ∈ out)
    (hx : isExternal t = true) :
    ∃ e cutover, a.epoch = some (e, cutover) ∧ t.createdMode = some "active" ∧
      t.activeEpoch = some e ∧
      cutover.instant ≤ t.createdAt.instant := by
  obtain ⟨-, r, hr, hu, horigin⟩ := claimDue_mem hdb.ids h ht
  have htype : r.taskType = t.taskType := congrArg TaskOrigin.taskType horigin
  have hmode : r.createdMode = t.createdMode := congrArg TaskOrigin.createdMode horigin
  have hepoch : r.activeEpoch = t.activeEpoch := congrArg TaskOrigin.activeEpoch horigin
  have hat : r.createdAt = t.createdAt := congrArg TaskOrigin.createdAt horigin
  unfold isExternal at hx
  rw [← htype] at hx
  obtain ⟨e, cutover, he, hm, hep, hle⟩ := quarantine_eligible hdb ha hr hx hu
  exact ⟨e, cutover, he, hmode ▸ hm, hepoch ▸ hep, hat ▸ hle⟩

end Step

theorem origin_of_quarantine {t t' : AutomationTask} {now : DateTime}
    (h : t' = t ∨ isExternal t = true ∧
    t.unfinished = true ∧ ∃ reason, t' = quarantineRow now reason t) : t'.origin = t.origin := by
  rcases h with rfl | ⟨hx, hu, reason, rfl⟩
  · rfl
  · rw [quarantineRow_eq hx hu]
    rfl

/-- A row of an Active epoch is inserted in that epoch. -/
theorem created_mode {op : QueueOp} {a : RuntimeActivation} {row : AutomationTask} {e : String}
    (h : op.created a = some row) (hm : row.createdMode = some "active")
    (he : row.activeEpoch = some e) : a.mode = "active" ∧ a.activeEpoch = some e := by
  have hmeta (spec : TaskSpec) (newId : String) (hrow : spec.row a newId = row) :
      a.mode = "active" ∧ a.activeEpoch = some e := by
    have hm' : a.creationMetadata.1 = some "active" := by rw [← hm, ← hrow]; rfl
    have he' : a.creationMetadata.2 = some e := by rw [← he, ← hrow]; rfl
    unfold RuntimeActivation.creationMetadata at hm' he'
    split_ifs at hm' he'
    exact ⟨Option.some.inj hm', he'⟩
  cases op with
  | createOrGet newId spec => exact hmeta spec newId (Option.some.inj h)
  | createOrGetUnfinished newId spec key => exact hmeta _ newId (Option.some.inj h)
  | _ => cases h

/-! ### Runs -/

section Runs

variable {o : ℤ} {db db' : TaskDb} {ls : List QueueCall}

theorem TaskDb.Epochs.step {l : QueueCall} (hdb : db.Epochs o)
    (h : Guarded (EpochFits o) QueueStep db l db') : db'.Epochs o := by
  obtain ⟨hfits, hstep⟩ := h
  obtain ⟨op, out⟩ := l
  cases out with
  | none =>
    rw [hstep.1]
    exact hdb
  | some out => exact hdb.apply hfits hstep

theorem TaskDb.Epochs.run (hdb : db.Epochs o)
    (hrun : Run (Guarded (EpochFits o) QueueStep) db ls db') : db'.Epochs o :=
  hrun.inv (I := TaskDb.Epochs o) hdb fun _ _ _ ha hs => ha.step hs

/-- Where a row comes from: it was there, or a call of the run inserted it. -/
theorem origin_run (hdb : db.Epochs o) (hrun : Run (Guarded (EpochFits o) QueueStep) db ls db') :
    ∀ t ∈ db'.tasks, (∃ r ∈ db.tasks, r.origin = t.origin) ∨
      ∃ pre l post a row, ls = pre ++ l :: post ∧
      Run (Guarded (EpochFits o) QueueStep) db pre a ∧ l.op.created a.activation = some row ∧
        row.origin = t.origin := by
  induction hrun with
  | nil => exact fun t ht => .inl ⟨t, ht, rfl⟩
  | @snoc ks a l b hr hs ih =>
    have hnext : ∀ t ∈ a.tasks, (∃ r ∈ db.tasks, r.origin = t.origin) ∨
        ∃ pre k post d row, ks ++ [l] = pre ++ k :: post ∧
        Run (Guarded (EpochFits o) QueueStep) db pre d ∧ k.op.created d.activation = some row ∧
          row.origin = t.origin := by
      intro t ht
      rcases ih t ht with hold | ⟨pre, k, post, d, row, rfl, hpre, hrow, heq⟩
      · exact .inl hold
      · exact .inr ⟨pre, k, post ++ [l], d, row, by simp, hpre, hrow, heq⟩
    obtain ⟨op, out⟩ := l
    intro t' ht'
    cases out with
    | none =>
      rw [hs.2.1] at ht'
      exact hnext t' ht'
    | some out =>
      rcases op.mem_cases (hdb.run hr).ids hs.2 ht' with ⟨t, ht, hmove⟩ | hrow
      · rw [hmove.origin]
        exact hnext t ht
      · exact .inr ⟨ks, _, [], a, t', rfl, hr, hrow, rfl⟩

/-- The rows are there, and none is of the epoch in force. -/
structure Barred (rows : List AutomationTask) (db : TaskDb) : Prop where
  runtime : db.runtime.isSome = true
  present : ∀ u ∈ rows, ∃ r ∈ db.tasks, r.origin = u.origin
  epoch : ∀ e c, db.activation.epoch = some (e, c) → ∀ u ∈ rows, u.activeEpoch ≠ some e

/-- The epoch after a call: the same, none, or one the call opens. -/
theorem epoch_cases {op : QueueOp} {out : List AutomationTask} (h : op.apply db = .ok (db', out)) :
    db'.activation.epoch = db.activation.epoch ∨ db'.activation.epoch = none ∨
      ∃ e c, db'.activation.epoch = some (e, c) ∧ op.opens db = some e := by
  rcases op.runtime_cases h with hsame | ⟨mode, now, activeEpoch, uuid, rfl, -, -, -, hrt⟩
  · unfold TaskDb.activation
    rw [hsame]
    exact .inl rfl
  · rw [activation_some hrt]
    rcases nextBoundary_cases db.runtime (strip mode).toLower now activeEpoch uuid with
      ⟨p, hp, hm, heq⟩ | ⟨hnone, hm, heq⟩ | ⟨hm, -⟩
    · obtain ⟨hsome, hpm, ht⟩ := activePrevious_some hp
      refine .inl ?_
      rw [heq, activation_some hsome, hm]
      simp [RuntimeActivation.epoch, hpm]
    · cases he : RuntimeActivation.epoch _ with
      | none => exact .inr (.inl rfl)
      | some ec =>
        refine .inr (.inr ⟨ec.1, ec.2, rfl, ?_⟩)
        have hec := (epoch_eq he).2.1
        rw [heq] at hec
        rw [← hec]
        exact if_pos ⟨hm, hnone⟩
    · exact .inr (.inl (epoch_of_inactive hm))

theorem Barred.step {rows : List AutomationTask} {l : QueueCall} (hdb : db.Epochs o)
    (hb : Barred rows db) (h : Guarded (EpochFits o) QueueStep db l db') : Barred rows db' := by
  obtain ⟨hfits, hstep⟩ := h
  obtain ⟨op, out⟩ := l
  cases out with
  | none =>
    rw [hstep.1]
    exact hb
  | some out =>
    refine ⟨?_, fun u hu => ?_, fun e c he u hu => ?_⟩
    · rcases op.runtime_cases hstep with hsame | ⟨mode, now, activeEpoch, uuid, -, -, -, -, hrt⟩
      · rw [hsame]
        exact hb.runtime
      · rw [hrt]
        rfl
    · obtain ⟨r, hr, horigin⟩ := hb.present u hu
      obtain ⟨r', hr', hmove⟩ := op.mem_moved hdb.ids hstep hr
      exact ⟨r', hr', hmove.origin.trans horigin⟩
    · rcases epoch_cases hstep with hsame | hnone | ⟨e', c', he', hopens⟩
      · exact hb.epoch e c (hsame ▸ he) u hu
      · rw [hnone] at he
        cases he
      · rw [he'] at he
        cases he
        obtain ⟨r, hr, horigin⟩ := hb.present u hu
        rw [← show r.activeEpoch = u.activeEpoch from congrArg TaskOrigin.activeEpoch horigin]
        exact (hfits.freshEpoch e hopens).2 r hr

/-- No claim of a run returns an external effect that was there while the runtime was not active. -/
theorem barred_run {rows : List AutomationTask} {d d' : TaskDb} {c : ClaimCall}
    {out : List AutomationTask}
    (hdb : db.Epochs o) (hb : Barred rows db) (hrun : Run (Guarded (EpochFits o) QueueStep) db ls d)
    (h : claimDue d c = .ok (d', out)) : ∀ t ∈ out, isExternal t = true →
      ∀ u ∈ rows, u.taskId ≠ t.taskId := by
  have hd := hrun.inv (I := fun d => d.Epochs o ∧ Barred rows d) ⟨hdb, hb⟩
    fun _ _ _ ha hs => ⟨ha.1.step hs, ha.2.step ha.1 hs⟩
  intro t ht hx u hu hid
  obtain ⟨a, ha⟩ := Option.isSome_iff_exists.mp hd.2.runtime
  obtain ⟨e, cutover, he, -, hte, -⟩ := claimDue_epoch hd.1 ha h ht hx
  obtain ⟨-, r, hr, -, horigin⟩ := claimDue_mem hd.1.ids h ht
  obtain ⟨v, hv, hvu⟩ := hd.2.present u hu
  have hnot := hd.2.epoch e cutover (by rw [activation_some ha]; exact he) u hu
  obtain ⟨s, hs, hsr⟩ := forall₂_mem_right (quarantine_rows d c.now none) hr
  -- the row claimed is the row that was there
  have hsame : s.origin = r.origin := (origin_of_quarantine hsr).symm
  have hvs : v.taskId = s.taskId := by
    rw [show v.taskId = u.taskId from congrArg TaskOrigin.taskId hvu, hid]
    exact (congrArg TaskOrigin.taskId (hsame.trans horigin)).symm
  obtain rfl := eq_of_taskId hd.1.ids hv hs hvs
  refine hnot ?_
  rw [← hte]
  exact congrArg TaskOrigin.activeEpoch (hvu.symm.trans (hsame.trans horigin))

/-- The quarantine reads the tasks and the boundary. -/
theorem quarantine_congr (htasks : db'.tasks = db.tasks)
    (hmode : db'.activation.mode = db.activation.mode)
    (hepoch : db'.activation.activeEpoch = db.activation.activeEpoch)
    (hcutover : db'.activation.activeCutoverAt = db.activation.activeCutoverAt) (now : DateTime) :
    (quarantineLegacyExternalTasks db' now none).tasks =
      (quarantineLegacyExternalTasks db now none).tasks := by
  unfold quarantineLegacyExternalTasks
  dsimp only
  rw [htasks, hmode, hepoch, hcutover, if_neg (show ¬ truthy none = true by decide)]
  split
  · exact htasks
  split
  · split
    · rfl
    · exact htasks
  · rfl

/-- The quarantine leaves an external effect of the epoch in force. -/
theorem quarantine_keeps {e : String} {cutover now : DateTime} {t : AutomationTask}
    (hdb : db.Epochs o)
    (hep : db.activation.epoch = some (e, cutover)) (ht : t ∈ db.tasks)
    (hm : t.createdMode = some "active")
    (hte : t.activeEpoch = some e) (hle : cutover.instant ≤ t.createdAt.instant) :
    t ∈ (quarantineLegacyExternalTasks db now none).tasks := by
  obtain ⟨hmode, he, hc⟩ := epoch_eq hep
  have hvalid : db.activation.Valid o := by
    cases hrt : db.runtime with
    | none =>
      unfold TaskDb.activation at hmode
      rw [hrt] at hmode
      exact absurd hmode (by decide)
    | some a =>
      rw [activation_some hrt]
      exact hdb.runtime a hrt
  obtain ⟨htruthy, c, hc', hz⟩ := hvalid.active hmode
  rw [hc] at hc'
  cases hc'
  have hnot : beforeCutover (some e) cutover t = false := by
    have hfrom := (hz.le_iff (hdb.created t ht)).mpr hle
    unfold beforeCutover
    rw [hm, hte, Bool.or_eq_false_iff, decide_eq_false_iff_not, not_lt]
    exact ⟨by simp, hfrom⟩
  unfold quarantineLegacyExternalTasks
  dsimp only
  rw [if_neg (show ¬ truthy none = true by decide), if_neg (not_not.mpr hvalid.mode), if_pos hmode,
    if_pos htruthy, he, hc]
  refine List.mem_map.mpr ⟨t, ht, if_neg ?_⟩
  rw [Option.getD_some, hnot]
  decide

/-- A restart while active keeps the boundary and what a claim does. -/
theorem restart_active {a : RuntimeActivation} {mode uuid : String} {now : DateTime}
    {activeEpoch : Option String}
    (hdb : db.Epochs o) (ha : db.runtime = some a) (hactive : a.mode = "active")
    (hmode : (strip mode).toLower = "active")
    (h : setRuntimeContext db mode now activeEpoch uuid = .ok db') :
    db'.tasks = db.tasks ∧ db'.activation.epoch = db.activation.epoch ∧
      (∀ now, (quarantineLegacyExternalTasks db' now none).tasks =
        (quarantineLegacyExternalTasks db now none).tasks) ∧
      ∀ c, (claimDue db' c).map (fun r => (r.1.tasks, r.2)) = (claimDue db c).map fun r =>
        (r.1.tasks, r.2) := by
  have hvalid := hdb.runtime a ha
  have hprev : activePrevious db.runtime = some a := by
    rw [ha]
    simp [activePrevious, Option.filter, hactive, (hvalid.active hactive).1]
  have hdb' :
      db' = { db with runtime := some ⟨"active", a.activeEpoch, a.activeCutoverAt, some now⟩ } := by
    unfold setRuntimeContext at h
    simp only [hmode, nextBoundary, if_true, hprev] at h
    rw [if_pos (by decide)] at h
    exact (Except.ok.inj h).symm
  have hact : db'.activation = ⟨"active", a.activeEpoch, a.activeCutoverAt, some now⟩ :=
    activation_some (by rw [hdb'])
  have htasks : db'.tasks = db.tasks := by rw [hdb']
  have hq := quarantine_congr htasks (by rw [hact, activation_some ha, hactive])
      (by rw [hact, activation_some ha])
    (by rw [hact, activation_some ha])
  refine ⟨htasks, ?_, hq, fun c => ?_⟩
  · rw [hact, activation_some ha]
    unfold RuntimeActivation.epoch
    rw [hactive]
  · unfold claimDue
    cases c.check with
    | error e => rfl
    | ok u =>
      dsimp only
      rw [hq]
      rfl

/-- **External effects stay in their epoch.** In every state a run reaches in
which a runtime context has been set: a claim returns an external effect only
in the Active epoch it was created in, and from its cutover on; a restart while
active changes neither the epoch nor what claims return, and the quarantine
leaves the epoch's tasks; and while the mode is not active, no external effect
that is there will be claimed in any later run. -/
theorem claimed_in_epoch (hdb : db.Epochs o)
    (hrun : Run (Guarded (EpochFits o) QueueStep) db ls db') (hset : db'.runtime.isSome = true) :
    (∀ c d out, claimDue db' c = .ok (d, out) → ∀ t ∈ out, isExternal t = true →
      ∃ e cutover, db'.activation.epoch = some (e, cutover) ∧ t.createdMode = some "active" ∧
        t.activeEpoch = some e ∧
        cutover.instant ≤ t.createdAt.instant ∧
        ((∃ r ∈ db.tasks, r.origin = t.origin) ∨ ∃ pre l post a row, ls = pre ++ l :: post ∧
          Run (Guarded (EpochFits o) QueueStep) db pre a ∧ l.op.created a.activation = some row ∧
          row.origin = t.origin ∧ a.activation.mode = "active" ∧
            a.activation.activeEpoch = some e)) ∧
    (∀ mode now activeEpoch uuid d, db'.activation.mode = "active" →
      (strip mode).toLower = "active" →
      setRuntimeContext db' mode now activeEpoch uuid = .ok d →
        d.tasks = db'.tasks ∧ d.activation.epoch = db'.activation.epoch ∧
        (∀ c, (claimDue d c).map (fun r => (r.1.tasks, r.2)) = (claimDue db' c).map fun r =>
          (r.1.tasks, r.2)) ∧
        ∀ e cutover at_, d.activation.epoch = some (e, cutover) →
          ∀ t ∈ d.tasks, t.createdMode = some "active" →
          t.activeEpoch = some e → cutover.instant ≤ t.createdAt.instant →
          t ∈ (quarantineLegacyExternalTasks d at_ none).tasks) ∧
    (db'.activation.mode ≠ "active" →
      ∀ ks c d d' out, Run (Guarded (EpochFits o) QueueStep) db' ks d →
      claimDue d c = .ok (d', out) → ∀ t ∈ out, isExternal t = true →
        ∀ u ∈ db'.tasks, u.taskId ≠ t.taskId) := by
  have hdb' := hdb.run hrun
  obtain ⟨a, ha⟩ := Option.isSome_iff_exists.mp hset
  refine ⟨?_, ?_, ?_⟩
  · intro c d out h t ht hx
    obtain ⟨e, cutover, he, hm, hte, hle⟩ := claimDue_epoch hdb' ha h ht hx
    refine ⟨e, cutover, by rw [activation_some ha]; exact he, hm, hte, hle, ?_⟩
    obtain ⟨-, r, hr, -, horigin⟩ := claimDue_mem hdb'.ids h ht
    obtain ⟨s, hs, hsr⟩ := forall₂_mem_right (quarantine_rows db' c.now none) hr
    have hsame : s.origin = t.origin := by
      rw [← horigin]
      exact (origin_of_quarantine hsr).symm
    rcases origin_run hdb hrun s hs with ⟨r', hr', heq⟩ | ⟨pre, l, post, b, row, hls,
      hpre, hrow, heq⟩
    · exact .inl ⟨r', hr', heq.trans hsame⟩
    · have hcreated := heq.trans hsame
      have hmode := created_mode hrow ((congrArg TaskOrigin.createdMode hcreated).trans hm)
        ((congrArg TaskOrigin.activeEpoch hcreated).trans hte)
      exact .inr ⟨pre, l, post, b, row, hls, hpre, hrow, hcreated, hmode⟩
  · intro mode now activeEpoch uuid d hactive hmode h
    rw [activation_some ha] at hactive
    obtain ⟨htasks, hepoch, hq, hclaims⟩ := restart_active hdb' ha hactive hmode h
    refine ⟨htasks, hepoch, hclaims, fun e cutover at_ he t ht hm hte hle => ?_⟩
    rw [hq]
    exact quarantine_keeps hdb' (hepoch ▸ he) (htasks ▸ ht) hm hte hle
  · intro hm ks c d d' out hks h
    refine barred_run hdb' ⟨hset, fun u hu => ⟨u, hu, rfl⟩, fun e cutover he => ?_⟩ hks h
    rw [epoch_of_inactive hm] at he
    cases he

end Runs

instance (offset : ℤ) (db : TaskDb) (l : QueueCall) : Decidable (EpochFits offset db l) :=
  decidable_of_iff (InZone offset l.op.time ∧
      ((l.op.created db.activation).all fun row => db.tasks.all fun t => t.taskId ≠ row.taskId) ∧
      (l.op.opens db).all fun e => e ≠ "" ∧ ∀ t ∈ db.tasks, t.activeEpoch ≠ some e)
    ⟨fun h => ⟨h.1, fun row hrow t ht => by
        have hall := h.2.1
        rw [Option.mem_def.mp hrow] at hall
        simpa using List.all_eq_true.mp hall t ht, fun e he => by
        have hall := h.2.2
        rw [Option.mem_def.mp he] at hall
        simpa using hall⟩,
      fun h => ⟨h.zone, Option.all_eq_true _ _ |>.mpr fun row hrow =>
          List.all_eq_true.mpr fun t ht => by
        simpa using h.freshId row hrow t ht, Option.all_eq_true _ _ |>.mpr fun e he => by
        simpa using h.freshEpoch e he⟩⟩

/-- The creation of a notification. -/
def notifyOp (newId : String) (at_ : DateTime) : QueueOp :=
  .createOrGet newId { taskType := "NOTIFY_ALARM", entityType := "EVENT", entityId := "E", dueAt := at_
                       dedupeKey := none, createdAt := at_ }

/-- A notification left from a first epoch, and one of a second. -/
def epochOps : List QueueOp :=
  [.setRuntimeContext "active" (.utc 0) none "e1", notifyOp "t1" (.utc 1000000),
    .setRuntimeContext "shadow" (.utc 2000000) none "",
      .setRuntimeContext "Active" (.utc 3000000) none "e2",
    notifyOp "t2" (.utc 4000000)]

/-- The claim returns the second notification, of the second epoch. -/
theorem claimed_in_epoch_second :
    ∃ d out, claimDue (playQueue {} epochOps).2 { now := .utc 5000000 } = .ok (d, out) ∧
    out.map (·.taskId) = ["t2"] ∧ ∀ t ∈ out, isExternal t = true →
      ∃ e cutover, (playQueue {} epochOps).2.activation.epoch = some (e, cutover) ∧
          t.createdMode = some "active" ∧
        t.activeEpoch = some e ∧ cutover.instant ≤ t.createdAt.instant := by
  obtain ⟨d, out, h, hids⟩ :
      ∃ d out, claimDue (playQueue {} epochOps).2 { now := .utc 5000000 } = .ok (d, out) ∧
      out.map (·.taskId) = ["t2"] := ⟨_, _, rfl, by decide +kernel⟩
  refine ⟨d, out, h, hids, fun t ht hx => ?_⟩
  obtain ⟨e, cutover, he, hm, hte, hle, -⟩ := (@claimed_in_epoch 0 {} _ _
    ⟨List.nodup_nil, fun _ h => (by cases h), fun _ h => (by cases h)⟩
    (@playQueue_run (EpochFits 0) epochOps {} (by decide +kernel)) (by decide +kernel)).1
      _ _ _ h t ht hx
  exact ⟨e, cutover, he, hm, hte, hle⟩

/-- Without a runtime context, a notification created in no mode is claimed. -/
theorem epoch_isolation_unknown_mode : PlayGuarded (EpochFits 0) {} [notifyOp "t1" (.utc 1000000)] ∧
    ∃ d out, claimDue (playQueue {} [notifyOp "t1" (.utc 1000000)]).2 { now := .utc 2000000 } =
      .ok (d, out) ∧
      ∃ t ∈ out, isExternal t = true ∧ t.createdMode ≠ some "active" :=
  ⟨by decide +kernel, _, _, rfl, by decide +kernel⟩

end TemperatureMonitor
