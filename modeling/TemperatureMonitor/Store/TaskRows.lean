/-
# What the task table keeps

An operation on the task table updates rows in place, keeping what they are
(`SameTask`), or inserts a row under a fresh id. `TasksRun` is the closure of
the two, and `TasksRun.inv` its induction rule: an invariant of the table is
two goals, whatever the operations were. The scheduler's writes on a claimed
row (`TaskWrite`) only ever update.
-/
import TemperatureMonitor.Library.Grouping
import TemperatureMonitor.Store.Tasks

namespace TemperatureMonitor

def reconcileType : String := "RECONCILE_ALARM_EVENT"

/-- The row's key begins with its type. -/
structure AutomationTask.Keyed (t : AutomationTask) : Prop where
  plain : ':' ∉ t.taskType.toList
  key : ∀ k, t.dedupeKey = some k → ∃ rest, k = t.taskType ++ ":" ++ rest

/-- What no operation changes of a row. Its key is released when a newer
reconciliation takes it. -/
structure SameTask (t t' : AutomationTask) : Prop where
  taskId : t'.taskId = t.taskId
  taskType : t'.taskType = t.taskType
  entityId : t'.entityId = t.entityId
  payload : ∃ n, t'.payload = { t.payload with retryAttempt := n }
  dedupeKey : t.taskType ≠ reconcileType → t'.dedupeKey = t.dedupeKey
  keyed : t.Keyed → t'.Keyed

theorem SameTask.refl (t : AutomationTask) : SameTask t t :=
  ⟨rfl, rfl, rfl, ⟨t.payload.retryAttempt, rfl⟩, fun _ => rfl, id⟩

/-- Row by row the same tasks. -/
abbrev SameTasks (tasks tasks' : List AutomationTask) : Prop := List.Forall₂ SameTask tasks tasks'

theorem sameTasks_refl : ∀ tasks : List AutomationTask, SameTasks tasks tasks
  | [] => .nil
  | t :: tasks => .cons (.refl t) (sameTasks_refl tasks)

theorem sameTasks_map {f : AutomationTask → AutomationTask} :
    ∀ {tasks : List AutomationTask}, (∀ t ∈ tasks, SameTask t (f t)) → SameTasks tasks (tasks.map f)
  | [], _ => .nil
  | t :: _, hf =>
    .cons (hf t List.mem_cons_self) (sameTasks_map fun u hu => hf u (List.mem_cons_of_mem _ hu))

theorem sameTasks_updateRow {tasks : List AutomationTask} {taskId : String}
    {f : AutomationTask → AutomationTask} (hf : ∀ t ∈ tasks, t.taskId = taskId → SameTask t (f t)) :
    SameTasks tasks (updateRow tasks taskId f) := by
  refine sameTasks_map fun t ht => ?_
  split_ifs with hid
  · exact hf t ht hid
  · exact .refl t

/-! ### The table's own invariant -/

/-- The tasks, and how many uuids have been drawn. -/
structure TaskStore where
  tasks : List AutomationTask
  drawn : ℕ

/-- Ids are drawn and never repeat, and keys begin with types. -/
structure TaskStore.Sound (uuid : ℕ → String) (s : TaskStore) : Prop where
  minted : ∀ t ∈ s.tasks, ∃ n < s.drawn, t.taskId = uuid n
  nodup : (s.tasks.map (·.taskId)).Nodup
  keyed : ∀ t ∈ s.tasks, t.Keyed

theorem eq_of_taskId {tasks : List AutomationTask} (h : (tasks.map (·.taskId)).Nodup)
    {t u : AutomationTask} (ht : t ∈ tasks) (hu : u ∈ tasks) (hid : t.taskId = u.taskId) : t = u :=
  List.inj_on_of_nodup_map h ht hu hid

theorem SameTasks.taskIds {tasks tasks' : List AutomationTask} (h : SameTasks tasks tasks') :
    tasks'.map (·.taskId) = tasks.map (·.taskId) := by
  induction h with
  | nil => rfl
  | cons hr _ ih => rw [List.map_cons, List.map_cons, hr.taskId, ih]

/-- What holds of each row and is kept by an update of it. -/
theorem SameTasks.forall {tasks tasks' : List AutomationTask} {Q : AutomationTask → Prop}
    (h : SameTasks tasks tasks') (hQ : ∀ t t', SameTask t t' → Q t → Q t')
    (hall : ∀ t ∈ tasks, Q t) : ∀ t ∈ tasks', Q t := by
  intro t' ht'
  obtain ⟨t, ht, hr⟩ := forall₂_mem_right h ht'
  exact hQ t t' hr (hall t ht)

theorem TaskStore.Sound.rows {uuid : ℕ → String} {tasks tasks' : List AutomationTask} {drawn : ℕ}
    (h : TaskStore.Sound uuid ⟨tasks, drawn⟩) (hr : SameTasks tasks tasks') :
    TaskStore.Sound uuid ⟨tasks', drawn⟩ where
  minted := hr.forall (fun _ _ hs ⟨n, hn, he⟩ => ⟨n, hn, hs.taskId.trans he⟩) h.minted
  nodup := by
    rw [hr.taskIds]
    exact h.nodup
  keyed := hr.forall (fun _ _ hs hk => hs.keyed hk) h.keyed

theorem TaskStore.Sound.draw {uuid : ℕ → String} {tasks : List AutomationTask} {drawn : ℕ}
    (h : TaskStore.Sound uuid ⟨tasks, drawn⟩) : TaskStore.Sound uuid ⟨tasks, drawn + 1⟩ where
  minted := fun t ht => by
    obtain ⟨n, hn, he⟩ := h.minted t ht
    exact ⟨n, Nat.lt_succ_of_lt hn, he⟩
  nodup := h.nodup
  keyed := h.keyed

/-- A fresh id is the id of no row. -/
theorem TaskStore.Sound.fresh {uuid : ℕ → String} (hinj : Function.Injective uuid) {s : TaskStore}
    (h : s.Sound uuid) {n : ℕ} (hn : s.drawn ≤ n) : ∀ t ∈ s.tasks, t.taskId ≠ uuid n := by
  intro t ht he
  obtain ⟨m, hm, hid⟩ := h.minted t ht
  have : m = n := hinj (hid.symm.trans he)
  omega

theorem TaskStore.Sound.insert {uuid : ℕ → String} (hinj : Function.Injective uuid)
    {tasks : List AutomationTask} {drawn : ℕ} {row : AutomationTask}
    (h : TaskStore.Sound uuid ⟨tasks, drawn⟩) (hid : row.taskId = uuid drawn) (hk : row.Keyed) :
    TaskStore.Sound uuid ⟨tasks ++ [row], drawn + 1⟩ where
  minted := fun t ht => by
    rcases List.mem_append.mp ht with ht | ht
    · exact h.draw.minted t ht
    · obtain rfl := List.mem_singleton.mp ht
      exact ⟨drawn, Nat.lt_succ_self drawn, hid⟩
  nodup := by
    have hfresh := h.fresh hinj (le_refl drawn)
    rw [List.map_append, List.nodup_append]
    refine ⟨h.nodup, List.nodup_singleton _, ?_⟩
    intro a ha b hb
    obtain ⟨t, ht, rfl⟩ := List.mem_map.mp ha
    obtain rfl := List.mem_singleton.mp hb
    show t.taskId ≠ row.taskId
    rw [hid]
    exact hfresh t ht
  keyed := fun t ht => by
    rcases List.mem_append.mp ht with ht | ht
    · exact h.keyed t ht
    · obtain rfl := List.mem_singleton.mp ht
      exact hk

/-! ### The operations that update -/

section Update

variable {tasks tasks' : List AutomationTask}

theorem sameTask_cancelRow (at_ : DateTime) (t : AutomationTask) : SameTask t (cancelRow at_ t) :=
  ⟨rfl, rfl, rfl, ⟨t.payload.retryAttempt, rfl⟩, fun _ => rfl, fun h => ⟨h.plain, h.key⟩⟩

theorem sameTasks_cancel {taskId : String} {at_ : DateTime}
    (h : cancelTask tasks taskId at_ = .ok tasks') : SameTasks tasks tasks' := by
  unfold cancelTask at h
  split at h
  · cases h
  · split_ifs at h
    cases h
    exact sameTasks_updateRow fun t _ _ => sameTask_cancelRow at_ t

theorem byDedupeKey_some {key : Option String} {t : AutomationTask}
    (h : byDedupeKey tasks key = some t) : t ∈ tasks ∧ t.dedupeKey = key ∧ key.isSome := by
  have hp := List.find?_some h
  simp only [Bool.and_eq_true, decide_eq_true_eq] at hp
  exact ⟨List.mem_of_find?_eq_some h, hp.2, hp.1⟩

theorem byDedupeKey_none {key : String} (h : byDedupeKey tasks (some key) = none) :
    ∀ t ∈ tasks, t.dedupeKey ≠ some key := by
  intro t ht he
  have := List.find?_eq_none.mp h t ht
  simp [he] at this

/-- A row with a type's key is of the type. -/
theorem AutomationTask.Keyed.taskType {t : AutomationTask} (h : t.Keyed) {type rest : String}
    (hplain : ':' ∉ type.toList) (hk : t.dedupeKey = some (type ++ ":" ++ rest)) :
    t.taskType = type := by
  obtain ⟨r, hr⟩ := h.key _ hk
  exact (colon_prefix_inj h.plain hplain hr.symm).1

theorem reconcileType_plain : ':' ∉ reconcileType.toList := by decide

/-- A key is taken from the row that has it; only a reconciliation has a
reconciliation's key. -/
theorem sameTasks_release (hn : (tasks.map (·.taskId)).Nodup) (hk : ∀ t ∈ tasks, t.Keyed)
    {event : String} {winnerId : Option String}
    (h : releaseDedupeKey tasks (reconcileType ++ ":" ++ event) winnerId = .ok tasks') :
    SameTasks tasks tasks' := by
  unfold releaseDedupeKey at h
  split at h
  · cases h
    exact sameTasks_refl tasks
  · rename_i owner howner
    obtain ⟨hmem, hkey, -⟩ := byDedupeKey_some howner
    have htype := (hk owner hmem).taskType reconcileType_plain hkey
    unfold setDedupeKey at h
    split_ifs at h
    · cases h
      exact sameTasks_refl tasks
    · cases h
      refine sameTasks_updateRow fun t ht hid => ?_
      obtain rfl := eq_of_taskId hn ht hmem hid
      refine ⟨rfl, rfl, rfl, ⟨t.payload.retryAttempt, rfl⟩, fun hne =>
        absurd htype hne, fun hkeyed => ?_⟩
      refine ⟨hkeyed.plain, fun k he => ?_⟩
      cases he
      exact ⟨event ++ ":HISTORY:" ++ t.taskId, by simp only [htype, String.append_assoc]⟩

theorem sameTasks_reschedule {task : AutomationTask} {dueAt updatedAt : DateTime}
    {payload : TaskPayload}
    (hsame : ∀ t ∈ tasks, t.taskId = task.taskId →
      ∃ n, payload = { t.payload with retryAttempt := n })
    (h : rescheduleRunning tasks task dueAt updatedAt payload = .ok tasks') :
        SameTasks tasks tasks' := by
  unfold rescheduleRunning at h
  split_ifs at h
  cases h
  exact sameTasks_updateRow fun t ht hid =>
    ⟨rfl, rfl, rfl, hsame t ht hid, fun _ => rfl, fun hk => ⟨hk.plain, hk.key⟩⟩

end Update

/-! ### Runs of operations -/

/-- What a run of operations makes of a store; each inserted row meets `P`.
A reconciliation takes its key from an older row, any other row finds it free. -/
inductive TasksRun (uuid : ℕ → String) (P : AutomationTask → Prop) (s : TaskStore) :
    TaskStore → Prop
  | refl : TasksRun uuid P s s
  | rows {tasks tasks' : List AutomationTask} {drawn : ℕ} :
      TasksRun uuid P s ⟨tasks, drawn⟩ → SameTasks tasks tasks' → TasksRun uuid P s ⟨tasks', drawn⟩
  | drew {tasks : List AutomationTask} {drawn : ℕ} :
      TasksRun uuid P s ⟨tasks, drawn⟩ → TasksRun uuid P s ⟨tasks, drawn + 1⟩
  | insert {tasks : List AutomationTask} {drawn : ℕ} {row : AutomationTask} :
      TasksRun uuid P s ⟨tasks, drawn⟩ → row.taskId = uuid drawn → row.Keyed →
      (row.taskType ≠ reconcileType → byDedupeKey tasks row.dedupeKey = none) → P row →
      TasksRun uuid P s ⟨tasks ++ [row], drawn + 1⟩

namespace TasksRun

variable {uuid : ℕ → String} {P Q : AutomationTask → Prop} {s t u : TaskStore}

theorem trans (h : TasksRun uuid P s t) (h' : TasksRun uuid P t u) : TasksRun uuid P s u := by
  induction h' with
  | refl => exact h
  | rows _ hr ih => exact ih.rows hr
  | drew _ ih => exact ih.drew
  | insert _ hid hk hfree hp ih => exact ih.insert hid hk hfree hp

theorem mono (hPQ : ∀ r, P r → Q r) (h : TasksRun uuid P s t) : TasksRun uuid Q s t := by
  induction h with
  | refl => exact refl
  | rows _ hr ih => exact ih.rows hr
  | drew _ ih => exact ih.drew
  | insert _ hid hk hfree hp ih => exact ih.insert hid hk hfree (hPQ _ hp)

/-- **The induction rule**: an invariant of the table and of the number of
uuids drawn is kept by updates and by insertions. -/
theorem inv {I : TaskStore → Prop} (h0 : I s)
    (hrows : ∀ tasks tasks' drawn, SameTasks tasks tasks' → I ⟨tasks, drawn⟩ → I ⟨tasks', drawn⟩)
    (hdrew : ∀ tasks drawn, I ⟨tasks, drawn⟩ → I ⟨tasks, drawn + 1⟩)
    (hinsert : ∀ tasks drawn row, row.taskId = uuid drawn → row.Keyed →
      (row.taskType ≠ reconcileType → byDedupeKey tasks row.dedupeKey = none) → P row →
      I ⟨tasks, drawn⟩ → I ⟨tasks ++ [row], drawn + 1⟩)
    (h : TasksRun uuid P s t) : I t := by
  induction h with
  | refl => exact h0
  | rows _ hr ih => exact hrows _ _ _ hr ih
  | drew _ ih => exact hdrew _ _ ih
  | insert _ hid hk hfree hp ih => exact hinsert _ _ _ hid hk hfree hp ih

theorem sound (hinj : Function.Injective uuid) (hs : s.Sound uuid) (h : TasksRun uuid P s t) :
    t.Sound uuid :=
  h.inv hs (fun _ _ _ hr hi => hi.rows hr) (fun _ _ hi => hi.draw)
    fun _ _ _ hid hk _ _ hi => hi.insert hinj hid hk

theorem drawn_le (h : TasksRun uuid P s t) : s.drawn ≤ t.drawn :=
  h.inv (I := fun t => s.drawn ≤ t.drawn) (le_refl _) (fun _ _ _ _ hi => hi)
    (fun _ _ hi => Nat.le_succ_of_le hi) fun _ _ _ _ _ _ _ hi => Nat.le_succ_of_le hi

/-- What holds of every row, of every inserted row, and is kept by updates. -/
theorem forall_rows {R : AutomationTask → Prop} (h0 : ∀ t ∈ s.tasks, R t)
    (hsame : ∀ t t', SameTask t t' → R t → R t') (hnew : ∀ t, P t → R t)
    (h : TasksRun uuid P s t) : ∀ r ∈ t.tasks, R r := by
  refine h.inv (I := fun t => ∀ r ∈ t.tasks, R r) h0 (fun _ _ _ hr hi => hr.forall hsame hi)
    (fun _ _ hi => hi) fun tasks _ row _ _ _ hp hi r hr => ?_
  rcases List.mem_append.mp hr with hr | hr
  · exact hi r hr
  · obtain rfl := List.mem_singleton.mp hr
    exact hnew r hp

end TasksRun

/-! ### Keys -/

/-- A key is the key of one row; a reconciliation's may have been released. -/
def TaskStore.UniqueKeys (s : TaskStore) : Prop :=
  ∀ t ∈ s.tasks, ∀ u ∈ s.tasks, t.taskType ≠ reconcileType → t.dedupeKey ≠ none →
    u.dedupeKey = t.dedupeKey → u.taskId = t.taskId

/-- Rows of one key are of one type. -/
theorem AutomationTask.Keyed.type_eq {t u : AutomationTask} (ht : t.Keyed) (hu : u.Keyed)
    (hne : t.dedupeKey ≠ none) (hk : u.dedupeKey = t.dedupeKey) : u.taskType = t.taskType := by
  obtain ⟨k, hsome⟩ := Option.ne_none_iff_exists'.mp hne
  obtain ⟨rest, rfl⟩ := ht.key k hsome
  exact hu.taskType ht.plain (hk.trans hsome)

theorem TasksRun.uniqueKeys {uuid : ℕ → String} {P : AutomationTask → Prop} {s t : TaskStore}
    (hinj : Function.Injective uuid) (hs : s.Sound uuid) (hu : s.UniqueKeys)
    (h : TasksRun uuid P s t) : t.UniqueKeys := by
  refine (h.inv (I := fun t => t.Sound uuid ∧ t.UniqueKeys) ⟨hs, hu⟩ ?_ (fun _ _ hi =>
    ⟨hi.1.draw, hi.2⟩) ?_).2
  · intro tasks tasks' drawn hr ⟨hsound, hkeys⟩
    refine ⟨hsound.rows hr, fun t' ht' u' hu' hne hsome hk => ?_⟩
    have htype := ((hsound.rows hr).keyed t' ht').type_eq ((hsound.rows hr).keyed u' hu') hsome hk
    obtain ⟨t, ht, htt⟩ := forall₂_mem_right hr ht'
    obtain ⟨u, hum, huu⟩ := forall₂_mem_right hr hu'
    have hne' : t.taskType ≠ reconcileType := htt.taskType ▸ hne
    have hune : u.taskType ≠ reconcileType := huu.taskType ▸ htype ▸ hne
    rw [huu.taskId, htt.taskId]
    refine hkeys t ht u hum hne' (htt.dedupeKey hne' ▸ hsome) ?_
    rw [← huu.dedupeKey hune, ← htt.dedupeKey hne', hk]
  · intro tasks drawn row hid hkeyed hfree _ ⟨hsound, hkeys⟩
    have hnew := hsound.insert hinj hid hkeyed
    refine ⟨hnew, fun t ht u hum hne hsome hk => ?_⟩
    have hfree' : ∀ {v}, v ∈ tasks → v.taskType ≠ reconcileType → v.dedupeKey ≠ none →
        row.taskType = v.taskType → v.dedupeKey ≠ row.dedupeKey := by
      intro v hv hvne hvsome htype he
      obtain ⟨k, hkv⟩ := Option.ne_none_iff_exists'.mp hvsome
      have hnone := hfree (htype ▸ hvne)
      rw [← he, hkv] at hnone
      exact byDedupeKey_none hnone v hv hkv
    have htype := (hnew.keyed t ht).type_eq (hnew.keyed u hum) hsome hk
    rcases List.mem_append.mp ht with htm | htm
    · rcases List.mem_append.mp hum with hm | hm
      · exact hkeys t htm u hm hne hsome hk
      · obtain rfl := List.mem_singleton.mp hm
        exact absurd hk.symm (hfree' htm hne hsome htype)
    · obtain rfl := List.mem_singleton.mp htm
      rcases List.mem_append.mp hum with hm | hm
      · exact absurd hk (hfree' hm (htype ▸ hne) (hk ▸ hsome) htype.symm)
      · obtain rfl := List.mem_singleton.mp hm
        rfl

/-! ### Rows by id -/

/-- The table has a row of an id, and the row meets `Q`. -/
def HasRow (tasks : List AutomationTask) (taskId : String) (Q : AutomationTask → Prop) : Prop :=
  ∃ t, byId tasks taskId = some t ∧ Q t

section HasRow

variable {tasks tasks' : List AutomationTask} {taskId : String} {Q : AutomationTask → Prop}

theorem byId_mem {t : AutomationTask} (h : byId tasks taskId = some t) : t ∈ tasks ∧
    t.taskId = taskId :=
  ⟨List.mem_of_find?_eq_some h, by simpa using List.find?_some h⟩

theorem byId_of_mem (hn : (tasks.map (·.taskId)).Nodup) {t : AutomationTask} (ht : t ∈ tasks) :
    byId tasks t.taskId = some t := by
  cases hb : byId tasks t.taskId with
  | none =>
    have := List.find?_eq_none.mp hb t ht
    simp at this
  | some u =>
    obtain ⟨hu, hid⟩ := byId_mem hb
    rw [eq_of_taskId hn hu ht hid]

theorem HasRow.rows (h : HasRow tasks taskId Q) (hr : SameTasks tasks tasks')
    (hQ : ∀ t t', SameTask t t' → Q t → Q t') : HasRow tasks' taskId Q := by
  obtain ⟨t, ht, hq⟩ := h
  induction hr with
  | nil => cases ht
  | @cons a b l l' hab _ ih =>
    simp only [byId, List.find?_cons] at ht
    by_cases hid : a.taskId = taskId
    · simp only [hid, decide_true] at ht
      cases ht
      exact ⟨b, by simp [byId, hab.taskId, hid], hQ _ _ hab hq⟩
    · simp only [hid, decide_false] at ht
      obtain ⟨u, hu, hqu⟩ := ih ht
      refine ⟨u, ?_, hqu⟩
      simpa [byId, hab.taskId, hid] using hu

theorem HasRow.append (h : HasRow tasks taskId Q) (row : AutomationTask) :
    HasRow (tasks ++ [row]) taskId Q := by
  obtain ⟨t, ht, hq⟩ := h
  refine ⟨t, ?_, hq⟩
  simp only [byId] at ht ⊢
  rw [List.find?_append, ht]
  rfl

theorem TasksRun.hasRow {uuid : ℕ → String} {P : AutomationTask → Prop} {s t : TaskStore}
    (h : TasksRun uuid P s t) (hQ : ∀ t t', SameTask t t' → Q t → Q t')
    (h0 : HasRow s.tasks taskId Q) : HasRow t.tasks taskId Q :=
  h.inv (I := fun t => HasRow t.tasks taskId Q) h0 (fun _ _ _ hr hi => hi.rows hr hQ)
      (fun _ _ hi => hi)
    fun _ _ row _ _ _ _ hi => hi.append row

/-- Every row that is there stays there. -/
def KeepsRows (tasks tasks' : List AutomationTask) : Prop :=
  ∀ taskId Q, (∀ t t', SameTask t t' → Q t → Q t') → HasRow tasks taskId Q → HasRow tasks' taskId Q

theorem TasksRun.keepsRows {uuid : ℕ → String} {P : AutomationTask → Prop} {s t : TaskStore}
    (h : TasksRun uuid P s t) : KeepsRows s.tasks t.tasks :=
  fun _ _ hQ h0 => h.hasRow hQ h0

end HasRow

/-! ### The two creations -/

section Create

variable {uuid : ℕ → String} {P : AutomationTask → Prop} {tasks : List AutomationTask} {drawn : ℕ}

/-- `create_or_get` is one step of a run, and its row is in the table. -/
theorem createOrGet_run (hs : TaskStore.Sound uuid ⟨tasks, drawn⟩) (hinj : Function.Injective uuid)
    (a : RuntimeActivation) (spec : TaskSpec) {key : String} (hkey : spec.dedupeKey = some key)
    (hk : (spec.row a (uuid drawn)).Keyed) (hP : P (spec.row a (uuid drawn))) :
    TasksRun uuid P ⟨tasks, drawn⟩ ⟨(createOrGet tasks a (uuid drawn) spec).1, drawn + 1⟩ ∧
      HasRow (createOrGet tasks a (uuid drawn) spec).1
        (createOrGet tasks a (uuid drawn) spec).2.taskId
        (fun t => t = (createOrGet tasks a (uuid drawn) spec).2 ∧ t.dedupeKey = some key) := by
  unfold createOrGet
  cases hb : byDedupeKey tasks spec.dedupeKey with
  | some t =>
    obtain ⟨hmem, hdk, -⟩ := byDedupeKey_some hb
    exact ⟨.drew .refl, t, byId_of_mem hs.nodup hmem, rfl, hdk.trans hkey⟩
  | none =>
    have hrun : TasksRun uuid P ⟨tasks, drawn⟩ ⟨tasks ++ [spec.row a (uuid drawn)], drawn + 1⟩ :=
      TasksRun.refl.insert rfl hk (fun _ => hb) hP
    refine ⟨hrun, _, byId_of_mem (hrun.sound hinj hs).nodup (by simp), rfl, hkey⟩

/-- `create_or_get_unfinished` for a reconciliation of `event` is a run that
inserts a row only when no unfinished row has the identity. -/
theorem createOrGetUnfinished_run (hs : TaskStore.Sound uuid ⟨tasks, drawn⟩)
    (hinj : Function.Injective uuid) (a : RuntimeActivation) (spec : TaskSpec) {event : String}
    {tasks' : List AutomationTask} {task : AutomationTask} (htype : spec.taskType = reconcileType)
    (hP : activeRows tasks spec (reconcileType ++ ":" ++ event) = [] →
      P ({ spec with dedupeKey := some (reconcileType ++ ":" ++ event) }.row a (uuid drawn)))
    (h : createOrGetUnfinished tasks a (uuid drawn) spec (reconcileType ++ ":" ++ event) =
      .ok (tasks', task)) :
    TasksRun uuid P ⟨tasks, drawn⟩ ⟨tasks', drawn + 1⟩ ∧
      HasRow tasks' task.taskId fun t => t = task ∧
        (t = { spec with dedupeKey := some (reconcileType ++ ":" ++ event) }.row a (uuid drawn) ∨
          ∃ old ∈ tasks, SameTask old t ∧ old.unfinished = true ∧
            sameIdentity spec (reconcileType ++ ":" ++ event) old = true) := by
  have hif : spec.taskType = "RECONCILE_ALARM_EVENT" := htype
  simp only [createOrGetUnfinished, if_pos hif] at h
  split_ifs at h
  split at h
  · rename_i hnone
    split at h
    · cases h
    rename_i released hreleased
    cases h
    have hk : ({ spec with dedupeKey := some (reconcileType ++ ":" ++ event) }.row a
        (uuid drawn)).Keyed := by
      refine ⟨?_, fun k he => ?_⟩
      · show ':' ∉ spec.taskType.toList
        rw [htype]
        exact reconcileType_plain
      · cases he
        exact ⟨event, by show _ = spec.taskType ++ _ ++ _; rw [htype]⟩
    have hrun : TasksRun uuid P ⟨tasks, drawn⟩ ⟨_, drawn + 1⟩ :=
      (TasksRun.refl.rows (sameTasks_release hs.nodup hs.keyed hreleased)).insert rfl hk
        (fun hne => absurd htype hne) (hP hnone)
    exact ⟨hrun, _, byId_of_mem (hrun.sound hinj hs).nodup (by simp), rfl, .inl rfl⟩
  · rename_i winner others hrows
    have hsame : SameTasks tasks (cancelDuplicates tasks spec.createdAt others) := by
      refine sameTasks_map fun t _ => ?_
      split_ifs
      · exact sameTask_cancelRow _ t
      · exact .refl t
    split at h
    · rename_i t ht
      cases h
      obtain ⟨hmem, hid⟩ := byId_mem ht
      obtain ⟨old, hold, hst⟩ := forall₂_mem_right hsame hmem
      have hwin : winner ∈ activeRows tasks spec (reconcileType ++ ":" ++ event) := by
        rw [hrows]
        exact List.mem_cons_self
      simp only [activeRows, List.mem_mergeSort, List.mem_filter, Bool.and_eq_true] at hwin
      obtain rfl := eq_of_taskId hs.nodup hold hwin.1 (hst.taskId.symm.trans hid)
      refine ⟨(TasksRun.refl.rows hsame).drew, task, ?_, rfl,
        .inr ⟨old, hold, hst, hwin.2.1, hwin.2.2⟩⟩
      rw [hid]
      exact ht
    · cases h

end Create

/-! ### The scheduler's writes -/

/-- A write of the scheduler, or of the end of an execution, on one row. -/
inductive TaskWrite
  /-- `claim_due`, for one of the rows it claims. -/
  | claim (taskId workerId : String) (now leaseUntil : DateTime)
  /-- `mark_succeeded` or `mark_failed`. -/
  | finish (taskId : String) (error : Option String) (finishedAt : DateTime)
  | cancel (taskId : String) (updatedAt : DateTime)
  /-- `reschedule_running` with one more retry attempt. -/
  | retry (task : AutomationTask) (dueAt updatedAt : DateTime)
  /-- `recover_stale_tasks`, for one of the rows it requeues. -/
  | requeue (taskId : String) (now : DateTime)
  /-- `quarantine_legacy_external_tasks`, for one of the rows it holds back. -/
  | quarantine (taskId : String) (now : DateTime) (reason : String)

/-- `claim_due` takes a due row, or a running one whose lease is over. -/
def claimRow (workerId : String) (now leaseUntil : DateTime) (t : AutomationTask) :
    AutomationTask :=
  if (t.status = .pending ∧ t.dueAt.isoformat ≤ now.isoformat) ∨
      (t.status = .running ∧ t.leaseUntil.any fun l => l.isoformat ≤ now.isoformat) then
    { t with status := .running, startedAt := t.startedAt <|> some now, leaseUntil := some leaseUntil,
             workerId := some workerId, updatedAt := now, attemptCount := t.attemptCount + 1 }
  else t

/-- `_finish`, while the row is running and its lease is not over. -/
def finishRow (error : Option String) (finishedAt : DateTime) (t : AutomationTask) :
    AutomationTask :=
  if t.status = .running ∧ ¬ (t.leaseUntil.any fun l => l.instant ≤ finishedAt.instant) then
    { t with status := if error.isSome then .failed else .succeeded, updatedAt := finishedAt,
             finishedAt := some finishedAt, leaseUntil := none, workerId :=
               none, lastError := error }
  else t

def requeueRow (now : DateTime) (t : AutomationTask) : AutomationTask :=
  { t with status := .pending, dueAt := now, updatedAt := now, leaseUntil := none, workerId := none,
           lastError := t.lastError <|> some "requeued after stale runtime restart" }

def quarantineRow (now : DateTime) (reason : String) (t : AutomationTask) : AutomationTask :=
  if externalEffectTaskTypes.contains t.taskType ∧ t.unfinished then
    { t with status := .legacyPending, updatedAt := now, lastError := t.lastError <|> some reason,
             leaseUntil := none, workerId := none }
  else t

/-- The payload of a retry. -/
def retryPayload (p : TaskPayload) : TaskPayload :=
  { p with retryAttempt := max 0 p.retryAttempt + 1 }

def TaskWrite.apply (tasks : List AutomationTask) : TaskWrite → Except PyError (List AutomationTask)
  | claim taskId workerId now leaseUntil =>
    .ok (updateRow tasks taskId (claimRow workerId now leaseUntil))
  | finish taskId error finishedAt => .ok (updateRow tasks taskId (finishRow error finishedAt))
  | cancel taskId updatedAt => cancelTask tasks taskId updatedAt
  | retry task dueAt updatedAt =>
    -- the worker holds the row it claimed
    match byId tasks task.taskId with
    | none => .error (.valueError "reconciliation task ownership was lost")
    | some t => rescheduleRunning tasks task dueAt updatedAt (retryPayload t.payload)
  | requeue taskId now => .ok (updateRow tasks taskId (requeueRow now))
  | quarantine taskId now reason => .ok (updateRow tasks taskId (quarantineRow now reason))

/-- Rows that differ in no part of their identity. -/
theorem sameTask_of_eq {t t' : AutomationTask} (hid : t'.taskId = t.taskId)
    (htype : t'.taskType = t.taskType)
    (hent : t'.entityId = t.entityId) (hpay : t'.payload = t.payload)
    (hkey : t'.dedupeKey = t.dedupeKey) : SameTask t t' :=
  ⟨hid, htype, hent, ⟨t.payload.retryAttempt, hpay⟩, fun _ => hkey,
    fun h => ⟨htype ▸ h.plain, fun k he => htype ▸ h.key k (hkey ▸ he)⟩⟩

theorem TaskWrite.sameTasks {tasks tasks' : List AutomationTask} (hn : (tasks.map (·.taskId)).Nodup)
    {w : TaskWrite} (h : w.apply tasks = .ok tasks') : SameTasks tasks tasks' := by
  cases w with
  | claim taskId workerId now leaseUntil =>
    cases h
    refine sameTasks_updateRow fun t _ _ => ?_
    unfold claimRow
    split_ifs <;> exact sameTask_of_eq rfl rfl rfl rfl rfl
  | finish taskId error finishedAt =>
    cases h
    refine sameTasks_updateRow fun t _ _ => ?_
    unfold finishRow
    split_ifs <;> exact sameTask_of_eq rfl rfl rfl rfl rfl
  | cancel taskId updatedAt => exact sameTasks_cancel h
  | retry task dueAt updatedAt =>
    simp only [TaskWrite.apply] at h
    split at h
    · cases h
    · rename_i t ht
      obtain ⟨hmem, hid⟩ := byId_mem ht
      refine sameTasks_reschedule (fun u hu hid' => ?_) h
      obtain rfl := eq_of_taskId hn hu hmem (hid'.trans hid.symm)
      exact ⟨_, rfl⟩
  | requeue taskId now =>
    cases h
    exact sameTasks_updateRow fun t _ _ => sameTask_of_eq rfl rfl rfl rfl rfl
  | quarantine taskId now reason =>
    cases h
    refine sameTasks_updateRow fun t _ _ => ?_
    unfold quarantineRow
    split_ifs <;> exact sameTask_of_eq rfl rfl rfl rfl rfl

end TemperatureMonitor
