/-
# Which task is an action's own

The notification tasks are prepared in one loop, and their ids are given to
the actions, saved in the alarm state and cancelled after an execution in
three others, each by position among the actions it looks at (`deal`).
`tasks_attributed_iff` says when the four agree.
-/
import TemperatureMonitor.Library.Dealing
import TemperatureMonitor.Service.Executor
import TemperatureMonitor.Service.Play
import TemperatureMonitor.Service.ReconcileRun

namespace TemperatureMonitor

/-! ### The loops -/

/-- `_NOTIFICATION_ACTION_TYPES`. -/
def isNotice : AlarmActionType → Bool
  | .notifyAlarm | .notifyRecovery | .notifyPrewarning | .notifyPrewarningRecovery => true
  | _ => false

/-- `cancel`, of a task that may be claimed or finished already. -/
def cancelOrSkip (tasks : List AutomationTask) (taskId : String) (updatedAt : DateTime) :
    List AutomationTask :=
  match cancelTask tasks taskId updatedAt with
  | .ok tasks' => tasks'
  | .error _ => tasks

/-- `_finish_successful_tasks`. -/
def finishSuccessfulTasks (actionTypes : AlarmActionType → Bool) (updatedAt : DateTime) :
    List String → List ActionExecution → List AutomationTask → List AutomationTask
  | _, [], tasks => tasks
  | [], _, tasks => tasks
  | id :: ids, e :: rest, tasks =>
    if actionTypes e.action.actionType then
      finishSuccessfulTasks actionTypes updatedAt ids rest
        (if e.status = .succeeded then cancelOrSkip tasks id updatedAt else tasks)
    else finishSuccessfulTasks actionTypes updatedAt (id :: ids) rest tasks

/-- The notification actions of a list. -/
def notices (actions : List ApplicationAction) : List ApplicationAction :=
  actions.filter fun a => a.kind = .notification

/-- The prewarning messages of a list. -/
def prewarnings (actions : List ApplicationAction) : List ApplicationAction :=
  (notices actions).filter fun a => isPrewarningMessage a.actionType

/-- What the loop of `_prepare_notification_tasks_from_context` creates for
each action, when it comes to it. -/
def createdTasks (cfg : ServiceConfig) (g : Gates) (c : NotificationContext) :
    List ApplicationAction → TaskStore → List (Option String)
  | [], _ => []
  | a :: rest, store =>
    let made := prepareNotificationTasks cfg g c [a] store
    made.2.head? :: createdTasks cfg g c rest made.1

/-- The ids `_attach_prewarning_task_metadata` saves, for each prewarning
message in turn (`attachPrewarning_saves`). -/
def savedTasks (actions : List ApplicationAction) (taskIds : List String) : List (Option String) :=
  deal (prewarnings actions) taskIds

/-- The alarm state after a message's task is saved. -/
def AlarmState.saveTask (next : AlarmState) (saved : ApplicationAction × Option String) :
    AlarmState :=
  match saved.2 with
  | none => next
  | some id =>
    if saved.1.actionType = .notifyPrewarning then { next with prewarningNotifyTaskId := some id }
    else { next with prewarningRecoveryTaskId := some id }

/-- The table after an execution's own task is cancelled, if it succeeded. -/
def cancelOwn (updatedAt : DateTime) (tasks : List AutomationTask)
    (own : ActionExecution × Option String) : List AutomationTask :=
  match own.2 with
  | none => tasks
  | some id => if own.1.status = .succeeded then cancelOrSkip tasks id updatedAt else tasks

/-! ### Each loop deals -/

theorem attachPrewarning_saves : ∀ (actions : List ApplicationAction) (taskIds : List String)
    (next : AlarmState), attachPrewarningTaskMetadata actions taskIds next =
      ((prewarnings actions).zip (savedTasks actions taskIds)).foldl AlarmState.saveTask next
  | [], _, _ => rfl
  | a :: rest, [], next => by
    have hnone : ∀ (l : List ApplicationAction),
        (l.zip (l.map fun _ => none)).foldl AlarmState.saveTask next = next := by
      intro l
      induction l with
      | nil => rfl
      | cons b l ih => exact ih
    rw [savedTasks, deal_nil, hnone]
    rfl
  | a :: rest, id :: ids, next => by
    show _ = ((prewarnings (a :: rest)).zip (deal (prewarnings (a :: rest)) (id :: ids))).foldl
      _ next
    unfold attachPrewarningTaskMetadata
    by_cases h : a.kind = .notification ∧ isPrewarningMessage a.actionType = true
    · have hp : prewarnings (a :: rest) = a :: prewarnings rest := by
        simp [prewarnings, notices, h.1, h.2]
      rw [if_pos h, attachPrewarning_saves rest ids, hp]
      rfl
    · have hp : prewarnings (a :: rest) = prewarnings rest := by
        by_cases hk : a.kind = .notification
        · simp [prewarnings, notices, hk, show isPrewarningMessage a.actionType = false by
            simpa [hk] using h]
        · simp [prewarnings, notices, hk]
      rw [if_neg h, attachPrewarning_saves rest (id :: ids), hp]
      rfl

theorem finishSuccessful_deals (actionTypes : AlarmActionType → Bool) (updatedAt : DateTime) :
    ∀ (ids : List String) (executions : List ActionExecution) (tasks : List AutomationTask),
      finishSuccessfulTasks actionTypes updatedAt ids executions tasks =
        ((executions.filter fun e => actionTypes e.action.actionType).zip
          (deal (executions.filter fun e => actionTypes e.action.actionType) ids)).foldl
            (cancelOwn updatedAt) tasks
  | _, [], _ => by simp [finishSuccessfulTasks]
  | [], e :: rest, tasks => by
    have hnone : ∀ (l : List ActionExecution),
        (l.zip (l.map fun _ => none)).foldl (cancelOwn updatedAt) tasks = tasks := by
      intro l
      induction l with
      | nil => rfl
      | cons b l ih => exact ih
    rw [deal_nil, hnone]
    rfl
  | id :: ids, e :: rest, tasks => by
    unfold finishSuccessfulTasks
    by_cases h : actionTypes e.action.actionType = true
    · rw [if_pos h, finishSuccessful_deals actionTypes updatedAt ids rest,
        List.filter_cons_of_pos (by simpa using h)]
      rfl
    · rw [if_neg h, finishSuccessful_deals actionTypes updatedAt (id :: ids) rest,
        List.filter_cons_of_neg (by simpa using h)]

theorem attachIds_deals {takes : ApplicationAction → Bool}
    {give : String → ApplicationAction → ApplicationAction}
    (hid : ∀ id a, (give id a).taskId = some id) (hkeep : ∀ id a, takes (give id a) = takes a) :
    ∀ (actions : List ApplicationAction) (ids : List String),
      (∀ a ∈ actions, takes a = true → a.taskId = none) →
      ((attachIds takes give actions ids).filter takes).map (·.taskId) =
        deal (actions.filter takes) ids
  | [], _, _ => rfl
  | a :: rest, [], h => by
    rw [deal_nil]
    refine List.map_congr_left fun b hb => ?_
    obtain ⟨hmem, ht⟩ := List.mem_filter.mp hb
    exact h b hmem ht
  | a :: rest, id :: ids, h => by
    have ih :=
      fun ids => attachIds_deals hid hkeep rest ids fun b hb => h b (List.mem_cons_of_mem _ hb)
    unfold attachIds
    by_cases ht : takes a = true
    · rw [if_pos ht, List.filter_cons_of_pos ((hkeep id a).trans ht), List.filter_cons_of_pos ht,
          List.map_cons,
        hid, ih ids]
      rfl
    · rw [if_neg ht, List.filter_cons_of_neg ht, List.filter_cons_of_neg ht, ih (id :: ids)]

/-! ### What is created for an action -/

/-- The action is given a task. -/
def Gates.prepares (g : Gates) (a : ApplicationAction) : Bool :=
  g.notificationEnabled a.actionType && truthy a.dedupeKey &&
    (isPrewarningMessage a.actionType || truthy a.alarmId)

section Created

variable {cfg : ServiceConfig} {g : Gates} {c : NotificationContext}

theorem prepareNotificationTasks_cons (a : ApplicationAction) (rest : List ApplicationAction)
    (store : TaskStore) : prepareNotificationTasks cfg g c (a :: rest) store =
      let made := prepareNotificationTasks cfg g c [a] store
      let others := prepareNotificationTasks cfg g c rest made.1
      (others.1, made.2 ++ others.2) := by
  simp only [prepareNotificationTasks]
  cases a.dedupeKey with
  | none => rfl
  | some key =>
    simp only
    split_ifs
    · rfl
    · rfl

/-- An action without a task changes nothing. -/
theorem prepareNotificationTasks_skips {a : ApplicationAction} (h : g.prepares a = false)
    (store : TaskStore) : prepareNotificationTasks cfg g c [a] store = (store, []) := by
  simp only [prepareNotificationTasks]
  cases hk : a.dedupeKey with
  | none => rfl
  | some key =>
    refine if_pos ?_
    simp only [Gates.prepares, hk, truthy, Option.any_some, Bool.and_eq_false_iff,
      Bool.or_eq_false_iff] at h
    have hkey : (key = "") ↔ decide (key ≠ "") = false := by simp
    rw [hkey]
    tauto

variable (cfg c) in
theorem prepareNotificationTasks_creates {a : ApplicationAction} (h : g.prepares a = true)
    (store : TaskStore) :
    ∃ key, a.dedupeKey = some key ∧ prepareNotificationTasks cfg g c [a] store =
      let made := createOrGet store.tasks g.activation (cfg.uuid store.drawn)
        (notificationSpec c a key)
      (⟨made.1, store.drawn + 1⟩, [made.2.taskId]) := by
  simp only [Gates.prepares, Bool.and_eq_true, Bool.or_eq_true] at h
  obtain ⟨⟨hflag, hkey⟩, hid⟩ := h
  cases hk : a.dedupeKey with
  | none => simp [truthy, hk] at hkey
  | some key =>
    refine ⟨key, rfl, ?_⟩
    simp only [prepareNotificationTasks, hk]
    refine if_neg ?_
    have hne : key ≠ "" := by simpa [truthy, hk] using hkey
    rintro (hoff | ⟨hnot, hno⟩ | he)
    · rw [hflag] at hoff
      cases hoff
    · rw [hnot, hno] at hid
      simp at hid
    · exact hne he

/-- An action is given at most one task. -/
theorem prepareNotificationTasks_one (a : ApplicationAction) (store : TaskStore) :
    (prepareNotificationTasks cfg g c [a] store).2 =
      (prepareNotificationTasks cfg g c [a] store).2.head?.toList := by
  by_cases h : g.prepares a = true
  · obtain ⟨key, -, heq⟩ := prepareNotificationTasks_creates _ _ h store
    rw [heq]
    rfl
  · rw [prepareNotificationTasks_skips (by simpa using h)]
    rfl

/-- The ids of the loop are the created ones. -/
theorem prepareNotificationTasks_ids : ∀ (actions : List ApplicationAction) (store : TaskStore),
    (prepareNotificationTasks cfg g c actions store).2 =
      (createdTasks cfg g c actions store).reduceOption
  | [], _ => rfl
  | a :: rest, store => by
    rw [prepareNotificationTasks_cons, createdTasks]
    simp only
    rw [prepareNotificationTasks_ids rest, prepareNotificationTasks_one a]
    cases (prepareNotificationTasks cfg g c [a] store).2.head? with
    | none => rfl
    | some id => rfl

/-! ### The tasks, by their keys -/

/-- The row an action's task is in. -/
def Gates.rowOf (g : Gates) (tasks : List AutomationTask) (a : ApplicationAction) :
    Option AutomationTask :=
  if g.prepares a then byDedupeKey tasks a.dedupeKey else none

theorem byDedupeKey_append {tasks rows : List AutomationTask} {key : Option String}
    {t : AutomationTask}
    (h : byDedupeKey tasks key = some t) : byDedupeKey (tasks ++ rows) key = some t := by
  unfold byDedupeKey at h ⊢
  rw [List.find?_append, h]
  rfl

/-- A created or reused row is the row of its key. -/
theorem createOrGet_row (tasks : List AutomationTask) (a : RuntimeActivation) (newId : String)
    {spec : TaskSpec} {key : String} (hspec : spec.dedupeKey = some key) :
    byDedupeKey (createOrGet tasks a newId spec).1 (some key) =
      some (createOrGet tasks a newId spec).2 := by
  unfold createOrGet
  rw [hspec]
  cases h : byDedupeKey tasks (some key) with
  | some t => exact h
  | none =>
    unfold byDedupeKey at h ⊢
    rw [List.find?_append, h]
    simp [TaskSpec.row, hspec]

theorem createOrGet_appends (tasks : List AutomationTask) (a : RuntimeActivation) (newId : String)
    (spec : TaskSpec) : (createOrGet tasks a newId spec).1 = tasks ∨
      ∃ row : AutomationTask, row.taskId = newId ∧
        (createOrGet tasks a newId spec).1 = tasks ++ [row] := by
  unfold createOrGet
  cases byDedupeKey tasks spec.dedupeKey with
  | some t => exact .inl rfl
  | none => exact .inr ⟨spec.row a newId, rfl, rfl⟩

/-- The ids of the rows are distinct, and the ids to come are new. -/
structure TaskStore.Fresh (uuid : ℕ → String) (s : TaskStore) : Prop where
  nodup : (s.tasks.map (·.taskId)).Nodup
  fresh : ∀ t ∈ s.tasks, ∀ n, s.drawn ≤ n → t.taskId ≠ uuid n

theorem TaskStore.Fresh.draw {uuid : ℕ → String} {tasks : List AutomationTask} {drawn : ℕ}
    (h : TaskStore.Fresh uuid ⟨tasks, drawn⟩) : TaskStore.Fresh uuid ⟨tasks, drawn + 1⟩ where
  nodup := h.nodup
  fresh := fun t ht n hn => h.fresh t ht n (Nat.le_of_succ_le hn)

theorem TaskStore.Fresh.insert {uuid : ℕ → String} (hinj : Function.Injective uuid)
    {tasks : List AutomationTask}
    {drawn : ℕ} {row : AutomationTask} (h : TaskStore.Fresh uuid ⟨tasks, drawn⟩)
    (hid : row.taskId = uuid drawn) : TaskStore.Fresh uuid ⟨tasks ++ [row], drawn + 1⟩ where
  nodup := by
    rw [List.map_append, List.nodup_append]
    refine ⟨h.nodup, List.nodup_singleton _, ?_⟩
    intro a ha b hb
    obtain ⟨t, ht, rfl⟩ := List.mem_map.mp ha
    rw [List.mem_singleton.mp hb]
    show t.taskId ≠ row.taskId
    rw [hid]
    exact h.fresh t ht drawn (le_refl drawn)
  fresh := by
    intro t ht n hn
    rcases List.mem_append.mp ht with ht | ht
    · exact h.draw.fresh t ht n hn
    · rw [List.mem_singleton.mp ht, hid]
      intro he
      have hle : drawn + 1 ≤ n := hn
      have heq : drawn = n := hinj he
      omega

/-- The loop only appends rows, and keeps ids distinct. -/
theorem prepareNotificationTasks_appends (hinj : Function.Injective cfg.uuid) :
    ∀ (actions : List ApplicationAction) (store : TaskStore), store.Fresh cfg.uuid →
      (prepareNotificationTasks cfg g c actions store).1.Fresh cfg.uuid ∧
        store.tasks <+: (prepareNotificationTasks cfg g c actions store).1.tasks
  | [], store, hs => ⟨hs, List.prefix_refl _⟩
  | a :: rest, store, hs => by
    rw [prepareNotificationTasks_cons]
    by_cases h : g.prepares a = true
    · obtain ⟨key, -, heq⟩ := prepareNotificationTasks_creates cfg c h store
      rw [heq]
      simp only
      rcases createOrGet_appends store.tasks g.activation (cfg.uuid store.drawn)
          (notificationSpec c a key) with
        hsame | ⟨row, hid, hrow⟩
      · rw [hsame]
        exact prepareNotificationTasks_appends hinj rest ⟨store.tasks, store.drawn + 1⟩ hs.draw
      · rw [hrow]
        obtain ⟨hfresh, hpre⟩ := prepareNotificationTasks_appends hinj rest
          ⟨store.tasks ++ [row], store.drawn + 1⟩ (hs.insert hinj hid)
        exact ⟨hfresh, (List.prefix_append _ _).trans hpre⟩
    · rw [prepareNotificationTasks_skips (by simpa using h)]
      exact prepareNotificationTasks_appends hinj rest store hs

/-- The task created for an action is the row of its key. -/
theorem createdTasks_eq (hinj : Function.Injective cfg.uuid) :
    ∀ (actions : List ApplicationAction) (store : TaskStore), store.Fresh cfg.uuid →
      createdTasks cfg g c actions store =
        actions.map fun a =>
          (g.rowOf (prepareNotificationTasks cfg g c actions store).1.tasks a).map (·.taskId)
  | [], _, _ => rfl
  | a :: rest, store, hs => by
    obtain ⟨hs', -⟩ := prepareNotificationTasks_appends (c := c) (g := g) hinj [a] store hs
    rw [createdTasks, List.map_cons, prepareNotificationTasks_cons a rest store]
    simp only
    rw [createdTasks_eq hinj rest _ hs']
    refine congrArg (· :: _) ?_
    obtain ⟨-, rows, hrows⟩ := prepareNotificationTasks_appends (c := c) (g := g) hinj rest _ hs'
    unfold Gates.rowOf
    by_cases h : g.prepares a = true
    · obtain ⟨key, hkey, heq⟩ := prepareNotificationTasks_creates cfg c h store
      rw [if_pos h, ← hrows, hkey, heq]
      have hrow := createOrGet_row store.tasks g.activation (cfg.uuid store.drawn)
        (show (notificationSpec c a key).dedupeKey = some key from rfl)
      rw [byDedupeKey_append hrow]
      rfl
    · rw [if_neg h, prepareNotificationTasks_skips (by simpa using h)]
      rfl

/-- Each action that is given a task has one created. -/
theorem createdTasks_isSome : ∀ (actions : List ApplicationAction) (store : TaskStore),
    (createdTasks cfg g c actions store).map (·.isSome) = actions.map g.prepares
  | [], _ => rfl
  | a :: rest, store => by
    rw [createdTasks, List.map_cons, List.map_cons, createdTasks_isSome rest]
    refine congrArg (· :: _) ?_
    by_cases h : g.prepares a = true
    · obtain ⟨key, -, heq⟩ := prepareNotificationTasks_creates cfg c h store
      rw [heq, h]
      rfl
    · rw [prepareNotificationTasks_skips (by simpa using h), show g.prepares a = false by
        simpa using h]
      rfl

end Created

/-! ### Mapped actions -/

/-- What the mapper and the enrichment make of an action: a message has the
kind of its type, no task yet, and a key that begins with its type. -/
structure ApplicationAction.Mapped (a : ApplicationAction) : Prop where
  notice : a.kind = .notification ↔ isNotice a.actionType = true
  task : a.kind = .notification → a.taskId = none
  key : a.kind = .notification → ∀ k, a.dedupeKey = some k →
    ∃ rest, k = a.actionType.value ++ ":" ++ rest

theorem ApplicationAction.Mapped.of_other {a : ApplicationAction} (hk : a.kind ≠ .notification)
    (ht : isNotice a.actionType = false) : a.Mapped where
  notice := by simp [hk, ht]
  task := fun h => absurd h hk
  key := fun h => absurd h hk

theorem kindOf_notice (t : AlarmActionType) : kindOf t = .notification ↔ isNotice t = true := by
  cases t <;> simp [kindOf, isNotice]

theorem mapPlain_mapped (reason : String) (b : AlarmAction) :
    (mapPlain reason b).Mapped ∧ (mapPlain reason b).dedupeKey = none :=
  ⟨⟨kindOf_notice b.actionType, fun _ => rfl, fun _ _ h => by cases h⟩, rfl⟩

theorem mapAction_mapped {emit : Bool} {tr : StateTransition} {b : AlarmAction}
    {xs : List ApplicationAction}
    (h : mapAction emit tr b = .ok xs) {a : ApplicationAction} (ha : a ∈ xs) :
    a.Mapped ∧ (a.kind = .notification → a.dedupeKey = none) := by
  have hplain :=
    fun b => (mapPlain_mapped tr.reason b).imp id
      fun hk (_ : kindOf b.actionType = .notification) => hk
  unfold mapAction at h
  split at h
  · rename_i htype
    split at h
    · cases h
      obtain rfl := List.mem_singleton.mp ha
      exact ⟨.of_other (fun hk => by cases hk) (by simp [htype, isNotice]), fun hk => by cases hk⟩
    · cases h
  · rename_i htype
    cases h
    obtain rfl := List.mem_singleton.mp ha
    exact ⟨.of_other (fun hk => by cases hk) (by simp [htype, isNotice]), fun hk => by cases hk⟩
  · rename_i htype
    cases h
    obtain rfl := List.mem_singleton.mp ha
    exact ⟨.of_other (fun hk => by cases hk) (by simp [htype, isNotice]), fun hk => by cases hk⟩
  · split at h
    · split_ifs at h
      · cases h
        rcases List.mem_cons.mp ha with rfl | ha
        · exact hplain b
        · obtain rfl := List.mem_singleton.mp ha
          exact hplain _
      · cases h
        obtain rfl := List.mem_singleton.mp ha
        exact hplain b
    · cases h
      obtain rfl := List.mem_singleton.mp ha
      exact hplain b

theorem enrichAction_taskId {digest : UpdateMaterial → String} {tr : StateTransition}
    {f : SampleFacts} {a a' : ApplicationAction} (h : enrichAction digest tr f a = .ok a') :
    a'.taskId = actionTaskId tr f.schedulerTaskId a := by
  unfold enrichAction at h
  simp only at h
  split at h
  · split_ifs at h
    · split at h
      · cases h
      · cases h
        rfl
    · cases h
      rfl
  · cases h
    rfl

theorem enrichAction_mapped {digest : UpdateMaterial → String} {tr : StateTransition}
    {f : SampleFacts}
    {a a' : ApplicationAction} (hm : a.Mapped) (hkey : a.kind = .notification → a.dedupeKey = none)
    (h : enrichAction digest tr f a = .ok a') : a'.Mapped := by
  obtain ⟨htype, hkind⟩ := enrichAction_type h
  refine ⟨?_, fun hk => ?_, fun hk k hkk => ?_⟩
  · rw [htype, hkind]
    exact hm.notice
  · rw [hkind] at hk
    rw [enrichAction_taskId h, ← hm.task hk]
    have hn := hm.notice.mp hk
    unfold actionTaskId
    revert hn
    cases a.actionType <;> simp [isNotice]
  · rw [hkind] at hk
    refine enriched_key ⟨hkey hk, ?_⟩ h hkk
    have hn := hm.notice.mp hk
    revert hn
    cases a.actionType <;> simp [isNotice, isPrewarningMessage]

/-- The actions a sample's notification tasks are prepared for. -/
theorem sample_mapped {emit : Bool} {digest : UpdateMaterial → String} {tr tr' : StateTransition}
    {f : SampleFacts}
    {as : List AlarmAction} {mapped enriched : List ApplicationAction}
    (hmap : mapActions emit tr as = .ok mapped)
    (henrich : enrichActions digest tr' f mapped = .ok enriched) (taskIds : List String)
    (eventId : Option String) :
    ∀ a ∈ attachReconciliationTaskMetadata enriched taskIds eventId, a.Mapped := by
  intro a ha
  obtain ⟨b, hb, hab⟩ := forall₂_mem_right (attachIds_forall₂ _ _ enriched taskIds) ha
  obtain ⟨x, hx, hxb⟩ := forall₂_mem_right (enrichActions_forall₂ henrich) hb
  obtain ⟨y, -, ys, hys, hxy⟩ := mem_mapActions hmap hx
  obtain ⟨hxm, hxk⟩ := mapAction_mapped hys hxy
  have hbm := enrichAction_mapped hxm hxk hxb
  rcases hab with rfl | ⟨hevent, id, rfl⟩
  · exact hbm
  · -- an event action is no message
    have hnot : isNotice b.actionType = false := by
      revert hevent
      cases b.actionType <;> simp [isEventAction, isNotice]
    have hkind : b.kind ≠ .notification := fun hk => by
      rw [hbm.notice.mp hk] at hnot
      cases hnot
    exact .of_other hkind hnot

/-! ### The attribution -/

section Attributed

variable (cfg : ServiceConfig) (g : Gates) (c : NotificationContext)
  (actions : List ApplicationAction)
  (eventId : Option String) (store : TaskStore)

/-- The prepared tasks, and the actions with their ids. -/
def preparedIds : List String := (prepareNotificationTasks cfg g c (notices actions) store).2

def attachedActions : List ApplicationAction :=
  attachNotificationTaskMetadata actions (preparedIds cfg g c actions store) eventId

/-- The tasks created for the prewarning messages. -/
def createdForPrewarnings : List (Option String) :=
  (((notices actions).zip (createdTasks cfg g c (notices actions) store)).filter fun p =>
    isPrewarningMessage p.1.actionType).map (·.2)

/-- Every loop deals an action the task created from it: the id attached, the
id saved for a prewarning message, and the task cancelled when the action has
succeeded. Where none was created there is none. -/
structure TasksAttributed : Prop where
  attached : (notices (attachedActions cfg g c actions eventId store)).map (·.taskId) =
    createdTasks cfg g c (notices actions) store
  saved : savedTasks (attachedActions cfg g c actions eventId store)
      (preparedIds cfg g c actions store) =
    createdForPrewarnings cfg g c actions store
  state : ∀ next, attachPrewarningTaskMetadata (attachedActions cfg g c actions eventId store)
      (preparedIds cfg g c actions store) next =
    ((prewarnings (attachedActions cfg g c actions eventId store)).zip
      (createdForPrewarnings cfg g c actions store)).foldl AlarmState.saveTask next
  cancelled :
      ∀ (updatedAt : DateTime) (tasks : List AutomationTask) (executions : List ActionExecution),
    executions.map (·.action) = attachedActions cfg g c actions eventId store →
      finishSuccessfulTasks isNotice updatedAt (preparedIds cfg g c actions store)
          executions tasks =
        ((executions.filter fun e => isNotice e.action.actionType).zip
          (createdTasks cfg g c (notices actions) store)).foldl (cancelOwn updatedAt) tasks

/-- The messages with a task come first, and none that is no prewarning stands
before a prewarning. -/
def InOrder : Prop :=
  (notices actions).Pairwise fun a b => (g.prepares b = true → g.prepares a = true) ∧
    (g.prepares a = true → isPrewarningMessage b.actionType = true →
      isPrewarningMessage a.actionType = true)

instance : Decidable (InOrder g actions) := inferInstanceAs (Decidable (List.Pairwise _ _))

end Attributed

section Order

variable {cfg : ServiceConfig} {g : Gates} {c : NotificationContext}
  {actions : List ApplicationAction}
  {eventId : Option String} {store : TaskStore}

theorem attachedActions_passed :
    List.Forall₂ Passed actions (attachedActions cfg g c actions eventId store) :=
  attachNotification_passed actions _ eventId

theorem forall₂_filter_length {α β : Type*} {R : α → β → Prop} {p : α → Bool} {q : β → Bool}
    (hpq : ∀ a b, R a b → p a = q b) {as : List α} {bs : List β} (h : List.Forall₂ R as bs) :
    (as.filter p).length = (bs.filter q).length := by
  rw [← List.countP_eq_length_filter, ← List.countP_eq_length_filter]
  exact forall₂_countP hpq h

theorem zip_map_filter {α β : Type*} (p : α → Bool) (f : α → β) (as : List α) :
    ((as.zip (as.map f)).filter fun x => p x.1).map (·.2) = (as.filter p).map f := by
  induction as with
  | nil => rfl
  | cons a as ih =>
    by_cases h : p a = true
    · simp [h, ih]
    · simp [h, ih]

theorem attachedActions_ids (hm : ∀ a ∈ actions, a.Mapped) :
    (notices (attachedActions cfg g c actions eventId store)).map (·.taskId) =
      deal (notices actions) (preparedIds cfg g c actions store) := by
  unfold attachedActions attachNotificationTaskMetadata notices
  refine attachIds_deals ?_ ?_ actions _ ?_
  · exact fun _ _ => rfl
  · exact fun _ _ => rfl
  · exact fun a ha hk => (hm a ha).task (by simpa using hk)

theorem savedTasks_attached (ids : List String) :
    savedTasks (attachedActions cfg g c actions eventId store) ids =
      deal (prewarnings actions) ids := by
  refine deal_length_congr ids ?_
  simp only [prewarnings, notices, List.filter_filter]
  refine (forall₂_filter_length (fun a b hab => ?_) attachedActions_passed).symm
  rw [hab.actionType, hab.kind]

theorem AlarmActionType.value_inj {s t : AlarmActionType} (h : s.value = t.value) : s = t := by
  cases s <;> cases t <;> first | rfl | exact absurd h (by decide)

theorem Gates.rowOf_some {tasks : List AutomationTask} {a : ApplicationAction}
    {t : AutomationTask} (g : Gates)
    (h : g.rowOf tasks a = some t) : t ∈ tasks ∧ t.dedupeKey = a.dedupeKey ∧
      t.dedupeKey ≠ none := by
  unfold Gates.rowOf at h
  split_ifs at h
  obtain ⟨hmem, hkey, hsome⟩ := byDedupeKey_some h
  exact ⟨hmem, hkey, fun hnone => by rw [← hkey, hnone] at hsome; cases hsome⟩

/-- The rows of two messages of different types are different. -/
theorem rowOf_ne (hinj : Function.Injective cfg.uuid) (hs : store.Fresh cfg.uuid)
    {a b : ApplicationAction}
    (ha : a.Mapped) (hb : b.Mapped) (hka : a.kind = .notification) (hkb : b.kind = .notification)
    (htype : a.actionType ≠ b.actionType) (as : List ApplicationAction)
    (he : (g.rowOf (prepareNotificationTasks cfg g c as store).1.tasks a).map (·.taskId) =
      (g.rowOf (prepareNotificationTasks cfg g c as store).1.tasks b).map (·.taskId)) :
    (g.rowOf (prepareNotificationTasks cfg g c as store).1.tasks a).map (·.taskId) = none := by
  obtain ⟨hfresh, -⟩ := prepareNotificationTasks_appends (c := c) (g := g) hinj as store hs
  have hnodup := hfresh.nodup
  generalize (prepareNotificationTasks cfg g c as store).1.tasks = tasks at he hnodup ⊢
  cases hra : g.rowOf tasks a with
  | none => rfl
  | some t =>
    rw [hra] at he
    obtain ⟨u, hru, hid⟩ := Option.map_eq_some_iff.mp he.symm
    obtain ⟨hmt, hkt⟩ := g.rowOf_some hra
    obtain ⟨hmu, hku⟩ := g.rowOf_some hru
    obtain rfl : u = t := eq_of_taskId hnodup hmu hmt hid
    -- the row's one key would begin with both types
    cases hk : u.dedupeKey with
    | none => exact absurd hk hkt.2
    | some k =>
      obtain ⟨x, hx⟩ := ha.key hka k (hkt.1.symm.trans hk)
      obtain ⟨y, hy⟩ := hb.key hkb k (hku.1.symm.trans hk)
      have hvalue :=
        (colon_prefix_inj a.actionType.value_plain b.actionType.value_plain (hx.symm.trans hy)).1
      exact absurd (AlarmActionType.value_inj hvalue) htype

theorem attributed_iff_inOrder (hinj : Function.Injective cfg.uuid) (hs : store.Fresh cfg.uuid)
    (hm : ∀ a ∈ actions, a.Mapped) : TasksAttributed cfg g c actions eventId store ↔
      InOrder g actions := by
  set f := fun a =>
      (g.rowOf (prepareNotificationTasks cfg g c (notices actions) store).1.tasks a).map (·.taskId)
    with hf
  have hcreated : createdTasks cfg g c (notices actions) store = (notices actions).map f :=
    createdTasks_eq hinj (notices actions) store hs
  have hids : preparedIds cfg g c actions store = (notices actions).filterMap f := by
    rw [preparedIds, prepareNotificationTasks_ids, hcreated]
    show ((notices actions).map f).filterMap id = _
    rw [List.filterMap_map]
    rfl
  have hsome : ∀ a ∈ notices actions, (f a).isSome = g.prepares a := by
    have hmap : (createdTasks cfg g c (notices actions) store).map (·.isSome) =
        (notices actions).map g.prepares :=
      createdTasks_isSome (notices actions) store
    rw [hcreated, List.map_map] at hmap
    exact List.map_inj_left.mp hmap
  have hattached : (notices (attachedActions cfg g c actions eventId store)).map (·.taskId) =
      createdTasks cfg g c (notices actions) store ↔
      (notices actions).Pairwise fun a b => g.prepares b = true → g.prepares a = true := by
    rw [attachedActions_ids hm, hids, hcreated, deal_filterMap_iff]
    refine List.Pairwise.iff_of_mem fun {a b} ha hb => ?_
    rw [hsome a ha, hsome b hb]
  unfold InOrder
  rw [List.pairwise_and_iff, ← hattached]
  -- with the ids attached in order, the other loops are dealt the same
  have hsaved (hfirst : (notices actions).Pairwise fun a b =>
      g.prepares b = true → g.prepares a = true) :
      savedTasks (attachedActions cfg g c actions eventId store)
          (preparedIds cfg g c actions store) =
        createdForPrewarnings cfg g c actions store ↔
      (notices actions).Pairwise fun a b => g.prepares a = true →
          isPrewarningMessage b.actionType = true →
        isPrewarningMessage a.actionType = true := by
    rw [createdForPrewarnings, savedTasks_attached, hids, hcreated,
        zip_map_filter (fun a => isPrewarningMessage a.actionType) f,
      prewarnings, deal_filter_iff]
    · refine List.Pairwise.iff_of_mem fun {a b} ha _ => ?_
      rw [hsome a ha]
    · refine hfirst.imp_of_mem fun {a b} ha hb h => ?_
      rw [hsome a ha, hsome b hb]
      exact h
    · intro a ha b hb hpa hpb he
      obtain ⟨hma, hka⟩ := List.mem_filter.mp ha
      obtain ⟨hmb, hkb⟩ := List.mem_filter.mp hb
      refine rowOf_ne hinj hs (hm a hma) (hm b hmb) (by simpa using hka)
        (by simpa using hkb) ?_ _ he
      intro htype
      rw [htype, hpb] at hpa
      cases hpa
  constructor
  · intro h
    exact ⟨h.attached, (hsaved (hattached.mp h.attached)).mp h.saved⟩
  · rintro ⟨hatt, hbefore⟩
    have hown := (hsaved (hattached.mp hatt)).mpr hbefore
    refine ⟨hatt, hown, fun next => ?_, fun updatedAt tasks executions hexec => ?_⟩
    · rw [attachPrewarning_saves, hown]
    have hlen : (executions.filter fun e => isNotice e.action.actionType).length =
        (notices actions).length := by
      have hexecuted : (executions.filter fun e => isNotice e.action.actionType).length =
          ((attachedActions cfg g c actions eventId store).filter fun a =>
            isNotice a.actionType).length := by
        rw [← hexec, List.filter_map, List.length_map]
        rfl
      have hpassed : (actions.filter fun a => isNotice a.actionType).length =
          ((attachedActions cfg g c actions eventId store).filter fun a =>
            isNotice a.actionType).length :=
        forall₂_filter_length (fun a b hab => by rw [hab.actionType]) attachedActions_passed
      rw [hexecuted, ← hpassed, notices]
      refine congrArg List.length (List.filter_congr fun a ha => ?_)
      have hiff := (hm a ha).notice
      by_cases hk : a.kind = .notification
      · rw [hiff.mp hk, decide_eq_true hk]
      · rw [decide_eq_false hk]
        exact Bool.eq_false_iff.mpr fun h => hk (hiff.mpr h)
    rw [finishSuccessful_deals, deal_length_congr _ hlen, ← attachedActions_ids hm, hatt]

/-- The tasks of a sample's messages are attributed exactly if the messages
with a task come first and no formal one of them before a prewarning. -/
theorem tasks_attributed_iff {tr tr' : StateTransition} {f : SampleFacts}
    {mapped enriched : List ApplicationAction}
    (hinj : Function.Injective cfg.uuid)
    (hmap : mapActions cfg.emitNotifications tr tr.actions = .ok mapped)
    (henrich : enrichActions cfg.digest tr' f mapped = .ok enriched) (taskIds : List String)
    (hs : store.Fresh cfg.uuid) :
    TasksAttributed cfg g c (attachReconciliationTaskMetadata enriched taskIds eventId)
      eventId store ↔
      InOrder g (attachReconciliationTaskMetadata enriched taskIds eventId) :=
  attributed_iff_inOrder hinj hs (sample_mapped hmap henrich taskIds eventId)

end Order

/-! ### A recovery near a limit -/

/-- A recovery that has lasted its window, and a normal sample near a limit. -/
def recovering : AlarmState :=
  { deviceId := "TH-01", state := .recovery, violationStartedAt := some (.utc 0),
    alarmStartedAt := some (.utc 300000000), recoveryStartedAt :=
      some (.utc 400000000), activeAlarmId := some "E1" }

def nearLimit : SampleInput := pilotSample .normal 460 ["TEMPERATURE_NEAR_MAX"]

/-- What the sample makes of a state: the machine, then the advisory. -/
def nearLimitTransition (s : AlarmState) : StateTransition :=
  applyPrewarningTransition nearLimit.result nearLimit.now "episode" none
    ((AlarmStateMachine.minutes.apply nearLimit.result s nearLimit.now).toOption.getD
      { previous := s, next := s, actions := [], reason := "" })

def nearLimitMapped (s : AlarmState) : List ApplicationAction :=
  (mapActions true (nearLimitTransition s) (nearLimitTransition s).actions).toOption.getD []

def nearLimitEnriched (s : AlarmState) : List ApplicationAction :=
  (enrichActions pilot.digest (nearLimitTransition s)
      ⟨nearLimit.sample, nearLimit.result, nearLimit.now, none⟩
    (nearLimitMapped s)).toOption.getD []

/-- The recovery and the prewarning are notified by one transition, all flags
on, and the prewarning is saved with the recovery's task. -/
theorem warning_saved_with_recovery_task :
    (nearLimitTransition recovering).actions.map (·.actionType) =
      [.markAlarmRecovered, .notifyPrewarning] ∧
      mapActions true (nearLimitTransition recovering) (nearLimitTransition recovering).actions =
        .ok (nearLimitMapped recovering) ∧
      enrichActions pilot.digest (nearLimitTransition recovering)
        ⟨nearLimit.sample, nearLimit.result, nearLimit.now, none⟩ (nearLimitMapped recovering) =
        .ok (nearLimitEnriched recovering) ∧
      createdTasks pilot {} (nearLimit.notificationContext (nearLimitTransition recovering))
        (notices (nearLimitEnriched recovering)) ⟨[], 0⟩ = [some "a", some "aa"] ∧
      savedTasks (nearLimitEnriched recovering) ["a", "aa"] = [some "a"] ∧
      ¬ TasksAttributed pilot {} (nearLimit.notificationContext (nearLimitTransition recovering))
        (attachReconciliationTaskMetadata (nearLimitEnriched recovering) [] (some "E1")) (some "E1")
          ⟨[], 0⟩ := by
  refine ⟨by decide +kernel, by decide +kernel, by decide +kernel, by decide +kernel, by
    decide +kernel, fun h => ?_⟩
  exact absurd h.saved (by decide +kernel)

/-- The same transition with its actions the other way round. -/
def turnedTransition : StateTransition :=
  { nearLimitTransition recovering with actions := (nearLimitTransition recovering).actions.reverse }

def turnedMapped : List ApplicationAction :=
  (mapActions true turnedTransition turnedTransition.actions).toOption.getD []

def turnedEnriched : List ApplicationAction :=
  (enrichActions pilot.digest turnedTransition
    ⟨nearLimit.sample, nearLimit.result, nearLimit.now, none⟩ turnedMapped).toOption.getD []

/-- With the prewarning before the recovery both have their own tasks. -/
theorem turned_attributed :
    createdTasks pilot {} (nearLimit.notificationContext turnedTransition)
      (notices turnedEnriched) ⟨[], 0⟩ =
        [some "a", some "aa"] ∧
      TasksAttributed pilot {} (nearLimit.notificationContext turnedTransition)
        (attachReconciliationTaskMetadata turnedEnriched [] (some "E1")) (some "E1") ⟨[], 0⟩ := by
  have hmap : mapActions pilot.emitNotifications turnedTransition turnedTransition.actions =
      .ok turnedMapped := by
    decide +kernel
  have henrich : enrichActions pilot.digest turnedTransition
      ⟨nearLimit.sample, nearLimit.result, nearLimit.now, none⟩ turnedMapped =
        .ok turnedEnriched := by decide +kernel
  have hfresh : TaskStore.Fresh pilot.uuid ⟨[], 0⟩ := ⟨List.nodup_nil, fun _ h => by cases h⟩
  exact ⟨by decide +kernel, (tasks_attributed_iff pilotUuid_injective hmap henrich [] hfresh).mpr (by decide +kernel)⟩

end TemperatureMonitor
