/-
# The gate before every production write

The service builds an execution context in three places: for a sample, for a
reconciliation task and for a notification task. All three carry the mode and
the epoch their work was created in, so under all three the executor checks
the epoch and the cutover, and a handler runs exactly when `WriteAllowed`
holds and there is one (`external_write_gated`).
-/
import TemperatureMonitor.Library.IsoOrder
import TemperatureMonitor.Service.Executor
import TemperatureMonitor.Service.Play

namespace TemperatureMonitor

/-! ### The contexts -/

/-- `_runtime_context_metadata`: the recorded mode and epoch, or the mode of
the executor where they cannot be read. -/
def runtimeContextMetadata (mode : AutomationMode) (runtime : Option RuntimeActivation) :
    String × Option String :=
  match runtime with
  | some a => (a.mode, a.activeEpoch)
  | none => (mode.value, none)

/-- `str(task.payload.get("device_id") or task.entity_id).strip()`. -/
def AutomationTask.noticeDevice (t : AutomationTask) : String :=
  strip (if truthy t.payload.deviceId then t.payload.deviceId.getD "" else t.entityId)

/-- The event a notification task is about. -/
def AutomationTask.noticeEvent (t : AutomationTask) (actionType : AlarmActionType) :
    Option String :=
  if isPrewarningMessage actionType then none
  else
    let eventId :=
      strip (if truthy t.payload.eventId then t.payload.eventId.getD "" else t.entityId)
    if eventId = "" then none else some eventId

/-- The action of a notification task. -/
def AutomationTask.noticeAction (t : AutomationTask) (actionType : AlarmActionType) :
    ApplicationAction :=
  { actionType, kind := .notification, deviceId := t.noticeDevice, alarmId := t.noticeEvent actionType,
    taskId := some t.taskId, dedupeKey := t.dedupeKey, payload := t.payload }

/-- What a context is built from: the sample with the runtime context of the
moment, a reconciliation of a device, or a notification task. -/
inductive ContextSource
  | sample (i : SampleInput) (runtime : Option RuntimeActivation)
  | reconcile (r : ReconcileInput) (device : String)
  | notification (task : AutomationTask) (actionType : AlarmActionType) (now : DateTime)

namespace ContextSource

/-- The context `_handle_sample`, `_reconcile_alarm_event_task` and
`execute_notification_task` build. -/
def context (mode : AutomationMode) : ContextSource → ActionContext
  | sample i runtime =>
    { deviceId := some i.sample.deviceId
      createdMode := some (some (runtimeContextMetadata mode runtime).1)
      activeEpoch := some (runtimeContextMetadata mode runtime).2
      automationTaskId := i.schedulerTaskId
      createdAt := .text i.now.isoformat }
  | reconcile r device =>
    { deviceId := some device
      createdMode := some r.task.createdMode
      activeEpoch := some r.task.activeEpoch
      createdAt := .text r.now.isoformat
      taskCreatedAt := .text r.task.createdAt.isoformat }
  | notification task actionType now =>
    { deviceId := some task.noticeDevice
      createdMode := some task.createdMode
      activeEpoch := some task.activeEpoch
      automationTaskId := some task.taskId
      createdAt := .text (task.payload.createdAt.getD now).isoformat
      taskCreatedAt := .text task.createdAt.isoformat
      eventId := task.noticeEvent actionType
      dedupeKey := task.dedupeKey
      externalEffectKey := task.payload.externalEffectKey
      notificationAttemptedAt := some now
      retryable := task.payload.retryable }

/-- The `created_at` argument of the call. -/
def createdAt : ContextSource → DateTime
  | sample i _ => i.now
  | reconcile r _ => r.now
  | notification _ _ now => now

/-- The time of the task, or of the evaluation. -/
def taskTime : ContextSource → DateTime
  | sample i _ => i.now
  | reconcile r _ => r.task.createdAt
  | notification task _ _ => task.createdAt

def deviceId : ContextSource → String
  | sample i _ => i.sample.deviceId
  | reconcile _ device => device
  | notification task _ _ => task.noticeDevice

def createdMode (mode : AutomationMode) : ContextSource → Option String
  | sample _ runtime => some (runtimeContextMetadata mode runtime).1
  | reconcile r _ => r.task.createdMode
  | notification task _ _ => task.createdMode

def activeEpoch (mode : AutomationMode) : ContextSource → Option String
  | sample _ runtime => (runtimeContextMetadata mode runtime).2
  | reconcile r _ => r.task.activeEpoch
  | notification task _ _ => task.activeEpoch

variable (mode : AutomationMode) (b : ContextSource)

theorem context_deviceId : (b.context mode).deviceId = some b.deviceId := by cases b <;> rfl

theorem context_createdMode : (b.context mode).createdMode = some (b.createdMode mode) := by
  cases b <;> rfl

theorem context_activeEpoch : (b.context mode).activeEpoch = some (b.activeEpoch mode) := by
  cases b <;> rfl

/-- A text of a datetime is never empty. -/
theorem isoformat_ne_empty (t : DateTime) : t.isoformat ≠ "" := by
  intro h
  have hl := congrArg String.toList h
  simp [DateTime.isoformat] at hl

theorem truth_isoformat (t : DateTime) : (PyValue.text t.isoformat).truth = true := by
  simp [PyValue.truth, isoformat_ne_empty]

theorem context_taskTime (at_ : Option DateTime) :
    (b.context mode).taskTime at_ = .text b.taskTime.isoformat := by
  cases b with
  | sample i runtime =>
    show PyValue.or .none (PyValue.or (.text i.now.isoformat) _) = _
    unfold PyValue.or
    rw [truth_isoformat]
    rfl
  | reconcile r device =>
    show PyValue.or (.text r.task.createdAt.isoformat) _ = _
    unfold PyValue.or
    rw [truth_isoformat]
    rfl
  | notification task actionType now =>
    show PyValue.or (.text task.createdAt.isoformat) _ = _
    unfold PyValue.or
    rw [truth_isoformat]
    rfl

end ContextSource

/-! ### The gate -/

/-- The four providers the production bootstrap injects. -/
structure Moment.Injected (m : Moment) : Prop where
  standardsReady : m.standardsReadyProvider.isSome
  activeEpoch : m.activeEpochProvider.isSome
  activeCutoverAt : m.activeCutoverAtProvider.isSome
  actionEnabled : m.actionEnabledProvider.isSome

/-- Everything a production write needs, of an action under a context. -/
structure WriteAllowed (x : ActionExecutor) (m : Moment) (b : ContextSource)
    (a : ApplicationAction) : Prop where
  active : x.mode = .active
  ready : m.standardsReadyProvider = some (.ok true)
  nonempty : x.activeDeviceIds ≠ []
  device : ∃ id ∈ x.activeDeviceIds, normalizeDeviceId x.upper b.deviceId = some id ∧
    normalizeDeviceId x.upper a.deviceId = some id
  mode : b.createdMode x.mode = some "active"
  epoch : ∃ e, e ≠ "" ∧ b.activeEpoch x.mode = some e ∧ m.activeEpochProvider = some (.ok (.text e))
  cutover : ∃ v t, m.activeCutoverAtProvider = some (.ok v) ∧
      coerceDatetime x.fromisoformat v = some t ∧
    atOrAfter (.aware b.taskTime) t = true
  enabled : ∃ gate, m.actionEnabledProvider = some gate ∧ gate a = .ok true

/-- `str.upper` of a stripped text is a fixed point of both. -/
def UpperStable (upper : String → String) : Prop :=
  ∀ s, upper (strip (upper (strip s))) = upper (strip s)

section Gates

variable {x : ActionExecutor} {m : Moment} {c : ActionContext} {at_ : Option DateTime}
  {a : ApplicationAction}

theorem answer_true {r : Except PyError Bool} : answer false r = true ↔ r = .ok true := by
  cases r with
  | ok b => simp [answer]
  | error e => simp [answer]

theorem normalizeDeviceId_stable {upper : String → String} (hupper : UpperStable upper)
    {s id : String}
    (h : normalizeDeviceId upper s = some id) : normalizeDeviceId upper id = some id := by
  unfold normalizeDeviceId at h ⊢
  split_ifs at h with hne
  cases h
  rw [hupper s, if_neg hne]

theorem normalizeDeviceIds_stable {upper : String → String} (hupper : UpperStable upper)
    (l : List String) :
    normalizeDeviceIds upper (normalizeDeviceIds upper l) = normalizeDeviceIds upper l := by
  unfold normalizeDeviceIds
  rw [List.filterMap_filterMap]
  refine List.filterMap_congr fun s _ => ?_
  cases h : normalizeDeviceId upper s with
  | none => rfl
  | some id => exact normalizeDeviceId_stable hupper h

theorem activeScopeAllows_iff (hupper : UpperStable x.upper) {id : String}
    (hid : normalizeDeviceId x.upper id = some id) :
    activeScopeAllows x.upper id x.activeDeviceIds = true ↔ id ∈ x.activeDeviceIds := by
  unfold activeScopeAllows ActionExecutor.activeDeviceIds
  rw [hid, normalizeDeviceIds_stable hupper]
  simp

theorem deniedDevice_none (hupper : UpperStable x.upper) : deniedDevice x c a = none ↔
    ∃ id ∈ x.activeDeviceIds, c.deviceId.bind (normalizeDeviceId x.upper) = some id ∧
      normalizeDeviceId x.upper a.deviceId = some id := by
  unfold deniedDevice
  cases hc : c.deviceId.bind (normalizeDeviceId x.upper) with
  | none => simp
  | some id =>
    obtain ⟨s, -, hs⟩ := Option.bind_eq_some_iff.mp hc
    have hid := normalizeDeviceId_stable hupper hs
    have hallows := activeScopeAllows_iff hupper hid
    simp only
    constructor
    · intro h
      split_ifs at h with hempty hscope haction
      rw [Bool.not_eq_false, hallows] at hscope
      exact ⟨id, hscope, rfl, not_not.mp haction⟩
    · rintro ⟨id', hmem, he, haction⟩
      cases he
      rw [if_neg (List.ne_nil_of_mem hmem), if_neg (by rw [hallows.mpr hmem]; simp),
        if_neg (not_not.mpr haction)]

theorem epochCurrent_iff {current : PyValue} : epochCurrent c current = true ↔
    c.createdMode.join = some "active" ∧ ∃ e, e ≠ "" ∧ c.activeEpoch.join = some e ∧
      current = .text e := by
  unfold epochCurrent
  simp only [Bool.and_eq_true, decide_eq_true_eq]
  constructor
  · rintro ⟨⟨hmode, htruth⟩, he⟩
    refine ⟨hmode, ?_⟩
    cases hepoch : c.activeEpoch.join with
    | none =>
      rw [hepoch] at he
      rw [← he] at htruth
      cases htruth
    | some e =>
      rw [hepoch] at he
      rw [← he] at htruth
      exact ⟨e, by simpa [PyValue.ofText, PyValue.truth] using htruth, rfl, he.symm⟩
  · rintro ⟨hmode, e, hne, hepoch, rfl⟩
    rw [hepoch]
    exact ⟨⟨hmode, by simpa [PyValue.truth] using hne⟩, rfl⟩

theorem deniedEpoch_none (hm : m.Injected) (htask : c.hasTask = true) :
    deniedEpoch x m c at_ = none ↔
    ∃ provided cutover, m.activeEpochProvider = some provided ∧
      m.activeCutoverAtProvider = some cutover ∧
      epochCurrent c (answer .none provided) = true ∧
        afterCutover x c at_ (answer .none cutover) = true := by
  obtain ⟨provided, hprovided⟩ := Option.isSome_iff_exists.mp hm.activeEpoch
  obtain ⟨cutover, hcutover⟩ := Option.isSome_iff_exists.mp hm.activeCutoverAt
  unfold deniedEpoch
  rw [hprovided, hcutover]
  simp only [htask]
  rw [if_neg (by simp)]
  constructor
  · intro h
    split_ifs at h with hepoch hafter
    exact ⟨provided, cutover, rfl, rfl, by simpa using hepoch, by simpa using hafter⟩
  · rintro ⟨p, q, hp, hq, hepoch, hafter⟩
    cases hp
    cases hq
    rw [if_neg (by simp [hepoch]), if_neg (by simp [hafter])]

theorem deniedFeature_none (hm : m.Injected) : deniedFeature m a = none ↔
    ∃ gate, m.actionEnabledProvider = some gate ∧ gate a = .ok true := by
  obtain ⟨gate, hgate⟩ := Option.isSome_iff_exists.mp hm.actionEnabled
  unfold deniedFeature
  rw [hgate]
  simp only
  constructor
  · intro h
    split_ifs at h with hoff
    exact ⟨gate, rfl, answer_true.mp (by simpa using hoff)⟩
  · rintro ⟨g, hg, hon⟩
    cases hg
    rw [if_neg (by simp [answer_true.mpr hon])]

theorem standardsReady_iff : m.standardsReady = true ↔
    m.standardsReadyProvider = some (.ok true) := by
  unfold Moment.standardsReady
  cases m.standardsReadyProvider with
  | none => simp
  | some r => simp [answer_true]

theorem answer_text {r : Except PyError PyValue} {e : String} : answer .none r = .text e ↔
    r = .ok (.text e) := by
  cases r with
  | ok v => simp [answer]
  | error err => simp [answer]

end Gates

/-! ### What lets an action through -/

theorem flatMap_self {f : Char → List Char} : ∀ {l : List Char}, (∀ c ∈ l, f c = [c]) →
    l.flatMap f = l
  | [], _ => rfl
  | c :: l, h => by
    rw [List.flatMap_cons, h c List.mem_cons_self, flatMap_self fun d hd =>
      h d (List.mem_cons_of_mem _ hd)]
    rfl

theorem digit_cases (P : Char → Prop) (h : ∀ n : Fin 10, P (DateTime.digit n)) (d : ℕ) :
    P (DateTime.digit d) := by
  have hd : DateTime.digit d = DateTime.digit (d % 10) := by
    unfold DateTime.digit
    rw [Nat.mod_mod]
  rw [hd]
  exact h ⟨d % 10, Nat.mod_lt d (by decide)⟩

theorem replaceZ_isoformat (t : DateTime) : replaceZ t.isoformat = t.isoformat := by
  have hz : ∀ c ∈ t.isoformat.toList, c ≠ 'Z' :=
    DateTime.isoformat_chars (digit_cases _ (by decide)) (by decide) t
  unfold replaceZ
  rw [flatMap_self fun c hc => if_neg (hz c hc), String.ofList_toList]

theorem blank_isoformat (t : DateTime) : blank t.isoformat = false := by
  have hspace : ∀ c ∈ t.isoformat.toList, isSpace c = false :=
    DateTime.isoformat_chars (digit_cases _ (by decide)) (by decide) t
  unfold blank
  rw [strip_eq hspace]
  simpa using ContextSource.isoformat_ne_empty t

theorem coerceDatetime_isoformat {fromisoformat : String → Option PyDateTime} {t : DateTime}
    (h : fromisoformat t.isoformat = some (.aware t)) :
    coerceDatetime fromisoformat (.text t.isoformat) = some (.aware t) := by
  have hblank := blank_isoformat t
  have hreplace := replaceZ_isoformat t
  generalize t.isoformat = s at h hblank hreplace ⊢
  simp only [coerceDatetime]
  rw [hblank, hreplace, if_neg (by simp), h]

section Allowed

variable {x : ActionExecutor} {m : Moment} {b : ContextSource} {a : ApplicationAction}

theorem afterCutover_iff {c : ActionContext} {at_ : Option DateTime} {t : DateTime}
    {r : Except PyError PyValue}
    (h : coerceDatetime x.fromisoformat (c.taskTime at_) = some (.aware t)) :
    afterCutover x c at_ (answer .none r) = true ↔ ∃ v cut, r = .ok v ∧
      coerceDatetime x.fromisoformat v = some cut ∧ atOrAfter (.aware t) cut = true := by
  unfold afterCutover
  rw [h]
  cases r with
  | error e => simp [answer, coerceDatetime]
  | ok v =>
    simp only [answer]
    cases hv : coerceDatetime x.fromisoformat v with
    | none =>
      refine iff_of_false (by simp) ?_
      rintro ⟨_, cut, he, hcut, -⟩
      cases he
      rw [hv] at hcut
      cases hcut
    | some cut =>
      constructor
      · intro hafter
        exact ⟨v, cut, rfl, hv, hafter⟩
      · rintro ⟨_, cut', he, hcut, hafter⟩
        cases he
        rw [hv] at hcut
        cases hcut
        exact hafter

theorem forAction_hasTask : ((b.context x.mode).forAction a).hasTask = true := by
  have hmode : ((b.context x.mode).forAction a).createdMode = some (b.createdMode x.mode) :=
    b.context_createdMode x.mode
  unfold ActionContext.hasTask
  rw [hmode]
  simp

theorem denied_none (hm : m.Injected) (hupper : UpperStable x.upper)
    (hiso : x.fromisoformat b.taskTime.isoformat = some (.aware b.taskTime)) :
    denied x m ((b.context x.mode).forAction a) (some b.createdAt) a = none ↔
      WriteAllowed x m b a := by
  have hdevice : ((b.context x.mode).forAction a).deviceId = some b.deviceId :=
    b.context_deviceId x.mode
  have hmode : ((b.context x.mode).forAction a).createdMode = some (b.createdMode x.mode) :=
    b.context_createdMode x.mode
  have hepoch : ((b.context x.mode).forAction a).activeEpoch = some (b.activeEpoch x.mode) :=
    b.context_activeEpoch x.mode
  have htime : ((b.context x.mode).forAction a).taskTime (some b.createdAt) =
      .text b.taskTime.isoformat :=
    b.context_taskTime x.mode _
  have htask := forAction_hasTask (x := x) (b := b) (a := a)
  generalize (b.context x.mode).forAction a = c at hdevice hmode hepoch htime htask ⊢
  have hcoerce : coerceDatetime x.fromisoformat (c.taskTime (some b.createdAt)) =
      some (.aware b.taskTime) := by
    rw [htime]
    exact coerceDatetime_isoformat hiso
  unfold denied
  cases hx : x.mode with
  | disabled => exact iff_of_false (by simp) fun h => by rw [h.active] at hx; cases hx
  | shadow => exact iff_of_false (by simp) fun h => by rw [h.active] at hx; cases hx
  | active =>
    rw [hx] at hmode hepoch
    have hor : ∀ p q r : Option Refusal, (p <|> q <|> r) = none ↔ p = none ∧ q = none ∧
        r = none := by
      intro p q r
      cases p <;> cases q <;> simp
    simp only
    constructor
    · intro h
      split_ifs at h with hready
      obtain ⟨hdev, hep, hfeature⟩ := (hor _ _ _).mp h
      obtain ⟨id, hmem, hctx, haction⟩ := (deniedDevice_none hupper).mp hdev
      obtain ⟨provided, cutover, hprovided, hcutover, hcurrent, hafter⟩ :=
        (deniedEpoch_none hm htask).mp hep
      obtain ⟨hactive, e, hne, hjoin, htext⟩ := epochCurrent_iff.mp hcurrent
      rw [hmode] at hactive
      rw [hepoch] at hjoin
      rw [hdevice] at hctx
      obtain ⟨v, cut, hv, hcut, hle⟩ := (afterCutover_iff hcoerce).mp hafter
      exact
        { active := hx
          ready := standardsReady_iff.mp (by simpa using hready)
          nonempty := List.ne_nil_of_mem hmem
          device := ⟨id, hmem, hctx, haction⟩
          mode := by rw [hx]; exact hactive
          epoch := ⟨e, hne, by rw [hx]; exact hjoin, by rw [hprovided, answer_text.mp htext]⟩
          cutover := ⟨v, cut, by rw [hcutover, hv], hcut, hle⟩
          enabled := (deniedFeature_none hm).mp hfeature }
    · intro h
      obtain ⟨id, hmem, hctx, haction⟩ := h.device
      obtain ⟨e, hne, hjoin, hprovided⟩ := h.epoch
      obtain ⟨v, cut, hcutover, hcut, hle⟩ := h.cutover
      have hactive := h.mode
      rw [hx] at hactive hjoin
      rw [if_neg (by simp [standardsReady_iff.mpr h.ready]), hor]
      refine ⟨(deniedDevice_none hupper).mpr ⟨id, hmem, ?_, haction⟩,
          (deniedEpoch_none hm htask).mpr ?_,
        (deniedFeature_none hm).mpr h.enabled⟩
      · rw [hdevice]
        exact hctx
      · refine ⟨_, _, hprovided, hcutover, epochCurrent_iff.mpr ⟨?_, e, hne, ?_, rfl⟩,
          (afterCutover_iff hcoerce).mpr ⟨v, cut, rfl, hcut, hle⟩⟩
        · rw [hmode]
          exact hactive
        · rw [hepoch]
          exact hjoin

/-- A refusal is no success. -/
theorem denied_not_succeeded {c : ActionContext} {at_ : Option DateTime} {r : Refusal}
    (h : denied x m c at_ a = some r) : r.1 ≠ .succeeded := by
  have hdevice : ∀ r, deniedDevice x c a = some r → r.1 ≠ .succeeded := by
    intro r h
    unfold deniedDevice at h
    split at h
    · cases h
      simp
    · split_ifs at h <;> cases h <;> simp
  have hepoch : ∀ r, deniedEpoch x m c at_ = some r → r.1 ≠ .succeeded := by
    intro r h
    unfold deniedEpoch at h
    split at h
    · cases h
    · split_ifs at h
      · cases h
        simp
      · split at h
        · cases h
        · split_ifs at h
          cases h
          simp
  have hfeature : ∀ r, deniedFeature m a = some r → r.1 ≠ .succeeded := by
    intro r h
    unfold deniedFeature at h
    split at h
    · cases h
    · split_ifs at h
      cases h
      simp
  unfold denied at h
  split at h
  · cases h
    simp
  · cases h
    simp
  · split_ifs at h
    · cases h
      simp
    · cases hd : deniedDevice x c a with
      | some r' =>
        rw [hd] at h
        cases h
        exact hdevice _ hd
      | none =>
        rw [hd] at h
        cases he : deniedEpoch x m c at_ with
        | some r' =>
          rw [he] at h
          cases h
          exact hepoch _ he
        | none =>
          rw [he] at h
          exact hfeature r h

/-- One action: a handler runs exactly when the write is allowed and there is
a handler; where none runs the outcome is no success. -/
theorem executeOne_gated (hm : m.Injected) (hupper : UpperStable x.upper)
    (hiso : x.fromisoformat b.taskTime.isoformat = some (.aware b.taskTime)) :
    ((executeOne x m ((b.context x.mode).forAction a) (some b.createdAt) a).handled = true ↔
      WriteAllowed x m b a ∧ (m.handle ((b.context x.mode).forAction a) a).isSome) ∧
    ((executeOne x m ((b.context x.mode).forAction a) (some b.createdAt) a).handled = false →
      (executeOne x m ((b.context x.mode).forAction a) (some b.createdAt) a).execution.status ≠
        .succeeded) := by
  rw [← denied_none hm hupper hiso]
  generalize (b.context x.mode).forAction a = c
  unfold executeOne
  cases hd : denied x m c (some b.createdAt) a with
  | some r => exact ⟨by simp, fun _ => denied_not_succeeded hd⟩
  | none =>
    simp only
    cases hh : m.handle c a with
    | none => exact ⟨by simp, fun _ => by simp⟩
    | some outcome =>
      obtain ⟨context, error⟩ := outcome
      cases error with
      | none => exact ⟨by simp, fun h => by cases h⟩
      | some text => exact ⟨by simp, fun h => by cases h⟩

end Allowed

/-- **The production write gate**, of every context the service builds. -/
theorem external_write_gated (x : ActionExecutor) (moments : ℕ → Moment) (b : ContextSource)
    (actions : List ApplicationAction) (hm : ∀ i, (moments i).Injected)
    (hupper : UpperStable x.upper)
    (hiso : x.fromisoformat b.taskTime.isoformat = some (.aware b.taskTime)) (i : ℕ)
    (a : ApplicationAction) (e : Executed) (ha : actions[i]? = some a)
    (he : (x.execute moments (b.context x.mode) (some b.createdAt) actions)[i]? = some e) :
    (e.handled = true ↔ WriteAllowed x (moments i) b a ∧
      ((moments i).handle ((b.context x.mode).forAction a) a).isSome) ∧
    (e.handled = false → e.execution.status ≠ .succeeded) := by
  unfold ActionExecutor.execute at he
  rw [List.getElem?_mapIdx, ha] at he
  cases he
  exact executeOne_gated (hm i) hupper hiso

/-! ### A deployment that writes -/

theorem lower_cases {P : Char → Prop} (h : ∀ n : Fin 26, P (Char.ofNat (97 + n))) {c : Char}
    (hc : 'a'.val ≤ c.val ∧ c.val ≤ 'z'.val) : P c := by
  obtain ⟨hlo, hhi⟩ := hc
  have hlo : 97 ≤ c.toNat := hlo
  have hhi : c.toNat ≤ 122 := hhi
  have hn := h ⟨c.toNat - 97, by omega⟩
  rwa [show 97 + (c.toNat - 97) = c.toNat by omega, Char.ofNat_toNat] at hn

theorem isSpace_toUpper (c : Char) : isSpace c.toUpper = isSpace c := by
  by_cases h : 'a'.val ≤ c.val ∧ c.val ≤ 'z'.val
  · exact lower_cases (P := fun c => isSpace c.toUpper = isSpace c) (by decide) h
  · unfold Char.toUpper
    rw [dif_neg h]

theorem toUpper_toUpper (c : Char) : c.toUpper.toUpper = c.toUpper := by
  by_cases h : 'a'.val ≤ c.val ∧ c.val ≤ 'z'.val
  · exact lower_cases (P := fun c => c.toUpper.toUpper = c.toUpper) (by decide) h
  · have hc : c.toUpper = c := by
      unfold Char.toUpper
      rw [dif_neg h]
    rw [hc, hc]

theorem strip_upper (s : String) : strip (pilot.upper s) = pilot.upper (strip s) := by
  have hcomp : isSpace ∘ Char.toUpper = isSpace := funext isSpace_toUpper
  simp only [strip, pilot, String.toList_ofList, List.dropWhile_map, hcomp, ← List.map_reverse]

theorem pilot_upper_stable : UpperStable pilot.upper := by
  intro s
  rw [strip_upper, strip_strip]
  simp only [pilot, String.toList_ofList, List.map_map]
  rw [show Char.toUpper ∘ Char.toUpper = Char.toUpper from funext toUpper_toUpper]

def pilotExecutor : ActionExecutor where
  mode := .active
  allowlist := .text "th-01, TH-02"
  upper := pilot.upper
  fromisoformat := fun s => if s = "1970-01-01T00:00:00+00:00" then some (.aware (.utc 0)) else none

/-- Every gate open, and a handler for every action. -/
def pilotMoment : Moment where
  standardsReadyProvider := some (.ok true)
  activeEpochProvider := some (.ok (.text "epoch-1"))
  activeCutoverAtProvider := some (.ok (.datetime (.aware (.utc (-1)))))
  actionEnabledProvider := some fun _ => .ok true
  contextHandlers := fun _ => some fun _ c => (c, none)

def pilotSource : ContextSource :=
  .sample (pilotSample .violation 0) (some { mode := "active", activeEpoch := some "epoch-1" })

def pilotAction : ApplicationAction :=
  { actionType := .createAlarmEvent, kind := .event, deviceId := " th-01", alarmId := some "E1" }

theorem pilot_write_allowed :
    ∃ e, (pilotExecutor.execute (fun _ => pilotMoment) (pilotSource.context .active)
      (some pilotSource.createdAt) [pilotAction])[0]? = some e ∧ e.handled = true ∧
    WriteAllowed pilotExecutor pilotMoment pilotSource pilotAction := by
  refine ⟨_, rfl, by decide +kernel, ?_⟩
  exact ((external_write_gated pilotExecutor (fun _ => pilotMoment) pilotSource [pilotAction]
    (fun _ => ⟨rfl, rfl, rfl, rfl⟩) pilot_upper_stable (by decide +kernel)
      0 pilotAction _ rfl rfl).1.mp
    (by decide +kernel)).1

end TemperatureMonitor
