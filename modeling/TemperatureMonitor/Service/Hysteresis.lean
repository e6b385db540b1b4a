/-
# The hysteresis of the near-limit reasons

The evaluation of a sample sees the reasons of the state before it only; over
the samples of a device that stays NORMAL each of the four reasons is a latch
(`Library.Latch`), set within the entry margin of its limit and held within
the exit margin. Samples of an unknown verdict leave it as it is.
-/
import TemperatureMonitor.Domain.MonitorEngine
import TemperatureMonitor.Domain.StandardsSound
import TemperatureMonitor.Library.Latch
import TemperatureMonitor.Service.Play
import TemperatureMonitor.Service.PrewarningRuns

namespace TemperatureMonitor

/-! ### The reasons of one evaluation -/

theorem Limit.reason_inj {l k : Limit} (h : l.reason = k.reason) : l = k := by
  obtain ⟨d, a⟩ := l
  obtain ⟨e, b⟩ := k
  revert h
  cases d <;> cases a <;> cases e <;> cases b <;> decide

/-- The value of the sample, rounded half up, is at most the margin away from the limit. -/
def NearWithin (text : EngineText) (standard : EnvironmentStandard) (margin : ℚ) (l : Limit)
    (s : MonitorSample) : Prop :=
  ∃ value limit rounded, s.value l.dimension = some value ∧
      standard.limit l = some (.finite limit) ∧
    feishuRoundOneDecimal text value = .ok rounded ∧ |rounded - limit| ≤ margin + nearTolerance

section Evaluation

variable {text : EngineText} {device : DeviceContext} {sample : MonitorSample}
  {standard : EnvironmentStandard}
  {operation : Option OperationState} {previous : List String} {margins : PrewarningMargins}
  {e : MonitorEvaluation} {l : Limit}

/-- What a sample of a normal verdict was found to be. -/
theorem evaluate_normal
    (h : evaluateMonitorState text device sample (some standard) operation previous margins = .ok e)
    (hn : e.overallStatus = .normal) :
    (∀ d, ∃ reasons, evaluateUnder text sample standard d = .ok (.normal, reasons)) ∧
      ∃ temperature humidity, nearReasons text sample standard previous margins .temperature =
        .ok temperature ∧
        nearReasons text sample standard previous margins .humidity = .ok humidity ∧
        e.prewarningReasons = (temperature ++ humidity).map Prod.fst := by
  unfold evaluateMonitorState at h
  split_ifs at h
  simp only at h
  split at h
  · cases h
  split at h
  · cases h
  rename_i controlType source consistency hcontrol ts hs dims hdims
  split at h
  · cases h
  rename_i near hnear
  cases h
  simp only at hn
  unfold overallStatusOf at hn
  split_ifs at hn with happ hq hv hu
  rw [not_not] at happ hq
  simp only [not_or] at hv hu
  have hts : ts = .normal := by cases ts <;> simp_all
  have hhs : hs = .normal := by cases hs <;> simp_all
  subst hts hhs
  constructor
  · unfold evaluateDimensions at hdims
    simp only at hdims
    split at hdims
    · cases hdims
    rename_i t ht
    split at hdims
    · cases hdims
    rename_i hu hhu
    obtain ⟨t1, t2⟩ := t
    obtain ⟨u1, u2⟩ := hu
    simp only [Except.ok.injEq, Prod.mk.injEq] at hdims
    obtain ⟨rfl, rfl, -⟩ := hdims
    intro d
    cases d with
    | temperature => exact ⟨_, ht⟩
    | humidity => exact ⟨_, hhu⟩
  · unfold evaluatePrewarning overallStatusOf at hnear
    simp only [happ, hq] at hnear
    simp at hnear
    split at hnear
    · cases hnear
    rename_i t ht
    split at hnear
    · cases hnear
    rename_i u hu
    cases hnear
    exact ⟨t, u, ht, hu, rfl⟩

/-- A dimension of a normal verdict that has a finite limit: the value is rounded, and inside. -/
theorem evaluateUnder_normal {d : Dimension} {reasons : List String}
    (h : evaluateUnder text sample standard d = .ok (.normal, reasons)) {a : Direction} {limit : ℚ}
    (hl : standard.limit ⟨d, a⟩ = some (.finite limit)) :
    ∃ value rounded, sample.value d = some value ∧
      feishuRoundOneDecimal text value = .ok rounded ∧
      insideBy ⟨d, a⟩ (some (.finite limit)) rounded = some (limit, |rounded - limit|) := by
  unfold evaluateUnder evaluateDimension at h
  have hsome :
      ¬ ((standard.limit ⟨d, .low⟩).isNone = true ∧ (standard.limit ⟨d, .high⟩).isNone = true) := by
    rintro ⟨hlow, hhigh⟩
    cases a with
    | low => rw [hl] at hlow; cases hlow
    | high => rw [hl] at hhigh; cases hhigh
  rw [if_neg hsome] at h
  split at h
  · cases h
  rename_i value hvalue
  split at h
  · cases h
  rename_i rounded hrounded
  split_ifs at h with hlow hhigh
  · cases h
  · cases h
  refine ⟨value, rounded, hvalue, hrounded, ?_⟩
  cases a with
  | low =>
    have hle : limit ≤ rounded := by
      rw [hl] at hlow
      by_contra hlt
      refine hlow ?_
      simp only [Option.any_some, Number.gt, Number.le, Bool.and_eq_true, decide_eq_true_eq,
        Bool.not_eq_true', decide_eq_false_iff_not]
      exact ⟨(not_le.mp hlt).le, hlt⟩
    simp only [insideBy, if_pos hle, abs_of_nonneg (sub_nonneg.mpr hle)]
  | high =>
    have hle : rounded ≤ limit := by
      rw [hl] at hhigh
      by_contra hlt
      refine hhigh ?_
      simp only [Option.any_some, Number.gt, Number.le, Bool.and_eq_true, decide_eq_true_eq,
        Bool.not_eq_true', decide_eq_false_iff_not]
      exact ⟨(not_le.mp hlt).le, hlt⟩
    simp only [insideBy, if_pos hle, abs_of_nonpos (sub_nonpos.mpr hle), neg_sub]

/-- A limit of a normal sample is near by the margin that is in force for it. -/
theorem nearReason_iff {reasons : List String}
    (hm : ∀ d, 0 ≤ margins.entry d ∧ margins.entry d ≤ margins.exit d)
    (h : evaluateUnder text sample standard l.dimension = .ok (.normal, reasons))
    {value rounded : ℚ}
    (hv : sample.value l.dimension = some value)
    (hr : feishuRoundOneDecimal text value = .ok rounded) :
    (∃ detail, nearReason l standard previous margins rounded = some (l.reason, detail)) ↔
      l.reason ∈ previous ∧ NearWithin text standard (margins.exit l.dimension) l sample ∨
      l.reason ∉ previous ∧ NearWithin text standard (margins.entry l.dimension) l sample := by
  obtain ⟨h0, hle⟩ := hm l.dimension
  have hwithin : ∀ margin limit, standard.limit l = some (.finite limit) →
      (NearWithin text standard margin l sample ↔ |rounded - limit| ≤ margin + nearTolerance) := by
    intro margin limit hlimit
    constructor
    · rintro ⟨value', limit', rounded', hv', hl', hr', hnear⟩
      rw [hv] at hv'
      obtain rfl := Option.some.inj hv'
      rw [hr] at hr'
      obtain rfl := Except.ok.inj hr'
      rw [hlimit] at hl'
      obtain rfl := Number.finite.inj (Option.some.inj hl')
      exact hnear
    · exact fun hnear => ⟨value, limit, rounded, hv, hlimit, hr, hnear⟩
  have hnone : (∀ limit, standard.limit l ≠ some (.finite limit)) →
      nearReason l standard previous margins rounded = none ∧
        ∀ margin, ¬ NearWithin text standard margin l sample := by
    intro hno
    constructor
    · unfold nearReason insideBy
      split
      · rfl
      · rename_i heq
        split at heq
        · exact absurd ‹_› (hno _)
        · exact absurd ‹_› (hno _)
        · cases heq
    · rintro margin ⟨-, limit, -, -, hlimit, -⟩
      exact hno limit hlimit
  by_cases hlimit : ∃ limit, standard.limit l = some (.finite limit)
  · obtain ⟨limit, hlimit⟩ := hlimit
    obtain ⟨d, a⟩ := l
    obtain ⟨value', rounded', hv', hr', hinside⟩ := evaluateUnder_normal h hlimit
    rw [hv] at hv'
    obtain rfl := Option.some.inj hv'
    rw [hr] at hr'
    obtain rfl := Except.ok.inj hr'
    rw [hwithin _ _ hlimit, hwithin _ _ hlimit]
    unfold nearReason
    rw [hlimit, hinside]
    by_cases hp : Limit.reason ⟨d, a⟩ ∈ previous
    · simp only [if_pos hp, max_eq_right (h0.trans hle)]
      split_ifs with hnear
      · simp [hp, hnear]
      · simp [hp, hnear]
    · simp only [if_neg hp, max_eq_right h0]
      split_ifs with hnear
      · simp [hp, hnear]
      · simp [hp, hnear]
  · obtain ⟨hno, hfar⟩ := hnone (not_exists.mp hlimit)
    rw [hno]
    simp [hfar]

theorem nearReason_reason {rounded : ℚ} {x : String × PrewarningDetail}
    (h : nearReason l standard previous margins rounded = some x) : x.1 = l.reason := by
  unfold nearReason at h
  split at h
  · cases h
  · simp only [Option.ite_none_right_eq_some] at h
    obtain ⟨-, h⟩ := h
    cases h
    rfl

/-- The reasons of a dimension are those of its two limits. -/
theorem mem_nearReasons {d : Dimension} {near : List (String × PrewarningDetail)}
    (h : nearReasons text sample standard previous margins d = .ok near) {r : String} :
    r ∈ near.map Prod.fst ↔ ∃ a value rounded, sample.value d = some value ∧
      feishuRoundOneDecimal text value = .ok rounded ∧ r = Limit.reason ⟨d, a⟩ ∧
      ∃ detail, nearReason ⟨d, a⟩ standard previous margins rounded = some (r, detail) := by
  unfold nearReasons at h
  split at h
  · rename_i hnone
    cases h
    simp [hnone]
  rename_i value hvalue
  split at h
  · cases h
  rename_i rounded hrounded
  cases h
  rw [List.mem_map]
  constructor
  · rintro ⟨x, hx, rfl⟩
    obtain ⟨l, hl, hnear⟩ := List.mem_filterMap.mp hx
    have hreason := nearReason_reason hnear
    simp only [List.mem_cons, List.not_mem_nil, or_false] at hl
    rcases hl with rfl | rfl
    · exact ⟨.low, value, rounded, hvalue, hrounded, hreason, x.2, hnear⟩
    · exact ⟨.high, value, rounded, hvalue, hrounded, hreason, x.2, hnear⟩
  · rintro ⟨a, value', rounded', hvalue', hrounded', -, detail, hnear⟩
    rw [hvalue] at hvalue'
    obtain rfl := Option.some.inj hvalue'
    rw [hrounded] at hrounded'
    obtain rfl := Except.ok.inj hrounded'
    refine ⟨(r, detail), List.mem_filterMap.mpr ⟨⟨d, a⟩, ?_, hnear⟩, rfl⟩
    cases a <;> simp

/-- **The rule of one sample.** A reason that was there stays within the exit margin, a new one
comes up within the entry margin. -/
theorem evaluate_reasons (hm : ∀ d, 0 ≤ margins.entry d ∧ margins.entry d ≤ margins.exit d)
    (h : evaluateMonitorState text device sample (some standard) operation previous margins = .ok e)
    (hn : e.overallStatus = .normal) :
    (∀ r ∈ e.prewarningReasons, ∃ l : Limit, r = l.reason) ∧
    ∀ l : Limit, l.reason ∈ e.prewarningReasons ↔
      l.reason ∈ previous ∧ NearWithin text standard (margins.exit l.dimension) l sample ∨
      l.reason ∉ previous ∧ NearWithin text standard (margins.entry l.dimension) l sample := by
  obtain ⟨hdims, t, u, ht, hu, hreasons⟩ := evaluate_normal h hn
  have hmem : ∀ r, r ∈ e.prewarningReasons ↔ ∃ d a value rounded, sample.value d = some value ∧
      feishuRoundOneDecimal text value = .ok rounded ∧ r = Limit.reason ⟨d, a⟩ ∧
      ∃ detail, nearReason ⟨d, a⟩ standard previous margins rounded = some (r, detail) := by
    intro r
    rw [hreasons, List.map_append, List.mem_append, mem_nearReasons ht, mem_nearReasons hu]
    constructor
    · rintro (h | h)
      · exact ⟨.temperature, h⟩
      · exact ⟨.humidity, h⟩
    · rintro ⟨d, h⟩
      cases d with
      | temperature => exact .inl h
      | humidity => exact .inr h
  refine ⟨fun r hr => ?_, fun l => ?_⟩
  · obtain ⟨d, a, -, -, -, -, rfl, -⟩ := (hmem r).mp hr
    exact ⟨_, rfl⟩
  rw [hmem]
  obtain ⟨reasons, hdim⟩ := hdims l.dimension
  constructor
  · rintro ⟨d, a, value, rounded, hv, hr, hl, detail, hnear⟩
    obtain rfl := Limit.reason_inj hl
    exact (nearReason_iff hm hdim hv hr).mp ⟨detail, hnear⟩
  · intro hwithin
    obtain ⟨value, limit, rounded, hv, -, hr, -⟩ :
        ∃ value limit rounded, sample.value l.dimension = some value ∧
        standard.limit l = some (.finite limit) ∧
          feishuRoundOneDecimal text value = .ok rounded ∧ True := by
      rcases hwithin with ⟨-, value, limit, rounded, hv, hl, hr, -⟩ | ⟨-, value, limit, rounded, hv,
          hl, hr, -⟩ <;>
        exact ⟨value, limit, rounded, hv, hl, hr, trivial⟩
    obtain ⟨detail, hnear⟩ := (nearReason_iff hm hdim hv hr).mpr hwithin
    exact ⟨l.dimension, l.direction, value, rounded, hv, hr, rfl, detail, hnear⟩

end Evaluation

/-! ### The verdict -/

/-- The margins and the reasons before have no part in the verdict. -/
theorem evaluate_verdict (text : EngineText) (device : DeviceContext) (sample : MonitorSample)
    (standard : Option EnvironmentStandard) (operation : Option OperationState)
    (previous previous' : List String) (margins margins' : PrewarningMargins) :
    (evaluateMonitorState text device sample standard operation previous margins).map
      (·.overallStatus) =
      (evaluateMonitorState text device sample standard operation previous' margins').map
        (·.overallStatus) := by
  have hdim : ∀ s d, (∃ e, nearReasons text sample s previous margins d = .error e ∧
        nearReasons text sample s previous' margins' d = .error e) ∨
      ∃ near near', nearReasons text sample s previous margins d = .ok near ∧
        nearReasons text sample s previous' margins' d = .ok near' := by
    intro s d
    unfold nearReasons
    cases sample.value d with
    | none => exact .inr ⟨_, _, rfl, rfl⟩
    | some v =>
      cases hr : feishuRoundOneDecimal text v with
      | error e =>
        simp only [hr]
        exact .inl ⟨e, rfl, rfl⟩
      | ok rounded =>
        simp only [hr]
        exact .inr ⟨_, _, rfl, rfl⟩
  have hnear : ∀ a quality status, (∃ e,
        evaluatePrewarning text sample standard a quality status previous margins = .error e ∧
        evaluatePrewarning text sample standard a quality status previous' margins' = .error e) ∨
      ∃ near near',
          evaluatePrewarning text sample standard a quality status previous margins = .ok near ∧
        evaluatePrewarning text sample standard a quality status previous' margins' =
          .ok near' := by
    intro a quality status
    unfold evaluatePrewarning
    cases standard with
    | none => exact .inr ⟨_, _, rfl, rfl⟩
    | some s =>
      simp only
      split_ifs
      · exact .inr ⟨_, _, rfl, rfl⟩
      · rcases hdim s .temperature with ⟨e, h, h'⟩ | ⟨t, t', h, h'⟩
        · exact .inl ⟨e, by rw [h], by rw [h']⟩
        · rw [h, h']
          rcases hdim s .humidity with ⟨e, k, k'⟩ | ⟨u, u', k, k'⟩
          · exact .inl ⟨e, by rw [k], by rw [k']⟩
          · exact .inr ⟨t ++ u, t' ++ u', by rw [k], by rw [k']⟩
  unfold evaluateMonitorState
  split_ifs
  · rfl
  simp only
  split
  · rfl
  split
  · rfl
  rename_i ts hs dims hdims
  rcases hnear (applicabilityOf standard _ operation) (qualityFromSample text sample standard)
    (overallStatusOf (applicabilityOf standard _ operation)
      (qualityFromSample text sample standard) ts hs) with
    ⟨e, h, h'⟩ | ⟨near, near', h, h'⟩
  · rw [h, h']
  · rw [h, h']
    rfl

/-! ### The state of the device -/

/-- The reasons the next evaluation is given. -/
def AlarmState.activeReasons (st : AlarmState) : List String :=
  if st.prewarningActive then st.prewarningReasons else []

/-- The lifecycle state and the reasons of two states are the same. -/
structure SameReasons (a b : AlarmState) : Prop where
  state : b.state = a.state
  active : b.prewarningActive = a.prewarningActive
  reasons : b.prewarningReasons = a.prewarningReasons

theorem SameReasons.refl (a : AlarmState) : SameReasons a a := ⟨rfl, rfl, rfl⟩

theorem SameReasons.activeReasons {a b : AlarmState} (h : SameReasons a b) :
    b.activeReasons = a.activeReasons := by
  rw [AlarmState.activeReasons, AlarmState.activeReasons, h.active, h.reasons]

theorem SampleTrace.sameReasons {cfg : ServiceConfig} {i : SampleInput} {s s' : ServiceState}
    {out : SampleOutput}
    (T : SampleTrace cfg i s s' out) : SameReasons T.tr.next (s'.alarm i.deviceId) := by
  have hadv := T.localMove.advisory
  have hatt := SampleTrace.attachPrewarning_advisory out.actions out.notificationTaskIds T.l.next
  exact ⟨T.sameEpisode.state, T.sameEpisode.active, by
    rw [T.alarm_eq]
    exact hatt.prewarningReasons.trans hadv.prewarningReasons⟩

/-- Only its own sample moves the reasons of a device. -/
theorem Step.reasons {cfg : ServiceConfig} {w w' : World} {l : Label} (h : Step cfg w l w')
    (d : String) :
    SameReasons (w.service.alarm d) (w'.service.alarm d) ∧
      (∀ i out, l = .sample i out → i.deviceId ≠ d) ∨
      ∃ i out, l = .sample i out ∧ i.deviceId = d ∧
        Nonempty (SampleTrace cfg i w.service w'.service out) := by
  have hkept : w'.service.alarms = w.service.alarms →
      SameReasons (w.service.alarm d) (w'.service.alarm d) := fun he => by
    rw [ServiceState.alarm, ServiceState.alarm, he]
    exact .refl _
  cases h with
  | @sample i s' out hsample =>
    obtain ⟨T⟩ := handleSample_trace hsample
    by_cases hd : i.deviceId = d
    · exact .inr ⟨i, out, rfl, hd, ⟨T⟩⟩
    · refine .inl ⟨?_, fun j _ he => by cases he; exact hd⟩
      show SameReasons _ (s'.alarm d)
      rw [T.alarm_other hd]
      exact .refl _
  | outcome deviceId recovery taskId messageId =>
    refine .inl ⟨?_, fun _ _ he => by cases he⟩
    simp only [ServiceState.alarm, persistPrewarningOutcome]
    cases hst : w.service.alarms deviceId with
    | none => exact .refl _
    | some st =>
      by_cases hd : d = deviceId
      · subst hd
        simp only [hst, Function.update_self]
        cases recovery <;> exact ⟨rfl, rfl, rfl⟩
      · simp only [Function.update_of_ne hd]
        exact .refl _
  | event => exact .inl ⟨hkept rfl, fun _ _ he => by cases he⟩
  | task => exact .inl ⟨hkept rfl, fun _ _ he => by cases he⟩
  | @reconcile r row hrow _ hsame =>
    refine .inl ⟨hkept ?_, fun _ _ he => by cases he⟩
    have hatt := (@reconcileAttempt_attempted cfg r w.service).alarms
    simp only [reconcileAlarmEventTask]
    split
    · rename_i s1 out hres
      rw [hres] at hatt
      exact hatt
    · rename_i s1 e hres
      rw [hres] at hatt
      split <;> exact hatt
  | ensure hensure =>
    refine .inl ⟨hkept ?_, fun _ _ he => by cases he⟩
    unfold ensureEventReconciliation at hensure
    split at hensure
    · cases hensure
    · simp only at hensure
      split at hensure
      · cases hensure
      · cases hensure
        rfl
  | deliver _ hdeliver =>
    exact .inl ⟨hkept (deliver_service hdeliver).2.2.1, fun _ _ he => by cases he⟩

/-! ### A run of samples -/

/-- The samples of a normal verdict of a device, oldest first. -/
def normalSamples (d : String) (ls : List Label) : List MonitorSample :=
  ls.filterMap fun
    | .sample i _ =>
      if i.deviceId = d ∧ i.result.overallStatus = .normal then some i.sample else none
    | _ => none

section Hysteresis

variable {cfg : ServiceConfig} {text : EngineText} {device : DeviceContext}
  {standard : EnvironmentStandard}
  {margins : PrewarningMargins}

/-- A sample of the device is evaluated under the standard with the margins and the reasons of its
state, to NORMAL or to UNKNOWN for a cause other than NOT_APPLICABLE, and finds no unclosed
event. -/
def Observed (text : EngineText) (device : DeviceContext) (standard : EnvironmentStandard)
    (margins : PrewarningMargins) (w : World) : Label → Prop
  | .sample i _ => i.deviceId = device.deviceId →
    (∃ operation e, evaluateMonitorState text device i.sample (some standard) operation
        (w.service.alarm device.deviceId).activeReasons margins = .ok e ∧
          i.result = e.toMonitorResult) ∧
      i.unclosed.any (·.blocked) = false ∧
      (i.result.overallStatus = .normal ∨
        i.result.overallStatus = .unknown ∧ i.result.applicability ≠ .notApplicable)
  | _ => True

/-- What a sample of a NORMAL device does to the reasons. -/
theorem SampleTrace.normal_reasons {i : SampleInput} {s s' : ServiceState} {out : SampleOutput}
    (T : SampleTrace cfg i s s' out) (hstate : (s.alarm i.deviceId).state = .normal)
    (hunclosed : i.unclosed.any (·.blocked) = false) :
    (i.result.overallStatus = .normal → (s'.alarm i.deviceId).state = .normal ∧
      (s'.alarm i.deviceId).activeReasons = i.result.prewarningReasons ∧
      ((s'.alarm i.deviceId).prewarningActive = true ↔ i.result.prewarningReasons ≠ [])) ∧
    (i.result.overallStatus = .unknown → i.result.applicability ≠ .notApplicable →
      SameReasons (s.alarm i.deviceId) (s'.alarm i.deviceId)) := by
  have hsame := T.sameReasons
  have hbase : i.result.overallStatus ≠ .violation →
      T.base = AlarmStateMachine.same (s.alarm i.deviceId) "normal_sample" [] := by
    intro hv
    have hmove := T.move
    generalize T.base = base at hmove
    cases hmove <;> simp_all
  have hcalm : i.result.overallStatus ≠ .violation → ¬ Breached i.result T.base := by
    intro hv hb
    rcases hb with hb | hb
    · exact hv hb
    · rw [hbase hv] at hb
      exact hb hstate
  have hmove := T.prewarning
  constructor
  · intro hn
    have hv : i.result.overallStatus ≠ .violation := by rw [hn]; decide
    have hblock : unclosedBlocks i.result T.base.previous i.unclosed = false := by
      simp [unclosedBlocks, hunclosed]
    have hpre : T.base.previous = s.alarm i.deviceId := by rw [hbase hv]; rfl
    have hnext : T.base.next = s.alarm i.deviceId := by rw [hbase hv]; rfl
    rw [hsame.activeReasons, hsame.active, hsame.state]
    generalize htr : T.tr = tr at hmove
    cases hmove with
    | hidden hb => exact absurd hb (hcalm hv)
    | breached hb => exact absurd hb (hcalm hv)
    | suspended _ hu => rw [hn] at hu; cases hu
    | unknown _ hu => rw [hn] at hu; cases hu
    | blocked _ _ hb => rw [hblock] at hb; cases hb
    | entered _ _ _ hr =>
      refine ⟨?_, rfl, fun _ => hr, fun _ => rfl⟩
      show T.base.next.state = .normal
      rw [hnext, hstate]
    | stayed _ _ _ hr =>
      refine ⟨?_, rfl, fun _ => hr, fun _ => rfl⟩
      show T.base.next.state = .normal
      rw [hnext, hstate]
    | cleared _ _ _ hr =>
      refine ⟨?_, ?_, (fun h => by cases h), fun h => absurd hr h⟩
      · show T.base.next.state = .normal
        rw [hnext, hstate]
      · rw [hr]
        rfl
    | quiet _ _ hr hactive =>
      rw [hpre] at hactive
      rw [hnext]
      refine ⟨hstate, ?_, ?_⟩
      · rw [AlarmState.activeReasons, hactive, hr]
        rfl
      · rw [hactive, hr]
        simp
  · intro hu happ
    have hv : i.result.overallStatus ≠ .violation := by rw [hu]; decide
    have hnext : T.base.next = s.alarm i.deviceId := by rw [hbase hv]; rfl
    generalize htr : T.tr = tr at hmove hsame
    cases hmove with
    | hidden hb => exact absurd hb (hcalm hv)
    | breached hb => exact absurd hb (hcalm hv)
    | suspended _ _ ha => exact absurd ha happ
    | unknown => rw [hnext] at hsame; exact hsame
    | blocked _ hn => rw [hu] at hn; cases hn
    | entered _ hn => rw [hu] at hn; cases hn
    | stayed _ hn => rw [hu] at hn; cases hn
    | cleared _ hn => rw [hu] at hn; cases hn
    | quiet _ hn => rw [hu] at hn; cases hn

theorem normalSamples_append (d : String) (ls ks : List Label) :
    normalSamples d (ls ++ ks) = normalSamples d ls ++ normalSamples d ks := List.filterMap_append

/-- What a run has come to. -/
structure Remembers (text : EngineText) (standard : EnvironmentStandard)
    (margins : PrewarningMargins) (samples : List MonitorSample) (st : AlarmState) : Prop where
  reason : ∀ l : Limit, l.reason ∈ st.activeReasons ↔
    Latched (NearWithin text standard (margins.entry l.dimension) l)
      (NearWithin text standard (margins.exit l.dimension) l) samples
  active : st.prewarningActive = true ↔ ∃ l : Limit, l.reason ∈ st.activeReasons
  /-- There are no other reasons. -/
  only : ∀ r ∈ st.activeReasons, ∃ l : Limit, r = l.reason

theorem remembers_step (hm : ∀ d, 0 ≤ margins.entry d ∧ margins.entry d ≤ margins.exit d)
    {w w' : World}
    {ls : List Label} {l : Label} (hstate : (w.service.alarm device.deviceId).state = .normal)
    (h : Remembers text standard margins (normalSamples device.deviceId ls)
      (w.service.alarm device.deviceId))
    (ho : Observed text device standard margins w l) (hstep : Step cfg w l w') :
    (w'.service.alarm device.deviceId).state = .normal ∧
      Remembers text standard margins (normalSamples device.deviceId (ls ++ [l]))
        (w'.service.alarm device.deviceId) := by
  have hkept : SameReasons (w.service.alarm device.deviceId) (w'.service.alarm device.deviceId) →
      normalSamples device.deviceId [l] = [] → (w'.service.alarm device.deviceId).state = .normal ∧
        Remembers text standard margins (normalSamples device.deviceId (ls ++ [l]))
          (w'.service.alarm device.deviceId) := by
    intro hsame hnone
    rw [normalSamples_append, hnone, List.append_nil]
    refine ⟨hsame.state.trans hstate, ?_, ?_, ?_⟩
    · rw [hsame.activeReasons]
      exact h.reason
    · rw [hsame.activeReasons, hsame.active]
      exact h.active
    · rw [hsame.activeReasons]
      exact h.only
  rcases hstep.reasons device.deviceId with ⟨hsame, hother⟩ | ⟨i, out, rfl, hd, ⟨T⟩⟩
  · refine hkept hsame ?_
    cases l with
    | sample i out => simp [normalSamples, hother i out rfl]
    | _ => rfl
  obtain ⟨⟨operation, e, heval, hresult⟩, hunclosed, hverdict⟩ := ho hd
  rw [← hd] at hstate hkept h heval ⊢
  obtain ⟨hnormal, hunknown⟩ := T.normal_reasons hstate hunclosed
  rcases hverdict with hn | ⟨hu, happ⟩
  · obtain ⟨hstate', hreasons, hactive⟩ := hnormal hn
    have hn' : e.overallStatus = .normal := by rw [hresult] at hn; exact hn
    obtain ⟨honly, hrule⟩ := evaluate_reasons hm heval hn'
    have hpre : i.result.prewarningReasons = e.prewarningReasons := by rw [hresult]
    rw [hpre] at hreasons hactive
    have hsamples : normalSamples i.deviceId (ls ++ [.sample i out]) =
        normalSamples i.deviceId ls ++ [i.sample] := by
      rw [normalSamples_append]
      simp [normalSamples, hn]
    refine ⟨hstate', fun l => ?_, ?_, by rw [hreasons]; exact honly⟩
    · rw [hreasons, hsamples]
      refine latched_step ?_ (h.reason l) (hrule l)
      rintro x ⟨value, limit, rounded, hv, hl, hr, hnear⟩
      have hle := (hm l.dimension).2
      exact ⟨value, limit, rounded, hv, hl, hr, hnear.trans (by linarith)⟩
    · rw [hactive, hreasons]
      constructor
      · intro hne
        obtain ⟨r, hr⟩ := List.exists_mem_of_ne_nil _ hne
        obtain ⟨l, rfl⟩ := honly r hr
        exact ⟨l, hr⟩
      · rintro ⟨l, hl⟩
        exact List.ne_nil_of_mem hl
  · refine hkept (hunknown hu happ) ?_
    simp [normalSamples, hu]

/-- **Hysteresis.** A reason is active exactly when some normal sample came within the entry margin
of its limit and every normal sample since stayed within the exit margin; the prewarning is active
exactly when a reason is; and the verdicts do not depend on margins or reasons. -/
theorem prewarning_hysteresis (hm : ∀ d, 0 ≤ margins.entry d ∧ margins.entry d ≤ margins.exit d)
    {w w' : World} {ls : List Label} (hstate : (w.service.alarm device.deviceId).state = .normal)
    (hstart : (w.service.alarm device.deviceId).prewarningActive = false)
    (h : Run (Guarded (Observed text device standard margins) (Step cfg)) w ls w') :
    Remembers text standard margins (normalSamples device.deviceId ls)
      (w'.service.alarm device.deviceId) ∧
      ∀ sample operation previous previous' margins',
        (evaluateMonitorState text device sample (some standard) operation previous margins).map
          (·.overallStatus) =
          (evaluateMonitorState text device sample (some standard) operation previous' margins').map
            (·.overallStatus) := by
  refine ⟨?_, fun sample operation previous previous' margins' => evaluate_verdict ..⟩
  have hempty : (w.service.alarm device.deviceId).activeReasons = [] := by
    rw [AlarmState.activeReasons, hstart]
    rfl
  refine (Run.inv_labels (I := fun ls w => (w.service.alarm device.deviceId).state = .normal ∧
    Remembers text standard margins (normalSamples device.deviceId ls)
      (w.service.alarm device.deviceId))
    ⟨hstate, ⟨fun l => ?_, ?_, ?_⟩⟩ (fun ls a l b _ hinv hstep => ?_) h).2
  · rw [hempty]
    exact ⟨(fun hl => by cases hl), fun hl => absurd hl not_latched_nil⟩
  · rw [hstart, hempty]
    simp
  · rw [hempty]
    simp
  · exact remembers_step hm hinv.1 hinv.2 hstep.1 hstep.2

end Hysteresis

section Pilot

def plainEngine : EngineText where
  lower := id
  repr := id
  reprFloat := fun _ => ""

/-- 0.2 °C and 2 %RH to come up, 0.3 °C and 3 %RH to stay. -/
def pilotMargins : PrewarningMargins where
  entry := fun | .temperature => 1 / 5 | .humidity => 2
  exit := fun | .temperature => 3 / 10 | .humidity => 3

/-- The pilot's clean room: 18 to 26 °C, 40 to 60 %RH. -/
def pilotRoom : EnvironmentStandard := cleanRoom "STD-4" "TH-01" (by decide)

def pilotDevice : DeviceContext := { deviceId := "TH-01", area := "CLEAN" }

/-- The sample is what `Observed` asks for, without an operation. -/
def observedNow (w : World) : Label → Bool
  | .sample i _ =>
    match evaluateMonitorState plainEngine pilotDevice i.sample (some pilotRoom) none
        (w.service.alarm "TH-01").activeReasons pilotMargins with
    | .ok e =>
      i.result = e.toMonitorResult ∧ i.unclosed.any (·.blocked) = false ∧ e.overallStatus = .normal
    | .error _ => false
  | _ => false

theorem observedNow_observed {w : World} {l : Label} (h : observedNow w l = true) :
    Observed plainEngine pilotDevice pilotRoom pilotMargins w l := by
  unfold observedNow at h
  split at h
  · rename_i i out
    intro _
    split at h
    · rename_i e he
      simp only [Bool.decide_and, Bool.and_eq_true, decide_eq_true_eq] at h
      obtain ⟨hresult, hunclosed, hn⟩ := h
      exact ⟨⟨none, e, he, hresult⟩, hunclosed, .inl (by rw [hresult]; exact hn)⟩
    · cases h
  · cases h

/-- A reading of the pilot's device with the result of its evaluation. -/
def pilotReading (seconds : ℤ) (temperature : ℚ) (previous : List String) : SampleInput :=
  let sample : MonitorSample :=
    { deviceId := "TH-01", sampleTime := .utc (seconds * 1000000), temperature := some temperature
      humidity := some 50 }
  { sample
    result := match evaluateMonitorState plainEngine pilotDevice sample (some pilotRoom)
        none previous pilotMargins with
      | .ok e => e.toMonitorResult
      | .error _ => { deviceId := "TH-01", overallStatus := .unknown }
    now := .utc (seconds * 1000000) }

/-- 25.9 °C comes up near the high limit, 25.7 °C stays, by the margins of the exit. -/
theorem prewarning_hysteresis_pilot : ∃ ls w,
    Run (Guarded (Observed plainEngine pilotDevice pilotRoom pilotMargins) (Step pilot))
      World.empty ls w ∧
      (w.service.alarm "TH-01").activeReasons = ["temperature_high_near_limit"] ∧
      (normalSamples "TH-01" ls).length = 2 ∧
      Remembers plainEngine pilotRoom pilotMargins (normalSamples "TH-01" ls)
        (w.service.alarm "TH-01") := by
  have hplay : (World.empty.play pilot observedNow [.sample (pilotReading 0 (259 / 10) []),
      .sample (pilotReading 60 (257 / 10) ["temperature_high_near_limit"])]).any (fun r =>
        (r.2.service.alarm "TH-01").activeReasons = ["temperature_high_near_limit"] ∧
          (normalSamples "TH-01" r.1).length = 2) = true := by decide +kernel
  obtain ⟨ls, w, hrun, hw⟩ := play_any hplay
  simp only [Bool.decide_and, Bool.and_eq_true, decide_eq_true_eq] at hw
  have hguarded :
      Run (Guarded (Observed plainEngine pilotDevice pilotRoom pilotMargins) (Step pilot))
      World.empty ls w :=
    hrun.mono fun a l b h => ⟨observedNow_observed h.1, h.2⟩
  have hmargins : ∀ d, 0 ≤ pilotMargins.entry d ∧ pilotMargins.entry d ≤ pilotMargins.exit d := by
    intro d
    cases d <;> decide +kernel
  have hstate : (World.empty.service.alarm pilotDevice.deviceId).state = .normal := rfl
  have hstart : (World.empty.service.alarm pilotDevice.deviceId).prewarningActive = false := rfl
  exact ⟨ls, w, hguarded, hw.1, hw.2, (prewarning_hysteresis hmargins hstate hstart hguarded).1⟩

end Pilot

end TemperatureMonitor
