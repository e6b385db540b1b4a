/-
# Fresh episodes, and one warning for an episode

A clean sample ends the episode of its device, unless it finds the advisory
suspended: what is warned of next is a new episode under a new key, and
nothing recorded before has that key (`clean_sample_ends_episode`). All
warnings of one episode have one key exactly when their samples render one
text of the standard, its revision and the limits near (`one_warning_iff`).
-/
import TemperatureMonitor.Service.Play
import TemperatureMonitor.Service.PrewarningRuns

namespace TemperatureMonitor

section Runs

variable {cfg : ServiceConfig} {w w' : World} {ls : List Label} {episode : String}

/-! ### Warnings and the samples they come from -/

theorem emissions_emitted (h : Run (Step cfg) w ls w') {i : SampleInput} {out : SampleOutput}
    (hl : .sample i out ∈ ls) {e : Emission} (he : e ∈ out.emissions i) : e ∈ w'.emitted := by
  induction h with
  | nil => cases hl
  | snoc hr hstep ih =>
    rcases List.mem_append.mp hl with hl | hl
    · exact hstep.emitted_mem (ih hl)
    · obtain rfl := List.mem_singleton.mp hl
      cases hstep
      exact List.mem_append_right _ he

/-- A warning comes from a sample of the run. -/
theorem warning_sample (h : Run (Step cfg) w ls w') {e : Emission} (he : e ∈ w'.emitted)
    (hw : Warning e episode) : e ∈ w.emitted ∨ ∃ i out, .sample i out ∈ ls ∧
      e ∈ out.emissions i := by
  induction h with
  | nil => exact .inl he
  | snoc hr hstep ih =>
    rcases hstep.warned he (by rw [hw.actionType]; rfl) with hold | ⟨i, out, rfl, hnew, -⟩
    · exact (ih hold).imp id fun ⟨i, out, hl, h⟩ => ⟨i, out, List.mem_append_left _ hl, h⟩
    · exact .inr ⟨i, out, List.mem_append_right _ List.mem_cons_self, hnew⟩

/-- A warning of a sample is keyed by the sample's result. -/
theorem sample_key (h : Run (Step cfg) w ls w') {i : SampleInput} {out : SampleOutput}
    (hl : .sample i out ∈ ls) {e : Emission} (he : e ∈ out.emissions i) (hw : Warning e episode) :
    e.context.deviceId = i.deviceId ∧
      e.action.dedupeKey = some (prewarningKey .notifyPrewarning i.deviceId
      (warningText i.result i.result.prewarningReasons) episode) := by
  obtain ⟨pre, post, rfl⟩ := List.append_of_mem hl
  obtain ⟨a, b, -, hstep, -⟩ := h.at_label
  cases hstep with
  | sample hsample =>
    obtain ⟨T⟩ := handleSample_trace hsample
    obtain ⟨-, hdev, episode', -, hw', hkey⟩ := T.warning he hw.actionType
    obtain rfl := Option.some.inj (hw'.episode.symm.trans hw.episode)
    exact ⟨hdev, hkey⟩

/-- The warning under a key is a warning of the key's episode. -/
theorem Episodes.of_key {owner : ℕ → String} (hE : Episodes cfg owner w) (hu : FreshUuids cfg.uuid)
    {e : Emission} (he : e ∈ w.emitted) (ht : e.action.actionType = .notifyPrewarning)
    (hplain : ':' ∉ episode.toList) {d x : String}
    (hk : e.action.dedupeKey = some (prewarningKey .notifyPrewarning d x episode)) :
    Warning e episode := by
  obtain ⟨n, -, hw, -, text, hkey⟩ := hE.warned e he ht
  rw [hk] at hkey
  rwa [prewarningKey_episode hplain (hu.plain n) (Option.some.inj hkey)]

end Runs

/-! ### A new episode behind a clean sample -/

/-- A clean sample finds the advisory of its device suspended. -/
def FindsSuspended (w : World) : Label → Prop
  | .sample i _ => CleanResult i.result ∧ Suspended (w.service.alarm i.deviceId)
  | _ => False

instance (w : World) (l : Label) : Decidable (FindsSuspended w l) := by
  unfold FindsSuspended CleanResult
  cases l <;> infer_instance

section Fresh

variable {cfg : ServiceConfig} {w₁ w₂ w₃ : World} {pre mid : List Label} {c i : SampleInput}
  {cleared out : SampleOutput}

/-- A clean sample leaves its device without an episode. -/
theorem clean_drops (hinj : Function.Injective cfg.uuid)
    (h : Run (Guarded (fun w l => ¬ FindsSuspended w l) (Step cfg))
      World.empty (pre ++ [.sample c cleared]) w₁)
    (hclean : CleanResult c.result) : (w₁.service.alarm c.deviceId).prewarningEpisodeId = none := by
  obtain ⟨w, hrun, hfind, hstep⟩ := h.last
  obtain ⟨owner, hE⟩ := episodes_run hinj (hrun.mono fun _ _ _ h => h.2)
  cases hstep with
  | sample hsample =>
    obtain ⟨T⟩ := handleSample_trace hsample
    rw [T.sameEpisode.episode]
    exact advisory_clean T.move T.prewarning (hE.inv _) hclean fun hs => hfind ⟨hclean, hs⟩

/-- What a device holds later, if it held nothing then, was drawn since. -/
theorem held_since (hinj : Function.Injective cfg.uuid) {d : String}
    (h₁ : Run (Step cfg) World.empty pre w₁)
    (hnone : (w₁.service.alarm d).prewarningEpisodeId = none) (h : Run (Step cfg) w₁ mid w₂) :
    w₁.service.drawn ≤ w₂.service.drawn ∧
      ∀ episode, (w₂.service.alarm d).prewarningEpisodeId = some episode →
      ∃ n, w₁.service.drawn ≤ n ∧ episode = cfg.uuid n := by
  refine Run.inv_labels (I := fun _ w => w₁.service.drawn ≤ w.service.drawn ∧
    ∀ episode, (w.service.alarm d).prewarningEpisodeId = some episode →
      ∃ n, w₁.service.drawn ≤ n ∧ episode = cfg.uuid n)
    ⟨le_refl _, fun episode he => by rw [hnone] at he; cases he⟩
      (fun ls a l b hrun ih hstep => ?_) h
  have hfrom := h₁.append hrun
  obtain ⟨owner, hE⟩ := episodes_run hinj hfrom
  refine ⟨ih.1.trans (hstep.drawn_le hinj (sound_run hinj hfrom)), fun episode he => ?_⟩
  rcases (hstep.held hinj (sound_run hinj hfrom) hE.inv d).2 with hn | hk | ⟨-, -, -, -, hnew⟩
  · rw [hn] at he
    cases he
  · exact ih.2 episode (hk ▸ he)
  · rw [hnew] at he
    exact ⟨_, ih.1, (Option.some.inj he).symm⟩

/-- **A clean sample ends the episode.** In a run in which no clean sample
finds the advisory suspended, a warning behind a clean sample of its device is
of another episode than all warnings before, under another key; and unless the
new episode has been warned of since, no task and no marker has that key. -/
theorem clean_sample_ends_episode (hu : FreshUuids cfg.uuid)
    (hpre : Run (Guarded (fun w l => ¬ FindsSuspended w l) (Step cfg)) World.empty
      (pre ++ [.sample c cleared]) w₁)
    (hclean : CleanResult c.result)
    (hmid : Run (Guarded (fun w l => ¬ FindsSuspended w l) (Step cfg)) w₁ mid w₂)
    (hstep : Step cfg w₂ (.sample i out) w₃) (hdevice : i.deviceId = c.deviceId) {e : Emission}
    (he : e ∈ out.emissions i) (ht : e.action.actionType = .notifyPrewarning) :
    ∃ episode key, Warning e episode ∧ e.action.dedupeKey = some key ∧
      (∀ e₁ ∈ w₁.emitted, e₁.action.actionType = .notifyPrewarning →
        ¬ Warning e₁ episode ∧ e₁.action.dedupeKey ≠ some key) ∧
      ((∀ j o, .sample j o ∈ mid → ∀ e₂ ∈ o.emissions j, ¬ Warning e₂ episode) →
        (∀ t ∈ w₂.service.tasks, t.dedupeKey ≠ some key) ∧ w₂.effects.lookup key = none) := by
  have hnone := clean_drops hu.injective hpre hclean
  rw [← hdevice] at hnone
  have hrun₁ : Run (Step cfg) World.empty (pre ++ [.sample c cleared]) w₁ :=
    hpre.mono fun _ _ _ h => h.2
  have hrun₂ : Run (Step cfg) w₁ mid w₂ := hmid.mono fun _ _ _ h => h.2
  have hsince := (held_since hu.injective hrun₁ hnone (hrun₂.snoc hstep)).2
  obtain ⟨owner, hE₁⟩ := episodes_run hu.injective hrun₁
  obtain ⟨owner', hE₂⟩ := episodes_run hu.injective (hrun₁.append hrun₂)
  cases hstep with
  | sample hsample =>
    obtain ⟨T⟩ := handleSample_trace hsample
    obtain ⟨-, -, episode, hheld, hw, hkey⟩ := T.warning he ht
    obtain ⟨n, hn, rfl⟩ := hsince episode hheld
    -- a warning before the clean sample is of an id drawn before it
    have hfresh : ∀ e₁ ∈ w₁.emitted, ¬ Warning e₁ (cfg.uuid n) := by
      intro e₁ he₁ hw₁
      obtain ⟨m, hm, hwm, -⟩ := hE₁.warned e₁ he₁ hw₁.actionType
      have : m = n := hu.injective (Option.some.inj (hwm.episode.symm.trans hw₁.episode))
      omega
    refine ⟨_, _, hw, hkey, fun e₁ he₁ ht₁ => ⟨hfresh e₁ he₁, fun hk => ?_⟩, fun hmid' => ?_⟩
    · exact hfresh e₁ he₁ (hE₁.of_key hu he₁ ht₁ (hu.plain n) hk)
    have hnot : ∀ e₂ ∈ w₂.emitted, ¬ Warning e₂ (cfg.uuid n) := by
      intro e₂ he₂ hw₂
      rcases warning_sample hrun₂ he₂ hw₂ with hold | ⟨j, o, hj, ho⟩
      · exact hfresh e₂ hold hw₂
      · exact hmid' j o hj e₂ ho hw₂
    constructor
    · intro t htm hk
      obtain ⟨e₂, he₂, ht₂, hrow⟩ := warning_of_row hu.injective (hrun₁.append hrun₂) htm hk
      exact hnot e₂ he₂ (hE₂.of_key hu he₂ ht₂ (hu.plain n) (hrow.dedupeKey ▸ hk))
    · by_contra hm
      obtain ⟨e₂, he₂, ht₂, hk⟩ := warning_of_marker hu.injective (hrun₁.append hrun₂) hm
      exact hnot e₂ he₂ (hE₂.of_key hu he₂ ht₂ (hu.plain n) hk)

/-- A warning, a clean sample, a warning: two episodes. -/
theorem clean_sample_ends_episode_pilot : ∃ w₁ w₃ : World, ∃ e₁ ∈ w₁.emitted, ∃ e ∈ w₃.emitted,
    e₁.action.actionType = .notifyPrewarning ∧ e.action.actionType = .notifyPrewarning ∧
      e₁.action.dedupeKey ≠ e.action.dedupeKey := by
  have h : (World.empty.play pilot (fun w l => decide (¬ FindsSuspended w l))
      [.sample (pilotSample .normal 0 ["A"]), .sample (pilotSample .normal 60),
        .sample (pilotSample .normal 120 ["A"])]).any (fun r =>
          r.1.map (fun l => l.emissions.map (·.action.actionType)) =
            [[.notifyPrewarning], [.notifyPrewarningRecovery], [.notifyPrewarning]]) = true := by
    decide +kernel
  obtain ⟨⟨ls, w₃⟩, hplay, hP⟩ := (Option.any_eq_true _ _).mp h
  obtain ⟨warned, w₀, ks₀, hfirst, hplay₀, rfl⟩ := play_sample hplay
  obtain ⟨cleared, w₁, ks₁, hsecond, hplay₁, rfl⟩ := play_sample hplay₀
  obtain ⟨out, w₂, ks₂, hthird, hplay₂, rfl⟩ := play_sample hplay₁
  cases hplay₂
  simp only [Guarded, decide_eq_true_eq] at hfirst hsecond hthird
  have hemitted := of_decide_eq_true hP
  simp only [Label.emissions, List.map_cons, List.map_nil, List.cons.injEq,
    List.map_eq_singleton_iff] at hemitted
  obtain ⟨⟨e₁, hwarned, ht₁⟩, -, ⟨e, hout, ht⟩, -⟩ := hemitted
  have he₁ : e₁ ∈ warned.emissions (pilotSample .normal 0 ["A"]) := by simp [hwarned]
  have he : e ∈ out.emissions (pilotSample .normal 120 ["A"]) := by simp [hout]
  have hrun : Run (Guarded (fun w l => ¬ FindsSuspended w l) (Step pilot)) World.empty
      ([.sample (pilotSample .normal 0 ["A"]) warned] ++ [.sample (pilotSample .normal 60) cleared])
        w₁ :=
    (Run.one hfirst).snoc hsecond
  obtain ⟨episode, key, -, hkey, hother, -⟩ := clean_sample_ends_episode pilot_fresh hrun ⟨rfl, rfl⟩
      .nil hthird.2 rfl
    he ht
  have hmem : e₁ ∈ w₁.emitted :=
    emissions_emitted (hrun.mono fun _ _ _ h => h.2) List.mem_cons_self he₁
  refine ⟨w₁, w₃, e₁, hmem, e, emissions_emitted (.one hthird.2) List.mem_cons_self he, ht₁, ht, ?_⟩
  rw [hkey]
  exact (hother e₁ hmem ht₁).2

/-- A sample of a device that is not to be monitored at the moment. -/
def pausedSample (seconds : ℤ) : SampleInput :=
  let i := pilotSample .unknown seconds
  { i with result := { i.result with applicability := .notApplicable } }

/-- A warning, a pause, a clean sample, and a warning again: it carries the
episode and the key of the first, and no task is created for it. -/
theorem suspended_episode_retained : ∃ w warned paused cleared again,
    Run (Step pilot) World.empty
      [.sample (pilotSample .normal 0 ["A"]) warned, .sample (pausedSample 60) paused,
        .sample (pilotSample .normal 120) cleared, .sample (pilotSample .normal 180 ["A"]) again]
          w ∧
    CleanResult (pilotSample .normal 120).result ∧
    (∃ e₁ ∈ warned.emissions (pilotSample .normal 0 ["A"]),
      ∃ e ∈ again.emissions (pilotSample .normal 180 ["A"]),
      ∃ episode, Warning e₁ episode ∧ Warning e episode ∧
        e.action.dedupeKey = e₁.action.dedupeKey) ∧
    (w.service.tasks.filter fun t => t.taskType = "NOTIFY_PREWARNING").length = 1 := by
  have h : (World.empty.play pilot (fun _ _ => true)
      [.sample (pilotSample .normal 0 ["A"]), .sample (pausedSample 60),
          .sample (pilotSample .normal 120),
        .sample (pilotSample .normal 180 ["A"])]).any (fun r =>
          r.1.map (fun l => l.emissions.map fun e =>
              (e.action.actionType, e.action.payload.prewarningEpisodeId, e.action.dedupeKey)) =
            [[(.notifyPrewarning, some "a", some "NOTIFY_PREWARNING:TH-01:unknown:unknown:A:a")],
                [], [],
              [(.notifyPrewarning, some "a", some "NOTIFY_PREWARNING:TH-01:unknown:unknown:A:a")]] ∧
          (r.2.service.tasks.filter fun t => t.taskType = "NOTIFY_PREWARNING").length = 1) =
            true := by
    decide +kernel
  obtain ⟨⟨ls, w⟩, hplay, hP⟩ := (Option.any_eq_true _ _).mp h
  have hrun := (play_run hplay).mono fun _ _ _ h => h.2
  obtain ⟨warned, w₁, ks₁, -, hplay₁, rfl⟩ := play_sample hplay
  obtain ⟨paused, w₂, ks₂, -, hplay₂, rfl⟩ := play_sample hplay₁
  obtain ⟨cleared, w₃, ks₃, -, hplay₃, rfl⟩ := play_sample hplay₂
  obtain ⟨again, w₄, ks₄, -, hplay₄, rfl⟩ := play_sample hplay₃
  cases hplay₄
  obtain ⟨hemitted, htasks⟩ := of_decide_eq_true hP
  simp only [Label.emissions, List.map_cons, List.map_nil, List.cons.injEq,
      List.map_eq_singleton_iff,
    Prod.mk.injEq] at hemitted
  obtain ⟨⟨e₁, hwarned, ht₁, hep₁, hk₁⟩, -, -, ⟨e, hagain, ht, hep, hk⟩, -⟩ := hemitted
  exact ⟨w, warned, paused, cleared, again, hrun, ⟨rfl, rfl⟩,
    ⟨e₁, by simp [hwarned], e, by simp [hagain], "a", ⟨ht₁, hep₁⟩, ⟨ht, hep⟩, hk.trans hk₁.symm⟩,
      htasks⟩

end Fresh

/-! ### One warning for an episode -/

/-- The task of a warning of the episode. -/
structure WarningTask (t : AutomationTask) (episode : String) : Prop where
  taskType : t.taskType = "NOTIFY_PREWARNING"
  episode : t.payload.prewarningEpisodeId = some episode

/-- The step sends a warning of the episode. -/
def World.Sends (w : World) (episode : String) (l : Label) : Prop :=
  ∃ m, l = .deliver m .sent ∧ m.actionType = .notifyPrewarning ∧
    ∃ e ∈ w.emitted, Warning e episode ∧ e.action.dedupeKey = some m.key

/-- The warnings of the episode have one key, one task at most, and one is sent
at most. -/
structure OneWarning (ls : List Label) (w : World) (episode : String) : Prop where
  key : ∀ e ∈ w.emitted, ∀ e' ∈ w.emitted, Warning e episode → Warning e' episode →
    e.action.dedupeKey = e'.action.dedupeKey
  task : ∀ t ∈ w.service.tasks, ∀ t' ∈ w.service.tasks, WarningTask t episode →
    WarningTask t' episode → t = t'
  sent : ls.Pairwise fun l l' => ¬ (w.Sends episode l ∧ w.Sends episode l')

section One

variable {cfg : ServiceConfig} {w : World} {ls : List Label} {episode : String}

/-- The task of a warning is the task of an emission. -/
theorem WarningTask.emitted (hinj : Function.Injective cfg.uuid)
    (h : Run (Step cfg) World.empty ls w)
    {t : AutomationTask} (htm : t ∈ w.service.tasks) (ht : WarningTask t episode) :
    ∃ e ∈ w.emitted, Warning e episode ∧ t.dedupeKey = e.action.dedupeKey := by
  obtain ⟨e, he, hrow⟩ := announced_run hinj h t htm (by rw [ht.taskType]; decide)
  have htype : e.action.actionType = .notifyPrewarning :=
    AlarmActionType.value_injective (hrow.taskType.symm.trans ht.taskType)
  obtain ⟨n, hn⟩ := hrow.payload
  exact ⟨e, he, ⟨htype, by have := ht.episode; rw [hn] at this; exact this⟩, hrow.dedupeKey⟩

/-- A key is sent once at most, and what was sent stays marked. -/
theorem sent_once (h : Run (Step cfg) World.empty ls w) :
    (∀ m, Label.deliver m .sent ∈ ls → isPrewarningMessage m.actionType = true →
      succeeded (w.effects.lookup m.key) = true) ∧
    ls.Pairwise fun l l' => ∀ m m', l = .deliver m .sent → l' = .deliver m' .sent →
      isPrewarningMessage m.actionType = true → isPrewarningMessage m'.actionType = true →
        m.key ≠ m'.key := by
  induction h with
  | nil => exact ⟨(fun m hm => by cases hm), .nil⟩
  | @snoc ls a l b hr hstep ih =>
    obtain ⟨hmarked, hpair⟩ := ih
    rcases hstep.markers with ⟨he, hnot⟩ | ⟨m₀, d, marker, rfl, -, hm₀, hs, he, hd⟩
    · refine ⟨fun m hm hp => ?_, ?_⟩
      · rcases List.mem_append.mp hm with hm | hm
        · rw [he]
          exact hmarked m hm hp
        · obtain rfl := List.mem_singleton.mp hm
          rw [hnot m rfl] at hp
          cases hp
      · refine List.pairwise_append.mpr ⟨hpair, List.pairwise_singleton _ _,
          fun x _ y hy m m' _ hy' _ hp => ?_⟩
        rw [hnot m' ((List.mem_singleton.mp hy).symm.trans hy')] at hp
        cases hp
    · have hkept : ∀ m, .deliver m .sent ∈ ls → isPrewarningMessage m.actionType = true →
          m.key ≠ m₀.key := by
        intro m hm hp hkey
        have := hmarked m hm hp
        rw [hkey, hs] at this
        cases this
      refine ⟨fun m hm hp => ?_, ?_⟩
      · rw [he, lookup_putMarker]
        rcases List.mem_append.mp hm with hm | hm
        · rw [if_neg (hkept m hm hp)]
          exact hmarked m hm hp
        · cases List.mem_singleton.mp hm
          simp [succeeded, hd rfl]
      · refine List.pairwise_append.mpr ⟨hpair, List.pairwise_singleton _ _,
          fun x hx y hy m m' hx' hy' hp _ => ?_⟩
        obtain rfl := hx'
        cases (List.mem_singleton.mp hy).symm.trans hy'
        exact hkept m hx hp

/-- **One episode, one warning**: exactly when all samples that warn of the
episode render one text. -/
theorem one_warning_iff (hu : FreshUuids cfg.uuid) (h : Run (Step cfg) World.empty ls w)
    (episode : String) :
    OneWarning ls w episode ↔ ∀ i out i' out', .sample i out ∈ ls → .sample i' out' ∈ ls →
      (∃ e ∈ out.emissions i, Warning e episode) → (∃ e ∈ out'.emissions i', Warning e episode) →
        warningText i.result i.result.prewarningReasons =
          warningText i'.result i'.result.prewarningReasons := by
  obtain ⟨owner, hE⟩ := episodes_run hu.injective h
  have hsample : ∀ {e}, e ∈ w.emitted → Warning e episode → ∃ i out, .sample i out ∈ ls ∧
      e ∈ out.emissions i :=
    fun he hw => (warning_sample h he hw).resolve_left fun he => by cases he
  -- the warnings of an episode are of one device
  have hdevice : ∀ {e e'}, e ∈ w.emitted → e' ∈ w.emitted → Warning e episode → Warning e' episode →
      e.context.deviceId = e'.context.deviceId := by
    intro e e' he he' hw hw'
    obtain ⟨n, -, hwn, hn, -⟩ := hE.warned e he hw.actionType
    obtain ⟨n', -, hwn', hn', -⟩ := hE.warned e' he' hw'.actionType
    have h1 := Option.some.inj (hwn.episode.symm.trans hw.episode)
    have h2 := Option.some.inj (hwn'.episode.symm.trans hw'.episode)
    rw [← hn, ← hn', hu.injective (h1.trans h2.symm)]
  constructor
  · rintro hone i out i' out' hi hi' ⟨e, he, hw⟩ ⟨e', he', hw'⟩
    have hem := emissions_emitted h hi he
    have hem' := emissions_emitted h hi' he'
    obtain ⟨hd, hk⟩ := sample_key h hi he hw
    obtain ⟨hd', hk'⟩ := sample_key h hi' he' hw'
    have heq := hone.key e hem e' hem' hw hw'
    obtain ⟨n, -, hwn, -⟩ := hE.warned e hem hw.actionType
    obtain rfl := Option.some.inj (hwn.episode.symm.trans hw.episode)
    rw [hk, hk', ← hd, ← hd', hdevice hem hem' hw hw', Option.some.injEq] at heq
    exact prewarningKey_text (hu.plain n) heq
  · intro htext
    have hkey : ∀ e ∈ w.emitted, ∀ e' ∈ w.emitted, Warning e episode → Warning e' episode →
        e.action.dedupeKey = e'.action.dedupeKey := by
      intro e he e' he' hw hw'
      obtain ⟨i, out, hi, hei⟩ := hsample he hw
      obtain ⟨i', out', hi', hei'⟩ := hsample he' hw'
      obtain ⟨hd, hk⟩ := sample_key h hi hei hw
      obtain ⟨hd', hk'⟩ := sample_key h hi' hei' hw'
      rw [hk, hk', ← hd, ← hd', hdevice he he' hw hw',
        htext i out i' out' hi hi' ⟨e, hei, hw⟩ ⟨e', hei', hw'⟩]
    refine ⟨hkey, fun t ht t' ht' htw htw' => ?_, (sent_once h).2.imp fun {l l'} hne => ?_⟩
    · obtain ⟨e, he, hw, hdk⟩ := htw.emitted hu.injective h ht
      obtain ⟨e', he', hw', hdk'⟩ := htw'.emitted hu.injective h ht'
      have hsound := sound_run hu.injective h
      refine eq_of_taskId hsound.nodup ht ht' ?_
      refine uniqueKeys_run hu.injective h t' ht' t ht (by rw [htw'.taskType]; decide) ?_ ?_
      · obtain ⟨i, out, hi, hei⟩ := hsample he' hw'
        rw [hdk', (sample_key h hi hei hw').2]
        exact Option.some_ne_none _
      · rw [hdk, hdk', hkey e he e' he' hw hw']
    · rintro ⟨⟨m, hl, hm, e, he, hw, hk⟩, ⟨m', hl', hm', e', he', hw', hk'⟩⟩
      refine hne m m' hl hl' (by rw [hm]; rfl) (by rw [hm']; rfl) ?_
      exact Option.some.inj (hk.symm.trans ((hkey e he e' he' hw hw').trans hk'))

/-- A warning that a breach interrupts, entered again with the same limit near. -/
theorem one_warning_pilot : ∃ ls w, Run (Step pilot) World.empty ls w ∧ w.emitted.length = 2 ∧
    OneWarning ls w "a" := by
  have h : (World.empty.play pilot (fun _ _ => true)
      [.sample (pilotSample .normal 0 ["A"]), .sample (pilotSample .violation 60),
        .sample (pilotSample .normal 120 ["A"])]).any (fun r =>
          r.1.map (fun l => l.emissions.length) = [1, 0, 1] ∧ r.2.emitted.length = 2) = true := by
    decide +kernel
  obtain ⟨⟨ls, w⟩, hplay, hP⟩ := (Option.any_eq_true _ _).mp h
  have hrun := (play_run hplay).mono fun _ _ _ h => h.2
  obtain ⟨warned, w₁, ks₁, -, hplay₁, rfl⟩ := play_sample hplay
  obtain ⟨breached, w₂, ks₂, -, hplay₂, rfl⟩ := play_sample hplay₁
  obtain ⟨again, w₃, ks₃, -, hplay₃, rfl⟩ := play_sample hplay₂
  cases hplay₃
  obtain ⟨hemitted, htwo⟩ := of_decide_eq_true hP
  simp only [Label.emissions, List.map_cons, List.map_nil, List.cons.injEq,
    List.length_eq_zero_iff] at hemitted
  obtain ⟨-, hquiet, -⟩ := hemitted
  have htext : ∀ i out, Label.sample i out ∈ [.sample (pilotSample .normal 0 ["A"]) warned,
      .sample (pilotSample .violation 60) breached, .sample (pilotSample .normal 120 ["A"]) again] →
      (∃ e ∈ out.emissions i, Warning e "a") →
        warningText i.result i.result.prewarningReasons = "unknown:unknown:A" := by
    rintro i out hl ⟨e, he, -⟩
    rcases List.mem_cons.mp hl with hl | hl
    · cases hl
      decide
    rcases List.mem_cons.mp hl with hl | hl
    · cases hl
      rw [hquiet] at he
      cases he
    · cases List.mem_singleton.mp hl
      decide
  exact ⟨_, w, hrun, htwo, (one_warning_iff pilot_fresh hrun "a").mpr
    fun i out i' out' hi hi' hw hw' => (htext i out hi hw).trans (htext i' out' hi' hw').symm⟩

/-- The same breach, another limit near on re-entry: the episode is warned of
under two keys, with two tasks, and both messages are sent. -/
theorem reentry_warns_twice : ∃ w warned breached again m m',
    Run (Step pilot) World.empty
      [.sample (pilotSample .normal 0 ["A"]) warned, .sample (pilotSample .violation 60) breached,
        .sample (pilotSample .normal 120 ["B"]) again, .deliver m .sent, .deliver m' .sent] w ∧
    (∃ e ∈ w.emitted, ∃ e' ∈ w.emitted, Warning e "a" ∧ Warning e' "a" ∧
      e.action.dedupeKey = some m.key ∧
      e'.action.dedupeKey = some m'.key ∧ m.key ≠ m'.key) ∧
    ∃ t ∈ w.service.tasks, ∃ t' ∈ w.service.tasks, WarningTask t "a" ∧ WarningTask t' "a" ∧
      t ≠ t' := by
  have h : (World.empty.play pilot (fun _ _ => true)
      [.sample (pilotSample .normal 0 ["A"]), .sample (pilotSample .violation 60),
        .sample (pilotSample .normal 120 ["B"]),
        .deliver ⟨.notifyPrewarning, "", "NOTIFY_PREWARNING:TH-01:unknown:unknown:A:a"⟩
          (.utc 121000000) .sent,
        .deliver ⟨.notifyPrewarning, "", "NOTIFY_PREWARNING:TH-01:unknown:unknown:B:a"⟩
          (.utc 122000000) .sent]).any
        (fun r => r.2.emitted.any (fun e => r.2.emitted.any fun e' =>
            decide (e.action.actionType = .notifyPrewarning ∧
                e.action.payload.prewarningEpisodeId = some "a" ∧
              e'.action.actionType = .notifyPrewarning ∧
                e'.action.payload.prewarningEpisodeId = some "a" ∧
              e.action.dedupeKey = some "NOTIFY_PREWARNING:TH-01:unknown:unknown:A:a" ∧
              e'.action.dedupeKey = some "NOTIFY_PREWARNING:TH-01:unknown:unknown:B:a")) &&
          r.2.service.tasks.any (fun t => r.2.service.tasks.any fun t' =>
            decide (t.taskType = "NOTIFY_PREWARNING" ∧ t.payload.prewarningEpisodeId = some "a" ∧
              t'.taskType = "NOTIFY_PREWARNING" ∧ t'.payload.prewarningEpisodeId = some "a" ∧
                t ≠ t'))) = true := by
    decide +kernel
  obtain ⟨⟨ls, w⟩, hplay, hP⟩ := (Option.any_eq_true _ _).mp h
  have hrun := (play_run hplay).mono fun _ _ _ h => h.2
  obtain ⟨warned, w₁, ks₁, -, hplay₁, rfl⟩ := play_sample hplay
  obtain ⟨breached, w₂, ks₂, -, hplay₂, rfl⟩ := play_sample hplay₁
  obtain ⟨again, w₃, ks₃, -, hplay₃, rfl⟩ := play_sample hplay₂
  obtain ⟨w₄, ks₄, -, hplay₄, rfl⟩ := play_deliver hplay₃
  obtain ⟨w₅, ks₅, -, hplay₅, rfl⟩ := play_deliver hplay₄
  cases hplay₅
  obtain ⟨hwarn, htask⟩ := Bool.and_eq_true_iff.mp hP
  obtain ⟨e, he, hwarn⟩ := List.any_eq_true.mp hwarn
  obtain ⟨e', he', hwarn⟩ := List.any_eq_true.mp hwarn
  obtain ⟨ht, hep, ht', hep', hkey, hkey'⟩ := of_decide_eq_true hwarn
  obtain ⟨t, htm, htask⟩ := List.any_eq_true.mp htask
  obtain ⟨t', htm', htask⟩ := List.any_eq_true.mp htask
  obtain ⟨h1, h2, h1', h2', hne⟩ := of_decide_eq_true htask
  exact ⟨w, warned, breached, again, _, _, hrun,
    ⟨e, he, e', he', ⟨ht, hep⟩, ⟨ht', hep'⟩, hkey, hkey', by decide⟩,
    t, htm, t', htm', ⟨h1, h2⟩, ⟨h1', h2'⟩, hne⟩

end One

end TemperatureMonitor
