/-
# Warnings over a run

Only a device's own sample moves its advisory (`Step.episode`). Along a run
each warning carries an id that was drawn before, belongs to one device, and
is known by a key made of the device, of what the sample rendered and of the
episode. A clean sample that finds the advisory suspended leaves the episode
in place: without it, what follows a clean sample is a new episode.
-/
import TemperatureMonitor.Service.Episode

namespace TemperatureMonitor

/-! ### One step, one device -/

/-- The lifecycle state and the advisory of two states are the same. -/
structure SameEpisode (a b : AlarmState) : Prop where
  state : b.state = a.state
  active : b.prewarningActive = a.prewarningActive
  episode : b.prewarningEpisodeId = a.prewarningEpisodeId

theorem SameEpisode.refl (a : AlarmState) : SameEpisode a a := ⟨rfl, rfl, rfl⟩

theorem SameEpisode.inv {a b : AlarmState} (h : SameEpisode a b) (hI : EpisodeInv a) :
    EpisodeInv b where
  active := fun hb => by rw [h.state]; exact hI.active (h.active ▸ hb)
  alarm := fun hb => by rw [h.episode]; exact hI.alarm (h.state ▸ hb)

section Step

variable {cfg : ServiceConfig} {w w' : World} {l : Label}

theorem SampleTrace.sameEpisode {i : SampleInput} {s s' : ServiceState} {out : SampleOutput}
    (T : SampleTrace cfg i s s' out) : SameEpisode T.tr.next (s'.alarm i.deviceId) := by
  have hadv := T.localMove.advisory
  have hatt := SampleTrace.attachPrewarning_advisory out.actions out.notificationTaskIds T.l.next
  rw [T.alarm_eq]
  refine ⟨?_, hatt.prewarningActive.trans hadv.prewarningActive,
    hatt.prewarningEpisodeId.trans hadv.prewarningEpisodeId⟩
  exact (SampleTrace.attachPrewarning_formal _ _ _).state.trans T.localMove.window.state

theorem sameEpisode_outcome (alarms : String → Option AlarmState) (deviceId : String)
    (recovery : Bool) (taskId messageId : Option String) (d : String) :
    SameEpisode ((alarms d).getD (AlarmState.ofDevice d))
      ((persistPrewarningOutcome alarms deviceId recovery taskId messageId d).getD
        (AlarmState.ofDevice d)) := by
  unfold persistPrewarningOutcome
  cases hst : alarms deviceId with
  | none => exact .refl _
  | some st =>
    by_cases hd : d = deviceId
    · subst hd
      simp only [hst, Function.update_self]
      cases recovery <;> exact ⟨rfl, rfl, rfl⟩
    · simp only [Function.update_of_ne hd]
      exact .refl _

/-- **Only its own sample moves the advisory of a device.** -/
theorem Step.episode (hinj : Function.Injective cfg.uuid) (hs : w.store.Sound cfg.uuid)
    (h : Step cfg w l w') (d : String) :
    SameEpisode (w.service.alarm d) (w'.service.alarm d) ∧
      (∀ i out, l = .sample i out → i.deviceId ≠ d) ∨
      ∃ i out, l = .sample i out ∧ i.deviceId = d ∧
        Nonempty (SampleTrace cfg i w.service w'.service out) := by
  have hkept : w'.service.alarms = w.service.alarms →
      SameEpisode (w.service.alarm d) (w'.service.alarm d) := fun he => by
    rw [ServiceState.alarm, ServiceState.alarm, he]
    exact .refl _
  cases h with
  | @sample i s' out hsample =>
    by_cases hd : i.deviceId = d
    · exact .inr ⟨i, out, rfl, hd, handleSample_trace hsample⟩
    · refine .inl ⟨?_, fun j _ he => by cases he; exact hd⟩
      obtain ⟨T⟩ := handleSample_trace hsample
      show SameEpisode _ (s'.alarm d)
      rw [T.alarm_other hd]
      exact .refl _
  | outcome => exact .inl ⟨sameEpisode_outcome _ _ _ _ _ d, fun _ _ he => by cases he⟩
  | event => exact .inl ⟨hkept rfl, fun _ _ he => by cases he⟩
  | task => exact .inl ⟨hkept rfl, fun _ _ he => by cases he⟩
  | reconcile hrow _ hsame =>
    refine .inl ⟨hkept ?_, fun _ _ he => by cases he⟩
    exact (reconcileAlarmEventTask_run hinj hs ⟨_, hrow, hsame⟩ rfl).1
  | ensure hensure => exact .inl ⟨hkept (ensure_run hinj hs hensure).2.1, fun _ _ he => by cases he⟩
  | deliver _ hdeliver =>
    exact .inl ⟨hkept (deliver_service hdeliver).2.2.1, fun _ _ he => by cases he⟩

end Step

/-! ### Warnings -/

/-- A warning, and the episode it carries. -/
structure Warning (e : Emission) (episode : String) : Prop where
  actionType : e.action.actionType = .notifyPrewarning
  episode : e.action.payload.prewarningEpisodeId = some episode

/-- A warning is added where the advisory is entered. -/
theorem PrewarningMove.warns {result : MonitorResult} {now : DateTime} {newId : String}
    {unclosed : Option UnclosedLookup} {base tr : StateTransition} {advice : List AlarmAction}
    {a : AlarmAction}
    (h : PrewarningMove result now newId unclosed base tr)
    (hadvice : tr.actions = base.actions ++ advice)
    (ha : a ∈ advice) (ht : a.actionType = .notifyPrewarning) :
    base.previous.prewarningActive = false ∧ result.prewarningReasons ≠ [] ∧
      tr.next = enterPrewarning result now newId base.previous base.next := by
  have hsame : base.actions = base.actions ++ advice → False := fun he => by
    rw [List.self_eq_append_right.mp he] at ha
    cases ha
  cases h with
  | entered _ _ _ hr hactive => exact ⟨hactive, hr, rfl⟩
  | cleared =>
    obtain rfl := List.append_cancel_left hadvice
    obtain rfl := List.mem_singleton.mp ha
    cases ht
  | _ => exact absurd hadvice hsame

section Sample

variable {cfg : ServiceConfig} {i : SampleInput} {s s' : ServiceState} {out : SampleOutput}

/-- **What a warning of a sample carries**: the episode of the state it leaves,
and a key made of the device, the result and that episode. -/
theorem SampleTrace.warning (T : SampleTrace cfg i s s' out) {e : Emission}
    (he : e ∈ out.emissions i) (ht : e.action.actionType = .notifyPrewarning) :
    (s.alarm i.deviceId).prewarningActive = false ∧ e.context.deviceId = i.deviceId ∧
      ∃ episode, (s'.alarm i.deviceId).prewarningEpisodeId = some episode ∧ Warning e episode ∧
        e.action.dedupeKey = some (prewarningKey .notifyPrewarning i.deviceId
          (warningText i.result i.result.prewarningReasons) episode) := by
  obtain ⟨a, ha, a', hk, hp, henr, hpass, hctx⟩ := T.emission he
  have hat : a.actionType = .notifyPrewarning :=
    (enrichAction_type henr).1.symm.trans (hpass.actionType.symm.trans ht)
  have hentered : T.base.previous.prewarningActive = false ∧ i.result.prewarningReasons ≠ [] ∧
      T.tr.next = enterPrewarning i.result i.now (cfg.uuid s.drawn)
        T.base.previous T.base.next := by
    rcases List.mem_append.mp ha with ha | ha
    · obtain ⟨-, ⟨-, rfl⟩ | ⟨-, -, rfl⟩⟩ := T.localMove.message ha hk <;> cases hat
    · obtain ⟨b, hb, rfl⟩ := List.mem_map.mp ha
      exact T.prewarning.warns T.actions_eq hb hat
  obtain ⟨hactive, hreasons, hnext⟩ := hentered
  rw [T.move.previous] at hactive hnext
  have hadv := T.localMove.advisory
  have hepisode : (s'.alarm i.deviceId).prewarningEpisodeId =
      some ((s.alarm i.deviceId).prewarningEpisodeId.getD (cfg.uuid s.drawn)) := by
    rw [T.sameEpisode.episode, hnext]
    rfl
  have henrich : enrichNotification T.projected ⟨i.sample, i.result, i.now, i.schedulerTaskId⟩
      (actionAlarmId T.projected a) a =
        enrichPrewarning T.projected ⟨i.sample, i.result, i.now, i.schedulerTaskId⟩ a := by
    unfold enrichNotification
    rw [hat]
  have hheld : prewarningEpisode T.projected =
      some ((s.alarm i.deviceId).prewarningEpisodeId.getD (cfg.uuid s.drawn)) := by
    simp [prewarningEpisode, projected, hadv.prewarningEpisodeId, hnext, enterPrewarning]
  have hshown : prewarningReasons T.projected = i.result.prewarningReasons := by
    simp [prewarningReasons, projected, hadv.prewarningReasons, hnext, enterPrewarning, hreasons]
  obtain ⟨hkey, hpayload, -⟩ := enrichAction_notification hp.not_event henr
  rw [henrich] at hkey hpayload
  simp only [enrichPrewarning, hheld, hshown] at hkey hpayload
  refine ⟨hactive, by rw [hctx]; rfl, _, hepisode, ⟨ht, ?_⟩, ?_⟩
  · rw [hpass.payload, hpayload]
  · rw [hpass.dedupeKey (by rw [(enrichAction_type henr).1]; exact hp.not_event.1), hkey, hat]
    rfl

end Sample

/-! ### Over a run -/

/-- The owners of the ids, when a sample draws the next one. -/
def Label.owns (owner : ℕ → String) (drawn : ℕ) : Label → ℕ → String
  | .sample i _ => Function.update owner drawn i.deviceId
  | _ => owner

section Run

variable {cfg : ServiceConfig} {w w' : World} {l : Label} {ls : List Label} {owner : ℕ → String}

/-- What one step does to the episode a device holds. -/
theorem Step.held (hinj : Function.Injective cfg.uuid) (hs : w.store.Sound cfg.uuid)
    (hI : ∀ d, EpisodeInv (w.service.alarm d)) (h : Step cfg w l w') (d : String) :
    EpisodeInv (w'.service.alarm d) ∧ ((w'.service.alarm d).prewarningEpisodeId = none ∨
      (w'.service.alarm d).prewarningEpisodeId = (w.service.alarm d).prewarningEpisodeId ∨
      ∃ i out, l = .sample i out ∧ i.deviceId = d ∧
        (w'.service.alarm d).prewarningEpisodeId = some (cfg.uuid w.service.drawn)) := by
  rcases h.episode hinj hs d with ⟨hsame, -⟩ | ⟨i, out, rfl, rfl, ⟨T⟩⟩
  · exact ⟨hsame.inv (hI d), .inr (.inl hsame.episode)⟩
  · obtain ⟨hinv, hep⟩ := advisory_step T.move T.prewarning (hI i.deviceId)
    refine ⟨T.sameEpisode.inv hinv, ?_⟩
    rw [T.sameEpisode.episode]
    exact hep.imp id fun h => h.imp id fun h => ⟨i, out, rfl, rfl, h.1⟩

/-- A prewarning message is emitted by a sample. -/
theorem Step.warned (h : Step cfg w l w') {e : Emission} (he : e ∈ w'.emitted)
    (ht : isPrewarningMessage e.action.actionType = true) :
    e ∈ w.emitted ∨ ∃ i out, l = .sample i out ∧ e ∈ out.emissions i ∧
      Nonempty (SampleTrace cfg i w.service w'.service out) := by
  cases h with
  | sample hsample =>
    refine (List.mem_append.mp he).imp id fun he => ⟨_, _, rfl, he, handleSample_trace hsample⟩
  | reconcile =>
    refine .inl ((List.mem_append.mp he).resolve_right fun he => ?_)
    obtain ⟨store', out, hissued, ha, -⟩ := reconcileEmissions_issued he
    rcases hissued.message _ ha with hx | ⟨hx, -⟩ <;> rw [hx] at ht <;> cases ht
  | deliver _ hdeliver => exact .inl ((deliver_service hdeliver).2.2.2 ▸ he)
  | _ => exact .inl he

/-- The `n`-th uuid, where it is an episode, is one of the device `owner n`. -/
structure Episodes (cfg : ServiceConfig) (owner : ℕ → String) (w : World) : Prop where
  inv : ∀ d, EpisodeInv (w.service.alarm d)
  held : ∀ d episode, (w.service.alarm d).prewarningEpisodeId = some episode →
    ∃ n < w.service.drawn, episode = cfg.uuid n ∧ owner n = d
  warned : ∀ e ∈ w.emitted, e.action.actionType = .notifyPrewarning →
    ∃ n < w.service.drawn, Warning e (cfg.uuid n) ∧ owner n = e.context.deviceId ∧
      ∃ text, e.action.dedupeKey =
        some (prewarningKey .notifyPrewarning e.context.deviceId text (cfg.uuid n))

theorem Episodes.empty : Episodes cfg owner World.empty where
  inv := EpisodeInv.ofDevice
  held := fun d episode h => by cases h
  warned := fun e he => by cases he

theorem Label.owns_of_lt {drawn n : ℕ} (hn : n < drawn) (l : Label) :
    l.owns owner drawn n = owner n := by
  cases l with
  | sample i _ => exact Function.update_of_ne (by omega) _ _
  | _ => rfl

theorem Episodes.step (hinj : Function.Injective cfg.uuid) (hs : w.store.Sound cfg.uuid)
    (hE : Episodes cfg owner w) (h : Step cfg w l w') :
    Episodes cfg (l.owns owner w.service.drawn) w' := by
  have hdrawn := h.drawn_le hinj hs
  have hlt : ∀ i out, l = .sample i out → w.service.drawn < w'.service.drawn := fun i out hl => by
    subst hl
    cases h with
    | sample hsample =>
      obtain ⟨T⟩ := handleSample_trace hsample
      exact T.drawn_lt hinj hs
  have hheld : ∀ d episode, (w'.service.alarm d).prewarningEpisodeId = some episode →
      ∃ n < w'.service.drawn, episode = cfg.uuid n ∧ l.owns owner w.service.drawn n = d := by
    intro d episode hep
    rcases (h.held hinj hs hE.inv d).2 with hn | hk | ⟨i, out, rfl, rfl, hnew⟩
    · rw [hn] at hep
      cases hep
    · obtain ⟨n, hn, rfl, rfl⟩ := hE.held d episode (hk ▸ hep)
      exact ⟨n, by omega, rfl, Label.owns_of_lt hn l⟩
    · rw [hnew] at hep
      cases hep
      exact ⟨_, hlt i out rfl, rfl, Function.update_self _ _ _⟩
  refine ⟨fun d => (h.held hinj hs hE.inv d).1, hheld, fun e he ht => ?_⟩
  rcases h.warned he (by rw [ht]; rfl) with hold | ⟨i, out, rfl, hnew, ⟨T⟩⟩
  · obtain ⟨n, hn, hw, hown, hkey⟩ := hE.warned e hold ht
    exact ⟨n, by omega, hw, (Label.owns_of_lt hn l).trans hown, hkey⟩
  · obtain ⟨-, hdev, episode, hep, hw, hkey⟩ := T.warning hnew ht
    obtain ⟨n, hn, rfl, hown⟩ := hheld _ _ hep
    exact ⟨n, hn, hw, hown.trans hdev.symm, _, hdev ▸ hkey⟩

/-- **Every episode belongs to one device** and was drawn before. -/
theorem episodes_run (hinj : Function.Injective cfg.uuid) (h : Run (Step cfg) World.empty ls w) :
    ∃ owner, Episodes cfg owner w := by
  refine Run.inv_labels (I := fun _ w => ∃ owner, Episodes cfg owner w) ⟨fun _ => "", .empty⟩
    (fun ls a l b hrun ⟨owner, hE⟩ hstep => ?_) h
  exact ⟨_, hE.step hinj (sound_run hinj hrun) hstep⟩

/-! ### Keys and markers -/

theorem prewarningKey_episode {t t' : AlarmActionType} {d d' x x' episode episode' : String}
    (hp : ':' ∉ episode.toList) (hp' : ':' ∉ episode'.toList)
    (h : prewarningKey t d x episode = prewarningKey t' d' x' episode') : episode = episode' :=
  (colon_suffix_inj hp hp' h).2

theorem prewarningKey_text {t : AlarmActionType} {d x x' episode : String}
    (hp : ':' ∉ episode.toList)
    (h : prewarningKey t d x episode = prewarningKey t d x' episode) : x = x' := by
  have hl := congrArg String.toList (colon_suffix_inj hp hp h).1
  simp only [String.toList_append] at hl
  exact String.toList_inj.mp (List.append_cancel_left hl)

theorem prewarningKey_type (t : AlarmActionType) (d x episode : String) :
    prewarningKey t d x episode = t.value ++ ":" ++ (d ++ ":" ++ x ++ ":" ++ episode) := by
  unfold prewarningKey
  simp only [String.append_assoc]

/-- The row under a warning's key is the task of a warning. -/
theorem warning_of_row (hinj : Function.Injective cfg.uuid) (h : Run (Step cfg) World.empty ls w)
    {t : AutomationTask} (ht : t ∈ w.service.tasks) {d x episode : String}
    (hk : t.dedupeKey = some (prewarningKey .notifyPrewarning d x episode)) :
    ∃ e ∈ w.emitted, e.action.actionType = .notifyPrewarning ∧
      NotificationRow e.context e.action t := by
  have hkeyed := (sound_run hinj h).keyed t ht
  obtain ⟨rest, hrest⟩ := hkeyed.key _ hk
  rw [prewarningKey_type] at hrest
  have htype := (colon_prefix_inj (AlarmActionType.value_plain _) hkeyed.plain hrest).1
  obtain ⟨e, he, hrow⟩ := announced_run hinj h t ht (by rw [← htype]; decide)
  exact ⟨e, he, AlarmActionType.value_injective (hrow.taskType.symm.trans htype.symm), hrow⟩

/-- A prewarning message has a key of its type. -/
theorem emitted_keyed (h : Run (Step cfg) World.empty ls w) :
    ∀ e ∈ w.emitted, isPrewarningMessage e.action.actionType = true →
      ∀ k, e.action.dedupeKey = some k →
      ∃ rest, k = e.action.actionType.value ++ ":" ++ rest := by
  refine Run.inv (I := fun w => ∀ e ∈ w.emitted, isPrewarningMessage e.action.actionType = true →
    ∀ k, e.action.dedupeKey = some k → ∃ rest, k = e.action.actionType.value ++ ":" ++ rest)
    (fun e he => by cases he) (fun a l b ih hstep e he ht k hk => ?_) h
  rcases hstep.warned he ht with hold | ⟨i, out, -, hnew, ⟨T⟩⟩
  · exact ih e hold ht k hk
  · obtain ⟨a, -, a', -, hp, henr, hpass, -⟩ := T.emission hnew
    rw [hpass.dedupeKey (by rw [(enrichAction_type henr).1]; exact hp.not_event.1)] at hk
    rw [hpass.actionType]
    exact enriched_key hp henr hk

theorem lookup_putMarker (k key : String) (m : EffectMarker) : ∀ effects :
    List (String × EffectMarker),
    (putMarker key m effects).lookup k = if k = key then some m else effects.lookup k
  | [] => by
    simp only [putMarker, List.lookup_cons, List.lookup_nil]
    by_cases hk : k = key
    · simp [hk]
    · simp [hk, beq_false_of_ne hk]
  | (k', old) :: rest => by
    have ih := lookup_putMarker k key m rest
    unfold putMarker
    by_cases hkey : k' = key
    · subst hkey
      simp only [if_pos, List.lookup_cons]
      by_cases hk : k = k'
      · simp [hk]
      · simp [hk, beq_false_of_ne hk]
    · simp only [if_neg hkey, List.lookup_cons, ih]
      by_cases hk : k = k'
      · subst hk
        simp [hkey]
      · simp [beq_false_of_ne hk]

/-- An execution leaves the markers or writes the one of its key, which did not
tell of a success. -/
theorem deliverPrewarning_cases {effects effects' : List (String × EffectMarker)} {m : Message}
    {d : Delivery} (h : deliverPrewarning effects m d = .ok effects') :
    effects' = effects ∧ d ≠ .sent ∨ succeeded (effects.lookup m.key) = false ∧
      ∃ marker, effects' = putMarker m.key marker effects ∧
        (d = .sent → marker.status = "SUCCEEDED") := by
  unfold deliverPrewarning at h
  simp only at h
  cases d with
  | suppressed =>
    cases h
    exact .inl ⟨rfl, by simp⟩
  | alreadySent =>
    simp only at h
    split_ifs at h
    cases h
    exact .inl ⟨rfl, by simp⟩
  | unreachable =>
    simp only at h
    split_ifs at h with hs hm
    cases h
    exact .inr ⟨by simpa using hs, _, rfl, by simp⟩
  | failed o =>
    simp only at h
    split_ifs at h with hs
    cases h
    exact .inr ⟨by simpa using hs, _, rfl, by simp⟩
  | lost =>
    simp only at h
    split_ifs at h with hs
    cases h
    exact .inr ⟨by simpa using hs, _, rfl, by simp⟩
  | sent =>
    simp only at h
    split_ifs at h with hs
    cases h
    exact .inr ⟨by simpa using hs, _, rfl, fun _ => rfl⟩

/-- A prewarning message that is executed has been emitted, under its key. -/
theorem Deliverable.emitted {m : Message} (hD : Deliverable w m)
    (hann : ∀ t ∈ w.service.tasks, t.taskType ∈ notificationTypes → w.Announced t)
    (hm : isPrewarningMessage m.actionType = true) :
    ∃ e ∈ w.emitted, e.action.actionType = m.actionType ∧ e.action.dedupeKey = some m.key := by
  have hkey : ∀ {a : AlarmActionType} {id : String} {dk : Option String} {r : Option DateTime}
      {c : NotificationContext} {key : String}, isPrewarningMessage a = true →
      notificationEffectKey a id dk r c = some key → dk = some key := by
    intro a id dk r c key ha hk
    cases a <;> simp_all [isPrewarningMessage, notificationEffectKey]
  cases hD with
  | inline e he hmsg =>
    simp only [Emission.message, Option.map_eq_some_iff] at hmsg
    obtain ⟨key, hk, rfl⟩ := hmsg
    exact ⟨e, he, rfl, hkey hm hk⟩
  | task t ht hmsg =>
    simp only [AutomationTask.message, Option.bind_eq_some_iff, Option.map_eq_some_iff] at hmsg
    obtain ⟨a, hnot, key, hk, rfl⟩ := hmsg
    obtain ⟨hv, htype⟩ := notification_mem hnot
    obtain ⟨e, he, hrow⟩ := hann t ht htype
    refine ⟨e, he, AlarmActionType.value_injective (hrow.taskType.symm.trans hv.symm), ?_⟩
    rw [← hrow.dedupeKey]
    exact hkey hm hk

/-- What a step does to the markers. -/
theorem Step.markers (h : Step cfg w l w') : w'.effects = w.effects ∧
      (∀ m, l = .deliver m .sent → isPrewarningMessage m.actionType = false) ∨
    ∃ m d marker, l = .deliver m d ∧ Deliverable w m ∧ isPrewarningMessage m.actionType = true ∧
      succeeded (w.effects.lookup m.key) = false ∧ w'.effects = putMarker m.key marker w.effects ∧
      (d = .sent → marker.status = "SUCCEEDED") := by
  cases h with
  | @deliver m at_ d w' hD hdeliver =>
    unfold World.deliver at hdeliver
    split_ifs at hdeliver with hm
    · cases hx : deliverPrewarning w.effects m d with
      | error err => rw [hx] at hdeliver; cases hdeliver
      | ok effects =>
        rw [hx] at hdeliver
        cases hdeliver
        rcases deliverPrewarning_cases hx with ⟨rfl, hd⟩ | ⟨hs, marker, rfl, hd⟩
        · exact .inl ⟨rfl, fun m' he => by cases he; exact absurd rfl hd⟩
        · exact .inr ⟨m, d, marker, rfl, hD, hm, hs, rfl, hd⟩
    · cases hx : deliverEvent w.service.events m at_ d <;> rw [hx] at hdeliver <;> cases hdeliver
      exact .inl ⟨rfl, fun m' he => by cases he; simpa using hm⟩
  | _ => exact .inl ⟨rfl, fun m he => by cases he⟩

/-- Every marker is the marker of a message that was emitted. -/
theorem marked_run (hinj : Function.Injective cfg.uuid) (h : Run (Step cfg) World.empty ls w) :
    ∀ k, w.effects.lookup k ≠ none →
      ∃ e ∈ w.emitted, isPrewarningMessage e.action.actionType = true ∧
      e.action.dedupeKey = some k := by
  refine Run.inv_labels (I := fun _ w => ∀ k, w.effects.lookup k ≠ none → ∃ e ∈ w.emitted,
    isPrewarningMessage e.action.actionType = true ∧ e.action.dedupeKey = some k)
    (fun k hk => absurd rfl hk) (fun ls a l b hrun ih hstep k hk => ?_) h
  have hkeep : (∃ e ∈ a.emitted, isPrewarningMessage e.action.actionType = true ∧
      e.action.dedupeKey = some k) →
        ∃ e ∈ b.emitted, isPrewarningMessage e.action.actionType = true ∧
      e.action.dedupeKey = some k := fun ⟨e, he, h⟩ => ⟨e, hstep.emitted_mem he, h⟩
  rcases hstep.markers with ⟨he, -⟩ | ⟨m, d, marker, -, hD, hm, -, he, -⟩
  · exact hkeep (ih k (he ▸ hk))
  · rw [he, lookup_putMarker] at hk
    split_ifs at hk with hkm
    · obtain ⟨e, hem, ht, hdk⟩ := hD.emitted (announced_run hinj hrun) hm
      exact hkeep ⟨e, hem, ht ▸ hm, hkm ▸ hdk⟩
    · exact hkeep (ih k hk)

/-- The marker under a warning's key is the marker of a warning. -/
theorem warning_of_marker (hinj : Function.Injective cfg.uuid) (h : Run (Step cfg) World.empty ls w)
    {d x episode : String}
    (hk : w.effects.lookup (prewarningKey .notifyPrewarning d x episode) ≠ none) :
    ∃ e ∈ w.emitted, e.action.actionType = .notifyPrewarning ∧
      e.action.dedupeKey = some (prewarningKey .notifyPrewarning d x episode) := by
  obtain ⟨e, he, ht, hdk⟩ := marked_run hinj h _ hk
  obtain ⟨rest, hrest⟩ := emitted_keyed h e he ht _ hdk
  rw [prewarningKey_type] at hrest
  have hv :=
    (colon_prefix_inj (AlarmActionType.value_plain _) (AlarmActionType.value_plain _) hrest).1
  exact ⟨e, he, AlarmActionType.value_injective hv.symm, hdk⟩

end Run

end TemperatureMonitor
