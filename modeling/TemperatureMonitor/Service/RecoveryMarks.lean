/-
# What an event records of its recovery

The confirmation of a recovery leaves its time on the row of the event: as the
recovery that is pending, or as the time the row was closed at, which binding
makes a pending recovery later (`RecoveryMark`). The marker of a message that
was sent stays SUCCEEDED (`KeepsSent`). Both are kept by every write of a row,
so by every step.
-/
import TemperatureMonitor.Service.WorldRun

namespace TemperatureMonitor

/-! ### The recovery of a row -/

/-- What a row records of a recovery that was confirmed at the given time. -/
structure RecoveryMark (confirmed : Option DateTime) (e : EnvironmentEvent) : Prop where
  pending : e.recoveryPending = true → confirmed ≠ none ∧ e.payload.feishuRecoveredAt = confirmed
  unset : e.payload.feishuRecoveryPending = none →
    e.payload.feishuRecoveredAt = none ∧ e.closedAt = confirmed ∧
      (confirmed = none → e.status ≠ .closed)

section Mark

variable {confirmed : Option DateTime} {e e' : EnvironmentEvent}

/-- Rows that agree in the columns of a recovery. -/
theorem RecoveryMark.congr (h : RecoveryMark confirmed e)
    (hp : e'.payload.feishuRecoveryPending = e.payload.feishuRecoveryPending)
    (hr : e'.payload.feishuRecoveredAt = e.payload.feishuRecoveredAt)
    (hc : e'.closedAt = e.closedAt) (hs : e'.status = e.status) : RecoveryMark confirmed e' where
  pending := fun hpend => by
    unfold EnvironmentEvent.recoveryPending at hpend
    rw [hp] at hpend
    rw [hr]
    exact h.pending hpend
  unset := fun hnone => by
    rw [hr, hc, hs]
    exact h.unset (hp ▸ hnone)

/-- A row whose recovery is over. -/
theorem RecoveryMark.done (h : e.payload.feishuRecoveryPending = some false) :
    RecoveryMark confirmed e where
  pending := fun hpend => by
    unfold EnvironmentEvent.recoveryPending at hpend
    rw [h] at hpend
    simp at hpend
  unset := fun hnone => by
    rw [h] at hnone
    cases hnone

theorem RecoveryMark.bound (h : RecoveryMark confirmed e) (recordId : String) :
    RecoveryMark confirmed (e.bound recordId) := by
  by_cases hc : e.closedAt.isSome = true
  · have hp : (e.bound recordId).payload.feishuRecoveryPending =
        (e.payload.feishuRecoveryPending <|> some true) := if_pos hc
    have hr : (e.bound recordId).payload.feishuRecoveredAt =
        (e.payload.feishuRecoveredAt <|> e.closedAt) :=
      if_pos hc
    cases hpend : e.payload.feishuRecoveryPending with
    | none =>
      -- binding makes the closing of the row its pending recovery
      obtain ⟨hnone, hclosed, -⟩ := h.unset hpend
      refine ⟨fun _ => ⟨?_, ?_⟩, fun hunset => ?_⟩
      · rw [← hclosed]
        exact Option.ne_none_iff_isSome.mpr hc
      · rw [hr, hnone, hclosed]
        rfl
      · rw [hp, hpend] at hunset
        cases hunset
    | some b =>
      cases b with
      | false => exact .done (by rw [hp, hpend]; rfl)
      | true =>
        have htrue : e.recoveryPending = true := by
          unfold EnvironmentEvent.recoveryPending
          rw [hpend]
          rfl
        obtain ⟨hne, hat⟩ := h.pending htrue
        refine ⟨fun _ => ⟨hne, ?_⟩, fun hunset => ?_⟩
        · rw [hr, hat]
          obtain ⟨t, ht⟩ := Option.ne_none_iff_exists'.mp hne
          rw [ht]
          rfl
        · rw [hp, hpend] at hunset
          cases hunset
  · exact h.congr (if_neg hc) (if_neg hc) rfl rfl

/-- **No write of a row touches the time of its recovery.** -/
theorem RowWrite.recoveryMark (hw : RowWrite e e') (h : RecoveryMark confirmed e) :
    RecoveryMark confirmed e' := by
  cases hw with
  | values v =>
    cases v with
    | recoveryDone => exact .done rfl
    | _ => exact h.congr rfl rfl rfl rfl
  | bindingPending at_ =>
    have hp : (e.payload.bindingPending at_).feishuRecoveryPending =
        e.payload.feishuRecoveryPending ∧
        (e.payload.bindingPending at_).feishuRecoveredAt = e.payload.feishuRecoveredAt := by
      unfold EventPayload.bindingPending
      split_ifs <;> exact ⟨rfl, rfl⟩
    exact h.congr hp.1 hp.2 rfl rfl
  | recordMissing at_ => exact .done rfl
  | bound recordId => exact h.bound recordId
  | superseded eventId => exact .done rfl
  | _ => exact h.congr rfl rfl rfl rfl

/-- The confirmation itself. -/
theorem RecoveryMark.recovered (h : RecoveryMark none e) (writesEnabled : Bool) (now : DateTime) :
    RecoveryMark (some now) (e.recovered writesEnabled now) := by
  unfold EnvironmentEvent.recovered EnvironmentEvent.close
  by_cases hw : writesEnabled = true
  · rw [if_pos hw]
    split_ifs <;> exact ⟨fun _ => ⟨by simp, rfl⟩, fun hnone => by cases hnone⟩
  · rw [if_neg hw]
    refine ⟨fun hpend => ?_, fun hnone => ?_⟩
    · have hpend' : e.recoveryPending = true := by
        split_ifs at hpend <;> exact hpend
      exact absurd rfl (h.pending hpend').1
    · have hnone' : e.payload.feishuRecoveryPending = none := by
        split_ifs at hnone <;> exact hnone
      obtain ⟨hat, -, hopen⟩ := h.unset hnone'
      rw [if_neg (hopen rfl)]
      exact ⟨hat, rfl, fun h => by cases h⟩

end Mark

/-! ### The markers of a row -/

/-- A message that was sent stays marked so. -/
structure KeepsSent (e e' : EnvironmentEvent) : Prop where
  eventId : e'.eventId = e.eventId
  sent : ∀ key, succeeded (e.payload.feishuExternalEffects.lookup key) = true →
    succeeded (e'.payload.feishuExternalEffects.lookup key) = true

theorem KeepsSent.refl (e : EnvironmentEvent) : KeepsSent e e := ⟨rfl, fun _ h => h⟩

theorem KeepsSent.trans {a b c : EnvironmentEvent} (h : KeepsSent a b) (h' : KeepsSent b c) :
    KeepsSent a c :=
  ⟨h'.eventId.trans h.eventId, fun key hs => h'.sent key (h.sent key hs)⟩

theorem lookup_mergeMarker (k key : String) (merge : Option EffectMarker → EffectMarker) :
    ∀ effects : List (String × EffectMarker), (mergeMarker key merge effects).lookup k =
      if k = key ∧ succeeded (effects.lookup key) = false then some (merge (effects.lookup key))
      else effects.lookup k
  | [] => by
    by_cases hk : k = key
    · simp [mergeMarker, hk, succeeded]
    · simp [mergeMarker, hk, List.lookup_cons, beq_false_of_ne hk]
  | (k', m) :: rest => by
    have ih := lookup_mergeMarker k key merge rest
    unfold mergeMarker
    by_cases hkey : k' = key
    · subst hkey
      by_cases hk : k = k'
      · subst hk
        by_cases hs : m.status = "SUCCEEDED"
        · simp [hs, succeeded]
        · simp [hs, succeeded]
      · by_cases hs : m.status = "SUCCEEDED" <;> simp [hs, hk, List.lookup_cons, beq_false_of_ne hk]
    · rw [if_neg hkey]
      have hne : (key == k') = false := beq_false_of_ne (Ne.symm hkey)
      by_cases hk : k = k'
      · subst hk
        simp [List.lookup_cons, hkey]
      · simp [List.lookup_cons, beq_false_of_ne hk, hne, ih]

/-- **No write of a row takes a success back.** -/
theorem RowWrite.keepsSent {e e' : EnvironmentEvent} (h : RowWrite e e') : KeepsSent e e' := by
  cases h with
  | values v => cases v <;> exact ⟨rfl, fun _ h => h⟩
  | bindingPending at_ =>
    refine ⟨rfl, fun key hs => ?_⟩
    show succeeded ((e.payload.bindingPending at_).feishuExternalEffects.lookup key) = true
    unfold EventPayload.bindingPending
    split_ifs <;> exact hs
  | effect key merge =>
    refine ⟨rfl, fun k hs => ?_⟩
    show succeeded ((mergeMarker key merge e.payload.feishuExternalEffects).lookup k) = true
    rw [lookup_mergeMarker]
    split_ifs with hk
    · rw [hk.1, hk.2] at hs
      cases hs
    · exact hs
  | _ => exact ⟨rfl, fun _ h => h⟩

theorem keepsSent_recovered (writesEnabled : Bool) (now : DateTime) (e : EnvironmentEvent) :
    KeepsSent e (e.recovered writesEnabled now) := by
  unfold EnvironmentEvent.recovered EnvironmentEvent.close
  split_ifs <;> exact ⟨rfl, fun _ h => h⟩

/-! ### Executions -/

section Deliver

variable {cfg : ServiceConfig} {w w' : World} {ls : List Label} {m : Message} {at_ : DateTime}
  {d : Delivery}

/-- The message is marked as sent. -/
def World.Sent (w : World) (m : Message) : Prop :=
  ∃ e, eventById w.service.events m.eventId = some e ∧
    succeeded (e.payload.feishuExternalEffects.lookup m.key) = true

theorem eventById_update {events : List EnvironmentEvent} {eventId : String}
    {f : EnvironmentEvent → EnvironmentEvent}
    (hf : ∀ e, (f e).eventId = e.eventId) {e : EnvironmentEvent}
    (he : eventById events eventId = some e) :
    eventById (updateEvent events eventId f) eventId = some (f e) := by
  have hid := (eventById_mem he).2
  unfold eventById updateEvent at *
  rw [List.find?_map]
  have hcongr : ((fun a : EnvironmentEvent => decide (a.eventId = eventId)) ∘
      fun a => if a.eventId = eventId then f a else a) = fun a => decide (a.eventId = eventId) := by
    funext a
    by_cases ha : a.eventId = eventId
    · simp [ha, hf]
    · simp [ha]
  rw [hcongr, he, Option.map_some, if_pos hid]

theorem patchExternalEffect_row {events events' : List EnvironmentEvent} {eventId key : String}
    {merge : Option EffectMarker → EffectMarker}
    (h : patchExternalEffect events eventId key merge = .ok events') :
    ∃ e e', eventById events eventId = some e ∧ eventById events' eventId = some e' ∧
      e'.payload.feishuExternalEffects = mergeMarker key merge e.payload.feishuExternalEffects := by
  unfold patchExternalEffect onEvent at h
  split_ifs at h
  split at h
  · cases h
  · rename_i e he
    cases h
    refine ⟨e, _, he, eventById_update (fun _ => ?_) he, rfl⟩
    rfl

/-- A message that calls the sender was not marked as sent. -/
theorem deliver_called (h : w.deliver m at_ d = .ok w')
    (hp : isPrewarningMessage m.actionType = false) (hd : d.calls = true) : ¬ w.Sent m := by
  unfold World.deliver at h
  rw [if_neg (by simp [hp])] at h
  cases hx : deliverEvent w.service.events m at_ d <;> rw [hx] at h <;> cases h
  rintro ⟨e, he, hs⟩
  rcases deliverEvent_cases hx with ⟨-, rfl⟩ | ⟨⟨e', he', hs'⟩, -⟩
  · cases hd
  · obtain rfl := Option.some.inj (he.symm.trans he')
    rw [hs] at hs'
    cases hs'

theorem deliver_sent (h : w.deliver m at_ .sent = .ok w')
    (hp : isPrewarningMessage m.actionType = false) : w'.Sent m := by
  unfold World.deliver at h
  rw [if_neg (by simp [hp])] at h
  cases hx : deliverEvent w.service.events m at_ .sent <;> rw [hx] at h <;> cases h
  rcases deliverEvent_cases hx with ⟨-, hd⟩ | ⟨-, mid, -, ⟨-, hd⟩ | ⟨_, _, -, hd⟩ | ⟨-, hok⟩⟩
  · cases hd
  · cases hd
  · exact absurd rfl hd
  · obtain ⟨e, e', -, he', heffects⟩ := patchExternalEffect_row hok
    refine ⟨e', he', ?_⟩
    rw [heffects, lookup_mergeMarker]
    split_ifs with hs
    · rfl
    · simpa using hs

/-- What was sent stays marked, whatever comes behind. -/
theorem Step.keepsSent (hinj : Function.Injective cfg.uuid)
    (hs : w.store.Sound cfg.uuid) {l : Label}
    (h : Step cfg w l w') (hsent : w.Sent m) : w'.Sent m := by
  obtain ⟨e, he, hs'⟩ := hsent
  obtain ⟨e', he', hk⟩ := h.keepsRow (R := KeepsSent) hinj hs .refl (fun _ _ _ => .trans)
      (fun _ _ h => h.eventId)
    (fun _ _ => RowWrite.keepsSent) keepsSent_recovered he
  exact ⟨e', he', hk.sent _ hs'⟩

theorem marked_sent (hinj : Function.Injective cfg.uuid) (h : Run (Step cfg) World.empty ls w)
    (hm : Label.deliver m .sent ∈ ls) (hp : isPrewarningMessage m.actionType = false) :
    w.Sent m := by
  induction h with
  | nil => cases hm
  | snoc hr hstep ih =>
    have hs := sound_run hinj hr
    rcases List.mem_append.mp hm with hm | hm
    · exact hstep.keepsSent hinj hs (ih hm)
    · obtain rfl := List.mem_singleton.mp hm
      cases hstep with
      | deliver _ hdeliver => exact deliver_sent hdeliver hp

/-- **Behind a success of its key** a message of an event calls the sender no more. -/
theorem called_once (hinj : Function.Injective cfg.uuid) (h : Run (Step cfg) World.empty ls w) :
    ls.Pairwise fun l l' => ∀ m m' d, l = .deliver m .sent → l' = .deliver m' d → d.calls = true →
      isPrewarningMessage m.actionType = false → isPrewarningMessage m'.actionType = false →
      m'.eventId = m.eventId → m'.key ≠ m.key := by
  induction h with
  | nil => exact .nil
  | snoc hr hstep ih =>
    refine List.pairwise_append.mpr ⟨ih, List.pairwise_singleton _ _,
      fun x hx y hy m m' d hx' hy' hd hp hp' hid hkey => ?_⟩
    subst hx'
    obtain rfl := List.mem_singleton.mp hy
    have hsent := marked_sent hinj hr hx hp
    cases hstep with
    | deliver _ hdeliver =>
      cases hy'
      refine deliver_called hdeliver hp' hd ?_
      unfold World.Sent at hsent ⊢
      rw [hid, hkey]
      exact hsent
    | _ => cases hy'

end Deliver

end TemperatureMonitor
