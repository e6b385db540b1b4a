/-
# What an event owes its record

A reconciliation that ends without error leaves no flag of its event, unless
it finds one set whose effect is marked as done (`runAttempt_settled`): the
handler returns at the marker, before the flag. A crash between the marker and
the flag leaves just that, and every later reconciliation leaves it so
(`stuck_recovery`). Over a session without such a start the flags are exact
(`projection_debt`).
-/
import TemperatureMonitor.Service.ProjectionPaid
import TemperatureMonitor.Service.RecoveryNotice

namespace TemperatureMonitor

theorem mapError_ok {α β γ : Type} {x : Except α γ} {f : α → β} {a : γ} (h : x.mapError f = .ok a) :
    x = .ok a := by
  cases x with
  | error err => cases h
  | ok b =>
    cases h
    rfl

/-! ### A reconciliation without a stale marker -/

/-- The key of an effect on the event. -/
def WriterContext.effectKey (cfg : WriterConfig) (c : WriterContext) (eventId : String)
    (a : AlarmActionType) : Except PyError String :=
  externalEffectKey cfg.digest a eventId (some c.sampleTime) (c.recoveredAt <|> some c.createdAt)
    c.sample c.result

/-- The marker of the action's effect has not succeeded. -/
def EnvironmentEvent.Open (cfg : WriterConfig) (c : WriterContext) (e : EnvironmentEvent)
    (a : AlarmActionType) : Prop :=
  ∀ key, c.effectKey cfg e.eventId a = .ok key →
    succeeded (e.payload.feishuExternalEffects.lookup key) = false

section Rows

variable {cfg : WriterConfig} {c : WriterContext} {e : EnvironmentEvent} {a b : AlarmActionType}
  {rest : List AlarmActionType}
  {key : String}

/-- What is still owed is among `rest`, and open. -/
structure EnvironmentEvent.Owing (cfg : WriterConfig) (c : WriterContext)
    (rest : List AlarmActionType) (e : EnvironmentEvent) : Prop where
  bound : truthy e.payload.feishuRecordId = true
  record : e.payload.boundRecord ≠ none
  own : e.payload.feishuSupersededBy = none
  missing : e.payload.feishuRecordMissing = some true → ∀ a, e.owes a = false
  owed : ∀ a, e.owes a = true → a ∈ rest ∧ e.Open cfg c a

/-- An action is on its way, and the others are as before. -/
structure EnvironmentEvent.Working (cfg : WriterConfig) (c : WriterContext) (a : AlarmActionType)
    (rest : List AlarmActionType) (e : EnvironmentEvent) : Prop where
  bound : truthy e.payload.feishuRecordId = true
  record : e.payload.boundRecord ≠ none
  own : e.payload.feishuSupersededBy = none
  there : e.payload.feishuRecordMissing ≠ some true
  owed : ∀ b, e.owes b = true → b ≠ a → b ∈ rest ∧ e.Open cfg c b

/-- The effects of the two actions have keys of their own. -/
theorem effectKey_ne {id : String} {ka kb : String}
    (ha : c.effectKey cfg id .updateAlarmEvent = .ok ka)
    (hb : c.effectKey cfg id .markAlarmRecovered = .ok kb) : ka ≠ kb := by
  unfold WriterContext.effectKey externalEffectKey at ha hb
  dsimp only at ha hb
  split_ifs at ha hb
  rintro rfl
  cases ha
  split at hb
  · have hlists := congrArg String.toList (Except.ok.inj hb)
    simp at hlists
  · cases hb

theorem owes_actions (h : e.owes a = true) : a = .updateAlarmEvent ∨ a = .markAlarmRecovered := by
  cases a with
  | updateAlarmEvent => exact .inl rfl
  | markAlarmRecovered => exact .inr rfl
  | _ => cases h

theorem effectKey_other {id : String} {ka kb : String}
    (ha : a = .updateAlarmEvent ∨ a = .markAlarmRecovered)
    (hb : b = .updateAlarmEvent ∨ b = .markAlarmRecovered) (hne : b ≠ a)
    (hka : c.effectKey cfg id a = .ok ka) (hkb : c.effectKey cfg id b = .ok kb) : kb ≠ ka := by
  obtain rfl | rfl := ha <;> obtain rfl | rfl := hb
  · exact absurd rfl hne
  · exact (effectKey_ne hka hkb).symm
  · exact effectKey_ne hkb hka
  · exact absurd rfl hne

@[simp] theorem marked_owes {merge : Option EffectMarker → EffectMarker} :
    (e.marked key merge).owes b = e.owes b :=
  owes_congr rfl rfl

/-- A marker of another effect leaves an effect open. -/
theorem open_marked {merge : Option EffectMarker → EffectMarker}
    (hne : ∀ kb, c.effectKey cfg e.eventId b = .ok kb → kb ≠ key)
    (h : e.Open cfg c b) : (e.marked key merge).Open cfg c b := by
  intro kb hkb
  show succeeded ((mergeMarker key merge e.payload.feishuExternalEffects).lookup kb) = false
  rw [lookup_mergeMarker, if_neg fun hk => hne kb hkb hk.1]
  exact h kb hkb

/-- An action whose marker has succeeded owes nothing. -/
theorem EnvironmentEvent.Owing.skip (h : e.Owing cfg c (a :: rest))
    (hkey : c.effectKey cfg e.eventId a = .ok key)
    (hm : succeeded (e.payload.feishuExternalEffects.lookup key) = true) : e.Owing cfg c rest := by
  refine ⟨h.bound, h.record, h.own, h.missing, fun b hb => ?_⟩
  obtain ⟨hmem, hopen⟩ := h.owed b hb
  refine ⟨?_, hopen⟩
  rcases List.mem_cons.mp hmem with rfl | hmem
  · rw [hopen key hkey] at hm
    cases hm
  · exact hmem

/-- The marks of a record that is gone: nothing is owed of it. -/
theorem EnvironmentEvent.Owing.gone {merge merge' : Option EffectMarker → EffectMarker}
    (h : e.Owing cfg c (a :: rest)) (hmissing : e.payload.feishuRecordMissing = some true) :
    ((e.marked key merge).marked key merge').Owing cfg c rest := by
  have hnone := h.missing hmissing
  refine ⟨h.bound, h.record, h.own, fun _ b => ?_, fun b hb => ?_⟩
  · simp [hnone b]
  · simp [hnone b] at hb

/-- The mark of an attempt. -/
theorem EnvironmentEvent.Owing.begin {merge : Option EffectMarker → EffectMarker}
    (h : e.Owing cfg c (a :: rest))
    (ha : a = .updateAlarmEvent ∨ a = .markAlarmRecovered)
    (hkey : c.effectKey cfg e.eventId a = .ok key)
    (hthere : e.payload.feishuRecordMissing ≠ some true) :
    (e.marked key merge).Working cfg c a rest := by
  refine ⟨h.bound, h.record, h.own, hthere, fun b hb hne => ?_⟩
  rw [marked_owes] at hb
  obtain ⟨hmem, hopen⟩ := h.owed b hb
  refine ⟨(List.mem_cons.mp hmem).resolve_left hne, open_marked (fun kb hkb => ?_) hopen⟩
  exact effectKey_other ha (owes_actions hb) hne hkey hkb

/-- The flag of an update that is on its way. -/
theorem EnvironmentEvent.Working.pending {snapshot : UpdateSnapshot}
    (h : e.Working cfg c .updateAlarmEvent rest) :
    (e.patch (ProjectionValues.updatePending snapshot).apply).Working cfg c
      .updateAlarmEvent rest := by
  refine ⟨h.bound, h.record, h.own, h.there, fun b hb hne => ?_⟩
  refine h.owed b ?_ hne
  cases b with
  | markAlarmRecovered => exact hb
  | updateAlarmEvent => exact absurd rfl hne
  | _ => cases hb

/-- The end of an action: its marker, then its flag. -/
theorem EnvironmentEvent.Working.settled {merge : Option EffectMarker → EffectMarker}
    (h : e.Working cfg c a rest)
    (ha : a = .updateAlarmEvent ∨ a = .markAlarmRecovered)
    (hkey : c.effectKey cfg e.eventId a = .ok key) :
    ((e.marked key merge).patch (settledBy a).apply).Owing cfg c rest := by
  have howes : ∀ b, ((e.marked key merge).patch (settledBy a).apply).owes b = true →
      e.owes b = true ∧ b ≠ a := by
    intro b hb
    obtain rfl | rfl := ha <;> cases b <;> first | cases hb | exact ⟨hb, by rintro ⟨⟩⟩
  have hthere : ((e.marked key merge).patch (settledBy a).apply).payload.feishuRecordMissing ≠
      some true := by
    obtain rfl | rfl := ha <;> exact h.there
  refine ⟨?_, ?_, ?_, fun hmissing => absurd hmissing hthere, fun b hb => ?_⟩
  · obtain rfl | rfl := ha <;> exact h.bound
  · obtain rfl | rfl := ha <;> exact h.record
  · obtain rfl | rfl := ha <;> exact h.own
  · obtain ⟨hb, hne⟩ := howes b hb
    obtain ⟨hmem, hopen⟩ := h.owed b hb hne
    have hmarked : (e.marked key merge).Open cfg c b :=
      open_marked (fun kb hkb => effectKey_other ha (owes_actions hb) hne hkey hkb) hopen
    refine ⟨hmem, ?_⟩
    obtain rfl | rfl := ha <;> exact hmarked

/-- The end of an action whose record is gone. -/
theorem EnvironmentEvent.Working.deleted {merge : Option EffectMarker → EffectMarker}
    {at_ : DateTime} (h : e.Working cfg c a rest) :
    ((e.recordMissing at_).marked key merge).Owing cfg c rest := by
  have hnone : ∀ b, ((e.recordMissing at_).marked key merge).owes b = false := by
    intro b
    cases b <;> rfl
  refine ⟨h.bound, h.record, h.own, fun _ b => hnone b, fun b hb => ?_⟩
  rw [hnone b] at hb
  cases hb

end Rows

section Runs

variable {t : Transport} {cfg : WriterConfig} {c : WriterContext} {s : Site} {id : String}
  {e : EnvironmentEvent}
  {a : AlarmActionType} {rest : List AlarmActionType}

attribute [local irreducible] Prog.Calls Prog.wp

/-- The row of the event is as `P` says. -/
def RowIs (id : String) (P : EnvironmentEvent → Prop) (s : Site) : Prop :=
  ∃ e, eventById s.events id = some e ∧ P e

theorem writeEvent_returns {w : EventWrite} (he : eventById s.events w.target = some e) :
    Prog.Returns (Answers t cfg.toServiceConfig) (writeEvent w)
      (fun b s' => eventById s'.events w.target = some (w.onRow b e)) s :=
  Prog.returns_perform fun _ _ h => answers_write_row h he

/-- A program of which the rows do not differ. -/
theorem untouched_wp {α : Type} {p : EventProg α} (h : p.Calls fun c => c.touches = false) :
    p.wp (fun _ _ => True) (Answers t cfg.toServiceConfig) (fun _ s' => s'.events = s.events) s :=
  Prog.Calls.wp (I := fun s' : Site => s'.events = s.events) h (fun _ _ _ _ hc hs hd =>
      (answers_untouched hc hd).trans hs)
    (fun _ _ _ _ => trivial) rfl

theorem silent_touches {c : EventCall} (h : c.touches = false) :
    Prog.Calls (fun c => c.touches = false) (.perform c : EventProg c.Answer) :=
  Prog.calls_perform.mpr h

theorem sendUpdate_touches {recordId : String} {m : Measured} :
    (sendUpdate recordId m).Calls fun c => c.touches = false := by
  have hrecord : (updateEventRecord recordId m false).Calls fun c => c.touches = false := by
    refine Prog.calls_bind (silent_touches rfl) fun rows => ?_
    dsimp only
    split_ifs
    · exact Prog.calls_done _
    · refine Prog.calls_bind (Prog.calls_ofExcept _) fun id => ?_
      exact Prog.calls_bind (silent_touches rfl) fun _ => Prog.calls_done _
  refine Prog.calls_bind hrecord fun answer => ?_
  dsimp only
  split_ifs
  · exact Prog.calls_done _
  · exact Prog.calls_done _

theorem sendRecovery_touches {recordId : String} {at_ : DateTime} :
    (sendRecovery recordId at_).Calls fun c => c.touches = false := by
  have hrecord : (recoverEventRecord recordId at_).Calls fun c => c.touches = false :=
    Prog.calls_bind (Prog.calls_ofExcept _) fun id => silent_touches rfl
  refine Prog.calls_bind hrecord fun code => ?_
  split_ifs
  · exact Prog.calls_done _
  · exact Prog.calls_done _

/-- An effect that ends without error has settled its action. -/
theorem runEffect_owing {key : String} {effectAt : DateTime} {send : EventProg Unit}
    (ha : a = .updateAlarmEvent ∨ a = .markAlarmRecovered)
    (hsend : send.Calls fun c => c.touches = false)
    (he : eventById s.events id = some e) (hkey : c.effectKey cfg e.eventId a = .ok key)
    (h : e.Working cfg c a rest) :
    Prog.Returns (Answers t cfg.toServiceConfig) (runEffect id key effectAt (settledBy a) send)
      (fun _ => RowIs id (·.Owing cfg c rest)) s := by
  refine Prog.returns_bind
    (Prog.returns_captured (Prog.wp_mono (untouched_wp hsend) fun ended s1 h1 => ?_))
  rw [← h1] at he
  cases ended with
  | error err =>
    show Prog.Returns _ (failEffect id key effectAt err) _ s1
    unfold failEffect
    split_ifs
    · refine Prog.returns_bind
        (Prog.returns_mono (writeEvent_returns (w := .recordMissing id effectAt) he)
        fun _ s2 h2 => ?_)
      refine Prog.returns_bind
          (Prog.returns_mono (writeEvent_returns (w := .effectSucceeded id key effectAt) h2)
        fun _ s3 h3 => Prog.returns_pure ?_)
      exact ⟨_, h3, h.deleted⟩
    · exact Prog.returns_bind (Prog.returns_any fun _ s2 => Prog.returns_throw _)
  | ok _ =>
    refine Prog.returns_bind
        (Prog.returns_mono (writeEvent_returns (w := .effectSucceeded id key effectAt) he)
      fun _ s2 h2 => ?_)
    refine Prog.returns_bind
        (Prog.returns_mono (writeEvent_returns (w := .patch id (settledBy a)) h2)
      fun _ s3 h3 => Prog.returns_pure ?_)
    exact ⟨_, h3, h.settled ha hkey⟩

/-- A bound event has its record at once. -/
theorem resolveRecordId_bound {device : String} {start : Option DateTime}
    (he : eventById s.events id = some e)
    (hrecord : e.payload.boundRecord ≠ none) : Prog.Returns (Answers t cfg.toServiceConfig)
      (resolveRecordId cfg id device start) (fun record s' =>
        record ≠ none ∧ s'.events = s.events) s := by
  refine Prog.returns_bind (Prog.returns_mono boundRecordId_returns fun record s1 h => ?_)
  obtain ⟨rfl, e', he', hbound⟩ := h
  obtain rfl := Option.some.inj (he'.symm.trans he)
  cases record with
  | some recordId => exact Prog.returns_pure ⟨by simp, rfl⟩
  | none => exact absurd hbound hrecord

theorem handleUpdate_owing {device key : String} {start : DateTime}
    (he : eventById s.events id = some e)
    (hkey : c.effectKey cfg e.eventId .updateAlarmEvent = .ok key)
    (h : e.Working cfg c .updateAlarmEvent rest) :
    Prog.Returns (Answers t cfg.toServiceConfig) (handleUpdate cfg id device key c start)
      (fun _ => RowIs id (·.Owing cfg c rest)) s := by
  have htarget : Prog.Returns (Answers t cfg.toServiceConfig) (updateTarget cfg id device c start)
      (fun _ s' => s'.events = s.events) s := by
    refine Prog.returns_bind
      (Prog.returns_mono (resolveRecordId_bound he h.record) fun record s1 h1 => ?_)
    cases record with
    | some recordId => exact Prog.returns_pure h1.2
    | none => exact absurd rfl h1.1
  refine Prog.returns_bind (Prog.returns_mono htarget fun recordId s1 h1 => ?_)
  rw [← h1] at he
  refine Prog.returns_bind (Prog.returns_mono
    (writeEvent_returns (w := .patch id (.updatePending c.measured.snapshot)) he) fun _ s2 h2 => ?_)
  exact runEffect_owing (.inl rfl) sendUpdate_touches h2 hkey h.pending

theorem handleRecovered_owing {device key : String} {start : Option DateTime}
    (he : eventById s.events id = some e)
    (hkey : c.effectKey cfg e.eventId .markAlarmRecovered = .ok key)
    (h : e.Working cfg c .markAlarmRecovered rest) :
    Prog.Returns (Answers t cfg.toServiceConfig) (handleRecovered cfg id device key c start)
      (fun _ => RowIs id (·.Owing cfg c rest)) s := by
  refine Prog.returns_bind
    (Prog.returns_mono (resolveRecordId_bound he h.record) fun record s1 h1 => ?_)
  obtain ⟨hsome, hsame⟩ := h1
  rw [← hsame] at he
  cases record with
  | none => exact absurd rfl hsome
  | some recordId =>
    have hrun := @runEffect_owing t cfg c s1 id e .markAlarmRecovered rest key c.createdAt
      (sendRecovery recordId (c.recoveredAt.getD c.createdAt)) (.inr rfl)
        sendRecovery_touches he hkey h
    exact hrun

/-- The guard of an effect, and what follows it. -/
theorem guardEffect_owing {write : String → EventProg Unit}
    (ha : a = .updateAlarmEvent ∨ a = .markAlarmRecovered)
    (he : eventById s.events id = some e) (h : e.Owing cfg c (a :: rest))
    (hwrite : ∀ key s' e', c.effectKey cfg e'.eventId a = .ok key →
      eventById s'.events id = some e' →
      e'.Working cfg c a rest → Prog.Returns (Answers t cfg.toServiceConfig) (write key) (fun _ =>
        RowIs id (·.Owing cfg c rest)) s') :
    Prog.Returns (Answers t cfg.toServiceConfig) (guardEffect cfg e a c write) (fun _ =>
      RowIs id (·.Owing cfg c rest)) s := by
  have hid : e.eventId = id := (eventById_mem he).2
  refine Prog.returns_bind (Prog.returns_ofExcept fun key hkey => ?_)
  have hkey : c.effectKey cfg e.eventId a = .ok key := mapError_ok hkey
  refine Prog.returns_bind (Prog.returns_perform fun m s1 hread => ?_)
  have hmarker : s1 = s ∧ m = e.payload.feishuExternalEffects.lookup key := by
    simp only [Answers, getExternalEffect, hid, he] at hread
    exact ⟨hread.2, Except.ok.inj hread.1⟩
  obtain ⟨rfl, rfl⟩ := hmarker
  split_ifs with hm hgone
  · exact Prog.returns_pure ⟨e, he, h.skip hkey hm⟩
  · refine Prog.returns_bind (Prog.returns_mono
      (writeEvent_returns (w := .effectPending e.eventId key a.value c.createdAt) (hid.symm ▸ he))
        fun _ s2 h2 => ?_)
    refine Prog.returns_bind (Prog.returns_mono
      (writeEvent_returns (w := .effectSucceeded e.eventId key c.createdAt) h2) fun _ s3 h3 =>
        Prog.returns_pure ?_)
    have hmissing : e.payload.feishuRecordMissing = some true := by
      refine hgone.resolve_right fun hsuperseded => ?_
      rw [h.own] at hsuperseded
      cases hsuperseded
    exact ⟨_, hid ▸ h3, h.gone hmissing⟩
  · refine Prog.returns_bind (Prog.returns_mono
      (writeEvent_returns (w := .effectPending e.eventId key a.value c.createdAt) (hid.symm ▸ he))
        fun _ s2 h2 => ?_)
    refine hwrite key s2 _ ?_ (hid ▸ h2) (h.begin ha hkey fun hmissing => hgone (.inl hmissing))
    exact hkey

/-- **An action that ends without error owes nothing any more.** -/
theorem handleAlarmAction_owing {action : ApplicationAction}
    (ha : action.actionType = .updateAlarmEvent ∨
    action.actionType = .markAlarmRecovered) (hid : writerEventId action c.transition = some id)
    (h : RowIs id (·.Owing cfg c (action.actionType :: rest)) s) :
    Prog.Returns (Answers t cfg.toServiceConfig) (handleAlarmAction cfg action c) (fun _ =>
      RowIs id (·.Owing cfg c rest)) s := by
  obtain ⟨e, he, h⟩ := h
  unfold handleAlarmAction
  refine Prog.returns_bind (Prog.returns_ofExcept fun device _ => ?_)
  rw [hid]
  refine Prog.returns_bind (Prog.returns_perform fun found s1 hread => ?_)
  obtain ⟨hfound, rfl⟩ := hread
  obtain rfl := Except.ok.inj hfound
  rw [he]
  dsimp only
  split_ifs
  · exact Prog.returns_throw _
  · unfold handleEventAction
    split
    · exact Prog.returns_throw _
    · have heid : e.eventId = id := (eventById_mem he).2
      obtain ha | ha := ha
      · rw [ha] at h ⊢
        dsimp only
        split_ifs
        · exact Prog.returns_throw _
        · refine guardEffect_owing (.inl rfl) he h fun key s2 e2 hkey he2 hworking => ?_
          rw [heid]
          exact handleUpdate_owing he2 hkey hworking
      · rw [ha] at h ⊢
        refine guardEffect_owing (.inr rfl) he h fun key s2 e2 hkey he2 hworking => ?_
        rw [heid]
        exact handleRecovered_owing he2 hkey hworking

/-- The actions of a sample or a reconciliation, one after the other; if all
of them succeed, nothing is owed. -/
theorem executeEvents_owing {n : NotificationContext} :
    ∀ {actions : List ApplicationAction} {s : Site},
    (∀ x ∈ actions, (x.actionType = .updateAlarmEvent ∨ x.actionType = .markAlarmRecovered) ∧
      writerEventId x c.transition = some id) →
        RowIs id (·.Owing cfg c (actions.map (·.actionType))) s →
      Prog.Returns (Answers t cfg.toServiceConfig) (executeEvents cfg c n actions)
        (fun executions s' => (∀ x ∈ executions, x.2 = .ok ()) → RowIs id (·.Owing cfg c []) s') s
  | [], s, _, h => Prog.returns_pure fun _ => h
  | x :: rest, s, hall, h => by
    obtain ⟨htype, hid⟩ := hall x List.mem_cons_self
    have hhandler : handlerOf cfg c n x = handleAlarmAction cfg x c := by
      unfold handlerOf
      rw [if_pos]
      obtain htype | htype := htype <;> rw [htype] <;> exact .inl rfl
    have hhead : Prog.Returns (Answers t cfg.toServiceConfig) (handlerOf cfg c n x)
        (fun _ => RowIs id (·.Owing cfg c (rest.map (·.actionType)))) s := by
      rw [hhandler]
      exact handleAlarmAction_owing htype hid h
    refine Prog.returns_bind (Prog.returns_captured (Prog.wp_mono hhead fun ended s1 h1 => ?_))
    cases ended with
    | error err =>
      refine Prog.returns_bind (Prog.returns_any fun others s2 => Prog.returns_pure fun hok => ?_)
      cases hok _ List.mem_cons_self
    | ok _ =>
      refine Prog.returns_bind (Prog.returns_mono
        (executeEvents_owing (fun y hy => hall y (List.mem_cons_of_mem _ hy)) (h1 () rfl))
          fun others s2 h2 => ?_)
      exact Prog.returns_pure fun hok => h2 fun y hy => hok y (List.mem_cons_of_mem _ hy)

/-- Where no execution is raised, all of them succeeded. -/
theorem raiseFailed_returns : ∀ {executions : List EventExecution},
    Prog.Returns (Answers t cfg.toServiceConfig) (raiseFailed executions)
      (fun _ s' => s' = s ∧ ∀ x ∈ executions, x.2 = .ok ()) s
  | [] => Prog.returns_pure ⟨rfl, fun x hx => absurd hx List.not_mem_nil⟩
  | (_, .ok ()) :: rest => by
    refine Prog.returns_mono (@raiseFailed_returns rest) fun _ s' h => ⟨h.1, fun x hx => ?_⟩
    rcases List.mem_cons.mp hx with rfl | hx
    · rfl
    · exact h.2 x hx
  | (_, .error _) :: _ => Prog.returns_throw _

end Runs

/-! ### The actions of a reconciliation -/

section Owed

variable {emit : Bool} {tr : StateTransition} {device id : String} {e : EnvironmentEvent}
  {mapped enriched : List ApplicationAction}

theorem mapActions_mem {b : AlarmAction} : ∀ {as : List AlarmAction}
    {mapped : List ApplicationAction},
    mapActions emit tr as = .ok mapped → b ∈ as → ∃ xs, mapAction emit tr b = .ok xs ∧
      ∀ a ∈ xs, a ∈ mapped
  | [], _, _, hb => absurd hb List.not_mem_nil
  | c :: as, mapped, h, hb => by
    simp only [mapActions] at h
    split at h
    · cases h
    · rename_i xs hxs
      split at h
      · cases h
      · rename_i rest hrest
        cases h
        rcases List.mem_cons.mp hb with rfl | hb
        · exact ⟨xs, hxs, fun a ha => List.mem_append_left _ ha⟩
        · obtain ⟨ys, hys, hmem⟩ := mapActions_mem hrest hb
          exact ⟨ys, hys, fun a ha => List.mem_append_right _ (hmem a ha)⟩

/-- An update or a recovery is mapped to itself, and at most a message. -/
theorem mapAction_event {b : AlarmAction} {xs : List ApplicationAction}
    (h : mapAction emit tr b = .ok xs)
    (hb : b.actionType = .updateAlarmEvent ∨ b.actionType = .markAlarmRecovered) :
    mapPlain tr.reason b ∈ xs ∧ ∀ a ∈ xs, a.alarmId = b.alarmId ∧
      (a.kind ≠ .notification → a.actionType = b.actionType) := by
  unfold mapAction at h
  obtain hb | hb := hb <;> rw [hb] at h <;> simp only [notificationType] at h
  · cases h
    refine ⟨List.mem_singleton_self _, fun a ha => ?_⟩
    obtain rfl := List.mem_singleton.mp ha
    exact ⟨rfl, fun _ => rfl⟩
  · split_ifs at h
    · cases h
      refine ⟨List.mem_cons_self, fun a ha => ?_⟩
      rcases List.mem_cons.mp ha with rfl | ha
      · exact ⟨rfl, fun _ => rfl⟩
      · obtain rfl := List.mem_singleton.mp ha
        exact ⟨rfl, fun hk => absurd rfl hk⟩
    · cases h
      refine ⟨List.mem_singleton_self _, fun a ha => ?_⟩
      obtain rfl := List.mem_singleton.mp ha
      exact ⟨rfl, fun _ => rfl⟩

theorem enrichReconciliation_alarmId {digest : UpdateMaterial → String} {c : NotificationContext}
    {facts : MonitorSample × ResultDict} {taskId : String} {a a' : ApplicationAction}
    (hid : a.alarmId = some id)
    (h : enrichReconciliation digest c facts taskId (some id) a = .ok a') :
    a'.alarmId = some id := by
  unfold enrichReconciliation at h
  have hsome : (a.alarmId <|> some id) = some id := by rw [hid]; rfl
  rw [hsome] at h
  dsimp only at h
  split_ifs at h
  · cases h
    rfl
  · cases h
    rfl
  · split at h
    · cases h
    · cases h
      rfl
  · cases h
    exact hid

/-- What is owed of a bound event: updates and the recovery, each flag by an action. -/
theorem owedActions_bound (hbound : truthy e.payload.feishuRecordId = true) :
    (∀ b ∈ owedActions device (some id) (some e), b.alarmId = some id ∧
      (b.actionType = .updateAlarmEvent ∨ b.actionType = .markAlarmRecovered)) ∧
      ∀ a, e.owes a = true → ∃ b ∈ owedActions device (some id) (some e), b.actionType = a := by
  have hsource : (sourceAction device (some id) (some e)).actionType = .updateAlarmEvent := by
    unfold sourceAction
    simp [hbound]
  refine ⟨fun b hb => ?_, fun a ha => ?_⟩
  · obtain ⟨-, hid, htype⟩ := mem_owedActions hb
    refine ⟨hid, ?_⟩
    rcases htype with hcreate | hupdate | ⟨hrecovered, -⟩
    · unfold owedActions at hb
      dsimp only at hb
      split_ifs at hb
      · rw [List.mem_singleton.mp hb] at hcreate
        cases hcreate
      · rcases List.mem_cons.mp hb with rfl | hb
        · exact .inl hsource
        · rw [List.mem_singleton.mp hb] at hcreate
          cases hcreate
      · rw [List.mem_singleton.mp hb]
        exact .inl hsource
    · exact .inl hupdate
    · exact .inr hrecovered
  · unfold owedActions
    dsimp only
    obtain rfl | rfl := owes_actions ha
    · have hpending : e.payload.feishuUpdatePending = some true := by
        simpa [EnvironmentEvent.owes] using ha
      split_ifs with hrecovery hupdate
      · exact absurd hpending hupdate.2
      · exact ⟨_, List.mem_cons_self, hsource⟩
      · exact ⟨_, List.mem_singleton_self _, hsource⟩
    · have hrecovery : e.recoveryPending = true := ha
      rw [if_pos hrecovery]
      split_ifs
      · exact ⟨_, List.mem_singleton_self _, rfl⟩
      · exact ⟨_, List.mem_cons_of_mem _ (List.mem_singleton_self _), rfl⟩

/-- What is executed of them. -/
theorem owed_executed {digest : UpdateMaterial → String} {c : NotificationContext}
    {facts : MonitorSample × ResultDict}
    {taskId : String} (hbound : truthy e.payload.feishuRecordId = true)
    (hm : mapActions emit tr (owedActions device (some id) (some e)) = .ok mapped)
    (he : enrichReconciliations digest c facts taskId (some id) mapped = .ok enriched)
    (ids : List String) :
    (∀ a ∈ (attachNotificationTaskMetadata enriched ids (some id)).filter fun a =>
      a.kind ≠ .notification,
      (a.actionType = .updateAlarmEvent ∨ a.actionType = .markAlarmRecovered) ∧
        a.alarmId = some id) ∧
      ∀ a, e.owes a = true → a ∈ ((attachNotificationTaskMetadata enriched ids (some id)).filter
        fun a => a.kind ≠ .notification).map (·.actionType) := by
  obtain ⟨hsound, hcomplete⟩ := @owedActions_bound device id e hbound
  refine ⟨fun a ha => ?_, fun a ha => ?_⟩
  · obtain ⟨hmem, hkind⟩ := List.mem_filter.mp ha
    obtain ⟨a₁, ha₁, hpassed⟩ :=
      forall₂_mem_right (attachNotification_passed enriched ids (some id)) hmem
    obtain ⟨a₂, ha₂, henriched⟩ := forall₂_mem_right (enrichReconciliations_forall₂ he) ha₁
    obtain ⟨b, hb, xs, hxs, hax⟩ := mem_mapActions hm ha₂
    obtain ⟨halarm, htype⟩ := hsound b hb
    obtain ⟨hid, hplain⟩ := (mapAction_event hxs htype).2 a₂ hax
    obtain ⟨htype₁, hkind₁⟩ := enrichReconciliation_type henriched
    have hid₁ : a₁.alarmId = some id := enrichReconciliation_alarmId (hid.trans halarm) henriched
    have hkind₂ : a₂.kind ≠ .notification := by
      rw [← hkind₁, ← hpassed.kind]
      simpa using hkind
    refine ⟨?_, ?_⟩
    · rw [hpassed.actionType, htype₁, hplain hkind₂]
      exact htype
    · rcases hpassed.alarmId with hsame | hnone
      · exact hsame.trans hid₁
      · rw [hid₁] at hnone
        cases hnone
  · obtain ⟨b, hb, rfl⟩ := hcomplete a ha
    obtain ⟨xs, hxs, hall⟩ := mapActions_mem hm hb
    have htype := (hsound b hb).2
    have hplain := (mapAction_event hxs htype).1
    obtain ⟨a₁, ha₁, henriched⟩ :=
      forall₂_mem_left (enrichReconciliations_forall₂ he) (hall _ hplain)
    obtain ⟨htype₁, hkind₁⟩ := enrichReconciliation_type henriched
    obtain ⟨a₂, ha₂, hpassed⟩ :=
      forall₂_mem_left (attachNotification_passed enriched ids (some id)) ha₁
    refine List.mem_map.mpr ⟨a₂, List.mem_filter.mpr ⟨ha₂, ?_⟩, hpassed.actionType.trans htype₁⟩
    have hkind : a₂.kind = kindOf b.actionType := hpassed.kind.trans hkind₁
    rw [hkind]
    obtain htype | htype := htype <;> rw [htype] <;> rfl

end Owed

/-! ### The attempt -/

/-- What the handlers of a reconciliation are given. -/
def ReconcileInput.writerContext (r : ReconcileInput) (device id : String) (e : EnvironmentEvent) :
    WriterContext :=
  reconcileWriterContext r (reconcileContext r device (some id) (some e) none)
    (reconcileSample r device (some e))

/-- No flag of the task's event stands beside the success marker of its effect. -/
def ReconcileInput.Unmarked (cfg : WriterConfig) (r : ReconcileInput) (s : Site) : Prop :=
  ∀ device id e a, r.device cfg.toServiceConfig = some device →
      r.task.payload.localEvent = some id →
    eventById s.events id = some e → e.owes a = true → e.Open cfg (r.writerContext device id e) a

/-- Neither flag is set, and no scan finds the event. -/
def EnvironmentEvent.Settled (e : EnvironmentEvent) : Prop :=
  (∀ a, e.owes a = false) ∧ ∀ audited, pendingExternalBinding audited e = false

theorem settled_of_owes {e : EnvironmentEvent} (hbound : truthy e.payload.feishuRecordId = true)
    (h : ∀ a, e.owes a = false) : e.Settled := by
  refine ⟨h, fun audited => ?_⟩
  have hupdate : e.payload.feishuUpdatePending ≠ some true := by
    simpa [EnvironmentEvent.owes] using h .updateAlarmEvent
  have hrecovery : e.payload.feishuRecoveryPending ≠ some true := by
    simpa [EnvironmentEvent.owes] using h .markAlarmRecovered
  simp [pendingExternalBinding, hbound, hupdate, hrecovery]

theorem EnvironmentEvent.Tracked.truthy {e : EnvironmentEvent} (h : e.Tracked) :
    truthy e.payload.feishuRecordId = true := by
  have hbound := h.bound
  unfold EventPayload.boundRecord createdRecordId at hbound
  split at hbound
  · rename_i recordId hsome
    split_ifs at hbound with hblank
    · exact absurd rfl hbound
    · rw [hsome]
      by_cases hempty : recordId = ""
      · subst hempty
        exact absurd (by decide) hblank
      · simp [TemperatureMonitor.truthy, hempty]
  · exact absurd rfl hbound

section Attempt

variable {t : Transport} {cfg : WriterConfig} {s : Site} {id device : String} {e : EnvironmentEvent}
  {r : ReconcileInput}

attribute [local irreducible] Prog.Calls Prog.wp

theorem prepareNotices_touches {g : Gates} {c : NotificationContext} :
    ∀ actions : List ApplicationAction, (prepareNotices g c actions).Calls fun c =>
      c.touches = false
  | [] => Prog.calls_done _
  | a :: rest => by
    unfold prepareNotices
    split
    · exact prepareNotices_touches rest
    · split_ifs
      · exact prepareNotices_touches rest
      · refine Prog.calls_bind (silent_touches rfl) fun task => ?_
        exact Prog.calls_bind (prepareNotices_touches rest) fun others => Prog.calls_done _

theorem localEvent_strip {p : TaskPayload} (h : p.localEvent = some id) : strip id = id := by
  unfold TaskPayload.localEvent at h
  split at h
  · cases h
  · split_ifs at h
    cases h
    exact strip_strip _

theorem writerEventId_eq {a : ApplicationAction} {tr : TransitionContext} (hid : strip id = id)
    (ha : a.alarmId = some id) (hne : id ≠ "") : writerEventId a tr = some id := by
  unfold writerEventId
  simp [ha, truthy, hne, hid]

theorem runOwed_settled {start : Option DateTime} {state : Option AlarmState} (hid : strip id = id)
    (hne : id ≠ "") (he : eventById s.events id = some e) (ht : e.Tracked)
    (hopen : ∀ a, e.owes a = true → e.Open cfg (r.writerContext device id e) a) :
    Prog.Returns (Answers t cfg.toServiceConfig)
      (runOwed cfg r device (some id) (some e) start state)
      (fun _ => RowIs id (·.Settled)) s := by
  refine Prog.returns_bind (Prog.returns_ofExcept fun mapped hmapped => ?_)
  refine Prog.returns_bind (Prog.returns_ofExcept fun enriched henriched => ?_)
  obtain ⟨hmapped, henriched⟩ := And.intro (mapError_ok hmapped) (mapError_ok henriched)
  refine Prog.returns_bind
    (Prog.wp_mono (untouched_wp (prepareNotices_touches _)) fun ids s1 h1 => ?_)
  intro ids _
  obtain ⟨hsound, hcomplete⟩ := owed_executed ht.truthy hmapped henriched ids
  rw [← h1] at he
  have howing :
      e.Owing cfg (reconcileWriterContext r (reconcileContext r device (some id) (some e) start)
      (reconcileSample r device (some e)))
          (((attachNotificationTaskMetadata enriched ids (some id)).filter
        fun a => a.kind ≠ .notification).map (·.actionType)) :=
    ⟨ht.truthy, ht.bound, ht.own, fun hmissing => absurd hmissing ht.there, fun a ha =>
      ⟨hcomplete a ha, hopen a ha⟩⟩
  refine Prog.returns_bind (Prog.returns_mono (executeEvents_owing
    (fun x hx => ⟨(hsound x hx).1, writerEventId_eq hid (hsound x hx).2 hne⟩) ⟨e, he, howing⟩)
      fun executions s2 h2 => ?_)
  refine Prog.returns_mono raiseFailed_returns fun _ s3 h3 => ?_
  obtain ⟨rfl, hok⟩ := h3
  obtain ⟨e', he', hdone⟩ := h2 hok
  exact ⟨e', he', settled_of_owes hdone.bound fun a => by
    by_contra ha
    exact absurd (hdone.owed a (by simpa using ha)).1 List.not_mem_nil⟩

/-- **An attempt that ends without error leaves no flag**, where it found none
beside its marker. -/
theorem runAttempt_settled (hlocal : r.task.payload.localEvent = some id)
    (he : eventById s.events id = some e) (ht : e.Tracked) (hopen : r.Unmarked cfg s) :
    Prog.Returns (Answers t cfg.toServiceConfig) (runAttempt cfg r) (fun _ =>
      RowIs id (·.Settled)) s := by
  unfold runAttempt
  cases hdevice : r.device cfg.toServiceConfig with
  | none => exact Prog.returns_throw _
  | some device =>
    rw [hlocal]
    refine Prog.returns_bind (Prog.returns_perform fun found s1 hread => ?_)
    obtain ⟨hfound, rfl⟩ := hread
    obtain rfl := Except.ok.inj hfound
    rw [he]
    refine Prog.returns_bind (Prog.returns_ofExcept fun start _ => ?_)
    have hmark : markAttempted e = pure () := by
      unfold markAttempted
      rw [if_neg (by simp [ht.truthy])]
    rw [hmark]
    refine Prog.returns_bind (Prog.returns_pure ?_)
    by_cases hprojected : e.payload.projected = true
    · rw [if_pos hprojected]
      refine Prog.returns_pure ⟨e, he, settled_of_owes ht.truthy fun a => ?_⟩
      unfold EventPayload.projected at hprojected
      cases a <;> simp_all [EnvironmentEvent.owes]
    · rw [if_neg hprojected]
      refine Prog.returns_bind (Prog.returns_perform fun state s2 hread => ?_)
      obtain ⟨-, rfl⟩ := hread
      rw [hlocal]
      exact runOwed_settled (localEvent_strip hlocal) (fun hempty =>
          TaskPayload.strip_localEvent hlocal
        ((localEvent_strip hlocal).trans hempty)) he ht fun a ha =>
          hopen device id e a hdevice hlocal he ha

end Attempt

/-! ### Sessions -/

abbrev DebtSession := Session EventCall EventCall.Answer WriterFailure Unit Site EventWork

abbrev DebtLabel := SessionLabel EventCall EventCall.Answer WriterFailure Unit EventWork

/-- Inline actions, reconciliations and scans, each by its calls; what is not
of the events may be changed by others. -/
abbrev DebtStep (t : Transport) (cfg : WriterConfig) : DebtSession → DebtLabel →
    DebtSession → Prop :=
  SessionStep (EventWork.prog cfg) (Answers t cfg.toServiceConfig) fun s s' => s'.events = s.events

/-- A flag falls only for a write that was accepted, and a reconciliation that
ends without error leaves none. -/
structure DebtExact (t : Transport) (cfg : WriterConfig) (S : DebtSession) : Prop where
  paid : ∀ l S', DebtStep t cfg S l S' → ∀ id e e' a, eventById S.state.events id = some e →
    eventById S'.state.events id = some e' → e'.Tracked → e.owes a = true → e'.owes a = false →
    ∃ R recordId, S.running = some R ∧ e.payload.boundRecord = some recordId ∧
      AcceptedWrite R.made recordId a
  settled : ∀ R w id e a, S.running = some R → R.what = .reconcile w →
      w.task.payload.localEvent = some id →
    eventById R.before.events id = some e → e.Tracked → e.owes a = true →
    (R.rest = .done (.ok ()) → RowIs id (·.Settled) S.state) ∧
      ∀ made s', Prog.Takes (Answers t cfg.toServiceConfig) (runAttempt cfg w.toReconcileInput)
          R.before made
        (.done (.ok ())) s' → RowIs id (·.Settled) s'

/-- A reconciliation is begun only where no flag of its event stands beside the marker of its
effect. -/
def BegunUnmarked (cfg : WriterConfig) (S : DebtSession) (l : DebtLabel) : Prop :=
  ∀ w, l = .begin (.reconcile w) → w.toReconcileInput.Unmarked cfg S.state

section Sessions

variable {t : Transport} {cfg : WriterConfig} {s0 : Site} {S : DebtSession} {ls : List DebtLabel}

/-- What a session has paid for. -/
theorem session_paid (h : Run (DebtStep t cfg) ⟨s0, none⟩ ls S) {l : DebtLabel} {S' : DebtSession}
    (hstep : DebtStep t cfg S l S') {id : String} {e e' : EnvironmentEvent} {a : AlarmActionType}
    (he : eventById S.state.events id = some e) (he' : eventById S'.state.events id = some e')
    (ht : e'.Tracked) (howes : e.owes a = true) (hnot : e'.owes a = false) :
    ∃ R recordId, S.running = some R ∧ e.payload.boundRecord = some recordId ∧
      AcceptedWrite R.made recordId a := by
  have hsame : S'.state.events = S.state.events → False := by
    intro hevents
    rw [hevents, he] at he'
    obtain rfl := Option.some.inj he'
    rw [howes] at hnot
    cases hnot
  have htakes := Session.takes h
  cases hstep with
  | begin what => exact (hsame rfl).elim
  | finish => exact (hsame rfl).elim
  | crash => exact (hsame rfl).elim
  | outside ho => exact (hsame ho).elim
  | @call s s' what before made c next r hd =>
    have hrest : PaysFrom t cfg (.call c next) (s, made) :=
      (htakes _ rfl).recorded.wp (pays_prog what (before, []))
    have hcall := answers_owes hd he he' howes hnot ht
    obtain ⟨recordId, ⟨e₁, he₁, hrecord⟩, haccepted⟩ := hrest.1 id a (owes_actions howes) hcall
    obtain rfl := Option.some.inj (he₁.symm.trans he)
    exact ⟨_, recordId, rfl, hrecord, haccepted⟩

/-- A task whose attempt ends without error ends with its flags lowered. -/
theorem runReconcileTask_settled {w : ReconcileWork} {s : Site} {id : String}
    (h : Prog.Returns (Answers t cfg.toServiceConfig) (runAttempt cfg w.toReconcileInput) (fun _ =>
      RowIs id (·.Settled)) s) :
    Prog.Returns (Answers t cfg.toServiceConfig) (runReconcileTask cfg w) (fun _ =>
      RowIs id (·.Settled)) s := by
  have hrun : Prog.Returns (Answers t cfg.toServiceConfig) (runReconcile cfg w.toReconcileInput)
      (fun _ => RowIs id (·.Settled)) s :=
    Prog.returns_tryCatch h fun err s1 =>
      Prog.returns_bind (Prog.returns_any fun _ s2 => Prog.returns_throw _)
  refine Prog.returns_bind (Prog.returns_captured (Prog.wp_mono hrun fun ended s1 h1 => ?_))
  cases ended with
  | ok _ =>
    have hend : (endTask w none).Calls fun c => c.touches = false :=
      Prog.calls_tryCatch (silent_touches rfl) fun err => by
        split
        · exact Prog.calls_done _
        · exact Prog.calls_done _
        · exact Prog.calls_done _
    refine Prog.wp_mono (untouched_wp hend) fun _ s2 h2 _ _ => ?_
    obtain ⟨e, he, hdone⟩ := h1 () rfl
    exact ⟨e, by rw [h2]; exact he, hdone⟩
  | error err =>
    refine Prog.returns_bind (Prog.returns_any fun row s2 => ?_)
    split_ifs
    · exact Prog.returns_throw _
    · exact Prog.returns_bind (Prog.returns_any fun _ s3 => Prog.returns_throw _)

/-- The start of every reconciliation on its way was unmarked. -/
theorem session_unmarked (h : Run (Guarded (BegunUnmarked cfg) (DebtStep t cfg)) ⟨s0, none⟩ ls S) :
    ∀ R w, S.running = some R → R.what = .reconcile w →
      w.toReconcileInput.Unmarked cfg R.before := by
  refine Run.inv (I := fun S : DebtSession => ∀ R w, S.running = some R → R.what = .reconcile w →
    w.toReconcileInput.Unmarked cfg R.before) (by rintro R w ⟨⟩) (fun S l S' hS hstep => ?_) h
  obtain ⟨hguard, hstep⟩ := hstep
  cases hstep with
  | begin what =>
    rintro R w ⟨⟩ rfl
    exact hguard w rfl
  | @call s s' what before made c next r hd =>
    rintro R w ⟨⟩ hw
    exact hS ⟨what, before, made, .call c next⟩ w rfl hw
  | finish => rintro R w ⟨⟩
  | crash => rintro R w ⟨⟩
  | outside => rintro R w ⟨⟩

/-- **Projection debt is exact** over every session whose reconciliations are
all begun without a stale marker. -/
theorem projection_debt (h : Run (Guarded (BegunUnmarked cfg) (DebtStep t cfg)) ⟨s0, none⟩ ls S) :
    DebtExact t cfg S where
  paid := fun _ _ hstep _ _ _ _ he he' ht howes hnot =>
    session_paid (h.mono fun _ _ _ hs => hs.2) hstep he he' ht howes hnot
  settled := fun R w id e a hR hw hlocal he ht _ => by
    have hattempt := runAttempt_settled (t := t) hlocal he ht (session_unmarked h R w hR hw)
    have htakes := Session.takes (h.mono fun _ _ _ hs => hs.2) R hR
    refine ⟨fun hrest => ?_, fun made s' hends => hends.returns hattempt⟩
    rw [hrest, hw] at htakes
    exact htakes.returns (runReconcileTask_settled hattempt)

end Sessions

/-! ### Two runs -/

/-- A closed event whose record waits for the recovery. -/
def recoveredEvent : EnvironmentEvent :=
  { eventId := "e1", deviceId := "TH-01", eventKey := "ENV:TH-01:0", status := .closed, openedAt := .utc 0
    closedAt := some (.utc 600000000)
    payload := { violationStartedAt := some (.utc 0), feishuRecordId := some "rec1", feishuBindingStatus := some "BOUND"
                 feishuRecoveryPending := some true, feishuRecoveredAt := some (.utc 600000000) } }

def recoveredSite : Site :=
  { service := { events := [recoveredEvent] }
    rows := [{ recordId := "rec1", device := "TH-01", deviceText := "TH-01", startText := "0", startTime := some 0 }] }

/-- The reconciliation of its event, in the hands of the worker at a second. -/
def recoveryWork (second : ℤ) : ReconcileWork :=
  { task := { taskId := "t1", taskType := "RECONCILE_ALARM_EVENT", entityType := "DEVICE", entityId := "TH-01"
              dueAt := .utc 600000000, status := .running, createdAt := .utc 600000000, updatedAt :=
                .utc 600000000
              payload := { localEventId := some "e1" } }
    deviceId := "TH-01", now := .utc (second * 1000000), finishedAt := .utc (second * 1000000) }

def playDebt (S : DebtSession) (turns : List (Turn Unit Empty EventWork)) : DebtSession :=
  S.play (EventWork.prog pilotWriter) (fun _ s c =>
      s.reply pilotWriter.toServiceConfig calmNetwork c)
    (fun other _ => other.elim) turns

theorem playDebt_run (S : DebtSession) (turns : List (Turn Unit Empty EventWork)) :
    ∃ ls, Run (DebtStep (.of (· = calmNetwork)) pilotWriter) S ls (playDebt S turns) :=
  play_session (fun _ s c =>
      reply_answers (P := (· = calmNetwork)) rfl pilotWriter.toServiceConfig s c)
    (fun other => other.elim) turns S

/-- Begun, and lost between the marker of the recovery and its flag; begun again, to its end. -/
def stuckRun : List (Turn Unit Empty EventWork) :=
  [.begin (.reconcile (recoveryWork 601)), .calls () 9, .crash,
    .begin (.reconcile (recoveryWork 700)), .calls () 6]

/-- The second one has ended without error. -/
theorem stuckRun_ends : ∃ R, (playDebt ⟨recoveredSite, none⟩ stuckRun).running = some R ∧
    R.what = .reconcile (recoveryWork 700) ∧
      R.before.events = (playDebt ⟨recoveredSite, none⟩ stuckRun).state.events ∧
    R.rest = .done (.ok ()) := ⟨_, rfl, rfl, rfl, rfl⟩

/-- **A crash between the marker and the flag leaves the flag for good**: the
reconciliation ends without error, and the recovery is still owed. -/
theorem stuck_recovery : ¬ ∀ (t : Transport) (cfg : WriterConfig) (s0 : Site) (S : DebtSession)
    (ls : List DebtLabel), Run (DebtStep t cfg) ⟨s0, none⟩ ls S → DebtExact t cfg S := by
  intro hall
  obtain ⟨ls, hrun⟩ := playDebt_run ⟨recoveredSite, none⟩ stuckRun
  obtain ⟨R, hR, hwhat, hbefore, hrest⟩ := stuckRun_ends
  obtain ⟨e, he, hbound, hthere, hown, hflag⟩ : ∃ e,
      eventById (playDebt ⟨recoveredSite, none⟩ stuckRun).state.events "e1" = some e ∧
          e.payload.boundRecord ≠ none ∧
        e.payload.feishuRecordMissing ≠ some true ∧ e.payload.feishuSupersededBy = none ∧
        e.owes .markAlarmRecovered = true := by
    have hcomputed :
        (eventById (playDebt ⟨recoveredSite, none⟩ stuckRun).state.events "e1").any (fun e =>
        e.payload.boundRecord ≠ none ∧ e.payload.feishuRecordMissing ≠ some true ∧
          e.payload.feishuSupersededBy = none ∧
        e.owes .markAlarmRecovered = true) = true := by decide +kernel
    obtain ⟨e, he, hfacts⟩ := (Option.any_eq_true _ _).mp hcomputed
    exact ⟨e, he, of_decide_eq_true hfacts⟩
  have hlocal : (recoveryWork 700).task.payload.localEvent = some "e1" := by decide +kernel
  obtain ⟨hsettled, -⟩ := (hall _ _ _ _ ls hrun).settled R (recoveryWork 700)
      "e1" e .markAlarmRecovered hR hwhat hlocal
    (hbefore ▸ he) ⟨hbound, hthere, hown⟩ hflag
  obtain ⟨e', he', hdone, -⟩ := hsettled hrest
  obtain rfl := Option.some.inj (he.symm.trans he')
  rw [hdone] at hflag
  cases hflag

/-- The reconciliation once, to its end. -/
def recoveryRunning : Running EventCall EventCall.Answer WriterFailure Unit Site EventWork :=
  { what := .reconcile (recoveryWork 601), before := recoveredSite, rest := EventWork.prog pilotWriter (.reconcile (recoveryWork 601)) }

theorem recoveredSite_unmarked :
    BegunUnmarked pilotWriter ⟨recoveredSite, none⟩ (.begin (.reconcile (recoveryWork 601))) := by
  rintro w hw device id e a - - he - key -
  have hmem := (eventById_mem he).1
  obtain rfl := List.mem_singleton.mp hmem
  rfl

/-- Both flags are down at the end of it. -/
theorem recovery_settles : ∃ S : DebtSession, DebtExact (.of (· = calmNetwork)) pilotWriter S ∧
    (∃ R, S.running = some R ∧ R.rest = .done (.ok ())) ∧
      (eventById S.state.events "e1").any (fun e => e.owes .markAlarmRecovered) = false := by
  obtain ⟨ls, hcalls, hrun⟩ : ∃ ls : List DebtLabel, (∀ l ∈ ls, ∃ c r, l = .call c r) ∧
      Run (DebtStep (.of (· = calmNetwork)) pilotWriter) ⟨recoveredSite, some recoveryRunning⟩ ls
        (recoveryRunning.serve (fun s c => s.reply pilotWriter.toServiceConfig calmNetwork c)
          11 recoveredSite) :=
    serve_run (reply_answers (P := (· = calmNetwork)) rfl pilotWriter.toServiceConfig)
      11 recoveredSite recoveryRunning
  have hguarded :
      Run (Guarded (BegunUnmarked pilotWriter) (DebtStep (.of (· = calmNetwork)) pilotWriter))
      ⟨recoveredSite, some recoveryRunning⟩ ls _ := hrun.guarded fun S l hl w hw => by
    obtain ⟨c, r, rfl⟩ := hcalls l hl
    cases hw
  exact ⟨_, projection_debt (hguarded.cons ⟨recoveredSite_unmarked, .begin _⟩), ⟨_, rfl, rfl⟩, by
    decide +kernel⟩

end TemperatureMonitor
