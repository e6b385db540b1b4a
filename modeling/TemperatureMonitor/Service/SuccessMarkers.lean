/-
# A success marker is permanent

The marker of an external effect is an entry of the JSON payload of its event,
which every operation of the event repository reads and rewrites for its own
purpose. None of them changes a marker once its status is SUCCEEDED
(`KeepsMarkers`). The handlers of the alarm actions and of the messages of an
event read the marker of their effect before anything else, so from then on
they send nothing for it: over every run of handlers, any of them cut short,
with operations of others between them (`success_permanent`).
-/
import TemperatureMonitor.Service.EventPlay
import TemperatureMonitor.Service.EventRows
import TemperatureMonitor.Service.Play
import TemperatureMonitor.Service.WriterCalls

namespace TemperatureMonitor

/-! ### Rows -/

/-- A marker that has succeeded stays as it is. -/
structure KeepsMarkers (e e' : EnvironmentEvent) : Prop where
  eventId : e'.eventId = e.eventId
  marker : ∀ key m, e.payload.feishuExternalEffects.lookup key = some m → m.status = "SUCCEEDED" →
    e'.payload.feishuExternalEffects.lookup key = some m

section Rows

variable {events events' : List EnvironmentEvent} {e e' : EnvironmentEvent} {id : String}

theorem KeepsMarkers.ofEffects (hid : e'.eventId = e.eventId)
    (h : e'.payload.feishuExternalEffects = e.payload.feishuExternalEffects) : KeepsMarkers e e' :=
  ⟨hid, fun key m hm _ => by rw [h]; exact hm⟩

theorem KeepsMarkers.refl (e : EnvironmentEvent) : KeepsMarkers e e := .ofEffects rfl rfl

theorem KeepsMarkers.trans {a b c : EnvironmentEvent} (h : KeepsMarkers a b)
    (h' : KeepsMarkers b c) : KeepsMarkers a c :=
  ⟨h'.eventId.trans h.eventId, fun key m hm hs => h'.marker key m (h.marker key m hm hs) hs⟩

/-- **No write of a row touches a marker that has succeeded.** -/
theorem RowWrite.keepsMarkers (h : RowWrite e e') : KeepsMarkers e e' := by
  cases h with
  | values v => exact .ofEffects rfl (by cases v <;> rfl)
  | bindingPending at_ =>
    have heffects : (e.payload.bindingPending at_).feishuExternalEffects =
        e.payload.feishuExternalEffects := by
      unfold EventPayload.bindingPending
      split_ifs <;> rfl
    exact .ofEffects rfl heffects
  | effect key merge =>
    refine ⟨rfl, fun k m hm hs => ?_⟩
    have hsucceeded : succeeded (e.payload.feishuExternalEffects.lookup k) = true := by
      rw [hm]
      simp [succeeded, hs]
    show (mergeMarker key merge e.payload.feishuExternalEffects).lookup k = some m
    rw [lookup_mergeMarker]
    split_ifs with hk
    · rw [← hk.1, hsucceeded] at hk
      cases hk.2
    · exact hm
  | _ => exact .ofEffects rfl rfl

theorem keepsMarkers_close (at_ : DateTime) (e : EnvironmentEvent) :
    KeepsMarkers e (e.close at_) := by
  unfold EnvironmentEvent.close
  split_ifs
  · exact .refl e
  · exact .ofEffects rfl rfl

theorem UnitRow.keepsMarkers {i : SampleInput} (h : UnitRow i e e') : KeepsMarkers e e' := by
  cases h with
  | same => exact .refl e
  | pending => exact (RowWrite.bindingPending i.now).keepsMarkers
  | measured => exact .ofEffects rfl rfl
  | recovered =>
    unfold EnvironmentEvent.recovered
    split_ifs
    · have hmarked : KeepsMarkers e (e.patch fun p =>
          { p with feishuRecoveryPending := some true, feishuRecoveredAt := some i.now }) :=
            .ofEffects rfl rfl
      exact hmarked.trans (keepsMarkers_close i.now _)
    · exact keepsMarkers_close i.now e

theorem RowsWritten.keepsMarkers (h : RowsWritten events events')
    (he : eventById events id = some e) :
    ∃ e', eventById events' id = some e' ∧ KeepsMarkers e e' :=
  eventById_forall₂ (fun _ _ hk => hk.eventId)
    (h.keeps .refl (fun _ _ _ => .trans) fun _ _ => RowWrite.keepsMarkers) he

end Rows

/-! ### Operations of the repository -/

/-- An operation of the event repository. -/
inductive EventOp
  /-- `create_or_get_active`. -/
  | create (newId deviceId eventKey : String) (openedAt : DateTime) (payload : EventPayload)
  | close (eventId : String) (closedAt : DateTime)
  | write (w : EventWrite)
  /-- `patch_external_projection` with the values of a sample. -/
  | measured (eventId : String) (temperature humidity peakTemperature peakHumidity : Option ℚ)
  /-- `patch_external_projection` with a confirmed recovery. -/
  | recoveryMark (eventId : String) (recoveredAt : DateTime)

def EventOp.apply (events : List EnvironmentEvent) : EventOp →
    Except PyError (List EnvironmentEvent)
  | create newId deviceId eventKey openedAt payload =>
    (createOrGetActive events newId deviceId eventKey openedAt payload).map Prod.fst
  | close eventId closedAt => markRecovered events eventId closedAt
  | write w => w.apply events
  | measured eventId temperature humidity peakTemperature peakHumidity =>
    patchExternalProjection events eventId fun p =>
      { p with temperature, humidity, peakTemperature, peakHumidity }
  | recoveryMark eventId recoveredAt =>
    patchExternalProjection events eventId fun p =>
      { p with feishuRecoveryPending := some true, feishuRecoveredAt := some recoveredAt }

/-- **No operation touches a marker that has succeeded.** -/
theorem EventOp.keepsMarkers {events events' : List EnvironmentEvent} {e : EnvironmentEvent}
    {id : String} {op : EventOp}
    (h : op.apply events = .ok events') (he : eventById events id = some e) :
    ∃ e', eventById events' id = some e' ∧ KeepsMarkers e e' := by
  have hone : ∀ {updated : String} {f : EnvironmentEvent → EnvironmentEvent},
      onEvent events updated f = .ok events' →
      (∀ e, KeepsMarkers e (f e)) → ∃ e', eventById events' id = some e' ∧ KeepsMarkers e e' := by
    intro updated f hf hk
    have hrow := onEvent_row hf he fun e => (hk e).eventId
    split_ifs at hrow
    · exact ⟨_, hrow, hk e⟩
    · exact ⟨_, hrow, .refl e⟩
  cases op with
  | create newId deviceId eventKey openedAt payload =>
    obtain ⟨⟨rows, event⟩, hr, rfl⟩ := map_ok h
    unfold createOrGetActive at hr
    split_ifs at hr
    split at hr
    · cases hr
      exact ⟨e, he, .refl e⟩
    · cases hr
      exact ⟨e, eventById_append he _, .refl e⟩
  | close eventId closedAt => exact hone h fun e => keepsMarkers_close closedAt e
  | write w => exact (EventWrite.rowsWritten h).keepsMarkers he
  | measured => exact hone h fun e => .ofEffects rfl rfl
  | recoveryMark => exact hone h fun e => .ofEffects rfl rfl

/-! ### Sites -/

/-- The marker of an effect of an event. -/
def Site.marker (s : Site) (eventId effectKey : String) : Option EffectMarker :=
  (eventById s.events eventId).bind fun e => e.payload.feishuExternalEffects.lookup effectKey

section Sites

variable {t : Transport} {cfg : ServiceConfig} {s s' : Site} {id key : String} {m : EffectMarker}

/-- Where every row that is there keeps its markers. -/
theorem marker_of_rows (h : ∀ e, eventById s.events id = some e →
    ∃ e', eventById s'.events id = some e' ∧ KeepsMarkers e e')
    (hm : s.marker id key = some m) (hs : m.status = "SUCCEEDED") : s'.marker id key = some m := by
  obtain ⟨e, he, hlookup⟩ := Option.bind_eq_some_iff.mp hm
  obtain ⟨e', he', hk⟩ := h e he
  unfold Site.marker
  rw [he', Option.bind_some]
  exact hk.marker key m hlookup hs

/-- **No call touches a marker that has succeeded.** -/
theorem answers_keepsMarker {c : EventCall} {r : Except WriterFailure c.Answer}
    (h : Answers t cfg s c r s')
    (hm : s.marker id key = some m) (hs : m.status = "SUCCEEDED") : s'.marker id key = some m := by
  refine marker_of_rows (fun e he => ?_) hm hs
  cases hc : c.touches with
  | false =>
    rw [answers_untouched hc h]
    exact ⟨e, he, .refl e⟩
  | true =>
    cases c with
    | localUnit i =>
      simp only [Answers, answered] at h
      split at h
      · rename_i u a hu
        obtain ⟨⟨service, out⟩, hsample, hx⟩ := map_ok hu
        cases hx
        rw [h.2]
        obtain ⟨e', he', hunit⟩ := handleSample_row hsample he
        exact ⟨e', he', hunit.keepsMarkers⟩
      · rw [h.2]
        exact ⟨e, he, .refl e⟩
    | write w =>
      rcases answers_write h with ⟨-, -, -, rfl⟩ | ⟨events, -, -, happly, -, rfl⟩
      · exact ⟨e, he, .refl e⟩
      · exact (EventWrite.rowsWritten happly).keepsMarkers he
    | _ => cases hc

end Sites

/-! ### Handlers -/

/-- The call writes to the remote table or sends a message. -/
def EventCall.remoteWrite : EventCall → Bool
  | .post .. | .update .. | .send .. => true
  | _ => false

/-- The call settles nothing: no marker, and no flag of what is owed. -/
def EventCall.quiet : EventCall → Bool
  | .localUnit _ | .write (.effectSucceeded ..) | .write (.effectFailed ..) | .write
    (.patch _ .updateDone)
  | .write (.patch _ .recoveryDone) => false
  | _ => true

/-- The event is there, and its marker has not succeeded. -/
def Unsettled (eventId effectKey : String) (s : Site) : Prop :=
  ∃ e, eventById s.events eventId = some e ∧
    succeeded (e.payload.feishuExternalEffects.lookup effectKey) = false

section Handlers

-- a program is not run to see what has to hold of it
attribute [local irreducible] Prog.Calls Prog.wp

variable {t : Transport} {cfg : WriterConfig} {s s' : Site} {id key : String} {α : Type}

theorem Unsettled.not_succeeded (h : Unsettled id key s) {m : EffectMarker}
    (hm : s.marker id key = some m) : m.status ≠ "SUCCEEDED" := by
  obtain ⟨e, he, hs⟩ := h
  unfold Site.marker at hm
  rw [he, Option.bind_some] at hm
  rw [hm] at hs
  simpa [succeeded] using hs

/-- A quiet write of a row. -/
theorem onRow_unsettled {w : EventWrite} {b : Bool} {e : EnvironmentEvent}
    (hq : (EventCall.write w).quiet = true)
    (h : succeeded (e.payload.feishuExternalEffects.lookup key) = false) :
    succeeded ((w.onRow b e).payload.feishuExternalEffects.lookup key) = false := by
  cases w with
  | effectSucceeded | effectFailed => cases hq
  | patch id values =>
    cases values with
    | updateDone | recoveryDone => cases hq
    | createAttempted | updatePending | shadowOnly => exact h
  | bindingPending id at_ =>
    show succeeded ((e.payload.bindingPending at_).feishuExternalEffects.lookup key) = false
    unfold EventPayload.bindingPending
    split_ifs <;> exact h
  | reserve id | claim id =>
    unfold EventWrite.onRow
    split_ifs <;> exact h
  | effectPending id key' actionType at_ =>
    show succeeded ((mergeMarker key' _ e.payload.feishuExternalEffects).lookup key) = false
    rw [lookup_mergeMarker]
    split_ifs
    · simp [succeeded]
    · exact h
  | recordMissing | outcome | bind => exact h

theorem answers_unsettled {c : EventCall} {r : Except WriterFailure c.Answer} (hq : c.quiet = true)
    (h : Answers t cfg.toServiceConfig s c r s') (hu : Unsettled id key s) :
    Unsettled id key s' := by
  cases hc : c.touches with
  | false =>
    unfold Unsettled
    rw [answers_untouched hc h]
    exact hu
  | true =>
    cases c with
    | localUnit => cases hq
    | write w =>
      rcases answers_write h with ⟨-, -, -, rfl⟩ | ⟨events, b, hrun, -, -, rfl⟩
      · exact hu
      · obtain ⟨e, he, hs⟩ := hu
        obtain rfl := (eventById_mem he).2
        rcases EventWrite.run_row hrun he with ⟨-, hrow⟩ | ⟨-, hrow⟩
        · exact ⟨_, hrow, onRow_unsettled hq hs⟩
        · rcases hrow with hrow | ⟨-, hrow⟩
          · exact ⟨e, hrow, hs⟩
          · exact ⟨_, hrow, hs⟩
    | _ => cases hc

/-- Remote writes are made for an effect that is not settled. -/
def ForEffect (effect : Option (String × String)) (s : Site) (c : EventCall) : Prop :=
  c.remoteWrite = true → ∃ id key, effect = some (id, key) ∧ Unsettled id key s

/-- The program keeps to it. -/
abbrev KeepsTo (t : Transport) (cfg : WriterConfig) (effect : Option (String × String))
    (p : EventProg α) (s : Site) : Prop :=
  p.wp (ForEffect effect) (Answers t cfg.toServiceConfig) (fun _ _ => True) s

variable {effect : Option (String × String)} {β : Type} {p : EventProg β} {f : β → EventProg α}

/-- A program that has ended. -/
theorem keepsTo_done (r : Except WriterFailure α) : KeepsTo t cfg effect (.done r) s :=
  Prog.wp_done.mpr trivial

theorem keepsTo_silent (h : p.Calls fun c => c.remoteWrite = false) : KeepsTo t cfg effect p s :=
  Prog.Calls.wp (I := fun _ => True) h (fun _ _ _ _ _ _ _ => trivial)
    (fun _ c hc _ hr => by rw [hc] at hr; cases hr) trivial

/-- Quiet calls before what follows. -/
theorem keepsTo_bind (hp : p.Calls fun c => c.quiet = true) (heffect : effect = some (id, key))
    (hu : Unsettled id key s)
    (hf : ∀ a s', Unsettled id key s' → KeepsTo t cfg effect (f a) s') :
    KeepsTo t cfg effect (p >>= f) s := by
  refine Prog.wp_bind.mpr
    (Prog.wp_mono (Prog.Calls.wp (I := Unsettled id key) hp ?_ ?_ hu) fun r s' hu' => ?_)
  · exact fun s c r s' hq hu hd => answers_unsettled hq hd hu
  · exact fun s c _ hu _ => ⟨id, key, heffect, hu⟩
  · cases r with
    | ok a => exact hf a s' hu'
    | error e => trivial

/-- Every call of the program is quiet. -/
abbrev Quiet (p : EventProg α) : Prop := p.Calls fun c => c.quiet = true

theorem quiet_perform {c : EventCall} (h : c.quiet = true) : Quiet (.perform c) :=
  Prog.calls_perform.mpr h

/-- No program of the writer settles anything before its request. -/
theorem quietCalls : WriterCalls fun c => c.quiet = true where
  event := fun _ => rfl
  readEvents := rfl
  readDevices := rfl
  newOwner := rfl
  claim := fun _ _ _ _ => rfl
  bind := fun _ _ => rfl
  update := fun _ _ => rfl
  reserve := fun _ => rfl
  post := fun _ _ => rfl
  outcome := fun _ _ _ _ => rfl

/-! ### Effects -/

theorem silent_perform {c : EventCall} (h : c.remoteWrite = false) :
    Prog.Calls (fun c => c.remoteWrite = false) (.perform c : EventProg c.Answer) :=
  Prog.calls_perform.mpr h

/-- What follows a request writes nothing remote. -/
theorem runEffect_keepsTo {eventId effectKey : String} {effectAt : DateTime}
    {done : ProjectionValues}
    {send : EventProg Unit} (hsend : Quiet send) (heffect : effect = some (id, key))
    (hu : Unsettled id key s) :
    KeepsTo t cfg effect (runEffect eventId effectKey effectAt done send) s := by
  refine keepsTo_bind (Prog.calls_captured hsend) heffect hu fun ended s' _ => keepsTo_silent ?_
  cases ended with
  | ok a =>
    refine Prog.calls_bind (silent_perform rfl) fun _ => ?_
    exact Prog.calls_bind (silent_perform rfl) fun _ => Prog.calls_done _
  | error e =>
    show Prog.Calls _ (failEffect eventId effectKey effectAt e)
    unfold failEffect
    split_ifs
    · refine Prog.calls_bind (silent_perform rfl) fun _ => ?_
      exact Prog.calls_bind (silent_perform rfl) fun _ => Prog.calls_done _
    · exact Prog.calls_bind (silent_perform rfl) fun _ => Prog.calls_done _

theorem handleUpdate_keepsTo {eventId device effectKey : String} {c : WriterContext}
    {start : DateTime} (heffect : effect = some (id, key)) (hu : Unsettled id key s) :
    KeepsTo t cfg effect (handleUpdate cfg eventId device effectKey c start) s := by
  unfold handleUpdate
  refine keepsTo_bind (updateTarget_calls quietCalls c) heffect hu fun recordId s1 hu1 => ?_
  refine keepsTo_bind (quiet_perform rfl) heffect hu1 fun _ s2 hu2 => ?_
  exact runEffect_keepsTo (sendUpdate_calls quietCalls.toLookupCalls) heffect hu2

theorem handleRecovered_keepsTo {eventId device effectKey : String} {c : WriterContext}
    {start : Option DateTime} (heffect : effect = some (id, key)) (hu : Unsettled id key s) :
    KeepsTo t cfg effect (handleRecovered cfg eventId device effectKey c start) s := by
  unfold handleRecovered
  refine keepsTo_bind (resolveRecordId_calls quietCalls.toLookupCalls start) heffect hu
    fun recordId s1 hu1 => ?_
  cases recordId with
  | none => exact keepsTo_done _
  | some recordId =>
    refine @runEffect_keepsTo t cfg s1 id key effect eventId effectKey c.createdAt
      .recoveryDone _ ?_ ?_ ?_
    · exact sendRecovery_calls quietCalls.toLookupCalls
    · exact heffect
    · exact hu1

/-! ### The handlers and their effects -/

/-- The effect of an update or a recovery, given the events it finds. -/
def actionEffect (cfg : WriterConfig) (events : List EnvironmentEvent) (a : ApplicationAction)
    (c : WriterContext) : Option (String × String) :=
  match (writerEventId a c.transition).bind (eventById events) with
  | none => none
  | some e =>
    match externalEffectKey cfg.digest a.actionType e.eventId (some c.sampleTime)
        (c.recoveredAt <|> some c.createdAt)
        c.sample c.result with
    | .ok key => some (e.eventId, key)
    | .error _ => none

/-- The marker of an effect that is read and has not succeeded. -/
theorem getEffect_unsettled {m : Option EffectMarker}
    (h : Answers t cfg.toServiceConfig s (.effect id key) (.ok m) s')
    (hm : succeeded m = false) : s' = s ∧ Unsettled id key s := by
  simp only [Answers, getExternalEffect] at h
  split at h
  · exact absurd h.1 (by simp)
  · rename_i e he
    obtain ⟨hok, hs⟩ := h
    cases hok
    exact ⟨hs, e, he, hm⟩

/-- The guard of an effect: nothing remote is written once its marker has succeeded. -/
theorem guardEffect_keepsTo {e : EnvironmentEvent} {actionType : AlarmActionType}
    {c : WriterContext} {write : String → EventProg Unit}
    (hwrite : ∀ key s, externalEffectKey cfg.digest actionType e.eventId (some c.sampleTime)
      (c.recoveredAt <|> some c.createdAt) c.sample c.result = .ok key → Unsettled e.eventId key s →
      KeepsTo t cfg effect (write key) s)
    (heffect : ∀ key, externalEffectKey cfg.digest actionType e.eventId (some c.sampleTime)
      (c.recoveredAt <|> some c.createdAt) c.sample c.result = .ok key →
        effect = some (e.eventId, key)) :
    KeepsTo t cfg effect (guardEffect cfg e actionType c write) s := by
  unfold guardEffect
  refine Prog.wp_bind.mpr ((Prog.wp_ofExcept _).mpr ?_)
  cases hkey : externalEffectKey cfg.digest actionType e.eventId (some c.sampleTime)
      (c.recoveredAt <|> some c.createdAt)
      c.sample c.result with
  | error err => trivial
  | ok key =>
    refine Prog.wp_bind.mpr (Prog.wp_perform.mpr ⟨fun hr => by (cases hr), fun r s1 hread => ?_⟩)
    cases r with
    | error err => trivial
    | ok m =>
      show KeepsTo t cfg effect (if succeeded m then _ else _) s1
      by_cases hm : succeeded m = true
      · rw [if_pos hm]
        exact keepsTo_done _
      · rw [if_neg hm]
        obtain ⟨rfl, hu⟩ := getEffect_unsettled hread (by simpa using hm)
        refine keepsTo_bind (quiet_perform rfl) (heffect key hkey) hu fun _ s2 hu2 => ?_
        split_ifs
        · exact keepsTo_silent (Prog.calls_bind (silent_perform rfl) fun _ => Prog.calls_done _)
        · exact hwrite key s2 hkey hu2

/-- **An alarm action writes nothing remote once the marker of its effect has succeeded.** -/
theorem handleAlarmAction_keepsTo {a : ApplicationAction} {c : WriterContext}
    (ha : a.actionType = .updateAlarmEvent ∨ a.actionType = .markAlarmRecovered) :
    KeepsTo t cfg (actionEffect cfg s.events a c) (handleAlarmAction cfg a c) s := by
  unfold handleAlarmAction
  refine Prog.wp_bind.mpr ((Prog.wp_ofExcept _).mpr ?_)
  cases (requiredId a.deviceId "device_id").map cfg.upper with
  | error err => trivial
  | ok device =>
    rw [Prog.followed_ok]
    cases hid : writerEventId a c.transition with
    | none =>
      dsimp only
      split_ifs
      · exact keepsTo_done _
      · exact keepsTo_done _
    | some eventId =>
      refine Prog.wp_bind.mpr (Prog.wp_perform.mpr ⟨fun hr => by (cases hr), fun r s1 hread => ?_⟩)
      obtain ⟨rfl, rfl⟩ := hread
      cases he : eventById s1.events eventId with
      | none => exact keepsTo_done _
      | some e =>
        have heffect :
            ∀ key, externalEffectKey cfg.digest a.actionType e.eventId (some c.sampleTime)
            (c.recoveredAt <|> some c.createdAt) c.sample c.result = .ok key →
            actionEffect cfg s1.events a c = some (e.eventId, key) := by
          intro key hkey
          unfold actionEffect
          rw [hid, Option.bind_some, he]
          dsimp only
          rw [hkey]
        show KeepsTo t cfg _ (if cfg.upper (strip e.deviceId) ≠ device then _ else _) s1
        split_ifs
        · exact keepsTo_done _
        · unfold handleEventAction
          split
          · exact keepsTo_done _
          · rename_i tr _
            rcases ha with ha | ha
            · rw [ha]
              dsimp only
              split_ifs
              · exact keepsTo_done _
              · rw [ha] at heffect
                exact guardEffect_keepsTo (fun key s2 hkey hu =>
                  handleUpdate_keepsTo (heffect key hkey) hu) heffect
            · rw [ha]
              rw [ha] at heffect
              exact guardEffect_keepsTo (fun key s2 hkey hu =>
                handleRecovered_keepsTo (heffect key hkey) hu) heffect

/-- **A message of an event is not sent once its marker has succeeded.** -/
theorem handleNotification_keepsTo {m : Message} {attemptedAt sentAt : DateTime} :
    KeepsTo t cfg (some (m.eventId, m.key)) (handleNotification cfg m attemptedAt sentAt) s := by
  unfold handleNotification
  refine Prog.wp_bind.mpr (Prog.wp_perform.mpr ⟨fun hr => by (cases hr), fun r s1 hread => ?_⟩)
  obtain ⟨rfl, rfl⟩ := hread
  cases eventById s1.events m.eventId with
  | none => exact keepsTo_done _
  | some e =>
    show KeepsTo t cfg _ (if strip (e.payload.feishuRecordId.getD "") = "" then _ else _) s1
    split_ifs
    · exact keepsTo_done _
    · refine Prog.wp_bind.mpr (Prog.wp_perform.mpr ⟨fun hr => by (cases hr), fun r s2 hread => ?_⟩)
      cases r with
      | error err => trivial
      | ok marker =>
        show KeepsTo t cfg _ (if succeeded marker then _ else _) s2
        by_cases hm : succeeded marker = true
        · rw [if_pos hm]
          exact keepsTo_done _
        · rw [if_neg hm]
          obtain ⟨rfl, hu⟩ := getEffect_unsettled hread (by simpa using hm)
          refine keepsTo_bind
            (Prog.calls_captured (resolveRecipient_calls (fun _ => rfl) (fun _ => rfl) _ e)) rfl hu
            fun found s3 hu3 => ?_
          cases found with
          | error err =>
            exact keepsTo_silent (Prog.calls_bind (silent_perform rfl) fun _ => Prog.calls_done _)
          | ok recipient =>
            refine keepsTo_bind (quiet_perform rfl) rfl hu3 fun _ s4 hu4 => ?_
            refine keepsTo_bind (quiet_perform rfl) rfl hu4 fun outcome s5 _ => keepsTo_silent ?_
            split
            · exact Prog.calls_bind (silent_perform rfl) fun _ => Prog.calls_done _
            · exact Prog.calls_bind (silent_perform rfl) fun _ => Prog.calls_done _

end Handlers

/-! ### Runs -/

/-- A handler at work: on an alarm action, or on the message of an event. -/
inductive EffectWork
  | action (a : ApplicationAction) (c : WriterContext)
  | notice (m : Message) (attemptedAt sentAt : DateTime)

def EffectWork.prog (cfg : WriterConfig) : EffectWork → EventProg Unit
  | action a c => handleAlarmAction cfg a c
  | notice m attemptedAt sentAt => handleNotification cfg m attemptedAt sentAt

/-- The event and the key of its effect, given the events it finds. -/
def EffectWork.effect (cfg : WriterConfig) (events : List EnvironmentEvent) : EffectWork →
    Option (String × String)
  | action a c => actionEffect cfg events a c
  | notice m .. => some (m.eventId, m.key)

/-- The work has a marker; the CREATE of an event is known by its binding instead. -/
def EffectWork.Marked : EffectWork → Prop
  | action a _ => a.actionType = .updateAlarmEvent ∨ a.actionType = .markAlarmRecovered
  | notice .. => True

/-- Others change the events by the operations of their repository, and
everything else as they like. -/
def EventOutside (s s' : Site) : Prop :=
  s'.events = s.events ∨ ∃ op, EventOp.apply s.events op = .ok s'.events

abbrev EffectSession := Session EventCall EventCall.Answer WriterFailure Unit Site EffectWork

abbrev EffectLabel := SessionLabel EventCall EventCall.Answer WriterFailure Unit EffectWork

abbrev EffectStep (t : Transport) (cfg : WriterConfig) : EffectSession → EffectLabel →
    EffectSession → Prop :=
  SessionStep (EffectWork.prog cfg) (Answers t cfg.toServiceConfig) EventOutside

section Runs

variable {t : Transport} {cfg : WriterConfig} {s s' : Site} {id key : String} {m : EffectMarker}

/-- What others do leaves a marker that has succeeded. -/
theorem outside_keepsMarker (h : EventOutside s s') (hm : s.marker id key = some m)
    (hs : m.status = "SUCCEEDED") : s'.marker id key = some m := by
  refine marker_of_rows (fun e he => ?_) hm hs
  rcases h with hsame | ⟨op, hop⟩
  · exact ⟨e, by rw [hsame]; exact he, .refl e⟩
  · exact op.keepsMarkers hop he

/-- **One step leaves a marker that has succeeded.** -/
theorem step_keepsMarker {S S' : EffectSession} {l : EffectLabel} (h : EffectStep t cfg S l S')
    (hm : S.state.marker id key = some m) (hs : m.status = "SUCCEEDED") :
    S'.state.marker id key = some m := by
  cases h with
  | begin | finish | crash => exact hm
  | call hd => exact answers_keepsMarker hd hm hs
  | outside ho => exact outside_keepsMarker ho hm hs

theorem EffectWork.keepsTo {w : EffectWork} (hw : w.Marked) :
    KeepsTo t cfg (w.effect cfg s.events) (w.prog cfg) s := by
  cases w with
  | action a c => exact handleAlarmAction_keepsTo hw
  | notice m attemptedAt sentAt => exact handleNotification_keepsTo

/-- A remote write of a handler is for an effect that is not settled. -/
theorem running_forEffect {S : EffectSession} {ls : List EffectLabel} {s0 : Site}
    (h : Run (EffectStep t cfg) ⟨s0, none⟩ ls S)
    {R : Running EventCall EventCall.Answer WriterFailure Unit Site EffectWork}
    (hR : S.running = some R)
    (hw : R.what.Marked) {c : EventCall} {next : Except WriterFailure c.Answer → EventProg Unit}
    (hc : R.rest = .call c next) (hr : c.remoteWrite = true) :
    ∃ id key, R.what.effect cfg R.before.events = some (id, key) ∧ Unsettled id key S.state := by
  have htakes := Session.takes h R hR
  have hrest : KeepsTo t cfg (R.what.effect cfg R.before.events) R.rest S.state :=
    htakes.wp (EffectWork.keepsTo hw)
  rw [hc] at hrest
  exact hrest.1 hr

/-- **A marker that has succeeded is never changed or removed, and no handler
writes or sends anything for its effect again.** -/
theorem success_permanent {s0 : Site} {S S' : EffectSession} {ls ls' : List EffectLabel}
    (h : Run (EffectStep t cfg) ⟨s0, none⟩ ls S) (hm : S.state.marker id key = some m)
    (hs : m.status = "SUCCEEDED") (h' : Run (EffectStep t cfg) S ls' S') :
    S'.state.marker id key = some m ∧
      ∀ R, S'.running = some R → R.what.Marked → ∀ c next, R.rest = .call c next →
        c.remoteWrite = true →
        ∃ effect, R.what.effect cfg R.before.events = some effect ∧ effect ≠ (id, key) := by
  have hkept : S'.state.marker id key = some m :=
    Run.inv (I := fun S => S.state.marker id key = some m) hm (fun _ _ _ hm hstep =>
      step_keepsMarker hstep hm hs) h'
  refine ⟨hkept, fun R hR hw c next hc hr => ?_⟩
  obtain ⟨id', key', heffect, hu⟩ := running_forEffect (h.append h') hR hw hc hr
  refine ⟨(id', key'), heffect, fun heq => ?_⟩
  obtain ⟨rfl, rfl⟩ := Prod.mk.injEq .. ▸ heq
  exact hu.not_succeeded hkept hs

end Runs

/-! ### A run -/

/-- The pilot with its writer. -/
def pilotWriter : WriterConfig := { pilot with lower := fun text => text, leaseSeconds := 300 }

/-- A network on which everything is answered. -/
def calmNetwork : Weather where
  post := fun rows fields => (.ok (some "rec1"), rows ++ [fields.record "rec1"])

/-- An event with its record. -/
def boundSite : Site :=
  { service := { events := [{ eventId := "e1", deviceId := "TH-01", eventKey := "k1", openedAt := .utc 0
                              payload := { feishuRecordId := some "rec1" } }] } }

def alarmKey : String := "NOTIFY_ALARM:e1"

/-- The alarm message is marked as sent by another worker. -/
def alarmSent (s : Site) : Site :=
  match EventOp.apply s.events (.write (.effectSucceeded "e1" alarmKey (.utc 1))) with
  | .ok events => s.withEvents events
  | .error _ => s

theorem alarmSent_outside (s : Site) : EventOutside s (alarmSent s) := by
  unfold alarmSent
  split
  · rename_i events h
    exact .inr ⟨_, h⟩
  · exact .inl rfl

/-- Its retry reads the marker; then the message of the recovery is about to be sent. -/
def afterSuccess : List (Turn Unit Unit EffectWork) :=
  [.begin (.notice ⟨.notifyAlarm, "e1", alarmKey⟩ (.utc 2) (.utc 3)), .calls () 2, .finish,
    .begin (.notice ⟨.notifyRecovery, "e1", "NOTIFY_RECOVERY:e1:t"⟩ (.utc 4) (.utc 5)), .calls () 4]

def playHandlers (S : EffectSession) (turns : List (Turn Unit Unit EffectWork)) : EffectSession :=
  S.play (EffectWork.prog pilotWriter) (fun _ s c =>
    s.reply pilotWriter.toServiceConfig calmNetwork c) (fun _ s => alarmSent s) turns

theorem playHandlers_run (S : EffectSession) (turns : List (Turn Unit Unit EffectWork)) :
    ∃ ls, Run (EffectStep (.of (· = calmNetwork)) pilotWriter) S ls (playHandlers S turns) :=
  play_session (fun _ s c => reply_answers (P := (· = calmNetwork))
    rfl pilotWriter.toServiceConfig s c) (fun _ s => alarmSent_outside s) turns S

/-- The next call of a session is a remote write. -/
def EffectSession.atRemoteWrite (S : EffectSession) : Bool :=
  match S.running with
  | some ⟨_, _, _, .call c _⟩ => c.remoteWrite
  | _ => false

theorem afterSuccess_permanent : ∃ S S' : EffectSession, ∃ m ls ls',
    Run (EffectStep (.of (· = calmNetwork)) pilotWriter) ⟨boundSite, none⟩ ls S ∧
      S.state.marker "e1" alarmKey = some m ∧
      m.status = "SUCCEEDED" ∧ Run (EffectStep (.of (· = calmNetwork)) pilotWriter) S ls' S' ∧
        S'.atRemoteWrite = true ∧
      S'.state.marker "e1" alarmKey = some m := by
  obtain ⟨ls, h⟩ := playHandlers_run ⟨boundSite, none⟩ [.outside ()]
  obtain ⟨ls', h'⟩ := playHandlers_run (playHandlers ⟨boundSite, none⟩ [.outside ()]) afterSuccess
  have hm : (playHandlers ⟨boundSite, none⟩ [.outside ()]).state.marker "e1" alarmKey =
      some { status := "SUCCEEDED", completedAt := some (.utc 1) } := by decide +kernel
  exact ⟨_, _, _, ls, ls', h, hm, rfl, h', by decide +kernel, (success_permanent h hm rfl h').1⟩

end TemperatureMonitor
