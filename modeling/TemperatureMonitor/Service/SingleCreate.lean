/-
# The order of an attempt to CREATE

A POST stands behind a reservation, which is granted to an event once, and
again only after the outcome of its POST was recorded RETRYABLE
(`answers_attempted`, `reserve_granted`). A handler reserves before it POSTs,
for its own event alone, and records an outcome only of a POST of its own that
failed, as the failure says (`handler_orderly`), whatever it is answered.
-/
import TemperatureMonitor.Library.Pool
import TemperatureMonitor.Service.SuccessMarkers

namespace TemperatureMonitor

/-! ### The attempt of a row -/

/-- The row refuses a reservation for an attempt that is not known to have failed. -/
structure EnvironmentEvent.Attempted (e : EnvironmentEvent) : Prop where
  attempted : e.payload.feishuCreateAttempted = some true
  notRetryable : e.payload.feishuCreateState ≠ some .retryable

/-- The event is there, and its attempt is taken. -/
def AttemptTaken (id : String) (s : Site) : Prop :=
  ∃ e, eventById s.events id = some e ∧ e.Attempted

/-- A RETRYABLE outcome of the event is written. -/
def EventWrite.retries (id : String) : EventWrite → Bool
  | .outcome id' .retryable _ _ => id' = id
  | _ => false

section Rows

variable {e e' : EnvironmentEvent} {b : Bool} {w : EventWrite} {id : String}

theorem EnvironmentEvent.Attempted.refused (h : e.Attempted) : e.payload.postRefused = true := by
  unfold EventPayload.postRefused
  simp [h.attempted, h.notRetryable]

/-- The columns of the attempt are all it depends on. -/
theorem attempted_congr (ha : e'.payload.feishuCreateAttempted = e.payload.feishuCreateAttempted)
    (hs : e'.payload.feishuCreateState = e.payload.feishuCreateState) (h : e.Attempted) :
    e'.Attempted :=
  ⟨ha.trans h.attempted, by rw [hs]; exact h.notRetryable⟩

theorem bindingPending_attempted (at_ : DateTime) (h : e.Attempted) :
    (e.patch (·.bindingPending at_)).Attempted := by
  refine attempted_congr ?_ ?_ h
  · show (e.payload.bindingPending at_).feishuCreateAttempted = _
    unfold EventPayload.bindingPending
    split_ifs <;> rfl
  · show (e.payload.bindingPending at_).feishuCreateState = _
    unfold EventPayload.bindingPending
    split_ifs <;> rfl

/-- Any other write of the row leaves the attempt taken. -/
theorem onRow_attempted (hw : w.retries w.target = false) (h : e.Attempted) :
    (w.onRow b e).Attempted := by
  cases w with
  | patch id values =>
    cases values with
    | createAttempted => exact ⟨rfl, h.notRetryable⟩
    | updatePending | updateDone | recoveryDone | shadowOnly =>
      exact attempted_congr (e := e) rfl rfl h
  | bindingPending id at_ => exact bindingPending_attempted at_ h
  | reserve id =>
    unfold EventWrite.onRow
    split_ifs
    · exact ⟨rfl, by simp [EnvironmentEvent.patch, EventPayload.reserved]⟩
    · exact h
  | claim id =>
    unfold EventWrite.onRow
    split_ifs
    · exact attempted_congr (e := e) rfl rfl h
    · exact h
  | outcome id o error at_ =>
    refine ⟨h.attempted, fun hretry => ?_⟩
    have ho : o =
        .retryable := by simpa [EventWrite.onRow, EnvironmentEvent.released, EnvironmentEvent.patch,
      EventPayload.createOutcome] using hretry
    subst ho
    simp [EventWrite.retries, EventWrite.target] at hw
  | bind id recordId => exact ⟨h.attempted, by simp [EventWrite.onRow, EnvironmentEvent.bound,
      EnvironmentEvent.released, EnvironmentEvent.patch]⟩
  | recordMissing | effectPending | effectSucceeded | effectFailed =>
    exact attempted_congr (e := e) rfl rfl h

theorem close_attempted (at_ : DateTime) (h : e.Attempted) : (e.close at_).Attempted := by
  unfold EnvironmentEvent.close
  split_ifs
  · exact h
  · exact attempted_congr (e := e) rfl rfl h

theorem UnitRow.attempted {i : SampleInput} (hrow : UnitRow i e e') (h : e.Attempted) :
    e'.Attempted := by
  cases hrow with
  | same => exact h
  | pending => exact bindingPending_attempted i.now h
  | measured => exact attempted_congr (e := e) rfl rfl h
  | recovered =>
    unfold EnvironmentEvent.recovered
    split_ifs
    · exact close_attempted i.now (attempted_congr (e := e) rfl rfl h)
    · exact close_attempted i.now h

/-- Any write but a RETRYABLE outcome of the event leaves its attempt taken. -/
theorem write_attempted {events events' : List EnvironmentEvent}
    (hrun : w.run events = .ok (events', b))
    (hw : w.retries id = false) (he : eventById events id = some e) (h : e.Attempted) :
    ∃ e', eventById events' id = some e' ∧ e'.Attempted := by
  obtain rfl := (eventById_mem he).2
  rcases EventWrite.run_row hrun he with ⟨htarget, hrow⟩ | ⟨-, hrow | ⟨-, hrow⟩⟩
  · exact ⟨_, hrow, onRow_attempted (htarget ▸ hw) h⟩
  · exact ⟨e, hrow, h⟩
  · exact ⟨_, hrow, attempted_congr (e := e) rfl rfl h⟩

end Rows

/-- A call that records a RETRYABLE outcome of the event. -/
def EventCall.retries (id : String) : EventCall → Bool
  | .write w => w.retries id
  | _ => false

section Calls

variable {t : Transport} {cfg : ServiceConfig} {s s' : Site} {id : String}

/-- **Only a RETRYABLE outcome gives the attempt back.** -/
theorem answers_attempted {c : EventCall} {r : Except WriterFailure c.Answer}
    (hanswer : Answers t cfg s c r s')
    (hc : c.retries id = false) (h : AttemptTaken id s) : AttemptTaken id s' := by
  obtain ⟨e, he, h⟩ := h
  cases htouch : c.touches with
  | false =>
    refine ⟨e, ?_, h⟩
    rw [answers_untouched htouch hanswer]
    exact he
  | true =>
    cases c with
    | localUnit i =>
      simp only [Answers, answered] at hanswer
      split at hanswer
      · rename_i u answer hu
        obtain ⟨⟨service, out⟩, hsample, hx⟩ := map_ok hu
        cases hx
        obtain ⟨e', he', hunit⟩ := handleSample_row hsample he
        rw [hanswer.2]
        exact ⟨e', he', hunit.attempted h⟩
      · rw [hanswer.2]
        exact ⟨e, he, h⟩
    | write w =>
      rcases answers_write hanswer with ⟨-, -, -, rfl⟩ | ⟨events, b, hrun, -, -, rfl⟩
      · exact ⟨e, he, h⟩
      · exact write_attempted hrun hc he h
    | _ => cases htouch

/-- A reservation that is granted takes an attempt that was not taken. -/
theorem reserve_granted (h : Answers t cfg s (.write (.reserve id)) (.ok true) s') :
    ¬ AttemptTaken id s ∧ AttemptTaken id s' := by
  have hrun : reserveExternalPost s.events id = .ok (s'.events, true) := (answers_write_ok h).1
  unfold reserveExternalPost at hrun
  split at hrun
  · cases hrun
  · rename_i e he
    split_ifs at hrun with hrefused
    · simp at hrun
    · refine ⟨?_, e.patch (·.reserved), answers_write_row h he, rfl, by
        simp [EnvironmentEvent.patch, EventPayload.reserved]⟩
      rintro ⟨e', he', htaken⟩
      obtain rfl := Option.some.inj (he'.symm.trans he)
      exact hrefused htaken.refused

/-- An operation of another than a handler leaves the attempt, unless it records an outcome. -/
theorem EventOp.attempted {events events' : List EnvironmentEvent} {e : EnvironmentEvent}
    {op : EventOp}
    (hop : op.apply events = .ok events') (hretry : ∀ w, op = .write w → w.retries id = false)
    (he : eventById events id = some e) (h : e.Attempted) : ∃ e', eventById events' id = some e' ∧
      e'.Attempted := by
  have hone : ∀ {updated : String} {f : EnvironmentEvent → EnvironmentEvent},
      onEvent events updated f = .ok events' →
      (∀ e, (f e).eventId = e.eventId) → (∀ e : EnvironmentEvent, e.Attempted → (f e).Attempted) →
      ∃ e', eventById events' id = some e' ∧ e'.Attempted := by
    intro updated f hf hid hk
    have hrow := onEvent_row hf he hid
    split_ifs at hrow
    · exact ⟨_, hrow, hk e h⟩
    · exact ⟨_, hrow, h⟩
  cases op with
  | create newId deviceId eventKey openedAt payload =>
    obtain ⟨⟨rows, event⟩, hr, rfl⟩ := map_ok hop
    unfold createOrGetActive at hr
    split_ifs at hr
    split at hr
    · cases hr
      exact ⟨e, he, h⟩
    · cases hr
      exact ⟨e, eventById_append he _, h⟩
  | close eventId closedAt =>
    exact hone hop (fun e => (keepsMarkers_close closedAt e).eventId) fun e =>
      close_attempted closedAt
  | write w =>
    have hfst : (w.run events).map Prod.fst = .ok events' := (EventWrite.run_fst w).trans hop
    obtain ⟨⟨rows, b⟩, hrun, rfl⟩ := map_ok hfst
    exact write_attempted hrun (hretry w rfl) he h
  | measured => exact hone hop (fun _ => rfl) fun e => attempted_congr (e := e) rfl rfl
  | recoveryMark => exact hone hop (fun _ => rfl) fun e => attempted_congr (e := e) rfl rfl

end Calls

/-! ### The attempt of a handler -/

/-- How far a handler is with its CREATE. -/
inductive CreatePhase
  | idle
  | reserved
  | posted (r : Except WriterFailure (Option String))
  | recorded

abbrev EventMade := Made EventCall EventCall.Answer WriterFailure

/-- What a call makes of it. -/
def CreatePhase.next (g : CreatePhase) : EventMade → CreatePhase
  | ⟨.write (.reserve _), .ok true⟩ => .reserved
  | ⟨.post _ _, r⟩ => .posted r
  | ⟨.write (.outcome ..), .ok _⟩ => .recorded
  | _ => g

/-- A POST follows its reservation, and an outcome the failure of the POST, all
for the one event. -/
def CreatePhase.Allows (target : Option String) (g : CreatePhase) : EventCall → Prop
  | .write (.reserve id) => target = some id ∧ g = .idle
  | .post _ _ => g = .reserved
  | .write (.outcome id o _ _) =>
    target = some id ∧ ∃ e, g = .posted (.error e) ∧ o = createFailureOutcome e
  | _ => True

/-- A row that is found is the row of the id. -/
def EventCall.Can : (c : EventCall) → Except WriterFailure c.Answer → Prop
  | .event id, r => ∀ e, r = .ok (some e) → e.eventId = id
  | _, _ => True

/-- The call is no part of an attempt. -/
def EventCall.aside : EventCall → Bool
  | .write (.reserve _) | .write (.outcome ..) | .post .. => false
  | _ => true

theorem answers_can {t : Transport} {cfg : ServiceConfig} {s s' : Site} {c : EventCall}
    {r : Except WriterFailure c.Answer} (h : Answers t cfg s c r s') : c.Can r := by
  cases c with
  | event id =>
    rintro e rfl
    obtain ⟨he, -⟩ := h
    exact (eventById_mem (Except.ok.inj he).symm).2
  | _ => trivial

/-- The program keeps to the order of an attempt. -/
abbrev Orderly {α : Type} (target : Option String) (p : EventProg α) (g : CreatePhase)
    (Q : CreatePhase → Prop) : Prop :=
  p.Obeys EventCall.Can (CreatePhase.Allows target) CreatePhase.next g Q

section Programs

variable {target : Option String} {g : CreatePhase} {cfg : WriterConfig} {α β : Type}
  {p : EventProg α} {f : α → EventProg β}

attribute [local irreducible] Prog.Calls Prog.wp

theorem allows_aside {c : EventCall} (hc : c.aside = true) : g.Allows target c := by
  cases c with
  | write w =>
    cases w with
    | reserve | outcome => cases hc
    | _ => trivial
  | post => cases hc
  | _ => trivial

theorem next_aside {c : EventCall} {r : Except WriterFailure c.Answer} (hc : c.aside = true) :
    g.next ⟨c, r⟩ = g := by
  cases c with
  | write w =>
    cases w with
    | reserve | outcome => cases hc
    | _ => rfl
  | post => cases hc
  | _ => rfl

theorem orderly_aside (h : p.Calls fun c => c.aside = true) : Orderly target p g (· = g) :=
  Prog.Calls.obeys h (fun _ hc => allows_aside hc) fun _ _ hc => next_aside hc

/-- A program that is no part of the attempt, before what follows. -/
theorem orderly_after (h : p.Calls fun c => c.aside = true)
    (hf : ∀ a, Orderly target (f a) g fun _ => True) : Orderly target (p >>= f) g fun _ => True :=
  Prog.obeys_bind (orderly_aside h) (fun a _ hg => hg ▸ hf a) fun _ _ => trivial

/-- And after it. -/
theorem orderly_before (hp : Orderly target p g fun _ => True)
    (hf : ∀ a, (f a).Calls fun c => c.aside = true) : Orderly target (p >>= f) g fun _ => True :=
  Prog.obeys_bind hp (fun a _ _ => Prog.wp_mono (orderly_aside (hf a)) fun _ _ _ => trivial)
    fun _ h => h

theorem orderly_only (h : p.Calls fun c => c.aside = true) : Orderly target p g fun _ => True :=
  Prog.wp_mono (orderly_aside h) fun _ _ _ => trivial

theorem asideCalls : LookupCalls fun c => c.aside = true where
  event := fun _ => rfl
  readEvents := rfl
  readDevices := rfl
  newOwner := rfl
  claim := fun _ _ _ _ => rfl
  bind := fun _ _ => rfl
  update := fun _ _ => rfl

theorem aside_call {c : EventCall} (h : c.aside = true) :
    (.perform c : EventProg c.Answer).Calls fun c => c.aside = true :=
  calls_call h

section Create

variable {eventId device area : String} {start : DateTime} {outcomeAt : Option DateTime}
  {m : Measured} {c : WriterContext}

theorem recoverPost_orderly {e : WriterFailure} :
    Orderly (some eventId) (recoverPost cfg eventId device start outcomeAt e) (.posted (.error e))
      fun _ => True := by
  refine orderly_after (findEvent_calls asideCalls) fun found => ?_
  cases found with
  | some r => exact orderly_only (Prog.calls_done _)
  | none =>
    refine orderly_before (Prog.obeys_perform ⟨rfl, e, rfl, rfl⟩ fun _ _ => trivial) fun _ =>
      Prog.calls_done _

theorem postEvent_orderly {fields : EventFields} :
    Orderly (some eventId) (postEvent cfg eventId device start outcomeAt fields) .idle fun _ =>
      True := by
  refine Prog.wp_bind.mpr (Prog.wp_perform.mpr ⟨⟨rfl, rfl⟩, fun granted g hg => ?_⟩)
  obtain ⟨-, rfl⟩ := hg
  cases granted with
  | error e => trivial
  | ok granted =>
    rw [Prog.followed_ok]
    cases granted with
    | false => exact Prog.wp_done.mpr trivial
    | true =>
      refine Prog.wp_tryCatch.mpr (Prog.wp_perform.mpr ⟨rfl, fun r g hg => ?_⟩)
      obtain ⟨-, rfl⟩ := hg
      cases r with
      | ok recordId => trivial
      | error e => exact recoverPost_orderly

theorem createNew_orderly :
    Orderly (some eventId) (createNew cfg eventId device area start outcomeAt m) .idle fun _ =>
      True := by
  refine orderly_after (aside_call rfl) fun records => ?_
  dsimp only
  split_ifs
  · exact orderly_only (Prog.calls_done _)
  · exact orderly_after (aside_call rfl) fun _ => orderly_only (Prog.calls_done _)
  · exact orderly_after (aside_call rfl) fun _ => postEvent_orderly

theorem createEvent_orderly :
    Orderly (some eventId) (createEvent cfg eventId device area start outcomeAt m) .idle fun _ =>
      True := by
  refine orderly_after (aside_call rfl) fun rows => ?_
  refine orderly_after (Prog.calls_ofExcept _) fun found => ?_
  cases found with
  | some r =>
    exact orderly_only (Prog.calls_bind (ensureDeviceIdText_calls asideCalls r) fun _ =>
      Prog.calls_done _)
  | none =>
    dsimp only
    split
    · exact orderly_only (reuseUnresolved_calls asideCalls _)
    · exact createNew_orderly

theorem handleCreate_orderly :
    Orderly (some eventId) (handleCreate cfg eventId device c start) .idle fun _ => True := by
  refine orderly_after (boundRecordId_calls asideCalls) fun bound => ?_
  cases bound with
  | some recordId => exact orderly_only (Prog.calls_done _)
  | none =>
    refine orderly_after (claimCreate_calls asideCalls) fun _ => ?_
    exact orderly_before createEvent_orderly fun recordId => bindRecord_calls asideCalls recordId

theorem updateTarget_orderly :
    Orderly (some eventId) (updateTarget cfg eventId device c start) .idle fun _ => True := by
  refine orderly_after (resolveRecordId_calls asideCalls _) fun found => ?_
  cases found with
  | some recordId => exact orderly_only (Prog.calls_done _)
  | none =>
    refine orderly_after (claimCreate_calls asideCalls) fun _ => ?_
    refine orderly_before createEvent_orderly fun recordId => ?_
    exact Prog.calls_bind (bindRecord_calls asideCalls recordId) fun _ =>
      boundRecordId_calls asideCalls

theorem runEffect_aside {effectKey : String} {effectAt : DateTime} {done : ProjectionValues}
    {send : EventProg Unit} (hsend : send.Calls fun c => c.aside = true) :
    (runEffect eventId effectKey effectAt done send).Calls fun c => c.aside = true := by
  refine Prog.calls_bind (Prog.calls_captured hsend) fun ended => ?_
  cases ended with
  | ok _ =>
    refine Prog.calls_bind (aside_call rfl) fun _ => ?_
    exact Prog.calls_bind (aside_call rfl) fun _ => Prog.calls_done _
  | error e =>
    show Prog.Calls _ (failEffect eventId effectKey effectAt e)
    unfold failEffect
    split_ifs
    · refine Prog.calls_bind (aside_call rfl) fun _ => ?_
      exact Prog.calls_bind (aside_call rfl) fun _ => Prog.calls_done _
    · exact Prog.calls_bind (aside_call rfl) fun _ => Prog.calls_done _

theorem handleUpdate_orderly {effectKey : String} :
    Orderly (some eventId) (handleUpdate cfg eventId device effectKey c start) .idle fun _ =>
      True := by
  refine orderly_before updateTarget_orderly fun recordId => ?_
  exact Prog.calls_bind (aside_call rfl) fun _ => runEffect_aside (sendUpdate_calls asideCalls)

theorem handleRecovered_aside {effectKey : String} {start : Option DateTime} :
    (handleRecovered cfg eventId device effectKey c start).Calls fun c => c.aside = true := by
  refine Prog.calls_bind (resolveRecordId_calls asideCalls start) fun recordId => ?_
  cases recordId with
  | none => exact Prog.calls_done _
  | some recordId =>
    have hrun :
        (runEffect eventId effectKey c.createdAt .recoveryDone
        (sendRecovery recordId (c.recoveredAt.getD c.createdAt))).Calls
        fun c => c.aside = true := runEffect_aside (sendRecovery_calls asideCalls)
    exact hrun

theorem guardEffect_orderly {e : EnvironmentEvent} {actionType : AlarmActionType}
    {write : String → EventProg Unit}
    (hwrite : ∀ key, Orderly target (write key) .idle fun _ => True) :
    Orderly target (guardEffect cfg e actionType c write) .idle fun _ => True := by
  refine orderly_after (Prog.calls_ofExcept _) fun key => ?_
  refine orderly_after (aside_call rfl) fun marker => ?_
  split_ifs
  · exact orderly_only (Prog.calls_done _)
  · exact orderly_after (aside_call rfl) fun _ =>
      orderly_only (Prog.calls_bind (aside_call rfl) fun _ => Prog.calls_done _)
  · exact orderly_after (aside_call rfl) fun _ => hwrite key

theorem handleEventAction_orderly {actionType : AlarmActionType} {e : EnvironmentEvent} :
    Orderly (some e.eventId) (handleEventAction cfg actionType device c e) .idle fun _ => True := by
  unfold handleEventAction
  split
  · exact orderly_only (Prog.calls_done _)
  · cases actionType with
    | createAlarmEvent => exact handleCreate_orderly
    | updateAlarmEvent =>
      dsimp only
      split_ifs
      · exact orderly_only (Prog.calls_done _)
      · exact guardEffect_orderly fun key => handleUpdate_orderly
    | markAlarmRecovered => exact guardEffect_orderly fun key => orderly_only handleRecovered_aside
    | _ => exact orderly_only (Prog.calls_done _)

theorem handleAlarmAction_orderly {a : ApplicationAction} :
    Orderly (writerEventId a c.transition) (handleAlarmAction cfg a c) .idle fun _ => True := by
  refine orderly_after (Prog.calls_ofExcept _) fun device => ?_
  cases writerEventId a c.transition with
  | none =>
    dsimp only
    split_ifs
    · exact orderly_only (Prog.calls_done _)
    · exact orderly_only (Prog.calls_done _)
  | some eventId =>
    -- the row that is read is the row of the action
    refine Prog.wp_bind.mpr (Prog.wp_perform.mpr ⟨trivial, fun r g hg => ?_⟩)
    obtain ⟨hcan, rfl⟩ := hg
    cases r with
    | error e => trivial
    | ok found =>
      rw [Prog.followed_ok]
      cases found with
      | none => exact Prog.wp_done.mpr trivial
      | some e =>
        obtain rfl : e.eventId = eventId := hcan e rfl
        dsimp only
        split_ifs
        · exact Prog.wp_done.mpr trivial
        · exact handleEventAction_orderly

theorem handleNotification_aside {m : Message} {attemptedAt sentAt : DateTime} :
    (handleNotification cfg m attemptedAt sentAt).Calls fun c => c.aside = true := by
  have hfail : ∀ e, (failNotification m e).Calls fun c => c.aside = true :=
    fun e => Prog.calls_bind (aside_call rfl) fun _ => Prog.calls_done _
  refine Prog.calls_bind (aside_call rfl) fun e => ?_
  cases e with
  | none => exact Prog.calls_done _
  | some e =>
    dsimp only
    split_ifs
    · exact Prog.calls_done _
    · refine Prog.calls_bind (aside_call rfl) fun marker => ?_
      split_ifs
      · exact Prog.calls_done _
      · refine Prog.calls_bind
          (Prog.calls_captured (resolveRecipient_calls (fun _ => rfl) (fun _ => rfl) _ e))
          fun found => ?_
        cases found with
        | error err => exact hfail err
        | ok recipient =>
          refine Prog.calls_bind (aside_call rfl) fun _ => ?_
          refine Prog.calls_bind (aside_call rfl) fun outcome => ?_
          split
          · exact hfail _
          · exact Prog.calls_bind (aside_call rfl) fun _ => Prog.calls_done _

end Create

end Programs

/-- The event whose record a handler may create. -/
def EffectWork.eventId : EffectWork → Option String
  | action a c => writerEventId a c.transition
  | notice .. => none

/-- **Every handler keeps to the order of an attempt.** -/
theorem handler_orderly {cfg : WriterConfig} (w : EffectWork) :
    Orderly w.eventId (w.prog cfg) .idle fun _ => True := by
  cases w with
  | action a c => exact handleAlarmAction_orderly
  | notice m attemptedAt sentAt => exact orderly_only handleNotification_aside

end TemperatureMonitor
