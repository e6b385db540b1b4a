/-
# What is paid before a flag falls

A flag of a bound event says that its record still waits for an update or for
the recovery. It is lowered by the handler of that action alone
(`answers_owes`), and there after the table has accepted the write: whatever
runs, and whatever the network does (`pays_prog`).
-/
import TemperatureMonitor.Service.SuccessMarkers

namespace TemperatureMonitor

/-! ### The flags of a row -/

/-- The row owes its record an update, or the recovery. -/
def EnvironmentEvent.owes (e : EnvironmentEvent) : AlarmActionType → Bool
  | .updateAlarmEvent => e.payload.feishuUpdatePending = some true
  | .markAlarmRecovered => e.payload.feishuRecoveryPending = some true
  | _ => false

/-- The event has a record that is there and its own. -/
structure EnvironmentEvent.Tracked (e : EnvironmentEvent) : Prop where
  bound : e.payload.boundRecord ≠ none
  there : e.payload.feishuRecordMissing ≠ some true
  own : e.payload.feishuSupersededBy = none

/-- The values that lower the flag of an action. -/
def settledBy : AlarmActionType → ProjectionValues
  | .updateAlarmEvent => .updateDone
  | _ => .recoveryDone

section Rows

variable {e e' : EnvironmentEvent} {b : Bool} {w : EventWrite} {t : AlarmActionType}

/-- The flags are read from the payload alone. -/
theorem owes_congr (hu : e'.payload.feishuUpdatePending = e.payload.feishuUpdatePending)
    (hr : e'.payload.feishuRecoveryPending = e.payload.feishuRecoveryPending) :
    e'.owes t = e.owes t := by
  cases t with
  | updateAlarmEvent => simp only [EnvironmentEvent.owes, hu]
  | markAlarmRecovered => simp only [EnvironmentEvent.owes, hr]
  | _ => rfl

/-- A write that lowers a flag of a row that stays tracked is the settlement of its action. -/
theorem onRow_owes (h : e.owes t = true) (h' : (w.onRow b e).owes t = false)
    (ht : (w.onRow b e).Tracked) : w = .patch w.target (settledBy t) := by
  have hsame : (w.onRow b e).payload.feishuUpdatePending = e.payload.feishuUpdatePending →
      (w.onRow b e).payload.feishuRecoveryPending = e.payload.feishuRecoveryPending → False := by
    intro hu hr
    rw [owes_congr hu hr, h] at h'
    cases h'
  cases w with
  | patch id values =>
    cases values with
    | createAttempted | shadowOnly => exact absurd rfl fun heq => hsame heq rfl
    | updatePending snapshot =>
      cases t with
      | updateAlarmEvent =>
        simp [EnvironmentEvent.owes, EventWrite.onRow, EnvironmentEvent.patch,
          ProjectionValues.apply] at h'
      | markAlarmRecovered => exact absurd (h.symm.trans h') (by simp)
      | _ => cases h
    | updateDone =>
      cases t with
      | updateAlarmEvent => rfl
      | markAlarmRecovered => exact absurd (h.symm.trans h') (by simp)
      | _ => cases h
    | recoveryDone =>
      cases t with
      | updateAlarmEvent => exact absurd (h.symm.trans h') (by simp)
      | markAlarmRecovered => rfl
      | _ => cases h
  | recordMissing id at_ => exact absurd rfl ht.there
  | bindingPending id at_ =>
    have hflags : (e.payload.bindingPending at_).feishuUpdatePending =
        e.payload.feishuUpdatePending ∧
        (e.payload.bindingPending at_).feishuRecoveryPending = e.payload.feishuRecoveryPending := by
      unfold EventPayload.bindingPending
      split_ifs <;> exact ⟨rfl, rfl⟩
    exact (hsame hflags.1 hflags.2).elim
  | reserve id | claim id =>
    refine (hsame ?_ ?_).elim
    · unfold EventWrite.onRow
      split_ifs <;> rfl
    · unfold EventWrite.onRow
      split_ifs <;> rfl
  | bind id recordId =>
    cases t with
    | updateAlarmEvent => exact absurd (h.symm.trans h') (by simp)
    | markAlarmRecovered =>
      have hpending : e.payload.feishuRecoveryPending = some true := by
        simpa [EnvironmentEvent.owes] using h
      simp [EventWrite.onRow, EnvironmentEvent.bound, EnvironmentEvent.patch,
          EnvironmentEvent.released,
        EnvironmentEvent.owes, hpending] at h'
    | _ => cases h
  | outcome | effectPending | effectSucceeded | effectFailed => exact (hsame rfl rfl).elim

/-- A local unit lowers no flag. -/
theorem UnitRow.owes {i : SampleInput} (hrow : UnitRow i e e') (h : e.owes t = true) :
    e'.owes t = true := by
  cases hrow with
  | same => exact h
  | pending =>
    have hflags : (e.payload.bindingPending i.now).feishuUpdatePending =
        e.payload.feishuUpdatePending ∧
        (e.payload.bindingPending i.now).feishuRecoveryPending =
          e.payload.feishuRecoveryPending := by
      unfold EventPayload.bindingPending
      split_ifs <;> exact ⟨rfl, rfl⟩
    exact (owes_congr hflags.1 hflags.2).trans h
  | measured => exact (owes_congr rfl rfl).trans h
  | recovered =>
    have hclose : ∀ e : EnvironmentEvent, (e.close i.now).owes t = e.owes t := by
      intro e
      refine owes_congr ?_ ?_
      · unfold EnvironmentEvent.close
        split_ifs <;> rfl
      · unfold EnvironmentEvent.close
        split_ifs <;> rfl
    unfold EnvironmentEvent.recovered
    split_ifs
    · rw [hclose]
      cases t with
      | updateAlarmEvent => exact h
      | markAlarmRecovered => simp [EnvironmentEvent.owes, EnvironmentEvent.patch]
      | _ => cases h
    · exact (hclose e).trans h

end Rows

/-! ### Where a flag is lowered -/

section Calls

variable {t : Transport} {cfg : ServiceConfig} {s s' : Site} {id : String} {e e' : EnvironmentEvent}
  {a : AlarmActionType}

/-- **Only the settlement of an action lowers its flag**, on a row that stays tracked. -/
theorem answers_owes {c : EventCall} {r : Except WriterFailure c.Answer}
    (hanswer : Answers t cfg s c r s')
    (he : eventById s.events id = some e) (he' : eventById s'.events id = some e')
    (h : e.owes a = true)
    (h' : e'.owes a = false) (ht : e'.Tracked) : c = .write (.patch id (settledBy a)) := by
  have hsame : e' = e → False := by
    rintro rfl
    rw [h] at h'
    cases h'
  cases hc : c.touches with
  | false =>
    rw [answers_untouched hc hanswer, he] at he'
    exact (hsame (Option.some.inj he').symm).elim
  | true =>
    cases c with
    | localUnit i =>
      simp only [Answers, answered] at hanswer
      split at hanswer
      · rename_i u answer hu
        obtain ⟨⟨service, out⟩, hsample, hx⟩ := map_ok hu
        cases hx
        obtain ⟨e₁, he₁, hunit⟩ := handleSample_row hsample he
        rw [hanswer.2] at he'
        obtain rfl := Option.some.inj (he₁.symm.trans he')
        rw [hunit.owes h] at h'
        cases h'
      · rw [hanswer.2, he] at he'
        exact (hsame (Option.some.inj he').symm).elim
    | write w =>
      rcases answers_write hanswer with ⟨-, -, -, rfl⟩ | ⟨events, b, hrun, -, -, rfl⟩
      · rw [he] at he'
        exact (hsame (Option.some.inj he').symm).elim
      · have hid := (eventById_mem he).2
        have hnow : eventById events e.eventId = some e' := hid ▸ he'
        rcases EventWrite.run_row hrun (hid.symm ▸ he) with ⟨htarget, hrow⟩ | ⟨-, hrow | ⟨-, hrow⟩⟩
        · obtain rfl := Option.some.inj (hrow.symm.trans hnow)
          rw [onRow_owes h h' ht]
          show EventCall.write (.patch w.target _) = _
          rw [← htarget, hid]
        · exact (hsame (Option.some.inj (hrow.symm.trans hnow)).symm).elim
        · obtain rfl := Option.some.inj (hrow.symm.trans hnow)
          cases ht.own
    | _ => cases hc

end Calls

/-! ### What is paid for it -/

/-- The cells an action writes. -/
def EventFields.For (f : EventFields) : AlarmActionType → Prop
  | .updateAlarmEvent => f.isEmpty = false ∧ ∃ m remote, f = updateFields m false remote
  | _ => ∃ at_ : DateTime, f = { recoveryTime := some (some at_.epochMilliseconds) }

/-- A write of the action to the record was accepted. -/
def AcceptedWrite (made : List (Made EventCall EventCall.Answer WriterFailure)) (recordId : String)
    (a : AlarmActionType) : Prop :=
  ∃ f, EventFields.For f a ∧ ⟨EventCall.update recordId f, .ok (0 : ℤ)⟩ ∈ made

/-- The event is bound to the record. -/
def BoundTo (id recordId : String) (s : Site) : Prop :=
  ∃ e, eventById s.events id = some e ∧ e.payload.boundRecord = some recordId

/-- Before the settlement of an action its write was accepted. -/
def PaidFirst (x : Site × List (Made EventCall EventCall.Answer WriterFailure))
    (c : EventCall) : Prop :=
  ∀ id a, a = .updateAlarmEvent ∨ a = .markAlarmRecovered → c = .write (.patch id (settledBy a)) →
    ∃ recordId, BoundTo id recordId x.1 ∧ AcceptedWrite x.2 recordId a

/-- The call lowers a flag. -/
def EventCall.settles : EventCall → Bool
  | .write (.patch _ .updateDone) | .write (.patch _ .recoveryDone) => true
  | _ => false

theorem paidFirst_silent {x : Site × List (Made EventCall EventCall.Answer WriterFailure)}
    {c : EventCall} (hc : c.settles = false) : PaidFirst x c := by
  rintro id a (rfl | rfl) rfl
  · cases hc
  · cases hc

section Pays

variable {t : Transport} {cfg : WriterConfig} {α β : Type} {p : EventProg α} {f : α → EventProg β}
  {x : Site × List (Made EventCall EventCall.Answer WriterFailure)} {s : Site}
  {made : List (Made EventCall EventCall.Answer WriterFailure)} {id recordId : String}

attribute [local irreducible] Prog.Calls Prog.wp

/-- From here on the program settles only what was paid. -/
abbrev PaysFrom (t : Transport) (cfg : WriterConfig) (p : EventProg α)
    (x : Site × List (Made EventCall EventCall.Answer WriterFailure)) : Prop :=
  p.wp PaidFirst (Prog.recorded (Answers t cfg.toServiceConfig)) (fun _ _ => True) x

/-- The program settles only what was paid. -/
def Pays (t : Transport) (cfg : WriterConfig) (p : EventProg α) : Prop := ∀ x, PaysFrom t cfg p x

theorem pays_silent (h : p.Calls fun c => c.settles = false) : Pays t cfg p := fun _ =>
  Prog.Calls.wp (I := fun _ => True) h (fun _ _ _ _ _ _ _ => trivial) (fun _ _ hc _ =>
    paidFirst_silent hc) trivial

theorem pays_done (r : Except WriterFailure α) : Pays t cfg (.done r) :=
  fun _ => Prog.wp_done.mpr trivial

theorem pays_bind (hp : Pays t cfg p) (hf : ∀ a, Pays t cfg (f a)) :
    Pays t cfg (p >>= f) := fun x =>
  Prog.wp_bind.mpr (Prog.wp_mono (hp x) fun r y _ => by
    cases r with
    | ok a => exact hf a y
    | error e => trivial)

theorem pays_tryCatch {h : WriterFailure → EventProg α} (hp : Pays t cfg p)
    (hh : ∀ e, Pays t cfg (h e)) : Pays t cfg (tryCatch p h) := fun x =>
  Prog.wp_tryCatch.mpr (Prog.wp_mono (hp x) fun r y _ => by
    cases r with
    | ok a => trivial
    | error e => exact hh e y)

theorem pays_captured (hp : Pays t cfg p) : Pays t cfg p.captured := fun x =>
  Prog.wp_captured.mpr (Prog.wp_mono (hp x) fun _ _ _ => trivial)

/-- A program that settles nothing, and what it returns, before what follows. -/
theorem paysFrom_bind {Q : α → Site → Prop} (hp : p.Calls fun c => c.settles = false)
    (hr : Prog.Returns (Answers t cfg.toServiceConfig) p Q x.1)
    (hf : ∀ a y, Q a y.1 → PaysFrom t cfg (f a) y) : PaysFrom t cfg (p >>= f) x := by
  have hwp : p.wp (fun _ _ => True) (Prog.recorded (Answers t cfg.toServiceConfig))
      (fun r y => ∀ a, r = .ok a → Q a y.1) x := Prog.wp_recorded hr
  refine Prog.wp_bind.mpr
    (Prog.wp_mono (Prog.Calls.wp_pre hp hwp fun _ _ hc => paidFirst_silent hc) fun r y hy => ?_)
  cases r with
  | ok a => exact hf a y (hy a rfl)
  | error e => trivial

theorem settlesCalls : WriterCalls fun c => c.settles = false where
  event := fun _ => rfl
  readEvents := rfl
  readDevices := rfl
  newOwner := rfl
  claim := fun _ _ _ _ => rfl
  bind := fun _ _ => rfl
  update := fun _ _ => rfl
  reserve := fun _ => rfl
  post := fun _ _ => rfl
  outcome := fun _ _ _ _ => rfl

/-! ### The record of an action -/

/-- The event is bound as the id says, blanks aside. -/
def BoundAs (id : String) (recordId : Option String) (s : Site) : Prop :=
  ∃ e, eventById s.events id = some e ∧ e.payload.boundRecord = createdRecordId recordId

theorem createdRecordId_idem (recordId : Option String) :
    createdRecordId (createdRecordId recordId) = createdRecordId recordId := by
  cases recordId with
  | none => rfl
  | some recordId =>
    unfold createdRecordId
    by_cases hb : blank recordId = true
    · simp [hb]
    · have hblank : blank (strip recordId) = blank recordId := by simp [blank]
      simp [hb, hblank]

/-- Writes of the row that leave its record. -/
theorem boundAs_write {w : EventWrite} {b : Bool} {s' : Site} {record : Option String}
    (htarget : w.target = id)
    (hkeep : ∀ e : EnvironmentEvent, (w.onRow b e).payload.feishuRecordId =
      e.payload.feishuRecordId)
    (h : Answers t cfg.toServiceConfig s (.write w) (.ok b) s') (hbound : BoundAs id record s) :
    BoundAs id record s' := by
  obtain ⟨e, he, hrecord⟩ := hbound
  refine ⟨w.onRow b e, htarget ▸ answers_write_row h (htarget.symm ▸ he), ?_⟩
  unfold EventPayload.boundRecord
  rw [hkeep]
  exact hrecord

theorem boundRecordId_returns : Prog.Returns (Answers t cfg.toServiceConfig) (boundRecordId id)
    (fun record s' => s' = s ∧ BoundAs id record s') s := by
  refine Prog.returns_bind (Prog.returns_perform fun e s1 h => ?_)
  obtain ⟨he, rfl⟩ := h
  cases e with
  | none => exact Prog.returns_throw _
  | some e =>
    exact Prog.returns_pure ⟨rfl, e, (Except.ok.inj he).symm, (createdRecordId_idem _).symm⟩

theorem bindRecord_returns {record : Option String} :
    Prog.Returns (Answers t cfg.toServiceConfig) (bindRecord id record)
    (fun _ s' => BoundAs id record s') s := by
  unfold bindRecord
  cases hrecord : createdRecordId record with
  | none => exact Prog.returns_throw _
  | some recordId =>
    refine Prog.returns_bind (Prog.returns_perform fun b s1 h => Prog.returns_pure ?_)
    obtain ⟨hrun, -⟩ := answers_write_ok h
    obtain ⟨e, he⟩ : ∃ e, eventById s.events id = some e := by
      have happly : bindExternalRecord s.events id recordId = .ok s1.events := by
        have hfst : ((EventWrite.bind id recordId).run s.events).map Prod.fst = _ :=
          EventWrite.run_fst _
        rw [hrun] at hfst
        exact hfst.symm
      unfold bindExternalRecord at happly
      split_ifs at happly
      split at happly
      · cases happly
      · rename_i e he
        exact ⟨e, he⟩
    refine ⟨e.bound recordId, answers_write_row h he, ?_⟩
    have hidem := createdRecordId_idem record
    rw [hrecord] at hidem ⊢
    exact hidem

theorem resolveRecordId_returns {device : String} {start : Option DateTime} :
    Prog.Returns (Answers t cfg.toServiceConfig) (resolveRecordId cfg id device start)
      (fun record s' => record = none ∨ BoundAs id record s') s := by
  refine Prog.returns_bind (Prog.returns_mono boundRecordId_returns fun record s1 h => ?_)
  cases record with
  | some recordId => exact Prog.returns_pure (.inr h.2)
  | none =>
    cases start with
    | none => exact Prog.returns_pure (.inl rfl)
    | some start =>
      refine Prog.returns_bind (Prog.returns_any fun found s2 => ?_)
      cases found with
      | none => exact Prog.returns_pure (.inl rfl)
      | some r =>
        exact Prog.returns_bind (Prog.returns_mono bindRecord_returns fun _ s3 h =>
          Prog.returns_pure (.inr h))

theorem updateTarget_returns {device : String} {c : WriterContext} {start : DateTime} :
    Prog.Returns (Answers t cfg.toServiceConfig) (updateTarget cfg id device c start)
      (fun record s' => BoundAs id record s') s := by
  refine Prog.returns_bind (Prog.returns_mono resolveRecordId_returns fun record s1 h => ?_)
  cases record with
  | some recordId => exact Prog.returns_pure (h.resolve_left (by simp))
  | none =>
    refine Prog.returns_bind (Prog.returns_any fun _ s2 => ?_)
    refine Prog.returns_bind (Prog.returns_any fun record s3 => ?_)
    refine Prog.returns_bind (Prog.returns_any fun _ s4 => ?_)
    exact Prog.returns_mono boundRecordId_returns fun _ _ h => h.2

/-! ### The handlers -/

/-- What has been paid of an action: its event is bound, and the write accepted. -/
def Paid (id : String) (a : AlarmActionType)
    (x : Site × List (Made EventCall EventCall.Answer WriterFailure)) : Prop :=
  ∃ recordId, BoundTo id recordId x.1 ∧ AcceptedWrite x.2 recordId a

/-- One update of the record, where it is accepted. -/
theorem update_paid {a : AlarmActionType} {raw : String} {f : EventFields}
    {x y : Site × List (Made EventCall EventCall.Answer WriterFailure)}
    {recordId : String} (hbound : BoundAs id (some raw) x.1)
    (hid : requiredId raw "record_id" = .ok recordId) (hf : f.For a)
    (h : Prog.recorded (Answers t cfg.toServiceConfig) x (.update recordId f) (.ok 0) y) :
    Paid id a y := by
  obtain ⟨⟨rows, -, hsite⟩, hmade⟩ := h
  obtain ⟨e, he, hrecord⟩ := hbound
  have hstrip : createdRecordId (some raw) = some recordId := by
    unfold requiredId at hid
    unfold createdRecordId
    by_cases hb : blank raw = true
    · rw [if_pos hb] at hid
      cases hid
    · rw [if_neg hb] at hid
      cases hid
      simp [hb]
  refine ⟨recordId, ⟨e, ?_, hrecord.trans hstrip⟩, f, hf, ?_⟩
  · rw [hsite]
    exact he
  · rw [hmade]
    simp

/-- A request pays for its action, where it does not raise. -/
def Sends (t : Transport) (cfg : WriterConfig) (id : String) (a : AlarmActionType)
    (p : EventProg Unit) (x : Site × List (Made EventCall EventCall.Answer WriterFailure)) : Prop :=
  p.wp PaidFirst (Prog.recorded (Answers t cfg.toServiceConfig)) (fun r y =>
    r = .ok () → Paid id a y) x

theorem sendRecovery_sends {raw : String} {at_ : DateTime}
    {x : Site × List (Made EventCall EventCall.Answer WriterFailure)}
    (hbound : BoundAs id (some raw) x.1) :
    Sends t cfg id .markAlarmRecovered (sendRecovery raw at_) x := by
  unfold Sends sendRecovery recoverEventRecord
  refine Prog.wp_bind.mpr (Prog.wp_bind.mpr ((Prog.wp_ofExcept _).mpr ?_))
  cases hid : requiredId raw "record_id" with
  | error e => rintro ⟨⟩
  | ok recordId =>
    refine Prog.wp_perform.mpr ⟨paidFirst_silent rfl, fun r y h => ?_⟩
    cases r with
    | error e => rintro ⟨⟩
    | ok code =>
      rw [Prog.followed_ok]
      by_cases hcode : code = 0
      · rw [if_neg (by simpa using hcode)]
        subst hcode
        exact (Prog.wp_pure _).mpr fun _ => update_paid hbound hid ⟨at_, rfl⟩ h
      · rw [if_pos hcode]
        exact (Prog.wp_throw _).mpr (by rintro ⟨⟩)

theorem sendUpdate_sends {raw : String} {m : Measured}
    {x : Site × List (Made EventCall EventCall.Answer WriterFailure)}
    (hbound : BoundAs id (some raw) x.1) :
    Sends t cfg id .updateAlarmEvent (sendUpdate raw m) x := by
  unfold Sends sendUpdate updateEventRecord
  refine Prog.wp_bind.mpr
    (Prog.wp_bind.mpr (Prog.wp_perform.mpr ⟨paidFirst_silent rfl, fun r y h => ?_⟩))
  obtain ⟨⟨hsite, -⟩, -⟩ := h
  cases r with
  | error e => rintro ⟨⟩
  | ok rows =>
    rw [← hsite] at hbound
    dsimp only [Prog.followed]
    split_ifs with hempty
    · exact (Prog.wp_pure _).mpr ((Prog.wp_throw _).mpr (by rintro ⟨⟩))
    · refine Prog.wp_bind.mpr ((Prog.wp_ofExcept _).mpr ?_)
      cases hid : requiredId raw "record_id" with
      | error e => rintro ⟨⟩
      | ok recordId =>
        refine Prog.wp_bind.mpr (Prog.wp_perform.mpr ⟨paidFirst_silent rfl, fun r z hz => ?_⟩)
        cases r with
        | error e => rintro ⟨⟩
        | ok code =>
          refine (Prog.wp_pure _).mpr ?_
          rw [Prog.followed_ok]
          by_cases hcode : code = 0
          · rw [if_neg (by simp [hcode])]
            subst hcode
            exact (Prog.wp_pure _).mpr fun _ =>
              update_paid hbound hid ⟨by simpa using hempty, m, _, rfl⟩ hz
          · rw [if_pos (by simp [hcode])]
            exact (Prog.wp_throw _).mpr (by rintro ⟨⟩)

theorem silent_settles {c : EventCall} (h : c.settles = false) :
    Prog.Calls (fun c => c.settles = false) (.perform c : EventProg c.Answer) :=
  Prog.calls_perform.mpr h

/-- The marker, then the flag. -/
theorem runEffect_pays {effectKey : String} {effectAt : DateTime} {a : AlarmActionType}
    {send : EventProg Unit}
    {x : Site × List (Made EventCall EventCall.Answer WriterFailure)}
    (ha : a = .updateAlarmEvent ∨ a = .markAlarmRecovered)
    (hsend : Sends t cfg id a send x) :
    PaysFrom t cfg (runEffect id effectKey effectAt (settledBy a) send) x := by
  refine Prog.wp_bind.mpr (Prog.wp_captured.mpr (Prog.wp_mono hsend fun r y hy => ?_))
  cases r with
  | error e =>
    refine pays_silent (p := failEffect id effectKey effectAt e) ?_ y
    unfold failEffect
    split_ifs
    · refine Prog.calls_bind (silent_settles rfl) fun _ => ?_
      exact Prog.calls_bind (silent_settles rfl) fun _ => Prog.calls_done _
    · exact Prog.calls_bind (silent_settles rfl) fun _ => Prog.calls_done _
  | ok _ =>
    obtain ⟨recordId, hbound, haccepted⟩ := hy rfl
    refine Prog.wp_bind.mpr (Prog.wp_perform.mpr ⟨paidFirst_silent rfl, fun r z hz => ?_⟩)
    cases r with
    | error e => trivial
    | ok b =>
      obtain ⟨hz, hmade⟩ := hz
      have hkept : BoundAs id (some recordId) z.1 := by
        refine boundAs_write rfl (fun e => rfl) hz ?_
        obtain ⟨e, he, hrecord⟩ := hbound
        exact ⟨e, he, by rw [← hrecord]; exact (createdRecordId_idem _).symm⟩
      obtain ⟨f, hf, hmem⟩ := haccepted
      refine Prog.wp_bind.mpr (Prog.wp_perform.mpr ⟨?_, fun r u _ => ?_⟩)
      · intro id' a' ha' hcall
        have hsame : id' = id ∧ a' = a := by
          obtain rfl | rfl := ha <;> obtain rfl | rfl := ha' <;> cases hcall <;> exact ⟨rfl, rfl⟩
        obtain ⟨rfl, rfl⟩ := hsame
        obtain ⟨e, he, hrecord⟩ := hkept
        obtain ⟨e₀, he₀, hrecord₀⟩ := hbound
        refine ⟨recordId, ⟨e, he, ?_⟩, f, hf, ?_⟩
        · rw [hrecord, ← hrecord₀]
          exact createdRecordId_idem _
        · rw [hmade]
          exact List.mem_append_left _ hmem
      · cases r with
        | error e => trivial
        | ok _ => exact Prog.wp_done.mpr trivial

theorem handleUpdate_pays {device effectKey : String} {c : WriterContext} {start : DateTime} :
    Pays t cfg (handleUpdate cfg id device effectKey c start) := by
  intro x
  refine paysFrom_bind (updateTarget_calls settlesCalls c) updateTarget_returns
    fun recordId y hbound => ?_
  refine paysFrom_bind (Q := fun _ s => BoundAs id recordId s) (silent_settles rfl)
    (Prog.returns_perform fun _ s' h => boundAs_write rfl (fun _ => rfl) h hbound) fun _ z hz => ?_
  refine runEffect_pays (.inl rfl) (sendUpdate_sends ?_)
  obtain ⟨e, he, hrecord⟩ := hz
  refine ⟨e, he, hrecord.trans ?_⟩
  cases recordId with
  | none => rfl
  | some recordId => rfl

theorem handleRecovered_pays {device effectKey : String} {c : WriterContext}
    {start : Option DateTime} : Pays t cfg (handleRecovered cfg id device effectKey c start) := by
  intro x
  refine paysFrom_bind (resolveRecordId_calls settlesCalls.toLookupCalls start)
    resolveRecordId_returns fun recordId y hbound => ?_
  cases recordId with
  | none => exact pays_done _ y
  | some recordId =>
    refine @runEffect_pays t cfg id effectKey c.createdAt .markAlarmRecovered _ y ?_ ?_
    · exact .inr rfl
    · exact sendRecovery_sends (hbound.resolve_left (by simp))

theorem guardEffect_pays {e : EnvironmentEvent} {actionType : AlarmActionType} {c : WriterContext}
    {write : String → EventProg Unit} (hwrite : ∀ key, Pays t cfg (write key)) :
    Pays t cfg (guardEffect cfg e actionType c write) := by
  refine pays_bind (pays_silent (Prog.calls_ofExcept _)) fun key => ?_
  refine pays_bind (pays_silent (silent_settles rfl)) fun marker => ?_
  split_ifs
  · exact pays_done _
  · exact pays_bind (pays_silent (silent_settles rfl)) fun _ =>
      pays_bind (pays_silent (silent_settles rfl)) fun _ => pays_done _
  · exact pays_bind (pays_silent (silent_settles rfl)) fun _ => hwrite key

theorem handleCreate_pays {device : String} {c : WriterContext} {start : DateTime} :
    Pays t cfg (handleCreate cfg id device c start) := by
  refine pays_bind (pays_silent (boundRecordId_calls settlesCalls.toLookupCalls)) fun bound => ?_
  cases bound with
  | some recordId => exact pays_done _
  | none =>
    refine pays_bind (pays_silent (claimCreate_calls settlesCalls.toLookupCalls)) fun _ => ?_
    refine pays_bind (pays_silent (createEvent_calls settlesCalls _)) fun recordId => ?_
    exact pays_silent (bindRecord_calls settlesCalls.toLookupCalls recordId)

theorem handleEventAction_pays {actionType : AlarmActionType} {device : String} {c : WriterContext}
    {e : EnvironmentEvent} : Pays t cfg (handleEventAction cfg actionType device c e) := by
  unfold handleEventAction
  split
  · exact pays_done _
  · cases actionType with
    | createAlarmEvent => exact handleCreate_pays
    | updateAlarmEvent =>
      dsimp only
      split_ifs
      · exact pays_done _
      · exact guardEffect_pays fun key => handleUpdate_pays
    | markAlarmRecovered => exact guardEffect_pays fun key => handleRecovered_pays
    | _ => exact pays_done _

theorem handleAlarmAction_pays {a : ApplicationAction} {c : WriterContext} :
    Pays t cfg (handleAlarmAction cfg a c) := by
  refine pays_bind (pays_silent (Prog.calls_ofExcept _)) fun device => ?_
  cases writerEventId a c.transition with
  | none =>
    dsimp only
    split_ifs
    · exact pays_done _
    · exact pays_done _
  | some eventId =>
    refine pays_bind (pays_silent (silent_settles rfl)) fun e => ?_
    cases e with
    | none => exact pays_done _
    | some e =>
      dsimp only
      split_ifs
      · exact pays_done _
      · exact handleEventAction_pays

theorem failNotification_settles {m : Message} {e : WriterFailure} :
    (failNotification m e).Calls fun c => c.settles = false :=
  Prog.calls_bind (silent_settles rfl) fun _ => Prog.calls_done _

theorem handleNotification_settles {m : Message} {attemptedAt sentAt : DateTime} :
    (handleNotification cfg m attemptedAt sentAt).Calls fun c => c.settles = false := by
  refine Prog.calls_bind (silent_settles rfl) fun e => ?_
  cases e with
  | none => exact Prog.calls_done _
  | some e =>
    dsimp only
    split_ifs
    · exact Prog.calls_done _
    · refine Prog.calls_bind (silent_settles rfl) fun marker => ?_
      split_ifs
      · exact Prog.calls_done _
      · refine Prog.calls_bind
          (Prog.calls_captured (resolveRecipient_calls (fun _ => rfl) (fun _ => rfl) _ e))
          fun found => ?_
        cases found with
        | error err => exact failNotification_settles
        | ok recipient =>
          refine Prog.calls_bind (silent_settles rfl) fun _ => ?_
          refine Prog.calls_bind (silent_settles rfl) fun outcome => ?_
          split
          · exact failNotification_settles
          · exact Prog.calls_bind (silent_settles rfl) fun _ => Prog.calls_done _

theorem handlerOf_pays {c : WriterContext} {n : NotificationContext} {a : ApplicationAction} :
    Pays t cfg (handlerOf cfg c n a) := by
  unfold handlerOf
  split_ifs
  · exact handleAlarmAction_pays
  · split
    · exact pays_done _
    · exact pays_done _
  · split
    · split_ifs
      · exact pays_silent (silent_settles rfl)
      · exact pays_silent handleNotification_settles
    · exact pays_done _

theorem executeEvents_pays {c : WriterContext} {n : NotificationContext} :
    ∀ actions : List ApplicationAction, Pays t cfg (executeEvents cfg c n actions)
  | [] => pays_done _
  | a :: rest => by
    refine pays_bind (pays_captured handlerOf_pays) fun ended => ?_
    exact pays_bind (executeEvents_pays rest) fun others => pays_done _

/-! ### The work -/

theorem skipped_settles {p : EventProg Unit} (hp : p.Calls fun c => c.settles = false) :
    (skipped p).Calls fun c => c.settles = false := by
  refine Prog.calls_tryCatch hp fun e => ?_
  split
  · exact Prog.calls_done _
  · exact Prog.calls_done _
  · exact Prog.calls_done _

theorem finishSuccessful_settles {counted : AlarmActionType → Bool} {updatedAt : DateTime} :
    ∀ (executions : List EventExecution) (taskIds : List String),
      (finishSuccessful counted updatedAt executions taskIds).Calls fun c => c.settles = false
  | [], _ => by
    unfold finishSuccessful
    exact Prog.calls_done _
  | _ :: _, [] => by
    unfold finishSuccessful
    exact Prog.calls_done _
  | x :: rest, taskId :: taskIds => by
    unfold finishSuccessful
    split_ifs
    · exact Prog.calls_bind (skipped_settles (silent_settles rfl)) fun _ =>
        finishSuccessful_settles rest taskIds
    · exact finishSuccessful_settles rest taskIds
    · exact finishSuccessful_settles rest (taskId :: taskIds)

theorem runSample_pays {i : SampleInput} : Pays t cfg (runSample cfg i) := by
  refine pays_bind (pays_silent (silent_settles rfl)) fun out => ?_
  cases out with
  | none => exact pays_done _
  | some out =>
    refine pays_bind (executeEvents_pays _) fun executions => ?_
    refine pays_bind (pays_silent (finishSuccessful_settles _ _)) fun _ => ?_
    exact pays_silent (finishSuccessful_settles _ _)

theorem markAttempted_settles {e : EnvironmentEvent} : (markAttempted e).Calls fun c =>
    c.settles = false := by
  unfold markAttempted
  split_ifs
  · exact Prog.calls_bind (silent_settles rfl) fun _ => Prog.calls_done _
  · exact Prog.calls_done _

theorem prepareNotices_settles {g : Gates} {c : NotificationContext} :
    ∀ actions : List ApplicationAction, (prepareNotices g c actions).Calls fun c =>
      c.settles = false
  | [] => Prog.calls_done _
  | a :: rest => by
    unfold prepareNotices
    split
    · exact prepareNotices_settles rest
    · split_ifs
      · exact prepareNotices_settles rest
      · refine Prog.calls_bind (silent_settles rfl) fun task => ?_
        exact Prog.calls_bind (prepareNotices_settles rest) fun others => Prog.calls_done _

theorem raiseFailed_settles : ∀ executions :
    List EventExecution, (raiseFailed executions).Calls fun c => c.settles = false
  | [] => Prog.calls_done _
  | (_, .ok ()) :: rest => raiseFailed_settles rest
  | (_, .error _) :: _ => Prog.calls_done _

theorem runOwed_pays {r : ReconcileInput} {device : String} {localEventId : Option String}
    {event : Option EnvironmentEvent} {start : Option DateTime} {state : Option AlarmState} :
    Pays t cfg (runOwed cfg r device localEventId event start state) := by
  refine pays_bind (pays_silent (Prog.calls_ofExcept _)) fun mapped => ?_
  refine pays_bind (pays_silent (Prog.calls_ofExcept _)) fun enriched => ?_
  refine pays_bind (pays_silent (prepareNotices_settles _)) fun ids => ?_
  exact pays_bind (executeEvents_pays _) fun executions =>
    pays_silent (raiseFailed_settles executions)

theorem runAttempt_pays {r : ReconcileInput} : Pays t cfg (runAttempt cfg r) := by
  unfold runAttempt
  split
  · exact pays_done _
  · split
    · refine pays_bind (pays_silent (silent_settles rfl)) fun state => ?_
      exact pays_bind (pays_silent (Prog.calls_ofExcept _)) fun start => runOwed_pays
    · refine pays_bind (pays_silent (silent_settles rfl)) fun e => ?_
      cases e with
      | none => exact pays_done _
      | some e =>
        refine pays_bind (pays_silent (Prog.calls_ofExcept _)) fun start => ?_
        refine pays_bind (pays_silent markAttempted_settles) fun _ => ?_
        split_ifs
        · exact pays_done _
        · exact pays_bind (pays_silent (silent_settles rfl)) fun state => runOwed_pays

theorem runReconcileTask_pays {w : ReconcileWork} : Pays t cfg (runReconcileTask cfg w) := by
  have hrun : Pays t cfg (runReconcile cfg w.toReconcileInput) :=
    pays_tryCatch runAttempt_pays fun e =>
      pays_bind (pays_silent (silent_settles rfl)) fun _ => pays_done _
  have hend : ∀ error, Pays t cfg (endTask w error) :=
    fun error => pays_silent (skipped_settles (silent_settles rfl))
  refine pays_bind (pays_captured hrun) fun ended => ?_
  cases ended with
  | ok _ => exact hend none
  | error e =>
    refine pays_bind (pays_silent (silent_settles rfl)) fun row => ?_
    split_ifs
    · exact pays_done _
    · exact pays_bind (hend _) fun _ => pays_done _

theorem runScan_pays {x : ScanInput} : Pays t cfg (runScan cfg x) := by
  have hone : ∀ e, (armEvent cfg x e).Calls fun c => c.settles = false := by
    intro e
    have hmark : (markPending x e).Calls fun c => c.settles = false := by
      unfold markPending
      split_ifs
      · exact Prog.calls_done _
      · exact Prog.calls_bind markAttempted_settles fun _ => Prog.calls_done _
      · refine Prog.calls_bind markAttempted_settles fun _ => ?_
        refine Prog.calls_bind (silent_settles rfl) fun _ => ?_
        exact Prog.calls_bind (silent_settles rfl) fun _ => Prog.calls_done _
    unfold armEvent
    dsimp only
    split
    · exact Prog.calls_done _
    · split_ifs
      · exact Prog.calls_done _
      · exact Prog.calls_bind (silent_settles rfl) fun _ => Prog.calls_done _
      · exact Prog.calls_bind hmark fun _ => Prog.calls_bind (silent_settles rfl) fun _ =>
          Prog.calls_done _
  have hall : ∀ events, (armEvents cfg x events).Calls fun c => c.settles = false := by
    intro events
    induction events with
    | nil => exact Prog.calls_done _
    | cons e rest ih => exact Prog.calls_bind (hone e) fun _ => ih
  exact pays_bind (pays_silent (silent_settles rfl)) fun events => pays_silent (hall events)

/-- **No work lowers a flag before its write was accepted.** -/
theorem pays_prog (w : EventWork) : Pays t cfg (w.prog cfg) := by
  cases w with
  | sample i => exact runSample_pays
  | reconcile w => exact runReconcileTask_pays
  | scan x => exact runScan_pays

end Pays

end TemperatureMonitor
