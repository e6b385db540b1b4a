/-
# At most one unsafe CREATE, over every run

Any number of handlers run side by side, each lost at any of its calls. A
handler holds the attempt of its event from the reservation until its POST is
answered or the failure of it is recorded, and no two handlers hold one attempt
(`OneAttempt`). After a POST the attempt stays taken until the RETRYABLE outcome
of this POST is recorded (`Unretried`), so no second POST comes before
(`at_most_one_create`).
-/
import TemperatureMonitor.Service.SingleCreate

namespace TemperatureMonitor

abbrev EventRunning := Running EventCall EventCall.Answer WriterFailure Unit Site EffectWork

abbrev CreatePool := Pool EventCall EventCall.Answer WriterFailure Unit Site EffectWork

abbrev CreateLabel := PoolLabel EventCall EventCall.Answer WriterFailure Unit EffectWork

/-- Others do everything but record the outcome of a CREATE, which only the writer does. -/
def CreateOutside (s s' : Site) : Prop :=
  s'.events = s.events ∨
    ∃ op, EventOp.apply s.events op = .ok s'.events ∧
      ∀ id o error at_, op ≠ .write (.outcome id o error at_)

abbrev CreateStep (t : Transport) (cfg : WriterConfig) : CreatePool → CreateLabel →
    CreatePool → Prop :=
  PoolStep (EffectWork.prog cfg) (Answers t cfg.toServiceConfig) CreateOutside

/-! ### The attempt and its holder -/

/-- The reservation is granted, and how the attempt ended is not known. -/
def CreatePhase.holds : CreatePhase → Bool
  | reserved | posted (.error _) => true
  | _ => false

def EventRunning.phase (R : EventRunning) : CreatePhase := R.made.foldl CreatePhase.next .idle

/-- The handler holds the attempt of the event. -/
def EventRunning.holds (id : String) (R : EventRunning) : Bool :=
  R.what.eventId = some id && R.phase.holds

/-- Every handler of a pool keeps to the order of an attempt. -/
def OrderlyPool (S : CreatePool) : Prop :=
  ∀ R ∈ S.running, Orderly R.what.eventId R.rest (EventRunning.phase R) fun _ => True

section Calls

variable {t : Transport} {cfg : WriterConfig} {s s' : Site} {R : EventRunning} {c : EventCall}
  {r : Except WriterFailure c.Answer} {p : EventProg Unit} {id : String}

theorem phase_after : EventRunning.phase (R.after r p) = (EventRunning.phase R).next ⟨c, r⟩ := by
  unfold EventRunning.phase
  rw [List.foldl_append]
  rfl

theorem pool_orderly {s0 : Site} {ls : List CreateLabel} {S : CreatePool}
    (h : Run (CreateStep t cfg) ⟨s0, []⟩ ls S) : OrderlyPool S := by
  intro R hR
  exact Pool.obeys (fun _ _ _ _ hd => answers_can hd) (fun w => handler_orderly w) h R hR

theorem OrderlyPool.allows {S : CreatePool} {next : Except WriterFailure c.Answer → EventProg Unit}
    (h : OrderlyPool S)
    (hR : R ∈ S.running) (hrest : R.rest = .call c next) :
    (EventRunning.phase R).Allows R.what.eventId c := by
  have hobeys := h R hR
  rw [hrest] at hobeys
  exact hobeys.1

/-- A handler of another event does not hold the attempt. -/
theorem holds_other (h : R.what.eventId ≠ some id) : EventRunning.holds id R = false := by
  simp [EventRunning.holds, h]

theorem retries_aside (h : c.aside = true) : c.retries id = false := by
  cases c with
  | write w =>
    cases w with
    | reserve | outcome => cases h
    | _ => rfl
  | _ => rfl

theorem retries_outcome {id' : String} {o : ExternalCreateOutcome} {error : Option String}
    {at_ : Option DateTime}
    (h : id' ≠ id) : (EventCall.write (.outcome id' o error at_)).retries id = false := by
  cases o <;> simp [EventCall.retries, EventWrite.retries, h]

/-- **What a call makes of the attempt of an event**: the handler takes it, or
gives it up, or nothing changes hands and an attempt stays taken. -/
theorem call_attempt (hallows : (EventRunning.phase R).Allows R.what.eventId c)
    (hd : Answers t cfg.toServiceConfig s c r s') :
    (¬ AttemptTaken id s ∧ AttemptTaken id s') ∨
      (EventRunning.holds id R = true ∧ EventRunning.holds id (R.after r p) = false) ∨
      (EventRunning.holds id (R.after r p) = EventRunning.holds id R ∧
        (AttemptTaken id s → AttemptTaken id s')) := by
  have hsame : ∀ (_ : (EventRunning.phase R).next ⟨c, r⟩ = EventRunning.phase R)
      (_ : AttemptTaken id s → AttemptTaken id s'),
      EventRunning.holds id (R.after r p) = EventRunning.holds id R ∧
        (AttemptTaken id s → AttemptTaken id s') := by
    intro hphase hkept
    refine ⟨?_, hkept⟩
    unfold EventRunning.holds
    rw [phase_after, hphase]
  by_cases htarget : R.what.eventId = some id
  · cases haside : c.aside with
    | true =>
      exact .inr (.inr (hsame (next_aside haside) (answers_attempted hd (retries_aside haside))))
    | false =>
      cases c with
      | write w =>
        cases w with
        | reserve id' =>
          obtain ⟨hid, hidle⟩ := hallows
          obtain rfl : id = id' := Option.some.inj (htarget.symm.trans hid)
          cases r with
          | error e => exact .inr (.inr (hsame rfl (answers_attempted hd rfl)))
          | ok granted =>
            cases granted with
            | false => exact .inr (.inr (hsame rfl (answers_attempted hd rfl)))
            | true => exact .inl (reserve_granted hd)
        | outcome id' o error at_ =>
          obtain ⟨-, e, hposted, -⟩ := hallows
          cases r with
          | ok b =>
            refine .inr (.inl ⟨?_, ?_⟩)
            · simp [EventRunning.holds, htarget, hposted, CreatePhase.holds]
            · unfold EventRunning.holds
              rw [phase_after]
              simp [CreatePhase.next, CreatePhase.holds]
          | error err =>
            refine .inr (.inr (hsame rfl fun h => ?_))
            rcases answers_write hd with ⟨-, -, -, rfl⟩ | ⟨_, _, -, -, hok, -⟩
            · exact h
            · cases hok
        | _ => cases haside
      | post fields token =>
        have hreserved : EventRunning.phase R = .reserved := hallows
        have hholds : EventRunning.holds id R = true := by
          simp [EventRunning.holds, htarget, hreserved, CreatePhase.holds]
        cases r with
        | ok recordId =>
          refine .inr (.inl ⟨hholds, ?_⟩)
          unfold EventRunning.holds
          rw [phase_after]
          simp [CreatePhase.next, CreatePhase.holds]
        | error e =>
          refine .inr (.inr ⟨?_, answers_attempted hd rfl⟩)
          rw [hholds]
          unfold EventRunning.holds
          rw [phase_after]
          simp [CreatePhase.next, CreatePhase.holds, htarget]
      | _ => cases haside
  · -- a handler of another event
    have hafter : EventRunning.holds id (R.after r p) = false := holds_other htarget
    refine .inr (.inr ⟨hafter.trans (holds_other htarget).symm, answers_attempted hd ?_⟩)
    cases c with
    | write w =>
      cases w with
      | outcome id' o error at_ =>
        obtain ⟨hid, -⟩ := hallows
        exact retries_outcome fun h => htarget (by rw [hid, h])
      | _ => rfl
    | _ => rfl

/-- What others do leaves the attempt taken. -/
theorem outside_attempted (h : CreateOutside s s') (htaken : AttemptTaken id s) :
    AttemptTaken id s' := by
  obtain ⟨e, he, htaken⟩ := htaken
  rcases h with hsame | ⟨op, hop, hno⟩
  · exact ⟨e, by rw [hsame]; exact he, htaken⟩
  · refine op.attempted hop (fun w hw => ?_) he htaken
    cases w with
    | outcome id' o error at_ => exact absurd hw (hno id' o error at_)
    | _ => rfl

end Calls

/-! ### One attempt -/

/-- At most one handler holds the attempt of the event, and then it is taken. -/
structure OneAttempt (id : String) (S : CreatePool) : Prop where
  one : S.running.countP (EventRunning.holds id) ≤ 1
  taken : 0 < S.running.countP (EventRunning.holds id) → AttemptTaken id S.state

section Steps

variable {t : Transport} {cfg : WriterConfig} {S S' : CreatePool} {l : CreateLabel} {id : String}

/-- **No step makes a second holder.** -/
theorem OneAttempt.step (h : OneAttempt id S) (hord : OrderlyPool S)
    (hstep : CreateStep t cfg S l S') : OneAttempt id S' := by
  cases hstep with
  | @begin s rs what =>
    have hidle : EventRunning.holds id { what, before := s, rest := what.prog cfg } = false := by
      simp [EventRunning.holds, EventRunning.phase, CreatePhase.holds]
    refine ⟨?_, fun hpos => h.taken ?_⟩
    · rw [List.countP_cons_of_neg (by simp [hidle])]
      exact h.one
    · rwa [List.countP_cons_of_neg (by simp [hidle])] at hpos
  | @call s s' as bs R c next r hrest hd =>
    have hone := h.one
    have htaken := h.taken
    simp only [List.countP_append, List.countP_cons] at hone htaken
    have hallows := hord.allows (by simp) hrest
    have hgoal :
        ∀ n, as.countP (EventRunning.holds id) + (bs.countP (EventRunning.holds id) + n) ≤ 1 →
        (0 < as.countP (EventRunning.holds id) + (bs.countP (EventRunning.holds id) + n) →
          AttemptTaken id s') →
        (if EventRunning.holds id (R.after r (next r)) = true then 1 else 0) = n →
        OneAttempt id ⟨s', as ++ R.after r (next r) :: bs⟩ := by
      rintro n hle hpos rfl
      refine ⟨?_, ?_⟩
      · simp only [List.countP_append, List.countP_cons]
        exact hle
      · simp only [List.countP_append, List.countP_cons]
        exact hpos
    refine hgoal _ ?_ ?_ rfl
    · rcases call_attempt (p := next r) hallows hd with ⟨hfree, -⟩ | ⟨hheld, hafter⟩ | ⟨hsame, -⟩
      · -- a granted reservation: nobody held the attempt
        have hzero := Nat.eq_zero_of_not_pos fun hpos => hfree (htaken hpos)
        split_ifs <;> omega
      · rw [hheld, if_pos rfl] at hone
        rw [hafter]
        simp only [Bool.false_eq_true, if_false]
        omega
      · rwa [hsame]
    · rcases call_attempt (p := next r) hallows hd with ⟨-, hnow⟩ | ⟨hheld, hafter⟩ | ⟨hsame, hkept⟩
      · exact fun _ => hnow
      · rw [hheld, if_pos rfl] at hone
        rw [hafter]
        simp only [Bool.false_eq_true, if_false]
        exact fun hpos => by omega
      · rw [hsame]
        exact fun hpos => hkept (htaken hpos)
  | @finish s as bs R r hrest =>
    have hone := h.one
    have htaken := h.taken
    simp only [List.countP_append, List.countP_cons] at hone htaken
    refine ⟨?_, fun hpos => htaken ?_⟩
    · simp only [List.countP_append]
      omega
    · simp only [List.countP_append] at hpos
      omega
  | crash => exact ⟨by simp, fun hpos => absurd hpos (by simp)⟩
  | outside ho => exact ⟨h.one, fun hpos => outside_attempted ho (h.taken hpos)⟩

theorem oneAttempt_run {s0 : Site} {ls : List CreateLabel}
    (h : Run (CreateStep t cfg) ⟨s0, []⟩ ls S) : OneAttempt id S :=
  Run.inv_labels (I := fun _ S => OneAttempt id S) ⟨by simp, fun hpos => absurd hpos (by simp)⟩
    (fun _ _ _ _ hr hone hstep => hone.step (pool_orderly hr) hstep) h

end Steps

/-! ### Until the outcome is RETRYABLE -/

/-- A POST of a handler for the event, and its answer. -/
inductive PostsFor (id : String) : EffectWork → Except WriterFailure (Option String) →
    CreateLabel → Prop
  | post {w : EffectWork} (hw : w.eventId = some id) (fields : EventFields) (token : String)
      (r : Except WriterFailure (Option String)) : PostsFor id w r (.call w (.post fields token) r)

/-- The handler records the outcome of its CREATE as RETRYABLE. -/
inductive RecordsRetryable (id : String) : EffectWork → CreateLabel → Prop
  | outcome (w : EffectWork) (error : Option String) (at_ : Option DateTime) (b : Bool) :
      RecordsRetryable id w (.call w (.write (.outcome id .retryable error at_)) (.ok b))

/-- A handler that is not about to POST, and whose POST failed, if it did, as `Q` says. -/
def CreatePhase.Spent (Q : WriterFailure → Prop) : CreatePhase → Prop
  | reserved => False
  | posted (.error e) => Q e
  | _ => True

/-- The attempt is taken, and none of its handlers is about to POST. -/
structure Unretried (Q : EffectWork → WriterFailure → Prop) (id : String)
    (S : CreatePool) : Prop where
  taken : AttemptTaken id S.state
  spent : ∀ R ∈ S.running, R.what.eventId = some id → (EventRunning.phase R).Spent (Q R.what)

section Posts

variable {t : Transport} {cfg : WriterConfig} {s s' : Site} {S S' : CreatePool} {l : CreateLabel}
  {id : String} {w : EffectWork}
  {r : Except WriterFailure (Option String)} {Q : EffectWork → WriterFailure → Prop}

theorem createFailureOutcome_retryable {e : WriterFailure}
    (h : createFailureOutcome e = .retryable) : ∃ text, e = .transport .notPersisted text := by
  cases e with
  | transport kind text =>
    cases kind with
    | notPersisted => exact ⟨text, rfl⟩
    | api code outcomeUnknown =>
      simp only [createFailureOutcome] at h
      split_ifs at h
    | _ => cases h
  | python e => cases e <;> cases h
  | refused | notification => cases h

theorem spent_of_not_holds {g : CreatePhase} {Q : WriterFailure → Prop} (h : g.holds = false) :
    g.Spent Q := by
  cases g with
  | reserved => cases h
  | posted r =>
    cases r with
    | ok => trivial
    | error => cases h
  | idle | recorded => trivial

theorem CreatePhase.Spent.mono {g : CreatePhase} {Q Q' : WriterFailure → Prop} (h : g.Spent Q)
    (hQ : ∀ e, Q e → Q' e) : g.Spent Q' := by
  cases g with
  | reserved => exact h
  | posted r =>
    cases r with
    | ok => trivial
    | error e => exact hQ e h
  | idle | recorded => trivial

/-- **After a POST the attempt is spent**: no other handler holds it. -/
theorem post_unretried (hone : OneAttempt id S) (hord : OrderlyPool S)
    (hstep : CreateStep t cfg S l S') (hpost : PostsFor id w r l) :
    Unretried (fun w' e => w' = w ∧ r = .error e) id S' := by
  obtain ⟨hw, fields, token, r⟩ := hpost
  cases hstep with
  | @call s s' as bs R c next r hrest hd =>
    have hreserved : EventRunning.phase R = .reserved :=
      hord.allows (c := .post fields token) (by simp) hrest
    have hheld : EventRunning.holds id R = true := by
      simp [EventRunning.holds, hw, hreserved, CreatePhase.holds]
    have hcount := hone.one
    simp only [List.countP_append, List.countP_cons, hheld, if_true] at hcount
    have hothers : ∀ R' ∈ as ++ bs, EventRunning.holds id R' = false := by
      have hzero : (as ++ bs).countP (EventRunning.holds id) = 0 := by
        rw [List.countP_append]
        omega
      exact fun R' hR' => by simpa using List.countP_eq_zero.mp hzero R' hR'
    have hspent : ∀ R' ∈ as ++ bs, R'.what.eventId = some id →
        (EventRunning.phase R').Spent fun e => R'.what = R.what ∧ r = .error e := by
      intro R' hR' hid
      refine spent_of_not_holds ?_
      have hfree := hothers R' hR'
      simpa [EventRunning.holds, hid] using hfree
    refine ⟨answers_attempted hd rfl (hone.taken ?_), fun R' hR' hid => ?_⟩
    · simp only [List.countP_append, List.countP_cons, hheld, if_true]
      omega
    · rcases List.mem_append.mp hR' with hmem | hmem
      · exact hspent R' (List.mem_append_left _ hmem) hid
      · rcases List.mem_cons.mp hmem with rfl | hmem
        · rw [phase_after]
          cases r with
          | ok => trivial
          | error e => exact ⟨rfl, rfl⟩
        · exact hspent R' (List.mem_append_right _ hmem) hid

/-- No POST comes of a spent attempt. -/
theorem Unretried.no_post (h : Unretried Q id S) (hord : OrderlyPool S)
    (hstep : CreateStep t cfg S l S') : ¬ PostsFor id w r l := by
  rintro ⟨hw, fields, token, r⟩
  cases hstep with
  | @call s s' as bs R c next r hrest hd =>
    have hreserved : EventRunning.phase R = .reserved :=
      hord.allows (c := .post fields token) (by simp) hrest
    have hspent := h.spent R (by simp) hw
    rw [hreserved] at hspent
    exact hspent

/-- A handler of a spent attempt stays so. -/
theorem spent_after {R : EventRunning} {c : EventCall} {r : Except WriterFailure c.Answer}
    {p : EventProg Unit}
    {Q : WriterFailure → Prop} (hallows : (EventRunning.phase R).Allows R.what.eventId c)
    (hd : Answers t cfg.toServiceConfig s c r s') (htaken : AttemptTaken id s)
    (hid : R.what.eventId = some id)
    (h : (EventRunning.phase R).Spent Q) : (EventRunning.phase (R.after r p)).Spent Q := by
  rw [phase_after]
  cases haside : c.aside with
  | true => rwa [next_aside haside]
  | false =>
    cases c with
    | write w =>
      cases w with
      | reserve id' =>
        obtain ⟨hid', -⟩ := hallows
        obtain rfl : id = id' := Option.some.inj (hid.symm.trans hid')
        cases r with
        | error e => exact h
        | ok granted =>
          cases granted with
          | false => exact h
          | true => exact absurd htaken (reserve_granted hd).1
      | outcome id' o error at_ =>
        cases r with
        | ok b => trivial
        | error e => exact h
      | _ => cases haside
    | post fields token =>
      have hreserved : EventRunning.phase R = .reserved := hallows
      rw [hreserved] at h
      exact h.elim
    | _ => cases haside

/-- The attempt stays taken, until the outcome of a POST that failed is recorded RETRYABLE. -/
theorem Unretried.taken_step (h : Unretried Q id S) (hord : OrderlyPool S)
    (hstep : CreateStep t cfg S l S') :
    AttemptTaken id S'.state ∨ ∃ w e, RecordsRetryable id w l ∧ Q w e ∧
      createFailureOutcome e = .retryable := by
  cases hstep with
  | begin | finish | crash => exact .inl h.taken
  | outside ho => exact .inl (outside_attempted ho h.taken)
  | @call s s' as bs R c next r hrest hd =>
    cases hretries : c.retries id with
    | false => exact .inl (answers_attempted hd hretries h.taken)
    | true =>
      have hallows := hord.allows (c := c) (by simp) hrest
      cases c with
      | write w =>
        cases w with
        | outcome id' o error at_ =>
          cases o with
          | retryable =>
            obtain rfl : id' = id := by simpa [EventCall.retries, EventWrite.retries] using hretries
            obtain ⟨hid, e, hposted, ho⟩ := hallows
            have hspent := h.spent R (by simp) hid
            rw [hposted] at hspent
            cases r with
            | ok b => exact .inr ⟨R.what, e, .outcome _ error at_ b, hspent, ho.symm⟩
            | error err =>
              rcases answers_write hd with ⟨-, -, -, rfl⟩ | ⟨_, _, -, -, hok, -⟩
              · exact .inl h.taken
              · cases hok
          | _ => cases hretries
        | _ => cases hretries
      | _ => cases hretries

theorem Unretried.step (h : Unretried Q id S) (hord : OrderlyPool S)
    (hstep : CreateStep t cfg S l S') :
    Unretried Q id S' ∨ ∃ w e, RecordsRetryable id w l ∧ Q w e ∧
      createFailureOutcome e = .retryable := by
  refine (h.taken_step hord hstep).imp_left fun htaken => ⟨htaken, ?_⟩
  refine hstep.forall_running h.spent (fun _ _ _ => trivial)
    fun R c next r hl hR hrest hd hspent hid => ?_
  exact spent_after (hord.allows hR hrest) hd h.taken hid (hspent hid)

/-- **A spent attempt stays so**, until the outcome of a POST that failed is recorded RETRYABLE. -/
theorem Unretried.run {s0 : Site} {ks ls : List CreateLabel}
    (h0 : Run (CreateStep t cfg) ⟨s0, []⟩ ks S)
    (h : Unretried Q id S) (hrun : Run (CreateStep t cfg) S ls S') :
    Unretried Q id S' ∨ ∃ l ∈ ls, ∃ w e, RecordsRetryable id w l ∧ Q w e ∧
      createFailureOutcome e = .retryable := by
  refine Run.inv_labels (I := fun ls S' => Unretried Q id S' ∨
    ∃ l ∈ ls, ∃ w e, RecordsRetryable id w l ∧ Q w e ∧ createFailureOutcome e = .retryable)
      (.inl h) ?_ hrun
  intro ls a l b hr hi hstep
  rcases hi with hspent | ⟨k, hk, hrecorded⟩
  · refine (hspent.step (pool_orderly (h0.append hr)) hstep).imp_right fun hrecorded =>
      ⟨l, ?_, hrecorded⟩
    simp
  · exact .inr ⟨k, List.mem_append_left _ hk, hrecorded⟩

/-- **Between two POSTs for an event the first one failed with evidence that
nothing was kept, and its own handler recorded this as RETRYABLE.** -/
theorem retried_post {s0 : Site} {pre mid post : List CreateLabel} {l' : CreateLabel}
    {w' : EffectWork}
    {r' : Except WriterFailure (Option String)}
    (h : Run (CreateStep t cfg) ⟨s0, []⟩ (pre ++ l :: (mid ++ l' :: post)) S)
    (hl : PostsFor id w r l) (hl' : PostsFor id w' r' l') :
    (∃ text, r = .error (.transport .notPersisted text)) ∧ ∃ k ∈ mid, RecordsRetryable id w k := by
  obtain ⟨A, B, hA, hstep, hrest⟩ := h.at_label
  obtain ⟨C, D, hC, hstep', -⟩ := hrest.at_label
  have hspent := post_unretried (oneAttempt_run hA) (pool_orderly hA) hstep hl
  rcases hspent.run (hA.snoc hstep) hC with hspent' | ⟨k, hk, w₁, e, hrecorded, ⟨rfl, rfl⟩, ho⟩
  · exact absurd hl' (hspent'.no_post (pool_orderly ((hA.snoc hstep).append hC)) hstep')
  · obtain ⟨text, rfl⟩ := createFailureOutcome_retryable ho
    exact ⟨⟨text, rfl⟩, k, hk, hrecorded⟩

end Posts

/-! ### The records of an event -/

/-- A run, with the number of records the POSTs for the event have made. -/
inductive Creates (t : Transport) (cfg : WriterConfig) (id : String) (s0 : Site) :
    List CreateLabel → ℕ → CreatePool → Prop
  | start : Creates t cfg id s0 [] 0 ⟨s0, []⟩
  | post {ls : List CreateLabel} {n : ℕ} {S S' : CreatePool} {l : CreateLabel} {w : EffectWork}
      {r : Except WriterFailure (Option String)} : Creates t cfg id s0 ls n S →
        CreateStep t cfg S l S' → PostsFor id w r l →
      Creates t cfg id s0 (ls ++ [l]) (n + (S'.state.rows.length - S.state.rows.length)) S'
  | other {ls : List CreateLabel} {n : ℕ} {S S' : CreatePool} {l : CreateLabel} : Creates t cfg id s0 ls n S →
      CreateStep t cfg S l S' → (∀ w r, ¬ PostsFor id w r l) → Creates t cfg id s0 (ls ++ [l]) n S'

/-- A POST makes one record at most, and none where it gives evidence of that. -/
structure Transport.HonestPosts (t : Transport) : Prop where
  one : ∀ {rows fields r rows'}, t.post rows fields r rows' → rows'.length ≤ rows.length + 1
  none : ∀ {rows fields text rows'},
    t.post rows fields (.error (.transport .notPersisted text)) rows' → rows'.length ≤ rows.length

section Records

variable {t : Transport} {cfg : WriterConfig} {id : String} {s0 : Site} {ls : List CreateLabel}
  {n : ℕ} {S : CreatePool}

theorem Creates.run (h : Creates t cfg id s0 ls n S) : Run (CreateStep t cfg) ⟨s0, []⟩ ls S := by
  induction h with
  | start => exact .nil
  | post _ hstep _ ih => exact ih.snoc hstep
  | other _ hstep _ ih => exact ih.snoc hstep

/-- A record that is made leaves an attempt that is never retried. -/
theorem Creates.one (hposts : t.HonestPosts) (h : Creates t cfg id s0 ls n S) :
    n ≤ 1 ∧ (0 < n → Unretried (fun _ e => createFailureOutcome e ≠ .retryable) id S) := by
  induction h with
  | start => exact ⟨by omega, fun h => absurd h (by omega)⟩
  | @post ls n S S' l w r hr hstep hpost ih =>
    obtain ⟨-, ih⟩ := ih
    have hord := pool_orderly hr.run
    have hn : n = 0 := Nat.eq_zero_of_not_pos fun hpos => (ih hpos).no_post hord hstep hpost
    subst hn
    have hspent := post_unretried (oneAttempt_run hr.run) hord hstep hpost
    obtain ⟨-, fields, token, r⟩ := hpost
    cases hstep with
    | @call s s' as bs R c next r hrest hd =>
      obtain ⟨rows, hrows, rfl⟩ := hd
      have hone : rows.length ≤ s.rows.length + 1 := hposts.one hrows
      refine ⟨?_, fun hpos => ⟨hspent.taken, fun R' hR' hid => (hspent.spent R' hR' hid).mono ?_⟩⟩
      · show 0 + (rows.length - s.rows.length) ≤ 1
        omega
      · -- a record was made, so the POST did not say that none was
        rintro e ⟨-, rfl⟩ hretryable
        obtain ⟨text, rfl⟩ := createFailureOutcome_retryable hretryable
        have hnone : rows.length ≤ s.rows.length := hposts.none hrows
        have hmade : 0 < 0 + (rows.length - s.rows.length) := hpos
        omega
  | other hr hstep hno ih =>
    refine ⟨ih.1, fun hpos => ?_⟩
    rcases (ih.2 hpos).step (pool_orderly hr.run) hstep with hspent | ⟨w, e, -, hne, heq⟩
    · exact hspent
    · exact absurd heq hne

/-- **At most one unsafe CREATE**: of two POSTs for an event the first one failed with
evidence that nothing was kept, which its handler recorded as RETRYABLE before
the second; and at most one record is made of the event. -/
theorem at_most_one_create (h : Creates t cfg id s0 ls n S) :
    (∀ pre mid post l l' w w' r r', ls = pre ++ l :: (mid ++ l' :: post) → PostsFor id w r l →
      PostsFor id w' r' l' →
      (∃ text, r = .error (.transport .notPersisted text)) ∧ ∃ k ∈ mid, RecordsRetryable id w k) ∧
      (t.HonestPosts → n ≤ 1) := by
  refine ⟨fun pre mid post l l' w w' r r' hls hl hl' => ?_, fun hposts => (h.one hposts).1⟩
  have hrun := h.run
  rw [hls] at hrun
  exact retried_post hrun hl hl'

end Records

/-! ### A run -/

theorem Run.creates {t : Transport} {cfg : WriterConfig} {s0 : Site} {ls : List CreateLabel}
    {S : CreatePool}
    (h : Run (CreateStep t cfg) ⟨s0, []⟩ ls S) (id : String) : ∃ n, Creates t cfg id s0 ls n S := by
  induction h with
  | nil => exact ⟨0, .start⟩
  | @snoc ls S l S' _ hstep ih =>
    obtain ⟨n, hn⟩ := ih
    by_cases hpost : ∃ w r, PostsFor id w r l
    · obtain ⟨w, r, hpost⟩ := hpost
      exact ⟨_, hn.post hstep hpost⟩
    · exact ⟨_, hn.other hstep fun w r hw => hpost ⟨w, r, hw⟩⟩

/-- A network that keeps nothing of a POST and says so, and one that keeps it. -/
def postWeather (kept : Bool) : Weather where
  post := fun rows fields =>
    if kept then (.ok (some "rec1"), rows ++ [fields.record "rec1"])
    else (.error (.transport .notPersisted "connection refused"), rows)
  devices := .ok [{ device := "TH-01", owner := .text "Li", controlRequirement := "" }]

abbrev postTransport : Transport := .of fun w => ∃ kept, w = postWeather kept

theorem postTransport_honest : postTransport.HonestPosts where
  one := by
    rintro rows fields r rows' ⟨_, ⟨kept, rfl⟩, hpost⟩
    cases kept with
    | false =>
      obtain ⟨-, rfl⟩ := Prod.mk.injEq .. ▸ hpost
      omega
    | true =>
      obtain ⟨-, rfl⟩ := Prod.mk.injEq .. ▸ hpost
      simp
  none := by
    rintro rows fields text rows' ⟨_, ⟨kept, rfl⟩, hpost⟩
    cases kept with
    | false =>
      obtain ⟨-, rfl⟩ := Prod.mk.injEq .. ▸ hpost
      omega
    | true => cases hpost

/-- The CREATE of a new event, begun at a second. -/
def createWork (second : ℤ) : EffectWork :=
  .action { actionType := .createAlarmEvent, kind := .event, deviceId := "TH-01", alarmId := some "e1" }
    { createdAt := .utc (second * 1000000), sampleTime := .utc (second * 1000000), sample := (pilotSample .normal second).sample
      result := .stored none none none none none, transition :=
        { alarmStartedAt := some (.utc 0) }, areaId := "A1" }

def unboundSite : Site :=
  { service := { events := [{ eventId := "e1", deviceId := "TH-01", eventKey := "k1", openedAt := .utc 0 }] } }

def playCreates (S : EffectSession) (turns : List (Turn Bool Empty EffectWork)) : EffectSession :=
  S.play (EffectWork.prog pilotWriter) (fun kept s c =>
      s.reply pilotWriter.toServiceConfig (postWeather kept) c)
    (fun other _ => other.elim) turns

theorem playCreates_run (S : EffectSession) (turns : List (Turn Bool Empty EffectWork)) :
    ∃ ls, Run (CreateStep postTransport pilotWriter) S.pool ls (playCreates S turns).pool := by
  have hplay :
      ∃ ls, Run (SessionStep (EffectWork.prog pilotWriter)
      (Answers postTransport pilotWriter.toServiceConfig) CreateOutside)
      S ls (playCreates S turns) :=
    play_session (fun kept s c =>
        reply_answers (P := fun w => ∃ kept, w = postWeather kept) ⟨kept, rfl⟩
      pilotWriter.toServiceConfig s c) (fun other => other.elim) turns S
  obtain ⟨ls, h⟩ := hplay
  exact Session.pool_run h

/-- The handler is about to POST for the event. -/
def EffectSession.atPost (id : String) (S : EffectSession) : Bool :=
  match S.running with
  | some ⟨w, _, _, .call (.post ..) _⟩ => w.eventId = some id
  | _ => false

theorem atPost_step {id : String} {S : EffectSession} (h : S.atPost id = true) (kept : Bool) :
    ∃ w r l, PostsFor id w r l ∧
      CreateStep postTransport pilotWriter S.pool l (playCreates S [.calls kept 1]).pool := by
  obtain ⟨s, running⟩ := S
  match running with
  | none => cases h
  | some ⟨w, before, made, .done r⟩ => cases h
  | some ⟨w, before, made, .call c next⟩ =>
    cases c with
    | post fields token =>
      have hw : w.eventId = some id := of_decide_eq_true h
      have hanswer := reply_answers (P := fun w => ∃ kept, w = postWeather kept) ⟨kept, rfl⟩
          pilotWriter.toServiceConfig s
        (.post fields token)
      have hstep :
          CreateStep postTransport pilotWriter
          ⟨s, [] ++ ⟨w, before, made, .call (.post fields token) next⟩ :: []⟩ _
        ⟨_, [] ++ ⟨w, before, _, _⟩ :: []⟩ := .call rfl hanswer
      exact ⟨w, _, _, .post hw fields token _, hstep⟩
    | _ => cases h

/-- A POST that is refused, to the end of its handler; then another handler, up to its POST. -/
def refusedCreate : List (Turn Bool Empty EffectWork) :=
  [.calls false 2, .finish, .begin (createWork 20), .calls true 8]

/-- The session before its first POST, and before its second. -/
def beforePost : EffectSession :=
  playCreates ⟨unboundSite, none⟩ [.begin (createWork 10), .calls false 8]

def beforeRetry : EffectSession :=
  playCreates (playCreates beforePost [.calls false 1]) refusedCreate

/-- Two POSTs, the outcome of the first one between them, and one record. -/
theorem refused_create_retried : ∃ ls n S pre mid l l' w w' r r',
    Creates postTransport pilotWriter "e1" unboundSite ls n S ∧
    ls = pre ++ l :: (mid ++ l' :: []) ∧ PostsFor "e1" w r l ∧ PostsFor "e1" w' r' l' ∧
      (∃ k ∈ mid, RecordsRetryable "e1" w k) ∧ n ≤ 1 := by
  obtain ⟨pre, hpre⟩ := playCreates_run ⟨unboundSite, none⟩ [.begin (createWork 10), .calls false 8]
  have hat : beforePost.atPost "e1" = true := by decide +kernel
  have hat' : beforeRetry.atPost "e1" = true := by decide +kernel
  obtain ⟨w, r, l, hl, hstep⟩ := atPost_step hat false
  obtain ⟨mid, hmid⟩ := playCreates_run (playCreates beforePost [.calls false 1]) refusedCreate
  obtain ⟨w', r', l', hl', hstep'⟩ := atPost_step hat' true
  have hrun : Run (CreateStep postTransport pilotWriter) ⟨unboundSite, []⟩
      (pre ++ l :: (mid ++ l' :: [])) _ :=
    hpre.append ((hmid.append (.one hstep')).cons hstep)
  obtain ⟨n, hn⟩ := hrun.creates "e1"
  obtain ⟨hretried, hone⟩ := at_most_one_create hn
  exact ⟨_, n, _, pre, mid, l, l', w, w', r, r', hn, rfl, hl, hl',
    (hretried pre mid [] l l' w w' r r' rfl hl hl').2, hone postTransport_honest⟩

end TemperatureMonitor
