/-
# Programs of calls

A program that works on stores and services is a tree: it ends with a value or
an exception, or it makes a call and goes on with what the call answers. What a
call does is a relation of its own, so one program can be run on several
systems. `wp` is what has to hold before a program for every call it makes to
be allowed and for its end to be as wanted; `Session` runs one program at a
time and may lose it between any two of its calls.
-/
import TemperatureMonitor.Library.Runs

namespace TemperatureMonitor

/-- A program: `β c` is what the call `c` answers, when it does not raise. -/
inductive Prog (κ : Type) (β : κ → Type) (ε α : Type) : Type
  | done (r : Except ε α)
  | call (c : κ) (next : Except ε (β c) → Prog κ β ε α)

/-- A call that was made, and its answer. -/
abbrev Made (κ : Type) (β : κ → Type) (ε : Type) := (c : κ) × Except ε (β c)

namespace Prog

variable {κ : Type} {β : κ → Type} {ε α γ : Type}

def bind : Prog κ β ε α → (α → Prog κ β ε γ) → Prog κ β ε γ
  | done (.ok a), f => f a
  | done (.error e), _ => done (.error e)
  | call c next, f => call c fun r => (next r).bind f

/-- An exception is handled. -/
def rescue : Prog κ β ε α → (ε → Prog κ β ε α) → Prog κ β ε α
  | done (.ok a), _ => done (.ok a)
  | done (.error e), h => h e
  | call c next, h => call c fun r => (next r).rescue h

instance : Monad (Prog κ β ε) where
  pure a := done (.ok a)
  bind := bind

instance : MonadExcept ε (Prog κ β ε) where
  throw e := done (.error e)
  tryCatch := rescue

def perform (c : κ) : Prog κ β ε (β c) := call c done

/-- What may have raised before. -/
def ofExcept (r : Except ε α) : Prog κ β ε α := done r

/-- A program whose exception is its answer. -/
def captured (p : Prog κ β ε α) : Prog κ β ε (Except ε α) :=
  (p.bind fun a => done (.ok (.ok a))).rescue fun e => done (.ok (.error e))

/-! ### What holds before a program -/

section Wp

variable {σ : Type}

/-- What follows a value; an exception ends the program. -/
def followed (P : α → σ → Prop) (Q : Except ε γ → σ → Prop) : Except ε α → σ → Prop
  | .ok a, s => P a s
  | .error e, s => Q (.error e) s

/-- What follows an exception. -/
def rescued (P : ε → σ → Prop) (Q : Except ε α → σ → Prop) : Except ε α → σ → Prop
  | .ok a, s => Q (.ok a) s
  | .error e, s => P e s

variable (pre : σ → κ → Prop) (does : σ → (c : κ) → Except ε (β c) → σ → Prop)

/-- From `s`, every call the program makes is allowed by `pre`, and it ends
in `Q`. -/
def wp : Prog κ β ε α → (Except ε α → σ → Prop) → σ → Prop
  | done r, Q, s => Q r s
  | call c next, Q, s => pre s c ∧ ∀ r s', does s c r s' → wp (next r) Q s'

variable {pre does} {p : Prog κ β ε α} {f : α → Prog κ β ε γ} {Q Q' : Except ε α → σ → Prop} {s : σ}

theorem wp_done {r : Except ε α} : wp pre does (done r) Q s ↔ Q r s := Iff.rfl

@[simp] theorem wp_pure (a : α) : wp pre does (Pure.pure a) Q s ↔ Q (.ok a) s := Iff.rfl

@[simp] theorem wp_throw (e : ε) : wp pre does (throw e : Prog κ β ε α) Q s ↔ Q (.error e) s :=
  Iff.rfl

@[simp] theorem wp_ofExcept (r : Except ε α) : wp pre does (ofExcept r : Prog κ β ε α) Q s ↔
    Q r s := Iff.rfl

@[simp] theorem wp_perform {c : κ} {Q : Except ε (β c) → σ → Prop} :
    wp pre does (perform c) Q s ↔ pre s c ∧ ∀ r s', does s c r s' → Q r s' := Iff.rfl

theorem wp_mono (h : wp pre does p Q s) (hQ : ∀ r s, Q r s → Q' r s) : wp pre does p Q' s := by
  induction p generalizing s with
  | done r => exact hQ r s h
  | call c next ih => exact ⟨h.1, fun r s' hs => ih r (h.2 r s' hs)⟩

theorem wp_bind' {Q : Except ε γ → σ → Prop} :
    wp pre does (p.bind f) Q s ↔
      wp pre does p (followed (fun a s => wp pre does (f a) Q s) Q) s := by
  induction p generalizing s with
  | done r => cases r <;> rfl
  | call c next ih =>
    have hall : (∀ r s', does s c r s' → wp pre does ((next r).bind f) Q s') ↔
        ∀ r s', does s c r s' →
          wp pre does (next r) (followed (fun a s => wp pre does (f a) Q s) Q) s' :=
      forall_congr' fun r => forall_congr' fun s' => imp_congr_right fun _ => ih r
    exact and_congr_right fun _ => hall

@[simp] theorem wp_bind {Q : Except ε γ → σ → Prop} :
    wp pre does (p >>= f) Q s ↔ wp pre does p (followed (fun a s => wp pre does (f a) Q s) Q) s :=
  wp_bind'

theorem wp_rescue {h : ε → Prog κ β ε α} :
    wp pre does (p.rescue h) Q s ↔
      wp pre does p (rescued (fun e s => wp pre does (h e) Q s) Q) s := by
  induction p generalizing s with
  | done r => cases r <;> rfl
  | call c next ih =>
    have hall : (∀ r s', does s c r s' → wp pre does ((next r).rescue h) Q s') ↔
        ∀ r s', does s c r s' →
          wp pre does (next r) (rescued (fun e s => wp pre does (h e) Q s) Q) s' :=
      forall_congr' fun r => forall_congr' fun s' => imp_congr_right fun _ => ih r
    exact and_congr_right fun _ => hall

@[simp] theorem wp_tryCatch {h : ε → Prog κ β ε α} :
    wp pre does (tryCatch p h) Q s ↔
      wp pre does p (rescued (fun e s => wp pre does (h e) Q s) Q) s := wp_rescue

theorem wp_captured {Q : Except ε (Except ε α) → σ → Prop} :
    wp pre does (captured p) Q s ↔ wp pre does p (fun r s => Q (.ok r) s) s := by
  induction p generalizing s with
  | done r => cases r <;> rfl
  | call c next ih =>
    have hall : (∀ r s', does s c r s' → wp pre does (captured (next r)) Q s') ↔
        ∀ r s', does s c r s' → wp pre does (next r) (fun r s => Q (.ok r) s) s' :=
      forall_congr' fun r => forall_congr' fun s' => imp_congr_right fun _ => ih r
    exact and_congr_right fun _ => hall

@[simp] theorem followed_ok {P : α → σ → Prop} {Q : Except ε γ → σ → Prop} (a : α) :
    followed P Q (.ok a) s ↔ P a s := Iff.rfl

@[simp] theorem rescued_error {P : ε → σ → Prop} (e : ε) : rescued P Q (.error e) s ↔ P e s :=
  Iff.rfl

/-- What every call keeps holds at the end. -/
theorem wp_keeps {I : σ → Prop} (hI : ∀ s c r s', I s → does s c r s' → I s')
    (hpre : ∀ s c, I s → pre s c) (h : I s) : wp pre does p (fun _ s' => I s') s := by
  induction p generalizing s with
  | done r => exact h
  | call c next ih => exact ⟨hpre s c h, fun r s' hs => ih r (hI s c r s' h hs)⟩

end Wp

/-! ### What a program returns -/

section Returns

variable {σ : Type}

/-- Where the program ends with a value, it ends in `Q`. -/
def Returns (does : σ → (c : κ) → Except ε (β c) → σ → Prop) (p : Prog κ β ε α) (Q : α → σ → Prop)
    (s : σ) : Prop :=
  wp (fun _ _ => True) does p (fun r s' => ∀ a, r = .ok a → Q a s') s

variable {does : σ → (c : κ) → Except ε (β c) → σ → Prop} {p : Prog κ β ε α} {f : α → Prog κ β ε γ}
  {Q Q' : α → σ → Prop} {s : σ}

theorem returns_pure {a : α} (h : Q a s) : Returns does (Pure.pure a) Q s := by
  rintro _ ⟨⟩
  exact h

theorem returns_throw (e : ε) : Returns does (throw e : Prog κ β ε α) Q s := by rintro _ ⟨⟩

theorem returns_ofExcept {r : Except ε α} (h : ∀ a, r = .ok a → Q a s) :
    Returns does (ofExcept r) Q s := h

theorem returns_perform {c : κ} {Q : β c → σ → Prop} (h : ∀ a s', does s c (.ok a) s' → Q a s') :
    Returns does (perform c) Q s := by
  refine ⟨trivial, fun r s' hd => ?_⟩
  rintro a rfl
  exact h a s' hd

theorem returns_mono (h : Returns does p Q s) (hQ : ∀ a s, Q a s → Q' a s) : Returns does p Q' s :=
  wp_mono h fun _ _ hr a ha => hQ a _ (hr a ha)

/-- What holds of every value and state. -/
theorem returns_any (h : ∀ a s, Q a s) : Returns does p Q s :=
  wp_mono (wp_keeps (I := fun _ => True) (fun _ _ _ _ _ _ => trivial) (fun _ _ _ =>
      trivial) trivial)
    fun _ s _ a _ => h a s

theorem returns_bind {Q : γ → σ → Prop} (h : Returns does p (fun a s => Returns does (f a) Q s) s) :
    Returns does (p >>= f) Q s := by
  refine wp_bind.mpr (wp_mono h fun r s' hr => ?_)
  cases r with
  | ok a => exact hr a rfl
  | error e => rintro _ ⟨⟩

/-- A handler that cannot do worse. -/
theorem returns_tryCatch {h : ε → Prog κ β ε α} (hp : Returns does p Q s)
    (hh : ∀ e s, Returns does (h e) Q s) : Returns does (tryCatch p h) Q s := by
  refine wp_tryCatch.mpr (wp_mono hp fun r s' hr => ?_)
  cases r with
  | ok a => exact hr
  | error e => exact hh e s'

theorem returns_captured {Q : Except ε α → σ → Prop} (h : wp (fun _ _ => True) does p Q s) :
    Returns does (captured p) Q s := by
  refine wp_captured.mpr (wp_mono h fun r s' hr => ?_)
  rintro _ ⟨⟩
  exact hr

end Returns

/-! ### The calls of a program -/

/-- Every call of the program, whatever the answers, is one of `P`. -/
def Calls (P : κ → Prop) : Prog κ β ε α → Prop
  | done _ => True
  | call c next => P c ∧ ∀ r, Calls P (next r)

section Calls

variable {P P' : κ → Prop} {p : Prog κ β ε α} {f : α → Prog κ β ε γ}

theorem calls_done (r : Except ε α) : Calls P (done r : Prog κ β ε α) := trivial

@[simp] theorem calls_pure (a : α) : Calls P (Pure.pure a : Prog κ β ε α) := trivial

@[simp] theorem calls_throw (e : ε) : Calls P (throw e : Prog κ β ε α) := trivial

@[simp] theorem calls_ofExcept (r : Except ε α) : Calls P (ofExcept r : Prog κ β ε α) := trivial

@[simp] theorem calls_perform {c : κ} : Calls P (perform c : Prog κ β ε (β c)) ↔ P c := by
  simp [Calls, perform]

theorem calls_bind (hp : Calls P p) (hf : ∀ a, Calls P (f a)) : Calls P (p >>= f) := by
  show Calls P (p.bind f)
  induction p with
  | done r =>
    cases r with
    | ok a => exact hf a
    | error e => trivial
  | call c next ih => exact ⟨hp.1, fun r => ih r (hp.2 r)⟩

theorem calls_captured (hp : Calls P p) : Calls P (captured p) := by
  induction p with
  | done r => cases r <;> trivial
  | call c next ih => exact ⟨hp.1, fun r => ih r (hp.2 r)⟩

theorem calls_tryCatch {h : ε → Prog κ β ε α} (hp : Calls P p) (hh : ∀ e, Calls P (h e)) :
    Calls P (tryCatch p h) := by
  show Calls P (p.rescue h)
  induction p with
  | done r =>
    cases r with
    | ok a => trivial
    | error e => exact hh e
  | call c next ih => exact ⟨hp.1, fun r => ih r (hp.2 r)⟩

/-- A program whose calls keep an invariant keeps it. -/
theorem Calls.wp {σ : Type} {pre : σ → κ → Prop} {does : σ → (c : κ) → Except ε (β c) → σ → Prop}
    {I : σ → Prop}
    (h : Calls P p) (hI : ∀ s c r s', P c → I s → does s c r s' → I s')
    (hpre : ∀ s c, P c → I s → pre s c)
    {s : σ} (hs : I s) : wp pre does p (fun _ s' => I s') s := by
  induction p generalizing s with
  | done r => exact hs
  | call c next ih => exact ⟨hpre s c h.1 hs, fun r s' hd => ih r (h.2 r) (hI s c r s' h.1 hs hd)⟩

/-- What is known of each call is known where it is made. -/
theorem Calls.wp_pre {σ : Type} {pre : σ → κ → Prop}
    {does : σ → (c : κ) → Except ε (β c) → σ → Prop}
    {Q : Except ε α → σ → Prop} {s : σ} (h : Calls P p) (hwp : Prog.wp (fun _ _ => True) does p Q s)
    (hpre : ∀ s c, P c → pre s c) : Prog.wp pre does p Q s := by
  induction p generalizing s with
  | done r => exact hwp
  | call c next ih => exact ⟨hpre s c h.1, fun r s' hd => ih r (h.2 r) (hwp.2 r s' hd)⟩

end Calls

/-! ### Executions -/

section Takes

variable {σ : Type}

/-- The program takes the calls `made` from `s`, and is left as another. -/
inductive Takes (does : σ → (c : κ) → Except ε (β c) → σ → Prop) (p : Prog κ β ε α) (s : σ) :
    List (Made κ β ε) → Prog κ β ε α → σ → Prop
  | nil : Takes does p s [] p s
  | snoc {made : List (Made κ β ε)} {c : κ} {next : Except ε (β c) → Prog κ β ε α} {t u : σ} {r : Except ε (β c)} :
      Takes does p s made (call c next) t → does t c r u →
        Takes does p s (made ++ [⟨c, r⟩]) (next r) u

variable {does : σ → (c : κ) → Except ε (β c) → σ → Prop} {pre : σ → κ → Prop}
  {p p' : Prog κ β ε α} {s s' : σ}
  {made : List (Made κ β ε)} {Q : Except ε α → σ → Prop}

/-- What has to hold before the program has to hold before what is left of it. -/
theorem Takes.wp (h : Takes does p s made p' s') (hwp : p.wp pre does Q s) :
    p'.wp pre does Q s' := by
  induction h with
  | nil => exact hwp
  | snoc _ hd ih => exact ih.2 _ _ hd

/-- A value it ends with is as `Returns` says. -/
theorem Takes.returns {Q : α → σ → Prop} {a : α} (h : Takes does p s made (done (.ok a)) s')
    (hr : Returns does p Q s) : Q a s' :=
  Takes.wp h hr a rfl

/-- The state together with the calls made so far. -/
def recorded (does : σ → (c : κ) → Except ε (β c) → σ → Prop) (x : σ × List (Made κ β ε)) (c : κ)
    (r : Except ε (β c)) (y : σ × List (Made κ β ε)) : Prop :=
  does x.1 c r y.1 ∧ y.2 = x.2 ++ [⟨c, r⟩]

theorem wp_recorded (h : wp pre does p Q s) :
    wp (fun x c => pre x.1 c) (recorded does) p (fun r x => Q r x.1) (s, made) := by
  induction p generalizing s made with
  | done r => exact h
  | call c next ih =>
    refine ⟨h.1, fun r x hx => ?_⟩
    obtain ⟨hd, -⟩ := hx
    exact ih r (h.2 r x.1 hd)

theorem Takes.recorded (h : Takes does p s made p' s') :
    Takes (recorded does) p (s, []) made p' (s', made) := by
  induction h with
  | nil => exact .nil
  | snoc _ hd ih => exact ih.snoc ⟨hd, rfl⟩

/-- Up to `n` calls of a program that are answered by `reply`: the calls, what
is left of the program, and the state. -/
def answered (reply : σ → (c : κ) → Except ε (β c) × σ) : ℕ → Prog κ β ε α → σ →
    List (Made κ β ε) × Prog κ β ε α × σ
  | n + 1, call c next, s =>
    let rest := answered reply n (next (reply s c).1) (reply s c).2
    (⟨c, (reply s c).1⟩ :: rest.1, rest.2)
  | _, p, s => ([], p, s)

/-- Calls that are answered are an execution, where every answer is one the system can give. -/
theorem takes_answered {reply : σ → (c : κ) → Except ε (β c) × σ}
    (hreply : ∀ s c, does s c (reply s c).1 (reply s c).2)
    (n : ℕ) : ∀ {q : Prog κ β ε α} {t : σ} {made : List (Made κ β ε)}, Takes does p s made q t →
      Takes does p s (made ++ (answered reply n q t).1)
        (answered reply n q t).2.1 (answered reply n q t).2.2 := by
  induction n with
  | zero =>
    intro q t made h
    simpa [answered] using h
  | succ n ih =>
    intro q t made h
    cases q with
    | done r => simpa [answered] using h
    | call c next =>
      have hnext := ih (h.snoc (hreply t c))
      rw [List.append_assoc] at hnext
      exact hnext

end Takes

end Prog

/-! ### Sessions -/

section Sessions

variable {κ : Type} {β : κ → Type} {ε α σ ι : Type}

/-- A program on its way: what it was begun for, the state it found, and the
calls it has made. -/
structure Running (κ : Type) (β : κ → Type) (ε α σ ι : Type) where
  what : ι
  before : σ
  made : List (Made κ β ε) := []
  rest : Prog κ β ε α

structure Session (κ : Type) (β : κ → Type) (ε α σ ι : Type) where
  state : σ
  running : Option (Running κ β ε α σ ι) := none

inductive SessionLabel (κ : Type) (β : κ → Type) (ε α ι : Type)
  | begin (what : ι)
  | call (c : κ) (r : Except ε (β c))
  | finish (r : Except ε α)
  /-- The process ends and is started again. -/
  | crash
  /-- What others do while no program runs. -/
  | outside

/-- One program at a time, call by call. -/
inductive SessionStep (prog : ι → Prog κ β ε α) (does : σ → (c : κ) → Except ε (β c) → σ → Prop)
    (outside : σ → σ → Prop) : Session κ β ε α σ ι → SessionLabel κ β ε α ι →
      Session κ β ε α σ ι → Prop
  | begin {s : σ} (what : ι) : SessionStep prog does outside ⟨s, none⟩ (.begin what)
      ⟨s, some { what, before := s, rest := prog what }⟩
  | call {s s' : σ} {what : ι} {before : σ} {made : List (Made κ β ε)} {c : κ}
      {next : Except ε (β c) → Prog κ β ε α} {r : Except ε (β c)} : does s c r s' →
      SessionStep prog does outside ⟨s, some ⟨what, before, made, .call c next⟩⟩ (.call c r)
        ⟨s', some ⟨what, before, made ++ [⟨c, r⟩], next r⟩⟩
  | finish {s : σ} {what : ι} {before : σ} {made : List (Made κ β ε)} {r : Except ε α} :
      SessionStep prog does outside ⟨s, some ⟨what, before, made, .done r⟩⟩ (.finish r) ⟨s, none⟩
  | crash {s : σ} {running : Option (Running κ β ε α σ ι)} :
      SessionStep prog does outside ⟨s, running⟩ .crash ⟨s, none⟩
  | outside {s s' : σ} : outside s s' → SessionStep prog does outside ⟨s, none⟩ .outside ⟨s', none⟩

variable {prog : ι → Prog κ β ε α} {does : σ → (c : κ) → Except ε (β c) → σ → Prop}
  {outside : σ → σ → Prop}
  {S S' : Session κ β ε α σ ι} {ls : List (SessionLabel κ β ε α ι)}
  {l : SessionLabel κ β ε α ι} {s : σ}

/-- A program on its way has taken its calls from the state it found. -/
theorem Session.takes (h : Run (SessionStep prog does outside) ⟨s, none⟩ ls S) :
    ∀ R, S.running = some R → Prog.Takes does (prog R.what) R.before R.made R.rest S.state := by
  refine Run.inv (I := fun S => ∀ R, S.running = some R →
    Prog.Takes does (prog R.what) R.before R.made R.rest S.state) (by rintro R ⟨⟩)
      (fun S l S' hS hstep => ?_) h
  cases hstep with
  | begin what =>
    rintro R ⟨⟩
    exact .nil
  | call hd =>
    rintro R ⟨⟩
    exact (hS _ rfl).snoc hd
  | finish => rintro R ⟨⟩
  | crash => rintro R ⟨⟩
  | outside => rintro R ⟨⟩

end Sessions

/-! ### Sessions that are computed -/

/-- One turn of a session: a program is begun, goes on for up to `n` calls that
are answered by `how`, ends, or is lost, or others do something. -/
inductive Turn (τ ω ι : Type)
  | begin (what : ι)
  | calls (how : τ) (n : ℕ)
  | finish
  | crash
  | outside (other : ω)

section Turns

variable {κ : Type} {β : κ → Type} {ε α σ ι τ ω : Type}

/-- Up to `n` calls of a program on its way. -/
def Running.serve (reply : σ → (c : κ) → Except ε (β c) × σ) : ℕ → σ → Running κ β ε α σ ι →
    Session κ β ε α σ ι
  | 0, s, R => ⟨s, some R⟩
  | n + 1, s, ⟨what, before, made, .call c next⟩ =>
    Running.serve reply n (reply s c).2 ⟨what, before, made ++ [⟨c, (reply s c).1⟩],
      next (reply s c).1⟩
  | _ + 1, s, R => ⟨s, some R⟩

variable (prog : ι → Prog κ β ε α) (reply : τ → σ → (c : κ) → Except ε (β c) × σ) (act : ω → σ → σ)

/-- A turn; one that cannot be taken changes nothing. -/
def Session.turn (S : Session κ β ε α σ ι) : Turn τ ω ι → Session κ β ε α σ ι
  | .begin what =>
    match S.running with
    | none => ⟨S.state, some { what, before := S.state, rest := prog what }⟩
    | some _ => S
  | .calls how n =>
    match S.running with
    | none => S
    | some R => R.serve (reply how) n S.state
  | .finish =>
    match S.running with
    | some ⟨_, _, _, .done _⟩ => ⟨S.state, none⟩
    | _ => S
  | .crash => ⟨S.state, none⟩
  | .outside other =>
    match S.running with
    | none => ⟨act other S.state, none⟩
    | some _ => S

/-- One turn after the other. -/
def Session.play (S : Session κ β ε α σ ι) (turns : List (Turn τ ω ι)) : Session κ β ε α σ ι :=
  turns.foldl (Session.turn prog reply act) S

variable {prog reply act} {does : σ → (c : κ) → Except ε (β c) → σ → Prop} {outside : σ → σ → Prop}

/-- Calls that are answered are a run of calls. -/
theorem serve_run {reply : σ → (c : κ) → Except ε (β c) × σ}
    (hreply : ∀ s c, does s c (reply s c).1 (reply s c).2)
    (n : ℕ) : ∀ (s : σ) (R : Running κ β ε α σ ι),
      ∃ ls, (∀ l ∈ ls, ∃ c r, l = .call c r) ∧
        Run (SessionStep prog does outside) ⟨s, some R⟩ ls (R.serve reply n s) := by
  induction n with
  | zero => exact fun s R => ⟨[], by simp, .nil⟩
  | succ n ih =>
    intro s R
    obtain ⟨what, before, made, rest⟩ := R
    cases rest with
    | done r => exact ⟨[], by simp, .nil⟩
    | call c next =>
      obtain ⟨ls, hcalls, hrun⟩ :=
        ih (reply s c).2 ⟨what, before, made ++ [⟨c, (reply s c).1⟩], next (reply s c).1⟩
      refine ⟨_ :: ls, fun l hl => ?_, hrun.cons (.call (hreply s c))⟩
      rcases List.mem_cons.mp hl with rfl | hl
      · exact ⟨_, _, rfl⟩
      · exact hcalls l hl

/-- **What is computed is a run**, where every answer is one the system can give. -/
theorem play_session (hreply : ∀ how s c, does s c (reply how s c).1 (reply how s c).2)
    (hact : ∀ other s, outside s (act other s)) (turns : List (Turn τ ω ι)) :
    ∀ S : Session κ β ε α σ ι, ∃ ls,
      Run (SessionStep prog does outside) S ls (S.play prog reply act turns) := by
  induction turns with
  | nil => exact fun S => ⟨[], .nil⟩
  | cons turn rest ih =>
    intro S
    have hturn : ∃ ls, Run (SessionStep prog does outside) S ls (S.turn prog reply act turn) := by
      obtain ⟨s, running⟩ := S
      cases turn with
      | begin what =>
        cases running with
        | none => exact ⟨_, .one (.begin what)⟩
        | some R => exact ⟨[], .nil⟩
      | calls how n =>
        cases running with
        | none => exact ⟨[], .nil⟩
        | some R =>
          obtain ⟨ls, -, hrun⟩ := serve_run (hreply how) n s R
          exact ⟨ls, hrun⟩
      | finish =>
        match running with
        | none => exact ⟨[], .nil⟩
        | some ⟨_, _, _, .done _⟩ => exact ⟨_, .one .finish⟩
        | some ⟨_, _, _, .call _ _⟩ => exact ⟨[], .nil⟩
      | crash => exact ⟨_, .one .crash⟩
      | outside other =>
        cases running with
        | none => exact ⟨_, .one (.outside (hact other s))⟩
        | some R => exact ⟨[], .nil⟩
    obtain ⟨ls, hls⟩ := hturn
    obtain ⟨ls', hls'⟩ := ih (S.turn prog reply act turn)
    exact ⟨_, hls.append hls'⟩

end Turns

end TemperatureMonitor
