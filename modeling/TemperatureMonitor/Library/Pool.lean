/-
# Programs side by side

Any number of programs on one state: each begins when it likes, and its calls
come between those of the others. What a program does whatever it is answered
is followed by an automaton over its own calls (`Prog.Obeys`), and this holds of
every program of a pool at any moment (`Pool.obeys`). A session, where one
program runs at a time, is a pool (`Session.pool_run`).
-/
import TemperatureMonitor.Library.Program

namespace TemperatureMonitor

variable {κ : Type} {β : κ → Type} {ε α σ ι γ : Type}

/-! ### What a program does whatever it is answered -/

namespace Prog

section Obeys

variable (can : (c : κ) → Except ε (β c) → Prop) (allowed : γ → κ → Prop)
  (next : γ → Made κ β ε → γ)

/-- In the state `g` of an automaton that reads the calls and their answers,
each call of the program is one the automaton allows. -/
def Obeys (p : Prog κ β ε α) (g : γ) (Q : γ → Prop) : Prop :=
  p.wp allowed (fun g c r g' => can c r ∧ g' = next g ⟨c, r⟩) (fun _ g' => Q g') g

variable {can allowed next} {p : Prog κ β ε α} {g : γ} {Q Q' : γ → Prop}

/-- What follows may begin in any state the first part leaves, by a value or an exception. -/
theorem obeys_bind {δ : Type} {f : α → Prog κ β ε δ} (hp : Obeys can allowed next p g Q)
    (hf : ∀ a g, Q g → Obeys can allowed next (f a) g Q')
    (hQ : ∀ g, Q g → Q' g) : Obeys can allowed next (p >>= f) g Q' := by
  refine wp_bind.mpr (wp_mono hp fun r g hg => ?_)
  cases r with
  | ok a => exact hf a g hg
  | error e => exact hQ g hg

theorem obeys_captured (hp : Obeys can allowed next p g Q) :
    Obeys can allowed next p.captured g Q :=
  wp_captured.mpr (wp_mono hp fun _ _ hg => hg)

theorem obeys_perform {c : κ} {Q : γ → Prop} (hc : allowed g c)
    (h : ∀ r, can c r → Q (next g ⟨c, r⟩)) : Obeys can allowed next (perform c) g Q :=
  wp_perform.mpr ⟨hc, fun r _ hg => hg.2 ▸ h r hg.1⟩

/-- Calls the automaton passes over. -/
theorem Calls.obeys {P : κ → Prop} (h : p.Calls P) (hallowed : ∀ c, P c → allowed g c)
    (hnext : ∀ c r, P c → next g ⟨c, r⟩ = g) : Obeys can allowed next p g (· = g) := by
  refine Calls.wp (I := (· = g)) h (fun g' c r g'' hc hg hd => ?_) (fun g' c hc hg => ?_) rfl
  · subst hg
    rw [hd.2]
    exact hnext c r hc
  · subst hg
    exact hallowed c hc

end Obeys

end Prog

/-! ### Pools -/

structure Pool (κ : Type) (β : κ → Type) (ε α σ ι : Type) where
  state : σ
  running : List (Running κ β ε α σ ι) := []

/-- As for a session, with what the program at work was begun for. -/
inductive PoolLabel (κ : Type) (β : κ → Type) (ε α ι : Type)
  | begin (what : ι)
  | call (what : ι) (c : κ) (r : Except ε (β c))
  | finish (what : ι) (r : Except ε α)
  | crash
  | outside

/-- The program after a call. -/
abbrev Running.after (R : Running κ β ε α σ ι) {c : κ} (r : Except ε (β c)) (rest : Prog κ β ε α) :
    Running κ β ε α σ ι :=
  { R with made := R.made ++ [⟨c, r⟩], rest }

/-- Any program of the pool goes on, one call at a time. -/
inductive PoolStep (prog : ι → Prog κ β ε α) (does : σ → (c : κ) → Except ε (β c) → σ → Prop)
    (outside : σ → σ → Prop) : Pool κ β ε α σ ι → PoolLabel κ β ε α ι → Pool κ β ε α σ ι → Prop
  | begin {s : σ} {rs : List (Running κ β ε α σ ι)} (what : ι) :
    PoolStep prog does outside ⟨s, rs⟩ (.begin what)
      ⟨s, { what, before := s, rest := prog what } :: rs⟩
  | call {s s' : σ} {as bs : List (Running κ β ε α σ ι)} {R : Running κ β ε α σ ι} {c : κ}
      {next : Except ε (β c) → Prog κ β ε α} {r : Except ε (β c)} : R.rest = .call c next →
        does s c r s' →
      PoolStep prog does outside ⟨s, as ++ R :: bs⟩ (.call R.what c r)
        ⟨s', as ++ R.after r (next r) :: bs⟩
  | finish {s : σ} {as bs : List (Running κ β ε α σ ι)} {R : Running κ β ε α σ ι} {r : Except ε α} :
      R.rest = .done r →
        PoolStep prog does outside ⟨s, as ++ R :: bs⟩ (.finish R.what r) ⟨s, as ++ bs⟩
  | crash {s : σ} {rs : List (Running κ β ε α σ ι)} : PoolStep prog does outside ⟨s, rs⟩ .crash ⟨s, []⟩
  | outside {s s' : σ} {rs : List (Running κ β ε α σ ι)} : outside s s' →
      PoolStep prog does outside ⟨s, rs⟩ .outside ⟨s', rs⟩

section Pools

variable {prog : ι → Prog κ β ε α} {does : σ → (c : κ) → Except ε (β c) → σ → Prop}
  {outside : σ → σ → Prop}
  {S S' : Pool κ β ε α σ ι} {ls : List (PoolLabel κ β ε α ι)} {l : PoolLabel κ β ε α ι} {s : σ}

/-- What holds of every program of a pool: of one that begins, and of what a call makes of one. -/
theorem PoolStep.forall_running {P : Running κ β ε α σ ι → Prop}
    (h : PoolStep prog does outside S l S')
    (hS : ∀ R ∈ S.running, P R) (hbegin : ∀ what before, P { what, before, rest := prog what })
    (hcall : ∀ R c next r, l = .call R.what c r → R ∈ S.running → R.rest = .call c next →
      does S.state c r S'.state → P R → P (R.after r (next r))) : ∀ R ∈ S'.running, P R := by
  cases h with
  | begin what =>
    intro R hR
    rcases List.mem_cons.mp hR with rfl | hR
    · exact hbegin what _
    · exact hS R hR
  | @call s s' as bs R₀ c next r hrest hd =>
    have hmem : R₀ ∈ as ++ R₀ :: bs := by simp
    intro R hR
    rcases List.mem_append.mp hR with hR | hR
    · exact hS R (List.mem_append_left _ hR)
    · rcases List.mem_cons.mp hR with rfl | hR
      · exact hcall R₀ c next r rfl hmem hrest hd (hS R₀ hmem)
      · exact hS R (List.mem_append_right _ (List.mem_cons_of_mem _ hR))
  | finish =>
    intro R hR
    rcases List.mem_append.mp hR with hR | hR
    · exact hS R (List.mem_append_left _ hR)
    · exact hS R (List.mem_append_right _ (List.mem_cons_of_mem _ hR))
  | crash => exact fun R hR => absurd hR List.not_mem_nil
  | outside => exact hS

/-- A state that every call and the others keep. -/
theorem PoolStep.state {I : σ → Prop} (h : PoolStep prog does outside S l S') (hS : I S.state)
    (hcall : ∀ what c r, l = .call what c r → does S.state c r S'.state → I S'.state)
    (hout : outside S.state S'.state → I S'.state) : I S'.state := by
  cases h with
  | begin | finish | crash => exact hS
  | call _ hd => exact hcall _ _ _ rfl hd
  | outside ho => exact hout ho

/-- **Every program of a pool obeys its automaton**, whatever the others do. -/
theorem Pool.obeys {can : (c : κ) → Except ε (β c) → Prop} {allowed : ι → γ → κ → Prop}
    {next : γ → Made κ β ε → γ} {start : γ}
    {Q : ι → γ → Prop} (hcan : ∀ s c r s', does s c r s' → can c r)
    (hprog : ∀ what, Prog.Obeys can (allowed what) next (prog what) start (Q what))
    (h : Run (PoolStep prog does outside) ⟨s, []⟩ ls S) :
    ∀ R ∈ S.running, Prog.Obeys can (allowed R.what) next R.rest (R.made.foldl next start)
      (Q R.what) := by
  refine Run.inv (I := fun S : Pool κ β ε α σ ι => ∀ R ∈ S.running,
    Prog.Obeys can (allowed R.what) next R.rest (R.made.foldl next start) (Q R.what))
    (fun R hR => absurd hR List.not_mem_nil) (fun S l S' hS hstep => ?_) h
  refine hstep.forall_running hS (fun what before => hprog what) fun R c k r _ _ hrest hd hR => ?_
  rw [hrest] at hR
  rw [List.foldl_append]
  exact hR.2 r _ ⟨hcan _ _ _ _ hd, rfl⟩

/-! ### Sessions are pools -/

/-- The program of a session is the only one of its pool. -/
def Session.pool (S : Session κ β ε α σ ι) : Pool κ β ε α σ ι := ⟨S.state, S.running.toList⟩

theorem SessionStep.pool {S S' : Session κ β ε α σ ι} {l : SessionLabel κ β ε α ι}
    (h : SessionStep prog does outside S l S') :
    ∃ l', PoolStep prog does outside S.pool l' S'.pool := by
  cases h with
  | begin what => exact ⟨_, .begin what⟩
  | @call s s' what before made c next r hd =>
    have hstep : PoolStep prog does outside ⟨s, [] ++ ⟨what, before, made, .call c next⟩ :: []⟩
        (.call what c r)
      ⟨s', [] ++ ⟨what, before, made ++ [⟨c, r⟩], next r⟩ :: []⟩ := .call rfl hd
    exact ⟨_, hstep⟩
  | @finish s what before made r =>
    have hstep : PoolStep prog does outside ⟨s, [] ++ ⟨what, before, made, .done r⟩ :: []⟩
        (.finish what r) ⟨s, [] ++ []⟩ :=
      .finish rfl
    exact ⟨_, hstep⟩
  | crash => exact ⟨_, .crash⟩
  | outside ho => exact ⟨_, .outside ho⟩

theorem Session.pool_run {S S' : Session κ β ε α σ ι} {ls : List (SessionLabel κ β ε α ι)}
    (h : Run (SessionStep prog does outside) S ls S') :
    ∃ ls', Run (PoolStep prog does outside) S.pool ls' S'.pool := by
  induction h with
  | nil => exact ⟨[], .nil⟩
  | snoc _ hstep ih =>
    obtain ⟨ls', hrun⟩ := ih
    obtain ⟨l', hl⟩ := hstep.pool
    exact ⟨_, hrun.snoc hl⟩

end Pools

/-! ### Pools that are computed -/

/-- One turn of a pool: a program is begun, one goes on for a call that is
answered by `how`, one ends, all are lost, or others do something. -/
inductive PoolTurn (τ ω ι : Type)
  | begin (what : ι)
  | call (how : τ) (i : ℕ)
  | finish (i : ℕ)
  | crash
  | outside (other : ω)

section Turns

variable {τ ω : Type} (prog : ι → Prog κ β ε α) (reply : τ → σ → (c : κ) → Except ε (β c) × σ)
  (act : ω → σ → σ)

/-- A turn; one that cannot be taken changes nothing. -/
def Pool.turn (S : Pool κ β ε α σ ι) : PoolTurn τ ω ι → Pool κ β ε α σ ι
  | .begin what => ⟨S.state, { what, before := S.state, rest := prog what } :: S.running⟩
  | .call how i =>
    match S.running[i]? with
    | some ⟨what, before, made, .call c next⟩ =>
      ⟨(reply how S.state c).2, S.running.take i ++
        ⟨what, before, made ++ [⟨c, (reply how S.state c).1⟩], next (reply how S.state c).1⟩ ::
          S.running.drop (i + 1)⟩
    | _ => S
  | .finish i =>
    match S.running[i]? with
    | some ⟨_, _, _, .done _⟩ => ⟨S.state, S.running.take i ++ S.running.drop (i + 1)⟩
    | _ => S
  | .crash => ⟨S.state, []⟩
  | .outside other => ⟨act other S.state, S.running⟩

def Pool.play (S : Pool κ β ε α σ ι) (turns : List (PoolTurn τ ω ι)) : Pool κ β ε α σ ι :=
  turns.foldl (Pool.turn prog reply act) S

variable {prog reply act} {does : σ → (c : κ) → Except ε (β c) → σ → Prop} {outside : σ → σ → Prop}

/-- The program in a place of a pool. -/
theorem running_split {rs : List (Running κ β ε α σ ι)} {i : ℕ} {R : Running κ β ε α σ ι}
    (h : rs[i]? = some R) : rs = rs.take i ++ R :: rs.drop (i + 1) := by
  obtain ⟨hlt, rfl⟩ := List.getElem?_eq_some_iff.mp h
  rw [List.getElem_cons_drop, List.take_append_drop]

/-- **What is computed is a run**, where every answer is one the system can give. -/
theorem play_pool (hreply : ∀ how s c, does s c (reply how s c).1 (reply how s c).2)
    (hact : ∀ other s, outside s (act other s)) (turns : List (PoolTurn τ ω ι)) :
    ∀ S : Pool κ β ε α σ ι, ∃ ls,
      Run (PoolStep prog does outside) S ls (S.play prog reply act turns) := by
  induction turns with
  | nil => exact fun S => ⟨[], .nil⟩
  | cons turn rest ih =>
    intro S
    have hturn : ∃ ls, Run (PoolStep prog does outside) S ls (S.turn prog reply act turn) := by
      obtain ⟨s, rs⟩ := S
      cases turn with
      | begin what => exact ⟨_, .one (.begin what)⟩
      | call how i =>
        unfold Pool.turn
        dsimp only
        split
        · rename_i what before made c next hR
          have hstep :
              PoolStep prog does outside
              ⟨s, rs.take i ++ ⟨what, before, made, .call c next⟩ :: rs.drop (i + 1)⟩ _ _ :=
            .call rfl (hreply how s c)
          rw [← running_split hR] at hstep
          exact ⟨_, .one hstep⟩
        · exact ⟨[], .nil⟩
      | finish i =>
        unfold Pool.turn
        dsimp only
        split
        · rename_i what before made r hR
          have hstep :
              PoolStep prog does outside
              ⟨s, rs.take i ++ ⟨what, before, made, .done r⟩ :: rs.drop (i + 1)⟩ _ _ :=
            .finish rfl
          rw [← running_split hR] at hstep
          exact ⟨_, .one hstep⟩
        · exact ⟨[], .nil⟩
      | crash => exact ⟨_, .one .crash⟩
      | outside other => exact ⟨_, .one (.outside (hact other s))⟩
    obtain ⟨ls, hls⟩ := hturn
    obtain ⟨ls', hls'⟩ := ih (S.turn prog reply act turn)
    exact ⟨_, hls.append hls'⟩

end Turns

end TemperatureMonitor
