/-
# Statements in a transaction

Statements read and write the open transaction, one after another, until one
raises: on its own account, or because the connection fails under it. What was
written by then is still in the transaction, and rolled back with it, so a
transaction either runs to its end or leaves the content as it was
(`transaction_cases`).
-/
import Mathlib.Data.List.Basic

namespace TemperatureMonitor

section Transaction

variable {σ ε : Type*} (fault : ℕ → Option ε)

/-- The statements from the `n`-th on: the exception, if one raises, and what is written by then. -/
def execStatements : ℕ → List (σ → Except ε σ) → σ → Option ε × σ
  | _, [], s => (none, s)
  | n, statement :: rest, s =>
    match fault n with
    | some e => (some e, s)
    | none =>
      match statement s with
      | .error e => (some e, s)
      | .ok s' => execStatements (n + 1) rest s'

/-- `BEGIN IMMEDIATE`, the statements and `COMMIT`; `ROLLBACK` where one of them raises. -/
def transaction (statements : List (σ → Except ε σ)) (s : σ) : Option ε × σ :=
  match execStatements fault 0 (statements ++ [.ok]) s with
  | (none, s') => (none, s')
  | (some e, _) => (some e, s)

variable {fault} {statement : σ → Except ε σ} {statements rest : List (σ → Except ε σ)}
  {s s' : σ} {n : ℕ}

/-- Statements that come to their end, without the connection. -/
def StatementsRun (statements : List (σ → Except ε σ)) (s s' : σ) : Prop :=
  statements.foldlM (fun s f => f s) s = .ok s'

theorem statementsRun_nil : StatementsRun ([] : List (σ → Except ε σ)) s s' ↔ s = s' := by
  unfold StatementsRun
  constructor
  · intro h
    exact Except.ok.inj h
  · rintro rfl
    rfl

theorem statementsRun_cons : StatementsRun (statement :: rest) s s' ↔ ∃ s₁, statement s = .ok s₁ ∧
    StatementsRun rest s₁ s' := by
  unfold StatementsRun
  rw [List.foldlM_cons]
  constructor
  · intro h
    cases hst : statement s with
    | error e =>
      rw [hst] at h
      cases h
    | ok s₁ =>
      rw [hst] at h
      exact ⟨s₁, rfl, h⟩
  · rintro ⟨s₁, hst, h⟩
    rw [hst]
    exact h

theorem statementsRun_append : StatementsRun (statements ++ rest) s s' ↔
    ∃ s₁, StatementsRun statements s s₁ ∧ StatementsRun rest s₁ s' := by
  induction statements generalizing s with
  | nil => simp [statementsRun_nil]
  | cons statement statements ih =>
    rw [List.cons_append, statementsRun_cons]
    constructor
    · rintro ⟨s₁, hst, h⟩
      obtain ⟨s₂, h₂, h⟩ := ih.mp h
      exact ⟨s₂, statementsRun_cons.mpr ⟨s₁, hst, h₂⟩, h⟩
    · rintro ⟨s₂, h₂, h⟩
      obtain ⟨s₁, hst, h₁⟩ := statementsRun_cons.mp h₂
      exact ⟨s₁, hst, ih.mpr ⟨s₂, h₁, h⟩⟩

theorem execStatements_run : ∀ {statements : List (σ → Except ε σ)} {n : ℕ} {s s' : σ},
    execStatements fault n statements s = (none, s') → StatementsRun statements s s'
  | [], _, s, s', h => by
    unfold execStatements at h
    exact statementsRun_nil.mpr (Prod.mk.inj h).2
  | statement :: rest, n, s, s', h => by
    unfold execStatements at h
    cases hf : fault n with
    | some e =>
      rw [hf] at h
      cases h
    | none =>
      cases hst : statement s with
      | error e =>
        rw [hf, hst] at h
        cases h
      | ok s₁ =>
        rw [hf, hst] at h
        exact statementsRun_cons.mpr ⟨s₁, hst, execStatements_run h⟩

/-- **All of it or nothing.** -/
theorem transaction_cases (fault : ℕ → Option ε) (statements : List (σ → Except ε σ)) (s : σ) :
    (∃ s', transaction fault statements s = (none, s') ∧ StatementsRun statements s s') ∨
      ∃ e, transaction fault statements s = (some e, s) := by
  unfold transaction
  cases hrun : execStatements fault 0 (statements ++ [.ok]) s with
  | mk raised s' =>
    cases raised with
    | some e => exact .inr ⟨e, rfl⟩
    | none =>
      obtain ⟨s₁, h₁, hcommit⟩ := statementsRun_append.mp (execStatements_run hrun)
      obtain ⟨s₂, h₂, hend⟩ := statementsRun_cons.mp hcommit
      obtain rfl := statementsRun_nil.mp hend
      obtain rfl := Except.ok.inj h₂
      exact .inl ⟨s₁, rfl, h₁⟩

end Transaction

end TemperatureMonitor
