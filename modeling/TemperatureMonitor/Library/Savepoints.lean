/-
# Transactions with savepoints

A database as one connection sees it: what is durable, and an open transaction
with its savepoints. A content is the list of the writes in it. `kept` reads
off a history which writes no later rollback undoes; while a history is
written (`Records`), the open transaction has exactly these writes behind the
content it began with.
-/
import Mathlib.Data.List.Basic

namespace TemperatureMonitor

variable {W : Type*}

structure Savepoint (W : Type*) where
  name : ℕ
  saved : List W
deriving DecidableEq

/-- The innermost savepoint is first. -/
structure Transaction (W : Type*) where
  content : List W
  savepoints : List (Savepoint W) := []
deriving DecidableEq

structure Sqlite (W : Type*) where
  durable : List W := []
  /-- The contents that were durable before, newest first. -/
  earlier : List (List W) := []
  tx : Option (Transaction W) := none
deriving DecidableEq

namespace Sqlite

/-- `BEGIN IMMEDIATE`. -/
def begin_ (d : Sqlite W) : Sqlite W := { d with tx := some { content := d.durable } }

/-- A write outside a transaction opens one. -/
def write (w : W) (d : Sqlite W) : Sqlite W :=
  match d.tx with
  | none => { d with tx := some { content := d.durable ++ [w] } }
  | some t => { d with tx := some { t with content := t.content ++ [w] } }

/-- `SAVEPOINT`, in an open transaction. -/
def savepoint (name : ℕ) (t : Transaction W) (d : Sqlite W) : Sqlite W :=
  { d with tx := some { t with savepoints := ⟨name, t.content⟩ :: t.savepoints } }

/-- The savepoints from a name on: there may be no such savepoint. -/
def find (name : ℕ) (t : Transaction W) : List (Savepoint W) :=
  t.savepoints.dropWhile (·.name ≠ name)

/-- `ROLLBACK TO SAVEPOINT`: the savepoint stays. -/
def rollbackTo (name : ℕ) (d : Sqlite W) : Option (Sqlite W) :=
  match d.tx with
  | none => none
  | some t =>
    match find name t with
    | [] => none
    | s :: rest => some { d with tx := some { content := s.saved, savepoints := s :: rest } }

/-- `RELEASE SAVEPOINT`. -/
def release (name : ℕ) (d : Sqlite W) : Option (Sqlite W) :=
  match d.tx with
  | none => none
  | some t =>
    match find name t with
    | [] => none
    | _ :: rest => some { d with tx := some { t with savepoints := rest } }

/-- `COMMIT`; without a transaction it does nothing. -/
def commit (d : Sqlite W) : Sqlite W :=
  match d.tx with
  | none => d
  | some t => { durable := t.content, earlier := d.durable :: d.earlier, tx := none }

def rollback (d : Sqlite W) : Sqlite W := { d with tx := none }

end Sqlite

/-! ### Histories -/

inductive TxEvent (W : Type*)
  | wrote (w : W)
  | opened (name : ℕ)
  | released (name : ℕ)
  | undone (name : ℕ)
deriving DecidableEq

def TxEvent.isUndo (name : ℕ) : TxEvent W → Bool
  | .undone n => n = name
  | _ => false

/-- The savepoint of a name is rolled back in the history. -/
def undoes (name : ℕ) (es : List (TxEvent W)) : Bool := es.any (TxEvent.isUndo name)

/-- The writes that no later rollback to a savepoint opened before them undoes. -/
def kept (opened : List ℕ) : List (TxEvent W) → List W
  | [] => []
  | .wrote w :: es =>
    if opened.any fun n => undoes n es then kept opened es else w :: kept opened es
  | .opened n :: es => kept (n :: opened) es
  | .released _ :: es => kept opened es
  | .undone _ :: es => kept opened es

section Kept

variable {n : ℕ} {es es₁ es₂ : List (TxEvent W)}

@[simp] theorem undoes_nil (n : ℕ) : undoes n ([] : List (TxEvent W)) = false := rfl

@[simp] theorem undoes_cons (n : ℕ) (e : TxEvent W) (es : List (TxEvent W)) :
    undoes n (e :: es) = (e.isUndo n || undoes n es) := rfl

@[simp] theorem undoes_append (es₁ es₂ : List (TxEvent W)) (n : ℕ) :
    undoes n (es₁ ++ es₂) = (undoes n es₁ || undoes n es₂) := by
  simp [undoes]

/-- An event that undoes nothing leaves what is kept. -/
theorem kept_append {e : TxEvent W} (he : ∀ n, e.isUndo n = false) :
    ∀ (es : List (TxEvent W)) (o : List ℕ), kept o (es ++ [e]) = kept o es ++ kept [] [e]
  | [], o => by
    cases e with
    | wrote w => simp [kept]
    | _ => simp [kept]
  | .wrote w :: es, o => by
    simp only [List.cons_append, kept, undoes_append, undoes_cons, undoes_nil, he, Bool.or_false,
      kept_append he es]
    split_ifs <;> simp
  | .opened m :: es, o => by simp only [List.cons_append, kept, kept_append he es]
  | .released m :: es, o => by simp only [List.cons_append, kept, kept_append he es]
  | .undone m :: es, o => by simp only [List.cons_append, kept, kept_append he es]

/-- Nothing written under an open savepoint survives its rollback. -/
theorem kept_undone : ∀ (es : List (TxEvent W)) {o : List ℕ}, n ∈ o →
    kept o (es ++ [.undone n]) = []
  | [], o, h => by simp [kept]
  | .wrote w :: es, o, h => by
    have hany : o.any (fun m => undoes m (es ++ [.undone n])) = true :=
      List.any_eq_true.mpr ⟨n, h, by simp [TxEvent.isUndo]⟩
    simp only [List.cons_append, kept, hany, if_true]
    exact kept_undone es h
  | .opened m :: es, o, h => by
    simp only [List.cons_append, kept]
    exact kept_undone es (List.mem_cons_of_mem _ h)
  | .released m :: es, o, h => by
    simp only [List.cons_append, kept]
    exact kept_undone es h
  | .undone m :: es, o, h => by
    simp only [List.cons_append, kept]
    exact kept_undone es h

/-- A rollback leaves what was kept when its savepoint was opened. -/
theorem kept_rollback : ∀ (es₁ : List (TxEvent W)) {o : List ℕ}, n ∉ o → .opened n ∉ es₁ →
    (∀ m ∈ o, undoes m es₂ = false) → (∀ m, .opened m ∈ es₁ → undoes m es₂ = false) →
    kept o (es₁ ++ .opened n :: (es₂ ++ [.undone n])) = kept o es₁
  | [], o, hn, _, ho, _ => by
    simp only [List.nil_append, kept]
    exact kept_undone es₂ List.mem_cons_self
  | .wrote w :: es₁, o, hn, hes, ho, hall => by
    have hsame : (o.any fun m => undoes m (es₁ ++ .opened n :: (es₂ ++ [.undone n]))) =
        o.any fun m => undoes m es₁ := by
      rw [Bool.eq_iff_iff, List.any_eq_true, List.any_eq_true]
      refine exists_congr fun m => and_congr_right fun hm => ?_
      have hne : n ≠ m := fun he => hn (he ▸ hm)
      simp [ho m hm, hne, TxEvent.isUndo]
    simp only [List.cons_append, kept, hsame]
    rw [kept_rollback es₁ hn (fun h => hes (List.mem_cons_of_mem _ h)) ho fun m hm =>
      hall m (List.mem_cons_of_mem _ hm)]
  | .opened m :: es₁, o, hn, hes, ho, hall => by
    simp only [List.cons_append, kept]
    refine kept_rollback es₁ ?_ (fun h => hes (List.mem_cons_of_mem _ h)) ?_ fun k hk =>
      hall k (List.mem_cons_of_mem _ hk)
    · intro h
      rcases List.mem_cons.mp h with rfl | h
      · exact hes List.mem_cons_self
      · exact hn h
    · intro k hk
      rcases List.mem_cons.mp hk with rfl | hk
      · exact hall k List.mem_cons_self
      · exact ho k hk
  | .released m :: es₁, o, hn, hes, ho, hall => by
    simp only [List.cons_append, kept]
    exact kept_rollback es₁ hn (fun h => hes (List.mem_cons_of_mem _ h)) ho fun m hm =>
      hall m (List.mem_cons_of_mem _ hm)
  | .undone m :: es₁, o, hn, hes, ho, hall => by
    simp only [List.cons_append, kept]
    exact kept_rollback es₁ hn (fun h => hes (List.mem_cons_of_mem _ h)) ho fun m hm =>
      hall m (List.mem_cons_of_mem _ hm)

end Kept

/-! ### Transactions and their histories -/

/-- A content and its open savepoints are what a history since `start` left. -/
structure Records (start : List W) (next : ℕ) (es : List (TxEvent W)) (own : List (Savepoint W))
    (content : List W) : Prop where
  content_eq : content = start ++ kept [] es
  fresh : ∀ m, .opened m ∈ es → m < next
  ordered : own.Pairwise fun a b => b.name < a.name
  saved : ∀ s ∈ own, ∃ es₁ es₂, es = es₁ ++ .opened s.name :: es₂ ∧ s.saved = start ++ kept [] es₁ ∧
    ∀ m, .opened m ∈ es₁ → m < s.name ∧ undoes m es₂ = false

namespace Records

variable {start content : List W} {next : ℕ} {es : List (TxEvent W)} {own : List (Savepoint W)}
  {s : Savepoint W}

theorem nil (start : List W) (next : ℕ) : Records start next [] [] start :=
  ⟨(List.append_nil _).symm, by simp, .nil, by simp⟩

theorem fresh_append {e : TxEvent W} (h : Records start next es own content)
    (he : ∀ m, e ≠ .opened m) : ∀ m, .opened m ∈ es ++ [e] → m < next := by
  intro m hm
  rcases List.mem_append.mp hm with hm | hm
  · exact h.fresh m hm
  · exact absurd (List.mem_singleton.mp hm).symm (he m)

/-- A savepoint keeps its place in a history that goes on without undoing what was before it. -/
theorem saved_append {e : TxEvent W} (h : Records start next es own content)
    (he : ∀ s ∈ own, ∀ m, m < s.name → e.isUndo m = false) : ∀ s ∈ own, ∃ es₁ es₂,
      es ++ [e] = es₁ ++ .opened s.name :: es₂ ∧ s.saved = start ++ kept [] es₁ ∧
        ∀ m, .opened m ∈ es₁ → m < s.name ∧ undoes m es₂ = false := by
  intro s hs
  obtain ⟨es₁, es₂, rfl, hsaved, hbefore⟩ := h.saved s hs
  refine ⟨es₁, es₂ ++ [e], by simp, hsaved, fun m hm => ?_⟩
  obtain ⟨hlt, hno⟩ := hbefore m hm
  exact ⟨hlt, by simp [hno, he s hs m hlt]⟩

theorem wrote (h : Records start next es own content) (w : W) :
    Records start next (es ++ [.wrote w]) own (content ++ [w]) where
  content_eq := by
    rw [kept_append (fun _ => rfl), h.content_eq]
    simp [kept]
  fresh := h.fresh_append fun _ => by simp
  ordered := h.ordered
  saved := h.saved_append fun _ _ _ _ => rfl

theorem opened (h : Records start next es own content) :
    Records start (next + 1) (es ++ [.opened next]) (⟨next, content⟩ :: own) content where
  content_eq := by
    rw [kept_append (fun _ => rfl), h.content_eq]
    simp [kept]
  fresh := by
    intro m hm
    rcases List.mem_append.mp hm with hm | hm
    · have := h.fresh m hm
      omega
    · cases List.mem_singleton.mp hm
      omega
  ordered := by
    refine List.pairwise_cons.mpr ⟨fun s hs => ?_, h.ordered⟩
    obtain ⟨es₁, es₂, rfl, -⟩ := h.saved s hs
    exact h.fresh s.name (by simp)
  saved := by
    intro s hs
    rcases List.mem_cons.mp hs with rfl | hs
    · exact ⟨es, [], rfl, h.content_eq, fun m hm => ⟨h.fresh m hm, rfl⟩⟩
    · exact h.saved_append (fun _ _ _ _ => rfl) s hs

theorem released (h : Records start next es (s :: own) content) (name : ℕ) :
    Records start next (es ++ [.released name]) own content where
  content_eq := by
    rw [kept_append (fun _ => rfl), h.content_eq]
    simp [kept]
  fresh := h.fresh_append fun _ => by simp
  ordered := (List.pairwise_cons.mp h.ordered).2
  saved := fun u hu => h.saved_append (fun _ _ _ _ => rfl) u (List.mem_cons_of_mem _ hu)

/-- A rollback to the innermost savepoint, which is released. -/
theorem undone (h : Records start next es (s :: own) content) :
    Records start next (es ++ [.undone s.name]) own s.saved where
  content_eq := by
    obtain ⟨es₁, es₂, rfl, hsaved, hbefore⟩ := h.saved s List.mem_cons_self
    rw [hsaved, List.append_assoc, List.cons_append, kept_rollback es₁ (by simp)
      (fun hm => absurd (hbefore _ hm).1 (Nat.lt_irrefl _)) (by simp) fun m hm => (hbefore m hm).2]
  fresh := h.fresh_append fun _ => by simp
  ordered := (List.pairwise_cons.mp h.ordered).2
  saved := by
    intro u hu
    obtain ⟨es₁, es₂, rfl, hsaved, hbefore⟩ := h.saved u (List.mem_cons_of_mem _ hu)
    have hlt := (List.pairwise_cons.mp h.ordered).1 u hu
    refine ⟨es₁, es₂ ++ [.undone s.name], by simp, hsaved, fun m hm => ?_⟩
    obtain ⟨hm', hno⟩ := hbefore m hm
    refine ⟨hm', ?_⟩
    have hne : s.name ≠ m := by omega
    simp [hno, TxEvent.isUndo, hne]

end Records

end TemperatureMonitor
