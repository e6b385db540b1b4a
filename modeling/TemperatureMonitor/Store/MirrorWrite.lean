/-
# Operations of the mirror

`_mirror_write` puts an operation into a unit of work of its own and turns a
caught failure into a rollback: the operation returns `False`, and the database
is the one it found, also inside a transaction of the caller (`mirrorWrite_false`).
-/
import TemperatureMonitor.Store.RepositoryCall

namespace TemperatureMonitor

variable {W : Type*}

inductive MirrorResult
  | returned (ok : Bool)
  | raised
deriving DecidableEq

/-- What the connection shows: the open transaction, or what is durable. -/
def Sqlite.visible (db : Sqlite W) : List W :=
  match db.tx with
  | none => db.durable
  | some t => t.content

/-- The operation's statements and `commit_sqlite`; a `sqlite3.Error` is caught, and the failure
raised again as `_MirrorWriteFailed`. -/
def mirrorBody (k : Call W) : Body W :=
  .unit (.attempt (.seq (k.statements false) (.commit .done)) .exception (.fail .exception))
    k.commit

/-- `_mirror_write`, around an operation that refuses its arguments (`none`) or makes a call.
Without a connection nothing is done. -/
def mirrorWrite (connected : Bool) (operation : Option (Call W)) (c : Conn W) :
    MirrorResult × Conn W :=
  if connected then
    match operation with
    | none => (.returned false, (exec (.unit (.fail .exception) .done) c).2)
    | some k =>
      let r := exec (mirrorBody k) c
      if k.fault.isSome then (.returned false, r.2)
      else match r.1 with
        | .ok => (.returned true, r.2)
        -- the `COMMIT` of the unit failed
        | .raised _ => (.raised, r.2)
  else (.returned false, c)

section Mirror

variable {c : Conn W}

/-- A unit around statements of its own, as far as they came. -/
def openUnit (c : Conn W) (ws : List W) (log : List (TxEvent W)) : Conn W :=
  { beginFrame .unit c with db := (beginFrame .unit c).db.writeAll ws, log := log }

theorem openUnit_idle (h : c.db.tx = none) (ws : List W) (log : List (TxEvent W)) :
    openUnit c ws log = { c with db := { c.db with tx := some { content := c.db.durable ++ ws } }
                                 frames := ⟨.unit, none⟩ :: c.frames, log := log } := by
  unfold openUnit beginFrame
  rw [h]
  dsimp only
  rw [writeAll_open (t := { content := c.db.durable }) rfl]
  rfl

theorem openUnit_nested {t : Transaction W} (h : c.db.tx = some t) (ws : List W)
    (log : List (TxEvent W)) : openUnit c ws log =
      { c with db := { c.db with tx := some ⟨t.content ++ ws, ⟨c.next, t.content⟩ :: t.savepoints⟩ }
               frames := ⟨.unit, some c.next⟩ :: c.frames, next := c.next + 1, log := log } := by
  unfold openUnit beginFrame
  rw [h]
  dsimp only
  rw [writeAll_open (t := ⟨t.content, ⟨c.next, t.content⟩ :: t.savepoints⟩) rfl]
  rfl

/-- A unit that raised with no frame of its own open leaves the database it found. -/
theorem endUnit_raised (ws : List W) (log : List (TxEvent W)) (e : Raised) (result : CommitResult) :
    (endUnit c.frames.length result (.raised e, openUnit c ws log)).2.db = c.db := by
  have hlen : (openUnit c ws log).frames.length - c.frames.length = 1 := by
    have hframes : (openUnit c ws log).frames.length = c.frames.length + 1 := by
      cases h : c.db.tx with
      | none => rw [openUnit_idle h, List.length_cons]
      | some t => rw [openUnit_nested h, List.length_cons]
    omega
  simp only [endUnit, hlen, unwind]
  obtain ⟨⟨durable, earlier, tx⟩, frames, next, clog, ended, abandoned⟩ := c
  cases tx with
  | none =>
    rw [openUnit_idle rfl]
    rfl
  | some t =>
    rw [openUnit_nested rfl]
    simp [finishFrame, finishSavepoint, Sqlite.rollbackTo, Sqlite.release, Sqlite.find]

/-- A unit that ends shows its writes, or its `COMMIT` failed and nothing of it is left. -/
theorem endUnit_ok (ws : List W) (log : List (TxEvent W)) (result : CommitResult) :
    ((endUnit c.frames.length result (.ok, openUnit c ws log)).1 = .ok ∧
      (endUnit c.frames.length result (.ok, openUnit c ws log)).2.db.visible = c.db.visible ++ ws) ∨
    ((∃ e, (endUnit c.frames.length result (.ok, openUnit c ws log)).1 = .raised e) ∧
      (endUnit c.frames.length result (.ok, openUnit c ws log)).2.db.visible = c.db.visible) := by
  obtain ⟨⟨durable, earlier, tx⟩, frames, next, clog, ended, abandoned⟩ := c
  cases tx with
  | none =>
    rw [openUnit_idle rfl]
    cases result with
    | done => exact .inl ⟨rfl, rfl⟩
    | failed => exact .inr ⟨⟨_, rfl⟩, rfl⟩
    | failedEnded => exact .inr ⟨⟨_, rfl⟩, rfl⟩
  | some t =>
    rw [openUnit_nested rfl]
    left
    simp [endUnit, finishFrame, finishSavepoint, Sqlite.release, Sqlite.find, Sqlite.visible]

/-- The body of an operation: it raises as a whole, or all its statements have been run. -/
theorem exec_mirrorBody (k : Call W) (c : Conn W) : ∃ ws log, (k.fault = none → ws = k.writes) ∧
    exec (mirrorBody k) c =
      endUnit c.frames.length k.commit ((if k.fault = none then .ok else .raised .exception),
        openUnit c ws log) := by
  obtain ⟨ws, log, hstmt, hws⟩ := exec_statements k false (beginFrame .unit c)
  refine ⟨ws, log, hws, ?_⟩
  have hexec : exec (k.statements false) (beginFrame .unit c) =
      ((if k.fault = none ∧ false = false then .ok else .raised .exception), openUnit c ws log) :=
        hstmt
  have hcommit : commitSqlite .done (openUnit c ws log) = (.ok, openUnit c ws log) := by
    cases h : c.db.tx with
    | none =>
      rw [openUnit_idle h]
      rfl
    | some t =>
      rw [openUnit_nested h]
      rfl
  unfold mirrorBody
  simp only [exec]
  rw [hexec]
  by_cases hf : k.fault = none
  · rw [if_pos ⟨hf, rfl⟩, if_pos hf]
    simp only [hcommit]
  · rw [if_neg fun h => hf h.1, if_neg hf]
    rfl

/-- **An operation that returns `False` leaves the database.** -/
theorem mirrorWrite_false {connected : Bool} {operation : Option (Call W)}
    (h : (mirrorWrite connected operation c).1 = .returned false) :
    (mirrorWrite connected operation c).2.db = c.db := by
  unfold mirrorWrite at h ⊢
  cases connected with
  | false => rfl
  | true =>
    cases operation with
    | none => exact endUnit_raised [] (beginFrame .unit c).log .exception .done
    | some k =>
      simp only [if_true] at h ⊢
      obtain ⟨ws, log, -, hexec⟩ := exec_mirrorBody k c
      rw [hexec] at h ⊢
      by_cases hf : k.fault = none
      · rw [if_pos hf, hf] at h
        simp only [Option.isSome_none, Bool.false_eq_true, if_false] at h
        split at h <;> cases h
      · rw [if_neg hf, if_pos (Option.isSome_iff_ne_none.mpr hf)]
        exact endUnit_raised ws log .exception k.commit

/-- An operation that returns `True` has done all it does. -/
theorem mirrorWrite_true {connected : Bool} {operation : Option (Call W)}
    (h : (mirrorWrite connected operation c).1 = .returned true) :
    ∃ k, operation = some k ∧
      (mirrorWrite connected operation c).2.db.visible = c.db.visible ++ k.writes := by
  unfold mirrorWrite at h ⊢
  cases connected with
  | false => cases h
  | true =>
    cases operation with
    | none => cases h
    | some k =>
      simp only [if_true] at h ⊢
      obtain ⟨ws, log, hws, hexec⟩ := exec_mirrorBody k c
      rw [hexec] at h ⊢
      by_cases hf : k.fault = none
      · rw [if_pos hf, hf] at h ⊢
        simp only [Option.isSome_none, Bool.false_eq_true, if_false] at h ⊢
        refine ⟨k, rfl, ?_⟩
        rcases endUnit_ok (c := c) ws log k.commit with ⟨hok, hvis⟩ | ⟨⟨e, he⟩, -⟩
        · rw [hok]
          rw [hws hf] at hvis
          rw [hws hf]
          exact hvis
        · rw [he] at h
          cases h
      · rw [if_neg hf, if_pos (Option.isSome_iff_ne_none.mpr hf)] at h
        cases h

/-- Whatever it returns, an operation shows all it does or nothing. -/
theorem mirrorWrite_visible (connected : Bool) (operation : Option (Call W)) (c : Conn W) :
    (mirrorWrite connected operation c).2.db.visible = c.db.visible ∨
    ∃ k, operation = some k ∧
      (mirrorWrite connected operation c).2.db.visible = c.db.visible ++ k.writes := by
  by_cases hfalse : (mirrorWrite connected operation c).1 = .returned false
  · left
    rw [mirrorWrite_false hfalse]
  by_cases htrue : (mirrorWrite connected operation c).1 = .returned true
  · exact .inr (mirrorWrite_true htrue)
  unfold mirrorWrite at hfalse htrue ⊢
  cases connected with
  | false => exact absurd rfl hfalse
  | true =>
    cases operation with
    | none => exact absurd rfl hfalse
    | some k =>
      simp only [if_true] at hfalse htrue ⊢
      obtain ⟨ws, log, -, hexec⟩ := exec_mirrorBody k c
      rw [hexec] at hfalse htrue ⊢
      by_cases hf : k.fault = none
      · rw [if_pos hf, hf] at htrue ⊢
        simp only [Option.isSome_none, Bool.false_eq_true, if_false] at htrue ⊢
        rcases endUnit_ok (c := c) ws log k.commit with ⟨hok, -⟩ | ⟨⟨e, he⟩, hvis⟩
        · rw [hok] at htrue
          exact absurd rfl htrue
        · left
          rw [he]
          exact hvis
      · rw [if_neg hf, if_pos (Option.isSome_iff_ne_none.mpr hf)] at hfalse
        exact absurd rfl hfalse

end Mirror

end TemperatureMonitor
