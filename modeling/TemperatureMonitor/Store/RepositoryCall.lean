/-
# One call of a repository

A repository method does its reads and writes in a transaction of its own and
runs under `retry_sqlite_write`. On a connection with no transaction open its
writes become durable together, or the call raises and nothing is written,
wherever in it a statement failed (`exec_call`). A locked database makes the
wrapper call the method again: each attempt that fails is a call that raises.
-/
import TemperatureMonitor.Store.UnitOfWork

namespace TemperatureMonitor

variable {W : Type*}

/-- Writes, and what is raised behind them. -/
def straight : List W → Option Raised → Body W
  | [], none => .skip
  | [], some e => .fail e
  | w :: ws, e => .seq (.write w) (straight ws e)

/-- `run_sqlite_write_with_retry`, one attempt outside a transaction of the
caller: what the method left open is rolled back. -/
def retrySqliteWrite (p : Body W) : Body W :=
  .attempt p .exception (.seq .rollback (.fail .exception))

/-- No transaction is open, and no frame is left. -/
structure Conn.Idle (c : Conn W) : Prop where
  tx : c.db.tx = none
  frames : c.frames = []

/-- A method in `sqlite_write_txn`, or with `commit_sqlite` behind its writes. -/
inductive CallFrame
  | txn | committed
deriving DecidableEq

/-- The writes of a call, whether it raises behind them, and its faults: the
number of writes before a statement that fails, the end of its `COMMIT`. -/
structure Call (W : Type*) where
  frame : CallFrame
  writes : List W
  raises : Bool
  fault : Option ℕ := none
  commit : CommitResult := .done

/-- What is raised, if anything is. -/
def raisedIf (b : Bool) : Option Raised := if b then some .exception else none

/-- The statements of a call up to its end, or to the one that fails. -/
def Call.statements (k : Call W) (raises : Bool) : Body W :=
  match k.fault with
  | none => straight k.writes (raisedIf raises)
  | some n => straight (k.writes.take n) (some .exception)

def Call.body (k : Call W) : Body W :=
  retrySqliteWrite (match k.frame with
    | .txn => .txn (k.statements k.raises) k.commit
    | .committed =>
      .seq (.seq (k.statements false) (.commit k.commit)) (straight [] (raisedIf k.raises)))

section Exec

variable {c : Conn W}

/-- A list of writes. -/
def Sqlite.writeAll (db : Sqlite W) (ws : List W) : Sqlite W := ws.foldl (fun d w => d.write w) db

theorem writeAll_open {db : Sqlite W} {t : Transaction W} (h : db.tx = some t) : ∀ ws : List W,
    db.writeAll ws = { db with tx := some { t with content := t.content ++ ws } } := by
  intro ws
  induction ws generalizing db t with
  | nil =>
    obtain ⟨durable, earlier, tx⟩ := db
    cases h
    simp [Sqlite.writeAll]
  | cons w ws ih =>
    show (db.write w).writeAll ws = _
    have hw : db.write w = { db with tx := some { t with content := t.content ++ [w] } } := by
      unfold Sqlite.write
      rw [h]
    rw [hw, ih rfl]
    simp

/-- Writes outside a transaction open one. -/
theorem writeAll_closed {db : Sqlite W} (h : db.tx = none) (ws : List W) :
    (db.writeAll ws).durable = db.durable ∧
      ((ws = [] ∧ db.writeAll ws = db) ∨
        ∃ sps, (db.writeAll ws).tx = some ⟨db.durable ++ ws, sps⟩) := by
  cases ws with
  | nil => exact ⟨rfl, .inl ⟨rfl, rfl⟩⟩
  | cons w ws =>
    have hw : db.write w = { db with tx := some { content := db.durable ++ [w] } } := by
      unfold Sqlite.write
      rw [h]
    show ((db.write w).writeAll ws).durable = _ ∧ _
    rw [hw, writeAll_open rfl]
    refine ⟨rfl, .inr ⟨[], ?_⟩⟩
    show ((db.write w).writeAll ws).tx = _
    rw [hw, writeAll_open rfl]
    simp

theorem exec_straight (ws : List W) (e : Option Raised) : ∀ c : Conn W, exec (straight ws e) c =
    (e.elim .ok .raised, { c with db := c.db.writeAll ws, log := c.log ++ ws.map .wrote }) := by
  induction ws with
  | nil =>
    intro c
    cases e with
    | none => simp [straight, exec, Sqlite.writeAll]
    | some e => simp [straight, exec, Sqlite.writeAll]
  | cons w ws ih =>
    intro c
    simp only [straight, exec]
    rw [ih]
    simp [Sqlite.writeAll]

/-- The statements: all the writes, or some of them and an exception. -/
theorem exec_statements (k : Call W) (raises : Bool) (c : Conn W) : ∃ ws log,
    exec (k.statements raises) c =
      ((if k.fault = none ∧ raises = false then .ok else .raised .exception),
        { c with db := c.db.writeAll ws, log := log }) ∧ (k.fault = none → ws = k.writes) := by
  unfold Call.statements
  cases hf : k.fault with
  | none =>
    refine ⟨k.writes, c.log ++ k.writes.map .wrote, ?_, fun _ => rfl⟩
    show exec (straight k.writes (raisedIf raises)) c = _
    rw [exec_straight]
    cases raises with
    | false => rfl
    | true => rfl
  | some n =>
    refine ⟨k.writes.take n, c.log ++ (k.writes.take n).map .wrote, ?_, fun h => by cases h⟩
    show exec (straight (k.writes.take n) (some .exception)) c = _
    rw [exec_straight]
    rfl

/-- An attempt that raised leaves nothing open. -/
theorem exec_retry_raised {p : Body W} {c' : Conn W} (h : exec p c = (.raised .exception, c'))
    (hf : c'.frames = []) :
    exec (retrySqliteWrite p) c = (.raised .exception, { c' with db := c'.db.rollback }) := by
  simp only [retrySqliteWrite, exec, h, Raised.catches, rollbackSqlite, hf]
  simp

theorem exec_retry_ok {p : Body W} {c' : Conn W} (h : exec p c = (.ok, c')) :
    exec (retrySqliteWrite p) c = (.ok, c') := by
  simp only [retrySqliteWrite, exec, h]

theorem exec_seq_ok {p q : Body W} {c' : Conn W} (h : exec p c = (.ok, c')) :
    exec (.seq p q) c = exec q c' := by
  simp only [exec, h]

theorem exec_seq_raised {p q : Body W} {c' : Conn W} {e : Raised} (h : exec p c = (.raised e, c')) :
    exec (.seq p q) c = (.raised e, c') := by
  simp only [exec, h]

/-- A `COMMIT` that ends well makes the writes durable, another raises. -/
theorem connectionCommit_cases {t : Transaction W} (h : c.db.tx = some t) (result : CommitResult) :
    connectionCommit result c = (.ok, { c with db := c.db.commit }) ∨
      ∃ c', connectionCommit result c = (.raised .exception, c') ∧ c'.frames = c.frames ∧
        c'.db.durable = c.db.durable := by
  unfold connectionCommit
  rw [h]
  cases result with
  | done => exact .inl rfl
  | failed => exact .inr ⟨c, rfl, rfl, rfl⟩
  | failedEnded => exact .inr ⟨_, rfl, rfl, rfl⟩

/-- The transaction of a method, on an idle connection. -/
theorem exec_txn_statements (hc : c.Idle) (k : Call W) (raises : Bool) (result : CommitResult) :
    (∃ c', exec (.txn (k.statements raises) result) c = (.ok, c') ∧ c'.Idle ∧ raises = false ∧
      c'.db.durable = c.db.durable ++ k.writes) ∨
    ∃ c', exec (.txn (k.statements raises) result) c = (.raised .exception, c') ∧ c'.frames = [] ∧
      c'.db.durable = c.db.durable := by
  obtain ⟨ws, log, hexec, hws⟩ := exec_statements k raises (beginFrame .repository c)
  have hbegin :
      beginFrame .repository c = { c with db := c.db.begin_, frames := [⟨.repository, none⟩] } := by
    unfold beginFrame
    rw [hc.tx, hc.frames]
  have hopen : ((c.db.begin_).writeAll ws) =
      { c.db with tx := some { content := c.db.durable ++ ws } } := by
    rw [writeAll_open (t := { content := c.db.durable }) rfl]
    rfl
  simp only [exec]
  rw [hexec, hbegin]
  simp only [hopen]
  by_cases hok : k.fault = none ∧ raises = false
  · rw [if_pos hok]
    simp only [endTxn, commitSqlite, finishFrame]
    rw [if_neg (by simp)]
    simp only [Bool.false_eq_true, if_false]
    rcases connectionCommit_cases
        (c := { c with db := { c.db with tx := some { content := c.db.durable ++ ws } }, frames := [], log := log })
      rfl result with hcommit | ⟨c', hcommit, hframes, hdurable⟩
    · refine .inl ⟨_, hcommit, ⟨rfl, rfl⟩, hok.2, ?_⟩
      rw [← hws hok.1]
      rfl
    · exact .inr ⟨c', hcommit, hframes, hdurable⟩
  · rw [if_neg hok]
    refine .inr ⟨_, rfl, ?_, ?_⟩
    · simp [rollbackSqlite, finishFrame]
    · simp [rollbackSqlite, finishFrame, Sqlite.rollback]

/-- The writes of a method, and its commit. -/
theorem exec_committed_statements (hc : c.Idle) (k : Call W) :
    (∃ c', exec (.seq (k.statements false) (.commit k.commit)) c = (.ok, c') ∧ c'.Idle ∧
      c'.db.durable = c.db.durable ++ k.writes) ∨
    ∃ c', exec (.seq (k.statements false) (.commit k.commit)) c = (.raised .exception, c') ∧
      c'.frames = [] ∧
      c'.db.durable = c.db.durable := by
  obtain ⟨ws, log, hexec, hws⟩ := exec_statements k false c
  obtain ⟨hdurable, hopen⟩ := writeAll_closed hc.tx ws
  set c₁ : Conn W := { c with db := c.db.writeAll ws, log := log } with hc₁
  by_cases hfault : k.fault = none
  · rw [if_pos ⟨hfault, rfl⟩] at hexec
    rw [exec_seq_ok hexec]
    simp only [exec]
    have hconn : commitSqlite k.commit c₁ = connectionCommit k.commit c₁ := by
      unfold commitSqlite
      rw [show c₁.frames = [] from hc.frames]
    rw [hconn, ← hws hfault]
    rcases hopen with ⟨rfl, hdb⟩ | ⟨sps, htx⟩
    · have hnone : c₁.db.tx = none := by
        rw [hc₁, hdb]
        exact hc.tx
      refine .inl ⟨c₁, ?_, ⟨hnone, hc.frames⟩, ?_⟩
      · unfold connectionCommit
        rw [hnone]
      · rw [List.append_nil]
        exact hdurable
    · have hsome : c₁.db.tx = some ⟨c.db.durable ++ ws, sps⟩ := htx
      rcases connectionCommit_cases hsome k.commit with h | ⟨c₂, h, hf, hd⟩
      · refine .inl ⟨_, h, ⟨?_, hc.frames⟩, ?_⟩
        · simp only [Sqlite.commit, hsome]
        · simp only [Sqlite.commit, hsome]
      · exact .inr ⟨c₂, h, hf.trans hc.frames, hd.trans hdurable⟩
  · rw [if_neg fun h => hfault h.1] at hexec
    exact .inr ⟨c₁, exec_seq_raised hexec, hc.frames, hdurable⟩

/-- **A call on an idle connection** is written as a whole or raises. Only a
method that raises behind its commit has written what it wrote. -/
theorem exec_call (hc : c.Idle) (k : Call W) : (exec k.body c).2.Idle ∧
    ((exec k.body c).1 = .ok ∧ k.raises = false ∧
      (exec k.body c).2.db.durable = c.db.durable ++ k.writes ∨
      (exec k.body c).1 = .raised .exception ∧ ((exec k.body c).2.db.durable = c.db.durable ∨
        k.frame = .committed ∧ k.raises = true ∧
          (exec k.body c).2.db.durable = c.db.durable ++ k.writes)) := by
  -- a call that raised is rolled back, and what it made durable stays
  have hraised {p : Body W} {c' : Conn W} (h : exec p c = (.raised .exception, c'))
      (hf : c'.frames = []) :
      (exec (retrySqliteWrite p) c).2.Idle ∧ (exec (retrySqliteWrite p) c).1 = .raised .exception ∧
        (exec (retrySqliteWrite p) c).2.db.durable = c'.db.durable := by
    rw [exec_retry_raised h hf]
    exact ⟨⟨rfl, hf⟩, rfl, rfl⟩
  unfold Call.body
  cases hframe : k.frame with
  | txn =>
    simp only
    rcases exec_txn_statements hc k k.raises k.commit with ⟨c', hexec, hidle, hno, hdurable⟩ | ⟨c',
      hexec, hf, hdurable⟩
    · rw [exec_retry_ok hexec]
      exact ⟨hidle, .inl ⟨rfl, hno, hdurable⟩⟩
    · obtain ⟨hidle, hout, hdur⟩ := hraised hexec hf
      exact ⟨hidle, .inr ⟨hout, .inl (hdur.trans hdurable)⟩⟩
  | committed =>
    simp only
    rcases exec_committed_statements hc k with ⟨c', hexec, hidle, hdurable⟩ | ⟨c', hexec,
      hf, hdurable⟩
    · cases hr : k.raises with
      | false =>
        rw [exec_retry_ok ((exec_seq_ok hexec).trans rfl)]
        exact ⟨hidle, .inl ⟨rfl, by simp, hdurable⟩⟩
      | true =>
        have hend : exec (straight [] (raisedIf true)) c' = (.raised .exception, c') := rfl
        obtain ⟨hidle', hout, hdur⟩ := hraised ((exec_seq_ok hexec).trans hend) hidle.frames
        exact ⟨hidle', .inr ⟨hout, .inr ⟨by simp, by simp, hdur.trans hdurable⟩⟩⟩
    · obtain ⟨hidle, hout, hdur⟩ := hraised (exec_seq_raised hexec) hf
      exact ⟨hidle, .inr ⟨hout, .inl (hdur.trans hdurable)⟩⟩

end Exec

end TemperatureMonitor
