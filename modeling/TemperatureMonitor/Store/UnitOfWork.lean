/-
# Units of work

`sqlite_unit_of_work`, `sqlite_write_txn`, `commit_sqlite` and
`rollback_sqlite` on one connection, with the stack of frames they share. A
`Body` is what runs under them: writes, calls, nested units and transactions,
exceptions raised and caught. Inside an open transaction
`run_sqlite_write_with_retry` does nothing but run its callback.

The fields `log`, `ended` and `abandoned` record what happened; no function
reads them.
-/
import TemperatureMonitor.Library.Savepoints

namespace TemperatureMonitor

variable {W : Type*}

inductive FrameKind
  | unit | repository
deriving DecidableEq

/-- A frame and its savepoint; a frame that began the transaction has none. -/
structure Frame where
  kind : FrameKind
  name : Option ℕ
deriving DecidableEq

/-- A Python exception: an `Exception`, or another `BaseException`
(`KeyboardInterrupt`, `GeneratorExit`, `CancelledError`). -/
inductive Raised
  | exception | baseException
deriving DecidableEq

inductive Outcome
  | ok
  | raised (e : Raised)
deriving DecidableEq

/-- How a `COMMIT` ends. Where it fails the transaction is open, or SQLite ended it. -/
inductive CommitResult
  | done | failed | failedEnded
deriving DecidableEq

structure Conn (W : Type*) where
  db : Sqlite W := {}
  /-- `_frames`, the innermost first. -/
  frames : List Frame := []
  /-- The next number of `_savepoints`. -/
  next : ℕ := 0
  log : List (TxEvent W) := []
  /-- Transactions SQLite ended at a failing statement. -/
  ended : ℕ := 0
  /-- Scopes of `sqlite_write_txn` left by an exception that is no `Exception`. -/
  abandoned : ℕ := 0
deriving DecidableEq

/-- What runs under the calls. -/
inductive Body (W : Type*)
  | skip
  | write (w : W)
  | fail (e : Raised)
  /-- A statement fails, and SQLite ends the transaction (disk full, I/O error). -/
  | failEnding
  | commit (result : CommitResult)
  | rollback
  | seq (p q : Body W)
  /-- `try: p except Exception: handler`, or `except BaseException`. -/
  | attempt (p : Body W) (clause : Raised) (handler : Body W)
  | unit (p : Body W) (result : CommitResult)
  | txn (p : Body W) (result : CommitResult)

/-! ### Frames -/

/-- `_begin`. -/
def beginFrame (kind : FrameKind) (c : Conn W) : Conn W :=
  match c.db.tx with
  | none => { c with db := c.db.begin_, frames := ⟨kind, none⟩ :: c.frames }
  | some t =>
    { c with db := c.db.savepoint c.next t, frames := ⟨kind, some c.next⟩ :: c.frames, next := c.next + 1
             log := c.log ++ [.opened c.next] }

/-- `connection.commit()`. -/
def connectionCommit (result : CommitResult) (c : Conn W) : Outcome × Conn W :=
  match c.db.tx, result with
  | none, _ => (.ok, c)
  | some _, .done => (.ok, { c with db := c.db.commit })
  | some _, .failed => (.raised .exception, c)
  | some _, .failedEnded => (.raised .exception, { c with db := c.db.rollback })

/-- `ROLLBACK TO SAVEPOINT`, if asked for, and `RELEASE SAVEPOINT`. -/
def finishSavepoint (rollback : Bool) (name : ℕ) (c : Conn W) : Outcome × Conn W :=
  match if rollback then c.db.rollbackTo name else some c.db with
  | none => (.raised .exception, c)
  | some db =>
    match db.release name with
    | none => (.raised .exception, { c with db := db })
    | some db' =>
      (.ok, { c with db := db', log := c.log ++ [if rollback then .undone name else .released name] })

/-- `_finish_frame`. -/
def finishFrame (rollback : Bool) (result : CommitResult) (c : Conn W) : Outcome × Conn W :=
  match c.frames with
  | [] => (.raised .exception, c)
  | f :: rest =>
    match f.name with
    | some name => finishSavepoint rollback name { c with frames := rest }
    | none =>
      if rollback then (.ok, { c with db := c.db.rollback, frames := rest })
      else connectionCommit result { c with frames := rest }

/-- `commit_sqlite`. -/
def commitSqlite (result : CommitResult) (c : Conn W) : Outcome × Conn W :=
  match c.frames with
  | [] => connectionCommit result c
  | f :: _ => if f.kind = .unit then (.ok, c) else finishFrame false result c

/-- `rollback_sqlite`. -/
def rollbackSqlite (c : Conn W) : Outcome × Conn W :=
  match c.frames with
  | [] => (.ok, { c with db := c.db.rollback })
  | f :: _ => if f.kind = .unit then (.ok, c) else finishFrame true .done c

/-- The loop of a unit's handler, over the frames above the unit's depth. -/
def unwind : ℕ → Conn W → Outcome × Conn W
  | 0, c => (.ok, c)
  | n + 1, c =>
    match finishFrame true .done c with
    | (.ok, c') => unwind n c'
    | (.raised e, c') => (.raised e, c')

/-! ### Running -/

/-- The clause catches the exception. -/
def Raised.catches (clause e : Raised) : Bool := clause = .baseException || e = .exception

/-- A body that left the scope of `sqlite_unit_of_work`. -/
def endUnit (depth : ℕ) (result : CommitResult) : Outcome × Conn W → Outcome × Conn W
  | (.ok, c) =>
    match finishFrame false result c with
    | (.ok, c') => (.ok, c')
    | (.raised e, c') => (.raised e, { c' with db := c'.db.rollback, frames := [] })
  | (.raised e, c) =>
    match unwind (c.frames.length - depth) c with
    | (.ok, c') => (.raised e, c')
    | (.raised e', c') => (.raised e', c')

/-- A body that left the scope of `sqlite_write_txn`. An error of its rollback is an `Exception`
too. -/
def endTxn (result : CommitResult) : Outcome × Conn W → Outcome × Conn W
  | (.ok, c) => commitSqlite result c
  | (.raised .exception, c) =>
    (.raised .exception, if c.db.tx.isSome then (rollbackSqlite c).2 else c)
  | (.raised .baseException, c) => (.raised .baseException, { c with abandoned := c.abandoned + 1 })

def exec : Body W → Conn W → Outcome × Conn W
  | .skip, c => (.ok, c)
  | .write w, c => (.ok, { c with db := c.db.write w, log := c.log ++ [.wrote w] })
  | .fail e, c => (.raised e, c)
  | .failEnding, c =>
    (.raised .exception, if c.db.tx.isSome then
      { c with db := c.db.rollback, ended := c.ended + 1 } else c)
  | .commit result, c => commitSqlite result c
  | .rollback, c => rollbackSqlite c
  | .seq p q, c =>
    match exec p c with
    | (.ok, c') => exec q c'
    | (.raised e, c') => (.raised e, c')
  | .attempt p clause handler, c =>
    match exec p c with
    | (.ok, c') => (.ok, c')
    | (.raised e, c') => if clause.catches e then exec handler c' else (.raised e, c')
  | .unit p result, c => endUnit c.frames.length result (exec p (beginFrame .unit c))
  | .txn p result, c => endTxn result (exec p (beginFrame .repository c))

end TemperatureMonitor
