/-
# A unit of work is atomic

Inside a unit every frame above the unit's is a savepoint, and no call reaches
below the innermost open unit (`exec_inside`). So a unit that raises leaves the
database it found, and a unit that ends makes exactly its kept writes visible
(`unit_atomic`). Two things break this, and only they are excluded: a
statement at which SQLite ends the transaction by itself, unless its exception
leaves a unit that began the transaction through no `sqlite_write_txn`, and a
`sqlite_write_txn` left by an exception that is no `Exception` and caught
inside the unit.
-/
import Mathlib.Data.List.DropRight
import Mathlib.Data.Nat.Basic
import Mathlib.Order.Basic
import TemperatureMonitor.Store.UnitOfWork

namespace TemperatureMonitor

variable {W : Type*}

/-! ### What is recorded only grows -/

section Counters

variable {c : Conn W}

theorem connectionCommit_counters (result : CommitResult) (c : Conn W) :
    (connectionCommit result c).2.ended = c.ended ∧
      (connectionCommit result c).2.abandoned = c.abandoned := by
  unfold connectionCommit
  split <;> exact ⟨rfl, rfl⟩

theorem finishFrame_counters (rollback : Bool) (result : CommitResult) (c : Conn W) :
    (finishFrame rollback result c).2.ended = c.ended ∧
      (finishFrame rollback result c).2.abandoned = c.abandoned := by
  unfold finishFrame
  split
  · exact ⟨rfl, rfl⟩
  split
  · unfold finishSavepoint
    split
    · exact ⟨rfl, rfl⟩
    · split <;> exact ⟨rfl, rfl⟩
  · split_ifs
    · exact ⟨rfl, rfl⟩
    · exact connectionCommit_counters result _

theorem commitSqlite_counters (result : CommitResult) (c : Conn W) :
    (commitSqlite result c).2.ended = c.ended ∧
      (commitSqlite result c).2.abandoned = c.abandoned := by
  unfold commitSqlite
  split
  · exact connectionCommit_counters result c
  · split_ifs
    · exact ⟨rfl, rfl⟩
    · exact finishFrame_counters _ _ c

theorem rollbackSqlite_counters (c : Conn W) :
    (rollbackSqlite c).2.ended = c.ended ∧ (rollbackSqlite c).2.abandoned = c.abandoned := by
  unfold rollbackSqlite
  split
  · exact ⟨rfl, rfl⟩
  · split_ifs
    · exact ⟨rfl, rfl⟩
    · exact finishFrame_counters _ _ c

theorem unwind_counters : ∀ (n : ℕ) (c : Conn W),
    (unwind n c).2.ended = c.ended ∧ (unwind n c).2.abandoned = c.abandoned
  | 0, _ => ⟨rfl, rfl⟩
  | n + 1, c => by
    have hf := finishFrame_counters true .done c
    unfold unwind
    split
    · rename_i c' heq
      rw [heq] at hf
      have ih := unwind_counters n c'
      exact ⟨ih.1.trans hf.1, ih.2.trans hf.2⟩
    · rename_i e c' heq
      rw [heq] at hf
      exact hf

theorem beginFrame_counters (kind : FrameKind) (c : Conn W) :
    (beginFrame kind c).ended = c.ended ∧ (beginFrame kind c).abandoned = c.abandoned := by
  unfold beginFrame
  split <;> exact ⟨rfl, rfl⟩

theorem endUnit_counters (depth : ℕ) (result : CommitResult) (o : Outcome) (c : Conn W) :
    (endUnit depth result (o, c)).2.ended = c.ended ∧
      (endUnit depth result (o, c)).2.abandoned = c.abandoned := by
  cases o with
  | ok =>
    have hf := finishFrame_counters false result c
    simp only [endUnit]
    split <;> rename_i heq <;> rw [heq] at hf <;> exact hf
  | raised e =>
    have hu := unwind_counters (c.frames.length - depth) c
    simp only [endUnit]
    split <;> rename_i heq <;> rw [heq] at hu <;> exact hu

theorem endTxn_counters (result : CommitResult) (o : Outcome) (c : Conn W) :
    (endTxn result (o, c)).2.ended = c.ended ∧
      c.abandoned ≤ (endTxn result (o, c)).2.abandoned := by
  cases o with
  | ok => exact ⟨(commitSqlite_counters result c).1, (commitSqlite_counters result c).2.ge⟩
  | raised e =>
    cases e with
    | baseException => exact ⟨rfl, Nat.le_succ _⟩
    | exception =>
      simp only [endTxn]
      split_ifs
      · exact ⟨(rollbackSqlite_counters c).1, (rollbackSqlite_counters c).2.ge⟩
      · exact ⟨rfl, le_refl _⟩

theorem exec_counters : ∀ (p : Body W) (c : Conn W), c.ended ≤ (exec p c).2.ended ∧
    c.abandoned ≤ (exec p c).2.abandoned
  | .skip, c => ⟨le_refl _, le_refl _⟩
  | .write w, c => ⟨le_refl _, le_refl _⟩
  | .fail e, c => ⟨le_refl _, le_refl _⟩
  | .failEnding, c => by
    unfold exec
    dsimp only
    split_ifs
    · exact ⟨Nat.le_succ _, le_refl _⟩
    · exact ⟨le_refl _, le_refl _⟩
  | .commit result, c =>
    ⟨(commitSqlite_counters result c).1.ge, (commitSqlite_counters result c).2.ge⟩
  | .rollback, c => ⟨(rollbackSqlite_counters c).1.ge, (rollbackSqlite_counters c).2.ge⟩
  | .seq p q, c => by
    have hp := exec_counters p c
    unfold exec
    split
    · rename_i c' heq
      rw [heq] at hp
      have hq := exec_counters q c'
      exact ⟨hp.1.trans hq.1, hp.2.trans hq.2⟩
    · rename_i e c' heq
      rw [heq] at hp
      exact hp
  | .attempt p clause handler, c => by
    have hp := exec_counters p c
    unfold exec
    split
    · rename_i c' heq
      rw [heq] at hp
      exact hp
    · rename_i e c' heq
      rw [heq] at hp
      split_ifs
      · have hh := exec_counters handler c'
        exact ⟨hp.1.trans hh.1, hp.2.trans hh.2⟩
      · exact hp
  | .unit p result, c => by
    have hb := beginFrame_counters .unit c
    have hp := exec_counters p (beginFrame .unit c)
    have he :=
      endUnit_counters c.frames.length result (exec p (beginFrame .unit c)).1
        (exec p (beginFrame .unit c)).2
    unfold exec
    exact ⟨(hb.1.ge.trans hp.1).trans he.1.ge, (hb.2.ge.trans hp.2).trans he.2.ge⟩
  | .txn p result, c => by
    have hb := beginFrame_counters .repository c
    have hp := exec_counters p (beginFrame .repository c)
    have he :=
      endTxn_counters result (exec p (beginFrame .repository c)).1
        (exec p (beginFrame .repository c)).2
    unfold exec
    exact ⟨(hb.1.ge.trans hp.1).trans he.1.ge, (hb.2.ge.trans hp.2).trans he.2⟩

end Counters

/-! ### Inside a unit -/

/-- The frames from the innermost unit's on. -/
def fromUnit (fs : List Frame) : List Frame := fs.dropWhile (·.kind = .repository)

/-- What a body leaves of the frames it found: no less than from the innermost
unit on, and none of its own where it is clean. -/
def Trims (clean : Prop) (fs fs' : List Frame) : Prop :=
  ∃ gs s, fs' = gs ++ s ∧ s <:+ fs ∧ fromUnit fs <:+ s ∧ (clean → gs = [])

section Trims

variable {fs fs₁ fs₂ fs₃ s : List Frame} {P Q : Prop} {f : Frame}

theorem fromUnit_suffix (fs : List Frame) : fromUnit fs <:+ fs := List.dropWhile_suffix _

/-- A suffix that begins with a unit's frame, or is empty, is one of `fromUnit`. -/
theorem suffix_fromUnit (h : s <:+ fs) (hs : fromUnit s = s) : s <:+ fromUnit fs := by
  induction fs with
  | nil => exact h
  | cons f fs ih =>
    by_cases hk : f.kind = .repository
    · have hcons : fromUnit (f :: fs) = fromUnit fs := by simp [fromUnit, hk]
      rw [hcons]
      rcases List.suffix_cons_iff.mp h with rfl | h
      · rw [hcons] at hs
        have hlen := (fromUnit_suffix fs).length_le
        rw [hs, List.length_cons] at hlen
        omega
      · exact ih h
    · have hcons : fromUnit (f :: fs) = f :: fs := by simp [fromUnit, hk]
      rw [hcons]
      exact h

theorem fromUnit_fromUnit (fs : List Frame) : fromUnit (fromUnit fs) = fromUnit fs :=
  List.dropWhile_idempotent _ _

theorem Trims.refl (fs : List Frame) : Trims P fs fs :=
  ⟨[], fs, rfl, List.suffix_refl _, fromUnit_suffix fs, fun _ => rfl⟩

theorem Trims.of_suffix (h : s <:+ fs) (hu : fromUnit fs <:+ s) : Trims P fs s :=
  ⟨[], s, rfl, h, hu, fun _ => rfl⟩

theorem Trims.mono (h : Trims P fs fs₁) (hPQ : Q → P) : Trims Q fs fs₁ := by
  obtain ⟨gs, s, heq, hs, hu, hclean⟩ := h
  exact ⟨gs, s, heq, hs, hu, fun hQ => hclean (hPQ hQ)⟩

theorem Trims.trans (h : Trims P fs₁ fs₂) (h' : Trims Q fs₂ fs₃) : Trims (P ∧ Q) fs₁ fs₃ := by
  obtain ⟨gs, s, rfl, hs, hu, hclean⟩ := h
  obtain ⟨gs', s', rfl, hs', hu', hclean'⟩ := h'
  have hunit : fromUnit fs₁ <:+ s' := by
    have hin := suffix_fromUnit (hu.trans (List.suffix_append gs s)) (fromUnit_fromUnit fs₁)
    exact hin.trans hu'
  rcases List.suffix_or_suffix_of_suffix hs' (List.suffix_append gs s) with hle | ⟨g, rfl⟩
  · exact ⟨gs', s', rfl, hle.trans hs, hunit, fun hPQ => hclean' hPQ.2⟩
  · refine ⟨gs' ++ g, s, by simp, hs, hu, fun hPQ => ?_⟩
    have hg : g ++ s <:+ [] ++ s := hclean hPQ.1 ▸ hs'
    have hlen := hg.length_le
    rw [List.length_append, List.nil_append] at hlen
    rw [hclean' hPQ.2, List.length_eq_zero_iff.mp (by omega : g.length = 0), List.append_nil]

/-- A unit's frame stays, and what is above it is not clean. -/
theorem Trims.of_unit (hf : f.kind = .unit) (h : Trims P (f :: fs) fs₁) :
    ∃ gs, fs₁ = gs ++ f :: fs ∧ (P → gs = []) := by
  obtain ⟨gs, s, rfl, hs, hu, hclean⟩ := h
  have hcons : fromUnit (f :: fs) = f :: fs := by simp [fromUnit, hf]
  rw [hcons] at hu
  exact ⟨gs, by rw [hs.eq_of_length_le hu.length_le], hclean⟩

/-- A transaction's frame may stay where it was abandoned. -/
theorem Trims.of_repository (hf : f.kind = .repository) (h : Trims P (f :: fs) fs₁)
    (hP : P → fs₁ <:+ fs) : Trims P fs fs₁ := by
  obtain ⟨gs, s, rfl, hs, hu, hclean⟩ := h
  have hcons : fromUnit (f :: fs) = fromUnit fs := by simp [fromUnit, hf]
  rw [hcons] at hu
  rcases List.suffix_cons_iff.mp hs with rfl | hs
  · refine ⟨gs ++ [f], fs, by simp, List.suffix_refl _, fromUnit_suffix fs, fun hp => ?_⟩
    have hlen := (hP hp).length_le
    simp at hlen
    omega
  · exact ⟨gs, s, rfl, hs, hu, hclean⟩

end Trims

section Inside

variable {base : List Frame} {sps : List (Savepoint W)} {c₀ : Conn W} {start : List W}
  {fs gs : List Frame} {f : Frame}
  {c : Conn W}

/-- The frames above `base` are the savepoints above `sps`, what is durable is
as at `c₀`, and the history since then is on record. -/
structure Inside (base : List Frame) (sps : List (Savepoint W)) (c₀ : Conn W) (start : List W)
    (fs : List Frame) (c : Conn W) : Prop where
  frames : c.frames = fs ++ base
  durable : c.db.durable = c₀.db.durable
  earlier : c.db.earlier = c₀.db.earlier
  tx : ∃ own content es, c.db.tx = some ⟨content, own ++ sps⟩ ∧ c.log = c₀.log ++ es ∧
    Records start c.next es own content ∧ fs.map (·.name) = own.map fun s => some s.name

theorem Inside.begin_ (h : Inside base sps c₀ start fs c) (kind : FrameKind) :
    Inside base sps c₀ start (⟨kind, some c.next⟩ :: fs) (beginFrame kind c) := by
  obtain ⟨own, content, es, htx, hlog, hrec, hnames⟩ := h.tx
  unfold beginFrame
  rw [htx]
  refine ⟨?_, h.durable, h.earlier, ⟨c.next, content⟩ :: own, content, es ++ [.opened c.next],
    rfl, ?_, hrec.opened, ?_⟩
  · show _ :: c.frames = _
    rw [h.frames]
    rfl
  · show c.log ++ _ = _
    rw [hlog, List.append_assoc]
  · rw [List.map_cons, List.map_cons, hnames]

theorem Inside.write (h : Inside base sps c₀ start fs c) (w : W) :
    Inside base sps c₀ start fs { c with db := c.db.write w, log := c.log ++ [.wrote w] } := by
  obtain ⟨own, content, es, htx, hlog, hrec, hnames⟩ := h.tx
  unfold Sqlite.write
  rw [htx]
  refine ⟨h.frames, h.durable, h.earlier, own, content ++ [w], es ++ [.wrote w], rfl, ?_,
    hrec.wrote w, hnames⟩
  show c.log ++ _ = _
  rw [hlog, List.append_assoc]

/-- The innermost savepoint is there, and is finished. -/
theorem Inside.finish (h : Inside base sps c₀ start (f :: fs) c) (rollback : Bool)
    (result : CommitResult) :
    ∃ c', finishFrame rollback result c = (.ok, c') ∧ Inside base sps c₀ start fs c' := by
  obtain ⟨own, content, es, htx, hlog, hrec, hnames⟩ := h.tx
  cases own with
  | nil => simp at hnames
  | cons s own =>
    rw [List.map_cons, List.map_cons, List.cons.injEq] at hnames
    have hframes : c.frames = f :: (fs ++ base) := h.frames
    have hfind (t : Transaction W) (ht : t.savepoints = s :: (own ++ sps)) :
        Sqlite.find s.name t = s :: (own ++ sps) := by
      unfold Sqlite.find
      rw [ht]
      simp
    unfold finishFrame finishSavepoint
    rw [hframes]
    simp only [hnames.1]
    cases rollback with
    | true =>
      have hback :
          c.db.rollbackTo s.name = some { c.db with tx := some ⟨s.saved, s :: (own ++ sps)⟩ } := by
        unfold Sqlite.rollbackTo
        rw [htx]
        simp only [hfind ⟨content, s :: own ++ sps⟩ rfl]
      have hrel : Sqlite.release s.name { c.db with tx := some ⟨s.saved, s :: (own ++ sps)⟩ } =
          some { c.db with tx := some ⟨s.saved, own ++ sps⟩ } := by
        unfold Sqlite.release
        simp only [hfind ⟨s.saved, s :: (own ++ sps)⟩ rfl]
      simp only [if_true, hback, hrel]
      refine ⟨_, rfl, rfl, h.durable, h.earlier, own, s.saved, es ++ [.undone s.name], rfl, ?_,
        hrec.undone, hnames.2⟩
      show c.log ++ _ = _
      rw [hlog, List.append_assoc]
    | false =>
      have hrel :
          Sqlite.release s.name c.db = some { c.db with tx := some ⟨content, own ++ sps⟩ } := by
        unfold Sqlite.release
        rw [htx]
        simp only [hfind ⟨content, s :: own ++ sps⟩ rfl]
      simp only [Bool.false_eq_true, if_false, hrel]
      refine ⟨_, rfl, rfl, h.durable, h.earlier, own, content, es ++ [.released s.name], rfl, ?_,
          hrec.released s.name,
        hnames.2⟩
      show c.log ++ _ = _
      rw [hlog, List.append_assoc]

theorem Inside.unwind (h : Inside base sps c₀ start (gs ++ fs) c) :
    ∃ c', TemperatureMonitor.unwind gs.length c = (.ok, c') ∧ Inside base sps c₀ start fs c' := by
  induction gs generalizing c with
  | nil => exact ⟨c, rfl, h⟩
  | cons g gs ih =>
    obtain ⟨c', heq, h'⟩ := h.finish true .done
    obtain ⟨c'', heq', h''⟩ := ih h'
    refine ⟨c'', ?_, h''⟩
    rw [List.length_cons, TemperatureMonitor.unwind, heq]
    exact heq'

/-- A call that finishes the innermost frame, unless it is a unit's. -/
theorem Inside.call (hbase : ∃ u rest, base = u :: rest ∧ u.kind = .unit)
    (h : Inside base sps c₀ start fs c)
    {g : Conn W → Outcome × Conn W} {rollback : Bool} {result : CommitResult}
    (hg : ∀ f rest, c.frames = f :: rest →
      g c = if f.kind = .unit then (.ok, c) else finishFrame rollback result c) :
    ∃ fs' c', g c = (.ok, c') ∧ Inside base sps c₀ start fs' c' ∧ fs' <:+ fs ∧ fromUnit fs <:+ fs' ∧
      ∀ f rest, fs = f :: rest → f.kind = .repository → fs' = rest := by
  cases fs with
  | nil =>
    obtain ⟨u, rest, rfl, hu⟩ := hbase
    refine ⟨[], c, ?_, h, List.suffix_refl _, List.suffix_refl _, fun _ _ he => by cases he⟩
    rw [hg u rest h.frames, if_pos hu]
  | cons f fs =>
    have heq := hg f (fs ++ base) h.frames
    by_cases hk : f.kind = .unit
    · refine ⟨f :: fs, c, by
        rw [heq, if_pos hk], h, List.suffix_refl _, fromUnit_suffix _, fun f' rest he hr => ?_⟩
      cases he
      rw [hk] at hr
      cases hr
    · obtain ⟨c', hfin, h'⟩ := h.finish rollback result
      have hrep : f.kind = .repository := by
        cases hf : f.kind with
        | unit => exact absurd hf hk
        | repository => rfl
      refine ⟨fs, c', by
        rw [heq, if_neg hk, hfin], h', List.suffix_cons _ _, ?_, fun f' rest he _ => by
          cases he; rfl⟩
      have hcons : fromUnit (f :: fs) = fromUnit fs := by simp [fromUnit, hrep]
      rw [hcons]
      exact fromUnit_suffix fs

theorem Inside.commit (hbase : ∃ u rest, base = u :: rest ∧ u.kind = .unit)
    (h : Inside base sps c₀ start fs c)
    (result : CommitResult) : ∃ fs' c', commitSqlite result c = (.ok, c') ∧
      Inside base sps c₀ start fs' c' ∧
      fs' <:+ fs ∧ fromUnit fs <:+ fs' ∧ ∀ f rest, fs = f :: rest → f.kind = .repository →
        fs' = rest :=
  h.call hbase fun f rest hf => by unfold commitSqlite; rw [hf]

theorem Inside.rollback (hbase : ∃ u rest, base = u :: rest ∧ u.kind = .unit)
    (h : Inside base sps c₀ start fs c) :
    ∃ fs' c', rollbackSqlite c = (.ok, c') ∧ Inside base sps c₀ start fs' c' ∧
      fs' <:+ fs ∧ fromUnit fs <:+ fs' ∧ ∀ f rest, fs = f :: rest → f.kind = .repository →
        fs' = rest :=
  h.call hbase fun f rest hf => by unfold rollbackSqlite; rw [hf]

/-- A transaction's end finishes its frame, unless an exception abandons it. -/
theorem Inside.endTxn (hbase : ∃ u rest, base = u :: rest ∧ u.kind = .unit) {P : Prop}
    (hf : f.kind = .repository)
    {fs₁ : List Frame} (h : Inside base sps c₀ start fs₁ c) (htrims : Trims P (f :: fs) fs₁)
    (o : Outcome)
    (result : CommitResult) :
    ∃ fs', Inside base sps c₀ start fs' (TemperatureMonitor.endTxn result (o, c)).2 ∧
      Trims (P ∧ (TemperatureMonitor.endTxn result (o, c)).2.abandoned = c.abandoned) fs fs' := by
  -- after a call the frame is finished, if the body left no other above it
  have hcall {fs' : List Frame} (hs : fs' <:+ fs₁) (hu : fromUnit fs₁ <:+ fs')
      (hpop : ∀ f rest, fs₁ = f :: rest → f.kind = .repository → fs' = rest) {Q : Prop} :
          Trims (P ∧ Q) fs fs' := by
    refine Trims.of_repository hf ((htrims.trans (.of_suffix hs hu)).mono fun h => ⟨h.1, trivial⟩)
      fun hP => ?_
    obtain ⟨gs, s, heq, hsuf, -, hclean⟩ := htrims
    rw [hclean hP.1, List.nil_append] at heq
    subst heq
    rcases List.suffix_cons_iff.mp hsuf with rfl | hsuf
    · have hfs : fs' = fs := hpop f fs rfl hf
      subst hfs
      exact List.suffix_refl fs'
    · exact hs.trans hsuf
  have htx : c.db.tx.isSome = true := by
    obtain ⟨own, content, es, htx, -⟩ := h.tx
    rw [htx]
    rfl
  cases o with
  | ok =>
    obtain ⟨fs', c', heq, h', hs, hu, hpop⟩ := h.commit hbase result
    refine ⟨fs', ?_, hcall hs hu hpop⟩
    simp only [TemperatureMonitor.endTxn, heq]
    exact h'
  | raised e =>
    cases e with
    | exception =>
      obtain ⟨fs', c', heq, h', hs, hu, hpop⟩ := h.rollback hbase
      refine ⟨fs', ?_, hcall hs hu hpop⟩
      simp only [TemperatureMonitor.endTxn, if_pos htx, heq]
      exact h'
    | baseException =>
      refine ⟨fs₁, ⟨h.frames, h.durable, h.earlier, h.tx⟩,
        Trims.of_repository hf (htrims.mono And.left) fun hP => ?_⟩
      have : c.abandoned + 1 = c.abandoned := hP.2
      omega

/-- A unit's end leaves the frames it found, unless some above its own were abandoned. -/
theorem Inside.endUnit {P : Prop} (hf : f.kind = .unit) {fs₁ : List Frame}
    (h : Inside base sps c₀ start fs₁ c)
    (htrims : Trims P (f :: fs) fs₁) (o : Outcome) (result : CommitResult) :
    ∃ fs', Inside base sps c₀ start fs'
      (TemperatureMonitor.endUnit (fs.length + base.length) result (o, c)).2 ∧
      Trims P fs fs' := by
  obtain ⟨gs, rfl, hclean⟩ := htrims.of_unit hf
  cases o with
  | ok =>
    cases gs with
    | nil =>
      obtain ⟨c', heq, h'⟩ := Inside.finish h false result
      refine ⟨fs, ?_, .refl fs⟩
      simp only [TemperatureMonitor.endUnit, heq]
      exact h'
    | cons g gs =>
      obtain ⟨c', heq, h'⟩ := Inside.finish h false result
      refine ⟨gs ++ f :: fs, ?_, gs ++ [f], fs, by
        simp, List.suffix_refl _, fromUnit_suffix fs, fun hP => ?_⟩
      · simp only [TemperatureMonitor.endUnit, heq]
        exact h'
      · exact absurd (hclean hP) (by simp)
  | raised e =>
    have hlen : c.frames.length - (fs.length + base.length) = (gs ++ [f]).length := by
      rw [h.frames]
      simp
      omega
    have hsplit : Inside base sps c₀ start ((gs ++ [f]) ++ fs) c := by
      rw [List.append_assoc]
      exact h
    obtain ⟨c', heq, h'⟩ := hsplit.unwind
    refine ⟨fs, ?_, .refl fs⟩
    simp only [TemperatureMonitor.endUnit, hlen, heq]
    exact h'

/-- **Inside a unit** no call reaches the unit's frame or what is below it, and
a body that abandons no transaction leaves no frame of its own. -/
theorem exec_inside (hbase : ∃ u rest, base = u :: rest ∧ u.kind = .unit) :
    ∀ (p : Body W) {fs : List Frame} {c : Conn W},
    Inside base sps c₀ start fs c → (exec p c).2.ended = c.ended →
      ∃ fs', Inside base sps c₀ start fs' (exec p c).2 ∧
        Trims ((exec p c).2.abandoned = c.abandoned) fs fs'
  | .skip, fs, c, h, _ => ⟨fs, h, .refl fs⟩
  | .write w, fs, c, h, _ => ⟨fs, h.write w, .refl fs⟩
  | .fail e, fs, c, h, _ => ⟨fs, h, .refl fs⟩
  | .failEnding, fs, c, h, hended => by
    obtain ⟨own, content, es, htx, -⟩ := h.tx
    simp only [exec, htx] at hended
    exact absurd hended (Nat.succ_ne_self _)
  | .commit result, fs, c, h, _ => by
    obtain ⟨fs', c', heq, h', hs, hu, -⟩ := h.commit hbase result
    refine ⟨fs', ?_, .of_suffix hs hu⟩
    simp only [exec, heq]
    exact h'
  | .rollback, fs, c, h, _ => by
    obtain ⟨fs', c', heq, h', hs, hu, -⟩ := h.rollback hbase
    refine ⟨fs', ?_, .of_suffix hs hu⟩
    simp only [exec, heq]
    exact h'
  | .seq p q, fs, c, h, hended => by
    have hp := exec_counters p c
    have ih := exec_inside hbase p h
    simp only [exec] at hended ⊢
    generalize exec p c = r at hp ih hended ⊢
    obtain ⟨o, c'⟩ := r
    cases o with
    | raised e => exact ih hended
    | ok =>
      have hq := exec_counters q c'
      dsimp only at hp hended ih ⊢
      obtain ⟨fs₁, h₁, ht₁⟩ := ih (by omega)
      obtain ⟨fs₂, h₂, ht₂⟩ := exec_inside hbase q h₁ (by omega)
      exact ⟨fs₂, h₂, (ht₁.trans ht₂).mono fun ha => ⟨by omega, by omega⟩⟩
  | .attempt p clause handler, fs, c, h, hended => by
    have hp := exec_counters p c
    have ih := exec_inside hbase p h
    simp only [exec] at hended ⊢
    generalize exec p c = r at hp ih hended ⊢
    obtain ⟨o, c'⟩ := r
    cases o with
    | ok => exact ih hended
    | raised e =>
      have hh := exec_counters handler c'
      dsimp only at hp hended ih ⊢
      split_ifs at hended ⊢
      · obtain ⟨fs₁, h₁, ht₁⟩ := ih (by omega)
        obtain ⟨fs₂, h₂, ht₂⟩ := exec_inside hbase handler h₁ (by omega)
        exact ⟨fs₂, h₂, (ht₁.trans ht₂).mono fun ha => ⟨by omega, by omega⟩⟩
      · exact ih hended
  | .unit p result, fs, c, h, hended => by
    have hb := beginFrame_counters .unit c
    have hp := exec_counters p (beginFrame .unit c)
    have ih := exec_inside hbase p (h.begin_ .unit)
    have hlen : c.frames.length = fs.length + base.length := by rw [h.frames, List.length_append]
    simp only [exec, hlen] at hended ⊢
    generalize exec p (beginFrame .unit c) = r at hp ih hended ⊢
    obtain ⟨o, c'⟩ := r
    have he := endUnit_counters (fs.length + base.length) result o c'
    dsimp only at hp hended ih ⊢
    obtain ⟨fs₁, h₁, ht₁⟩ := ih (by omega)
    obtain ⟨fs₂, h₂, ht₂⟩ := h₁.endUnit rfl ht₁ o result
    exact ⟨fs₂, h₂, ht₂.mono fun ha => by omega⟩
  | .txn p result, fs, c, h, hended => by
    have hb := beginFrame_counters .repository c
    have hp := exec_counters p (beginFrame .repository c)
    have ih := exec_inside hbase p (h.begin_ .repository)
    simp only [exec] at hended ⊢
    generalize exec p (beginFrame .repository c) = r at hp ih hended ⊢
    obtain ⟨o, c'⟩ := r
    have he := endTxn_counters result o c'
    dsimp only at hp hended ih ⊢
    obtain ⟨fs₁, h₁, ht₁⟩ := ih (by omega)
    obtain ⟨fs₂, h₂, ht₂⟩ := h₁.endTxn hbase rfl ht₁ o result
    exact ⟨fs₂, h₂, ht₂.mono fun ha => ⟨by omega, by omega⟩⟩

/-- A statement of the body makes SQLite end the transaction, and its exception
leaves the body: it is not caught, and no `sqlite_write_txn` is on its way. -/
def EndsOut : Body W → Conn W → Prop
  | .failEnding, c => c.db.tx.isSome = true
  | .seq p q, c =>
    match exec p c with
    | (.ok, c') => c'.ended = c.ended ∧ EndsOut q c'
    | (.raised _, _) => EndsOut p c
  | .attempt p clause handler, c =>
    match exec p c with
    | (.ok, _) => False
    | (.raised e, c') => clause.catches e = true ∧ c'.ended = c.ended ∧ EndsOut handler c'
  | .unit p _, c => EndsOut p (beginFrame .unit c)
  | _, _ => False

/-- The transaction is gone, and what was durable before it stays. -/
structure Ended (base : List Frame) (c₀ : Conn W) (fs : List Frame) (c : Conn W) : Prop where
  frames : c.frames = fs ++ base
  durable : c.db.durable = c₀.db.durable
  earlier : c.db.earlier = c₀.db.earlier
  tx : c.db.tx = none

/-- A unit with a savepoint is left, though the savepoint is gone. -/
theorem Ended.endUnit {f : Frame} {name : ℕ} (hname : f.name = some name)
    (h : Ended base c₀ (f :: fs) c) (e : Raised)
    (result : CommitResult) :
    ∃ c', TemperatureMonitor.endUnit (fs.length + base.length) result (.raised e, c) =
      (.raised .exception, c') ∧ Ended base c₀ fs c' := by
  have hlen : c.frames.length - (fs.length + base.length) = 1 := by
    rw [h.frames, List.cons_append, List.length_cons, List.length_append]
    omega
  have hfinish :
      finishFrame true .done c = (.raised .exception, { c with frames := fs ++ base }) := by
    have hframes : c.frames = f :: (fs ++ base) := h.frames
    unfold finishFrame
    rw [hframes]
    simp only [hname, finishSavepoint, if_true, Sqlite.rollbackTo, h.tx]
  refine ⟨{ c with frames := fs ++ base }, ?_, rfl, h.durable, h.earlier, h.tx⟩
  simp only [TemperatureMonitor.endUnit, hlen, TemperatureMonitor.unwind, hfinish]

/-- Where the transaction is ended on the way out, the frames are those of the scopes that are still
open. -/
theorem exec_endsOut (hbase : ∃ u rest, base = u :: rest ∧ u.kind = .unit) :
    ∀ (p : Body W) {fs : List Frame} {c : Conn W},
    Inside base sps c₀ start fs c → EndsOut p c → (exec p c).2.abandoned = c.abandoned →
      (exec p c).1 = .raised .exception ∧ ∃ fs', Ended base c₀ fs' (exec p c).2 ∧ Trims True fs fs'
  | .failEnding, fs, c, h, hout, _ => by
    have hsome : c.db.tx.isSome = true := hout
    simp only [exec, hsome, if_true]
    exact ⟨trivial, fs, ⟨h.frames, h.durable, h.earlier, rfl⟩, .refl fs⟩
  | .seq p q, fs, c, h, hout, hclean => by
    have hp := exec_counters p c
    have hin := exec_inside hbase p h
    have ih := exec_endsOut hbase p h
    simp only [exec, EndsOut] at hout hclean ⊢
    generalize exec p c = r at hp hin ih hout hclean ⊢
    obtain ⟨o, c'⟩ := r
    cases o with
    | raised e => exact ih hout hclean
    | ok =>
      have hq := exec_counters q c'
      dsimp only at hp hin hout hclean ⊢
      obtain ⟨fs₁, h₁, ht₁⟩ := hin hout.1
      obtain ⟨hraised, fs₂, h₂, ht₂⟩ := exec_endsOut hbase q h₁ hout.2 (by omega)
      exact ⟨hraised, fs₂, h₂, (ht₁.trans ht₂).mono fun _ => ⟨by omega, trivial⟩⟩
  | .attempt p clause handler, fs, c, h, hout, hclean => by
    have hp := exec_counters p c
    have hin := exec_inside hbase p h
    simp only [exec, EndsOut] at hout hclean ⊢
    generalize exec p c = r at hp hin hout hclean ⊢
    obtain ⟨o, c'⟩ := r
    cases o with
    | ok => exact absurd hout id
    | raised e =>
      have hh := exec_counters handler c'
      dsimp only at hp hin hout hclean ⊢
      obtain ⟨hcatches, hended, hhandler⟩ := hout
      rw [if_pos hcatches] at hclean ⊢
      obtain ⟨fs₁, h₁, ht₁⟩ := hin hended
      obtain ⟨hraised, fs₂, h₂, ht₂⟩ := exec_endsOut hbase handler h₁ hhandler (by omega)
      exact ⟨hraised, fs₂, h₂, (ht₁.trans ht₂).mono fun _ => ⟨by omega, trivial⟩⟩
  | .unit p result, fs, c, h, hout, hclean => by
    have hb := beginFrame_counters .unit c
    have ih := exec_endsOut hbase p (h.begin_ .unit) hout
    have hlen : c.frames.length = fs.length + base.length := by rw [h.frames, List.length_append]
    simp only [exec, hlen] at hclean ⊢
    generalize exec p (beginFrame .unit c) = r at ih hclean ⊢
    obtain ⟨o, c'⟩ := r
    have he := endUnit_counters (fs.length + base.length) result o c'
    dsimp only at ih hclean
    obtain ⟨rfl, fs₁, h₁, ht₁⟩ := ih (by omega)
    obtain ⟨gs, rfl, hgs⟩ := ht₁.of_unit rfl
    rw [hgs trivial] at h₁
    obtain ⟨c'', heq, h₂⟩ := h₁.endUnit rfl .exception result
    rw [heq]
    exact ⟨rfl, fs, h₂, .refl fs⟩

end Inside

/-! ### The outermost unit -/

/-- The writes become visible together, or join the transaction that is open. -/
def Sqlite.accept (d : Sqlite W) (ws : List W) : Sqlite W :=
  match d.tx with
  | none => { durable := d.durable ++ ws, earlier := d.durable :: d.earlier, tx := none }
  | some t => { d with tx := some { t with content := t.content ++ ws } }

section Outermost

variable {c c' : Conn W} {fs : List Frame}

theorem unwind_add {m : ℕ} (n : ℕ) : ∀ {c : Conn W}, unwind m c = (.ok, c') →
    unwind (m + n) c = unwind n c' := by
  induction m with
  | zero =>
    intro c h
    cases h
    rw [Nat.zero_add]
  | succ m ih =>
    intro c h
    rw [Nat.succ_add, unwind]
    rw [unwind] at h
    split at h
    · exact ih h
    · cases h

/-- The start of a unit, of the content that is open or durable. -/
theorem beginFrame_inside (c : Conn W) : ∃ u sps start, u.kind = .unit ∧
    Inside (u :: c.frames) sps c start [] (beginFrame .unit c) ∧
    ((c.db.tx = none ∧ u.name = none ∧ sps = [] ∧ start = c.db.durable) ∨
      ∃ t, c.db.tx = some t ∧ u.name = some c.next ∧ sps = ⟨c.next, t.content⟩ :: t.savepoints ∧
        start = t.content) := by
  unfold beginFrame
  cases htx : c.db.tx with
  | none =>
    exact ⟨⟨.unit, none⟩, [], c.db.durable, rfl,
      ⟨rfl, rfl, rfl, [], c.db.durable, [], rfl, (List.append_nil _).symm, .nil _ _, rfl⟩,
        .inl ⟨rfl, rfl, rfl, rfl⟩⟩
  | some t =>
    have hrec : Records t.content (c.next + 1) [.opened c.next] [] t.content :=
      ⟨(List.append_nil _).symm, fun m hm => by
        cases List.mem_singleton.mp hm; omega, .nil, fun _ h => by cases h⟩
    exact ⟨⟨.unit, some c.next⟩, ⟨c.next, t.content⟩ :: t.savepoints, t.content, rfl,
      ⟨rfl, rfl, rfl, [], t.content, [.opened c.next], rfl, rfl, hrec, rfl⟩,
        .inr ⟨t, rfl, rfl, rfl, rfl⟩⟩

section Finish

variable {u : Frame} {sps : List (Savepoint W)} {start : List W}

/-- The unit's own frame, rolled back. -/
theorem finish_undo (h : Inside (u :: c.frames) sps c start [] c')
    (hstart : (c.db.tx = none ∧ u.name = none ∧ sps = [] ∧ start = c.db.durable) ∨
      ∃ t, c.db.tx = some t ∧ u.name = some c.next ∧ sps = ⟨c.next, t.content⟩ :: t.savepoints ∧
        start = t.content) :
    ∃ c₁, finishFrame true .done c' = (.ok, c₁) ∧ c₁.db = c.db ∧ c₁.frames = c.frames := by
  obtain ⟨own, content, es, htx, -, -, hnames⟩ := h.tx
  obtain rfl : own = [] := List.map_eq_nil_iff.mp hnames.symm
  have hframes : c'.frames = u :: c.frames := h.frames
  have hdb {d : Sqlite W} (hd : d.durable = c'.db.durable) (he : d.earlier = c'.db.earlier)
      (ht : d.tx = c.db.tx) :
      d = c.db := by
    obtain ⟨dur, ear, tx⟩ := d
    cases hc : c.db with
    | mk dur' ear' tx' =>
      have hdur := h.durable
      have hear := h.earlier
      rw [hc] at hdur hear ht
      simp_all
  unfold finishFrame
  rw [hframes]
  rcases hstart with ⟨hidle, hname, rfl, -⟩ | ⟨t, hopen, hname, rfl, -⟩
  · simp only [hname, if_true]
    exact ⟨_, rfl, hdb rfl rfl hidle.symm, rfl⟩
  · have hfind (a : List W) : Sqlite.find c.next ⟨a, ⟨c.next, t.content⟩ :: t.savepoints⟩ =
        ⟨c.next, t.content⟩ :: t.savepoints := by simp [Sqlite.find]
    simp only [hname, finishSavepoint, if_true, Sqlite.rollbackTo, Sqlite.release, htx,
      List.nil_append, hfind]
    exact ⟨_, rfl, hdb rfl rfl hopen.symm, rfl⟩

/-- The unit's own frame, at a normal end. -/
theorem finish_accept (h : Inside (u :: c.frames) sps c start [] c')
    (hstart : (c.db.tx = none ∧ u.name = none ∧ sps = [] ∧ start = c.db.durable) ∨
      ∃ t, c.db.tx = some t ∧ u.name = some c.next ∧ sps = ⟨c.next, t.content⟩ :: t.savepoints ∧
        start = t.content)
    (result : CommitResult) :
    (∃ c₁ es, finishFrame false result c' = (.ok, c₁) ∧ c₁.frames = c.frames ∧
      c₁.log = c.log ++ es ∧
        c₁.db = c.db.accept (kept [] es)) ∨
      c.db.tx = none ∧ ∃ c₁, finishFrame false result c' = (.raised .exception, c₁) ∧
        c₁.db.rollback = c.db := by
  obtain ⟨own, content, es, htx, hlog, hrec, hnames⟩ := h.tx
  obtain rfl : own = [] := List.map_eq_nil_iff.mp hnames.symm
  have hframes : c'.frames = u :: c.frames := h.frames
  have hcontent := hrec.content_eq
  unfold finishFrame Sqlite.accept
  rw [hframes]
  rcases hstart with ⟨hidle, hname, rfl, rfl⟩ | ⟨t, hopen, hname, rfl, rfl⟩
  · have hback : c'.db.rollback = c.db := by
      unfold Sqlite.rollback
      rw [h.durable, h.earlier, ← hidle]
    simp only [hname, Bool.false_eq_true, if_false, connectionCommit, htx]
    cases result with
    | done =>
      refine .inl ⟨_, es, rfl, rfl, hlog, ?_⟩
      simp only [Sqlite.commit, htx, hidle, h.durable, h.earlier, hcontent]
    | failed => exact .inr ⟨hidle, _, rfl, hback⟩
    | failedEnded => exact .inr ⟨hidle, _, rfl, hback⟩
  · have hfind (a : List W) : Sqlite.find c.next ⟨a, ⟨c.next, t.content⟩ :: t.savepoints⟩ =
        ⟨c.next, t.content⟩ :: t.savepoints := by simp [Sqlite.find]
    simp only [hname, finishSavepoint, Bool.false_eq_true, if_false, Sqlite.release, htx,
      List.nil_append, hfind]
    refine .inl ⟨_, es ++ [.released c.next], rfl, rfl, ?_, ?_⟩
    · show c'.log ++ _ = _
      rw [hlog, List.append_assoc]
    · rw [kept_append (fun _ => rfl)]
      simp only [kept, List.append_nil, hopen, ← hcontent, ← h.durable, ← h.earlier]

/-- How a unit ends: it is accepted, it is undone, or frames above its own are left. -/
theorem endUnit_cases (h : Inside (u :: c.frames) sps c start fs c')
    (hc : c.db.tx = none → c.frames = [])
    (hstart : (c.db.tx = none ∧ u.name = none ∧ sps = [] ∧ start = c.db.durable) ∨
      ∃ t, c.db.tx = some t ∧ u.name = some c.next ∧ sps = ⟨c.next, t.content⟩ :: t.savepoints ∧
        start = t.content)
    (o : Outcome) (result : CommitResult) :
    (∃ c₁ es, endUnit c.frames.length result (o, c') = (.ok, c₁) ∧ c₁.frames = c.frames ∧
      c₁.log = c.log ++ es ∧
        c₁.db = c.db.accept (kept [] es)) ∨
      (∃ e c₁, endUnit c.frames.length result (o, c') = (.raised e, c₁) ∧ c₁.db = c.db ∧
        c₁.frames = c.frames) ∨
      fs ≠ [] ∧ ∃ c₁, endUnit c.frames.length result (o, c') = (.ok, c₁) := by
  cases o with
  | ok =>
    cases fs with
    | nil =>
      rcases finish_accept h hstart result with ⟨c₁, es, heq, hacc⟩ | ⟨hidle, c₁, heq, hdb⟩
      · exact .inl ⟨c₁, es, by simp only [endUnit, heq], hacc⟩
      · refine .inr (.inl ⟨.exception, { c₁ with db := c₁.db.rollback, frames := [] }, by
          simp only [endUnit, heq], hdb, ?_⟩)
        exact (hc hidle).symm
    | cons f fs =>
      obtain ⟨c₁, heq, -⟩ := h.finish false result
      exact .inr (.inr ⟨by simp, c₁, by simp only [endUnit, heq]⟩)
  | raised e =>
    have hlen : c'.frames.length - c.frames.length = fs.length + 1 := by
      rw [h.frames]
      simp
      omega
    have hsplit : Inside (u :: c.frames) sps c start (fs ++ []) c' := by
      rw [List.append_nil]
      exact h
    obtain ⟨c₁, heq, h₁⟩ := hsplit.unwind
    obtain ⟨c₂, heq', hdb, hframes⟩ := finish_undo h₁ hstart
    have hunwind : unwind (fs.length + 1) c' = (.ok, c₂) := by
      rw [unwind_add 1 heq, unwind, heq']
      rfl
    exact .inr (.inl ⟨e, c₂, by simp only [endUnit, hlen, hunwind], hdb, hframes⟩)

end Finish

/-- No statement in the unit made SQLite end the transaction, or one did that
the unit had begun, and its exception left the unit with no transaction abandoned. -/
def EndsWithUnit (c : Conn W) (p : Body W) : Prop :=
  (exec p (beginFrame .unit c)).2.ended = c.ended ∨
    c.db.tx = none ∧ EndsOut p (beginFrame .unit c) ∧
      (exec p (beginFrame .unit c)).2.abandoned = c.abandoned

/-- A unit whose transaction is gone leaves what it found. -/
theorem endUnit_ended {u : Frame} (hname : u.name = none) (h : Ended (u :: c.frames) c [] c')
    (hidle : c.db.tx = none)
    (e : Raised) (result : CommitResult) :
    ∃ c₁, endUnit c.frames.length result (.raised e, c') = (.raised e, c₁) ∧
      c₁.db = c.db ∧ c₁.frames = c.frames := by
  have hframes : c'.frames = u :: c.frames := h.frames
  have hlen : c'.frames.length - c.frames.length = 1 := by
    rw [hframes, List.length_cons]
    omega
  have hfinish :
      finishFrame true .done c' = (.ok, { c' with db := c'.db.rollback, frames := c.frames }) := by
    unfold finishFrame
    rw [hframes]
    simp only [hname, if_true]
  refine ⟨{ c' with db := c'.db.rollback, frames := c.frames }, ?_, ?_, rfl⟩
  · simp only [endUnit, hlen, unwind, hfinish]
  · show c'.db.rollback = c.db
    unfold Sqlite.rollback
    rw [h.durable, h.earlier, ← hidle]

/-- **A unit of work is atomic.** Where no statement made SQLite end the
transaction but one that ended the unit with it, and a normal end left no
transaction abandoned inside: a unit that raises leaves the database and the frames it found; a unit
that ends leaves the frames it found and makes its kept writes visible together; and nothing in it
was durable before its end. -/
theorem unit_atomic (c : Conn W) (hc : c.db.tx = none → c.frames = []) (p : Body W)
    (result : CommitResult) (hended : EndsWithUnit c p)
    (hclean : (exec (.unit p result) c).1 = .ok →
      (exec (.unit p result) c).2.abandoned = c.abandoned) :
    (∀ e, (exec (.unit p result) c).1 = .raised e →
      (exec (.unit p result) c).2.db = c.db ∧ (exec (.unit p result) c).2.frames = c.frames) ∧
    ((exec (.unit p result) c).1 = .ok → (exec (.unit p result) c).2.frames = c.frames ∧
      ∃ es, (exec (.unit p result) c).2.log = c.log ++ es ∧
        (exec (.unit p result) c).2.db = c.db.accept (kept [] es)) ∧
    (exec p (beginFrame .unit c)).2.db.durable = c.db.durable ∧
    (exec p (beginFrame .unit c)).2.db.earlier = c.db.earlier := by
  obtain ⟨u, sps, start, hu, hin, hstart⟩ := beginFrame_inside c
  have hb := beginFrame_counters .unit c
  have hp := exec_counters p (beginFrame .unit c)
  have hmain := exec_inside ⟨u, c.frames, rfl, hu⟩ p hin
  have hout := exec_endsOut ⟨u, c.frames, rfl, hu⟩ p hin
  unfold EndsWithUnit at hended
  simp only [exec] at hclean ⊢
  generalize exec p (beginFrame .unit c) = r at hp hmain hout hended hclean ⊢
  obtain ⟨o, c'⟩ := r
  have he := endUnit_counters c.frames.length result o c'
  dsimp only at hp hmain hout hended ⊢
  rcases hended with hended | ⟨hidle, hescapes, habandoned⟩
  case inr =>
    obtain ⟨rfl, fs, hends, htrims⟩ := hout hescapes (by omega)
    obtain ⟨gs, s, rfl, hs, -, hgs⟩ := htrims
    rw [hgs trivial, List.suffix_nil.mp hs] at hends
    have hname : u.name = none := by
      rcases hstart with ⟨-, hname, -⟩ | ⟨t, hopen, -⟩
      · exact hname
      · rw [hidle] at hopen
        cases hopen
    obtain ⟨c₁, heq, hdb⟩ := endUnit_ended hname hends hidle .exception result
    rw [heq]
    exact ⟨fun _ _ => hdb, fun hok => (nomatch hok), hends.durable, hends.earlier⟩
  obtain ⟨fs, hinside, htrims⟩ := hmain (by omega)
  rcases endUnit_cases hinside hc hstart o result with ⟨c₁, es, heq, hacc⟩ | ⟨e, c₁, heq,
    hdb⟩ | ⟨hne, c₁, heq⟩
  · rw [heq]
    exact ⟨fun e he => (nomatch he), fun _ =>
      ⟨hacc.1, es, hacc.2⟩, hinside.durable, hinside.earlier⟩
  · rw [heq]
    exact ⟨fun _ _ => hdb, fun hok => (nomatch hok), hinside.durable, hinside.earlier⟩
  · -- a normal end leaves no frame above the unit's
    have hok := hclean (by rw [heq])
    obtain ⟨gs, s, rfl, hs, -, hgs⟩ := htrims
    have hnil := List.suffix_nil.mp hs
    rw [hgs (by omega), hnil] at hne
    exact absurd rfl hne

/-- Nested scopes, a rolled back one among them, and commits in between. -/
def nestedBody : Body ℕ :=
  .seq (.write 1)
      (.seq (.attempt (.txn (.seq (.write 2) (.fail .exception)) .done) .exception .skip)
    (.seq (.txn (.seq (.write 3) (.seq (.commit .done) (.write 4))) .done)
      (.unit (.write 5) .done)))

/-- A full disk in the unit itself. -/
def fullBody : Body ℕ := .seq (.write 1) (.unit (.seq (.write 2) .failEnding) .done)

/-- All but the write that was rolled back; and nothing where the disk is full. -/
theorem unit_atomic_nested : ((exec (.unit nestedBody .done) {}).2.frames = [] ∧
    ∃ es, (exec (.unit nestedBody .done) {}).2.log = [] ++ es ∧ kept [] es = [1, 3, 4, 5] ∧
      (exec (.unit nestedBody .done) {}).2.db = ({} : Sqlite ℕ).accept (kept [] es)) ∧
    (exec (.unit fullBody .done) {}).2.db = {} ∧
      (exec (.unit fullBody .done) {}).2.frames = [] := by
  constructor
  · obtain ⟨hframes, es, hlog, hdb⟩ :=
      (unit_atomic {} (fun _ => rfl) nestedBody .done (.inl (by decide)) (fun _ => by decide)).2.1
        (by decide)
    have hes : es = (exec (.unit nestedBody .done) {}).2.log := hlog.symm
    exact ⟨hframes, es, hlog, by rw [hes]; decide, hdb⟩
  · exact (unit_atomic {} (fun _ => rfl) fullBody .done (.inr ⟨rfl, ⟨rfl, rfl, rfl⟩, rfl⟩)
      (fun h => by cases h)).1 .exception rfl

/-- A full disk under a transaction leaves the unit's frame behind, and a
cancellation that is caught leaves the unit's writes pending. -/
theorem unit_broken :
    ((exec (.unit (.seq (.write 1) (.txn .failEnding .done)) .done) ({} : Conn ℕ)).1 =
      .raised .exception ∧
      (exec (.unit (.seq (.write 1) (.txn .failEnding .done)) .done) ({} : Conn ℕ)).2.frames =
        [⟨.unit, none⟩]) ∧
    (exec (.unit
      (.seq (.write 1) (.attempt (.txn (.fail .baseException) .done) .baseException .skip)) .done)
        ({} : Conn ℕ)).1 = .ok ∧
    (exec (.unit
      (.seq (.write 1) (.attempt (.txn (.fail .baseException) .done) .baseException .skip)) .done)
      ({} : Conn ℕ)).2.db.durable = [] := by
  decide

end Outermost

end TemperatureMonitor
