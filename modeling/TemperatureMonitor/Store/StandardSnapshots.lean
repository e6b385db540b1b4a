/-
# What a snapshot leaves in the cache

A version is stored with the content it came with (`Stored`), and no other
content is ever stored for its revision. A snapshot that is applied stores all
its standards, and the active snapshot has exactly these for members
(`applySnapshot_ok`); one that fails leaves the database as it was.
-/
import TemperatureMonitor.Store.StandardCache

namespace TemperatureMonitor

/-- The standard as a sync from a source stores it. -/
def StandardFields.stamped (f : StandardFields) (source : String) : StandardFields :=
  { f with standardSource := source }

/-- The primary key of the version of a standard. -/
def EnvironmentStandard.key (s : EnvironmentStandard) : String × String :=
  (s.standardId, s.revision)

theorem stamped_of_signature {f g : StandardFields} (h : f.signature = g.signature)
    (source : String) : f.stamped source = g.stamped source := by
  have hstamp : ∀ f : StandardFields, f.stamped source = f.signature.stamped source := fun _ => rfl
  rw [hstamp f, hstamp g, h]

theorem construct_fields {f : StandardFields} {s : EnvironmentStandard} (h : f.construct = .ok s) :
    s.toStandardFields = f := by
  unfold StandardFields.construct at h
  split at h
  · obtain rfl := Except.ok.inj h
    rfl
  · cases h

namespace StandardDb

variable {db db' : StandardDb} {source : String} {s r : EnvironmentStandard}
  {standards : List EnvironmentStandard}
  {t : DateTime} {k : String × String} {v : StandardVersion} {id : String}

/-- The validated version of a standard, from a source. -/
def Stored (db : StandardDb) (source : String) (s : EnvironmentStandard) : Prop :=
  ∃ v, db.versionOf s.key = some v ∧ v.fields = s.toStandardFields.stamped source ∧
    v.validationStatus = "VALIDATED"

/-- No content is lost or replaced. -/
def KeepsContent (db db' : StandardDb) : Prop :=
  ∀ k v, db.versionOf k = some v → ∃ v', db'.versionOf k = some v' ∧
    v'.fields.signature = v.fields.signature

theorem KeepsContent.refl (db : StandardDb) : KeepsContent db db := fun _ v h => ⟨v, h, rfl⟩

theorem KeepsContent.trans {db₁ db₂ db₃ : StandardDb} (h₁ : KeepsContent db₁ db₂)
    (h₂ : KeepsContent db₂ db₃) : KeepsContent db₁ db₃ := by
  intro k v hv
  obtain ⟨v', hv', hsame⟩ := h₁ k v hv
  obtain ⟨v'', hv'', hsame'⟩ := h₂ k v' hv'
  exact ⟨v'', hv'', hsame'.trans hsame⟩

/-! ### One standard -/

/-- A row that reads back has the content of its fields. -/
theorem fromRow_signature {found : EnvironmentStandard} (h : v.fromRow = .ok found) :
    found.toStandardFields.signature = v.fields.signature := by
  unfold StandardVersion.fromRow at h
  rw [construct_fields h]
  rfl

/-- **What one standard of a snapshot does to the versions.** -/
theorem insertOrValidate_ok (h : db.insertOrValidate source t s = .ok db') :
    (∃ versions, db' = { db with versions }) ∧ Stored db' source s ∧
      (∀ k, k ≠ s.key → db'.versionOf k = db.versionOf k) ∧
      ∀ v, db.versionOf s.key = some v → v.fields.signature = s.toStandardFields.signature := by
  unfold insertOrValidate at h
  cases hrow : db.versionOf (s.standardId, s.revision) with
  | none =>
    rw [hrow] at h
    obtain rfl := Except.ok.inj h
    have hnone : rowOf StandardVersion.key db.versions s.key = none := hrow
    refine ⟨⟨_, rfl⟩, ?_, fun k hk => rowOf_insert.trans ?_, fun v hv => ?_⟩
    · refine ⟨s.newVersion source t, rowOf_insert.trans ?_, rfl, rfl⟩
      rw [hnone, Option.none_or]
      exact if_pos rfl
    · rw [if_neg (show ¬(s.newVersion source t).key = k from fun hsk => hk hsk.symm),
        Option.or_none]
      rfl
    · rw [show db.versionOf s.key = none from hrow] at hv
      cases hv
  | some existing =>
    rw [hrow] at h
    simp only at h
    cases hread : existing.fromRow with
    | error e =>
      rw [hread] at h
      cases h
    | ok found =>
      rw [hread] at h
      simp only at h
      by_cases hsame : found.toStandardFields.signature = s.toStandardFields.signature
      · rw [if_neg (not_not.mpr hsame)] at h
        obtain rfl := Except.ok.inj h
        have hcontent := (fromRow_signature hread).symm.trans hsame
        have hkeys : ∀ v : StandardVersion, (if v.key = (s.standardId, s.revision) then
            { v with fields := { v.fields with standardSource := source }, validationStatus := "VALIDATED"
                     validatedAt := some t, updatedAt := t }
            else v).key = v.key := by
          intro v
          by_cases hv : v.key = (s.standardId, s.revision)
          · rw [if_pos hv]
            rfl
          · rw [if_neg hv]
        refine ⟨⟨_, rfl⟩, ?_, fun k hk => ?_, fun v hv => ?_⟩
        · have hkey := (mem_of_rowOf hrow).2
          refine ⟨_, (rowOf_map hkeys).trans
            (by rw [show rowOf StandardVersion.key db.versions s.key = _ from hrow]; rfl), ?_⟩
          beta_reduce
          rw [if_pos hkey]
          exact ⟨stamped_of_signature hcontent source, rfl⟩
        · refine (rowOf_map hkeys).trans ?_
          cases hother : db.versionOf k with
          | none => rw [show rowOf StandardVersion.key db.versions k = _ from hother]; rfl
          | some v =>
            have hv := (mem_of_rowOf hother).2
            rw [show rowOf StandardVersion.key db.versions k = _ from hother, Option.map_some,
              if_neg (show ¬v.key = (s.standardId, s.revision) from fun hsk =>
                hk (hv.symm.trans hsk))]
        · have hv' : db.versionOf s.key = some existing := hrow
          rw [hv'] at hv
          rw [← Option.some.inj hv]
          exact hcontent
      · rw [if_pos hsame] at h
        cases h

theorem insertOrValidate_keeps (h : db.insertOrValidate source t s = .ok db') :
    KeepsContent db db' := by
  obtain ⟨-, ⟨v', hv', hfields, -⟩, hother, hsame⟩ := insertOrValidate_ok h
  intro k v hv
  by_cases hk : k = s.key
  · subst hk
    refine ⟨v', hv', ?_⟩
    rw [hfields, hsame v hv]
    rfl
  · exact ⟨v, (hother k hk).trans hv, rfl⟩

/-- A standard that was stored before in the same sync stays stored. -/
theorem Stored.insertOrValidate (hr : Stored db source r)
    (h : db.insertOrValidate source t s = .ok db') : Stored db' source r := by
  obtain ⟨-, hs, hother, hsame⟩ := insertOrValidate_ok h
  obtain ⟨v, hv, hfields, hvalid⟩ := hr
  by_cases hk : r.key = s.key
  · obtain ⟨v', hv', hfields', hvalid'⟩ := hs
    have hcontent := hsame v (hk ▸ hv)
    rw [hfields] at hcontent
    refine ⟨v', hk ▸ hv', ?_, hvalid'⟩
    rw [hfields']
    exact (stamped_of_signature hcontent source).symm
  · exact ⟨v, (hother r.key hk).trans hv, hfields, hvalid⟩

/-! ### All standards of a snapshot -/

theorem liftStatement_ok {statement : StandardDb → Except PyError StandardDb} {a a' : Applying}
    (h : liftStatement statement a = .ok a') : ∃ db', statement a.db = .ok db' ∧
      a' = { a with db := db' } := by
  unfold liftStatement at h
  cases hst : statement a.db with
  | error e =>
    rw [hst] at h
    cases h
  | ok db' =>
    rw [hst] at h
    exact ⟨db', rfl, (Except.ok.inj h).symm⟩

/-- **The loop over the standards of a snapshot.** -/
theorem insertAll_ok : ∀ {standards : List EnvironmentStandard} {a a' : Applying},
    StatementsRun (standards.map fun s => liftStatement (insertOrValidate · source t s)) a a' →
    (∃ versions, a' = { a with db := { a.db with versions } }) ∧ KeepsContent a.db a'.db ∧
      (∀ s ∈ standards, Stored a'.db source s) ∧ ∀ r, Stored a.db source r → Stored a'.db source r
  | [], a, a', h => by
    obtain rfl := statementsRun_nil.mp h
    exact ⟨⟨a.db.versions, rfl⟩, KeepsContent.refl _, fun s hs => by simp at hs, fun r hr => hr⟩
  | s :: rest, a, a', h => by
    obtain ⟨a₁, hst, hrest⟩ := statementsRun_cons.mp h
    obtain ⟨db₁, hinsert, rfl⟩ := liftStatement_ok hst
    obtain ⟨⟨versions, rfl⟩, hkeeps, hall, hlater⟩ := insertAll_ok hrest
    obtain ⟨⟨versions₁, rfl⟩, hs, -, -⟩ := insertOrValidate_ok hinsert
    refine ⟨⟨versions, rfl⟩, (insertOrValidate_keeps hinsert).trans hkeeps, fun r hr => ?_,
      fun r hr => ?_⟩
    · rcases List.mem_cons.mp hr with rfl | hr
      · exact hlater _ hs
      · exact hall r hr
    · exact hlater r (hr.insertOrValidate hinsert)

/-! ### The members of a snapshot -/

/-- The keys of the members of a snapshot. -/
def memberKeys (db : StandardDb) (id : String) : List (String × String) :=
  (db.members.filter (·.snapshotId = id)).map fun m => (m.standardId, m.revision)

theorem memberVersions_perm (db : StandardDb) (id : String) :
    (db.memberVersions id).Perm ((db.memberKeys id).filterMap db.versionOf) := by
  unfold memberVersions memberKeys
  refine (List.perm_insertionSort _ _).trans (List.Perm.of_eq ?_)
  rw [List.filterMap_map]
  rfl

/-- Where every member has its version, they are versions of exactly the members. -/
theorem memberVersions_keys (h : ∀ k ∈ db.memberKeys id, ∃ v, db.versionOf k = some v) :
    ((db.memberVersions id).map StandardVersion.key).Perm (db.memberKeys id) := by
  refine ((memberVersions_perm db id).map _).trans (List.Perm.of_eq ?_)
  revert h
  induction db.memberKeys id with
  | nil =>
    intro _
    rfl
  | cons k keys ih =>
    intro h
    obtain ⟨v, hv⟩ := h k List.mem_cons_self
    rw [List.filterMap_cons_some hv, List.map_cons, ih fun k hk =>
      h k (List.mem_cons_of_mem _ hk), (mem_of_rowOf hv).2]

theorem insertMembers_ok : ∀ {standards : List EnvironmentStandard}
    {members members' : List SnapshotMember}, insertMembers id members standards = .ok members' →
    members' = members ++ standards.map fun s => ⟨id, s.standardId, s.revision⟩
  | [], members, members', h => by
    unfold insertMembers at h
    rw [List.map_nil, List.append_nil]
    exact (Except.ok.inj h).symm
  | s :: rest, members, members', h => by
    unfold insertMembers at h
    by_cases hmem : (⟨id, s.standardId, s.revision⟩ : SnapshotMember) ∈ members
    · rw [if_pos hmem] at h
      cases h
    · rw [if_neg hmem] at h
      rw [insertMembers_ok h, List.map_cons, List.append_assoc, List.singleton_append]

/-- Rows that read back. -/
theorem fromRows_ok : ∀ {rows : List StandardVersion}
    {standards : List EnvironmentStandard}, fromRows rows = .ok standards →
    standards.map (·.toStandardFields.signature) = rows.map (·.fields.signature)
  | [], standards, h => by
    obtain rfl := Except.ok.inj h
    rfl
  | v :: rows, standards, h => by
    unfold fromRows at h
    cases hv : v.fromRow with
    | error e =>
      rw [hv] at h
      cases h
    | ok s =>
      cases hrest : fromRows rows with
      | error e =>
        rw [hv, hrest] at h
        cases h
      | ok rest =>
        rw [hv, hrest] at h
        obtain rfl := Except.ok.inj h
        rw [List.map_cons, List.map_cons, fromRows_ok hrest, fromRow_signature hv]

/-- The pointers agree, and their snapshot is a validated one of Feishu with all its versions. -/
structure Coherent (lower : String → String) (db : StandardDb) : Prop where
  ids : ∀ m ∈ db.members, ∃ snap ∈ db.snapshots, snap.snapshotId = m.snapshotId
  same : db.activeSnapshotId = db.lastKnownGoodSnapshotId
  snapshot : ∀ id, db.activeSnapshotId = some id → ∃ snap, db.snapshotOf id = some snap ∧
      snap.status = "VALIDATED" ∧
    isFeishuSource lower snap.source = true
  versions : ∀ id, db.activeSnapshotId = some id →
    ∀ k ∈ db.memberKeys id, ∃ v, db.versionOf k = some v

/-- Both pointers are at a snapshot whose members are the standards of a sync, stored from its
source. -/
structure Activated (db : StandardDb) (syncId source : String)
    (standards : List EnvironmentStandard) (id : String) : Prop where
  active : db.activeSnapshotId = some id
  good : db.lastKnownGoodSnapshotId = some id
  run : ∃ run ∈ db.syncRuns, run.id = syncId ∧ run.status = "SUCCEEDED" ∧ run.snapshotId = some id
  members : (db.memberKeys id).Perm (standards.map (·.key))
  stored : ∀ s ∈ standards, Stored db source s

variable {lower : String → String} {syncId snapshotId : String} {a a' : Applying} {n : String}
  {fault : ℕ → Option PyError}

/-- The active snapshot with the standards of the sync has their versions for members. -/
theorem snapshotMatchesActive_true (h : db.snapshotMatchesActive standards = .ok true)
    (hversions : ∀ id, db.activeSnapshotId = some id →
      ∀ k ∈ db.memberKeys id, ∃ v, db.versionOf k = some v) :
    ∃ id, db.activeSnapshotId = some id ∧ (db.memberKeys id).Perm (standards.map (·.key)) := by
  unfold snapshotMatchesActive at h
  cases hactive : db.activeSnapshotId with
  | none =>
    rw [hactive] at h
    cases h
  | some id =>
    rw [hactive] at h
    simp only at h
    cases hrows : fromRows (db.memberVersions id) with
    | error e =>
      rw [hrows] at h
      cases h
    | ok current =>
      rw [hrows] at h
      have hsame :
          (current.map (·.toStandardFields.signature)).Perm
          (standards.map (·.toStandardFields.signature)) :=
        of_decide_eq_true (Except.ok.inj h)
      rw [fromRows_ok hrows] at hsame
      have hkeys := hsame.map fun f => (f.standardId, f.revision)
      rw [List.map_map, List.map_map] at hkeys
      exact ⟨id, rfl, (memberVersions_keys (hversions id hactive)).symm.trans hkeys⟩

/-- A new snapshot. -/
theorem createSnapshot_ok (h : db.createSnapshot snapshotId source standards t = .ok db')
    (hids : ∀ m ∈ db.members, ∃ snap ∈ db.snapshots, snap.snapshotId = m.snapshotId) :
    db'.versions = db.versions ∧ db'.syncRuns = db.syncRuns ∧
      db'.activeSnapshotId = some snapshotId ∧
      db'.lastKnownGoodSnapshotId = some snapshotId ∧
        db'.memberKeys snapshotId = standards.map (·.key) ∧
      (∃ snap, db'.snapshotOf snapshotId = some snap ∧ snap.status = "VALIDATED" ∧
        snap.source = source) ∧
      ∀ m ∈ db'.members, ∃ snap ∈ db'.snapshots, snap.snapshotId = m.snapshotId := by
  unfold createSnapshot at h
  by_cases hany : db.snapshots.any (·.snapshotId = snapshotId) = true
  · rw [if_pos hany] at h
    cases h
  rw [if_neg hany] at h
  have hnew : ∀ snap ∈ db.snapshots, snap.snapshotId ≠ snapshotId := fun snap hsnap heq =>
    hany (List.any_eq_true.mpr ⟨snap, hsnap, decide_eq_true heq⟩)
  cases hmembers : insertMembers snapshotId db.members standards with
  | error e =>
    rw [hmembers] at h
    cases h
  | ok members =>
    rw [hmembers] at h
    obtain rfl := Except.ok.inj h
    obtain rfl := insertMembers_ok hmembers
    have hfound : rowOf StandardSnapshot.snapshotId (db.snapshots ++
        [⟨snapshotId, source, t, standards.length, "VALIDATED", t⟩]) snapshotId =
        some ⟨snapshotId, source, t, standards.length, "VALIDATED", t⟩ := by
      have hnone : rowOf StandardSnapshot.snapshotId db.snapshots snapshotId = none := by
        rw [rowOf, List.find?_eq_none]
        intro snap hsnap heq
        exact hnew snap hsnap (of_decide_eq_true heq)
      rw [rowOf_insert, hnone, if_pos rfl, Option.none_or]
    refine ⟨rfl, rfl, rfl, rfl, ?_, ⟨_, hfound, rfl, rfl⟩, fun m hm => ?_⟩
    · have hold : db.members.filter (fun m => decide (m.snapshotId = snapshotId)) = [] := by
        rw [List.filter_eq_nil_iff]
        intro m hm heq
        obtain ⟨snap, hsnap, hid⟩ := hids m hm
        exact hnew snap hsnap (hid.trans (of_decide_eq_true heq))
      unfold memberKeys
      rw [List.filter_append, hold, List.nil_append, List.filter_eq_self.mpr (by simp),
        List.map_map]
      rfl
    · rcases List.mem_append.mp hm with hm | hm
      · obtain ⟨snap, hsnap, hid⟩ := hids m hm
        exact ⟨snap, List.mem_append_left _ hsnap, hid⟩
      · obtain ⟨s, -, rfl⟩ := List.mem_map.mp hm
        exact ⟨_, List.mem_append_right _ (List.mem_singleton_self _), rfl⟩

theorem insertSyncRun_ok (h : db.insertSyncRun syncId source standards t = .ok db') :
    db' = { db with syncRuns := db'.syncRuns } ∧ ∃ run ∈ db'.syncRuns, run.id = syncId := by
  unfold insertSyncRun at h
  by_cases hany : db.syncRuns.any (·.id = syncId) = true
  · rw [if_pos hany] at h
    cases h
  · rw [if_neg hany] at h
    obtain rfl := Except.ok.inj h
    exact ⟨rfl, _, List.mem_append_right _ (List.mem_singleton_self _), rfl⟩

/-- **A snapshot that is applied is the active one.** -/
theorem applySnapshot_ok (hc : Coherent lower db)
    (h : applySnapshot lower syncId snapshotId source standards t fault db = (.ok n, db')) :
    blank source = false ∧ Coherent lower db' ∧ KeepsContent db db' ∧
      ∃ id, Activated db' syncId source standards id := by
  unfold applySnapshot at h
  by_cases hblank : blank source = true
  · rw [if_pos hblank] at h
    cases h
  rw [if_neg hblank] at h
  by_cases hfeishu : (!isFeishuSource lower source) = true
  · rw [if_pos hfeishu] at h
    cases h
  rw [if_neg hfeishu] at h
  have hfeishu : isFeishuSource lower source = true := by simpa using hfeishu
  refine ⟨by simpa using hblank, ?_⟩
  rcases transaction_cases fault (applyStatements syncId snapshotId source standards t)
      ⟨db, none⟩ with
    ⟨a, htx, hrun⟩ | ⟨e, htx⟩
  swap
  · rw [htx] at h
    cases h
  rw [htx] at h
  obtain rfl : a.db = db' := (Prod.mk.inj h).2
  -- the row of the sync, the versions, the snapshot, the end of the row
  obtain ⟨a₁, hlift, hrun⟩ := statementsRun_cons.mp hrun
  obtain ⟨db₁, hinsert, rfl⟩ := liftStatement_ok hlift
  obtain ⟨a₂, hall, hrun⟩ := statementsRun_append.mp hrun
  obtain ⟨⟨versions, rfl⟩, hkeeps, hstored, -⟩ := insertAll_ok hall
  obtain ⟨a₃, hchoose, hrun⟩ := statementsRun_cons.mp hrun
  obtain ⟨a₄, hfinish, hrun⟩ := statementsRun_cons.mp hrun
  obtain rfl := statementsRun_nil.mp hrun
  obtain rfl := Except.ok.inj hfinish
  obtain ⟨hdb, hopen⟩ := insertSyncRun_ok hinsert
  have hversions : ∀ id, db.activeSnapshotId = some id → ∀ k ∈ db.memberKeys id,
      ∃ v, ({ db₁ with versions } : StandardDb).versionOf k = some v := by
    intro id hid k hk
    obtain ⟨v, hv⟩ := hc.versions id hid k hk
    obtain ⟨v', hv', -⟩ := hkeeps k v (by rw [hdb]; exact hv)
    exact ⟨v', hv'⟩
  have hrow : ∀ {runs : List StandardSyncRun} {id : String}, (∃ run ∈ runs, run.id = syncId) →
      ∃ run ∈ runs.map fun run => if run.id = syncId then { run with
        status := "SUCCEEDED", finishedAt := some t, snapshotId := some id } else run,
        run.id = syncId ∧ run.status = "SUCCEEDED" ∧ run.snapshotId = some id := by
    rintro runs id ⟨run, hmem, hid⟩
    refine ⟨_, List.mem_map_of_mem hmem, ?_⟩
    rw [if_pos hid]
    exact ⟨hid, rfl, rfl⟩
  have hcontent : KeepsContent db { db₁ with versions } := by
    intro k v hv
    exact hkeeps k v (by rw [hdb]; exact hv)
  unfold chooseSnapshot at hchoose
  cases hmatch : ({ db₁ with versions } : StandardDb).snapshotMatchesActive standards with
  | error e =>
    rw [hmatch] at hchoose
    cases hchoose
  | ok same =>
    rw [hmatch] at hchoose
    cases same with
    | true =>
      obtain rfl := Except.ok.inj hchoose
      have hactive₁ : db₁.activeSnapshotId = db.activeSnapshotId := by rw [hdb]
      obtain ⟨id, hid, hkeys⟩ := snapshotMatchesActive_true hmatch (by
        intro id hid k hk
        exact hversions id (hactive₁ ▸ hid) k (by rw [hdb] at hk; exact hk))
      have hid' : db₁.activeSnapshotId = some id := hid
      have hactive : db.activeSnapshotId = some id := hactive₁ ▸ hid
      refine ⟨?_, hcontent, id, ?_⟩
      · rw [hdb]
        exact ⟨hc.ids, hc.same, hc.snapshot, hversions⟩
      · refine ⟨hid, ?_, ?_, hkeys, hstored⟩
        · show db₁.lastKnownGoodSnapshotId = some id
          rw [hdb]
          exact hc.same ▸ hactive
        · simp only [hid']
          exact hrow hopen
    | false =>
      simp only at hchoose
      cases hcreate :
          ({ db₁ with versions } : StandardDb).createSnapshot snapshotId source standards t with
      | error e =>
        rw [hcreate] at hchoose
        cases hchoose
      | ok db₃ =>
        rw [hcreate] at hchoose
        obtain rfl := Except.ok.inj hchoose
        obtain ⟨hvers, hruns, hactive, hgood, hkeys, ⟨snap, hsnap, hstatus, hsource⟩, hids⟩ :=
          createSnapshot_ok hcreate (by rw [hdb]; exact hc.ids)
        have hstored₃ : ∀ s ∈ standards, Stored db₃ source s := by
          intro s hs
          obtain ⟨v, hv, hrest⟩ := hstored s hs
          exact ⟨v, by unfold versionOf; rw [hvers]; exact hv, hrest⟩
        refine ⟨⟨hids, hactive.trans hgood.symm, fun id hid => ?_, fun id hid k hk => ?_⟩,
          fun k v hv => ?_, snapshotId, ?_⟩
        · have hid : db₃.activeSnapshotId = some id := hid
          obtain rfl := Option.some.inj (hactive.symm.trans hid)
          exact ⟨snap, hsnap, hstatus, hsource ▸ hfeishu⟩
        · have hid : db₃.activeSnapshotId = some id := hid
          obtain rfl := Option.some.inj (hactive.symm.trans hid)
          have hk : k ∈ db₃.memberKeys snapshotId := hk
          rw [hkeys] at hk
          obtain ⟨s, hs, rfl⟩ := List.mem_map.mp hk
          obtain ⟨v, hv, -⟩ := hstored₃ s hs
          exact ⟨v, hv⟩
        · obtain ⟨v', hv', hsig⟩ := hcontent k v hv
          refine ⟨v', ?_, hsig⟩
          show rowOf StandardVersion.key db₃.versions k = some v'
          rw [hvers]
          exact hv'
        · refine ⟨hactive, hgood, ?_, List.Perm.of_eq hkeys, hstored₃⟩
          refine hrow ?_
          rw [hruns]
          exact hopen

/-- **A snapshot that fails leaves the database as it was.** -/
theorem applySnapshot_error {e : PyError}
    (h : applySnapshot lower syncId snapshotId source standards t fault db = (.error e, db')) :
    db' = db := by
  unfold applySnapshot at h
  split_ifs at h
  · exact (Prod.mk.inj h).2.symm
  · exact (Prod.mk.inj h).2.symm
  · rcases transaction_cases fault (applyStatements syncId snapshotId source standards t)
        ⟨db, none⟩ with
      ⟨a, htx, hrun⟩ | ⟨e', htx⟩
    · rw [htx] at h
      cases h
    · rw [htx] at h
      exact (Prod.mk.inj h).2.symm

end StandardDb

end TemperatureMonitor
