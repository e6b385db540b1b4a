/-
# Handing a remote record over

The event table under `create_or_get_active`, `close`,
`mark_external_record_missing` and `bind_external_record`, each a call of the
repository on one connection. A bind scans the other rows, rewriting the ones
that held the record before, and may find only after some rewrites that it has
to raise. `RecordsHeld` is what every call keeps: a record stays with one
device, and of the cycles bound to it the latest opened has not handed it over.
-/
import TemperatureMonitor.Library.Runs
import TemperatureMonitor.Store.Binding
import TemperatureMonitor.Store.RepositoryCall

namespace TemperatureMonitor

/-! ### The calls -/

/-- A statement on the table. -/
abbrev RowUpdate := List EnvironmentEvent → List EnvironmentEvent

def applyAll (ws : List RowUpdate) (rows : List EnvironmentEvent) : List EnvironmentEvent :=
  ws.foldl (fun rows w => w rows) rows

/-- The durable table. -/
def tableOf (c : Conn RowUpdate) : List EnvironmentEvent := applyAll c.db.durable []

/-- The scan of a bind: the rows rewritten, and whether it raises at one. -/
def bindScan (event : EnvironmentEvent) (recordId : String) : List EnvironmentEvent →
    List String × Bool
  | [] => ([], false)
  | other :: rest =>
    if other.eventId ≠ event.eventId ∧ other.payload.feishuRecordId = some recordId then
      if other.deviceId ≠ event.deviceId ∨ other.status ≠ .closed ∨
          event.openedAt.instant ≤ other.openedAt.instant then ([], true)
      else (other.eventId :: (bindScan event recordId rest).1, (bindScan event recordId rest).2)
    else bindScan event recordId rest

inductive RecordOp
  | create (newId deviceId eventKey : String) (openedAt : DateTime) (payload : EventPayload)
  | close (eventId : String) (closedAt : DateTime)
  | recordMissing (eventId : String) (missingAt : DateTime)
  | bind (eventId recordId : String)

/-- A call that raises before it writes. -/
def refusedCall : Call RowUpdate := { frame := .txn, writes := [], raises := true }

/-- The writes of a bind of the row `e`: those of the scan, then its own. -/
def bindWrites (e : EnvironmentEvent) (recordId : String) (rows : List EnvironmentEvent) :
    List RowUpdate :=
  (bindScan e recordId rows).1.map (fun id rows =>
      updateEvent rows id (·.patch (·.superseded e.eventId))) ++
    if (bindScan e recordId rows).2 then []
      else [fun rows => updateEvent rows e.eventId (·.bound recordId)]

/-- What a method does on the table it finds. -/
def RecordOp.call (rows : List EnvironmentEvent) : RecordOp → Call RowUpdate
  | create newId deviceId eventKey openedAt payload =>
    if blank deviceId ∨ blank eventKey then refusedCall
    else match findByKey rows eventKey <|> findActive rows deviceId with
    | some _ => { frame := .txn, writes := [], raises := false }
    | none =>
      -- `IntegrityError` on the primary key, with no other row to return
      if rows.any fun e => e.eventId = newId then refusedCall
      else { frame := .txn, writes := [fun rows => rows ++ [{ eventId := newId, deviceId, eventKey, openedAt, payload }]],
             raises := false }
  | close eventId closedAt =>
    { frame := .committed, writes := [fun rows => updateEvent rows eventId (·.close closedAt)]
      raises := (eventById rows eventId).isNone }
  | recordMissing eventId missingAt =>
    match eventById rows eventId with
    | none => refusedCall
    | some _ =>
        { frame := .txn, writes := [fun rows => updateEvent rows eventId (·.recordMissing missingAt)],
                  raises := false }
  | bind eventId recordId =>
    if blank recordId then refusedCall
    else match eventById rows eventId with
    | none => refusedCall
    | some e =>
      if e.payload.feishuRecordId.any (· ≠ recordId) then refusedCall
      else { frame := .txn, writes := bindWrites e recordId rows, raises := (bindScan e recordId rows).2 }

/-- A call with its faults and its outcome. -/
structure RecordCall where
  op : RecordOp
  fault : Option ℕ := none
  commit : CommitResult := .done
  outcome : Outcome

/-- A new event is not bound: the payload of a cycle that starts has no record. -/
def RecordOp.Plain : RecordOp → Prop
  | create _ _ _ _ payload => payload.feishuRecordId = none ∧ payload.feishuSupersededBy = none
  | _ => True

/-- The connection before and after a call. -/
def RecordStep (c : Conn RowUpdate) (l : RecordCall) (c' : Conn RowUpdate) : Prop :=
  exec { l.op.call (tableOf c) with fault := l.fault, commit := l.commit }.body c = (l.outcome, c')

/-! ### What a call makes of the table -/

theorem applyAll_append (ws vs : List RowUpdate) (rows : List EnvironmentEvent) :
    applyAll (ws ++ vs) rows = applyAll vs (applyAll ws rows) := by
  simp [applyAll]

theorem updateEvent_unknown {rows : List EnvironmentEvent} {eventId : String}
    (h : eventById rows eventId = none)
    (f : EnvironmentEvent → EnvironmentEvent) : updateEvent rows eventId f = rows := by
  have hno : ∀ e ∈ rows, e.eventId ≠ eventId := by
    intro e he hid
    have := List.find?_eq_none.mp h e he
    simp [hid] at this
  unfold updateEvent
  rw [List.map_congr_left fun e he => if_neg (hno e he)]
  exact List.map_id' rows

/-- Only `close` raises behind its commit, of an event that is not there. -/
theorem RecordOp.call_committed {rows : List EnvironmentEvent} {op : RecordOp}
    (hf : (op.call rows).frame = .committed)
    (hr : (op.call rows).raises = true) : applyAll (op.call rows).writes rows = rows := by
  cases op with
  | create newId deviceId eventKey openedAt payload =>
    simp only [RecordOp.call] at hf
    split at hf
    · cases hf
    · split at hf
      · cases hf
      · split at hf <;> cases hf
  | close eventId closedAt => exact updateEvent_unknown (Option.isNone_iff_eq_none.mp hr) _
  | recordMissing eventId missingAt =>
    simp only [RecordOp.call] at hf
    split at hf <;> cases hf
  | bind eventId recordId =>
    simp only [RecordOp.call] at hf
    split at hf
    · cases hf
    · split at hf
      · cases hf
      · split at hf <;> cases hf

/-- **A call writes the table as a whole, or raises and leaves every row.** -/
theorem RecordStep.table {c c' : Conn RowUpdate} {l : RecordCall} (hc : c.Idle)
    (h : RecordStep c l c') : c'.Idle ∧ (l.outcome = .ok ∧ (l.op.call (tableOf c)).raises = false ∧
        tableOf c' = applyAll (l.op.call (tableOf c)).writes (tableOf c) ∨
      l.outcome = .raised .exception ∧ tableOf c' = tableOf c) := by
  obtain ⟨hidle, hcases⟩ :=
    exec_call hc { l.op.call (tableOf c) with fault := l.fault, commit := l.commit }
  rw [h] at hidle hcases
  refine ⟨hidle, ?_⟩
  rcases hcases with ⟨hok, hraises, hdurable⟩ | ⟨hraised, hsame | ⟨hframe, hraises, hdurable⟩⟩
  · refine .inl ⟨hok, hraises, ?_⟩
    show applyAll c'.db.durable [] = _
    rw [show c'.db.durable = _ from hdurable, applyAll_append]
    rfl
  · refine .inr ⟨hraised, ?_⟩
    show applyAll c'.db.durable [] = _
    rw [show c'.db.durable = _ from hsame]
    rfl
  · refine .inr ⟨hraised, ?_⟩
    show applyAll c'.db.durable [] = _
    rw [show c'.db.durable = _ from hdurable, applyAll_append]
    exact RecordOp.call_committed hframe hraises

/-! ### The scan -/

section Scan

variable {event : EnvironmentEvent} {recordId : String} {rows : List EnvironmentEvent}

/-- The rows that hold the record beside the event's own. -/
def holdsRecord (event : EnvironmentEvent) (recordId : String) (other : EnvironmentEvent) : Bool :=
  other.eventId ≠ event.eventId ∧ other.payload.feishuRecordId = some recordId

theorem keepsRecord_iff {other : EnvironmentEvent} : keepsRecord event recordId other = true ↔
    holdsRecord event recordId other = true ∧
      (other.deviceId ≠ event.deviceId ∨ other.status ≠ .closed ∨
        event.openedAt.instant ≤ other.openedAt.instant) := by
  simp [keepsRecord, holdsRecord, and_assoc, or_assoc]

/-- A scan that ends has come by every holder, and none of them keeps the record. -/
theorem bindScan_ok : (bindScan event recordId rows).2 = false →
    (bindScan event recordId rows).1 = (rows.filter (holdsRecord event recordId)).map (·.eventId) ∧
      ∀ other ∈ rows, keepsRecord event recordId other = false := by
  induction rows with
  | nil => exact fun _ => ⟨rfl, fun _ h => by cases h⟩
  | cons other rest ih =>
    intro h
    unfold bindScan at h ⊢
    by_cases hholds : other.eventId ≠ event.eventId ∧ other.payload.feishuRecordId = some recordId
    · rw [if_pos hholds] at h ⊢
      by_cases hkeeps : other.deviceId ≠ event.deviceId ∨ other.status ≠ .closed ∨
          event.openedAt.instant ≤ other.openedAt.instant
      · rw [if_pos hkeeps] at h
        cases h
      · rw [if_neg hkeeps] at h ⊢
        obtain ⟨hids, hno⟩ := ih h
        have hother : holdsRecord event recordId other = true := by simpa [holdsRecord] using hholds
        refine ⟨?_, fun x hx => ?_⟩
        · rw [List.filter_cons_of_pos hother, List.map_cons, ← hids]
        · rcases List.mem_cons.mp hx with rfl | hx
          · exact Bool.eq_false_iff.mpr fun hk => hkeeps (keepsRecord_iff.mp hk).2
          · exact hno x hx
    · rw [if_neg hholds] at h ⊢
      obtain ⟨hids, hno⟩ := ih h
      have hother : ¬ holdsRecord event recordId other = true := by simpa [holdsRecord] using hholds
      refine ⟨?_, fun x hx => ?_⟩
      · rw [List.filter_cons_of_neg hother, ← hids]
      · rcases List.mem_cons.mp hx with rfl | hx
        · exact Bool.eq_false_iff.mpr fun hk => hother (keepsRecord_iff.mp hk).1
        · exact hno x hx

/-- One statement for each id, over a table. -/
theorem applyAll_updates {f : EnvironmentEvent → EnvironmentEvent}
    (hf : ∀ e, (f e).eventId = e.eventId) :
    ∀ {ids : List String}, ids.Nodup →
      ∀ rows, applyAll (ids.map fun id rows => updateEvent rows id f) rows =
      rows.map fun e => if e.eventId ∈ ids then f e else e := by
  intro ids hn
  induction ids with
  | nil =>
    intro rows
    simp [applyAll]
  | cons id ids ih =>
    intro rows
    obtain ⟨hnot, hn⟩ := List.nodup_cons.mp hn
    show applyAll (ids.map fun id rows => updateEvent rows id f) (updateEvent rows id f) = _
    rw [ih hn, updateEvent, List.map_map]
    refine List.map_congr_left fun e _ => ?_
    show (if (if e.eventId = id then f e else e).eventId ∈ ids then
        f (if e.eventId = id then f e else e)
      else (if e.eventId = id then f e else e)) = _
    by_cases hid : e.eventId = id
    · rw [if_pos hid, hf, if_neg (by rw [hid]; exact hnot),
        if_pos (by rw [hid]; exact List.mem_cons_self)]
    · rw [if_neg hid]
      simp only [List.mem_cons, hid, false_or]

/-- **The scan with its rewrites is the bind of `Binding`.** -/
theorem bindWrites_eq {e : EnvironmentEvent} (hn : (rows.map (·.eventId)).Nodup)
    (hok : (bindScan e recordId rows).2 = false) :
    bindExternalRecord.bindTo rows e.eventId recordId e =
      .ok (applyAll (bindWrites e recordId rows) rows) := by
  obtain ⟨hids, hno⟩ := bindScan_ok hok
  unfold bindExternalRecord.bindTo bindWrites
  rw [List.find?_eq_none.mpr fun x hx => by simp [hno x hx], hok]
  have hnodup : (bindScan e recordId rows).1.Nodup := by
    rw [hids]
    exact hn.sublist ((List.filter_sublist).map _)
  simp only [Bool.false_eq_true, if_false]
  rw [applyAll_append, applyAll_updates (f := (·.patch (·.superseded e.eventId))) (fun _ =>
    rfl) hnodup]
  show _ = Except.ok (updateEvent _ e.eventId (·.bound recordId))
  rw [updateEvent, List.map_map]
  refine congrArg Except.ok (List.map_congr_left fun x hx => ?_)
  have hmem : x.eventId ∈ (bindScan e recordId rows).1 ↔ holdsRecord e recordId x = true := by
    rw [hids, List.mem_map]
    constructor
    · rintro ⟨y, hy, hid⟩
      obtain ⟨hyr, hyh⟩ := List.mem_filter.mp hy
      rwa [← List.inj_on_of_nodup_map hn hyr hx hid]
    · exact fun hh => ⟨x, List.mem_filter.mpr ⟨hx, hh⟩, rfl⟩
  show _ = if (if x.eventId ∈ (bindScan e recordId rows).1 then x.patch (·.superseded e.eventId)
      else x).eventId =
    e.eventId then _ else _
  by_cases hid : x.eventId = e.eventId
  · have hnot : ¬ x.eventId ∈ (bindScan e recordId rows).1 := by
      rw [hmem]
      simp [holdsRecord, hid]
    rw [if_neg hnot, if_pos hid, if_pos hid]
    exact (congrArg _ (if_neg hnot)).symm
  · rw [if_neg hid]
    by_cases hrec : x.payload.feishuRecordId = some recordId
    · have hin : x.eventId ∈ (bindScan e recordId rows).1 := by
        rw [hmem]
        simp [holdsRecord, hid, hrec]
      rw [if_pos hrec, if_pos hin]
      exact (if_neg hid).symm
    · have hnot : ¬ x.eventId ∈ (bindScan e recordId rows).1 := by
        rw [hmem]
        simp [holdsRecord, hrec]
      rw [if_neg hrec, if_neg hnot]
      exact (if_neg hid).symm

end Scan

/-! ### What every call keeps -/

/-- Of the cycles bound to a record the latest opened has not handed it over,
the others have, and are over. -/
structure RecordsHeld (rows : List EnvironmentEvent) : Prop where
  ids : (rows.map (·.eventId)).Nodup
  oneActive : ∀ a ∈ rows, ∀ b ∈ rows, a.deviceId = b.deviceId → a.status ≠ .closed →
    b.status ≠ .closed → a = b
  oneDevice : ∀ a ∈ rows, ∀ b ∈ rows, ∀ r, a.payload.feishuRecordId = some r →
      b.payload.feishuRecordId = some r →
    a.deviceId = b.deviceId
  ordered : ∀ a ∈ rows, ∀ b ∈ rows, ∀ r, a.payload.feishuRecordId = some r →
      b.payload.feishuRecordId = some r →
    a.eventId ≠ b.eventId → a.openedAt.instant ≠ b.openedAt.instant
  handedOver : ∀ a ∈ rows, ∀ b ∈ rows, ∀ r, a.payload.feishuRecordId = some r →
      b.payload.feishuRecordId = some r →
    a.openedAt.instant < b.openedAt.instant → a.payload.feishuSupersededBy ≠ none
  ended : ∀ a ∈ rows, a.payload.feishuSupersededBy ≠ none → a.status = .closed ∧
    a.payload.feishuRecoveryPending = some false ∧ a.payload.feishuUpdatePending = some false
  later : ∀ a ∈ rows, a.payload.feishuSupersededBy ≠ none →
      ∃ b ∈ rows, ∃ r, a.payload.feishuRecordId = some r ∧
    b.payload.feishuRecordId = some r ∧ a.openedAt.instant < b.openedAt.instant

theorem recordsHeld_nil : RecordsHeld [] where
  ids := List.nodup_nil
  oneActive := fun _ h => by cases h
  oneDevice := fun _ h => by cases h
  ordered := fun _ h => by cases h
  handedOver := fun _ h => by cases h
  ended := fun _ h => by cases h
  later := fun _ h => by cases h

/-- A statement that leaves bindings and hand-overs alone. -/
structure KeepsBinding (e e' : EnvironmentEvent) : Prop where
  cycle : SameCycle e e'
  record : e'.payload.feishuRecordId = e.payload.feishuRecordId
  supersededBy : e'.payload.feishuSupersededBy = e.payload.feishuSupersededBy
  recoveryPending : e.payload.feishuRecoveryPending = some false →
    e'.payload.feishuRecoveryPending = some false
  updatePending : e.payload.feishuUpdatePending = some false →
    e'.payload.feishuUpdatePending = some false

theorem KeepsBinding.refl (e : EnvironmentEvent) : KeepsBinding e e := ⟨.refl e, rfl, rfl, id, id⟩

section Held

variable {rows : List EnvironmentEvent}

theorem RecordsHeld.map (h : RecordsHeld rows) {f : EnvironmentEvent → EnvironmentEvent}
    (hf : ∀ e, KeepsBinding e (f e)) : RecordsHeld (rows.map f) := by
  have hof {e : EnvironmentEvent} (he : e ∈ rows.map f) : ∃ x ∈ rows, f x = e := List.mem_map.mp he
  refine ⟨?_, ?_, ?_, ?_, ?_, ?_, ?_⟩
  · rw [List.map_map, show (fun e : EnvironmentEvent => e.eventId) ∘ f = (·.eventId) from
      funext fun e => (hf e).cycle.eventId]
    exact h.ids
  · intro a ha b hb hd hsa hsb
    obtain ⟨x, hx, rfl⟩ := hof ha
    obtain ⟨y, hy, rfl⟩ := hof hb
    rw [(hf x).cycle.deviceId, (hf y).cycle.deviceId] at hd
    rw [h.oneActive x hx y hy hd (fun hc => hsa ((hf x).cycle.closed hc)) fun hc =>
      hsb ((hf y).cycle.closed hc)]
  · intro a ha b hb r hra hrb
    obtain ⟨x, hx, rfl⟩ := hof ha
    obtain ⟨y, hy, rfl⟩ := hof hb
    rw [(hf x).record] at hra
    rw [(hf y).record] at hrb
    rw [(hf x).cycle.deviceId, (hf y).cycle.deviceId]
    exact h.oneDevice x hx y hy r hra hrb
  · intro a ha b hb r hra hrb hid
    obtain ⟨x, hx, rfl⟩ := hof ha
    obtain ⟨y, hy, rfl⟩ := hof hb
    rw [(hf x).record] at hra
    rw [(hf y).record] at hrb
    rw [(hf x).cycle.eventId, (hf y).cycle.eventId] at hid
    rw [(hf x).cycle.openedAt, (hf y).cycle.openedAt]
    exact h.ordered x hx y hy r hra hrb hid
  · intro a ha b hb r hra hrb hlt
    obtain ⟨x, hx, rfl⟩ := hof ha
    obtain ⟨y, hy, rfl⟩ := hof hb
    rw [(hf x).record] at hra
    rw [(hf y).record] at hrb
    rw [(hf x).cycle.openedAt, (hf y).cycle.openedAt] at hlt
    rw [(hf x).supersededBy]
    exact h.handedOver x hx y hy r hra hrb hlt
  · intro a ha hs
    obtain ⟨x, hx, rfl⟩ := hof ha
    rw [(hf x).supersededBy] at hs
    obtain ⟨hclosed, hrecovery, hupdate⟩ := h.ended x hx hs
    exact ⟨(hf x).cycle.closed hclosed, (hf x).recoveryPending hrecovery,
      (hf x).updatePending hupdate⟩
  · intro a ha hs
    obtain ⟨x, hx, rfl⟩ := hof ha
    rw [(hf x).supersededBy] at hs
    obtain ⟨y, hy, r, hrx, hry, hlt⟩ := h.later x hx hs
    refine ⟨f y, List.mem_map_of_mem hy, r, ?_, ?_, ?_⟩
    · rw [(hf x).record, hrx]
    · rw [(hf y).record, hry]
    · rw [(hf x).cycle.openedAt, (hf y).cycle.openedAt]
      exact hlt

/-- A new cycle, of a device without an active one. -/
theorem RecordsHeld.insert (h : RecordsHeld rows) {event : EnvironmentEvent}
    (hid : ∀ e ∈ rows, e.eventId ≠ event.eventId)
    (hactive : ∀ e ∈ rows, e.deviceId = event.deviceId → e.status = .closed)
    (hrecord : event.payload.feishuRecordId = none)
    (hsup : event.payload.feishuSupersededBy = none) : RecordsHeld (rows ++ [event]) := by
  have hof {e : EnvironmentEvent} (he : e ∈ rows ++ [event]) : e ∈ rows ∨ e = event := by
    rcases List.mem_append.mp he with he | he
    · exact .inl he
    · exact .inr (List.mem_singleton.mp he)
  -- a row with a record, or handed over, is one of before
  have hold {e : EnvironmentEvent} {r : String} (he : e ∈ rows ++ [event])
      (hr : e.payload.feishuRecordId = some r) :
      e ∈ rows := by
    rcases hof he with he | rfl
    · exact he
    · rw [hrecord] at hr
      cases hr
  have hsold {e : EnvironmentEvent} (he : e ∈ rows ++ [event])
      (hs : e.payload.feishuSupersededBy ≠ none) :
      e ∈ rows := by
    rcases hof he with he | rfl
    · exact he
    · exact absurd hsup hs
  refine ⟨?_, ?_, ?_, ?_, ?_, ?_, ?_⟩
  · rw [List.map_append]
    refine List.nodup_append.mpr ⟨h.ids, List.nodup_singleton _, ?_⟩
    intro x hx y hy hxy
    obtain ⟨e, he, rfl⟩ := List.mem_map.mp hx
    obtain rfl := List.mem_singleton.mp hy
    exact hid e he hxy
  · intro a ha b hb hd hsa hsb
    rcases hof ha with ha' | rfl
    · rcases hof hb with hb' | rfl
      · exact h.oneActive a ha' b hb' hd hsa hsb
      · exact absurd (hactive a ha' hd) hsa
    · rcases hof hb with hb' | rfl
      · exact absurd (hactive b hb' hd.symm) hsb
      · rfl
  · exact fun a ha b hb r hra hrb => h.oneDevice a (hold ha hra) b (hold hb hrb) r hra hrb
  · exact fun a ha b hb r hra hrb => h.ordered a (hold ha hra) b (hold hb hrb) r hra hrb
  · exact fun a ha b hb r hra hrb => h.handedOver a (hold ha hra) b (hold hb hrb) r hra hrb
  · exact fun a ha hs => h.ended a (hsold ha hs) hs
  · intro a ha hs
    obtain ⟨b, hb, r, hra, hrb, hlt⟩ := h.later a (hsold ha hs) hs
    exact ⟨b, List.mem_append_left _ hb, r, hra, hrb, hlt⟩

/-- What a bind makes of a row. -/
def bindRow (e : EnvironmentEvent) (recordId : String) (other : EnvironmentEvent) :
    EnvironmentEvent :=
  if other.eventId = e.eventId then other.bound recordId
  else if other.payload.feishuRecordId = some recordId then
    other.patch (·.superseded e.eventId) else other

section BindRow

variable {e other : EnvironmentEvent} {recordId : String}

theorem bindRow_self (h : other.eventId = e.eventId) :
    bindRow e recordId other = other.bound recordId := if_pos h

theorem bindRow_holder (h : other.eventId ≠ e.eventId)
    (hr : other.payload.feishuRecordId = some recordId) :
    bindRow e recordId other = other.patch (·.superseded e.eventId) := by
  unfold bindRow
  rw [if_neg h, if_pos hr]

theorem bindRow_other (h : other.eventId ≠ e.eventId)
    (hr : other.payload.feishuRecordId ≠ some recordId) : bindRow e recordId other = other := by
  unfold bindRow
  rw [if_neg h, if_neg hr]

theorem bindRow_cycle : SameCycle other (bindRow e recordId other) := by
  unfold bindRow
  split_ifs
  · exact RowWrite.sameCycle (.bound recordId)
  · exact RowWrite.sameCycle (.superseded e.eventId)
  · exact .refl other

theorem bindRow_status : (bindRow e recordId other).status = other.status := by
  unfold bindRow
  split_ifs <;> rfl

/-- The event's own row is bound to the record, no other binding changes. -/
theorem bindRow_record : (bindRow e recordId other).payload.feishuRecordId =
    if other.eventId = e.eventId then some recordId else other.payload.feishuRecordId := by
  unfold bindRow
  split_ifs <;> rfl

end BindRow

/-- A bind hands the record over to the event, if every other holder is older
and over. -/
theorem RecordsHeld.bind (h : RecordsHeld rows) {e : EnvironmentEvent} (he : e ∈ rows)
    {recordId : String} (hfree : ∀ r, e.payload.feishuRecordId = some r → r = recordId)
    (hno : ∀ other ∈ rows, keepsRecord e recordId other = false) :
    RecordsHeld (rows.map (bindRow e recordId)) := by
  have hof {x : EnvironmentEvent} (hx : x ∈ rows.map (bindRow e recordId)) :
      ∃ y ∈ rows, bindRow e recordId y = x := List.mem_map.mp hx
  have hown {x : EnvironmentEvent} (hx : x ∈ rows) (hid : x.eventId = e.eventId) : x = e :=
    List.inj_on_of_nodup_map h.ids hx he hid
  -- another holder of the record is an older cycle of the device, and over
  have holder {x : EnvironmentEvent} (hx : x ∈ rows) (hid : x.eventId ≠ e.eventId)
      (hr : x.payload.feishuRecordId = some recordId) :
      x.deviceId = e.deviceId ∧ x.status = .closed ∧ x.openedAt.instant < e.openedAt.instant := by
    have := hno x hx
    simp only [keepsRecord, hid, hr, ne_eq, not_false_eq_true, decide_true, Bool.true_and,
        Bool.or_eq_false_iff,
      decide_eq_false_iff_not, not_not, not_le] at this
    exact ⟨this.1.1, this.1.2, this.2⟩
  -- the event itself has not handed the record over
  have hkept : e.payload.feishuSupersededBy = none := by
    by_contra hs
    obtain ⟨b, hb, r, hre, hrb, hlt⟩ := h.later e he hs
    obtain rfl := hfree r hre
    have hid : b.eventId ≠ e.eventId := by
      intro hid
      rw [hown hb hid] at hlt
      exact lt_irrefl _ hlt
    exact lt_asymm hlt (holder hb hid hrb).2.2
  refine ⟨?_, ?_, ?_, ?_, ?_, ?_, ?_⟩
  · rw [List.map_map, show (fun x : EnvironmentEvent => x.eventId) ∘ bindRow e recordId =
        (·.eventId) from
      funext fun x => bindRow_cycle.eventId]
    exact h.ids
  · intro a ha b hb hd hsa hsb
    obtain ⟨x, hx, rfl⟩ := hof ha
    obtain ⟨y, hy, rfl⟩ := hof hb
    rw [bindRow_status] at hsa hsb
    rw [bindRow_cycle.deviceId, bindRow_cycle.deviceId] at hd
    rw [h.oneActive x hx y hy hd hsa hsb]
  · intro a ha b hb r hra hrb
    obtain ⟨x, hx, rfl⟩ := hof ha
    obtain ⟨y, hy, rfl⟩ := hof hb
    rw [bindRow_record] at hra hrb
    rw [bindRow_cycle.deviceId, bindRow_cycle.deviceId]
    by_cases hxe : x.eventId = e.eventId
    · rw [if_pos hxe] at hra
      obtain rfl := Option.some.inj hra
      by_cases hye : y.eventId = e.eventId
      · rw [hown hx hxe, hown hy hye]
      · rw [if_neg hye] at hrb
        rw [hown hx hxe, (holder hy hye hrb).1]
    · rw [if_neg hxe] at hra
      by_cases hye : y.eventId = e.eventId
      · rw [if_pos hye] at hrb
        obtain rfl := Option.some.inj hrb
        rw [hown hy hye, (holder hx hxe hra).1]
      · rw [if_neg hye] at hrb
        exact h.oneDevice x hx y hy r hra hrb
  · intro a ha b hb r hra hrb hid
    obtain ⟨x, hx, rfl⟩ := hof ha
    obtain ⟨y, hy, rfl⟩ := hof hb
    rw [bindRow_record] at hra hrb
    rw [bindRow_cycle.eventId, bindRow_cycle.eventId] at hid
    rw [bindRow_cycle.openedAt, bindRow_cycle.openedAt]
    by_cases hxe : x.eventId = e.eventId
    · rw [if_pos hxe] at hra
      obtain rfl := Option.some.inj hra
      have hye : y.eventId ≠ e.eventId := fun hye => hid (hxe.trans hye.symm)
      rw [if_neg hye] at hrb
      rw [hown hx hxe]
      exact (holder hy hye hrb).2.2.ne'
    · rw [if_neg hxe] at hra
      by_cases hye : y.eventId = e.eventId
      · rw [if_pos hye] at hrb
        obtain rfl := Option.some.inj hrb
        rw [hown hy hye]
        exact (holder hx hxe hra).2.2.ne
      · rw [if_neg hye] at hrb
        exact h.ordered x hx y hy r hra hrb hid
  · intro a ha b hb r hra hrb hlt
    obtain ⟨x, hx, rfl⟩ := hof ha
    obtain ⟨y, hy, rfl⟩ := hof hb
    rw [bindRow_record] at hra hrb
    rw [bindRow_cycle.openedAt, bindRow_cycle.openedAt] at hlt
    by_cases hxe : x.eventId = e.eventId
    · rw [if_pos hxe] at hra
      obtain rfl := Option.some.inj hra
      have hye : y.eventId ≠ e.eventId := by
        intro hye
        rw [hown hx hxe, hown hy hye] at hlt
        exact lt_irrefl _ hlt
      rw [if_neg hye] at hrb
      rw [hown hx hxe] at hlt
      exact absurd (holder hy hye hrb).2.2 (lt_asymm hlt)
    · rw [if_neg hxe] at hra
      by_cases hrec : x.payload.feishuRecordId = some recordId
      · rw [bindRow_holder hxe hrec]
        exact Option.some_ne_none _
      · rw [bindRow_other hxe hrec]
        have hye : y.eventId ≠ e.eventId := by
          intro hye
          rw [if_pos hye] at hrb
          exact hrec (hra.trans hrb.symm)
        rw [if_neg hye] at hrb
        exact h.handedOver x hx y hy r hra hrb hlt
  · intro a ha hs
    obtain ⟨x, hx, rfl⟩ := hof ha
    rw [bindRow_status]
    by_cases hxe : x.eventId = e.eventId
    · rw [bindRow_self hxe, hown hx hxe] at hs
      exact absurd hkept hs
    · by_cases hrec : x.payload.feishuRecordId = some recordId
      · rw [bindRow_holder hxe hrec]
        exact ⟨(holder hx hxe hrec).2.1, rfl, rfl⟩
      · rw [bindRow_other hxe hrec] at hs ⊢
        exact h.ended x hx hs
  · intro a ha hs
    obtain ⟨x, hx, rfl⟩ := hof ha
    by_cases hxe : x.eventId = e.eventId
    · rw [bindRow_self hxe, hown hx hxe] at hs
      exact absurd hkept hs
    · have hxr : (bindRow e recordId x).payload.feishuRecordId = x.payload.feishuRecordId := by
        rw [bindRow_record, if_neg hxe]
      by_cases hrec : x.payload.feishuRecordId = some recordId
      · refine ⟨bindRow e recordId e, List.mem_map_of_mem he, recordId, hxr.trans hrec, ?_, ?_⟩
        · rw [bindRow_record, if_pos rfl]
        · rw [bindRow_cycle.openedAt, bindRow_cycle.openedAt]
          exact (holder hx hxe hrec).2.2
      · rw [bindRow_other hxe hrec] at hs
        obtain ⟨y, hy, r, hrx, hry, hlt⟩ := h.later x hx hs
        have hye : y.eventId ≠ e.eventId := by
          intro hye
          rw [hown hy hye] at hry
          exact hrec (hrx.trans (congrArg some (hfree r hry)))
        refine ⟨bindRow e recordId y, List.mem_map_of_mem hy, r, hxr.trans hrx, ?_, ?_⟩
        · rw [bindRow_record, if_neg hye]
          exact hry
        · rw [bindRow_cycle.openedAt, bindRow_cycle.openedAt]
          exact hlt

end Held

/-! ### The methods keep it -/

theorem keepsBinding_close (closedAt : DateTime) (e : EnvironmentEvent) :
    KeepsBinding e (e.close closedAt) := by
  unfold EnvironmentEvent.close
  split_ifs
  · exact .refl e
  · exact ⟨⟨rfl, rfl, rfl, rfl, rfl, fun _ => rfl⟩, rfl, rfl, id, id⟩

theorem keepsBinding_recordMissing (missingAt : DateTime) (e : EnvironmentEvent) :
    KeepsBinding e (e.recordMissing missingAt) :=
  ⟨⟨rfl, rfl, rfl, rfl, rfl, fun _ => rfl⟩, rfl, rfl, fun _ => rfl, fun _ => rfl⟩

theorem RecordsHeld.update {rows : List EnvironmentEvent} (h : RecordsHeld rows) (eventId : String)
    {f : EnvironmentEvent → EnvironmentEvent} (hf : ∀ e, KeepsBinding e (f e)) :
    RecordsHeld (updateEvent rows eventId f) := by
  refine h.map fun e => ?_
  split_ifs
  · exact hf e
  · exact .refl e

/-- The row of an id is in the table, under it. -/
theorem eventById_some {rows : List EnvironmentEvent} {eventId : String} {e : EnvironmentEvent}
    (h : eventById rows eventId = some e) : e ∈ rows ∧ e.eventId = eventId :=
  ⟨List.mem_of_find?_eq_some h, by simpa using List.find?_some h⟩

/-- The table after the writes of a method that does not raise. -/
inductive RecordEffect (rows : List EnvironmentEvent) : RecordOp → List EnvironmentEvent → Prop
  /-- A row of the key or an active one of the device is returned. -/
  | found (op : RecordOp) : RecordEffect rows op rows
  | created (newId deviceId eventKey : String) (openedAt : DateTime) (payload : EventPayload)
      (hid : ∀ e ∈ rows, e.eventId ≠ newId) (hactive : ∀ e ∈ rows, e.deviceId = deviceId →
        e.status = .closed) :
      RecordEffect rows (.create newId deviceId eventKey openedAt payload)
        (rows ++ [{ eventId := newId, deviceId, eventKey, openedAt, payload }])
  | closed (eventId : String) (closedAt : DateTime) :
      RecordEffect rows (.close eventId closedAt) (updateEvent rows eventId (·.close closedAt))
  | missing (eventId : String) (missingAt : DateTime) :
      RecordEffect rows (.recordMissing eventId missingAt)
        (updateEvent rows eventId (·.recordMissing missingAt))
  | bound (e : EnvironmentEvent) (recordId : String) (he : e ∈ rows)
      (hfree : ∀ r, e.payload.feishuRecordId = some r → r = recordId)
      (hno : ∀ other ∈ rows, keepsRecord e recordId other = false) :
      RecordEffect rows (.bind e.eventId recordId) (rows.map (bindRow e recordId))

section Effect

variable {rows : List EnvironmentEvent} {op : RecordOp}

theorem createEffect {newId deviceId eventKey : String} {openedAt : DateTime}
    {payload : EventPayload}
    (hok : ((RecordOp.create newId deviceId eventKey openedAt payload).call rows).raises = false) :
    RecordEffect rows (.create newId deviceId eventKey openedAt payload)
      (applyAll ((RecordOp.create newId deviceId eventKey openedAt payload).call rows).writes
        rows) := by
  simp only [RecordOp.call] at hok ⊢
  split at hok
  · cases hok
  · rename_i hblank
    rw [if_neg hblank]
    split at hok
    · exact .found _
    · rename_i hfind
      split at hok
      · cases hok
      · rename_i hid
        rw [if_neg hid]
        have hactive : findActive rows deviceId = none := by
          cases hkey : findByKey rows eventKey with
          | none => rwa [hkey] at hfind
          | some e =>
            rw [hkey] at hfind
            cases hfind
        refine .created newId deviceId eventKey openedAt payload (fun e he heq => ?_)
          fun e he hd => ?_
        · exact hid (List.any_eq_true.mpr ⟨e, he, by simpa using heq⟩)
        · have := List.find?_eq_none.mp hactive e he
          by_contra hopen
          exact this (by simp [hd, hopen])

theorem bindEffect {eventId recordId : String} (hids : (rows.map (·.eventId)).Nodup)
    (hok : ((RecordOp.bind eventId recordId).call rows).raises = false) :
    RecordEffect rows (.bind eventId recordId)
      (applyAll ((RecordOp.bind eventId recordId).call rows).writes rows) := by
  simp only [RecordOp.call] at hok ⊢
  split at hok
  · cases hok
  · rename_i hblank
    rw [if_neg hblank]
    split at hok
    · cases hok
    · rename_i e hfind
      split at hok
      · cases hok
      · rename_i hfree
        rw [if_neg hfree]
        obtain ⟨he, rfl⟩ := eventById_some hfind
        have hno := (bindScan_ok hok).2
        have heq := bindWrites_eq hids hok
        unfold bindExternalRecord.bindTo at heq
        rw [List.find?_eq_none.mpr fun x hx => by simp [hno x hx]] at heq
        have hrows : applyAll (bindWrites e recordId rows) rows = rows.map (bindRow e recordId) :=
          (Except.ok.inj heq).symm
        show RecordEffect rows _ (applyAll (bindWrites e recordId rows) rows)
        rw [hrows]
        refine .bound e recordId he (fun r hr => ?_) hno
        by_contra hne
        exact hfree (by simp [hr, hne])

/-- **What a method makes of the table.** -/
theorem RecordOp.effect (hids : (rows.map (·.eventId)).Nodup)
    (hok : (op.call rows).raises = false) :
    RecordEffect rows op (applyAll (op.call rows).writes rows) := by
  cases op with
  | create newId deviceId eventKey openedAt payload => exact createEffect hok
  | close eventId closedAt => exact .closed eventId closedAt
  | recordMissing eventId missingAt =>
    simp only [RecordOp.call] at hok ⊢
    split at hok
    · cases hok
    · exact .missing eventId missingAt
  | bind eventId recordId => exact bindEffect hids hok

variable {rows' : List EnvironmentEvent}

theorem RecordEffect.held (he : RecordEffect rows op rows') (hp : op.Plain) (h : RecordsHeld rows) :
    RecordsHeld rows' := by
  cases he with
  | found => exact h
  | created newId deviceId eventKey openedAt payload hid hactive =>
    exact h.insert hid hactive hp.1 hp.2
  | closed eventId closedAt => exact h.update eventId (keepsBinding_close closedAt)
  | missing eventId missingAt => exact h.update eventId (keepsBinding_recordMissing missingAt)
  | bound e recordId he hfree hno => exact h.bind he hfree hno

/-- A row that is bound stays, bound to the same record. -/
def BindingsStay (rows rows' : List EnvironmentEvent) : Prop :=
  ∀ e ∈ rows, ∀ r, e.payload.feishuRecordId = some r →
    ∃ e' ∈ rows', e'.eventId = e.eventId ∧ e'.deviceId = e.deviceId ∧
      e'.payload.feishuRecordId = some r

theorem bindingsStay_refl (rows : List EnvironmentEvent) : BindingsStay rows rows :=
  fun e he _ hr => ⟨e, he, rfl, rfl, hr⟩

theorem BindingsStay.trans {a b c : List EnvironmentEvent} (h : BindingsStay a b)
    (h' : BindingsStay b c) : BindingsStay a c := by
  intro e he r hr
  obtain ⟨x, hx, hid, hdev, hrx⟩ := h e he r hr
  obtain ⟨y, hy, hid', hdev', hry⟩ := h' x hx r hrx
  exact ⟨y, hy, hid'.trans hid, hdev'.trans hdev, hry⟩

theorem bindingsStay_update (rows : List EnvironmentEvent) (eventId : String)
    {f : EnvironmentEvent → EnvironmentEvent}
    (hf : ∀ e, KeepsBinding e (f e)) : BindingsStay rows (updateEvent rows eventId f) := by
  intro e he r hr
  refine ⟨_, List.mem_map_of_mem he, ?_⟩
  split_ifs
  · exact ⟨(hf e).cycle.eventId, (hf e).cycle.deviceId, (hf e).record.trans hr⟩
  · exact ⟨rfl, rfl, hr⟩

theorem RecordEffect.bindings (he : RecordEffect rows op rows')
    (hids : (rows.map (·.eventId)).Nodup) : BindingsStay rows rows' := by
  cases he with
  | found => exact bindingsStay_refl rows
  | created newId deviceId eventKey openedAt payload =>
    exact fun e he r hr => ⟨e, List.mem_append_left _ he, rfl, rfl, hr⟩
  | closed eventId closedAt => exact bindingsStay_update rows eventId (keepsBinding_close closedAt)
  | missing eventId missingAt =>
    exact bindingsStay_update rows eventId (keepsBinding_recordMissing missingAt)
  | bound e recordId he hfree hno =>
    intro x hx r hr
    refine ⟨bindRow e recordId x, List.mem_map_of_mem hx, bindRow_cycle.eventId,
      bindRow_cycle.deviceId, ?_⟩
    rw [bindRow_record]
    by_cases hid : x.eventId = e.eventId
    · have hxe : x = e := List.inj_on_of_nodup_map hids hx he hid
      rw [if_pos hid, hfree r (hxe ▸ hr)]
    · rw [if_neg hid, hr]

end Effect

/-! ### Runs of calls -/

/-- The connection between two calls. -/
structure RecordInv (c : Conn RowUpdate) : Prop where
  idle : c.Idle
  held : RecordsHeld (tableOf c)

theorem recordInv_init : RecordInv {} := ⟨⟨rfl, rfl⟩, recordsHeld_nil⟩

/-- **A call keeps the invariant and every binding.** -/
theorem RecordInv.step {c c' : Conn RowUpdate} {l : RecordCall} (hi : RecordInv c) (hp : l.op.Plain)
    (h : RecordStep c l c') : RecordInv c' ∧ BindingsStay (tableOf c) (tableOf c') := by
  obtain ⟨hidle, ⟨-, hraises, htable⟩ | ⟨-, hsame⟩⟩ := h.table hi.idle
  · have heffect := RecordOp.effect hi.held.ids hraises
    refine ⟨⟨hidle, ?_⟩, ?_⟩
    · rw [htable]
      exact heffect.held hp hi.held
    · rw [htable]
      exact heffect.bindings hi.held.ids
  · refine ⟨⟨hidle, ?_⟩, ?_⟩
    · rw [hsame]
      exact hi.held
    · rw [hsame]
      exact bindingsStay_refl _

/-- A call that raises leaves every row. -/
theorem RecordStep.raised {c c' : Conn RowUpdate} {l : RecordCall} (hc : c.Idle)
    (h : RecordStep c l c') (hno : l.outcome ≠ .ok) : tableOf c' = tableOf c := by
  obtain ⟨-, ⟨hok, -⟩ | ⟨-, hsame⟩⟩ := h.table hc
  · exact absurd hok hno
  · exact hsame

/-- What a run of calls keeps. -/
theorem RecordInv.run {c c' : Conn RowUpdate} {ls : List RecordCall} (hi : RecordInv c)
    (hp : ∀ l ∈ ls, l.op.Plain)
    (h : Run RecordStep c ls c') : RecordInv c' ∧ BindingsStay (tableOf c) (tableOf c') := by
  refine (h.guarded (C := fun _ l => l.op.Plain) fun _ => hp).inv
    (I := fun x => RecordInv x ∧ BindingsStay (tableOf c) (tableOf x)) ⟨hi, bindingsStay_refl _⟩ ?_
  rintro a l b ⟨hia, hstay⟩ ⟨hl, hs⟩
  obtain ⟨hib, hkept⟩ := hia.step hl hs
  exact ⟨hib, hstay.trans hkept⟩

/-- The row of a bound event, in every later table. -/
theorem BindingsStay.byId {rows rows' : List EnvironmentEvent} (h : BindingsStay rows rows')
    (hids : (rows'.map (·.eventId)).Nodup) {e : EnvironmentEvent} (he : e ∈ rows) {r : String}
    (hr : e.payload.feishuRecordId = some r) :
    ∃ e', eventById rows' e.eventId = some e' ∧ e'.payload.feishuRecordId = some r := by
  obtain ⟨x, hx, hid, -, hrx⟩ := h e he r hr
  cases hfind : eventById rows' e.eventId with
  | none =>
    have := List.find?_eq_none.mp hfind x hx
    simp [hid] at this
  | some y =>
    obtain ⟨hy, hyid⟩ := eventById_some hfind
    rw [List.inj_on_of_nodup_map hids hy hx (hyid.trans hid.symm)]
    exact ⟨x, rfl, hrx⟩

/-- The event that has not handed its record over is the latest opened. -/
theorem RecordsHeld.latest {rows : List EnvironmentEvent} (h : RecordsHeld rows)
    {a b : EnvironmentEvent} (ha : a ∈ rows)
    (hb : b ∈ rows) {r : String} (hra : a.payload.feishuRecordId = some r)
    (hrb : b.payload.feishuRecordId = some r)
    (hkept : a.payload.feishuSupersededBy = none) (hne : b ≠ a) :
    b.openedAt.instant < a.openedAt.instant ∧ b.payload.feishuSupersededBy ≠ none := by
  have hid : b.eventId ≠ a.eventId := fun hid => hne (List.inj_on_of_nodup_map h.ids hb ha hid)
  rcases lt_trichotomy b.openedAt.instant a.openedAt.instant with hlt | heq | hgt
  · exact ⟨hlt, h.handedOver b hb a ha r hrb hra hlt⟩
  · exact absurd heq (h.ordered b hb a ha r hrb hra hid)
  · exact absurd hkept (h.handedOver a ha b hb r hra hrb hgt)

/-- **Records are bound once.** Over every sequence of calls that create events
without a record, wherever one of them fails: a bound event stays bound to its record, a record
stays with one device, the event that has not handed its record over is the latest opened of
those bound to it, the others are closed with nothing pending, a device has one
cycle that is not closed, and a call that raises leaves every row. -/
theorem records_bound_once {ls ks : List RecordCall} {c c' : Conn RowUpdate}
    (h : Run RecordStep {} ls c)
    (hls : ∀ l ∈ ls, l.op.Plain) (h' : Run RecordStep c ks c') (hks : ∀ l ∈ ks, l.op.Plain) :
    (∀ e ∈ tableOf c, ∀ r, e.payload.feishuRecordId = some r →
      ∃ e', eventById (tableOf c') e.eventId = some e' ∧ e'.payload.feishuRecordId = some r) ∧
    (∀ a ∈ tableOf c', ∀ b ∈ tableOf c', ∀ r, a.payload.feishuRecordId = some r →
      b.payload.feishuRecordId = some r → a.deviceId = b.deviceId) ∧
    (∀ a ∈ tableOf c', ∀ b ∈ tableOf c', ∀ r, a.payload.feishuRecordId = some r →
      b.payload.feishuRecordId = some r → a.payload.feishuSupersededBy = none → b ≠ a →
      b.openedAt.instant < a.openedAt.instant ∧ b.payload.feishuSupersededBy ≠ none) ∧
    (∀ a ∈ tableOf c', a.payload.feishuSupersededBy ≠ none → a.status = .closed ∧
      a.payload.feishuRecoveryPending = some false ∧ a.payload.feishuUpdatePending = some false) ∧
    (∀ a ∈ tableOf c', ∀ b ∈ tableOf c', a.deviceId = b.deviceId → a.status ≠ .closed →
      b.status ≠ .closed → a = b) ∧
    ∀ l c'', RecordStep c' l c'' → l.outcome ≠ .ok → tableOf c'' = tableOf c' := by
  obtain ⟨hi, -⟩ := recordInv_init.run hls h
  obtain ⟨hi', hstay⟩ := hi.run hks h'
  refine ⟨fun e he r hr =>
    hstay.byId hi'.held.ids he hr, hi'.held.oneDevice, ?_, hi'.held.ended, hi'.held.oneActive, ?_⟩
  · exact fun a ha b hb r hra hrb hkept hne => hi'.held.latest ha hb hra hrb hkept hne
  · exact fun l c'' hs hraised => hs.raised hi'.idle hraised

/-- Calls one after another, none of which fails of itself. -/
def playCalls (c : Conn RowUpdate) : List RecordOp → List RecordCall × Conn RowUpdate
  | [] => ([], c)
  | op :: ops =>
    let done := exec (op.call (tableOf c)).body c
    let later := playCalls done.2 ops
    (⟨op, (op.call (tableOf c)).fault, (op.call (tableOf c)).commit, done.1⟩ :: later.1, later.2)

theorem playCalls_run (ops : List RecordOp) (c : Conn RowUpdate) :
    Run RecordStep c (playCalls c ops).1 (playCalls c ops).2 := by
  induction ops generalizing c with
  | nil => exact .nil
  | cons op ops ih => exact .cons rfl (ih _)

theorem playCalls_ops (ops : List RecordOp) (c : Conn RowUpdate) :
    (playCalls c ops).1.map (·.op) = ops := by
  induction ops generalizing c with
  | nil => rfl
  | cons op ops ih => exact congrArg (op :: ·) (ih _)

theorem playCalls_plain {ops : List RecordOp} (h : ∀ op ∈ ops, op.Plain) (c : Conn RowUpdate) :
    ∀ l ∈ (playCalls c ops).1, l.op.Plain := by
  intro l hl
  refine h l.op ?_
  rw [← playCalls_ops ops c]
  exact List.mem_map_of_mem hl

/-- A record handed over to the next cycle of the device, and bound late to the
first one. -/
def handoverOps : List RecordOp :=
  [.create "e1" "d" "k1" (.utc 0) {}, .bind "e1" "r", .close "e1" (.utc 5),
      .create "e2" "d" "k2" (.utc 9) {},
    .bind "e2" "r", .bind "e1" "r"]

theorem handover_bound_once :
    (tableOf (playCalls {} handoverOps).2).map (fun e =>
      (e.eventId, e.payload.feishuSupersededBy)) =
      [("e1", some "e2"), ("e2", none)] ∧
    ((playCalls {} handoverOps).1.map (·.outcome)).getLast? = some (.raised .exception) ∧
    ∀ e ∈ tableOf (playCalls {} (handoverOps.take 2)).2, ∀ r, e.payload.feishuRecordId = some r →
      ∃ e', eventById
        (tableOf (playCalls (playCalls {} (handoverOps.take 2)).2 (handoverOps.drop 2)).2)
          e.eventId =
        some e' ∧ e'.payload.feishuRecordId = some r :=
  ⟨by decide +kernel, by decide +kernel, (records_bound_once (playCalls_run _ {})
    (playCalls_plain (by simp [handoverOps, RecordOp.Plain]) {}) (playCalls_run _ _)
    (playCalls_plain (by simp [handoverOps, RecordOp.Plain]) _)).1⟩

/-- Two cycles that start with the record of one alarm. -/
def presetOps : List RecordOp :=
  [.create "e1" "d1" "k1" (.utc 0) { feishuRecordId := some "r" },
    .create "e2" "d2" "k2" (.utc 5) { feishuRecordId := some "r" }]

/-- **A record of two devices**: an event may start bound. -/
theorem preset_bound_twice :
    Run RecordStep {} (playCalls {} presetOps).1 (playCalls {} presetOps).2 ∧
    ∃ a ∈ tableOf (playCalls {} presetOps).2, ∃ b ∈ tableOf (playCalls {} presetOps).2,
      a.payload.feishuRecordId = some "r" ∧ b.payload.feishuRecordId = some "r" ∧
        a.deviceId ≠ b.deviceId ∧
      a.payload.feishuSupersededBy = none ∧ b.payload.feishuSupersededBy = none :=
  ⟨playCalls_run presetOps {}, by decide +kernel⟩

end TemperatureMonitor
