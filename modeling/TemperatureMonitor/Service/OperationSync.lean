/-
# Observations of an operation, in any order

`OperationObservationService.apply` and the store behind it: the current
observation of a device and its operation state. An observation replaces the
current one if it is newer; one of the same source record that is not newer
only fills in missing fields. So the order of a set of observations does not
matter (`operation_order_independent`).
-/
import TemperatureMonitor.Domain.Operation
import TemperatureMonitor.Library.Newest
import TemperatureMonitor.Library.Table

namespace TemperatureMonitor

/-! ### The store -/

/-- A row of `operation_states`. -/
structure OperationStateRow where
  deviceId : String
  areaId : String
  state : OperationStatus
  operationType : Option String
  workOrder : Option String
  startedAt : Option DateTime
  endedAt : Option DateTime
  initiatorId : Option String
  initiatorIdType : Option String
  initiatorName : Option String
  registrationNumber : Option String
  note : Option String
  overdueNotificationStatus : Option String := none
  overdueNotificationAt : Option DateTime := none
  overdueNotificationSequence : Option ℤ := none
  overdueNotificationMessageId : Option String := none
  overdueNotificationError : Option String := none
  updatedAt : DateTime
deriving DecidableEq

/-- A row of `operation_observation_audit`. -/
structure OperationAuditRow where
  observation : OperationObservation
  accepted : Bool
  reason : String
deriving DecidableEq

structure OperationStore where
  current : List OperationObservation := []
  states : List OperationStateRow := []
  audit : List OperationAuditRow := []
deriving DecidableEq

/-- `get_current`. -/
def OperationStore.getCurrent (store : OperationStore) (deviceId : String) :
    Option OperationObservation :=
  rowOf OperationObservation.deviceId store.current deviceId

/-- The state an accepted observation leads to, over the row there was. -/
def nextStateRow (o : OperationObservation) (previous : Option OperationStateRow) :
    OperationStateRow :=
  match o.action with
  | .startOperation | .switchOperation =>
    { deviceId := o.deviceId, areaId := o.areaId, state := .operating, operationType := o.operationType
      workOrder := o.workOrder, startedAt := some o.sourceCreatedAt, endedAt := none, initiatorId :=
        o.initiatorId
      initiatorIdType := o.initiatorIdType, initiatorName := o.initiatorName
      registrationNumber := o.registrationNumber, note := o.note, updatedAt := o.observedAt }
  | .endOperation =>
    { deviceId := o.deviceId, areaId := o.areaId, state := .idle, operationType := none, workOrder := none
      startedAt := previous.bind (·.startedAt) <|> some o.sourceCreatedAt, endedAt :=
        some o.sourceCreatedAt
      initiatorId := previous.bind (·.initiatorId), initiatorIdType :=
        previous.bind (·.initiatorIdType)
      initiatorName := previous.bind (·.initiatorName), registrationNumber := none, note := none
      overdueNotificationStatus := previous.bind (·.overdueNotificationStatus)
      overdueNotificationAt := previous.bind (·.overdueNotificationAt)
      overdueNotificationSequence := previous.bind (·.overdueNotificationSequence)
      overdueNotificationMessageId := previous.bind (·.overdueNotificationMessageId)
      overdueNotificationError := previous.bind (·.overdueNotificationError)
      updatedAt := o.observedAt }

/-- `save_current`. -/
def OperationStore.saveCurrent (store : OperationStore) (o : OperationObservation) :
    OperationStore :=
  { current := alterRow OperationObservation.deviceId o.deviceId (fun _ => o) store.current
    states := alterRow OperationStateRow.deviceId o.deviceId (nextStateRow o) store.states
    audit := store.audit ++ [⟨o, true, "accepted_newer_source_record"⟩] }

/-- One of the fields a record may be enriched by is there. -/
def OperationObservation.hasMetadata (o : OperationObservation) : Bool :=
  truthy o.initiatorId || truthy o.registrationNumber || truthy o.note

/-- The first statement of `refresh_initiator`, for one row. -/
def enrichObservation (o r : OperationObservation) : OperationObservation :=
  if r.deviceId = o.deviceId ∧ r.sourceRecordId = o.sourceRecordId then
    { r with initiatorId := r.initiatorId <|> o.initiatorId, initiatorIdType := r.initiatorIdType <|> o.initiatorIdType
             initiatorName := r.initiatorName <|> o.initiatorName
             registrationNumber := r.registrationNumber <|> o.registrationNumber, note :=
               r.note <|> o.note }
  else r

/-- The row of a device that is operating and whose current observation is of the record. -/
def ofRecord (current : List OperationObservation) (o : OperationObservation)
    (s : OperationStateRow) : Bool :=
  s.deviceId = o.deviceId && s.state = .operating &&
    current.any fun c => c.deviceId = s.deviceId && c.sourceRecordId = o.sourceRecordId

/-- The second statement: a reminder that was skipped for want of an initiator is open again. -/
def enrichState (current : List OperationObservation) (o : OperationObservation)
    (s : OperationStateRow) : OperationStateRow :=
  if ofRecord current o s then
    { s with initiatorId := s.initiatorId <|> o.initiatorId, initiatorIdType := s.initiatorIdType <|> o.initiatorIdType
             initiatorName := s.initiatorName <|> o.initiatorName
             registrationNumber := s.registrationNumber <|> o.registrationNumber, note :=
               s.note <|> o.note
             overdueNotificationStatus :=
               if s.overdueNotificationStatus = some "SKIPPED_NO_INITIATOR" then none
                 else s.overdueNotificationStatus
             overdueNotificationError :=
               if s.overdueNotificationStatus = some "SKIPPED_NO_INITIATOR" then none
                 else s.overdueNotificationError }
  else s

/-- `refresh_initiator`. -/
def OperationStore.refreshInitiator (store : OperationStore) (o : OperationObservation) :
    OperationStore :=
  if o.hasMetadata then
    let current := store.current.map (enrichObservation o)
    { store with current, states := store.states.map (enrichState current o) }
  else store

/-- `record_stale`. -/
def OperationStore.recordStale (store : OperationStore) (o : OperationObservation) :
    OperationStore :=
  { store with audit := store.audit ++ [⟨o, false, "stale_or_duplicate_source_record"⟩] }

/-- `get`. -/
def OperationStore.get (store : OperationStore) (deviceId area : String) :
    Except PyError OperationState :=
  match rowOf OperationStateRow.deviceId store.states deviceId with
  | none => OperationState.ofFields area .notApplicable none none none none
  | some row =>
    OperationState.ofFields row.areaId row.state row.operationType row.workOrder
      row.startedAt row.endedAt

/-! ### The service -/

structure OperationApplyResult where
  observation : OperationObservation
  accepted : Bool
  reason : String
deriving DecidableEq

/-- `OperationObservationService.apply`. -/
def OperationStore.apply (store : OperationStore) (o : OperationObservation) :
    OperationStore × OperationApplyResult :=
  let current := store.getCurrent o.deviceId
  if isNewerOperation o current then
    (store.saveCurrent o, ⟨o, true, "accepted_newer_source_record"⟩)
  else
    let refreshed :=
      if current.any (fun c => o.sourceRecordId = c.sourceRecordId) && o.hasMetadata then
        store.refreshInitiator o
      else store
    (refreshed.recordStale o, ⟨o, false, "stale_or_duplicate_source_record"⟩)

/-- One observation after another. -/
def OperationStore.applyAll (store : OperationStore) (l : List OperationObservation) :
    OperationStore :=
  l.foldl (fun s o => (s.apply o).1) store

/-! ### What an observation stands for -/

/-- The fields of an observation that no other one can fill in. -/
def OperationObservation.core (o : OperationObservation) : OperationObservation :=
  { o with initiatorId := none, initiatorIdType := none, initiatorName := none, registrationNumber := none
           note := none }

def OperationStateRow.core (s : OperationStateRow) : OperationStateRow :=
  { s with initiatorId := none, initiatorIdType := none, initiatorName := none, registrationNumber := none
           note := none }

/-- A value stays, unless it is missing. -/
def Stays (old new : Option String) : Prop := old = none ∨ new = old

theorem Stays.refl (v : Option String) : Stays v v := .inr rfl

theorem Stays.trans {a b c : Option String} (h : Stays a b) (h' : Stays b c) : Stays a c := by
  rcases h with h | rfl
  · exact .inl h
  · exact h'

theorem stays_orElse (a b : Option String) : Stays a (a <|> b) := by
  cases a with
  | none => exact .inl rfl
  | some v => exact .inr rfl

/-- Missing initiator, registration and note fields may be filled in, nothing else changes. -/
structure OnlyFills (r r' : OperationObservation) : Prop where
  core : r'.core = r.core
  initiatorId : Stays r.initiatorId r'.initiatorId
  initiatorIdType : Stays r.initiatorIdType r'.initiatorIdType
  initiatorName : Stays r.initiatorName r'.initiatorName
  registrationNumber : Stays r.registrationNumber r'.registrationNumber
  note : Stays r.note r'.note

structure StateOnlyFills (s s' : OperationStateRow) : Prop where
  core : s'.core = s.core
  initiatorId : Stays s.initiatorId s'.initiatorId
  initiatorIdType : Stays s.initiatorIdType s'.initiatorIdType
  initiatorName : Stays s.initiatorName s'.initiatorName
  registrationNumber : Stays s.registrationNumber s'.registrationNumber
  note : Stays s.note s'.note

theorem OnlyFills.refl (r : OperationObservation) : OnlyFills r r :=
  ⟨rfl, .refl _, .refl _, .refl _, .refl _, .refl _⟩

theorem OnlyFills.trans {a b c : OperationObservation} (h : OnlyFills a b) (h' : OnlyFills b c) :
    OnlyFills a c :=
  ⟨h'.core.trans h.core, h.initiatorId.trans h'.initiatorId,
      h.initiatorIdType.trans h'.initiatorIdType,
    h.initiatorName.trans h'.initiatorName, h.registrationNumber.trans h'.registrationNumber,
      h.note.trans h'.note⟩

/-- The state, the operation, the work order and the end an observation stands for. -/
def OperationObservation.outcome (o : OperationObservation) :
    OperationStatus × Option String × Option String × Option DateTime :=
  match o.action with
  | .startOperation | .switchOperation => (.operating, o.operationType, o.workOrder, none)
  | .endOperation => (.idle, none, none, some o.sourceCreatedAt)

def OperationStateRow.outcome (s : OperationStateRow) :
    OperationStatus × Option String × Option String × Option DateTime :=
  (s.state, s.operationType, s.workOrder, s.endedAt)

/-- The row is the state of an operation the observation is the newest of. -/
structure OperationStateRow.Shows (s : OperationStateRow) (o : OperationObservation) : Prop where
  areaId : s.areaId = o.areaId
  outcome : s.outcome = o.outcome
  startedAt : ∃ t, s.startedAt = some t ∧ t.instant ≤ o.sourceCreatedAt.instant

section Steps

variable {store : OperationStore} {o r m c : OperationObservation} {s : OperationStateRow}

theorem nextStateRow_shows {previous : Option OperationStateRow}
    (h : ∀ p t, previous = some p → p.startedAt = some t → t.instant ≤ o.sourceCreatedAt.instant) :
    (nextStateRow o previous).Shows o := by
  cases ha : o.action with
  | startOperation | switchOperation =>
    have hrow : (nextStateRow o previous).startedAt = some o.sourceCreatedAt := by
      simp [nextStateRow, ha]
    refine ⟨by simp [nextStateRow, ha], ?_, _, hrow, le_rfl⟩
    simp [nextStateRow, OperationStateRow.outcome, OperationObservation.outcome, ha]
  | endOperation =>
    refine ⟨by simp [nextStateRow, ha], ?_, ?_⟩
    · simp [nextStateRow, OperationStateRow.outcome, OperationObservation.outcome, ha]
    · have hrow : (nextStateRow o previous).startedAt =
          (previous.bind (·.startedAt) <|> some o.sourceCreatedAt) := by simp [nextStateRow, ha]
      rw [hrow]
      cases hp : previous.bind (·.startedAt) with
      | none => exact ⟨_, rfl, le_rfl⟩
      | some t =>
        obtain ⟨p, hprev, hstart⟩ := Option.bind_eq_some_iff.mp hp
        exact ⟨t, rfl, h p t hprev hstart⟩

/-- An observation ends an operation at its own time, or not at all. -/
theorem outcome_endedAt {e : DateTime} (h : m.outcome.2.2.2 = some e) : e = m.sourceCreatedAt := by
  unfold OperationObservation.outcome at h
  cases ha : m.action with
  | startOperation | switchOperation =>
    rw [ha] at h
    cases h
  | endOperation =>
    rw [ha] at h
    exact (Option.some.inj h).symm

/-- A row that shows an observation passes the checks of an operation state. -/
theorem OperationStateRow.Shows.readable (h : s.Shows m) (harea : blank m.areaId = false) :
    ∃ state, OperationState.ofFields s.areaId s.state s.operationType s.workOrder s.startedAt
      s.endedAt = .ok state ∧
      (state.state, state.operationType, state.workOrder, state.endedAt) = m.outcome := by
  obtain ⟨t, ht, hle⟩ := h.startedAt
  have hended : ∀ e, s.endedAt = some e → e = m.sourceCreatedAt := by
    intro e he
    refine outcome_endedAt ?_
    rw [← h.outcome]
    exact he
  let state : OperationState :=
    { areaId := s.areaId, state := s.state, operationType := s.operationType, workOrder := s.workOrder
      startedAt := s.startedAt, endedAt := s.endedAt, area := by rw [h.areaId]; exact harea
      started := fun _ => by rw [ht]; rfl
      ordered := fun a e ha he => by
        obtain rfl := Option.some.inj (ht.symm.trans ha)
        rw [hended e he]
        exact hle }
  exact ⟨state, state.ofFields_ok, h.outcome⟩

theorem enrichObservation_fills (o r : OperationObservation) :
    OnlyFills r (enrichObservation o r) := by
  unfold enrichObservation
  split_ifs
  · exact ⟨rfl, stays_orElse _ _, stays_orElse _ _, stays_orElse _ _, stays_orElse _ _,
      stays_orElse _ _⟩
  · exact .refl r

theorem enrichObservation_deviceId (o r : OperationObservation) :
    (enrichObservation o r).deviceId = r.deviceId := by
  unfold enrichObservation
  split_ifs <;> rfl

theorem enrichState_deviceId (current : List OperationObservation) (o : OperationObservation)
    (s : OperationStateRow) : (enrichState current o s).deviceId = s.deviceId := by
  by_cases hc : ofRecord current o s = true
  · rw [enrichState, if_pos hc]
  · rw [enrichState, if_neg hc]

theorem enrichState_shows {current : List OperationObservation} (h : s.Shows m) :
    (enrichState current o s).Shows m := by
  by_cases hc : ofRecord current o s = true
  · rw [enrichState, if_pos hc]
    exact ⟨h.areaId, h.outcome, h.startedAt⟩
  · rw [enrichState, if_neg hc]
    exact h

/-- With no reminder recorded, a state is filled in and nothing else. -/
theorem enrichState_fills {current : List OperationObservation}
    (h : s.overdueNotificationStatus = none) :
    enrichState current o s = s ∨ ofRecord current o s = true ∧
      StateOnlyFills s (enrichState current o s) := by
  by_cases hc : ofRecord current o s = true
  · right
    refine ⟨hc, ?_⟩
    rw [enrichState, if_pos hc]
    refine ⟨?_, stays_orElse _ _, stays_orElse _ _, stays_orElse _ _, stays_orElse _ _,
      stays_orElse _ _⟩
    simp [OperationStateRow.core, h]
  · exact .inl (if_neg hc)

/-! ### Runs -/

/-- The store holds the newest observation of a device, up to what was filled in, and its state. -/
def HoldsNewest (deviceId : String) (store : OperationStore)
    (newest : Option OperationObservation) : Prop :=
  match newest with
  | none =>
    store.getCurrent deviceId = none ∧ rowOf OperationStateRow.deviceId store.states deviceId = none
  | some m => ∃ c s, store.getCurrent deviceId = some c ∧ OnlyFills m c ∧
      rowOf OperationStateRow.deviceId store.states deviceId = some s ∧ s.Shows m

theorem OnlyFills.created (h : OnlyFills r c) : c.sourceCreatedAt = r.sourceCreatedAt := by
  show c.core.sourceCreatedAt = r.core.sourceCreatedAt
  rw [h.core]

theorem saveCurrent_holds
    (hprev : ∀ p t, rowOf OperationStateRow.deviceId store.states o.deviceId = some p →
    p.startedAt = some t → t.instant ≤ o.sourceCreatedAt.instant) :
    HoldsNewest o.deviceId (store.saveCurrent o) (some o) :=
  ⟨o, _, rowOf_alterRow_self fun _ => rfl, .refl o, rowOf_alterRow_self fun p => by
    unfold nextStateRow
    cases o.action <;> rfl, nextStateRow_shows hprev⟩

theorem refreshInitiator_holds {deviceId : String} (h : HoldsNewest deviceId store (some m))
    (o : OperationObservation) : HoldsNewest deviceId (store.refreshInitiator o) (some m) := by
  obtain ⟨c, s, hc, hfills, hs, hshows⟩ := h
  unfold OperationStore.refreshInitiator
  by_cases hmeta : o.hasMetadata = true
  · rw [if_pos hmeta]
    refine ⟨enrichObservation o c, enrichState (store.current.map (enrichObservation o)) o s, ?_,
      hfills.trans (enrichObservation_fills o c), ?_, enrichState_shows hshows⟩
    · unfold OperationStore.getCurrent at hc ⊢
      rw [rowOf_map (enrichObservation_deviceId o), hc, Option.map_some]
    · rw [rowOf_map (enrichState_deviceId _ o), hs, Option.map_some]
  · rw [if_neg hmeta]
    exact ⟨c, s, hc, hfills, hs, hshows⟩

/-- The store moves with the register of the newest observation. -/
theorem apply_holds {newest : Option OperationObservation}
    (h : HoldsNewest o.deviceId store newest) :
    HoldsNewest o.deviceId (store.apply o).1 (keepNewest (·.sourceCreatedAt.instant) newest o) := by
  cases newest with
  | none =>
    obtain ⟨hc, hs⟩ := h
    have hnew : isNewerOperation o (store.getCurrent o.deviceId) = true := by rw [hc]; rfl
    unfold OperationStore.apply
    dsimp only
    rw [if_pos hnew]
    exact saveCurrent_holds fun p t hp => by rw [hs] at hp; cases hp
  | some m =>
    have hold := h
    obtain ⟨c, s, hc, hfills, hs, hshows⟩ := h
    have hnew : isNewerOperation o (store.getCurrent o.deviceId) =
        decide (m.sourceCreatedAt.instant < o.sourceCreatedAt.instant) := by
      rw [hc, ← hfills.created]
      rfl
    unfold OperationStore.apply keepNewest
    dsimp only
    by_cases hlt : m.sourceCreatedAt.instant < o.sourceCreatedAt.instant
    · rw [if_pos (hnew.trans (decide_eq_true hlt)), if_pos hlt]
      refine saveCurrent_holds fun p t hp ht => ?_
      obtain rfl := Option.some.inj (hs.symm.trans hp)
      obtain ⟨t', ht', hle⟩ := hshows.startedAt
      obtain rfl := Option.some.inj (ht'.symm.trans ht)
      omega
    · rw [if_neg (by rw [hnew]; simpa using hlt), if_neg hlt]
      split_ifs
      · exact refreshInitiator_holds hold o
      · exact hold

/-- After a list of observations of a device the store holds the newest of them. -/
theorem applyAll_holds {deviceId : String} {l : List OperationObservation}
    (hstart : HoldsNewest deviceId store none) (hdev : ∀ o ∈ l, o.deviceId = deviceId) :
    ∃ newest, IsNewest (·.sourceCreatedAt.instant) l newest ∧
      HoldsNewest deviceId (store.applyAll l) newest := by
  induction l using List.reverseRecOn with
  | nil => exact ⟨none, isNewest_nil, hstart⟩
  | append_singleton l o ih =>
    obtain ⟨newest, hn, hh⟩ := ih fun x hx => hdev x (List.mem_append_left _ hx)
    refine ⟨_, hn.keep o, ?_⟩
    obtain rfl := hdev o (by simp)
    unfold OperationStore.applyAll at hh ⊢
    rw [List.foldl_append]
    exact apply_holds hh

/-- No state of the device has a reminder recorded. -/
def NoReminder (deviceId : String) (store : OperationStore) : Prop :=
  ∀ s ∈ store.states, s.deviceId = deviceId → s.overdueNotificationStatus = none

theorem nextStateRow_noReminder {previous : Option OperationStateRow}
    (h : ∀ p, previous = some p → p.overdueNotificationStatus = none) :
    (nextStateRow o previous).overdueNotificationStatus = none := by
  cases ha : o.action with
  | startOperation | switchOperation => simp [nextStateRow, ha]
  | endOperation =>
    have hrow : (nextStateRow o previous).overdueNotificationStatus =
        previous.bind (·.overdueNotificationStatus) := by simp [nextStateRow, ha]
    rw [hrow]
    cases previous with
    | none => rfl
    | some p => exact h p rfl

theorem nextStateRow_deviceId (o : OperationObservation) (previous : Option OperationStateRow) :
    (nextStateRow o previous).deviceId = o.deviceId := by
  unfold nextStateRow
  cases o.action <;> rfl

theorem enrichState_noReminder {current : List OperationObservation}
    (h : s.overdueNotificationStatus = none) :
    (enrichState current o s).overdueNotificationStatus = none := by
  have hcases : enrichState current o s = s ∨ ofRecord current o s = true ∧
      StateOnlyFills s (enrichState current o s) :=
    enrichState_fills h
  rcases hcases with he | ⟨-, hfills⟩
  · rw [he, h]
  · show (enrichState current o s).core.overdueNotificationStatus = none
    rw [hfills.core]
    exact h

theorem apply_noReminder {deviceId : String} (h : NoReminder deviceId store)
    (o : OperationObservation) : NoReminder deviceId (store.apply o).1 := by
  have hrefresh : NoReminder deviceId (store.refreshInitiator o) := by
    unfold OperationStore.refreshInitiator
    split_ifs
    · intro s hs hid
      obtain ⟨r, hr, rfl⟩ := List.mem_map.mp hs
      rw [enrichState_deviceId] at hid
      exact enrichState_noReminder (h r hr hid)
    · exact h
  unfold OperationStore.apply
  dsimp only
  split
  · intro s hs hid
    rcases mem_alterRow hs with hs | ⟨previous, hprev, rfl⟩
    · exact h s hs hid
    · rw [nextStateRow_deviceId] at hid
      refine nextStateRow_noReminder fun p hp => ?_
      exact h p (hprev p hp).1 ((hprev p hp).2.trans hid)
  · split_ifs
    · exact hrefresh
    · exact h

theorem applyAll_noReminder {deviceId : String} {l : List OperationObservation}
    (h : NoReminder deviceId store) : NoReminder deviceId (store.applyAll l) := by
  unfold OperationStore.applyAll
  induction l generalizing store with
  | nil => exact h
  | cons o l ih => exact ih (apply_noReminder h o)

/-- What an observation that is not newer does to the two tables. -/
structure FillsOnly (o : OperationObservation) (store store' : OperationStore) : Prop where
  current : List.Forall₂ (fun r r' => r' = r ∨
    r.deviceId = o.deviceId ∧ r.sourceRecordId = o.sourceRecordId ∧ OnlyFills r r')
      store.current store'.current
  states : List.Forall₂ (fun s s' => s' = s ∨ s.deviceId = o.deviceId ∧ StateOnlyFills s s' ∧
    ∃ c ∈ store.current, c.deviceId = o.deviceId ∧ c.sourceRecordId = o.sourceRecordId)
      store.states store'.states

theorem stale_fillsOnly (h : NoReminder o.deviceId store)
    (hstale : isNewerOperation o (store.getCurrent o.deviceId) = false) :
    FillsOnly o store (store.apply o).1 := by
  have hsame : FillsOnly o store (store.recordStale o) :=
    ⟨List.forall₂_same.mpr fun _ _ => .inl rfl, List.forall₂_same.mpr fun _ _ => .inl rfl⟩
  unfold OperationStore.apply
  dsimp only
  rw [if_neg (by rw [hstale]; decide)]
  split_ifs with hsame'
  · have hmeta : o.hasMetadata = true := by
      rw [Bool.and_eq_true] at hsame'
      exact hsame'.2
    simp only [OperationStore.recordStale, OperationStore.refreshInitiator, if_pos hmeta]
    refine ⟨?_, ?_⟩
    · rw [List.forall₂_map_right_iff]
      refine List.forall₂_same.mpr fun r _ => ?_
      by_cases hr : r.deviceId = o.deviceId ∧ r.sourceRecordId = o.sourceRecordId
      · exact .inr ⟨hr.1, hr.2, enrichObservation_fills o r⟩
      · exact .inl (if_neg hr)
    · rw [List.forall₂_map_right_iff]
      refine List.forall₂_same.mpr fun s hs => ?_
      by_cases hid : s.deviceId = o.deviceId
      · have hcases : enrichState (store.current.map (enrichObservation o)) o s = s ∨
            ofRecord (store.current.map (enrichObservation o)) o s = true ∧
              StateOnlyFills s (enrichState (store.current.map (enrichObservation o)) o s) :=
                enrichState_fills (h s hs hid)
        rcases hcases with he | ⟨hrec, hfills⟩
        · exact .inl he
        · refine .inr ⟨hid, hfills, ?_⟩
          simp only [ofRecord, Bool.and_eq_true, decide_eq_true_eq, List.any_map, List.any_eq_true,
            Function.comp_apply] at hrec
          obtain ⟨-, c, hc, hcd, hcr⟩ := hrec
          have hfilled := (enrichObservation_fills o c).core
          refine ⟨c, hc, (enrichObservation_deviceId o c).symm.trans (hcd.trans hid), ?_⟩
          exact (congrArg OperationObservation.sourceRecordId hfilled).symm.trans hcr
      · exact .inl (if_neg (by simp [ofRecord, hid]))
  · exact hsame

end Steps

/-! ### Order independence -/

/-- **The order of observations does not matter**, nor do repetitions: the newest one decides, one
that is not newer fills in missing fields at most, and the state is always one that can be read. -/
theorem operation_order_independent {deviceId : String} {store : OperationStore}
    {l : List OperationObservation}
    (hcurrent : store.getCurrent deviceId = none)
    (hstates : ∀ s ∈ store.states, s.deviceId ≠ deviceId)
    (hdev : ∀ o ∈ l, o.deviceId = deviceId) (harea : ∀ o ∈ l, blank o.areaId = false)
    (hdistinct : ∀ a ∈ l, ∀ b ∈ l, a.sourceCreatedAt.instant = b.sourceCreatedAt.instant → a = b)
    {m : OperationObservation} (hm : m ∈ l)
    (hmax : ∀ o ∈ l, o.sourceCreatedAt.instant ≤ m.sourceCreatedAt.instant) :
    (∃ c, (store.applyAll l).getCurrent deviceId = some c ∧ OnlyFills m c) ∧
      (∃ s, rowOf OperationStateRow.deviceId (store.applyAll l).states deviceId = some s ∧
        s.outcome = m.outcome) ∧
      (∀ area, ∃ state, (store.applyAll l).get deviceId area = .ok state ∧
        (state.state, state.operationType, state.workOrder, state.endedAt) = m.outcome) ∧
      ∀ o, o.deviceId = deviceId →
        isNewerOperation o ((store.applyAll l).getCurrent deviceId) = false →
        FillsOnly o (store.applyAll l) ((store.applyAll l).apply o).1 := by
  have hnone : rowOf OperationStateRow.deviceId store.states deviceId = none := by
    by_contra hno
    obtain ⟨s, hs⟩ := Option.ne_none_iff_exists'.mp hno
    exact hstates s (mem_of_rowOf hs).1 (mem_of_rowOf hs).2
  obtain ⟨newest, hnewest, hholds⟩ := applyAll_holds ⟨hcurrent, hnone⟩ hdev
  obtain rfl : newest = some m :=
    isNewest_unique hdistinct (fun _ => Iff.rfl) hnewest
      ⟨(fun x hx => Option.some.inj hx ▸ hm), fun x hx => ⟨m, rfl, hmax x hx⟩⟩
  obtain ⟨c, s, hc, hfills, hs, hshows⟩ := hholds
  refine ⟨⟨c, hc, hfills⟩, ⟨s, hs, hshows.outcome⟩, fun area => ?_, fun o ho hstale => ?_⟩
  · obtain ⟨state, hok, hout⟩ := hshows.readable (harea m hm)
    refine ⟨state, ?_, hout⟩
    unfold OperationStore.get
    rw [hs]
    exact hok
  · subst ho
    exact stale_fillsOnly (applyAll_noReminder fun s hs hid => absurd hid (hstates s hs)) hstale

/-- An operation begins, and ends an hour later. -/
def beginning : OperationObservation where
  deviceId := "d"
  areaId := "A"
  action := .startOperation
  operationType := some "cleaning"
  workOrder := some "W1"
  sourceRecordId := "r1"
  sourceCreatedAt := .utc 0
  observedAt := .utc 0

def ending : OperationObservation where
  deviceId := "d"
  areaId := "A"
  action := .endOperation
  operationType := none
  workOrder := none
  sourceRecordId := "r2"
  sourceCreatedAt := .utc 3600000000
  observedAt := .utc 3600000000

/-- The end comes first and twice. -/
theorem operation_order_independent_ending :
    (∃ c, (OperationStore.applyAll {} [ending, beginning, ending]).getCurrent "d" = some c ∧
      OnlyFills ending c) ∧
      (∃ s, rowOf OperationStateRow.deviceId
        (OperationStore.applyAll {} [ending, beginning, ending]).states "d" =
        some s ∧ s.outcome = ending.outcome) ∧
      (∀ area, ∃ state,
        (OperationStore.applyAll {} [ending, beginning, ending]).get "d" area = .ok state ∧
        (state.state, state.operationType, state.workOrder, state.endedAt) = ending.outcome) ∧
      ∀ o, o.deviceId = "d" →
        isNewerOperation o
          ((OperationStore.applyAll {} [ending, beginning, ending]).getCurrent "d") = false →
        FillsOnly o (OperationStore.applyAll {} [ending, beginning, ending])
          ((OperationStore.applyAll {} [ending, beginning, ending]).apply o).1 :=
  operation_order_independent rfl (by decide) (by decide) (by decide) (by decide)
    (by decide) (by decide)

end TemperatureMonitor
