/-
# The external side of an event row

The operations of the event repository that stand between a local event and
its remote record: the create lease, the reservation of a POST and its
outcome, the binding, and the markers of external effects. `EventWrite`
collects every write a handler may make, and `RowWrite` what they make of a
row: an invariant of the rows is a case analysis of it (`RowsWritten.keeps`).
-/
import Mathlib.Logic.Relation
import TemperatureMonitor.Library.Grouping
import TemperatureMonitor.Store.Events

namespace TemperatureMonitor

/-! ### Reserving a POST -/

/-- A POST is refused to a bound event, and to one whose last attempt is not
known to have left nothing behind. -/
def EventPayload.postRefused (p : EventPayload) : Bool :=
  truthy p.feishuRecordId ||
    (p.feishuCreateAttempted = some true && p.feishuCreateState ≠ some .retryable)

def EventPayload.reserved (p : EventPayload) : EventPayload :=
  { p with feishuCreateAttempted := some true
           feishuCreateState := some .inFlight
           feishuCreateAttemptCount := p.feishuCreateAttemptCount + 1 }

/-- `reserve_external_post`. -/
def reserveExternalPost (events : List EnvironmentEvent) (eventId : String) :
    Except PyError (List EnvironmentEvent × Bool) :=
  match eventById events eventId with
  | none => .error (unknownEvent eventId)
  | some e =>
    if e.payload.postRefused then .ok (events, false)
    else .ok (updateEvent events eventId (·.patch (·.reserved)), true)

def EventPayload.createOutcome (outcome : ExternalCreateOutcome) (error : Option String)
    (observedAt : Option DateTime) (p : EventPayload) : EventPayload :=
  { p with feishuCreateState := some outcome
           feishuCreateLastError := if truthy error then error else none
           feishuCreateOutcomeAt := observedAt <|> p.feishuCreateOutcomeAt }

/-- The create lease is given back. -/
def EnvironmentEvent.released (e : EnvironmentEvent) : EnvironmentEvent :=
  { e with createOwner := none, createLeaseUntil := none }

/-- `mark_external_create_outcome`. -/
def markExternalCreateOutcome (events : List EnvironmentEvent) (eventId : String)
    (outcome : ExternalCreateOutcome) (error : Option String) (observedAt : Option DateTime) :
    Except PyError (List EnvironmentEvent) :=
  onEvent events eventId fun e => (e.patch (·.createOutcome outcome error observedAt)).released

/-! ### The create lease -/

def EnvironmentEvent.leaseFree (claimedAt : DateTime) (e : EnvironmentEvent) : Bool :=
  e.createOwner.isNone || e.createLeaseUntil.all fun t => t.instant ≤ claimedAt.instant

/-- `claim_external_create`; a lease lasts a second at least. -/
def claimExternalCreate (events : List EnvironmentEvent) (eventId owner : String)
    (claimedAt : DateTime) (leaseSeconds : ℤ) : Except PyError (List EnvironmentEvent × Bool) :=
  if blank owner then .error (.valueError "owner cannot be empty")
  else match eventById events eventId with
  | none => .error (unknownEvent eventId)
  | some e =>
    if e.leaseFree claimedAt then
      .ok (updateEvent events eventId fun e =>
        { e with createOwner := some owner
                 createLeaseUntil := some ((DateTime.utc claimedAt.instant).add
                   (max 1 leaseSeconds * 1000000)) }, true)
    else .ok (events, false)

/-! ### Binding -/

/-- Another row that holds the record and keeps it: of another device, still
open, or not older. -/
def keepsRecord (event : EnvironmentEvent) (recordId : String) (other : EnvironmentEvent) : Bool :=
  other.eventId ≠ event.eventId && other.payload.feishuRecordId = some recordId &&
    (other.deviceId ≠ event.deviceId || other.status ≠ .closed ||
      event.openedAt.instant ≤ other.openedAt.instant)

def EventPayload.superseded (eventId : String) (p : EventPayload) : EventPayload :=
  { p with feishuSupersededBy := some eventId
           feishuRecoveryPending := some false
           feishuUpdatePending := some false }

def EnvironmentEvent.bound (recordId : String) (e : EnvironmentEvent) : EnvironmentEvent :=
  (e.patch fun p =>
    { p with
      feishuRecordId := some recordId
      feishuBindingStatus := some "BOUND"
      feishuCreateState := some .succeeded
      feishuCreateLastError := none
      feishuRecoveredAt := if e.closedAt.isSome then p.feishuRecoveredAt <|> e.closedAt
        else p.feishuRecoveredAt
      feishuRecoveryPending := if e.closedAt.isSome then p.feishuRecoveryPending <|> some true
        else p.feishuRecoveryPending }).released

/-- `bind_external_record`. -/
def bindExternalRecord (events : List EnvironmentEvent) (eventId recordId : String) :
    Except PyError (List EnvironmentEvent) :=
  if blank recordId then .error (.valueError "record_id cannot be empty")
  else match eventById events eventId with
  | none => .error (unknownEvent eventId)
  | some e =>
    match e.payload.feishuRecordId with
    | some existing =>
      if existing ≠ recordId then .error (.valueError
        ("environment event " ++ eventId ++ " is already bound to " ++ existing))
      else bindTo e
    | none => bindTo e
where
  bindTo (e : EnvironmentEvent) : Except PyError (List EnvironmentEvent) :=
    match events.find? (keepsRecord e recordId) with
    | some other => .error (.valueError ("Feishu record " ++ recordId ++
        " is already bound to environment event " ++ other.eventId))
    | none => .ok (events.map fun other =>
        if other.eventId = eventId then other.bound recordId
        else if other.payload.feishuRecordId = some recordId then other.patch (·.superseded eventId)
        else other)

/-! ### Effect markers -/

/-- Merge values into the marker of a key, unless it has succeeded. -/
def mergeMarker (effectKey : String) (merge : Option EffectMarker → EffectMarker) :
    List (String × EffectMarker) → List (String × EffectMarker)
  | [] => [(effectKey, merge none)]
  | (k, m) :: rest =>
    if k = effectKey then
      if m.status = "SUCCEEDED" then (k, m) :: rest else (k, merge (some m)) :: rest
    else (k, m) :: mergeMarker effectKey merge rest

/-- `_patch_external_effect`. -/
def patchExternalEffect (events : List EnvironmentEvent) (eventId effectKey : String)
    (merge : Option EffectMarker → EffectMarker) : Except PyError (List EnvironmentEvent) :=
  if blank effectKey then .error (.valueError "effect_key cannot be empty")
  else onEvent events eventId (·.patch fun p =>
    { p with feishuExternalEffects := mergeMarker effectKey merge p.feishuExternalEffects })

/-- `get_external_effect`. -/
def getExternalEffect (events : List EnvironmentEvent) (eventId effectKey : String) :
    Except PyError (Option EffectMarker) :=
  match eventById events eventId with
  | none => .error (unknownEvent eventId)
  | some e => .ok (e.payload.feishuExternalEffects.lookup effectKey)

def markExternalEffectPending (events : List EnvironmentEvent)
    (eventId effectKey actionType : String)
    (requestedAt : DateTime) : Except PyError (List EnvironmentEvent) :=
  patchExternalEffect events eventId effectKey fun m =>
    { m.getD { status := "" } with
      actionType := some actionType, status := "PENDING", requestedAt := some requestedAt }

def markExternalEffectSucceeded (events : List EnvironmentEvent) (eventId effectKey : String)
    (completedAt : DateTime) : Except PyError (List EnvironmentEvent) :=
  patchExternalEffect events eventId effectKey fun m =>
    { m.getD { status := "" } with
      status := "SUCCEEDED", completedAt := some completedAt, error := none }

def markExternalEffectFailed (events : List EnvironmentEvent)
    (eventId effectKey error status : String) : Except PyError (List EnvironmentEvent) :=
  patchExternalEffect events eventId effectKey fun m =>
    { m.getD { status := "" } with status := status, error := some error }

/-! ### The writes of the handlers -/

/-- The values handlers and scanners pass to `patch_external_projection`. -/
inductive ProjectionValues
  | createAttempted
  | updatePending (snapshot : UpdateSnapshot)
  | updateDone
  | recoveryDone
  /-- A historical event is held for manual review. -/
  | shadowOnly
deriving DecidableEq

def ProjectionValues.apply : ProjectionValues → EventPayload → EventPayload
  | createAttempted, p => { p with feishuCreateAttempted := some true }
  | updatePending snapshot, p =>
    { p with feishuUpdatePending := some true, feishuUpdateSnapshot := some snapshot }
  | updateDone, p => { p with feishuUpdatePending := some false }
  | recoveryDone, p => { p with feishuRecoveryPending := some false }
  | shadowOnly, p =>
    { p with feishuBindingStatus := some "LEGACY_PENDING", externalEffectPolicy := some "SHADOW_ONLY" }

/-- A write outside the local unit of a sample. -/
inductive EventWrite
  | patch (eventId : String) (values : ProjectionValues)
  | bindingPending (eventId : String) (requestedAt : DateTime)
  | recordMissing (eventId : String) (missingAt : DateTime)
  | reserve (eventId : String)
  | outcome (eventId : String) (outcome : ExternalCreateOutcome) (error : Option String)
      (observedAt : Option DateTime)
  | claim (eventId owner : String) (claimedAt : DateTime) (leaseSeconds : ℤ)
  | bind (eventId recordId : String)
  | effectPending (eventId effectKey actionType : String) (requestedAt : DateTime)
  | effectSucceeded (eventId effectKey : String) (completedAt : DateTime)
  | effectFailed (eventId effectKey error status : String)

def EventWrite.apply (events : List EnvironmentEvent) : EventWrite →
    Except PyError (List EnvironmentEvent)
  | patch id values => patchExternalProjection events id values.apply
  | bindingPending id at_ => markExternalBindingPending events id at_
  | recordMissing id at_ => markExternalRecordMissing events id at_
  | reserve id => (reserveExternalPost events id).map Prod.fst
  | outcome id o error at_ => markExternalCreateOutcome events id o error at_
  | claim id owner at_ seconds => (claimExternalCreate events id owner at_ seconds).map Prod.fst
  | bind id recordId => bindExternalRecord events id recordId
  | effectPending id key actionType at_ => markExternalEffectPending events id key actionType at_
  | effectSucceeded id key at_ => markExternalEffectSucceeded events id key at_
  | effectFailed id key error status => markExternalEffectFailed events id key error status

/-! ### The writes, row by row -/

/-- What one write makes of a row. -/
inductive RowWrite (e : EnvironmentEvent) : EnvironmentEvent → Prop
  | values (v : ProjectionValues) : RowWrite e (e.patch v.apply)
  /-- The measured and the peak values of an update. -/
  | measured (temperature humidity peakTemperature peakHumidity : Option ℚ) :
      RowWrite e (e.patch fun p => { p with temperature, humidity, peakTemperature, peakHumidity })
  | bindingPending (requestedAt : DateTime) : RowWrite e (e.patch (·.bindingPending requestedAt))
  | recordMissing (missingAt : DateTime) : RowWrite e (e.recordMissing missingAt)
  | reserved : RowWrite e (e.patch (·.reserved))
  | outcome (outcome : ExternalCreateOutcome) (error : Option String) (observedAt : Option DateTime) :
      RowWrite e (e.patch (·.createOutcome outcome error observedAt)).released
  | claimed (owner : String) (until_ : DateTime) :
      RowWrite e { e with createOwner := some owner, createLeaseUntil := some until_ }
  | bound (recordId : String) : RowWrite e (e.bound recordId)
  | superseded (eventId : String) : RowWrite e (e.patch (·.superseded eventId))
  | effect (effectKey : String) (merge : Option EffectMarker → EffectMarker) :
      RowWrite e (e.patch fun p =>
        { p with feishuExternalEffects := mergeMarker effectKey merge p.feishuExternalEffects })

/-- Each row is left or written, once or more often. -/
abbrev RowsWritten (events events' : List EnvironmentEvent) : Prop :=
  List.Forall₂ (Relation.ReflTransGen RowWrite) events events'

section RowsWritten

variable {events events' : List EnvironmentEvent} {eventId : String}

theorem rowsWritten_refl (events : List EnvironmentEvent) : RowsWritten events events :=
  List.forall₂_same.mpr fun _ _ => .refl

theorem RowsWritten.trans {a b c : List EnvironmentEvent} (h : RowsWritten a b)
    (h' : RowsWritten b c) : RowsWritten a c :=
  forall₂_trans (fun _ _ _ => .trans) h h'

/-- What the writes keep of a row, they keep of the table. -/
theorem RowsWritten.keeps {R : EnvironmentEvent → EnvironmentEvent → Prop} (hrefl : ∀ e, R e e)
    (htrans : ∀ a b c, R a b → R b c → R a c) (hR : ∀ e e', RowWrite e e' → R e e')
    (h : RowsWritten events events') : List.Forall₂ R events events' := by
  refine h.imp fun e e' hw => ?_
  induction hw with
  | refl => exact hrefl e
  | tail _ hlast ih => exact htrans _ _ _ ih (hR _ _ hlast)

theorem rowsWritten_map {f : EnvironmentEvent → EnvironmentEvent}
    (hf : ∀ e ∈ events, Relation.ReflTransGen RowWrite e (f e)) :
    RowsWritten events (events.map f) := by
  rw [RowsWritten, List.forall₂_map_right_iff]
  exact List.forall₂_same.mpr hf

theorem rowsWritten_update {f : EnvironmentEvent → EnvironmentEvent} (hf : ∀ e, RowWrite e (f e)) :
    RowsWritten events (updateEvent events eventId f) := by
  refine rowsWritten_map fun e _ => ?_
  split_ifs
  · exact .single (hf e)
  · exact .refl

theorem rowsWritten_onEvent {f : EnvironmentEvent → EnvironmentEvent} (hf : ∀ e, RowWrite e (f e))
    (h : onEvent events eventId f = .ok events') : RowsWritten events events' := by
  unfold onEvent at h
  split at h
  · cases h
  · cases h
    exact rowsWritten_update hf

theorem rowsWritten_effect {effectKey : String} {merge : Option EffectMarker → EffectMarker}
    (h : patchExternalEffect events eventId effectKey merge = .ok events') :
    RowsWritten events events' := by
  unfold patchExternalEffect at h
  split_ifs at h
  exact rowsWritten_onEvent (fun e => .effect effectKey merge) h

theorem rowsWritten_bind {recordId : String}
    (h : bindExternalRecord events eventId recordId = .ok events') :
    RowsWritten events events' := by
  have hto : ∀ e, bindExternalRecord.bindTo events eventId recordId e = .ok events' →
      RowsWritten events events' := by
    intro e h
    unfold bindExternalRecord.bindTo at h
    split at h
    · cases h
    · cases h
      refine rowsWritten_map fun other _ => ?_
      split_ifs
      · exact .single (.bound recordId)
      · exact .single (.superseded eventId)
      · exact .refl
  unfold bindExternalRecord at h
  split_ifs at h
  split at h
  · cases h
  · split at h
    · split_ifs at h
      exact hto _ h
    · exact hto _ h

/-- **A write of a handler** writes rows. -/
theorem EventWrite.rowsWritten {w : EventWrite} (h : w.apply events = .ok events') :
    RowsWritten events events' := by
  cases w with
  | patch id values => exact rowsWritten_onEvent (fun e => .values values) h
  | bindingPending id at_ => exact rowsWritten_onEvent (fun e => .bindingPending at_) h
  | recordMissing id missingAt => exact rowsWritten_onEvent (fun e => .recordMissing missingAt) h
  | reserve id =>
    simp only [EventWrite.apply, reserveExternalPost] at h
    split at h
    · cases h
    · split_ifs at h
      · cases h
        exact rowsWritten_refl events
      · cases h
        exact rowsWritten_update fun e => .reserved
  | outcome id o error at_ => exact rowsWritten_onEvent (fun e => .outcome o error at_) h
  | claim id owner at_ seconds =>
    simp only [EventWrite.apply, claimExternalCreate] at h
    split_ifs at h
    · cases h
    · split at h
      · cases h
      · split_ifs at h
        · cases h
          exact rowsWritten_update fun e => .claimed owner _
        · cases h
          exact rowsWritten_refl events
  | bind id recordId => exact rowsWritten_bind h
  | effectPending => exact rowsWritten_effect h
  | effectSucceeded => exact rowsWritten_effect h
  | effectFailed => exact rowsWritten_effect h

end RowsWritten

/-! ### What no write does -/

section SameCycle

variable {events events' : List EnvironmentEvent} {e e' : EnvironmentEvent}

/-- Row by row the same cycles. -/
abbrev SameCycles (events events' : List EnvironmentEvent) : Prop :=
  List.Forall₂ SameCycle events events'

theorem sameCycles_refl (events : List EnvironmentEvent) : SameCycles events events :=
  List.forall₂_same.mpr fun e _ => .refl e

theorem sameCycles_update {eventId : String} {f : EnvironmentEvent → EnvironmentEvent}
    (hf : ∀ e, SameCycle e (f e)) : SameCycles events (updateEvent events eventId f) := by
  rw [SameCycles, updateEvent, List.forall₂_map_right_iff]
  refine List.forall₂_same.mpr fun e _ => ?_
  split_ifs
  · exact hf e
  · exact .refl e

theorem sameCycle_close (closedAt : DateTime) (e : EnvironmentEvent) :
    SameCycle e (e.close closedAt) := by
  unfold EnvironmentEvent.close
  split_ifs
  · exact .refl e
  · exact ⟨rfl, rfl, rfl, rfl, rfl, fun _ => rfl⟩

/-- **No write touches a cycle's identity**, or opens a closed one. -/
theorem RowWrite.sameCycle (h : RowWrite e e') : SameCycle e e' := by
  cases h with
  | values v => exact ⟨rfl, rfl, rfl, rfl, by cases v <;> rfl, id⟩
  | bindingPending at_ =>
    refine ⟨rfl, rfl, rfl, rfl, ?_, id⟩
    show (e.payload.bindingPending at_).violationStartedAt = _
    unfold EventPayload.bindingPending
    split_ifs <;> rfl
  | recordMissing at_ => exact ⟨rfl, rfl, rfl, rfl, rfl, fun _ => rfl⟩
  | _ => exact ⟨rfl, rfl, rfl, rfl, rfl, id⟩

theorem RowsWritten.sameCycles (h : RowsWritten events events') : SameCycles events events' :=
  h.keeps .refl (fun _ _ _ => .trans) fun _ _ => RowWrite.sameCycle

end SameCycle

end TemperatureMonitor
