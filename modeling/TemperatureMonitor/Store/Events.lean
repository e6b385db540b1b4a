/-
# The local event store

Rows of `environment_events`, one for each monitoring cycle, and the
operations of `SQLiteEnvironmentEventRepository`. Each operation is one
transaction on one row; what it may change of a row is `SameCycle`: never the
identity of the cycle, and of its status at most that it closes.
-/
import TemperatureMonitor.Library.Text
import TemperatureMonitor.Domain.Models

namespace TemperatureMonitor

inductive EventStatus
  | open | inProgress | closed
deriving DecidableEq

/-- The outcome of one external CREATE. -/
inductive ExternalCreateOutcome
  | inFlight | retryable | unknown | notRetryable | succeeded
deriving DecidableEq

/-- The marker of one external effect. -/
structure EffectMarker where
  status : String
  actionType : Option String := none
  requestedAt : Option DateTime := none
  completedAt : Option DateTime := none
  error : Option String := none
deriving DecidableEq

/-- The values of a pending update. -/
structure UpdateSnapshot where
  temperature : Option ℚ
  humidity : Option ℚ
  temperatureStatus : Option TemperatureStatus
  humidityStatus : Option TemperatureStatus
deriving DecidableEq

/-- The payload object of an event; an absent key is `none`. -/
structure EventPayload where
  createdMode : Option String := none
  activeEpoch : Option String := none
  createdAt : Option DateTime := none
  sampleTime : Option DateTime := none
  violationStartedAt : Option DateTime := none
  area : Option String := none
  temperature : Option ℚ := none
  humidity : Option ℚ := none
  peakTemperature : Option ℚ := none
  peakHumidity : Option ℚ := none
  feishuBindingStatus : Option String := none
  feishuCreateRequestedAt : Option DateTime := none
  feishuCreateAttempted : Option Bool := none
  feishuCreateState : Option ExternalCreateOutcome := none
  feishuCreateAttemptCount : ℕ := 0
  feishuCreateLastError : Option String := none
  feishuCreateOutcomeAt : Option DateTime := none
  feishuRecordId : Option String := none
  feishuRecordMissing : Option Bool := none
  feishuRecordMissingAt : Option DateTime := none
  feishuRecordMissingError : Option String := none
  feishuRecoveryPending : Option Bool := none
  feishuRecoveredAt : Option DateTime := none
  feishuUpdatePending : Option Bool := none
  feishuUpdateSnapshot : Option UpdateSnapshot := none
  feishuSupersededBy : Option String := none
  localCloseReason : Option String := none
  externalEffectPolicy : Option String := none
  feishuExternalEffects : List (String × EffectMarker) := []
deriving DecidableEq

/-- A row of `environment_events`. -/
structure EnvironmentEvent where
  eventId : String
  deviceId : String
  eventKey : String
  status : EventStatus := .open
  openedAt : DateTime
  closedAt : Option DateTime := none
  payload : EventPayload := {}
  createOwner : Option String := none
  createLeaseUntil : Option DateTime := none
deriving DecidableEq

/-- What no operation changes of a row, and what it may do to its status. -/
structure SameCycle (e e' : EnvironmentEvent) : Prop where
  eventId : e'.eventId = e.eventId
  deviceId : e'.deviceId = e.deviceId
  eventKey : e'.eventKey = e.eventKey
  openedAt : e'.openedAt = e.openedAt
  violationStartedAt : e'.payload.violationStartedAt = e.payload.violationStartedAt
  closed : e.status = .closed → e'.status = .closed

theorem SameCycle.refl (e : EnvironmentEvent) : SameCycle e e := ⟨rfl, rfl, rfl, rfl, rfl, id⟩

theorem SameCycle.trans {a b c : EnvironmentEvent} (h : SameCycle a b) (h' : SameCycle b c) :
    SameCycle a c :=
  ⟨h'.eventId.trans h.eventId, h'.deviceId.trans h.deviceId, h'.eventKey.trans h.eventKey,
    h'.openedAt.trans h.openedAt, h'.violationStartedAt.trans h.violationStartedAt,
    fun hc => h'.closed (h.closed hc)⟩

/-! ### Lookups and the update of one row -/

def eventById (events : List EnvironmentEvent) (eventId : String) : Option EnvironmentEvent :=
  events.find? fun e => e.eventId = eventId

def updateEvent (events : List EnvironmentEvent) (eventId : String)
    (f : EnvironmentEvent → EnvironmentEvent) : List EnvironmentEvent :=
  events.map fun e => if e.eventId = eventId then f e else e

def unknownEvent (eventId : String) : PyError :=
  .keyError ("unknown environment event: " ++ eventId)

/-- A transaction on the row of an event. -/
def onEvent (events : List EnvironmentEvent) (eventId : String)
    (f : EnvironmentEvent → EnvironmentEvent) : Except PyError (List EnvironmentEvent) :=
  match eventById events eventId with
  | none => .error (unknownEvent eventId)
  | some _ => .ok (updateEvent events eventId f)

def EnvironmentEvent.patch (e : EnvironmentEvent) (f : EventPayload → EventPayload) :
    EnvironmentEvent :=
  { e with payload := f e.payload }

/-! ### Creating and closing -/

def findByKey (events : List EnvironmentEvent) (eventKey : String) : Option EnvironmentEvent :=
  events.find? fun e => e.eventKey = eventKey

/-- The device's event that is not closed; an index allows one. -/
def findActive (events : List EnvironmentEvent) (deviceId : String) : Option EnvironmentEvent :=
  events.find? fun e => e.deviceId = deviceId && e.status ≠ .closed

/-- `create_or_get_active`. -/
def createOrGetActive (events : List EnvironmentEvent) (newId deviceId eventKey : String)
    (openedAt : DateTime) (payload : EventPayload) :
    Except PyError (List EnvironmentEvent × EnvironmentEvent) :=
  if blank deviceId then .error (.valueError "device_id cannot be empty")
  else if blank eventKey then .error (.valueError "event_key cannot be empty")
  else match findByKey events eventKey <|> findActive events deviceId with
  | some existing => .ok (events, existing)
  | none =>
    let event := { eventId := newId, deviceId, eventKey, openedAt, payload : EnvironmentEvent }
    .ok (events ++ [event], event)

def EnvironmentEvent.close (closedAt : DateTime) (e : EnvironmentEvent) : EnvironmentEvent :=
  if e.status = .closed then e else { e with status := .closed, closedAt := some closedAt }

@[simp] theorem EnvironmentEvent.close_status (closedAt : DateTime) (e : EnvironmentEvent) :
    (e.close closedAt).status = .closed := by
  unfold EnvironmentEvent.close
  split_ifs with hc
  · exact hc
  · rfl

/-- `mark_recovered`: the monitoring cycle is over. -/
def markRecovered (events : List EnvironmentEvent) (eventId : String) (recoveredAt : DateTime) :
    Except PyError (List EnvironmentEvent) :=
  onEvent events eventId (·.close recoveredAt)

/-- `remote_record_missing_payload`, merged into a payload. -/
def EventPayload.recordMissing (missingAt : DateTime) (p : EventPayload) : EventPayload :=
  { p with
    feishuRecordMissing := some true
    feishuRecordMissingAt := some missingAt
    feishuBindingStatus := some "DELETED"
    feishuUpdatePending := some false
    feishuRecoveryPending := some false
    localCloseReason := some "linked_feishu_record_deleted" }

def EnvironmentEvent.recordMissing (missingAt : DateTime) (e : EnvironmentEvent) :
    EnvironmentEvent :=
  { e with status := .closed, closedAt := e.closedAt <|> some missingAt,
           payload := e.payload.recordMissing missingAt }

/-- `mark_external_record_missing`. -/
def markExternalRecordMissing (events : List EnvironmentEvent) (eventId : String)
    (missingAt : DateTime) : Except PyError (List EnvironmentEvent) :=
  onEvent events eventId (·.recordMissing missingAt)

/-- `patch_external_projection`, the values given as what they do to the payload. -/
def patchExternalProjection (events : List EnvironmentEvent) (eventId : String)
    (values : EventPayload → EventPayload) : Except PyError (List EnvironmentEvent) :=
  onEvent events eventId (·.patch values)

/-- `mark_external_binding_pending`. -/
def EventPayload.bindingPending (requestedAt : DateTime) (p : EventPayload) : EventPayload :=
  if truthy p.feishuRecordId then p
  else { p with feishuBindingStatus := some "PENDING",
                feishuCreateRequestedAt := p.feishuCreateRequestedAt <|> some requestedAt }

def markExternalBindingPending (events : List EnvironmentEvent) (eventId : String)
    (requestedAt : DateTime) : Except PyError (List EnvironmentEvent) :=
  onEvent events eventId (·.patch (·.bindingPending requestedAt))

end TemperatureMonitor
