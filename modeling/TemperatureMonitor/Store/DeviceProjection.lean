/-
# The projection of a device's status

The table `device_status_projection` and `SQLiteDeviceStatusProjectionRepository`:
the fields a device's remote row should have, what was last seen there, and the
status of the projection. A row whose remote record was deleted keeps that
status under every save. The cells of the fields are of any type.
-/
import Mathlib.Data.List.Dedup
import TemperatureMonitor.Library.Iso
import TemperatureMonitor.Library.Table

namespace TemperatureMonitor

inductive DeviceProjectionStatus
  | pending | succeeded | failed | shadowOnly | remoteRecordDeleted
deriving DecidableEq

variable {Cell : Type*}

/-- A row of `device_status_projection`. -/
structure DeviceStatusRow (Cell : Type*) where
  deviceId : String
  recordId : Option String := none
  desiredHash : Option String := none
  desiredFields : List (String × Cell) := []
  observedFields : List (String × Cell) := []
  changedFields : List String := []
  status : DeviceProjectionStatus := .pending
  pending : Bool := false
  failed : Bool := false
  lastSuccessAt : Option DateTime := none
  lastAttemptAt : Option DateTime := none
  lastError : Option String := none
  lastTaskId : Option String := none
  updatedAt : DateTime

/-- `get`. -/
def getDeviceStatus (rows : List (DeviceStatusRow Cell)) (deviceId : String) :
    Option (DeviceStatusRow Cell) :=
  rowOf DeviceStatusRow.deviceId rows deviceId

/-- `UPDATE ... WHERE device_id = ?`. -/
def updateDeviceStatus (rows : List (DeviceStatusRow Cell)) (deviceId : String)
    (f : DeviceStatusRow Cell → DeviceStatusRow Cell) : List (DeviceStatusRow Cell) :=
  rows.map fun r => if r.deviceId = deviceId then f r else r

/-- `save_desired`, for the row there is. -/
def DeviceStatusRow.desire (r : DeviceStatusRow Cell) (recordId : Option String)
    (desiredHash : String)
    (desiredFields : List (String × Cell)) (updatedAt : DateTime) : DeviceStatusRow Cell :=
  -- a comparison with NULL is not true
  let moved := r.desiredHash.any (· ≠ desiredHash)
  let deleted := r.status = .remoteRecordDeleted
  { r with
    recordId := recordId <|> r.recordId
    desiredHash := some desiredHash
    desiredFields
    changedFields := if moved then [] else r.changedFields
    status := if deleted then r.status else if moved then .pending else r.status
    pending := if deleted then false else if moved then true else r.pending
    failed := if deleted then false else if moved then false else r.failed
    lastError := if deleted then r.lastError else if moved then none else r.lastError
    updatedAt }

/-- `save_desired`. -/
def saveDesired (rows : List (DeviceStatusRow Cell)) (deviceId : String) (recordId : Option String)
    (desiredHash : String) (desiredFields : List (String × Cell)) (updatedAt : DateTime) :
    List (DeviceStatusRow Cell) :=
  alterRow DeviceStatusRow.deviceId deviceId (fun old =>
    match old with
    | some r => { r.desire recordId desiredHash desiredFields updatedAt with deviceId }
    | none =>
      { deviceId, recordId, desiredHash := some desiredHash, desiredFields, pending := true, updatedAt }) rows

/-- `mark_pending`, without a time or an error. -/
def DeviceStatusRow.markPending (r : DeviceStatusRow Cell) (taskId : String) :
    DeviceStatusRow Cell :=
  { r with status := .pending, pending := true, failed := false, lastTaskId := some taskId, lastError := none }

/-- `mark_success`. -/
def DeviceStatusRow.markSuccess (r : DeviceStatusRow Cell) (recordId : String)
    (observedFields : List (String × Cell)) (completedAt : DateTime) : DeviceStatusRow Cell :=
  { r with recordId := some recordId, observedFields, status := .succeeded, changedFields := [], pending := false
           failed := false, lastSuccessAt := some completedAt, lastAttemptAt :=
             some completedAt, lastError := none
           updatedAt := completedAt }

/-- `mark_gated`. -/
def DeviceStatusRow.markGated (r : DeviceStatusRow Cell) (recordId : String)
    (observedFields : List (String × Cell))
    (changedFields : List String) (reconciledAt : DateTime) (taskId : String) :
    DeviceStatusRow Cell :=
  { r with recordId := some recordId, observedFields, status := .shadowOnly, pending := false, failed := false
           -- `sorted({...})`
           changedFields := changedFields.dedup.mergeSort fun a b => a ≤ b
           lastAttemptAt := some reconciledAt, lastTaskId := some taskId, lastError :=
             none, updatedAt := reconciledAt }

/-- `mark_failure`. -/
def DeviceStatusRow.markFailure (r : DeviceStatusRow Cell) (error : String) (attemptedAt : DateTime)
    (terminal : Bool) : DeviceStatusRow Cell :=
  { r with status := if terminal then .failed else .pending, pending := !terminal, failed := terminal
           lastAttemptAt := some attemptedAt, lastError :=
             some (String.ofList (error.toList.take 500))
           updatedAt := attemptedAt }

/-- `mark_remote_record_deleted`. -/
def DeviceStatusRow.markRemoteRecordDeleted (r : DeviceStatusRow Cell) (recordId : Option String)
    (error : String) (markedAt : DateTime) : DeviceStatusRow Cell :=
  { r with recordId := recordId <|> r.recordId, status := .remoteRecordDeleted, pending := false, failed := false
           lastAttemptAt := some markedAt, lastError := some (String.ofList (error.toList.take 500))
           updatedAt := markedAt }

/-- `mark_shadow_only`. -/
def DeviceStatusRow.markShadowOnly (r : DeviceStatusRow Cell) (updatedAt : DateTime) :
    DeviceStatusRow Cell :=
  { r with status := .shadowOnly, pending := false, failed := false, changedFields := [], lastError := none
           updatedAt }

end TemperatureMonitor
