/-
# The writer of remote events

`FeishuEnvironmentEventWriter` for the three event actions, as programs of
calls: the CREATE with its lookup, its reservation and the recording of its
outcome, the UPDATE with its pending snapshot, and the recovery time. A handler
may end between any two of its calls.
-/
import TemperatureMonitor.Service.EventCalls

namespace TemperatureMonitor

/-! ### Cells -/

/-- `_temperature_status_text`. -/
def TemperatureStatus.text : TemperatureStatus → String
  | normal => "正常"
  | low => "低于下限"
  | high => "高于上限"
  | unknown => "数据异常"

/-- `_event_type_text`. -/
def eventTypeText (temperatureStatus humidityStatus : Option TemperatureStatus) : Option String :=
  if temperatureStatus = some .high then some "温度高于上限"
  else if temperatureStatus = some .low then some "温度低于下限"
  else if humidityStatus = some .high then some "湿度高于上限"
  else if humidityStatus = some .low then some "湿度低于下限"
  else if temperatureStatus.isSome || humidityStatus.isSome then some "数据异常"
  else none

/-- The measured values a write is made of. -/
structure Measured where
  temperature : Option ℚ
  humidity : Option ℚ
  temperatureStatus : Option TemperatureStatus
  humidityStatus : Option TemperatureStatus
deriving DecidableEq

/-- The cells of measured values. -/
def Measured.put (m : Measured) (f : EventFields) : EventFields :=
  { f with
    peakTemperature := m.temperature.map round1
    peakHumidity := m.humidity.map round1
    triggerTemperatureStatus := m.temperatureStatus.map (·.text)
    triggerHumidityStatus := m.humidityStatus.map (·.text)
    anomalyType := eventTypeText m.temperatureStatus m.humidityStatus }

/-- The statuses of a result. -/
def ResultDict.statuses : ResultDict → Option TemperatureStatus × Option TemperatureStatus
  | evaluated result => (some result.temperatureStatus, some result.humidityStatus)
  | stored temperatureStatus humidityStatus .. => (temperatureStatus, humidityStatus)

/-! ### The context -/

/-- The part of an execution context the writer reads. -/
structure WriterContext where
  createdAt : DateTime
  sampleTime : DateTime
  recoveredAt : Option DateTime := none
  sample : MonitorSample
  result : ResultDict
  transition : TransitionContext
  areaId : String := ""

def WriterContext.measured (c : WriterContext) : Measured :=
  { temperature := c.sample.temperature, humidity := c.sample.humidity
    temperatureStatus := c.result.statuses.1, humidityStatus := c.result.statuses.2 }

def Measured.snapshot (m : Measured) : UpdateSnapshot :=
  ⟨m.temperature, m.humidity, m.temperatureStatus, m.humidityStatus⟩

/-- The writer as it is deployed. -/
structure WriterConfig extends ServiceConfig where
  /-- `str.lower`. -/
  lower : String → String
  /-- The seconds of a create lease. -/
  leaseSeconds : ℤ
  /-- `FEISHU_ALARM_CHAT_ID`. -/
  alarmChatId : String := ""

section Writer

variable (cfg : WriterConfig)

/-! ### Reading the rows -/

/-- `_event_time_matches`: to the millisecond. -/
def RemoteEvent.starts (r : RemoteEvent) (start : DateTime) : Bool :=
  r.startTime = some start.epochMilliseconds

/-- The rows of a cycle. -/
def cycleRecords (device : String) (start : DateTime) (rows : List RemoteEvent) :
    List RemoteEvent :=
  rows.filter fun r => cfg.upper r.device = device && r.starts start

/-- `_find_event_by_business_key`, in rows that were read. -/
def findByBusinessKey (device : String) (start : DateTime) (rows : List RemoteEvent) :
    Except WriterFailure (Option RemoteEvent) :=
  match cycleRecords cfg device start rows with
  | [] => .ok none
  | [r] => .ok (some r)
  | _ =>
    .error (.refused
      ("EVENT_DUPLICATED: " ++ device ++ " start_ms=" ++ toString start.epochMilliseconds))

/-- `_find_event_by_business_key`. -/
def findEvent (device : String) (start : DateTime) : EventProg (Option RemoteEvent) := do
  let rows ← readEvents
  .ofExcept (findByBusinessKey cfg device start rows)

/-- `closed_statuses`, in lower case. -/
def closedStatuses : List String := ["关闭", "已关闭", "closed"]

/-- A row of `_active_events`. -/
def RemoteEvent.unresolved (device : String) (r : RemoteEvent) : Bool :=
  cfg.upper r.device = device && r.closure ≠ some "已闭环" &&
    (r.closure.isSome || !closedStatuses.contains (cfg.lower r.status))

/-- `zfill(20)`. -/
def zfill20 (s : String) : String := String.ofList (List.replicate (20 - s.length) '0') ++ s

/-- The order of unresolved rows: by start, then by id. -/
def RemoteEvent.later (a b : RemoteEvent) : Bool :=
  zfill20 a.startText < zfill20 b.startText ||
    (zfill20 a.startText = zfill20 b.startText && a.recordId < b.recordId)

/-- `max(unresolved, key=...)`: the first of the latest ones. -/
def latestOf (r : RemoteEvent) : List RemoteEvent → RemoteEvent
  | [] => r
  | s :: rest => latestOf (if r.later s then s else r) rest

/-! ### Writing a row -/

/-- `_ensure_device_id_text`. -/
def ensureDeviceIdText (r : RemoteEvent) (device : String) : EventProg Unit :=
  if r.deviceText = device then pure ()
  else do
    let _ ← updateRecord r.recordId { deviceIdText := some device }
    pure ()

/-- `_required_id`. -/
def requiredId (value name : String) : Except WriterFailure String :=
  if blank value then .error (.python (.valueError (name ++ " 不能为空"))) else .ok (strip value)

/-- The value of an update: never below what the row holds. -/
def raised (old new : Option ℚ) : Option ℚ :=
  match old, new with
  | some a, some b => some (max a b)
  | _, new => new

/-- The cells of an update, given the row it goes to, where that was found. -/
def updateFields (m : Measured) (clearRecovery : Bool) (remote : Option RemoteEvent) :
    EventFields :=
  let m := match remote with
    | some r => { m with temperature := raised r.peakTemperature m.temperature
                         humidity := raised r.peakHumidity m.humidity }
    | none => m
  m.put { recoveryTime := if clearRecovery then some none else none }

/-- `update_event`: whether it was skipped, and the code of the response. -/
def updateEventRecord (recordId : String) (m : Measured) (clearRecovery : Bool) :
    EventProg (Bool × ℤ) := do
  let rows ← readEvents
  let fields := updateFields m clearRecovery (rows.find? fun r => r.recordId = recordId)
  if fields.isEmpty then pure (true, 0)
  else do
    let id ← .ofExcept (requiredId recordId "record_id")
    let code ← updateRecord id fields
    pure (false, code)

/-- `recover_event`; the table has no columns for the values of a recovery. -/
def recoverEventRecord (recordId : String) (recoveredAt : DateTime) : EventProg ℤ := do
  let id ← .ofExcept (requiredId recordId "record_id")
  updateRecord id { recoveryTime := some (some recoveredAt.epochMilliseconds) }

/-! ### The binding -/

/-- `_created_record_id`, and what `_bound_record_id` makes of a binding: the id, where it is not
blank. -/
def createdRecordId (recordId : Option String) : Option String :=
  match recordId with
  | some recordId => if blank recordId then none else some (strip recordId)
  | none => none

def EventPayload.boundRecord (p : EventPayload) : Option String := createdRecordId p.feishuRecordId

/-- `_bound_record_id`. -/
def boundRecordId (eventId : String) : EventProg (Option String) := do
  match ← getEvent eventId with
  | none => throw (.refused ("找不到本地环境异常事件: " ++ eventId))
  | some e => pure e.payload.boundRecord

/-- `_bind_external_record`. -/
def bindRecord (eventId : String) (recordId : Option String) : EventProg Unit := do
  match createdRecordId recordId with
  | none => throw (.refused "飞书新增环境异常成功响应缺少 record_id，拒绝标记成功")
  | some recordId => do
    let _ ← writeEvent ((.bind eventId recordId))
    pure ()

/-- `_resolve_record_id`. -/
def resolveRecordId (eventId device : String) (start : Option DateTime) :
    EventProg (Option String) := do
  match ← boundRecordId eventId with
  | some recordId => pure (some recordId)
  | none =>
    match start with
    | none => pure none
    | some start => do
      match ← findEvent cfg device start with
      | none => pure none
      | some r => do
        bindRecord eventId (some r.recordId)
        pure (some r.recordId)

/-! ### The CREATE -/

/-- `_claim_external_create`. -/
def claimCreate (eventId : String) (claimedAt : DateTime) : EventProg Unit := do
  let owner ← newOwner
  let claimed ← writeEvent ((.claim eventId owner claimedAt cfg.leaseSeconds))
  if claimed then pure ()
  else do
    -- a concurrent owner may have completed between resolve and claim
    match ← boundRecordId eventId with
    | some _ => pure ()
    | none =>
      throw (.refused ("本地环境异常 " ++ eventId ++ " 的 Feishu CREATE/reconciliation 已由其他任务执行"))

/-- The cells of a new record. -/
def createFields (device area : String) (start : DateTime) (m : Measured) (owner : Json)
    (requirement : String) : EventFields :=
  m.put
    { deviceId := some device
      deviceIdText := some device
      area := some (strip area)
      startTime := some start.epochMilliseconds
      status := some "待处理"
      owner := some owner
      controlRequirement := if requirement = "" then none else some requirement }

/-- The idempotency key of a POST, before `normalize_client_token`. -/
def createToken (device : String) (start : DateTime) : String :=
  "ENV:" ++ device ++ ":" ++ toString start.epochMilliseconds

/-- `_device_owner`. -/
def deviceOwner (device : String) (records : List DeviceRecord) : Json :=
  ((records.find? fun r => cfg.upper r.device = device).map (·.owner)).getD .null

/-- `_device_control_requirement`. -/
def deviceRequirement (device : String) (records : List DeviceRecord) : String :=
  ((records.find? fun r => cfg.upper r.device = device).map (·.controlRequirement)).getD ""

/-- The end of a POST that raised: the row may be there all the same. -/
def recoverPost (eventId device : String) (start : DateTime) (outcomeAt : Option DateTime)
    (e : WriterFailure) : EventProg (Option String) := do
  match ← findEvent cfg device start with
  | some r => pure (some r.recordId)
  | none => do
    let _ ← writeEvent ((.outcome eventId (createFailureOutcome e) (some e.text) outcomeAt))
    throw e

/-- The POST, behind its reservation. -/
def postEvent (eventId device : String) (start : DateTime) (outcomeAt : Option DateTime)
    (fields : EventFields) : EventProg (Option String) := do
  let reserved ← writeEvent ((.reserve eventId))
  if reserved then
    tryCatch (postRecord fields (createToken device start))
      (recoverPost cfg eventId device start outcomeAt)
  else
    throw (.refused ("binding_retry: event=" ++ eventId ++
      "; CREATE/reconciliation outcome uncertain or remote deleted; lookup only/manual review"))

/-- The latest unresolved row of the device is taken for the event. -/
def reuseUnresolved (eventId device : String) (m : Measured) (existing : RemoteEvent) :
    EventProg (Option String) := do
  let localEvent ← getEvent eventId
  if localEvent.any fun e => e.payload.feishuCreateAttempted = some true then
    throw (.refused
      "binding_retry: uncertain prior CREATE requires exact business-key reconciliation")
  else do
    ensureDeviceIdText existing device
    let _ ← updateEventRecord existing.recordId m true
    pure (some existing.recordId)

/-- A new record: the owner and the requirement of the device are read for it. -/
def createNew (eventId device area : String) (start : DateTime) (outcomeAt : Option DateTime) (m : Measured) : EventProg (Option String) := do
  let owner := deviceOwner cfg device (← readDevices)
  if owner.truth = false then
    throw (.refused ("设备 " ++ device ++ " 缺少默认异常责任人，拒绝创建环境异常"))
  else do
    let requirement := deviceRequirement cfg device (← readDevices)
    if blank area then throw (.python (.valueError "area 不能为空"))
    else postEvent cfg eventId device start outcomeAt (createFields device area start m owner requirement)

/-- `create_event`, for a local event: the id of the record. -/
def createEvent (eventId device area : String) (start : DateTime) (outcomeAt : Option DateTime)
    (m : Measured) : EventProg (Option String) := do
  let rows ← readEvents
  match ← (.ofExcept (findByBusinessKey cfg device start rows) : EventProg _) with
  | some r => do
    ensureDeviceIdText r device
    pure (some r.recordId)
  | none =>
    -- only the manual closure of a row permits a new one
    match rows.filter (·.unresolved cfg device) with
    | r :: rest => reuseUnresolved eventId device m (latestOf r rest)
    | [] => createNew cfg eventId device area start outcomeAt m

/-! ### The actions -/

/-- A CREATE action. -/
def handleCreate (eventId device : String) (c : WriterContext) (start : DateTime) :
    EventProg Unit := do
  match ← boundRecordId eventId with
  | some _ => pure ()
  | none => do
    claimCreate cfg eventId c.createdAt
    let recordId ← createEvent cfg eventId device (strip c.areaId)
      start (some c.createdAt) c.measured
    bindRecord eventId recordId

/-- A write that failed: a deleted record ends the tracking of the event. -/
def failEffect (eventId effectKey : String) (effectAt : DateTime) (e : WriterFailure) :
    EventProg Unit :=
  if isDeletedFeishuRecord e then do
    let _ ← writeEvent ((.recordMissing eventId effectAt))
    let _ ← writeEvent ((.effectSucceeded eventId effectKey effectAt))
    pure ()
  else do
    let _ ← writeEvent ((.effectFailed eventId effectKey e.text "FAILED"))
    throw e

/-- The write of an effect, and what it leaves: its marker, then its flag. -/
def runEffect (eventId effectKey : String) (effectAt : DateTime) (done : ProjectionValues)
    (send : EventProg Unit) : EventProg Unit := do
  match ← send.captured with
  | .error e => failEffect eventId effectKey effectAt e
  | .ok () => do
    let _ ← writeEvent ((.effectSucceeded eventId effectKey effectAt))
    let _ ← writeEvent ((.patch eventId done))
    pure ()

/-- The request of an UPDATE. -/
def sendUpdate (recordId : String) (m : Measured) : EventProg Unit := do
  let (skipped, code) ← updateEventRecord recordId m false
  if skipped || code ≠ 0 then throw (.refused "UPDATE_ALARM_EVENT did not complete a remote update")
  else pure ()

/-- The request of a recovery. -/
def sendRecovery (recordId : String) (recoveredAt : DateTime) : EventProg Unit := do
  let code ← recoverEventRecord recordId recoveredAt
  if code ≠ 0 then throw (.refused "MARK_ALARM_RECOVERED did not complete a remote update")
  else pure ()

/-- The record of an UPDATE; without one the event is created first. -/
def updateTarget (eventId device : String) (c : WriterContext) (start : DateTime) :
    EventProg (Option String) := do
  match ← resolveRecordId cfg eventId device (some start) with
  | some recordId => pure (some recordId)
  | none => do
    claimCreate cfg eventId c.createdAt
    -- an UPDATE leaves the time of a failed creation unset
    let recordId ← createEvent cfg eventId device (strip c.areaId) start none c.measured
    bindRecord eventId recordId
    boundRecordId eventId

/-- An UPDATE action. -/
def handleUpdate (eventId device effectKey : String) (c : WriterContext) (start : DateTime) :
    EventProg Unit := do
  let recordId ← updateTarget cfg eventId device c start
  let _ ← writeEvent ((.patch eventId (.updatePending c.measured.snapshot)))
  runEffect eventId effectKey c.createdAt .updateDone (sendUpdate (recordId.getD "") c.measured)

/-- A MARK_ALARM_RECOVERED action. -/
def handleRecovered (eventId device effectKey : String) (c : WriterContext)
    (start : Option DateTime) : EventProg Unit := do
  match ← resolveRecordId cfg eventId device start with
  | none => throw (.refused "无法关联本次报警对应的飞书异常记录")
  | some recordId =>
    runEffect eventId effectKey c.createdAt .recoveryDone
      (sendRecovery recordId (c.recoveredAt.getD c.createdAt))

/-- The start of a cycle as the transition gives it, checked against the local event's. -/
def checkedStart (e : EnvironmentEvent) (t : TransitionContext) :
    Except WriterFailure TransitionContext :=
  match e.localStart cfg.toServiceConfig with
  | none => .ok t
  | some start =>
    if t.violationStartedAt.any fun supplied => !sameInstant supplied start then
      .error (.refused "local event/alarm cycle start mismatch")
    else .ok { t with violationStartedAt := some start }

/-- An effect whose marker has not succeeded is marked as pending; a row that
is gone or handed over has nothing to be written to. -/
def guardEffect (e : EnvironmentEvent) (actionType : AlarmActionType) (c : WriterContext)
    (write : String → EventProg Unit) : EventProg Unit := do
  let key ← .ofExcept ((externalEffectKey cfg.digest actionType e.eventId (some c.sampleTime)
    (c.recoveredAt <|> some c.createdAt) c.sample c.result).mapError .python)
  let marker ← getEventEffect e.eventId key
  if succeeded marker then pure ()
  else do
    let _ ← writeEvent ((.effectPending e.eventId key actionType.value c.createdAt))
    if e.payload.feishuRecordMissing = some true ∨ truthy e.payload.feishuSupersededBy then do
      let _ ← writeEvent ((.effectSucceeded e.eventId key c.createdAt))
      pure ()
    else write key

/-- `durable reconciliation owns uncertain CREATE`. -/
def uncertainCreate (e : EnvironmentEvent) (t : TransitionContext) : Bool :=
  !truthy e.payload.feishuRecordId && e.payload.feishuCreateAttempted = some true &&
    t.reason ≠ "alarm_event_reconciliation"

/-- An event action on the local event it is about. -/
def handleEventAction (actionType : AlarmActionType) (device : String) (c : WriterContext)
    (e : EnvironmentEvent) : EventProg Unit :=
  match checkedStart cfg e c.transition with
  | .error err => throw err
  | .ok t =>
    match actionType with
    | .createAlarmEvent =>
      handleCreate cfg e.eventId device c (t.violationStartedAt.getD c.sampleTime)
    | .updateAlarmEvent =>
      if uncertainCreate e t then
        throw (.refused "binding_retry: durable reconciliation owns uncertain CREATE")
      else guardEffect cfg e actionType c fun key =>
        handleUpdate cfg e.eventId device key c
          ((t.violationStartedAt <|> t.alarmStartedAt).getD c.sampleTime)
    | .markAlarmRecovered => guardEffect cfg e actionType c fun key =>
        handleRecovered cfg e.eventId device key c (t.violationStartedAt <|> t.alarmStartedAt)
    | _ => pure ()

/-- The local event of an action. -/
def writerEventId (a : ApplicationAction) (t : TransitionContext) : Option String :=
  let value := if truthy a.alarmId then a.alarmId else t.activeAlarmId
  if truthy value then value.map strip else none

/-- `_handle_alarm_action`. -/
def handleAlarmAction (a : ApplicationAction) (c : WriterContext) : EventProg Unit := do
  let device ← .ofExcept ((requiredId a.deviceId "device_id").map cfg.upper)
  match writerEventId a c.transition with
  | none =>
    if isEventAction a.actionType then
      throw (.refused "Active event action requires durable local event repository/event_id")
    else pure ()
  | some eventId =>
    match ← getEvent eventId with
    | none => throw (.refused "local event/device identity mismatch")
    | some e =>
      if cfg.upper (strip e.deviceId) ≠ device then
        throw (.refused "local event/device identity mismatch")
      else handleEventAction cfg a.actionType device c e

end Writer

end TemperatureMonitor
