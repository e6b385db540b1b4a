/-
# The calls of the writer's programs

Every call a program of the event writer can make, whatever it is answered:
the look up of a record and the update of one (`LookupCalls`), and what a
CREATE makes beside them (`WriterCalls`). A class of calls that has these has
all the calls of the programs.
-/
import TemperatureMonitor.Service.EventWork

namespace TemperatureMonitor

/-- A class with the calls that find, bind and update a record. -/
structure LookupCalls (P : EventCall → Prop) : Prop where
  event : ∀ id, P (.event id)
  readEvents : P .readEvents
  readDevices : P .readDevices
  newOwner : P .newOwner
  claim : ∀ id owner at_ seconds, P (.write (.claim id owner at_ seconds))
  bind : ∀ id recordId, P (.write (.bind id recordId))
  update : ∀ recordId fields, P (.update recordId fields)

/-- A class with those of a CREATE. -/
structure WriterCalls (P : EventCall → Prop) : Prop extends LookupCalls P where
  reserve : ∀ id, P (.write (.reserve id))
  post : ∀ fields token, P (.post fields token)
  outcome : ∀ id o error at_, P (.write (.outcome id o error at_))

section Programs

variable {P : EventCall → Prop} {cfg : WriterConfig} {α : Type} {device eventId recordId : String}
  {start : DateTime} {outcomeAt : Option DateTime} {m : Measured}

-- a program is not run to see its calls
attribute [local irreducible] Prog.Calls

theorem calls_call {c : EventCall} (h : P c) : (.perform c : EventProg c.Answer).Calls P :=
  Prog.calls_perform.mpr h

section Lookups

variable (hP : LookupCalls P)

include hP

theorem findEvent_calls : (findEvent cfg device start).Calls P :=
  Prog.calls_bind (calls_call hP.readEvents) fun _ => Prog.calls_done _

theorem boundRecordId_calls : (boundRecordId eventId).Calls P := by
  refine Prog.calls_bind (calls_call (hP.event _)) fun e => ?_
  cases e with
  | none => exact Prog.calls_done _
  | some e => exact Prog.calls_done _

theorem bindRecord_calls (recordId : Option String) : (bindRecord eventId recordId).Calls P := by
  unfold bindRecord
  split
  · exact Prog.calls_done _
  · exact Prog.calls_bind (calls_call (hP.bind _ _)) fun _ => Prog.calls_done _

theorem resolveRecordId_calls (start : Option DateTime) :
    (resolveRecordId cfg eventId device start).Calls P := by
  refine Prog.calls_bind (boundRecordId_calls hP) fun bound => ?_
  cases bound with
  | some id => exact Prog.calls_done _
  | none =>
    cases start with
    | none => exact Prog.calls_done _
    | some start =>
      refine Prog.calls_bind (findEvent_calls hP) fun found => ?_
      cases found with
      | none => exact Prog.calls_done _
      | some r => exact Prog.calls_bind (bindRecord_calls hP _) fun _ => Prog.calls_done _

theorem claimCreate_calls : (claimCreate cfg eventId start).Calls P := by
  refine Prog.calls_bind (calls_call hP.newOwner) fun owner => ?_
  refine Prog.calls_bind (calls_call (hP.claim _ _ _ _)) fun claimed => ?_
  cases claimed with
  | true => exact Prog.calls_done _
  | false =>
    refine Prog.calls_bind (boundRecordId_calls hP) fun bound => ?_
    cases bound with
    | none => exact Prog.calls_done _
    | some id => exact Prog.calls_done _

theorem ensureDeviceIdText_calls (r : RemoteEvent) : (ensureDeviceIdText r device).Calls P := by
  unfold ensureDeviceIdText
  split_ifs
  · exact Prog.calls_done _
  · exact Prog.calls_bind (calls_call (hP.update _ _)) fun _ => Prog.calls_done _

theorem updateEventRecord_calls (clearRecovery : Bool) :
    (updateEventRecord recordId m clearRecovery).Calls P := by
  refine Prog.calls_bind (calls_call hP.readEvents) fun rows => ?_
  dsimp only
  split_ifs
  · exact Prog.calls_done _
  · refine Prog.calls_bind (Prog.calls_ofExcept _) fun id => ?_
    exact Prog.calls_bind (calls_call (hP.update _ _)) fun _ => Prog.calls_done _

theorem recoverEventRecord_calls : (recoverEventRecord recordId start).Calls P :=
  Prog.calls_bind (Prog.calls_ofExcept _) fun _ => calls_call (hP.update _ _)

theorem sendUpdate_calls : (sendUpdate recordId m).Calls P := by
  refine Prog.calls_bind (updateEventRecord_calls hP false) fun answer => ?_
  dsimp only
  split_ifs
  · exact Prog.calls_done _
  · exact Prog.calls_done _

theorem sendRecovery_calls : (sendRecovery recordId start).Calls P := by
  refine Prog.calls_bind (recoverEventRecord_calls hP) fun code => ?_
  split_ifs
  · exact Prog.calls_done _
  · exact Prog.calls_done _

theorem reuseUnresolved_calls (existing : RemoteEvent) :
    (reuseUnresolved eventId device m existing).Calls P := by
  refine Prog.calls_bind (calls_call (hP.event _)) fun e => ?_
  split_ifs
  · exact Prog.calls_done _
  · refine Prog.calls_bind (ensureDeviceIdText_calls hP existing) fun _ => ?_
    exact Prog.calls_bind (updateEventRecord_calls hP true) fun _ => Prog.calls_done _

end Lookups

section Creates

variable (hP : WriterCalls P)

include hP

theorem recoverPost_calls (e : WriterFailure) :
    (recoverPost cfg eventId device start outcomeAt e).Calls P := by
  refine Prog.calls_bind (findEvent_calls hP.toLookupCalls) fun found => ?_
  cases found with
  | some r => exact Prog.calls_done _
  | none => exact Prog.calls_bind (calls_call (hP.outcome _ _ _ _)) fun _ => Prog.calls_done _

theorem postEvent_calls (fields : EventFields) :
    (postEvent cfg eventId device start outcomeAt fields).Calls P := by
  refine Prog.calls_bind (calls_call (hP.reserve _)) fun reserved => ?_
  cases reserved with
  | true => exact Prog.calls_tryCatch (calls_call (hP.post _ _)) (recoverPost_calls hP)
  | false => exact Prog.calls_done _

theorem createNew_calls (area : String) :
    (createNew cfg eventId device area start outcomeAt m).Calls P := by
  refine Prog.calls_bind (calls_call hP.readDevices) fun records => ?_
  dsimp only
  split_ifs
  · exact Prog.calls_done _
  · exact Prog.calls_bind (calls_call hP.readDevices) fun _ => Prog.calls_done _
  · exact Prog.calls_bind (calls_call hP.readDevices) fun _ => postEvent_calls hP _

theorem createEvent_calls (area : String) :
    (createEvent cfg eventId device area start outcomeAt m).Calls P := by
  refine Prog.calls_bind (calls_call hP.readEvents) fun rows => ?_
  refine Prog.calls_bind (Prog.calls_ofExcept _) fun found => ?_
  cases found with
  | some r =>
    exact Prog.calls_bind (ensureDeviceIdText_calls hP.toLookupCalls r) fun _ => Prog.calls_done _
  | none =>
    dsimp only
    split
    · exact reuseUnresolved_calls hP.toLookupCalls _
    · exact createNew_calls hP area

theorem updateTarget_calls (c : WriterContext) :
    (updateTarget cfg eventId device c start).Calls P := by
  refine Prog.calls_bind (resolveRecordId_calls hP.toLookupCalls _) fun found => ?_
  cases found with
  | some id => exact Prog.calls_done _
  | none =>
    refine Prog.calls_bind (claimCreate_calls hP.toLookupCalls) fun _ => ?_
    refine Prog.calls_bind (createEvent_calls hP _) fun id => ?_
    exact Prog.calls_bind (bindRecord_calls hP.toLookupCalls id) fun _ =>
      boundRecordId_calls hP.toLookupCalls

end Creates

/-- A recipient is two reads away. -/
theorem resolveRecipient_calls (hevent : ∀ recordId, P (.eventOwner recordId))
    (hdevice : ∀ deviceId, P (.deviceOwner deviceId))
    (alarmChatId : String) (e : EnvironmentEvent) :
    (resolveRecipient alarmChatId e recordId).Calls P := by
  refine Prog.calls_bind (calls_call (hevent _)) fun owner => ?_
  refine Prog.calls_bind (Prog.calls_ofExcept _) fun found => ?_
  cases found with
  | some found => exact Prog.calls_done _
  | none =>
    refine Prog.calls_bind (calls_call (hdevice _)) fun owner => ?_
    refine Prog.calls_bind (Prog.calls_ofExcept _) fun found => ?_
    cases found with
    | some found => exact Prog.calls_done _
    | none =>
      dsimp only
      split_ifs
      · exact Prog.calls_done _
      · exact Prog.calls_done _

end Programs

end TemperatureMonitor
