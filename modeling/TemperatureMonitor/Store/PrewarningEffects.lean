/-
# The markers of the prewarning messages

Rows of `prewarning_external_effects` and the operations of
`SQLitePrewarningEffectRepository`. A marker is known by its effect key; only
`mark_pending` makes one, `mark_succeeded` and `mark_failed` raise without it.
-/
import TemperatureMonitor.Domain.FeishuCell
import TemperatureMonitor.Domain.Models
import TemperatureMonitor.Library.Table

namespace TemperatureMonitor

inductive PrewarningEffectStatus
  | pending | succeeded | failed
deriving DecidableEq

/-- A JSON object: a key once. -/
abbrev Metadata := List (String × Json)

/-- `{**old, **new}`. -/
def mergeMetadata (old new : Metadata) : Metadata :=
  (old.filter fun field => new.all fun update => update.1 ≠ field.1) ++ new

structure PrewarningEffect where
  effectKey : String
  deviceId : String
  actionType : String
  status : PrewarningEffectStatus
  requestedAt : Option DateTime := none
  completedAt : Option DateTime := none
  failedAt : Option DateTime := none
  recipient : Option String := none
  receiveIdType : Option String := none
  messageId : Option String := none
  error : Option String := none
  metadata : Metadata := []

section Markers

variable (effects : List PrewarningEffect) (effectKey : String)

def getEffect : Option PrewarningEffect := rowOf PrewarningEffect.effectKey effects effectKey

/-- `_upsert`. Its defaults come before the metadata is looked at: the recipient, its type and the
message id are NULL whatever the metadata says. -/
def upsertEffect (v : PrewarningEffect) : List PrewarningEffect :=
  alterRow PrewarningEffect.effectKey v.effectKey (fun
    | none => { v with recipient := none, receiveIdType := none, messageId := none }
    | some old =>
      { old with
        effectKey := v.effectKey
        status := v.status
        requestedAt := v.requestedAt <|> old.requestedAt
        completedAt := v.completedAt <|> old.completedAt
        failedAt := v.failedAt
        error := v.error
        metadata := v.metadata }) effects

def markEffectPending (deviceId actionType : String) (requestedAt : DateTime)
    (metadata : Metadata) : List PrewarningEffect :=
  upsertEffect effects
    { effectKey, deviceId, actionType, status := .pending, requestedAt := some requestedAt, metadata }

def unknownEffect : PyError := .keyError ("unknown prewarning effect: " ++ effectKey)

def markEffectSucceeded (completedAt : DateTime) (metadata : Metadata) :
    Except PyError (List PrewarningEffect) :=
  match getEffect effects effectKey with
  | none => .error (unknownEffect effectKey)
  | some old =>
    .ok (upsertEffect effects
      { effectKey, deviceId := old.deviceId, actionType := old.actionType, status := .succeeded
        completedAt := some completedAt, metadata := mergeMetadata old.metadata metadata })

def markEffectFailed (failedAt : DateTime) (error : String) (metadata : Metadata) :
    Except PyError (List PrewarningEffect) :=
  match getEffect effects effectKey with
  | none => .error (unknownEffect effectKey)
  | some old =>
    .ok (upsertEffect effects
      { effectKey, deviceId := old.deviceId, actionType := old.actionType, status := .failed, failedAt := some failedAt
        error := some error, metadata := mergeMetadata old.metadata metadata })

end Markers

section Lemmas

variable {effects effects' : List PrewarningEffect} {key : String}

theorem getEffect_upsert (v : PrewarningEffect) :
    ∃ r, getEffect (upsertEffect effects v) v.effectKey = some r ∧
    r.status = v.status ∧ r.failedAt = v.failedAt ∧ r.error = v.error ∧
      r.metadata = v.metadata := by
  unfold getEffect upsertEffect
  rw [rowOf_alterRow_self fun old => by cases old <;> rfl]
  refine ⟨_, rfl, ?_⟩
  cases rowOf PrewarningEffect.effectKey effects v.effectKey with
  | none => exact ⟨rfl, rfl, rfl, rfl⟩
  | some old => exact ⟨rfl, rfl, rfl, rfl⟩

theorem getEffect_pending (deviceId actionType : String) (requestedAt : DateTime)
    (metadata : Metadata) :
    (getEffect (markEffectPending effects key deviceId actionType requestedAt metadata)
      key).isSome = true := by
  obtain ⟨r, hr, -⟩ := @getEffect_upsert effects
    { effectKey := key, deviceId, actionType, status := .pending, requestedAt := some requestedAt, metadata }
  exact Option.isSome_iff_exists.mpr ⟨r, hr⟩

/-- A field of the update is in the merged object. -/
theorem mem_mergeMetadata {old new : Metadata} {field : String × Json} (h : field ∈ new) :
    field ∈ mergeMetadata old new :=
  List.mem_append_right _ h

/-- **A failure is recorded exactly where there is a marker.** -/
theorem markEffectFailed_cases (failedAt : DateTime) (error : String) (metadata : Metadata) :
    (getEffect effects key = none ∧
      markEffectFailed effects key failedAt error metadata = .error (unknownEffect key)) ∨
    ∃ old effects' r, getEffect effects key = some old ∧
      markEffectFailed effects key failedAt error metadata = .ok effects' ∧
        getEffect effects' key = some r ∧
      r.status = .failed ∧ r.failedAt = some failedAt ∧ r.error = some error ∧
        ∀ field ∈ metadata, field ∈ r.metadata := by
  unfold markEffectFailed
  cases hold : getEffect effects key with
  | none => exact .inl ⟨rfl, rfl⟩
  | some old =>
    right
    obtain ⟨r, hr, hst, hat, herr, hmeta⟩ := @getEffect_upsert effects
      { effectKey := key, deviceId := old.deviceId, actionType := old.actionType, status := .failed
        failedAt := some failedAt, error := some error, metadata :=
          mergeMetadata old.metadata metadata }
    refine ⟨old, _, r, rfl, rfl, hr, hst, hat, herr, fun field hfield => ?_⟩
    rw [hmeta]
    exact mem_mergeMetadata hfield

end Lemmas

end TemperatureMonitor
