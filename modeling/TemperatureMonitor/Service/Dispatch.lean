/-
# Dispatching projected samples

`recover_pending_dispatches`, a scheduler tick step by step, between the writes
of the request threads: it reads the devices whose projected watermark is beyond
the dispatched one, and for each the stored sample, its presence and the state
again; it hands the sample to the listeners and, if they took it, advances the
dispatched watermark. The two watermarks with the tick are a producer and a
consumer (`Library.Progress`).

A request persists its sample, notes its time and, once it is projected, marks
the success; it does so too where the sample was not stored (`refused_projected`).
The retry projects the latest sample stored.
-/
import TemperatureMonitor.Library.Progress
import TemperatureMonitor.Store.Presence
import TemperatureMonitor.Store.ProjectionState

namespace TemperatureMonitor

/-! ### The tick -/

/-- `sample_from_row`. -/
def sampleFromRow (device : String) (row : SampleRow) (nowMs : ℤ)
    (presence : Option DevicePresence) : ObservedSample :=
  let measurementMs := match presence with
    | some p => p.lastMeasurementAtMs
    | none => some nowMs
  { deviceId := device
    sampleTime := fromTimestampMs nowMs
    temperature := row.temperature
    humidity := row.humidity
    onlineStatus := some row.status
    dataQuality := if row.status = "offline" then some .offline else none
    recordType := "MEASUREMENT"
    measurementTime := measurementMs.map fromTimestampMs
    heartbeatTime := (presence.bind (·.lastHeartbeatAtMs)).map fromTimestampMs
    availability := some (match presence with | some p => p.availability | none => row.status) }

/-- How far the tick is with the first device of its list. -/
inductive DispatchPhase
  | idle
  /-- The projected sample has no row. -/
  | missing
  | found (row : SampleRow)
  | built (sample : ObservedSample)
  /-- Not dispatched before. -/
  | unsent (sample : ObservedSample)
  | accepted
deriving DecidableEq

structure DispatchTick where
  pending : List (String × ℤ)
  phase : DispatchPhase := .idle
deriving DecidableEq

/-- A sample between its persisting and the mark of its projection: a request
notes it first, the retry does not. -/
structure Projecting where
  device : String
  sampleTimeMs : ℤ
  noted : Bool
deriving DecidableEq

/-- The tables, what the requests and the retry are about, and the tick that runs. -/
structure DispatchStore where
  samples : List SampleRow := []
  presence : List DevicePresence := []
  states : List ProjectionRow := []
  projecting : List Projecting := []
  tick : Option DispatchTick := none
deriving DecidableEq

/-- `SOURCE_HOME_ASSISTANT`. -/
def sourceHomeAssistant : String := "home_assistant"

/-- The calls of the database: those of the request threads and of the retry
task, and those of the tick, with the failures it lives with. -/
inductive DispatchMove
  /-- `persist_sample`; `save_device_sample` returned whether the sample is stored. -/
  | persisted (row : SampleRow) (heartbeatAtMs : ℤ) (stored : Bool)
  /-- The latest sample is read, by a request that repeats it or by the retry. -/
  | reread (device : String) (t : ℤ) (retry : Bool)
  | noted (device : String) (t : ℤ)
  | projected (device : String) (t : ℤ)
  /-- The request or the retry ends without a success that is marked. -/
  | deferred (p : Projecting)
  | statusWritten (device : String) (status : ProjectionStatus) (retryCount : ℕ) (lastError : Option String)
      (lastAttemptAt projectedAt : Option DateTime)
  | fetched
  | statesUnreadable
  | sampleRead (device : String) (t : ℤ)
  | sampleUnreadable (device : String) (t : ℤ)
  | missingMarked (device : String) (t : ℤ)
  | presenceRead (device : String) (t : ℤ)
  | presenceUnreadable (device : String) (t : ℤ)
  | stateRead (device : String) (t : ℤ)
  | alreadyDispatched (device : String) (t : ℤ)
  | stateUnreadable (device : String) (t : ℤ)
  | notified (device : String) (t : ℤ) (sample : ObservedSample) (listeners : List ListenerCall)
  | marked (device : String) (t : ℤ)
  /-- The mark of what was handed over is not written. -/
  | markLost (device : String) (t : ℤ)
  | ticked
  | crash
deriving DecidableEq

/-- The sample and its presence are written, if it is stored; a request goes on with it in either
case. -/
def DispatchStore.persist (s : DispatchStore) (row : SampleRow) (heartbeatAtMs : ℤ)
    (stored : Bool) : DispatchStore :=
  let offline := row.status = "offline"
  { s with
    samples := if stored then saveDeviceSample s.samples row else s.samples
    presence :=
      if stored then
        upsertDevicePresence s.presence row.device row.source
          (if offline then none else some row.sampleTimeMs) heartbeatAtMs
          (if offline then "offline" else "online") row.temperature row.humidity
      else s.presence
    projecting :=
      if row.source = sourceHomeAssistant then
        s.projecting ++ [⟨row.device, row.sampleTimeMs, false⟩]
      else s.projecting }

/-- The tick goes on with the first device of its list. -/
def DispatchStore.within (s : DispatchStore) (device : String) (t : ℤ)
    (f : List (String × ℤ) → DispatchPhase → Option DispatchStore) : Option DispatchStore :=
  match s.tick with
  | some ⟨e :: rest, phase⟩ => if e = (device, t) then f rest phase else none
  | _ => none

/-- The first device of the tick gets to a phase. -/
def DispatchStore.at (s : DispatchStore) (device : String) (t : ℤ) (rest : List (String × ℤ))
    (phase : DispatchPhase) : DispatchStore := { s with tick := some ⟨(device, t) :: rest, phase⟩ }

/-- The tick is done with its first device. -/
def DispatchStore.next (s : DispatchStore) (rest : List (String × ℤ)) : DispatchStore :=
  { s with tick := some ⟨rest, .idle⟩ }

def DispatchStore.step (s : DispatchStore) : DispatchMove → Option DispatchStore
  | .persisted row heartbeatAtMs stored => some (s.persist row heartbeatAtMs stored)
  | .reread device t retry =>
    if (fetchPreviousDeviceSample s.samples device sourceHomeAssistant).any
        (·.sampleTimeMs = t) then
      some { s with projecting := s.projecting ++ [⟨device, t, retry⟩] }
    else none
  | .noted device t =>
    if ⟨device, t, false⟩ ∈ s.projecting then
      some { s with states := noteProjectionSample s.states device t
                    projecting := s.projecting.erase ⟨device, t, false⟩ ++ [⟨device, t, true⟩] }
    else none
  | .projected device t =>
    if ⟨device, t, true⟩ ∈ s.projecting then
      some { s with states := markProjectionProjected s.states device t
                    projecting := s.projecting.erase ⟨device, t, true⟩ }
    else none
  | .deferred p => some { s with projecting := s.projecting.erase p }
  | .statusWritten device status retryCount lastError lastAttemptAt projectedAt =>
    some { s with states := updateProjectionStatus s.states device status retryCount lastError
                     lastAttemptAt projectedAt }
  | .fetched =>
    if s.tick = none then
      some { s with tick := some ⟨fetchUndispatchedProjectionStates s.states, .idle⟩ } else none
  | .statesUnreadable => if s.tick = none then some s else none
  | .sampleRead device t => s.within device t fun rest phase =>
    if phase = .idle then
      match fetchDeviceSampleAt s.samples device sourceHomeAssistant t with
      | none => some (s.at device t rest .missing)
      | some row => some (s.at device t rest (.found row))
    else none
  | .sampleUnreadable device t => s.within device t fun rest phase =>
    if phase = .idle then some (s.next rest) else none
  | .missingMarked device t => s.within device t fun rest phase =>
    if phase = .missing then
      some { s.next rest with states := markProjectionDispatched s.states device t }
    else none
  | .presenceRead device t => s.within device t fun rest phase =>
    match phase with
    | .found row => some (s.at device t rest (.built (sampleFromRow device row t
        (fetchDevicePresence s.presence device row.source))))
    | _ => none
  | .presenceUnreadable device t => s.within device t fun rest phase =>
    match phase with
    | .found row => some (s.at device t rest (.built (sampleFromRow device row t none)))
    | _ => none
  | .stateRead device t => s.within device t fun rest phase =>
    match phase with
    | .built sample =>
      if (dispatchedOf s.states device).all (· < t) then
        some (s.at device t rest (.unsent sample))
      else none
    | _ => none
  | .alreadyDispatched device t => s.within device t fun rest phase =>
    match phase with
    | .built _ =>
      if (dispatchedOf s.states device).all (· < t) then none else some (s.next rest)
    | _ => none
  | .stateUnreadable device t => s.within device t fun rest phase =>
    match phase with
    | .built sample => some (s.at device t rest (.unsent sample))
    | _ => none
  | .notified device t sample listeners => s.within device t fun rest phase =>
    if phase = .unsent sample then
      if notifySampleListeners listeners then some (s.at device t rest .accepted)
        else some (s.next rest)
    else none
  | .marked device t => s.within device t fun rest phase =>
    if phase = .accepted then
      some { s.next rest with states := markProjectionDispatched s.states device t }
    else none
  | .markLost device t => s.within device t fun rest phase =>
    if phase = .accepted then some (s.next rest) else none
  | .ticked => if s.tick = some ⟨[], .idle⟩ then some { s with tick := none } else none
  | .crash => some { s with tick := none, projecting := [] }

def DispatchStep (s : DispatchStore) (l : DispatchMove) (s' : DispatchStore) : Prop :=
  s.step l = some s'

/-! ### A producer and a consumer -/

def DispatchTick.round (t : DispatchTick) : Round String ℤ :=
  match t.phase, t.pending with
  | .accepted, e :: rest => ⟨rest, some e⟩
  | _, pending => ⟨pending, none⟩

def DispatchStore.progress (s : DispatchStore) : Progress String ℤ :=
  { produced := projectedOf s.states
    consumed := dispatchedOf s.states
    round := s.tick.map (·.round) }

def DispatchMove.progress : DispatchMove → Option (ProgressMove String ℤ)
  | projected device t => some (.produce device t)
  | fetched => some .fetch
  | sampleUnreadable device t => some (.leave device t)
  | missingMarked device t => some (.pass device t)
  | alreadyDispatched device t => some (.leave device t)
  | notified device t _ listeners =>
    some (if notifySampleListeners listeners then .accept device t else .leave device t)
  | marked device t => some (.mark device t)
  | markLost device t => some (.lose device t)
  | ticked => some .finish
  | crash => some .crash
  | _ => none

/-! ### What a call does -/

/-- What a phase has in hand belongs to the first device of the tick. -/
def DispatchPhase.Fits (device : String) (t : ℤ) : DispatchPhase → Prop
  | missing => False
  | built sample => sample.deviceId = device ∧ sample.sampleTime = fromTimestampMs t
  | unsent sample => sample.deviceId = device ∧ sample.sampleTime = fromTimestampMs t
  | _ => True

/-- What a call of the database does, with the guard it does it under. Within a device the tick goes
on with what it has in hand (`onward`) or leaves the device (`left`), whichever call of its it is. -/
inductive DispatchEffect (s : DispatchStore) : DispatchMove → DispatchStore → Prop
  | persisted (row : SampleRow) (heartbeatAtMs : ℤ) (stored : Bool) :
    DispatchEffect s (.persisted row heartbeatAtMs stored) (s.persist row heartbeatAtMs stored)
  | reread {device : String} {t : ℤ} {retry : Bool}
    (hlatest : (fetchPreviousDeviceSample s.samples device sourceHomeAssistant).any
      (·.sampleTimeMs = t)) :
    DispatchEffect s (.reread device t retry)
      { s with projecting := s.projecting ++ [⟨device, t, retry⟩] }
  | noted {device : String} {t : ℤ} (hmem : ⟨device, t, false⟩ ∈ s.projecting) :
    DispatchEffect s (.noted device t)
      { s with states := noteProjectionSample s.states device t
               projecting := s.projecting.erase ⟨device, t, false⟩ ++ [⟨device, t, true⟩] }
  | projected {device : String} {t : ℤ} (hmem : ⟨device, t, true⟩ ∈ s.projecting) :
    DispatchEffect s (.projected device t)
      { s with states := markProjectionProjected s.states device t
               projecting := s.projecting.erase ⟨device, t, true⟩ }
  | deferred (p : Projecting) :
    DispatchEffect s (.deferred p) { s with projecting := s.projecting.erase p }
  | statusWritten (device : String) (status : ProjectionStatus) (retryCount : ℕ)
    (lastError : Option String) (lastAttemptAt projectedAt : Option DateTime) :
    DispatchEffect s
      (.statusWritten device status retryCount lastError lastAttemptAt projectedAt)
      { s with states := updateProjectionStatus s.states device status retryCount lastError
                 lastAttemptAt projectedAt }
  | fetched (hnone : s.tick = none) :
    DispatchEffect s .fetched
      { s with tick := some ⟨fetchUndispatchedProjectionStates s.states, .idle⟩ }
  | unreadable : DispatchEffect s .statesUnreadable s
  | gone {device : String} {t : ℤ} {rest : List (String × ℤ)}
    (htick : s.tick = some ⟨(device, t) :: rest, .idle⟩)
    (hgone : fetchDeviceSampleAt s.samples device sourceHomeAssistant t = none) :
    DispatchEffect s (.sampleRead device t) (s.at device t rest .missing)
  | onward {l : DispatchMove} {device : String} {t : ℤ} {rest : List (String × ℤ)}
    {phase phase' : DispatchPhase} (hl : l.progress = none)
    (htick : s.tick = some ⟨(device, t) :: rest, phase⟩) (hopen : phase ≠ .accepted)
    (hopen' : phase' ≠ .accepted) (hfits : phase.Fits device t → phase'.Fits device t) :
    DispatchEffect s l (s.at device t rest phase')
  | left {l : DispatchMove} {device : String} {t : ℤ} {rest : List (String × ℤ)}
    {phase : DispatchPhase} (hl : l.progress = some (.leave device t))
    (htick : s.tick = some ⟨(device, t) :: rest, phase⟩) (hopen : phase ≠ .accepted) :
    DispatchEffect s l (s.next rest)
  | passed {device : String} {t : ℤ} {rest : List (String × ℤ)}
    (htick : s.tick = some ⟨(device, t) :: rest, .missing⟩) :
    DispatchEffect s (.missingMarked device t)
      { s.next rest with states := markProjectionDispatched s.states device t }
  | accepted {device : String} {t : ℤ} {rest : List (String × ℤ)} {sample : ObservedSample}
    {listeners : List ListenerCall} (htick : s.tick = some ⟨(device, t) :: rest, .unsent sample⟩)
    (hacc : notifySampleListeners listeners = true) :
    DispatchEffect s (.notified device t sample listeners) (s.at device t rest .accepted)
  | marked {device : String} {t : ℤ} {rest : List (String × ℤ)}
    (htick : s.tick = some ⟨(device, t) :: rest, .accepted⟩) :
    DispatchEffect s (.marked device t)
      { s.next rest with states := markProjectionDispatched s.states device t }
  | lost {device : String} {t : ℤ} {rest : List (String × ℤ)}
    (htick : s.tick = some ⟨(device, t) :: rest, .accepted⟩) :
    DispatchEffect s (.markLost device t) (s.next rest)
  | ticked (htick : s.tick = some ⟨[], .idle⟩) : DispatchEffect s .ticked { s with tick := none }
  | crash : DispatchEffect s .crash { s with tick := none, projecting := [] }

section Simulation

variable {s s' : DispatchStore} {l : DispatchMove} {ls : List DispatchMove}
  {m : ProgressMove String ℤ} {device : String}
  {t : ℤ} {rest pending : List (String × ℤ)} {phase phase' : DispatchPhase}

/-- The tick was at its first device. -/
theorem within_some {f : List (String × ℤ) → DispatchPhase → Option DispatchStore}
    (h : s.within device t f = some s') :
    ∃ rest phase, s.tick = some ⟨(device, t) :: rest, phase⟩ ∧ f rest phase = some s' := by
  unfold DispatchStore.within at h
  split at h
  · rename_i e rest phase htick
    split_ifs at h with he
    rw [he] at htick
    exact ⟨rest, phase, htick, h⟩
  · cases h

/-- Everything a call can do. -/
theorem DispatchStep.effect (h : DispatchStep s l s') : DispatchEffect s l s' := by
  cases l with
  | persisted row heartbeatAtMs stored =>
    rw [← Option.some.inj h]
    exact .persisted row heartbeatAtMs stored
  | reread device t retry =>
    simp only [DispatchStep, DispatchStore.step] at h
    split_ifs at h with hlatest
    rw [← Option.some.inj h]
    exact .reread hlatest
  | noted device t =>
    simp only [DispatchStep, DispatchStore.step] at h
    split_ifs at h with hmem
    rw [← Option.some.inj h]
    exact .noted hmem
  | projected device t =>
    simp only [DispatchStep, DispatchStore.step] at h
    split_ifs at h with hmem
    rw [← Option.some.inj h]
    exact .projected hmem
  | deferred p =>
    rw [← Option.some.inj h]
    exact .deferred p
  | statusWritten device status retryCount lastError lastAttemptAt projectedAt =>
    rw [← Option.some.inj h]
    exact .statusWritten device status retryCount lastError lastAttemptAt projectedAt
  | fetched =>
    simp only [DispatchStep, DispatchStore.step] at h
    split_ifs at h with hnone
    rw [← Option.some.inj h]
    exact .fetched hnone
  | statesUnreadable =>
    simp only [DispatchStep, DispatchStore.step] at h
    split_ifs at h
    rw [← Option.some.inj h]
    exact .unreadable
  | sampleRead device t =>
    obtain ⟨rest, phase, htick, h⟩ := within_some h
    split_ifs at h with hphase
    subst hphase
    split at h
    · rename_i hgone
      rw [← Option.some.inj h]
      exact .gone htick hgone
    · rw [← Option.some.inj h]
      exact .onward rfl htick DispatchPhase.noConfusion DispatchPhase.noConfusion fun _ => trivial
  | sampleUnreadable device t =>
    obtain ⟨rest, phase, htick, h⟩ := within_some h
    split_ifs at h with hphase
    subst hphase
    rw [← Option.some.inj h]
    exact .left rfl htick DispatchPhase.noConfusion
  | missingMarked device t =>
    obtain ⟨rest, phase, htick, h⟩ := within_some h
    split_ifs at h with hphase
    subst hphase
    rw [← Option.some.inj h]
    exact .passed htick
  | presenceRead device t =>
    obtain ⟨rest, phase, htick, h⟩ := within_some h
    split at h
    · rw [← Option.some.inj h]
      exact .onward rfl htick DispatchPhase.noConfusion DispatchPhase.noConfusion
        fun _ => ⟨rfl, rfl⟩
    · cases h
  | presenceUnreadable device t =>
    obtain ⟨rest, phase, htick, h⟩ := within_some h
    split at h
    · rw [← Option.some.inj h]
      exact .onward rfl htick DispatchPhase.noConfusion DispatchPhase.noConfusion
        fun _ => ⟨rfl, rfl⟩
    · cases h
  | stateRead device t =>
    obtain ⟨rest, phase, htick, h⟩ := within_some h
    split at h
    · split_ifs at h
      rw [← Option.some.inj h]
      exact .onward rfl htick DispatchPhase.noConfusion DispatchPhase.noConfusion id
    · cases h
  | alreadyDispatched device t =>
    obtain ⟨rest, phase, htick, h⟩ := within_some h
    split at h
    · split_ifs at h
      rw [← Option.some.inj h]
      exact .left rfl htick DispatchPhase.noConfusion
    · cases h
  | stateUnreadable device t =>
    obtain ⟨rest, phase, htick, h⟩ := within_some h
    split at h
    · rw [← Option.some.inj h]
      exact .onward rfl htick DispatchPhase.noConfusion DispatchPhase.noConfusion id
    · cases h
  | notified device t sample listeners =>
    obtain ⟨rest, phase, htick, h⟩ := within_some h
    split_ifs at h with hphase hacc
    · subst hphase
      rw [← Option.some.inj h]
      exact .accepted htick hacc
    · subst hphase
      rw [← Option.some.inj h]
      exact .left (congrArg some (if_neg hacc)) htick DispatchPhase.noConfusion
  | marked device t =>
    obtain ⟨rest, phase, htick, h⟩ := within_some h
    split_ifs at h with hphase
    subst hphase
    rw [← Option.some.inj h]
    exact .marked htick
  | markLost device t =>
    obtain ⟨rest, phase, htick, h⟩ := within_some h
    split_ifs at h with hphase
    subst hphase
    rw [← Option.some.inj h]
    exact .lost htick
  | ticked =>
    simp only [DispatchStep, DispatchStore.step] at h
    split_ifs at h with htick
    rw [← Option.some.inj h]
    exact .ticked htick
  | crash =>
    rw [← Option.some.inj h]
    exact .crash

theorem round_of_ne (h : phase ≠ .accepted) :
    (DispatchTick.mk pending phase).round = ⟨pending, none⟩ := by
  unfold DispatchTick.round
  split
  · rename_i hphase _
    exact absurd hphase h
  · rfl

theorem round_progress (htick : s.tick = some ⟨pending, phase⟩) (h : phase ≠ .accepted) :
    s.progress.round = some ⟨pending, none⟩ := by
  show s.tick.map (·.round) = _
  rw [htick, Option.map_some, round_of_ne h]

theorem round_accepted (htick : s.tick = some ⟨(device, t) :: rest, .accepted⟩) :
    s.progress.round = some ⟨rest, some (device, t)⟩ := by
  show s.tick.map (·.round) = _
  rw [htick]
  rfl

/-- Within a device the round stays, up to where it is accepted. -/
theorem progress_at (htick : s.tick = some ⟨(device, t) :: rest, phase⟩) (h : phase ≠ .accepted)
    (h' : phase' ≠ .accepted) : (s.at device t rest phase').progress = s.progress := by
  have hround : (s.at device t rest phase').progress.round = s.progress.round :=
    (round_progress rfl h').trans (round_progress htick h).symm
  exact congrArg (Progress.mk (projectedOf s.states) (dispatchedOf s.states)) hround

theorem progress_next :
    (s.next rest).progress = { s.progress with round := some { pending := rest } } := rfl

/-- The dispatched watermark is advanced. -/
theorem progress_dispatched :
    ({ s.next rest with states := markProjectionDispatched s.states device t } :
    DispatchStore).progress = s.progress.consume device t rest := by
  unfold DispatchStore.progress Progress.consume
  simp only [projectedOf_dispatched, dispatchedOf_dispatched]
  rfl

theorem dispatch_step_none (h : DispatchStep s l s') (hl : l.progress = none) :
    s'.progress = s.progress := by
  cases h.effect with
  | persisted => rfl
  | reread => rfl
  | noted =>
    unfold DispatchStore.progress
    simp only [projectedOf_note, dispatchedOf_note]
  | deferred => rfl
  | statusWritten =>
    unfold DispatchStore.progress
    simp only [projectedOf_status, dispatchedOf_status]
  | unreadable => rfl
  | gone htick => exact progress_at htick DispatchPhase.noConfusion DispatchPhase.noConfusion
  | onward _ htick hopen hopen' => exact progress_at htick hopen hopen'
  | left hleave =>
    rw [hl] at hleave
    cases hleave
  | accepted _ hacc =>
    rw [DispatchMove.progress, hacc] at hl
    cases hl
  | _ => cases hl

/-- **A call of the database is a move of the two watermarks.** -/
theorem dispatch_step_some (hn : (s.states.map (·.device)).Nodup) (h : DispatchStep s l s')
    (hl : l.progress = some m) : Progresses s.progress m s'.progress := by
  cases h.effect with
  | @projected device t _ =>
    obtain rfl := Option.some.inj hl
    have hproduce : ({ s with states := markProjectionProjected s.states device t
                              projecting :=
                                s.projecting.erase ⟨device, t, true⟩ } : DispatchStore).progress =
        s.progress.supply device t := by
      unfold DispatchStore.progress Progress.supply
      simp only [projectedOf_projected, dispatchedOf_projected]
    rw [hproduce]
    exact .produce device t
  | fetched hnone =>
    obtain rfl := Option.some.inj hl
    have hround : s.progress.round = none := by
      show s.tick.map (·.round) = none
      rw [hnone]
      rfl
    exact .fetch _ hround (nodup_fetchUndispatched hn) fun e he => mem_fetchUndispatched hn he
  | @left _ device t rest phase hleave htick hopen =>
    obtain rfl := Option.some.inj (hleave.symm.trans hl)
    rw [progress_next]
    exact .leave device t rest (round_progress htick hopen)
  | @passed device t rest htick =>
    obtain rfl := Option.some.inj hl
    rw [progress_dispatched]
    exact .pass device t rest (round_progress htick DispatchPhase.noConfusion)
  | @accepted device t rest _ _ htick hacc =>
    obtain rfl := Option.some.inj hl
    rw [if_pos hacc]
    exact .accept device t rest (round_progress htick DispatchPhase.noConfusion)
  | @marked device t rest htick =>
    obtain rfl := Option.some.inj hl
    rw [progress_dispatched]
    exact .mark device t rest (round_accepted htick)
  | @lost device t rest htick =>
    obtain rfl := Option.some.inj hl
    rw [progress_next]
    exact .lose device t rest (round_accepted htick)
  | ticked htick =>
    obtain rfl := Option.some.inj hl
    exact .finish (round_progress htick DispatchPhase.noConfusion)
  | crash =>
    obtain rfl := Option.some.inj hl
    exact .crash
  | onward hnone =>
    rw [hl] at hnone
    cases hnone
  | _ => cases hl

/-! ### What is stored -/

/-- The sample of a device at a time is stored. -/
def DispatchStore.Stored (s : DispatchStore) (device : String) (t : ℤ) : Prop :=
  (fetchDeviceSampleAt s.samples device sourceHomeAssistant t).isSome

/-- The sample whose projection is marked is stored. -/
def ProjectsStored (s : DispatchStore) (l : DispatchMove) : Prop :=
  ∀ device t, l = .projected device t → s.Stored device t

/-- A projected sample is stored, and so the tick misses none. -/
structure DispatchInv (s : DispatchStore) : Prop where
  devices : (s.states.map (·.device)).Nodup
  projected : ∀ device t, projectedOf s.states device = some t → s.Stored device t
  pending : ∀ tick, s.tick = some tick → ∀ e ∈ tick.pending, s.Stored e.1 e.2
  phase : ∀ device t rest phase, s.tick = some ⟨(device, t) :: rest, phase⟩ → phase.Fits device t

theorem dispatchInv_init : DispatchInv {} :=
  ⟨.nil, fun _ _ h => (by cases h), fun _ h => (by cases h), fun _ _ _ _ h => (by cases h)⟩

theorem DispatchInv.at (h : DispatchInv s) (htick : s.tick = some ⟨(device, t) :: rest, phase⟩)
    (hfits : phase'.Fits device t) : DispatchInv (s.at device t rest phase') := by
  refine ⟨h.devices, h.projected, fun tick htick' e he => ?_, fun d u r p htick' => ?_⟩
  · rw [← Option.some.inj htick'] at he
    exact h.pending _ htick e he
  · have heq := Option.some.inj htick'
    simp only [DispatchTick.mk.injEq, List.cons.injEq, Prod.mk.injEq] at heq
    obtain ⟨⟨⟨rfl, rfl⟩, -⟩, rfl⟩ := heq
    exact hfits

theorem DispatchInv.next (h : DispatchInv s) (htick : s.tick = some ⟨(device, t) :: rest, phase⟩) :
    DispatchInv (s.next rest) := by
  refine ⟨h.devices, h.projected, fun tick htick' e he => ?_, fun d u r p htick' => ?_⟩
  · rw [← Option.some.inj htick'] at he
    exact h.pending _ htick e (List.mem_cons_of_mem _ he)
  · have heq := Option.some.inj htick'
    simp only [DispatchTick.mk.injEq] at heq
    rw [← heq.2]
    trivial

/-- An update of the states that supplies only what is stored. -/
theorem DispatchInv.touch (h : DispatchInv s) {f : ProjectionRow → ProjectionRow}
    (hf : ∀ d u, projectedOf (touchProjection s.states device f) d = some u →
      projectedOf s.states d = some u ∨ s.Stored d u) (projecting : List Projecting) :
    DispatchInv { s with states := touchProjection s.states device f, projecting } :=
  ⟨nodup_touchProjection h.devices, fun d u hu =>
    (hf d u hu).elim (h.projected d u) id, h.pending, h.phase⟩

/-- A sample that is stored stays so. -/
theorem stored_persist (row : SampleRow) (heartbeatAtMs : ℤ) (stored : Bool)
    (h : s.Stored device t) : (s.persist row heartbeatAtMs stored).Stored device t := by
  cases stored with
  | true => exact fetch_saveDeviceSample h
  | false => exact h

theorem DispatchInv.step (h : DispatchInv s) (hs : Guarded ProjectsStored DispatchStep s l s') :
    DispatchInv s' := by
  obtain ⟨hstored, hs⟩ := hs
  cases hs.effect with
  | persisted row heartbeatAtMs stored =>
    exact ⟨h.devices, fun d u hu => stored_persist row heartbeatAtMs stored (h.projected d u hu),
      fun tick htick e he =>
        stored_persist row heartbeatAtMs stored (h.pending tick htick e he), h.phase⟩
  | reread => exact ⟨h.devices, h.projected, h.pending, h.phase⟩
  | noted =>
    refine h.touch (fun d u hu => .inl ?_) _
    rw [← hu]
    exact congrFun projectedOf_note.symm d
  | deferred => exact ⟨h.devices, h.projected, h.pending, h.phase⟩
  | @projected device t _ =>
    refine h.touch (fun d u hu => ?_) _
    have hu' : u ∈ Function.update (projectedOf s.states)
        device (advance (projectedOf s.states device) t) d := by
      rw [← projectedOf_projected]
      exact hu
    rcases Progress.mem_update hu' with ⟨rfl, rfl⟩ | hold
    · exact .inr (hstored _ _ rfl)
    · exact .inl hold
  | statusWritten =>
    refine h.touch (fun d u hu => .inl ?_) _
    rw [← hu]
    exact congrFun projectedOf_status.symm d
  | fetched =>
    refine ⟨h.devices, h.projected, fun tick htick e he => ?_, fun d u r p htick => ?_⟩
    · rw [← Option.some.inj htick] at he
      exact h.projected e.1 e.2 (mem_fetchUndispatched h.devices he).1
    · have heq := Option.some.inj htick
      simp only [DispatchTick.mk.injEq] at heq
      rw [← heq.2]
      trivial
  | unreadable => exact h
  | @gone device t _ htick hgone =>
    -- what the tick has fetched is stored, so no read comes back empty
    have hst : s.Stored device t := h.pending _ htick (device, t) List.mem_cons_self
    unfold DispatchStore.Stored at hst
    rw [hgone] at hst
    cases hst
  | onward _ htick _ _ hfits => exact h.at htick (hfits (h.phase _ _ _ _ htick))
  | left _ htick => exact h.next htick
  | passed htick => exact (h.phase _ _ _ _ htick).elim
  | accepted htick => exact h.at htick trivial
  | marked htick =>
    refine (h.next htick).touch (fun d u hu => .inl ?_) _
    rw [← hu]
    exact congrFun projectedOf_dispatched.symm d
  | lost htick => exact h.next htick
  | ticked =>
    exact ⟨h.devices, h.projected, fun _ h => (by cases h), fun _ _ _ _ h => (by cases h)⟩
  | crash =>
    exact ⟨h.devices, h.projected, fun _ h => (by cases h), fun _ _ _ _ h => (by cases h)⟩

theorem dispatchInv_run (h : Run (Guarded ProjectsStored DispatchStep) {} ls s) : DispatchInv s :=
  h.inv dispatchInv_init fun _ _ _ => DispatchInv.step

/-- **The tick never misses a sample.** -/
theorem no_missingMarked (h : Run (Guarded ProjectsStored DispatchStep) {} ls s)
    (hs : DispatchStep s (.missingMarked device t) s') : False := by
  obtain ⟨rest, phase, htick, hs⟩ := within_some hs
  split_ifs at hs with hphase
  have hfits := (dispatchInv_run h).phase _ _ _ _ htick
  rw [hphase] at hfits
  exact hfits

/-- What the listeners get is the sample of the device at the time. -/
theorem notified_sample {sample : ObservedSample} {listeners : List ListenerCall}
    (h : Run (Guarded ProjectsStored DispatchStep) {} ls s)
    (hs : DispatchStep s (.notified device t sample listeners) s') :
    sample.deviceId = device ∧ sample.sampleTime = fromTimestampMs t := by
  obtain ⟨rest, phase, htick, hs⟩ := within_some hs
  split_ifs at hs with hphase
  all_goals
    have hfits := (dispatchInv_run h).phase _ _ _ _ htick
    rw [hphase] at hfits
    exact hfits

/-! ### Samples that are not refused -/

/-- What the requests and the retry are about is stored. -/
def DispatchStore.ProjectsOnlyStored (s : DispatchStore) : Prop :=
  ∀ p ∈ s.projecting, s.Stored p.device p.sampleTimeMs

theorem DispatchStore.ProjectsOnlyStored.step (hall : s.ProjectsOnlyStored)
    (hs : DispatchStep s l s')
    (hl : ∀ row heartbeatAtMs, l ≠ .persisted row heartbeatAtMs false) : s'.ProjectsOnlyStored := by
  cases hs.effect with
  | persisted row heartbeatAtMs stored =>
    cases stored with
    | false => exact absurd rfl (hl row heartbeatAtMs)
    | true =>
      intro p hp
      have hp' : p ∈ if row.source = sourceHomeAssistant then
          s.projecting ++ [⟨row.device, row.sampleTimeMs, false⟩] else s.projecting := hp
      split_ifs at hp' with hsource
      · rcases List.mem_append.mp hp' with hold | hnew
        · exact stored_persist row heartbeatAtMs true (hall p hold)
        · rw [List.mem_singleton.mp hnew]
          have hself := fetch_saveDeviceSample_self s.samples row
          rw [hsource] at hself
          exact Option.isSome_iff_exists.mpr ⟨row, hself⟩
      · exact stored_persist row heartbeatAtMs true (hall p hp')
  | reread hlatest =>
    intro p hp
    rcases List.mem_append.mp hp with hold | hnew
    · exact hall p hold
    · rw [List.mem_singleton.mp hnew]
      obtain ⟨row, hrow, htime⟩ := Option.any_eq_true _ _ |>.mp hlatest
      obtain rfl := of_decide_eq_true htime
      exact fetch_of_previous hrow
  | @noted device t hmem =>
    intro p hp
    rcases List.mem_append.mp hp with hold | hnew
    · exact hall p (List.mem_of_mem_erase hold)
    · rw [List.mem_singleton.mp hnew]
      exact hall ⟨device, t, false⟩ hmem
  | projected => exact fun p hp => hall p (List.mem_of_mem_erase hp)
  | deferred => exact fun p hp => hall p (List.mem_of_mem_erase hp)
  | crash => exact fun p hp => absurd hp List.not_mem_nil
  -- the rest leaves the samples and the requests
  | _ => exact hall

/-- **Where every sample persisted is stored, only stored samples are marked projected.** -/
theorem projects_stored (h : Run DispatchStep {} ls s)
    (hno : ∀ row heartbeatAtMs, .persisted row heartbeatAtMs false ∉ ls) :
    Run (Guarded ProjectsStored DispatchStep) {} ls s ∧ s.ProjectsOnlyStored := by
  induction h with
  | nil => exact ⟨.nil, fun p hp => absurd hp List.not_mem_nil⟩
  | @snoc ls t l u _ hs ih =>
    obtain ⟨hrun, hall⟩ := ih fun row at_ hmem => hno row at_ (List.mem_append_left _ hmem)
    refine ⟨hrun.snoc ⟨fun device t hl => ?_, hs⟩, hall.step hs fun row at_ hl => hno row at_ ?_⟩
    · rw [hl] at hs
      simp only [DispatchStep, DispatchStore.step] at hs
      split_ifs at hs with hmem
      exact hall _ hmem
    · rw [hl]
      exact List.mem_append_right _ (List.mem_singleton_self _)

/-! ### The watermarks of a run -/

/-- The updates of the states, none of which lets a watermark fall. -/
inductive StateWrite (rows : List ProjectionRow) : List ProjectionRow → Prop
  | kept : StateWrite rows rows
  | noted (device : String) (t : ℤ) : StateWrite rows (noteProjectionSample rows device t)
  | projected (device : String) (t : ℤ) : StateWrite rows (markProjectionProjected rows device t)
  | dispatched (device : String) (t : ℤ) : StateWrite rows (markProjectionDispatched rows device t)
  | status (device : String) (status : ProjectionStatus) (retryCount : ℕ) (lastError : Option String)
      (lastAttemptAt projectedAt : Option DateTime) :
      StateWrite rows
        (updateProjectionStatus rows device status retryCount lastError lastAttemptAt projectedAt)

theorem StateWrite.within {rows rows' : List ProjectionRow} (h : StateWrite rows rows')
    (d : String) :
    Within (sampledOf rows d) (sampledOf rows' d) ∧
      Within (projectedOf rows d) (projectedOf rows' d) ∧
      Within (dispatchedOf rows d) (dispatchedOf rows' d) := by
  cases h with
  | kept => exact ⟨within_refl _, within_refl _, within_refl _⟩
  | noted device t =>
    rw [sampledOf_note, projectedOf_note, dispatchedOf_note]
    exact ⟨Progress.within_update, within_refl _, within_refl _⟩
  | projected device t =>
    rw [sampledOf_projected, projectedOf_projected, dispatchedOf_projected]
    exact ⟨within_refl _, Progress.within_update, within_refl _⟩
  | dispatched device t =>
    rw [sampledOf_dispatched, projectedOf_dispatched, dispatchedOf_dispatched]
    exact ⟨within_refl _, within_refl _, Progress.within_update⟩
  | status =>
    rw [sampledOf_status, projectedOf_status, dispatchedOf_status]
    exact ⟨within_refl _, within_refl _, within_refl _⟩

theorem DispatchStep.stateWrite (h : DispatchStep s l s') : StateWrite s.states s'.states := by
  cases h.effect with
  | noted => exact .noted _ _
  | projected => exact .projected _ _
  | statusWritten => exact .status _ _ _ _ _ _
  | passed => exact .dispatched _ _
  | marked => exact .dispatched _ _
  | _ => exact .kept

theorem watermarks_run (h : Run DispatchStep s ls s') (d : String) :
    Within (sampledOf s.states d) (sampledOf s'.states d) ∧
      Within (projectedOf s.states d) (projectedOf s'.states d) ∧
      Within (dispatchedOf s.states d) (dispatchedOf s'.states d) := by
  refine h.inv (I := fun x => Within (sampledOf s.states d) (sampledOf x.states d) ∧
    Within (projectedOf s.states d) (projectedOf x.states d) ∧
    Within (dispatchedOf s.states d) (dispatchedOf x.states d))
      ⟨within_refl _, within_refl _, within_refl _⟩ ?_
  intro a l b hi hs
  obtain ⟨hsampled, hprojected, hdispatched⟩ := hs.stateWrite.within d
  exact ⟨hi.1.trans hsampled, hi.2.1.trans hprojected, hi.2.2.trans hdispatched⟩

/-- **The two watermarks progress.** -/
theorem dispatch_progresses (h : Run (Guarded ProjectsStored DispatchStep) {} ls s) :
    Run Progresses {} (ls.filterMap (·.progress)) s.progress := by
  refine h.filterMap (p := DispatchStore.progress) (fun _ _ _ hs => dispatch_step_none hs.2) ?_
  intro ks a l b m hr _ hs hl
  exact dispatch_step_some (dispatchInv_run hr).devices hs.2 hl

theorem accept_mem : .accept device t ∈ ls.filterMap (·.progress) ↔
    ∃ sample listeners, .notified device t sample listeners ∈ ls ∧
      notifySampleListeners listeners = true := by
  rw [List.mem_filterMap]
  constructor
  · rintro ⟨l, hl, hm⟩
    cases l with
    | notified d u sample listeners =>
      cases hacc : notifySampleListeners listeners with
      | true =>
        rw [DispatchMove.progress, hacc] at hm
        cases hm
        exact ⟨sample, listeners, hl, hacc⟩
      | false =>
        rw [DispatchMove.progress, hacc] at hm
        cases hm
    | _ => cases hm
  · rintro ⟨sample, listeners, hl, hacc⟩
    refine ⟨_, hl, ?_⟩
    rw [DispatchMove.progress, hacc]
    rfl

/-- The move of the database that a move of the watermarks comes from, where it is one. -/
def databaseMove : ProgressMove String ℤ → Option DispatchMove
  | .produce device t => some (.projected device t)
  | .fetch => some .fetched
  | .mark device t => some (.marked device t)
  | .lose device t => some (.markLost device t)
  | .pass device t => some (.missingMarked device t)
  | .finish => some .ticked
  | .crash => some .crash
  | .leave .. | .accept .. => none

theorem progress_iff {k : DispatchMove} (h : databaseMove m = some l) :
    k.progress = some m ↔ k = l := by
  constructor
  · intro hk
    cases k with
    | notified device t sample listeners =>
      obtain rfl := Option.some.inj hk
      split_ifs at h
      all_goals cases h
    | sampleUnreadable | alreadyDispatched =>
      cases hk
      cases h
    | projected | fetched | missingMarked | marked | markLost | ticked | crash =>
      cases hk
      exact Option.some.inj h
    | _ => cases hk
  · rintro rfl
    cases m with
    | leave => cases h
    | accept => cases h
    | _ =>
      cases h
      rfl

theorem pass_not_mem (h : Run (Guarded ProjectsStored DispatchStep) {} ls s) :
    .pass device t ∉ ls.filterMap (·.progress) := by
  rw [mem_filterMap_iff fun k => progress_iff rfl]
  intro hl
  obtain ⟨pre, post, rfl⟩ := List.append_of_mem hl
  obtain ⟨a, b, hpre, hs, -⟩ := h.at_label
  exact no_missingMarked hpre hs.2

/-- **The watermarks of every run** in which only stored samples are marked
projected: none falls; what is dispatched was projected and what is projected is
stored; the samples accepted for a device come in the order of their times, one
again only after a crash, or a mark that was not written, before it was marked;
and a projected sample that the dispatched watermark has come by was accepted,
or a newer one was projected. -/
theorem watermarks_kept (h : Run (Guarded ProjectsStored DispatchStep) {} ls s) :
    (∀ ks s', Run DispatchStep s ks s' →
      ∀ d, Within (sampledOf s.states d) (sampledOf s'.states d) ∧
      Within (projectedOf s.states d) (projectedOf s'.states d) ∧
      Within (dispatchedOf s.states d) (dispatchedOf s'.states d)) ∧
    (∀ d, Within (dispatchedOf s.states d) (projectedOf s.states d)) ∧
    (∀ d t, projectedOf s.states d = some t →
      ∃ row ∈ s.samples, row.device = d ∧ row.source = sourceHomeAssistant ∧ t ≤ row.sampleTimeMs) ∧
    (∀ pre mid post d t x k u y j, ls = pre ++ .notified d t x k :: mid ++
      .notified d u y j :: post →
      notifySampleListeners k = true → notifySampleListeners j = true →
      x.deviceId = d ∧ y.deviceId = d ∧ x.sampleTime.instant ≤ y.sampleTime.instant ∧
        (x.sampleTime.instant = y.sampleTime.instant →
          ComesFirst (fun l => l = .crash ∨ l = .markLost d t) (· = .marked d t) mid)) ∧
    (∀ d t, .projected d t ∈ ls → Reached (dispatchedOf s.states d) t →
      (∃ x k, .notified d t x k ∈ ls ∧ notifySampleListeners k = true) ∨ ∃ u, t < u ∧
        .projected d u ∈ ls) := by
  have hrun := dispatch_progresses h
  refine ⟨fun ks s' h' d => watermarks_run h' d, fun d =>
      Progress.consumed_within hrun d, fun d t ht => ?_, ?_,
    fun d t _ hreached => ?_⟩
  · obtain ⟨row, hrow⟩ := Option.isSome_iff_exists.mp ((dispatchInv_run h).projected d t ht)
    obtain ⟨hmem, hkey⟩ := mem_of_rowOf hrow
    simp only [SampleRow.key, Prod.mk.injEq] at hkey
    exact ⟨row, hmem, hkey.1, hkey.2.1, hkey.2.2.ge⟩
  · intro pre mid post d t x k u y j hsplit hk hj
    have haccept : (DispatchMove.notified d t x k).progress = some (.accept d t) := by
      rw [DispatchMove.progress, hk]
      rfl
    have haccept' : (DispatchMove.notified d u y j).progress = some (.accept d u) := by
      rw [DispatchMove.progress, hj]
      rfl
    rw [hsplit, List.filterMap_append, List.filterMap_append, List.filterMap_cons_some haccept,
      List.filterMap_cons_some haccept'] at hrun
    obtain ⟨hle, hagain⟩ := Progress.accepts_ordered hrun
    rw [hsplit] at h
    obtain ⟨b, b', hb, hy, -⟩ := h.at_label
    obtain ⟨a, a', ha, hx, -⟩ := hb.at_label
    obtain ⟨hxd, hxt⟩ := notified_sample ha hx.2
    obtain ⟨hyd, hyt⟩ := notified_sample hb hy.2
    rw [hxt, hyt]
    show x.deviceId = d ∧ y.deviceId = d ∧ t * 1000 ≤ u * 1000 ∧ (t * 1000 = u * 1000 → _)
    refine ⟨hxd, hyd, by omega, fun heq => (hagain (by omega)).of_filterMap ?_ ?_⟩
    · rintro l m hl (rfl | rfl)
      · exact .inl ((progress_iff rfl).mp hl)
      · exact .inr ((progress_iff rfl).mp hl)
    · rintro l rfl
      exact ⟨_, rfl, rfl⟩
  · rcases Progress.consumed_cases hrun hreached with haccept | hpass | ⟨u, hlt, hu⟩
    · exact .inl (accept_mem.mp haccept)
    · exact absurd hpass (pass_not_mem h)
    · exact .inr ⟨u, hlt, (mem_filterMap_iff fun k => progress_iff rfl).mp hu⟩

end Simulation

/-! ### A crash between the listeners and the watermark -/

/-- The moves one after another. -/
def playDispatch (s : DispatchStore) (ls : List DispatchMove) : Option DispatchStore :=
  ls.foldlM DispatchStore.step s

theorem playDispatch_run {ls : List DispatchMove} :
    ∀ {s t : DispatchStore}, playDispatch s ls = some t → Run DispatchStep s ls t := by
  induction ls with
  | nil =>
    intro s t h
    rw [← Option.some.inj h]
    exact .nil
  | cons l ls ih =>
    intro s t h
    obtain ⟨u, hu, hrest⟩ := Option.bind_eq_some_iff.mp h
    exact .cons hu (ih hrest)

def crashedSample : SampleRow := ⟨"A", "home_assistant", 5, some 20, some 50, "online"⟩

/-- The sample is accepted, the process crashes, and the next tick hands it over again. -/
def crashedDispatch : List DispatchMove :=
  let sample :=
    sampleFromRow "A" crashedSample 5
      (some ⟨"A", "home_assistant", some 5, some 6, "online", some 20, some 50⟩)
  let round := [.fetched, .sampleRead "A" 5, .presenceRead "A" 5, .stateRead "A" 5,
    .notified "A" 5 sample [⟨true, .returned⟩]]
  [.persisted crashedSample 6 true, .noted "A" 5, .projected "A" 5] ++ round ++ [.crash] ++ round ++
    [.marked "A" 5, .ticked]

theorem crashed_dispatch_kept : ∃ s, Run DispatchStep {} crashedDispatch s ∧
    dispatchedOf s.states "A" = some 5 ∧
    Within (dispatchedOf s.states "A") (projectedOf s.states "A") := by
  have h : Run DispatchStep {} crashedDispatch ((playDispatch {} crashedDispatch).getD {}) :=
    playDispatch_run (by decide +kernel)
  have hstored := projects_stored h fun row heartbeatAtMs => by simp [crashedDispatch]
  exact ⟨_, h, by decide +kernel, (watermarks_kept hstored.1).2.1 "A"⟩

/-- The sample is not stored, and its request projects it. -/
def refusedProjection : List DispatchMove :=
  [.persisted crashedSample 6 false, .noted "A" 5, .projected "A" 5, .fetched, .sampleRead "A" 5,
      .missingMarked "A" 5,
    .ticked]

/-- **A sample that was refused is projected**: the watermarks come by a time
of which nothing is stored, and nothing is dispatched. -/
theorem refused_projected : ∃ s, Run DispatchStep {} refusedProjection s ∧
    projectedOf s.states "A" = some 5 ∧ dispatchedOf s.states "A" = some 5 ∧ s.samples = [] := by
  have h : Run DispatchStep {} refusedProjection ((playDispatch {} refusedProjection).getD {}) :=
    playDispatch_run (by decide +kernel)
  exact ⟨_, h, by decide +kernel, by decide +kernel, by decide +kernel⟩

end TemperatureMonitor
