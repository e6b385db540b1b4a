/-
# The projection of a sample, call by call

A request persists its sample and notes it, then reads the state of the device
and writes what it makes of it; a retry of the scheduler reads the state, projects
the newest sample, advances the watermark, reads the state again and writes.
Each call holds the lock of the database, their sequence does not, so the state
that is written may be older than a sample noted since. A device that is `ok`
with a sample not projected has a request that has noted and not ended
(`Attended`), as long as no retry overwrites the mark of a request that has
ended and no crash comes before the mark is made (`KeepsMarks`); each step that
does so strands a sample (`no_sample_stranded`).
-/
import TemperatureMonitor.Library.Pool
import TemperatureMonitor.Store.ProjectionState

namespace TemperatureMonitor

/-! ### The helpers -/

/-- What `update_projection_status` is given. -/
structure StatusWrite where
  projectionStatus : ProjectionStatus
  retryCount : ℕ := 0
  lastError : Option String := none
  lastAttemptAt : Option DateTime := none
  projectedAt : Option DateTime := none
deriving DecidableEq

/-- What the update of a remote row raises: the record is deleted, a failure the
retry expects, or one it does not. -/
inductive ProjectionError
  | recordDeleted (text : String)
  | failed (text : String)
  | unexpected (text : String)
deriving DecidableEq

def ProjectionError.text : ProjectionError → String
  | recordDeleted text | failed text | unexpected text => text

/-- `_now_iso`: to the second. -/
def nowIso (now : DateTime) : DateTime := { now with instant := now.instant - now.wall % 1000000 }

/-- `_truncate_error`. -/
def truncateError (text : String) : String :=
  if text.length > 300 then String.ofList (text.toList.take 297) ++ "..." else text

/-- `_has_unprojected_sample`. -/
def ProjectionRow.unprojected (r : ProjectionRow) : Bool :=
  r.lastSampleTimeMs.any fun t => r.lastProjectedSampleTimeMs.all (· < t)

/-- The database as the projection sees it, with the samples of the Home Assistant source. -/
structure ProjectionStore where
  samples : List (String × ℤ) := []
  rows : List ProjectionRow := []

inductive ProjectionCall
  | saveSample (device : String) (sampleTimeMs : ℤ)
  | noteSample (device : String) (sampleTimeMs : ℤ)
  | fetchState (device : String)
  /-- `fetch_previous_device_sample`. -/
  | latestSample (device : String)
  /-- The update of the remote row. -/
  | project (device : String) (sampleTimeMs : ℤ)
  | markProjected (device : String) (sampleTimeMs : ℤ)
  | updateStatus (device : String) (w : StatusWrite)

abbrev ProjectionCall.Answer : ProjectionCall → Type
  | fetchState _ => Option ProjectionRow
  | latestSample _ => Option ℤ
  | _ => Unit

abbrev ProjectionProg := Prog ProjectionCall ProjectionCall.Answer ProjectionError

/-- `_fetch_state`. -/
def fetchState (device : String) : ProjectionProg ProjectionRow := do
  let state ← .perform (ProjectionCall.fetchState device)
  pure (state.getD { device })

abbrev writeStatus (device : String) (w : StatusWrite) : ProjectionProg Unit :=
  .perform (ProjectionCall.updateStatus device w)

/-- What `mark_projection_queued` writes, if anything. -/
def queuedWrite (newSample : Bool) (state : ProjectionRow) : Option StatusWrite :=
  if state.projectionStatus = .failed ∧ newSample ∧ state.unprojected then
    some { projectionStatus := .pending, projectedAt := state.projectedAt }
  else if state.projectionStatus ≠ .ok then none
  else some { projectionStatus := .pending, projectedAt := state.projectedAt }

/-- What `mark_projection_failure` writes of a failure that is no deleted record. -/
def failureWrite (error : String) (now : DateTime) (newSample : Bool) (state : ProjectionRow) :
    Option StatusWrite :=
  if state.projectionStatus = .remoteRecordDeleted then none
  else
    let rearmed := state.projectionStatus = .ok ∨ state.projectionStatus = .failed ∧ newSample ∧
      state.unprojected
    some { projectionStatus := if rearmed then .pending else state.projectionStatus
           retryCount := if rearmed then 0 else state.retryCount
           lastError := some (truncateError error), lastAttemptAt :=
             some (nowIso now), projectedAt := state.projectedAt }

/-- How a request ends: its projection is left to the scheduler, or was tried and failed. -/
inductive SampleMark
  | queued
  | failure (error : String) (now : DateTime)

def SampleMark.write : SampleMark → ProjectionRow → Option StatusWrite
  | queued => queuedWrite true
  | failure error now => failureWrite error now true

/-- `mark_projection_queued` and `mark_projection_failure`, for a new sample. -/
def markSample (device : String) (mark : SampleMark) : ProjectionProg Unit := do
  let state ← fetchState device
  match mark.write state with
  | some w => writeStatus device w
  | none => pure ()

/-- A request with a new sample that is not projected inline. -/
def handleSampleRequest (device : String) (sampleTimeMs : ℤ) (mark : SampleMark) :
    ProjectionProg Unit := do
  .perform (ProjectionCall.saveSample device sampleTimeMs)
  .perform (ProjectionCall.noteSample device sampleTimeMs)
  markSample device mark

/-- What `mark_projection_success` writes. -/
def successWrite (sampleTimeMs : Option ℤ) (now : DateTime) (previous : ProjectionRow) :
    StatusWrite :=
  let hasNewerSample := sampleTimeMs.any fun t => previous.lastSampleTimeMs.any (t < ·)
  { projectionStatus := if hasNewerSample then .pending else .ok
    lastAttemptAt := if hasNewerSample then none else previous.lastAttemptAt
    projectedAt := some (nowIso now) }

def markProjectionSuccess (device : String) (sampleTimeMs : Option ℤ) (now : DateTime) :
    ProjectionProg Unit := do
  match sampleTimeMs with
  | some t => .perform (ProjectionCall.markProjected device t)
  | none => pure ()
  let previous ← fetchState device
  writeStatus device (successWrite sampleTimeMs now previous)

def markProjectionRemoteRecordDeleted (device : String) (error : ProjectionError) (now : DateTime) :
    ProjectionProg Unit := do
  let state ← fetchState device
  writeStatus device
    { projectionStatus := .remoteRecordDeleted, retryCount := state.retryCount, lastError := some (truncateError error.text)
      lastAttemptAt := some (nowIso now), projectedAt := state.projectedAt }

def markRetryAttemptFailed (maxRetries : ℕ) (device : String) (error : ProjectionError)
    (now : DateTime) : ProjectionProg Unit := do
  let state ← fetchState device
  writeStatus device
    { projectionStatus := if maxRetries ≤ state.retryCount + 1 then .failed else .pending
      retryCount := state.retryCount + 1, lastError := some (truncateError error.text)
      lastAttemptAt := some (nowIso now), projectedAt := state.projectedAt }

def retryDeviceProjection (maxRetries : ℕ) (device : String) (now : DateTime) :
    ProjectionProg Unit := do
  let state ← .perform (ProjectionCall.fetchState device)
  if state.all fun r => r.projectionStatus ≠ .pending then pure ()
  else
    match ← (.perform (ProjectionCall.latestSample device) : ProjectionProg _) with
    | none => markProjectionSuccess device none now
    | some t =>
      match ← ((.perform (ProjectionCall.project device t) : ProjectionProg Unit)).captured with
      | .ok () => markProjectionSuccess device (some t) now
      | .error (.recordDeleted text) =>
        markProjectionRemoteRecordDeleted device (.recordDeleted text) now
      | .error (.failed text) => do
        markRetryAttemptFailed maxRetries device (.failed text) now
        throw (.failed text)
      | .error (.unexpected text) => throw (.unexpected text)

/-- `requeue_failed_projection_states`. -/
def requeueFailedProjectionStates (rows : List ProjectionRow) : List ProjectionRow :=
  (rows.filter (·.projectionStatus = .failed)).foldl (fun rows' r =>
    if r.device = "" ∨ r.unprojected = false then rows'
    else updateProjectionStatus rows' r.device .pending 0 none none r.projectedAt) rows

/-! ### The system -/

/-- The newest sample of a device. -/
def latestSampleOf (samples : List (String × ℤ)) (device : String) : Option ℤ :=
  ((samples.filter fun x => x.1 = device).map Prod.snd).max?

def StatusWrite.apply (w : StatusWrite) (rows : List ProjectionRow) (device : String) :
    List ProjectionRow :=
  updateProjectionStatus rows device w.projectionStatus w.retryCount w.lastError w.lastAttemptAt
    w.projectedAt

/-- One call: the database does what it is asked, the network answers as it likes. -/
def ProjectionAnswers (s : ProjectionStore) : (c : ProjectionCall) →
    Except ProjectionError c.Answer → ProjectionStore → Prop
  | .saveSample device t, r, s' => r = .ok () ∧ s' = { s with samples := (device, t) :: s.samples }
  | .noteSample device t, r, s' =>
    r = .ok () ∧ s' = { s with rows := noteProjectionSample s.rows device t }
  | .fetchState device, r, s' => r = .ok (fetchProjectionState s.rows device) ∧ s' = s
  | .latestSample device, r, s' => r = .ok (latestSampleOf s.samples device) ∧ s' = s
  | .project .., _, s' => s' = s
  | .markProjected device t, r, s' =>
    r = .ok () ∧ s' = { s with rows := markProjectionProjected s.rows device t }
  | .updateStatus device w, r, s' => r = .ok () ∧ s' = { s with rows := w.apply s.rows device }

inductive ProjectionWork
  | sample (device : String) (sampleTimeMs : ℤ) (mark : SampleMark)
  | retry (device : String) (now : DateTime)

def ProjectionWork.prog (maxRetries : ℕ) : ProjectionWork → ProjectionProg Unit
  | sample device t mark => handleSampleRequest device t mark
  | retry device now => retryDeviceProjection maxRetries device now

/-- A process that starts requeues what has failed. -/
def Restarted (s s' : ProjectionStore) : Prop :=
  s' = { s with rows := requeueFailedProjectionStates s.rows }

abbrev ProjectionRunning :=
  Running ProjectionCall ProjectionCall.Answer ProjectionError Unit ProjectionStore ProjectionWork

abbrev ProjectionPool :=
  Pool ProjectionCall ProjectionCall.Answer ProjectionError Unit ProjectionStore ProjectionWork

abbrev ProjectionLabel :=
  PoolLabel ProjectionCall ProjectionCall.Answer ProjectionError Unit ProjectionWork

abbrev ProjectionRaceStep (maxRetries : ℕ) : ProjectionPool → ProjectionLabel →
    ProjectionPool → Prop :=
  PoolStep (ProjectionWork.prog maxRetries) ProjectionAnswers Restarted

/-! ### What a request does -/

/-- How far a request is with its sample. -/
inductive SamplePhase
  | begun
  | saved
  | noted
  | read (state : ProjectionRow)
  | marked

abbrev ProjectionMade := Made ProjectionCall ProjectionCall.Answer ProjectionError

/-- What a call makes of it. -/
def SamplePhase.next (g : SamplePhase) : ProjectionMade → SamplePhase
  | ⟨.saveSample .., _⟩ => .saved
  | ⟨.noteSample .., _⟩ => .noted
  | ⟨.fetchState device, .ok state⟩ => .read (state.getD { device })
  | ⟨.updateStatus .., _⟩ => .marked
  | _ => g

/-- The sample is noted, and its mark is not made. -/
def SamplePhase.noting : SamplePhase → Prop
  | noted | read _ => True
  | _ => False

/-- The calls of a request come in their order, and its mark is never `ok`; a
retry notes nothing. -/
def ProjectionWork.Allows : ProjectionWork → SamplePhase → ProjectionCall → Prop
  | sample device t _, .begun, c => c = .saveSample device t
  | sample device t _, .saved, c => c = .noteSample device t
  | sample device _ _, .noted, c => c = .fetchState device
  | sample device _ _, .read _, c => ∃ w, c = .updateStatus device w ∧ w.projectionStatus ≠ .ok
  | sample _ _ _, .marked, _ => False
  | retry _ _, _, c => ∀ device t, c ≠ .noteSample device t

/-- A request ends with its mark made, or with a state that needs none. -/
def ProjectionWork.Ends : ProjectionWork → SamplePhase → Prop
  | sample _ _ _, .read state => state.projectionStatus ≠ .ok
  | sample _ _ _, g => g = .marked
  | retry _ _, _ => True

/-- The calls of the database do not raise. -/
def ProjectionCall.Can : (c : ProjectionCall) → Except ProjectionError c.Answer → Prop
  | .project .., _ => True
  | _, r => ∃ a, r = .ok a

theorem projectionAnswers_can {s s' : ProjectionStore} {c : ProjectionCall}
    {r : Except ProjectionError c.Answer} (h : ProjectionAnswers s c r s') : c.Can r := by
  cases c with
  | project => trivial
  | saveSample | noteSample | fetchState | latestSample | markProjected | updateStatus =>
    exact ⟨_, h.1⟩

abbrev KeepsOrder {α : Type} (what : ProjectionWork) (p : ProjectionProg α) (g : SamplePhase)
    (Q : SamplePhase → Prop) : Prop :=
  p.Obeys ProjectionCall.Can what.Allows SamplePhase.next g Q

section Programs

variable {device : String} {t : ℤ} {mark : SampleMark} {now : DateTime} {maxRetries : ℕ} {α : Type}

attribute [local irreducible] Prog.Calls Prog.wp

/-- **A mark never says `ok`.** -/
theorem SampleMark.write_ne_ok {state : ProjectionRow} {w : StatusWrite}
    (h : mark.write state = some w) : w.projectionStatus ≠ .ok := by
  cases mark with
  | queued =>
    simp only [SampleMark.write, queuedWrite] at h
    split_ifs at h
    · obtain rfl := Option.some.inj h
      exact fun h => by cases h
    · obtain rfl := Option.some.inj h
      exact fun h => by cases h
  | failure error now =>
    simp only [SampleMark.write, failureWrite] at h
    split_ifs at h with hdeleted hre
    · obtain rfl := Option.some.inj h
      exact fun h => by cases h
    · obtain rfl := Option.some.inj h
      exact fun h => hre (.inl h)

/-- A state that is `ok` is marked. -/
theorem SampleMark.write_of_ok {state : ProjectionRow} (h : state.projectionStatus = .ok) :
    ∃ w, mark.write state = some w := by
  cases mark with
  | queued =>
    simp [SampleMark.write, queuedWrite, h]
  | failure error now =>
    simp [SampleMark.write, failureWrite, h]

theorem markSample_order : KeepsOrder (.sample device t mark) (markSample device mark) .noted
    (ProjectionWork.sample device t mark).Ends := by
  refine Prog.wp_bind.mpr (Prog.wp_bind.mpr (Prog.wp_perform.mpr ⟨rfl, fun r g hg => ?_⟩))
  obtain ⟨⟨state, rfl⟩, rfl⟩ := hg
  rw [Prog.followed_ok]
  refine Prog.wp_done.mpr ?_
  rw [Prog.followed_ok]
  cases hw : mark.write (state.getD { device }) with
  | some w =>
    refine Prog.wp_perform.mpr ⟨⟨w, rfl, mark.write_ne_ok hw⟩, fun r g hg => ?_⟩
    obtain ⟨-, rfl⟩ := hg
    rfl
  | none =>
    refine Prog.wp_done.mpr fun hok => ?_
    obtain ⟨w, hsome⟩ := mark.write_of_ok hok
    rw [hsome] at hw
    cases hw

theorem handleSampleRequest_order :
    KeepsOrder (.sample device t mark) (handleSampleRequest device t mark) .begun
    (ProjectionWork.sample device t mark).Ends := by
  refine Prog.wp_bind.mpr (Prog.wp_perform.mpr ⟨rfl, fun r g hg => ?_⟩)
  obtain ⟨⟨-, rfl⟩, rfl⟩ := hg
  refine Prog.wp_bind.mpr (Prog.wp_perform.mpr ⟨rfl, fun r g hg => ?_⟩)
  obtain ⟨⟨-, rfl⟩, rfl⟩ := hg
  exact markSample_order

/-- The call notes no sample. -/
def ProjectionCall.noteless : ProjectionCall → Bool
  | noteSample .. => false
  | _ => true

theorem noteless_perform {c : ProjectionCall} (h : c.noteless = true) :
    (.perform c : ProjectionProg c.Answer).Calls fun c => c.noteless = true :=
  Prog.calls_perform.mpr h

theorem fetchState_noteless : (fetchState device).Calls fun c => c.noteless = true :=
  Prog.calls_bind (noteless_perform rfl) fun _ => Prog.calls_done _

theorem writeStatus_noteless {w : StatusWrite} : (writeStatus device w).Calls fun c =>
    c.noteless = true := noteless_perform rfl

theorem markProjectionSuccess_noteless {t : Option ℤ} :
    (markProjectionSuccess device t now).Calls fun c => c.noteless = true := by
  have hrest : ∀ t : Option ℤ, (fetchState device >>= fun previous =>
      writeStatus device (successWrite t now previous)).Calls fun c => c.noteless = true :=
    fun t => Prog.calls_bind fetchState_noteless fun _ => writeStatus_noteless
  cases t with
  | some t => exact Prog.calls_bind (noteless_perform rfl) fun _ => hrest _
  | none => exact hrest none

theorem retryDeviceProjection_noteless :
    (retryDeviceProjection maxRetries device now).Calls fun c => c.noteless = true := by
  have hfetch : ∀ f : ProjectionRow → StatusWrite,
      (fetchState device >>= fun state => writeStatus device (f state)).Calls fun c =>
        c.noteless = true :=
    fun f => Prog.calls_bind fetchState_noteless fun _ => writeStatus_noteless
  refine Prog.calls_bind (noteless_perform rfl) fun state => ?_
  split_ifs
  · exact Prog.calls_done _
  · refine Prog.calls_bind (noteless_perform rfl) fun latest => ?_
    cases latest with
    | none => exact markProjectionSuccess_noteless
    | some t =>
      refine Prog.calls_bind (Prog.calls_captured (noteless_perform rfl)) fun ended => ?_
      cases ended with
      | ok _ => exact markProjectionSuccess_noteless
      | error e =>
        cases e with
        | recordDeleted text => exact hfetch _
        | failed text => exact Prog.calls_bind (hfetch _) fun _ => Prog.calls_done _
        | unexpected text => exact Prog.calls_done _

/-- **Every program keeps its order.** -/
theorem work_order (what : ProjectionWork) :
    KeepsOrder what (what.prog maxRetries) .begun what.Ends := by
  cases what with
  | sample device t mark => exact handleSampleRequest_order
  | retry device now =>
    refine Prog.Calls.wp (I := fun _ => True) retryDeviceProjection_noteless
        (fun _ _ _ _ _ _ _ => trivial)
      (fun g c hc _ => ?_) trivial
    rintro d t rfl
    cases hc

end Programs

/-! ### Stranded samples -/

/-- The status of a device; without a row, its default. -/
abbrev statusOf (rows : List ProjectionRow) : String → ProjectionStatus :=
  columnOf (·.projectionStatus) rows

/-- The newest sample of the device is not projected. -/
def ProjectionStore.Unprojected (s : ProjectionStore) (device : String) : Prop :=
  ∃ t, sampledOf s.rows device = some t ∧ ¬ Reached (projectedOf s.rows device) t

/-- Nothing is left that would project the newest sample. -/
def ProjectionStore.Stranded (s : ProjectionStore) (device : String) : Prop :=
  s.Unprojected device ∧ statusOf s.rows device = .ok

def ProjectionRunning.phase (R : ProjectionRunning) : SamplePhase :=
  R.made.foldl SamplePhase.next .begun

/-- A request that has noted its sample, and has a call to come. -/
def ProjectionRunning.Open (device : String) (R : ProjectionRunning) : Prop :=
  (∃ t mark, R.what = .sample device t mark) ∧ (ProjectionRunning.phase R).noting ∧
    ∃ c next, R.rest = .call c next

def ProjectionPool.Attends (S : ProjectionPool) (device : String) : Prop :=
  ∃ R ∈ S.running, ProjectionRunning.Open device R

/-- No `ok` is written over a sample that no request on its way will mark, and
the process does not end while one has to. -/
def KeepsMarks (S : ProjectionPool) : ProjectionLabel → Prop
  | .call _ (.updateStatus device w) _ => w.projectionStatus = .ok → S.state.Unprojected device →
    ProjectionPool.Attends S device
  | .crash =>
    ∀ device, ProjectionPool.Attends S device → statusOf S.state.rows device = .ok →
      ¬ S.state.Unprojected device
  | _ => True

/-- A device that is `ok` with a sample not projected has a request on its way. -/
def Attended (S : ProjectionPool) : Prop :=
  ∀ device, S.state.Stranded device → ProjectionPool.Attends S device

section Columns

variable {rows : List ProjectionRow} {device d : String} {t : ℤ} {w : StatusWrite}

@[simp] theorem statusOf_note : statusOf (noteProjectionSample rows device t) = statusOf rows :=
  columnOf_kept (fun _ _ => rfl) fun _ => rfl

@[simp] theorem statusOf_projected :
    statusOf (markProjectionProjected rows device t) = statusOf rows :=
  columnOf_kept (fun _ _ => rfl) fun _ => rfl

theorem statusOf_update {status : ProjectionStatus} {retryCount : ℕ} {lastError : Option String}
    {lastAttemptAt projectedAt : Option DateTime} :
    statusOf (updateProjectionStatus rows device status retryCount lastError lastAttemptAt
      projectedAt) d =
      if d = device then status else statusOf rows d := by
  unfold statusOf updateProjectionStatus
  rw [columnOf_touchProjection fun _ _ => rfl]

theorem statusOf_apply : statusOf (w.apply rows device) d = if d = device then w.projectionStatus
    else statusOf rows d :=
  statusOf_update

@[simp] theorem sampledOf_apply : sampledOf (w.apply rows device) = sampledOf rows :=
  sampledOf_status

@[simp] theorem projectedOf_apply : projectedOf (w.apply rows device) = projectedOf rows :=
  projectedOf_status

end Columns

section Requeue

variable {rows : List ProjectionRow} {d : String}

/-- A requeue leaves the watermarks, and makes no status `ok`. -/
theorem requeue_fold (failed : List ProjectionRow) : ∀ rows : List ProjectionRow,
    let rows' := failed.foldl (fun rows' r => if r.device = "" ∨ r.unprojected = false then rows'
      else updateProjectionStatus rows' r.device .pending 0 none none r.projectedAt) rows
    sampledOf rows' = sampledOf rows ∧ projectedOf rows' = projectedOf rows ∧
      ∀ d, statusOf rows' d = .ok → statusOf rows d = .ok := by
  induction failed with
  | nil => exact fun rows => ⟨rfl, rfl, fun _ h => h⟩
  | cons r failed ih =>
    intro rows
    rw [List.foldl_cons]
    by_cases h : r.device = "" ∨ r.unprojected = false
    · rw [if_pos h]
      exact ih rows
    · rw [if_neg h]
      obtain ⟨hsampled, hprojected, hstatus⟩ :=
        ih (updateProjectionStatus rows r.device .pending 0 none none r.projectedAt)
      refine ⟨hsampled.trans sampledOf_status, hprojected.trans projectedOf_status, fun d hd => ?_⟩
      have hok := hstatus d hd
      rw [statusOf_update] at hok
      by_cases hdev : d = r.device
      · rw [if_pos hdev] at hok
        cases hok
      · rwa [if_neg hdev] at hok

theorem restarted_stranded {s s' : ProjectionStore} (h : Restarted s s') (hs : s'.Stranded d) :
    s.Stranded d := by
  obtain rfl : s' = _ := h
  obtain ⟨hsampled, hprojected, hstatus⟩ :=
    requeue_fold (s.rows.filter (·.projectionStatus = .failed)) s.rows
  obtain ⟨⟨t, ht, hreached⟩, hok⟩ := hs
  refine ⟨⟨t, ?_, ?_⟩, hstatus d hok⟩
  · rw [← hsampled]
    exact ht
  · rw [← hprojected]
    exact hreached

end Requeue

section Steps

variable {maxRetries : ℕ} {S S' : ProjectionPool} {l : ProjectionLabel} {s s' : ProjectionStore}
  {d : String}
  {c : ProjectionCall} {r : Except ProjectionError c.Answer}

/-- What strands a sample is a sample that is noted, or a status that is written. -/
theorem stranded_before (h : ProjectionAnswers s c r s') (hnote : ∀ t, c ≠ .noteSample d t)
    (hwrite : ∀ w, c ≠ .updateStatus d w) (hs : s'.Stranded d) : s.Stranded d := by
  cases c with
  | saveSample | fetchState | latestSample =>
    obtain ⟨-, rfl⟩ := h
    exact hs
  | project =>
    obtain rfl : s' = s := h
    exact hs
  | noteSample device t =>
    obtain ⟨-, rfl⟩ := h
    have hne : d ≠ device := fun heq => hnote t (by rw [heq])
    obtain ⟨⟨x, hx, hreached⟩, hok⟩ := hs
    simp only [sampledOf_note, projectedOf_note, statusOf_note, Function.update_of_ne hne] at hx hreached hok
    exact ⟨⟨x, hx, hreached⟩, hok⟩
  | markProjected device t =>
    obtain ⟨-, rfl⟩ := h
    obtain ⟨⟨x, hx, hreached⟩, hok⟩ := hs
    simp only [sampledOf_projected, projectedOf_projected, statusOf_projected] at hx hreached hok
    refine ⟨⟨x, hx, fun hnow => hreached ?_⟩, hok⟩
    by_cases hdev : d = device
    · rw [hdev, Function.update_self]
      exact Reached.advance (hdev ▸ hnow)
    · rwa [Function.update_of_ne hdev]
  | updateStatus device w =>
    obtain ⟨-, rfl⟩ := h
    have hne : d ≠ device := fun heq => hwrite w (by rw [heq])
    obtain ⟨⟨x, hx, hreached⟩, hok⟩ := hs
    simp only [sampledOf_apply, projectedOf_apply] at hx hreached
    rw [statusOf_apply, if_neg hne] at hok
    exact ⟨⟨x, hx, hreached⟩, hok⟩

/-- Every program of the pool keeps its order. -/
def PoolKeepsOrder (S : ProjectionPool) : Prop :=
  ∀ R ∈ S.running, KeepsOrder R.what R.rest (ProjectionRunning.phase R) R.what.Ends

theorem pool_keepsOrder {s0 : ProjectionStore} {ls : List ProjectionLabel}
    (h : Run (ProjectionRaceStep maxRetries) ⟨s0, []⟩ ls S) : PoolKeepsOrder S := by
  intro R hR
  exact Pool.obeys (fun _ _ _ _ hd => projectionAnswers_can hd) work_order h R hR

theorem projectionPhase_after {R : ProjectionRunning} {p : ProjectionProg Unit} :
    ProjectionRunning.phase (R.after r p) = (ProjectionRunning.phase R).next ⟨c, r⟩ := by
  unfold ProjectionRunning.phase
  rw [List.foldl_append]
  rfl

/-- **One call keeps every stranded device attended**: the request that noted a
sample goes on to its mark, and makes it of a state that is `ok`. -/
theorem call_attended {as bs : List ProjectionRunning} {R : ProjectionRunning}
    {next : Except ProjectionError c.Answer → ProjectionProg Unit}
    (hrest : R.rest = .call c next) (hd : ProjectionAnswers s c r s')
    (hord : PoolKeepsOrder ⟨s, as ++ R :: bs⟩)
    (hkeeps : KeepsMarks ⟨s, as ++ R :: bs⟩ (.call R.what c r)) (h : Attended ⟨s, as ++ R :: bs⟩) :
    Attended ⟨s', as ++ R.after r (next r) :: bs⟩ := by
  intro d hs
  have horder := hord R (by simp)
  rw [hrest] at horder
  have hcan := projectionAnswers_can hd
  have hafter : KeepsOrder R.what (next r) ((ProjectionRunning.phase R).next ⟨c, r⟩) R.what.Ends :=
    horder.2 r _ ⟨hcan, rfl⟩
  -- the program that moves, as long as it goes on
  have hself : (∃ t mark, R.what = .sample d t mark) →
      ((ProjectionRunning.phase R).next ⟨c, r⟩).noting →
      ¬ R.what.Ends ((ProjectionRunning.phase R).next ⟨c, r⟩) →
      ProjectionPool.Attends ⟨s', as ++ R.after r (next r) :: bs⟩ d := by
    intro hwhat hnoting hends
    refine ⟨R.after r (next r), by simp, hwhat, ?_, ?_⟩
    · rwa [projectionPhase_after]
    · show ∃ c' next', next r = .call c' next'
      cases hn : next r with
      | done e =>
        rw [hn] at hafter
        exact absurd hafter hends
      | call c' next' => exact ⟨c', next', rfl⟩
  have hothers : ∀ R' : ProjectionRunning, R' ≠ R → R' ∈ as ++ R :: bs →
      ProjectionRunning.Open d R' →
      ProjectionPool.Attends ⟨s', as ++ R.after r (next r) :: bs⟩ d := by
    intro R' hne hmem hopen
    refine ⟨R', ?_, hopen⟩
    rcases List.mem_append.mp hmem with hmem | hmem
    · exact List.mem_append_left _ hmem
    · rcases List.mem_cons.mp hmem with heq | hmem
      · exact absurd heq hne
      · exact List.mem_append_right _ (List.mem_cons_of_mem _ hmem)
  have hallows := horder.1
  by_cases hnote : ∃ t, c = .noteSample d t
  · obtain ⟨t, rfl⟩ := hnote
    cases hwhat : R.what with
    | retry d' now =>
      rw [hwhat] at hallows
      exact absurd rfl (hallows d t)
    | sample device t' mark =>
      rw [hwhat] at hallows
      cases hphase : ProjectionRunning.phase R with
      | saved =>
        rw [hphase] at hallows
        obtain ⟨rfl, rfl⟩ := ProjectionCall.noteSample.inj hallows
        refine hself ⟨t, mark, hwhat⟩ trivial ?_
        rw [hwhat]
        exact fun h => by cases h
      | begun | noted | marked =>
        rw [hphase] at hallows
        cases hallows
      | read state =>
        rw [hphase] at hallows
        obtain ⟨w, hw, -⟩ := hallows
        cases hw
  by_cases hwrite : ∃ w, c = .updateStatus d w
  · obtain ⟨w, rfl⟩ := hwrite
    obtain ⟨-, rfl⟩ := hd
    obtain ⟨⟨x, hx, hreached⟩, hok⟩ := hs
    simp only [sampledOf_apply, projectedOf_apply] at hx hreached
    rw [statusOf_apply, if_pos rfl] at hok
    obtain ⟨R', hmem, hopen⟩ := hkeeps hok ⟨x, hx, hreached⟩
    refine hothers R' ?_ hmem hopen
    -- the request that is on its way makes no such mark
    rintro rfl
    obtain ⟨⟨t, mark, hwhat⟩, hnoting, -⟩ := hopen
    rw [hwhat] at hallows
    cases hphase : ProjectionRunning.phase R' with
    | read state =>
      rw [hphase] at hallows
      obtain ⟨w', hw', hne⟩ := hallows
      obtain ⟨-, rfl⟩ := ProjectionCall.updateStatus.inj hw'
      exact hne hok
    | noted =>
      rw [hphase] at hallows
      cases hallows
    | begun | saved | marked =>
      rw [hphase] at hnoting
      exact hnoting
  obtain ⟨R', hmem, hopen⟩ :=
    h d (stranded_before hd (fun t ht => hnote ⟨t, ht⟩) (fun w hw => hwrite ⟨w, hw⟩) hs)
  by_cases hne : R' = R
  · subst hne
    obtain ⟨⟨t, mark, hwhat⟩, hnoting, -⟩ := hopen
    rw [hwhat] at hallows
    cases hphase : ProjectionRunning.phase R' with
    | noted =>
      rw [hphase] at hallows
      obtain rfl : c = .fetchState d := hallows
      obtain ⟨rfl, rfl⟩ := hd
      refine hself ⟨t, mark, hwhat⟩ ?_ ?_
      · rw [hphase]
        trivial
      · -- a state that is `ok` is marked
        rw [hwhat, hphase]
        exact fun hends => hends hs.2
    | read state =>
      rw [hphase] at hallows
      obtain ⟨w, hw, -⟩ := hallows
      exact absurd ⟨w, hw⟩ hwrite
    | begun | saved | marked =>
      rw [hphase] at hnoting
      exact hnoting.elim
  · exact hothers R' hne hmem hopen

/-- **A step that keeps the marks leaves no device unattended.** -/
theorem Attended.step (h : Attended S) (hord : PoolKeepsOrder S)
    (hstep : Guarded KeepsMarks (ProjectionRaceStep maxRetries) S l S') : Attended S' := by
  obtain ⟨hkeeps, hstep⟩ := hstep
  cases hstep with
  | begin what =>
    intro d hs
    obtain ⟨R, hR, hopen⟩ := h d hs
    exact ⟨R, List.mem_cons_of_mem _ hR, hopen⟩
  | call hrest hd => exact call_attended hrest hd hord hkeeps h
  | @finish s as bs R r hrest =>
    intro d hs
    obtain ⟨R', hR', hopen⟩ := h d hs
    refine ⟨R', ?_, hopen⟩
    rcases List.mem_append.mp hR' with hmem | hmem
    · exact List.mem_append_left _ hmem
    · rcases List.mem_cons.mp hmem with rfl | hmem
      · obtain ⟨-, -, c, next, hcall⟩ := hopen
        rw [hrest] at hcall
        cases hcall
      · exact List.mem_append_right _ hmem
  | crash =>
    intro d hs
    exact absurd hs.1 (hkeeps d (h d hs) hs.2)
  | outside ho =>
    intro d hs
    exact h d (restarted_stranded ho hs)

theorem attended_run {ls : List ProjectionLabel}
    (h : Run (Guarded KeepsMarks (ProjectionRaceStep maxRetries)) ⟨{}, []⟩ ls S) : Attended S := by
  refine Run.inv_labels (I := fun _ S => Attended S) ?_ (fun ls S l S' hr hi hstep => ?_) h
  · rintro d ⟨⟨t, ht, -⟩, -⟩
    cases ht
  · exact hi.step (pool_keepsOrder (hr.mono fun _ _ _ hs => hs.2)) hstep

/-- **No sample is stranded** by a run whose steps all keep the marks; and each
step that does not leaves a sample that is stranded once the process ends. -/
theorem no_sample_stranded :
    (∀ ls S, Run (Guarded KeepsMarks (ProjectionRaceStep maxRetries)) ⟨{}, []⟩ ls S →
      S.running = [] →
      ∀ device, ¬ S.state.Stranded device) ∧
    ∀ S l S', ProjectionRaceStep maxRetries S l S' → ¬ KeepsMarks S l →
      ∃ S'', ProjectionRaceStep maxRetries S' .crash S'' ∧ S''.running = [] ∧
        ∃ device, S''.state.Stranded device := by
  refine ⟨fun ls S h hquiet device hs => ?_, fun S l S' hstep hbad => ?_⟩
  · obtain ⟨R, hR, -⟩ := attended_run h device hs
    rw [hquiet] at hR
    exact absurd hR List.not_mem_nil
  · refine ⟨⟨S'.state, []⟩, .crash, rfl, ?_⟩
    cases hstep with
    | begin | finish | outside => exact absurd trivial hbad
    | @call s s' as bs R c next r hrest hd =>
      cases c with
      | updateStatus device w =>
        obtain ⟨-, rfl⟩ := hd
        have hwrite : ¬ (w.projectionStatus = .ok → s.Unprojected device →
          ProjectionPool.Attends ⟨s, as ++ R :: bs⟩ device) := hbad
        obtain ⟨hok, hno⟩ := Classical.not_imp.mp hwrite
        obtain ⟨⟨t, ht, hreached⟩, -⟩ := Classical.not_imp.mp hno
        refine ⟨device, ⟨t, ?_, ?_⟩, ?_⟩
        · simpa using ht
        · simpa using hreached
        · show statusOf (w.apply s.rows device) device = .ok
          rw [statusOf_apply, if_pos rfl, hok]
      | _ => exact absurd trivial hbad
    | @crash s rs =>
      have hcrash : ¬ ∀ device, ProjectionPool.Attends ⟨s, rs⟩ device →
        statusOf s.rows device = .ok → ¬ s.Unprojected device := hbad
      push Not at hcrash
      obtain ⟨device, -, hok, hunprojected⟩ := hcrash
      exact ⟨device, hunprojected, hok⟩

end Steps

/-! ### Two runs -/

/-- The answer to a call; the remote row takes every update. -/
def ProjectionStore.reply (s : ProjectionStore) : (c : ProjectionCall) →
    Except ProjectionError c.Answer × ProjectionStore
  | .saveSample device t => (.ok (), { s with samples := (device, t) :: s.samples })
  | .noteSample device t => (.ok (), { s with rows := noteProjectionSample s.rows device t })
  | .fetchState device => (.ok (fetchProjectionState s.rows device), s)
  | .latestSample device => (.ok (latestSampleOf s.samples device), s)
  | .project .. => (.ok (), s)
  | .markProjected device t => (.ok (), { s with rows := markProjectionProjected s.rows device t })
  | .updateStatus device w => (.ok (), { s with rows := w.apply s.rows device })

theorem projection_reply (s : ProjectionStore) (c : ProjectionCall) :
    ProjectionAnswers s c (s.reply c).1 (s.reply c).2 := by
  cases c with
  | project => rfl
  | saveSample | noteSample | fetchState | latestSample | markProjected | updateStatus =>
    exact ⟨rfl, rfl⟩

def playRace (turns : List (PoolTurn Unit Empty ProjectionWork)) : ProjectionPool :=
  Pool.play (ProjectionWork.prog 5) (fun _ s c => s.reply c) (fun other _ => other.elim)
    ⟨{}, []⟩ turns

theorem playRace_run (turns : List (PoolTurn Unit Empty ProjectionWork)) :
    ∃ ls, Run (ProjectionRaceStep 5) ⟨{}, []⟩ ls (playRace turns) :=
  play_pool (fun _ s c => projection_reply s c) (fun other => other.elim) turns _

def calls (i n : ℕ) : List (PoolTurn Unit Empty ProjectionWork) := List.replicate n (.call () i)

/-- A retry has read the state it writes after; a second sample is noted, and
its request finds the device still pending; then the retry writes `ok`. -/
def lostMark : List (PoolTurn Unit Empty ProjectionWork) :=
  .begin (.sample "TH-01" 1 .queued) :: calls 0 4 ++ .finish 0 ::
    .begin (.retry "TH-01" (.utc 2000000)) :: calls 0 5 ++
    .begin (.sample "TH-01" 2 .queued) :: calls 0 3 ++ .finish 0 :: calls 0 1 ++ [.finish 0]

/-- **A mark can be lost.** -/
theorem lost_mark : ¬ ∀ (maxRetries : ℕ) (ls : List ProjectionLabel) (S : ProjectionPool),
    Run (ProjectionRaceStep maxRetries) ⟨{}, []⟩ ls S → S.running = [] →
      ∀ device, ¬ S.state.Stranded device := by
  intro hall
  obtain ⟨ls, hrun⟩ := playRace_run lostMark
  have hquiet : (playRace lostMark).running = [] := List.isEmpty_iff.mp (by decide +kernel)
  have hsampled : sampledOf (playRace lostMark).state.rows "TH-01" = some 2 := by decide +kernel
  have hprojected : projectedOf (playRace lostMark).state.rows "TH-01" = some 1 := by decide +kernel
  have hok : statusOf (playRace lostMark).state.rows "TH-01" = .ok := by decide +kernel
  refine hall 5 ls _ hrun hquiet "TH-01" ⟨⟨2, hsampled, ?_⟩, hok⟩
  rintro ⟨x, hx, hle⟩
  rw [hprojected] at hx
  obtain rfl := Option.some.inj hx
  omega

/-- The only program of a pool makes a call that overwrites no mark. -/
theorem only_keeps {s s' : ProjectionStore} {R : ProjectionRunning} {c : ProjectionCall}
    {r : Except ProjectionError c.Answer}
    {next : Except ProjectionError c.Answer → ProjectionProg Unit} (hrest : R.rest = .call c next)
    (hd : ProjectionAnswers s c r s')
    (hc : ∀ device w, c = .updateStatus device w → w.projectionStatus = .ok →
      ¬ s.Unprojected device) :
    Guarded KeepsMarks (ProjectionRaceStep 5) ⟨s, [R]⟩ (.call R.what c r)
      ⟨s', [R.after r (next r)]⟩ := by
  refine ⟨?_, ?_⟩
  · cases c with
    | updateStatus device w => exact fun hok hun => absurd hun (hc device w rfl hok)
    | _ => trivial
  · have hstep : ProjectionRaceStep 5 ⟨s, [] ++ R :: []⟩ (.call R.what c r)
      ⟨s', [] ++ R.after r (next r) :: []⟩ := .call hrest hd
    exact hstep

theorem only_finishes {s : ProjectionStore} {R : ProjectionRunning}
    {r : Except ProjectionError Unit} (hrest : R.rest = .done r) :
    Guarded KeepsMarks (ProjectionRaceStep 5) ⟨s, [R]⟩ (.finish R.what r) ⟨s, []⟩ := by
  have hstep : ProjectionRaceStep 5 ⟨s, [] ++ R :: []⟩ (.finish R.what r) ⟨s, [] ++ []⟩ :=
    .finish hrest
  exact ⟨trivial, hstep⟩

theorem keeps_begin (S : ProjectionPool) (what : ProjectionWork) :
    Guarded KeepsMarks (ProjectionRaceStep 5) S (.begin what)
    ⟨S.state, { what, before := S.state, rest := what.prog 5 } :: S.running⟩ :=
  ⟨trivial, .begin what⟩

/-- A request, then a retry that projects its sample. -/
theorem projected_run : ∃ ls S, Run (Guarded KeepsMarks (ProjectionRaceStep 5)) ⟨{}, []⟩ ls S ∧
    S.running = [] ∧
    statusOf S.state.rows "TH-01" = .ok ∧ sampledOf S.state.rows "TH-01" = some 1 ∧
      ¬ S.state.Stranded "TH-01" := by
  have h0 := Run.one (keeps_begin ⟨{}, []⟩ (.sample "TH-01" 1 .queued))
  have h1 := h0.snoc (only_keeps rfl ⟨rfl, rfl⟩ (by rintro _ _ ⟨⟩))
  have h2 := h1.snoc (only_keeps rfl ⟨rfl, rfl⟩ (by rintro _ _ ⟨⟩))
  have h3 := h2.snoc (only_keeps rfl ⟨rfl, rfl⟩ (by rintro _ _ ⟨⟩))
  have h4 := h3.snoc (only_keeps rfl ⟨rfl, rfl⟩ (by rintro _ _ ⟨⟩ ⟨⟩))
  have h5 := h4.snoc (only_finishes rfl)
  have h6 := h5.snoc (keeps_begin _ (.retry "TH-01" (.utc 2000000)))
  have h7 := h6.snoc (only_keeps rfl ⟨rfl, rfl⟩ (by rintro _ _ ⟨⟩))
  have h8 := h7.snoc (only_keeps rfl ⟨rfl, rfl⟩ (by rintro _ _ ⟨⟩))
  have h9 := h8.snoc (only_keeps (r := .ok ()) rfl rfl (by rintro _ _ ⟨⟩))
  have h10 := h9.snoc (only_keeps rfl ⟨rfl, rfl⟩ (by rintro _ _ ⟨⟩))
  have h11 := h10.snoc (only_keeps rfl ⟨rfl, rfl⟩ (by rintro _ _ ⟨⟩))
  have h12 := h11.snoc (only_keeps rfl ⟨rfl, rfl⟩ (by
    -- the sample is projected before `ok` is written
    rintro _ _ ⟨⟩ - ⟨t, ht, hreached⟩
    obtain rfl := Option.some.inj ht
    exact hreached ⟨1, rfl, le_rfl⟩))
  have h13 := h12.snoc (only_finishes rfl)
  exact ⟨_, _, h13, rfl, rfl, rfl, no_sample_stranded.1 _ _ h13 rfl "TH-01"⟩

end TemperatureMonitor
