/-
# The projection state of a device

The table `sample_projection_state`: three watermarks, each advanced by an
update of its own, and the status of the projection to the remote table, which
its own update writes and no watermark's. Every helper creates the row of a
device it does not find.
-/
import Mathlib.Data.List.Sort
import TemperatureMonitor.Library.Iso
import TemperatureMonitor.Library.Table

namespace TemperatureMonitor

inductive ProjectionStatus
  | ok | pending | failed | remoteRecordDeleted
deriving DecidableEq

/-- A row of `sample_projection_state`. -/
structure ProjectionRow where
  device : String
  lastSampleTimeMs : Option ℤ := none
  lastProjectedSampleTimeMs : Option ℤ := none
  lastDispatchedSampleTimeMs : Option ℤ := none
  projectionStatus : ProjectionStatus := .ok
  retryCount : ℕ := 0
  lastError : Option String := none
  lastAttemptAt : Option DateTime := none
  projectedAt : Option DateTime := none
deriving DecidableEq

/-- `fetch_projection_state`. -/
def fetchProjectionState (rows : List ProjectionRow) (device : String) : Option ProjectionRow :=
  rowOf ProjectionRow.device rows device

/-- An update of the row of a device, created with its defaults if it is not there. -/
def touchProjection (rows : List ProjectionRow) (device : String)
    (f : ProjectionRow → ProjectionRow) : List ProjectionRow :=
  alterRow ProjectionRow.device device (fun old => { f (old.getD { device }) with device }) rows

def noteProjectionSample (rows : List ProjectionRow) (device : String) (sampleTimeMs : ℤ) :
    List ProjectionRow :=
  touchProjection rows device fun r =>
    { r with lastSampleTimeMs := advance r.lastSampleTimeMs sampleTimeMs }

def markProjectionProjected (rows : List ProjectionRow) (device : String) (sampleTimeMs : ℤ) :
    List ProjectionRow :=
  touchProjection rows device fun r =>
    { r with lastProjectedSampleTimeMs := advance r.lastProjectedSampleTimeMs sampleTimeMs }

def markProjectionDispatched (rows : List ProjectionRow) (device : String) (sampleTimeMs : ℤ) :
    List ProjectionRow :=
  touchProjection rows device fun r =>
    { r with lastDispatchedSampleTimeMs := advance r.lastDispatchedSampleTimeMs sampleTimeMs }

def updateProjectionStatus (rows : List ProjectionRow) (device : String)
    (projectionStatus : ProjectionStatus)
    (retryCount : ℕ) (lastError : Option String) (lastAttemptAt projectedAt : Option DateTime) :
    List ProjectionRow :=
  touchProjection rows device fun r =>
    { r with projectionStatus, retryCount, lastError, lastAttemptAt, projectedAt }

/-! ### Columns -/

section Column

variable {β : Type*} {rows : List ProjectionRow} {device d : String}
  {f : ProjectionRow → ProjectionRow}

theorem fetch_touchProjection : fetchProjectionState (touchProjection rows device f) d =
    if d = device then some { f ((fetchProjectionState rows device).getD { device }) with device }
    else fetchProjectionState rows d :=
  rowOf_alterRow fun _ => rfl

theorem nodup_touchProjection (h : (rows.map (·.device)).Nodup) :
    ((touchProjection rows device f).map (·.device)).Nodup :=
  nodup_alterRow (fun _ => rfl) h

/-- A column of the row of a device; without a row, its default. -/
def columnOf (c : ProjectionRow → β) (rows : List ProjectionRow) (d : String) : β :=
  c ((fetchProjectionState rows d).getD { device := d })

/-- An update changes a column of its own device only. -/
theorem columnOf_touchProjection {c : ProjectionRow → β}
    (hc : ∀ r device, c { r with device } = c r) : columnOf c (touchProjection rows device f) d =
      if d = device then c (f ((fetchProjectionState rows device).getD { device }))
        else columnOf c rows d := by
  unfold columnOf
  rw [fetch_touchProjection]
  by_cases h : d = device
  · rw [if_pos h, if_pos h]
    exact hc _ _
  · rw [if_neg h, if_neg h]

/-- A column that an update does not write. -/
theorem columnOf_kept {c : ProjectionRow → β} (hc : ∀ r device, c { r with device } = c r)
    (hf : ∀ r, c (f r) = c r) : columnOf c (touchProjection rows device f) = columnOf c rows := by
  funext d
  rw [columnOf_touchProjection hc]
  by_cases h : d = device
  · rw [if_pos h, hf, h]
    rfl
  · rw [if_neg h]

/-- A column that an update advances. -/
theorem columnOf_advanced {c : ProjectionRow → Option ℤ} {t : ℤ}
    (hc : ∀ r device, c { r with device } = c r)
    (hf : ∀ r, c (f r) = advance (c r) t) : columnOf c (touchProjection rows device f) =
      Function.update (columnOf c rows) device (advance (columnOf c rows device) t) := by
  funext d
  rw [columnOf_touchProjection hc]
  by_cases h : d = device
  · rw [if_pos h, hf, h, Function.update_self]
    rfl
  · rw [if_neg h, Function.update_of_ne h]

/-- The watermarks of the devices. -/
abbrev sampledOf (rows : List ProjectionRow) : String → Option ℤ :=
  columnOf (·.lastSampleTimeMs) rows

abbrev projectedOf (rows : List ProjectionRow) : String → Option ℤ :=
  columnOf (·.lastProjectedSampleTimeMs) rows

abbrev dispatchedOf (rows : List ProjectionRow) : String → Option ℤ :=
  columnOf (·.lastDispatchedSampleTimeMs) rows

variable {t : ℤ} {status : ProjectionStatus} {retryCount : ℕ} {lastError : Option String}
  {lastAttemptAt projectedAt : Option DateTime}

@[simp] theorem sampledOf_note : sampledOf (noteProjectionSample rows device t) =
    Function.update (sampledOf rows) device (advance (sampledOf rows device) t) :=
  columnOf_advanced (fun _ _ => rfl) fun _ => rfl

@[simp] theorem projectedOf_note :
    projectedOf (noteProjectionSample rows device t) = projectedOf rows :=
  columnOf_kept (fun _ _ => rfl) fun _ => rfl

@[simp] theorem dispatchedOf_note :
    dispatchedOf (noteProjectionSample rows device t) = dispatchedOf rows :=
  columnOf_kept (fun _ _ => rfl) fun _ => rfl

@[simp] theorem sampledOf_projected :
    sampledOf (markProjectionProjected rows device t) = sampledOf rows :=
  columnOf_kept (fun _ _ => rfl) fun _ => rfl

@[simp] theorem projectedOf_projected : projectedOf (markProjectionProjected rows device t) =
    Function.update (projectedOf rows) device (advance (projectedOf rows device) t) :=
  columnOf_advanced (fun _ _ => rfl) fun _ => rfl

@[simp] theorem dispatchedOf_projected :
    dispatchedOf (markProjectionProjected rows device t) = dispatchedOf rows :=
  columnOf_kept (fun _ _ => rfl) fun _ => rfl

@[simp] theorem sampledOf_dispatched :
    sampledOf (markProjectionDispatched rows device t) = sampledOf rows :=
  columnOf_kept (fun _ _ => rfl) fun _ => rfl

@[simp] theorem projectedOf_dispatched :
    projectedOf (markProjectionDispatched rows device t) = projectedOf rows :=
  columnOf_kept (fun _ _ => rfl) fun _ => rfl

@[simp] theorem dispatchedOf_dispatched : dispatchedOf (markProjectionDispatched rows device t) =
    Function.update (dispatchedOf rows) device (advance (dispatchedOf rows device) t) :=
  columnOf_advanced (fun _ _ => rfl) fun _ => rfl

@[simp] theorem sampledOf_status :
    sampledOf (updateProjectionStatus rows device status retryCount lastError lastAttemptAt
      projectedAt) =
      sampledOf rows :=
  columnOf_kept (fun _ _ => rfl) fun _ => rfl

@[simp] theorem projectedOf_status :
    projectedOf
      (updateProjectionStatus rows device status retryCount lastError lastAttemptAt projectedAt) =
      projectedOf rows :=
  columnOf_kept (fun _ _ => rfl) fun _ => rfl

@[simp] theorem dispatchedOf_status :
    dispatchedOf
      (updateProjectionStatus rows device status retryCount lastError lastAttemptAt projectedAt) =
      dispatchedOf rows :=
  columnOf_kept (fun _ _ => rfl) fun _ => rfl

end Column

/-! ### Projected and not dispatched -/

/-- The condition of `fetch_undispatched_projection_states`. -/
def ProjectionRow.undispatched (r : ProjectionRow) : Bool :=
  r.lastProjectedSampleTimeMs.any fun p => r.lastDispatchedSampleTimeMs.all (· < p)

/-- `fetch_undispatched_projection_states`: the devices in order, each with its
projected watermark. -/
def fetchUndispatchedProjectionStates (rows : List ProjectionRow) : List (String × ℤ) :=
  ((rows.filter (·.undispatched)).insertionSort fun a b => a.device ≤ b.device).filterMap fun r =>
    r.lastProjectedSampleTimeMs.map fun p => (r.device, p)

section Undispatched

variable {rows : List ProjectionRow}

theorem mem_fetchUndispatched (hn : (rows.map (·.device)).Nodup) {e : String × ℤ}
    (he : e ∈ fetchUndispatchedProjectionStates rows) : projectedOf rows e.1 = some e.2 ∧
      ¬ Reached (dispatchedOf rows e.1) e.2 := by
  obtain ⟨r, hr, hmap⟩ := List.mem_filterMap.mp he
  obtain ⟨p, hp, rfl⟩ := Option.map_eq_some_iff.mp hmap
  obtain ⟨hr, hcond⟩ := List.mem_filter.mp ((List.perm_insertionSort _ _).mem_iff.mp hr)
  have hrow : fetchProjectionState rows r.device = some r := rowOf_of_mem hn hr
  unfold projectedOf dispatchedOf columnOf
  rw [hrow]
  refine ⟨hp, ?_⟩
  rintro ⟨x, hx, hle⟩
  have hx' : r.lastDispatchedSampleTimeMs = some x := hx
  simp only [ProjectionRow.undispatched, hp, hx', Option.any_some, Option.all_some,
    decide_eq_true_eq] at hcond
  exact absurd hcond (not_lt.mpr hle)

theorem map_fst_sublist (l : List ProjectionRow) :
    ((l.filterMap fun r => r.lastProjectedSampleTimeMs.map fun p =>
      (r.device, p)).map Prod.fst).Sublist
      (l.map (·.device)) := by
  induction l with
  | nil => exact .slnil
  | cons r l ih =>
    cases hp : r.lastProjectedSampleTimeMs with
    | none =>
      rw [List.filterMap_cons_none (by rw [hp]; rfl)]
      exact ih.cons r.device
    | some p =>
      rw [List.filterMap_cons_some (b := (r.device, p)) (by rw [hp]; rfl)]
      exact ih.cons_cons r.device

theorem nodup_fetchUndispatched (hn : (rows.map (·.device)).Nodup) :
    ((fetchUndispatchedProjectionStates rows).map Prod.fst).Nodup := by
  refine (map_fst_sublist _).nodup ?_
  rw [((List.perm_insertionSort _ _).map _).nodup_iff]
  exact hn.sublist (List.filter_sublist.map _)

end Undispatched

end TemperatureMonitor
