/-
# The chain of a device's events

The events of one type of a device and a source are a chain (`EventChain`): each
starts in the state the one before ended in, and the last ends in the state of
the newest row that has one. `persist_sample` compares a sample with the newest
row alone, so the chain needs each step to be `Faithful`: a crossing is stored
as a row and as an event or as neither, and a sample with nothing to compare
leaves the newest state as it is. A state is the status or the temperature band;
all lemmas are about an event type.
-/
import TemperatureMonitor.Library.Runs
import TemperatureMonitor.Service.DeviceEvents

namespace TemperatureMonitor

variable {py : CaseMapping} {threshold : Option ℚ} {kind : DeviceEventType}
  {device source : String}

/-! ### The rows of a device and a source -/

/-- Two rows of a table are of different devices, sources or times. -/
def DistinctTimes (rows : List SampleRow) : Prop := (rows.map SampleRow.key).Nodup

theorem SampleRow.of_iff {r : SampleRow} : r.of device source = true ↔ r.device = device ∧
    r.source = source := by
  simp [SampleRow.of]

theorem mem_saveDeviceSample {rows : List SampleRow} (hn : DistinctTimes rows) {row r : SampleRow} :
    r ∈ saveDeviceSample rows row ↔ r = row ∨ r ∈ rows ∧ r.key ≠ row.key := by
  have hkey : ∀ o : Option SampleRow, SampleRow.key ((fun _ => row) o) = row.key := fun _ => rfl
  have hn' : ((saveDeviceSample rows row).map SampleRow.key).Nodup := nodup_alterRow hkey hn
  have hrow : rowOf SampleRow.key (saveDeviceSample rows row) r.key =
      if r.key = row.key then some row else rowOf SampleRow.key rows r.key := rowOf_alterRow hkey
  constructor
  · intro h
    rw [rowOf_of_mem hn' h] at hrow
    by_cases he : r.key = row.key
    · rw [if_pos he] at hrow
      exact .inl (Option.some.inj hrow)
    · rw [if_neg he] at hrow
      exact .inr ⟨(mem_of_rowOf hrow.symm).1, he⟩
  · rintro (rfl | ⟨hr, he⟩)
    · rw [if_pos rfl] at hrow
      exact (mem_of_rowOf hrow).1
    · rw [if_neg he, rowOf_of_mem hn hr] at hrow
      exact (mem_of_rowOf hrow).1

/-- The rows of a device and a source whose state in the events of a type is known. -/
def knownRows (py : CaseMapping) (threshold : Option ℚ) (kind : DeviceEventType)
    (rows : List SampleRow) (device source : String) : List SampleRow :=
  rows.filter fun r => r.of device source ∧ (kind.stateOf py threshold r).isSome

/-- The state of the newest of them. -/
def newestState (py : CaseMapping) (threshold : Option ℚ) (kind : DeviceEventType)
    (rows : List SampleRow) (device source : String) : Option String :=
  (newestOf (·.sampleTimeMs) (knownRows py threshold kind rows device source)).bind
    (kind.stateOf py threshold)

theorem mem_knownRows {rows : List SampleRow} {r : SampleRow} :
    r ∈ knownRows py threshold kind rows device source ↔
      r ∈ rows ∧ r.of device source = true ∧ (kind.stateOf py threshold r).isSome = true := by
  simp [knownRows]

theorem knownRows_sub {rows : List SampleRow} :
    ∀ r ∈ knownRows py threshold kind rows device source, r ∈ rows ∧ r.of device source = true := by
  intro r hr
  obtain ⟨hr, hof, -⟩ := mem_knownRows.mp hr
  exact ⟨hr, hof⟩

/-- Of one device and source, the newest row with a property is the newest. -/
theorem newestOf_eq {rows l : List SampleRow} (hn : DistinctTimes rows)
    (hl : ∀ r ∈ l, r ∈ rows ∧ r.of device source = true) {m : SampleRow} (hm : m ∈ l)
    (hle : ∀ r ∈ l, r.sampleTimeMs ≤ m.sampleTimeMs) : newestOf (·.sampleTimeMs) l = some m := by
  refine isNewest_unique (fun a ha b hb ht => ?_) (fun _ => Iff.rfl)
    (isNewest_newestOf l) (k := l) ?_
  · obtain ⟨har, ha⟩ := hl a ha
    obtain ⟨hbr, hb⟩ := hl b hb
    obtain ⟨had, has⟩ := SampleRow.of_iff.mp ha
    obtain ⟨hbd, hbs⟩ := SampleRow.of_iff.mp hb
    have hkey : a.key = b.key := by
      unfold SampleRow.key
      rw [had, has, hbd, hbs, ht]
    exact List.inj_on_of_nodup_map hn har hbr hkey
  · refine ⟨fun x hx => ?_, fun x hx => ⟨m, rfl, hle x hx⟩⟩
    rw [← Option.some.inj hx]
    exact hm

theorem newestOf_spec {l : List SampleRow} {m : SampleRow}
    (h : newestOf (·.sampleTimeMs) l = some m) :
    m ∈ l ∧ ∀ r ∈ l, r.sampleTimeMs ≤ m.sampleTimeMs := by
  have hnew : IsNewest SampleRow.sampleTimeMs l (newestOf SampleRow.sampleTimeMs l) :=
    isNewest_newestOf l
  rw [h] at hnew
  refine ⟨hnew.1 m rfl, fun r hr => ?_⟩
  obtain ⟨x, hx, hle⟩ := hnew.2 r hr
  rw [Option.some.inj hx]
  exact hle

theorem newestOf_eq_none {l : List SampleRow} : newestOf (·.sampleTimeMs) l = none ↔ l = [] := by
  constructor
  · intro h
    have hnew : IsNewest SampleRow.sampleTimeMs l (newestOf SampleRow.sampleTimeMs l) :=
      isNewest_newestOf l
    rw [h] at hnew
    refine List.eq_nil_iff_forall_not_mem.mpr fun r hr => ?_
    obtain ⟨x, hx, -⟩ := hnew.2 r hr
    cases hx
  · rintro rfl
    rfl

/-- The newest row is the newest of a known state, if its own is known. -/
theorem newestState_of_previous {rows : List SampleRow} (hn : DistinctTimes rows) {p : SampleRow}
    {state : String}
    (hp : fetchPreviousDeviceSample rows device source = some p)
    (hs : kind.stateOf py threshold p = some state) :
    newestState py threshold kind rows device source = some state := by
  obtain ⟨hmem, hle⟩ := newestOf_spec hp
  obtain ⟨hrows, hof⟩ := List.mem_filter.mp hmem
  have hnewest : newestOf (·.sampleTimeMs) (knownRows py threshold kind rows device source) =
      some p := by
    refine newestOf_eq hn knownRows_sub (mem_knownRows.mpr ⟨hrows, hof, by rw [hs]; rfl⟩)
      fun r hr => ?_
    obtain ⟨hr, hrof, -⟩ := mem_knownRows.mp hr
    exact hle r (List.mem_filter.mpr ⟨hr, hrof⟩)
  rw [newestState, hnewest, Option.bind_some, hs]

/-- A row of a known state that is not older than the known rows has the newest state. -/
theorem newestState_save {rows : List SampleRow} (hn : DistinctTimes rows) {row : SampleRow}
    {state : String}
    (hof : row.of device source = true) (hs : kind.stateOf py threshold row = some state)
    (hle : ∀ r ∈ knownRows py threshold kind rows device source,
      r.sampleTimeMs ≤ row.sampleTimeMs) :
    newestState py threshold kind (saveDeviceSample rows row) device source = some state := by
  have hn' : DistinctTimes (saveDeviceSample rows row) := nodup_alterRow (fun _ => rfl) hn
  have hnewest : newestOf (·.sampleTimeMs)
      (knownRows py threshold kind (saveDeviceSample rows row) device source) = some row := by
    refine newestOf_eq hn' knownRows_sub
      (mem_knownRows.mpr ⟨(mem_saveDeviceSample hn).mpr (.inl rfl), hof, by rw [hs]; rfl⟩)
        fun r hr => ?_
    obtain ⟨hr, hrof, hrs⟩ := mem_knownRows.mp hr
    rcases (mem_saveDeviceSample hn).mp hr with rfl | ⟨hr, -⟩
    · exact le_refl _
    · exact hle r (mem_knownRows.mpr ⟨hr, hrof, hrs⟩)
  rw [newestState, hnewest, Option.bind_some, hs]

/-- A row of another device or source is not looked at. -/
theorem knownRows_save_other {rows : List SampleRow} {row : SampleRow}
    (hof : row.of device source = false) :
    knownRows py threshold kind (saveDeviceSample rows row) device source =
      knownRows py threshold kind rows device source := by
  unfold knownRows saveDeviceSample
  induction rows with
  | nil => simp [alterRow, hof]
  | cons r rows ih =>
    unfold alterRow
    by_cases hk : r.key = row.key
    · have hrof : r.of device source = false := by
        have hd : r.device = row.device := congrArg Prod.fst hk
        have hs : r.source = row.source := congrArg (fun x => x.2.1) hk
        rw [← hof, SampleRow.of, SampleRow.of, hd, hs]
      rw [if_pos hk]
      simp [hof, hrof]
    · rw [if_neg hk, List.filter_cons, List.filter_cons, ih]

/-! ### The events of a type -/

/-- The events of a type of a device and a source, oldest first. -/
def eventsOf (kind : DeviceEventType) (events : List DeviceEventRow) (device source : String) :
    List DeviceEventRow :=
  events.filter fun e => e.eventType = kind ∧ e.deviceId = device ∧ e.source = source

/-- Each event starts where the one before ended, and changes the state. -/
structure EventChain (events : List DeviceEventRow) : Prop where
  links : events.IsChain fun a b => b.oldState = a.newState
  changes : ∀ e ∈ events, e.oldState ≠ e.newState

/-- The tables, and every row stored so far. -/
structure SampleLog where
  tables : DeviceTables := {}
  stored : List SampleRow := []
deriving DecidableEq

/-- The row a call stores. -/
def PersistCall.row (c : PersistCall) (py : CaseMapping) (s : DeviceTables) : Option SampleRow :=
  match c.intake py s.samples with
  | .accepted row _ => if c.writes.sample = .stored then some row else none
  | _ => none

/-- One call. -/
def SampleLog.next (py : CaseMapping) (threshold : Option ℚ) (s : SampleLog) (c : PersistCall) :
    SampleLog :=
  { tables := (s.tables.persistSample py threshold c).2, stored := s.stored ++ (c.row py s.tables).toList }

def SampleLog.step (py : CaseMapping) (threshold : Option ℚ) (s : SampleLog) (c : PersistCall)
    (t : SampleLog) : Prop :=
  t = s.next py threshold c

/-- The state of the first row stored of a known state. -/
def firstState (py : CaseMapping) (threshold : Option ℚ) (kind : DeviceEventType)
    (stored : List SampleRow) (device source : String) : Option String :=
  (stored.filter (·.of device source)).findSome? (kind.stateOf py threshold)

/-- Where the events have got to: the end of the last, or the first state known. -/
def toldState (py : CaseMapping) (threshold : Option ℚ) (kind : DeviceEventType) (s : SampleLog)
    (device source : String) : Option String :=
  ((eventsOf kind s.tables.events device source).getLast?.map (·.newState)).or
    (firstState py threshold kind s.stored device source)

/-! ### When a call tells what happened -/

variable {c : PersistCall} {row : SampleRow} {previous : Option SampleRow}

/-- The event of a type is stored: its write is made, and stored. -/
def EventStored (py : CaseMapping) (threshold : Option ℚ) (kind : DeviceEventType) (c : PersistCall)
    (row : SampleRow) (previous : Option SampleRow) : Prop :=
  c.writes.event kind = .stored ∧
    (kind = .temperatureAlert →
        DeviceEventType.statusChange.crossing py threshold previous row ≠ none →
      c.writes.statusEvent ≠ .raised)

instance : Decidable (EventStored py threshold kind c row previous) :=
  inferInstanceAs (Decidable (_ ∧ _))

/-- The condition on a call. A crossing is stored as a row and as an event, and the row is not older
than the one it is compared with; or neither is stored. A row stored without a crossing leaves the
newest state as it is, unless no state was known. -/
structure Faithful (py : CaseMapping) (threshold : Option ℚ) (kind : DeviceEventType)
    (s : SampleLog) (c : PersistCall) : Prop where
  told : ∀ row p, c.intake py s.tables.samples = .accepted row (some p) →
    kind.crossing py threshold (some p) row ≠ none → c.writes.sample ≠ .raised →
      (c.writes.sample = .stored ↔ EventStored py threshold kind c row (some p)) ∧
      (c.writes.sample = .stored → p.sampleTimeMs ≤ row.sampleTimeMs)
  quiet : ∀ row previous, c.intake py s.tables.samples = .accepted row previous →
    kind.crossing py threshold previous row = none → c.writes.sample = .stored →
      newestState py threshold kind (saveDeviceSample s.tables.samples row) row.device row.source =
          newestState py threshold kind s.tables.samples row.device row.source ∨
        newestState py threshold kind s.tables.samples row.device row.source = none

theorem Faithful.of_accepted {s : SampleLog}
    (hi : c.intake py s.tables.samples = .accepted row previous)
    (htold : ∀ p ∈ previous, kind.crossing py threshold (some p) row ≠ none →
      c.writes.sample ≠ .raised →
      (c.writes.sample = .stored ↔ EventStored py threshold kind c row (some p)) ∧
      (c.writes.sample = .stored → p.sampleTimeMs ≤ row.sampleTimeMs))
    (hquiet : kind.crossing py threshold previous row = none → c.writes.sample = .stored →
      newestState py threshold kind (saveDeviceSample s.tables.samples row) row.device row.source =
          newestState py threshold kind s.tables.samples row.device row.source ∨
        newestState py threshold kind s.tables.samples row.device row.source = none) :
    Faithful py threshold kind s c := by
  refine ⟨fun row' p hi' => ?_, fun row' previous' hi' => ?_⟩
  · rw [hi] at hi'
    obtain ⟨rfl, rfl⟩ := Intake.accepted.inj hi'
    exact htold p rfl
  · rw [hi] at hi'
    obtain ⟨rfl, rfl⟩ := Intake.accepted.inj hi'
    exact hquiet

/-! ### What a call does to the events of a type -/

theorem eventsOf_append (l k : List DeviceEventRow) :
    eventsOf kind (l ++ k) device source = eventsOf kind l device source ++
      eventsOf kind k device source :=
  List.filter_append ..

theorem saveTransitions_of {w : SampleWrites} : ∀ {l : List Transition},
    ∀ e ∈ (saveTransitions w device source l).1, e.deviceId = device ∧ e.source = source
  | [], e, he => by simp [saveTransitions] at he
  | t :: rest, e, he => by
    unfold saveTransitions at he
    split at he
    · simp at he
    · exact saveTransitions_of e he
    · rcases List.mem_cons.mp he with rfl | he
      · exact ⟨rfl, rfl⟩
      · exact saveTransitions_of e he

/-- The event of a type that a call stores. -/
def storedEvent (threshold : Option ℚ) (kind : DeviceEventType) (row : SampleRow)
    (old new : String) : DeviceEventRow :=
  { kind.event threshold row old new with deviceId := row.device, source := row.source }

/-- The events a call stores, of the type asked for: the crossing, if its write was made and
stored. -/
theorem eventsOf_saveTransitions (py : CaseMapping) (threshold : Option ℚ) (kind : DeviceEventType)
    (c : PersistCall) (row : SampleRow) (previous : Option SampleRow) :
    (∀ old new, kind.crossing py threshold previous row = some (old, new) →
      EventStored py threshold kind c row previous →
        eventsOf kind (saveTransitions c.writes row.device row.source
          (evaluateTransitions py threshold previous row)).1 row.device row.source =
            [storedEvent threshold kind row old new]) ∧
    (kind.crossing py threshold previous row = none ∨
      ¬ EventStored py threshold kind c row previous →
      eventsOf kind (saveTransitions c.writes row.device row.source
        (evaluateTransitions py threshold previous row)).1 row.device row.source = []) := by
  unfold evaluateTransitions EventStored DeviceEventType.transition
  cases hs : DeviceEventType.statusChange.crossing py threshold previous row with
  | none =>
    cases ha : DeviceEventType.temperatureAlert.crossing py threshold previous row with
    | none => cases kind <;> simp [hs, ha, saveTransitions, eventsOf]
    | some a =>
      obtain ⟨low, high⟩ := a
      cases hw : c.writes.alertEvent <;> cases kind <;>
        simp +contextual [hs, ha, hw, saveTransitions, eventsOf, SampleWrites.event,
            DeviceEventType.event,
          storedEvent]
  | some b =>
    obtain ⟨was, is⟩ := b
    cases ha : DeviceEventType.temperatureAlert.crossing py threshold previous row with
    | none =>
      cases hv : c.writes.statusEvent <;> cases kind <;>
        simp +contextual [hs, ha, hv, saveTransitions, eventsOf, SampleWrites.event,
            DeviceEventType.event,
          storedEvent]
    | some a =>
      obtain ⟨low, high⟩ := a
      cases hv : c.writes.statusEvent <;> cases hw : c.writes.alertEvent <;> cases kind <;>
        simp +contextual [hs, ha, hv, hw, saveTransitions, eventsOf, SampleWrites.event,
            DeviceEventType.event,
          storedEvent]

/-! ### The invariant -/

/-- The events of a type of a device and a source chain up to the newest state. -/
structure Told (py : CaseMapping) (threshold : Option ℚ) (kind : DeviceEventType) (s : SampleLog)
    (device source : String) : Prop where
  chain : EventChain (eventsOf kind s.tables.events device source)
  upTo : toldState py threshold kind s device source =
    newestState py threshold kind s.tables.samples device source

/-- What a call does to the tables: no event and no row of the type's device and source, or what its
row says. -/
theorem step_accepted {s t : SampleLog} (h : s.step py threshold c t) :
    (t.tables.samples = s.tables.samples ∧ t.tables.events = s.tables.events ∧
      t.stored = s.stored) ∨
    ∃ row previous, c.intake py s.tables.samples = .accepted row previous ∧
      c.writes.sample ≠ .raised ∧
      t.tables.events = s.tables.events ++ (saveTransitions c.writes row.device row.source
        (evaluateTransitions py threshold previous row)).1 ∧
      (c.writes.sample = .stored ∧ t.tables.samples = saveDeviceSample s.tables.samples row ∧
          t.stored = s.stored ++ [row] ∨
        c.writes.sample = .refused ∧ t.tables.samples = s.tables.samples ∧
          t.stored = s.stored) := by
  unfold SampleLog.step at h
  subst h
  unfold SampleLog.next DeviceTables.persistSample PersistCall.row
  cases hi : c.intake py s.tables.samples with
  | refused reason => exact .inl (by simp)
  | repeated previous => exact .inl (by simp)
  | accepted row previous =>
    unfold DeviceTables.write
    cases hw : c.writes.sample with
    | raised => exact .inl (by simp)
    | refused => exact .inr ⟨row, previous, rfl, (by simp), rfl, .inr (by simp)⟩
    | stored =>
      exact .inr ⟨row, previous, rfl, (by simp), rfl, .inl (by simp [DeviceTables.saveSample])⟩

/-- The previous row of an accepted sample, if one was read, is the newest of its device and
source. -/
theorem intake_previous {rows : List SampleRow} (h : c.intake py rows = .accepted row previous) :
    previous = none ∨ previous = fetchPreviousDeviceSample rows row.device row.source := by
  unfold PersistCall.intake at h
  simp only at h
  split_ifs at h
  split at h
  · cases h
  · split at h
    · have hb : ∀ {d s : String}, c.baseline rows d s = none ∨
          c.baseline rows d s = fetchPreviousDeviceSample rows d s := by
        intro d s
        unfold PersistCall.baseline
        split_ifs
        · exact .inr rfl
        · exact .inl rfl
      split_ifs at h
      · split at h
        · cases h
        · cases h
          exact hb
      · cases h
        exact hb
    · cases h

theorem newestState_eq_none {rows : List SampleRow} :
    newestState py threshold kind rows device source = none ↔
      knownRows py threshold kind rows device source = [] := by
  unfold newestState
  constructor
  · intro h
    rw [← newestOf_eq_none]
    by_contra hne
    obtain ⟨m, hm⟩ := Option.ne_none_iff_exists'.mp hne
    rw [hm, Option.bind_some] at h
    have hknown := (mem_knownRows.mp (newestOf_spec hm).1).2.2
    rw [h] at hknown
    cases hknown
  · intro h
    rw [h]
    rfl

theorem crossing_some {p : Option SampleRow} {old new : String}
    (h : kind.crossing py threshold p row = some (old, new)) :
    ∃ x, p = some x ∧ kind.stateOf py threshold x = some old ∧
      kind.stateOf py threshold row = some new ∧
      old ≠ new := by
  unfold DeviceEventType.crossing at h
  split at h
  · rename_i a b ha hb
    split_ifs at h with hne
    obtain ⟨rfl, rfl⟩ := Prod.mk.inj (Option.some.inj h)
    obtain ⟨x, rfl, hx⟩ := Option.bind_eq_some_iff.mp ha
    exact ⟨x, rfl, hx, hb, hne⟩
  · cases h

theorem EventChain.append {events : List DeviceEventRow} (h : EventChain events)
    {e : DeviceEventRow}
    (hlink : ∀ last ∈ events.getLast?, e.oldState = last.newState) (hne : e.oldState ≠ e.newState) :
    EventChain (events ++ [e]) := by
  refine ⟨?_, fun x hx => ?_⟩
  · refine List.IsChain.append h.links (List.isChain_singleton e) fun last hlast y hy => ?_
    obtain rfl : e = y := by simpa using hy
    exact hlink last hlast
  · rcases List.mem_append.mp hx with hx | hx
    · exact h.changes x hx
    · rw [List.mem_singleton.mp hx]
      exact hne

/-- A row stored without a crossing. -/
theorem Told.quiet {s t : SampleLog} (hn : DistinctTimes s.tables.samples)
    (h : Told py threshold kind s row.device row.source)
    (hevents : eventsOf kind t.tables.events row.device row.source =
      eventsOf kind s.tables.events row.device row.source)
    (hsamples : t.tables.samples = saveDeviceSample s.tables.samples row)
    (hstored : t.stored = s.stored ++ [row])
    (hquiet : newestState py threshold kind (saveDeviceSample s.tables.samples row)
      row.device row.source =
        newestState py threshold kind s.tables.samples row.device row.source ∨
      newestState py threshold kind s.tables.samples row.device row.source = none) :
    Told py threshold kind t row.device row.source := by
  have hof : row.of row.device row.source = true := by simp [SampleRow.of]
  have hfirst : firstState py threshold kind t.stored row.device row.source =
      (firstState py threshold kind s.stored row.device row.source).or
        (kind.stateOf py threshold row) := by
    unfold firstState
    rw [hstored, List.filter_append, List.findSome?_append, List.filter_cons_of_pos hof,
        List.filter_nil,
      List.findSome?_singleton]
  have htold : toldState py threshold kind t row.device row.source =
      (toldState py threshold kind s row.device row.source).or (kind.stateOf py threshold row) := by
    unfold toldState
    rw [hevents, hfirst, Option.or_assoc]
  refine ⟨hevents ▸ h.chain, ?_⟩
  rw [htold, h.upTo, hsamples]
  cases hnew : newestState py threshold kind s.tables.samples row.device row.source with
  | some x =>
    rw [hnew] at hquiet
    rcases hquiet with hq | hq
    · rw [hq]
      rfl
    · cases hq
  | none =>
    have hknown := newestState_eq_none.mp hnew
    cases hs : kind.stateOf py threshold row with
    | some y =>
      rw [newestState_save hn hof hs fun r hr => by rw [hknown] at hr; cases hr]
      rfl
    | none =>
      refine (newestState_eq_none.mpr (List.eq_nil_iff_forall_not_mem.mpr fun r hr => ?_)).symm
      obtain ⟨hr, hrof, hrs⟩ := mem_knownRows.mp hr
      rcases (mem_saveDeviceSample hn).mp hr with rfl | ⟨hr, -⟩
      · rw [hs] at hrs
        cases hrs
      · have hmem := mem_knownRows.mpr ⟨hr, hrof, hrs⟩
        rw [hknown] at hmem
        cases hmem

/-- A row stored with its event. -/
theorem Told.crossed {s t : SampleLog} {p : SampleRow} {old new : String}
    (hn : DistinctTimes s.tables.samples) (h : Told py threshold kind s row.device row.source)
    (hp : fetchPreviousDeviceSample s.tables.samples row.device row.source = some p)
    (hcross : kind.crossing py threshold (some p) row = some (old, new))
    (hevents : eventsOf kind t.tables.events row.device row.source =
      eventsOf kind s.tables.events row.device row.source ++
        [storedEvent threshold kind row old new])
    (hsamples : t.tables.samples = saveDeviceSample s.tables.samples row)
    (hle : p.sampleTimeMs ≤ row.sampleTimeMs) : Told py threshold kind t row.device row.source := by
  obtain ⟨x, hx, hold, hnew, hne⟩ := crossing_some hcross
  obtain rfl := Option.some.inj hx
  have hbefore := newestState_of_previous hn hp hold
  have hafter : newestState py threshold kind t.tables.samples row.device row.source =
      some new := by
    rw [hsamples]
    refine newestState_save hn (by simp [SampleRow.of]) hnew fun r hr => ?_
    obtain ⟨hr, hrof⟩ := knownRows_sub r hr
    exact ((newestOf_spec hp).2 r (List.mem_filter.mpr ⟨hr, hrof⟩)).trans hle
  have hstates : (storedEvent threshold kind row old new).oldState = old ∧
      (storedEvent threshold kind row old new).newState = new := by
    cases kind <;> exact ⟨rfl, rfl⟩
  refine ⟨?_, ?_⟩
  · rw [hevents]
    refine h.chain.append (fun last hlast => ?_) (by rw [hstates.1, hstates.2]; exact hne)
    have htold := h.upTo
    rw [hbefore, toldState, Option.mem_def.mp hlast] at htold
    rw [hstates.1]
    exact (Option.some.inj htold).symm
  · rw [hafter, toldState, hevents, List.getLast?_concat, Option.map_some, hstates.2]
    rfl

theorem Told.step {s t : SampleLog} (hn : DistinctTimes s.tables.samples)
    (h : Told py threshold kind s device source) (hc : Faithful py threshold kind s c)
    (hs : s.step py threshold c t) : Told py threshold kind t device source := by
  have hsame : t.tables.samples = s.tables.samples → t.stored = s.stored →
      eventsOf kind t.tables.events device source = eventsOf kind s.tables.events device source →
      Told py threshold kind t device source := by
    intro hsamples hstored hevents
    refine ⟨hevents ▸ h.chain, ?_⟩
    rw [toldState, hevents, hstored, hsamples]
    exact h.upTo
  rcases step_accepted hs with ⟨hsamples, hevents, hstored⟩ | ⟨row, previous, hi, hraised,
    hevents, hrow⟩
  · exact hsame hsamples hstored (by rw [hevents])
  by_cases hof : row.of device source = true
  swap
  · -- a row of another device or source
    have hof := eq_false_of_ne_true hof
    have hnone : eventsOf kind (saveTransitions c.writes row.device row.source
        (evaluateTransitions py threshold previous row)).1 device source = [] := by
      refine List.filter_eq_nil_iff.mpr fun e he => ?_
      obtain ⟨hd, hsrc⟩ := saveTransitions_of e he
      simp only [SampleRow.of, Bool.decide_and, Bool.and_eq_false_iff,
        decide_eq_false_iff_not] at hof
      simp only [hd, hsrc, Bool.decide_and, Bool.and_eq_true, decide_eq_true_eq, not_and]
      rcases hof with hof | hof
      · exact fun _ hd => absurd hd hof
      · exact fun _ _ => hof
    have hevents' : eventsOf kind t.tables.events device source =
        eventsOf kind s.tables.events device source := by
      rw [hevents, eventsOf_append, hnone, List.append_nil]
    rcases hrow with ⟨-, hsamples, hstored⟩ | ⟨-, hsamples, hstored⟩
    · refine ⟨hevents' ▸ h.chain, ?_⟩
      have hfirst : firstState py threshold kind t.stored device source =
          firstState py threshold kind s.stored device source := by
        unfold firstState
        rw [hstored, List.filter_append, List.filter_cons_of_neg (by rw [hof]; simp),
            List.filter_nil,
          List.append_nil]
      rw [toldState, hevents', hfirst, hsamples, newestState, knownRows_save_other hof]
      exact h.upTo
    · exact hsame hsamples hstored hevents'
  obtain ⟨rfl, rfl⟩ := SampleRow.of_iff.mp hof
  obtain ⟨hcrossed, hquiet⟩ := eventsOf_saveTransitions py threshold kind c row previous
  cases hcross : kind.crossing py threshold previous row with
  | none =>
    have hevents' : eventsOf kind t.tables.events row.device row.source =
        eventsOf kind s.tables.events row.device row.source := by
      rw [hevents, eventsOf_append, hquiet (.inl hcross), List.append_nil]
    rcases hrow with ⟨hw, hsamples, hstored⟩ | ⟨-, hsamples, hstored⟩
    · exact h.quiet hn hevents' hsamples hstored (hc.quiet row previous hi hcross hw)
    · exact hsame hsamples hstored hevents'
  | some states =>
    obtain ⟨old, new⟩ := states
    obtain ⟨p, rfl, -, -, -⟩ := crossing_some hcross
    have hp : fetchPreviousDeviceSample s.tables.samples row.device row.source = some p := by
      rcases intake_previous hi with hnone | hprev
      · cases hnone
      · exact hprev.symm
    obtain ⟨hboth, hle⟩ := hc.told row p hi (by rw [hcross]; simp) hraised
    rcases hrow with ⟨hw, hsamples, hstored⟩ | ⟨hw, hsamples, hstored⟩
    · refine h.crossed hn hp hcross ?_ hsamples (hle hw)
      rw [hevents, eventsOf_append, hcrossed old new hcross (hboth.mp hw)]
    · refine hsame hsamples hstored ?_
      have hno : ¬ EventStored py threshold kind c row (some p) := fun he => by
        rw [hboth.mpr he] at hw
        cases hw
      rw [hevents, eventsOf_append, hquiet (.inr hno), List.append_nil]

/-! ### Every run -/

theorem distinctTimes_step {s t : SampleLog} (hn : DistinctTimes s.tables.samples)
    (hs : s.step py threshold c t) : DistinctTimes t.tables.samples := by
  rcases step_accepted hs with ⟨hsamples, -⟩ | ⟨row, previous, -, -, -,
    ⟨-, hsamples, -⟩ | ⟨-, hsamples, -⟩⟩
  · rw [hsamples]
    exact hn
  · rw [hsamples]
    exact nodup_alterRow (fun _ => rfl) hn
  · rw [hsamples]
    exact hn

/-- What the events of a device and a source say: the two chains, and where the alerts have got
to. -/
structure EventsTell (py : CaseMapping) (threshold : Option ℚ) (s : SampleLog)
    (device source : String) : Prop where
  alerts : EventChain (eventsOf .temperatureAlert s.tables.events device source)
  statuses : EventChain (eventsOf .statusChange s.tables.events device source)
  /-- The newest reading with a temperature is of the band the last alert ended in, or of the first
  band known. -/
  band : toldState py threshold .temperatureAlert s device source =
    newestState py threshold .temperatureAlert s.tables.samples device source

/-- **The events chain up.** In a run whose calls all meet the condition, the events of each type of
a device and a source form a chain, and the alerts end in the band of its newest reading. -/
theorem deviceEvents_tell (py : CaseMapping) (threshold : Option ℚ) {calls : List PersistCall}
    {s : SampleLog}
    (h : Run (Guarded (fun s c => ∀ kind, Faithful py threshold kind s c)
      (SampleLog.step py threshold)) {} calls s)
    (device source : String) : EventsTell py threshold s device source := by
  have hinv : DistinctTimes s.tables.samples ∧ ∀ kind, Told py threshold kind s device source := by
    have hempty : DistinctTimes ({} : SampleLog).tables.samples := List.nodup_nil
    refine h.inv (I := fun s => DistinctTimes s.tables.samples ∧
        ∀ kind, Told py threshold kind s device source)
      ⟨hempty, fun kind => ⟨⟨.nil, fun e he => by cases he⟩, rfl⟩⟩ ?_
    rintro a c b ⟨hn, hall⟩ ⟨hfaithful, hstep⟩
    exact ⟨distinctTimes_step hn hstep, fun kind => (hall kind).step hn (hfaithful kind) hstep⟩
  obtain ⟨-, hall⟩ := hinv
  exact ⟨(hall .temperatureAlert).chain, (hall .statusChange).chain, (hall .temperatureAlert).upTo⟩

section Writes

/-- The case of ASCII letters. -/
def asciiCase : CaseMapping where
  lower := asciiLower
  upper := asciiUpper
  lower_ascii s hs := by
    have hmap :
        (s.toList.map fun c => if 65 ≤ c.toNat ∧ c.toNat ≤ 90 then
        Char.ofNat (c.toNat + 32) else c) =
        s.toList := by
      refine (List.map_congr_left fun c hc => ?_).trans (List.map_id _)
      have hlow := hs c hc
      rw [if_neg (by omega), id]
    rw [asciiLower, hmap, String.ofList_toList]
  upper_ascii _ _ := rfl

/-- A reading of one device. -/
def readingAt (t : ℤ) (temperature : ℚ) (sample : WriteResult) : PersistCall :=
  { device := "th-01", source := "home_assistant", temperature := .number (.finite temperature), status := "online"
    sampleTimeMs := some t, nowMs := t, writes := { sample } }

/-- The row of a reading is not stored, its event is: the next reading tells the same crossing
again. -/
theorem refusedWrite_repeats : ∃ s,
    Run (SampleLog.step asciiCase (some 30)) {}
      [readingAt 1 25 .stored, readingAt 2 35 .refused, readingAt 3 35 .stored] s ∧
    ¬ EventsTell asciiCase (some 30) s "TH-01" "home_assistant" := by
  refine ⟨_, Run.cons rfl (Run.cons rfl (Run.one rfl)), fun h => ?_⟩
  have hlinks := h.alerts.links
  have hevents : (eventsOf .temperatureAlert ((((({} : SampleLog).next asciiCase (some 30)
      (readingAt 1 25 .stored)).next asciiCase (some 30) (readingAt 2 35 .refused)).next
        asciiCase (some 30)
      (readingAt 3 35 .stored)).tables.events) "TH-01" "home_assistant").map (fun e =>
        (e.oldState, e.newState)) =
      [("NORMAL", "TEMPERATURE_HIGH"), ("NORMAL", "TEMPERATURE_HIGH")] := by decide +kernel
  have hpairs := (List.isChain_map (R := fun a b : String × String => b.1 = a.2)
    fun e : DeviceEventRow => (e.oldState, e.newState)).mpr hlinks
  rw [hevents, List.isChain_pair] at hpairs
  exact absurd hpairs (by decide)

/-- Two readings with a crossing between them. -/
theorem deviceEvents_tell_crossing :
    EventsTell asciiCase (some 30)
      ((({} : SampleLog).next asciiCase (some 30) (readingAt 1 25 .stored)).next
      asciiCase (some 30) (readingAt 2 35 .stored)) "TH-01" "home_assistant" := by
  refine deviceEvents_tell asciiCase (some 30)
      (Run.cons ⟨fun kind => ?_, rfl⟩ (Run.one ⟨fun kind => ?_, rfl⟩))
    "TH-01" "home_assistant"
  · have hi : (readingAt 1 25 .stored).intake asciiCase ({} : SampleLog).tables.samples =
        .accepted ⟨"TH-01", "home_assistant", 1, some 25, none, "online"⟩ none := by decide +kernel
    cases kind <;> exact .of_accepted hi (fun p hp => by cases hp) (by decide +kernel)
  · have hi : (readingAt 2 35 .stored).intake asciiCase
        (({} : SampleLog).next asciiCase (some 30) (readingAt 1 25 .stored)).tables.samples =
        .accepted ⟨"TH-01", "home_assistant", 2, some 35, none, "online"⟩
          (some ⟨"TH-01", "home_assistant", 1, some 25, none, "online"⟩) := by decide +kernel
    cases kind
    · refine .of_accepted hi (fun p hp => ?_) (by decide +kernel)
      obtain rfl := Option.some.inj hp
      decide +kernel
    · refine .of_accepted hi (fun p hp => ?_) (by decide +kernel)
      obtain rfl := Option.some.inj hp
      decide +kernel

end Writes

end TemperatureMonitor
