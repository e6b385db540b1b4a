/-
# The polls of a collector and what they store

`run_forever` polls the device and hands each result to `record_sample`: a sample
as it is, a failed poll as an offline sample that is to be stored only when the
status changes. Other writers store samples of other devices and sources between
the polls. What the tables show of the collector's own device is its log
(`DeviceLog`), a list to which each poll appends its row, or nothing when the
device was offline already (`collector_log`).
-/
import TemperatureMonitor.Collector.ModbusPoll
import TemperatureMonitor.Service.DeviceEventChain

namespace TemperatureMonitor

structure Collector where
  fl : FloatArith
  map : RegisterMap
  deviceId : String
  py : CaseMapping
  /-- The alert threshold, if one is set. -/
  threshold : Option ℚ := none

/-- What a round of the loop is: the poll's sample, if there was one, and the clock after it. -/
structure PollRound where
  sample : Option UnifiedSample
  nowMs : ℤ
deriving DecidableEq

variable (cfg : Collector)

/-- The device as it is stored. -/
def Collector.device : String := cfg.py.upper (strip cfg.deviceId)

def reading : Option ℚ → RawReading
  | some q => .number (.finite q)
  | none => .missing

/-- The call of `record_sample`. -/
def Collector.recordCall (round : PollRound) : PersistCall :=
  match round.sample with
  | some sample =>
    { device := cfg.deviceId, source := "modbus", temperature := reading sample.temperature
      humidity := reading sample.humidity, status :=
        if sample.online then "online" else "offline", nowMs := round.nowMs }
  | none =>
    { device := cfg.deviceId, source := "modbus", status := "offline", onlyOnStatusChange := true, nowMs := round.nowMs }

/-! ### The log -/

/-- The row of a round. -/
def Collector.rowOf (round : PollRound) : SampleRow where
  device := cfg.device
  source := "modbus"
  sampleTimeMs := round.nowMs
  temperature := round.sample.bind (·.temperature)
  humidity := round.sample.bind (·.humidity)
  status := if round.sample.any (·.online) then "online" else "offline"

/-- The rows and the events of a device and a source, oldest first. -/
structure DeviceLog where
  rows : List SampleRow := []
  events : List DeviceEventRow := []
deriving DecidableEq

/-- The newest row is offline. -/
def DeviceLog.isOffline (py : CaseMapping) (log : DeviceLog) : Bool :=
  log.rows.getLast?.any fun r => py.lower r.status = "offline"

/-- A row, and what has changed since the one before. -/
def DeviceLog.append (log : DeviceLog) (row : SampleRow) : DeviceLog where
  rows := log.rows ++ [row]
  events := log.events ++
      (evaluateTransitions cfg.py cfg.threshold log.rows.getLast? row).map fun t =>
    { t with deviceId := cfg.device, source := "modbus" }

/-- A round in the log: a failed poll of a device that is offline leaves it as it is. -/
def DeviceLog.round (log : DeviceLog) (round : PollRound) : DeviceLog :=
  if round.sample = none ∧ log.isOffline cfg.py then log else log.append cfg (cfg.rowOf round)

/-! ### The system -/

structure CollectorWorld (σ : Type) where
  tables : DeviceTables
  stats : PollerStats := {}
  /-- The device and the line to it. -/
  line : σ

/-- A round of the loop, or a sample of another device or source. -/
inductive CollectorLabel
  | round (round : PollRound)
  | other (call : PersistCall)

/-- Of a round the database stores what it is given, and the clock has moved on since the last
row. -/
inductive CollectorStep {σ : Type}
    (does : σ → (c : ModbusCall) → Except ModbusRaise c.Answer → σ → Prop) :
    CollectorWorld σ → CollectorLabel → CollectorWorld σ → Prop
  | round {w : CollectorWorld σ} {made : Modbus.Calls} {sample : Option UnifiedSample}
    {stats : PollerStats} {line : σ} {nowMs : ℤ} :
      Prog.Takes does (Modbus.pollOnce cfg.fl cfg.map w.stats)
        w.line made (.done (.ok (sample, stats))) line →
      (∀ r ∈ w.tables.samples, r.of cfg.device "modbus" → r.sampleTimeMs < nowMs) →
      CollectorStep does w (.round ⟨sample, nowMs⟩)
        { tables := (w.tables.persistSample cfg.py cfg.threshold (cfg.recordCall ⟨sample, nowMs⟩)).2, stats, line }
  | other {w : CollectorWorld σ} {call : PersistCall} :
      (cfg.py.upper (strip call.device), cfg.py.lower (strip call.source)) ≠
        (cfg.device, "modbus") →
      CollectorStep does w (.other call)
        { w with tables := (w.tables.persistSample cfg.py cfg.threshold call).2 }

/-- The rounds of a run. -/
def roundsOf (ls : List CollectorLabel) : List PollRound :=
  ls.filterMap fun
    | .round round => some round
    | .other _ => none

/-- What the tables show of the collector's device. -/
structure LogShown (t : DeviceTables) (log : DeviceLog) : Prop where
  distinct : DistinctTimes t.samples
  rows : t.samples.filter (·.of cfg.device "modbus") = log.rows
  sorted : log.rows.Pairwise fun a b => a.sampleTimeMs < b.sampleTimeMs
  events : t.events.filter (fun e => e.deviceId = cfg.device ∧ e.source = "modbus") = log.events

/-! ### A round -/

variable {cfg} {t : DeviceTables} {log : DeviceLog} {round : PollRound}

/-- A word of small letters is as it is handed in. -/
theorem lower_strip (py : CaseMapping) {word : String}
    (hword : ∀ c ∈ word.toList, 97 ≤ c.toNat ∧ c.toNat ≤ 122) : py.lower (strip word) = word := by
  have hstrip : strip word = word := by
    refine strip_eq fun c hc => ?_
    have hrange := hword c hc
    simp only [isSpace, Bool.or_eq_false_iff, Bool.and_eq_false_iff, decide_eq_false_iff_not,
      beq_eq_false_iff_ne]
    omega
  rw [hstrip, py.lower_ascii word hword]

theorem normalize_online (py : CaseMapping) : normalizeStatus py "online" = some "online" := by
  have hlower : py.lower (strip "online") = "online" := lower_strip py (by simp)
  unfold normalizeStatus
  rw [hlower]
  rfl

theorem normalize_offline (py : CaseMapping) : normalizeStatus py "offline" = some "offline" := by
  have hlower : py.lower (strip "offline") = "offline" := lower_strip py (by simp)
  unfold normalizeStatus
  rw [hlower]
  rfl

theorem coerce_reading (x : Option ℚ) : coerceNumber (reading x) = some x := by
  cases x <;> rfl

/-- The row before a round is the last of the log. -/
theorem LogShown.previous (h : LogShown cfg t log) :
    fetchPreviousDeviceSample t.samples cfg.device "modbus" = log.rows.getLast? := by
  unfold fetchPreviousDeviceSample
  rw [h.rows]
  exact newestOf_sorted h.sorted

/-- What the checks make of a round. -/
theorem recordCall_intake (hdevice : cfg.device ≠ "") (h : LogShown cfg t log) :
    (cfg.recordCall round).intake cfg.py t.samples =
      if round.sample = none ∧ log.isOffline cfg.py then .refused "status_unchanged"
      else .accepted (cfg.rowOf round) log.rows.getLast? := by
  have hprevious := h.previous
  have hlower : cfg.py.lower (strip "modbus") = "modbus" := lower_strip cfg.py (by simp)
  have hknown : "modbus" ∈ knownSources := by decide
  have hbase : cfg.py.upper (strip cfg.deviceId) = cfg.device := rfl
  have hzero : ¬ (0 : ℤ) > 0 := lt_irrefl 0
  obtain ⟨sample, nowMs⟩ := round
  cases sample with
  | none =>
    unfold PersistCall.intake PersistCall.baseline Collector.recordCall
    simp only [hlower, hbase, if_neg hdevice, hknown, not_true_eq_false, if_false,
        normalize_offline, coerceNumber, if_true, hprevious,
      hzero, false_and, true_and]
    rfl
  | some sample =>
    obtain ⟨temperature, humidity, online⟩ := sample
    unfold PersistCall.intake PersistCall.baseline Collector.recordCall
    cases online <;>
      simp only [hlower, hbase, if_neg hdevice, hknown, not_true_eq_false, if_false,
          normalize_online, normalize_offline, coerce_reading,
        hprevious, hzero, false_and, reduceCtorEq, if_true, Bool.false_eq_true] <;> rfl

/-- No row of the device is as new as the round's. -/
theorem key_new (h : ∀ r ∈ t.samples, r.of cfg.device "modbus" → r.sampleTimeMs < round.nowMs) :
    ∀ r ∈ t.samples, r.key ≠ (cfg.rowOf round).key := by
  intro r hr hkey
  have hof : r.of cfg.device "modbus" = true :=
    SampleRow.of_iff.mpr ⟨congrArg Prod.fst hkey, congrArg (fun k => k.2.1) hkey⟩
  have htime : r.sampleTimeMs = round.nowMs := congrArg (fun k => k.2.2) hkey
  exact absurd (h r hr hof) (by omega)

/-- The events of an accepted row, where the database stores them all. -/
theorem saveTransitions_all (device source : String) : ∀ l : List Transition,
    saveTransitions {} device source l =
      (l.map fun t => { t with deviceId := device, source := source }, false)
  | [] => rfl
  | t :: rest => by
    have hrest := saveTransitions_all device source rest
    have hstored : ({} : SampleWrites).event t.eventType = .stored := by cases t.eventType <;> rfl
    unfold saveTransitions
    rw [hstored, hrest]
    rfl

/-- A round is one step of the log. -/
theorem LogShown.polled (hdevice : cfg.device ≠ "") (h : LogShown cfg t log)
    (hclock : ∀ r ∈ t.samples, r.of cfg.device "modbus" → r.sampleTimeMs < round.nowMs) :
    LogShown cfg (t.persistSample cfg.py cfg.threshold (cfg.recordCall round)).2
      (log.round cfg round) := by
  have hintake : (cfg.recordCall round).intake cfg.py t.samples = _ := recordCall_intake hdevice h
  unfold DeviceTables.persistSample DeviceLog.round
  by_cases hquiet : round.sample = none ∧ log.isOffline cfg.py = true
  · rw [if_pos hquiet] at hintake ⊢
    rw [hintake]
    exact h
  · rw [if_neg hquiet] at hintake ⊢
    rw [hintake]
    have hwrites : (cfg.recordCall round).writes = {} := by
      unfold Collector.recordCall
      cases round.sample <;> rfl
    have htables :
        (t.write cfg.py cfg.threshold (cfg.recordCall round) (cfg.rowOf round)
        log.rows.getLast?).2 =
        { t.saveSample (cfg.rowOf round) (cfg.recordCall round).nowMs with
          events := t.events ++
              (evaluateTransitions cfg.py cfg.threshold log.rows.getLast? (cfg.rowOf round)).map
              fun t =>
            { t with deviceId := cfg.device, source := "modbus" } } := by
      unfold DeviceTables.write
      rw [hwrites]
      dsimp only
      rw [saveTransitions_all]
      rfl
    have hsamples : saveDeviceSample t.samples (cfg.rowOf round) = t.samples ++ [cfg.rowOf round] :=
      alterRow_new (key_new hclock)
    have hof : (cfg.rowOf round).of cfg.device "modbus" = true := SampleRow.of_iff.mpr ⟨rfl, rfl⟩
    have hrows : ∀ r ∈ log.rows, r ∈ t.samples ∧ r.of cfg.device "modbus" = true := fun r hr => by
      rw [← h.rows] at hr
      exact List.mem_filter.mp hr
    dsimp only
    rw [htables]
    refine ⟨?_, ?_, ?_, ?_⟩
    · exact nodup_alterRow (fun _ => rfl) h.distinct
    · show (saveDeviceSample t.samples (cfg.rowOf round)).filter _ = _
      rw [hsamples, List.filter_append, h.rows, List.filter_singleton, hof]
      rfl
    · refine List.pairwise_append.mpr ⟨h.sorted, List.pairwise_singleton _ _, fun a ha b hb => ?_⟩
      rw [List.mem_singleton.mp hb]
      exact hclock a (hrows a ha).1 (hrows a ha).2
    · show (t.events ++ _).filter _ = _
      rw [List.filter_append, h.events]
      congr 1
      refine List.filter_eq_self.mpr fun e he => ?_
      obtain ⟨_, -, rfl⟩ := List.mem_map.mp he
      simp

/-! ### The others -/

variable {call : PersistCall}

/-- An accepted row is of the call's device and source. -/
theorem intake_key {py : CaseMapping} {rows : List SampleRow} {row : SampleRow}
    {previous : Option SampleRow} (h : call.intake py rows = .accepted row previous) :
    row.device = py.upper (strip call.device) ∧ row.source = py.lower (strip call.source) := by
  unfold PersistCall.intake at h
  simp only at h
  split_ifs at h
  split at h
  · cases h
  · split at h
    · split_ifs at h
      · split at h
        · cases h
        · cases h
          exact ⟨rfl, rfl⟩
      · cases h
        exact ⟨rfl, rfl⟩
    · cases h

/-- A row of another device or source is not among those of this one. -/
theorem filter_save_other {rows : List SampleRow} {row : SampleRow} {device source : String}
    (hof : row.of device source = false) :
    (saveDeviceSample rows row).filter (·.of device source) = rows.filter (·.of device source) := by
  unfold saveDeviceSample
  induction rows with
  | nil => simp [alterRow, hof]
  | cons r rows ih =>
    unfold alterRow
    by_cases hk : r.key = row.key
    · have hrof : r.of device source = false := by
        have hd : r.device = row.device := congrArg Prod.fst hk
        have hs : r.source = row.source := congrArg (fun x => x.2.1) hk
        rw [← hof, SampleRow.of, SampleRow.of, hd, hs]
      rw [if_pos hk]
      simp [hof, hrof]
    · rw [if_neg hk, List.filter_cons, List.filter_cons, ih]

/-- A sample of another device or source leaves the log as it is. -/
theorem LogShown.other (h : LogShown cfg t log)
    (hother : (cfg.py.upper (strip call.device), cfg.py.lower (strip call.source)) ≠
      (cfg.device, "modbus")) :
    LogShown cfg (t.persistSample cfg.py cfg.threshold call).2 log := by
  have hstep : SampleLog.step cfg.py cfg.threshold { tables := t }
    call (SampleLog.next cfg.py cfg.threshold { tables := t } call) := rfl
  have hdistinct := distinctTimes_step (s := { tables := t }) h.distinct hstep
  rcases step_accepted hstep with ⟨hsamples, hevents, -⟩ | ⟨row, previous, hi, -, hevents, hstored⟩
  · exact ⟨hdistinct, (congrArg _ hsamples).trans h.rows, h.sorted,
      (congrArg _ hevents).trans h.events⟩
  · obtain ⟨hdevice, hsource⟩ := intake_key hi
    have hof : row.of cfg.device "modbus" = false := by
      refine Bool.eq_false_iff.mpr fun hof => hother ?_
      obtain ⟨hd, hs⟩ := SampleRow.of_iff.mp hof
      rw [← hdevice, ← hsource, hd, hs]
    refine ⟨hdistinct, ?_, h.sorted, ?_⟩
    · rcases hstored with ⟨-, hsamples, -⟩ | ⟨-, hsamples, -⟩
      · exact (congrArg _ hsamples).trans ((filter_save_other hof).trans h.rows)
      · exact (congrArg _ hsamples).trans h.rows
    · refine (congrArg _ hevents).trans ?_
      rw [List.filter_append, h.events]
      refine (congrArg _ (List.filter_eq_nil_iff.mpr fun e he hkey => ?_)).trans (List.append_nil _)
      obtain ⟨hd, hs⟩ := saveTransitions_of e he
      have hkey : e.deviceId = cfg.device ∧ e.source = "modbus" := by simpa using hkey
      have hown : row.of cfg.device "modbus" = true :=
        SampleRow.of_iff.mpr ⟨hd.symm.trans hkey.1, hs.symm.trans hkey.2⟩
      rw [hof] at hown
      cases hown

/-! ### The run -/

variable {σ : Type} {does : σ → (c : ModbusCall) → Except ModbusRaise c.Answer → σ → Prop}
  {w w' : CollectorWorld σ}
  {ls : List CollectorLabel}

theorem LogShown.run (hdevice : cfg.device ≠ "") (h : Run (CollectorStep cfg does) w ls w')
    (hstart : LogShown cfg w.tables log) :
    LogShown cfg w'.tables ((roundsOf ls).foldl (DeviceLog.round cfg) log) := by
  refine Run.inv_labels (I := fun ls w =>
      LogShown cfg w.tables ((roundsOf ls).foldl (DeviceLog.round cfg) log)) hstart
    (fun ls a l b _ hshows hstep => ?_) h
  have hrounds : roundsOf (ls ++ [l]) = roundsOf ls ++ roundsOf [l] := List.filterMap_append ..
  rw [hrounds, List.foldl_append]
  cases hstep with
  | round _ hclock => exact hshows.polled hdevice hclock
  | other hother => exact hshows.other hother

theorem isOffline_append (log : DeviceLog) (hround : round.sample = none) :
    (log.append cfg (cfg.rowOf round)).isOffline cfg.py = true := by
  have hlower : cfg.py.lower "offline" = "offline" := cfg.py.lower_ascii _ (by simp)
  unfold DeviceLog.isOffline DeviceLog.append Collector.rowOf
  rw [List.getLast?_concat, hround]
  simp [hlower]

/-- Failed polls of a device that is offline. -/
theorem outage_quiet : ∀ {rounds : List PollRound}
    {log : DeviceLog}, (∀ r ∈ rounds, r.sample = none) → log.isOffline cfg.py = true →
    rounds.foldl (DeviceLog.round cfg) log = log
  | [], _, _, _ => rfl
  | r :: rest, log, hfailed, hoff => by
    have hfirst : log.round cfg r = log := if_pos ⟨hfailed r List.mem_cons_self, hoff⟩
    rw [List.foldl_cons, hfirst]
    exact outage_quiet (fun r hr => hfailed r (List.mem_cons_of_mem _ hr)) hoff

/-- **The log of a collector.** Whatever the device answers and whoever else
stores samples, the tables show of the collector's device what its rounds append to
the log. Of polls that fail one after the other only the first has a row, and it
has none if the device was offline before. -/
theorem collector_log (hdevice : cfg.device ≠ "") (h : Run (CollectorStep cfg does) w ls w')
    (hstart : LogShown cfg w.tables log) :
    LogShown cfg w'.tables ((roundsOf ls).foldl (DeviceLog.round cfg) log) ∧
      ∀ before outage after, roundsOf ls = before ++ outage ++ after →
        (∀ r ∈ outage, r.sample = none) →
        let online := before.foldl (DeviceLog.round cfg) log
        let ended := (before ++ outage).foldl (DeviceLog.round cfg) log
        ended = online ∨
          online.isOffline cfg.py = false ∧
            ∃ first ∈ outage.head?, ended = online.append cfg (cfg.rowOf first) := by
  refine ⟨hstart.run hdevice h, fun before outage after _ hfailed => ?_⟩
  simp only [List.foldl_append]
  cases outage with
  | nil => exact .inl rfl
  | cons first rest =>
    have hrest : ∀ r ∈ rest, r.sample = none := fun r hr => hfailed r (List.mem_cons_of_mem _ hr)
    have hfirst := hfailed first List.mem_cons_self
    rw [List.foldl_cons]
    generalize before.foldl (DeviceLog.round cfg) log = online
    cases hoff : online.isOffline cfg.py with
    | true =>
      have hsame : online.round cfg first = online := if_pos ⟨hfirst, hoff⟩
      rw [hsame]
      exact .inl (outage_quiet hrest hoff)
    | false =>
      have hone : online.round cfg first = online.append cfg (cfg.rowOf first) :=
        if_neg fun hboth => by
          rw [hoff] at hboth
          cases hboth.2
      rw [hone]
      exact .inr ⟨rfl, first, rfl, outage_quiet hrest (isOffline_append online hfirst)⟩

section Outage

/-- A device that may go off the line. -/
def lineAnswers (c : ModbusCall) (r : Except ModbusRaise c.Answer) : Prop :=
  r = (Modbus.stillDevice Modbus.twoTypesRegisters () c).1 ∨ r = .error (.os "SerialException")

def belowZero : Collector where
  fl := exactArith
  map := Modbus.twoTypes
  deviceId := "plc-01"
  py := asciiCase

def belowZeroSample : UnifiedSample :=
  { temperature := some (-1), humidity := some (91 / 2), online := true }

/-- A poll, and two that fail. -/
def outageLabels : List CollectorLabel :=
  [.round ⟨some belowZeroSample, 1000⟩, .round ⟨none, 6000⟩, .round ⟨none, 11000⟩]

/-- The device off the line. -/
def offLine (_ : Unit) (c : ModbusCall) : Except ModbusRaise c.Answer × Unit :=
  (.error (.os "SerialException"), ())

theorem polled_off (stats : PollerStats) : ∃ made, Prog.Takes (fun _ c r _ => lineAnswers c r)
    (Modbus.pollOnce belowZero.fl belowZero.map stats) ()
      made (.done (.ok (none, stats.markFailure (.os "SerialException")))) () := by
  have hrun : Prog.Takes (fun _ c r _ => lineAnswers c r)
      (Modbus.pollOnce belowZero.fl belowZero.map stats) () _ _ _ :=
    Prog.takes_answered (fun _ _ => .inr rfl : ∀ s c, lineAnswers c (offLine s c).1) 2 .nil
  exact ⟨_, hrun⟩

theorem polled_below_zero : ∃ made, Prog.Takes (fun _ c r _ => lineAnswers c r)
    (Modbus.pollOnce belowZero.fl belowZero.map {}) ()
      made (.done (.ok (some belowZeroSample, { lastSuccess := some 1700000000 }))) () := by
  have hrun : Prog.Takes (fun _ c r _ => lineAnswers c r)
      (Modbus.pollOnce belowZero.fl belowZero.map {}) () _ _ _ :=
    Prog.takes_answered (fun _ c => .inl rfl) 10 .nil
  have hdone := Prog.returned_eq
    (p := (Prog.answered (Modbus.stillDevice Modbus.twoTypesRegisters)
      10 (Modbus.pollOnce belowZero.fl belowZero.map {}) ()).2.1)
    (a := (some belowZeroSample, { lastSuccess := some 1700000000 })) (by decide +kernel)
  rw [hdone] at hrun
  exact ⟨_, hrun⟩

theorem outage_run : ∃ w' : CollectorWorld Unit,
    Run (CollectorStep belowZero fun _ c r _ => lineAnswers c r) ⟨{}, {}, ()⟩ outageLabels w' := by
  obtain ⟨made, hpoll⟩ := polled_below_zero
  obtain ⟨made₁, hoff⟩ := polled_off { lastSuccess := some 1700000000 }
  obtain ⟨made₂, hoff'⟩ :=
    polled_off
      (({ lastSuccess := some 1700000000 } : PollerStats).markFailure (.os "SerialException"))
  exact ⟨_, .cons (.round hpoll (by decide +kernel)) (.cons (.round hoff (by decide +kernel))
    (.one (.round hoff' (by decide +kernel))))⟩

/-- One row for the outage. -/
theorem outage_one_row : ∃ w' : CollectorWorld Unit,
    Run (CollectorStep belowZero fun _ c r _ => lineAnswers c r) ⟨{}, {}, ()⟩ outageLabels w' ∧
      (w'.tables.samples.filter (·.of belowZero.device "modbus")).map (·.status) =
        ["online", "offline"] := by
  obtain ⟨w', hrun⟩ := outage_run
  have hstart : LogShown belowZero {} {} := ⟨List.nodup_nil, rfl, .nil, rfl⟩
  obtain ⟨hshows, -⟩ := collector_log (by decide +kernel) hrun hstart
  refine ⟨w', hrun, ?_⟩
  rw [hshows.rows]
  decide +kernel

end Outage

end TemperatureMonitor
