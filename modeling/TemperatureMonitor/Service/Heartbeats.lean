/-
# The heartbeat outbox

A heartbeat is stored with the presence of its device and queued. Every tick of
the scheduler fetches the first hundred rows and hands each to the listeners; a
device whose row is refused is blocked for the rest of the tick, a row that is
acknowledged is deleted. The outbox is a queue delivered in order for each
device (`Library.KeyedDelivery`), and the tick reaches the oldest row of a
device exactly if the rows of all devices before it do not fill the batch.
-/
import Mathlib.Data.List.Sort
import TemperatureMonitor.Library.KeyedDelivery
import TemperatureMonitor.Store.Presence

namespace TemperatureMonitor

/-! ### The outbox -/

/-- A row of `heartbeat_dispatch_outbox`. -/
structure HeartbeatRow where
  id : ℕ
  device : String
  source : String
  heartbeatTimeMs : ℤ
  presence : DevicePresence
deriving DecidableEq

/-- The two tables, the last id of the outbox, and the tick that runs. -/
structure HeartbeatStore where
  presence : List DevicePresence := []
  outbox : List HeartbeatRow := []
  sequence : ℕ := 0
  tick : Option (Batch HeartbeatRow String) := none
deriving DecidableEq

/-- `save_device_heartbeat`. -/
def HeartbeatStore.saveDeviceHeartbeat (s : HeartbeatStore) (device source : String)
    (heartbeatAtMs : ℤ)
    (availability : String) (temperature humidity : Option ℚ) (queueForDispatch : Bool) :
    HeartbeatStore :=
  let presence :=
    upsertDevicePresence s.presence device source none heartbeatAtMs availability
      temperature humidity
  match fetchDevicePresence presence device source with
  | some row =>
    if queueForDispatch then
      { s with
        presence
        outbox := s.outbox ++
          [{ id := s.sequence + 1, device, source, heartbeatTimeMs := heartbeatAtMs, presence := row }]
        sequence := s.sequence + 1 }
    else { s with presence }
  | none => { s with presence }

/-- `fetch_pending_heartbeats`: `ORDER BY id LIMIT`. -/
def fetchPendingHeartbeats (outbox : List HeartbeatRow) (limit : ℕ) : List HeartbeatRow :=
  (outbox.insertionSort fun a b => a.id ≤ b.id).take (max 1 (min limit 1000))

/-- The sample of a queued heartbeat. -/
def heartbeatSample (row : HeartbeatRow) : ObservedSample :=
  let observed := fromTimestampMs row.heartbeatTimeMs
  let status := row.presence.availability
  { deviceId := row.device
    sampleTime := observed
    temperature := if status ≠ "offline" then row.presence.temperature else none
    humidity := if status ≠ "offline" then row.presence.humidity else none
    onlineStatus := some status
    availability := some status
    recordType := "HEARTBEAT"
    heartbeatTime := some observed
    measurementTime := row.presence.lastMeasurementAtMs.map fromTimestampMs
    dataQuality := if status = "offline" then some .offline else none }

/-! ### The scheduler's tick -/

/-- What happens: writes of the request threads, and the steps of
`recover_pending_heartbeats` between two calls of the database. -/
inductive HeartbeatMove
  | heartbeat (device source : String) (heartbeatAtMs : ℤ) (availability : String)
    (temperature humidity : Option ℚ)
      (queueForDispatch : Bool)
  | measurement (device source : String) (measurementAtMs heartbeatAtMs : ℤ) (availability : String)
      (temperature humidity : Option ℚ)
  | tick
  | skipped (row : HeartbeatRow)
  | dispatched (row : HeartbeatRow) (sample : ObservedSample) (listeners : List ListenerCall)
  | acknowledged (row : HeartbeatRow)
  /-- The delete raised, or returned false. -/
  | acknowledgeFailed (row : HeartbeatRow)
  | ticked
  | crash
deriving DecidableEq

def HeartbeatStore.step (s : HeartbeatStore) : HeartbeatMove → Option HeartbeatStore
  | .heartbeat device source heartbeatAtMs availability temperature humidity queueForDispatch =>
    some (s.saveDeviceHeartbeat device source heartbeatAtMs availability temperature humidity
      queueForDispatch)
  | .measurement device source measurementAtMs heartbeatAtMs availability temperature humidity =>
    some { s with presence := upsertDevicePresence s.presence device source (some measurementAtMs) heartbeatAtMs
                    availability temperature humidity }
  | .tick =>
    if s.tick = none then
      some { s with tick := some { rows := fetchPendingHeartbeats s.outbox 100 } } else none
  | .skipped row => s.tick.bind fun t =>
    if t.handed = none ∧ t.rows.head? = some row ∧ row.device ∈ t.blocked then
      some { s with tick := some { t with rows := t.rows.tail } }
    else none
  | .dispatched row sample listeners => s.tick.bind fun t =>
    if t.handed = none ∧ t.rows.head? = some row ∧ row.device ∉ t.blocked ∧
        sample = heartbeatSample row then
      if notifySampleListeners listeners then
        some { s with tick := some { t with rows := t.rows.tail, handed := some row } }
      else some { s with tick := some { t with rows := t.rows.tail, blocked := row.device :: t.blocked } }
    else none
  | .acknowledged row => s.tick.bind fun t =>
    if t.handed = some row then
      some { s with outbox := s.outbox.filter fun r => r.id ≠ row.id, tick := some { t with handed := none } }
    else none
  | .acknowledgeFailed row => s.tick.bind fun t =>
    if t.handed = some row then
      some { s with tick := some { t with handed := none, blocked := row.device :: t.blocked } }
    else none
  | .ticked =>
    s.tick.bind fun t => if t.handed = none ∧ t.rows = [] then
      some { s with tick := none } else none
  | .crash => some { s with tick := none }

def HeartbeatStep (s : HeartbeatStore) (l : HeartbeatMove) (s' : HeartbeatStore) : Prop :=
  s.step l = some s'

/-! ### A keyed delivery -/

/-- The outbox as a queue with a consumer. -/
def HeartbeatStore.delivery (s : HeartbeatStore) : Outbox HeartbeatRow String :=
  { queue := s.outbox, last := s.sequence, batch := s.tick }

def HeartbeatMove.delivery : HeartbeatMove → Option (DeliveryMove HeartbeatRow)
  | heartbeat _ _ _ _ _ _ queueForDispatch => if queueForDispatch then some .push else none
  | measurement .. => none
  | tick => some .fetch
  | skipped row => some (.skip row)
  | dispatched row _ listeners => some (.hand row (notifySampleListeners listeners))
  | acknowledged row => some (.ack row)
  | acknowledgeFailed row => some (.ackFail row)
  | ticked => some .finish
  | crash => some .crash

section Simulation

variable {s s' : HeartbeatStore} {l : HeartbeatMove} {ls : List HeartbeatMove}
  {m : DeliveryMove HeartbeatRow}

/-- The moves on the outbox, in batches of a hundred. -/
abbrev HeartbeatDelivers := Delivers HeartbeatRow.id HeartbeatRow.device 100

/-- A heartbeat that is queued gets the next id. -/
theorem saveDeviceHeartbeat_delivery (device source : String) (heartbeatAtMs : ℤ)
    (availability : String) (temperature humidity : Option ℚ) :
    (s.saveDeviceHeartbeat device source heartbeatAtMs availability temperature humidity
      false).delivery = s.delivery ∧
      HeartbeatDelivers s.delivery .push
        (s.saveDeviceHeartbeat device source heartbeatAtMs availability temperature humidity
          true).delivery := by
  obtain ⟨p, hp⟩ := fetch_upsertDevicePresence s.presence device source none heartbeatAtMs
      availability temperature
    humidity
  unfold HeartbeatStore.saveDeviceHeartbeat
  simp only [hp]
  refine ⟨rfl, ?_⟩
  exact .push (HeartbeatRow.mk (s.sequence + 1) device source heartbeatAtMs p) (Nat.lt_succ_self _)

/-- Of the ordered outbox the query reads the first hundred rows. -/
theorem fetchPendingHeartbeats_eq {outbox : List HeartbeatRow}
    (h : outbox.Pairwise fun a b => a.id < b.id) :
    fetchPendingHeartbeats outbox 100 = outbox.take 100 := by
  unfold fetchPendingHeartbeats
  rw [(h.imp fun hlt => Nat.le_of_lt hlt).insertionSort_eq]
  rfl

theorem step_none (h : HeartbeatStep s l s') (hl : l.delivery = none) :
    s'.delivery = s.delivery := by
  cases l with
  | heartbeat device source heartbeatAtMs availability temperature humidity queueForDispatch =>
    cases queueForDispatch with
    | false =>
      rw [← Option.some.inj h]
      exact (saveDeviceHeartbeat_delivery device source heartbeatAtMs availability
        temperature humidity).1
    | true => cases hl
  | measurement =>
    rw [← Option.some.inj h]
    rfl
  | _ => cases hl

/-- What a step of the tick found. -/
theorem bind_ite {t : Option (Batch HeartbeatRow String)}
    {P : Batch HeartbeatRow String → Prop} [DecidablePred P]
    {f : Batch HeartbeatRow String → HeartbeatStore}
    (h : (t.bind fun b => if P b then some (f b) else none) = some s') :
    ∃ b, t = some b ∧ P b ∧ f b = s' := by
  cases t with
  | none => cases h
  | some b =>
    simp only [Option.bind_some] at h
    split_ifs at h with hP
    exact ⟨b, rfl, hP, Option.some.inj h⟩

/-- The head of a batch. -/
theorem rows_of_head {b : Batch HeartbeatRow String} {row : HeartbeatRow}
    (h : b.rows.head? = some row) : b.rows = row :: b.rows.tail := (List.cons_head?_tail h).symm

/-- **A step of the outbox is a move of the delivery.** -/
theorem step_some (hok : s.delivery.Ok HeartbeatRow.id HeartbeatRow.device)
    (h : HeartbeatStep s l s')
    (hl : l.delivery = some m) : HeartbeatDelivers s.delivery m s'.delivery := by
  cases l with
  | heartbeat device source heartbeatAtMs availability temperature humidity queueForDispatch =>
    cases queueForDispatch with
    | false => cases hl
    | true =>
      obtain rfl := Option.some.inj hl
      rw [← Option.some.inj h]
      exact (saveDeviceHeartbeat_delivery device source heartbeatAtMs availability
        temperature humidity).2
  | measurement => cases hl
  | tick =>
    obtain rfl := Option.some.inj hl
    simp only [HeartbeatStep, HeartbeatStore.step] at h
    split_ifs at h with hnone
    have hfetch : fetchPendingHeartbeats s.outbox 100 = s.outbox.take 100 :=
      fetchPendingHeartbeats_eq hok.sorted
    rw [← Option.some.inj h, hfetch]
    exact .fetch hnone
  | skipped row =>
    obtain rfl := Option.some.inj hl
    obtain ⟨b, hb, ⟨hh, hr, hk⟩, rfl⟩ := bind_ite h
    exact .skip b row b.rows.tail hb hh (rows_of_head hr) hk
  | dispatched row sample listeners =>
    obtain rfl := Option.some.inj hl
    have hsplit :
        (s.tick.bind fun t => if t.handed = none ∧ t.rows.head? = some row ∧
        row.device ∉ t.blocked ∧
        sample = heartbeatSample row then some (if notifySampleListeners listeners then
          { s with tick := some { t with rows := t.rows.tail, handed := some row } }
        else { s with tick := some { t with rows := t.rows.tail, blocked := row.device :: t.blocked } }) else none) =
        some s' := by
      rw [← h]
      simp only [HeartbeatStore.step, apply_ite some]
    obtain ⟨b, hb, ⟨hh, hr, hk, -⟩, rfl⟩ := bind_ite hsplit
    cases hacc : notifySampleListeners listeners with
    | true => exact .accept b row b.rows.tail hb hh (rows_of_head hr) hk
    | false => exact .refuse b row b.rows.tail hb hh (rows_of_head hr) hk
  | acknowledged row =>
    obtain rfl := Option.some.inj hl
    obtain ⟨b, hb, hh, rfl⟩ := bind_ite h
    exact .ack b row hb hh
  | acknowledgeFailed row =>
    obtain rfl := Option.some.inj hl
    obtain ⟨b, hb, hh, rfl⟩ := bind_ite h
    exact .ackFail b row hb hh
  | ticked =>
    obtain rfl := Option.some.inj hl
    obtain ⟨b, hb, ⟨hh, hr⟩, rfl⟩ := bind_ite h
    exact .finish b hb hh hr
  | crash =>
    obtain rfl := Option.some.inj hl
    rw [← Option.some.inj h]
    exact .crash

/-- **The outbox is a keyed delivery.** -/
theorem heartbeats_deliver {start : HeartbeatStore}
    (hok : start.delivery.Ok HeartbeatRow.id HeartbeatRow.device)
    (h : Run HeartbeatStep start ls s) :
    Run HeartbeatDelivers start.delivery (ls.filterMap (·.delivery)) s.delivery := by
  refine h.filterMap (p := HeartbeatStore.delivery) (fun _ _ _ => step_none) ?_
  intro ks a l b m _ hr hs hl
  exact step_some (hok.run hr) hs hl

theorem heartbeatStep_unique (a : HeartbeatStore) (l : HeartbeatMove) (b c : HeartbeatStore)
    (h : HeartbeatStep a l b)
    (h' : HeartbeatStep a l c) : b = c := Option.some.inj (h.symm.trans h')

/-! ### What is promised of the outbox -/

/-- A row leaves only after a dispatch of it that was not refused, the dispatches
of a device that were not refused come in the order of the ids (a row again only
after a crash or an acknowledgement of it that failed, with none that did not
before), and each tick that is not cut short dispatches the oldest row of every
device. -/
structure HeartbeatsDelivered (ls : List HeartbeatMove) : Prop where
  leaves : ∀ pre l post s s' row, ls = pre ++ l :: post → Run HeartbeatStep {} pre s →
      HeartbeatStep s l s' →
    row ∈ s.outbox → row ∉ s'.outbox →
    ∃ sample listeners, .dispatched row sample listeners ∈ pre ∧
      notifySampleListeners listeners = true
  ordered : ∀ pre mid post row sample listeners row' sample' listeners',
    ls = pre ++ .dispatched row sample listeners :: mid ++
      .dispatched row' sample' listeners' :: post →
    notifySampleListeners listeners = true → notifySampleListeners listeners' = true →
      row.device = row'.device →
    row.id ≤ row'.id ∧ (row.id = row'.id →
      ComesFirst (fun l => l = .crash ∨ l = .acknowledgeFailed row) (· = .acknowledged row) mid)
  attempted : ∀ pre mid post s row, ls = pre ++ .tick :: mid ++ .ticked :: post → .crash ∉ mid →
      .tick ∉ mid →
    Run HeartbeatStep {} pre s → row ∈ s.outbox →
      (∀ r ∈ s.outbox, r.device = row.device → row.id ≤ r.id) →
    ∃ sample listeners, .dispatched row sample listeners ∈ mid

/-- At each tick that is not cut short fewer than a hundred rows are queued
before the oldest of a device. -/
def BatchReaches (ls : List HeartbeatMove) : Prop :=
  ∀ pre mid post s row, ls = pre ++ .tick :: mid ++ .ticked :: post → .crash ∉ mid → .tick ∉ mid →
    Run HeartbeatStep {} pre s → row ∈ s.outbox →
      (∀ r ∈ s.outbox, r.device = row.device → row.id ≤ r.id) →
    (s.outbox.filter fun r => r.id < row.id).length < 100

/-- The move of a dispatch comes from one. -/
theorem hand_mem {row : HeartbeatRow} {accepted : Bool} :
    .hand row accepted ∈ ls.filterMap (·.delivery) ↔
      ∃ sample listeners, .dispatched row sample listeners ∈ ls ∧
        notifySampleListeners listeners = accepted := by
  rw [List.mem_filterMap]
  constructor
  · rintro ⟨l, hl, hm⟩
    cases l with
    | dispatched r sample listeners =>
      cases hm
      exact ⟨sample, listeners, hl, rfl⟩
    | heartbeat device source heartbeatAtMs availability temperature humidity queueForDispatch =>
      cases queueForDispatch <;> cases hm
    | _ => cases hm
  · rintro ⟨sample, listeners, hl, rfl⟩
    exact ⟨_, hl, rfl⟩

/-- The move of the outbox that a move of the delivery comes from, where it is one. -/
def originOf : DeliveryMove HeartbeatRow → Option HeartbeatMove
  | .push | .hand .. => none
  | .fetch => some .tick
  | .skip row => some (.skipped row)
  | .ack row => some (.acknowledged row)
  | .ackFail row => some (.acknowledgeFailed row)
  | .finish => some .ticked
  | .crash => some .crash

theorem delivery_iff {k : HeartbeatMove} (h : originOf m = some l) :
    k.delivery = some m ↔ k = l := by
  constructor
  · intro hk
    cases k with
    | heartbeat device source heartbeatAtMs availability temperature humidity queueForDispatch =>
      cases queueForDispatch with
      | false => cases hk
      | true =>
        cases hk
        cases h
    | measurement => cases hk
    | dispatched row sample listeners =>
      cases hk
      cases h
    | _ =>
      cases hk
      exact Option.some.inj h
  · rintro rfl
    cases m with
    | push => cases h
    | hand row accepted => cases h
    | _ =>
      cases h
      rfl

theorem heartbeat_leaves {row : HeartbeatRow} (h : Run HeartbeatStep {} ls s)
    (hs : HeartbeatStep s l s') (hrow : row ∈ s.outbox) (hgone : row ∉ s'.outbox) :
    ∃ sample listeners, .dispatched row sample listeners ∈ ls ∧
      notifySampleListeners listeners = true := by
  have hrun := heartbeats_deliver Outbox.ok_init h
  cases hl : l.delivery with
  | none =>
    have hsame := step_none hs hl
    have : row ∈ s'.delivery.queue := by
      rw [hsame]
      exact hrow
    exact absurd this hgone
  | some m =>
    have hmove := step_some (Outbox.ok_init.run hrun) hs hl
    exact hand_mem.mp (Outbox.removed_after_accept hrun hmove hrow hgone)

/-- A tick dispatches the oldest row of a device exactly if fewer than a hundred
rows are queued before it. -/
theorem oldest_dispatched_iff {pre mid post : List HeartbeatMove} {row : HeartbeatRow}
    {t : HeartbeatStore}
    (h : Run HeartbeatStep {} (pre ++ .tick :: mid ++ .ticked :: post) s) (hcrash : .crash ∉ mid)
    (htick : .tick ∉ mid) (hpre : Run HeartbeatStep {} pre t) (hrow : row ∈ t.outbox)
    (hold : ∀ r ∈ t.outbox, r.device = row.device → row.id ≤ r.id) :
    (∃ sample listeners, .dispatched row sample listeners ∈ mid) ↔
      (t.outbox.filter fun r => r.id < row.id).length < 100 := by
  rw [List.append_assoc, List.cons_append] at h
  obtain ⟨t₀, t₁, hpre', hs, hrest⟩ := h.at_label
  obtain rfl := hpre.unique heartbeatStep_unique hpre'
  have hqueue := heartbeats_deliver Outbox.ok_init hpre
  have hrun := heartbeats_deliver (Outbox.ok_init.run hqueue) (.cons hs hrest)
  rw [List.filterMap_cons_some (show HeartbeatMove.tick.delivery = some .fetch from rfl),
      List.filterMap_append,
    List.filterMap_cons_some (show HeartbeatMove.ticked.delivery = some .finish from rfl)] at hrun
  have hiff := Outbox.oldest_handed_iff hqueue hrun
    (fun hmem => hcrash ((mem_filterMap_iff fun k => delivery_iff rfl).mp hmem))
    (fun hmem => htick ((mem_filterMap_iff fun k => delivery_iff rfl).mp hmem)) hrow hold
  refine Iff.trans ?_ hiff
  constructor
  · rintro ⟨sample, listeners, hmem⟩
    exact ⟨_, hand_mem.mpr ⟨sample, listeners, hmem, rfl⟩⟩
  · rintro ⟨accepted, hmem⟩
    obtain ⟨sample, listeners, hmem, -⟩ := hand_mem.mp hmem
    exact ⟨sample, listeners, hmem⟩

/-- **The outbox is delivered as promised exactly if every batch reaches the
oldest row of each device.** -/
theorem heartbeats_delivered_iff (h : Run HeartbeatStep {} ls s) : HeartbeatsDelivered ls ↔
    BatchReaches ls := by
  constructor
  · intro hd pre mid post t row hsplit hcrash hno hpre hrow hold
    have hattempted := hd.attempted pre mid post t row hsplit hcrash hno hpre hrow hold
    rw [hsplit] at h
    exact (oldest_dispatched_iff h hcrash hno hpre hrow hold).mp hattempted
  · intro hb
    refine ⟨?_, ?_, ?_⟩
    · intro pre l post t t' row hsplit hpre hs hrow hgone
      exact heartbeat_leaves hpre hs hrow hgone
    · intro pre mid post row sample listeners row' sample' listeners' hsplit hok hok' hdevice
      have hrun := heartbeats_deliver Outbox.ok_init h
      have hhand : (HeartbeatMove.dispatched row sample listeners).delivery =
          some (.hand row true) := by
        rw [← hok]
        rfl
      have hhand' : (HeartbeatMove.dispatched row' sample' listeners').delivery =
          some (.hand row' true) := by
        rw [← hok']
        rfl
      rw [hsplit, List.filterMap_append, List.filterMap_append, List.filterMap_cons_some hhand,
        List.filterMap_cons_some hhand'] at hrun
      obtain ⟨hle, hagain⟩ := Outbox.accepts_ordered hrun hdevice
      refine ⟨hle, fun hid => (hagain hid).of_filterMap ?_ ?_⟩
      · rintro l m hl (rfl | rfl)
        · exact .inl ((delivery_iff rfl).mp hl)
        · exact .inr ((delivery_iff rfl).mp hl)
      · rintro l rfl
        exact ⟨_, rfl, rfl⟩
    · intro pre mid post t row hsplit hcrash hno hpre hrow hold
      have hfew := hb pre mid post t row hsplit hcrash hno hpre hrow hold
      rw [hsplit] at h
      exact (oldest_dispatched_iff h hcrash hno hpre hrow hold).mpr hfew

end Simulation

/-! ### A batch filled by one device -/

/-- The moves one after another. -/
def playHeartbeats (s : HeartbeatStore) (ls : List HeartbeatMove) : Option HeartbeatStore :=
  ls.foldlM HeartbeatStore.step s

theorem playHeartbeats_run {ls : List HeartbeatMove} :
    ∀ {s t : HeartbeatStore}, playHeartbeats s ls = some t → Run HeartbeatStep s ls t := by
  induction ls with
  | nil =>
    intro s t h
    rw [← Option.some.inj h]
    exact .nil
  | cons l ls ih =>
    intro s t h
    obtain ⟨u, hu, hrest⟩ := Option.bind_eq_some_iff.mp h
    exact .cons hu (ih hrest)

/-- The `n`-th heartbeat, of an offline device. -/
def offlineRow (n : ℕ) (device : String) : HeartbeatRow :=
  ⟨n, device, "home_assistant", 0, ⟨device, "home_assistant", none, some 0, "offline", none, none⟩⟩

def offlineHeartbeat (device : String) : HeartbeatMove :=
  .heartbeat device "home_assistant" 0 "offline" none none true

/-- A hundred heartbeats of a device, and one of another. -/
def fullBatch : List HeartbeatMove :=
  List.replicate 100 (offlineHeartbeat "A") ++ [offlineHeartbeat "B"]

/-- A tick in which the first row is refused: the others of its device are skipped. -/
def refusedTick : List HeartbeatMove :=
  .dispatched (offlineRow 1 "A") (heartbeatSample (offlineRow 1 "A")) [⟨true, .raised⟩] ::
    (List.range 99).map fun i => .skipped (offlineRow (i + 2) "A")

/-- The store after the heartbeats of a full batch. -/
def fullStore : HeartbeatStore := (playHeartbeats {} fullBatch).getD {}

/-- **Another device's rows fill the batch**: the only row of "B" is not
dispatched, and the tick leaves the outbox as it was. -/
theorem other_device_starved :
    ¬ HeartbeatsDelivered (fullBatch ++ .tick :: refusedTick ++ [.ticked]) ∧
      Run HeartbeatStep {} (fullBatch ++ .tick :: refusedTick ++ [.ticked]) fullStore := by
  have hfull : playHeartbeats {} fullBatch = some fullStore := by decide +kernel
  have htick : playHeartbeats fullStore (.tick :: refusedTick ++ [.ticked]) = some fullStore := by
    decide +kernel
  refine ⟨fun hd => ?_, ?_⟩
  · obtain ⟨sample, listeners, hmem⟩ := hd.attempted fullBatch refusedTick []
        fullStore (offlineRow 101 "B") rfl
      (by decide +kernel) (by decide +kernel) (playHeartbeats_run hfull) (by decide +kernel)
        (by decide +kernel)
    simp [refusedTick, offlineRow] at hmem
  · rw [List.append_assoc]
    exact (playHeartbeats_run hfull).append (playHeartbeats_run htick)

/-- Two devices, of which one is refused. -/
def sharedTick : List HeartbeatMove :=
  [offlineHeartbeat "A", offlineHeartbeat "B", .tick,
    .dispatched (offlineRow 1 "A") (heartbeatSample (offlineRow 1 "A")) [⟨true, .refused⟩],
    .dispatched (offlineRow 2 "B") (heartbeatSample (offlineRow 2 "B")) [⟨true, .returned⟩],
    .acknowledged (offlineRow 2 "B"), .ticked]

theorem shared_tick_delivered : ∃ s, Run HeartbeatStep {} sharedTick s ∧
    s.outbox = [offlineRow 1 "A"] ∧ (HeartbeatsDelivered sharedTick ↔ BatchReaches sharedTick) := by
  have h : Run HeartbeatStep {} sharedTick ((playHeartbeats {} sharedTick).getD {}) :=
    playHeartbeats_run (by decide +kernel)
  exact ⟨_, h, by decide +kernel, heartbeats_delivered_iff h⟩

end TemperatureMonitor
