/-
# Samples, presence and the listeners

The tables `device_samples` and `device_presence`, the observation a stored row
is read back as, and the listeners it is handed to. A sample is known by its
device, source and time, so a sample stored again replaces its row; presence
keeps the last value given.
-/
import TemperatureMonitor.Domain.Models
import TemperatureMonitor.Library.Newest
import TemperatureMonitor.Library.Table

namespace TemperatureMonitor

/-! ### Presence -/

/-- A row of `device_presence`. -/
structure DevicePresence where
  device : String
  source : String
  lastMeasurementAtMs : Option ℤ
  lastHeartbeatAtMs : Option ℤ
  availability : String
  temperature : Option ℚ
  humidity : Option ℚ
deriving DecidableEq

def DevicePresence.key (p : DevicePresence) : String × String := (p.device, p.source)

/-- `_upsert_device_presence_locked`: a value that is not given stays. -/
def upsertDevicePresence (rows : List DevicePresence) (device source : String)
    (measurementAtMs : Option ℤ)
    (heartbeatAtMs : ℤ) (availability : String) (temperature humidity : Option ℚ) :
    List DevicePresence :=
  alterRow DevicePresence.key (device, source) (fun old =>
    { device
      source
      lastMeasurementAtMs := measurementAtMs <|> old.bind (·.lastMeasurementAtMs)
      lastHeartbeatAtMs := some heartbeatAtMs
      availability
      temperature := temperature <|> old.bind (·.temperature)
      humidity := humidity <|> old.bind (·.humidity) }) rows

/-- `fetch_device_presence`. -/
def fetchDevicePresence (rows : List DevicePresence) (device source : String) :
    Option DevicePresence :=
  rowOf DevicePresence.key rows (device, source)

/-- After an upsert the device has its row. -/
theorem fetch_upsertDevicePresence (rows : List DevicePresence) (device source : String)
    (measurementAtMs : Option ℤ)
    (heartbeatAtMs : ℤ) (availability : String) (temperature humidity : Option ℚ) :
    ∃ p, fetchDevicePresence
      (upsertDevicePresence rows device source measurementAtMs heartbeatAtMs availability
      temperature humidity) device source = some p :=
  ⟨_, rowOf_alterRow_self fun _ => rfl⟩

/-! ### Samples -/

/-- A row of `device_samples`. -/
structure SampleRow where
  device : String
  source : String
  sampleTimeMs : ℤ
  temperature : Option ℚ
  humidity : Option ℚ
  status : String
deriving DecidableEq

/-- The primary key. -/
def SampleRow.key (r : SampleRow) : String × String × ℤ := (r.device, r.source, r.sampleTimeMs)

/-- `INSERT OR REPLACE`. -/
def saveDeviceSample (rows : List SampleRow) (row : SampleRow) : List SampleRow :=
  alterRow SampleRow.key row.key (fun _ => row) rows

/-- `fetch_device_sample_at`. -/
def fetchDeviceSampleAt (rows : List SampleRow) (device source : String) (sampleTimeMs : ℤ) :
    Option SampleRow :=
  rowOf SampleRow.key rows (device, source, sampleTimeMs)

/-- The row is of this device and source. -/
def SampleRow.of (device source : String) (r : SampleRow) : Bool :=
  r.device = device ∧ r.source = source

/-- `fetch_previous_device_sample`. -/
def fetchPreviousDeviceSample (rows : List SampleRow) (device source : String) : Option SampleRow :=
  newestOf (·.sampleTimeMs) (rows.filter (·.of device source))

/-- The latest sample is stored. -/
theorem fetch_of_previous {rows : List SampleRow} {row : SampleRow} {device source : String}
    (h : fetchPreviousDeviceSample rows device source = some row) :
    (fetchDeviceSampleAt rows device source row.sampleTimeMs).isSome := by
  obtain ⟨hmem, hof⟩ := List.mem_filter.mp ((isNewest_newestOf _).1 row h)
  have hof : row.device = device ∧ row.source = source := by simpa [SampleRow.of] using hof
  refine Option.isSome_iff_exists.mpr (rowOf_isSome_iff.mpr ⟨row, hmem, ?_⟩)
  rw [SampleRow.key, hof.1, hof.2]

/-- A sample that is stored stays stored, if only in a newer version. -/
theorem fetch_saveDeviceSample {rows : List SampleRow} {row : SampleRow}
    {device source : String} {t : ℤ} (h : (fetchDeviceSampleAt rows device source t).isSome) :
    (fetchDeviceSampleAt (saveDeviceSample rows row) device source t).isSome := by
  unfold fetchDeviceSampleAt saveDeviceSample
  rw [rowOf_alterRow fun _ => rfl]
  split_ifs
  · rfl
  · exact h

theorem fetch_saveDeviceSample_self (rows : List SampleRow) (row : SampleRow) :
    fetchDeviceSampleAt (saveDeviceSample rows row) row.device row.source row.sampleTimeMs =
      some row :=
  rowOf_alterRow_self fun _ => rfl

/-! ### What the listeners get -/

/-- A sample with the times of its measurement and of its heartbeat. -/
structure ObservedSample extends MonitorSample where
  recordType : String := "MEASUREMENT"
  measurementTime : Option DateTime := none
  heartbeatTime : Option DateTime := none
  availability : Option String := none
deriving DecidableEq

/-- `datetime.fromtimestamp(ms / 1000)`. -/
def fromTimestampMs (ms : ℤ) : DateTime := .utc (ms * 1000)

/-- A listener returned `False`, or something else, or raised. -/
inductive ListenerResult
  | refused | returned | raised
deriving DecidableEq

/-- A call of a listener. -/
structure ListenerCall where
  required : Bool
  result : ListenerResult
deriving DecidableEq

/-- `_notify_sample_listeners`: every required listener took the sample, and
there is one. -/
def notifySampleListeners (calls : List ListenerCall) : Bool :=
  calls.foldl (fun acknowledged c => if c.required ∧ c.result ≠ .returned then false
      else acknowledged)
    (calls.any (·.required))

end TemperatureMonitor
