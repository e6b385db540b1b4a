/-
# Runs that are computed

`World.play` takes one command after the other and gives the labels of the run
and the world it ends in (`play_run`). A guard is checked before each step, so
a run whose steps meet a condition is computed as well.
-/
import TemperatureMonitor.Domain.AlarmRuns
import TemperatureMonitor.Service.WorldRun

namespace TemperatureMonitor

/-- A step to take. -/
inductive Command
  | sample (i : SampleInput)
  | outcome (deviceId : String) (recovery : Bool) (taskId messageId : Option String)
  | event (write : EventWrite)
  | task (write : TaskWrite)
  | reconcile (taskId deviceId : String) (now : DateTime)
  | ensure (a : RuntimeActivation) (area : String) (now : DateTime) (eventId : String)
  | deliver (m : Message) (at_ : DateTime) (d : Delivery)

/-- A message can be executed: inline, or by its task. -/
def World.delivers (w : World) (m : Message) : Bool :=
  w.emitted.any (fun e => e.message = some m) || w.service.tasks.any fun t => t.message = some m

theorem World.delivers_deliverable {w : World} {m : Message} (h : w.delivers m = true) :
    Deliverable w m := by
  rcases Bool.or_eq_true_iff.mp h with h | h
  · obtain ⟨e, he, hm⟩ := List.any_eq_true.mp h
    exact .inline e he (by simpa using hm)
  · obtain ⟨t, ht, hm⟩ := List.any_eq_true.mp h
    exact .task t ht (by simpa using hm)

/-- One command, `none` where it raises or does nothing. -/
def World.exec (cfg : ServiceConfig) (w : World) : Command → Option (Label × World)
  | .sample i =>
    match handleSample cfg i w.service with
    | .ok (s', some out) =>
      some (.sample i out, { w with service := s', emitted := w.emitted ++ out.emissions i })
    | _ => none
  | .outcome deviceId recovery taskId messageId =>
    some (.outcome deviceId recovery taskId messageId,
      { w with service := { w.service with
          alarms := persistPrewarningOutcome w.service.alarms deviceId recovery taskId
            messageId } })
  | .event write =>
    match write.apply w.service.events with
    | .ok events' => some (.event write, { w with service := { w.service with events := events' } })
    | .error _ => none
  | .task write =>
    match write.apply w.service.tasks with
    | .ok tasks' => some (.task write, { w with service := { w.service with tasks := tasks' } })
    | .error _ => none
  | .reconcile taskId deviceId now =>
    match byId w.service.tasks taskId with
    | some task =>
      if task.taskType = reconcileType then
        let r : ReconcileInput := { task, deviceId, now }
        let done := reconcileAlarmEventTask cfg r w.service
        some (.reconcile r done.2,
          { w with service := done.1, emitted := w.emitted ++ reconcileEmissions done.2 })
      else none
    | none => none
  | .ensure a area now eventId =>
    match ensureEventReconciliation cfg a area now eventId w.service with
    | .ok s' => some (.ensure eventId, { w with service := s' })
    | .error _ => none
  | .deliver m at_ d =>
    if w.delivers m then
      match w.deliver m at_ d with
      | .ok w' => some (.deliver m d, w')
      | .error _ => none
    else none

theorem exec_step {cfg : ServiceConfig} {w w' : World} {c : Command} {l : Label}
    (h : w.exec cfg c = some (l, w')) : Step cfg w l w' := by
  unfold World.exec at h
  split at h
  · split at h
    · rename_i hs
      cases h
      exact .sample hs
    · cases h
  · cases h
    exact .outcome _ _ _ _
  · split at h
    · rename_i he
      cases h
      exact .event he
    · cases h
  · split at h
    · rename_i ht
      cases h
      exact .task ht
    · cases h
  · split at h
    · rename_i task htask
      split_ifs at h with htype
      cases h
      exact .reconcile (byId_mem htask).1 htype (.refl task)
    · cases h
  · split at h
    · rename_i he
      cases h
      exact .ensure he
    · cases h
  · split_ifs at h with hd
    split at h
    · rename_i hw
      cases h
      exact .deliver (World.delivers_deliverable hd) hw
    · cases h

/-- One command after the other, each step checked by `guard`. -/
def World.play (cfg : ServiceConfig) (guard : World → Label → Bool) :
    World → List Command → Option (List Label × World)
  | w, [] => some ([], w)
  | w, c :: rest =>
    match w.exec cfg c with
    | none => none
    | some (l, w') =>
      if guard w l then (World.play cfg guard w' rest).map fun r => (l :: r.1, r.2) else none

theorem play_run {cfg : ServiceConfig} {guard : World → Label → Bool} :
    ∀ {cs : List Command} {w w' : World} {ls : List Label}, w.play cfg guard cs = some (ls, w') →
      Run (Guarded (fun w l => guard w l = true) (Step cfg)) w ls w'
  | [], w, w', ls, h => by
    cases h
    exact .nil
  | c :: rest, w, w', ls, h => by
    unfold World.play at h
    split at h
    · cases h
    · rename_i l u hexec
      split_ifs at h with hg
      obtain ⟨⟨ks, v⟩, hrest, he⟩ := Option.map_eq_some_iff.mp h
      cases he
      exact .cons ⟨hg, exec_step hexec⟩ (play_run hrest)

/-- The first step that is played, and the rest. -/
theorem play_cons {cfg : ServiceConfig} {guard : World → Label → Bool} {c : Command}
    {rest : List Command}
    {w w' : World} {ls : List Label} (h : w.play cfg guard (c :: rest) = some (ls, w')) :
    ∃ l w₁ ks, w.exec cfg c = some (l, w₁) ∧ guard w l = true ∧
      w₁.play cfg guard rest = some (ks, w') ∧
      ls = l :: ks := by
  unfold World.play at h
  split at h
  · cases h
  · rename_i l w₁ hexec
    split_ifs at h with hg
    obtain ⟨⟨ks, v⟩, hrest, he⟩ := Option.map_eq_some_iff.mp h
    cases he
    exact ⟨l, w₁, ks, hexec, hg, hrest, rfl⟩

theorem play_sample {cfg : ServiceConfig} {guard : World → Label → Bool} {i : SampleInput}
    {rest : List Command}
    {w w' : World} {ls : List Label} (h : w.play cfg guard (.sample i :: rest) = some (ls, w')) :
    ∃ out w₁ ks, Guarded (fun w l => guard w l = true) (Step cfg) w (.sample i out) w₁ ∧
      w₁.play cfg guard rest = some (ks, w') ∧ ls = .sample i out :: ks := by
  obtain ⟨l, w₁, ks, hexec, hg, hrest, rfl⟩ := play_cons h
  obtain ⟨out, rfl⟩ : ∃ out, l = .sample i out := by
    simp only [World.exec] at hexec
    split at hexec <;> cases hexec
    exact ⟨_, rfl⟩
  exact ⟨out, w₁, ks, ⟨hg, exec_step hexec⟩, hrest, rfl⟩

theorem play_deliver {cfg : ServiceConfig} {guard : World → Label → Bool} {m : Message}
    {at_ : DateTime} {d : Delivery} {rest : List Command} {w w' : World} {ls : List Label}
    (h : w.play cfg guard (.deliver m at_ d :: rest) = some (ls, w')) :
    ∃ w₁ ks, Step cfg w (.deliver m d) w₁ ∧ w₁.play cfg guard rest = some (ks, w') ∧
      ls = .deliver m d :: ks := by
  obtain ⟨l, w₁, ks, hexec, -, hrest, rfl⟩ := play_cons h
  obtain rfl : l = .deliver m d := by
    simp only [World.exec] at hexec
    split_ifs at hexec
    split at hexec <;> cases hexec
    rfl
  exact ⟨w₁, ks, exec_step hexec, hrest, rfl⟩

/-- A run from the empty world, and what is computed of it. -/
theorem play_any {cfg : ServiceConfig} {guard : World → Label → Bool} {cs : List Command}
    {P : List Label × World → Bool} (h : (World.empty.play cfg guard cs).any P = true) :
    ∃ ls w, Run (Guarded (fun w l => guard w l = true) (Step cfg)) World.empty ls w ∧
      P (ls, w) = true := by
  obtain ⟨⟨ls, w⟩, hplay, hP⟩ := (Option.any_eq_true _ _).mp h
  exact ⟨ls, w, play_run hplay, hP⟩

/-! ### A deployment -/

def pilotUuid (n : ℕ) : String := String.ofList (List.replicate (n + 1) 'a')

/-- Windows of five minutes and of one. -/
def pilot : ServiceConfig where
  machine := AlarmStateMachine.minutes
  emitNotifications := true
  upper := fun s => String.ofList (s.toList.map Char.toUpper)
  fromisoformat := fun _ => none
  uuid := pilotUuid
  digest := fun _ => ""

theorem pilotUuid_injective : Function.Injective pilotUuid := by
  intro m n h
  have hl := congrArg (fun s => s.toList.length) h
  simpa [pilotUuid] using hl

theorem pilot_fresh : FreshUuids pilot.uuid where
  injective := pilotUuid_injective
  hex := fun n c hc => by
    obtain rfl : c = 'a' := by simpa [pilot, pilotUuid] using hc
    decide

/-- A sample of the pilot's device, `seconds` after the epoch. -/
def pilotSample (status : OverallStatus) (seconds : ℤ) (reasons : List String := []) :
    SampleInput :=
  { sample := { deviceId := "TH-01", sampleTime := .utc (seconds * 1000000), temperature := none, humidity := none }
    result := { deviceId := "TH-01", overallStatus := status, prewarningReasons := reasons }
    now := .utc (seconds * 1000000) }

end TemperatureMonitor
