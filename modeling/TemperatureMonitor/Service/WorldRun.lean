/-
# What every step keeps

Each step is a run of the task table and leaves the events row by row the
same cycles, but for the one event a verified alarm appends. Hence, by
induction over the run: ids never repeat, keys begin with types, and every
notification task is the task of an emission.
-/
import TemperatureMonitor.Service.EventMoves
import TemperatureMonitor.Service.ReconcileRun

namespace TemperatureMonitor

/-! ### Ids -/

/-- `uuid4().hex`: the ids are hexadecimal and never repeat. -/
structure FreshUuids (uuid : ℕ → String) : Prop where
  injective : Function.Injective uuid
  hex : ∀ n, ∀ c ∈ (uuid n).toList, isHex c = true

theorem FreshUuids.plain {uuid : ℕ → String} (h : FreshUuids uuid) (n : ℕ) :
    ':' ∉ (uuid n).toList := by
  intro hc
  exact absurd (h.hex n _ hc) (by decide)

theorem FreshUuids.strip {uuid : ℕ → String} (h : FreshUuids uuid) (n : ℕ) :
    strip (uuid n) = uuid n :=
  strip_eq fun c hc => isHex_not_space (h.hex n c hc)

/-! ### Events by id -/

section Events

variable {events events' : List EnvironmentEvent} {eventId : String} {e : EnvironmentEvent}

theorem eventById_mem (h : eventById events eventId = some e) : e ∈ events ∧ e.eventId = eventId :=
  ⟨List.mem_of_find?_eq_some h, by simpa using List.find?_some h⟩

/-- Row by row related tables have related rows under an id. -/
theorem eventById_forall₂ {R : EnvironmentEvent → EnvironmentEvent → Prop}
    (hR : ∀ a b, R a b → b.eventId = a.eventId) (hr : List.Forall₂ R events events')
    (h : eventById events eventId = some e) : ∃ e', eventById events' eventId = some e' ∧
      R e e' := by
  induction hr with
  | nil => cases h
  | @cons a b l l' hab _ ih =>
    simp only [eventById, List.find?_cons] at h ⊢
    rw [hR a b hab]
    by_cases hid : a.eventId = eventId
    · simp only [hid, decide_true] at h ⊢
      cases h
      exact ⟨b, rfl, hab⟩
    · simp only [hid, decide_false] at h ⊢
      exact ih h

theorem SameCycles.byId (hr : SameCycles events events') (h : eventById events eventId = some e) :
    ∃ e', eventById events' eventId = some e' ∧ SameCycle e e' :=
  eventById_forall₂ (fun _ _ h => h.eventId) hr h

theorem eventById_append (h : eventById events eventId = some e) (more : List EnvironmentEvent) :
    eventById (events ++ more) eventId = some e := by
  simp only [eventById] at h ⊢
  rw [List.find?_append, h]
  rfl

/-- A new row is found under an id no other row has. -/
theorem eventById_new (hfresh : ∀ a ∈ events, a.eventId ≠ e.eventId) :
    eventById (events ++ [e]) e.eventId = some e := by
  have hnone : events.find? (fun a => a.eventId = e.eventId) = none :=
    List.find?_eq_none.mpr fun a ha => by simpa using hfresh a ha
  simp [eventById, List.find?_append, hnone]

end Events

/-! ### One step -/

/-- The reconciliation the scanner arms for an event. -/
structure EnsuredRow (cfg : ServiceConfig) (events : List EnvironmentEvent) (eventId : String)
    (t : AutomationTask) : Prop where
  taskType : t.taskType = reconcileType
  event : ∃ e, eventById events eventId = some e ∧ t.payload.localEventId = some eventId ∧
    t.payload.violationStartedAt = e.localStart cfg

/-- The rows a step inserts. -/
inductive StepRow (cfg : ServiceConfig) (w : World) (t : AutomationTask) : Label → Prop
  | sample {i : SampleInput} {s' : ServiceState} {out : SampleOutput}
      (T : SampleTrace cfg i w.service s' out) : T.Row t → StepRow cfg w t (.sample i out)
  | notification {r : ReconcileInput} {answer : Except PyError (Option ReconcileOutput)} (e : Emission) :
      e ∈ reconcileEmissions answer → NotificationRow e.context e.action t →
      StepRow cfg w t (.reconcile r answer)
  | ensured {eventId : String} : EnsuredRow cfg w.service.events eventId t →
      StepRow cfg w t (.ensure eventId)

def World.store (w : World) : TaskStore := ⟨w.service.tasks, w.service.drawn⟩

section Step

variable {cfg : ServiceConfig} {w w' : World} {l : Label}

theorem ensure_run (hinj : Function.Injective cfg.uuid) {s s' : ServiceState}
    (hs : TaskStore.Sound cfg.uuid ⟨s.tasks, s.drawn⟩) {a : RuntimeActivation} {area : String}
    {now : DateTime}
    {eventId : String} (h : ensureEventReconciliation cfg a area now eventId s = .ok s') :
    TasksRun cfg.uuid (EnsuredRow cfg s.events eventId) ⟨s.tasks, s.drawn⟩ ⟨s'.tasks, s'.drawn⟩ ∧
      s'.alarms = s.alarms ∧ s'.events = s.events := by
  unfold ensureEventReconciliation at h
  split at h
  · cases h
  · rename_i e he
    simp only at h
    split at h
    · cases h
    · rename_i tasks task hmade
      cases h
      rw [SampleTrace.reconcileKey_eq] at hmade
      refine ⟨(createOrGetUnfinished_run hs hinj a _ rfl (fun _ => ⟨rfl, e, he, ?_, rfl⟩) hmade).1,
        rfl, rfl⟩
      exact congrArg some (eventById_mem he).2

theorem deliver_service {m : Message} {at_ : DateTime} {d : Delivery}
    (h : w.deliver m at_ d = .ok w') :
    w'.service.tasks = w.service.tasks ∧ w'.service.drawn = w.service.drawn ∧
      w'.service.alarms = w.service.alarms ∧ w'.emitted = w.emitted := by
  unfold World.deliver at h
  split_ifs at h
  · cases hd : deliverPrewarning w.effects m d <;> rw [hd] at h <;> cases h
    exact ⟨rfl, rfl, rfl, rfl⟩
  · cases hd : deliverEvent w.service.events m at_ d <;> rw [hd] at h <;> cases h
    exact ⟨rfl, rfl, rfl, rfl⟩

/-- An execution finds its message sent, or writes the marker of its key, which
did not tell of a success. -/
theorem deliverEvent_cases {events events' : List EnvironmentEvent} {m : Message} {at_ : DateTime}
    {d : Delivery} (h : deliverEvent events m at_ d = .ok events') :
    events' = events ∧ d = .alreadySent ∨
      (∃ e, eventById events m.eventId = some e ∧
        succeeded (e.payload.feishuExternalEffects.lookup m.key) = false) ∧
      ∃ mid, (mid = events ∨
        markExternalEffectPending events m.eventId m.key m.actionType.value at_ = .ok mid) ∧
        (events' = mid ∧ d = .lost ∨
          (∃ error status, markExternalEffectFailed mid m.eventId m.key error status = .ok events' ∧
            d ≠ .sent) ∨
          d = .sent ∧ markExternalEffectSucceeded mid m.eventId m.key at_ = .ok events') := by
  unfold deliverEvent at h
  split at h
  · cases h
  · rename_i e he
    split_ifs at h with hbound hs
    · cases d <;> cases h
      exact .inl ⟨rfl, rfl⟩
    · refine .inr ⟨⟨e, he, by simpa using hs⟩, ?_⟩
      simp only at h
      cases hp : markExternalEffectPending events m.eventId m.key m.actionType.value at_ with
      | error err =>
        rw [hp] at h
        cases d <;> try cases h
        exact ⟨events, .inl rfl, .inr (.inl ⟨_, _, h, by simp⟩)⟩
      | ok mid =>
        rw [hp] at h
        cases d with
        | suppressed => cases h
        | alreadySent => cases h
        | unreachable => exact ⟨events, .inl rfl, .inr (.inl ⟨_, _, h, by simp⟩)⟩
        | failed => exact ⟨mid, .inr rfl, .inr (.inl ⟨_, _, h, by simp⟩)⟩
        | lost => exact ⟨mid, .inr rfl, .inl ⟨(Except.ok.inj h).symm, rfl⟩⟩
        | sent => exact ⟨mid, .inr rfl, .inr (.inr ⟨rfl, h⟩)⟩

theorem deliver_events {m : Message} {at_ : DateTime} {d : Delivery}
    (h : w.deliver m at_ d = .ok w') : RowsWritten w.service.events w'.service.events := by
  unfold World.deliver at h
  split_ifs at h
  · cases hd : deliverPrewarning w.effects m d <;> rw [hd] at h <;> cases h
    exact rowsWritten_refl _
  · cases hd : deliverEvent w.service.events m at_ d <;> rw [hd] at h <;> cases h
    rcases deliverEvent_cases hd with ⟨he, -⟩ | ⟨-, mid, hpending, hrest⟩
    · rw [he]
      exact rowsWritten_refl _
    · refine (hpending.elim (fun he => he ▸ rowsWritten_refl _) rowsWritten_effect).trans ?_
      rcases hrest with ⟨he, -⟩ | ⟨err, status, hf, -⟩ | ⟨-, hok⟩
      · rw [he]
        exact rowsWritten_refl _
      · exact rowsWritten_effect hf
      · exact rowsWritten_effect hok

/-- **Every step is a run of the task table.** -/
theorem Step.tasksRun (hinj : Function.Injective cfg.uuid) (hs : w.store.Sound cfg.uuid)
    (h : Step cfg w l w') : TasksRun cfg.uuid (StepRow cfg w · l) w.store w'.store := by
  cases h with
  | sample hsample =>
    obtain ⟨T⟩ := handleSample_trace hsample
    exact (T.tasksRun hinj hs).mono fun t ht => .sample T ht
  | outcome => exact .refl
  | event => exact .refl
  | task htask => exact .rows .refl (TaskWrite.sameTasks hs.nodup htask)
  | reconcile hrow _ hsame =>
    exact (reconcileAlarmEventTask_run hinj hs ⟨_, hrow, hsame⟩ rfl).2.2.mono
      fun t ⟨e, he, hr⟩ => .notification e he hr
  | ensure hensure => exact (ensure_run hinj hs hensure).1.mono fun t ht => .ensured ht
  | deliver _ hdeliver =>
    obtain ⟨h1, h2, -, -⟩ := deliver_service hdeliver
    unfold World.store
    rw [h1, h2]
    exact .refl

theorem empty_sound : World.empty.store.Sound cfg.uuid where
  minted := fun t ht => by cases ht
  nodup := List.nodup_nil
  keyed := fun t ht => by cases ht

/-- The table is sound after every run. -/
theorem sound_run (hinj : Function.Injective cfg.uuid) {ls : List Label}
    (h : Run (Step cfg) World.empty ls w) : w.store.Sound cfg.uuid := by
  refine Run.inv (I := fun w => w.store.Sound cfg.uuid) empty_sound (fun a l b hs hstep => ?_) h
  exact (hstep.tasksRun hinj hs).sound hinj hs

/-- A key of a notification is the key of one task. -/
theorem uniqueKeys_run (hinj : Function.Injective cfg.uuid) {ls : List Label}
    (h : Run (Step cfg) World.empty ls w) : w.store.UniqueKeys := by
  refine Run.inv_labels (I := fun _ w => w.store.UniqueKeys) (fun t ht => by cases ht)
    (fun ls a l b hrun ih hstep => ?_) h
  exact (hstep.tasksRun hinj (sound_run hinj hrun)).uniqueKeys hinj (sound_run hinj hrun) ih

theorem Step.emitted_eq (h : Step cfg w l w') : w'.emitted = w.emitted ++ l.emissions := by
  cases h with
  | sample => rfl
  | reconcile => rfl
  | deliver _ hdeliver => exact (deliver_service hdeliver).2.2.2.trans (List.append_nil _).symm
  | _ => exact (List.append_nil _).symm

/-- An emission is kept. -/
theorem Step.emitted_mem (h : Step cfg w l w') {e : Emission} (he : e ∈ w.emitted) :
    e ∈ w'.emitted :=
  h.emitted_eq ▸ List.mem_append_left _ he

theorem emitted_run {ls : List Label} (h : Run (Step cfg) w ls w') {e : Emission}
    (he : e ∈ w.emitted) : e ∈ w'.emitted :=
  Run.inv (I := fun w => e ∈ w.emitted) he (fun _ _ _ he hstep => hstep.emitted_mem he) h

theorem sameFormal_outcome (alarms : String → Option AlarmState) (deviceId : String)
    (recovery : Bool) (taskId messageId : Option String) (d : String) :
    SameFormal ((alarms d).getD (AlarmState.ofDevice d))
      ((persistPrewarningOutcome alarms deviceId recovery taskId messageId d).getD
        (AlarmState.ofDevice d)) := by
  unfold persistPrewarningOutcome
  cases hst : alarms deviceId with
  | none => exact .refl _
  | some st =>
    by_cases hd : d = deviceId
    · subst hd
      simp only [hst, Function.update_self]
      cases recovery <;> exact ⟨rfl, rfl, rfl, rfl, rfl, rfl, rfl⟩
    · simp only [Function.update_of_ne hd]
      exact .refl _

/-- **What no sample has a part in** leaves the lifecycles and writes rows. -/
theorem Step.written (hinj : Function.Injective cfg.uuid) (hs : w.store.Sound cfg.uuid)
    (h : Step cfg w l w')
    (hl : ∀ i out, l ≠ .sample i out) : (∀ d, SameFormal (w.service.alarm d) (w'.service.alarm d)) ∧
      RowsWritten w.service.events w'.service.events := by
  have hkept : w'.service.alarms = w.service.alarms →
      ∀ d, SameFormal (w.service.alarm d) (w'.service.alarm d) :=
    fun he d => by
      rw [ServiceState.alarm, ServiceState.alarm, he]
      exact .refl _
  cases h with
  | sample => exact absurd rfl (hl _ _)
  | outcome => exact ⟨sameFormal_outcome _ _ _ _ _, rowsWritten_refl _⟩
  | event hevent => exact ⟨hkept rfl, EventWrite.rowsWritten hevent⟩
  | task => exact ⟨hkept rfl, rowsWritten_refl _⟩
  | reconcile hrow _ hsame =>
    obtain ⟨halarms, hevents, -⟩ := reconcileAlarmEventTask_run hinj hs ⟨_, hrow, hsame⟩ rfl
    refine ⟨hkept halarms, ?_⟩
    rcases hevents with he | ⟨e, he⟩
    · exact he ▸ rowsWritten_refl _
    · exact he ▸ rowsWritten_attempted _ e
  | ensure hensure =>
    obtain ⟨-, halarms, hevents⟩ := ensure_run hinj hs hensure
    exact ⟨hkept halarms, hevents ▸ rowsWritten_refl _⟩
  | deliver _ hdeliver => exact ⟨hkept (deliver_service hdeliver).2.2.1, deliver_events hdeliver⟩

/-- It leaves every row the same cycle. -/
theorem Step.aside (hinj : Function.Injective cfg.uuid) (hs : w.store.Sound cfg.uuid)
    (h : Step cfg w l w')
    (hl : ∀ i out, l ≠ .sample i out) : (∀ d, SameFormal (w.service.alarm d) (w'.service.alarm d)) ∧
      SameCycles w.service.events w'.service.events :=
  (h.written hinj hs hl).imp id RowsWritten.sameCycles

/-- **A row is found under its id for good**, and what every write of a row keeps
is kept. -/
theorem Step.keepsRow {R : EnvironmentEvent → EnvironmentEvent → Prop}
    (hinj : Function.Injective cfg.uuid)
    (hs : w.store.Sound cfg.uuid) (h : Step cfg w l w') (hrefl : ∀ e, R e e)
    (htrans : ∀ a b c, R a b → R b c → R a c) (hid : ∀ e e', R e e' → e'.eventId = e.eventId)
    (hwrite : ∀ e e', RowWrite e e' → R e e') (hrecovered : ∀ b now e, R e (e.recovered b now))
    {eventId : String} {e : EnvironmentEvent} (he : eventById w.service.events eventId = some e) :
    ∃ e', eventById w'.service.events eventId = some e' ∧ R e e' := by
  by_cases hl : ∀ i out, l ≠ .sample i out
  · exact eventById_forall₂ hid ((h.written hinj hs hl).2.keeps hrefl htrans hwrite) he
  · push Not at hl
    obtain ⟨i, out, rfl⟩ := hl
    cases h with
    | sample hsample =>
      obtain ⟨T⟩ := handleSample_trace hsample
      show ∃ e', eventById _ eventId = some e' ∧ R e e'
      rw [T.events_eq]
      cases T.localMove.eventsMove rfl with
      | written hrows => exact eventById_forall₂ hid (hrows.keeps hrefl htrans hwrite) he
      | opened _ e₀ _ _ _ _ hrows =>
        exact eventById_forall₂ hid (hrows.keeps hrefl htrans hwrite) (eventById_append he [e₀])
      | recovered id _ _ _ _ _ heq =>
        rw [heq]
        refine eventById_forall₂ hid ?_ he
        rw [updateEvent, List.forall₂_map_right_iff]
        refine List.forall₂_same.mpr fun a _ => ?_
        split_ifs
        · exact hrecovered _ _ a
        · exact hrefl a

/-- It stays its cycle. -/
theorem Step.keepsEvent (hinj : Function.Injective cfg.uuid) (hs : w.store.Sound cfg.uuid)
    (h : Step cfg w l w') {eventId : String} {e : EnvironmentEvent}
    (he : eventById w.service.events eventId = some e) :
    ∃ e', eventById w'.service.events eventId = some e' ∧ SameCycle e e' :=
  h.keepsRow hinj hs .refl (fun _ _ _ => .trans) (fun _ _ h => h.eventId) (fun _ _ =>
      RowWrite.sameCycle)
    sameCycle_recovered he

theorem Step.drawn_le (hinj : Function.Injective cfg.uuid) (hs : w.store.Sound cfg.uuid)
    (h : Step cfg w l w') : w.service.drawn ≤ w'.service.drawn :=
  (h.tasksRun hinj hs).drawn_le

/-- The ids of the events are drawn. -/
theorem minted_run (hinj : Function.Injective cfg.uuid) {ls : List Label}
    (h : Run (Step cfg) World.empty ls w) :
    ∀ e ∈ w.service.events, ∃ n < w.service.drawn, e.eventId = cfg.uuid n := by
  refine Run.inv_labels (I := fun _ w =>
      ∀ e ∈ w.service.events, ∃ n < w.service.drawn, e.eventId = cfg.uuid n)
    (fun e he => by cases he) (fun ls a l b hrun ih hstep => ?_) h
  have hs := sound_run hinj hrun
  have hsame : ∀ {events : List EnvironmentEvent} {drawn : ℕ},
      (∀ e ∈ events, ∃ n < drawn, e.eventId = cfg.uuid n) → SameCycles events b.service.events →
      drawn ≤ b.service.drawn → ∀ e ∈ b.service.events, ∃ n < b.service.drawn,
        e.eventId = cfg.uuid n := by
    intro events drawn hall hcycles hle e' he'
    obtain ⟨e, he, hse⟩ := forall₂_mem_right hcycles he'
    obtain ⟨n, hn, hid⟩ := hall e he
    exact ⟨n, by omega, hse.eventId.trans hid⟩
  by_cases hl : ∀ i out, l ≠ .sample i out
  · exact hsame ih (hstep.aside hinj hs hl).2 (hstep.drawn_le hinj hs)
  · push Not at hl
    obtain ⟨i, out, rfl⟩ := hl
    have hle := hstep.drawn_le hinj hs
    cases hstep with
    | @sample _ s' _ hsample =>
      obtain ⟨T⟩ := handleSample_trace hsample
      have hmoved := T.localMove.events rfl
      rw [← T.events_eq] at hmoved
      rcases hmoved with hcycles | ⟨start, e₀, -, -, -, hnew, hcycles, hdrawn⟩
      · exact hsame ih hcycles hle
      · have harm :=
          (T.armRun hinj ((T.localMove.tasksRun hinj hs.draw).sound hinj hs.draw)).drawn_le
        have hlt : a.service.drawn + 2 ≤ s'.drawn := by
          rw [hdrawn] at harm
          exact harm
        refine @hsame _ (a.service.drawn + 2) (fun e he => ?_) hcycles hlt
        rcases List.mem_append.mp he with he | he
        · obtain ⟨n, hn, hid⟩ := ih e he
          exact ⟨n, by omega, hid⟩
        · obtain rfl := List.mem_singleton.mp he
          exact ⟨a.service.drawn + 1, by omega, hnew.eventId⟩

/-- Every event that is there stays there, the same cycle. -/
def KeepsEvents (events events' : List EnvironmentEvent) : Prop :=
  ∀ eventId e, eventById events eventId = some e → ∃ e', eventById events' eventId = some e' ∧
    SameCycle e e'

/-- **A run goes on with the rows and the events it has.** -/
theorem kept_run (hinj : Function.Injective cfg.uuid) {ls post : List Label} {w w' : World}
    (h : Run (Step cfg) World.empty ls w) (h' : Run (Step cfg) w post w') :
    KeepsRows w.service.tasks w'.service.tasks ∧
      KeepsEvents w.service.events w'.service.events := by
  induction h' with
  | nil => exact ⟨fun _ _ _ h => h, fun _ e he => ⟨e, he, .refl e⟩⟩
  | snoc hr hstep ih =>
    have hs := sound_run hinj (h.append hr)
    refine ⟨fun taskId Q hQ h0 =>
      (hstep.tasksRun hinj hs).keepsRows _ _ hQ (ih.1 _ _ hQ h0), fun eventId e he => ?_⟩
    obtain ⟨e₁, he₁, hse₁⟩ := ih.2 _ _ he
    obtain ⟨e₂, he₂, hse₂⟩ := hstep.keepsEvent hinj hs he₁
    exact ⟨e₂, he₂, hse₁.trans hse₂⟩

/-! ### Notification tasks -/

/-- The task is the task of an emission. -/
def World.Announced (w : World) (t : AutomationTask) : Prop :=
  ∃ e ∈ w.emitted, NotificationRow e.context e.action t

/-- The types of the notification tasks. -/
def notificationTypes : List String :=
  ["NOTIFY_ALARM", "NOTIFY_RECOVERY", "NOTIFY_PREWARNING", "NOTIFY_PREWARNING_RECOVERY"]

theorem notification_mem {t : AutomationTask} {a : AlarmActionType} (h : t.notification = some a) :
    a.value = t.taskType ∧ t.taskType ∈ notificationTypes := by
  have hv : a.value = t.taskType := by simpa using List.find?_some h
  refine ⟨hv, hv ▸ ?_⟩
  have hmem := List.mem_of_find?_eq_some h
  revert hmem
  cases a <;> decide

/-- A row a step inserts under a notification's type is the task of one of its emissions. -/
theorem Step.row_announced {t : AutomationTask} (h : Step cfg w l w') (hrow : StepRow cfg w t l)
    (htype : t.taskType ∈ notificationTypes) : w'.Announced t := by
  cases hrow with
  | sample T hrow =>
    cases h with
    | sample =>
      cases hrow with
      | verify hv => rcases hv with hv | hv <;> rw [hv] at htype <;> exact absurd htype (by decide)
      | armed ha => rw [ha.taskType] at htype; exact absurd htype (by decide)
      | notification e he hr => exact ⟨e, List.mem_append_right _ he, hr⟩
  | notification e he hr =>
    cases h with
    | reconcile => exact ⟨e, List.mem_append_right _ he, hr⟩
  | ensured he => rw [he.taskType] at htype; exact absurd htype (by decide)

/-- Every notification task is the task of an emission. -/
theorem announced_run (hinj : Function.Injective cfg.uuid) {ls : List Label}
    (h : Run (Step cfg) World.empty ls w) :
    ∀ t ∈ w.service.tasks, t.taskType ∈ notificationTypes → w.Announced t := by
  refine Run.inv_labels (I := fun _ w => ∀ t ∈ w.service.tasks, t.taskType ∈ notificationTypes →
      w.Announced t)
    (fun t ht => by cases ht) (fun ls a l b hrun ih hstep => ?_) h
  have hkeep : ∀ t, a.Announced t → b.Announced t :=
    fun t ⟨e, he, hr⟩ => ⟨e, hstep.emitted_mem he, hr⟩
  refine (hstep.tasksRun hinj (sound_run hinj hrun)).forall_rows
    (fun t ht htype => hkeep t (ih t ht htype)) ?_ fun t ht htype => hstep.row_announced ht htype
  intro t t' hs ht htype
  obtain ⟨e, he, hr⟩ := ht (hs.taskType ▸ htype)
  exact ⟨e, he, hr.same hs⟩

end Step

end TemperatureMonitor
