/-
# The backoff of the projection

A failed attempt that is not the last one puts its task back, due once the
delay of the attempt is over. A request for the same fields finds that task
pending and pulls it forward to the time of the request (`pullForward`). So
whenever the next round comes, it waits for the delay exactly when no request
came before the delay was over (`backoff_respected_iff`).
-/
import TemperatureMonitor.Service.DeviceConvergence

namespace TemperatureMonitor

section Backoff

variable (py : PyText) (stableHash : DesiredFields → String) (cfg : ProjectorConfig) (hash : String)
  (offset : ℤ)

/-- The round starts an attempt of the hash. -/
def Starts (s : Projector) (y : StatusRound) : Prop :=
  ∃ u, (s.round py cfg y).2.task = some u ∧ u.payload.desiredHash = some hash

/-- The task of a round was put back. -/
def Rescheduled (s : Projector) (x : StatusRound) (t : AutomationTask) : Prop :=
  t ∈ (s.round py cfg x).1.db.tasks ∧ t.status = .pending ∧
    ∃ u, (s.round py cfg x).2.task = some u ∧ u.taskId = t.taskId

/-- Between two attempts of a hash: requests for it, none forced, and rounds of other tasks. -/
def Between (s : Projector) : ProjectorOp → Prop
  | .request r => stableHash r.fields = hash ∧ r.force = false ∧ InZone offset r.now
  | .round y => ¬Starts py cfg hash s y

/-- The hash is stored, and its task is due at the first of a time and the times of the requests. -/
structure WaitsFrom (due : ℤ) (ops : List ProjectorOp) (s : Projector) : Prop where
  row : ∃ row, s.row cfg = some row ∧ row.status = .pending ∧ row.desiredHash = some hash
  task : ∃ w ∈ s.db.tasks, w.status = .pending ∧ w.payload.desiredHash = some hash ∧
      InZone offset w.dueAt ∧
    ∀ b, b ≤ w.dueAt.instant ↔ b ≤ due ∧ ∀ r, .request r ∈ ops → b ≤ r.now.instant

end Backoff

section Steps

variable {py : PyText} {stableHash : DesiredFields → String} {asked : DesiredFields → Prop}
  {cfg : ProjectorConfig}
  {a : RuntimeActivation} {cutover : DateTime} {hash : String} {offset due : ℤ} {s s' : Projector}
  {x : StatusRound}
  {u w t : AutomationTask} {tasks : List AutomationTask} {ops : List ProjectorOp} {op : ProjectorOp}

/-! ### The task of a hash -/

/-- One unfinished task has the hash. -/
theorem ProjectionTable.eq_of_hash (h : ProjectionTable stableHash asked cfg a cutover tasks)
    (hw : w ∈ tasks) (hu : u ∈ tasks) (hwl : w.unfinished = true) (hul : u.unfinished = true)
    (heq : w.payload.desiredHash = u.payload.desiredHash) : w = u := by
  rw [(h.all w hw).hash, (h.all u hu).hash] at heq
  refine h.table.eq_of_key hw hu ((h.all w hw).live hwl) ?_
  rw [(h.all u hu).live hul, Option.some.inj heq]

theorem pending_live (h : t.status = .pending) : t.unfinished = true := unfinished_iff.mpr (.inl h)

/-- A claimable task is unfinished. -/
theorem claimable_live {now : DateTime} (h : claimable now t = true) : t.unfinished = true := by
  simp only [claimable, decide_eq_true_eq] at h
  exact unfinished_iff.mpr (h.imp (·.1) (·.1))

/-- A task that was not put back is not pending. -/
theorem taskEnds_status (hids : (s.db.tasks.map (·.taskId)).Nodup)
    (hc : claimable x.claimedAt u = true)
    (hu : u ∈ s.db.tasks) (hends : TaskEnds cfg s u x s') (ht : t ∈ s'.db.tasks)
    (hid : t.taskId = u.taskId) : t.status ≠ .pending := by
  have hclaimed : ∀ v ∈ x.claimedTasks cfg s u, v.taskId = u.taskId → v.status = .running := by
    intro v hv hvid
    obtain ⟨v0, hv0, rfl⟩ := mem_updateRow.mp hv
    by_cases h0 : v0.taskId = u.taskId
    · obtain rfl := eq_of_taskId hids hv0 hu h0
      rw [if_pos rfl, claimed_eq hc]
    · rw [if_neg h0] at hvid
      exact absurd hvid h0
  rcases hends with h | ⟨error, h⟩
  · rw [h] at ht
    rw [hclaimed t ht hid]
    decide
  · rw [h] at ht
    obtain ⟨v, hv, rfl⟩ := mem_updateRow.mp ht
    by_cases h0 : v.taskId = u.taskId
    · have hrun := hclaimed v hv h0
      rw [if_pos h0]
      unfold finishRow
      split_ifs <;> simp [hrun]
    · rw [if_neg h0] at hid
      exact absurd hid h0

/-- **A task that was put back** waits for the delay of its attempt, and its hash is stored. -/
theorem Rescheduled.waits (hscope : ActiveScope cfg a cutover)
    (hinv : ProjectorInv stableHash asked cfg a cutover s)
    (hgates : x.gates = {}) (h : Rescheduled py cfg s x t)
    (hhash : t.payload.desiredHash = some hash) :
    t.dueAt = x.now.add (cfg.delay t.payload.projectionAttempt) ∧
      ∃ row, (s.round py cfg x).1.row cfg = some row ∧ row.status = .pending ∧
        row.desiredHash = some hash := by
  obtain ⟨ht, hp, v, hv, hid⟩ := h
  have heffect : RoundEffect py cfg s x (s.round py cfg x).1 (s.round py cfg x).2 :=
    round_effect_inv hscope hinv hgates
  have hids := hinv.tasks.table.ids
  cases heffect with
  | idle _ hnone _ =>
    rw [hnone] at hv
    cases hv
  | passed u hu hc htask hpass hcall hrows hremote hruntime hends =>
    obtain rfl := Option.some.inj (htask.symm.trans hv)
    rw [(claimed_payload cfg x u).2] at hid
    exact absurd hp (taskEnds_status hids hc hu hends ht hid.symm)
  | attempted u row row' fin hu hc htask hrow hhashu hdel hrow' hh hf hst hsent hruntime htasks =>
    obtain rfl := Option.some.inj (htask.symm.trans hv)
    rw [(claimed_payload cfg x u).2] at hid
    by_cases hfin : fin = .retried
    · rw [if_pos hfin] at htasks
      have hmem := taskRetried_mem hu htasks
      have htable := taskRetried_table hinv.tasks hu hc htasks
      obtain rfl := eq_of_taskId htable.table.ids ht hmem
        (hid.symm.trans (claimed_payload cfg x u).2.symm)
      refine ⟨rfl, row', hrow', ?_, ?_⟩
      · rw [hst, hfin]
        rfl
      · have hpay : (x.claimed cfg u).payload.desiredHash = some hash := hhash
        rw [(claimed_payload cfg x u).1] at hpay
        rw [hh, hhashu, hpay]
        rfl
    · rw [if_neg hfin] at htasks
      exact absurd hp (taskEnds_status hids hc hu htasks ht hid.symm)

/-! ### Steps between two attempts -/

/-- The first of two times of one zone. -/
theorem pullForward_due {spec : TaskSpec} (hp : w.status = .pending) (hw : InZone offset w.dueAt)
    (hspec : InZone offset spec.dueAt) : InZone offset (pullForward spec w).dueAt ∧
      ∀ b, b ≤ (pullForward spec w).dueAt.instant ↔ b ≤ w.dueAt.instant ∧
        b ≤ spec.dueAt.instant := by
  unfold pullForward
  by_cases hlt : spec.dueAt.instant < w.dueAt.instant
  · have htext : spec.dueAt.isoformat < w.dueAt.isoformat := by
      rw [← not_le, hw.le_iff hspec]
      exact not_le.mpr hlt
    rw [if_pos ⟨hp, hlt, htext⟩]
    refine ⟨hspec, fun b => ?_⟩
    show b ≤ spec.dueAt.instant ↔ _
    omega
  · rw [if_neg fun h => hlt h.2.1]
    refine ⟨hw, fun b => ?_⟩
    omega

/-- **A step between two attempts** moves the due time by what it asks for. -/
theorem WaitsFrom.step (hscope : ActiveScope cfg a cutover) (hhash : HexHash stableHash asked)
    (hinv : ProjectorInv stableHash asked cfg a cutover s) (hop : InEpoch asked cutover s op)
    (hbetween : Between py stableHash cfg hash offset s op)
    (hstep : ProjectorStep py stableHash cfg s op s')
    (h : WaitsFrom cfg hash offset due ops s) : WaitsFrom cfg hash offset due (ops ++ [op]) s' := by
  obtain ⟨row, hrow, hst, hrh⟩ := h.row
  obtain ⟨w, hw, hp, hwh, hzone, hfirst⟩ := h.task
  cases op with
  | request r =>
    obtain ⟨hsame, hforce, hnow⟩ := hbetween
    obtain rfl : s' = (s.request stableHash cfg r).1 := hstep
    have hdesired := @savedRow_desired stableHash cfg (s.row cfg) r
    rcases request_effect hscope hhash hinv hop with ⟨-, row0, hrow0, -, -, hcase⟩ |
      ⟨-, tasks, task, hok, hdb, hrow', -⟩
    · -- the row is pending
      obtain rfl := Option.some.inj (hrow.symm.trans hrow0)
      rcases hcase with ⟨hbad, -⟩ | ⟨hbad, -⟩
      · rw [hst] at hbad
        cases hbad
      · rw [hst] at hbad
        cases hbad
    · refine ⟨⟨_, hrow', rfl, ?_⟩, ?_⟩
      · show (savedRow stableHash cfg (s.row cfg) r).desiredHash = _
        rw [hdesired.1, hsame]
      have hlive := hinv.tasks.all w hw
      have hstored : stableHash w.payload.desiredFields = hash :=
        Option.some.inj (hlive.hash.symm.trans hwh)
      have hkey : w.dedupeKey = some (projectionKey cfg (stableHash r.fields)) := by
        rw [hlive.live (pending_live hp), hstored, hsame]
      rcases @createOrGetUnfinished_projection s.db.tasks (projectionSpec stableHash cfg a r)
          _ hinv.tasks.table rfl
        hscope.device (projectionKey_not_blank _) (hinv.tasks.history_free hhash.hex r.fields)
          a r.newId with
        ⟨v, hv, -, -, hvk, heq⟩ | ⟨hnone, -⟩
      · obtain rfl := hinv.tasks.table.eq_of_key hw hv hkey hvk
        rw [hok] at heq
        obtain ⟨rfl, -⟩ := Prod.mk.inj (Except.ok.inj heq)
        obtain ⟨hslot, hpay, -, -⟩ := pullForward_slot (projectionSpec stableHash cfg a r) w
        obtain ⟨hdueZone, hdue⟩ :=
          @pullForward_due offset w (projectionSpec stableHash cfg a r) hp hzone hnow
        refine ⟨pullForward (projectionSpec stableHash cfg a r) w, ?_, ?_, ?_, hdueZone,
          fun b => ?_⟩
        · rw [hdb]
          exact mem_updateRow.mpr ⟨w, hw, if_pos rfl⟩
        · rw [hslot.status, hp]
        · rw [hpay, hwh]
        · rw [hdue, hfirst, and_assoc]
          refine and_congr_right fun _ => ⟨fun hb q hq => ?_, fun hb => ?_⟩
          · rcases List.mem_append.mp hq with hq | hq
            · exact hb.1 q hq
            · obtain rfl := ProjectorOp.request.inj (List.mem_singleton.mp hq)
              exact hb.2
          · exact ⟨fun q hq => hb q (List.mem_append_left _ hq),
              hb r (List.mem_append_right _ (List.mem_singleton_self _))⟩
      · exact absurd hkey (hnone w hw (pending_live hp) hlive.taskType)
  | round y =>
    obtain rfl : s' = (s.round py cfg y).1 := hstep
    have hsame : ∀ b, (∀ r, ProjectorOp.request r ∈ ops ++ [.round y] → b ≤ r.now.instant) ↔
        ∀ r, ProjectorOp.request r ∈ ops → b ≤ r.now.instant := by
      intro b
      simp
    have heffect : RoundEffect py cfg s y (s.round py cfg y).1 (s.round py cfg y).2 :=
      round_effect_inv hscope hinv hop
    cases heffect with
    | idle hs _ _ =>
      rw [hs]
      refine ⟨⟨row, hrow, hst, hrh⟩, w, hw, hp, hwh, hzone, fun b => ?_⟩
      rw [hsame]
      exact hfirst b
    | passed u hu hc htask hpass hcall hrows hremote hruntime hends =>
      have hrow' : (s.round py cfg y).1.row cfg = s.row cfg := by
        unfold Projector.row
        rw [hrows]
      have hne : w.taskId ≠ u.taskId := by
        intro hid
        obtain rfl := eq_of_taskId hinv.tasks.table.ids hw hu hid
        apply hbetween
        exact ⟨_, htask, by rw [(claimed_payload cfg y w).1, hwh]⟩
      refine ⟨⟨row, hrow'.trans hrow, hst, hrh⟩, w, taskEnds_other hw hne hends, hp, hwh, hzone,
        fun b => ?_⟩
      rw [hsame]
      exact hfirst b
    | attempted u row0 row' fin hu hc htask hrow0 hhashu _ _ _ _ _ _ _ _ =>
      -- an attempt is one of the stored hash
      exfalso
      obtain rfl := Option.some.inj (hrow.symm.trans hrow0)
      apply hbetween
      refine ⟨_, htask, ?_⟩
      rw [(claimed_payload cfg y u).1]
      rw [hrh, (hinv.tasks.all u hu).hash] at hhashu
      rw [(hinv.tasks.all u hu).hash]
      exact hhashu.symm

/-! ### Runs -/

/-- A round at the due time of a waiting task starts it, when the worker leaves the other tasks. -/
theorem starts_when_due (hscope : ActiveScope cfg a cutover) (hworker : blank cfg.workerId = false)
    (hinv : ProjectorInv stableHash asked cfg a cutover s) (hw : w ∈ s.db.tasks) (hp : w.status = .pending)
    (hwh : w.payload.desiredHash = some hash) :
    ∃ y : StatusRound, y.gates = {} ∧ y.claimedAt = w.dueAt ∧ Starts py cfg hash s y := by
  set others := (s.db.tasks.map (·.taskId)).filter (· ≠ w.taskId) with hothers
  set y : StatusRound := { claimedAt := w.dueAt, excludeTaskIds := others, now := w.dueAt, after := fun _ => .null
                           finishedAt := w.dueAt } with hy
  have hids := hinv.tasks.table.ids
  have hdue : claimable w.dueAt w = true := by simp [claimable, hp]
  have hleft : others.contains w.taskId = false := by simp [hothers]
  refine ⟨y, rfl, rfl, y.claimed cfg w, ?_, by rw [(claimed_payload cfg y w).1, hwh]⟩
  rcases @claimDue_one s.db (y.claim cfg) hids rfl (round_idle_quarantine hscope hinv w.dueAt) with
    ⟨e, hcheck, -⟩ | ⟨hnil, -⟩ | ⟨u, hu, -, hone, hok⟩
  · simp [ClaimCall.check, StatusRound.claim, hworker, hy] at hcheck
  · have hlen := congrArg List.length hnil
    have hall : ∀ v ∈ s.db.tasks, claimable w.dueAt v = true → v.taskId ∈ others := by
      simpa [claimIds, StatusRound.claim, hy] using hlen
    exact absurd (List.contains_iff_mem.mpr (hall w hw hdue)) (by simp [hothers])
  · have hclaimed : u.taskId ∈ claimIds s.db.tasks (y.claim cfg) := by
      rw [hone]
      exact List.mem_singleton_self _
    obtain ⟨v, hv, hvid⟩ := List.mem_map.mp hclaimed
    have hnot : v.taskId ∉ others := by
      have hkept := (List.mem_filter.mp (List.mem_mergeSort.mp (List.mem_of_mem_take hv))).2
      simp only [StatusRound.claim, hy, Bool.and_eq_true, Bool.not_eq_true'] at hkept
      exact fun hmem => absurd (List.contains_iff_mem.mpr hmem) (by rw [hkept.2]; decide)
    have hid : u.taskId = w.taskId := by
      by_contra hne
      apply hnot
      rw [hvid, hothers, List.mem_filter]
      exact ⟨List.mem_map_of_mem hu, by simpa using hne⟩
    obtain rfl := eq_of_taskId hids hu hw hid
    unfold Projector.round
    have hcall : claimDue s.db { now := y.claimedAt, limit := 1, workerId := cfg.workerId, leaseFor := y.leaseFor
                                 excludeTaskIds := y.excludeTaskIds } = _ := hok
    rw [hcall]
    rfl

/-- **The backoff is respected exactly when no request comes within it.** -/
theorem backoff_respected_iff (hscope : ActiveScope cfg a cutover)
    (hhash : HexHash stableHash asked)
    (hworker : blank cfg.workerId = false) {remote : RemoteRow} {before after : List ProjectorOp}
    (hrun : Run (Guarded (InEpoch asked cutover) (ProjectorStep py stableHash cfg))
      (.fresh a remote) before s)
    -- an attempt of the hash fails, and its task is put back
    (hgates : x.gates = {}) (hagain : Rescheduled py cfg s x t)
    (hhashOf : t.payload.desiredHash = some hash) (hzone : InZone offset t.dueAt)
    -- requests and rounds, up to the next attempt of the hash
    (hlater : Run
      (Guarded (fun s op => InEpoch asked cutover s op ∧ Between py stableHash cfg hash offset s op)
      (ProjectorStep py stableHash cfg)) (s.round py cfg x).1 after s') :
    t.dueAt = x.now.add (cfg.delay t.payload.projectionAttempt) ∧
    ((∀ y : StatusRound, y.gates = {} → InZone offset y.claimedAt → Starts py cfg hash s' y →
        t.dueAt.instant ≤ y.claimedAt.instant) ↔
      ∀ r, .request r ∈ after → t.dueAt.instant ≤ r.now.instant) := by
  have hinv : ProjectorInv stableHash asked cfg a cutover s :=
    hrun.inv projectorInv_fresh fun _ _ _ hi hs => hi.step hscope hhash hs.1 hs.2
  obtain ⟨hdue, hrow⟩ := hagain.waits hscope hinv hgates hhashOf
  have hstart : WaitsFrom cfg hash offset t.dueAt.instant [] (s.round py cfg x).1 :=
    ⟨hrow, t, hagain.1, hagain.2.1, hhashOf, hzone, by simp⟩
  have hinv0 : ProjectorInv stableHash asked cfg a cutover (s.round py cfg x).1 :=
    @ProjectorInv.step py _ _ _ _ _ _ _ hscope hhash hinv (.round x) hgates rfl
  obtain ⟨hinv', hwaits⟩ : ProjectorInv stableHash asked cfg a cutover s' ∧
      WaitsFrom cfg hash offset t.dueAt.instant after s' :=
    hlater.inv_labels (I := fun ops s => ProjectorInv stableHash asked cfg a cutover s ∧
      WaitsFrom cfg hash offset t.dueAt.instant ops s) ⟨hinv0, hstart⟩ fun _ _ _ _ _ hi hs =>
      ⟨hi.1.step hscope hhash hs.1.1 hs.2, hi.2.step hscope hhash hi.1 hs.1.1 hs.1.2 hs.2⟩
  obtain ⟨w, hw, hp, hwh, hwz, hfirst⟩ := hwaits.task
  refine ⟨hdue, fun h => ?_, fun h y hy hyz hstarts => ?_⟩
  · obtain ⟨y, hy, hat, hstarts⟩ :=
      @starts_when_due py _ _ _ _ _ _ _ _ hscope hworker hinv' hw hp hwh
    have hle := h y hy (by rw [hat]; exact hwz) hstarts
    rw [hat] at hle
    exact ((hfirst _).mp hle).2
  · -- the round claims the waiting task
    obtain ⟨u, hu, huh⟩ := hstarts
    have heffect : RoundEffect py cfg s' y (s'.round py cfg y).1 (s'.round py cfg y).2 :=
      round_effect_inv hscope hinv' hy
    have hclaim : ∃ v ∈ s'.db.tasks, claimable y.claimedAt v = true ∧
        (s'.round py cfg y).2.task = some (y.claimed cfg v) := by
      cases heffect with
      | idle _ hnone _ =>
        rw [hnone] at hu
        cases hu
      | passed v hv hc htask => exact ⟨v, hv, hc, htask⟩
      | attempted v _ _ _ hv hc htask => exact ⟨v, hv, hc, htask⟩
    obtain ⟨v, hv, hc, htask⟩ := hclaim
    obtain rfl := Option.some.inj (htask.symm.trans hu)
    rw [(claimed_payload cfg y v).1] at huh
    obtain rfl :=
      hinv'.tasks.eq_of_hash hw hv (pending_live hp) (claimable_live hc) (hwh.trans huh.symm)
    have hle : w.dueAt.instant ≤ y.claimedAt.instant := by
      simp only [claimable, decide_eq_true_eq, hp, true_and] at hc
      rcases hc with hc | ⟨hbad, -⟩
      · exact (hwz.le_iff hyz).mp hc
      · cases hbad
    exact ((hfirst _).mpr ⟨le_refl _, h⟩).trans hle

end Steps

/-! ### A request within the backoff -/

section First

/-- The update is refused: the task waits for 30 s. -/
def failingRound : StatusRound := { firstRound with update := .raised { text := "timeout" } false }

def firstFailure : Projector :=
  ((firstStart.request (fun _ => firstDigest) firstConfig firstRequest).1.round plainText
    firstConfig failingRound).1

def waitingTask : AutomationTask :=
  failingRound.retry firstConfig 1 (failingRound.claimed firstConfig
    ({ projectionSpec (fun _ => firstDigest) firstConfig firstActivation firstRequest with
       dedupeKey := some (projectionKey firstConfig firstDigest) }.row firstActivation "t1"))

/-- The same request at another time. -/
def requestAt (n : ℤ) : StatusRequest := { firstRequest with now := .utc n, newId := "t2" }

/-- A request after a second starts the next attempt at once. -/
theorem backoff_pulled_forward : waitingTask ∈ firstFailure.db.tasks ∧
    waitingTask.dueAt = .utc 32000000 ∧
    ((firstFailure.request (fun _ => firstDigest) firstConfig (requestAt 3000000)).1.round
      plainText firstConfig
      { firstRound with claimedAt := .utc 3000000, now := .utc 3000000 }).2.task.map
        (·.payload.desiredHash) =
        some (some firstDigest) := by
  decide +kernel

theorem waitingTask_rescheduled : Rescheduled plainText firstConfig
    (firstStart.request (fun _ => firstDigest) firstConfig firstRequest).1 failingRound
      waitingTask := by
  refine ⟨by decide +kernel, by decide +kernel, ?_⟩
  exact ⟨failingRound.claimed firstConfig
      ({ projectionSpec (fun _ => firstDigest) firstConfig firstActivation firstRequest with
       dedupeKey := some (projectionKey firstConfig firstDigest) }.row firstActivation "t1"), by
         decide +kernel, by decide +kernel⟩

/-- A request once the delay is over leaves it. -/
theorem backoff_respected_later : waitingTask.dueAt = .utc 32000000 ∧
    ∀ y : StatusRound, y.gates = {} → InZone 0 y.claimedAt →
      Starts plainText firstConfig firstDigest
        (firstFailure.request (fun _ => firstDigest) firstConfig (requestAt 32000000)).1 y →
      waitingTask.dueAt.instant ≤ y.claimedAt.instant := by
  have hrun :
      Run (Guarded (InEpoch (· = firstFields) (.utc 0))
      (ProjectorStep plainText (fun _ => firstDigest) firstConfig))
      firstStart [.request firstRequest]
        (firstStart.request (fun _ => firstDigest) firstConfig firstRequest).1 :=
    .one ⟨firstRequest_inEpoch, rfl⟩
  have hlater : Run (Guarded (fun s op => InEpoch (· = firstFields) (.utc 0) s op ∧
      Between plainText (fun _ => firstDigest) firstConfig firstDigest 0 s op)
        (ProjectorStep plainText (fun _ => firstDigest) firstConfig))
      firstFailure [.request (requestAt 32000000)]
      (firstFailure.request (fun _ => firstDigest) firstConfig (requestAt 32000000)).1 :=
    .one ⟨⟨⟨rfl, by decide +kernel, by decide +kernel⟩, rfl, rfl, by decide⟩, rfl⟩
  refine ⟨rfl,
      (backoff_respected_iff firstConfig_scope firstHash_hex (by decide)
      hrun rfl waitingTask_rescheduled
    (by decide +kernel) (by decide) hlater).2.mpr fun r hr => ?_⟩
  obtain rfl := ProjectorOp.request.inj (List.mem_singleton.mp hr)
  decide +kernel

end First

end TemperatureMonitor
