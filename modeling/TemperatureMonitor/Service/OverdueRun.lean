/-
# Overdue reminders advance one by one

Over every run of observations, scanner ticks, handlers (also cut short by a
crash) and calls of others on the task table: the invariant says of each
reminder task that may still run, and of the cursor of each open operation,
that its reminder is due (`Due`), and the account of the log follows
(`reminders_advance`).

A reminder of sequence 0 is due by the deadline of the open operation, or it
was queued already when that was opened: an observation of the same record with
a later creation time opens the operation anew, and a task that was queued
before is then sent before the new deadline (`reopened_before_deadline`).
-/
import TemperatureMonitor.Service.OverdueReminders

namespace TemperatureMonitor

/-! ### The log -/

/-- The entry turns a page of the device's history. -/
def ReminderEvent.turns (deviceId : String) : ReminderEvent → Bool
  | opened d _ _ _ | closed d => d = deviceId
  | sent .. | recorded .. => false

/-- The operation of the device that is open after a history. -/
def openOperation (deviceId : String) : List ReminderEvent → Option (String × DateTime)
  | [] => none
  | .opened d recordId startedAt _ :: log =>
    if d = deviceId then some (recordId, startedAt) else openOperation deviceId log
  | .closed d :: log => if d = deviceId then none else openOperation deviceId log
  | .sent .. :: log | .recorded .. :: log => openOperation deviceId log

/-- The reminders that were queued already when the open operation of the device was opened. -/
def queuedBefore (deviceId : String) : List ReminderEvent → List Reminder
  | [] => []
  | .opened d _ _ queued :: log => if d = deviceId then queued else queuedBefore deviceId log
  | .closed d :: log => if d = deviceId then [] else queuedBefore deviceId log
  | .sent .. :: log | .recorded .. :: log => queuedBefore deviceId log

/-- What was logged since the device's last opening or end. -/
def sinceOpening (deviceId : String) (log : List ReminderEvent) : List ReminderEvent :=
  log.takeWhile fun e => !e.turns deviceId

/-- The reminder before. -/
def Reminder.previous (r : Reminder) : Reminder := { r with sequence := r.sequence - 1 }

/-- The reminder was recorded as sent. -/
def WasSent (log : List ReminderEvent) (r : Reminder) : Prop := ∃ at_, .recorded r "SENT" at_ ∈ log

/-- Every time it was is by `till`. -/
def SentBy (log : List ReminderEvent) (r : Reminder) (till : ℤ) : Prop :=
  ∀ at_, .recorded r "SENT" at_ ∈ log → at_.instant ≤ till

/-- A deadline of the record has passed. -/
def DeadlinePassed (cfg : OverdueConfig) (log : List ReminderEvent) (now : ℤ)
    (r : Reminder) : Prop :=
  ∃ startedAt queued, .opened r.deviceId r.recordId startedAt queued ∈ log ∧
    startedAt.instant + cfg.overdueAfter ≤ now

/-- If the record is the open operation of the device, its own deadline has
passed, or the reminder was queued before it was opened. -/
def OpenDue (cfg : OverdueConfig) (log : List ReminderEvent) (now : ℤ) (r : Reminder) : Prop :=
  ∀ startedAt, openOperation r.deviceId log = some (r.recordId, startedAt) →
    startedAt.instant + cfg.overdueAfter ≤ now ∨ r ∈ queuedBefore r.deviceId log

/-- A first reminder is due by a deadline of its record; a later one if it was
sent before, or the interval after the one before it. -/
def Due (cfg : OverdueConfig) (log : List ReminderEvent) (now : ℤ) (r : Reminder) : Prop :=
  (r.sequence = 0 ∧ DeadlinePassed cfg log now r ∧ OpenDue cfg log now r) ∨
    0 < r.sequence ∧
      (WasSent log r ∨ WasSent log r.previous ∧ SentBy log r.previous (now - cfg.repeatEvery))

/-- What an entry tells of the log before it. -/
def Allowed (cfg : OverdueConfig) : ReminderEvent → List ReminderEvent → Prop
  | .opened .., _ | .closed _, _ => True
  | .sent r idempotencyKey o at_, log => Due cfg log at_.instant r ∧ idempotencyKey = r.effectKey ∧
      openOperation r.deviceId log = some (r.recordId, o.startedAt)
  | .recorded r _ at_, log => Due cfg log at_.instant r ∧
      ∃ startedAt, openOperation r.deviceId log = some (r.recordId, startedAt)

/-- Every entry is allowed after those before it. -/
def Account (cfg : OverdueConfig) : List ReminderEvent → Prop
  | [] => True
  | e :: log => Allowed cfg e log ∧ Account cfg log

section Log

variable {cfg : OverdueConfig} {log after before : List ReminderEvent} {e : ReminderEvent}
  {r : Reminder}
  {deviceId : String} {now now' : ℤ}

theorem Account.at_entry (h : Account cfg log) (hlog : log = after ++ e :: before) :
    Allowed cfg e before := by
  induction after generalizing log with
  | nil =>
    rw [hlog] at h
    exact h.1
  | cons x after ih =>
    rw [hlog] at h
    exact ih h.2 rfl

theorem Reminder.previous_ne (r : Reminder) : r.previous ≠ r := by
  intro h
  have hseq : r.sequence - 1 = r.sequence := congrArg Reminder.sequence h
  omega

theorem Due.nonneg (h : Due cfg log now r) : 0 ≤ r.sequence := by
  rcases h with ⟨h0, -⟩ | ⟨hpos, -⟩
  · omega
  · omega

theorem Due.later (h : Due cfg log now r) (hle : now ≤ now') : Due cfg log now' r := by
  rcases h with ⟨h0, ⟨startedAt, queued, hmem, hstart⟩, hopen⟩ | ⟨hpos, hsent⟩
  · refine .inl ⟨h0, ⟨startedAt, queued, hmem, by omega⟩, fun t ht =>
      (hopen t ht).imp_left fun hle' => by omega⟩
  · refine .inr ⟨hpos, hsent.imp_right fun ⟨hprev, hby⟩ => ⟨hprev, fun at_ hat => ?_⟩⟩
    have hat' := hby at_ hat
    omega

theorem WasSent.cons (h : WasSent log r) : WasSent (e :: log) r := by
  obtain ⟨at_, hat⟩ := h
  exact ⟨at_, List.mem_cons_of_mem _ hat⟩

theorem SentBy.cons {till : ℤ} (h : SentBy log r till) (he : ∀ at_, e ≠ .recorded r "SENT" at_) :
    SentBy (e :: log) r till := by
  intro at_ hat
  rcases List.mem_cons.mp hat with heq | hat
  · exact absurd heq.symm (he at_)
  · exact h at_ hat

/-- An entry that turns no page leaves the open operation. -/
theorem openOperation_cons (he : e.turns deviceId = false) :
    openOperation deviceId (e :: log) = openOperation deviceId log := by
  cases e with
  | opened d x t q =>
    have hd : d ≠ deviceId := by simpa [ReminderEvent.turns] using he
    exact if_neg hd
  | closed d =>
    have hd : d ≠ deviceId := by simpa [ReminderEvent.turns] using he
    exact if_neg hd
  | sent x k o t => rfl
  | recorded x st t => rfl

theorem queuedBefore_cons (he : e.turns deviceId = false) :
    queuedBefore deviceId (e :: log) = queuedBefore deviceId log := by
  cases e with
  | opened d x t q =>
    have hd : d ≠ deviceId := by simpa [ReminderEvent.turns] using he
    exact if_neg hd
  | closed d =>
    have hd : d ≠ deviceId := by simpa [ReminderEvent.turns] using he
    exact if_neg hd
  | sent x k o t => rfl
  | recorded x st t => rfl

/-- The operation is opened with this reminder queued, if it is opened. -/
def ReminderEvent.Queues (e : ReminderEvent) (r : Reminder) : Prop :=
  ∀ d x t q, e = .opened d x t q → d = r.deviceId → r ∈ q

theorem OpenDue.cons (h : OpenDue cfg log now r) (hq : e.Queues r) :
    OpenDue cfg (e :: log) now r := by
  intro startedAt hopen
  cases hturn : e.turns r.deviceId with
  | false =>
    rw [openOperation_cons hturn] at hopen
    rw [queuedBefore_cons hturn]
    exact h startedAt hopen
  | true =>
    cases e with
    | opened d x t q =>
      have hd : d = r.deviceId := by simpa [ReminderEvent.turns] using hturn
      rw [queuedBefore, if_pos hd]
      exact .inr (hq d x t q rfl hd)
    | closed d =>
      have hd : d = r.deviceId := by simpa [ReminderEvent.turns] using hturn
      rw [openOperation, if_pos hd] at hopen
      cases hopen
    | sent x k o t => cases hturn
    | recorded x st t => cases hturn

/-- Only a note on the reminder before can put one off, or an opening that does not find it
queued. -/
theorem Due.cons (h : Due cfg log now r) (he : ∀ at_, e ≠ .recorded r.previous "SENT" at_)
    (hq : e.Queues r) : Due cfg (e :: log) now r := by
  rcases h with ⟨h0, ⟨startedAt, queued, hmem, hstart⟩, hopen⟩ | ⟨hpos, hsent | ⟨hprev, hby⟩⟩
  · exact .inl ⟨h0, ⟨startedAt, queued, List.mem_cons_of_mem _ hmem, hstart⟩, hopen.cons hq⟩
  · exact .inr ⟨hpos, .inl hsent.cons⟩
  · exact .inr ⟨hpos, .inr ⟨hprev.cons, hby.cons he⟩⟩

theorem queues_of_turns (he : e.turns r.deviceId = false) : e.Queues r := by
  intro d x t q heq hd
  rw [heq] at he
  exact absurd he (by simp [ReminderEvent.turns, hd])

theorem openOperation_mem {recordId : String} {startedAt : DateTime}
    (h : openOperation deviceId log = some (recordId, startedAt)) :
    ∃ queued, .opened deviceId recordId startedAt queued ∈ log := by
  induction log with
  | nil => cases h
  | cons e log ih =>
    have hlater (h : openOperation deviceId log = some (recordId, startedAt)) :
        ∃ queued, .opened deviceId recordId startedAt queued ∈ e :: log := by
      obtain ⟨queued, hmem⟩ := ih h
      exact ⟨queued, List.mem_cons_of_mem _ hmem⟩
    cases hturn : e.turns deviceId with
    | false =>
      rw [openOperation_cons hturn] at h
      exact hlater h
    | true =>
      cases e with
      | opened d x t q =>
        have hd : d = deviceId := by simpa [ReminderEvent.turns] using hturn
        rw [openOperation, if_pos hd] at h
        cases h
        rw [hd]
        exact ⟨q, List.mem_cons_self⟩
      | closed d =>
        have hd : d = deviceId := by simpa [ReminderEvent.turns] using hturn
        rw [openOperation, if_pos hd] at h
        cases h
      | sent x k o t => cases hturn
      | recorded x st t => cases hturn

theorem sinceOpening_cons (he : e.turns deviceId = false) :
    sinceOpening deviceId (e :: log) = e :: sinceOpening deviceId log := by
  unfold sinceOpening
  rw [List.takeWhile_cons, if_pos (by rw [he]; rfl)]

end Log

/-! ### The cursors -/

/-- The text is as the adapter of operations leaves it. -/
def NormalId (cfg : OverdueConfig) (deviceId : String) : Prop :=
  strip deviceId = deviceId ∧ cfg.upper deviceId = deviceId

/-- What the row tells of its reminders is what was noted of the record since it was opened. -/
structure NotedRow (cfg : OverdueConfig) (log : List ReminderEvent) (now : ℤ) (recordId : String)
    (row : OperationStateRow) (status : String) (sequence : ℤ) : Prop where
  column : row.overdueNotificationSequence = some sequence
  nonneg : 0 ≤ sequence
  noted : ∃ at_, .recorded ⟨row.deviceId, recordId, sequence⟩
    status at_ ∈ sinceOpening row.deviceId log
  pending : status = "PENDING" → Due cfg log now ⟨row.deviceId, recordId, sequence⟩
  sent : status = "SENT" → ∃ at_, row.overdueNotificationAt = some at_ ∧
    SentBy log ⟨row.deviceId, recordId, sequence⟩ at_.instant

/-- The row of an open operation, with its current observation and its start. -/
structure Cursor (cfg : OverdueConfig) (log : List ReminderEvent) (now : ℤ)
    (row : OperationStateRow) (c : OperationObservation) (startedAt : DateTime) : Prop where
  start : row.startedAt = some startedAt
  opened : openOperation row.deviceId log = some (c.sourceRecordId, startedAt)
  noted : ∀ status, row.overdueNotificationStatus = some status →
    ∃ sequence, NotedRow cfg log now c.sourceRecordId row status sequence

structure CursorsSound (cfg : OverdueConfig) (log : List ReminderEvent) (now : ℤ)
    (store : OperationStore) : Prop where
  rows : (store.states.map (·.deviceId)).Nodup
  names : ∀ row ∈ store.states, NormalId cfg row.deviceId
  cursor : ∀ row ∈ store.states, row.state = .operating → ∃ c startedAt,
    rowOf OperationObservation.deviceId store.current row.deviceId = some c ∧
      Cursor cfg log now row c startedAt

section Cursors

variable {cfg : OverdueConfig} {log : List ReminderEvent} {now now' : ℤ} {store : OperationStore}
  {row row' : OperationStateRow} {c c' o : OperationObservation} {startedAt : DateTime}
  {e : ReminderEvent}
  {status recordId : String} {sequence : ℤ}

theorem NotedRow.later (h : NotedRow cfg log now recordId row status sequence) (hle : now ≤ now') :
    NotedRow cfg log now' recordId row status sequence :=
  ⟨h.column, h.nonneg, h.noted, fun hp => (h.pending hp).later hle, h.sent⟩

theorem CursorsSound.later (h : CursorsSound cfg log now store) (hle : now ≤ now') :
    CursorsSound cfg log now' store where
  rows := h.rows
  names := h.names
  cursor := fun row hrow hop => by
    obtain ⟨c, startedAt, hc, hcur⟩ := h.cursor row hrow hop
    refine ⟨c, startedAt, hc, hcur.start, hcur.opened, fun status hs => ?_⟩
    obtain ⟨sequence, hnoted⟩ := hcur.noted status hs
    exact ⟨sequence, hnoted.later hle⟩

/-- An entry that turns no page of the device and notes no reminder of it. -/
theorem Cursor.cons (h : Cursor cfg log now row c startedAt) (hturn : e.turns row.deviceId = false)
    (he : ∀ r at_, e = .recorded r "SENT" at_ → r.deviceId ≠ row.deviceId) :
    Cursor cfg (e :: log) now row c startedAt where
  start := h.start
  opened := (openOperation_cons hturn).trans h.opened
  noted := fun status hs => by
    obtain ⟨sequence, hnoted⟩ := h.noted status hs
    obtain ⟨at_, hat⟩ := hnoted.noted
    refine ⟨sequence, hnoted.column, hnoted.nonneg, ⟨at_, ?_⟩, fun hp => ?_, fun hsent => ?_⟩
    · rw [sinceOpening_cons hturn]
      exact List.mem_cons_of_mem _ hat
    · exact (hnoted.pending hp).cons (fun at' heq => he _ at' heq rfl) (queues_of_turns hturn)
    · obtain ⟨a, ha, hby⟩ := hnoted.sent hsent
      exact ⟨a, ha, hby.cons fun at' heq => he _ at' heq rfl⟩

/-- A write that leaves the device, the start and the cursor, or clears the status. -/
theorem Cursor.congr (h : Cursor cfg log now row c startedAt) (hdev : row'.deviceId = row.deviceId)
    (hstart : row'.startedAt = row.startedAt) (hrec : c'.sourceRecordId = c.sourceRecordId)
    (hstatus : row'.overdueNotificationStatus = row.overdueNotificationStatus ∨
      row'.overdueNotificationStatus = none)
    (hseq : row'.overdueNotificationSequence = row.overdueNotificationSequence)
    (hat : row'.overdueNotificationAt = row.overdueNotificationAt) :
    Cursor cfg log now row' c' startedAt where
  start := hstart.trans h.start
  opened := by rw [hdev, hrec, h.opened]
  noted := fun status hs => by
    rcases hstatus with hsame | hnone
    · obtain ⟨sequence, hnoted⟩ := h.noted status (hsame.symm.trans hs)
      refine ⟨sequence, hseq.trans hnoted.column, hnoted.nonneg, ?_, fun hp => ?_, fun hsent => ?_⟩
      · rw [hdev, hrec]
        exact hnoted.noted
      · rw [hdev, hrec]
        exact hnoted.pending hp
      · obtain ⟨a, ha, hby⟩ := hnoted.sent hsent
        refine ⟨a, hat.trans ha, ?_⟩
        rw [hdev, hrec]
        exact hby
    · rw [hnone] at hs
      cases hs

theorem enrichState_cursor (current : List OperationObservation) (o : OperationObservation)
    (row : OperationStateRow) :
    (enrichState current o row).state = row.state ∧
      (enrichState current o row).startedAt = row.startedAt ∧
      ((enrichState current o row).overdueNotificationStatus = row.overdueNotificationStatus ∨
        (enrichState current o row).overdueNotificationStatus = none) ∧
      (enrichState current o row).overdueNotificationSequence = row.overdueNotificationSequence ∧
      (enrichState current o row).overdueNotificationAt = row.overdueNotificationAt := by
  by_cases hrec : ofRecord current o row = true
  · rw [enrichState, if_pos hrec]
    refine ⟨rfl, rfl, ?_, rfl, rfl⟩
    by_cases hskip : row.overdueNotificationStatus = some "SKIPPED_NO_INITIATOR"
    · exact .inr (if_pos hskip)
    · exact .inl (if_neg hskip)
  · rw [enrichState, if_neg hrec]
    exact ⟨rfl, rfl, .inl rfl, rfl, rfl⟩

/-- An enrichment leaves the cursors, save that a skipped reminder is open again. -/
theorem CursorsSound.refresh (h : CursorsSound cfg log now store) (o : OperationObservation) :
    CursorsSound cfg log now (store.refreshInitiator o) := by
  unfold OperationStore.refreshInitiator
  by_cases hmeta : o.hasMetadata = true
  · rw [if_pos hmeta]
    have hids :
        ((store.states.map (enrichState (store.current.map (enrichObservation o)) o)).map
        (·.deviceId)) =
        store.states.map (·.deviceId) := by
      rw [List.map_map]
      exact List.map_congr_left fun row _ => enrichState_deviceId _ o row
    refine ⟨by rw [hids]; exact h.rows, fun row' hrow' => ?_, fun row' hrow' hop => ?_⟩
    · obtain ⟨row, hrow, rfl⟩ := List.mem_map.mp hrow'
      rw [enrichState_deviceId]
      exact h.names row hrow
    · obtain ⟨row, hrow, rfl⟩ := List.mem_map.mp hrow'
      obtain ⟨hstate, hstart, hstatus, hseq, hat⟩ :=
        enrichState_cursor (store.current.map (enrichObservation o)) o row
      obtain ⟨c, startedAt, hc, hcur⟩ := h.cursor row hrow (hstate ▸ hop)
      refine ⟨enrichObservation o c, startedAt, ?_,
        hcur.congr (enrichState_deviceId _ o row) hstart ?_ hstatus hseq hat⟩
      · rw [enrichState_deviceId]
        show rowOf OperationObservation.deviceId (store.current.map (enrichObservation o))
          row.deviceId = _
        rw [rowOf_map (enrichObservation_deviceId o), hc, Option.map_some]
      · show (enrichObservation o c).core.sourceRecordId = c.core.sourceRecordId
        rw [(enrichObservation_fills o c).core]
  · rw [if_neg hmeta]
    exact h

theorem OperationObservation.opening_turns (o : OperationObservation) (queued : List Reminder)
    (deviceId : String) : (o.opening queued).turns deviceId = decide (o.deviceId = deviceId) := by
  unfold OperationObservation.opening
  cases o.action with
  | startOperation => rfl
  | switchOperation => rfl
  | endOperation => rfl

theorem OperationObservation.opening_ne (o : OperationObservation) (queued : List Reminder)
    (r : Reminder)
    (status : String) (at_ : DateTime) : o.opening queued ≠ .recorded r status at_ := by
  unfold OperationObservation.opening
  cases o.action with
  | startOperation => exact fun h => by cases h
  | switchOperation => exact fun h => by cases h
  | endOperation => exact fun h => by cases h

theorem OperationObservation.opening_queues (o : OperationObservation) {queued : List Reminder}
    {r : Reminder} (h : r ∈ queued) : (o.opening queued).Queues r := by
  intro d x t q heq _
  unfold OperationObservation.opening at heq
  split at heq
  · rw [← (ReminderEvent.opened.inj heq).2.2.2]
    exact h
  · rw [← (ReminderEvent.opened.inj heq).2.2.2]
    exact h
  · cases heq

/-- The row an accepted observation leaves: with no reminder, if it opens an operation. -/
theorem nextStateRow_cursor (queued : List Reminder) (previous : Option OperationStateRow)
    (hop : (nextStateRow o previous).state = .operating) :
    Cursor cfg (o.opening queued :: log) now (nextStateRow o previous) o o.sourceCreatedAt := by
  cases ha : o.action with
  | startOperation | switchOperation =>
    have hdev := nextStateRow_deviceId o previous
    have hnone : (nextStateRow o previous).overdueNotificationStatus = none := by
      simp [nextStateRow, ha]
    refine ⟨by simp [nextStateRow, ha], ?_, fun status hs => ?_⟩
    · rw [hdev]
      simp [OperationObservation.opening, ha, openOperation]
    · rw [hnone] at hs
      cases hs
  | endOperation =>
    have hidle : (nextStateRow o previous).state = .idle := by simp [nextStateRow, ha]
    rw [hidle] at hop
    cases hop

/-- An accepted observation starts or ends the cursor of its device, and leaves the others. -/
theorem CursorsSound.save (h : CursorsSound cfg log now store) (hnormal : NormalId cfg o.deviceId)
    (queued : List Reminder) :
    CursorsSound cfg (o.opening queued :: log) now (store.saveCurrent o) := by
  have hkey := nextStateRow_deviceId o
  have hn : ((store.saveCurrent o).states.map (·.deviceId)).Nodup := nodup_alterRow hkey h.rows
  have hrow : ∀ row ∈ (store.saveCurrent o).states, row ∈ store.states ∧ row.deviceId ≠ o.deviceId ∨
      ∃ previous, row = nextStateRow o previous := by
    intro row hmem
    have hfind :
        rowOf OperationStateRow.deviceId (store.saveCurrent o).states row.deviceId = some row :=
      rowOf_of_mem hn hmem
    have halter := @rowOf_alterRow _ _ _ _ _ row.deviceId _ store.states hkey
    by_cases hd : row.deviceId = o.deviceId
    · rw [if_pos hd] at halter
      exact .inr ⟨_, Option.some.inj (hfind.symm.trans halter)⟩
    · rw [if_neg hd] at halter
      exact .inl ⟨(mem_of_rowOf (halter.symm.trans hfind)).1, hd⟩
  refine ⟨hn, fun row hmem => ?_, fun row hmem hop => ?_⟩
  · rcases hrow row hmem with ⟨hold, -⟩ | ⟨previous, rfl⟩
    · exact h.names row hold
    · rw [hkey]
      exact hnormal
  · have hcurrent := @rowOf_alterRow _ _ _ _ _ row.deviceId _ store.current
      (show ∀ x, OperationObservation.deviceId ((fun _ => o) x) = o.deviceId from fun _ => rfl)
    rcases hrow row hmem with ⟨hold, hd⟩ | ⟨previous, rfl⟩
    · rw [if_neg hd] at hcurrent
      obtain ⟨c, startedAt, hc, hcur⟩ := h.cursor row hold hop
      refine ⟨c, startedAt, hcurrent.trans hc, hcur.cons ?_ fun r at_ he =>
        absurd he (o.opening_ne queued r _ at_)⟩
      rw [o.opening_turns]
      exact decide_eq_false (Ne.symm hd)
    · rw [if_pos (hkey previous)] at hcurrent
      exact ⟨o, o.sourceCreatedAt, hcurrent, nextStateRow_cursor queued previous hop⟩

section Note

variable {r : Reminder} {at_ : DateTime} {messageId error : Option String}

theorem noteRow_other {current : List OperationObservation} (h : row.deviceId ≠ r.deviceId) :
    noteRow current r.deviceId r.recordId status at_ messageId error (some r.sequence) row = row :=
  if_neg fun hhit => h hhit.1

theorem noteRow_deviceId (current : List OperationObservation) (row : OperationStateRow) :
    (noteRow current r.deviceId r.recordId status at_ messageId error (some r.sequence)
      row).deviceId = row.deviceId := by
  unfold noteRow
  split_ifs <;> rfl

theorem noteRow_state (current : List OperationObservation) (row : OperationStateRow) :
    (noteRow current r.deviceId r.recordId status at_ messageId error (some r.sequence) row).state =
      row.state := by
  unfold noteRow
  split_ifs <;> rfl

/-- The row of the open operation takes the note. -/
theorem Cursor.note (h : Cursor cfg log at_.instant row c startedAt) (hop : row.state = .operating)
    (hc : rowOf OperationObservation.deviceId store.current row.deviceId = some c)
    (hdev : row.deviceId = r.deviceId)
    (hrec : c.sourceRecordId = r.recordId) (hdue : Due cfg log at_.instant r)
    (hby : SentBy log r at_.instant) : Cursor cfg (.recorded r status at_ :: log) at_.instant
      (noteRow store.current r.deviceId r.recordId status at_ messageId error (some r.sequence) row)
        c startedAt := by
  have hmem := mem_of_rowOf hc
  have hany :
      (store.current.any fun x => x.deviceId = row.deviceId && x.sourceRecordId = r.recordId) =
      true :=
    List.any_eq_true.mpr ⟨c, hmem.1, by simp [hmem.2, hrec]⟩
  have hr : (⟨row.deviceId, c.sourceRecordId, r.sequence⟩ : Reminder) = r := by rw [hdev, hrec]
  rw [noteRow, if_pos ⟨hdev, hop, hany⟩]
  refine ⟨h.start, (openOperation_cons rfl).trans h.opened, fun status' hs => ?_⟩
  obtain rfl := Option.some.inj hs
  refine ⟨r.sequence, rfl, hdue.nonneg, ⟨at_, ?_⟩, fun _ => ?_, fun hsent =>
    ⟨at_, ?_, fun at' hat => ?_⟩⟩
  · rw [sinceOpening_cons rfl]
    show _ ∈ _ :: sinceOpening row.deviceId log
    rw [hr]
    exact List.mem_cons_self
  · show Due cfg _ at_.instant ⟨row.deviceId, c.sourceRecordId, r.sequence⟩
    rw [hr]
    exact hdue.cons (fun at' heq => r.previous_ne (ReminderEvent.recorded.inj heq).1.symm)
      (queues_of_turns rfl)
  · exact if_pos (.inl hsent)
  · have hat' : .recorded r "SENT" at' ∈ (.recorded r status at_ :: log : List ReminderEvent) :=
      hr ▸ hat
    rcases List.mem_cons.mp hat' with heq | hold
    · rw [(ReminderEvent.recorded.inj heq).2.2]
    · exact hby at' hold

/-- A note is on the row of the open operation, and on no other. -/
theorem CursorsSound.note (h : CursorsSound cfg log at_.instant store)
    (hopen : openOperation r.deviceId log = some (r.recordId, startedAt))
    (hdue : Due cfg log at_.instant r)
    (hby : SentBy log r at_.instant) : CursorsSound cfg (.recorded r status at_ :: log) at_.instant
      (store.updateOverdueNotification r.deviceId r.recordId status at_ messageId error
        (some r.sequence)) := by
  have hids : ((store.updateOverdueNotification r.deviceId r.recordId status at_ messageId error
      (some r.sequence)).states.map (·.deviceId)) = store.states.map (·.deviceId) := by
    unfold OperationStore.updateOverdueNotification
    rw [List.map_map]
    exact List.map_congr_left fun row _ => noteRow_deviceId store.current row
  refine ⟨by rw [hids]; exact h.rows, fun row' hrow' => ?_, fun row' hrow' hop => ?_⟩
  · obtain ⟨row, hrow, rfl⟩ := List.mem_map.mp hrow'
    rw [noteRow_deviceId]
    exact h.names row hrow
  · obtain ⟨row, hrow, rfl⟩ := List.mem_map.mp hrow'
    rw [noteRow_state] at hop
    obtain ⟨c, start, hc, hcur⟩ := h.cursor row hrow hop
    refine ⟨c, start, by rw [noteRow_deviceId]; exact hc, ?_⟩
    by_cases hdev : row.deviceId = r.deviceId
    · have hrec : c.sourceRecordId = r.recordId := by
        have hopened := hcur.opened
        rw [hdev, hopen] at hopened
        exact (Prod.mk.inj (Option.some.inj hopened)).1.symm
      exact hcur.note hop hc hdev hrec hdue hby
    · rw [noteRow_other hdev]
      exact hcur.cons rfl fun r' at' heq => by
        rw [← (ReminderEvent.recorded.inj heq).1]; exact Ne.symm hdev

end Note

/-- What the scanner computes from a cursor is due when it says so. -/
theorem Cursor.next_due {op : ActiveOperation} (h : Cursor cfg log now' row c startedAt)
    (hstart : op.startedAt = startedAt)
    (hstatus : op.overdueNotificationStatus = row.overdueNotificationStatus)
    (hseq : op.overdueNotificationSequence = row.overdueNotificationSequence)
    (hat : op.overdueNotificationAt = row.overdueNotificationAt) {t due : DateTime}
    (hnext : op.next cfg t = some (sequence, due)) (hle : due.instant ≤ now') :
    Due cfg log now' ⟨row.deviceId, c.sourceRecordId, sequence⟩ := by
  unfold ActiveOperation.next at hnext
  dsimp only at hnext
  rw [hstatus] at hnext
  split at hnext
  · cases hnext
  · cases hnext
  · rename_i hs
    obtain ⟨m, hm⟩ := h.noted _ hs
    rw [hseq, hm.column] at hnext
    obtain ⟨rfl, -⟩ := Prod.mk.inj (Option.some.inj hnext)
    have hmax : max 0 m = m := max_eq_right hm.nonneg
    show Due cfg log now' ⟨row.deviceId, c.sourceRecordId, max 0 m⟩
    rw [hmax]
    exact hm.pending rfl
  · rename_i hs
    obtain ⟨m, hm⟩ := h.noted _ hs
    obtain ⟨a, ha, hby⟩ := hm.sent rfl
    obtain ⟨t', hmem⟩ := hm.noted
    rw [hseq, hm.column, hat, ha] at hnext
    obtain ⟨rfl, rfl⟩ := Prod.mk.inj (Option.some.inj hnext)
    have hmax : max 0 m = m := max_eq_right hm.nonneg
    have hprev : (⟨row.deviceId, c.sourceRecordId, max 0 m + 1⟩ : Reminder).previous =
        ⟨row.deviceId, c.sourceRecordId, m⟩ := by
      unfold Reminder.previous
      rw [hmax, add_sub_cancel_right]
    refine .inr ⟨?_, .inr ?_⟩
    · have hnn := hm.nonneg
      show 0 < max 0 m + 1
      omega
    · show WasSent log (Reminder.previous ⟨_, _, max 0 m + 1⟩) ∧
        SentBy log (Reminder.previous ⟨_, _, max 0 m + 1⟩) _
      rw [hprev]
      refine ⟨⟨t', (List.takeWhile_prefix _).subset hmem⟩, fun at' hat' => ?_⟩
      have hle' := hby at' hat'
      have hdue : a.instant + cfg.repeatEvery ≤ now' := hle
      omega
  · obtain ⟨rfl, rfl⟩ := Prod.mk.inj (Option.some.inj hnext)
    obtain ⟨queued, hmem⟩ := openOperation_mem h.opened
    rw [hstart] at hle
    refine .inl ⟨rfl, ⟨startedAt, queued, hmem, hle⟩, fun start hopen => .inl ?_⟩
    have hsame : (c.sourceRecordId, startedAt) = (c.sourceRecordId, start) :=
      Option.some.inj (h.opened.symm.trans hopen)
    rw [← (Prod.mk.inj hsame).2]
    exact hle

/-- An operation of the list is the open one of its device, and its next reminder is due on time. -/
theorem CursorsSound.active (h : CursorsSound cfg log now store) {op : ActiveOperation}
    (hop : op ∈ store.listActiveOperations) : NormalId cfg op.deviceId ∧
      openOperation op.deviceId log = some (op.sourceRecordId, op.startedAt) ∧
      ∀ t sequence due, op.next cfg t = some (sequence, due) → due.instant ≤ now →
        Due cfg log now ⟨op.deviceId, op.sourceRecordId, sequence⟩ := by
  unfold OperationStore.listActiveOperations at hop
  rw [List.mem_insertionSort] at hop
  obtain ⟨row, hrow, hactive⟩ := List.mem_filterMap.mp hop
  unfold OperationStateRow.active at hactive
  split_ifs at hactive with hstate
  obtain ⟨c, startedAt, hc, hcur⟩ := h.cursor row hrow hstate
  rw [hc, hcur.start] at hactive
  obtain rfl := Option.some.inj hactive
  exact ⟨h.names row hrow, hcur.opened, fun t sequence due hnext hle =>
    hcur.next_due rfl rfl rfl rfl hnext hle⟩

end Cursors

/-! ### The tasks -/

/-- A reminder task that may still run: claimed, or an unfinished row. -/
structure LiveReminder (tasks claimed : List AutomationTask) (t : AutomationTask) : Prop where
  taskType : t.taskType = overdueType
  live : t ∈ claimed ∨ t ∈ tasks ∧ t.unfinished = true

/-- The row of the task asks for the same reminder. -/
structure SameAsk (u t : AutomationTask) : Prop where
  taskId : u.taskId = t.taskId
  taskType : u.taskType = overdueType
  sourceRecordId : u.payload.sourceRecordId = t.payload.sourceRecordId
  reminderSequence : u.payload.reminderSequence = t.payload.reminderSequence

structure TasksSound (cfg : OverdueConfig) (log : List ReminderEvent) (now : ℤ)
    (tasks claimed : List AutomationTask) : Prop where
  ids : (tasks.map (·.taskId)).Nodup
  handed : ∀ t ∈ claimed, t.taskType = overdueType ∧ ∃ u ∈ tasks, SameAsk u t
  due : ∀ t, LiveReminder tasks claimed t → NormalId cfg t.entityId ∧
    Due cfg log now (t.reminder cfg.upper)
  one : ∀ t u, LiveReminder tasks claimed t → LiveReminder tasks claimed u →
      t.entityId = u.entityId →
    t.reminder cfg.upper = u.reminder cfg.upper

section Tasks

variable {cfg : OverdueConfig} {log : List ReminderEvent} {now now' : ℤ}
  {tasks tasks' claimed out : List AutomationTask}
  {t u : AutomationTask} {e : ReminderEvent} {r : Reminder}

theorem NormalId.reminder_deviceId (h : NormalId cfg t.entityId) :
    (t.reminder cfg.upper).deviceId = t.entityId := by
  show cfg.upper (strip t.entityId) = t.entityId
  rw [h.1, h.2]

theorem SameReminder.reminder (h : SameReminder t u) (ht : t.taskType = overdueType)
    (upper : String → String) : u.reminder upper = t.reminder upper := by
  unfold AutomationTask.reminder
  rw [h.entityId, (h.payload ht).1, (h.payload ht).2]

theorem TasksSound.later (h : TasksSound cfg log now tasks claimed) (hle : now ≤ now') :
    TasksSound cfg log now' tasks claimed :=
  ⟨h.ids, h.handed, fun t ht => ⟨(h.due t ht).1, (h.due t ht).2.later hle⟩, h.one⟩

/-- Fewer tasks are handed out. -/
theorem TasksSound.subset (h : TasksSound cfg log now tasks claimed)
    {claimed' : List AutomationTask}
    (hsub : ∀ t ∈ claimed', t ∈ claimed) : TasksSound cfg log now tasks claimed' := by
  have hlive : ∀ t, LiveReminder tasks claimed' t → LiveReminder tasks claimed t :=
    fun t ht => ⟨ht.taskType, ht.live.imp_left (hsub t)⟩
  exact ⟨h.ids, fun t ht => h.handed t (hsub t ht), fun t ht => h.due t (hlive t ht),
    fun t u ht hu => h.one t u (hlive t ht) (hlive u hu)⟩

/-- An entry that puts off no live reminder. -/
theorem TasksSound.cons (h : TasksSound cfg log now tasks claimed)
    (he : ∀ t, LiveReminder tasks claimed t →
      ∀ at_, e ≠ .recorded (t.reminder cfg.upper).previous "SENT" at_)
    (hq : ∀ t, LiveReminder tasks claimed t → e.Queues (t.reminder cfg.upper)) :
    TasksSound cfg (e :: log) now tasks claimed :=
  ⟨h.ids, h.handed, fun t ht => ⟨(h.due t ht).1, (h.due t ht).2.cons (he t ht) (hq t ht)⟩, h.one⟩

/-- What may run after such a call stands for what might run before. -/
theorem ReminderFrame.live (hf : ReminderFrame tasks tasks' out) (upper : String → String)
    {t' : AutomationTask}
    (ht' : LiveReminder tasks' (claimed ++ out.filter (·.taskType = overdueType)) t') :
    ∃ t, LiveReminder tasks claimed t ∧ t'.entityId = t.entityId ∧
      t'.reminder upper = t.reminder upper := by
  have hsame : ∀ t ∈ tasks, t.unfinished = true → SameReminder t t' →
      ∃ t, LiveReminder tasks claimed t ∧
      t'.entityId = t.entityId ∧ t'.reminder upper = t.reminder upper := by
    intro t ht hunf hs
    have htype : t.taskType = overdueType := hs.taskType.symm.trans ht'.taskType
    exact ⟨t, ⟨htype, .inr ⟨ht, hunf⟩⟩, hs.entityId, hs.reminder htype upper⟩
  rcases ht'.live with hmem | ⟨hmem, hunf⟩
  · rcases List.mem_append.mp hmem with hold | hout
    · exact ⟨t', ⟨ht'.taskType, .inl hold⟩, rfl, rfl⟩
    · obtain ⟨t, ht, hunf, hs⟩ := hf.out t' (List.mem_filter.mp hout).1
      exact hsame t ht hunf hs
  · obtain ⟨t, ht, hs⟩ := hf.rows t' hmem ht'.taskType
    exact hsame t ht (hs.unfinished hunf) hs

theorem ReminderFrame.ask (hf : ReminderFrame tasks tasks' out) {x : AutomationTask}
    (h : ∃ u ∈ tasks, SameAsk u x) : ∃ u ∈ tasks', SameAsk u x := by
  obtain ⟨u, hu, hx⟩ := h
  obtain ⟨u', hu', hs⟩ := hf.kept u hu
  have hpay := hs.payload hx.taskType
  exact ⟨u', hu', hs.taskId.trans hx.taskId, hs.taskType.trans hx.taskType,
      hpay.1.trans hx.sourceRecordId,
    hpay.2.trans hx.reminderSequence⟩

/-- A call that keeps what rows stand for. -/
theorem TasksSound.frame (h : TasksSound cfg log now tasks claimed)
    (hf : ReminderFrame tasks tasks' out) :
    TasksSound cfg log now tasks' (claimed ++ out.filter (·.taskType = overdueType)) := by
  refine ⟨hf.ids, fun t' ht' => ?_, fun t' ht' => ?_, fun t' u' ht' hu' hent => ?_⟩
  · rcases List.mem_append.mp ht' with hold | hout
    · exact ⟨(h.handed t' hold).1, hf.ask (h.handed t' hold).2⟩
    · obtain ⟨hmem, htype⟩ := List.mem_filter.mp hout
      have htype : t'.taskType = overdueType := by simpa using htype
      obtain ⟨t, ht, -, hs⟩ := hf.out t' hmem
      have htype' : t.taskType = overdueType := hs.taskType.symm.trans htype
      have hpay := hs.payload htype'
      exact ⟨htype, hf.ask ⟨t, ht, hs.taskId.symm, htype', hpay.1.symm, hpay.2.symm⟩⟩
  · obtain ⟨t, ht, hent, hr⟩ := hf.live cfg.upper ht'
    rw [hent, hr]
    exact h.due t ht
  · obtain ⟨t, ht, het, hrt⟩ := hf.live cfg.upper ht'
    obtain ⟨u, hu, heu, hru⟩ := hf.live cfg.upper hu'
    rw [hrt, hru]
    exact h.one t u ht hu (het.symm.trans (hent.trans heu))

/-- The scanner inserts the only unfinished task of a device. -/
theorem TasksSound.insert (h : TasksSound cfg log now tasks []) {rows : List AutomationTask}
    {row : AutomationTask}
    (hrows : List.Forall₂ SameReminder tasks rows) (hfresh : ∀ t ∈ tasks, t.taskId ≠ row.taskId)
    (hnormal : NormalId cfg row.entityId) (hdue : Due cfg log now (row.reminder cfg.upper))
    (hnone : ∀ t ∈ tasks, t.taskType = overdueType → t.unfinished = true →
      t.entityId ≠ row.entityId) :
    TasksSound cfg log now (rows ++ [row]) [] := by
  have hlive : ∀ t', LiveReminder (rows ++ [row]) [] t' → t' = row ∨
      ∃ t, LiveReminder tasks [] t ∧ t ∈ tasks ∧
      t.unfinished = true ∧ t'.entityId = t.entityId ∧
        t'.reminder cfg.upper = t.reminder cfg.upper := by
    intro t' ht'
    rcases ht'.live with hmem | ⟨hmem, hunf⟩
    · cases hmem
    rcases List.mem_append.mp hmem with hold | hnew
    · obtain ⟨t, ht, hs⟩ := forall₂_mem_right hrows hold
      have htype : t.taskType = overdueType := hs.taskType.symm.trans ht'.taskType
      have hunf' := hs.unfinished hunf
      exact .inr ⟨t, ⟨htype, .inr ⟨ht, hunf'⟩⟩, ht, hunf', hs.entityId, hs.reminder htype cfg.upper⟩
    · exact .inl (List.mem_singleton.mp hnew)
  have hids : ((rows ++ [row]).map (·.taskId)).Nodup := by
    rw [List.map_append, forall₂_ids (fun _ _ ht => ht.taskId) hrows]
    refine List.nodup_append.mpr ⟨h.ids, List.nodup_singleton _, fun id hid id' hid' => ?_⟩
    obtain ⟨t, ht, rfl⟩ := List.mem_map.mp hid
    rw [List.mem_singleton.mp hid']
    exact hfresh t ht
  refine ⟨hids, fun t ht =>
    absurd ht List.not_mem_nil, fun t' ht' => ?_, fun t' u' ht' hu' hent => ?_⟩
  · rcases hlive t' ht' with rfl | ⟨t, ht, -, -, het, hrt⟩
    · exact ⟨hnormal, hdue⟩
    · rw [het, hrt]
      exact h.due t ht
  · rcases hlive t' ht' with rfl | ⟨t, ht, htm, htu, het, hrt⟩
    · rcases hlive u' hu' with rfl | ⟨u, hu, hum, huu, heu, -⟩
      · rfl
      · exact absurd (heu.symm.trans hent.symm) (hnone u hum hu.taskType huu)
    · rcases hlive u' hu' with rfl | ⟨u, hu, -, -, heu, hru⟩
      · exact absurd (het.symm.trans hent) (hnone t htm ht.taskType htu)
      · rw [hrt, hru]
        exact h.one t u ht hu (het.symm.trans (hent.trans heu))

end Tasks

/-! ### The invariant -/

structure ReminderInv (cfg : OverdueConfig) (s : ReminderState) : Prop where
  tasks : TasksSound cfg s.log s.now.instant s.db.tasks s.claimed
  cursors : CursorsSound cfg s.log s.now.instant s.store
  sent : ∀ r at_, .recorded r "SENT" at_ ∈ s.log → at_.instant ≤ s.now.instant
  account : Account cfg s.log

section Steps

variable {cfg : OverdueConfig} {s s' : ReminderState} {task : AutomationTask}
  {o : OperationObservation}

theorem ReminderState.Fresh.inv (h : s.Fresh) : ReminderInv cfg s where
  tasks := by
    rw [h.claimed]
    have hno : ∀ t, ¬ LiveReminder s.db.tasks [] t := by
      intro t ht
      rcases ht.live with hmem | ⟨hmem, -⟩
      · cases hmem
      · exact h.tasks t hmem ht.taskType
    exact ⟨h.ids, fun t ht => absurd ht List.not_mem_nil, fun t ht =>
      absurd ht (hno t), fun t u ht => absurd ht (hno t)⟩
  cursors := by
    rw [h.store]
    exact ⟨List.nodup_nil, fun row hrow => absurd hrow List.not_mem_nil, fun row hrow =>
      absurd hrow List.not_mem_nil⟩
  sent := fun r at_ hmem => by
    rw [h.log] at hmem
    cases hmem
  account := by
    rw [h.log]
    trivial

theorem ReminderInv.later (h : ReminderInv cfg s) {now : DateTime}
    (hle : s.now.instant ≤ now.instant) : ReminderInv cfg { s with now := now } :=
  ⟨h.tasks.later hle, h.cursors.later hle, fun r at_ hmem =>
    (h.sent r at_ hmem).trans hle, h.account⟩

theorem LiveReminder.queued {t : AutomationTask} (h : LiveReminder s.db.tasks s.claimed t)
    (upper : String → String) : t.reminder upper ∈ s.queued upper := by
  refine List.mem_map_of_mem
    (List.mem_filter.mpr ⟨List.mem_append.mpr ?_, by simpa using h.taskType⟩)
  exact h.live.imp_right fun hrow => List.mem_filter.mpr hrow

/-- An observation. -/
theorem ReminderInv.observe (h : ReminderInv cfg s) (hnormal : NormalId cfg o.deviceId) :
    ReminderInv cfg (s.observe cfg.upper o) := by
  unfold ReminderState.observe OperationStore.apply
  by_cases hnew : isNewerOperation o (s.store.getCurrent o.deviceId) = true
  · simp only [if_pos hnew]
    refine ⟨h.tasks.cons (fun t _ at_ => o.opening_ne _ _ _ at_) fun t ht =>
        o.opening_queues (ht.queued cfg.upper),
      h.cursors.save hnormal _, fun r at_ hmem => ?_, ?_, h.account⟩
    · rcases List.mem_cons.mp hmem with heq | hold
      · exact absurd heq.symm (o.opening_ne _ r _ at_)
      · exact h.sent r at_ hold
    · unfold OperationObservation.opening
      cases o.action with
      | startOperation => trivial
      | switchOperation => trivial
      | endOperation => trivial
  · simp only [if_neg hnew]
    refine ⟨h.tasks, ?_, h.sent, h.account⟩
    show CursorsSound cfg s.log s.now.instant (OperationStore.recordStale _ o)
    split_ifs
    · exact ⟨(h.cursors.refresh o).rows, (h.cursors.refresh o).names, (h.cursors.refresh o).cursor⟩
    · exact ⟨h.cursors.rows, h.cursors.names, h.cursors.cursor⟩

/-- A call on the task table. -/
theorem ReminderInv.queue (h : ReminderInv cfg s) {op : QueueOp} (hop : op.LeavesReminders s.db) :
    ReminderInv cfg (s.next cfg (.queue op)) := by
  unfold ReminderState.next
  dsimp only
  split
  · rename_i db out happly
    exact ⟨h.tasks.frame (op.reminders h.tasks.ids hop happly), h.cursors, h.sent, h.account⟩
  · exact h

/-- The scanner at one operation: it queues what is due, or adopts the device's task. -/
theorem scanOperation_sound {db db' : TaskDb} {op : ActiveOperation} {newId : String}
    {log : List ReminderEvent}
    {now : DateTime} {store : OperationStore} (ht : TasksSound cfg log now.instant db.tasks [])
    (hc : CursorsSound cfg log now.instant store) (hop : op ∈ store.listActiveOperations)
    (hfresh : ∀ t ∈ db.tasks, t.taskId ≠ newId) (h : scanOperation cfg now db op newId = .ok db') :
    TasksSound cfg log now.instant db'.tasks [] ∧ ∀ t ∈ db'.tasks, t.taskId = newId ∨
      ∃ u ∈ db.tasks, u.taskId = t.taskId := by
  have hsame : TasksSound cfg log now.instant db.tasks [] ∧
      ∀ t ∈ db.tasks, t.taskId = newId ∨ ∃ u ∈ db.tasks, u.taskId = t.taskId :=
    ⟨ht, fun t hmem => .inr ⟨t, hmem, rfl⟩⟩
  obtain ⟨hnormal, -, hnext⟩ := hc.active hop
  have hdev : cfg.upper (strip op.deviceId) = op.deviceId := by rw [hnormal.1, hnormal.2]
  unfold scanOperation at h
  simp only [hdev] at h
  split_ifs at h
  · split at h
    · cases h
      exact hsame
    · rename_i sequence dueAt hn
      split_ifs at h with hpending hlate
      · cases h
        exact hsame
      · cases h
        exact hsame
      · have hdue := hnext _ _ _ hn (by omega)
        obtain ⟨⟨tasks', row⟩, hr, rfl⟩ := map_ok h
        obtain ⟨rows, new, rfl, hrows, hnew⟩ :=
          createOrGetUnfinished_rows sameReminder_relation ht.ids hr
        have hold : ∀ t ∈ rows, ∃ u ∈ db.tasks, u.taskId = t.taskId := by
          intro t hmem
          obtain ⟨u, hu, hs⟩ := forall₂_mem_right hrows hmem
          exact ⟨u, hu, hs.taskId.symm⟩
        rcases hnew with rfl | ⟨rfl, hnone⟩
        · rw [List.append_nil]
          have hf : ReminderFrame db.tasks rows [] :=
            .ofRows ht.ids hrows fun t hmem => absurd hmem List.not_mem_nil
          exact ⟨ht.frame hf, fun t hmem => .inr (hold t hmem)⟩
        · refine ⟨ht.insert hrows hfresh hnormal ?_ fun t hmem htype hunf hent => ?_,
            fun t hmem => ?_⟩
          · have hask : ({ overdueSpec now op.deviceId op.sourceRecordId sequence with
                dedupeKey :=
                  some (overdueTaskKey op.deviceId op.sourceRecordId sequence) }.row db.activation
                newId).reminder cfg.upper = ⟨op.deviceId, op.sourceRecordId, sequence⟩ :=
              congrArg (fun d => Reminder.mk d op.sourceRecordId sequence) hdev
            rw [hask]
            exact hdue
          · have hactive :
                t ∈ activeRows db.tasks (overdueSpec now op.deviceId op.sourceRecordId sequence)
                (overdueTaskKey op.deviceId op.sourceRecordId sequence) := by
              have hident : sameIdentity (overdueSpec now op.deviceId op.sourceRecordId sequence)
                  (overdueTaskKey op.deviceId op.sourceRecordId sequence) t = true :=
                decide_eq_true ⟨htype, hent⟩
              exact mem_activeRows.mpr ⟨hmem, hunf, hident⟩
            rw [hnone] at hactive
            cases hactive
          · rcases List.mem_append.mp hmem with hmem | hmem
            · exact .inr (hold t hmem)
            · rw [List.mem_singleton.mp hmem]
              exact .inl rfl
  · cases h
    exact hsame

/-- The scanner, one operation after another. -/
theorem scanOperations_sound {log : List ReminderEvent} {now : DateTime} {store : OperationStore}
    (hc : CursorsSound cfg log now.instant store) (l : List (ActiveOperation × String))
    {db : TaskDb}
    (ht : TasksSound cfg log now.instant db.tasks [])
    (hops : ∀ x ∈ l, x.1 ∈ store.listActiveOperations)
    (hids : (l.map (·.2)).Nodup) (hfresh : ∀ t ∈ db.tasks, t.taskId ∉ l.map (·.2)) :
    TasksSound cfg log now.instant (scanOperations cfg now db l).tasks [] := by
  induction l generalizing db with
  | nil => exact ht
  | cons x l ih =>
    obtain ⟨op, newId⟩ := x
    unfold scanOperations
    split
    · rename_i db' hscan
      rw [List.map_cons, List.nodup_cons] at hids
      have hnew : ∀ t ∈ db.tasks, t.taskId ≠ newId :=
        fun t hmem he => hfresh t hmem (by rw [he]; exact List.mem_cons_self)
      obtain ⟨ht', hrows⟩ := scanOperation_sound ht hc (hops _ List.mem_cons_self) hnew hscan
      refine ih ht' (fun y hy => hops y (List.mem_cons_of_mem _ hy)) hids.2 fun t hmem => ?_
      rcases hrows t hmem with hid | ⟨u, hu, hid⟩
      · rw [hid]
        exact hids.1
      · rw [← hid]
        exact fun hin => hfresh u hu (List.mem_cons_of_mem _ hin)
    · exact ht

theorem ReminderInv.tick (h : ReminderInv cfg s) {now : DateTime} {newIds : List String}
    (ready : Bool)
    (hfits : (ReminderOp.tick now ready newIds).Fits cfg s) :
    ReminderInv cfg (s.next cfg (.tick now ready newIds)) := by
  obtain ⟨hnone, hle, hnodup, hlen, hfresh⟩ := hfits
  have hlater := h.later hle
  refine ⟨?_, hlater.cursors, hlater.sent, hlater.account⟩
  show TasksSound cfg s.log now.instant
    (ensureOperationOverdueTasks cfg now ready s.store s.db newIds).tasks s.claimed
  have htasks := hlater.tasks
  rw [hnone] at htasks ⊢
  unfold ensureOperationOverdueTasks
  split_ifs
  · exact htasks
  · have hsnd : (s.store.listActiveOperations.zip newIds).map (·.2) = newIds :=
      List.map_snd_zip (le_of_eq hlen)
    refine scanOperations_sound hlater.cursors _ htasks (fun x hx => (List.of_mem_zip hx).1) ?_
      fun t hmem => ?_
    · rw [hsnd]
      exact hnodup
    · rw [hsnd]
      exact hfresh t hmem

/-! ### The handler -/

/-- In the middle of the handler of a task, about the open operation `o`. -/
structure Handling (cfg : OverdueConfig) (task : AutomationTask) (o : ActiveOperation)
    (s : ReminderState) : Prop where
  inv : ReminderInv cfg s
  due : Due cfg s.log s.now.instant (task.reminder cfg.upper)
  opened : openOperation (task.reminder cfg.upper).deviceId s.log =
    some ((task.reminder cfg.upper).recordId, o.startedAt)
  others : ∀ t, LiveReminder s.db.tasks s.claimed t →
      t.entityId = (task.reminder cfg.upper).deviceId →
    t.reminder cfg.upper = task.reminder cfg.upper
  ask : ∃ u ∈ s.db.tasks, SameAsk u task

/-- The effect is one of the handler of the task. -/
def ReminderEffect.Fits (task : AutomationTask) (r : Reminder) (o : ActiveOperation) :
    ReminderEffect → Prop
  | .note .. => True
  | .send _ _ idempotencyKey o' => idempotencyKey = r.effectKey ∧ o' = o
  | .reschedule _ payload => payload.sourceRecordId = task.payload.sourceRecordId ∧
      payload.reminderSequence = task.payload.reminderSequence

theorem handleOperationOverdue_fits {upper : String → String} {store : OperationStore}
    {now : DateTime}
    {reply : OverdueReply} {op : ActiveOperation}
    (h : openFor upper store (task.reminder upper) = some op) :
    ∀ e ∈ handleOperationOverdue upper store task now reply,
      e.Fits task (task.reminder upper) op := by
  intro e he
  unfold handleOperationOverdue at he
  rw [h] at he
  dsimp only at he
  split_ifs at he
  · rcases List.mem_cons.mp he with rfl | he
    · trivial
    rcases List.mem_cons.mp he with rfl | he
    · exact ⟨rfl, rfl⟩
    unfold replyEffects at he
    cases reply with
    | delivered messageId =>
      rw [List.mem_singleton.mp he]
      trivial
    | refused code text retryable unknown =>
      dsimp only at he
      split_ifs at he
      · rw [List.mem_singleton.mp he]
        exact ⟨rfl, rfl⟩
      · rw [List.mem_singleton.mp he]
        trivial
  · rw [List.mem_singleton.mp he]
    trivial

section Effects

variable {op : ActiveOperation}

/-- A note of the handler. -/
theorem Handling.note (h : Handling cfg task op s) (status : String)
    (messageId error : Option String) :
    Handling cfg task op
      (s.effect task (task.reminder cfg.upper) (.note status messageId error)) := by
  have hby : SentBy s.log (task.reminder cfg.upper) s.now.instant :=
    fun at_ hat => h.inv.sent _ at_ hat
  refine ⟨⟨h.inv.tasks.cons (fun t ht at_ heq => ?_) fun t _ => queues_of_turns rfl,
    h.inv.cursors.note h.opened h.due hby, fun r at_ hmem => ?_,
      ⟨⟨h.due, _, h.opened⟩, h.inv.account⟩⟩,
    h.due.cons (fun at_ heq => ?_) (queues_of_turns rfl), (openOperation_cons rfl).trans h.opened,
      h.others, h.ask⟩
  · -- the reminder before a live one of the device is not the live one itself
    have hprev := (ReminderEvent.recorded.inj heq).1
    have hdev : t.entityId = (task.reminder cfg.upper).deviceId := by
      rw [hprev, ← (h.inv.tasks.due t ht).1.reminder_deviceId]
      rfl
    rw [h.others t ht hdev] at hprev
    exact (task.reminder cfg.upper).previous_ne hprev.symm
  · rcases List.mem_cons.mp hmem with heq | hold
    · rw [(ReminderEvent.recorded.inj heq).2.2]
      exact le_refl _
    · exact h.inv.sent r at_ hold
  · exact (task.reminder cfg.upper).previous_ne (ReminderEvent.recorded.inj heq).1.symm

/-- The message of the handler. -/
theorem Handling.send (h : Handling cfg task op s) (recipient receiveIdType : String) :
    Handling cfg task op (s.effect task (task.reminder cfg.upper)
      (.send recipient receiveIdType (task.reminder cfg.upper).effectKey op)) := by
  have hno : ∀ r at_, ReminderEvent.sent (task.reminder cfg.upper)
      (task.reminder cfg.upper).effectKey op s.now ≠
      .recorded r "SENT" at_ := fun r at_ heq => by cases heq
  have hcur := h.inv.cursors
  refine ⟨⟨h.inv.tasks.cons (fun t _ at_ => hno _ at_) fun t _ => queues_of_turns rfl,
    ⟨hcur.rows, hcur.names, fun row hrow hop => ?_⟩, fun r at_ hmem => ?_,
      ⟨⟨h.due, rfl, h.opened⟩, h.inv.account⟩⟩,
    h.due.cons (fun at_ => hno _ at_) (queues_of_turns rfl),
      (openOperation_cons rfl).trans h.opened, h.others, h.ask⟩
  · obtain ⟨c, startedAt, hc, hrowcur⟩ := hcur.cursor row hrow hop
    exact ⟨c, startedAt, hc, hrowcur.cons rfl fun r at_ heq => absurd heq (hno r at_)⟩
  · rcases List.mem_cons.mp hmem with heq | hold
    · exact absurd heq.symm (hno r at_)
    · exact h.inv.sent r at_ hold

/-- A retry of the handler keeps the reminder. -/
theorem Handling.reschedule (h : Handling cfg task op s) (dueAt : DateTime) {payload : TaskPayload}
    (hrec : payload.sourceRecordId = task.payload.sourceRecordId)
    (hseq : payload.reminderSequence = task.payload.reminderSequence) :
    Handling cfg task op (s.effect task (task.reminder cfg.upper) (.reschedule dueAt payload)) := by
  unfold ReminderState.effect
  dsimp only
  split
  · rename_i tasks hok
    have hpay : ∀ t ∈ s.db.tasks, t.taskId = task.taskId → t.taskType = overdueType →
        payload.sourceRecordId = t.payload.sourceRecordId ∧
          payload.reminderSequence = t.payload.reminderSequence := by
      intro t ht hid _
      obtain ⟨u, hu, hask⟩ := h.ask
      obtain rfl := eq_of_taskId h.inv.tasks.ids ht hu (hid.trans hask.taskId.symm)
      exact ⟨hrec.trans hask.sourceRecordId.symm, hseq.trans hask.reminderSequence.symm⟩
    have hf : ReminderFrame s.db.tasks tasks [] :=
      .ofRows h.inv.tasks.ids (rescheduleRunning_reminders h.inv.tasks.ids hpay hok) fun t hmem =>
        absurd hmem List.not_mem_nil
    have hclaimed : s.claimed ++ ([] : List AutomationTask).filter (·.taskType = overdueType) =
        s.claimed :=
      List.append_nil _
    have htasks := h.inv.tasks.frame hf
    rw [hclaimed] at htasks
    refine ⟨⟨htasks, h.inv.cursors, h.inv.sent, h.inv.account⟩, h.due, h.opened,
      fun t ht hent => ?_, hf.ask h.ask⟩
    obtain ⟨u, hu, heu, hru⟩ := hf.live cfg.upper (hclaimed.symm ▸ ht)
    rw [hru]
    exact h.others u hu (heu.symm.trans hent)
  · exact h

theorem Handling.effect (h : Handling cfg task op s) {e : ReminderEffect}
    (he : e.Fits task (task.reminder cfg.upper) op) :
    Handling cfg task op (s.effect task (task.reminder cfg.upper) e) := by
  cases e with
  | note status messageId error => exact h.note status messageId error
  | send recipient receiveIdType key o' =>
    obtain ⟨rfl, rfl⟩ := he
    exact h.send recipient receiveIdType
  | reschedule dueAt payload => exact h.reschedule dueAt he.1 he.2

theorem Handling.effects (h : Handling cfg task op s) (l : List ReminderEffect)
    (hl : ∀ e ∈ l, e.Fits task (task.reminder cfg.upper) op) :
    Handling cfg task op (l.foldl (ReminderState.effect task (task.reminder cfg.upper)) s) := by
  induction l generalizing s with
  | nil => exact h
  | cons e l ih =>
    exact ih (h.effect (hl e List.mem_cons_self)) fun x hx => hl x (List.mem_cons_of_mem _ hx)

end Effects

/-- The handler of a claimed task, wherever it is cut short. -/
theorem ReminderInv.execute (h : ReminderInv cfg s) {now : DateTime} (hmem : task ∈ s.claimed)
    (hle : s.now.instant ≤ now.instant) (reply : OverdueReply) (cut : ℕ) :
    ReminderInv cfg (s.execute cfg.upper task now reply cut) := by
  have hlater := h.later hle
  have hstart : ReminderInv cfg { s with now := now, claimed := s.claimed.erase task } :=
    ⟨hlater.tasks.subset fun t ht =>
      List.mem_of_mem_erase ht, hlater.cursors, hlater.sent, hlater.account⟩
  obtain ⟨htype, hask⟩ := h.tasks.handed task hmem
  have hlive : LiveReminder s.db.tasks s.claimed task := ⟨htype, .inl hmem⟩
  obtain ⟨hnormal, hdue⟩ := hlater.tasks.due task hlive
  unfold ReminderState.execute
  cases hopen : openFor cfg.upper s.store (task.reminder cfg.upper) with
  | none =>
    have hnil : handleOperationOverdue cfg.upper s.store task now reply = [] := by
      unfold handleOperationOverdue
      rw [hopen]
    rw [hnil, List.take_nil]
    exact hstart
  | some op =>
    have hfound := List.find?_some hopen
    simp only [Bool.and_eq_true, decide_eq_true_eq] at hfound
    obtain ⟨hop, hopened, -⟩ := hlater.cursors.active (List.mem_of_find?_eq_some hopen)
    rw [hop.2] at hfound
    rw [hfound.1, hfound.2] at hopened
    have hothers : ∀ t, LiveReminder s.db.tasks (s.claimed.erase task) t →
        t.entityId = (task.reminder cfg.upper).deviceId →
          t.reminder cfg.upper = task.reminder cfg.upper := by
      intro t ht hent
      have ht' : LiveReminder s.db.tasks s.claimed t :=
        ⟨ht.taskType, ht.live.imp_left List.mem_of_mem_erase⟩
      exact h.tasks.one t task ht' hlive (hent.trans hnormal.reminder_deviceId)
    have hhandling : Handling cfg task op { s with now := now, claimed := s.claimed.erase task } :=
      ⟨hstart, hdue, hopened, hothers, hask⟩
    exact (hhandling.effects _ fun e he =>
      handleOperationOverdue_fits hopen e (List.mem_of_mem_take he)).inv

theorem ReminderStep.inv (h : ReminderInv cfg s) {op : ReminderOp}
    (hstep : ReminderStep cfg s op s') : ReminderInv cfg s' := by
  obtain ⟨hfits, rfl⟩ := hstep
  cases op with
  | observe o => exact h.observe hfits
  | queue op => exact h.queue hfits
  | tick now ready newIds => exact h.tick ready hfits
  | execute task now reply cut => exact h.execute hfits.1 hfits.2 reply cut
  | stop =>
    exact ⟨h.tasks.subset fun t ht => absurd ht List.not_mem_nil, h.cursors, h.sent, h.account⟩

end Steps

/-! ### Every run -/

/-- What a history and a store tell of the reminders. -/
structure RemindersAdvance (cfg : OverdueConfig) (s : ReminderState) : Prop where
  /-- The first time a later reminder is recorded as sent, the one before it was, and the
  interval has passed since the last time. -/
  advances : ∀ after before r at_, s.log = after ++ .recorded r "SENT" at_ :: before →
      0 < r.sequence → ¬ WasSent before r →
    WasSent before r.previous ∧ SentBy before r.previous (at_.instant - cfg.repeatEvery)
  /-- A first reminder is noted and sent of the open operation, after its deadline, or after
  an earlier deadline of the record if it was queued already when the operation was opened. -/
  deadline : ∀ after before e r at_, s.log = after ++ e :: before →
      (∃ status, e = .recorded r status at_) ∨
    (∃ key o, e = .sent r key o at_) → r.sequence = 0 → ∃ startedAt,
      openOperation r.deviceId before = some (r.recordId, startedAt) ∧
      (startedAt.instant + cfg.overdueAfter ≤ at_.instant ∨
        r ∈ queuedBefore r.deviceId before ∧ DeadlinePassed cfg before at_.instant r)
  /-- A message is about the open operation of the device, under the key of its reminder. -/
  sends : ∀ after before r key o at_, s.log = after ++ .sent r key o at_ :: before →
      key = r.effectKey ∧
    openOperation r.deviceId before = some (r.recordId, o.startedAt)
  /-- A note is on the open operation of the device. -/
  notes : ∀ after before r status at_, s.log = after ++ .recorded r status at_ :: before →
    ∃ startedAt, openOperation r.deviceId before = some (r.recordId, startedAt)
  /-- The status of an open operation was noted of its own record, since it was opened. -/
  own : ∀ row ∈ s.store.states, row.state = .operating →
      ∀ status, row.overdueNotificationStatus = some status →
    ∃ r at_, .recorded r status at_ ∈ sinceOpening row.deviceId s.log ∧ r.deviceId = row.deviceId ∧
      row.overdueNotificationSequence = some r.sequence ∧
      ∃ startedAt, openOperation row.deviceId s.log = some (r.recordId, startedAt)

theorem ReminderInv.advance {cfg : OverdueConfig} {s : ReminderState} (h : ReminderInv cfg s) :
    RemindersAdvance cfg s where
  advances := fun after before r at_ hlog hpos hfirst => by
    obtain ⟨⟨h0, -⟩ | ⟨-, hsent⟩, -⟩ : Allowed cfg (.recorded r "SENT" at_) before :=
      h.account.at_entry hlog
    · omega
    · exact hsent.resolve_left hfirst
  deadline := fun after before e r at_ hlog he h0 => by
    have hallowed : Allowed cfg e before := h.account.at_entry hlog
    obtain ⟨hdue, startedAt, hopen⟩ : Due cfg before at_.instant r ∧
        ∃ startedAt, openOperation r.deviceId before = some (r.recordId, startedAt) := by
      rcases he with ⟨status, rfl⟩ | ⟨key, o, rfl⟩
      · exact hallowed
      · exact ⟨hallowed.1, _, hallowed.2.2⟩
    rcases hdue with ⟨-, hpassed, hopendue⟩ | ⟨hpos, -⟩
    · exact ⟨startedAt, hopen, (hopendue startedAt hopen).imp_right fun hq => ⟨hq, hpassed⟩⟩
    · omega
  sends := fun after before r key o at_ hlog => by
    have hallowed : Allowed cfg (.sent r key o at_) before := h.account.at_entry hlog
    exact hallowed.2
  notes := fun after before r status at_ hlog => by
    have hallowed : Allowed cfg (.recorded r status at_) before := h.account.at_entry hlog
    exact hallowed.2
  own := fun row hrow hop status hs => by
    obtain ⟨c, startedAt, -, hcur⟩ := h.cursors.cursor row hrow hop
    obtain ⟨sequence, hnoted⟩ := hcur.noted status hs
    obtain ⟨at_, hat⟩ := hnoted.noted
    exact ⟨_, at_, hat, rfl, hnoted.column, startedAt, hcur.opened⟩

/-- **Reminders advance one by one**, over every run. -/
theorem reminders_advance {cfg : OverdueConfig} {s0 s : ReminderState} {ops : List ReminderOp}
    (h0 : s0.Fresh) (h : Run (ReminderStep cfg) s0 ops s) : RemindersAdvance cfg s := by
  have hinv : ReminderInv cfg s :=
    Run.inv (I := ReminderInv cfg) h0.inv (fun _ _ _ ha hstep => hstep.inv ha) h
  exact hinv.advance

/-! ### Two runs -/

def overduePilot : OverdueConfig := { upper := fun text => text, activeDeviceIds := ["D1"] }

def overdueStart : ReminderState :=
  { now := .utc 0, db := { runtime := some { mode := "active", activeEpoch := some "e", activeCutoverAt := some (.utc 0) } } }

theorem overdueStart_fresh : overdueStart.Fresh :=
  ⟨rfl, List.nodup_nil, fun _ ht => absurd ht List.not_mem_nil, rfl, rfl⟩

/-- A START of the record, created at a second. -/
def startRecord (created : ℤ) : OperationObservation :=
  { deviceId := "D1", areaId := "A", action := .startOperation, operationType := none, workOrder := none
    sourceRecordId := "rec1", sourceCreatedAt := .utc (created * 1000000), observedAt :=
      .utc (created * 1000000)
    initiatorId := some "ou_1", initiatorIdType := some "open_id" }

/-- The reminder task of a sequence, queued and claimed at a second. -/
def claimedReminder (second sequence : ℤ) (taskId : String) : AutomationTask :=
  claimRow "scheduler" (.utc (second * 1000000)) (.utc ((second + 300) * 1000000))
    ((overdueSpec (.utc (second * 1000000)) "D1" "rec1" sequence).row
      overdueStart.db.activation taskId)

/-- Reminded after six hours, and again after seven. -/
def remindedRun : List ReminderOp :=
  [.observe (startRecord 0), .tick (.utc 21600000000) true ["t1"],
      .queue (.claimDue { now := .utc 21600000000 }),
    .execute (claimedReminder 21600 0 "t1") (.utc 21600000000) (.delivered "om_1") 3,
    .queue (.finish "t1" none (.utc 21600000000) (some "scheduler")),
    .tick (.utc 25200000000) true ["t2"], .queue (.claimDue { now := .utc 25200000000 }),
    .execute (claimedReminder 25200 1 "t2") (.utc 25200000000) (.delivered "om_2") 3]

/-- Two reminders are recorded as sent in it, and it is as the claim of every run. -/
theorem remindedRun_advances : ∃ s, Run (ReminderStep overduePilot) overdueStart remindedRun s ∧
    .recorded ⟨"D1", "rec1", 0⟩ "SENT" (.utc 21600000000) ∈ s.log ∧
    .recorded ⟨"D1", "rec1", 1⟩ "SENT" (.utc 25200000000) ∈ s.log ∧
      RemindersAdvance overduePilot s := by
  have hrun := @playReminders_run overduePilot remindedRun overdueStart (by decide +kernel)
  exact ⟨_, hrun, by decide +kernel, by decide +kernel, reminders_advance overdueStart_fresh hrun⟩

/-- The retry of the first reminder, as it is claimed a minute later. -/
def retriedReminder : AutomationTask :=
  { claimedReminder 21600 0 "t1" with
    dueAt := .utc 21630000000, updatedAt := .utc 21660000000, leaseUntil :=
      some (.utc 21960000000), attemptCount := 2
    payload := { deviceId := some "D1", sourceRecordId := some "rec1", retryAttempt := 1 } }

/-- The first reminder is refused after six hours, the record gets a creation
time of five hours, and the retry is sent. -/
def reopenedRun : List ReminderOp :=
  [.observe (startRecord 0), .tick (.utc 21600000000) true ["t1"],
      .queue (.claimDue { now := .utc 21600000000 }),
    .execute (claimedReminder 21600 0 "t1") (.utc 21600000000)
      (.refused "timeout" "timed out" true false) 3,
    .observe (startRecord 18000), .queue (.claimDue { now := .utc 21660000000 }),
    .execute retriedReminder (.utc 21660000000) (.delivered "om_1") 3]

/-- **A first reminder can be sent before the deadline of the open operation**:
its record was opened anew with a later start. -/
theorem reopened_before_deadline : ¬ ∀ (cfg : OverdueConfig) (s0 s : ReminderState)
    (ops : List ReminderOp), s0.Fresh →
    Run (ReminderStep cfg) s0 ops s →
      ∀ after before r key o at_, s.log = after ++ .sent r key o at_ :: before →
      r.sequence = 0 → o.startedAt.instant + cfg.overdueAfter ≤ at_.instant := by
  intro hall
  have hrun := @playReminders_run overduePilot reopenedRun overdueStart (by decide +kernel)
  have hlog : ∃ o : ActiveOperation, o.startedAt = .utc 18000000000 ∧
      (overdueStart.play overduePilot reopenedRun).log.drop 1 =
        .sent ⟨"D1", "rec1", 0⟩ "OPERATION_OVERDUE:D1:rec1:0" o (.utc 21660000000) ::
          (overdueStart.play overduePilot reopenedRun).log.drop 2 := by
    refine ⟨{ deviceId := "D1", areaId := "A", operationType := none, workOrder := none, sourceRecordId := "rec1"
              startedAt := .utc 18000000000, initiatorId := some "ou_1", initiatorIdType :=
                some "open_id"
              initiatorName := none, registrationNumber := none, note :=
                none, overdueNotificationStatus := none
              overdueNotificationAt := none, overdueNotificationSequence := none }, rfl, by
                decide +kernel⟩
  obtain ⟨o, hstart, hdrop⟩ := hlog
  have hsplit := List.take_append_drop 1 (overdueStart.play overduePilot reopenedRun).log
  rw [hdrop] at hsplit
  have hle :=
    hall overduePilot overdueStart _ reopenedRun overdueStart_fresh hrun _ _ _ _ o _ hsplit.symm rfl
  rw [hstart] at hle
  exact absurd hle (by decide)

end TemperatureMonitor
