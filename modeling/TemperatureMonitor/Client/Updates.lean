/-
# Updates of deleted records

When the server no longer knows a record, the client marks it in the local
registry, and every later update asks the registry first. Any number of updates
run side by side, the process may end at any moment, and others register and mark
records: once a record is marked it stays so, and no update that begins later
sends a request for it (`tombstoned_never_updated`).
-/
import TemperatureMonitor.Client.Records
import TemperatureMonitor.Library.Pool
import TemperatureMonitor.Store.RemoteDeletion

namespace TemperatureMonitor

/-- The arguments of `update_bitable_record`. -/
structure UpdateWork where
  tableId : String
  recordId : String
  fields : JsonDict
  attemptTimeout : Option ℚ := none

def UpdateWork.prog (cfg : ClientConfig) (w : UpdateWork) : ClientProg JsonDict :=
  Client.updateBitableRecord cfg w.tableId w.recordId w.fields w.attemptTimeout

/-! ### The registry -/

section Registry

variable {Cell : Type}

/-- `is_feishu_record_missing`. -/
def isFeishuRecordMissing (t : MirrorTables Cell) (tableId recordId : String) : Bool :=
  (rowOf RemoteRecordRow.key t.remoteRecordState (strip tableId, strip recordId)).any fun r =>
    r.state = .remoteRecordDeleted

theorem isFeishuRecordMissing_iff (t : MirrorTables Cell) (tableId recordId : String) :
    isFeishuRecordMissing t tableId recordId = true ↔
      Tombstoned (strip tableId) (strip recordId) t := by
  simp [isFeishuRecordMissing, Tombstoned, Option.any_eq_true]

variable (upper : String → String) (mirror : MirrorConfig)

/-- The tables after a marking that was stored. -/
def MirrorTables.marked (t : MirrorTables Cell) (tableId recordId error : String) (now : DateTime) :
    MirrorTables Cell :=
  runStatements t (missingStatements upper mirror (strip tableId) (strip recordId)
    (String.ofList (error.toList.take 1000)) now t)

/-- What a call of an update answers and does to the tables: a lookup reads them, a marking is
stored or is not. -/
def UpdateDoes (t : MirrorTables Cell) : (c : ClientCall) → Except ClientError c.Answer →
    MirrorTables Cell → Prop
  | .recordMissing tableId recordId, r, t' =>
    r = .ok (isFeishuRecordMissing t tableId recordId) ∧ t' = t
  | .markRecordMissing tableId recordId error, r, t' =>
    (r = .ok true ∧ ∃ now, t' = t.marked upper mirror tableId recordId error now) ∨
      (r ≠ .ok true ∧ t' = t)
  | _, _, t' => t' = t

/-- What others do to the registry: they register a record, mark one, or write other tables. -/
inductive RegistryChange (t : MirrorTables Cell) : MirrorTables Cell → Prop
  | registered (tableId recordId : String) (entityType entityId : Option String) (now : DateTime) :
    RegistryChange t (registerStatement (strip tableId) (strip recordId) entityType entityId now t)
  | marked (tableId recordId error : String) (now : DateTime) : RegistryChange t (t.marked upper mirror tableId recordId error now)
  | other {t' : MirrorTables Cell} : t'.remoteRecordState = t.remoteRecordState → RegistryChange t t'

variable {upper mirror} {t t' : MirrorTables Cell} {table record : String}

/-- Statements after which a tombstone is still there, if it was. -/
theorem Tombstoned.of_registry (h : Tombstoned table record t)
    (hsame : t'.remoteRecordState = t.remoteRecordState) : Tombstoned table record t' := by
  obtain ⟨r, hr, hstate⟩ := h
  exact ⟨r, by rw [hsame, hr], hstate⟩

/-- A marking leaves the tombstones of other records. -/
theorem Tombstoned.tombstone (h : Tombstoned table record t) (table' record' error : String)
    (now : DateTime) : Tombstoned table record (tombstoneStatement table' record' error now t) := by
  obtain ⟨r, hr, hstate⟩ := h
  by_cases hk : (table, record) = (table', record')
  · obtain ⟨rfl, rfl⟩ := Prod.mk.inj hk
    exact tombstoned_tombstone t
  · have hkey (o : Option RemoteRecordRow) :
        (deletedRow table' record' error now o).key = (table', record') := rfl
    exact ⟨r, (rowOf_alterRow_other hkey hk).trans hr, hstate⟩

/-- Of the statements of a marking only the first touches the registry. -/
theorem marked_registry (t : MirrorTables Cell) (tableId recordId error : String) (now : DateTime) :
    (t.marked upper mirror tableId recordId error now).remoteRecordState =
      (tombstoneStatement (strip tableId) (strip recordId) (String.ofList (error.toList.take 1000))
        now t).remoteRecordState := by
  unfold MirrorTables.marked missingStatements
  rw [List.cons_append]
  show (runStatements (tombstoneStatement _ _ _ now t) _).remoteRecordState = _
  refine runStatements_keeps (f := fun t => t.remoteRecordState) fun w hw t => ?_
  rcases List.mem_append.mp hw with hw | hw
  · exact (deviceStatements_keep hw t).1
  · obtain ⟨e, -, rfl⟩ := List.mem_map.mp hw
    rfl

theorem Tombstoned.marked (h : Tombstoned table record t) (tableId recordId error : String)
    (now : DateTime) : Tombstoned table record (t.marked upper mirror tableId recordId error now) :=
  (h.tombstone (strip tableId) (strip recordId) (String.ofList (error.toList.take 1000))
      now).of_registry
    (marked_registry t tableId recordId error now)

/-- **A tombstone is for good**, whatever a client's call or another writer does. -/
theorem Tombstoned.step (h : Tombstoned table record t) {c : ClientCall}
    {r : Except ClientError c.Answer}
    (hd : UpdateDoes upper mirror t c r t') : Tombstoned table record t' := by
  cases c with
  | recordMissing tableId recordId =>
    rw [hd.2]
    exact h
  | markRecordMissing tableId recordId error =>
    rcases hd with ⟨-, now, rfl⟩ | ⟨-, rfl⟩
    · exact h.marked tableId recordId error now
    · exact h
  | _ =>
    obtain rfl : t' = t := hd
    exact h

theorem Tombstoned.change (h : Tombstoned table record t) (hc : RegistryChange upper mirror t t') :
    Tombstoned table record t' := by
  cases hc with
  | registered tableId recordId entityType entityId now => exact h.register _ _ _ _ _
  | marked tableId recordId error now => exact h.marked tableId recordId error now
  | other hsame => exact h.of_registry hsame

end Registry

/-! ### What an update asks before it sends -/

/-- Where an update is: it has not looked the record up, it found a tombstone, it found none. -/
inductive LookupPhase
  | before | missing | clear
deriving DecidableEq

def LookupPhase.next (g : LookupPhase) : Made ClientCall ClientCall.Answer ClientError → LookupPhase
  | ⟨.recordMissing .., .ok true⟩ => .missing
  | ⟨.recordMissing .., _⟩ => .clear
  | _ => g

/-- An update looks up its own record, and sends only after it found no tombstone. -/
def UpdateWork.allowed (w : UpdateWork) (g : LookupPhase) : ClientCall → Prop
  | .recordMissing tableId recordId => tableId = strip w.tableId ∧
    recordId = strip w.recordId ∧ g = .before
  | .send request => request.token.isSome → g = .clear
  | _ => True

/-- The calls of a request: all but those on the registry. -/
def ClientCall.registry : ClientCall → Bool
  | recordMissing .. => true
  | _ => false

namespace Client

variable {cfg : ClientConfig}

/-- No call of the program is one on the registry. -/
abbrev Remote {α : Type} (p : ClientProg α) : Prop := p.Calls fun c => c.registry = false

theorem remote_ask {c : ClientCall} (hc : c.registry = false) : Remote (ask c) :=
  Prog.calls_perform.mpr hc

theorem remote_tries {request : HttpRequest} {retryTimes : ℕ} :
    ∀ (left attempt : ℕ) (last : String), Remote (tries cfg request retryTimes attempt last left)
  | 0, _, _ => Prog.calls_throw _
  | left + 1, attempt, last => by
    have hrest (last : String) : Remote (tries cfg request retryTimes (attempt + 1) last left) :=
      remote_tries left (attempt + 1) last
    have hpause : Remote (ask (.sleep (backoff cfg attempt))) := remote_ask rfl
    unfold tries
    refine Prog.calls_bind (Prog.calls_captured (remote_ask rfl)) fun sent => ?_
    cases sent with
    | ok response =>
      dsimp only
      split_ifs
      · exact Prog.calls_bind hpause fun _ => hrest last
      · exact Prog.calls_pure _
    | error e =>
      dsimp only
      split_ifs
      · exact Prog.calls_bind hpause fun _ => hrest _
      · exact hrest _
      · exact Prog.calls_throw _

theorem remote_getToken (attempts : Option ℕ) : Remote (getToken cfg attempts) := by
  unfold getToken
  refine Prog.calls_bind (remote_ask rfl) fun now =>
    Prog.calls_bind (remote_ask rfl) fun cached => ?_
  split_ifs
  · exact Prog.calls_pure _
  · exact Prog.calls_throw _
  · refine Prog.calls_bind (remote_tries _ _ _) fun response =>
      Prog.calls_bind (Prog.calls_ofExcept _) fun answer => ?_
    exact Prog.calls_bind (remote_ask rfl) fun _ => Prog.calls_pure _

theorem remote_bitableAttempts {r : BitableRequest} : ∀ (left attempt : ℕ) (refreshed : Bool),
    Remote (bitableAttempts cfg r attempt refreshed left)
  | 0, _, _ => Prog.calls_pure _
  | left + 1, attempt, refreshed => by
    have hrest (refreshed : Bool) : Remote (bitableAttempts cfg r (attempt + 1) refreshed left) :=
      remote_bitableAttempts left (attempt + 1) refreshed
    have hpause : Remote (ask (.sleep (backoff cfg attempt))) := remote_ask rfl
    unfold bitableAttempts
    refine Prog.calls_bind (remote_getToken _) fun token =>
      Prog.calls_bind (Prog.calls_captured (remote_tries _ _ _)) fun sent => ?_
    cases sent with
    | error e =>
      dsimp only
      split_ifs
      · exact Prog.calls_bind hpause fun _ => hrest refreshed
      · exact Prog.calls_throw _
    | ok response =>
      dsimp only
      split
      · exact Prog.calls_pure _
      · refine Prog.calls_bind (Prog.calls_ofExcept _) fun result =>
          Prog.calls_bind (Prog.calls_ofExcept _) fun code => ?_
        refine Prog.calls_bind ?_ fun _ => ?_
        · unfold clearInvalidToken
          split_ifs
          · exact remote_ask rfl
          · exact Prog.calls_pure _
        · split_ifs
          · exact hrest true
          · exact Prog.calls_bind hpause fun _ => hrest refreshed
          · exact Prog.calls_pure _
          · exact Prog.calls_pure _

theorem remote_requestSuccess (r : BitableRequest) : Remote (requestSuccess cfg r) :=
  Prog.calls_bind (remote_bitableAttempts _ 1 false) fun _ => Prog.calls_ofExcept _

/-! ### Every update obeys -/

attribute [local irreducible] Prog.wp Prog.Calls

abbrev UpdateObeys {α : Type} (w : UpdateWork) (p : ClientProg α) (g : LookupPhase) : Prop :=
  Prog.Obeys ClientCan w.allowed LookupPhase.next p g fun _ => True

variable {w : UpdateWork} {g : LookupPhase}

theorem next_remote {c : ClientCall} (hc : c.registry = false) (r : Except ClientError c.Answer) :
    g.next ⟨c, r⟩ = g := by
  cases c with
  | recordMissing => cases hc
  | _ => rfl

/-- After the lookup an update may send what it likes. -/
theorem obeys_remote {α : Type} {p : ClientProg α} (h : Remote p) :
    Prog.Obeys ClientCan w.allowed LookupPhase.next p .clear (· = .clear) := by
  refine h.obeys (fun c hc => ?_) fun c r hc => next_remote hc r
  cases c with
  | recordMissing => cases hc
  | send request => exact fun _ => rfl
  | _ => exact trivial

theorem obeys_throw {α : Type} (e : ClientError) : UpdateObeys w (throw e : ClientProg α) g :=
  Prog.wp_throw e |>.mpr trivial

theorem obeys_ofExcept {α γ : Type} {r : Except ClientError α} {f : α → ClientProg γ}
    (h : ∀ a, UpdateObeys w (f a) g) : UpdateObeys w (Prog.ofExcept r >>= f) g := by
  refine Prog.wp_bind.mpr (Prog.wp_ofExcept r |>.mpr ?_)
  cases r with
  | ok a => exact h a
  | error e => exact trivial

theorem update_obeys (w : UpdateWork) : UpdateObeys w (w.prog cfg) .before := by
  unfold UpdateWork.prog updateBitableRecord
  refine obeys_ofExcept fun _ => ?_
  split_ifs
  · exact obeys_throw _
  · exact obeys_throw _
  · refine Prog.wp_bind.mpr
      (Prog.wp_captured.mpr (Prog.wp_perform.mpr ⟨⟨rfl, rfl, rfl⟩, fun r g hr => ?_⟩))
    obtain ⟨-, rfl⟩ := hr
    rw [Prog.followed_ok]
    have hupdate (path : String) : UpdateObeys w
        (tryCatch (requestSuccess cfg (updateRequest path w.fields w.attemptTimeout))
          (failedUpdate cfg (strip w.tableId) (strip w.recordId)))
        .clear := by
      refine Prog.wp_tryCatch.mpr
        (Prog.wp_mono (obeys_remote (remote_requestSuccess _)) fun res g hg => ?_)
      subst hg
      cases res with
      | ok result => exact trivial
      | error e =>
        rw [Prog.rescued_error]
        unfold failedUpdate
        split_ifs
        · have hmark :
              Remote (ask (.markRecordMissing (strip w.tableId) (strip w.recordId)
              (e.text cfg.str))) := remote_ask rfl
          exact Prog.obeys_bind (Prog.obeys_captured (obeys_remote hmark)) (fun _ g _ =>
            obeys_throw e) fun _ _ => trivial
        · exact obeys_throw e
    have hclear : UpdateObeys w (do
        let path ← Prog.ofExcept
          (bitableTableUrl cfg (strip w.tableId) ("/records/" ++ strip w.recordId))
        tryCatch (requestSuccess cfg (updateRequest path w.fields w.attemptTimeout))
          (failedUpdate cfg (strip w.tableId) (strip w.recordId)))
        .clear := obeys_ofExcept hupdate
    cases r with
    | error e => exact hclear
    | ok found =>
      cases found with
      | true => exact obeys_throw _
      | false => exact hclear

end Client

/-! ### Updates side by side -/

section Updates

variable {Cell : Type} (upper : String → String) (mirror : MirrorConfig) (cfg : ClientConfig)

/-- Any number of updates, and other writers of the registry. -/
abbrev UpdateStep
    (S : Pool ClientCall ClientCall.Answer ClientError JsonDict (MirrorTables Cell) UpdateWork)
    (l : PoolLabel ClientCall ClientCall.Answer ClientError JsonDict UpdateWork)
    (S' : Pool ClientCall ClientCall.Answer ClientError JsonDict (MirrorTables Cell) UpdateWork) :
    Prop :=
  PoolStep (UpdateWork.prog cfg) (fun t c r t' => UpdateDoes upper mirror t c r t' ∧
      Client.ClientCan c r)
    (RegistryChange upper mirror) S l S'

/-- The record of an update is known to be deleted. -/
abbrev UpdateWork.gone (w : UpdateWork) (t : MirrorTables Cell) : Prop :=
  Tombstoned (strip w.tableId) (strip w.recordId) t

/-- What holds of an update that found its record deleted: it has not sent, and will not. -/
def Silent (t : MirrorTables Cell)
    (R : Running ClientCall ClientCall.Answer ClientError JsonDict (MirrorTables Cell) UpdateWork) :
    Prop :=
  R.what.gone R.before → R.what.gone t ∧ R.made.foldl LookupPhase.next .before ≠ .clear ∧
    Client.posts R.made = []

variable {upper mirror cfg} {t : MirrorTables Cell}
  {S S' : Pool ClientCall ClientCall.Answer ClientError JsonDict (MirrorTables Cell) UpdateWork}
  {ls : List (PoolLabel ClientCall ClientCall.Answer ClientError JsonDict UpdateWork)}
  {l : PoolLabel ClientCall ClientCall.Answer ClientError JsonDict UpdateWork}
  {table record : String}

/-- A tombstone outlives every step. -/
theorem UpdateStep.keeps (h : UpdateStep upper mirror cfg S l S')
    (hS : Tombstoned table record S.state) : Tombstoned table record S'.state :=
  PoolStep.state h hS (fun _ _ _ _ hd => hS.step hd.1) fun hc => hS.change hc

/-- A call of an update that is silent. -/
theorem silent_call
    {R : Running ClientCall ClientCall.Answer ClientError JsonDict (MirrorTables Cell) UpdateWork}
    {c : ClientCall}
    {next : Except ClientError c.Answer → ClientProg JsonDict} {r : Except ClientError c.Answer}
    {t' : MirrorTables Cell}
    (hd : UpdateDoes upper mirror t c r t')
    (hallowed : R.what.allowed (R.made.foldl LookupPhase.next .before) c)
    (h : Silent t R) : Silent t' (R.after r (next r)) := by
  intro hgone
  obtain ⟨hnow, hphase, hposts⟩ := h hgone
  refine ⟨hnow.step hd, ?_, ?_⟩
  · rw [List.foldl_append]
    cases c with
    | recordMissing tableId recordId =>
      obtain ⟨rfl, rfl, -⟩ := hallowed
      have hfound : isFeishuRecordMissing t (strip R.what.tableId) (strip R.what.recordId) = true :=
        (isFeishuRecordMissing_iff _ _ _).mpr (by rwa [strip_strip, strip_strip])
      obtain ⟨rfl, -⟩ := hd
      rw [hfound]
      exact fun hclear => by cases hclear
    | _ => exact hphase
  · unfold Client.posts at hposts ⊢
    rw [List.foldl_append, hposts]
    cases c with
    | send request =>
      have hnone : request.token.isSome = false := by
        cases hsome : request.token.isSome with
        | false => rfl
        | true => exact absurd (hallowed hsome) hphase
      show (if request.token.isSome = true then _ else _) = _
      rw [hnone, if_neg Bool.false_ne_true]
    | _ => rfl

theorem silent_run (h : Run (UpdateStep upper mirror cfg) ⟨t, []⟩ ls S) :
    ∀ R ∈ S.running, Silent S.state R := by
  refine Run.inv_labels (I := fun _ S => ∀ R ∈ S.running, Silent S.state R) (fun R hR =>
      absurd hR List.not_mem_nil)
    (fun ls S l S' hrun hS hstep => ?_) h
  have hobeys : ∀ R ∈ S.running,
      Prog.Obeys Client.ClientCan (UpdateWork.allowed R.what) LookupPhase.next R.rest
      (R.made.foldl LookupPhase.next .before) fun _ => True :=
        Pool.obeys (fun _ _ _ _ hd => hd.2) (fun w => Client.update_obeys w) hrun
  have hothers : ∀ R ∈ S.running, Silent S'.state R := fun R hR hgone => by
    obtain ⟨hnow, hphase, hposts⟩ := hS R hR hgone
    exact ⟨UpdateStep.keeps hstep hnow, hphase, hposts⟩
  cases hstep with
  | begin what =>
    intro R hR
    rcases List.mem_cons.mp hR with rfl | hR
    · exact fun hgone => ⟨hgone, fun hclear => (by cases hclear), rfl⟩
    · exact hothers R hR
  | @call s s' as bs R₀ c next r hrest hd =>
    have hmem : R₀ ∈ as ++ R₀ :: bs := by simp
    have hself := hobeys R₀ hmem
    rw [hrest] at hself
    intro R hR
    rcases List.mem_append.mp hR with hR | hR
    · exact hothers R (List.mem_append_left _ hR)
    · rcases List.mem_cons.mp hR with rfl | hR
      · exact silent_call hd.1 hself.1 (hS R₀ hmem)
      · exact hothers R (List.mem_append_right _ (List.mem_cons_of_mem _ hR))
  | finish =>
    intro R hR
    rcases List.mem_append.mp hR with hR | hR
    · exact hothers R (List.mem_append_left _ hR)
    · exact hothers R (List.mem_append_right _ (List.mem_cons_of_mem _ hR))
  | crash => exact fun R hR => absurd hR List.not_mem_nil
  | outside _ => exact hothers

/-- What a run has marked is known to be deleted from then on. -/
theorem tombstoned_run (h : Run (UpdateStep upper mirror cfg) ⟨t, []⟩ ls S) {w : UpdateWork}
    {tableId recordId error : String}
    (hmark : .call w (.markRecordMissing tableId recordId error) (.ok true) ∈ ls) :
    Tombstoned (strip tableId) (strip recordId) S.state := by
  obtain ⟨pre, post, rfl⟩ := List.mem_iff_append.mp hmark
  obtain ⟨T, T', -, hstep, hrest⟩ := h.at_label
  refine Run.inv (I := fun S => Tombstoned (strip tableId) (strip recordId) S.state) ?_
    (fun S l S' hS hl => UpdateStep.keeps hl hS) hrest
  generalize hl : (.call w (.markRecordMissing tableId recordId error) (.ok true) :
    PoolLabel ClientCall ClientCall.Answer ClientError JsonDict UpdateWork) = l at hstep
  cases hstep with
  | @call s s' as bs R₀ c next r hrest hd =>
    injection hl with _ hc hr
    subst hc
    obtain rfl := eq_of_heq hr
    rcases hd.1 with ⟨-, now, rfl⟩ | ⟨hne, -⟩
    · exact (tombstoned_tombstone _).of_registry (marked_registry _ _ _ _ _)
    · exact absurd rfl hne
  | begin | finish | crash | outside => cases hl

/-- **A deleted record is never written again.** Once an update has marked a record,
the registry says so in every later state, whatever other updates, other
writers and restarts do; and an update that began when its record was known
to be deleted has sent nothing for it. -/
theorem tombstoned_never_updated (h : Run (UpdateStep upper mirror cfg) ⟨t, []⟩ ls S) :
    (∀ w tableId recordId error,
      PoolLabel.call w (.markRecordMissing tableId recordId error) (.ok true) ∈ ls →
        Tombstoned (strip tableId) (strip recordId) S.state) ∧
      ∀ R ∈ S.running, Tombstoned (strip R.what.tableId) (strip R.what.recordId) R.before →
        Client.posts R.made = [] :=
  ⟨fun _ _ _ _ hmark => tombstoned_run h hmark, fun R hR hgone => (silent_run h R hR hgone).2.2⟩

/-- A server that knows no record, a database that works. -/
def goneReply (t : MirrorTables Unit) : (c : ClientCall) →
    Except ClientError c.Answer × MirrorTables Unit
  | .recordMissing tableId recordId => (.ok (isFeishuRecordMissing t tableId recordId), t)
  | .markRecordMissing tableId recordId error =>
    (.ok true, t.marked asciiUpper {} tableId recordId error (.utc 0))
  | c => ((Client.steady (fun _ => .success (.object [("code", .number 1254043)])) () c).1, t)

def goneUpdate : UpdateWork where
  tableId := "tblDevice"
  recordId := "rec1"
  fields := [("温度", .number 4)]

/-- An update is refused and marks its record, and another one begins. -/
def goneTurns : List (PoolTurn Unit Empty UpdateWork) :=
  .begin goneUpdate :: List.replicate 5 (.call () 0) ++ [.finish 0, .begin goneUpdate, .call () 0]

def goneRun :
    Pool ClientCall ClientCall.Answer ClientError JsonDict (MirrorTables Unit) UpdateWork :=
  Pool.play (UpdateWork.prog Client.plainConfig) (fun _ => goneReply) (fun other => other.elim)
    ⟨{}, []⟩ goneTurns

theorem goneRun_run :
    ∃ ls, Run (UpdateStep asciiUpper {} Client.plainConfig) ⟨{}, []⟩ ls goneRun := by
  have hreply (_ : Unit) (t : MirrorTables Unit) (c : ClientCall) :
      UpdateDoes asciiUpper {} t c (goneReply t c).1 (goneReply t c).2 ∧
        Client.ClientCan c (goneReply t c).1 := by
    refine ⟨?_, ?_⟩
    · cases c with
      | recordMissing => exact ⟨rfl, rfl⟩
      | markRecordMissing => exact .inl ⟨rfl, _, rfl⟩
      | _ => rfl
    · cases c <;> exact fun _ _ h => by cases h
  exact play_pool hreply (fun other => other.elim) goneTurns _

theorem second_update_silent : ∃ R ∈ goneRun.running, R.what.recordId = "rec1" ∧ R.made ≠ [] ∧
    Client.posts R.made = [] := by
  obtain ⟨ls, hrun⟩ := goneRun_run
  have hlen : goneRun.running.length = 1 := by decide +kernel
  obtain ⟨R, hR⟩ := List.length_eq_one_iff.mp hlen
  have hall :
      (goneRun.running.all fun R => isFeishuRecordMissing R.before R.what.tableId R.what.recordId &&
      R.what.recordId = "rec1" && !R.made.isEmpty) = true := by
    decide +kernel
  rw [hR, List.all_cons, List.all_nil, Bool.and_true, Bool.and_eq_true, Bool.and_eq_true] at hall
  obtain ⟨⟨hgone, hwhat⟩, hmade⟩ := hall
  have hmem : R ∈ goneRun.running := hR ▸ List.mem_singleton_self R
  refine ⟨R, hmem, of_decide_eq_true hwhat, fun hnil => ?_, ?_⟩
  · rw [hnil] at hmade
    cases hmade
  · exact (tombstoned_never_updated hrun).2 R hmem ((isFeishuRecordMissing_iff _ _ _).mp hgone)

end Updates

end TemperatureMonitor
