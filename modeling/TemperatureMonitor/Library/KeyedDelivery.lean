/-
# Outbox out of a queue, in order for each key

A consumer fetches a bounded batch from the front of a durable queue and hands
its entries over one by one. An entry that is not accepted blocks its key for
the rest of the batch; an accepted one is acknowledged by its removal. The
consumer may crash at any point, the queue stays.

* `Outbox.removed_after_accept`: only an accepted entry leaves the queue.
* `Outbox.accepts_ordered`: the entries of a key are accepted in the order of
  their ids, and one is accepted again only if a crash or a failed
  acknowledgement came before it was acknowledged.
* `Outbox.oldest_handed_iff`: a batch hands over the oldest entry of a key
  exactly if the entries of all keys before it do not fill the batch.
-/
import Mathlib.Data.List.Nodup
import TemperatureMonitor.Library.Runs

namespace TemperatureMonitor

variable {α κ : Type*}

/-- The batch of a consumer: the entries still to hand over, the keys blocked,
and the entry accepted but not acknowledged. -/
structure Batch (α κ : Type*) where
  rows : List α
  blocked : List κ := []
  handed : Option α := none
deriving DecidableEq

/-- The queue in the order of the ids, the last id given, and the consumer. -/
structure Outbox (α κ : Type*) where
  queue : List α := []
  last : ℕ := 0
  batch : Option (Batch α κ) := none

inductive DeliveryMove (α : Type*)
  | push
  | fetch
  | skip (x : α)
  | hand (x : α) (accepted : Bool)
  | ack (x : α)
  | ackFail (x : α)
  | finish
  | crash

/-- With a batch fetched. -/
def Outbox.fetched (n : ℕ) (s : Outbox α κ) : Outbox α κ :=
  { s with batch := some { rows := s.queue.take n } }

/-- The moves, of entries with an id and a key in batches of at most `n`. -/
inductive Delivers (idOf : α → ℕ) (keyOf : α → κ) (n : ℕ) (s : Outbox α κ) : DeliveryMove α →
    Outbox α κ → Prop
  | push (x : α) (hx : s.last < idOf x) :
      Delivers idOf keyOf n s .push { s with queue := s.queue ++ [x], last := idOf x }
  | fetch (hb : s.batch = none) : Delivers idOf keyOf n s .fetch (s.fetched n)
  | skip (b : Batch α κ) (x : α) (rest : List α) (hb : s.batch = some b) (hh : b.handed = none) (hr : b.rows = x :: rest)
      (hk : keyOf x ∈ b.blocked) :
          Delivers idOf keyOf n s (.skip x) { s with batch := some { b with rows := rest } }
  | accept (b : Batch α κ) (x : α) (rest : List α) (hb : s.batch = some b) (hh : b.handed = none)
      (hr : b.rows = x :: rest) (hk : keyOf x ∉ b.blocked) :
      Delivers idOf keyOf n s (.hand x true)
        { s with batch := some { b with rows := rest, handed := some x } }
  | refuse (b : Batch α κ) (x : α) (rest : List α) (hb : s.batch = some b) (hh : b.handed = none)
      (hr : b.rows = x :: rest) (hk : keyOf x ∉ b.blocked) :
      Delivers idOf keyOf n s (.hand x false)
        { s with batch := some { b with rows := rest, blocked := keyOf x :: b.blocked } }
  | ack (b : Batch α κ) (x : α) (hb : s.batch = some b) (hh : b.handed = some x) :
      Delivers idOf keyOf n s (.ack x)
        { s with queue := s.queue.filter fun y => idOf y ≠ idOf x, batch := some { b with handed := none } }
  | ackFail (b : Batch α κ) (x : α) (hb : s.batch = some b) (hh : b.handed = some x) :
      Delivers idOf keyOf n s (.ackFail x)
        { s with batch := some { b with handed := none, blocked := keyOf x :: b.blocked } }
  | finish (b : Batch α κ) (hb : s.batch = some b) (hh : b.handed = none) (hr : b.rows = []) :
      Delivers idOf keyOf n s .finish { s with batch := none }
  | crash : Delivers idOf keyOf n s .crash { s with batch := none }

namespace Outbox

variable {idOf : α → ℕ} {keyOf : α → κ} {n : ℕ} {s s' t u : Outbox α κ} {m : DeliveryMove α}
  {ms ks : List (DeliveryMove α)}

/-! ### The invariant -/

/-- The batch of a consumer against the queue: what is before its entries in
the queue was accepted, or its key is blocked. -/
structure BatchOk (idOf : α → ℕ) (keyOf : α → κ) (queue : List α) (b : Batch α κ) : Prop where
  sorted : b.rows.Pairwise fun x y => idOf x < idOf y
  queued : ∀ x ∈ b.rows, x ∈ queue
  handedQueued : ∀ x, b.handed = some x → x ∈ queue
  passed : ∀ x ∈ queue, ∀ y ∈ b.rows, idOf x < idOf y → x ∈ b.rows ∨ b.handed = some x ∨
    keyOf x ∈ b.blocked
  handedFirst : ∀ x, b.handed = some x → ∀ y ∈ b.rows, idOf x < idOf y

structure Ok (idOf : α → ℕ) (keyOf : α → κ) (s : Outbox α κ) : Prop where
  sorted : s.queue.Pairwise fun x y => idOf x < idOf y
  below : ∀ x ∈ s.queue, idOf x ≤ s.last
  batch : ∀ b, s.batch = some b → BatchOk idOf keyOf s.queue b

theorem ok_init : Ok idOf keyOf ({} : Outbox α κ) :=
  ⟨.nil, fun _ h => (by cases h), fun _ h => (by cases h)⟩

/-- An entry is known by its id. -/
theorem Ok.eq_of_id (h : Ok idOf keyOf s) {x y : α} (hx : x ∈ s.queue) (hy : y ∈ s.queue)
    (hid : idOf x = idOf y) : x = y := by
  have hn : (s.queue.map idOf).Nodup :=
    List.pairwise_map.mpr (h.sorted.imp fun hlt => Nat.ne_of_lt hlt)
  exact List.inj_on_of_nodup_map hn hx hy hid

/-- The entries of a prefix come before the others. -/
theorem mem_take_of_lt {l : List α} (h : l.Pairwise fun x y => idOf x < idOf y) {x y : α}
    (hx : x ∈ l) (hy : y ∈ l.take n) (hlt : idOf x < idOf y) : x ∈ l.take n := by
  have hsplit := List.take_append_drop n l
  rw [← hsplit] at h hx
  have hbefore := (List.pairwise_append.mp h).2.2
  rcases List.mem_append.mp hx with hx | hx
  · exact hx
  · exact absurd hlt (Nat.lt_asymm (hbefore y hy x hx))

/-- An entry is in the prefix of length `n` if fewer are before it. -/
theorem mem_take_iff {l : List α} (h : l.Pairwise fun x y => idOf x < idOf y) {x : α} (hx : x ∈ l) :
    x ∈ l.take n ↔ (l.filter fun y => idOf y < idOf x).length < n := by
  induction l generalizing n with
  | nil => cases hx
  | cons a l ih =>
    obtain ⟨ha, hl⟩ := List.pairwise_cons.mp h
    cases n with
    | zero => simp
    | succ n =>
      rw [List.take_succ_cons, List.mem_cons]
      rcases List.mem_cons.mp hx with rfl | hx
      · have hnone : (x :: l).filter (fun y => idOf y < idOf x) = [] := by
          rw [List.filter_eq_nil_iff]
          intro y hy
          rcases List.mem_cons.mp hy with rfl | hy
          · simp
          · simpa using Nat.le_of_lt (ha y hy)
        rw [hnone]
        simp
      · have hne : x ≠ a := fun hxa => Nat.lt_irrefl _ (hxa ▸ ha x hx)
        rw [List.filter_cons_of_pos (by simpa using ha x hx), List.length_cons,
          Nat.add_lt_add_iff_right, ← ih hl hx]
        exact ⟨fun h => h.resolve_left hne, .inr⟩

section BatchOk

variable {queue rows : List α} {blocked blocked' : List κ} {x : α}

/-- An entry leaves the batch, its key blocked. -/
theorem BatchOk.drop (h : BatchOk idOf keyOf queue ⟨x :: rows, blocked, none⟩)
    (hsub : ∀ k ∈ blocked, k ∈ blocked')
    (hx : keyOf x ∈ blocked') : BatchOk idOf keyOf queue ⟨rows, blocked', none⟩ where
  sorted := h.sorted.of_cons
  queued y hy := h.queued y (List.mem_cons_of_mem x hy)
  handedQueued _ hy := by cases hy
  handedFirst _ hy := by cases hy
  passed y hy z hz hlt := by
    rcases h.passed y hy z (List.mem_cons_of_mem x hz) hlt with hin | hhanded | hblocked
    · rcases List.mem_cons.mp hin with rfl | hin
      · exact .inr (.inr hx)
      · exact .inl hin
    · cases hhanded
    · exact .inr (.inr (hsub _ hblocked))

theorem BatchOk.accept (h : BatchOk idOf keyOf queue ⟨x :: rows, blocked, none⟩) :
    BatchOk idOf keyOf queue ⟨rows, blocked, some x⟩ where
  sorted := h.sorted.of_cons
  queued y hy := h.queued y (List.mem_cons_of_mem x hy)
  handedQueued y hy := by
    obtain rfl := Option.some.inj hy
    exact h.queued x List.mem_cons_self
  handedFirst y hy := by
    obtain rfl := Option.some.inj hy
    exact (List.pairwise_cons.mp h.sorted).1
  passed y hy z hz hlt := by
    rcases h.passed y hy z (List.mem_cons_of_mem x hz) hlt with hin | hhanded | hblocked
    · rcases List.mem_cons.mp hin with rfl | hin
      · exact .inr (.inl rfl)
      · exact .inl hin
    · cases hhanded
    · exact .inr (.inr hblocked)

theorem BatchOk.ack (h : BatchOk idOf keyOf queue ⟨rows, blocked, some x⟩) :
    BatchOk idOf keyOf (queue.filter fun y => idOf y ≠ idOf x) ⟨rows, blocked, none⟩ where
  sorted := h.sorted
  queued y hy :=
    List.mem_filter.mpr ⟨h.queued y hy, by simpa using Nat.ne_of_gt (h.handedFirst x rfl y hy)⟩
  handedQueued _ hy := by cases hy
  handedFirst _ hy := by cases hy
  passed y hy z hz hlt := by
    obtain ⟨hyq, hne⟩ := List.mem_filter.mp hy
    rcases h.passed y hyq z hz hlt with hin | hhanded | hblocked
    · exact .inl hin
    · obtain rfl := Option.some.inj hhanded
      simp at hne
    · exact .inr (.inr hblocked)

theorem BatchOk.ackFail (h : BatchOk idOf keyOf queue ⟨rows, blocked, some x⟩) :
    BatchOk idOf keyOf queue ⟨rows, keyOf x :: blocked, none⟩ where
  sorted := h.sorted
  queued := h.queued
  handedQueued _ hy := by cases hy
  handedFirst _ hy := by cases hy
  passed y hy z hz hlt := by
    rcases h.passed y hy z hz hlt with hin | hhanded | hblocked
    · exact .inl hin
    · obtain rfl := Option.some.inj hhanded
      exact .inr (.inr List.mem_cons_self)
    · exact .inr (.inr (List.mem_cons_of_mem _ hblocked))

end BatchOk

theorem Ok.step (h : Ok idOf keyOf s) (hs : Delivers idOf keyOf n s m s') : Ok idOf keyOf s' := by
  cases hs with
  | push x hx =>
    have hbelow : ∀ y ∈ s.queue, idOf y < idOf x := fun y hy => Nat.lt_of_le_of_lt (h.below y hy) hx
    refine ⟨?_, fun y hy => ?_, fun b hb => ?_⟩
    · rw [List.pairwise_append]
      exact ⟨h.sorted, List.pairwise_singleton _ x, fun y hy z hz => by
        rw [List.mem_singleton.mp hz]
        exact hbelow y hy⟩
    · rcases List.mem_append.mp hy with hy | hy
      · exact Nat.le_of_lt (hbelow y hy)
      · obtain rfl := List.mem_singleton.mp hy
        exact Nat.le_refl _
    · have hok := h.batch b hb
      refine ⟨hok.sorted, fun y hy => List.mem_append_left _ (hok.queued y hy),
        fun y hy => List.mem_append_left _ (hok.handedQueued y hy), fun y hy z hz hlt => ?_,
          hok.handedFirst⟩
      rcases List.mem_append.mp hy with hy | hy
      · exact hok.passed y hy z hz hlt
      · rw [List.mem_singleton.mp hy] at hlt
        exact absurd hlt (Nat.lt_asymm (hbelow z (hok.queued z hz)))
  | fetch =>
    refine ⟨h.sorted, h.below, fun b hb => ?_⟩
    obtain rfl := Option.some.inj hb
    exact ⟨h.sorted.sublist (List.take_sublist ..), fun x hx => List.mem_of_mem_take hx, fun x hx =>
        (by cases hx),
      fun x hx y hy hlt => .inl (mem_take_of_lt h.sorted hx hy hlt), fun x hx => (by cases hx)⟩
  | skip b x rest hb hh hr hk =>
    refine ⟨h.sorted, h.below, fun b' hb' => ?_⟩
    obtain rfl := Option.some.inj hb'
    have hok := h.batch b hb
    obtain ⟨rows, blocked, handed⟩ := b
    subst hr hh
    exact hok.drop (fun _ h => h) hk
  | accept b x rest hb hh hr hk =>
    refine ⟨h.sorted, h.below, fun b' hb' => ?_⟩
    obtain rfl := Option.some.inj hb'
    have hok := h.batch b hb
    obtain ⟨rows, blocked, handed⟩ := b
    subst hr hh
    exact hok.accept
  | refuse b x rest hb hh hr hk =>
    refine ⟨h.sorted, h.below, fun b' hb' => ?_⟩
    obtain rfl := Option.some.inj hb'
    have hok := h.batch b hb
    obtain ⟨rows, blocked, handed⟩ := b
    subst hr hh
    exact hok.drop (fun _ h => List.mem_cons_of_mem _ h) List.mem_cons_self
  | ack b x hb hh =>
    refine ⟨h.sorted.sublist List.filter_sublist, fun y hy =>
      h.below y (List.mem_of_mem_filter hy), fun b' hb' => ?_⟩
    obtain rfl := Option.some.inj hb'
    have hok := h.batch b hb
    obtain ⟨rows, blocked, handed⟩ := b
    subst hh
    exact hok.ack
  | ackFail b x hb hh =>
    refine ⟨h.sorted, h.below, fun b' hb' => ?_⟩
    obtain rfl := Option.some.inj hb'
    have hok := h.batch b hb
    obtain ⟨rows, blocked, handed⟩ := b
    subst hh
    exact hok.ackFail
  | finish => exact ⟨h.sorted, h.below, fun b hb => (by cases hb)⟩
  | crash => exact ⟨h.sorted, h.below, fun b hb => (by cases hb)⟩

theorem Ok.run (h : Ok idOf keyOf s) (hr : Run (Delivers idOf keyOf n) s ms t) : Ok idOf keyOf t :=
  hr.inv h fun _ _ _ => Ok.step

/-! ### Only an accepted entry leaves -/

/-- The entry to acknowledge was accepted. -/
theorem accepted_of_handed (h : Run (Delivers idOf keyOf n) {} ms s) : ∀ b x, s.batch = some b →
    b.handed = some x → .hand x true ∈ ms := by
  refine h.inv_labels (I := fun ms s => ∀ b x, s.batch = some b → b.handed = some x →
      .hand x true ∈ ms)
    (fun b _ hb => by cases hb) ?_
  intro ms s m t _ ih hs b y hb hy
  cases hs with
  | push x hx => exact List.mem_append_left _ (ih b y hb hy)
  | fetch hnone =>
    obtain rfl := Option.some.inj hb
    cases hy
  | skip b' x rest hb' hh hr hk =>
    obtain rfl := Option.some.inj hb
    exact absurd (hh.symm.trans hy) (by simp)
  | accept b' x rest hb' hh hr hk =>
    obtain rfl := Option.some.inj hb
    obtain rfl := Option.some.inj hy
    exact List.mem_append_right _ (List.mem_singleton_self _)
  | refuse b' x rest hb' hh hr hk =>
    obtain rfl := Option.some.inj hb
    exact absurd (hh.symm.trans hy) (by simp)
  | ack b' x hb' hh =>
    obtain rfl := Option.some.inj hb
    cases hy
  | ackFail b' x hb' hh =>
    obtain rfl := Option.some.inj hb
    cases hy
  | finish b' hb' hh hr => cases hb
  | crash => cases hb

/-- **An entry leaves the queue only accepted.** -/
theorem removed_after_accept (h : Run (Delivers idOf keyOf n) {} ms s)
    (hs : Delivers idOf keyOf n s m s') {x : α}
    (hx : x ∈ s.queue) (hgone : x ∉ s'.queue) : .hand x true ∈ ms := by
  cases hs with
  | push y hy => exact absurd (List.mem_append_left _ hx) hgone
  | ack b y hb hh =>
    have hid : idOf x = idOf y := by
      by_contra hne
      exact hgone (List.mem_filter.mpr ⟨hx, by simpa using hne⟩)
    have hok := ok_init.run h
    have hy := (hok.batch b hb).handedQueued y hh
    rw [hok.eq_of_id hx hy hid]
    exact accepted_of_handed h b y hb hh
  | _ => exact absurd hx hgone

/-! ### In the order of the ids -/

/-- An entry accepted is the oldest of its key in the queue. -/
theorem Ok.oldest (h : Ok idOf keyOf s) {x : α} (hs : Delivers idOf keyOf n s (.hand x true) s') :
    x ∈ s.queue ∧ ∀ y ∈ s.queue, keyOf y = keyOf x → idOf x ≤ idOf y := by
  cases hs with
  | accept b x rest hb hh hr hk =>
    have hok := h.batch b hb
    have hx : x ∈ b.rows := by
      rw [hr]
      exact List.mem_cons_self
    refine ⟨hok.queued x hx, fun y hy hkey => ?_⟩
    by_contra hlt
    have hlt := Nat.lt_of_not_le hlt
    rcases hok.passed y hy x hx hlt with hin | hhanded | hblocked
    · rw [hr] at hin
      rcases List.mem_cons.mp hin with rfl | hin
      · exact Nat.lt_irrefl _ hlt
      · have hsorted := hok.sorted
        rw [hr] at hsorted
        exact Nat.lt_asymm hlt ((List.pairwise_cons.mp hsorted).1 y hin)
    · rw [hh] at hhanded
      cases hhanded
    · exact hk (hkey ▸ hblocked)

/-- A crash or a failed acknowledgement of the entry, before it was acknowledged. -/
def Unacknowledged (x : α) : List (DeliveryMove α) → Prop :=
  ComesFirst (fun m => m = .crash ∨ m = .ackFail x) (· = .ack x)

/-- What holds from where `x` was accepted on: the entries of its key are no
older, and if it is still queued, it is to be acknowledged or the consumer failed. -/
structure After (idOf : α → ℕ) (keyOf : α → κ) (x : α) (ms : List (DeliveryMove α))
    (s : Outbox α κ) : Prop where
  ok : Ok idOf keyOf s
  below : idOf x ≤ s.last
  same : ∀ y ∈ s.queue, idOf y = idOf x → y = x
  oldest : ∀ y ∈ s.queue, keyOf y = keyOf x → idOf x ≤ idOf y
  waits : x ∈ s.queue → ((∃ b, s.batch = some b ∧ b.handed = some x) ∧ .ack x ∉ ms) ∨
    Unacknowledged x ms

/-- With nothing to acknowledge, the consumer failed. -/
theorem After.failed {x : α} (h : After idOf keyOf x ms s) (hx : x ∈ s.queue)
    (hnone : ∀ b, s.batch = some b → b.handed = none) : Unacknowledged x ms := by
  rcases h.waits hx with ⟨⟨b, hb, hh⟩, -⟩ | hfailed
  · rw [hnone b hb] at hh
    cases hh
  · exact hfailed

theorem After.step {x : α} (h : After idOf keyOf x ms s) (hs : Delivers idOf keyOf n s m t) :
    After idOf keyOf x (ms ++ [m]) t := by
  have hlater : Unacknowledged x ms → Unacknowledged x (ms ++ [m]) := fun h => h.append _
  have hnow (hno : .ack x ∉ ms) (hm : m = .crash ∨ m = .ackFail x) : Unacknowledged x (ms ++ [m]) :=
    comesFirst_last (fun k hk heq => hno (heq ▸ hk)) hm
  have hnone {b : Batch α κ} (hb : s.batch = some b) (hh : b.handed = none) :
      ∀ b', s.batch = some b' → b'.handed = none := by
    intro b' hb'
    rw [hb] at hb'
    rw [← Option.some.inj hb', hh]
  have hok := h.ok.step hs
  cases hs with
  | push y hy =>
    refine ⟨hok, Nat.le_of_lt (Nat.lt_of_le_of_lt h.below hy), fun z hz hid => ?_,
        fun z hz hkey => ?_,
      fun hx => ?_⟩
    · rcases List.mem_append.mp hz with hz | hz
      · exact h.same z hz hid
      · rw [List.mem_singleton.mp hz] at hid
        exact absurd hid (Nat.ne_of_gt (Nat.lt_of_le_of_lt h.below hy))
    · rcases List.mem_append.mp hz with hz | hz
      · exact h.oldest z hz hkey
      · rw [List.mem_singleton.mp hz]
        exact Nat.le_of_lt (Nat.lt_of_le_of_lt h.below hy)
    · rcases List.mem_append.mp hx with hx | hx
      · refine (h.waits hx).imp (And.imp_right fun hno hmem => ?_) hlater
        rcases List.mem_append.mp hmem with hmem | hmem
        · exact hno hmem
        · cases List.mem_singleton.mp hmem
      · rw [List.mem_singleton.mp hx] at h
        exact absurd h.below (Nat.not_le.mpr hy)
  | fetch hidle =>
    refine ⟨hok, h.below, h.same, h.oldest, fun hx => .inr (hlater (h.failed hx fun b hb => ?_))⟩
    rw [hidle] at hb
    cases hb
  | skip b y rest hb hh hr hk =>
    exact ⟨hok, h.below, h.same, h.oldest, fun hx => .inr (hlater (h.failed hx (hnone hb hh)))⟩
  | accept b y rest hb hh hr hk =>
    exact ⟨hok, h.below, h.same, h.oldest, fun hx => .inr (hlater (h.failed hx (hnone hb hh)))⟩
  | refuse b y rest hb hh hr hk =>
    exact ⟨hok, h.below, h.same, h.oldest, fun hx => .inr (hlater (h.failed hx (hnone hb hh)))⟩
  | ack b y hb hh =>
    refine ⟨hok, h.below, fun z hz hid => h.same z (List.mem_of_mem_filter hz) hid,
      fun z hz hkey => h.oldest z (List.mem_of_mem_filter hz) hkey, fun hx => ?_⟩
    obtain ⟨hxq, hne⟩ := List.mem_filter.mp hx
    rcases h.waits hxq with ⟨⟨b', hb', hh'⟩, -⟩ | hfailed
    · rw [hb] at hb'
      obtain rfl := Option.some.inj hb'
      rw [hh] at hh'
      obtain rfl := Option.some.inj hh'
      simp at hne
    · exact .inr (hlater hfailed)
  | ackFail b y hb hh =>
    refine ⟨hok, h.below, h.same, h.oldest, fun hx => .inr ?_⟩
    rcases h.waits hx with ⟨⟨b', hb', hh'⟩, hno⟩ | hfailed
    · rw [hb] at hb'
      obtain rfl := Option.some.inj hb'
      rw [hh] at hh'
      obtain rfl := Option.some.inj hh'
      exact hnow hno (.inr rfl)
    · exact hlater hfailed
  | finish b hb hh hr =>
    exact ⟨hok, h.below, h.same, h.oldest, fun hx => .inr (hlater (h.failed hx (hnone hb hh)))⟩
  | crash =>
    refine ⟨hok, h.below, h.same, h.oldest, fun hx => .inr ?_⟩
    rcases h.waits hx with ⟨-, hno⟩ | hfailed
    · exact hnow hno (.inl rfl)
    · exact hlater hfailed

/-- **The entries of a key are accepted in the order of their ids**, one again
only if a crash or a failed acknowledgement came before its acknowledgement. -/
theorem accepts_ordered {pre post : List (DeliveryMove α)} {x y : α}
    (h : Run (Delivers idOf keyOf n) {} (pre ++ .hand x true :: ms ++ .hand y true :: post) s)
    (hkey : keyOf x = keyOf y) : idOf x ≤ idOf y ∧ (idOf x = idOf y → Unacknowledged x ms) := by
  rw [List.append_assoc, List.cons_append] at h
  obtain ⟨t, t', hpre, hx, hrest⟩ := h.at_label
  obtain ⟨u, u', hmid, hy, -⟩ := hrest.at_label
  have hok := ok_init.run hpre
  obtain ⟨hxq, hold⟩ := hok.oldest hx
  have hstart : After idOf keyOf x [] t' := by
    have hok' := hok.step hx
    cases hx with
    | accept b x rest hb hh hr hk =>
      exact ⟨hok', hok.below x hxq, fun z hz hid => hok.eq_of_id hz hxq hid, hold,
        fun _ => .inl ⟨⟨_, rfl, rfl⟩, List.not_mem_nil⟩⟩
  have hafter : After idOf keyOf x ms u := hmid.inv_labels hstart fun _ _ _ _ _ hi hs => hi.step hs
  obtain ⟨hyq, -⟩ := hafter.ok.oldest hy
  refine ⟨hafter.oldest y hyq hkey.symm, fun hid => ?_⟩
  cases hy with
  | accept b y rest hb hh hr hk =>
    have hxu : x ∈ u.queue := hafter.same y hyq hid.symm ▸ hyq
    exact hafter.failed hxu fun b' hb' => by
      rw [hb] at hb'
      rw [← Option.some.inj hb', hh]

/-! ### Which entries a batch hands over -/

/-- From the fetch on: the entry is still to come and its key is not blocked,
or it was handed over. -/
def Coming (idOf : α → ℕ) (keyOf : α → κ) (x : α) (ms : List (DeliveryMove α))
    (s : Outbox α κ) : Prop :=
  (∃ a, .hand x a ∈ ms) ∨
    ∃ b, s.batch = some b ∧ x ∈ b.rows ∧ keyOf x ∉ b.blocked ∧
        (∀ y, b.handed = some y → keyOf y ≠ keyOf x) ∧
      ∀ y ∈ b.rows, keyOf y = keyOf x → y = x ∨ idOf x < idOf y

theorem Coming.step {x : α} (h : Coming idOf keyOf x ms s) (hok : Ok idOf keyOf s)
    (hs : Delivers idOf keyOf n s m t) (hm : m ≠ .crash) : Coming idOf keyOf x (ms ++ [m]) t := by
  rcases h with ⟨a, ha⟩ | ⟨b, hb, hx, hk, hh, hfirst⟩
  · exact .inl ⟨a, List.mem_append_left _ ha⟩
  have hsame {b' : Batch α κ} (hb' : s.batch = some b') : b' = b :=
    Option.some.inj (hb'.symm.trans hb)
  -- the head of the batch is the entry itself, or of another key
  have hhead {y : α} {rest : List α} (hr : b.rows = y :: rest) (hne : y ≠ x) : x ∈ rest ∧
      keyOf y ≠ keyOf x := by
    rw [hr] at hx hfirst
    have hin : x ∈ rest := (List.mem_cons.mp hx).resolve_left hne.symm
    refine ⟨hin, fun hkey => ?_⟩
    have hsorted := (hok.batch b hb).sorted
    rw [hr] at hsorted
    rcases hfirst y List.mem_cons_self hkey with rfl | hlt
    · exact hne rfl
    · exact Nat.lt_asymm hlt ((List.pairwise_cons.mp hsorted).1 x hin)
  have hrest {y : α} {rest : List α} (hr : b.rows = y :: rest) :
      ∀ z ∈ rest, keyOf z = keyOf x → z = x ∨ idOf x < idOf z := by
    intro z hz
    rw [hr] at hfirst
    exact hfirst z (List.mem_cons_of_mem y hz)
  cases hs with
  | push y hy => exact .inr ⟨b, hb, hx, hk, hh, hfirst⟩
  | fetch hnone =>
    rw [hnone] at hb
    cases hb
  | skip b' y rest hb' hh' hr hk' =>
    obtain rfl := hsame hb'
    have hne : y ≠ x := fun hyx => hk (hyx ▸ hk')
    exact .inr ⟨_, rfl, (hhead hr hne).1, hk, hh, hrest hr⟩
  | accept b' y rest hb' hh' hr hk' =>
    obtain rfl := hsame hb'
    by_cases hyx : y = x
    · exact .inl ⟨true, List.mem_append_right _ (by rw [hyx]; exact List.mem_singleton_self _)⟩
    · obtain ⟨hin, hkey⟩ := hhead hr hyx
      refine .inr ⟨_, rfl, hin, hk, fun z hz => ?_, hrest hr⟩
      rw [← Option.some.inj hz]
      exact hkey
  | refuse b' y rest hb' hh' hr hk' =>
    obtain rfl := hsame hb'
    by_cases hyx : y = x
    · exact .inl ⟨false, List.mem_append_right _ (by rw [hyx]; exact List.mem_singleton_self _)⟩
    · obtain ⟨hin, hkey⟩ := hhead hr hyx
      refine .inr ⟨_, rfl, hin, fun hmem => ?_, hh, hrest hr⟩
      rcases List.mem_cons.mp hmem with heq | hmem
      · exact hkey heq.symm
      · exact hk hmem
  | ack b' y hb' hh' =>
    obtain rfl := hsame hb'
    exact .inr ⟨_, rfl, hx, hk, fun z hz => (by cases hz), hfirst⟩
  | ackFail b' y hb' hh' =>
    obtain rfl := hsame hb'
    refine .inr ⟨_, rfl, hx, fun hmem => ?_, fun z hz => (by cases hz), hfirst⟩
    rcases List.mem_cons.mp hmem with heq | hmem
    · exact hh y hh' heq.symm
    · exact hk hmem
  | finish b' hb' hh' hr =>
    obtain rfl := hsame hb'
    rw [hr] at hx
    cases hx
  | crash => exact absurd rfl hm

/-- The entries of the batch are among those fetched. -/
def Fetched (rows : List α) (s : Outbox α κ) : Prop :=
  ∀ b, s.batch = some b → ∀ x ∈ b.rows, x ∈ rows

theorem Fetched.step {rows : List α} (h : Fetched rows s) (hs : Delivers idOf keyOf n s m t)
    (hm : m ≠ .fetch) : Fetched rows t ∧ ∀ x a, m = .hand x a → x ∈ rows := by
  have htail {b : Batch α κ} {y : α} {rest : List α} (hb : s.batch = some b)
      (hr : b.rows = y :: rest) :
      y ∈ rows ∧ ∀ x ∈ rest, x ∈ rows := by
    have hrows := h b hb
    rw [hr] at hrows
    exact ⟨hrows y List.mem_cons_self, fun x hx => hrows x (List.mem_cons_of_mem y hx)⟩
  cases hs with
  | push => exact ⟨h, fun _ _ hx => by cases hx⟩
  | fetch => exact absurd rfl hm
  | skip b y rest hb hh hr hk =>
    refine ⟨fun b' hb' => ?_, fun _ _ hx => by cases hx⟩
    rw [← Option.some.inj hb']
    exact (htail hb hr).2
  | accept b y rest hb hh hr hk =>
    refine ⟨fun b' hb' => ?_, fun x a hx => ?_⟩
    · rw [← Option.some.inj hb']
      exact (htail hb hr).2
    · cases hx
      exact (htail hb hr).1
  | refuse b y rest hb hh hr hk =>
    refine ⟨fun b' hb' => ?_, fun x a hx => ?_⟩
    · rw [← Option.some.inj hb']
      exact (htail hb hr).2
    · cases hx
      exact (htail hb hr).1
  | ack b y hb hh =>
    refine ⟨fun b' hb' => ?_, fun _ _ hx => by cases hx⟩
    rw [← Option.some.inj hb']
    exact h b hb
  | ackFail b y hb hh =>
    refine ⟨fun b' hb' => ?_, fun _ _ hx => by cases hx⟩
    rw [← Option.some.inj hb']
    exact h b hb
  | finish => exact ⟨fun b hb => (by cases hb), fun _ _ hx => by cases hx⟩
  | crash => exact ⟨fun b hb => (by cases hb), fun _ _ hx => by cases hx⟩

/-- Until the next fetch, only what was fetched is handed over. -/
theorem Fetched.run {rows : List α} (h : Fetched rows s) (hr : Run (Delivers idOf keyOf n) s ms t)
    (hno : .fetch ∉ ms) {x : α} {a : Bool} (hx : .hand x a ∈ ms) : x ∈ rows := by
  obtain ⟨pre, post, rfl⟩ := List.append_of_mem hx
  obtain ⟨u, u', hpre, hs, -⟩ := hr.at_label
  have hpre := hpre.without fun hmem => hno (List.mem_append_left _ hmem)
  have hu : Fetched rows u := hpre.inv h fun _ _ _ hi hs => (hi.step hs.2 hs.1).1
  exact (hu.step hs (by simp)).2 x a rfl

/-- **The oldest entry of a key is handed over** by a batch that is not cut
short exactly if fewer than `n` entries were before it. -/
theorem oldest_handed_iff {pre post : List (DeliveryMove α)} {x : α}
    (hpre : Run (Delivers idOf keyOf n) {} pre s)
    (h : Run (Delivers idOf keyOf n) s (.fetch :: ms ++ .finish :: post) t) (hcrash : .crash ∉ ms)
    (hfetch : .fetch ∉ ms)
    (hx : x ∈ s.queue) (hold : ∀ y ∈ s.queue, keyOf y = keyOf x → idOf x ≤ idOf y) :
    (∃ a, .hand x a ∈ ms) ↔ (s.queue.filter fun y => idOf y < idOf x).length < n := by
  have hok := ok_init.run hpre
  obtain ⟨u, u', hms, hfinish, -⟩ := h.at_label
  obtain ⟨s', hs', hrest⟩ := hms.uncons
  have hok' := hok.step hs'
  rw [← mem_take_iff hok.sorted hx]
  cases hs' with
  | fetch hnone =>
    have hfetched : Fetched (s.queue.take n) (s.fetched n) := by
      intro b hb y hy
      rw [← Option.some.inj hb] at hy
      exact hy
    refine ⟨fun ⟨a, ha⟩ => hfetched.run hrest hfetch ha, fun hin => ?_⟩
    have hstart : Coming idOf keyOf x [] (s.fetched n) := by
      refine .inr ⟨_, rfl, hin, fun h => (by cases h), fun y hy =>
        (by cases hy), fun y hy hkey => ?_⟩
      have hyq := List.mem_of_mem_take hy
      rcases Nat.lt_or_eq_of_le (hold y hyq hkey) with hlt | heq
      · exact .inr hlt
      · exact .inl (hok.eq_of_id hyq hx heq.symm)
    have hcoming := (hrest.without hcrash).inv_labels
      (I := fun ms s => Ok idOf keyOf s ∧ Coming idOf keyOf x ms s) ⟨hok', hstart⟩
      fun _ _ _ _ _ hi hs => ⟨hi.1.step hs.2, hi.2.step hi.1 hs.2 hs.1⟩
    rcases hcoming.2 with hhanded | ⟨b, hb, hxb, -⟩
    · exact hhanded
    · cases hfinish with
      | finish b' hb' hh hr =>
        rw [hb] at hb'
        rw [Option.some.inj hb', hr] at hxb
        cases hxb

end Outbox

end TemperatureMonitor
