/-
# Leases over a clock

A lease is free, held by a worker until a time, or closed for good. A system
keeps a lease when each of its steps is one of the moves of `LeaseMove`: a
take of a free or expired lease, an end by finish or release, an expiry, a
withdrawal. Along any run of such a system two takes with no release between
them are an expiry apart (`LeaseView.exclusive`), and a take is ended at most
once (`LeaseView.one_end`), whatever else happens in between.
-/
import Mathlib.Order.Lattice
import TemperatureMonitor.Library.Runs

namespace TemperatureMonitor

inductive Lease (W T : Type*)
  | free
  | held (w : W) (till : T)
  | closed
deriving DecidableEq

/-- What a step shows of a lease. A finish need not name its worker. -/
inductive LeaseEvent (W T : Type*)
  | taken (w : W) (till : T)
  | finished (w : Option W)
  | released (w : W)
deriving DecidableEq

section Lease

variable {W T : Type*} [LinearOrder T]

/-- The moves at a time, and what they show. -/
inductive LeaseMove (now : T) : Option (LeaseEvent W T) → Lease W T → Lease W T → Prop
  | stay (s : Lease W T) : LeaseMove now none s s
  | take (w : W) (till : T) : LeaseMove now (some (.taken w till)) .free (.held w till)
  | takeOver (v w : W) (u till : T) : u ≤ now → LeaseMove now (some (.taken w till)) (.held v u) (.held w till)
  | finish (w : W) (by_ : Option W) (u : T) : (∀ v ∈ by_, v = w) → now < u →
      LeaseMove now (some (.finished by_)) (.held w u) .closed
  | release (w : W) (u : T) : LeaseMove now (some (.released w)) (.held w u) .free
  | expire (w : W) (u : T) : u ≤ now → LeaseMove now none (.held w u) .free
  | withdraw (s : Lease W T) : LeaseMove now none s .closed

/-- The holder's lease is given up. -/
def LeaseEvent.ends : LeaseEvent W T → Bool
  | .taken _ _ => false
  | .finished _ => true
  | .released _ => true

namespace LeaseMove

variable {now : T} {a b : Lease W T} {w : W} {till : T}

theorem of_taken (h : LeaseMove now (some (.taken w till)) a b) :
    b = .held w till ∧ (a = .free ∨ ∃ v u, a = .held v u ∧ u ≤ now) := by
  cases h with
  | take => exact ⟨rfl, .inl rfl⟩
  | takeOver v _ u _ hle => exact ⟨rfl, .inr ⟨v, u, rfl, hle⟩⟩

theorem of_finished (h : LeaseMove now (some (.finished (some w))) a b) :
    ∃ u, a = .held w u ∧ now < u ∧ b = .closed := by
  cases h with
  | finish v _ u hby hlt =>
    rw [hby w rfl]
    exact ⟨u, rfl, hlt, rfl⟩

theorem of_ends {e : LeaseEvent W T} (he : e.ends = true) (h : LeaseMove now (some e) a b) :
    (∃ v u, a = .held v u) ∧ ∀ v u, b ≠ .held v u := by
  cases h with
  | take => cases he
  | takeOver => cases he
  | finish v _ u => exact ⟨⟨v, u, rfl⟩, fun _ _ => by simp⟩
  | release v u => exact ⟨⟨v, u, rfl⟩, fun _ _ => by simp⟩

theorem of_closed {e : Option (LeaseEvent W T)} (h : LeaseMove now e .closed b) : b = .closed := by
  cases h <;> rfl

/-- A held lease that is not released stays, is closed, or is over. -/
theorem of_held {e : Option (LeaseEvent W T)} (hno : e ≠ some (.released w))
    (h : LeaseMove now e (.held w till) b) : b = .held w till ∨ b = .closed ∨ till ≤ now := by
  cases h with
  | stay => exact .inl rfl
  | takeOver _ _ _ _ hle => exact .inr (.inr hle)
  | finish => exact .inr (.inl rfl)
  | release => exact absurd rfl hno
  | expire _ _ hle => exact .inr (.inr hle)
  | withdraw => exact .inr (.inl rfl)

/-- Only a take makes a lease held. -/
theorem held_of {e : Option (LeaseEvent W T)} (hno : ∀ v u, e ≠ some (.taken v u))
    (h : LeaseMove now e a (.held w till)) : a = .held w till := by
  cases h with
  | stay => rfl
  | take => exact absurd rfl (hno _ _)
  | takeOver => exact absurd rfl (hno _ _)

end LeaseMove

/-- A system that keeps a lease. -/
structure LeaseView {S L : Type*} (step : S → L → S → Prop) (W T : Type*) [LinearOrder T] where
  lease : S → Lease W T
  event : L → Option (LeaseEvent W T)
  time : L → T
  move : ∀ s l t, step s l t → LeaseMove (time l) (event l) (lease s) (lease t)

namespace LeaseView

variable {S L : Type*} {step : S → L → S → Prop} (V : LeaseView step W T) {s t : S}
  {ls mid : List L}

/-- A lease taken until `till` that is not released is held, closed, or over. -/
theorem kept_or_over {w : W} {till : T} (hrun : Run step s mid t) (hs : V.lease s = .held w till)
    (hno : ∀ k ∈ mid, V.event k ≠ some (.released w)) :
    V.lease t = .held w till ∨ V.lease t = .closed ∨ ∃ k ∈ mid, till ≤ V.time k := by
  induction hrun with
  | nil => exact .inl hs
  | @snoc ks a l b hr hstep ih =>
    have hm := V.move a l b hstep
    rcases ih fun k hk => hno k (List.mem_append_left _ hk) with hheld | hclosed | ⟨k, hk, hle⟩
    · rw [hheld] at hm
      rcases hm.of_held (hno l (by simp)) with h | h | hle
      · exact .inl h
      · exact .inr (.inl h)
      · exact .inr (.inr ⟨l, by simp, hle⟩)
    · rw [hclosed] at hm
      exact .inr (.inl hm.of_closed)
    · exact .inr (.inr ⟨k, List.mem_append_left _ hk, hle⟩)

/-- **Two takes** with no release by the first holder between them: the first
lease is over at the second take. -/
theorem exclusive {u : S} {l k : L} {w w' : W} {till till' : T}
    (hrun : Run step s (ls ++ l :: mid ++ [k]) u)
    (hclock : ((ls ++ l :: mid ++ [k]).map V.time).Pairwise (· ≤ ·))
    (hl : V.event l = some (.taken w till)) (hk : V.event k = some (.taken w' till'))
    (hno : ∀ x ∈ mid, V.event x ≠ some (.released w)) : till ≤ V.time k := by
  obtain ⟨c, hmid, hlast⟩ := hrun.last
  obtain ⟨a, b, -, htake, hrest⟩ := hmid.at_label
  have hfirst := V.move a l b htake
  rw [hl] at hfirst
  have hle : ∀ x ∈ mid, V.time x ≤ V.time k := by
    intro x hx
    rw [List.map_append, List.pairwise_append] at hclock
    exact hclock.2.2 (V.time x) (List.mem_map_of_mem (by simp [hx])) (V.time k) (by simp)
  have hsecond := V.move c k u hlast
  rw [hk] at hsecond
  rcases V.kept_or_over hrest hfirst.of_taken.1 hno with hc | hc | ⟨x, hx, hover⟩
  · rcases hsecond.of_taken.2 with hfree | ⟨v, till'', hheld, hover⟩
    · rw [hc] at hfree
      cases hfree
    · rw [hc] at hheld
      cases hheld
      exact hover
  · rw [hc] at hsecond
    exact absurd (hsecond.of_taken.1.symm.trans hsecond.of_closed) (by simp)
  · exact le_trans hover (hle x hx)

/-- After an end, nothing is held before the next take. -/
theorem not_held (hs : ∀ w u, V.lease s ≠ .held w u) (hrun : Run step s mid t)
    (hno : ∀ k ∈ mid, ∀ w u, V.event k ≠ some (.taken w u)) : ∀ w u, V.lease t ≠ .held w u := by
  induction hrun with
  | nil => exact hs
  | @snoc ks c k d hr hstep ih =>
    intro w u hd
    have hm := V.move c k d hstep
    rw [hd] at hm
    exact ih (fun x hx => hno x (List.mem_append_left _ hx)) w u (hm.held_of (hno k (by simp)))

/-- **One end for a take**: between two ends there is a take. -/
theorem one_end {u : S} {l k : L} {e e' : LeaseEvent W T}
    (hrun : Run step s (ls ++ l :: mid ++ [k]) u)
    (hl : V.event l = some e) (hk : V.event k = some e') (he : e.ends = true)
    (he' : e'.ends = true) : ∃ x ∈ mid, ∃ w till, V.event x = some (.taken w till) := by
  by_contra hnone
  push Not at hnone
  obtain ⟨c, hmid, hlast⟩ := hrun.last
  obtain ⟨a, b, -, hend, hrest⟩ := hmid.at_label
  have hfirst := V.move a l b hend
  have hsecond := V.move c k u hlast
  rw [hl] at hfirst
  rw [hk] at hsecond
  obtain ⟨⟨w, till, hheld⟩, -⟩ := hsecond.of_ends he'
  exact V.not_held (hfirst.of_ends he).2 hrest hnone w till hheld

end LeaseView

end Lease

end TemperatureMonitor
