/-
# Two watermarks and a consumer

For each key a producer advances one watermark; a consumer fetches the keys
whose second watermark is behind it, hands each value over, and advances the
second watermark when it was accepted. It may leave a value for a later round,
pass it over without handing it over, fail to mark what was accepted, and crash
between any two of its steps.

* `Progress.consumed_within`: what is consumed was produced.
* `Progress.accepts_ordered`: the values accepted for a key never fall, and one
  is accepted again only after a crash, or a mark that failed, before it was marked.
* `Progress.consumed_cases`: a value produced and consumed was accepted or
  passed over, or a later one was produced.
-/
import Mathlib.Logic.Function.Basic
import TemperatureMonitor.Library.Runs
import TemperatureMonitor.Library.Table

namespace TemperatureMonitor

variable {κ τ : Type*} [DecidableEq κ] [LinearOrder τ]

/-- A round: the values still to hand over, and the one accepted but not marked. -/
structure Round (κ τ : Type*) where
  pending : List (κ × τ)
  handed : Option (κ × τ) := none

structure Progress (κ τ : Type*) where
  produced : κ → Option τ := fun _ => none
  consumed : κ → Option τ := fun _ => none
  round : Option (Round κ τ) := none

inductive ProgressMove (κ τ : Type*)
  | produce (k : κ) (t : τ)
  | fetch
  | leave (k : κ) (t : τ)
  | accept (k : κ) (t : τ)
  | mark (k : κ) (t : τ)
  | lose (k : κ) (t : τ)
  | pass (k : κ) (t : τ)
  | finish
  | crash

/-- A value is produced. -/
def Progress.supply (s : Progress κ τ) (k : κ) (t : τ) : Progress κ τ :=
  { s with produced := Function.update s.produced k (advance (s.produced k) t) }

/-- A value is marked consumed, the round goes on. -/
def Progress.consume (s : Progress κ τ) (k : κ) (t : τ) (rest : List (κ × τ)) : Progress κ τ :=
  { s with consumed := Function.update s.consumed k (advance (s.consumed k) t), round := some { pending := rest } }

inductive Progresses (s : Progress κ τ) : ProgressMove κ τ → Progress κ τ → Prop
  | produce (k : κ) (t : τ) : Progresses s (.produce k t) (s.supply k t)
  | fetch (pending : List (κ × τ)) (hr : s.round = none) (hn : (pending.map Prod.fst).Nodup)
      (hp : ∀ e ∈ pending, s.produced e.1 = some e.2 ∧ ¬ Reached (s.consumed e.1) e.2) :
      Progresses s .fetch { s with round := some { pending } }
  | leave (k : κ) (t : τ) (rest : List (κ × τ)) (hr : s.round = some ⟨(k, t) :: rest, none⟩) :
      Progresses s (.leave k t) { s with round := some { pending := rest } }
  | accept (k : κ) (t : τ) (rest : List (κ × τ)) (hr : s.round = some ⟨(k, t) :: rest, none⟩) :
      Progresses s (.accept k t) { s with round := some ⟨rest, some (k, t)⟩ }
  | mark (k : κ) (t : τ) (rest : List (κ × τ)) (hr : s.round = some ⟨rest, some (k, t)⟩) :
      Progresses s (.mark k t) (s.consume k t rest)
  | lose (k : κ) (t : τ) (rest : List (κ × τ)) (hr : s.round = some ⟨rest, some (k, t)⟩) :
      Progresses s (.lose k t) { s with round := some { pending := rest } }
  | pass (k : κ) (t : τ) (rest : List (κ × τ)) (hr : s.round = some ⟨(k, t) :: rest, none⟩) :
      Progresses s (.pass k t) (s.consume k t rest)
  | finish (hr : s.round = some ⟨[], none⟩) : Progresses s .finish { s with round := none }
  | crash : Progresses s .crash { s with round := none }

namespace Progress

variable {s s' u : Progress κ τ} {m : ProgressMove κ τ} {ms : List (ProgressMove κ τ)}
  {k : κ} {t : τ}

/-! ### The watermarks -/

theorem within_update {w : κ → Option τ} {k k' : κ} {t : τ} :
    Within (w k') (Function.update w k (advance (w k) t) k') := by
  by_cases h : k' = k
  · rw [h, Function.update_self]
    exact within_advance
  · rw [Function.update_of_ne h]
    exact within_refl _

/-- **Neither watermark falls.** -/
theorem step_within (hs : Progresses s m s') (k : κ) :
    Within (s.produced k) (s'.produced k) ∧ Within (s.consumed k) (s'.consumed k) := by
  cases hs with
  | produce k' t => exact ⟨within_update, within_refl _⟩
  | mark k' t => exact ⟨within_refl _, within_update⟩
  | pass k' t => exact ⟨within_refl _, within_update⟩
  | _ => exact ⟨within_refl _, within_refl _⟩

/-- What holds between the two watermarks and the round. -/
structure Ok (s : Progress κ τ) : Prop where
  within : ∀ k, Within (s.consumed k) (s.produced k)
  pending : ∀ r, s.round = some r → ∀ e ∈ r.pending, Reached (s.produced e.1) e.2
  handed : ∀ r, s.round = some r → ∀ e ∈ r.handed, Reached (s.produced e.1) e.2
  keys : ∀ r, s.round = some r → (r.pending.map Prod.fst).Nodup

omit [DecidableEq κ] in
theorem ok_init : Ok ({} : Progress κ τ) :=
  ⟨fun _ => within_none _, fun _ h => (by cases h), fun _ h => (by cases h), fun _ h =>
    (by cases h)⟩

theorem Ok.consume (h : Ok s) {rest : List (κ × τ)} (ht : Reached (s.produced k) t)
    (hrest : ∀ e ∈ rest, Reached (s.produced e.1) e.2) (hkeys : (rest.map Prod.fst).Nodup) :
    Ok (s.consume k t rest) := by
  refine ⟨fun k' => ?_, fun r hr' e he => ?_, fun r hr' e he => ?_, fun r hr' => ?_⟩
  · show Within (Function.update s.consumed k (advance (s.consumed k) t) k') (s.produced k')
    by_cases hk : k' = k
    · rw [hk, Function.update_self]
      exact (h.within k).advance_left ht
    · rw [Function.update_of_ne hk]
      exact h.within k'
  · rw [← Option.some.inj hr'] at he
    exact hrest e he
  · rw [← Option.some.inj hr'] at he
    cases he
  · rw [← Option.some.inj hr']
    exact hkeys

theorem Ok.step (h : Ok s) (hs : Progresses s m s') : Ok s' := by
  -- the entries after the first
  have htail {e : κ × τ} {rest : List (κ × τ)} {o : Option (κ × τ)}
      (hr : s.round = some ⟨e :: rest, o⟩) :
      (∀ x ∈ rest, Reached (s.produced x.1) x.2) ∧ (rest.map Prod.fst).Nodup :=
    ⟨fun x hx => h.pending _ hr x (List.mem_cons_of_mem _ hx), (List.nodup_cons.mp (h.keys _ hr)).2⟩
  have hhead {k : κ} {t : τ} {rest : List (κ × τ)} {o : Option (κ × τ)}
      (hr : s.round = some ⟨(k, t) :: rest, o⟩) :
      Reached (s.produced k) t := h.pending _ hr (k, t) List.mem_cons_self
  cases hs with
  | produce k t =>
    exact ⟨fun k' => (h.within k').trans within_update,
      fun r hr e he => within_update.reached (h.pending r hr e he),
      fun r hr e he => within_update.reached (h.handed r hr e he), h.keys⟩
  | fetch pending hr hn hp =>
    refine ⟨h.within, fun r hr' e he => ?_, fun r hr' e he => ?_, fun r hr' => ?_⟩
    · rw [← Option.some.inj hr'] at he
      exact ⟨e.2, (hp e he).1, le_refl _⟩
    · rw [← Option.some.inj hr'] at he
      cases he
    · rw [← Option.some.inj hr']
      exact hn
  | leave k t rest hr =>
    refine ⟨h.within, fun r hr' e he => ?_, fun r hr' e he => ?_, fun r hr' => ?_⟩
    · rw [← Option.some.inj hr'] at he
      exact (htail hr).1 e he
    · rw [← Option.some.inj hr'] at he
      cases he
    · rw [← Option.some.inj hr']
      exact (htail hr).2
  | accept k t rest hr =>
    refine ⟨h.within, fun r hr' e he => ?_, fun r hr' e he => ?_, fun r hr' => ?_⟩
    · rw [← Option.some.inj hr'] at he
      exact (htail hr).1 e he
    · rw [← Option.some.inj hr'] at he
      rw [← Option.some.inj he]
      exact hhead hr
    · rw [← Option.some.inj hr']
      exact (htail hr).2
  | mark k t rest hr => exact h.consume (h.handed _ hr (k, t) rfl) (h.pending _ hr) (h.keys _ hr)
  | lose k t rest hr =>
    refine ⟨h.within, fun r hr' e he => ?_, fun r hr' e he => ?_, fun r hr' => ?_⟩
    · rw [← Option.some.inj hr'] at he
      exact h.pending _ hr e he
    · rw [← Option.some.inj hr'] at he
      cases he
    · rw [← Option.some.inj hr']
      exact h.keys ⟨rest, some (k, t)⟩ hr
  | pass k t rest hr => exact h.consume (hhead hr) (htail hr).1 (htail hr).2
  | finish =>
    exact ⟨h.within, fun _ hr => (by cases hr), fun _ hr => (by cases hr), fun _ hr =>
      (by cases hr)⟩
  | crash =>
    exact ⟨h.within, fun _ hr => (by cases hr), fun _ hr => (by cases hr), fun _ hr =>
      (by cases hr)⟩

theorem Ok.run (h : Ok s) (hr : Run Progresses s ms s') : Ok s' := hr.inv h fun _ _ _ => Ok.step

/-- **What is consumed was produced.** -/
theorem consumed_within (h : Run Progresses {} ms s) (k : κ) :
    Within (s.consumed k) (s.produced k) :=
  (ok_init.run h).within k

/-! ### The order of what is accepted -/

/-- A crash or a mark that failed, before `t` was marked for `k`. -/
def Unmarked (k : κ) (t : τ) : List (ProgressMove κ τ) → Prop :=
  ComesFirst (fun m => m = .crash ∨ m = .lose k t) (· = .mark k t)

/-- Not before `t`, and beyond it unless the consumer failed to mark it. -/
def Beyond (k : κ) (t : τ) (ms : List (ProgressMove κ τ)) (e : κ × τ) : Prop :=
  e.1 = k → t ≤ e.2 ∧ (t < e.2 ∨ Unmarked k t ms)

/-- What holds from where `t` was accepted for `k` on: it is produced, and the
consumer has marked it, is about to, or failed to; what is still to hand over is beyond. -/
structure After (k : κ) (t : τ) (ms : List (ProgressMove κ τ)) (s : Progress κ τ) : Prop where
  produced : Reached (s.produced k) t
  marked : Reached (s.consumed k) t ∨
      ((∃ r, s.round = some r ∧ r.handed = some (k, t)) ∧ .mark k t ∉ ms) ∨
    Unmarked k t ms
  beyond : ∀ r, s.round = some r → ∀ e ∈ r.pending, Beyond k t ms e

omit [DecidableEq κ] in
/-- With nothing accepted to mark. -/
theorem After.marked_of_none (h : After k t ms s)
    (hnone : ∀ r, s.round = some r → r.handed = none) :
    Reached (s.consumed k) t ∨ Unmarked k t ms := by
  rcases h.marked with hm | ⟨⟨r, hr, hh⟩, -⟩ | hc
  · exact .inl hm
  · rw [hnone r hr] at hh
    cases hh
  · exact .inr hc

theorem After.step (h : After k t ms s) (hs : Progresses s m s') : After k t (ms ++ [m]) s' := by
  have hkeep : Unmarked k t ms → Unmarked k t (ms ++ [m]) := fun hu => hu.append _
  have hfail (hno : .mark k t ∉ ms) (hm : m = .crash ∨ m = .lose k t) : Unmarked k t (ms ++ [m]) :=
    comesFirst_last (fun k hk heq => hno (heq ▸ hk)) hm
  have hlater {e : κ × τ} (hb : Beyond k t ms e) : Beyond k t (ms ++ [m]) e :=
    fun hk => ⟨(hb hk).1, (hb hk).2.imp_right hkeep⟩
  have hproduced := (step_within hs k).1.reached h.produced
  have hconsumed := (step_within hs k).2
  have hnone {p : List (κ × τ)} (hr : s.round = some ⟨p, none⟩) : ∀ r, s.round = some r →
      r.handed = none := by
    intro r hr'
    rw [hr] at hr'
    rw [← Option.some.inj hr']
  -- the value accepted is the one in hand
  have hhanded {p : List (κ × τ)} {e : κ × τ} (hr : s.round = some ⟨p, some e⟩) :
      (∃ r, s.round = some r ∧ r.handed = some (k, t)) → e = (k, t) := by
    rintro ⟨r, hr', hh⟩
    rw [hr] at hr'
    rw [← Option.some.inj hr'] at hh
    exact Option.some.inj hh
  -- of a round whose entries were still to hand over
  have hrest {p rest : List (κ × τ)} {o o' : Option (κ × τ)} (hr : s.round = some ⟨p, o⟩)
      (hsub : ∀ e ∈ rest, e ∈ p) :
      ∀ r, some (Round.mk rest o') = some r → ∀ e ∈ r.pending, Beyond k t (ms ++ [m]) e := by
    intro r hr' e he
    rw [← Option.some.inj hr'] at he
    exact hlater (h.beyond _ hr e (hsub e he))
  cases hs with
  | produce k' t' =>
    refine ⟨hproduced, ?_, fun r hr e he => hlater (h.beyond r hr e he)⟩
    refine h.marked.imp_right fun hm => hm.imp (And.imp_right fun hno hmem => ?_) hkeep
    rcases List.mem_append.mp hmem with hmem | hmem
    · exact hno hmem
    · cases List.mem_singleton.mp hmem
  | fetch pending hr hn hp =>
    have hm := h.marked_of_none fun r hr' => by
      rw [hr] at hr'
      cases hr'
    refine ⟨hproduced, hm.imp_right fun hc => .inr (hkeep hc), fun r hr' e he hk => ?_⟩
    rw [← Option.some.inj hr'] at he
    obtain ⟨hpe, hce⟩ := hp e he
    rw [hk] at hpe hce
    obtain ⟨x, hx, hle⟩ := h.produced
    rw [hpe] at hx
    rw [← Option.some.inj hx] at hle
    refine ⟨hle, ?_⟩
    rcases hm with hm | hc
    · refine .inl (lt_of_not_ge fun hge => hce (hm.trans hge))
    · exact .inr (hkeep hc)
  | leave k' t' rest hr =>
    exact ⟨hproduced, (h.marked_of_none (hnone hr)).imp_right fun hc => .inr (hkeep hc),
      hrest hr fun e he => List.mem_cons_of_mem _ he⟩
  | accept k' t' rest hr =>
    exact ⟨hproduced, (h.marked_of_none (hnone hr)).imp_right fun hc => .inr (hkeep hc),
      hrest hr fun e he => List.mem_cons_of_mem _ he⟩
  | mark k' t' rest hr =>
    refine ⟨hproduced, ?_, hrest hr fun e he => he⟩
    rcases h.marked with hm | ⟨hhand, -⟩ | hc
    · exact .inl (hconsumed.reached hm)
    · obtain ⟨rfl, rfl⟩ := Prod.mk.inj (hhanded hr hhand)
      refine .inl ?_
      show Reached (Function.update s.consumed k' (advance (s.consumed k') t') k') t'
      rw [Function.update_self]
      exact reached_advance
    · exact .inr (.inr (hkeep hc))
  | lose k' t' rest hr =>
    refine ⟨hproduced, ?_, hrest hr fun e he => he⟩
    rcases h.marked with hm | ⟨hhand, hno⟩ | hc
    · exact .inl hm
    · obtain ⟨rfl, rfl⟩ := Prod.mk.inj (hhanded hr hhand)
      exact .inr (.inr (hfail hno (.inr rfl)))
    · exact .inr (.inr (hkeep hc))
  | pass k' t' rest hr =>
    refine ⟨hproduced, ?_, hrest hr fun e he => List.mem_cons_of_mem _ he⟩
    exact (h.marked_of_none (hnone hr)).imp hconsumed.reached fun hc => .inr (hkeep hc)
  | finish hr =>
    refine ⟨hproduced, ?_, fun _ hr' => by cases hr'⟩
    exact (h.marked_of_none (hnone hr)).imp_right fun hc => .inr (hkeep hc)
  | crash =>
    refine ⟨hproduced, ?_, fun _ hr => by cases hr⟩
    rcases h.marked with hm | ⟨-, hno⟩ | hc
    · exact .inl hm
    · exact .inr (.inr (hfail hno (.inl rfl)))
    · exact .inr (.inr (hkeep hc))

/-- **The values accepted for a key never fall**, and one is accepted again only
after a crash, or a mark that failed, before it was marked. -/
theorem accepts_ordered {pre post : List (ProgressMove κ τ)} {v : τ}
    (h : Run Progresses {} (pre ++ .accept k t :: ms ++ .accept k v :: post) s) :
    t ≤ v ∧ (t = v → Unmarked k t ms) := by
  rw [List.append_assoc, List.cons_append] at h
  obtain ⟨a, a', hpre, ht, hrest⟩ := h.at_label
  obtain ⟨b, b', hmid, hv, -⟩ := hrest.at_label
  have hok := ok_init.run hpre
  have hstart : After k t [] a' := by
    cases ht with
    | accept _ _ rest hr =>
      refine ⟨hok.pending _ hr (k, t) List.mem_cons_self,
          .inr (.inl ⟨⟨_, rfl, rfl⟩, List.not_mem_nil⟩),
        fun r hr' e he hk => ?_⟩
      rw [← Option.some.inj hr'] at he
      have hnot := (List.nodup_cons.mp (hok.keys _ hr)).1
      exact absurd (List.mem_map.mpr ⟨e, he, hk⟩) hnot
  have hafter : After k t ms b := hmid.inv_labels hstart fun _ _ _ _ _ hi hs => hi.step hs
  cases hv with
  | accept _ _ rest hr =>
    obtain ⟨hle, hlt⟩ := hafter.beyond _ hr (k, v) List.mem_cons_self rfl
    refine ⟨hle, fun heq => hlt.resolve_left ?_⟩
    rw [heq]
    exact lt_irrefl v

/-! ### What becomes of a value -/

/-- Where the values of a state came from. -/
structure Sources (ms : List (ProgressMove κ τ)) (s : Progress κ τ) : Prop where
  produced : ∀ k, ∀ t ∈ s.produced k, .produce k t ∈ ms
  pending : ∀ r, s.round = some r → ∀ e ∈ r.pending, .produce e.1 e.2 ∈ ms
  handed : ∀ r, s.round = some r → ∀ e ∈ r.handed, .produce e.1 e.2 ∈ ms ∧ .accept e.1 e.2 ∈ ms
  consumed : ∀ k, ∀ t ∈ s.consumed k, .produce k t ∈ ms ∧ (.accept k t ∈ ms ∨ .pass k t ∈ ms)

/-- A value of a watermark that was advanced is the new one or an old one. -/
theorem mem_update {w : κ → Option τ} {k k' : κ} {t x : τ}
    (h : x ∈ Function.update w k (advance (w k) t) k') : (k' = k ∧ x = t) ∨ x ∈ w k' := by
  by_cases hk : k' = k
  · rw [hk, Function.update_self] at h
    rcases advance_cases (w := w k) (t := t) with ⟨heq, -⟩ | ⟨heq, -⟩
    · rw [heq] at h
      exact .inl ⟨hk, (Option.some.inj h).symm⟩
    · rw [heq] at h
      exact .inr (hk ▸ h)
  · rw [Function.update_of_ne hk] at h
    exact .inr h

omit [DecidableEq κ] [LinearOrder τ] in
theorem Sources.mono (h : Sources ms s) (m : ProgressMove κ τ) : Sources (ms ++ [m]) s :=
  have hin {x : ProgressMove κ τ} (hx : x ∈ ms) : x ∈ ms ++ [m] := List.mem_append_left _ hx
  ⟨fun k t ht => hin (h.produced k t ht), fun r hr e he => hin (h.pending r hr e he),
    fun r hr e he => ⟨hin (h.handed r hr e he).1, hin (h.handed r hr e he).2⟩,
    fun k t ht => ⟨hin (h.consumed k t ht).1, (h.consumed k t ht).2.imp hin hin⟩⟩

theorem Sources.consume (h : Sources ms s) {rest : List (κ × τ)}
    (ht : .produce k t ∈ ms ∧ (.accept k t ∈ ms ∨ .pass k t ∈ ms))
    (hrest : ∀ e ∈ rest, .produce e.1 e.2 ∈ ms) : Sources ms (s.consume k t rest) := by
  refine ⟨h.produced, fun r hr e he => ?_, fun r hr e he => ?_, fun k' x hx => ?_⟩
  · rw [← Option.some.inj hr] at he
    exact hrest e he
  · rw [← Option.some.inj hr] at he
    cases he
  · rcases mem_update hx with ⟨rfl, rfl⟩ | hx
    · exact ht
    · exact h.consumed k' x hx

theorem Sources.step (h : Sources ms s) (hs : Progresses s m s') : Sources (ms ++ [m]) s' := by
  have hm := h.mono m
  have hlast : m ∈ ms ++ [m] := List.mem_append_right _ (List.mem_singleton_self m)
  have hround {r : Round κ τ} (hp : ∀ e ∈ r.pending, .produce e.1 e.2 ∈ ms ++ [m])
      (hh : ∀ e ∈ r.handed, .produce e.1 e.2 ∈ ms ++ [m] ∧ .accept e.1 e.2 ∈ ms ++ [m]) :
      Sources (ms ++ [m]) { s with round := some r } := by
    refine ⟨hm.produced, fun r' hr' e he => ?_, fun r' hr' e he => ?_, hm.consumed⟩
    · rw [← Option.some.inj hr'] at he
      exact hp e he
    · rw [← Option.some.inj hr'] at he
      exact hh e he
  have hno : ∀ e ∈ (none : Option (κ × τ)), .produce e.1 e.2 ∈ ms ++ [m] ∧
      .accept e.1 e.2 ∈ ms ++ [m] :=
    fun _ he => by cases he
  cases hs with
  | produce k t =>
    refine ⟨fun k' x hx => ?_, hm.pending, hm.handed, hm.consumed⟩
    rcases mem_update hx with ⟨rfl, rfl⟩ | hx
    · exact hlast
    · exact hm.produced k' x hx
  | fetch pending hr hn hp => exact hround (fun e he => hm.produced e.1 e.2 (hp e he).1) hno
  | leave k t rest hr =>
    exact hround (fun e he => hm.pending _ hr e (List.mem_cons_of_mem _ he)) hno
  | accept k t rest hr =>
    refine hround (fun e he => hm.pending _ hr e (List.mem_cons_of_mem _ he)) fun e he => ?_
    rw [← Option.some.inj he]
    exact ⟨hm.pending _ hr (k, t) List.mem_cons_self, hlast⟩
  | mark k t rest hr =>
    obtain ⟨hp, ha⟩ := hm.handed _ hr (k, t) rfl
    exact hm.consume ⟨hp, .inl ha⟩ (hm.pending _ hr)
  | lose k t rest hr => exact hround (fun e he => hm.pending _ hr e he) hno
  | pass k t rest hr =>
    exact hm.consume ⟨hm.pending _ hr (k, t) List.mem_cons_self, .inr hlast⟩
      fun e he => hm.pending _ hr e (List.mem_cons_of_mem _ he)
  | finish => exact ⟨hm.produced, fun _ hr => (by cases hr), fun _ hr => (by cases hr), hm.consumed⟩
  | crash => exact ⟨hm.produced, fun _ hr => (by cases hr), fun _ hr => (by cases hr), hm.consumed⟩

theorem sources (h : Run Progresses {} ms s) : Sources ms s :=
  h.inv_labels (I := Sources) ⟨fun _ _ h => (by cases h), fun _ h => (by cases h), fun _ h =>
      (by cases h),
    fun _ _ h => by cases h⟩ fun _ _ _ _ _ hi hs => hi.step hs

/-- **A value consumed** was accepted or passed over, or a later one was produced. -/
theorem consumed_cases (h : Run Progresses {} ms s) (hc : Reached (s.consumed k) t) :
    .accept k t ∈ ms ∨ .pass k t ∈ ms ∨ ∃ v, t < v ∧ .produce k v ∈ ms := by
  obtain ⟨x, hx, hle⟩ := hc
  obtain ⟨hp, hcases⟩ := (sources h).consumed k x hx
  rcases hle.lt_or_eq with hlt | rfl
  · exact .inr (.inr ⟨x, hlt, hp⟩)
  · exact hcases.imp_right .inl

end Progress

end TemperatureMonitor
