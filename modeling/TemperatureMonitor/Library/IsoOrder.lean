/-
# The order of ISO 8601 texts

SQL compares stored datetimes as texts. The fields of a text are of fixed
width from the year down, so texts of one UTC offset are ordered as their
instants, in the years Python's `datetime` has (`isoformat_le_iff`); texts of
different offsets are ordered by the clock they show (`isoformat_le_iff_readsBy`).
A fraction is printed only when there is one, behind the seconds, where the sign
of an offset comes before the point.
-/
import Mathlib.Data.List.Lex
import TemperatureMonitor.Library.Iso

namespace TemperatureMonitor

/-! ### Texts that differ at a character -/

/-- The texts agree up to a character that is smaller in the first. -/
def Before (a b : List Char) : Prop :=
  ∃ p c d x y, a = p ++ c :: x ∧ b = p ++ d :: y ∧ c < d

section Before

variable {a b : List Char}

theorem Before.append (h : Before a b) (u v : List Char) : Before (a ++ u) (b ++ v) := by
  obtain ⟨p, c, d, x, y, rfl, rfl, hlt⟩ := h
  exact ⟨p, c, d, x ++ u, y ++ v, by simp, by simp, hlt⟩

theorem Before.behind (h : Before a b) (p : List Char) : Before (p ++ a) (p ++ b) := by
  obtain ⟨q, c, d, x, y, rfl, rfl, hlt⟩ := h
  exact ⟨p ++ q, c, d, x, y, by simp, by simp, hlt⟩

theorem Before.cons (h : Before a b) (c : Char) : Before (c :: a) (c :: b) := h.behind [c]

theorem Before.lt (h : Before a b) : a < b := by
  obtain ⟨p, c, d, x, y, rfl, rfl, hlt⟩ := h
  induction p with
  | nil => exact List.cons_lt_cons_iff.mpr (.inl hlt)
  | cons e p ih => exact List.cons_lt_cons_iff.mpr (.inr ⟨rfl, ih⟩)

end Before

namespace DateTime

/-! ### The fields -/

theorem digit_lt {a b : ℕ} (ha : a < 10) (hb : b < 10) (h : a < b) : digit a < digit b := by
  have key : ∀ x : Fin 10, ∀ y : Fin 10, x < y → digit x < digit y := by decide
  exact key ⟨a, ha⟩ ⟨b, hb⟩ h

theorem pad_before : ∀ (w : ℕ) {m n : ℕ}, n < 10 ^ w → m < n → Before (pad w m) (pad w n)
  | 0, m, n, hn, h => by omega
  | w + 1, m, n, hn, h => by
    rw [pow_succ] at hn
    unfold pad
    by_cases hq : m / 10 = n / 10
    · rw [hq]
      exact Before.behind ⟨[], _, _, [], [], rfl, rfl, digit_lt (by omega) (by omega) (by omega)⟩ _
    · exact (pad_before w (by omega) (by omega)).append _ _

theorem yearDay_lt {a b : ℤ} (h : a < b) : (yearDay a).1 < (yearDay b).1 ∨
    (yearDay a).1 = (yearDay b).1 ∧ (yearDay a).2 < (yearDay b).2 := by
  have ha := yearDay_ordinal a
  have hb := yearDay_ordinal b
  have ra := yearDay_range a
  have rb := yearDay_range b
  generalize (yearDay a).1 = y at *
  generalize (yearDay b).1 = z at *
  generalize (yearDay a).2 = d at *
  generalize (yearDay b).2 = e at *
  rcases lt_trichotomy y z with hyz | rfl | hzy
  · exact .inl hyz
  · exact .inr ⟨rfl, by omega⟩
  · omega

theorem monthDay_lt {l : Bool} {a b : ℕ} (hb : b < 366) (h : a < b) :
    (monthDay l a).1 < (monthDay l b).1 ∨
    (monthDay l a).1 = (monthDay l b).1 ∧ (monthDay l a).2 < (monthDay l b).2 := by
  have fa := (monthDay_facts l ⟨a, by omega⟩).2.2
  have fb := (monthDay_facts l ⟨b, hb⟩).2.2
  simp only at fa fb
  have hle : (monthDay l a).1 ≤ (monthDay l b).1 := by
    refine List.Sublist.length_le (List.monotone_filter_right _ fun m hm => ?_)
    simp only [decide_eq_true_eq] at hm ⊢
    omega
  rcases Nat.lt_or_eq_of_le hle with hlt | heq
  · exact .inl hlt
  · rw [heq] at fa
    exact .inr ⟨heq, by omega⟩

/-- The year of a day number since the epoch. -/
def yearOf (days : ℤ) : ℤ := (yearDay (days + 719162)).1

theorem yearText_four {y : ℤ} (h : 0 ≤ y ∧ y ≤ 9999) : yearText y = pad 4 y.toNat := by
  unfold yearText
  rw [if_neg (by omega), if_pos (by omega), List.nil_append, show y.natAbs = y.toNat by omega]

theorem dateText_before {a b : ℤ} (ha : 0 ≤ yearOf a) (hb : yearOf b ≤ 9999) (h : a < b) :
    Before (dateText a) (dateText b) := by
  unfold yearOf at ha hb
  have rb := yearDay_range (b + 719162)
  simp only [dateText]
  rcases yearDay_lt (show a + 719162 < b + 719162 by omega) with hyear | ⟨hyear, hday⟩
  · rw [yearText_four ⟨ha, by omega⟩, yearText_four ⟨by omega, hb⟩]
    exact (pad_before 4 (by omega) (by omega)).append _ _
  · rw [hyear]
    have ra := yearDay_range (a + 719162)
    have fb :=
      monthDay_facts (leap (yearDay (b + 719162)).1) ⟨(yearDay (b + 719162)).2.toNat, by omega⟩
    refine Before.behind (Before.cons ?_ _) _
    rcases @monthDay_lt (leap (yearDay (b + 719162)).1) _ _ (by omega)
      (show (yearDay (a + 719162)).2.toNat < (yearDay (b + 719162)).2.toNat by
        omega) with hm | ⟨hm, hd⟩
    · exact (pad_before 2 fb.1 hm).append _ _
    · rw [hm]
      exact Before.behind (Before.cons (pad_before 2 fb.2.1 hd) _) _

theorem offsetText_head (o : ℤ) : ∃ c x, offsetText o = c :: x ∧ c < '.' := by
  unfold offsetText
  split_ifs <;> exact ⟨_, _, rfl, by decide⟩

theorem fraction_before {m n : ℕ} (hn : n < 1000000) (h : m < n) (o q : ℤ) :
    Before (fraction m ++ offsetText o) (fraction n ++ offsetText q) := by
  unfold fraction
  rw [if_neg (by omega : n ≠ 0)]
  split_ifs with hm
  · obtain ⟨c, x, heq, hc⟩ := offsetText_head o
    exact ⟨[], c, '.', x, pad 6 n ++ offsetText q, by simp [heq], by simp, hc⟩
  · exact Before.cons ((pad_before 6 hn h).append _ _) _

theorem timeText_before {x y : ℕ} (hy : y < 86400000000) (h : x < y) (o q : ℤ) :
    Before (timeText x ++ offsetText o) (timeText y ++ offsetText q) := by
  simp only [timeText, List.append_assoc, List.cons_append]
  by_cases hh : x / 3600000000 = y / 3600000000
  · rw [hh]
    refine Before.behind (Before.cons ?_ _) _
    by_cases hm : x / 60000000 % 60 = y / 60000000 % 60
    · rw [hm]
      refine Before.behind (Before.cons ?_ _) _
      by_cases hs : x / 1000000 % 60 = y / 1000000 % 60
      · rw [hs]
        exact Before.behind (fraction_before (by omega) (by omega) o q) _
      · exact (pad_before 2 (by omega) (by omega)).append _ _
    · exact (pad_before 2 (by omega) (by omega)).append _ _
  · exact (pad_before 2 (by omega) (by omega)).append _ _

/-! ### The text -/

/-- The years of Python's `datetime`. -/
def Supported (t : DateTime) : Prop := 1 ≤ yearOf t.wallDay ∧ yearOf t.wallDay ≤ 9999

instance (t : DateTime) : Decidable t.Supported := by
  unfold Supported
  infer_instance

variable {s t : DateTime}

/-- A text is before every text of a later wall clock, whatever the offsets. -/
theorem isoformat_lt_of_wall (hs : s.Supported) (ht : t.Supported) (hwall : s.wall < t.wall) :
    s.isoformat < t.isoformat := by
  refine String.lt_iff_toList_lt.mpr (Before.lt ?_)
  simp only [isoformat, String.toList_ofList]
  by_cases hday : s.wallDay = t.wallDay
  · rw [hday]
    refine Before.behind (Before.cons (timeText_before ?_ ?_ _ _) _) _
    · simp only [wallMicros]
      omega
    · simp only [wallMicros, wallDay] at hday ⊢
      omega
  · refine (dateText_before (by have := hs.1; omega) ht.2 ?_).append _ _
    simp only [wallDay] at hday ⊢
    omega

theorem isoformat_lt (ho : s.offset = t.offset) (hs : s.Supported) (ht : t.Supported)
    (h : s.instant < t.instant) : s.isoformat < t.isoformat :=
  isoformat_lt_of_wall hs ht (by unfold wall; omega)

/-- **Texts of one offset are ordered as their instants.** -/
theorem isoformat_le_iff (ho : s.offset = t.offset) (hs : s.Supported) (ht : t.Supported) :
    s.isoformat ≤ t.isoformat ↔ s.instant ≤ t.instant := by
  constructor
  · intro h
    by_contra hlt
    exact absurd (isoformat_lt ho.symm ht hs (by omega)) (not_lt.mpr h)
  · intro h
    rcases lt_or_eq_of_le h with hlt | heq
    · exact le_of_lt (isoformat_lt ho hs ht hlt)
    · rw [ext' heq ho]

/-! ### Texts of different offsets

The clock a text shows is read first, the offset behind it: as texts, offsets
east of Greenwich come first, in order, then those west of it, in order of
their distance. -/

theorem lt_append {a b : List Char} (p : List Char) (h : a < b) : p ++ a < p ++ b := by
  induction p with
  | nil => exact h
  | cons c p ih => exact List.cons_lt_cons_iff.mpr (.inr ⟨rfl, ih⟩)

theorem fraction_lt {m n : ℕ} (hn : n < 1000000) (h : m < n) : fraction m < fraction n := by
  unfold fraction
  rw [if_neg (by omega : n ≠ 0)]
  by_cases hm : m = 0
  · rw [if_pos hm]
    exact List.nil_lt_cons _ _
  · rw [if_neg hm]
    exact ((pad_before 6 hn h).cons _).lt

/-- Offsets of one sign, by their distance. -/
theorem offsetText_lt_natAbs {a b : ℤ} (hb : |b| < 86400000000) (hsign : a < 0 ↔ b < 0)
    (h : a.natAbs < b.natAbs) : offsetText a < offsetText b := by
  have hbb := abs_lt.mp hb
  simp only [offsetText, hsign, List.cons_append, List.append_assoc]
  refine List.cons_lt_cons_iff.mpr (.inr ⟨rfl, ?_⟩)
  by_cases hh : a.natAbs / 3600000000 = b.natAbs / 3600000000
  · rw [hh]
    refine lt_append _ (List.cons_lt_cons_iff.mpr (.inr ⟨rfl, ?_⟩))
    by_cases hm : a.natAbs / 60000000 % 60 = b.natAbs / 60000000 % 60
    · rw [hm, if_neg (by omega : ¬b.natAbs % 60000000 = 0)]
      refine lt_append _ ?_
      by_cases hz : a.natAbs % 60000000 = 0
      · rw [if_pos hz]
        exact List.nil_lt_cons _ _
      · rw [if_neg hz]
        refine List.cons_lt_cons_iff.mpr (.inr ⟨rfl, ?_⟩)
        by_cases hs : a.natAbs / 1000000 % 60 = b.natAbs / 1000000 % 60
        · rw [hs]
          exact lt_append _ (fraction_lt (by omega) (by omega))
        · exact ((pad_before 2 (by omega) (by omega)).append _ _).lt
    · exact ((pad_before 2 (by omega) (by omega)).append _ _).lt
  · exact ((pad_before 2 (by omega) (by omega)).append _ _).lt

theorem offsetText_lt_of_sign {a b : ℤ} (ha : 0 ≤ a) (hb : b < 0) :
    offsetText a < offsetText b := by
  simp only [offsetText, if_neg (not_lt.mpr ha), if_pos hb, List.cons_append]
  exact List.cons_lt_cons_iff.mpr (.inl (by decide))

/-- The order of offsets as texts. -/
def OffsetLe (a b : ℤ) : Prop := if 0 ≤ a then 0 ≤ b → a ≤ b else b ≤ a

instance (a b : ℤ) : Decidable (OffsetLe a b) := by
  unfold OffsetLe
  infer_instance

theorem offsetText_le_iff {a b : ℤ} (ha : |a| < 86400000000) (hb : |b| < 86400000000) :
    offsetText a ≤ offsetText b ↔ OffsetLe a b := by
  have hab := abs_lt.mp ha
  have hbb := abs_lt.mp hb
  have hlt : ∀ {x y : ℤ}, |y| < 86400000000 → OffsetLe x y → x ≠ y →
      offsetText x < offsetText y := by
    intro x y hy hle hne
    unfold OffsetLe at hle
    by_cases hx : 0 ≤ x
    · rw [if_pos hx] at hle
      by_cases hy0 : 0 ≤ y
      · exact offsetText_lt_natAbs hy (by omega) (by omega)
      · exact offsetText_lt_of_sign hx (by omega)
    · rw [if_neg hx] at hle
      exact offsetText_lt_natAbs hy (by omega) (by omega)
  constructor
  · intro h
    by_contra hno
    have hback : OffsetLe b a ∧ b ≠ a := by
      unfold OffsetLe at hno ⊢
      split_ifs at hno ⊢ <;> omega
    exact absurd (hlt ha hback.1 hback.2) (not_lt.mpr h)
  · intro h
    by_cases he : a = b
    · rw [he]
    · exact le_of_lt (hlt hb h he)

/-- The text of `s` is not behind that of `t`: the clock first, then the offset. -/
def ReadsBy (s t : DateTime) : Prop :=
  s.wall < t.wall ∨ s.wall = t.wall ∧ OffsetLe s.offset t.offset

instance (s t : DateTime) : Decidable (s.ReadsBy t) := by
  unfold ReadsBy
  infer_instance

theorem isoformat_lt_of_offset (hwall : s.wall = t.wall)
    (h : offsetText s.offset < offsetText t.offset) : s.isoformat < t.isoformat := by
  have hday : s.wallDay = t.wallDay := by simp only [wallDay, hwall]
  have hmicros : s.wallMicros = t.wallMicros := by simp only [wallMicros, hwall]
  refine String.lt_iff_toList_lt.mpr ?_
  simp only [isoformat, String.toList_ofList, hday, hmicros]
  exact lt_append _ (List.cons_lt_cons_iff.mpr (.inr ⟨rfl, lt_append _ h⟩))

/-- **Texts are ordered by the clock they show, then by the offset.** -/
theorem isoformat_le_iff_readsBy (hs : s.Supported) (ht : t.Supported) :
    s.isoformat ≤ t.isoformat ↔ s.ReadsBy t := by
  unfold ReadsBy
  rcases lt_trichotomy s.wall t.wall with h | h | h
  · simp [h, le_of_lt (isoformat_lt_of_wall hs ht h)]
  · rw [← offsetText_le_iff s.offset_lt t.offset_lt]
    simp only [h, lt_irrefl, true_and, false_or]
    constructor
    · intro hle
      by_contra hlt
      exact absurd (isoformat_lt_of_offset h.symm (not_le.mp hlt)) (not_lt.mpr hle)
    · intro hle
      rcases lt_or_eq_of_le hle with hlt | heq
      · exact le_of_lt (isoformat_lt_of_offset h hlt)
      · have ho := offsetText_inj s.offset_lt t.offset_lt heq
        have hst : s = t := ext' (by unfold wall at h; omega) ho
        rw [hst]
  · have hlt := isoformat_lt_of_wall ht hs h
    have hno : ¬(s.wall < t.wall ∨ s.wall = t.wall ∧ OffsetLe s.offset t.offset) := by omega
    simp only [hno, iff_false, not_le]
    exact hlt

end DateTime

end TemperatureMonitor
