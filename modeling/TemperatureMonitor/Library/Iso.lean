/-
# Aware datetimes and their ISO 8601 text

A datetime is an instant and the UTC offset it is written at. Two datetimes
of different offsets can be one instant, so equality of datetimes is finer
than equality of instants, and it is the finer one that a text key sees:
`isoformat_injective`. The text is the one Python's `datetime.isoformat`
prints: a four digit year, fixed-width fields, microseconds only when there
are any, and `±HH:MM` with seconds and microseconds only when there are any.

Years outside `0..9999`, which no Python datetime has, are printed with as
many digits as they need, so that addition of a duration needs no bound.
-/
import Mathlib.Data.Nat.Digits.Lemmas
import Mathlib.Data.String.Basic
import Mathlib.Algebra.Order.Group.Unbundled.Int
import TemperatureMonitor.Library.Text

namespace TemperatureMonitor

/-- An aware datetime: microseconds since the epoch, and the offset from UTC
(less than a day) it is written at. -/
structure DateTime where
  instant : ℤ
  offset : ℤ
  offset_lt : |offset| < 86400000000
deriving DecidableEq

namespace DateTime

@[ext] theorem ext' {a b : DateTime} (hi : a.instant = b.instant) (ho : a.offset = b.offset) :
    a = b := by
  obtain ⟨i, o, h⟩ := a
  obtain ⟨i', o', h'⟩ := b
  obtain rfl : i = i' := hi
  obtain rfl : o = o' := ho
  rfl

/-- A datetime written at UTC. -/
def utc (instant : ℤ) : DateTime := ⟨instant, 0, by decide⟩

/-- `value + timedelta`: the offset stays. -/
def add (t : DateTime) (d : ℤ) : DateTime := { t with instant := t.instant + d }

@[simp] theorem add_instant (t : DateTime) (d : ℤ) : (t.add d).instant = t.instant + d := rfl

/-- The wall clock, in microseconds. -/
def wall (t : DateTime) : ℤ := t.instant + t.offset

/-- The epoch milliseconds of the instant, rounded down. -/
def epochMilliseconds (t : DateTime) : ℤ := t.instant / 1000

/-! ### Fixed-width decimals -/

def digit (n : ℕ) : Char := Char.ofNat (48 + n % 10)

theorem digit_inj {a b : ℕ} (ha : a < 10) (hb : b < 10) (h : digit a = digit b) : a = b := by
  have key : ∀ x : Fin 10, ∀ y : Fin 10, digit x = digit y → x = y := by decide
  exact congrArg Fin.val (key ⟨a, ha⟩ ⟨b, hb⟩ h)

/-- The last `w` decimal digits of `n`. -/
def pad : ℕ → ℕ → List Char
  | 0, _ => []
  | w + 1, n => pad w (n / 10) ++ [digit (n % 10)]

@[simp] theorem pad_length : ∀ w n : ℕ, (pad w n).length = w
  | 0, _ => rfl
  | w + 1, n => by simp [pad, pad_length w]

theorem pad_inj : ∀ (w : ℕ) {m n : ℕ}, m < 10 ^ w → n < 10 ^ w → pad w m = pad w n → m = n
  | 0, m, n, hm, hn, _ => by simp at hm hn; omega
  | w + 1, m, n, hm, hn, h => by
    obtain ⟨h1, h2⟩ := List.append_inj' h rfl
    rw [Nat.pow_succ] at hm hn
    have hq := pad_inj w (by omega) (by omega) h1
    have hr := digit_inj (Nat.mod_lt m (by decide)) (Nat.mod_lt n (by decide)) (List.cons.inj h2).1
    omega

theorem digit_ne_T (n : ℕ) : digit n ≠ 'T' := by
  have key : ∀ x : Fin 10, Char.ofNat (48 + x.1) ≠ 'T' := by decide
  exact key ⟨n % 10, Nat.mod_lt n (by decide)⟩

theorem digit_ne_minus (n : ℕ) : digit n ≠ '-' := by
  have key : ∀ x : Fin 10, Char.ofNat (48 + x.1) ≠ '-' := by decide
  exact key ⟨n % 10, Nat.mod_lt n (by decide)⟩

theorem digit_ne_colon (n : ℕ) : digit n ≠ ':' := by
  have key : ∀ x : Fin 10, Char.ofNat (48 + x.1) ≠ ':' := by decide
  exact key ⟨n % 10, Nat.mod_lt n (by decide)⟩

theorem mem_pad : ∀ {w n : ℕ} {c : Char}, c ∈ pad w n → ∃ d, c = digit d
  | 0, _, _, h => by simp [pad] at h
  | w + 1, n, c, h => by
    simp only [pad, List.mem_append, List.mem_singleton] at h
    rcases h with h | h
    · exact mem_pad h
    · exact ⟨_, h⟩

/-! ### The date -/

def leap (year : ℤ) : Bool := year % 4 = 0 ∧ (year % 100 ≠ 0 ∨ year % 400 = 0)

/-- The year of a day number (days since 0001-01-01) and the day's place in it,
by cycles of 400, 100, 4 and 1 years. -/
def yearDay (n : ℤ) : ℤ × ℤ :=
  let n100 := n % 146097 / 36524
  let n4 := n % 146097 % 36524 / 1461
  let n1 := n % 146097 % 36524 % 1461 / 365
  let year := n / 146097 * 400 + 1 + n100 * 100 + n4 * 4 + n1
  if n1 = 4 ∨ n100 = 4 then (year - 1, 365) else (year, n % 146097 % 36524 % 1461 % 365)

private theorem cycles {a b c d : ℤ} (hb : 0 ≤ b ∧ b ≤ 3) (hc : 0 ≤ c ∧ c ≤ 24)
    (hd : 0 ≤ d ∧ d ≤ 3) : (400 * a + 100 * b + 4 * c + d) / 4 = 100 * a + 25 * b + c ∧
      (400 * a + 100 * b + 4 * c + d) / 100 = 4 * a + b ∧
      (400 * a + 100 * b + 4 * c + d) / 400 = a := by
  refine ⟨?_, ?_, ?_⟩ <;> omega

/-- The day number, back from the year and the day of the year. -/
theorem yearDay_ordinal (n : ℤ) : n = 365 * ((yearDay n).1 - 1) + ((yearDay n).1 - 1) / 4
    - ((yearDay n).1 - 1) / 100 + ((yearDay n).1 - 1) / 400 + (yearDay n).2 := by
  simp only [yearDay]
  generalize ha : n / 146097 = a
  generalize hb : n % 146097 / 36524 = b
  generalize hc : n % 146097 % 36524 / 1461 = c
  generalize hd : n % 146097 % 36524 % 1461 / 365 = d
  have hb4 : 0 ≤ b ∧ b ≤ 4 := by omega
  have hc24 : 0 ≤ c ∧ c ≤ 24 := by omega
  have hd4 : 0 ≤ d ∧ d ≤ 4 := by omega
  split_ifs with h
  · rcases h with rfl | rfl
    · have hb3 : b ≤ 3 := by omega
      obtain ⟨h1, h2, h3⟩ := cycles (a := a) (b := b) (c := c) (d := 3) (by omega) hc24 (by omega)
      simp only [show a * 400 + 1 + b * 100 + c * 4 + 4 - 1 - 1 =
        400 * a + 100 * b + 4 * c + 3 by ring]
      rw [h1, h2, h3]
      omega
    · obtain ⟨rfl, rfl⟩ : c = 0 ∧ d = 0 := by omega
      obtain ⟨h1, h2, h3⟩ :=
        cycles (a := a) (b := 3) (c := 24) (d := 3) (by omega) (by omega) (by omega)
      simp only [show a * 400 + 1 + 4 * 100 + 0 * 4 + 0 - 1 - 1 =
        400 * a + 100 * 3 + 4 * 24 + 3 by ring]
      rw [h1, h2, h3]
      omega
  · obtain ⟨h1, h2, h3⟩ := cycles (a := a) (b := b) (c := c) (d := d) (by omega) hc24 (by omega)
    simp only [show a * 400 + 1 + b * 100 + c * 4 + d - 1 = 400 * a + 100 * b + 4 * c + d by ring]
    rw [h1, h2, h3]
    omega

theorem yearDay_range (n : ℤ) : 0 ≤ (yearDay n).2 ∧ (yearDay n).2 ≤ 365 := by
  simp only [yearDay]
  split_ifs <;> simp only <;> omega

theorem yearDay_inj {a b : ℤ} (h : yearDay a = yearDay b) : a = b := by
  rw [yearDay_ordinal a, yearDay_ordinal b, h]

/-- Days before each month of a common year, and the year's length. -/
def daysBefore : List ℕ := [0, 31, 59, 90, 120, 151, 181, 212, 243, 273, 304, 334, 365]

/-- Month and day of the month of a day of the year. -/
def monthDay (isLeap : Bool) (day : ℕ) : ℕ × ℕ :=
  let before := fun m => daysBefore.getD m 0 + if 1 < m ∧ isLeap then 1 else 0
  let month := ((List.range 12).filter fun m => before m ≤ day).length
  (month, day - before (month - 1) + 1)

theorem monthDay_facts : ∀ (l : Bool) (a : Fin 366), (monthDay l a).1 < 100 ∧
    (monthDay l a).2 < 100 ∧
    daysBefore.getD ((monthDay l a).1 - 1) 0 + (if 2 < (monthDay l a).1 ∧ l then 1 else 0) +
      ((monthDay l a).2 - 1) = a := by
  decide +kernel

theorem monthDay_inj {l : Bool} {a b : ℕ} (ha : a < 366) (hb : b < 366)
    (h : monthDay l a = monthDay l b) : a = b := by
  have h1 := (monthDay_facts l ⟨a, ha⟩).2.2
  have h2 := (monthDay_facts l ⟨b, hb⟩).2.2
  simp only at h1 h2
  rw [← h1, ← h2, h]

/-- `%04d` of a year. -/
def yearText (year : ℤ) : List Char :=
  (if year < 0 then ['-'] else []) ++
    pad (if year.natAbs < 10000 then 4 else Nat.log 10 year.natAbs + 1) year.natAbs

theorem pad_width_inj {v w m n : ℕ} (hm : m < 10 ^ v) (hn : n < 10 ^ w) (h : pad v m = pad w n) :
    m = n := by
  obtain rfl : v = w := by simpa using congrArg List.length h
  exact pad_inj v hm hn h

theorem lt_yearWidth (n : ℕ) : n < 10 ^ (if n < 10000 then 4 else Nat.log 10 n + 1) := by
  split_ifs with h
  · exact h
  · exact Nat.lt_pow_succ_log_self (by decide) n

theorem cons_minus_ne_pad (w n : ℕ) (l : List Char) : '-' :: l ≠ pad w n := by
  intro h
  obtain ⟨d, hd⟩ := mem_pad (h ▸ List.mem_cons_self : '-' ∈ pad w n)
  exact digit_ne_minus d hd.symm

theorem yearText_inj {a b : ℤ} (h : yearText a = yearText b) : a = b := by
  simp only [yearText] at h
  by_cases ha : a < 0 <;> by_cases hb : b < 0 <;> simp only [ha, hb, ↓reduceIte, List.cons_append,
    List.nil_append, List.cons.injEq, true_and] at h
  · have := pad_width_inj (lt_yearWidth _) (lt_yearWidth _) h
    omega
  · exact absurd h (cons_minus_ne_pad _ _ _)
  · exact absurd h.symm (cons_minus_ne_pad _ _ _)
  · have := pad_width_inj (lt_yearWidth _) (lt_yearWidth _) h
    omega

/-- `YYYY-MM-DD` of a day number (days since the epoch). -/
def dateText (days : ℤ) : List Char :=
  let yd := yearDay (days + 719162)
  let md := monthDay (leap yd.1) yd.2.toNat
  yearText yd.1 ++ ('-' :: pad 2 md.1 ++ '-' :: pad 2 md.2)

theorem dateText_inj {a b : ℤ} (h : dateText a = dateText b) : a = b := by
  simp only [dateText] at h
  have ra := yearDay_range (a + 719162)
  have rb := yearDay_range (b + 719162)
  obtain ⟨hy, hmd⟩ := List.append_inj' h (by simp)
  have hyear := yearText_inj hy
  simp only [List.cons_append, List.cons.injEq, true_and] at hmd
  obtain ⟨hm, hd⟩ := List.append_inj hmd (by simp)
  simp only [List.cons.injEq, true_and] at hd
  have fa :=
    monthDay_facts (leap (yearDay (a + 719162)).1) ⟨(yearDay (a + 719162)).2.toNat, by omega⟩
  have fb :=
    monthDay_facts (leap (yearDay (b + 719162)).1) ⟨(yearDay (b + 719162)).2.toNat, by omega⟩
  have hmonth := pad_inj 2 fa.1 fb.1 hm
  have hdom := pad_inj 2 fa.2.1 fb.2.1 hd
  rw [← hyear] at hmonth hdom
  have hday : (yearDay (a + 719162)).2.toNat = (yearDay (b + 719162)).2.toNat :=
    monthDay_inj (by omega) (by omega) (Prod.ext hmonth hdom)
  have : a + 719162 = b + 719162 := yearDay_inj (Prod.ext hyear (by omega))
  omega

theorem dateText_no_colon (days : ℤ) : ':' ∉ dateText days := by
  have hp : ∀ w n, ':' ∉ pad w n := fun w n h => by
    obtain ⟨d, hd⟩ := mem_pad h
    exact digit_ne_colon d hd.symm
  simp only [dateText, yearText]
  split_ifs <;> simp [hp]

theorem dateText_no_T (days : ℤ) : 'T' ∉ dateText days := by
  have hp : ∀ w n, 'T' ∉ pad w n := fun w n h => by
    obtain ⟨d, hd⟩ := mem_pad h
    exact digit_ne_T d hd.symm
  simp only [dateText, yearText]
  split_ifs <;> simp [hp]

/-! ### The time of day and the offset -/

/-- The microseconds behind the seconds, printed only when there are any. -/
def fraction (micros : ℕ) : List Char := if micros = 0 then [] else '.' :: pad 6 micros

/-- `HH:MM:SS[.ffffff]` of the microseconds of a day. -/
def timeText (x : ℕ) : List Char :=
  pad 2 (x / 3600000000) ++ ':' :: pad 2 (x / 60000000 % 60) ++ ':' :: pad 2 (x / 1000000 % 60) ++
    fraction (x % 1000000)

/-- `±HH:MM[:SS[.ffffff]]` of a UTC offset. -/
def offsetText (o : ℤ) : List Char :=
  (if o < 0 then '-' else '+') :: pad 2 (o.natAbs / 3600000000) ++ ':' ::
      pad 2 (o.natAbs / 60000000 % 60) ++
    (if o.natAbs % 60000000 = 0 then [] else
      ':' :: pad 2 (o.natAbs / 1000000 % 60) ++ fraction (o.natAbs % 1000000))

theorem fraction_inj {a b : ℕ} (ha : a < 1000000) (hb : b < 1000000) (h : fraction a = fraction b) :
    a = b := by
  simp only [fraction] at h
  split_ifs at h with h1 h2 h2
  · omega
  · exact pad_inj 6 ha hb (List.cons.inj h).2

theorem offsetText_inj {a b : ℤ} (ha : |a| < 86400000000) (hb : |b| < 86400000000)
    (h : offsetText a = offsetText b) : a = b := by
  obtain ⟨ha1, ha2⟩ := abs_lt.mp ha
  obtain ⟨hb1, hb2⟩ := abs_lt.mp hb
  simp only [offsetText, List.cons_append, List.append_assoc, List.cons.injEq] at h
  obtain ⟨hs, h⟩ := h
  obtain ⟨hh, h⟩ := List.append_inj h (by simp)
  simp only [List.cons.injEq, true_and] at h
  obtain ⟨hm, h⟩ := List.append_inj h (by simp)
  have e1 := pad_inj 2 (by omega) (by omega) hh
  have e2 := pad_inj 2 (by omega) (by omega) hm
  have e3 : a.natAbs % 60000000 = b.natAbs % 60000000 := by
    split_ifs at h with h1 h2 h2
    · omega
    · simp only [List.cons.injEq, true_and] at h
      obtain ⟨h3, h4⟩ := List.append_inj h (by simp)
      have e4 := pad_inj 2 (by omega) (by omega) h3
      have e5 := fraction_inj (by omega) (by omega) h4
      omega
  have hsign : a < 0 ↔ b < 0 := by
    by_cases h1 : a < 0 <;> by_cases h2 : b < 0 <;> simp [h1, h2] at hs ⊢
  omega

/-- What follows a time is a fraction or an offset, and the first character
tells them apart. -/
theorem fraction_offset_inj {x y : ℕ} {a b : ℤ} (hx : x < 1000000) (hy : y < 1000000)
    (h : fraction x ++ offsetText a = fraction y ++ offsetText b) :
    x = y ∧ offsetText a = offsetText b := by
  have hdot : ∀ (o : ℤ) (l : List Char), '.' :: l ≠ offsetText o := fun o l he => by
    simp only [offsetText, List.cons_append, List.cons.injEq] at he
    have := he.1
    split_ifs at this <;> exact absurd this (by decide)
  simp only [fraction] at h
  split_ifs at h with h1 h2 h2
  · exact ⟨by omega, by simpa using h⟩
  · exact absurd h.symm (hdot _ _)
  · exact absurd h (hdot _ _)
  · simp only [List.cons_append, List.cons.injEq, true_and] at h
    obtain ⟨h3, h4⟩ := List.append_inj h (by simp)
    exact ⟨pad_inj 6 hx hy h3, h4⟩

/-! ### The text -/

/-- The day number and the microsecond of the day on the wall clock. -/
def wallDay (t : DateTime) : ℤ := t.wall / 86400000000
def wallMicros (t : DateTime) : ℕ := (t.wall % 86400000000).toNat

/-- `datetime.isoformat()`. -/
def isoformat (t : DateTime) : String :=
  String.ofList (dateText t.wallDay ++ 'T' :: (timeText t.wallMicros ++ offsetText t.offset))

/-- **The text names the datetime**: the instant and the offset can be read
back from it. -/
theorem isoformat_injective {s t : DateTime} (h : s.isoformat = t.isoformat) : s = t := by
  simp only [isoformat, String.ofList_inj] at h
  obtain ⟨hd, h⟩ := append_cons_inj (dateText_no_T _) (dateText_no_T _) h
  have hday := dateText_inj hd
  simp only [timeText, List.append_assoc, List.cons_append] at h
  obtain ⟨h1, h⟩ := List.append_inj h (by simp)
  simp only [List.cons.injEq, true_and] at h
  obtain ⟨h2, h⟩ := List.append_inj h (by simp)
  simp only [List.cons.injEq, true_and] at h
  obtain ⟨h3, h⟩ := List.append_inj h (by simp)
  obtain ⟨h4, h5⟩ := fraction_offset_inj (by omega) (by omega) h
  have ho := offsetText_inj s.offset_lt t.offset_lt h5
  have ls : s.wallMicros < 86400000000 := by simp only [wallMicros]; omega
  have lt : t.wallMicros < 86400000000 := by simp only [wallMicros]; omega
  have e1 := pad_inj 2 (by omega) (by omega) h1
  have e2 := pad_inj 2 (by omega) (by omega) h2
  have e3 := pad_inj 2 (by omega) (by omega) h3
  have hm : s.wallMicros = t.wallMicros := by omega
  simp only [wallMicros, wallDay, wall] at hm hday
  exact DateTime.ext' (by omega) ho

@[simp] theorem isoformat_inj {s t : DateTime} : s.isoformat = t.isoformat ↔ s = t :=
  ⟨isoformat_injective, fun h => h ▸ rfl⟩

theorem time_no_T (x : ℕ) (o : ℤ) : 'T' ∉ timeText x ++ offsetText o := by
  have hp : ∀ w n, 'T' ∉ pad w n := fun w n h => by
    obtain ⟨d, hd⟩ := mem_pad h
    exact digit_ne_T d hd.symm
  simp only [timeText, offsetText, fraction]
  split_ifs <;> simp [hp]

/-- A datetime at the end of a key, behind a colon, can be read back with what
is before it. -/
theorem colon_isoformat_inj {a b : String} {s t : DateTime}
    (h : a ++ ":" ++ s.isoformat = b ++ ":" ++ t.isoformat) : a = b ∧ s = t := by
  have hl := congrArg String.toList h
  simp only [isoformat, String.toList_append, String.toList_ofList] at hl
  have split : ∀ (l d m : List Char), l ++ ":".toList ++ (d ++ 'T' :: m) =
      l ++ ':' :: d ++ 'T' :: m := by
    intro l d m
    simp
  rw [split, split] at hl
  obtain ⟨h1, h2⟩ := append_cons_inj_right (time_no_T _ _) (time_no_T _ _) hl
  obtain ⟨h3, h4⟩ := append_cons_inj_right (dateText_no_colon _) (dateText_no_colon _) h1
  refine ⟨String.toList_inj.mp h3, isoformat_injective ?_⟩
  rw [isoformat, isoformat, h2, h4]

/-- The characters of a text: digits and the marks between the fields. -/
theorem isoformat_chars {P : Char → Prop} (hdigit : ∀ d, P (digit d))
    (hmark : P '-' ∧ P 'T' ∧ P ':' ∧ P '.' ∧ P '+') (t : DateTime) :
    ∀ c ∈ t.isoformat.toList, P c := by
  have hpad : ∀ w n, ∀ c ∈ pad w n, P c := fun w n c hc => by
    obtain ⟨d, rfl⟩ := mem_pad hc
    exact hdigit d
  obtain ⟨hminus, hT, hcolon, hdot, hplus⟩ := hmark
  have hnil : ∀ c ∈ ([] : List Char), P c := fun c hc => by cases hc
  have hfraction : ∀ n, ∀ c ∈ fraction n, P c := fun n => by
    unfold fraction
    split_ifs
    · exact hnil
    · exact List.forall_mem_cons.mpr ⟨hdot, hpad 6 n⟩
  simp only [isoformat, String.toList_ofList, dateText, yearText, timeText, offsetText,
      List.forall_mem_append,
    List.forall_mem_cons, List.cons_append]
  refine ⟨⟨⟨?_, hpad _ _⟩, hminus, hpad _ _, hminus, hpad _ _⟩, hT,
      ⟨⟨⟨hpad _ _, hcolon, hpad _ _⟩, hcolon, hpad _ _⟩,
    hfraction _⟩, ?_, ⟨hpad _ _, hcolon, hpad _ _⟩, ?_⟩
  · split_ifs
    · exact List.forall_mem_cons.mpr ⟨hminus, hnil⟩
    · exact hnil
  · split_ifs
    · exact hminus
    · exact hplus
  · split_ifs
    · exact hnil
    · simp only [List.forall_mem_append, List.forall_mem_cons]
      exact ⟨hcolon, hpad _ _, hfraction _⟩

example : (utc 1704067200000000).isoformat = "2024-01-01T00:00:00+00:00" := by decide

end DateTime
end TemperatureMonitor
