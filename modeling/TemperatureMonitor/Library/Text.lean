/-
# Texts, as Python reads them

`strip` takes the blanks off both ends, `blank` says that nothing else is
left. The blanks are those of `str.isspace`. A key is a text of fields with a
colon between them: a field without a colon can be read back from either end
of a key (`colon_prefix_inj`, `colon_suffix_inj`).
-/
import Mathlib.Data.List.DropRight
import Mathlib.Data.String.Basic

namespace TemperatureMonitor

/-- `str.isspace` of one character. -/
def isSpace (c : Char) : Bool :=
  (9 ≤ c.toNat && c.toNat ≤ 13) || (28 ≤ c.toNat && c.toNat ≤ 32) || c.toNat == 0x85 ||
    c.toNat == 0xA0 || c.toNat == 0x1680 || (0x2000 ≤ c.toNat && c.toNat ≤ 0x200A) ||
    c.toNat == 0x2028 || c.toNat == 0x2029 || c.toNat == 0x202F || c.toNat == 0x205F ||
    c.toNat == 0x3000

/-- `value.strip()`. -/
def strip (s : String) : String :=
  String.ofList ((s.toList.dropWhile isSpace).reverse.dropWhile isSpace).reverse

/-- `not value.strip()`. -/
def blank (s : String) : Bool := strip s == ""

/-- `str.upper` on ASCII. -/
def asciiUpper (s : String) : String :=
  String.ofList (s.toList.map fun c => if 97 ≤ c.toNat ∧
    c.toNat ≤ 122 then Char.ofNat (c.toNat - 32) else c)

/-- `str.lower` on ASCII. -/
def asciiLower (s : String) : String :=
  String.ofList (s.toList.map fun c => if 65 ≤ c.toNat ∧
    c.toNat ≤ 90 then Char.ofNat (c.toNat + 32) else c)

/-- The truth value of an optional text: present and not empty. -/
def truthy (s : Option String) : Bool := s.any (· ≠ "")

/-- A text without blanks is its own `strip`. -/
theorem strip_eq {s : String} (h : ∀ c ∈ s.toList, isSpace c = false) : strip s = s := by
  have hdrop : ∀ l : List Char, (∀ c ∈ l, isSpace c = false) →
      l.dropWhile isSpace = l := fun l hl => by
    cases l with
    | nil => rfl
    | cons c rest =>
      rw [List.dropWhile_cons_of_neg]
      simp [hl c List.mem_cons_self]
  unfold strip
  rw [hdrop _ h, hdrop _ fun c hc =>
    h c (List.mem_reverse.mp hc), List.reverse_reverse, String.ofList_toList]

/-- What is stripped has no blanks left at its ends. -/
@[simp] theorem strip_strip (s : String) : strip (strip s) = strip s := by
  have hfirst (l : List Char) :
      ((l.dropWhile isSpace).rdropWhile isSpace).dropWhile isSpace =
        (l.dropWhile isSpace).rdropWhile isSpace := by
    obtain ⟨cut, hcut⟩ := List.rdropWhile_prefix isSpace (l := l.dropWhile isSpace)
    cases hrest : (l.dropWhile isSpace).rdropWhile isSpace with
    | nil => rfl
    | cons c cs =>
      have hc : isSpace c = false := by
        have h := List.head?_dropWhile_not isSpace l
        rw [← hcut, hrest] at h
        simpa using h
      rw [List.dropWhile_cons_of_neg (by simp [hc])]
  have hstrip (s : String) :
      strip s = String.ofList ((s.toList.dropWhile isSpace).rdropWhile isSpace) := rfl
  rw [hstrip (strip s), hstrip s, String.toList_ofList, hfirst, List.rdropWhile_idempotent]

/-- A text with a character that is no blank is not blank. -/
theorem not_blank {s : String} {c : Char} (hc : c ∈ s.toList) (hs : isSpace c = false) :
    blank s = false := by
  unfold blank strip
  rw [beq_eq_false_iff_ne]
  intro h
  have hnil := congrArg String.toList h
  simp only [String.toList_ofList, String.toList_empty, List.reverse_eq_nil_iff,
      List.dropWhile_eq_nil_iff,
    List.mem_reverse] at hnil
  have hspace : isSpace c = true := by
    rw [← List.takeWhile_append_dropWhile (p := isSpace) (l := s.toList)] at hc
    rcases List.mem_append.mp hc with hc | hc
    · exact List.mem_takeWhile_imp hc
    · exact hnil c hc
  rw [hs] at hspace
  cases hspace

/-- A digit of `uuid4().hex`. -/
def isHex (c : Char) : Bool := (48 ≤ c.toNat && c.toNat ≤ 57) || (97 ≤ c.toNat && c.toNat ≤ 102)

theorem isHex_not_space {c : Char} (h : isHex c = true) : isSpace c = false := by
  simp only [isHex, isSpace, Bool.or_eq_true, Bool.and_eq_true, decide_eq_true_eq,
      Bool.or_eq_false_iff,
    Bool.and_eq_false_iff, decide_eq_false_iff_not, beq_eq_false_iff_ne] at h ⊢
  omega

example : strip " TH-01\t" = "TH-01" ∧ blank " \u3000" = true := by decide

/-! ### Keys of fields -/

/-- The text before the first separator and the text after it. -/
theorem append_cons_inj {c : Char} : ∀ {a b a' b' : List Char}, c ∉ a → c ∉ a' →
    a ++ c :: b = a' ++ c :: b' → a = a' ∧ b = b'
  | [], _, [], _, _, _, h => ⟨rfl, (List.cons.inj h).2⟩
  | [], _, x :: _, _, _, h', h => absurd ((List.cons.inj h).1 ▸ List.mem_cons_self) h'
  | x :: _, _, [], _, h', _, h => absurd ((List.cons.inj h).1 ▸ List.mem_cons_self) h'
  | x :: a, b, y :: a', b', h1, h2, h => by
    obtain ⟨rfl, htail⟩ := List.cons.inj h
    obtain ⟨rfl, hb⟩ := append_cons_inj (fun hc => h1 (List.mem_cons_of_mem _ hc))
      (fun hc => h2 (List.mem_cons_of_mem _ hc)) htail
    exact ⟨rfl, hb⟩

/-- The text before the last separator and the text after it. -/
theorem append_cons_inj_right {c : Char} {a b a' b' : List Char} (hb : c ∉ b) (hb' : c ∉ b')
    (h : a ++ c :: b = a' ++ c :: b') : a = a' ∧ b = b' := by
  have hrev := congrArg List.reverse h
  simp only [List.reverse_append, List.reverse_cons, List.append_assoc,
    List.singleton_append] at hrev
  obtain ⟨h1, h2⟩ := append_cons_inj (by simpa using hb) (by simpa using hb') hrev
  exact ⟨List.reverse_injective h2, List.reverse_injective h1⟩

section Colon

variable {a b x y : String}

private theorem colon_toList (a x : String) :
    (a ++ ":" ++ x).toList = a.toList ++ ':' :: x.toList := by
  simp [String.toList_append]

theorem colon_prefix_inj (ha : ':' ∉ a.toList) (hb : ':' ∉ b.toList)
    (h : a ++ ":" ++ x = b ++ ":" ++ y) : a = b ∧ x = y := by
  have hl := congrArg String.toList h
  rw [colon_toList, colon_toList] at hl
  obtain ⟨h1, h2⟩ := append_cons_inj ha hb hl
  exact ⟨String.toList_inj.mp h1, String.toList_inj.mp h2⟩

theorem colon_suffix_inj (hx : ':' ∉ x.toList) (hy : ':' ∉ y.toList)
    (h : a ++ ":" ++ x = b ++ ":" ++ y) : a = b ∧ x = y := by
  have hl := congrArg String.toList h
  rw [colon_toList, colon_toList] at hl
  obtain ⟨h1, h2⟩ := append_cons_inj_right hx hy hl
  exact ⟨String.toList_inj.mp h1, String.toList_inj.mp h2⟩

/-- A key written with its first field and the colon in one literal. -/
theorem literal_key {field rest key : String} (literal : String) (hl : literal = field ++ ":")
    (hk : key = literal ++ rest) : key = field ++ ":" ++ rest := by
  rw [hk, hl]

end Colon

end TemperatureMonitor
