import PerArity.Text.Numeral
import Mathlib.Data.List.TakeWhile
import Mathlib.Data.Nat.Digits.Defs

/-!
# Decimal numerals

The usual way to write an integer is one of the many numerals that are read: a minus sign or none,
and then at least one of the ten digits `0` to `9`, at most as many as a numeral may have. Leading
zeros are allowed, so an integer is written in more than one way.

Such a numeral is read as the integer it writes (`Decimal.readInt?_text`). What is read of any
numeral can be written (`Text.isPrintable_of_readInt?`), since the limit on the digits is the same.
With a minus sign it is a negative number where arguments are told from flags
(`Decimal.isNegativeNumber_digitChars`).
-/

namespace PerArity

/-- An integer in decimal. -/
structure Decimal where
  /-- Whether a minus sign stands before the digits. -/
  negative : Bool
  /-- The digits, the most significant first. -/
  digits : List (Fin 10)
  /-- There is a digit. -/
  digits_ne_nil : digits ≠ []
  /-- There are no more digits than a numeral may have. -/
  length_le : digits.length ≤ Text.maxDigits

namespace Decimal

/-- The characters of the digits. -/
def digitChars (d : Decimal) : List Char := d.digits.map fun i : Fin 10 ↦ Nat.digitChar i

/-- The characters of the numeral. -/
def chars (d : Decimal) : List Char :=
  if d.negative then '-' :: d.digitChars else d.digitChars

/-- The numeral. -/
def text (d : Decimal) : String := String.ofList d.chars

/-- The number that the digits write. -/
def magnitude (d : Decimal) : Nat := Nat.ofDigits 10 (d.digits.map Fin.val).reverse

/-- The integer that the numeral writes. -/
def value (d : Decimal) : Int := if d.negative then -(d.magnitude : Int) else d.magnitude

end Decimal

namespace Text

/-! ## Digits -/

theorem digitValue?_digitChar (i : Fin 10) : digitValue? (Nat.digitChar i) = some i.val := by
  revert i
  decide

/-- A digit is no sign, no underscore, no equals sign and nothing that may surround a numeral. -/
theorem digitChar_ne (i : Fin 10) : Nat.digitChar i ≠ '-' ∧ Nat.digitChar i ≠ '+' ∧
    Nat.digitChar i ≠ '_' ∧ Nat.digitChar i ≠ '=' ∧ isNumeralBlank (Nat.digitChar i) = false := by
  revert i
  decide

theorem moreDigits?_map_digitChar (is : List (Fin 10)) :
    moreDigits? (is.map fun i : Fin 10 ↦ Nat.digitChar i) = some (is.map Fin.val) := by
  induction is with
  | nil => rfl
  | cons i is ih =>
    rw [List.map_cons, moreDigits?, ih, digitValue?_digitChar]
    · rfl
    · intro c rest heq
      exact absurd heq (digitChar_ne i).2.2.1

theorem digits?_map_digitChar {is : List (Fin 10)} (h : is ≠ []) :
    digits? (is.map fun i : Fin 10 ↦ Nat.digitChar i) = some (is.map Fin.val) := by
  obtain ⟨i, rest, rfl⟩ := List.exists_cons_of_ne_nil h
  rw [List.map_cons, digits?, moreDigits?_map_digitChar, digitValue?_digitChar]
  rfl

theorem ofDigits_eq (ds : List Nat) : ofDigits ds = Nat.ofDigits 10 ds.reverse := by
  rw [ofDigits, Nat.ofDigits_eq_foldr, List.foldr_reverse]
  congr 1
  funext n d
  exact Nat.add_comm _ _

theorem trim_eq_self {p : Char → Bool} {s : List Char} (h : ∀ c ∈ s, p c = false) :
    dropTrailing p (s.dropWhile p) = s := by
  have hfront : s.dropWhile p = s :=
    List.dropWhile_eq_self_iff.mpr fun hl ↦ Bool.eq_false_iff.mp (h _ (List.getElem_mem hl))
  have hback : s.reverse.dropWhile p = s.reverse :=
    List.dropWhile_eq_self_iff.mpr fun hl ↦
      Bool.eq_false_iff.mp (h _ (List.mem_reverse.mp (List.getElem_mem hl)))
  rw [hfront, dropTrailing, hback, List.reverse_reverse]

/-! ## The limit on the digits -/

private theorem moreDigits?_lt (s : List Char) :
    ∀ {ds : List Nat}, moreDigits? s = some ds → ∀ d ∈ ds, d < 10 := by
  -- the recursion takes one digit at a time, with or without an underscore before it
  fun_induction moreDigits? s with
  | case1 =>
    intro ds h
    obtain rfl := Option.some.inj h
    exact List.forall_mem_nil _
  | case2 c rest ih | case3 c rest hplain ih =>
    intro ds h
    obtain ⟨d, hd, h⟩ := Option.bind_eq_some_iff.mp h
    obtain ⟨ds, hds, h⟩ := Option.bind_eq_some_iff.mp h
    obtain rfl := Option.some.inj h
    exact List.forall_mem_cons.mpr ⟨digitValue?_lt hd, ih hds⟩

theorem digits?_lt {s : List Char} {ds : List Nat} (h : digits? s = some ds) :
    ∀ d ∈ ds, d < 10 := by
  cases s with
  | nil => cases h
  | cons c rest =>
    obtain ⟨d, hd, h⟩ := Option.bind_eq_some_iff.mp h
    obtain ⟨ds, hds, h⟩ := Option.bind_eq_some_iff.mp h
    obtain rfl := Option.some.inj h
    exact List.forall_mem_cons.mpr ⟨digitValue?_lt hd, moreDigits?_lt rest hds⟩

theorem natOfChars?_lt {s : List Char} {n : Nat} (h : natOfChars? s = some n) : n < tooGreat := by
  obtain ⟨ds, hds, h⟩ := Option.bind_eq_some_iff.mp h
  obtain ⟨hlength, heq⟩ := Option.ite_none_right_eq_some.mp h
  obtain rfl := Option.some.inj heq
  rw [ofDigits_eq]
  calc Nat.ofDigits 10 ds.reverse
      < 10 ^ ds.reverse.length := by
        refine Nat.ofDigits_lt_base_pow_length (by decide) fun d hd ↦ ?_
        exact digits?_lt hds d (List.mem_reverse.mp hd)
    _ ≤ tooGreat := by
        rw [List.length_reverse]
        exact pow_le_tooGreat hlength

/-- **What was read can be written**: a numeral has no more digits than an integer may have. -/
theorem isPrintable_of_readInt? {s : String} {n : Int} (h : readInt? s = some n) :
    IsPrintable n := by
  have hsign : ∀ s m, (do return ((← natOfChars? s : Nat) : Int)) = some m → IsPrintable m := by
    intro s m hm
    obtain ⟨k, hk, hm⟩ := Option.bind_eq_some_iff.mp hm
    obtain rfl := Option.some.inj hm
    exact natOfChars?_lt hk
  rw [readInt?, intOfChars?.eq_def] at h
  split at h <;> obtain ⟨m, hm, rfl⟩ := Option.map_eq_some_iff.mp h
  · exact isPrintable_neg.mpr (hsign _ m hm)
  · exact hsign _ m hm
  · exact hsign _ m hm

end Text

namespace Decimal

open Text

@[simp] theorem toList_text (d : Decimal) : d.text.toList = d.chars := String.toList_ofList

theorem digitChars_ne_nil (d : Decimal) : d.digitChars ≠ [] := by
  rw [digitChars, ne_eq, List.map_eq_nil_iff]
  exact d.digits_ne_nil

theorem exists_of_mem_digitChars {d : Decimal} {c : Char} (h : c ∈ d.digitChars) :
    ∃ i : Fin 10, Nat.digitChar i = c := by
  obtain ⟨i, -, heq⟩ := List.mem_map.mp h
  exact ⟨i, heq⟩

theorem eq_or_exists_of_mem_chars {d : Decimal} {c : Char} (h : c ∈ d.chars) :
    c = '-' ∨ ∃ i : Fin 10, Nat.digitChar i = c := by
  rw [chars] at h
  split at h
  · exact (List.mem_cons.mp h).imp_right exists_of_mem_digitChars
  · exact .inr (exists_of_mem_digitChars h)

theorem equals_notMem (d : Decimal) : '=' ∉ d.text.toList := by
  rw [toList_text]
  intro h
  rcases eq_or_exists_of_mem_chars h with heq | ⟨i, heq⟩
  · exact absurd heq (by decide)
  · exact (digitChar_ne i).2.2.2.1 heq

theorem isNumeralBlank_of_mem {d : Decimal} {c : Char} (h : c ∈ d.chars) :
    isNumeralBlank c = false := by
  rcases eq_or_exists_of_mem_chars h with rfl | ⟨i, rfl⟩
  · rfl
  · exact (digitChar_ne i).2.2.2.2

theorem natOfChars?_digitChars (d : Decimal) : natOfChars? d.digitChars = some d.magnitude := by
  have hlength : (d.digits.map Fin.val).length ≤ maxDigits := by
    rw [List.length_map]
    exact d.length_le
  rw [natOfChars?, digitChars, digits?_map_digitChar d.digits_ne_nil, magnitude, ← ofDigits_eq]
  exact if_pos hlength

/-- **A decimal is read as the integer that it writes.** -/
theorem readInt?_text (d : Decimal) : readInt? d.text = some d.value := by
  have htrim : dropTrailing isNumeralBlank (d.chars.dropWhile isNumeralBlank) = d.chars :=
    trim_eq_self fun c hc ↦ isNumeralBlank_of_mem hc
  rw [readInt?, toList_text, htrim, chars, value]
  split
  · rw [intOfChars?, natOfChars?_digitChars]
    rfl
  · -- the first digit is no sign
    have hsign : ∀ c ∈ d.digitChars, c ≠ '-' ∧ c ≠ '+' := by
      intro c hc
      obtain ⟨i, rfl⟩ := exists_of_mem_digitChars hc
      exact ⟨(digitChar_ne i).1, (digitChar_ne i).2.1⟩
    rw [intOfChars?, natOfChars?_digitChars]
    · rfl
    · intro rest heq
      exact (hsign '-' (heq ▸ List.mem_cons_self)).1 rfl
    · intro rest heq
      exact (hsign '+' (heq ▸ List.mem_cons_self)).2 rfl

theorem chars_of_dash {d : Decimal} {rest : List Char} (h : d.chars = '-' :: rest) :
    rest = d.digitChars := by
  rw [chars] at h
  split at h
  · exact (List.cons.inj h).2.symm
  · have hmem : '-' ∈ d.digitChars := h ▸ List.mem_cons_self
    obtain ⟨i, heq⟩ := exists_of_mem_digitChars hmem
    exact absurd heq (digitChar_ne i).1

/-- A minus sign and digits are a negative number. -/
theorem isNegativeNumber_digitChars (d : Decimal) :
    isNegativeNumber ('-' :: d.digitChars) = true := by
  have hdecimal : ∀ c ∈ d.digitChars, isDecimal c = true := by
    intro c hc
    obtain ⟨i, rfl⟩ := exists_of_mem_digitChars hc
    rw [isDecimal, digitValue?_digitChar]
    rfl
  have hbreak : d.digitChars.getLast? ≠ some '\n' := by
    intro h
    have := hdecimal '\n' (List.mem_of_getLast? h)
    revert this
    decide
  rw [isNegativeNumber, dropLineBreak, if_neg hbreak, isMagnitude,
    List.dropWhile_eq_nil_iff.mpr hdecimal]
  simp [d.digitChars_ne_nil]

end Decimal

end PerArity
