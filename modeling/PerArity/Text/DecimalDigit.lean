import PerArity.Text.CharRange

/-!
# Decimal digits of all scripts

Unicode encodes the ten decimal digits of a script consecutively and in order, so the class is given
by the digits zero alone. Numerals on the command line and numeric field names of templates are read
with this class.
-/

namespace PerArity.Text

/-- The code point of the digit zero, one for each script. -/
def digitZeros : List Nat :=
  [0x30, 0x660, 0x6F0, 0x7C0, 0x966, 0x9E6, 0xA66, 0xAE6, 0xB66, 0xBE6, 0xC66, 0xCE6, 0xD66, 0xDE6,
    0xE50, 0xED0, 0xF20, 0x1040, 0x1090, 0x17E0, 0x1810, 0x1946, 0x19D0, 0x1A80, 0x1A90, 0x1B50,
    0x1BB0, 0x1C40, 0x1C50, 0xA620, 0xA8D0, 0xA900, 0xA9D0, 0xA9F0, 0xAA50, 0xABF0, 0xFF10, 0x104A0,
    0x10D30, 0x11066, 0x110F0, 0x11136, 0x111D0, 0x112F0, 0x11450, 0x114D0, 0x11650, 0x116C0,
    0x11730, 0x118E0, 0x11950, 0x11C50, 0x11D50, 0x11DA0, 0x16A60, 0x16AC0, 0x16B50, 0x1D7CE,
    0x1D7D8, 0x1D7E2, 0x1D7EC, 0x1D7F6, 0x1E140, 0x1E2F0, 0x1E950, 0x1FBF0]

/-- The digit at distance less than ten after the zero `z`. -/
private def digitAfter? (z n : Nat) : Option Nat :=
  if z ≤ n ∧ n < z + 10 then some (n - z) else none

/-- The value of a decimal digit, and nothing for any other character. -/
def digitValue? (c : Char) : Option Nat := digitZeros.findSome? (digitAfter? · c.toNat)

/-- Whether a character is a decimal digit of some script. -/
def isDecimal (c : Char) : Bool := (digitValue? c).isSome

theorem digitValue?_lt {c : Char} {d : Nat} (h : digitValue? c = some d) : d < 10 := by
  obtain ⟨z, -, hz⟩ := List.exists_of_findSome?_eq_some h
  simp only [digitAfter?, Option.ite_none_right_eq_some, Option.some.injEq] at hz
  omega

theorem isDigit_or_eq_dash_of_mem_int {n : Int} {c : Char} (h : c ∈ (toString n).toList) :
    c.isDigit = true ∨ c = '-' := by
  have hnat : ∀ m : Nat, c ∈ m.repr.toList → c.isDigit = true := by
    intro m hc
    rw [Nat.toList_repr] at hc
    exact Nat.isDigit_of_mem_toDigits (by decide) (by decide) hc
  rw [Int.toString_eq_repr, Int.repr_eq_if] at h
  split at h
  · exact .inl (hnat _ h)
  · rw [String.toList_append, List.mem_append] at h
    rcases h with hdash | hdigit
    · exact .inr (List.mem_singleton.mp hdash)
    · exact .inl (hnat _ hdigit)

end PerArity.Text
