/-!
# Writing integers

Integers are written in decimal digits, but not with any number of them: an integer that needs more
digits than a numeral may have is not written at all, and whatever was to show it fails.
-/

namespace PerArity.Text

/-- The greatest number of digits a numeral may have. -/
def maxDigits : Nat := 4300

/-- The least number with too many digits. It is a constant of its own so that nothing takes it for
a number to calculate with. -/
@[irreducible] def tooGreat : Nat := Nat.pow 10 maxDigits

/-- An integer has few enough digits to be written. -/
def IsPrintable (n : Int) : Prop := n.natAbs < tooGreat

instance (n : Int) : Decidable (IsPrintable n) := inferInstanceAs (Decidable (_ < _))

/-- The digits of an integer, if they can be written. -/
def decimal? (n : Int) : Option String := if IsPrintable n then some (toString n) else none

/-- The wording of the failure to write an integer, which is the same for all of them. -/
def digitLimitMessage : String :=
  "Exceeds the limit (4300 digits) for integer string conversion; " ++
    "use sys.set_int_max_str_digits() to increase the limit"

theorem pow_le_tooGreat {digits : Nat} (h : digits ≤ maxDigits) :
    Nat.pow 10 digits ≤ tooGreat := by
  have hpow : ∀ n, digits ≤ n → Nat.pow 10 digits ≤ Nat.pow 10 n :=
    fun _ hn ↦ Nat.pow_le_pow_right (show 0 < 10 by decide) hn
  unfold tooGreat
  exact hpow maxDigits h

theorem thousand_le_tooGreat : 1000 ≤ tooGreat := pow_le_tooGreat (show 3 ≤ maxDigits by decide)

theorem isPrintable_of_natAbs_lt {n : Int} (h : n.natAbs < 1000) : IsPrintable n :=
  Nat.lt_of_lt_of_le h thousand_le_tooGreat

theorem not_isPrintable_tooGreat : ¬IsPrintable tooGreat := Nat.lt_irrefl _

theorem isPrintable_neg {n : Int} : IsPrintable (-n) ↔ IsPrintable n := by
  rw [IsPrintable, IsPrintable, Int.natAbs_neg]

theorem decimal?_eq_some {n : Int} (h : IsPrintable n) : decimal? n = some (toString n) := by
  rw [decimal?, if_pos h]

theorem decimal?_eq_none {n : Int} (h : ¬IsPrintable n) : decimal? n = none := by
  rw [decimal?, if_neg h]

end PerArity.Text
