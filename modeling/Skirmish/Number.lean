/-
**Thirty-two bit numbers.** Scores, pools and totals are integers of the signed 32-bit range. Sums that
are meant to grow stop at its ends (`saturate`). Plain sums and products keep their low 32 bits (`wrap`);
where overflow is checked for, the program stops at those that do not fit.

* `saturate_of_fits`, `wrap_of_fits`: a number in range is left alone.
* `saturate_fits`, `wrap_fits`: the result is always in range.
* `saturate_mono`: a greater number is never moved below a lesser one.
-/

namespace Skirmish

/-- The least signed 32-bit number. -/
def leastInt : Int := -2147483648

/-- The greatest signed 32-bit number. -/
def greatestInt : Int := 2147483647

/-- The greatest unsigned 32-bit number. -/
def greatestNat : Nat := 4294967295

/-- A number that signed 32 bits can hold. -/
def FitsInt (n : Int) : Prop := leastInt ≤ n ∧ n ≤ greatestInt

instance (n : Int) : Decidable (FitsInt n) := inferInstanceAs (Decidable (_ ∧ _))

/-- `n` moved to the nearest end of the 32-bit range when it lies outside. -/
def saturate (n : Int) : Int := max leastInt (min n greatestInt)

/-- What 32 bits keep of the result of a plain sum or product: they wrap around. -/
def wrap (n : Int) : Int := (n - leastInt) % 4294967296 + leastInt

/-- What 32 bits keep of the result of a plain product without sign. -/
def wrapNat (n : Nat) : Nat := n % (greatestNat + 1)

/-- Addition that stops at the ends of the range. -/
def saturatingAdd (a b : Int) : Int := saturate (a + b)

/-- `n` brought between `low` and `high`. -/
def clamp (low high n : Int) : Int := max low (min n high)

theorem saturate_of_fits {n : Int} (fits : FitsInt n) : saturate n = n := by
  unfold FitsInt leastInt greatestInt at fits
  unfold saturate leastInt greatestInt
  omega

theorem saturate_fits (n : Int) : FitsInt (saturate n) := by
  unfold FitsInt saturate leastInt greatestInt
  omega

theorem saturate_nonneg_iff {n : Int} : 0 ≤ saturate n ↔ 0 ≤ n := by
  unfold saturate leastInt greatestInt
  omega

theorem saturate_mono {m n : Int} (le : m ≤ n) : saturate m ≤ saturate n := by
  unfold saturate
  omega

theorem wrap_of_fits {n : Int} (fits : FitsInt n) : wrap n = n := by
  unfold FitsInt leastInt greatestInt at fits
  unfold wrap leastInt
  omega

theorem wrap_fits (n : Int) : FitsInt (wrap n) := by
  unfold FitsInt wrap leastInt greatestInt
  omega

end Skirmish
