/-
**Hexadecimal digits.**

* `hexDigits` writes a fixed number of digits, in lower case (`length_hexDigits`).
* `hexNumber?` reads digits of either case.
* `hexValue?_hexDigit`: a written digit reads back.
-/

namespace Skirmish.Text

/-- The hexadecimal digit of a value below sixteen. -/
def hexDigit (value : Nat) : Char :=
  Char.ofNat (if value < 10 then 48 + value else 87 + value)

/-- The value of a hexadecimal digit. -/
def hexValue? (c : Char) : Option Nat :=
  if c.isDigit then some (c.toNat - 48)
  else if 'a' ≤ c ∧ c ≤ 'f' then some (c.toNat - 87)
  else if 'A' ≤ c ∧ c ≤ 'F' then some (c.toNat - 55)
  else none

/-- The last `count` hexadecimal digits of a number. -/
def hexDigits : (count value : Nat) → List Char
  | 0, _ => []
  | count + 1, value => hexDigits count (value / 16) ++ [hexDigit (value % 16)]

/-- The number that hexadecimal digits write. -/
def hexNumber? (chars : List Char) : Option Nat :=
  chars.foldlM (fun value c => (hexValue? c).map (16 * value + ·)) 0

theorem length_hexDigits (count value : Nat) : (hexDigits count value).length = count := by
  induction count generalizing value with
  | zero => rfl
  | succ count ih => simp [hexDigits, ih]

theorem hexValue?_hexDigit {value : Nat} (small : value < 16) :
    hexValue? (hexDigit value) = some value := by
  have all : ∀ value : Fin 16, hexValue? (hexDigit value) = some value.val := by decide
  exact all ⟨value, small⟩

end Skirmish.Text
