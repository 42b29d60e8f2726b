/-
**Reading whole numbers.** A numeral is one or more ASCII digits, with an optional sign in front
where the caller allows one. Numbers outside the caller's range are not read.
-/

import Skirmish.Number

namespace Skirmish.Text

/-- The value of an ASCII digit. -/
def digitValue (c : Char) : Nat := c.toNat - 48

/-- The number that the digits continue, when all of them are digits. -/
def digitsFrom? (start : Nat) (chars : List Char) : Option Nat :=
  chars.foldlM (fun value c => if c.isDigit then some (10 * value + digitValue c) else none) start

/-- The value of one or more digits. -/
def digitsValue? (chars : List Char) : Option Nat :=
  if chars.isEmpty then none else digitsFrom? 0 chars

/-- A number from zero to `greatest`, with an optional plus sign. -/
def natUpTo? (greatest : Nat) (chars : List Char) : Option Nat := do
  let value ← digitsValue? (match chars with | '+' :: rest => rest | _ => chars)
  if value ≤ greatest then some value else none

/-- An unsigned 32-bit number. -/
def nat? (chars : List Char) : Option Nat := natUpTo? greatestNat chars

/-- A signed 32-bit number, with an optional sign. -/
def int? (chars : List Char) : Option Int := do
  let value ← match chars with
    | '+' :: rest => (digitsValue? rest).map Int.ofNat
    | '-' :: rest => (digitsValue? rest).map fun value => -(value : Int)
    | _ => (digitsValue? chars).map Int.ofNat
  if FitsInt value then some value else none

end Skirmish.Text
