/-
**Dice by their sides.** The usual dice have names of their own; any other number of sides is a
custom die.
-/

import Skirmish.Text.Blank
import Skirmish.Text.Case
import Skirmish.Text.Numeral

namespace Skirmish

/-- A die. -/
inductive Die where
  | d4
  | d6
  | d8
  | d10
  | d12
  | d20
  | d100
  | custom (sides : Nat)
deriving DecidableEq, Repr

namespace Die

/-- The number of sides of a die. -/
def sides : Die → Nat
  | d4 => 4
  | d6 => 6
  | d8 => 8
  | d10 => 10
  | d12 => 12
  | d20 => 20
  | d100 => 100
  | custom sides => sides

/-- The die with a number of sides, a usual one where there is one. -/
def withSides : Nat → Die
  | 4 => d4
  | 6 => d6
  | 8 => d8
  | 10 => d10
  | 12 => d12
  | 20 => d20
  | 100 => d100
  | sides => custom sides

@[simp] theorem sides_withSides (count : Nat) : (withSides count).sides = count := by
  unfold withSides
  split <;> rfl

/-- A die as it is shown. -/
def text (die : Die) : String := s!"d{die.sides}"

/-- The die of a tag such as `d20`; at least one side. -/
def parse? (text : String) : Option Die := do
  match Text.lowerChars (Text.trimChars text.toList) with
  | 'd' :: digits =>
    let sides ← Text.nat? digits
    if 1 ≤ sides then some (withSides sides) else none
  | _ => none

end Die

end Skirmish
