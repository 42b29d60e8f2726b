/-
**Dice formulas** such as `2d6+3`, `d8` or a flat `4`.

* `DiceFormula.parse?` passes over blanks and case. A formula has at most a hundred dice of at most
  a thousand sides.
* A total is never below zero.
-/

import Skirmish.Dice.Basic
import Skirmish.Number

namespace Skirmish

/-- A number of equal dice and a bonus. No dice stand for the bonus alone. -/
structure DiceFormula where
  count : Nat
  die : Die
  bonus : Int
deriving DecidableEq, Repr

namespace DiceFormula

/-- The most dice of a formula. -/
def mostDice : Nat := 100

/-- The most sides of its die. -/
def mostSides : Nat := 1000

/-- A flat amount. -/
def flat (value : Int) : DiceFormula := ⟨0, .d6, value⟩

/-- Dice without a bonus. -/
def dice (count : Nat) (die : Die) : DiceFormula := ⟨count, die, 0⟩

/-- A formula with a greater bonus. -/
def plus (formula : DiceFormula) (bonus : Int) : DiceFormula :=
  { formula with bonus := saturatingAdd formula.bonus bonus }

/-- The formula of dice before and after their letter. -/
def ofParts? (countPart rest : List Char) : Option DiceFormula := do
  let count ← if countPart.isEmpty then some 1 else Text.nat? countPart
  let isSign := fun c : Char => c == '+' || c == '-'
  let sidesPart := rest.takeWhile (!isSign ·)
  let bonusPart := rest.dropWhile (!isSign ·)
  let sides ← Text.nat? sidesPart
  let bonus ← if bonusPart.isEmpty then some 0 else Text.int? bonusPart
  if count ≤ mostDice ∧ 1 ≤ sides ∧ sides ≤ mostSides then some ⟨count, .withSides sides, bonus⟩
  else none

/-- The characters of a formula that count: no blanks, and all in lower case. -/
def compact (text : String) : List Char := Text.lowerChars (Text.withoutBlanks text.toList)

/-- The formula that a text writes. -/
def parse? (text : String) : Option DiceFormula :=
  let chars := compact text
  let countPart := chars.takeWhile (· != 'd')
  match chars.drop countPart.length with
  | [] => (Text.int? chars).map flat
  | _ :: rest => ofParts? countPart rest

/-- A formula as it is shown. -/
def text (formula : DiceFormula) : String :=
  if formula.count = 0 then toString formula.bonus
  else
    let dice := s!"{formula.count}{formula.die.text}"
    if formula.bonus = 0 then dice
    else if 0 < formula.bonus then s!"{dice}+{formula.bonus}"
    else s!"{dice}{formula.bonus}"

/-- The total of some faces. -/
def total (formula : DiceFormula) (faces : List Nat) : Int :=
  max (saturate ((faces.foldr (· + ·) 0 : Nat) + formula.bonus)) 0

/-- The least that dice and bonus add up to. -/
def least (formula : DiceFormula) : Int := saturate (formula.count + formula.bonus)

/-- The most that dice and bonus add up to. -/
def greatest (formula : DiceFormula) : Int :=
  saturate (formula.count * formula.die.sides + formula.bonus)

/-- The faces of all dice, and the supply after them. -/
def faces (formula : DiceFormula) (supply : Dice) : List Nat × Dice :=
  supply.drawMany formula.die.sides formula.count

/-- A roll as it is shown. -/
def rollText (formula : DiceFormula) (faces : List Nat) : String :=
  let shown := ", ".intercalate (faces.map toString)
  s!"{formula.text} [{shown}] = {formula.total faces}"

end DiceFormula

end Skirmish
