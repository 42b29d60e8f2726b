/-
**Looking things up by name.** What a text names, or the refusal that shows the text as it was
looked up.
-/

import Skirmish.Dice.Formula
import Skirmish.Error
import Skirmish.Pool

namespace Skirmish

/-- The stat that a text names. -/
def Stat.named (text : String) : Except Error Stat :=
  match Stat.parse? text with
  | some stat => .ok stat
  | none => .error (.unknownStat (Text.trim text))

/-- The pool that a text names. -/
def Pool.named (text : String) : Except Error Pool :=
  match Pool.parse? text with
  | some pool => .ok pool
  | none => .error (.unknownPool (Pool.lookupName text))

/-- The dice formula that a text writes. -/
def DiceFormula.written (text : String) : Except Error DiceFormula :=
  match DiceFormula.parse? text with
  | some formula => .ok formula
  | none => .error (.invalidDice text)

end Skirmish
