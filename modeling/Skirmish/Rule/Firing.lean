/-
**A rule that fires**: the text, and what the rule's pattern found in it.
-/

import Skirmish.Error
import Skirmish.Text.Blank
import Skirmish.Pattern.Search
import Skirmish.Text.Numeral

namespace Skirmish

/-- A rule together with the text it fires on. -/
structure Firing where
  rule : String
  text : String
  finding : Finding
deriving DecidableEq, Repr

namespace Firing

/-- The stretch under a name, if it took part. -/
def named? (firing : Firing) (name : String) : Option String := firing.finding.group? name

/-- The stretch under a name, which must be there. -/
def require (firing : Firing) (name : String) : Except Error String :=
  match firing.named? name with
  | some value => .ok value
  | none => .error (.malformedCapture firing.rule name)

/-- The stretch under a name as a whole number, where it took part. -/
def int? (firing : Firing) (name : String) : Except Error (Option Int) :=
  match firing.named? name with
  | none => .ok none
  | some raw =>
    match Text.int? (Text.trimChars raw.toList) with
    | some value => .ok (some value)
    | none => .error (.malformedCapture firing.rule name)

/-- The whole number under a name, or another one where it took no part. -/
def intOr (firing : Firing) (name : String) (default : Int) : Except Error Int :=
  return (← firing.int? name).getD default

/-- The natural number under a name; negative numbers count as zero. -/
def natOr (firing : Firing) (name : String) (default : Int) : Except Error Nat :=
  return (← firing.intOr name default).toNat

/-- The text contains another one, in any case. -/
def mentions (firing : Firing) (needle : String) : Bool :=
  Text.occursIn (Text.lowerChars needle.toList) (Text.lowerChars firing.text.toList)

end Firing

end Skirmish
