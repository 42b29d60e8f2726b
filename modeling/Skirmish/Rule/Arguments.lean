/-
**Arguments of rules**: named texts that a rule table passes to the effect of a rule.
-/

import Skirmish.Error
import Skirmish.NameMap
import Skirmish.Text.Case
import Skirmish.Text.Numeral

namespace Skirmish

/-- Named texts. -/
abbrev Arguments := NameMap String

namespace Arguments

/-- An argument that must be there. -/
def require (arguments : Arguments) (name : String) : Except Error String :=
  match arguments.get? name with
  | some value => .ok value
  | none => .error (.invalidArguments s!"missing argument '{name}'")

/-- An argument read by `read`, if it is there. -/
def parse {α : Type} (arguments : Arguments) (name : String) (read : List Char → Option α) :
    Except Error (Option α) :=
  match arguments.get? name with
  | none => .ok none
  | some raw =>
    match read raw.toList with
    | some value => .ok (some value)
    | none => .error (.invalidArguments s!"bad value '{raw}' for '{name}'")

end Arguments

/-- Whom an effect lands on. -/
inductive Recipient where
  /-- The target. -/
  | target
  /-- Whoever acts. -/
  | actor
deriving DecidableEq, Repr

/-- The recipient that the argument `target` names: `self` for whoever acts. -/
def Recipient.ofArguments (arguments : Arguments) : Recipient :=
  match arguments.get? "target" with
  | some value => if Text.sameName value "self" then .actor else .target
  | none => .target

end Skirmish
