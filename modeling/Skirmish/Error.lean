/-
**What can go wrong.** Every refusal of the library is one of these causes; `Error.message` puts it
into words. What is wrong with a pattern or a configuration is not told.
-/

import Skirmish.Cell
import Skirmish.CombatantId

namespace Skirmish

/-- The causes of a refusal. -/
inductive Error where
  /-- The combatant is not on the battlefield. -/
  | combatantNotFound (id : CombatantId)
  /-- A combatant of that identity is already there. -/
  | duplicateCombatant (id : CombatantId)
  /-- A living combatant holds the cell. -/
  | cellOccupied (cell : Cell)
  /-- The cell is a wall or off the map. -/
  | notWalkable (cell : Cell)
  | unknownStat (text : String)
  | unknownPool (text : String)
  | notStarted
  | alreadyStarted
  | noCombatants
  | combatOver
  | clashPending
  | noClashPending
  | notYourTurn (name : String)
  | actionUsed (name : String)
  | alreadyMoved (name : String)
  | incapacitated (name : String)
  | illegalMove (goal : Cell) (reason : String)
  | invalidTarget (name : String)
  /-- A rule needs a target and there is none. -/
  | missingTarget
  /-- A rule cannot use what its pattern captured under a name. -/
  | malformedCapture (rule group : String)
  | invalidDice (text : String)
  | invalidPattern
  | unknownHandler (name : String)
  | invalidArguments (reason : String)
  | invalidConfig
deriving DecidableEq, Repr

namespace Error

/-- An error in words. -/
def message : Error → String
  | combatantNotFound id => s!"combatant not found: {id.short}"
  | duplicateCombatant id => s!"combatant already present: {id.short}"
  | cellOccupied cell => s!"cell {cell.text} is occupied"
  | notWalkable cell => s!"cell {cell.text} is not walkable"
  | unknownStat text => s!"unknown stat: {text}"
  | unknownPool text => s!"unknown pool: {text}"
  | notStarted => "combat has not started"
  | alreadyStarted => "combat has already started"
  | noCombatants => "no combatants on the battlefield"
  | combatOver => "combat is over"
  | clashPending => "a clash is pending"
  | noClashPending => "no clash is pending"
  | notYourTurn name => s!"it is not {name}'s turn"
  | actionUsed name => s!"{name} has already acted this turn"
  | alreadyMoved name => s!"{name} has already moved this turn"
  | incapacitated name => s!"{name} cannot act"
  | illegalMove goal reason => s!"cannot move to {goal.text}: {reason}"
  | invalidTarget name => s!"invalid target: {name}"
  | missingTarget => "effect needs a target"
  | malformedCapture rule group => s!"rule '{rule}' has no usable capture '{group}'"
  | invalidDice text => s!"invalid dice expression: {text}"
  | invalidPattern => "invalid rule pattern"
  | unknownHandler name => s!"unknown handler: {name}"
  | invalidArguments reason => s!"invalid handler arguments: {reason}"
  | invalidConfig => "invalid config"

end Error

end Skirmish
