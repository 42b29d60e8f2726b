/-
**A running fight**: the battlefield, the dice, the order of turns, and what has been recorded. The
rule table, the constants, the texts of the combatants and the consequences of clashes stay as they
are.

* `Fight` is a step of a fight that may be refused. What it did before it was refused stays.
* A fight ends as soon as at most one team has a living member.
-/

import Skirmish.Combat.Report
import Skirmish.Rule.Table
import Skirmish.SourceBook
import Skirmish.TurnOrder

namespace Skirmish

/-- Where a fight stands. -/
inductive CombatState where
  /-- Combatants may join; nobody acts yet. -/
  | setup
  /-- Turns are taken. -/
  | active
  /-- A tied attack waits for its contest. -/
  | clash (pending : PendingClash)
  /-- At most one team is left. -/
  | finished (winner : Option String)
deriving DecidableEq, Repr

/-- A fight. -/
structure Combat where
  rules : RuleTable
  config : Config
  sources : SourceBook
  clashTable : ClashTable
  field : Battlefield
  dice : Dice
  order : TurnOrder := .empty
  /-- Rounds count from one; zero before the start. -/
  round : Nat := 0
  state : CombatState := .setup
  events : List Event := []

/-- A step of a fight. -/
abbrev Fight := ExceptT Error (StateM Combat)

namespace Combat

/-- A fight about to start, with dice of the configured seed and without texts. Which faces belong to a
seed is up to the generators. -/
def prepare (generators : UInt64 → Generator) (rules : RuleTable) (config : Config)
    (field : Battlefield) : Combat where
  rules := rules
  config := config
  sources := .empty
  clashTable := .standard
  field := field
  dice := .generated (generators (UInt64.ofNat config.seed))

/-- Whose turn it is. -/
def current? (combat : Combat) : Option CombatantId :=
  match combat.state with
  | .active | .clash _ => combat.order.current?
  | _ => none

/-- The fight has ended. -/
def isOver (combat : Combat) : Bool :=
  match combat.state with
  | .finished _ => true
  | _ => false

/-- A contest is due. -/
def isClashing (combat : Combat) : Bool :=
  match combat.state with
  | .clash _ => true
  | _ => false

/-- A combatant is there and alive. -/
def isAlive (combat : Combat) (id : CombatantId) : Bool :=
  (combat.field.find? id).any (·.isAlive)

/-- The refusal of everything that needs turns to be taken, if they are not. -/
def requireRunning (combat : Combat) : Except Error Unit :=
  match combat.state with
  | .active => .ok ()
  | .setup => .error .notStarted
  | .clash _ => .error .clashPending
  | .finished _ => .error .combatOver

/-- A combatant whose turn it is and that can act. -/
def requireTurn (combat : Combat) (actor : CombatantId) : Except Error Combatant := do
  combat.requireRunning
  let combatant ← combat.field.require actor
  if combat.order.current? != some actor then throw (.notYourTurn combatant.name)
  if combatant.isIncapacitated then throw (.incapacitated combatant.name)
  return combatant

/-- A combatant whose turn it is, that can act and has its action left. -/
def requireAction (combat : Combat) (actor : CombatantId) : Except Error Combatant := do
  let combatant ← combat.requireTurn actor
  if combatant.turn.action then throw (.actionUsed combatant.name)
  return combatant

/-- The fight with an entry more in its record. -/
def record (combat : Combat) (actor : Option CombatantId) (action : String)
    (tier : Option AttackTier) (lines : List String) : Combat :=
  { combat with events := combat.events ++ [⟨combat.round, actor, action, tier, lines⟩] }

/-- The fight, ended if at most one team is left. -/
def checkFinished (combat : Combat) : Combat :=
  if combat.state = .active ∧ combat.field.teamsStanding.length ≤ 1 then
    { combat with state := .finished combat.field.teamsStanding.head? }
  else combat

end Combat

namespace Fight

/-- A result, or the refusal it stands for. -/
def settle {α : Type} : Except Error α → Fight α
  | .ok value => pure value
  | .error error => throw error

/-- Steps of the resolution of an action. Battlefield and dice are those of the fight, also when the
steps fail. -/
def resolving {α : Type} (hook : Hook) (actor : CombatantId) (target : Option CombatantId)
    (tier : Nat) (steps : Resolve α) : Fight α := fun combat =>
  let before : Resolution :=
    { field := combat.field, dice := combat.dice, config := combat.config, hook, actor, target,
      tier }
  let (result, after) := steps before
  (result, { combat with field := after.field, dice := after.dice })

/-- Steps of a contest. -/
def contesting {α : Type} (steps : Contest α) : Fight α := fun combat =>
  let (result, after) := steps { field := combat.field, dice := combat.dice }
  (result, { combat with field := after.field, dice := after.dice })

end Fight

namespace Resolve

/-- A step that cannot fail. -/
def certainly {α : Type} (step : StateM Resolution α) : Resolve α := fun before =>
  let (result, after) := step before
  (.ok result, after)

/-- Resolve the texts of a combatant, and some more, at a hook. The answer is how many of them made
a rule fire. -/
def dispatch (rules : RuleTable) (sources : SourceBook) (who : CombatantId) (more : List String)
    (hook : Hook) : Resolve Nat := do
  modify fun resolution => { resolution with hook }
  certainly (rules.resolveAll (sources.texts who more))

end Resolve

end Skirmish
