/-
**Abilities, moves and contests**: what else combatants do on their turn.

* The texts of an ability that name a cost come first, so that a cost that cannot be paid ends it
  before anything else has happened.
* A move leads over a straight line. Allies do not stand in its way; whoever is phasing passes
  through everything, but ends on a free cell all the same.
-/

import Skirmish.Combat.Attack
import Skirmish.Combat.Turn

namespace Skirmish

namespace Activation

/-- The name of the rule that recognizes costs. -/
def costRule : String := "cost"

/-- The texts of an ability, those with a cost first. -/
def orderedEffects (activation : Activation) (rules : RuleTable) : List String :=
  match rules.rules.find? (·.name == costRule) with
  | none => activation.effects
  | some cost =>
    let (costs, rest) := activation.effects.partition cost.matcher.matchesText
    costs ++ rest

open Resolve

/-- The damage of an ability that its texts did not give up. The target defends itself first. -/
def followThrough (activation : Activation) (rules : RuleTable) (sources : SourceBook) :
    Resolve DamageReport := do
  match activation.target.filter (· != activation.actor) with
  | some defender =>
    if (← get).tally.pendingDamage.isSome then
      let _ ← dispatch rules sources defender [] .onDefend
  | none => pure ()
  Delivery.deliver activation.target

/-- The whole of an ability. -/
def carryOut (activation : Activation) (rules : RuleTable) (sources : SourceBook) :
    Resolve ActivationReport := do
  let actor ← require activation.actor
  narrate s!"{actor.name} uses {activation.name}."
  let matched ← certainly (rules.resolveAll (activation.orderedEffects rules))
  let aborted := (← get).tally.aborted
  let damage ← if aborted then pure {} else activation.followThrough rules sources
  let resolution ← get
  return {
    actor := activation.actor
    target := activation.target
    name := activation.name
    matched
    aborted
    damage
    faults := resolution.faults
    log := resolution.log }

end Activation

namespace Combat

/-- The fight after an ability. -/
def afterActivation (combat : Combat) (activation : Activation) (report : ActivationReport) :
    Combat :=
  let combat :=
    if report.aborted then combat
    else { combat with
      field := combat.field.update activation.actor fun actor =>
        { actor with turn.action := true } }
  (combat.record (some activation.actor) (CombatAction.activate activation).text none
    report.log).checkFinished

/-! ### Moves -/

/-- Why a walk through a cell fails, if it does. -/
def obstacle? (field : Battlefield) (team : String) (cell : Cell) : Option String :=
  if field.terrain.isWall cell then some s!"path blocked at {cell.text}"
  else
    match (field.occupant? cell).bind field.find? with
    | some other => if other.team != team then some s!"path blocked by {other.name}" else none
    | none => none

/-- Why a move to a cell is refused, if it is. -/
def refusal? (combat : Combat) (mover : Combatant) (goal : Cell) : Option String :=
  let field := combat.field
  let cells := mover.position.distance goal
  let allowance := combat.config.movementCells
  if goal = mover.position then some "already there"
  else if !field.terrain.inBounds goal then some "out of bounds"
  else if field.terrain.isWall goal then some "blocked"
  else if (field.occupant? goal).isSome then some "occupied"
  else if allowance < cells then some s!"{cells} cells exceeds the {allowance}-cell allowance"
  else if mover.hasFlag "phasing" then none
  else (mover.position.pathTo goal).findSome? (obstacle? field mover.team)

end Combat

namespace Fight

/-- Use an ability. -/
def activate (activation : Activation) : Fight ActivationReport := do
  let combat ← get
  let _ ← settle (combat.requireAction activation.actor)
  match activation.target with
  | some target => let _ ← settle (combat.field.require target)
  | none => pure ()
  let report ← resolving .activate activation.actor activation.target activation.tier
    (activation.carryOut combat.rules combat.sources)
  modify (·.afterActivation activation report)
  return report

/-- Move a combatant. -/
def move (actor : CombatantId) (goal : Cell) : Fight MoveReport := do
  let combat ← get
  let mover ← settle (combat.requireTurn actor)
  if mover.turn.moved then throw (.alreadyMoved mover.name)
  match combat.refusal? mover goal with
  | some reason => throw (.illegalMove goal reason)
  | none => pure ()
  let field ← settle (combat.field.place actor goal)
  let start := mover.position
  let field := field.update actor fun mover =>
    { mover with facing := .toward start goal, turn.moved := true }
  let log := [s!"{mover.name} moves from {start.text} to {goal.text}."]
  set ({ combat with field }.record (some actor) (CombatAction.move actor goal).text none log)
  return { actor, start, stop := goal, cells := start.distance goal, log }

/-- Hold the contest that is due, on the stat of the attack or another one. -/
def resolveClash (stat : Option Stat) : Fight ClashReport := do
  let combat ← get
  match combat.state with
  | .setup => throw .notStarted
  | .finished _ => throw .combatOver
  | .active => throw .noClashPending
  | .clash pending =>
    let stat := stat.getD pending.stat
    let report ← contesting (Contest.hold combat.config combat.clashTable pending stat)
    modify fun combat =>
      ({ combat with state := .active }.record (some pending.attacker) s!"Clash on {stat.name}"
        (some .clash) report.log).checkFinished
    return report

/-- Do something, whatever it is. -/
def perform : CombatAction → Fight ActionOutcome
  | .attack request => return .attack (← attack request)
  | .activate activation => return .activation (← activate activation)
  | .move actor goal => return .moved (← move actor goal)
  | .resolveClash stat => return .clash (← resolveClash stat)
  | .endTurn => return .turnEnded (← endTurn)

end Fight

end Skirmish
