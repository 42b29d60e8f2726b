/-
**Tactics**: what position and conditions mean for an attack, before any rule is asked.
-/

import Skirmish.Battlefield
import Skirmish.Dice.Basic

namespace Skirmish

/-- The reasons for advantage and disadvantage, in the order in which they are found. -/
structure Tactics where
  advantages : List String
  disadvantages : List String
deriving DecidableEq, Repr

namespace Tactics

/-- Conditions of a target that help an attacker. -/
def exposed : List String := ["Prone", "Stunned", "Restrained", "Paralyzed"]

/-- Conditions that hinder an attacker. -/
def hampered : List String := ["Prone", "Blinded", "Frightened"]

/-- How many allies beside the target make a flank. -/
def flankingAllies : Nat := 2

/-- The allies of an attacker that stand beside its target. -/
def flankers (field : Battlefield) (attacker target : Combatant) : List Combatant :=
  (field.alliesOf attacker.id).filter fun ally =>
    ally.id != target.id && ally.position.isAdjacent target.position

/-- A reason, if it holds. -/
def reason (holds : Bool) (text : String) : List String := if holds then [text] else []

/-- Everything that bears on an attack. -/
def assess (field : Battlefield) (attacker target : Combatant) : Tactics where
  advantages :=
    reason (target.elevation < attacker.elevation) "high ground" ++
    reason (target.facing.isBehind target.position attacker.position) "rear attack" ++
    reason (flankingAllies ≤ (flankers field attacker target).length) "flanking" ++
    reason (attacker.hasCondition "Hidden") "hidden" ++
    exposed.flatMap fun condition =>
      reason (target.hasCondition condition) s!"target {Text.asciiLower condition}"
  disadvantages :=
    reason (attacker.elevation < target.elevation) "low ground" ++
    reason (field.terrain.isCover target.position) "cover" ++
    hampered.flatMap fun condition =>
      reason (attacker.hasCondition condition) (Text.asciiLower condition)

/-- How the attacker rolls before any rule is asked. -/
def mode (tactics : Tactics) : RollMode :=
  .ofFlags (!tactics.advantages.isEmpty) (!tactics.disadvantages.isEmpty)

end Tactics

end Skirmish
