/-
**Clashes.** A tied attack leads to a contest on one stat. The kind of that stat decides what the
winner may do: drive the loser back, trade places, slip to a better cell, or shake the loser.

* Under `TiePolicy.reroll` a tied contest is rolled again, at most sixteen times; the attacker wins
  a tie that remains.
-/

import Skirmish.Battlefield
import Skirmish.Config

namespace Skirmish

/-- What follows a contest. -/
inductive Consequence where
  /-- The loser is driven back a cell and the winner follows. -/
  | shove
  /-- The two trade places. -/
  | swap
  /-- The winner slips to a free cell beside the loser, opposite an ally if it can. -/
  | outflank
  /-- The loser is shaken. -/
  | jolt
  /-- The winner steps behind the loser. -/
  | slipBehind
deriving DecidableEq, Repr

/-- A consequence as it is shown. -/
def Consequence.text : Consequence → String
  | .shove => "shove"
  | .swap => "swap"
  | .outflank => "outflank"
  | .jolt => "jolt"
  | .slipBehind => "slip behind"

/-- The consequence of each kind of stat, if it has one. -/
abbrev ClashTable := StatCategory → Option Consequence

/-- The usual consequences. -/
def ClashTable.standard : ClashTable
  | .power => some .shove
  | .agility => some .swap
  | .insight => some .outflank
  | .vitality => some .jolt
  | .will => some .slipBehind

/-- A contest that waits to be held. -/
structure PendingClash where
  attacker : CombatantId
  defender : CombatantId
  /-- The stat of the attack. -/
  stat : Stat
deriving DecidableEq, Repr

/-- How a contest went. -/
structure ClashReport where
  stat : Stat
  winner : CombatantId
  loser : CombatantId
  attackerTotal : Int
  defenderTotal : Int
  /-- How often a tie was rolled again. -/
  rerolls : Nat
  consequence : Option Consequence
  log : List String
deriving DecidableEq, Repr

/-- Where a contest takes place. -/
structure Scene where
  field : Battlefield
  dice : Dice
  log : List String := []

/-- A step of a contest, which may fail and then keeps what it did before. -/
abbrev Contest := ExceptT Error (StateM Scene)

namespace Contest

/-! ### Steps -/

/-- A result, or the failure it stands for. -/
def settle {α : Type} : Except Error α → Contest α
  | .ok value => pure value
  | .error error => throw error

/-- Tell a line. -/
def narrate (line : String) : Contest Unit :=
  modify fun scene => { scene with log := scene.log ++ [line] }

/-- A combatant on the battlefield. -/
def require (id : CombatantId) : Contest Combatant := do
  settle ((← get).field.require id)

/-- Change a combatant that is on the battlefield. -/
def update (id : CombatantId) (change : Combatant → Combatant) : Contest Unit :=
  modify fun scene => { scene with field := scene.field.update id change }

/-- Move a combatant to a free cell. -/
def place (id : CombatantId) (cell : Cell) : Contest Unit := do
  let field ← settle ((← get).field.place id cell)
  modify fun scene => { scene with field }

/-- Turn a combatant toward another. -/
def face (id other : CombatantId) : Contest Unit := do
  let position := (← require id).position
  let goal := (← require other).position
  update id ({ · with facing := .toward position goal })

/-! ### Consequences -/

/-- The cell that the line from one cell to another leads on to. -/
def beyond (origin cell : Cell) : Cell := cell.step (origin.directionTo cell)

/-- Drive the loser back and follow. -/
def shove (winner loser : CombatantId) : Contest Unit := do
  let winning ← require winner
  let losing ← require loser
  let goal := beyond winning.position losing.position
  if (← get).field.isFree goal then
    place loser goal
    place winner losing.position
    face winner loser
    narrate s!"{winning.name} drives {losing.name} back to {goal.text}."
  else narrate s!"{losing.name} holds their ground against {winning.name}."

/-- Trade places. -/
def swap (winner loser : CombatantId) : Contest Unit := do
  let winning ← require winner
  let losing ← require loser
  let field ← settle ((← get).field.swap winner loser)
  modify fun scene => { scene with field }
  face winner loser
  narrate s!"{winning.name} twists past {losing.name}, trading places."

/-- Two cells lie opposite each other around a third. -/
def opposite (center first second : Cell) : Bool :=
  first.x + second.x == 2 * center.x && first.y + second.y == 2 * center.y

/-- The cell beside the loser that the winner would slip to. -/
def opening? (field : Battlefield) (winner : CombatantId) (origin center : Cell) : Option Cell :=
  let allies := ((field.alliesOf winner).map (·.position)).filter (·.isAdjacent center)
  let free := center.neighbors.filter fun cell => cell != origin && field.isFree cell
  (free.find? fun cell => allies.any (opposite center · cell)).or
    (firstLeast? (·.distance origin) free)

/-- Slip to a better cell beside the loser. -/
def outflank (winner loser : CombatantId) : Contest Unit := do
  let winning ← require winner
  let losing ← require loser
  match opening? (← get).field winner winning.position losing.position with
  | some cell =>
    place winner cell
    face winner loser
    narrate s!"{winning.name} reads {losing.name} and slips to {cell.text}."
  | none => narrate s!"{winning.name} finds no opening around {losing.name}."

/-- Shake the loser. -/
def jolt (config : Config) (winner loser : CombatantId) : Contest Unit := do
  let winning ← require winner
  let losing ← require loser
  let after := losing.damagePool .composure config.clashDamage
  update loser fun _ => after
  narrate s!"{winning.name} overpowers {losing.name}: {losing.lost after .composure} CMP lost."

/-- Step behind the loser. -/
def slipBehind (winner loser : CombatantId) : Contest Unit := do
  let winning ← require winner
  let losing ← require loser
  let goal := beyond winning.position losing.position
  if (← get).field.isFree goal then
    place winner goal
    face winner loser
    narrate s!"{winning.name} steps behind {losing.name} to {goal.text}."
  else narrate s!"{winning.name} cannot get behind {losing.name}."

/-- Carry out a consequence. -/
def carryOut (config : Config) (winner loser : CombatantId) : Consequence → Contest Unit
  | .shove => shove winner loser
  | .swap => swap winner loser
  | .outflank => outflank winner loser
  | .jolt => jolt config winner loser
  | .slipBehind => slipBehind winner loser

/-- Carry out the consequence of a contest, if there is one. -/
def follow (config : Config) (winner loser : CombatantId) : Option Consequence → Contest Unit
  | some consequence => carryOut config winner loser consequence
  | none => pure ()

/-! ### The contest itself -/

/-- The most often that a tie is rolled again. -/
def mostRerolls : Nat := 16

/-- The totals of both sides, with up to `left` ties rolled again, and how many were. -/
def rollOff (policy : TiePolicy) (attackerModifier defenderModifier : Int) :
    (left : Nat) → Dice → (Int × Int × Nat) × Dice
  | left, dice =>
    let (first, dice) := dice.draw 20
    let (second, dice) := dice.draw 20
    let attacker := first + attackerModifier
    let defender := second + defenderModifier
    match left, policy with
    | left + 1, .reroll =>
      if attacker = defender then
        let ((attacker, defender, rerolls), dice) :=
          rollOff policy attackerModifier defenderModifier left dice
        ((attacker, defender, rerolls + 1), dice)
      else ((attacker, defender, 0), dice)
    | _, _ => ((attacker, defender, 0), dice)

/-- Roll for both sides. -/
def rollBoth (policy : TiePolicy) (attackerModifier defenderModifier : Int) :
    Contest (Int × Int × Nat) :=
  modifyGet fun scene =>
    let (totals, dice) := rollOff policy attackerModifier defenderModifier mostRerolls scene.dice
    (totals, { scene with dice })

/-- Hold a contest on a stat and carry out what follows. -/
def hold (config : Config) (table : ClashTable) (pending : PendingClash) (stat : Stat) :
    Contest ClashReport := do
  let attacker ← require pending.attacker
  let defender ← require pending.defender
  let (attackerTotal, defenderTotal, rerolls) ←
    rollBoth config.clashTie (attacker.modifier stat) (defender.modifier stat)
  let attackerWins := defenderTotal ≤ attackerTotal
  let winner := if attackerWins then pending.attacker else pending.defender
  let loser := if attackerWins then pending.defender else pending.attacker
  let winning := if attackerWins then attacker.name else defender.name
  narrate
    (s!"Clash on {stat.name}: {attacker.name} {attackerTotal} vs " ++
      s!"{defender.name} {defenderTotal}. {winning} wins!")
  follow config winner loser (table stat.category)
  return {
    stat, winner, loser, attackerTotal, defenderTotal, rerolls
    consequence := table stat.category
    log := (← get).log }

end Contest

end Skirmish
