/-
**The resolution of one action.** While an action is resolved, rules share one `Resolution`: the
battlefield, the dice, the lines told so far and a `Tally` of what the action amounts to. The tally
is read when all rules have spoken.

A step of resolution (`Resolve`) may fail. A failed step keeps what it did before it failed; only
the rest of it is lost.
-/

import Skirmish.Battlefield
import Skirmish.Config
import Skirmish.Rule.Hook

namespace Skirmish

/-- A mark that rules can set. -/
inductive Mark where
  /-- The attacker rolls twice and keeps the higher die. -/
  | advantage
  /-- The attacker rolls twice and keeps the lower die. -/
  | disadvantage
  /-- The defender rolls twice and keeps the higher die. -/
  | defenseAdvantage
  /-- The attack cannot miss. -/
  | autoHit
  /-- Armor and damage reduction do not count. -/
  | ignoreArmor
  /-- Resistance and immunity do not count. -/
  | ignoreResistance
  /-- The defender takes no critical hits. -/
  | critImmune
deriving DecidableEq, Repr

/-- What an action amounts to, as the rules add it up. A number that no rule touched is absent. -/
structure Tally where
  pendingDamage : Option Int := none
  pendingComposure : Option Int := none
  damageType : Option String := none
  attackBonus : Option Int := none
  defenseBonus : Option Int := none
  autoHit : Bool := false
  advantage : Bool := false
  disadvantage : Bool := false
  defenseAdvantage : Bool := false
  critThreshold : Option Nat := none
  critImmune : Bool := false
  ignoreArmor : Bool := false
  ignoreResistance : Bool := false
  resistances : List String := []
  immunities : List String := []
  vulnerabilities : List String := []
  damageReduction : Option Int := none
  areaTargets : List CombatantId := []
  chainTargets : List CombatantId := []
  lifestealPercent : Option Nat := none
  reflectPercent : Option Nat := none
  /-- A cost could not be paid: nothing else may happen. -/
  aborted : Bool := false
deriving DecidableEq, Repr

namespace Tally

/-- The sum with a number that may be absent. -/
def added (number : Option Int) (amount : Int) : Option Int :=
  some (saturatingAdd (number.getD 0) amount)

/-- More damage. The first type that is named stays. -/
def addDamage (tally : Tally) (amount : Int) (damageType : Option String) : Tally :=
  { tally with
    pendingDamage := added tally.pendingDamage (max amount 0)
    damageType := tally.damageType.or damageType }

/-- More loss of composure. -/
def addComposure (tally : Tally) (amount : Int) : Tally :=
  { tally with pendingComposure := added tally.pendingComposure (max amount 0) }

/-- A greater bonus to the attack. -/
def addAttackBonus (tally : Tally) (bonus : Int) : Tally :=
  { tally with attackBonus := added tally.attackBonus bonus }

/-- A greater bonus to the defense. -/
def addDefenseBonus (tally : Tally) (bonus : Int) : Tally :=
  { tally with defenseBonus := added tally.defenseBonus bonus }

/-- A greater reduction of damage. -/
def addDamageReduction (tally : Tally) (amount : Int) : Tally :=
  { tally with damageReduction := added tally.damageReduction amount }

/-- A mark set. -/
def raise (tally : Tally) : Mark → Tally
  | .advantage => { tally with advantage := true }
  | .disadvantage => { tally with disadvantage := true }
  | .defenseAdvantage => { tally with defenseAdvantage := true }
  | .autoHit => { tally with autoHit := true }
  | .ignoreArmor => { tally with ignoreArmor := true }
  | .ignoreResistance => { tally with ignoreResistance := true }
  | .critImmune => { tally with critImmune := true }

end Tally

/-- A rule that failed on a text. -/
structure Fault where
  rule : String
  text : String
  /-- What went wrong, in words. -/
  error : String
deriving DecidableEq, Repr

/-- Everything that rules may read or change while an action is resolved. -/
structure Resolution where
  field : Battlefield
  dice : Dice
  config : Config
  hook : Hook
  actor : CombatantId
  target : Option CombatantId
  /-- The tier of the ability. -/
  tier : Nat := 1
  /-- What happened, in lines. -/
  log : List String := []
  faults : List Fault := []
  tally : Tally := {}
  /-- How deep reflected and chained damage is nested. -/
  depth : Nat := 0

namespace Resolution

/-- The target, or whoever acts when there is none. -/
def targetOrActor (resolution : Resolution) : CombatantId :=
  resolution.target.getD resolution.actor

/-- The face from which on the attack is critical. -/
def critThreshold (resolution : Resolution) : Nat :=
  resolution.tally.critThreshold.getD resolution.config.critThreshold

/-- Damage may be reflected or chained once more. -/
def canNest (resolution : Resolution) : Bool :=
  resolution.depth < resolution.config.maxChainDepth

end Resolution

/-- A step of the resolution of an action. -/
abbrev Resolve := ExceptT Error (StateM Resolution)

namespace Resolve

/-- A result, or the failure it stands for. -/
def settle {α : Type} : Except Error α → Resolve α
  | .ok value => pure value
  | .error error => throw error

/-- Tell a line. -/
def narrate (line : String) : Resolve Unit :=
  modify fun resolution => { resolution with log := resolution.log ++ [line] }

/-- Change the tally. -/
def tally (change : Tally → Tally) : Resolve Unit :=
  modify fun resolution => { resolution with tally := change resolution.tally }

/-- A combatant on the battlefield. -/
def require (id : CombatantId) : Resolve Combatant := do
  settle ((← get).field.require id)

/-- The identity of the target. -/
def targetId : Resolve CombatantId := do
  match (← get).target with
  | some id => return id
  | none => throw .missingTarget

/-- Change a combatant that is on the battlefield. -/
def update (id : CombatantId) (change : Combatant → Combatant) : Resolve Unit :=
  modify fun resolution => { resolution with field := resolution.field.update id change }

/-- Put another state of a combatant in its place. -/
def replace (combatant : Combatant) : Resolve Unit := update combatant.id fun _ => combatant

/-- Move a combatant to a free cell. -/
def place (id : CombatantId) (cell : Cell) : Resolve Unit := do
  let field ← settle ((← get).field.place id cell)
  modify fun resolution => { resolution with field }

/-- Draw a die. -/
def draw (sides : Nat) : Resolve Nat :=
  modifyGet fun resolution =>
    let (face, dice) := resolution.dice.draw sides
    (face, { resolution with dice })

/-- The total of a dice formula. -/
def roll (formula : DiceFormula) : Resolve Int :=
  modifyGet fun resolution =>
    let (faces, dice) := formula.faces resolution.dice
    (formula.total faces, { resolution with dice })

/-- Take steps one level deeper; the level is restored also when they fail. -/
def nested {α : Type} (steps : Resolve α) : Resolve α := fun resolution =>
  let (result, after) := steps { resolution with depth := min (resolution.depth + 1) 255 }
  (result, { after with depth := resolution.depth })

end Resolve

end Skirmish
