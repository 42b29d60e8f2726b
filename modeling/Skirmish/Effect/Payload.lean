/-
**Effects on the tally.** These add to what the action amounts to and touch nobody: damage and who
else it reaches, bonuses, marks and defenses. Dice are the only other thing they use.

* `Effect.inArea` and `Effect.chained` say whom an area or a chain reaches.
-/

import Skirmish.Effect.Basic
import Skirmish.Lookup
import Skirmish.Rule.Firing

namespace Skirmish.Effect

open Resolve

/-- How far a chain can jump from the target. -/
def chainRange : Nat := 3

/-! ### Damage -/

/-- Damage from the dice of the text, or from the tier where it names none. -/
def actDamage (kind : Option String) (firing : Firing) : Resolve Unit := do
  let dice ← match (firing.named? "dice").or (firing.named? "dice2") with
    | some text => settle (DiceFormula.written text)
    | none => do
      let resolution ← get
      pure (resolution.config.damageForTier resolution.tier)
  let amount ← roll dice
  let damageType := ((firing.named? "kind").map canonicalDamageType).or kind
  tally (·.addDamage amount damageType)

/-- Loss of composure from the dice of the text. -/
def actComposureDamage (firing : Firing) : Resolve Unit := do
  let dice ← settle (do DiceFormula.written (← firing.require "dice"))
  let amount ← roll dice
  tally (·.addComposure amount)

/-- The greater of two percentages, at most a hundred. -/
def raisedPercent (before : Option Nat) (percent : Nat) : Option Nat :=
  some (min (max (before.getD 0) percent) 100)

/-- The percentage of the text, or a given one. -/
def sharePercent (percent : Nat) (firing : Firing) : Except Error Nat :=
  return ((← firing.int? "pct").map Int.toNat).getD percent

/-- A share of the damage that heals the attacker. -/
def actLifesteal (percent : Nat) (firing : Firing) : Resolve Unit := do
  let percent ← settle (sharePercent percent firing)
  tally fun tally => { tally with lifestealPercent := raisedPercent tally.lifestealPercent percent }

/-- A share of the damage that goes back. -/
def actReflect (percent : Nat) (firing : Firing) : Resolve Unit := do
  let percent ← settle (sharePercent percent firing)
  tally fun tally => { tally with reflectPercent := raisedPercent tally.reflectPercent percent }

/-! ### Whom it reaches -/

/-- Everyone alive around a cell, but for whoever acts and the target. -/
def inArea (resolution : Resolution) (center : Cell) (radius : Nat) : List CombatantId :=
  (resolution.field.living.filter fun other =>
    other.id != resolution.actor && some other.id != resolution.target &&
      other.position.distance center ≤ radius).map (·.id)

/-- A list with the identities of another that it lacks. -/
def withNew (known : List CombatantId) (found : List CombatantId) : List CombatantId :=
  found.foldl (fun known id => if known.contains id then known else known ++ [id]) known

/-- Reach everyone in a radius around the target. -/
def actArea (firing : Firing) : Resolve Unit := do
  let feet ← settle (firing.natOr "feet" 0)
  let resolution ← get
  let center := (← require resolution.targetOrActor).position
  let found := inArea resolution center (resolution.config.feetToCells feet)
  tally fun tally => { tally with areaTargets := withNew tally.areaTargets found }

/-- The enemies that a chain can jump to, nearest first. -/
def chained (resolution : Resolution) (target : CombatantId) (origin : Cell) : List CombatantId :=
  let candidates := (resolution.field.enemiesOf resolution.actor).filter fun other =>
    other.id != target && other.position.distance origin ≤ chainRange
  (candidates.mergeSort fun first second =>
    first.position.distance origin ≤ second.position.distance origin).map (·.id)

/-- Let the damage jump to a number of further enemies. -/
def actChain (firing : Firing) : Resolve Unit := do
  let resolution ← get
  if !resolution.canNest then return
  let count ← settle (firing.natOr "count" 1)
  let target ← targetId
  let origin := (← require target).position
  tally fun tally => { tally with chainTargets := (chained resolution target origin).take count }

/-! ### Bonuses, marks and defenses -/

/-- A bonus to the attack. -/
def actToHit (firing : Firing) : Resolve Unit := do
  let bonus ← settle (firing.intOr "bonus" 0)
  tally (·.addAttackBonus bonus)

/-- A bonus to the defense. -/
def actDefenseBonus (firing : Firing) : Resolve Unit := do
  let bonus ← settle (firing.intOr "bonus" 0)
  tally (·.addDefenseBonus bonus)

/-- A lower critical face, between two and twenty. -/
def actCritRange (firing : Firing) : Resolve Unit := do
  let face := (clamp 2 20 (← settle (firing.intOr "face" 20))).toNat
  let current := (← get).critThreshold
  tally fun tally => { tally with critThreshold := some (min current face) }

/-- A reduction of damage. -/
def actDamageReduction (firing : Firing) : Resolve Unit := do
  let amount ← settle do
    match ← firing.int? "amount" with
    | some amount => return amount
    | none => firing.intOr "amount2" 0
  tally (·.addDamageReduction amount)

/-- A list with one more entry, unless it has it. -/
def withEntry (list : List String) (entry : String) : List String :=
  if list.contains entry then list else list ++ [entry]

/-- A damage type that the defender meets in a certain way. -/
def actDefense (kind : DefenseKind) (firing : Firing) : Resolve Unit := do
  let damageType := canonicalDamageType (← settle (firing.require "kind"))
  tally fun tally =>
    match kind with
    | .resisted => { tally with resistances := withEntry tally.resistances damageType }
    | .immune => { tally with immunities := withEntry tally.immunities damageType }
    | .vulnerable => { tally with vulnerabilities := withEntry tally.vulnerabilities damageType }

end Skirmish.Effect
