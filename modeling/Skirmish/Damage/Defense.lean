/-
**Mitigation.** What is left of damage after the defenses of whoever takes it: immunity first, then
resistance and vulnerability, then flat reduction.

* `mitigate_nonneg`: never less than nothing.
-/

import Skirmish.Resolution

namespace Skirmish

/-- The defenses against one packet of damage. -/
structure Defenses where
  /-- Nothing gets through. -/
  immune : Bool := false
  /-- Half of it gets through, rounded down. -/
  resist : Bool := false
  /-- It counts twice. -/
  vulnerable : Bool := false
  /-- A flat amount is taken off. -/
  reduction : Int := 0
deriving DecidableEq, Repr

namespace Defenses

/-- The defenses that a combatant's own conditions grant. -/
def ofConditions (defender : Combatant) : (damageType : Option String) → Defenses
  | none => {}
  | some kind =>
    { immune := defender.hasCondition s!"Immune to {kind}"
      resist := defender.hasCondition s!"Resistance to {kind}"
      vulnerable := defender.hasCondition s!"Vulnerable to {kind}" }

/-- A damage type is listed, in any ASCII case. -/
def listed (kinds : List String) (damageType : Option String) : Bool :=
  damageType.any fun kind => kinds.any (Text.sameName · kind)

/-- A combatant's own defenses with those that the tally lists. -/
def gather (tally : Tally) (defender : Combatant) (damageType : Option String) : Defenses :=
  let own := ofConditions defender damageType
  { immune := own.immune || listed tally.immunities damageType
    resist := own.resist || listed tally.resistances damageType
    vulnerable := own.vulnerable || listed tally.vulnerabilities damageType
    reduction := tally.damageReduction.getD 0 }

end Defenses

/-- What is left of an amount of damage. -/
def mitigate (amount : Int) (defenses : Defenses) (ignoreArmor ignoreResistance : Bool) : Int :=
  let amount := max amount 0
  if !ignoreResistance && defenses.immune then 0
  else
    let amount := if !ignoreResistance && defenses.resist then amount / 2 else amount
    let amount := if defenses.vulnerable then saturate (2 * amount) else amount
    let amount := if ignoreArmor then amount else saturate (amount - max defenses.reduction 0)
    max amount 0

theorem mitigate_nonneg (amount : Int) (defenses : Defenses)
    (ignoreArmor ignoreResistance : Bool) :
    0 ≤ mitigate amount defenses ignoreArmor ignoreResistance := by
  unfold mitigate
  split
  · exact Int.le_refl 0
  · exact Int.le_max_right _ _

end Skirmish
