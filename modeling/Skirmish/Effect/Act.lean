/-
**Carrying out an effect.**
-/

import Skirmish.Effect.Affliction
import Skirmish.Effect.Ground

namespace Skirmish.Effect

/-- Carry out the effect of a rule that fires. -/
def act : Effect → Firing → Resolve Unit
  | .cost, firing => actCost firing
  | .heal recipient, firing => actHeal recipient firing
  | .damage kind, firing => actDamage kind firing
  | .composureDamage, firing => actComposureDamage firing
  | .lifesteal percent, firing => actLifesteal percent firing
  | .reflect percent, firing => actReflect percent firing
  | .area, firing => actArea firing
  | .chain, firing => actChain firing
  | .status condition flag recipient, firing => actStatus condition flag recipient firing
  | .savingThrow, firing => actSavingThrow firing
  | .cure, firing => actCure firing
  | .grantResistance, firing => actGrantResistance firing
  | .push, firing => actShove .away firing
  | .pull, firing => actShove .toward firing
  | .teleport, firing => actTeleport firing
  | .ignite amount, _ => actIgnite amount
  | .toHit, firing => actToHit firing
  | .mark which, _ => Resolve.tally (·.raise which)
  | .critRange, firing => actCritRange firing
  | .defenseBonus, firing => actDefenseBonus firing
  | .defense kind, firing => actDefense kind firing
  | .damageReduction, firing => actDamageReduction firing

end Skirmish.Effect
