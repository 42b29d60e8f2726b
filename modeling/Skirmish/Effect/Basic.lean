/-
**Effects**: what a rule does when it fires. A rule table names an effect and passes it arguments.
`Effect.named` lists the effects with the way each reads its arguments.

Effects fall into three kinds: those that only add to the tally of an action, those that change a
combatant, and those that move somebody or change the ground.
-/

import Skirmish.Resolution
import Skirmish.Rule.Arguments
import Skirmish.Rule.Wording

namespace Skirmish

/-- How a damage type meets a defender. -/
inductive DefenseKind where
  | resisted
  | immune
  | vulnerable
deriving DecidableEq, Repr

/-- What a rule does. -/
inductive Effect where
  /-- Pay from a pool, or give up the whole action. -/
  | cost
  /-- Restore a pool. -/
  | heal (recipient : Recipient)
  /-- Add damage, of a given type unless the text names one. -/
  | damage (kind : Option String)
  /-- Add loss of composure. -/
  | composureDamage
  /-- Heal the attacker by a share of the damage. -/
  | lifesteal (percent : Nat)
  /-- Send a share of the damage back. -/
  | reflect (percent : Nat)
  /-- Spread the damage over a radius. -/
  | area
  /-- Let the damage jump to further enemies. -/
  | chain
  /-- Apply a condition. -/
  | status (condition : String) (flag : Option String) (recipient : Recipient)
  /-- Apply a condition unless a saving throw succeeds. -/
  | savingThrow
  /-- End a condition. -/
  | cure
  /-- Grant resistance to a damage type for a while. -/
  | grantResistance
  /-- Move the target away. -/
  | push
  /-- Move the target closer. -/
  | pull
  /-- Move whoever acts next to the target. -/
  | teleport
  /-- Set the ground on fire. -/
  | ignite (damage : Int)
  /-- A bonus to the attack. -/
  | toHit
  /-- A mark on the action. -/
  | mark (mark : Mark)
  /-- Lower the face that is critical. -/
  | critRange
  /-- A bonus to the defense. -/
  | defenseBonus
  /-- A damage type that the defender meets in a certain way. -/
  | defense (kind : DefenseKind)
  /-- Less damage for the defender. -/
  | damageReduction
deriving DecidableEq, Repr

namespace Effect

/-- A percentage given as an argument, fifty when it is not. -/
def percent (arguments : Arguments) : Except Error Nat :=
  return (← arguments.parse "pct" Text.nat?).getD 50

/-- The effects by name, each with the way it reads its arguments. -/
def named : List (String × (Arguments → Except Error Effect)) :=
  [("cost", fun _ => .ok .cost),
    ("heal", fun arguments => .ok (.heal (.ofArguments arguments))),
    ("damage", fun arguments => .ok (.damage ((arguments.get? "type").map canonicalDamageType))),
    ("composure_damage", fun _ => .ok .composureDamage),
    ("lifesteal", fun arguments => return .lifesteal (← percent arguments)),
    ("reflect", fun arguments => return .reflect (← percent arguments)),
    ("area", fun _ => .ok .area),
    ("chain", fun _ => .ok .chain),
    ("status", fun arguments =>
      (arguments.require "condition").map
        (.status · (arguments.get? "flag") (.ofArguments arguments))),
    ("saving_throw", fun _ => .ok .savingThrow),
    ("cure", fun _ => .ok .cure),
    ("grant_resistance", fun _ => .ok .grantResistance),
    ("push", fun _ => .ok .push),
    ("pull", fun _ => .ok .pull),
    ("teleport", fun _ => .ok .teleport),
    ("ignite", fun arguments => return .ignite ((← arguments.parse "damage" Text.int?).getD 2)),
    ("to_hit", fun _ => .ok .toHit),
    ("advantage", fun _ => .ok (.mark .advantage)),
    ("disadvantage", fun _ => .ok (.mark .disadvantage)),
    ("defense_advantage", fun _ => .ok (.mark .defenseAdvantage)),
    ("auto_hit", fun _ => .ok (.mark .autoHit)),
    ("crit_range", fun _ => .ok .critRange),
    ("ignore_armor", fun _ => .ok (.mark .ignoreArmor)),
    ("ignore_resistance", fun _ => .ok (.mark .ignoreResistance)),
    ("defense_bonus", fun _ => .ok .defenseBonus),
    ("resistance", fun _ => .ok (.defense .resisted)),
    ("immunity", fun _ => .ok (.defense .immune)),
    ("vulnerability", fun _ => .ok (.defense .vulnerable)),
    ("crit_immunity", fun _ => .ok (.mark .critImmune)),
    ("damage_reduction", fun _ => .ok .damageReduction)]

end Effect

end Skirmish
