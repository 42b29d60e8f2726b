/-
**Reports as data.** How combatants are identified in a report is up to its reader: every report is
written with a function `writeId`. A tally is written without the numbers and marks that no rule has
touched.
-/

import Skirmish.Codec.Basic
import Skirmish.Combat.Basic

namespace Skirmish

open Json (Value)

/-! ### Rules -/

namespace Fault

def toData (fault : Fault) : Value :=
  .object [("rule", .text fault.rule), ("text", .text fault.text), ("error", .text fault.error)]

end Fault

namespace Tally

/-- A member with a number, if there is one. -/
def numberMember (name : String) (number : Option Int) : List (String × Value) :=
  (number.map fun number => (name, Value.int number)).toList

/-- A member for a mark, if it is set. -/
def markMember (name : String) (holds : Bool) : List (String × Value) :=
  if holds then [(name, .bool true)] else []

/-- A member with a list, unless it is empty. -/
def listMember (name : String) (items : List Value) : List (String × Value) :=
  if items.isEmpty then [] else [(name, .array items)]

/-- The numbers of a tally. -/
def numberMembers (tally : Tally) : List (String × Value) :=
  numberMember "pending_damage" tally.pendingDamage ++
    numberMember "pending_composure" tally.pendingComposure ++
    numberMember "attack_bonus" tally.attackBonus ++
    numberMember "defense_bonus" tally.defenseBonus ++
    numberMember "crit_threshold" (tally.critThreshold.map Int.ofNat) ++
    numberMember "damage_reduction" tally.damageReduction ++
    numberMember "lifesteal_pct" (tally.lifestealPercent.map Int.ofNat) ++
    numberMember "reflect_pct" (tally.reflectPercent.map Int.ofNat)

/-- The marks of a tally. -/
def markMembers (tally : Tally) : List (String × Value) :=
  markMember "auto_hit" tally.autoHit ++ markMember "advantage" tally.advantage ++
    markMember "disadvantage" tally.disadvantage ++
    markMember "defense_advantage" tally.defenseAdvantage ++
    markMember "crit_immune" tally.critImmune ++ markMember "ignore_armor" tally.ignoreArmor ++
    markMember "ignore_resistance" tally.ignoreResistance ++ markMember "aborted" tally.aborted

def toData (writeId : CombatantId → Value) (tally : Tally) : Value :=
  .object (tally.numberMembers ++ tally.markMembers ++
    (tally.damageType.map fun kind => ("damage_type", Value.text kind)).toList ++
    listMember "resistances" (tally.resistances.map .text) ++
    listMember "immunities" (tally.immunities.map .text) ++
    listMember "vulnerabilities" (tally.vulnerabilities.map .text) ++
    listMember "aoe_targets" (tally.areaTargets.map writeId) ++
    listMember "chain_targets" (tally.chainTargets.map writeId))

end Tally

/-! ### Attacks -/

namespace AttackTier

def toData (tier : AttackTier) : Value := .text (Text.asciiLower tier.text)

end AttackTier

namespace AttackPhase

def toData : AttackPhase → Value
  | idle => .text "idle"
  | rollAttack => .text "roll_attack"
  | resolveAttackHooks => .text "resolve_attack_hooks"
  | rollDefense => .text "roll_defense"
  | resolveDefenseHooks => .text "resolve_defense_hooks"
  | outcome tier => .object [("outcome", tier.toData)]

end AttackPhase

namespace Tactics

def toData (tactics : Tactics) : Value :=
  .object [("advantages", .texts tactics.advantages),
    ("disadvantages", .texts tactics.disadvantages), ("mode", .text tactics.mode.text)]

end Tactics

namespace RollLine

def toData (line : RollLine) : Value :=
  .object [("faces", .list .nat [line.dice.first, line.dice.second]),
    ("mode", .text line.mode.text), ("natural", .nat line.natural), ("total", .int line.total)]

end RollLine

namespace DamageReport

def toData (writeId : CombatantId → Value) (report : DamageReport) : Value :=
  .object [("primary", .int report.primary),
    ("splash", .list (fun (who, lost) => .array [writeId who, .int lost]) report.splash),
    ("reflected", .int report.reflected), ("drained", .int report.drained),
    ("total", .int report.total)]

end DamageReport

namespace AttackReport

def toData (writeId : CombatantId → Value) (report : AttackReport) : Value :=
  .object [("phases", .list AttackPhase.toData report.phases),
    ("tactics", report.tactics.toData), ("attack", .ofOption RollLine.toData report.attack),
    ("defense", .ofOption RollLine.toData report.defense),
    ("margin", .ofOption .int report.margin), ("tier", .ofOption AttackTier.toData report.tier),
    ("landed", .bool report.landed), ("damage", report.damage.toData writeId),
    ("injury", .ofOption .text report.injury), ("aborted", .bool report.aborted),
    ("faults", .list Fault.toData report.faults), ("log", .texts report.log)]

end AttackReport

/-! ### Other actions -/

namespace ActivationReport

def toData (writeId : CombatantId → Value) (report : ActivationReport) : Value :=
  .object [("target", .ofOption writeId report.target), ("name", .text report.name),
    ("matched", .nat report.matched), ("aborted", .bool report.aborted),
    ("damage", report.damage.toData writeId), ("faults", .list Fault.toData report.faults),
    ("log", .texts report.log)]

end ActivationReport

namespace MoveReport

def toData (report : MoveReport) : Value :=
  .object [("from", .list .int [report.start.x, report.start.y]),
    ("to", .list .int [report.stop.x, report.stop.y]), ("cells", .nat report.cells),
    ("log", .texts report.log)]

end MoveReport

namespace ClashReport

def toData (writeId : CombatantId → Value) (report : ClashReport) : Value :=
  .object [("stat", report.stat.toData), ("winner", writeId report.winner),
    ("loser", writeId report.loser),
    ("totals", .list .int [report.attackerTotal, report.defenderTotal]),
    ("rerolls", .nat report.rerolls),
    ("consequence", .ofOption .text (report.consequence.map (·.text))),
    ("log", .texts report.log)]

end ClashReport

namespace TurnReport

def toData (writeId : CombatantId → Value) (report : TurnReport) : Value :=
  .object [("round", .nat report.round), ("actor", .ofOption writeId report.actor),
    ("new_round", .bool report.newRound), ("log", .texts report.log)]

end TurnReport

namespace ActionOutcome

def toData (writeId : CombatantId → Value) : ActionOutcome → Value
  | attack report => report.toData writeId
  | activation report => report.toData writeId
  | moved report => report.toData
  | clash report => report.toData writeId
  | turnEnded report => report.toData writeId

end ActionOutcome

/-! ### The fight -/

namespace CombatState

def toData (writeId : CombatantId → Value) : CombatState → Value
  | setup => .text "setup"
  | active => .text "active"
  | clash pending => .object [("clash", .array [writeId pending.attacker,
      writeId pending.defender, pending.stat.toData])]
  | finished winner => .object [("finished", .ofOption .text winner)]

end CombatState

namespace Event

def toData (writeId : CombatantId → Value) (event : Event) : Value :=
  .object [("round", .nat event.round), ("actor", .ofOption writeId event.actor),
    ("action", .text event.action), ("tier", .ofOption AttackTier.toData event.tier),
    ("lines", .texts event.lines)]

end Event

end Skirmish
