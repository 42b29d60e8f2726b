/-
**Combatants.** A combatant is changed only through the operations below, which keep its pools in
range and two kinds of flags in step with the rest:

* an empty pool shows as its flag (`syncDepleted`);
* a condition may carry a flag, which is raised with it and goes when it ends.
-/

import Skirmish.Cell
import Skirmish.CombatantId
import Skirmish.Condition
import Skirmish.NameMap
import Skirmish.Pool

namespace Skirmish

/-- What a combatant has already done in this turn. -/
structure TurnUse where
  action : Bool := false
  bonusAction : Bool := false
  reaction : Bool := false
  moved : Bool := false
deriving DecidableEq, Repr, Inhabited

/-- A combatant. -/
structure Combatant where
  id : CombatantId
  name : String
  /-- Kind of creature, for information only. -/
  archetype : String
  /-- Allies share a team. -/
  team : String
  attributes : Attributes
  pools : Pools
  position : Cell
  facing : Facing
  /-- Height above the ground. -/
  elevation : Int
  /-- A fixed initiative; it is rolled when absent. -/
  initiative : Option Int
  /-- Ranks in weapons and skills. -/
  skillRanks : NameMap Int
  /-- Added to the defense total. -/
  armorRank : Int
  conditions : ConditionSet
  flags : NameSet
  turn : TurnUse

namespace Combatant

/-- Conditions that keep a combatant from acting. -/
def incapacitating : List String := ["Stunned", "Paralyzed"]

/-- A combatant with full pools and nothing else. -/
def fresh (id : CombatantId) (name : String) (attributes : Attributes) : Combatant where
  id := id
  name := name
  archetype := ""
  team := ""
  attributes := attributes
  pools := .ofAttributes attributes
  position := ⟨0, 0⟩
  facing := .north
  elevation := 0
  initiative := none
  skillRanks := {}
  armorRank := 0
  conditions := .empty
  flags := {}
  turn := {}

/-! ### What a combatant shows -/

/-- The modifier of a stat. -/
def modifier (combatant : Combatant) (stat : Stat) : Int := combatant.attributes.modifier stat

/-- The rank in a skill, zero when untrained. Names are compared without regard to ASCII case. -/
def skillRank (combatant : Combatant) (skill : String) : Int :=
  ((combatant.skillRanks.entries.find? (Text.sameName ·.1 skill)).map (·.2)).getD 0

/-- One of the pools. -/
def pool (combatant : Combatant) (pool : Pool) : Gauge := combatant.pools.get pool

/-- The current hit points. -/
def hitPoints (combatant : Combatant) : Int := combatant.pools.hitPoints.current

/-- The combatant has hit points left. -/
def isAlive (combatant : Combatant) : Bool := !combatant.pools.hitPoints.isEmpty

/-- A condition is active. -/
def hasCondition (combatant : Combatant) (name : String) : Bool := combatant.conditions.has name

/-- A flag is raised. -/
def hasFlag (combatant : Combatant) (flag : String) : Bool := combatant.flags.contains flag

/-- The combatant is down, or a condition keeps it from acting. -/
def isIncapacitated (combatant : Combatant) : Bool :=
  !combatant.isAlive || incapacitating.any combatant.hasCondition

/-! ### Flags and pools -/

/-- The combatant with a flag raised. -/
def raiseFlag (combatant : Combatant) (flag : String) : Combatant :=
  { combatant with flags := combatant.flags.add flag }

/-- The combatant with a flag lowered. -/
def lowerFlag (combatant : Combatant) (flag : String) : Combatant :=
  { combatant with flags := combatant.flags.erase flag }

/-- The combatant with the flag of a pool raised exactly if the pool is empty. -/
def syncDepleted (combatant : Combatant) (pool : Pool) : Combatant :=
  if (combatant.pools.get pool).isEmpty then combatant.raiseFlag pool.depletedFlag
  else combatant.lowerFlag pool.depletedFlag

/-- The combatant with another state of a pool. -/
def setPool (combatant : Combatant) (pool : Pool) (gauge : Gauge) : Combatant :=
  { combatant with pools := combatant.pools.set pool gauge }

/-- The combatant with another current value of a pool, moved into range. -/
def withPool (combatant : Combatant) (pool : Pool) (current : Int) : Combatant :=
  (combatant.setPool pool (.startingAt current (combatant.pool pool).maximum)).syncDepleted pool

/-- The combatant after a loss from a pool. -/
def damagePool (combatant : Combatant) (pool : Pool) (amount : Int) : Combatant :=
  (combatant.setPool pool ((combatant.pool pool).drain amount)).syncDepleted pool

/-- The combatant after a loss of hit points. -/
def takeDamage (combatant : Combatant) (amount : Int) : Combatant :=
  combatant.damagePool .hitPoints amount

/-- The combatant after a pool has been restored. -/
def heal (combatant : Combatant) (pool : Pool) (amount : Int) : Combatant :=
  (combatant.setPool pool ((combatant.pool pool).restore amount)).syncDepleted pool

/-- The combatant after a payment, if the pool covers the whole of it. -/
def spend? (combatant : Combatant) (pool : Pool) (amount : Int) : Option Combatant :=
  ((combatant.pool pool).spend? amount).map fun gauge =>
    (combatant.setPool pool gauge).syncDepleted pool

/-- How much a change took from a pool. -/
def lost (before after : Combatant) (pool : Pool) : Int :=
  (before.pool pool).current - (after.pool pool).current

/-- How much a change added to a pool. -/
def gained (before after : Combatant) (pool : Pool) : Int :=
  (after.pool pool).current - (before.pool pool).current

/-! ### Conditions -/

/-- The combatant with a condition applied. Its flag is raised whenever the condition is active
afterwards. -/
def addCondition (combatant : Combatant) (name : String) (duration : Duration)
    (flag : Option String) : Combatant :=
  let conditions := combatant.conditions.apply name duration flag
  let applied := { combatant with conditions }
  match flag with
  | some flag => if conditions.has name then applied.raiseFlag flag else applied
  | none => applied

/-- The combatant without a condition and without its flag. -/
def removeCondition (combatant : Combatant) (name : String) : Combatant :=
  let cleared := { combatant with conditions := combatant.conditions.remove name }
  match (combatant.conditions.find? name).bind (·.flag) with
  | some flag => cleared.lowerFlag flag
  | none => cleared

/-- The combatant one round later: conditions run out together with their flags. -/
def tickConditions (combatant : Combatant) : Combatant :=
  let ticked := { combatant with conditions := combatant.conditions.tick }
  combatant.conditions.expiring.foldl (fun combatant condition =>
    match condition.flag with
    | some flag => combatant.lowerFlag flag
    | none => combatant) ticked

/-- The combatant at the start of its turn. -/
def resetTurn (combatant : Combatant) : Combatant := { combatant with turn := {} }

end Combatant

end Skirmish
