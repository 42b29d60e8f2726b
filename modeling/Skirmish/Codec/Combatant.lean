/-
**Combatants as data.**
-/

import Skirmish.Codec.Basic
import Skirmish.Combatant

namespace Skirmish

open Json (Value Record)

namespace CombatantId

def toData (id : CombatantId) : Value := .text id.written

def ofData? (value : Value) : Option CombatantId := value.text?.bind parse?

end CombatantId

namespace TurnUse

def toData (turn : TurnUse) : Value :=
  .object [("action_used", .bool turn.action), ("bonus_action_used", .bool turn.bonusAction),
    ("reaction_used", .bool turn.reaction), ("moved", .bool turn.moved)]

def ofData? (value : Value) : Option TurnUse := do
  let record ← Record.read? ["action_used", "bonus_action_used", "reaction_used", "moved"] value
  return ⟨← record.need "action_used" Value.bool?, ← record.need "bonus_action_used" Value.bool?,
    ← record.need "reaction_used" Value.bool?, ← record.need "moved" Value.bool?⟩

end TurnUse

namespace Combatant

/-- The fields of a combatant in data. -/
def fields : List String :=
  ["id", "name", "archetype", "team", "attributes", "pools", "position", "facing", "elevation",
    "initiative", "skill_ranks", "armor_rank", "conditions", "flags", "turn"]

def toData (combatant : Combatant) : Value :=
  .object [("id", combatant.id.toData), ("name", .text combatant.name),
    ("archetype", .text combatant.archetype), ("team", .text combatant.team),
    ("attributes", combatant.attributes.toData), ("pools", combatant.pools.toData),
    ("position", combatant.position.toData), ("facing", combatant.facing.toData),
    ("elevation", .int combatant.elevation), ("initiative", .ofOption .int combatant.initiative),
    ("skill_ranks", Json.ofMap .int combatant.skillRanks),
    ("armor_rank", .int combatant.armorRank), ("conditions", combatant.conditions.toData),
    ("flags", .texts combatant.flags.names), ("turn", combatant.turn.toData)]

def ofData? (value : Value) : Option Combatant := do
  let record ← Record.read? fields value
  return {
    id := ← record.need "id" CombatantId.ofData?
    name := ← record.need "name" Value.text?
    archetype := ← record.need "archetype" Value.text?
    team := ← record.need "team" Value.text?
    attributes := ← record.need "attributes" Attributes.ofData?
    pools := ← record.need "pools" Pools.ofData?
    position := ← record.need "position" Cell.ofData?
    facing := ← record.need "facing" Facing.ofData?
    elevation := ← record.need "elevation" int32?
    initiative := ← record.maybe "initiative" int32?
    skillRanks := ← record.need "skill_ranks" (Json.map? int32?)
    armorRank := ← record.need "armor_rank" int32?
    conditions := ← record.need "conditions" ConditionSet.ofData?
    flags := .ofNames (← record.need "flags" (Value.list? Value.text?))
    turn := ← record.need "turn" TurnUse.ofData? }

end Combatant

end Skirmish
