/-
**Configurations and rule tables as data.**

* A configuration may leave out any of its fields; they keep their usual values.
* A rule table is a list of rules. `RuleTable.extendFromJson` appends one, or leaves the table as it
  was when any of its rules cannot be built.
-/

import Skirmish.Codec.Basic
import Skirmish.Json.Reader
import Skirmish.Rule.Spec

namespace Skirmish

open Json (Value Record)

/-! ### Configurations -/

namespace MarginThresholds

def toData (thresholds : MarginThresholds) : Value :=
  .object [("graze_max", .int thresholds.grazeMax), ("hit_max", .int thresholds.hitMax)]

def ofData? (value : Value) : Option MarginThresholds := do
  let record ← Record.read? ["graze_max", "hit_max"] value
  return ⟨← record.need "graze_max" int32?, ← record.need "hit_max" int32?⟩

end MarginThresholds

namespace TiePolicy

/-- The policies by their names in data. -/
def named : List (String × TiePolicy) := [("attacker_wins", attackerWins), ("reroll", reroll)]

def toData : TiePolicy → Value
  | attackerWins => .text "attacker_wins"
  | reroll => .text "reroll"

def ofData? : Value → Option TiePolicy := Json.oneOf? named

end TiePolicy

namespace Config

/-- The fields of a configuration in data. -/
def fields : List String :=
  ["seed", "thresholds", "crit_threshold", "default_status_rounds", "default_save_dc",
    "graze_composure", "clash_damage", "clash_tie", "max_chain_depth", "movement_cells",
    "feet_per_cell", "tier_damage", "unarmed_damage"]

def toData (config : Config) : Value :=
  .object [("seed", .nat config.seed), ("thresholds", config.thresholds.toData),
    ("crit_threshold", .nat config.critThreshold),
    ("default_status_rounds", .nat config.defaultStatusRounds),
    ("default_save_dc", .int config.defaultSaveDifficulty),
    ("graze_composure", .int config.grazeComposure), ("clash_damage", .int config.clashDamage),
    ("clash_tie", config.clashTie.toData), ("max_chain_depth", .nat config.maxChainDepth),
    ("movement_cells", .nat config.movementCells), ("feet_per_cell", .nat config.feetPerCell),
    ("tier_damage", .list DiceFormula.toData config.tierDamage),
    ("unarmed_damage", config.unarmedDamage.toData)]

def ofData? (value : Value) : Option Config := do
  let record ← Record.read? fields value
  let usual : Config := {}
  return {
    seed := ← record.orDefault "seed" nat64? usual.seed
    thresholds := ← record.orDefault "thresholds" MarginThresholds.ofData? usual.thresholds
    critThreshold := ← record.orDefault "crit_threshold" nat32? usual.critThreshold
    defaultStatusRounds :=
      ← record.orDefault "default_status_rounds" nat32? usual.defaultStatusRounds
    defaultSaveDifficulty :=
      ← record.orDefault "default_save_dc" int32? usual.defaultSaveDifficulty
    grazeComposure := ← record.orDefault "graze_composure" int32? usual.grazeComposure
    clashDamage := ← record.orDefault "clash_damage" int32? usual.clashDamage
    clashTie := ← record.orDefault "clash_tie" TiePolicy.ofData? usual.clashTie
    maxChainDepth := ← record.orDefault "max_chain_depth" (Value.natUpTo? 255) usual.maxChainDepth
    movementCells := ← record.orDefault "movement_cells" nat32? usual.movementCells
    feetPerCell := ← record.orDefault "feet_per_cell" nat32? usual.feetPerCell
    tierDamage :=
      ← record.orDefault "tier_damage" (Value.list? DiceFormula.ofData?) usual.tierDamage
    unarmedDamage := ← record.orDefault "unarmed_damage" DiceFormula.ofData? usual.unarmedDamage }

/-- The configuration that a JSON text writes. -/
def ofJson (text : String) : Except Error Config :=
  match (Json.parse? text).bind ofData? with
  | some config => .ok config
  | none => .error .invalidConfig

end Config

/-! ### Rules -/

namespace Hook

def toData (hook : Hook) : Value := .text hook.text

def ofData? : Value → Option Hook := Json.oneOf? (all.map fun hook => (hook.text, hook))

end Hook

namespace RuleSpec

def toData (spec : RuleSpec) : Value :=
  .object [("name", .text spec.name), ("pattern", .text spec.pattern),
    ("excludes", .texts spec.vetoes), ("hooks", .list Hook.toData spec.hooks),
    ("handler", .text spec.handler), ("args", Json.ofMap .text spec.arguments)]

def ofData? (value : Value) : Option RuleSpec := do
  let record ← Record.read? ["name", "pattern", "excludes", "hooks", "handler", "args"] value
  return {
    name := ← record.need "name" Value.text?
    pattern := ← record.need "pattern" Value.text?
    vetoes := ← record.orDefault "excludes" (Value.list? Value.text?) []
    hooks := ← record.need "hooks" (Value.list? Hook.ofData?)
    handler := ← record.need "handler" Value.text?
    arguments := ← record.orDefault "args" (Json.map? Value.text?) {} }

end RuleSpec

namespace RuleTable

/-- The table with the rules of a data value after its own. -/
def extendFromData (table : RuleTable) (catalog : Catalog) (data : Option Value) :
    Except Error RuleTable :=
  match data.bind (Value.list? RuleSpec.ofData?) with
  | some specs => (ofSpecs catalog specs).map (table.append ·)
  | none => .error .invalidConfig

/-- The table with the rules of a JSON text after its own. -/
def extendFromJson (table : RuleTable) (catalog : Catalog) (text : String) :
    Except Error RuleTable :=
  table.extendFromData catalog (Json.parse? text)

end RuleTable

end Skirmish
