/-
**Small records as data**: stats, pools, durations, cells and dice.
-/

import Skirmish.Condition
import Skirmish.Dice.Formula
import Skirmish.Json.Record
import Skirmish.Pool
import Skirmish.Terrain

namespace Skirmish

open Json (Value Record)

/-! ### Numbers -/

/-- A signed 32-bit number. -/
def int32? (value : Value) : Option Int := value.intIn? leastInt greatestInt

/-- An unsigned 32-bit number. -/
def nat32? (value : Value) : Option Nat := value.natUpTo? greatestNat

/-- An unsigned 64-bit number. -/
def nat64? (value : Value) : Option Nat := value.natUpTo? 18446744073709551615

/-! ### Stats and pools -/

namespace Stat

/-- The name of a stat in data. -/
def key (stat : Stat) : String := Text.asciiLower stat.name

def toData (stat : Stat) : Value := .text stat.key

def ofData? : Value → Option Stat := Json.oneOf? (all.map fun stat => (stat.key, stat))

end Stat

/-- The name of a category in data. -/
def StatCategory.key : StatCategory → String
  | power => "power"
  | agility => "agility"
  | insight => "insight"
  | vitality => "vitality"
  | will => "will"

namespace Attributes

/-- The scores that were set, in the order of the stats. -/
def setScores (attributes : Attributes) : List (Stat × Int) :=
  Stat.all.filterMap fun stat => (attributes.entry? stat).map (stat, ·)

/-- Attributes with some scores set; of two for one stat the later counts. -/
def ofScores (scores : List (Stat × Int)) : Attributes :=
  scores.foldl (fun attributes (stat, score) => attributes.set stat score) baseline

def toData (attributes : Attributes) : Value :=
  .object [("scores", .object (attributes.setScores.map fun (stat, score) =>
    (stat.key, .int score)))]

def ofData? (value : Value) : Option Attributes := do
  let record ← Record.read? ["scores"] value
  let scores ← record.need "scores" fun
    | .object members =>
      members.mapM fun (name, score) =>
        (Stat.ofData? (.text name)).bind fun stat => (int32? score).map (stat, ·)
    | _ => none
  return ofScores scores

end Attributes

namespace Gauge

def toData (gauge : Gauge) : Value :=
  .object [("current", .int gauge.current), ("max", .int gauge.maximum)]

def ofData? (value : Value) : Option Gauge := do
  let record ← Record.read? ["current", "max"] value
  return ⟨← record.need "current" int32?, ← record.need "max" int32?⟩

end Gauge

namespace Pools

def toData (pools : Pools) : Value :=
  .object [("hp", pools.hitPoints.toData), ("cmp", pools.composure.toData),
    ("sp", pools.stamina.toData), ("fp", pools.focus.toData)]

def ofData? (value : Value) : Option Pools := do
  let record ← Record.read? ["hp", "cmp", "sp", "fp"] value
  return ⟨← record.need "hp" Gauge.ofData?, ← record.need "cmp" Gauge.ofData?,
    ← record.need "sp" Gauge.ofData?, ← record.need "fp" Gauge.ofData?⟩

end Pools

/-! ### Conditions -/

namespace Duration

def toData : Duration → Value
  | .rounds count => .object [("rounds", .nat count)]
  | .permanent => .text "permanent"

def ofData? (value : Value) : Option Duration :=
  match Json.choice? value with
  | some ("rounds", some content) => (nat32? content).map .rounds
  | _ => Json.oneOf? [("permanent", permanent)] value

end Duration

namespace Condition

def toData (condition : Condition) : Value :=
  .object [("name", .text condition.name), ("duration", condition.duration.toData),
    ("on_expire", .ofOption .text condition.flag)]

def ofData? (value : Value) : Option Condition := do
  let record ← Record.read? ["name", "duration", "on_expire"] value
  return ⟨← record.need "name" Value.text?, ← record.need "duration" Duration.ofData?,
    ← record.maybe "on_expire" Value.text?⟩

end Condition

namespace ConditionSet

def toData (set : ConditionSet) : Value :=
  .object [("effects", .list Condition.toData set.entries)]

def ofData? (value : Value) : Option ConditionSet := do
  let record ← Record.read? ["effects"] value
  return ⟨← record.need "effects" (Value.list? Condition.ofData?)⟩

end ConditionSet

/-! ### Grid -/

namespace Cell

def toData (cell : Cell) : Value := .object [("x", .int cell.x), ("y", .int cell.y)]

def ofData? (value : Value) : Option Cell := do
  let record ← Record.read? ["x", "y"] value
  return ⟨← record.need "x" int32?, ← record.need "y" int32?⟩

end Cell

namespace Facing

/-- The name of a facing in data. -/
def key : Facing → String
  | north => "north"
  | east => "east"
  | south => "south"
  | west => "west"

def toData (facing : Facing) : Value := .text facing.key

def ofData? : Value → Option Facing := Json.oneOf? (all.map fun facing => (facing.key, facing))

end Facing

namespace Tile

/-- The name of a tile in data. -/
def key : Tile → String
  | floor => "floor"
  | wall => "wall"
  | cover => "cover"

def toData (tile : Tile) : Value := .text tile.key

def ofData? : Value → Option Tile :=
  Json.oneOf? ([floor, wall, cover].map fun tile => (tile.key, tile))

end Tile

namespace Hazard

def toData (hazard : Hazard) : Value :=
  .object [("name", .text hazard.name), ("damage", .int hazard.damage),
    ("damage_type", .text hazard.damageType)]

def ofData? (value : Value) : Option Hazard := do
  let record ← Record.read? ["name", "damage", "damage_type"] value
  return ⟨← record.need "name" Value.text?, ← record.need "damage" int32?,
    ← record.need "damage_type" Value.text?⟩

end Hazard

/-! ### Dice -/

namespace Die

/-- The usual dice by their names in data. -/
def usual : List (String × Die) :=
  [("D4", d4), ("D6", d6), ("D8", d8), ("D10", d10), ("D12", d12), ("D20", d20),
    ("D100", d100)]

def toData : Die → Value
  | custom sides => .object [("Custom", .nat sides)]
  | die => .text s!"D{die.sides}"

def ofData? (value : Value) : Option Die :=
  match Json.choice? value with
  | some ("Custom", some content) => (nat32? content).map custom
  | _ => Json.oneOf? usual value

end Die

namespace DiceFormula

def toData (formula : DiceFormula) : Value := .text formula.text

def ofData? (value : Value) : Option DiceFormula := value.text?.bind parse?

end DiceFormula

end Skirmish
