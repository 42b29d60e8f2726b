/-
**Actions, turn orders and source entries as data.**
-/

import Skirmish.Codec.Combatant
import Skirmish.Combat.Report
import Skirmish.SourceBook
import Skirmish.TurnOrder

namespace Skirmish

open Json (Value Record)

/-! ### The order of turns -/

namespace Slot

def toData (slot : Slot) : Value :=
  .object [("combatant", slot.combatant.toData), ("score", .int slot.score)]

def ofData? (value : Value) : Option Slot := do
  let record ← Record.read? ["combatant", "score"] value
  return ⟨← record.need "combatant" CombatantId.ofData?, ← record.need "score" int32?⟩

end Slot

namespace TurnOrder

def toData (order : TurnOrder) : Value :=
  .object [("slots", .list Slot.toData order.slots), ("index", .nat order.index)]

def ofData? (value : Value) : Option TurnOrder := do
  let record ← Record.read? ["slots", "index"] value
  return ⟨← record.need "slots" (Value.list? Slot.ofData?), ← record.need "index" nat64?⟩

end TurnOrder

/-! ### Sources -/

namespace SourceKind

/-- The kinds by their names in data. -/
def named : List (String × SourceKind) :=
  [("trait", trait), ("skill", skill), ("power", power), ("item", item)]

def toData : SourceKind → Value
  | trait => .text "trait"
  | skill => .text "skill"
  | power => .text "power"
  | item => .text "item"

def ofData? : Value → Option SourceKind := Json.oneOf? named

end SourceKind

namespace SourceEntry

def toData (entry : SourceEntry) : Value :=
  .object [("kind", entry.kind.toData), ("name", .text entry.name), ("text", .text entry.text)]

def ofData? (value : Value) : Option SourceEntry := do
  let record ← Record.read? ["kind", "name", "text"] value
  return ⟨← record.need "kind" SourceKind.ofData?, ← record.need "name" Value.text?,
    ← record.need "text" Value.text?⟩

end SourceEntry

/-! ### Actions -/

namespace AttackRequest

def toData (request : AttackRequest) : Value :=
  .object [("attacker", request.attacker.toData), ("target", request.target.toData),
    ("stat", request.stat.toData), ("defense_stat", request.defenseStat.toData),
    ("skill", .ofOption .text request.skill), ("effects", .texts request.effects),
    ("tier", .nat request.tier)]

def ofData? (value : Value) : Option AttackRequest := do
  let record ← Record.read?
    ["attacker", "target", "stat", "defense_stat", "skill", "effects", "tier"] value
  return {
    attacker := ← record.need "attacker" CombatantId.ofData?
    target := ← record.need "target" CombatantId.ofData?
    stat := ← record.need "stat" Stat.ofData?
    defenseStat := ← record.need "defense_stat" Stat.ofData?
    skill := ← record.maybe "skill" Value.text?
    effects := ← record.need "effects" (Value.list? Value.text?)
    tier := ← record.need "tier" nat32? }

end AttackRequest

namespace Activation

def toData (activation : Activation) : Value :=
  .object [("actor", activation.actor.toData),
    ("target", .ofOption CombatantId.toData activation.target), ("name", .text activation.name),
    ("effects", .texts activation.effects), ("tier", .nat activation.tier)]

def ofData? (value : Value) : Option Activation := do
  let record ← Record.read? ["actor", "target", "name", "effects", "tier"] value
  return {
    actor := ← record.need "actor" CombatantId.ofData?
    target := ← record.maybe "target" CombatantId.ofData?
    name := ← record.need "name" Value.text?
    effects := ← record.need "effects" (Value.list? Value.text?)
    tier := ← record.need "tier" nat32? }

end Activation

namespace CombatAction

def toData : CombatAction → Value
  | .attack request => .object [("Attack", request.toData)]
  | .activate activation => .object [("Activate", activation.toData)]
  | .move actor goal => .object [("Move", .object [("actor", actor.toData), ("to", goal.toData)])]
  | .resolveClash stat =>
    .object [("ResolveClash", .object [("stat", .ofOption Stat.toData stat)])]
  | .endTurn => .text "EndTurn"

def ofData? (value : Value) : Option CombatAction :=
  match Json.choice? value with
  | some ("Attack", some content) => (AttackRequest.ofData? content).map .attack
  | some ("Activate", some content) => (Activation.ofData? content).map .activate
  | some ("Move", some content) => do
    let record ← Record.read? ["actor", "to"] content
    return .move (← record.need "actor" CombatantId.ofData?) (← record.need "to" Cell.ofData?)
  | some ("ResolveClash", some content) => do
    let record ← Record.read? ["stat"] content
    return .resolveClash (← record.maybe "stat" Stat.ofData?)
  | _ => Json.oneOf? [("EndTurn", endTurn)] value

end CombatAction

end Skirmish
