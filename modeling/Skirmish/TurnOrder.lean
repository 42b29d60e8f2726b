/-
**The order of turns.** Slots are sorted once, by falling initiative, and equal ones keep their
order. Whoever joins later goes to the end.
-/

import Skirmish.CombatantId

namespace Skirmish

/-- A place in the order. -/
structure Slot where
  combatant : CombatantId
  /-- The initiative; the greater acts first. -/
  score : Int
deriving DecidableEq, Repr

/-- The slots and the place of the current one. -/
structure TurnOrder where
  slots : List Slot
  index : Nat
deriving DecidableEq, Repr

namespace TurnOrder

/-- Nobody in the order. -/
def empty : TurnOrder := ⟨[], 0⟩

instance : Inhabited TurnOrder := ⟨empty⟩

/-- The order of some slots. -/
def ofSlots (slots : List Slot) : TurnOrder :=
  ⟨slots.mergeSort fun first second => second.score ≤ first.score, 0⟩

/-- Whose slot is the current one. -/
def current? (order : TurnOrder) : Option CombatantId :=
  (order.slots[order.index]?).map (·.combatant)

/-- The next slot would start a new round. -/
def wraps (order : TurnOrder) : Bool :=
  !order.slots.isEmpty && order.slots.length ≤ order.index + 1

/-- The order at its next slot. -/
def advance (order : TurnOrder) : TurnOrder :=
  if order.slots.isEmpty then order
  else if order.wraps then { order with index := 0 }
  else { order with index := order.index + 1 }

/-- The order with a newcomer at its end. -/
def push (order : TurnOrder) (combatant : CombatantId) (score : Int) : TurnOrder :=
  { order with slots := order.slots ++ [⟨combatant, score⟩] }

/-- The identities in order. -/
def ids (order : TurnOrder) : List CombatantId := order.slots.map (·.combatant)

/-- A combatant has a slot. -/
def contains (order : TurnOrder) (combatant : CombatantId) : Bool := order.ids.contains combatant

end TurnOrder

end Skirmish
