/-
**The battlefield.** A roster of combatants on a terrain. A living combatant holds its cell; the
fallen stay in the roster but hold none.

* `Battlefield.place` moves a combatant to a walkable cell that nobody else holds.
* `Battlefield.nearestFree?` searches outward ring by ring; within a ring, rows come first.
-/

import Skirmish.Combatant
import Skirmish.Error
import Skirmish.Number
import Skirmish.Terrain

namespace Skirmish

/-- Combatants on their terrain. -/
structure Battlefield where
  roster : List Combatant
  terrain : Terrain

namespace Battlefield

/-- A terrain with nobody on it. -/
def empty (terrain : Terrain) : Battlefield := ⟨[], terrain⟩

/-! ### Looking -/

/-- The combatant of an identity. -/
def find? (field : Battlefield) (id : CombatantId) : Option Combatant :=
  field.roster.find? (·.id == id)

/-- The combatant of an identity, or the refusal that says it is missing. -/
def require (field : Battlefield) (id : CombatantId) : Except Error Combatant :=
  match field.find? id with
  | some combatant => .ok combatant
  | none => .error (.combatantNotFound id)

/-- Everyone with hit points left. -/
def living (field : Battlefield) : List Combatant := field.roster.filter (·.isAlive)

/-- Who holds a cell. -/
def occupant? (field : Battlefield) (cell : Cell) : Option CombatantId :=
  (field.living.find? (·.position == cell)).map (·.id)

/-- The cell is walkable and nobody holds it. -/
def isFree (field : Battlefield) (cell : Cell) : Bool :=
  field.terrain.isWalkable cell && (field.occupant? cell).isNone

/-- The cells at an exact distance, row by row. -/
def ring (origin : Cell) (radius : Nat) : List Cell :=
  let offsets := (List.range (2 * radius + 1)).map fun (k : Nat) => (k : Int) - radius
  (offsets.flatMap fun dy => offsets.map fun dx => origin.offset dx dy).filter
    (origin.distance · == radius)

/-- The first free cell in `count` rings, the innermost of which has the given radius. -/
def freeInRings? (field : Battlefield) (origin : Cell) : (count radius : Nat) → Option Cell
  | 0, _ => none
  | count + 1, radius =>
    match (ring origin radius).find? field.isFree with
    | some cell => some cell
    | none => field.freeInRings? origin count (radius + 1)

/-- The free cell nearest to another, at most `radius` steps away. A radius beyond the signed range
counts as none. -/
def nearestFree? (field : Battlefield) (origin : Cell) (radius : Nat) : Option Cell :=
  if field.isFree origin then some origin
  else field.freeInRings? origin (if (radius : Int) ≤ greatestInt then radius else 0) 1

/-- The living others of a combatant's team. -/
def alliesOf (field : Battlefield) (id : CombatantId) : List Combatant :=
  match field.find? id with
  | none => []
  | some self => field.living.filter fun other => other.id != id && other.team == self.team

/-- The living combatants of other teams. -/
def enemiesOf (field : Battlefield) (id : CombatantId) : List Combatant :=
  match field.find? id with
  | none => []
  | some self => field.living.filter (·.team != self.team)

/-- The teams with a living member, in order. -/
def teamsStanding (field : Battlefield) : List String :=
  (NameSet.ofNames (field.living.map (·.team))).names

/-! ### Changing -/

/-- The battlefield with one combatant changed. -/
def update (field : Battlefield) (id : CombatantId) (change : Combatant → Combatant) :
    Battlefield :=
  { field with roster := updateFirst (·.id == id) change field.roster }

/-- A newcomer at its cell. -/
def add (field : Battlefield) (combatant : Combatant) : Except Error Battlefield :=
  if (field.find? combatant.id).isSome then .error (.duplicateCombatant combatant.id)
  else if !field.terrain.isWalkable combatant.position then
    .error (.notWalkable combatant.position)
  else if combatant.isAlive && (field.occupant? combatant.position).isSome then
    .error (.cellOccupied combatant.position)
  else .ok { field with roster := field.roster ++ [combatant] }

/-- The battlefield without a combatant. -/
def remove (field : Battlefield) (id : CombatantId) : Except Error Battlefield := do
  let _ ← field.require id
  return { field with roster := field.roster.eraseP (·.id == id) }

/-- A combatant moved to a walkable cell that nobody else holds. -/
def place (field : Battlefield) (id : CombatantId) (cell : Cell) : Except Error Battlefield :=
  if !field.terrain.isWalkable cell then .error (.notWalkable cell)
  else if (field.occupant? cell).any (· != id) then .error (.cellOccupied cell)
  else if (field.find? id).isNone then .error (.combatantNotFound id)
  else .ok (field.update id fun combatant => { combatant with position := cell })

/-- Two distinct combatants, when both are there. -/
def pair? (field : Battlefield) (first second : CombatantId) : Option (Combatant × Combatant) := do
  if first = second then none
  else return (← field.find? first, ← field.find? second)

/-- Two combatants with their cells exchanged. -/
def swap (field : Battlefield) (first second : CombatantId) : Except Error Battlefield :=
  match field.pair? first second with
  | none => .error (.combatantNotFound second)
  | some (one, other) =>
    .ok ((field.update first ({ · with position := other.position })).update second
      ({ · with position := one.position }))

end Battlefield

end Skirmish
