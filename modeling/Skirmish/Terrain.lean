/-
**Terrain.** A rectangle of floor, walls and cover, with hazards on some cells. Cells off the map
count as walls. Who stands where is not part of the terrain.
-/

import Skirmish.Cell

namespace Skirmish

/-- What a cell is made of. -/
inductive Tile where
  | floor
  | wall
  | cover
deriving DecidableEq, Repr

/-- Something that harms whoever begins a turn on it. -/
structure Hazard where
  name : String
  damage : Int
  damageType : String
deriving DecidableEq, Repr

/-- Burning ground. -/
def Hazard.fire (damage : Int) : Hazard := ⟨"Fire", damage, "Fire"⟩

/-- The ground of a battlefield. -/
structure Terrain where
  width : Int
  height : Int
  ground : Cell → Tile
  hazard? : Cell → Option Hazard

namespace Terrain

/-- Open ground of a given size. -/
def plain (width height : Int) : Terrain where
  width := max width 0
  height := max height 0
  ground := fun _ => .floor
  hazard? := fun _ => none

/-- The cell lies on the map. -/
def inBounds (terrain : Terrain) (cell : Cell) : Bool :=
  0 ≤ cell.x && 0 ≤ cell.y && cell.x < terrain.width && cell.y < terrain.height

/-- What a cell is made of, walls off the map. -/
def tile (terrain : Terrain) (cell : Cell) : Tile :=
  if terrain.inBounds cell then terrain.ground cell else .wall

/-- The cell blocks movement. -/
def isWall (terrain : Terrain) (cell : Cell) : Bool := terrain.tile cell == .wall

/-- Whoever stands on the cell is behind cover. -/
def isCover (terrain : Terrain) (cell : Cell) : Bool := terrain.tile cell == .cover

/-- The cell is on the map and no wall. -/
def isWalkable (terrain : Terrain) (cell : Cell) : Bool :=
  terrain.inBounds cell && !terrain.isWall cell

/-- The terrain with another tile at a cell. -/
def setTile (terrain : Terrain) (cell : Cell) (tile : Tile) : Terrain :=
  { terrain with ground := fun other => if other = cell then tile else terrain.ground other }

/-- The terrain with a cell blocked or cleared. -/
def setBlocked (terrain : Terrain) (cell : Cell) (blocked : Bool) : Terrain :=
  terrain.setTile cell (if blocked then .wall else .floor)

/-- The terrain with another hazard, or none, at a cell. -/
def setHazard (terrain : Terrain) (cell : Cell) (hazard : Option Hazard) : Terrain :=
  { terrain with hazard? := fun other => if other = cell then hazard else terrain.hazard? other }

end Terrain

end Skirmish
