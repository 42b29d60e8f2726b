/-
**Cells of the grid.** A cell is a column and a row; rows grow southward. Diagonal steps cost as
much as straight ones, so the distance of two cells is the greater of their differences.

* `Cell.pathTo` walks a straight line; each coordinate is rounded to the nearest cell, a half away
  from the start.
* `Facing.toward` prefers the horizontal when both directions fit equally well.
-/

import Skirmish.Number

namespace Skirmish

/-- A cell of the grid. -/
structure Cell where
  x : Int
  y : Int
deriving DecidableEq, Repr, Inhabited

/-- A quotient rounded to the nearest whole number, a half away from zero, as plain sums and products
give it. -/
def roundedQuotient (n d : Int) : Int :=
  if 0 ≤ n then (wrap (2 * n + d)).tdiv (wrap (2 * d))
  else -(wrap (2 * -n + d)).tdiv (wrap (2 * d))

namespace Cell

/-- The number of steps between two cells. -/
def distance (first second : Cell) : Nat :=
  max (first.x - second.x).natAbs (first.y - second.y).natAbs

/-- Two cells touch, at a side or a corner. -/
def isAdjacent (first second : Cell) : Bool := first.distance second == 1

/-- A cell moved by some columns and rows. -/
def offset (cell : Cell) (dx dy : Int) : Cell := ⟨cell.x + dx, cell.y + dy⟩

/-- The step in each coordinate that leads toward another cell. -/
def directionTo (cell other : Cell) : Int × Int :=
  ((other.x - cell.x).sign, (other.y - cell.y).sign)

/-- One step in a direction. -/
def step (cell : Cell) (direction : Int × Int) : Cell := cell.offset direction.1 direction.2

/-- The eight cells around, clockwise from the north. -/
def neighbors (cell : Cell) : List Cell :=
  [cell.offset 0 (-1), cell.offset 1 (-1), cell.offset 1 0, cell.offset 1 1,
    cell.offset 0 1, cell.offset (-1) 1, cell.offset (-1) 0, cell.offset (-1) (-1)]

/-- The cells of a straight walk, without its start. Between cells that are too far apart the products
wrap around, and the cells are no line. -/
def pathTo (start stop : Cell) : List Cell :=
  let steps := start.distance stop
  (List.range steps).map fun (before : Nat) =>
    let i : Int := before + 1
    start.offset (roundedQuotient (wrap ((stop.x - start.x) * i)) steps)
      (roundedQuotient (wrap ((stop.y - start.y) * i)) steps)

/-- A cell as it is shown. -/
def text (cell : Cell) : String := s!"({cell.x}, {cell.y})"

end Cell

/-- Where a combatant looks. -/
inductive Facing where
  | north
  | east
  | south
  | west
deriving DecidableEq, Repr, Inhabited

namespace Facing

/-- The four directions, clockwise. -/
def all : List Facing := [north, east, south, west]

/-- One step in the direction of a facing. -/
def vector : Facing → Int × Int
  | north => (0, -1)
  | east => (1, 0)
  | south => (0, 1)
  | west => (-1, 0)

/-- The facing that points best from one cell toward another. -/
def toward (start stop : Cell) : Facing :=
  let dx := stop.x - start.x
  let dy := stop.y - start.y
  if dy.natAbs ≤ dx.natAbs ∧ dx ≠ 0 then
    if 0 < dx then east else west
  else if 0 < dy then south
  else north

/-- Another cell lies behind someone who stands at `cell` and faces this way. -/
def isBehind (facing : Facing) (cell other : Cell) : Bool :=
  (other.x - cell.x) * facing.vector.1 + (other.y - cell.y) * facing.vector.2 < 0

end Facing

end Skirmish
