/-
**Effects on the ground**: forced movement, teleports and fire.

* `Effect.slide` moves a cell in a direction until something is in the way.
-/

import Skirmish.Effect.Payload

namespace Skirmish.Effect

open Resolve

/-- Which way forced movement goes. -/
inductive Shove where
  | away
  | toward
deriving DecidableEq, Repr

/-- The word for a forced movement. -/
def Shove.verb : Shove → String
  | .away => "pushed"
  | .toward => "pulled"

/-- The direction of a forced movement of somebody at `start`, seen from `origin`. -/
def Shove.direction (shove : Shove) (origin start : Cell) : Int × Int :=
  match shove with
  | .away => origin.directionTo start
  | .toward => start.directionTo origin

/-- Where one comes from a cell in a direction, in at most `count` steps over free cells. -/
def slide (field : Battlefield) (direction : Int × Int) : (count : Nat) → Cell → Cell
  | 0, cell => cell
  | count + 1, cell =>
    let next := cell.step direction
    if field.isFree next then slide field direction count next else cell

/-- Move the target in a straight line from or to whoever acts. -/
def actShove (shove : Shove) (firing : Firing) : Resolve Unit := do
  let feet ← settle (firing.natOr "feet" 0)
  let target ← targetId
  let resolution ← get
  let origin := (← require resolution.actor).position
  let start := (← require target).position
  let direction := shove.direction origin start
  if direction == (0, 0) then return
  let stop := slide resolution.field direction (resolution.config.feetToCells feet) start
  if stop == start then return
  place target stop
  let moved := wrapNat (start.distance stop * resolution.config.feetPerCell)
  let name := (← require target).name
  narrate s!"{name} is {shove.verb} {moved} ft to {stop.text}."

/-- Move whoever acts to the free cell beside the target that is nearest to it. -/
def actTeleport (firing : Firing) : Resolve Unit := do
  let feet ← settle (firing.natOr "feet" 0)
  let target ← targetId
  let resolution ← get
  let range := resolution.config.feetToCells feet
  let origin := (← require resolution.actor).position
  let anchor := (← require target).position
  let landings := anchor.neighbors.filter fun cell =>
    resolution.field.isFree cell && origin.distance cell ≤ range
  match firstLeast? origin.distance landings with
  | none => narrate "No room to teleport."
  | some cell =>
    place resolution.actor cell
    let name := (← require resolution.actor).name
    narrate s!"{name} teleports to {cell.text}."

/-- Set the ground under the target on fire. -/
def actIgnite (damage : Int) : Resolve Unit := do
  let cell := (← require (← get).targetOrActor).position
  modify fun resolution =>
    { resolution with
      field.terrain := resolution.field.terrain.setHazard cell (some (.fire damage)) }
  narrate s!"The ground at {cell.text} bursts into flame."

end Skirmish.Effect
