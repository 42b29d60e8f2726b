/-
**A supply of dice.** Every die of a fight is drawn from one supply, so that the same supply replays
the same fight. A supply is a script of faces or a generator; it remembers what was drawn.

* A scripted face is moved into the range of the die; after the script every die shows its middle
  face, rounded up.
* Of a generator nothing is known but that it shows a side of every die, and the same sides to the same
  questions. How far a die moves it may depend on the sides of the die.
* `draw_mem_range`: a die with sides always shows one of them.
-/

import Skirmish.Dice.Die

namespace Skirmish

/-- A generator of faces, by its answers. -/
structure Generator where
  /-- The face of a die with sides after dice with given sides, latest first. -/
  face : (asked : List Nat) → (sides : Nat) → Nat
  face_mem_range : ∀ asked {sides : Nat}, 1 ≤ sides → 1 ≤ face asked sides ∧ face asked sides ≤ sides

/-- Every die shows its least side. -/
instance : Inhabited Generator := ⟨fun _ _ => 1, fun _ _ positive => ⟨Nat.le_refl 1, positive⟩⟩

/-- Where faces come from. -/
inductive FaceSource where
  /-- Fixed faces, in order. -/
  | script (faces : List Nat)
  /-- A generator and the sides of the dice it was asked for, latest first. -/
  | stream (generator : Generator) (asked : List Nat)

/-- A die that was drawn. -/
structure Draw where
  sides : Nat
  face : Nat
deriving DecidableEq, Repr

/-- A supply of dice, with the dice drawn from it so far, latest first. -/
structure Dice where
  source : FaceSource
  drawn : List Draw := []

namespace FaceSource

/-- The next face of a die with sides, and the source after it. -/
def next (sides : Nat) : FaceSource → Nat × FaceSource
  | .script [] => ((sides + 1) / 2, .script [])
  | .script (face :: rest) => (max 1 (min face sides), .script rest)
  | .stream generator asked => (generator.face asked sides, .stream generator (sides :: asked))

/-- The scripted faces that are left. -/
def left : FaceSource → List Nat
  | .script faces => faces
  | .stream .. => []

theorem next_mem_range (source : FaceSource) {sides : Nat} (positive : 1 ≤ sides) :
    1 ≤ (source.next sides).1 ∧ (source.next sides).1 ≤ sides := by
  match source with
  | .script [] => simp only [next]; omega
  | .script (face :: rest) => simp only [next]; omega
  | .stream generator asked => exact generator.face_mem_range asked positive

end FaceSource

namespace Dice

/-- Dice that show given faces. -/
def scripted (faces : List Nat) : Dice := { source := .script faces }

/-- Dice of a generator that was not asked yet. -/
def generated (generator : Generator) : Dice := { source := .stream generator [] }

/-- The face of the next die and the supply after it. A die without sides shows zero and uses
nothing up. -/
def draw (dice : Dice) (sides : Nat) : Nat × Dice :=
  if sides = 0 then (0, dice)
  else
    let (face, source) := dice.source.next sides
    (face, { source, drawn := ⟨sides, face⟩ :: dice.drawn })

/-- The supply with one more face at the end of its script. -/
def push (dice : Dice) (face : Nat) : Dice :=
  match dice.source with
  | .script faces => { dice with source := .script (faces ++ [face]) }
  | .stream .. => dice

/-- The scripted faces that are left. -/
def left (dice : Dice) : List Nat := dice.source.left

/-- The faces of several dice of one kind. -/
def drawMany (dice : Dice) (sides : Nat) : Nat → List Nat × Dice
  | 0 => ([], dice)
  | count + 1 =>
    let (face, dice) := dice.draw sides
    let (faces, dice) := dice.drawMany sides count
    (face :: faces, dice)

theorem draw_mem_range (dice : Dice) {sides : Nat} (positive : 1 ≤ sides) :
    1 ≤ (dice.draw sides).1 ∧ (dice.draw sides).1 ≤ sides := by
  have nonzero : sides ≠ 0 := by omega
  simpa [draw, nonzero] using dice.source.next_mem_range positive

end Dice

/-! ### Twenty-sided dice in pairs -/

/-- Which of two dice is kept. -/
inductive RollMode where
  | normal
  | advantage
  | disadvantage
deriving DecidableEq, Repr

namespace RollMode

/-- Advantage and disadvantage cancel. -/
def ofFlags : (advantage disadvantage : Bool) → RollMode
  | true, false => advantage
  | false, true => disadvantage
  | _, _ => normal

/-- The face that is kept: the first, the higher or the lower one. -/
def keep (mode : RollMode) (first second : Nat) : Nat :=
  match mode with
  | normal => first
  | advantage => max first second
  | disadvantage => min first second

/-- A mode as it is shown. -/
def text : RollMode → String
  | normal => "normal"
  | advantage => "advantage"
  | disadvantage => "disadvantage"

end RollMode

/-- Two twenty-sided dice, drawn before it is known which one counts. -/
structure DicePair where
  first : Nat
  second : Nat
deriving DecidableEq, Repr

namespace DicePair

/-- Draw both dice. -/
def draw (dice : Dice) : DicePair × Dice :=
  let (first, dice) := dice.draw 20
  let (second, dice) := dice.draw 20
  (⟨first, second⟩, dice)

/-- The face that counts. -/
def natural (pair : DicePair) (mode : RollMode) : Nat := mode.keep pair.first pair.second

end DicePair

end Skirmish
