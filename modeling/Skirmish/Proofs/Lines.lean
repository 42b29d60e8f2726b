/-
**How a straight line runs.** A line has as many steps as its ends are apart, so that none is wasted:

* `Cell.distance_along_along`: two cells of a line are as far apart as the steps between them. Every
  step leads to a cell that touches the last one, and with a shortcut the ends would be closer;
* `Cell.within_along`: no coordinate ever leaves the range between its ends;
* `Cell.straight_pathTo`: the walk from a cell to another, cell by cell, where its products fit.
-/

import Skirmish.Proofs.Footholds
import Skirmish.Proofs.Walks

namespace Skirmish

/-! ### Rounded quotients in order -/

theorem nearest_mono {d : Nat} (positive : 0 < d) {n m : Int} (atLeast : 0 ≤ n) (le : n ≤ m) :
    nearest n d ≤ nearest m d := by
  rw [nearest, nearest, if_pos atLeast, if_pos (atLeast.trans le)]
  exact Int.ediv_le_ediv (by omega) (by omega)

/-- A part of a length, rounded, lies between nothing and the whole. -/
theorem nearest_part {d i : Nat} (positive : 0 < d) (part : i ≤ d) (n : Int) :
    min 0 n ≤ nearest (n * i) d ∧ nearest (n * i) d ≤ max 0 n := by
  have rising : ∀ n : Nat, 0 ≤ nearest (n * i) d ∧ nearest (n * i) d ≤ n := by
    intro n
    constructor
    · calc 0 = nearest 0 d := (nearest_zero d).symm
        _ ≤ nearest (n * i) d := nearest_mono positive le_rfl (by positivity)
    · calc nearest (n * i) d ≤ nearest (n * d) d :=
          nearest_mono positive (by positivity) (by gcongr)
        _ = n := nearest_mul positive n
  obtain ⟨n, rfl | rfl⟩ := n.eq_nat_or_neg
  · have := rising n
    omega
  · have := rising n
    rw [Int.neg_mul, nearest_neg]
    omega

namespace Cell

variable {start stop : Cell} {i j : Nat}

/-! ### Distances -/

theorem distance_triangle (one middle other : Cell) :
    one.distance other ≤ one.distance middle + middle.distance other := by
  have way : ∀ a b c : Int, (a - c).natAbs ≤ (a - b).natAbs + (b - c).natAbs := by
    intro a b c
    omega
  exact max_le
    ((way one.x middle.x other.x).trans (Nat.add_le_add (le_max_left ..) (le_max_left ..)))
    ((way one.y middle.y other.y).trans (Nat.add_le_add (le_max_right ..) (le_max_right ..)))

/-- As many steps lead at most that far. -/
theorem distance_along_le (ordered : i ≤ j) (within : j ≤ start.distance stop) :
    (start.along stop i).distance (start.along stop j) ≤ j - i := by
  induction j, ordered using Nat.le_induction with
  | base => simp [distance_self]
  | succ j ordered hyp =>
    have step : (start.along stop j).distance (start.along stop (j + 1)) = 1 :=
      beq_iff_eq.mp (isAdjacent_along within)
    have triangle := distance_triangle (start.along stop i) (start.along stop j)
      (start.along stop (j + 1))
    have before := hyp (by omega)
    omega

/-- **Two cells of a line are as far apart as the steps between them.** -/
theorem distance_along_along (ordered : i ≤ j) (within : j ≤ start.distance stop) :
    (start.along stop i).distance (start.along stop j) = j - i := by
  refine le_antisymm (distance_along_le ordered within) ?_
  -- The line from end to end, by way of both cells: none of its three parts is longer than its steps.
  have first : start.distance (start.along stop i) ≤ i := by
    simpa [along_zero] using distance_along_le (Nat.zero_le i) (ordered.trans within)
  have last : (start.along stop j).distance stop ≤ start.distance stop - j := by
    simpa [along_distance] using distance_along_le within le_rfl
  have triangle := distance_triangle start (start.along stop i) stop
  have triangle' := distance_triangle (start.along stop i) (start.along stop j) stop
  omega

/-! ### The walk -/

/-- A cell in the rectangle that two others span. -/
structure Within (cell start stop : Cell) : Prop where
  column : min start.x stop.x ≤ cell.x ∧ cell.x ≤ max start.x stop.x
  row : min start.y stop.y ≤ cell.y ∧ cell.y ≤ max start.y stop.y

theorem within_along (part : i ≤ start.distance stop) : (start.along stop i).Within start stop := by
  rcases Nat.eq_zero_or_pos (start.distance stop) with none | positive
  · obtain rfl : i = 0 := by omega
    rw [along_zero]
    exact ⟨by omega, by omega⟩
  · have column := nearest_part positive part (stop.x - start.x)
    have row := nearest_part positive part (stop.y - start.y)
    constructor <;> simp only [along, offset] <;> omega

/-- The cells of a straight walk, without its start. -/
structure Straight (start stop : Cell) (cells : List Cell) : Prop where
  /-- There are as many as the ends are apart. -/
  length : cells.length = start.distance stop
  /-- Each step leads one cell away from the start and brings the walker one cell closer. -/
  steady : ∀ i cell, cells[i]? = some cell →
    start.distance cell = i + 1 ∧ cell.distance stop = start.distance stop - (i + 1)
  /-- Each cell touches the one before it, the first one the start. -/
  gapless : (start :: cells).IsChain (fun one other => one.isAdjacent other)
  inside : ∀ cell ∈ cells, cell.Within start stop
  /-- The last cell is the goal, unless the walker is there already. -/
  arrives : cells.getLast? = if start = stop then none else some stop

/-- **A walk to another cell is straight**, whatever its slope, if its ends are not too far apart for its
products to fit. -/
theorem straight_pathTo (drawable : start.Drawable stop) : start.Straight stop (start.pathTo stop) where
  length := length_pathTo start stop
  steady i cell there := by
    rw [pathTo_eq drawable, List.getElem?_map] at there
    obtain ⟨k, among, rfl⟩ := Option.map_eq_some_iff.mp there
    obtain ⟨before, rfl⟩ := List.getElem?_eq_some_iff.mp among
    rw [List.length_range] at before
    rw [List.getElem_range]
    have away := distance_along_along (Nat.zero_le _) before
    have ahead := distance_along_along before le_rfl
    rw [along_zero] at away
    rw [along_distance] at ahead
    exact ⟨away, ahead⟩
  gapless := isChain_pathTo drawable
  inside cell mem := by
    rw [pathTo_eq drawable] at mem
    obtain ⟨i, before, rfl⟩ := List.mem_map.mp mem
    exact within_along (List.mem_range.mp before)
  arrives := by
    have last := getLast?_pathTo drawable
    rw [List.getLast?_cons] at last
    split
    case isTrue same =>
      have none : (start.pathTo stop).length = 0 := by
        rw [length_pathTo, same, distance_self]
      rw [List.eq_nil_of_length_eq_zero none]
      rfl
    case isFalse apart =>
      rcases some : (start.pathTo stop).getLast? with _ | cell
      · -- Without a last cell the walk would end where it starts.
        rw [some] at last
        exact absurd (Option.some.inj last) apart
      · rw [some] at last
        exact last

/-- A walk as long as one may be is straight. -/
theorem straight_farthest : (⟨0, 0⟩ : Cell).Drawable ⟨32767, -12345⟩ ∧
    (⟨0, 0⟩ : Cell).Straight ⟨32767, -12345⟩ ((⟨0, 0⟩ : Cell).pathTo ⟨32767, -12345⟩) := by
  have drawable : (⟨0, 0⟩ : Cell).Drawable ⟨32767, -12345⟩ := drawable_iff.mpr (by decide)
  exact ⟨drawable, straight_pathTo drawable⟩

/-- A half is rounded away from the start, so that the way back is another one. -/
example : (⟨0, 0⟩ : Cell).pathTo ⟨2, 1⟩ = [⟨1, 1⟩, ⟨2, 1⟩] ∧
    (⟨2, 1⟩ : Cell).pathTo ⟨0, 0⟩ = [⟨1, 0⟩, ⟨0, 0⟩] := by decide

end Cell

end Skirmish
