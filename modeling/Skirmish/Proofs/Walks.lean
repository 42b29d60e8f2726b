/-
**Walks.** A move leads along a straight line, cell by cell:

* `roundedQuotient_eq_nearest`, `Cell.drawable_iff`: up to which distance the cells of a walk are exact;
* `Cell.isChain_pathTo`: each cell of the line touches the one before it, whatever its slope;
* `Combat.MayMove`: who may move to a cell, and which cells have to be clear for it;
* `Fight.move_iff`: exactly those moves are granted, and a granted one is a walk over clear cells;
* `Battlefield.Screened`: a cell that an enemy holds together with a teammate of the mover, who is
  looked up first. Only over such a cell does a walk lead past an enemy.
-/

import Mathlib.Data.List.Range
import Mathlib.Tactic.Positivity
import Mathlib.Tactic.Ring
import Skirmish.Proofs.Runs

namespace Skirmish

/-! ### Rounded quotients -/

/-- The whole number nearest to a quotient, a half away from zero. -/
def nearest (n : Int) (d : Nat) : Int :=
  if 0 ≤ n then (2 * n + d) / (2 * d) else -((2 * -n + d) / (2 * d))

/-- Where sums and products fit, a rounded quotient is the nearest number. -/
theorem roundedQuotient_eq_nearest {n : Int} {d : Nat} (whole : FitsInt (2 * n.natAbs + d))
    (twice : FitsInt (2 * d)) : roundedQuotient n d = nearest n d := by
  have divides : ∀ m : Int, 0 ≤ m → m = n.natAbs →
      (wrap (2 * m + d)).tdiv (wrap (2 * d)) = (2 * m + d) / (2 * d) := by
    rintro m nonneg rfl
    rw [wrap_of_fits whole, wrap_of_fits twice, Int.tdiv_eq_ediv_of_nonneg (by omega)]
  unfold roundedQuotient nearest
  split
  · exact divides n (by omega) (by omega)
  · rw [divides (-n) (by omega) (by omega)]

@[simp] theorem nearest_zero (d : Nat) : nearest 0 d = 0 := by
  have half : (d : Int) / (2 * d) = 0 := by
    rcases Nat.eq_zero_or_pos d with rfl | positive
    · rfl
    · exact Int.ediv_eq_zero_of_lt (by omega) (by omega)
  simp [nearest, half]

theorem nearest_neg (n : Int) (d : Nat) :
    nearest (-n) d = -nearest n d := by
  rcases Int.lt_trichotomy n 0 with below | rfl | above
  · simp [nearest, show ¬0 ≤ n by omega, show n ≤ 0 by omega]
  · simp
  · simp [nearest, show ¬n ≤ 0 by omega, show 0 ≤ n by omega]

/-- A quotient without remainder is not rounded. -/
theorem nearest_mul {d : Nat} (positive : 0 < d) (k : Int) :
    nearest (k * d) d = k := by
  have exact : ∀ k : Nat, nearest (k * d) d = k := fun k => by
    have half : (d : Int) / (2 * d) = 0 := Int.ediv_eq_zero_of_lt (by omega) (by omega)
    have whole : 2 * ((k : Int) * d) + d = d + 2 * d * k := by ring
    rw [nearest, if_pos (by positivity), whole, Int.add_mul_ediv_left _ _ (by omega), half,
      Int.zero_add]
  obtain ⟨k, rfl | rfl⟩ := k.eq_nat_or_neg
  · exact exact k
  · rw [Int.neg_mul, nearest_neg, exact]

/-- What is added to a dividend, if it is not more than the divisor, adds at most one to the
quotient. -/
theorem nearest_add {d : Nat} (positive : 0 < d) (n more : Int) (atLeast : 0 ≤ n)
    (rising : 0 ≤ more) (small : more ≤ d) :
    nearest n d ≤ nearest (n + more) d ∧
      nearest (n + more) d ≤ nearest n d + 1 := by
  have next : (2 * n + d + 2 * d) / (2 * (d : Int)) = (2 * n + d) / (2 * d) + 1 := by
    have := Int.add_mul_ediv_left (2 * n + d) 1 (show (2 * (d : Int)) ≠ 0 by omega)
    rwa [Int.mul_one] at this
  rw [nearest, nearest, if_pos atLeast, if_pos (by omega), ← next]
  exact ⟨Int.ediv_le_ediv (by omega) (by omega), Int.ediv_le_ediv (by omega) (by omega)⟩

/-- One more step along a line changes a coordinate by at most one. -/
theorem nearest_step {d : Nat} (positive : 0 < d) {n : Int} (flat : n.natAbs ≤ d) (i : Nat) :
    (nearest (n * i) d - nearest (n * (i + 1 : Nat)) d).natAbs ≤ 1 := by
  have rising : ∀ n : Nat, n ≤ d →
      (nearest (n * i) d - nearest (n * (i + 1 : Nat)) d).natAbs ≤ 1 := by
    intro n flat
    obtain ⟨least, most⟩ := nearest_add positive (n * i) n (by positivity) (by omega)
      (by omega)
    have next : (n : Int) * (i + 1 : Nat) = n * i + n := by push_cast; ring
    rw [next]
    omega
  obtain ⟨n, rfl | rfl⟩ := n.eq_nat_or_neg
  · exact rising n (by simpa using flat)
  · have mirrored := rising n (by simpa using flat)
    rw [Int.neg_mul, Int.neg_mul, nearest_neg, nearest_neg]
    omega

/-- Along a diagonal every step counts. -/
theorem nearest_diagonal {d : Nat} (positive : 0 < d) {n : Int} (steep : n.natAbs = d)
    (i : Nat) : (nearest (n * i) d - nearest (n * (i + 1 : Nat)) d).natAbs = 1 := by
  obtain ⟨n, rfl | rfl⟩ := n.eq_nat_or_neg
  all_goals
    obtain rfl : n = d := by simpa using steep
  · rw [Int.mul_comm, nearest_mul positive, Int.mul_comm, nearest_mul positive]
    omega
  · rw [Int.neg_mul, Int.neg_mul, nearest_neg, nearest_neg, Int.mul_comm,
      nearest_mul positive, Int.mul_comm, nearest_mul positive]
    omega

namespace Cell

variable {start stop : Cell}

/-! ### Straight lines -/

/-- No coordinate of two cells differs by more than they are apart. -/
theorem columns_le_distance (start stop : Cell) :
    (stop.x - start.x).natAbs ≤ start.distance stop := by
  unfold distance
  omega

theorem rows_le_distance (start stop : Cell) :
    (stop.y - start.y).natAbs ≤ start.distance stop := by
  unfold distance
  omega

/-- The greatest number that comes up when a walk is drawn fits: its ends are not too far apart. -/
def Drawable (start stop : Cell) : Prop :=
  FitsInt (2 * (start.distance stop * start.distance stop) + start.distance stop)

/-- They are at most so many steps apart. -/
theorem drawable_iff : start.Drawable stop ↔ start.distance stop ≤ 32767 := by
  unfold Drawable FitsInt leastInt greatestInt
  constructor
  · rintro ⟨-, most⟩
    by_contra far
    have square : (32768 : Int) * 32768 ≤ start.distance stop * start.distance stop := by
      gcongr <;> omega
    omega
  · intro near
    have square : (start.distance stop : Int) * start.distance stop ≤ 32767 * 32767 := by
      gcongr <;> omega
    have nonneg : (0 : Int) ≤ start.distance stop * start.distance stop := by positivity
    omega

instance (start stop : Cell) : Decidable (start.Drawable stop) :=
  inferInstanceAs (Decidable (FitsInt _))

/-- The cell that a straight walk has come to after some of its steps. -/
def along (start stop : Cell) (i : Nat) : Cell :=
  start.offset (nearest ((stop.x - start.x) * i) (start.distance stop))
    (nearest ((stop.y - start.y) * i) (start.distance stop))

/-- Each coordinate of a walk whose ends are not too far apart is exact. -/
theorem Drawable.roundedQuotient (drawable : start.Drawable stop) {gap : Int} {i : Nat}
    (flat : gap.natAbs ≤ start.distance stop) (part : i ≤ start.distance stop) :
    roundedQuotient (wrap (gap * i)) (start.distance stop)
      = nearest (gap * i) (start.distance stop) := by
  have square : (gap * i).natAbs ≤ start.distance stop * start.distance stop := by
    rw [Int.natAbs_mul, Int.natAbs_natCast]
    gcongr
  unfold Drawable FitsInt leastInt greatestInt at drawable
  have once : start.distance stop ≤ start.distance stop * start.distance stop := Nat.le_mul_self _
  have product : FitsInt (gap * i) := by
    unfold FitsInt leastInt greatestInt
    omega
  rw [wrap_of_fits product]
  refine roundedQuotient_eq_nearest ?_ ?_ <;>
  · unfold FitsInt leastInt greatestInt
    omega

theorem along_zero (start stop : Cell) : start.along stop 0 = start := by
  simp [along, offset]

theorem along_distance (start stop : Cell) : start.along stop (start.distance stop) = stop := by
  rcases Nat.eq_zero_or_pos (start.distance stop) with none | positive
  · have same : start.x = stop.x ∧ start.y = stop.y := by
      unfold distance at none
      omega
    rw [none, along_zero]
    exact congrArg₂ Cell.mk same.1 same.2
  · simp [along, offset, nearest_mul positive]

theorem isAdjacent_offset (cell : Cell) (x y x' y' : Int) :
    (cell.offset x y).isAdjacent (cell.offset x' y') ↔
      max (x - x').natAbs (y - y').natAbs = 1 := by
  simp only [isAdjacent, distance, offset, beq_iff_eq]
  omega

/-- A walk goes on to a cell that touches the last one: one coordinate always changes by one, and the
other by at most one. -/
theorem isAdjacent_along {i : Nat} (before : i < start.distance stop) :
    (start.along stop i).isAdjacent (start.along stop (i + 1)) := by
  have positive : 0 < start.distance stop := Nat.zero_lt_of_lt before
  have steep : (stop.x - start.x).natAbs = start.distance stop ∨
      (stop.y - start.y).natAbs = start.distance stop := by
    unfold distance
    omega
  have step := nearest_step positive (columns_le_distance start stop) i
  have step' := nearest_step positive (rows_le_distance start stop) i
  have counts : (nearest ((stop.x - start.x) * i) (start.distance stop) -
        nearest ((stop.x - start.x) * (i + 1 : Nat)) (start.distance stop)).natAbs = 1 ∨
      (nearest ((stop.y - start.y) * i) (start.distance stop) -
        nearest ((stop.y - start.y) * (i + 1 : Nat)) (start.distance stop)).natAbs = 1 :=
    steep.imp (fun steep => nearest_diagonal positive steep i)
      fun steep => nearest_diagonal positive steep i
  rw [along, along, isAdjacent_offset]
  omega

/-- The cells of a walk are those that the line comes to with each step. -/
theorem pathTo_eq (drawable : start.Drawable stop) :
    start.pathTo stop = (List.range (start.distance stop)).map fun i => start.along stop (i + 1) := by
  refine List.map_congr_left fun i among => ?_
  have before := List.mem_range.mp among
  have column := drawable.roundedQuotient (columns_le_distance start stop) before
  have row := drawable.roundedQuotient (rows_le_distance start stop) before
  have step : (i : Int) + 1 = (i + 1 : Nat) := by omega
  simp only [along, step, column, row]

/-- A line with its start is the walk from its first step to its last. -/
theorem cons_pathTo (drawable : start.Drawable stop) :
    start :: start.pathTo stop
      = (List.range (start.distance stop + 1)).map (start.along stop) := by
  rw [pathTo_eq drawable, List.range_succ_eq_map, List.map_cons, along_zero, List.map_map]
  rfl

theorem length_pathTo (start stop : Cell) : (start.pathTo stop).length = start.distance stop := by
  simp [pathTo]

theorem getLast?_pathTo (drawable : start.Drawable stop) :
    (start :: start.pathTo stop).getLast? = some stop := by
  rw [cons_pathTo drawable, List.range_succ, List.map_append]
  simp [along_distance]

/-- **A straight line has no gaps**, whatever its slope. -/
theorem isChain_pathTo (drawable : start.Drawable stop) :
    (start :: start.pathTo stop).IsChain (fun one other => one.isAdjacent other) := by
  rw [cons_pathTo drawable, List.isChain_map, List.isChain_range]
  exact fun i before => isAdjacent_along (by omega)

end Cell

/-! ### What is in the way -/

/-- Off the map everything is a wall. -/
theorem Terrain.inBounds_of_not_isWall {terrain : Terrain} {cell : Cell}
    (ground : ¬terrain.isWall cell) : terrain.inBounds cell := by
  by_contra outside
  exact ground (by simp [isWall, tile, outside])

namespace Battlefield

variable {field : Battlefield} {team : String} {cell : Cell}

/-- Nothing is in a team's way on a cell: it is no wall, and of the living only teammates stand
there. -/
structure Clear (field : Battlefield) (team : String) (cell : Cell) : Prop where
  ground : ¬field.terrain.isWall cell
  friendly : ∀ one ∈ field.living, one.position = cell → one.team = team

/-- An enemy stands on a cell together with a teammate, and whoever looks for its holder finds the
teammate. -/
structure Screened (field : Battlefield) (team : String) (cell : Cell) : Prop where
  ground : ¬field.terrain.isWall cell
  hostile : ∃ one ∈ field.living, one.position = cell ∧ one.team ≠ team
  screen : ∃ one ∈ field.living, one.position = cell ∧ one.team = team ∧
    field.occupant? cell = some one.id

/-- Whoever belongs to a team is let through on a cell. -/
def Passable (field : Battlefield) (team : String) (cell : Cell) : Prop :=
  field.Clear team cell ∨ field.Screened team cell

/-- Where the living have a cell each, nobody is screened. -/
theorem Exclusive.not_screened (exclusive : field.Exclusive) (team : String) (cell : Cell) :
    ¬field.Screened team cell := by
  rintro ⟨-, ⟨enemy, mem, there, hostile⟩, ⟨one, mem', there', same, -⟩⟩
  have alone := List.inj_on_of_nodup_map exclusive mem mem' (there.trans there'.symm)
  exact hostile (alone ▸ same)

/-- A walker is stopped exactly where it is not let through. -/
theorem obstacle?_eq_none_iff (distinct : field.Distinct) :
    Combat.obstacle? field team cell = none ↔ field.Passable team cell := by
  unfold Combat.obstacle?
  by_cases wall : field.terrain.isWall cell
  · rw [if_pos wall]
    exact ⟨fun none => absurd none (by simp), by rintro (⟨ground, -⟩ | ⟨ground, -, -⟩) <;> contradiction⟩
  rw [if_neg wall]
  rcases holds : field.occupant? cell with _ | id
  · have nobody := occupant?_eq_none_iff.mp holds
    exact ⟨fun _ => .inl ⟨wall, fun one mem there => absurd there (nobody one mem)⟩, fun _ => rfl⟩
  obtain ⟨one, mem, there, rfl⟩ := occupant?_eq_some holds
  have found := (find?_eq_some_iff distinct).mpr ⟨(mem_living.mp mem).1, rfl⟩
  simp only [Option.bind_some, found]
  by_cases friend : one.team = team
  · simp only [friend, bne_self_eq_false, Bool.false_eq_true, ↓reduceIte, true_iff]
    by_cases alone : ∀ one ∈ field.living, one.position = cell → one.team = team
    · exact .inl ⟨wall, alone⟩
    · push Not at alone
      exact .inr ⟨wall, alone, one, mem, there, friend, holds⟩
  · simp only [bne_iff_ne, ne_eq, friend, not_false_eq_true, ↓reduceIte, reduceCtorEq, false_iff]
    rintro (⟨-, friendly⟩ | ⟨-, -, other, mem', -, same, holds'⟩)
    · exact friend (friendly one mem there)
    · have alike := distinct.eq_of_id (mem_living.mp mem).1 (mem_living.mp mem').1
        (Option.some.inj (holds.symm.trans holds'))
      exact friend (alike ▸ same)

end Battlefield

open Battlefield

/-! ### Who may move -/

namespace Combat

variable {combat : Combat} {actor : CombatantId} {goal : Cell} {mover : Combatant}

theorem requireTurn_eq_ok_iff : combat.requireTurn actor = .ok mover ↔
    combat.state = .active ∧ combat.field.find? actor = some mover ∧
      combat.order.current? = some actor ∧ mover.isIncapacitated = false := by
  constructor
  · intro granted
    obtain ⟨running, found⟩ := requireTurn_eq_ok granted
    have there : combat.field.require actor = .ok mover := require_eq_ok.mpr found
    simp only [requireTurn, requireRunning, running, there, bind, Except.bind] at granted
    split at granted
    · cases granted
    case isFalse current =>
      split at granted
      · cases granted
      case isFalse able => exact ⟨running, found, by simpa using current, by simpa using able⟩
  · rintro ⟨running, found, current, able⟩
    have there : combat.field.require actor = .ok mover := require_eq_ok.mpr found
    simp [requireTurn, requireRunning, running, there, current, able, bind, Except.bind, pure,
      Except.pure]

/-- A combatant may move to a cell, if the cells on its way are clear. -/
structure MayMove (combat : Combat) (actor : CombatantId) (goal : Cell) (clear : Cell → Prop)
    (mover : Combatant) : Prop where
  running : combat.state = .active
  found : combat.field.find? actor = some mover
  current : combat.order.current? = some actor
  alive : mover.isAlive
  alert : ¬mover.hasCondition "Stunned"
  mobile : ¬mover.hasCondition "Paralyzed"
  rested : ¬mover.turn.moved
  away : goal ≠ mover.position
  inside : combat.field.terrain.inBounds goal
  ground : ¬combat.field.terrain.isWall goal
  vacant : ∀ one ∈ combat.field.living, one.position ≠ goal
  near : mover.position.distance goal ≤ combat.config.movementCells
  way : mover.hasFlag "phasing" ∨ ∀ cell ∈ mover.position.pathTo goal, clear cell

/-- Nothing is refused where a reason for it does not hold, and no later one either. -/
theorem eq_none_of_guard {reason : Prop} [Decidable reason] {text : String} {later : Option String} :
    (if reason then some text else later) = none ↔ ¬reason ∧ later = none := by
  split <;> simp [*]

/-- A move is not refused exactly if it leads over clear cells to a free one in reach. -/
theorem refusal?_eq_none_iff (distinct : combat.field.Distinct) :
    combat.refusal? mover goal = none ↔
      goal ≠ mover.position ∧ combat.field.terrain.inBounds goal ∧
        ¬combat.field.terrain.isWall goal ∧ (∀ one ∈ combat.field.living, one.position ≠ goal) ∧
        mover.position.distance goal ≤ combat.config.movementCells ∧
        (mover.hasFlag "phasing" ∨ ∀ cell ∈ mover.position.pathTo goal,
          combat.field.Passable mover.team cell) := by
  have way : (if mover.hasFlag "phasing" then none
      else (mover.position.pathTo goal).findSome? (obstacle? combat.field mover.team)) = none ↔
      mover.hasFlag "phasing" ∨ ∀ cell ∈ mover.position.pathTo goal,
        combat.field.Passable mover.team cell := by
    simp only [← obstacle?_eq_none_iff distinct, ← List.findSome?_eq_none_iff]
    split <;> simp [*]
  unfold refusal?
  dsimp only
  rw [eq_none_of_guard, eq_none_of_guard, eq_none_of_guard, eq_none_of_guard, eq_none_of_guard, way,
    Option.not_isSome_iff_eq_none, occupant?_eq_none_iff]
  simp

/-- Who may move is whoever has its turn and is not refused the cell. -/
theorem mayMove_iff (distinct : combat.field.Distinct) :
    combat.MayMove actor goal (combat.field.Passable mover.team) mover ↔
      combat.requireTurn actor = .ok mover ∧ mover.turn.moved = false ∧
        combat.refusal? mover goal = none := by
  have able : mover.isIncapacitated = false ↔ mover.isAlive ∧ ¬mover.hasCondition "Stunned" ∧
      ¬mover.hasCondition "Paralyzed" := by
    simp [Combatant.isIncapacitated, Combatant.incapacitating]
  rw [requireTurn_eq_ok_iff, refusal?_eq_none_iff distinct, able]
  constructor
  · intro may
    exact ⟨⟨may.running, may.found, may.current, may.alive, may.alert, may.mobile⟩,
      by simpa using may.rested, may.away, may.inside, may.ground, may.vacant, may.near, may.way⟩
  · rintro ⟨⟨running, found, current, alive, alert, mobile⟩, rested, away, inside, ground, vacant,
      near, way⟩
    exact ⟨running, found, current, alive, alert, mobile, by simpa using rested, away, inside, ground,
      vacant, near, way⟩

/-- A walk to a cell over clear ones. Nothing changes but where the mover stands, where it looks, that
it has moved, and the record. -/
structure Walked (before : Combat) (actor : CombatantId) (goal : Cell) (clear : Cell → Prop)
    (mover : Combatant) (after : Combat) : Prop where
  changed : ∃ event, after = { before with
    field := before.field.update actor fun one =>
      { one with position := goal, facing := .toward mover.position goal, turn.moved := true }
    events := before.events ++ [event] }
  /-- Cell by cell, unless the mover passes through everything. Products of a longer walk wrap around,
  and its cells are no line. -/
  walk : ¬mover.hasFlag "phasing" → mover.position.Drawable goal → ∃ cells : List Cell,
    (mover.position :: cells).IsChain (fun one next => one.isAdjacent next) ∧
      (mover.position :: cells).getLast? = some goal ∧
      cells.length = mover.position.distance goal ∧
      cells.length ≤ before.config.movementCells ∧
      ∀ cell ∈ cells, before.field.terrain.inBounds cell ∧ clear cell

end Combat

namespace Fight

variable {before : Combat} {actor : CombatantId} {goal : Cell}

/-- Nothing can fail about a move that is not refused. -/
theorem move_of_mayMove (distinct : before.field.Distinct) {mover : Combatant}
    (may : before.MayMove actor goal (before.field.Passable mover.team) mover) :
    ∃ report event, move actor goal before = (.ok report, { before with
      field := before.field.update actor fun one =>
        { one with position := goal, facing := .toward mover.position goal, turn.moved := true }
      events := before.events ++ [event] }) := by
  obtain ⟨granted, rested, allowed⟩ := (Combat.mayMove_iff distinct).mp may
  have found := may.found
  have free : before.field.isFree goal :=
    isFree_iff.mpr ⟨by simp [Terrain.isWalkable, may.inside, may.ground], may.vacant⟩
  have placed := place_of_free (present_of_find? found) free
  -- Both changes of the mover are one.
  have once := before.field.update_comp (fun one => { one with position := goal })
    (fun one => { one with facing := .toward mover.position goal, turn.moved := true }) found
    fun _ => rfl
  unfold move
  rw [run_get_bind, granted, settle_ok, run_pure_bind]
  simp only [rested, Bool.false_eq_true, ↓reduceIte, allowed, placed, settle_ok, run_pure_bind]
  rw [once]
  exact ⟨_, _, rfl⟩

/-- A move that is answered was not refused. -/
theorem mayMove_of_move (distinct : before.field.Distinct) {report : MoveReport} {after : Combat}
    (run : move actor goal before = (.ok report, after)) :
    ∃ mover, before.MayMove actor goal (before.field.Passable mover.team) mover := by
  unfold move at run
  rw [run_get_bind] at run
  rcases granted : before.requireTurn actor with error | mover
  · rw [granted] at run
    cases run
  rw [granted, settle_ok, run_pure_bind] at run
  split at run
  · cases run
  case isFalse rested =>
    rcases refused : before.refusal? mover goal with _ | reason
    · exact ⟨mover, (Combat.mayMove_iff distinct).mpr ⟨granted, by simpa using rested, refused⟩⟩
    · simp only [refused] at run
      cases run

/-- **Moves.** Granted is exactly a move of somebody alive and able, in its turn and once in it, to a
free cell in reach, over cells that are no walls and that no enemy holds; and then the mover walks
there cell by cell, and nothing else changes. There is one exception: past an enemy who shares its
cell with a teammate of the mover it is let through, if the teammate is found first. Where the living
have a cell each, there is no such cell. -/
theorem move_iff (distinct : before.field.Distinct) (actor : CombatantId) (goal : Cell) :
    ((∃ report after, move actor goal before = (.ok report, after)) ↔
      ∃ mover, before.MayMove actor goal (before.field.Passable mover.team) mover) ∧
    (∀ report after, move actor goal before = (.ok report, after) →
      ∃ mover, before.field.find? actor = some mover ∧
        before.Walked actor goal (before.field.Passable mover.team) mover after) ∧
    (before.field.Exclusive → ∀ team cell, ¬before.field.Screened team cell) := by
  refine ⟨⟨fun ⟨report, after, run⟩ => mayMove_of_move distinct run, fun ⟨mover, may⟩ => ?_⟩,
    fun report after run => ?_, Exclusive.not_screened⟩
  · obtain ⟨report, event, run⟩ := move_of_mayMove distinct may
    exact ⟨report, _, run⟩
  · obtain ⟨mover, may⟩ := mayMove_of_move distinct run
    obtain ⟨_, event, run'⟩ := move_of_mayMove distinct may
    refine ⟨mover, may.found, ⟨event, (Prod.mk.inj (run.symm.trans run')).2⟩,
      fun bound drawable => ?_⟩
    have clear := may.way.resolve_left bound
    refine ⟨mover.position.pathTo goal, Cell.isChain_pathTo drawable, Cell.getLast?_pathTo drawable,
      Cell.length_pathTo .., (Cell.length_pathTo ..).trans_le may.near, fun cell mem => ?_⟩
    have ground : ¬before.field.terrain.isWall cell :=
      (clear cell mem).elim (fun clear => clear.ground) fun screened => screened.ground
    exact ⟨Terrain.inBounds_of_not_isWall ground, clear cell mem⟩

/-- The one who acts first may go past her opponent. -/
theorem walked_aria : (duelUnderway []).field.Distinct ∧ aria.position.Drawable ⟨3, 2⟩ ∧
    (∃ report after, move ⟨1⟩ ⟨3, 2⟩ (duelUnderway []) = (.ok report, after)) ∧
    (duelUnderway []).field.Clear "red" ⟨2, 2⟩ := by
  have distinct : (duelUnderway []).field.Distinct := opens_duel.filled.sound.distinct
  have clear : (duelUnderway []).field.Clear "red" ⟨2, 2⟩ := ⟨by decide +kernel, by decide +kernel⟩
  have goal : (duelUnderway []).field.Clear "red" ⟨3, 2⟩ := ⟨by decide +kernel, by decide +kernel⟩
  refine ⟨distinct, Cell.drawable_iff.mpr (by decide),
    (move_iff distinct ⟨1⟩ ⟨3, 2⟩).1.mpr ⟨aria, ?_⟩, clear⟩
  have line : aria.position.pathTo ⟨3, 2⟩ = [⟨2, 2⟩, ⟨3, 2⟩] := by decide +kernel
  refine ⟨rfl, rfl, rfl, by decide +kernel, by decide +kernel, by decide +kernel, by decide +kernel,
    by decide +kernel, by decide +kernel, by decide +kernel, by decide +kernel, by decide +kernel,
    .inr ?_⟩
  rw [line]
  simpa using ⟨Or.inl clear, Or.inl goal⟩

end Fight

/-! ### Past an enemy -/

/-- A teammate of Aria, on the other side of her. -/
def comrade : Combatant := { aria with id := ⟨3⟩, name := "Cole", position := ⟨0, 1⟩ }

/-- The turn of the teammate, after Aria has got up again on the cell onto which she had pulled her
opponent. -/
def entangled : Combat :=
  { duelUnderway [] with
    field := ⟨[aria, { dorn with position := ⟨1, 1⟩ }, comrade], .plain 5 5⟩
    order := ⟨[⟨⟨3⟩, 10⟩], 0⟩ }

/-- A walk can lead past an enemy, who is not seen for the teammate on its cell. -/
theorem Fight.not_forall_clear_of_move : ¬∀ (before : Combat) (actor : CombatantId) (goal : Cell)
    (report : MoveReport) (after : Combat), before.field.Distinct →
      Fight.move actor goal before = (.ok report, after) →
      ∃ mover, before.MayMove actor goal (before.field.Clear mover.team) mover := by
  intro claimed
  have distinct : (entangled.field.roster.map Combatant.id).Nodup := by decide +kernel
  have line : comrade.position.pathTo ⟨2, 1⟩ = [⟨1, 1⟩, ⟨2, 1⟩] := by decide +kernel
  have screened : entangled.field.Screened comrade.team ⟨1, 1⟩ :=
    ⟨by decide +kernel, by decide +kernel, by decide +kernel⟩
  have goal : entangled.field.Clear comrade.team ⟨2, 1⟩ := ⟨by decide +kernel, by decide +kernel⟩
  have may : entangled.MayMove ⟨3⟩ ⟨2, 1⟩ (entangled.field.Passable comrade.team) comrade :=
    ⟨rfl, rfl, rfl, by decide +kernel, by decide +kernel, by decide +kernel, by decide +kernel,
      by decide +kernel, by decide +kernel, by decide +kernel, by decide +kernel,
      by decide +kernel, .inr (by rw [line]; simpa using ⟨.inr screened, .inl goal⟩)⟩
  obtain ⟨report, event, run⟩ := Fight.move_of_mayMove distinct may
  obtain ⟨mover, may⟩ := claimed entangled ⟨3⟩ ⟨2, 1⟩ report _ distinct run
  obtain rfl : comrade = mover := Option.some.inj (.trans (by rfl) may.found)
  have clear := may.way.resolve_left (by decide +kernel) ⟨1, 1⟩ (by rw [line]; simp)
  obtain ⟨enemy, mem, there, hostile⟩ := screened.hostile
  exact hostile (clear.friendly enemy mem there)

end Skirmish
