/-
**Forced movement.** Whoever is pushed or pulled slides in one of eight directions, which is settled
before the slide begins:

* `isGreatest_slide`: it comes as far as the way is open, and no farther than the effect reaches;
* `run_shove`: how a push and a pull run, on any field;
* `shove_spaced`: where the living stand apart, nothing else changes, and they still stand apart;
* `farther_of_pull_iff`: a pull does not stop beside whoever pulls. Past it, the slide leads away
  again, and the target may end farther off than it began.
-/

import Mathlib.Order.Bounds.Basic
import Mathlib.Tactic.Ring
import Skirmish.Effect.Act
import Skirmish.Proofs.Footholds
import Skirmish.Proofs.Runs

namespace Skirmish

/-! ### Cells in a row -/

namespace Cell

variable {origin start : Cell} {direction : Int × Int} {steps : Nat}

/-- Where one comes by some steps in a direction. -/
def onward (cell : Cell) (direction : Int × Int) (steps : Nat) : Cell :=
  cell.offset (steps * direction.1) (steps * direction.2)

@[simp] theorem onward_zero (cell : Cell) (direction : Int × Int) :
    cell.onward direction 0 = cell := by
  simp [onward, offset]

theorem step_onward (cell : Cell) (direction : Int × Int) (steps : Nat) :
    (cell.step direction).onward direction steps = cell.onward direction (steps + 1) := by
  simp only [onward, step, offset, Cell.mk.injEq]
  push_cast
  exact ⟨by ring, by ring⟩

theorem onward_eq_self (still : direction ≠ (0, 0)) :
    start.onward direction steps = start ↔ steps = 0 := by
  constructor
  · intro same
    by_contra moved
    obtain ⟨x, y⟩ := start
    simp only [onward, offset, Cell.mk.injEq, add_eq_left, mul_eq_zero, Nat.cast_eq_zero, moved,
      false_or] at same
    exact still (Prod.ext same.1 same.2)
  · rintro rfl
    exact onward_zero start direction

/-- Whoever goes straight away from a cell is one farther from it with every step. -/
theorem distance_onward_away (apart : start ≠ origin) :
    origin.distance (start.onward (origin.directionTo start) steps)
      = origin.distance start + steps := by
  obtain ⟨x, y⟩ := origin
  obtain ⟨x', y'⟩ := start
  simp only [ne_eq, Cell.mk.injEq, onward, directionTo, offset, distance] at apart ⊢
  rcases sign_cases (x' - x) with ⟨_, sign⟩ | ⟨_, sign⟩ | ⟨_, sign⟩ <;>
    rcases sign_cases (y' - y) with ⟨_, sign'⟩ | ⟨_, sign'⟩ | ⟨_, sign'⟩ <;>
    rw [sign, sign'] <;> omega

/-- How many steps toward a cell and past it bring nobody farther from it than before. -/
def leeway (origin start : Cell) : Nat :=
  if start.x = origin.x ∨ start.y = origin.y then 2 * origin.distance start
  else (start.x - origin.x).natAbs + (start.y - origin.y).natAbs

/-- Steps in the direction of a cell lead farther from it exactly if they are more than the leeway. -/
theorem distance_lt_onward_toward (apart : start ≠ origin) (steps : Nat) :
    origin.distance start < origin.distance (start.onward (start.directionTo origin) steps) ↔
      leeway origin start < steps := by
  obtain ⟨x, y⟩ := origin
  obtain ⟨x', y'⟩ := start
  simp only [ne_eq, Cell.mk.injEq, onward, directionTo, offset, distance, leeway] at apart ⊢
  rcases sign_cases (x - x') with ⟨_, sign⟩ | ⟨_, sign⟩ | ⟨_, sign⟩ <;>
    rcases sign_cases (y - y') with ⟨_, sign'⟩ | ⟨_, sign'⟩ | ⟨_, sign'⟩ <;>
    rw [sign, sign'] <;> split <;> omega

theorem distance_le_leeway (origin start : Cell) : origin.distance start ≤ leeway origin start := by
  simp only [distance, leeway]
  split <;> omega

theorem distance_pos (apart : start ≠ origin) : 1 ≤ origin.distance start :=
  Nat.pos_of_ne_zero fun none => apart (eq_of_distance_eq_zero none)

/-- Two cells lie in a row, in a column or on a diagonal. -/
def InLine (one other : Cell) : Prop :=
  one.x = other.x ∨ one.y = other.y ∨ (one.x - other.x).natAbs = (one.y - other.y).natAbs

/-- In line with a cell, the steps toward it come upon it. -/
theorem onward_distance (line : origin.InLine start) :
    start.onward (start.directionTo origin) (origin.distance start) = origin := by
  obtain ⟨x, y⟩ := origin
  obtain ⟨x', y'⟩ := start
  simp only [InLine, onward, directionTo, offset, distance, Cell.mk.injEq] at line ⊢
  rcases sign_cases (x - x') with ⟨_, sign⟩ | ⟨_, sign⟩ | ⟨_, sign⟩ <;>
    rcases sign_cases (y - y') with ⟨_, sign'⟩ | ⟨_, sign'⟩ | ⟨_, sign'⟩ <;>
    rw [sign, sign'] <;> omega

theorem directionTo_ne_zero (apart : start ≠ origin) : start.directionTo origin ≠ (0, 0) := by
  intro still
  obtain ⟨x, y⟩ := origin
  obtain ⟨x', y'⟩ := start
  simp only [directionTo, Prod.mk.injEq, Int.sign_eq_zero_iff_zero] at still
  exact apart (by rw [Cell.mk.injEq]; omega)

end Cell

/-! ### The slide -/

namespace Battlefield

variable {field : Battlefield} {direction : Int × Int} {start : Cell} {steps : Nat}

/-- Each of the next cells in a direction is walkable, and none of the living stands there. -/
def Unobstructed (field : Battlefield) (start : Cell) (direction : Int × Int) (steps : Nat) : Prop :=
  ∀ step, 1 ≤ step → step ≤ steps → field.terrain.isWalkable (start.onward direction step) ∧
    ∀ one ∈ field.living, one.position ≠ start.onward direction step

theorem unobstructed_zero : field.Unobstructed start direction 0 :=
  fun _ first last => absurd (first.trans last) (by omega)

theorem unobstructed_succ_iff : field.Unobstructed start direction (steps + 1) ↔
    field.isFree (start.step direction) ∧
      field.Unobstructed (start.step direction) direction steps := by
  have next : start.step direction = start.onward direction 1 := by
    rw [← Cell.step_onward, Cell.onward_zero]
  rw [isFree_iff, next]
  constructor
  · intro unobstructed
    refine ⟨unobstructed 1 le_rfl (by omega), fun step first last => ?_⟩
    rw [← next, Cell.step_onward]
    exact unobstructed (step + 1) (by omega) (by omega)
  · rintro ⟨here, later⟩ step first last
    obtain rfl | ⟨before, rfl⟩ : step = 1 ∨ ∃ before, step = before + 1 + 1 :=
      (Nat.eq_or_lt_of_le first).imp Eq.symm fun more => ⟨step - 2, by omega⟩
    · exact here
    · have there := later (before + 1) (by omega) (by omega)
      rwa [← next, Cell.step_onward] at there

theorem Unobstructed.mono {fewer : Nat} (unobstructed : field.Unobstructed start direction steps)
    (few : fewer ≤ steps) : field.Unobstructed start direction fewer :=
  fun step first last => unobstructed step first (last.trans few)

/-- Nobody slides past a cell on which somebody alive stands. -/
theorem Unobstructed.lt_of_mem_living {one : Combatant} {step : Nat}
    (unobstructed : field.Unobstructed start direction steps) (mem : one ∈ field.living)
    (first : 1 ≤ step) (there : start.onward direction step = one.position) : steps < step := by
  by_contra past
  exact (unobstructed step first (by omega)).2 one mem there.symm

end Battlefield

namespace Effect

open Battlefield Resolve

variable {field : Battlefield} {direction : Int × Int}

/-- The lengths of the slides that an effect allows: no longer than it reaches, over open ground. -/
def slides (field : Battlefield) (start : Cell) (direction : Int × Int) (reach : Nat) : Set Nat :=
  {steps | steps ≤ reach ∧ field.Unobstructed start direction steps}

/-- With a slide, all shorter ones are allowed. -/
theorem mem_slides_iff {start : Cell} {reach most steps : Nat}
    (greatest : IsGreatest (slides field start direction reach) most) :
    steps ∈ slides field start direction reach ↔ steps ≤ most :=
  ⟨fun allowed => greatest.2 allowed,
    fun few => ⟨few.trans greatest.1.1, greatest.1.2.mono few⟩⟩

/-- A slide is the longest that is allowed. -/
theorem isGreatest_slide (field : Battlefield) (direction : Int × Int) (reach : Nat) (start : Cell) :
    ∃ steps, IsGreatest (slides field start direction reach) steps ∧
      slide field direction reach start = start.onward direction steps := by
  induction reach generalizing start with
  | zero =>
    exact ⟨0, ⟨⟨le_rfl, unobstructed_zero⟩, fun _ allowed => allowed.1⟩,
      (Cell.onward_zero start direction).symm⟩
  | succ reach hyp =>
    by_cases free : field.isFree (start.step direction)
    · obtain ⟨steps, ⟨⟨within, unobstructed⟩, most⟩, stops⟩ := hyp (start.step direction)
      refine ⟨steps + 1, ⟨⟨by omega, unobstructed_succ_iff.mpr ⟨free, unobstructed⟩⟩, ?_⟩, ?_⟩
      · rintro (_ | others) ⟨within', unobstructed'⟩
        · exact Nat.zero_le _
        · exact Nat.succ_le_succ (most ⟨Nat.le_of_succ_le_succ within',
            (unobstructed_succ_iff.mp unobstructed').2⟩)
      · simp only [slide, free, ↓reduceIte]
        rw [stops, Cell.step_onward]
    · refine ⟨0, ⟨⟨Nat.zero_le _, unobstructed_zero⟩, ?_⟩, ?_⟩
      · rintro (_ | others) ⟨_, unobstructed'⟩
        · exact le_rfl
        · exact absurd (unobstructed_succ_iff.mp unobstructed').1 free
      · simp only [slide, free, Bool.false_eq_true, ↓reduceIte, Cell.onward_zero]

/-- The cell where a slide ends is free, unless nobody moves. -/
theorem isFree_onward {start : Cell} {steps : Nat} (moved : steps ≠ 0)
    (unobstructed : field.Unobstructed start direction steps) :
    field.isFree (start.onward direction steps) :=
  isFree_iff.mpr (unobstructed steps (Nat.pos_of_ne_zero moved) le_rfl)

/-! ### A push, a pull -/

/-- The effect that moves a target one way or the other. -/
def Shove.effect : Shove → Effect
  | .away => .push
  | .toward => .pull

theorem act_shove (shove : Shove) (firing : Firing) :
    shove.effect.act firing = actShove shove firing := by
  cases shove <;> rfl

theorem Shove.direction_ne_zero (shove : Shove) {origin start : Cell} (apart : start ≠ origin) :
    shove.direction origin start ≠ (0, 0) := by
  cases shove
  · exact Cell.directionTo_ne_zero apart.symm
  · exact Cell.directionTo_ne_zero apart

variable {firing : Firing} {before : Resolution} {feet : Nat} {target : CombatantId}
  {actor victim : Combatant}

section Shoved

variable (aim : before.target = some target)
  (found : before.field.find? before.actor = some actor)
  (found' : before.field.find? target = some victim)
  (apart : victim.position ≠ actor.position)
include aim found found' apart

/-- A push or a pull moves its target by the longest slide that is allowed, and tells of it. -/
theorem run_shove (shove : Shove) (reads : firing.natOr "feet" 0 = .ok feet) :
    ∃ steps lines, IsGreatest (slides before.field victim.position
        (shove.direction actor.position victim.position) (before.config.feetToCells feet)) steps ∧
      shove.effect.act firing before = (.ok (), { before with
        field := before.field.update target fun one => { one with
          position := victim.position.onward (shove.direction actor.position victim.position) steps }
        log := before.log ++ lines }) := by
  obtain ⟨steps, greatest, stops⟩ := isGreatest_slide before.field
    (shove.direction actor.position victim.position) (before.config.feetToCells feet) victim.position
  have still := shove.direction_ne_zero apart
  have moves : (shove.direction actor.position victim.position == (0, 0)) = false := by
    simpa using still
  rw [act_shove]
  unfold actShove
  rw [reads, settle_ok, run_pure_bind, run_bind_ok (run_targetId aim), run_get_bind,
    run_bind_ok (run_require found), run_bind_ok (run_require found')]
  simp only [moves, stops, Bool.false_eq_true, ↓reduceIte, beq_iff_eq, Cell.onward_eq_self still]
  by_cases moved : steps = 0
  · subst moved
    refine ⟨0, [], greatest, ?_⟩
    rw [← update_const found']
    simp [update_self found']
  · have there (cell : Cell) : (before.field.update target
        fun one => { one with position := cell }).find? target
          = some { victim with position := cell } := find?_update_self found' fun _ => rfl
    rw [if_neg moved, run_bind_ok (run_place_of_free (present_of_find? found')
      (isFree_onward moved greatest.1.2)), run_bind_ok (run_require (there _))]
    exact ⟨steps, [_], greatest, rfl⟩

/-- Where the living stand apart, a push or a pull of some feet moves its target along its direction,
as many cells as they are worth or as are open before the first obstacle. Nothing else on the field
changes, a push leads as far away as it moves, and the living still stand apart. -/
theorem shove_spaced (shove : Shove) (reads : firing.natOr "feet" 0 = .ok feet)
    (spaced : before.field.Spaced) :
    ∃ steps cell after lines,
      IsGreatest (slides before.field victim.position
        (shove.direction actor.position victim.position) (before.config.feetToCells feet)) steps ∧
      cell = victim.position.onward (shove.direction actor.position victim.position) steps ∧
      shove.effect.act firing before = (.ok (), after) ∧
      after = { before with
        field := before.field.update target fun one => { one with position := cell }
        log := before.log ++ lines } ∧
      after.field.find? target = some { victim with position := cell } ∧
      (shove = .away →
        actor.position.distance cell = actor.position.distance victim.position + steps) ∧
      after.field.Spaced := by
  obtain ⟨steps, lines, greatest, run⟩ := run_shove aim found found' apart shove reads
  refine ⟨steps, _, _, lines, greatest, rfl, run, rfl, find?_update_self found' fun _ => rfl, ?_, ?_⟩
  · rintro rfl
    exact Cell.distance_onward_away apart
  · by_cases moved : steps = 0
    · subst moved
      rw [← update_const found']
      simpa [update_self found'] using spaced
    · exact spaced.move found' (isFree_onward moved greatest.1.2)

end Shoved

/-- Aria and Dorn a knight's move apart. -/
def crossing : Resolution where
  field := ⟨[{ aria with position := ⟨5, 5⟩ }, { dorn with position := ⟨7, 6⟩ }], .plain 8 8⟩
  dice := .scripted []
  config := {}
  hook := .onHit
  actor := ⟨1⟩
  target := some ⟨2⟩

theorem aim_crossing : crossing.target = some ⟨2⟩ := rfl

theorem actor_crossing :
    crossing.field.find? crossing.actor = some { aria with position := ⟨5, 5⟩ } := rfl

theorem victim_crossing : crossing.field.find? ⟨2⟩ = some { dorn with position := ⟨7, 6⟩ } := rfl

/-- A pull of thirty feet. -/
def haul : Firing := ⟨"pull", "Pulls the target 30 ft", ⟨"Pulls the target 30 ft", [("feet", "30")]⟩⟩

/-- Past Aria, Dorn slides on to the edge of the field. -/
theorem position_haul : ((Effect.pull.act haul crossing).2.field.find? ⟨2⟩).map Combatant.position
    = some ⟨1, 0⟩ := by decide +kernel

theorem spaced_haul : crossing.field.Spaced ∧
    ∃ after, Effect.pull.act haul crossing = (.ok (), after) ∧
      after.field.find? ⟨2⟩ = some { dorn with position := ⟨1, 0⟩ } ∧ after.field.Spaced := by
  have spaced : crossing.field.Spaced :=
    ⟨by unfold Exclusive; decide +kernel, by decide +kernel⟩
  have reads : haul.natOr "feet" 0 = .ok 30 := by decide +kernel
  obtain ⟨steps, cell, after, lines, -, -, run, -, found, -, spaced'⟩ :=
    shove_spaced aim_crossing actor_crossing victim_crossing (by decide) .toward reads spaced
  refine ⟨spaced, after, run, ?_, spaced'⟩
  have stops := position_haul
  rw [show Effect.pull.act haul crossing = (.ok (), after) from run, found] at stops
  rw [found, ← Option.some.inj stops]

/-- Where a pull leaves its target: farther from whoever pulls exactly if it reaches past the leeway of
the two cells and the way is open so far. Nobody is pulled past somebody alive in the same row, column
or diagonal. -/
theorem farther_of_pull_iff (aim : before.target = some target)
    (found : before.field.find? before.actor = some actor)
    (found' : before.field.find? target = some victim)
    (apart : victim.position ≠ actor.position) :
    ∃ cell, (Effect.pull.act firing before).2.field.find? target
        = some { victim with position := cell } ∧
      (actor.position.distance victim.position < actor.position.distance cell ↔
        ∃ feet, firing.natOr "feet" 0 = .ok feet ∧
          Cell.leeway actor.position victim.position + 1 ∈ slides before.field victim.position
            (victim.position.directionTo actor.position) (before.config.feetToCells feet)) ∧
      (actor.isAlive → actor.position.InLine victim.position →
        actor.position.distance cell ≤ actor.position.distance victim.position) := by
  rcases reads : firing.natOr "feet" 0 with error | feet
  · have run : Effect.pull.act firing before = (.error error, before) := by
      show actShove .toward firing before = _
      unfold actShove
      rw [reads, settle_error, run_throw_bind]
    rw [run]
    exact ⟨victim.position, found', by simp, fun _ _ => le_rfl⟩
  · obtain ⟨steps, lines, greatest, run⟩ := run_shove aim found found' apart .toward reads
    have farther := Cell.distance_lt_onward_toward apart steps
    have past : Cell.leeway actor.position victim.position < steps ↔
        Cell.leeway actor.position victim.position + 1 ∈ slides before.field victim.position
          (victim.position.directionTo actor.position) (before.config.feetToCells feet) :=
      (mem_slides_iff greatest).symm
    refine ⟨_, ?_, (farther.trans past).trans ?_, fun alive line => ?_⟩
    · show (Shove.effect .toward |>.act firing before).2.field.find? target = _
      rw [run]
      exact find?_update_self found' fun _ => rfl
    · simp
    · -- On its way past the actor the target would come upon the actor's cell.
      have stops := greatest.1.2.lt_of_mem_living (mem_living.mpr ⟨mem_of_find? found, alive⟩)
        (Cell.distance_pos apart) (Cell.onward_distance line)
      have near := Cell.distance_le_leeway actor.position victim.position
      exact Nat.le_of_not_lt fun away => by have := farther.mp away; omega

theorem farther_haul :
    ∃ cell, (Effect.pull.act haul crossing).2.field.find? ⟨2⟩ = some { dorn with position := cell } ∧
      (⟨5, 5⟩ : Cell).distance ⟨7, 6⟩ < (⟨5, 5⟩ : Cell).distance cell := by
  have reads : haul.natOr "feet" 0 = .ok 30 := by decide +kernel
  have ahead : ∀ step ∈ List.range' 1 4,
      crossing.field.isFree ((⟨7, 6⟩ : Cell).onward (-1, -1) step) := by decide +kernel
  obtain ⟨cell, found, farther, -⟩ := farther_of_pull_iff aim_crossing actor_crossing
    victim_crossing (by decide)
  refine ⟨cell, found, farther.mpr ⟨30, reads, by decide, fun step first last => ?_⟩⟩
  exact isFree_iff.mp (ahead step (List.mem_range'_1.mpr ⟨first, Nat.lt_succ_of_le last⟩))

/-- A pull may leave its target farther from whoever pulls than it was. -/
theorem not_forall_near_of_pull : ¬∀ (firing : Firing) (before : Resolution) (target : CombatantId)
    (actor victim stopped : Combatant), before.target = some target →
      before.field.find? before.actor = some actor → before.field.find? target = some victim →
      victim.position ≠ actor.position →
      (Effect.pull.act firing before).2.field.find? target = some stopped →
      actor.position.distance stopped.position ≤ actor.position.distance victim.position := by
  intro near
  obtain ⟨stopped, found, stops⟩ := Option.map_eq_some_iff.mp position_haul
  have close := near haul crossing ⟨2⟩ _ _ stopped rfl rfl rfl (by decide) found
  rw [stops] at close
  exact absurd close (by decide)

end Effect

end Skirmish
