/-
**A contest of two of the living.** Where the living have a walkable cell each, a contest of two of
them under the usual consequences is held to its end and touches nobody else.

* `Displacement`: the ways in which it may move the two, of which exactly one applies;
* `Contest.Carried`: what each consequence makes of the two. `run_follow`: one of them;
* `Contest.Fought`: what this amounts to on the field. The loser's composure is the only pool that
  may fall, and a winner who has moved does not turn its back on the loser.
-/

import Skirmish.Proofs.Consequences
import Skirmish.Proofs.Footholds
import Skirmish.Proofs.Runs

namespace Skirmish

open Battlefield

/-! ### Cells in line -/

theorem Facing.isBehind_iff (facing : Facing) (cell other : Cell) : facing.isBehind cell other ↔
    (other.x - cell.x) * facing.vector.1 + (other.y - cell.y) * facing.vector.2 < 0 := by
  simp [Facing.isBehind]

/-- Whoever turns toward a cell does not have it behind. -/
theorem Facing.not_isBehind_toward (start stop : Cell) :
    ¬(Facing.toward start stop).isBehind start stop := by
  rw [Facing.isBehind_iff]
  unfold Facing.toward
  dsimp only
  split
  · split <;> simp only [Facing.vector] <;> omega
  · split <;> simp only [Facing.vector] <;> omega

namespace Contest

variable {origin cell : Cell}

theorem beyond_ne (away : origin ≠ cell) : beyond origin cell ≠ cell := by
  obtain ⟨x, y⟩ := origin
  obtain ⟨x', y'⟩ := cell
  simp only [ne_eq, Cell.mk.injEq, beyond, Cell.step, Cell.directionTo, Cell.offset] at away ⊢
  rcases sign_cases (x' - x) with ⟨_, sign⟩ | ⟨_, sign⟩ | ⟨_, sign⟩ <;>
    rcases sign_cases (y' - y) with ⟨_, sign'⟩ | ⟨_, sign'⟩ | ⟨_, sign'⟩ <;> omega

theorem beyond_ne_origin (away : origin ≠ cell) : beyond origin cell ≠ origin := by
  obtain ⟨x, y⟩ := origin
  obtain ⟨x', y'⟩ := cell
  simp only [ne_eq, Cell.mk.injEq, beyond, Cell.step, Cell.directionTo, Cell.offset] at away ⊢
  rcases sign_cases (x' - x) with ⟨_, sign⟩ | ⟨_, sign⟩ | ⟨_, sign⟩ <;>
    rcases sign_cases (y' - y) with ⟨_, sign'⟩ | ⟨_, sign'⟩ | ⟨_, sign'⟩ <;> omega

theorem isAdjacent_beyond (away : origin ≠ cell) : (beyond origin cell).isAdjacent cell := by
  obtain ⟨x, y⟩ := origin
  obtain ⟨x', y'⟩ := cell
  simp only [ne_eq, Cell.mk.injEq, beyond, Cell.step, Cell.directionTo, Cell.offset,
    Cell.isAdjacent, Cell.distance, beq_iff_eq] at away ⊢
  rcases sign_cases (x' - x) with ⟨_, sign⟩ | ⟨_, sign⟩ | ⟨_, sign⟩ <;>
    rcases sign_cases (y' - y) with ⟨_, sign'⟩ | ⟨_, sign'⟩ | ⟨_, sign'⟩ <;> omega

end Contest

/-! ### Ways to be moved -/

/-- How a contest may move the two who hold it. -/
inductive Displacement where
  /-- Nobody moves. -/
  | none
  /-- The loser goes a cell further away, and the winner takes its cell. -/
  | shove
  /-- They exchange cells. -/
  | swap
  /-- The winner alone goes to a free cell beside the loser. -/
  | sidestep
deriving DecidableEq, Repr

section Displacement

variable {field : Battlefield} {winning losing winner loser : Combatant}

/-- The two who stood as `winning` and `losing` have moved in a certain way and stand as `winner` and
`loser` now. -/
def Displacement.Moves (field : Battlefield) (winning losing winner loser : Combatant) :
    Displacement → Prop
  | .none => winner.position = winning.position ∧ loser.position = losing.position
  | .shove => winner.position = losing.position ∧
      loser.position = losing.position.step (winning.position.directionTo losing.position)
  | .swap => winner.position = losing.position ∧ loser.position = winning.position
  | .sidestep => field.isFree winner.position ∧ winner.position.isAdjacent losing.position ∧
      loser.position = losing.position

/-- No two ways of moving can be mistaken for each other. -/
theorem Displacement.unique (alive : winning ∈ field.living)
    (away : winning.position ≠ losing.position) {one other : Displacement}
    (moves : one.Moves field winning losing winner loser)
    (moves' : other.Moves field winning losing winner loser) : one = other := by
  have held : ¬field.isFree winning.position := fun free => (isFree_iff.mp free).2 winning alive rfl
  have ahead := Contest.beyond_ne away
  have ahead' := Contest.beyond_ne_origin away
  unfold Contest.beyond at ahead ahead'
  cases one <;> cases other <;> simp only [Displacement.Moves] at moves moves' <;> grind

end Displacement

/-! ### The field after a change of two -/

theorem Battlefield.Recasts.exclusive {before after : Battlefield} {one other : Combatant}
    (recasts : before.Recasts one other after) (distinct : before.Distinct)
    (exclusive : before.Exclusive) (apart : one.position ≠ other.position)
    (clear : ∀ third ∈ before.living, third.id ≠ one.id → third.id ≠ other.id →
      third.position ≠ one.position ∧ third.position ≠ other.position) : after.Exclusive := by
  have alone := (exclusive_iff distinct).mp exclusive
  refine (exclusive_iff (recasts.distinct distinct)).mpr fun new mem new' mem' here => ?_
  obtain ⟨mem, alive⟩ := mem_living.mp mem
  obtain ⟨mem', alive'⟩ := mem_living.mp mem'
  rcases recasts.mem distinct mem with rfl | rfl | ⟨mem, ne, ne'⟩ <;>
    rcases recasts.mem distinct mem' with rfl | rfl | ⟨mem', away, away'⟩
  · rfl
  · exact absurd here.symm apart
  · exact absurd here (clear new' (mem_living.mpr ⟨mem', alive'⟩) away away').1
  · exact absurd here apart
  · rfl
  · exact absurd here (clear new' (mem_living.mpr ⟨mem', alive'⟩) away away').2
  · exact absurd here.symm (clear new (mem_living.mpr ⟨mem, alive⟩) ne ne').1
  · exact absurd here.symm (clear new (mem_living.mpr ⟨mem, alive⟩) ne ne').2
  · exact alone new (mem_living.mpr ⟨mem, alive⟩) new' (mem_living.mpr ⟨mem', alive'⟩) here

namespace Contest

variable {config : Config} {category : StatCategory} {before after : Battlefield}
  {winning losing winner loser : Combatant}

/-! ### Carrying out a consequence -/

/-- What the usual consequence of a kind of stat makes of the two who stood as `winning` and
`losing`. -/
inductive Carried (config : Config) (field : Battlefield) (winning losing : Combatant) :
    StatCategory → Combatant → Combatant → Prop
  | stayed {category : StatCategory} (calm : category ≠ .vitality) :
      Carried config field winning losing category winning losing
  | shoved (free : field.isFree (beyond winning.position losing.position)) :
      Carried config field winning losing .power
        ((winning.standing losing.position).turned (beyond winning.position losing.position))
        (losing.standing (beyond winning.position losing.position))
  | swapped : Carried config field winning losing .agility
      ((winning.standing losing.position).turned winning.position)
      (losing.standing winning.position)
  | stepped {category : StatCategory} {cell : Cell} (calm : category ≠ .vitality)
      (free : field.isFree cell) (beside : cell.isAdjacent losing.position) :
      Carried config field winning losing category
        ((winning.standing cell).turned losing.position) losing
  | shaken : Carried config field winning losing .vitality winning
      (losing.damagePool .composure config.clashDamage)

/-- **What follows a contest** of two of the living never fails. -/
theorem run_follow (scene : Scene) (config : Config) (category : StatCategory)
    (distinct : scene.field.Distinct) (ne : winning.id ≠ losing.id)
    (found : scene.field.find? winning.id = some winning)
    (found' : scene.field.find? losing.id = some losing)
    (walkable : scene.field.terrain.isWalkable losing.position)
    (away : winning.position ≠ losing.position)
    (only : ∀ third ∈ scene.field.living, third.position = losing.position →
      third.id = losing.id) :
    ∃ after winner loser, follow config winning.id losing.id (ClashTable.standard category) scene
        = (.ok (), after) ∧ scene.field.Recasts winner loser after.field ∧
      Carried config scene.field winning losing category winner loser := by
  have same : scene.field.Recasts winning losing scene.field := .refl ne found found'
  cases category with
  | power =>
    by_cases free : scene.field.isFree (beyond winning.position losing.position)
    · obtain ⟨after, run, recasts⟩ :=
        run_shove ne found found' distinct walkable free only
      exact ⟨after, _, _, run, recasts, .shoved free⟩
    · obtain ⟨log, run⟩ := run_shove_blocked found found' free
      exact ⟨_, _, _, run, same, .stayed (by simp)⟩
  | agility =>
    obtain ⟨after, run, recasts⟩ := run_swap_of_found ne found found'
    exact ⟨after, _, _, run, recasts, .swapped⟩
  | insight =>
    obtain ⟨after, run, still | ⟨cell, free, beside, recasts⟩⟩ := run_outflank ne found found'
    · exact ⟨after, _, _, run, still ▸ same, .stayed (by simp)⟩
    · exact ⟨after, _, _, run, recasts, .stepped (by simp) free beside⟩
  | vitality =>
    obtain ⟨after, run, recasts⟩ := run_jolt ne found found' config
    exact ⟨after, _, _, run, recasts, .shaken⟩
  | will =>
    obtain ⟨after, run, still | ⟨free, recasts⟩⟩ := run_slipBehind ne found found'
    · exact ⟨after, _, _, run, still ▸ same, .stayed (by simp)⟩
    · exact ⟨after, _, _, run, recasts, .stepped (by simp) free (isAdjacent_beyond away)⟩

/-! ### What it amounts to -/

/-- What a contest on a kind of stat does to a field on which the two stand as `winning` and
`losing`. -/
structure Fought (config : Config) (category : StatCategory) (before : Battlefield)
    (winning losing winner loser : Combatant) (after : Battlefield) : Prop where
  /-- Nobody else is changed, and neither is the ground. -/
  recasts : before.Recasts winner loser after
  exclusive : after.Exclusive
  walkable : ∀ one ∈ after.living, after.terrain.isWalkable one.position
  moved : ∃! way : Displacement, way.Moves before winning losing winner loser
  /-- A winner who has moved does not have the loser behind it. -/
  faces : winner.position ≠ winning.position →
    ¬winner.facing.isBehind winner.position loser.position
  /-- The winner is moved and turned, and nothing else. -/
  winner_eq : winner = { winning with position := winner.position, facing := winner.facing }
  /-- The loser is moved, and its pools are what `pools_eq` says. -/
  loser_eq : loser = { losing with
    position := loser.position, pools := loser.pools, flags := loser.flags }
  pools_eq : loser.pools = if category = .vitality then { losing.pools with
      composure.current := losing.pools.composure.current
        - min (max config.clashDamage 0) losing.pools.composure.current } else losing.pools
  flags_eq : category ≠ .vitality → loser.flags = losing.flags
  unharmed : ∀ id old new, before.find? id = some old → after.find? id = some new →
    new.pools.hitPoints = old.pools.hitPoints ∧ new.conditions = old.conditions

theorem pools_damagePool_composure (fits : losing.pools.composure.InRange) (amount : Int) :
    (losing.damagePool .composure amount).pools = { losing.pools with
      composure.current := losing.pools.composure.current
        - min (max amount 0) losing.pools.composure.current } := by
  rw [Combatant.pools_damagePool]
  simp only [Pools.set, Combatant.pool, Pools.get, Gauge.drain_eq fits]

theorem damagePool_eq (pool : Pool) (amount : Int) :
    losing.damagePool pool amount = { losing with
      pools := (losing.damagePool pool amount).pools
      flags := (losing.damagePool pool amount).flags } := by
  unfold Combatant.damagePool Combatant.syncDepleted
  split <;> rfl

/-- The two end on cells of their own, each of them free before or left by one of the two. -/
theorem Carried.cells (carried : Carried config before winning losing category winner loser)
    (alive' : losing ∈ before.living) (away : winning.position ≠ losing.position) :
    winner.position ≠ loser.position ∧ ∀ cell, cell = winner.position ∨ cell = loser.position →
      before.isFree cell ∨ cell = winning.position ∨ cell = losing.position := by
  cases carried with
  | stayed calm => exact ⟨away, fun cell own => .inr own⟩
  | shoved free =>
    refine ⟨(beyond_ne away).symm, fun cell own => ?_⟩
    rcases own with rfl | rfl
    · exact .inr (.inr rfl)
    · exact .inl free
  | swapped => exact ⟨away.symm, fun cell own => .inr own.symm⟩
  | stepped calm free beside =>
    refine ⟨fun same => (isFree_iff.mp free).2 losing alive' same.symm, fun cell own => ?_⟩
    rcases own with rfl | rfl
    · exact .inl free
    · exact .inr (.inr rfl)
  | shaken =>
    have stays := Combatant.position_of_stance
      (Combatant.stance_damagePool losing .composure config.clashDamage)
    rw [stays]
    exact ⟨away, fun cell own => .inr own⟩

/-- One of the ways of moving applies. -/
theorem Carried.moves (carried : Carried config before winning losing category winner loser) :
    ∃ way : Displacement, way.Moves before winning losing winner loser := by
  cases carried with
  | stayed calm => exact ⟨.none, rfl, rfl⟩
  | shoved free => exact ⟨.shove, rfl, rfl⟩
  | swapped => exact ⟨.swap, rfl, rfl⟩
  | stepped calm free beside => exact ⟨.sidestep, free, beside, rfl⟩
  | shaken => exact ⟨.none, rfl, Combatant.position_of_stance (Combatant.stance_damagePool ..)⟩

/-- The winner is moved and turned; the loser is moved, or its composure falls. -/
theorem Carried.kept (carried : Carried config before winning losing category winner loser)
    (fits : losing.pools.composure.InRange) :
    winner = { winning with position := winner.position, facing := winner.facing } ∧
      loser = { losing with
        position := loser.position, pools := loser.pools, flags := loser.flags } ∧
      (loser.pools = if category = .vitality then { losing.pools with
        composure.current := losing.pools.composure.current
          - min (max config.clashDamage 0) losing.pools.composure.current } else losing.pools) ∧
      (category ≠ .vitality → loser.flags = losing.flags) := by
  cases carried with
  | stayed calm | stepped calm free beside => exact ⟨rfl, rfl, (if_neg calm).symm, fun _ => rfl⟩
  | shoved free => exact ⟨rfl, rfl, rfl, fun _ => rfl⟩
  | swapped => exact ⟨rfl, rfl, rfl, fun _ => rfl⟩
  | shaken =>
    refine ⟨rfl, ?_, pools_damagePool_composure fits config.clashDamage, fun other => absurd rfl other⟩
    rw [Combatant.position_of_stance
      (Combatant.stance_damagePool losing .composure config.clashDamage)]
    exact damagePool_eq .composure config.clashDamage

/-- A winner who has moved has turned toward the loser. -/
theorem Carried.faces (carried : Carried config before winning losing category winner loser)
    (moved : winner.position ≠ winning.position) :
    winner.facing = .toward winner.position loser.position := by
  cases carried with
  | stayed calm => exact absurd rfl moved
  | shoved free | swapped | stepped calm free beside => rfl
  | shaken => exact absurd rfl moved

/-- The cells on which the two end are no walls. -/
theorem Carried.isWalkable (carried : Carried config before winning losing category winner loser)
    (walkable : ∀ one ∈ before.living, before.terrain.isWalkable one.position)
    (alive : winning ∈ before.living) (alive' : losing ∈ before.living)
    (away : winning.position ≠ losing.position) :
    before.terrain.isWalkable winner.position ∧ before.terrain.isWalkable loser.position := by
  obtain ⟨-, cells⟩ := carried.cells alive' away
  have ground : ∀ cell, cell = winner.position ∨ cell = loser.position →
      before.terrain.isWalkable cell := by
    intro cell own
    rcases cells cell own with free | rfl | rfl
    · exact (isFree_iff.mp free).1
    · exact walkable winning alive
    · exact walkable losing alive'
  exact ⟨ground _ (.inl rfl), ground _ (.inr rfl)⟩

/-- Nobody else who is alive stands on them. -/
theorem Carried.vacant (carried : Carried config before winning losing category winner loser)
    (distinct : before.Distinct) (exclusive : before.Exclusive) (alive : winning ∈ before.living)
    (alive' : losing ∈ before.living) (away : winning.position ≠ losing.position) {third : Combatant}
    (mem : third ∈ before.living) (other : third.id ≠ winning.id) (other' : third.id ≠ losing.id) :
    third.position ≠ winner.position ∧ third.position ≠ loser.position := by
  have alone := (exclusive_iff distinct).mp exclusive
  obtain ⟨-, cells⟩ := carried.cells alive' away
  have clear : ∀ cell, cell = winner.position ∨ cell = loser.position → third.position ≠ cell := by
    intro cell own here
    rcases cells cell own with free | rfl | rfl
    · exact (isFree_iff.mp free).2 third mem here
    · exact other (alone winning alive third mem here)
    · exact other' (alone losing alive' third mem here)
  exact ⟨clear _ (.inl rfl), clear _ (.inr rfl)⟩

/-- No hit point is lost, and no condition comes or goes. -/
theorem Carried.unharmed (carried : Carried config before winning losing category winner loser)
    (recasts : before.Recasts winner loser after) (fits : losing.pools.composure.InRange)
    (there : before.find? winning.id = some winning) (there' : before.find? losing.id = some losing)
    {id : CombatantId} {old new : Combatant} (was : before.find? id = some old)
    (is : after.find? id = some new) :
    new.pools.hitPoints = old.pools.hitPoints ∧ new.conditions = old.conditions := by
  obtain ⟨winner_eq, loser_eq, pools_eq, -⟩ := carried.kept fits
  have sameWinner : winner.id = winning.id := by rw [winner_eq]
  have sameLoser : loser.id = losing.id := by rw [loser_eq]
  by_cases first : id = winner.id
  · subst first
    rw [sameWinner, there] at was
    obtain rfl := Option.some.inj was
    obtain rfl := Option.some.inj (recasts.first.symm.trans is)
    rw [winner_eq]
    exact ⟨rfl, rfl⟩
  by_cases second : id = loser.id
  · subst second
    rw [sameLoser, there'] at was
    obtain rfl := Option.some.inj was
    obtain rfl := Option.some.inj (recasts.second.symm.trans is)
    refine ⟨?_, ?_⟩
    · rw [pools_eq]
      split <;> rfl
    · rw [loser_eq]
  · rw [recasts.rest id first second, was] at is
    obtain rfl := Option.some.inj is
    exact ⟨rfl, rfl⟩

theorem Carried.fought (carried : Carried config before winning losing category winner loser)
    (recasts : before.Recasts winner loser after) (distinct : before.Distinct)
    (exclusive : before.Exclusive)
    (walkable : ∀ one ∈ before.living, before.terrain.isWalkable one.position)
    (fits : losing.pools.composure.InRange) (alive : winning ∈ before.living)
    (alive' : losing ∈ before.living) (away : winning.position ≠ losing.position) :
    Fought config category before winning losing winner loser after := by
  obtain ⟨winner_eq, loser_eq, pools_eq, flags_eq⟩ := carried.kept fits
  have sameWinner : winner.id = winning.id := by rw [winner_eq]
  have sameLoser : loser.id = losing.id := by rw [loser_eq]
  have there : before.find? winning.id = some winning :=
    (find?_eq_some_iff distinct).mpr ⟨(mem_living.mp alive).1, rfl⟩
  have there' : before.find? losing.id = some losing :=
    (find?_eq_some_iff distinct).mpr ⟨(mem_living.mp alive').1, rfl⟩
  have apart := (carried.cells alive' away).1
  have vacant : ∀ third ∈ before.living, third.id ≠ winner.id → third.id ≠ loser.id →
      third.position ≠ winner.position ∧ third.position ≠ loser.position := by
    intro third mem other other'
    exact carried.vacant distinct exclusive alive alive' away mem (sameWinner ▸ other)
      (sameLoser ▸ other')
  refine ⟨recasts, recasts.exclusive distinct exclusive apart vacant, fun one mem => ?_, ?_,
    fun moved => ?_, winner_eq, loser_eq, pools_eq, flags_eq,
    fun id old new was is => carried.unharmed recasts fits there there' was is⟩
  · obtain ⟨mem, up⟩ := mem_living.mp mem
    rw [recasts.terrain]
    have ground := carried.isWalkable walkable alive alive' away
    rcases recasts.mem distinct mem with rfl | rfl | ⟨mem, -, -⟩
    · exact ground.1
    · exact ground.2
    · exact walkable one (mem_living.mpr ⟨mem, up⟩)
  · obtain ⟨way, moves⟩ := carried.moves
    exact ⟨way, moves, fun other moves' => Displacement.unique alive away moves' moves⟩
  · rw [carried.faces moved]
    exact Facing.not_isBehind_toward _ _

/-! ### The whole contest -/

/-- The winner and the loser of a contest, as the dice decide it. -/
def sides (config : Config) (stat : Stat) (attacker defender : Combatant) (dice : Dice) :
    Combatant × Combatant :=
  let rolled := (rollOff config.clashTie (attacker.modifier stat) (defender.modifier stat)
    mostRerolls dice).1
  if rolled.2.1 ≤ rolled.1 then (attacker, defender) else (defender, attacker)

theorem sides_eq (config : Config) (stat : Stat) (attacker defender : Combatant) (dice : Dice) :
    sides config stat attacker defender dice = (attacker, defender) ∨
      sides config stat attacker defender dice = (defender, attacker) := by
  unfold sides
  dsimp only
  split <;> simp

/-- A contest is decided by the dice, and then carried out. -/
theorem run_hold (config : Config) (scene : Scene) (table : ClashTable) (stat : Stat)
    {attacker defender : Combatant} {pending : PendingClash}
    (found : scene.field.find? pending.attacker = some attacker)
    (found' : scene.field.find? pending.defender = some defender) :
    ∃ (report : ClashReport) (dice : Dice) (log : List String),
      report.winner = (sides config stat attacker defender scene.dice).1.id ∧
      report.loser = (sides config stat attacker defender scene.dice).2.id ∧
      hold config table pending stat scene
        = (follow config report.winner report.loser (table stat.category) >>= fun _ =>
            get >>= fun ended => pure { report with log := ended.log })
          { scene with dice, log } := by
  unfold hold sides
  rw [run_bind_ok (run_require_of_find? found), run_bind_ok (run_require_of_find? found'),
    run_bind_ok (run_rollBoth ..)]
  generalize rollOff _ _ _ _ _ = rolled
  obtain ⟨⟨attackerTotal, defenderTotal, rerolls⟩, dice⟩ := rolled
  dsimp only
  rw [run_bind_ok (run_narrate ..)]
  refine ⟨⟨stat, if defenderTotal ≤ attackerTotal then pending.attacker else pending.defender,
    if defenderTotal ≤ attackerTotal then pending.defender else pending.attacker,
    attackerTotal, defenderTotal, rerolls, table stat.category, []⟩, dice, _, ?_, ?_, rfl⟩ <;>
    split <;> simp [id_of_find? found, id_of_find? found']

/-- **A contest of two of the living** succeeds and touches nobody but the two. -/
theorem fought_of_hold (config : Config) {pending : PendingClash} (stat : Stat) {scene : Scene}
    {attacker defender : Combatant} (distinct : scene.field.Distinct)
    (exclusive : scene.field.Exclusive)
    (walkable : ∀ one ∈ scene.field.living, scene.field.terrain.isWalkable one.position)
    (fits : ∀ one ∈ scene.field.roster, one.pools.composure.InRange)
    (ne : pending.attacker ≠ pending.defender)
    (found : scene.field.find? pending.attacker = some attacker) (alive : attacker.isAlive)
    (found' : scene.field.find? pending.defender = some defender) (alive' : defender.isAlive) :
    ∃ report after winning losing winner loser,
      hold config .standard pending stat scene = (.ok report, after) ∧
      (winning = attacker ∧ losing = defender ∨ winning = defender ∧ losing = attacker) ∧
      report.winner = winning.id ∧ report.loser = losing.id ∧
      Fought config stat.category scene.field winning losing winner loser after.field := by
  obtain ⟨report, dice, log, wins, loses, run⟩ :=
    run_hold config scene .standard stat found found'
  have decided := sides_eq config stat attacker defender scene.dice
  generalize sides config stat attacker defender scene.dice = pair at *
  obtain ⟨winning, losing⟩ := pair
  have parties : winning = attacker ∧ losing = defender ∨ winning = defender ∧ losing = attacker :=
    decided.imp Prod.mk.inj Prod.mk.inj
  obtain ⟨mem, mem', apart⟩ : winning ∈ scene.field.living ∧ losing ∈ scene.field.living ∧
      winning.id ≠ losing.id := by
    have memAttacker := mem_living.mpr ⟨mem_of_find? found, alive⟩
    have memDefender := mem_living.mpr ⟨mem_of_find? found', alive'⟩
    have apart : attacker.id ≠ defender.id := by rwa [id_of_find? found, id_of_find? found']
    rcases parties with ⟨rfl, rfl⟩ | ⟨rfl, rfl⟩
    · exact ⟨memAttacker, memDefender, apart⟩
    · exact ⟨memDefender, memAttacker, apart.symm⟩
  have alone := (exclusive_iff distinct).mp exclusive
  have away : winning.position ≠ losing.position := fun same =>
    apart (alone losing mem' winning mem same)
  have there := (find?_eq_some_iff distinct).mpr ⟨(mem_living.mp mem).1, rfl⟩
  have there' := (find?_eq_some_iff distinct).mpr ⟨(mem_living.mp mem').1, rfl⟩
  obtain ⟨after, winner, loser, follows, recasts, carried⟩ :=
    run_follow { scene with dice, log } config stat.category distinct apart there
      there' (walkable losing mem') away (alone losing mem')
  rw [wins, loses, run_bind_ok follows, run_get_bind, run_pure] at run
  exact ⟨_, _, winning, losing, winner, loser, run, parties, rfl, rfl,
    carried.fought recasts distinct exclusive walkable (fits losing (mem_living.mp mem').1) mem mem'
      away⟩

/-- Two opponents who stand side by side may contest their might. -/
theorem fought_duel : ∃ report after winning losing winner loser,
    hold duel.config .standard ⟨aria.id, dorn.id, .might⟩ .might ⟨duel.field, duel.dice, []⟩
      = (.ok report, after) ∧
    (winning = aria ∧ losing = dorn ∨ winning = dorn ∧ losing = aria) ∧
    report.winner = winning.id ∧ report.loser = losing.id ∧
    Fought duel.config .power duel.field winning losing winner loser after.field :=
  fought_of_hold duel.config .might opens_duel.filled.sound.distinct opens_duel.filled.exclusive
    (by decide +kernel) (by unfold Gauge.InRange; decide +kernel) (by decide) rfl
    (by decide +kernel) rfl (by decide +kernel)

end Contest

end Skirmish
