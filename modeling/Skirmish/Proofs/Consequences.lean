/-
**Each consequence of a contest, run to its end.** A consequence changes the winner and the loser and
nobody else (`Battlefield.Recasts`).

* `run_shove`, `run_slipBehind`: the cell beyond the loser decides whether anybody moves;
* `run_shove_jammed`: a third one on the loser's cell, who keeps the winner from following, is noticed
  only when the loser has been moved;
* `run_swap_of_found`, `run_outflank`, `run_jolt`: the others never fail.
-/

import Skirmish.Proofs.Contests

namespace Skirmish

namespace Combatant

/-- A combatant on another cell. -/
def standing (combatant : Combatant) (cell : Cell) : Combatant := { combatant with position := cell }

/-- A combatant who looks toward a cell. -/
def turned (combatant : Combatant) (cell : Cell) : Combatant :=
  { combatant with facing := .toward combatant.position cell }

end Combatant

namespace Battlefield

variable {before middle after : Battlefield} {one other : Combatant}

/-! ### A cell that is held -/

/-- A combatant is kept from a cell that others hold. -/
theorem place_of_held {id : CombatantId} {cell : Cell} (walkable : before.terrain.isWalkable cell)
    (mem : one ∈ before.living) (here : one.position = cell)
    (others : ∀ third ∈ before.living, third.position = cell → third.id ≠ id) :
    before.place id cell = .error (.cellOccupied cell) := by
  rcases holds : before.occupant? cell with _ | holder
  · exact absurd here (occupant?_eq_none_iff.mp holds one mem)
  · obtain ⟨third, memThird, there, rfl⟩ := occupant?_eq_some holds
    simp [place, walkable, holds, others third memThird there]

/-! ### Two who change -/

/-- Two of the roster have become these, and nothing else is changed. -/
structure Recasts (before : Battlefield) (one other : Combatant) (after : Battlefield) : Prop where
  ne : one.id ≠ other.id
  terrain : after.terrain = before.terrain
  ids : after.roster.map Combatant.id = before.roster.map Combatant.id
  first : after.find? one.id = some one
  second : after.find? other.id = some other
  rest : ∀ id, id ≠ one.id → id ≠ other.id → after.find? id = before.find? id

namespace Recasts

theorem refl (ne : one.id ≠ other.id) (found : before.find? one.id = some one)
    (found' : before.find? other.id = some other) : before.Recasts one other before :=
  ⟨ne, rfl, rfl, found, found', fun _ _ _ => rfl⟩

theorem symm (recasts : before.Recasts one other after) : before.Recasts other one after :=
  ⟨recasts.ne.symm, recasts.terrain, recasts.ids, recasts.second, recasts.first,
    fun id away away' => recasts.rest id away' away⟩

/-- A further change of the first of the two. -/
theorem update (recasts : before.Recasts one other middle) (change : Combatant → Combatant)
    (keeps : ∀ combatant, (change combatant).id = combatant.id) :
    before.Recasts (change one) other (middle.update one.id change) where
  ne := by rw [keeps]; exact recasts.ne
  terrain := recasts.terrain
  ids := (map_update Combatant.id fun combatant _ => keeps combatant).trans recasts.ids
  first := by rw [keeps]; exact find?_update_self recasts.first keeps
  second := by rw [find?_update_of_ne recasts.ne.symm keeps]; exact recasts.second
  rest := fun id away away' => by
    rw [keeps] at away
    rw [find?_update_of_ne away keeps, recasts.rest id away away']

/-- A further change of the second of the two. -/
theorem update_second (recasts : before.Recasts one other middle)
    (change : Combatant → Combatant) (keeps : ∀ combatant, (change combatant).id = combatant.id) :
    before.Recasts one (change other) (middle.update other.id change) :=
  (recasts.symm.update change keeps).symm

theorem distinct (recasts : before.Recasts one other after) (distinct : before.Distinct) :
    after.Distinct := by
  unfold Distinct
  rwa [recasts.ids]

/-- Whoever is there now is one of the two, or was there before. -/
theorem mem (recasts : before.Recasts one other after) (distinct : before.Distinct)
    {new : Combatant} (mem : new ∈ after.roster) :
    new = one ∨ new = other ∨ (new ∈ before.roster ∧ new.id ≠ one.id ∧ new.id ≠ other.id) := by
  have found := (find?_eq_some_iff (recasts.distinct distinct)).mpr ⟨mem, rfl⟩
  by_cases first : new.id = one.id
  · exact .inl (Option.some.inj (found.symm.trans (first ▸ recasts.first)))
  by_cases second : new.id = other.id
  · exact .inr (.inl (Option.some.inj (found.symm.trans (second ▸ recasts.second))))
  · rw [recasts.rest _ first second] at found
    exact .inr (.inr ⟨mem_of_find? found, first, second⟩)

end Recasts

end Battlefield

open Battlefield

namespace Contest

variable {before : Scene} {winner loser : CombatantId} {winning losing : Combatant}

/-! ### Steps -/

theorem run_place_of_free {id : CombatantId} {cell : Cell} (present : before.field.Present id)
    (free : before.field.isFree cell) : place id cell before
      = (.ok (), { before with field := before.field.update id (·.standing cell) }) := by
  unfold place
  rw [run_get_bind, place_of_free present free]
  rfl

theorem run_face_of_find? (found : before.field.find? winner = some winning)
    (found' : before.field.find? loser = some losing) : face winner loser before
      = (.ok (), { before with field := before.field.update winner fun one =>
          { one with facing := .toward winning.position losing.position } }) := by
  unfold face
  rw [run_bind_ok (run_require_of_find? found), run_bind_ok (run_require_of_find? found')]
  rfl

/-- A winner turns toward the loser. -/
theorem recasts_face (before : Scene) {field : Battlefield}
    (recasts : field.Recasts winning losing before.field) :
    ∃ after, face winning.id losing.id before = (.ok (), { before with field := after }) ∧
      field.Recasts (winning.turned losing.position) losing after := by
  refine ⟨_, run_face_of_find? recasts.first recasts.second, ?_⟩
  exact recasts.update (fun one =>
    { one with facing := .toward winning.position losing.position }) fun _ => rfl

/-- A winner steps to a free cell and turns toward the loser. -/
theorem recasts_step (before : Scene) {field : Battlefield} {cell : Cell}
    (recasts : field.Recasts winning losing before.field) (free : before.field.isFree cell)
    (line : String) : ∃ after, (place winning.id cell >>= fun _ =>
        face winning.id losing.id >>= fun _ => narrate line) before = (.ok (), after) ∧
      field.Recasts ((winning.standing cell).turned losing.position) losing after.field := by
  have moved := recasts.update (·.standing cell) fun _ => rfl
  obtain ⟨after, run, turned⟩ := recasts_face
    { before with field := before.field.update winning.id (·.standing cell) } moved
  refine ⟨{ before with field := after, log := before.log ++ [line] }, ?_, turned⟩
  rw [run_bind_ok (run_place_of_free (present_of_find? recasts.first) free)]
  exact run_bind_ok run

/-! ### Cells to go to -/

/-- A third one stands on the loser's cell when the loser can be driven from it. -/
def Jams (field : Battlefield) (winning losing : Combatant) : Prop :=
  field.isFree (beyond winning.position losing.position) ∧
    ∃ third ∈ field.living, third.id ≠ losing.id ∧ third.position = losing.position

/-- Where nobody else stands, a cell is free once it has been left for a free one. -/
theorem isFree_vacated {field : Battlefield} (distinct : field.Distinct) {cell : Cell}
    (found' : field.find? losing.id = some losing)
    (walkable : field.terrain.isWalkable losing.position) (free : field.isFree cell)
    (only : ∀ third ∈ field.living, third.position = losing.position → third.id = losing.id) :
    (field.update losing.id (·.standing cell)).isFree losing.position := by
  refine isFree_iff.mpr ⟨walkable, fun one mem here => ?_⟩
  obtain ⟨mem, alive⟩ := mem_living.mp mem
  rcases (mem_update_iff distinct _).mp mem with ⟨mem, apart⟩ | ⟨old, eq, rfl⟩
  · exact apart (only one (mem_living.mpr ⟨mem, alive⟩) here)
  · obtain rfl := Option.some.inj (found'.symm.trans eq)
    exact (isFree_iff.mp free).2 losing (mem_living.mpr ⟨mem_of_find? found', alive⟩) here.symm

/-- From a cell, no line leads on. -/
theorem beyond_self (cell : Cell) : beyond cell cell = cell := by
  simp [beyond, Cell.step, Cell.directionTo, Cell.offset]

/-- The cells around another one touch it. -/
theorem isAdjacent_of_mem_neighbors {cell center : Cell} (mem : cell ∈ center.neighbors) :
    cell.isAdjacent center := by
  simp only [Cell.neighbors, List.mem_cons, List.not_mem_nil, or_false] at mem
  simp only [Cell.isAdjacent, Cell.distance, beq_iff_eq]
  rcases mem with rfl | rfl | rfl | rfl | rfl | rfl | rfl | rfl <;>
    simp only [Cell.offset] <;> omega

/-- The cell to which a winner would slip is free, and beside the loser. -/
theorem opening?_spec {field : Battlefield} {origin center cell : Cell}
    (sought : opening? field winner origin center = some cell) :
    field.isFree cell ∧ cell.isAdjacent center := by
  have mem : cell ∈ center.neighbors.filter fun cell => cell != origin && field.isFree cell := by
    rcases Option.or_eq_some_iff.mp sought with first | ⟨-, least⟩
    · exact List.mem_of_find?_eq_some first
    · exact firstLeast?_mem _ _ _ least
  obtain ⟨around, apart⟩ := List.mem_filter.mp mem
  exact ⟨(Bool.and_eq_true_iff.mp apart).2, isAdjacent_of_mem_neighbors around⟩

/-! ### Driving back -/

section Pair

variable (ne : winning.id ≠ losing.id) (found : before.field.find? winning.id = some winning)
  (found' : before.field.find? losing.id = some losing)

include found found'

/-- A loser with nowhere to go stays, and so does the winner. -/
theorem run_shove_blocked
    (held : ¬before.field.isFree (beyond winning.position losing.position)) :
    ∃ log, shove winning.id losing.id before = (.ok (), { before with log }) := by
  unfold shove
  rw [run_bind_ok (run_require_of_find? found), run_bind_ok (run_require_of_find? found'),
    run_get_bind, if_neg held]
  exact ⟨_, rfl⟩

include ne

theorem run_shove (distinct : before.field.Distinct)
    (walkable : before.field.terrain.isWalkable losing.position)
    (free : before.field.isFree (beyond winning.position losing.position))
    (only : ∀ third ∈ before.field.living, third.position = losing.position →
      third.id = losing.id) :
    ∃ after, shove winning.id losing.id before = (.ok (), after) ∧
      before.field.Recasts
        ((winning.standing losing.position).turned (beyond winning.position losing.position))
        (losing.standing (beyond winning.position losing.position)) after.field := by
  have driven := (Recasts.refl ne found found').update_second
    (·.standing (beyond winning.position losing.position)) fun _ => rfl
  have vacated := isFree_vacated distinct found' walkable free only
  unfold shove
  rw [run_bind_ok (run_require_of_find? found), run_bind_ok (run_require_of_find? found'),
    run_get_bind, if_pos free, run_bind_ok (run_place_of_free (present_of_find? found') free)]
  exact recasts_step
    { before with
      field := before.field.update losing.id
        (·.standing (beyond winning.position losing.position)) } driven vacated _

/-- A winner who cannot follow fails, and the loser has been driven back all the same. -/
theorem run_shove_jammed (distinct : before.field.Distinct)
    (walkable : before.field.terrain.isWalkable losing.position)
    (jams : Jams before.field winning losing) :
    shove winning.id losing.id before = (.error (.cellOccupied losing.position), { before with
      field := before.field.update losing.id
        (·.standing (beyond winning.position losing.position)) }) := by
  obtain ⟨free, third, mem, apart, here⟩ := jams
  have away : winning.position ≠ losing.position := fun same => by
    rw [same, beyond_self] at free
    exact (isFree_iff.mp free).2 third mem here
  obtain ⟨memThird, alive⟩ := mem_living.mp mem
  have stays : third ∈ (before.field.update losing.id
      (·.standing (beyond winning.position losing.position))).living :=
    mem_living.mpr ⟨(mem_update_iff distinct _).mpr (.inl ⟨memThird, apart⟩), alive⟩
  have kept : (before.field.update losing.id
      (·.standing (beyond winning.position losing.position))).place winning.id losing.position
        = .error (.cellOccupied losing.position) := by
    refine place_of_held walkable stays here fun one memOne there same => ?_
    -- Whoever else is on the cell is not the winner, who has not moved.
    rcases (mem_update_iff distinct _).mp (mem_living.mp memOne).1 with ⟨memOne, -⟩ | ⟨old, eq, rfl⟩
    · obtain rfl := distinct.eq_of_id memOne (mem_of_find? found) same
      exact away there
    · exact ne ((id_of_find? eq).symm.trans same).symm
  unfold shove
  rw [run_bind_ok (run_require_of_find? found), run_bind_ok (run_require_of_find? found'),
    run_get_bind, if_pos free, run_bind_ok (run_place_of_free (present_of_find? found') free)]
  refine run_bind_error ?_
  unfold Contest.place
  rw [run_get_bind, kept]
  rfl

/-! ### The other consequences -/

theorem run_swap_of_found : ∃ after, swap winning.id losing.id before = (.ok (), after) ∧
    before.field.Recasts ((winning.standing losing.position).turned winning.position)
      (losing.standing winning.position) after.field := by
  have moved := (Recasts.refl ne found found').update (·.standing losing.position) fun _ => rfl
  have swapped := moved.update_second (·.standing winning.position) fun _ => rfl
  have exchange : before.field.swap winning.id losing.id = .ok ((before.field.update winning.id
      (·.standing losing.position)).update losing.id (·.standing winning.position)) := by
    simp [Battlefield.swap, pair?, ne, found, found', Combatant.standing]
  obtain ⟨after, run, turned⟩ := recasts_face { before with field := _ } swapped
  unfold swap
  rw [run_bind_ok (run_require_of_find? found), run_bind_ok (run_require_of_find? found'),
    run_get_bind, exchange]
  exact ⟨_, run_bind_ok run, turned⟩

/-- A winner slips to a cell beside the loser, if one is free. -/
theorem run_outflank : ∃ after, outflank winning.id losing.id before = (.ok (), after) ∧
    (after.field = before.field ∨ ∃ cell, before.field.isFree cell ∧
      cell.isAdjacent losing.position ∧
      before.field.Recasts ((winning.standing cell).turned losing.position) losing after.field) := by
  unfold outflank
  rw [run_bind_ok (run_require_of_find? found), run_bind_ok (run_require_of_find? found'),
    run_get_bind]
  rcases sought : opening? before.field winning.id winning.position losing.position with _ | cell
  · exact ⟨_, rfl, .inl rfl⟩
  · obtain ⟨free, beside⟩ := opening?_spec sought
    obtain ⟨after, run, turned⟩ := recasts_step before (Recasts.refl ne found found') free _
    exact ⟨after, run, .inr ⟨cell, free, beside, turned⟩⟩

theorem run_slipBehind : ∃ after, slipBehind winning.id losing.id before = (.ok (), after) ∧
    (after.field = before.field ∨ (before.field.isFree (beyond winning.position losing.position) ∧
      before.field.Recasts ((winning.standing (beyond winning.position losing.position)).turned
        losing.position) losing after.field)) := by
  unfold slipBehind
  rw [run_bind_ok (run_require_of_find? found), run_bind_ok (run_require_of_find? found'),
    run_get_bind]
  by_cases free : before.field.isFree (beyond winning.position losing.position)
  · obtain ⟨after, run, turned⟩ := recasts_step before (Recasts.refl ne found found') free _
    rw [if_pos free]
    exact ⟨after, run, .inr ⟨free, turned⟩⟩
  · rw [if_neg free]
    exact ⟨_, rfl, .inl rfl⟩

theorem run_jolt (config : Config) :
    ∃ after, jolt config winning.id losing.id before = (.ok (), after) ∧
      before.field.Recasts winning (losing.damagePool .composure config.clashDamage) after.field := by
  have shaken := (Recasts.refl ne found found').update_second
    (·.damagePool .composure config.clashDamage)
    fun one => Combatant.id_of_stance (Combatant.stance_damagePool one ..)
  rw [← update_const found'] at shaken
  unfold jolt
  rw [run_bind_ok (run_require_of_find? found), run_bind_ok (run_require_of_find? found')]
  exact ⟨_, rfl, shaken⟩

/-- Of all consequences, only driving back fails, and only where a third one is in the way. -/
theorem run_carryOut (config : Config) (consequence : Consequence) (distinct : before.field.Distinct)
    (walkable : before.field.terrain.isWalkable losing.position)
    (passes : consequence = .shove → ¬Jams before.field winning losing) :
    ∃ after, carryOut config winning.id losing.id consequence before = (.ok (), after) := by
  cases consequence with
  | shove =>
    by_cases free : before.field.isFree (beyond winning.position losing.position)
    · have only : ∀ third ∈ before.field.living, third.position = losing.position →
          third.id = losing.id := fun third mem here => by
        by_contra apart
        exact passes rfl ⟨free, third, mem, apart, here⟩
      obtain ⟨after, run, -⟩ := run_shove ne found found' distinct walkable free only
      exact ⟨after, run⟩
    · obtain ⟨log, run⟩ := run_shove_blocked found found' free
      exact ⟨_, run⟩
  | swap => exact (run_swap_of_found ne found found').imp fun _ => And.left
  | outflank => exact (run_outflank ne found found').imp fun _ => And.left
  | jolt => exact (run_jolt ne found found' config).imp fun _ => And.left
  | slipBehind => exact (run_slipBehind ne found found').imp fun _ => And.left

end Pair

end Contest

end Skirmish
