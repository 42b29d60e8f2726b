/-
**Who holds which cell.** Everyone on a battlefield stands on walkable ground, and none of the living
shares a cell with another one. Each change of a battlefield is measured by what it does to these:

* `Sound`: identities are distinct and everyone stands on walkable ground; `Shifts` is a change that
  keeps it, and the roster of identities with it;
* `Exclusive`: no two of the living stand on one cell; `Evolves` is a change that keeps that as well;
* `evolves_update`, `evolves_rise`, `evolves_place`: a change after which nobody new is alive, getting
  up on a cell that nobody holds, and a move to a free cell are such changes;
* `Trades.exclusive_iff_not_crowds`: an exchange of cells is one exactly if it brings nobody living to
  the cell of somebody fallen on which a third one stands.
-/

import Mathlib.Data.List.Nodup
import Skirmish.Proofs.Roster
import Skirmish.Proofs.Vitals

namespace Skirmish

namespace Battlefield

variable {field before after : Battlefield} {id : CombatantId}

/-! ### Order on the field -/

/-- Everyone stands on walkable ground, the fallen too. -/
def Grounded (field : Battlefield) : Prop :=
  ∀ one ∈ field.roster, field.terrain.isWalkable one.position

/-- No two of the living stand on one cell. -/
def Exclusive (field : Battlefield) : Prop := (field.living.map Combatant.position).Nodup

/-- Everyone has an identity of their own and stands on walkable ground. -/
structure Sound (field : Battlefield) : Prop where
  distinct : field.Distinct
  grounded : field.Grounded

/-- Of those who live, only one stands where this one does. -/
def Alone (field : Battlefield) (one : Combatant) : Prop :=
  ∀ other ∈ field.living, other.position = one.position → other.id = one.id

theorem exclusive_iff (distinct : field.Distinct) :
    field.Exclusive ↔ ∀ one ∈ field.living, field.Alone one := by
  have nodup : field.living.Nodup :=
    (List.Nodup.of_map Combatant.id distinct).filter _
  constructor
  · intro exclusive one mem other mem' same
    rw [List.inj_on_of_nodup_map exclusive mem' mem same]
  · intro alone
    refine nodup.map_on fun one mem other mem' same => ?_
    exact distinct.eq_of_id (mem_living.mp mem).1 (mem_living.mp mem').1
      (alone other mem' one mem same)

/-! ### Changes -/

/-- A change that replaces nobody and leaves everyone on walkable ground. -/
structure Shifts (before after : Battlefield) : Prop where
  ids : after.roster.map Combatant.id = before.roster.map Combatant.id
  grounded : before.Sound → after.Grounded

/-- A change that replaces nobody, leaves everyone on walkable ground, and leaves the living a cell
each if they had one. -/
structure Evolves (before after : Battlefield) : Prop extends Shifts before after where
  exclusive : before.Sound → before.Exclusive → after.Exclusive

namespace Shifts

theorem refl (field : Battlefield) : field.Shifts field := ⟨rfl, Sound.grounded⟩

theorem distinct (shifts : before.Shifts after) (distinct : before.Distinct) : after.Distinct := by
  unfold Distinct
  rwa [shifts.ids]

theorem sound (shifts : before.Shifts after) (sound : before.Sound) : after.Sound :=
  ⟨shifts.distinct sound.distinct, shifts.grounded sound⟩

theorem trans {middle : Battlefield} (first : before.Shifts middle)
    (second : middle.Shifts after) : before.Shifts after :=
  ⟨second.ids.trans first.ids, fun sound => second.grounded (first.sound sound)⟩

theorem present (shifts : before.Shifts after) : after.Present id ↔ before.Present id := by
  unfold Present
  rw [shifts.ids]

end Shifts

namespace Evolves

theorem refl (field : Battlefield) : field.Evolves field :=
  ⟨.refl field, fun _ exclusive => exclusive⟩

theorem trans {middle : Battlefield} (first : before.Evolves middle)
    (second : middle.Evolves after) : before.Evolves after :=
  ⟨first.toShifts.trans second.toShifts, fun sound exclusive =>
    second.exclusive (first.sound sound) (first.exclusive sound exclusive)⟩

end Evolves

/-- A change keeps order where each of the living either lived there before or has its new cell to
itself. -/
theorem Shifts.evolves (shifts : before.Shifts after)
    (each : before.Sound → before.Exclusive → ∀ new ∈ after.living,
      (∃ old ∈ before.living, new.stance = old.stance) ∨ after.Alone new) :
    before.Evolves after := by
  refine ⟨shifts, fun sound exclusive => ?_⟩
  refine (exclusive_iff (shifts.sound sound).distinct).mpr fun one mem other mem' same => ?_
  rcases each sound exclusive one mem with ⟨old, memOld, kept⟩ | alone
  · rcases each sound exclusive other mem' with ⟨old', memOld', kept'⟩ | alone
    · rw [Combatant.id_of_stance kept, Combatant.id_of_stance kept']
      refine (exclusive_iff sound.distinct).mp exclusive old memOld old' memOld' ?_
      rw [← Combatant.position_of_stance kept, ← Combatant.position_of_stance kept', same]
    · exact (alone one mem same.symm).symm
  · exact alone other mem' same

/-! ### Changing one combatant -/

section Update

variable {old new : Combatant}

/-- Whoever is there after a combatant has been replaced. -/
theorem mem_replace_iff (distinct : field.Distinct) (found : field.find? id = some old)
    {one : Combatant} :
    one ∈ (field.update id fun _ => new).roster ↔
      (one ∈ field.roster ∧ one.id ≠ id) ∨ one = new := by
  simp [mem_update_iff distinct, found]

theorem shifts_replace (found : field.find? id = some old) (same : new.id = old.id)
    (walkable : field.Sound → field.terrain.isWalkable new.position) :
    field.Shifts (field.update id fun _ => new) := by
  refine ⟨map_update Combatant.id fun one eq => ?_, fun sound one mem => ?_⟩
  · rw [same, Option.some.inj (eq.symm.trans found)]
  · rcases (mem_replace_iff sound.distinct found).mp mem with ⟨mem, -⟩ | rfl
    · exact sound.grounded one mem
    · exact walkable sound

/-- A replacement keeps order if the new one has its cell to itself whenever it is alive, or was
alive there before. -/
theorem evolves_replace (found : field.find? id = some old) (same : new.id = old.id)
    (walkable : field.Sound → field.terrain.isWalkable new.position)
    (settled : field.Sound → field.Exclusive → new.isAlive →
      (old.isAlive ∧ new.stance = old.stance) ∨
        ∀ other ∈ field.living, other.position = new.position → other.id = id) :
    field.Evolves (field.update id fun _ => new) := by
  refine (shifts_replace found same walkable).evolves fun sound exclusive one mem => ?_
  obtain ⟨mem, alive⟩ := mem_living.mp mem
  rcases (mem_replace_iff sound.distinct found).mp mem with ⟨mem, -⟩ | rfl
  · exact .inl ⟨one, mem_living.mpr ⟨mem, alive⟩, rfl⟩
  rcases settled sound exclusive alive with ⟨aliveOld, kept⟩ | alone
  · exact .inl ⟨old, mem_living.mpr ⟨mem_of_find? found, aliveOld⟩, kept⟩
  · refine .inr fun other mem' here => ?_
    obtain ⟨mem', alive'⟩ := mem_living.mp mem'
    rcases (mem_replace_iff sound.distinct found).mp mem' with ⟨mem', ne⟩ | rfl
    · exact absurd (alone other (mem_living.mpr ⟨mem', alive'⟩) here) ne
    · rfl

theorem grounded_of_find? (sound : field.Sound) (found : field.find? id = some old) :
    field.terrain.isWalkable old.position :=
  sound.grounded old (mem_of_find? found)

/-- A change after which nobody new is alive. -/
theorem evolves_update {change : Combatant → Combatant}
    (wanes : ∀ one, field.find? id = some one → one.Wanes (change one)) :
    field.Evolves (field.update id change) := by
  rcases found : field.find? id with _ | one
  · have same : field.update id change = field := by
      simp only [update, updateFirst_of_none _ _ _ found]
    rw [same]
    exact .refl field
  · have kept := (wanes one found).stance
    rw [← update_const found]
    refine evolves_replace found (Combatant.id_of_stance kept) (fun sound => ?_)
      fun _ _ alive => .inl ⟨(wanes one found).alive alive, kept⟩
    rw [Combatant.position_of_stance kept]
    exact grounded_of_find? sound found

/-- A changed combatant in its own place, as `evolves_update` has it. -/
theorem evolves_wane (found : field.find? id = some old) (wanes : old.Wanes new) :
    field.Evolves (field.update id fun _ => new) :=
  evolves_update fun _ eq => Option.some.inj (found.symm.trans eq) ▸ wanes

/-- Getting up on a cell that nobody holds. -/
theorem evolves_rise (found : field.find? id = some old) (kept : new.stance = old.stance)
    (free : field.occupant? old.position = none) :
    field.Evolves (field.update id fun _ => new) := by
  have here : new.position = old.position := Combatant.position_of_stance kept
  refine evolves_replace found (Combatant.id_of_stance kept)
    (fun sound => here ▸ grounded_of_find? sound found) fun _ _ _ => .inr fun other mem same => ?_
  exact absurd (same.trans here) (occupant?_eq_none_iff.mp free other mem)

end Update

/-! ### Moving one combatant -/

/-- What a move that was granted did. -/
theorem place_eq_ok {cell : Cell} (placed : field.place id cell = .ok after) :
    field.terrain.isWalkable cell ∧ (∀ holder, field.occupant? cell = some holder → holder = id) ∧
      (∃ one, field.find? id = some one) ∧
      after = field.update id fun one => { one with position := cell } := by
  unfold place at placed
  split at placed
  · cases placed
  case isFalse walkable =>
    split at placed
    · cases placed
    case isFalse unheld =>
      split at placed
      · cases placed
      case isFalse present =>
        refine ⟨by simpa using walkable, fun holder holds => ?_, ?_, (Except.ok.inj placed).symm⟩
        · simpa [holds] using unheld
        · exact Option.ne_none_iff_exists'.mp (by simpa using present)

/-- Whoever is on the field may move to a free cell. -/
theorem place_of_free {cell : Cell} (present : field.Present id) (free : field.isFree cell) :
    field.place id cell = .ok (field.update id fun one => { one with position := cell }) := by
  obtain ⟨walkable, none⟩ := isFree_iff.mp free
  obtain ⟨one, found⟩ := present.find?
  simp [place, walkable, occupant?_eq_none_iff.mpr none, found]

/-- A move to a free cell. -/
theorem evolves_place {cell : Cell} (placed : field.place id cell = .ok after) :
    field.Evolves after := by
  obtain ⟨walkable, unheld, ⟨one, found⟩, rfl⟩ := place_eq_ok placed
  rw [← update_const found]
  refine evolves_replace found rfl (fun _ => walkable)
    fun sound exclusive _ => .inr fun other mem here => ?_
  -- Whoever stands on the cell is its only holder, and that is the one who moves.
  rcases holds : field.occupant? cell with _ | holder
  · exact absurd here (occupant?_eq_none_iff.mp holds other mem)
  · obtain ⟨first, memFirst, there, same⟩ := occupant?_eq_some holds
    have alone := (exclusive_iff sound.distinct).mp exclusive first memFirst
    rw [alone other mem (here.trans there.symm), same, unheld holder holds]

/-! ### Changing nobody's bearing -/

/-- A change after which everyone stands where it stood, with the hit points that it had. -/
structure Rests (before after : Battlefield) : Prop where
  bearings : after.roster.map Combatant.bearing = before.roster.map Combatant.bearing
  walkable : after.terrain.isWalkable = before.terrain.isWalkable

namespace Rests

theorem refl (field : Battlefield) : field.Rests field := ⟨rfl, rfl⟩

theorem trans {middle : Battlefield} (first : before.Rests middle) (second : middle.Rests after) :
    before.Rests after :=
  ⟨second.bearings.trans first.bearings, second.walkable.trans first.walkable⟩

theorem symm (rests : before.Rests after) : after.Rests before :=
  ⟨rests.bearings.symm, rests.walkable.symm⟩

/-- Whoever is there now was there before with the same bearing. -/
theorem mem (rests : before.Rests after) {new : Combatant} (mem : new ∈ after.roster) :
    ∃ old ∈ before.roster, old.bearing = new.bearing := by
  have there : new.bearing ∈ before.roster.map Combatant.bearing :=
    rests.bearings ▸ List.mem_map_of_mem mem
  exact List.mem_map.mp there

theorem mem_living (rests : before.Rests after) {new : Combatant} (mem : new ∈ after.living) :
    ∃ old ∈ before.living, old.bearing = new.bearing := by
  obtain ⟨mem, alive⟩ := Battlefield.mem_living.mp mem
  obtain ⟨old, memOld, same⟩ := rests.mem mem
  exact ⟨old, Battlefield.mem_living.mpr ⟨memOld, Combatant.isAlive_of_bearing same ▸ alive⟩, same⟩

theorem evolves (rests : before.Rests after) : before.Evolves after := by
  refine Shifts.evolves ⟨?_, fun sound new mem => ?_⟩ fun _ _ new mem => .inl ?_
  · simpa [List.map_map, Function.comp_def, Combatant.bearing, Combatant.stance]
      using congrArg (List.map (·.1.1)) rests.bearings
  · obtain ⟨old, memOld, same⟩ := rests.mem mem
    rw [rests.walkable, ← Combatant.position_of_stance (Combatant.stance_of_bearing same)]
    exact sound.grounded old memOld
  · obtain ⟨old, memOld, same⟩ := rests.mem_living mem
    exact ⟨old, memOld, (Combatant.stance_of_bearing same).symm⟩

theorem exclusive_iff (rests : before.Rests after) (sound : before.Sound) :
    after.Exclusive ↔ before.Exclusive :=
  ⟨rests.symm.evolves.exclusive (rests.evolves.sound sound), rests.evolves.exclusive sound⟩

end Rests

/-- A change of a combatant that leaves its bearing. -/
theorem rests_update {change : Combatant → Combatant}
    (same : ∀ one, field.find? id = some one → (change one).bearing = one.bearing) :
    field.Rests (field.update id change) :=
  ⟨map_update Combatant.bearing same, rfl⟩

/-! ### Changing everyone, and the ground -/

/-- A change of everyone after which nobody new is alive. -/
theorem evolves_map {change : Combatant → Combatant}
    (wanes : ∀ one ∈ field.roster, one.Wanes (change one)) :
    field.Evolves { field with roster := field.roster.map change } := by
  refine Shifts.evolves ⟨?_, fun sound one mem => ?_⟩ fun _ _ new mem => .inl ?_
  · rw [List.map_map]
    exact List.map_congr_left fun one mem => Combatant.id_of_stance (wanes one mem).stance
  · obtain ⟨old, memOld, rfl⟩ := List.mem_map.mp mem
    rw [Combatant.position_of_stance (wanes old memOld).stance]
    exact sound.grounded old memOld
  · obtain ⟨memNew, alive⟩ := mem_living.mp mem
    obtain ⟨old, memOld, rfl⟩ := List.mem_map.mp memNew
    exact ⟨old, mem_living.mpr ⟨memOld, (wanes old memOld).alive alive⟩, (wanes old memOld).stance⟩

/-- Another hazard on a cell. -/
theorem evolves_setHazard (cell : Cell) (hazard : Option Hazard) :
    field.Evolves { field with terrain := field.terrain.setHazard cell hazard } :=
  Shifts.evolves ⟨rfl, fun sound one mem => sound.grounded one mem⟩
    fun _ _ new mem => .inl ⟨new, mem, rfl⟩

/-! ### Newcomers -/

/-- What a newcomer's arrival did. -/
theorem add_eq_ok {newcomer : Combatant} (added : field.add newcomer = .ok after) :
    ¬field.Present newcomer.id ∧ field.terrain.isWalkable newcomer.position ∧
      (newcomer.isAlive → field.occupant? newcomer.position = none) ∧
      after = { field with roster := field.roster ++ [newcomer] } := by
  unfold add at added
  split at added
  · cases added
  case isFalse absent =>
    split at added
    · cases added
    case isFalse walkable =>
      split at added
      · cases added
      case isFalse free =>
        refine ⟨find?_eq_none_iff.mp (by simpa using absent), by simpa using walkable,
          fun alive => by simpa [alive] using free, (Except.ok.inj added).symm⟩

/-- A newcomer arrives on a free cell. -/
theorem add_of_free {newcomer : Combatant} (absent : (field.find? newcomer.id).isNone)
    (walkable : field.terrain.isWalkable newcomer.position)
    (free : (field.occupant? newcomer.position).isNone) :
    field.add newcomer = .ok { field with roster := field.roster ++ [newcomer] } := by
  have absent' : (field.find? newcomer.id).isSome = false := by simpa using absent
  have free' : (field.occupant? newcomer.position).isSome = false := by simpa using free
  simp [add, absent', walkable, free']

theorem distinct_add {newcomer : Combatant} (added : field.add newcomer = .ok after)
    (distinct : field.Distinct) : after.Distinct := by
  obtain ⟨absent, -, -, rfl⟩ := add_eq_ok added
  simp only [Distinct, List.map_append, List.map_cons, List.map_nil, List.nodup_append,
    List.mem_singleton]
  exact ⟨distinct, by simp, fun one mem other eq same => absent (eq ▸ same ▸ mem)⟩

theorem sound_add {newcomer : Combatant} (added : field.add newcomer = .ok after)
    (sound : field.Sound) : after.Sound := by
  refine ⟨distinct_add added sound.distinct, fun one mem => ?_⟩
  obtain ⟨-, walkable, -, rfl⟩ := add_eq_ok added
  rcases List.mem_append.mp mem with mem | mem
  · exact sound.grounded one mem
  · exact List.mem_singleton.mp mem ▸ walkable

theorem exclusive_add {newcomer : Combatant} (added : field.add newcomer = .ok after)
    (exclusive : field.Exclusive) : after.Exclusive := by
  obtain ⟨-, -, free, rfl⟩ := add_eq_ok added
  by_cases alive : newcomer.isAlive
  · have apart := occupant?_eq_none_iff.mp (free alive)
    simp only [Exclusive, living, List.filter_append, List.filter_cons, alive, ↓reduceIte,
      List.filter_nil, List.map_append, List.map_cons, List.map_nil, List.nodup_append,
      List.mem_singleton]
    refine ⟨exclusive, by simp, fun cell mem other eq same => ?_⟩
    obtain ⟨one, memOne, rfl⟩ := List.mem_map.mp mem
    exact apart one memOne (same.trans eq)
  · simpa [Exclusive, living, alive] using exclusive

/-! ### An exchange of cells -/

/-- Two combatants with their cells exchanged and everyone else as before. -/
structure Trades (before : Battlefield) (one other : Combatant) (after : Battlefield) : Prop where
  ne : one.id ≠ other.id
  there : before.find? one.id = some one
  there' : before.find? other.id = some other
  terrain : after.terrain = before.terrain
  ids : after.roster.map Combatant.id = before.roster.map Combatant.id
  mem_iff : before.Distinct → ∀ new, new ∈ after.roster ↔
    (new ∈ before.roster ∧ new.id ≠ one.id ∧ new.id ≠ other.id) ∨
      new = { one with position := other.position } ∨ new = { other with position := one.position }

/-- Somebody alive would come to the cell of somebody fallen, on which a third one stands. -/
def Crowds (field : Battlefield) (mover fallen : CombatantId) : Prop :=
  ∃ one other third, field.find? mover = some one ∧ field.find? fallen = some other ∧
    third ∈ field.living ∧ one.isAlive ∧ ¬other.isAlive ∧ third.id ≠ mover ∧
    third.position = other.position

/-- An exchange trades the cells of the two. -/
theorem swap_eq_ok {first second : CombatantId} (swapped : field.swap first second = .ok after) :
    ∃ one other, one.id = first ∧ other.id = second ∧ field.Trades one other after := by
  unfold swap pair? at swapped
  by_cases ne : first = second
  · simp [ne] at swapped
  rcases found : field.find? first with _ | one
  · simp [ne, found] at swapped
  rcases found' : field.find? second with _ | other
  · simp [ne, found, found'] at swapped
  obtain rfl := id_of_find? found
  obtain rfl := id_of_find? found'
  have eq : after = (field.update one.id ({ · with position := other.position })).update other.id
      ({ · with position := one.position }) := by
    simpa [ne, found, found'] using swapped.symm
  subst eq
  obtain ⟨middle, isMiddle⟩ :
      ∃ middle, middle = field.update one.id ({ · with position := other.position }) := ⟨_, rfl⟩
  rw [← isMiddle]
  have idsMiddle : middle.roster.map Combatant.id = field.roster.map Combatant.id := by
    rw [isMiddle]
    exact map_update Combatant.id fun _ _ => rfl
  have idsAfter : (middle.update other.id ({ · with position := one.position })).roster.map
      Combatant.id = middle.roster.map Combatant.id := map_update Combatant.id fun _ _ => rfl
  have foundMiddle : middle.find? other.id = some other := by
    rw [isMiddle, find?_update_of_ne (Ne.symm ne), found']
    exact fun _ => rfl
  refine ⟨one, other, rfl, rfl, ne, found, found', by rw [isMiddle]; rfl,
    idsAfter.trans idsMiddle, fun distinct new => ?_⟩
  have distinctMiddle : middle.Distinct := by
    unfold Distinct
    rw [idsMiddle]
    exact distinct
  rw [mem_update_iff distinctMiddle, foundMiddle, isMiddle, mem_update_iff distinct, found]
  constructor
  · rintro (⟨⟨mem, away⟩ | ⟨old, eq, rfl⟩, away'⟩ | ⟨old, eq, rfl⟩)
    · exact .inl ⟨mem, away, away'⟩
    · obtain rfl := Option.some.inj eq
      exact .inr (.inl rfl)
    · obtain rfl := Option.some.inj eq
      exact .inr (.inr rfl)
  · rintro (⟨mem, away, away'⟩ | rfl | rfl)
    · exact .inl ⟨.inl ⟨mem, away⟩, away'⟩
    · exact .inl ⟨.inr ⟨one, rfl, rfl⟩, ne⟩
    · exact .inr ⟨other, rfl, rfl⟩

namespace Trades

variable {one other : Combatant}

theorem symm (trades : before.Trades one other after) : before.Trades other one after where
  ne := trades.ne.symm
  there := trades.there'
  there' := trades.there
  terrain := trades.terrain
  ids := trades.ids
  mem_iff := fun distinct new => by
    rw [trades.mem_iff distinct new, and_comm (a := new.id ≠ one.id), or_comm (a := new = _)]

theorem shifts (trades : before.Trades one other after) : before.Shifts after := by
  refine ⟨trades.ids, fun sound new mem => ?_⟩
  rw [trades.terrain]
  have walkable := grounded_of_find? sound trades.there
  have walkable' := grounded_of_find? sound trades.there'
  rcases (trades.mem_iff sound.distinct new).mp mem with ⟨mem, -⟩ | rfl | rfl
  · exact sound.grounded new mem
  · exact walkable'
  · exact walkable

/-- Bringing somebody to a cell that a third one holds leaves two on it. -/
theorem not_exclusive (trades : before.Trades one other after) (sound : before.Sound)
    (crowds : before.Crowds one.id other.id) : ¬after.Exclusive := by
  obtain ⟨mover, fallen, third, found, found', memThird, alive, down, ne, here⟩ := crowds
  obtain rfl := Option.some.inj (found.symm.trans trades.there)
  obtain rfl := Option.some.inj (found'.symm.trans trades.there')
  obtain ⟨memThird, aliveThird⟩ := mem_living.mp memThird
  have apart : third.id ≠ fallen.id := fun same =>
    down (sound.distinct.eq_of_id memThird (mem_of_find? found') same ▸ aliveThird)
  have stays : third ∈ after.living :=
    mem_living.mpr ⟨(trades.mem_iff sound.distinct _).mpr (.inl ⟨memThird, ne, apart⟩), aliveThird⟩
  have comes : { mover with position := fallen.position } ∈ after.living :=
    mem_living.mpr ⟨(trades.mem_iff sound.distinct _).mpr (.inr (.inl rfl)), alive⟩
  intro exclusive
  exact ne ((exclusive_iff (trades.shifts.sound sound).distinct).mp exclusive _ comes third stays here)

/-- Whoever is not part of the exchange shares its cell with neither, unless one of them is brought
to a third one's cell. -/
theorem apart (trades : before.Trades one other after) (sound : before.Sound)
    (exclusive : before.Exclusive) (free : ¬before.Crowds one.id other.id) {third : Combatant}
    (mem : third ∈ before.living) (ne : third.id ≠ one.id) (ne' : third.id ≠ other.id)
    (alive : one.isAlive) : third.position ≠ other.position := by
  intro here
  by_cases alive' : other.isAlive
  · have memOther : other ∈ before.living := mem_living.mpr ⟨mem_of_find? trades.there', alive'⟩
    exact ne' ((exclusive_iff sound.distinct).mp exclusive other memOther third mem here)
  · exact free ⟨one, other, third, trades.there, trades.there', mem, alive, alive', ne, here⟩

/-- An exchange that brings nobody to a third one's cell leaves the living a cell each. -/
theorem exclusive (trades : before.Trades one other after) (sound : before.Sound)
    (exclusive : before.Exclusive) (free : ¬before.Crowds one.id other.id)
    (free' : ¬before.Crowds other.id one.id) : after.Exclusive := by
  refine (exclusive_iff (trades.shifts.sound sound).distinct).mpr fun new mem new' mem' here => ?_
  obtain ⟨mem, alive⟩ := mem_living.mp mem
  obtain ⟨mem', alive'⟩ := mem_living.mp mem'
  rcases (trades.mem_iff sound.distinct new).mp mem with ⟨mem, ne, ne'⟩ | rfl | rfl <;>
    rcases (trades.mem_iff sound.distinct new').mp mem' with ⟨mem', away, away'⟩ | rfl | rfl
  · exact (exclusive_iff sound.distinct).mp exclusive new (mem_living.mpr ⟨mem, alive⟩) new'
      (mem_living.mpr ⟨mem', alive'⟩) here
  · exact absurd here.symm
      (trades.apart sound exclusive free (mem_living.mpr ⟨mem, alive⟩) ne ne' alive')
  · exact absurd here.symm
      (trades.symm.apart sound exclusive free' (mem_living.mpr ⟨mem, alive⟩) ne' ne alive')
  · exact absurd here
      (trades.apart sound exclusive free (mem_living.mpr ⟨mem', alive'⟩) away away' alive)
  · rfl
  · exact (exclusive_iff sound.distinct).mp exclusive one
      (mem_living.mpr ⟨mem_of_find? trades.there, alive⟩) other
      (mem_living.mpr ⟨mem_of_find? trades.there', alive'⟩) here.symm
  · exact absurd here
      (trades.symm.apart sound exclusive free' (mem_living.mpr ⟨mem', alive'⟩) away' away alive)
  · exact (exclusive_iff sound.distinct).mp exclusive other
      (mem_living.mpr ⟨mem_of_find? trades.there', alive⟩) one
      (mem_living.mpr ⟨mem_of_find? trades.there, alive'⟩) here.symm
  · rfl

/-- An exchange leaves the living a cell each exactly if it brings nobody to a third one's cell. -/
theorem exclusive_iff_not_crowds (trades : before.Trades one other after) (sound : before.Sound)
    (exclusive : before.Exclusive) :
    after.Exclusive ↔ ¬before.Crowds one.id other.id ∧ ¬before.Crowds other.id one.id :=
  ⟨fun still => ⟨fun crowds => trades.not_exclusive sound crowds still,
      fun crowds => trades.symm.not_exclusive sound crowds still⟩,
    fun ⟨free, free'⟩ => trades.exclusive sound exclusive free free'⟩

end Trades

end Battlefield

end Skirmish
