/-
**The beginning of turns.** What seeking the next turn does to the field, turn by turn:

* `Battlefield.begun`: the hazard underfoot, a round off everyone's conditions where it is due, and a
  fresh turn for whoever is still alive;
* `seek_eq`: seeking changes nothing but the field, the place in the order and the round, and in it
  the field evolves.
-/

import Skirmish.Combat.Turn
import Skirmish.Proofs.Occupancy

namespace Skirmish

/-- What the hazard of its cell does to a combatant that begins its turn. -/
def Terrain.scorch (terrain : Terrain) (one : Combatant) : Combatant :=
  (Combat.suffer one (terrain.hazard? one.position)).2

namespace Battlefield

/-- A combatant is there and alive. -/
def isAlive (field : Battlefield) (id : CombatantId) : Bool := (field.find? id).any (·.isAlive)

/-- The field after a round has been taken off the conditions of the living. -/
def age (field : Battlefield) : Battlefield :=
  { field with
    roster := field.roster.map fun one => if one.isAlive then one.tickConditions else one }

/-- The field after a combatant has begun its turn. -/
def begun (field : Battlefield) (id : CombatantId) (tickDue : Bool) : Battlefield :=
  match field.find? id with
  | none => field
  | some one =>
    let burned := field.update id fun _ => field.terrain.scorch one
    let aged := if tickDue then burned.age else burned
    match aged.find? id with
    | none => aged
    | some one => if one.isAlive then aged.update id (·.resetTurn) else aged

end Battlefield

open Battlefield

variable {combat : Combat} {id : CombatantId}

/-! ### Beginning a turn -/

/-- A round that is due, or not, changes nothing but the field. -/
theorem Combat.tickRound_eq (combat : Combat) (tickDue : Bool) :
    ∃ log, (if tickDue then combat.tickRound else ([], combat))
      = (log, { combat with field := if tickDue then combat.field.age else combat.field }) := by
  cases tickDue <;> exact ⟨_, rfl⟩

/-- Beginning a turn changes nothing but the field. -/
theorem Combat.beginTurn_eq (combat : Combat) (id : CombatantId) (tickDue : Bool) :
    ∃ log, combat.beginTurn id tickDue
      = (log, { combat with field := combat.field.begun id tickDue }) := by
  unfold beginTurn begun
  rcases combat.field.find? id with _ | one
  · exact ⟨[], rfl⟩
  · dsimp only
    obtain ⟨ticked, eq⟩ := tickRound_eq { combat with
      field := combat.field.update id fun _ => combat.field.terrain.scorch one } tickDue
    simp only [Terrain.scorch] at eq ⊢
    rw [eq]
    dsimp only
    rcases Battlefield.find? _ id with _ | other
    · exact ⟨_, rfl⟩
    · dsimp only
      split <;> exact ⟨_, rfl⟩

theorem Combatant.wanes_scorch (terrain : Terrain) (one : Combatant) :
    one.Wanes (terrain.scorch one) := by
  unfold Terrain.scorch Combat.suffer
  cases terrain.hazard? one.position with
  | none => exact .refl one
  | some hazard => exact wanes_damagePool one .hitPoints _

namespace Battlefield

variable {field : Battlefield} {tickDue : Bool}

theorem evolves_age (field : Battlefield) : field.Evolves field.age := by
  refine evolves_map fun one _ => ?_
  split
  · exact Combatant.wanes_tickConditions one
  · exact .refl one

theorem evolves_begun (field : Battlefield) (id : CombatantId) (tickDue : Bool) :
    field.Evolves (field.begun id tickDue) := by
  unfold begun
  split
  · exact .refl field
  · rename_i one found
    have burns := evolves_wane found (Combatant.wanes_scorch field.terrain one)
    have ages : field.Evolves (if tickDue then (field.update id fun _ => field.terrain.scorch one).age
        else field.update id fun _ => field.terrain.scorch one) := by
      split
      · exact burns.trans (evolves_age _)
      · exact burns
    dsimp only
    split
    · exact ages
    · split
      · exact ages.trans (evolves_update fun one _ => Combatant.wanes_resetTurn one)
      · exact ages

end Battlefield

/-- A turn that begins on safe ground changes nothing about somebody who has not acted yet. -/
theorem Battlefield.begun_of_safe {field : Battlefield} {one : Combatant}
    (found : field.find? id = some one) (safe : field.terrain.hazard? one.position = none)
    (idle : one.turn = {}) : field.begun id false = field := by
  have unburned : field.terrain.scorch one = one := by
    unfold Terrain.scorch
    rw [safe]
    rfl
  have rested : one.resetTurn = one := by
    unfold Combatant.resetTurn
    rw [← idle]
  have same : field.update id (fun _ => one) = field := update_self found
  unfold begun
  rw [found]
  dsimp only
  rw [unburned, same]
  simp only [Bool.false_eq_true, ↓reduceIte, found]
  split
  · rw [← update_const found, rested, same]
  · rfl

/-! ### Seeking the next turn -/

/-- What the beginning of a turn and the step to the next slot keep, seeking keeps. -/
theorem Combat.seek_induction (keeps : Combat → Prop)
    (begins : ∀ combat id tickDue, keeps combat →
      keeps { combat with field := combat.field.begun id tickDue })
    (advances : ∀ combat, keeps combat → keeps combat.advance) (fuel : Nat) (combat : Combat)
    (start : keeps combat) (report : TurnReport) (tickDue : Bool) :
    keeps (combat.seek fuel report tickDue).2 := by
  induction fuel generalizing combat report tickDue with
  | zero => exact start
  | succ fuel hyp =>
    unfold seek
    dsimp only
    split
    · exact hyp _ (advances combat start) _ _
    · rename_i id _
      split
      · obtain ⟨log, begun⟩ := beginTurn_eq combat id tickDue
        rw [begun]
        dsimp only
        split
        · exact begins combat id tickDue start
        · exact hyp _ (advances _ (begins combat id tickDue start)) _ _
      · exact hyp _ (advances combat start) _ _

theorem TurnOrder.advance_eq (order : TurnOrder) :
    ∃ index, order.advance = { order with index } ∧
      (order.index < order.slots.length → index < order.slots.length) := by
  unfold advance
  split
  · exact ⟨order.index, rfl, fun inside => inside⟩
  · split
    · exact ⟨0, rfl, fun inside => Nat.zero_lt_of_lt inside⟩
    · rename_i manned further
      refine ⟨order.index + 1, rfl, fun _ => ?_⟩
      simpa [wraps, manned] using further

@[simp] theorem Combat.slots_advance (combat : Combat) :
    combat.advance.order.slots = combat.order.slots := by
  obtain ⟨index, advances, -⟩ := combat.order.advance_eq
  simp only [advance, advances]

/-- Seeking the next turn changes nothing but the field, the place in the order and the round. -/
theorem Combat.seek_eq (fuel : Nat) (combat : Combat) (report : TurnReport) (tickDue : Bool) :
    ∃ field index round, (combat.seek fuel report tickDue).2
        = { combat with field, order := { combat.order with index }, round } ∧
      combat.field.Evolves field ∧
      (combat.order.index < combat.order.slots.length → index < combat.order.slots.length) := by
  -- What seeking may have done so far.
  refine seek_induction (fun now => ∃ field index round,
      now = { combat with field, order := { combat.order with index }, round } ∧
        combat.field.Evolves field ∧
        (combat.order.index < combat.order.slots.length → index < combat.order.slots.length))
    (fun now id tickDue => ?_) (fun now => ?_) fuel combat
    ⟨combat.field, combat.order.index, combat.round, rfl, .refl combat.field, fun inside => inside⟩
    report tickDue
  · rintro ⟨field, index, round, rfl, evolves, inside⟩
    exact ⟨_, index, round, rfl, evolves.trans (evolves_begun field id tickDue), inside⟩
  · rintro ⟨field, index, round, rfl, evolves, inside⟩
    obtain ⟨next, advances, inside'⟩ := TurnOrder.advance_eq { combat.order with index }
    exact ⟨field, next, _, by rw [advance, advances], evolves, fun within => inside' (inside within)⟩

theorem Combat.seekActor_eq (combat : Combat) (tickDue : Bool) :
    ∃ field index round, (combat.seekActor tickDue).2
        = { combat with field, order := { combat.order with index }, round } ∧
      combat.field.Evolves field ∧
      (combat.order.index < combat.order.slots.length → index < combat.order.slots.length) :=
  seek_eq (combat.order.slots.length + 1) combat {} tickDue

/-! ### Initiative -/

/-- Slots that are in order stay so. -/
theorem TurnOrder.ofSlots_of_sorted {slots : List Slot}
    (sorted : slots.Pairwise fun first second => second.score ≤ first.score) :
    ofSlots slots = ⟨slots, 0⟩ := by
  unfold ofSlots
  rw [List.mergeSort_of_pairwise (by simpa using sorted)]

/-- Rolling for initiative changes nothing but the dice. -/
theorem Combat.initiative_eq (combat : Combat) (one : Combatant) :
    ∃ score dice, combat.initiative one = (score, { combat with dice }) := by
  unfold initiative
  split <;> exact ⟨_, _, rfl⟩

theorem Combat.rollSlots_eq (combat : Combat) (roster : List Combatant) :
    ∃ slots dice, combat.rollSlots roster = (slots, { combat with dice }) := by
  induction roster generalizing combat with
  | nil => exact ⟨[], combat.dice, rfl⟩
  | cons one rest hyp =>
    obtain ⟨score, dice, eq⟩ := initiative_eq combat one
    obtain ⟨slots, dice', eq'⟩ := hyp { combat with dice }
    simp only [rollSlots, eq, eq']
    exact ⟨_, _, rfl⟩

end Skirmish
