/-
**Who is touched.** An action has two parties: whoever acts, and its target if it has one. Everyone
else is a bystander.

* `Confined`: a change that touches no bystander and, of the ground, nothing but hazards;
* `Bleeds`: a change that takes so and so many hit points from everyone, and nothing else;
* `toll`: what a list of losses adds up to for one combatant;
* `Bystands`: what an action may do to bystanders: it takes from them what its report lists.
-/

import Mathlib.Algebra.BigOperators.Group.List.Basic
import Mathlib.Algebra.Ring.Int.Defs
import Skirmish.Proofs.Occupancy

namespace Skirmish

namespace Battlefield

variable {field before middle after : Battlefield} {id who : CombatantId}
  {target : Option CombatantId}

/-! ### Parties and bystanders -/

/-- Somebody is a party to an action of `who` against a target. -/
def Party (who : CombatantId) (target : Option CombatantId) (id : CombatantId) : Prop :=
  id = who ∨ target = some id

theorem party_actor (who : CombatantId) (target : Option CombatantId) : Party who target who :=
  .inl rfl

theorem party_target (aim : target = some id) : Party who target id := .inr aim

/-- The parties are whoever acts and whoever it acts on. -/
theorem party_getD (who : CombatantId) (target : Option CombatantId) :
    Party who target (target.getD who) := by
  cases target with
  | none => exact .inl rfl
  | some id => exact .inr rfl

/-- A change of a certain kind that touches no bystander and leaves walls and cover as they are. -/
structure Confined (who : CombatantId) (target : Option CombatantId)
    (moves : Battlefield → Battlefield → Prop) (before after : Battlefield) : Prop where
  moves : moves before after
  bystander : ∀ id, ¬Party who target id → after.find? id = before.find? id
  ground : ∃ hazard?, after.terrain = { before.terrain with hazard? }

section Confined

variable {moves : Battlefield → Battlefield → Prop}

instance [Std.Refl moves] : Std.Refl (Confined who target moves) :=
  ⟨fun field => ⟨Std.Refl.refl field, fun _ _ => rfl, field.terrain.hazard?, rfl⟩⟩

instance [IsTrans Battlefield moves] : IsTrans Battlefield (Confined who target moves) where
  trans := fun _ _ _ first second => by
    obtain ⟨_, ground⟩ := first.ground
    obtain ⟨hazard?, ground'⟩ := second.ground
    refine ⟨IsTrans.trans _ _ _ first.moves second.moves, fun id apart => ?_, hazard?, ?_⟩
    · rw [second.bystander id apart, first.bystander id apart]
    · rw [ground', ground]

/-- Putting somebody in the place of a party. -/
theorem confined_replace {new : Combatant} (party : Party who target id) (same : new.id = id)
    (allowed : moves field (field.update id fun _ => new)) :
    Confined who target moves field (field.update id fun _ => new) := by
  refine ⟨allowed, fun other apart => ?_, field.terrain.hazard?, rfl⟩
  exact find?_replace_of_ne same fun eq => apart (eq ▸ party)

/-- Changing a party. -/
theorem confined_update {change : Combatant → Combatant} (party : Party who target id)
    (keeps : ∀ one, (change one).id = one.id) (allowed : moves field (field.update id change)) :
    Confined who target moves field (field.update id change) := by
  refine ⟨allowed, fun other apart => ?_, field.terrain.hazard?, rfl⟩
  exact find?_update_of_ne (fun eq => apart (eq ▸ party)) keeps

/-- Changing the hazard of a cell. -/
theorem confined_setHazard {cell : Cell} {hazard : Option Hazard}
    (allowed : moves field { field with terrain := field.terrain.setHazard cell hazard }) :
    Confined who target moves field
      { field with terrain := field.terrain.setHazard cell hazard } :=
  ⟨allowed, fun _ _ => rfl, _, rfl⟩

/-- Somebody pays from one of its pools. -/
def Pays (who : CombatantId) (before after : Battlefield) : Prop :=
  ∃ pool amount payer paid, before.find? who = some payer ∧
    payer.spend? pool amount = some paid ∧ after = before.update who fun _ => paid

theorem Pays.evolves (pays : Pays who before after) : before.Evolves after := by
  obtain ⟨pool, amount, payer, paid, found, spent, rfl⟩ := pays
  exact evolves_wane found (Combatant.wanes_spend spent)

/-- A payment of whoever acts touches nobody else. -/
theorem Pays.confined (pays : Pays who before after) (target : Option CombatantId) :
    Confined who target Evolves before after := by
  have evolves := pays.evolves
  obtain ⟨pool, amount, payer, paid, found, spent, rfl⟩ := pays
  have same : paid.id = who :=
    (Combatant.id_of_stance (Combatant.wanes_spend spent).stance).trans (id_of_find? found)
  exact confined_replace (party_actor who target) same evolves

end Confined

/-! ### Losses -/

/-- What a list of losses adds up to for somebody. -/
def toll (losses : List (CombatantId × Int)) (id : CombatantId) : Int :=
  ((losses.filter (·.1 == id)).map (·.2)).sum

@[simp] theorem toll_nil (id : CombatantId) : toll [] id = 0 := rfl

@[simp] theorem toll_append (first second : List (CombatantId × Int)) (id : CombatantId) :
    toll (first ++ second) id = toll first id + toll second id := by
  simp [toll]

theorem toll_singleton (who : CombatantId) (lost : Int) (id : CombatantId) :
    toll [(who, lost)] id = if id = who then lost else 0 := by
  by_cases same : who = id
  · simp [toll, same]
  · simp [toll, same, Ne.symm same]

/-- Everyone's hit points are in range. -/
def Fit (field : Battlefield) : Prop :=
  ∀ id one, field.find? id = some one → one.pools.hitPoints.InRange

/-- A change that takes hit points from everyone, and nothing else. A negative loss is a gain. -/
structure Bleeds (loss : CombatantId → Int) (before after : Battlefield) : Prop where
  terrain : after.terrain = before.terrain
  each : ∀ id one, before.find? id = some one → ∃ new, after.find? id = some new ∧
    new.husk = one.husk ∧ new.hitPoints = one.hitPoints - loss id
  fit : before.Fit → after.Fit

section Bleeds

variable {loss later : CombatantId → Int}

theorem Bleeds.refl (field : Battlefield) : Bleeds (fun _ => 0) field field :=
  ⟨rfl, fun _ one found => ⟨one, found, rfl, by simp⟩, fun fit => fit⟩

theorem Bleeds.trans (first : Bleeds loss before middle) (second : Bleeds later middle after) :
    Bleeds (fun id => loss id + later id) before after := by
  refine ⟨second.terrain.trans first.terrain, fun id one found => ?_,
    fun fit => second.fit (first.fit fit)⟩
  obtain ⟨two, found', husk, left⟩ := first.each id one found
  obtain ⟨three, found'', husk', left'⟩ := second.each id two found'
  exact ⟨three, found'', husk'.trans husk, by rw [left', left]; omega⟩

theorem Bleeds.congr (bleeds : Bleeds loss before after) (same : ∀ id, later id = loss id) :
    Bleeds later before after := by
  rwa [funext same]

/-- Only one combatant loses or gains. -/
theorem bleeds_replace {old new : Combatant} (found : field.find? who = some old)
    (husk : new.husk = old.husk)
    (fits : old.pools.hitPoints.InRange → new.pools.hitPoints.InRange) :
    Bleeds (fun id => if id = who then old.hitPoints - new.hitPoints else 0) field
      (field.update who fun _ => new) := by
  have same : new.id = who :=
    (Combatant.id_of_stance (Combatant.stance_of_husk husk)).trans (id_of_find? found)
  have others : ∀ {id}, id ≠ who → (field.update who fun _ => new).find? id = field.find? id :=
    fun ne => find?_replace_of_ne same ne
  refine ⟨rfl, fun id one there => ?_, fun fit id one there => ?_⟩
  · by_cases here : id = who
    · subst here
      obtain rfl := Option.some.inj (found.symm.trans there)
      exact ⟨new, find?_replace found same, husk, by simp⟩
    · exact ⟨one, (others here).trans there, rfl, by simp [here]⟩
  · by_cases here : id = who
    · subst here
      obtain rfl := Option.some.inj ((find?_replace found same).symm.trans there)
      exact fits (fit id old found)
    · exact fit id one ((others here).symm.trans there)

end Bleeds

/-! ### What an action does to bystanders -/

/-- What an action does besides what it does to its parties: it takes hit points from bystanders, as
many as it reports, and changes hazards. -/
structure Bystands (who : CombatantId) (target : Option CombatantId)
    (splash : List (CombatantId × Int)) (before after : Battlefield) : Prop where
  ids : after.roster.map Combatant.id = before.roster.map Combatant.id
  ground : ∃ hazard?, after.terrain = { before.terrain with hazard? }
  bystander : ∀ id one, ¬Party who target id → before.find? id = some one →
    ∃ new, after.find? id = some new ∧ new.husk = one.husk ∧
      new.hitPoints = one.hitPoints - toll splash id

section Bystands

variable {splash : List (CombatantId × Int)} {moves : Battlefield → Battlefield → Prop}

theorem Bystands.refl (field : Battlefield) (who : CombatantId) (target : Option CombatantId) :
    Bystands who target [] field field :=
  ⟨rfl, ⟨field.terrain.hazard?, rfl⟩, fun _ one _ found => ⟨one, found, rfl, by simp⟩⟩

/-- What an action does to its parties besides takes nothing from bystanders. -/
theorem Bystands.confined_trans (first : Confined who target moves before middle)
    (ids : middle.roster.map Combatant.id = before.roster.map Combatant.id)
    (second : Bystands who target splash middle after) :
    Bystands who target splash before after := by
  obtain ⟨_, ground⟩ := first.ground
  obtain ⟨hazard?, ground'⟩ := second.ground
  refine ⟨second.ids.trans ids, ⟨hazard?, by rw [ground', ground]⟩, fun id one apart found => ?_⟩
  exact second.bystander id one apart ((first.bystander id apart).trans found)

theorem Bystands.trans_confined (first : Bystands who target splash before middle)
    (second : Confined who target moves middle after)
    (ids : after.roster.map Combatant.id = middle.roster.map Combatant.id) :
    Bystands who target splash before after := by
  obtain ⟨_, ground⟩ := first.ground
  obtain ⟨hazard?, ground'⟩ := second.ground
  refine ⟨ids.trans first.ids, ⟨hazard?, by rw [ground', ground]⟩, fun id one apart found => ?_⟩
  obtain ⟨new, found', left⟩ := first.bystander id one apart found
  exact ⟨new, (second.bystander id apart).trans found', left⟩

end Bystands

end Battlefield

end Skirmish
