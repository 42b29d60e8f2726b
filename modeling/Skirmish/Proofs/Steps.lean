/-
**Steps of a resolution.** How the steps of a resolution run, and what they leave alone:

* `Frame moves`: the premises of the action stay, whomever an area or a chain reaches is on the
  field, and the field itself changes as `moves` allows;
* `Steady moves`: what everything but a cost leaves alone. Nothing is aborted either;
* `steady_replace`, `calm_replace`, `steady_place`: the changes that effects are made of.
-/

import Skirmish.Combat.Basic
import Skirmish.Proofs.Bystanders
import Skirmish.Proofs.Running

set_option linter.unusedSectionVars false

namespace Skirmish

/-! ### Running -/

namespace Resolve

section Run

variable {α β : Type} {before middle : Resolution}

@[simp] theorem run_tally (change : Tally → Tally) :
    tally change before = (.ok (), { before with tally := change before.tally }) := rfl

@[simp] theorem run_narrate_bind (line : String) (next : Unit → Resolve β) :
    (narrate line >>= next) before = next () { before with log := before.log ++ [line] } := rfl

@[simp] theorem settle_ok (value : α) : settle (.ok value) = pure value := rfl

@[simp] theorem settle_error (error : Error) : settle (.error error : Except Error α) = throw error :=
  rfl

/-- What has been looked up was there. -/
theorem settle_of_run {result : Except Error α} {value : α}
    (run : settle result before = (.ok value, middle)) : result = .ok value ∧ middle = before := by
  cases result with
  | error error => cases run
  | ok other =>
    cases run
    exact ⟨rfl, rfl⟩

theorem run_roll (formula : DiceFormula) : roll formula before
    = (.ok (formula.total (formula.faces before.dice).1),
      { before with dice := (formula.faces before.dice).2 }) := rfl

/-- Somebody on the field is found. -/
theorem run_require {id : CombatantId} {combatant : Combatant}
    (found : before.field.find? id = some combatant) :
    require id before = (.ok combatant, before) := by
  show (settle (before.field.require id) : Resolve Combatant) before = _
  rw [Battlefield.require_eq_ok.mpr found]
  rfl

/-- Somebody who is not on the field is missed. -/
theorem run_require_of_none {id : CombatantId} (missing : before.field.find? id = none) :
    require id before = (.error (.combatantNotFound id), before) := by
  show (settle (before.field.require id) : Resolve Combatant) before = _
  rw [Battlefield.require, missing]
  rfl

/-- A move that succeeded was granted by the field. -/
theorem place_of_run {id : CombatantId} {cell : Cell}
    (run : place id cell before = (.ok (), middle)) :
    ∃ field, before.field.place id cell = .ok field ∧ middle = { before with field } := by
  unfold place at run
  rw [run_get_bind] at run
  rcases placed : before.field.place id cell with error | field
  · rw [placed, settle_error, run_throw_bind] at run
    cases run
  · rw [placed, settle_ok, run_pure_bind, run_modify] at run
    exact ⟨field, rfl, (Prod.mk.inj run).2.symm⟩

/-- A move to a free cell is granted. -/
theorem run_place_of_free {id : CombatantId} {cell : Cell} (present : before.field.Present id)
    (free : before.field.isFree cell) : place id cell before = (.ok (), { before with
      field := before.field.update id fun one => { one with position := cell } }) := by
  unfold place
  rw [run_get_bind, Battlefield.place_of_free present free, settle_ok, run_pure_bind, run_modify]

/-- The target is there where an action has one. -/
theorem run_targetId {id : CombatantId} (aim : before.target = some id) :
    targetId before = (.ok id, before) := by
  simp [targetId, aim]

/-- Somebody is put in its place. -/
theorem run_replace {id : CombatantId} {combatant : Combatant} (same : combatant.id = id) :
    replace combatant before
      = (.ok (), { before with field := before.field.update id fun _ => combatant }) := by
  subst same
  rfl

/-- Steps taken one level deeper end as they would there. -/
theorem run_nested {steps : Resolve α} {result : Except Error α}
    (run : steps { before with depth := min (before.depth + 1) 255 } = (result, middle)) :
    nested steps before = (result, { middle with depth := before.depth }) := by
  simp only [nested, run]

end Run

end Resolve

/-! ### What is left alone -/

/-- What an action starts from and no rule can change. -/
structure Premises where
  config : Config
  actor : CombatantId
  target : Option CombatantId
  tier : Nat
  depth : Nat

/-- The shares of a target's loss that whoever acts gains or suffers come to at most the whole. -/
structure Tally.Capped (tally : Tally) : Prop where
  lifesteal : ∀ percent ∈ tally.lifestealPercent, percent ≤ 100
  reflect : ∀ percent ∈ tally.reflectPercent, percent ≤ 100

/-- Whom a tally reaches besides the target, and which shares it holds. -/
def Tally.scope (tally : Tally) :
    (List CombatantId × List CombatantId) × Option Nat × Option Nat :=
  ((tally.areaTargets, tally.chainTargets), tally.lifestealPercent, tally.reflectPercent)

theorem Tally.Capped.congr {one other : Tally} (capped : one.Capped)
    (same : other.scope = one.scope) : other.Capped := by
  have lifesteal : other.lifestealPercent = one.lifestealPercent := congrArg (·.2.1) same
  have reflect : other.reflectPercent = one.reflectPercent := congrArg (·.2.2) same
  exact ⟨lifesteal ▸ capped.lifesteal, reflect ▸ capped.reflect⟩

namespace Resolution

/-- The premises of an action. -/
def premises (resolution : Resolution) : Premises where
  config := resolution.config
  actor := resolution.actor
  target := resolution.target
  tier := resolution.tier
  depth := resolution.depth

/-- Whomever an area or a chain reaches is on the field. -/
def Known (resolution : Resolution) : Prop :=
  ∀ id ∈ resolution.tally.areaTargets ++ resolution.tally.chainTargets, resolution.field.Present id

/-- What resolving leaves alone: the premises stay, those reached stay known, no share comes to more
than the whole, and the field changes as `moves` allows. -/
structure Frame (moves : Battlefield → Battlefield → Prop) (before after : Resolution) : Prop where
  premises : after.premises = before.premises
  field : moves before.field after.field
  known : before.Known → after.Known
  capped : before.tally.Capped → after.tally.Capped

/-- What everything but a cost leaves alone: the hook stays and nothing is aborted either. -/
structure Steady (moves : Battlefield → Battlefield → Prop) (before after : Resolution) : Prop
    extends Frame moves before after where
  hook : after.hook = before.hook
  aborted : after.tally.aborted = before.tally.aborted

section Premises

variable {moves : Battlefield → Battlefield → Prop} {before after : Resolution}

theorem Frame.actor (frame : Frame moves before after) : after.actor = before.actor :=
  congrArg Premises.actor frame.premises

theorem Frame.target (frame : Frame moves before after) : after.target = before.target :=
  congrArg Premises.target frame.premises

theorem Frame.mono {wider : Battlefield → Battlefield → Prop} (frame : Frame moves before after)
    (allows : moves before.field after.field → wider before.field after.field) :
    Frame wider before after :=
  ⟨frame.premises, allows frame.field, frame.known, frame.capped⟩

theorem Steady.mono {wider : Battlefield → Battlefield → Prop} (steady : Steady moves before after)
    (allows : moves before.field after.field → wider before.field after.field) :
    Steady wider before after :=
  ⟨steady.toFrame.mono allows, steady.hook, steady.aborted⟩

end Premises

section Lasting

variable {moves : Battlefield → Battlefield → Prop} [Std.Refl moves] [IsTrans Battlefield moves]

theorem Frame.refl (resolution : Resolution) : Frame moves resolution resolution :=
  ⟨rfl, Std.Refl.refl _, fun known => known, fun capped => capped⟩

theorem Steady.refl (resolution : Resolution) : Steady moves resolution resolution :=
  ⟨.refl resolution, rfl, rfl⟩

variable {before middle after : Resolution}

theorem Frame.trans (first : Frame moves before middle) (second : Frame moves middle after) :
    Frame moves before after :=
  ⟨second.premises.trans first.premises, Trans.trans first.field second.field,
    fun known => second.known (first.known known),
    fun capped => second.capped (first.capped capped)⟩

theorem Steady.trans (first : Steady moves before middle) (second : Steady moves middle after) :
    Steady moves before after :=
  ⟨first.toFrame.trans second.toFrame, second.hook.trans first.hook,
    second.aborted.trans first.aborted⟩

/-- Where only dice, lines, faults and further numbers of the tally change, all is left alone. -/
theorem Steady.of_same (premises : after.premises = before.premises)
    (hook : after.hook = before.hook) (field : after.field = before.field)
    (scope : after.tally.scope = before.tally.scope)
    (aborted : after.tally.aborted = before.tally.aborted) : Steady moves before after := by
  refine ⟨⟨premises, field ▸ Std.Refl.refl _, fun known => ?_, fun capped => capped.congr scope⟩,
    hook, aborted⟩
  have area : after.tally.areaTargets = before.tally.areaTargets := congrArg (·.1.1) scope
  have chain : after.tally.chainTargets = before.tally.chainTargets := congrArg (·.1.2) scope
  unfold Known
  rw [area, chain, field]
  exact known

end Lasting

/-- Where the field changes as allowed, nobody leaves it, and the tally stays, all is left alone. -/
theorem Steady.of_field {moves : Battlefield → Battlefield → Prop} {before : Resolution}
    {field : Battlefield} (allowed : moves before.field field)
    (ids : field.roster.map Combatant.id = before.field.roster.map Combatant.id) :
    Steady moves before { before with field } := by
  refine ⟨⟨rfl, allowed, fun known id mem => ?_, fun capped => capped⟩, rfl, rfl⟩
  unfold Battlefield.Present
  rw [ids]
  exact known id mem

end Resolution

instance : Std.Refl Battlefield.Evolves := ⟨.refl⟩

instance : IsTrans Battlefield Battlefield.Evolves := ⟨fun _ _ _ => .trans⟩

instance : Std.Refl Battlefield.Rests := ⟨.refl⟩

instance : IsTrans Battlefield Battlefield.Rests := ⟨fun _ _ _ => .trans⟩

/-! ### Looking up -/

section Look

variable {α : Type} {relation : Resolution → Resolution → Prop} {before : Resolution}

namespace Leads

variable [Std.Refl relation]

/-- A result that is looked up changes nothing. -/
theorem settle {β : Type} {result : Except Error β} {next : β → Resolve α}
    (rest : ∀ value, result = .ok value → Leads relation (next value) before) :
    Leads relation (Resolve.settle result >>= next) before := by
  cases result with
  | error error => exact Std.Refl.refl before
  | ok value => exact rest value rfl

/-- Whoever is looked up is on the field from here on. -/
theorem require {id : CombatantId} {next : Combatant → Resolve α}
    (rest : ∀ combatant, before.field.find? id = some combatant →
      Leads relation (next combatant) before) :
    Leads relation (Resolve.require id >>= next) before := by
  show Leads relation (Resolve.settle (before.field.require id) >>= next) before
  exact settle fun combatant eq => rest combatant (Battlefield.require_eq_ok.mp eq)

theorem targetId {next : CombatantId → Resolve α}
    (rest : ∀ id, before.target = some id → Leads relation (next id) before) :
    Leads relation (Resolve.targetId >>= next) before := by
  unfold Leads
  rcases aim : before.target with _ | id
  · have run : Resolve.targetId before = (.error .missingTarget, before) := by
      simp [Resolve.targetId, aim]
    rw [run_bind_error run]
    exact Std.Refl.refl before
  · rw [run_bind_ok (Resolve.run_targetId aim)]
    exact rest id aim

end Leads

namespace Succeeds

/-- Whoever is on the field is found. -/
theorem require {id : CombatantId} {next : Combatant → Resolve α}
    (present : before.field.Present id)
    (rest : ∀ combatant, before.field.find? id = some combatant →
      Succeeds relation (next combatant) before) :
    Succeeds relation (Resolve.require id >>= next) before := by
  obtain ⟨combatant, found⟩ := present.find?
  obtain ⟨value, after, run, leads⟩ := rest combatant found
  exact ⟨value, after, (run_bind_ok (Resolve.run_require found)).trans run, leads⟩

theorem targetId {id : CombatantId} {next : CombatantId → Resolve α}
    (aim : before.target = some id) (rest : Succeeds relation (next id) before) :
    Succeeds relation (Resolve.targetId >>= next) before := by
  obtain ⟨value, after, run, leads⟩ := rest
  exact ⟨value, after, (run_bind_ok (Resolve.run_targetId aim)).trans run, leads⟩

/-- A step that leaves the hook and the tally's refusal alone besides succeeds all the same. -/
theorem of_steady {moves : Battlefield → Battlefield → Prop} {step : Resolve α}
    (succeeds : Succeeds (Resolution.Steady moves) step before) :
    Succeeds (Resolution.Frame moves) step before := by
  obtain ⟨value, after, run, steady⟩ := succeeds
  exact ⟨value, after, run, steady.toFrame⟩

end Succeeds

end Look

namespace Resolve

open Battlefield

variable {before : Resolution}

/-! ### The steps that effects are made of -/

section Effects

variable {moves : Battlefield → Battlefield → Prop} [Std.Refl moves] [IsTrans Battlefield moves]

instance : Std.Refl (Resolution.Frame moves) := ⟨.refl⟩

instance : IsTrans Resolution (Resolution.Frame moves) := ⟨fun _ _ _ => .trans⟩

instance : Std.Refl (Resolution.Steady moves) := ⟨.refl⟩

instance : IsTrans Resolution (Resolution.Steady moves) := ⟨fun _ _ _ => .trans⟩

theorem steady_narrate (line : String) : Leads (Resolution.Steady moves) (narrate line) before :=
  .of_same rfl rfl rfl rfl rfl

theorem steady_roll (formula : DiceFormula) :
    Leads (Resolution.Steady moves) (roll formula) before :=
  .of_same rfl rfl rfl rfl rfl

theorem steady_draw (sides : Nat) : Leads (Resolution.Steady moves) (draw sides) before :=
  .of_same rfl rfl rfl rfl rfl

/-- A change of the tally that aborts nothing and leaves its scope alone. -/
theorem steady_tally {change : Tally → Tally}
    (scope : (change before.tally).scope = before.tally.scope)
    (aborted : (change before.tally).aborted = before.tally.aborted) :
    Leads (Resolution.Steady moves) (tally change) before :=
  .of_same rfl rfl rfl scope aborted

/-- A change of the tally by which the action reaches others on the field, or whoever acts gets a
share. -/
theorem steady_reach {change : Tally → Tally}
    (reached : ∀ id ∈ (change before.tally).areaTargets ++ (change before.tally).chainTargets,
      id ∈ before.tally.areaTargets ++ before.tally.chainTargets ∨ before.field.Present id)
    (capped : before.tally.Capped → (change before.tally).Capped)
    (aborted : (change before.tally).aborted = before.tally.aborted) :
    Leads (Resolution.Steady moves) (tally change) before :=
  ⟨⟨rfl, Std.Refl.refl _, fun known id mem => (reached id mem).elim (known id) fun there => there,
    capped⟩, rfl, aborted⟩

/-- Putting somebody in the place of a party from whom it has waned. -/
theorem steady_replace {who : CombatantId} {target : Option CombatantId} {old new : Combatant}
    (party : Party who target old.id) (found : before.field.find? old.id = some old)
    (wanes : old.Wanes new) :
    Leads (Resolution.Steady (Confined who target Evolves)) (replace new) before := by
  have same : new.id = old.id := Combatant.id_of_stance wanes.stance
  have evolves := evolves_wane found wanes
  show Resolution.Steady _ before { before with field := before.field.update new.id fun _ => new }
  rw [same]
  exact .of_field (confined_replace party same evolves) evolves.ids

/-- Putting somebody in the place of a party with the same bearing. -/
theorem calm_replace {who : CombatantId} {target : Option CombatantId} {old new : Combatant}
    (party : Party who target old.id) (found : before.field.find? old.id = some old)
    (same : new.bearing = old.bearing) :
    Leads (Resolution.Steady (Confined who target Rests)) (replace new) before := by
  have id : new.id = old.id := Combatant.id_of_stance (Combatant.stance_of_bearing same)
  have rests : before.field.Rests (before.field.update old.id fun _ => new) :=
    rests_update fun one eq => by rw [Option.some.inj (eq.symm.trans found), same]
  show Resolution.Steady _ before { before with field := before.field.update new.id fun _ => new }
  rw [id]
  exact .of_field (confined_replace party id rests) rests.evolves.ids

/-- A move of a party to a free cell. -/
theorem steady_place {who : CombatantId} {target : Option CombatantId} {id : CombatantId}
    (party : Party who target id) (cell : Cell) :
    Leads (Resolution.Steady (Confined who target Evolves)) (place id cell) before := by
  unfold place
  refine .get (.settle fun field placed => ?_)
  have evolves := evolves_place placed
  obtain ⟨-, -, -, rfl⟩ := place_eq_ok placed
  exact Resolution.Steady.of_field (confined_update party (fun _ => rfl) evolves) evolves.ids

end Effects

end Resolve

end Skirmish
