/-
**Runs of a fight.** A fight is run by operations in any order; one that is refused changes nothing
that matters, and the run goes on.

* `Combat.Opens`: where runs start from: nobody acts yet, and whoever is on the field was added to it;
* `Combat.Throughout`, `AfterEach`: what holds in every state of a run, and after every operation of
  it that was not refused;
* `throughout_iff_spared`, `afterEach_iff_spared`: if a property is lost exactly by operations of one
  kind, a run keeps it exactly if it has no such operation.
-/

import Skirmish.Proofs.Operations

namespace Skirmish

open Battlefield

/-! ### Operations -/

/-- Something that can be done to a fight from outside. -/
inductive Operation where
  | join (newcomer : Combatant)
  | start
  | act (action : CombatAction)
  /-- Give other texts to the combatants and other dice to the fight. -/
  | supply (sources : SourceBook) (dice : Dice)

/-- What an operation answers. -/
inductive Reply where
  | joined (id : CombatantId)
  | started (report : TurnReport)
  | acted (outcome : ActionOutcome)
  | supplied

/-- Do it. -/
def Operation.run : Operation → Fight Reply
  | .join newcomer => return .joined (← Fight.addCombatant newcomer)
  | .start => return .started (← Fight.start)
  | .act action => return .acted (← Fight.perform action)
  | .supply sources dice => do
    modify fun combat => { combat with sources, dice }
    return .supplied

namespace Combat

/-- The fight after an operation, whether it was refused or not. -/
def after (combat : Combat) (operation : Operation) : Combat := (operation.run combat).2

/-- The fight does not refuse an operation. -/
def Grants (combat : Combat) (operation : Operation) : Prop :=
  ∃ reply, (operation.run combat).1 = .ok reply

/-! ### Runs -/

section Run

variable {holds : Combat → Prop} {breaks : Combat → Operation → Prop} {combat : Combat}

/-- Something holds in every state of a run. -/
def Throughout (holds : Combat → Prop) (combat : Combat) : List Operation → Prop
  | [] => holds combat
  | operation :: rest => holds combat ∧ Throughout holds (combat.after operation) rest

/-- Something holds after every operation of a run that is not refused. -/
def AfterEach (holds : Combat → Prop) (combat : Combat) : List Operation → Prop
  | [] => True
  | operation :: rest => (combat.Grants operation → holds (combat.after operation)) ∧
      AfterEach holds (combat.after operation) rest

/-- A run has no operation of some kind. -/
def Spared (breaks : Combat → Operation → Prop) (combat : Combat) : List Operation → Prop
  | [] => True
  | operation :: rest => ¬breaks combat operation ∧
      Spared breaks (combat.after operation) rest

theorem throughout_of_keeps (keeps : ∀ combat operation, holds combat →
    holds (combat.after operation)) (start : holds combat) (operations : List Operation) :
    combat.Throughout holds operations := by
  induction operations generalizing combat with
  | nil => exact start
  | cons operation rest hyp => exact ⟨start, hyp (keeps combat operation start)⟩

theorem Throughout.start {operations : List Operation}
    (throughout : combat.Throughout holds operations) : holds combat := by
  cases operations with
  | nil => exact throughout
  | cons _ _ => exact throughout.1

theorem Throughout.imp {weaker : Combat → Prop} {operations : List Operation}
    (imp : ∀ combat, holds combat → weaker combat) (throughout : combat.Throughout holds operations) :
    combat.Throughout weaker operations := by
  induction operations generalizing combat with
  | nil => exact imp combat throughout
  | cons operation rest hyp => exact ⟨imp combat throughout.1, hyp throughout.2⟩

/-- What only some operations break, exactly the runs without them keep. -/
theorem throughout_iff_spared {always : Combat → Prop}
    (keeps : ∀ combat operation, always combat → always (combat.after operation))
    (exact : ∀ combat operation, always combat → holds combat →
      (holds (combat.after operation) ↔ ¬breaks combat operation))
    (given : always combat) (start : holds combat) (operations : List Operation) :
    combat.Throughout holds operations ↔ combat.Spared breaks operations := by
  induction operations generalizing combat with
  | nil => exact ⟨fun _ => trivial, fun _ => start⟩
  | cons operation rest hyp =>
    have given' := keeps combat operation given
    have step := exact combat operation given start
    exact ⟨fun ⟨_, throughout⟩ =>
        ⟨step.mp throughout.start, (hyp given' throughout.start).mp throughout⟩,
      fun ⟨spares, spared⟩ => ⟨start, (hyp given' (step.mpr spares)).mpr spared⟩⟩

/-- The same, where only operations that are not refused count. -/
theorem afterEach_iff_spared {always : Combat → Prop}
    (keeps : ∀ combat operation, always combat → always (combat.after operation))
    (exact : ∀ combat operation, always combat → holds combat →
      (holds (combat.after operation) ↔ ¬breaks combat operation))
    (granted : ∀ combat operation, breaks combat operation → combat.Grants operation)
    (given : always combat) (start : holds combat) (operations : List Operation) :
    combat.AfterEach holds operations ↔ combat.Spared breaks operations := by
  induction operations generalizing combat with
  | nil => exact ⟨fun _ => trivial, fun _ => trivial⟩
  | cons operation rest hyp =>
    have given' := keeps combat operation given
    have step := exact combat operation given start
    constructor
    · rintro ⟨afterThis, afterRest⟩
      have spares : ¬breaks combat operation := fun broken =>
        step.mp (afterThis (granted combat operation broken)) broken
      exact ⟨spares, (hyp given' (step.mpr spares)).mp afterRest⟩
    · rintro ⟨spares, spared⟩
      exact ⟨fun _ => step.mpr spares, (hyp given' (step.mpr spares)).mpr spared⟩

end Run

/-! ### Where runs start from -/

end Combat

/-- A field onto which everyone was added. -/
inductive Battlefield.Filled : Battlefield → Prop
  | empty (terrain : Terrain) : Filled (.empty terrain)
  | add {before after : Battlefield} {newcomer : Combatant} (filled : Filled before)
      (added : before.add newcomer = .ok after) : Filled after

theorem Battlefield.Filled.sound {field : Battlefield} (filled : field.Filled) : field.Sound := by
  induction filled with
  | empty terrain => exact ⟨.nil, fun _ mem => absurd mem (by simp [Battlefield.empty])⟩
  | add _ added sound => exact sound_add added sound

theorem Battlefield.Filled.exclusive {field : Battlefield} (filled : field.Filled) :
    field.Exclusive := by
  induction filled with
  | empty terrain => exact .nil
  | add _ added exclusive => exact exclusive_add added exclusive

namespace Combat

/-- A fight under the standard rules, before its start. -/
structure Opens (combat : Combat) : Prop where
  rules : combat.rules = Standard.table
  order : combat.order = .empty
  round : combat.round = 0
  state : combat.state = .setup
  filled : combat.field.Filled

end Combat

/-! ### Answers -/

/-- A step whose answer is only wrapped. -/
theorem Fight.run_wrap {α β : Type} (step : Fight α) (wrap : α → β) (combat : Combat) :
    (step >>= fun value => pure (wrap value)) combat
      = ((step combat).1.map wrap, (step combat).2) := by
  rcases run : step combat with ⟨_ | _, _⟩
  · rw [run_bind_error run]
    rfl
  · rw [run_bind_ok run]
    rfl

namespace Combat

variable {combat : Combat}

theorem run_join (newcomer : Combatant) : (Operation.join newcomer).run combat
    = ((Fight.addCombatant newcomer combat).1.map .joined,
      (Fight.addCombatant newcomer combat).2) :=
  Fight.run_wrap (Fight.addCombatant newcomer) Reply.joined combat

theorem after_join (newcomer : Combatant) :
    combat.after (.join newcomer) = (Fight.addCombatant newcomer combat).2 :=
  congrArg Prod.snd (run_join newcomer)

theorem run_start : Operation.start.run combat
    = ((Fight.start combat).1.map .started, (Fight.start combat).2) :=
  Fight.run_wrap Fight.start Reply.started combat

theorem after_start : combat.after .start = (Fight.start combat).2 :=
  congrArg Prod.snd run_start

theorem run_act (action : CombatAction) : (Operation.act action).run combat
    = ((Fight.perform action combat).1.map .acted, (Fight.perform action combat).2) :=
  Fight.run_wrap (Fight.perform action) Reply.acted combat

theorem after_act (action : CombatAction) :
    combat.after (.act action) = (Fight.perform action combat).2 :=
  congrArg Prod.snd (run_act action)

theorem perform_attack (request : AttackRequest) : Fight.perform (.attack request) combat
    = ((Fight.attack request combat).1.map .attack, (Fight.attack request combat).2) :=
  Fight.run_wrap (Fight.attack request) ActionOutcome.attack combat

theorem perform_activate (activation : Activation) : Fight.perform (.activate activation) combat
    = ((Fight.activate activation combat).1.map .activation,
      (Fight.activate activation combat).2) :=
  Fight.run_wrap (Fight.activate activation) ActionOutcome.activation combat

theorem perform_move (actor : CombatantId) (goal : Cell) :
    Fight.perform (.move actor goal) combat
      = ((Fight.move actor goal combat).1.map .moved, (Fight.move actor goal combat).2) :=
  Fight.run_wrap (Fight.move actor goal) ActionOutcome.moved combat

theorem perform_resolveClash (stat : Option Stat) : Fight.perform (.resolveClash stat) combat
    = ((Fight.resolveClash stat combat).1.map .clash, (Fight.resolveClash stat combat).2) :=
  Fight.run_wrap (Fight.resolveClash stat) ActionOutcome.clash combat

theorem perform_endTurn : Fight.perform .endTurn combat
    = ((Fight.endTurn combat).1.map .turnEnded, (Fight.endTurn combat).2) :=
  Fight.run_wrap Fight.endTurn ActionOutcome.turnEnded combat

theorem rules_afterAttack (combat : Combat) (request : AttackRequest) (name : String)
    (report : AttackReport) : (combat.afterAttack request name report).rules = combat.rules := by
  unfold afterAttack
  split
  · rfl
  · rw [rules_checkFinished]
    rfl

theorem rules_afterActivation (combat : Combat) (activation : Activation)
    (report : ActivationReport) :
    (combat.afterActivation activation report).rules = combat.rules := by
  unfold afterActivation
  rw [rules_checkFinished]
  dsimp only
  split <;> rfl

/-- The rules of a fight stay. -/
theorem rules_after (stock : combat.rules.Stock) (operation : Operation) :
    (combat.after operation).rules = combat.rules := by
  cases operation with
  | join newcomer =>
    have run := Fight.run_addCombatant combat newcomer
    rw [after_join]
    generalize Fight.addCombatant newcomer combat = result at run
    cases run <;> rfl
  | start =>
    have run := Fight.run_start combat
    rw [after_start]
    generalize Fight.start combat = result at run
    cases run <;> simp
  | supply sources dice => rfl
  | act action =>
    rw [after_act]
    cases action with
    | attack request =>
      have run := Fight.run_attack stock request
      rw [perform_attack]
      generalize Fight.attack request combat = result at run
      cases run with
      | refused error => rfl
      | made => rw [rules_afterAttack]
    | activate activation =>
      have run := Fight.run_activate stock activation
      rw [perform_activate]
      generalize Fight.activate activation combat = result at run
      cases run with
      | refused error => rfl
      | made => rw [rules_afterActivation]
    | move actor goal =>
      have run := Fight.run_move combat actor goal
      rw [perform_move]
      generalize Fight.move actor goal combat = result at run
      cases run <;> rfl
    | resolveClash stat =>
      have run := Fight.run_resolveClash combat stat
      rw [perform_resolveClash]
      generalize Fight.resolveClash stat combat = result at run
      cases run <;> simp
    | endTurn =>
      have run := Fight.run_endTurn combat
      rw [perform_endTurn]
      generalize Fight.endTurn combat = result at run
      cases run <;> simp

end Combat

/-! ### A fight of two -/

/-- The one who acts first. -/
def aria : Combatant :=
  { Combatant.fresh ⟨1⟩ "Aria" .baseline with
    team := "red", position := ⟨1, 1⟩, initiative := some 20 }

/-- The one beside her. -/
def dorn : Combatant :=
  { Combatant.fresh ⟨2⟩ "Dorn" .baseline with
    team := "blue", position := ⟨2, 1⟩, initiative := some 1 }

/-- Two opponents on open ground, before their fight. All dice show ten. -/
def duel : Combat :=
  { Combat.prepare (fun _ => default) Standard.table {} ⟨[aria, dorn], .plain 5 5⟩ with
    dice := .scripted [] }

/-- The fight of the two in its first round. -/
def duelUnderway (events : List Event) : Combat :=
  { duel with order := ⟨[⟨⟨1⟩, 20⟩, ⟨⟨2⟩, 1⟩], 0⟩, round := 1, state := .active, events }

theorem rules_duel : duel.rules = Standard.table := by
  simp only [duel, Combat.prepare]

theorem rules_duelUnderway (events : List Event) :
    (duelUnderway events).rules = Standard.table := by
  simp only [duelUnderway, rules_duel]

theorem opens_duel : duel.Opens := by
  have one : (Battlefield.empty (.plain 5 5)).add aria = .ok ⟨[aria], .plain 5 5⟩ :=
    add_of_free (by decide +kernel) (by decide +kernel) (by decide +kernel)
  have two : Battlefield.add ⟨[aria], .plain 5 5⟩ dorn = .ok ⟨[aria, dorn], .plain 5 5⟩ :=
    add_of_free (by decide +kernel) (by decide +kernel) (by decide +kernel)
  exact ⟨rules_duel, rfl, rfl, rfl, .add (.add (.empty _) one) two⟩

theorem start_duel : ∃ report events, Fight.start duel = (.ok report, duelUnderway events) :=
  Fight.start_of_sorted [⟨⟨1⟩, 20⟩, ⟨⟨2⟩, 1⟩] ⟨1⟩ aria rfl rfl (by decide) rfl rfl (by decide) rfl
    rfl (by decide +kernel)

theorem after_start_duel : ∃ events, duel.after .start = duelUnderway events := by
  obtain ⟨report, events, run⟩ := start_duel
  exact ⟨events, by rw [Combat.after_start, run]⟩

end Skirmish
