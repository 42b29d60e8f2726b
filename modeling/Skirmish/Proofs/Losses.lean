/-
**Who loses what.** The reports of actions account for every hit point that is lost or gained.

* `Delivery.accounts_of_deliver`: a delivery never fails where everyone whom it reaches is on the field.
  It takes from everyone what its report lists and gives whoever acts what it has drained, less what
  was sent back; nobody's composure is touched but the target's;
* `Fight.bystands_of_action`: an attack or an ability touches nobody but whoever acts and its target,
  but for the losses that its report lists.
-/

import Skirmish.Proofs.Runs
import Skirmish.Proofs.StandardTable

namespace Skirmish

open Battlefield

/-! ### Two opponents and a bystander -/

/-- The one behind the opponent. -/
def elra : Combatant :=
  { Combatant.fresh ⟨3⟩ "Elra" .baseline with
    team := "blue", position := ⟨3, 1⟩, initiative := some 0 }

/-- The fight of the two with another one close by. -/
def brawl : Combat := { duelUnderway [] with field := ⟨[aria, dorn, elra], .plain 5 5⟩ }

/-- A blow that reaches everyone in the brawl, and feeds on it. -/
def sweep : Resolution :=
  { brawl.opening .onHit ⟨1⟩ (some ⟨2⟩) 1 with
    tally := {
      pendingDamage := some 12
      pendingComposure := some 3
      areaTargets := [⟨3⟩]
      chainTargets := [⟨3⟩, ⟨2⟩]
      lifestealPercent := some 50
      reflectPercent := some 25 } }

namespace Delivery

/-- **A delivery never fails** where everyone whom it reaches is on the field, and its report accounts
for every loss. No text raises a share above the whole. -/
theorem accounts_of_deliver {before : Resolution} {target : Option CombatantId}
    (acting : before.field.Present before.actor)
    (aimed : ∀ id, target = some id → before.field.Present id)
    (reached : ∀ id ∈ before.tally.areaTargets ++ before.tally.chainTargets,
      before.field.Present id) :
    (∃ report after, deliver target before = (.ok report, after) ∧
      after.field.roster.map Combatant.id = before.field.roster.map Combatant.id ∧
      Accounts before target report after) ∧
    ∀ (effect : Effect) (firing : Firing) (resolution : Resolution), resolution.tally.Capped →
      (effect.act firing resolution).2.tally.Capped := by
  obtain ⟨report, after, run, endures, accounts⟩ := run_deliver acting aimed reached
  exact ⟨⟨report, after, run, endures.toShifts.ids, accounts⟩,
    fun effect firing resolution => (Effect.course_act resolution firing effect).capped⟩

/-- It accounts for a blow that reaches everyone in the brawl, one of them twice. -/
theorem accounts_of_sweep : ∃ report after, deliver (some ⟨2⟩) sweep = (.ok report, after) ∧
    Accounts sweep (some ⟨2⟩) report after := by
  have ids : sweep.field.roster.map Combatant.id = [⟨1⟩, ⟨2⟩, ⟨3⟩] := rfl
  have one : sweep.field.Present ⟨1⟩ := by simp [Present, ids]
  have two : sweep.field.Present ⟨2⟩ := by simp [Present, ids]
  have three : sweep.field.Present ⟨3⟩ := by simp [Present, ids]
  have acting : sweep.field.Present sweep.actor := one
  have aimed : ∀ id, some ⟨2⟩ = some id → sweep.field.Present id :=
    fun id aim => Option.some.inj aim ▸ two
  have reached : ∀ id ∈ sweep.tally.areaTargets ++ sweep.tally.chainTargets,
      sweep.field.Present id := by
    intro id mem
    simp only [sweep, List.cons_append, List.nil_append, List.mem_cons, List.not_mem_nil,
      or_false] at mem
    rcases mem with rfl | rfl | rfl
    · exact three
    · exact three
    · exact two
  obtain ⟨⟨report, after, run, -, accounts⟩, -⟩ := accounts_of_deliver acting aimed reached
  exact ⟨report, after, run, accounts⟩

end Delivery

namespace Fight

variable {combat : Combat}

theorem bystands_attack (stock : combat.rules.Stock) {request : AttackRequest}
    {report : AttackReport} {after : Combat} (run : attack request combat = (.ok report, after)) :
    Bystands request.attacker (some request.target) report.damage.splash combat.field
      after.field := by
  have made := run_attack stock request
  rw [run] at made
  rcases made with _ | @⟨setting, _, resolved, running, rules, sources, same, who, ends⟩
  have spent := Combat.confined_afterAttack
    { combat with field := resolved.field, dice := resolved.dice } request setting.targetName report
    (some request.target)
  exact ends.delivers.bystands.trans_confined spent spent.moves.evolves.ids

theorem bystands_activate (stock : combat.rules.Stock) {activation : Activation}
    {report : ActivationReport} {after : Combat}
    (run : activate activation combat = (.ok report, after)) :
    Bystands activation.actor activation.target report.damage.splash combat.field after.field := by
  have made := run_activate stock activation
  rw [run] at made
  rcases made with _ | @⟨actor, _, resolved, running, found, who, ends⟩
  have spent := Combat.confined_afterActivation
    { combat with field := resolved.field, dice := resolved.dice } activation report activation.target
  exact ends.delivers.bystands.trans_confined spent spent.moves.evolves.ids

/-- **An action touches its two parties and nobody else**, but for the losses that its report lists,
whatever rules its table holds. Walls and cover stay as they are. -/
theorem bystands_of_action {specs : List RuleSpec}
    (built : RuleTable.ofSpecs .standard specs = .ok combat.rules) :
    (∀ request report after, attack request combat = (.ok report, after) →
      Bystands request.attacker (some request.target) report.damage.splash combat.field
        after.field) ∧
    ∀ activation report after, activate activation combat = (.ok report, after) →
      Bystands activation.actor activation.target report.damage.splash combat.field after.field :=
  ⟨fun _ _ _ run => bystands_attack (RuleTable.stock_of_specs built) run,
    fun _ _ _ run => bystands_activate (RuleTable.stock_of_specs built) run⟩

/-- So does an attack in the brawl. -/
theorem bystands_brawl : ∃ report after,
    attack { attacker := ⟨1⟩, target := ⟨2⟩, effects := ["10 damage", "10 ft radius"] } brawl
      = (.ok report, after) ∧
    Bystands ⟨1⟩ (some ⟨2⟩) report.damage.splash brawl.field after.field := by
  have built : RuleTable.ofSpecs .standard Standard.specs = .ok brawl.rules := by
    simp only [brawl, rules_duelUnderway]
    exact Standard.built_table
  have granted : brawl.requireAction ⟨1⟩ = .ok aria :=
    Combat.requireAction_of_turn rfl rfl rfl (by decide +kernel) rfl
  have there : brawl.field.require ⟨2⟩ = .ok dorn := require_eq_ok.mpr rfl
  obtain ⟨report, after, run, -⟩ := attack_of_granted brawl (RuleTable.stock_of_specs built)
    { attacker := ⟨1⟩, target := ⟨2⟩, effects := ["10 damage", "10 ft radius"] } granted there
    (by decide +kernel)
  exact ⟨report, after, run, (bystands_of_action built).1 _ _ _ run⟩

end Fight

end Skirmish
