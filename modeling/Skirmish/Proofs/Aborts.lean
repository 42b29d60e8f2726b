/-
**What is left of an action that is given up.** A cost that cannot be paid leaves no trace, and no
text after it does. Texts before it do: nothing is taken back.

* `GivenUp`: the field is as the completed texts left it, so that it is unchanged exactly where they
  left it unchanged;
* `field_of_aborted`: this is what becomes of every attack and every ability that is given up. Of an
  attack nothing is left but what the attacker has paid (`Payments`).
-/

import Skirmish.Proofs.Costs
import Skirmish.Proofs.Runs

namespace Skirmish

open Battlefield

/-- What is left on the field of an action that was given up: what those of its texts did that came
before the one whose cost was not paid. The texts were resolved from where the action began, but for
dice that it had rolled and marks that tactics had set. -/
structure GivenUp (texts : List String) (opening opened : Resolution) (after : Battlefield) :
    Prop where
  premises : opened.premises = opening.premises
  hook : opened.hook = opening.hook
  field : opened.field = opening.field
  split : ∃ unpaid later, texts = Standard.table.completed texts opened ++ unpaid :: later
  completed : after
    = (Standard.table.resolveAll (Standard.table.completed texts opened) opened).2.field
  unchanged : after = opening.field ↔
    (Standard.table.resolveAll (Standard.table.completed texts opened) opened).2.field
      = opened.field

theorem givenUp_of_resolveAll {texts : List String} {opening opened : Resolution}
    (premises : opened.premises = opening.premises) (hook : opened.hook = opening.hook)
    (field : opened.field = opening.field) (clear : opened.tally.aborted = false)
    (aborted : (Standard.table.resolveAll texts opened).2.tally.aborted) :
    GivenUp texts opening opened (Standard.table.resolveAll texts opened).2.field := by
  obtain ⟨unpaid, later, split, same, -⟩ :=
    Standard.costsFirst.resolveAll_aborted clear aborted
  exact ⟨premises, hook, field, ⟨unpaid, later, split⟩, same, by rw [same, field]⟩

namespace Fight

variable {combat after : Combat}

theorem givenUp_attack (rules : combat.rules = Standard.table) {request : AttackRequest}
    {report : AttackReport} (run : attack request combat = (.ok report, after))
    (aborted : report.aborted) :
    ∃ opened, GivenUp (combat.sources.texts request.attacker request.effects)
        (combat.opening .onAttack request.attacker (some request.target) request.tier) opened
        after.field ∧
      Payments request.attacker combat.field after.field := by
  have costsFirst : combat.rules.CostsFirst := by
    rw [rules]
    exact Standard.costsFirst
  have made := run_attack costsFirst.stock request
  rw [run] at made
  obtain ⟨setting, resolved, ends, rfl⟩ := made.ends
  rw [rules] at ends
  obtain ⟨opening, isOpening⟩ : ∃ opening, opening =
      combat.opening .onAttack request.attacker (some request.target) request.tier := ⟨_, rfl⟩
  rw [← isOpening] at ends ⊢
  have given := ends.aborted.symm.trans aborted
  have left : (Combat.afterAttack { combat with field := resolved.field, dice := resolved.dice }
      request setting.targetName report).field = (Standard.table.resolveAll
        (combat.sources.texts request.attacker request.effects) (setting.opened opening)).2.field := by
    rw [← ends.asked aborted, Combat.field_afterAttack_of_aborted aborted]
  rw [left]
  refine ⟨setting.opened opening, givenUp_of_resolveAll rfl (by rw [isOpening]; rfl) rfl
    (by rw [isOpening]; rfl) given, ?_⟩
  have paid : Resolution.Frame (Payments request.attacker) (setting.opened opening)
      (Standard.table.resolveAll (combat.sources.texts request.attacker request.effects)
        (setting.opened opening)).2 := by
    refine Standard.costsFirst.resolveAll ?_
    rw [isOpening]
    exact allows_payments request.attacker _
  have start : (setting.opened opening).field = combat.field := by
    rw [isOpening]
    rfl
  rw [← start]
  exact paid.field

theorem givenUp_activate (rules : combat.rules = Standard.table) {activation : Activation}
    {report : ActivationReport} (run : activate activation combat = (.ok report, after))
    (aborted : report.aborted) :
    ∃ opened, GivenUp (activation.orderedEffects Standard.table)
      (combat.opening .activate activation.actor activation.target activation.tier) opened
      after.field := by
  have costsFirst : combat.rules.CostsFirst := by
    rw [rules]
    exact Standard.costsFirst
  have made := run_activate costsFirst.stock activation
  rw [run] at made
  rcases made with _ | @⟨actor, _, resolved, running, found, who, ends⟩
  rw [rules] at ends
  obtain ⟨opening, isOpening⟩ : ∃ opening, opening =
      combat.opening .activate activation.actor activation.target activation.tier := ⟨_, rfl⟩
  rw [← isOpening] at ends ⊢
  have given := ends.aborted.symm.trans aborted
  have left : (Combat.afterActivation { combat with field := resolved.field, dice := resolved.dice }
      activation report).field = (Standard.table.resolveAll
        (activation.orderedEffects Standard.table) (activation.opened actor opening)).2.field := by
    rw [← ends.asked aborted, Combat.field_afterActivation_of_aborted aborted]
  rw [left]
  exact ⟨activation.opened actor opening, givenUp_of_resolveAll rfl rfl rfl
    (by rw [isOpening]; rfl) given⟩

/-! ### A payment that is not taken back -/

/-- An attack with two costs, of which only the first can be paid. -/
def forfeit : AttackRequest where
  attacker := ⟨1⟩
  target := ⟨2⟩
  effects := ["Cost: 40 HP", "Cost: 999 FP"]

/-- The first cost takes the attacker's life, and what is left does not cover the second. -/
theorem spend?_forfeit : ∃ paid, aria.spend? .hitPoints 40 = some paid ∧
    paid.spend? .focus 999 = none ∧ ¬paid.isAlive := by
  have both : (aria.spend? .hitPoints 40).any fun paid =>
      (paid.spend? .focus 999).isNone && !paid.isAlive := by decide +kernel
  obtain ⟨paid, spent, left⟩ := (Option.any_eq_true _ _).mp both
  exact ⟨paid, spent, by simpa using left⟩

/-- The attacker pays with its life for an attack that is given up. -/
theorem attack_forfeit_duel (events : List Event) :
    ∃ report after paid, attack forfeit (duelUnderway events) = (.ok report, after) ∧
      report.aborted ∧ after.state = .active ∧ after.field.roster = [paid, dorn] ∧
      ¬paid.isAlive := by
  have granted : (duelUnderway events).requireAction forfeit.attacker = .ok aria :=
    Combat.requireAction_of_turn rfl rfl rfl (by decide +kernel) rfl
  have there : (duelUnderway events).field.require forfeit.target = .ok dorn :=
    require_eq_ok.mpr rfl
  have texts : SourceBook.empty.texts ⟨1⟩ ["Cost: 40 HP", "Cost: 999 FP"]
      = ["Cost: 40 HP", "Cost: 999 FP"] := by decide +kernel
  obtain ⟨paid, spent, short, down⟩ := spend?_forfeit
  obtain ⟨report, after, run, aborted, state, field⟩ := attack_forfeit
    (rules_duelUnderway events) granted there (by decide +kernel) texts
    Standard.asksFor_hitPoints Standard.asksFor_focus spent short
  exact ⟨report, after, paid, run, aborted, state, congrArg Battlefield.roster field, down⟩

/-! ### The theorem -/

/-- **What is left of an action that is given up** is what its completed texts did: the field is
unchanged exactly where they left it unchanged. Of an attack nothing is left but payments. -/
theorem field_of_aborted (rules : combat.rules = Standard.table) :
    (∀ request report, attack request combat = (.ok report, after) → report.aborted →
      ∃ opened, GivenUp (combat.sources.texts request.attacker request.effects)
          (combat.opening .onAttack request.attacker (some request.target) request.tier) opened
          after.field ∧
        Payments request.attacker combat.field after.field) ∧
    ∀ activation report, activate activation combat = (.ok report, after) → report.aborted →
      ∃ opened, GivenUp (activation.orderedEffects Standard.table)
        (combat.opening .activate activation.actor activation.target activation.tier) opened
        after.field :=
  ⟨fun _ _ run aborted => givenUp_attack rules run aborted,
    fun _ _ run aborted => givenUp_activate rules run aborted⟩

/-- It is so of the attacker that has paid with its life. -/
theorem payments_of_forfeit : ∃ report after opened,
    attack forfeit (duelUnderway []) = (.ok report, after) ∧ report.aborted ∧
      GivenUp (SourceBook.empty.texts ⟨1⟩ forfeit.effects)
        ((duelUnderway []).opening .onAttack ⟨1⟩ (some ⟨2⟩) 1) opened after.field ∧
      Payments ⟨1⟩ duel.field after.field := by
  obtain ⟨report, after, -, run, aborted, -⟩ := attack_forfeit_duel []
  obtain ⟨opened, given, payments⟩ :=
    (field_of_aborted (rules_duelUnderway [])).1 forfeit report run aborted
  exact ⟨report, after, opened, run, aborted, given, payments⟩

/-- An attack that is given up may change the field. -/
theorem not_forall_field_eq_of_aborted : ¬∀ request report after,
    attack request (duel.after .start) = (.ok report, after) → report.aborted →
      after.field = (duel.after .start).field := by
  intro unchanged
  obtain ⟨events, underway⟩ := after_start_duel
  obtain ⟨report, after, paid, run, aborted, -, left, down⟩ := attack_forfeit_duel events
  rw [underway] at unchanged
  have same : [paid, dorn] = [aria, dorn] :=
    left.symm.trans (congrArg Battlefield.roster (unchanged forfeit report after run aborted))
  obtain rfl : paid = aria := (List.cons.inj same).1
  exact down (by decide +kernel)

end Fight

end Skirmish
