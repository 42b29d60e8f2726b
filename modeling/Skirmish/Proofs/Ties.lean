/-
**How a contest is decided.** Each side rolls a die. Where ties are rolled again, a contest goes on to
the first pair of dice that is no tie, or to the last one there may be:

* `Contest.rollOff_eq`: what is rolled, as a function of the dice that lie ahead. The attacker's and the
  defender's die of each pair are drawn one after the other, and none beyond the last pair;
* `Contest.apart_of_lt`: where fewer ties are rolled again than there may be, the last pair is none;
* `Contest.covers_undrawn`: what follows a contest draws no dice;
* `Contest.decided_of_hold`: so the dice and the modifiers decide a contest, and it draws two dice for
  each pair.
-/

import Skirmish.Proofs.Contests
import Skirmish.Proofs.Runs

namespace Skirmish

/-! ### Pairs of dice -/

namespace Dice

/-- The supply after some twenty-sided dice. -/
def afterTwenties (dice : Dice) (many : Nat) : Dice := (dice.drawMany 20 many).2

/-- Each die is recorded. -/
theorem length_drawn_afterTwenties (dice : Dice) (many : Nat) :
    (dice.afterTwenties many).drawn.length = dice.drawn.length + many := by
  induction many generalizing dice with
  | zero => rfl
  | succ many hyp =>
    calc ((dice.draw 20).2.afterTwenties many).drawn.length
        = (dice.draw 20).2.drawn.length + many := hyp (dice.draw 20).2
      _ = dice.drawn.length + 1 + many := rfl
      _ = dice.drawn.length + (many + 1) := by omega

/-- The pair that is drawn after some other pairs. -/
def pairAfter (dice : Dice) (pairs : Nat) : DicePair :=
  (DicePair.draw (dice.afterTwenties (2 * pairs))).1

theorem pairAfter_succ (dice : Dice) (pairs : Nat) :
    dice.pairAfter (pairs + 1) = (DicePair.draw dice).2.pairAfter pairs := rfl

end Dice

namespace Contest

/-! ### Ties -/

section Ties

variable (attackerModifier defenderModifier : Int)

/-- Both sides come to the same total. -/
def ties (pair : DicePair) : Bool :=
  pair.first + attackerModifier == pair.second + defenderModifier

/-- The ties before the first pair that is none, of at most so many pairs. -/
def leadingTies (dice : Dice) (most : Nat) : Nat :=
  ((List.range most).takeWhile fun i =>
    ties attackerModifier defenderModifier (dice.pairAfter i)).length

/-- After a tie the next pairs count, and nothing counts after a pair that is none. -/
theorem leadingTies_succ (dice : Dice) (most : Nat) :
    leadingTies attackerModifier defenderModifier dice (most + 1)
      = if ties attackerModifier defenderModifier (DicePair.draw dice).1 then
          leadingTies attackerModifier defenderModifier (DicePair.draw dice).2 most + 1
        else 0 := by
  unfold leadingTies
  rw [List.range_succ_eq_map, List.takeWhile_cons, List.takeWhile_map]
  split
  case isTrue tied =>
    rw [if_pos (show ties _ _ (DicePair.draw dice).1 from tied), List.length_cons, List.length_map]
    rfl
  case isFalse apart => exact (if_neg apart).symm

/-- What comes before the last pair: ties, where they are rolled again. -/
def rerolls (policy : TiePolicy) (dice : Dice) (most : Nat) : Nat :=
  match policy with
  | .attackerWins => 0
  | .reroll => leadingTies attackerModifier defenderModifier dice most

/-- Where fewer ties are rolled again than there may be, the last pair is none. -/
theorem apart_of_lt {dice : Dice} {most : Nat}
    (few : leadingTies attackerModifier defenderModifier dice most < most) :
    ¬ties attackerModifier defenderModifier
      (dice.pairAfter (leadingTies attackerModifier defenderModifier dice most)) := by
  induction most generalizing dice with
  | zero => exact absurd few (Nat.not_lt_zero _)
  | succ most hyp =>
    rw [leadingTies_succ] at few ⊢
    split at few
    case isTrue tied =>
      rw [if_pos tied, Dice.pairAfter_succ]
      exact hyp (by omega)
    case isFalse apart =>
      rw [if_neg apart]
      exact apart

/-- A tie that may be rolled again is. -/
theorem rollOff_of_tie {dice : Dice} (most : Nat)
    (tied : ties attackerModifier defenderModifier (DicePair.draw dice).1) :
    let rest := rollOff .reroll attackerModifier defenderModifier most (DicePair.draw dice).2
    rollOff .reroll attackerModifier defenderModifier (most + 1) dice
      = ((rest.1.1, rest.1.2.1, rest.1.2.2 + 1), rest.2) :=
  if_pos (beq_iff_eq.mp tied)

/-- A pair that is no tie decides. -/
theorem rollOff_of_apart {dice : Dice} (most : Nat)
    (apart : ¬ties attackerModifier defenderModifier (DicePair.draw dice).1) :
    rollOff .reroll attackerModifier defenderModifier (most + 1) dice
      = (((DicePair.draw dice).1.first + attackerModifier,
          (DicePair.draw dice).1.second + defenderModifier, 0), (DicePair.draw dice).2) :=
  if_neg fun same => apart (beq_iff_eq.mpr same)

/-- **A roll-off goes on to the first pair that is no tie**, or to the last there may be. -/
theorem rollOff_eq (policy : TiePolicy) (most : Nat) (dice : Dice) :
    let again := rerolls attackerModifier defenderModifier policy dice most
    rollOff policy attackerModifier defenderModifier most dice
      = (((dice.pairAfter again).first + attackerModifier,
          (dice.pairAfter again).second + defenderModifier, again),
        dice.afterTwenties (2 * (again + 1))) := by
  cases policy with
  | attackerWins => cases most <;> rfl
  | reroll =>
    induction most generalizing dice with
    | zero => rfl
    | succ most hyp =>
      simp only [rerolls] at hyp ⊢
      rw [leadingTies_succ]
      by_cases tied : ties attackerModifier defenderModifier (DicePair.draw dice).1
      · rw [rollOff_of_tie _ _ most tied, hyp, if_pos tied]
        rfl
      · rw [rollOff_of_apart _ _ most tied, if_neg tied]
        rfl

/-- Dice that always show their middle tie to the end. -/
example : (rollOff .reroll 0 0 mostRerolls (.scripted [])).1 = (10, 10, 16) := by decide

end Ties

end Contest

/-! ### What follows -/

/-- No dice are drawn. -/
def Scene.Undrawn (before after : Scene) : Prop := after.dice = before.dice

instance : Std.Refl Scene.Undrawn := ⟨fun _ => rfl⟩

instance : IsTrans Scene Scene.Undrawn := ⟨fun _ _ _ first second => second.trans first⟩

namespace Contest

/-- **What follows a contest draws no dice.** -/
theorem covers_undrawn : Covers Scene.Undrawn where
  told _ _ := rfl
  placed _ := rfl
  turned _ _ _ := rfl
  shaken _ _ := rfl

/-! ### The whole contest -/

/-- How a contest of two combatants with given modifiers comes out, by the dice that lie ahead. -/
structure Decided (policy : TiePolicy) (pending : PendingClash)
    (attackerModifier defenderModifier : Int) (before after : Dice) (report : ClashReport) : Prop where
  /-- The attacker and the defender roll once, and once more for each tie that is rolled again. -/
  dice : after = before.afterTwenties (2 * (report.rerolls + 1))
  drawn : after.drawn.length = before.drawn.length + 2 * (report.rerolls + 1)
  rerolls : report.rerolls = match policy with
    | .attackerWins => 0
    | .reroll => leadingTies attackerModifier defenderModifier before 16
  /-- The last pair that was drawn counts. -/
  attackerTotal : report.attackerTotal = (before.pairAfter report.rerolls).first + attackerModifier
  defenderTotal : report.defenderTotal = (before.pairAfter report.rerolls).second + defenderModifier
  apart : policy = .reroll → report.rerolls < 16 → report.attackerTotal ≠ report.defenderTotal
  /-- The attacker wins a tie that remains. -/
  winner : report.winner =
    if report.defenderTotal ≤ report.attackerTotal then pending.attacker else pending.defender
  loser : report.loser =
    if report.defenderTotal ≤ report.attackerTotal then pending.defender else pending.attacker

/-- What a contest reports is what was rolled, and no dice are drawn after that. -/
theorem hold_eq_ok {config : Config} {table : ClashTable} {pending : PendingClash} {stat : Stat}
    {scene after : Scene} {report : ClashReport} {attacker defender : Combatant}
    (found : scene.field.find? pending.attacker = some attacker)
    (found' : scene.field.find? pending.defender = some defender)
    (run : hold config table pending stat scene = (.ok report, after)) :
    rollOff config.clashTie (attacker.modifier stat) (defender.modifier stat) mostRerolls scene.dice
      = ((report.attackerTotal, report.defenderTotal, report.rerolls), after.dice) ∧
    report.winner =
      (if report.defenderTotal ≤ report.attackerTotal then pending.attacker else pending.defender) ∧
    report.loser =
      (if report.defenderTotal ≤ report.attackerTotal then pending.defender else pending.attacker) := by
  unfold hold at run
  rw [run_bind_ok (run_require_of_find? found), run_bind_ok (run_require_of_find? found'),
    run_bind_ok (run_rollBoth ..)] at run
  generalize rollOff _ _ _ _ _ = rolled at run ⊢
  obtain ⟨⟨attackerTotal, defenderTotal, rerolls⟩, dice⟩ := rolled
  dsimp only at run
  rw [run_bind_ok (run_narrate ..)] at run
  obtain ⟨_, middle, follows, ends⟩ := exists_of_run_bind run
  have undrawn : middle.dice = dice :=
    (covers_undrawn.leads_follow config fun _ _ _ => rfl).of_run follows
  rw [run_get_bind, run_pure] at ends
  cases ends
  exact ⟨by rw [undrawn], rfl, rfl⟩

/-- **The dice that lie ahead and the modifiers decide a contest.** -/
theorem decided_of_hold {config : Config} {table : ClashTable} {pending : PendingClash} {stat : Stat}
    {scene after : Scene} {report : ClashReport} {attacker defender : Combatant}
    (found : scene.field.find? pending.attacker = some attacker)
    (found' : scene.field.find? pending.defender = some defender)
    (run : hold config table pending stat scene = (.ok report, after)) :
    Decided config.clashTie pending (attacker.modifier stat) (defender.modifier stat) scene.dice
      after.dice report := by
  obtain ⟨rolled, wins, loses⟩ := hold_eq_ok found found' run
  rw [rollOff_eq] at rolled
  obtain ⟨totals, dice⟩ := Prod.mk.inj rolled
  obtain ⟨attackerTotal, totals⟩ := Prod.mk.inj totals
  obtain ⟨defenderTotal, again⟩ := Prod.mk.inj totals
  rw [again] at attackerTotal defenderTotal dice
  refine ⟨dice.symm, ?_, ?_, attackerTotal.symm, defenderTotal.symm, fun policy few same => ?_, wins,
    loses⟩
  · rw [← dice]
    exact scene.dice.length_drawn_afterTwenties _
  · exact again.symm
  · have again : leadingTies (attacker.modifier stat) (defender.modifier stat) scene.dice 16
        = report.rerolls := by
      rw [policy] at again
      exact again
    have apart := apart_of_lt (attacker.modifier stat) (defender.modifier stat) (again.trans_lt few)
    rw [again] at apart
    exact apart (beq_iff_eq.mpr (attackerTotal.trans (same.trans defenderTotal.symm)))

/-- Two ties are rolled again, and the third pair decides. -/
theorem decided_rematch : ∃ report after,
    hold { clashTie := .reroll } .standard ⟨aria.id, dorn.id, .might⟩ .might
        ⟨duel.field, .scripted [10, 10, 7, 7, 3, 15], []⟩ = (.ok report, after) ∧
      after.dice.drawn.length = 6 ∧ report.rerolls = 2 ∧ report.attackerTotal = 3 ∧
      report.defenderTotal = 15 ∧ report.winner = dorn.id := by
  have granted : (hold { clashTie := .reroll } .standard ⟨aria.id, dorn.id, .might⟩ .might
      ⟨duel.field, .scripted [10, 10, 7, 7, 3, 15], []⟩).1.isOk := by decide +kernel
  rcases run : hold { clashTie := .reroll } .standard ⟨aria.id, dorn.id, .might⟩ .might
      ⟨duel.field, .scripted [10, 10, 7, 7, 3, 15], []⟩ with ⟨error | report, after⟩
  · rw [run] at granted
    cases granted
  have found : duel.field.find? aria.id = some aria := rfl
  have found' : duel.field.find? dorn.id = some dorn := rfl
  obtain ⟨-, drawn, rerolls, attackerTotal, defenderTotal, -, winner, -⟩ :=
    decided_of_hold found found' run
  have rerolls : report.rerolls = 2 := rerolls.trans (by decide +kernel)
  rw [rerolls] at drawn attackerTotal defenderTotal
  have attackerTotal : report.attackerTotal = 3 := attackerTotal.trans (by decide +kernel)
  have defenderTotal : report.defenderTotal = 15 := defenderTotal.trans (by decide +kernel)
  rw [attackerTotal, defenderTotal] at winner
  exact ⟨report, after, rfl, drawn, rerolls, attackerTotal, defenderTotal, winner⟩

end Contest

end Skirmish
