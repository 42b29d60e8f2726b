/-
**What defenses leave of damage.** Damage is halved and doubled first, then a part of it is taken off.
Each of these steps leaves more of more damage:

* `Defenses.dealt_mono`, `Defenses.dealt_le_vulnerable`: more damage that is met by less resistance is
  dealt, and no less to whoever is vulnerable. The latter needs an amount in range, for twice the amount
  stops at the end of the range;
* `mitigate_le_mitigate`: less that is dealt, met by no less reduction, leaves no more;
* `mitigate_mono`: so less damage, met by firmer defenses, leaves no more of it;
* `mitigates_of_fits`: what is left lies between nothing and twice the amount, and each defense, and
  each part of the defenses that is passed over, moves it in one direction only.
-/

import Mathlib.Data.Int.Order.Basic
import Mathlib.Order.MinMax
import Skirmish.Damage.Defense

namespace Skirmish

/-- Defenses that let no more through than others. -/
structure Defenses.Firmer (one other : Defenses) : Prop where
  immune : one.immune → other.immune
  resist : one.resist → other.resist
  vulnerable : other.vulnerable = one.vulnerable
  reduction : one.reduction ≤ other.reduction

namespace Defenses

theorem firmer_self (defenses : Defenses) : defenses.Firmer defenses := ⟨id, id, rfl, le_rfl⟩

theorem firmer_immune (defenses : Defenses) : defenses.Firmer { defenses with immune := true } :=
  ⟨fun _ => rfl, id, rfl, le_rfl⟩

theorem firmer_resist (defenses : Defenses) : defenses.Firmer { defenses with resist := true } :=
  ⟨id, fun _ => rfl, rfl, le_rfl⟩

theorem firmer_reduction (defenses : Defenses) {more : Int} (le : defenses.reduction ≤ more) :
    defenses.Firmer { defenses with reduction := more } :=
  ⟨id, id, rfl, le⟩

end Defenses

variable {one other defenses : Defenses} {amount amount' : Int} {ignores ignores' armor : Bool}

/-- A defense that one has and others have too counts against both, unless it is passed over. -/
theorem counts_imp {has has' : Bool} (firmer : has → has') : !ignores && has → !ignores && has' := by
  intro counts
  obtain ⟨heeded, holds⟩ := Bool.and_eq_true_iff.mp counts
  exact Bool.and_eq_true_iff.mpr ⟨heeded, firmer holds⟩

/-! ### What is dealt -/

namespace Defenses

/-- An amount of damage, of which a resistance leaves half. -/
def halved (defenses : Defenses) (ignoreResistance : Bool) (amount : Int) : Int :=
  if !ignoreResistance && defenses.resist then max amount 0 / 2 else max amount 0

/-- An amount of damage after it is halved and doubled. -/
def dealt (defenses : Defenses) (ignoreResistance : Bool) (amount : Int) : Int :=
  if defenses.vulnerable then saturate (2 * defenses.halved ignoreResistance amount)
  else defenses.halved ignoreResistance amount

theorem halved_nonneg (defenses : Defenses) (ignoreResistance : Bool) (amount : Int) :
    0 ≤ defenses.halved ignoreResistance amount := by
  unfold halved
  split <;> omega

theorem halved_le (defenses : Defenses) (ignoreResistance : Bool) (amount : Int) :
    defenses.halved ignoreResistance amount ≤ max amount 0 := by
  unfold halved
  split <;> omega

theorem halved_mono (resists : !ignores && one.resist → !ignores' && other.resist)
    (less : max amount' 0 ≤ max amount 0) :
    other.halved ignores' amount' ≤ one.halved ignores amount := by
  unfold halved
  by_cases halves : !ignores && one.resist
  · rw [if_pos halves, if_pos (resists halves)]
    omega
  · rw [if_neg halves]
    split <;> omega

theorem dealt_mono (resists : !ignores && one.resist → !ignores' && other.resist)
    (vulnerable : other.vulnerable = one.vulnerable) (less : max amount' 0 ≤ max amount 0) :
    other.dealt ignores' amount' ≤ one.dealt ignores amount := by
  have halved := halved_mono resists less
  unfold dealt
  rw [vulnerable]
  split
  · exact saturate_mono (by omega)
  · exact halved

/-- **Whoever is vulnerable is dealt no less**, also where twice the amount is out of range. -/
theorem dealt_le_vulnerable (fits : FitsInt amount) (defenses : Defenses) (ignoreResistance : Bool) :
    defenses.dealt ignoreResistance amount
      ≤ { defenses with vulnerable := true }.dealt ignoreResistance amount := by
  have nonneg := defenses.halved_nonneg ignoreResistance amount
  have most := defenses.halved_le ignoreResistance amount
  have small : FitsInt (defenses.halved ignoreResistance amount) := by
    unfold FitsInt leastInt greatestInt at *
    omega
  unfold dealt
  split
  · exact le_rfl
  · calc defenses.halved ignoreResistance amount
        = saturate (defenses.halved ignoreResistance amount) := (saturate_of_fits small).symm
      _ ≤ saturate (2 * defenses.halved ignoreResistance amount) := saturate_mono (by omega)

theorem dealt_nonneg (defenses : Defenses) (ignoreResistance : Bool) (amount : Int) :
    0 ≤ defenses.dealt ignoreResistance amount := by
  have nonneg := defenses.halved_nonneg ignoreResistance amount
  unfold dealt saturate greatestInt
  split <;> omega

theorem dealt_le_two_mul (defenses : Defenses) (ignoreResistance : Bool) (amount : Int) :
    defenses.dealt ignoreResistance amount ≤ 2 * max amount 0 := by
  have most := defenses.halved_le ignoreResistance amount
  unfold dealt saturate leastInt
  split <;> omega

theorem dealt_le (robust : ¬defenses.vulnerable) (ignoreResistance : Bool) (amount : Int) :
    defenses.dealt ignoreResistance amount ≤ max amount 0 := by
  unfold dealt
  rw [if_neg robust]
  exact defenses.halved_le ignoreResistance amount

end Defenses

/-! ### What is left -/

/-- Those who are immune take nothing. -/
theorem mitigate_of_immune (immune : !ignores && defenses.immune) (amount : Int) (ignoreArmor : Bool) :
    mitigate amount defenses ignoreArmor ignores = 0 := if_pos immune

/-- Of what is dealt to others the reduction is taken off. -/
theorem mitigate_of_exposed (exposed : ¬(!ignores && defenses.immune)) (amount : Int)
    (ignoreArmor : Bool) :
    mitigate amount defenses ignoreArmor ignores
      = max (if ignoreArmor then defenses.dealt ignores amount
          else saturate (defenses.dealt ignores amount - max defenses.reduction 0)) 0 :=
  if_neg exposed

/-- No more is left of an amount than is dealt. -/
theorem mitigate_le_dealt (amount : Int) (defenses : Defenses) (ignoreArmor ignoreResistance : Bool) :
    mitigate amount defenses ignoreArmor ignoreResistance ≤ defenses.dealt ignoreResistance amount := by
  have nonneg := defenses.dealt_nonneg ignoreResistance amount
  by_cases immune : !ignoreResistance && defenses.immune
  · rw [mitigate_of_immune immune]
    exact nonneg
  · rw [mitigate_of_exposed immune]
    unfold saturate leastInt
    split <;> omega

/-- **Less that is dealt, met by no less reduction, leaves no more.** -/
theorem mitigate_le_mitigate (stops : !ignores && one.immune → !ignores' && other.immune)
    (dealt : other.dealt ignores' amount' ≤ one.dealt ignores amount)
    (reduction : one.reduction ≤ other.reduction) :
    mitigate amount' other armor ignores' ≤ mitigate amount one armor ignores := by
  by_cases immune' : !ignores' && other.immune
  · rw [mitigate_of_immune immune']
    exact mitigate_nonneg amount one armor ignores
  rw [mitigate_of_exposed immune', mitigate_of_exposed (mt stops immune')]
  refine max_le_max ?_ le_rfl
  split
  · exact dealt
  · exact saturate_mono (by omega)

/-- **Less damage, met by firmer defenses, leaves no more of it.** -/
theorem mitigate_mono (firmer : one.Firmer other) (less : max amount' 0 ≤ max amount 0)
    (ignoreArmor ignoreResistance : Bool) :
    mitigate amount' other ignoreArmor ignoreResistance
      ≤ mitigate amount one ignoreArmor ignoreResistance :=
  mitigate_le_mitigate (counts_imp firmer.immune)
    (Defenses.dealt_mono (counts_imp firmer.resist) firmer.vulnerable less) firmer.reduction

/-- Who passes over the reduction leaves no less. -/
theorem mitigate_le_ignoreArmor (amount : Int) (defenses : Defenses)
    (ignoreArmor ignoreResistance : Bool) :
    mitigate amount defenses ignoreArmor ignoreResistance
      ≤ mitigate amount defenses true ignoreResistance := by
  by_cases immune : !ignoreResistance && defenses.immune
  · rw [mitigate_of_immune immune, mitigate_of_immune immune]
  · calc mitigate amount defenses ignoreArmor ignoreResistance
        ≤ defenses.dealt ignoreResistance amount := mitigate_le_dealt ..
      _ ≤ mitigate amount defenses true ignoreResistance := by
        rw [mitigate_of_exposed immune, if_pos rfl]
        exact le_max_left _ _

/-- Who passes over immunity and resistance leaves no less. -/
theorem mitigate_le_ignoreResistance (amount : Int) (defenses : Defenses)
    (ignoreArmor ignoreResistance : Bool) :
    mitigate amount defenses ignoreArmor ignoreResistance
      ≤ mitigate amount defenses ignoreArmor true := by
  have none : ∀ {has : Bool}, !true && has → !ignoreResistance && has := nofun
  exact mitigate_le_mitigate none (Defenses.dealt_mono none rfl le_rfl) le_rfl

/-- Halved and doubled, an amount is rounded down to an even one. -/
theorem mitigate_of_both (fits : FitsInt amount) (resist : defenses.resist)
    (vulnerable : defenses.vulnerable) (exposed : ¬defenses.immune) (bare : defenses.reduction = 0)
    (ignoreArmor : Bool) : mitigate amount defenses ignoreArmor false = 2 * (max amount 0 / 2) := by
  have small : FitsInt (2 * (max amount 0 / 2)) := by
    unfold FitsInt leastInt greatestInt at *
    omega
  have dealt : defenses.dealt false amount = 2 * (max amount 0 / 2) := by
    have halves : !false && defenses.resist := resist
    rw [Defenses.dealt, if_pos vulnerable, Defenses.halved, if_pos halves, saturate_of_fits small]
  have exposed : ¬(!false && defenses.immune) := exposed
  rw [mitigate_of_exposed exposed, bare, dealt, max_self, Int.sub_zero, saturate_of_fits small,
    ite_self]
  omega

/-- How what is left of an amount depends on the amount, on the defenses that meet it and on what is
passed over of them. -/
structure Mitigates (amount : Int) (defenses : Defenses) (ignoreArmor ignoreResistance : Bool) :
    Prop where
  nonneg : 0 ≤ mitigate amount defenses ignoreArmor ignoreResistance
  le_amount : ¬defenses.vulnerable →
    mitigate amount defenses ignoreArmor ignoreResistance ≤ max amount 0
  le_two_mul : mitigate amount defenses ignoreArmor ignoreResistance ≤ 2 * max amount 0
  of_less : ∀ less ≤ amount, mitigate less defenses ignoreArmor ignoreResistance
    ≤ mitigate amount defenses ignoreArmor ignoreResistance
  of_immune : mitigate amount { defenses with immune := true } ignoreArmor ignoreResistance
    ≤ mitigate amount defenses ignoreArmor ignoreResistance
  of_resist : mitigate amount { defenses with resist := true } ignoreArmor ignoreResistance
    ≤ mitigate amount defenses ignoreArmor ignoreResistance
  of_reduction : ∀ more ≥ defenses.reduction,
    mitigate amount { defenses with reduction := more } ignoreArmor ignoreResistance
      ≤ mitigate amount defenses ignoreArmor ignoreResistance
  of_vulnerable : mitigate amount defenses ignoreArmor ignoreResistance
    ≤ mitigate amount { defenses with vulnerable := true } ignoreArmor ignoreResistance
  of_ignoreArmor : mitigate amount defenses ignoreArmor ignoreResistance
    ≤ mitigate amount defenses true ignoreResistance
  of_ignoreResistance : mitigate amount defenses ignoreArmor ignoreResistance
    ≤ mitigate amount defenses ignoreArmor true
  /-- Resistance and vulnerability cancel, but for one point of an odd amount. -/
  of_both : defenses.resist → defenses.vulnerable → ¬defenses.immune → defenses.reduction = 0 →
    ¬ignoreResistance →
    mitigate amount defenses ignoreArmor ignoreResistance = 2 * (max amount 0 / 2)

/-- **Whatever bears on damage moves what is left of it in one direction only**, at every amount in
range. -/
theorem mitigates_of_fits (fits : FitsInt amount) (defenses : Defenses)
    (ignoreArmor ignoreResistance : Bool) :
    Mitigates amount defenses ignoreArmor ignoreResistance where
  nonneg := mitigate_nonneg amount defenses ignoreArmor ignoreResistance
  le_amount robust := le_trans (mitigate_le_dealt ..) (Defenses.dealt_le robust ..)
  le_two_mul := le_trans (mitigate_le_dealt ..) (Defenses.dealt_le_two_mul ..)
  of_less less le := mitigate_mono defenses.firmer_self (max_le_max le le_rfl) _ _
  of_immune := mitigate_mono defenses.firmer_immune le_rfl _ _
  of_resist := mitigate_mono defenses.firmer_resist le_rfl _ _
  of_reduction more le := mitigate_mono (defenses.firmer_reduction le) le_rfl _ _
  of_vulnerable := mitigate_le_mitigate id (Defenses.dealt_le_vulnerable fits defenses _) le_rfl
  of_ignoreArmor := mitigate_le_ignoreArmor ..
  of_ignoreResistance := mitigate_le_ignoreResistance ..
  of_both resist vulnerable exposed bare heeded := by
    rw [Bool.eq_false_iff.mpr heeded]
    exact mitigate_of_both fits resist vulnerable exposed bare ignoreArmor

/-- The greatest amount is odd. -/
theorem mitigate_greatest_of_both :
    FitsInt 2147483647 ∧
      mitigate 2147483647 { resist := true, vulnerable := true } false false = 2147483646 :=
  have fits : FitsInt 2147483647 := by decide
  ⟨fits, (mitigates_of_fits fits { resist := true, vulnerable := true } false false).of_both rfl rfl
    nofun rfl nofun⟩

end Skirmish
