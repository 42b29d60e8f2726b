/-
**What dice come to.** Dice show at least one and at most their sides each, and all such faces can be
shown:

* `DiceFormula.shows_iff`: the faces that some supply shows for a formula;
* `DiceFormula.isLeast_totals`, `DiceFormula.isGreatest_totals`: the least total is the one of the least
  faces, and the greatest that of the greatest, but neither is below zero;
* `DiceFormula.totals_of_read`: so `least` and `greatest` are the bounds of the totals exactly where the
  bonus takes off no more than one for each die. They go on below zero, and totals do not.
-/

import Mathlib.Algebra.GroupWithZero.Nat
import Mathlib.Data.Int.Order.Basic
import Mathlib.Order.Bounds.Basic
import Mathlib.Order.MinMax
import Skirmish.Proofs.Formulas

namespace Skirmish

/-! ### Scripts -/

namespace Dice

/-- As many faces are shown as dice are drawn. -/
theorem length_drawMany (dice : Dice) (sides many : Nat) :
    (dice.drawMany sides many).1.length = many := by
  induction many generalizing dice with
  | zero => rfl
  | succ many hyp => exact congrArg (· + 1) (hyp (dice.draw sides).2)

/-- Every die shows one of its sides. -/
theorem mem_range_drawMany (dice : Dice) {sides : Nat} (positive : 1 ≤ sides) (many : Nat) :
    ∀ face ∈ (dice.drawMany sides many).1, 1 ≤ face ∧ face ≤ sides := by
  induction many generalizing dice with
  | zero => exact nofun
  | succ many hyp =>
    exact List.forall_mem_cons.mpr ⟨dice.draw_mem_range positive, hyp (dice.draw sides).2⟩

/-- Faces in range are shown as the script has them. -/
theorem drawMany_of_script {dice : Dice} {sides : Nat} {faces : List Nat}
    (script : dice.source = .script faces) (range : ∀ face ∈ faces, 1 ≤ face ∧ face ≤ sides) :
    (dice.drawMany sides faces.length).1 = faces := by
  induction faces generalizing dice with
  | nil => rfl
  | cons face rest hyp =>
    obtain ⟨⟨least, most⟩, others⟩ := List.forall_mem_cons.mp range
    have drawn : dice.draw sides = (face, ⟨.script rest, ⟨sides, face⟩ :: dice.drawn⟩) := by
      have shown : max 1 (min face sides) = face := by omega
      rw [draw, if_neg (by omega), script]
      simp only [FaceSource.next, shown]
    rw [List.length_cons, drawMany, drawn]
    exact congrArg (face :: ·) (hyp rfl others)

end Dice

namespace DiceFormula

variable {text : String} {chars : List Char} {formula : DiceFormula} {faces : List Nat}

/-! ### Faces -/

/-- Faces that the dice of a formula may show: one of its sides for each die. -/
structure Shows (formula : DiceFormula) (faces : List Nat) : Prop where
  each : faces.length = formula.count
  range : ∀ face ∈ faces, 1 ≤ face ∧ face ≤ formula.die.sides

/-- The grammar has no die without sides. -/
theorem Written.sides_pos (written : Written chars formula) : 1 ≤ formula.die.sides := by
  cases written with
  | flat => exact Nat.le_of_ble_eq_true rfl
  | dice _ _ _ _ positive =>
    rw [Die.sides_withSides]
    exact positive

/-- **A supply shows what the dice may show**, and there is one for whatever they may show. -/
theorem shows_iff (positive : 1 ≤ formula.die.sides) :
    formula.Shows faces ↔ ∃ supply, (formula.faces supply).1 = faces := by
  constructor
  · intro shows
    refine ⟨.scripted faces, ?_⟩
    rw [DiceFormula.faces, ← shows.each]
    exact Dice.drawMany_of_script rfl shows.range
  · rintro ⟨supply, rfl⟩
    exact ⟨supply.length_drawMany .., supply.mem_range_drawMany positive _⟩

/-- All dice may show one and the same side. -/
theorem shows_replicate {face : Nat} (least : 1 ≤ face) (most : face ≤ formula.die.sides) :
    formula.Shows (List.replicate formula.count face) where
  each := List.length_replicate
  range other mem := by
    obtain rfl := List.eq_of_mem_replicate mem
    exact ⟨least, most⟩

/-! ### Totals -/

/-- The totals that a formula may come to. -/
def totals (formula : DiceFormula) : Set Int :=
  { total | ∃ faces, formula.Shows faces ∧ formula.total faces = total }

theorem total_eq (formula : DiceFormula) (faces : List Nat) :
    formula.total faces = max (saturate (faces.sum + formula.bonus)) 0 := rfl

/-- Dice come to at least one and at most their sides each. -/
theorem Shows.sum_mem_range (shows : formula.Shows faces) :
    formula.count ≤ faces.sum ∧ faces.sum ≤ formula.count * formula.die.sides := by
  obtain ⟨each, range⟩ := shows
  rw [← each]
  clear each
  induction faces with
  | nil => simp
  | cons face rest hyp =>
    obtain ⟨shown, others⟩ := List.forall_mem_cons.mp range
    obtain ⟨least, most⟩ := hyp others
    rw [List.length_cons, List.sum_cons, Nat.succ_mul]
    omega

/-- The least total is the one of the least faces. -/
theorem isLeast_totals (positive : 1 ≤ formula.die.sides) :
    IsLeast formula.totals (max formula.least 0) := by
  constructor
  · refine ⟨_, shows_replicate le_rfl positive, ?_⟩
    rw [total_eq, List.sum_replicate_nat, Nat.mul_one]
    rfl
  · rintro _ ⟨faces, shows, rfl⟩
    have sum := shows.sum_mem_range.1
    rw [total_eq]
    exact max_le_max (saturate_mono (by omega)) le_rfl

/-- The greatest total is the one of the greatest faces. -/
theorem isGreatest_totals (positive : 1 ≤ formula.die.sides) :
    IsGreatest formula.totals (max formula.greatest 0) := by
  constructor
  · refine ⟨_, shows_replicate positive le_rfl, ?_⟩
    rw [total_eq, List.sum_replicate_nat, Int.natCast_mul]
    rfl
  · rintro _ ⟨faces, shows, rfl⟩
    have sum : ((faces.sum : Nat) : Int) ≤ (formula.count * formula.die.sides : Nat) :=
      Int.ofNat_le.mpr shows.sum_mem_range.2
    rw [Int.natCast_mul] at sum
    rw [total_eq]
    exact max_le_max (saturate_mono (by omega)) le_rfl

/-- With at least a point from each die left, neither bound is below zero. -/
theorem bounds_nonneg_iff (positive : 1 ≤ formula.die.sides) :
    0 ≤ formula.least ∧ 0 ≤ formula.greatest ↔ 0 ≤ formula.count + formula.bonus := by
  have most : (formula.count : Int) ≤ formula.count * formula.die.sides := by
    rw [← Int.natCast_mul]
    exact Int.ofNat_le.mpr (Nat.le_mul_of_pos_right _ positive)
  rw [least, greatest, saturate_nonneg_iff, saturate_nonneg_iff]
  omega

/-- **What was read comes to totals between its bounds, none below zero.** Whatever faces are shown, the
total lies between `least` and `greatest`, or zero where they are less, and comes to both. So `least`
and `greatest` themselves bound the totals, and are among them, exactly if the bonus takes off no more
than one for each die. -/
theorem totals_of_read (read : parse? text = some formula) :
    (∀ faces, formula.Shows faces ↔ ∃ supply, (formula.faces supply).1 = faces) ∧
    IsLeast formula.totals (max formula.least 0) ∧
    IsGreatest formula.totals (max formula.greatest 0) ∧
    (IsLeast formula.totals formula.least ∧ IsGreatest formula.totals formula.greatest ↔
      0 ≤ formula.count + formula.bonus) := by
  have positive := (parse?_eq_some_iff.mp read).sides_pos
  have least := isLeast_totals positive
  have greatest := isGreatest_totals positive
  refine ⟨fun faces => shows_iff positive, least, greatest, ?_⟩
  rw [← bounds_nonneg_iff positive]
  constructor
  · rintro ⟨least', greatest'⟩
    rw [least'.unique least, greatest'.unique greatest]
    exact ⟨le_max_right .., le_max_right ..⟩
  · rintro ⟨nonneg, nonneg'⟩
    rw [max_eq_left nonneg] at least
    rw [max_eq_left nonneg'] at greatest
    exact ⟨least, greatest⟩

/-- A four-sided die that loses three never comes to less than nothing. -/
theorem totals_blunted :
    parse? "1d4-3" = some ⟨1, .d4, -3⟩ ∧
    IsLeast (⟨1, .d4, -3⟩ : DiceFormula).totals 0 ∧
    IsGreatest (⟨1, .d4, -3⟩ : DiceFormula).totals 1 ∧
    ¬(IsLeast (⟨1, .d4, -3⟩ : DiceFormula).totals (-2) ∧
      IsGreatest (⟨1, .d4, -3⟩ : DiceFormula).totals 1) := by
  have read : parse? "1d4-3" = some ⟨1, .d4, -3⟩ := by decide +kernel
  obtain ⟨-, least, greatest, bounds⟩ := totals_of_read read
  exact ⟨read, least, greatest, mt bounds.mp (by decide)⟩

/-- **Not everything that is read has its totals between its bounds.** A die that loses more than its
sides comes to zero, which is more than the greatest total there should be. -/
theorem not_forall_totals_of_read : ¬∀ text formula, parse? text = some formula →
    IsLeast formula.totals formula.least ∧ IsGreatest formula.totals formula.greatest := by
  intro all
  have read : parse? "1d4-10" = some ⟨1, .d4, -10⟩ := by decide +kernel
  obtain ⟨-, -, most⟩ := all "1d4-10" ⟨1, .d4, -10⟩ read
  have shows : (⟨1, .d4, -10⟩ : DiceFormula).Shows [1] := shows_replicate le_rfl (by decide)
  have total : (⟨1, .d4, -10⟩ : DiceFormula).total [1] ≤ -6 := most ⟨[1], shows, rfl⟩
  exact absurd total (by decide)

end DiceFormula

end Skirmish
