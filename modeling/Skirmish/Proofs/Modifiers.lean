/-
**Modifiers.** Whatever changes the roll of an attack or of a defense only adds a `Modifier` to the
tally: a bonus that is not negative, a mark, a face, a damage type or a share. The order in which
modifiers are added does not matter, but for that of the damage types:

* `Tally.Alike`: tallies that differ in the order of their damage types at most;
* `Modifier.alike_apply_comm`: two modifiers, one way and the other;
* `Modifier.alike_applyAll_of_perm`: any number of them, in any order.
-/

import Mathlib.Data.List.Perm.Basic
import Skirmish.Effect.Payload

namespace Skirmish

namespace Tally

/-! ### Tallies up to order -/

/-- Tallies that are the same but for the order of their damage types. -/
structure Alike (one other : Tally) : Prop where
  same : other = { one with
    resistances := other.resistances
    immunities := other.immunities
    vulnerabilities := other.vulnerabilities }
  resistances : one.resistances.Perm other.resistances
  immunities : one.immunities.Perm other.immunities
  vulnerabilities : one.vulnerabilities.Perm other.vulnerabilities

theorem Alike.refl (tally : Tally) : tally.Alike tally := ⟨rfl, .refl _, .refl _, .refl _⟩

theorem Alike.trans {one other third : Tally} (first : one.Alike other) (second : other.Alike third) :
    one.Alike third := by
  refine ⟨?_, first.resistances.trans second.resistances, first.immunities.trans second.immunities,
    first.vulnerabilities.trans second.vulnerabilities⟩
  have same := second.same
  rw [first.same] at same
  exact same

/-- The sums of a tally are 32-bit numbers. -/
structure InRange (tally : Tally) : Prop where
  attack : ∀ bonus ∈ tally.attackBonus, FitsInt bonus
  defense : ∀ bonus ∈ tally.defenseBonus, FitsInt bonus
  reduction : ∀ amount ∈ tally.damageReduction, FitsInt amount

theorem inRange_empty : ({} : Tally).InRange := by
  constructor <;> intro n mem <;> exact absurd mem (Option.not_mem_none n)

end Tally

/-- What a rule adds to a tally when it changes a roll. -/
inductive Modifier where
  | attackBonus (bonus : Nat)
  | defenseBonus (bonus : Nat)
  | damageReduction (amount : Nat)
  | mark (which : Mark)
  | critThreshold (face : Nat)
  | defense (kind : DefenseKind) (damageType : String)
  | reflect (percent : Nat)

namespace Modifier

open Tally Effect

/-- A tally with a modifier. -/
def apply (config : Config) (tally : Tally) : Modifier → Tally
  | .attackBonus bonus => tally.addAttackBonus bonus
  | .defenseBonus bonus => tally.addDefenseBonus bonus
  | .damageReduction amount => tally.addDamageReduction amount
  | .mark which => tally.raise which
  | .critThreshold face =>
    { tally with critThreshold := some (min (tally.critThreshold.getD config.critThreshold) face) }
  | .defense .resisted damageType =>
    { tally with resistances := withEntry tally.resistances damageType }
  | .defense .immune damageType =>
    { tally with immunities := withEntry tally.immunities damageType }
  | .defense .vulnerable damageType =>
    { tally with vulnerabilities := withEntry tally.vulnerabilities damageType }
  | .reflect percent =>
    { tally with reflectPercent := raisedPercent tally.reflectPercent percent }

/-- A tally with modifiers, one after the other. -/
def applyAll (config : Config) (modifiers : List Modifier) (tally : Tally) : Tally :=
  modifiers.foldl (apply config) tally

variable {config : Config} {tally one other : Tally}

/-! ### Entries and sums -/

theorem perm_withEntry {list list' : List String} (perm : list.Perm list') (entry : String) :
    (withEntry list entry).Perm (withEntry list' entry) := by
  unfold withEntry
  rw [perm.contains_eq]
  split
  · exact perm
  · exact perm.append_right _

theorem mem_withEntry {list : List String} {entry other : String} :
    other ∈ withEntry list entry ↔ other ∈ list ∨ other = entry := by
  unfold withEntry
  split
  case isTrue known =>
    have mem : entry ∈ list := List.contains_iff_mem.mp known
    exact ⟨.inl, fun either => either.elim id fun same => same ▸ mem⟩
  case isFalse => simp

theorem perm_withEntry_comm (list : List String) (one other : String) :
    (withEntry (withEntry list one) other).Perm (withEntry (withEntry list other) one) := by
  by_cases same : one = other
  · subst same
    exact .refl _
  -- An entry is new after another one exactly if it was new before.
  have stays : ∀ {one other : String}, one ≠ other →
      (withEntry list one).contains other = list.contains other := by
    intro one other apart
    rw [Bool.eq_iff_iff, List.contains_iff_mem, List.contains_iff_mem, mem_withEntry]
    exact or_iff_left (Ne.symm apart)
  have further : ∀ {one other : String}, one ≠ other →
      withEntry (withEntry list one) other
        = if list.contains other then withEntry list one else withEntry list one ++ [other] := by
    intro one other apart
    rw [withEntry, stays apart]
  rw [further same, further (Ne.symm same)]
  unfold withEntry
  split <;> split
  · exact .refl _
  · exact .refl _
  · exact .refl _
  · rw [List.append_assoc, List.append_assoc]
    exact (List.Perm.swap other one []).append_left list

theorem added_comm {number : Option Int} (fits : ∀ n ∈ number, FitsInt n) (one other : Nat) :
    added (added number one) other = added (added number other) one := by
  have base : FitsInt (number.getD 0) := by
    rcases number with _ | n
    · decide
    · exact fits n rfl
  unfold FitsInt leastInt greatestInt at base
  simp only [added, Option.getD_some, saturatingAdd, saturate, leastInt, greatestInt, Option.some.injEq]
  omega

theorem raisedPercent_comm (before : Option Nat) (one other : Nat) :
    raisedPercent (raisedPercent before one) other
      = raisedPercent (raisedPercent before other) one := by
  simp only [raisedPercent, Option.getD_some, Option.some.injEq]
  omega

theorem fits_of_mem_added {number : Option Int} {amount n : Int} (mem : n ∈ added number amount) :
    FitsInt n :=
  Option.some.inj mem ▸ saturate_fits _

/-! ### One modifier after another -/

theorem inRange_apply (range : tally.InRange) (modifier : Modifier) :
    (modifier.apply config tally).InRange := by
  obtain ⟨attack, defense, reduction⟩ := range
  cases modifier with
  | attackBonus bonus => exact ⟨fun _ => fits_of_mem_added, defense, reduction⟩
  | defenseBonus bonus => exact ⟨attack, fun _ => fits_of_mem_added, reduction⟩
  | damageReduction amount => exact ⟨attack, defense, fun _ => fits_of_mem_added⟩
  | mark which => cases which <;> exact ⟨attack, defense, reduction⟩
  | critThreshold | reflect => exact ⟨attack, defense, reduction⟩
  | defense kind => cases kind <;> exact ⟨attack, defense, reduction⟩

theorem aborted_apply (modifier : Modifier) :
    (modifier.apply config tally).aborted = tally.aborted := by
  cases modifier with
  | attackBonus | defenseBonus | damageReduction | critThreshold | reflect => rfl
  | mark which => cases which <;> rfl
  | defense kind => cases kind <;> rfl

/-- Alike tallies stay alike. -/
theorem alike_apply (alike : one.Alike other) (modifier : Modifier) :
    (modifier.apply config one).Alike (modifier.apply config other) := by
  obtain ⟨same, resistances, immunities, vulnerabilities⟩ := alike
  generalize other.resistances = resisted, other.immunities = immune,
    other.vulnerabilities = vulnerable at *
  subst same
  cases modifier with
  | attackBonus | defenseBonus | damageReduction | critThreshold | reflect =>
    exact ⟨rfl, resistances, immunities, vulnerabilities⟩
  | mark which => cases which <;> exact ⟨rfl, resistances, immunities, vulnerabilities⟩
  | defense kind damageType =>
    cases kind with
    | resisted => exact ⟨rfl, perm_withEntry resistances _, immunities, vulnerabilities⟩
    | immune => exact ⟨rfl, resistances, perm_withEntry immunities _, vulnerabilities⟩
    | vulnerable => exact ⟨rfl, resistances, immunities, perm_withEntry vulnerabilities _⟩

/-- A mark comes to the same before and after a modifier. -/
theorem apply_raise (which : Mark) (modifier : Modifier) :
    modifier.apply config (tally.raise which) = (modifier.apply config tally).raise which := by
  cases modifier with
  | attackBonus | defenseBonus | damageReduction | critThreshold | reflect => cases which <;> rfl
  | mark other => cases which <;> cases other <;> rfl
  | defense kind => cases which <;> cases kind <;> rfl

/-- Two modifiers come to the same, whichever is first. -/
theorem alike_apply_comm (range : tally.InRange) (first second : Modifier) :
    (second.apply config (first.apply config tally)).Alike
      (first.apply config (second.apply config tally)) := by
  cases first
  case mark which =>
    show (second.apply config (tally.raise which)).Alike _
    rw [apply_raise]
    exact .refl _
  all_goals cases second
  case attackBonus.attackBonus one other =>
    have comm := added_comm range.attack one other
    simp only [apply, addAttackBonus, comm]
    exact .refl _
  case defenseBonus.defenseBonus one other =>
    have comm := added_comm range.defense one other
    simp only [apply, addDefenseBonus, comm]
    exact .refl _
  case damageReduction.damageReduction one other =>
    have comm := added_comm range.reduction one other
    simp only [apply, addDamageReduction, comm]
    exact .refl _
  case critThreshold.critThreshold one other =>
    simp only [apply, Option.getD_some, Nat.min_right_comm _ one other]
    exact .refl _
  case reflect.reflect one other =>
    simp only [apply, raisedPercent_comm tally.reflectPercent one other]
    exact .refl _
  case defense.defense kind one kind' other =>
    cases kind <;> cases kind'
    case resisted.resisted => exact ⟨rfl, perm_withEntry_comm _ one other, .refl _, .refl _⟩
    case immune.immune => exact ⟨rfl, .refl _, perm_withEntry_comm _ one other, .refl _⟩
    case vulnerable.vulnerable => exact ⟨rfl, .refl _, .refl _, perm_withEntry_comm _ one other⟩
    all_goals exact .refl _
  case attackBonus.mark _ which | defenseBonus.mark _ which | damageReduction.mark _ which |
      critThreshold.mark _ which | defense.mark _ _ which | reflect.mark _ which =>
    show Alike _ (apply config (tally.raise which) _)
    rw [apply_raise]
    exact .refl _
  -- What is left changes two different entries of the tally.
  case defense.attackBonus kind _ _ | defense.defenseBonus kind _ _ |
      defense.damageReduction kind _ _ | defense.critThreshold kind _ _ | defense.reflect kind _ _ |
      attackBonus.defense _ kind _ | defenseBonus.defense _ kind _ |
      damageReduction.defense _ kind _ | critThreshold.defense _ kind _ | reflect.defense _ kind _ =>
    cases kind <;> exact .refl _
  all_goals exact .refl _

/-! ### Any number of modifiers -/

theorem aborted_applyAll (modifiers : List Modifier) :
    (applyAll config modifiers tally).aborted = tally.aborted := by
  induction modifiers generalizing tally with
  | nil => rfl
  | cons modifier rest hyp => exact hyp.trans (aborted_apply modifier)

theorem alike_applyAll {modifiers : List Modifier} (alike : one.Alike other) :
    (applyAll config modifiers one).Alike (applyAll config modifiers other) := by
  induction modifiers generalizing one other with
  | nil => exact alike
  | cons modifier rest hyp => exact hyp (alike_apply alike modifier)

/-- **Modifiers come to the same in any order**, but for that of the damage types. -/
theorem alike_applyAll_of_perm {modifiers modifiers' : List Modifier}
    (perm : modifiers.Perm modifiers') (range : tally.InRange) :
    (applyAll config modifiers tally).Alike (applyAll config modifiers' tally) := by
  induction perm generalizing tally with
  | nil => exact .refl _
  | cons modifier _ hyp => exact hyp (inRange_apply range modifier)
  | swap first second rest => exact alike_applyAll (alike_apply_comm range second first)
  | trans _ _ hyp hyp' => exact (hyp range).trans (hyp' range)

end Modifier

end Skirmish
