/-
**Flags and the conditions that carry them.** A condition may carry a flag, which is raised with it
and goes when it ends. Flags and conditions are two lists of a combatant, and a step on one of them
can leave them apart:

* `Flagged`: exactly the flags that active conditions carry are raised;
* `Frays`: a step that takes flags and conditions apart: it raises another flag for a condition
  that has one already, or lowers a flag that another condition still carries;
* `flagged_undergo_iff`: from a combatant whose flags are in order, exactly these steps leave it
  with flags that are not;
* **`flagged_throughout_iff`**: along a whole history of steps the flags are in order exactly if no
  step of it frays, and `not_forall_flagged`: histories that fray exist.
-/

import Mathlib.Tactic.Tauto
import Skirmish.Proofs.Durations
import Skirmish.Proofs.Vitals

namespace Skirmish

open ConditionSet (Step)

namespace Combatant

variable {one : Combatant} {name flag : String} {duration : Duration} {raised : Option String}

/-! ### Raised flags -/

theorem hasFlag_raiseFlag (one : Combatant) (raised flag : String) :
    (one.raiseFlag raised).hasFlag flag ↔ raised = flag ∨ one.hasFlag flag := by
  simp [hasFlag, raiseFlag, NameSet.add, NameMap.contains_insert]

theorem hasFlag_lowerFlag (one : Combatant) (lowered flag : String) :
    (one.lowerFlag lowered).hasFlag flag ↔ lowered ≠ flag ∧ one.hasFlag flag := by
  simp [hasFlag, lowerFlag, NameMap.contains_erase]

theorem hasFlag_addCondition (one : Combatant) (name : String) (duration : Duration)
    (raised : Option String) (flag : String) :
    (one.addCondition name duration raised).hasFlag flag
      ↔ one.hasFlag flag
        ∨ raised = some flag ∧ (one.conditions.apply name duration raised).has name := by
  unfold addCondition
  rcases raised with _ | raised
  · simp [hasFlag]
  · by_cases active : (one.conditions.apply name duration (some raised)).has name
    · simp only [active, ↓reduceIte, hasFlag_raiseFlag, Option.some.injEq, and_true]
      exact or_comm
    · simp [active, hasFlag]

theorem hasFlag_removeCondition (one : Combatant) (name flag : String) :
    (one.removeCondition name).hasFlag flag
      ↔ one.hasFlag flag ∧ (one.conditions.find? name).bind (·.flag) ≠ some flag := by
  unfold removeCondition
  rcases (one.conditions.find? name).bind (·.flag) with _ | lowered
  · simp [hasFlag]
  · simp only [hasFlag_lowerFlag, ne_eq, Option.some.injEq]
    exact and_comm

theorem hasFlag_lowerFlags (conditions : List Condition) (start : Combatant) (flag : String) :
    (conditions.foldl (fun one condition =>
      match condition.flag with
      | some flag => one.lowerFlag flag
      | none => one) start).hasFlag flag
      ↔ start.hasFlag flag ∧ flag ∉ conditions.filterMap (·.flag) := by
  induction conditions generalizing start with
  | nil => simp
  | cons condition rest hyp =>
    rw [List.foldl_cons, hyp]
    rcases eq : condition.flag with _ | lowered
    · rw [List.filterMap_cons_none eq]
    · rw [List.filterMap_cons_some eq, List.mem_cons, not_or, hasFlag_lowerFlag, eq_comm]
      tauto

theorem hasFlag_tickConditions (one : Combatant) (flag : String) :
    one.tickConditions.hasFlag flag
      ↔ one.hasFlag flag ∧ flag ∉ one.conditions.expiring.filterMap (·.flag) :=
  hasFlag_lowerFlags one.conditions.expiring _ flag

end Combatant

/-! ### Flags that conditions carry -/

namespace ConditionSet

variable {set : ConditionSet} {name flag : String}

/-- The flags of the conditions. -/
def carried (set : ConditionSet) : List String := set.entries.filterMap (·.flag)

/-- A flag that comes with one more application is bound where there is none yet. -/
theorem mem_flags_updateFirst (fits : Condition → Bool) (duration : Duration)
    (raised : Option String) (flag : String) (entries : List Condition) :
    flag ∈ (updateFirst fits (extend · duration raised) entries).filterMap (·.flag)
      ↔ flag ∈ entries.filterMap (·.flag)
        ∨ raised = some flag ∧ ∃ condition, entries.find? fits = some condition
          ∧ condition.flag = none := by
  induction entries with
  | nil => simp [updateFirst]
  | cons condition rest hyp =>
    by_cases hit : fits condition
    · rcases eq : condition.flag with _ | bound
      · rcases raised with _ | raised <;> simp [updateFirst, hit, extend, eq, eq_comm, or_comm]
      · simp [updateFirst, hit, extend, eq]
    · rcases eq : condition.flag with _ | bound
      · simpa [updateFirst, hit, eq] using hyp
      · simp only [updateFirst, hit, Bool.false_eq_true, ↓reduceIte, List.filterMap_cons_some eq,
          List.mem_cons, hyp, List.find?_cons_of_neg, not_false_eq_true, or_assoc]

theorem has_apply (set : ConditionSet) (name : String) (duration : Duration)
    (flag : Option String) :
    (set.apply name duration flag).has name ↔ set.has name ∨ duration ≠ .rounds 0 := by
  unfold ConditionSet.apply
  split
  case isTrue present =>
    simp only [has, find?, find?_updateFirst_extend, Option.isSome_map]
    exact ⟨.inl, fun _ => present⟩
  case isFalse absent =>
    split
    case isTrue none => simp [none]
    case isFalse lasts => simp [has, find?, lasts, Text.sameName_refl]

/-- One more application binds its flag to a condition that is new or has none. -/
theorem mem_carried_apply (set : ConditionSet) (name : String) (duration : Duration)
    (raised : Option String) (flag : String) :
    flag ∈ (set.apply name duration raised).carried
      ↔ flag ∈ set.carried
        ∨ raised = some flag ∧ (set.apply name duration raised).has name
          ∧ (set.find? name).bind (·.flag) = none := by
  rw [has_apply]
  unfold ConditionSet.apply
  split
  case isTrue present =>
    obtain ⟨condition, found⟩ := Option.isSome_iff_exists.mp present
    simp only [carried, mem_flags_updateFirst, present, true_or, true_and, found, Option.bind_some]
    simp only [find?] at found
    simp [found]
  case isFalse absent =>
    have nothing : set.find? name = none := by simpa [has] using absent
    split
    case isTrue none => simp [absent, none]
    case isFalse lasts =>
      rcases raised with _ | raised
      · simp [carried]
      · simp [carried, absent, lasts, nothing, eq_comm]

/-- The flags before a removal are those after it and that of the condition removed. -/
theorem mem_carried_remove (set : ConditionSet) (name flag : String) :
    flag ∈ set.carried
      ↔ flag ∈ (set.remove name).carried ∨ (set.find? name).bind (·.flag) = some flag := by
  obtain ⟨entries⟩ := set
  induction entries with
  | nil => simp [carried, remove, find?]
  | cons condition rest hyp =>
    by_cases hit : Text.sameName condition.name name
    · simp [carried, remove, find?, hit, or_comm]
    · simp only [carried, remove, find?, List.mem_filterMap] at hyp
      simp [carried, remove, find?, hit, hyp, or_assoc]

theorem flag_of_older? {condition older : Condition} (later : older? condition = some older) :
    older.flag = condition.flag := by
  grind [older?]

/-- The flags before a round are those after it and those of the conditions that run out. -/
theorem mem_carried_tick (set : ConditionSet) (flag : String) :
    flag ∈ set.carried
      ↔ flag ∈ set.tick.carried ∨ flag ∈ set.expiring.filterMap (·.flag) := by
  simp only [carried, tick, expiring, List.mem_filterMap, List.mem_filter]
  constructor
  · rintro ⟨condition, mem, flagged⟩
    rcases later : older? condition with _ | older
    · exact .inr ⟨condition, ⟨mem, by simp [later]⟩, flagged⟩
    · exact .inl ⟨older, ⟨condition, mem, later⟩, (flag_of_older? later).trans flagged⟩
  · rintro (⟨older, ⟨condition, mem, later⟩, flagged⟩ | ⟨condition, ⟨mem, -⟩, flagged⟩)
    · exact ⟨condition, mem, (flag_of_older? later).symm.trans flagged⟩
    · exact ⟨condition, mem, flagged⟩

end ConditionSet

/-! ### Flags in order -/

namespace Combatant

/-- The combatant after a step of its conditions. -/
def undergo (one : Combatant) : Step → Combatant
  | .apply name duration flag => one.addCondition name duration flag
  | .remove name => one.removeCondition name
  | .tick => one.tickConditions

/-- The combatant after a history of such steps. -/
def undergone (one : Combatant) (steps : List Step) : Combatant := steps.foldl undergo one

/-- Exactly the flags that active conditions carry are raised. -/
def Flagged (one : Combatant) : Prop :=
  ∀ flag, one.hasFlag flag ↔ flag ∈ one.conditions.carried

/-- A step that takes flags and conditions apart: another flag comes with a condition that has one
already, or a flag goes that another condition still carries. -/
def Frays (one : Combatant) : Step → Prop
  | .apply name _ raised =>
    (one.conditions.find? name).bind (·.flag) ≠ none
      ∧ ∃ flag ∈ raised, flag ∉ one.conditions.carried
  | .remove name =>
    ∃ flag ∈ (one.conditions.find? name).bind (·.flag), flag ∈ (one.conditions.remove name).carried
  | .tick =>
    ∃ flag ∈ one.conditions.expiring.filterMap (·.flag), flag ∈ one.conditions.tick.carried

instance (one : Combatant) : (step : Step) → Decidable (one.Frays step)
  | .apply .. => inferInstanceAs (Decidable (_ ≠ none ∧ ∃ flag ∈ _, flag ∉ _))
  | .remove _ => inferInstanceAs (Decidable (∃ flag ∈ _, flag ∈ _))
  | .tick => inferInstanceAs (Decidable (∃ flag ∈ _, flag ∈ _))

variable {one : Combatant}

theorem conditions_undergo (one : Combatant) (step : Step) :
    (one.undergo step).conditions = one.conditions.on step := by
  cases step with
  | apply name duration raised =>
    simp only [undergo, addCondition]
    split
    · split <;> rfl
    · rfl
  | remove name =>
    simp only [undergo, removeCondition]
    split <;> rfl
  | tick => exact view_lowerFlags conditions (fun _ _ => rfl) one.conditions.expiring _

/-- From flags that are in order, exactly the steps that fray leave flags that are not. -/
theorem flagged_undergo_iff (flagged : one.Flagged) (step : Step) :
    (one.undergo step).Flagged ↔ ¬one.Frays step := by
  unfold Flagged
  rw [conditions_undergo]
  cases step with
  | apply name duration raised =>
    simp only [undergo, ConditionSet.on, hasFlag_addCondition, ConditionSet.mem_carried_apply,
      flagged _, Frays]
    by_cases free : (one.conditions.find? name).bind (·.flag) = none
    case pos => simp [free]
    case neg =>
      have active : (one.conditions.apply name duration raised).has name := by
        rw [ConditionSet.has_apply]
        refine .inl (Option.isSome_iff_ne_none.mpr fun absent => free ?_)
        rw [absent, Option.bind_none]
      simp [free, active]
  | remove name =>
    simp only [undergo, ConditionSet.on, hasFlag_removeCondition, flagged _, Frays,
      ConditionSet.mem_carried_remove one.conditions name, Option.mem_def]
    grind
  | tick =>
    simp only [undergo, ConditionSet.on, hasFlag_tickConditions, flagged _, Frays,
      ConditionSet.mem_carried_tick one.conditions]
    grind

theorem flagged_of_bare (bare : one.conditions = .empty) (clean : one.flags = {}) :
    one.Flagged := by
  intro flag
  simp [hasFlag, bare, clean, ConditionSet.carried, ConditionSet.empty]
  rfl

theorem undergone_take_succ (one : Combatant) (steps : List Step) (count : Nat)
    (inside : count < steps.length) :
    one.undergone (steps.take (count + 1))
      = (one.undergone (steps.take count)).undergo steps[count] := by
  rw [List.take_add_one, List.getElem?_eq_getElem inside, undergone, List.foldl_append]
  rfl

/-- **From no conditions and no flags, the flags are in order after each step of a history exactly
if no step of it frays.** -/
theorem flagged_throughout_iff (bare : one.conditions = .empty) (clean : one.flags = {})
    (steps : List Step) :
    (∀ count ≤ steps.length, (one.undergone (steps.take count)).Flagged)
      ↔ ∀ (count : Nat) (inside : count < steps.length),
        ¬(one.undergone (steps.take count)).Frays steps[count] := by
  constructor
  · intro flagged count inside
    refine (flagged_undergo_iff (flagged count (by omega)) steps[count]).mp ?_
    rw [← undergone_take_succ one steps count inside]
    exact flagged (count + 1) inside
  · intro sound count
    induction count with
    | zero => exact fun _ => flagged_of_bare bare clean
    | succ count hyp =>
      intro inside
      rw [undergone_take_succ one steps count inside]
      exact (flagged_undergo_iff (hyp (by omega)) _).mpr (sound count inside)

/-- Somebody who is hexed, stunned and hexed for longer while the stun wears off. -/
theorem flagged_throughout_hexed :
    let aria := fresh ⟨1⟩ "Aria" default
    let steps : List Step := [.apply "Hexed" (.rounds 2) (some "cursed"),
      .apply "Stunned" (.rounds 1) (some "stunned"), .apply "HEXED" (.rounds 4) none, .tick,
      .remove "hexed"]
    ∀ count ≤ steps.length, (aria.undergone (steps.take count)).Flagged :=
  (flagged_throughout_iff rfl rfl _).mpr (by decide +kernel)

/-- A flag that a condition is given by a second application stays raised when the condition
ends. -/
theorem not_forall_flagged :
    ¬∀ (one : Combatant) (steps : List Step), one.conditions = .empty → one.flags = {} →
      ∀ count ≤ steps.length, (one.undergone (steps.take count)).Flagged := by
  intro flagged
  have last := flagged (fresh ⟨1⟩ "Aria" default)
    [.apply "Hexed" (.rounds 2) (some "cursed"), .apply "hexed" (.rounds 2) (some "marked"),
      .remove "Hexed"] rfl rfl 3 (by decide)
  have raised := (last "marked").mp (by decide +kernel)
  revert raised
  decide +kernel

end Combatant

end Skirmish
