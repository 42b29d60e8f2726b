/-
**How long conditions last.** A set of conditions is changed by applying, removing and ticking.
What it then holds can be told from the history of these steps alone:

* `remaining?_apply`, `remaining?_remove`, `remaining?_tick`: what one step does to the time left
  under each name;
* `Single`, `Lasting`: no name stands twice, and nothing without a round to go stands at all;
* `expected?`: the time left under a name, read off the steps since its last removal;
* **`after_tells`**: after any history the two agree, and a tick ends exactly what has one round
  left.
-/

import Mathlib.Data.List.DropRight
import Skirmish.Proofs.Roster

namespace Skirmish

/-! ### One round of a duration -/

namespace Duration

/-- The time left one round later, if any. -/
def older? : Duration → Option Duration
  | .permanent => some .permanent
  | .rounds count => if count ≤ 1 then none else some (.rounds (count - 1))

/-- The time left under a name after one more application of it. -/
def prolonged : Option Duration → Duration → Option Duration
  | some old, new => some (old.longest new)
  | none, .rounds 0 => none
  | none, new => some new

/-- A number of rounds as the time left, none being no time. -/
def ofRounds? (count : Nat) : Option Duration :=
  if count = 0 then none else some (.rounds count)

theorem older?_ofRounds? (count : Nat) :
    (ofRounds? count).bind older? = ofRounds? (count - 1) := by
  grind [ofRounds?, older?]

theorem prolonged_ofRounds? (first second : Nat) :
    prolonged (ofRounds? first) (.rounds second) = ofRounds? (max first second) := by
  grind [ofRounds?, prolonged, longest]

theorem prolonged_none {new : Duration} (lasts : new ≠ .rounds 0) :
    prolonged none new = some new := by
  grind [prolonged]

end Duration

namespace ConditionSet

/-- A change of a set of conditions. -/
inductive Step where
  | apply (name : String) (duration : Duration) (flag : Option String)
  | remove (name : String)
  | tick
deriving DecidableEq, Repr

/-- The set after a step. -/
def on (set : ConditionSet) : Step → ConditionSet
  | .apply name duration flag => set.apply name duration flag
  | .remove name => set.remove name
  | .tick => set.tick

/-- The conditions after a history of steps that began without any. -/
def after (steps : List Step) : ConditionSet := steps.foldl on empty

theorem after_append (steps : List Step) (step : Step) :
    after (steps ++ [step]) = (after steps).on step := by
  simp [after]

/-! ### No name twice, nothing without a round to go -/

/-- No name stands twice. -/
def Single (set : ConditionSet) : Prop :=
  (set.entries.map (·.name)).Pairwise fun first second => ¬Text.sameName first second

/-- Everything that stands has at least one round to go. -/
def Lasting (set : ConditionSet) : Prop :=
  ∀ condition ∈ set.entries, condition.duration ≠ .rounds 0

section Kept

variable {set : ConditionSet} {condition older : Condition} {name other : String}

theorem has_eq_false_iff :
    set.has name = false ↔ ∀ condition ∈ set.entries, ¬Text.sameName condition.name name := by
  simp [has, find?]

/-- An application of what stands already moves no name. -/
theorem names_updateFirst_extend (fits : Condition → Bool) (duration : Duration)
    (flag : Option String) (entries : List Condition) :
    (updateFirst fits (extend · duration flag) entries).map (·.name) = entries.map (·.name) :=
  map_updateFirst fits _ _ entries fun _ _ => rfl

theorem Single.apply (single : set.Single) (name : String) (duration : Duration)
    (flag : Option String) : (set.apply name duration flag).Single := by
  unfold ConditionSet.apply
  split
  case isTrue =>
    unfold Single
    rwa [names_updateFirst_extend]
  case isFalse absent =>
    split
    · exact single
    · have fresh := has_eq_false_iff.mp (Bool.eq_false_iff.mpr absent)
      simp only [Single, List.map_append, List.pairwise_append]
      refine ⟨single, by simp, ?_⟩
      simpa using fresh

theorem Single.remove (single : set.Single) (name : String) : (set.remove name).Single :=
  single.sublist (List.eraseP_sublist.map _)

theorem name_of_older? (later : older? condition = some older) : older.name = condition.name := by
  grind [older?]

theorem duration_older? (condition : Condition) :
    (older? condition).map (·.duration) = condition.duration.older? := by
  grind [older?, Duration.older?]

theorem names_tick_sublist (entries : List Condition) :
    ((entries.filterMap older?).map (·.name)).Sublist (entries.map (·.name)) := by
  induction entries with
  | nil => simp
  | cons condition rest hyp =>
    rcases later : older? condition with _ | older
    · simpa [later] using hyp.cons condition.name
    · simpa [later, name_of_older? later] using hyp

theorem Single.tick (single : set.Single) : set.tick.Single :=
  single.sublist (names_tick_sublist set.entries)

theorem Single.on (single : set.Single) (step : Step) : (set.on step).Single := by
  cases step with
  | apply name duration flag => exact single.apply name duration flag
  | remove name => exact single.remove name
  | tick => exact single.tick

/-- Only nothing is no longer than nothing. -/
theorem longest_ne_zero {old : Duration} (lasts : old ≠ .rounds 0) (new : Duration) :
    old.longest new ≠ .rounds 0 := by
  cases old <;> cases new <;> simp_all [Duration.longest]

theorem Lasting.apply (lasting : set.Lasting) (name : String) (duration : Duration)
    (flag : Option String) : (set.apply name duration flag).Lasting := by
  unfold ConditionSet.apply
  split
  case isTrue =>
    intro condition mem
    rcases mem_updateFirst mem with old | ⟨old, found, rfl⟩
    · exact lasting condition old
    · exact longest_ne_zero (lasting old (List.mem_of_find?_eq_some found)) duration
  case isFalse =>
    split
    · exact lasting
    case isFalse lasts =>
      intro condition mem
      rcases List.mem_append.mp mem with old | new
      · exact lasting condition old
      · rw [List.mem_singleton.mp new]
        exact lasts

theorem Lasting.remove (lasting : set.Lasting) (name : String) : (set.remove name).Lasting :=
  fun condition mem => lasting condition (List.mem_of_mem_eraseP mem)

theorem Lasting.tick (set : ConditionSet) : set.tick.Lasting := by
  intro condition mem
  obtain ⟨younger, _, later⟩ := List.mem_filterMap.mp mem
  grind [older?]

theorem Lasting.on (lasting : set.Lasting) (step : Step) : (set.on step).Lasting := by
  cases step with
  | apply name duration flag => exact lasting.apply name duration flag
  | remove name => exact lasting.remove name
  | tick => exact Lasting.tick set

theorem single_after (steps : List Step) : (after steps).Single := by
  induction steps using List.reverseRecOn with
  | nil => exact .nil
  | append_singleton steps step hyp => exact after_append steps step ▸ hyp.on step

theorem lasting_after (steps : List Step) : (after steps).Lasting := by
  induction steps using List.reverseRecOn with
  | nil => exact nofun
  | append_singleton steps step hyp => exact after_append steps step ▸ hyp.on step

end Kept

/-! ### The time left under a name, step by step -/

section Remaining

variable {set : ConditionSet} {name other : String}

theorem sameName_left (same : Text.sameName name other) (third : String) :
    Text.sameName name third = Text.sameName other third := by
  have lower : Text.asciiLower name = Text.asciiLower other := by simpa [Text.sameName] using same
  simp [Text.sameName, lower]

theorem sameName_right (same : Text.sameName name other) (third : String) :
    Text.sameName third name = Text.sameName third other := by
  rw [Text.sameName_comm third, Text.sameName_comm third, sameName_left same]

/-- Under its own name a change is seen. -/
theorem find?_updateFirst_extend (name : String) (duration : Duration) (flag : Option String)
    (entries : List Condition) :
    (updateFirst (Text.sameName ·.name name) (extend · duration flag) entries).find?
        (Text.sameName ·.name name)
      = (entries.find? (Text.sameName ·.name name)).map (extend · duration flag) := by
  refine find?_updateFirst _ _ entries ?_
  intro condition _ fits
  simpa only [extend] using fits

theorem find?_sameName (same : Text.sameName other name) : set.find? other = set.find? name := by
  simp only [find?, sameName_right same]

/-- A change under one name is not seen under another. -/
theorem find?_updateFirst_other (apart : ¬Text.sameName other name) (duration : Duration)
    (flag : Option String) (entries : List Condition) :
    (updateFirst (Text.sameName ·.name other) (extend · duration flag) entries).find?
        (Text.sameName ·.name name)
      = entries.find? (Text.sameName ·.name name) := by
  induction entries with
  | nil => rfl
  | cons condition rest hyp =>
    by_cases hit : Text.sameName condition.name other
    · have miss : ¬Text.sameName condition.name name := sameName_left hit name ▸ apart
      simp [updateFirst, hit, miss, extend]
    · simp only [updateFirst, hit, Bool.false_eq_true, ↓reduceIte, List.find?_cons, hyp]

theorem remaining?_apply (set : ConditionSet) (other name : String) (duration : Duration)
    (flag : Option String) :
    (set.apply other duration flag).remaining? name
      = if Text.sameName other name then Duration.prolonged (set.remaining? name) duration
        else set.remaining? name := by
  unfold ConditionSet.apply
  split
  case isTrue present =>
    split
    case isTrue same =>
      obtain ⟨condition, found⟩ := Option.isSome_iff_exists.mp present
      have changed := find?_updateFirst_extend other duration flag set.entries
      simp only [find?] at found
      simp only [remaining?, find?, ← sameName_right same, changed, found]
      rfl
    case isFalse apart => simp only [remaining?, find?, find?_updateFirst_other apart]
  case isFalse absent =>
    have nothing : set.find? other = none := by simpa [has] using absent
    split
    case isTrue none =>
      split
      case isTrue same => simp [remaining?, ← find?_sameName same, nothing, none, Duration.prolonged]
      case isFalse => rfl
    case isFalse lasts =>
      split
      case isTrue same =>
        have absentHere : set.entries.find? (Text.sameName ·.name name) = none :=
          (find?_sameName same).symm.trans nothing
        simp [remaining?, find?, absentHere, same, Duration.prolonged_none lasts]
      case isFalse apart => simp [remaining?, find?, apart]

/-- Without its condition a name has no time left, since no name stood twice. -/
theorem remaining?_remove (single : set.Single) (other name : String) :
    (set.remove other).remaining? name
      = if Text.sameName other name then none else set.remaining? name := by
  obtain ⟨entries⟩ := set
  induction entries with
  | nil => simp [remove, remaining?, find?]
  | cons condition rest hyp =>
    obtain ⟨apart, singleRest⟩ := List.pairwise_cons.mp single
    by_cases hit : Text.sameName condition.name other
    case pos =>
      split
      case isTrue same =>
        have gone : (⟨rest⟩ : ConditionSet).find? name = none := by
          simp only [find?, List.find?_eq_none]
          intro later mem fits
          refine apart later.name (List.mem_map_of_mem mem) ?_
          rw [sameName_left hit, sameName_left same, Text.sameName_comm, fits]
        simpa [remove, remaining?, hit] using gone
      case isFalse ne =>
        have miss : ¬Text.sameName condition.name name := sameName_left hit name ▸ ne
        simp [remove, remaining?, find?, hit, miss]
    case neg =>
      have rest := hyp singleRest
      by_cases here : Text.sameName condition.name name
      case pos =>
        have ne : ¬Text.sameName other name := fun same => hit (sameName_right same _ ▸ here)
        simp [remove, remaining?, find?, hit, here, ne]
      case neg => simpa [remove, remaining?, find?, hit, here] using rest

/-- A round later every name has one round less, since no name stood twice. -/
theorem remaining?_tick (single : set.Single) (name : String) :
    set.tick.remaining? name = (set.remaining? name).bind Duration.older? := by
  obtain ⟨entries⟩ := set
  induction entries with
  | nil => simp [tick, remaining?, find?]
  | cons condition rest hyp =>
    obtain ⟨apart, singleRest⟩ := List.pairwise_cons.mp single
    have later := hyp singleRest
    by_cases hit : Text.sameName condition.name name
    case pos =>
      have alone : (⟨rest⟩ : ConditionSet).remaining? name = none := by
        simp only [remaining?, find?, Option.map_eq_none_iff, List.find?_eq_none]
        intro other mem fits
        refine apart other.name (List.mem_map_of_mem mem) ?_
        rw [sameName_left hit, Text.sameName_comm, fits]
      rw [alone] at later
      have length := duration_older? condition
      rcases eq : older? condition with _ | older
      case none =>
        rw [eq] at length
        simpa [tick, remaining?, find?, hit, eq, ← length] using later
      case some =>
        rw [eq] at length
        simp [tick, remaining?, find?, hit, eq, ← length, name_of_older? eq]
    case neg =>
      rcases eq : older? condition with _ | older
      case none => simpa [tick, remaining?, find?, hit, eq] using later
      case some => simpa [tick, remaining?, find?, hit, eq, name_of_older? eq] using later

end Remaining

/-! ### The time left, told from the history -/

/-- A step that ends whatever stands under a name. -/
def Step.removes (name : String) : Step → Bool
  | .remove other => Text.sameName other name
  | _ => false

/-- A step that applies a name for good. -/
def Step.settles (name : String) : Step → Bool
  | .apply other .permanent _ => Text.sameName other name
  | _ => false

/-- The steps after the last removal of a name. -/
def since (name : String) (steps : List Step) : List Step :=
  steps.rtakeWhile fun step => !step.removes name

/-- Each application of a name for a number of rounds, with what the ticks after it leave of
them. -/
def leftovers (name : String) : List Step → List Nat
  | [] => []
  | .apply other (.rounds count) _ :: later =>
    if Text.sameName other name then (count - later.count .tick) :: leftovers name later
    else leftovers name later
  | _ :: later => leftovers name later

/-- The time left under a name, told from the steps since its last removal: for good if it was so
applied, and otherwise as long as the application that has most left, if that is anything. -/
def expected? (name : String) (steps : List Step) : Option Duration :=
  if steps.any (·.settles name) then some .permanent
  else Duration.ofRounds? ((leftovers name steps).foldr max 0)

section History

variable {name other : String} {steps : List Step}

theorem since_append (name : String) (steps : List Step) (step : Step) :
    since name (steps ++ [step])
      = if step.removes name then [] else since name steps ++ [step] := by
  rw [since, List.rtakeWhile_concat]
  cases step.removes name <;> rfl

theorem leftovers_tick (name : String) (steps : List Step) :
    leftovers name (steps ++ [.tick]) = (leftovers name steps).map (· - 1) := by
  fun_induction leftovers name steps with
  | case1 => rfl
  | case2 other count flag later same hyp => simp [leftovers, same, hyp, Nat.sub_sub]
  | case3 other count flag later apart hyp => simp [leftovers, apart, hyp]
  | case4 step later noRounds hyp => simp [leftovers, hyp]

/-- Only ticks count against what was applied before. -/
theorem leftovers_append {step : Step} (noTick : step ≠ .tick) (name : String)
    (steps : List Step) :
    leftovers name (steps ++ [step]) = leftovers name steps ++ leftovers name [step] := by
  fun_induction leftovers name steps with
  | case1 => rfl
  | case2 other count flag later same hyp => simp [leftovers, same, hyp, noTick]
  | case3 other count flag later apart hyp => simp [leftovers, apart, hyp]
  | case4 step later noRounds hyp => simp [leftovers, hyp]

theorem most_map_pred (counts : List Nat) :
    (counts.map (· - 1)).foldr max 0 = counts.foldr max 0 - 1 := by
  induction counts with
  | nil => rfl
  | cons count rest hyp =>
    simp only [List.map_cons, List.foldr_cons, hyp]
    omega

theorem most_append (counts : List Nat) (count : Nat) :
    (counts ++ [count]).foldr max 0 = max (counts.foldr max 0) count := by
  induction counts with
  | nil => simp
  | cons first rest hyp =>
    simp only [List.cons_append, List.foldr_cons, hyp]
    omega

theorem expected?_tick (name : String) (steps : List Step) :
    expected? name (steps ++ [.tick]) = (expected? name steps).bind Duration.older? := by
  have settled : (steps ++ [Step.tick]).any (·.settles name) = steps.any (·.settles name) := by
    simp [Step.settles]
  simp only [expected?, settled, leftovers_tick, most_map_pred]
  split
  · rfl
  · exact (Duration.older?_ofRounds? _).symm

theorem expected?_same (same : Text.sameName other name) (duration : Duration)
    (flag : Option String) (steps : List Step) :
    expected? name (steps ++ [.apply other duration flag])
      = Duration.prolonged (expected? name steps) duration := by
  cases duration with
  | permanent =>
    have settled : (steps ++ [Step.apply other .permanent flag]).any (·.settles name) = true := by
      simp [Step.settles, same]
    rw [expected?, if_pos settled]
    cases expected? name steps with
    | none => rfl
    | some old => cases old <;> rfl
  | rounds count =>
    have settled : (steps ++ [Step.apply other (.rounds count) flag]).any (·.settles name)
        = steps.any (·.settles name) := by
      simp [Step.settles]
    have counts : leftovers name (steps ++ [.apply other (.rounds count) flag])
        = leftovers name steps ++ [count] := by
      simp [leftovers_append, leftovers, same]
    simp only [expected?, settled, counts, most_append]
    split
    · rfl
    · exact (Duration.prolonged_ofRounds? _ _).symm

/-- A step under another name tells nothing. -/
theorem expected?_other {step : Step} (noTick : step ≠ .tick) (silent : leftovers name [step] = [])
    (unsettled : step.settles name = false) (steps : List Step) :
    expected? name (steps ++ [step]) = expected? name steps := by
  simp [expected?, unsettled, leftovers_append noTick, silent]

/-- **The time left under a name is told by the steps since its last removal.** -/
theorem remaining?_after (name : String) (steps : List Step) :
    (after steps).remaining? name = expected? name (since name steps) := by
  induction steps using List.reverseRecOn with
  | nil => rfl
  | append_singleton steps step hyp =>
    rw [after_append, since_append]
    cases step with
    | apply other duration flag =>
      simp only [on, Step.removes, Bool.false_eq_true, ↓reduceIte, remaining?_apply, hyp]
      split
      case isTrue same => exact (expected?_same same duration flag _).symm
      case isFalse apart =>
        refine (expected?_other Step.noConfusion ?_ ?_ _).symm
        · cases duration <;> simp [leftovers, apart]
        · cases duration <;> simp [Step.settles, apart]
    | remove other =>
      rw [on, remaining?_remove (single_after steps), hyp, Step.removes]
      split
      · rfl
      · exact (expected?_other Step.noConfusion rfl rfl _).symm
    | tick =>
      simp only [on, Step.removes, Bool.false_eq_true, ↓reduceIte,
        remaining?_tick (single_after steps), hyp]
      exact (expected?_tick name _).symm

/-- What has exactly one round left is what a tick ends. -/
theorem expiring_of_lasting {set : ConditionSet} (lasting : set.Lasting) :
    set.expiring = set.entries.filter (·.duration = .rounds 1) := by
  refine List.filter_congr fun condition mem => ?_
  have lasts := lasting condition mem
  grind [older?]

/-- What a set of conditions holds after a history of steps. -/
structure Tells (steps : List Step) (set : ConditionSet) : Prop where
  /-- Every name has the time left that the steps since its last removal tell. -/
  remaining : ∀ name, set.remaining? name = expected? name (since name steps)
  /-- No name stands twice. -/
  single : set.entries.Pairwise fun first second => ¬Text.sameName first.name second.name
  /-- Nothing stands with no round to go. -/
  lasting : ∀ condition ∈ set.entries, condition.duration ≠ .rounds 0
  /-- With one more tick ends, in the order of the set, what has one round left. -/
  expiring : set.expiring = set.entries.filter (·.duration = .rounds 1)

/-- **After any history of applications, removals and ticks, the conditions are what the history
tells.** -/
theorem after_tells (steps : List Step) : Tells steps (after steps) where
  remaining name := remaining?_after name steps
  single := List.pairwise_map.mp (single_after steps)
  lasting := lasting_after steps
  expiring := expiring_of_lasting (lasting_after steps)

end History

end ConditionSet

end Skirmish
