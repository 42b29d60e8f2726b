/-
**Matchers.** A matcher fires on a text in which its trigger occurs and none of its vetoes does. All
its patterns disregard case.

* `find?_isSome_iff`: exactly those texts.
-/

import Skirmish.Error
import Skirmish.Pattern.Reader
import Skirmish.Pattern.Search

namespace Skirmish

/-- A trigger and the patterns that veto it. -/
structure Matcher where
  /-- The trigger as it was written. -/
  source : String
  trigger : Pattern
  vetoes : List Pattern
deriving DecidableEq, Repr

namespace Matcher

/-- A pattern that disregards case. -/
def pattern (text : String) : Except Error Pattern :=
  match Pattern.parse? true text with
  | some pattern => .ok pattern
  | none => .error .invalidPattern

/-- The matcher of a written trigger and written vetoes. -/
def ofTexts (trigger : String) (vetoes : List String) : Except Error Matcher := do
  return ⟨trigger, ← pattern trigger, ← vetoes.mapM pattern⟩

/-- What the trigger finds in a text, unless a veto occurs in it. -/
def find? (matcher : Matcher) (text : String) : Option Finding :=
  if matcher.vetoes.any (·.occurs text) then none else matcher.trigger.search text

/-- The matcher fires on a text. -/
def matchesText (matcher : Matcher) (text : String) : Bool := (matcher.find? text).isSome

theorem find?_isSome_iff (matcher : Matcher) (text : String) :
    (matcher.find? text).isSome
      ↔ matcher.trigger.occurs text ∧ ∀ veto ∈ matcher.vetoes, veto.occurs text = false := by
  unfold find?
  by_cases vetoed : matcher.vetoes.any (·.occurs text)
  · simp only [vetoed, ↓reduceIte, Option.isSome_none, Bool.false_eq_true, false_iff, not_and]
    intro _ none
    obtain ⟨veto, mem, occurs⟩ := List.any_eq_true.mp vetoed
    exact absurd ((none veto mem).symm.trans occurs) (by simp)
  · simp only [vetoed, Bool.false_eq_true, ↓reduceIte]
    simp only [List.any_eq_true, not_exists, not_and, Bool.not_eq_true] at vetoed
    exact ⟨fun found => ⟨found, vetoed⟩, fun both => both.1⟩

end Matcher

end Skirmish
