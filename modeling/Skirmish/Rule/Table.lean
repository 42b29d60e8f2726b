/-
**Rule tables.** A rule fires on a text when it listens to the current hook and its matcher fires.
All rules of a table are asked in order.

* A rule that fails leaves a `Fault` behind; the rules after it are asked all the same.
* Once an action is aborted no rule is asked any more.
* `resolve_append`: resolving against one table followed by another is resolving against one and
  then the other.
-/

import Skirmish.Resolution
import Skirmish.Rule.Firing
import Skirmish.Rule.Matcher

namespace Skirmish

/-- A rule. -/
structure Rule where
  name : String
  matcher : Matcher
  /-- The hooks it listens to. -/
  hooks : List Hook
  /-- What it does when it fires. -/
  act : Firing → Resolve Unit

namespace Rule

/-- Ask a rule about a text. The answer is whether it fired. -/
def ask (rule : Rule) (text : String) : StateM Resolution Bool := fun before =>
  if rule.hooks.contains before.hook then
    match rule.matcher.find? text with
    | none => (false, before)
    | some finding =>
      match rule.act ⟨rule.name, text, finding⟩ before with
      | (.ok (), after) => (true, after)
      | (.error error, after) =>
        (true, { after with faults := after.faults ++ [⟨rule.name, text, error.message⟩] })
  else (false, before)

/-- Ask a list of rules in order, until the action is aborted. The answer is whether one fired. -/
def askAll : List Rule → String → StateM Resolution Bool
  | [], _ => fun before => (false, before)
  | rule :: rest, text => fun before =>
    if before.tally.aborted then (false, before)
    else
      let asked := rule.ask text before
      let later := askAll rest text asked.2
      (asked.1 || later.1, later.2)

theorem askAll_of_aborted (rules : List Rule) (text : String) (before : Resolution)
    (aborted : before.tally.aborted) : askAll rules text before = (false, before) := by
  cases rules with
  | nil => rfl
  | cons rule rest => simp [askAll, aborted]

theorem askAll_append (first second : List Rule) (text : String) (before : Resolution) :
    askAll (first ++ second) text before
      = let asked := askAll first text before
        let later := askAll second text asked.2
        (asked.1 || later.1, later.2) := by
  induction first generalizing before with
  | nil => rfl
  | cons rule rest hyp =>
    by_cases aborted : before.tally.aborted
    · simp [askAll, aborted, askAll_of_aborted]
    · simp [askAll, aborted, hyp, Bool.or_assoc]

end Rule

/-- Rules in the order in which they are asked. -/
structure RuleTable where
  rules : List Rule

namespace RuleTable

/-- No rules. -/
def empty : RuleTable := ⟨[]⟩

instance : Inhabited RuleTable := ⟨empty⟩

/-- The names of all rules. -/
def names (table : RuleTable) : List String := table.rules.map (·.name)

/-- A table followed by another. -/
def append (first second : RuleTable) : RuleTable := ⟨first.rules ++ second.rules⟩

instance : Append RuleTable := ⟨append⟩

/-- Resolve a text. Blank texts mean nothing. The answer is whether a rule fired. -/
def resolve (table : RuleTable) (text : String) : StateM Resolution Bool :=
  let text := Text.trim text
  if text.isEmpty then pure false else Rule.askAll table.rules text

theorem resolve_append (first second : RuleTable) (text : String) (before : Resolution) :
    (first ++ second).resolve text before
      = let asked := first.resolve text before
        let later := second.resolve text asked.2
        (asked.1 || later.1, later.2) := by
  show (first.append second).resolve text before = _
  unfold resolve append
  by_cases blank : (Text.trim text).isEmpty
  · simp only [blank, ↓reduceIte]
    rfl
  · simp only [blank]
    exact Rule.askAll_append _ _ _ _

/-- Resolve a text if there is one. -/
def resolveMaybe (table : RuleTable) : Option String → StateM Resolution Bool
  | some text => table.resolve text
  | none => pure false

/-- Resolve several texts in order, until the action is aborted. The answer is how many of them made
a rule fire. -/
def resolveAll (table : RuleTable) : List String → StateM Resolution Nat
  | [] => fun before => (0, before)
  | text :: rest => fun before =>
    if before.tally.aborted then (0, before)
    else
      let asked := table.resolve text before
      let later := table.resolveAll rest asked.2
      (if asked.1 then later.1 + 1 else later.1, later.2)

end RuleTable

end Skirmish
