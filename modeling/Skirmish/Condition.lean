/-
**Conditions.** A condition has a name, a time it lasts and possibly a flag that its owner carries
while it does. A condition that is applied again lasts the longer of the two times; it never stands
twice in a set.

* Names are compared without regard to ASCII case.
* `ConditionSet.tick` takes one round from every condition that is counted, and drops those that
  reach zero.
-/

import Skirmish.FirstMatch
import Skirmish.Text.Case

namespace Skirmish

/-- How long a condition lasts. -/
inductive Duration where
  | rounds (count : Nat)
  | permanent
deriving DecidableEq, Repr

namespace Duration

/-- The longer of two durations. -/
def longest : Duration → Duration → Duration
  | .rounds first, .rounds second => .rounds (max first second)
  | _, _ => .permanent

/-- A duration as it is shown. -/
def text : Duration → String
  | .rounds count => s!"{count} round(s)"
  | .permanent => "permanent"

end Duration

/-- A condition with the time it still lasts. -/
structure Condition where
  name : String
  duration : Duration
  /-- The flag that goes when the condition does. -/
  flag : Option String
deriving DecidableEq, Repr

/-- The conditions of one combatant, oldest first. -/
structure ConditionSet where
  entries : List Condition
deriving DecidableEq, Repr

namespace ConditionSet

/-- No conditions. -/
def empty : ConditionSet := ⟨[]⟩

instance : Inhabited ConditionSet := ⟨empty⟩

/-- The condition of a name. -/
def find? (set : ConditionSet) (name : String) : Option Condition :=
  set.entries.find? (Text.sameName ·.name name)

/-- A condition of that name is active. -/
def has (set : ConditionSet) (name : String) : Bool := (set.find? name).isSome

/-- How long the condition of a name still lasts. -/
def remaining? (set : ConditionSet) (name : String) : Option Duration :=
  (set.find? name).map (·.duration)

/-- A condition that is applied again: it lasts the longer time and keeps the flag it had. -/
def extend (condition : Condition) (duration : Duration) (flag : Option String) : Condition :=
  { condition with
    duration := condition.duration.longest duration
    flag := condition.flag.or flag }

/-- The set with a condition applied. -/
def apply (set : ConditionSet) (name : String) (duration : Duration) (flag : Option String) :
    ConditionSet :=
  if set.has name then
    ⟨updateFirst (Text.sameName ·.name name) (extend · duration flag) set.entries⟩
  else if duration = .rounds 0 then set
  else ⟨set.entries ++ [⟨name, duration, flag⟩]⟩

/-- The set without the condition of a name. -/
def remove (set : ConditionSet) (name : String) : ConditionSet :=
  ⟨set.entries.eraseP (Text.sameName ·.name name)⟩

/-- The condition one round later, unless it has run out. -/
def older? (condition : Condition) : Option Condition :=
  match condition.duration with
  | .permanent => some condition
  | .rounds count =>
    if count ≤ 1 then none else some { condition with duration := .rounds (count - 1) }

/-- The conditions that run out with this round. -/
def expiring (set : ConditionSet) : List Condition :=
  set.entries.filter fun condition => (older? condition).isNone

/-- The set one round later. -/
def tick (set : ConditionSet) : ConditionSet := ⟨set.entries.filterMap older?⟩

end ConditionSet

end Skirmish
