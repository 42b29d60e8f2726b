/-
**Search patterns.** A pattern describes stretches of a text. Where it can match in several ways the
alternatives are ordered, and the first one wins: the left side of a choice before the right, one
more turn of a loop before leaving it, or the other way round for a reluctant loop.

The few forms of `Pattern` suffice for the rest: an optional part is a choice with the empty
pattern, a star is an optional loop, and a counted repetition is a sequence of copies.
-/

import Skirmish.Pattern.CharClass

namespace Skirmish

/-- A condition on a place in a text, between two characters or at an end. -/
inductive Place where
  | textStart
  | textEnd
  /-- The start of a line; a carriage return ends a line too when `returns` is set. -/
  | lineStart (returns : Bool)
  /-- The end of a line. -/
  | lineEnd (returns : Bool)
  /-- Exactly one of the two neighbours is in the class of word characters. -/
  | boundary (word : CharClass)
  /-- Both neighbours are, or neither. -/
  | inside (word : CharClass)
  /-- A word starts here. -/
  | wordStart (word : CharClass)
  /-- A word ends here. -/
  | wordEnd (word : CharClass)
  /-- No word stands before. -/
  | noWordBefore (word : CharClass)
  /-- No word stands after. -/
  | noWordAfter (word : CharClass)
deriving DecidableEq, Repr

/-- The character before place `i`. -/
def charBefore? (text : Array Char) (i : Nat) : Option Char :=
  if i = 0 then none else text[i - 1]?

/-- The condition holds at place `i` of a text. -/
def Place.holds (text : Array Char) (i : Nat) : Place → Bool
  | .textStart => i == 0
  | .textEnd => i == text.size
  | .lineStart returns =>
    match charBefore? text i with
    | none => true
    | some c => c == '\n' || (returns && c == '\r' && text[i]? != some '\n')
  | .lineEnd returns =>
    match text[i]? with
    | none => true
    | some c =>
      if returns then c == '\r' || (c == '\n' && charBefore? text i != some '\r') else c == '\n'
  | .boundary word => before word != after word
  | .inside word => before word == after word
  | .wordStart word => !before word && after word
  | .wordEnd word => before word && !after word
  | .noWordBefore word => !before word
  | .noWordAfter word => !after word
where
  before (word : CharClass) : Bool := (charBefore? text i).any word.holds
  after (word : CharClass) : Bool := text[i]?.any word.holds

/-- A search pattern. -/
inductive Pattern where
  /-- Matches nothing, anywhere. -/
  | empty
  /-- One character of a class. -/
  | char (set : CharClass)
  /-- A condition on the place. -/
  | place (condition : Place)
  /-- One pattern and then another. -/
  | sequence (first second : Pattern)
  /-- One pattern or another, the first preferred. -/
  | either (first second : Pattern)
  /-- A pattern once or more often, further turns preferred when greedy. -/
  | loop (greedy : Bool) (body : Pattern)
  /-- A pattern whose stretch is kept under a name. -/
  | group (name : String) (body : Pattern)
deriving DecidableEq, Repr

namespace Pattern

/-- A pattern or nothing. -/
def optional (greedy : Bool) (body : Pattern) : Pattern :=
  if greedy then .either body .empty else .either .empty body

/-- A pattern any number of times. -/
def star (greedy : Bool) (body : Pattern) : Pattern := optional greedy (.loop greedy body)

/-- A pattern a fixed number of times. -/
def copies (body : Pattern) : Nat → Pattern
  | 0 => .empty
  | 1 => body
  | n + 1 => .sequence (copies body n) body

/-- A pattern up to a number of times. -/
def upTo (greedy : Bool) (body : Pattern) : Nat → Pattern
  | 0 => .empty
  | 1 => optional greedy body
  | n + 1 => optional greedy (.sequence body (upTo greedy body n))

/-- A pattern at least `low` times, and at most `high` times where that is given. -/
def counted (greedy : Bool) (low : Nat) (high : Option Nat) (body : Pattern) : Pattern :=
  match low, high with
  | 0, none => star greedy body
  | low + 1, none => .sequence (copies body low) (.loop greedy body)
  | low, some high => .sequence (copies body low) (upTo greedy body (high - low))

end Pattern

end Skirmish
