/-
**Weight of patterns.** A counted repetition stands for as many copies of its part, so a short text
can describe a huge pattern. The weight of a pattern estimates the bytes of the automaton that would
recognise it, and patterns above `mostWeight` are refused.
-/

import Skirmish.Pattern.Basic

namespace Skirmish

/-- The bytes that recognise one character of a class: the more spans of Unicode it has, the more
ways of encoding its characters have to be told apart. -/
def CharClass.weight : CharClass → Nat
  | .spans list => 64 + 8 * list.length
  | .words => 47100
  | .digits => 4500
  | .blanks => 680
  | .union first second => first.weight + second.weight
  | .both first second => first.weight + second.weight
  | .outside inner => inner.weight + 320
  | .anyCase inner => inner.weight + 8

namespace Pattern

/-- The bytes that recognise a pattern. -/
def weight : Pattern → Nat
  | .empty | .place _ => 32
  | .char set => set.weight + 1
  | .sequence first second => first.weight + second.weight
  | .either first second => first.weight + second.weight + 40
  | .loop _ body => body.weight + 40
  | .group _ body => body.weight + 64

/-- The weight above which patterns are refused: ten mebibytes. -/
def mostWeight : Nat := 10485760

/-- A pattern that can match nothing but the empty stretch, so that repeating it adds nothing. -/
def isEmptyOnly : Pattern → Bool
  | .empty | .place _ => true
  | .char _ => false
  | .sequence first second | .either first second => first.isEmptyOnly && second.isEmptyOnly
  | .loop _ body | .group _ body => body.isEmptyOnly

end Pattern

end Skirmish
