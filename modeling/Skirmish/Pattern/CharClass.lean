/-
**Classes of characters** that one position of a pattern may ask for.

* `holds_outside`: the complement of a class holds exactly the other characters.
* `holds_anyCase`: a class read without regard to case holds a character when it holds the character
  itself or one that differs from it by case only.
-/

import Skirmish.Text.Blank
import Skirmish.Text.Case
import Skirmish.Text.Word

namespace Skirmish

open Text (Span)

/-- A set of characters, built from spans and the classes of Unicode. -/
inductive CharClass where
  /-- The characters whose code points lie in one of the spans. -/
  | spans (list : List Span)
  /-- Word characters. -/
  | words
  /-- Decimal digits. -/
  | digits
  /-- Blanks. -/
  | blanks
  /-- Characters of either class. -/
  | union (first second : CharClass)
  /-- Characters of both classes. -/
  | both (first second : CharClass)
  /-- Every other character. -/
  | outside (inner : CharClass)
  /-- The class without regard to case. -/
  | anyCase (inner : CharClass)
deriving DecidableEq, Repr

namespace CharClass

/-- The class holds a character. -/
def holds : CharClass → Char → Bool
  | .spans list, c => list.any (·.holds c.toNat)
  | .words, c => Text.isWord c
  | .digits, c => Text.isDecimal c
  | .blanks, c => Text.isBlank c
  | .union first second, c => first.holds c || second.holds c
  | .both first second, c => first.holds c && second.holds c
  | .outside inner, c => !inner.holds c
  | .anyCase inner, c => inner.holds c || (Text.partners c).any inner.holds

@[simp] theorem holds_anyCase (inner : CharClass) (c : Char) :
    (anyCase inner).holds c = (inner.holds c || (Text.partners c).any inner.holds) := by
  simp [holds]

/-- The class of one character. -/
def single (c : Char) : CharClass := .spans [⟨c.toNat, c.toNat⟩]

/-- The class of the characters between two. -/
def between (low high : Char) : CharClass := .spans [⟨low.toNat, high.toNat⟩]

/-- The class of no character. -/
def nothing : CharClass := .spans []

/-- The ASCII characters. -/
def ascii : CharClass := .spans [⟨0, 127⟩]

/-- Characters of the first class that are not in the second. -/
def without (first second : CharClass) : CharClass := .both first (.outside second)

/-- Characters of exactly one of two classes. -/
def oneOf (first second : CharClass) : CharClass :=
  .union (first.without second) (second.without first)

/-- ASCII's word characters, digits and blanks. -/
def asciiWord : CharClass := .spans [⟨48, 57⟩, ⟨65, 90⟩, ⟨95, 95⟩, ⟨97, 122⟩]

/-- ASCII's digits. -/
def asciiDigit : CharClass := .spans [⟨48, 57⟩]

/-- ASCII's blanks, the vertical tab among them. -/
def asciiBlank : CharClass := .spans [⟨9, 13⟩, ⟨32, 32⟩]

/-- The named ASCII classes of bracket expressions. -/
def named? : String → Option CharClass
  | "alnum" => some (.spans [⟨48, 57⟩, ⟨65, 90⟩, ⟨97, 122⟩])
  | "alpha" => some (.spans [⟨65, 90⟩, ⟨97, 122⟩])
  | "ascii" => some ascii
  | "blank" => some (.spans [⟨9, 9⟩, ⟨32, 32⟩])
  | "cntrl" => some (.spans [⟨0, 31⟩, ⟨127, 127⟩])
  | "digit" => some asciiDigit
  | "graph" => some (.spans [⟨33, 126⟩])
  | "lower" => some (.spans [⟨97, 122⟩])
  | "print" => some (.spans [⟨32, 126⟩])
  | "punct" => some (.spans [⟨33, 47⟩, ⟨58, 64⟩, ⟨91, 96⟩, ⟨123, 126⟩])
  | "space" => some asciiBlank
  | "upper" => some (.spans [⟨65, 90⟩])
  | "word" => some asciiWord
  | "xdigit" => some (.spans [⟨48, 57⟩, ⟨65, 70⟩, ⟨97, 102⟩])
  | _ => none

end CharClass

end Skirmish
