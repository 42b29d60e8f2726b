/-
**Words and digits**, as text search sees them: a word character is a letter, mark, digit, joiner or
connecting sign of any script, and a digit is a decimal digit of any script.
-/

import Skirmish.Text.WordTable

namespace Skirmish.Text

/-- A character that words are made of. -/
def isWord (c : Char) : Bool :=
  if c.toNat < 128 then c.isAlphanum || c == '_' else wordSpans.any (·.holds c.toNat)

/-- A decimal digit of any script. -/
def isDecimal (c : Char) : Bool :=
  if c.toNat < 128 then c.isDigit else digitSpans.any (·.holds c.toNat)

end Skirmish.Text
