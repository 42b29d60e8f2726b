/-
**Letter case.** Two rules live side by side.

* Names are compared with ASCII case folded and all else exact (`sameName`).
* Effect text is lowered, raised and searched with the case rules of Unicode (`lowercase`,
  `capitalized`, `partners`). Lowering keeps a word's last sigma distinct: it becomes `ς` where a
  cased letter stands before it and none after.
-/

import Skirmish.Text.CaseTable

namespace Skirmish.Text

/-! ### Names -/

/-- ASCII letters lowered. -/
def asciiLower (text : String) : String := String.ofList (text.toList.map Char.toLower)

/-- Two names are the same up to ASCII case. -/
def sameName (first second : String) : Bool := asciiLower first == asciiLower second

theorem sameName_refl (name : String) : sameName name name = true := by
  simp [sameName]

theorem sameName_comm (first second : String) : sameName first second = sameName second first := by
  simp [sameName, Bool.beq_comm]

/-! ### One character -/

/-- The first image a list of runs gives a code point. -/
def imageIn (runs : List Run) (code : Nat) : Option Nat := runs.findSome? (·.image? code)

/-- One character in lower case. Only the capital I with a dot takes two. -/
def lowerChar (c : Char) : List Char :=
  if c.toNat < 128 then [c.toLower]
  else if c.toNat = 0x130 then ['i', Char.ofNat 0x307]
  else [((imageIn lowerRuns c.toNat).map Char.ofNat).getD c]

/-- One character in upper case. -/
def upperChar (c : Char) : List Char :=
  if c.toNat < 128 then [c.toUpper]
  else match upperExpansions.lookup c.toNat with
    | some codes => codes.map Char.ofNat
    | none => [((imageIn upperRuns c.toNat).map Char.ofNat).getD c]

/-- The character has a case. -/
def isCased (c : Char) : Bool :=
  if c.toNat < 128 then c.isAlpha else casedSpans.any (·.holds c.toNat)

/-- The rule for the last sigma looks through the character. -/
def isPassive (c : Char) : Bool := passiveSpans.any (·.holds c.toNat)

/-- The other characters that differ from `c` by case only. -/
def partners (c : Char) : List Char :=
  if c.toNat < 128 then
    if c == 'k' || c == 'K' then [if c.isLower then 'K' else 'k', Char.ofNat 0x212A]
    else if c == 's' || c == 'S' then [if c.isLower then 'S' else 's', Char.ofNat 0x17F]
    else if c.isLower then [c.toUpper]
    else if c.isUpper then [c.toLower]
    else []
  else partnerRuns.flatMap fun run =>
    ((run.image? c.toNat).toList ++ (run.source? c.toNat).toList).map Char.ofNat

/-! ### Whole texts -/

/-- The nearest character that is not passive has a case. -/
def meetsCased (chars : List Char) : Bool :=
  match chars.dropWhile isPassive with
  | c :: _ => isCased c
  | [] => false

/-- `rest` in lower case, where `before` is what precedes it, nearest character first. -/
def lowerAfter (before : List Char) : List Char → List Char
  | [] => []
  | c :: rest =>
    (if c.toNat = 0x3A3 then
        [Char.ofNat (if meetsCased before && !meetsCased rest then 0x3C2 else 0x3C3)]
      else lowerChar c)
      ++ lowerAfter (c :: before) rest

/-- Characters in lower case. -/
def lowerChars (chars : List Char) : List Char := lowerAfter [] chars

/-- A text in lower case. -/
def lowercase (text : String) : String := String.ofList (lowerChars text.toList)

/-- A piece with its first character in upper case. -/
def capitalized : List Char → List Char
  | [] => []
  | c :: rest => upperChar c ++ rest

/-- `needle` stands somewhere in `chars`. -/
def occursIn (needle : List Char) : List Char → Bool
  | [] => needle.isEmpty
  | c :: rest => needle.isPrefixOf (c :: rest) || occursIn needle rest

end Skirmish.Text
