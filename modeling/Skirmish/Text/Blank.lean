/-
**Blank characters.** Blanks are the twenty-five characters with the Unicode property *white space*:
the ASCII blanks, the next-line sign, and the spaces and separators of other scripts. `trim` drops
blanks at both ends; `pieces` cuts a text at its blanks.
-/

namespace Skirmish.Text

/-- A character with the property *white space*. -/
def isBlank (c : Char) : Bool :=
  let code := c.toNat
  (9 ≤ code && code ≤ 13) || code == 32 || code == 0x85 || code == 0xA0 || code == 0x1680 ||
    (0x2000 ≤ code && code ≤ 0x200A) || code == 0x2028 || code == 0x2029 || code == 0x202F ||
    code == 0x205F || code == 0x3000

/-- The characters without the blanks at either end. -/
def trimChars (chars : List Char) : List Char :=
  ((chars.dropWhile isBlank).reverse.dropWhile isBlank).reverse

/-- A text without the blanks at either end. -/
def trim (text : String) : String := String.ofList (trimChars text.toList)

/-- The characters without any blanks. -/
def withoutBlanks (chars : List Char) : List Char := chars.filter (!isBlank ·)

/-- The stretches of characters between blanks, none of them empty. -/
def pieces (chars : List Char) : List (List Char) :=
  let (current, done) := chars.foldr (fun c (current, done) =>
    if isBlank c then ([], if current.isEmpty then done else current :: done)
    else (c :: current, done)) ([], [])
  if current.isEmpty then done else current :: done

/-- The pieces of a text with one space between them. -/
def singleSpaced (text : String) : String :=
  " ".intercalate ((pieces text.toList).map String.ofList)

end Skirmish.Text
