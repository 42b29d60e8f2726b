/-
**Reading JSON text.** The grammar is the strict one: no comments, no trailing commas, no leading
zeros, no unescaped control characters, and no half of a surrogate pair on its own.

* `parse?` reads a text that holds one value and blanks around it, or refuses it.
-/

import Skirmish.Json.Value
import Skirmish.Text.Hex

namespace Skirmish.Json

/-- The characters after leading blanks. -/
def dropBlanks (chars : List Char) : List Char :=
  chars.dropWhile fun c => c == ' ' || c == '\n' || c == '\r' || c == '\t'

/-- Four hexadecimal digits and what follows them. -/
def fourDigits? (chars : List Char) : Option (Nat × List Char) :=
  match chars with
  | a :: b :: c :: d :: rest => (Text.hexNumber? [a, b, c, d]).map (·, rest)
  | _ => none

/-- The character of an escape, after its backslash, and what follows. -/
def escape? : List Char → Option (Char × List Char)
  | '"' :: rest => some ('"', rest)
  | '\\' :: rest => some ('\\', rest)
  | '/' :: rest => some ('/', rest)
  | 'b' :: rest => some ('\x08', rest)
  | 'f' :: rest => some ('\x0c', rest)
  | 'n' :: rest => some ('\n', rest)
  | 'r' :: rest => some ('\r', rest)
  | 't' :: rest => some ('\t', rest)
  | 'u' :: rest => do
    let (high, rest) ← fourDigits? rest
    if 0xD800 ≤ high ∧ high < 0xDC00 then
      match rest with
      | '\\' :: 'u' :: rest =>
        let (low, rest) ← fourDigits? rest
        if 0xDC00 ≤ low ∧ low < 0xE000 then
          some (Char.ofNat (0x10000 + (high - 0xD800) * 0x400 + (low - 0xDC00)), rest)
        else none
      | _ => none
    else if 0xDC00 ≤ high ∧ high < 0xE000 then none
    else some (Char.ofNat high, rest)
  | _ => none

/-- The rest of a text after its opening quote, with the characters so far in reverse. -/
def textRest? : (fuel : Nat) → (soFar : List Char) → List Char → Option (String × List Char)
  | 0, _, _ => none
  | fuel + 1, soFar, chars =>
    match chars with
    | [] => none
    | '"' :: rest => some (String.ofList soFar.reverse, rest)
    | '\\' :: rest => do
      let (c, rest) ← escape? rest
      textRest? fuel (c :: soFar) rest
    | c :: rest => if c.toNat < 32 then none else textRest? fuel (c :: soFar) rest

/-- The digits at the front, at least one of them, and what follows. -/
def digits? (chars : List Char) : Option (List Char × List Char) :=
  let digits := chars.takeWhile (·.isDigit)
  if digits.isEmpty then none else some (digits, chars.drop digits.length)

/-- The fraction and exponent of a number, each possibly empty, and what follows. -/
def fraction? (chars : List Char) : Option (List Char × List Char) := do
  let (fraction, rest) ← match chars with
    | '.' :: rest => (digits? rest).map fun (digits, rest) => ('.' :: digits, rest)
    | _ => some ([], chars)
  let (exponent, rest) ← match rest with
    | c :: after =>
      if c == 'e' || c == 'E' then
        let (sign, after) := match after with
          | '+' :: after => (['+'], after)
          | '-' :: after => (['-'], after)
          | _ => ([], after)
        (digits? after).map fun (digits, rest) => (c :: sign ++ digits, rest)
      else some ([], rest)
    | [] => some ([], rest)
  return (fraction ++ exponent, rest)

/-- A number and what follows it. -/
def number? (chars : List Char) : Option (Value × List Char) := do
  let negative := chars.head? == some '-'
  let (digits, rest) ← digits? (if negative then chars.tail else chars)
  if digits.length > 1 && digits.head? == some '0' then none
  let (fraction, rest) ← fraction? rest
  let sign := if negative then ['-'] else []
  let value : Nat := digits.foldl (fun value c => 10 * value + (c.toNat - 48)) 0
  if !fraction.isEmpty || (negative && value == 0) then
    return (.fraction (String.ofList (sign ++ digits ++ fraction)), rest)
  else return (.int (if negative then -(value : Int) else value), rest)

/-- A fixed word and what follows it. -/
def word? (word : String) (value : Value) (chars : List Char) : Option (Value × List Char) :=
  if word.toList.isPrefixOf chars then some (value, chars.drop word.length) else none

mutual

/-- A value and what follows it. Every call passes over a character, so `fuel` need not exceed
twice their number. -/
def value? : (fuel : Nat) → List Char → Option (Value × List Char)
  | 0, _ => none
  | fuel + 1, chars =>
    match dropBlanks chars with
    | '\x7b' :: rest =>
      match dropBlanks rest with
      | '\x7d' :: rest => some (.object [], rest)
      | rest => (members? fuel rest).map fun (members, rest) => (.object members, rest)
    | '[' :: rest =>
      match dropBlanks rest with
      | ']' :: rest => some (.array [], rest)
      | rest => (items? fuel rest).map fun (items, rest) => (.array items, rest)
    | '"' :: rest =>
      (textRest? (rest.length + 1) [] rest).map fun (text, rest) => (.text text, rest)
    | 'n' :: rest => word? "ull" .null rest
    | 't' :: rest => word? "rue" (.bool true) rest
    | 'f' :: rest => word? "alse" (.bool false) rest
    | rest => number? rest

/-- The items of an array up to its end, at least one. -/
def items? : (fuel : Nat) → List Char → Option (List Value × List Char)
  | 0, _ => none
  | fuel + 1, chars => do
    let (first, rest) ← value? fuel chars
    match dropBlanks rest with
    | ']' :: rest => return ([first], rest)
    | ',' :: rest =>
      let (others, rest) ← items? fuel rest
      return (first :: others, rest)
    | _ => none

/-- The members of an object up to its end, at least one. -/
def members? : (fuel : Nat) → List Char → Option (List (String × Value) × List Char)
  | 0, _ => none
  | fuel + 1, chars => do
    match dropBlanks chars with
    | '"' :: rest =>
      let (name, rest) ← textRest? (rest.length + 1) [] rest
      match dropBlanks rest with
      | ':' :: rest =>
        let (first, rest) ← value? fuel rest
        match dropBlanks rest with
        | '\x7d' :: rest => return ([(name, first)], rest)
        | ',' :: rest =>
          let (others, rest) ← members? fuel rest
          return ((name, first) :: others, rest)
        | _ => none
      | _ => none
    | _ => none

end

/-- The value that a text holds. -/
def parse? (text : String) : Option Value := do
  let chars := text.toList
  let (value, rest) ← value? (2 * chars.length + 1) chars
  if (dropBlanks rest).isEmpty then some value else none

end Skirmish.Json
