/-
**Writing JSON text**, on one line, without blanks, every character outside printable ASCII escaped.
-/

import Skirmish.Json.Value
import Skirmish.Text.Hex

namespace Skirmish.Json

/-- The escape of one unit of sixteen bits. -/
def unitEscape (unit : Nat) : List Char := '\\' :: 'u' :: Text.hexDigits 4 unit

/-- One character of a text as it is written. -/
def charEscape (c : Char) : List Char :=
  let code := c.toNat
  if c == '"' then ['\\', '"']
  else if c == '\\' then ['\\', '\\']
  else if 32 ≤ code ∧ code < 127 then [c]
  else if code < 0x10000 then unitEscape code
  else unitEscape (0xD800 + (code - 0x10000) / 0x400) ++ unitEscape (0xDC00 + code % 0x400)

/-- A text in quotes. -/
def quoted (text : String) : String :=
  String.ofList ('"' :: text.toList.flatMap charEscape ++ ['"'])

mutual

/-- A value as text. -/
def Value.render : Value → String
  | .null => "null"
  | .bool true => "true"
  | .bool false => "false"
  | .int value => toString value
  | .fraction text => text
  | .text value => quoted value
  | .array items => "[" ++ ",".intercalate (renderItems items) ++ "]"
  | .object members => "\x7b" ++ ",".intercalate (renderMembers members) ++ "\x7d"

/-- The items of an array as texts. -/
def renderItems : List Value → List String
  | [] => []
  | item :: rest => item.render :: renderItems rest

/-- The members of an object as texts. -/
def renderMembers : List (String × Value) → List String
  | [] => []
  | (name, value) :: rest => (quoted name ++ ":" ++ value.render) :: renderMembers rest

end

end Skirmish.Json
