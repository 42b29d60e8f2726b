/-
**Data values.** The values of JSON text. An object keeps its members as they were written, also
when a name occurs twice; a number is either a whole number or a text that is not one.
-/

namespace Skirmish.Json

/-- A data value. -/
inductive Value where
  | null
  | bool (value : Bool)
  | int (value : Int)
  /-- A number written with a fraction, an exponent or as minus zero. -/
  | fraction (text : String)
  | text (value : String)
  | array (items : List Value)
  | object (members : List (String × Value))
deriving Repr, Inhabited

namespace Value

/-- A number. -/
def nat (value : Nat) : Value := .int value

/-- A value or null. -/
def ofOption {α : Type} (write : α → Value) : Option α → Value
  | some value => write value
  | none => .null

/-- A list of values. -/
def list {α : Type} (write : α → Value) (items : List α) : Value := .array (items.map write)

/-- A list of texts. -/
def texts (items : List String) : Value := list .text items

/-- The text of a value, if it is one. -/
def text? : Value → Option String
  | .text value => some value
  | _ => none

/-- The items of a value, if it is an array. -/
def items? : Value → Option (List Value)
  | .array items => some items
  | _ => none

/-- The truth value of a value, if it is one. -/
def bool? : Value → Option Bool
  | .bool value => some value
  | _ => none

/-- The whole number of a value, if it lies in a range. -/
def intIn? (low high : Int) : Value → Option Int
  | .int value => if low ≤ value ∧ value ≤ high then some value else none
  | _ => none

/-- The natural number of a value, up to a greatest one. -/
def natUpTo? (greatest : Nat) (value : Value) : Option Nat :=
  (value.intIn? 0 greatest).map Int.toNat

/-- The list of a value's items, each read by `read`. -/
def list? {α : Type} (read : Value → Option α) (value : Value) : Option (List α) :=
  value.items?.bind (·.mapM read)

/-- The first member of a name. -/
def member? (value : Value) (name : String) : Option Value :=
  match value with
  | .object members => members.lookup name
  | _ => none

end Value

end Skirmish.Json
