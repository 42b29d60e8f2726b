/-
**Records and choices as data.** A record is an object with its fields as members, or an array with
the fields in their order. A choice is the name of the alternative, or an object with that name as
its only member.

* Members that are not fields are passed over; a field that occurs twice refuses the record.
* `Record.need` reads a field that must be there, `Record.maybe` one that may be absent or null, and
  `Record.orDefault` one with a default value.
-/

import Skirmish.Json.Value
import Skirmish.NameMap

namespace Skirmish.Json

/-- The fields found in the written form of a record. -/
structure Record where
  /-- The fields came with their names. -/
  named : Bool
  found : List (String × Value)

namespace Record

/-- The fields of a record, given all their names in order. -/
def read? (fields : List String) : Value → Option Record
  | .object members =>
    let found := members.filter (fields.contains ·.1)
    if (found.map (·.1)).eraseDups.length = found.length then some ⟨true, found⟩ else none
  | .array items =>
    if items.length ≤ fields.length then some ⟨false, fields.zip items⟩ else none
  | _ => none

variable {α : Type}

/-- A field that must be there. -/
def need (record : Record) (name : String) (read : Value → Option α) : Option α :=
  (record.found.lookup name).bind read

/-- A field that may be null, and absent where fields have names. -/
def maybe (record : Record) (name : String) (read : Value → Option α) : Option (Option α) :=
  match record.found.lookup name with
  | none => if record.named then some none else none
  | some .null => some none
  | some value => (read value).map some

/-- A field that takes a default value when absent. -/
def orDefault (record : Record) (name : String) (read : Value → Option α) (default : α) :
    Option α :=
  match record.found.lookup name with
  | none => some default
  | some value => read value

end Record

/-- The alternative that a value names, with what comes along with it. -/
def choice? : Value → Option (String × Option Value)
  | .text name => some (name, none)
  | .object [(name, content)] => some (name, some content)
  | _ => none

/-- An alternative without content. -/
def plain? (value : Value) : Option String :=
  match choice? value with
  | some (name, none) | some (name, some .null) => some name
  | _ => none

/-- A value among alternatives without content. -/
def oneOf? {α : Type} (alternatives : List (String × α)) (value : Value) : Option α :=
  (plain? value).bind fun name => alternatives.lookup name

/-- An object whose members all have values of one kind; of two with one name the later counts. -/
def map? {α : Type} (read : Value → Option α) : Value → Option (NameMap α)
  | .object members =>
    (members.mapM fun member => (read member.2).map fun value => (member.1, value)).map .ofList
  | _ => none

/-- A map as an object. -/
def ofMap {α : Type} (write : α → Value) (map : NameMap α) : Value :=
  .object (map.entries.map fun (name, value) => (name, write value))

end Skirmish.Json
