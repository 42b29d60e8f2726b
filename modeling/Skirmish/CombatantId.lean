/-
**Identities.** A combatant is known by 128 bits, written as 32 hexadecimal digits in five groups.
Messages show the first group only.

* Reading accepts the digits with or without their hyphens, and the hyphenated form in braces or
  after `urn:uuid:`; upper case counts as lower.
-/

import Skirmish.Text.Hex

namespace Skirmish

/-- The identity of a combatant. -/
structure CombatantId where
  bits : BitVec 128
deriving DecidableEq, Repr

namespace CombatantId

instance : Inhabited CombatantId := ⟨⟨0⟩⟩

/-- The 32 digits of an identity. -/
def digits (id : CombatantId) : List Char := Text.hexDigits 32 id.bits.toNat

/-- The first eight digits, which messages show. -/
def short (id : CombatantId) : String := String.ofList (id.digits.take 8)

/-- All digits, hyphenated. -/
def written (id : CombatantId) : String :=
  let part := fun start count => String.ofList ((id.digits.drop start).take count)
  "-".intercalate [part 0 8, part 8 4, part 12 4, part 16 4, part 20 12]

/-- The identity of 32 digits. -/
def ofDigits? (digits : List Char) : Option CombatantId :=
  if digits.length = 32 then (Text.hexNumber? digits).map fun value => ⟨BitVec.ofNat 128 value⟩
  else none

/-- The identity of five hyphenated groups. -/
def ofGroups? (chars : List Char) : Option CombatantId :=
  let hyphens := [8, 13, 18, 23]
  if chars.length = 36 ∧ hyphens.all fun place => chars[place]? == some '-' then
    let part := fun start count => (chars.drop start).take count
    ofDigits? (part 0 8 ++ part 9 4 ++ part 14 4 ++ part 19 4 ++ part 24 12)
  else none

/-- The identity that a text writes. -/
def parse? (text : String) : Option CombatantId :=
  let chars := text.toList
  match chars.length with
  | 32 => ofDigits? chars
  | 36 => ofGroups? chars
  | 38 =>
    if chars.head? = some '\x7b' ∧ chars.getLast? = some '\x7d' then
      ofGroups? ((chars.drop 1).take 36)
    else none
  | 45 => if chars.take 9 = "urn:uuid:".toList then ofGroups? (chars.drop 9) else none
  | _ => none

end CombatantId

end Skirmish
