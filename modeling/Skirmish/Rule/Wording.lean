/-
**The words of effect text**: damage types, the conditions that the standard rules know, and how
long an effect lasts.
-/

import Skirmish.Condition
import Skirmish.Pattern.Reader
import Skirmish.Pattern.Search
import Skirmish.Text.Numeral

namespace Skirmish

/-! ### Damage types -/

/-- The damage types, as alternatives of a pattern. -/
def damageTypes : String :=
  "fire|cold|frost|lightning|thunder|acid|poison|necrotic|radiant|psychic|force|physical|" ++
    "slashing|piercing|bludgeoning"

/-- Dice or a plain number, as a pattern. -/
def amountPattern : String := r"\d*d\d+(?:\s*[+-]\s*\d+)?|\d+"

/-- A text with every word capitalized and one space between words. -/
def titleCase (chars : List Char) : String :=
  " ".intercalate ((Text.pieces chars).map fun piece => String.ofList (Text.capitalized piece))

/-- A damage type as it is shown; frost counts as cold. -/
def canonicalDamageType (raw : String) : String :=
  let lower := Text.lowerChars (Text.trimChars raw.toList)
  if lower = "frost".toList then "Cold" else titleCase lower

/-! ### Conditions -/

/-- A condition that effect text can name. -/
structure KnownCondition where
  /-- The name it has on a combatant. -/
  name : String
  /-- How words for it begin. -/
  stem : String
  /-- The pattern of text that applies it. -/
  trigger : String
  /-- The flag that comes with it. -/
  flag : Option String := none
  /-- It goes to whoever acts. -/
  onSelf : Bool := false
deriving DecidableEq, Repr

/-- The conditions that effect text can name. -/
def knownConditions : List KnownCondition :=
  [{ name := "Stunned", stem := "stun", trigger := r"\bstun(?:s|ned)?\b", flag := some "stunned" },
    { name := "Paralyzed", stem := "paraly", trigger := r"\bparaly[sz](?:e|es|ed|is)\b",
      flag := some "paralyzed" },
    { name := "Prone", stem := "prone", trigger := r"\bprone\b" },
    { name := "Frightened", stem := "fright",
      trigger := r"\b(?:frighten(?:s|ed)?|terrif(?:y|ies|ied))\b" },
    { name := "Poisoned", stem := "poison", trigger := r"\bpoison(?:s|ed)?\b" },
    { name := "Blinded", stem := "blind", trigger := r"\bblind(?:s|ed)?\b" },
    { name := "Restrained", stem := "restrain",
      trigger := r"\b(?:restrain(?:s|ed)?|entangle(?:s|d)?|grapple(?:s|d)?)\b" },
    { name := "Slowed", stem := "slow", trigger := r"\bslow(?:s|ed)?\b" },
    { name := "Burning", stem := "burn",
      trigger := r"\b(?:sets?\s+(?:\w+\s+)?(?:on\s+fire|ablaze)|burning)\b" },
    { name := "Bleeding", stem := "bleed", trigger := r"\bbleed(?:s|ing)?\b" },
    { name := "Hidden", stem := "hid",
      trigger := r"\b(?:becomes?\s+hidden|vanish(?:es)?|turns?\s+invisible)\b",
      flag := some "hidden", onSelf := true }]

/-- The condition that a word names: by its whole name, or by a beginning. -/
def conditionFor? (word : String) : Option KnownCondition :=
  let word := Text.lowerChars (Text.trimChars word.toList)
  if word.isEmpty then none
  else knownConditions.find? fun condition =>
    Text.sameName condition.name (String.ofList word) || condition.stem.toList.isPrefixOf word

/-! ### Durations -/

/-- The wording of a number of rounds. -/
def roundsPattern : Pattern :=
  (Pattern.parse? true r"\bfor\s+(?P<rounds>\d+)\s+(?:rounds?|turns?)\b").getD .empty

/-- The wording of an effect without an end. -/
def permanentPattern : Pattern := (Pattern.parse? true r"\bpermanent(?:ly)?\b").getD .empty

/-- How long the effect of a text lasts, where `default` rounds go without saying. -/
def Duration.ofText (text : String) (default : Nat) : Duration :=
  if permanentPattern.occurs text then .permanent
  else
    let named := (roundsPattern.search text).bind fun finding =>
      (finding.group? "rounds").bind fun digits => Text.nat? digits.toList
    .rounds (named.getD default)

end Skirmish
