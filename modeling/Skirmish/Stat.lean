/-
**Stats.** Every combatant has twelve stats with a score each. A score that was never set counts as
the baseline of ten, and each two points above or below it are worth one point of modifier.

* `modifierOf`: halves are rounded down, also below the baseline.
-/

import Skirmish.Number
import Skirmish.Text.Blank
import Skirmish.Text.Case

namespace Skirmish

/-- The twelve stats. -/
inductive Stat where
  | might
  | endurance
  | finesse
  | reflexes
  | vitality
  | fortitude
  | knowledge
  | logic
  | awareness
  | intuition
  | charm
  | willpower
deriving DecidableEq, Repr

/-- What kind of contest a stat wins. -/
inductive StatCategory where
  | power
  | agility
  | insight
  | vitality
  | will
deriving DecidableEq, Repr

namespace Stat

/-- All stats, in the order in which they are listed. -/
def all : List Stat :=
  [might, endurance, finesse, reflexes, vitality, fortitude, knowledge, logic, awareness,
    intuition, charm, willpower]

theorem mem_all (stat : Stat) : stat ∈ all := by cases stat <;> simp [all]

/-- The name of a stat as it is shown. -/
def name : Stat → String
  | might => "Might"
  | endurance => "Endurance"
  | finesse => "Finesse"
  | reflexes => "Reflexes"
  | vitality => "Vitality"
  | fortitude => "Fortitude"
  | knowledge => "Knowledge"
  | logic => "Logic"
  | awareness => "Awareness"
  | intuition => "Intuition"
  | charm => "Charm"
  | willpower => "Willpower"

/-- The three letters that stand for a stat. -/
def abbreviation : Stat → String
  | might => "MIG"
  | endurance => "END"
  | finesse => "FIN"
  | reflexes => "REF"
  | vitality => "VIT"
  | fortitude => "FOR"
  | knowledge => "KNO"
  | logic => "LOG"
  | awareness => "AWA"
  | intuition => "INT"
  | charm => "CHA"
  | willpower => "WIL"

/-- The kind of contest that a stat wins. -/
def category : Stat → StatCategory
  | might | endurance => .power
  | finesse | reflexes => .agility
  | knowledge | logic | awareness | intuition | charm => .insight
  | vitality | fortitude => .vitality
  | willpower => .will

/-- The stat whose name or abbreviation a text is, but for blanks around it and ASCII case. -/
def parse? (text : String) : Option Stat :=
  all.find? fun stat =>
    Text.sameName stat.name (Text.trim text) || Text.sameName stat.abbreviation (Text.trim text)

end Stat

/-- The score of a stat that was never set. -/
def baselineScore : Int := 10

/-- What a score adds to a roll. -/
def modifierOf (score : Int) : Int := wrap (score - baselineScore) / 2

/-- The scores of a combatant; stats without an entry have the baseline. -/
structure Attributes where
  entry? : Stat → Option Int

namespace Attributes

/-- All stats at the baseline. -/
def baseline : Attributes := ⟨fun _ => none⟩

instance : Inhabited Attributes := ⟨baseline⟩

/-- The attributes with another score for one stat. -/
def set (attributes : Attributes) (stat : Stat) (score : Int) : Attributes :=
  ⟨fun other => if other = stat then some score else attributes.entry? other⟩

/-- The score of a stat. -/
def score (attributes : Attributes) (stat : Stat) : Int :=
  (attributes.entry? stat).getD baselineScore

/-- The modifier of a stat. -/
def modifier (attributes : Attributes) (stat : Stat) : Int := modifierOf (attributes.score stat)

/-- The sum of some scores. -/
def sum (attributes : Attributes) (stats : List Stat) : Int :=
  wrap ((stats.map attributes.score).foldr (· + ·) 0)

end Attributes

end Skirmish
