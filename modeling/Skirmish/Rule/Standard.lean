/-
**The standard rules.** Order matters only where rules meet: the cost rule comes first, so that a
cost that cannot be paid ends the action before anything else happens.
-/

import Skirmish.Rule.Spec

namespace Skirmish.Standard

/-- Rules of abilities and of attacks that have landed. -/
def active : List Hook := [.activate, .onHit]

/-- A spec without vetoes and arguments. -/
def rule (name pattern : String) (hooks : List Hook) (handler : String) : RuleSpec where
  name := name
  pattern := pattern
  vetoes := []
  hooks := hooks
  handler := handler
  arguments := {}

/-- A spec with further vetoes. -/
def vetoed (spec : RuleSpec) (vetoes : List String) : RuleSpec :=
  { spec with vetoes := spec.vetoes ++ vetoes }

/-- The rule that recognizes a cost. -/
def costRule : RuleSpec :=
  rule "cost" r"\bcosts?\s*:?\s*(?P<amount>\d+)\s*(?P<pool>HP|CMP|SP|FP)\b"
    [.activate, .onAttack] "cost"

/-- Rules that change the attack. -/
def attackRules : List RuleSpec :=
  [rule "to-hit bonus" r"\+\s*(?P<bonus>\d+)\s+(?:to\s+)?(?:hit|attacks?(?:\s+rolls?)?)\b"
      [.onAttack] "to_hit",
    vetoed (rule "advantage"
        (r"\badvantage\s+on\s+(?:the\s+|all\s+|its\s+|your\s+)?" ++
          r"(?:attacks?|attack\s+rolls?|strikes?)\b")
        [.onAttack] "advantage")
      [r"\battacks?\s+against\b"],
    vetoed (rule "disadvantage"
        (r"\bdisadvantage\s+on\s+(?:the\s+|all\s+|its\s+|your\s+)?" ++
          r"(?:attacks?|attack\s+rolls?|strikes?)\b")
        [.onAttack] "disadvantage")
      [r"\battacks?\s+against\b"],
    rule "auto-hit"
      r"\b(?:never\s+miss(?:es)?|always\s+hits?|auto-?\s*hits?|cannot\s+miss)\b"
      [.onAttack] "auto_hit",
    rule "crit range"
      r"\bcrit(?:ical)?s?(?:\s+hits?)?\s+on\s+(?:a\s+)?(?:natural\s+)?(?P<face>\d+)"
      [.onAttack] "crit_range",
    rule "ignore armor" r"\bignores?\s+(?:all\s+)?(?:armou?r|damage\s+reduction)\b"
      [.onAttack, .activate] "ignore_armor",
    rule "ignore resistance" r"\bignores?\s+(?:all\s+)?(?:resistances?|immunit(?:y|ies))\b"
      [.onAttack, .activate] "ignore_resistance"]

/-- Rules that change the defense. -/
def defenseRules : List RuleSpec :=
  [rule "defense bonus"
      r"\+\s*(?P<bonus>\d+)\s+(?:to\s+)?(?:defen[cs]e|AC|armou?r\s+class)\b"
      [.onDefend] "defense_bonus",
    rule "defensive advantage"
      (r"\b(?:advantage\s+on\s+(?:defen[cs]e|dodge)|attack(?:er)?s\s+" ++
        r"(?:against\s+(?:you|it|them)\s+)?ha(?:ve|s)\s+disadvantage)")
      [.onDefend] "defense_advantage",
    rule "crit immunity"
      (r"\b(?:immune\s+to\s+crit(?:ical)?s?(?:\s+hits?)?|crit(?:ical)?\s+immun(?:e|ity)|" ++
        r"cannot\s+be\s+crit(?:ically\s+hit|ted)?)")
      [.onDefend] "crit_immunity",
    vetoed (rule "immunity" (r"\bimmun(?:e|ity)\s+to\s+(?P<kind>" ++ damageTypes ++ r")\b")
        [.onDefend] "immunity")
      [r"\b(?:not|loses?|no)\s+(?:longer\s+)?immun"],
    vetoed (rule "resistance"
        (r"\bresist(?:ance|ant|s)?\s+(?:to\s+)?(?P<kind>" ++ damageTypes ++ r")\b")
        [.onDefend] "resistance")
      [r"\b(?:gains?|grants?|ignores?)\s+(?:all\s+)?resist"],
    rule "vulnerability"
      (r"\bvulnerab(?:le|ility)\s+to\s+(?P<kind>" ++ damageTypes ++ r")\b")
      [.onDefend] "vulnerability",
    vetoed (rule "damage reduction"
        (r"\b(?:(?:damage\s+reduction|DR)\s*:?\s*(?P<amount>\d+)|reduces?\s+(?:all\s+)?" ++
          r"(?:incoming\s+)?damage\s+(?:taken\s+)?by\s+(?P<amount2>\d+))")
        [.onDefend] "damage_reduction")
      [r"\bignores?\s+(?:all\s+)?damage\s+reduction"],
    rule "reflect"
      r"\breflects?\s+(?:(?P<pct>\d+)\s*%\s*(?:of\s+)?)?(?:the\s+|all\s+)?(?:damage|attacks?)"
      [.onDefend] "reflect"]

/-- Rules of damage and healing. -/
def payloadRules : List RuleSpec :=
  [rule "composure damage"
      (r"\b(?P<dice>" ++ amountPattern ++ r")\s+(?:composure|cmp|stress|mental)\s+damage\b")
      active "composure_damage",
    vetoed (rule "damage"
        (r"(?:\bdeals?\s+(?:(?P<dice>" ++ amountPattern ++
          r")\s+)?|\b(?P<dice2>\d*d\d+(?:\s*[+-]\s*\d+)?)\s+)(?:(?P<kind>" ++ damageTypes ++
          r")\s+)?damage\b")
        active "damage")
      [r"\b(?:composure|cmp|stress|mental)\s+damage\b", r"\b(?:no|half)\s+damage\b"],
    rule "heal"
      (r"\b(?P<verb>heals?|restores?|regains?|recovers?)\s+" ++
        r"(?:the\s+target\s+for\s+|an\s+ally\s+for\s+)?(?P<amount>" ++ amountPattern ++
        r")\s*(?P<pool>HP|CMP|SP|FP|hit\s+points|composure|stamina|focus)?\b")
      active "heal",
    rule "lifesteal"
      r"(?:\b(?P<pct>\d+)\s*%\s*)?\b(?:lifesteal|life\s*steal|drains?\s+life|vampiric)\b"
      active "lifesteal",
    rule "area"
      (r"\b(?P<feet>\d+)\s*-?\s*(?:ft\.?|feet|foot)\s*-?\s*" ++
        r"(?:radius|burst|sphere|aura|blast)\b")
      active "area",
    rule "chain"
      (r"\bchains?\s+to\s+(?P<count>\d+)\s+(?:additional\s+|other\s+|more\s+|nearby\s+)?" ++
        r"(?:targets?|enem(?:y|ies)|foes?|creatures?)\b")
      active "chain"]

/-- How text that ends a condition begins. -/
def cureLead : String := r"\b(?:cures?|removes?|ends?)\s+(?:the\s+|any\s+|all\s+)?(?:target's\s+)?"

/-- Rules of conditions other than their plain application. -/
def afflictionRules : List RuleSpec :=
  [rule "saving throw"
      (r"(?:\bDC\s*(?P<dc>\d+)\s+)?\b(?P<stat>[a-z]+)\s+sav(?:e|ing\s+throw)\s+or\s+" ++
        r"(?:be\s+|become\s+|fall\s+|is\s+)?(?:knocked\s+)?(?P<condition>[a-z]+)")
      active "saving_throw",
    rule "cure"
      (cureLead ++ r"(?P<condition>stun\w*|paraly\w*|prone|fright\w*|poison\w*|blind\w*|" ++
        r"restrain\w*|slow\w*|burn\w*|bleed\w*)")
      active "cure",
    rule "grant resistance"
      (r"\b(?:gains?|grants?)\s+resistance\s+to\s+(?P<kind>" ++ damageTypes ++ r")\b")
      [.activate] "grant_resistance"]

/-- Rules of movement and ground. -/
def groundRules : List RuleSpec :=
  [rule "push" r"\bpush(?:es)?\b[^.]*?\b(?P<feet>\d+)\s*(?:ft|feet|foot)\b" active "push",
    rule "pull" r"\bpulls?\b[^.]*?\b(?P<feet>\d+)\s*(?:ft|feet|foot)\b" active "pull",
    rule "teleport" r"\bteleports?\b[^.]*?\b(?P<feet>\d+)\s*(?:ft|feet|foot)\b"
      [.activate] "teleport",
    rule "ignite"
      r"\b(?:ignites?|sets?\s+fire\s+to|sets?\s+ablaze)\s+the\s+(?:ground|floor|terrain)\b"
      active "ignite"]

/-- The rule that applies a condition: not where a saving throw decides, where the text ends the
condition, or where it speaks of being safe from it. -/
def conditionRule (condition : KnownCondition) : RuleSpec :=
  let spec := rule condition.name condition.trigger active "status"
  let arguments : Arguments := ({} : Arguments).insert "condition" condition.name
  let arguments := match condition.flag with
    | some flag => arguments.insert "flag" flag
    | none => arguments
  let arguments := if condition.onSelf then arguments.insert "target" "self" else arguments
  { spec with
    vetoes :=
      [r"\bsav(?:e|ing\s+throw)\s+or\b", cureLead ++ condition.stem,
        r"\b(?:immun\w*|resist\w*)\s+(?:to\s+)?(?:being\s+)?" ++ condition.stem] ++
      (if condition.name = "Poisoned" then [r"\bpoison\s+damage\b"] else [])
    arguments }

/-- The standard rules, in order. -/
def specs : List RuleSpec :=
  costRule :: attackRules ++ defenseRules ++ payloadRules ++ afflictionRules ++ groundRules ++
    knownConditions.map conditionRule

/-- The table of the standard rules. -/
def table? : Except Error RuleTable := RuleTable.ofSpecs .standard specs

/-- The table of the standard rules. Every one of them can be built. -/
def table : RuleTable := table?.toOption.getD .empty

end Skirmish.Standard
