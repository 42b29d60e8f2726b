/-
**Rules as data.** A `RuleSpec` names a pattern, its vetoes, the hooks a rule listens to and, by a
name that a catalog knows, what the rule does. A list of specs becomes a table when every one of
them can be built; otherwise the first that cannot is the answer.
-/

import Skirmish.Effect.Act
import Skirmish.Rule.Table

namespace Skirmish

/-- A rule as data. -/
structure RuleSpec where
  name : String
  /-- The trigger. -/
  pattern : String
  vetoes : List String
  hooks : List Hook
  /-- What the rule does, by the name that a catalog knows. -/
  handler : String
  arguments : Arguments
deriving DecidableEq

/-- What a rule does, once its arguments are known. -/
abbrev Handler := Arguments → Except Error (Firing → Resolve Unit)

/-- The things that rules can do, by name. -/
abbrev Catalog := NameMap Handler

namespace Catalog

/-- The effects of the library. -/
def standard : Catalog :=
  .ofList (Effect.named.map fun (name, read) =>
    (name, fun arguments => (read arguments).map Effect.act))

/-- The rule that a spec describes. -/
def build (catalog : Catalog) (spec : RuleSpec) : Except Error Rule := do
  let some handler := catalog.get? spec.handler
    | throw (.unknownHandler spec.handler)
  let act ← handler spec.arguments
  let matcher ← Matcher.ofTexts spec.pattern spec.vetoes
  return ⟨spec.name, matcher, spec.hooks, act⟩

end Catalog

/-- The table of a list of specs. -/
def RuleTable.ofSpecs (catalog : Catalog) (specs : List RuleSpec) : Except Error RuleTable := do
  return ⟨← specs.mapM catalog.build⟩

end Skirmish
