/-
**Effects on combatants**: costs, healing, conditions and cures. Each reads everything it needs from
the text before it changes anybody.
-/

import Skirmish.Effect.Payload

namespace Skirmish.Effect

open Resolve

/-! ### Costs and healing -/

/-- How much a cost asks for, and of which pool. -/
def price (firing : Firing) : Except Error (Int × Pool) :=
  return (← firing.intOr "amount" 0, ← Pool.named (← firing.require "pool"))

/-- Pay a cost in full, or give up the action. -/
def actCost (firing : Firing) : Resolve Unit := do
  let (amount, pool) ← settle (price firing)
  let actor ← require (← get).actor
  match actor.spend? pool amount with
  | some paid =>
    replace paid
    narrate s!"{actor.name} spends {amount} {pool.tag}."
  | none =>
    tally fun tally => { tally with aborted := true }
    narrate s!"Not enough {pool.tag}"

/-- How far a fallen combatant may be moved to get up. -/
def riseRadius : Nat := 3

/-- A word such as "regains" or "recovers", which speaks of whoever acts. -/
def isReflexive (verb : String) : Bool :=
  let verb := Text.lowerChars verb.toList
  "re".toList.isPrefixOf verb && !"res".toList.isPrefixOf verb

/-- Room for somebody fallen to get up: its own cell, or the nearest free one where somebody stands
there. The answer is whether there is any. -/
def findRoom (who : CombatantId) (patient : Combatant) : Resolve Bool := do
  let field := (← get).field
  if (field.occupant? patient.position).isNone then return true
  match field.nearestFree? patient.position riseRadius with
  | some cell =>
    place who cell
    narrate s!"{patient.name} rises at {cell.text}."
    return true
  | none =>
    narrate s!"There is no room for {patient.name} to rise."
    return false

/-- Give back to somebody, who may have been down, an amount of a pool. -/
def regain (who : CombatantId) (pool : Pool) (amount : Int) (down : Bool) : Resolve Unit := do
  let before ← require who
  let after := before.heal pool amount
  replace after
  narrate s!"{before.name} recovers {before.gained after pool} {pool.tag}!"
  if down && after.isAlive then narrate s!"{before.name} is back on their feet!"

/-- Restore a pool. Whoever gets up again while somebody stands on the same cell moves to the
nearest free one; without one in reach nothing is restored. -/
def actHeal (recipient : Recipient) (firing : Firing) : Resolve Unit := do
  let dice ← settle (do DiceFormula.written (← firing.require "amount"))
  let pool ← match firing.named? "pool" with
    | some text => settle (Pool.named (Text.singleSpaced text))
    | none => pure .hitPoints
  let resolution ← get
  let reflexive := (firing.named? "verb").any isReflexive
  let who :=
    if reflexive || recipient == .actor then resolution.actor else resolution.targetOrActor
  let amount ← roll dice
  let patient ← require who
  let room ←
    if !patient.isAlive && pool == .hitPoints && 0 < amount then findRoom who patient
    else pure true
  if room then regain who pool amount (!patient.isAlive)

/-! ### Conditions -/

/-- Apply a condition and tell how long it lasts now. -/
def inflict (who : CombatantId) (condition : String) (duration : Duration)
    (flag : Option String) : Resolve Unit := do
  let victim ← require who
  let after := victim.addCondition condition duration flag
  replace after
  match after.conditions.remaining? condition with
  | some (.rounds count) => narrate s!"{victim.name} {condition} for {count} round(s)!"
  | some .permanent => narrate s!"{victim.name} {condition} permanently!"
  | none => return

/-- How long the effect of a text lasts. -/
def durationOf (firing : Firing) : Resolve Duration := do
  return Duration.ofText firing.text (← get).config.defaultStatusRounds

/-- Apply a condition. -/
def actStatus (condition : String) (flag : Option String) (recipient : Recipient)
    (firing : Firing) : Resolve Unit := do
  let who ← match recipient with
    | .actor => do pure (← get).actor
    | .target => targetId
  inflict who condition (← durationOf firing) flag

/-- Apply a condition if the target fails its saving throw. -/
def actSavingThrow (firing : Firing) : Resolve Unit := do
  let stat ← settle (do Stat.named (← firing.require "stat"))
  let word ← settle (firing.require "condition")
  let some condition := conditionFor? word
    | throw (.malformedCapture firing.rule s!"condition '{word}'")
  let difficulty := (← settle (firing.int? "dc")).getD (← get).config.defaultSaveDifficulty
  let who ← targetId
  let natural ← draw 20
  let target ← require who
  let total := (natural : Int) + target.modifier stat
  if difficulty ≤ total then
    narrate s!"{target.name} resists ({stat.name} {total} vs DC {difficulty})."
  else
    narrate s!"{target.name} fails the {stat.name} save ({total} vs DC {difficulty})."
    inflict who condition.name (← durationOf firing) condition.flag

/-- End a condition. -/
def actCure (firing : Firing) : Resolve Unit := do
  let word ← settle (firing.require "condition")
  match conditionFor? word with
  | none => return
  | some condition =>
    let patient ← require (← get).targetOrActor
    if patient.hasCondition condition.name then
      replace (patient.removeCondition condition.name)
      narrate s!"{patient.name} is no longer {condition.name}."

/-- Grant resistance to a damage type for a while. -/
def actGrantResistance (firing : Firing) : Resolve Unit := do
  let kind := canonicalDamageType (← settle (firing.require "kind"))
  inflict (← get).targetOrActor s!"Resistance to {kind}" (← durationOf firing) none

end Skirmish.Effect
