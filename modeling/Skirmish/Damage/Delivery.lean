/-
**Delivery.** When all rules have spoken, the damage of the tally reaches its targets: the target of
the action, everyone in its area, and those that a chain jumps to. Then the attacker heals or
suffers its share, and last comes the loss of composure.

* Only the target itself has the defenses of the tally; area and chain meet each combatant's own.
* A chain carries half of the damage. Neither a chain nor reflected damage leads to another one.
-/

import Skirmish.Damage.Defense

namespace Skirmish

/-- What everyone lost. -/
structure DamageReport where
  /-- What the target lost. -/
  primary : Int := 0
  /-- What those in the area and along the chain lost. -/
  splash : List (CombatantId × Int) := []
  /-- What whoever acts lost to reflected damage. -/
  reflected : Int := 0
  /-- What whoever acts gained. -/
  drained : Int := 0
deriving DecidableEq, Repr

/-- Everything that others than whoever acts lost. -/
def DamageReport.total (report : DamageReport) : Int :=
  wrap (report.primary + (report.splash.map (·.2)).foldr (· + ·) 0)

namespace Delivery

open Resolve

/-- Take hit points from a combatant and tell of it. The answer is what was lost. -/
def strike (who : CombatantId) (amount : Int) (damageType : Option String) : Resolve Int := do
  let before ← require who
  let after := before.takeDamage amount
  let lost := before.lost after .hitPoints
  replace after
  match damageType with
  | some kind => narrate s!"{lost} {kind} damage to {before.name}!"
  | none => narrate s!"{lost} damage to {before.name}!"
  if before.isAlive && !after.isAlive then narrate s!"{before.name} falls!"
  return lost

/-- The damage to the target. -/
def strikeTarget (tally : Tally) (base : Int) (target : CombatantId) : Resolve Int := do
  let defenses := Defenses.gather tally (← require target) tally.damageType
  strike target (mitigate base defenses tally.ignoreArmor tally.ignoreResistance) tally.damageType

/-- The damage to somebody in the area or along the chain. -/
def strikeOther (tally : Tally) (base : Int) (who : CombatantId) : Resolve Int := do
  let defenses := Defenses.ofConditions (← require who) tally.damageType
  strike who (mitigate base defenses true tally.ignoreResistance) tally.damageType

/-- The damage to everyone in an area. -/
def spread (tally : Tally) (base : Int) : List CombatantId → Resolve (List (CombatantId × Int))
  | [] => return []
  | who :: rest => do
    let lost ← strikeOther tally base who
    return (who, lost) :: (← spread tally base rest)

/-- The damage along a chain, which passes over the fallen. -/
def arc (tally : Tally) (base : Int) : List CombatantId → Resolve (List (CombatantId × Int))
  | [] => return []
  | who :: rest => do
    let next ← require who
    if next.isAlive then
      narrate s!"The effect arcs to {next.name}."
      let lost ← strikeOther tally base who
      return (who, lost) :: (← arc tally base rest)
    else arc tally base rest

/-- A percentage of an amount, rounded toward zero. The product is a plain one. -/
def share (amount : Int) (percent : Nat) : Int := (wrap (amount * percent)).tdiv 100

/-- Heal whoever acts. The answer is what was gained. -/
def drain (amount : Int) : Resolve Int := do
  let before ← require (← get).actor
  let after := before.heal .hitPoints amount
  let gained := before.gained after .hitPoints
  replace after
  if 0 < gained then narrate s!"{before.name} drains {gained} HP."
  return gained

/-- Send damage back to whoever acts. The answer is what was lost. -/
def sendBack (amount : Int) : Resolve Int := do
  if amount ≤ 0 then return 0
  narrate s!"{amount} damage is reflected back!"
  nested (strike (← get).actor amount none)

/-- Take composure from the target and tell of it. -/
def unsettle (target : CombatantId) (amount : Int) : Resolve Unit := do
  let before ← require target
  let after := before.damagePool .composure amount
  replace after
  narrate s!"{before.name} loses {before.lost after .composure} CMP."
  if (after.pool .composure).isEmpty then narrate s!"{before.name}'s composure breaks!"

/-- The half of an amount of damage that a chain carries on. -/
def jump (tally : Tally) (base : Int) : Resolve (List (CombatantId × Int)) := do
  if (← get).canNest && !tally.chainTargets.isEmpty then
    nested (arc tally (base / 2) tally.chainTargets)
  else return []

/-- Heal whoever acts by its share of what the target lost. -/
def drainShare (tally : Tally) (primary : Int) : Resolve Int :=
  match tally.lifestealPercent with
  | some percent => if 0 < primary then drain (share primary percent) else return 0
  | none => return 0

/-- Send back to whoever acts its share of what the target lost. -/
def reflectShare (tally : Tally) (primary : Int) : Resolve Int := do
  match tally.reflectPercent with
  | some percent =>
    if 0 < primary && (← get).canNest then sendBack (share primary percent) else return 0
  | none => return 0

/-- Deliver an amount of damage. -/
def deliverDamage (tally : Tally) (base : Int) (target : Option CombatantId) :
    Resolve DamageReport := do
  let primary ← match target with
    | some target => strikeTarget tally base target
    | none => pure 0
  let area ← spread tally base (tally.areaTargets.filter (some · != target))
  let chain ← jump tally base
  let drained ← drainShare tally primary
  let reflected ← reflectShare tally primary
  return { primary, splash := area ++ chain, reflected, drained }

/-- Deliver everything that the tally holds. -/
def deliver (target : Option CombatantId) : Resolve DamageReport := do
  let tally := (← get).tally
  let report ← match tally.pendingDamage with
    | some base => deliverDamage tally base target
    | none => pure {}
  match tally.pendingComposure, target with
  | some amount, some target => unsettle target amount
  | _, _ => pure ()
  return report

end Delivery

end Skirmish
