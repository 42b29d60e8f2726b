/-
**Attacks.** An attack passes through fixed stages: both dice of the attacker, its texts, both dice
of the defender, its texts, and then the outcome. The dice are drawn before the texts are resolved,
so that text can change which die counts but not what was rolled.

* A tie leads to a clash and touches nobody.
* A graze costs composure. Only a hit deals damage, and a critical one twice as much.
-/

import Skirmish.Combat.Basic
import Skirmish.Damage.Injury

namespace Skirmish

namespace Strike

open Resolve

/-- What an attack brings along, fixed before the first die. -/
structure Setting where
  rules : RuleTable
  sources : SourceBook
  request : AttackRequest
  tactics : Tactics
  attackerName : String
  targetName : String

/-- The report of an attack that has reached some stages. -/
def Setting.report (setting : Setting) (phases : List AttackPhase) : AttackReport where
  attacker := setting.request.attacker
  target := setting.request.target
  phases := phases
  tactics := setting.tactics

/-- Draw two twenty-sided dice. -/
def drawPair : Resolve DicePair :=
  modifyGet fun resolution =>
    let (pair, dice) := DicePair.draw resolution.dice
    (pair, { resolution with dice })

/-- The roll of the attacker. -/
def attackLine (setting : Setting) (dice : DicePair) : Resolve RollLine := do
  let tally := (← get).tally
  let mode := RollMode.ofFlags tally.advantage tally.disadvantage
  let natural := dice.natural mode
  let attacker ← require (← get).actor
  let rank := (setting.request.skill.map attacker.skillRank).getD 0
  let total := saturatingAdd
    (saturatingAdd (natural + attacker.modifier setting.request.stat) rank)
    (tally.attackBonus.getD 0)
  return { dice, mode, natural, total }

/-- The roll of the defender. -/
def defenseLine (setting : Setting) (dice : DicePair) : Resolve RollLine := do
  let tally := (← get).tally
  let mode := RollMode.ofFlags tally.defenseAdvantage false
  let natural := dice.natural mode
  let defender ← require (← targetId)
  let armor := if tally.ignoreArmor then 0 else defender.armorRank
  let total := saturatingAdd
    (saturatingAdd (natural + defender.modifier setting.request.defenseStat) armor)
    (tally.defenseBonus.getD 0)
  return { dice, mode, natural, total }

/-- The tier of an attack, told in lines. -/
def decideTier (setting : Setting) (attack defense : RollLine) (margin : Int) :
    Resolve AttackTier := do
  let resolution ← get
  let tier := AttackTier.classify margin attack.natural resolution.critThreshold
    resolution.config.thresholds
  narrate
    (s!"{setting.attackerName} attacks {setting.targetName}: " ++
      s!"{attack.total} vs {defense.total}.")
  if tier == .crit && resolution.tally.critImmune then
    narrate s!"{setting.targetName} turns the critical blow aside."
    return .hit
  return tier

/-- A graze: the target loses composure. -/
def graze (setting : Setting) : Resolve Unit := do
  let target ← require (← targetId)
  let after := target.damagePool .composure (← get).config.grazeComposure
  replace after
  narrate s!"{setting.targetName} is grazed and loses {target.lost after .composure} CMP."

/-- The damage of an attack without damage text: unarmed dice and the modifier, at least one. -/
def unarmed (setting : Setting) : Resolve Unit := do
  let rolled ← roll (← get).config.unarmedDamage
  let actor ← require (← get).actor
  tally (·.addDamage (max (wrap (rolled + actor.modifier setting.request.stat)) 1) none)

/-- The damage of a hit before it is delivered. A critical one counts twice. -/
def muster (setting : Setting) (critical : Bool) : Resolve Unit := do
  let _ ← dispatch setting.rules setting.sources setting.request.attacker setting.request.effects
    .onHit
  if (← get).tally.pendingDamage.isNone then unarmed setting
  if critical then
    tally fun tally =>
      { tally with pendingDamage := tally.pendingDamage.map fun damage => saturate (2 * damage) }

/-- The injury of whoever survives a critical hit. -/
def maim (setting : Setting) : Resolve (Option String) := do
  if (← require (← targetId)).isAlive then
    let injury ← modifyGet fun resolution =>
      let (injury, dice) := Injury.draw resolution.dice
      (injury, { resolution with dice })
    injury.inflict setting.request.target
    return some injury.name
  else return none

/-- A hit, critical or not: damage and perhaps an injury. -/
def land (setting : Setting) (critical : Bool) : Resolve (DamageReport × Option String) := do
  narrate
    (if critical then s!"Critical hit on {setting.targetName}!"
      else s!"{setting.attackerName} hits {setting.targetName}.")
  muster setting critical
  let damage ← Delivery.deliver (some setting.request.target)
  let injury ← if critical then maim setting else pure none
  return (damage, injury)

/-- What an attack of a tier does. -/
def outcome (setting : Setting) : AttackTier → Resolve (DamageReport × Option String)
  | .clash => do
    narrate s!"{setting.attackerName} and {setting.targetName} clash!"
    return ({}, none)
  | .miss => do
    narrate s!"{setting.attackerName} misses {setting.targetName}."
    return ({}, none)
  | .graze => do
    graze setting
    return ({}, none)
  | .hit => land setting false
  | .crit => land setting true

/-- The rest of an attack that its texts did not give up. -/
def followThrough (setting : Setting) (attackDice : DicePair) : Resolve AttackReport := do
  let attack ← attackLine setting attackDice
  let defenseDice ← drawPair
  let _ ← dispatch setting.rules setting.sources setting.request.target [] .onDefend
  let defense ← defenseLine setting defenseDice
  let margin := effectiveMargin (saturate (attack.total - defense.total)) (← get).tally.autoHit
  let tier ← decideTier setting attack defense margin
  let (damage, injury) ← outcome setting tier
  let resolution ← get
  return {
    setting.report [.idle, .rollAttack, .resolveAttackHooks, .rollDefense, .resolveDefenseHooks,
      .outcome tier] with
    attack := some attack
    defense := some defense
    margin := some margin
    tier := some tier
    damage
    injury
    faults := resolution.faults
    log := resolution.log }

/-- The whole of an attack. -/
def carryOut (setting : Setting) : Resolve AttackReport := do
  let attackDice ← drawPair
  tally fun tally =>
    { tally with
      advantage := !setting.tactics.advantages.isEmpty
      disadvantage := !setting.tactics.disadvantages.isEmpty }
  let _ ← dispatch setting.rules setting.sources setting.request.attacker setting.request.effects
    .onAttack
  let resolution ← get
  if resolution.tally.aborted then
    return { setting.report [.idle, .rollAttack, .resolveAttackHooks] with
      aborted := true
      faults := resolution.faults
      log := resolution.log }
  else followThrough setting attackDice

end Strike

namespace Combat

/-- The fight after an attack that was carried out: the action is used up, and a tie leads to a
clash. An attack that was given up for its cost changes neither. -/
def afterAttack (combat : Combat) (request : AttackRequest) (targetName : String)
    (report : AttackReport) : Combat :=
  let recorded := fun (combat : Combat) =>
    combat.record (some request.attacker) s!"Attack {targetName}" report.tier report.log
  if report.aborted then recorded combat
  else
    let state := if report.tier = some .clash then
        .clash ⟨request.attacker, request.target, request.stat⟩
      else combat.state
    (recorded { combat with
      state
      field := combat.field.update request.attacker fun attacker =>
        { attacker with turn.action := true } }).checkFinished

end Combat

namespace Fight

/-- Make an attack. -/
def attack (request : AttackRequest) : Fight AttackReport := do
  let combat ← get
  let attacker ← settle (combat.requireAction request.attacker)
  let target ← settle (combat.field.require request.target)
  if request.target == request.attacker || !target.isAlive then
    throw (.invalidTarget target.name)
  let setting : Strike.Setting :=
    { rules := combat.rules
      sources := combat.sources
      request
      tactics := .assess combat.field attacker target
      attackerName := attacker.name
      targetName := target.name }
  let report ← resolving .onAttack request.attacker (some request.target) request.tier
    (Strike.carryOut setting)
  modify (·.afterAttack request target.name report)
  return report

end Fight

end Skirmish
