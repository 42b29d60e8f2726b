/-
**What actions and contests do to those on the field.** From its first text to its last blow an
action only treats combatants (`Battlefield.Treated`), and so does a contest:

* `RuleTable.Mild`: a table whose effects apply no condition with a flag that is not allowed; where
  all flags are, any table is one (`RuleTable.Stock.mild`);
* `Strike.treated_carryOut`, `Activation.treated_carryOut`, `Contest.treated_hold`: an attack, an
  ability and a contest, whether they succeed or fail;
* `Fight.attack_treats`, `activate_treats`, `move_eq_ok`, `resolveClash_treats`: the operations, which
  besides use up what the turn allows (`Combat.engaged_act`).
-/

import Skirmish.Proofs.Runs
import Skirmish.Proofs.Treatments

namespace Skirmish

open Battlefield Resolve

variable {allowed : String → Prop}

/-! ### Texts -/

/-- A rule whose effect is mild. -/
def Rule.Mild (allowed : String → Prop) (rule : Rule) : Prop :=
  ∃ effect, rule.act = Effect.act effect ∧ effect.Mild allowed

/-- A table of mild rules. -/
def RuleTable.Mild (allowed : String → Prop) (table : RuleTable) : Prop :=
  ∀ rule ∈ table.rules, rule.Mild allowed

section Texts

variable {rules : RuleTable} {before : Resolution}

/-- Where all flags are allowed, every effect is mild. -/
theorem RuleTable.Stock.mild (stock : rules.Stock) : rules.Mild fun _ => True := by
  intro rule mem
  obtain ⟨effect, act⟩ := stock rule mem
  refine ⟨effect, act, ?_⟩
  cases effect with
  | status condition flag recipient => exact fun _ _ => trivial
  | _ => trivial

theorem RuleTable.Mild.stock (mild : rules.Mild allowed) : rules.Stock := fun rule mem =>
  have ⟨effect, act, _⟩ := mild rule mem
  ⟨effect, act⟩

theorem Rule.Mild.ask {rule : Rule} (mild : rule.Mild allowed) (lenient : Lenient allowed)
    (text : String) : Resolution.Treated allowed before (rule.ask text before).2 := by
  obtain ⟨effect, act, mild⟩ := mild
  refine leads_ask (fun _ firing => ?_) fun _ _ treated => treated
  rw [act]
  exact Effect.treated_act lenient mild

theorem RuleTable.Mild.resolveAll (mild : rules.Mild allowed) (lenient : Lenient allowed)
    (texts : List String) :
    Resolution.Treated allowed before (rules.resolveAll texts before).2 :=
  leads_resolveAll fun rule mem text _ _ => (mild rule mem).ask lenient text

theorem RuleTable.Mild.dispatch (mild : rules.Mild allowed) (lenient : Lenient allowed)
    (sources : SourceBook) (who : CombatantId) (more : List String) (hook : Hook) :
    Leads (Resolution.Treated allowed) (dispatch rules sources who more hook) before := by
  have asked : Resolution.Treated allowed { before with hook }
      (rules.resolveAll (sources.texts who more) { before with hook }).2 := mild.resolveAll lenient _
  exact asked

end Texts

/-! ### Damage -/

namespace Delivery

variable {before : Resolution}

theorem treated_strike (who : CombatantId) (amount : Int) (kind : Option String) :
    Leads (Resolution.Treated allowed) (strike who amount kind) before := by
  refine .require fun victim found => ?_
  obtain rfl := id_of_find? found
  refine (treated_put found (.drained .hitPoints amount)).bind fun _ struck _ => ?_
  have falls : ∀ now : Resolution, Leads (Resolution.Treated allowed) (do
      if victim.isAlive && !(victim.takeDamage amount).isAlive then
        narrate s!"{victim.name} falls!"
      return victim.lost (victim.takeDamage amount) .hitPoints) now := fun now => by
    dsimp only
    split
    · exact (treated_narrate _).bind fun _ _ _ => .pure _
    · exact .pure _
  cases kind with
  | some kind => exact (treated_narrate _).bind fun _ now _ => falls now
  | none => exact (treated_narrate _).bind fun _ now _ => falls now

theorem treated_strikeTarget (tally : Tally) (base : Int) (target : CombatantId) :
    Leads (Resolution.Treated allowed) (strikeTarget tally base target) before :=
  .require fun _ _ => treated_strike ..

theorem treated_strikeOther (tally : Tally) (base : Int) (who : CombatantId) :
    Leads (Resolution.Treated allowed) (strikeOther tally base who) before :=
  .require fun _ _ => treated_strike ..

theorem treated_spread (tally : Tally) (base : Int) (targets : List CombatantId) :
    Leads (Resolution.Treated allowed) (spread tally base targets) before := by
  induction targets generalizing before with
  | nil => exact .pure []
  | cons who rest hyp =>
    exact (treated_strikeOther ..).bind fun _ _ _ => hyp.bind fun _ _ _ => .pure _

theorem treated_arc (tally : Tally) (base : Int) (targets : List CombatantId) :
    Leads (Resolution.Treated allowed) (arc tally base targets) before := by
  induction targets generalizing before with
  | nil => exact .pure []
  | cons who rest hyp =>
    refine .require fun next _ => ?_
    split
    · exact (treated_narrate _).bind fun _ _ _ => (treated_strikeOther ..).bind fun _ _ _ =>
        hyp.bind fun _ _ _ => .pure _
    · exact hyp

/-- What is done one level deeper is done all the same. -/
theorem treated_nested {α : Type} {steps : Resolve α}
    (leads : ∀ before, Leads (Resolution.Treated allowed) steps before) :
    Leads (Resolution.Treated allowed) (nested steps) before :=
  leads { before with depth := min (before.depth + 1) 255 }

theorem treated_jump (tally : Tally) (base : Int) :
    Leads (Resolution.Treated allowed) (jump tally base) before := by
  refine .get ?_
  split
  · exact treated_nested fun _ => treated_arc ..
  · exact .pure []

theorem treated_drain (amount : Int) :
    Leads (Resolution.Treated allowed) (drain amount) before := by
  refine .get (.require fun one found => ?_)
  have same := id_of_find? found
  refine (treated_put (same ▸ found) (.restored .hitPoints amount)).bind fun _ _ _ => ?_
  dsimp only
  split
  · exact (treated_narrate _).bind fun _ _ _ => .pure _
  · exact .pure _

theorem treated_drainShare (tally : Tally) (primary : Int) :
    Leads (Resolution.Treated allowed) (drainShare tally primary) before := by
  unfold drainShare
  split
  · split
    · exact treated_drain _
    · exact .pure 0
  · exact .pure 0

theorem treated_sendBack (amount : Int) :
    Leads (Resolution.Treated allowed) (sendBack amount) before := by
  unfold sendBack
  split
  · exact .pure 0
  · exact (treated_narrate _).bind fun _ _ _ => .get (treated_nested fun _ => treated_strike ..)

theorem treated_reflectShare (tally : Tally) (primary : Int) :
    Leads (Resolution.Treated allowed) (reflectShare tally primary) before := by
  unfold reflectShare
  split
  · refine .get ?_
    split
    · exact treated_sendBack _
    · exact .pure 0
  · exact .pure 0

theorem treated_deliverDamage (tally : Tally) (base : Int) (target : Option CombatantId) :
    Leads (Resolution.Treated allowed) (deliverDamage tally base target) before := by
  have others : ∀ (primary : Int) (now : Resolution), Leads (Resolution.Treated allowed) (do
      let area ← spread tally base (tally.areaTargets.filter (some · != target))
      let chain ← jump tally base
      let drained ← drainShare tally primary
      let reflected ← reflectShare tally primary
      return ({ primary, splash := area ++ chain, reflected, drained } : DamageReport)) now :=
    fun primary now => (treated_spread ..).bind fun _ _ _ => (treated_jump ..).bind fun _ _ _ =>
      (treated_drainShare ..).bind fun _ _ _ => (treated_reflectShare ..).bind fun _ _ _ => .pure _
  unfold deliverDamage
  cases target with
  | some target => exact (treated_strikeTarget ..).bind fun primary now _ => others primary now
  | none => exact .pure_bind (others 0 before)

theorem treated_unsettle (target : CombatantId) (amount : Int) :
    Leads (Resolution.Treated allowed) (unsettle target amount) before := by
  refine .require fun one found => ?_
  obtain rfl := id_of_find? found
  refine (treated_put found (.drained .composure amount)).bind fun _ _ _ => ?_
  refine (treated_narrate _).bind fun _ _ _ => ?_
  split
  · exact treated_narrate _
  · exact .pure ()

theorem treated_deliver (target : Option CombatantId) :
    Leads (Resolution.Treated allowed) (deliver target) before := by
  refine .get ?_
  dsimp only
  split
  · refine (treated_deliverDamage ..).bind fun report now _ => ?_
    split
    · exact (treated_unsettle ..).bind fun _ _ _ => .pure report
    · exact .pure report
  · split
    · exact (treated_unsettle ..).bind fun _ _ _ => .pure _
    · exact .pure _

end Delivery

/-! ### Attacks -/

namespace Strike

variable {setting : Setting} {before : Resolution}

theorem treated_drawPair : Leads (Resolution.Treated allowed) drawPair before :=
  List.forall₂_refl before.field.roster

theorem treated_attackLine (dice : DicePair) :
    Leads (Resolution.Treated allowed) (attackLine setting dice) before :=
  .get (.get (.require fun _ _ => .pure _))

theorem treated_defenseLine (dice : DicePair) :
    Leads (Resolution.Treated allowed) (defenseLine setting dice) before :=
  .get (.targetId fun _ _ => .require fun _ _ => .pure _)

theorem treated_decideTier (attack defense : RollLine) (margin : Int) :
    Leads (Resolution.Treated allowed) (decideTier setting attack defense margin) before := by
  refine .get ((treated_narrate _).bind fun _ _ _ => ?_)
  split
  · exact (treated_narrate _).bind fun _ _ _ => .pure _
  · exact .pure _

theorem treated_graze : Leads (Resolution.Treated allowed) (graze setting) before := by
  refine .targetId fun target _ => .require fun one found => .get ?_
  obtain rfl := id_of_find? found
  exact (treated_put found (.drained .composure _)).bind fun _ _ _ => treated_narrate _

theorem treated_unarmed : Leads (Resolution.Treated allowed) (unarmed setting) before :=
  .get ((treated_roll _).bind fun _ _ _ => .get (.require fun _ _ =>
    treated_of_steady (steady_tally rfl rfl)))

theorem treated_muster (mild : setting.rules.Mild allowed) (lenient : Lenient allowed)
    (critical : Bool) : Leads (Resolution.Treated allowed) (muster setting critical) before := by
  have doubles : ∀ now : Resolution, Leads (Resolution.Treated allowed) (do
      if critical then
        tally fun tally => { tally with
          pendingDamage := tally.pendingDamage.map fun damage => saturate (2 * damage) }) now :=
    fun now => by
      split
      · exact treated_of_steady (steady_tally rfl rfl)
      · exact .pure ()
  refine (mild.dispatch lenient ..).bind fun _ asked _ => .get ?_
  dsimp only
  split
  · exact treated_unarmed.bind fun _ now _ => doubles now
  · exact doubles asked

theorem treated_maim (lenient : Lenient allowed) :
    Leads (Resolution.Treated allowed) (maim setting) before := by
  refine .targetId fun target _ => .require fun victim _ => ?_
  split
  · have draws : Leads (Resolution.Treated allowed) (modifyGet fun resolution =>
        ((Injury.draw resolution.dice).1, { resolution with
          dice := (Injury.draw resolution.dice).2 }) : Resolve Injury) before :=
      List.forall₂_refl before.field.roster
    refine draws.bind fun injury drawn run => ?_
    -- The injury drawn is one of those that the faces pick.
    obtain ⟨face, rfl⟩ : ∃ face, injury = Injury.ofFace face :=
      ⟨_, (Except.ok.inj (Prod.mk.inj run).1).symm⟩
    have inflicts : Leads (Resolution.Treated allowed)
        ((Injury.ofFace face).inflict setting.request.target) drawn := by
      refine .require fun one found => ?_
      obtain same := id_of_find? found
      exact (treated_put (same ▸ found) (.afflicted _ _ (lenient.injuries face))).bind
        fun _ _ _ => treated_narrate _
    exact inflicts.bind fun _ _ _ => .pure _
  · exact .pure none

theorem treated_land (mild : setting.rules.Mild allowed) (lenient : Lenient allowed)
    (critical : Bool) : Leads (Resolution.Treated allowed) (land setting critical) before := by
  refine (treated_narrate _).bind fun _ _ _ => (treated_muster mild lenient critical).bind
    fun _ _ _ => (Delivery.treated_deliver _).bind fun damage now _ => ?_
  cases critical with
  | false => exact .pure_bind (.pure _)
  | true => exact (treated_maim lenient).bind fun _ _ _ => .pure _

theorem treated_outcome (mild : setting.rules.Mild allowed) (lenient : Lenient allowed)
    (tier : AttackTier) : Leads (Resolution.Treated allowed) (outcome setting tier) before := by
  cases tier with
  | miss | clash => exact (treated_narrate _).bind fun _ _ _ => .pure _
  | graze => exact treated_graze.bind fun _ _ _ => .pure _
  | hit => exact treated_land mild lenient false
  | crit => exact treated_land mild lenient true

theorem treated_followThrough (mild : setting.rules.Mild allowed) (lenient : Lenient allowed)
    (dice : DicePair) :
    Leads (Resolution.Treated allowed) (followThrough setting dice) before := by
  refine (treated_attackLine dice).bind fun attack _ _ => treated_drawPair.bind fun dice' _ _ => ?_
  refine (mild.dispatch lenient ..).bind fun _ _ _ => (treated_defenseLine dice').bind
    fun defense _ _ => .get ?_
  refine (treated_decideTier attack defense _).bind fun tier _ _ => ?_
  exact (treated_outcome mild lenient tier).bind fun _ _ _ => .get (.pure _)

/-- An attack only treats combatants. -/
theorem treated_carryOut (setting : Setting) (before : Resolution)
    (mild : setting.rules.Mild allowed) (lenient : Lenient allowed) :
    Leads (Resolution.Treated allowed) (carryOut setting) before := by
  have asks : Resolution.Treated allowed (setting.opened before)
      (setting.rules.resolveAll setting.texts (setting.opened before)).2 :=
    mild.resolveAll lenient setting.texts
  unfold Leads
  rw [carryOut_eq]
  dsimp only
  split
  · exact asks
  · exact Battlefield.Treated.trans asks (treated_followThrough mild lenient _)

end Strike

/-! ### Abilities -/

namespace Activation

variable {activation : Activation} {rules : RuleTable} {sources : SourceBook} {before : Resolution}

theorem treated_followThrough (mild : rules.Mild allowed) (lenient : Lenient allowed) :
    Leads (Resolution.Treated allowed) (activation.followThrough rules sources) before := by
  unfold followThrough
  split
  · refine .get ?_
    split
    · exact (mild.dispatch lenient ..).bind fun _ _ _ => Delivery.treated_deliver _
    · exact Delivery.treated_deliver _
  · exact Delivery.treated_deliver _

/-- An ability only treats combatants. -/
theorem treated_carryOut (activation : Activation) (sources : SourceBook) (before : Resolution)
    (mild : rules.Mild allowed) (lenient : Lenient allowed) :
    Leads (Resolution.Treated allowed) (activation.carryOut rules sources) before := by
  refine .require fun actor _ => (treated_narrate _).bind fun _ told _ => ?_
  have asks : Leads (Resolution.Treated allowed)
      (certainly (rules.resolveAll (activation.orderedEffects rules))) told :=
    mild.resolveAll lenient (activation.orderedEffects rules)
  refine asks.bind fun matched asked _ => .get ?_
  dsimp only
  split
  · exact .pure_bind (.get (.pure _))
  · exact (treated_followThrough mild lenient).bind fun _ _ _ => .get (.pure _)

end Activation

/-! ### Contests -/

/-- A part of a contest in which combatants are treated, and nothing else is done to them. -/
def Scene.Treated (allowed : String → Prop) (before after : Scene) : Prop :=
  before.field.Treated allowed after.field

instance : Std.Refl (Scene.Treated allowed) := ⟨fun scene => List.forall₂_refl scene.field.roster⟩

instance : IsTrans Scene (Scene.Treated allowed) :=
  ⟨fun _ _ _ first second => Battlefield.Treated.trans first second⟩

namespace Contest

variable {before : Scene}

theorem covers_treated : Covers (Scene.Treated allowed) where
  told scene _ := List.forall₂_refl scene.field.roster
  placed placed := Battlefield.treated_place placed
  turned _ id facing := Battlefield.treated_face id facing
  shaken amount found := Battlefield.treated_update fun one eq => by
    obtain rfl := Option.some.inj (found.symm.trans eq)
    exact .single (.drained .composure amount)

/-- A contest only treats combatants. -/
theorem treated_hold (allowed : String → Prop) (before : Scene) (config : Config) (table : ClashTable)
    (pending : PendingClash) (stat : Stat) :
    Leads (Scene.Treated allowed) (hold config table pending stat) before := by
  refine leads_require fun attacker _ => leads_require fun defender _ => ?_
  have rolls : Leads (Scene.Treated allowed)
      (rollBoth config.clashTie (attacker.modifier stat) (defender.modifier stat)) before :=
    List.forall₂_refl before.field.roster
  refine rolls.bind fun totals _ _ => (covers_treated.leads_narrate _).bind fun _ _ _ => ?_
  exact (covers_treated.leads_follow config fun _ _ swapped => Battlefield.treated_swap swapped).bind
    fun _ _ _ => .get (.pure _)

end Contest

/-! ### Operations -/

namespace Combat

variable {combat : Combat} {id : CombatantId} {one : Combatant}

/-- It is the turn of a combatant, turns are being taken, and nothing keeps it from acting. -/
structure OnTurn (combat : Combat) (id : CombatantId) (one : Combatant) : Prop where
  running : combat.state = .active
  current : combat.order.current? = some id
  found : combat.field.find? id = some one
  able : one.isIncapacitated = false

theorem onTurn_of_requireTurn (granted : combat.requireTurn id = .ok one) : combat.OnTurn id one := by
  obtain ⟨running, found⟩ := requireTurn_eq_ok granted
  have there : combat.field.require id = .ok one := require_eq_ok.mpr found
  simp only [requireTurn, requireRunning, running, there, bind, Except.bind] at granted
  split at granted
  · cases granted
  case isFalse current =>
    split at granted
    · cases granted
    case isFalse able => exact ⟨running, by simpa using current, found, Bool.eq_false_iff.mpr able⟩

/-- Whoever may use its action has its turn and has not used it yet. -/
theorem onTurn_of_requireAction (granted : combat.requireAction id = .ok one) :
    combat.OnTurn id one ∧ one.turn.action = false := by
  unfold requireAction at granted
  rcases turn : combat.requireTurn id with error | other
  · rw [turn] at granted
    cases granted
  · simp only [turn, bind, Except.bind] at granted
    split at granted
    · cases granted
    case isFalse left =>
      obtain rfl := Except.ok.inj granted
      exact ⟨onTurn_of_requireTurn turn, Bool.eq_false_iff.mpr left⟩

/-- An ability that was carried out has used up its user's action. -/
theorem field_afterActivation_of_going {activation : Activation} {report : ActivationReport}
    (going : ¬report.aborted) :
    (combat.afterActivation activation report).field = combat.field.update activation.actor
      fun actor => { actor with turn.action := true } := by
  unfold afterActivation
  rw [if_neg going, field_checkFinished]
  rfl

end Combat

namespace Fight

variable {before after : Combat}

/-- Where its target is there, if it has one, an ability that is granted is resolved. -/
theorem activate_of_aimed {activation : Activation} {actor : Combatant}
    (granted : before.requireAction activation.actor = .ok actor)
    (aimed : ∀ id, activation.target = some id → before.field.Present id) :
    activate activation before = (do
      let report ← resolving .activate activation.actor activation.target activation.tier
        (activation.carryOut before.rules before.sources)
      modify fun combat : Combat => combat.afterActivation activation report
      return report) before := by
  unfold activate
  rw [run_get_bind, granted, settle_ok, run_pure_bind]
  rcases aim : activation.target with _ | target
  · rfl
  · obtain ⟨other, found⟩ := (aimed target aim).find?
    simp only [require_eq_ok.mpr found, settle_ok, run_pure_bind]

/-- An ability that was answered was granted, and ended as its resolution did. -/
theorem activate_eq_ok {activation : Activation} {report : ActivationReport}
    (run : activate activation before = (.ok report, after)) :
    ∃ actor resolved, before.requireAction activation.actor = .ok actor ∧
      activation.carryOut before.rules before.sources
          (before.opening .activate activation.actor activation.target activation.tier)
        = (.ok report, resolved) ∧
      after = ({ before with field := resolved.field, dice := resolved.dice } : Combat).afterActivation
        activation report := by
  rcases granted : before.requireAction activation.actor with error | actor
  · unfold activate at run
    rw [run_get_bind, granted] at run
    cases run
  have aimed : ∀ id, activation.target = some id → before.field.Present id := by
    intro target aim
    rcases there : before.field.require target with error | other
    · unfold activate at run
      rw [run_get_bind, granted, settle_ok, run_pure_bind] at run
      simp only [aim, there, settle_error, run_throw_bind] at run
      cases run
    · exact present_of_find? (require_eq_ok.mp there)
  rw [activate_of_aimed granted aimed] at run
  rcases carried : activation.carryOut before.rules before.sources
      (before.opening .activate activation.actor activation.target activation.tier)
    with ⟨error | other, resolved⟩
  · cases run.symm.trans (run_bind_error (run_resolving carried))
  · rw [run_bind_ok (run_resolving carried)] at run
    obtain ⟨same, rfl⟩ := Prod.mk.inj run
    obtain rfl := Except.ok.inj same
    exact ⟨actor, resolved, rfl, rfl, rfl⟩

/-- A move that was answered was granted, and used up the mover's step. -/
theorem move_eq_ok {actor : CombatantId} {goal : Cell} {report : MoveReport}
    (run : move actor goal before = (.ok report, after)) :
    ∃ mover middle, before.requireTurn actor = .ok mover ∧ mover.turn.moved = false ∧
      before.field.place actor goal = .ok middle ∧
      after.field = middle.update actor fun mover' =>
        { mover' with facing := .toward mover.position goal, turn.moved := true } := by
  unfold move at run
  rw [run_get_bind] at run
  rcases granted : before.requireTurn actor with error | mover
  · rw [granted] at run
    cases run
  rw [granted, settle_ok, run_pure_bind] at run
  split at run
  · cases run
  case isFalse left =>
    rcases refused : before.refusal? mover goal with _ | reason
    · rcases placed : before.field.place actor goal with error | middle
      · simp only [refused, placed, settle_error, run_throw_bind] at run
        cases run
      · simp only [refused, placed, settle_ok, run_pure_bind] at run
        obtain ⟨-, rfl⟩ := Prod.mk.inj run
        exact ⟨mover, middle, rfl, Bool.eq_false_iff.mpr left, rfl, rfl⟩
    · simp only [refused] at run
      cases run

/-! ### What they do to those on the field -/

/-- An attack that is answered only treats combatants, and uses up the attacker's action unless it
was given up. -/
theorem attack_treats (mild : before.rules.Mild allowed) (lenient : Lenient allowed)
    {request : AttackRequest} {report : AttackReport}
    (run : attack request before = (.ok report, after)) :
    ∃ field, before.field.Treated allowed field ∧ after.field = if report.aborted then field
      else field.update request.attacker fun attacker => { attacker with turn.action := true } := by
  obtain ⟨attacker, target, resolved, -, -, -, carried, rfl⟩ := attack_eq_ok run
  have treated := Strike.treated_carryOut ⟨before.rules, before.sources, request,
    .assess before.field attacker target, attacker.name, target.name⟩
    (before.opening .onAttack request.attacker (some request.target) request.tier) mild lenient
  refine ⟨resolved.field, treated.of_run carried, ?_⟩
  split
  case isTrue aborted => exact Combat.field_afterAttack_of_aborted aborted
  case isFalse going => exact Combat.field_afterAttack_of_going going

/-- So does an ability. -/
theorem activate_treats (mild : before.rules.Mild allowed) (lenient : Lenient allowed)
    {activation : Activation} {report : ActivationReport}
    (run : activate activation before = (.ok report, after)) :
    ∃ field, before.field.Treated allowed field ∧ after.field = if report.aborted then field
      else field.update activation.actor fun actor => { actor with turn.action := true } := by
  obtain ⟨actor, resolved, -, carried, rfl⟩ := activate_eq_ok run
  have treated := Activation.treated_carryOut activation before.sources
    (before.opening .activate activation.actor activation.target activation.tier) mild lenient
  refine ⟨resolved.field, treated.of_run carried, ?_⟩
  split
  case isTrue aborted => exact Combat.field_afterActivation_of_aborted aborted
  case isFalse going => exact Combat.field_afterActivation_of_going going

/-- So does the contest that is due, whether it fails or not. -/
theorem resolveClash_treats (stat : Option Stat) :
    before.field.Treated allowed (resolveClash stat before).2.field := by
  rcases due : before.state with _ | _ | pending | _
  case clash =>
    have treated := Contest.treated_hold allowed { field := before.field, dice := before.dice }
      before.config before.clashTable pending (stat.getD pending.stat)
    rcases run : Contest.hold before.config before.clashTable pending (stat.getD pending.stat)
        { field := before.field, dice := before.dice } with ⟨error | report, scene⟩
    · rw [resolveClash_of_failed due run]
      exact treated.of_run run
    · obtain ⟨events, eq⟩ := resolveClash_of_run due stat run
      rw [eq, Combat.field_checkFinished]
      exact treated.of_run run
  all_goals
    unfold resolveClash
    rw [run_get_bind]
    simp only [due]
    exact List.forall₂_refl before.field.roster

end Fight

/-! ### Actions in the course of a turn -/

/-- What an action does to somebody: it treats it, or uses up what its turn allows. -/
inductive Combatant.Engages (allowed : String → Prop) (one : Combatant) : Combatant → Prop
  | treated {new : Combatant} (treats : one.Treats allowed new) : Engages allowed one new
  | acted : Engages allowed one { one with turn.action := true }
  | moved (facing : Facing) : Engages allowed one { one with facing, turn.moved := true }

/-- What actions do to somebody. -/
abbrev Combatant.Engaged (allowed : String → Prop) : Combatant → Combatant → Prop :=
  Relation.ReflTransGen (Engages allowed)

/-- Everyone stays in its place in the roster, and nothing but actions changes it. -/
def Battlefield.Engaged (allowed : String → Prop) (before after : Battlefield) : Prop :=
  List.Forall₂ (Combatant.Engaged allowed) before.roster after.roster

namespace Battlefield

variable {before middle after field : Battlefield} {id : CombatantId}

instance : Std.Refl (Engaged allowed) := ⟨fun field => List.forall₂_refl field.roster⟩

theorem Engaged.trans (first : before.Engaged allowed middle)
    (second : middle.Engaged allowed after) : before.Engaged allowed after :=
  forall₂_trans first second

theorem Treated.engaged (treated : before.Treated allowed after) : before.Engaged allowed after :=
  treated.imp (Relation.ReflTransGen.mono fun _ _ => Combatant.Engages.treated)

theorem engaged_update {change : Combatant → Combatant}
    (engages : ∀ one : Combatant, one.Engages allowed (change one)) :
    field.Engaged allowed (field.update id change) :=
  forall₂_updateFirst fun one _ => .single (engages one)

/-- An action is used up, unless it was given up. -/
theorem Treated.engaged_use (treated : before.Treated allowed after) (id : CombatantId)
    (aborted : Bool) : before.Engaged allowed
      (if aborted then after else after.update id fun one => { one with turn.action := true }) := by
  split
  · exact treated.engaged
  · exact treated.engaged.trans (engaged_update fun _ => .acted)

end Battlefield

/-- **What an action does to those on the field**, but for the end of a turn. -/
theorem Combat.engaged_act {combat : Combat} (mild : combat.rules.Mild allowed)
    (lenient : Lenient allowed) {action : CombatAction} (other : action ≠ .endTurn) :
    combat.field.Engaged allowed (combat.after (.act action)).field := by
  cases action with
  | attack request =>
    have run := Fight.run_attack mild.stock request
    rw [after_act, perform_attack]
    generalize outcome : Fight.attack request combat = result at run
    cases run with
    | refused error => exact Std.Refl.refl combat.field
    | made =>
      obtain ⟨field, treated, eq⟩ := Fight.attack_treats mild lenient outcome
      rw [eq]
      exact treated.engaged_use _ _
  | activate activation =>
    have run := Fight.run_activate mild.stock activation
    rw [after_act, perform_activate]
    generalize outcome : Fight.activate activation combat = result at run
    cases run with
    | refused error => exact Std.Refl.refl combat.field
    | made =>
      obtain ⟨field, treated, eq⟩ := Fight.activate_treats mild lenient outcome
      rw [eq]
      exact treated.engaged_use _ _
  | move actor goal =>
    have run := Fight.run_move combat actor goal
    rw [after_act, perform_move]
    generalize outcome : Fight.move actor goal combat = result at run
    cases run with
    | refused error => exact Std.Refl.refl combat.field
    | made =>
      obtain ⟨mover, middle, -, -, placed, eq⟩ := Fight.move_eq_ok outcome
      rw [eq]
      exact (treated_place placed).engaged.trans (engaged_update fun _ => .moved _)
  | resolveClash stat =>
    rw [after_act, perform_resolveClash]
    exact (Fight.resolveClash_treats stat).engaged
  | endTurn => exact absurd rfl other

/-! ### Turns that begin -/

theorem Terrain.treats_scorch (terrain : Terrain) (one : Combatant) :
    one.Treated allowed (terrain.scorch one) := by
  unfold Terrain.scorch Combat.suffer
  cases terrain.hazard? one.position with
  | none => exact .refl
  | some hazard => exact .single (.drained .hitPoints _)

namespace Battlefield

variable {field : Battlefield}

theorem treated_age (field : Battlefield) : field.Treated allowed field.age := by
  unfold Treated age
  refine List.forall₂_map_right_iff.mpr (List.forall₂_same.mpr fun one _ => ?_)
  split
  · exact .single .aged
  · exact .refl

/-- The beginning of a turn only treats combatants, and leaves whoever begins it with a fresh turn if
it survives. -/
theorem treated_begun (allowed : String → Prop) (field : Battlefield) (id : CombatantId)
    (tickDue : Bool) :
    ∃ middle, field.Treated allowed middle ∧
      (field.begun id tickDue = middle ∨ field.begun id tickDue = middle.update id (·.resetTurn)) := by
  unfold begun
  split
  · exact ⟨field, Std.Refl.refl field, .inl rfl⟩
  · rename_i one found
    have burns : field.Treated allowed (field.update id fun _ => field.terrain.scorch one) :=
      treated_update fun other eq => by
        obtain rfl := Option.some.inj (found.symm.trans eq)
        exact field.terrain.treats_scorch one
    have ages : field.Treated allowed
        (if tickDue then (field.update id fun _ => field.terrain.scorch one).age
        else field.update id fun _ => field.terrain.scorch one) := by
      split
      · exact burns.trans (treated_age _)
      · exact burns
    refine ⟨_, ages, ?_⟩
    dsimp only
    split
    · exact .inl rfl
    · split
      · exact .inr rfl
      · exact .inl rfl

end Battlefield

end Skirmish
