/-
**What actions come to.** Once an attack or an ability is under way, no step of it fails: its texts
note their failures, and whoever it needs is on the field.

* `Strike.run_carryOut`: an attack is aborted exactly if its texts abort it, and then the field is as
  they left it; otherwise the field endures its damage;
* `Activation.run_carryOut`: the same for an ability.
-/

import Skirmish.Combat.Ability
import Skirmish.Proofs.Delivery

namespace Skirmish

open Resolve Resolution Battlefield

variable {before middle after : Resolution} {rules : RuleTable} {sources : SourceBook}

/-! ### Texts on the way -/

/-- Resolving the texts of a combatant never fails. -/
theorem Resolve.run_dispatch (rules : RuleTable) (sources : SourceBook) (who : CombatantId)
    (more : List String) (hook : Hook) (before : Resolution) :
    dispatch rules sources who more hook before
      = (.ok (rules.resolveAll (sources.texts who more) { before with hook }).1,
        (rules.resolveAll (sources.texts who more) { before with hook }).2) := rfl

/-- An action of `who` against a target is under way, and everyone whom it needs is on the field. -/
structure Resolution.Ready (who : CombatantId) (target : Option CombatantId)
    (resolution : Resolution) : Prop where
  actor : resolution.actor = who
  target : resolution.target = target
  acting : resolution.field.Present resolution.actor
  aimed : ∀ id, resolution.target = some id → resolution.field.Present id
  known : resolution.Known

section Ready

variable {who : CombatantId} {target : Option CombatantId}

theorem Resolution.Ready.course (ready : before.Ready who target)
    (course : Course who target before after) : after.Ready who target where
  actor := (Frame.actor course).trans ready.actor
  target := (Frame.target course).trans ready.target
  acting := Frame.actor course ▸ course.field.moves.present.mpr ready.acting
  aimed id aim := course.field.moves.present.mpr (ready.aimed id (Frame.target course ▸ aim))
  known := course.known ready.known

/-- Whatever any texts say, they keep to the course of the action. -/
theorem RuleTable.Stock.course (stock : rules.Stock) (ready : before.Ready who target)
    (texts : List String) : Course who target before (rules.resolveAll texts before).2 := by
  have course : Course before.actor before.target before (rules.resolveAll texts before).2 :=
    stock.resolveAll texts
  rwa [ready.actor, ready.target] at course

theorem Resolution.Ready.dispatch (ready : before.Ready who target) (stock : rules.Stock)
    (speaker : CombatantId) (more : List String) (hook : Hook) :
    Succeeds (Course who target) (dispatch rules sources speaker more hook) before := by
  refine ⟨_, _, run_dispatch rules sources speaker more hook before, ?_⟩
  have hooked : ({ before with hook } : Resolution).Ready who target :=
    ⟨ready.actor, ready.target, ready.acting, ready.aimed, ready.known⟩
  have course := stock.course hooked (sources.texts speaker more)
  exact ⟨course.premises, course.field, course.known, course.capped⟩

theorem Resolution.Ready.deliver (ready : before.Ready who target) :
    Delivery.Deals who target (fun report => report) (Delivery.deliver target) before := by
  obtain ⟨rfl, rfl, acting, aimed, known⟩ := ready
  obtain ⟨report, after, run, endures, accounts⟩ := Delivery.run_deliver acting aimed known
  exact ⟨report, after, run, accounts.delivers endures⟩

end Ready

/-- How an action ends: its damage is delivered, unless its texts made it be given up, and then
everything is as they left it. -/
structure Ends (before asked : Resolution) (givenUp : Bool) (damage : DamageReport)
    (after : Resolution) : Prop where
  delivers : Delivery.Delivers before.actor before.target before damage after
  aborted : givenUp = asked.tally.aborted
  asked : givenUp → after = asked

/-! ### Attacks -/

namespace Strike

open Delivery

/-- The texts of the attacker. -/
def Setting.texts (setting : Setting) : List String :=
  setting.sources.texts setting.request.attacker setting.request.effects

/-- The state in which the texts of the attacker are resolved while the attack is undecided. -/
def Setting.opened (setting : Setting) (before : Resolution) : Resolution :=
  { before with
    dice := (DicePair.draw before.dice).2
    hook := .onAttack
    tally := { before.tally with
      advantage := !setting.tactics.advantages.isEmpty
      disadvantage := !setting.tactics.disadvantages.isEmpty } }

variable {setting : Setting}

theorem run_drawPair (before : Resolution) : drawPair before
    = (.ok (DicePair.draw before.dice).1, { before with dice := (DicePair.draw before.dice).2 }) :=
  rfl

/-- An attack is given up where its texts abort it, and followed through otherwise. -/
theorem carryOut_eq (setting : Setting) (before : Resolution) : carryOut setting before
    = let after := (setting.rules.resolveAll setting.texts (setting.opened before)).2
      if after.tally.aborted then
        (.ok { setting.report [.idle, .rollAttack, .resolveAttackHooks] with
          aborted := true
          faults := after.faults
          log := after.log }, after)
      else followThrough setting (DicePair.draw before.dice).1 after := by
  unfold carryOut
  rw [run_bind_ok (run_drawPair before), run_bind_ok (run_tally _), run_bind_ok (run_dispatch ..),
    run_get_bind]
  show (if (setting.rules.resolveAll setting.texts (setting.opened before)).2.tally.aborted
    then _ else _ : Resolve AttackReport) _ = _
  dsimp only
  split <;> rfl

section Steps

variable {who id : CombatantId} {target : Option CombatantId}

theorem succeeds_drawPair : Succeeds (Course who target) drawPair before :=
  .of_steady ⟨_, _, rfl, .of_same rfl rfl rfl rfl rfl⟩

theorem succeeds_attackLine (ready : before.Ready who target) (dice : DicePair) :
    Succeeds (Course who target) (attackLine setting dice) before :=
  .get (.get (.require ready.acting fun _ _ => .pure _))

theorem succeeds_defenseLine (ready : before.Ready who (some id)) (dice : DicePair) :
    Succeeds (Course who (some id)) (defenseLine setting dice) before :=
  .get (.targetId ready.target (.require (ready.aimed id ready.target) fun _ _ => .pure _))

theorem succeeds_decideTier (attack defense : RollLine) (margin : Int) :
    Succeeds (Course who target) (decideTier setting attack defense margin) before := by
  refine .get (.bind (.of_steady (.of_leads (steady_narrate _) rfl)) fun _ told _ _ => ?_)
  split
  · exact .bind (.of_steady (.of_leads (steady_narrate _) rfl)) fun _ _ _ _ => .pure _
  · exact .pure _

theorem succeeds_graze (ready : before.Ready who (some id)) :
    Succeeds (Course who (some id)) (graze setting) before := by
  refine .targetId ready.target (.require (ready.aimed id ready.target) fun one found => .get ?_)
  obtain rfl := id_of_find? found
  have wanes := Combatant.wanes_damagePool one .composure before.config.grazeComposure
  refine .bind (.of_steady (.of_leads (steady_replace (party_target rfl) found wanes) rfl))
    fun _ _ _ _ => ?_
  exact .of_steady (.of_leads (steady_narrate _) rfl)

theorem succeeds_unarmed (ready : before.Ready who target) :
    Succeeds (Course who target) (unarmed setting) before := by
  refine .get (.bind (.of_steady (.of_leads (steady_roll _) rfl)) fun rolled middle _ course => ?_)
  refine .get (.require (ready.course course).acting fun one _ => .of_steady ?_)
  exact .of_leads (steady_tally rfl rfl) rfl

theorem succeeds_muster (stock : setting.rules.Stock) (ready : before.Ready who target)
    (critical : Bool) : Succeeds (Course who target) (muster setting critical) before := by
  refine .bind (ready.dispatch stock ..) fun _ asked _ toAsked => .get ?_
  have ready' := ready.course toAsked
  cases critical with
  | false =>
    simp only [Bool.false_eq_true, ↓reduceIte]
    split
    · exact .bind (succeeds_unarmed ready') fun _ _ _ _ => .pure ()
    · exact .pure ()
  | true =>
    simp only [↓reduceIte]
    split
    · exact .bind (succeeds_unarmed ready') fun _ _ _ _ =>
        .of_steady (.of_leads (steady_tally rfl rfl) rfl)
    · exact .of_steady (.of_leads (steady_tally rfl rfl) rfl)

/-- An injury moves nobody and takes no hit points. -/
theorem succeeds_inflict (injury : Injury) (present : before.field.Present id) :
    Succeeds (Steady (Confined who (some id) Rests)) (injury.inflict id) before := by
  refine .require present fun victim found => ?_
  obtain rfl := id_of_find? found
  refine .bind (.of_leads (calm_replace (party_target rfl) found ?_) rfl) fun _ _ _ _ => ?_
  · exact Combatant.bearing_of_pools (by simp) (by simp)
  · exact .of_leads (steady_narrate _) rfl

theorem succeeds_maim (aim : before.target = some setting.request.target)
    (present : before.field.Present setting.request.target) :
    Succeeds (Steady (Confined who (some setting.request.target) Rests)) (maim setting) before := by
  refine .targetId aim (.require present fun victim _ => ?_)
  split
  · refine .bind ⟨_, _, rfl, .of_same rfl rfl rfl rfl rfl⟩ fun injury drawn _ steady => ?_
    have present' := steady.field.moves.evolves.present.mpr present
    exact (succeeds_inflict injury present').bind fun _ _ _ _ => .pure _
  · exact .pure none

/-- A hit never fails. -/
theorem deals_land (stock : setting.rules.Stock)
    (ready : before.Ready who (some setting.request.target)) (critical : Bool) :
    Deals who (some setting.request.target) Prod.fst (land setting critical) before := by
  refine .bind (.of_steady (.of_leads (steady_narrate _) rfl)) fun _ told _ toTold => ?_
  refine .bind (succeeds_muster stock (ready.course toTold) critical) fun _ mustered _ toMustered => ?_
  have ready' := (ready.course toTold).course toMustered
  have ends : Deals who (some setting.request.target) Prod.fst
      (Delivery.deliver (some setting.request.target) >>= fun damage =>
        (if critical then maim setting else Pure.pure none) >>= fun injury =>
          Pure.pure (damage, injury)) mustered := by
    refine ready'.deliver.ending (fun damage delivered delivers => ?_) fun _ _ => rfl
    have aim : delivered.target = some setting.request.target :=
      (congrArg Premises.target delivers.premises).trans ready'.target
    split
    · exact succeeds_maim aim
        (delivers.endures.toShifts.present.mpr (ready'.aimed _ ready'.target))
    · exact .pure none
  cases critical <;> exact ends

/-- No attack fails, whatever its tier. -/
theorem deals_outcome (stock : setting.rules.Stock)
    (ready : before.Ready who (some setting.request.target)) (tier : AttackTier) :
    Deals who (some setting.request.target) Prod.fst (outcome setting tier) before := by
  cases tier with
  | miss | clash =>
    exact .bind (.of_steady (.of_leads (steady_narrate _) rfl)) fun _ _ _ _ => .pure rfl
  | graze => exact .bind (succeeds_graze ready) fun _ _ _ _ => .pure rfl
  | hit => exact deals_land stock ready false
  | crit => exact deals_land stock ready true

theorem deals_followThrough (stock : setting.rules.Stock)
    (ready : before.Ready who (some setting.request.target)) (dice : DicePair) :
    Deals who (some setting.request.target) AttackReport.damage (followThrough setting dice)
      before := by
  refine .bind (succeeds_attackLine ready dice) fun attack one _ toOne => ?_
  refine .bind succeeds_drawPair fun dice' two _ toTwo => ?_
  have ready := (ready.course toOne).course toTwo
  refine .bind (ready.dispatch stock ..) fun _ three _ toThree => ?_
  have ready := ready.course toThree
  refine .bind (succeeds_defenseLine ready dice') fun defense four _ toFour => .get ?_
  refine .bind (succeeds_decideTier attack defense _) fun tier five _ toFive => ?_
  have ready := (ready.course toFour).course toFive
  exact (deals_outcome stock ready tier).ending (fun _ _ _ => .get (.pure _)) fun _ _ => rfl

end Steps

theorem returns_followThrough (dice : DicePair) :
    Returns (fun report => report.aborted = false ∧ report.attacker = setting.request.attacker)
      (followThrough setting dice) :=
  .bind fun _ => .bind fun _ => .bind fun _ => .bind fun _ => .bind fun _ => .bind fun _ =>
    .bind fun _ => .bind fun _ => .pure ⟨rfl, rfl⟩

/-- **An attack never fails** once it is under way. -/
theorem run_carryOut (setting : Setting) (stock : setting.rules.Stock) {who : CombatantId}
    (ready : before.Ready who (some setting.request.target)) :
    ∃ report after, carryOut setting before = (.ok report, after) ∧
      report.attacker = setting.request.attacker ∧
      Ends before (setting.rules.resolveAll setting.texts (setting.opened before)).2
        report.aborted report.damage after := by
  have opens : Course who (some setting.request.target) before (setting.opened before) :=
    ⟨rfl, Std.Refl.refl before.field, fun known => known,
      fun capped => ⟨capped.lifesteal, capped.reflect⟩⟩
  have resolves := stock.course (ready.course opens) setting.texts
  rw [carryOut_eq]
  generalize (setting.rules.resolveAll setting.texts (setting.opened before)).2 = asked at *
  have course := Frame.trans opens resolves
  by_cases aborted : asked.tally.aborted
  · simp only [aborted, ↓reduceIte]
    refine ⟨_, asked, rfl, rfl, ?_, aborted.symm, fun _ => rfl⟩
    rw [ready.actor, ready.target]
    exact .of_course course rfl
  · obtain ⟨report, after, run, delivers⟩ :=
      deals_followThrough stock (ready.course course) (DicePair.draw before.dice).1
    obtain ⟨going, acts⟩ := returns_followThrough _ _ _ _ run
    simp only [aborted, Bool.false_eq_true, ↓reduceIte]
    refine ⟨report, after, run, acts, ?_, ?_, fun given => ?_⟩
    · rw [ready.actor, ready.target]
      exact delivers.course_trans course
    · simpa [going] using aborted
    · exact absurd (given.symm.trans going) (by simp)

end Strike

/-! ### Abilities -/

namespace Activation

open Delivery

variable {activation : Activation}

/-- The state in which the texts of an ability are resolved. -/
def opened (activation : Activation) (actor : Combatant) (before : Resolution) : Resolution :=
  { before with log := before.log ++ [s!"{actor.name} uses {activation.name}."] }

theorem deals_followThrough (stock : rules.Stock) {who : CombatantId}
    (ready : before.Ready who activation.target) :
    Deals who activation.target (fun report => report) (activation.followThrough rules sources)
      before := by
  unfold followThrough
  split
  · refine .get ?_
    split
    · exact .bind (ready.dispatch stock ..) fun _ middle _ course => (ready.course course).deliver
    · exact ready.deliver
  · exact ready.deliver

/-- The report of an ability, from where its damage has been delivered. -/
def concluded (activation : Activation) (matched : Nat) (aborted : Bool) (damage : DamageReport)
    (resolution : Resolution) : ActivationReport where
  actor := activation.actor
  target := activation.target
  name := activation.name
  matched := matched
  aborted := aborted
  damage := damage
  faults := resolution.faults
  log := resolution.log

/-- An ability is given up where its texts abort it, and followed through otherwise. -/
theorem carryOut_eq {actor : Combatant} (found : before.field.find? activation.actor = some actor) :
    activation.carryOut rules sources before
      = let (matched, asked) :=
          rules.resolveAll (activation.orderedEffects rules) (activation.opened actor before)
        if asked.tally.aborted then (.ok (activation.concluded matched true {} asked), asked)
        else (activation.followThrough rules sources >>= fun damage =>
          get >>= fun resolution =>
            Pure.pure (activation.concluded matched false damage resolution)) asked := by
  have resolves : ∀ told : Resolution, certainly (rules.resolveAll (activation.orderedEffects rules))
      told = (.ok (rules.resolveAll (activation.orderedEffects rules) told).1,
        (rules.resolveAll (activation.orderedEffects rules) told).2) := fun _ => rfl
  unfold carryOut
  rw [run_bind_ok (run_require found), run_narrate_bind, run_bind_ok (resolves _), run_get_bind]
  show _ = if (rules.resolveAll (activation.orderedEffects rules)
    (activation.opened actor before)).2.tally.aborted then _ else _
  by_cases aborted : (rules.resolveAll (activation.orderedEffects rules)
      (activation.opened actor before)).2.tally.aborted
  · have aborted' := aborted
    unfold opened at aborted'
    rw [if_pos aborted]
    simp only [aborted', ↓reduceIte]
    rfl
  · have aborted' := aborted
    unfold opened at aborted'
    rw [if_neg aborted]
    simp only [aborted', Bool.false_eq_true, ↓reduceIte]
    rfl

/-- **An ability never fails** once it is under way. -/
theorem run_carryOut (sources : SourceBook) (stock : rules.Stock)
    (ready : before.Ready activation.actor activation.target) :
    ∃ actor report after, before.field.find? activation.actor = some actor ∧
      activation.carryOut rules sources before = (.ok report, after) ∧
      report.actor = activation.actor ∧
      Ends before (rules.resolveAll (activation.orderedEffects rules)
        (activation.opened actor before)).2 report.aborted report.damage after := by
  obtain ⟨actor, found⟩ := (ready.actor ▸ ready.acting).find?
  have opens : Course activation.actor activation.target before (activation.opened actor before) :=
    ⟨rfl, Std.Refl.refl before.field, fun known => known, fun capped => capped⟩
  have resolves := stock.course (ready.course opens) (activation.orderedEffects rules)
  refine ⟨actor, ?_⟩
  rw [carryOut_eq found]
  generalize rules.resolveAll (activation.orderedEffects rules) (activation.opened actor before)
    = ran at *
  obtain ⟨matched, asked⟩ := ran
  have course := Frame.trans opens resolves
  by_cases aborted : asked.tally.aborted
  · simp only [aborted, ↓reduceIte]
    refine ⟨_, asked, found, rfl, rfl, ?_, aborted.symm, fun _ => rfl⟩
    rw [ready.actor, ready.target]
    exact .of_course course rfl
  · simp only [aborted, Bool.false_eq_true, ↓reduceIte]
    have deals : Deals activation.actor activation.target ActivationReport.damage
        (activation.followThrough rules sources >>=
        fun damage => get >>= fun resolution =>
          Pure.pure (activation.concluded matched false damage resolution)) asked :=
      (deals_followThrough stock (ready.course course)).ending
        (fun _ _ _ => .get (.pure _)) fun _ _ => rfl
    have returns : Returns (fun report : ActivationReport => report.aborted = false ∧
          report.actor = activation.actor)
        (activation.followThrough rules sources >>= fun damage => get >>= fun resolution =>
          Pure.pure (activation.concluded matched false damage resolution)) :=
      .bind fun _ => .bind fun _ => .pure ⟨rfl, rfl⟩
    obtain ⟨report, after, run, delivers⟩ := deals
    obtain ⟨going, acts⟩ := returns _ _ _ run
    refine ⟨report, after, found, run, acts, ?_, ?_, fun given => ?_⟩
    · rw [ready.actor, ready.target]
      exact delivers.course_trans course
    · simpa [going] using aborted
    · exact absurd (given.symm.trans going) (by simp)

end Activation

end Skirmish
