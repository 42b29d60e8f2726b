/-
**What a target is spared.** With texts that only make it take damage better a target faces the same
rolls, and it never loses more:

* `Combatant.lost_takeDamage_mono`, `firmer_gather`: more damage never costs less, and a firmer guard
  makes for firmer defenses;
* `Strike.spares_land`: a hit that is met by a firmer guard takes no more, nor does one that is critical
  no longer;
* `Strike.spares_outcome`, `spares_followThrough`, `spares_carryOut`: the stages of an attack, from the
  last one to the whole;
* `Fight.spares_attack`: an attack, whether it is refused or carried out.
-/

import Skirmish.Proofs.Bracing
import Skirmish.Proofs.Mitigation

namespace Skirmish

open Resolve Resolution Battlefield

/-! ### Less damage -/

/-- More damage never costs fewer hit points. -/
theorem Combatant.lost_takeDamage_mono (one : Combatant) {less more : Int} (le : less ≤ more) :
    one.lost (one.takeDamage less) .hitPoints ≤ one.lost (one.takeDamage more) .hitPoints := by
  have drained : ((one.pools.hitPoints.drain more).current)
      ≤ (one.pools.hitPoints.drain less).current := by
    simp only [Gauge.drain, Gauge.adjust, clamp, saturatingAdd, saturate]
    omega
  simp only [Combatant.lost, Combatant.pool, Pools.get, Combatant.hitPoints_takeDamage]
  omega

/-- A firmer guard makes for firmer defenses. -/
theorem firmer_gather {tally : Tally} {guard : Guard} (firmer : tally.guard.Firmer guard)
    (defender : Combatant) (kind : Option String) :
    (Defenses.gather tally defender kind).Firmer
      (Defenses.gather (tally.withGuard guard) defender kind) := by
  have listed : ∀ {kinds kinds' : List String}, kinds ⊆ kinds' →
      Defenses.listed kinds kind → Defenses.listed kinds' kind := by
    intro kinds kinds' subset holds
    obtain ⟨one, rfl, any⟩ := (Option.any_eq_true ..).mp holds
    obtain ⟨entry, mem, same⟩ := List.any_eq_true.mp any
    exact List.any_eq_true.mpr ⟨entry, subset mem, same⟩
  refine ⟨fun immune => ?_, fun resist => ?_, rfl, firmer.damageReduction⟩
  · exact Bool.or_eq_true_iff.mpr ((Bool.or_eq_true_iff.mp immune).imp_right
      (listed firmer.immunities))
  · exact Bool.or_eq_true_iff.mpr ((Bool.or_eq_true_iff.mp resist).imp_right
      (listed firmer.resistances))

/-! ### The stages of an attack -/

namespace Strike

variable {setting : Setting} {one other : Resolution}

theorem lockstep_dispatch {rules : RuleTable} (stock : rules.Stock) (sources : SourceBook)
    (who : CombatantId) (more : List String) (hook : Hook) :
    Lockstep (dispatch rules sources who more hook) := by
  intro one other braced
  rw [run_dispatch, run_dispatch]
  have heard : { one with hook := hook }.Braced { other with hook := hook } := by
    obtain ⟨log, faults, guard, firmer, bounded⟩ := braced
    exact .intro log faults guard firmer bounded
  obtain ⟨same, later⟩ := stock.lockstep_resolveAll (sources.texts who more) _ _ heard
  exact ⟨by rw [same], later⟩

theorem lockstep_attackLine (dice : DicePair) : Lockstep (attackLine setting dice) :=
  .get (fun _ _ _ _ => rfl) fun _ => .get (fun _ _ _ _ => rfl) fun _ => .require fun _ => .pure _

theorem lockstep_defenseLine (dice : DicePair) : Lockstep (defenseLine setting dice) :=
  .get (fun _ _ _ _ => rfl) fun _ => .targetId fun _ => .require fun _ => .pure _

theorem lockstep_unarmed : Lockstep (unarmed setting) :=
  .get (fun _ _ _ _ => rfl) fun _ => (Lockstep.roll _).bind fun _ => .get (fun _ _ _ _ => rfl)
    fun _ => .require fun _ => .tally (fun _ _ => rfl)
      fun _ _ mem => .inr (Option.some.inj mem ▸ (saturate_fits _).2)

theorem lockstep_muster (stock : setting.rules.Stock) : Lockstep (muster setting false) := by
  refine (lockstep_dispatch stock _ _ _ _).bind fun _ => .get (fun _ _ _ _ => rfl) fun resolution => ?_
  simp only [Bool.false_eq_true, ↓reduceIte]
  split
  · exact lockstep_unarmed.bind fun _ => .pure ()
  · exact .pure ()

/-- A critical hit is a hit whose damage counts twice. -/
theorem muster_true : muster setting true = (muster setting false >>= fun _ =>
    tally fun tally => { tally with
      pendingDamage := tally.pendingDamage.map fun damage => saturate (2 * damage) }) := by
  unfold muster
  simp only [bind_assoc, Bool.false_eq_true, ↓reduceIte]
  refine congrArg _ (funext fun _ => congrArg _ (funext fun resolution => ?_))
  split <;> simp only [bind_assoc, pure_bind]

/-- The damage of a hit, which counts twice if it is critical. -/
theorem muster_eq_ok {critical : Bool} {before after : Resolution}
    (run : muster setting critical before = (.ok (), after)) :
    ∃ mustered, muster setting false before = (.ok (), mustered) ∧
      after = { mustered with tally := { mustered.tally with
        pendingDamage := mustered.tally.pendingDamage.map fun damage =>
          if critical then saturate (2 * damage) else damage } } := by
  cases critical with
  | false => exact ⟨after, run, by simp⟩
  | true =>
    rw [muster_true] at run
    obtain ⟨_, mustered, musters, doubles⟩ := exists_of_run_bind run
    exact ⟨mustered, musters, (Prod.mk.inj doubles).2.symm⟩

/-- The same attack where the combatants have other texts. -/
def Setting.supplied (setting : Setting) (sources : SourceBook) : Setting := { setting with sources }

/-- Its damage is the same where the texts of the attacker are. -/
theorem muster_supplied {sources : SourceBook} (critical : Bool)
    (same : sources.texts setting.request.attacker setting.request.effects = setting.texts) :
    muster (setting.supplied sources) critical = muster setting critical := by
  have dispatches : dispatch setting.rules sources setting.request.attacker setting.request.effects
      .onHit = dispatch setting.rules setting.sources setting.request.attacker
        setting.request.effects .onHit := by
    unfold dispatch
    rw [same]
    rfl
  unfold muster
  show (dispatch setting.rules sources setting.request.attacker setting.request.effects .onHit
    >>= fun _ => _) = _
  rw [dispatches]
  rfl

/-- A step that succeeds twice in lockstep returns the same. -/
theorem eq_of_lockstep {α : Type} {step : Resolve α} (lockstep : Lockstep step)
    (braced : one.Braced other) {value value' : α} {after after' : Resolution}
    (run : step one = (.ok value, after)) (run' : step other = (.ok value', after')) :
    value' = value ∧ after.Braced after' := by
  obtain ⟨same, later⟩ := lockstep one other braced
  rw [run, run'] at same later
  exact ⟨(Except.ok.inj same).symm, later⟩

end Strike

namespace Delivery

variable {one other : Resolution} {target : CombatantId}

/-- What the target loses is what the blow against it took. -/
theorem primary_of_deliver {before after : Resolution} {report : DamageReport}
    (run : deliver (some target) before = (.ok report, after)) :
    before.tally.pendingDamage = none ∧ report.primary = 0 ∨
      ∃ base middle, before.tally.pendingDamage = some base ∧
        strikeTarget before.tally base target before = (.ok report.primary, middle) := by
  rw [deliver_eq] at run
  obtain ⟨dealt, struck, deals, rest⟩ := exists_of_run_bind run
  obtain ⟨_, middle, -, same⟩ := exists_of_run_bind rest
  obtain rfl := Except.ok.inj (Prod.mk.inj same).1
  rcases pending : before.tally.pendingDamage with _ | base
  · rw [pending] at deals
    exact .inl ⟨rfl, congrArg DamageReport.primary (Except.ok.inj (Prod.mk.inj deals).1).symm⟩
  · rw [pending] at deals
    change deliverDamage before.tally base (some target) before = _ at deals
    unfold deliverDamage at deals
    obtain ⟨primary, hit, strikes, others⟩ := exists_of_run_bind deals
    have kept : dealt.primary = primary := by
      refine (?_ : Returns (fun report : DamageReport => report.primary = primary) _) _ _ _ others
      exact .bind fun _ => .bind fun _ => .bind fun _ => .bind fun _ => .pure rfl
    exact .inr ⟨base, hit, rfl, kept ▸ strikes⟩

/-- What the target loses is what defenses leave of the damage. -/
theorem strikeTarget_eq_ok {tally : Tally} {base lost : Int} {before after : Resolution}
    (run : strikeTarget tally base target before = (.ok lost, after)) :
    ∃ struck, before.field.find? target = some struck ∧
      lost = struck.lost (struck.takeDamage (mitigate base
        (Defenses.gather tally struck tally.damageType) tally.ignoreArmor tally.ignoreResistance))
        .hitPoints := by
  obtain ⟨struck, middle, requires, strikes⟩ := exists_of_run_bind run
  rcases there : before.field.require target with error | found
  · have refused : Resolve.require target before = (.error error, before) := by
      show (settle (before.field.require target) : Resolve Combatant) before = _
      rw [there]
      rfl
    rw [refused] at requires
    cases requires
  have found := Battlefield.require_eq_ok.mp there
  rw [run_require found] at requires
  obtain ⟨same, rfl⟩ := Prod.mk.inj requires
  obtain rfl := Except.ok.inj same
  obtain ⟨log, struck⟩ := run_strike before found (mitigate base
    (Defenses.gather tally _ tally.damageType) tally.ignoreArmor tally.ignoreResistance)
    tally.damageType
  rw [struck] at strikes
  exact ⟨_, found, (Except.ok.inj (Prod.mk.inj strikes).1).symm⟩

/-- A firmer guard against no more damage loses no more. -/
theorem strikeTarget_le {tally : Tally} {guard : Guard} (firmer : tally.guard.Firmer guard)
    (field : other.field = one.field) {base base' lost lost' : Int}
    (less : max base' 0 ≤ max base 0) {after after' : Resolution}
    (run : strikeTarget tally base target one = (.ok lost, after))
    (run' : strikeTarget (tally.withGuard guard) base' target other = (.ok lost', after')) :
    lost' ≤ lost := by
  obtain ⟨struck, found, rfl⟩ := strikeTarget_eq_ok run
  obtain ⟨struck', found', rfl⟩ := strikeTarget_eq_ok run'
  rw [field] at found'
  obtain rfl := Option.some.inj (found.symm.trans found')
  exact struck.lost_takeDamage_mono
    (mitigate_mono (firmer_gather firmer struck tally.damageType) less _ _)

end Delivery

namespace Strike

variable {setting : Setting} {sources : SourceBook} {one other : Resolution}

/-! ### A hit -/

/-- Lines apart, both resolutions stay the same. -/
theorem braced_told (braced : one.Braced other) (log log' : List String) :
    { one with log }.Braced { other with log := log' } := by
  obtain ⟨_, faults, guard, firmer, bounded⟩ := braced
  exact .intro log' faults guard firmer bounded

/-- The stages of a hit. -/
theorem land_eq_ok {critical : Bool} {result : DamageReport × Option String}
    {before after : Resolution} (run : land setting critical before = (.ok result, after)) :
    ∃ log mustered delivered, muster setting critical { before with log } = (.ok (), mustered) ∧
      Delivery.deliver (some setting.request.target) mustered = (.ok result.1, delivered) ∧
      (if critical then maim setting else Pure.pure none) delivered = (.ok result.2, after) := by
  unfold land at run
  rw [run_narrate_bind] at run
  obtain ⟨_, mustered, musters, rest⟩ := exists_of_run_bind run
  obtain ⟨damage, delivered, delivers, rest⟩ := exists_of_run_bind rest
  obtain ⟨injury, injured, injures, rest⟩ : ∃ injury injured,
      (if critical then maim setting else Pure.pure none) delivered = (.ok injury, injured) ∧
        (Pure.pure (damage, injury) : Resolve (DamageReport × Option String)) injured
          = (.ok result, after) := by
    cases critical <;> exact exists_of_run_bind rest
  obtain ⟨same, rfl⟩ := Prod.mk.inj rest
  obtain rfl := Except.ok.inj same
  exact ⟨_, mustered, delivered, musters, delivers, injures⟩

/-- What a hit takes from its target, once its damage is known. -/
inductive Takes (ready : Resolution) (target : CombatantId) (critical : Bool) : Int → Prop
  | nothing (none : ready.tally.pendingDamage = none) : Takes ready target critical 0
  | blow {damage lost : Int} {middle after : Resolution}
      (some : ready.tally.pendingDamage = some damage) (field : middle.field = ready.field)
      (strikes : Delivery.strikeTarget ready.tally
        (if critical then saturate (2 * damage) else damage) target middle = (.ok lost, after)) :
      Takes ready target critical lost

theorem takes_of_land {critical : Bool} {result : DamageReport × Option String}
    {before after : Resolution} (run : land setting critical before = (.ok result, after)) :
    ∃ log ready, muster setting false { before with log } = (.ok (), ready) ∧
      Takes ready setting.request.target critical result.1.primary := by
  obtain ⟨log, mustered, delivered, musters, delivers, -⟩ := land_eq_ok run
  obtain ⟨ready, readies, rfl⟩ := muster_eq_ok musters
  refine ⟨log, ready, readies, ?_⟩
  rcases Delivery.primary_of_deliver delivers with ⟨none, primary⟩ | ⟨base, struck, there, strikes⟩
  · rw [primary]
    exact .nothing (Option.map_eq_none_iff.mp none)
  · obtain ⟨damage, some, rfl⟩ := Option.map_eq_some_iff.mp there
    refine .blow some ?_ strikes
    rfl

/-- Damage that does not count twice is no more than damage that may. -/
theorem max_damage_le {damage : Int} (bounded : damage ≤ greatestInt) {critical critical' : Bool}
    (milder : critical' → critical) :
    max (if critical' then saturate (2 * damage) else damage) 0
      ≤ max (if critical then saturate (2 * damage) else damage) 0 := by
  unfold saturate leastInt greatestInt at *
  by_cases counts : critical'
  · simp only [counts, milder counts, ↓reduceIte, Int.le_refl]
  · rw [if_neg counts]
    split <;> omega

/-- **A hit that is met by a firmer guard, and is critical at most where the other one is, takes no more
from the target.** -/
theorem spares_land (stock : setting.rules.Stock)
    (same : sources.texts setting.request.attacker setting.request.effects = setting.texts)
    (braced : one.Braced other) {critical critical' : Bool} (milder : critical' → critical)
    {result result' : DamageReport × Option String} {after after' : Resolution}
    (run : land setting critical one = (.ok result, after))
    (run' : land (setting.supplied sources) critical' other = (.ok result', after')) :
    result'.1.primary ≤ result.1.primary := by
  obtain ⟨log, ready, readies, takes⟩ := takes_of_land run
  obtain ⟨log', ready', readies', takes'⟩ := takes_of_land run'
  rw [muster_supplied false same] at readies'
  obtain ⟨-, level⟩ := eq_of_lockstep (lockstep_muster stock) (braced_told braced log log') readies
    readies'
  obtain ⟨_, _, guard, firmer, bounded⟩ := level
  generalize result.1.primary = lost at takes ⊢
  generalize result'.1.primary = lost' at takes' ⊢
  cases takes with
  | nothing none =>
    cases takes' with
    | nothing => exact Int.le_refl 0
    | blow some' => cases none.symm.trans some'
  | @blow damage _ middle _ some field strikes =>
    cases takes' with
    | nothing none' => cases some.symm.trans none'
    | @blow damage' _ middle' _ some' field' strikes' =>
      obtain rfl : damage = damage' := Option.some.inj (some.symm.trans some')
      exact Delivery.strikeTarget_le firmer (field'.trans field.symm)
        (max_damage_le (bounded.damage damage some) milder) strikes strikes'

/-! ### The whole attack -/

/-- The tier of an attack, and that of the same attack against a firmer guard. -/
def Softens (tier tier' : AttackTier) : Prop := tier' = tier ∨ tier = .crit ∧ tier' = .hit

/-- A critical hit becomes a mere hit where the target takes none. -/
theorem run_decideTier_eq (setting : Setting) (one : Resolution) (attack defense : RollLine)
    (margin : Int) : ∃ log,
    decideTier setting attack defense margin one
      = (.ok (if AttackTier.classify margin attack.natural one.critThreshold one.config.thresholds
              = .crit ∧ one.tally.critImmune then .hit
            else AttackTier.classify margin attack.natural one.critThreshold one.config.thresholds),
          { one with log }) := by
  unfold decideTier
  rw [run_get_bind, run_narrate_bind]
  generalize AttackTier.classify margin attack.natural one.critThreshold one.config.thresholds = tier
  by_cases turned : tier = .crit ∧ one.tally.critImmune
  · have aside : (tier == .crit && one.tally.critImmune) = true := by simp [turned]
    rw [if_pos turned, if_pos aside]
    exact ⟨_, rfl⟩
  · have stays : ¬(tier == .crit && one.tally.critImmune) = true := by simpa using turned
    rw [if_neg turned, if_neg stays]
    exact ⟨_, rfl⟩

theorem softens_decideTier (braced : one.Braced other) {attack defense : RollLine} {margin : Int}
    {tier tier' : AttackTier} {after after' : Resolution}
    (run : decideTier setting attack defense margin one = (.ok tier, after))
    (run' : decideTier (setting.supplied sources) attack defense margin other = (.ok tier', after')) :
    Softens tier tier' ∧ after.Braced after' := by
  obtain ⟨log, decides⟩ := run_decideTier_eq setting one attack defense margin
  obtain ⟨log', decides'⟩ := run_decideTier_eq (setting.supplied sources) other attack defense margin
  rw [decides] at run
  rw [decides'] at run'
  obtain ⟨same, rfl⟩ := Prod.mk.inj run
  obtain ⟨same', rfl⟩ := Prod.mk.inj run'
  refine ⟨?_, braced_told braced log log'⟩
  obtain ⟨_, _, guard, firmer, _⟩ := braced
  have immune : one.tally.critImmune → guard.critImmune := firmer.critImmune
  change Except.ok (if AttackTier.classify margin attack.natural one.critThreshold
      one.config.thresholds = .crit ∧ guard.critImmune then _ else AttackTier.classify margin
        attack.natural one.critThreshold one.config.thresholds) = _ at same'
  generalize AttackTier.classify margin attack.natural one.critThreshold one.config.thresholds
    = rolled at same same'
  obtain rfl := Except.ok.inj same
  obtain rfl := Except.ok.inj same'
  unfold Softens
  by_cases crit : rolled = .crit
  · subst crit
    cases soft : one.tally.critImmune
    · cases guard.critImmune <;> simp
    · simp [immune soft]
  · simp [crit]

/-- **An attack takes no more from a target with a firmer guard**, nor does it where a critical hit
becomes a mere one. -/
theorem spares_outcome (stock : setting.rules.Stock)
    (same : sources.texts setting.request.attacker setting.request.effects = setting.texts)
    (braced : one.Braced other) {tier tier' : AttackTier} (softens : Softens tier tier')
    {result result' : DamageReport × Option String} {after after' : Resolution}
    (run : outcome setting tier one = (.ok result, after))
    (run' : outcome (setting.supplied sources) tier' other = (.ok result', after')) :
    result'.1.primary ≤ result.1.primary := by
  have harmless : ∀ (setting : Setting) (tier : AttackTier), tier.lands = false →
      Returns (fun result : DamageReport × Option String => result.1.primary = 0)
        (outcome setting tier) := by
    intro setting tier misses
    cases tier with
    | clash | miss | graze => exact .bind fun _ => .pure rfl
    | hit | crit => cases misses
  rcases softens with rfl | ⟨rfl, rfl⟩
  · cases lands : tier'.lands
    · exact Int.le_of_eq ((harmless _ _ lands _ _ _ run').trans (harmless _ _ lands _ _ _ run).symm)
    · cases tier' with
      | clash | miss | graze => cases lands
      | hit => exact spares_land stock same braced id run run'
      | crit => exact spares_land stock same braced id run run'
  · exact spares_land stock same braced (fun _ => rfl) run run'

/-- An attack, and the same attack against a target that has further texts: the same rolls and the same
margin, and no more taken from the target. -/
structure Spares (report spared : AttackReport) : Prop where
  aborted : spared.aborted = report.aborted
  attack : spared.attack = report.attack
  defense : spared.defense = report.defense
  margin : spared.margin = report.margin
  primary : spared.damage.primary ≤ report.damage.primary

/-- The stages of an attack that is followed through. -/
theorem followThrough_eq_ok {dice : DicePair} {before after : Resolution} {report : AttackReport}
    (run : followThrough setting dice before = (.ok report, after)) :
    ∃ attack aimed defense defended tier decided result,
      attackLine setting dice before = (.ok attack, aimed) ∧
      defenseLine setting (DicePair.draw aimed.dice).1
        (setting.rules.resolveAll (setting.sources.texts setting.request.target [])
          { aimed with dice := (DicePair.draw aimed.dice).2, hook := .onDefend }).2
        = (.ok defense, defended) ∧
      decideTier setting attack defense
        (effectiveMargin (saturate (attack.total - defense.total)) defended.tally.autoHit) defended
        = (.ok tier, decided) ∧
      outcome setting tier decided = (.ok result, after) ∧
      report = setting.concluded attack defense
        (effectiveMargin (saturate (attack.total - defense.total)) defended.tally.autoHit) tier result
        after := by
  unfold followThrough at run
  obtain ⟨attack, aimed, attacks, rest⟩ := exists_of_run_bind run
  rw [run_bind_ok (run_drawPair aimed), run_bind_ok (run_dispatch ..)] at rest
  obtain ⟨defense, defended, defends, rest⟩ := exists_of_run_bind rest
  rw [run_get_bind] at rest
  obtain ⟨tier, decided, decides, rest⟩ := exists_of_run_bind rest
  obtain ⟨⟨damage, injury⟩, ended, ends, rest⟩ := exists_of_run_bind rest
  obtain ⟨same, rfl⟩ := Prod.mk.inj rest
  exact ⟨attack, aimed, defense, defended, tier, decided, ⟨damage, injury⟩, attacks, defends, decides,
    ends, (Except.ok.inj same).symm⟩

/-- An attack that goes on, beside the same one against a target with further texts. -/
theorem spares_followThrough (rules : setting.rules = Standard.table)
    (supplements : setting.sources.Supplements setting.request.target Standard.Guards sources)
    (apart : setting.request.target ≠ setting.request.attacker) {before : Resolution}
    (bounded : before.tally.Bounded) {dice : DicePair} {report spared : AttackReport}
    {after after' : Resolution} (run : followThrough setting dice before = (.ok report, after))
    (run' : followThrough (setting.supplied sources) dice before = (.ok spared, after')) :
    Spares report spared := by
  have stock : setting.rules.Stock := rules ▸ Standard.costsFirst.stock
  have same : sources.texts setting.request.attacker setting.request.effects = setting.texts :=
    supplements.texts_of_ne apart _
  obtain ⟨attack, aimed, defense, defended, tier, decided, result, attacks, defends, decides, ends,
    rfl⟩ := followThrough_eq_ok run
  obtain ⟨attack', aimed', defense', defended', tier', decided', result', attacks', defends', decides',
    ends', rfl⟩ := followThrough_eq_ok run'
  change attackLine setting dice before = _ at attacks'
  obtain ⟨rolled, steps⟩ := eq_of_lockstep (lockstep_attackLine dice) (.refl bounded) attacks attacks'
  obtain rfl : aimed = aimed' := (Prod.mk.inj (attacks.symm.trans attacks')).2
  subst rolled
  have heard : (setting.rules.resolveAll (setting.sources.texts setting.request.target [])
        { aimed with dice := (DicePair.draw aimed.dice).2, hook := .onDefend }).2.Braced
      (setting.rules.resolveAll (sources.texts setting.request.target [])
        { aimed with dice := (DicePair.draw aimed.dice).2, hook := .onDefend }).2 := by
    rw [rules]
    exact Standard.braced_resolveAll (supplements.texts []) rfl
      (.refl ⟨steps.bounded.damage, steps.bounded.reduction⟩)
  obtain ⟨rfl, stands⟩ := eq_of_lockstep (lockstep_defenseLine _) heard defends defends'
  have chance : defended'.tally.autoHit = defended.tally.autoHit := by
    cases stands
    rfl
  rw [chance] at decides'
  obtain ⟨softens, settles⟩ := softens_decideTier stands decides decides'
  refine ⟨rfl, rfl, rfl, ?_, spares_outcome stock same settles softens ends ends'⟩
  show some (effectiveMargin _ defended'.tally.autoHit) = some (effectiveMargin _ _)
  rw [chance]

/-- A whole attack, beside the same one against a target with further texts. -/
theorem spares_carryOut (rules : setting.rules = Standard.table)
    (supplements : setting.sources.Supplements setting.request.target Standard.Guards sources)
    (apart : setting.request.target ≠ setting.request.attacker) {before : Resolution}
    (bounded : before.tally.Bounded) {report spared : AttackReport} {after after' : Resolution}
    (run : carryOut setting before = (.ok report, after))
    (run' : carryOut (setting.supplied sources) before = (.ok spared, after')) :
    Spares report spared := by
  have same : (setting.supplied sources).texts = setting.texts := supplements.texts_of_ne apart _
  have stock : setting.rules.Stock := rules ▸ Standard.costsFirst.stock
  have opened : (setting.opened before).tally.Bounded := ⟨bounded.damage, bounded.reduction⟩
  have heard := (stock.lockstep_resolveAll setting.texts _ _ (.refl opened)).2.bounded
  rw [carryOut_eq] at run run'
  rw [same] at run'
  change (let after := (setting.rules.resolveAll setting.texts (setting.opened before)).2
    if after.tally.aborted then _
    else followThrough (setting.supplied sources) (DicePair.draw before.dice).1 after) = _ at run'
  generalize (setting.rules.resolveAll setting.texts (setting.opened before)).2 = asked
    at run run' heard
  dsimp only at run run'
  split at run
  case isTrue aborted =>
    rw [if_pos aborted] at run'
    obtain ⟨told, rfl⟩ := Prod.mk.inj run
    obtain ⟨told', rfl⟩ := Prod.mk.inj run'
    obtain rfl := Except.ok.inj told
    obtain rfl := Except.ok.inj told'
    exact ⟨rfl, rfl, rfl, rfl, Int.le_refl _⟩
  case isFalse goes =>
    rw [if_neg goes] at run'
    exact spares_followThrough rules supplements apart heard run run'

end Strike

namespace Fight

variable {combat : Combat}

/-- Whether an attack is refused does not depend on any texts. -/
theorem refused_or_granted (combat : Combat) (request : AttackRequest) :
    (∃ error, ∀ sources, (attack request { combat with sources }).1 = .error error) ∨
    ∃ attacker target, combat.requireAction request.attacker = .ok attacker ∧
      combat.field.require request.target = .ok target ∧
      ¬(request.target == request.attacker || !target.isAlive) := by
  rcases granted : combat.requireAction request.attacker with error | attacker
  · refine .inl ⟨error, fun sources => ?_⟩
    have granted' : Combat.requireAction { combat with sources } request.attacker = .error error :=
      granted
    unfold attack
    rw [run_get_bind, granted']
    rfl
  have granted' : ∀ sources,
      Combat.requireAction { combat with sources } request.attacker = .ok attacker := fun _ => granted
  rcases there : combat.field.require request.target with error | target
  · refine .inl ⟨error, fun sources => ?_⟩
    unfold attack
    rw [run_get_bind, granted' sources, settle_ok, run_pure_bind, there]
    rfl
  by_cases unfit : request.target == request.attacker || !target.isAlive
  · refine .inl ⟨.invalidTarget target.name, fun sources => ?_⟩
    unfold attack
    rw [run_get_bind, granted' sources, settle_ok, run_pure_bind, there, settle_ok, run_pure_bind,
      if_pos unfit]
    rfl
  · exact .inr ⟨attacker, target, rfl, rfl, unfit⟩

/-- **Texts of a target that only make it take damage better change no roll, and it never loses more
because of them.** Where an attack is refused, it is refused for the same reason with them. -/
theorem spares_attack (rules : combat.rules = Standard.table) (request : AttackRequest)
    {sources : SourceBook}
    (supplements : combat.sources.Supplements request.target Standard.Guards sources) :
    (∃ error, (attack request combat).1 = .error error ∧
      (attack request { combat with sources }).1 = .error error) ∨
    ∃ report spared, (attack request combat).1 = .ok report ∧
      (attack request { combat with sources }).1 = .ok spared ∧ Strike.Spares report spared := by
  have stock : combat.rules.Stock := rules ▸ Standard.costsFirst.stock
  rcases refused_or_granted combat request with
    ⟨error, refused⟩ | ⟨attacker, target, granted, there, fit⟩
  · exact .inl ⟨error, refused combat.sources, refused sources⟩
  have apart : request.target ≠ request.attacker := fun same => fit (by simp [same])
  obtain ⟨report, after, run, -⟩ := attack_of_granted combat stock request granted there fit
  obtain ⟨spared, after', run', -⟩ :=
    attack_of_granted { combat with sources } stock request granted there fit
  obtain ⟨_, _, resolved, took, found, -, carried, -⟩ := attack_eq_ok run
  obtain ⟨_, _, resolved', took', found', -, carried', -⟩ := attack_eq_ok run'
  obtain rfl := Except.ok.inj (granted.symm.trans took)
  obtain rfl := Except.ok.inj (there.symm.trans found)
  obtain rfl := Except.ok.inj (granted.symm.trans took')
  obtain rfl := Except.ok.inj (there.symm.trans found')
  refine .inr ⟨report, spared, by rw [run], by rw [run'], ?_⟩
  refine Strike.spares_carryOut rules supplements apart ⟨?_, ?_⟩ carried carried'
  · intro amount mem
    cases mem
  · show (0 : Int) ≤ greatestInt
    decide

/-- What the opponent of the duel wears. -/
def plate : List SourceEntry :=
  [⟨.item, "Helmet", "Immune to critical hits"⟩, ⟨.item, "Cloak", "Resistant to fire"⟩,
    ⟨.item, "Plate", "DR 3"⟩]

theorem guards_plate : ∀ entry ∈ plate, Standard.Guards entry.text := by
  have silent : ∀ text ∈ ["Immune to critical hits", "Resistant to fire", "DR 3"],
      ∀ spec ∈ Standard.defenseRules, spec.name ∉ Standard.guards → ∀ trigger,
        Pattern.parse? true spec.pattern = some trigger →
          trigger.occurs (Text.trim text) = false := by
    simp only [Standard.defenseRules, Standard.rule, Standard.vetoed, List.forall_mem_cons,
      List.not_mem_nil, false_implies, implies_true, and_true, List.nil_append]
    delta damageTypes
    and_intros
    all_goals
      intro other
      first
        | exact absurd (by decide) other
        | refine Standard.silent_of_spelled (by
            repeat first | with_reducible apply Spelled.append | exact spelled_ofList _) ?_
          decide +kernel
  intro entry mem
  exact Standard.guards_of_silent (silent entry.text (by
    simp only [plate, List.mem_cons, List.not_mem_nil, or_false] at mem ⊢
    rcases mem with rfl | rfl | rfl <;> simp))

/-- In the duel the same rolls are made against it. -/
theorem spares_duel : ∃ report spared, (attack challenge (duelUnderway [])).1 = .ok report ∧
    (attack challenge { duelUnderway [] with
      sources := plate.foldl (·.add challenge.target ·) (duelUnderway []).sources }).1 = .ok spared ∧
    Strike.Spares report spared := by
  have granted : (duelUnderway []).requireAction challenge.attacker = .ok aria :=
    Combat.requireAction_of_turn rfl rfl rfl (by decide +kernel) rfl
  have there : (duelUnderway []).field.require challenge.target = .ok dorn :=
    require_eq_ok.mpr rfl
  have stock : (duelUnderway []).rules.Stock := rules_duelUnderway [] ▸ Standard.costsFirst.stock
  obtain ⟨report, after, run, -⟩ := attack_of_granted _ stock challenge granted there
    (by decide +kernel)
  refine (spares_attack (rules_duelUnderway []) challenge
    (SourceBook.supplements_foldl_add guards_plate)).resolve_left ?_
  rintro ⟨error, refused, -⟩
  rw [run] at refused
  cases refused

end Fight

end Skirmish
