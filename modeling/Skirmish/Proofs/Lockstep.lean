/-
**Two resolutions in lockstep.** How the target takes damage is written down while texts are resolved,
and nobody reads it before the damage is dealt. The same steps, taken in two resolutions that differ in
nothing else, therefore go the same way:

* `Guard`, `Guard.Firmer`: how the target takes damage, and that it takes it at least as well;
* `Resolution.Braced`: two resolutions that are the same but for a firmer guard and what was told;
* `Lockstep`: a step returns the same in both and leaves such resolutions behind;
* `Effect.lockstep_act`: every effect does, and with it `RuleTable.lockstep_resolveAll`: any texts.
-/

import Skirmish.Proofs.Dispatch
import Skirmish.Proofs.Modifiers

namespace Skirmish

open Resolve

/-! ### Guards -/

/-- How a target takes damage, as far as the tally says so and nothing but the damage depends on it. -/
structure Guard where
  critImmune : Bool
  resistances : List String
  immunities : List String
  damageReduction : Option Int

/-- A guard that is at least as good as another one. -/
structure Guard.Firmer (one other : Guard) : Prop where
  critImmune : one.critImmune → other.critImmune
  resistances : one.resistances ⊆ other.resistances
  immunities : one.immunities ⊆ other.immunities
  damageReduction : one.damageReduction.getD 0 ≤ other.damageReduction.getD 0

theorem Guard.Firmer.refl (guard : Guard) : guard.Firmer guard :=
  ⟨fun immune => immune, fun _ mem => mem, fun _ mem => mem, Int.le_refl _⟩

namespace Tally

/-- The guard of the target. -/
def guard (tally : Tally) : Guard where
  critImmune := tally.critImmune
  resistances := tally.resistances
  immunities := tally.immunities
  damageReduction := tally.damageReduction

/-- A tally with another guard of the target. -/
def withGuard (tally : Tally) (guard : Guard) : Tally :=
  { tally with
    critImmune := guard.critImmune
    resistances := guard.resistances
    immunities := guard.immunities
    damageReduction := guard.damageReduction }

/-- The damage and its reduction do not exceed 32 bits. -/
structure Bounded (tally : Tally) : Prop where
  damage : ∀ amount ∈ tally.pendingDamage, amount ≤ greatestInt
  reduction : tally.damageReduction.getD 0 ≤ greatestInt

end Tally

namespace Resolution

/-- A resolution with other lines, other faults and another guard of the target. -/
def braced (resolution : Resolution) (log : List String) (faults : List Fault) (guard : Guard) :
    Resolution :=
  { resolution with log, faults, tally := resolution.tally.withGuard guard }

/-- A resolution that is the same as another one but for a firmer guard and what was told. -/
inductive Braced (one : Resolution) : Resolution → Prop
  | intro (log : List String) (faults : List Fault) (guard : Guard)
      (firmer : one.tally.guard.Firmer guard) (bounded : one.tally.Bounded) :
      Braced one (one.braced log faults guard)

theorem Braced.refl {one : Resolution} (bounded : one.tally.Bounded) : one.Braced one :=
  .intro one.log one.faults one.tally.guard (.refl _) bounded

theorem Braced.bounded {one other : Resolution} (braced : one.Braced other) : one.tally.Bounded := by
  cases braced
  assumption

theorem Braced.aborted {one other : Resolution} (braced : one.Braced other) :
    other.tally.aborted = one.tally.aborted := by
  cases braced
  rfl

theorem Braced.hook {one other : Resolution} (braced : one.Braced other) :
    other.hook = one.hook := by
  cases braced
  rfl

end Resolution

open Resolution

/-! ### Steps in lockstep -/

/-- A step returns the same in two resolutions that are the same but for a firmer guard, and leaves such
resolutions behind. -/
def Lockstep {ρ : Type} (step : Resolution → ρ × Resolution) : Prop :=
  ∀ one other, Braced one other → (step one).1 = (step other).1 ∧ Braced (step one).2 (step other).2

namespace Lockstep

variable {α β : Type}

theorem pure (value : α) : Lockstep (Pure.pure value : Resolve α) := fun _ _ braced => ⟨rfl, braced⟩

theorem throw (error : Error) : Lockstep (MonadExcept.throw error : Resolve α) :=
  fun _ _ braced => ⟨rfl, braced⟩

theorem bind {step : Resolve α} {next : α → Resolve β} (first : Lockstep step)
    (rest : ∀ value, Lockstep (next value)) : Lockstep (step >>= next) := by
  intro one other braced
  obtain ⟨same, later⟩ := first one other braced
  rcases run : step one with ⟨error | value, middle⟩ <;>
    rcases run' : step other with ⟨error' | value', middle'⟩ <;>
    rw [run, run'] at same later
  case error.error =>
    obtain rfl := Except.error.inj same
    rw [run_bind_error run, run_bind_error run']
    exact ⟨rfl, later⟩
  case ok.ok =>
    obtain rfl := Except.ok.inj same
    rw [run_bind_ok run, run_bind_ok run']
    exact rest value middle middle' later
  all_goals cases same

theorem pure_bind {value : α} {next : α → Resolve β} (rest : Lockstep (next value)) :
    Lockstep (Pure.pure value >>= next) := rest

/-- Reading a resolution without regard to the guard or to what was told. -/
theorem get {next : Resolution → Resolve β}
    (blind : ∀ resolution log faults guard,
      next (resolution.braced log faults guard) = next resolution)
    (rest : ∀ resolution, Lockstep (next resolution)) :
    Lockstep ((MonadState.get : Resolve Resolution) >>= next) := by
  intro one other braced
  have goes := rest one one other braced
  obtain ⟨log, faults, guard, -, -⟩ := braced
  rw [run_get_bind, run_get_bind, blind]
  exact goes

theorem settle {result : Except Error α} {next : α → Resolve β}
    (rest : ∀ value, result = .ok value → Lockstep (next value)) :
    Lockstep (Resolve.settle result >>= next) := by
  rcases result with error | value
  · exact throw error
  · exact rest value rfl

theorem require {id : CombatantId} {next : Combatant → Resolve β}
    (rest : ∀ combatant, Lockstep (next combatant)) : Lockstep (Resolve.require id >>= next) := by
  rw [Resolve.require, bind_assoc]
  exact get (fun _ _ _ _ => rfl) fun _ => settle fun combatant _ => rest combatant

theorem targetId {next : CombatantId → Resolve β} (rest : ∀ id, Lockstep (next id)) :
    Lockstep (Resolve.targetId >>= next) := by
  rw [Resolve.targetId, bind_assoc]
  refine get (fun _ _ _ _ => rfl) fun resolution => ?_
  split
  · exact rest _
  · exact throw _

theorem narrate (line : String) : Lockstep (Resolve.narrate line) := by
  rintro one other ⟨log, faults, guard, firmer, bounded⟩
  exact ⟨rfl, .intro (log ++ [line]) faults guard firmer bounded⟩

theorem replace (combatant : Combatant) : Lockstep (Resolve.replace combatant) := by
  rintro one other ⟨log, faults, guard, firmer, bounded⟩
  exact ⟨rfl, .intro log faults guard firmer bounded⟩

theorem place (id : CombatantId) (cell : Cell) : Lockstep (Resolve.place id cell) := by
  refine get (fun _ _ _ _ => rfl) fun resolution => settle fun field _ => ?_
  rintro one other ⟨log, faults, guard, firmer, bounded⟩
  exact ⟨rfl, .intro log faults guard firmer bounded⟩

theorem draw (sides : Nat) : Lockstep (Resolve.draw sides) := by
  rintro one other ⟨log, faults, guard, firmer, bounded⟩
  exact ⟨rfl, .intro log faults guard firmer bounded⟩

theorem roll (formula : DiceFormula) : Lockstep (Resolve.roll formula) := by
  rintro one other ⟨log, faults, guard, firmer, bounded⟩
  exact ⟨rfl, .intro log faults guard firmer bounded⟩

/-- A change of the tally that neither reads nor changes the guard, nor the damage. -/
theorem tally {change : Tally → Tally}
    (blind : ∀ tally guard, change (tally.withGuard guard) = (change tally).withGuard guard)
    (damage : ∀ tally, ∀ amount ∈ (change tally).pendingDamage,
      amount ∈ tally.pendingDamage ∨ amount ≤ greatestInt) :
    Lockstep (Resolve.tally change) := by
  rintro one other ⟨log, faults, guard, firmer, bounded⟩
  -- As the change keeps the guard that a tally is given, it keeps the one that it has.
  have kept : change one.tally = (change one.tally).withGuard one.tally.guard :=
    blind one.tally one.tally.guard
  have same : (change one.tally).guard = one.tally.guard := (congrArg Tally.guard kept).trans rfl
  have reduction : (change one.tally).damageReduction = one.tally.damageReduction :=
    congrArg Guard.damageReduction same
  have run : Resolve.tally change (one.braced log faults guard)
      = (.ok (), { one with tally := change one.tally }.braced log faults guard) := by
    simp only [run_tally, braced, blind]
  rw [run, run_tally]
  refine ⟨rfl, .intro log faults guard (same ▸ firmer) ⟨fun amount mem => ?_, ?_⟩⟩
  · exact (damage _ amount mem).elim (bounded.damage amount) id
  · exact reduction ▸ bounded.reduction

end Lockstep

namespace Effect

variable {firing : Firing}

/-! ### Effects on the tally -/

theorem lockstep_actDamage (kind : Option String) : Lockstep (actDamage kind firing) := by
  have adds : ∀ dice : DiceFormula, Lockstep (roll dice >>= fun amount => Resolve.tally
      (·.addDamage amount (((firing.named? "kind").map canonicalDamageType).or kind))) :=
    fun dice => (Lockstep.roll dice).bind fun amount => .tally (fun _ _ => rfl)
      fun _ _ mem => .inr (Option.some.inj mem ▸ (saturate_fits _).2)
  unfold actDamage
  dsimp only
  split
  · exact .settle fun dice _ => adds dice
  · exact .get (fun _ _ _ _ => rfl) fun _ => .pure_bind (adds _)

theorem lockstep_actComposureDamage : Lockstep (actComposureDamage firing) :=
  .settle fun dice _ => (Lockstep.roll dice).bind fun _ => .tally (fun _ _ => rfl) fun _ _ => .inl

theorem lockstep_actLifesteal (percent : Nat) : Lockstep (actLifesteal percent firing) :=
  .settle fun _ _ => .tally (fun _ _ => rfl) fun _ _ => .inl

theorem lockstep_actReflect (percent : Nat) : Lockstep (actReflect percent firing) :=
  .settle fun _ _ => .tally (fun _ _ => rfl) fun _ _ => .inl

theorem lockstep_actArea : Lockstep (actArea firing) :=
  .settle fun _ _ => .get (fun _ _ _ _ => rfl) fun _ => .require fun _ =>
    .tally (fun _ _ => rfl) fun _ _ => .inl

theorem lockstep_actChain : Lockstep (actChain firing) := by
  refine .get (fun _ _ _ _ => rfl) fun resolution => ?_
  split
  · exact .pure ()
  · exact .settle fun _ _ => .targetId fun _ => .require fun _ =>
      .tally (fun _ _ => rfl) fun _ _ => .inl

theorem lockstep_actToHit : Lockstep (actToHit firing) :=
  .settle fun _ _ => .tally (fun _ _ => rfl) fun _ _ => .inl

theorem lockstep_actDefenseBonus : Lockstep (actDefenseBonus firing) :=
  .settle fun _ _ => .tally (fun _ _ => rfl) fun _ _ => .inl

theorem lockstep_actCritRange : Lockstep (actCritRange firing) :=
  .settle fun _ _ => .get (fun _ _ _ _ => rfl) fun _ => .tally (fun _ _ => rfl) fun _ _ => .inl

/-- What a guard has, it keeps when one more entry is noted. -/
theorem subset_withEntry {list list' : List String} (subset : list ⊆ list') (entry : String) :
    withEntry list entry ⊆ withEntry list' entry := fun _ mem =>
  Modifier.mem_withEntry.mpr ((Modifier.mem_withEntry.mp mem).imp_left fun known => subset known)

/-- Two sums, one of them at least as great, stay so when the same is added. -/
theorem added_mono {number number' : Option Int} (le : number.getD 0 ≤ number'.getD 0) (amount : Int) :
    (Tally.added number amount).getD 0 ≤ (Tally.added number' amount).getD 0 := by
  simp only [Tally.added, Option.getD_some, saturatingAdd, saturate]
  omega

theorem lockstep_mark (which : Mark) : Lockstep (Resolve.tally (·.raise which)) := by
  by_cases guards : which = .critImmune
  · subst guards
    rintro one other ⟨log, faults, guard, firmer, bounded⟩
    exact ⟨rfl, .intro log faults { guard with critImmune := true }
      ⟨fun _ => rfl, firmer.resistances, firmer.immunities, firmer.damageReduction⟩
      ⟨bounded.damage, bounded.reduction⟩⟩
  · refine .tally (fun _ _ => ?_) fun tally amount mem => .inl ?_
    · cases which <;> first | rfl | exact absurd rfl guards
    · cases which <;> exact mem

theorem lockstep_actDefense (kind : DefenseKind) : Lockstep (actDefense kind firing) := by
  refine .settle fun word _ => ?_
  cases kind with
  | resisted =>
    rintro one other ⟨log, faults, guard, firmer, bounded⟩
    exact ⟨rfl, .intro log faults
      { guard with resistances := withEntry guard.resistances (canonicalDamageType word) }
      ⟨firmer.critImmune, subset_withEntry firmer.resistances _, firmer.immunities,
        firmer.damageReduction⟩ ⟨bounded.damage, bounded.reduction⟩⟩
  | immune =>
    rintro one other ⟨log, faults, guard, firmer, bounded⟩
    exact ⟨rfl, .intro log faults
      { guard with immunities := withEntry guard.immunities (canonicalDamageType word) }
      ⟨firmer.critImmune, firmer.resistances, subset_withEntry firmer.immunities _,
        firmer.damageReduction⟩ ⟨bounded.damage, bounded.reduction⟩⟩
  | vulnerable => exact .tally (fun _ _ => rfl) fun _ _ => .inl

theorem lockstep_actDamageReduction : Lockstep (actDamageReduction firing) := by
  refine .settle fun amount _ => ?_
  rintro one other ⟨log, faults, guard, firmer, bounded⟩
  exact ⟨rfl, .intro log faults
    { guard with damageReduction := Tally.added guard.damageReduction amount }
    ⟨firmer.critImmune, firmer.resistances, firmer.immunities, added_mono firmer.damageReduction _⟩
    ⟨bounded.damage, (saturate_fits _).2⟩⟩

/-! ### Effects on combatants and on the ground -/

theorem lockstep_actCost : Lockstep (actCost firing) := by
  refine .settle fun ⟨amount, pool⟩ _ => .get (fun _ _ _ _ => rfl) fun resolution =>
    .require fun actor => ?_
  split
  · exact (Lockstep.replace _).bind fun _ => .narrate _
  · exact .bind (.tally (fun _ _ => rfl) fun _ _ => .inl) fun _ => .narrate _

theorem lockstep_findRoom (who : CombatantId) (patient : Combatant) :
    Lockstep (findRoom who patient) := by
  refine .get (fun _ _ _ _ => rfl) fun resolution => ?_
  dsimp only
  split
  · exact .pure true
  · split
    · exact (Lockstep.place _ _).bind fun _ => (Lockstep.narrate _).bind fun _ => .pure true
    · exact (Lockstep.narrate _).bind fun _ => .pure false

theorem lockstep_regain (who : CombatantId) (pool : Pool) (amount : Int) (down : Bool) :
    Lockstep (regain who pool amount down) := by
  refine .require fun before => (Lockstep.replace _).bind fun _ => (Lockstep.narrate _).bind fun _ => ?_
  split
  · exact .narrate _
  · exact .pure ()

theorem lockstep_actHeal (recipient : Recipient) : Lockstep (actHeal recipient firing) := by
  have treats : ∀ (dice : DiceFormula) (pool : Pool) (who : CombatantId), Lockstep (do
      let amount ← roll dice
      let patient ← require who
      let room ←
        if !patient.isAlive && pool == .hitPoints && 0 < amount then findRoom who patient
        else pure true
      if room then regain who pool amount (!patient.isAlive) : Resolve Unit) := by
    intro dice pool who
    refine (Lockstep.roll dice).bind fun amount => .require fun patient => ?_
    have rises : ∀ room : Bool, Lockstep
        (if room then regain who pool amount (!patient.isAlive) else pure () : Resolve Unit) := by
      intro room
      split
      · exact lockstep_regain _ _ _ _
      · exact .pure ()
    dsimp only
    split
    · exact (lockstep_findRoom _ _).bind rises
    · exact .pure_bind (rises true)
  unfold actHeal
  refine .settle fun dice _ => ?_
  dsimp only
  split
  · exact .settle fun pool _ => .get (fun _ _ _ _ => rfl) fun _ => treats _ _ _
  · exact .pure_bind (.get (fun _ _ _ _ => rfl) fun _ => treats _ _ _)

theorem lockstep_inflict (who : CombatantId) (condition : String) (duration : Duration)
    (flag : Option String) : Lockstep (inflict who condition duration flag) := by
  refine .require fun victim => (Lockstep.replace _).bind fun _ => ?_
  split
  · exact .narrate _
  · exact .narrate _
  · exact .pure ()

theorem lockstep_durationOf : Lockstep (durationOf firing) :=
  .get (fun _ _ _ _ => rfl) fun _ => .pure _

theorem lockstep_actStatus (condition : String) (flag : Option String) (recipient : Recipient) :
    Lockstep (actStatus condition flag recipient firing) := by
  have lasts : ∀ who, Lockstep (durationOf firing >>= (inflict who condition · flag)) :=
    fun who => lockstep_durationOf.bind fun _ => lockstep_inflict _ _ _ _
  cases recipient with
  | actor => exact .get (fun _ _ _ _ => rfl) fun _ => .pure_bind (lasts _)
  | target => exact .targetId lasts

theorem lockstep_actSavingThrow : Lockstep (actSavingThrow firing) := by
  refine .settle fun stat _ => .settle fun word _ => ?_
  split
  · refine .settle fun bound _ => .get (fun _ _ _ _ => rfl) fun resolution => .targetId fun who => ?_
    refine (Lockstep.draw 20).bind fun natural => .require fun target => ?_
    dsimp only
    split
    · exact .narrate _
    · exact (Lockstep.narrate _).bind fun _ =>
        lockstep_durationOf.bind fun _ => lockstep_inflict _ _ _ _
  · exact .throw _

theorem lockstep_actCure : Lockstep (actCure firing) := by
  refine .settle fun word _ => ?_
  split
  · exact .pure ()
  · refine .get (fun _ _ _ _ => rfl) fun resolution => .require fun patient => ?_
    split
    · exact (Lockstep.replace _).bind fun _ => .narrate _
    · exact .pure ()

theorem lockstep_actGrantResistance : Lockstep (actGrantResistance firing) :=
  .settle fun _ _ => .get (fun _ _ _ _ => rfl) fun _ => lockstep_durationOf.bind fun _ =>
    lockstep_inflict _ _ _ _

theorem lockstep_actShove (shove : Shove) : Lockstep (actShove shove firing) := by
  refine .settle fun feet _ => .targetId fun target => .get (fun _ _ _ _ => rfl) fun resolution => ?_
  refine .require fun origin => .require fun start => ?_
  dsimp only
  split
  · exact .pure ()
  · split
    · exact .pure ()
    · exact (Lockstep.place _ _).bind fun _ => .require fun _ => .narrate _

theorem lockstep_actTeleport : Lockstep (actTeleport firing) := by
  refine .settle fun feet _ => .targetId fun target => .get (fun _ _ _ _ => rfl) fun resolution => ?_
  refine .require fun origin => .require fun anchor => ?_
  dsimp only
  split
  · exact .narrate _
  · exact (Lockstep.place _ _).bind fun _ => .require fun _ => .narrate _

theorem lockstep_actIgnite (damage : Int) : Lockstep (actIgnite damage) := by
  refine .get (fun _ _ _ _ => rfl) fun resolution => .require fun there =>
    .bind ?_ fun _ => .narrate _
  rintro one other ⟨log, faults, guard, firmer, bounded⟩
  exact ⟨rfl, .intro log faults guard firmer bounded⟩

/-- **Every effect goes the same way whatever the guard is.** -/
theorem lockstep_act (effect : Effect) : Lockstep (effect.act firing) := by
  cases effect with
  | cost => exact lockstep_actCost
  | heal recipient => exact lockstep_actHeal recipient
  | damage kind => exact lockstep_actDamage kind
  | composureDamage => exact lockstep_actComposureDamage
  | lifesteal percent => exact lockstep_actLifesteal percent
  | reflect percent => exact lockstep_actReflect percent
  | area => exact lockstep_actArea
  | chain => exact lockstep_actChain
  | status condition flag recipient => exact lockstep_actStatus condition flag recipient
  | savingThrow => exact lockstep_actSavingThrow
  | cure => exact lockstep_actCure
  | grantResistance => exact lockstep_actGrantResistance
  | push => exact lockstep_actShove .away
  | pull => exact lockstep_actShove .toward
  | teleport => exact lockstep_actTeleport
  | ignite amount => exact lockstep_actIgnite amount
  | toHit => exact lockstep_actToHit
  | mark which => exact lockstep_mark which
  | critRange => exact lockstep_actCritRange
  | defenseBonus => exact lockstep_actDefenseBonus
  | defense kind => exact lockstep_actDefense kind
  | damageReduction => exact lockstep_actDamageReduction

end Effect

/-! ### Rules and texts -/

theorem Rule.Stock.lockstep_ask {rule : Rule} (stock : rule.Stock) (text : String) :
    Lockstep (rule.ask text) := by
  obtain ⟨effect, act⟩ := stock
  intro one other braced
  unfold Rule.ask
  rw [braced.hook]
  split
  case isFalse => exact ⟨rfl, braced⟩
  case isTrue =>
    rcases rule.matcher.find? text with _ | finding
    · exact ⟨rfl, braced⟩
    have lockstep : Lockstep (effect.act ⟨rule.name, text, finding⟩) := effect.lockstep_act
    obtain ⟨same, later⟩ := lockstep one other braced
    dsimp only
    rw [act]
    generalize effect.act ⟨rule.name, text, finding⟩ one = outcome at same later
    generalize effect.act ⟨rule.name, text, finding⟩ other = outcome' at same later
    obtain ⟨result, after⟩ := outcome
    obtain ⟨result', after'⟩ := outcome'
    obtain rfl : result = result' := same
    cases result with
    | ok => exact ⟨rfl, later⟩
    | error error =>
      refine ⟨rfl, ?_⟩
      obtain ⟨log, faults, guard, firmer, bounded⟩ := later
      exact .intro log _ guard firmer bounded

namespace RuleTable

variable {table : RuleTable}

theorem Stock.lockstep_resolve (stock : table.Stock) (text : String) :
    Lockstep (table.resolve text) := by
  have asks : ∀ (rules : List Rule) (text : String), (∀ rule ∈ rules, rule.Stock) →
      Lockstep (Rule.askAll rules text) := by
    intro rules text stock
    induction rules with
    | nil => exact fun _ _ braced => ⟨rfl, braced⟩
    | cons rule rest hyp =>
      intro one other braced
      unfold Rule.askAll
      dsimp only
      rw [braced.aborted]
      split
      · exact ⟨rfl, braced⟩
      · obtain ⟨first, asked⟩ :=
          (stock rule (List.mem_cons_self ..)).lockstep_ask text one other braced
        obtain ⟨second, later⟩ := hyp (fun next mem => stock next (List.mem_cons_of_mem _ mem))
          _ _ asked
        exact ⟨by rw [first, second], later⟩
  unfold RuleTable.resolve
  dsimp only
  split
  · exact fun _ _ braced => ⟨rfl, braced⟩
  · exact asks _ _ stock

/-- **Any texts go the same way whatever the guard is.** -/
theorem Stock.lockstep_resolveAll (stock : table.Stock) (texts : List String) :
    Lockstep (table.resolveAll texts) := by
  induction texts with
  | nil => exact fun _ _ braced => ⟨rfl, braced⟩
  | cons text rest hyp =>
    intro one other braced
    unfold RuleTable.resolveAll
    dsimp only
    rw [braced.aborted]
    split
    · exact ⟨rfl, braced⟩
    · obtain ⟨first, asked⟩ := stock.lockstep_resolve text one other braced
      obtain ⟨second, later⟩ := hyp _ _ asked
      exact ⟨by rw [first, second], later⟩

end RuleTable

end Skirmish
