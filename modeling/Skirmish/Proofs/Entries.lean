/-
**What effects enter in the tally.** Every effect has its own entry there, or none, and leaves all
others alone:

* `Effect.Enters`: the entries of each effect;
* `Effect.keepsApart`: an entry changes one part of the tally only;
* `Effect.entered_act`: whatever an effect does to the tally, whether it succeeds or fails, is made of
  its own entries;
* `Effect.view_act`: so a part of the tally that its entries leave alone is as it was.
-/

import Mathlib.Logic.Relation
import Skirmish.Proofs.Effects

namespace Skirmish

open Resolve Resolution Battlefield

namespace Tally

/-- The damage that is pending, and its type. -/
def harm (tally : Tally) : Option Int × Option String := (tally.pendingDamage, tally.damageType)

/-- What the texts of a target say against damage: the types that it resists, is immune or vulnerable
to, and the reduction of its amount. -/
def wards (tally : Tally) : (List String × List String × List String) × Option Int :=
  ((tally.resistances, tally.immunities, tally.vulnerabilities), tally.damageReduction)

end Tally

namespace Effect

/-- An entry of an effect: a tally, and what it becomes. Effects on combatants and on the ground have
none. -/
def Enters : Effect → Tally → Tally → Prop
  | .cost, before, after => after = { before with aborted := true }
  | .damage _, before, after => ∃ amount kind, after = before.addDamage amount kind
  | .composureDamage, before, after => ∃ amount, after = before.addComposure amount
  | .lifesteal _, before, after => ∃ percent, after = { before with lifestealPercent := percent }
  | .reflect _, before, after => ∃ percent, after = { before with reflectPercent := percent }
  | .area, before, after => ∃ reached, after = { before with areaTargets := reached }
  | .chain, before, after => ∃ reached, after = { before with chainTargets := reached }
  | .toHit, before, after => ∃ bonus, after = before.addAttackBonus bonus
  | .mark which, before, after => after = before.raise which
  | .critRange, before, after => ∃ face, after = { before with critThreshold := face }
  | .defenseBonus, before, after => ∃ bonus, after = before.addDefenseBonus bonus
  | .defense kind, before, after => ∃ types, after = match kind with
    | .resisted => { before with resistances := types }
    | .immune => { before with immunities := types }
    | .vulnerable => { before with vulnerabilities := types }
  | .damageReduction, before, after => ∃ amount, after = before.addDamageReduction amount
  | _, _, _ => False

/-- What an effect leaves alone in a tally unless that is its own part. -/
structure KeepsApart (effect : Effect) (before after : Tally) : Prop where
  area : effect ≠ .area → after.areaTargets = before.areaTargets
  chain : effect ≠ .chain → after.chainTargets = before.chainTargets
  harm : (∀ kind, effect ≠ .damage kind) → after.harm = before.harm
  wards : (∀ kind, effect ≠ .defense kind) → effect ≠ .damageReduction → after.wards = before.wards

/-- An entry changes one part of the tally only. -/
theorem keepsApart {effect : Effect} {before after : Tally} (enters : effect.Enters before after) :
    effect.KeepsApart before after := by
  cases effect with
  | cost =>
    obtain rfl : after = { before with aborted := true } := enters
    exact ⟨fun _ => rfl, fun _ => rfl, fun _ => rfl, fun _ _ => rfl⟩
  | damage kind =>
    obtain ⟨amount, named, rfl⟩ := enters
    exact ⟨fun _ => rfl, fun _ => rfl, fun other => absurd rfl (other kind), fun _ _ => rfl⟩
  | area =>
    obtain ⟨reached, rfl⟩ := enters
    exact ⟨fun other => absurd rfl other, fun _ => rfl, fun _ => rfl, fun _ _ => rfl⟩
  | chain =>
    obtain ⟨reached, rfl⟩ := enters
    exact ⟨fun _ => rfl, fun other => absurd rfl other, fun _ => rfl, fun _ _ => rfl⟩
  | composureDamage | lifesteal | reflect | toHit | critRange | defenseBonus =>
    obtain ⟨value, rfl⟩ := enters
    exact ⟨fun _ => rfl, fun _ => rfl, fun _ => rfl, fun _ _ => rfl⟩
  | mark which =>
    obtain rfl : after = before.raise which := enters
    cases which <;> exact ⟨fun _ => rfl, fun _ => rfl, fun _ => rfl, fun _ _ => rfl⟩
  | defense kind =>
    obtain ⟨types, rfl⟩ := enters
    cases kind <;>
      exact ⟨fun _ => rfl, fun _ => rfl, fun _ => rfl, fun other => absurd rfl (other _)⟩
  | damageReduction =>
    obtain ⟨amount, rfl⟩ := enters
    exact ⟨fun _ => rfl, fun _ => rfl, fun _ => rfl, fun _ other => absurd rfl other⟩
  | heal | status | savingThrow | cure | grantResistance | push | pull | teleport | ignite =>
    cases enters

/-- The tally has come to have any number of entries of an effect. -/
def Entered (effect : Effect) (before after : Resolution) : Prop :=
  Relation.ReflTransGen effect.Enters before.tally after.tally

variable {effect : Effect} {before : Resolution} {firing : Firing}

instance : Std.Refl (Entered effect) := ⟨fun _ => .refl⟩

instance : IsTrans Resolution (Entered effect) := ⟨fun _ _ _ => .trans⟩

/-! ### Steps -/

/-- A step that leaves the tally alone enters nothing. -/
theorem entered_of_tally {α : Type} {step : Resolve α}
    (same : (step before).2.tally = before.tally) : Leads (Entered effect) step before := by
  unfold Leads Entered
  rw [same]

theorem entered_tally {change : Tally → Tally}
    (enters : effect.Enters before.tally (change before.tally)) :
    Leads (Entered effect) (Resolve.tally change) before := .single enters

theorem entered_roll (formula : DiceFormula) : Leads (Entered effect) (roll formula) before :=
  entered_of_tally rfl

theorem entered_narrate (line : String) : Leads (Entered effect) (narrate line) before :=
  entered_of_tally rfl

theorem entered_replace (one : Combatant) : Leads (Entered effect) (replace one) before :=
  entered_of_tally rfl

theorem entered_place (id : CombatantId) (cell : Cell) :
    Leads (Entered effect) (place id cell) before :=
  .get (.settle fun _ _ => entered_of_tally rfl)

/-! ### Effects on the tally -/

theorem entered_actDamage (kind : Option String) :
    Leads (Entered (.damage kind)) (actDamage kind firing) before := by
  have adds : ∀ (dice : DiceFormula) (before : Resolution), Leads (Entered (.damage kind))
      (roll dice >>= fun amount => Resolve.tally
        (·.addDamage amount (((firing.named? "kind").map canonicalDamageType).or kind))) before :=
    fun dice before => (entered_roll dice).bind fun amount _ _ => entered_tally ⟨amount, _, rfl⟩
  unfold actDamage
  dsimp only
  split
  · exact .settle fun dice _ => adds dice before
  · exact .get (.pure_bind (adds _ before))

theorem entered_actChain : Leads (Entered .chain) (actChain firing) before := by
  refine .get ?_
  split
  · exact .pure ()
  · exact .settle fun _ _ => .targetId fun _ _ => .require fun _ _ => entered_tally ⟨_, rfl⟩

theorem entered_actCost : Leads (Entered .cost) (actCost firing) before := by
  have run := run_actCost before firing
  unfold Leads
  generalize actCost firing before = outcome at run ⊢
  cases run with
  | refused error => exact .refl
  | unpaid priced found short line => exact .single rfl
  | paid priced found spent line => exact .refl

/-! ### Effects on combatants and on the ground -/

theorem entered_inflict (id : CombatantId) (condition : String) (duration : Duration)
    (flag : Option String) : Leads (Entered effect) (inflict id condition duration flag) before := by
  refine .require fun victim _ => (entered_replace _).bind fun _ _ _ => ?_
  split
  · exact entered_narrate _
  · exact entered_narrate _
  · exact .pure ()

theorem entered_durationOf : Leads (Entered effect) (durationOf firing) before := .get (.pure _)

theorem entered_actStatus (condition : String) (flag : Option String) (recipient : Recipient) :
    Leads (Entered effect) (actStatus condition flag recipient firing) before := by
  cases recipient with
  | actor =>
    exact .get (.pure_bind (entered_durationOf.bind fun _ _ _ => entered_inflict ..))
  | target => exact .targetId fun _ _ => entered_durationOf.bind fun _ _ _ => entered_inflict ..

theorem entered_actSavingThrow : Leads (Entered effect) (actSavingThrow firing) before := by
  refine .settle fun stat _ => .settle fun word _ => ?_
  split
  · refine .settle fun bound _ => .get (.targetId fun who _ => ?_)
    have draws : Leads (Entered effect) (draw 20) before := entered_of_tally rfl
    refine draws.bind fun natural _ _ => .require fun target _ => ?_
    dsimp only
    split
    · exact entered_narrate _
    · refine (entered_narrate _).bind fun _ _ _ => entered_durationOf.bind fun _ _ _ => ?_
      exact entered_inflict ..
  · exact .throw _

theorem entered_actCure : Leads (Entered effect) (actCure firing) before := by
  refine .settle fun word _ => ?_
  split
  · exact .pure ()
  · refine .get (.require fun patient _ => ?_)
    split
    · exact (entered_replace _).bind fun _ _ _ => entered_narrate _
    · exact .pure ()

theorem entered_actShove (shove : Shove) :
    Leads (Entered effect) (actShove shove firing) before := by
  refine .settle fun feet _ => .targetId fun target _ => .get ?_
  refine .require fun origin _ => .require fun start _ => ?_
  dsimp only
  split
  · exact .pure ()
  · split
    · exact .pure ()
    · exact (entered_place ..).bind fun _ _ _ => .require fun _ _ => entered_narrate _

theorem entered_actTeleport : Leads (Entered effect) (actTeleport firing) before := by
  refine .settle fun feet _ => .targetId fun target _ => .get ?_
  refine .require fun origin _ => .require fun anchor _ => ?_
  dsimp only
  split
  · exact entered_narrate _
  · exact (entered_place ..).bind fun _ _ _ => .require fun _ _ => entered_narrate _

theorem entered_actIgnite (damage : Int) : Leads (Entered effect) (actIgnite damage) before := by
  refine .get (.require fun there _ => ?_)
  have burns : Leads (Entered effect) (modify fun resolution => { resolution with
      field.terrain := resolution.field.terrain.setHazard there.position (some (.fire damage)) })
      before := entered_of_tally rfl
  exact burns.bind fun _ _ _ => entered_narrate _

theorem entered_findRoom (id : CombatantId) (patient : Combatant) :
    Leads (Entered effect) (findRoom id patient) before := by
  refine .get ?_
  dsimp only
  split
  · exact .pure true
  · split
    · exact (entered_place ..).bind fun _ _ _ => (entered_narrate _).bind fun _ _ _ => .pure true
    · exact (entered_narrate _).bind fun _ _ _ => .pure false

theorem entered_regain (id : CombatantId) (pool : Pool) (amount : Int) (down : Bool) :
    Leads (Entered effect) (regain id pool amount down) before := by
  refine .require fun one _ => (entered_replace _).bind fun _ _ _ => ?_
  refine (entered_narrate _).bind fun _ _ _ => ?_
  split
  · exact entered_narrate _
  · exact .pure ()

theorem entered_actHeal (recipient : Recipient) :
    Leads (Entered effect) (actHeal recipient firing) before := by
  have heals : ∀ (dice : DiceFormula) (pool : Pool) (who : CombatantId),
      Leads (Entered effect) (do
        let amount ← roll dice
        let patient ← require who
        let room ←
          if !patient.isAlive && pool == .hitPoints && 0 < amount then findRoom who patient
          else pure true
        if room then regain who pool amount (!patient.isAlive)) before := by
    intro dice pool who
    refine (entered_roll dice).bind fun amount now _ => .require fun patient _ => ?_
    have rises : ∀ room : Bool, ∀ now : Resolution, Leads (Entered effect)
        (if room then regain who pool amount (!patient.isAlive) else pure ()) now := fun room now => by
      split
      · exact entered_regain ..
      · exact .pure ()
    dsimp only
    split
    · exact (entered_findRoom ..).bind fun room after _ => rises room after
    · exact .pure_bind (rises true now)
  refine .settle fun dice _ => ?_
  dsimp only
  split
  · exact .settle fun pool _ => .get (heals ..)
  · exact .pure_bind (.get (heals ..))

/-! ### All effects -/

/-- An effect makes its own entries in the tally and no others, whether it succeeds or fails. -/
theorem entered_act (effect : Effect) : Leads (Entered effect) (effect.act firing) before := by
  cases effect with
  | cost => exact entered_actCost
  | heal recipient => exact entered_actHeal recipient
  | damage kind => exact entered_actDamage kind
  | composureDamage =>
    exact .settle fun dice _ => (entered_roll dice).bind fun amount _ _ => entered_tally ⟨amount, rfl⟩
  | lifesteal percent | reflect percent => exact .settle fun _ _ => entered_tally ⟨_, rfl⟩
  | area => exact .settle fun _ _ => .get (.require fun _ _ => entered_tally ⟨_, rfl⟩)
  | chain => exact entered_actChain
  | status condition flag recipient => exact entered_actStatus condition flag recipient
  | savingThrow => exact entered_actSavingThrow
  | cure => exact entered_actCure
  | grantResistance =>
    exact .settle fun _ _ => .get (entered_durationOf.bind fun _ _ _ => entered_inflict ..)
  | push => exact entered_actShove .away
  | pull => exact entered_actShove .toward
  | teleport => exact entered_actTeleport
  | ignite amount => exact entered_actIgnite amount
  | toHit | defenseBonus | damageReduction => exact .settle fun _ _ => entered_tally ⟨_, rfl⟩
  | mark which => exact entered_tally rfl
  | critRange => exact .settle fun _ _ => .get (entered_tally ⟨_, rfl⟩)
  | defense kind => exact .settle fun _ _ => entered_tally (by cases kind <;> exact ⟨_, rfl⟩)

/-- What the entries of an effect leave alone stays. -/
theorem view_act {α : Type} (view : Tally → α)
    (alone : ∀ one other, effect.Enters one other → view other = view one) (firing : Firing)
    (before : Resolution) : view (effect.act firing before).2.tally = view before.tally := by
  have entered : Entered effect before (effect.act firing before).2 := entered_act effect
  unfold Entered at entered
  generalize (effect.act firing before).2.tally = after at entered ⊢
  induction entered with
  | refl => rfl
  | tail _ enters same => exact (alone _ _ enters).trans same

end Effect

end Skirmish
