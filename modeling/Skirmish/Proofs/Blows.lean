/-
**Blows and what meets them.** The texts of an attacker that has landed strike blows, one for each time
that the damage rule fires on them without a fault. What the target says against damage it has said
before:

* `Invocation.blow?`: the blow that an invocation strikes, and `Blow.foldl_onto`: what blows add up to;
* `Standard.harm_landed`, `harm_undecided`: the damage that texts leave pending is that of their blows,
  and before an attack has landed there are none;
* `Defenses.met`: what a combatant's conditions and texts come to against a type of damage;
* `Standard.gather_defended`: so the tally has it once the target's texts are resolved, and
  `wards_of_ne`: no other text adds to it.
-/

import Skirmish.Proofs.Entries
import Skirmish.Proofs.Recitals
import Skirmish.Proofs.Shuffles

namespace Skirmish

open Resolve

/-! ### Blows -/

/-- An amount of damage, and its type where one is named. -/
structure Blow where
  amount : Int
  kind : Option String
deriving DecidableEq, Repr

namespace Blow

/-- The damage of some blows. The sum stops at the ends of its range. -/
def sum (blows : List Blow) : Int := (blows.map (·.amount)).foldl saturatingAdd 0

/-- The first type that one of them names. -/
def firstKind? (blows : List Blow) : Option String := blows.findSome? (·.kind)

end Blow

/-- The dice of a damage text: those that it names, or else those of the tier. -/
def Finding.damageDice? (finding : Finding) (config : Config) (tier : Nat) : Option DiceFormula :=
  match (finding.group? "dice").or (finding.group? "dice2") with
  | some text => DiceFormula.parse? text
  | none => some (config.damageForTier tier)

/-- The blow that an invocation strikes, if it is one of the damage rule and leaves no fault: its dice
are rolled in the state that it meets. -/
def Invocation.blow? (invocation : Invocation) : Option Blow :=
  match invocation.outcome with
  | .error _ => none
  | .ok () =>
    if invocation.rule.name = "damage" then
      (invocation.finding.damageDice? invocation.start.config invocation.start.tier).map fun dice =>
        { amount := dice.total (dice.faces invocation.start.dice).1
          kind := (invocation.finding.group? "kind").map canonicalDamageType }
    else none

namespace Effect

variable {firing : Firing} {before : Resolution} {kind : Option String}

end Effect

/-! ### What rules have to do with damage -/

/-- Damage comes from the rule of that name, on texts of an attacker that has landed and of abilities, and
what is said against it comes from texts of the target. -/
structure Rule.Minds (rule : Rule) (effect : Effect) : Prop where
  act : rule.act = effect.act
  damage : rule.name = "damage" → effect = .damage none ∧ rule.hooks = [.activate, .onHit]
  harmless : rule.name ≠ "damage" → ∀ kind, effect ≠ .damage kind
  wards : (∃ kind, effect = .defense kind) ∨ effect = .damageReduction → rule.hooks = [.onDefend]

namespace Effect

variable {effect : Effect}

theorem name_eq_damage_iff : effect.name = "damage" ↔ ∃ kind, effect = .damage kind := by
  cases effect with
  | mark which => cases which <;> simp [name, Mark.name]
  | defense kind => cases kind <;> simp [name]
  | _ => simp [name]

/-- The type of damage text that names none is an argument. -/
theorem kind_of_named : ∀ entry ∈ named, ∀ arguments kind, entry.2 arguments = .ok (.damage kind) →
    kind = (arguments.get? "type").map canonicalDamageType := by
  unfold named
  simp only [List.forall_mem_cons, List.not_mem_nil, false_implies, implies_true, and_true]
  and_intros
  all_goals
    intro arguments kind made
    first
      | exact (Effect.damage.inj (Except.ok.inj made)).symm
      | cases Except.ok.inj made
      | obtain ⟨value, made'⟩ := exists_of_made made
        cases made'

/-- The names of the effects that say something against damage. -/
def warding : List String := ["resistance", "immunity", "vulnerability", "damage_reduction"]

theorem name_mem_warding (wards : (∃ kind, effect = .defense kind) ∨ effect = .damageReduction) :
    effect.name ∈ warding := by
  rcases wards with ⟨kind, rfl⟩ | rfl
  · cases kind <;> simp [name, warding]
  · simp [name, warding]

end Effect

namespace Standard

theorem specs_minds : ∀ spec ∈ specs, (spec.handler = "damage" ↔ spec.name = "damage") ∧
    (spec.name = "damage" → spec.hooks = [.activate, .onHit] ∧ spec.arguments.get? "type" = none) ∧
    (spec.handler ∈ Effect.warding → spec.hooks = [.onDefend]) := by
  decide

theorem exists_minds {rule : Rule} (mem : rule ∈ table.rules) : ∃ effect, rule.Minds effect := by
  obtain ⟨spec, known, built⟩ := exists_spec mem
  obtain ⟨name, hooks, -, read, effect, listed, made, act⟩ := Catalog.build_eq_ok built
  have called : effect.name = spec.handler := Effect.name_of_named _ listed _ _ made
  obtain ⟨damage, typed, wards⟩ := specs_minds spec known
  rw [← name, ← called, Effect.name_eq_damage_iff] at damage
  refine ⟨effect, act, fun same => ?_, fun other kind same => other (damage.mp ⟨kind, same⟩), ?_⟩
  · obtain ⟨hooks', bare⟩ := typed (name.symm.trans same)
    obtain ⟨kind, rfl⟩ := damage.mpr same
    have none := Effect.kind_of_named _ listed _ _ made
    rw [bare] at none
    exact ⟨congrArg Effect.damage none, hooks.trans hooks'⟩
  · intro guards
    exact hooks.trans (wards (called ▸ Effect.name_mem_warding guards))

end Standard

namespace Invocation

variable {invocation : Invocation} {text : String} {effect : Effect}

end Invocation

namespace Standard

variable {texts : List String} {hook : Hook} {before after : Resolution} {trace : List Invocation}

/-- Only the texts of a target say something against damage. -/
theorem wards_of_ne (other : hook ≠ .onDefend)
    (recited : Recited table.rules hook texts before trace after) :
    after.tally.wards = before.tally.wards := by
  refine recited.view_eq (·.tally.wards) fun invocation text mem listens made => ?_
  obtain ⟨effect, minds⟩ := exists_minds mem
  have apart : ¬((∃ kind, effect = .defense kind) ∨ effect = .damageReduction) := fun guards => by
    rw [minds.wards guards] at listens
    exact other (List.mem_singleton.mp (List.contains_iff_mem.mp listens))
  obtain ⟨listed, reduced⟩ := not_or.mp apart
  exact Invocation.view_stop made minds.act Tally.wards fun _ _ enters =>
    (Effect.keepsApart enters).wards (fun kind same => listed ⟨kind, same⟩) reduced

end Standard

/-! ### What meets them -/

namespace Modifier

/-- A modifier says that a type of damage is met in some way. -/
def meets (way : DefenseKind) (kind : Option String) : Modifier → Bool
  | .defense other damageType => decide (other = way) && Defenses.listed [damageType] kind
  | _ => false

/-- The reduction of damage that a modifier is. -/
def reduction? : Modifier → Option Int
  | .damageReduction amount => some amount
  | _ => none

end Modifier

namespace Defenses

/-- What a combatant's own conditions and some modifiers come to against a type of damage. -/
def met (modifiers : List Modifier) (defender : Combatant) (kind : Option String) : Defenses where
  immune := (ofConditions defender kind).immune || modifiers.any (·.meets .immune kind)
  resist := (ofConditions defender kind).resist || modifiers.any (·.meets .resisted kind)
  vulnerable := (ofConditions defender kind).vulnerable || modifiers.any (·.meets .vulnerable kind)
  reduction := (modifiers.filterMap Modifier.reduction?).foldl saturatingAdd 0

variable {config : Config} {tally other : Tally} {defender : Combatant} {kind : Option String}

theorem listed_withEntry (kinds : List String) (entry : String) :
    listed (Effect.withEntry kinds entry) kind = (listed kinds kind || listed [entry] kind) := by
  cases kind with
  | none => rfl
  | some kind =>
    simp only [listed, Option.any_some]
    rw [Bool.eq_iff_iff]
    simp only [Bool.or_eq_true, List.any_eq_true, Modifier.mem_withEntry, List.mem_singleton]
    constructor
    · rintro ⟨one, mem | rfl, same⟩
      · exact .inl ⟨one, mem, same⟩
      · exact .inr ⟨one, rfl, same⟩
    · rintro (⟨one, mem, same⟩ | ⟨one, rfl, same⟩)
      · exact ⟨one, .inl mem, same⟩
      · exact ⟨one, .inr rfl, same⟩

/-- What is gathered depends on what the texts of the target say alone. -/
theorem gather_congr (same : other.wards = tally.wards) : gather other defender kind
    = gather tally defender kind := by
  obtain ⟨types, reduction⟩ := Prod.mk.inj same
  obtain ⟨resistances, types⟩ := Prod.mk.inj types
  obtain ⟨immunities, vulnerabilities⟩ := Prod.mk.inj types
  simp only [gather, resistances, immunities, vulnerabilities, reduction]

/-- **Conditions and texts come together** against a type of damage. -/
theorem gather_applyAll (bare : tally.wards = (([], [], []), none)) (modifiers : List Modifier) :
    gather (Modifier.applyAll config modifiers tally) defender kind = met modifiers defender kind := by
  induction modifiers using List.reverseRecOn with
  | nil =>
    have empty : (({} : Tally)).wards = (([], [], []), none) := rfl
    show gather tally defender kind = _
    rw [gather_congr (bare.trans empty.symm)]
    cases kind <;> simp [gather, met, listed]
  | append_singleton earlier modifier hyp =>
    have step : Modifier.applyAll config (earlier ++ [modifier]) tally
        = modifier.apply config (Modifier.applyAll config earlier tally) := by
      simp [Modifier.applyAll]
    rw [step]
    generalize Modifier.applyAll config earlier tally = now at hyp
    simp only [gather, met, Defenses.mk.injEq] at hyp ⊢
    obtain ⟨immune, resist, vulnerable, reduction⟩ := hyp
    simp only [List.any_append, List.filterMap_append, List.foldl_append, ← Bool.or_assoc, ← immune,
      ← resist, ← vulnerable, ← reduction]
    cases modifier with
    | attackBonus | defenseBonus | critThreshold | reflect =>
      simp [Modifier.apply, Modifier.meets, Modifier.reduction?, Tally.addAttackBonus,
        Tally.addDefenseBonus, List.filterMap_cons]
    | mark which =>
      cases which <;>
        simp [Modifier.apply, Modifier.meets, Modifier.reduction?, Tally.raise, List.filterMap_cons]
    | damageReduction amount =>
      simp [Modifier.apply, Modifier.meets, Modifier.reduction?, Tally.addDamageReduction, Tally.added]
    | defense way damageType =>
      cases way <;>
        simp [Modifier.apply, Modifier.meets, Modifier.reduction?, listed_withEntry, Bool.or_assoc,
          List.filterMap_cons]

end Defenses

namespace Standard

variable {before : Resolution} {texts : List String} {defender : Combatant} {kind : Option String}
  {heard : String → Heard}

/-- **What meets damage are the target's own conditions and what its texts say**, where nothing has been
said before. -/
theorem gather_defended (tells : ∀ text, Tells .onDefend (table.resolve text) (heard text))
    (hook : before.hook = .onDefend) (clear : before.tally.aborted = false)
    (bare : before.tally.wards = (([], [], []), none)) :
    Defenses.gather (table.resolveAll texts before).2.tally defender kind
      = Defenses.met (texts.flatMap (heard · |>.modifiers)) defender kind := by
  rw [RuleTable.resolveAll_of_tells (fun text _ => tells text) hook clear]
  exact Defenses.gather_applyAll bare _

end Standard

end Skirmish
