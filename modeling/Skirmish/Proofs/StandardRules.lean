/-
**What the standard rules amount to.** Every rule of the standard table carries out one of the named
effects, and `Effect.name` tells which. For what an action may do to the field only this matters:

* the first rule is the only cost (`Rule.IsCost`), and it listens to abilities and attackers;
* whatever else listens while an attack is still undecided only adds to the tally (`Rule.Tame`).

`Standard.costsFirst` says that the standard table is such a table (`RuleTable.CostsFirst`).
-/

import Mathlib.Data.List.Forall2
import Skirmish.Rule.Standard
import Skirmish.Proofs.Effects

namespace Skirmish

/-! ### Building a table -/

/-- A list whose entries all succeed is the list of their results. -/
theorem mapM_eq_ok_iff {α β ε : Type} (step : α → Except ε β) (list : List α) (results : List β) :
    list.mapM step = .ok results
      ↔ List.Forall₂ (fun entry result => step entry = .ok result) list results := by
  induction list generalizing results with
  | nil => cases results <;> simp [pure, Except.pure]
  | cons entry rest hyp =>
    rw [List.mapM_cons]
    rcases first : step entry with error | result
    · cases results <;> simp [bind, Except.bind, first]
    · rcases others : rest.mapM step with error | further
      · cases results <;> simp [bind, Except.bind, ← hyp, others]
      · cases results <;> simp [bind, Except.bind, pure, Except.pure, ← hyp, others, first]

/-- Where two lists are related entry by entry, what is in the second is related to something in the
first. -/
theorem exists_of_forall₂ {α β : Type} {related : α → β → Prop} {list : List α} {results : List β}
    (each : List.Forall₂ related list results) {result : β} (mem : result ∈ results) :
    ∃ entry ∈ list, related entry result := by
  induction each with
  | nil => cases mem
  | cons here _ hyp =>
    rcases List.mem_cons.mp mem with rfl | later
    · exact ⟨_, List.mem_cons_self .., here⟩
    · obtain ⟨entry, listed, holds⟩ := hyp later
      exact ⟨entry, List.mem_cons_of_mem _ listed, holds⟩

/-- The rules of a table are those that its specs describe. -/
theorem RuleTable.ofSpecs_eq_ok (catalog : Catalog) (specs : List RuleSpec) (table : RuleTable) :
    RuleTable.ofSpecs catalog specs = .ok table
      ↔ List.Forall₂ (fun spec rule => catalog.build spec = .ok rule) specs table.rules := by
  rw [← mapM_eq_ok_iff]
  unfold RuleTable.ofSpecs
  rcases specs.mapM catalog.build with error | rules
  · simp [bind, Except.bind]
  · obtain ⟨rules'⟩ := table
    simp [bind, Except.bind, pure, Except.pure]

/-- Whatever a map holds was in the list it was made of. -/
theorem NameMap.mem_of_get?_ofList {β : Type} {list : List (String × β)} {name : String} {value : β}
    (found : (NameMap.ofList list).get? name = some value) : (name, value) ∈ list := by
  have grows : ∀ (list : List (String × β)) (start : NameMap β),
      (list.foldl (fun map entry => map.insert entry.1 entry.2) start).get? name = some value →
        (name, value) ∈ list ∨ start.get? name = some value := by
    intro list
    induction list with
    | nil => exact fun start found => .inr found
    | cons entry rest hyp =>
      intro start found
      rcases hyp _ found with mem | before
      · exact .inl (List.mem_cons_of_mem _ mem)
      · rw [NameMap.get?_insert] at before
        split at before
        case isTrue same =>
          subst same
          obtain rfl := Option.some.inj before
          exact .inl (List.mem_cons_self ..)
        case isFalse => exact .inr before
  exact (grows list NameMap.empty found).resolve_right (by simp [NameMap.get?, NameMap.empty])

/-- A rule that was built from a spec carries out a named effect. -/
theorem Catalog.build_eq_ok {spec : RuleSpec} {rule : Rule}
    (built : Catalog.standard.build spec = .ok rule) :
    rule.name = spec.name ∧ rule.hooks = spec.hooks ∧
      Matcher.ofTexts spec.pattern spec.vetoes = .ok rule.matcher ∧
      ∃ read effect, (spec.handler, read) ∈ Effect.named ∧ read spec.arguments = .ok effect ∧
        rule.act = effect.act := by
  unfold Catalog.build at built
  rcases known : Catalog.standard.get? spec.handler with _ | handler
  · rw [known] at built
    cases built
  rcases acts : handler spec.arguments with error | act
  · simp [known, acts, bind, Except.bind] at built
  rcases reads : Matcher.ofTexts spec.pattern spec.vetoes with error | matcher
  · simp [known, acts, reads, bind, Except.bind] at built
  obtain rfl : ⟨spec.name, matcher, spec.hooks, act⟩ = rule := by
    simpa [known, acts, reads, bind, Except.bind, pure, Except.pure] using built
  refine ⟨rfl, rfl, rfl, ?_⟩
  obtain ⟨⟨name, read⟩, mem, same⟩ := List.mem_map.mp (NameMap.mem_of_get?_ofList known)
  obtain ⟨rfl, rfl⟩ := Prod.mk.inj same
  rcases made : read spec.arguments with error | effect
  · simp [made, Except.map] at acts
  · refine ⟨read, effect, mem, made, ?_⟩
    simpa [made, Except.map, eq_comm] using acts

/-- The name of a mark. -/
def Mark.name : Mark → String
  | .advantage => "advantage"
  | .disadvantage => "disadvantage"
  | .defenseAdvantage => "defense_advantage"
  | .autoHit => "auto_hit"
  | .ignoreArmor => "ignore_armor"
  | .ignoreResistance => "ignore_resistance"
  | .critImmune => "crit_immunity"

namespace Effect

/-- The name of an effect. -/
def name : Effect → String
  | .cost => "cost"
  | .heal _ => "heal"
  | .damage _ => "damage"
  | .composureDamage => "composure_damage"
  | .lifesteal _ => "lifesteal"
  | .reflect _ => "reflect"
  | .area => "area"
  | .chain => "chain"
  | .status .. => "status"
  | .savingThrow => "saving_throw"
  | .cure => "cure"
  | .grantResistance => "grant_resistance"
  | .push => "push"
  | .pull => "pull"
  | .teleport => "teleport"
  | .ignite _ => "ignite"
  | .toHit => "to_hit"
  | .mark which => which.name
  | .critRange => "crit_range"
  | .defenseBonus => "defense_bonus"
  | .defense .resisted => "resistance"
  | .defense .immune => "immunity"
  | .defense .vulnerable => "vulnerability"
  | .damageReduction => "damage_reduction"

/-- An effect that is made of an argument. -/
theorem exists_of_made {α : Type} {result : Except Error α} {make : α → Effect} {effect : Effect}
    (made : (do return make (← result)) = Except.ok effect) : ∃ value, effect = make value := by
  rcases result with error | value
  · cases made
  · exact ⟨value, (Except.ok.inj made).symm⟩

/-- Whatever its arguments, an effect keeps the name it is made by. -/
theorem name_of_named : ∀ entry ∈ named, ∀ arguments effect, entry.2 arguments = .ok effect →
    effect.name = entry.1 := by
  unfold named
  simp only [List.forall_mem_cons, List.not_mem_nil, false_implies, implies_true, and_true]
  and_intros
  all_goals
    intro arguments effect made
    first
      | obtain rfl := Except.ok.inj made
      | obtain ⟨value, rfl⟩ := exists_of_made made
    rfl

variable {effect : Effect}

theorem eq_cost_iff : effect = .cost ↔ effect.name = "cost" := by
  cases effect with
  | mark which => cases which <;> simp [name, Mark.name]
  | defense kind => cases kind <;> simp [name]
  | _ => simp [name]

/-- The names of the effects that change the roll of an attack or of a defense. -/
def modifiers : List String :=
  ["to_hit", "advantage", "disadvantage", "auto_hit", "crit_range", "ignore_armor",
    "ignore_resistance", "defense_bonus", "defense_advantage", "crit_immunity", "immunity",
    "resistance", "vulnerability", "damage_reduction", "reflect"]

/-- Modifiers add to the tally. -/
theorem isStill_of_name (modifies : effect.name ∈ modifiers) : effect.isStill := by
  cases effect with
  | cost | heal | status | savingThrow | cure | grantResistance | push | pull | teleport | ignite =>
    simp [name, modifiers] at modifies
  | _ => rfl

end Effect

/-- A rule that was built from a spec carries out the effect of that name. -/
theorem Catalog.exists_effect_of_build {spec : RuleSpec} {rule : Rule}
    (built : Catalog.standard.build spec = .ok rule) :
    ∃ effect : Effect, effect.name = spec.handler ∧ rule.act = effect.act := by
  obtain ⟨-, -, -, read, effect, known, made, act⟩ := Catalog.build_eq_ok built
  exact ⟨effect, Effect.name_of_named _ known _ _ made, act⟩

/-! ### Tables that ask for costs first -/

namespace Rule

/-- The rule that takes costs, from abilities and from attackers. -/
structure IsCost (rule : Rule) : Prop where
  hooks : rule.hooks = [.activate, .onAttack]
  act : rule.act = Effect.act .cost

/-- A rule that takes no cost, and only adds to the tally while an attack is undecided. -/
def Tame (rule : Rule) : Prop :=
  ∃ effect, effect ≠ Effect.cost ∧ rule.act = effect.act ∧
    (rule.hooks.contains .onAttack ∨ rule.hooks.contains .onDefend → effect.isStill)

end Rule

/-- The first rule takes costs, and all others are tame. -/
inductive RuleTable.CostsFirst : RuleTable → Prop
  | none : CostsFirst ⟨[]⟩
  | some {cost : Rule} {rest : List Rule} (isCost : cost.IsCost) (tame : ∀ rule ∈ rest, rule.Tame) :
      CostsFirst ⟨cost :: rest⟩

namespace Standard

/-- The specs after the first take no costs, and change the roll where they listen to one. -/
theorem specs_tail : ∀ spec ∈ specs.tail, spec.handler ≠ "cost" ∧
    ((spec.hooks.contains .onAttack || spec.hooks.contains .onDefend) = true →
      spec.handler ∈ Effect.modifiers) := by
  decide

theorem isCost_of_build {rule : Rule} (built : Catalog.standard.build costRule = .ok rule) :
    rule.IsCost := by
  obtain ⟨-, hooks, -⟩ := Catalog.build_eq_ok built
  obtain ⟨effect, name, act⟩ := Catalog.exists_effect_of_build built
  obtain rfl := Effect.eq_cost_iff.mpr name
  exact ⟨hooks, act⟩

theorem tame_of_build {spec : RuleSpec} {rule : Rule} (mem : spec ∈ specs.tail)
    (built : Catalog.standard.build spec = .ok rule) : rule.Tame := by
  obtain ⟨-, hooks, -⟩ := Catalog.build_eq_ok built
  obtain ⟨effect, name, act⟩ := Catalog.exists_effect_of_build built
  obtain ⟨notCost, modifies⟩ := specs_tail spec mem
  rw [← name] at notCost modifies
  refine ⟨effect, fun eq => notCost (Effect.eq_cost_iff.mp eq), act, fun listens =>
    Effect.isStill_of_name (modifies ?_)⟩
  rw [hooks] at listens
  simpa using listens

theorem specs_eq : specs = costRule :: specs.tail := by
  unfold specs
  rfl

theorem table_eq : table = (RuleTable.ofSpecs .standard specs).toOption.getD .empty := rfl

/-- The standard table asks for costs first, and for nothing else that an attack must not meet
before it is decided. -/
theorem costsFirst : table.CostsFirst := by
  rw [table_eq]
  rcases all : RuleTable.ofSpecs .standard specs with error | table
  · exact .none
  have built := (RuleTable.ofSpecs_eq_ok ..).mp all
  rw [specs_eq] at built
  rcases table with ⟨_ | ⟨cost, rest⟩⟩
  · exact .none
  obtain ⟨first, others⟩ := List.forall₂_cons.mp built
  refine .some (isCost_of_build first) fun rule mem => ?_
  obtain ⟨spec, known, builds⟩ := exists_of_forall₂ others mem
  exact tame_of_build known builds

end Standard

end Skirmish
