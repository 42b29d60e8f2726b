/-
**Attacks that ask for nothing but costs.** Where an attack is still undecided, a text that the cost
rule recognizes, and no rule that changes the attack, does nothing but charge the attacker.

* `Standard.AsksFor`: there are such texts;
* `AsksFor.resolve`: what resolving one of them comes to;
* `resolveAll_forfeit`: a cost is paid although the next one aborts the action.
-/

import Skirmish.Proofs.Operations
import Skirmish.Proofs.StandardTable

namespace Skirmish

open Resolve Resolution Battlefield

variable {before : Resolution} {text : String}

/-! ### Rules that have nothing to say -/

namespace Matcher

/-- A matcher whose trigger does not occur in a text finds nothing there. -/
theorem find?_eq_none {matcher : Matcher} (absent : matcher.trigger.occurs text = false) :
    matcher.find? text = none := by
  unfold find?
  split
  · rfl
  · exact Option.not_isSome_iff_eq_none.mp (by simpa [Pattern.occurs] using absent)

/-- The trigger of a matcher is the pattern that its text is the written form of. -/
theorem parse?_of_ofTexts {trigger : String} {vetoes : List String} {matcher : Matcher}
    (reads : ofTexts trigger vetoes = .ok matcher) :
    Pattern.parse? true trigger = some matcher.trigger := by
  unfold ofTexts pattern at reads
  rcases parsed : Pattern.parse? true trigger with _ | pattern
  · simp [parsed, bind, Except.bind] at reads
  · simp only [parsed, bind, Except.bind] at reads
    split at reads
    · cases reads
    · cases reads
      rfl

end Matcher

/-- Rules that do not listen, or find nothing in a text, do nothing. -/
theorem Rule.askAll_of_silent {rules : List Rule}
    (silent : ∀ rule ∈ rules, rule.hooks.contains before.hook → rule.matcher.find? text = none) :
    askAll rules text before = (false, before) := by
  induction rules with
  | nil => rfl
  | cons rule rest hyp =>
    have idle : rule.ask text before = (false, before) := by
      unfold Rule.ask
      split
      · rename_i listens
        rw [silent rule (List.mem_cons_self ..) listens]
      · rfl
    have later := hyp fun other mem => silent other (List.mem_cons_of_mem _ mem)
    simp [askAll, idle, later]

namespace Standard

/-! ### Texts that ask for a cost -/

/-- What the cost rule reads in a text: an amount and a pool. -/
def price? (text : String) : Option (Int × Pool) := do
  let matcher ← (Matcher.ofTexts costRule.pattern costRule.vetoes).toOption
  let finding ← matcher.find? text
  (Effect.price ⟨costRule.name, text, finding⟩).toOption

/-- A text asks attackers for a cost, and for nothing else. -/
structure AsksFor (text : String) (amount : Int) (pool : Pool) : Prop where
  trimmed : Text.trim text = text
  shown : text.isEmpty = false
  priced : price? text = some (amount, pool)
  silent : ∀ spec ∈ attackRules, ∀ trigger, Pattern.parse? true spec.pattern = some trigger →
    trigger.occurs text = false

/-- Of the specs after the first, only those of `attackRules` listen to attackers, and only those of
`defenseRules` to targets. -/
theorem mem_of_listens {spec : RuleSpec} (mem : spec ∈ specs.tail) :
    (spec.hooks.contains .onAttack → spec ∈ attackRules) ∧
      (spec.hooks.contains .onDefend → spec ∈ defenseRules) := by
  have attacks : ∀ spec ∈ attackRules, ¬spec.hooks.contains .onDefend := by decide
  have defends : ∀ spec ∈ defenseRules, ¬spec.hooks.contains .onAttack := by decide
  have others : ∀ spec ∈ payloadRules ++ afflictionRules ++ groundRules ++
      knownConditions.map conditionRule,
      ¬spec.hooks.contains .onAttack ∧ ¬spec.hooks.contains .onDefend := by decide
  have tail : specs.tail = attackRules ++ (defenseRules ++ (payloadRules ++ afflictionRules ++
      groundRules ++ knownConditions.map conditionRule)) := by
    simp only [specs, List.cons_append, List.tail_cons, List.append_assoc]
  rw [tail] at mem
  rcases List.mem_append.mp mem with mem | mem
  · exact ⟨fun _ => mem, fun listens => absurd listens (attacks spec mem)⟩
  rcases List.mem_append.mp mem with mem | mem
  · exact ⟨fun listens => absurd listens (defends spec mem), fun _ => mem⟩
  · exact ⟨fun listens => absurd listens (others spec mem).1,
      fun listens => absurd listens (others spec mem).2⟩

/-- The standard table, as the cost rule and the others. -/
theorem exists_table_eq : ∃ cost rest, table = ⟨cost :: rest⟩ ∧
    Catalog.standard.build costRule = .ok cost ∧
    ∀ rule ∈ rest, ∃ spec ∈ specs.tail, Catalog.standard.build spec = .ok rule := by
  have built := forall₂_built
  rw [specs_eq] at built
  generalize table = whole at built ⊢
  obtain ⟨rules⟩ := whole
  obtain _ | @⟨_, cost, _, rest, first, others⟩ := built
  exact ⟨cost, rest, rfl, first, fun rule mem => exists_of_forall₂ others mem⟩

variable {amount : Int} {pool : Pool} {payer : Combatant}

/-- The cost rule charges for a text whose price it reads. -/
theorem ask_cost {cost : Rule} (built : Catalog.standard.build costRule = .ok cost)
    (priced : price? text = some (amount, pool)) (hook : before.hook = .onAttack)
    (found : before.field.find? before.actor = some payer) :
    cost.ask text before = (true, before.charged payer amount pool) := by
  obtain ⟨name, -, reads, -⟩ := Catalog.build_eq_ok built
  have isCost := isCost_of_build built
  simp only [price?, reads, Except.toOption, Option.bind_eq_bind, Option.bind_some] at priced
  obtain ⟨finding, finds, priced⟩ := Option.bind_eq_some_iff.mp priced
  have priced' : Effect.price ⟨cost.name, text, finding⟩ = .ok (amount, pool) := by
    rw [name]
    split at priced
    · cases priced
      assumption
    · cases priced
  have listens : cost.hooks.contains before.hook := by simp [isCost.hooks, hook]
  have acts : cost.act ⟨cost.name, text, finding⟩ before
      = (.ok (), before.charged payer amount pool) := by
    rw [isCost.act]
    exact Effect.run_actCost_of_priced priced' found
  simp only [Rule.ask, listens, finds, acts, ↓reduceIte]

theorem AsksFor.resolve (asks : AsksFor text amount pool) (hook : before.hook = .onAttack)
    (clear : before.tally.aborted = false)
    (found : before.field.find? before.actor = some payer) :
    table.resolve text before = (true, before.charged payer amount pool) := by
  obtain ⟨cost, rest, split, built, others⟩ := exists_table_eq
  have first := ask_cost built asks.priced hook found
  have hook' : (before.charged payer amount pool).hook = .onAttack := by
    unfold charged
    split <;> exact hook
  have later : Rule.askAll rest text (before.charged payer amount pool)
      = (false, before.charged payer amount pool) := by
    refine Rule.askAll_of_silent fun rule mem listens => ?_
    obtain ⟨spec, known, built'⟩ := others rule mem
    obtain ⟨-, hooks, reads, -⟩ := Catalog.build_eq_ok built'
    rw [hook', hooks] at listens
    exact Matcher.find?_eq_none (asks.silent spec ((mem_of_listens known).1 listens) _
      (Matcher.parse?_of_ofTexts reads))
  simp only [RuleTable.resolve, asks.trimmed, asks.shown, split, Rule.askAll, clear, first, later,
    Bool.false_eq_true, ↓reduceIte, Bool.or_false]

/-- Resolving a text that asks for a cost, and further texts. -/
theorem AsksFor.resolveAll_cons (asks : AsksFor text amount pool) (hook : before.hook = .onAttack)
    (clear : before.tally.aborted = false)
    (found : before.field.find? before.actor = some payer) (rest : List String) :
    (table.resolveAll (text :: rest) before).2
      = (table.resolveAll rest (before.charged payer amount pool)).2 := by
  have first := asks.resolve hook clear found
  simp only [RuleTable.resolveAll, clear, first, Bool.false_eq_true, ↓reduceIte]

/-- A cost is paid although the next one cannot be paid and aborts the action. -/
theorem resolveAll_forfeit (before : Resolution) {second : String} {amount' : Int} {pool' : Pool}
    {paid : Combatant}
    (asks : AsksFor text amount pool) (asks' : AsksFor second amount' pool')
    (hook : before.hook = .onAttack) (clear : before.tally.aborted = false)
    (found : before.field.find? before.actor = some payer)
    (spent : payer.spend? pool amount = some paid) (short : paid.spend? pool' amount' = none) :
    (table.resolveAll [text, second] before).2.tally.aborted ∧
      (table.resolveAll [text, second] before).2.field
        = before.field.update before.actor fun _ => paid := by
  have who : paid.id = before.actor := (Effect.id_of_spend? spent).trans (id_of_find? found)
  have afterFirst : before.charged payer amount pool = { before with
      field := before.field.update before.actor fun _ => paid
      log := before.log ++ [s!"{payer.name} spends {amount} {pool.tag}."] } := by
    unfold charged
    rw [spent]
  have there : (before.field.update before.actor fun _ => paid).find? before.actor = some paid :=
    find?_replace found who
  rw [asks.resolveAll_cons hook clear found, afterFirst,
    asks'.resolveAll_cons (by exact hook) (by exact clear) there]
  simp only [RuleTable.resolveAll, charged, short]
  exact ⟨trivial, trivial⟩

/-! ### Two costs -/

theorem silent_of_spelled {pattern : String} {chars : List Char} (spelled : Spelled pattern chars)
    (absent : (Pattern.ofChars? chars).all fun trigger => !trigger.occurs text) :
    ∀ trigger, Pattern.parse? true pattern = some trigger → trigger.occurs text = false := by
  intro trigger reads
  rw [Pattern.parse?_of_spelled spelled] at reads
  simpa [reads] using absent

theorem silent_costs : ∀ text ∈ ["Cost: 40 HP", "Cost: 999 FP"], ∀ spec ∈ attackRules,
    ∀ trigger, Pattern.parse? true spec.pattern = some trigger → trigger.occurs text = false := by
  simp only [attackRules, rule, vetoed, List.forall_mem_cons, List.not_mem_nil, false_implies,
    implies_true, and_true, List.nil_append]
  and_intros
  all_goals
    refine silent_of_spelled (by
      repeat first | with_reducible apply Spelled.append | exact spelled_ofList _) ?_
    decide +kernel

theorem asksFor_hitPoints : AsksFor "Cost: 40 HP" 40 .hitPoints :=
  ⟨by decide +kernel, by decide +kernel, by decide +kernel, silent_costs _ (by simp)⟩

theorem asksFor_focus : AsksFor "Cost: 999 FP" 999 .focus :=
  ⟨by decide +kernel, by decide +kernel, by decide +kernel, silent_costs _ (by simp)⟩

end Standard

namespace Fight

variable {combat : Combat} {attacker target paid : Combatant} {first second : String}
  {amount amount' : Int} {pool pool' : Pool}

/-- An attack whose first cost is paid and whose second cannot be is given up, and what was paid is
gone. -/
theorem attack_forfeit (rules : combat.rules = Standard.table) {request : AttackRequest}
    (granted : combat.requireAction request.attacker = .ok attacker)
    (there : combat.field.require request.target = .ok target)
    (fit : ¬(request.target == request.attacker || !target.isAlive))
    (texts : combat.sources.texts request.attacker request.effects = [first, second])
    (asks : Standard.AsksFor first amount pool) (asks' : Standard.AsksFor second amount' pool')
    (spent : attacker.spend? pool amount = some paid) (short : paid.spend? pool' amount' = none) :
    ∃ report after, attack request combat = (.ok report, after) ∧ report.aborted ∧
      after.state = combat.state ∧
      after.field = combat.field.update request.attacker fun _ => paid := by
  have costsFirst : combat.rules.CostsFirst := by
    rw [rules]
    exact Standard.costsFirst
  obtain ⟨-, found⟩ := Combat.requireAction_eq_ok granted
  obtain ⟨report, after, run, made⟩ :=
    attack_of_granted combat costsFirst.stock request granted there fit
  refine ⟨report, after, run, ?_⟩
  obtain ⟨setting, resolved, ends, rfl⟩ := made.ends
  rw [rules, texts] at ends
  obtain ⟨aborted, field⟩ := Standard.resolveAll_forfeit (setting.opened (combat.opening .onAttack
    request.attacker (some request.target) request.tier)) asks asks' rfl rfl found spent short
  have given : report.aborted := ends.aborted.trans aborted
  rw [← ends.asked given] at field
  simp only [Combat.afterAttack, given, ↓reduceIte]
  exact ⟨trivial, rfl, field⟩

end Fight

end Skirmish
