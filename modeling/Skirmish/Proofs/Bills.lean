/-
**What texts cost.** While an attack is undecided its texts do to the field exactly what they cost, and
an ability's texts begin with what they cost:

* `Combatant.Debits`: pools have paid a bill, and nothing else has changed;
* `Standard.charges`: the cost rule recognizes a text, and `bill`: what some texts ask for;
* `steady_resolve`: what a text costs is charged, and whatever else it does aborts nothing;
* `resolveAll_settled`: an attacker pays the bill, as far as its pools last, and `Fight.attack_settles`:
  the attack is given up exactly if they do not;
* `orderedEffects_eq`: the texts of an ability that cost something come first.
-/

import Skirmish.Proofs.Costs
import Skirmish.Proofs.Matching

namespace Skirmish

open Resolve Resolution Battlefield

/-! ### What is taken -/

/-- What a bill takes from a pool. -/
def owed (bill : List (Int × Pool)) (pool : Pool) : Int :=
  ((bill.filter (·.2 = pool)).map Prod.fst).sum

theorem owed_append (one two : List (Int × Pool)) (pool : Pool) :
    owed (one ++ two) pool = owed one pool + owed two pool := by
  simp [owed]

theorem owed_of_not_mem {bill : List (Int × Pool)} {pool : Pool} (apart : pool ∉ bill.map Prod.snd) :
    owed bill pool = 0 := by
  have none : bill.filter (·.2 = pool) = [] := by
    refine List.filter_eq_nil_iff.mpr fun price mem => ?_
    simp only [decide_eq_true_eq]
    exact fun same => apart (same ▸ List.mem_map_of_mem mem)
  rw [owed, none]
  rfl

theorem Pool.depletedFlag_inj : ∀ {one other : Pool},
    one.depletedFlag = other.depletedFlag → one = other := by
  intro one other
  cases one <;> cases other <;> decide

/-- A combatant whose pools have paid a bill. The flags of those pools show whether they are empty, and
nothing else about it has changed. -/
structure Combatant.Debits (before : Combatant) (bill : List (Int × Pool)) (after : Combatant) :
    Prop where
  rest : after = { before with pools := after.pools, flags := after.flags }
  pool : ∀ pool, after.pool pool
    = { before.pool pool with current := (before.pool pool).current - owed bill pool }
  shown : ∀ pool ∈ bill.map Prod.snd, after.hasFlag pool.depletedFlag = (after.pool pool).isEmpty
  kept : ∀ flag, (∀ pool ∈ bill.map Prod.snd, flag ≠ pool.depletedFlag) →
    after.hasFlag flag = before.hasFlag flag

namespace Combatant

variable {before middle after : Combatant} {one two : List (Int × Pool)}

theorem Debits.nil (before : Combatant) : before.Debits [] before :=
  ⟨rfl, fun pool => by simp [owed], by simp, fun _ _ => rfl⟩

theorem Debits.id_eq (debits : before.Debits one after) : after.id = before.id := by
  rw [debits.rest]

/-- One bill after another. -/
theorem Debits.append (first : before.Debits one middle) (second : middle.Debits two after) :
    before.Debits (one ++ two) after where
  rest := by
    rw [second.rest, first.rest]
  pool pool := by
    rw [second.pool, first.pool, owed_append]
    simp only [Int.sub_sub]
  shown pool mem := by
    by_cases later : pool ∈ two.map Prod.snd
    · exact second.shown pool later
    · have sooner : pool ∈ one.map Prod.snd := by
        simpa [later] using mem
      have apart : ∀ other ∈ two.map Prod.snd, pool.depletedFlag ≠ other.depletedFlag :=
        fun other mem same => later (Pool.depletedFlag_inj same ▸ mem)
      rw [second.kept _ apart, first.shown pool sooner, second.pool, owed_of_not_mem later]
      simp [Gauge.isEmpty]
  kept flag apart := by
    rw [List.map_append] at apart
    rw [second.kept flag fun pool mem => apart pool (List.mem_append_right _ mem),
      first.kept flag fun pool mem => apart pool (List.mem_append_left _ mem)]

theorem hasFlag_syncDepleted (pool : Pool) (flag : String) : (before.syncDepleted pool).hasFlag flag
    = if flag = pool.depletedFlag then (before.pool pool).isEmpty else before.hasFlag flag := by
  unfold syncDepleted
  split
  case isTrue empty =>
    simp only [hasFlag, raiseFlag, NameSet.add, NameMap.contains_insert]
    by_cases same : flag = pool.depletedFlag
    · simpa [same, Combatant.pool] using empty
    · simp [same, Ne.symm same]
  case isFalse some =>
    simp only [hasFlag, lowerFlag, NameMap.contains_erase]
    by_cases same : flag = pool.depletedFlag
    · simpa [same, Combatant.pool] using some
    · simp [same, Ne.symm same]

/-- A pool that has lost some amount. -/
theorem debits_sync (before : Combatant) (pool : Pool) (amount : Int) :
    before.Debits [(amount, pool)] ((before.setPool pool { before.pool pool with
      current := (before.pool pool).current - amount }).syncDepleted pool) where
  rest := by
    unfold syncDepleted
    split <;> rfl
  pool other := by
    simp only [Combatant.pool, pools_syncDepleted, pools_setPool, Pools.get_set]
    split
    case isTrue same => simp [owed, same]
    case isFalse apart => simp [owed, Ne.symm apart]
  shown other mem := by
    obtain rfl : other = pool := by simpa using mem
    rw [hasFlag_syncDepleted, if_pos rfl]
    simp only [Combatant.pool, pools_syncDepleted]
  kept flag apart := by
    rw [hasFlag_syncDepleted, if_neg (apart pool (by simp))]
    rfl

theorem debits_of_spend {pool : Pool} {amount : Int} (spent : before.spend? pool amount = some after) :
    before.Debits [(amount, pool)] after := by
  obtain ⟨gauge, taken, rfl⟩ := Option.map_eq_some_iff.mp spent
  unfold Gauge.spend? at taken
  split at taken
  · cases taken
  · cases taken
    exact debits_sync before pool amount

/-- A combatant that is charged for one thing after the other, until it cannot pay. The flag says that
it could not. -/
def settle (payer : Combatant) : List (Int × Pool) → Combatant × Bool
  | [] => (payer, false)
  | (amount, pool) :: rest =>
    match payer.spend? pool amount with
    | some paid => paid.settle rest
    | none => (payer, true)

/-- Whoever can pay a bill pays all of it. -/
theorem debits_of_settle {payer paid : Combatant} {bill : List (Int × Pool)}
    (settled : payer.settle bill = (paid, false)) : payer.Debits bill paid := by
  induction bill generalizing payer with
  | nil =>
    obtain rfl := (Prod.mk.inj settled).1
    exact .nil payer
  | cons price rest hyp =>
    obtain ⟨amount, pool⟩ := price
    rw [settle] at settled
    rcases spent : payer.spend? pool amount with _ | middle
    · simp [spent] at settled
    · rw [spent] at settled
      exact (debits_of_spend spent).append (hyp settled)

/-- A loss of composure. -/
theorem debits_damagePool (victim : Combatant) (pool : Pool) (fits : (victim.pool pool).InRange)
    (amount : Int) : victim.Debits [(min (max amount 0) (victim.pool pool).current, pool)]
      (victim.damagePool pool amount) := by
  rw [damagePool, Gauge.drain_eq fits]
  exact debits_sync victim pool _

end Combatant

/-! ### Charging -/

/-- Where a combatant has been charged what a text asks for, if it asks for anything. -/
def Resolution.billed (before : Resolution) (payer : Combatant) : Option (Int × Pool) → Resolution
  | some (amount, pool) => before.charged payer amount pool
  | none => before

section Billed

variable {before : Resolution} {payer : Combatant} {price : Option (Int × Pool)}

theorem Resolution.hook_billed : (before.billed payer price).hook = before.hook := by
  unfold billed charged
  split
  · split <;> rfl
  · rfl

theorem Resolution.premises_billed : (before.billed payer price).premises = before.premises := by
  unfold billed charged
  split
  · split <;> rfl
  · rfl

theorem Resolution.actor_billed : (before.billed payer price).actor = before.actor :=
  congrArg Premises.actor premises_billed

theorem Resolution.target_billed : (before.billed payer price).target = before.target :=
  congrArg Premises.target premises_billed

end Billed

namespace Matcher

/-- A matcher without written vetoes has none. -/
theorem vetoes_of_ofTexts {trigger : String} {matcher : Matcher}
    (reads : ofTexts trigger [] = .ok matcher) : matcher.vetoes = [] := by
  unfold ofTexts at reads
  rcases read : pattern trigger with error | trigger'
  · simp [read, bind, Except.bind] at reads
  · simp only [read, bind, Except.bind, List.mapM_nil, pure, Except.pure] at reads
    cases reads
    rfl

end Matcher

namespace Standard

/-! ### Recognizing costs -/

/-- What the cost rule finds in a text. -/
def costFinding? (text : String) : Option Finding :=
  (Matcher.ofTexts costRule.pattern costRule.vetoes).toOption.bind (·.find? text)

/-- The cost rule recognizes a text. -/
def charges (text : String) : Bool := (costFinding? text).isSome

theorem price?_eq (text : String) : price? text
    = (costFinding? text).bind fun finding =>
        (Effect.price ⟨costRule.name, text, finding⟩).toOption := by
  unfold price? costFinding?
  cases (Matcher.ofTexts costRule.pattern costRule.vetoes).toOption <;> rfl

theorem costFinding?_of_build {cost : Rule} (built : Catalog.standard.build costRule = .ok cost)
    (text : String) : costFinding? text = cost.matcher.find? text := by
  obtain ⟨-, -, reads, -⟩ := Catalog.build_eq_ok built
  rw [costFinding?, reads]
  rfl

theorem inward_cost : ∀ trigger, Pattern.parse? true costRule.pattern = some trigger →
    trigger.inward := by
  simp only [costRule, rule]
  exact Pattern.forall_of_spelled (spelled_ofList _) (by decide +kernel)

/-- Blanks around a text do not hide what it costs. -/
theorem charges_of_trim {text : String} (charged : charges (Text.trim text)) : charges text := by
  obtain ⟨cost, -, -, built, -⟩ := exists_table_eq
  obtain ⟨-, -, reads, -⟩ := Catalog.build_eq_ok built
  have fires : ∀ text, charges text ↔ cost.matcher.trigger.occurs text ∧
      ∀ veto ∈ cost.matcher.vetoes, veto.occurs text = false := fun text => by
    rw [charges, costFinding?_of_build built, Matcher.find?_isSome_iff]
  have vetoes : cost.matcher.vetoes = [] := Matcher.vetoes_of_ofTexts reads
  rw [fires, vetoes] at charged ⊢
  exact ⟨Pattern.occurs_of_trim (inward_cost _ (Matcher.parse?_of_ofTexts reads)) charged.1,
    fun _ mem => absurd mem List.not_mem_nil⟩

/-- A text that the cost rule does not recognize costs nothing, without blanks around either. -/
theorem price?_trim_of_free {text : String} (free : charges text = false) :
    price? (Text.trim text) = none := by
  have free' : costFinding? (Text.trim text) = none := by
    rw [← Option.not_isSome_iff_eq_none]
    exact fun charged => Bool.false_ne_true (free.symm.trans (charges_of_trim charged))
  rw [price?_eq, free']
  rfl

/-- What some texts ask for, in their order. -/
def bill (texts : List String) : List (Int × Pool) :=
  texts.filterMap fun text => price? (Text.trim text)

/-- Only the texts that the cost rule recognizes make up the bill. -/
theorem bill_filter (texts : List String) : bill texts = bill (texts.filter charges) := by
  induction texts with
  | nil => rfl
  | cons text rest hyp =>
    unfold bill at *
    by_cases charged : charges text
    · rw [List.filter_cons_of_pos charged, List.filterMap_cons, List.filterMap_cons, hyp]
    · rw [List.filter_cons_of_neg charged, List.filterMap_cons,
        price?_trim_of_free (by simpa using charged), hyp]

/-! ### Charging for a text -/

/-- The standard table, as the cost rule and others, which give nothing up. -/
theorem exists_table_tame : ∃ cost rest, table = ⟨cost :: rest⟩ ∧
    Catalog.standard.build costRule = .ok cost ∧ ∀ rule ∈ rest, rule.Tame := by
  obtain ⟨cost, rest, split, built, others⟩ := exists_table_eq
  refine ⟨cost, rest, split, built, fun rule mem => ?_⟩
  obtain ⟨_, known, built'⟩ := others rule mem
  exact tame_of_build known built'

variable {before : Resolution} {payer : Combatant}
  {moves : Battlefield → Battlefield → Prop} [Std.Refl moves] [IsTrans Battlefield moves]

/-- The cost rule charges what a text asks for, or notes that it cannot be read. -/
theorem steady_ask_cost {cost : Rule} (built : Catalog.standard.build costRule = .ok cost)
    (hook : before.hook = .activate ∨ before.hook = .onAttack)
    (found : before.field.find? before.actor = some payer) (text : String) :
    Steady moves (before.billed payer (price? text)) (cost.ask text before).2 := by
  have isCost := isCost_of_build built
  have listens : cost.hooks.contains before.hook := by simpa [isCost.hooks] using hook
  obtain ⟨name, -⟩ := Catalog.build_eq_ok built
  rw [price?_eq, costFinding?_of_build built]
  unfold Rule.ask
  rw [if_pos listens]
  rcases cost.matcher.find? text with _ | finding
  · exact .refl before
  dsimp only [Option.bind_some]
  rw [isCost.act, ← name]
  rcases priced : Effect.price ⟨cost.name, text, finding⟩ with error | ⟨amount, pool⟩
  · rw [show Effect.cost.act = Effect.actCost from rfl, Effect.run_actCost_of_refused priced]
    exact .of_same rfl rfl rfl rfl rfl
  · rw [show Effect.cost.act = Effect.actCost from rfl, Effect.run_actCost_of_priced priced found]
    exact .refl _

/-- What a text costs is charged. Whatever else it does aborts nothing, and changes the field as
effects may at the hook. -/
theorem steady_resolve (hook : before.hook = .activate ∨ before.hook = .onAttack)
    (clear : before.tally.aborted = false) (found : before.field.find? before.actor = some payer)
    (acts : ActsAs before.hook before.actor before.target moves) (text : String) :
    Steady moves (before.billed payer (price? (Text.trim text))) (table.resolve text before).2 := by
  obtain ⟨cost, rest, split, built, tame⟩ := exists_table_tame
  unfold RuleTable.resolve
  split
  case isTrue blank =>
    have nothing : Text.trim text = "" := by simpa using blank
    have free : price? "" = none := by decide +kernel
    rw [nothing, free]
    exact .refl before
  case isFalse =>
    rw [split]
    simp only [Rule.askAll, clear, Bool.false_eq_true, ↓reduceIte]
    have first : Steady moves (before.billed payer (price? (Text.trim text)))
        (cost.ask (Text.trim text) before).2 := steady_ask_cost built hook found _
    refine first.trans (Rule.steady_askAll tame ?_)
    rw [first.hook, first.toFrame.actor, first.toFrame.target, hook_billed, actor_billed,
      target_billed]
    exact acts

/-- While an attack is undecided its texts charge the attacker for the bill and leave everybody else
alone. They abort the attack exactly if the attacker cannot pay. -/
theorem resolveAll_settled (before : Resolution) (payer : Combatant) (texts : List String)
    (hook : before.hook = .onAttack) (clear : before.tally.aborted = false)
    (found : before.field.find? before.actor = some payer) :
    (table.resolveAll texts before).2.tally.aborted = (payer.settle (bill texts)).2 ∧
      (table.resolveAll texts before).2.field
        = before.field.update before.actor fun _ => (payer.settle (bill texts)).1 := by
  induction texts generalizing before payer with
  | nil => exact ⟨clear, (update_self found).symm⟩
  | cons text rest hyp =>
    have steady : Steady Eq (before.billed payer (price? (Text.trim text)))
        (table.resolve text before).2 :=
      steady_resolve (.inr hook) clear found (actsAs_eq (.inl hook) _ _) text
    simp only [RuleTable.resolveAll, clear, Bool.false_eq_true, ↓reduceIte]
    generalize (table.resolve text before).2 = middle at *
    have hook' : middle.hook = .onAttack := steady.hook.trans (hook_billed.trans hook)
    have actor : middle.actor = before.actor := steady.toFrame.actor.trans actor_billed
    have field := steady.toFrame.field
    have aborted := steady.aborted
    rcases priced : price? (Text.trim text) with _ | ⟨amount, pool⟩
    · have same : bill (text :: rest) = bill rest := List.filterMap_cons_none priced
      rw [priced, billed] at field aborted
      rw [same, ← actor, field]
      exact hyp _ _ hook' (aborted.trans clear) (by rw [actor, ← field]; exact found)
    · have same : bill (text :: rest) = (amount, pool) :: bill rest :=
        List.filterMap_cons_some priced
      rw [priced] at field aborted
      unfold billed charged at field aborted
      rw [same, Combatant.settle]
      rcases spent : payer.spend? pool amount with _ | paid
      · simp only [spent] at field aborted
        rw [RuleTable.resolveAll_of_aborted rest aborted, update_self found]
        exact ⟨aborted, field.symm⟩
      · simp only [spent] at field aborted
        have who : paid.id = before.actor := (Effect.id_of_spend? spent).trans (id_of_find? found)
        obtain ⟨aborted', field'⟩ := hyp middle paid hook' (aborted.trans clear)
          (by rw [actor, ← field]; exact find?_replace found who)
        refine ⟨aborted', field'.trans ?_⟩
        rw [actor, ← field, update_update _ who]

end Standard

/-- An attack that is granted charges the attacker for what its texts ask, and is given up exactly if
the attacker cannot pay. Then nothing is left of it but what it has paid. -/
theorem Fight.attack_settles {combat : Combat} (rules : combat.rules = Standard.table)
    {request : AttackRequest} {payer target : Combatant}
    (granted : combat.requireAction request.attacker = .ok payer)
    (there : combat.field.require request.target = .ok target)
    (fit : ¬(request.target == request.attacker || !target.isAlive)) :
    ∃ report after, attack request combat = (.ok report, after) ∧
      report.aborted = (payer.settle
        (Standard.bill (combat.sources.texts request.attacker request.effects))).2 ∧
      (report.aborted → after.field = combat.field.update request.attacker fun _ => (payer.settle
        (Standard.bill (combat.sources.texts request.attacker request.effects))).1) := by
  have stock : combat.rules.Stock := rules ▸ Standard.costsFirst.stock
  obtain ⟨-, found⟩ := Combat.requireAction_eq_ok granted
  obtain ⟨report, after, run, made⟩ := attack_of_granted combat stock request granted there fit
  refine ⟨report, after, run, ?_⟩
  obtain ⟨setting, resolved, ends, rfl⟩ := made.ends
  rw [rules] at ends
  obtain ⟨aborts, field⟩ := Standard.resolveAll_settled (setting.opened (combat.opening .onAttack
    request.attacker (some request.target) request.tier)) payer
    (combat.sources.texts request.attacker request.effects) rfl rfl found
  refine ⟨ends.aborted.trans aborts, fun aborted => ?_⟩
  rw [Combat.field_afterAttack_of_aborted aborted, ends.asked aborted]
  exact field

/-! ### The texts of an ability -/

/-- The texts that the rule for costs recognizes come first. -/
theorem Activation.orderedEffects_of_cost (activation : Activation) {rules : RuleTable} {cost : Rule}
    (first : rules.rules.find? (·.name == costRule) = some cost) :
    activation.orderedEffects rules = activation.effects.filter cost.matcher.matchesText
      ++ activation.effects.filter (!cost.matcher.matchesText ·) := by
  unfold orderedEffects
  simp only [first, List.partition_eq_filter_filter]
  rfl

/-- The texts of an ability that cost something come first. -/
theorem Activation.orderedEffects_eq (activation : Activation) :
    activation.orderedEffects Standard.table
      = activation.effects.filter Standard.charges
        ++ activation.effects.filter (!Standard.charges ·) := by
  obtain ⟨cost, rest, split, built, -⟩ := Standard.exists_table_eq
  obtain ⟨name, -⟩ := Catalog.build_eq_ok built
  have charges : cost.matcher.matchesText = Standard.charges := funext fun text => by
    rw [Matcher.matchesText, Standard.charges, Standard.costFinding?_of_build built]
  have named : (cost.name == costRule) = true := by
    rw [name]
    decide
  rw [split, ← charges]
  exact activation.orderedEffects_of_cost (List.find?_cons_of_pos named)

end Skirmish
