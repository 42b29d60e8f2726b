/-
**Resolving texts.** A table is asked about one text after the other. What its rules may do to the
field depends on the point of the action:

* `RuleTable.Stock`: every rule carries out one of the named effects, as it does in any table that is
  built from specs; any texts then keep to the course of the action (`Stock.resolveAll`);
* `Allows hook who target moves`: at a hook, the costs that `who` pays and the effects that may act
  there change the field as `moves` says. While an attack is undecided the attacker's texts only take
  payments (`allows_payments`);
* `CostsFirst.resolveAll`: so does any list of texts, where costs come first;
* `RuleTable.completed`: the texts that were resolved before one of them aborted the action.
  `CostsFirst.resolveAll_aborted`: that one and those after it leave no trace on the field.
-/

import Mathlib.Logic.Relation
import Skirmish.Proofs.StandardRules

namespace Skirmish

open Resolve Resolution

namespace Battlefield

/-- Somebody pays any number of times, and nothing else happens. -/
abbrev Payments (who : CombatantId) : Battlefield → Battlefield → Prop :=
  Relation.ReflTransGen (Pays who)

end Battlefield

open Battlefield

/-! ### Following texts -/

section Follow

variable {relation : Resolution → Resolution → Prop} [Std.Refl relation] {before : Resolution}
  {text : String}

namespace Rule

/-- What a rule does when it fires is what asking it does; a failure is only noted. -/
theorem leads_ask {rule : Rule} (acts : rule.hooks.contains before.hook →
      ∀ firing, Leads relation (rule.act firing) before)
    (notes : ∀ after faults, relation before after → relation before { after with faults }) :
    relation before (rule.ask text before).2 := by
  unfold ask
  split
  case isFalse => exact Std.Refl.refl before
  case isTrue listens =>
    split
    · exact Std.Refl.refl before
    case h_2 finding _ =>
      have leads := acts listens ⟨rule.name, text, finding⟩
      split
      case h_1 after run => exact leads.of_run run
      case h_2 error after run => exact notes _ _ (leads.of_run run)

variable [IsTrans Resolution relation]

/-- What each rule does in a state that is reached so far, all of them do. -/
theorem leads_askAll {rules : List Rule} (each : ∀ rule ∈ rules, ∀ middle, relation before middle →
      relation middle (rule.ask text middle).2) : relation before (askAll rules text before).2 := by
  suffices goes : ∀ middle, relation before middle → relation before (askAll rules text middle).2 from
    goes before (Std.Refl.refl before)
  induction rules with
  | nil => exact fun _ led => led
  | cons rule rest hyp =>
    intro middle led
    by_cases aborted : middle.tally.aborted
    · rwa [askAll_of_aborted _ _ _ aborted]
    · simp only [askAll, aborted, Bool.false_eq_true, ↓reduceIte]
      have first := each rule (List.mem_cons_self ..) middle led
      exact hyp (fun other mem => each other (List.mem_cons_of_mem _ mem)) _
        (IsTrans.trans _ _ _ led first)

end Rule

namespace RuleTable

variable [IsTrans Resolution relation] {table : RuleTable}

theorem leads_resolve (each : ∀ rule ∈ table.rules, ∀ text middle, relation before middle →
      relation middle (rule.ask text middle).2) : relation before (table.resolve text before).2 := by
  unfold resolve
  split
  · exact Std.Refl.refl before
  · exact Rule.leads_askAll fun rule mem => each rule mem _

/-- What each rule does with any text, all of them do with several texts. -/
theorem leads_resolveAll {texts : List String} (each : ∀ rule ∈ table.rules, ∀ text middle,
      relation before middle → relation middle (rule.ask text middle).2) :
    relation before (table.resolveAll texts before).2 := by
  suffices goes : ∀ middle, relation before middle →
      relation before (table.resolveAll texts middle).2 from goes before (Std.Refl.refl before)
  induction texts with
  | nil => exact fun _ led => led
  | cons text rest hyp =>
    intro middle led
    by_cases aborted : middle.tally.aborted
    · simpa only [resolveAll, aborted, ↓reduceIte] using led
    · simp only [resolveAll, aborted, Bool.false_eq_true, ↓reduceIte]
      have first : relation middle (table.resolve text middle).2 := leads_resolve
        fun rule mem text later further => each rule mem text later (IsTrans.trans _ _ _ led further)
      exact hyp _ (IsTrans.trans _ _ _ led first)

end RuleTable

end Follow

/-! ### Tables of named effects -/

/-- A rule that carries out one of the named effects. -/
def Rule.Stock (rule : Rule) : Prop := ∃ effect, rule.act = Effect.act effect

/-- A table of rules that carry out named effects. -/
def RuleTable.Stock (table : RuleTable) : Prop := ∀ rule ∈ table.rules, rule.Stock

/-- Whatever the specs of a table say, its rules carry out named effects. -/
theorem RuleTable.stock_of_specs {specs : List RuleSpec} {table : RuleTable}
    (built : RuleTable.ofSpecs .standard specs = .ok table) : table.Stock := by
  intro rule mem
  obtain ⟨spec, -, builds⟩ := exists_of_forall₂ ((RuleTable.ofSpecs_eq_ok ..).mp built) mem
  obtain ⟨effect, -, act⟩ := Catalog.exists_effect_of_build builds
  exact ⟨effect, act⟩

theorem RuleTable.CostsFirst.stock {table : RuleTable} (costsFirst : table.CostsFirst) :
    table.Stock := by
  intro rule mem
  cases costsFirst with
  | none => cases mem
  | some isCost tame =>
    rcases List.mem_cons.mp mem with rfl | mem
    · exact ⟨.cost, isCost.act⟩
    · obtain ⟨effect, -, act, -⟩ := tame rule mem
      exact ⟨effect, act⟩

section Stock

variable {before : Resolution}

theorem Rule.Stock.ask {rule : Rule} (stock : rule.Stock) (text : String) :
    Course before.actor before.target before (rule.ask text before).2 := by
  obtain ⟨effect, act⟩ := stock
  refine leads_ask (fun _ firing => ?_) fun after faults course =>
    ⟨course.premises, course.field, course.known, course.capped⟩
  rw [act]
  exact Effect.course_act _ _ effect

/-- The course of an action, as far as some steps have led it. -/
theorem Resolution.Course.trans {middle after : Resolution}
    (first : Course before.actor before.target before middle)
    (second : Course middle.actor middle.target middle after) :
    Course before.actor before.target before after := by
  rw [Frame.actor first, Frame.target first] at second
  exact Frame.trans first second

/-- It goes on from wherever it has led. -/
theorem Rule.Stock.course {rule : Rule} (stock : rule.Stock) (text : String) {middle : Resolution}
    (led : Course before.actor before.target before middle) :
    Course before.actor before.target middle (rule.ask text middle).2 := by
  have course : Course middle.actor middle.target middle (rule.ask text middle).2 := stock.ask text
  rwa [Frame.actor led, Frame.target led] at course

theorem Rule.course_askAll {rules : List Rule} (stock : ∀ rule ∈ rules, rule.Stock)
    (text : String) : Course before.actor before.target before (askAll rules text before).2 :=
  leads_askAll fun rule mem _ => (stock rule mem).course text

/-- Any texts keep to the course of the action. -/
theorem RuleTable.Stock.resolveAll {table : RuleTable} (stock : table.Stock) (texts : List String) :
    Course before.actor before.target before (table.resolveAll texts before).2 :=
  leads_resolveAll fun rule mem text _ => (stock rule mem).course text

end Stock

/-! ### What a hook allows -/

/-- What effects may do to the field at a hook, costs apart. While an attack is undecided, they may
do nothing. -/
def ActsAs (hook : Hook) (who : CombatantId) (target : Option CombatantId)
    (moves : Battlefield → Battlefield → Prop) : Prop :=
  hook ≠ .onAttack → hook ≠ .onDefend → ∀ before after,
    Confined who target Evolves before after → moves before after

/-- What rules may do to the field at a hook, where `who` acts on a target. -/
structure Allows (hook : Hook) (who : CombatantId) (target : Option CombatantId)
    (moves : Battlefield → Battlefield → Prop) : Prop where
  pays : hook = .activate ∨ hook = .onAttack → ∀ {before after}, Pays who before after →
    moves before after
  acts : ActsAs hook who target moves

theorem allows_confined (hook : Hook) (who : CombatantId) (target : Option CombatantId) :
    Allows hook who target (Confined who target Evolves) :=
  ⟨fun _ _ _ pays => pays.confined target, fun _ _ _ _ confined => confined⟩

/-- The attacker's and the defender's texts change nothing but by what they cost. -/
theorem actsAs_eq {hook : Hook} (undecided : hook = .onAttack ∨ hook = .onDefend)
    (who : CombatantId) (target : Option CombatantId) : ActsAs hook who target Eq :=
  fun ne ne' => absurd undecided (not_or.mpr ⟨ne, ne'⟩)

theorem allows_payments (who : CombatantId) (target : Option CombatantId) :
    Allows .onAttack who target (Payments who) :=
  ⟨fun _ _ _ pays => .single pays, fun ne => absurd rfl ne⟩

variable {moves : Battlefield → Battlefield → Prop} [Std.Refl moves] [IsTrans Battlefield moves]
variable {before : Resolution}

/-! ### Asking one rule -/

namespace Rule

theorem Tame.steady_ask {rule : Rule} {text : String} (tame : rule.Tame)
    (acts : ActsAs before.hook before.actor before.target moves) :
    Steady moves before (rule.ask text before).2 := by
  obtain ⟨effect, notCost, act, still⟩ := tame
  refine leads_ask (fun listens firing => ?_) fun _ _ led => led.trans (.of_same rfl rfl rfl rfl rfl)
  rw [act]
  by_cases undecided : before.hook = .onAttack ∨ before.hook = .onDefend
  · refine Effect.still_act (still ?_)
    rcases undecided with eq | eq
    · exact .inl (eq ▸ listens)
    · exact .inr (eq ▸ listens)
  · obtain ⟨ne, ne'⟩ := not_or.mp undecided
    exact (Effect.steady_act notCost).mono (acts ne ne' _ _)

/-- Asking for a cost changes the field by a payment, or aborts and changes nothing. -/
theorem IsCost.ask {rule : Rule} (isCost : rule.IsCost) (text : String)
    (allows : Allows before.hook before.actor before.target moves)
    (clear : before.tally.aborted = false) :
    Frame moves before (rule.ask text before).2 ∧
      (rule.ask text before).2.hook = before.hook ∧
      ((rule.ask text before).2.tally.aborted → (rule.ask text before).2.field = before.field) := by
  unfold Rule.ask
  split
  case isFalse => exact ⟨.refl before, rfl, fun _ => rfl⟩
  case isTrue listens =>
    split
    · exact ⟨.refl before, rfl, fun _ => rfl⟩
    case h_2 finding _ =>
      have hook : before.hook = .activate ∨ before.hook = .onAttack := by
        simpa [isCost.hooks] using listens
      have run : Effect.CostRun ⟨rule.name, text, finding⟩ before
          (rule.act ⟨rule.name, text, finding⟩ before) := by
        rw [isCost.act]
        exact Effect.run_actCost _ _
      generalize rule.act ⟨rule.name, text, finding⟩ before = outcome at run
      cases run with
      | refused error =>
        exact ⟨⟨rfl, Std.Refl.refl _, fun known => known, fun capped => capped⟩, rfl, fun _ => rfl⟩
      | unpaid priced found short line =>
        exact ⟨⟨rfl, Std.Refl.refl _, fun known => known,
          fun capped => ⟨capped.lifesteal, capped.reflect⟩⟩, rfl, fun _ => rfl⟩
      | paid priced found spent line =>
        have pays : Pays before.actor before.field _ := ⟨_, _, _, _, found, spent, rfl⟩
        refine ⟨⟨rfl, allows.pays hook pays, fun known id mem => ?_, fun capped => capped⟩, rfl,
          fun aborted => ?_⟩
        · exact pays.evolves.present.mpr (known id mem)
        · exact absurd (clear.symm.trans aborted) (by simp)

/-! ### Asking several rules -/

/-- So does a rule that is asked later. -/
theorem Tame.steady_ask_of_led {rule : Rule} (tame : rule.Tame)
    (acts : ActsAs before.hook before.actor before.target moves) (text : String) {middle : Resolution}
    (led : Steady moves before middle) : Steady moves middle (rule.ask text middle).2 := by
  refine tame.steady_ask ?_
  rw [led.hook, led.toFrame.actor, led.toFrame.target]
  exact acts

theorem steady_askAll {rules : List Rule} {text : String} (tame : ∀ rule ∈ rules, rule.Tame)
    (acts : ActsAs before.hook before.actor before.target moves) :
    Steady moves before (askAll rules text before).2 :=
  leads_askAll fun rule mem _ => (tame rule mem).steady_ask_of_led acts text

end Rule

/-! ### Resolving texts -/

namespace RuleTable

variable {table : RuleTable}

/-- A text changes the field as the hook allows; one that aborts the action changes nothing. -/
theorem CostsFirst.resolve (costsFirst : table.CostsFirst) (text : String)
    (allows : Allows before.hook before.actor before.target moves)
    (clear : before.tally.aborted = false) :
    Frame moves before (table.resolve text before).2 ∧
      (table.resolve text before).2.hook = before.hook ∧
      ((table.resolve text before).2.tally.aborted →
        (table.resolve text before).2.field = before.field) := by
  simp only [RuleTable.resolve]
  split
  case isTrue => exact ⟨.refl before, rfl, fun _ => rfl⟩
  case isFalse =>
    cases costsFirst with
    | none => exact ⟨.refl before, rfl, fun _ => rfl⟩
    | @some cost rest isCost tame =>
      obtain ⟨frame, hook, unchanged⟩ := isCost.ask (Text.trim text) allows clear
      simp only [Rule.askAll, clear, Bool.false_eq_true, ↓reduceIte]
      generalize (cost.ask (Text.trim text) before).2 = middle at *
      have others : Steady moves middle (Rule.askAll rest (Text.trim text) middle).2 :=
        Rule.steady_askAll tame (by rw [hook, frame.actor, frame.target]; exact allows.acts)
      refine ⟨frame.trans others.toFrame, others.hook.trans hook, fun aborted => ?_⟩
      -- Only the cost can have aborted the action, and then nobody else was asked.
      have atOnce : middle.tally.aborted := others.aborted ▸ aborted
      rw [Rule.askAll_of_aborted rest _ middle atOnce]
      exact unchanged atOnce

/-- Any texts change the field as the hook allows. -/
theorem CostsFirst.resolveAll (costsFirst : table.CostsFirst) {texts : List String}
    (allows : Allows before.hook before.actor before.target moves) :
    Frame moves before (table.resolveAll texts before).2 := by
  induction texts generalizing before with
  | nil => exact .refl before
  | cons text rest hyp =>
    by_cases aborted : before.tally.aborted
    · simp only [RuleTable.resolveAll, aborted, ↓reduceIte]
      exact .refl before
    · simp only [RuleTable.resolveAll, aborted, Bool.false_eq_true, ↓reduceIte]
      obtain ⟨frame, hook, -⟩ :=
        costsFirst.resolve text allows (Bool.eq_false_iff.mpr aborted)
      refine frame.trans (hyp ?_)
      rw [hook, frame.actor, frame.target]
      exact allows

/-! ### Where an action is aborted -/

theorem resolveAll_of_aborted (texts : List String) (aborted : before.tally.aborted) :
    table.resolveAll texts before = (0, before) := by
  cases texts <;> simp [RuleTable.resolveAll, aborted]

/-- What is not aborted in the end never was. -/
theorem clear_of_resolveAll {texts : List String}
    (going : (table.resolveAll texts before).2.tally.aborted = false) :
    before.tally.aborted = false := by
  refine Bool.eq_false_iff.mpr fun aborted => ?_
  rw [resolveAll_of_aborted texts aborted] at going
  exact Bool.false_ne_true (going.symm.trans aborted)

/-- The texts that are resolved before one of them aborts the action. -/
def completed (table : RuleTable) : List String → Resolution → List String
  | [], _ => []
  | text :: rest, before =>
    let after := (table.resolve text before).2
    if after.tally.aborted then [] else text :: table.completed rest after

/-- Where some texts abort an action, the field is left as it was just before the text that did:
that text and those after it leave no trace. -/
theorem CostsFirst.resolveAll_aborted (costsFirst : table.CostsFirst) {texts : List String}
    (clear : before.tally.aborted = false)
    (aborted : (table.resolveAll texts before).2.tally.aborted) :
    ∃ unpaid later, texts = table.completed texts before ++ unpaid :: later ∧
      (table.resolveAll texts before).2.field
        = (table.resolveAll (table.completed texts before) before).2.field ∧
      (table.resolveAll (table.completed texts before) before).2.tally.aborted = false := by
  induction texts generalizing before with
  | nil => exact absurd (clear.symm.trans aborted) (by simp)
  | cons text rest hyp =>
    obtain ⟨-, -, unchanged⟩ := costsFirst.resolve text (allows_confined ..) clear
    simp only [RuleTable.resolveAll, clear, Bool.false_eq_true, ↓reduceIte, completed] at aborted ⊢
    generalize run : (table.resolve text before).2 = middle at *
    by_cases here : middle.tally.aborted
    · rw [resolveAll_of_aborted rest here]
      simp only [here, ↓reduceIte]
      exact ⟨text, rest, rfl, unchanged here, clear⟩
    · obtain ⟨unpaid, later, split, same, going⟩ := hyp (Bool.eq_false_iff.mpr here) aborted
      simp only [here, Bool.false_eq_true, ↓reduceIte, RuleTable.resolveAll, clear, run]
      exact ⟨unpaid, later, by rw [List.cons_append, ← split], same, going⟩

end RuleTable

end Skirmish
