/-
**Which rules a text calls for.** A table is asked about a text rule by rule. Those that listen and
whose matcher fires are invoked in their order, each in the state that the one before left behind:

* `Invocation`: a rule that was invoked, the state it met and the state it left;
* `Chained`: invocations that follow one another from a state to another;
* `Invokes`: what the answer of some rules comes to, in terms of their invocations;
* `RuleTable.resolve_invokes`: a text that says something is answered like that, and a blank one is
  passed over. A table followed by another answers as one and then the other.
-/

import Skirmish.Proofs.Runs

namespace Skirmish

open Resolve Resolution Battlefield

/-! ### Invocations -/

/-- A rule answers a text at a hook: it listens there, and its matcher fires. -/
def Rule.answers (rule : Rule) (hook : Hook) (text : String) : Bool :=
  rule.hooks.contains hook && rule.matcher.matchesText text

/-- What a rule does leaves the hook as it was. -/
def Rule.KeepsHook (rule : Rule) : Prop :=
  ∀ firing before, (rule.act firing before).2.hook = before.hook

/-- A rule that was invoked. -/
structure Invocation where
  rule : Rule
  /-- What its matcher found. -/
  finding : Finding
  /-- The state in which it was invoked. -/
  start : Resolution
  /-- Whether it failed. -/
  outcome : Except Error Unit
  /-- The state that it left behind. -/
  left : Resolution

namespace Invocation

/-- The fault of a rule that failed. -/
def fault? (text : String) (invocation : Invocation) : Option Fault :=
  match invocation.outcome with
  | .ok () => none
  | .error error => some ⟨invocation.rule.name, text, error.message⟩

/-- The state in which the rules after it are asked: what it left, with its fault noted. -/
def stop (text : String) (invocation : Invocation) : Resolution :=
  { invocation.left with faults := invocation.left.faults ++ (invocation.fault? text).toList }

/-- The action was not aborted, the matcher found what it did, and so the rule was invoked. -/
structure Made (text : String) (invocation : Invocation) : Prop where
  going : invocation.start.tally.aborted = false
  found : invocation.rule.matcher.find? text = some invocation.finding
  acted : invocation.rule.act ⟨invocation.rule.name, text, invocation.finding⟩ invocation.start
    = (invocation.outcome, invocation.left)

end Invocation

/-- Invocations lead from a state to another, each made where the one before it stopped. -/
inductive Chained (text : String) : Resolution → List Invocation → Resolution → Prop
  | nil (state : Resolution) : Chained text state [] state
  | cons {invocation : Invocation} {rest : List Invocation} {after : Resolution}
      (made : invocation.Made text) (later : Chained text (invocation.stop text) rest after) :
      Chained text invocation.start (invocation :: rest) after

section Chain

variable {text : String} {before after : Resolution} {trace : List Invocation}

/-- Without an invocation nothing changes at all. -/
theorem Chained.eq_of_nil (chained : Chained text before [] after) : after = before := by
  cases chained
  rfl

/-- Every failure leaves one fault behind, in the order of the invocations, where the rules leave
the faults alone. -/
theorem Chained.faults (chained : Chained text before trace after)
    (alone : ∀ invocation ∈ trace, invocation.left.faults = invocation.start.faults) :
    after.faults = before.faults ++ trace.filterMap (·.fault? text) := by
  induction chained with
  | nil state => simp
  | @cons invocation rest after made later hyp =>
    have here := alone invocation (List.mem_cons_self ..)
    have further := hyp fun other mem => alone other (List.mem_cons_of_mem _ mem)
    have step : (invocation.stop text).faults
        = invocation.start.faults ++ (invocation.fault? text).toList := by
      rw [← here]
      rfl
    rw [further, step, List.append_assoc]
    cases failed : invocation.fault? text <;> simp [failed]

end Chain

/-- What the answer of some rules to a text comes to, in terms of their invocations. -/
structure Invokes (rules : List Rule) (text : String) (before : Resolution)
    (answer : Bool × Resolution) (trace : List Invocation) : Prop where
  chained : Chained text before trace answer.2
  /-- Rules that answer the text are invoked in their order. -/
  order : trace.map (·.rule) <+: rules.filter (·.answers before.hook text)
  /-- Unless the action is aborted, all of them are. -/
  whole : answer.2.tally.aborted = false →
    trace.map (·.rule) = rules.filter (·.answers before.hook text)
  /-- The answer is whether any was. -/
  fired : answer.1 = !trace.isEmpty

/-! ### Asking rules -/

namespace Rule

variable {rule : Rule} {text : String} {before : Resolution}

theorem ask_of_silent (silent : rule.answers before.hook text = false) :
    rule.ask text before = (false, before) := by
  unfold ask
  split
  case isFalse => rfl
  case isTrue listens =>
    rw [answers, listens, Bool.true_and, Matcher.matchesText, Option.isSome_eq_false_iff,
      Option.isNone_iff_eq_none] at silent
    rw [silent]

/-- A rule that answers a text is invoked, and its fault is noted. -/
theorem ask_of_answers (answers : rule.answers before.hook text)
    (going : before.tally.aborted = false) : ∃ invocation : Invocation,
      invocation.rule = rule ∧ invocation.start = before ∧ invocation.Made text ∧
        rule.ask text before = (true, invocation.stop text) := by
  obtain ⟨listens, fires⟩ := Bool.and_eq_true_iff.mp answers
  obtain ⟨finding, found⟩ := Option.isSome_iff_exists.mp fires
  refine ⟨⟨rule, finding, before, (rule.act ⟨rule.name, text, finding⟩ before).1,
    (rule.act ⟨rule.name, text, finding⟩ before).2⟩, rfl, rfl, ⟨going, found, rfl⟩, ?_⟩
  simp only [ask, listens, found, ↓reduceIte, Invocation.stop, Invocation.fault?]
  rcases rule.act ⟨rule.name, text, finding⟩ before with ⟨_ | _, after⟩
  · rfl
  · simp

/-- Some rules that leave the hook alone are invoked for a text, as far as the action goes. -/
theorem askAll_invokes (text : String) (before : Resolution) {rules : List Rule}
    (keeps : ∀ rule ∈ rules, rule.KeepsHook) :
    ∃ trace, Invokes rules text before (askAll rules text before) trace := by
  induction rules generalizing before with
  | nil => exact ⟨[], .nil before, List.nil_prefix, fun _ => rfl, rfl⟩
  | cons rule rest hyp =>
    have keeps' : ∀ other ∈ rest, other.KeepsHook :=
      fun other mem => keeps other (List.mem_cons_of_mem _ mem)
    by_cases aborted : before.tally.aborted
    · rw [askAll_of_aborted _ _ _ aborted]
      exact ⟨[], .nil before, List.nil_prefix,
        fun going => absurd (going.symm.trans aborted) Bool.false_ne_true, rfl⟩
    have going : before.tally.aborted = false := Bool.eq_false_iff.mpr aborted
    simp only [askAll, aborted, Bool.false_eq_true, ↓reduceIte]
    by_cases answers : rule.answers before.hook text
    · obtain ⟨invocation, rfl, rfl, made, asked⟩ := ask_of_answers answers going
      -- The rules after it are asked at the same hook, so the same ones answer.
      have hook : (invocation.stop text).hook = invocation.start.hook := by
        have stays := keeps _ (List.mem_cons_self ..)
          ⟨invocation.rule.name, text, invocation.finding⟩ invocation.start
        rwa [made.acted] at stays
      obtain ⟨trace, invokes⟩ := hyp (invocation.stop text) keeps'
      obtain ⟨chained, order, whole, -⟩ := invokes
      rw [hook] at order whole
      refine ⟨invocation :: trace, ?_, ?_, fun goes => ?_, ?_⟩
      · rw [asked]
        exact .cons made chained
      · rw [List.filter_cons, if_pos answers, List.map_cons]
        exact (List.prefix_cons_inj _).mpr order
      · rw [asked] at goes
        rw [List.filter_cons, if_pos answers, List.map_cons, whole goes]
      · rw [asked]
        rfl
    · rw [ask_of_silent (Bool.eq_false_iff.mpr answers)]
      obtain ⟨trace, invokes⟩ := hyp before keeps'
      refine ⟨trace, ⟨invokes.chained, ?_, ?_, invokes.fired⟩⟩
      · rw [List.filter_cons, if_neg answers]
        exact invokes.order
      · rw [List.filter_cons, if_neg answers]
        exact invokes.whole

/-- Named effects leave the hook alone. -/
theorem Stock.keepsHook (stock : rule.Stock) : rule.KeepsHook := by
  obtain ⟨effect, act⟩ := stock
  intro firing before
  rw [act]
  by_cases isCost : effect = .cost
  · subst isCost
    have run := Effect.run_actCost before firing
    show (Effect.actCost firing before).2.hook = before.hook
    generalize Effect.actCost firing before = outcome at run
    cases run <;> rfl
  · have steady : Steady (Confined before.actor before.target Evolves) before
        (effect.act firing before).2 := Effect.steady_act isCost
    exact steady.hook

end Rule

/-! ### Resolving a text -/

namespace RuleTable

/-- What resolving a text comes to. -/
structure Heeds (table : RuleTable) (text : String) (before : Resolution) : Prop where
  /-- A blank text is passed over. -/
  passed : (Text.trim text).isEmpty → table.resolve text before = (false, before)
  /-- Any other invokes the rules that answer it, and each failure leaves one fault. -/
  invoked : ¬(Text.trim text).isEmpty → ∃ trace,
    Invokes table.rules (Text.trim text) before (table.resolve text before) trace ∧
    ((∀ invocation ∈ trace, invocation.left.faults = invocation.start.faults) →
      (table.resolve text before).2.faults
        = before.faults ++ trace.filterMap (·.fault? (Text.trim text)))
  /-- A text that invokes nobody changes nothing. -/
  idle : (table.resolve text before).1 = false → (table.resolve text before).2 = before
  /-- Rules that stand in a further table are asked after these. -/
  further : ∀ later : RuleTable, (table ++ later).resolve text before
    = ((table.resolve text before).1 || (later.resolve text (table.resolve text before).2).1,
      (later.resolve text (table.resolve text before).2).2)

theorem resolve_of_blank {table : RuleTable} {text : String} (blank : (Text.trim text).isEmpty)
    (before : Resolution) : table.resolve text before = (false, before) := by
  simp only [resolve, blank, ↓reduceIte]
  rfl

/-- **A text invokes the rules that answer it**, in their order, until the action is aborted. Blank
texts are passed over, and a table followed by another answers as one and then the other. -/
theorem heeds_of_keepsHook (table : RuleTable) (text : String) (before : Resolution)
    (keeps : ∀ rule ∈ table.rules, rule.KeepsHook) : table.Heeds text before := by
  have asked : ¬(Text.trim text).isEmpty →
      table.resolve text before = Rule.askAll table.rules (Text.trim text) before := fun shown => by
    simp only [resolve, if_neg shown]
  obtain ⟨trace, invokes⟩ := Rule.askAll_invokes (Text.trim text) before keeps
  refine ⟨fun blank => resolve_of_blank blank before, fun shown => ?_, fun idle => ?_,
    fun later => resolve_append table later text before⟩
  · rw [asked shown]
    exact ⟨trace, invokes, invokes.chained.faults⟩
  · by_cases blank : (Text.trim text).isEmpty
    · rw [resolve_of_blank blank]
    · rw [asked blank] at idle ⊢
      have none : trace = [] := by simpa [idle] using invokes.fired
      exact (none ▸ invokes.chained).eq_of_nil

/-- A text that asks for more than there is, and would do more. -/
theorem heeds_exhausted : (∀ rule ∈ Standard.table.rules, rule.KeepsHook) ∧
    Standard.table.Heeds "Cost: 999 HP. Deals 10 damage"
      (duel.opening .activate ⟨1⟩ (some ⟨2⟩) 1) := by
  have keeps : ∀ rule ∈ Standard.table.rules, rule.KeepsHook :=
    fun rule mem => (Standard.costsFirst.stock rule mem).keepsHook
  exact ⟨keeps, heeds_of_keepsHook _ _ _ keeps⟩

/-- A rule whose matcher fires on every text, the empty one included. -/
def anything : Rule where
  name := "anything"
  matcher := ⟨"", .empty, []⟩
  hooks := [.onAttack]
  act := Effect.act (.mark .advantage)

/-- A rule that answers the empty text is not invoked for a blank one. -/
theorem not_forall_invokes_of_blank : ¬∀ (table : RuleTable) (text : String) (before : Resolution),
    (∀ rule ∈ table.rules, rule.KeepsHook) →
      ∃ trace, Invokes table.rules (Text.trim text) before (table.resolve text before) trace := by
  intro always
  have keeps : ∀ rule ∈ [anything], rule.KeepsHook := by
    intro rule mem
    obtain rfl := List.mem_singleton.mp mem
    exact Rule.Stock.keepsHook ⟨.mark .advantage, rfl⟩
  obtain ⟨trace, invokes⟩ := always ⟨[anything]⟩ " " (duel.opening .onAttack ⟨1⟩ (some ⟨2⟩) 1) keeps
  have blank : (Text.trim " ").isEmpty := by decide +kernel
  have answers : anything.answers .onAttack (Text.trim " ") := by decide +kernel
  rw [resolve_of_blank blank] at invokes
  have none : trace = [] := by simpa using invokes.fired
  have whole : trace.map (·.rule) = [anything] :=
    (invokes.whole rfl).trans (List.filter_eq_self.mpr fun rule mem => by
      obtain rfl := List.mem_singleton.mp mem
      exact answers)
  rw [none] at whole
  cases whole

end RuleTable

end Skirmish
