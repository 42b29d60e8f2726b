/-
**The order of texts.** The texts of a defender, and those of an attacker that ask for no cost, may be
resolved in any order. Each of them only adds modifiers to the tally and notes faults, and neither
depends on what was resolved before it:

* `Utters`: a step that adds the same modifier, or fails, wherever it is taken;
* `Tells`: an answer that adds the same modifiers and notes the same faults wherever it is given;
* `Standard.modifies_of_answers`: of the standard rules, those that answer such a text only read a
  modifier in it;
* `Standard.resolveAll_perm`: texts in two orders.
-/

import Skirmish.Proofs.Captures
import Skirmish.Proofs.Exclusions
import Skirmish.Proofs.Invocations
import Skirmish.Proofs.Modifiers

namespace Skirmish

open Resolve

/-- A resolution with modifiers added to its tally and faults noted. -/
def Resolution.modified (before : Resolution) (modifiers : List Modifier) (faults : List Fault) :
    Resolution :=
  { before with
    tally := Modifier.applyAll before.config modifiers before.tally
    faults := before.faults ++ faults }

namespace Resolution

variable {before : Resolution}

theorem modified_nil : before.modified [] [] = before := by
  simp [modified, Modifier.applyAll]

theorem modified_modified (modifiers modifiers' : List Modifier) (faults faults' : List Fault) :
    (before.modified modifiers faults).modified modifiers' faults'
      = before.modified (modifiers ++ modifiers') (faults ++ faults') := by
  simp [modified, Modifier.applyAll]

theorem aborted_modified (modifiers : List Modifier) (faults : List Fault) :
    (before.modified modifiers faults).tally.aborted = before.tally.aborted :=
  Modifier.aborted_applyAll modifiers

/-- One modifier more. -/
theorem modified_singleton (modifier : Modifier) : before.modified [modifier] []
    = { before with tally := modifier.apply before.config before.tally } := by
  simp [modified, Modifier.applyAll]

end Resolution

/-! ### Effects that modify a roll -/

/-- A step adds the same modifier, or fails in the same way, wherever it is taken. -/
inductive Utters (step : Resolve Unit) : Prop
  | modifier (modifier : Modifier)
      (adds : ∀ before, step before = (.ok (), before.modified [modifier] []))
  | error (error : Error) (fails : ∀ before, step before = (.error error, before))

theorem Utters.settle {α : Type} {read : Except Error α} {next : α → Resolve Unit}
    (rest : ∀ value, read = .ok value → Utters (next value)) :
    Utters (Resolve.settle read >>= next) := by
  rcases read with error | value
  · exact .error error fun before => rfl
  · exact rest value rfl

theorem Utters.tally {change : Tally → Tally} (modifier : Modifier)
    (same : ∀ config tally, change tally = modifier.apply config tally) :
    Utters (Resolve.tally change) := by
  refine .modifier modifier fun before => ?_
  rw [Resolution.modified_singleton, run_tally, same before.config]

namespace Effect

/-- The effects that only add a modifier. -/
def modifies : Effect → Bool
  | .toHit | .mark _ | .critRange | .defenseBonus | .defense _ | .damageReduction | .reflect _ => true
  | _ => false

theorem modifies_of_name {effect : Effect} (changes : effect.name ∈ modifiers) :
    effect.modifies := by
  cases effect with
  | toHit | mark | critRange | defenseBonus | defense | damageReduction | reflect => rfl
  | _ => simp [name, modifiers] at changes

variable {firing : Firing}

/-- What a text reduces damage by is never negative. -/
theorem nonneg_of_reduction (counted : firing.finding.Counted) {amount : Int}
    (read : (do match ← firing.int? "amount" with
      | some amount => return amount
      | none => firing.intOr "amount2" 0) = Except.ok amount) : 0 ≤ amount := by
  rcases first : firing.int? "amount" with error | (_ | found)
  · rw [first] at read
    cases read
  · rw [first] at read
    exact Firing.nonneg_of_intOr counted (by decide) (by decide) read
  · rw [first] at read
    obtain rfl := Except.ok.inj read
    exact Firing.nonneg_of_int? counted (by decide) first

/-- What such an effect adds depends on the text alone. -/
theorem utters_act {effect : Effect} (modifies : effect.modifies)
    (counted : firing.finding.Counted) : Utters (effect.act firing) := by
  cases effect with
  | toHit =>
    refine .settle fun bonus read => .tally (.attackBonus bonus.toNat) fun config tally => ?_
    have nonneg := Firing.nonneg_of_intOr counted (by decide) (by decide) read
    rw [Modifier.apply, Int.toNat_of_nonneg nonneg]
  | defenseBonus =>
    refine .settle fun bonus read => .tally (.defenseBonus bonus.toNat) fun config tally => ?_
    have nonneg := Firing.nonneg_of_intOr counted (by decide) (by decide) read
    rw [Modifier.apply, Int.toNat_of_nonneg nonneg]
  | damageReduction =>
    refine .settle fun amount read => .tally (.damageReduction amount.toNat) fun config tally => ?_
    rw [Modifier.apply, Int.toNat_of_nonneg (nonneg_of_reduction counted read)]
  | critRange =>
    refine .settle fun face _ => .modifier (.critThreshold (clamp 2 20 face).toNat) fun before => ?_
    rw [Resolution.modified_singleton]
    rfl
  | mark which => exact .tally (.mark which) fun _ _ => rfl
  | defense kind =>
    refine .settle fun word _ => .tally (.defense kind (canonicalDamageType word)) fun _ _ => ?_
    cases kind <;> rfl
  | reflect percent =>
    exact .settle fun percent _ => .tally (.reflect percent) fun _ _ => rfl
  | cost | heal | damage | composureDamage | lifesteal | area | chain | status | savingThrow | cure
  | grantResistance | push | pull | teleport | ignite => cases modifies

end Effect

/-! ### Rules that modify a roll -/

/-- What a text comes to: whether a rule fires on it, the modifiers that it adds and the faults. -/
structure Heard where
  fired : Bool
  modifiers : List Modifier
  faults : List Fault

/-- An answer comes to the same in every resolution at a hook that is not aborted. -/
def Tells (hook : Hook) (answer : StateM Resolution Bool) (heard : Heard) : Prop :=
  ∀ before, before.hook = hook → before.tally.aborted = false →
    answer before = (heard.fired, before.modified heard.modifiers heard.faults)

namespace Rule

/-- A rule that does nothing but add a modifier, with a number that is not negative. -/
def Modifies (rule : Rule) : Prop :=
  ∃ effect : Effect, effect.modifies ∧ rule.act = effect.act ∧
    ∀ text finding, rule.matcher.find? text = some finding → finding.Counted

variable {hook : Hook} {text : String}

theorem exists_tells_ask {rule : Rule} (modifies : rule.answers hook text → rule.Modifies) :
    ∃ heard, Tells hook (rule.ask text) heard := by
  by_cases answers : rule.answers hook text
  · obtain ⟨listens, fires⟩ := Bool.and_eq_true_iff.mp answers
    obtain ⟨finding, found⟩ := Option.isSome_iff_exists.mp fires
    obtain ⟨effect, modifies, act, counted⟩ := modifies answers
    have utters : Utters (rule.act ⟨rule.name, text, finding⟩) := by
      rw [act]
      exact Effect.utters_act modifies (counted text finding found)
    cases utters with
    | modifier modifier adds =>
      refine ⟨⟨true, [modifier], []⟩, fun before here _ => ?_⟩
      subst here
      simp only [ask, listens, found, adds, ↓reduceIte]
    | error error fails =>
      refine ⟨⟨true, [], [⟨rule.name, text, error.message⟩]⟩, fun before here _ => ?_⟩
      subst here
      simp only [ask, listens, found, fails, ↓reduceIte]
      rfl
  · refine ⟨⟨false, [], []⟩, fun before here _ => ?_⟩
    subst here
    rw [ask_of_silent (Bool.eq_false_iff.mpr answers), Resolution.modified_nil]

theorem exists_tells_askAll {rules : List Rule}
    (modifies : ∀ rule ∈ rules, rule.answers hook text → rule.Modifies) :
    ∃ heard, Tells hook (askAll rules text) heard := by
  induction rules with
  | nil => exact ⟨⟨false, [], []⟩, fun before _ _ => by rw [Resolution.modified_nil]; rfl⟩
  | cons rule rest hyp =>
    obtain ⟨first, tells⟩ := exists_tells_ask (modifies rule (List.mem_cons_self ..))
    obtain ⟨later, tells'⟩ := hyp fun other mem => modifies other (List.mem_cons_of_mem _ mem)
    refine ⟨⟨first.fired || later.fired, first.modifiers ++ later.modifiers,
      first.faults ++ later.faults⟩, fun before here going => ?_⟩
    have goes := (Resolution.aborted_modified first.modifiers first.faults).trans going
    have asked := tells before here going
    have further := tells' (before.modified first.modifiers first.faults) here goes
    rw [← Resolution.modified_modified]
    simp only [askAll, going, asked, further, Bool.false_eq_true, ↓reduceIte]

end Rule

/-! ### Texts in any order -/

/-- Two outcomes of resolving texts that are the same but for the order of damage types and of faults. -/
structure SameOutcome (one other : Nat × Resolution) : Prop where
  count : one.1 = other.1
  field : one.2.field = other.2.field
  dice : one.2.dice = other.2.dice
  log : one.2.log = other.2.log
  tally : one.2.tally.Alike other.2.tally
  faults : one.2.faults.Perm other.2.faults

namespace RuleTable

variable {table : RuleTable} {hook : Hook} {before : Resolution} {texts texts' : List String}

theorem exists_tells_resolve {text : String} (modifies : ∀ rule ∈ table.rules,
    rule.answers hook (Text.trim text) → rule.Modifies) :
    ∃ heard, Tells hook (table.resolve text) heard := by
  by_cases blank : (Text.trim text).isEmpty
  · refine ⟨⟨false, [], []⟩, fun before _ _ => ?_⟩
    rw [resolve_of_blank blank, Resolution.modified_nil]
  · obtain ⟨heard, tells⟩ := Rule.exists_tells_askAll modifies
    refine ⟨heard, fun before here going => ?_⟩
    rw [resolve, if_neg blank]
    exact tells before here going

/-- Texts come to what each of them does. -/
theorem resolveAll_of_tells {heard : String → Heard}
    (tells : ∀ text ∈ texts, Tells hook (table.resolve text) (heard text))
    (here : before.hook = hook) (going : before.tally.aborted = false) :
    table.resolveAll texts before = (texts.countP (heard · |>.fired),
      before.modified (texts.flatMap (heard · |>.modifiers)) (texts.flatMap (heard · |>.faults))) := by
  induction texts generalizing before with
  | nil => exact Prod.ext rfl Resolution.modified_nil.symm
  | cons text rest hyp =>
    have first := tells text (List.mem_cons_self ..) before here going
    have goes := (Resolution.aborted_modified (heard text).modifiers (heard text).faults).trans going
    have later : table.resolveAll rest
        (before.modified (heard text).modifiers (heard text).faults) = _ := hyp
      (fun other mem => tells other (List.mem_cons_of_mem _ mem)) here goes
    rw [List.flatMap_cons, List.flatMap_cons, ← Resolution.modified_modified, List.countP_cons]
    simp only [resolveAll, going, first, later, Bool.false_eq_true, ↓reduceIte]
    cases (heard text).fired <;> rfl

/-- Texts that only add modifiers come to the same in any order. -/
theorem sameOutcome_of_tells {heard : String → Heard} (perm : texts.Perm texts')
    (range : before.tally.InRange)
    (tells : ∀ text ∈ texts, Tells before.hook (table.resolve text) (heard text)) :
    SameOutcome (table.resolveAll texts before) (table.resolveAll texts' before) := by
  by_cases aborted : before.tally.aborted
  · rw [resolveAll_of_aborted texts aborted, resolveAll_of_aborted texts' aborted]
    exact ⟨rfl, rfl, rfl, rfl, .refl _, .refl _⟩
  have going : before.tally.aborted = false := Bool.eq_false_iff.mpr aborted
  rw [resolveAll_of_tells tells rfl going,
    resolveAll_of_tells (fun text mem => tells text (perm.mem_iff.mpr mem)) rfl going]
  refine ⟨perm.countP_eq _, rfl, rfl, rfl, ?_, (perm.flatMap_right _).append_left _⟩
  exact Modifier.alike_applyAll_of_perm (perm.flatMap_right _) range

end RuleTable

namespace Standard

/-! ### The standard rules -/

/-- The rules that change a roll read numbers without a sign. -/
theorem numeric_specs : ∀ spec ∈ attackRules ++ defenseRules, ∀ trigger,
    Pattern.parse? true spec.pattern = some trigger → trigger.numeric := by
  simp only [attackRules, defenseRules, rule, vetoed, List.cons_append, List.nil_append,
    List.forall_mem_cons, List.not_mem_nil, false_implies, implies_true, and_true]
  delta damageTypes
  and_intros
  all_goals
    refine Pattern.forall_of_spelled (by
      repeat first | with_reducible apply Spelled.append | exact spelled_ofList _) ?_
    decide +kernel

/-- A text at a hook where it can only change a roll. -/
def Mild (hook : Hook) (text : String) : Prop :=
  hook = .onDefend ∨ hook = .onAttack ∧ charges text = false

/-- The standard rules that answer such a text only add a modifier. -/
theorem modifies_of_answers {hook : Hook} {text : String} (mild : Mild hook text) {rule : Rule}
    (mem : rule ∈ table.rules) (answers : rule.answers hook text) : rule.Modifies := by
  obtain ⟨spec, known, built⟩ := exists_spec mem
  obtain ⟨listens, fires⟩ := Bool.and_eq_true_iff.mp answers
  obtain ⟨-, hooks, reads, -⟩ := Catalog.build_eq_ok built
  obtain ⟨effect, name, act⟩ := Catalog.exists_effect_of_build built
  rw [hooks] at listens
  rw [specs_eq] at known
  rcases List.mem_cons.mp known with rfl | later
  · exfalso
    rcases mild with rfl | ⟨rfl, free⟩
    · exact absurd listens (by decide)
    · rw [charges, costFinding?_of_build built] at free
      exact Bool.false_ne_true (free.symm.trans fires)
  · obtain ⟨attacks, defends⟩ := mem_of_listens later
    obtain ⟨rolls, listed⟩ :
        (spec.hooks.contains .onAttack || spec.hooks.contains .onDefend) = true ∧
          spec ∈ attackRules ++ defenseRules := by
      rcases mild with rfl | ⟨rfl, -⟩
      · exact ⟨by rw [listens, Bool.or_true], List.mem_append_right _ (defends listens)⟩
      · exact ⟨by rw [listens, Bool.true_or], List.mem_append_left _ (attacks listens)⟩
    refine ⟨effect, Effect.modifies_of_name (name ▸ (specs_tail spec later).2 rolls), act,
      fun text finding found => ?_⟩
    exact Pattern.counted_of_numeric (numeric_specs spec listed _
      (Matcher.parse?_of_ofTexts reads)) (Matcher.search_of_find? found)

/-- **Texts that only change a roll may be resolved in any order.** They make the same number of texts
count, leave the same behind but for the order of damage types, and fail alike. -/
theorem resolveAll_perm {texts texts' : List String} {before : Resolution} (perm : texts.Perm texts')
    (range : before.tally.InRange)
    (hook : before.hook = .onDefend ∨
      before.hook = .onAttack ∧ ∀ text ∈ texts, charges (Text.trim text) = false) :
    SameOutcome (table.resolveAll texts before) (table.resolveAll texts' before) := by
  have mild : ∀ text ∈ texts, Mild before.hook (Text.trim text) :=
    fun text mem => hook.imp id fun ⟨attacks, free⟩ => ⟨attacks, free text mem⟩
  have each : ∀ text, ∃ heard, text ∈ texts → Tells before.hook (table.resolve text) heard := by
    intro text
    by_cases mem : text ∈ texts
    · obtain ⟨heard, tells⟩ := RuleTable.exists_tells_resolve fun rule known =>
        modifies_of_answers (mild text mem) known
      exact ⟨heard, fun _ => tells⟩
    · exact ⟨⟨false, [], []⟩, fun mem' => absurd mem' mem⟩
  choose heard tells using each
  exact RuleTable.sameOutcome_of_tells perm range tells

/-- What an attacker says of an attack, the last of it beyond all numbers. -/
def boasts : List String := ["+2 to hit", "Crits on 18", "+99999999999 to hit"]

theorem resolveAll_perm_boasts :
    SameOutcome (table.resolveAll boasts (duel.opening .onAttack ⟨1⟩ (some ⟨2⟩) 1))
      (table.resolveAll boasts.reverse (duel.opening .onAttack ⟨1⟩ (some ⟨2⟩) 1)) := by
  have free : ∀ text ∈ boasts, charges (Text.trim text) = false := by decide +kernel
  exact resolveAll_perm boasts.reverse_perm.symm Tally.inRange_empty (.inr ⟨rfl, free⟩)

end Standard

end Skirmish
