/-
**The standard rules can be built.** Every pattern of the standard table can be read and every effect
it names is known, so that its rules are exactly those that its specs describe.

* `Spelled`: the characters of a text. Evaluation is quick on characters and slow on texts;
* `legible_specs`, `known_specs`: the patterns and the effects of the specs;
* `Standard.forall₂_built`: the rules of the table.
-/

import Skirmish.Proofs.StandardRules

namespace Skirmish

/-! ### Spelling -/

/-- A text is spelled with some characters. -/
def Spelled (text : String) (chars : List Char) : Prop := text.toList = chars

/-- A literal is by definition the text of its characters. -/
theorem spelled_ofList (chars : List Char) : Spelled (String.ofList chars) chars :=
  String.toList_ofList

theorem Spelled.append {one two : String} {first second : List Char} (spelled : Spelled one first)
    (spelled' : Spelled two second) : Spelled (one ++ two) (first ++ second) := by
  unfold Spelled at *
  rw [String.toList_append, spelled, spelled']

namespace Pattern

/-- The pattern that some characters are the written form of. -/
def ofChars? (chars : List Char) : Option Pattern := do
  let start : Cursor := { rest := chars, flags := { ignoreCase := true } }
  let (pattern, stop) ← (Read.body (2 * chars.length + 1) [] []).run start
  if stop.rest.isEmpty && pattern.weight ≤ mostWeight then some pattern else none

theorem parse?_of_spelled {text : String} {chars : List Char} (spelled : Spelled text chars) :
    parse? true text = ofChars? chars := by
  have same : parse? true text = ofChars? text.toList := rfl
  rw [same, spelled]

/-- What holds of the pattern that some characters stand for holds of any that is read. -/
theorem forall_of_spelled {good : Pattern → Bool} {text : String} {chars : List Char}
    (spelled : Spelled text chars) (holds : (ofChars? chars).all good) :
    ∀ pattern, parse? true text = some pattern → good pattern := by
  intro pattern reads
  rw [parse?_of_spelled spelled] at reads
  simpa [reads] using holds

/-- A pattern can be read. -/
def Readable (text : String) : Prop := (parse? true text).isSome

theorem readable_of_spelled {text : String} {chars : List Char} (spelled : Spelled text chars)
    (reads : (ofChars? chars).isSome) : Readable text := by
  rwa [Readable, parse?_of_spelled spelled]

end Pattern

open Pattern

/-! ### Building one rule -/

theorem exists_forall₂ {α β : Type} {related : α → β → Prop} {list : List α}
    (each : ∀ entry ∈ list, ∃ result, related entry result) :
    ∃ results, List.Forall₂ related list results := by
  induction list with
  | nil => exact ⟨[], .nil⟩
  | cons entry rest hyp =>
    obtain ⟨result, here⟩ := each entry (List.mem_cons_self ..)
    obtain ⟨results, others⟩ := hyp fun other mem => each other (List.mem_cons_of_mem _ mem)
    exact ⟨result :: results, .cons here others⟩

/-- All patterns of a spec can be read. -/
def RuleSpec.Legible (spec : RuleSpec) : Prop :=
  ∀ text ∈ spec.pattern :: spec.vetoes, Readable text

/-- The effect of a spec is known, and its arguments are right. -/
def RuleSpec.Known (spec : RuleSpec) : Prop :=
  (Catalog.standard.get? spec.handler).any fun handler => (handler spec.arguments).isOk

theorem Matcher.exists_pattern {text : String} (readable : Readable text) :
    ∃ pattern, Matcher.pattern text = .ok pattern := by
  obtain ⟨pattern, reads⟩ := Option.isSome_iff_exists.mp readable
  exact ⟨pattern, by rw [Matcher.pattern, reads]⟩

theorem Catalog.exists_build {spec : RuleSpec} (legible : spec.Legible) (known : spec.Known) :
    ∃ rule, Catalog.standard.build spec = .ok rule := by
  obtain ⟨trigger, trigger'⟩ := Matcher.exists_pattern (legible _ (List.mem_cons_self ..))
  obtain ⟨vetoes, each⟩ := exists_forall₂ fun text mem =>
    Matcher.exists_pattern (legible text (List.mem_cons_of_mem spec.pattern mem))
  have vetoes' := (mapM_eq_ok_iff Matcher.pattern spec.vetoes vetoes).mpr each
  unfold RuleSpec.Known at known
  unfold build
  rcases handler : Catalog.standard.get? spec.handler with _ | act
  · simp [handler] at known
  rcases acts : act spec.arguments with error | effect
  · simp [handler, acts, Except.isOk, Except.toBool] at known
  refine ⟨⟨spec.name, ⟨spec.pattern, trigger, vetoes⟩, spec.hooks, effect⟩, ?_⟩
  simp [acts, Matcher.ofTexts, trigger', vetoes', bind, Except.bind, pure, Except.pure]

namespace Standard

/-! ### All rules -/

/-- All patterns can be read: each of them is read, character by character. -/
theorem legible_specs : ∀ spec ∈ specs, spec.Legible := by
  simp only [RuleSpec.Legible, specs, costRule, attackRules, defenseRules, payloadRules,
    afflictionRules, groundRules, knownConditions, conditionRule, rule, vetoed, List.forall_mem_cons,
    List.map_cons, List.map_nil, List.nil_append, List.cons_append,
    List.not_mem_nil, false_implies, implies_true, and_true, String.reduceEq, ↓reduceIte]
  delta damageTypes amountPattern cureLead
  and_intros
  all_goals
    refine readable_of_spelled (by
      repeat first | with_reducible apply Spelled.append | exact spelled_ofList _) ?_
    decide +kernel

theorem known_specs : ∀ spec ∈ specs, spec.Known := by
  unfold RuleSpec.Known
  decide +kernel

/-- **All standard rules can be built**: the rules of the table are those of the specs. -/
theorem forall₂_built :
    List.Forall₂ (fun spec rule => Catalog.standard.build spec = .ok rule) specs table.rules := by
  have each : ∀ spec ∈ specs, ∃ rule, Catalog.standard.build spec = .ok rule := fun spec mem =>
    Catalog.exists_build (legible_specs spec mem) (known_specs spec mem)
  obtain ⟨rules, built⟩ := exists_forall₂ each
  have whole : RuleTable.ofSpecs .standard specs = .ok ⟨rules⟩ :=
    (RuleTable.ofSpecs_eq_ok ..).mpr built
  rw [table_eq, whole]
  exact built

/-- A standard rule is described by one of the specs. -/
theorem exists_spec {rule : Rule} (mem : rule ∈ table.rules) :
    ∃ spec ∈ specs, Catalog.standard.build spec = .ok rule :=
  exists_of_forall₂ forall₂_built mem

theorem built_table : RuleTable.ofSpecs .standard specs = .ok table :=
  (RuleTable.ofSpecs_eq_ok ..).mpr forall₂_built

end Standard

end Skirmish
