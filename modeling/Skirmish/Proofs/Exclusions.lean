/-
**Standard rules that keep out of each other's way.** Some of the standard rules would read the same
words. A veto keeps them apart: it occurs wherever the trigger of the other rule does.

* `Pattern.Forces`: where a trigger occurs a veto does;
* `Standard.forces_composure`, `Standard.forces_saving`, `Standard.cure_spec`: the vetoes that do;
* `Standard.exclusive_text`: no text is read as damage to hit points and to composure, as a saving throw and
  as what it decides, or as a cure of a condition and as that condition.
-/

import Skirmish.Proofs.Costs
import Skirmish.Proofs.Rows
import Skirmish.Proofs.Treatments

namespace Skirmish

/-! ### Triggers and vetoes -/

namespace Pattern

/-- Wherever one pattern occurs another one does. -/
def Forces (pattern veto : String) : Prop :=
  ∀ trigger inner, parse? true pattern = some trigger → parse? true veto = some inner →
    ∀ text, trigger.occurs text → inner.occurs text

theorem forces_of_spelled {pattern veto : String} {chars chars' : List Char} (count : Nat)
    (spelled : Spelled pattern chars) (spelled' : Spelled veto chars')
    (encloses : (ofChars? chars).all fun trigger =>
      (ofChars? chars').all fun inner => trigger.encloses count inner) : Forces pattern veto := by
  intro trigger inner reads reads' text occurs
  have within := forall_of_spelled spelled' (forall_of_spelled spelled encloses trigger reads)
  exact occurs_of_encloses (within inner reads') occurs

/-- A pattern ends with a word under a name, and another one ends with a stem in its place. -/
def continues (name : String) (stem : List Char) : Pattern → Pattern → Bool
  | .sequence lead (.group other body), inner =>
    other == name && body.opens true && inner.parts == lead.parts ++ spelling stem
  | _, _ => false

theorem continues_of_spelled {name pattern veto : String} {stem chars chars' : List Char}
    (spelled : Spelled pattern chars) (spelled' : Spelled veto chars')
    (continues : (ofChars? chars).all fun trigger =>
      (ofChars? chars').all fun inner => trigger.continues name stem inner) :
    ∀ trigger inner, parse? true pattern = some trigger → parse? true veto = some inner →
      trigger.continues name stem inner := by
  intro trigger inner reads
  exact forall_of_spelled spelled' (forall_of_spelled spelled continues trigger reads) inner

/-- Where a word is found with which the stem begins, the other pattern occurs. -/
theorem occurs_of_continues {name word : String} {stem : List Char} {trigger inner : Pattern}
    {text : String} {finding : Finding} (continues : trigger.continues name stem inner)
    (found : trigger.search text = some finding) (named : finding.group? name = some word)
    (reads : ∀ c chars, word.toList = c :: chars → Text.isBlank c = false →
      Reads stem word.toList) : inner.occurs text := by
  unfold Pattern.continues at continues
  split at continues
  case h_2 => cases continues
  case h_1 lead other body =>
    simp only [Bool.and_eq_true, beq_iff_eq] at continues
    obtain ⟨⟨rfl, opens⟩, parts⟩ := continues
    obtain ⟨i, inside, way, mem, rfl⟩ := exists_of_search found
    obtain ⟨k, begins, spans, kept⟩ := exists_of_mem_stops inside mem
    obtain rfl := Option.some.inj (kept.symm.trans named)
    obtain ⟨c, first, inWord, less⟩ := spans.opens opens
    have stretched : (stretch text.toList.toArray k way.stop).toList
        = (text.toList.drop k).take (way.stop - k) := String.toList_ofList
    obtain ⟨later, rest⟩ : ∃ later, text.toList.drop k = c :: later :=
      List.head?_eq_some_iff.mp (by rw [List.head?_drop, ← first, List.getElem?_toArray])
    obtain ⟨count, size⟩ : ∃ count, way.stop - k = count + 1 := ⟨way.stop - k - 1, by omega⟩
    have shown : Text.isBlank c = false := Bool.eq_false_iff.mpr fun blank =>
      Bool.false_ne_true ((Text.wordless_of_isBlank blank).1.symm.trans inWord)
    have begun := reads c (later.take count)
      (by rw [stretched, size, rest, List.take_succ_cons]) shown
    rw [stretched] at begun
    have further := begun.append ((text.toList.drop k).drop (way.stop - k))
    rw [List.take_append_drop] at further
    refine occurs_iff.mpr ⟨i, inside, k + stem.length, row_parts.mp ?_⟩
    rw [parts]
    exact row_append.mpr ⟨k, row_parts.mpr begins, row_spelling further⟩

end Pattern

namespace Matcher

/-- What a matcher finds its trigger finds. -/
theorem search_of_find? {matcher : Matcher} {text : String} {finding : Finding}
    (found : matcher.find? text = some finding) : matcher.trigger.search text = some finding := by
  unfold find? at found
  split at found
  · cases found
  · exact found

/-- Every written veto is one of those of the matcher. -/
theorem exists_veto {trigger veto : String} {vetoes : List String} {matcher : Matcher}
    (reads : ofTexts trigger vetoes = .ok matcher) (mem : veto ∈ vetoes) :
    ∃ inner ∈ matcher.vetoes, Pattern.parse? true veto = some inner := by
  unfold ofTexts at reads
  rcases parsed : pattern trigger with error | trigger'
  · simp [parsed, bind, Except.bind] at reads
  rcases all : vetoes.mapM pattern with error | inners
  · simp [parsed, all, bind, Except.bind] at reads
  obtain rfl : ⟨trigger, trigger', inners⟩ = matcher := by
    simpa [parsed, all, bind, Except.bind, pure, Except.pure] using reads
  have each := (mapM_eq_ok_iff pattern vetoes inners).mp all
  obtain ⟨inner, listed, read⟩ := exists_of_forall₂ each.flip mem
  refine ⟨inner, listed, ?_⟩
  unfold pattern at read
  split at read
  case h_1 inner found => exact found.trans (congrArg some (Except.ok.inj read))
  case h_2 => cases read

end Matcher

namespace Standard

/-- The wording of damage to composure. -/
def composureWording : String := r"\b(?:composure|cmp|stress|mental)\s+damage\b"

/-- The wording of a saving throw. -/
def savingWording : String := r"\bsav(?:e|ing\s+throw)\s+or\b"

theorem forces_composure : ∀ spec ∈ specs, spec.name = "composure damage" →
    Pattern.Forces spec.pattern composureWording := by
  simp only [specs, costRule, attackRules, defenseRules, payloadRules, afflictionRules, groundRules,
    knownConditions, conditionRule, rule, vetoed, List.forall_mem_cons, List.map_cons, List.map_nil,
    List.nil_append, List.cons_append, List.not_mem_nil, false_implies, implies_true, and_true,
    true_and, String.reduceEq, forall_const]
  delta amountPattern
  refine Pattern.forces_of_spelled 2 (by
    repeat first | with_reducible apply Spelled.append | exact spelled_ofList _) (spelled_ofList _) ?_
  decide +kernel

theorem forces_saving : ∀ spec ∈ specs, spec.name = "saving throw" →
    Pattern.Forces spec.pattern savingWording := by
  simp only [specs, costRule, attackRules, defenseRules, payloadRules, afflictionRules, groundRules,
    knownConditions, conditionRule, rule, vetoed, List.forall_mem_cons, List.map_cons, List.map_nil,
    List.nil_append, List.cons_append, List.not_mem_nil, false_implies, implies_true, and_true,
    true_and, String.reduceEq, forall_const]
  refine Pattern.forces_of_spelled 3 (by
    repeat first | with_reducible apply Spelled.append | exact spelled_ofList _) (spelled_ofList _) ?_
  decide +kernel

/-- A pattern reads a word where a veto of each condition has its stem. -/
def Cures (pattern : String) : Prop :=
  ∀ condition ∈ knownConditions, ∀ trigger inner, Pattern.parse? true pattern = some trigger →
    Pattern.parse? true (cureLead ++ condition.stem) = some inner →
      trigger.continues "condition" condition.stem.toList inner

theorem cures_cure : ∀ spec ∈ specs, spec.name = "cure" → Cures spec.pattern := by
  simp only [specs, costRule, attackRules, defenseRules, payloadRules, afflictionRules, groundRules,
    knownConditions, conditionRule, rule, vetoed, List.forall_mem_cons, List.map_cons, List.map_nil,
    List.nil_append, List.cons_append, List.not_mem_nil, false_implies, implies_true, and_true,
    true_and, String.reduceEq, forall_const]
  delta Cures cureLead
  intro condition known
  refine Pattern.continues_of_spelled (by
    repeat first | with_reducible apply Spelled.append | exact spelled_ofList _)
    (.append (spelled_ofList _) rfl) ?_
  revert condition
  decide +kernel

/-! ### Vetoes -/

/-- Damage to hit points is vetoed by the wording of damage to composure. -/
theorem mem_vetoes_damage : ∀ spec ∈ specs, spec.name = "damage" →
    composureWording ∈ spec.vetoes := by
  decide

/-- A condition is vetoed by the wording of a saving throw, and by that of its cure. -/
theorem mem_vetoes_condition : ∀ condition ∈ knownConditions, ∀ spec ∈ specs,
    spec.name = condition.name →
      savingWording ∈ spec.vetoes ∧ cureLead ++ condition.stem ∈ spec.vetoes := by
  decide

/-- A rule does not fire where one of its vetoes occurs. -/
theorem not_matches_of_veto {spec : RuleSpec} {rule : Rule} {veto text : String}
    (built : Catalog.standard.build spec = .ok rule) (mem : veto ∈ spec.vetoes)
    (occurs : ∀ inner, Pattern.parse? true veto = some inner → inner.occurs text) :
    ¬rule.matcher.matchesText text := by
  obtain ⟨-, -, reads, -⟩ := Catalog.build_eq_ok built
  obtain ⟨inner, known, read⟩ := Matcher.exists_veto reads mem
  intro fires
  have absent := ((Matcher.find?_isSome_iff ..).mp fires).2 inner known
  exact Bool.false_ne_true (absent.symm.trans (occurs inner read))

/-- A standard rule of a name fires on a text. -/
def Fires (name text : String) : Prop :=
  ∃ rule ∈ table.rules, rule.name = name ∧ rule.matcher.matchesText text

theorem Fires.exists_spec {name text : String} (fires : Fires name text) :
    ∃ spec ∈ specs, spec.name = name ∧ ∃ rule, Catalog.standard.build spec = .ok rule ∧
      rule.matcher.matchesText text := by
  obtain ⟨rule, mem, named, matched⟩ := fires
  obtain ⟨spec, known, built⟩ := Standard.exists_spec mem
  exact ⟨spec, known, (Catalog.build_eq_ok built).1.symm.trans named, rule, built, matched⟩

/-- Of two rules, the first of which forces a veto of the second, one does not fire. -/
theorem not_both_of_forces {one other veto text : String}
    (forces : ∀ spec ∈ specs, spec.name = one → Pattern.Forces spec.pattern veto)
    (vetoes : ∀ spec ∈ specs, spec.name = other → veto ∈ spec.vetoes) :
    ¬(Fires one text ∧ Fires other text) := by
  rintro ⟨fires, fires'⟩
  obtain ⟨spec, known, named, rule, built, matched⟩ := fires.exists_spec
  obtain ⟨spec', known', named', rule', built', matched'⟩ := fires'.exists_spec
  obtain ⟨-, -, reads, -⟩ := Catalog.build_eq_ok built
  have occurs := ((Matcher.find?_isSome_iff ..).mp matched).1
  refine not_matches_of_veto built' (vetoes spec' known' named') (fun inner read => ?_) matched'
  exact forces spec known named _ inner (Matcher.parse?_of_ofTexts reads) read text occurs

/-! ### What is kept apart -/

/-- The cure rule fires on a text, and the word that it finds names a condition. -/
def Ends (condition : KnownCondition) (text : String) : Prop :=
  ∃ rule ∈ table.rules, rule.name = "cure" ∧ ∃ finding word,
    rule.matcher.find? text = some finding ∧ finding.group? "condition" = some word ∧
      conditionFor? word = some condition

/-- The effects that exclude each other, as a text is read. -/
structure Exclusive (text : String) : Prop where
  /-- Damage goes to hit points or to composure. -/
  damage : ¬(Fires "damage" text ∧ Fires "composure damage" text)
  /-- What a saving throw decides does not happen without it. -/
  saving : ∀ condition ∈ knownConditions, ¬(Fires "saving throw" text ∧ Fires condition.name text)
  /-- What is ended is not applied. -/
  cure : ∀ condition, Ends condition text → ¬Fires condition.name text

/-- What is ended is not applied. -/
theorem Ends.not_fires {condition : KnownCondition} {text : String} (ends : Ends condition text) :
    ¬Fires condition.name text := by
  obtain ⟨cure, mem, name, finding, word, found, group, reads⟩ := ends
  intro fires
  obtain ⟨spec, known, built⟩ := exists_spec mem
  obtain ⟨spec', known', named', status, built', matched⟩ := fires.exists_spec
  obtain ⟨same, -, parsed, -⟩ := Catalog.build_eq_ok built
  have listed := mem_knownConditions reads
  refine not_matches_of_veto built' (mem_vetoes_condition condition listed spec' known' named').2
    (fun inner read => ?_) matched
  have continues := cures_cure spec known (same.symm.trans name) condition listed _ inner
    (Matcher.parse?_of_ofTexts parsed) read
  exact Pattern.occurs_of_continues continues (Matcher.search_of_find? found) group
    fun c chars spelled shown => reads_of_conditionFor? spelled shown reads

/-- **Exclusive effects are kept apart**, whatever a text says. -/
theorem exclusive_text (text : String) : Exclusive text where
  damage both := not_both_of_forces forces_composure mem_vetoes_damage both.symm
  saving condition listed := by
    refine not_both_of_forces forces_saving fun spec known named => ?_
    exact (mem_vetoes_condition condition listed spec known named).1
  cure condition ends := ends.not_fires

end Standard

end Skirmish
