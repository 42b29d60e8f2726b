/-
**Texts that make the target take damage better.** Of the texts of a target, those that only immunity,
resistance, damage reduction or the immunity to critical hits answer change nothing but its guard:

* `Standard.Guards`: such a text, and `braced_resolve`: it makes the guard firmer, and does nothing else;
* `Padded`, `SourceBook.Supplements`: a list, and a book of texts, with further entries in between;
* `Standard.braced_resolveAll`: among the other texts of the target, such texts make its guard firmer.
-/

import Skirmish.Proofs.Lockstep
import Skirmish.Proofs.Shuffles
import Skirmish.Proofs.Tiers

namespace Skirmish

open Resolve Resolution

/-! ### Texts of the target -/

namespace Effect

/-- The effects that do nothing but make the guard of the target firmer. -/
def guards : Effect → Bool
  | .mark .critImmune | .defense .resisted | .defense .immune | .damageReduction => true
  | _ => false

variable {one other : Resolution} {firing : Firing}

/-- Adding to a sum within 32 bits leaves as much as there was. -/
theorem le_added {number number' : Option Int} (le : number.getD 0 ≤ number'.getD 0)
    (bounded : number.getD 0 ≤ greatestInt) {amount : Int} (nonneg : 0 ≤ amount) :
    number.getD 0 ≤ (Tally.added number' amount).getD 0 := by
  simp only [Tally.added, Option.getD_some, saturatingAdd, saturate]
  omega

theorem subset_withEntry_right {list list' : List String} (subset : list ⊆ list') (entry : String) :
    list ⊆ withEntry list' entry := fun _ mem =>
  Modifier.mem_withEntry.mpr (.inl (subset mem))

/-- What is read from a text changes nothing before it is used. -/
theorem braced_settle {α : Type} {result : Except Error α} {next : α → Resolve Unit}
    (braced : one.Braced other)
    (rest : ∀ value, result = .ok value → one.Braced (next value other).2) :
    one.Braced ((settle result >>= next) other).2 := by
  rcases result with error | value
  · exact braced
  · exact rest value rfl

/-- Such an effect makes it firmer, or fails. -/
theorem braced_act {effect : Effect} (guards : effect.guards) (counted : firing.finding.Counted)
    (braced : one.Braced other) : one.Braced (effect.act firing other).2 := by
  cases effect with
  | mark which =>
    obtain ⟨log, faults, guard, firmer, bounded⟩ := braced
    cases which with
    | critImmune =>
      exact .intro log faults { guard with critImmune := true }
        ⟨fun _ => rfl, firmer.resistances, firmer.immunities, firmer.damageReduction⟩ bounded
    | advantage | disadvantage | defenseAdvantage | autoHit | ignoreArmor | ignoreResistance =>
      cases guards
  | defense kind =>
    refine braced_settle braced fun word _ => ?_
    obtain ⟨log, faults, guard, firmer, bounded⟩ := braced
    cases kind with
    | resisted =>
      exact .intro log faults
        { guard with resistances := withEntry guard.resistances (canonicalDamageType word) }
        ⟨firmer.critImmune, subset_withEntry_right firmer.resistances _, firmer.immunities,
          firmer.damageReduction⟩ bounded
    | immune =>
      exact .intro log faults
        { guard with immunities := withEntry guard.immunities (canonicalDamageType word) }
        ⟨firmer.critImmune, firmer.resistances, subset_withEntry_right firmer.immunities _,
          firmer.damageReduction⟩ bounded
    | vulnerable => cases guards
  | damageReduction =>
    refine braced_settle braced fun amount read => ?_
    obtain ⟨log, faults, guard, firmer, bounded⟩ := braced
    exact .intro log faults { guard with damageReduction := Tally.added guard.damageReduction amount }
      ⟨firmer.critImmune, firmer.resistances, firmer.immunities,
        le_added firmer.damageReduction bounded.reduction (nonneg_of_reduction counted read)⟩ bounded
  | cost | heal | damage | composureDamage | lifesteal | reflect | area | chain | status | savingThrow
  | cure | grantResistance | push | pull | teleport | ignite | toHit | critRange | defenseBonus =>
    cases guards

end Effect

/-- A rule that does nothing but make the guard of the target firmer. -/
def Rule.Guards (rule : Rule) : Prop :=
  ∃ effect : Effect, effect.guards ∧ rule.act = effect.act ∧
    ∀ text finding, rule.matcher.find? text = some finding → finding.Counted

section Guards

variable {one other : Resolution} {text : String}

theorem Rule.Guards.braced_ask {rule : Rule} (guards : rule.Guards) (braced : one.Braced other) :
    one.Braced (rule.ask text other).2 := by
  obtain ⟨effect, guards, act, counted⟩ := guards
  unfold Rule.ask
  split
  case isFalse => exact braced
  case isTrue =>
    rcases found : rule.matcher.find? text with _ | finding
    · exact braced
    have firmer : one.Braced (effect.act ⟨rule.name, text, finding⟩ other).2 :=
      Effect.braced_act guards (counted text finding found) braced
    dsimp only
    rw [act]
    generalize effect.act ⟨rule.name, text, finding⟩ other = outcome at firmer ⊢
    obtain ⟨_ | error, after⟩ := outcome
    · obtain ⟨log, faults, guard, firmer, bounded⟩ := firmer
      exact .intro log _ guard firmer bounded
    · exact firmer

/-- Rules that do nothing else where they answer a text make the guard firmer. -/
theorem Rule.braced_askAll {rules : List Rule}
    (guards : ∀ rule ∈ rules, rule.answers one.hook text → rule.Guards) (braced : one.Braced other) :
    one.Braced (askAll rules text other).2 := by
  induction rules generalizing other with
  | nil => exact braced
  | cons rule rest hyp =>
    have later := fun next mem => guards next (List.mem_cons_of_mem rule mem)
    unfold askAll
    dsimp only
    split
    · exact braced
    · refine hyp later ?_
      by_cases answers : rule.answers other.hook text
      · exact (guards rule (List.mem_cons_self ..) (braced.hook ▸ answers)).braced_ask braced
      · rw [ask_of_silent (Bool.eq_false_iff.mpr answers)]
        exact braced

end Guards

namespace Standard

/-- The names of the rules that do nothing but make the guard of the target firmer. -/
def guards : List String := ["crit immunity", "immunity", "resistance", "damage reduction"]

/-- Of all rules only those answer a text of the target. -/
def Guards (text : String) : Prop :=
  ∀ rule ∈ table.rules, rule.answers .onDefend (Text.trim text) → rule.name ∈ guards

/-- What the specs of these names do. -/
theorem specs_guards : ∀ spec ∈ specs, spec.name ∈ guards →
    spec.handler ∈ ["crit_immunity", "immunity", "resistance", "damage_reduction"] := by
  decide

theorem guards_of_name {effect : Effect}
    (mem : effect.name ∈ ["crit_immunity", "immunity", "resistance", "damage_reduction"]) :
    effect.guards := by
  cases effect with
  | mark which => cases which <;> simp_all [Effect.name, Mark.name, Effect.guards]
  | defense kind => cases kind <;> simp_all [Effect.name, Effect.guards]
  | damageReduction => rfl
  | _ => simp [Effect.name] at mem

/-- The rules that answer such a text do nothing else. -/
theorem guards_of_answers (text : String) (guards : Guards text) {rule : Rule}
    (mem : rule ∈ table.rules) (answers : rule.answers .onDefend (Text.trim text)) : rule.Guards := by
  obtain ⟨spec, known, built⟩ := exists_spec mem
  obtain ⟨name, -⟩ := Catalog.build_eq_ok built
  obtain ⟨effect, called, act⟩ := Catalog.exists_effect_of_build built
  obtain ⟨-, -, -, counted⟩ := modifies_of_answers (.inl rfl) mem answers
  have listed : spec.name ∈ Standard.guards := name ▸ guards rule mem answers
  exact ⟨effect, guards_of_name (called ▸ specs_guards spec known listed), act, counted⟩

/-- A text in which the triggers of all other such rules do not occur. -/
theorem guards_of_silent {text : String} (silent : ∀ spec ∈ defenseRules, spec.name ∉ guards →
    ∀ trigger, Pattern.parse? true spec.pattern = some trigger →
      trigger.occurs (Text.trim text) = false) : Guards text := by
  intro rule mem answers
  obtain ⟨listens, fires⟩ := Bool.and_eq_true_iff.mp answers
  obtain ⟨spec, known, built⟩ := exists_spec mem
  obtain ⟨name, hooks, reads, -⟩ := Catalog.build_eq_ok built
  rw [hooks] at listens
  rw [name]
  by_contra other
  have listed : spec ∈ defenseRules := by
    rw [specs_eq] at known
    rcases List.mem_cons.mp known with rfl | later
    · exact absurd listens (by decide)
    · exact (mem_of_listens later).2 listens
  have absent := silent spec listed other _ (Matcher.parse?_of_ofTexts reads)
  exact Bool.false_ne_true (absent.symm.trans ((Matcher.find?_isSome_iff ..).mp fires).1)

/-- **Such a text makes the guard of the target firmer, and does nothing else.** -/
theorem braced_resolve {one other : Resolution} {text : String} (guards : Guards text)
    (hook : one.hook = .onDefend) (braced : one.Braced other) :
    one.Braced (table.resolve text other).2 := by
  have each := fun (rule : Rule) (mem : rule ∈ table.rules) => guards_of_answers text guards mem
  unfold RuleTable.resolve
  generalize table.rules = rules at each ⊢
  split
  · exact braced
  · exact Rule.braced_askAll (by rwa [hook]) braced

end Standard

/-! ### Texts added to others -/

/-- A list is another one with further entries in it, wherever they stand. -/
inductive Padded {α : Type} (good : α → Prop) : List α → List α → Prop
  | nil : Padded good [] []
  | kept (entry : α) {list list' : List α} (rest : Padded good list list') :
      Padded good (entry :: list) (entry :: list')
  | added {entry : α} {list list' : List α} (holds : good entry) (rest : Padded good list list') :
      Padded good list (entry :: list')

namespace Padded

variable {α β : Type} {good : α → Prop} {list list' : List α}

theorem refl (list : List α) : Padded good list list := by
  induction list with
  | nil => exact .nil
  | cons entry rest hyp => exact .kept entry hyp

theorem append_right (padded : Padded good list list') (more : List α) :
    Padded good (list ++ more) (list' ++ more) := by
  induction padded with
  | nil => exact .refl more
  | kept entry _ hyp => exact .kept entry hyp
  | added holds _ hyp => exact .added holds hyp

theorem of_append (list : List α) {more : List α} (holds : ∀ entry ∈ more, good entry) :
    Padded good list (list ++ more) := by
  induction list with
  | nil =>
    induction more with
    | nil => exact .nil
    | cons entry rest hyp =>
      exact .added (holds entry (List.mem_cons_self ..))
        (hyp fun other mem => holds other (List.mem_cons_of_mem _ mem))
  | cons entry rest hyp => exact .kept entry hyp

theorem filter (padded : Padded good list list') (fits : α → Bool) :
    Padded (fun entry => good entry ∧ fits entry) (list.filter fits) (list'.filter fits) := by
  induction padded with
  | nil => exact .nil
  | @kept entry _ _ _ hyp =>
    simp only [List.filter_cons]
    split
    · exact .kept entry hyp
    · exact hyp
  | @added entry _ _ holds _ hyp =>
    simp only [List.filter_cons]
    split
    case isTrue fit => exact .added ⟨holds, fit⟩ hyp
    case isFalse => exact hyp

theorem map {better : β → Prop} (padded : Padded good list list') (view : α → β)
    (carries : ∀ entry, good entry → better (view entry)) :
    Padded better (list.map view) (list'.map view) := by
  induction padded with
  | nil => exact .nil
  | kept entry _ hyp => exact .kept _ hyp
  | added holds _ hyp => exact .added (carries _ holds) hyp

theorem imp {weaker : α → Prop} (padded : Padded good list list')
    (imp : ∀ entry, good entry → weaker entry) : Padded weaker list list' := by
  simpa using padded.map id imp

/-- Where nothing can be added, nothing is. -/
theorem eq_of_none (padded : Padded good list list') (none : ∀ entry, ¬good entry) : list' = list := by
  induction padded with
  | nil => rfl
  | kept entry _ hyp => rw [hyp]
  | @added entry _ _ holds => exact absurd holds (none entry)

end Padded

namespace SourceBook

/-- A book with further texts of somebody in it, wherever they stand among the others. -/
def Supplements (owner : CombatantId) (good : String → Prop) (book further : SourceBook) : Prop :=
  Padded (fun page => page.1 = owner ∧ good page.2.text) book.pages further.pages

variable {owner : CombatantId} {good : String → Prop} {book further : SourceBook}

/-- Texts that are added one after the other supplement a book. -/
theorem supplements_foldl_add {entries : List SourceEntry} (holds : ∀ entry ∈ entries, good entry.text) :
    book.Supplements owner good (entries.foldl (·.add owner ·) book) := by
  have pages : (entries.foldl (·.add owner ·) book).pages
      = book.pages ++ entries.map (owner, ·) := by
    clear holds
    induction entries generalizing book with
    | nil => simp
    | cons entry rest hyp =>
      rw [List.foldl_cons, hyp]
      simp [add]
  unfold Supplements
  rw [pages]
  refine .of_append _ fun page mem => ?_
  obtain ⟨entry, listed, rfl⟩ := List.mem_map.mp mem
  exact ⟨rfl, holds entry listed⟩

/-- The texts of the owner. -/
theorem Supplements.texts (supplements : book.Supplements owner good further) (more : List String) :
    Padded good (book.texts owner more) (further.texts owner more) := by
  have entries : Padded (fun entry : SourceEntry => good entry.text) (book.entries owner)
      (further.entries owner) :=
    (supplements.filter (·.1 == owner)).map (·.2) fun _ fits => fits.1.2
  have told : Padded good ((book.entries owner).map (·.text)) ((further.entries owner).map (·.text)) :=
    entries.map (·.text) fun _ holds => holds
  exact ((told.append_right more).filter (!isBlankText ·)).imp fun _ fits => fits.1

/-- The texts of anybody else stay. -/
theorem Supplements.texts_of_ne (supplements : book.Supplements owner good further)
    {other : CombatantId} (ne : owner ≠ other) (more : List String) :
    further.texts other more = book.texts other more := by
  have pages : further.pages.filter (·.1 == other) = book.pages.filter (·.1 == other) :=
    (supplements.filter (·.1 == other)).eq_of_none fun page ⟨⟨mine, _⟩, fits⟩ =>
      ne (mine.symm.trans (eq_of_beq fits))
  unfold SourceBook.texts entries
  rw [pages]

end SourceBook

namespace Standard

/-- A text of the target leaves the hook as it was. -/
theorem hook_resolve {before : Resolution} {text : String} (hook : before.hook = .onDefend)
    (going : before.tally.aborted = false) : (table.resolve text before).2.hook = .onDefend := by
  have steady := steady_defended before [text] hook
  simp only [RuleTable.resolveAll, going, Bool.false_eq_true, ↓reduceIte] at steady
  exact steady.hook.trans hook

/-- **Among other texts of the target, such texts make its guard firmer, and nothing else.** -/
theorem braced_resolveAll {one other : Resolution} {texts texts' : List String}
    (padded : Padded Guards texts texts') (hook : one.hook = .onDefend) (braced : one.Braced other) :
    (table.resolveAll texts one).2.Braced (table.resolveAll texts' other).2 := by
  induction padded generalizing one other with
  | nil => exact braced
  | @kept text _ _ _ hyp =>
    unfold RuleTable.resolveAll
    dsimp only
    rw [braced.aborted]
    split
    case isTrue => exact braced
    case isFalse going =>
      dsimp only
      exact hyp (hook_resolve hook (Bool.eq_false_iff.mpr going))
        (costsFirst.stock.lockstep_resolve text _ _ braced).2
  | @added text _ texts' guards _ hyp =>
    rw [RuleTable.resolveAll]
    dsimp only
    split
    case isTrue aborted =>
      rw [RuleTable.resolveAll_of_aborted _ (braced.aborted.symm.trans aborted)]
      exact braced
    case isFalse =>
      dsimp only
      exact hyp hook (braced_resolve guards hook braced)

end Standard

end Skirmish
