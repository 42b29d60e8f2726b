/-
**What an attack of a tier comes to.** All texts of both sides are resolved before an attack has a tier,
and none of them touches the field but for what it costs:

* `Standard.autoHits`: a text says that the attack cannot miss, and `autoHit_resolveAll`: the
  tally says so exactly then;
* `Strike.run_followThrough`: how the tier follows from the totals;
* `Fight.tiered_attack`: ties clash unless the attack cannot miss. Clashes and misses change nothing but
  what the attacker has used up, and grazes take composure besides.
-/

import Skirmish.Proofs.Bills
import Skirmish.Proofs.Runs

namespace Skirmish

open Resolve Resolution Battlefield

/-! ### Attacks that cannot miss -/

/-- The hook stays, and the tally says as before whether the attack can miss. -/
def Resolution.SameChance (before after : Resolution) : Prop :=
  after.hook = before.hook ∧ after.tally.autoHit = before.tally.autoHit

instance : Std.Refl SameChance := ⟨fun _ => ⟨rfl, rfl⟩⟩

instance : IsTrans Resolution SameChance :=
  ⟨fun _ _ _ first second => ⟨second.1.trans first.1, second.2.trans first.2⟩⟩

namespace Effect

variable {before : Resolution} {firing : Firing}

/-- The effects on the tally say nothing of whether the attack can miss, but for one mark. -/
theorem sameChance_act {effect : Effect} (still : effect.isStill) (other : effect ≠ .mark .autoHit) :
    Leads SameChance (effect.act firing) before := by
  have adds : ∀ {change : Tally → Tally} {before : Resolution},
      (change before.tally).autoHit = before.tally.autoHit →
        Leads SameChance (Resolve.tally change) before := fun same => ⟨rfl, same⟩
  have rolls : ∀ (dice : DiceFormula) (before : Resolution), Leads SameChance (roll dice) before :=
    fun _ _ => ⟨rfl, rfl⟩
  cases effect with
  | damage kind =>
    show Leads SameChance (actDamage kind firing) before
    unfold actDamage
    dsimp only
    split
    · exact .settle fun dice _ => (rolls dice before).bind fun _ _ _ => adds rfl
    · exact .get (.pure_bind ((rolls _ before).bind fun _ _ _ => adds rfl))
  | composureDamage => exact .settle fun dice _ => (rolls dice before).bind fun _ _ _ => adds rfl
  | lifesteal percent | reflect percent => exact .settle fun _ _ => adds rfl
  | area => exact .settle fun _ _ => .get (.require fun _ _ => adds rfl)
  | chain =>
    refine .get ?_
    split
    · exact .pure ()
    · exact .settle fun _ _ => .targetId fun _ _ => .require fun _ _ => adds rfl
  | toHit | defenseBonus | damageReduction => exact .settle fun _ _ => adds rfl
  | mark which => cases which <;> first | exact adds rfl | exact absurd rfl other
  | critRange => exact .settle fun _ _ => .get (adds rfl)
  | defense kind => exact .settle fun _ _ => by cases kind <;> exact adds rfl
  | cost | heal | status | savingThrow | cure | grantResistance | push | pull | teleport
  | ignite => cases still

theorem sameChance_actCost : Leads SameChance (Effect.cost.act firing) before := by
  have run := run_actCost before firing
  show SameChance before (actCost firing before).2
  generalize actCost firing before = outcome at run
  cases run <;> exact ⟨rfl, rfl⟩

/-- Only one name stands for the mark of attacks that cannot miss. -/
theorem eq_autoHit_iff {effect : Effect} :
    effect = .mark .autoHit ↔ effect.name = "auto_hit" := by
  cases effect with
  | mark which => cases which <;> simp [name, Mark.name]
  | defense kind => cases kind <;> simp [name]
  | _ => simp [name]

end Effect

/-- A rule says of a text that the attack cannot miss. -/
def Rule.marks (rule : Rule) (hook : Hook) (text : String) : Bool :=
  rule.hooks.contains hook && rule.name == "auto-hit" && rule.matcher.matchesText text

/-- What a rule may do while an attack is undecided: take a cost or add to the tally. Only the rule of
that name says that the attack cannot miss, and only of the attacker's texts. -/
structure Rule.Lawful (rule : Rule) : Prop where
  effect : ∃ effect : Effect, rule.act = effect.act ∧
    (effect = .cost ∨
      (rule.hooks.contains .onAttack ∨ rule.hooks.contains .onDefend → effect.isStill)) ∧
    (effect = .mark .autoHit ↔ rule.name = "auto-hit")
  hooks : rule.name = "auto-hit" → rule.hooks = [.onAttack]

namespace Standard

/-- The spec of that name. -/
theorem specs_autoHit : ∀ spec ∈ specs, (spec.handler = "auto_hit" ↔ spec.name = "auto-hit") ∧
    (spec.name = "auto-hit" → spec.hooks = [.onAttack]) := by
  decide

theorem lawful_of_build {spec : RuleSpec} {rule : Rule} (mem : spec ∈ specs.tail)
    (built : Catalog.standard.build spec = .ok rule) : rule.Lawful := by
  obtain ⟨name, hooks, -⟩ := Catalog.build_eq_ok built
  obtain ⟨effect, called, act⟩ := Catalog.exists_effect_of_build built
  obtain ⟨marked, only⟩ := specs_autoHit spec (List.mem_of_mem_tail mem)
  obtain ⟨-, modifies⟩ := specs_tail spec mem
  rw [← called] at modifies marked
  refine ⟨⟨effect, act, .inr fun listens => Effect.isStill_of_name (modifies ?_), ?_⟩,
    fun same => hooks.trans (only (name.symm.trans same))⟩
  · rw [hooks] at listens
    simpa using listens
  · rw [name, ← marked]
    exact Effect.eq_autoHit_iff

theorem lawful : ∀ rule ∈ table.rules, rule.Lawful := by
  obtain ⟨cost, rest, split, built, others⟩ := exists_table_eq
  obtain ⟨name, -⟩ := Catalog.build_eq_ok built
  have apart : cost.name ≠ "auto-hit" := by
    rw [name]
    decide
  rw [split]
  intro rule mem
  rcases List.mem_cons.mp mem with rfl | mem
  · exact ⟨⟨.cost, (isCost_of_build built).act, .inl rfl, by simp [apart]⟩,
      fun called => absurd called apart⟩
  · obtain ⟨spec, known, built'⟩ := others rule mem
    exact lawful_of_build known built'

end Standard

section Chance

variable {before : Resolution} {text : String}

/-- What is known of the chance of an attack after some rules have been asked. -/
structure Marked (rules : List Rule) (text : String) (before after : Resolution) : Prop where
  hook : after.hook = before.hook
  chance : after.tally.autoHit = (before.tally.autoHit || rules.any (·.marks before.hook text))

/-- Asking a rule while an attack is undecided. -/
theorem Rule.Lawful.ask {rule : Rule} (lawful : rule.Lawful)
    (undecided : before.hook = .onAttack ∨ before.hook = .onDefend) :
    Marked [rule] text before (rule.ask text before).2 := by
  obtain ⟨⟨effect, act, mild, marked⟩, -⟩ := lawful
  unfold Rule.ask
  by_cases listens : rule.hooks.contains before.hook
  swap
  · rw [if_neg listens]
    have deaf : rule.hooks.contains before.hook = false := Bool.eq_false_iff.mpr listens
    exact ⟨rfl, by
      simp only [marks, deaf, Bool.false_and, List.any_cons, List.any_nil, Bool.or_false]⟩
  rw [if_pos listens]
  rcases found : rule.matcher.find? text with _ | finding
  · exact ⟨rfl, by simp [marks, Matcher.matchesText, found]⟩
  have fires : [rule].any (·.marks before.hook text) = (rule.name == "auto-hit") := by
    simp only [List.any_cons, List.any_nil, Bool.or_false, marks, Matcher.matchesText, found,
      listens, Option.isSome_some, Bool.true_and, Bool.and_true]
  dsimp only
  rw [act]
  by_cases sure : effect = .mark .autoHit
  · have named := marked.mp sure
    subst sure
    exact ⟨rfl, by rw [fires]; simp [named, Effect.act, Resolve.tally, Tally.raise]⟩
  · have other : (rule.name == "auto-hit") = false :=
      beq_false_of_ne fun named => sure (marked.mpr named)
    have same : Leads SameChance (effect.act ⟨rule.name, text, finding⟩) before := by
      rcases mild with rfl | still
      · exact Effect.sameChance_actCost
      · refine Effect.sameChance_act (still ?_) sure
        rcases undecided with eq | eq
        · exact .inl (eq ▸ listens)
        · exact .inr (eq ▸ listens)
    unfold Leads at same
    generalize effect.act ⟨rule.name, text, finding⟩ before = outcome at same ⊢
    obtain ⟨hook, chance⟩ := same
    obtain ⟨_ | _, after⟩ := outcome
    · exact ⟨hook, by rw [fires, other, Bool.or_false]; exact chance⟩
    · exact ⟨hook, by rw [fires, other, Bool.or_false]; exact chance⟩

/-- Asking several rules, none of which gives up the attack. -/
theorem Rule.marked_askAll {rules : List Rule} (lawful : ∀ rule ∈ rules, rule.Lawful)
    (undecided : before.hook = .onAttack ∨ before.hook = .onDefend)
    (going : (askAll rules text before).2.tally.aborted = false) :
    Marked rules text before (askAll rules text before).2 := by
  induction rules generalizing before with
  | nil => exact ⟨rfl, by simp [askAll]⟩
  | cons rule rest hyp =>
    by_cases aborted : before.tally.aborted
    · rw [askAll_of_aborted _ _ _ aborted] at going
      exact absurd (going.symm.trans aborted) Bool.false_ne_true
    simp only [askAll, aborted, Bool.false_eq_true, ↓reduceIte] at going ⊢
    have first : Marked [rule] text before (rule.ask text before).2 :=
      (lawful rule (List.mem_cons_self ..)).ask undecided
    have later := hyp (fun other mem => lawful other (List.mem_cons_of_mem _ mem))
      (first.hook ▸ undecided) going
    refine ⟨later.hook.trans first.hook, ?_⟩
    rw [later.chance, first.chance, first.hook]
    simp [Bool.or_assoc]

namespace Standard

/-- A text says that the attack cannot miss. -/
def autoHits (hook : Hook) (text : String) : Bool :=
  table.rules.any (·.marks hook (Text.trim text))

/-- The texts of the defender do not. -/
theorem autoHits_onDefend (text : String) : autoHits .onDefend text = false := by
  refine List.any_eq_false.mpr fun rule mem => ?_
  unfold Rule.marks
  by_cases named : rule.name = "auto-hit"
  · simp [(lawful rule mem).hooks named]
  · simp [beq_false_of_ne named]

theorem autoHit_resolve (undecided : before.hook = .onAttack ∨ before.hook = .onDefend)
    (shown : (Text.trim text).isEmpty = false)
    (going : (table.resolve text before).2.tally.aborted = false) :
    (table.resolve text before).2.hook = before.hook ∧
      (table.resolve text before).2.tally.autoHit
        = (before.tally.autoHit || autoHits before.hook text) := by
  have law := lawful
  unfold RuleTable.resolve autoHits at *
  generalize table.rules = rules at *
  simp only [shown, Bool.false_eq_true, ↓reduceIte] at going ⊢
  have marked := Rule.marked_askAll law undecided going
  exact ⟨marked.hook, marked.chance⟩

/-- Where some texts do not give up an attack, it cannot miss afterwards exactly if it could not
before or one of them says so. -/
theorem autoHit_resolveAll (before : Resolution) (texts : List String)
    (undecided : before.hook = .onAttack ∨ before.hook = .onDefend)
    (shown : ∀ text ∈ texts, (Text.trim text).isEmpty = false)
    (going : (table.resolveAll texts before).2.tally.aborted = false) :
    (table.resolveAll texts before).2.tally.autoHit
      = (before.tally.autoHit || texts.any (autoHits before.hook)) := by
  induction texts generalizing before with
  | nil => simp [RuleTable.resolveAll]
  | cons text rest hyp =>
    have clear := RuleTable.clear_of_resolveAll going
    simp only [RuleTable.resolveAll, clear, Bool.false_eq_true, ↓reduceIte] at going ⊢
    have goes := RuleTable.clear_of_resolveAll going
    obtain ⟨hook, first⟩ := autoHit_resolve undecided (shown text (List.mem_cons_self ..)) goes
    generalize (table.resolve text before).2 = middle at *
    rw [hyp _ (by rw [hook]; exact undecided)
      (fun other mem => shown other (List.mem_cons_of_mem _ mem)) going, first, hook]
    simp only [List.any_cons, Bool.or_assoc]

/-- Where texts cost nothing they give nothing up. -/
theorem steady_resolveAll {moves : Battlefield → Battlefield → Prop} [Std.Refl moves]
    [IsTrans Battlefield moves] (before : Resolution) (texts : List String)
    (free : before.hook = .onDefend ∨ before.hook = .onHit)
    (acts : ActsAs before.hook before.actor before.target moves) :
    Steady moves before (table.resolveAll texts before).2 := by
  obtain ⟨cost, rest, split, built, tame⟩ := exists_table_tame
  rw [split]
  refine RuleTable.leads_resolveAll fun rule mem text middle led => ?_
  rcases List.mem_cons.mp mem with rfl | mem
  · have deaf : (rule.ask text middle).2 = middle := by
      unfold Rule.ask
      rw [if_neg (by rcases free with hook | hook <;>
        simp [(isCost_of_build built).hooks, led.hook, hook])]
    rw [deaf]
    exact .refl middle
  · exact (tame rule mem).steady_ask_of_led acts text led

/-- The texts of the defender change nothing, and give nothing up. -/
theorem steady_defended (before : Resolution) (texts : List String) (hook : before.hook = .onDefend) :
    Steady Eq before (table.resolveAll texts before).2 :=
  steady_resolveAll before texts (.inl hook) (actsAs_eq (.inr hook) _ _)

end Standard

end Chance

/-- The texts of a combatant say something. -/
theorem SourceBook.shown_of_mem_texts {book : SourceBook} {owner : CombatantId} {more : List String}
    {text : String} (mem : text ∈ book.texts owner more) : (Text.trim text).isEmpty = false := by
  refine Bool.eq_false_iff.mpr fun blank => ?_
  have nothing : Text.trimChars text.toList = [] := by
    have empty : Text.trim text = "" := by simpa using blank
    simpa [Text.trim] using congrArg String.toList empty
  obtain ⟨before, after, split, blanks, blanks'⟩ := Text.exists_eq_trimChars text.toList
  rw [nothing] at split
  have all : isBlankText text := by
    rw [isBlankText, split]
    simp [blanks, blanks']
  simpa [all] using (List.mem_filter.mp mem).2

/-! ### The tier of an attack -/

/-- A margin is nothing where two numbers are equal and the attack can miss. -/
theorem effectiveMargin_eq_zero_iff (one other : Int) (sure : Bool) :
    effectiveMargin (saturate (one - other)) sure = 0 ↔ sure = false ∧ one = other := by
  unfold effectiveMargin saturate leastInt greatestInt
  cases sure <;> simp <;> omega

namespace Strike

variable {setting : Setting} {before : Resolution} {one other : Combatant} {id : CombatantId}

theorem run_attackLine (setting : Setting) (found : before.field.find? before.actor = some one)
    (dice : DicePair) :
    ∃ line, attackLine setting dice before = (.ok line, before) := by
  unfold attackLine
  rw [run_get_bind, run_get_bind, run_bind_ok (run_require found)]
  exact ⟨_, rfl⟩

theorem run_defenseLine (setting : Setting) (before : Resolution) (aim : before.target = some id)
    (found : before.field.find? id = some other) (dice : DicePair) :
    ∃ line, defenseLine setting dice before = (.ok line, before) := by
  unfold defenseLine
  rw [run_get_bind, run_bind_ok (run_targetId aim), run_bind_ok (run_require found)]
  exact ⟨_, rfl⟩

/-- Only a margin of nothing clashes. -/
theorem run_decideTier (setting : Setting) (before : Resolution) (attack defense : RollLine)
    (margin : Int) : ∃ tier log,
    decideTier setting attack defense margin before = (.ok tier, { before with log }) ∧
      (tier = .clash ↔ margin = 0) := by
  have tied := classify_eq_clash_iff margin attack.natural before.critThreshold
    before.config.thresholds
  unfold decideTier
  rw [run_get_bind, run_narrate_bind]
  generalize AttackTier.classify margin attack.natural before.critThreshold
    before.config.thresholds = tier at *
  split
  case isTrue turned =>
    have crit : tier = .crit := by simpa using (Bool.and_eq_true_iff.mp turned).1
    subst crit
    exact ⟨.hit, _, rfl, by simpa using tied⟩
  case isFalse => exact ⟨tier, _, rfl, tied⟩

/-- The report of an attack of a tier. -/
def Setting.concluded (setting : Setting) (attack defense : RollLine) (margin : Int)
    (tier : AttackTier) (result : DamageReport × Option String) (resolution : Resolution) :
    AttackReport :=
  { setting.report [.idle, .rollAttack, .resolveAttackHooks, .rollDefense, .resolveDefenseHooks,
      .outcome tier] with
    attack := some attack
    defense := some defense
    margin := some margin
    tier := some tier
    damage := result.1
    injury := result.2
    faults := resolution.faults
    log := resolution.log }

/-- An attack that goes on has a tier, which depends on the totals of both sides and on whether it can
miss. Nothing on the field has changed by then. -/
theorem run_followThrough (setting : Setting) (before : Resolution)
    (rules : setting.rules = Standard.table) (clear : before.tally.aborted = false)
    (found : before.field.find? before.actor = some one) (aim : before.target = some id)
    (found' : before.field.find? id = some other) (dice : DicePair) :
    ∃ attack defense margin tier decided,
      followThrough setting dice before
        = (outcome setting tier >>= fun result => get >>= fun resolution =>
            Pure.pure (setting.concluded attack defense margin tier result resolution)) decided ∧
      decided.field = before.field ∧ decided.premises = before.premises ∧
      (tier = .clash ↔ before.tally.autoHit = false ∧ attack.total = defense.total) := by
  obtain ⟨attack, rolls⟩ := run_attackLine setting found dice
  obtain ⟨rolled, isRolled⟩ : ∃ rolled, rolled
      = { before with dice := (DicePair.draw before.dice).2, hook := .onDefend } := ⟨_, rfl⟩
  obtain ⟨texts, isTexts⟩ : ∃ texts, texts = setting.sources.texts setting.request.target [] :=
    ⟨_, rfl⟩
  have hook : rolled.hook = .onDefend := by rw [isRolled]
  have steady : Steady Eq rolled (Standard.table.resolveAll texts rolled).2 :=
    Standard.steady_defended rolled texts hook
  have going : (Standard.table.resolveAll texts rolled).2.tally.aborted = false :=
    steady.aborted.trans (by rw [isRolled]; exact clear)
  have chance := Standard.autoHit_resolveAll rolled texts (.inr hook)
    (fun text mem => SourceBook.shown_of_mem_texts (isTexts ▸ mem)) going
  have mute : texts.any (Standard.autoHits rolled.hook) = false := by
    rw [hook]
    exact List.any_eq_false.mpr fun text _ => by simp [Standard.autoHits_onDefend]
  rw [mute, Bool.or_false] at chance
  have dispatched := run_dispatch Standard.table setting.sources setting.request.target [] .onDefend
    { before with dice := (DicePair.draw before.dice).2 }
  rw [← isTexts, ← isRolled] at dispatched
  generalize (Standard.table.resolveAll texts rolled).2 = asked at *
  have field : asked.field = before.field := steady.field.symm.trans (by rw [isRolled])
  have premises : asked.premises = before.premises := steady.premises.trans (by rw [isRolled]; rfl)
  have chance : asked.tally.autoHit = before.tally.autoHit := chance.trans (by rw [isRolled])
  obtain ⟨defense, defends⟩ := run_defenseLine setting asked
    ((congrArg Premises.target premises).trans aim) (field ▸ found') (DicePair.draw before.dice).1
  obtain ⟨tier, log, decides, tied⟩ := run_decideTier setting asked attack defense
    (effectiveMargin (saturate (attack.total - defense.total)) asked.tally.autoHit)
  refine ⟨attack, defense, effectiveMargin (saturate (attack.total - defense.total))
    asked.tally.autoHit, tier, { asked with log }, ?_, field, premises, ?_⟩
  · unfold followThrough
    rw [run_bind_ok rolls, run_bind_ok (run_drawPair before), rules, run_bind_ok dispatched,
      run_bind_ok defends, run_get_bind, run_bind_ok decides]
    rfl
  · rw [tied, effectiveMargin_eq_zero_iff, chance]

/-- Misses and clashes only tell. -/
theorem run_outcome_quiet (setting : Setting) (before : Resolution) {tier : AttackTier}
    (quiet : tier = .clash ∨ tier = .miss) :
    ∃ log, outcome setting tier before = (.ok ({}, none), { before with log }) := by
  rcases quiet with rfl | rfl <;> exact ⟨_, rfl⟩

/-- A graze takes composure from the target. -/
theorem run_outcome_graze (setting : Setting) (before : Resolution)
    (aim : before.target = some id) (found : before.field.find? id = some other) :
    ∃ log, outcome setting .graze before
      = (.ok ({}, none), { before with
          field := before.field.update id fun _ =>
            other.damagePool .composure before.config.grazeComposure
          log }) := by
  have same : (other.damagePool .composure before.config.grazeComposure).id = id :=
    (Combatant.id_of_stance (Combatant.stance_damagePool ..)).trans (id_of_find? found)
  unfold outcome graze
  simp only [bind_assoc]
  rw [run_bind_ok (run_targetId aim), run_bind_ok (run_require found), run_get_bind,
    run_bind_ok (run_replace same)]
  exact ⟨_, rfl⟩

/-- The attacker's texts have not given up an attack that goes on. -/
theorem clear_of_going {report : AttackReport} {after : Resolution}
    (run : carryOut setting before = (.ok report, after)) (going : ¬report.aborted) :
    (setting.rules.resolveAll setting.texts (setting.opened before)).2.tally.aborted = false := by
  rw [carryOut_eq] at run
  refine Bool.eq_false_iff.mpr fun aborted => going ?_
  dsimp only at run
  rw [if_pos aborted] at run
  obtain rfl := Except.ok.inj (Prod.mk.inj run).1
  rfl

/-- Where the attacker's texts do not give up an attack, they have been paid for, and the tier decides
what comes of it. -/
theorem carryOut_of_clear (rules : setting.rules = Standard.table)
    (clear : before.tally.aborted = false) (open' : before.tally.autoHit = false)
    (found : before.field.find? before.actor = some one) (aim : before.target = some id)
    (found' : before.field.find? id = some other) (ne : id ≠ before.actor)
    (goes : (Standard.table.resolveAll setting.texts (setting.opened before)).2.tally.aborted = false) :
    ∃ paid attack defense margin tier decided,
      one.settle (Standard.bill setting.texts) = (paid, false) ∧
      carryOut setting before
        = (outcome setting tier >>= fun result => get >>= fun resolution =>
            Pure.pure (setting.concluded attack defense margin tier result resolution)) decided ∧
      decided.field = (before.field.update before.actor fun _ => paid) ∧
      decided.premises = before.premises ∧
      (tier = .clash ↔ setting.texts.any (Standard.autoHits .onAttack) = false ∧
        attack.total = defense.total) := by
  rw [carryOut_eq, rules]
  obtain ⟨opened, isOpened⟩ : ∃ opened, opened = setting.opened before := ⟨_, rfl⟩
  rw [← isOpened] at goes ⊢
  have hook : opened.hook = .onAttack := by rw [isOpened]; rfl
  have field : opened.field = before.field := by rw [isOpened]; rfl
  have premises : opened.premises = before.premises := by rw [isOpened]; rfl
  have actor : opened.actor = before.actor := congrArg Premises.actor premises
  have open'' : opened.tally.autoHit = false := by rw [isOpened]; exact open'
  obtain ⟨settled, asked⟩ := Standard.resolveAll_settled opened one setting.texts hook
    (by rw [isOpened]; exact clear) (by rw [field, actor]; exact found)
  have chance := Standard.autoHit_resolveAll opened setting.texts (.inl hook)
    (fun text => SourceBook.shown_of_mem_texts) goes
  have frame : Frame (Payments opened.actor) opened
      (Standard.table.resolveAll setting.texts opened).2 :=
    Standard.costsFirst.resolveAll (hook ▸ allows_payments opened.actor opened.target)
  rw [hook, open'', Bool.false_or] at chance
  dsimp only
  generalize (Standard.table.resolveAll setting.texts opened).2 = middle at *
  rw [if_neg (by simp [goes])]
  obtain ⟨paid, pays⟩ : ∃ paid, one.settle (Standard.bill setting.texts) = (paid, false) :=
    ⟨_, Prod.ext rfl (settled.symm.trans goes)⟩
  rw [pays, field, actor] at asked
  have who : paid.id = before.actor :=
    (Combatant.debits_of_settle pays).id_eq.trans (id_of_find? found)
  have premises' : middle.premises = before.premises := frame.premises.trans premises
  have actor' : middle.actor = before.actor := congrArg Premises.actor premises'
  obtain ⟨attack, defense, margin, tier, decided, follows, field', premises'', tied⟩ :=
    run_followThrough setting middle rules goes
      (by rw [asked, actor']; exact find?_replace found who)
      ((congrArg Premises.target premises').trans aim)
      (by rw [asked, find?_replace_of_ne who ne]; exact found') (DicePair.draw before.dice).1
  rw [chance] at tied
  exact ⟨paid, attack, defense, margin, tier, decided, pays, follows, field'.trans asked,
    premises''.trans premises', tied⟩

/-- What an attack that goes on has done to the field when it is over, by its tier. -/
theorem run_carryOut_going (setting : Setting) (before : Resolution)
    (rules : setting.rules = Standard.table) (clear : before.tally.aborted = false)
    (open' : before.tally.autoHit = false)
    (found : before.field.find? before.actor = some one) (aim : before.target = some id)
    (found' : before.field.find? id = some other) (ne : id ≠ before.actor)
    {report : AttackReport} {after : Resolution} (run : carryOut setting before = (.ok report, after))
    (going : ¬report.aborted) : ∃ paid attack defense margin tier result,
      one.settle (Standard.bill setting.texts) = (paid, false) ∧
      report = setting.concluded attack defense margin tier result after ∧
      (tier = .clash ↔ setting.texts.any (Standard.autoHits .onAttack) = false ∧
        attack.total = defense.total) ∧
      (tier = .clash ∨ tier = .miss → after.field = before.field.update before.actor fun _ => paid) ∧
      (tier = .graze → after.field = (before.field.update before.actor fun _ => paid).update id
        fun _ => other.damagePool .composure before.config.grazeComposure) := by
  have goes := clear_of_going run going
  rw [rules] at goes
  obtain ⟨paid, attack, defense, margin, tier, decided, pays, follows, field, premises, tied⟩ :=
    carryOut_of_clear rules clear open' found aim found' ne goes
  have who : paid.id = before.actor :=
    (Combatant.debits_of_settle pays).id_eq.trans (id_of_find? found)
  have config : decided.config = before.config := congrArg Premises.config premises
  rw [follows] at run
  rcases lands : outcome setting tier decided with ⟨error | result, ended⟩
  · rw [run_bind_error lands] at run
    cases run
  rw [run_bind_ok lands, run_get_bind] at run
  obtain ⟨same, rfl⟩ := Prod.mk.inj run
  refine ⟨paid, attack, defense, margin, tier, result, pays, (Except.ok.inj same).symm, tied,
    fun quiet => ?_, fun grazed => ?_⟩
  · obtain ⟨log, tells⟩ := run_outcome_quiet setting decided quiet
    obtain ⟨-, rfl⟩ := Prod.mk.inj (lands.symm.trans tells)
    exact field
  · subst grazed
    obtain ⟨log, shakes⟩ := run_outcome_graze setting decided
      ((congrArg Premises.target premises).trans aim) (by
        rw [field, find?_replace_of_ne who ne]
        exact found')
    obtain ⟨-, rfl⟩ := Prod.mk.inj (lands.symm.trans shakes)
    show decided.field.update id _ = _
    rw [field, config]

end Strike

namespace Fight

variable {combat after : Combat} {request : AttackRequest} {report : AttackReport}

/-- What an attack that goes on comes to. The attacker has paid for its texts and used up its action. -/
structure Tiered (combat : Combat) (request : AttackRequest) (report : AttackReport)
    (after : Combat) (attacker target paid : Combatant) (attack defense : RollLine)
    (tier : AttackTier) : Prop where
  found : combat.field.find? request.attacker = some attacker
  found' : combat.field.find? request.target = some target
  rolled : report.attack = some attack
  rolled' : report.defense = some defense
  lands : report.tier = some tier
  debits : attacker.Debits
    (Standard.bill (combat.sources.texts request.attacker request.effects)) paid
  /-- A tie clashes, unless a text says that the attack cannot miss. -/
  clashes : tier = .clash ↔
    (∀ text ∈ combat.sources.texts request.attacker request.effects,
      ¬Standard.autoHits .onAttack text) ∧ attack.total = defense.total
  /-- Clashes and misses change nobody else. -/
  quiet : tier = .clash ∨ tier = .miss →
    after.field = combat.field.update request.attacker fun _ => { paid with turn.action := true }
  /-- A graze takes composure from the target besides. -/
  grazes : tier = .graze → (target.pool .composure).InRange → ∃ shaken,
    target.Debits [(min (max combat.config.grazeComposure 0) (target.pool .composure).current,
      .composure)] shaken ∧
    after.field = (combat.field.update request.attacker fun _ =>
      { paid with turn.action := true }).update request.target fun _ => shaken
  /-- A clash waits for its contest. -/
  pending : tier = .clash →
    after.state = .clash ⟨request.attacker, request.target, request.stat⟩

/-- **Ties clash, and only what lands changes anything else.** -/
theorem tiered_attack (rules : combat.rules = Standard.table)
    (run : attack request combat = (.ok report, after)) (going : ¬report.aborted) :
    ∃ attacker target paid attack defense tier,
      Tiered combat request report after attacker target paid attack defense tier := by
  obtain ⟨attacker, target, resolved, granted, there, fit, carried, rfl⟩ := attack_eq_ok run
  obtain ⟨-, found⟩ := Combat.requireAction_eq_ok granted
  have found' := require_eq_ok.mp there
  have ne : request.target ≠ request.attacker := fun same => fit (by simp [same])
  obtain ⟨paid, attack, defense, margin, tier, result, pays, rfl, tied, quiet, grazed⟩ :=
    Strike.run_carryOut_going _ _ rules rfl rfl found rfl found' ne carried going
  have debits := Combatant.debits_of_settle pays
  have who : paid.id = request.attacker := debits.id_eq.trans (id_of_find? found)
  have spends : ∀ middle : Battlefield, middle.find? request.attacker = some paid →
      middle.update request.attacker (fun attacker => { attacker with turn.action := true })
        = middle.update request.attacker fun _ => { paid with turn.action := true } :=
    fun middle there => (update_const there fun attacker =>
      { attacker with turn.action := true }).symm
  have charged : (combat.field.update request.attacker fun _ => paid).find? request.attacker
      = some paid := find?_replace found who
  refine ⟨attacker, target, paid, attack, defense, tier, found, found', rfl, rfl, rfl, debits, ?_,
    fun still => ?_, fun graze fits => ?_, fun clash => ?_⟩
  · rw [tied]
    simp [Strike.Setting.texts]
  · rw [Combat.field_afterAttack_of_going going]
    show resolved.field.update request.attacker _ = _
    rw [quiet still]
    show (combat.field.update request.attacker fun _ => paid).update request.attacker _ = _
    rw [spends _ charged, update_update _ who]
  · have loses := Combatant.debits_damagePool target .composure fits combat.config.grazeComposure
    refine ⟨_, loses, ?_⟩
    rw [Combat.field_afterAttack_of_going going]
    show resolved.field.update request.attacker _ = _
    rw [grazed graze]
    show ((combat.field.update request.attacker fun _ => paid).update request.target
      fun _ => target.damagePool .composure combat.config.grazeComposure).update request.attacker _ = _
    generalize target.damagePool .composure combat.config.grazeComposure = shaken at *
    have who' : shaken.id = request.target := loses.id_eq.trans (id_of_find? found')
    have acted : ({ paid with turn.action := true } : Combatant).id = request.attacker := who
    rw [spends _ ((find?_replace_of_ne who' ne.symm).trans charged), update_comm who' acted ne,
      update_update _ who]
  · exact Combat.state_afterAttack_of_clash going (congrArg some clash)

/-- An attack without texts. -/
def challenge : AttackRequest where
  attacker := ⟨1⟩
  target := ⟨2⟩

/-- The two of the duel tie. -/
theorem tiered_challenge : ∃ report after attacker target paid attack defense tier,
    Fight.attack challenge (duelUnderway []) = (.ok report, after) ∧
      Tiered (duelUnderway []) challenge report after attacker target paid attack defense tier := by
  have granted : (duelUnderway []).requireAction challenge.attacker = .ok aria :=
    Combat.requireAction_of_turn rfl rfl rfl (by decide +kernel) rfl
  have there : (duelUnderway []).field.require challenge.target = .ok dorn :=
    require_eq_ok.mpr rfl
  obtain ⟨report, after, run, given, -⟩ :=
    attack_settles (rules_duelUnderway []) granted there (by decide +kernel)
  have free : (aria.settle (Standard.bill ((duelUnderway []).sources.texts challenge.attacker
      challenge.effects))).2 = false := rfl
  obtain ⟨attacker, target, paid, attack, defense, tier, tiered⟩ :=
    tiered_attack (rules_duelUnderway []) run (by simp [given, free])
  exact ⟨report, after, attacker, target, paid, attack, defense, tier, run, tiered⟩

/-- The duel, where the one who is attacked has almost lost composure. -/
def brink : Combat :=
  { duelUnderway [] with
    field := ⟨[aria, { dorn with pools.composure.current := 1 }], .plain 5 5⟩
    dice := .scripted [11, 11, 10, 10] }

/-- A graze does not only take composure: it may raise a flag. -/
theorem not_forall_composure_of_graze : ¬∀ (request : AttackRequest) (report : AttackReport)
    (after : Combat) (target : Combatant), attack request brink = (.ok report, after) →
      report.tier = some .graze → brink.field.find? request.target = some target →
      ∃ lost, after.field.find? request.target
        = some { target with pools.composure.current := target.pools.composure.current - lost } := by
  intro only
  have grazed : (match (attack challenge brink).1 with
      | .ok report => report.tier
      | .error _ => none) = some .graze := by decide +kernel
  have flagged : ((attack challenge brink).2.field.find? ⟨2⟩).any (·.hasFlag "broken") := by
    decide +kernel
  rcases run : attack challenge brink with ⟨error | report, after⟩
  · simp [run] at grazed
  · rw [run] at grazed flagged
    obtain ⟨lost, left⟩ := only challenge report after _ run grazed rfl
    rw [show challenge.target = ⟨2⟩ from rfl] at left
    rw [left] at flagged
    have calm : dorn.hasFlag "broken" = false := by decide
    exact Bool.false_ne_true (calm.symm.trans flagged)

end Fight

end Skirmish
