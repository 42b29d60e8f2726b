/-
**Which faces an attack shows.** All dice of a fight come from one source. What a die shows so depends
on those that were drawn before it: of a script on how many they were, of a generator on their sides.

* `Dice.Draws`: dice with given sides were drawn from a supply;
* `Effect.draws_act`: every effect draws some, and those that do not roll draw none;
* `Fight.shows_of_attack`: the attacker shows the next two faces. The defender shows the two after those
  that the attacker's texts have drawn, for these are resolved in between.
-/

import Skirmish.Proofs.Runs

namespace Skirmish

open Resolve Resolution Battlefield

/-! ### Faces -/

namespace FaceSource

/-- The source after dice with given sides. -/
def after (source : FaceSource) (asked : List Nat) : FaceSource :=
  asked.foldl (fun source sides => (source.next sides).2) source

/-- The faces of the next two twenty-sided dice. -/
def pair (source : FaceSource) : DicePair := ⟨(source.next 20).1, ((source.next 20).2.next 20).1⟩

theorem after_append (source : FaceSource) (first second : List Nat) :
    source.after (first ++ second) = (source.after first).after second := List.foldl_append

/-- A script goes on by one face for each die, whatever its sides. -/
theorem after_script (faces asked : List Nat) :
    (script faces).after asked = script (faces.drop asked.length) := by
  induction asked generalizing faces with
  | nil => rfl
  | cons sides rest hyp =>
    cases faces with
    | nil => exact (hyp []).trans (congrArg script List.drop_nil)
    | cons face faces => exact hyp faces

end FaceSource

namespace Dice

/-- The sides of the dice that were drawn, in order. -/
def asked (dice : Dice) : List Nat := (dice.drawn.map (·.sides)).reverse

/-- Dice with given sides were drawn. -/
structure Draws (sides : List Nat) (before after : Dice) : Prop where
  source : after.source = before.source.after sides
  asked : after.asked = before.asked ++ sides

theorem Draws.refl (dice : Dice) : Draws [] dice dice := ⟨rfl, dice.asked.append_nil.symm⟩

theorem Draws.trans {one two : List Nat} {before middle after : Dice}
    (first : Draws one before middle) (second : Draws two middle after) :
    Draws (one ++ two) before after where
  source := by rw [second.source, first.source, FaceSource.after_append]
  asked := by rw [second.asked, first.asked, List.append_assoc]

/-- A die with sides is one die. -/
theorem draws_draw (dice : Dice) {sides : Nat} (positive : sides ≠ 0) :
    Draws [sides] dice (dice.draw sides).2 := by
  unfold draw
  rw [if_neg positive]
  exact ⟨rfl, List.reverse_cons⟩

theorem exists_draws_draw (dice : Dice) (sides : Nat) :
    ∃ asked, Draws asked dice (dice.draw sides).2 := by
  by_cases none : sides = 0
  · unfold draw
    rw [if_pos none]
    exact ⟨[], .refl dice⟩
  · exact ⟨[sides], dice.draws_draw none⟩

theorem exists_draws_drawMany (dice : Dice) (sides many : Nat) :
    ∃ asked, Draws asked dice (dice.drawMany sides many).2 := by
  induction many generalizing dice with
  | zero => exact ⟨[], .refl dice⟩
  | succ many hyp =>
    obtain ⟨one, first⟩ := dice.exists_draws_draw sides
    obtain ⟨others, later⟩ := hyp (dice.draw sides).2
    exact ⟨one ++ others, first.trans later⟩

end Dice

theorem DicePair.fst_draw (dice : Dice) : (DicePair.draw dice).1 = dice.source.pair := by
  show DicePair.mk (dice.source.next 20).1 ((dice.draw 20).2.source.next 20).1 = _
  rw [(dice.draws_draw (by decide)).source]
  rfl

theorem DicePair.draws_draw (dice : Dice) : Dice.Draws [20, 20] dice (DicePair.draw dice).2 := by
  have one : ∀ dice : Dice, Dice.Draws [20] dice (dice.draw 20).2 :=
    fun dice => dice.draws_draw (by decide)
  exact (one dice).trans (one (dice.draw 20).2)

/-! ### Effects that roll -/

/-- The hook stays, and dice are drawn only where some may be. -/
structure Resolution.Draws (may : Prop) (before after : Resolution) : Prop where
  hook : after.hook = before.hook
  dice : ∃ asked, Dice.Draws asked before.dice after.dice ∧ (¬may → asked = [])

namespace Resolution

variable {may : Prop} {before after : Resolution}

/-- Where hook and dice stay, none was drawn. -/
theorem Draws.of_same (hook : after.hook = before.hook) (dice : after.dice = before.dice) :
    Draws may before after :=
  ⟨hook, [], dice ▸ .refl _, fun _ => rfl⟩

instance : Std.Refl (Draws may) := ⟨fun _ => .of_same rfl rfl⟩

instance : IsTrans Resolution (Draws may) where
  trans := by
    rintro before middle after ⟨hook, one, first, none⟩ ⟨hook', two, second, none'⟩
    refine ⟨hook'.trans hook, one ++ two, first.trans second, fun never => ?_⟩
    rw [none never, none' never, List.append_nil]

end Resolution

namespace Effect

/-- The effects that roll dice. -/
def rolls : Effect → Bool
  | .damage _ | .composureDamage | .heal _ | .savingThrow => true
  | _ => false

/-- The names of the effects that roll dice. -/
def rolling : List String := ["damage", "composure_damage", "heal", "saving_throw"]

/-- Only these names stand for effects that roll. -/
theorem name_of_rolls {effect : Effect} (rolls : effect.rolls) : effect.name ∈ rolling := by
  cases effect with
  | damage | composureDamage | heal | savingThrow => simp [name, rolling]
  | _ => cases rolls

section Draws

variable {may : Prop} {before : Resolution} {firing : Firing}

/-- A step that leaves hook and dice alone. -/
theorem draws_of_same {α : Type} {step : Resolve α} (hook : (step before).2.hook = before.hook)
    (dice : (step before).2.dice = before.dice) : Leads (Draws may) step before :=
  .of_same hook dice

theorem draws_tally (change : Tally → Tally) : Leads (Draws may) (Resolve.tally change) before :=
  draws_of_same rfl rfl

theorem draws_narrate (line : String) : Leads (Draws may) (narrate line) before :=
  draws_of_same rfl rfl

theorem draws_replace (combatant : Combatant) : Leads (Draws may) (replace combatant) before :=
  draws_of_same rfl rfl

theorem draws_place (id : CombatantId) (cell : Cell) : Leads (Draws may) (place id cell) before :=
  .get (.settle fun _ _ => draws_of_same rfl rfl)

theorem draws_roll (allowed : may) (formula : DiceFormula) :
    Leads (Draws may) (roll formula) before := by
  obtain ⟨asked, draws⟩ := before.dice.exists_draws_drawMany formula.die.sides formula.count
  exact ⟨rfl, asked, draws, fun never => absurd allowed never⟩

theorem draws_draw (allowed : may) (sides : Nat) : Leads (Draws may) (Resolve.draw sides) before := by
  obtain ⟨asked, draws⟩ := before.dice.exists_draws_draw sides
  exact ⟨rfl, asked, draws, fun never => absurd allowed never⟩

theorem draws_actDamage (allowed : may) (kind : Option String) :
    Leads (Draws may) (actDamage kind firing) before := by
  unfold actDamage
  dsimp only
  split
  · exact .settle fun _ _ => (draws_roll allowed _).bind fun _ _ _ => draws_tally _
  · exact .get (.pure_bind ((draws_roll allowed _).bind fun _ _ _ => draws_tally _))

theorem draws_actCost : Leads (Draws may) (actCost firing) before := by
  have run := run_actCost before firing
  show Draws may before (actCost firing before).2
  generalize actCost firing before = outcome at run
  cases run <;> exact .of_same rfl rfl

theorem draws_findRoom (who : CombatantId) (patient : Combatant) :
    Leads (Draws may) (findRoom who patient) before := by
  refine .get ?_
  dsimp only
  split
  · exact .pure true
  · split
    · exact (draws_place ..).bind fun _ _ _ => (draws_narrate _).bind fun _ _ _ => .pure true
    · exact (draws_narrate _).bind fun _ _ _ => .pure false

theorem draws_regain (who : CombatantId) (pool : Pool) (amount : Int) (down : Bool) :
    Leads (Draws may) (regain who pool amount down) before := by
  refine .require fun patient _ => (draws_replace _).bind fun _ _ _ =>
    (draws_narrate _).bind fun _ _ _ => ?_
  split
  · exact draws_narrate _
  · exact .pure ()

theorem draws_actHeal (allowed : may) (recipient : Recipient) :
    Leads (Draws may) (actHeal recipient firing) before := by
  have treats : ∀ (dice : DiceFormula) (pool : Pool) (who : CombatantId),
      Leads (Draws may) (do
        let amount ← roll dice
        let patient ← require who
        let room ←
          if !patient.isAlive && pool == .hitPoints && 0 < amount then findRoom who patient
          else pure true
        if room then regain who pool amount (!patient.isAlive)) before := by
    intro dice pool who
    refine (draws_roll allowed dice).bind fun amount now _ => .require fun patient _ => ?_
    dsimp only
    split
    · refine (draws_findRoom ..).bind fun room after _ => ?_
      split
      · exact draws_regain ..
      · exact .pure ()
    · exact .pure_bind (draws_regain ..)
  refine .settle fun dice _ => ?_
  dsimp only
  split
  · exact .settle fun pool _ => .get (treats ..)
  · exact .pure_bind (.get (treats ..))

theorem draws_inflict (who : CombatantId) (condition : String) (duration : Duration)
    (flag : Option String) : Leads (Draws may) (inflict who condition duration flag) before := by
  refine .require fun victim _ => (draws_replace _).bind fun _ _ _ => ?_
  split
  · exact draws_narrate _
  · exact draws_narrate _
  · exact .pure ()

theorem draws_durationOf : Leads (Draws may) (durationOf firing) before := .get (.pure _)

theorem draws_actStatus (condition : String) (flag : Option String) (recipient : Recipient) :
    Leads (Draws may) (actStatus condition flag recipient firing) before := by
  cases recipient with
  | actor =>
    exact .get (.pure_bind (draws_durationOf.bind fun _ _ _ => draws_inflict ..))
  | target =>
    exact .targetId fun _ _ => draws_durationOf.bind fun _ _ _ => draws_inflict ..

theorem draws_actSavingThrow (allowed : may) :
    Leads (Draws may) (actSavingThrow firing) before := by
  refine .settle fun stat _ => .settle fun word _ => ?_
  split
  · refine .settle fun bound _ => .get (.targetId fun who _ => ?_)
    refine (draws_draw allowed 20).bind fun natural _ _ => .require fun target _ => ?_
    dsimp only
    split
    · exact draws_narrate _
    · exact (draws_narrate _).bind fun _ _ _ => draws_durationOf.bind fun _ _ _ => draws_inflict ..
  · exact .throw _

theorem draws_actCure : Leads (Draws may) (actCure firing) before := by
  refine .settle fun word _ => ?_
  split
  · exact .pure ()
  · refine .get (.require fun patient _ => ?_)
    split
    · exact (draws_replace _).bind fun _ _ _ => draws_narrate _
    · exact .pure ()

theorem draws_actShove (shove : Shove) : Leads (Draws may) (actShove shove firing) before := by
  refine .settle fun feet _ => .targetId fun target _ => .get (.require fun origin _ =>
    .require fun start _ => ?_)
  dsimp only
  split
  · exact .pure ()
  · split
    · exact .pure ()
    · exact (draws_place ..).bind fun _ _ _ => .require fun _ _ => draws_narrate _

theorem draws_actTeleport : Leads (Draws may) (actTeleport firing) before := by
  refine .settle fun feet _ => .targetId fun target _ => .get (.require fun origin _ =>
    .require fun anchor _ => ?_)
  dsimp only
  split
  · exact draws_narrate _
  · exact (draws_place ..).bind fun _ _ _ => .require fun _ _ => draws_narrate _

/-- **Effects that do not roll draw no dice**, and the others draw some. -/
theorem draws_act (effect : Effect) (allowed : effect.rolls → may) :
    Leads (Draws may) (effect.act firing) before := by
  cases effect with
  | cost => exact draws_actCost
  | heal recipient => exact draws_actHeal (allowed rfl) recipient
  | damage kind => exact draws_actDamage (allowed rfl) kind
  | composureDamage =>
    exact .settle fun _ _ => (draws_roll (allowed rfl) _).bind fun _ _ _ => draws_tally _
  | savingThrow => exact draws_actSavingThrow (allowed rfl)
  | status condition flag recipient => exact draws_actStatus condition flag recipient
  | cure => exact draws_actCure
  | grantResistance =>
    exact .settle fun _ _ => .get (draws_durationOf.bind fun _ _ _ => draws_inflict ..)
  | push => exact draws_actShove .away
  | pull => exact draws_actShove .toward
  | teleport => exact draws_actTeleport
  | ignite amount =>
    refine .get (.require fun there _ => ?_)
    have burns : Leads (Draws may) (modify fun resolution : Resolution => { resolution with
        field.terrain := resolution.field.terrain.setHazard there.position (some (.fire amount)) })
        before := draws_of_same rfl rfl
    exact burns.bind fun _ _ _ => draws_narrate _
  | area => exact .settle fun _ _ => .get (.require fun _ _ => draws_tally _)
  | chain =>
    refine .get ?_
    split
    · exact .pure ()
    · exact .settle fun _ _ => .targetId fun _ _ => .require fun _ _ => draws_tally _
  | critRange => exact .settle fun _ _ => .get (draws_tally _)
  | mark which => exact draws_tally _
  | lifesteal | reflect | toHit | defenseBonus | defense | damageReduction =>
    exact .settle fun _ _ => draws_tally _

end Draws

end Effect

/-! ### Texts that roll -/

/-- A rule draws dice at a hook only where some may be drawn. -/
def Rule.DrawsAt (may : Prop) (hook : Hook) (rule : Rule) : Prop :=
  rule.hooks.contains hook → ∀ firing before, Leads (Draws may) (rule.act firing) before

/-- A spec describes a rule that rolls dice. -/
def RuleSpec.Rolls (spec : RuleSpec) : Prop := spec.handler ∈ Effect.rolling

instance (spec : RuleSpec) : Decidable spec.Rolls := inferInstanceAs (Decidable (_ ∈ _))

/-- The rules of a table draw dice at a hook only if one of its specs says so. -/
theorem Rule.drawsAt_of_specs {specs : List RuleSpec} {table : RuleTable} (hook : Hook)
    (built : RuleTable.ofSpecs .standard specs = .ok table) :
    ∀ rule ∈ table.rules,
      rule.DrawsAt (∃ spec ∈ specs, spec.hooks.contains hook ∧ spec.Rolls) hook := by
  intro rule mem listens firing before
  obtain ⟨spec, known, builds⟩ := exists_of_forall₂ ((RuleTable.ofSpecs_eq_ok ..).mp built) mem
  obtain ⟨-, hooks, -⟩ := Catalog.build_eq_ok builds
  obtain ⟨effect, name, act⟩ := Catalog.exists_effect_of_build builds
  have draws : effect.rolls → spec.Rolls := fun rolls => by
    rw [RuleSpec.Rolls, ← name]
    exact Effect.name_of_rolls rolls
  rw [act]
  exact Effect.draws_act effect fun rolls => ⟨spec, known, hooks ▸ listens, draws rolls⟩

section Texts

variable {may : Prop} {before : Resolution} {text : String}

theorem Rule.DrawsAt.ask {rule : Rule} (draws : rule.DrawsAt may before.hook) :
    Draws may before (rule.ask text before).2 :=
  leads_ask (fun listens firing => draws listens firing before) fun _ _ led => ⟨led.hook, led.dice⟩

namespace RuleTable

variable {table : RuleTable}

/-- Any texts draw some dice, and none where no rule may. -/
theorem draws_resolveAll {texts : List String}
    (draws : ∀ rule ∈ table.rules, rule.DrawsAt may before.hook) :
    Draws may before (table.resolveAll texts before).2 := by
  refine leads_resolveAll fun rule mem text middle led => Rule.DrawsAt.ask ?_
  rw [led.hook]
  exact draws rule mem

end RuleTable

end Texts

/-! ### The faces of an attack -/

namespace AttackReport

/-- The two faces of the attacker, if they were rolled. -/
def attackFaces (report : AttackReport) : Option DicePair := report.attack.map (·.dice)

/-- The two faces of the defender, if they were rolled. -/
def defenseFaces (report : AttackReport) : Option DicePair := report.defense.map (·.dice)

end AttackReport

namespace Strike

variable {setting : Setting} {before after : Resolution} {report : AttackReport}

/-- Both dice of the attacker are fixed, and those of the defender are drawn next. -/
theorem faces_of_followThrough {dice : DicePair}
    (run : followThrough setting dice before = (.ok report, after)) :
    report.attackFaces = some dice ∧ report.defenseFaces = some before.dice.source.pair := by
  unfold followThrough at run
  obtain ⟨attack, rolled, rolls, run⟩ := exists_of_run_bind run
  have keeps : Leads Eq (attackLine setting dice) before := .get (.get (.require fun _ _ => .pure _))
  have shown : Returns (fun line => line.dice = dice) (attackLine setting dice) :=
    .bind fun _ => .bind fun _ => .bind fun _ => .pure rfl
  obtain rfl : attack.dice = dice := shown _ _ _ rolls
  obtain rfl : before = rolled := keeps.of_run rolls
  rw [run_bind_ok (run_drawPair before)] at run
  have shown' : ∀ pair, Returns (fun line => line.dice = pair) (defenseLine setting pair) := fun _ =>
    .bind fun _ => .bind fun _ => .bind fun _ => .pure rfl
  obtain ⟨count, asked, -, run⟩ := exists_of_run_bind run
  obtain ⟨defense, defended, defends, run⟩ := exists_of_run_bind run
  rw [run_get_bind] at run
  obtain ⟨tier, decided, -, run⟩ := exists_of_run_bind run
  obtain ⟨⟨damage, injury⟩, ended, -, run⟩ := exists_of_run_bind run
  obtain rfl := Except.ok.inj (Prod.mk.inj run).1
  have pair := shown' _ _ _ _ defends
  exact ⟨rfl, congrArg some (pair.trans (DicePair.fst_draw _))⟩

/-- The dice of the attacker are drawn before its texts are resolved. -/
theorem draws_opened : Dice.Draws [20, 20] before.dice (setting.opened before).dice :=
  DicePair.draws_draw before.dice

/-- The texts of the attacker draw some dice, and none where no spec rolls for them. -/
theorem draws_texts (setting : Setting) (before : Resolution) {specs : List RuleSpec}
    (built : RuleTable.ofSpecs .standard specs = .ok setting.rules) :
    Draws (∃ spec ∈ specs, spec.hooks.contains .onAttack ∧ spec.Rolls) (setting.opened before)
      (setting.rules.resolveAll setting.texts (setting.opened before)).2 :=
  RuleTable.draws_resolveAll (Rule.drawsAt_of_specs .onAttack built)

/-- An attack that goes on shows two faces of the attacker. Its texts are resolved before the defender
rolls. -/
theorem faces_of_carryOut (run : carryOut setting before = (.ok report, after))
    (going : ¬report.aborted) :
    report.attackFaces = some before.dice.source.pair ∧ report.defenseFaces
      = some (setting.rules.resolveAll setting.texts (setting.opened before)).2.dice.source.pair := by
  rw [carryOut_eq] at run
  dsimp only at run
  split at run
  case isTrue aborted =>
    obtain rfl := Except.ok.inj (Prod.mk.inj run).1
    exact absurd rfl going
  case isFalse =>
    rw [← DicePair.fst_draw]
    exact faces_of_followThrough run

end Strike

namespace Combat

/-- The sides of the dice that the texts of the attacker draw, in order. -/
def diceOfTexts (combat : Combat) (request : AttackRequest) : List Nat :=
  match combat.field.find? request.attacker, combat.field.find? request.target with
  | some attacker, some target =>
    let setting : Strike.Setting := ⟨combat.rules, combat.sources, request,
      .assess combat.field attacker target, attacker.name, target.name⟩
    let opened := setting.opened
      (combat.opening .onAttack request.attacker (some request.target) request.tier)
    (combat.rules.resolveAll setting.texts opened).2.dice.asked.drop opened.dice.asked.length
  | _, _ => []

end Combat

/-- An attack shows the next faces of the source, those of the defender after the dice that the texts of
the attacker have drawn. -/
structure AttackReport.Shows (report : AttackReport) (combat : Combat) (request : AttackRequest) :
    Prop where
  attack : report.attackFaces = some combat.dice.source.pair
  defense : report.defenseFaces
    = some (combat.dice.source.after ([20, 20] ++ combat.diceOfTexts request)).pair

namespace Fight

variable {specs : List RuleSpec} {combat after after' : Combat} {request : AttackRequest}
  {report report' : AttackReport}

/-- Whatever an attack's texts draw stands between the dice of the two sides. -/
theorem shows_of_attack (built : RuleTable.ofSpecs .standard specs = .ok combat.rules)
    (run : attack request combat = (.ok report, after)) (going : ¬report.aborted) :
    report.Shows combat request ∧
      (¬(∃ spec ∈ specs, spec.hooks.contains .onAttack ∧ spec.Rolls) →
        combat.diceOfTexts request = []) := by
  obtain ⟨attacker, target, resolved, granted, there, -, carried, -⟩ := attack_eq_ok run
  obtain ⟨-, found⟩ := Combat.requireAction_eq_ok granted
  have found' := require_eq_ok.mp there
  obtain ⟨setting, isSetting⟩ : ∃ setting : Strike.Setting, setting = ⟨combat.rules, combat.sources,
    request, .assess combat.field attacker target, attacker.name, target.name⟩ := ⟨_, rfl⟩
  obtain ⟨before, isBefore⟩ : ∃ before, before = combat.opening .onAttack request.attacker
    (some request.target) request.tier := ⟨_, rfl⟩
  rw [← isSetting, ← isBefore] at carried
  have rules : setting.rules = combat.rules := by rw [isSetting]
  have dice : before.dice = combat.dice := by rw [isBefore]; rfl
  obtain ⟨-, asked, draws, none⟩ := Strike.draws_texts setting before (rules ▸ built)
  obtain ⟨shown, shown'⟩ := Strike.faces_of_carryOut carried going
  have counted : combat.diceOfTexts request = asked := by
    unfold Combat.diceOfTexts
    simp only [found, found']
    rw [← isSetting, ← isBefore, ← rules, draws.asked, List.drop_left]
  have before' := (Strike.draws_opened.trans draws).source
  rw [dice] at shown before'
  rw [← counted] at before' none
  exact ⟨⟨shown, shown'.trans (congrArg _ (congrArg _ before'))⟩, none⟩

/-- What two attacks show that differ only in their texts. -/
structure SideBySide (specs : List RuleSpec) (combat : Combat) (request other : AttackRequest)
    (report report' : AttackReport) : Prop where
  shows : report.Shows combat request
  shows' : report'.Shows combat other
  attack : report'.attackFaces = report.attackFaces
  /-- Where the texts of both draw the same dice, the defender shows the same faces. -/
  even : combat.diceOfTexts other = combat.diceOfTexts request →
    report'.defenseFaces = report.defenseFaces
  /-- Scripted dice need only be as many. -/
  scripted : ∀ faces, combat.dice.source = .script faces →
    (combat.diceOfTexts other).length = (combat.diceOfTexts request).length →
      report'.defenseFaces = report.defenseFaces
  /-- They do where no rule that the attacker's texts can invoke rolls dice. -/
  quiet : (∀ spec ∈ specs, spec.hooks.contains .onAttack → ¬spec.Rolls) →
    report'.defenseFaces = report.defenseFaces

/-- **Texts do not change what the attacker rolls.** They change what the defender rolls only by the
dice that they draw themselves. -/
theorem sideBySide_attack (effects : List String)
    (built : RuleTable.ofSpecs .standard specs = .ok combat.rules)
    (run : attack request combat = (.ok report, after)) (going : ¬report.aborted)
    (run' : attack { request with effects } combat = (.ok report', after'))
    (going' : ¬report'.aborted) :
    SideBySide specs combat request { request with effects } report report' := by
  obtain ⟨shows, none⟩ := shows_of_attack built run going
  obtain ⟨shows', none'⟩ := shows_of_attack built run' going'
  have even : combat.diceOfTexts { request with effects } = combat.diceOfTexts request →
      report'.defenseFaces = report.defenseFaces := fun same => by
    rw [shows.defense, shows'.defense, same]
  refine ⟨shows, shows', shows'.attack.trans shows.attack.symm, even, fun faces script same => ?_,
    fun quiet => even ?_⟩
  · rw [shows.defense, shows'.defense, script, FaceSource.after_script, FaceSource.after_script,
      List.length_append, List.length_append, same]
  · have never : ¬∃ spec ∈ specs, spec.hooks.contains .onAttack ∧ spec.Rolls :=
      fun ⟨spec, mem, listens, rolls⟩ => quiet spec mem listens rolls
    rw [none never, none' never]

/-- A rule that rolls dice while an attack is undecided. -/
def ember : RuleSpec := Standard.rule "ember" "ember" [.onAttack] "damage"

/-- The duel under that rule alone. -/
def emberDuel : Combat :=
  { duelUnderway [] with
    rules := (RuleTable.ofSpecs .standard [ember]).toOption.getD .empty
    dice := .scripted [10, 10, 15, 16, 3] }

theorem built_ember : RuleTable.ofSpecs .standard [ember] = .ok emberDuel.rules := by
  have builds : (RuleTable.ofSpecs .standard [ember]).isOk := by decide +kernel
  have rules : emberDuel.rules = (RuleTable.ofSpecs .standard [ember]).toOption.getD .empty := by
    simp only [emberDuel]
  rw [rules]
  rcases built : RuleTable.ofSpecs .standard [ember] with error | table
  · rw [built] at builds
    exact absurd builds Bool.false_ne_true
  · rfl

/-- An attack with some texts. -/
def strike (effects : List String) : AttackRequest where
  attacker := ⟨1⟩
  target := ⟨2⟩
  effects := effects

/-- What an attack shows there, if it is answered: whether it was given up, and the faces. -/
def emberFaces (effects : List String) : Option (Bool × Option DicePair × Option DicePair) :=
  (attack (strike effects) emberDuel).1.toOption.map fun report =>
    (report.aborted, report.attackFaces, report.defenseFaces)

theorem emberFaces_nil : emberFaces [] = some (false, some ⟨10, 10⟩, some ⟨15, 16⟩) := by
  decide +kernel

theorem emberFaces_ember :
    emberFaces ["ember"] = some (false, some ⟨10, 10⟩, some ⟨16, 3⟩) := by
  decide +kernel

theorem exists_of_emberFaces {effects : List String} {faces : Option DicePair × Option DicePair}
    (shown : emberFaces effects = some (false, faces)) :
    ∃ report after, attack (strike effects) emberDuel = (.ok report, after) ∧ ¬report.aborted ∧
      (report.attackFaces, report.defenseFaces) = faces := by
  unfold emberFaces at shown
  rcases run : attack (strike effects) emberDuel with ⟨error | report, after⟩
  · rw [run] at shown
    cases shown
  · rw [run] at shown
    obtain ⟨going, rfl⟩ := Prod.mk.inj (Option.some.inj shown)
    exact ⟨report, after, rfl, by simp [going], rfl⟩

/-- One attack has no text, and the other one that rolls. -/
theorem sideBySide_ember : ∃ report after report' after',
    attack (strike []) emberDuel = (.ok report, after) ∧
      attack (strike ["ember"]) emberDuel = (.ok report', after') ∧
      SideBySide [ember] emberDuel (strike []) (strike ["ember"]) report report' := by
  obtain ⟨report, after, run, going, -⟩ := exists_of_emberFaces emberFaces_nil
  obtain ⟨report', after', run', going', -⟩ := exists_of_emberFaces emberFaces_ember
  exact ⟨report, after, report', after', run, run',
    sideBySide_attack ["ember"] built_ember run going run' going'⟩

/-- The faces of the defender are not those that a text without dice would have left. -/
theorem not_forall_faces_eq : ¬∀ (specs : List RuleSpec) (combat after after' : Combat)
    (request : AttackRequest) (effects : List String) (report report' : AttackReport),
    RuleTable.ofSpecs .standard specs = .ok combat.rules →
      attack request combat = (.ok report, after) → ¬report.aborted →
      attack { request with effects } combat = (.ok report', after') → ¬report'.aborted →
      report'.attackFaces = report.attackFaces ∧ report'.defenseFaces = report.defenseFaces := by
  intro always
  obtain ⟨report, after, run, going, faces⟩ := exists_of_emberFaces emberFaces_nil
  obtain ⟨report', after', run', going', faces'⟩ := exists_of_emberFaces emberFaces_ember
  obtain ⟨-, same⟩ :=
    always _ _ _ _ _ ["ember"] _ _ built_ember run going run' going'
  rw [(Prod.mk.inj faces).2, (Prod.mk.inj faces').2] at same
  exact absurd same (by decide)

end Fight

end Skirmish
