/-
**Rules that fail.** Whatever can go wrong when a rule fires goes wrong before it has changed
anything: it reads its text, looks up whom it needs, and from there on it cannot fail.

* `Atomic`: a step that fails leaves the state as it was;
* `Effect.atomic_act`: so do all effects where whoever acts and the target are on the field;
* `RuleTable.resolve_of_failed`: of a rule that fails while a text is resolved nothing is left but its
  fault, and the rules after it go on from there.
-/

import Skirmish.Proofs.Costs
import Skirmish.Proofs.Runs

namespace Skirmish

open Resolve Resolution Battlefield

/-! ### Failing without a trace -/

/-- A step that fails leaves the state as it was. -/
def Atomic {σ α : Type} (step : ExceptT Error (StateM σ) α) (before : σ) : Prop :=
  ∀ error after, step before = (.error error, after) → after = before

/-- Nobody comes or leaves. -/
def Resolution.Stays (before after : Resolution) : Prop :=
  after.field.roster.map Combatant.id = before.field.roster.map Combatant.id

instance : Std.Refl Resolution.Stays := ⟨fun _ => rfl⟩

instance : IsTrans Resolution Resolution.Stays := ⟨fun _ _ _ first second => second.trans first⟩

theorem Resolution.Stays.present {before after : Resolution} (stays : before.Stays after)
    {id : CombatantId} (present : before.field.Present id) : after.field.Present id := by
  unfold Present
  rwa [stays]

namespace Atomic

variable {α β : Type} {before : Resolution}

theorem pure (value : α) : Atomic (Pure.pure value : Resolve α) before := fun _ _ run => by
  cases run

theorem throw (error : Error) : Atomic (MonadExcept.throw error : Resolve α) before :=
  fun _ _ run => by
    cases run
    rfl

/-- What never fails leaves no trace of a failure. -/
theorem of_stays {step : Resolve α} (succeeds : Succeeds Stays step before) :
    Atomic step before := by
  intro error after failed
  obtain ⟨value, middle, run, -⟩ := succeeds
  cases run.symm.trans failed

theorem get {next : Resolution → Resolve β} (rest : Atomic (next before) before) :
    Atomic ((MonadState.get : Resolve Resolution) >>= next) before := rest

theorem pure_bind {value : α} {next : α → Resolve β} (rest : Atomic (next value) before) :
    Atomic (Pure.pure value >>= next) before := rest

/-- Once something has changed, nothing may fail any more. -/
theorem bind {step : Resolve α} {next : α → Resolve β} (first : Atomic step before)
    (rest : ∀ value middle, step before = (.ok value, middle) →
      Succeeds Stays (next value) middle) : Atomic (step >>= next) before := by
  intro error after failed
  rcases run : step before with ⟨refusal | value, middle⟩
  · rw [run_bind_error run] at failed
    obtain ⟨-, rfl⟩ := Prod.mk.inj failed
    exact first refusal _ run
  · rw [run_bind_ok run] at failed
    obtain ⟨last, _, run', -⟩ := rest value middle run
    cases run'.symm.trans failed

theorem settle {result : Except Error β} {next : β → Resolve α}
    (rest : ∀ value, Atomic (next value) before) : Atomic (Resolve.settle result >>= next) before := by
  cases result with
  | error error => exact .throw error
  | ok value => exact rest value

theorem require {id : CombatantId} {next : Combatant → Resolve α}
    (rest : ∀ one, before.field.find? id = some one → Atomic (next one) before) :
    Atomic (Resolve.require id >>= next) before := by
  show Atomic (Resolve.settle (before.field.require id) >>= next) before
  rcases there : before.field.require id with error | one
  · exact .throw error
  · exact rest one (require_eq_ok.mp there)

theorem targetId {next : CombatantId → Resolve α}
    (rest : ∀ id, before.target = some id → Atomic (next id) before) :
    Atomic (Resolve.targetId >>= next) before := by
  rcases aim : before.target with _ | id
  · have run : Resolve.targetId before = (.error .missingTarget, before) := by
      simp [Resolve.targetId, aim]
    intro error after failed
    rw [run_bind_error run] at failed
    exact (Prod.mk.inj failed).2.symm
  · intro error after failed
    rw [run_bind_ok (run_targetId aim)] at failed
    exact rest id aim error after failed

theorem place (id : CombatantId) (cell : Cell) : Atomic (Resolve.place id cell) before := by
  unfold Resolve.place
  refine .get ?_
  cases before.field.place id cell with
  | error error => exact .throw error
  | ok field => exact fun _ _ failed => by cases failed

end Atomic

/-! ### Steps that cannot fail -/

namespace Effect

variable {before : Resolution} {firing : Firing} {who : CombatantId}

theorem stays_narrate (line : String) : Succeeds Stays (narrate line) before := ⟨(), _, rfl, rfl⟩

theorem stays_tally (change : Tally → Tally) : Succeeds Stays (Resolve.tally change) before :=
  ⟨(), _, rfl, rfl⟩

theorem stays_roll (formula : DiceFormula) : Succeeds Stays (roll formula) before :=
  ⟨_, _, rfl, rfl⟩

theorem stays_replace (one : Combatant) : Succeeds Stays (replace one) before :=
  ⟨(), _, rfl, map_update Combatant.id fun _ found => (id_of_find? found).symm⟩

/-- Whoever has been moved is still there. -/
theorem stays_of_place {cell : Cell} {middle : Resolution}
    (run : place who cell before = (.ok (), middle)) : before.Stays middle := by
  obtain ⟨field, placed, rfl⟩ := place_of_run run
  exact (evolves_place placed).ids

theorem stays_place {cell : Cell} (present : before.field.Present who)
    (free : before.field.isFree cell) : Succeeds Stays (place who cell) before := by
  have run : place who cell before = (.ok (), { before with
      field := before.field.update who fun one => { one with position := cell } }) := by
    unfold Resolve.place
    rw [run_get_bind, place_of_free present free]
    rfl
  exact ⟨(), _, run, stays_of_place run⟩

theorem stays_durationOf : Succeeds Stays (durationOf firing) before := .get (.pure _)

theorem stays_inflict (present : before.field.Present who) (condition : String)
    (duration : Duration) (flag : Option String) :
    Succeeds Stays (inflict who condition duration flag) before := by
  refine .require present fun victim _ => (stays_replace _).bind fun _ _ _ _ => ?_
  split
  · exact stays_narrate _
  · exact stays_narrate _
  · exact .pure ()

theorem stays_findRoom (present : before.field.Present who) (patient : Combatant) :
    Succeeds Stays (findRoom who patient) before := by
  refine .get ?_
  dsimp only
  split
  · exact .pure true
  · split
    case h_1 cell near =>
      exact (stays_place present (isFree_of_nearestFree? near)).bind fun _ _ _ _ =>
        (stays_narrate _).bind fun _ _ _ _ => .pure true
    case h_2 => exact (stays_narrate _).bind fun _ _ _ _ => .pure false

theorem stays_regain (present : before.field.Present who) (pool : Pool) (amount : Int)
    (down : Bool) : Succeeds Stays (regain who pool amount down) before := by
  refine .require present fun patient _ => (stays_replace _).bind fun _ _ _ _ => ?_
  refine (stays_narrate _).bind fun _ _ _ _ => ?_
  split
  · exact stays_narrate _
  · exact .pure ()

/-! ### Effects on the tally -/

theorem atomic_actDamage (kind : Option String) : Atomic (actDamage kind firing) before := by
  have adds : ∀ (dice : DiceFormula) (before : Resolution), Atomic
      (roll dice >>= fun amount => Resolve.tally
        (·.addDamage amount (((firing.named? "kind").map canonicalDamageType).or kind))) before :=
    fun dice before => .of_stays ((stays_roll dice).bind fun _ _ _ _ => stays_tally _)
  unfold actDamage
  dsimp only
  split
  · exact .settle fun dice => adds dice before
  · exact .get (.pure_bind (adds _ before))

theorem atomic_actComposureDamage : Atomic (actComposureDamage firing) before :=
  .settle fun dice => .of_stays ((stays_roll dice).bind fun _ _ _ _ => stays_tally _)

theorem atomic_actArea : Atomic (actArea firing) before :=
  .settle fun _ => .get (.require fun _ _ => .of_stays (stays_tally _))

theorem atomic_actChain : Atomic (actChain firing) before := by
  refine .get ?_
  split
  · exact .pure ()
  · exact .settle fun _ => .targetId fun _ _ => .require fun _ _ => .of_stays (stays_tally _)

/-! ### Effects on combatants -/

theorem atomic_actCost : Atomic (actCost firing) before := by
  refine .settle fun (amount, pool) => .get (.require fun payer _ => ?_)
  split
  · exact .of_stays ((stays_replace _).bind fun _ _ _ _ => stays_narrate _)
  · exact .of_stays ((stays_tally _).bind fun _ _ _ _ => stays_narrate _)

theorem atomic_actHeal (acting : before.field.Present before.actor)
    (aimed : before.field.Present before.targetOrActor) (recipient : Recipient) :
    Atomic (actHeal recipient firing) before := by
  have treats : ∀ (dice : DiceFormula) (pool : Pool) (who : CombatantId),
      before.field.Present who → Succeeds Stays (do
        let amount ← roll dice
        let patient ← require who
        let room ←
          if !patient.isAlive && pool == .hitPoints && 0 < amount then findRoom who patient
          else pure true
        if room then regain who pool amount (!patient.isAlive)) before := by
    intro dice pool who present
    refine (stays_roll dice).bind fun amount rolled _ stays => ?_
    have present := stays.present present
    refine .require present fun patient _ => ?_
    dsimp only
    split
    · refine (stays_findRoom present patient).bind fun room middle _ stays => ?_
      split
      · exact stays_regain (stays.present present) ..
      · exact .pure ()
    · exact .pure_bind (stays_regain present ..)
  have patient : ∀ self : Bool,
      before.field.Present (if self then before.actor else before.targetOrActor) := fun self => by
    cases self with
    | true => exact acting
    | false => exact aimed
  refine .settle fun dice => ?_
  dsimp only
  split
  · exact .settle fun pool => .get (.of_stays (treats _ _ _ (patient _)))
  · exact .pure_bind (.get (.of_stays (treats _ _ _ (patient _))))

theorem atomic_actStatus (acting : before.field.Present before.actor)
    (aimed : ∀ id, before.target = some id → before.field.Present id) (condition : String)
    (flag : Option String) (recipient : Recipient) :
    Atomic (actStatus condition flag recipient firing) before := by
  cases recipient with
  | actor =>
    exact .get (.pure_bind (.of_stays (stays_durationOf.bind fun _ _ _ stays =>
      stays_inflict (stays.present acting) ..)))
  | target =>
    exact .targetId fun id aim => .of_stays (stays_durationOf.bind fun _ _ _ stays =>
      stays_inflict (stays.present (aimed id aim)) ..)

/-- The saving throw is rolled when everything else is known. -/
theorem atomic_actSavingThrow (aimed : ∀ id, before.target = some id → before.field.Present id) :
    Atomic (actSavingThrow firing) before := by
  refine .settle fun stat => .settle fun word => ?_
  split
  case h_1 condition _ =>
    refine .settle fun difficulty => .get (.targetId fun id aim => .of_stays ?_)
    have drawn : Succeeds Stays (draw 20) before := ⟨_, _, rfl, rfl⟩
    refine drawn.bind fun natural middle _ stays => ?_
    have present := stays.present (aimed id aim)
    refine .require present fun target _ => ?_
    dsimp only
    split
    · exact stays_narrate _
    · refine (stays_narrate _).bind fun _ told _ stays => ?_
      exact stays_durationOf.bind fun _ _ _ stays' =>
        stays_inflict (stays'.present (stays.present present)) ..
  case h_2 => exact .throw _

theorem atomic_actCure : Atomic (actCure firing) before := by
  refine .settle fun word => ?_
  split
  · exact .pure ()
  · refine .get (.require fun patient _ => ?_)
    split
    · exact .of_stays ((stays_replace _).bind fun _ _ _ _ => stays_narrate _)
    · exact .pure ()

theorem atomic_actGrantResistance (aimed : before.field.Present before.targetOrActor) :
    Atomic (actGrantResistance firing) before :=
  .settle fun _ => .get (.of_stays (stays_durationOf.bind fun _ _ _ stays =>
    stays_inflict (stays.present aimed) ..))

/-! ### Movement and ground -/

theorem atomic_actShove (aimed : ∀ id, before.target = some id → before.field.Present id)
    (shove : Shove) : Atomic (actShove shove firing) before := by
  refine .settle fun feet => .targetId fun target aim => .get ?_
  refine .require fun origin _ => .require fun start _ => ?_
  dsimp only
  split
  · exact .pure ()
  · split
    · exact .pure ()
    · refine (Atomic.place target _).bind fun _ middle run => ?_
      exact .require ((stays_of_place run).present (aimed target aim)) fun _ _ => stays_narrate _

theorem atomic_actTeleport (acting : before.field.Present before.actor) :
    Atomic (actTeleport firing) before := by
  refine .settle fun feet => .targetId fun target _ => .get ?_
  refine .require fun origin _ => .require fun anchor _ => ?_
  dsimp only
  split
  · exact .of_stays (stays_narrate _)
  · refine (Atomic.place before.actor _).bind fun _ middle run => ?_
    exact .require ((stays_of_place run).present acting) fun _ _ => stays_narrate _

theorem atomic_actIgnite (damage : Int) : Atomic (actIgnite damage) before := by
  refine .get (.require fun there _ => .of_stays ?_)
  have burns : Succeeds Stays (modify fun resolution => { resolution with
      field.terrain := resolution.field.terrain.setHazard there.position (some (.fire damage)) })
      before := ⟨(), _, rfl, rfl⟩
  exact burns.bind fun _ _ _ _ => stays_narrate _

/-! ### All effects -/

/-- **An effect that fails has done nothing**, where whoever acts and the target are on the field. -/
theorem atomic_act (acting : before.field.Present before.actor)
    (aimed : ∀ id, before.target = some id → before.field.Present id) (effect : Effect) :
    Atomic (effect.act firing) before := by
  have party : before.field.Present before.targetOrActor := by
    unfold targetOrActor
    cases aim : before.target with
    | none => exact acting
    | some id => exact aimed id aim
  cases effect with
  | cost => exact atomic_actCost
  | heal recipient => exact atomic_actHeal acting party recipient
  | damage kind => exact atomic_actDamage kind
  | composureDamage => exact atomic_actComposureDamage
  | lifesteal | reflect | toHit | defenseBonus | defense | damageReduction =>
    exact .settle fun _ => .of_stays (stays_tally _)
  | critRange => exact .settle fun _ => .get (.of_stays (stays_tally _))
  | mark which => exact .of_stays (stays_tally (·.raise which))
  | area => exact atomic_actArea
  | chain => exact atomic_actChain
  | status condition flag recipient => exact atomic_actStatus acting aimed condition flag recipient
  | savingThrow => exact atomic_actSavingThrow aimed
  | cure => exact atomic_actCure
  | grantResistance => exact atomic_actGrantResistance party
  | push => exact atomic_actShove aimed .away
  | pull => exact atomic_actShove aimed .toward
  | teleport => exact atomic_actTeleport acting
  | ignite damage => exact atomic_actIgnite damage

end Effect

/-! ### Rules -/

section Rules

variable {specs : List RuleSpec} {table : RuleTable} {before reached after : Resolution}
  {text : String} {earlier later : List Rule} {rule : Rule} {finding : Finding} {error : Error}

/-- A rule that fails at once leaves its fault, and the rules after it go on. -/
theorem Rule.askAll_of_failed (later : List Rule) (going : ¬before.tally.aborted)
    (listens : rule.hooks.contains before.hook) (found : rule.matcher.find? text = some finding)
    (failed : rule.act ⟨rule.name, text, finding⟩ before = (.error error, before)) :
    askAll (rule :: later) text before = (true, (askAll later text { before with
      faults := before.faults ++ [⟨rule.name, text, error.message⟩] }).2) := by
  have asked : rule.ask text before = (true, { before with
      faults := before.faults ++ [⟨rule.name, text, error.message⟩] }) := by
    simp only [ask, listens, found, failed, ↓reduceIte]
  simp only [askAll, going, asked, Bool.false_eq_true, ↓reduceIte, Bool.true_or]

/-- **Nothing is left of a rule that fails but its fault.** Wherever the rules before it have led, it
changes nothing there, and the rules after it go on from there. -/
theorem RuleTable.resolve_of_failed (built : RuleTable.ofSpecs .standard specs = .ok table)
    (acting : before.field.Present before.actor)
    (aimed : ∀ id, before.target = some id → before.field.Present id)
    (rules : table.rules = earlier ++ rule :: later)
    (leads : (Rule.askAll earlier (Text.trim text) before).2 = reached)
    (failed : rule.act ⟨rule.name, Text.trim text, finding⟩ reached = (.error error, after)) :
    after = reached ∧
      (¬(Text.trim text).isEmpty → ¬reached.tally.aborted → rule.hooks.contains reached.hook →
        rule.matcher.find? (Text.trim text) = some finding →
        table.resolve text before = (true, (Rule.askAll later (Text.trim text) { reached with
          faults := reached.faults ++ [⟨rule.name, Text.trim text, error.message⟩] }).2)) := by
  have stock := stock_of_specs built
  have course : Course before.actor before.target before reached := leads ▸ Rule.course_askAll
    (fun one mem => stock one (rules ▸ List.mem_append_left _ mem)) (Text.trim text)
  obtain ⟨effect, act⟩ := stock rule (rules ▸ List.mem_append_right _ (List.mem_cons_self ..))
  have unchanged : after = reached := by
    rw [act] at failed
    refine Effect.atomic_act ?_ (fun id aim => ?_) effect error after failed
    · rw [Frame.actor course]
      exact course.field.moves.present.mpr acting
    · rw [Frame.target course] at aim
      exact course.field.moves.present.mpr (aimed id aim)
  refine ⟨unchanged, fun shown going listens found => ?_⟩
  rw [unchanged] at failed
  have later := Rule.askAll_of_failed later going listens found failed
  simp only [resolve, shown, Bool.false_eq_true, ↓reduceIte, rules, Rule.askAll_append, leads, later,
    Bool.or_true]

end Rules

/-- Nothing is left of a cost whose amount nobody can read. -/
theorem RuleTable.resolve_of_illegible : ∃ cost later error,
    Standard.table.rules = cost :: later ∧
      Standard.table.resolve "Cost: 99999999999 HP" (duel.opening .activate ⟨1⟩ none 1)
        = (true, (Rule.askAll later "Cost: 99999999999 HP"
          { duel.opening .activate ⟨1⟩ none 1 with
            faults := [⟨cost.name, "Cost: 99999999999 HP", error⟩] }).2) := by
  obtain ⟨cost, later, split, built, -⟩ := Standard.exists_table_eq
  obtain ⟨name, -, reads, -⟩ := Catalog.build_eq_ok built
  have isCost := Standard.isCost_of_build built
  have illegible : ((Matcher.ofTexts Standard.costRule.pattern Standard.costRule.vetoes).toOption.bind
      (·.find? "Cost: 99999999999 HP")).any fun finding =>
        (Effect.price ⟨Standard.costRule.name, "Cost: 99999999999 HP", finding⟩).toOption.isNone := by
    decide +kernel
  rw [reads] at illegible
  obtain ⟨finding, found, refused⟩ := (Option.any_eq_true _ _).mp illegible
  rcases priced : Effect.price ⟨Standard.costRule.name, "Cost: 99999999999 HP", finding⟩
    with error | price
  · have trimmed : Text.trim "Cost: 99999999999 HP" = "Cost: 99999999999 HP" := by decide +kernel
    have failed : cost.act ⟨cost.name, Text.trim "Cost: 99999999999 HP", finding⟩
        (duel.opening .activate ⟨1⟩ none 1) = (.error error, duel.opening .activate ⟨1⟩ none 1) := by
      rw [isCost.act, name, trimmed]
      exact Effect.run_actCost_of_refused priced
    have rules : Standard.table.rules = [] ++ cost :: later := by
      rw [split]
      rfl
    have leads : (Rule.askAll [] (Text.trim "Cost: 99999999999 HP")
        (duel.opening .activate ⟨1⟩ none 1)).2 = duel.opening .activate ⟨1⟩ none 1 := rfl
    have acting : (duel.opening .activate ⟨1⟩ none 1).field.Present ⟨1⟩ :=
      List.mem_cons_self ..
    obtain ⟨-, resolves⟩ := RuleTable.resolve_of_failed Standard.built_table acting
      (fun id aim => by cases aim) rules leads failed
    rw [trimmed] at resolves
    exact ⟨cost, later, error.message, rules, resolves (by decide +kernel) (by decide)
      (by simp [isCost.hooks, Combat.opening]) found⟩
  · rw [priced] at refused
    cases refused

end Skirmish
