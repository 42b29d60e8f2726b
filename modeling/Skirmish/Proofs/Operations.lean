/-
**What can be done to a fight.** One lemma for each operation says everything that it can have done:

* `Fight.run_attack`, `run_activate`: an action is refused and changes nothing, or it is carried out
  to its end;
* `Fight.run_move`, `run_resolveClash`, `run_endTurn`, `run_addCombatant`, `run_start`: the same for
  whatever else happens.
-/

import Skirmish.Proofs.Actions
import Skirmish.Proofs.Contests
import Skirmish.Proofs.Turns

namespace Skirmish

open Battlefield

variable {before : Combat}

/-! ### Guards -/

namespace Combat

variable {actor : CombatantId} {one : Combatant}

/-- Whoever may act is on the field, and turns are being taken. -/
theorem requireTurn_eq_ok (granted : before.requireTurn actor = .ok one) :
    before.state = .active ∧ before.field.find? actor = some one := by
  unfold requireTurn requireRunning at granted
  rcases state : before.state with _ | _ | _ | _
  case active =>
    rw [state] at granted
    rcases found : before.field.require actor with error | other
    · simp [found, bind, Except.bind] at granted
    · refine ⟨rfl, ?_⟩
      simp only [found, bind, Except.bind] at granted
      split at granted
      · cases granted
      · split at granted
        · cases granted
        · cases granted
          exact require_eq_ok.mp found
  all_goals
    rw [state] at granted
    cases granted

theorem requireAction_eq_ok (granted : before.requireAction actor = .ok one) :
    before.state = .active ∧ before.field.find? actor = some one := by
  unfold requireAction at granted
  rcases turn : before.requireTurn actor with error | other
  · simp [turn, bind, Except.bind] at granted
  · simp only [turn, bind, Except.bind] at granted
    split at granted
    · cases granted
    · cases granted
      exact requireTurn_eq_ok turn

/-- Whoever's turn it is may act, if it can and has not done so yet. -/
theorem requireAction_of_turn (running : before.state = .active)
    (found : before.field.find? actor = some one) (current : before.order.current? = some actor)
    (able : one.isIncapacitated = false) (left : one.turn.action = false) :
    before.requireAction actor = .ok one := by
  have there : before.field.require actor = .ok one := require_eq_ok.mpr found
  simp [requireAction, requireTurn, requireRunning, running, there, current, able, left, bind,
    Except.bind, pure, Except.pure]

/-- The state in which an action begins to be resolved. -/
def opening (combat : Combat) (hook : Hook) (actor : CombatantId) (target : Option CombatantId)
    (tier : Nat) : Resolution where
  field := combat.field
  dice := combat.dice
  config := combat.config
  hook := hook
  actor := actor
  target := target
  tier := tier

theorem ready_opening {hook : Hook} {target : Option CombatantId} {tier : Nat}
    (acting : before.field.Present actor)
    (aimed : ∀ id, target = some id → before.field.Present id) :
    (before.opening hook actor target tier).Ready actor target :=
  ⟨rfl, rfl, acting, aimed, fun _ mem => absurd mem (by simp [opening])⟩

/-! ### The end of a fight -/

@[simp] theorem field_checkFinished (combat : Combat) :
    combat.checkFinished.field = combat.field := by
  unfold checkFinished
  split <;> rfl

@[simp] theorem order_checkFinished (combat : Combat) :
    combat.checkFinished.order = combat.order := by
  unfold checkFinished
  split <;> rfl

@[simp] theorem rules_checkFinished (combat : Combat) :
    combat.checkFinished.rules = combat.rules := by
  unfold checkFinished
  split <;> rfl

/-- An attack that was given up leaves the field as it is. -/
theorem field_afterAttack_of_aborted {combat : Combat} {request : AttackRequest} {name : String}
    {report : AttackReport} (aborted : report.aborted) :
    (combat.afterAttack request name report).field = combat.field := by
  rw [afterAttack, if_pos aborted]
  rfl

/-- An attack that was carried out has used up the attacker's action. -/
theorem field_afterAttack_of_going {combat : Combat} {request : AttackRequest} {name : String}
    {report : AttackReport} (going : ¬report.aborted) :
    (combat.afterAttack request name report).field = combat.field.update request.attacker
      fun attacker => { attacker with turn.action := true } := by
  rw [afterAttack, if_neg going, field_checkFinished]
  rfl

/-- A clash does not end the fight. -/
theorem state_afterAttack_of_clash {combat : Combat} {request : AttackRequest} {name : String}
    {report : AttackReport} (going : ¬report.aborted) (tied : report.tier = some .clash) :
    (combat.afterAttack request name report).state
      = .clash ⟨request.attacker, request.target, request.stat⟩ := by
  rw [afterAttack, if_neg going]
  simp only [tied, ↓reduceIte, checkFinished, record]
  rw [if_neg (by simp)]

theorem field_afterActivation_of_aborted {combat : Combat} {activation : Activation}
    {report : ActivationReport} (aborted : report.aborted) :
    (combat.afterActivation activation report).field = combat.field := by
  unfold afterActivation
  rw [if_pos aborted, field_checkFinished]
  rfl

/-- Using up the action of an attack changes nothing but the attacker's turn. -/
theorem confined_afterAttack (combat : Combat) (request : AttackRequest) (name : String)
    (report : AttackReport) (target : Option CombatantId) :
    Confined request.attacker target Rests combat.field
      (combat.afterAttack request name report).field := by
  unfold afterAttack
  split
  · exact Std.Refl.refl combat.field
  · rw [field_checkFinished]
    exact confined_update (party_actor ..) (fun _ => rfl) (rests_update fun _ _ => rfl)

theorem confined_afterActivation (combat : Combat) (activation : Activation)
    (report : ActivationReport) (target : Option CombatantId) :
    Confined activation.actor target Rests combat.field
      (combat.afterActivation activation report).field := by
  unfold afterActivation
  rw [field_checkFinished]
  dsimp only
  split
  · exact Std.Refl.refl combat.field
  · exact confined_update (party_actor ..) (fun _ => rfl) (rests_update fun _ _ => rfl)

end Combat

/-! ### Actions -/

namespace Fight

@[simp] theorem settle_ok {α : Type} (value : α) : settle (.ok value) = pure value := rfl

@[simp] theorem settle_error {α : Type} (error : Error) :
    settle (.error error : Except Error α) = throw error := rfl

/-- Steps that are resolved end as they do, from where the fight stands. -/
theorem run_resolving {α : Type} {hook : Hook} {actor : CombatantId} {target : Option CombatantId}
    {tier : Nat} {steps : Resolve α} {result : Except Error α} {after : Resolution}
    (run : steps (before.opening hook actor target tier) = (result, after)) :
    resolving hook actor target tier steps before
      = (result, { before with field := after.field, dice := after.dice }) := by
  have same : resolving hook actor target tier steps before
      = ((steps (before.opening hook actor target tier)).1, { before with
        field := (steps (before.opening hook actor target tier)).2.field
        dice := (steps (before.opening hook actor target tier)).2.dice }) := rfl
  rw [same, run]

theorem run_contesting {α : Type} {steps : Contest α} {result : Except Error α} {after : Scene}
    (run : steps { field := before.field, dice := before.dice } = (result, after)) :
    contesting steps before
      = (result, { before with field := after.field, dice := after.dice }) := by
  have same : contesting steps before
      = ((steps { field := before.field, dice := before.dice }).1, { before with
        field := (steps { field := before.field, dice := before.dice }).2.field
        dice := (steps { field := before.field, dice := before.dice }).2.dice }) := rfl
  rw [same, run]

/-- What comes of an attack. -/
inductive AttackRun (request : AttackRequest) (before : Combat) :
    Except Error AttackReport × Combat → Prop
  | refused (error : Error) : AttackRun request before (.error error, before)
  | made {setting : Strike.Setting} {report : AttackReport} {resolved : Resolution}
      (running : before.state = .active) (rules : setting.rules = before.rules)
      (sources : setting.sources = before.sources) (same : setting.request = request)
      (who : report.attacker = request.attacker)
      (ends : Ends (before.opening .onAttack request.attacker (some request.target) request.tier)
        (setting.rules.resolveAll setting.texts (setting.opened
          (before.opening .onAttack request.attacker (some request.target) request.tier))).2
        report.aborted report.damage resolved) :
      AttackRun request before (.ok report,
        ({ before with field := resolved.field, dice := resolved.dice } : Combat).afterAttack
          request setting.targetName report)

/-- An attack that was made resolved the texts of the attacker first, and ended as they left it. -/
theorem AttackRun.ends {request : AttackRequest} {report : AttackReport} {after : Combat}
    (made : AttackRun request before (.ok report, after)) :
    ∃ (setting : Strike.Setting) (resolved : Resolution),
      Ends (before.opening .onAttack request.attacker (some request.target) request.tier)
        (before.rules.resolveAll (before.sources.texts request.attacker request.effects)
          (setting.opened (before.opening .onAttack request.attacker (some request.target)
            request.tier))).2
        report.aborted report.damage resolved ∧
      after = ({ before with field := resolved.field, dice := resolved.dice } : Combat).afterAttack
        request setting.targetName report := by
  cases made with
  | @made setting _ resolved running rules sources same who ends =>
    have texts : setting.texts = before.sources.texts request.attacker request.effects := by
      rw [Strike.Setting.texts, sources, same]
    rw [rules, texts] at ends
    exact ⟨setting, resolved, ends, rfl⟩

/-- An attack that is granted ends as its resolution does. -/
theorem attack_of_run {request : AttackRequest} {attacker target : Combatant}
    (granted : before.requireAction request.attacker = .ok attacker)
    (there : before.field.require request.target = .ok target)
    (fit : ¬(request.target == request.attacker || !target.isAlive))
    {report : AttackReport} {resolved : Resolution}
    (run : Strike.carryOut ⟨before.rules, before.sources, request,
        .assess before.field attacker target, attacker.name, target.name⟩
      (before.opening .onAttack request.attacker (some request.target) request.tier)
      = (.ok report, resolved)) :
    attack request before = (.ok report,
      ({ before with field := resolved.field, dice := resolved.dice } : Combat).afterAttack request
        target.name report) := by
  unfold attack
  rw [run_get_bind, granted, settle_ok, run_pure_bind, there, settle_ok, run_pure_bind, if_neg fit]
  exact run_bind_ok (run_resolving run)

/-- An attack that was answered was granted, and ended as its resolution did. -/
theorem attack_eq_ok {request : AttackRequest} {report : AttackReport} {after : Combat}
    (run : attack request before = (.ok report, after)) :
    ∃ attacker target resolved, before.requireAction request.attacker = .ok attacker ∧
      before.field.require request.target = .ok target ∧
      ¬(request.target == request.attacker || !target.isAlive) ∧
      Strike.carryOut ⟨before.rules, before.sources, request,
          .assess before.field attacker target, attacker.name, target.name⟩
        (before.opening .onAttack request.attacker (some request.target) request.tier)
        = (.ok report, resolved) ∧
      after = ({ before with field := resolved.field, dice := resolved.dice } : Combat).afterAttack
        request target.name report := by
  rcases granted : before.requireAction request.attacker with error | attacker
  · unfold attack at run
    rw [run_get_bind, granted] at run
    cases run
  rcases there : before.field.require request.target with error | target
  · unfold attack at run
    rw [run_get_bind, granted, settle_ok, run_pure_bind, there] at run
    cases run
  by_cases unfit : request.target == request.attacker || !target.isAlive
  · unfold attack at run
    rw [run_get_bind, granted, settle_ok, run_pure_bind, there, settle_ok, run_pure_bind,
      if_pos unfit] at run
    cases run
  rcases carried : Strike.carryOut ⟨before.rules, before.sources, request,
      .assess before.field attacker target, attacker.name, target.name⟩
      (before.opening .onAttack request.attacker (some request.target) request.tier)
    with ⟨error | other, resolved⟩
  · unfold attack at run
    rw [run_get_bind, granted, settle_ok, run_pure_bind, there, settle_ok, run_pure_bind,
      if_neg unfit] at run
    cases run.symm.trans (run_bind_error (run_resolving carried))
  · rw [attack_of_run granted there unfit carried] at run
    obtain ⟨same, rfl⟩ := Prod.mk.inj run
    obtain rfl := Except.ok.inj same
    exact ⟨attacker, target, resolved, rfl, rfl, unfit, carried, rfl⟩

/-- An attack that is granted is carried out. -/
theorem attack_of_granted (before : Combat) (stock : before.rules.Stock) (request : AttackRequest)
    {attacker target : Combatant} (granted : before.requireAction request.attacker = .ok attacker)
    (there : before.field.require request.target = .ok target)
    (fit : ¬(request.target == request.attacker || !target.isAlive)) :
    ∃ report after, attack request before = (.ok report, after) ∧
      AttackRun request before (.ok report, after) := by
  obtain ⟨running, found⟩ := Combat.requireAction_eq_ok granted
  have ready : (before.opening .onAttack request.attacker (some request.target)
      request.tier).Ready request.attacker (some request.target) := by
    refine Combat.ready_opening (present_of_find? found) fun id aim => ?_
    obtain rfl := Option.some.inj aim
    exact present_of_find? (require_eq_ok.mp there)
  obtain ⟨report, resolved, run, who, ends⟩ := Strike.run_carryOut
    ⟨before.rules, before.sources, request, .assess before.field attacker target,
      attacker.name, target.name⟩ stock ready
  exact ⟨report, _, attack_of_run granted there fit run, .made running rfl rfl rfl who ends⟩

theorem run_attack (stock : before.rules.Stock) (request : AttackRequest) :
    AttackRun request before (attack request before) := by
  rcases granted : before.requireAction request.attacker with error | attacker
  · unfold attack
    rw [run_get_bind, granted]
    exact .refused error
  rcases there : before.field.require request.target with error | target
  · unfold attack
    rw [run_get_bind, granted, settle_ok, run_pure_bind, there]
    exact .refused error
  by_cases unfit : request.target == request.attacker || !target.isAlive
  · unfold attack
    rw [run_get_bind, granted, settle_ok, run_pure_bind, there, settle_ok, run_pure_bind, if_pos unfit]
    exact .refused (.invalidTarget target.name)
  · obtain ⟨report, after, run, made⟩ := attack_of_granted before stock request granted there unfit
    rw [run]
    exact made

/-- What comes of an ability. -/
inductive ActivationRun (activation : Activation) (before : Combat) :
    Except Error ActivationReport × Combat → Prop
  | refused (error : Error) : ActivationRun activation before (.error error, before)
  | made {actor : Combatant} {report : ActivationReport} {resolved : Resolution}
      (running : before.state = .active) (found : before.field.find? activation.actor = some actor)
      (who : report.actor = activation.actor)
      (ends : Ends (before.opening .activate activation.actor activation.target activation.tier)
        (before.rules.resolveAll (activation.orderedEffects before.rules) (activation.opened actor
          (before.opening .activate activation.actor activation.target activation.tier))).2
        report.aborted report.damage resolved) :
      ActivationRun activation before (.ok report,
        ({ before with field := resolved.field, dice := resolved.dice } : Combat).afterActivation
          activation report)

/-- An ability that is granted is carried out. -/
theorem activate_of_granted (stock : before.rules.Stock) {activation : Activation}
    {actor : Combatant} (granted : before.requireAction activation.actor = .ok actor)
    (aimed : ∀ id, activation.target = some id → before.field.Present id) :
    ∃ report after, activate activation before = (.ok report, after) ∧
      ActivationRun activation before (.ok report, after) := by
  obtain ⟨running, found⟩ := Combat.requireAction_eq_ok granted
  have ready : (before.opening .activate activation.actor activation.target
      activation.tier).Ready activation.actor activation.target :=
    Combat.ready_opening (present_of_find? found) aimed
  obtain ⟨one, report, resolved, there, run, who, ends⟩ :=
    Activation.run_carryOut before.sources stock ready
  refine ⟨report, _, ?_, .made running there who ends⟩
  unfold activate
  rw [run_get_bind, granted, settle_ok, run_pure_bind]
  rcases aim : activation.target with _ | target
  · rw [aim] at run
    exact run_bind_ok (run_resolving run)
  · obtain ⟨other, found'⟩ := (aimed target aim).find?
    simp only [require_eq_ok.mpr found', settle_ok, run_pure_bind]
    rw [aim] at run
    exact run_bind_ok (run_resolving run)

theorem run_activate (stock : before.rules.Stock) (activation : Activation) :
    ActivationRun activation before (activate activation before) := by
  rcases granted : before.requireAction activation.actor with error | actor
  · unfold activate
    rw [run_get_bind, granted]
    exact .refused error
  -- Once the target is known to be there, if there is one, nothing can fail.
  have carried : (∀ id, activation.target = some id → before.field.Present id) →
      ActivationRun activation before (activate activation before) := fun aimed => by
    obtain ⟨report, after, run, made⟩ := activate_of_granted stock granted aimed
    rw [run]
    exact made
  rcases aim : activation.target with _ | target
  · exact carried fun id eq => absurd (aim.symm.trans eq) (by simp)
  · rcases there : before.field.require target with error | _
    · unfold activate
      rw [run_get_bind, granted, settle_ok, run_pure_bind]
      simp only [aim, there, settle_error, run_throw_bind]
      exact .refused error
    · exact carried fun id eq => by
        obtain rfl := Option.some.inj (aim.symm.trans eq)
        exact present_of_find? (require_eq_ok.mp there)

/-- What comes of a move. -/
inductive MoveRun (actor : CombatantId) (goal : Cell) (before : Combat) :
    Except Error MoveReport × Combat → Prop
  | refused (error : Error) : MoveRun actor goal before (.error error, before)
  | made {start : Cell} {middle : Battlefield} {report : MoveReport} {events : List Event}
      (running : before.state = .active) (placed : before.field.place actor goal = .ok middle) :
      MoveRun actor goal before (.ok report, { before with
        field := middle.update actor fun mover =>
          { mover with facing := .toward start goal, turn.moved := true }
        events })

theorem run_move (before : Combat) (actor : CombatantId) (goal : Cell) :
    MoveRun actor goal before (move actor goal before) := by
  unfold move
  rw [run_get_bind]
  rcases granted : before.requireTurn actor with error | mover
  · exact .refused error
  rw [settle_ok, run_pure_bind]
  split
  · exact .refused _
  rcases before.refusal? mover goal with _ | reason
  · rcases placed : before.field.place actor goal with error | middle
    · simp only [settle_error, run_throw_bind]
      exact .refused error
    · simp only [settle_ok, run_pure_bind]
      exact .made (Combat.requireTurn_eq_ok granted).1 placed
  · exact .refused _

/-- What comes of holding the contest that is due. -/
inductive ClashRun (before : Combat) : Except Error ClashReport × Combat → Prop
  | refused (error : Error) : ClashRun before (.error error, before)
  | failed {pending : PendingClash} {scene : Scene} (error : Error)
      (due : before.state = .clash pending)
      (settles : Contest.Settles before.field scene.field (.error error)) :
      ClashRun before (.error error, { before with field := scene.field, dice := scene.dice })
  | held {pending : PendingClash} {scene : Scene} {report : ClashReport} {events : List Event}
      (due : before.state = .clash pending)
      (settles : Contest.Settles before.field scene.field (.ok report)) :
      ClashRun before (.ok report, ({ before with
        field := scene.field, dice := scene.dice, state := .active, events } : Combat).checkFinished)

/-- A contest that is due ends as its holding does. -/
theorem resolveClash_of_run {pending : PendingClash} (due : before.state = .clash pending)
    (stat : Option Stat) {report : ClashReport} {scene : Scene}
    (run : Contest.hold before.config before.clashTable pending (stat.getD pending.stat)
      { field := before.field, dice := before.dice } = (.ok report, scene)) :
    ∃ events, resolveClash stat before = (.ok report, ({ before with
      field := scene.field, dice := scene.dice, state := .active, events } : Combat).checkFinished) := by
  unfold resolveClash
  rw [run_get_bind]
  simp only [due]
  rw [run_bind_ok (run_contesting run)]
  exact ⟨_, rfl⟩

/-- A contest that fails leaves the field and the dice as it did. -/
theorem resolveClash_of_failed {pending : PendingClash} (due : before.state = .clash pending)
    {stat : Option Stat} {error : Error} {scene : Scene}
    (run : Contest.hold before.config before.clashTable pending (stat.getD pending.stat)
      { field := before.field, dice := before.dice } = (.error error, scene)) :
    resolveClash stat before
      = (.error error, { before with field := scene.field, dice := scene.dice }) := by
  have contested := run_contesting run
  cases before
  subst due
  unfold resolveClash
  rw [run_get_bind]
  exact run_bind_error contested

theorem run_resolveClash (before : Combat) (stat : Option Stat) :
    ClashRun before (resolveClash stat before) := by
  rcases state : before.state with _ | _ | pending | _
  case clash =>
    have settles := Contest.settles_hold before.config before.clashTable pending
      (stat.getD pending.stat) { field := before.field, dice := before.dice }
    rcases run : Contest.hold before.config before.clashTable pending (stat.getD pending.stat)
        { field := before.field, dice := before.dice } with ⟨error | report, scene⟩
    · rw [run] at settles
      rw [resolveClash_of_failed state run]
      exact .failed error state settles
    · obtain ⟨events, eq⟩ := resolveClash_of_run state stat run
      rw [run] at settles
      rw [eq]
      exact .held state settles
  all_goals
    unfold resolveClash
    rw [run_get_bind]
    simp only [state]
    exact .refused _

/-- What comes of ending a turn. -/
inductive TurnRun (before : Combat) : Except Error TurnReport × Combat → Prop
  | refused (error : Error) : TurnRun before (.error error, before)
  | ended {report : TurnReport} {field : Battlefield} {index round : Nat} {events : List Event}
      (running : before.state = .active) (evolves : before.field.Evolves field)
      (inside : before.order.index < before.order.slots.length →
        index < before.order.slots.length) :
      TurnRun before (.ok report, ({ before with
        field, order := { before.order with index }, round, events } : Combat).checkFinished)

/-- While turns are taken, ending one hands over to the next. -/
theorem endTurn_of_active (running : before.state = .active) :
    ∃ events, endTurn before = (.ok { (before.advance.seekActor before.order.wraps).1 with
        newRound := (before.advance.seekActor before.order.wraps).1.newRound || before.order.wraps },
      ({ (before.advance.seekActor before.order.wraps).2 with events } : Combat).checkFinished) := by
  unfold endTurn
  rw [run_get_bind]
  simp only [Combat.requireRunning, running, settle_ok, run_pure_bind]
  exact ⟨_, rfl⟩

theorem run_endTurn (before : Combat) : TurnRun before (endTurn before) := by
  rcases state : before.state with _ | _ | _ | _
  case active =>
    obtain ⟨events, run⟩ := endTurn_of_active state
    obtain ⟨field, index, round, eq, evolves, inside⟩ :=
      before.advance.seekActor_eq before.order.wraps
    obtain ⟨next, advances, inside'⟩ := before.order.advance_eq
    simp only [Combat.advance, advances] at eq evolves inside run
    rw [run, eq]
    exact .ended state evolves fun within => inside (inside' within)
  all_goals
    unfold endTurn
    rw [run_get_bind]
    simp only [Combat.requireRunning, state]
    exact .refused _

/-! ### Joining and starting -/

/-- What comes of somebody's wish to join. -/
inductive JoinRun (newcomer : Combatant) (before : Combat) :
    Except Error CombatantId × Combat → Prop
  | refused (error : Error) : JoinRun newcomer before (.error error, before)
  | joined {field : Battlefield} {dice : Dice} {order : TurnOrder}
      (going : ¬before.isOver) (added : before.field.add newcomer = .ok field)
      (last : before.state ≠ .setup → ∃ score, order = before.order.push newcomer.id score) :
      JoinRun newcomer before (.ok newcomer.id, { before with field, dice, order })

/-- Whoever joins a fight underway stands on the field and goes to the end of the order. -/
theorem addCombatant_of_added {newcomer : Combatant} {field : Battlefield}
    (going : ¬before.isOver) (underway : before.state ≠ .setup)
    (added : before.field.add newcomer = .ok field) :
    let rolled := ({ before with field } : Combat).initiative newcomer
    addCombatant newcomer before = (.ok newcomer.id,
      { rolled.2 with order := rolled.2.order.push newcomer.id rolled.1 }) := by
  have started : (before.state != .setup) = true := by simpa using underway
  have run : (modifyGet fun combat => combat.initiative newcomer : Fight Int) { before with field }
      = (.ok (({ before with field } : Combat).initiative newcomer).1,
        (({ before with field } : Combat).initiative newcomer).2) := rfl
  unfold addCombatant
  rw [run_get_bind, if_neg going]
  simp only [run_get_bind, added, settle_ok, run_pure_bind, run_modify_bind, started, ↓reduceIte]
  rw [run_bind_ok run]
  rfl

theorem run_addCombatant (before : Combat) (newcomer : Combatant) :
    JoinRun newcomer before (addCombatant newcomer before) := by
  by_cases ended : before.isOver
  · unfold addCombatant
    rw [run_get_bind, if_pos ended]
    exact .refused .combatOver
  rcases added : before.field.add newcomer with error | field
  · unfold addCombatant
    rw [run_get_bind, if_neg ended]
    simp only [run_get_bind, added]
    exact .refused error
  by_cases fresh : before.state = .setup
  · have waits : ¬(before.state != .setup) = true := by simpa using fresh
    unfold addCombatant
    rw [run_get_bind, if_neg ended]
    simp only [run_get_bind, added, settle_ok, run_pure_bind, run_modify_bind, waits,
      Bool.false_eq_true, ↓reduceIte]
    exact .joined ended added fun started => absurd fresh started
  · obtain ⟨score, dice, rolled⟩ := Combat.initiative_eq { before with field } newcomer
    rw [addCombatant_of_added ended fresh added, rolled]
    exact .joined ended added fun _ => ⟨score, rfl⟩

/-- What comes of starting the fight. -/
inductive StartRun (before : Combat) : Except Error TurnReport × Combat → Prop
  | refused (error : Error) : StartRun before (.error error, before)
  | begun {report : TurnReport} {field : Battlefield} {dice : Dice} {index round : Nat}
      {events : List Event} (fresh : before.state = .setup) (manned : before.field.roster ≠ [])
      (evolves : before.field.Evolves field)
      (inside : 0 < (TurnOrder.ofSlots (before.rollSlots before.field.roster).1).slots.length →
        index < (TurnOrder.ofSlots (before.rollSlots before.field.roster).1).slots.length) :
      StartRun before (.ok report, ({ before with
        field
        dice
        order := { TurnOrder.ofSlots (before.rollSlots before.field.roster).1 with index }
        round
        state := .active
        events } : Combat).checkFinished)

/-- The fight as its first turn is sought. -/
def opened (before : Combat) : Combat :=
  { (before.rollSlots before.field.roster).2 with
    order := .ofSlots (before.rollSlots before.field.roster).1
    round := 1
    state := .active }

/-- Before the start, whoever is there begins the first round. -/
theorem start_of_setup (fresh : before.state = .setup) (manned : ¬before.field.roster.isEmpty) :
    ∃ log events, start before = (.ok { ((opened before).seekActor false).1 with log },
      ({ ((opened before).seekActor false).2 with events } : Combat).checkFinished) := by
  unfold start
  rw [run_get_bind]
  simp only [fresh, manned, bne_self_eq_false, Bool.false_eq_true, ↓reduceIte]
  exact ⟨_, _, rfl⟩

/-- Where initiative is fixed and in order, and the first one stands on safe ground, a fight of
several teams starts without further changes. -/
theorem start_of_sorted (slots : List Slot) (id : CombatantId) (one : Combatant)
    (fresh : before.state = .setup) (rolled : before.rollSlots before.field.roster = (slots, before))
    (sorted : slots.Pairwise fun first second => second.score ≤ first.score)
    (first : slots.head?.map (·.combatant) = some id) (found : before.field.find? id = some one)
    (alive : one.isAlive) (safe : before.field.terrain.hazard? one.position = none)
    (idle : one.turn = {}) (contested : ¬before.field.teamsStanding.length ≤ 1) :
    ∃ report events, start before = (.ok report,
      { before with order := ⟨slots, 0⟩, round := 1, state := .active, events }) := by
  have manned : ¬before.field.roster.isEmpty := fun empty => by
    have none : before.field.roster = [] := by simpa using empty
    simp [find?, none] at found
  obtain ⟨told, events, run⟩ := start_of_setup fresh manned
  have opens : opened before
      = { before with order := ⟨slots, 0⟩, round := 1, state := .active } := by
    unfold opened
    rw [rolled, TurnOrder.ofSlots_of_sorted sorted]
  have current : (opened before).order.current? = some id := by
    rw [opens]
    simpa [TurnOrder.current?, List.head?_eq_getElem?] using first
  have field : (opened before).field = before.field := by rw [opens]
  have up : (opened before).isAlive id = true := by simp [Combat.isAlive, field, found, alive]
  obtain ⟨log, begins⟩ := (opened before).beginTurn_eq id false
  rw [field, begun_of_safe found safe idle, ← field] at begins
  have sought : ((opened before).seekActor false).2 = opened before := by
    unfold Combat.seekActor Combat.seek
    simp only [current, up, ↓reduceIte, begins]
  refine ⟨{ ((opened before).seekActor false).1 with log := told }, events, ?_⟩
  rw [run, sought, opens]
  exact congrArg (Prod.mk _) (if_neg fun decided => contested decided.2)

theorem run_start (before : Combat) : StartRun before (start before) := by
  by_cases fresh : before.state = .setup
  · by_cases manned : before.field.roster.isEmpty
    · unfold start
      rw [run_get_bind]
      simp only [fresh, manned, bne_self_eq_false, Bool.false_eq_true, ↓reduceIte]
      exact .refused .noCombatants
    · obtain ⟨log, events, run⟩ := start_of_setup fresh manned
      obtain ⟨slots, dice, rolled⟩ := before.rollSlots_eq before.field.roster
      obtain ⟨field, index, round, eq, evolves, inside⟩ := (opened before).seekActor_eq false
      simp only [opened, rolled] at eq evolves inside run
      rw [run, eq]
      have slots : (before.rollSlots before.field.roster).1 = slots := by rw [rolled]
      rw [← slots] at inside ⊢
      exact .begun fresh (by simpa using manned) evolves inside
  · have started : (before.state != .setup) = true := by simpa using fresh
    unfold start
    rw [run_get_bind, if_pos started]
    exact .refused .alreadyStarted

end Fight

end Skirmish
