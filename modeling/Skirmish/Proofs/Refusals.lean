/-
**What is refused leaves no trace**, but for one case: a contest whose loser has been driven back before
it shows that the winner cannot follow.

* `Combat.Jams`: settling a contest comes to that;
* `Combat.Poised`: a contest that is due is one of two who are on the field. `Poised.after`: whatever is
  done leaves it so, since only attacks lead to contests (`clash_after`);
* `Poised.jams_iff`: what one operation does that is refused, and from it, what a run does.
-/

import Skirmish.Proofs.Clashes
import Skirmish.Proofs.Costs
import Skirmish.Proofs.Crowding
import Skirmish.Proofs.Enrolment

namespace Skirmish

open Battlefield

namespace Combat

variable {combat : Combat} {pending : PendingClash}

/-! ### Contests that are due -/

/-- A contest pits two against each other who are on the field. -/
structure Pits (field : Battlefield) (pending : PendingClash) : Prop where
  ne : pending.attacker ≠ pending.defender
  attacker : field.Present pending.attacker
  defender : field.Present pending.defender

/-- The fight is orderly, and a contest that is due is one of two who are on the field. -/
structure Poised (combat : Combat) : Prop extends Orderly combat where
  pits : ∀ pending, combat.state = .clash pending → Pits combat.field pending

theorem state_of_checkFinished (due : combat.checkFinished.state = .clash pending) :
    combat.state = .clash pending := by
  unfold checkFinished at due
  split at due
  · cases due
  · exact due

theorem Opens.poised (opens : combat.Opens) : combat.Poised := by
  refine ⟨opens.orderly, fun pending due => ?_⟩
  rw [opens.state] at due
  cases due

/-- A contest that an attack leads to is one of the attacker and its target. -/
theorem clash_attack (stock : combat.rules.Stock) {request : AttackRequest}
    (due : (Fight.attack request combat).2.state = .clash pending) :
    combat.state = .clash pending ∨ Pits combat.field pending := by
  rcases run : Fight.attack request combat with ⟨error | report, after⟩
  · have ran := Fight.run_attack stock request
    rw [run] at ran due
    cases ran
    exact .inl due
  · obtain ⟨attacker, target, resolved, granted, there, fit, -, rfl⟩ := Fight.attack_eq_ok run
    obtain ⟨running, found⟩ := requireAction_eq_ok granted
    rw [run] at due
    unfold afterAttack at due
    dsimp only at due
    split at due
    · cases running.symm.trans due
    · have due := state_of_checkFinished due
      simp only [record] at due
      split at due
      · obtain rfl := CombatState.clash.inj due
        have apart : request.target ≠ request.attacker := fun same => fit (by simp [same])
        exact .inr ⟨apart.symm, present_of_find? found,
          present_of_find? (require_eq_ok.mp there)⟩
      · exact .inl due

/-- Only an attack leads to a contest. -/
theorem clash_act (stock : combat.rules.Stock) {action : CombatAction}
    (due : (combat.after (.act action)).state = .clash pending) :
    combat.state = .clash pending ∨ Pits combat.field pending := by
  rw [after_act] at due
  cases action with
  | attack request =>
    rw [perform_attack] at due
    exact clash_attack stock due
  | activate activation =>
    have run := Fight.run_activate stock activation
    rw [perform_activate] at due
    generalize Fight.activate activation combat = result at run due
    cases run with
    | refused error => exact .inl due
    | @made actor report resolved running found who ends =>
      unfold afterActivation at due
      have due := state_of_checkFinished due
      simp only [record] at due
      split at due <;> exact .inl due
  | move actor goal =>
    have run := Fight.run_move combat actor goal
    rw [perform_move] at due
    generalize Fight.move actor goal combat = result at run due
    cases run <;> exact .inl due
  | resolveClash stat =>
    have run := Fight.run_resolveClash combat stat
    rw [perform_resolveClash] at due
    generalize Fight.resolveClash stat combat = result at run due
    cases run with
    | refused error => exact .inl due
    | failed error was settles => exact .inl due
    | held was settles => cases state_of_checkFinished due
  | endTurn =>
    have run := Fight.run_endTurn combat
    rw [perform_endTurn] at due
    generalize Fight.endTurn combat = result at run due
    cases run with
    | refused error => exact .inl due
    | ended running evolves inside =>
      have due := state_of_checkFinished due
      exact .inl due

/-- Whatever else is done, no contest comes due by it. -/
theorem clash_after (stock : combat.rules.Stock) (operation : Operation)
    (due : (combat.after operation).state = .clash pending) :
    combat.state = .clash pending ∨ Pits combat.field pending := by
  cases operation with
  | join newcomer =>
    have run := Fight.run_addCombatant combat newcomer
    rw [after_join] at due
    generalize Fight.addCombatant newcomer combat = result at run due
    cases run <;> exact .inl due
  | start =>
    have run := Fight.run_start combat
    rw [after_start] at due
    generalize Fight.start combat = result at run due
    cases run with
    | refused error => exact .inl due
    | begun => cases state_of_checkFinished due
  | act action => exact clash_act stock due
  | supply sources dice => exact .inl due

/-- Nobody leaves the field. -/
theorem present_after (stock : combat.rules.Stock) (operation : Operation) {id : CombatantId}
    (present : combat.field.Present id) : (combat.after operation).field.Present id := by
  cases operation with
  | join newcomer =>
    have run := Fight.run_addCombatant combat newcomer
    rw [after_join]
    generalize Fight.addCombatant newcomer combat = result at run
    cases run with
    | refused error => exact present
    | joined going added last =>
      obtain ⟨-, -, -, rfl⟩ := add_eq_ok added
      unfold Present
      rw [List.map_append]
      exact List.mem_append_left _ present
  | start =>
    have run := Fight.run_start combat
    rw [after_start]
    generalize Fight.start combat = result at run
    cases run with
    | refused error => exact present
    | begun fresh manned evolves inside =>
      rw [field_checkFinished]
      exact evolves.present.mpr present
  | supply sources dice => exact present
  | act action =>
    by_cases ends : action = .endTurn
    · subst ends
      have run := Fight.run_endTurn combat
      rw [after_act, perform_endTurn]
      generalize Fight.endTurn combat = result at run
      cases run with
      | refused error => exact present
      | ended running evolves inside =>
        rw [field_checkFinished]
        exact evolves.present.mpr present
    · unfold Present
      rw [(abides_act stock ends).ids]
      exact present

/-- **What one operation does to a contest that is due**: it stays one of two who are there. -/
theorem Poised.after (poised : combat.Poised) (operation : Operation) :
    (combat.after operation).Poised := by
  refine ⟨poised.toOrderly.after operation, fun pending due => ?_⟩
  obtain ⟨ne, attacker, defender⟩ : Pits combat.field pending :=
    (clash_after poised.stock operation due).elim (poised.pits pending) id
  exact ⟨ne, present_after poised.stock operation attacker,
    present_after poised.stock operation defender⟩

/-- Whoever wins a contest that is due, and whoever loses it, is on the field. -/
theorem Poised.sides (poised : combat.Poised) (due : combat.state = .clash pending)
    {attacker defender : Combatant} (found : combat.field.find? pending.attacker = some attacker)
    (found' : combat.field.find? pending.defender = some defender) (stat : Stat) :
    let sides := Contest.sides combat.config stat attacker defender combat.dice
    sides.1.id ≠ sides.2.id ∧ combat.field.find? sides.1.id = some sides.1 ∧
      combat.field.find? sides.2.id = some sides.2 := by
  have ne : attacker.id ≠ defender.id := by
    rw [id_of_find? found, id_of_find? found']
    exact (poised.pits pending due).ne
  rw [← id_of_find? found] at found
  rw [← id_of_find? found'] at found'
  rcases Contest.sides_eq combat.config stat attacker defender combat.dice with eq | eq
  · rw [eq]
    exact ⟨ne, found, found'⟩
  · rw [eq]
    exact ⟨ne.symm, found', found⟩

/-! ### Refusals -/

/-- Settling a contest drives the loser back from a cell on which a third one stands. -/
def Jams (combat : Combat) : Operation → Prop
  | .act (.resolveClash stat) => ∃ pending attacker defender,
      combat.state = .clash pending ∧
      combat.field.find? pending.attacker = some attacker ∧
      combat.field.find? pending.defender = some defender ∧
      combat.clashTable (stat.getD pending.stat).category = some .shove ∧
      let sides := Contest.sides combat.config (stat.getD pending.stat) attacker defender combat.dice
      Contest.Jams combat.field sides.1 sides.2
  | _ => False

end Combat

/-- A step is carried out, or refused and leaves the fight as it was. -/
inductive Fight.Clean {α : Type} (before : Combat) : Except Error α × Combat → Prop
  | done (value : α) (after : Combat) : Clean before (.ok value, after)
  | refused (error : Error) : Clean before (.error error, before)

namespace Fight

variable {before : Combat}

theorem Clean.wrap {α β : Type} {step : Fight α} (clean : Clean before (step before))
    (wrap : α → β) : Clean before ((step >>= fun value => pure (wrap value)) before) := by
  rw [run_wrap]
  generalize step before = result at clean
  cases clean with
  | done value after => exact .done (wrap value) after
  | refused error => exact .refused error

theorem JoinRun.clean {newcomer : Combatant} {result : Except Error CombatantId × Combat}
    (run : JoinRun newcomer before result) : Clean before result := by
  cases run with
  | refused error => exact .refused error
  | joined => exact .done _ _

theorem StartRun.clean {result : Except Error TurnReport × Combat} (run : StartRun before result) :
    Clean before result := by
  cases run with
  | refused error => exact .refused error
  | begun => exact .done _ _

theorem TurnRun.clean {result : Except Error TurnReport × Combat} (run : TurnRun before result) :
    Clean before result := by
  cases run with
  | refused error => exact .refused error
  | ended => exact .done _ _

theorem MoveRun.clean {actor : CombatantId} {goal : Cell}
    {result : Except Error MoveReport × Combat} (run : MoveRun actor goal before result) :
    Clean before result := by
  cases run with
  | refused error => exact .refused error
  | made => exact .done _ _

theorem AttackRun.clean {request : AttackRequest} {result : Except Error AttackReport × Combat}
    (run : AttackRun request before result) : Clean before result := by
  cases run with
  | refused error => exact .refused error
  | made => exact .done _ _

theorem ActivationRun.clean {activation : Activation}
    {result : Except Error ActivationReport × Combat} (run : ActivationRun activation before result) :
    Clean before result := by
  cases run with
  | refused error => exact .refused error
  | made => exact .done _ _

/-- Whether a contest that is due can be settled is known before anything is changed, unless a third
one is in the way of the winner. -/
theorem clean_resolveClash (poised : before.Poised) {stat : Option Stat}
    (passes : ¬before.Jams (.act (.resolveClash stat))) :
    Clean before (resolveClash stat before) := by
  rcases state : before.state with _ | _ | pending | _
  case clash =>
    obtain ⟨-, isAttacker, isDefender⟩ := poised.pits pending state
    obtain ⟨attacker, found⟩ := isAttacker.find?
    obtain ⟨defender, found'⟩ := isDefender.find?
    obtain ⟨report, dice, log, wins, loses, held⟩ :=
      Contest.run_hold before.config ⟨before.field, before.dice, []⟩ before.clashTable
        (stat.getD pending.stat) found found'
    obtain ⟨ne, there, there'⟩ := poised.sides state found found' (stat.getD pending.stat)
    have follows : ∃ after, Contest.follow before.config report.winner report.loser
        (before.clashTable (stat.getD pending.stat).category) ⟨before.field, dice, log⟩
          = (.ok (), after) := by
      rw [wins, loses]
      rcases follows : before.clashTable (stat.getD pending.stat).category with _ | consequence
      · exact ⟨_, rfl⟩
      · refine Contest.run_carryOut ne there there' before.config
          consequence poised.sound.distinct (grounded_of_find? poised.sound there')
          fun shoves jams => passes ?_
        exact ⟨pending, attacker, defender, state, found, found', shoves ▸ follows, jams⟩
    obtain ⟨after, run⟩ := follows
    rw [run_bind_ok run, run_get_bind, run_pure] at held
    obtain ⟨events, resolved⟩ := resolveClash_of_run state stat held
    rw [resolved]
    exact .done _ _
  all_goals
    unfold resolveClash
    rw [run_get_bind]
    simp only [state]
    exact .refused _

/-- A contest that jams is refused, and the loser has been driven back. -/
theorem resolveClash_of_jams (poised : before.Poised) {stat : Option Stat}
    (jams : before.Jams (.act (.resolveClash stat))) :
    ∃ error after, resolveClash stat before = (.error error, after) ∧ after ≠ before := by
  obtain ⟨pending, attacker, defender, state, found, found', shoves, jams⟩ := jams
  obtain ⟨ne, there, there'⟩ := poised.sides state found found' (stat.getD pending.stat)
  obtain ⟨report, dice, log, wins, loses, held⟩ :=
    Contest.run_hold before.config ⟨before.field, before.dice, []⟩ before.clashTable
      (stat.getD pending.stat) found found'
  rw [wins, loses, shoves] at held
  generalize Contest.sides before.config (stat.getD pending.stat) attacker defender before.dice
    = pair at *
  obtain ⟨winning, losing⟩ := pair
  have run : Contest.shove winning.id losing.id ⟨before.field, dice, log⟩ = _ :=
    Contest.run_shove_jammed ne there there' poised.sound.distinct
      (grounded_of_find? poised.sound there') jams
  refine ⟨.cellOccupied losing.position, { before with
    field := before.field.update losing.id
      (·.standing (Contest.beyond winning.position losing.position))
    dice }, ?_, fun same => ?_⟩
  · exact resolveClash_of_failed state (held.trans (run_bind_error run))
  · obtain ⟨free, third, mem, -, here⟩ := jams
    have moved : (before.field.update losing.id
        (·.standing (Contest.beyond winning.position losing.position))).find? losing.id
          = some (losing.standing (Contest.beyond winning.position losing.position)) :=
      find?_update_self there' fun _ => rfl
    have still : before.field.update losing.id
        (·.standing (Contest.beyond winning.position losing.position)) = before.field :=
      congrArg Combat.field same
    rw [still] at moved
    have stayed := congrArg Combatant.position (Option.some.inj (there'.symm.trans moved))
    exact (isFree_iff.mp free).2 third mem (here.trans stayed)

/-- **What is refused changes nothing**, but for a contest that jams. -/
theorem clean_run (poised : before.Poised) {operation : Operation}
    (passes : ¬before.Jams operation) : Clean before (operation.run before) := by
  cases operation with
  | join newcomer => exact (run_addCombatant _ newcomer).clean.wrap Reply.joined
  | start => exact (run_start _).clean.wrap Reply.started
  | supply sources dice => exact .done _ _
  | act action =>
    refine Clean.wrap ?_ Reply.acted
    cases action with
    | attack request => exact (run_attack poised.stock request).clean.wrap ActionOutcome.attack
    | activate activation =>
      exact (run_activate poised.stock activation).clean.wrap ActionOutcome.activation
    | move actor goal => exact (run_move _ actor goal).clean.wrap ActionOutcome.moved
    | resolveClash stat => exact (clean_resolveClash poised passes).wrap ActionOutcome.clash
    | endTurn => exact (run_endTurn _).clean.wrap ActionOutcome.turnEnded

end Fight

namespace Combat

variable {combat : Combat}

/-- What is refused and has changed something is a contest that jams, and the other way round. -/
theorem Poised.jams_iff (poised : combat.Poised) (operation : Operation) :
    ¬combat.Grants operation ∧ combat.after operation ≠ combat ↔ combat.Jams operation := by
  constructor
  · rintro ⟨refused, changed⟩
    by_contra passes
    have clean := Fight.clean_run poised passes
    unfold Grants at refused
    unfold Combat.after at changed
    generalize operation.run combat = result at *
    cases clean with
    | done value after => exact refused ⟨value, rfl⟩
    | refused error => exact changed rfl
  · intro jams
    cases operation with
    | join | start | supply => exact False.elim jams
    | act action =>
      cases action with
      | attack | activate | move | endTurn => exact False.elim jams
      | resolveClash stat =>
        obtain ⟨error, after, run, changed⟩ := Fight.resolveClash_of_jams poised jams
        refine ⟨fun ⟨reply, granted⟩ => ?_, ?_⟩
        · rw [run_act, perform_resolveClash, run] at granted
          cases granted
        · rw [after_act, perform_resolveClash, run]
          exact changed

/-- **What is refused leaves no trace**: in every state of a run, an operation that is refused leaves
the fight exactly as it was, its field, dice, order, round, state and record, unless it is a contest
that jams. -/
theorem refused_throughout (opens : combat.Opens) (operations : List Operation) :
    combat.Throughout (fun combat => ∀ operation,
      ¬combat.Grants operation ∧ combat.after operation ≠ combat ↔ combat.Jams operation)
      operations := by
  have keeps : ∀ combat operation, Poised combat → (combat.after operation).Poised :=
    fun _ operation poised => poised.after operation
  exact (throughout_of_keeps keeps opens.poised operations).imp fun _ poised => poised.jams_iff

/-- Before and after the start of the duel, only a contest that jams is refused with a trace. -/
theorem refused_throughout_start : duel.Throughout (fun combat => ∀ operation,
    ¬combat.Grants operation ∧ combat.after operation ≠ combat ↔ combat.Jams operation) [.start] :=
  refused_throughout opens_duel [.start]

/-! ### A contest that jams

Driven back from the cell on which a friend has come to stand, the fallen one leaves no room for the
winner. -/

namespace LastBlow

theorem jams_crowded (events : List Event) :
    (((impasse events).after (.act (.attack lastBlow))).after (.join cole)).Jams
      (.act (.resolveClash none)) := by
  obtain ⟨state, field, dice, config, table⟩ := after_join events
  have facts : (crowded.find? ⟨1⟩).any fun attacker => (crowded.find? ⟨2⟩).any fun defender =>
      let sides := Contest.sides duel.config .might attacker defender struck.2.dice
      crowded.isFree (Contest.beyond sides.1.position sides.2.position) &&
        crowded.living.any fun third =>
          third.id != sides.2.id && third.position == sides.2.position := by
    decide +kernel
  obtain ⟨attacker, found, facts⟩ := (Option.any_eq_true _ _).mp facts
  obtain ⟨defender, found', facts⟩ := (Option.any_eq_true _ _).mp facts
  refine ⟨_, attacker, defender, state, by rw [field, found], by rw [field, found'], ?_, ?_⟩
  · rw [table]
    rfl
  · rw [field, dice, config]
    simpa [Contest.Jams] using facts

end LastBlow

/-- A refused operation may leave a trace. -/
theorem not_throughout_unchanged : ¬duel.Throughout (fun combat =>
    ∀ operation, ¬combat.Grants operation → combat.after operation = combat)
      [.start, .supply .empty deadlock, .act (.attack lastBlow), .join cole] := by
  intro unchanged
  have poised := (((opens_duel.poised.after .start).after (.supply .empty deadlock)).after
    (.act (.attack lastBlow))).after (.join cole)
  have last := unchanged.2.2.2.2
  obtain ⟨events, underway⟩ := after_start_duel
  rw [underway] at poised last
  obtain ⟨refused, changed⟩ := (poised.jams_iff _).mpr (LastBlow.jams_crowded events)
  exact changed (last _ refused)

end Combat

end Skirmish
