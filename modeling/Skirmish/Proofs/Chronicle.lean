/-
**The record of a fight.** Whatever is granted is put on record, once and in the round in which it
ends, and nothing else is:

* `CombatState.Precedes`: the steps from one state of a fight to the next;
* `Fight.Chronicled`: an operation is refused and leaves no trace in the record, or it is granted and
  logged;
* `Combat.chronicles`: what one operation does to the record, the round and the state;
* `Combat.chronicle_of_run`: along every run the record only grows, round by round.
-/

import Skirmish.Proofs.Enrolment
import Skirmish.Proofs.StandardTable

namespace Skirmish

/-! ### States -/

/-- A fight that something was done to can go from one state to another: it is begun, it is tied and
settled again, or it is decided. -/
inductive CombatState.Precedes : CombatState → CombatState → Prop
  | begun : Precedes .setup .active
  | goesOn : Precedes .active .active
  | tied (pending : PendingClash) : Precedes .active (.clash pending)
  | settled (pending : PendingClash) : Precedes (.clash pending) .active
  | decidedAtOnce (winner : Option String) : Precedes .setup (.finished winner)
  | decided (winner : Option String) : Precedes .active (.finished winner)
  | decidedByClash (pending : PendingClash) (winner : Option String) :
      Precedes (.clash pending) (.finished winner)

/-- Wherever turns can be taken next, the fight can also be decided. -/
theorem CombatState.Precedes.finish {state : CombatState} (precedes : state.Precedes .active)
    (winner : Option String) : state.Precedes (.finished winner) := by
  cases precedes with
  | begun => exact .decidedAtOnce winner
  | goesOn => exact .decided winner
  | settled pending => exact .decidedByClash pending winner

/-- Nothing leads back to before the start. -/
theorem CombatState.Precedes.started {state next : CombatState} (precedes : state.Precedes next) :
    next ≠ .setup := by
  rintro rfl
  cases precedes

/-- Nothing leads on from the end. -/
theorem CombatState.Precedes.going {state next : CombatState} (precedes : state.Precedes next)
    (winner : Option String) : state ≠ .finished winner := by
  rintro rfl
  cases precedes

namespace Combat

variable {before after : Combat}

/-! ### Traces in the record -/

/-- A change without a trace in the record. It does not touch the field of a fight that has ended. -/
structure Stays (before after : Combat) : Prop where
  events : after.events = before.events
  round : after.round = before.round
  state : after.state = before.state
  ended : before.isOver → after.field = before.field ∧ after.order = before.order

/-- A change that is put on record, in the round in which it ends. -/
structure Logs (before after : Combat) : Prop where
  events : ∃ event, after.events = before.events ++ [event] ∧ event.round = after.round
  round : before.round ≤ after.round
  precedes : before.state.Precedes after.state

theorem Stays.refl (combat : Combat) : combat.Stays combat :=
  ⟨rfl, rfl, rfl, fun _ => ⟨rfl, rfl⟩⟩

/-- Nothing is put on record once a fight has ended. -/
theorem Logs.not_isOver (logs : before.Logs after) : ¬before.isOver := by
  intro ended
  unfold isOver at ended
  split at ended
  case h_1 winner state => exact logs.precedes.going winner state
  case h_2 => cases ended

/-- What is recorded is logged. -/
theorem logs_record {middle : Combat} {actor : Option CombatantId} {action : String}
    {tier : Option AttackTier} {lines : List String} (events : middle.events = before.events)
    (round : before.round ≤ middle.round) (precedes : before.state.Precedes middle.state) :
    before.Logs (middle.record actor action tier lines) :=
  ⟨⟨_, congrArg (· ++ _) events, rfl⟩, round, precedes⟩

/-- What is done in between turns is recorded in the round it was done in. -/
theorem logs_record_of_active (running : before.state = .active) {middle : Combat}
    {actor : Option CombatantId} {action : String} {tier : Option AttackTier}
    {lines : List String} (events : middle.events = before.events)
    (round : middle.round = before.round) (state : middle.state = .active) :
    before.Logs (middle.record actor action tier lines) :=
  logs_record events (Nat.le_of_eq round.symm) (by rw [running, state]; exact .goesOn)

@[simp] theorem round_checkFinished (combat : Combat) :
    combat.checkFinished.round = combat.round := congrArg Prod.snd (clock_checkFinished combat)

@[simp] theorem events_checkFinished (combat : Combat) :
    combat.checkFinished.events = combat.events := by
  unfold checkFinished
  split <;> rfl

/-- What is logged may decide the fight. -/
theorem Logs.checkFinished (logs : before.Logs after) : before.Logs after.checkFinished where
  events := by simpa using logs.events
  round := by simpa using logs.round
  precedes := by
    unfold Combat.checkFinished
    split
    case isTrue decided => exact (decided.1 ▸ logs.precedes).finish _
    case isFalse => exact logs.precedes

/-! ### Rounds -/

/-- The next slot is in the same round or a later one. -/
theorem round_advance_le (combat : Combat) : combat.round ≤ combat.advance.round := by
  unfold advance
  dsimp only
  split <;> omega

/-- Seeking the next turn never goes back to an earlier round. -/
theorem round_seekActor_le (combat : Combat) (tickDue : Bool) :
    combat.round ≤ (combat.seekActor tickDue).2.round := by
  unfold seekActor
  exact seek_induction (fun now => combat.round ≤ now.round) (fun _ _ _ later => later)
    (fun now later => later.trans (round_advance_le now)) _ combat (Nat.le_refl combat.round) {}
    tickDue

/-- It touches neither record nor state. -/
theorem record_seekActor (combat : Combat) (tickDue : Bool) :
    (combat.seekActor tickDue).2.events = combat.events ∧
      (combat.seekActor tickDue).2.state = combat.state := by
  obtain ⟨field, index, round, sought, -, -⟩ := combat.seekActor_eq tickDue
  rw [sought]
  exact ⟨rfl, rfl⟩

end Combat

/-! ### Operations -/

namespace Fight

open Combat

variable {before : Combat}

/-- A step is refused without a trace in the record, or granted and logged. -/
inductive Chronicled {α : Type} (before : Combat) : Except Error α × Combat → Prop
  | refused {after : Combat} (error : Error) (stays : before.Stays after) :
      Chronicled before (.error error, after)
  | granted {after : Combat} (value : α) (logs : before.Logs after) :
      Chronicled before (.ok value, after)

/-- Wrapping an answer changes nothing about that. -/
theorem Chronicled.map {α β : Type} {result : Except Error α × Combat}
    (chronicled : Chronicled before result) (wrap : α → β) :
    Chronicled before (result.1.map wrap, result.2) := by
  cases chronicled with
  | refused error stays => exact .refused error stays
  | granted value logs => exact .granted (wrap value) logs

/-- The first turn is sought in the first round, and the start is recorded once it is found. -/
theorem logs_start (fresh : before.state = .setup) (unbegun : before.round = 0)
    (lines : List String) : before.Logs
      (((opened before).seekActor false).2.record none "Start" none lines).checkFinished := by
  obtain ⟨slots, dice, rolled⟩ := before.rollSlots_eq before.field.roster
  have opens : opened before = { before with
      dice, order := .ofSlots slots, round := 1, state := .active } := by
    unfold opened
    rw [rolled]
  obtain ⟨events, state⟩ := record_seekActor (opened before) false
  rw [opens] at events state
  rw [opens]
  refine Logs.checkFinished (logs_record events (by omega) ?_)
  rw [state, fresh]
  exact .begun

theorem chronicled_start (unbegun : before.state = .setup → before.round = 0) :
    Chronicled before (start before) := by
  by_cases fresh : before.state = .setup
  · by_cases manned : before.field.roster.isEmpty
    · unfold start
      rw [run_get_bind]
      simp only [fresh, manned, bne_self_eq_false, Bool.false_eq_true, ↓reduceIte]
      exact .refused .noCombatants (.refl before)
    · have logs := logs_start fresh (unbegun fresh)
      unfold start
      rw [run_get_bind]
      simp only [fresh, manned, bne_self_eq_false, Bool.false_eq_true, ↓reduceIte]
      exact .granted _ (logs _)
  · have started : (before.state != .setup) = true := by simpa using fresh
    unfold start
    rw [run_get_bind, if_pos started]
    exact .refused .alreadyStarted (.refl before)

theorem chronicled_endTurn : Chronicled before (endTurn before) := by
  rcases running : before.state with _ | _ | _ | _
  case active =>
    obtain ⟨events, state⟩ := record_seekActor before.advance before.order.wraps
    unfold endTurn
    rw [run_get_bind]
    simp only [requireRunning, running, settle_ok, run_pure_bind]
    refine .granted _ (Logs.checkFinished (logs_record ?_ ?_ ?_))
    · exact events
    · exact (round_advance_le before).trans (round_seekActor_le before.advance before.order.wraps)
    · rw [state, advance, running]
      exact .goesOn
  all_goals
    unfold endTurn
    rw [run_get_bind]
    simp only [requireRunning, running]
    exact .refused _ (.refl before)

theorem chronicled_move (actor : CombatantId) (goal : Cell) :
    Chronicled before (move actor goal before) := by
  unfold move
  rw [run_get_bind]
  rcases granted : before.requireTurn actor with error | mover
  · exact .refused error (.refl before)
  rw [settle_ok, run_pure_bind]
  split
  · exact .refused _ (.refl before)
  rcases before.refusal? mover goal with _ | reason
  · rcases before.field.place actor goal with error | middle
    · exact .refused error (.refl before)
    · have running := (requireTurn_eq_ok granted).1
      refine .granted _ (logs_record_of_active running ?_ ?_ ?_)
      exacts [rfl, rfl, running]
  · exact .refused _ (.refl before)

theorem chronicled_resolveClash (stat : Option Stat) :
    Chronicled before (resolveClash stat before) := by
  rcases due : before.state with _ | _ | pending | _
  case clash =>
    rcases run : Contest.hold before.config before.clashTable pending (stat.getD pending.stat)
        { field := before.field, dice := before.dice } with ⟨error | report, scene⟩
    · rw [resolveClash_of_failed due run]
      exact .refused error ⟨rfl, rfl, rfl, fun ended => by simp [isOver, due] at ended⟩
    · unfold resolveClash
      rw [run_get_bind]
      simp only [due]
      rw [run_bind_ok (run_contesting run)]
      refine .granted report (Logs.checkFinished (logs_record ?_ ?_ ?_))
      · rfl
      · exact Nat.le_refl before.round
      · rw [due]
        exact .settled pending
  all_goals
    unfold resolveClash
    rw [run_get_bind]
    simp only [due]
    exact .refused _ (.refl before)

/-- An attack that was made is recorded, and perhaps tied. -/
theorem logs_afterAttack (running : before.state = .active) (field : Battlefield) (dice : Dice)
    (request : AttackRequest) (name : String) (report : AttackReport) :
    before.Logs (({ before with field, dice } : Combat).afterAttack request name report) := by
  unfold afterAttack
  split
  · refine logs_record_of_active running ?_ ?_ ?_
    exacts [rfl, rfl, running]
  · refine Logs.checkFinished (logs_record ?_ ?_ ?_)
    · rfl
    · exact Nat.le_refl before.round
    · dsimp only
      rw [running]
      split
      · exact .tied _
      · exact .goesOn

theorem logs_afterActivation (running : before.state = .active) (field : Battlefield)
    (dice : Dice) (activation : Activation) (report : ActivationReport) :
    before.Logs (({ before with field, dice } : Combat).afterActivation activation report) := by
  unfold afterActivation
  refine Logs.checkFinished (logs_record_of_active running ?_ ?_ ?_)
  all_goals
    dsimp only
    split <;> first | rfl | exact running

theorem chronicled_attack (stock : before.rules.Stock) (request : AttackRequest) :
    Chronicled before (attack request before) := by
  have run := run_attack stock request
  generalize attack request before = result at run
  cases run with
  | refused error => exact .refused error (.refl before)
  | made running rules sources same who ends =>
    exact .granted _ (logs_afterAttack running _ _ request _ _)

theorem chronicled_activate (stock : before.rules.Stock) (activation : Activation) :
    Chronicled before (activate activation before) := by
  have run := run_activate stock activation
  generalize activate activation before = result at run
  cases run with
  | refused error => exact .refused error (.refl before)
  | made running found who ends =>
    exact .granted _ (logs_afterActivation running _ _ activation _)

theorem chronicled_perform (stock : before.rules.Stock) (action : CombatAction) :
    Chronicled before (perform action before) := by
  cases action with
  | attack request =>
    rw [perform_attack]
    exact (chronicled_attack stock request).map _
  | activate activation =>
    rw [perform_activate]
    exact (chronicled_activate stock activation).map _
  | move actor goal =>
    rw [perform_move]
    exact (chronicled_move actor goal).map _
  | resolveClash stat =>
    rw [perform_resolveClash]
    exact (chronicled_resolveClash stat).map _
  | endTurn =>
    rw [perform_endTurn]
    exact chronicled_endTurn.map _

/-- Nobody joins a fight that has ended, and no newcomer is recorded. -/
theorem stays_addCombatant (newcomer : Combatant) :
    before.Stays (addCombatant newcomer before).2 := by
  have run := run_addCombatant before newcomer
  generalize addCombatant newcomer before = result at run
  cases run with
  | refused error => exact .refl before
  | joined going added last => exact ⟨rfl, rfl, rfl, fun ended => absurd ended going⟩

end Fight

/-! ### Runs -/

/-- What is put on record when it is granted: everything but newcomers and supplies. -/
def Operation.isRecorded : Operation → Bool
  | .start | .act _ => true
  | .join _ | .supply _ _ => false

namespace Combat

variable {combat : Combat}

/-- What one operation does to the record, the round and the state of a fight. -/
structure Chronicles (before : Combat) (operation : Operation) : Prop where
  /-- What is granted is put on record. -/
  logs : operation.isRecorded → before.Grants operation → before.Logs (before.after operation)
  /-- What is refused is not, and newcomers and supplies never are. -/
  stays : ¬(operation.isRecorded ∧ before.Grants operation) →
    before.Stays (before.after operation)
  /-- Nothing changes once the fight has ended. -/
  ended : before.isOver →
    (before.after operation).field = before.field ∧
      (before.after operation).order = before.order ∧
      (before.after operation).round = before.round ∧
      (before.after operation).events = before.events ∧
      (before.after operation).state = before.state

/-- What is recorded is refused without a trace, or granted and logged. -/
theorem chronicled_run (stock : combat.rules.Stock)
    (unbegun : combat.state = .setup → combat.round = 0) {operation : Operation}
    (recorded : operation.isRecorded) : Fight.Chronicled combat (operation.run combat) := by
  cases operation with
  | join newcomer => cases recorded
  | supply sources dice => cases recorded
  | start =>
    rw [run_start]
    exact (Fight.chronicled_start unbegun).map _
  | act action =>
    rw [run_act]
    exact (Fight.chronicled_perform stock action).map _

/-- What is not recorded leaves no trace. -/
theorem stays_after {operation : Operation} (unrecorded : operation.isRecorded = false) :
    combat.Stays (combat.after operation) := by
  cases operation with
  | join newcomer =>
    rw [after_join]
    exact Fight.stays_addCombatant newcomer
  | supply sources dice => exact ⟨rfl, rfl, rfl, fun _ => ⟨rfl, rfl⟩⟩
  | start => cases unrecorded
  | act action => cases unrecorded

theorem chronicles (stock : combat.rules.Stock)
    (unbegun : combat.state = .setup → combat.round = 0) (operation : Operation) :
    combat.Chronicles operation := by
  have logs : operation.isRecorded → combat.Grants operation →
      combat.Logs (combat.after operation) := by
    rintro recorded ⟨reply, granted⟩
    have chronicled := chronicled_run stock unbegun recorded
    unfold after
    generalize operation.run combat = result at chronicled granted
    cases chronicled with
    | refused error stays => cases granted
    | granted value logs => exact logs
  have stays : ¬(operation.isRecorded ∧ combat.Grants operation) →
      combat.Stays (combat.after operation) := by
    intro silent
    rcases recorded : operation.isRecorded with _ | _
    case false => exact stays_after recorded
    case true =>
      have chronicled := chronicled_run stock unbegun recorded
      unfold Grants at silent
      unfold after
      generalize operation.run combat = result at chronicled silent
      cases chronicled with
      | refused error stays => exact stays
      | granted value logs => exact absurd ⟨recorded, value, rfl⟩ silent
  refine ⟨logs, stays, fun ended => ?_⟩
  have silent := stays fun ⟨recorded, granted⟩ => (logs recorded granted).not_isOver ended
  obtain ⟨field, order⟩ := silent.ended ended
  exact ⟨field, order, silent.round, silent.events, silent.state⟩

/-- The record of a fight is in order: its entries stand by their rounds, and none is of a round to
come. -/
structure Annals (combat : Combat) : Prop where
  stock : combat.rules.Stock
  unbegun : combat.state = .setup → combat.round = 0
  rising : (combat.events.map (·.round)).Pairwise (· ≤ ·)
  bounded : ∀ event ∈ combat.events, event.round ≤ combat.round

/-- One operation only adds to the record, and leaves it in order. -/
theorem Annals.after (annals : combat.Annals) (operation : Operation) :
    (combat.after operation).Annals ∧ combat.events <+: (combat.after operation).events := by
  obtain ⟨logs, stays, -⟩ := chronicles annals.stock annals.unbegun operation
  have stock : (combat.after operation).rules.Stock :=
    rules_after annals.stock operation ▸ annals.stock
  by_cases recorded : operation.isRecorded ∧ combat.Grants operation
  · obtain ⟨⟨event, events, now⟩, later, precedes⟩ := logs recorded.1 recorded.2
    have bounded : ∀ past ∈ combat.events, past.round ≤ event.round := fun past mem =>
      (annals.bounded past mem).trans (later.trans_eq now.symm)
    refine ⟨⟨stock, fun fresh => absurd fresh precedes.started, ?_, ?_⟩,
      events ▸ List.prefix_append ..⟩
    · rw [events, List.map_append, List.pairwise_append]
      refine ⟨annals.rising, List.pairwise_singleton .., ?_⟩
      simpa using bounded
    · rw [events, ← now]
      simpa [or_imp, forall_and] using bounded
  · obtain ⟨events, round, state, -⟩ := stays recorded
    refine ⟨⟨stock, ?_, ?_, ?_⟩, events ▸ List.prefix_rfl⟩
    · rw [state, round]
      exact annals.unbegun
    · rw [events]
      exact annals.rising
    · rw [events, round]
      exact annals.bounded

theorem Annals.afterAll (annals : combat.Annals) (operations : List Operation) :
    (combat.afterAll operations).Annals ∧
      combat.events <+: (combat.afterAll operations).events := by
  induction operations generalizing combat with
  | nil => exact ⟨annals, List.prefix_rfl⟩
  | cons operation rest hyp =>
    obtain ⟨annals', grows⟩ := annals.after operation
    obtain ⟨annals'', grows'⟩ := hyp annals'
    exact ⟨annals'', grows.trans grows'⟩

/-- **The record along a run**, under whatever rules the usual kinds of effects are built into. At any
point of a run of a new fight, the rounds of the entries rise and none is beyond the current one; the
next operation is put on record once if it is granted, and leaves no trace if not; and whatever comes
later, the entries stay as they are. -/
theorem chronicle_of_run {specs : List RuleSpec}
    (built : RuleTable.ofSpecs .standard specs = .ok combat.rules)
    (unbegun : combat.round = 0) (blank : combat.events = []) (operations : List Operation) :
    ((combat.afterAll operations).events.map (·.round)).Pairwise (· ≤ ·) ∧
      (∀ event ∈ (combat.afterAll operations).events,
        event.round ≤ (combat.afterAll operations).round) ∧
      (∀ operation, (combat.afterAll operations).Chronicles operation) ∧
      ∀ more, (combat.afterAll operations).events
        <+: (combat.afterAll (operations ++ more)).events := by
  have start : combat.Annals := by
    refine ⟨RuleTable.stock_of_specs built, fun _ => unbegun, ?_, ?_⟩
    all_goals simp [blank]
  have annals := (start.afterAll operations).1
  refine ⟨annals.rising, annals.bounded, chronicles annals.stock annals.unbegun, fun more => ?_⟩
  unfold Combat.afterAll
  rw [List.foldl_append]
  exact (annals.afterAll more).2

/-- The start of the fight of the two is its first entry, in the first round. -/
theorem chronicle_duel :
    RuleTable.ofSpecs .standard Standard.specs = .ok duel.rules ∧ duel.round = 0 ∧
      duel.events = [] ∧
      ∃ event, (duel.after .start).events = [event] ∧ event.round = 1 := by
  have built : RuleTable.ofSpecs .standard Standard.specs = .ok duel.rules :=
    rules_duel ▸ Standard.built_table
  refine ⟨built, rfl, rfl, ?_⟩
  obtain ⟨report, started, run⟩ := start_duel
  have granted : duel.Grants .start := ⟨.started report, by rw [run_start, run]; rfl⟩
  have now : duel.after .start = duelUnderway started := by rw [after_start, run]
  obtain ⟨-, -, chronicles, -⟩ := chronicle_of_run built rfl rfl []
  obtain ⟨event, events, round⟩ := ((chronicles .start).logs rfl granted).events
  exact ⟨event, events, round.trans (congrArg Combat.round now)⟩

end Combat

end Skirmish
