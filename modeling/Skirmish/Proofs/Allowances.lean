/-
**What a turn allows.** Over a whole run, only whose turn it is may act or move, and between the
beginnings of two turns one action and one move are granted at most.

* `Combat.TurnOf`: whose turn it is after a run, from the operation with which it began;
* `Combat.Spent`: an allowance that is used up stays so until a turn begins (`Spent.after`), and till
  then nothing uses it up again (`Spent.spares`);
* `Combat.stage`: before the start nobody acts, and from then on it is somebody's turn till the end;
* **`Combat.inTurn_of_setup`**: every run from before the start keeps to turns.
-/

import Skirmish.Proofs.Outcomes
import Skirmish.Proofs.Rounds

namespace Skirmish

open Battlefield

/-- What a turn allows once. -/
inductive Allowance where
  | action
  | move
deriving DecidableEq, Repr

/-- An allowance is used up. -/
def TurnUse.spent (use : TurnUse) : Allowance → Bool
  | .action => use.action
  | .move => use.moved

/-- Who wishes to act or to move. -/
def Operation.actor? : Operation → Option CombatantId
  | .act (.attack request) => some request.attacker
  | .act (.activate activation) => some activation.actor
  | .act (.move actor _) => some actor
  | .join _ | .start | .act _ | .supply _ _ => none

/-- An attack and an ability use up the action, unless they are given up, and a move uses up the
move. -/
def Reply.spends : Reply → Allowance → Bool
  | .acted (.attack report), .action => !report.aborted
  | .acted (.activation report), .action => !report.aborted
  | .acted (.moved _), .move => true
  | _, _ => false

/-! ### What is used up stays so -/

namespace Combatant

/-- A change of somebody that gives back nothing of what its turn allows. -/
structure Retains (one new : Combatant) : Prop where
  id : new.id = one.id
  spent : ∀ allowance, one.turn.spent allowance → new.turn.spent allowance

variable {one new : Combatant} {allowed : String → Prop}

instance : Std.Refl Retains := ⟨fun _ => ⟨rfl, fun _ spent => spent⟩⟩

instance : IsTrans Combatant Retains := ⟨fun _ _ _ first second =>
  ⟨second.id.trans first.id, fun allowance spent =>
    second.spent allowance (first.spent allowance spent)⟩⟩

theorem Engages.retains (engages : one.Engages allowed new) : one.Retains new := by
  cases engages with
  | treated treats =>
    obtain ⟨id, turn⟩ := Prod.mk.inj treats.seat
    exact ⟨id, fun _ spent => by rwa [turn]⟩
  | acted =>
    refine ⟨rfl, fun allowance spent => ?_⟩
    cases allowance with
    | action => rfl
    | move => exact spent
  | moved facing =>
    refine ⟨rfl, fun allowance spent => ?_⟩
    cases allowance with
    | action => exact spent
    | move => rfl

theorem Engaged.retains (engaged : one.Engaged allowed new) : one.Retains new := by
  have step : Engages allowed ≤ Retains := fun _ _ => Engages.retains
  exact Relation.reflTransGen_le_of_le step one new engaged

end Combatant

/-- Everyone is still there, and gets back nothing of what its turn allows. -/
def Battlefield.Retains (before after : Battlefield) : Prop :=
  ∀ one ∈ before.roster, ∃ new ∈ after.roster, one.Retains new

theorem Battlefield.Engaged.retains {before after : Battlefield} {allowed : String → Prop}
    (engaged : before.Engaged allowed after) : before.Retains after :=
  exists_mem_of_forall₂ (engaged.imp fun _ _ => Combatant.Engaged.retains)

theorem Battlefield.retains_refl (field : Battlefield) : field.Retains field :=
  fun one mem => ⟨one, mem, Std.Refl.refl one⟩

namespace Combat

variable {combat : Combat} {operation : Operation} {reply : Reply} {allowance : Allowance}
  {id : CombatantId}

/-- An operation on a fight that has been started gives back nothing, unless a turn is ended. -/
theorem Marshalled.retains (marshalled : combat.Marshalled)
    (other : ¬(operation = .act .endTurn ∧ combat.state = .active)) :
    combat.field.Retains (combat.after operation).field := by
  cases operation with
  | join newcomer =>
    have run := Fight.run_addCombatant combat newcomer
    rw [after_join]
    generalize Fight.addCombatant newcomer combat = result at run
    cases run with
    | refused error => exact combat.field.retains_refl
    | joined going added =>
      obtain ⟨-, -, -, rfl⟩ := add_eq_ok added
      exact fun one mem => ⟨one, List.mem_append_left _ mem, Std.Refl.refl one⟩
  | start =>
    have run := Fight.run_start combat
    rw [after_start]
    generalize Fight.start combat = result at run
    cases run with
    | refused error => exact combat.field.retains_refl
    | begun fresh => exact absurd fresh marshalled.started
  | supply sources dice => exact combat.field.retains_refl
  | act action =>
    by_cases ends : action = .endTurn
    · subst ends
      have run := Fight.run_endTurn combat
      rw [after_act, perform_endTurn]
      generalize Fight.endTurn combat = result at run
      cases run with
      | refused error => exact combat.field.retains_refl
      | ended running => exact absurd ⟨rfl, running⟩ other
    · exact (engaged_act marshalled.stock.mild lenient_all ends).retains

/-! ### Who is granted what -/

/-- What is answered is what was done. -/
theorem exists_of_reply? {α : Type} {step : Fight α} {wrap : α → Reply}
    (runs : operation.run combat = ((step combat).1.map wrap, (step combat).2))
    (told : combat.reply? operation = some reply) :
    ∃ value, step combat = (.ok value, combat.after operation) ∧ reply = wrap value := by
  rw [reply?, runs] at told
  rw [Combat.after, runs]
  rcases run : step combat with ⟨error | value, after⟩
  · rw [run] at told
    cases told
  · rw [run] at told
    exact ⟨value, rfl, (Option.some.inj told).symm⟩

theorem run_of_performs {α : Type} {step : Fight α} {wrap : α → ActionOutcome}
    {action : CombatAction}
    (performs : Fight.perform action combat = ((step combat).1.map wrap, (step combat).2)) :
    (Operation.act action).run combat
      = ((step combat).1.map fun value => .acted (wrap value), (step combat).2) := by
  rw [run_act, performs]
  cases (step combat).1 <;> rfl

/-- Only who wishes to act or to move uses something up. -/
theorem actor?_of_spends (told : combat.reply? operation = some reply)
    (spends : reply.spends allowance) : ∃ id, operation.actor? = some id := by
  cases operation with
  | join newcomer =>
    obtain ⟨id, -, rfl⟩ := exists_of_reply? (run_join newcomer) told
    cases spends
  | start =>
    obtain ⟨report, -, rfl⟩ := exists_of_reply? run_start told
    cases spends
  | supply sources dice =>
    obtain rfl := Option.some.inj told
    cases spends
  | act action =>
    cases action with
    | attack request => exact ⟨_, rfl⟩
    | activate activation => exact ⟨_, rfl⟩
    | move actor goal => exact ⟨_, rfl⟩
    | resolveClash stat =>
      obtain ⟨report, -, rfl⟩ := exists_of_reply? (run_of_performs (perform_resolveClash stat)) told
      cases spends
    | endTurn =>
      obtain ⟨report, -, rfl⟩ := exists_of_reply? (run_of_performs perform_endTurn) told
      cases spends

/-- What comes of an attack, an ability or a move that is granted: whoever it is by has its turn and
had left what is used up, and has it no more. -/
structure Acts (before : Combat) (id : CombatantId) (reply : Reply) (after : Combat) : Prop where
  turn : ∃ one, before.OnTurn id one ∧ ∀ allowance, reply.spends allowance →
    one.turn.spent allowance = false
  used : ∀ allowance, reply.spends allowance →
    ∃ one ∈ after.field.roster, one.id = id ∧ one.turn.spent allowance

theorem used_of_update {before middle after : Battlefield} {change : Combatant → Combatant}
    {one : Combatant} (found : before.find? id = some one)
    (treated : before.Treated (fun _ => True) middle) (eq : after = middle.update id change)
    (keeps : ∀ one, (change one).id = one.id) (uses : ∀ one, (change one).turn.spent allowance) :
    ∃ one ∈ after.roster, one.id = id ∧ one.turn.spent allowance := by
  subst eq
  have present : middle.Present id := by
    unfold Present
    rw [treated.ids]
    exact present_of_find? found
  obtain ⟨other, found⟩ := present.find?
  exact ⟨change other, mem_of_find? (find?_update_self found keeps),
    (keeps other).trans (id_of_find? found), uses other⟩

/-- An attack or an ability that is granted uses up the action, unless it is given up. -/
theorem acts_of_requireAction {one : Combatant} {field : Battlefield} {after : Combat} {aborted : Bool}
    (granted : combat.requireAction id = .ok one)
    (treated : combat.field.Treated (fun _ => True) field)
    (ends : after.field = if aborted then field
      else field.update id fun actor => { actor with turn.action := true })
    (spends : ∀ allowance, reply.spends allowance = (allowance == .action && !aborted)) :
    combat.Acts id reply after := by
  obtain ⟨turn, left⟩ := onTurn_of_requireAction granted
  have uses : ∀ allowance, reply.spends allowance → allowance = .action ∧ ¬aborted :=
    fun allowance spent => by simpa [spends] using spent
  refine ⟨⟨one, turn, fun allowance spent => ?_⟩, fun allowance spent => ?_⟩
  · obtain ⟨rfl, -⟩ := uses allowance spent
    exact left
  · obtain ⟨rfl, going⟩ := uses allowance spent
    rw [if_neg going] at ends
    exact used_of_update turn.found treated ends (fun _ => rfl) fun _ => rfl

/-- What is granted to whoever wishes to act or to move. -/
theorem acts_of_reply (stock : combat.rules.Stock) (told : combat.reply? operation = some reply)
    (wishes : operation.actor? = some id) : combat.Acts id reply (combat.after operation) := by
  cases operation with
  | join | start | supply => cases wishes
  | act action =>
    cases action with
    | attack request =>
      obtain rfl := Option.some.inj wishes
      obtain ⟨report, run, rfl⟩ := exists_of_reply? (run_of_performs (perform_attack request)) told
      obtain ⟨attacker, -, -, granted, -⟩ := Fight.attack_eq_ok run
      obtain ⟨field, treated, ends⟩ := Fight.attack_treats stock.mild lenient_all run
      exact acts_of_requireAction granted treated ends fun allowance => by cases allowance <;> rfl
    | activate activation =>
      obtain rfl := Option.some.inj wishes
      obtain ⟨report, run, rfl⟩ :=
        exists_of_reply? (run_of_performs (perform_activate activation)) told
      obtain ⟨actor, -, granted, -⟩ := Fight.activate_eq_ok run
      obtain ⟨field, treated, ends⟩ := Fight.activate_treats stock.mild lenient_all run
      exact acts_of_requireAction granted treated ends fun allowance => by cases allowance <;> rfl
    | move actor goal =>
      obtain rfl := Option.some.inj wishes
      obtain ⟨report, run, rfl⟩ := exists_of_reply? (run_of_performs (perform_move actor goal)) told
      obtain ⟨mover, middle, granted, left, placed, ends⟩ := Fight.move_eq_ok run
      have turn := onTurn_of_requireTurn granted
      refine ⟨⟨mover, turn, fun allowance spends => ?_⟩, fun allowance spends => ?_⟩
      all_goals cases allowance with
        | action => cases spends
        | move => ?_
      · exact left
      · exact used_of_update turn.found (treated_place placed) ends (fun _ => rfl) fun _ => rfl
    | resolveClash | endTurn => cases wishes

/-! ### An allowance that is used up -/

/-- The fight is over, or whose turn it is has used up an allowance. -/
def Spent (combat : Combat) (allowance : Allowance) : Prop :=
  combat.isOver ∨ ∃ one ∈ combat.field.roster, combat.order.current? = some one.id ∧
    one.turn.spent allowance

/-- What is used up is not used up again. -/
theorem Spent.spares (spent : combat.Spent allowance) (marshalled : combat.Marshalled)
    (told : combat.reply? operation = some reply) : ¬reply.spends allowance := by
  intro spends
  obtain ⟨id, wishes⟩ := actor?_of_spends told spends
  obtain ⟨one, turn, left⟩ := (acts_of_reply marshalled.stock told wishes).turn
  rcases spent with ended | ⟨other, mem, current, used⟩
  · exact not_isOver_of_active turn.running ended
  · have same : other.id = one.id := by
      rw [id_of_find? turn.found]
      exact Option.some.inj (current.symm.trans turn.current)
    obtain rfl := marshalled.distinct.eq_of_id mem (mem_of_find? turn.found) same
    rw [left allowance spends] at used
    cases used

/-- Where no turn passes, the slot stays the current one. -/
theorem Marshalled.current?_after (marshalled : combat.Marshalled) (idles : combat.Idles operation) :
    (combat.after operation).order.current? = combat.order.current? := by
  obtain ⟨later, slots⟩ := (enrolls_after marshalled.stock marshalled.started operation).slots
  have index : (combat.after operation).order.index = combat.order.index :=
    congrArg Prod.snd idles.place
  unfold TurnOrder.current?
  rw [index, ← slots, List.getElem?_append_left marshalled.inside]

/-- **What is used up stays so** until a turn begins. -/
theorem Spent.after (spent : combat.Spent allowance) (marshalled : combat.Marshalled)
    (untold : (combat.reply? operation).bind Reply.turn? = none) :
    (combat.after operation).Spent allowance := by
  by_cases ends : operation = .act .endTurn ∧ combat.state = .active
  · obtain ⟨rfl, running⟩ := ends
    have seeks := seeks_endTurn running marshalled.distinct fun _ => marshalled.mem_ids
    exact .inl (seeks.nobody (seeks.told.symm.trans untold))
  · rcases spent with ended | ⟨one, mem, current, used⟩
    · exact .inl ((enrolls_after marshalled.stock marshalled.started operation).ended ended)
    · obtain ⟨new, mem, retains⟩ := marshalled.retains ends one mem
      refine .inr ⟨new, mem, ?_, retains.spent allowance used⟩
      rw [marshalled.current?_after (marshalled.idles ends), retains.id]
      exact current

/-- **Whoever uses something up has used it up then.** -/
theorem Marshalled.spent_of_spends (marshalled : combat.Marshalled)
    (told : combat.reply? operation = some reply) (spends : reply.spends allowance) :
    (combat.after operation).Spent allowance := by
  obtain ⟨id, wishes⟩ := actor?_of_spends told spends
  have acts := acts_of_reply marshalled.stock told wishes
  obtain ⟨_, turn, -⟩ := acts.turn
  obtain ⟨one, mem, rfl, used⟩ := acts.used allowance spends
  have idles : combat.Idles operation := marshalled.idles fun ends => by
    rw [ends.1] at wishes
    cases wishes
  exact .inr ⟨one, mem, (marshalled.current?_after idles).trans turn.current, used⟩

/-! ### Before the start -/

/-- A fight under rules of the usual kind that has not been started. -/
structure Waits (combat : Combat) : Prop where
  stock : combat.rules.Stock
  fresh : combat.state = .setup
  distinct : combat.field.Distinct

/-- Before the start no action is granted. -/
theorem Waits.refuses (waits : combat.Waits) (action : CombatAction) :
    combat.after (.act action) = combat ∧ combat.reply? (.act action) = none := by
  rw [after_act, reply?, run_act]
  cases action with
  | attack request =>
    have run := Fight.run_attack waits.stock request
    rw [perform_attack]
    generalize Fight.attack request combat = result at run
    cases run with
    | refused error => exact ⟨rfl, rfl⟩
    | made running => cases waits.fresh.symm.trans running
  | activate activation =>
    have run := Fight.run_activate waits.stock activation
    rw [perform_activate]
    generalize Fight.activate activation combat = result at run
    cases run with
    | refused error => exact ⟨rfl, rfl⟩
    | made running => cases waits.fresh.symm.trans running
  | move actor goal =>
    have run := Fight.run_move combat actor goal
    rw [perform_move]
    generalize Fight.move actor goal combat = result at run
    cases run with
    | refused error => exact ⟨rfl, rfl⟩
    | made running => cases waits.fresh.symm.trans running
  | resolveClash stat =>
    have run := Fight.run_resolveClash combat stat
    rw [perform_resolveClash]
    generalize Fight.resolveClash stat combat = result at run
    cases run with
    | refused error => exact ⟨rfl, rfl⟩
    | failed error due => cases waits.fresh.symm.trans due
    | held due => cases waits.fresh.symm.trans due
  | endTurn =>
    have run := Fight.run_endTurn combat
    rw [perform_endTurn]
    generalize Fight.endTurn combat = result at run
    cases run with
    | refused error => exact ⟨rfl, rfl⟩
    | ended running => cases waits.fresh.symm.trans running

/-- A fight waits for its start, which seeks the first turn. -/
theorem Waits.after (waits : combat.Waits) (operation : Operation) :
    (combat.after operation).Waits ∧ (combat.reply? operation).bind Reply.turn? = none ∨
      combat.Seeks operation (Fight.opened combat) false ∧ (combat.after operation).Marshalled := by
  have rules := rules_after waits.stock operation
  cases operation with
  | join newcomer =>
    have run := Fight.run_addCombatant combat newcomer
    rw [after_join] at rules ⊢
    rw [reply?, run_join]
    generalize Fight.addCombatant newcomer combat = result at run rules
    cases run with
    | refused error => exact .inl ⟨waits, rfl⟩
    | joined going added =>
      exact .inl ⟨⟨rules ▸ waits.stock, waits.fresh, distinct_add added waits.distinct⟩, rfl⟩
  | start =>
    by_cases granted : combat.Grants .start
    · exact .inr ⟨seeks_start granted waits.distinct,
        marshalled_start waits.stock waits.distinct granted⟩
    · have run := Fight.run_start combat
      rw [Grants, run_start] at granted
      rw [after_start, reply?, run_start]
      generalize Fight.start combat = result at run granted
      cases run with
      | refused error => exact .inl ⟨waits, rfl⟩
      | begun => exact absurd ⟨_, rfl⟩ granted
  | supply sources dice => exact .inl ⟨⟨waits.stock, waits.fresh, waits.distinct⟩, rfl⟩
  | act action =>
    obtain ⟨same, untold⟩ := waits.refuses action
    rw [same, untold]
    exact .inl ⟨waits, rfl⟩

/-- Before the start nothing is used up, and by the start neither. -/
theorem Waits.spares (waits : combat.Waits) (told : combat.reply? operation = some reply) :
    ¬reply.spends allowance := by
  intro spends
  obtain ⟨id, wishes⟩ := actor?_of_spends told spends
  obtain ⟨one, turn, -⟩ := (acts_of_reply waits.stock told wishes).turn
  cases waits.fresh.symm.trans turn.running

/-! ### Between the beginnings of two turns -/

/-- Where no turn begins in a run, none begins with its first operation, and none later. -/
theorem turnsOver_cons {rest : List Operation} (none : combat.turnsOver (operation :: rest) = []) :
    (combat.reply? operation).bind Reply.turn? = Option.none ∧
      (combat.after operation).turnsOver rest = [] := by
  rw [turnsOver, filterMap_replies] at none
  obtain ⟨first, later⟩ := List.append_eq_nil_iff.mp none
  exact ⟨by simpa using first, later⟩

/-- How often something is used up in the course of a run. -/
def spendings (combat : Combat) (allowance : Allowance) (operations : List Operation) : Nat :=
  (combat.replies operations).countP (·.spends allowance)

theorem spendings_of_spares {rest : List Operation}
    (spares : ∀ reply, combat.reply? operation = some reply → ¬reply.spends allowance) :
    combat.spendings allowance (operation :: rest)
      = (combat.after operation).spendings allowance rest := by
  unfold spendings
  rw [replies, List.countP_append]
  rcases told : combat.reply? operation with _ | reply
  · simp
  · simp [spares reply told]

/-- What is used up is not used up until a turn begins. -/
theorem Spent.spendings (spent : combat.Spent allowance) (marshalled : combat.Marshalled)
    {operations : List Operation} (none : combat.turnsOver operations = []) :
    combat.spendings allowance operations = 0 := by
  induction operations generalizing combat with
  | nil => rfl
  | cons operation rest hyp =>
    obtain ⟨untold, later⟩ := turnsOver_cons none
    rw [spendings_of_spares fun reply told => spent.spares marshalled told]
    exact hyp (spent.after marshalled untold) (marshalled.after operation) later

/-- Until a turn begins, nothing is used up twice. -/
theorem Marshalled.spendings_le (marshalled : combat.Marshalled) {operations : List Operation}
    (none : combat.turnsOver operations = []) : combat.spendings allowance operations ≤ 1 := by
  induction operations generalizing combat with
  | nil => exact Nat.zero_le 1
  | cons operation rest hyp =>
    obtain ⟨untold, later⟩ := turnsOver_cons none
    have marshalled' := marshalled.after operation
    by_cases spares : ∀ reply, combat.reply? operation = some reply → ¬reply.spends allowance
    · rw [spendings_of_spares spares]
      exact hyp marshalled' later
    · obtain ⟨reply, told, spends⟩ : ∃ reply, combat.reply? operation = some reply ∧
          reply.spends allowance := by simpa using spares
      have rest := (marshalled.spent_of_spends told spends).spendings marshalled' later
      unfold Combat.spendings at rest ⊢
      rw [replies, told, List.countP_append, rest]
      simp [spends]

/-- Nor is it before the start. -/
theorem Waits.spendings_le (waits : combat.Waits) {operations : List Operation}
    (none : combat.turnsOver operations = []) : combat.spendings allowance operations ≤ 1 := by
  induction operations generalizing combat with
  | nil => exact Nat.zero_le 1
  | cons operation rest hyp =>
    obtain ⟨-, later⟩ := turnsOver_cons none
    rw [spendings_of_spares fun reply => waits.spares]
    rcases waits.after operation with ⟨waits, -⟩ | ⟨-, marshalled⟩
    · exact hyp waits later
    · exact marshalled.spendings_le later

/-! ### Whose turn it is -/

/-- After a run it is somebody's turn: that turn has begun, none has begun since, and its holder has
been the current one all the time. -/
inductive TurnOf (combat : Combat) : List Operation → CombatantId → Prop
  | begins {past : List Operation} {operation : Operation} {turn : Turn}
      (told : ((combat.afterAll past).reply? operation).bind Reply.turn? = some turn)
      (current : ((combat.afterAll past).after operation).current? = some turn.actor) :
      TurnOf combat (past ++ [operation]) turn.actor
  | goesOn {past : List Operation} {operation : Operation} {id : CombatantId}
      (turn : TurnOf combat past id)
      (untold : ((combat.afterAll past).reply? operation).bind Reply.turn? = none)
      (current : ((combat.afterAll past).after operation).current? = some id) :
      TurnOf combat (past ++ [operation]) id

/-- How far a run has come: the fight waits for its start, it is somebody's turn, or it is over. -/
inductive Stage (combat : Combat) (past : List Operation) : Prop
  | waits (waits : (combat.afterAll past).Waits)
  | taken {id : CombatantId} (marshalled : (combat.afterAll past).Marshalled)
      (turn : combat.TurnOf past id)
  | ended (marshalled : (combat.afterAll past).Marshalled) (ended : (combat.afterAll past).isOver)

variable {past : List Operation}

theorem afterAll_concat (combat : Combat) (past : List Operation) (operation : Operation) :
    combat.afterAll (past ++ [operation]) = (combat.afterAll past).after operation :=
  List.foldl_concat ..

theorem TurnOf.current? (turn : combat.TurnOf past id) : (combat.afterAll past).current? = some id := by
  cases turn with
  | begins told current => rwa [afterAll_concat]
  | goesOn turn untold current => rwa [afterAll_concat]

theorem current?_of_going (started : combat.state ≠ .setup) (going : ¬combat.isOver) :
    combat.current? = combat.order.current? := by
  unfold current?
  rcases state : combat.state with _ | _ | pending | winner
  case setup => exact absurd state started
  case finished => exact absurd (by simp [isOver, state]) going
  all_goals rfl

theorem current?_of_due {turn : Turn} (due : combat.due? = some turn) :
    combat.order.current? = some turn.actor := by
  unfold due? at due
  obtain ⟨id, current, due⟩ := Option.bind_eq_some_iff.mp due
  obtain ⟨one, -, due⟩ := Option.bind_eq_some_iff.mp due
  split at due
  · obtain rfl := Option.some.inj due
    exact current
  · cases due

/-- Whose turn has been found has the current slot. -/
theorem Search.current? {calls : List Combat} {turn : Option Turn} {result : Combat}
    (search : Search combat calls turn result) :
    ∀ found, turn = some found → result.order.current? = some found.actor := by
  induction search with
  | stops combat => exact nofun
  | begins due field =>
    intro found eq
    obtain rfl := Option.some.inj eq
    have current := current?_of_due due
    exact current
  | passes idle rest hyp => exact hyp

theorem Seeks.current? {first : Combat} {tickDue : Bool} {turn : Turn}
    (seeks : combat.Seeks operation first tickDue) (found : first.found? tickDue = some turn) :
    (combat.after operation).order.current? = some turn.actor := by
  have index : (combat.after operation).order.index = (first.seekActor tickDue).2.order.index :=
    congrArg Prod.snd seeks.place
  rw [← seeks.search.current? turn found]
  unfold TurnOrder.current?
  rw [index, seeks.slots, slots_seekActor]

/-- Where a turn is sought, one begins unless the fight is over. -/
theorem stage_of_seeks {first : Combat} {tickDue : Bool}
    (seeks : (combat.afterAll past).Seeks operation first tickDue)
    (marshalled : ((combat.afterAll past).after operation).Marshalled) :
    combat.Stage (past ++ [operation]) := by
  have now := combat.afterAll_concat past operation
  by_cases ended : ((combat.afterAll past).after operation).isOver
  · exact .ended (now ▸ marshalled) (now ▸ ended)
  · rcases found : first.found? tickDue with _ | turn
    · exact absurd (seeks.nobody found) ended
    · refine .taken (now ▸ marshalled) (.begins (seeks.told.trans found) ?_)
      rw [current?_of_going marshalled.started ended, seeks.current? found]

/-- **Before the start nobody acts, and from then on it is somebody's turn till the end.** -/
theorem stage (waits : combat.Waits) (past : List Operation) : combat.Stage past := by
  induction past using List.reverseRecOn with
  | nil => exact .waits waits
  | append_singleton past operation hyp =>
    have now := combat.afterAll_concat past operation
    cases hyp with
    | waits waits =>
      rcases waits.after operation with ⟨waits, -⟩ | ⟨seeks, marshalled⟩
      · exact .waits (now ▸ waits)
      · exact stage_of_seeks seeks marshalled
    | ended marshalled ended =>
      have enrolls := enrolls_after marshalled.stock marshalled.started operation
      exact .ended (now ▸ marshalled.after operation) (now ▸ enrolls.ended ended)
    | taken marshalled turn =>
      have marshalled' := marshalled.after operation
      rcases marshalled.seeks_or_idles operation with seeks | idles
      · exact stage_of_seeks seeks marshalled'
      by_cases ended : ((combat.afterAll past).after operation).isOver
      · exact .ended (now ▸ marshalled') (now ▸ ended)
      · have enrolls := enrolls_after marshalled.stock marshalled.started operation
        have going : ¬(combat.afterAll past).isOver := fun gone => ended (enrolls.ended gone)
        refine .taken (now ▸ marshalled') (.goesOn turn idles.told ?_)
        rw [current?_of_going marshalled'.started ended, marshalled.current?_after idles,
          ← current?_of_going marshalled.started going]
        exact turn.current?

/-! ### Runs that keep to turns -/

/-- Turns are being taken, and somebody is alive and free to act. -/
structure Unhindered (combat : Combat) (id : CombatantId) : Prop where
  /-- In particular, no contest is due. -/
  running : combat.state = .active
  able : ∃ one, combat.field.find? id = some one ∧ one.isAlive ∧
    ¬one.hasCondition "Stunned" ∧ ¬one.hasCondition "Paralyzed"

theorem OnTurn.unhindered {one : Combatant} (turn : combat.OnTurn id one) :
    combat.Unhindered id := by
  refine ⟨turn.running, one, turn.found, ?_⟩
  simpa [Combatant.isIncapacitated, Combatant.incapacitating] using turn.able

/-- Nobody acts but in its turn, and not twice. -/
structure InTurn (combat : Combat) : Prop where
  /-- Whoever is granted an attack, an ability or a move, also one that is given up, has its turn and is
  free to act. -/
  granted : ∀ past operation id, operation.actor? = some id →
    (combat.afterAll past).Grants operation →
      combat.TurnOf past id ∧ (combat.afterAll past).Unhindered id
  /-- Until another turn begins, one action is used up at most, and one move. -/
  once : ∀ past during allowance, (combat.afterAll past).turnsOver during = [] →
    (combat.afterAll past).spendings allowance during ≤ 1

/-- **Every run keeps to turns**, from before the start on, under rules that are built from specs. -/
theorem inTurn_of_setup {specs : List RuleSpec}
    (built : RuleTable.ofSpecs .standard specs = .ok combat.rules)
    (fresh : combat.state = .setup) (distinct : combat.field.Distinct) : combat.InTurn := by
  have waits : combat.Waits := ⟨RuleTable.stock_of_specs built, fresh, distinct⟩
  refine ⟨fun past operation id wishes granted => ?_, fun past during allowance none => ?_⟩
  · obtain ⟨reply, granted⟩ := granted
    have told : (combat.afterAll past).reply? operation = some reply := by
      rw [reply?, granted]
      rfl
    cases stage waits past with
    | waits waits =>
      obtain ⟨one, turn, -⟩ := (acts_of_reply waits.stock told wishes).turn
      cases waits.fresh.symm.trans turn.running
    | ended marshalled ended =>
      obtain ⟨one, turn, -⟩ := (acts_of_reply marshalled.stock told wishes).turn
      exact absurd ended (not_isOver_of_active turn.running)
    | @taken holder marshalled taken =>
      obtain ⟨one, turn, -⟩ := (acts_of_reply marshalled.stock told wishes).turn
      have going := not_isOver_of_active turn.running
      have same : some holder = some id := by
        rw [← taken.current?, current?_of_going marshalled.started going, turn.current]
      obtain rfl := Option.some.inj same
      exact ⟨taken, turn.unhindered⟩
  · cases stage waits past with
    | waits waits => exact waits.spendings_le none
    | taken marshalled => exact marshalled.spendings_le none
    | ended marshalled => exact marshalled.spendings_le none

/-- So does the fight of the two. -/
theorem inTurn_duel : duel.InTurn := by
  have built : RuleTable.ofSpecs .standard Standard.specs = .ok duel.rules :=
    rules_duel ▸ Standard.built_table
  exact inTurn_of_setup built opens_duel.state opens_duel.filled.sound.distinct

end Combat

end Skirmish
