/-
**Who has a slot.** The order is made at the start and only grows at its end:

* `TurnOrder.lined_ofSlots`: the slots of the start stand by falling initiative, and equal ones as
  they were rolled;
* `Combat.Enrolls`: whatever is done to a fight that has been started keeps every slot where it is and
  gives one to whoever joins (`enrolls_after`);
* `Combat.Marshalled`: in a fight that has been started, the slots are those of the roster.
-/

import Skirmish.Proofs.Runs

namespace Skirmish

open Battlefield

/-! ### The slots of the start -/

namespace TurnOrder

/-- Slots stand by falling initiative, and equal ones in the order of some identities. -/
def Lined (ids : List CombatantId) (slots : List Slot) : Prop :=
  slots.Pairwise fun one other => other.score < one.score ∨
    other.score = one.score ∧ ids.idxOf one.combatant < ids.idxOf other.combatant

theorem perm_ofSlots (slots : List Slot) : (ofSlots slots).slots.Perm slots :=
  List.mergeSort_perm slots _

theorem falling_trans (one two three : Slot) (first : decide (two.score ≤ one.score))
    (second : decide (three.score ≤ two.score)) : decide (three.score ≤ one.score) := by
  rw [decide_eq_true_eq] at *
  exact Int.le_trans second first

theorem falling_total (one two : Slot) :
    (decide (two.score ≤ one.score) || decide (one.score ≤ two.score)) = true := by
  simpa using Int.le_total two.score one.score

theorem falling_ofSlots (slots : List Slot) :
    (ofSlots slots).slots.Pairwise fun one other => other.score ≤ one.score :=
  (List.pairwise_mergeSort falling_trans falling_total slots).imp of_decide_eq_true

/-- Slots of the same initiative stay as they are. -/
theorem filter_ofSlots (slots : List Slot) (score : Int) :
    (ofSlots slots).slots.filter (·.score = score) = slots.filter (·.score = score) := by
  have level : (slots.filter (·.score = score)).Pairwise fun first second =>
      decide (second.score ≤ first.score) := by
    refine List.pairwise_of_forall_mem_list fun one mem other mem' => ?_
    have same : one.score = score := by simpa using (List.mem_filter.mp mem).2
    have same' : other.score = score := by simpa using (List.mem_filter.mp mem').2
    simp [same, same']
  have keeps : (slots.filter (·.score = score)).Sublist (ofSlots slots).slots :=
    List.sublist_mergeSort falling_trans falling_total level List.filter_sublist
  have only := keeps.filter (·.score = score)
  rw [List.filter_filter] at only
  simp only [Bool.and_self] at only
  exact (only.eq_of_length ((perm_ofSlots slots).filter _).length_eq.symm).symm

/-- The order of some slots goes by falling initiative and then by their order. -/
theorem lined_ofSlots {slots : List Slot} (single : (slots.map (·.combatant)).Nodup) :
    Lined (slots.map (·.combatant)) (ofSlots slots).slots := by
  have rising : slots.Pairwise fun one other =>
      (slots.map (·.combatant)).idxOf one.combatant
        < (slots.map (·.combatant)).idxOf other.combatant := by
    refine List.pairwise_iff_getElem.mpr fun first second inside inside' lt => ?_
    have place : ∀ index (inside : index < slots.length),
        (slots.map (·.combatant)).idxOf slots[index].combatant = index := fun index inside => by
      have there := single.idxOf_getElem index (by simpa using inside)
      rwa [List.getElem_map] at there
    rwa [place first inside, place second inside']
  refine List.pairwise_iff_forall_sublist.mpr fun {one other} here => ?_
  have falls := List.pairwise_iff_forall_sublist.mp (falling_ofSlots slots) here
  rcases Int.lt_or_eq_of_le falls with lower | level
  · exact .inl lower
  · have both := here.filter (·.score = one.score)
    rw [filter_ofSlots] at both
    have kept : [one, other].filter (·.score = one.score) = [one, other] := by simp [level]
    rw [kept] at both
    exact .inr ⟨level, List.pairwise_iff_forall_sublist.mp rising
      (both.trans List.filter_sublist)⟩

end TurnOrder

namespace Combat

/-- Everyone rolls for one slot. -/
theorem ids_rollSlots (combat : Combat) (roster : List Combatant) :
    (combat.rollSlots roster).1.map (·.combatant) = roster.map Combatant.id := by
  induction roster generalizing combat with
  | nil => rfl
  | cons one rest hyp => simp only [rollSlots, List.map_cons, hyp]

/-! ### What actions leave alone -/

/-- What nothing but the passing of turns and newcomers change. -/
def clock (combat : Combat) : TurnOrder × Nat := (combat.order, combat.round)

@[simp] theorem clock_checkFinished (combat : Combat) :
    combat.checkFinished.clock = combat.clock := by
  unfold checkFinished
  split <;> rfl

theorem started_checkFinished {combat : Combat} (started : combat.state ≠ .setup) :
    combat.checkFinished.state ≠ .setup := by
  unfold checkFinished
  split
  · simp
  · exact started

/-- A change of a fight in which no turn passes and nobody joins. -/
structure Abides (before after : Combat) : Prop where
  clock : after.clock = before.clock
  ids : after.field.roster.map Combatant.id = before.field.roster.map Combatant.id
  started : before.state ≠ .setup → after.state ≠ .setup
  ended : before.isOver → after.isOver

variable {combat : Combat}

theorem Abides.refl (combat : Combat) : combat.Abides combat := ⟨rfl, rfl, id, id⟩

theorem not_isOver_of_active (running : combat.state = .active) : ¬combat.isOver := by
  simp [isOver, running]

theorem abides_afterAttack (combat : Combat) (running : combat.state = .active)
    (request : AttackRequest) (name : String) (report : AttackReport) :
    combat.Abides (combat.afterAttack request name report) := by
  refine ⟨?_, (combat.confined_afterAttack request name report none).moves.evolves.ids,
    fun started => ?_, fun ended => absurd ended (not_isOver_of_active running)⟩
  · unfold afterAttack
    split
    · rfl
    · exact clock_checkFinished _
  · unfold afterAttack
    split
    · exact started
    · refine started_checkFinished ?_
      simp only [record]
      split
      · simp
      · exact started

theorem abides_afterActivation (combat : Combat) (running : combat.state = .active)
    (activation : Activation) (report : ActivationReport) :
    combat.Abides (combat.afterActivation activation report) := by
  refine ⟨?_, (combat.confined_afterActivation activation report none).moves.evolves.ids,
    fun started => started_checkFinished ?_,
    fun ended => absurd ended (not_isOver_of_active running)⟩
  · unfold afterActivation
    rw [clock_checkFinished]
    dsimp only
    split <;> rfl
  · dsimp only
    split <;> exact started

/-- Other actions than ending a turn let no turn pass, and by none of them does anybody join. -/
theorem abides_act (stock : combat.rules.Stock) {action : CombatAction}
    (other : action ≠ .endTurn) : combat.Abides (combat.after (.act action)) := by
  rw [after_act]
  cases action with
  | attack request =>
    have run := Fight.run_attack stock request
    rw [perform_attack]
    generalize Fight.attack request combat = result at run
    cases run with
    | refused error => exact .refl combat
    | @made setting report resolved running rules sources same who ends =>
      have abides := abides_afterAttack
        { combat with field := resolved.field, dice := resolved.dice } running request
        setting.targetName report
      exact ⟨abides.clock, abides.ids.trans ends.delivers.endures.toShifts.ids, abides.started,
        abides.ended⟩
  | activate activation =>
    have run := Fight.run_activate stock activation
    rw [perform_activate]
    generalize Fight.activate activation combat = result at run
    cases run with
    | refused error => exact .refl combat
    | @made actor report resolved running found who ends =>
      have abides := abides_afterActivation
        { combat with field := resolved.field, dice := resolved.dice } running activation report
      exact ⟨abides.clock, abides.ids.trans ends.delivers.endures.toShifts.ids, abides.started,
        abides.ended⟩
  | move actor goal =>
    have run := Fight.run_move combat actor goal
    rw [perform_move]
    generalize Fight.move actor goal combat = result at run
    cases run with
    | refused error => exact .refl combat
    | @made start middle report events running placed =>
      have turns : middle.Rests (middle.update actor fun mover =>
          { mover with facing := .toward start goal, turn.moved := true }) :=
        rests_update fun _ _ => rfl
      exact ⟨rfl, turns.evolves.ids.trans (evolves_place placed).ids, id, id⟩
  | resolveClash stat =>
    have run := Fight.run_resolveClash combat stat
    rw [perform_resolveClash]
    generalize Fight.resolveClash stat combat = result at run
    cases run with
    | refused error => exact .refl combat
    | failed error due settles => exact ⟨rfl, settles.shifts.ids, id, id⟩
    | held due settles =>
      refine ⟨clock_checkFinished _, ?_, fun _ => started_checkFinished (by simp), fun ended => ?_⟩
      · rw [field_checkFinished]
        exact settles.shifts.ids
      · simp [isOver, due] at ended
  | endTurn => exact absurd rfl other

/-! ### Newcomers -/

end Combat

/-- Who has joined, if the answer is that somebody has. -/
def Reply.arrival? : Reply → Option CombatantId
  | .joined id => some id
  | .started _ | .acted _ | .supplied => none

namespace Combat

/-- The fight after all operations of a run. -/
def afterAll (combat : Combat) (operations : List Operation) : Combat :=
  operations.foldl after combat

/-- What an operation answers, unless it is refused. -/
def reply? (combat : Combat) (operation : Operation) : Option Reply :=
  (operation.run combat).1.toOption

/-- What the operations of a run answer. -/
def replies (combat : Combat) : List Operation → List Reply
  | [] => []
  | operation :: rest => (combat.reply? operation).toList ++ (combat.after operation).replies rest

variable {combat : Combat}

/-- What the answers of a run tell is what each of them tells. -/
theorem filterMap_replies {α : Type} (tells : Reply → Option α) (operation : Operation)
    (rest : List Operation) : (combat.replies (operation :: rest)).filterMap tells
      = ((combat.reply? operation).bind tells).toList
        ++ ((combat.after operation).replies rest).filterMap tells := by
  rw [replies, List.filterMap_append]
  congr 1
  cases combat.reply? operation with
  | none => rfl
  | some reply => rcases told : tells reply with _ | _ <;> simp [told]

/-- What happens to the order of a fight that has been started: no slot is moved or dropped, and
whoever joins has a new one at the end. -/
structure Enrolls (before : Combat) (arrivals : List CombatantId) (after : Combat) : Prop where
  slots : before.order.slots <+: after.order.slots
  ids : after.order.ids = before.order.ids ++ arrivals
  roster : after.field.roster.map Combatant.id = before.field.roster.map Combatant.id ++ arrivals
  distinct : before.field.Distinct → after.field.Distinct
  inside : before.order.index < before.order.slots.length →
    after.order.index < after.order.slots.length
  started : before.state ≠ .setup → after.state ≠ .setup
  ended : before.isOver → after.isOver

theorem Enrolls.trans {before middle after : Combat} {first second : List CombatantId}
    (enrolls : Enrolls before first middle) (enrolls' : Enrolls middle second after) :
    Enrolls before (first ++ second) after where
  slots := enrolls.slots.trans enrolls'.slots
  ids := by rw [enrolls'.ids, enrolls.ids, List.append_assoc]
  roster := by rw [enrolls'.roster, enrolls.roster, List.append_assoc]
  distinct := fun distinct => enrolls'.distinct (enrolls.distinct distinct)
  inside := fun inside => enrolls'.inside (enrolls.inside inside)
  started := fun started => enrolls'.started (enrolls.started started)
  ended := fun ended => enrolls'.ended (enrolls.ended ended)

/-- Where nobody joins, the slots and the roster stay. -/
theorem enrolls_nobody {after : Combat} (slots : after.order.slots = combat.order.slots)
    (ids : after.field.roster.map Combatant.id = combat.field.roster.map Combatant.id)
    (inside : combat.order.index < combat.order.slots.length →
      after.order.index < combat.order.slots.length)
    (started : combat.state ≠ .setup → after.state ≠ .setup)
    (ended : combat.isOver → after.isOver) : Enrolls combat [] after where
  slots := slots ▸ List.prefix_rfl
  ids := by rw [List.append_nil, TurnOrder.ids, TurnOrder.ids, slots]
  roster := by rw [ids, List.append_nil]
  distinct := fun distinct => by
    unfold Distinct
    rwa [ids]
  inside := by rwa [slots]
  started := started
  ended := ended

theorem Abides.enrolls {after : Combat} (abides : combat.Abides after) :
    Enrolls combat [] after := by
  have order : after.order = combat.order := congrArg Prod.fst abides.clock
  exact enrolls_nobody (by rw [order]) abides.ids (by rw [order]; exact id) abides.started
    abides.ended

theorem enrolls_join (newcomer : Combatant) (started : combat.state ≠ .setup) :
    Enrolls combat ((combat.reply? (.join newcomer)).bind Reply.arrival?).toList
      (combat.after (.join newcomer)) := by
  have run := Fight.run_addCombatant combat newcomer
  rw [reply?, after_join, run_join]
  generalize Fight.addCombatant newcomer combat = result at run
  cases run with
  | refused error => exact (Abides.refl combat).enrolls
  | joined going added last =>
    obtain ⟨score, rfl⟩ := last started
    have distinct := distinct_add added
    obtain ⟨-, -, -, rfl⟩ := add_eq_ok added
    refine ⟨List.prefix_append .., ?_, ?_, distinct, fun inside => ?_, id, id⟩
    · exact List.map_append
    · exact List.map_append
    · simp only [TurnOrder.push, List.length_append, List.length_singleton]
      exact Nat.lt_succ_of_lt inside

theorem enrolls_endTurn : Enrolls combat [] (combat.after (.act .endTurn)) := by
  have run := Fight.run_endTurn combat
  rw [after_act, perform_endTurn]
  generalize Fight.endTurn combat = result at run
  cases run with
  | refused error => exact (Abides.refl combat).enrolls
  | ended running evolves inside =>
    refine enrolls_nobody (by rw [order_checkFinished]) ?_ (by rwa [order_checkFinished])
      (fun started => started_checkFinished started)
      fun ended => absurd ended (not_isOver_of_active running)
    rw [field_checkFinished]
    exact evolves.ids

/-- What an action answers tells of nobody who has joined. -/
theorem arrival?_act (action : CombatAction) :
    (combat.reply? (.act action)).bind Reply.arrival? = none := by
  rw [reply?, run_act]
  rcases (Fight.perform action combat).1 with _ | _ <;> rfl

/-- **What one operation does to the order** of a fight that has been started. -/
theorem enrolls_after (stock : combat.rules.Stock) (started : combat.state ≠ .setup)
    (operation : Operation) :
    Enrolls combat ((combat.reply? operation).bind Reply.arrival?).toList
      (combat.after operation) := by
  cases operation with
  | join newcomer => exact enrolls_join newcomer started
  | start =>
    have run := Fight.run_start combat
    rw [reply?, after_start, run_start]
    generalize Fight.start combat = result at run
    cases run with
    | refused error => exact (Abides.refl combat).enrolls
    | begun fresh => exact absurd fresh started
  | supply sources dice => exact enrolls_nobody rfl rfl id id id
  | act action =>
    rw [arrival?_act]
    by_cases ends : action = .endTurn
    · subst ends
      exact enrolls_endTurn
    · exact (abides_act stock ends).enrolls

theorem enrolls_afterAll (stock : combat.rules.Stock) (started : combat.state ≠ .setup)
    (operations : List Operation) :
    Enrolls combat ((combat.replies operations).filterMap Reply.arrival?)
      (combat.afterAll operations) := by
  induction operations generalizing combat with
  | nil => exact (Abides.refl combat).enrolls
  | cons operation rest hyp =>
    have first := enrolls_after stock started operation
    have later := hyp (rules_after stock operation ▸ stock) (first.started started)
    rw [filterMap_replies]
    exact first.trans later

/-! ### Fights that have been started -/

/-- In a fight that has been started under rules of the usual kind, the slots are those of the roster,
and one of them is the current one. -/
structure Marshalled (combat : Combat) : Prop where
  stock : combat.rules.Stock
  started : combat.state ≠ .setup
  distinct : combat.field.Distinct
  enrolled : combat.order.ids.Perm (combat.field.roster.map Combatant.id)
  inside : combat.order.index < combat.order.slots.length

theorem Marshalled.after (marshalled : combat.Marshalled) (operation : Operation) :
    (combat.after operation).Marshalled := by
  have enrolls := enrolls_after marshalled.stock marshalled.started operation
  refine ⟨rules_after marshalled.stock operation ▸ marshalled.stock,
    enrolls.started marshalled.started, enrolls.distinct marshalled.distinct, ?_,
    enrolls.inside marshalled.inside⟩
  rw [enrolls.ids, enrolls.roster]
  exact marshalled.enrolled.append_right _

theorem Marshalled.afterAll (marshalled : combat.Marshalled) (operations : List Operation) :
    (combat.afterAll operations).Marshalled := by
  induction operations generalizing combat with
  | nil => exact marshalled
  | cons operation rest hyp => exact hyp (marshalled.after operation)

/-- Everyone on the field has one slot, and every slot is somebody's on the field. -/
structure Seated (combat : Combat) : Prop where
  single : ∀ one ∈ combat.field.roster, combat.order.ids.count one.id = 1
  present : ∀ id ∈ combat.order.ids, combat.field.Present id

theorem Marshalled.seated (marshalled : combat.Marshalled) : combat.Seated where
  single := fun one mem => by
    rw [marshalled.enrolled.count_eq]
    exact List.count_eq_one_of_mem marshalled.distinct (List.mem_map_of_mem mem)
  present := fun _ mem => marshalled.enrolled.mem_iff.mp mem

/-- A start that is not refused. -/
theorem started_of_grants (granted : combat.Grants .start) :
    ∃ report after, Fight.start combat = (.ok report, after) ∧
      Fight.StartRun combat (.ok report, after) := by
  obtain ⟨reply, granted⟩ := granted
  rw [run_start] at granted
  have run := Fight.run_start combat
  rcases eq : Fight.start combat with ⟨error | report, after⟩
  · rw [eq] at granted
    cases granted
  · exact ⟨report, after, rfl, eq ▸ run⟩

/-- A start makes an order of the slots that everyone has rolled for. -/
theorem slots_start (granted : combat.Grants .start) : (combat.after .start).order.slots
    = (TurnOrder.ofSlots (combat.rollSlots combat.field.roster).1).slots := by
  obtain ⟨report, after, eq, run⟩ := started_of_grants granted
  rw [after_start, eq]
  cases run with
  | begun fresh manned evolves inside =>
    rw [order_checkFinished]

theorem marshalled_start (stock : combat.rules.Stock) (distinct : combat.field.Distinct)
    (granted : combat.Grants .start) : (combat.after .start).Marshalled := by
  have rules := rules_after stock .start
  have slots := slots_start granted
  obtain ⟨report, after, eq, run⟩ := started_of_grants granted
  rw [after_start, eq] at rules slots ⊢
  have perm := TurnOrder.perm_ofSlots (combat.rollSlots combat.field.roster).1
  have rolled := combat.ids_rollSlots combat.field.roster
  cases run with
  | @begun _ field _ index _ _ fresh manned evolves inside =>
    refine ⟨by rwa [rules], started_checkFinished (by simp), ?_, ?_, ?_⟩
    · rw [field_checkFinished]
      exact evolves.toShifts.distinct distinct
    · rw [field_checkFinished, TurnOrder.ids, slots, evolves.ids, ← rolled]
      exact perm.map _
    · rw [order_checkFinished]
      refine inside (List.length_pos_iff.mpr fun empty => manned ?_)
      have none : (combat.rollSlots combat.field.roster).1 = [] := (empty ▸ perm).nil_eq.symm
      rw [none] at rolled
      exact List.map_eq_nil_iff.mp rolled.symm

end Combat

end Skirmish
