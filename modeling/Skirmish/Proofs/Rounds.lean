/-
**Turns in rounds.** Over a whole run, slots come up one after the other and round after round, also
while others join.

* `Combat.seeks_start`, `seeks_endTurn`: the operations that seek a turn, and where from; all others
  let none pass (`Combat.Marshalled.idles`);
* `Combat.isChain_callsOver`: no slot is left out in the course of a run;
* `Combat.regular_of_start`: the turns of a run begin in the order of the slots, and nobody has two in
  a round.
-/

import Skirmish.Proofs.Calls
import Skirmish.Proofs.Enrolment
import Skirmish.Proofs.Laps
import Skirmish.Proofs.StandardTable

namespace Skirmish

open Battlefield

/-- The turn that has begun, if the answer is that one has. -/
def Reply.turn? : Reply → Option Turn
  | .started report | .acted (.turnEnded report) => report.actor.map (Turn.mk report.round)
  | .joined _ | .acted _ | .supplied => none

/-- A turn comes before another one: in an earlier round, or in the same one in an earlier slot. -/
def TurnOrder.Precedes (order : TurnOrder) (turn later : Turn) : Prop :=
  turn.round < later.round ∨
    turn.round = later.round ∧ order.ids.idxOf turn.actor < order.ids.idxOf later.actor

namespace Combat

/-- The fight as each slot comes up in the course of an operation. -/
def callsIn (combat : Combat) : Operation → List Combat
  | .start =>
    if (Fight.start combat).1.isOk then
      (Fight.opened combat).calls ((Fight.opened combat).order.slots.length + 1) false
    else []
  | .act .endTurn =>
    if (Fight.endTurn combat).1.isOk then
      combat.advance.calls (combat.advance.order.slots.length + 1) combat.order.wraps
    else []
  | .join _ | .act _ | .supply _ _ => []

/-- The fight as each slot comes up in the course of a run. -/
def callsOver (combat : Combat) : List Operation → List Combat
  | [] => []
  | operation :: rest => combat.callsIn operation ++ (combat.after operation).callsOver rest

variable {combat : Combat}

/-! ### Operations that seek a turn -/

/-- A fight that goes on is over when nobody is alive. -/
theorem isOver_checkFinished (running : combat.state = .active)
    (fallen : ∀ one ∈ combat.field.roster, ¬one.isAlive) : combat.checkFinished.isOver := by
  have nobody : combat.field.living = [] := List.filter_eq_nil_iff.mpr fallen
  have few : combat.field.teamsStanding.length ≤ 1 := by
    unfold teamsStanding
    rw [nobody]
    decide
  unfold checkFinished
  rw [if_pos ⟨running, few⟩]
  rfl

@[simp] theorem place_checkFinished (combat : Combat) : combat.checkFinished.place = combat.place := by
  unfold checkFinished
  split <;> rfl

/-- The turn that is found from the current slot on. -/
def found? (combat : Combat) (tickDue : Bool) : Option Turn :=
  (combat.seekActor tickDue).1.actor.map (Turn.mk (combat.seekActor tickDue).1.round)

theorem search_seekActor (combat : Combat) (distinct : combat.field.Distinct) (tickDue : Bool) :
    Search combat (combat.calls (combat.order.slots.length + 1) tickDue) (combat.found? tickDue)
      (combat.seekActor tickDue).2 :=
  search_seek distinct _ tickDue

theorem slots_seekActor (combat : Combat) (tickDue : Bool) :
    (combat.seekActor tickDue).2.order.slots = combat.order.slots := by
  obtain ⟨field, index, round, eq, -⟩ := combat.seekActor_eq tickDue
  rw [eq]

theorem state_seekActor (combat : Combat) (tickDue : Bool) :
    (combat.seekActor tickDue).2.state = combat.state := by
  obtain ⟨field, index, round, eq, -⟩ := combat.seekActor_eq tickDue
  rw [eq]

/-- An operation seeks the next turn, from `first` on. -/
structure Seeks (before : Combat) (operation : Operation) (first : Combat) (tickDue : Bool) :
    Prop where
  search : Search first (before.callsIn operation) (first.found? tickDue) (first.seekActor tickDue).2
  told : (before.reply? operation).bind Reply.turn? = first.found? tickDue
  place : (before.after operation).place = (first.seekActor tickDue).2.place
  slots : (before.after operation).order.slots = first.order.slots
  /-- Where nobody is found, nobody is left. -/
  nobody : first.found? tickDue = none → (before.after operation).isOver

/-- Ending a turn seeks the next one from the next slot on. -/
theorem seeks_endTurn (running : combat.state = .active) (distinct : combat.field.Distinct)
    (seated : ∀ id, combat.field.isAlive id → id ∈ combat.order.ids) :
    combat.Seeks (.act .endTurn) combat.advance combat.order.wraps := by
  obtain ⟨events, run⟩ := Fight.endTurn_of_active running
  have after : combat.after (.act .endTurn)
      = ({ (combat.advance.seekActor combat.order.wraps).2 with events } : Combat).checkFinished := by
    rw [after_act, perform_endTurn, run]
  refine ⟨?_, ?_, ?_, ?_, fun nobody => ?_⟩
  · unfold callsIn
    rw [run]
    exact search_seekActor combat.advance distinct combat.order.wraps
  · rw [reply?, run_act, perform_endTurn, run]
    rfl
  · rw [after, place_checkFinished]
    rfl
  · rw [after, order_checkFinished]
    exact slots_seekActor ..
  · rw [after]
    obtain ⟨walk, found⟩ := exists_found distinct seated
    have unfound : (combat.advance.seekActor combat.order.wraps).1.actor = none := by
      simpa [found?] using nobody
    have field : (combat.advance.seekActor combat.order.wraps).2.field = walk.wake combat.field := by
      rw [← found.field, ← slots_advance]
      rfl
    have left : walk.actor = none := by
      rw [← found.actor, ← slots_advance]
      exact unfound
    refine isOver_checkFinished ((state_seekActor ..).trans running) ?_
    rw [field]
    exact (found.follows.nobody_iff distinct).mp left

/-- Where the search for a first turn finds nobody, nobody is left. -/
theorem fallen_of_seekActor (distinct : combat.field.Distinct) (first : combat.order.index = 0)
    (manned : combat.order.ids ≠ [])
    (seated : ∀ id, combat.field.isAlive id → id ∈ combat.order.ids)
    (nobody : (combat.seekActor false).1.actor = none) :
    ∀ one ∈ (combat.seekActor false).2.field.roster, ¬one.isAlive := by
  have reaches := seek_reaches combat combat.order.ids [] manned
    (by rw [first, List.append_nil]; rfl) 1 {} false
  have strides := strides_walk combat.order.ids distinct
  have fuel : combat.order.ids.length + 1 = combat.order.slots.length + 1 := by
    rw [TurnOrder.ids, List.length_map]
  have found : (combat.seek (combat.order.slots.length + 1) {} false).1.actor = none := nobody
  have field : (combat.seekActor false).2.field
      = (combat.seek (combat.order.slots.length + 1) {} false).2.field := rfl
  rw [field]
  rw [fuel] at reaches
  generalize combat.seek (combat.order.slots.length + 1) {} false = result at *
  generalize walk combat.order.ids combat.field false = outcome at reaches strides
  cases strides with
  | stops =>
    obtain ⟨log, index, rfl⟩ := reaches
    cases found
  | passes fallen =>
    obtain ⟨log, rfl⟩ := reaches
    have down : ∀ id, ¬(combat.field.sear combat.order.ids).isAlive id := fun id alive =>
      fallen id (seated id (isAlive_of_isAlive_sear alive)) alive
    rw [(seek_of_fallen _ down ..).2]
    intro one mem
    rw [← isAlive_of_mem (distinct_sear distinct) mem]
    exact down one.id

/-- The first slot that comes up is the first one. -/
theorem callsIn_start (granted : combat.Grants .start) :
    ∃ rest, combat.callsIn .start = Fight.opened combat :: rest := by
  obtain ⟨report, after, run, -⟩ := started_of_grants granted
  unfold callsIn
  rw [run]
  exact ⟨_, calls_succ ..⟩

/-- Starting seeks the first turn from the first slot on. -/
theorem seeks_start (granted : combat.Grants .start) (distinct : combat.field.Distinct) :
    combat.Seeks .start (Fight.opened combat) false := by
  obtain ⟨_, _, -, run⟩ := started_of_grants granted
  cases run with
  | begun fresh manned =>
    obtain ⟨log, events, run⟩ := Fight.start_of_setup fresh (by simpa using manned)
    have after : combat.after .start = ({ ((Fight.opened combat).seekActor false).2 with
        events } : Combat).checkFinished := by
      rw [after_start, run]
    obtain ⟨slots, dice, rolled⟩ := combat.rollSlots_eq combat.field.roster
    have field : (Fight.opened combat).field = combat.field := by
      unfold Fight.opened
      rw [rolled]
    have ids : (Fight.opened combat).order.ids.Perm (combat.field.roster.map Combatant.id) := by
      rw [← combat.ids_rollSlots]
      exact (TurnOrder.perm_ofSlots _).map _
    refine ⟨?_, ?_, ?_, ?_, fun nobody => ?_⟩
    · unfold callsIn
      rw [run]
      exact search_seekActor (Fight.opened combat) (by rwa [field]) false
    · rw [reply?, run_start, run]
      rfl
    · rw [after, place_checkFinished]
      rfl
    · rw [after, order_checkFinished]
      exact slots_seekActor ..
    · rw [after]
      have unfound : ((Fight.opened combat).seekActor false).1.actor = none := by
        simpa [found?] using nobody
      have some : (Fight.opened combat).order.ids ≠ [] := fun empty =>
        manned (List.map_eq_nil_iff.mp (empty ▸ ids).nil_eq.symm)
      have seated : ∀ id, (Fight.opened combat).field.isAlive id →
          id ∈ (Fight.opened combat).order.ids := fun id alive => by
        rw [field] at alive
        obtain ⟨one, found, -⟩ := isAlive_iff_find?.mp alive
        exact ids.mem_iff.mpr (present_of_find? found)
      exact isOver_checkFinished (state_seekActor ..)
        (fallen_of_seekActor (by rwa [field]) rfl some seated unfound)

/-! ### Other operations -/

/-- An operation lets no turn pass. -/
structure Idles (before : Combat) (operation : Operation) : Prop where
  calls : before.callsIn operation = []
  told : (before.reply? operation).bind Reply.turn? = none
  place : (before.after operation).place = before.place

theorem idles_act (stock : combat.rules.Stock) {action : CombatAction}
    (other : action ≠ .endTurn) : combat.Idles (.act action) := by
  have clock := (abides_act stock other).clock
  have place : (combat.after (.act action)).place = combat.place := by
    unfold Combat.place
    rw [show (combat.after (.act action)).order = combat.order from congrArg Prod.fst clock,
      show (combat.after (.act action)).round = combat.round from congrArg Prod.snd clock]
  refine ⟨?_, ?_, place⟩
  · cases action with
    | endTurn => exact absurd rfl other
    | _ => rfl
  · rw [reply?, run_act]
    cases action with
    | attack request =>
      rw [perform_attack]
      cases (Fight.attack request combat).1 <;> rfl
    | activate activation =>
      rw [perform_activate]
      cases (Fight.activate activation combat).1 <;> rfl
    | move actor goal =>
      rw [perform_move]
      cases (Fight.move actor goal combat).1 <;> rfl
    | resolveClash stat =>
      rw [perform_resolveClash]
      cases (Fight.resolveClash stat combat).1 <;> rfl
    | endTurn => exact absurd rfl other

/-- In a fight that has been started, no turn passes but where one is ended while turns are taken. -/
theorem Marshalled.idles (marshalled : combat.Marshalled) {operation : Operation}
    (other : ¬(operation = .act .endTurn ∧ combat.state = .active)) : combat.Idles operation := by
  cases operation with
  | join newcomer =>
    have run := Fight.run_addCombatant combat newcomer
    refine ⟨rfl, ?_, ?_⟩
    · rw [reply?, run_join]
      cases (Fight.addCombatant newcomer combat).1 <;> rfl
    · rw [after_join]
      generalize Fight.addCombatant newcomer combat = result at run
      cases run with
      | refused error => rfl
      | joined going added last =>
        obtain ⟨score, rfl⟩ := last marshalled.started
        rfl
  | start =>
    have run := Fight.run_start combat
    rcases eq : Fight.start combat with ⟨answer, after⟩
    rw [eq] at run
    cases run with
    | refused error =>
      exact ⟨by simp [callsIn, eq, Except.isOk, Except.toBool], by rw [reply?, run_start, eq]; rfl,
        by rw [after_start, eq]⟩
    | begun fresh => exact absurd fresh marshalled.started
  | supply sources dice => exact ⟨rfl, rfl, rfl⟩
  | act action =>
    by_cases ends : action = .endTurn
    · subst ends
      have run := Fight.run_endTurn combat
      rcases eq : Fight.endTurn combat with ⟨answer, after⟩
      rw [eq] at run
      cases run with
      | refused error =>
        exact ⟨by simp [callsIn, eq, Except.isOk, Except.toBool],
          by rw [reply?, run_act, perform_endTurn, eq]; rfl,
          by rw [after_act, perform_endTurn, eq]⟩
      | ended running => exact absurd ⟨rfl, running⟩ other
    · exact idles_act marshalled.stock ends

/-! ### Whole runs -/

theorem Marshalled.mem_ids (marshalled : combat.Marshalled) {id : CombatantId}
    (alive : combat.field.isAlive id) : id ∈ combat.order.ids := by
  obtain ⟨one, found, -⟩ := isAlive_iff_find?.mp alive
  exact marshalled.enrolled.mem_iff.mpr (present_of_find? found)

/-- Every operation on a fight that has been started seeks a turn from the next slot on, or lets none
pass. -/
theorem Marshalled.seeks_or_idles (marshalled : combat.Marshalled) (operation : Operation) :
    combat.Seeks operation combat.advance combat.order.wraps ∨ combat.Idles operation := by
  by_cases seeks : operation = .act .endTurn ∧ combat.state = .active
  · obtain ⟨rfl, running⟩ := seeks
    exact .inl (seeks_endTurn running marshalled.distinct fun _ => marshalled.mem_ids)
  · exact .inr (marshalled.idles seeks)

theorem Marshalled.callsOver_of_isOver (marshalled : combat.Marshalled) (ended : combat.isOver)
    (operations : List Operation) : combat.callsOver operations = [] := by
  induction operations generalizing combat with
  | nil => rfl
  | cons operation rest hyp =>
    have idles := marshalled.idles fun both : operation = .act .endTurn ∧ _ =>
      not_isOver_of_active both.2 ended
    have ended' := (enrolls_after marshalled.stock marshalled.started operation).ended ended
    rw [callsOver, idles.calls, hyp (marshalled.after operation) ended', List.append_nil]

/-- Slots come up one after the other while an operation seeks a turn, and on from there. -/
theorem Seeks.isChain {operation : Operation} {first prior : Combat} {tickDue : Bool}
    {rest : List Operation} (seeks : combat.Seeks operation first tickDue)
    (marshalled : (combat.after operation).Marshalled) (next : prior.Next first)
    (later : (combat.after operation :: (combat.after operation).callsOver rest).IsChain Next) :
    (prior :: combat.callsOver (operation :: rest)).IsChain Next :=
  seeks.search.isChain next (fun _ => later.imp_head (Next.of_place seeks.place.symm))
    fun none => marshalled.callsOver_of_isOver (seeks.nobody none) rest

/-- **Slots come up one after the other**, whatever is done to a fight that has been started. -/
theorem isChain_callsOver (marshalled : combat.Marshalled) (operations : List Operation) :
    (combat :: combat.callsOver operations).IsChain Next := by
  induction operations generalizing combat with
  | nil => exact .singleton combat
  | cons operation rest hyp =>
    have later := hyp (marshalled.after operation)
    rcases marshalled.seeks_or_idles operation with seeks | idles
    · exact seeks.isChain (marshalled.after operation)
        (next_advance marshalled.inside combat.field) later
    · rw [callsOver, idles.calls, List.nil_append]
      exact later.imp_head (Next.of_place idles.place.symm)

/-- The turns that begin in the course of a run. -/
def turnsOver (combat : Combat) (operations : List Operation) : List Turn :=
  (combat.replies operations).filterMap Reply.turn?

theorem Seeks.turns {operation : Operation} {first : Combat} {tickDue : Bool}
    {rest : List Operation} (seeks : combat.Seeks operation first tickDue)
    (later : (combat.after operation).turnsOver rest
      = ((combat.after operation).callsOver rest).filterMap due?) :
    combat.turnsOver (operation :: rest)
      = (combat.callsOver (operation :: rest)).filterMap due? := by
  rw [turnsOver, filterMap_replies, callsOver, List.filterMap_append, seeks.told, seeks.search.turns]
  exact congrArg _ later

/-- A turn begins exactly where the holder of a slot is alive as it comes up and survives the hazard. -/
theorem turnsOver_eq (marshalled : combat.Marshalled) (operations : List Operation) :
    combat.turnsOver operations = (combat.callsOver operations).filterMap due? := by
  induction operations generalizing combat with
  | nil => rfl
  | cons operation rest hyp =>
    have later := hyp (marshalled.after operation)
    rcases marshalled.seeks_or_idles operation with seeks | idles
    · exact seeks.turns later
    · rw [turnsOver, filterMap_replies, callsOver, idles.told, idles.calls]
      exact later

/-- The slots that come up while an operation seeks a turn stay where they are. -/
theorem Seeks.kept {operation : Operation} {first : Combat} {tickDue : Bool}
    (seeks : combat.Seeks operation first tickDue) (marshalled : (combat.after operation).Marshalled)
    (rest : List Operation) : ∀ call ∈ combat.callsIn operation,
      call.order.slots <+: ((combat.after operation).afterAll rest).order.slots := by
  intro call mem
  rw [seeks.search.slots call mem, ← seeks.slots]
  exact (enrolls_afterAll marshalled.stock marshalled.started rest).slots

/-- Slots that have come up stay where they are. -/
theorem slots_callsOver (marshalled : combat.Marshalled) (operations : List Operation) :
    ∀ call ∈ combat.callsOver operations,
      call.order.slots <+: (combat.afterAll operations).order.slots := by
  induction operations generalizing combat with
  | nil => exact fun _ mem => absurd mem (List.not_mem_nil)
  | cons operation rest hyp =>
    intro call mem
    rcases List.mem_append.mp mem with mem | mem
    · rcases marshalled.seeks_or_idles operation with seeks | idles
      · exact seeks.kept (marshalled.after operation) rest call mem
      · rw [idles.calls] at mem
        exact absurd mem List.not_mem_nil
    · exact hyp (marshalled.after operation) call mem

/-- Slots come up one after the other from the start on. -/
theorem isChain_start (granted : combat.Grants .start) (distinct : combat.field.Distinct)
    (marshalled : (combat.after .start).Marshalled) (operations : List Operation) :
    (combat.callsOver (.start :: operations)).IsChain Next := by
  have seeks := seeks_start granted distinct
  -- Before the first round, the last slot is the current one.
  let prior : Combat := { Fight.opened combat with
    order.index := (Fight.opened combat).order.slots.length - 1, round := 0 }
  have manned : 0 < (Fight.opened combat).order.slots.length := by
    rw [← seeks.slots]
    exact Nat.zero_lt_of_lt marshalled.inside
  have next : prior.Next (Fight.opened combat) :=
    ⟨manned, .inr ⟨rfl, rfl, (Nat.sub_add_cancel manned).symm⟩⟩
  have chain := seeks.isChain marshalled next (isChain_callsOver marshalled operations)
  exact (List.isChain_cons.mp chain).2

/-! ### The order of turns -/

/-- A slot comes up before another one: in an earlier round, or earlier in the same one. -/
def Earlier (call later : Combat) : Prop :=
  call.round < later.round ∨
    call.round = later.round ∧ call.order.index < later.order.index

instance : Trans Earlier Earlier Earlier where
  trans := fun first second => by
    unfold Earlier at *
    omega

theorem Next.earlier {call later : Combat} (next : call.Next later) : call.Earlier later := by
  unfold Next at next
  unfold Earlier
  omega

/-- The turn that begins in a slot is in its round and of its holder. -/
theorem idxOf_due {call : Combat} {order : TurnOrder} {turn : Turn} (single : order.ids.Nodup)
    (kept : call.order.slots <+: order.slots) (due : call.due? = some turn) :
    turn.round = call.round ∧ order.ids.idxOf turn.actor = call.order.index := by
  rcases current : call.order.current? with _ | id
  · simp [due?, current] at due
  rcases found : call.field.find? id with _ | one
  · simp [due?, current, found] at due
  simp only [due?, current, found, Option.bind_eq_bind, Option.bind_some] at due
  split at due
  · obtain rfl := Option.some.inj due
    refine ⟨rfl, ?_⟩
    have ids : call.order.ids <+: order.ids := kept.map _
    have here : call.order.ids[call.order.index]? = some id := by
      rw [TurnOrder.ids, List.getElem?_map]
      exact current
    obtain ⟨inside, there⟩ := List.getElem?_eq_some_iff.mp here
    have place := single.idxOf_getElem call.order.index (inside.trans_le ids.length_le)
    rwa [← ids.getElem inside, there] at place
  · cases due

theorem pairwise_due {calls : List Combat} {order : TurnOrder} (chain : calls.IsChain Next)
    (single : order.ids.Nodup) (kept : ∀ call ∈ calls, call.order.slots <+: order.slots) :
    (calls.filterMap due?).Pairwise order.Precedes := by
  have earlier : calls.Pairwise Earlier := (chain.imp fun _ _ => Next.earlier).pairwise
  refine List.pairwise_filterMap.mpr (earlier.imp_of_mem fun {call later} mem mem' before => ?_)
  intro turn due turn' due'
  obtain ⟨round, place⟩ := idxOf_due single (kept call mem) due
  obtain ⟨round', place'⟩ := idxOf_due single (kept later mem') due'
  unfold TurnOrder.Precedes
  rwa [round, round', place, place']

/-- Turns in the order of the slots, from the start on and whoever joins. -/
structure Regular (combat : Combat) (operations : List Operation) : Prop where
  /-- At the start everyone rolls for one slot. -/
  rolled : (combat.after .start).order.slots.Perm (combat.rollSlots combat.field.roster).1
  /-- The slots of the start stand by falling initiative, and equal ones as in the roster. -/
  lined : TurnOrder.Lined (combat.field.roster.map Combatant.id)
    (combat.after .start).order.slots
  /-- Everyone has one slot, and every slot is somebody's. -/
  seated : (combat.after .start).Throughout Seated operations
  /-- No slot is ever moved or dropped. -/
  kept : (combat.after .start).Throughout
    (fun now => now.order.slots <+: (combat.afterAll (.start :: operations)).order.slots) operations
  /-- Whoever joins later has a slot after all others. -/
  arrived : (combat.afterAll (.start :: operations)).order.ids = (combat.after .start).order.ids
    ++ (combat.replies (.start :: operations)).filterMap Reply.arrival?
  /-- The first slot that comes up is the first one of the first round. -/
  first : (combat.callsOver (.start :: operations)).head?.map place = some (1, 0)
  /-- Slots come up one after the other, and round after round. -/
  onward : (combat.callsOver (.start :: operations)).IsChain Next
  /-- A turn begins exactly where the holder of a slot is alive as it comes up and survives the hazard
  underfoot. -/
  begins : combat.turnsOver (.start :: operations)
    = (combat.callsOver (.start :: operations)).filterMap due?
  /-- Turns begin in the order of the slots. -/
  inOrder : (combat.turnsOver (.start :: operations)).Pairwise
    (combat.afterAll (.start :: operations)).order.Precedes
  /-- Nobody begins two turns in a round. -/
  once : (combat.turnsOver (.start :: operations)).Nodup

theorem throughout_kept (marshalled : combat.Marshalled) (operations : List Operation) :
    combat.Throughout
      (fun now => now.order.slots <+: (combat.afterAll operations).order.slots) operations := by
  induction operations generalizing combat with
  | nil => exact List.prefix_rfl
  | cons operation rest hyp =>
    exact ⟨(enrolls_afterAll marshalled.stock marshalled.started (operation :: rest)).slots,
      hyp (marshalled.after operation)⟩

/-- **Turns begin in the order of the slots, each in every round once**: over any run from the start
on, under rules that are built from specs, whoever joins in between. -/
theorem regular_of_start {specs : List RuleSpec}
    (built : RuleTable.ofSpecs .standard specs = .ok combat.rules)
    (distinct : combat.field.Distinct) (granted : combat.Grants .start)
    (operations : List Operation) : combat.Regular operations := by
  have marshalled := marshalled_start (RuleTable.stock_of_specs built) distinct granted
  have seeks := seeks_start granted distinct
  have slots := slots_start granted
  have rolled := combat.ids_rollSlots combat.field.roster
  have onward := isChain_start granted distinct marshalled operations
  have begins := seeks.turns (turnsOver_eq marshalled operations)
  have kept : ∀ call ∈ combat.callsOver (.start :: operations),
      call.order.slots <+: (combat.afterAll (.start :: operations)).order.slots := by
    intro call mem
    rcases List.mem_append.mp mem with mem | mem
    · exact seeks.kept marshalled operations call mem
    · exact slots_callsOver marshalled operations call mem
  have inOrder : (combat.turnsOver (.start :: operations)).Pairwise
      (combat.afterAll (.start :: operations)).order.Precedes := by
    have last := marshalled.afterAll operations
    rw [begins]
    exact pairwise_due onward (last.enrolled.nodup_iff.mpr last.distinct) kept
  have joins : (combat.reply? .start).bind Reply.arrival? = none := by
    rw [reply?, run_start]
    cases (Fight.start combat).1 <;> rfl
  exact {
    rolled := by
      rw [slots]
      exact TurnOrder.perm_ofSlots _
    lined := by
      rw [slots, ← rolled]
      exact TurnOrder.lined_ofSlots (by rwa [rolled])
    seated := (throughout_of_keeps (fun _ operation now => now.after operation) marshalled
      operations).imp fun _ now => Marshalled.seated now
    kept := throughout_kept marshalled operations
    arrived := by
      rw [filterMap_replies, joins]
      exact (enrolls_afterAll marshalled.stock marshalled.started operations).ids
    first := by
      obtain ⟨rest, calls⟩ := callsIn_start granted
      rw [callsOver, calls]
      rfl
    onward
    begins
    inOrder
    once := inOrder.imp fun {turn later} before same => by
      subst same
      unfold TurnOrder.Precedes at before
      omega }

/-- So do the turns of the two, and of a third one who joins them. -/
theorem regular_duel : duel.Regular [.act .endTurn,
    .join { dorn with id := ⟨3⟩, position := ⟨3, 1⟩ }, .act .endTurn] := by
  have built : RuleTable.ofSpecs .standard Standard.specs = .ok duel.rules :=
    rules_duel ▸ Standard.built_table
  have granted : duel.Grants .start := by
    obtain ⟨report, events, run⟩ := start_duel
    exact ⟨.started report, by rw [run_start, run]; rfl⟩
  exact regular_of_start built opens_duel.filled.sound.distinct granted _

end Combat

end Skirmish
