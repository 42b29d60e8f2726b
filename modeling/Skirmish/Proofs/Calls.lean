/-
**Slots that come up.** Whoever seeks the next turn comes to one slot after the other, and a turn
begins where the holder of a slot is alive and survives the hazard underfoot.

* `Combat.calls`: the fight as each slot comes up, read off the search itself; `Combat.due?` is the
  turn that begins there, if one does (`comes`);
* `Search`, `search_seek`: a whole search, slot by slot; its turn is the only one that could begin
  (`Search.turns`), and no slot is left out (`Search.isChain`).
-/

import Mathlib.Data.List.Chain
import Skirmish.Proofs.Strides

namespace Skirmish

open Battlefield

/-- A turn that begins. -/
structure Turn where
  round : Nat
  actor : CombatantId
deriving DecidableEq, Repr

namespace Combat

/-- The turn that begins as the current slot comes up: that of its holder, if it is alive and survives
the hazard underfoot. -/
def due? (combat : Combat) : Option Turn := do
  let id ← combat.order.current?
  let one ← combat.field.find? id
  if one.isAlive ∧ (combat.field.terrain.scorch one).isAlive then some ⟨combat.round, id⟩ else none

/-- The fight as each slot comes up while a turn is sought. -/
def calls (combat : Combat) (fuel : Nat) (tickDue : Bool) : List Combat :=
  (List.range fuel).filterMap fun steps =>
    if (combat.seek steps {} tickDue).1.actor.isNone then some (combat.seek steps {} tickDue).2
    else none

/-- The round and the place in it. -/
def place (combat : Combat) : Nat × Nat := (combat.round, combat.order.index)

/-- A slot comes up right after another one: the next one of the round, or after the last one the
first of a new round. -/
def Next (call later : Combat) : Prop :=
  later.order.index < later.order.slots.length ∧
    (later.round = call.round ∧ later.order.index = call.order.index + 1 ∨
      later.round = call.round + 1 ∧ later.order.index = 0 ∧
        later.order.slots.length = call.order.index + 1)

/-! ### One slot -/

variable {combat : Combat}

/-- Whoever begins its turn is alive then if it survives the hazard underfoot. -/
theorem isAlive_begun {field : Battlefield} {id : CombatantId} {one : Combatant}
    (distinct : field.Distinct) (found : field.find? id = some one) (alive : one.isAlive)
    (tickDue : Bool) :
    (field.begun id tickDue).isAlive id = (field.terrain.scorch one).isAlive := by
  have up : field.isAlive id := isAlive_iff_find?.mpr ⟨one, found, alive⟩
  have burned : (field.sear [id]).isAlive id = (field.terrain.scorch one).isAlive := by
    have here : field.terrain.sear [id] one = field.terrain.scorch one :=
      if_pos ⟨List.mem_singleton.mpr (id_of_find? found), alive⟩
    rw [isAlive_sear, found, Option.any_some, here]
  have greeted : ∀ aged : Battlefield,
      (if aged.isAlive id then aged.greet id else aged).isAlive id = aged.isAlive id := fun aged => by
    split
    · exact isAlive_greet id
    · rfl
  rw [begun_eq distinct up, ← burned]
  cases tickDue
  · exact greeted _
  · exact (greeted _).trans isAlive_age

/-- What becomes of a slot that comes up. -/
inductive Comes (combat : Combat) (tickDue : Bool) : Prop
  /-- Its holder begins a turn. -/
  | begins (turn : Turn) (field : Battlefield) (due : combat.due? = some turn)
      (round : turn.round = combat.round)
      (found : ∀ fuel report, ∃ log, combat.seek (fuel + 1) report tickDue
        = ({ report with log, actor := some turn.actor }, { combat with field }))
  /-- It is passed over. -/
  | passes (field : Battlefield) (later : Bool) (idle : combat.due? = none)
      (evolves : combat.field.Evolves field)
      (onward : ∀ fuel report, ∃ log newRound, combat.seek (fuel + 1) report tickDue
        = ({ combat with field } : Combat).advance.seek fuel { report with log, newRound } later)

theorem comes (distinct : combat.field.Distinct) (tickDue : Bool) : combat.Comes tickDue := by
  rcases current : combat.order.current? with _ | id
  · exact .passes combat.field (tickDue || combat.order.wraps) (by simp [due?, current])
      (.refl combat.field) fun fuel report => ⟨report.log, _, by simp only [seek, current]; rfl⟩
  -- Whoever is not alive is passed over.
  have skips (down : ¬combat.isAlive id) (idle : combat.due? = none) : combat.Comes tickDue :=
    .passes combat.field (tickDue || combat.order.wraps) idle (.refl combat.field)
      fun fuel report => ⟨report.log, _, by simp only [seek, current, down]; rfl⟩
  rcases found : combat.field.find? id with _ | one
  · exact skips (by simp [Combat.isAlive, found]) (by simp [due?, current, found])
  by_cases alive : one.isAlive
  · have up : combat.isAlive id := by simp [Combat.isAlive, found, alive]
    obtain ⟨log, begun⟩ := combat.beginTurn_eq id tickDue
    have survives := isAlive_begun distinct found alive tickDue
    have alike : ({ combat with field := combat.field.begun id tickDue } : Combat).isAlive id
        = (combat.field.begun id tickDue).isAlive id := rfl
    by_cases stands : (combat.field.terrain.scorch one).isAlive
    · refine .begins ⟨combat.round, id⟩ (combat.field.begun id tickDue)
        (by simp [due?, current, found, alive, stands]) rfl fun fuel report =>
          ⟨report.log ++ log, ?_⟩
      simp only [seek, current, up, begun, alike, survives, stands, ↓reduceIte]
    · refine .passes (combat.field.begun id tickDue) (false || combat.order.wraps)
        (by simp [due?, current, found, stands]) (evolves_begun ..) fun fuel report =>
          ⟨report.log ++ log, report.newRound || combat.order.wraps, ?_⟩
      simp only [seek, current, up, begun, alike, survives, stands, ↓reduceIte]
      rfl
  · exact skips (by simp [Combat.isAlive, found, alive]) (by simp [due?, current, found, alive])

/-! ### The whole search -/

/-- How a turn is sought: the fight as each slot comes up, the turn that begins in the end, if one
does, and the fight then. -/
inductive Search : Combat → List Combat → Option Turn → Combat → Prop
  | stops (combat : Combat) : Search combat [] none combat
  | begins {combat : Combat} {turn : Turn} (due : combat.due? = some turn) (field : Battlefield) :
      Search combat [combat] (some turn) { combat with field }
  | passes {combat result : Combat} {field : Battlefield} {calls : List Combat}
      {turn : Option Turn} (idle : combat.due? = none)
      (rest : Search ({ combat with field } : Combat).advance calls turn result) :
      Search combat (combat :: calls) turn result

/-- What is found is no matter of what has been reported. -/
theorem seek_report (combat : Combat) (distinct : combat.field.Distinct) (fuel : Nat)
    (report other : TurnReport) (same : report.actor = other.actor) (tickDue : Bool) :
    (combat.seek fuel report tickDue).1.actor = (combat.seek fuel other tickDue).1.actor ∧
      (combat.seek fuel report tickDue).2 = (combat.seek fuel other tickDue).2 := by
  induction fuel generalizing combat report other tickDue with
  | zero => exact ⟨same, rfl⟩
  | succ fuel hyp =>
    cases comes distinct tickDue with
    | begins turn field due round found =>
      obtain ⟨log, eq⟩ := found fuel report
      obtain ⟨log', eq'⟩ := found fuel other
      rw [eq, eq']
      exact ⟨rfl, rfl⟩
    | passes field later idle evolves onward =>
      obtain ⟨log, newRound, eq⟩ := onward fuel report
      obtain ⟨log', newRound', eq'⟩ := onward fuel other
      rw [eq, eq']
      exact hyp ({ combat with field } : Combat).advance (evolves.toShifts.distinct distinct)
        { report with log, newRound } { other with log := log', newRound := newRound' } same later

/-- The first slot that comes up is the current one. -/
theorem calls_succ (combat : Combat) (fuel : Nat) (tickDue : Bool) :
    combat.calls (fuel + 1) tickDue = combat :: (List.range fuel).filterMap fun steps =>
      if (combat.seek (steps + 1) {} tickDue).1.actor.isNone then
        some (combat.seek (steps + 1) {} tickDue).2
      else none := by
  have here : (combat.seek 0 {} tickDue) = ({}, combat) := rfl
  unfold calls
  rw [List.range_succ_eq_map, List.filterMap_cons_some (b := combat) (by rw [here]; rfl),
    List.filterMap_map]
  rfl

theorem search_seek (distinct : combat.field.Distinct) (fuel : Nat) (tickDue : Bool) :
    Search combat (combat.calls fuel tickDue)
      ((combat.seek fuel {} tickDue).1.actor.map (Turn.mk (combat.seek fuel {} tickDue).2.round))
      (combat.seek fuel {} tickDue).2 := by
  induction fuel generalizing combat tickDue with
  | zero => exact .stops combat
  | succ fuel hyp =>
    cases comes distinct tickDue with
    | begins turn field due round found =>
      have calls : combat.calls (fuel + 1) tickDue = [combat] := by
        rw [calls_succ]
        congr 1
        refine List.filterMap_eq_nil_iff.mpr fun steps _ => if_neg ?_
        obtain ⟨log, eq⟩ := found steps {}
        simp [eq]
      obtain ⟨log, eq⟩ := found fuel {}
      obtain ⟨number, actor⟩ := turn
      obtain rfl : number = combat.round := round
      rw [calls, eq]
      exact .begins due field
    | passes field later idle evolves onward =>
      have distinct' : ({ combat with field } : Combat).advance.field.Distinct :=
        evolves.toShifts.distinct distinct
      -- What is found from the next slot on.
      have next (steps : Nat) :
          (combat.seek (steps + 1) {} tickDue).1.actor
            = (({ combat with field } : Combat).advance.seek steps {} later).1.actor ∧
          (combat.seek (steps + 1) {} tickDue).2
            = (({ combat with field } : Combat).advance.seek steps {} later).2 := by
        obtain ⟨log, newRound, eq⟩ := onward steps {}
        rw [eq]
        exact seek_report ({ combat with field } : Combat).advance distinct' steps
          { log, newRound } {} rfl later
      have calls : combat.calls (fuel + 1) tickDue
          = combat :: ({ combat with field } : Combat).advance.calls fuel later := by
        rw [calls_succ]
        simp only [next]
        rfl
      rw [calls, (next fuel).1, (next fuel).2]
      exact .passes idle (hyp distinct' later)

section Search

variable {calls : List Combat} {turn : Option Turn} {result : Combat}

/-- The turn that begins is that of the last slot that came up, and no other is passed over whose
holder could begin one. -/
theorem Search.turns (search : Search combat calls turn result) :
    calls.filterMap due? = turn.toList := by
  induction search with
  | stops combat => rfl
  | begins due field => simp [due]
  | passes idle rest hyp => rw [List.filterMap_cons_none idle, hyp]

theorem Search.slots (search : Search combat calls turn result) :
    ∀ call ∈ calls, call.order.slots = combat.order.slots := by
  induction search with
  | stops combat => simp
  | begins due field => simp
  | passes idle rest hyp =>
    intro call mem
    rcases List.mem_cons.mp mem with rfl | mem
    · rfl
    · rw [hyp call mem, slots_advance]

theorem Next.of_place {call other later : Combat} (same : other.place = call.place)
    (next : call.Next later) : other.Next later := by
  obtain ⟨round, index⟩ := Prod.mk.injEq .. ▸ same
  unfold Next
  rwa [round, index]

/-- The slot after the current one comes up right after it. -/
theorem next_advance (inside : combat.order.index < combat.order.slots.length)
    (field : Battlefield) : combat.Next ({ combat with field } : Combat).advance := by
  have manned : combat.order.slots ≠ [] := List.length_pos_iff.mp (Nat.zero_lt_of_lt inside)
  by_cases wraps : combat.order.wraps
  · have last : combat.order.slots.length ≤ combat.order.index + 1 := by
      simpa [TurnOrder.wraps, manned] using wraps
    have only : combat.order.slots.length = combat.order.index + 1 := by omega
    simp [Next, advance, TurnOrder.advance, wraps, manned, only]
  · have further : combat.order.index + 1 < combat.order.slots.length := by
      simpa [TurnOrder.wraps, manned] using wraps
    simp [Next, advance, TurnOrder.advance, wraps, manned, further]

/-- Slots come up one after the other while a turn is sought, and on from there. Where no turn is
found, none is sought any more. -/
theorem Search.isChain (search : Search combat calls turn result) {prior : Combat}
    {tail : List Combat} (next : prior.Next combat)
    (found : turn.isSome → (result :: tail).IsChain Next) (ended : turn = none → tail = []) :
    (prior :: (calls ++ tail)).IsChain Next := by
  induction search generalizing prior with
  | stops combat =>
    rw [ended rfl]
    exact .singleton prior
  | @begins combat _ due field =>
    have same : combat.place = ({ combat with field } : Combat).place := rfl
    exact List.isChain_cons_cons.mpr ⟨next, (found rfl).imp_head (Next.of_place same)⟩
  | passes idle rest hyp =>
    exact List.isChain_cons_cons.mpr ⟨next, hyp (next_advance next.1 _) found ended⟩

end Search

end Combat

end Skirmish
