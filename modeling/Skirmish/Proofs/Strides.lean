/-
**Striding along the slots.** Seeking the next turn goes from slot to slot. Whoever is reached alive
suffers its hazard, and the first that survives has the next turn.

* `Battlefield.sear`, `age`, `greet`: what a turn that begins does, as maps over the roster
  (`begun_eq`);
* `walk`: the walk over some slots, up to whoever survives or past all of them, and what it does to
  the field without and with a round that is still due (`strides_walk`, `agedStrides_walk`);
* `seek_reaches`: seeking is such a walk, and goes on where it has passed all of them.
-/

import Skirmish.Proofs.Operations

namespace Skirmish

/-- What the hazard of its cell does to a combatant that is reached alive. -/
def Terrain.sear (terrain : Terrain) (reached : List CombatantId) (one : Combatant) : Combatant :=
  if one.id ∈ reached ∧ one.isAlive then terrain.scorch one else one

namespace Battlefield

variable {field : Battlefield} {id other : CombatantId} {reached : List CombatantId}

/-- The field after everyone who is reached alive has suffered its hazard. -/
def sear (field : Battlefield) (reached : List CombatantId) : Battlefield :=
  { field with roster := field.roster.map (field.terrain.sear reached) }

/-- The field after a combatant has been given a fresh turn. -/
def greet (field : Battlefield) (id : CombatantId) : Battlefield :=
  { field with
    roster := field.roster.map fun one => if one.id = id then one.resetTurn else one }

/-! ### Who is alive after a change -/

section Change

variable {change : Combatant → Combatant}

theorem distinct_map (distinct : field.Distinct) (keeps : ∀ one, (change one).id = one.id) :
    ({ field with roster := field.roster.map change } : Battlefield).Distinct := by
  unfold Distinct
  rw [List.map_map, show Combatant.id ∘ change = Combatant.id from funext keeps]
  exact distinct

/-- After a change of everyone that keeps identities, everyone is found as changed. -/
theorem find?_map (keeps : ∀ one, (change one).id = one.id) :
    ({ field with roster := field.roster.map change } : Battlefield).find? id
      = (field.find? id).map change := by
  unfold find?
  rw [List.find?_map]
  simp only [Function.comp_def, keeps]

theorem isAlive_map (keeps : ∀ one, (change one).id = one.id) :
    ({ field with roster := field.roster.map change } : Battlefield).isAlive id
      = (field.find? id).any fun one => (change one).isAlive := by
  unfold isAlive
  rw [find?_map keeps, Option.any_map]

theorem isAlive_iff_find? : field.isAlive id ↔ ∃ one, field.find? id = some one ∧ one.isAlive := by
  unfold isAlive
  rcases field.find? id with _ | one <;> simp

end Change

end Battlefield

theorem Terrain.id_sear (terrain : Terrain) (reached : List CombatantId) (one : Combatant) :
    (terrain.sear reached one).id = one.id := by
  unfold sear
  split
  · exact Combatant.id_of_stance (Combatant.wanes_scorch terrain one).stance
  · rfl

theorem Terrain.isAlive_of_sear {terrain : Terrain} {reached : List CombatantId} {one : Combatant}
    (alive : (terrain.sear reached one).isAlive) : one.isAlive := by
  unfold sear at alive
  split at alive
  · exact (Combatant.wanes_scorch terrain one).alive alive
  · exact alive

/-- Whoever has fallen where it was reached suffers nothing more. -/
theorem Terrain.sear_sear (terrain : Terrain) {first : List CombatantId} {one : Combatant}
    (fallen : one.id ∈ first → ¬(terrain.sear first one).isAlive) (rest : List CombatantId) :
    terrain.sear rest (terrain.sear first one) = terrain.sear (first ++ rest) one := by
  by_cases reached : one.id ∈ first ∧ one.isAlive
  · have down := fallen reached.1
    have same : terrain.sear first one = terrain.scorch one := if_pos reached
    rw [same] at down ⊢
    have left : terrain.sear (first ++ rest) one = terrain.scorch one :=
      if_pos ⟨List.mem_append_left rest reached.1, reached.2⟩
    rw [left]
    exact if_neg fun both => down both.2
  · have same : terrain.sear first one = one := if_neg reached
    rw [same]
    have here : (one.id ∈ rest ∧ one.isAlive) ↔ (one.id ∈ first ++ rest ∧ one.isAlive) := by
      rw [List.mem_append]
      tauto
    unfold sear
    simp only [here]

namespace Battlefield

variable {field : Battlefield} {id : CombatantId} {reached first : List CombatantId}

theorem isAlive_of_mem (distinct : field.Distinct) {one : Combatant} (mem : one ∈ field.roster) :
    field.isAlive one.id = one.isAlive := by
  unfold isAlive
  rw [(find?_eq_some_iff distinct).mpr ⟨mem, rfl⟩]
  rfl

theorem isAlive_sear : (field.sear reached).isAlive id
    = (field.find? id).any fun one => (field.terrain.sear reached one).isAlive :=
  isAlive_map (field.terrain.id_sear reached)

theorem distinct_sear (distinct : field.Distinct) : (field.sear reached).Distinct :=
  distinct_map distinct (field.terrain.id_sear reached)

theorem isAlive_of_isAlive_sear (alive : (field.sear reached).isAlive id) : field.isAlive id := by
  rw [isAlive_sear] at alive
  unfold isAlive
  rcases found : field.find? id with _ | one
  · simp [found] at alive
  · rw [found] at alive
    exact Terrain.isAlive_of_sear alive

@[simp] theorem sear_nil (field : Battlefield) : field.sear [] = field := by
  have same : field.roster.map (field.terrain.sear []) = field.roster :=
    (List.map_congr_left fun one _ => if_neg (by simp)).trans (List.map_id _)
  unfold sear
  rw [same]

theorem sear_sear (distinct : field.Distinct)
    (fallen : ∀ id ∈ first, ¬(field.sear first).isAlive id) (rest : List CombatantId) :
    (field.sear first).sear rest = field.sear (first ++ rest) := by
  have each : (field.roster.map (field.terrain.sear first)).map (field.terrain.sear rest)
      = field.roster.map (field.terrain.sear (first ++ rest)) := by
    rw [List.map_map]
    refine List.map_congr_left fun one mem => field.terrain.sear_sear (fun here => ?_) rest
    have down := fallen one.id here
    rwa [isAlive_sear, (find?_eq_some_iff distinct).mpr ⟨mem, rfl⟩] at down
  unfold sear
  rw [← each]

@[simp] theorem isAlive_age : field.age.isAlive id = field.isAlive id := by
  unfold age
  rw [isAlive_map fun one => by
    split
    · exact Combatant.id_of_stance (Combatant.wanes_tickConditions one).stance
    · rfl]
  unfold isAlive
  congr 1
  funext one
  split
  · exact Combatant.isAlive_of_pools (by simp)
  · rfl

/-- Whoever is not alive is passed over. -/
theorem sear_cons_of_not_isAlive (distinct : field.Distinct) (down : ¬field.isAlive id)
    (rest : List CombatantId) : field.sear (id :: rest) = field.sear rest := by
  have idle : field.sear [id] = field := by
    have same : field.roster.map (field.terrain.sear [id]) = field.roster := by
      refine (List.map_congr_left fun one mem => if_neg fun ⟨here, alive⟩ => down ?_).trans
        (List.map_id _)
      obtain rfl := List.mem_singleton.mp here
      rwa [isAlive_of_mem distinct mem]
    unfold sear
    rw [same]
  have fallen : ∀ other ∈ [id], ¬(field.sear [id]).isAlive other := by
    intro other mem
    obtain rfl := List.mem_singleton.mp mem
    rwa [idle]
  rw [← List.singleton_append, ← sear_sear distinct fallen, idle]

theorem sear_of_down (distinct : field.Distinct) (down : ∀ id ∈ reached, ¬field.isAlive id) :
    field.sear reached = field := by
  induction reached with
  | nil => exact sear_nil field
  | cons id rest hyp =>
    rw [sear_cons_of_not_isAlive distinct (down id (by simp))]
    exact hyp fun other mem => down other (List.mem_cons_of_mem _ mem)

theorem update_scorch_eq (distinct : field.Distinct) {one : Combatant}
    (found : field.find? id = some one) (alive : one.isAlive) :
    (field.update id fun _ => field.terrain.scorch one) = field.sear [id] := by
  rw [update_eq_map distinct]
  have each : field.roster.map (fun other => if other.id = id then field.terrain.scorch one else other)
      = field.roster.map (field.terrain.sear [id]) := by
    refine List.map_congr_left fun other mem => ?_
    by_cases same : other.id = id
    · obtain rfl : one = other := Option.some.inj
        (found.symm.trans ((find?_eq_some_iff distinct).mpr ⟨mem, same⟩))
      rw [if_pos same]
      exact (if_pos ⟨List.mem_singleton.mpr same, alive⟩).symm
    · rw [if_neg same]
      exact (if_neg fun both => same (List.mem_singleton.mp both.1)).symm
  unfold sear
  rw [each]

theorem distinct_age (distinct : field.Distinct) : field.age.Distinct :=
  distinct_map distinct fun one => by
    split
    · exact Combatant.id_of_stance (Combatant.wanes_tickConditions one).stance
    · rfl

/-- A turn that begins, in terms of everyone at once. -/
theorem begun_eq (distinct : field.Distinct) (alive : field.isAlive id) (tickDue : Bool) :
    field.begun id tickDue
      = let aged := if tickDue then (field.sear [id]).age else field.sear [id]
        if aged.isAlive id then aged.greet id else aged := by
  obtain ⟨one, found, up⟩ := isAlive_iff_find?.mp alive
  have distinctAged : (if tickDue then (field.sear [id]).age else field.sear [id]).Distinct := by
    split
    · exact distinct_age (distinct_sear distinct)
    · exact distinct_sear distinct
  unfold begun
  rw [found]
  dsimp only
  rw [update_scorch_eq distinct found up]
  generalize (if tickDue then (field.sear [id]).age else field.sear [id]) = aged at *
  rcases there : aged.find? id with _ | two
  · simp [isAlive, there]
  · have same : aged.isAlive id = two.isAlive := by simp [isAlive, there]
    have greets : aged.update id (·.resetTurn) = aged.greet id := update_eq_map distinctAged _
    dsimp only
    rw [same, greets]

end Battlefield

/-! ### Walking over some slots -/

/-- How a walk over some slots ends. -/
inductive Stretch where
  /-- Somebody has survived and has the next turn. -/
  | stops (field : Battlefield) (actor : CombatantId)
  /-- Nobody has. A round may still be due. -/
  | passes (field : Battlefield) (tickDue : Bool)

/-- The walk over some slots. -/
def Battlefield.walk : List CombatantId → Battlefield → Bool → Stretch
  | [], field, tickDue => .passes field tickDue
  | id :: rest, field, tickDue =>
    if field.isAlive id then
      if (field.begun id tickDue).isAlive id then .stops (field.begun id tickDue) id
      else walk rest (field.begun id tickDue) false
    else walk rest field tickDue

/-- What a walk over some slots does where no round is due. -/
inductive Strides (ids : List CombatantId) (field : Battlefield) : Stretch → Prop
  | stops {before after : List CombatantId} {id : CombatantId} (split : ids = before ++ id :: after)
      (alive : field.isAlive id) (fallen : ∀ other ∈ before, ¬(field.sear before).isAlive other)
      (stands : (field.sear (before ++ [id])).isAlive id) :
      Strides ids field (.stops ((field.sear (before ++ [id])).greet id) id)
  | passes (fallen : ∀ id ∈ ids, ¬(field.sear ids).isAlive id) :
      Strides ids field (.passes (field.sear ids) false)

namespace Battlefield

variable {field : Battlefield} {id : CombatantId}

@[simp] theorem isAlive_greet (other : CombatantId) :
    (field.greet other).isAlive id = field.isAlive id := by
  unfold greet
  rw [isAlive_map fun one => by split <;> rfl]
  unfold isAlive
  congr 1
  funext one
  split <;> rfl

end Battlefield

open Battlefield

variable {field : Battlefield} {id : CombatantId}

/-- Whoever is down, or falls to a hazard, is passed over: the walk goes on with the slots behind. -/
theorem Strides.cons {ids : List CombatantId} {outcome : Stretch} (distinct : field.Distinct)
    (down : ¬(field.sear [id]).isAlive id) (strides : Strides ids (field.sear [id]) outcome) :
    Strides (id :: ids) field outcome := by
  have further : ∀ rest, (field.sear [id]).sear rest = field.sear (id :: rest) :=
    sear_sear distinct fun other mem => List.mem_singleton.mp mem ▸ down
  have fallen : ∀ {before : List CombatantId},
      (∀ other ∈ before, ¬((field.sear [id]).sear before).isAlive other) →
        ∀ other ∈ id :: before, ¬(field.sear (id :: before)).isAlive other := by
    intro before fallen other mem
    rw [← further]
    rcases List.mem_cons.mp mem with rfl | mem
    · exact fun up => down (isAlive_of_isAlive_sear up)
    · exact fallen other mem
  cases strides with
  | @stops before after other split alive fallen' stands =>
    rw [further] at stands ⊢
    exact .stops (show id :: ids = (id :: before) ++ other :: after by rw [split]; rfl)
      (isAlive_of_isAlive_sear alive) (fallen fallen') stands
  | passes fallen' =>
    rw [further]
    exact .passes (fallen fallen')

theorem strides_walk (ids : List CombatantId) {field : Battlefield} (distinct : field.Distinct) :
    Strides ids field (walk ids field false) := by
  induction ids generalizing field with
  | nil =>
    have passes : Strides [] field (.passes (field.sear []) false) :=
      .passes fun _ mem => absurd mem (by simp)
    rwa [sear_nil] at passes
  | cons id rest hyp =>
    by_cases alive : field.isAlive id
    · have begins := begun_eq distinct alive false
      simp only [Bool.false_eq_true, ↓reduceIte] at begins
      simp only [walk, alive, ↓reduceIte, begins]
      by_cases stands : (field.sear [id]).isAlive id
      · simp only [stands, ↓reduceIte, isAlive_greet]
        exact .stops (show id :: rest = [] ++ id :: rest from rfl) alive (by simp) stands
      · simp only [stands, Bool.false_eq_true, ↓reduceIte]
        exact .cons distinct stands (hyp (distinct_sear distinct))
    · simp only [walk, alive, Bool.false_eq_true, ↓reduceIte]
      -- No hazard changes who is down already.
      have idle : field.sear [id] = field := by
        rw [sear_cons_of_not_isAlive distinct alive, sear_nil]
      have strides : Strides rest (field.sear [id]) (walk rest field false) := by
        rw [idle]
        exact hyp distinct
      rw [← idle] at alive
      exact strides.cons distinct alive

/-- What a walk over some slots does where a round is due. The first that is reached alive suffers
its hazard before everyone's conditions lose the round. -/
inductive AgedStrides (ids : List CombatantId) (field : Battlefield) : Stretch → Prop
  | idle (down : ∀ id ∈ ids, ¬field.isAlive id) : AgedStrides ids field (.passes field true)
  | stops {before after : List CombatantId} {id : CombatantId} (split : ids = before ++ id :: after)
      (down : ∀ other ∈ before, ¬field.isAlive other) (alive : field.isAlive id)
      (stands : (field.sear [id]).age.isAlive id) :
      AgedStrides ids field (.stops ((field.sear [id]).age.greet id) id)
  | goesOn {before after : List CombatantId} {id : CombatantId} {outcome : Stretch}
      (split : ids = before ++ id :: after) (down : ∀ other ∈ before, ¬field.isAlive other)
      (alive : field.isAlive id) (fallen : ¬(field.sear [id]).age.isAlive id)
      (strides : Strides after (field.sear [id]).age outcome) : AgedStrides ids field outcome

theorem AgedStrides.cons {ids : List CombatantId} {outcome : Stretch} (down : ¬field.isAlive id)
    (strides : AgedStrides ids field outcome) : AgedStrides (id :: ids) field outcome := by
  have downHere : ∀ {before : List CombatantId}, (∀ one ∈ before, ¬field.isAlive one) →
      ∀ one ∈ id :: before, ¬field.isAlive one := fun downThere one mem =>
    (List.mem_cons.mp mem).elim (fun same => same ▸ down) (downThere one)
  cases strides with
  | idle downThere => exact .idle (downHere downThere)
  | @stops before after other split downThere alive stands =>
    exact .stops (show id :: ids = (id :: before) ++ other :: after by rw [split]; rfl)
      (downHere downThere) alive stands
  | @goesOn before after other _ split downThere alive fallen strides =>
    exact .goesOn (show id :: ids = (id :: before) ++ other :: after by rw [split]; rfl)
      (downHere downThere) alive fallen strides

theorem agedStrides_walk (ids : List CombatantId) {field : Battlefield}
    (distinct : field.Distinct) : AgedStrides ids field (walk ids field true) := by
  induction ids with
  | nil => exact .idle fun _ mem => absurd mem (by simp)
  | cons id rest hyp =>
    by_cases alive : field.isAlive id
    · have begins := begun_eq distinct alive true
      simp only [↓reduceIte] at begins
      simp only [walk, alive, ↓reduceIte, begins]
      by_cases stands : (field.sear [id]).age.isAlive id
      · simp only [stands, ↓reduceIte, isAlive_greet]
        exact .stops (show id :: rest = [] ++ id :: rest from rfl) (by simp) alive stands
      · simp only [stands, Bool.false_eq_true, ↓reduceIte]
        exact .goesOn (show id :: rest = [] ++ id :: rest from rfl) (by simp) alive stands
          (strides_walk _ (distinct_age (distinct_sear distinct)))
    · simp only [walk, alive, Bool.false_eq_true, ↓reduceIte]
      exact hyp.cons alive

/-! ### Seeking along the slots -/

namespace TurnOrder

variable {order : TurnOrder} {id : CombatantId} {rest : List CombatantId}

theorem current?_of_drop (ahead : order.ids.drop order.index = id :: rest) :
    order.current? = some id := by
  have here : (order.ids.drop order.index)[0]? = order.ids[order.index]? := by simp
  rw [ahead] at here
  simpa [current?, ids] using here.symm

/-- The last slot of a round is the one after which nobody is left. -/
theorem wraps_of_drop (ahead : order.ids.drop order.index = id :: rest) :
    order.wraps = decide (rest = []) := by
  have long := congrArg List.length ahead
  simp only [List.length_drop, ids, List.length_map, List.length_cons] at long
  have manned : order.slots.isEmpty = false := by
    rw [List.isEmpty_eq_false_iff]
    intro empty
    simp [empty] at long
  have last : order.slots.length ≤ order.index + 1 ↔ rest = [] := by
    rw [← List.length_eq_zero_iff]
    omega
  simp [wraps, manned, last]

theorem slots_ne_nil (manned : order.ids ≠ []) : order.slots ≠ [] := fun empty =>
  manned (by simp [ids, empty])

/-- Where somebody has a slot, the next one starts a new round if none is left in this one. -/
theorem wraps_iff (manned : order.ids ≠ []) :
    order.wraps ↔ order.ids.drop (order.index + 1) = [] := by
  simp [wraps, slots_ne_nil manned, ids]

theorem advance_of_drop (ahead : order.ids.drop order.index = id :: rest) :
    order.advance = { order with index := if rest = [] then 0 else order.index + 1 } := by
  have manned : order.slots.isEmpty = false := by
    rw [List.isEmpty_eq_false_iff]
    intro empty
    simp [ids, empty] at ahead
  unfold advance
  rw [wraps_of_drop ahead, manned]
  by_cases last : rest = [] <;> simp [last]

theorem drop_succ_of_drop (ahead : order.ids.drop order.index = id :: rest) :
    order.ids.drop (order.index + 1) = rest := by
  rw [← List.drop_drop, ahead]
  rfl

end TurnOrder

namespace Combat

/-- Where seeking over `steps` slots, after which `rest` of the round is left, has led to. -/
def Reaches (combat : Combat) (report : TurnReport) (steps : Nat) (rest : List CombatantId)
    (fuel : Nat) (result : TurnReport × Combat) : Stretch → Prop
  | .stops field actor => ∃ log index, result = ({ report with log, actor := some actor },
      { combat with field, order := { combat.order with index } })
  | .passes field tickDue => ∃ log, result
      = ({ combat with
          field
          order := { combat.order with index := if rest = [] then 0 else combat.order.index + steps }
          round := if rest = [] then combat.round + 1 else combat.round } : Combat).seek fuel
        { report with log, newRound := report.newRound || rest = [] } (tickDue || rest = [])

theorem seek_reaches (combat : Combat) (pass rest : List CombatantId) (some : pass ≠ [])
    (ahead : combat.order.ids.drop combat.order.index = pass ++ rest) (fuel : Nat)
    (report : TurnReport) (tickDue : Bool) :
    combat.Reaches report pass.length rest fuel (combat.seek (pass.length + fuel) report tickDue)
      (walk pass combat.field tickDue) := by
  induction pass generalizing combat report tickDue with
  | nil => exact absurd rfl some
  | cons id later hyp =>
    have here := TurnOrder.current?_of_drop ahead
    have wraps := TurnOrder.wraps_of_drop ahead
    have advances := TurnOrder.advance_of_drop ahead
    -- What happens from the next slot on, whatever the first one did to the field.
    have onward : ∀ (field : Battlefield) (report : TurnReport) (tickDue : Bool),
        combat.Reaches report (later.length + 1) rest fuel
          (({ combat with field } : Combat).advance.seek (later.length + fuel)
            { report with newRound := report.newRound || combat.order.wraps }
            (tickDue || combat.order.wraps))
          (walk later field tickDue) := by
      intro field report tickDue
      cases later with
      | nil =>
        refine ⟨report.log, ?_⟩
        simp only [advance, advances, wraps, List.length_nil, Nat.zero_add]
        by_cases last : rest = [] <;> simp [last]
      | cons next more =>
        have same : combat.order.wraps = false := by simpa using wraps
        have index : combat.order.advance = { combat.order with index := combat.order.index + 1 } := by
          simpa using advances
        have reaches := hyp ({ combat with field } : Combat).advance (by simp)
          (by simp only [advance, index]; exact TurnOrder.drop_succ_of_drop ahead)
          { report with newRound := report.newRound || combat.order.wraps }
          (tickDue || combat.order.wraps)
        simp only [advance, same, index, Bool.or_false, Bool.false_eq_true, ↓reduceIte] at reaches ⊢
        generalize walk (next :: more) field tickDue = outcome at reaches ⊢
        cases outcome with
        | stops field actor => exact reaches
        | passes field tickDue =>
          obtain ⟨log, eq⟩ := reaches
          have far : combat.order.index + 1 + (next :: more).length
              = combat.order.index + ((next :: more).length + 1) := by omega
          refine ⟨log, eq.trans ?_⟩
          simp only [far]
    have steps : (id :: later).length + fuel = later.length + fuel + 1 := by
      rw [List.length_cons]
      omega
    have alike : combat.isAlive id = combat.field.isAlive id := rfl
    obtain ⟨log, begins⟩ := combat.beginTurn_eq id tickDue
    rw [steps]
    simp only [seek, here, walk, alike, begins, List.length_cons]
    by_cases alive : combat.field.isAlive id
    · simp only [alive, ↓reduceIte]
      have alikeThen : ({ combat with field := combat.field.begun id tickDue } : Combat).isAlive id
          = (combat.field.begun id tickDue).isAlive id := rfl
      rw [alikeThen]
      by_cases stands : (combat.field.begun id tickDue).isAlive id
      · simp only [stands, ↓reduceIte]
        exact ⟨_, combat.order.index, rfl⟩
      · simp only [stands, Bool.false_eq_true, ↓reduceIte]
        have reaches := onward (combat.field.begun id tickDue)
          { report with log := report.log ++ log } false
        generalize walk later _ false = outcome at reaches ⊢
        cases outcome <;> exact reaches
    · simp only [alive, Bool.false_eq_true, ↓reduceIte]
      exact onward combat.field report tickDue

/-- Where nobody is alive, nobody is found. -/
theorem seek_of_fallen (combat : Combat) (fallen : ∀ id, ¬combat.field.isAlive id) (fuel : Nat)
    (report : TurnReport) (tickDue : Bool) :
    (combat.seek fuel report tickDue).1.actor = report.actor ∧
      (combat.seek fuel report tickDue).2.field = combat.field := by
  induction fuel generalizing combat report tickDue with
  | zero => exact ⟨rfl, rfl⟩
  | succ fuel hyp =>
    have onward := hyp combat.advance fallen
      { report with newRound := report.newRound || combat.order.wraps }
      (tickDue || combat.order.wraps)
    unfold seek
    dsimp only
    split
    · exact onward
    · rename_i id _
      have down : ¬combat.isAlive id := fallen id
      simp only [down, Bool.false_eq_true, ↓reduceIte]
      exact onward

end Combat

end Skirmish
