/-
**Whose turn comes next.** Ending a turn walks along the slots from the one after the current slot,
and once around at most.

* `Walk`: such a walk; `Walk.fate` is what it does to a combatant;
* `Walk.Follows`: the order of the slots is kept, the walk stops at the first that survives, and
  conditions lose a round exactly where it has come to a new one;
* `Walk.bare_fate`: what is different about a combatant afterwards;
* `Fight.handover_endTurn`: ending a turn is a walk.
-/

import Skirmish.Proofs.Runs
import Skirmish.Proofs.Strides

namespace Skirmish

/-- What the hazard underfoot costs a combatant. -/
def Terrain.toll (terrain : Terrain) (one : Combatant) : Int :=
  match terrain.hazard? one.position with
  | none => 0
  | some hazard => min one.hitPoints
      (mitigate hazard.damage (.ofConditions one (some hazard.damageType)) true false)

/-! ### Combatants but for their flags -/

namespace Combatant

/-- A combatant but for its flags. -/
def bare (one : Combatant) : Combatant := { one with flags := {} }

/-- A combatant with other hit points. -/
def withHitPoints (one : Combatant) (hitPoints : Int) : Combatant :=
  { one with pools.hitPoints.current := hitPoints }

/-- A combatant with other conditions. -/
def withConditions (one : Combatant) (conditions : ConditionSet) : Combatant :=
  { one with conditions }

/-- A combatant after a round has been taken off its conditions, if it is alive and one is due. -/
def aged (one : Combatant) (tickDue : Bool) : Combatant :=
  if tickDue ∧ one.isAlive then one.tickConditions else one

variable {one : Combatant}

theorem bare_damagePool (one : Combatant) (pool : Pool) (amount : Int) :
    (one.damagePool pool amount).bare
      = { one.bare with pools := one.pools.set pool ((one.pool pool).drain amount) } := by
  unfold damagePool syncDepleted
  split <;> rfl

theorem bare_tickConditions (one : Combatant) :
    one.tickConditions.bare = one.bare.withConditions one.conditions.tick :=
  view_lowerFlags bare (fun _ _ => rfl) one.conditions.expiring _

theorem bare_aged (one : Combatant) (tickDue : Bool) :
    (one.aged tickDue).bare = one.bare.withConditions
      (if tickDue ∧ one.isAlive then one.conditions.tick else one.conditions) := by
  unfold aged
  split
  · exact bare_tickConditions one
  · rfl

theorem pools_aged (one : Combatant) (tickDue : Bool) : (one.aged tickDue).pools = one.pools := by
  unfold aged
  split
  · exact pools_tickConditions one
  · rfl

theorem id_aged (one : Combatant) (tickDue : Bool) : (one.aged tickDue).id = one.id := by
  unfold aged
  split
  · exact id_of_stance (stance_tickConditions one)
  · rfl

end Combatant

namespace Terrain

variable {terrain : Terrain} {one : Combatant}

/-- A hazard takes its toll and nothing else. -/
theorem bare_scorch (fits : one.pools.hitPoints.InRange) :
    (terrain.scorch one).bare = one.bare.withHitPoints (one.hitPoints - terrain.toll one) := by
  unfold scorch toll Combat.suffer
  cases terrain.hazard? one.position with
  | none =>
    simp only [Int.sub_zero]
    rfl
  | some hazard =>
    have left := Gauge.current_drain fits (mitigate_nonneg hazard.damage
      (.ofConditions one (some hazard.damageType)) true false)
    dsimp only
    rw [Combatant.takeDamage, Combatant.bare_damagePool, Combatant.hitPoints, ← left]
    rfl

theorem bare_sear (reached : List CombatantId) (fits : one.pools.hitPoints.InRange) :
    (terrain.sear reached one).bare = one.bare.withHitPoints
      (one.hitPoints - if one.id ∈ reached ∧ one.isAlive then terrain.toll one else 0) := by
  unfold sear
  split
  · exact bare_scorch fits
  · simp only [Int.sub_zero]
    rfl

end Terrain

open Battlefield

/-! ### Whole walks -/

/-- A walk along the slots. -/
structure Walk where
  /-- Who is reached before conditions lose a round. -/
  early : List CombatantId
  /-- Who is reached afterwards. -/
  late : List CombatantId
  /-- Conditions lose a round. -/
  ticks : Bool
  /-- Who has the next turn. -/
  actor : Option CombatantId

namespace Walk

/-- Everyone who is reached, in order. -/
def reached (walk : Walk) : List CombatantId := walk.early ++ walk.late

/-- What a walk does to a combatant, but for a fresh turn. -/
def burn (walk : Walk) (terrain : Terrain) (one : Combatant) : Combatant :=
  terrain.sear walk.late ((terrain.sear walk.early one).aged walk.ticks)

/-- What a walk does to a combatant. -/
def fate (walk : Walk) (terrain : Terrain) (one : Combatant) : Combatant :=
  if walk.actor = some one.id then (walk.burn terrain one).resetTurn else walk.burn terrain one

/-- The field in the wake of a walk. -/
def wake (walk : Walk) (field : Battlefield) : Battlefield :=
  { field with roster := field.roster.map (walk.fate field.terrain) }

/-- A walk over the slots `ahead` and then, in a new round, over the slots `beyond`. -/
structure Follows (walk : Walk) (field : Battlefield) (ahead beyond : List CombatantId) :
    Prop where
  /-- The slots are walked in order. -/
  inOrder : walk.reached <+: ahead ++ beyond
  /-- The walk stops at the first that survives. -/
  stops : ∀ id, walk.actor = some id →
    walk.reached.getLast? = some id ∧ field.isAlive id ∧ (walk.wake field).isAlive id
  fallen : ∀ id ∈ walk.reached, walk.actor ≠ some id → ¬(walk.wake field).isAlive id
  /-- Nobody is found only where nobody is left. -/
  exhausted : walk.actor = none → ∀ id, ¬(walk.wake field).isAlive id
  /-- Within the round no conditions change. -/
  within : walk.actor.isSome → walk.ticks = false → walk.late = [] ∧ walk.early <+: ahead
  /-- In a new round they do once the first that is reached alive has suffered its hazard. -/
  anew : walk.ticks → ∃ skipped first, walk.early = ahead ++ skipped ++ [first] ∧
    (∀ id ∈ skipped, ¬(field.sear ahead).isAlive id) ∧ (field.sear ahead).isAlive first

variable {field : Battlefield}

/-- The field as a walk leaves it before anybody is given a fresh turn. -/
def burns (walk : Walk) (field : Battlefield) : Battlefield :=
  (if walk.ticks then (field.sear walk.early).age else field.sear walk.early).sear walk.late

theorem id_burn (walk : Walk) (terrain : Terrain) (one : Combatant) :
    (walk.burn terrain one).id = one.id := by
  unfold burn
  rw [Terrain.id_sear, Combatant.id_aged, Terrain.id_sear]

theorem burns_eq (walk : Walk) (field : Battlefield) : walk.burns field
    = { field with roster := field.roster.map (walk.burn field.terrain) } := by
  obtain ⟨early, late, ticks, actor⟩ := walk
  have each : ∀ one, (Walk.mk early late ticks actor).burn field.terrain one
      = field.terrain.sear late (if ticks then
          if (field.terrain.sear early one).isAlive then (field.terrain.sear early one).tickConditions
          else field.terrain.sear early one
        else field.terrain.sear early one) := by
    intro one
    cases ticks <;> simp [burn, Combatant.aged]
  cases ticks <;> simp [burns, sear, age, each, Function.comp_def]

theorem wake_eq (walk : Walk) (field : Battlefield) : walk.wake field
    = match walk.actor with
      | some id => (walk.burns field).greet id
      | none => walk.burns field := by
  rw [burns_eq]
  obtain ⟨early, late, ticks, actor⟩ := walk
  cases actor with
  | none => simp [wake, fate]
  | some id =>
    simp only [wake, greet, List.map_map]
    congr 1
    refine List.map_congr_left fun one _ => ?_
    simp only [fate, Function.comp_apply, id_burn, Option.some.injEq, eq_comm]

theorem isAlive_wake (walk : Walk) (field : Battlefield) (id : CombatantId) :
    (walk.wake field).isAlive id = (walk.burns field).isAlive id := by
  rw [wake_eq]
  split
  · exact isAlive_greet _
  · rfl

variable {ahead beyond : List CombatantId} {outcome : Stretch} {final : Battlefield}
  {actor : CombatantId}

/-- A walk that stops within the round. -/
theorem follows_within (distinct : field.Distinct) (beyond : List CombatantId)
    (strides : Strides ahead field (.stops final actor)) :
    ∃ walk : Walk, walk.Follows field ahead beyond ∧ walk.actor = some actor ∧
      walk.ticks = false ∧ final = walk.wake field := by
  cases strides with
  | @stops before after _ split alive fallen stands =>
    have burns : (Walk.mk (before ++ [actor]) [] false (some actor)).burns field
        = field.sear (before ++ [actor]) := sear_nil _
    refine ⟨⟨before ++ [actor], [], false, some actor⟩, ?_, rfl, rfl, ?_⟩
    · refine ⟨?_, fun id same => ?_, fun id mem ne => ?_, by simp, fun _ _ => ⟨rfl, ?_⟩, by simp⟩
      · exact ⟨after ++ beyond, by simp [reached, split]⟩
      · obtain rfl := Option.some.inj same
        refine ⟨by simp [reached], alive, ?_⟩
        rwa [isAlive_wake, burns]
      · have before' : id ∈ before := by
          simp only [reached, List.append_nil, List.mem_append, List.mem_singleton] at mem
          exact mem.resolve_right fun same => ne (by rw [same])
        rw [isAlive_wake, burns, ← sear_sear distinct fallen]
        exact fun up => fallen id before' (isAlive_of_isAlive_sear up)
      · exact ⟨after, by simp [split]⟩
    · rw [wake_eq, burns]

/-- The field once the first that is reached alive in the new round has suffered its hazard. -/
theorem sear_first (distinct : field.Distinct) (skipped : List CombatantId) (first : CombatantId)
    (fallen : ∀ id ∈ ahead, ¬(field.sear ahead).isAlive id)
    (down : ∀ id ∈ skipped, ¬(field.sear ahead).isAlive id) :
    field.sear (ahead ++ skipped ++ [first]) = (field.sear ahead).sear [first] := by
  have idle := sear_of_down (distinct_sear distinct) down
  have skips : (field.sear ahead).sear (skipped ++ [first]) = (field.sear ahead).sear [first] := by
    rw [← sear_sear (distinct_sear distinct) (by rwa [idle]), idle]
  rw [List.append_assoc, ← sear_sear distinct fallen, skips]

/-- The field after a walk into a new round: its conditions lose the round once that one has suffered
its hazard, and before those behind suffer theirs. -/
theorem burns_anew (distinct : field.Distinct) (skipped : List CombatantId) (first : CombatantId)
    (fallen : ∀ id ∈ ahead, ¬(field.sear ahead).isAlive id)
    (down : ∀ id ∈ skipped, ¬(field.sear ahead).isAlive id) (late : List CombatantId)
    (actor : Option CombatantId) :
    (Walk.mk (ahead ++ skipped ++ [first]) late true actor).burns field
      = ((field.sear ahead).sear [first]).age.sear late := by
  rw [← sear_first distinct skipped first fallen down]
  rfl

/-- A walk that goes on into a new round. -/
theorem follows_anew (distinct : field.Distinct)
    (fallen : ∀ id ∈ ahead, ¬(field.sear ahead).isAlive id)
    (strides : AgedStrides beyond (field.sear ahead) (.stops final actor)) :
    ∃ walk : Walk, walk.Follows field ahead beyond ∧ walk.actor = some actor ∧
      walk.ticks = true ∧ final = walk.wake field := by
  cases strides with
  | @stops skipped after _ split down alive stands =>
    have burns := (burns_anew distinct skipped actor fallen down [] (some actor)).trans (sear_nil _)
    refine ⟨⟨ahead ++ skipped ++ [actor], [], true, some actor⟩, ?_, rfl, rfl, ?_⟩
    · refine ⟨?_, fun id same => ?_, fun id mem ne => ?_, by simp, by simp,
        fun _ => ⟨skipped, actor, rfl, down, alive⟩⟩
      · exact ⟨after, by simp [reached, split]⟩
      · obtain rfl := Option.some.inj same
        refine ⟨by simp [reached], isAlive_of_isAlive_sear alive, ?_⟩
        rwa [isAlive_wake, burns]
      · have before : id ∈ ahead ∨ id ∈ skipped := by
          simp only [reached, List.append_nil, List.mem_append, List.mem_singleton] at mem
          exact mem.resolve_right fun same => ne (by rw [same])
        rw [isAlive_wake, burns, isAlive_age]
        exact fun up => before.elim (fallen id) (down id) (isAlive_of_isAlive_sear up)
    · rw [wake_eq, burns]
  | @goesOn skipped rest first _ split down alive fallenFirst strides =>
    have distinctAged : ((field.sear ahead).sear [first]).age.Distinct :=
      distinct_age (distinct_sear (distinct_sear distinct))
    cases strides with
    | @stops before after _ split' alive' fallen' stands =>
      have burns := burns_anew distinct skipped first fallen down (before ++ [actor]) (some actor)
      refine ⟨⟨ahead ++ skipped ++ [first], before ++ [actor], true, some actor⟩, ?_, rfl, rfl, ?_⟩
      · refine ⟨?_, fun id same => ?_, fun id mem ne => ?_, by simp, by simp,
          fun _ => ⟨skipped, first, rfl, down, alive⟩⟩
        · exact ⟨after, by simp [reached, split, split']⟩
        · obtain rfl := Option.some.inj same
          rw [isAlive_age] at alive'
          refine ⟨by rw [reached, ← List.append_assoc, List.getLast?_concat],
            isAlive_of_isAlive_sear (isAlive_of_isAlive_sear alive'), ?_⟩
          rwa [isAlive_wake, burns]
        · rw [isAlive_wake, burns, ← sear_sear distinctAged fallen']
          intro up
          have up' := isAlive_of_isAlive_sear up
          have aged := isAlive_of_isAlive_sear up'
          simp only [reached, List.mem_append, List.mem_singleton] at mem
          rcases mem with ((mem | mem) | rfl) | mem | rfl
          · exact fallen id mem (isAlive_of_isAlive_sear (by rwa [isAlive_age] at aged))
          · exact down id mem (isAlive_of_isAlive_sear (by rwa [isAlive_age] at aged))
          · exact fallenFirst aged
          · exact fallen' id mem up'
          · exact ne rfl
      · rw [wake_eq, burns]

/-- A walk that has gone over all slots. -/
theorem follows_through (distinct : field.Distinct)
    (fallen : ∀ id ∈ ahead, ¬(field.sear ahead).isAlive id)
    (seated : ∀ id, field.isAlive id → id ∈ ahead ++ beyond) {tickDue : Bool}
    (strides : AgedStrides beyond (field.sear ahead) (.passes final tickDue)) :
    ∃ walk : Walk, walk.Follows field ahead beyond ∧ walk.actor = none ∧ final = walk.wake field := by
  cases strides with
  | idle down =>
    have burns : (Walk.mk (ahead ++ beyond) [] false none).burns field = field.sear ahead := by
      have idle := sear_of_down (distinct_sear distinct) down
      rw [sear_sear distinct fallen] at idle
      exact (sear_nil _).trans idle
    have exhausted : ∀ id, ¬((Walk.mk (ahead ++ beyond) [] false none).wake field).isAlive id := by
      intro id
      rw [isAlive_wake, burns]
      intro up
      rcases List.mem_append.mp (seated id (isAlive_of_isAlive_sear up)) with mem | mem
      · exact fallen id mem up
      · exact down id mem up
    refine ⟨⟨ahead ++ beyond, [], false, none⟩, ?_, rfl, ?_⟩
    · exact ⟨by simp [reached], by simp, fun id _ _ => exhausted id, fun _ => exhausted, by simp,
        by simp⟩
    · rw [wake_eq, burns]
  | @goesOn skipped rest first _ split down alive fallenFirst strides =>
    cases strides with
    | passes fallen' =>
      have burns := burns_anew distinct skipped first fallen down rest none
      have exhausted : ∀ id,
          ¬((Walk.mk (ahead ++ skipped ++ [first]) rest true none).wake field).isAlive id := by
        intro id
        rw [isAlive_wake, burns]
        intro up
        have aged := isAlive_of_isAlive_sear up
        have first' := aged
        rw [isAlive_age] at first'
        have up' := isAlive_of_isAlive_sear first'
        have mem := seated id (isAlive_of_isAlive_sear up')
        simp only [split, List.mem_append, List.mem_cons] at mem
        rcases mem with mem | mem | rfl | mem
        · exact fallen id mem up'
        · exact down id mem up'
        · exact fallenFirst aged
        · exact fallen' id mem up
      refine ⟨⟨ahead ++ skipped ++ [first], rest, true, none⟩, ?_, rfl, ?_⟩
      · exact ⟨by simp [reached, split], by simp, fun id _ _ => exhausted id, fun _ => exhausted,
          by simp, fun _ => ⟨skipped, first, rfl, down, alive⟩⟩
      · rw [wake_eq, burns]

/-! ### What becomes of everyone -/

/-- What a walk costs a combatant: the hazard of its cell, once, where it is reached alive. -/
def loss (walk : Walk) (terrain : Terrain) (one : Combatant) : Int :=
  if one.isAlive then
    if one.id ∈ walk.early then terrain.toll one
    else if one.id ∈ walk.late then terrain.toll (one.aged walk.ticks)
    else 0
  else 0

/-- The conditions of a combatant after a walk. -/
def wear (walk : Walk) (terrain : Terrain) (one : Combatant) : ConditionSet :=
  if walk.ticks ∧ (terrain.sear walk.early one).isAlive then one.conditions.tick
  else one.conditions

variable {walk : Walk} {terrain : Terrain} {one : Combatant}

theorem bare_burn (walk : Walk) (terrain : Terrain)
    (fits : one.pools.hitPoints.InRange) (once : one.id ∈ walk.early → one.id ∉ walk.late) :
    (walk.burn terrain one).bare = (one.bare.withHitPoints
      (one.hitPoints - walk.loss terrain one)).withConditions (walk.wear terrain one) := by
  unfold burn
  by_cases early : one.id ∈ walk.early
  · -- Whoever is reached before the round is not reached after it.
    have burned := terrain.bare_sear walk.early fits
    have kept : (terrain.sear walk.early one).conditions = one.conditions :=
      (congrArg Combatant.conditions burned :)
    have here : ((terrain.sear walk.early one).aged walk.ticks).id = one.id :=
      (Combatant.id_aged _ _).trans (terrain.id_sear walk.early one)
    have skips : terrain.sear walk.late ((terrain.sear walk.early one).aged walk.ticks)
        = (terrain.sear walk.early one).aged walk.ticks :=
      if_neg fun both => once early (here ▸ both.1)
    rw [skips, Combatant.bare_aged, kept, burned]
    simp only [early, true_and, loss, wear, ↓reduceIte]
  · have idle : terrain.sear walk.early one = one := if_neg fun both => early both.1
    have pools := one.pools_aged walk.ticks
    have fits' : (one.aged walk.ticks).pools.hitPoints.InRange := by rwa [pools]
    have up := Combatant.isAlive_of_pools pools
    have left : (one.aged walk.ticks).hitPoints = one.hitPoints := by
      simp only [Combatant.hitPoints, pools]
    have cost : walk.loss terrain one
        = if one.id ∈ walk.late ∧ one.isAlive then terrain.toll (one.aged walk.ticks) else 0 := by
      simp only [loss, early, ↓reduceIte]
      split_ifs <;> simp_all
    rw [idle, Terrain.bare_sear walk.late fits', up, left, Combatant.id_aged,
      Combatant.bare_aged, cost, wear, idle]
    rfl

/-- What is different about a combatant after a walk, but for its flags. -/
theorem bare_fate (fits : one.pools.hitPoints.InRange)
    (once : one.id ∈ walk.early → one.id ∉ walk.late) :
    (walk.fate terrain one).bare = { (one.bare.withHitPoints
        (one.hitPoints - walk.loss terrain one)).withConditions (walk.wear terrain one) with
      turn := if walk.actor = some one.id then {} else one.turn } := by
  have burned := bare_burn walk terrain fits once
  unfold fate
  split
  · exact congrArg Combatant.resetTurn burned
  · rw [burned]
    rfl

end Walk

/-! ### Seeking as a walk -/

namespace Combat

variable {combat : Combat}

/-- The slots after the current one. -/
def ahead (combat : Combat) : List CombatantId := combat.order.ids.drop (combat.order.index + 1)

/-- The slots up to the current one. -/
def beyond (combat : Combat) : List CombatantId := combat.order.ids.take (combat.order.index + 1)

theorem around (combat : Combat) : combat.beyond ++ combat.ahead = combat.order.ids :=
  List.take_append_drop (combat.order.index + 1) combat.order.ids

/-- What seeking from the slot after the current one finds, and how the fight then stands. -/
structure Found (combat : Combat) (walk : Walk) (result : TurnReport × Combat) : Prop where
  follows : walk.Follows combat.field combat.ahead combat.beyond
  actor : result.1.actor = walk.actor
  field : result.2.field = walk.wake combat.field
  newRound : walk.actor.isSome → (result.1.newRound || combat.order.wraps) = walk.ticks
  round : walk.actor.isSome → result.2.round = combat.round + if walk.ticks then 1 else 0

/-- Seeking from the beginning of a new round on. -/
theorem seek_anew (field : Battlefield) (ahead beyond : List CombatantId) (next : Combat)
    (distinct : field.Distinct) (fallen : ∀ id ∈ ahead, ¬(field.sear ahead).isAlive id)
    (seated : ∀ id, field.isAlive id → id ∈ ahead ++ beyond) (some : beyond ≠ [])
    (seared : next.field = field.sear ahead)
    (slots : next.order.ids.drop next.order.index = beyond ++ ahead) (report : TurnReport)
    (nobody : report.actor = none) :
    ∃ walk : Walk, walk.Follows field ahead beyond ∧
      let result := next.seek (beyond.length + 1) report true
      result.1.actor = walk.actor ∧ result.2.field = walk.wake field ∧
        (walk.actor.isSome → walk.ticks ∧ result.1.newRound = report.newRound ∧
          result.2.round = next.round) := by
  have reaches := seek_reaches next beyond ahead some slots 1 report true
  have strides := agedStrides_walk beyond (seared ▸ distinct_sear distinct)
  generalize walk beyond next.field true = outcome at reaches strides
  rw [seared] at strides
  cases outcome with
  | stops final actor =>
    obtain ⟨log, index, eq⟩ := reaches
    obtain ⟨walk, follows, actor', ticks, left⟩ := Walk.follows_anew distinct fallen strides
    rw [eq]
    exact ⟨walk, follows, actor'.symm, left, fun _ => ⟨ticks, rfl, rfl⟩⟩
  | passes final tickDue =>
    obtain ⟨log, eq⟩ := reaches
    obtain ⟨walk, follows, nobody', left⟩ :=
      Walk.follows_through distinct fallen seated strides
    have down : ∀ id, ¬final.isAlive id := fun id => by
      rw [left]
      exact follows.exhausted nobody' id
    rw [eq]
    obtain ⟨actor, same⟩ := seek_of_fallen
      ({ next with
        field := final
        order := { next.order with
          index := if ahead = [] then 0 else next.order.index + beyond.length }
        round := if ahead = [] then next.round + 1 else next.round } : Combat) down 1
      { report with log, newRound := report.newRound || ahead = [] } (tickDue || ahead = [])
    refine ⟨walk, follows, ?_, same.trans left, fun found => ?_⟩
    · exact actor.trans (nobody.trans nobody'.symm)
    · rw [nobody'] at found
      cases found

section Found

variable (distinct : combat.field.Distinct)
  (seated : ∀ id, combat.field.isAlive id → id ∈ combat.ahead ++ combat.beyond)

include distinct seated

/-- Where nobody is alive, the walk reaches nobody. -/
theorem exists_found_of_down (down : ∀ id, ¬combat.field.isAlive id) (fuel : Nat) :
    ∃ walk, combat.Found walk (combat.advance.seek fuel {} combat.order.wraps) := by
  have later : ∀ id, ¬(combat.field.sear combat.ahead).isAlive id := fun id alive =>
    down id (isAlive_of_isAlive_sear alive)
  have idle : AgedStrides combat.beyond (combat.field.sear combat.ahead)
      (.passes (combat.field.sear combat.ahead) true) := .idle fun id _ => later id
  obtain ⟨walk, follows, nobody, left⟩ :=
    Walk.follows_through distinct (fun id _ => later id) seated idle
  rw [sear_of_down distinct fun id _ => down id] at left
  obtain ⟨actor, field⟩ := seek_of_fallen combat.advance down fuel {} combat.order.wraps
  exact ⟨walk, follows, actor.trans nobody.symm, field.trans left, by simp [nobody],
    by simp [nobody]⟩

/-- From the last slot on, the walk begins with the new round. -/
theorem exists_found_of_last (last : combat.ahead = []) (some : combat.beyond ≠ []) :
    ∃ walk, combat.Found walk
      (combat.advance.seek (combat.beyond.length + 1) {} combat.order.wraps) := by
  have around := combat.around
  rw [last, List.append_nil] at around
  have manned : combat.order.ids ≠ [] := around ▸ some
  have wraps : combat.order.wraps = true := (TurnOrder.wraps_iff manned).mpr last
  have next : combat.advance
      = { combat with order := { combat.order with index := 0 }, round := combat.round + 1 } := by
    simp [advance, TurnOrder.advance, wraps, TurnOrder.slots_ne_nil manned]
  have fallen : ∀ id ∈ combat.ahead, ¬(combat.field.sear combat.ahead).isAlive id := by
    simp [last]
  obtain ⟨walk, follows, actor, field, found⟩ := seek_anew combat.field combat.ahead
    combat.beyond combat.advance distinct fallen seated some (by rw [next, last, sear_nil])
    (by rw [next, combat.around]; rfl) {} rfl
  rw [wraps]
  refine ⟨walk, follows, actor, field, fun there => ?_, fun there => ?_⟩
  · rw [(found there).1, wraps, Bool.or_true]
  · rw [(found there).2.2, (found there).1, next]
    rfl

/-- Where slots are left in the round, the walk goes over them, and then on in the new one. -/
theorem exists_found_of_ahead (left : combat.ahead ≠ []) (some : combat.beyond ≠ []) :
    ∃ walk, combat.Found walk (combat.advance.seek
      (combat.ahead.length + (combat.beyond.length + 1)) {} combat.order.wraps) := by
  have manned : combat.order.ids ≠ [] := fun none => left (by simp [ahead, none])
  have wraps : combat.order.wraps = false := by
    rw [Bool.eq_false_iff, ne_eq, TurnOrder.wraps_iff manned]
    exact left
  have next : combat.advance
      = { combat with order := { combat.order with index := combat.order.index + 1 } } := by
    simp [advance, TurnOrder.advance, wraps, TurnOrder.slots_ne_nil manned]
  have reaches := seek_reaches combat.advance combat.ahead [] left
    (by rw [next, List.append_nil]; rfl) (combat.beyond.length + 1) {} false
  have strides := strides_walk combat.ahead distinct
  rw [wraps]
  rw [next] at reaches ⊢
  dsimp only at reaches
  generalize walk combat.ahead combat.field false = outcome at reaches strides
  cases outcome with
  | stops final actor =>
    obtain ⟨log, index, eq⟩ := reaches
    obtain ⟨walk, follows, actor', ticks, left⟩ :=
      Walk.follows_within distinct combat.beyond strides
    rw [eq]
    refine ⟨walk, follows, actor'.symm, left, fun _ => ?_, fun _ => ?_⟩
    · rw [ticks, wraps]
      rfl
    · rw [ticks]
      rfl
  | passes final tickDue =>
    obtain ⟨log, eq⟩ := reaches
    cases strides with
    | passes fallen =>
      obtain ⟨walk, follows, actor, field, found⟩ := seek_anew combat.field combat.ahead
        combat.beyond
        { combat with
          field := combat.field.sear combat.ahead
          order := { combat.order with index := 0 }
          round := combat.round + 1 } distinct fallen seated some rfl combat.around.symm
        { log, newRound := true } rfl
      rw [eq]
      refine ⟨walk, follows, actor, field, fun there => ?_, fun there => ?_⟩
      · rw [(found there).1]
        exact (congrArg (· || _) (found there).2.1).trans (Bool.true_or _)
      · rw [(found there).1]
        exact (found there).2.2

end Found

theorem exists_found (distinct : combat.field.Distinct)
    (seated : ∀ id, combat.field.isAlive id → id ∈ combat.order.ids) :
    ∃ walk, combat.Found walk
      (combat.advance.seek (combat.order.slots.length + 1) {} combat.order.wraps) := by
  have seated' : ∀ id, combat.field.isAlive id → id ∈ combat.ahead ++ combat.beyond := by
    intro id alive
    have mem := seated id alive
    rw [← combat.around] at mem
    exact List.mem_append.mpr (List.mem_append.mp mem).symm
  have long : combat.order.slots.length = combat.beyond.length + combat.ahead.length := by
    rw [← List.length_append, combat.around, TurnOrder.ids, List.length_map]
  by_cases manned : combat.order.ids = []
  · exact exists_found_of_down distinct seated' (fun id alive => by
      simpa [manned] using seated id alive) _
  have some : combat.beyond ≠ [] := by
    simpa [beyond] using manned
  by_cases last : combat.ahead = []
  · rw [long, last, List.length_nil, Nat.add_zero]
    exact exists_found_of_last distinct seated' last some
  · rw [long, Nat.add_comm combat.beyond.length, Nat.add_assoc]
    exact exists_found_of_ahead distinct seated' last some

/-- Whoever has a single slot is reached once at most. -/
theorem once_of_follows {walk : Walk} {id : CombatantId}
    (follows : walk.Follows combat.field combat.ahead combat.beyond)
    (single : combat.order.ids.count id = 1) : id ∈ walk.early → id ∉ walk.late := by
  intro early late
  have slots : walk.reached.count id ≤ (combat.ahead ++ combat.beyond).count id :=
    follows.inOrder.sublist.count_le id
  rw [List.count_append, Nat.add_comm, ← List.count_append, around, single, Walk.reached,
    List.count_append] at slots
  have one := List.count_pos_iff.mpr early
  have two := List.count_pos_iff.mpr late
  omega

/-- What the end of a turn is, as a walk along the slots. -/
structure Handover (before : Combat) (walk : Walk) (report : TurnReport) (after : Combat) :
    Prop where
  /-- The walk goes over the slots after the current one and then over the others. -/
  follows : walk.Follows before.field before.ahead before.beyond
  /-- On the field, nothing happens but the walk. -/
  field : after.field = walk.wake before.field
  /-- Of a combatant, nothing changes but hit points, conditions, the turn and flags. -/
  bare : ∀ one ∈ before.field.roster, one.pools.hitPoints.InRange →
    (walk.fate before.field.terrain one).bare = { (one.bare.withHitPoints
        (one.hitPoints - walk.loss before.field.terrain one)).withConditions
        (walk.wear before.field.terrain one) with
      turn := if walk.actor = some one.id then {} else one.turn }
  actor : report.actor = walk.actor
  /-- Nobody is next exactly where nobody is left. -/
  nobody : report.actor = none ↔ ∀ one ∈ after.field.roster, ¬one.isAlive
  /-- A round is new exactly where the walk has passed the end of the order. -/
  passed : report.actor.isSome → (report.newRound ↔ before.ahead.length < walk.reached.length)
  newRound : report.actor.isSome → report.newRound = walk.ticks
  round : report.actor.isSome → after.round = before.round + if report.newRound then 1 else 0

end Combat

open Combat

theorem Walk.Follows.ticks_iff {walk : Walk} {field : Battlefield} {ahead beyond : List CombatantId}
    (follows : walk.Follows field ahead beyond) (found : walk.actor.isSome) :
    walk.ticks ↔ ahead.length < walk.reached.length := by
  by_cases ticks : walk.ticks
  · obtain ⟨skipped, first, early, -⟩ := follows.anew ticks
    simp only [ticks, Walk.reached, early, List.length_append, List.length_cons, List.length_nil,
      true_iff]
    omega
  · obtain ⟨late, early⟩ := follows.within found (by simpa using ticks)
    have short := early.length_le
    simp only [ticks, Walk.reached, late, List.append_nil, Bool.false_eq_true, false_iff]
    omega

theorem Walk.Follows.nobody_iff {walk : Walk} {field : Battlefield}
    {ahead beyond : List CombatantId} (follows : walk.Follows field ahead beyond)
    (distinct : field.Distinct) :
    walk.actor = none ↔ ∀ one ∈ (walk.wake field).roster, ¬one.isAlive := by
  have distinctWake : (walk.wake field).Distinct := distinct_map distinct fun one => by
    unfold fate
    split <;> exact walk.id_burn field.terrain one
  constructor
  · intro none one mem alive
    exact follows.exhausted none one.id (by rwa [isAlive_of_mem distinctWake mem])
  · intro fallen
    rcases actor : walk.actor with _ | id
    · rfl
    · obtain ⟨-, -, alive⟩ := follows.stops id actor
      obtain ⟨one, found, up⟩ := isAlive_iff_find?.mp alive
      exact absurd up (fallen one ((find?_eq_some_iff distinctWake).mp found).1)

/-- Ending a turn hands over to the first that is reached alive after it and survives the hazard
underfoot, and in a new round conditions are a round older. -/
theorem Fight.handover_endTurn {combat : Combat} (running : combat.state = .active)
    (distinct : combat.field.Distinct)
    (seated : ∀ one ∈ combat.field.roster, combat.order.ids.count one.id = 1) :
    ∃ walk report after, Fight.endTurn combat = (.ok report, after) ∧
      Handover combat walk report after := by
  have there : ∀ id, combat.field.isAlive id → id ∈ combat.order.ids := by
    intro id alive
    obtain ⟨one, found, -⟩ := isAlive_iff_find?.mp alive
    obtain ⟨mem, rfl⟩ := (find?_eq_some_iff distinct).mp found
    exact List.count_pos_iff.mp (by rw [seated one mem]; exact Nat.one_pos)
  obtain ⟨walk, found⟩ := exists_found distinct there
  obtain ⟨events, run⟩ := endTurn_of_active running
  have once : ∀ one ∈ combat.field.roster, one.id ∈ walk.early → one.id ∉ walk.late :=
    fun one mem => once_of_follows found.follows (seated one mem)
  have round : ∀ combat : Combat, combat.checkFinished.round = combat.round := fun combat => by
    unfold checkFinished
    split <;> rfl
  refine ⟨walk, _, _, run, ?_⟩
  unfold seekActor
  rw [slots_advance]
  refine ⟨found.follows, ?_, fun one mem fits => Walk.bare_fate fits (once one mem), found.actor,
    ?_, fun some => ?_, fun some => ?_, fun some => ?_⟩
  · rw [field_checkFinished]
    exact found.field
  · rw [field_checkFinished]
    exact found.actor ▸ found.field ▸ found.follows.nobody_iff distinct
  · rw [← found.follows.ticks_iff (found.actor ▸ some), ← found.newRound (found.actor ▸ some)]
  · exact found.newRound (found.actor ▸ some)
  · rw [round]
    dsimp only
    rw [found.newRound (found.actor ▸ some)]
    exact found.round (found.actor ▸ some)

/-- The first turn of the two ends so. -/
theorem Fight.handover_duelUnderway : ∃ walk report after,
    Fight.endTurn (duelUnderway []) = (.ok report, after) ∧
      Handover (duelUnderway []) walk report after :=
  Fight.handover_endTurn rfl opens_duel.filled.sound.distinct (by decide +kernel)

end Skirmish
