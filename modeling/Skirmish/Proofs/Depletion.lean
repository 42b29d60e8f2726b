/-
**Pools in range and the flags of empty ones.** A combatant is in trim if every pool is between zero
and its maximum, the flags of empty pools are raised and no others of their kind, and no condition
carries one of them. Treatments that bring no such flag keep everyone in trim and no pool's maximum
moves:

* `Combatant.InTrim`, `Combatant.Upholds`: the invariant, and a change that keeps it;
* `Combatant.Treats.upholds`: every kind of treatment is such a change;
* `Standard.mild`: the standard rules bring no flag of an empty pool;
* **`Combat.inTrim_afterAll`**: whatever is done to a fight under the standard rules, everyone stays in
  trim, and all maxima stay.
-/

import Skirmish.Proofs.Bills
import Skirmish.Proofs.Enrolment
import Skirmish.Proofs.Outcomes

namespace Skirmish

open Battlefield

/-- A flag that no empty pool raises. -/
def Pool.Unclaimed (flag : String) : Prop := ∀ pool ∈ Pool.all, pool.depletedFlag ≠ flag

instance (flag : String) : Decidable (Pool.Unclaimed flag) :=
  inferInstanceAs (Decidable (∀ pool ∈ Pool.all, pool.depletedFlag ≠ flag))

/-! ### One combatant -/

namespace Combatant

/-- Every pool is in range, and shows that it is empty exactly if it is. -/
structure InTrim (one : Combatant) : Prop where
  ranged : ∀ pool, 0 ≤ (one.pool pool).current ∧ (one.pool pool).current ≤ (one.pool pool).maximum
  shown : ∀ pool : Pool, one.hasFlag pool.depletedFlag ↔ (one.pool pool).isEmpty
  /-- No condition carries the flag of an empty pool. -/
  unbound : ∀ pool : Pool, pool.depletedFlag ∉ one.conditions.carried

instance (one : Combatant) : Decidable one.InTrim :=
  decidable_of_iff (∀ pool ∈ Pool.all,
      (0 ≤ (one.pool pool).current ∧ (one.pool pool).current ≤ (one.pool pool).maximum) ∧
        (one.hasFlag pool.depletedFlag ↔ (one.pool pool).isEmpty) ∧
        pool.depletedFlag ∉ one.conditions.carried)
    ⟨fun all => ⟨fun pool => (all pool pool.mem_all).1, fun pool => (all pool pool.mem_all).2.1,
        fun pool => (all pool pool.mem_all).2.2⟩,
      fun trim pool _ => ⟨trim.ranged pool, trim.shown pool, trim.unbound pool⟩⟩

/-- The maxima of the pools. -/
def maxima (one : Combatant) (pool : Pool) : Int := (one.pool pool).maximum

/-- A change that keeps a combatant in trim and its maxima as they are. -/
structure Upholds (one new : Combatant) : Prop where
  id : new.id = one.id
  maxima : new.maxima = one.maxima
  trim : one.InTrim → new.InTrim

instance : Std.Refl Upholds := ⟨fun _ => ⟨rfl, rfl, fun trim => trim⟩⟩

instance : IsTrans Combatant Upholds := ⟨fun _ _ _ first second =>
  ⟨second.id.trans first.id, second.maxima.trans first.maxima,
    fun trim => second.trim (first.trim trim)⟩⟩

variable {one new : Combatant} {pool : Pool}

theorem upholds_of_same (id : new.id = one.id) (pools : new.pools = one.pools)
    (flags : new.flags = one.flags) (conditions : new.conditions = one.conditions) :
    one.Upholds new := by
  have pool : new.pool = one.pool := by
    funext pool
    simp only [Combatant.pool, pools]
  have hasFlag : new.hasFlag = one.hasFlag := by
    funext flag
    simp only [Combatant.hasFlag, flags]
  refine ⟨id, ?_, fun trim => ⟨?_, ?_, ?_⟩⟩
  · funext other
    simp only [Combatant.maxima, pool]
  · simpa only [pool] using trim.ranged
  · simpa only [pool, hasFlag] using trim.shown
  · simpa only [conditions] using trim.unbound

@[simp] theorem conditions_syncDepleted (one : Combatant) (pool : Pool) :
    (one.syncDepleted pool).conditions = one.conditions := by
  unfold syncDepleted
  split <;> rfl

/-- A pool that is filled to another level within its range shows whether it is empty. -/
theorem upholds_gauge {gauge : Gauge} (maximum : gauge.maximum = (one.pool pool).maximum)
    (fits : one.InTrim → 0 ≤ gauge.current ∧ gauge.current ≤ gauge.maximum) :
    one.Upholds ((one.setPool pool gauge).syncDepleted pool) := by
  have pools : ∀ other, ((one.setPool pool gauge).syncDepleted pool).pool other
      = if other = pool then gauge else one.pool other := fun other => by
    simp only [Combatant.pool, pools_syncDepleted, pools_setPool, Pools.get_set]
  refine ⟨congrArg Prod.fst (seat_syncDepleted ..), ?_, fun trim => ⟨fun other => ?_,
    fun other => ?_, ?_⟩⟩
  · funext other
    simp only [maxima, pools]
    split
    case isTrue same => rw [same, maximum]
    case isFalse => rfl
  · rw [pools]
    split
    · exact fits trim
    · exact trim.ranged other
  · rw [hasFlag_syncDepleted, pools]
    by_cases same : other = pool
    · subst same
      simp [Combatant.pool, setPool]
    · have apart : other.depletedFlag ≠ pool.depletedFlag :=
        fun eq => same (Pool.depletedFlag_inj eq)
      rw [if_neg apart, if_neg same]
      exact trim.shown other
  · rw [conditions_syncDepleted]
    exact trim.unbound

theorem upholds_adjust (one : Combatant) (pool : Pool) (delta : Int) :
    one.Upholds ((one.setPool pool ((one.pool pool).adjust delta)).syncDepleted pool) := by
  refine upholds_gauge rfl fun trim => ?_
  obtain ⟨low, high⟩ := trim.ranged pool
  simp only [Gauge.adjust, clamp]
  omega

theorem upholds_spend {amount : Int} (spent : one.spend? pool amount = some new) :
    one.Upholds new := by
  obtain ⟨gauge, taken, rfl⟩ := Option.map_eq_some_iff.mp spent
  unfold Gauge.spend? at taken
  split at taken
  · cases taken
  case isFalse covers =>
    obtain rfl := Option.some.inj taken
    refine upholds_gauge rfl fun trim => ?_
    obtain ⟨low, high⟩ := trim.ranged pool
    obtain ⟨nonneg, enough⟩ := not_or.mp covers
    dsimp only
    omega

/-- What changes flags and conditions, but none of the flags that empty pools raise. -/
theorem upholds_conditions (id : new.id = one.id) (pools : new.pools = one.pools)
    (flags : one.InTrim → ∀ pool : Pool, new.hasFlag pool.depletedFlag ↔ one.hasFlag pool.depletedFlag)
    (carried : one.InTrim → ∀ pool : Pool, pool.depletedFlag ∈ new.conditions.carried →
      pool.depletedFlag ∈ one.conditions.carried) : one.Upholds new := by
  have pool : new.pool = one.pool := by
    funext pool
    simp only [Combatant.pool, pools]
  refine ⟨id, ?_, fun trim => ⟨?_, fun other => ?_, fun other bound => ?_⟩⟩
  · funext other
    simp only [maxima, pool]
  · simpa only [pool] using trim.ranged
  · rw [pool, flags trim]
    exact trim.shown other
  · exact trim.unbound other (carried trim other bound)

theorem upholds_addCondition (one : Combatant) (name : String) (duration : Duration)
    {flag : Option String} (fit : ∀ raised ∈ flag, Pool.Unclaimed raised) :
    one.Upholds (one.addCondition name duration flag) := by
  have other : ∀ pool : Pool, flag ≠ some pool.depletedFlag := fun pool eq =>
    fit _ eq pool pool.mem_all rfl
  have conditions := conditions_undergo one (.apply name duration flag)
  refine upholds_conditions (congrArg Prod.fst (seat_addCondition ..)) (pools_addCondition ..)
    (fun _ pool => ?_) fun _ pool => ?_
  · simp [hasFlag_addCondition, other pool]
  · rw [show (one.addCondition name duration flag).conditions = _ from conditions,
      ConditionSet.on, ConditionSet.mem_carried_apply]
    simp [other pool]

theorem upholds_removeCondition (one : Combatant) (name : String) :
    one.Upholds (one.removeCondition name) := by
  have conditions := conditions_undergo one (.remove name)
  have kept := one.conditions.mem_carried_remove name
  refine upholds_conditions (congrArg Prod.fst (seat_removeCondition ..)) (pools_removeCondition ..)
    (fun trim pool => ?_) fun _ pool => ?_
  · rw [hasFlag_removeCondition]
    exact and_iff_left fun bound => trim.unbound pool ((kept _).mpr (.inr bound))
  · rw [show (one.removeCondition name).conditions = _ from conditions, kept]
    exact .inl

theorem upholds_tickConditions (one : Combatant) : one.Upholds one.tickConditions := by
  have conditions := conditions_undergo one .tick
  have kept := one.conditions.mem_carried_tick
  refine upholds_conditions (congrArg Prod.fst (seat_tickConditions one)) (pools_tickConditions one)
    (fun trim pool => ?_) fun _ pool => ?_
  · rw [hasFlag_tickConditions]
    exact and_iff_left fun bound => trim.unbound pool ((kept _).mpr (.inr bound))
  · rw [show one.tickConditions.conditions = _ from conditions, kept]
    exact .inl

/-- **No treatment puts anybody out of trim**, where no condition comes with the flag of an empty
pool. -/
theorem Treats.upholds (treats : one.Treats Pool.Unclaimed new) : one.Upholds new := by
  cases treats with
  | drained pool amount => exact upholds_adjust one pool _
  | restored pool amount => exact upholds_adjust one pool _
  | charged spent => exact upholds_spend spent
  | afflicted name duration fit => exact upholds_addCondition one name duration fit
  | cured name => exact upholds_removeCondition one name
  | aged => exact upholds_tickConditions one
  | moved cell => exact upholds_of_same rfl rfl rfl rfl
  | turned facing => exact upholds_of_same rfl rfl rfl rfl

/-- What an action uses up of a turn is nothing to pools and flags. -/
theorem Engages.upholds (engages : one.Engages Pool.Unclaimed new) : one.Upholds new := by
  cases engages with
  | treated treats => exact treats.upholds
  | acted => exact upholds_of_same rfl rfl rfl rfl
  | moved facing => exact upholds_of_same rfl rfl rfl rfl

theorem Engaged.upholds (engaged : one.Engaged Pool.Unclaimed new) : one.Upholds new := by
  have step : Engages Pool.Unclaimed ≤ Upholds := fun _ _ => Engages.upholds
  exact Relation.reflTransGen_le_of_le step one new engaged

end Combatant

/-! ### The field -/

namespace Battlefield

/-- Everyone stays in its place in the roster and in trim, and no maximum moves. -/
def Upholds (before after : Battlefield) : Prop :=
  List.Forall₂ Combatant.Upholds before.roster after.roster

variable {before after field : Battlefield} {id : CombatantId}

instance : Std.Refl Upholds := ⟨fun field => List.forall₂_refl field.roster⟩

theorem Upholds.trans {middle : Battlefield} (first : before.Upholds middle)
    (second : middle.Upholds after) : before.Upholds after :=
  forall₂_trans first second

theorem upholds_update {change : Combatant → Combatant}
    (upholds : ∀ one : Combatant, one.Upholds (change one)) :
    field.Upholds (field.update id change) :=
  forall₂_updateFirst fun one _ => upholds one

theorem Engaged.upholds (engaged : before.Engaged Pool.Unclaimed after) : before.Upholds after :=
  engaged.imp fun _ _ => Combatant.Engaged.upholds

theorem upholds_begun (field : Battlefield) (id : CombatantId) (tickDue : Bool) :
    field.Upholds (field.begun id tickDue) := by
  obtain ⟨middle, treated, begun⟩ := treated_begun Pool.Unclaimed field id tickDue
  rcases begun with begun | begun
  · rw [begun]
    exact treated.engaged.upholds
  · rw [begun]
    exact treated.engaged.upholds.trans
      (upholds_update fun one => Combatant.upholds_of_same rfl rfl rfl rfl)

end Battlefield

/-! ### The standard rules -/

/-- An effect applies conditions with no flag but the one it was given. -/
theorem Effect.mild_of_named {allowed : String → Prop} : ∀ entry ∈ named, ∀ arguments effect,
    (∀ flag ∈ arguments.get? "flag", allowed flag) → entry.2 arguments = .ok effect →
      effect.Mild allowed := by
  unfold named
  simp only [List.forall_mem_cons, List.not_mem_nil, false_implies, implies_true, and_true]
  and_intros
  all_goals
    intro arguments effect fit made
    first
      | obtain rfl := Except.ok.inj made
        exact trivial
      | obtain ⟨value, rfl⟩ := exists_of_made made
        first
          | exact fit
          | exact trivial

/-- Rules that are built from specs apply conditions with no flag but those that the specs name. -/
theorem RuleTable.mild_of_specs {allowed : String → Prop} {specs : List RuleSpec}
    {table : RuleTable} (built : RuleTable.ofSpecs .standard specs = .ok table)
    (fits : ∀ spec ∈ specs, ∀ flag ∈ spec.arguments.get? "flag", allowed flag) :
    table.Mild allowed := by
  replace built := (RuleTable.ofSpecs_eq_ok ..).mp built
  unfold RuleTable.Mild
  generalize table.rules = rules at built
  induction built with
  | nil => exact fun _ mem => absurd mem List.not_mem_nil
  | cons here _ hyp =>
    obtain ⟨fit, fits⟩ := List.forall_mem_cons.mp fits
    obtain ⟨-, -, -, read, effect, known, made, act⟩ := Catalog.build_eq_ok here
    exact List.forall_mem_cons.mpr
      ⟨⟨effect, act, Effect.mild_of_named _ known _ _ fit made⟩, hyp fits⟩

namespace Standard

theorem unclaimed_specs : ∀ spec ∈ specs, ∀ flag ∈ spec.arguments.get? "flag",
    Pool.Unclaimed flag := by
  decide +kernel

/-- The standard rules apply no condition with the flag of an empty pool. -/
theorem mild : table.Mild Pool.Unclaimed :=
  RuleTable.mild_of_specs built_table unclaimed_specs

end Standard

/-- Neither does a saving throw or an injury. -/
theorem Pool.lenient : Lenient Pool.Unclaimed where
  named := by decide +kernel
  injuries := by
    intro face
    unfold Injury.ofFace
    split <;> decide +kernel

/-! ### Operations -/

namespace Combat

variable {combat : Combat}

/-- Who joins by an operation. -/
def newcomers (combat : Combat) : Operation → List Combatant
  | .join newcomer => if (Fight.addCombatant newcomer combat).1.isOk then [newcomer] else []
  | .start | .act _ | .supply _ _ => []

/-- Who joins in the course of a run. -/
def newcomersOver (combat : Combat) : List Operation → List Combatant
  | [] => []
  | operation :: rest => combat.newcomers operation ++ (combat.after operation).newcomersOver rest

/-- Only who wishes to join does. -/
theorem mem_newcomersOver {one : Combatant} {operations : List Operation}
    (mem : one ∈ combat.newcomersOver operations) : .join one ∈ operations := by
  induction operations generalizing combat with
  | nil => cases mem
  | cons operation rest hyp =>
    rcases List.mem_append.mp mem with mem | mem
    · cases operation with
      | join newcomer =>
        rw [newcomers] at mem
        split at mem
        · obtain rfl := List.mem_singleton.mp mem
          exact List.mem_cons_self
        · cases mem
      | start | act action | supply sources dice => cases mem
    · exact List.mem_cons_of_mem _ (hyp mem)

theorem upholds_seekActor (combat : Combat) (tickDue : Bool) :
    combat.field.Upholds (combat.seekActor tickDue).2.field :=
  seek_induction (fun now => combat.field.Upholds now.field)
    (fun now id tickDue upholds => upholds.trans (upholds_begun now.field id tickDue))
    (fun _ upholds => upholds) (combat.order.slots.length + 1) combat
    (Std.Refl.refl combat.field) {} tickDue

theorem upholds_start : combat.field.Upholds (combat.after .start).field := by
  have run := Fight.run_start combat
  rw [after_start]
  generalize outcome : Fight.start combat = result at run
  cases run with
  | refused error => exact Std.Refl.refl combat.field
  | begun fresh manned =>
    obtain ⟨log, events, run⟩ := Fight.start_of_setup fresh (by simpa using manned)
    obtain ⟨slots, dice, rolled⟩ := combat.rollSlots_eq combat.field.roster
    have field : (Fight.opened combat).field = combat.field := by
      unfold Fight.opened
      rw [rolled]
    rw [← outcome, run, field_checkFinished, ← field]
    exact (Fight.opened combat).upholds_seekActor false

theorem upholds_endTurn : combat.field.Upholds (combat.after (.act .endTurn)).field := by
  have run := Fight.run_endTurn combat
  rw [after_act, perform_endTurn]
  generalize outcome : Fight.endTurn combat = result at run
  cases run with
  | refused error => exact Std.Refl.refl combat.field
  | ended running =>
    obtain ⟨events, run⟩ := Fight.endTurn_of_active running
    rw [← outcome, run, field_checkFinished]
    exact combat.advance.upholds_seekActor combat.order.wraps

theorem upholds_act (mild : combat.rules.Mild Pool.Unclaimed) (action : CombatAction) :
    combat.field.Upholds (combat.after (.act action)).field := by
  by_cases ends : action = .endTurn
  · subst ends
    exact upholds_endTurn
  · exact (engaged_act mild Pool.lenient ends).upholds

/-- **An operation keeps everyone in trim**, whether it is refused or not, and only adds newcomers. -/
theorem upholds_after (mild : combat.rules.Mild Pool.Unclaimed) (operation : Operation) :
    List.Forall₂ Combatant.Upholds (combat.field.roster ++ combat.newcomers operation)
      (combat.after operation).field.roster := by
  cases operation with
  | join newcomer =>
    have run := Fight.run_addCombatant combat newcomer
    rw [after_join, newcomers]
    generalize Fight.addCombatant newcomer combat = result at run
    cases run with
    | refused error =>
      rw [if_neg (by simp [Except.isOk, Except.toBool]), List.append_nil]
      exact List.forall₂_refl combat.field.roster
    | joined going added =>
      obtain ⟨-, -, -, rfl⟩ := add_eq_ok added
      exact List.forall₂_refl (combat.field.roster ++ [newcomer])
  | start =>
    rw [newcomers, List.append_nil]
    exact upholds_start
  | act action =>
    rw [newcomers, List.append_nil]
    exact upholds_act mild action
  | supply sources dice =>
    rw [newcomers, List.append_nil]
    exact List.forall₂_refl combat.field.roster

theorem upholds_afterAll (combat : Combat) (mild : combat.rules.Mild Pool.Unclaimed)
    (operations : List Operation) :
    List.Forall₂ Combatant.Upholds (combat.field.roster ++ combat.newcomersOver operations)
      (combat.afterAll operations).field.roster := by
  induction operations generalizing combat with
  | nil =>
    rw [newcomersOver, List.append_nil]
    exact List.forall₂_refl combat.field.roster
  | cons operation rest hyp =>
    have first := upholds_after mild operation
    have later := hyp (combat.after operation) (rules_after mild.stock operation ▸ mild)
    rw [newcomersOver, ← List.append_assoc]
    exact forall₂_trans (List.rel_append first (List.forall₂_refl _)) later

/-- **Pools stay in range, and show that they are empty exactly if they are**, whatever is done to a
fight under the standard rules in which everyone is in trim, and whoever joins is. The maxima of
everyone's pools stay. -/
theorem inTrim_afterAll (rules : combat.rules = Standard.table)
    (trim : ∀ one ∈ combat.field.roster, one.InTrim) (operations : List Operation)
    (arriving : ∀ one ∈ combat.newcomersOver operations, one.InTrim) :
    (∀ one ∈ (combat.afterAll operations).field.roster, one.InTrim) ∧
      (combat.afterAll operations).field.roster.map (fun one => (one.id, one.maxima))
        = (combat.field.roster ++ combat.newcomersOver operations).map
          fun one => (one.id, one.maxima) := by
  have upholds := upholds_afterAll combat (rules ▸ Standard.mild) operations
  exact ⟨forall_mem_of_forall₂ (upholds.imp fun _ _ upheld => upheld.trim)
      (List.forall_mem_append.mpr ⟨trim, arriving⟩),
    map_eq_of_forall₂ (upholds.imp fun _ _ upheld => Prod.ext upheld.id upheld.maxima)⟩

/-- So it is in the fight of the two and of a third one, who is wounded as he joins them. -/
theorem inTrim_afterAll_duel :
    let third : Combatant := (dorn.damagePool .stamina 50).damagePool .hitPoints 3
    let operations : List Operation :=
      [.join { third with id := ⟨3⟩, position := ⟨3, 1⟩ }, .start, .act .endTurn]
    (∀ one ∈ (duel.afterAll operations).field.roster, one.InTrim) ∧
      (duel.afterAll operations).field.roster.map (fun one => (one.id, one.maxima))
        = (duel.field.roster ++ duel.newcomersOver operations).map
          fun one => (one.id, one.maxima) := by
  intro third operations
  refine inTrim_afterAll rules_duel (by decide +kernel) operations fun one mem => ?_
  have joins : Operation.join one = .join { third with id := ⟨3⟩, position := ⟨3, 1⟩ } := by
    simpa [operations] using mem_newcomersOver mem
  obtain rfl := Operation.join.inj joins
  decide +kernel

end Combat

end Skirmish
