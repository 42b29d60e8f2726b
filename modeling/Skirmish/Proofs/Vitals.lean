/-
**What a change leaves of a combatant.** The operations on a combatant touch its pools, flags and
conditions. None of them tells who it is, whose side it is on or where it stands, and only healing
gets anybody up:

* `stance_*`: identity, team and position stay;
* `pools_*`: flags and conditions are apart from the pools;
* `Wanes`: a change with the same stance after which nobody is alive who was not; damage, payments,
  conditions and the passing of turns are such changes (`wanes_*`);
* `bearing`: the stance and the hit points left, which conditions and other pools do not touch;
* `husk`: everything but the hit points left, which damage and healing do not touch;
* `Gauge.InRange`: a pool between empty and full, which losses and gains keep.
-/

import Mathlib.Tactic.ByContra
import Skirmish.Combatant

namespace Skirmish

/-! ### Pools in range -/

namespace Gauge

/-- A pool between empty and full. -/
def InRange (gauge : Gauge) : Prop :=
  0 ≤ gauge.current ∧ gauge.current ≤ gauge.maximum ∧ gauge.maximum ≤ greatestInt

variable {gauge : Gauge}

theorem InRange.adjust (fits : gauge.InRange) (delta : Int) : (gauge.adjust delta).InRange := by
  obtain ⟨low, high, most⟩ := fits
  simp only [InRange, Gauge.adjust, clamp]
  omega

theorem current_drain (fits : gauge.InRange) {amount : Int} (some : 0 ≤ amount) :
    (gauge.drain amount).current = gauge.current - min gauge.current amount := by
  obtain ⟨low, high, most⟩ := fits
  simp only [drain, Gauge.adjust, clamp, saturatingAdd, saturate, leastInt, greatestInt] at *
  omega

/-- A loss takes what it can. -/
theorem drain_eq (fits : gauge.InRange) (amount : Int) : gauge.drain amount
    = { gauge with current := gauge.current - min (max amount 0) gauge.current } := by
  have drained := current_drain fits (Int.le_max_right amount 0)
  have same : gauge.drain (max amount 0) = gauge.drain amount := by simp [drain]
  rw [same, Int.min_comm] at drained
  rw [← drained]
  rfl

/-- A loss adds nothing. -/
theorem drain_le (fits : gauge.InRange) (amount : Int) :
    (gauge.drain amount).current ≤ gauge.current := by
  obtain ⟨low, high, most⟩ := fits
  simp only [drain, Gauge.adjust, clamp, saturatingAdd, saturate, leastInt, greatestInt] at *
  omega

theorem current_restore (fits : gauge.InRange) (amount : Int) : (gauge.restore amount).current
    = gauge.current + min (max amount 0) (gauge.maximum - gauge.current) := by
  obtain ⟨low, high, most⟩ := fits
  simp only [restore, Gauge.adjust, clamp, saturatingAdd, saturate, leastInt, greatestInt] at *
  omega

end Gauge

/-! ### Names that come and go -/

namespace NameMap

variable {β : Type} (map : NameMap β)

theorem filter_insertEntry (name : String) (value : β) (list : List (String × β)) :
    (insertEntry name value list).filter (·.1 != name) = list.filter (·.1 != name) := by
  induction list with
  | nil => simp [insertEntry]
  | cons head rest hyp =>
    simp only [insertEntry]
    split
    · simp
    · split
      · rename_i same
        simp [← same]
      · simp [List.filter_cons, hyp]

/-- A name that is written and erased leaves no trace. -/
@[simp] theorem erase_insert (name : String) (value : β) :
    (map.insert name value).erase name = map.erase name :=
  ext (filter_insertEntry name value map.entries)

@[simp] theorem erase_erase (name : String) : (map.erase name).erase name = map.erase name :=
  ext (by simp [erase, List.filter_filter])

theorem erase_comm (one other : String) :
    (map.erase one).erase other = (map.erase other).erase one :=
  ext (by simp only [erase, List.filter_filter, Bool.and_comm])

theorem contains_eq (name : String) : map.contains name = (map.get? name).isSome := by
  simp [contains, get?, List.isSome_find?]

theorem contains_insert (name : String) (value : β) (other : String) :
    (map.insert name value).contains other = (name == other || map.contains other) := by
  rw [contains_eq, contains_eq, get?_insert]
  by_cases same : name = other <;> simp [same]

theorem contains_erase (name other : String) :
    (map.erase name).contains other = (name != other && map.contains other) := by
  simp only [contains, erase, List.any_filter]
  by_cases same : name = other
  · subst same
    simp
  · have apart : ∀ entry : String × β,
        (entry.1 != name && entry.1 == other) = (entry.1 == other) := fun entry => by
      by_cases eq : entry.1 = other
      · simp [eq, Ne.symm same]
      · simp [eq]
    simp [apart, same]

end NameMap

namespace Combatant

/-- Who a combatant is, whose side it is on and where it stands. -/
def stance (combatant : Combatant) : CombatantId × String × Cell :=
  (combatant.id, combatant.team, combatant.position)

section Stance

variable {one other : Combatant}

theorem id_of_stance (same : one.stance = other.stance) : one.id = other.id :=
  congrArg Prod.fst same

theorem position_of_stance (same : one.stance = other.stance) : one.position = other.position :=
  congrArg (·.2.2) same

end Stance

/-- The stance of a combatant and the hit points it has left. -/
def bearing (combatant : Combatant) : (CombatantId × String × Cell) × Int :=
  (combatant.stance, combatant.hitPoints)

/-- A combatant but for the hit points that it has left and the flag that shows them gone. -/
def husk (combatant : Combatant) : Combatant :=
  { combatant with
    pools.hitPoints.current := 0
    flags := combatant.flags.erase Pool.hitPoints.depletedFlag }

/-- A combatant but for what it has left of hit points and composure. -/
def shell (combatant : Combatant) : Combatant :=
  { combatant.husk with
    pools.composure.current := 0
    flags := combatant.husk.flags.erase Pool.composure.depletedFlag }

theorem stance_of_husk {one other : Combatant} (same : one.husk = other.husk) :
    one.stance = other.stance :=
  (congrArg stance same :)

theorem shell_of_husk {one other : Combatant} (same : one.husk = other.husk) :
    one.shell = other.shell := by
  unfold shell
  rw [same]

variable (combatant : Combatant)

/-! ### Flags and pools -/

@[simp] theorem stance_raiseFlag (flag : String) :
    (combatant.raiseFlag flag).stance = combatant.stance := rfl

@[simp] theorem stance_lowerFlag (flag : String) :
    (combatant.lowerFlag flag).stance = combatant.stance := rfl

@[simp] theorem stance_setPool (pool : Pool) (gauge : Gauge) :
    (combatant.setPool pool gauge).stance = combatant.stance := rfl

@[simp] theorem stance_syncDepleted (pool : Pool) :
    (combatant.syncDepleted pool).stance = combatant.stance := by
  unfold syncDepleted
  split <;> simp

@[simp] theorem stance_damagePool (pool : Pool) (amount : Int) :
    (combatant.damagePool pool amount).stance = combatant.stance := by
  simp [damagePool]

@[simp] theorem stance_takeDamage (amount : Int) :
    (combatant.takeDamage amount).stance = combatant.stance := by
  simp [takeDamage]

@[simp] theorem stance_heal (pool : Pool) (amount : Int) :
    (combatant.heal pool amount).stance = combatant.stance := by
  simp [heal]

@[simp] theorem pools_raiseFlag (flag : String) :
    (combatant.raiseFlag flag).pools = combatant.pools := rfl

@[simp] theorem pools_lowerFlag (flag : String) :
    (combatant.lowerFlag flag).pools = combatant.pools := rfl

@[simp] theorem pools_setPool (pool : Pool) (gauge : Gauge) :
    (combatant.setPool pool gauge).pools = combatant.pools.set pool gauge := rfl

@[simp] theorem pools_syncDepleted (pool : Pool) :
    (combatant.syncDepleted pool).pools = combatant.pools := by
  unfold syncDepleted
  split <;> simp

/-- The pools that a change of one of them leads to. -/
@[simp] theorem pools_damagePool (pool : Pool) (amount : Int) :
    (combatant.damagePool pool amount).pools
      = combatant.pools.set pool ((combatant.pool pool).drain amount) := by
  simp [damagePool]

@[simp] theorem pools_heal (pool : Pool) (amount : Int) :
    (combatant.heal pool amount).pools
      = combatant.pools.set pool ((combatant.pool pool).restore amount) := by
  simp [heal]

theorem hitPoints_takeDamage (amount : Int) :
    (combatant.takeDamage amount).pools.hitPoints = combatant.pools.hitPoints.drain amount := by
  simp [takeDamage, Pools.set, pool, Pools.get]

theorem hitPoints_heal (amount : Int) : (combatant.heal .hitPoints amount).pools.hitPoints
    = combatant.pools.hitPoints.restore amount := by
  simp [Pools.set, pool, Pools.get]

@[simp] theorem husk_takeDamage (amount : Int) :
    (combatant.takeDamage amount).husk = combatant.husk := by
  unfold takeDamage damagePool syncDepleted
  split <;> simp [husk, raiseFlag, lowerFlag, setPool, NameSet.add, Pools.set, Gauge.drain,
    Gauge.adjust, pool, Pools.get]

@[simp] theorem husk_heal (amount : Int) :
    (combatant.heal .hitPoints amount).husk = combatant.husk := by
  unfold heal syncDepleted
  split <;> simp [husk, raiseFlag, lowerFlag, setPool, NameSet.add, Pools.set, Gauge.restore,
    Gauge.adjust, pool, Pools.get]

@[simp] theorem shell_damagePool_composure (amount : Int) :
    (combatant.damagePool .composure amount).shell = combatant.shell := by
  unfold damagePool syncDepleted
  split <;> simp [shell, husk, raiseFlag, lowerFlag, setPool, NameSet.add, Pools.set, Gauge.drain,
    Gauge.adjust, pool, Pools.get, NameMap.erase_comm _ Pool.hitPoints.depletedFlag]

/-! ### Conditions and turns -/

@[simp] theorem stance_addCondition (name : String) (duration : Duration) (flag : Option String) :
    (combatant.addCondition name duration flag).stance = combatant.stance := by
  unfold addCondition
  cases flag with
  | none => rfl
  | some flag =>
    dsimp only
    split <;> rfl

@[simp] theorem pools_addCondition (name : String) (duration : Duration) (flag : Option String) :
    (combatant.addCondition name duration flag).pools = combatant.pools := by
  unfold addCondition
  cases flag with
  | none => rfl
  | some flag =>
    dsimp only
    split <;> rfl

@[simp] theorem stance_removeCondition (name : String) :
    (combatant.removeCondition name).stance = combatant.stance := by
  unfold removeCondition
  dsimp only
  split <;> rfl

@[simp] theorem pools_removeCondition (name : String) :
    (combatant.removeCondition name).pools = combatant.pools := by
  unfold removeCondition
  dsimp only
  split <;> rfl

/-- Lowering the flags of some conditions leaves alone whatever a single flag leaves alone. -/
theorem view_lowerFlags {β : Type} (view : Combatant → β)
    (same : ∀ (one : Combatant) (flag : String), view (one.lowerFlag flag) = view one)
    (conditions : List Condition) (start : Combatant) :
    view (conditions.foldl (fun one condition =>
      match condition.flag with
      | some flag => one.lowerFlag flag
      | none => one) start) = view start := by
  induction conditions generalizing start with
  | nil => rfl
  | cons condition rest hyp =>
    rw [List.foldl_cons, hyp]
    cases condition.flag with
    | none => rfl
    | some flag => exact same start flag

@[simp] theorem stance_tickConditions :
    combatant.tickConditions.stance = combatant.stance :=
  view_lowerFlags stance stance_lowerFlag combatant.conditions.expiring _

@[simp] theorem pools_tickConditions : combatant.tickConditions.pools = combatant.pools :=
  view_lowerFlags pools pools_lowerFlag combatant.conditions.expiring _

/-! ### Getting up and going down -/

variable {combatant}

theorem isAlive_iff : combatant.isAlive ↔ combatant.hitPoints ≠ 0 := by
  simp [isAlive, Gauge.isEmpty, hitPoints]

theorem isAlive_of_pools {other : Combatant} (same : other.pools = combatant.pools) :
    other.isAlive = combatant.isAlive := by
  simp [isAlive, same]

theorem isAlive_of_hitPoints {other : Combatant} (same : other.hitPoints = combatant.hitPoints) :
    other.isAlive = combatant.isAlive := by
  rw [Bool.eq_iff_iff, isAlive_iff, isAlive_iff, same]

theorem isAlive_of_bearing {other : Combatant} (same : other.bearing = combatant.bearing) :
    other.isAlive = combatant.isAlive :=
  isAlive_of_hitPoints (congrArg Prod.snd same)

theorem stance_of_bearing {other : Combatant} (same : other.bearing = combatant.bearing) :
    other.stance = combatant.stance :=
  congrArg Prod.fst same

theorem bearing_of_pools {other : Combatant} (stance : other.stance = combatant.stance)
    (pools : other.pools = combatant.pools) : other.bearing = combatant.bearing := by
  simp [bearing, hitPoints, stance, pools]

/-- Only damage to hit points changes how somebody bears up. -/
theorem bearing_damagePool (combatant : Combatant) {pool : Pool} (other : pool ≠ .hitPoints)
    (amount : Int) : (combatant.damagePool pool amount).bearing = combatant.bearing := by
  cases pool with
  | hitPoints => exact absurd rfl other
  | composure | stamina | focus => simp [bearing, hitPoints, Pools.set]

/-- A loss leaves an empty pool empty. -/
theorem isEmpty_drain {gauge : Gauge} (empty : gauge.isEmpty) (amount : Int) :
    (gauge.drain amount).isEmpty := by
  simp only [Gauge.isEmpty, beq_iff_eq] at empty
  simp only [Gauge.isEmpty, Gauge.drain, Gauge.adjust, clamp, saturatingAdd, saturate, leastInt,
    greatestInt, empty, beq_iff_eq]
  omega

theorem isAlive_of_damagePool {pool : Pool} {amount : Int}
    (alive : (combatant.damagePool pool amount).isAlive) : combatant.isAlive := by
  by_contra down
  have empty : combatant.pools.hitPoints.isEmpty := by simpa [isAlive] using down
  cases pool with
  | hitPoints =>
    have drained := isEmpty_drain empty amount
    simp_all [isAlive, Pools.set, Combatant.pool, Pools.get]
  | composure | stamina | focus => simp_all [isAlive, Pools.set]

/-- A change after which a combatant is who it was and where it was, and not alive unless it was. -/
structure Wanes (before after : Combatant) : Prop where
  stance : after.stance = before.stance
  alive : after.isAlive → before.isAlive

theorem Wanes.of_pools {other : Combatant} (stance : other.stance = combatant.stance)
    (pools : other.pools = combatant.pools) : combatant.Wanes other :=
  ⟨stance, fun alive => isAlive_of_pools pools ▸ alive⟩

theorem Wanes.refl (combatant : Combatant) : combatant.Wanes combatant := ⟨rfl, fun alive => alive⟩

/-- Loss from a pool gets nobody up. -/
theorem wanes_damagePool (combatant : Combatant) (pool : Pool) (amount : Int) :
    combatant.Wanes (combatant.damagePool pool amount) :=
  ⟨stance_damagePool combatant pool amount, isAlive_of_damagePool⟩

/-- A payment gets nobody up. -/
theorem wanes_spend {pool : Pool} {amount : Int} {paid : Combatant}
    (spent : combatant.spend? pool amount = some paid) : combatant.Wanes paid := by
  obtain ⟨gauge, covered, rfl⟩ := Option.map_eq_some_iff.mp spent
  refine ⟨by simp, fun alive => ?_⟩
  unfold Gauge.spend? at covered
  split at covered
  case isTrue => cases covered
  case isFalse enough =>
    obtain rfl := Option.some.inj covered
    -- The pool covers a payment that is not negative, so an empty one stays empty.
    by_contra down
    have empty : combatant.pools.hitPoints.current = 0 := by
      simpa [isAlive, Gauge.isEmpty] using down
    cases pool with
    | hitPoints =>
      simp only [Combatant.pool, Pools.get, isAlive, pools_syncDepleted, pools_setPool, Pools.set,
        Gauge.isEmpty, empty, Bool.not_eq_true', beq_eq_false_iff_ne] at alive enough
      omega
    | composure | stamina | focus => simp_all [isAlive, Pools.set, Gauge.isEmpty]

theorem wanes_addCondition (combatant : Combatant) (name : String) (duration : Duration)
    (flag : Option String) : combatant.Wanes (combatant.addCondition name duration flag) :=
  .of_pools (by simp) (by simp)

theorem wanes_removeCondition (combatant : Combatant) (name : String) :
    combatant.Wanes (combatant.removeCondition name) :=
  .of_pools (by simp) (by simp)

theorem wanes_tickConditions (combatant : Combatant) : combatant.Wanes combatant.tickConditions :=
  .of_pools (by simp) (by simp)

theorem wanes_resetTurn (combatant : Combatant) : combatant.Wanes combatant.resetTurn :=
  .of_pools rfl rfl

/-- Whoever is alive may be healed; healing moves nobody. -/
theorem wanes_heal_of_alive (alive : combatant.isAlive) (pool : Pool) (amount : Int) :
    combatant.Wanes (combatant.heal pool amount) :=
  ⟨stance_heal combatant pool amount, fun _ => alive⟩

/-- Only hit points get the fallen up, and not without an amount. -/
theorem wanes_heal_of_pool {pool : Pool} {amount : Int} (idle : pool ≠ .hitPoints ∨ amount ≤ 0) :
    combatant.Wanes (combatant.heal pool amount) := by
  refine ⟨stance_heal combatant pool amount, fun alive => ?_⟩
  by_contra down
  have empty : combatant.pools.hitPoints.current = 0 := by
    simpa [isAlive, Gauge.isEmpty] using down
  cases pool with
  | hitPoints =>
    have nothing : amount ≤ 0 := idle.resolve_left (· rfl)
    simp only [isAlive, pools_heal, Pools.set, Combatant.pool, Pools.get, Gauge.isEmpty,
      Gauge.restore, Gauge.adjust, clamp, saturatingAdd, saturate, leastInt, greatestInt, empty,
      Bool.not_eq_true', beq_eq_false_iff_ne] at alive
    omega
  | composure | stamina | focus => simp_all [isAlive, Pools.set, Gauge.isEmpty]

end Combatant

end Skirmish
