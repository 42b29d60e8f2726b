/-
**Delivering damage.** Delivery never fails where whoever acts, the target and all others it reaches
are on the field.

* `Accounts`: it takes from everyone what its report lists, gives whoever acts what it has drained, and
  touches the composure of nobody but the target;
* `RisesAmong`: lifesteal heals whoever acts wherever it lies, so that it may come to live by nothing
  but what it has just drained, on a cell where another one stands;
* `run_deliver`: delivery succeeds, its report accounts for every loss, and after it either those who
  live have a cell each or whoever acts has risen among others (`Endures`);
* `Deals`: so does an action around the delivery of its damage.
-/

import Skirmish.Damage.Delivery
import Skirmish.Damage.Injury
import Skirmish.Proofs.Dispatch

namespace Skirmish

open Resolve Resolution

namespace Battlefield

variable {before after : Battlefield} {who : CombatantId} {damage : DamageReport}

/-! ### Rising among others -/

/-- Somebody has all its hit points from what it has just drained, and shares its cell with another
one who is alive. -/
def RisesAmong (field : Battlefield) (who : CombatantId) (damage : DamageReport) : Prop :=
  ∃ risen ∈ field.living, ∃ other ∈ field.living, risen.id = who ∧ other.id ≠ who ∧
    other.position = risen.position ∧ risen.hitPoints + damage.reflected = damage.drained

theorem RisesAmong.not_exclusive (rises : after.RisesAmong who damage) (distinct : after.Distinct) :
    ¬after.Exclusive := by
  obtain ⟨risen, mem, other, mem', rfl, ne, here, -⟩ := rises
  exact fun exclusive => ne ((exclusive_iff distinct).mp exclusive risen mem other mem' here)

theorem RisesAmong.rests (rises : before.RisesAmong who damage) (rests : before.Rests after) :
    after.RisesAmong who damage := by
  obtain ⟨risen, mem, other, mem', rfl, ne, here, drained⟩ := rises
  obtain ⟨risen', memRisen, same⟩ := rests.symm.mem_living mem
  obtain ⟨other', memOther, same'⟩ := rests.symm.mem_living mem'
  have kept := Combatant.stance_of_bearing same
  have kept' := Combatant.stance_of_bearing same'
  refine ⟨risen', memRisen, other', memOther, Combatant.id_of_stance kept, ?_, ?_, ?_⟩
  · rwa [Combatant.id_of_stance kept']
  · rw [Combatant.position_of_stance kept, Combatant.position_of_stance kept', here]
  · rwa [show risen'.hitPoints = risen.hitPoints from congrArg Prod.snd same]

/-- What an action does to the field when its damage is delivered: everyone stays on walkable
ground, and those who live keep a cell each unless whoever acts rises among them. -/
structure Endures (who : CombatantId) (damage : DamageReport) (before after : Battlefield) : Prop
    extends Shifts before after where
  exclusive : before.Sound → before.Exclusive → after.Exclusive ∨ after.RisesAmong who damage

theorem Evolves.endures (evolves : before.Evolves after) (who : CombatantId)
    (damage : DamageReport) : Endures who damage before after :=
  ⟨evolves.toShifts, fun sound exclusive => .inl (evolves.exclusive sound exclusive)⟩

theorem Endures.evolves_trans {middle : Battlefield} (first : before.Evolves middle)
    (second : Endures who damage middle after) : Endures who damage before after :=
  ⟨first.toShifts.trans second.toShifts, fun sound exclusive =>
    second.exclusive (first.sound sound) (first.exclusive sound exclusive)⟩

theorem Endures.trans_rests {middle : Battlefield} (first : Endures who damage before middle)
    (second : middle.Rests after) : Endures who damage before after :=
  ⟨first.toShifts.trans second.evolves.toShifts, fun sound exclusive =>
    (first.exclusive sound exclusive).imp (second.evolves.exclusive (first.sound sound))
      fun rises => rises.rests second⟩

/-- Healing whoever acts and then sending damage back to it. Whoever was alive, or lies alone, may
live on; whoever lies where another one stands rises among others. -/
theorem endures_replace {old new : Combatant} (found : before.find? who = some old)
    (kept : new.stance = old.stance)
    (gained : new.hitPoints + damage.reflected = old.hitPoints + damage.drained) :
    Endures who damage before (before.update who fun _ => new) := by
  have id : new.id = who := (Combatant.id_of_stance kept).trans (id_of_find? found)
  have here : new.position = old.position := Combatant.position_of_stance kept
  have walkable : before.Sound → before.terrain.isWalkable new.position :=
    fun sound => here ▸ grounded_of_find? sound found
  have evolves := evolves_replace found (Combatant.id_of_stance kept) walkable
  by_cases settled : (new.isAlive → old.isAlive) ∨
      ∀ other ∈ before.living, other.position = new.position → other.id = who
  · refine (evolves fun _ _ alive => ?_).endures who damage
    exact settled.imp (fun was => ⟨was alive, kept⟩) fun alone => alone
  · obtain ⟨rises, crowded⟩ := not_or.mp settled
    simp only [Classical.not_imp, not_forall] at rises crowded
    obtain ⟨alive, down⟩ := rises
    obtain ⟨other, mem, there, ne⟩ := crowded
    refine ⟨shifts_replace found (Combatant.id_of_stance kept) walkable, fun sound _ => .inr ?_⟩
    obtain ⟨mem, alive'⟩ := mem_living.mp mem
    have drained : new.hitPoints + damage.reflected = damage.drained := by
      have empty : old.hitPoints = 0 := by simpa [Combatant.isAlive_iff] using down
      omega
    exact ⟨new, mem_living.mpr ⟨(mem_replace_iff sound.distinct found).mpr (.inr rfl), alive⟩,
      other, mem_living.mpr ⟨(mem_replace_iff sound.distinct found).mpr (.inl ⟨mem, ne⟩), alive'⟩,
      id, ne, there, drained⟩

end Battlefield

open Battlefield

/-- What somebody lost by a report of an action of `who` against a target. -/
def DamageReport.due (report : DamageReport) (who : CombatantId) (target : Option CombatantId)
    (id : CombatantId) : Int :=
  (if target = some id then report.primary else 0) + toll report.splash id
    - (if id = who then report.drained - report.reflected else 0)

namespace Delivery

variable {before : Resolution}

/-! ### Losses -/

/-- Losses have been dealt out, and nothing else has happened. -/
structure Bled (losses : List (CombatantId × Int)) (before after : Resolution) : Prop
    extends Steady Evolves before after where
  bleeds : before.field.Bleeds (toll losses) after.field
  fair : before.field.Fit → ∀ loss ∈ losses, 0 ≤ loss.2

theorem Bled.refl (before : Resolution) : Bled [] before before :=
  ⟨.refl before, (Bleeds.refl before.field).congr fun _ => rfl, fun _ _ mem => absurd mem (by simp)⟩

theorem Bled.append {losses later : List (CombatantId × Int)} {middle after : Resolution}
    (first : Bled losses before middle) (second : Bled later middle after) :
    Bled (losses ++ later) before after := by
  refine ⟨first.toSteady.trans second.toSteady,
    (first.bleeds.trans second.bleeds).congr (toll_append losses later), fun fit loss mem => ?_⟩
  rcases List.mem_append.mp mem with mem | mem
  · exact first.fair fit loss mem
  · exact second.fair (first.bleeds.fit fit) loss mem

/-- Steps succeed, and deal out the losses that their result tells. -/
def Inflicts {α : Type} (losses : α → List (CombatantId × Int)) (steps : Resolve α)
    (before : Resolution) : Prop :=
  ∃ value after, steps before = (.ok value, after) ∧ Bled (losses value) before after

section Strike

variable {who : CombatantId} {one : Combatant}

/-- A blow takes hit points from whoever it hits, and does nothing else. -/
theorem run_strike (before : Resolution) (found : before.field.find? who = some one)
    (amount : Int) (kind : Option String) : ∃ log, strike who amount kind before
      = (.ok (one.lost (one.takeDamage amount) .hitPoints),
        { before with field := before.field.update who fun _ => one.takeDamage amount, log }) := by
  have same : (one.takeDamage amount).id = who :=
    (Combatant.id_of_stance (Combatant.stance_takeDamage ..)).trans (id_of_find? found)
  unfold strike
  rw [run_bind_ok (run_require found)]
  dsimp only
  rw [run_bind_ok (run_replace same)]
  cases kind <;>
    · dsimp only
      rw [run_narrate_bind]
      split <;> exact ⟨_, rfl⟩

theorem run_nested_strike (before : Resolution) (found : before.field.find? who = some one)
    (amount : Int) (kind : Option String) : ∃ log, nested (strike who amount kind) before
      = (.ok (one.lost (one.takeDamage amount) .hitPoints),
        { before with field := before.field.update who fun _ => one.takeDamage amount, log }) := by
  obtain ⟨log, run⟩ := run_strike { before with depth := min (before.depth + 1) 255 } found
    amount kind
  exact ⟨log, run_nested run⟩

theorem inflicts_strike (present : before.field.Present who) (amount : Int)
    (kind : Option String) :
    Inflicts (fun lost => [(who, lost)]) (strike who amount kind) before := by
  obtain ⟨one, found⟩ := present.find?
  obtain ⟨log, run⟩ := run_strike before found amount kind
  have evolves := evolves_wane found (Combatant.wanes_damagePool one .hitPoints amount)
  have bleeds := bleeds_replace found (Combatant.husk_takeDamage one amount) fun fits => by
    rw [Combatant.hitPoints_takeDamage]
    exact fits.adjust _
  have steady : Steady Evolves before { before with
      field := before.field.update who fun _ => one.takeDamage amount, log } :=
    (Steady.of_field evolves evolves.ids).trans (.of_same rfl rfl rfl rfl rfl)
  refine ⟨_, _, run, steady, bleeds.congr (toll_singleton who _), fun fit loss mem => ?_⟩
  obtain rfl := List.mem_singleton.mp mem
  have less := Gauge.drain_le (fit who one found) amount
  rw [← Combatant.hitPoints_takeDamage] at less
  exact Int.sub_nonneg_of_le less

theorem inflicts_strikeTarget (present : before.field.Present who) (tally : Tally) (base : Int) :
    Inflicts (fun lost => [(who, lost)]) (strikeTarget tally base who) before := by
  obtain ⟨one, found⟩ := present.find?
  obtain ⟨lost, after, run, bled⟩ := inflicts_strike present
    (mitigate base (Defenses.gather tally one tally.damageType) tally.ignoreArmor
      tally.ignoreResistance) tally.damageType
  exact ⟨lost, after, (run_bind_ok (run_require found)).trans run, bled⟩

theorem inflicts_strikeOther (before : Resolution) (present : before.field.Present who)
    (tally : Tally) (base : Int) :
    Inflicts (fun lost => [(who, lost)]) (strikeOther tally base who) before := by
  obtain ⟨one, found⟩ := present.find?
  obtain ⟨lost, after, run, bled⟩ := inflicts_strike present
    (mitigate base (Defenses.ofConditions one tally.damageType) true tally.ignoreResistance)
    tally.damageType
  exact ⟨lost, after, (run_bind_ok (run_require found)).trans run, bled⟩

end Strike

theorem inflicts_spread (before : Resolution) (targets : List CombatantId)
    (present : ∀ id ∈ targets, before.field.Present id) (tally : Tally) (base : Int) :
    Inflicts id (spread tally base targets) before := by
  induction targets generalizing before with
  | nil => exact ⟨[], before, rfl, .refl before⟩
  | cons who rest hyp =>
    obtain ⟨lost, struck, run, bled⟩ := inflicts_strikeOther before (present who (by simp)) tally base
    obtain ⟨further, after, runRest, bledRest⟩ := hyp struck fun id mem =>
      bled.field.present.mpr (present id (List.mem_cons_of_mem _ mem))
    refine ⟨(who, lost) :: further, after, ?_, bled.append bledRest⟩
    unfold spread
    rw [run_bind_ok run, run_bind_ok runRest]
    rfl

theorem inflicts_arc (before : Resolution) {targets : List CombatantId}
    (present : ∀ id ∈ targets, before.field.Present id) (tally : Tally) (base : Int) :
    Inflicts id (arc tally base targets) before := by
  induction targets generalizing before with
  | nil => exact ⟨[], before, rfl, .refl before⟩
  | cons who rest hyp =>
    obtain ⟨next, found⟩ := (present who (by simp)).find?
    have later : ∀ id ∈ rest, before.field.Present id := fun id mem =>
      present id (List.mem_cons_of_mem _ mem)
    unfold Inflicts arc
    rw [run_bind_ok (run_require found)]
    split
    case isTrue =>
      obtain ⟨told, isTold⟩ : ∃ told : Resolution, told = { before with
          log := before.log ++ [s!"The effect arcs to {next.name}."] } := ⟨_, rfl⟩
      have same : told.field = before.field := by rw [isTold]
      have tells : Steady Evolves before told := by
        rw [isTold]
        exact .of_same rfl rfl rfl rfl rfl
      have silent : Bled [] before told :=
        ⟨tells, same ▸ (Bleeds.refl before.field).congr fun _ => rfl, fun _ _ mem =>
          absurd mem (by simp)⟩
      obtain ⟨lost, struck, run, bled⟩ := inflicts_strikeOther told
        (same ▸ present who (by simp)) tally base
      obtain ⟨further, after, runRest, bledRest⟩ := hyp struck fun id mem =>
        bled.field.present.mpr (same ▸ later id mem)
      refine ⟨(who, lost) :: further, after, ?_, silent.append (bled.append bledRest)⟩
      rw [run_narrate_bind, ← isTold, run_bind_ok run, run_bind_ok runRest]
      rfl
    case isFalse => exact hyp before later

/-- Steps taken one level deeper deal out what they would there. -/
theorem inflicts_nested {α : Type} {losses : α → List (CombatantId × Int)} {steps : Resolve α}
    (inner : ∀ depth, Inflicts losses steps { before with depth }) :
    Inflicts losses (nested steps) before := by
  obtain ⟨value, after, run, bled⟩ := inner (min (before.depth + 1) 255)
  refine ⟨value, { after with depth := before.depth }, run_nested run,
    ⟨⟨⟨?_, bled.field, bled.known, bled.capped⟩, bled.hook, bled.aborted⟩, bled.bleeds, bled.fair⟩⟩
  have same := bled.premises
  simp only [premises, Premises.mk.injEq] at same ⊢
  simp [same]

theorem inflicts_jump (before : Resolution) (tally : Tally)
    (present : ∀ id ∈ tally.chainTargets, before.field.Present id) (base : Int) :
    Inflicts id (jump tally base) before := by
  unfold Inflicts jump
  rw [run_get_bind]
  split
  · exact inflicts_nested fun depth => inflicts_arc _ (by exact present) tally (base / 2)
  · exact ⟨[], before, rfl, .refl before⟩

/-! ### Lifesteal and reflection -/

section Share

variable {one : Combatant}

/-- A share is exact where the product fits. -/
theorem share_of_fits {amount : Int} {percent : Nat} (fits : FitsInt (amount * percent)) :
    share amount percent = (amount * percent).tdiv 100 := by
  rw [share, wrap_of_fits fits]

/-- No share is more than a hundredth of the greatest number. -/
theorem share_le_hundredth (amount : Int) (percent : Nat) :
    share amount percent ≤ greatestInt.tdiv 100 :=
  Int.tdiv_le_tdiv (by decide) (wrap_fits (amount * percent)).2

/-- A share of at most a hundred percent is at most the whole, also where the product wraps around: then
the whole is greater than any share. -/
theorem share_le {amount : Int} {percent : Nat} (some : 0 ≤ amount) (most : percent ≤ 100) :
    share amount percent ≤ amount := by
  have bound : amount * percent ≤ amount * 100 :=
    Int.mul_le_mul_of_nonneg_left (by exact_mod_cast most) some
  have nonneg : 0 ≤ amount * percent := Int.mul_nonneg some (Int.natCast_nonneg percent)
  by_cases fits : FitsInt (amount * percent)
  · rw [share_of_fits fits, Int.tdiv_eq_ediv_of_nonneg nonneg]
    omega
  · have hundredth : share amount percent ≤ 21474836 := share_le_hundredth amount percent
    unfold FitsInt leastInt greatestInt at fits
    omega

/-- What happens to whoever acts when it heals by a share of what the target lost, or suffers one:
its hit points change, by a share if its pool is in range. -/
structure Shares (one new : Combatant) (change share : Int) (percent : Option Nat)
    (primary : Int) : Prop where
  husk : new.husk = one.husk
  hitPoints : new.hitPoints = one.hitPoints + change
  fits : one.pools.hitPoints.InRange → new.pools.hitPoints.InRange
  nonneg : one.pools.hitPoints.InRange → 0 ≤ share
  most : one.pools.hitPoints.InRange → 0 ≤ primary → (∀ most ∈ percent, most ≤ 100) →
    share ≤ primary

theorem shares_nothing (one : Combatant) (percent : Option Nat) (primary : Int) :
    Shares one one 0 0 percent primary :=
  ⟨rfl, by simp, fun fits => fits, fun _ => Int.le_refl 0, fun _ some _ => some⟩

/-- Healing whoever acts changes nobody else. -/
theorem run_drain (found : before.field.find? before.actor = some one) (amount : Int) :
    ∃ log, drain amount before = (.ok (one.gained (one.heal .hitPoints amount) .hitPoints),
      { before with
        field := before.field.update before.actor fun _ => one.heal .hitPoints amount
        log }) := by
  have same : (one.heal .hitPoints amount).id = before.actor :=
    (Combatant.id_of_stance (Combatant.stance_heal ..)).trans (id_of_find? found)
  unfold drain
  rw [run_get_bind, run_bind_ok (run_require found)]
  dsimp only
  rw [run_bind_ok (run_replace same)]
  split <;> exact ⟨_, rfl⟩

/-- The share that heals whoever acts, or nothing. -/
theorem run_drainShare (found : before.field.find? before.actor = some one) (tally : Tally)
    (primary : Int) :
    ∃ gained new log, drainShare tally primary before = (.ok gained,
        { before with field := before.field.update before.actor fun _ => new, log }) ∧
      Shares one new gained gained tally.lifestealPercent primary := by
  have idle : (Pure.pure 0 : Resolve Int) before = (.ok 0,
      { before with field := before.field.update before.actor fun _ => one, log := before.log }) := by
    rw [update_self found]
    rfl
  unfold drainShare
  rcases tally.lifestealPercent with _ | percent
  · exact ⟨0, one, before.log, idle, shares_nothing ..⟩
  · dsimp only
    split
    case isFalse => exact ⟨0, one, before.log, idle, shares_nothing ..⟩
    case isTrue some =>
      obtain ⟨log, run⟩ := run_drain found (share primary percent)
      have pool := Combatant.hitPoints_heal one (share primary percent)
      refine ⟨_, _, log, run, Combatant.husk_heal .., ?_, fun fits => pool ▸ fits.adjust _,
        fun fits => ?_, fun fits whole most => ?_⟩
      · simp only [Combatant.gained, Combatant.hitPoints, Combatant.pool, Pools.get]
        omega
      · have restored := Gauge.current_restore fits (share primary percent)
        obtain ⟨-, room, -⟩ := fits
        simp only [Combatant.gained, Combatant.pool, Pools.get, pool, restored]
        omega
      · have restored := Gauge.current_restore fits (share primary percent)
        have bound := share_le whole (most percent rfl)
        simp only [Combatant.gained, Combatant.pool, Pools.get, pool, restored]
        omega

/-- Damage that is sent back changes nobody but whoever acts. -/
theorem run_sendBack (found : before.field.find? before.actor = some one) (amount : Int) :
    ∃ lost new log, sendBack amount before = (.ok lost,
        { before with field := before.field.update before.actor fun _ => new, log }) ∧
      new.husk = one.husk ∧ new.hitPoints = one.hitPoints - lost ∧
      (one.pools.hitPoints.InRange → new.pools.hitPoints.InRange ∧ 0 ≤ lost ∧ lost ≤ max amount 0) := by
  unfold sendBack
  split
  · refine ⟨0, one, before.log, ?_, rfl, by simp, fun fits => ⟨fits, Int.le_refl 0, by omega⟩⟩
    rw [update_self found]
    rfl
  · rename_i some
    rw [run_narrate_bind, run_get_bind]
    obtain ⟨log, run⟩ := run_nested_strike { before with
      log := before.log ++ [s!"{amount} damage is reflected back!"] } found amount none
    have pool := Combatant.hitPoints_takeDamage one amount
    refine ⟨_, _, log, run, Combatant.husk_takeDamage .., ?_, fun fits => ?_⟩
    · simp only [Combatant.lost, Combatant.hitPoints, Combatant.pool, Pools.get]
      omega
    · have drained := Gauge.current_drain fits (by omega : 0 ≤ amount)
      refine ⟨pool ▸ fits.adjust _, ?_, ?_⟩ <;>
        · obtain ⟨low, -, -⟩ := fits
          simp only [Combatant.lost, Combatant.pool, Pools.get, pool, drained]
          omega

/-- The share that goes back to whoever acts, or nothing. -/
theorem run_reflectShare (before : Resolution) (found : before.field.find? before.actor = some one)
    (tally : Tally) (primary : Int) :
    ∃ lost new log, reflectShare tally primary before = (.ok lost,
        { before with field := before.field.update before.actor fun _ => new, log }) ∧
      Shares one new (-lost) lost tally.reflectPercent primary := by
  have idle : (Pure.pure 0 : Resolve Int) before = (.ok 0,
      { before with field := before.field.update before.actor fun _ => one, log := before.log }) := by
    rw [update_self found]
    rfl
  unfold reflectShare
  rcases tally.reflectPercent with _ | percent
  · exact ⟨0, one, before.log, idle, shares_nothing ..⟩
  · dsimp only
    rw [run_get_bind]
    split
    case isFalse => exact ⟨0, one, before.log, idle, shares_nothing ..⟩
    case isTrue =>
      obtain ⟨lost, new, log, run, husk, left, fits⟩ := run_sendBack found (share primary percent)
      refine ⟨lost, new, log, run, husk, by rw [left]; omega, fun inRange => (fits inRange).1,
        fun inRange => (fits inRange).2.1, fun inRange whole most => ?_⟩
      have bound := share_le whole (most percent rfl)
      have less := (fits inRange).2.2
      omega

/-- Both shares are taken without fail, and change nobody but whoever acts. -/
theorem run_shares (found : before.field.find? before.actor = some one) (tally : Tally)
    (primary : Int) : ∃ drained healed reflected new middle log,
      drainShare tally primary before = (.ok drained, middle) ∧
      reflectShare tally primary middle = (.ok reflected,
        { before with field := before.field.update before.actor fun _ => new, log }) ∧
      Shares one healed drained drained tally.lifestealPercent primary ∧
      Shares healed new (-reflected) reflected tally.reflectPercent primary := by
  obtain ⟨drained, healed, told, runDrain, drains⟩ := run_drainShare found tally primary
  have same : healed.id = before.actor :=
    (Combatant.id_of_stance (Combatant.stance_of_husk drains.husk)).trans (id_of_find? found)
  obtain ⟨reflected, new, log, runReflect, reflects⟩ :=
    run_reflectShare { before with
      field := before.field.update before.actor fun _ => healed, log := told }
      (find?_replace found same) tally primary
  dsimp only at runReflect
  rw [update_update healed same] at runReflect
  exact ⟨drained, healed, reflected, new, _, log, runDrain, runReflect, drains, reflects⟩

end Share

/-! ### Everything that the tally holds -/

/-- Damage has been dealt: from everyone as much as a report says, and to whoever acts what it has
drained. -/
structure Dealt (tally : Tally) (before : Resolution) (target : Option CombatantId)
    (report : DamageReport) (after : Resolution) : Prop where
  premises : after.premises = before.premises
  endures : Endures before.actor report before.field after.field
  bleeds : before.field.Bleeds (report.due before.actor target) after.field
  nonneg : before.field.Fit → 0 ≤ report.primary ∧ (∀ loss ∈ report.splash, 0 ≤ loss.2) ∧
    0 ≤ report.drained ∧ 0 ≤ report.reflected
  drained : before.field.Fit → (∀ percent ∈ tally.lifestealPercent, percent ≤ 100) →
    report.drained ≤ report.primary
  reflected : before.field.Fit → (∀ percent ∈ tally.reflectPercent, percent ≤ 100) →
    report.reflected ≤ report.primary

theorem dealt_nothing (tally : Tally) (before : Resolution) (target : Option CombatantId) :
    Dealt tally before target {} before :=
  ⟨rfl, (Evolves.refl before.field).endures _ _,
    (Bleeds.refl before.field).congr fun id => by simp [DamageReport.due],
    fun _ => ⟨Int.le_refl 0, by simp, Int.le_refl 0, Int.le_refl 0⟩, fun _ _ => Int.le_refl 0,
    fun _ _ => Int.le_refl 0⟩

/-- The target first, if there is one, then everyone else, and the shares of whoever acts last. -/
theorem deliverDamage_eq (tally : Tally) (base : Int) (target : Option CombatantId) :
    deliverDamage tally base target
      = target.elim (Pure.pure 0) (strikeTarget tally base) >>= fun primary => do
        let area ← spread tally base (tally.areaTargets.filter (some · != target))
        let chain ← jump tally base
        let drained ← drainShare tally primary
        let reflected ← reflectShare tally primary
        return { primary, splash := area ++ chain, reflected, drained } := by
  cases target <;> rfl

/-- The target, if there is one, is struck without fail. -/
theorem run_strikeAimed {target : Option CombatantId}
    (aimed : ∀ id, target = some id → before.field.Present id) (tally : Tally) (base : Int) :
    ∃ primary after,
      target.elim (Pure.pure 0) (strikeTarget tally base) before = (.ok primary, after) ∧
      Bled (target.toList.map (·, primary)) before after ∧ (before.field.Fit → 0 ≤ primary) := by
  cases target with
  | none => exact ⟨0, before, rfl, .refl before, fun _ => Int.le_refl 0⟩
  | some id =>
    obtain ⟨primary, struck, run, bled⟩ := inflicts_strikeTarget (aimed id rfl) tally base
    exact ⟨primary, struck, run, bled, fun fit => bled.fair fit (id, primary) (by simp)⟩

theorem toll_aimed (target : Option CombatantId) (primary : Int) (id : CombatantId) :
    toll (target.toList.map (·, primary)) id = if target = some id then primary else 0 := by
  cases target with
  | none => simp
  | some aim => simp [toll_singleton, eq_comm]

/-- Damage is dealt without fail. -/
theorem run_deliverDamage {tally : Tally} {target : Option CombatantId}
    (acting : before.field.Present before.actor)
    (aimed : ∀ id, target = some id → before.field.Present id)
    (known : ∀ id ∈ tally.areaTargets ++ tally.chainTargets, before.field.Present id)
    (base : Int) : ∃ report after, deliverDamage tally base target before = (.ok report, after) ∧
      Dealt tally before target report after := by
  obtain ⟨primary, struck, runStrikes, bledStrikes, fair⟩ := run_strikeAimed aimed tally base
  obtain ⟨area, spreadOut, runSpread, bledSpread⟩ := inflicts_spread struck
    (tally.areaTargets.filter (some · != target)) (fun id mem => bledStrikes.field.present.mpr
      (known id (List.mem_append_left _ (List.mem_filter.mp mem).1))) tally base
  have bledBoth := bledStrikes.append bledSpread
  obtain ⟨chain, jumped, runJump, bledJump⟩ := inflicts_jump spreadOut tally
    (fun id mem => bledBoth.field.present.mpr (known id (List.mem_append_right _ mem))) base
  have bled := bledBoth.append bledJump
  have acts : jumped.actor = before.actor := bled.actor
  obtain ⟨one, found⟩ : ∃ one, jumped.field.find? jumped.actor = some one := by
    rw [acts]
    exact (bled.field.present.mpr acting).find?
  obtain ⟨drained, healed, reflected, new, middle, log, runDrain, runReflect, drains, reflects⟩ :=
    run_shares found tally primary
  have husk := reflects.husk.trans drains.husk
  have inRange : before.field.Fit → one.pools.hitPoints.InRange := fun fit =>
    bled.bleeds.fit fit jumped.actor one found
  refine ⟨{ primary, splash := area ++ chain, reflected, drained },
    { jumped with field := jumped.field.update jumped.actor fun _ => new, log }, ?_, bled.premises,
    ?_, ?_, fun fit => ⟨fair fit, fun loss mem => ?_, drains.nonneg (inRange fit),
      reflects.nonneg (drains.fits (inRange fit))⟩,
    fun fit most => drains.most (inRange fit) (fair fit) most,
    fun fit most => reflects.most (drains.fits (inRange fit)) (fair fit) most⟩
  · rw [deliverDamage_eq, run_bind_ok runStrikes, run_bind_ok runSpread, run_bind_ok runJump,
      run_bind_ok runDrain, run_bind_ok runReflect]
    rfl
  · refine Endures.evolves_trans bled.field ?_
    rw [← acts]
    refine endures_replace found (Combatant.stance_of_husk husk) ?_
    rw [reflects.hitPoints, drains.hitPoints]
    dsimp only
    omega
  · have replaces := bleeds_replace found husk fun fits => reflects.fits (drains.fits fits)
    refine (bled.bleeds.trans replaces).congr fun id => ?_
    simp only [DamageReport.due, toll_append, toll_aimed, acts, drains.hitPoints,
      reflects.hitPoints, id_eq]
    by_cases here : id = before.actor <;> simp only [here, ↓reduceIte] <;> omega
  · rcases List.mem_append.mp mem with mem | mem
    · exact bledSpread.fair (bledStrikes.bleeds.fit fit) loss mem
    · exact bledJump.fair (bledBoth.bleeds.fit fit) loss mem

/-- A loss of composure goes to the target, and does nothing else. -/
theorem run_unsettle {who : CombatantId} {one : Combatant}
    (found : before.field.find? who = some one) (amount : Int) :
    ∃ log, unsettle who amount before = (.ok (), { before with
      field := before.field.update who fun _ => one.damagePool .composure amount
      log }) := by
  have same : (one.damagePool .composure amount).id = who :=
    (Combatant.id_of_stance (Combatant.stance_damagePool ..)).trans (id_of_find? found)
  unfold unsettle
  rw [run_bind_ok (run_require found), run_bind_ok (run_replace same), run_narrate_bind]
  split <;> exact ⟨_, rfl⟩

/-- A delivery takes from everyone what its report lists, gives whoever acts what it has drained, and
touches the composure of nobody but the target. -/
structure Accounts (before : Resolution) (target : Option CombatantId) (report : DamageReport)
    (after : Resolution) : Prop where
  premises : after.premises = before.premises
  terrain : after.field.terrain = before.field.terrain
  each : ∀ id one, before.field.find? id = some one → ∃ new, after.field.find? id = some new ∧
    new.hitPoints = one.hitPoints - report.due before.actor target id ∧
    new.shell = one.shell ∧ (target ≠ some id → new.husk = one.husk)
  fit : before.field.Fit → after.field.Fit
  nonneg : before.field.Fit → 0 ≤ report.primary ∧ (∀ loss ∈ report.splash, 0 ≤ loss.2) ∧
    0 ≤ report.drained ∧ 0 ≤ report.reflected
  drained : before.field.Fit → (∀ percent ∈ before.tally.lifestealPercent, percent ≤ 100) →
    report.drained ≤ report.primary
  reflected : before.field.Fit → (∀ percent ∈ before.tally.reflectPercent, percent ≤ 100) →
    report.reflected ≤ report.primary

section Deliver

variable {target : Option CombatantId} {report : DamageReport} {after : Resolution}

theorem Dealt.accounts (dealt : Dealt before.tally before target report after) :
    Accounts before target report after := by
  refine ⟨dealt.premises, dealt.bleeds.terrain, fun id one found => ?_, dealt.bleeds.fit,
    dealt.nonneg, dealt.drained, dealt.reflected⟩
  obtain ⟨new, found', husk, left⟩ := dealt.bleeds.each id one found
  exact ⟨new, found', left, Combatant.shell_of_husk husk, fun _ => husk⟩

/-- A loss of composure of the target goes on no account. -/
theorem Accounts.unsettled {who : CombatantId} {middle : Resolution} {one : Combatant}
    (accounts : Accounts before (some who) report middle)
    (found : middle.field.find? who = some one) (amount : Int) (log : List String) :
    Accounts before (some who) report { middle with
      field := middle.field.update who fun _ => one.damagePool .composure amount
      log } := by
  have same : (one.damagePool .composure amount).id = who :=
    (Combatant.id_of_stance (Combatant.stance_damagePool ..)).trans (id_of_find? found)
  have pool : (one.damagePool .composure amount).pools.hitPoints = one.pools.hitPoints := by
    simp [Pools.set]
  refine ⟨accounts.premises, accounts.terrain, fun id old there => ?_, fun fit id new there => ?_,
    accounts.nonneg, accounts.drained, accounts.reflected⟩
  · obtain ⟨hurt, found', left, shell, husk⟩ := accounts.each id old there
    by_cases here : id = who
    · subst here
      obtain rfl := Option.some.inj (found.symm.trans found')
      refine ⟨_, find?_replace found same, ?_, ?_, fun ne => absurd rfl ne⟩
      · rw [← left]
        simp only [Combatant.hitPoints, pool]
      · rw [Combatant.shell_damagePool_composure, shell]
    · exact ⟨hurt, (find?_replace_of_ne same here).trans found', left, shell, husk⟩
  · by_cases here : id = who
    · subst here
      obtain rfl := Option.some.inj ((find?_replace found same).symm.trans there)
      rw [pool]
      exact accounts.fit fit id one found
    · exact accounts.fit fit id new ((find?_replace_of_ne same here).symm.trans there)

/-- The damage first, then what it does to the nerves of the target. -/
theorem deliver_eq (target : Option CombatantId) (before : Resolution) : deliver target before
    = ((before.tally.pendingDamage.elim (Pure.pure {}) fun base =>
        deliverDamage before.tally base target) >>= fun report =>
      (before.tally.pendingComposure.elim (Pure.pure ()) fun amount =>
        target.elim (Pure.pure ()) fun target => unsettle target amount) >>= fun _ =>
      Pure.pure report) before := by
  unfold deliver
  rw [run_get_bind]
  cases before.tally.pendingDamage <;> cases before.tally.pendingComposure <;> cases target <;> rfl

/-- **Delivery never fails**, its report accounts for every loss, and those who live keep a cell each
unless whoever acts rises among others. -/
theorem run_deliver (acting : before.field.Present before.actor)
    (aimed : ∀ id, target = some id → before.field.Present id) (known : before.Known) :
    ∃ report after, deliver target before = (.ok report, after) ∧
      Endures before.actor report before.field after.field ∧ Accounts before target report after := by
  obtain ⟨report, dealt, runDeal, deals⟩ : ∃ report dealt,
      (before.tally.pendingDamage.elim (Pure.pure {}) fun base =>
        deliverDamage before.tally base target) before = (.ok report, dealt) ∧
      Dealt before.tally before target report dealt := by
    cases before.tally.pendingDamage with
    | none => exact ⟨{}, before, rfl, dealt_nothing ..⟩
    | some base => exact run_deliverDamage acting aimed known base
  rw [deliver_eq, run_bind_ok runDeal]
  have idle : ((Pure.pure () : Resolve Unit) >>= fun _ => Pure.pure report) dealt
      = (.ok report, dealt) := rfl
  rcases before.tally.pendingComposure with _ | amount
  · exact ⟨report, dealt, idle, deals.endures, deals.accounts⟩
  · rcases target with _ | who
    · exact ⟨report, dealt, idle, deals.endures, deals.accounts⟩
    · obtain ⟨one, found⟩ := (deals.endures.toShifts.present.mpr (aimed who rfl)).find?
      obtain ⟨log, run⟩ := run_unsettle found amount
      refine ⟨report, _, run_bind_ok run, deals.endures.trans_rests ?_,
        deals.accounts.unsettled found amount log⟩
      have bearing : (one.damagePool .composure amount).bearing = one.bearing :=
        Combatant.bearing_damagePool one (by simp) amount
      exact rests_update fun other there => by
        rw [Option.some.inj (there.symm.trans found), bearing]

end Deliver

/-! ### Around a delivery -/

/-- What an action of `who` against a target does when its damage is delivered, its premises staying. -/
structure Delivers (who : CombatantId) (target : Option CombatantId) (before : Resolution)
    (report : DamageReport) (after : Resolution) : Prop where
  premises : after.premises = before.premises
  endures : Endures who report before.field after.field
  bystands : Bystands who target report.splash before.field after.field

section Delivers

variable {who : CombatantId} {target : Option CombatantId} {report : DamageReport}
  {middle after : Resolution}

theorem Delivers.of_course (course : Course who target before after)
    (nothing : report.splash = []) : Delivers who target before report after := by
  refine ⟨course.premises, course.field.moves.endures .., ?_⟩
  rw [nothing]
  exact (Bystands.refl ..).trans_confined course.field course.field.moves.ids

theorem Delivers.course_trans (course : Course who target before middle)
    (delivers : Delivers who target middle report after) : Delivers who target before report after :=
  ⟨delivers.premises.trans course.premises, .evolves_trans course.field.moves delivers.endures,
    .confined_trans course.field course.field.moves.ids delivers.bystands⟩

theorem Delivers.trans_steady (delivers : Delivers who target before report middle)
    (steady : Steady (Confined who target Rests) middle after) :
    Delivers who target before report after :=
  ⟨steady.premises.trans delivers.premises, delivers.endures.trans_rests steady.field.moves,
    delivers.bystands.trans_confined steady.field steady.field.moves.evolves.ids⟩

theorem Accounts.delivers (accounts : Accounts before target report after)
    (endures : Endures before.actor report before.field after.field) :
    Delivers before.actor target before report after := by
  refine ⟨accounts.premises, endures, endures.toShifts.ids,
    ⟨before.field.terrain.hazard?, accounts.terrain⟩, fun id one apart found => ?_⟩
  obtain ⟨new, found', left, -, husk⟩ := accounts.each id one found
  obtain ⟨other, unaimed⟩ := not_or.mp apart
  exact ⟨new, found', husk unaimed, by simp [left, DamageReport.due, other, unaimed]⟩

/-- Steps succeed, and do what delivering the damage that their result reports does. -/
def Deals {α : Type} (who : CombatantId) (target : Option CombatantId) (damage : α → DamageReport)
    (steps : Resolve α) (before : Resolution) : Prop :=
  ∃ value after, steps before = (.ok value, after) ∧
    Delivers who target before (damage value) after

namespace Deals

variable {α β γ : Type} {damage : α → DamageReport} {damage' : β → DamageReport}

theorem pure {value : α} (nothing : (damage value).splash = []) :
    Deals who target damage (Pure.pure value) before :=
  ⟨value, before, rfl, .of_course (.refl before) nothing⟩

theorem get {next : Resolution → Resolve α} (rest : Deals who target damage (next before) before) :
    Deals who target damage ((MonadState.get : Resolve Resolution) >>= next) before := rest

/-- What happens before the damage is dealt. -/
theorem bind {step : Resolve β} {next : β → Resolve α}
    (first : Succeeds (Course who target) step before)
    (second : ∀ value middle, step before = (.ok value, middle) → Course who target before middle →
      Deals who target damage (next value) middle) :
    Deals who target damage (step >>= next) before := by
  obtain ⟨value, middle, run, course⟩ := first
  obtain ⟨last, after, rest, delivers⟩ := second value middle run course
  exact ⟨last, after, (run_bind_ok run).trans rest, delivers.course_trans course⟩

/-- What happens after the damage is dealt, and changes nobody's bearing. -/
theorem ending {step : Resolve α} {tail : α → Resolve γ} {result : α → γ → β}
    (first : Deals who target damage step before)
    (rest : ∀ value middle, Delivers who target before (damage value) middle →
      Succeeds (Steady (Confined who target Rests)) (tail value) middle)
    (same : ∀ value other, damage' (result value other) = damage value) :
    Deals who target damage'
      (step >>= fun value => tail value >>= fun other => Pure.pure (result value other)) before := by
  obtain ⟨value, middle, run, delivers⟩ := first
  obtain ⟨other, after, runTail, steady⟩ := rest value middle delivers
  refine ⟨result value other, after, (run_bind_ok run).trans (run_bind_ok runTail), ?_⟩
  rw [same]
  exact delivers.trans_steady steady

end Deals

end Delivers

end Delivery

end Skirmish
