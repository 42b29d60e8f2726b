/-
**Getting up again.** Healing brings somebody back whose cell may have been taken meanwhile:

* `Crowded`: somebody alive stands where the patient would get up. In no other case does anybody move;
* `Healing`: what healing amounts to on the field. It is done in place, on the nearest free cell, or,
  where none is in reach, not at all;
* `healing_of_act_heal`: every heal that is not refused is one of these. It gives back what the pool
  has room for, and leaves the living apart.
-/

import Skirmish.Effect.Act
import Skirmish.Proofs.Footholds
import Skirmish.Proofs.Runs

namespace Skirmish

/-! ### What is given back -/

namespace Combatant

variable {combatant : Combatant}

/-- Healing gives back as much as there is room for. -/
theorem gained_heal (combatant : Combatant) {pool : Pool} (fits : (combatant.pool pool).InRange)
    {amount : Int} (some : 0 ≤ amount) : combatant.gained (combatant.heal pool amount) pool
      = min amount ((combatant.pool pool).maximum - (combatant.pool pool).current) := by
  have healed : (combatant.heal pool amount).pool pool = (combatant.pool pool).restore amount := by
    simp [Combatant.pool]
  rw [gained, healed, Gauge.current_restore fits]
  omega

/-- Whoever is down stays down unless hit points are given back. -/
theorem not_isAlive_heal (down : ¬combatant.isAlive) {pool : Pool} {amount : Int}
    (idle : pool ≠ .hitPoints ∨ amount ≤ 0) : ¬(combatant.heal pool amount).isAlive :=
  fun alive => down ((wanes_heal_of_pool idle).alive alive)

end Combatant

namespace Battlefield

variable {field after : Battlefield} {who : CombatantId} {patient : Combatant} {pool : Pool}
  {amount : Int}

/-- Somebody alive stands on the cell of a fallen patient, who would get up there. -/
structure Crowded (field : Battlefield) (patient : Combatant) (pool : Pool) (amount : Int) : Prop where
  vital : pool = .hitPoints
  some : 0 < amount
  down : ¬patient.isAlive
  held : ∃ one ∈ field.living, one.position = patient.position

/-- The field after somebody has been given back an amount of a pool, on some cell. -/
def restored (field : Battlefield) (who : CombatantId) (patient : Combatant) (pool : Pool)
    (amount : Int) (cell : Cell) : Battlefield :=
  field.update who fun _ => { patient with position := cell }.heal pool amount

/-- What healing amounts to on the field. -/
structure Healing (field : Battlefield) (who : CombatantId) (patient : Combatant) (pool : Pool)
    (amount : Int) (after : Battlefield) : Prop where
  clear : ¬field.Crowded patient pool amount →
    after = field.restored who patient pool amount patient.position
  crowded : field.Crowded patient pool amount →
    (∃ cell, field.NearestFree patient.position Effect.riseRadius cell ∧
      after = field.restored who patient pool amount cell) ∨
    (∀ cell, patient.position.distance cell ≤ Effect.riseRadius → ¬field.isFree cell) ∧ after = field

theorem grounded_restored (grounded : field.Grounded) {cell : Cell}
    (walkable : field.terrain.isWalkable cell) :
    (field.restored who patient pool amount cell).Grounded := by
  refine grounded.replace ?_
  rwa [Combatant.position_of_stance (Combatant.stance_heal _ pool amount)]

theorem exclusive_restored (exclusive : field.Exclusive) (found : field.find? who = some patient)
    {cell : Cell} (settled : ({ patient with position := cell }.heal pool amount).isAlive →
      (patient.isAlive ∧ cell = patient.position) ∨ ∀ one ∈ field.living, one.position ≠ cell) :
    (field.restored who patient pool amount cell).Exclusive := by
  refine exclusive.replace found fun alive => ?_
  rw [Combatant.position_of_stance (Combatant.stance_heal _ pool amount)]
  exact settled alive

/-- Healing leaves everyone on walkable ground and the living apart. -/
theorem Healing.apart (healing : field.Healing who patient pool amount after)
    (found : field.find? who = some patient) (grounded : field.Grounded)
    (exclusive : field.Exclusive) : after.Grounded ∧ after.Exclusive := by
  by_cases crowded : field.Crowded patient pool amount
  · rcases healing.crowded crowded with ⟨cell, nearest, rfl⟩ | ⟨-, rfl⟩
    · obtain ⟨walkable, unheld⟩ := isFree_iff.mp nearest.free
      exact ⟨grounded_restored grounded walkable,
        exclusive_restored exclusive found fun _ => .inr unheld⟩
    · exact ⟨grounded, exclusive⟩
  · rw [healing.clear crowded]
    refine ⟨grounded_restored grounded (grounded patient (mem_of_find? found)),
      exclusive_restored exclusive found fun alive => ?_⟩
    by_cases was : patient.isAlive
    · exact .inl ⟨was, rfl⟩
    · -- Whoever gets up has been given hit points, and nobody stands on its cell.
      refine .inr fun one mem here => crowded ⟨?_, ?_, was, one, mem, here⟩
      · by_contra idle
        exact Combatant.not_isAlive_heal was (.inl idle) alive
      · by_contra idle
        exact Combatant.not_isAlive_heal was (.inr (by omega)) alive

end Battlefield

namespace Effect

open Battlefield Resolve

variable {recipient : Recipient} {firing : Firing} {before : Resolution} {who : CombatantId}
  {patient : Combatant} {pool : Pool} {amount : Int}

/-! ### What is read -/

/-- The dice that say how much is given back. -/
def healingDice (firing : Firing) : Except Error DiceFormula := do
  DiceFormula.written (← firing.require "amount")

/-- The pool that is restored. -/
def healedPool (firing : Firing) : Except Error Pool :=
  match firing.named? "pool" with
  | some text => Pool.named (Text.singleSpaced text)
  | none => .ok .hitPoints

/-- Who is healed: whoever acts, where the text or the rule says so, or else the target. -/
def healedOne (recipient : Recipient) (firing : Firing) (resolution : Resolution) : CombatantId :=
  if (firing.named? "verb").any isReflexive || recipient == .actor then resolution.actor
  else resolution.targetOrActor

/-! ### Getting up, and being healed -/

theorem run_regain (before : Resolution) (found : before.field.find? who = some patient)
    (pool : Pool) (amount : Int) (down : Bool) :
    ∃ lines, regain who pool amount down before = (.ok (), { before with
      field := before.field.update who fun _ => patient.heal pool amount
      log := before.log ++ lines }) := by
  have same : (patient.heal pool amount).id = who :=
    (Combatant.id_of_stance (Combatant.stance_heal ..)).trans (id_of_find? found)
  unfold regain
  rw [run_bind_ok (run_require found), run_bind_ok (run_replace same), run_narrate_bind]
  split
  · exact ⟨[_] ++ [_], by rw [← List.append_assoc]; rfl⟩
  · exact ⟨[_], rfl⟩

theorem findRoom_of_free (free : before.field.occupant? patient.position = none) :
    findRoom who patient before = (.ok true, before) := by
  simp [findRoom, free]

theorem findRoom_of_near {cell : Cell} (found : before.field.find? who = some patient)
    (held : before.field.occupant? patient.position ≠ none)
    (near : before.field.nearestFree? patient.position riseRadius = some cell) :
    ∃ lines, findRoom who patient before = (.ok true, { before with
      field := before.field.update who fun _ => { patient with position := cell }
      log := before.log ++ lines }) := by
  unfold findRoom
  rw [run_get_bind, if_neg (by simpa using held), near]
  dsimp only
  rw [run_bind_ok (run_place_of_free (present_of_find? found) (isFree_of_nearestFree? near)),
    run_narrate_bind, update_const found fun one => { one with position := cell }]
  exact ⟨[_], rfl⟩

theorem findRoom_of_full (who : CombatantId) (held : before.field.occupant? patient.position ≠ none)
    (full : before.field.nearestFree? patient.position riseRadius = none) :
    ∃ lines, findRoom who patient before = (.ok false, { before with log := before.log ++ lines }) := by
  unfold findRoom
  rw [run_get_bind, if_neg (by simpa using held), full]
  exact ⟨[_], rfl⟩

/-- Give a patient back an amount of a pool, after it has found room to get up where it needs any. -/
def treat (who : CombatantId) (patient : Combatant) (pool : Pool) (amount : Int) : Resolve Unit := do
  let room ←
    if !patient.isAlive && pool == .hitPoints && 0 < amount then findRoom who patient
    else pure true
  if room then regain who pool amount (!patient.isAlive)

/-- Where nobody crowds it, the patient is healed in its place. -/
theorem run_treat_of_clear (found : before.field.find? who = some patient)
    (clear : ¬before.field.Crowded patient pool amount) :
    ∃ lines, treat who patient pool amount before = (.ok (), { before with
      field := before.field.restored who patient pool amount patient.position
      log := before.log ++ lines }) := by
  obtain ⟨lines, run⟩ := run_regain before found pool amount (!patient.isAlive)
  refine ⟨lines, ?_⟩
  unfold treat
  split
  case isTrue rises =>
    have free : before.field.occupant? patient.position = none := by
      refine occupant?_eq_none_iff.mpr fun one mem here => clear ?_
      simp only [Bool.and_eq_true, Bool.not_eq_true', beq_iff_eq, decide_eq_true_eq] at rises
      exact ⟨rises.1.2, rises.2, by simp [rises.1.1], one, mem, here⟩
    exact (run_bind_ok (findRoom_of_free free)).trans run
  case isFalse => exact run

/-- A patient that is crowded looks for room. -/
theorem treat_of_crowded (who : CombatantId)
    (crowded : before.field.Crowded patient pool amount) : treat who patient pool amount = (do
      let room ← findRoom who patient
      if room then regain who pool amount (!patient.isAlive)) ∧
    before.field.occupant? patient.position ≠ none := by
  have rises : (!patient.isAlive && pool == .hitPoints && decide (0 < amount)) = true := by
    simp [crowded.down, crowded.vital, crowded.some]
  refine ⟨if_pos rises, fun none => ?_⟩
  obtain ⟨one, mem, here⟩ := crowded.held
  exact occupant?_eq_none_iff.mp none one mem here

theorem run_treat_of_near {cell : Cell} (found : before.field.find? who = some patient)
    (crowded : before.field.Crowded patient pool amount)
    (near : before.field.nearestFree? patient.position riseRadius = some cell) :
    ∃ lines, treat who patient pool amount before = (.ok (), { before with
      field := before.field.restored who patient pool amount cell
      log := before.log ++ lines }) := by
  obtain ⟨treats, held⟩ := treat_of_crowded who crowded
  obtain ⟨lines, run⟩ := findRoom_of_near found held near
  have same : ({ patient with position := cell } : Combatant).id = who :=
    show patient.id = who from id_of_find? found
  have moved : (before.field.update who fun _ => { patient with position := cell }).find? who
      = some { patient with position := cell } := find?_replace found same
  obtain ⟨more, run'⟩ := run_regain { before with
    field := before.field.update who fun _ => { patient with position := cell }
    log := before.log ++ lines } moved pool amount (!patient.isAlive)
  have twice : (before.field.update who fun _ => { patient with position := cell }).update who
      (fun _ => { patient with position := cell }.heal pool amount)
        = before.field.restored who patient pool amount cell := update_update _ same _
  refine ⟨lines ++ more, ?_⟩
  rw [treats, run_bind_ok run, ← twice, ← List.append_assoc]
  exact run'

theorem run_treat_of_full (who : CombatantId)
    (crowded : before.field.Crowded patient pool amount)
    (full : before.field.nearestFree? patient.position riseRadius = none) :
    ∃ lines, treat who patient pool amount before
      = (.ok (), { before with log := before.log ++ lines }) := by
  obtain ⟨treats, held⟩ := treat_of_crowded who crowded
  obtain ⟨lines, run⟩ := findRoom_of_full who held full
  exact ⟨lines, by rw [treats, run_bind_ok run]; rfl⟩

theorem run_treat (before : Resolution) (found : before.field.find? who = some patient)
    (pool : Pool) (amount : Int) :
    ∃ field lines, treat who patient pool amount before
        = (.ok (), { before with field, log := before.log ++ lines }) ∧
      before.field.Healing who patient pool amount field := by
  have fits : (riseRadius : Int) ≤ greatestInt := by decide
  by_cases crowded : before.field.Crowded patient pool amount
  · rcases near : before.field.nearestFree? patient.position riseRadius with _ | cell
    · obtain ⟨lines, run⟩ := run_treat_of_full who crowded near
      exact ⟨before.field, lines, run, fun clear => absurd crowded clear, fun _ =>
        .inr ⟨fun cell within => nearestFree?_eq_none fits near within, rfl⟩⟩
    · obtain ⟨lines, run⟩ := run_treat_of_near found crowded near
      exact ⟨_, lines, run, fun clear => absurd crowded clear, fun _ =>
        .inl ⟨cell, nearestFree?_eq_some fits near, rfl⟩⟩
  · obtain ⟨lines, run⟩ := run_treat_of_clear found crowded
    exact ⟨_, lines, run, fun _ => rfl, fun held => absurd held crowded⟩

/-- A heal reads how much is given back of which pool, rolls it, and treats somebody. -/
theorem actHeal_eq (recipient : Recipient) (firing : Firing) : actHeal recipient firing = (do
    let formula ← settle (healingDice firing)
    let pool ← settle (healedPool firing)
    let resolution ← get
    let amount ← roll formula
    let patient ← require (healedOne recipient firing resolution)
    treat (healedOne recipient firing resolution) patient pool amount) := by
  unfold actHeal healedPool
  cases firing.named? "pool" <;> rfl

/-- A heal that is not refused has found all that it reads, and treats somebody. -/
theorem exists_of_run_actHeal {after : Resolution}
    (run : actHeal recipient firing before = (.ok (), after)) :
    ∃ formula pool patient, healingDice firing = .ok formula ∧ healedPool firing = .ok pool ∧
      before.field.find? (healedOne recipient firing before) = some patient ∧
      treat (healedOne recipient firing before) patient pool
        (formula.total (formula.faces before.dice).1)
        { before with dice := (formula.faces before.dice).2 } = (.ok (), after) := by
  rw [actHeal_eq] at run
  obtain ⟨formula, _, reads, run⟩ := exists_of_run_bind run
  obtain ⟨dice, same⟩ := settle_of_run reads
  rw [same] at run
  obtain ⟨pool, _, reads, run⟩ := exists_of_run_bind run
  obtain ⟨picks, same⟩ := settle_of_run reads
  rw [same, run_get_bind, run_bind_ok (run_roll formula)] at run
  obtain ⟨patient, _, finds, run⟩ := exists_of_run_bind run
  obtain ⟨found, same⟩ := settle_of_run finds
  exact ⟨formula, pool, patient, dice, picks, require_eq_ok.mp found, same ▸ run⟩

/-- Every heal that is not refused treats the one it is for, with the amount that is rolled. Only where
somebody alive stands on the cell on which a fallen one would get up does that one move, to the
nearest free cell within reach, and if there is none nothing happens. What is given back is the
amount, or what is missing if that is less. Everyone else stays as they are, and the living are left
apart. -/
theorem healing_of_act_heal {after : Resolution}
    (run : (Effect.heal recipient).act firing before = (.ok (), after))
    (grounded : before.field.Grounded) (exclusive : before.field.Exclusive) :
    ∃ formula pool patient amount, healingDice firing = .ok formula ∧ healedPool firing = .ok pool ∧
      before.field.find? (healedOne recipient firing before) = some patient ∧
      amount = formula.total (formula.faces before.dice).1 ∧
      before.field.Healing (healedOne recipient firing before) patient pool amount after.field ∧
      (¬before.field.Crowded patient pool amount →
        after.field.roster.map Combatant.position = before.field.roster.map Combatant.position) ∧
      ((patient.pool pool).InRange → ∀ cell,
        patient.gained ({ patient with position := cell }.heal pool amount) pool
          = min amount ((patient.pool pool).maximum - (patient.pool pool).current)) ∧
      after.field.Grounded ∧ after.field.Exclusive := by
  obtain ⟨formula, pool, patient, dice, picks, found, treats⟩ := exists_of_run_actHeal run
  obtain ⟨field, lines, run', healing⟩ :=
    run_treat { before with dice := (formula.faces before.dice).2 } found pool
      (formula.total (formula.faces before.dice).1)
  obtain ⟨-, rfl⟩ := Prod.mk.inj (treats.symm.trans run')
  refine ⟨formula, pool, patient, _, dice, picks, found, rfl, healing, fun clear => ?_,
    fun fits cell => ?_, healing.apart found grounded exclusive⟩
  · show field.roster.map Combatant.position = _
    rw [healing.clear clear]
    refine map_update Combatant.position fun one eq => ?_
    obtain rfl := Option.some.inj (found.symm.trans eq)
    exact Combatant.position_of_stance (Combatant.stance_heal ..)
  · exact Combatant.gained_heal { patient with position := cell } fits (Int.le_max_right _ _)

/-- Dorn, fallen where Aria stands by now. -/
def fallenDorn : Combatant := { dorn.takeDamage 40 with position := aria.position }

/-- Aria is about to heal him. -/
def overrun : Resolution where
  field := ⟨[aria, fallenDorn], .plain 5 5⟩
  dice := .scripted []
  config := {}
  hook := .activate
  actor := ⟨1⟩
  target := some ⟨2⟩

/-- Five hit points for the target. -/
def mend : Firing :=
  ⟨"heal", "Heals 5 HP", ⟨"Heals 5 HP", [("amount", "5"), ("pool", "HP"), ("verb", "Heals")]⟩⟩

theorem healing_mend : overrun.field.Grounded ∧ overrun.field.Exclusive ∧
    ∃ after, (Effect.heal .target).act mend overrun = (.ok (), after) ∧
      overrun.field.Healing ⟨2⟩ fallenDorn .hitPoints 5 after.field ∧ after.field.Exclusive := by
  have grounded : overrun.field.Grounded := by unfold Grounded; decide +kernel
  have exclusive : overrun.field.Exclusive := by unfold Exclusive; decide +kernel
  have succeeds : ((Effect.heal .target).act mend overrun).1 = .ok () := by decide +kernel
  have run : (Effect.heal .target).act mend overrun
      = (.ok (), ((Effect.heal .target).act mend overrun).2) := Prod.ext succeeds rfl
  obtain ⟨formula, pool, patient, amount, dice, picks, found, rolled, healing, -, -, -, exclusive'⟩ :=
    healing_of_act_heal run grounded exclusive
  have reads : healingDice mend = .ok (.flat 5) := by decide +kernel
  have reads' : healedPool mend = .ok .hitPoints := by decide +kernel
  have target : healedOne .target mend overrun = ⟨2⟩ := by decide +kernel
  obtain rfl := Except.ok.inj (dice.symm.trans reads)
  obtain rfl := Except.ok.inj (picks.symm.trans reads')
  rw [target] at healing found
  obtain rfl : patient = fallenDorn := Option.some.inj (found.symm.trans rfl)
  obtain rfl : amount = 5 := rolled.trans (by decide +kernel)
  exact ⟨grounded, exclusive, _, run, healing, exclusive'⟩

end Effect

end Skirmish
