/-
**What a contest does to the field.** Consequences consist of a few kinds of changes, so that a relation
between scenes that covers these covers what follows a contest (`Covers.leads_follow`).

Whoever is driven, slips or steps anywhere goes to a free cell. Only an exchange of cells can go wrong
(`Settles`), and it does so exactly where `Trades.exclusive_iff_not_crowds` says.
-/

import Skirmish.Clash
import Skirmish.Proofs.Occupancy
import Skirmish.Proofs.Running

namespace Skirmish

open Battlefield

/-- A change of the scene in which the field evolves. -/
def Scene.Evolves (before after : Scene) : Prop := before.field.Evolves after.field

instance : Std.Refl Scene.Evolves := ⟨fun scene => .refl scene.field⟩

instance : IsTrans Scene Scene.Evolves := ⟨fun _ _ _ first second => Evolves.trans first second⟩

namespace Contest

variable {before : Scene} {winner loser : CombatantId}

/-! ### Steps -/

/-- Looking somebody up fails, or finds somebody on the field. -/
theorem run_require (id : CombatantId) (before : Scene) :
    (∃ error, require id before = (.error error, before)) ∨
      ∃ one, before.field.find? id = some one ∧ require id before = (.ok one, before) := by
  have run : require id before = settle (before.field.require id) before := rfl
  rw [run]
  rcases looked : before.field.require id with error | one
  · exact .inl ⟨error, rfl⟩
  · exact .inr ⟨one, require_eq_ok.mp looked, rfl⟩

theorem run_require_of_find? {id : CombatantId} {one : Combatant}
    (found : before.field.find? id = some one) : require id before = (.ok one, before) := by
  have run : require id before = settle (before.field.require id) before := rfl
  rw [run, require_eq_ok.mpr found]
  rfl

/-- Whoever is looked up is on the field from here on. -/
theorem leads_require {α : Type} {relation : Scene → Scene → Prop} [Std.Refl relation]
    {id : CombatantId} {next : Combatant → Contest α}
    (rest : ∀ one, before.field.find? id = some one → Leads relation (next one) before) :
    Leads relation (require id >>= next) before := by
  unfold Leads
  rcases run_require id before with ⟨error, run⟩ | ⟨one, found, run⟩
  · rw [run_bind_error run]
    exact Std.Refl.refl before
  · rw [run_bind_ok run]
    exact rest one found

theorem run_narrate (line : String) (before : Scene) :
    narrate line before = (.ok (), { before with log := before.log ++ [line] }) := rfl

/-- Turning changes nobody's bearing. -/
theorem run_face (before : Scene) {one other : Combatant}
    (found : before.field.find? winner = some one)
    (found' : before.field.find? loser = some other) :
    ∃ field, face winner loser before = (.ok (), { before with field }) ∧
      before.field.Rests field := by
  unfold face
  rw [run_bind_ok (run_require_of_find? found), run_bind_ok (run_require_of_find? found')]
  exact ⟨_, rfl, rests_update fun _ _ => rfl⟩

/-! ### Consequences -/

/-- A relation between scenes that covers whatever a consequence does, but for an exchange of cells. -/
structure Covers (relation : Scene → Scene → Prop) : Prop where
  told : ∀ scene line, relation scene { scene with log := scene.log ++ [line] }
  placed : ∀ {scene id cell field}, Battlefield.place scene.field id cell = .ok field →
    relation scene { scene with field }
  turned : ∀ scene id facing,
    relation scene { scene with field := scene.field.update id ({ · with facing }) }
  shaken : ∀ {scene id one} amount, Battlefield.find? scene.field id = some one →
    relation scene
      { scene with field := scene.field.update id fun _ => one.damagePool .composure amount }

section Covered

variable {relation : Scene → Scene → Prop}

theorem Covers.leads_narrate (covers : Covers relation) (line : String) :
    Leads relation (narrate line) before := covers.told before line

variable [Std.Refl relation]

theorem Covers.leads_place (covers : Covers relation) (id : CombatantId) (cell : Cell) :
    Leads relation (place id cell) before := by
  refine .get ?_
  rcases placed : before.field.place id cell with error | field
  · exact .throw error
  · exact covers.placed placed

theorem Covers.leads_face (covers : Covers relation) (id other : CombatantId) :
    Leads relation (face id other) before :=
  leads_require fun _ _ => leads_require fun _ _ => covers.turned before id _

variable [IsTrans Scene relation]

theorem Covers.leads_shove (covers : Covers relation) :
    Leads relation (shove winner loser) before := by
  refine leads_require fun winning _ => leads_require fun losing _ => .get ?_
  split
  · exact (covers.leads_place ..).bind fun _ _ _ => (covers.leads_place ..).bind fun _ _ _ =>
      (covers.leads_face ..).bind fun _ _ _ => covers.leads_narrate _
  · exact covers.leads_narrate _

theorem Covers.leads_swap (covers : Covers relation)
    (swaps : ∀ {field}, before.field.swap winner loser = .ok field →
      relation before { before with field }) : Leads relation (swap winner loser) before := by
  refine leads_require fun winning _ => leads_require fun losing _ => .get ?_
  rcases swapped : before.field.swap winner loser with error | field
  · exact .throw error
  · have trades : Leads relation (modify fun scene => { scene with field } : Contest Unit) before :=
      swaps swapped
    exact trades.bind fun _ _ _ => (covers.leads_face ..).bind fun _ _ _ => covers.leads_narrate _

theorem Covers.leads_outflank (covers : Covers relation) :
    Leads relation (outflank winner loser) before := by
  refine leads_require fun winning _ => leads_require fun losing _ => .get ?_
  split
  · exact (covers.leads_place ..).bind fun _ _ _ => (covers.leads_face ..).bind fun _ _ _ =>
      covers.leads_narrate _
  · exact covers.leads_narrate _

theorem Covers.leads_jolt (covers : Covers relation) (config : Config) :
    Leads relation (jolt config winner loser) before := by
  refine leads_require fun winning _ => leads_require fun losing found => .bind ?_ fun _ _ _ =>
    covers.leads_narrate _
  exact covers.shaken config.clashDamage found

theorem Covers.leads_slipBehind (covers : Covers relation) :
    Leads relation (slipBehind winner loser) before := by
  refine leads_require fun winning _ => leads_require fun losing _ => .get ?_
  split
  · exact (covers.leads_place ..).bind fun _ _ _ => (covers.leads_face ..).bind fun _ _ _ =>
      covers.leads_narrate _
  · exact covers.leads_narrate _

/-- **What follows a contest is covered**, where an exchange of cells is. -/
theorem Covers.leads_follow (covers : Covers relation) (config : Config)
    {consequence : Option Consequence}
    (swaps : consequence = some .swap → ∀ {field}, before.field.swap winner loser = .ok field →
      relation before { before with field }) :
    Leads relation (follow config winner loser consequence) before := by
  rcases consequence with _ | consequence
  · exact .pure ()
  cases consequence with
  | shove => exact covers.leads_shove
  | swap => exact covers.leads_swap (swaps rfl)
  | outflank => exact covers.leads_outflank
  | jolt => exact covers.leads_jolt config
  | slipBehind => exact covers.leads_slipBehind

end Covered

/-- No consequence but an exchange of cells brings two of the living together. -/
theorem covers_evolves : Covers Scene.Evolves where
  told scene _ := Evolves.refl scene.field
  placed placed := evolves_place placed
  turned scene id facing := by
    have rests : scene.field.Rests (scene.field.update id ({ · with facing })) :=
      rests_update fun _ _ => rfl
    exact rests.evolves
  shaken amount found := evolves_wane found (Combatant.wanes_damagePool _ .composure amount)

/-- An exchange of cells and nothing that bears on occupancy besides. -/
def Swaps (winner loser : CombatantId) (before after : Battlefield) : Prop :=
  ∃ one other middle, one.id = winner ∧ other.id = loser ∧ before.Trades one other middle ∧
    middle.Rests after

/-- An exchange of cells is refused at once, or carried out. -/
theorem run_swap (winner loser : CombatantId) (before : Scene) :
    (∃ error, swap winner loser before = (.error error, before)) ∨
      ∃ after, swap winner loser before = (.ok (), after) ∧
        Swaps winner loser before.field after.field := by
  unfold swap
  rcases run_require winner before with ⟨error, run⟩ | ⟨winning, found, run⟩
  · exact .inl ⟨error, run_bind_error run⟩
  rw [run_bind_ok run]
  rcases run_require loser before with ⟨error, run'⟩ | ⟨losing, found', run'⟩
  · exact .inl ⟨error, run_bind_error run'⟩
  rw [run_bind_ok run', run_get_bind]
  rcases swapped : before.field.swap winner loser with error | middle
  · exact .inl ⟨error, rfl⟩
  obtain ⟨one, other, rfl, rfl, trades⟩ := swap_eq_ok swapped
  have stays : ∀ {id}, middle.Present id ↔ before.field.Present id := trades.shifts.present
  obtain ⟨here, foundHere⟩ := (stays.mpr (present_of_find? trades.there)).find?
  obtain ⟨there, foundThere⟩ := (stays.mpr (present_of_find? trades.there')).find?
  obtain ⟨field, runFace, rests⟩ := run_face { before with field := middle }
    foundHere foundThere
  exact .inr ⟨_, run_bind_ok runFace, one, other, middle, rfl, rfl, trades, rests⟩

/-! ### The whole contest -/

/-- What a contest has done to the field when it ends, or where it fails. -/
inductive Settles (before after : Battlefield) : Except Error ClashReport → Prop
  | failed (error : Error) (evolves : before.Evolves after) : Settles before after (.error error)
  | moved {report : ClashReport} (other : report.consequence ≠ some .swap)
      (evolves : before.Evolves after) : Settles before after (.ok report)
  | swapped {report : ClashReport} (swap : report.consequence = some .swap)
      (swaps : Swaps report.winner report.loser before after) : Settles before after (.ok report)

theorem Settles.shifts {before after : Battlefield} {result : Except Error ClashReport}
    (settles : Settles before after result) : before.Shifts after := by
  cases settles with
  | failed error evolves => exact evolves.toShifts
  | moved other evolves => exact evolves.toShifts
  | swapped swap swaps =>
    obtain ⟨one, other, middle, -, -, trades, rests⟩ := swaps
    exact trades.shifts.trans rests.evolves.toShifts

/-- What follows a contest, up to its report. -/
theorem settles_follow (config : Config) (report : ClashReport) (before : Scene) :
    Settles before.field
      ((follow config report.winner report.loser report.consequence >>= fun _ =>
        get >>= fun scene => pure { report with log := scene.log }) before).2.field
      ((follow config report.winner report.loser report.consequence >>= fun _ =>
        get >>= fun scene => pure { report with log := scene.log }) before).1 := by
  by_cases isSwap : report.consequence = some .swap
  · have same : follow config report.winner report.loser report.consequence
        = swap report.winner report.loser := by
      rw [isSwap]
      rfl
    rw [same]
    rcases run_swap report.winner report.loser before with ⟨error, run⟩ | ⟨after, run, swaps⟩
    · rw [run_bind_error run]
      exact .failed error (.refl before.field)
    · rw [run_bind_ok run, run_get_bind, run_pure]
      exact .swapped isSwap swaps
  · have leads : Leads Scene.Evolves
        (follow config report.winner report.loser report.consequence) before :=
      covers_evolves.leads_follow config fun eq => absurd eq isSwap
    rcases run : follow config report.winner report.loser report.consequence before
      with ⟨error | _, after⟩
    · rw [run_bind_error run]
      exact .failed error (leads.of_run run)
    · rw [run_bind_ok run, run_get_bind, run_pure]
      exact .moved isSwap (leads.of_run run)

theorem run_rollBoth (policy : TiePolicy) (attackerModifier defenderModifier : Int)
    (before : Scene) : rollBoth policy attackerModifier defenderModifier before
      = (.ok (rollOff policy attackerModifier defenderModifier mostRerolls before.dice).1,
        { before with
          dice := (rollOff policy attackerModifier defenderModifier mostRerolls before.dice).2 }) :=
  rfl

/-- **A contest leaves those who live a cell each**, except that an exchange may bring two of them
together. -/
theorem settles_hold (config : Config) (table : ClashTable) (pending : PendingClash) (stat : Stat)
    (before : Scene) :
    Settles before.field (hold config table pending stat before).2.field
      (hold config table pending stat before).1 := by
  unfold hold
  rcases run_require pending.attacker before with ⟨error, run⟩ | ⟨attacker, -, run⟩
  · rw [run_bind_error run]
    exact .failed error (.refl before.field)
  rw [run_bind_ok run]
  rcases run_require pending.defender before with ⟨error, run'⟩ | ⟨defender, -, run'⟩
  · rw [run_bind_error run']
    exact .failed error (.refl before.field)
  rw [run_bind_ok run', run_bind_ok (run_rollBoth ..)]
  generalize rollOff _ _ _ _ _ = rolled
  obtain ⟨⟨attackerTotal, defenderTotal, rerolls⟩, dice⟩ := rolled
  dsimp only
  rw [run_bind_ok (run_narrate ..)]
  exact settles_follow config
    ⟨stat, if defenderTotal ≤ attackerTotal then pending.attacker else pending.defender,
      if defenderTotal ≤ attackerTotal then pending.defender else pending.attacker,
      attackerTotal, defenderTotal, rerolls, table stat.category, []⟩
    ⟨before.field, dice, before.log ++ [_]⟩

end Contest

end Skirmish
