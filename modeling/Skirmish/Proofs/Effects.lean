/-
**What each effect does to the field.** Every effect but a cost goes on with the action and leaves
those who live a cell each; a cost is paid in full or aborts the action. No effect touches anybody but
the parties of the action (`Resolution.Course`).

* `still_act`: the effects that only add to the tally leave the field as it was;
* `steady_act`: every effect but a cost aborts nothing, and the field evolves;
* `run_actCost`: a cost changes nobody but whoever acts, or aborts and changes nobody;
* `course_act`: every effect, costs included, keeps to the course of the action.
-/

import Skirmish.Effect.Act
import Skirmish.Proofs.Steps

set_option linter.unusedSectionVars false

namespace Skirmish

open Resolve Resolution Battlefield

/-- Where a combatant has been charged for a cost: it has paid, or the action is aborted. -/
def Resolution.charged (before : Resolution) (payer : Combatant) (amount : Int) (pool : Pool) :
    Resolution :=
  match payer.spend? pool amount with
  | some paid => { before with
      field := before.field.update before.actor fun _ => paid
      log := before.log ++ [s!"{payer.name} spends {amount} {pool.tag}."] }
  | none => { before with
      tally := { before.tally with aborted := true }
      log := before.log ++ [s!"Not enough {pool.tag}"] }

/-- The course of an action of `who` against a target: the field evolves, and nobody is touched but the
two. -/
abbrev Resolution.Course (who : CombatantId) (target : Option CombatantId) :
    Resolution → Resolution → Prop :=
  Frame (Confined who target Evolves)

namespace Effect

/-- The effects that only add to the tally. -/
def isStill : Effect → Bool
  | .damage _ | .composureDamage | .lifesteal _ | .reflect _ | .area | .chain | .toHit | .mark _
  | .critRange | .defenseBonus | .defense _ | .damageReduction => true
  | _ => false

variable {before : Resolution} {firing : Firing}

/-! ### Effects on the tally -/

section Still

variable {moves : Battlefield → Battlefield → Prop} [Std.Refl moves] [IsTrans Battlefield moves]

theorem still_actDamage (kind : Option String) :
    Leads (Steady moves) (actDamage kind firing) before := by
  have adds : ∀ (dice : DiceFormula) (before : Resolution), Leads (Steady moves)
      (roll dice >>= fun amount => Resolve.tally
        (·.addDamage amount (((firing.named? "kind").map canonicalDamageType).or kind))) before :=
    fun dice before => (steady_roll dice).bind fun amount middle _ => steady_tally rfl rfl
  unfold actDamage
  dsimp only
  split
  · exact .settle fun dice _ => adds dice before
  · exact .get (.pure_bind (adds _ before))

theorem still_actComposureDamage : Leads (Steady moves) (actComposureDamage firing) before :=
  .settle fun dice _ => (steady_roll dice).bind fun _ _ _ => steady_tally rfl rfl

/-- A share that is raised stays within the whole. -/
theorem le_of_raisedPercent {before : Option Nat} {percent raised : Nat}
    (mem : raised ∈ raisedPercent before percent) : raised ≤ 100 := by
  obtain rfl := Option.some.inj mem
  omega

theorem still_actLifesteal (percent : Nat) :
    Leads (Steady moves) (actLifesteal percent firing) before :=
  .settle fun _ _ => steady_reach (fun _ mem => .inl mem)
    (fun capped => ⟨fun _ => le_of_raisedPercent, capped.reflect⟩) rfl

theorem still_actReflect (percent : Nat) :
    Leads (Steady moves) (actReflect percent firing) before :=
  .settle fun _ _ => steady_reach (fun _ mem => .inl mem)
    (fun capped => ⟨capped.lifesteal, fun _ => le_of_raisedPercent⟩) rfl

/-- Whomever an area reaches is on the field. -/
theorem present_of_inArea {center : Cell} {radius : Nat} {id : CombatantId}
    (mem : id ∈ inArea before center radius) : before.field.Present id := by
  obtain ⟨one, reached, rfl⟩ := List.mem_map.mp mem
  exact present_of_mem (mem_living.mp (List.mem_filter.mp reached).1).1

/-- A list with new identities has nobody whom neither had. -/
theorem mem_withNew {known found : List CombatantId} {id : CombatantId}
    (mem : id ∈ withNew known found) : id ∈ known ∨ id ∈ found := by
  induction found generalizing known with
  | nil => exact .inl mem
  | cons one rest hyp =>
    rw [withNew, List.foldl_cons] at mem
    rcases hyp mem with mem | mem
    · split at mem
      · exact .inl mem
      · rcases List.mem_append.mp mem with mem | mem
        · exact .inl mem
        · exact .inr (List.mem_cons.mpr (.inl (List.mem_singleton.mp mem)))
    · exact .inr (List.mem_cons_of_mem one mem)

theorem still_actArea : Leads (Steady moves) (actArea firing) before := by
  refine .settle fun feet _ => .get (.require fun center _ =>
    steady_reach (fun id mem => ?_) (fun capped => ⟨capped.lifesteal, capped.reflect⟩) rfl)
  rcases List.mem_append.mp mem with mem | mem
  · rcases mem_withNew mem with mem | mem
    · exact .inl (List.mem_append_left _ mem)
    · exact .inr (present_of_inArea mem)
  · exact .inl (List.mem_append_right _ mem)

/-- Whomever a chain can jump to is on the field. -/
theorem present_of_chained {target id : CombatantId} {origin : Cell}
    (mem : id ∈ chained before target origin) : before.field.Present id := by
  obtain ⟨one, reached, rfl⟩ := List.mem_map.mp mem
  have enemy : one ∈ before.field.enemiesOf before.actor :=
    (List.mem_filter.mp (List.mem_mergeSort.mp reached)).1
  exact present_of_mem ((enemiesOf_sublist _ _).subset enemy)

theorem still_actChain : Leads (Steady moves) (actChain firing) before := by
  refine .get ?_
  split
  · exact .pure ()
  · refine .settle fun count _ => .targetId fun target _ => .require fun center _ =>
      steady_reach (fun id mem => ?_) (fun capped => ⟨capped.lifesteal, capped.reflect⟩) rfl
    rcases List.mem_append.mp mem with mem | mem
    · exact .inl (List.mem_append_left _ mem)
    · exact .inr (present_of_chained (List.mem_of_mem_take mem))

theorem still_actToHit : Leads (Steady moves) (actToHit firing) before :=
  .settle fun _ _ => steady_tally rfl rfl

theorem still_mark (which : Mark) : Leads (Steady moves) (Resolve.tally (·.raise which)) before := by
  cases which <;> exact steady_tally rfl rfl

theorem still_actCritRange : Leads (Steady moves) (actCritRange firing) before :=
  .settle fun _ _ => .get (steady_tally rfl rfl)

theorem still_actDefenseBonus : Leads (Steady moves) (actDefenseBonus firing) before :=
  .settle fun _ _ => steady_tally rfl rfl

theorem still_actDefense (kind : DefenseKind) :
    Leads (Steady moves) (actDefense kind firing) before :=
  .settle fun _ _ => by cases kind <;> exact steady_tally rfl rfl

theorem still_actDamageReduction : Leads (Steady moves) (actDamageReduction firing) before :=
  .settle fun _ _ => steady_tally rfl rfl

/-- The effects on the tally leave everything else alone. -/
theorem still_act {effect : Effect} (still : effect.isStill) :
    Leads (Steady moves) (effect.act firing) before := by
  cases effect with
  | damage kind => exact still_actDamage kind
  | composureDamage => exact still_actComposureDamage
  | lifesteal percent => exact still_actLifesteal percent
  | reflect percent => exact still_actReflect percent
  | area => exact still_actArea
  | chain => exact still_actChain
  | toHit => exact still_actToHit
  | mark which => exact still_mark which
  | critRange => exact still_actCritRange
  | defenseBonus => exact still_actDefenseBonus
  | defense kind => exact still_actDefense kind
  | damageReduction => exact still_actDamageReduction
  | cost | heal | status | savingThrow | cure | grantResistance | push | pull | teleport
  | ignite => cases still

end Still

/-! ### Conditions -/

section Parties

variable {who : CombatantId} {target : Option CombatantId}

theorem steady_inflict {id : CombatantId} (party : Party who target id) (condition : String)
    (duration : Duration) (flag : Option String) :
    Leads (Steady (Confined who target Evolves)) (inflict id condition duration flag) before := by
  refine .require fun victim found => ?_
  obtain rfl := id_of_find? found
  refine (steady_replace party found (Combatant.wanes_addCondition ..)).bind fun _ _ _ => ?_
  split
  · exact steady_narrate _
  · exact steady_narrate _
  · exact .pure ()

theorem steady_durationOf : Leads (Steady (Confined who target Evolves)) (durationOf firing) before :=
  .get (.pure _)

end Parties

theorem steady_actStatus (condition : String) (flag : Option String) (recipient : Recipient) :
    Leads (Steady (Confined before.actor before.target Evolves))
      (actStatus condition flag recipient firing) before := by
  cases recipient with
  | actor =>
    exact .get (.pure_bind (steady_durationOf.bind fun _ _ _ => steady_inflict (party_actor ..) ..))
  | target =>
    exact .targetId fun _ aim => steady_durationOf.bind fun _ _ _ =>
      steady_inflict (party_target aim) ..

theorem steady_actSavingThrow :
    Leads (Steady (Confined before.actor before.target Evolves)) (actSavingThrow firing) before := by
  refine .settle fun stat _ => .settle fun word _ => ?_
  split
  · refine .settle fun bound _ => .get (.targetId fun who aim => ?_)
    refine (steady_draw 20).bind fun natural _ _ => .require fun target _ => ?_
    dsimp only
    split
    · exact steady_narrate _
    · refine (steady_narrate _).bind fun _ _ _ => ?_
      exact steady_durationOf.bind fun _ _ _ => steady_inflict (party_target aim) ..
  · exact .throw _

theorem steady_actCure :
    Leads (Steady (Confined before.actor before.target Evolves)) (actCure firing) before := by
  refine .settle fun word _ => ?_
  split
  · exact .pure ()
  · refine .get (.require fun patient found => ?_)
    split
    · have same := id_of_find? found
      have party : Party before.actor before.target patient.id := same ▸ party_getD ..
      refine (steady_replace party (same ▸ found) (Combatant.wanes_removeCondition ..)).bind
        fun _ _ _ => steady_narrate _
    · exact .pure ()

theorem steady_actGrantResistance :
    Leads (Steady (Confined before.actor before.target Evolves)) (actGrantResistance firing)
      before :=
  .settle fun _ _ => .get (steady_durationOf.bind fun _ _ _ => steady_inflict (party_getD ..) ..)

/-! ### Movement and ground -/

theorem steady_actShove (shove : Shove) :
    Leads (Steady (Confined before.actor before.target Evolves)) (actShove shove firing) before := by
  refine .settle fun feet _ => .targetId fun target aim => .get ?_
  refine .require fun origin _ => .require fun start _ => ?_
  dsimp only
  split
  · exact .pure ()
  · split
    · exact .pure ()
    · exact (steady_place (party_target aim) _).bind fun _ _ _ => .require fun _ _ =>
        steady_narrate _

theorem steady_actTeleport :
    Leads (Steady (Confined before.actor before.target Evolves)) (actTeleport firing) before := by
  refine .settle fun feet _ => .targetId fun target _ => .get ?_
  refine .require fun origin _ => .require fun anchor _ => ?_
  dsimp only
  split
  · exact steady_narrate _
  · exact (steady_place (party_actor ..) _).bind fun _ _ _ => .require fun _ _ => steady_narrate _

theorem steady_actIgnite (damage : Int) :
    Leads (Steady (Confined before.actor before.target Evolves)) (actIgnite damage) before := by
  refine .get (.require fun there _ => ?_)
  have burns : Leads (Steady (Confined before.actor before.target Evolves))
      (modify fun resolution => { resolution with
        field.terrain := resolution.field.terrain.setHazard there.position (some (.fire damage)) })
      before :=
    Steady.of_field (confined_setHazard (evolves_setHazard there.position _)) rfl
  exact burns.bind fun _ _ _ => steady_narrate _

/-! ### Healing -/

theorem isFree_of_freeInRings? {field : Battlefield} {origin cell : Cell} {count radius : Nat}
    (found : field.freeInRings? origin count radius = some cell) : field.isFree cell := by
  induction count generalizing radius with
  | zero => cases found
  | succ count hyp =>
    simp only [freeInRings?] at found
    split at found
    case h_1 free eq =>
      obtain rfl := Option.some.inj found
      exact List.find?_some eq
    case h_2 => exact hyp found

/-- The cell found for somebody is free. -/
theorem isFree_of_nearestFree? {field : Battlefield} {origin cell : Cell} {radius : Nat}
    (found : field.nearestFree? origin radius = some cell) : field.isFree cell := by
  unfold nearestFree? at found
  split at found
  case isTrue free => exact Option.some.inj found ▸ free
  case isFalse => exact isFree_of_freeInRings? found

/-- Nobody holds a free cell to which somebody fallen has been moved. -/
theorem occupant?_of_moved {field : Battlefield} {who : CombatantId} {cell : Cell}
    {fallen : Combatant} (found : field.find? who = some fallen) (down : ¬fallen.isAlive)
    (free : field.isFree cell) :
    (field.update who fun one => { one with position := cell }).occupant? cell = none := by
  refine occupant?_eq_none_iff.mpr fun one mem => ?_
  obtain ⟨mem, alive⟩ := mem_living.mp mem
  rcases mem_updateFirst mem with mem | ⟨old, eq, rfl⟩
  · exact (isFree_iff.mp free).2 one (mem_living.mpr ⟨mem, alive⟩)
  · obtain rfl := Option.some.inj (found.symm.trans eq)
    exact absurd alive down

section Parties

variable {who : CombatantId} {target : Option CombatantId} {id : CombatantId}

theorem steady_findRoom {patient : Combatant} (party : Party who target id) :
    Leads (Steady (Confined who target Evolves)) (findRoom id patient) before := by
  refine .get ?_
  dsimp only
  split
  · exact .pure true
  · split
    · exact (steady_place party _).bind fun _ _ _ => (steady_narrate _).bind fun _ _ _ => .pure true
    · exact (steady_narrate _).bind fun _ _ _ => .pure false

/-- Where there is room to get up, nobody stands where the fallen one lies by then. -/
theorem free_of_findRoom {who : CombatantId} {patient : Combatant} {middle : Resolution}
    (found : before.field.find? who = some patient) (down : ¬patient.isAlive)
    (run : findRoom who patient before = (.ok true, middle)) :
    ∃ moved, middle.field.find? who = some moved ∧
      middle.field.occupant? moved.position = none := by
  simp only [findRoom, run_get_bind] at run
  split at run
  case isTrue free =>
    obtain ⟨-, rfl⟩ := Prod.mk.inj run
    exact ⟨patient, found, by simpa using free⟩
  case isFalse =>
    rcases near : before.field.nearestFree? patient.position riseRadius with _ | cell
    · simp only [near] at run
      cases run
    · simp only [near] at run
      rcases moves : place who cell before with ⟨_ | _, after⟩
      · rw [run_bind_error moves] at run
        cases run
      · rw [run_bind_ok moves] at run
        obtain ⟨field, placed, rfl⟩ := place_of_run moves
        obtain ⟨-, rfl⟩ := Prod.mk.inj run
        obtain ⟨-, -, -, rfl⟩ := place_eq_ok placed
        refine ⟨{ patient with position := cell }, ?_, ?_⟩
        · exact find?_update_self found fun _ => rfl
        · exact occupant?_of_moved found down (isFree_of_nearestFree? near)

/-- Healing, where the patient is alive, stays down, or gets up on a cell that nobody holds. -/
theorem steady_regain {patient : Combatant} {pool : Pool} {amount : Int} {down : Bool}
    (party : Party who target id) (found : before.field.find? id = some patient)
    (room : patient.isAlive ∨ (pool ≠ .hitPoints ∨ amount ≤ 0) ∨
      before.field.occupant? patient.position = none) :
    Leads (Steady (Confined who target Evolves)) (regain id pool amount down) before := by
  refine .require fun one eq => ?_
  obtain rfl := Option.some.inj (found.symm.trans eq)
  obtain rfl := id_of_find? found
  have same : (patient.heal pool amount).id = patient.id :=
    Combatant.id_of_stance (Combatant.stance_heal ..)
  have heals : Leads (Steady (Confined who target Evolves))
      (replace (patient.heal pool amount)) before := by
    rcases room with alive | idle | free
    · exact steady_replace party found (Combatant.wanes_heal_of_alive alive ..)
    · exact steady_replace party found (Combatant.wanes_heal_of_pool idle)
    · have rises := evolves_rise found (Combatant.stance_heal patient pool amount) free
      show Steady _ before { before with
        field := before.field.update (patient.heal pool amount).id fun _ => _ }
      rw [same]
      exact .of_field (confined_replace party same rises) rises.ids
  refine heals.bind fun _ _ _ => (steady_narrate _).bind fun _ _ _ => ?_
  split
  · exact steady_narrate _
  · exact .pure ()

end Parties

theorem steady_actHeal (recipient : Recipient) :
    Leads (Steady (Confined before.actor before.target Evolves)) (actHeal recipient firing)
      before := by
  have treats : ∀ (dice : DiceFormula) (pool : Pool) (who : CombatantId),
      Party before.actor before.target who →
      Leads (Steady (Confined before.actor before.target Evolves)) (do
        let amount ← roll dice
        let patient ← require who
        let room ←
          if !patient.isAlive && pool == .hitPoints && 0 < amount then findRoom who patient
          else pure true
        if room then regain who pool amount (!patient.isAlive)) before := by
    intro dice pool who party
    refine (steady_roll dice).bind fun amount now _ => .require fun patient found => ?_
    dsimp only
    split
    case isTrue rises =>
      have down : ¬patient.isAlive := by simp_all
      refine (steady_findRoom party).bind fun room after run => ?_
      split
      case isFalse => exact .pure ()
      case isTrue there =>
        subst there
        obtain ⟨moved, found, free⟩ := free_of_findRoom found down run
        exact steady_regain party found (.inr (.inr free))
    case isFalse stays =>
      refine .pure_bind (steady_regain party found ?_)
      by_cases alive : patient.isAlive
      · exact .inl alive
      · refine .inr (.inl ?_)
        by_cases vital : pool = .hitPoints
        · exact .inr (by simpa [alive, vital] using stays)
        · exact .inl vital
  have patient : ∀ self : Bool, Party before.actor before.target
      (if self then before.actor else before.targetOrActor) := fun self => by
    cases self with
    | true => exact party_actor ..
    | false => exact party_getD ..
  refine .settle fun dice _ => ?_
  dsimp only
  split
  · exact .settle fun pool _ => .get (treats _ _ _ (patient _))
  · exact .pure_bind (.get (treats _ _ _ (patient _)))

/-- Every effect but a cost aborts nothing, and leaves those who live a cell each. -/
theorem steady_act {effect : Effect} (notCost : effect ≠ .cost) :
    Leads (Steady (Confined before.actor before.target Evolves)) (effect.act firing) before := by
  cases effect with
  | cost => exact absurd rfl notCost
  | heal recipient => exact steady_actHeal recipient
  | status condition flag recipient => exact steady_actStatus condition flag recipient
  | savingThrow => exact steady_actSavingThrow
  | cure => exact steady_actCure
  | grantResistance => exact steady_actGrantResistance
  | push => exact steady_actShove .away
  | pull => exact steady_actShove .toward
  | teleport => exact steady_actTeleport
  | ignite amount => exact steady_actIgnite amount
  | damage | composureDamage | lifesteal | reflect | area | chain | toHit | mark | critRange
  | defenseBonus | defense | damageReduction => exact still_act rfl

/-! ### Costs -/

/-- How a cost can go: it cannot be read, it is paid by whoever acts, or it aborts the action. -/
inductive CostRun (firing : Firing) (before : Resolution) : Except Error Unit × Resolution → Prop
  | refused (error : Error) : CostRun firing before (.error error, before)
  | paid {amount : Int} {pool : Pool} {actor payer : Combatant}
      (priced : price firing = .ok (amount, pool))
      (found : before.field.find? before.actor = some actor)
      (spent : actor.spend? pool amount = some payer) (line : String) :
      CostRun firing before (.ok (), { before with
        field := before.field.update before.actor fun _ => payer
        log := before.log ++ [line] })
  | unpaid {amount : Int} {pool : Pool} {actor : Combatant}
      (priced : price firing = .ok (amount, pool))
      (found : before.field.find? before.actor = some actor)
      (short : actor.spend? pool amount = none) (line : String) :
      CostRun firing before (.ok (), { before with
        tally := { before.tally with aborted := true }
        log := before.log ++ [line] })

/-- The identity of whoever has paid. -/
theorem id_of_spend? {payer paid : Combatant} {pool : Pool} {amount : Int}
    (spent : payer.spend? pool amount = some paid) : paid.id = payer.id :=
  Combatant.id_of_stance (Combatant.wanes_spend spent).stance

/-- A cost that cannot be read is charged to nobody. -/
theorem run_actCost_of_refused {firing : Firing} {error : Error}
    (refused : price firing = .error error) : actCost firing before = (.error error, before) := by
  unfold actCost
  rw [refused, settle_error, run_throw_bind]

/-- A cost that can be read is charged to whoever acts, if it is on the field. -/
theorem run_actCost_of_priced {firing : Firing} {amount : Int} {pool : Pool} {payer : Combatant}
    (priced : price firing = .ok (amount, pool))
    (found : before.field.find? before.actor = some payer) :
    actCost firing before = (.ok (), before.charged payer amount pool) := by
  unfold actCost charged
  rw [priced, settle_ok, run_pure_bind]
  dsimp only
  rw [run_get_bind, run_bind_ok (run_require found)]
  rcases spent : payer.spend? pool amount with _ | paid
  · rfl
  · have same : paid.id = before.actor := (id_of_spend? spent).trans (id_of_find? found)
    show (Except.ok (), { before with
      field := before.field.update paid.id fun _ => paid
      log := _ }) = _
    rw [same]

theorem run_actCost (before : Resolution) (firing : Firing) :
    CostRun firing before (actCost firing before) := by
  rcases priced : price firing with error | ⟨amount, pool⟩
  · rw [run_actCost_of_refused priced]
    exact .refused error
  rcases found : before.field.find? before.actor with _ | payer
  · have run : require before.actor before = (.error (.combatantNotFound before.actor), before) := by
      simp [Resolve.require, Battlefield.require, found]
    unfold actCost
    rw [priced, settle_ok, run_pure_bind]
    dsimp only
    rw [run_get_bind, run_bind_error run]
    exact .refused _
  rw [run_actCost_of_priced priced found, charged]
  rcases spent : payer.spend? pool amount with _ | paid
  · exact .unpaid priced found spent _
  · exact .paid priced found spent _

/-- Whatever an effect does, it keeps to the course of the action. -/
theorem course_act (before : Resolution) (firing : Firing) (effect : Effect) :
    Leads (Course before.actor before.target) (effect.act firing) before := by
  by_cases isCost : effect = .cost
  · subst isCost
    have run := run_actCost before firing
    show Course _ _ before (actCost firing before).2
    generalize actCost firing before = outcome at run
    cases run with
    | refused error => exact Std.Refl.refl before
    | unpaid priced found short line =>
      exact ⟨rfl, Std.Refl.refl before.field, fun known => known,
        fun capped => ⟨capped.lifesteal, capped.reflect⟩⟩
    | paid priced found spent line =>
      have pays : Pays before.actor before.field _ := ⟨_, _, _, _, found, spent, rfl⟩
      exact ⟨rfl, pays.confined before.target, fun known id mem =>
        pays.evolves.present.mpr (known id mem), fun capped => capped⟩
  · exact (steady_act isCost).toFrame

end Effect

end Skirmish
