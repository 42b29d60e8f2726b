/-
**What can be done to a combatant.** Whatever an action, a contest, a hazard or a round does, it does
by a few kinds of treatment, and everyone stays on the field:

* `Combatant.Treats allowed`: one treatment; a condition comes with no flag but an allowed one;
* `Battlefield.Treated allowed`: everyone on the field has been treated any number of times;
* `seat_treated`: treatments tell nothing of who somebody is, nor of what it has done in its turn.
-/

import Mathlib.Data.List.Forall2
import Mathlib.Logic.Relation
import Skirmish.Proofs.Bindings
import Skirmish.Proofs.Contests
import Skirmish.Proofs.Delivery

namespace Skirmish

/-! ### One combatant -/

namespace Combatant

/-- One treatment of a combatant. A condition comes without a flag or with an allowed one. -/
inductive Treats (allowed : String → Prop) (one : Combatant) : Combatant → Prop
  | drained (pool : Pool) (amount : Int) : Treats allowed one (one.damagePool pool amount)
  | restored (pool : Pool) (amount : Int) : Treats allowed one (one.heal pool amount)
  | charged {pool : Pool} {amount : Int} {paid : Combatant}
      (spent : one.spend? pool amount = some paid) : Treats allowed one paid
  | afflicted (name : String) (duration : Duration) {flag : Option String}
      (fit : ∀ raised ∈ flag, allowed raised) :
      Treats allowed one (one.addCondition name duration flag)
  | cured (name : String) : Treats allowed one (one.removeCondition name)
  | aged : Treats allowed one one.tickConditions
  | moved (cell : Cell) : Treats allowed one { one with position := cell }
  | turned (facing : Facing) : Treats allowed one { one with facing }

/-- Any number of treatments, one after the other. -/
abbrev Treated (allowed : String → Prop) : Combatant → Combatant → Prop :=
  Relation.ReflTransGen (Treats allowed)

/-- Who somebody is, and what it has done in its turn. -/
def seat (one : Combatant) : CombatantId × TurnUse := (one.id, one.turn)

variable {allowed : String → Prop} {one other : Combatant}

@[simp] theorem seat_raiseFlag (one : Combatant) (flag : String) :
    (one.raiseFlag flag).seat = one.seat := rfl

@[simp] theorem seat_lowerFlag (one : Combatant) (flag : String) :
    (one.lowerFlag flag).seat = one.seat := rfl

@[simp] theorem seat_setPool (one : Combatant) (pool : Pool) (gauge : Gauge) :
    (one.setPool pool gauge).seat = one.seat := rfl

@[simp] theorem seat_syncDepleted (one : Combatant) (pool : Pool) :
    (one.syncDepleted pool).seat = one.seat := by
  unfold syncDepleted
  split <;> rfl

theorem seat_addCondition (one : Combatant) (name : String) (duration : Duration)
    (flag : Option String) : (one.addCondition name duration flag).seat = one.seat := by
  unfold addCondition
  dsimp only
  split
  · split <;> rfl
  · rfl

theorem seat_removeCondition (one : Combatant) (name : String) :
    (one.removeCondition name).seat = one.seat := by
  unfold removeCondition
  dsimp only
  split <;> rfl

theorem seat_tickConditions (one : Combatant) : one.tickConditions.seat = one.seat :=
  view_lowerFlags Combatant.seat seat_lowerFlag one.conditions.expiring _

theorem Treats.seat (treats : one.Treats allowed other) : other.seat = one.seat := by
  cases treats with
  | drained pool amount => simp [damagePool]
  | restored pool amount => simp [heal]
  | charged spent =>
    obtain ⟨gauge, -, rfl⟩ := Option.map_eq_some_iff.mp spent
    simp
  | afflicted name duration fit => exact seat_addCondition one name duration _
  | cured name => exact seat_removeCondition one name
  | aged => exact seat_tickConditions one
  | moved cell => rfl
  | turned facing => rfl

theorem Treated.seat (treated : one.Treated allowed other) : other.seat = one.seat := by
  induction treated with
  | refl => rfl
  | tail _ treats same => exact treats.seat.trans same

theorem Treated.id (treated : one.Treated allowed other) : other.id = one.id :=
  congrArg Prod.fst treated.seat

/-- A pool that is changed within its range leaves all pools in range. -/
theorem inRange_setPool {changed pool : Pool} {gauge : Gauge} (same : other.pools =
      one.pools.set changed gauge) (keeps : (one.pool changed).InRange → gauge.InRange)
    (fits : (one.pool pool).InRange) : (other.pool pool).InRange := by
  show (other.pools.get pool).InRange
  rw [same, Pools.get_set]
  split
  case isTrue here =>
    subst here
    exact keeps fits
  case isFalse => exact fits

/-- No treatment takes a pool out of its range. -/
theorem Treats.inRange {pool : Pool} (treats : one.Treats allowed other)
    (fits : (one.pool pool).InRange) : (other.pool pool).InRange := by
  cases treats with
  | drained changed amount =>
    exact inRange_setPool (pools_damagePool one changed amount) (fun range => range.adjust _) fits
  | restored changed amount =>
    exact inRange_setPool (pools_heal one changed amount) (fun range => range.adjust _) fits
  | @charged changed amount _ spent =>
    obtain ⟨gauge, pays, rfl⟩ := Option.map_eq_some_iff.mp spent
    refine inRange_setPool (pools_syncDepleted _ changed) (fun range => ?_) fits
    unfold Gauge.spend? at pays
    split at pays
    · cases pays
    case isFalse enough =>
      obtain rfl := Option.some.inj pays
      obtain ⟨low, high, most⟩ := range
      exact ⟨by dsimp only; omega, by dsimp only; omega, most⟩
  | afflicted name duration fit => rwa [Combatant.pool, pools_addCondition]
  | cured name => rwa [Combatant.pool, pools_removeCondition]
  | aged => rwa [Combatant.pool, pools_tickConditions]
  | moved cell => exact fits
  | turned facing => exact fits

theorem Treated.inRange (pool : Pool) (treated : one.Treated allowed other)
    (fits : (one.pool pool).InRange) : (other.pool pool).InRange := by
  induction treated with
  | refl => exact fits
  | tail _ treats hyp => exact treats.inRange hyp

end Combatant

/-! ### Everyone on the field -/

section Pointwise

variable {α : Type} {related : α → α → Prop}

theorem forall₂_trans [IsTrans α related] {one two three : List α}
    (first : List.Forall₂ related one two) (second : List.Forall₂ related two three) :
    List.Forall₂ related one three := by
  induction first generalizing three with
  | nil => exact second
  | cons here _ hyp =>
    cases second with
    | cons here' rest' => exact .cons (IsTrans.trans _ _ _ here here') (hyp rest')

/-- A change of the entry that is found touches no other one. -/
theorem forall₂_updateFirst [Std.Refl related] {fits : α → Bool} {change : α → α} {list : List α}
    (changes : ∀ entry, list.find? fits = some entry → related entry (change entry)) :
    List.Forall₂ related list (updateFirst fits change list) := by
  induction list with
  | nil => exact .nil
  | cons entry rest hyp =>
    by_cases hit : fits entry
    · simp only [updateFirst, hit, ↓reduceIte]
      exact .cons (changes entry (by simp [hit])) (List.forall₂_refl rest)
    · simp only [updateFirst, hit, Bool.false_eq_true, ↓reduceIte]
      exact .cons (Std.Refl.refl entry) (hyp fun found eq => changes found (by simp [hit, eq]))

/-- What pairs leave alone, the lists do. -/
theorem map_eq_of_forall₂ {β : Type} {view : α → β} {list new : List α}
    (same : List.Forall₂ (fun one other => view other = view one) list new) :
    new.map view = list.map view := by
  induction same with
  | nil => rfl
  | cons here _ hyp => rw [List.map_cons, List.map_cons, here, hyp]

/-- Whatever is found in one list is paired with what is found in the other, where pairs are looked for
alike. -/
theorem find?_of_forall₂ {fits : α → Bool} {list new : List α} {entry : α}
    (pairs : List.Forall₂ related list new)
    (alike : ∀ one other, related one other → fits other = fits one)
    (found : list.find? fits = some entry) : ∃ other, new.find? fits = some other ∧
      related entry other := by
  induction pairs with
  | nil => cases found
  | @cons one other rest rest' here _ hyp =>
    rw [List.find?_cons] at found
    rw [List.find?_cons, alike one other here]
    split at found
    · obtain rfl := Option.some.inj found
      exact ⟨other, rfl, here⟩
    · exact hyp found

/-- Every entry is paired with one. -/
theorem exists_mem_of_forall₂ {list new : List α} (pairs : List.Forall₂ related list new) :
    ∀ entry ∈ list, ∃ other ∈ new, related entry other := by
  induction pairs with
  | nil => exact fun _ mem => absurd mem List.not_mem_nil
  | cons here _ hyp =>
    refine List.forall_mem_cons.mpr ⟨⟨_, List.mem_cons_self, here⟩, fun entry mem => ?_⟩
    obtain ⟨other, mem, there⟩ := hyp entry mem
    exact ⟨other, List.mem_cons_of_mem _ mem, there⟩

/-- What holds of all entries of one list holds of all those they are paired with, if each pair keeps
it. -/
theorem forall_mem_of_forall₂ {holds : α → Prop} {list new : List α}
    (keeps : List.Forall₂ (fun one other => holds one → holds other) list new)
    (all : ∀ entry ∈ list, holds entry) : ∀ entry ∈ new, holds entry := by
  induction keeps with
  | nil => exact all
  | cons here _ hyp =>
    obtain ⟨first, rest⟩ := List.forall_mem_cons.mp all
    exact List.forall_mem_cons.mpr ⟨here first, hyp rest⟩

end Pointwise

namespace Battlefield

/-- Everyone stays in its place in the roster and has been treated. -/
def Treated (allowed : String → Prop) (before after : Battlefield) : Prop :=
  List.Forall₂ (Combatant.Treated allowed) before.roster after.roster

variable {allowed : String → Prop} {before middle after field : Battlefield} {id : CombatantId}

instance : Std.Refl (Treated allowed) := ⟨fun field => List.forall₂_refl field.roster⟩

theorem Treated.trans (first : before.Treated allowed middle)
    (second : middle.Treated allowed after) : before.Treated allowed after :=
  forall₂_trans first second

instance : IsTrans Battlefield (Treated allowed) := ⟨fun _ _ _ => Treated.trans⟩

/-- What no treatment touches stays on the whole field. -/
theorem Treated.map_seat (treated : before.Treated allowed after) :
    after.roster.map Combatant.seat = before.roster.map Combatant.seat :=
  map_eq_of_forall₂ (treated.imp fun _ _ => Combatant.Treated.seat)

theorem Treated.ids (treated : before.Treated allowed after) :
    after.roster.map Combatant.id = before.roster.map Combatant.id := by
  have seats := congrArg (List.map Prod.fst) treated.map_seat
  rwa [List.map_map, List.map_map] at seats

/-- Whoever was on the field still is, and has been treated. -/
theorem Treated.find? {one : Combatant} (treated : before.Treated allowed after)
    (found : before.find? id = some one) :
    ∃ new, after.find? id = some new ∧ one.Treated allowed new :=
  find?_of_forall₂ treated (fun _ _ here => by rw [here.id]) found

theorem treated_update {change : Combatant → Combatant}
    (treats : ∀ one, field.find? id = some one → one.Treated allowed (change one)) :
    field.Treated allowed (field.update id change) :=
  forall₂_updateFirst treats

theorem treated_replace {old new : Combatant} (found : field.find? old.id = some old)
    (treats : old.Treats allowed new) :
    field.Treated allowed (field.update new.id fun _ => new) := by
  have same : new.id = old.id := congrArg Prod.fst treats.seat
  rw [same]
  refine treated_update fun one eq => ?_
  obtain rfl := Option.some.inj (found.symm.trans eq)
  exact .single treats

theorem treated_place {cell : Cell} (placed : field.place id cell = .ok after) :
    field.Treated allowed after := by
  obtain ⟨-, -, -, rfl⟩ := place_eq_ok placed
  exact treated_update fun one _ => .single (.moved cell)

theorem treated_swap {first second : CombatantId} (swapped : field.swap first second = .ok after) :
    field.Treated allowed after := by
  unfold swap at swapped
  split at swapped
  · cases swapped
  · obtain rfl := Except.ok.inj swapped
    exact Treated.trans (treated_update fun one _ => .single (.moved _))
      (treated_update fun one _ => .single (.moved _))

theorem treated_face (id : CombatantId) (facing : Facing) :
    field.Treated allowed (field.update id ({ · with facing })) :=
  treated_update fun _ _ => .single (.turned facing)

end Battlefield

/-! ### Steps of a resolution -/

open Battlefield Resolve

/-- A part of a resolution in which combatants are treated, and nothing else is done to them. -/
def Resolution.Treated (allowed : String → Prop) (before after : Resolution) : Prop :=
  before.field.Treated allowed after.field

section Steps

variable {allowed : String → Prop} {before : Resolution} {α : Type}

instance : Std.Refl (Resolution.Treated allowed) := ⟨fun before => Std.Refl.refl before.field⟩

instance : IsTrans Resolution (Resolution.Treated allowed) :=
  ⟨fun _ _ _ first second => Battlefield.Treated.trans first second⟩

theorem treated_of_steady {step : Resolve α}
    (steady : Leads (Resolution.Steady (Battlefield.Treated allowed)) step before) :
    Leads (Resolution.Treated allowed) step before :=
  Resolution.Frame.field (Resolution.Steady.toFrame steady)

theorem treated_narrate (line : String) :
    Leads (Resolution.Treated allowed) (narrate line) before :=
  treated_of_steady (steady_narrate line)

theorem treated_put {old new : Combatant} (found : before.field.find? old.id = some old)
    (treats : old.Treats allowed new) :
    Leads (Resolution.Treated allowed) (replace new) before :=
  treated_replace found treats

theorem treated_step (id : CombatantId) (cell : Cell) :
    Leads (Resolution.Treated allowed) (place id cell) before :=
  .get (.settle fun _ placed => treated_place placed)

theorem treated_roll (formula : DiceFormula) :
    Leads (Resolution.Treated allowed) (roll formula) before :=
  treated_of_steady (steady_roll formula)

end Steps

/-! ### Effects -/

/-- The flags of the conditions that text can name and of injuries are allowed. -/
structure Lenient (allowed : String → Prop) : Prop where
  named : ∀ condition ∈ knownConditions, ∀ flag ∈ condition.flag, allowed flag
  injuries : ∀ face, ∀ flag ∈ (Injury.ofFace face).flag, allowed flag

/-- Where all flags are allowed, nothing is asked of any. -/
theorem lenient_all : Lenient fun _ => True := ⟨fun _ _ _ _ => trivial, fun _ _ _ => trivial⟩

theorem mem_knownConditions {word : String} {condition : KnownCondition}
    (named : conditionFor? word = some condition) : condition ∈ knownConditions := by
  unfold conditionFor? at named
  dsimp only at named
  split at named
  · cases named
  · exact List.mem_of_find?_eq_some named

namespace Effect

/-- An effect that applies no condition with a flag that is not allowed. -/
def Mild (allowed : String → Prop) : Effect → Prop
  | .status _ flag _ => ∀ raised ∈ flag, allowed raised
  | _ => True

variable {allowed : String → Prop} {before : Resolution} {firing : Firing}

theorem treated_inflict {flag : Option String} (fit : ∀ raised ∈ flag, allowed raised)
    (id : CombatantId) (condition : String) (duration : Duration) :
    Leads (Resolution.Treated allowed) (inflict id condition duration flag) before := by
  refine .require fun victim found => ?_
  obtain rfl := id_of_find? found
  refine (treated_put found (.afflicted condition duration fit)).bind fun _ _ _ => ?_
  split
  · exact treated_narrate _
  · exact treated_narrate _
  · exact .pure ()

theorem treated_durationOf : Leads (Resolution.Treated allowed) (durationOf firing) before :=
  .get (.pure _)

theorem treated_actStatus {flag : Option String} (fit : ∀ raised ∈ flag, allowed raised)
    (condition : String) (recipient : Recipient) :
    Leads (Resolution.Treated allowed) (actStatus condition flag recipient firing) before := by
  cases recipient with
  | actor =>
    exact .get (.pure_bind (treated_durationOf.bind fun _ _ _ => treated_inflict fit ..))
  | target =>
    exact .targetId fun _ _ => treated_durationOf.bind fun _ _ _ => treated_inflict fit ..

theorem treated_actSavingThrow (lenient : Lenient allowed) :
    Leads (Resolution.Treated allowed) (actSavingThrow firing) before := by
  refine .settle fun stat _ => .settle fun word _ => ?_
  split
  · rename_i condition named
    refine .settle fun bound _ => .get (.targetId fun who _ => ?_)
    refine (treated_of_steady (steady_draw 20)).bind fun natural _ _ => .require fun target _ => ?_
    dsimp only
    split
    · exact treated_narrate _
    · refine (treated_narrate _).bind fun _ _ _ => treated_durationOf.bind fun _ _ _ => ?_
      exact treated_inflict (lenient.named condition (mem_knownConditions named)) ..
  · exact .throw _

theorem treated_actCure : Leads (Resolution.Treated allowed) (actCure firing) before := by
  refine .settle fun word _ => ?_
  split
  · exact .pure ()
  · refine .get (.require fun patient found => ?_)
    obtain same := id_of_find? found
    split
    · exact (treated_put (same ▸ found) (.cured _)).bind fun _ _ _ => treated_narrate _
    · exact .pure ()

theorem treated_actGrantResistance :
    Leads (Resolution.Treated allowed) (actGrantResistance firing) before :=
  .settle fun _ _ => .get (treated_durationOf.bind fun _ _ _ => treated_inflict nofun ..)

theorem treated_actShove (shove : Shove) :
    Leads (Resolution.Treated allowed) (actShove shove firing) before := by
  refine .settle fun feet _ => .targetId fun target _ => .get ?_
  refine .require fun origin _ => .require fun start _ => ?_
  dsimp only
  split
  · exact .pure ()
  · split
    · exact .pure ()
    · exact (treated_step ..).bind fun _ _ _ => .require fun _ _ => treated_narrate _

theorem treated_actTeleport : Leads (Resolution.Treated allowed) (actTeleport firing) before := by
  refine .settle fun feet _ => .targetId fun target _ => .get ?_
  refine .require fun origin _ => .require fun anchor _ => ?_
  dsimp only
  split
  · exact treated_narrate _
  · exact (treated_step ..).bind fun _ _ _ => .require fun _ _ => treated_narrate _

theorem treated_actIgnite (damage : Int) :
    Leads (Resolution.Treated allowed) (actIgnite damage) before := by
  refine .get (.require fun there _ => ?_)
  have burns : Leads (Resolution.Treated allowed) (modify fun resolution => { resolution with
      field.terrain := resolution.field.terrain.setHazard there.position (some (.fire damage)) })
      before := List.forall₂_refl before.field.roster
  exact burns.bind fun _ _ _ => treated_narrate _

theorem treated_findRoom (id : CombatantId) (patient : Combatant) :
    Leads (Resolution.Treated allowed) (findRoom id patient) before := by
  refine .get ?_
  dsimp only
  split
  · exact .pure true
  · split
    · exact (treated_step ..).bind fun _ _ _ => (treated_narrate _).bind fun _ _ _ => .pure true
    · exact (treated_narrate _).bind fun _ _ _ => .pure false

theorem treated_regain (id : CombatantId) (pool : Pool) (amount : Int) (down : Bool) :
    Leads (Resolution.Treated allowed) (regain id pool amount down) before := by
  refine .require fun one found => ?_
  obtain rfl := id_of_find? found
  refine (treated_put found (.restored pool amount)).bind fun _ _ _ => ?_
  refine (treated_narrate _).bind fun _ _ _ => ?_
  split
  · exact treated_narrate _
  · exact .pure ()

theorem treated_actHeal (recipient : Recipient) :
    Leads (Resolution.Treated allowed) (actHeal recipient firing) before := by
  have treats : ∀ (dice : DiceFormula) (pool : Pool) (who : CombatantId),
      Leads (Resolution.Treated allowed) (do
        let amount ← roll dice
        let patient ← require who
        let room ←
          if !patient.isAlive && pool == .hitPoints && 0 < amount then findRoom who patient
          else pure true
        if room then regain who pool amount (!patient.isAlive)) before := by
    intro dice pool who
    refine (treated_roll dice).bind fun amount now _ => .require fun patient _ => ?_
    have rises : ∀ room : Bool, ∀ now : Resolution, Leads (Resolution.Treated allowed)
        (if room then regain who pool amount (!patient.isAlive) else pure ()) now := fun room now => by
      split
      · exact treated_regain ..
      · exact .pure ()
    dsimp only
    split
    · exact (treated_findRoom ..).bind fun room after _ => rises room after
    · exact .pure_bind (rises true now)
  refine .settle fun dice _ => ?_
  dsimp only
  split
  · exact .settle fun pool _ => .get (treats ..)
  · exact .pure_bind (.get (treats ..))

theorem treated_actCost : Leads (Resolution.Treated allowed) (actCost firing) before := by
  have run := run_actCost before firing
  unfold Leads
  generalize actCost firing before = outcome at run ⊢
  cases run with
  | refused error => exact List.forall₂_refl before.field.roster
  | unpaid priced found short line => exact List.forall₂_refl before.field.roster
  | paid priced found spent line =>
    refine treated_update fun one eq => ?_
    obtain rfl := Option.some.inj (found.symm.trans eq)
    exact .single (.charged spent)

/-- An effect treats combatants, and applies conditions with allowed flags only. -/
theorem treated_act (lenient : Lenient allowed) {effect : Effect} (mild : effect.Mild allowed) :
    Leads (Resolution.Treated allowed) (effect.act firing) before := by
  cases effect with
  | cost => exact treated_actCost
  | heal recipient => exact treated_actHeal recipient
  | status condition flag recipient => exact treated_actStatus mild condition recipient
  | savingThrow => exact treated_actSavingThrow lenient
  | cure => exact treated_actCure
  | grantResistance => exact treated_actGrantResistance
  | push => exact treated_actShove .away
  | pull => exact treated_actShove .toward
  | teleport => exact treated_actTeleport
  | ignite amount => exact treated_actIgnite amount
  | damage | composureDamage | lifesteal | reflect | area | chain | toHit | mark | critRange
  | defenseBonus | defense | damageReduction => exact treated_of_steady (still_act rfl)

end Effect

end Skirmish
