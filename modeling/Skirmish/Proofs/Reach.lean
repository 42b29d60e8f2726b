/-
**Whom an action reaches besides its target.** Areas and chains add to what an action reaches, each by
who stands where at the moment it fires. In between anybody may move, fall or get up:

* `Deed`: an effect that fires, and `Resolution.performed`: what a sequence of deeds comes to.
  Resolving texts is such a sequence (`RuleTable.Stock.exists_deeds`);
* `Resolution.Catches`, `Resolution.Jumps`: whom an area catches, and to whom a chain can jump;
* `filter_mergeSort_of_ties`: sorting leaves those that tie in their order;
* `reaches_performed`: after any deeds the areas reach exactly those whom one of them caught, nobody
  twice, and a chain reaches the first of those it can jump to.
-/

import Skirmish.Proofs.Echoes
import Skirmish.Proofs.Entries

namespace Skirmish

open Resolve Resolution Battlefield

/-! ### Sorting keeps ties in order -/

section Stable

variable {α : Type} {before : α → α → Bool}
  (transitive : ∀ one two three, before one two → before two three → before one three)
  (total : ∀ one two, (before one two || before two one) = true)
include transitive total

/-- Entries no two of which can be told apart stay in their order. -/
theorem filter_mergeSort_of_ties {ties : α → Bool} (tied : ∀ one two, ties one → ties two →
    before one two) (list : List α) : (list.mergeSort before).filter ties = list.filter ties := by
  have ordered : (list.filter ties).Pairwise (before · ·) :=
    List.pairwise_of_forall_mem_list fun one mem two mem' =>
      tied one two (List.mem_filter.mp mem).2 (List.mem_filter.mp mem').2
  have sublist := (List.sublist_mergeSort transitive total ordered List.filter_sublist).filter ties
  rw [List.filter_filter] at sublist
  simp only [Bool.and_self] at sublist
  exact (sublist.eq_of_length ((List.mergeSort_perm list before).filter ties).length_eq.symm).symm

/-- A sorted list is in order, and of two entries that tie the first came first before. -/
theorem pairwise_mergeSort_of_ties (list : List α) : (list.mergeSort before).Pairwise fun one two =>
    before one two ∧ (before two one → [one, two].Sublist list) := by
  refine List.pairwise_iff_forall_sublist.mpr fun {one two} sublist => ?_
  have ahead : before one two :=
    List.pairwise_iff_forall_sublist.mp (List.pairwise_mergeSort transitive total list) sublist
  refine ⟨ahead, fun back => ?_⟩
  have self : ∀ x, before x x := fun x => by simpa using total x x
  -- Those that tie with the first one are in the order in which they were.
  let ties := fun x => before one x && before x one
  have tied : ∀ x y, ties x → ties y → before x y := fun x y fits fits' =>
    transitive x one y (Bool.and_eq_true_iff.mp fits).2 (Bool.and_eq_true_iff.mp fits').1
  have both : [one, two].filter ties = [one, two] :=
    List.filter_eq_self.mpr fun x mem => by
      rcases List.mem_cons.mp mem with rfl | mem
      · exact Bool.and_eq_true_iff.mpr ⟨self x, self x⟩
      · obtain rfl := List.mem_singleton.mp mem
        exact Bool.and_eq_true_iff.mpr ⟨ahead, back⟩
  have kept := sublist.filter ties
  rw [both, filter_mergeSort_of_ties transitive total tied] at kept
  exact kept.trans List.filter_sublist

end Stable

/-! ### Who can be reached -/

namespace Resolution

variable {scene : Resolution}

/-- An area of a number of feet catches somebody: one of the living around the target, or around
whoever acts where there is none, but neither of the two. -/
structure Catches (scene : Resolution) (feet : Nat) (one : Combatant) : Prop where
  alive : one ∈ scene.field.living
  other : one.id ≠ scene.actor
  further : some one.id ≠ scene.target
  near : ∃ center, scene.field.find? scene.targetOrActor = some center ∧
    one.position.distance center.position ≤ scene.config.feetToCells feet

/-- A chain can jump from a target to somebody: another living enemy, three cells away at most. -/
structure Jumps (scene : Resolution) (target one : Combatant) : Prop where
  alive : one ∈ scene.field.living
  enemy : ∃ self, scene.field.find? scene.actor = some self ∧ one.team ≠ self.team
  further : one.id ≠ target.id
  near : one.position.distance target.position ≤ 3

/-- The chain goes to one before the other: it is nearer to the target, or as near and before it in the
roster. -/
def GoesFirst (scene : Resolution) (target one other : Combatant) : Prop :=
  one.position.distance target.position < other.position.distance target.position ∨
    one.position.distance target.position = other.position.distance target.position ∧
      [one, other].Sublist scene.field.roster

end Resolution

namespace Effect

variable {before : Resolution} {firing : Firing} {center target : Combatant} {id : CombatantId}

/-! ### Areas -/

theorem mem_inArea {feet : Nat} (found : before.field.find? before.targetOrActor = some center) :
    id ∈ inArea before center.position (before.config.feetToCells feet) ↔
      ∃ one, before.Catches feet one ∧ one.id = id := by
  simp only [inArea, List.mem_map, List.mem_filter, Bool.and_eq_true, bne_iff_ne, decide_eq_true_eq]
  refine exists_congr fun one => and_congr_left' ⟨?_, fun caught => ?_⟩
  · rintro ⟨alive, ⟨other, further⟩, near⟩
    exact ⟨alive, other, further, center, found, near⟩
  · obtain ⟨center', found', near⟩ := caught.near
    obtain rfl := Option.some.inj (found.symm.trans found')
    exact ⟨caught.alive, ⟨caught.other, caught.further⟩, near⟩

theorem mem_withNew_iff {known found : List CombatantId} :
    id ∈ withNew known found ↔ id ∈ known ∨ id ∈ found := by
  refine ⟨mem_withNew, fun mem => ?_⟩
  induction found generalizing known with
  | nil => exact mem.resolve_right List.not_mem_nil
  | cons one rest hyp =>
    rw [withNew, List.foldl_cons]
    refine hyp (or_iff_not_imp_right.mpr fun new => ?_)
    have here : id ∈ known ∨ id = one :=
      mem.imp_right fun mem => (List.mem_cons.mp mem).resolve_right new
    split
    case isTrue has =>
      rcases here with mem | rfl
      · exact mem
      · exact List.contains_iff_mem.mp has
    case isFalse => exact List.mem_append.mpr (here.imp_right List.mem_singleton.mpr)

theorem nodup_withNew {known : List CombatantId} (nodup : known.Nodup) (found : List CombatantId) :
    (withNew known found).Nodup := by
  induction found generalizing known with
  | nil => exact nodup
  | cons one rest hyp =>
    rw [withNew, List.foldl_cons]
    refine hyp ?_
    split
    case isTrue => exact nodup
    case isFalse lacks =>
      exact List.Nodup.append nodup (List.nodup_singleton one) (List.disjoint_singleton.mpr fun mem =>
        lacks (List.contains_iff_mem.mpr mem))

/-- How an area runs: it reaches those around its center, or it cannot tell whom and does nothing. -/
inductive AreaRun (firing : Firing) (before : Resolution) : Except Error Unit × Resolution → Prop
  | failed (error : Error) : AreaRun firing before (.error error, before)
  | reached {feet : Nat} {center : Combatant} (reads : firing.natOr "feet" 0 = .ok feet)
      (found : before.field.find? before.targetOrActor = some center) :
      AreaRun firing before (.ok (), { before with tally := { before.tally with
        areaTargets := withNew before.tally.areaTargets
          (inArea before center.position (before.config.feetToCells feet)) } })

theorem run_actArea : AreaRun firing before (actArea firing before) := by
  unfold actArea
  rcases reads : firing.natOr "feet" 0 with error | feet
  · rw [settle_error, run_throw_bind]
    exact .failed error
  rw [settle_ok, run_pure_bind, run_get_bind]
  rcases found : before.field.find? before.targetOrActor with _ | center
  · rw [run_bind_error (run_require_of_none found)]
    exact .failed _
  · rw [run_bind_ok (run_require found)]
    exact .reached reads found

/-! ### Chains -/

/-- Those to whom a chain can jump, in the order in which it goes to them. -/
def queue (before : Resolution) (target : Combatant) : List Combatant :=
  ((before.field.enemiesOf before.actor).filter fun other =>
    other.id != target.id && other.position.distance target.position ≤ chainRange).mergeSort
      fun one other =>
        one.position.distance target.position ≤ other.position.distance target.position

theorem mem_queue {one : Combatant} : one ∈ queue before target ↔ before.Jumps target one := by
  simp only [queue, List.mem_mergeSort, List.mem_filter, mem_enemiesOf_iff, Bool.and_eq_true,
    bne_iff_ne, decide_eq_true_eq]
  exact ⟨fun ⟨⟨alive, enemy⟩, further, near⟩ => ⟨alive, enemy, further, near⟩,
    fun jumps => ⟨⟨jumps.alive, jumps.enemy⟩, jumps.further, jumps.near⟩⟩

theorem pairwise_queue (before : Resolution) (target : Combatant) :
    (queue before target).Pairwise (before.GoesFirst target) := by
  refine (pairwise_mergeSort_of_ties ?_ ?_ _).imp fun {one other} ahead => ?_
  · intro one two three first second
    exact decide_eq_true ((of_decide_eq_true first).trans (of_decide_eq_true second))
  · intro one two
    simpa using Nat.le_total _ _
  · obtain ⟨near, tied⟩ := ahead
    rcases Nat.lt_or_eq_of_le (of_decide_eq_true near) with nearer | same
    · exact .inl nearer
    · exact .inr ⟨same, (tied (decide_eq_true same.ge)).trans
        (List.filter_sublist.trans (enemiesOf_sublist _ _))⟩

/-- How a chain runs: it jumps to the first few in its queue, it is nested too deep and jumps to nobody,
or it cannot tell to whom. -/
inductive ChainRun (firing : Firing) (before : Resolution) : Except Error Unit × Resolution → Prop
  | failed (error : Error) : ChainRun firing before (.error error, before)
  | nested (deep : before.canNest = false) : ChainRun firing before (.ok (), before)
  | jumped {count : Nat} {id : CombatantId} {target : Combatant} (room : before.canNest)
      (reads : firing.natOr "count" 1 = .ok count) (aim : before.target = some id)
      (found : before.field.find? id = some target) :
      ChainRun firing before (.ok (), { before with tally := { before.tally with
        chainTargets := ((queue before target).take count).map (·.id) } })

theorem run_actChain : ChainRun firing before (actChain firing before) := by
  unfold actChain
  rw [run_get_bind]
  split
  case isTrue deep => exact .nested (by simpa using deep)
  case isFalse room =>
    rcases reads : firing.natOr "count" 1 with error | count
    · rw [settle_error, run_throw_bind]
      exact .failed error
    rw [settle_ok, run_pure_bind]
    rcases aim : before.target with _ | id
    · have missing : targetId before = (.error .missingTarget, before) := by simp [targetId, aim]
      rw [run_bind_error missing]
      exact .failed _
    rw [run_bind_ok (run_targetId aim)]
    rcases found : before.field.find? id with _ | target
    · rw [run_bind_error (run_require_of_none found)]
      exact .failed _
    rw [run_bind_ok (run_require found)]
    have same := id_of_find? found
    subst same
    have chosen : (chained before target.id target.position).take count
        = ((queue before target).take count).map (·.id) := List.map_take.symm
    rw [run_tally, chosen]
    exact .jumped (by simpa using room) reads aim found

end Effect

/-! ### Sequences of deeds -/

/-- An effect that fires at a hook. -/
structure Deed where
  hook : Hook
  effect : Effect
  firing : Firing

/-- A resolution at another hook. -/
def Resolution.atHook (scene : Resolution) (hook : Hook) : Resolution := { scene with hook }

namespace Deed

/-- What a deed does. -/
def run (deed : Deed) (scene : Resolution) : Except Error Unit × Resolution :=
  deed.effect.act deed.firing (scene.atHook deed.hook)

/-- The deed does not fail. -/
def Succeeds (deed : Deed) (scene : Resolution) : Prop := (deed.run scene).1 = .ok ()

/-- What a deed leaves behind, with its fault noted. -/
def stop (deed : Deed) (scene : Resolution) : Resolution :=
  match deed.run scene with
  | (.ok (), after) => after
  | (.error error, after) =>
    { after with faults := after.faults ++ [⟨deed.firing.rule, deed.firing.text, error.message⟩] }

end Deed

/-- What a sequence of deeds comes to. -/
def Resolution.performed (scene : Resolution) (deeds : List Deed) : Resolution :=
  deeds.foldl (fun scene deed => deed.stop scene) scene

section Rules

variable {before : Resolution}

/-- A sequence of deeds leads from one state to another. -/
def Resolution.Proceeds (before after : Resolution) : Prop :=
  ∃ deeds, after = before.performed deeds

instance : Std.Refl Proceeds := ⟨fun _ => ⟨[], rfl⟩⟩

instance : IsTrans Resolution Proceeds := ⟨by
  rintro before _ _ ⟨first, rfl⟩ ⟨later, rfl⟩
  exact ⟨first ++ later, by rw [performed, performed, performed, List.foldl_append]⟩⟩

/-- Whatever a rule does when it is asked is one deed or none. -/
theorem Rule.Stock.proceeds {rule : Rule} (stock : rule.Stock) (text : String) :
    Proceeds before (rule.ask text before).2 := by
  obtain ⟨effect, act⟩ := stock
  unfold Rule.ask
  split
  case isFalse => exact Std.Refl.refl before
  case isTrue =>
    split
    case h_1 => exact Std.Refl.refl before
    case h_2 finding found =>
      refine ⟨[⟨before.hook, effect, rule.name, text, finding⟩], ?_⟩
      have run : Deed.run ⟨before.hook, effect, rule.name, text, finding⟩ before
          = effect.act ⟨rule.name, text, finding⟩ before := rfl
      show _ = Deed.stop _ before
      rw [Deed.stop, run, act]
      rcases effect.act ⟨rule.name, text, finding⟩ before with ⟨_ | _, after⟩ <;> rfl

/-- Resolving texts against named effects is a sequence of deeds. -/
theorem RuleTable.Stock.exists_deeds {table : RuleTable} (stock : table.Stock)
    (texts : List String) : ∃ deeds, (table.resolveAll texts before).2 = before.performed deeds := by
  have proceeds : Proceeds before (table.resolveAll texts before).2 :=
    leads_resolveAll fun rule mem text _ _ => (stock rule mem).proceeds text
  exact proceeds

end Rules

namespace Deed

variable {deed : Deed} {scene : Resolution} {id : CombatantId}

/-- Noting a fault changes nothing else. -/
theorem exists_stop_eq (deed : Deed) (scene : Resolution) :
    ∃ faults, deed.stop scene = { (deed.run scene).2 with faults } := by
  unfold stop
  rcases deed.run scene with ⟨_ | _, after⟩
  · exact ⟨_, rfl⟩
  · exact ⟨after.faults, rfl⟩

/-- A deed keeps to the course of the action. -/
theorem course_stop (deed : Deed) (scene : Resolution) :
    Course scene.actor scene.target scene (deed.stop scene) := by
  obtain ⟨faults, stop⟩ := deed.exists_stop_eq scene
  have course : Course scene.actor scene.target (scene.atHook deed.hook) (deed.run scene).2 :=
    Effect.course_act (scene.atHook deed.hook) deed.firing deed.effect
  rw [stop]
  exact ⟨course.premises, course.field, course.known, course.capped⟩

theorem view_stop {α : Type} (view : Tally → α)
    (alone : ∀ one other, deed.effect.Enters one other → view other = view one) :
    view (deed.stop scene).tally = view scene.tally := by
  obtain ⟨faults, stop⟩ := deed.exists_stop_eq scene
  rw [stop]
  exact Effect.view_act view alone deed.firing (scene.atHook deed.hook)

/-- A deed catches somebody in its area. -/
def Catches (deed : Deed) (scene : Resolution) (id : CombatantId) : Prop :=
  deed.effect = .area ∧ deed.Succeeds scene ∧ ∃ feet one, deed.firing.natOr "feet" 0 = .ok feet ∧
    scene.Catches feet one ∧ one.id = id

/-- A deed other than an area adds nobody to those whom areas reach. -/
theorem areaTargets_stop_of_ne (other : deed.effect ≠ .area) :
    (deed.stop scene).tally.areaTargets = scene.tally.areaTargets :=
  view_stop Tally.areaTargets fun _ _ enters => (Effect.keepsApart enters).area other

/-- An area, whether it fails or not. -/
theorem areaRun_of_eq (area : deed.effect = .area) (scene : Resolution) :
    Effect.AreaRun deed.firing (scene.atHook deed.hook) (deed.run scene) := by
  unfold run
  rw [area]
  exact Effect.run_actArea

/-- What a deed adds to those whom areas reach are those whom it catches. -/
theorem mem_areaTargets_stop :
    id ∈ (deed.stop scene).tally.areaTargets ↔
      id ∈ scene.tally.areaTargets ∨ deed.Catches scene id := by
  by_cases area : deed.effect = .area
  case neg =>
    rw [areaTargets_stop_of_ne area, or_iff_left fun caught => area caught.1]
  case pos =>
    obtain ⟨faults, stop⟩ := deed.exists_stop_eq scene
    have run := areaRun_of_eq area scene
    rw [stop]
    generalize outcome : deed.run scene = result at run
    cases run with
    | failed error =>
      refine (or_iff_left fun caught => ?_).symm
      have succeeds : (deed.run scene).1 = .ok () := caught.2.1
      rw [outcome] at succeeds
      cases succeeds
    | @reached feet center reads found =>
      have catches : deed.Catches scene id ↔ ∃ one, scene.Catches feet one ∧ one.id = id := by
        constructor
        · rintro ⟨-, -, feet', one, reads', caught, same⟩
          obtain rfl := Except.ok.inj (reads.symm.trans reads')
          exact ⟨one, caught, same⟩
        · rintro ⟨one, caught, same⟩
          exact ⟨area, by rw [Succeeds, outcome], feet, one, reads, caught, same⟩
      have there : scene.field.find? scene.targetOrActor = some center := found
      rw [catches, ← Effect.mem_inArea there]
      exact Effect.mem_withNew_iff

theorem nodup_areaTargets_stop (nodup : scene.tally.areaTargets.Nodup) :
    (deed.stop scene).tally.areaTargets.Nodup := by
  by_cases area : deed.effect = .area
  case neg => rwa [areaTargets_stop_of_ne area]
  case pos =>
    obtain ⟨faults, stop⟩ := deed.exists_stop_eq scene
    have run := areaRun_of_eq area scene
    rw [stop]
    generalize deed.run scene = result at run
    cases run with
    | failed error => exact nodup
    | reached reads found => exact Effect.nodup_withNew nodup _

/-- A chain, whether it fails or not. -/
theorem chainRun_of_eq (chain : deed.effect = .chain) (scene : Resolution) :
    Effect.ChainRun deed.firing (scene.atHook deed.hook) (deed.run scene) := by
  unfold run
  rw [chain]
  exact Effect.run_actChain

/-- A chain that fires where damage may be nested jumps, if it does not fail. -/
def Leaps (deed : Deed) (scene : Resolution) : Prop :=
  deed.effect = .chain ∧ deed.Succeeds scene ∧ scene.canNest

/-- Such a chain reaches the first few in its queue. -/
theorem Leaps.chainTargets_stop (leaps : deed.Leaps scene) : ∃ count id target,
    deed.firing.natOr "count" 1 = .ok count ∧ scene.target = some id ∧
    scene.field.find? id = some target ∧
    (deed.stop scene).tally.chainTargets = ((Effect.queue scene target).take count).map (·.id) := by
  obtain ⟨chain, succeeds, room⟩ := leaps
  obtain ⟨faults, stop⟩ := deed.exists_stop_eq scene
  have run := chainRun_of_eq chain scene
  unfold Succeeds at succeeds
  rw [stop]
  generalize deed.run scene = result at run succeeds
  cases run with
  | failed error => cases succeeds
  | nested deep => exact absurd (deep.symm.trans room) Bool.false_ne_true
  | @jumped count id target _ reads aim found => exact ⟨count, id, target, reads, aim, found, rfl⟩

/-- Any other deed leaves alone whom the chain reaches. -/
theorem chainTargets_stop_of_not_leaps (other : ¬deed.Leaps scene) :
    (deed.stop scene).tally.chainTargets = scene.tally.chainTargets := by
  by_cases chain : deed.effect = .chain
  case neg =>
    exact view_stop Tally.chainTargets fun _ _ enters => (Effect.keepsApart enters).chain chain
  case pos =>
    obtain ⟨faults, stop⟩ := deed.exists_stop_eq scene
    have run := chainRun_of_eq chain scene
    rw [stop]
    generalize outcome : deed.run scene = result at run
    cases run with
    | failed error => rfl
    | nested deep => rfl
    | jumped room => exact absurd ⟨chain, by rw [Succeeds, outcome], room⟩ other

end Deed

/-! ### Whom a whole sequence reaches -/

/-- A chain picks some of those it can jump to from a target: in the order in which it goes to them, the
first few. -/
structure Resolution.Picks (scene : Resolution) (target : Combatant) (count : Nat)
    (ordered : List Combatant) (picked : List CombatantId) : Prop where
  all : ∀ one, one ∈ ordered ↔ scene.Jumps target one
  sorted : ordered.Pairwise (scene.GoesFirst target)
  first : picked = (ordered.take count).map (·.id)
  /-- Nobody is picked twice. -/
  nodup : picked.Nodup
  /-- As many are picked as asked for, or all there are. -/
  length : picked.length = min count ordered.length
  /-- Nobody who is left out is nearer than one who is picked. -/
  nearest : ∀ one, scene.Jumps target one → one.id ∈ picked →
    ∀ other, scene.Jumps target other → other.id ∉ picked →
      one.position.distance target.position ≤ other.position.distance target.position

namespace Resolution

variable {before : Resolution} {deeds : List Deed}

theorem picks_queue (distinct : before.field.Distinct) (target : Combatant) (count : Nat) :
    before.Picks target count (Effect.queue before target)
      (((Effect.queue before target).take count).map (·.id)) := by
  have nodup : ((Effect.queue before target).map (·.id)).Nodup :=
    Effect.nodup_chained distinct target.id target.position
  refine ⟨fun one => Effect.mem_queue, Effect.pairwise_queue before target, rfl, ?_, by simp, ?_⟩
  · rw [List.map_take]
    exact nodup.take
  · intro one jumps mem other jumps' left
    have ordered := Effect.pairwise_queue before target
    rw [← List.take_append_drop count (Effect.queue before target)] at ordered
    have apart := (List.pairwise_append.mp ordered).2.2
    obtain ⟨same, early, eq⟩ := List.mem_map.mp mem
    obtain rfl := List.inj_on_of_nodup_map nodup (List.mem_of_mem_take early)
      (Effect.mem_queue.mpr jumps) eq
    have later : other ∈ (Effect.queue before target).drop count := by
      have whole := Effect.mem_queue.mpr jumps'
      rw [← List.take_append_drop count (Effect.queue before target)] at whole
      exact (List.mem_append.mp whole).resolve_left fun mem => left (List.mem_map_of_mem mem)
    rcases apart same early other later with nearer | ⟨tied, -⟩
    · exact nearer.le
    · exact tied.le

theorem course_performed (before : Resolution) (deeds : List Deed) :
    Course before.actor before.target before (before.performed deeds) := by
  induction deeds generalizing before with
  | nil => exact .refl before
  | cons deed rest hyp => exact Course.trans (deed.course_stop before) (hyp (deed.stop before))

theorem nodup_areaTargets_performed (nodup : before.tally.areaTargets.Nodup) (deeds : List Deed) :
    (before.performed deeds).tally.areaTargets.Nodup := by
  induction deeds generalizing before with
  | nil => exact nodup
  | cons deed rest hyp => exact hyp (Deed.nodup_areaTargets_stop nodup)

/-- Nobody comes to be in the chain twice. -/
theorem nodup_chainTargets_performed (distinct : before.field.Distinct)
    (nodup : before.tally.chainTargets.Nodup) (deeds : List Deed) :
    (before.performed deeds).tally.chainTargets.Nodup := by
  induction deeds generalizing before with
  | nil => exact nodup
  | cons deed rest hyp =>
    refine hyp ((deed.course_stop before).field.moves.toShifts.distinct distinct) ?_
    by_cases leaps : deed.Leaps before
    · obtain ⟨count, id, target, -, -, -, chosen⟩ := leaps.chainTargets_stop
      rw [chosen]
      exact (picks_queue distinct target count).nodup
    · rwa [Deed.chainTargets_stop_of_not_leaps leaps]

/-- Areas reach whomever they reached before, and whomever a deed has caught since. -/
theorem mem_areaTargets_performed {id : CombatantId} :
    id ∈ (before.performed deeds).tally.areaTargets ↔ id ∈ before.tally.areaTargets ∨
      ∃ earlier deed later, deeds = earlier ++ deed :: later ∧
        deed.Catches (before.performed earlier) id := by
  induction deeds generalizing before with
  | nil => simp [performed]
  | cons first rest hyp =>
    show id ∈ ((first.stop before).performed rest).tally.areaTargets ↔ _
    rw [hyp, Deed.mem_areaTargets_stop, or_assoc]
    refine or_congr_right ⟨?_, ?_⟩
    · rintro (caught | ⟨earlier, deed, later, rfl, caught⟩)
      · exact ⟨[], first, rest, rfl, caught⟩
      · exact ⟨first :: earlier, deed, later, rfl, caught⟩
    · rintro ⟨_ | ⟨head, earlier⟩, deed, later, split, caught⟩
      · obtain ⟨rfl, rfl⟩ := List.cons.inj split
        exact .inl caught
      · obtain ⟨rfl, rfl⟩ := List.cons.inj split
        exact .inr ⟨earlier, deed, later, rfl, caught⟩

theorem performed_concat (before : Resolution) (earlier : List Deed) (deed : Deed) :
    before.performed (earlier ++ [deed]) = deed.stop (before.performed earlier) := by
  simp [performed]

/-- Whom areas and a chain reach after a sequence of deeds, apart from the target. -/
structure Reaches (before : Resolution) (deeds : List Deed) : Prop where
  once : (before.performed deeds).tally.areaTargets.Nodup
  actor : before.actor ∉ (before.performed deeds).tally.areaTargets
  target : ∀ id ∈ before.target, id ∉ (before.performed deeds).tally.areaTargets
  /-- Areas reach exactly those whom one of them caught, in the state that it met. -/
  area : ∀ id, id ∈ (before.performed deeds).tally.areaTargets ↔
    ∃ earlier deed later, deeds = earlier ++ deed :: later ∧
      deed.Catches (before.performed earlier) id
  chainOnce : (before.performed deeds).tally.chainTargets.Nodup
  /-- A chain that has just jumped reaches those it picked, in the state that it met. -/
  chain : ∀ earlier deed, deeds = earlier ++ [deed] → deed.Leaps (before.performed earlier) →
    ∃ count id target ordered, deed.firing.natOr "count" 1 = .ok count ∧
      before.target = some id ∧ (before.performed earlier).field.find? id = some target ∧
      (before.performed earlier).Picks target count ordered
        (before.performed deeds).tally.chainTargets
  /-- Any other deed leaves alone whom the chain reaches. -/
  kept : ∀ earlier deed, deeds = earlier ++ [deed] → ¬deed.Leaps (before.performed earlier) →
    (before.performed deeds).tally.chainTargets
      = (before.performed earlier).tally.chainTargets

/-- **Areas and chains reach whom they say**, whatever else is done in between. -/
theorem reaches_performed (distinct : before.field.Distinct)
    (noArea : before.tally.areaTargets = []) (noChain : before.tally.chainTargets = [])
    (deeds : List Deed) : before.Reaches deeds := by
  have course := before.course_performed
  have reached : ∀ id, id ∈ (before.performed deeds).tally.areaTargets ↔
      ∃ earlier deed later, deeds = earlier ++ deed :: later ∧
        deed.Catches (before.performed earlier) id := fun id => by
    rw [mem_areaTargets_performed, noArea, or_iff_right List.not_mem_nil]
  have distinct' : ∀ deeds, (before.performed deeds).field.Distinct := fun deeds =>
    (course deeds).field.moves.toShifts.distinct distinct
  have picks : ∀ earlier deed, deeds = earlier ++ [deed] → deed.Leaps (before.performed earlier) →
      ∃ count id target ordered, deed.firing.natOr "count" 1 = .ok count ∧
        before.target = some id ∧ (before.performed earlier).field.find? id = some target ∧
        (before.performed earlier).Picks target count ordered
          (before.performed deeds).tally.chainTargets := by
    rintro earlier deed rfl leaps
    obtain ⟨count, id, target, reads, aim, found, chosen⟩ := leaps.chainTargets_stop
    rw [performed_concat, chosen]
    exact ⟨count, id, target, _, reads, (course earlier).target.symm.trans aim, found,
      picks_queue (distinct' earlier) target count⟩
  have kept : ∀ earlier deed, deeds = earlier ++ [deed] → ¬deed.Leaps (before.performed earlier) →
      (before.performed deeds).tally.chainTargets
        = (before.performed earlier).tally.chainTargets := by
    rintro earlier deed rfl other
    rw [performed_concat]
    exact Deed.chainTargets_stop_of_not_leaps other
  refine ⟨nodup_areaTargets_performed (noArea ▸ List.nodup_nil) deeds, fun mem => ?_,
    fun id aim mem => ?_, reached,
    nodup_chainTargets_performed distinct (noChain ▸ List.nodup_nil) deeds, picks, kept⟩
  · obtain ⟨earlier, deed, later, -, -, -, feet, one, -, caught, same⟩ := (reached _).mp mem
    exact caught.other (same.trans (course earlier).actor.symm)
  · obtain ⟨earlier, deed, later, -, -, -, feet, one, -, caught, same⟩ := (reached _).mp mem
    exact caught.further ((congrArg some same).trans
      ((Option.mem_def.mp aim).symm.trans (course earlier).target.symm))

end Resolution

/-- Aria and Dorn, with an ally of hers beside her and one of his behind him. -/
def melee : Resolution where
  field := ⟨[aria, dorn, { aria with id := ⟨3⟩, position := ⟨1, 2⟩ },
    { dorn with id := ⟨4⟩, position := ⟨4, 1⟩ }], .plain 8 8⟩
  dice := .scripted []
  config := {}
  hook := .onHit
  actor := ⟨1⟩
  target := some ⟨2⟩

/-- A blast of five feet. -/
def blast : Deed := ⟨.onHit, .area, "area", "5 ft radius", ⟨"5 ft radius", [("feet", "5")]⟩⟩

/-- A spark that jumps to two more enemies. -/
def spark : Deed :=
  ⟨.onHit, .chain, "chain", "Chains to 2 enemies", ⟨"Chains to 2 enemies", [("count", "2")]⟩⟩

theorem reaches_melee : melee.Reaches [blast, spark] ∧ spark.Leaps (melee.performed [blast]) ∧
    (melee.performed [blast]).tally.areaTargets = [⟨3⟩] :=
  ⟨reaches_performed (by unfold Distinct; decide +kernel) rfl rfl [blast, spark],
    ⟨rfl, rfl, rfl⟩, by decide +kernel⟩

end Skirmish
