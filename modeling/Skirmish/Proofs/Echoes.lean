/-
**Echoes of a blow.** A chain and reflected damage follow from a blow, and nothing follows from them:

* `Touch`: what a delivery does to somebody, which is a blow, relief or dismay; `Plays`: a run does a
  list of these in turn, all of them unless it fails;
* `Performs`: what the steps of a delivery do depends on the premises of the action and on the field
  alone. `Follows`: they do so by a script;
* `Effect.keepsOnce_actChain`: nobody comes to be in a chain twice;
* `chained`, `reliefOf`, `returnedTo`, `dismayOf`: the scripts of the parts that come after the blows;
* `echoes_of_deliver`: at the ceiling of nesting a delivery is one without echoes. Below it, it plays
  the same with one more blow for each living member of the chain, and one for whoever acts.
-/

import Skirmish.Proofs.Losses

namespace Skirmish

open Resolve

/-! ### Touches -/

/-- Something that a delivery does to somebody. -/
inductive Touch where
  /-- A loss of hit points. -/
  | blow (who : CombatantId) (amount : Int)
  /-- A gain of hit points. -/
  | relief (who : CombatantId) (amount : Int)
  /-- A loss of composure. -/
  | dismay (who : CombatantId) (amount : Int)
deriving DecidableEq, Repr

namespace Touch

/-- To whom it is done. -/
def who : Touch → CombatantId
  | .blow who _ | .relief who _ | .dismay who _ => who

/-- What it makes of whomever it is done to. -/
def change : Touch → Combatant → Combatant
  | .blow _ amount, one => one.takeDamage amount
  | .relief _ amount, one => one.heal .hitPoints amount
  | .dismay _ amount, one => one.damagePool .composure amount

theorem id_change (touch : Touch) (one : Combatant) : (touch.change one).id = one.id := by
  cases touch
  · exact Combatant.id_of_stance (Combatant.stance_takeDamage ..)
  · exact Combatant.id_of_stance (Combatant.stance_heal ..)
  · exact Combatant.id_of_stance (Combatant.stance_damagePool ..)

end Touch

/-- The field after some touches, one after the other. -/
def Battlefield.touched (field : Battlefield) (touches : List Touch) : Battlefield :=
  touches.foldl (fun field touch => field.update touch.who touch.change) field

@[simp] theorem Battlefield.touched_nil (field : Battlefield) : field.touched [] = field := rfl

theorem Battlefield.touched_append (field : Battlefield) (touches later : List Touch) :
    field.touched (touches ++ later) = (field.touched touches).touched later :=
  List.foldl_append

/-- A run does some things to the field in turn, all of them unless it fails, and tells of them. -/
def Plays {α : Type} (run : Except Error α × Resolution) (before : Resolution) (script : List Touch) :
    Prop :=
  ∃ touches lines, touches <+: script ∧ (∀ value, run.1 = .ok value → touches = script) ∧
    run.2 = { before with field := before.field.touched touches, log := before.log ++ lines }

/-! ### Steps that heed nothing but the field -/

/-- What some steps come to. -/
structure Play (α : Type) where
  result : Except Error α
  touches : List Touch
  lines : List String

/-- Whether premises allow for one more level of nesting. -/
def Premises.canNest (premises : Premises) : Bool := premises.depth < premises.config.maxChainDepth

/-- The steps of an action with some premises are a play, if they are taken on a given field. -/
def Performs {α : Type} (premises : Premises) (field : Battlefield) (steps : Resolve α)
    (play : Play α) : Prop :=
  ∀ before : Resolution, before.premises = premises → before.field = field →
    steps before = (play.result, { before with
      field := field.touched play.touches
      log := before.log ++ play.lines })

/-- Steps follow a script, as far as they come before they fail, and what they return, if they return,
has a property. -/
def Follows {α : Type} (premises : Premises) (field : Battlefield) (steps : Resolve α)
    (script : List Touch) (good : α → Prop) : Prop :=
  ∃ play, Performs premises field steps play ∧ play.touches <+: script ∧
    ∀ value, play.result = .ok value → play.touches = script ∧ good value

/-- Two runs of steps on one field come to the same. -/
def Alike {α : Type} (premises : Premises) (steps other : Resolve α) : Prop :=
  ∀ field, ∃ play, Performs premises field steps play ∧ Performs premises field other play

section Rules

variable {α β : Type} {premises : Premises} {field : Battlefield} {steps : Resolve α}
  {next : α → Resolve β} {script later : List Touch} {good : α → Prop} {good' : β → Prop}

namespace Performs

theorem bind_ok {value : α} {touches : List Touch} {lines : List String} {play : Play β}
    (first : Performs premises field steps ⟨.ok value, touches, lines⟩)
    (rest : Performs premises (field.touched touches) (next value) play) :
    Performs premises field (steps >>= next)
      ⟨play.result, touches ++ play.touches, lines ++ play.lines⟩ := by
  intro before same here
  refine (run_bind_ok (first before same here)).trans ((rest { before with
    field := field.touched touches, log := before.log ++ lines } same rfl).trans ?_)
  simp only [Battlefield.touched_append, List.append_assoc]

theorem bind_error {error : Error} {touches : List Touch} {lines : List String}
    (first : Performs premises field steps ⟨.error error, touches, lines⟩) :
    Performs premises field (steps >>= next) ⟨.error error, touches, lines⟩ :=
  fun before same here => run_bind_error (first before same here)

theorem pure (value : α) : Performs premises field (Pure.pure value) ⟨.ok value, [], []⟩ := by
  rintro before - rfl
  simp

end Performs

namespace Follows

theorem bind (first : Follows premises field steps script good)
    (rest : ∀ value, good value → Follows premises (field.touched script) (next value) later good') :
    Follows premises field (steps >>= next) (script ++ later) good' := by
  obtain ⟨⟨result, touches, lines⟩, performs, starts, whole⟩ := first
  rcases result with error | value
  · exact ⟨_, performs.bind_error, starts.trans (List.prefix_append ..), fun _ eq => by cases eq⟩
  · obtain ⟨rfl, holds⟩ := whole value rfl
    obtain ⟨play, performs', starts', whole'⟩ := rest value holds
    refine ⟨_, performs.bind_ok performs', (List.prefix_append_right_inj _).mpr starts',
      fun value eq => ?_⟩
    obtain ⟨all, holds⟩ := whole' value eq
    exact ⟨congrArg _ all, holds⟩

theorem pure {value : α} (holds : good value) :
    Follows premises field (Pure.pure value) [] good :=
  ⟨_, .pure value, List.nil_prefix, fun _ eq => by cases eq; exact ⟨rfl, holds⟩⟩

theorem mono {weaker : α → Prop} (follows : Follows premises field steps script good)
    (weakens : ∀ value, good value → weaker value) : Follows premises field steps script weaker := by
  obtain ⟨play, performs, starts, whole⟩ := follows
  exact ⟨play, performs, starts, fun value eq => (whole value eq).imp_right (weakens value)⟩

/-- What follows some steps that do nothing to the field. -/
theorem bind_silent (first : Follows premises field steps [] good)
    (rest : ∀ value, good value → Follows premises field (next value) later good') :
    Follows premises field (steps >>= next) later good' := first.bind rest

theorem get {next : Resolution → Resolve β} (rest : Resolve β)
    (blind : ∀ before, before.premises = premises → next before before = rest before)
    (follows : Follows premises field rest later good') :
    Follows premises field ((MonadState.get : Resolve Resolution) >>= next) later good' := by
  obtain ⟨play, performs, starts, whole⟩ := follows
  exact ⟨play, fun before same here => (blind before same).trans (performs before same here),
    starts, whole⟩

/-- Steps that miss somebody fail before they do anything. -/
theorem require_of_none {id : CombatantId} {next : Combatant → Resolve β}
    (missing : field.find? id = none) :
    Follows premises field (Resolve.require id >>= next) later good' := by
  refine ⟨⟨.error (.combatantNotFound id), [], []⟩, ?_, List.nil_prefix, fun _ eq => by cases eq⟩
  rintro before - rfl
  rw [run_bind_error (run_require_of_none missing)]
  simp

theorem require_of_some {id : CombatantId} {one : Combatant} {next : Combatant → Resolve β}
    (found : field.find? id = some one) (rest : Follows premises field (next one) later good') :
    Follows premises field (Resolve.require id >>= next) later good' := by
  obtain ⟨play, performs, starts, whole⟩ := rest
  refine ⟨play, ?_, starts, whole⟩
  rintro before same rfl
  rw [run_bind_ok (run_require found)]
  exact performs before same rfl

theorem require {id : CombatantId} {next : Combatant → Resolve β}
    (rest : ∀ one, field.find? id = some one → Follows premises field (next one) later good') :
    Follows premises field (Resolve.require id >>= next) later good' := by
  rcases found : field.find? id with _ | one
  · exact require_of_none found
  · exact require_of_some found (rest one found)

theorem narrate (line : String) : Follows premises field (Resolve.narrate line) [] fun _ => True := by
  refine ⟨⟨.ok (), [], [line]⟩, ?_, List.nil_prefix, fun _ _ => ⟨rfl, trivial⟩⟩
  rintro before - rfl
  rfl

theorem replace (touch : Touch) {one : Combatant} (found : field.find? touch.who = some one) :
    Follows premises field (Resolve.replace (touch.change one)) [touch] fun _ => True := by
  refine ⟨⟨.ok (), [touch], []⟩, ?_, List.prefix_rfl, fun _ _ => ⟨rfl, trivial⟩⟩
  rintro before - rfl
  have same : (touch.change one).id = touch.who :=
    (touch.id_change one).trans (Battlefield.id_of_find? found)
  rw [run_replace same, Battlefield.update_const found, List.append_nil]
  rfl

/-- Steps taken one level deeper follow the script that they follow there. -/
theorem nested (inner : Follows { premises with depth := min (premises.depth + 1) 255 } field steps
    script good) : Follows premises field (Resolve.nested steps) script good := by
  obtain ⟨play, performs, starts, whole⟩ := inner
  refine ⟨play, ?_, starts, whole⟩
  rintro before rfl here
  exact run_nested (performs { before with depth := min (before.depth + 1) 255 } rfl here)

theorem plays (follows : Follows premises field steps script good) (before : Resolution)
    (same : before.premises = premises) (here : before.field = field) :
    Plays (steps before) before script ∧ ∀ value, (steps before).1 = .ok value → good value := by
  obtain ⟨play, performs, starts, whole⟩ := follows
  rw [performs before same here]
  exact ⟨⟨play.touches, play.lines, starts, fun value eq => (whole value eq).1, by rw [here]⟩,
    fun value eq => (whole value eq).2⟩

end Follows

namespace Alike

theorem refl (follows : ∀ field, ∃ script good, Follows premises field steps script good) :
    Alike premises steps steps := fun field =>
  have ⟨_, _, play, performs, _⟩ := follows field
  ⟨play, performs, performs⟩

theorem bind {other : Resolve α} {next' : α → Resolve β} (first : Alike premises steps other)
    (rest : ∀ value, Alike premises (next value) (next' value)) :
    Alike premises (steps >>= next) (other >>= next') := by
  intro field
  obtain ⟨⟨result, touches, lines⟩, performs, performs'⟩ := first field
  rcases result with error | value
  · exact ⟨_, performs.bind_error, performs'.bind_error⟩
  · obtain ⟨play, rests, rests'⟩ := rest value (field.touched touches)
    exact ⟨_, performs.bind_ok rests, performs'.bind_ok rests'⟩

end Alike

end Rules

/-! ### Chains without repetitions -/

namespace Effect

/-- A chain reaches nobody twice. -/
theorem nodup_chained {before : Resolution} (distinct : before.field.Distinct)
    (target : CombatantId) (origin : Cell) : (chained before target origin).Nodup := by
  have enemies := Battlefield.enemiesOf_sublist before.field before.actor
  unfold chained
  rw [((List.mergeSort_perm _ _).map Combatant.id).nodup_iff]
  exact distinct.sublist ((List.filter_sublist.trans enemies).map Combatant.id)

end Effect

/-! ### Echoes -/

/-- A tally with another chain, and another share to be sent back. -/
def Tally.echoing (tally : Tally) (chain : List CombatantId) (percent : Option Nat) : Tally :=
  { tally with chainTargets := chain, reflectPercent := percent }

/-- A resolution in which nobody is chained and nothing is sent back. -/
def Resolution.calm (resolution : Resolution) : Resolution :=
  { resolution with tally := resolution.tally.echoing [] none }

namespace Delivery

variable {premises : Premises} {field : Battlefield} {tally : Tally} {base amount primary : Int}
  {who : CombatantId} {one : Combatant} {targets : List CombatantId}

/-! ### Blows -/

theorem follows_strike (who : CombatantId) (amount : Int) (kind : Option String) :
    ∃ lost, Follows premises field (strike who amount kind) [.blow who amount] (· = lost) := by
  rcases found : field.find? who with _ | one
  · exact ⟨0, .require_of_none found⟩
  · refine ⟨one.lost (one.takeDamage amount) .hitPoints, .require_of_some found ?_⟩
    refine (Follows.replace (.blow who amount) found).bind fun _ _ => ?_
    cases kind <;> dsimp only <;>
    · refine (Follows.narrate _).bind fun _ _ => ?_
      split
      · exact (Follows.narrate _).bind fun _ _ => .pure rfl
      · exact .pure rfl

/-- What is left of damage for the target of an action. -/
def onTarget (tally : Tally) (base : Int) (one : Combatant) : Int :=
  mitigate base (Defenses.gather tally one tally.damageType) tally.ignoreArmor tally.ignoreResistance

theorem follows_strikeTarget (premises : Premises) (field : Battlefield) (tally : Tally) (base : Int)
    (who : CombatantId) :
    ∃ amount lost, Follows premises field (strikeTarget tally base who) [.blow who amount]
      (· = lost) := by
  rcases found : field.find? who with _ | one
  · exact ⟨0, 0, .require_of_none found⟩
  · obtain ⟨lost, follows⟩ := follows_strike who (onTarget tally base one) tally.damageType
    exact ⟨onTarget tally base one, lost, .require_of_some found follows⟩

/-- What is left of damage for somebody whom an area or a chain reaches. -/
def onOther (tally : Tally) (base : Int) (one : Combatant) : Int :=
  mitigate base (Defenses.ofConditions one tally.damageType) true tally.ignoreResistance

theorem follows_strikeOther (premises : Premises) (found : field.find? who = some one) (tally : Tally)
    (base : Int) :
    ∃ lost, Follows premises field (strikeOther tally base who)
      [.blow who (onOther tally base one)] (· = lost) := by
  obtain ⟨lost, follows⟩ := follows_strike who (onOther tally base one) tally.damageType
  exact ⟨lost, .require_of_some found follows⟩

/-- Everyone in an area takes a blow. -/
theorem follows_spread (premises : Premises) (tally : Tally) (base : Int)
    (targets : List CombatantId) (field : Battlefield) :
    ∃ script losses, Follows premises field (spread tally base targets) script (· = losses) ∧
      ∀ touch ∈ script, ∃ who ∈ targets, ∃ amount, touch = .blow who amount := by
  induction targets generalizing field with
  | nil => exact ⟨[], [], .pure rfl, by simp⟩
  | cons who rest hyp =>
    rcases found : field.find? who with _ | one
    · refine ⟨[], [], ?_, by simp⟩
      unfold spread strikeOther
      rw [bind_assoc]
      exact .require_of_none found
    · obtain ⟨lost, struck⟩ := follows_strikeOther premises found tally base
      obtain ⟨script, losses, follows, blows⟩ :=
        hyp (field.touched [.blow who (onOther tally base one)])
      refine ⟨.blow who (onOther tally base one) :: script, (who, lost) :: losses, ?_, ?_⟩
      · unfold spread
        show Follows premises field _ ([.blow who (onOther tally base one)] ++ script) _
        refine struck.bind fun _ same => ?_
        subst same
        rw [← List.append_nil script]
        refine follows.bind fun _ same => ?_
        subst same
        exact .pure rfl
      · intro touch mem
        rcases List.mem_cons.mp mem with rfl | mem
        · exact ⟨who, List.mem_cons_self .., _, rfl⟩
        · obtain ⟨other, there, blow⟩ := blows touch mem
          exact ⟨other, List.mem_cons_of_mem _ there, blow⟩

/-- Those in an area take what they take without regard to echoes. -/
theorem spread_echoing (tally : Tally) (base : Int) (targets chain : List CombatantId)
    (percent : Option Nat) :
    spread (tally.echoing chain percent) base targets = spread tally base targets := by
  induction targets with
  | nil => rfl
  | cons who rest hyp =>
    unfold spread
    rw [hyp]
    rfl

/-! ### A chain -/

/-- The blow that a chain deals to somebody on a field, unless it has fallen. -/
def arcOn? (tally : Tally) (base : Int) (field : Battlefield) (who : CombatantId) : Option Touch := do
  let one ← field.find? who
  if one.isAlive then some (.blow who (onOther tally base one)) else none

/-- The blows along a chain. -/
def arcs (tally : Tally) (base : Int) (field : Battlefield) (targets : List CombatantId) : List Touch :=
  targets.filterMap (arcOn? tally base field)

theorem follows_arc (nodup : targets.Nodup) (tally : Tally) (base : Int) (field : Battlefield) :
    Follows premises field (arc tally base targets) (arcs tally base field targets)
      fun _ => True := by
  induction targets generalizing field with
  | nil => exact .pure trivial
  | cons who rest hyp =>
    obtain ⟨fresh, nodup⟩ := List.nodup_cons.mp nodup
    unfold arc
    refine .require fun one found => ?_
    by_cases alive : one.isAlive
    · obtain ⟨lost, struck⟩ := follows_strikeOther premises found tally base
      -- Whoever else is in the chain is as before the blow.
      have later : arcs tally base (field.touched [.blow who (onOther tally base one)]) rest
          = arcs tally base field rest := by
        refine List.filterMap_congr fun id mem => ?_
        have ne : id ≠ who := fun same => fresh (same ▸ mem)
        have same : (field.touched [.blow who (onOther tally base one)]).find? id = field.find? id :=
          Battlefield.find?_update_of_ne ne (Touch.id_change _)
        simp only [arcOn?, same]
      have script : arcs tally base field (who :: rest)
          = .blow who (onOther tally base one) :: (arcs tally base field rest ++ []) := by
        simp [arcs, arcOn?, found, alive]
      rw [if_pos alive, script]
      refine (Follows.narrate _).bind_silent fun _ _ => struck.bind fun _ _ => ?_
      exact (later ▸ hyp nodup _).bind fun _ _ => .pure trivial
    · have script : arcs tally base field (who :: rest) = arcs tally base field rest := by
        simp [arcs, arcOn?, found, alive]
      rw [if_neg alive, script]
      exact hyp nodup field

theorem follows_jump (nests : premises.canNest) (nodup : tally.chainTargets.Nodup) (base : Int) :
    Follows premises field (jump tally base) (arcs tally (base / 2) field tally.chainTargets)
      fun _ => True := by
  refine .get (if !tally.chainTargets.isEmpty
    then Resolve.nested (arc tally (base / 2) tally.chainTargets) else Pure.pure []) ?_ ?_
  · rintro before rfl
    have may : before.canNest = true := nests
    simp [may]
  · split
    case isTrue => exact (follows_arc nodup tally (base / 2) field).nested
    case isFalse empty =>
      have nobody : tally.chainTargets = [] := by simpa using empty
      rw [nobody]
      exact .pure trivial

/-! ### What comes back to whoever acts -/

/-- The relief of whoever acts for what the target has lost. -/
def reliefOf (percent : Option Nat) (actor : CombatantId) (primary : Int) : List Touch :=
  match percent with
  | some percent => if 0 < primary then [.relief actor (share primary percent)] else []
  | none => []

/-- The blow that comes back to whoever acts for what the target has lost. -/
def returnedTo (percent : Option Nat) (actor : CombatantId) (primary : Int) : List Touch :=
  match percent with
  | some percent =>
    if 0 < primary ∧ 0 < share primary percent then [.blow actor (share primary percent)] else []
  | none => []

theorem follows_drain (amount : Int) :
    Follows premises field (drain amount) [.relief premises.actor amount] fun _ => True := by
  refine .get (do
    let before ← require premises.actor
    let after := before.heal .hitPoints amount
    let gained := before.gained after .hitPoints
    replace after
    if 0 < gained then narrate s!"{before.name} drains {gained} HP."
    return gained) (fun before same => by rw [← same]; rfl) ?_
  refine .require fun one found => ?_
  refine (Follows.replace (.relief premises.actor amount) found).bind fun _ _ => ?_
  split
  · exact (Follows.narrate _).bind fun _ _ => .pure trivial
  · exact .pure trivial

theorem follows_drainShare (tally : Tally) (primary : Int) :
    Follows premises field (drainShare tally primary)
      (reliefOf tally.lifestealPercent premises.actor primary) fun _ => True := by
  unfold drainShare reliefOf
  rcases tally.lifestealPercent with _ | percent
  · exact .pure trivial
  · dsimp only
    split
    · exact follows_drain _
    · exact .pure trivial

theorem follows_sendBack {amount : Int} (some : 0 < amount) :
    Follows premises field (sendBack amount) [.blow premises.actor amount] fun _ => True := by
  unfold sendBack
  rw [if_neg (by omega)]
  refine (Follows.narrate _).bind_silent fun _ _ => .get (Resolve.nested
    (strike premises.actor amount none)) (fun before same => by rw [← same]; rfl) ?_
  obtain ⟨lost, follows⟩ := follows_strike premises.actor amount none
  exact (follows.mono fun _ _ => trivial).nested

theorem follows_reflectShare (nests : premises.canNest) (tally : Tally) (primary : Int) :
    Follows premises field (reflectShare tally primary)
      (returnedTo tally.reflectPercent premises.actor primary) fun _ => True := by
  unfold reflectShare returnedTo
  rcases tally.reflectPercent with _ | percent
  · exact .pure trivial
  refine .get (if 0 < primary then sendBack (share primary percent) else Pure.pure 0) ?_ ?_
  · rintro before rfl
    have may : before.canNest = true := nests
    simp [may]
  dsimp only
  by_cases hurt : 0 < primary
  · by_cases some : 0 < share primary percent
    · rw [if_pos hurt, if_pos ⟨hurt, some⟩]
      exact follows_sendBack some
    · rw [if_pos hurt, if_neg fun both => some both.2]
      unfold sendBack
      rw [if_pos (by omega)]
      exact .pure trivial
  · rw [if_neg hurt, if_neg fun both => hurt both.1]
    exact .pure trivial

/-! ### Nerves -/

/-- The loss of composure of the target. -/
def dismayOf (tally : Tally) (target : Option CombatantId) : List Touch :=
  match tally.pendingComposure, target with
  | some amount, some who => [.dismay who amount]
  | _, _ => []

theorem follows_unsettle (who : CombatantId) (amount : Int) :
    Follows premises field (unsettle who amount) [.dismay who amount] fun _ => True := by
  refine .require fun one found => ?_
  refine (Follows.replace (.dismay who amount) found).bind fun _ _ => ?_
  refine (Follows.narrate _).bind fun _ _ => ?_
  split
  · exact Follows.narrate _
  · exact .pure trivial

/-- What the target loses of its composure, if there are both. -/
def unnerve (tally : Tally) (target : Option CombatantId) : Resolve Unit :=
  tally.pendingComposure.elim (Pure.pure ()) fun amount =>
    target.elim (Pure.pure ()) fun target => unsettle target amount

theorem follows_unnerve (tally : Tally) (target : Option CombatantId) :
    Follows premises field (unnerve tally target) (dismayOf tally target) fun _ => True := by
  unfold unnerve dismayOf
  rcases tally.pendingComposure with _ | amount
  · exact .pure trivial
  · rcases target with _ | who
    · exact .pure trivial
    · exact follows_unsettle who amount

/-! ### The whole delivery -/

/-- What comes after the blows, below the ceiling of nesting. -/
theorem follows_echoes (field : Battlefield) (tally : Tally) (nests : premises.canNest)
    (nodup : tally.chainTargets.Nodup) (base primary : Int) (area : List (CombatantId × Int)) :
    Follows premises field (do
      let chain ← jump tally base
      let drained ← drainShare tally primary
      let reflected ← reflectShare tally primary
      return ({ primary, splash := area ++ chain, reflected, drained } : DamageReport))
      (arcs tally (base / 2) field tally.chainTargets ++
        (reliefOf tally.lifestealPercent premises.actor primary ++
          (returnedTo tally.reflectPercent premises.actor primary ++ []))) (·.primary = primary) :=
  (follows_jump nests nodup base).bind fun _ _ => (follows_drainShare tally primary).bind fun _ _ =>
    (follows_reflectShare nests tally primary).bind fun _ _ => .pure rfl

/-- The target and everyone in the area take blows, and nothing in this depends on the echoes. What
comes after them follows from what the target has lost. -/
theorem follows_deliverDamage (field : Battlefield) (nests : premises.canNest) (tally : Tally)
    (base : Int) (target : Option CombatantId) : ∃ primary opening,
    (∀ touch ∈ opening, ∃ who amount, (target = some who ∨ who ∈ tally.areaTargets) ∧
      touch = .blow who amount) ∧
    ∀ chain percent, chain.Nodup →
      Follows premises field (deliverDamage (tally.echoing chain percent) base target)
        (opening ++ (arcs tally (base / 2) (field.touched opening) chain ++
          (reliefOf tally.lifestealPercent premises.actor primary ++
            returnedTo percent premises.actor primary))) (·.primary = primary) := by
  obtain ⟨first, primary, aimed, blow⟩ : ∃ script primary,
      Follows premises field (target.elim (Pure.pure 0) (strikeTarget tally base)) script
        (· = primary) ∧
      ∀ touch ∈ script, ∃ who amount, target = some who ∧ touch = .blow who amount := by
    rcases target with _ | who
    · exact ⟨[], 0, .pure rfl, by simp⟩
    · obtain ⟨amount, lost, follows⟩ := follows_strikeTarget premises field tally base who
      exact ⟨_, lost, follows, fun touch mem => ⟨who, amount, rfl, List.mem_singleton.mp mem⟩⟩
  obtain ⟨script, losses, spreads, blows⟩ := follows_spread premises tally base
    (tally.areaTargets.filter (some · != target)) (field.touched first)
  refine ⟨primary, first ++ script, fun touch mem => ?_, fun chain percent nodup => ?_⟩
  · rcases List.mem_append.mp mem with mem | mem
    · obtain ⟨who, amount, aim, same⟩ := blow touch mem
      exact ⟨who, amount, .inl aim, same⟩
    · obtain ⟨who, there, amount, same⟩ := blows touch mem
      exact ⟨who, amount, .inr (List.mem_filter.mp there).1, same⟩
  · rw [deliverDamage_eq, List.append_assoc, Battlefield.touched_append]
    refine aimed.bind ?_
    rintro lost rfl
    rw [spread_echoing]
    refine spreads.bind ?_
    rintro area rfl
    have echoes := follows_echoes ((field.touched first).touched script)
      (tally.echoing chain percent) nests nodup base lost area
    rwa [List.append_nil] at echoes

/-- The damage of a tally, if there is any. -/
def deal (tally : Tally) (target : Option CombatantId) : Resolve DamageReport :=
  tally.pendingDamage.elim (Pure.pure {}) fun base => deliverDamage tally base target

/-- The blows of the chain of a tally, if there is any damage. -/
def chained (tally : Tally) (field : Battlefield) (chain : List CombatantId) : List Touch :=
  tally.pendingDamage.elim [] fun base => arcs tally (base / 2) field chain

/-- A chain deals at most one blow to each of those in it. -/
theorem sublist_chained (tally : Tally) (field : Battlefield) (chain : List CombatantId) :
    ((chained tally field chain).map Touch.who).Sublist chain := by
  unfold chained
  rcases tally.pendingDamage with _ | base
  · exact List.nil_sublist chain
  · simp only [Option.elim, arcs]
    induction chain with
    | nil => exact .slnil
    | cons who rest hyp =>
      rcases hit : arcOn? tally (base / 2) field who with _ | touch
      · rw [List.filterMap_cons_none hit]
        exact hyp.cons who
      · have same : touch.who = who := by
          simp only [arcOn?, Option.bind_eq_bind, Option.bind_eq_some_iff] at hit
          obtain ⟨one, -, hit⟩ := hit
          split at hit
          · cases hit
            rfl
          · cases hit
        rw [List.filterMap_cons_some hit, List.map_cons, same]
        exact hyp.cons_cons who

theorem follows_deal (field : Battlefield) (nests : premises.canNest) (tally : Tally)
    (target : Option CombatantId) : ∃ primary opening,
    (∀ touch ∈ opening, ∃ who amount, (target = some who ∨ who ∈ tally.areaTargets) ∧
      touch = .blow who amount) ∧
    ∀ chain percent, chain.Nodup → Follows premises field (deal (tally.echoing chain percent) target)
      (opening ++ (chained tally (field.touched opening) chain ++
        (reliefOf tally.lifestealPercent premises.actor primary ++
          returnedTo percent premises.actor primary))) (·.primary = primary) := by
  rcases damage : tally.pendingDamage with _ | base
  · refine ⟨0, [], by simp, fun chain percent _ => ?_⟩
    have nothing : deal (tally.echoing chain percent) target = Pure.pure {} := by
      simp only [deal, Tally.echoing, damage, Option.elim]
    have relief : reliefOf tally.lifestealPercent premises.actor 0 = [] := by
      unfold reliefOf
      split <;> simp
    have returned : returnedTo percent premises.actor 0 = [] := by
      unfold returnedTo
      split <;> simp
    rw [nothing, relief, returned]
    simp only [chained, damage, Option.elim, List.append_nil]
    exact .pure rfl
  · obtain ⟨primary, opening, blows, follows⟩ :=
      follows_deliverDamage field nests tally base target
    refine ⟨primary, opening, blows, fun chain percent nodup => ?_⟩
    have same : deal (tally.echoing chain percent) target
        = deliverDamage (tally.echoing chain percent) base target := by
      simp only [deal, Tally.echoing, damage, Option.elim]
    rw [same]
    simpa only [chained, damage, Option.elim] using follows chain percent nodup

/-- Everything that a tally holds, whatever the resolution at hand holds itself. -/
def delivery (tally : Tally) (target : Option CombatantId) : Resolve DamageReport :=
  deal tally target >>= fun report => unnerve tally target >>= fun _ => Pure.pure report

theorem deliver_eq_delivery (target : Option CombatantId) (before : Resolution) :
    deliver target before = delivery before.tally target before :=
  deliver_eq target before

theorem follows_delivery (field : Battlefield) (nests : premises.canNest) (tally : Tally)
    (target : Option CombatantId) : ∃ primary opening,
    (∀ touch ∈ opening, ∃ who amount, (target = some who ∨ who ∈ tally.areaTargets) ∧
      touch = .blow who amount) ∧
    ∀ chain percent, chain.Nodup →
      Follows premises field (delivery (tally.echoing chain percent) target)
        (opening ++ chained tally (field.touched opening) chain ++
          reliefOf tally.lifestealPercent premises.actor primary ++
          returnedTo percent premises.actor primary ++ dismayOf tally target) (·.primary = primary) := by
  obtain ⟨primary, opening, blows, follows⟩ := follows_deal field nests tally target
  refine ⟨primary, opening, blows, fun chain percent nodup => ?_⟩
  have last : ∀ field (report : DamageReport), report.primary = primary →
      Follows premises field (unnerve tally target >>= fun _ => Pure.pure report)
        (dismayOf tally target ++ []) (·.primary = primary) :=
    fun field report same => (follows_unnerve tally target).bind fun _ _ => .pure same
  have whole := (follows chain percent nodup).bind (last _)
  show Follows premises field (deal (tally.echoing chain percent) target >>= fun report =>
    unnerve tally target >>= fun _ => Pure.pure report) _ _
  simpa only [List.append_nil, List.append_assoc] using whole

/-! ### At the ceiling -/

section Ceiling

variable (closed : premises.canNest = false)
include closed

theorem alike_jump (tally other : Tally) (base : Int) :
    Alike premises (jump tally base) (jump other base) := by
  have idle : ∀ (tally : Tally) field, Performs premises field (jump tally base) ⟨.ok [], [], []⟩ := by
    rintro tally field before rfl rfl
    have shut : before.canNest = false := closed
    simp [jump, shut]
  exact fun field => ⟨_, idle tally field, idle other field⟩

theorem alike_reflectShare (tally other : Tally) (primary : Int) :
    Alike premises (reflectShare tally primary) (reflectShare other primary) := by
  have idle : ∀ (tally : Tally) field,
      Performs premises field (reflectShare tally primary) ⟨.ok 0, [], []⟩ := by
    rintro tally field before rfl rfl
    have shut : before.canNest = false := closed
    unfold reflectShare
    rcases tally.reflectPercent with _ | percent <;> simp [shut]
  exact fun field => ⟨_, idle tally field, idle other field⟩

theorem alike_deal (tally : Tally) (target : Option CombatantId) (chain : List CombatantId)
    (percent : Option Nat) :
    Alike premises (deal tally target) (deal (tally.echoing chain percent) target) := by
  have damage : (tally.echoing chain percent).pendingDamage = tally.pendingDamage := rfl
  unfold deal
  rw [damage]
  rcases tally.pendingDamage with _ | base
  · exact .refl fun field => ⟨[], fun _ => True, .pure trivial⟩
  · have aimed : Alike premises (target.elim (Pure.pure 0) (strikeTarget tally base))
        (target.elim (Pure.pure 0) (strikeTarget tally base)) := by
      refine .refl fun field => ?_
      rcases target with _ | who
      · exact ⟨[], fun _ => True, .pure trivial⟩
      · obtain ⟨amount, lost, follows⟩ := follows_strikeTarget premises field tally base who
        exact ⟨_, _, follows⟩
    simp only [Option.elim, deliverDamage_eq, spread_echoing]
    refine aimed.bind fun primary => (Alike.refl fun field => ?_).bind fun area =>
      (alike_jump closed tally (tally.echoing chain percent) base).bind fun arced =>
      (Alike.refl fun field => ⟨_, _, follows_drainShare tally primary⟩).bind fun drained =>
      (alike_reflectShare closed tally (tally.echoing chain percent) primary).bind fun reflected =>
      .refl fun field => ⟨[], fun _ => True, .pure trivial⟩
    obtain ⟨script, losses, follows, -⟩ := follows_spread premises tally base
      (tally.areaTargets.filter (some · != target)) field
    exact ⟨script, _, follows⟩

theorem alike_delivery (tally : Tally) (target : Option CombatantId) (chain : List CombatantId)
    (percent : Option Nat) :
    Alike premises (delivery tally target) (delivery (tally.echoing chain percent) target) :=
  (alike_deal closed tally target chain percent).bind fun _ =>
    (Alike.refl fun _ => ⟨_, _, follows_unnerve tally target⟩).bind fun _ =>
      .refl fun _ => ⟨[], fun _ => True, .pure trivial⟩

end Ceiling

/-- **Echoes lead to nothing further.** At the ceiling of nesting, a delivery does what it does without
a chain and without reflection. Below it, it does the same with some more blows: one for each of those
in the chain who are alive when it starts, for half of the damage, and one for whoever acts, for its
share of what the target has lost. Nothing is chained, drained or reflected for any of them. -/
theorem echoes_of_deliver (target : Option CombatantId) (before : Resolution) :
    (before.canNest = false →
      (deliver target before).1 = (deliver target before.calm).1 ∧
      (deliver target before).2.field = (deliver target before.calm).2.field ∧
      (deliver target before).2.log = (deliver target before.calm).2.log) ∧
    (before.canNest → before.tally.chainTargets.Nodup → ∃ primary opening chain relief back,
      (∀ touch ∈ opening, ∃ who amount, (target = some who ∨ who ∈ before.tally.areaTargets) ∧
        touch = .blow who amount) ∧
      chain = chained before.tally (before.field.touched opening) before.tally.chainTargets ∧
      (chain.map Touch.who).Sublist before.tally.chainTargets ∧
      relief = reliefOf before.tally.lifestealPercent before.actor primary ∧
      back = returnedTo before.tally.reflectPercent before.actor primary ∧
      Plays (deliver target before.calm) before.calm
        (opening ++ relief ++ dismayOf before.tally target) ∧
      Plays (deliver target before) before
        (opening ++ chain ++ relief ++ back ++ dismayOf before.tally target) ∧
      ∀ report, (deliver target before).1 = .ok report → report.primary = primary) := by
  constructor
  · intro closed
    obtain ⟨play, performs, performs'⟩ :=
      alike_delivery (show before.premises.canNest = false from closed) before.tally target [] none
        before.field
    rw [deliver_eq_delivery, deliver_eq_delivery, performs before rfl rfl]
    have calm : delivery before.calm.tally target before.calm = _ := performs' before.calm rfl rfl
    rw [calm]
    exact ⟨rfl, rfl, rfl⟩
  · intro nests nodup
    obtain ⟨primary, opening, blows, follows⟩ :=
      follows_delivery before.field (show before.premises.canNest from nests) before.tally target
    obtain ⟨plays, returns⟩ :=
      (follows before.tally.chainTargets before.tally.reflectPercent nodup).plays before rfl rfl
    obtain ⟨plays', -⟩ := (follows [] none .nil).plays before.calm rfl rfl
    have nobody : chained before.tally (before.field.touched opening) [] = [] := by
      unfold chained
      cases before.tally.pendingDamage <;> rfl
    have nothing : returnedTo none before.premises.actor primary = [] := rfl
    rw [nobody, nothing, List.append_nil, List.append_nil] at plays'
    refine ⟨primary, opening, _, _, _, blows, rfl, sublist_chained .., rfl, rfl, ?_, ?_, ?_⟩
    · rw [deliver_eq_delivery]
      exact plays'
    · rw [deliver_eq_delivery]
      exact plays
    · rw [deliver_eq_delivery]
      exact returns

theorem echoes_of_sweep : sweep.canNest ∧ sweep.tally.chainTargets.Nodup ∧
    ∃ opening chain relief back, (chain.map Touch.who).Sublist [⟨3⟩, ⟨2⟩] ∧
      Plays (deliver (some ⟨2⟩) sweep.calm) sweep.calm (opening ++ relief ++ [.dismay ⟨2⟩ 3]) ∧
      Plays (deliver (some ⟨2⟩) sweep) sweep
        (opening ++ chain ++ relief ++ back ++ [.dismay ⟨2⟩ 3]) := by
  have nests : sweep.canNest := by decide +kernel
  have nodup : sweep.tally.chainTargets.Nodup := by decide
  obtain ⟨_, opening, chain, relief, back, -, -, once, -, -, calm, full, -⟩ :=
    (echoes_of_deliver (some ⟨2⟩) sweep).2 nests nodup
  exact ⟨nests, nodup, opening, chain, relief, back, once, calm, full⟩

end Delivery

end Skirmish
