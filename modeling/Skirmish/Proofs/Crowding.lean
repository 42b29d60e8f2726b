/-
**A cell for each of the living.** Over any run that starts from an orderly field, everyone stands on
walkable ground. Two of the living come to share a cell in two ways only (`Combat.Collides`):

* an attack or an ability whose user is down heals it by lifesteal where another one stands;
* the loser or winner of a contest is down where a third one stands, and an exchange of cells brings
  the other one there.
-/

import Skirmish.Proofs.Costs
import Skirmish.Proofs.Runs

namespace Skirmish

open Battlefield

/-- Two of the living share a cell because of what has just been done. -/
def ActionOutcome.Crowded (before after : Battlefield) : ActionOutcome → Prop
  | .attack report => after.RisesAmong report.attacker report.damage
  | .activation report => after.RisesAmong report.actor report.damage
  | .clash report => report.consequence = some .swap ∧
      (before.Crowds report.winner report.loser ∨ before.Crowds report.loser report.winner)
  | .moved _ => False
  | .turnEnded _ => False

namespace Combat

/-- An operation brings two of the living to one cell. -/
def Collides (combat : Combat) : Operation → Prop
  | .act action => ∃ outcome, (Fight.perform action combat).1 = .ok outcome ∧
      outcome.Crowded combat.field (combat.after (.act action)).field
  | .join _ => False
  | .start => False
  | .supply _ _ => False

variable {combat : Combat}

/-- What a change does to an orderly field: it is still sound, and two of the living share a cell
exactly if they collide. -/
def Fares (collides : Prop) (before after : Battlefield) : Prop :=
  before.Sound → after.Sound ∧ (before.Exclusive → (after.Exclusive ↔ ¬collides))

section Fares

variable {collides : Prop} {before middle after : Battlefield}

theorem fares_of_evolves (evolves : before.Evolves after) (never : ¬collides) :
    Fares collides before after := fun sound =>
  ⟨evolves.sound sound, fun exclusive => iff_of_true (evolves.exclusive sound exclusive) never⟩

theorem fares_of_endures {who : CombatantId} {damage : DamageReport}
    (endures : Endures who damage before after) :
    Fares (after.RisesAmong who damage) before after := by
  intro sound
  have sound' := endures.sound sound
  refine ⟨sound', fun exclusive => ⟨fun still rises => ?_, fun apart => ?_⟩⟩
  · exact rises.not_exclusive sound'.distinct still
  · exact (endures.exclusive sound exclusive).resolve_right apart

theorem fares_of_swaps {winner loser : CombatantId}
    (swaps : Contest.Swaps winner loser before after) :
    Fares (before.Crowds winner loser ∨ before.Crowds loser winner) before after := by
  intro sound
  obtain ⟨one, other, middle, rfl, rfl, trades, rests⟩ := swaps
  have soundMiddle := trades.shifts.sound sound
  refine ⟨rests.evolves.sound soundMiddle, fun exclusive => ?_⟩
  rw [rests.exclusive_iff soundMiddle, trades.exclusive_iff_not_crowds sound exclusive, not_or]

theorem Fares.congr {other : Prop} (fares : Fares collides before after)
    (same : other ↔ collides) : Fares other before after := by
  rwa [Fares, same]

end Fares

/-! ### One operation -/

/-- Whether an action that was not refused collides is told by its outcome. -/
theorem exists_ok_iff {outcome : ActionOutcome} {crowded : ActionOutcome → Prop} :
    (∃ other, (Except.ok outcome : Except Error ActionOutcome) = .ok other ∧ crowded other) ↔
      crowded outcome :=
  ⟨fun ⟨_, same, holds⟩ => Except.ok.inj same ▸ holds, fun holds => ⟨outcome, rfl, holds⟩⟩

theorem fares_attack (stock : combat.rules.Stock) (request : AttackRequest) :
    Fares (combat.Collides (.act (.attack request))) combat.field
      (combat.after (.act (.attack request))).field := by
  have run := Fight.run_attack stock request
  simp only [Collides, after_act, perform_attack]
  generalize Fight.attack request combat = result at run
  cases run with
  | refused error => exact fares_of_evolves (.refl combat.field) (by simp [Except.map])
  | @made setting report resolved running rules sources same who ends =>
    have endures := ends.delivers.endures.trans_rests
      (confined_afterAttack { combat with field := resolved.field, dice := resolved.dice } request
        setting.targetName report none).moves
    refine (fares_of_endures endures).congr (exists_ok_iff.trans ?_)
    simp only [ActionOutcome.Crowded, who]
    rfl

theorem fares_activate (stock : combat.rules.Stock) (activation : Activation) :
    Fares (combat.Collides (.act (.activate activation))) combat.field
      (combat.after (.act (.activate activation))).field := by
  have run := Fight.run_activate stock activation
  simp only [Collides, after_act, perform_activate]
  generalize Fight.activate activation combat = result at run
  cases run with
  | refused error => exact fares_of_evolves (.refl combat.field) (by simp [Except.map])
  | @made actor report resolved running found who ends =>
    have endures := ends.delivers.endures.trans_rests
      (confined_afterActivation { combat with field := resolved.field, dice := resolved.dice }
        activation report none).moves
    refine (fares_of_endures endures).congr (exists_ok_iff.trans ?_)
    simp only [ActionOutcome.Crowded, who]
    rfl

theorem fares_move (actor : CombatantId) (goal : Cell) :
    Fares (combat.Collides (.act (.move actor goal))) combat.field
      (combat.after (.act (.move actor goal))).field := by
  have run := Fight.run_move combat actor goal
  simp only [Collides, after_act, perform_move]
  generalize Fight.move actor goal combat = result at run
  cases run with
  | refused error => exact fares_of_evolves (.refl combat.field) (by simp [Except.map])
  | @made start middle report events running placed =>
    have rests : middle.Rests (middle.update actor fun mover =>
        { mover with facing := .toward start goal, turn.moved := true }) :=
      rests_update fun _ _ => rfl
    have evolves := (evolves_place placed).trans rests.evolves
    exact (fares_of_evolves evolves not_false).congr exists_ok_iff

theorem fares_resolveClash (stat : Option Stat) :
    Fares (combat.Collides (.act (.resolveClash stat))) combat.field
      (combat.after (.act (.resolveClash stat))).field := by
  have run := Fight.run_resolveClash combat stat
  simp only [Collides, after_act, perform_resolveClash]
  generalize Fight.resolveClash stat combat = result at run
  cases run with
  | refused error => exact fares_of_evolves (.refl combat.field) (by simp [Except.map])
  | failed error due settles =>
    cases settles with
    | failed _ evolves => exact fares_of_evolves evolves (by simp [Except.map])
  | @held pending scene report events due settles =>
    rw [field_checkFinished]
    cases settles with
    | moved other evolves =>
      exact (fares_of_evolves evolves fun crowded => other crowded.1).congr exists_ok_iff
    | swapped swap swaps =>
      refine (fares_of_swaps swaps).congr (exists_ok_iff.trans ?_)
      exact and_iff_right swap

theorem fares_endTurn : Fares (combat.Collides (.act .endTurn)) combat.field
    (combat.after (.act .endTurn)).field := by
  have run := Fight.run_endTurn combat
  simp only [Collides, after_act, perform_endTurn]
  generalize Fight.endTurn combat = result at run
  cases run with
  | refused error => exact fares_of_evolves (.refl combat.field) (by simp [Except.map])
  | ended running evolves inside =>
    rw [field_checkFinished]
    exact (fares_of_evolves evolves not_false).congr exists_ok_iff

theorem fares_join (newcomer : Combatant) : Fares (combat.Collides (.join newcomer)) combat.field
    (combat.after (.join newcomer)).field := by
  have run := Fight.run_addCombatant combat newcomer
  rw [after_join]
  generalize Fight.addCombatant newcomer combat = result at run
  cases run with
  | refused error => exact fares_of_evolves (.refl combat.field) (by simp [Collides])
  | joined going added last =>
    exact fun sound => ⟨sound_add added sound, fun exclusive =>
      iff_of_true (exclusive_add added exclusive) (by simp [Collides])⟩

theorem fares_start : Fares (combat.Collides .start) combat.field (combat.after .start).field := by
  have run := Fight.run_start combat
  rw [after_start]
  generalize Fight.start combat = result at run
  cases run with
  | refused error => exact fares_of_evolves (.refl combat.field) (by simp [Collides])
  | begun fresh manned evolves inside =>
    rw [field_checkFinished]
    exact fares_of_evolves evolves (by simp [Collides])

/-- **What one operation does to an orderly field.** -/
theorem fares_after (stock : combat.rules.Stock) (operation : Operation) :
    Fares (combat.Collides operation) combat.field (combat.after operation).field := by
  cases operation with
  | join newcomer => exact fares_join newcomer
  | start => exact fares_start
  | act action =>
    cases action with
    | attack request => exact fares_attack stock request
    | activate activation => exact fares_activate stock activation
    | move actor goal => exact fares_move actor goal
    | resolveClash stat => exact fares_resolveClash stat
    | endTurn => exact fares_endTurn
  | supply sources dice => exact fares_of_evolves (.refl combat.field) (by simp [Collides])

/-! ### Whole runs -/

/-- Costs come first among the rules, and the field is sound. -/
structure Orderly (combat : Combat) : Prop where
  stock : combat.rules.Stock
  sound : combat.field.Sound

theorem Opens.orderly (opens : combat.Opens) : combat.Orderly := by
  refine ⟨?_, opens.filled.sound⟩
  rw [opens.rules]
  exact Standard.costsFirst.stock

theorem Orderly.after (orderly : combat.Orderly) (operation : Operation) :
    (combat.after operation).Orderly := by
  refine ⟨?_, (fares_after orderly.stock operation orderly.sound).1⟩
  rw [rules_after orderly.stock]
  exact orderly.stock

/-- **A cell for each of the living.** In every state of a run everyone stands on walkable ground,
and in every state none of the living shares a cell with another one exactly if no operation of the
run brought two of them together. -/
theorem exclusive_throughout_iff (opens : combat.Opens) (operations : List Operation) :
    combat.Throughout (fun combat => combat.field.Grounded) operations ∧
      (combat.Throughout (fun combat => combat.field.Exclusive) operations ↔
        combat.Spared Collides operations) := by
  have keeps : ∀ combat operation, Orderly combat → (combat.after operation).Orderly :=
    fun _ operation orderly => orderly.after operation
  have exact : ∀ combat operation, Orderly combat → combat.field.Exclusive →
      ((combat.after operation).field.Exclusive ↔ ¬combat.Collides operation) :=
    fun _ operation orderly => (fares_after orderly.stock operation orderly.sound).2
  exact ⟨(throughout_of_keeps keeps opens.orderly operations).imp fun _ orderly =>
      orderly.sound.grounded,
    throughout_iff_spared keeps exact opens.orderly opens.filled.exclusive operations⟩

/-- When their fight has started, the two keep a cell each. -/
theorem throughout_exclusive_start :
    duel.Throughout (fun combat => combat.field.Exclusive) [.start] :=
  (exclusive_throughout_iff opens_duel [.start]).2.mpr ⟨not_false, trivial⟩

/-! ### A fallen one whose cell is taken

An attacker pays for an attack with its life, the attack comes to a contest, and a friend steps onto
the cell of the fallen. -/

/-- An attack for which the attacker gives its life. -/
def lastBlow : AttackRequest where
  attacker := ⟨1⟩
  target := ⟨2⟩
  effects := ["Cost: 40 HP"]

/-- A friend of the attacker, on its cell. -/
def cole : Combatant :=
  { Combatant.fresh ⟨3⟩ "Cole" .baseline with
    team := "red", position := ⟨1, 1⟩, initiative := some 5 }

/-- Dice by which attack and defense are equal, and the attacker loses the contest. -/
def deadlock : Dice :=
  .scripted [10, 10, 10, 10, 1, 20]

/-- The duel underway with these dice. -/
def impasse (events : List Event) : Combat :=
  { duelUnderway events with sources := .empty, dice := deadlock }

theorem rules_impasse (events : List Event) : (impasse events).rules = Standard.table := by
  simp only [impasse, rules_duelUnderway]

namespace LastBlow

/-- What the blow is made with. The rules are left open, so that nothing unfolds them. -/
def setting (rules : RuleTable) : Strike.Setting :=
  ⟨rules, .empty, lastBlow, .assess duel.field aria dorn, "Aria", "Dorn"⟩

/-- The state in which it begins to be resolved. -/
def opening : Resolution :=
  (impasse []).opening .onAttack ⟨1⟩ (some ⟨2⟩) 1

/-- The state in which it has been paid for. -/
def paid (rules : RuleTable) : Resolution :=
  ((setting rules).opened opening).charged aria 40 .hitPoints

/-- What comes of it. -/
def struck : Except Error AttackReport × Resolution :=
  Strike.followThrough (setting Standard.table) (DicePair.draw deadlock).1 (paid Standard.table)

/-- The field that it leaves. -/
def fallen : Battlefield :=
  struck.2.field.update ⟨1⟩ fun attacker => { attacker with turn.action := true }

/-- The field when the friend has come. -/
def crowded : Battlefield :=
  { fallen with roster := fallen.roster ++ [cole] }

theorem add_cole : fallen.add cole = .ok crowded :=
  add_of_free (by decide +kernel) (by decide +kernel) (by decide +kernel)

theorem clash_struck : ∃ report, struck.1 = .ok report ∧ ¬report.aborted ∧
    report.tier = some .clash := by
  have ends : struck.1.toOption.any fun report =>
      !report.aborted && report.tier == some .clash := by decide +kernel
  obtain ⟨report, ok, going⟩ := (Option.any_eq_true _ _).mp ends
  refine ⟨report, ?_, by simpa using going⟩
  rcases result : struck.1 with error | other
  · rw [result] at ok
    cases ok
  · rw [result] at ok
    exact congrArg Except.ok (Option.some.inj ok)

/-- The text of the attack is paid for, and does nothing else. -/
theorem resolveAll_setting (rules : RuleTable) : (Standard.table.resolveAll
    (setting rules).texts ((setting rules).opened opening)).2 = paid rules := by
  have texts : (setting rules).texts = ["Cost: 40 HP"] := by
    show SourceBook.empty.texts ⟨1⟩ ["Cost: 40 HP"] = ["Cost: 40 HP"]
    decide +kernel
  have found : ((setting rules).opened opening).field.find? ((setting rules).opened opening).actor
      = some aria := rfl
  rw [texts]
  exact Standard.asksFor_hitPoints.resolveAll_cons rfl rfl found []

theorem carryOut_setting {rules : RuleTable} (standard : rules = Standard.table) :
    Strike.carryOut (setting rules) opening = struck := by
  have clear : (paid rules).tally.aborted = false := by
    rw [standard]
    decide +kernel
  have asked : (rules.resolveAll (setting rules).texts ((setting rules).opened opening)).2
      = paid rules := by
    rw [← resolveAll_setting rules, standard]
  have run := Strike.carryOut_eq (setting rules) opening
  have same : (setting rules).rules = rules := rfl
  rw [same, asked] at run
  simp only [clear, Bool.false_eq_true, ↓reduceIte] at run
  rw [run, standard]
  rfl

theorem after_attack (events : List Event) : ∃ report : AttackReport,
    ¬report.aborted ∧ report.tier = some .clash ∧
    (impasse events).after (.act (.attack lastBlow)) = ({ impasse events with
      field := struck.2.field
      dice := struck.2.dice } : Combat).afterAttack lastBlow "Dorn" report := by
  obtain ⟨report, ok, going, tied⟩ := clash_struck
  have granted : (impasse events).requireAction lastBlow.attacker = .ok aria :=
    requireAction_of_turn rfl rfl rfl (by decide +kernel) rfl
  have there : (impasse events).field.require lastBlow.target = .ok dorn := require_eq_ok.mpr rfl
  have carried : Strike.carryOut (setting (impasse events).rules) opening
      = (.ok report, struck.2) :=
    (carryOut_setting (rules_impasse events)).trans (Prod.ext ok rfl)
  have run := Fight.attack_of_run granted there (by decide +kernel) carried
  rw [after_act, perform_attack, run]
  exact ⟨report, going, tied, rfl⟩

/-- The friend comes while the contest is due. -/
theorem after_join (events : List Event) :
    let after := ((impasse events).after (.act (.attack lastBlow))).after (.join cole)
    after.state = .clash ⟨⟨1⟩, ⟨2⟩, .might⟩ ∧ after.field = crowded ∧ after.dice = struck.2.dice ∧
      after.config = duel.config ∧ after.clashTable = duel.clashTable := by
  obtain ⟨report, going, tied, eq⟩ := after_attack events
  rw [eq]
  generalize isStart : ({ impasse events with
    field := struck.2.field, dice := struck.2.dice } : Combat) = start
  have state : (start.afterAttack lastBlow "Dorn" report).state = .clash ⟨⟨1⟩, ⟨2⟩, .might⟩ :=
    state_afterAttack_of_clash going tied
  have field : (start.afterAttack lastBlow "Dorn" report).field
      = start.field.update ⟨1⟩ fun attacker => { attacker with turn.action := true } :=
    field_afterAttack_of_going going
  have added : (start.afterAttack lastBlow "Dorn" report).field.add cole = .ok crowded := by
    rw [field, ← isStart]
    exact add_cole
  rw [Combat.after_join, Fight.addCombatant_of_added (by simp [isOver, state]) (by simp [state])
    added]
  refine ⟨state, rfl, ?_, ?_, ?_⟩ <;>
  · simp only [initiative, cole, afterAttack, if_neg going, checkFinished]
    split <;> rw [← isStart] <;> rfl

/-- On agility the two trade places, and the winner comes to stand where the friend does. -/
theorem exists_swapped : ∃ report scene,
    Contest.hold duel.config duel.clashTable ⟨⟨1⟩, ⟨2⟩, .might⟩ .reflexes
      { field := crowded, dice := struck.2.dice } = (.ok report, scene) ∧
    ¬scene.field.Exclusive := by
  generalize isSettled : Contest.hold duel.config duel.clashTable ⟨⟨1⟩, ⟨2⟩, .might⟩ .reflexes
    { field := crowded, dice := struck.2.dice } = settled
  have granted : settled.1.isOk := by
    rw [← isSettled]
    decide +kernel
  have shared : ¬(settled.2.field.living.map Combatant.position).Nodup := by
    rw [← isSettled]
    decide +kernel
  obtain ⟨error | report, scene⟩ := settled
  · cases granted
  · exact ⟨report, scene, rfl, shared⟩

theorem not_exclusive_swapped (events : List Event) :
    ¬(((((impasse events).after (.act (.attack lastBlow))).after (.join cole)).after
      (.act (.resolveClash (some .reflexes)))).field.Exclusive) := by
  obtain ⟨state, field, dice, config, table⟩ := after_join events
  obtain ⟨report, scene, held, shared⟩ := exists_swapped
  generalize ((impasse events).after (.act (.attack lastBlow))).after (.join cole) = crowding
    at state field dice config table ⊢
  rw [← config, ← table, ← field, ← dice] at held
  obtain ⟨more, run⟩ := Fight.resolveClash_of_run state (some .reflexes) held
  rw [after_act, perform_resolveClash, run, field_checkFinished]
  exact shared

end LastBlow

/-- Two of the living may come to share a cell. -/
theorem not_throughout_exclusive : ¬duel.Throughout (fun combat => combat.field.Exclusive)
    [.start, .supply .empty deadlock, .act (.attack lastBlow), .join cole,
      .act (.resolveClash (some .reflexes))] := by
  intro exclusive
  have last := exclusive.2.2.2.2.2
  obtain ⟨events, underway⟩ := after_start_duel
  rw [underway] at last
  exact LastBlow.not_exclusive_swapped events last

end Combat

end Skirmish
