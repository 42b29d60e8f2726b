/-
**Turns.** A turn begins with the hazard underfoot; where a new round begins, everyone's conditions
then lose a round. Turns go to the living, in order.

* `Combat.seek` walks the order from the current slot to the first combatant that can begin its
  turn.
-/

import Skirmish.Combat.Basic

namespace Skirmish

namespace Combat

/-! ### The beginning of a turn -/

/-- What the hazard on a cell does to whoever stands there: lines, and the combatant afterwards. -/
def suffer (combatant : Combatant) : Option Hazard → List String × Combatant
  | none => ([], combatant)
  | some hazard =>
    let defenses := Defenses.ofConditions combatant (some hazard.damageType)
    let after := combatant.takeDamage (mitigate hazard.damage defenses true false)
    let lost := combatant.lost after .hitPoints
    let line :=
      s!"{combatant.name} takes {lost} {hazard.damageType} damage from the " ++
        s!"{Text.lowercase hazard.name} underfoot!"
    (line :: if after.isAlive then [] else [s!"{combatant.name} falls!"], after)

/-- One round off everyone's conditions: lines, and the combatant afterwards. -/
def grow (combatant : Combatant) : List String × Combatant :=
  (combatant.conditions.expiring.map fun condition =>
      s!"{combatant.name} is no longer {condition.name}.",
    combatant.tickConditions)

/-- One round off the conditions of the living. -/
def tickRound (combat : Combat) : List String × Combat :=
  (combat.field.living.flatMap fun combatant => (grow combatant).1,
    { combat with
      field.roster := combat.field.roster.map fun combatant =>
        if combatant.isAlive then (grow combatant).2 else combatant })

/-- The lines with which a living combatant begins its turn. -/
def greeting (round : Nat) (combatant : Combatant) : List String :=
  s!"Round {round}: {combatant.name}'s turn." ::
    if combatant.isIncapacitated then [s!"{combatant.name} cannot act this turn."] else []

/-- Begin the turn of a combatant. -/
def beginTurn (combat : Combat) (id : CombatantId) (tickDue : Bool) : List String × Combat :=
  match combat.field.find? id with
  | none => ([], combat)
  | some combatant =>
    let (hurt, after) := suffer combatant (combat.field.terrain.hazard? combatant.position)
    let combat := { combat with field := combat.field.update id fun _ => after }
    let (ticked, combat) := if tickDue then combat.tickRound else ([], combat)
    match combat.field.find? id with
    | none => (hurt ++ ticked, combat)
    | some combatant =>
      if combatant.isAlive then
        (hurt ++ ticked ++ greeting combat.round combatant.resetTurn,
          { combat with field := combat.field.update id (·.resetTurn) })
      else (hurt ++ ticked, combat)

/-! ### Whose turn comes next -/

/-- The fight at its next slot, which may begin a new round. -/
def advance (combat : Combat) : Combat :=
  { combat with
    order := combat.order.advance
    round := if combat.order.wraps then combat.round + 1 else combat.round }

/-- Walk on from the current slot, over at most `fuel` slots, until a combatant has begun its turn.
`tickDue` says that the round is new and conditions still have to lose it. -/
def seek : (fuel : Nat) → Combat → TurnReport → (tickDue : Bool) → TurnReport × Combat
  | 0, combat, report, _ => (report, combat)
  | fuel + 1, combat, report, tickDue =>
    let onward := fun (combat : Combat) (report : TurnReport) (tickDue : Bool) =>
      let wraps := combat.order.wraps
      seek fuel combat.advance { report with newRound := report.newRound || wraps }
        (tickDue || wraps)
    match combat.order.current? with
    | none => onward combat report tickDue
    | some id =>
      if combat.isAlive id then
        let (lines, combat) := combat.beginTurn id tickDue
        let report := { report with log := report.log ++ lines }
        if combat.isAlive id then ({ report with actor := some id }, combat)
        else onward combat report false
      else onward combat report tickDue

/-- Find whose turn it is, starting from the current slot. -/
def seekActor (combat : Combat) (tickDue : Bool) : TurnReport × Combat :=
  let (report, combat) := combat.seek (combat.order.slots.length + 1) {} tickDue
  ({ report with round := combat.round }, combat)

/-! ### Initiative -/

/-- Roll the initiative of a combatant, unless it is fixed. -/
def initiative (combat : Combat) (combatant : Combatant) : Int × Combat :=
  match combatant.initiative with
  | some score => (score, combat)
  | none =>
    let (face, dice) := combat.dice.draw 20
    (face + combatant.modifier .reflexes, { combat with dice })

/-- The slots of some combatants. -/
def rollSlots (combat : Combat) : List Combatant → List Slot × Combat
  | [] => ([], combat)
  | combatant :: rest =>
    let (score, combat) := combat.initiative combatant
    let (slots, combat) := combat.rollSlots rest
    (⟨combatant.id, score⟩ :: slots, combat)

/-- The line that tells the order. -/
def initiativeLine (combat : Combat) : String :=
  let shown := combat.order.slots.filterMap fun slot =>
    (combat.field.find? slot.combatant).map fun combatant => s!"{combatant.name} ({slot.score})"
  "Initiative: " ++ ", ".intercalate shown ++ "."

end Combat

namespace Fight

/-- A combatant joins. After the start it goes to the end of the order. -/
def addCombatant (combatant : Combatant) : Fight CombatantId := do
  if (← get).isOver then throw .combatOver
  let field ← settle ((← get).field.add combatant)
  modify fun combat => { combat with field }
  if (← get).state != .setup then
    let score ← modifyGet fun combat => combat.initiative combatant
    modify fun combat => { combat with order := combat.order.push combatant.id score }
  return combatant.id

/-- Roll for initiative and begin the first round. -/
def start : Fight TurnReport := do
  let combat ← get
  if combat.state != .setup then throw .alreadyStarted
  if combat.field.roster.isEmpty then throw .noCombatants
  let (slots, combat) := combat.rollSlots combat.field.roster
  let combat := { combat with order := .ofSlots slots, round := 1, state := .active }
  let (report, combat) := combat.seekActor false
  let report := { report with log := combat.initiativeLine :: report.log }
  set (combat.record none "Start" none report.log).checkFinished
  return report

/-- End the current turn and find whose comes next. -/
def endTurn : Fight TurnReport := do
  let combat ← get
  settle combat.requireRunning
  let actor := combat.order.current?
  let wraps := combat.order.wraps
  let (report, combat) := combat.advance.seekActor wraps
  let report := { report with newRound := report.newRound || wraps }
  set (combat.record actor CombatAction.endTurn.text none report.log).checkFinished
  return report

end Fight

end Skirmish
