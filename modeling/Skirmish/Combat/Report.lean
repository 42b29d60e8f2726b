/-
**What combatants can do on their turn**, and what comes of it.
-/

import Skirmish.Attack.Tactics
import Skirmish.Attack.Tier
import Skirmish.Clash
import Skirmish.Damage.Delivery

namespace Skirmish

/-! ### Wishes -/

/-- An attack to be made: might against reflexes unless told otherwise. -/
structure AttackRequest where
  attacker : CombatantId
  target : CombatantId
  /-- The stat the attacker rolls with. -/
  stat : Stat := .might
  /-- The stat the defender rolls with. -/
  defenseStat : Stat := .reflexes
  /-- A weapon or skill whose rank counts. -/
  skill : Option String := none
  /-- The texts of the weapon or maneuver. -/
  effects : List String := []
  tier : Nat := 1
deriving DecidableEq, Repr

/-- An ability to be used. -/
structure Activation where
  actor : CombatantId
  target : Option CombatantId := none
  name : String
  effects : List String := []
  tier : Nat := 1
deriving DecidableEq, Repr

/-- Something to be done. -/
inductive CombatAction where
  | attack (request : AttackRequest)
  | activate (activation : Activation)
  | move (actor : CombatantId) (goal : Cell)
  | resolveClash (stat : Option Stat)
  | endTurn
deriving DecidableEq, Repr

/-- An action as it is shown. -/
def CombatAction.text : CombatAction → String
  | .attack _ => "Attack"
  | .activate activation => s!"Use {activation.name}"
  | .move _ goal => s!"Move to {goal.text}"
  | .resolveClash (some stat) => s!"Resolve clash on {stat.name}"
  | .resolveClash none => "Resolve clash"
  | .endTurn => "End turn"

/-! ### Reports -/

/-- A stage of an attack. -/
inductive AttackPhase where
  | idle
  | rollAttack
  | resolveAttackHooks
  | rollDefense
  | resolveDefenseHooks
  | outcome (tier : AttackTier)
deriving DecidableEq, Repr

/-- The roll of one side. -/
structure RollLine where
  dice : DicePair
  mode : RollMode
  /-- The face that counts. -/
  natural : Nat
  total : Int
deriving DecidableEq, Repr

/-- How an attack went. What was not reached is absent. -/
structure AttackReport where
  attacker : CombatantId
  target : CombatantId
  phases : List AttackPhase
  tactics : Tactics
  attack : Option RollLine := none
  defense : Option RollLine := none
  margin : Option Int := none
  tier : Option AttackTier := none
  damage : DamageReport := {}
  /-- The name of an injury. -/
  injury : Option String := none
  /-- A cost could not be paid. -/
  aborted : Bool := false
  faults : List Fault := []
  log : List String := []
deriving DecidableEq, Repr

/-- The attack dealt damage. -/
def AttackReport.landed (report : AttackReport) : Bool := report.tier.any (·.lands)

/-- How an ability went. -/
structure ActivationReport where
  actor : CombatantId
  target : Option CombatantId
  name : String
  /-- How many texts made a rule fire. -/
  matched : Nat
  aborted : Bool
  damage : DamageReport
  faults : List Fault
  log : List String
deriving DecidableEq, Repr

/-- How a move went. -/
structure MoveReport where
  actor : CombatantId
  start : Cell
  stop : Cell
  cells : Nat
  log : List String
deriving DecidableEq, Repr

/-- What happened until the next turn began. -/
structure TurnReport where
  round : Nat := 0
  /-- Whose turn it is now, if anybody is left. -/
  actor : Option CombatantId := none
  newRound : Bool := false
  log : List String := []
deriving DecidableEq, Repr

/-- What came of an action. -/
inductive ActionOutcome where
  | attack (report : AttackReport)
  | activation (report : ActivationReport)
  | moved (report : MoveReport)
  | clash (report : ClashReport)
  | turnEnded (report : TurnReport)
deriving DecidableEq, Repr

/-- An entry of the record of a fight. -/
structure Event where
  round : Nat
  actor : Option CombatantId
  /-- What was done. -/
  action : String
  tier : Option AttackTier
  lines : List String
deriving DecidableEq, Repr

end Skirmish
