/-
**The constants of a fight**: where tiers begin, what a critical blow needs, how long conditions
last and how far combatants move, with their usual values.
-/

import Skirmish.Dice.Formula

namespace Skirmish

/-- Who wins a tied clash. -/
inductive TiePolicy where
  /-- The combatant that started it. -/
  | attackerWins
  /-- Both roll again. -/
  | reroll
deriving DecidableEq, Repr

/-- The margins at which an attack that beats the defense grazes or hits. -/
structure MarginThresholds where
  /-- The greatest margin that still grazes. -/
  grazeMax : Int := 2
  /-- The greatest margin that is still a plain hit. -/
  hitMax : Int := 9
deriving DecidableEq, Repr

/-- The constants of a fight. -/
structure Config where
  /-- The seed of the dice. -/
  seed : Nat := 42
  thresholds : MarginThresholds := {}
  /-- The face from which on an attack is critical. -/
  critThreshold : Nat := 20
  /-- The rounds of a condition whose text names none. -/
  defaultStatusRounds : Nat := 1
  /-- The difficulty of a saving throw whose text names none. -/
  defaultSaveDifficulty : Int := 12
  /-- The composure that a graze costs. -/
  grazeComposure : Int := 1
  /-- The composure that a lost clash of vitality costs. -/
  clashDamage : Int := 2
  clashTie : TiePolicy := .attackerWins
  /-- How deep reflected and chained damage may nest. -/
  maxChainDepth : Nat := 1
  /-- The cells of one move. -/
  movementCells : Nat := 6
  /-- The feet of one cell. -/
  feetPerCell : Nat := 5
  /-- Damage by tier, for damage text without dice. -/
  tierDamage : List DiceFormula :=
    [.dice 1 .d4, .dice 1 .d6, .dice 2 .d6, .dice 3 .d6, .dice 4 .d6]
  /-- The damage of an attack without damage text. -/
  unarmedDamage : DiceFormula := .dice 1 .d4
deriving DecidableEq, Repr

namespace Config

instance : Inhabited Config := ⟨{}⟩

/-- A distance in whole cells, at least one unless it is zero. -/
def feetToCells (config : Config) (feet : Nat) : Nat :=
  if feet = 0 then 0 else max (feet / max config.feetPerCell 1) 1

/-- The damage of a tier. Tiers count from one; those outside the table take its nearest end. -/
def damageForTier (config : Config) (tier : Nat) : DiceFormula :=
  (config.tierDamage[min (max tier 1 - 1) (config.tierDamage.length - 1)]?).getD
    config.unarmedDamage

end Config

end Skirmish
