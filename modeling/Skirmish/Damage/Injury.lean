/-
**Injuries.** A critical hit leaves an injury, which a six-sided die picks.
-/

import Skirmish.Resolution

namespace Skirmish

/-- An injury and the condition that comes with it. -/
structure Injury where
  /-- The face that picks it. -/
  face : Nat
  name : String
  condition : String
  rounds : Nat
  flag : Option String
deriving DecidableEq, Repr

namespace Injury

/-- The injury of a face. -/
def ofFace (face : Nat) : Injury :=
  match face with
  | 0 | 1 => ⟨1, "Winded", "Slowed", 1, none⟩
  | 2 => ⟨2, "Gashed", "Bleeding", 2, none⟩
  | 3 => ⟨3, "Staggered", "Prone", 1, none⟩
  | 4 => ⟨4, "Dazed", "Frightened", 1, none⟩
  | 5 => ⟨5, "Concussed", "Stunned", 1, some "stunned"⟩
  | _ => ⟨6, "Maimed", "Restrained", 2, none⟩

/-- Draw an injury. -/
def draw (dice : Dice) : Injury × Dice :=
  let (face, dice) := dice.draw 6
  (ofFace face, dice)

/-- Injure a combatant and tell of it. -/
def inflict (injury : Injury) (who : CombatantId) : Resolve Unit := do
  let victim ← Resolve.require who
  Resolve.replace (victim.addCondition injury.condition (.rounds injury.rounds) injury.flag)
  Resolve.narrate
    (s!"Critical injury: {victim.name} is {injury.name} " ++
      s!"({injury.condition} for {injury.rounds} round(s))!")

end Injury

end Skirmish
