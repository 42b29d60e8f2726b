/-
**Hooks**: the points of an action at which effect text is resolved.
-/

namespace Skirmish

/-- A point of an action. -/
inductive Hook where
  /-- An ability is used outside an attack. -/
  | activate
  /-- The attacker's texts, before its total is known. -/
  | onAttack
  /-- The defender's texts, before its total is known. -/
  | onDefend
  /-- The attacker's texts, once the attack has landed. -/
  | onHit
deriving DecidableEq, Repr

namespace Hook

/-- All hooks. -/
def all : List Hook := [activate, onAttack, onDefend, onHit]

/-- A hook as it is written. -/
def text : Hook → String
  | activate => "ACTIVATE"
  | onAttack => "ON_ATTACK"
  | onDefend => "ON_DEFEND"
  | onHit => "ON_HIT"

end Hook

end Skirmish
