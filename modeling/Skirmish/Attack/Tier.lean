/-
**Tiers of an attack.** The margin by which an attack beats the defense decides how it lands.

* A tie always clashes, whatever the die shows.
* A face from the critical threshold on is critical at any other margin.
-/

import Skirmish.Config

namespace Skirmish

/-- How an attack lands. -/
inductive AttackTier where
  /-- It falls short. -/
  | miss
  /-- It only shakes the defender. -/
  | graze
  | hit
  /-- It counts twice and injures. -/
  | crit
  /-- It is tied and leads to a contest. -/
  | clash
deriving DecidableEq, Repr

namespace AttackTier

/-- The tier deals damage. -/
def lands : AttackTier → Bool
  | hit | crit => true
  | _ => false

/-- A tier as it is shown. -/
def text : AttackTier → String
  | miss => "Miss"
  | graze => "Graze"
  | hit => "Hit"
  | crit => "Crit"
  | clash => "Clash"

/-- The tier of a margin and the face that was kept. -/
def classify (margin : Int) (natural critThreshold : Nat) (thresholds : MarginThresholds) :
    AttackTier :=
  if margin = 0 then clash
  else if critThreshold ≤ natural ∨ thresholds.hitMax < margin then crit
  else if margin < 0 then miss
  else if margin ≤ thresholds.grazeMax then graze
  else hit

end AttackTier

/-- The margin that counts: an attack that cannot miss has at least one. -/
def effectiveMargin (margin : Int) (autoHit : Bool) : Int :=
  if autoHit then max margin 1 else margin

theorem classify_eq_clash_iff (margin : Int) (natural critThreshold : Nat)
    (thresholds : MarginThresholds) :
    AttackTier.classify margin natural critThreshold thresholds = .clash ↔ margin = 0 := by
  unfold AttackTier.classify
  by_cases tie : margin = 0
  · simp [tie]
  · simp only [tie, ↓reduceIte, iff_false]
    split
    · simp
    · split
      · simp
      · split <;> simp

end Skirmish
