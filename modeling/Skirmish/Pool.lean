/-
**Resource pools.** A combatant has four pools: hit points, composure, stamina and focus. Each holds
a current value between zero and a maximum, which three stats determine.

* `Gauge.adjust` moves a value and stops at either end.
* `Gauge.spend?` takes the whole amount or nothing.
-/

import Skirmish.Number
import Skirmish.Stat

namespace Skirmish

/-- The four pools. -/
inductive Pool where
  | hitPoints
  | composure
  | stamina
  | focus
deriving DecidableEq, Repr

namespace Pool

/-- All pools. -/
def all : List Pool := [hitPoints, composure, stamina, focus]

theorem mem_all (pool : Pool) : pool ∈ all := by cases pool <;> simp [all]

/-- The short name of a pool in effect text. -/
def tag : Pool → String
  | hitPoints => "HP"
  | composure => "CMP"
  | stamina => "SP"
  | focus => "FP"

/-- What the maximum of a pool starts from. -/
def base : Pool → Int
  | hitPoints | composure => 10
  | stamina | focus => 0

/-- The stats that feed the maximum of a pool. -/
def formula : Pool → List Stat
  | hitPoints => [.might, .reflexes, .vitality]
  | composure => [.willpower, .logic, .awareness]
  | stamina => [.endurance, .finesse, .fortitude]
  | focus => [.knowledge, .charm, .intuition]

/-- The maximum of a pool under given scores. -/
def maximumFor (pool : Pool) (attributes : Attributes) : Int :=
  max (wrap (pool.base + attributes.sum pool.formula)) 0

/-- The flag that the owner of an empty pool carries. -/
def depletedFlag : Pool → String
  | hitPoints => "dying"
  | composure => "broken"
  | stamina => "exhausted"
  | focus => "drained"

/-- A text as the name of a pool is looked up. -/
def lookupName (text : String) : String := Text.asciiLower (Text.trim text)

/-- The pool whose tag or long name a text is, but for blanks around it and ASCII case. -/
def parse? (text : String) : Option Pool :=
  match lookupName text with
  | "hp" | "hit points" | "health" => some hitPoints
  | "cmp" | "composure" => some composure
  | "sp" | "stamina" => some stamina
  | "fp" | "focus" | "mana" => some focus
  | _ => none

end Pool

/-- The state of a pool. -/
structure Gauge where
  current : Int
  maximum : Int
deriving DecidableEq, Repr

namespace Gauge

/-- A full pool. -/
def full (maximum : Int) : Gauge := ⟨max maximum 0, max maximum 0⟩

/-- A pool that starts at a given value, moved into range. -/
def startingAt (current maximum : Int) : Gauge :=
  ⟨clamp 0 (max maximum 0) current, max maximum 0⟩

/-- The pool with its value moved by `delta`, as far as the ends allow. -/
def adjust (gauge : Gauge) (delta : Int) : Gauge :=
  { gauge with current := clamp 0 gauge.maximum (saturatingAdd gauge.current delta) }

/-- The pool after a loss. -/
def drain (gauge : Gauge) (amount : Int) : Gauge := gauge.adjust (-max amount 0)

/-- The pool after a gain. -/
def restore (gauge : Gauge) (amount : Int) : Gauge := gauge.adjust (max amount 0)

/-- The pool after a payment, if it covers the whole of it. -/
def spend? (gauge : Gauge) (amount : Int) : Option Gauge :=
  if amount < 0 ∨ gauge.current < amount then none
  else some { gauge with current := gauge.current - amount }

/-- The pool with another maximum, its value moved into the new range. -/
def setMaximum (gauge : Gauge) (maximum : Int) : Gauge :=
  ⟨min gauge.current (max maximum 0), max maximum 0⟩

/-- Nothing is left. -/
def isEmpty (gauge : Gauge) : Bool := gauge.current == 0

/-- Nothing is missing. -/
def isFull (gauge : Gauge) : Bool := gauge.maximum ≤ gauge.current

/-- The two numbers as they are shown. -/
def text (gauge : Gauge) : String := s!"{gauge.current}/{gauge.maximum}"

end Gauge

/-- The pools of a combatant. -/
structure Pools where
  hitPoints : Gauge
  composure : Gauge
  stamina : Gauge
  focus : Gauge
deriving DecidableEq, Repr

namespace Pools

/-- Full pools under given scores. -/
def ofAttributes (attributes : Attributes) : Pools where
  hitPoints := .full (Pool.hitPoints.maximumFor attributes)
  composure := .full (Pool.composure.maximumFor attributes)
  stamina := .full (Pool.stamina.maximumFor attributes)
  focus := .full (Pool.focus.maximumFor attributes)

/-- One of the pools. -/
def get (pools : Pools) : Pool → Gauge
  | .hitPoints => pools.hitPoints
  | .composure => pools.composure
  | .stamina => pools.stamina
  | .focus => pools.focus

/-- The pools with one of them replaced. -/
def set (pools : Pools) (pool : Pool) (gauge : Gauge) : Pools :=
  match pool with
  | .hitPoints => { pools with hitPoints := gauge }
  | .composure => { pools with composure := gauge }
  | .stamina => { pools with stamina := gauge }
  | .focus => { pools with focus := gauge }

@[simp] theorem get_set (pools : Pools) (pool other : Pool) (gauge : Gauge) :
    (pools.set pool gauge).get other = if other = pool then gauge else pools.get other := by
  cases pool <;> cases other <;> rfl

end Pools

end Skirmish
