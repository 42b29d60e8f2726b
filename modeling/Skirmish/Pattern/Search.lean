/-
**Search.** A pattern is tried at every place of a text from left to right; at the first place where
it matches, the most preferred way of matching is the answer.

* `stops` lists the places where a match that starts at a given place can end, most preferred first
  and each once. What follows a part of a pattern depends only on where that part ended, so a less
  preferred way to the same place can be dropped.
* A loop visits each place at most once, and a turn that consumes nothing ends it. Search therefore
  ends, in time polynomial in the length of the text.
-/

import Skirmish.Pattern.Basic

namespace Skirmish

/-- One way of matching: where it ended, and the named stretches on the way, latest first. -/
structure Way where
  stop : Nat
  groups : List (String × Nat × Nat)
deriving DecidableEq, Repr

namespace Way

/-- A way followed by another. -/
def andThen (first second : Way) : Way := ⟨second.stop, second.groups ++ first.groups⟩

/-- The ways that are the first to reach their place. -/
def distinct : List Way → List Way
  | [] => []
  | way :: rest => way :: (distinct rest).filter (·.stop != way.stop)

end Way

namespace Pattern

/-- The ways through further turns of a loop from place `i`, with the places already visited.
`step` lists the ways through one turn. A place can only be followed by a later one, so `fuel` need
not exceed the number of places left. -/
def turns (step : Nat → List Way) (greedy : Bool) :
    (fuel : Nat) → (i : Nat) → (seen : List Nat) → List Way × List Nat
  | 0, _, seen => ([], seen)
  | fuel + 1, i, seen =>
    if seen.contains i then ([], seen)
    else
      (step i).foldl
        (fun (found, seen) way =>
          if way.stop ≤ i then (found ++ [way], seen)
          else
            let (later, seen) := turns step greedy fuel way.stop seen
            let later := later.map way.andThen
            (found ++ (if greedy then later ++ [way] else way :: later), seen))
        ([], i :: seen)

/-- The ways in which a pattern matches from place `i`, most preferred first. -/
def stops (text : Array Char) : Pattern → Nat → List Way
  | .empty, i => [⟨i, []⟩]
  | .char set, i => if text[i]?.any set.holds then [⟨i + 1, []⟩] else []
  | .place condition, i => if condition.holds text i then [⟨i, []⟩] else []
  | .sequence first second, i =>
    Way.distinct ((first.stops text i).flatMap fun way =>
      (second.stops text way.stop).map way.andThen)
  | .either first second, i => Way.distinct (first.stops text i ++ second.stops text i)
  | .loop greedy body, i =>
    Way.distinct (turns (fun j => body.stops text j) greedy (text.size + 1 - i) i []).1
  | .group name body, i =>
    (body.stops text i).map fun way => ⟨way.stop, (name, i, way.stop) :: way.groups⟩

end Pattern

/-- What a search found. -/
structure Finding where
  /-- The matched stretch. -/
  span : String
  /-- The named stretches that took part, each name once. -/
  groups : List (String × String)
deriving DecidableEq, Repr

/-- The characters of a text between two places. -/
def stretch (text : Array Char) (start stop : Nat) : String :=
  String.ofList (text.toList.drop start |>.take (stop - start))

namespace Finding

/-- The stretch kept under a name, if that part of the pattern took part. -/
def group? (finding : Finding) (name : String) : Option String := finding.groups.lookup name

/-- The finding that a way from `start` stands for. -/
def ofWay (text : Array Char) (start : Nat) (way : Way) : Finding where
  span := stretch text start way.stop
  groups := way.groups.map fun (name, first, last) => (name, stretch text first last)

end Finding

namespace Pattern

/-- The first match at place `i` or one of the `count` places after it. -/
def searchFrom (pattern : Pattern) (text : Array Char) : (count : Nat) → (i : Nat) → Option Finding
  | count, i =>
    match pattern.stops text i with
    | way :: _ => some (.ofWay text i way)
    | [] => match count with
      | 0 => none
      | count + 1 => pattern.searchFrom text count (i + 1)

/-- The leftmost match of a pattern in a text. -/
def search (pattern : Pattern) (text : String) : Option Finding :=
  let chars := text.toList.toArray
  pattern.searchFrom chars chars.size 0

/-- A pattern matches somewhere in a text. -/
def occurs (pattern : Pattern) (text : String) : Bool := (pattern.search text).isSome

end Pattern

end Skirmish
