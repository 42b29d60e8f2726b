/-
**Reading patterns.** The written form of a pattern is the usual one of text search: literals,
escapes, bracket expressions with ranges, nesting and set operations, groups with or without a name,
flags, choices and repetitions.

* Look-around, back-references, unbalanced brackets, reversed ranges, repeated group names,
  repetitions of nothing and patterns that weigh too much are refused.
* `Pattern.parse?` reads a whole pattern; matching disregards case where its caller asks for that or
  the pattern sets the flag `i`.
-/

import Skirmish.Number
import Skirmish.Pattern.Weight
import Skirmish.Text.Hex

namespace Skirmish.Pattern

/-- What the flags of a pattern change. -/
structure Flags where
  ignoreCase : Bool := false
  multiLine : Bool := false
  dotAll : Bool := false
  swapGreed : Bool := false
  verbose : Bool := false
  returns : Bool := false
  unicode : Bool := true

/-- The part of a pattern still to be read, the flags in force and the group names so far. -/
structure Cursor where
  rest : List Char
  flags : Flags
  names : List String := []

/-- A step of reading, which may refuse the pattern. -/
abbrev Read := StateT Cursor Option

namespace Read

/-! ### Characters -/

/-- The next character. -/
def peek : Read (Option Char) := return (← get).rest.head?

/-- Pass over one character. -/
def advance : Read Unit := modify fun cursor => { cursor with rest := cursor.rest.tail }

/-- The next character, which is passed over. -/
def take : Read Char := do
  let some c ← peek | failure
  advance
  return c

/-- Pass over a text if it comes next. -/
def eat (expected : String) : Read Bool := do
  let cursor ← get
  if expected.toList.isPrefixOf cursor.rest then
    set { cursor with rest := cursor.rest.drop expected.length }
    return true
  else return false

/-- The characters without leading blanks and comments; `comment` says that one is open. -/
def dropIgnored : (comment : Bool) → List Char → List Char
  | _, [] => []
  | true, c :: rest => dropIgnored (c != '\n') rest
  | false, c :: rest =>
    if c == '#' then dropIgnored true rest
    else if Text.isBlank c then dropIgnored false rest
    else c :: rest

/-- Pass over blanks and comments, where the flags allow them. -/
def skipIgnored : Read Unit := modify fun cursor =>
  if cursor.flags.verbose then { cursor with rest := dropIgnored false cursor.rest } else cursor

/-! ### Escapes -/

/-- What an escape stands for. -/
inductive Escape where
  | char (c : Char)
  | set (set : CharClass)
  | place (place : Place)

/-- A character given by its code: `count` hexadecimal digits, or any number of them in braces. -/
def hexChar (count : Nat) : Read Char := do
  let cursor ← get
  let (digits, rest) ←
    if cursor.rest.head? == some '\x7b' then
      let inner := cursor.rest.tail
      let digits := inner.takeWhile (· != '\x7d')
      if digits.isEmpty || digits.length == inner.length then failure
      pure (digits, inner.drop (digits.length + 1))
    else
      if cursor.rest.length < count then failure
      pure (cursor.rest.take count, cursor.rest.drop count)
  let some code := Text.hexNumber? digits | failure
  if code.isValidChar then
    set { cursor with rest }
    return Char.ofNat code
  else failure

/-- The characters of words under the current flags. -/
def wordSet (flags : Flags) : CharClass := if flags.unicode then .words else .asciiWord

/-- A class or its complement. Complements need the whole of Unicode. -/
def classOr (flags : Flags) (negated : Bool) (set : CharClass) : Read Escape :=
  if !negated then return .set set
  else if flags.unicode then return .set (.outside set)
  else failure

/-- What follows the escape of a word boundary: a name in braces for one side of it. -/
def boundary (flags : Flags) : Read Escape := do
  let cursor ← get
  let word := wordSet flags
  let isNameChar := fun c : Char => c.isAlpha || c == '-'
  match cursor.rest with
  | '\x7b' :: inner =>
    match inner with
    | [] => failure
    | c :: _ =>
      if !isNameChar c then return .place (.boundary word)
      else
        let name := inner.takeWhile isNameChar
        let rest := inner.dropWhile isNameChar
        if rest.head? != some '\x7d' then failure
        set { cursor with rest := rest.tail }
        match String.ofList name with
        | "start" => return .place (.wordStart word)
        | "end" => return .place (.wordEnd word)
        | "start-half" => return .place (.noWordBefore word)
        | "end-half" => return .place (.noWordAfter word)
        | _ => failure
  | _ => return .place (.boundary word)

/-- An escape, after its backslash. -/
def escape : Read Escape := do
  let flags := (← get).flags
  let c ← take
  let decimals := if flags.unicode then .digits else .asciiDigit
  let spaces := if flags.unicode then .blanks else .asciiBlank
  match c with
  | 'x' => return .char (← hexChar 2)
  | 'u' => return .char (← hexChar 4)
  | 'U' => return .char (← hexChar 8)
  | 'd' => classOr flags false decimals
  | 'D' => classOr flags true decimals
  | 's' => classOr flags false spaces
  | 'S' => classOr flags true spaces
  | 'w' => classOr flags false (wordSet flags)
  | 'W' => classOr flags true (wordSet flags)
  | 'a' => return .char '\x07'
  | 'f' => return .char '\x0c'
  | 't' => return .char '\t'
  | 'n' => return .char '\n'
  | 'r' => return .char '\r'
  | 'v' => return .char '\x0b'
  | 'A' => return .place .textStart
  | 'z' => return .place .textEnd
  | 'b' => boundary flags
  | 'B' => return .place (.inside (wordSet flags))
  | '<' => return .place (.wordStart (wordSet flags))
  | '>' => return .place (.wordEnd (wordSet flags))
  | _ => if c.toNat < 128 && !c.isAlphanum then return .char c else failure

/-! ### Bracket expressions -/

/-- An operation between the parts of a bracket expression. -/
inductive SetOperation where
  | intersection
  | difference
  | symmetricDifference

/-- A class under the current rule for case. -/
def cased (flags : Flags) (set : CharClass) : CharClass :=
  if flags.ignoreCase then
    if flags.unicode then .anyCase set else .both (.anyCase set) .ascii
  else set

/-- The class of one literal character under the current rule for case. -/
def literal (flags : Flags) (c : Char) : CharClass :=
  if flags.unicode || c.toNat < 128 then cased flags (.single c) else .single c

/-- Join what was read to the operation that waited for it. -/
def joined (flags : Flags) (waiting : Option (SetOperation × CharClass)) (right : CharClass) :
    CharClass :=
  match waiting with
  | none => right
  | some (.intersection, left) => .both (cased flags left) (cased flags right)
  | some (.difference, left) => (cased flags left).without (cased flags right)
  | some (.symmetricDifference, left) => (cased flags left).oneOf (cased flags right)

/-- A finished bracket expression. -/
def finished (flags : Flags) (negated : Bool) (set : CharClass) : Read CharClass :=
  if !negated then return cased flags set
  else if flags.unicode then return .outside (cased flags set)
  else failure

/-- A named class such as the letters, if one comes next. -/
def namedClass? : Read (Option CharClass) := do
  let cursor ← get
  match cursor.rest with
  | '[' :: ':' :: inner =>
    let negated := inner.head? == some '^'
    let inner := if negated then inner.tail else inner
    let name := inner.takeWhile (· != ':')
    match inner.drop name.length, CharClass.named? (String.ofList name) with
    | ':' :: ']' :: rest, some set =>
      StateT.set { cursor with rest }
      return some (if negated then .outside set else set)
    | _, _ => return none
  | _ => return none

/-- What opens a bracket expression, after the bracket: a caret for the complement, and the hyphens
or the closing bracket that stand for themselves there. -/
def opening : Read (Bool × CharClass) := do
  skipIgnored
  let negated ← eat "^"
  if negated then skipIgnored
  let hyphens := (← get).rest.takeWhile (· == '-')
  modify fun cursor => { cursor with rest := cursor.rest.drop hyphens.length }
  skipIgnored
  if !hyphens.isEmpty then return (negated, .single '-')
  else if ← eat "]" then return (negated, .single ']')
  else return (negated, .nothing)

/-- One member of a bracket expression. -/
def member : Read Escape := do
  let c ← take
  if c != '\\' then return .char c
  match ← escape with
  | .place _ => failure
  | item => return item

/-- A member or a range of a bracket expression. -/
def memberOrRange : Read CharClass := do
  let first ← member
  skipIgnored
  let cursor ← get
  let ranged := match cursor.rest with
    | '-' :: after =>
      let after := if cursor.flags.verbose then dropIgnored false after else after
      after.head? != some ']' && after.head? != some '-'
    | _ => false
  if !ranged then
    match first with
    | .char c => return .single c
    | .set set => return set
    | .place _ => failure
  else
    advance
    skipIgnored
    match first, ← member with
    | .char low, .char high => if low ≤ high then return .between low high else failure
    | _, _ => failure

/-- The rest of a bracket expression, whose parts so far are in `items`. Every turn passes over a
character, so `fuel` need not exceed their number. -/
def members : (fuel : Nat) → Option (SetOperation × CharClass) → (items : CharClass) →
    Read CharClass
  | 0, _, _ => failure
  | fuel + 1, waiting, items => do
    skipIgnored
    let flags := (← get).flags
    match (← get).rest with
    | [] => failure
    | '[' :: _ =>
      match ← namedClass? with
      | some set => members fuel waiting (.union items set)
      | none =>
        advance
        let (negated, first) ← opening
        let inner ← members fuel none first
        let inner ← finished flags negated inner
        members fuel waiting (.union items inner)
    | ']' :: _ =>
      advance
      return joined flags waiting items
    | '&' :: '&' :: _ =>
      advance; advance
      members fuel (some (.intersection, joined flags waiting items)) .nothing
    | '-' :: '-' :: _ =>
      advance; advance
      members fuel (some (.difference, joined flags waiting items)) .nothing
    | '~' :: '~' :: _ =>
      advance; advance
      members fuel (some (.symmetricDifference, joined flags waiting items)) .nothing
    | _ =>
      let item ← memberOrRange
      members fuel waiting (.union items item)

/-- A bracket expression, after its bracket. -/
def bracket : Read CharClass := do
  let (negated, first) ← opening
  let cursor ← get
  let set ← members (cursor.rest.length + 1) none first
  finished cursor.flags negated set

/-! ### Repetition -/

/-- A number in the bounds of a repetition. -/
def bound : Read (Option Nat) := do
  let cursor ← get
  let rest := cursor.rest.dropWhile Text.isBlank
  let digits := rest.takeWhile (·.isDigit)
  let value := digits.foldl (fun value c => 10 * value + (c.toNat - 48)) 0
  set { cursor with rest := (rest.drop digits.length).dropWhile Text.isBlank }
  if digits.isEmpty then return none
  else if value ≤ greatestNat then return some value
  else failure

/-- The bounds of a counted repetition, after their brace. -/
def bounds : Read (Nat × Option Nat) := do
  skipIgnored
  let some low ← bound | failure
  let high ←
    if ← eat "," then
      skipIgnored
      if (← peek) == some '\x7d' then pure none
      else
        let some high ← bound | failure
        pure (some high)
    else pure (some low)
  if (← take) != '\x7d' then failure
  match high with
  | some high => if low ≤ high then return (low, some high) else failure
  | none => return (low, none)

/-- The repetition is greedy: no question mark follows, unless the flags turn that round. -/
def greed : Read Bool := do
  let reluctant ← eat "?"
  return reluctant == (← get).flags.swapGreed

/-- A counted repetition, refused when its copies weigh too much. One copy is enough of a part that
consumes nothing. -/
def repetition (greedy : Bool) (low : Nat) (high : Option Nat) (part : Pattern) : Read Pattern :=
  if part.isEmptyOnly then return counted greedy (min low 1) (some (min (high.getD 1) 1)) part
  else if high.getD low * part.weight ≤ mostWeight then return counted greedy low high part
  else failure

/-- The repetitions that follow a part of a pattern. -/
def repeats : (fuel : Nat) → Pattern → Read Pattern
  | 0, part => return part
  | fuel + 1, part => do
    skipIgnored
    match ← peek with
    | some '*' => advance; repeats fuel (star (← greed) part)
    | some '+' => advance; repeats fuel (.loop (← greed) part)
    | some '?' => advance; repeats fuel (optional (← greed) part)
    | some '\x7b' =>
      advance
      let (low, high) ← bounds
      repeats fuel (← repetition (← greed) low high part)
    | _ => return part

/-! ### Groups and choices -/

/-- One flag switched on or off. -/
def Flags.switch? (flags : Flags) (on : Bool) : Char → Option Flags
  | 'i' => some { flags with ignoreCase := on }
  | 'm' => some { flags with multiLine := on }
  | 's' => some { flags with dotAll := on }
  | 'U' => some { flags with swapGreed := on }
  | 'u' => some { flags with unicode := on }
  | 'R' => some { flags with returns := on }
  | 'x' => some { flags with verbose := on }
  | _ => none

/-- The flags that a group opens with, up to their colon or closing bracket, with that character.
`seen` holds the flags so far and `fresh` says that a minus sign came last. -/
def flagList : (fuel : Nat) → Flags → (on fresh : Bool) → (seen : List Char) →
    Read (Flags × Char × Bool)
  | 0, _, _, _, _ => failure
  | fuel + 1, flags, on, fresh, seen => do
    let c ← take
    if c == ':' || c == ')' then
      if fresh then failure
      return (flags, c, seen.isEmpty)
    else if seen.contains c then failure
    else if c == '-' then flagList fuel flags false true (c :: seen)
    else match Flags.switch? flags on c with
      | some flags => flagList fuel flags on false (c :: seen)
      | none => failure

/-- The name of a group, after its opening angle. -/
def groupName : Read String := do
  let cursor ← get
  let name := cursor.rest.takeWhile (· != '>')
  let starts := fun c : Char => c == '_' || (Text.isWord c && !Text.isDecimal c)
  let continues := fun c : Char =>
    c == '_' || c == '.' || c == '[' || c == ']' || Text.isWord c
  match name with
  | [] => failure
  | c :: rest =>
    if !starts c || !rest.all continues || name.length == cursor.rest.length then failure
    let name := String.ofList name
    if cursor.names.contains name then failure
    set { cursor with rest := cursor.rest.drop (rest.length + 2), names := name :: cursor.names }
    return name

/-- What the opening bracket of a group leads to. -/
inductive Opening where
  /-- A group, named or not. -/
  | group (name : Option String)
  /-- Flags for what follows. -/
  | flags (flags : Flags)

/-- The head of a group, after its bracket. The flags of the group itself come into force. -/
def groupHead : Read Opening := do
  skipIgnored
  for look in ["?=", "?!", "?<=", "?<!"] do
    if ← eat look then failure
  if ← eat "?P<" then return .group (some (← groupName))
  else if ← eat "?<" then return .group (some (← groupName))
  else if ← eat "?" then
    let cursor ← get
    let (flags, last, noFlags) ← flagList (cursor.rest.length + 1) cursor.flags true false []
    if last == ':' then
      modify fun cursor => { cursor with flags }
      return .group none
    else if noFlags then failure
    else return .flags flags
  else return .group none

/-- A part of a pattern that is neither a group nor a repetition, from its first character. -/
def plain (c : Char) : Read Pattern := do
  let flags := (← get).flags
  match c with
  | '[' => return .char (← bracket)
  | '.' =>
    if !flags.unicode then failure
    else if flags.dotAll then return .char (.outside .nothing)
    else if flags.returns then return .char (.outside (.spans [⟨10, 10⟩, ⟨13, 13⟩]))
    else return .char (.outside (.single '\n'))
  | '^' => return .place (if flags.multiLine then .lineStart flags.returns else .textStart)
  | '$' => return .place (if flags.multiLine then .lineEnd flags.returns else .textEnd)
  | '\\' =>
    match ← escape with
    | .char c => return .char (literal flags c)
    | .set set => return .char set
    | .place condition => return .place condition
  | _ => return .char (literal flags c)

/-- The parts of a sequence, latest first, as one pattern. -/
def sequenceOf : List Pattern → Pattern
  | [] => .empty
  | [part] => part
  | part :: rest => .sequence (sequenceOf rest) part

/-- The choices, latest first, as one pattern. -/
def choiceOf (last : Pattern) (choices : List Pattern) : Pattern :=
  choices.foldl (fun later choice => .either choice later) last

/-- The body of a pattern or group up to its end, given the choices and the parts of the current
sequence so far, latest first. -/
def body : (fuel : Nat) → (choices parts : List Pattern) → Read Pattern
  | 0, _, _ => failure
  | fuel + 1, choices, parts => do
    skipIgnored
    let cursor ← get
    match cursor.rest with
    | [] | ')' :: _ => return choiceOf (sequenceOf parts) choices
    | '|' :: _ =>
      advance
      body fuel (sequenceOf parts :: choices) []
    | '*' :: _ | '+' :: _ | '?' :: _ | '\x7b' :: _ => failure
    | '(' :: _ =>
      advance
      match ← groupHead with
      | .flags flags =>
        modify fun cursor => { cursor with flags }
        body fuel choices parts
      | .group name =>
        let inner ← body fuel [] []
        if !(← eat ")") then failure
        modify fun later => { later with flags := cursor.flags }
        let part := match name with
          | some name => .group name inner
          | none => inner
        let part ← repeats cursor.rest.length part
        body fuel choices (part :: parts)
    | c :: _ =>
      advance
      let part ← plain c
      let part ← repeats cursor.rest.length part
      body fuel choices (part :: parts)

end Read

/-- Read a pattern, or refuse it. -/
def parse? (ignoreCase : Bool) (text : String) : Option Pattern := do
  let chars := text.toList
  let start : Cursor := { rest := chars, flags := { ignoreCase } }
  let (pattern, stop) ← (Read.body (2 * chars.length + 1) [] []).run start
  if stop.rest.isEmpty && pattern.weight ≤ mostWeight then some pattern else none

end Skirmish.Pattern
