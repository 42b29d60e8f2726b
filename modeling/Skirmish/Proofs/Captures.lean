/-
**What patterns keep under names.** Whatever a way of matching keeps under a name was matched by a part
of the pattern with that name (`mem_named_of_mem_groups`), also in the turns of a loop. Where such parts
are runs of digits (`numeric`), what they keep can only be read as a number that is not negative:

* `Finding.Counted`, `counted_of_numeric`: a finding with nothing but digits under its names;
* `Firing.nonneg_of_int?`, `Firing.nonneg_of_intOr`: the numbers that a rule reads in it.
-/

import Skirmish.Proofs.Prices
import Skirmish.Proofs.Rows

namespace Skirmish

open Relation

namespace Pattern

/-! ### Named parts -/

/-- The named parts of a pattern. -/
def named : Pattern → List (String × Pattern)
  | .empty | .char _ | .place _ => []
  | .sequence first second | .either first second => first.named ++ second.named
  | .loop _ body => body.named
  | .group name body => (name, body) :: body.named

section Loop

variable {good : String × Nat × Nat → Prop}

/-- Whatever some ways keep is good. -/
def AllKeep (good : String × Nat × Nat → Prop) (ways : List Way) : Prop :=
  ∀ way ∈ ways, ∀ entry ∈ way.groups, good entry

theorem AllKeep.nil : AllKeep good [] := fun _ mem => absurd mem List.not_mem_nil

theorem AllKeep.singleton {way : Way} (keeps : ∀ entry ∈ way.groups, good entry) :
    AllKeep good [way] := fun _ mem => List.mem_singleton.mp mem ▸ keeps

theorem AllKeep.append {one other : List Way} (first : AllKeep good one)
    (second : AllKeep good other) : AllKeep good (one ++ other) :=
  fun way mem => (List.mem_append.mp mem).elim (first way) (second way)

variable {step : Nat → List Way} {greedy : Bool} {fuel size i : Nat} {seen : List Nat}

/-- The search through the ways of a turn keeps nothing but what they do and the ways after them. -/
theorem allKeep_visit {state : List Way × List Nat} {way : Way}
    (here : ∀ entry ∈ way.groups, good entry)
    (later : ∀ seen, AllKeep good (turns step greedy fuel way.stop seen).1)
    (kept : AllKeep good state.1) : AllKeep good (visit step greedy fuel i state way).1 := by
  have further : AllKeep good ((turns step greedy fuel way.stop state.2).1.map way.andThen) := by
    intro other mem entry mem'
    obtain ⟨turn, found, rfl⟩ := List.mem_map.mp mem
    exact (List.mem_append.mp mem').elim (later state.2 turn found entry) (here entry)
  unfold visit
  dsimp only
  split
  · exact kept.append (.singleton here)
  · refine kept.append ?_
    cases greedy
    · exact .append (.singleton here) further
    · exact further.append (.singleton here)

/-- The ways through the turns of a loop keep nothing but what single turns do. -/
theorem allKeep_turns
    (sound : ∀ j ≤ size, ∀ way ∈ step j, way.stop ≤ size ∧ ∀ entry ∈ way.groups, good entry)
    (inside : i ≤ size) : AllKeep good (turns step greedy fuel i seen).1 := by
  induction fuel generalizing i seen with
  | zero => exact .nil
  | succ fuel hyp =>
    -- The search goes through the ways of one turn and keeps those found so far.
    have visits : ∀ (ways : List Way) (state : List Way × List Nat), (∀ way ∈ ways, way ∈ step i) →
        AllKeep good state.1 → AllKeep good (ways.foldl (visit step greedy fuel i) state).1 := by
      intro ways
      induction ways with
      | nil => exact fun state _ kept => kept
      | cons way rest further =>
        intro state known kept
        obtain ⟨bound, here⟩ := sound i inside way (known way (List.mem_cons_self ..))
        refine further _ (fun other mem => known other (List.mem_cons_of_mem _ mem)) ?_
        exact allKeep_visit here (fun seen => hyp bound) kept
    rw [turns_succ]
    split
    · exact .nil
    · exact visits _ _ (fun way mem => mem) .nil

end Loop

variable {text : Array Char} {i : Nat}

/-- What a way keeps under a name was matched by a part of that name. -/
theorem mem_named_of_mem_groups {pattern : Pattern} {way : Way} (inside : i ≤ text.size)
    (mem : way ∈ pattern.stops text i) : ∀ entry ∈ way.groups, ∃ body,
      (entry.1, body) ∈ pattern.named ∧ body.Spans text entry.2.1 entry.2.2 := by
  induction pattern generalizing i way with
  | empty =>
    obtain rfl := List.mem_singleton.mp mem
    exact fun entry kept => absurd kept List.not_mem_nil
  | char set =>
    unfold stops at mem
    split at mem
    · obtain rfl := List.mem_singleton.mp mem
      exact fun entry kept => absurd kept List.not_mem_nil
    · exact absurd mem List.not_mem_nil
  | place condition =>
    unfold stops at mem
    split at mem
    · obtain rfl := List.mem_singleton.mp mem
      exact fun entry kept => absurd kept List.not_mem_nil
    · exact absurd mem List.not_mem_nil
  | sequence first second hyp hyp' =>
    obtain ⟨one, begins, later⟩ := List.mem_flatMap.mp (mem_of_mem_distinct mem)
    obtain ⟨other, ends, rfl⟩ := List.mem_map.mp later
    have spans : first.Spans text i one.stop := (mem_ends_iff inside).mp (List.mem_map_of_mem begins)
    intro entry kept
    rcases List.mem_append.mp kept with kept | kept
    · obtain ⟨body, known, matched⟩ := hyp' (spans.le_size inside) ends entry kept
      exact ⟨body, List.mem_append_right _ known, matched⟩
    · obtain ⟨body, known, matched⟩ := hyp inside begins entry kept
      exact ⟨body, List.mem_append_left _ known, matched⟩
  | either first second hyp hyp' =>
    intro entry kept
    rcases List.mem_append.mp (mem_of_mem_distinct mem) with mem | mem
    · obtain ⟨body, known, matched⟩ := hyp inside mem entry kept
      exact ⟨body, List.mem_append_left _ known, matched⟩
    · obtain ⟨body, known, matched⟩ := hyp' inside mem entry kept
      exact ⟨body, List.mem_append_right _ known, matched⟩
  | loop greedy body hyp =>
    refine allKeep_turns (fun j bound turn found => ⟨?_, hyp bound found⟩) inside _
      (mem_of_mem_distinct mem)
    have spans : body.Spans text j turn.stop := (mem_ends_iff bound).mp (List.mem_map_of_mem found)
    exact spans.le_size bound
  | group name body hyp =>
    obtain ⟨inner, found, rfl⟩ := List.mem_map.mp mem
    intro entry kept
    rcases List.mem_cons.mp kept with rfl | kept
    · exact ⟨body, List.mem_cons_self .., (mem_ends_iff inside).mp (List.mem_map_of_mem found)⟩
    · obtain ⟨part, known, matched⟩ := hyp inside found entry kept
      exact ⟨part, List.mem_cons_of_mem _ known, matched⟩

/-! ### Numbers -/

/-- A run of digits. -/
def digits : Pattern := .loop true (.char .digits)

/-- Between the ends of a run of digits there are digits only. -/
theorem isDecimal_of_digits {a b k : Nat} (spans : digits.Spans text a b) (low : a ≤ k) (high : k < b)
    {c : Char} (found : text[k]? = some c) : Text.isDecimal c := by
  have single : ∀ j, (Pattern.char .digits).Spans text k j → Text.isDecimal c := by
    rintro j ⟨-, holds⟩
    rw [found] at holds
    exact holds
  induction spans with
  | single turn =>
    obtain rfl : k = a := by
      have stop := turn.1
      omega
    exact single _ turn
  | @tail m b leads turn hyp =>
    by_cases before : k < m
    · exact hyp before
    · obtain rfl : k = m := by
        have stop := turn.1
        omega
      exact single _ turn

/-- All named parts of a pattern but one are runs of digits. -/
def numeric (pattern : Pattern) : Bool :=
  pattern.named.all fun (name, body) => name == "kind" || body == digits

end Pattern

/-- Whatever a finding keeps under a name but one consists of digits. -/
def Finding.Counted (finding : Finding) : Prop :=
  ∀ name raw, name ≠ "kind" → finding.group? name = some raw → ∀ c ∈ raw.toList, Text.isDecimal c

theorem Finding.mem_of_group? {finding : Finding} {name raw : String}
    (kept : finding.group? name = some raw) : (name, raw) ∈ finding.groups := by
  unfold group? at kept
  generalize finding.groups = groups at kept ⊢
  induction groups with
  | nil => cases kept
  | cons entry rest hyp =>
    rw [List.lookup_cons] at kept
    split at kept
    case h_1 same =>
      obtain rfl := Option.some.inj kept
      obtain rfl := beq_iff_eq.mp same
      exact List.mem_cons_self ..
    case h_2 => exact List.mem_cons_of_mem _ (hyp kept)

/-- What a pattern finds whose names stand for runs of digits has digits under them. -/
theorem Pattern.counted_of_numeric {pattern : Pattern} {whole : String} {finding : Finding}
    (numeric : pattern.numeric) (found : pattern.search whole = some finding) : finding.Counted := by
  obtain ⟨i, inside, way, mem, rfl⟩ := exists_of_search found
  intro name raw other kept c mem'
  obtain ⟨⟨_, a, b⟩, entry, same⟩ := List.mem_map.mp (Finding.mem_of_group? kept)
  obtain ⟨rfl, rfl⟩ := Prod.mk.inj same
  obtain ⟨body, known, matched⟩ := mem_named_of_mem_groups inside mem _ entry
  have run := List.all_eq_true.mp numeric _ known
  simp only [Bool.or_eq_true, beq_iff_eq, other, false_or] at run
  subst run
  have stretched : (stretch whole.toList.toArray a b).toList = (whole.toList.drop a).take (b - a) :=
    String.toList_ofList
  rw [stretched] at mem'
  obtain ⟨k, bound, rfl⟩ := List.mem_iff_getElem.mp mem'
  have within : k < b - a := Nat.lt_of_lt_of_le bound (List.length_take_le ..)
  refine isDecimal_of_digits matched (Nat.le_add_right a k) (Nat.add_lt_of_lt_sub' within) ?_
  simp

namespace Firing

/-- A number that a rule reads is not negative. -/
theorem nonneg_of_int? {firing : Firing} (counted : firing.finding.Counted) {name : String}
    (other : name ≠ "kind") {value : Int} (read : firing.int? name = .ok (some value)) : 0 ≤ value := by
  unfold int? at read
  split at read
  · cases read
  case h_2 raw kept =>
    have decimal := counted name raw other kept
    rw [Text.trimChars_of_decimals decimal] at read
    split at read
    case h_1 value' parsed =>
      obtain rfl := Option.some.inj (Except.ok.inj read)
      obtain ⟨amount, -, -, rfl⟩ := (Text.int?_of_decimals decimal).mp parsed
      exact Int.natCast_nonneg amount
    case h_2 => cases read

theorem nonneg_of_intOr {firing : Firing} (counted : firing.finding.Counted) {name : String}
    (other : name ≠ "kind") {default value : Int} (nonneg : 0 ≤ default)
    (read : firing.intOr name default = .ok value) : 0 ≤ value := by
  unfold intOr at read
  rcases number : firing.int? name with error | (_ | found)
  · rw [number] at read
    cases read
  · rw [number] at read
    obtain rfl := Except.ok.inj read
    exact nonneg
  · rw [number] at read
    obtain rfl := Except.ok.inj read
    exact nonneg_of_int? counted other number

end Firing

end Skirmish
