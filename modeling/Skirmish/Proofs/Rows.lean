/-
**Patterns as rows of parts.** A sequence matches where its parts match one after the other, so that a
pattern whose parts are found in the row of another one matches wherever that one does:

* `Row`: parts that match one after the other;
* `opens`, `closes`: matches of a part begin or end within a word, or outside of any;
* `occurs_of_encloses`: some parts of a pattern, between two blanks, are another pattern that asks for
  borders of words there;
* `exists_of_mem_stops`: what a pattern with a name for its end keeps under that name.
-/

import Skirmish.Proofs.Letters

namespace Skirmish

open Relation

/-! ### Classes inside and outside of words -/

namespace CharClass

/-- Whether the characters of a class belong to words, where that is the same for all of them. -/
def sort? : CharClass → Option Bool
  | .anyCase (.spans [⟨first, last⟩]) =>
    if first = last ∧ (Char.ofNat first).isAlpha then some true else none
  | .blanks => some false
  | _ => none

theorem isWord_of_sort? {set : CharClass} {inWord : Bool} (sorted : set.sort? = some inWord) {c : Char}
    (holds : set.holds c) : Text.isWord c = inWord := by
  unfold sort? at sorted
  split at sorted
  case h_1 first last =>
    obtain ⟨⟨rfl, alpha⟩, same⟩ := Option.ite_none_right_eq_some.mp sorted
    obtain rfl := Option.some.inj same
    have code : (Char.ofNat first).toNat = first :=
      (toNat_ofNat_le first).resolve_right (toNat_of_isAlpha alpha).2
    refine isWord_of_letter alpha ?_
    rwa [letter, single, code]
  case h_2 =>
    obtain rfl := Option.some.inj sorted
    exact (Text.wordless_of_isBlank holds).1
  case h_3 => cases sorted

end CharClass

namespace Pattern

variable {text : Array Char} {i j : Nat}

/-! ### Rows -/

/-- The parts of a sequence. -/
def parts : Pattern → List Pattern
  | .sequence first second => first.parts ++ [second]
  | pattern => [pattern]

/-- Parts match one after the other. -/
def Row (text : Array Char) : List Pattern → Nat → Nat → Prop
  | [] => fun i j => j = i
  | part :: rest => fun i j => ∃ k, part.Spans text i k ∧ Row text rest k j

theorem row_singleton {part : Pattern} : Row text [part] i j ↔ part.Spans text i j := by
  constructor
  · rintro ⟨k, spans, rfl⟩
    exact spans
  · exact fun spans => ⟨j, spans, rfl⟩

theorem row_append {one other : List Pattern} :
    Row text (one ++ other) i j ↔ ∃ k, Row text one i k ∧ Row text other k j := by
  induction one generalizing i with
  | nil => exact ⟨fun row => ⟨i, rfl, row⟩, fun ⟨k, same, row⟩ => same ▸ row⟩
  | cons part rest hyp =>
    simp only [List.cons_append, Row, hyp]
    exact ⟨fun ⟨k, spans, m, row, later⟩ => ⟨m, ⟨k, spans, row⟩, later⟩,
      fun ⟨m, ⟨k, spans, row⟩, later⟩ => ⟨k, spans, m, row, later⟩⟩

/-- A pattern matches where its parts do. -/
theorem row_parts {pattern : Pattern} : Row text pattern.parts i j ↔ pattern.Spans text i j := by
  induction pattern generalizing i j with
  | sequence first second hyp hyp' =>
    rw [parts, row_append]
    exact exists_congr fun k => and_congr hyp row_singleton
  | empty | char | place | either | loop | group => exact row_singleton

theorem Row.le_size {row : List Pattern} (spans : Row text row i j) (inside : i ≤ text.size) :
    j ≤ text.size := by
  induction row generalizing i with
  | nil => exact spans ▸ inside
  | cons part rest hyp =>
    obtain ⟨k, here, later⟩ := spans
    exact hyp later (here.le_size inside)

/-! ### Borders -/

/-- Every match begins with a character that belongs to a word, or with one that does not. -/
def opens (inWord : Bool) : Pattern → Bool
  | .empty | .place _ => false
  | .char set => set.sort? == some inWord
  | .sequence first _ => first.opens inWord
  | .either first second => first.opens inWord && second.opens inWord
  | .loop _ body | .group _ body => body.opens inWord

/-- Every match ends with such a character. -/
def closes (inWord : Bool) : Pattern → Bool
  | .empty | .place _ => false
  | .char set => set.sort? == some inWord
  | .sequence _ second => second.closes inWord
  | .either first second => first.closes inWord && second.closes inWord
  | .loop _ body | .group _ body => body.closes inWord

variable {inWord : Bool}

theorem Spans.opens {pattern : Pattern} (spans : pattern.Spans text i j)
    (opens : pattern.opens inWord) : ∃ c, text[i]? = some c ∧ Text.isWord c = inWord ∧ i < j := by
  induction pattern generalizing i j with
  | empty | place => cases opens
  | char set =>
    obtain ⟨rfl, holds⟩ := spans
    obtain ⟨c, found, held⟩ := (Option.any_eq_true _ _).mp holds
    exact ⟨c, found, CharClass.isWord_of_sort? (beq_iff_eq.mp opens) held, Nat.lt_succ_self i⟩
  | sequence first second hyp hyp' =>
    obtain ⟨k, one, other⟩ := spans
    obtain ⟨c, found, word, less⟩ := hyp one opens
    exact ⟨c, found, word, Nat.lt_of_lt_of_le less other.le⟩
  | either first second hyp hyp' =>
    obtain ⟨opens, opens'⟩ := Bool.and_eq_true_iff.mp opens
    exact spans.elim (fun one => hyp one opens) fun other => hyp' other opens'
  | loop greedy body hyp =>
    induction spans with
    | single turn => exact hyp turn opens
    | tail _ turn further =>
      obtain ⟨c, found, word, less⟩ := further
      exact ⟨c, found, word, Nat.lt_of_lt_of_le less turn.le⟩
  | group name body hyp => exact hyp spans opens

theorem Spans.closes {pattern : Pattern} (spans : pattern.Spans text i j)
    (closes : pattern.closes inWord) : ∃ c, charBefore? text j = some c ∧ Text.isWord c = inWord := by
  induction pattern generalizing i j with
  | empty | place => cases closes
  | char set =>
    obtain ⟨rfl, holds⟩ := spans
    obtain ⟨c, found, held⟩ := (Option.any_eq_true _ _).mp holds
    exact ⟨c, found, CharClass.isWord_of_sort? (beq_iff_eq.mp closes) held⟩
  | sequence first second hyp hyp' =>
    obtain ⟨k, one, other⟩ := spans
    exact hyp' other closes
  | either first second hyp hyp' =>
    obtain ⟨closes, closes'⟩ := Bool.and_eq_true_iff.mp closes
    exact spans.elim (fun one => hyp one closes) fun other => hyp' other closes'
  | loop greedy body hyp =>
    induction spans with
    | single turn => exact hyp turn closes
    | tail _ turn _ => exact hyp turn closes
  | group name body hyp => exact hyp spans closes

/-- The border of a word. -/
def border : Pattern := .place (.boundary .words)

/-- Between a character of a word and one of none there is a border. -/
theorem border_between {first second : Pattern} {k : Nat} (one : first.Spans text i k)
    (other : second.Spans text k j) (closes : first.closes inWord) (opens : second.opens (!inWord)) :
    border.Spans text k k := by
  obtain ⟨c, found, word⟩ := one.closes closes
  obtain ⟨c', found', word', -⟩ := other.opens opens
  refine ⟨rfl, ?_⟩
  simp only [Place.holds, Place.holds.before, Place.holds.after, found, found', Option.any_some]
  show (Text.isWord c != Text.isWord c') = true
  rw [word, word']
  cases inWord <;> rfl

/-! ### A pattern within another -/

/-- The parts of a row, as far as the last one of another row, which is a border: where the row goes on
there is one. The part before both rows is `last`. -/
def leadsToBorder (last : Pattern) : List Pattern → List Pattern → Bool
  | next :: _, [final] =>
    final == border && (next == border || last.closes true && next.opens false)
  | part :: later, part' :: rest => part == part' && leadsToBorder part later rest
  | _, _ => false

/-- After `count` parts of a pattern and a part that ends outside of words comes a word with which the
row of another pattern begins, that asks for borders around. -/
def encloses (count : Nat) (pattern inner : Pattern) : Bool :=
  match pattern.parts.drop count, inner.parts with
  | gap :: first :: later, start :: first' :: rest =>
    gap.closes false && first.opens true && start == border && first == first' &&
      leadsToBorder first later rest
  | _, _ => false

theorem Row.of_leadsToBorder {last : Pattern} {later rest : List Pattern} {k : Nat}
    (leads : leadsToBorder last later rest) (before : last.Spans text i k) (row : Row text later k j) :
    ∃ m, Row text rest k m := by
  induction rest generalizing last later i k with
  | nil => rcases later with _ | ⟨part, later⟩ <;> cases leads
  | cons part' rest hyp =>
    rcases later with _ | ⟨part, later⟩
    · cases leads
    obtain ⟨m, spans, row⟩ := row
    rcases rest with _ | ⟨part'', rest⟩
    · simp only [leadsToBorder, Bool.and_eq_true, beq_iff_eq, Bool.or_eq_true] at leads
      obtain ⟨rfl, rfl | ⟨closes, opens⟩⟩ := leads
      · exact ⟨m, row_singleton.mpr spans⟩
      · exact ⟨k, row_singleton.mpr (border_between before spans closes opens)⟩
    · simp only [leadsToBorder, Bool.and_eq_true, beq_iff_eq] at leads
      obtain ⟨rfl, leads⟩ := leads
      obtain ⟨last, row⟩ := hyp leads spans row
      exact ⟨last, m, spans, row⟩

/-- A pattern whose parts another one encloses occurs wherever that one does. -/
theorem occurs_of_encloses {pattern inner : Pattern} {count : Nat}
    (encloses : pattern.encloses count inner) {whole : String} (occurs : pattern.occurs whole) :
    inner.occurs whole := by
  obtain ⟨i, inside, j, spans⟩ := occurs_iff.mp occurs
  rw [← row_parts, ← List.take_append_drop count pattern.parts] at spans
  obtain ⟨_, lead, row⟩ := row_append.mp spans
  unfold Pattern.encloses at encloses
  split at encloses
  case h_2 => cases encloses
  case h_1 gap first later start first' rest parts parts' =>
    simp only [Bool.and_eq_true, beq_iff_eq] at encloses
    obtain ⟨⟨⟨⟨closes, opens⟩, rfl⟩, rfl⟩, leads⟩ := encloses
    rw [parts] at row
    obtain ⟨k, before, m, spans, row⟩ := row
    obtain ⟨last, rest⟩ := row.of_leadsToBorder leads spans
    have here := border_between before spans closes opens
    refine occurs_iff.mpr ⟨k, before.le_size (lead.le_size inside), last, row_parts.mp ?_⟩
    rw [parts']
    exact ⟨k, here, m, spans, rest⟩

/-! ### The name at the end of a pattern -/

theorem mem_of_mem_distinct {ways : List Way} {way : Way} (mem : way ∈ Way.distinct ways) :
    way ∈ ways := by
  induction ways with
  | nil => exact mem
  | cons first rest hyp =>
    rcases List.mem_cons.mp mem with rfl | mem
    · exact List.mem_cons_self ..
    · exact List.mem_cons_of_mem _ (hyp (List.mem_filter.mp mem).1)

/-- What is found is one of the ways in which the pattern matches from some place. -/
theorem exists_of_searchFrom {pattern : Pattern} {count : Nat} {finding : Finding}
    (found : pattern.searchFrom text count i = some finding) :
    ∃ k ≤ i + count, ∃ way ∈ pattern.stops text k, finding = .ofWay text k way := by
  induction count generalizing i with
  | zero =>
    rw [searchFrom] at found
    rcases stopped : pattern.stops text i with _ | ⟨way, rest⟩
    · simp [stopped] at found
    · rw [stopped] at found
      exact ⟨i, Nat.le_refl i, way, by simp [stopped], (Option.some.inj found).symm⟩
  | succ count hyp =>
    rw [searchFrom] at found
    rcases stopped : pattern.stops text i with _ | ⟨way, rest⟩
    · rw [stopped] at found
      obtain ⟨k, bound, way, mem, same⟩ := hyp found
      exact ⟨k, by omega, way, mem, same⟩
    · rw [stopped] at found
      exact ⟨i, Nat.le_add_right .., way, by simp [stopped], (Option.some.inj found).symm⟩

theorem exists_of_search {pattern : Pattern} {whole : String} {finding : Finding}
    (found : pattern.search whole = some finding) :
    ∃ i ≤ whole.toList.toArray.size, ∃ way ∈ pattern.stops whole.toList.toArray i,
      finding = .ofWay whole.toList.toArray i way := by
  obtain ⟨i, inside, way, mem, same⟩ := exists_of_searchFrom found
  rw [Nat.zero_add] at inside
  exact ⟨i, inside, way, mem, same⟩

/-- Where a pattern ends with a named part, what that part has matched is kept under its name. -/
theorem exists_of_mem_stops {lead body : Pattern} {name : String} {way : Way}
    (inside : i ≤ text.size) (mem : way ∈ (sequence lead (.group name body)).stops text i) :
    ∃ k, lead.Spans text i k ∧ body.Spans text k way.stop ∧
      (Finding.ofWay text i way).group? name = some (stretch text k way.stop) := by
  obtain ⟨first, begins, later⟩ := List.mem_flatMap.mp (mem_of_mem_distinct mem)
  obtain ⟨last, named, rfl⟩ := List.mem_map.mp later
  obtain ⟨inner, ends, rfl⟩ := List.mem_map.mp named
  have spans : lead.Spans text i first.stop := (mem_ends_iff inside).mp (List.mem_map_of_mem begins)
  have spans' : body.Spans text first.stop inner.stop :=
    (mem_ends_iff (spans.le_size inside)).mp (List.mem_map_of_mem ends)
  refine ⟨first.stop, spans, spans', ?_⟩
  simp [Finding.ofWay, Finding.group?, Way.andThen]

/-! ### Letters in a row -/

/-- Letters of any case, one after the other. -/
def spelling (letters : List Char) : List Pattern := letters.map fun l => .char (.letter l)

theorem row_spelling {letters chars : List Char} (reads : Reads letters (chars.drop i)) :
    Row chars.toArray (spelling letters) i (i + letters.length) := by
  induction letters generalizing i with
  | nil => rfl
  | cons l letters hyp =>
    rcases rest : chars.drop i with _ | ⟨c, rest'⟩
    · rw [rest] at reads
      exact absurd reads id
    · have here : chars[i]? = some c := by
        rw [← List.head?_drop, rest]
        rfl
      have later : chars.drop (i + 1) = rest' := by
        rw [← List.tail_drop, rest]
        rfl
      rw [rest] at reads
      refine ⟨i + 1, ⟨rfl, by simpa [here] using reads.1⟩, ?_⟩
      rw [List.length_cons, Nat.add_comm letters.length, ← Nat.add_assoc]
      exact hyp (later ▸ reads.2)

end Pattern

end Skirmish
