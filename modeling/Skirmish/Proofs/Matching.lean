/-
**What a pattern matches.** `Pattern.Spans` says where a pattern matches, without saying which way is
preferred or how it is sought, and search finds a match wherever there is one:

* `mem_ends_iff`: the places at which a match can end are exactly those that `stops` lists. A loop is
  sought depth first with a list of visited places; `Explores` is what that search keeps;
* `occurs_iff`: a pattern occurs in a text exactly if it matches somewhere;
* `occurs_of_trim`: a pattern that asks for nothing but words at its borders occurs in a text if it
  occurs there without the blanks around.
-/

import Mathlib.Logic.Relation
import Skirmish.Pattern.Search

namespace Skirmish

open Relation

/-! ### Matches -/

namespace Pattern

/-- A match of a pattern in a text, from one place to another. -/
def Spans (text : Array Char) : Pattern → Nat → Nat → Prop
  | .empty => fun i j => j = i
  | .char set => fun i j => j = i + 1 ∧ text[i]?.any set.holds
  | .place condition => fun i j => j = i ∧ condition.holds text i
  | .sequence first second => fun i j => ∃ k, first.Spans text i k ∧ second.Spans text k j
  | .either first second => fun i j => first.Spans text i j ∨ second.Spans text i j
  | .loop _ body => TransGen (body.Spans text)
  | .group _ body => body.Spans text

variable {text : Array Char} {i j : Nat}

/-- A match does not go back. -/
theorem Spans.le {pattern : Pattern} (spans : pattern.Spans text i j) : i ≤ j := by
  induction pattern generalizing i j with
  | empty => exact Nat.le_of_eq (Eq.symm spans)
  | char set => exact spans.1 ▸ Nat.le_succ i
  | place condition => exact Nat.le_of_eq spans.1.symm
  | sequence first second hyp hyp' =>
    obtain ⟨k, one, other⟩ := spans
    exact Nat.le_trans (hyp one) (hyp' other)
  | either first second hyp hyp' => exact spans.elim hyp hyp'
  | loop greedy body hyp =>
    exact TransGen.trans_induction_on spans hyp fun _ _ => Nat.le_trans
  | group name body hyp => exact hyp spans

/-- A match ends in the text. -/
theorem Spans.le_size {pattern : Pattern} (spans : pattern.Spans text i j) (inside : i ≤ text.size) :
    j ≤ text.size := by
  induction pattern generalizing i j with
  | empty => exact spans ▸ inside
  | char set =>
    obtain ⟨rfl, holds⟩ := spans
    rcases Nat.lt_or_ge i text.size with within | outside
    · exact within
    · rw [Array.getElem?_eq_none outside] at holds
      cases holds
  | place condition => exact spans.1 ▸ inside
  | sequence first second hyp hyp' =>
    obtain ⟨k, one, other⟩ := spans
    exact hyp' other (hyp one inside)
  | either first second hyp hyp' =>
    exact spans.elim (fun one => hyp one inside) fun other => hyp' other inside
  | loop greedy body hyp =>
    exact TransGen.trans_induction_on (motive := fun {i j} _ => i ≤ text.size → j ≤ text.size) spans
      hyp (fun _ _ one other inside => other (one inside)) inside
  | group name body hyp => exact hyp spans inside

end Pattern

/-! ### The search of a loop -/

/-- The first ways to their places end where all ways end. -/
theorem Way.mem_distinct {ways : List Way} {j : Nat} :
    j ∈ (distinct ways).map Way.stop ↔ j ∈ ways.map Way.stop := by
  induction ways with
  | nil => rfl
  | cons way rest hyp =>
    simp only [distinct, List.map_cons, List.mem_cons]
    by_cases same : j = way.stop
    · simp [same]
    · rw [← hyp]
      simp only [same, false_or, List.mem_map, List.mem_filter, bne_iff_ne]
      constructor
      · rintro ⟨other, ⟨mem, -⟩, rfl⟩
        exact ⟨other, mem, rfl⟩
      · rintro ⟨other, mem, rfl⟩
        exact ⟨other, ⟨mem, same⟩, rfl⟩

namespace Pattern

section Loop

variable {step : Nat → List Way} {greedy : Bool} {fuel size i j : Nat} {seen : List Nat}

/-- One way of a turn, in the search of a loop. -/
def visit (step : Nat → List Way) (greedy : Bool) (fuel i : Nat) :
    List Way × List Nat → Way → List Way × List Nat :=
  fun (found, seen) way =>
    if way.stop ≤ i then (found ++ [way], seen)
    else
      let (later, seen) := turns step greedy fuel way.stop seen
      let later := later.map way.andThen
      (found ++ (if greedy then later ++ [way] else way :: later), seen)

theorem turns_succ (step : Nat → List Way) (greedy : Bool) (fuel i : Nat) (seen : List Nat) :
    turns step greedy (fuel + 1) i seen
      = if seen.contains i then ([], seen)
        else (step i).foldl (visit step greedy fuel i) ([], i :: seen) := rfl

/-- A turn of the loop leads from one place to another. -/
def Turn (step : Nat → List Way) (i j : Nat) : Prop := j ∈ (step i).map Way.stop

/-- What a search from place `i` keeps: it finds only places to which turns lead, and wherever a turn
leads from a place that it has visited. The places `met` are found already. -/
structure Explores (step : Nat → List Way) (i : Nat) (seen met : List Nat)
    (state : List Way × List Nat) : Prop where
  sound : ∀ j ∈ state.1.map Way.stop, TransGen (Turn step) i j
  grows : ∀ j ∈ seen, j ∈ state.2
  closed : ∀ j ∈ state.2, j ∉ seen → ∀ k, Turn step j k →
    k ∈ state.1.map Way.stop ∧ k ∈ state.2
  met : ∀ j ∈ met, j ∈ state.1.map Way.stop ∧ j ∈ state.2

/-- Nothing is found at the start. -/
theorem Explores.start (step : Nat → List Way) (i : Nat) (seen : List Nat) :
    Explores step i seen [] ([], seen) :=
  ⟨by simp, fun _ => id, fun _ mem new => absurd mem new, by simp⟩

theorem mem_stops_append {found later : List Way} {way : Way} {k : Nat} :
    k ∈ (found ++ if greedy then later.map way.andThen ++ [way]
        else way :: later.map way.andThen).map Way.stop ↔
      k ∈ found.map Way.stop ∨ k ∈ later.map Way.stop ∨ k = way.stop := by
  cases greedy <;> simp [Way.andThen, eq_comm, or_comm]

/-- One way more. -/
theorem Explores.visit {met : List Nat} {state : List Way × List Nat} {way : Way}
    (explores : Explores step i seen met state) (start : i ∈ seen) (turn : Turn step i way.stop)
    (ahead : i ≤ way.stop) (onward : i < way.stop →
      Explores step way.stop state.2 [] (turns step greedy fuel way.stop state.2) ∧
        way.stop ∈ (turns step greedy fuel way.stop state.2).2) :
    Explores step i seen (way.stop :: met) (visit step greedy fuel i state way) := by
  obtain ⟨found, visited⟩ := state
  unfold Pattern.visit
  dsimp only
  by_cases idle : way.stop ≤ i
  · -- A turn that consumes nothing leads nowhere new.
    have same : way.stop = i := Nat.le_antisymm idle ahead
    have stops : ∀ k, k ∈ (found ++ [way]).map Way.stop ↔ k ∈ found.map Way.stop ∨ k = i := by
      simp [same]
    rw [if_pos idle]
    refine ⟨fun j mem => ?_, explores.grows, fun j mem new k leads => ?_, fun j mem => ?_⟩
    · rcases (stops j).mp mem with mem | rfl
      · exact explores.sound j mem
      · exact .single (same ▸ turn)
    · exact (explores.closed j mem new k leads).imp (fun mem => (stops k).mpr (.inl mem)) id
    · rcases List.mem_cons.mp mem with rfl | mem
      · exact ⟨(stops _).mpr (.inr same), same ▸ explores.grows i start⟩
      · exact (explores.met j mem).imp (fun mem => (stops j).mpr (.inl mem)) id
  · obtain ⟨deeper, there⟩ := onward (Nat.lt_of_not_le idle)
    rw [if_neg idle]
    generalize turns step greedy fuel way.stop visited = ran at *
    obtain ⟨later, visited'⟩ := ran
    refine ⟨fun j mem => ?_, fun j mem => deeper.grows j (explores.grows j mem),
      fun j mem new k leads => ?_, fun j mem => ?_⟩
    · rcases mem_stops_append.mp mem with mem | mem | rfl
      · exact explores.sound j mem
      · exact (deeper.sound j mem).head turn
      · exact .single turn
    · by_cases known : j ∈ visited
      · obtain ⟨stop, old⟩ := explores.closed j known new k leads
        exact ⟨mem_stops_append.mpr (.inl stop), deeper.grows k old⟩
      · obtain ⟨stop, old⟩ := deeper.closed j mem known k leads
        exact ⟨mem_stops_append.mpr (.inr (.inl stop)), old⟩
    · rcases List.mem_cons.mp mem with rfl | mem
      · exact ⟨mem_stops_append.mpr (.inr (.inr rfl)), there⟩
      · obtain ⟨stop, old⟩ := explores.met j mem
        exact ⟨mem_stops_append.mpr (.inl stop), deeper.grows j old⟩

/-- Several ways more, each of which is met. -/
theorem Explores.visits (ways : List Way) {met : List Nat} {state : List Way × List Nat}
    (explores : Explores step i seen met state) (start : i ∈ seen)
    (turn : ∀ way ∈ ways, Turn step i way.stop ∧ i ≤ way.stop)
    (onward : ∀ way ∈ ways, i < way.stop → ∀ seen,
      Explores step way.stop seen [] (turns step greedy fuel way.stop seen) ∧
        way.stop ∈ (turns step greedy fuel way.stop seen).2) :
    ∃ met', (∀ j ∈ met, j ∈ met') ∧ (∀ way ∈ ways, way.stop ∈ met') ∧
      Explores step i seen met' (ways.foldl (Pattern.visit step greedy fuel i) state) := by
  induction ways generalizing met state with
  | nil => exact ⟨met, fun _ => id, by simp, explores⟩
  | cons way rest hyp =>
    obtain ⟨here, ahead⟩ := turn way (List.mem_cons_self ..)
    have first := explores.visit start here ahead fun later =>
      onward way (List.mem_cons_self ..) later _
    obtain ⟨met', keeps, ends, last⟩ := hyp first
      (fun other mem => turn other (List.mem_cons_of_mem _ mem))
      fun other mem => onward other (List.mem_cons_of_mem _ mem)
    refine ⟨met', fun j mem => keeps j (List.mem_cons_of_mem _ mem), fun other mem => ?_, last⟩
    rcases List.mem_cons.mp mem with rfl | mem
    · exact keeps _ (List.mem_cons_self ..)
    · exact ends other mem

/-- Where turns go on and stay in a text, the search of a loop visits every place that it should. -/
theorem explores_turns (ahead : ∀ i ≤ size, ∀ j, Turn step i j → i ≤ j)
    (within : ∀ i ≤ size, ∀ j, Turn step i j → j ≤ size) (inside : i ≤ size)
    (enough : size + 1 - i ≤ fuel) : Explores step i seen [] (turns step greedy fuel i seen) ∧
      i ∈ (turns step greedy fuel i seen).2 := by
  induction fuel generalizing i seen with
  | zero => omega
  | succ fuel hyp =>
    rw [turns_succ]
    by_cases visited : seen.contains i
    · rw [if_pos visited]
      have known : i ∈ seen := by simpa using visited
      exact ⟨.start step i seen, known⟩
    rw [if_neg visited]
    have turn : ∀ way ∈ step i, Turn step i way.stop := fun way mem => List.mem_map_of_mem mem
    obtain ⟨met, -, ends, last⟩ := Explores.visits (step i)
      (.start step i (i :: seen)) (List.mem_cons_self ..)
      (fun way mem => ⟨turn way mem, ahead i inside _ (turn way mem)⟩)
      fun way mem later seen => hyp (within i inside _ (turn way mem)) (by omega)
    refine ⟨⟨last.sound, fun j mem => last.grows j (List.mem_cons_of_mem _ mem),
      fun j mem new k leads => ?_, by simp⟩, last.grows i (List.mem_cons_self ..)⟩
    by_cases own : j = i
    · obtain ⟨way, mem', rfl⟩ := List.mem_map.mp (own ▸ leads : Turn step i k)
      exact last.met _ (ends way mem')
    · exact last.closed j mem (by simp [own, new]) k leads

/-- The search of a loop finds exactly the places to which turns lead. -/
theorem mem_turns_iff (ahead : ∀ i ≤ size, ∀ j, Turn step i j → i ≤ j)
    (within : ∀ i ≤ size, ∀ j, Turn step i j → j ≤ size) (inside : i ≤ size) :
    j ∈ (turns step greedy (size + 1 - i) i []).1.map Way.stop ↔ TransGen (Turn step) i j := by
  obtain ⟨explores, there⟩ : Explores step i [] [] (turns step greedy (size + 1 - i) i []) ∧
      i ∈ (turns step greedy (size + 1 - i) i []).2 :=
    explores_turns ahead within inside (Nat.le_refl _)
  refine ⟨explores.sound j, fun leads => ?_⟩
  suffices both : j ∈ (turns step greedy (size + 1 - i) i []).1.map Way.stop ∧
      j ∈ (turns step greedy (size + 1 - i) i []).2 from both.1
  induction leads with
  | single turn => exact explores.closed i there List.not_mem_nil _ turn
  | tail _ turn hyp => exact explores.closed _ hyp.2 List.not_mem_nil _ turn

end Loop

/-! ### Search finds what there is -/

variable {text : Array Char} {i j : Nat}

/-- Chains of two relations that agree inside, and stay there, lead to the same places. -/
theorem transGen_congr {first second : Nat → Nat → Prop} {size : Nat}
    (within : ∀ i ≤ size, ∀ j, second i j → j ≤ size)
    (same : ∀ i ≤ size, ∀ j, first i j ↔ second i j) (inside : i ≤ size) :
    TransGen first i j ↔ TransGen second i j := by
  have stays : ∀ j, TransGen second i j → j ≤ size := fun j leads => by
    induction leads with
    | single turn => exact within i inside _ turn
    | tail _ turn hyp => exact within _ hyp _ turn
  constructor
  · intro leads
    induction leads with
    | single turn => exact .single ((same i inside _).mp turn)
    | tail _ turn hyp => exact hyp.tail ((same _ (stays _ hyp) _).mp turn)
  · intro leads
    induction leads with
    | single turn => exact .single ((same i inside _).mpr turn)
    | tail leads turn hyp => exact hyp.tail ((same _ (stays _ leads) _).mpr turn)

theorem mem_stops_sequence {ways : List Way} {next : Nat → List Way} :
    j ∈ (ways.flatMap fun way => (next way.stop).map way.andThen).map Way.stop ↔
      ∃ k ∈ ways.map Way.stop, j ∈ (next k).map Way.stop := by
  simp only [List.mem_map, List.mem_flatMap]
  constructor
  · rintro ⟨_, ⟨way, mem, later, mem', rfl⟩, rfl⟩
    exact ⟨_, ⟨way, mem, rfl⟩, later, mem', rfl⟩
  · rintro ⟨_, ⟨way, mem, rfl⟩, later, mem', rfl⟩
    exact ⟨_, ⟨way, mem, later, mem', rfl⟩, rfl⟩

/-- The places that `stops` lists are exactly those at which a match ends. -/
theorem mem_ends_iff {pattern : Pattern} (inside : i ≤ text.size) :
    j ∈ (pattern.stops text i).map Way.stop ↔ pattern.Spans text i j := by
  induction pattern generalizing i j with
  | empty => simp [stops, Spans]
  | char set =>
    simp only [stops, Spans]
    split <;> simp [*]
  | place condition =>
    simp only [stops, Spans]
    split <;> simp [*]
  | sequence first second hyp hyp' =>
    rw [stops, Way.mem_distinct, mem_stops_sequence]
    refine exists_congr fun k => ?_
    rw [hyp inside]
    exact and_congr_right fun spans => hyp' (spans.le_size inside)
  | either first second hyp hyp' =>
    rw [stops, Way.mem_distinct, List.map_append, List.mem_append, hyp inside, hyp' inside]
    rfl
  | loop greedy body hyp =>
    have same : ∀ i ≤ text.size, ∀ j, Turn (body.stops text) i j ↔ body.Spans text i j :=
      fun i inside j => hyp inside
    have within : ∀ i ≤ text.size, ∀ j, body.Spans text i j → j ≤ text.size :=
      fun i inside j spans => spans.le_size inside
    rw [stops, Way.mem_distinct,
      mem_turns_iff (fun i inside j turn => ((same i inside j).mp turn).le)
        (fun i inside j turn => within i inside j ((same i inside j).mp turn)) inside]
    exact transGen_congr within same inside
  | group name body hyp =>
    rw [stops, List.map_map]
    exact hyp inside

theorem isSome_searchFrom {pattern : Pattern} {count : Nat} :
    (pattern.searchFrom text count i).isSome ↔ ∃ k, i ≤ k ∧ k ≤ i + count ∧
      pattern.stops text k ≠ [] := by
  induction count generalizing i with
  | zero =>
    rw [searchFrom]
    have only : (∃ k, i ≤ k ∧ k ≤ i + 0 ∧ pattern.stops text k ≠ []) ↔ pattern.stops text i ≠ [] :=
      ⟨fun ⟨k, low, high, way⟩ => (Nat.le_antisymm low high : i = k) ▸ way,
        fun way => ⟨i, Nat.le_refl i, Nat.le_refl i, way⟩⟩
    rw [only]
    cases pattern.stops text i <;> simp
  | succ count hyp =>
    rw [searchFrom]
    rcases stopped : pattern.stops text i with _ | ⟨way, rest⟩
    · simp only [hyp]
      refine exists_congr fun k => ⟨fun ⟨low, high, way⟩ => ⟨by omega, by omega, way⟩,
        fun ⟨low, high, way⟩ => ⟨?_, by omega, way⟩⟩
      rcases Nat.eq_or_lt_of_le low with rfl | later
      · exact absurd stopped way
      · exact later
    · simp only [Option.isSome_some, true_iff]
      exact ⟨i, Nat.le_refl i, Nat.le_add_right .., by simp [stopped]⟩

/-- A pattern occurs in a text exactly if it matches somewhere. -/
theorem occurs_iff {pattern : Pattern} {whole : String} : pattern.occurs whole ↔
    ∃ i ≤ whole.toList.toArray.size, ∃ j, pattern.Spans whole.toList.toArray i j := by
  simp only [occurs, search, isSome_searchFrom, Nat.zero_le, true_and, Nat.zero_add]
  refine exists_congr fun i => and_congr_right fun inside => ?_
  simp only [← mem_ends_iff inside, List.mem_map]
  constructor
  · intro found
    obtain ⟨way, mem⟩ := List.exists_mem_of_ne_nil _ found
    exact ⟨_, way, mem, rfl⟩
  · rintro ⟨_, way, mem, rfl⟩
    exact List.ne_nil_of_mem mem

end Pattern

/-! ### Blanks around a text -/

namespace Text

/-- The codes of the blanks. -/
def blankCodes : List Nat :=
  [9, 10, 11, 12, 13, 0x20, 0x85, 0xA0, 0x1680, 0x2000, 0x2001, 0x2002, 0x2003, 0x2004, 0x2005,
    0x2006, 0x2007, 0x2008, 0x2009, 0x200A, 0x2028, 0x2029, 0x202F, 0x205F, 0x3000]

theorem mem_blankCodes {c : Char} (blank : isBlank c) : c.toNat ∈ blankCodes := by
  simp only [isBlank, Bool.or_eq_true, Bool.and_eq_true, decide_eq_true_eq, beq_iff_eq] at blank
  simp only [blankCodes, List.mem_cons, List.not_mem_nil, or_false]
  omega

/-- A blank belongs to no word and to no number. -/
theorem wordless_of_isBlank {c : Char} (blank : isBlank c) :
    isWord c = false ∧ isDecimal c = false := by
  have codes : ∀ code ∈ blankCodes,
      isWord (Char.ofNat code) = false ∧ isDecimal (Char.ofNat code) = false := by decide +kernel
  rw [← Char.ofNat_toNat c]
  exact codes _ (mem_blankCodes blank)

end Text

/-- A condition on the words at a place, which sees no difference between a character that belongs
to none and the end of the text. -/
def Place.inward : Place → Bool
  | .boundary .words | .inside .words | .wordStart .words | .wordEnd .words
  | .noWordBefore .words | .noWordAfter .words => true
  | _ => false

/-- A pattern all of whose conditions on places are such. -/
def Pattern.inward : Pattern → Bool
  | .empty | .char _ => true
  | .place condition => condition.inward
  | .sequence first second | .either first second => first.inward && second.inward
  | .loop _ body | .group _ body => body.inward

/-- A text stands in a wider one, and no word there goes on beyond it. -/
structure Within (text wide : Array Char) (offset : Nat) : Prop where
  same : ∀ i < text.size, wide[offset + i]? = text[i]?
  before : (charBefore? wide offset).any Text.isWord = false
  after : wide[offset + text.size]?.any Text.isWord = false

namespace Within

variable {text wide : Array Char} {offset i j : Nat}

theorem before_eq (within : Within text wide offset) (inside : i ≤ text.size) :
    (charBefore? wide (offset + i)).any Text.isWord = (charBefore? text i).any Text.isWord := by
  rcases i with _ | i
  · exact within.before
  · simp only [charBefore?, Nat.add_eq_zero_iff, Nat.succ_ne_zero, and_false, ↓reduceIte,
      Nat.add_one_sub_one]
    rw [show offset + (i + 1) - 1 = offset + i from rfl, within.same i inside]

theorem after_eq (within : Within text wide offset) (inside : i ≤ text.size) :
    wide[offset + i]?.any Text.isWord = text[i]?.any Text.isWord := by
  rcases Nat.eq_or_lt_of_le inside with rfl | less
  · rw [within.after, Array.getElem?_eq_none (Nat.le_refl _)]
    rfl
  · rw [within.same i less]

theorem holds (within : Within text wide offset) (inside : i ≤ text.size) {condition : Place}
    (inward : condition.inward) : condition.holds wide (offset + i) = condition.holds text i := by
  have before := within.before_eq inside
  have after := within.after_eq inside
  have words : CharClass.words.holds = Text.isWord := rfl
  unfold Place.inward at inward
  split at inward <;>
    simp_all [Place.holds, Place.holds.before, Place.holds.after]

/-- What matches in a text matches in the wider one. -/
theorem spans (within : Within text wide offset) {pattern : Pattern} (inward : pattern.inward)
    (inside : i ≤ text.size) (spans : pattern.Spans text i j) :
    pattern.Spans wide (offset + i) (offset + j) := by
  induction pattern generalizing i j with
  | empty => exact congrArg (offset + ·) spans
  | char set =>
    obtain ⟨rfl, holds⟩ := spans
    rcases Nat.lt_or_ge i text.size with less | outside
    · exact ⟨rfl, by rwa [within.same i less]⟩
    · rw [Array.getElem?_eq_none outside] at holds
      cases holds
  | place condition =>
    exact ⟨congrArg (offset + ·) spans.1, (within.holds inside inward).trans spans.2⟩
  | sequence first second hyp hyp' =>
    obtain ⟨inward, inward'⟩ := Bool.and_eq_true_iff.mp inward
    obtain ⟨k, one, other⟩ := spans
    exact ⟨_, hyp inward inside one, hyp' inward' (one.le_size inside) other⟩
  | either first second hyp hyp' =>
    obtain ⟨inward, inward'⟩ := Bool.and_eq_true_iff.mp inward
    exact spans.imp (hyp inward inside) (hyp' inward' inside)
  | loop greedy body hyp =>
    suffices both : TransGen (body.Spans wide) (offset + i) (offset + j) ∧ j ≤ text.size from both.1
    induction spans with
    | single turn => exact ⟨.single (hyp inward inside turn), turn.le_size inside⟩
    | tail _ turn further =>
      exact ⟨further.1.tail (hyp inward further.2 turn), turn.le_size further.2⟩
  | group name body hyp => exact hyp inward inside spans

end Within

namespace Text

/-- A text is what is left of it between the blanks around it. -/
theorem exists_eq_trimChars (chars : List Char) : ∃ before after,
    chars = before ++ trimChars chars ++ after ∧ before.all isBlank ∧ after.all isBlank := by
  have first : chars = chars.takeWhile isBlank ++ chars.dropWhile isBlank :=
    List.takeWhile_append_dropWhile.symm
  have second := congrArg List.reverse (List.takeWhile_append_dropWhile
    (p := isBlank) (l := (chars.dropWhile isBlank).reverse))
  rw [List.reverse_append, List.reverse_reverse] at second
  refine ⟨chars.takeWhile isBlank, ((chars.dropWhile isBlank).reverse.takeWhile isBlank).reverse,
    ?_, List.all_takeWhile, ?_⟩
  · rw [List.append_assoc, trimChars, second]
    exact first
  · rw [List.all_reverse]
    exact List.all_takeWhile

end Text

theorem Within.of_blanks (chars : List Char) {before after : List Char}
    (blanks : before.all Text.isBlank) (blanks' : after.all Text.isBlank) :
    Within chars.toArray (before ++ chars ++ after).toArray before.length := by
  have wordless : ∀ {list : List Char} {c : Option Char}, list.all Text.isBlank →
      (∀ other ∈ c, other ∈ list) → c.any Text.isWord = false := fun {list c} blank mem => by
    rcases c with _ | c
    · rfl
    · exact (Text.wordless_of_isBlank (List.all_eq_true.mp blank c (mem c rfl))).1
  refine ⟨fun i inside => ?_, wordless blanks fun c found => ?_, wordless blanks' fun c found => ?_⟩
  · simp only [List.size_toArray] at inside
    simp [List.getElem?_append, inside]
  · rcases Nat.eq_zero_or_pos before.length with empty | longer
    · simp [charBefore?, empty] at found
    · have place : before.length - 1 < before.length := Nat.sub_lt longer Nat.one_pos
      rw [charBefore?, if_neg (Nat.ne_of_gt longer), List.getElem?_toArray, List.append_assoc,
        List.getElem?_append_left place] at found
      exact List.mem_of_getElem? found
  · rw [List.getElem?_toArray, List.getElem?_append_right (by simp)] at found
    exact List.mem_of_getElem? found

/-- A pattern that asks for nothing but words at its borders occurs in a text in which it occurs
without the blanks around. -/
theorem Pattern.occurs_of_trim {pattern : Pattern} (inward : pattern.inward) {text : String}
    (occurs : pattern.occurs (Text.trim text)) : pattern.occurs text := by
  obtain ⟨i, inside, j, spans⟩ := Pattern.occurs_iff.mp occurs
  obtain ⟨before, after, split, blanks, blanks'⟩ := Text.exists_eq_trimChars text.toList
  have within := Within.of_blanks (Text.trimChars text.toList) blanks blanks'
  rw [← split] at within
  rw [Text.trim, String.toList_ofList] at inside spans
  have spans' := within.spans inward inside spans
  refine Pattern.occurs_iff.mpr ⟨before.length + i, ?_, _, spans'⟩
  have sizes := congrArg List.length split
  simp only [List.length_append, List.size_toArray] at sizes inside ⊢
  omega

end Skirmish
