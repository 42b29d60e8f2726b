/-
**Letters of any case.** Search disregards case by the rules of Unicode, and words are lowered by them.
For the letters of ASCII the two agree, although characters of other scripts may stand for them:

* `holds_letter_of_lowerChar`: what is lowered to a letter is that letter, of some case;
* `isWord_of_letter`: a letter of any case belongs to a word;
* `Reads`: characters begin with some letters of any case, and `reads_of_conditionFor?`: a word for a
  condition begins with its stem.
-/

import Skirmish.Proofs.Matching
import Skirmish.Rule.Wording

namespace Skirmish

open Text

/-! ### One letter -/

namespace CharClass

/-- A letter of any case. -/
def letter (l : Char) : CharClass := .anyCase (.single l)

theorem holds_single (l c : Char) : (single l).holds c = (c == l) := by
  have same : (l.toNat ≤ c.toNat ∧ c.toNat ≤ l.toNat) ↔ c = l := by
    rw [← Char.toNat_inj]
    omega
  rw [Bool.eq_iff_iff, beq_iff_eq, ← same]
  simp [single, holds, Span.holds]

/-- A letter of any case is the letter itself, or one that differs from it by case only. -/
theorem holds_letter {l c : Char} : (letter l).holds c ↔ c = l ∨ l ∈ partners c := by
  simp [letter, holds_single]

end CharClass

open CharClass

/-- A character of ASCII is that of a code of ASCII. -/
theorem exists_ascii {c : Char} (small : c.toNat < 128) : ∃ code < 128, c = Char.ofNat code :=
  ⟨c.toNat, small, (Char.ofNat_toNat c).symm⟩

theorem toNat_ofNat_le (code : Nat) : (Char.ofNat code).toNat = code ∨ (Char.ofNat code).toNat = 0 := by
  by_cases valid : code.isValidChar
  · rw [Char.ofNat, dif_pos valid]
    exact .inl rfl
  · rw [Char.ofNat, dif_neg valid]
    exact .inr rfl

/-- Beyond ASCII only two characters differ from a character of ASCII by case only. -/
theorem eq_of_mem_partners {l c : Char} (large : ¬c.toNat < 128) (small : l.toNat < 128)
    (positive : l.toNat ≠ 0) (mem : l ∈ partners c) : c.toNat = 0x212A ∨ c.toNat = 0x17F := by
  have ends : ∀ run ∈ partnerRuns, (128 ≤ run.first ∧ 128 ≤ run.target) ∨
      (run.last < 128 ∧ (run.target + (run.last - run.first) < 128 ∨
        (run.first = run.last ∧ (run.target = 0x212A ∨ run.target = 0x17F)))) := by decide +kernel
  simp only [partners, if_neg large, List.mem_flatMap, List.mem_map, List.mem_append,
    Option.mem_toList] at mem
  obtain ⟨run, known, code, carried, rfl⟩ := mem
  have bound := ends run known
  have here := toNat_ofNat_le code
  rcases carried with image | source
  · simp only [Run.image?, Option.ite_none_right_eq_some, Option.some.injEq] at image
    omega
  · simp only [Run.source?, Option.ite_none_right_eq_some, Option.some.injEq] at source
    omega

theorem toNat_of_isAlpha {l : Char} (alpha : l.isAlpha) : l.toNat < 128 ∧ l.toNat ≠ 0 := by
  have spans : 'A'.toNat ≤ l.toNat ∧ l.toNat ≤ 'Z'.toNat ∨
      'a'.toNat ≤ l.toNat ∧ l.toNat ≤ 'z'.toNat := by
    have either : (l.isUpper || l.isLower) = true := alpha
    rcases Bool.or_eq_true_iff.mp either with upper | lower
    · exact .inl (of_decide_eq_true upper)
    · obtain ⟨first, last⟩ := Bool.and_eq_true_iff.mp lower
      exact .inr ⟨of_decide_eq_true first, of_decide_eq_true last⟩
  have ends : 'A'.toNat = 65 ∧ 'Z'.toNat = 90 ∧ 'a'.toNat = 97 ∧ 'z'.toNat = 122 := by decide
  omega

/-- A letter of any case belongs to a word. -/
theorem isWord_of_letter {l c : Char} (alpha : l.isAlpha) (holds : (letter l).holds c) :
    isWord c := by
  obtain ⟨small, positive⟩ := toNat_of_isAlpha alpha
  by_cases ascii : c.toNat < 128
  · have words : ∀ code < 128, (partners (Char.ofNat code) = [] ∧ ¬(Char.ofNat code).isAlpha) ∨
        isWord (Char.ofNat code) := by decide +kernel
    obtain ⟨code, bound, rfl⟩ := exists_ascii ascii
    rcases words code bound with ⟨alone, other⟩ | word
    · rcases holds_letter.mp holds with rfl | mem
      · exact absurd alpha other
      · simp [alone] at mem
    · exact word
  · have words : isWord (Char.ofNat 0x212A) ∧ isWord (Char.ofNat 0x17F) := by decide +kernel
    rcases holds_letter.mp holds with rfl | mem
    · exact absurd small ascii
    · rw [← Char.ofNat_toNat c]
      rcases eq_of_mem_partners ascii small positive mem with code | code
      · rw [code]
        exact words.1
      · rw [code]
        exact words.2

/-! ### Lowering -/

/-- What is lowered to a small letter is a letter of ASCII. -/
theorem isAlpha_of_toLower {c : Char} (lower : c.toLower.isLower) : c.isAlpha := by
  unfold Char.toLower at lower
  show (c.isUpper || c.isLower) = true
  split at lower
  case isTrue upper =>
    have isUpper : c.isUpper := decide_eq_true upper
    rw [isUpper, Bool.true_or]
  case isFalse => simp [lower]

/-- What is lowered to a letter is that letter, of some case. -/
theorem holds_letter_of_lowerChar {c x : Char} (lowered : lowerChar c = [x])
    (lower : x.toLower.isLower) : (letter x.toLower).holds c := by
  by_cases ascii : c.toNat < 128
  · have codes : ∀ code < 128, (Char.ofNat code).toLower.toLower.isLower →
        (letter (Char.ofNat code).toLower.toLower).holds (Char.ofNat code) := by decide +kernel
    obtain rfl : c.toLower = x := by simpa [lowerChar, ascii] using lowered
    obtain ⟨code, bound, rfl⟩ := exists_ascii ascii
    exact codes code bound lower
  · obtain ⟨small, positive⟩ := toNat_of_isAlpha (isAlpha_of_toLower lower)
    have ends : ∀ run ∈ lowerRuns,
        run.last < 128 ∨ 128 ≤ run.target ∨ run = ⟨0x212A, 0x212A, 1, 0x6B⟩ := by decide +kernel
    unfold lowerChar at lowered
    rw [if_neg ascii] at lowered
    split at lowered
    · cases lowered
    obtain rfl := List.singleton_inj.mp lowered
    unfold imageIn at small positive lower ⊢
    rcases found : lowerRuns.findSome? (·.image? c.toNat) with _ | code
    · simp only [found, Option.map_none, Option.getD_none] at small
      exact absurd small ascii
    simp only [found, Option.map_some, Option.getD_some] at small positive lower ⊢
    obtain ⟨run, mem, image⟩ := List.exists_of_findSome?_eq_some found
    simp only [Run.image?, Option.ite_none_right_eq_some, Option.some.injEq] at image
    have here := toNat_ofNat_le code
    rcases ends run mem with before | after | rfl
    · omega
    · omega
    · -- The sign for degrees on Kelvin's scale.
      dsimp only at image
      have sign : c.toNat = 0x212A := by omega
      obtain rfl : code = 0x6B := by omega
      rw [← Char.ofNat_toNat c, sign]
      decide +kernel

/-- One character in lower case is one character, but for the capital I with a dot. -/
theorem lowered_cases (before : List Char) (c : Char) (rest : List Char) : ∃ lowered,
    lowerAfter before (c :: rest) = lowered ++ lowerAfter (c :: before) rest ∧
      ((∃ x, lowered = [x] ∧ (x.toLower.isLower → (letter x.toLower).holds c)) ∨
        lowered = ['i', Char.ofNat 0x307]) := by
  refine ⟨_, rfl, ?_⟩
  split
  case isTrue =>
    refine .inl ⟨_, rfl, fun lower => absurd lower ?_⟩
    split <;> decide
  case isFalse =>
    by_cases dotted : c.toNat = 0x130
    · refine .inr ?_
      simp [lowerChar, dotted]
    · refine .inl ?_
      obtain ⟨x, lowered⟩ : ∃ x, lowerChar c = [x] := by
        unfold lowerChar
        rw [if_neg dotted]
        split
        · exact ⟨_, rfl⟩
        · exact ⟨_, rfl⟩
      exact ⟨x, lowered, holds_letter_of_lowerChar lowered⟩

/-! ### Words -/

/-- Characters begin with some letters of any case. -/
def Reads : List Char → List Char → Prop
  | [], _ => True
  | _ :: _, [] => False
  | l :: letters, c :: chars => (letter l).holds c ∧ Reads letters chars

theorem Reads.append {letters chars : List Char} (reads : Reads letters chars)
    (more : List Char) : Reads letters (chars ++ more) := by
  induction letters generalizing chars with
  | nil => trivial
  | cons l letters hyp =>
    rcases chars with _ | ⟨c, chars⟩
    · exact absurd reads id
    · exact ⟨reads.1, hyp reads.2⟩

/-- Characters in lower case begin with some letters where the characters themselves do, of any case. No
letter but the last one can stem from the capital I with a dot. -/
theorem reads_of_begins {letters before chars : List Char} (small : ∀ l ∈ letters, l.isLower)
    (last : letters.getLast? ≠ some 'i')
    (starts : letters <+: (lowerAfter before chars).map Char.toLower) : Reads letters chars := by
  induction letters generalizing before chars with
  | nil => trivial
  | cons l letters hyp =>
    rcases chars with _ | ⟨c, rest⟩
    · exact absurd (List.prefix_nil.mp starts) (List.cons_ne_nil _ _)
    obtain ⟨lowered, split, single | double⟩ := lowered_cases before c rest
    · obtain ⟨x, rfl, stands⟩ := single
      rw [split, List.map_append, List.map_singleton, List.singleton_append,
        List.cons_prefix_cons] at starts
      obtain ⟨rfl, starts⟩ := starts
      refine ⟨stands (small _ (List.mem_cons_self ..)),
        hyp (fun other mem => small other (List.mem_cons_of_mem _ mem)) ?_ starts⟩
      rcases letters with _ | ⟨next, letters⟩
      · simp
      · rwa [List.getLast?_cons_cons] at last
    · rw [split, double, List.map_append, List.map_cons, List.map_singleton, List.cons_append,
        List.cons_prefix_cons] at starts
      obtain ⟨rfl, starts⟩ := starts
      rcases letters with _ | ⟨next, letters⟩
      · exact absurd rfl last
      · rw [List.singleton_append, List.cons_prefix_cons] at starts
        have dot := small next (List.mem_cons_of_mem _ (List.mem_cons_self ..))
        rw [starts.1] at dot
        exact absurd dot (by decide)

/-- A word that does not begin with a blank begins with what is left of it without blanks around. -/
theorem trimChars_begins {c : Char} (chars : List Char) (shown : isBlank c = false) :
    trimChars (c :: chars) <+: c :: chars := by
  obtain ⟨before, after, split, blanks, -⟩ := exists_eq_trimChars (c :: chars)
  rcases before with _ | ⟨first, before⟩
  · exact ⟨after, split.symm⟩
  · have same : c = first := (List.cons.inj split).1
    have blank := List.all_eq_true.mp blanks first (List.mem_cons_self ..)
    rw [← same, shown] at blank
    exact absurd blank Bool.false_ne_true

/-- The stems of conditions, in small letters, begin their names. -/
theorem stem_spec : ∀ condition ∈ knownConditions,
    condition.stem.toList.all Char.isLower ∧ condition.stem.toList.getLast? ≠ some 'i' ∧
      condition.stem.toList.map Char.toLower = condition.stem.toList ∧
      condition.stem.toList <+: condition.name.toList.map Char.toLower := by decide +kernel

/-- A word for a condition begins with its stem, in letters of any case. -/
theorem reads_of_conditionFor? {word : String} {c : Char} {chars : List Char}
    {condition : KnownCondition} (spelled : word.toList = c :: chars) (shown : isBlank c = false)
    (named : conditionFor? word = some condition) : Reads condition.stem.toList word.toList := by
  unfold conditionFor? at named
  dsimp only at named
  split at named
  · cases named
  have names := List.find?_some named
  obtain ⟨small, last, lowered, begins⟩ := stem_spec condition (List.mem_of_find?_eq_some named)
  have starts : condition.stem.toList <+: (lowerChars (trimChars word.toList)).map Char.toLower := by
    rcases Bool.or_eq_true_iff.mp names with whole | stem
    · have same := congrArg String.toList (beq_iff_eq.mp whole)
      simp only [asciiLower, String.toList_ofList] at same
      rwa [same] at begins
    · have further := (List.isPrefixOf_iff_prefix.mp stem).map Char.toLower
      rwa [lowered] at further
  obtain ⟨after, split⟩ := trimChars_begins chars shown
  rw [spelled] at starts ⊢
  rw [← split]
  exact (reads_of_begins (List.all_eq_true.mp small) last starts).append after

end Skirmish
