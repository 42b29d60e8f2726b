/-
**Which texts are dice formulas.** A grammar says what a formula looks like once blanks are gone and
letters are lowered, and which numbers it stands for:

* `Text.Decimal`, `Text.Signed`: digits, and digits with or without a sign, with what they write;
* `DiceFormula.Written`: the grammar, a signed number or dice with an optional count and bonus;
* `DiceFormula.parse?_eq_some_iff`: what is read are the formulas of the grammar, no more and no less;
* `DiceFormula.written_text`, `DiceFormula.written_text_flat`: a formula is shown as the grammar has it;
* `DiceFormula.parse?_text`: so whatever was read once can be shown and read again.
-/

import Mathlib.Data.List.TakeWhile
import Mathlib.Tactic.ByContra
import Skirmish.Dice.Formula

namespace Skirmish

/-! ### Numerals -/

namespace Text

variable {chars : List Char} {value : Nat}

/-- One or more digits, and the number they write. Zeros in front add nothing. -/
structure Decimal (digits : List Char) (value : Nat) : Prop where
  nonempty : digits ≠ []
  digit : ∀ c ∈ digits, c.isDigit
  value_eq : Nat.ofDigitChars 10 digits 0 = value

/-- Digits with or without a sign in front, and the number they write. -/
inductive Signed : List Char → Int → Prop
  | bare {digits : List Char} {value : Nat} : Decimal digits value → Signed digits value
  | plus {digits : List Char} {value : Nat} : Decimal digits value → Signed ('+' :: digits) value
  | minus {digits : List Char} {value : Nat} : Decimal digits value → Signed ('-' :: digits) (-value)

/-- No sign is a digit, so digits do not start with one. -/
theorem Decimal.unsigned (decimal : Decimal chars value) {rest : List Char} :
    chars ≠ '+' :: rest ∧ chars ≠ '-' :: rest := by
  constructor
  · rintro rfl
    exact absurd (decimal.digit '+' (List.mem_cons_self ..)) (by decide)
  · rintro rfl
    exact absurd (decimal.digit '-' (List.mem_cons_self ..)) (by decide)

theorem digitsFrom?_eq_some {start : Nat} :
    digitsFrom? start chars = some value ↔
      (∀ c ∈ chars, c.isDigit) ∧ Nat.ofDigitChars 10 chars start = value := by
  induction chars generalizing start with
  | nil => simp [digitsFrom?]
  | cons c rest hyp =>
    have step : digitsFrom? start (c :: rest)
        = if c.isDigit then digitsFrom? (10 * start + digitValue c) rest else none := by
      simp only [digitsFrom?, List.foldlM_cons]
      split <;> rfl
    rw [step, Nat.ofDigitChars_cons]
    by_cases digit : c.isDigit
    · rw [if_pos digit, hyp, List.forall_mem_cons, and_iff_right digit]
      rfl
    · simp [digit]

theorem digitsValue?_eq_some : digitsValue? chars = some value ↔ Decimal chars value := by
  unfold digitsValue?
  split
  case isTrue empty =>
    refine ⟨nofun, fun decimal => absurd (List.isEmpty_iff.mp empty) decimal.nonempty⟩
  case isFalse some =>
    rw [digitsFrom?_eq_some]
    exact ⟨fun ⟨digit, value⟩ => ⟨fun empty => some (List.isEmpty_iff.mpr empty), digit, value⟩,
      fun decimal => ⟨decimal.digit, decimal.value_eq⟩⟩

/-- What is found and then held against a condition is kept as it is. -/
theorem bind_ite_eq_some {α : Type} (fits : α → Prop) [DecidablePred fits] {found : Option α}
    {value : α} :
    (found.bind fun value => if fits value then some value else none) = some value ↔
      found = some value ∧ fits value := by
  cases found with
  | none => simp
  | some one =>
    rw [Option.bind_some, Option.ite_none_right_eq_some]
    exact ⟨fun ⟨fit, same⟩ => ⟨same, Option.some.inj same ▸ fit⟩,
      fun ⟨same, fit⟩ => ⟨(Option.some.inj same).symm ▸ fit, same⟩⟩

/-- An unsigned number is written by digits, with or without a plus sign. -/
theorem natUpTo?_eq_some {greatest : Nat} :
    natUpTo? greatest chars = some value ↔
      (Decimal chars value ∨ ∃ digits, chars = '+' :: digits ∧ Decimal digits value) ∧
        value ≤ greatest := by
  unfold natUpTo?
  refine (bind_ite_eq_some (· ≤ greatest)).trans (and_congr_left' ?_)
  rw [digitsValue?_eq_some]
  split
  case h_1 rest =>
    refine ⟨fun decimal => .inr ⟨rest, rfl, decimal⟩, ?_⟩
    rintro (decimal | ⟨digits, same, decimal⟩)
    · exact absurd rfl decimal.unsigned.1
    · obtain rfl := (List.cons.inj same).2
      exact decimal
  case h_2 bare =>
    refine ⟨.inl, ?_⟩
    rintro (decimal | ⟨digits, rfl, -⟩)
    · exact decimal
    · exact absurd rfl (bare digits)

/-- A signed number is written by digits with or without a sign. -/
theorem int?_eq_some {value : Int} :
    int? chars = some value ↔ Signed chars value ∧ FitsInt value := by
  unfold int?
  split
  case h_1 rest =>
    refine (bind_ite_eq_some FitsInt).trans (and_congr_left' ?_)
    simp only [Option.map_eq_some_iff, digitsValue?_eq_some]
    refine ⟨?_, fun signed => ?_⟩
    · rintro ⟨size, decimal, rfl⟩
      exact .plus decimal
    · cases signed with
      | bare decimal => exact absurd rfl decimal.unsigned.1
      | plus decimal => exact ⟨_, decimal, rfl⟩
  case h_2 rest =>
    refine (bind_ite_eq_some FitsInt).trans (and_congr_left' ?_)
    refine Iff.trans (b := (digitsValue? rest).map (fun size : Nat => -(size : Int)) = some value)
      (by cases digitsValue? rest <;> exact Iff.rfl) ?_
    simp only [Option.map_eq_some_iff, digitsValue?_eq_some]
    refine ⟨?_, fun signed => ?_⟩
    · rintro ⟨size, decimal, rfl⟩
      exact .minus decimal
    · cases signed with
      | bare decimal => exact absurd rfl decimal.unsigned.2
      | minus decimal => exact ⟨_, decimal, rfl⟩
  case h_3 notPlus notMinus =>
    refine (bind_ite_eq_some FitsInt).trans (and_congr_left' ?_)
    simp only [Option.map_eq_some_iff, digitsValue?_eq_some]
    refine ⟨?_, fun signed => ?_⟩
    · rintro ⟨size, decimal, rfl⟩
      exact .bare decimal
    · cases signed with
      | bare decimal => exact ⟨_, decimal, rfl⟩
      | plus => exact absurd rfl (notPlus _)
      | minus => exact absurd rfl (notMinus _)

/-! ### Numbers as they are shown -/

theorem decimal_toString (value : Nat) : Decimal (toString value).toList value := by
  show Decimal value.repr.toList value
  rw [Nat.toList_repr]
  exact ⟨Nat.toDigits_ne_nil, fun c => Nat.isDigit_of_mem_toDigits (by decide) (by decide),
    Nat.ofDigitChars_ten_toDigits⟩

theorem toString_of_nonneg {value : Int} (nonneg : 0 ≤ value) :
    toString value = toString value.toNat := by
  rw [Int.toString_eq_repr, Int.repr_eq_if, if_pos nonneg]
  rfl

theorem toString_of_neg {value : Int} (negative : value < 0) :
    toString value = "-" ++ toString (-value).toNat := by
  rw [Int.toString_eq_repr, Int.repr_eq_if, if_neg (by omega)]
  rfl

theorem signed_toString (value : Int) : Signed (toString value).toList value := by
  rcases Int.lt_or_le value 0 with negative | nonneg
  · have signed := Signed.minus (decimal_toString (-value).toNat)
    rw [Int.toNat_of_nonneg (by omega), Int.neg_neg] at signed
    rw [toString_of_neg negative, String.toList_append]
    exact signed
  · have signed := Signed.bare (decimal_toString value.toNat)
    rw [Int.toNat_of_nonneg nonneg] at signed
    rw [toString_of_nonneg nonneg]
    exact signed

end Text

namespace DiceFormula

open Text

variable {text : String} {chars countPart sidesPart bonusPart : List Char} {formula : DiceFormula}
  {count sides : Nat} {bonus : Int}

/-! ### The grammar -/

/-- How many dice stand before their letter: one if nothing does. -/
inductive Counted : List Char → Nat → Prop
  | absent : Counted [] 1
  | bare {digits : List Char} {count : Nat} : Decimal digits count → Counted digits count
  | plus {digits : List Char} {count : Nat} : Decimal digits count → Counted ('+' :: digits) count

/-- What is added to the dice: nothing, or a number after its sign. -/
inductive Added : List Char → Int → Prop
  | absent : Added [] 0
  | plus {digits : List Char} {value : Nat} : Decimal digits value → Added ('+' :: digits) value
  | minus {digits : List Char} {value : Nat} : Decimal digits value → Added ('-' :: digits) (-value)

/-- The characters of a formula, and the formula. -/
inductive Written : List Char → DiceFormula → Prop
  | flat {chars : List Char} {value : Int} : Signed chars value → FitsInt value →
      Written chars ⟨0, .d6, value⟩
  | dice {countPart sidesPart bonusPart : List Char} {count sides : Nat} {bonus : Int} :
      Counted countPart count → Decimal sidesPart sides → Added bonusPart bonus →
      count ≤ 100 → 1 ≤ sides → sides ≤ 1000 → FitsInt bonus →
      Written (countPart ++ 'd' :: (sidesPart ++ bonusPart)) ⟨count, .withSides sides, bonus⟩

/-- The characters that formulas are made of. -/
def Plain (c : Char) : Prop := c.isDigit ∨ c = 'd' ∨ c = '+' ∨ c = '-'

theorem plain_of_decimal {digits : List Char} {value : Nat} (decimal : Decimal digits value) :
    ∀ c ∈ digits, Plain c := fun c mem => .inl (decimal.digit c mem)

theorem plain_cons_of_decimal {sign : Char} {digits : List Char} {value : Nat} (plain : Plain sign)
    (decimal : Decimal digits value) : ∀ c ∈ sign :: digits, Plain c :=
  List.forall_mem_cons.mpr ⟨plain, plain_of_decimal decimal⟩

theorem Counted.plain (counted : Counted countPart count) : ∀ c ∈ countPart, Plain c := by
  cases counted with
  | absent => exact fun c mem => absurd mem (List.not_mem_nil)
  | bare decimal => exact plain_of_decimal decimal
  | plus decimal => exact plain_cons_of_decimal (.inr (.inr (.inl rfl))) decimal

theorem Added.plain (added : Added bonusPart bonus) : ∀ c ∈ bonusPart, Plain c := by
  cases added with
  | absent => exact fun c mem => absurd mem (List.not_mem_nil)
  | plus decimal => exact plain_cons_of_decimal (.inr (.inr (.inl rfl))) decimal
  | minus decimal => exact plain_cons_of_decimal (.inr (.inr (.inr rfl))) decimal

theorem Written.plain (written : Written chars formula) : ∀ c ∈ chars, Plain c := by
  cases written with
  | flat signed =>
    cases signed with
    | bare decimal => exact plain_of_decimal decimal
    | plus decimal => exact plain_cons_of_decimal (.inr (.inr (.inl rfl))) decimal
    | minus decimal => exact plain_cons_of_decimal (.inr (.inr (.inr rfl))) decimal
  | dice counted decimal added =>
    intro c mem
    rcases List.mem_append.mp mem with mem | mem
    · exact counted.plain c mem
    · rcases List.mem_cons.mp mem with rfl | mem
      · exact .inr (.inl rfl)
      · rcases List.mem_append.mp mem with mem | mem
        · exact plain_of_decimal decimal c mem
        · exact added.plain c mem

/-- The characters of a formula are neither blank nor capital. -/
theorem Plain.kept {c : Char} (plain : Plain c) :
    isBlank c = false ∧ c.toNat < 128 ∧ c.toLower = c := by
  rcases plain with digit | rfl | rfl | rfl
  · obtain ⟨low, high⟩ := Char.isDigit_iff_toNat.mp digit
    change 48 ≤ c.toNat at low
    change c.toNat ≤ 57 at high
    refine ⟨?_, by omega, dif_neg fun capital => ?_⟩
    · simp [isBlank]
      omega
    · have above : 65 ≤ c.toNat := UInt32.le_iff_toNat_le.mp capital.1
      omega
  · decide
  · decide
  · decide

theorem lowerAfter_of_plain (before : List Char) (plain : ∀ c ∈ chars, Plain c) :
    lowerAfter before chars = chars := by
  induction chars generalizing before with
  | nil => rfl
  | cons c rest hyp =>
    obtain ⟨plain, others⟩ := List.forall_mem_cons.mp plain
    obtain ⟨-, ascii, kept⟩ := plain.kept
    rw [lowerAfter, if_neg (by omega), lowerChar, if_pos ascii, kept, hyp _ others]
    rfl

/-- A text of such characters is as compact as it gets. -/
theorem compact_of_plain (plain : ∀ c ∈ text.toList, Plain c) : compact text = text.toList := by
  have unblank : withoutBlanks text.toList = text.toList :=
    List.filter_eq_self.mpr fun c mem => by simp [(plain c mem).kept.1]
  rw [compact, unblank]
  exact lowerAfter_of_plain [] plain

/-! ### Reading -/

/-- A count before its letter: one if there is nothing, else an unsigned number. -/
theorem counted_iff (small : count ≤ greatestNat) :
    (if countPart.isEmpty then some 1 else nat? countPart) = some count ↔
      Counted countPart count := by
  split
  case isTrue empty =>
    obtain rfl := List.isEmpty_iff.mp empty
    refine ⟨fun same => Option.some.inj same ▸ .absent, fun counted => ?_⟩
    cases counted with
    | absent => rfl
    | bare decimal => exact absurd rfl decimal.nonempty
  case isFalse some =>
    refine natUpTo?_eq_some.trans ((and_iff_left small).trans ⟨?_, fun counted => ?_⟩)
    · rintro (decimal | ⟨digits, rfl, decimal⟩)
      · exact .bare decimal
      · exact .plus decimal
    · cases counted with
      | absent => exact absurd rfl some
      | bare decimal => exact .inl decimal
      | plus decimal => exact .inr ⟨_, rfl, decimal⟩

/-- Digits on their own are read as what they write. -/
theorem sides_iff (small : sides ≤ greatestNat) (unsigned : ∀ rest, sidesPart ≠ '+' :: rest) :
    nat? sidesPart = some sides ↔ Decimal sidesPart sides := by
  refine natUpTo?_eq_some.trans ((and_iff_left small).trans ⟨?_, .inl⟩)
  rintro (decimal | ⟨digits, rfl, -⟩)
  · exact decimal
  · exact absurd rfl (unsigned digits)

/-- What follows the sides starts with a sign, if there is anything. -/
theorem added_iff (signed : ∀ c rest, bonusPart = c :: rest → c = '+' ∨ c = '-') :
    (if bonusPart.isEmpty then some 0 else int? bonusPart) = some bonus ↔
      Added bonusPart bonus ∧ FitsInt bonus := by
  rcases bonusPart with _ | ⟨sign, digits⟩
  · simp only [List.isEmpty_nil, ↓reduceIte, Option.some.injEq]
    constructor
    · rintro rfl
      exact ⟨.absent, by decide⟩
    · rintro ⟨added, -⟩
      cases added
      rfl
  · simp only [List.isEmpty_cons, Bool.false_eq_true, ↓reduceIte]
    refine int?_eq_some.trans (and_congr_left' ⟨fun written => ?_, fun added => ?_⟩)
    · cases written with
      | bare decimal =>
        rcases signed sign digits rfl with rfl | rfl
        · exact absurd rfl decimal.unsigned.1
        · exact absurd rfl decimal.unsigned.2
      | plus decimal => exact .plus decimal
      | minus decimal => exact .minus decimal
    · cases added with
      | plus decimal => exact .plus decimal
      | minus decimal => exact .minus decimal

/-- A character other than a sign. -/
def unsigned (c : Char) : Bool := !(c == '+' || c == '-')

theorem unsigned_of_decimal (decimal : Decimal sidesPart sides) : ∀ c ∈ sidesPart, unsigned c := by
  intro c mem
  have digit := decimal.digit c mem
  unfold unsigned
  by_contra signed
  have sign : c = '+' ∨ c = '-' := by simpa [Classical.or_iff_not_imp_left] using signed
  rcases sign with rfl | rfl <;> exact absurd digit (by decide)

/-- Dice are read part by part. -/
theorem ofParts?_eq (countPart rest : List Char) :
    ofParts? countPart rest =
      ((if countPart.isEmpty then some 1 else nat? countPart).bind fun count =>
        (nat? (rest.takeWhile unsigned)).bind fun sides =>
          (if (rest.dropWhile unsigned).isEmpty then some 0
            else int? (rest.dropWhile unsigned)).bind fun bonus =>
              if count ≤ mostDice ∧ 1 ≤ sides ∧ sides ≤ mostSides then
                some ⟨count, .withSides sides, bonus⟩ else none) := by
  have part : (fun c : Char => !(c == '+' || c == '-')) = unsigned := rfl
  simp only [ofParts?, part, bind]
  split <;> split <;> rfl

/-- Without a letter for dice, a text is read as a number. -/
theorem parse?_of_not_mem (none : 'd' ∉ compact text) :
    parse? text = (int? (compact text)).map flat := by
  have whole : (compact text).takeWhile (· != 'd') = compact text :=
    List.takeWhile_eq_self_iff.mpr fun c mem => bne_iff_ne.mpr (ne_of_mem_of_not_mem mem none)
  simp only [parse?, whole, List.drop_length]

/-- With one, it is cut at the first. -/
theorem parse?_of_split {rest : List Char} (split : compact text = countPart ++ 'd' :: rest)
    (first : 'd' ∉ countPart) : parse? text = ofParts? countPart rest := by
  have before : (compact text).takeWhile (· != 'd') = countPart := by
    have others : ∀ c ∈ countPart, (c != 'd') = true := fun c mem =>
      bne_iff_ne.mpr (ne_of_mem_of_not_mem mem first)
    rw [split, List.takeWhile_append_of_pos others, List.takeWhile_cons_of_neg (by decide),
      List.append_nil]
  have cut : (compact text).drop countPart.length = 'd' :: rest := by rw [split, List.drop_left]
  simp only [parse?, before, cut]

theorem not_mem_of_decimal (decimal : Decimal sidesPart sides) : 'd' ∉ sidesPart :=
  fun mem => absurd (decimal.digit 'd' mem) (by decide)

theorem Counted.not_mem (counted : Counted countPart count) : 'd' ∉ countPart := by
  cases counted with
  | absent => exact List.not_mem_nil
  | bare decimal => exact not_mem_of_decimal decimal
  | plus decimal => simpa using not_mem_of_decimal decimal

/-- The parts of dice are read as the grammar has them. -/
theorem ofParts?_eq_some {rest : List Char} :
    ofParts? countPart rest = some formula ↔ ∃ count sides bonus sidesPart bonusPart,
      rest = sidesPart ++ bonusPart ∧ Counted countPart count ∧ Decimal sidesPart sides ∧
      Added bonusPart bonus ∧ count ≤ 100 ∧ 1 ≤ sides ∧ sides ≤ 1000 ∧ FitsInt bonus ∧
      formula = ⟨count, .withSides sides, bonus⟩ := by
  rw [ofParts?_eq]
  constructor
  · intro read
    obtain ⟨count, counted, read⟩ := Option.bind_eq_some_iff.mp read
    obtain ⟨sides, sided, read⟩ := Option.bind_eq_some_iff.mp read
    obtain ⟨bonus, added, read⟩ := Option.bind_eq_some_iff.mp read
    obtain ⟨⟨few, positive, small⟩, same⟩ := Option.ite_none_right_eq_some.mp read
    unfold mostDice at few
    unfold mostSides at small
    have counted := (counted_iff (by unfold greatestNat; omega)).mp counted
    have decimal := (sides_iff (by unfold greatestNat; omega) fun after starts => by
      have first := List.all_takeWhile (l := rest) (p := unsigned)
      rw [starts] at first
      exact absurd first (by simp [unsigned])).mp sided
    obtain ⟨added, fits⟩ := (added_iff fun c after starts => by
      have first := List.head?_dropWhile_not unsigned rest
      rw [starts] at first
      simpa [unsigned, Classical.or_iff_not_imp_left] using first).mp added
    exact ⟨count, sides, bonus, _, _, (List.takeWhile_append_dropWhile).symm, counted, decimal, added,
      few, positive, small, fits, (Option.some.inj same).symm⟩
  · rintro ⟨count, sides, bonus, sidesPart, bonusPart, rfl, counted, decimal, added, few, positive,
      small, fits, rfl⟩
    have plain := unsigned_of_decimal decimal
    have signed : bonusPart.takeWhile unsigned = [] ∧ bonusPart.dropWhile unsigned = bonusPart := by
      cases added <;> exact ⟨rfl, rfl⟩
    have starts : ∀ c rest, bonusPart = c :: rest → c = '+' ∨ c = '-' := by
      rintro c rest rfl
      cases added with
      | plus => exact .inl rfl
      | minus => exact .inr rfl
    rw [List.takeWhile_append_of_pos plain, List.dropWhile_append_of_pos plain, signed.1, signed.2,
      List.append_nil, (counted_iff (by unfold greatestNat; omega)).mpr counted, Option.bind_some,
      (sides_iff (by unfold greatestNat; omega) fun _ => decimal.unsigned.1).mpr decimal,
      Option.bind_some, (added_iff starts).mpr ⟨added, fits⟩, Option.bind_some]
    exact if_pos ⟨few, positive, small⟩

/-- What is read are the formulas of the grammar. -/
theorem parse?_eq_some_iff : parse? text = some formula ↔ Written (compact text) formula := by
  constructor
  · intro read
    by_cases mem : 'd' ∈ compact text
    · obtain ⟨countPart, rest, split, first⟩ := List.eq_append_cons_of_mem mem
      rw [parse?_of_split split first] at read
      obtain ⟨count, sides, bonus, sidesPart, bonusPart, rfl, counted, decimal, added, few, positive,
        small, fits, rfl⟩ := ofParts?_eq_some.mp read
      rw [split]
      exact .dice counted decimal added few positive small fits
    · rw [parse?_of_not_mem mem] at read
      obtain ⟨value, found, rfl⟩ := Option.map_eq_some_iff.mp read
      obtain ⟨signed, fits⟩ := int?_eq_some.mp found
      exact .flat signed fits
  · intro written
    generalize same : compact text = chars at written
    cases written with
    | flat signed fits =>
      have none : 'd' ∉ compact text := by
        rw [same]
        cases signed with
        | bare decimal => exact not_mem_of_decimal decimal
        | plus decimal => simpa using not_mem_of_decimal decimal
        | minus decimal => simpa using not_mem_of_decimal decimal
      rw [parse?_of_not_mem none, same, int?_eq_some.mpr ⟨signed, fits⟩]
      rfl
    | dice counted decimal added few positive small fits =>
      rw [parse?_of_split same counted.not_mem]
      exact ofParts?_eq_some.mpr ⟨_, _, _, _, _, rfl, counted, decimal, added, few, positive, small,
        fits, rfl⟩

/-! ### Showing -/

/-- What a bonus adds to the text of its dice. -/
def bonusText (bonus : Int) : String :=
  if bonus = 0 then "" else if 0 < bonus then "+" ++ toString bonus else toString bonus

theorem added_bonusText (bonus : Int) : Added (bonusText bonus).toList bonus := by
  unfold bonusText
  split
  case isTrue none =>
    subst none
    exact .absent
  case isFalse some =>
    split
    case isTrue positive =>
      have added := Added.plus (decimal_toString bonus.toNat)
      rw [Int.toNat_of_nonneg (by omega)] at added
      rw [toString_of_nonneg (by omega), String.toList_append]
      exact added
    case isFalse negative =>
      have added := Added.minus (decimal_toString (-bonus).toNat)
      rw [Int.toNat_of_nonneg (by omega), Int.neg_neg] at added
      rw [toString_of_neg (by omega), String.toList_append]
      exact added

/-- Dice are shown part by part. -/
theorem text_of_dice (some : 0 < formula.count) :
    formula.text.toList = (toString formula.count).toList ++
      'd' :: ((toString formula.die.sides).toList ++ (bonusText formula.bonus).toList) := by
  have shown : formula.text = toString formula.count ++ ("d" ++ toString formula.die.sides) ++
      bonusText formula.bonus := by
    rw [text, if_neg (by omega)]
    unfold bonusText
    split
    case isTrue => exact (String.append_empty ..).symm
    case isFalse =>
      split
      case isTrue => exact String.append_assoc ..
      case isFalse => rfl
  rw [shown]
  simp only [String.toList_append, List.append_assoc]
  rfl

/-- Whatever the grammar writes with dice is shown as the grammar has it. -/
theorem written_text (written : Written chars formula) (some : 0 < formula.count) :
    Written formula.text.toList formula := by
  cases written with
  | flat => exact absurd some (Nat.lt_irrefl 0)
  | @dice _ _ _ count sides bonus counted decimal added few positive small fits =>
    rw [text_of_dice some, Die.sides_withSides]
    exact .dice (.bare (decimal_toString count)) (decimal_toString sides) (added_bonusText bonus) few
      positive small fits

/-- Without dice only the bonus is shown. -/
theorem written_text_flat (fits : FitsInt formula.bonus) (none : formula.count = 0) :
    Written formula.text.toList (flat formula.bonus) := by
  rw [text, if_pos none]
  exact .flat (signed_toString formula.bonus) fits

theorem Written.fits (written : Written chars formula) : FitsInt formula.bonus := by
  cases written <;> assumption

/-- What is shown as the grammar has it is read. -/
theorem parse?_of_written (written : Written text.toList formula) : parse? text = some formula :=
  parse?_eq_some_iff.mpr ((compact_of_plain written.plain).symm ▸ written)

/-- Without dice nothing is drawn. -/
theorem faces_of_none (none : formula.count = 0) (supply : Dice) :
    formula.faces supply = ([], supply) := by
  rw [faces, none]
  rfl

/-- A text is read exactly as the grammar has it, once blanks are gone and letters are lowered. And
whatever was read can be shown and read again: dice come back as they were, and a formula without dice
as one that draws none either and comes to the same total. -/
theorem parse?_iff_written_and_text (text : String) (formula : DiceFormula) :
    (parse? text = some formula ↔ Written (compact text) formula) ∧
    (parse? text = some formula → ∃ again, parse? formula.text = some again ∧
      (0 < formula.count → again = formula) ∧
      (formula.count = 0 → again.count = 0 ∧ ∀ supply other,
        again.faces supply = ([], supply) ∧
        again.total (again.faces supply).1 = formula.total (formula.faces other).1)) := by
  refine ⟨parse?_eq_some_iff, fun read => ?_⟩
  have written := parse?_eq_some_iff.mp read
  rcases Nat.eq_zero_or_pos formula.count with none | some
  · refine ⟨flat formula.bonus, parse?_of_written (written_text_flat written.fits none),
      fun some => absurd none (by omega), fun _ => ⟨rfl, fun supply other => ⟨rfl, ?_⟩⟩⟩
    rw [faces_of_none none other]
    rfl
  · exact ⟨formula, parse?_of_written (written_text written some), fun _ => rfl,
      fun none => absurd none (by omega)⟩

theorem text_greatsword :
    Written (compact " 2 D6+03") ⟨2, .d6, 3⟩ ∧
    ∃ again, parse? (⟨2, .d6, 3⟩ : DiceFormula).text = some again ∧ again = ⟨2, .d6, 3⟩ := by
  have read : parse? " 2 D6+03" = some ⟨2, .d6, 3⟩ := by decide +kernel
  obtain ⟨written, shown⟩ := parse?_iff_written_and_text " 2 D6+03" ⟨2, .d6, 3⟩
  obtain ⟨again, found, same, -⟩ := shown read
  exact ⟨written.mp read, again, found, same (by decide)⟩

end DiceFormula

end Skirmish
