/-
**Prices that nobody can pay.** An action one of whose texts asks for more than there is has to be given
up, and then nothing has happened:

* `Standard.Names`: a text asks for an amount of a pool;
* `Exceeds`: the amount is more than there is, and one that can be read;
* `Fight.aborted_iff_exceeds`: an action is given up exactly then, so that a price beyond all numbers is
  waived.
-/

import Skirmish.Proofs.Aborts
import Skirmish.Proofs.Bills

namespace Skirmish

open Resolve Resolution Battlefield

/-! ### Reading amounts -/

namespace Text

/-- Decimal digits have no blanks around them. -/
theorem trimChars_of_decimals {chars : List Char} (decimal : ∀ c ∈ chars, isDecimal c) :
    trimChars chars = chars := by
  have stays : ∀ list : List Char, (∀ c ∈ list, isDecimal c) → list.dropWhile isBlank = list := by
    intro list decimal
    rcases list with _ | ⟨c, rest⟩
    · rfl
    · refine List.dropWhile_cons_of_neg fun blank => ?_
      have digit := decimal c (List.mem_cons_self ..)
      exact Bool.false_ne_true ((wordless_of_isBlank blank).2.symm.trans digit)
  rw [trimChars, stays chars decimal, stays _ fun c mem => decimal c (List.mem_reverse.mp mem),
    List.reverse_reverse]

/-- Decimal digits are read where they are ASCII's, and the number is in range. -/
theorem int?_of_decimals {chars : List Char} (decimal : ∀ c ∈ chars, isDecimal c) {n : Int} :
    int? chars = some n ↔ ∃ value : Nat, digitsValue? chars = some value ∧
      (value : Int) ≤ greatestInt ∧ n = value := by
  have unsigned : int? chars = (digitsValue? chars).bind fun value =>
      if FitsInt value then some (value : Int) else none := by
    have sign : isDecimal '+' = false ∧ isDecimal '-' = false := by decide +kernel
    unfold int?
    split
    · exact absurd (decimal _ (List.mem_cons_self ..)) (by simp [sign.1])
    · exact absurd (decimal _ (List.mem_cons_self ..)) (by simp [sign.2])
    · cases digitsValue? chars <;> rfl
  rw [unsigned, Option.bind_eq_some_iff]
  refine exists_congr fun value => and_congr_right fun _ => ?_
  have fits : FitsInt value ↔ (value : Int) ≤ greatestInt := by
    unfold FitsInt leastInt
    omega
  simp [fits, eq_comm]

end Text

/-- A price is the amount and the pool that a rule finds, where the amount can be read. -/
theorem Effect.price_of_named (firing : Firing) {digits tag : String} {pool : Pool}
    (amount : firing.named? "amount" = some digits) (tagged : firing.named? "pool" = some tag)
    (parsed : Pool.parse? tag = some pool) :
    (price firing).toOption
      = (Text.int? (Text.trimChars digits.toList)).map fun amount => (amount, pool) := by
  have named : (firing.require "pool" >>= Pool.named) = Except.ok pool := by
    simp only [Firing.require, tagged, bind, Except.bind, Pool.named, parsed]
  have asks : price firing = (firing.intOr "amount" 0 >>= fun amount =>
      (firing.require "pool" >>= Pool.named) >>= fun pool => Except.ok (amount, pool)) := by
    simp only [price, bind_assoc]
    rfl
  rw [asks, named, Firing.intOr, Firing.int?, amount]
  dsimp only
  cases Text.int? (Text.trimChars digits.toList) <;> rfl

namespace Standard

/-- A text asks for an amount of a pool. The digits may be those of any script. -/
structure Names (text digits : String) (pool : Pool) : Prop where
  decimal : ∀ c ∈ digits.toList, Text.isDecimal c
  found : ∃ finding, costFinding? (Text.trim text) = some finding ∧
    finding.group? "amount" = some digits ∧ (finding.group? "pool").bind Pool.parse? = some pool

/-- The price of a text is the amount that it names, where that can be read. -/
theorem Names.price? {text digits : String} {pool : Pool} (names : Names text digits pool) :
    price? (Text.trim text) = (Text.int? digits.toList).map fun amount => (amount, pool) := by
  obtain ⟨decimal, finding, found, amount, named⟩ := names
  obtain ⟨tag, tagged, parsed⟩ := Option.bind_eq_some_iff.mp named
  have price := Effect.price_of_named ⟨costRule.name, Text.trim text, finding⟩ amount tagged
    parsed
  rw [price?_eq, found, Option.bind_some, price, Text.trimChars_of_decimals decimal]

end Standard

/-- Some digits write an amount that the engine can read, and more than there is. -/
def Exceeds (digits : String) (current : Int) : Prop :=
  ∃ amount : Nat, Text.digitsValue? digits.toList = some amount ∧ (amount : Int) ≤ greatestInt ∧
    current < amount

namespace Standard

variable {text digits : String} {pool : Pool} {payer : Combatant} {before : Resolution}

/-- Whoever is charged for one text cannot pay exactly if it asks for more than there is. Then nothing
is taken. -/
theorem Names.settle (names : Names text digits pool) (payer : Combatant) :
    ((payer.settle (bill [text])).2 ↔ Exceeds digits (payer.pool pool).current) ∧
      ((payer.settle (bill [text])).2 → (payer.settle (bill [text])).1 = payer) := by
  have price : bill [text]
      = ((Text.int? digits.toList).map fun amount => (amount, pool)).toList := by
    rw [bill, List.filterMap_cons, names.price?]
    cases Text.int? digits.toList <;> rfl
  rw [price]
  have exceeds : Exceeds digits (payer.pool pool).current ↔
      ∃ amount, Text.int? digits.toList = some amount ∧ (payer.pool pool).current < amount := by
    simp only [Exceeds, Text.int?_of_decimals names.decimal]
    constructor
    · rintro ⟨value, read, fits, less⟩
      exact ⟨value, ⟨value, read, fits, rfl⟩, less⟩
    · rintro ⟨_, ⟨value, read, fits, rfl⟩, less⟩
      exact ⟨value, read, fits, less⟩
  rw [exceeds]
  rcases read : Text.int? digits.toList with _ | amount
  · simp [Combatant.settle]
  · obtain ⟨value, -, -, rfl⟩ := (Text.int?_of_decimals names.decimal).mp read
    have short : payer.spend? pool value = none ↔ (payer.pool pool).current < value := by
      simp [Combatant.spend?, Gauge.spend?]
    simp only [Option.map_some, Option.toList_some, Combatant.settle, Option.some.injEq,
      exists_eq_left', ← short]
    rcases payer.spend? pool value with _ | paid <;> simp

/-- A text that is charged for aborts the action exactly if its price cannot be paid. -/
theorem aborted_billed (clear : before.tally.aborted = false) :
    (before.billed payer (price? (Text.trim text))).tally.aborted
      = (payer.settle (bill [text])).2 := by
  rw [bill, List.filterMap_cons]
  rcases price? (Text.trim text) with _ | ⟨amount, pool⟩
  · exact clear
  · simp only [Resolution.billed, charged, Combatant.settle, List.filterMap_nil]
    rcases payer.spend? pool amount with _ | paid
    · rfl
    · exact clear

/-- Texts without a price abort nothing. -/
theorem aborted_of_free {texts : List String}
    (hook : before.hook = .activate ∨ before.hook = .onAttack)
    (acting : before.field.Present before.actor) (free : ∀ text ∈ texts, charges text = false) :
    (table.resolveAll texts before).2.tally.aborted = before.tally.aborted := by
  induction texts generalizing before with
  | nil => rfl
  | cons text rest hyp =>
    by_cases aborted : before.tally.aborted
    · rw [RuleTable.resolveAll_of_aborted _ aborted]
    · have clear := Bool.eq_false_iff.mpr aborted
      obtain ⟨payer, found⟩ := acting.find?
      have steady : Steady (Confined before.actor before.target Evolves) (before.billed payer none)
          (table.resolve text before).2 := by
        rw [← price?_trim_of_free (free text (List.mem_cons_self ..))]
        exact steady_resolve hook clear found (fun _ _ _ _ confined => confined) text
      simp only [RuleTable.resolveAll, clear, Bool.false_eq_true, ↓reduceIte]
      have hook' : (table.resolve text before).2.hook = .activate ∨
          (table.resolve text before).2.hook = .onAttack := by
        rwa [steady.hook]
      have acting' : (table.resolve text before).2.field.Present
          (table.resolve text before).2.actor := by
        rw [steady.toFrame.actor]
        exact steady.field.moves.present.mpr acting
      have later := hyp hook' acting' fun other mem => free other (List.mem_cons_of_mem _ mem)
      exact later.trans (steady.aborted.trans clear)

/-- Where a price comes first and the texts after it have none, the action is aborted exactly if the
price cannot be paid, and then nothing has happened. -/
theorem resolveAll_price (text : String) (before : Resolution) (rest : List String)
    (hook : before.hook = .activate ∨ before.hook = .onAttack)
    (clear : before.tally.aborted = false) (found : before.field.find? before.actor = some payer)
    (free : ∀ other ∈ rest, charges other = false) :
    (table.resolveAll (text :: rest) before).2.tally.aborted = (payer.settle (bill [text])).2 ∧
      ((table.resolveAll (text :: rest) before).2.tally.aborted →
        (table.resolveAll (text :: rest) before).2.field = before.field) := by
  have steady : Steady (Confined before.actor before.target Evolves)
      (before.billed payer (price? (Text.trim text))) (table.resolve text before).2 :=
    steady_resolve hook clear found (fun _ _ _ _ confined => confined) text
  obtain ⟨frame, -, unchanged⟩ := costsFirst.resolve text (allows_confined ..) clear
  have aborts := steady.aborted.trans (aborted_billed clear)
  simp only [RuleTable.resolveAll, clear, Bool.false_eq_true, ↓reduceIte]
  generalize (table.resolve text before).2 = middle at *
  have hook' : middle.hook = .activate ∨ middle.hook = .onAttack := by
    rwa [steady.hook.trans hook_billed]
  have acting : middle.field.Present middle.actor := by
    rw [frame.actor]
    exact frame.field.moves.present.mpr (present_of_find? found)
  have later := aborted_of_free hook' acting free
  refine ⟨later.trans aborts, fun aborted => ?_⟩
  have atOnce := later.symm.trans aborted
  rw [RuleTable.resolveAll_of_aborted rest atOnce]
  exact unchanged atOnce

end Standard

namespace Fight

variable {combat : Combat} {payer : Combatant} {text digits : String} {pool : Pool}

theorem attack_of_price (rules : combat.rules = Standard.table) {request : AttackRequest}
    {target : Combatant} (granted : combat.requireAction request.attacker = .ok payer)
    (there : combat.field.require request.target = .ok target)
    (fit : ¬(request.target == request.attacker || !target.isAlive))
    (only : (combat.sources.texts request.attacker request.effects).filter Standard.charges = [text])
    (names : Standard.Names text digits pool) :
    ∃ report after, attack request combat = (.ok report, after) ∧
      (report.aborted ↔ Exceeds digits (payer.pool pool).current) ∧
      (report.aborted → after.field = combat.field) := by
  obtain ⟨-, found⟩ := Combat.requireAction_eq_ok granted
  obtain ⟨report, after, run, given, field⟩ := attack_settles rules granted there fit
  rw [Standard.bill_filter, only] at given field
  obtain ⟨short, untouched⟩ := names.settle payer
  rw [← given] at short untouched
  refine ⟨report, after, run, short, fun aborted => ?_⟩
  rw [field aborted, untouched aborted]
  exact update_self found

theorem activate_of_price (rules : combat.rules = Standard.table) (activation : Activation)
    (granted : combat.requireAction activation.actor = .ok payer)
    (aimed : ∀ id, activation.target = some id → combat.field.Present id)
    (only : activation.effects.filter Standard.charges = [text])
    (names : Standard.Names text digits pool) :
    ∃ report after, activate activation combat = (.ok report, after) ∧
      (report.aborted ↔ Exceeds digits (payer.pool pool).current) ∧
      (report.aborted → after.field = combat.field) := by
  have stock : combat.rules.Stock := rules ▸ Standard.costsFirst.stock
  obtain ⟨-, found⟩ := Combat.requireAction_eq_ok granted
  obtain ⟨report, after, run, made⟩ := activate_of_granted stock granted aimed
  refine ⟨report, after, run, ?_⟩
  rcases made with _ | @⟨actor, _, resolved, running, -, who, ends⟩
  rw [rules, activation.orderedEffects_eq, only] at ends
  obtain ⟨aborts, field⟩ := Standard.resolveAll_price text (activation.opened actor
    (combat.opening .activate activation.actor activation.target activation.tier))
    (activation.effects.filter (!Standard.charges ·)) (.inl rfl) rfl found fun other mem => by
      simpa using (List.mem_filter.mp mem).2
  obtain ⟨short, -⟩ := names.settle payer
  have given : report.aborted = (payer.settle (Standard.bill [text])).2 := ends.aborted.trans aborts
  refine ⟨given ▸ short, fun aborted => ?_⟩
  rw [Combat.field_afterActivation_of_aborted aborted, ends.asked aborted]
  exact field (ends.aborted ▸ aborted)

/-- **A price is waived where it cannot be read.** An action one of whose texts has a price is given up
exactly if the amount is more than there is and can be read, and then nothing has happened. Amounts
beyond all numbers, and those in digits that are not ASCII's, cannot. -/
theorem aborted_iff_exceeds (rules : combat.rules = Standard.table) {who : CombatantId}
    (granted : combat.requireAction who = .ok payer) (names : Standard.Names text digits pool) :
    (∀ activation : Activation, activation.actor = who →
      (∀ id, activation.target = some id → combat.field.Present id) →
      activation.effects.filter Standard.charges = [text] →
      ∃ report after, activate activation combat = (.ok report, after) ∧
        (report.aborted ↔ Exceeds digits (payer.pool pool).current) ∧
        (report.aborted → after.field = combat.field)) ∧
    ∀ (request : AttackRequest) (target : Combatant), request.attacker = who →
      combat.field.require request.target = .ok target →
      ¬(request.target == request.attacker || !target.isAlive) →
      (combat.sources.texts who request.effects).filter Standard.charges = [text] →
      ∃ report after, attack request combat = (.ok report, after) ∧
        (report.aborted ↔ Exceeds digits (payer.pool pool).current) ∧
        (report.aborted → after.field = combat.field) := by
  refine ⟨fun activation acts aimed only => ?_, fun request target attacks there fit only => ?_⟩
  · subst acts
    exact activate_of_price rules activation granted aimed only names
  · subst attacks
    exact attack_of_price rules granted there fit only names

/-! ### Two prices -/

/-- An ability with a price. -/
def nova (price : String) : Activation where
  actor := ⟨1⟩
  target := some ⟨2⟩
  name := "Nova"
  effects := ["Deals 10 damage", price]
  tier := 1

theorem names_of_found (decimal : digits.toList.all Text.isDecimal)
    (found : (Standard.costFinding? (Text.trim text)).any fun finding =>
      finding.group? "amount" == some digits &&
        (finding.group? "pool").bind Pool.parse? == some pool) : Standard.Names text digits pool := by
  obtain ⟨finding, found, both⟩ := (Option.any_eq_true _ _).mp found
  obtain ⟨amount, named⟩ := Bool.and_eq_true_iff.mp both
  exact ⟨List.all_eq_true.mp decimal, finding, found, by simpa using amount, by simpa using named⟩

/-- More than anybody has, which can be read. -/
theorem names_fifty : Standard.Names "Cost: 50 HP" "50" .hitPoints :=
  names_of_found (by decide +kernel) (by decide +kernel)

/-- More than any number. -/
theorem names_beyond : Standard.Names "Cost: 99999999999 HP" "99999999999" .hitPoints :=
  names_of_found (by decide +kernel) (by decide +kernel)

theorem exceeds_fifty : Exceeds "50" (aria.pool .hitPoints).current :=
  ⟨50, by decide +kernel, by decide, by decide +kernel⟩

theorem not_exceeds_beyond (current : Int) : ¬Exceeds "99999999999" current := by
  rintro ⟨amount, read, fits, -⟩
  have value : Text.digitsValue? "99999999999".toList = some 99999999999 := by decide +kernel
  obtain rfl := Option.some.inj (value.symm.trans read)
  exact absurd fits (by decide)

theorem granted_duelUnderway (events : List Event) :
    (duelUnderway events).requireAction ⟨1⟩ = .ok aria :=
  Combat.requireAction_of_turn rfl rfl rfl (by decide +kernel) rfl

/-- For fifty hit points the ability is given up, and for more than any number it is not. -/
theorem aborted_iff_exceeds_nova :
    (∃ report after, activate (nova "Cost: 50 HP") (duelUnderway []) = (.ok report, after) ∧
      report.aborted ∧ after.field = duel.field) ∧
    ∃ report after, activate (nova "Cost: 99999999999 HP") (duelUnderway []) = (.ok report, after) ∧
      ¬report.aborted := by
  have aimed : ∀ id, some ⟨2⟩ = some id → (duelUnderway []).field.Present id :=
    fun id aim => Option.some.inj aim ▸ present_of_find? rfl
  constructor
  · obtain ⟨report, after, run, aborted, unchanged⟩ := (aborted_iff_exceeds
      (rules_duelUnderway []) (granted_duelUnderway []) names_fifty).1 (nova "Cost: 50 HP") rfl aimed
        (by decide +kernel)
    have given := aborted.mpr exceeds_fifty
    exact ⟨report, after, run, given, unchanged given⟩
  · obtain ⟨report, after, run, aborted, -⟩ := (aborted_iff_exceeds
      (rules_duelUnderway []) (granted_duelUnderway []) names_beyond).1
        (nova "Cost: 99999999999 HP") rfl aimed (by decide +kernel)
    exact ⟨report, after, run, fun given => not_exceeds_beyond _ (aborted.mp given)⟩

/-- An ability is not always given up where its price is more than there is. -/
theorem not_forall_aborted_of_price : ¬∀ (activation : Activation) (text digits : String)
    (pool : Pool) (amount : Nat) report after,
    activate activation (duel.after .start) = (.ok report, after) →
      activation.effects.filter Standard.charges = [text] → Standard.Names text digits pool →
      Text.digitsValue? digits.toList = some amount → (aria.pool pool).current < amount →
      activation.actor = ⟨1⟩ → report.aborted := by
  intro always
  obtain ⟨events, underway⟩ := after_start_duel
  rw [underway] at always
  have only : (nova "Cost: 99999999999 HP").effects.filter Standard.charges
      = ["Cost: 99999999999 HP"] := by decide +kernel
  have aimed : ∀ id, some ⟨2⟩ = some id → (duelUnderway events).field.Present id :=
    fun id aim => Option.some.inj aim ▸ present_of_find? rfl
  obtain ⟨report, after, run, aborted, -⟩ := activate_of_price
    (rules_duelUnderway events) (nova "Cost: 99999999999 HP") (granted_duelUnderway events) aimed
    only names_beyond
  exact not_exceeds_beyond _ (aborted.mp (always _ _ _ _ _ _ _ run only names_beyond
    (by decide +kernel : _ = some 99999999999) (by decide +kernel) rfl))

end Fight

end Skirmish
