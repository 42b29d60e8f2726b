/-
**Written and read back.** What a combatant or an action is written as is read as the same combatant
or action. Only numbers have to fit, as those of any fight do:

* `Json.Record.read?_object`, `maybe_ofOption`, `Json.map?_ofMap`: records, optional fields, maps;
* `CombatantId.parse?_written`: the 32 digits of an identity and their hyphens;
* `Combatant.ofData?_toData`, `CombatAction.ofData?_toData`: the whole of it.
-/

import Mathlib.Algebra.Group.Nat.Defs
import Skirmish.Codec.Combat

namespace Skirmish

open Json (Value Record)

/-! ### Parts of a value -/

/-- A list of which every item is read back is read back. -/
theorem mapM_eq_some {α β : Type} (write : α → β) (read : β → Option α) (items : List α)
    (back : ∀ item ∈ items, read (write item) = some item) :
    (items.map write).mapM read = some items := by
  induction items with
  | nil => rfl
  | cons item rest hyp =>
    rw [List.map_cons, List.mapM_cons, back item (List.mem_cons_self ..),
      hyp fun other mem => back other (List.mem_cons_of_mem _ mem)]
    rfl

namespace Json

variable {α : Type}

theorem Value.list?_list {write : α → Value} {read : Value → Option α} {items : List α}
    (back : ∀ item ∈ items, read (write item) = some item) :
    (Value.list write items).list? read = some items := mapM_eq_some write read items back

theorem Value.list?_texts (items : List String) :
    (Value.texts items).list? Value.text? = some items := Value.list?_list fun _ _ => rfl

/-! ### Records -/

theorem eraseDups_of_nodup {names : List String} (single : names.Nodup) :
    names.eraseDups = names := by
  induction names with
  | nil => rfl
  | cons name rest hyp =>
    obtain ⟨fresh, single⟩ := List.nodup_cons.mp single
    have others : rest.filter (fun other => !other == name) = rest :=
      List.filter_eq_self.mpr fun other mem => by
        have ne : other ≠ name := fun same => fresh (same ▸ mem)
        simpa using ne
    rw [List.eraseDups_cons, others, hyp single]

namespace Record

/-- An object with exactly the fields of a record is that record. -/
theorem read?_object {fields : List String} {members : List (String × Value)}
    (names : members.map Prod.fst = fields) (single : fields.Nodup) :
    read? fields (.object members) = some ⟨true, members⟩ := by
  have all : members.filter (fields.contains ·.1) = members :=
    List.filter_eq_self.mpr fun member mem => by
      simpa [← names] using ⟨member.2, mem⟩
  simp only [read?, all, names, eraseDups_of_nodup single]
  rw [← names, List.length_map, if_pos rfl]

/-- A field that is written or null is read back, as nothing else is written as null. -/
theorem maybe_ofOption (record : Record) (name : String) (write : α → Value)
    (read : Value → Option α) (option : Option α)
    (found : record.found.lookup name = some (.ofOption write option))
    (solid : ∀ value, write value ≠ .null)
    (back : ∀ value, option = some value → read (write value) = some value) :
    record.maybe name read = some option := by
  unfold maybe
  rw [found]
  rcases option with _ | value
  · rfl
  · unfold Value.ofOption
    split
    case h_1 none => cases none
    case h_2 null => exact absurd (Option.some.inj null) (solid value)
    case h_3 written => rw [← Option.some.inj written, back value rfl]; rfl

end Record

end Json

/-! ### Numbers -/

theorem int32?_int {n : Int} (fits : FitsInt n) : int32? (.int n) = some n := if_pos fits

theorem nat32?_nat {n : Nat} (fits : n ≤ greatestNat) : nat32? (.nat n) = some n := by
  have range : (0 : Int) ≤ n ∧ (n : Int) ≤ greatestNat := ⟨Int.natCast_nonneg n, Int.ofNat_le.mpr fits⟩
  simp [nat32?, Value.natUpTo?, Value.nat, Value.intIn?, range]

/-! ### Small records -/

namespace Stat

theorem ofData?_toData (stat : Stat) : ofData? stat.toData = some stat := by
  cases stat <;> decide +kernel

end Stat

namespace Facing

theorem ofData?_toData (facing : Facing) : ofData? facing.toData = some facing := by
  cases facing <;> decide +kernel

end Facing

namespace Cell

/-- The coordinates fit. -/
def Fits (cell : Cell) : Prop := FitsInt cell.x ∧ FitsInt cell.y

theorem ofData?_toData {cell : Cell} (fits : cell.Fits) : ofData? cell.toData = some cell := by
  unfold ofData? toData
  rw [Record.read?_object (by rfl) (by decide)]
  simp [Record.need, List.lookup_cons, int32?_int fits.1, int32?_int fits.2]

end Cell

namespace Gauge

/-- Value and maximum fit. -/
def Fits (gauge : Gauge) : Prop := FitsInt gauge.current ∧ FitsInt gauge.maximum

theorem ofData?_toData {gauge : Gauge} (fits : gauge.Fits) : ofData? gauge.toData = some gauge := by
  unfold ofData? toData
  rw [Record.read?_object (by rfl) (by decide)]
  simp [Record.need, List.lookup_cons, int32?_int fits.1, int32?_int fits.2]

end Gauge

namespace Pools

theorem ofData?_toData {pools : Pools} (fits : ∀ pool, (pools.get pool).Fits) :
    ofData? pools.toData = some pools := by
  have hitPoints := Gauge.ofData?_toData (fits .hitPoints)
  have composure := Gauge.ofData?_toData (fits .composure)
  have stamina := Gauge.ofData?_toData (fits .stamina)
  have focus := Gauge.ofData?_toData (fits .focus)
  simp only [get] at hitPoints composure stamina focus
  unfold ofData? toData
  rw [Record.read?_object (by rfl) (by decide)]
  simp [Record.need, List.lookup_cons, hitPoints, composure, stamina, focus]

end Pools

namespace TurnUse

theorem ofData?_toData (turn : TurnUse) : ofData? turn.toData = some turn := by
  unfold ofData? toData
  rw [Record.read?_object (by rfl) (by decide)]
  rfl

end TurnUse

/-! ### Conditions -/

namespace Duration

/-- The rounds fit. -/
def Fits : Duration → Prop
  | .rounds count => count ≤ greatestNat
  | .permanent => True

theorem ofData?_toData {duration : Duration} (fits : duration.Fits) :
    ofData? duration.toData = some duration := by
  cases duration with
  | rounds count => simp [ofData?, toData, Json.choice?, nat32?_nat fits]
  | permanent => rfl

end Duration

namespace Condition

theorem ofData?_toData {condition : Condition} (fits : condition.duration.Fits) :
    ofData? condition.toData = some condition := by
  unfold ofData? toData
  rw [Record.read?_object (by rfl) (by decide)]
  have flag := Record.maybe_ofOption ⟨true, [("name", .text condition.name),
      ("duration", condition.duration.toData), ("on_expire", .ofOption .text condition.flag)]⟩
    "on_expire" .text Value.text? condition.flag rfl (fun _ => by simp) fun _ _ => rfl
  simp [Record.need, List.lookup_cons, Value.text?, Duration.ofData?_toData fits, flag]

end Condition

namespace ConditionSet

theorem ofData?_toData {set : ConditionSet} (fits : ∀ condition ∈ set.entries, condition.duration.Fits) :
    ofData? set.toData = some set := by
  unfold ofData? toData
  rw [Record.read?_object (by rfl) (by decide)]
  simp [Record.need, Value.list?_list fun condition mem => Condition.ofData?_toData (fits condition mem)]

end ConditionSet

/-! ### Scores -/

namespace Attributes

/-- Setting some scores, of which all for one stat are the same, sets that one. -/
theorem entry?_foldl_set {scores : List (Stat × Int)} {attributes : Attributes} {stat : Stat}
    {entry : Option Int} (agree : ∀ pair ∈ scores, pair.1 = stat → some pair.2 = entry)
    (there : attributes.entry? stat = entry ∨ ∃ pair ∈ scores, pair.1 = stat) :
    Attributes.entry? (scores.foldl (fun attributes (stat, score) => attributes.set stat score)
      attributes) stat = entry := by
  induction scores generalizing attributes with
  | nil => exact there.resolve_right (by simp)
  | cons pair rest hyp =>
    refine hyp (fun other mem => agree other (List.mem_cons_of_mem _ mem)) ?_
    by_cases same : pair.1 = stat
    · refine .inl ?_
      have first := agree pair (List.mem_cons_self ..) same
      simpa [set, same] using first
    · rcases there with before | ⟨other, mem, eq⟩
      · exact .inl (by simpa [set, Ne.symm same] using before)
      · rcases List.mem_cons.mp mem with rfl | mem
        · exact absurd eq same
        · exact .inr ⟨other, mem, eq⟩

theorem mem_setScores {attributes : Attributes} {pair : Stat × Int} :
    pair ∈ attributes.setScores ↔ attributes.entry? pair.1 = some pair.2 := by
  obtain ⟨stat, score⟩ := pair
  simp only [setScores, List.mem_filterMap, Option.map_eq_some_iff, Prod.mk.injEq]
  constructor
  · rintro ⟨stat, -, score, found, rfl, rfl⟩
    exact found
  · exact fun found => ⟨stat, stat.mem_all, score, found, rfl, rfl⟩

/-- The scores that were set are all there is to attributes. -/
theorem ofScores_setScores (attributes : Attributes) : ofScores attributes.setScores = attributes := by
  have entries : Attributes.entry? (ofScores attributes.setScores) = attributes.entry? := by
    funext stat
    refine entry?_foldl_set (fun pair mem same => ?_) ?_
    · rw [← same]
      exact (mem_setScores.mp mem).symm
    · rcases found : attributes.entry? stat with _ | score
      · exact .inl rfl
      · exact .inr ⟨(stat, score), mem_setScores.mpr found, rfl⟩
  cases attributes
  exact congrArg mk entries

/-- The scores that were set fit. -/
def Fits (attributes : Attributes) : Prop :=
  ∀ stat score, attributes.entry? stat = some score → FitsInt score

theorem ofData?_toData {attributes : Attributes} (fits : attributes.Fits) :
    ofData? attributes.toData = some attributes := by
  have scores := mapM_eq_some
    (fun pair : Stat × Int => (pair.1.key, Value.int pair.2)) (fun member =>
      (Stat.ofData? (.text member.1)).bind fun stat => (int32? member.2).map (stat, ·))
    attributes.setScores fun pair mem => by
      have stat : Stat.ofData? (.text pair.1.key) = some pair.1 := Stat.ofData?_toData pair.1
      simp [stat, int32?_int (fits pair.1 pair.2 (mem_setScores.mp mem))]
  unfold ofData? toData
  rw [Record.read?_object (by rfl) (by decide)]
  simp [Record.need, scores, ofScores_setScores]

end Attributes

/-! ### Maps and sets of names -/

namespace NameMap

variable {β : Type}

/-- A name behind all others goes to the end. -/
theorem insertEntry_of_last {name : String} {value : β} {list : List (String × β)}
    (last : ∀ entry ∈ list, entry.1 < name) :
    insertEntry name value list = list ++ [(name, value)] := by
  induction list with
  | nil => rfl
  | cons entry rest hyp =>
    have before := last entry (List.mem_cons_self ..)
    have behind : ¬name < entry.1 := fun after => String.lt_irrefl _ (String.lt_trans before after)
    have ne : name ≠ entry.1 := fun same => String.lt_irrefl entry.1 (same ▸ before)
    simp [insertEntry, behind, ne, hyp fun other mem => last other (List.mem_cons_of_mem _ mem)]

/-- Entries in order are added as they are. -/
theorem entries_foldl_insert {list : List (String × β)} {map : NameMap β}
    (sorted : (map.entries ++ list).Pairwise fun first second => first.1 < second.1) :
    (list.foldl (fun map (name, value) => map.insert name value) map).entries
      = map.entries ++ list := by
  induction list generalizing map with
  | nil => simp
  | cons entry rest hyp =>
    have next : (map.insert entry.1 entry.2).entries = map.entries ++ [entry] :=
      insertEntry_of_last fun other mem => (List.pairwise_append.mp sorted).2.2 other mem entry
        (List.mem_cons_self ..)
    rw [List.foldl_cons, hyp (by rw [next]; simpa using sorted), next]
    simp

theorem ofList_entries (map : NameMap β) : ofList map.entries = map :=
  ext (entries_foldl_insert map.sorted)

end NameMap

theorem NameSet.ofNames_names (set : NameSet) : NameSet.ofNames set.names = set := by
  refine Eq.trans ?_ (NameMap.ofList_entries set)
  simp only [ofNames, NameMap.names, NameMap.ofList, List.foldl_map]
  rfl

theorem Json.map?_ofMap {α : Type} (write : α → Value) (read : Value → Option α) (map : NameMap α)
    (back : ∀ entry ∈ map.entries, read (write entry.2) = some entry.2) :
    Json.map? read (Json.ofMap write map) = some map := by
  have entries := mapM_eq_some (fun entry : String × α => (entry.1, write entry.2))
    (fun member => (read member.2).map fun value => (member.1, value)) map.entries
    fun entry mem => by simp [back entry mem]
  simp [Json.map?, Json.ofMap, entries, NameMap.ofList_entries]

/-! ### Identities -/

namespace Text

/-- The digits of a number are read as the number, as far as they go. -/
theorem hexNumber?_hexDigits (count value : Nat) :
    hexNumber? (hexDigits count value) = some (value % 16 ^ count) := by
  induction count generalizing value with
  | zero => simp [hexNumber?, hexDigits, Nat.mod_one]
  | succ count hyp =>
    have digit := hexValue?_hexDigit (Nat.mod_lt value (show 0 < 16 by decide))
    have split : value % 16 ^ (count + 1) = 16 * (value / 16 % 16 ^ count) + value % 16 := by
      rw [Nat.pow_succ, Nat.mul_comm, Nat.mod_mul]
      omega
    unfold hexNumber? at hyp ⊢
    rw [hexDigits, List.foldlM_append, hyp, split]
    simp [digit]

end Text

namespace CombatantId

theorem length_digits (id : CombatantId) : id.digits.length = 32 := Text.length_hexDigits 32 _

theorem ofDigits?_digits (id : CombatantId) : ofDigits? id.digits = some id := by
  have small : id.bits.toNat < 16 ^ 32 := id.bits.isLt
  rw [ofDigits?, if_pos id.length_digits, digits, Text.hexNumber?_hexDigits, Nat.mod_eq_of_lt small]
  simp

/-- Five groups of digits with hyphens between them are read as the digits without. -/
theorem ofGroups?_of_length {one two three four five : List Char} (first : one.length = 8)
    (second : two.length = 4) (third : three.length = 4) (fourth : four.length = 4)
    (fifth : five.length = 12) :
    ofGroups? (one ++ '-' :: (two ++ '-' :: (three ++ '-' :: (four ++ '-' :: five))))
      = ofDigits? (one ++ two ++ three ++ four ++ five) := by
  have shaped : (one ++ '-' :: (two ++ '-' :: (three ++ '-' :: (four ++ '-' :: five)))).length = 36 ∧
      [8, 13, 18, 23].all fun place => (one ++ '-' :: (two ++ '-' :: (three ++ '-' ::
        (four ++ '-' :: five))))[place]? == some '-' := by
    simp [first, second, third, fourth, fifth, List.getElem?_append]
  rw [ofGroups?, if_pos shaped]
  simp (disch := omega) [first, second, third, fourth, List.drop_append,
    List.drop_of_length_le, List.take_of_length_le]

theorem toList_written (id : CombatantId) : id.written.toList
    = id.digits.take 8 ++ '-' :: ((id.digits.drop 8).take 4 ++ '-' :: ((id.digits.drop 12).take 4 ++
      '-' :: ((id.digits.drop 16).take 4 ++ '-' :: (id.digits.drop 20).take 12))) := by
  simp [written]

/-- The written form of an identity is read as that identity. -/
theorem parse?_written (id : CombatantId) : parse? id.written = some id := by
  have length := id.length_digits
  have long : id.written.toList.length = 36 := by
    rw [toList_written]
    simp [length]
  have whole : id.digits.take 8 ++ (id.digits.drop 8).take 4 ++ (id.digits.drop 12).take 4 ++
      (id.digits.drop 16).take 4 ++ (id.digits.drop 20).take 12 = id.digits := by
    rw [← List.take_add, ← List.take_add, ← List.take_add, ← List.take_add,
      List.take_of_length_le (Nat.le_of_eq length)]
  unfold parse?
  simp only [long]
  rw [toList_written, ofGroups?_of_length (by simp [length]) (by simp [length]) (by simp [length])
    (by simp [length]) (by simp [length]), whole, ofDigits?_digits]

theorem ofData?_toData (id : CombatantId) : ofData? id.toData = some id := by
  unfold ofData? toData
  rw [Value.text?, Option.bind_some, parse?_written]

end CombatantId

/-! ### Combatants -/

namespace Combatant

/-- All numbers of a combatant fit, as those of every combatant of a fight do. -/
structure Fits (combatant : Combatant) : Prop where
  scores : combatant.attributes.Fits
  pools : ∀ pool, (combatant.pool pool).Fits
  position : combatant.position.Fits
  elevation : FitsInt combatant.elevation
  initiative : ∀ score, combatant.initiative = some score → FitsInt score
  ranks : ∀ entry ∈ combatant.skillRanks.entries, FitsInt entry.2
  armor : FitsInt combatant.armorRank
  conditions : ∀ condition ∈ combatant.conditions.entries, condition.duration.Fits

theorem ofData?_toData {combatant : Combatant} (fits : combatant.Fits) :
    ofData? combatant.toData = some combatant := by
  obtain ⟨members, written, names⟩ : ∃ members, combatant.toData = .object members ∧
      members.map Prod.fst = fields := ⟨_, rfl, rfl⟩
  have ranks := Json.map?_ofMap .int int32? combatant.skillRanks
    fun entry mem => int32?_int (fits.ranks entry mem)
  have initiative := Record.maybe_ofOption ⟨true, members⟩ "initiative" .int int32?
    combatant.initiative (by cases written; rfl) (fun _ => by simp)
    fun score given => int32?_int (fits.initiative score given)
  rw [ofData?, written, Record.read?_object names (by decide +kernel), Option.bind_eq_bind,
    Option.bind_some, initiative]
  cases written
  simp [Record.need, List.lookup_cons, CombatantId.ofData?_toData, Value.text?,
    Attributes.ofData?_toData fits.scores, Pools.ofData?_toData fits.pools,
    Cell.ofData?_toData fits.position, Facing.ofData?_toData, int32?_int fits.elevation, ranks,
    int32?_int fits.armor, ConditionSet.ofData?_toData fits.conditions, Value.list?_texts,
    NameSet.ofNames_names, TurnUse.ofData?_toData]

end Combatant

/-! ### Actions -/

theorem Stat.toData_ne_null (stat : Stat) : stat.toData ≠ .null := Value.noConfusion

theorem CombatantId.toData_ne_null (id : CombatantId) : id.toData ≠ .null := Value.noConfusion

namespace AttackRequest

theorem ofData?_toData {request : AttackRequest} (fits : request.tier ≤ greatestNat) :
    ofData? request.toData = some request := by
  obtain ⟨members, written, names⟩ : ∃ members, request.toData = .object members ∧
      members.map Prod.fst
        = ["attacker", "target", "stat", "defense_stat", "skill", "effects", "tier"] :=
    ⟨_, rfl, rfl⟩
  have skill := Record.maybe_ofOption ⟨true, members⟩ "skill" .text Value.text?
    request.skill (by cases written; rfl) (fun _ => by simp) fun _ _ => rfl
  rw [ofData?, written, Record.read?_object names (by decide +kernel), Option.bind_eq_bind,
    Option.bind_some, skill]
  cases written
  simp [Record.need, List.lookup_cons, CombatantId.ofData?_toData, Stat.ofData?_toData,
    Value.list?_texts, nat32?_nat fits]

end AttackRequest

namespace Activation

theorem ofData?_toData {activation : Activation} (fits : activation.tier ≤ greatestNat) :
    ofData? activation.toData = some activation := by
  obtain ⟨members, written, names⟩ : ∃ members, activation.toData = .object members ∧
      members.map Prod.fst = ["actor", "target", "name", "effects", "tier"] := ⟨_, rfl, rfl⟩
  have target := Record.maybe_ofOption ⟨true, members⟩ "target" CombatantId.toData
    CombatantId.ofData? activation.target (by cases written; rfl) CombatantId.toData_ne_null
    fun id _ => CombatantId.ofData?_toData id
  rw [ofData?, written, Record.read?_object names (by decide +kernel), Option.bind_eq_bind,
    Option.bind_some, target]
  cases written
  simp [Record.need, List.lookup_cons, CombatantId.ofData?_toData, Value.text?, Value.list?_texts,
    nat32?_nat fits]

end Activation

namespace CombatAction

/-- The numbers of an action fit. -/
def Fits : CombatAction → Prop
  | .attack request => request.tier ≤ greatestNat
  | .activate activation => activation.tier ≤ greatestNat
  | .move _ goal => goal.Fits
  | .resolveClash _ | .endTurn => True

theorem ofData?_toData {action : CombatAction} (fits : action.Fits) :
    ofData? action.toData = some action := by
  cases action with
  | attack request =>
    simp [ofData?, toData, Json.choice?, AttackRequest.ofData?_toData fits]
  | activate activation =>
    simp [ofData?, toData, Json.choice?, Activation.ofData?_toData fits]
  | move actor goal =>
    have read : Record.read? ["actor", "to"] (.object [("actor", actor.toData), ("to", goal.toData)])
        = some ⟨true, _⟩ := Record.read?_object rfl (by decide)
    simp [ofData?, toData, Json.choice?, read, Record.need, List.lookup_cons,
      CombatantId.ofData?_toData, Cell.ofData?_toData fits]
  | resolveClash stat =>
    have read : Record.read? ["stat"] (.object [("stat", .ofOption Stat.toData stat)])
        = some ⟨true, _⟩ := Record.read?_object rfl (by decide)
    have maybe := Record.maybe_ofOption ⟨true, [("stat", .ofOption Stat.toData stat)]⟩ "stat"
      Stat.toData Stat.ofData? stat rfl Stat.toData_ne_null fun stat _ => Stat.ofData?_toData stat
    simp [ofData?, toData, Json.choice?, read, maybe]
  | endTurn => rfl

end CombatAction

/-- **Round trips.** Every combatant and every action is read back from the data that it is written
as. -/
theorem readBack_of_fits (combatant : Combatant) (action : CombatAction) (fits : combatant.Fits)
    (fits' : action.Fits) : Combatant.ofData? combatant.toData = some combatant ∧
      CombatAction.ofData? action.toData = some action :=
  ⟨Combatant.ofData?_toData fits, CombatAction.ofData?_toData fits'⟩

/-- A combatant with something in every field. -/
def veteran : Combatant :=
  { Combatant.fresh ⟨0x0123456789abcdeffedcba9876543210⟩ "Ælra \"the Grey\"" (.set .baseline .charm 14)
    with
    archetype := "human", team := "red", position := ⟨-3, 7⟩, facing := .west, elevation := -5,
    initiative := some (-2), skillRanks := .ofList [("Longsword", 3), ("Lore", -1)], armorRank := 2,
    conditions := ⟨[⟨"Stunned", .rounds 2, some "stunned"⟩, ⟨"Cursed", .permanent, none⟩]⟩,
    flags := .ofNames ["stunned", "phasing"], turn := { moved := true } }

/-- She is read back, and so is the wish to settle a contest on charm. -/
theorem readBack_veteran : veteran.Fits ∧ (CombatAction.resolveClash (some .charm)).Fits ∧
    Combatant.ofData? veteran.toData = some veteran ∧
    CombatAction.ofData? (CombatAction.resolveClash (some .charm)).toData
      = some (.resolveClash (some .charm)) := by
  have fits : veteran.Fits := {
    scores := fun stat score found => by
      have which : stat = .charm ∧ score = 14 := by
        by_cases same : stat = .charm
        · simp_all [veteran, Combatant.fresh, Attributes.set]
        · simp_all [veteran, Combatant.fresh, Attributes.set, Attributes.baseline]
      rw [which.2]
      decide
    pools := fun pool => by cases pool <;> exact ⟨by decide, by decide⟩
    position := ⟨by decide, by decide⟩
    elevation := by decide
    initiative := fun score given => by
      obtain rfl := Option.some.inj given
      decide
    ranks := by decide +kernel
    armor := by decide
    conditions := fun condition mem => by
      simp only [veteran, List.mem_cons, List.not_mem_nil, or_false] at mem
      rcases mem with rfl | rfl
      · exact Nat.le_of_ble_eq_true rfl
      · trivial }
  exact ⟨fits, trivial, readBack_of_fits veteran _ fits trivial⟩

end Skirmish
