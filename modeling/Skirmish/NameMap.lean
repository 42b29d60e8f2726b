/-
**Maps keyed by name**, kept in the order of their keys (by code point), each key once. Two maps
with the same content are equal.

* `sorted`: the order is part of the type.
* `get?_insert`: reading back what was written.
-/

namespace Skirmish

/-- A map from names, in the order of the names. -/
structure NameMap (β : Type) where
  entries : List (String × β)
  sorted : entries.Pairwise fun first second => first.1 < second.1

/-- A set of names. -/
abbrev NameSet := NameMap Unit

namespace NameMap

variable {β : Type}

/-- Write an entry into its place in a sorted list. -/
def insertEntry (name : String) (value : β) : List (String × β) → List (String × β)
  | [] => [(name, value)]
  | entry :: rest =>
    if name < entry.1 then (name, value) :: entry :: rest
    else if name = entry.1 then (name, value) :: rest
    else entry :: insertEntry name value rest

theorem mem_insertEntry {name : String} {value : β} {list : List (String × β)}
    {entry : String × β} (mem : entry ∈ insertEntry name value list) :
    entry = (name, value) ∨ entry ∈ list := by
  induction list with
  | nil => simpa [insertEntry] using mem
  | cons head rest hyp =>
    simp only [insertEntry] at mem
    split at mem
    · simpa using mem
    · split at mem
      · rcases List.mem_cons.mp mem with same | later
        · exact .inl same
        · exact .inr (List.mem_cons_of_mem _ later)
      · rcases List.mem_cons.mp mem with same | later
        · exact .inr (by simp [same])
        · exact (hyp later).imp id (List.mem_cons_of_mem _)

/-- The greater of two distinct names. -/
theorem lt_of_not_lt_of_ne {first second : String} (notBelow : ¬first < second)
    (ne : first ≠ second) : second < first := by
  have below : second ≤ first := String.not_lt.mp notBelow
  rcases Decidable.em (second < first) with lt | notLt
  · exact lt
  · exact absurd (String.le_antisymm (String.not_lt.mp notLt) below) ne

theorem pairwise_insertEntry (name : String) (value : β) (list : List (String × β))
    (sorted : list.Pairwise fun first second => first.1 < second.1) :
    (insertEntry name value list).Pairwise fun first second => first.1 < second.1 := by
  induction list with
  | nil => simp [insertEntry]
  | cons head rest hyp =>
    obtain ⟨below, sortedRest⟩ := List.pairwise_cons.mp sorted
    simp only [insertEntry]
    split
    case isTrue before =>
      refine List.pairwise_cons.mpr ⟨fun entry mem => ?_, sorted⟩
      rcases List.mem_cons.mp mem with rfl | later
      · exact before
      · exact String.lt_trans before (below entry later)
    case isFalse notBefore =>
      split
      case isTrue same =>
        subst same
        exact List.pairwise_cons.mpr ⟨below, sortedRest⟩
      case isFalse ne =>
        refine List.pairwise_cons.mpr ⟨fun entry mem => ?_, hyp sortedRest⟩
        rcases mem_insertEntry mem with rfl | old
        · exact lt_of_not_lt_of_ne notBefore ne
        · exact below entry old

/-- The map without entries. -/
def empty : NameMap β := ⟨[], .nil⟩

instance : EmptyCollection (NameMap β) := ⟨empty⟩
instance : Inhabited (NameMap β) := ⟨empty⟩

/-- The value under a name. -/
def get? (map : NameMap β) (name : String) : Option β :=
  (map.entries.find? (·.1 == name)).map (·.2)

/-- A name has a value. -/
def contains (map : NameMap β) (name : String) : Bool := map.entries.any (·.1 == name)

/-- The map with a value under a name; what was there before is replaced. -/
def insert (map : NameMap β) (name : String) (value : β) : NameMap β :=
  ⟨insertEntry name value map.entries, pairwise_insertEntry name value _ map.sorted⟩

/-- The map without a name. -/
def erase (map : NameMap β) (name : String) : NameMap β :=
  ⟨map.entries.filter (·.1 != name), map.sorted.filter _⟩

/-- The names, in order. -/
def names (map : NameMap β) : List String := map.entries.map (·.1)

/-- The map of a list of entries; of two with one name the later counts. -/
def ofList (list : List (String × β)) : NameMap β :=
  list.foldl (fun map (name, value) => map.insert name value) empty

theorem ext {first second : NameMap β} (same : first.entries = second.entries) :
    first = second := by
  cases first; cases second; simp_all

instance [DecidableEq β] : DecidableEq (NameMap β) := fun first second =>
  if same : first.entries = second.entries then isTrue (ext same)
  else isFalse fun eq => same (by rw [eq])

theorem find?_insertEntry (name : String) (value : β) (list : List (String × β))
    (other : String) :
    ((insertEntry name value list).find? (·.1 == other)).map (·.2)
      = if name = other then some value else (list.find? (·.1 == other)).map (·.2) := by
  induction list with
  | nil => by_cases same : name = other <;> simp [insertEntry, same]
  | cons head rest hyp =>
    simp only [insertEntry]
    split
    · by_cases same : name = other <;> simp [same]
    · split
      case isTrue same =>
        by_cases hit : name = other
        · simp [hit]
        · have miss : ¬head.1 = other := same ▸ hit
          simp [hit, miss]
      case isFalse ne =>
        by_cases hit : head.1 = other
        · have miss : ¬name = other := fun eq => ne (eq.trans hit.symm)
          simp [hit, miss]
        · simpa [hit] using hyp

/-- Reading back. -/
theorem get?_insert (map : NameMap β) (name other : String) (value : β) :
    (map.insert name value).get? other = if name = other then some value else map.get? other :=
  find?_insertEntry name value map.entries other

end NameMap

namespace NameSet

/-- The set with one more name. -/
def add (set : NameSet) (name : String) : NameSet := set.insert name ()

/-- The set of the names in a list. -/
def ofNames (names : List String) : NameSet := names.foldl (fun set name => set.insert name ()) {}

end NameSet

end Skirmish
