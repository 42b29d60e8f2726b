/-
**Changing the first entry that fits.** Rosters and condition lists are looked up by a key, and a
change goes to the first entry with that key.

* `find?_updateFirst`: after a change that keeps the key, the entry found is the changed one.
* `updateFirst_of_none`: without a fitting entry nothing changes.
* `firstLeast?_mem`: the entry with the least key, the first of several, is one of them.
-/

namespace Skirmish

variable {α : Type}

/-- The list with its first entry that satisfies `fits` changed by `change`. -/
def updateFirst (fits : α → Bool) (change : α → α) : List α → List α
  | [] => []
  | entry :: rest =>
    if fits entry then change entry :: rest else entry :: updateFirst fits change rest

theorem find?_updateFirst (fits : α → Bool) (change : α → α) (list : List α)
    (keeps : ∀ entry ∈ list, fits entry → fits (change entry)) :
    (updateFirst fits change list).find? fits = (list.find? fits).map change := by
  induction list with
  | nil => rfl
  | cons entry rest hyp =>
    by_cases hit : fits entry
    · simp [updateFirst, hit, keeps entry (by simp) hit]
    · simp [updateFirst, hit, hyp fun other mem => keeps other (by simp [mem])]

theorem updateFirst_of_none (fits : α → Bool) (change : α → α) (list : List α)
    (absent : list.find? fits = none) : updateFirst fits change list = list := by
  induction list with
  | nil => rfl
  | cons entry rest hyp =>
    by_cases hit : fits entry
    · simp [hit] at absent
    · simp only [List.find?_cons, hit] at absent
      simp [updateFirst, hit, hyp absent]

/-- The entry with the least key, the first of several. -/
def firstLeast? (key : α → Nat) : List α → Option α
  | [] => none
  | entry :: rest =>
    match firstLeast? key rest with
    | none => some entry
    | some best => if key entry ≤ key best then some entry else some best

theorem firstLeast?_mem (key : α → Nat) (list : List α) (best : α)
    (found : firstLeast? key list = some best) : best ∈ list := by
  induction list generalizing best with
  | nil => simp [firstLeast?] at found
  | cons entry rest hyp =>
    simp only [firstLeast?] at found
    split at found
    · simp_all
    case h_2 other eq =>
      split at found
      · simp_all
      · obtain rfl := Option.some.inj found
        exact List.mem_cons_of_mem _ (hyp _ eq)

end Skirmish
