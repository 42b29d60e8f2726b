/-
**The roster, looked up and changed by identity.** Whoever is on a battlefield is known by an
identity, and where no identity occurs twice a roster is a map from identities to combatants:

* `find?_eq_some_iff`: a look-up finds exactly the combatant of that identity;
* `update_eq_map`, `mem_update_iff`: a change goes to that combatant and leaves everyone else alone;
* `map_update`: a change moves, adds and removes nobody;
* `occupant?_eq_none_iff`, `occupant?_eq_some`: who holds a cell, in terms of the living.
-/

import Skirmish.Battlefield

namespace Skirmish

/-! ### Changing the entry of a key -/

section Keyed

variable {α κ : Type} [DecidableEq κ]

/-- A change that agrees with another one on the first fitting entry is that other one. -/
theorem updateFirst_congr (fits : α → Bool) (change other : α → α) (list : List α)
    (same : ∀ entry, list.find? fits = some entry → change entry = other entry) :
    updateFirst fits change list = updateFirst fits other list := by
  induction list with
  | nil => rfl
  | cons entry rest hyp =>
    by_cases hit : fits entry
    · simp [updateFirst, hit, same entry (by simp [hit])]
    · have later : updateFirst fits change rest = updateFirst fits other rest :=
        hyp fun found eq => same found (by simp [hit, eq])
      simp [updateFirst, hit, later]

/-- What a change leaves alone in the entry it goes to, it leaves alone in the whole list. -/
theorem map_updateFirst {β : Type} (fits : α → Bool) (change : α → α) (view : α → β)
    (list : List α) (same : ∀ entry, list.find? fits = some entry →
      view (change entry) = view entry) :
    (updateFirst fits change list).map view = list.map view := by
  induction list with
  | nil => rfl
  | cons entry rest hyp =>
    by_cases hit : fits entry
    · simp [updateFirst, hit, same entry (by simp [hit])]
    · simp [updateFirst, hit, hyp fun other eq => same other (by simp [hit, eq])]

/-- An entry of a changed list was there before or is the changed one. -/
theorem mem_updateFirst {fits : α → Bool} {change : α → α} {list : List α} {entry : α}
    (mem : entry ∈ updateFirst fits change list) :
    entry ∈ list ∨ ∃ old, list.find? fits = some old ∧ entry = change old := by
  induction list with
  | nil => cases mem
  | cons head rest hyp =>
    by_cases hit : fits head
    · simp only [updateFirst, hit, ↓reduceIte, List.mem_cons] at mem
      rcases mem with rfl | later
      · exact .inr ⟨head, by simp [hit], rfl⟩
      · exact .inl (List.mem_cons_of_mem _ later)
    · simp only [updateFirst, hit, Bool.false_eq_true, ↓reduceIte, List.mem_cons] at mem
      rcases mem with rfl | later
      · exact .inl (List.mem_cons_self ..)
      · refine (hyp later).imp (List.mem_cons_of_mem _) ?_
        rintro ⟨old, found, rfl⟩
        exact ⟨old, by simp [hit, found], rfl⟩

/-- Where no key occurs twice, the first entry of a key is the only one. -/
theorem updateFirst_eq_map (key : α → κ) (wanted : κ) (change : α → α) (list : List α)
    (nodup : (list.map key).Nodup) :
    updateFirst (key · == wanted) change list
      = list.map fun entry => if key entry = wanted then change entry else entry := by
  induction list with
  | nil => rfl
  | cons entry rest hyp =>
    obtain ⟨fresh, nodupRest⟩ := List.nodup_cons.mp nodup
    by_cases hit : key entry = wanted
    · have others : rest.map (fun other => if key other = wanted then change other else other)
          = rest := by
        refine (List.map_congr_left fun other mem => if_neg fun eq => ?_).trans (List.map_id rest)
        exact fresh (List.mem_map.mpr ⟨other, mem, eq.trans hit.symm⟩)
      simp [updateFirst, hit, others]
    · simp [updateFirst, hit, hyp nodupRest]

/-- Where no key occurs twice, a look-up finds exactly the entry of its key. -/
theorem find?_key_eq_some_iff (key : α → κ) (wanted : κ) (list : List α)
    (nodup : (list.map key).Nodup) (entry : α) :
    list.find? (key · == wanted) = some entry ↔ entry ∈ list ∧ key entry = wanted := by
  constructor
  · intro found
    exact ⟨List.mem_of_find?_eq_some found, by simpa using List.find?_some found⟩
  · rintro ⟨mem, rfl⟩
    induction list with
    | nil => cases mem
    | cons head rest hyp =>
      obtain ⟨fresh, nodupRest⟩ := List.nodup_cons.mp nodup
      rcases List.mem_cons.mp mem with rfl | later
      · simp
      · have ne : key head ≠ key entry := fun eq =>
          fresh (List.mem_map.mpr ⟨entry, later, eq.symm⟩)
        simp [ne, hyp nodupRest later]

end Keyed

namespace Battlefield

variable {field : Battlefield} {id other : CombatantId} {combatant : Combatant}

/-! ### Who is there -/

/-- Everyone in the roster has an identity of their own. -/
def Distinct (field : Battlefield) : Prop := (field.roster.map Combatant.id).Nodup

/-- Somebody of that identity is in the roster. -/
def Present (field : Battlefield) (id : CombatantId) : Prop := id ∈ field.roster.map Combatant.id

theorem mem_of_find? (found : field.find? id = some combatant) : combatant ∈ field.roster :=
  List.mem_of_find?_eq_some found

theorem id_of_find? (found : field.find? id = some combatant) : combatant.id = id := by
  simpa using List.find?_some found

theorem present_of_find? (found : field.find? id = some combatant) : field.Present id :=
  List.mem_map.mpr ⟨combatant, mem_of_find? found, id_of_find? found⟩

theorem present_of_mem (mem : combatant ∈ field.roster) : field.Present combatant.id :=
  List.mem_map.mpr ⟨combatant, mem, rfl⟩

theorem Present.find? (present : field.Present id) : ∃ combatant, field.find? id = some combatant := by
  obtain ⟨combatant, mem, same⟩ := List.mem_map.mp present
  exact Option.isSome_iff_exists.mp (List.find?_isSome.mpr ⟨combatant, mem, by simpa using same⟩)

theorem find?_eq_none_iff : field.find? id = none ↔ ¬field.Present id := by
  constructor
  · intro absent present
    obtain ⟨combatant, found⟩ := present.find?
    exact absurd (absent.symm.trans found) (by simp)
  · intro absent
    rcases eq : field.find? id with _ | combatant
    · rfl
    · exact absurd (present_of_find? eq) absent

theorem find?_eq_some_iff (distinct : field.Distinct) :
    field.find? id = some combatant ↔ combatant ∈ field.roster ∧ combatant.id = id :=
  find?_key_eq_some_iff Combatant.id id field.roster distinct combatant

/-- Two in the roster with one identity are the same. -/
theorem Distinct.eq_of_id (distinct : field.Distinct) {one two : Combatant}
    (mem : one ∈ field.roster) (mem' : two ∈ field.roster) (same : one.id = two.id) :
    one = two :=
  Option.some.inj (((find?_eq_some_iff distinct).mpr ⟨mem, same⟩).symm.trans
    ((find?_eq_some_iff distinct).mpr ⟨mem', rfl⟩))

theorem require_eq_ok : field.require id = .ok combatant ↔ field.find? id = some combatant := by
  unfold require
  split <;> simp_all

/-! ### Changing somebody -/

/-- A change reads nobody but the one it goes to. -/
theorem update_congr {change other : Combatant → Combatant}
    (same : ∀ combatant, field.find? id = some combatant → change combatant = other combatant) :
    field.update id change = field.update id other := by
  simp only [update, updateFirst_congr _ _ _ _ same]

/-- Putting a changed combatant in its place is changing it. -/
theorem update_const (found : field.find? id = some combatant) (change : Combatant → Combatant) :
    field.update id (fun _ => change combatant) = field.update id change :=
  update_congr fun one eq => by rw [Option.some.inj (found.symm.trans eq)]

/-- Putting somebody in its own place changes nothing. -/
theorem update_self (found : field.find? id = some combatant) :
    field.update id (fun _ => combatant) = field := by
  have unchanged : ∀ list : List Combatant, updateFirst (·.id == id) (fun one => one) list = list := by
    intro list
    induction list with
    | nil => rfl
    | cons entry rest hyp => simp [updateFirst, hyp]
  rw [update_const found fun one => one]
  simp only [update, unchanged]

/-- Of two who take one place, the later one stays. -/
theorem update_update (new : Combatant) (same : new.id = id) (last : Combatant) :
    (field.update id fun _ => new).update id (fun _ => last) = field.update id fun _ => last := by
  have twice : ∀ list : List Combatant,
      updateFirst (·.id == id) (fun _ => last) (updateFirst (·.id == id) (fun _ => new) list)
        = updateFirst (·.id == id) (fun _ => last) list := by
    intro list
    induction list with
    | nil => rfl
    | cons entry rest hyp => by_cases hit : entry.id = id <;> simp [updateFirst, hit, same, hyp]
  simp only [update, twice]

/-- Two who take different places do so in any order. -/
theorem update_comm {one last : Combatant} (same : one.id = id) (same' : last.id = other)
    (ne : id ≠ other) : (field.update id fun _ => one).update other (fun _ => last)
      = (field.update other fun _ => last).update id fun _ => one := by
  have both : ∀ list : List Combatant,
      updateFirst (·.id == other) (fun _ => last) (updateFirst (·.id == id) (fun _ => one) list)
        = updateFirst (·.id == id) (fun _ => one)
            (updateFirst (·.id == other) (fun _ => last) list) := by
    intro list
    induction list with
    | nil => rfl
    | cons entry rest hyp =>
      by_cases first : entry.id = id
      · simp [updateFirst, first, same, ne]
      · by_cases second : entry.id = other
        · simp [updateFirst, second, same', ne.symm]
        · simp [updateFirst, first, second, hyp]
  simp only [update, both]

/-- What a change leaves alone in its combatant, it leaves alone in the roster. -/
theorem map_update {β : Type} (view : Combatant → β) {change : Combatant → Combatant}
    (same : ∀ combatant, field.find? id = some combatant → view (change combatant) = view combatant) :
    (field.update id change).roster.map view = field.roster.map view :=
  map_updateFirst _ _ view _ same

theorem update_eq_map (distinct : field.Distinct) (change : Combatant → Combatant) :
    field.update id change
      = { field with
          roster := field.roster.map fun one => if one.id = id then change one else one } := by
  simp only [update, updateFirst_eq_map Combatant.id id change field.roster distinct]

theorem mem_update_iff (distinct : field.Distinct) (change : Combatant → Combatant) :
    combatant ∈ (field.update id change).roster ↔
      (combatant ∈ field.roster ∧ combatant.id ≠ id) ∨
        ∃ old, field.find? id = some old ∧ combatant = change old := by
  simp only [update_eq_map distinct, List.mem_map, find?_eq_some_iff distinct]
  constructor
  · rintro ⟨old, mem, rfl⟩
    by_cases same : old.id = id
    · exact .inr ⟨old, ⟨mem, same⟩, by simp [same]⟩
    · exact .inl ⟨by simpa [same] using mem, by simp [same]⟩
  · rintro (⟨mem, ne⟩ | ⟨old, ⟨mem, same⟩, rfl⟩)
    · exact ⟨combatant, mem, by simp [ne]⟩
    · exact ⟨old, mem, by simp [same]⟩

/-- Looking somebody up after a change that keeps identities. -/
theorem find?_update {change : Combatant → Combatant}
    (keeps : ∀ combatant, (change combatant).id = combatant.id) :
    (field.update id change).find? other
      = if other = id then (field.find? id).map change else field.find? other := by
  by_cases same : other = id
  · subst same
    rw [if_pos rfl]
    exact find?_updateFirst (·.id == other) change field.roster fun one _ hit => by
      simpa [keeps] using hit
  · rw [if_neg same]
    simp only [find?, update]
    induction field.roster with
    | nil => rfl
    | cons entry rest hyp =>
      by_cases hit : entry.id = id
      · have ne : ¬entry.id = other := fun eq => same (eq.symm.trans hit)
        have neLater : ¬(change entry).id = other := by rwa [keeps]
        simp [updateFirst, hit, Ne.symm same, keeps]
      · by_cases found : entry.id = other <;> simp [updateFirst, hit, found, hyp, same]

/-- Whoever has been changed is found as changed. -/
theorem find?_update_self {change : Combatant → Combatant} (found : field.find? id = some combatant)
    (keeps : ∀ combatant, (change combatant).id = combatant.id) :
    (field.update id change).find? id = some (change combatant) := by
  rw [find?_update keeps, if_pos rfl, found]
  rfl

/-- Two changes of somebody, one after the other, are one change. -/
theorem update_comp (field : Battlefield) (change next : Combatant → Combatant)
    {id : CombatantId} {combatant : Combatant} (found : field.find? id = some combatant)
    (keeps : ∀ one, (change one).id = one.id) :
    (field.update id change).update id next = field.update id fun one => next (change one) := by
  have same : (change combatant).id = id := (keeps combatant).trans (id_of_find? found)
  rw [← update_const (find?_update_self found keeps) next, ← update_const found change,
    update_update _ same, update_const found fun one => next (change one)]

/-- Whoever takes the place of somebody is found there. -/
theorem find?_replace {new : Combatant} (found : field.find? id = some combatant)
    (same : new.id = id) : (field.update id fun _ => new).find? id = some new := by
  have first : ∀ list : List Combatant, list.find? (·.id == id) = some combatant →
      (updateFirst (·.id == id) (fun _ => new) list).find? (·.id == id) = some new := by
    intro list
    induction list with
    | nil => exact fun found => absurd found (by simp)
    | cons entry rest hyp =>
      by_cases hit : entry.id = id
      · simp [updateFirst, hit, same]
      · simpa [updateFirst, hit] using hyp
  exact first field.roster found

/-- Whoever takes the place of somebody leaves everyone else to be found as before. -/
theorem find?_replace_of_ne {new : Combatant} (same : new.id = id) (ne : other ≠ id) :
    (field.update id fun _ => new).find? other = field.find? other := by
  simp only [find?, update]
  induction field.roster with
  | nil => rfl
  | cons entry rest hyp =>
    by_cases hit : entry.id = id
    · simp [updateFirst, hit, same, Ne.symm ne]
    · by_cases found : entry.id = other <;> simp [updateFirst, hit, found, hyp, ne]

/-- A change of somebody leaves everyone else to be found as before. -/
theorem find?_update_of_ne {change : Combatant → Combatant} (ne : other ≠ id)
    (keeps : ∀ combatant, (change combatant).id = combatant.id) :
    (field.update id change).find? other = field.find? other := by
  rw [find?_update keeps, if_neg ne]

/-! ### The living, and the cells they hold -/

theorem mem_living : combatant ∈ field.living ↔ combatant ∈ field.roster ∧ combatant.isAlive := by
  simp [living]

/-- The enemies of somebody on the field are the living of other teams. -/
theorem mem_enemiesOf_iff :
    combatant ∈ field.enemiesOf id ↔
      combatant ∈ field.living ∧ ∃ self, field.find? id = some self ∧ combatant.team ≠ self.team := by
  unfold enemiesOf
  rcases field.find? id with _ | self
  · simp
  · simp

theorem enemiesOf_sublist (field : Battlefield) (id : CombatantId) :
    (field.enemiesOf id).Sublist field.roster := by
  unfold enemiesOf
  split
  · exact List.nil_sublist _
  · exact List.filter_sublist.trans List.filter_sublist

variable {cell : Cell}

/-- Nobody holds a cell where none of the living stands. -/
theorem occupant?_eq_none_iff :
    field.occupant? cell = none ↔ ∀ one ∈ field.living, one.position ≠ cell := by
  simp [occupant?]

/-- Whoever holds a cell is alive and stands there. -/
theorem occupant?_eq_some (holds : field.occupant? cell = some id) :
    ∃ one ∈ field.living, one.position = cell ∧ one.id = id := by
  obtain ⟨one, found, same⟩ := Option.map_eq_some_iff.mp holds
  exact ⟨one, List.mem_of_find?_eq_some found, by simpa using List.find?_some found, same⟩

/-- A free cell is walkable, and none of the living stands there. -/
theorem isFree_iff :
    field.isFree cell ↔
      field.terrain.isWalkable cell ∧ ∀ one ∈ field.living, one.position ≠ cell := by
  simp only [isFree, Bool.and_eq_true, Option.isNone_iff_eq_none, occupant?_eq_none_iff]

end Battlefield

end Skirmish
