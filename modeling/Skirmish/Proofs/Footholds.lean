/-
**Where somebody can stand.** A cell is free if it is walkable and none of the living stands there.
Whoever goes to a free cell, and whoever stays where it is, leaves everyone else a cell of their own:

* `Grounded.replace`, `Exclusive.replace`: one combatant is replaced by another state of itself;
* `Cell.Foremost`: of two cells around an origin the nearer one comes first, and of two as near the
  first by rows;
* `nearestFree?_eq_some`, `nearestFree?_eq_none`: the search ring by ring finds the foremost free cell,
  and finds none only where there is none;
* `nearestFree?_iff_foremost`: so its answer is decided by which cells in reach are free.
-/

import Skirmish.Proofs.Occupancy

namespace Skirmish

section Views

variable {α β : Type} {counts : α → Bool} {view : α → β}

theorem nodup_map_filter_cons {head : α} {rest : List α} :
    (((head :: rest).filter counts).map view).Nodup ↔
      (counts head → ∀ one ∈ rest.filter counts, view one ≠ view head) ∧
        ((rest.filter counts).map view).Nodup := by
  by_cases counted : counts head
  · simp only [List.filter_cons, counted, ↓reduceIte, List.map_cons, List.nodup_cons, List.mem_map,
      not_exists, not_and, forall_const]
  · simp [counted]

/-- Changing an entry leaves a view of the entries that count without repetition, where the changed one
either counted before with the same view or has a view that no other has. -/
theorem nodup_map_filter_updateFirst (fits : α → Bool) (new : α) (list : List α)
    (settled : counts new → (∃ old, list.find? fits = some old ∧ counts old ∧ view new = view old) ∨
      ∀ one ∈ list.filter counts, view one ≠ view new)
    (nodup : ((list.filter counts).map view).Nodup) :
    (((updateFirst fits (fun _ => new) list).filter counts).map view).Nodup := by
  induction list with
  | nil => exact nodup
  | cons head rest hyp =>
    obtain ⟨apart, nodupRest⟩ := nodup_map_filter_cons.mp nodup
    have among : rest.filter counts ⊆ (head :: rest).filter counts :=
      ((List.sublist_cons_self head rest).filter counts).subset
    by_cases hit : fits head
    · simp only [updateFirst, hit, ↓reduceIte]
      refine nodup_map_filter_cons.mpr ⟨fun counted => ?_, nodupRest⟩
      rcases settled counted with ⟨old, found, counted', same⟩ | free
      · obtain rfl : head = old := by simpa [hit] using found
        exact same ▸ apart counted'
      · exact fun one mem => free one (among mem)
    · simp only [updateFirst, hit, Bool.false_eq_true, ↓reduceIte]
      have settledRest : counts new →
          (∃ old, rest.find? fits = some old ∧ counts old ∧ view new = view old) ∨
            ∀ one ∈ (head :: rest).filter counts, view one ≠ view new := by
        simpa [hit] using settled
      have later := hyp (fun counted => (settledRest counted).imp_right fun free one mem =>
        free one (among mem)) nodupRest
      refine nodup_map_filter_cons.mpr ⟨fun counted one mem same => ?_, later⟩
      obtain ⟨mem, counted'⟩ := List.mem_filter.mp mem
      rcases mem_updateFirst mem with mem | ⟨old, found, rfl⟩
      · exact apart counted one (List.mem_filter.mpr ⟨mem, counted'⟩) same
      · rcases settledRest counted' with ⟨old', found', counted'', kept⟩ | free
        · obtain rfl := Option.some.inj (found.symm.trans found')
          exact apart counted old (List.mem_filter.mpr
            ⟨List.mem_of_find?_eq_some found, counted''⟩) (kept.symm.trans same)
        · exact free head (by simp [counted]) same.symm

end Views

namespace Battlefield

variable {field : Battlefield} {id : CombatantId} {old new : Combatant}

/-! ### Standing apart -/

/-- The living stand on walkable ground, each on a cell of its own. -/
structure Spaced (field : Battlefield) : Prop where
  exclusive : field.Exclusive
  grounded : ∀ one ∈ field.living, field.terrain.isWalkable one.position

theorem Exclusive.replace (exclusive : field.Exclusive) (found : field.find? id = some old)
    (settled : new.isAlive → (old.isAlive ∧ new.position = old.position) ∨
      ∀ one ∈ field.living, one.position ≠ new.position) :
    (field.update id fun _ => new).Exclusive :=
  nodup_map_filter_updateFirst _ new _
    (fun alive => (settled alive).imp_left fun ⟨was, kept⟩ => ⟨old, found, was, kept⟩) exclusive

theorem Grounded.replace (grounded : field.Grounded)
    (walkable : field.terrain.isWalkable new.position) :
    (field.update id fun _ => new).Grounded := by
  intro one mem
  rcases mem_updateFirst mem with mem | ⟨_, _, rfl⟩
  · exact grounded one mem
  · exact walkable

/-- A move to a free cell leaves the living apart. -/
theorem Spaced.move {cell : Cell} (spaced : field.Spaced) (found : field.find? id = some old)
    (free : field.isFree cell) :
    (field.update id fun one => { one with position := cell }).Spaced := by
  obtain ⟨walkable, unheld⟩ := isFree_iff.mp free
  rw [← update_const found]
  refine ⟨spaced.exclusive.replace found fun _ => .inr unheld, fun one mem => ?_⟩
  obtain ⟨mem, alive⟩ := mem_living.mp mem
  rcases mem_updateFirst mem with mem | ⟨_, _, rfl⟩
  · exact spaced.grounded one (mem_living.mpr ⟨mem, alive⟩)
  · exact walkable

end Battlefield

/-! ### Around a cell -/

theorem sign_cases (n : Int) :
    (n < 0 ∧ n.sign = -1) ∨ (n = 0 ∧ n.sign = 0) ∨ (0 < n ∧ n.sign = 1) := by
  rcases Int.lt_trichotomy n 0 with low | zero | high
  · exact .inl ⟨low, Int.sign_eq_neg_one_of_neg low⟩
  · exact .inr (.inl ⟨zero, zero ▸ Int.sign_zero⟩)
  · exact .inr (.inr ⟨high, Int.sign_eq_one_of_pos high⟩)

namespace Cell

variable {origin cell other : Cell}

/-- Of two cells, one stands before the other row by row. -/
def RowsBefore (cell other : Cell) : Prop := cell.y < other.y ∨ cell.y = other.y ∧ cell.x < other.x

/-- Of two cells around an origin, one comes first: it is nearer, or as near and not later by rows. -/
def Foremost (origin cell other : Cell) : Prop :=
  origin.distance cell < origin.distance other ∨
    origin.distance cell = origin.distance other ∧ (cell = other ∨ cell.RowsBefore other)

theorem distance_self (cell : Cell) : cell.distance cell = 0 := by simp [distance]

theorem eq_of_distance_eq_zero (none : origin.distance cell = 0) : cell = origin := by
  obtain ⟨x, y⟩ := origin
  obtain ⟨x', y'⟩ := cell
  simp only [distance, Cell.mk.injEq] at none ⊢
  omega

theorem foremost_self (origin other : Cell) : origin.Foremost origin other := by
  unfold Foremost
  rw [distance_self]
  rcases Nat.eq_zero_or_pos (origin.distance other) with none | some
  · exact .inr ⟨none.symm, .inl (eq_of_distance_eq_zero none).symm⟩
  · exact .inl some

/-- Of two cells that each come before the other, neither differs from the other. -/
theorem Foremost.antisymm (first : origin.Foremost cell other) (second : origin.Foremost other cell) :
    cell = other := by
  obtain ⟨x, y⟩ := cell
  obtain ⟨x', y'⟩ := other
  simp only [Foremost, RowsBefore, Cell.mk.injEq] at first second ⊢
  omega

end Cell

namespace Battlefield

variable {field : Battlefield} {origin cell : Cell} {count radius : Nat}

/-- The steps of a ring in one coordinate. -/
theorem mem_offsets {step : Int} :
    step ∈ (List.range (2 * radius + 1)).map (fun (k : Nat) => (k : Int) - radius) ↔
      step.natAbs ≤ radius := by
  simp only [List.mem_map, List.mem_range]
  constructor
  · rintro ⟨k, _, rfl⟩
    omega
  · intro near
    exact ⟨(step + radius).toNat, by omega, by omega⟩

/-- A ring has all cells at its distance. -/
theorem mem_ring : cell ∈ ring origin radius ↔ origin.distance cell = radius := by
  simp only [ring, List.mem_filter, List.mem_flatMap, beq_iff_eq, and_iff_right_iff_imp]
  intro there
  refine ⟨cell.y - origin.y, mem_offsets.mpr ?_, List.mem_map.mpr
    ⟨cell.x - origin.x, mem_offsets.mpr ?_, ?_⟩⟩
  · unfold Cell.distance at there
    omega
  · unfold Cell.distance at there
    omega
  · obtain ⟨x, y⟩ := cell
    simp only [Cell.offset, Cell.mk.injEq]
    omega

/-- A ring is gone through row by row. -/
theorem pairwise_ring (origin : Cell) (radius : Nat) :
    (ring origin radius).Pairwise Cell.RowsBefore := by
  have rising : ((List.range (2 * radius + 1)).map fun (k : Nat) => (k : Int) - radius).Pairwise
      (· < ·) :=
    List.pairwise_map.mpr (List.pairwise_lt_range.imp fun {one other} before => by omega)
  refine List.Pairwise.filter _ (List.pairwise_flatMap.mpr ⟨fun dy _ => ?_, rising.imp ?_⟩)
  · refine List.pairwise_map.mpr (rising.imp fun {dx dx'} before => .inr ⟨rfl, ?_⟩)
    simpa [Cell.offset] using before
  · intro dy dy' before one mem other mem'
    obtain ⟨dx, _, rfl⟩ := List.mem_map.mp mem
    obtain ⟨dx', _, rfl⟩ := List.mem_map.mp mem'
    exact .inl (by simpa [Cell.offset] using before)

/-- In a list gone through in some order, what is found first comes before all others that fit. -/
theorem before_of_find? {α : Type} {before : α → α → Prop} {list : List α} {fits : α → Bool}
    {first other : α} (ordered : list.Pairwise before) (found : list.find? fits = some first)
    (mem : other ∈ list) (fit : fits other) : first = other ∨ before first other := by
  obtain ⟨_, earlier, later, rfl, misfits⟩ := List.find?_eq_some_iff_append.mp found
  rcases List.mem_append.mp mem with mem | mem
  · exact absurd fit (by simpa using misfits other mem)
  · rcases List.mem_cons.mp mem with rfl | mem
    · exact .inl rfl
    · exact .inr ((List.pairwise_cons.mp (List.pairwise_append.mp ordered).2.1).1 other mem)

/-! ### The nearest free cell -/

/-- A free cell in reach that comes before all other free cells. -/
structure NearestFree (field : Battlefield) (origin : Cell) (radius : Nat) (cell : Cell) : Prop where
  free : field.isFree cell
  near : origin.distance cell ≤ radius
  foremost : ∀ other, field.isFree other → origin.Foremost cell other

/-- What is found in some rings is free, lies in them, and comes before all free cells that lie in them
or beyond. -/
theorem freeInRings?_eq_some (found : field.freeInRings? origin count radius = some cell) :
    field.isFree cell ∧ origin.distance cell < radius + count ∧
      ∀ other, field.isFree other → radius ≤ origin.distance other → origin.Foremost cell other := by
  induction count generalizing radius with
  | zero => cases found
  | succ count hyp =>
    simp only [freeInRings?] at found
    split at found
    case h_1 first here =>
      obtain rfl := Option.some.inj found
      have there := mem_ring.mp (List.mem_of_find?_eq_some here)
      refine ⟨List.find?_some here, by omega, fun other free beyond => ?_⟩
      rcases Nat.eq_or_lt_of_le beyond with same | farther
      · exact .inr ⟨there.trans same,
          before_of_find? (pairwise_ring origin radius) here (mem_ring.mpr same.symm) free⟩
      · exact .inl (there ▸ farther)
    case h_2 nothing =>
      obtain ⟨free, within, foremost⟩ := hyp found
      refine ⟨free, by omega, fun other free' beyond => foremost other free' ?_⟩
      -- The ring that was gone through in vain has no free cell.
      have elsewhere : origin.distance other ≠ radius := fun same =>
        List.find?_eq_none.mp nothing other (mem_ring.mpr same) free'
      omega

/-- Where nothing is found in some rings, none of their cells is free. -/
theorem freeInRings?_eq_none (nothing : field.freeInRings? origin count radius = none)
    (beyond : radius ≤ origin.distance cell) (within : origin.distance cell < radius + count) :
    ¬field.isFree cell := by
  induction count generalizing radius with
  | zero => omega
  | succ count hyp =>
    simp only [freeInRings?] at nothing
    split at nothing
    case h_1 => cases nothing
    case h_2 empty =>
      rcases Nat.eq_or_lt_of_le beyond with same | farther
      · exact List.find?_eq_none.mp empty cell (mem_ring.mpr same.symm)
      · exact hyp nothing farther (by omega)

section Nearest

variable (fits : (radius : Int) ≤ greatestInt)
include fits

/-- What is found is the nearest free cell in reach, the first by rows of several. -/
theorem nearestFree?_eq_some (found : field.nearestFree? origin radius = some cell) :
    field.NearestFree origin radius cell := by
  unfold nearestFree? at found
  split at found
  case isTrue free =>
    obtain rfl := Option.some.inj found
    exact ⟨free, (Cell.distance_self origin).symm ▸ Nat.zero_le radius,
      fun other _ => Cell.foremost_self origin other⟩
  case isFalse held =>
    obtain ⟨free, within, foremost⟩ := freeInRings?_eq_some found
    refine ⟨free, by omega, fun other free' => foremost other free' (Nat.pos_of_ne_zero fun none => ?_)⟩
    exact held (Cell.eq_of_distance_eq_zero none ▸ free')

/-- Nothing is found only where no cell in reach is free. -/
theorem nearestFree?_eq_none (nothing : field.nearestFree? origin radius = none)
    (near : origin.distance cell ≤ radius) : ¬field.isFree cell := by
  unfold nearestFree? at nothing
  split at nothing
  case isTrue => cases nothing
  case isFalse held =>
    rcases Nat.eq_zero_or_pos (origin.distance cell) with none | some
    · exact Cell.eq_of_distance_eq_zero none ▸ held
    · exact freeInRings?_eq_none nothing some (by omega)

/-- The search finds nothing exactly if no cell in reach is free, and it finds a cell exactly if that
one is free, in reach, and the first of all such cells: by distance, then by rows. -/
theorem nearestFree?_iff_foremost :
    (field.nearestFree? origin radius = none ↔
      ∀ cell, origin.distance cell ≤ radius → ¬field.isFree cell) ∧
    ∀ cell, field.nearestFree? origin radius = some cell ↔
      field.isFree cell ∧ origin.distance cell ≤ radius ∧
        ∀ other, field.isFree other → origin.distance other ≤ radius →
          origin.Foremost cell other := by
  refine ⟨⟨fun nothing cell near => nearestFree?_eq_none fits nothing near, fun held => ?_⟩,
    fun cell => ⟨fun found => ?_, fun ⟨free, near, foremost⟩ => ?_⟩⟩
  · refine Option.eq_none_iff_forall_ne_some.mpr fun cell found => ?_
    have nearest := nearestFree?_eq_some fits found
    exact held cell nearest.near nearest.free
  · have nearest := nearestFree?_eq_some fits found
    exact ⟨nearest.free, nearest.near, fun other free _ => nearest.foremost other free⟩
  · rcases answer : field.nearestFree? origin radius with _ | found
    · exact absurd free (nearestFree?_eq_none fits answer near)
    · have nearest := nearestFree?_eq_some fits answer
      rw [(nearest.foremost cell free).antisymm (foremost found nearest.free nearest.near)]

end Nearest

/-- Someone in the middle of a small room, one corner of which is walled off. -/
def nook : Battlefield :=
  ⟨[{ Combatant.fresh ⟨1⟩ "Aria" .baseline with position := ⟨1, 1⟩ }],
    (Terrain.plain 3 3).setBlocked ⟨0, 0⟩ true⟩

theorem foremost_nook :
    (nook.nearestFree? ⟨1, 1⟩ 0 = none ∧
      ∀ cell, (⟨1, 1⟩ : Cell).distance cell ≤ 0 → ¬nook.isFree cell) ∧
    nook.nearestFree? ⟨1, 1⟩ 2 = some ⟨1, 0⟩ ∧
      ∀ other, nook.isFree other → (⟨1, 1⟩ : Cell).distance other ≤ 2 →
        (⟨1, 1⟩ : Cell).Foremost ⟨1, 0⟩ other := by
  have held : nook.nearestFree? ⟨1, 1⟩ 0 = none := by decide +kernel
  have found : nook.nearestFree? ⟨1, 1⟩ 2 = some ⟨1, 0⟩ := by decide +kernel
  exact ⟨⟨held, (nearestFree?_iff_foremost (by decide)).1.mp held⟩, found,
    (((nearestFree?_iff_foremost (by decide)).2 ⟨1, 0⟩).mp found).2.2⟩

end Battlefield

end Skirmish
