/-
**When a fight is over.** A fight that goes on has two teams standing, and one that is finished has
none standing but the winner (`Combat.Settled`). Every operation looks after this, except an attack
that its costs make it give up: it returns before anybody asks who is left (`Combat.Abandons`).
-/

import Skirmish.Proofs.Aborts

namespace Skirmish

/-! ### Names in a set -/

namespace NameSet

theorem mem_names_iff {set : NameSet} {name : String} :
    name ∈ set.names ↔ (set.get? name).isSome := by
  simp [NameMap.names, NameMap.get?]

theorem mem_names_insert {set : NameSet} {name other : String} :
    other ∈ (set.insert name ()).names ↔ other = name ∨ other ∈ set.names := by
  rw [mem_names_iff, mem_names_iff, NameMap.get?_insert]
  by_cases same : name = other
  · simp [same]
  · simp [same, Ne.symm same]

/-- A set of names holds the names that it was made of. -/
theorem mem_ofNames {names : List String} {name : String} :
    name ∈ (ofNames names).names ↔ name ∈ names := by
  have grows : ∀ (names : List String) (start : NameSet),
      name ∈ (names.foldl (fun set name => set.insert name ()) start).names ↔
        name ∈ names ∨ name ∈ start.names := by
    intro names
    induction names with
    | nil => simp
    | cons head rest hyp =>
      intro start
      rw [List.foldl_cons, hyp, mem_names_insert, List.mem_cons]
      tauto
  have none : name ∉ ({} : NameSet).names := by simp [NameMap.names, EmptyCollection.emptyCollection,
    NameMap.empty]
  simp only [ofNames, grows, none, or_false]

theorem nodup_names (set : NameSet) : set.names.Nodup := by
  refine List.Pairwise.map _ (fun first second lt same => ?_) set.sorted
  rw [same] at lt
  exact String.lt_irrefl _ lt

end NameSet

namespace Battlefield

variable {field : Battlefield}

/-- A team has a living member. -/
def Stands (field : Battlefield) (team : String) : Prop := ∃ one ∈ field.living, one.team = team

/-- Two teams have a living member. -/
def Contested (field : Battlefield) : Prop :=
  ∃ one other, field.Stands one ∧ field.Stands other ∧ one ≠ other

theorem mem_teamsStanding {team : String} : team ∈ field.teamsStanding ↔ field.Stands team := by
  simp [teamsStanding, NameSet.mem_ofNames, Stands]

/-- At most one team is left where two are not. -/
theorem length_teamsStanding_le_one_iff : field.teamsStanding.length ≤ 1 ↔ ¬field.Contested := by
  have nodup : field.teamsStanding.Nodup := NameSet.nodup_names _
  rcases teams : field.teamsStanding with _ | ⟨one, _ | ⟨other, rest⟩⟩
  · refine iff_of_true (by simp) fun ⟨one, _, stands, _⟩ => ?_
    simpa [teams] using mem_teamsStanding.mpr stands
  · refine iff_of_true (by simp) fun ⟨first, second, stands, stands', ne⟩ => ne ?_
    have same : first = one := by simpa [teams] using mem_teamsStanding.mpr stands
    have same' : second = one := by simpa [teams] using mem_teamsStanding.mpr stands'
    rw [same, same']
  · refine iff_of_false (by simp) fun alone => alone ⟨one, other, ?_, ?_, ?_⟩
    · exact mem_teamsStanding.mp (by simp [teams])
    · exact mem_teamsStanding.mp (by simp [teams])
    · rw [teams] at nodup
      exact fun same => (List.nodup_cons.mp nodup).1 (by simp [same])

theorem Contested.mono {other : Battlefield} (contested : field.Contested)
    (more : ∀ one ∈ field.living, one ∈ other.living) : other.Contested := by
  obtain ⟨one, two, ⟨first, mem, rfl⟩, ⟨second, mem', rfl⟩, ne⟩ := contested
  exact ⟨_, _, ⟨first, more first mem, rfl⟩, ⟨second, more second mem', rfl⟩, ne⟩

/-- Who stands is a matter of teams and hit points only. -/
theorem Contested.congr {other : Battlefield} (contested : field.Contested)
    (same : other.roster.map (fun one => (one.team, one.isAlive))
      = field.roster.map fun one => (one.team, one.isAlive)) : other.Contested := by
  have inRoster : ∀ (field : Battlefield) (team : String), field.Stands team ↔
      (team, true) ∈ field.roster.map fun one => (one.team, one.isAlive) := by
    intro field team
    simp only [Stands, mem_living, List.mem_map, Prod.mk.injEq]
    constructor
    · rintro ⟨one, ⟨mem, alive⟩, rfl⟩
      exact ⟨one, mem, rfl, alive⟩
    · rintro ⟨one, mem, rfl, alive⟩
      exact ⟨one, ⟨mem, alive⟩, rfl⟩
  obtain ⟨one, two, stands, stands', ne⟩ := contested
  rw [inRoster, ← same, ← inRoster] at stands stands'
  exact ⟨one, two, stands, stands', ne⟩

end Battlefield

namespace Combat

variable {combat : Combat}

/-! ### Going on and being over -/

/-- While turns are taken two teams stand, and after the end only the winner does, if anybody. -/
structure Settled (combat : Combat) : Prop where
  going : combat.state = .active → combat.field.Contested
  ended : ∀ winner, combat.state = .finished winner →
    ∀ team, combat.field.Stands team ↔ winner = some team

/-- Whoever asks who is left settles the fight. -/
theorem settled_checkFinished (going : ∀ winner, combat.state ≠ .finished winner) :
    combat.checkFinished.Settled := by
  unfold checkFinished
  split
  case isTrue decided =>
    obtain ⟨-, few⟩ := decided
    refine ⟨fun active => absurd active (by simp), fun winner finished team => ?_⟩
    obtain rfl : combat.field.teamsStanding.head? = winner := by simpa using finished
    rw [← Battlefield.mem_teamsStanding]
    show team ∈ combat.field.teamsStanding ↔ _
    rcases teams : combat.field.teamsStanding with _ | ⟨one, _ | ⟨other, rest⟩⟩
    · simp
    · simp [eq_comm]
    · simp [teams] at few
  case isFalse undecided =>
    refine ⟨fun active => ?_, fun winner finished => absurd finished (going winner)⟩
    by_contra alone
    exact undecided ⟨active, Battlefield.length_teamsStanding_le_one_iff.mpr alone⟩

/-- A fight that does not go on and is not over. -/
theorem settled_of_state (notActive : combat.state ≠ .active)
    (notOver : ∀ winner, combat.state ≠ .finished winner) : combat.Settled :=
  ⟨fun active => absurd active notActive, fun winner finished => absurd finished (notOver winner)⟩

/-! ### One operation -/

/-- An attack is given up for its costs while at most one team is left. -/
def Abandons (combat : Combat) : Operation → Prop
  | .act (.attack request) => ∃ report, (Fight.attack request combat).1 = .ok report ∧
      report.aborted ∧ ¬(Fight.attack request combat).2.field.Contested
  | _ => False

theorem settled_attack (stock : combat.rules.Stock) (request : AttackRequest)
    (settled : combat.Settled) : (combat.after (.act (.attack request))).Settled ↔
      ¬combat.Abandons (.act (.attack request)) := by
  have run := Fight.run_attack stock request
  simp only [Abandons, after_act, perform_attack]
  generalize Fight.attack request combat = result at run
  cases run with
  | refused error => exact iff_of_true settled (by simp)
  | @made setting report resolved running rules sources same who ends =>
    unfold afterAttack
    by_cases aborted : report.aborted
    · rw [if_pos aborted]
      refine ⟨fun settled' ⟨_, _, _, left⟩ => left (settled'.going running), fun kept => ?_⟩
      refine ⟨fun _ => ?_, fun winner finished => ?_⟩
      · by_contra left
        exact kept ⟨report, rfl, aborted, left⟩
      · exact absurd (running.symm.trans finished) (by simp)
    · rw [if_neg aborted]
      refine iff_of_true (settled_checkFinished fun winner => ?_) ?_
      · simp only [record]
        split <;> simp [running]
      · rintro ⟨_, same, aborted', -⟩
        rw [← Except.ok.inj same] at aborted'
        exact aborted aborted'

theorem settled_activate (stock : combat.rules.Stock) (activation : Activation)
    (settled : combat.Settled) : (combat.after (.act (.activate activation))).Settled := by
  have run := Fight.run_activate stock activation
  rw [after_act, perform_activate]
  generalize Fight.activate activation combat = result at run
  cases run with
  | refused error => exact settled
  | @made actor report resolved running found who ends =>
    unfold afterActivation
    refine settled_checkFinished fun winner => ?_
    simp only [record]
    split <;> simp [running]

/-- A move changes nobody's team and nobody's hit points. -/
theorem settled_move (actor : CombatantId) (goal : Cell) (settled : combat.Settled) :
    (combat.after (.act (.move actor goal))).Settled := by
  have run := Fight.run_move combat actor goal
  rw [after_act, perform_move]
  generalize Fight.move actor goal combat = result at run
  cases run with
  | refused error => exact settled
  | @made start middle report events running placed =>
    obtain ⟨-, -, -, rfl⟩ := Battlefield.place_eq_ok placed
    refine ⟨fun _ => ?_, fun winner finished => absurd (running.symm.trans finished) (by simp)⟩
    refine (settled.going running).congr ?_
    refine (Battlefield.map_update (fun one => (one.team, one.isAlive)) ?_).trans
      (Battlefield.map_update (fun one => (one.team, one.isAlive)) ?_) <;>
    exact fun _ _ => rfl

theorem settled_resolveClash (stat : Option Stat) (settled : combat.Settled) :
    (combat.after (.act (.resolveClash stat))).Settled := by
  have run := Fight.run_resolveClash combat stat
  rw [after_act, perform_resolveClash]
  generalize Fight.resolveClash stat combat = result at run
  cases run with
  | refused error => exact settled
  | failed error due settles => exact settled_of_state (by simp [due]) (by simp [due])
  | held due settles => exact settled_checkFinished (by simp)

theorem settled_endTurn (settled : combat.Settled) :
    (combat.after (.act .endTurn)).Settled := by
  have run := Fight.run_endTurn combat
  rw [after_act, perform_endTurn]
  generalize Fight.endTurn combat = result at run
  cases run with
  | refused error => exact settled
  | ended running evolves inside => exact settled_checkFinished (by simp [running])

theorem settled_join (newcomer : Combatant) (settled : combat.Settled) :
    (combat.after (.join newcomer)).Settled := by
  have run := Fight.run_addCombatant combat newcomer
  rw [after_join]
  generalize Fight.addCombatant newcomer combat = result at run
  cases run with
  | refused error => exact settled
  | joined going added last =>
    obtain ⟨-, -, -, rfl⟩ := Battlefield.add_eq_ok added
    refine ⟨fun active => (settled.going active).mono fun one mem => ?_,
      fun winner finished => absurd ?_ going⟩
    · exact Battlefield.mem_living.mpr
        ((Battlefield.mem_living.mp mem).imp (List.mem_append_left _) fun alive => alive)
    · have finished' : combat.state = .finished winner := finished
      simp [isOver, finished']

theorem settled_start (settled : combat.Settled) : (combat.after .start).Settled := by
  have run := Fight.run_start combat
  rw [after_start]
  generalize Fight.start combat = result at run
  cases run with
  | refused error => exact settled
  | begun fresh manned evolves inside => exact settled_checkFinished (by simp)

/-- **What one operation does to a settled fight.** -/
theorem settled_after_iff (stock : combat.rules.Stock) (operation : Operation)
    (settled : combat.Settled) :
    (combat.after operation).Settled ↔ ¬combat.Abandons operation := by
  cases operation with
  | join newcomer => exact iff_of_true (settled_join newcomer settled) (by simp [Abandons])
  | start => exact iff_of_true (settled_start settled) (by simp [Abandons])
  | supply sources dice =>
    exact iff_of_true ⟨settled.going, settled.ended⟩ (by simp [Abandons])
  | act action =>
    cases action with
    | attack request => exact settled_attack stock request settled
    | activate activation =>
      exact iff_of_true (settled_activate stock activation settled) (by simp [Abandons])
    | move actor goal => exact iff_of_true (settled_move actor goal settled) (by simp [Abandons])
    | resolveClash stat =>
      exact iff_of_true (settled_resolveClash stat settled) (by simp [Abandons])
    | endTurn => exact iff_of_true (settled_endTurn settled) (by simp [Abandons])

theorem grants_of_abandons {operation : Operation} (abandons : combat.Abandons operation) :
    combat.Grants operation := by
  unfold Abandons at abandons
  split at abandons
  · obtain ⟨report, granted, -⟩ := abandons
    unfold Grants
    rw [run_act, perform_attack, granted]
    exact ⟨_, rfl⟩
  · exact absurd abandons not_false

/-- **A fight is over as soon as one team is left**, except where an attack is given up for its costs:
over any run from before the start, every granted operation leaves the fight settled exactly if no
attack of the run was given up while at most one team was left. -/
theorem settled_afterEach_iff (rules : combat.rules = Standard.table)
    (fresh : combat.state = .setup) (operations : List Operation) :
    combat.AfterEach Settled operations ↔ combat.Spared Abandons operations := by
  have keeps : ∀ (combat : Combat) operation, combat.rules.Stock →
      (combat.after operation).rules.Stock := fun combat operation stock => by
    rwa [rules_after stock]
  have exact : ∀ (combat : Combat) operation, combat.rules.Stock → combat.Settled →
      ((combat.after operation).Settled ↔ ¬combat.Abandons operation) :=
    fun _ operation stock => settled_after_iff stock operation
  have stock : combat.rules.Stock := by
    rw [rules]
    exact Standard.costsFirst.stock
  have settled : combat.Settled := settled_of_state (by simp [fresh]) (by simp [fresh])
  exact afterEach_iff_spared keeps exact (fun _ _ => grants_of_abandons) stock settled operations

/-- A fight that has been started is settled. -/
theorem afterEach_settled_start : duel.AfterEach Settled [.start] :=
  (settled_afterEach_iff rules_duel rfl [.start]).mpr ⟨not_false, trivial⟩

/-- The one who is left after an attack that was given up does not end the fight. -/
theorem not_afterEach_settled_forfeit :
    ¬duel.AfterEach Settled [.start, .act (.attack Fight.forfeit)] := by
  rintro ⟨-, settled, -⟩
  obtain ⟨events, underway⟩ := after_start_duel
  obtain ⟨report, after, paid, run, -, state, left, down⟩ := Fight.attack_forfeit_duel events
  rw [underway] at settled
  have performed : (duelUnderway events).after (.act (.attack Fight.forfeit)) = after := by
    rw [after_act, perform_attack, run]
  have granted : (duelUnderway events).Grants (.act (.attack Fight.forfeit)) :=
    ⟨.acted (.attack report), by rw [run_act, perform_attack, run]; rfl⟩
  obtain ⟨one, other, ⟨first, mem, rfl⟩, ⟨second, mem', rfl⟩, ne⟩ :=
    (performed ▸ settled granted).going state
  have alone : ∀ one ∈ after.field.living, one = dorn := by
    intro one mem
    obtain ⟨mem, alive⟩ := Battlefield.mem_living.mp mem
    rw [left] at mem
    rcases List.mem_cons.mp mem with rfl | mem
    · exact absurd alive down
    · exact List.mem_singleton.mp mem
  exact ne (by rw [alone first mem, alone second mem'])

end Combat

end Skirmish
