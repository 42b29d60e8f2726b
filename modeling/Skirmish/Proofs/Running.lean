/-
**Running steps.** The steps of a resolution, of a contest and of a fight all may fail and keep what
they did before they failed. How such steps run, and how to follow one through a program:

* `run_bind_ok`, `run_bind_error`: a sequence goes on from where its first part stopped, or stops
  with it;
* `Leads`: a step leads from a state to one in a relation to it, whether it succeeds or fails;
* `Succeeds`: it does, and does not fail;
* `Returns`: whatever it returns has a property.
-/

import Mathlib.Order.Defs.Unbundled
import Skirmish.Error

namespace Skirmish

/-! ### One step after the other -/

section Run

variable {σ α β : Type} {before middle : σ}

@[simp] theorem run_pure (value : α) :
    (pure value : ExceptT Error (StateM σ) α) before = (.ok value, before) := rfl

@[simp] theorem run_throw (error : Error) :
    (throw error : ExceptT Error (StateM σ) α) before = (.error error, before) := rfl

@[simp] theorem run_get : (get : ExceptT Error (StateM σ) σ) before = (.ok before, before) := rfl

@[simp] theorem run_modify (change : σ → σ) :
    (modify change : ExceptT Error (StateM σ) Unit) before = (.ok (), change before) := rfl

/-- A sequence goes on from where its first part stopped. -/
theorem run_bind_ok {step : ExceptT Error (StateM σ) α} {next : α → ExceptT Error (StateM σ) β}
    {value : α} (run : step before = (.ok value, middle)) :
    (step >>= next) before = next value middle := by
  simp only [bind, ExceptT.bind, ExceptT.mk, StateT.bind, run]
  rfl

/-- A sequence stops where its first part fails. -/
theorem run_bind_error {step : ExceptT Error (StateM σ) α} {next : α → ExceptT Error (StateM σ) β}
    {error : Error} (run : step before = (.error error, middle)) :
    (step >>= next) before = (.error error, middle) := by
  simp only [bind, ExceptT.bind, ExceptT.mk, StateT.bind, run]
  rfl

/-- A sequence that succeeds has gone on from where its first part stopped. -/
theorem exists_of_run_bind {step : ExceptT Error (StateM σ) α}
    {next : α → ExceptT Error (StateM σ) β} {result : β} {after : σ}
    (run : (step >>= next) before = (.ok result, after)) :
    ∃ value middle, step before = (.ok value, middle) ∧ next value middle = (.ok result, after) := by
  rcases first : step before with ⟨error | value, middle⟩
  · rw [run_bind_error first] at run
    cases run
  · exact ⟨value, middle, rfl, (run_bind_ok first).symm.trans run⟩

@[simp] theorem run_pure_bind (value : α) (next : α → ExceptT Error (StateM σ) β) :
    (pure value >>= next) before = next value before := rfl

@[simp] theorem run_throw_bind (error : Error) (next : α → ExceptT Error (StateM σ) β) :
    ((throw error : ExceptT Error (StateM σ) α) >>= next) before = (.error error, before) := rfl

@[simp] theorem run_get_bind (next : σ → ExceptT Error (StateM σ) β) :
    ((get : ExceptT Error (StateM σ) σ) >>= next) before = next before before := rfl

@[simp] theorem run_modify_bind (change : σ → σ) (next : Unit → ExceptT Error (StateM σ) β) :
    ((modify change : ExceptT Error (StateM σ) Unit) >>= next) before = next () (change before) :=
  rfl

end Run

/-! ### Following a program -/

section Follow

variable {σ α β : Type} {relation : σ → σ → Prop} {before : σ}

/-- A step leads from a state to one in a relation to it, whether it succeeds or fails. -/
def Leads (relation : σ → σ → Prop) (step : ExceptT Error (StateM σ) α) (before : σ) : Prop :=
  relation before (step before).2

/-- A step succeeds, and leads from a state to one in a relation to it. -/
def Succeeds (relation : σ → σ → Prop) (step : ExceptT Error (StateM σ) α) (before : σ) : Prop :=
  ∃ value after, step before = (.ok value, after) ∧ relation before after

/-- Whatever a step returns, if it returns, has a property. -/
def Returns (good : α → Prop) (step : ExceptT Error (StateM σ) α) : Prop :=
  ∀ before value after, step before = (.ok value, after) → good value

/-- A step that leads somewhere without failing succeeds. -/
theorem Succeeds.of_leads {step : ExceptT Error (StateM σ) α} {value : α} {after : σ}
    (leads : Leads relation step before) (run : step before = (.ok value, after)) :
    Succeeds relation step before := by
  unfold Leads at leads
  rw [run] at leads
  exact ⟨value, after, run, leads⟩

namespace Leads

/-- Where a step has led is known once it has run. -/
theorem of_run {step : ExceptT Error (StateM σ) α} {result : Except Error α} {after : σ}
    (leads : Leads relation step before) (run : step before = (result, after)) :
    relation before after := by
  unfold Leads at leads
  rwa [run] at leads

theorem pure [Std.Refl relation] (value : α) : Leads relation (Pure.pure value) before :=
  Std.Refl.refl before

theorem throw [Std.Refl relation] (error : Error) :
    Leads relation (MonadExcept.throw error : ExceptT Error (StateM σ) α) before :=
  Std.Refl.refl before

/-- A sequence leads where its parts lead one after the other. -/
theorem bind [IsTrans σ relation] {step : ExceptT Error (StateM σ) α}
    {next : α → ExceptT Error (StateM σ) β} (first : Leads relation step before)
    (second : ∀ value middle, step before = (.ok value, middle) →
      Leads relation (next value) middle) : Leads relation (step >>= next) before := by
  unfold Leads at *
  rcases run : step before with ⟨_ | value, middle⟩
  · rw [run] at first
    rw [run_bind_error run]
    exact first
  · rw [run] at first
    rw [run_bind_ok run]
    exact IsTrans.trans _ _ _ first (second value middle run)

theorem pure_bind {value : α} {next : α → ExceptT Error (StateM σ) β}
    (rest : Leads relation (next value) before) :
    Leads relation (Pure.pure value >>= next) before := rest

theorem get {next : σ → ExceptT Error (StateM σ) β} (rest : Leads relation (next before) before) :
    Leads relation ((MonadState.get : ExceptT Error (StateM σ) σ) >>= next) before := rest

end Leads

namespace Succeeds

theorem pure [Std.Refl relation] (value : α) : Succeeds relation (Pure.pure value) before :=
  ⟨value, before, rfl, Std.Refl.refl before⟩

theorem bind [IsTrans σ relation] {step : ExceptT Error (StateM σ) α}
    {next : α → ExceptT Error (StateM σ) β} (first : Succeeds relation step before)
    (second : ∀ value middle, step before = (.ok value, middle) → relation before middle →
      Succeeds relation (next value) middle) : Succeeds relation (step >>= next) before := by
  obtain ⟨value, middle, run, leads⟩ := first
  obtain ⟨last, after, rest, follows⟩ := second value middle run leads
  exact ⟨last, after, (run_bind_ok run).trans rest, IsTrans.trans _ _ _ leads follows⟩

theorem pure_bind {value : α} {next : α → ExceptT Error (StateM σ) β}
    (rest : Succeeds relation (next value) before) :
    Succeeds relation (Pure.pure value >>= next) before := rest

theorem get {next : σ → ExceptT Error (StateM σ) β}
    (rest : Succeeds relation (next before) before) :
    Succeeds relation ((MonadState.get : ExceptT Error (StateM σ) σ) >>= next) before := rest

end Succeeds

namespace Returns

variable {good : β → Prop}

theorem pure {value : β} (holds : good value) :
    Returns good (Pure.pure value : ExceptT Error (StateM σ) β) := by
  intro before other after run
  cases run
  exact holds

theorem bind {step : ExceptT Error (StateM σ) α} {next : α → ExceptT Error (StateM σ) β}
    (rest : ∀ value, Returns good (next value)) : Returns good (step >>= next) := by
  intro before value after run
  rcases first : step before with ⟨error | middle, state⟩
  · rw [run_bind_error first] at run
    cases run
  · rw [run_bind_ok first] at run
    exact rest middle state value after run

end Returns

end Follow

end Skirmish
