/-
**Which rules several texts call for.** Texts are resolved one after the other. Unless they abort the
action, every rule that answers one of them is invoked for it, in the state that the invocation before
left behind:

* `Recited`: the invocations of some texts at a hook;
* `RuleTable.exists_recited`: resolving texts that do not abort the action is such a recital;
* `Recited.foldl`: a part of the state that follows each invocation follows all of them.
-/

import Skirmish.Proofs.Entries
import Skirmish.Proofs.Invocations

namespace Skirmish

open Resolve

/-- What the entries of an effect leave alone in a tally, its invocation does. -/
theorem Invocation.view_stop {α : Type} {invocation : Invocation} {text : String} {effect : Effect}
    (made : invocation.Made text) (act : invocation.rule.act = effect.act) (view : Tally → α)
    (alone : ∀ one other, effect.Enters one other → view other = view one) :
    view (invocation.stop text).tally = view invocation.start.tally := by
  have same := Effect.view_act view alone ⟨invocation.rule.name, text, invocation.finding⟩
    invocation.start
  rw [← act, made.acted] at same
  exact same

/-- Texts are resolved at a hook one after the other, and every rule that answers one of them is invoked
for it. -/
inductive Recited (rules : List Rule) (hook : Hook) :
    List String → Resolution → List Invocation → Resolution → Prop
  | nil (state : Resolution) : Recited rules hook [] state [] state
  | cons {text : String} {rest : List String} {trace later : List Invocation}
      {before middle after : Resolution} (chained : Chained (Text.trim text) before trace middle)
      (whole : trace.map (·.rule) = rules.filter (·.answers hook (Text.trim text)))
      (others : Recited rules hook rest middle later after) :
      Recited rules hook (text :: rest) before (trace ++ later) after

section Fold

variable {β : Type} {text : String} {texts : List String} {rules : List Rule} {hook : Hook}
  {before after : Resolution} {trace : List Invocation}

theorem Chained.foldl (chained : Chained text before trace after) (view : Resolution → β)
    (step : β → Invocation → β) (each : ∀ invocation ∈ trace, invocation.Made text →
      view (invocation.stop text) = step (view invocation.start) invocation) :
    view after = trace.foldl step (view before) := by
  induction chained with
  | nil state => rfl
  | @cons invocation rest after made later hyp =>
    rw [List.foldl_cons, ← each invocation (List.mem_cons_self ..) made]
    exact hyp fun other mem => each other (List.mem_cons_of_mem _ mem)

/-- Whatever is invoked for a text is a rule that listens. -/
theorem listens_of_whole {invocation : Invocation} (mem : invocation ∈ trace)
    (whole : trace.map (·.rule) = rules.filter (·.answers hook text)) :
    invocation.rule ∈ rules ∧ invocation.rule.hooks.contains hook := by
  have listed : invocation.rule ∈ rules.filter (·.answers hook text) :=
    whole ▸ List.mem_map_of_mem mem
  obtain ⟨known, answers⟩ := List.mem_filter.mp listed
  exact ⟨known, (Bool.and_eq_true_iff.mp answers).1⟩

/-- A part of the state that each invocation changes in a certain way, all of them change one after the
other. -/
theorem Recited.foldl (recited : Recited rules hook texts before trace after)
    (view : Resolution → β) (step : β → Invocation → β)
    (each : ∀ (invocation : Invocation) (text : String), invocation.rule ∈ rules →
      invocation.rule.hooks.contains hook → invocation.Made text →
        view (invocation.stop text) = step (view invocation.start) invocation) :
    view after = trace.foldl step (view before) := by
  induction recited with
  | nil state => rfl
  | cons chained whole others hyp =>
    have first := chained.foldl view step fun invocation mem made =>
      each invocation _ (listens_of_whole mem whole).1 (listens_of_whole mem whole).2 made
    rw [List.foldl_append, ← first]
    exact hyp

/-- A part of the state that every invocation leaves alone stays. -/
theorem Recited.view_eq (recited : Recited rules hook texts before trace after)
    (view : Resolution → β)
    (each : ∀ (invocation : Invocation) (text : String), invocation.rule ∈ rules →
      invocation.rule.hooks.contains hook → invocation.Made text →
        view (invocation.stop text) = view invocation.start) :
    view after = view before := by
  have folded := recited.foldl view (fun seen _ => seen) each
  rwa [List.foldl_fixed] at folded

end Fold

namespace RuleTable

/-- Resolving texts that say something and do not abort the action invokes all rules that answer one of
them. -/
theorem exists_recited {table : RuleTable} {texts : List String} {before : Resolution}
    (keeps : ∀ rule ∈ table.rules, rule.KeepsHook)
    (shown : ∀ text ∈ texts, (Text.trim text).isEmpty = false)
    (going : (table.resolveAll texts before).2.tally.aborted = false) :
    ∃ trace, Recited table.rules before.hook texts before trace (table.resolveAll texts before).2 := by
  induction texts generalizing before with
  | nil => exact ⟨[], .nil before⟩
  | cons text rest hyp =>
    have clear := clear_of_resolveAll going
    simp only [resolveAll, clear, Bool.false_eq_true, ↓reduceIte] at going ⊢
    have goes := clear_of_resolveAll going
    have asked : table.resolve text before = Rule.askAll table.rules (Text.trim text) before := by
      simp only [resolve, shown text (List.mem_cons_self ..), Bool.false_eq_true, ↓reduceIte]
    rw [asked] at goes going ⊢
    obtain ⟨trace, invokes⟩ := Rule.askAll_invokes (Text.trim text) before keeps
    obtain ⟨chained, -, whole, -⟩ := invokes
    generalize (Rule.askAll table.rules (Text.trim text) before).2 = middle at *
    -- The texts after it are resolved at the same hook.
    have hook : middle.hook = before.hook := by
      have folded := chained.foldl Resolution.hook (fun hook _ => hook) fun invocation mem made => by
        have stays := keeps _ (listens_of_whole mem (whole goes)).1
          ⟨invocation.rule.name, Text.trim text, invocation.finding⟩ invocation.start
        rwa [made.acted] at stays
      rwa [List.foldl_fixed] at folded
    obtain ⟨later, others⟩ := hyp (fun other mem => shown other (List.mem_cons_of_mem _ mem)) going
    rw [hook] at others
    exact ⟨trace ++ later, .cons chained (whole goes) others⟩

end RuleTable

/-- The same of the standard rules. -/
theorem Standard.exists_recited {texts : List String} {before : Resolution}
    (shown : ∀ text ∈ texts, (Text.trim text).isEmpty = false)
    (going : (table.resolveAll texts before).2.tally.aborted = false) :
    ∃ trace, Recited table.rules before.hook texts before trace (table.resolveAll texts before).2 :=
  RuleTable.exists_recited (fun rule mem => (costsFirst.stock rule mem).keepsHook) shown going

end Skirmish
