import Mathlib.Data.List.Infix
import Mathlib.Tactic.Common

/-!
Runs of a machine that takes one input after the other. A run may be limited to inputs
that meet a condition in the state they find, and what every such input keeps holds
after each part of the run.
-/

namespace StepRun

universe u v

variable {State : Type u} {Input : Type v} {step : State → Input → State}
  {condition : State → Input → Prop} {invariant : State → Prop} {state : State}

/-- Every input of a run meets the condition in the state it finds. -/
def Obeys (step : State → Input → State) (condition : State → Input → Prop) (state : State) :
    List Input → Prop
  | [] => True
  | input :: rest => condition state input ∧ Obeys step condition (step state input) rest

instance decidableObeys (step : State → Input → State) (condition : State → Input → Prop)
    [∀ state input, Decidable (condition state input)] (state : State) :
    (inputs : List Input) → Decidable (Obeys step condition state inputs)
  | [] => inferInstanceAs (Decidable True)
  | input :: rest =>
      have := decidableObeys step condition (step state input) rest
      inferInstanceAs (Decidable (condition state input ∧
        Obeys step condition (step state input) rest))

theorem Obeys.front {front inputs : List Input} (obeys : Obeys step condition state inputs)
    (part : front <+: inputs) : Obeys step condition state front := by
  induction front generalizing state inputs with
  | nil => trivial
  | cons input later ih =>
      obtain ⟨rest, rfl⟩ := part
      exact ⟨obeys.1, ih obeys.2 (List.prefix_append later rest)⟩

theorem Obeys.both {also : State → Input → Prop} {inputs : List Input}
    (obeys : Obeys step condition state inputs) (others : Obeys step also state inputs) :
    Obeys step (fun state input => condition state input ∧ also state input) state inputs := by
  induction inputs generalizing state with
  | nil => trivial
  | cons input rest ih => exact ⟨⟨obeys.1, others.1⟩, ih obeys.2 others.2⟩

/-- What holds at the start and survives each input holds after the run. -/
theorem Obeys.keeps {inputs : List Input} (obeys : Obeys step condition state inputs)
    (kept : ∀ state input, invariant state → condition state input →
      invariant (step state input))
    (start : invariant state) : invariant (inputs.foldl step state) := by
  induction inputs generalizing state with
  | nil => exact start
  | cons input rest ih => exact ih obeys.2 (kept state input start obeys.1)

/-- A run stays good throughout exactly when each of its inputs meets the condition, if the
condition is what keeps one step good. -/
theorem good_iff_obeys (good : State → Prop) (inputs : List Input) (begins : good state)
    (start : invariant state)
    (kept : ∀ state input, invariant state → invariant (step state input))
    (exact : ∀ state input, invariant state → good state →
      (good (step state input) ↔ condition state input)) :
    (∀ front, front <+: inputs → good (front.foldl step state)) ↔
      Obeys step condition state inputs := by
  induction inputs generalizing state with
  | nil =>
      constructor
      · intro _
        trivial
      · intro _ front part
        rw [List.prefix_nil.mp part]
        exact begins
  | cons input rest ih =>
      constructor
      · intro all
        have next : good (step state input) := all [input] ⟨rest, rfl⟩
        refine ⟨(exact state input start begins).mp next, ?_⟩
        refine (ih next (kept state input start)).mp fun front part => ?_
        exact all (input :: front) (List.cons_prefix_cons.mpr ⟨rfl, part⟩)
      · intro obeys front part
        have next := (exact state input start begins).mpr obeys.1
        cases front with
        | nil => exact begins
        | cons first later =>
            obtain ⟨rfl, shorter⟩ := List.cons_prefix_cons.mp part
            exact (ih next (kept state first start)).mpr obeys.2 later shorter

end StepRun
