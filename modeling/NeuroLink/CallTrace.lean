import NeuroLink.EffectProgram

/-!
Conditions on the whole course of a run: its result, the calls it made in order with their
answers, and the final state. A program meets one if it does under all outcomes that are
possible for its calls.
-/

namespace EffectProgram

universe u v w x

variable {Op : Type u} {Reply : Op → Type v} {State Outcome : Type x}
variable {First Result : Type w}

/-- The result, the calls and the final state meet `post` under all possible outcomes. -/
def Traces (machine : Machine Op Reply State Outcome) (possible : Outcome → Prop) :
    (Result → List (Event Op Reply State) → State → Prop) → Program Op Reply Result → State → Prop
  | post, .pure result, state => post result [] state
  | post, .call op next, state => ∀ outcome, possible outcome →
      Traces machine possible
        (fun result events after => post result
          (⟨op, state, (machine.step outcome op state).1, (machine.step outcome op state).2⟩ ::
            events) after)
        (next (machine.step outcome op state).1) (machine.step outcome op state).2

variable {machine : Machine Op Reply State Outcome} {possible : Outcome → Prop}
variable {post : Result → List (Event Op Reply State) → State → Prop} {state : State}

theorem Traces.weaken {after : Result → List (Event Op Reply State) → State → Prop}
    {program : Program Op Reply Result} (traces : Traces machine possible post program state)
    (implies : ∀ result events state, post result events state → after result events state) :
    Traces machine possible after program state := by
  induction program generalizing state post after with
  | pure result => exact implies result [] state traces
  | call op next ih =>
      intro outcome real
      exact ih _ (traces outcome real) fun result events last => implies result (_ :: events) last

theorem Traces.bind {program : Program Op Reply First}
    {continuation : First → Program Op Reply Result}
    (traces : Traces machine possible
      (fun result events middle => Traces machine possible
        (fun last rest after => post last (events ++ rest) after) (continuation result) middle)
      program state) :
    Traces machine possible post (program.bind continuation) state := by
  induction program generalizing state post with
  | pure result => exact traces
  | call op next ih =>
      intro outcome real
      exact ih _ (traces outcome real)

/-- Soundness for runs whose outcomes are all possible. -/
theorem Traces.run [Inhabited Outcome] {program : Program Op Reply Result}
    (traces : Traces machine possible post program state) (outcomes : List Outcome)
    (real : ∀ outcome ∈ outcomes, possible outcome) (ordinary : possible default) :
    post (EffectProgram.run machine outcomes program state).1
      (events machine outcomes program state)
      (EffectProgram.run machine outcomes program state).2 := by
  induction program generalizing outcomes state post with
  | pure result => exact traces
  | call op next ih =>
      have first : possible (outcomes.headD default) := by
        cases outcomes with
        | nil => exact ordinary
        | cons outcome rest => exact real outcome List.mem_cons_self
      exact ih _ (traces _ first) outcomes.tail fun outcome member =>
        real outcome (List.mem_of_mem_tail member)

end EffectProgram
