import Mathlib.Data.List.Basic

/-!
A call that is repeated until an attempt settles it, over a network that may lose the call or
the answer. The server carries out every call that reaches it, so a caller without an answer
cannot know whether the call took effect, and a repeated call meets the state that the earlier
one left.
-/

namespace RetriedCall

/-- What becomes of one attempt: the call is lost, its answer is lost, or its answer arrives. -/
inductive Passage (Env Silence : Type) where
  | lost (silence : Silence)
  | unheard (silence : Silence) (env : Env)
  | heard (env : Env)

/-- A call that reached the server: the state it met, and whether its answer arrived. -/
structure Delivery (State Env : Type) where
  state : State
  env : Env
  heard : Bool

/-- A server and a caller; `settle` is told whether the attempt is the last one. -/
structure Link (State Env Silence Seen Result : Type) where
  serve : Env → State → Seen × State
  silent : Silence → Seen
  settle : Seen → Bool → Option Result
  exhausted : Seen → Result

section Calls

variable {State Env Silence Seen Result : Type} (link : Link State Env Silence Seen Result)

/-- What the caller sees of an attempt, and the state of the server after it. -/
def attempt : Passage Env Silence → State → Seen × State
  | .lost silence, state => (link.silent silence, state)
  | .unheard silence env, state => (link.silent silence, (link.serve env state).2)
  | .heard env, state => link.serve env state

def arrivals : Passage Env Silence → State → List (Delivery State Env)
  | .lost _, _ => []
  | .unheard _ env, state => [⟨state, env, false⟩]
  | .heard env, state => [⟨state, env, true⟩]

/-- The result of the call, and what reached the server on the way to it. -/
def call (first : Passage Env Silence) (state : State) :
    List (Passage Env Silence) → Result × List (Delivery State Env)
  | [] =>
      let seen := (attempt link first state).1
      ((link.settle seen true).getD (link.exhausted seen), arrivals first state)
  | next :: later =>
      match link.settle (attempt link first state).1 false with
      | some result => (result, arrivals first state)
      | none =>
          let rest := call next (attempt link first state).2 later
          (rest.1, arrivals first state ++ rest.2)

def sights : List (Passage Env Silence) → State → List Seen
  | [], _ => []
  | passage :: later, state =>
      (attempt link passage state).1 :: sights later (attempt link passage state).2

variable {link}

theorem arrivals_heard {passage : Passage Env Silence} {state : State}
    {delivery : Delivery State Env} (arrived : delivery ∈ arrivals passage state)
    (heard : delivery.heard = true) :
    attempt link passage state = link.serve delivery.env delivery.state := by
  cases passage with
  | lost silence => cases arrived
  | unheard silence env =>
      obtain rfl := List.mem_singleton.mp arrived
      cases heard
  | heard env =>
      obtain rfl := List.mem_singleton.mp arrived
      rfl

theorem call_settled {first : Passage Env Silence} {later : List (Passage Env Silence)}
    {state : State} {delivery : Delivery State Env} {good : Result → Prop}
    (arrived : delivery ∈ (call link first state later).2) (heard : delivery.heard = true)
    (settles : ∀ last, ∃ result,
      link.settle (link.serve delivery.env delivery.state).1 last = some result ∧ good result) :
    good (call link first state later).1 := by
  induction later generalizing first state with
  | nil =>
      obtain ⟨result, settled, fine⟩ := settles true
      rw [← arrivals_heard arrived heard] at settled
      rw [call, settled]
      exact fine
  | cons next rest ih =>
      cases ends : link.settle (attempt link first state).1 false with
      | some result =>
          simp only [call, ends] at arrived ⊢
          obtain ⟨other, settled, fine⟩ := settles false
          rw [← arrivals_heard arrived heard, ends] at settled
          exact Option.some.inj settled ▸ fine
      | none =>
          simp only [call, ends] at arrived ⊢
          rcases List.mem_append.mp arrived with here | there
          · -- the caller would have stopped at this answer
            obtain ⟨other, settled, _⟩ := settles false
            rw [← arrivals_heard here heard, ends] at settled
            cases settled
          · exact ih there

/-- At most one delivery is carried out, and no answer that arrives after one that succeeded
fails the call. -/
structure AppliedOnce (Applied Succeeded : Delivery State Env → Prop) (Failed : Result → Prop)
    (course : Result × List (Delivery State Env)) : Prop where
  once : course.2.Pairwise fun earlier later => Applied earlier → ¬ Applied later
  honest : course.2.Pairwise fun earlier later =>
    Succeeded earlier → later.heard = true → ¬ Failed course.1

/-- The rule of a careful caller: whatever reaches the server after the call was carried out is
idle there, and an answer that arrives after a success settles the call well. -/
theorem AppliedOnce.of_harmless {Applied Succeeded Idle Welcome : Delivery State Env → Prop}
    {Failed : Result → Prop} {first : Passage Env Silence} {later : List (Passage Env Silence)}
    {state : State}
    (idle : ∀ delivery, Idle delivery → ¬ Applied delivery)
    (welcome : ∀ delivery, Welcome delivery → ∀ last, ∃ result,
      link.settle (link.serve delivery.env delivery.state).1 last = some result ∧ ¬ Failed result)
    (careful : (call link first state later).2.Pairwise fun earlier delivery =>
      (Applied earlier → Idle delivery) ∧
        (Succeeded earlier → delivery.heard = true → Welcome delivery)) :
    AppliedOnce Applied Succeeded Failed (call link first state later) where
  once := careful.imp fun harmless applied => idle _ (harmless.1 applied)
  honest := careful.imp_of_mem fun _ arrived harmless succeeded heard =>
    call_settled arrived heard (welcome _ (harmless.2 succeeded heard))

end Calls

end RetriedCall
