import NeuroLink.MemoryProgram

/-!
Contracts for calls. A caller owes something for a call, may count on something in the answer,
and knows something after it. A program that honours its side runs as it expects on every
machine that keeps the other side, also when it is cut off within a call.
-/

namespace CallContract

open EffectProgram MemoryProgram

universe u v w x y

structure Contract (Op : Type u) (Reply : Op → Type v) (Knowledge : Type y) where
  owes : Op → Prop
  grants : (op : Op) → Reply op → Prop
  learns : (op : Op) → Reply op → Knowledge → Knowledge

section Programs

variable {Op : Type u} {Reply : Op → Type v} {Knowledge : Type y} {First Result : Type w}
  {contract : Contract Op Reply Knowledge}

/-- A program that pays for each call, with a condition on its result and on what it knows at
the end, as long as the answers are as granted. -/
def Honours (contract : Contract Op Reply Knowledge) (post : Result → Knowledge → Prop) :
    Program Op Reply Result → Knowledge → Prop
  | .pure result, known => post result known
  | .call op next, known =>
      contract.owes op ∧ ∀ reply, contract.grants op reply →
        Honours contract post (next reply) (contract.learns op reply known)

variable {post : Result → Knowledge → Prop} {known : Knowledge}

theorem Honours.bind {program : Program Op Reply First}
    {continuation : First → Program Op Reply Result}
    (honours : Honours contract
      (fun result left => Honours contract post (continuation result) left) program known) :
    Honours contract post (program.bind continuation) known := by
  induction program generalizing known with
  | pure result => exact honours
  | call op next ih => exact ⟨honours.1, fun reply granted => ih reply (honours.2 reply granted)⟩

theorem Honours.weaken {after : Result → Knowledge → Prop} {program : Program Op Reply Result}
    (honours : Honours contract post program known)
    (implies : ∀ result left, post result left → after result left) :
    Honours contract after program known := by
  induction program generalizing known with
  | pure result => exact implies result known honours
  | call op next ih => exact ⟨honours.1, fun reply granted => ih reply (honours.2 reply granted)⟩

end Programs

section Machines

variable {Op : Type u} {Reply : Op → Type v} {Knowledge : Type y} {Result : Type w}
  {State Outcome : Type x}

/-- The other side of a contract: a call that was paid for is answered as granted, keeps the
invariant, and leaves a state in which what is known is true. -/
def Provides (contract : Contract Op Reply Knowledge) (machine : Machine Op Reply State Outcome)
    (allowed : Event Op Reply State → Prop) (inv : State → Prop)
    (backs : Knowledge → State → Prop) : Prop :=
  ∀ outcome op known state, contract.owes op → inv state → backs known state →
    allowed ⟨op, state, (machine.step outcome op state).1, (machine.step outcome op state).2⟩ →
    contract.grants op (machine.step outcome op state).1 ∧
      inv (machine.step outcome op state).2 ∧
      backs (contract.learns op (machine.step outcome op state).1 known)
        (machine.step outcome op state).2

variable {contract : Contract Op Reply Knowledge} {machine : Machine Op Reply State Outcome}
  {allowed : Event Op Reply State → Prop} {inv : State → Prop}
  {backs : Knowledge → State → Prop} {post : Result → Knowledge → Prop} {known : Knowledge}
  {state : State}

theorem Honours.holds {program : Program Op Reply Result}
    (honours : Honours contract post program known)
    (provides : Provides contract machine allowed inv backs) (start : inv state)
    (backed : backs known state) :
    Holds machine allowed inv (fun result after => ∃ left, backs left after ∧ post result left)
      program state := by
  induction program generalizing known state with
  | pure result => exact ⟨start, known, backed, honours⟩
  | call op next ih =>
      refine ⟨start, fun outcome valid => ?_⟩
      obtain ⟨granted, kept, learned⟩ :=
        provides outcome op known state honours.1 start backed valid
      exact ih _ (honours.2 _ granted) kept learned

variable [Inhabited Outcome]

/-- The state a crash leaves: `calls` calls are done, and the next one has gone through the
states that it passes up to number `inside`. -/
def crashed (machine : Machine Op Reply State Outcome)
    (passes : Outcome → Op → State → List State) :
    List Outcome → Program Op Reply Result → State → Nat → Nat → State
  | _, .pure _, state, _, _ => state
  | outcomes, .call op _, state, 0, inside =>
      (passes (outcomes.headD default) op state).getD inside state
  | outcomes, .call op next, state, calls + 1, inside =>
      let answer := machine.step (outcomes.headD default) op state
      crashed machine passes outcomes.tail (next answer.1) answer.2 calls inside

/-- The invariant survives a crash if it holds in the states that a paid call passes. -/
theorem Honours.crashed {passes : Outcome → Op → State → List State}
    {program : Program Op Reply Result} (honours : Honours contract post program known)
    (provides : Provides contract machine (fun _ => True) inv backs)
    (within : ∀ outcome op state, contract.owes op → inv state →
      ∀ passed ∈ passes outcome op state, inv passed)
    (start : inv state) (backed : backs known state) (outcomes : List Outcome)
    (calls inside : Nat) :
    inv (CallContract.crashed machine passes outcomes program state calls inside) := by
  induction program generalizing known state outcomes calls with
  | pure result => exact start
  | call op next ih =>
      cases calls with
      | zero =>
          unfold CallContract.crashed
          rw [List.getD_eq_getElem?_getD]
          cases found : (passes (outcomes.headD default) op state)[inside]? with
          | none => exact start
          | some passed =>
              exact within _ op state honours.1 start passed (List.mem_of_getElem? found)
      | succ calls =>
          obtain ⟨granted, kept, learned⟩ :=
            provides (outcomes.headD default) op known state honours.1 start backed trivial
          exact ih _ (honours.2 _ granted) kept learned outcomes.tail calls

/-- Every call of a run was paid for. -/
theorem Honours.paid {program : Program Op Reply Result}
    (honours : Honours contract post program known)
    (provides : Provides contract machine allowed inv backs) (start : inv state)
    (backed : backs known state) (outcomes : List Outcome)
    (meets : Meets machine allowed outcomes program state) :
    Meets machine (fun event => contract.owes event.op) outcomes program state := by
  induction program generalizing known state outcomes with
  | pure result => exact fun _ member => nomatch member
  | call op next ih =>
      obtain ⟨valid, later⟩ := meets_call.mp meets
      obtain ⟨granted, kept, learned⟩ := provides _ op known state honours.1 start backed valid
      exact meets_call.mpr ⟨honours.1, ih _ (honours.2 _ granted) kept learned outcomes.tail later⟩

end Machines

section Services

variable {Op : Type u} {Reply : Op → Type u} {Memory First Result : Type u} {Knowledge : Type y}
  {contract : Contract Op Reply Knowledge}

/-- `Honours` for a service that starts with the given memory. -/
def Secures (contract : Contract Op Reply Knowledge) (post : Result → Memory → Knowledge → Prop)
    (service : Service Op Reply Memory Result) (memory : Memory) (known : Knowledge) : Prop :=
  Honours contract (fun outcome => post outcome.1 outcome.2) (service memory) known

variable {post : Result → Memory → Knowledge → Prop} {memory : Memory} {known : Knowledge}

theorem Secures.pure {result : Result} (done : post result memory known) :
    Secures contract post (Pure.pure result : Service Op Reply Memory Result) memory known :=
  done

/-- The rule of sequencing, from the condition between the two parts. -/
theorem Secures.seq {mid : First → Memory → Knowledge → Prop}
    {service : Service Op Reply Memory First}
    {continuation : First → Service Op Reply Memory Result}
    (first : Secures contract mid service memory known)
    (rest : ∀ result after left, mid result after left →
      Secures contract post (continuation result) after left) :
    Secures contract post (service >>= continuation) memory known :=
  .bind (Honours.weaken first fun outcome left => rest outcome.1 outcome.2 left)

theorem Secures.weaken {after : Result → Memory → Knowledge → Prop}
    {service : Service Op Reply Memory Result}
    (secures : Secures contract post service memory known)
    (implies : ∀ result memory left, post result memory left → after result memory left) :
    Secures contract after service memory known :=
  Honours.weaken secures fun outcome left => implies outcome.1 outcome.2 left

theorem Secures.call {op : Op} {continuation : Reply op → Service Op Reply Memory Result}
    (paid : contract.owes op)
    (continues : ∀ reply, contract.grants op reply →
      Secures contract post (continuation reply) memory (contract.learns op reply known)) :
    Secures contract post (Service.perform op >>= continuation) memory known :=
  ⟨paid, continues⟩

theorem Secures.edit {change : Memory → First × Memory}
    {continuation : First → Service Op Reply Memory Result}
    (continues : Secures contract post (continuation (change memory).1) (change memory).2
      known) :
    Secures contract post (Service.edit change >>= continuation) memory known :=
  continues

theorem Secures.inspect {continuation : Memory → Service Op Reply Memory Result}
    (continues : Secures contract post (continuation memory) memory known) :
    Secures contract post (Service.inspect >>= continuation) memory known :=
  continues

end Services

end CallContract
