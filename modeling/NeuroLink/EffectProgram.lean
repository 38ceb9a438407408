import Mathlib.Tactic.Common

/-!
Programs that call an environment. A program is a tree of calls, each continued
by the reply it gets. A machine says what a call does to the state under one
outcome of the environment, and a run takes the outcomes from a list, the
default outcome standing for every call past its end. Cutting a run after any
call gives the states a crash can leave.

`Holds` is the program logic: an invariant for every state between two calls and
a condition on the result. It is closed under sequencing and sound for runs.
-/

namespace EffectProgram

universe u v w x

inductive Program (Op : Type u) (Reply : Op → Type v) (Result : Type w) where
  | pure (result : Result)
  | call (op : Op) (next : Reply op → Program Op Reply Result)

namespace Program

variable {Op : Type u} {Reply : Op → Type v} {First Second : Type w}

def bind (program : Program Op Reply First)
    (continuation : First → Program Op Reply Second) : Program Op Reply Second :=
  match program with
  | pure result => continuation result
  | call op next => call op fun reply => (next reply).bind continuation

/-- The program of one call, which returns the reply. -/
def request {Op : Type u} {Reply : Op → Type w} (op : Op) :
    Program Op Reply (Reply op) :=
  call op pure

instance : Monad (Program Op Reply) where
  pure := pure
  bind := bind

@[simp] theorem pure_bind (result : First)
    (continuation : First → Program Op Reply Second) :
    (Pure.pure result : Program Op Reply First) >>= continuation =
      continuation result := rfl

@[simp] theorem call_bind (op : Op) (next : Reply op → Program Op Reply First)
    (continuation : First → Program Op Reply Second) :
    (call op next) >>= continuation =
      call op fun reply => next reply >>= continuation := rfl

@[simp] theorem request_bind {Op : Type u} {Reply : Op → Type w} {Second : Type w}
    (op : Op) (continuation : Reply op → Program Op Reply Second) :
    request op >>= continuation = call op continuation := rfl

@[simp] theorem bind_pure (program : Program Op Reply First) :
    program >>= Pure.pure = program := by
  induction program with
  | pure result => rfl
  | call op next ih => exact congrArg (call op) (funext ih)

end Program

/-- What a call does to the state and replies under one outcome. -/
structure Machine (Op : Type u) (Reply : Op → Type v) (State Outcome : Type x) where
  step : Outcome → (op : Op) → State → Reply op × State

/-- One call of a run: the state before it, the reply and the state after it. -/
structure Event (Op : Type u) (Reply : Op → Type v) (State : Type x) where
  op : Op
  before : State
  reply : Reply op
  after : State

section Semantics

variable {Op : Type u} {Reply : Op → Type v} {State Outcome : Type x} {Result : Type w}
variable [Inhabited Outcome] (machine : Machine Op Reply State Outcome)

def run : List Outcome → Program Op Reply Result → State → Result × State
  | _, .pure result, state => (result, state)
  | outcomes, .call op next, state =>
      let answer := machine.step (outcomes.headD default) op state
      run outcomes.tail (next answer.1) answer.2

/-- The calls of a run in order. -/
def events : List Outcome → Program Op Reply Result → State →
    List (Event Op Reply State)
  | _, .pure _, _ => []
  | outcomes, .call op next, state =>
      let answer := machine.step (outcomes.headD default) op state
      ⟨op, state, answer.1, answer.2⟩ :: events outcomes.tail (next answer.1) answer.2

/-- Every state of a run, the first and the last included: what a crash before,
between or after its calls leaves. -/
def states (outcomes : List Outcome) (program : Program Op Reply Result)
    (state : State) : List State :=
  state :: (events machine outcomes program state).map (·.after)

@[simp] theorem states_pure (outcomes : List Outcome) (result : Result) (state : State) :
    states machine outcomes (.pure result : Program Op Reply Result) state = [state] := by
  simp [states, events]

theorem states_call (outcomes : List Outcome) (op : Op)
    (next : Reply op → Program Op Reply Result) (state : State) :
    states machine outcomes (.call op next) state =
      state :: states machine outcomes.tail
        (next (machine.step (outcomes.headD default) op state).1)
        (machine.step (outcomes.headD default) op state).2 := by
  simp [states, events]

theorem run_mem_states (outcomes : List Outcome) (program : Program Op Reply Result)
    (state : State) :
    (run machine outcomes program state).2 ∈ states machine outcomes program state := by
  induction program generalizing outcomes state with
  | pure result => simp [run]
  | call op next ih =>
      rw [states_call]
      exact List.mem_cons_of_mem _ (ih _ _ _)

/-- Every event of a run is a call answered under some outcome, and the state
after it is one a crash can leave. -/
theorem events_real {outcomes : List Outcome} {program : Program Op Reply Result}
    {state : State} {event : Event Op Reply State}
    (member : event ∈ events machine outcomes program state) :
    (∃ outcome, (event.reply, event.after) =
      machine.step outcome event.op event.before) ∧
      event.after ∈ states machine outcomes program state := by
  refine ⟨?_, List.mem_cons_of_mem _ (List.mem_map_of_mem member)⟩
  induction program generalizing outcomes state with
  | pure result => cases member
  | call op next ih =>
      rcases List.mem_cons.mp member with rfl | later
      · exact ⟨_, rfl⟩
      · exact ih _ later

/-- With no outcomes left every call has the default one, so a sequence runs
part by part. -/
theorem run_nil_bind {First : Type w} (program : Program Op Reply First)
    (continuation : First → Program Op Reply Result) (state : State) :
    run machine [] (program >>= continuation) state =
      run machine [] (continuation (run machine [] program state).1)
        (run machine [] program state).2 := by
  induction program generalizing state with
  | pure result => rfl
  | call op next ih => exact ih _ _

@[simp] theorem run_nil_pure (result : Result) (state : State) :
    run machine [] (Pure.pure result : Program Op Reply Result) state =
      (result, state) := rfl

@[simp] theorem run_nil_call (op : Op) (next : Reply op → Program Op Reply Result)
    (state : State) :
    run machine [] (.call op next) state =
      run machine [] (next (machine.step default op state).1)
        (machine.step default op state).2 := rfl

/-- The calls of a run all meet a condition on the call and its answer. -/
def Meets (allowed : Event Op Reply State → Prop) (outcomes : List Outcome)
    (program : Program Op Reply Result) (state : State) : Prop :=
  ∀ event ∈ events machine outcomes program state, allowed event

variable {machine}

theorem meets_call {allowed : Event Op Reply State → Prop} {outcomes : List Outcome}
    {op : Op} {next : Reply op → Program Op Reply Result} {state : State} :
    Meets machine allowed outcomes (.call op next) state ↔
      allowed ⟨op, state, (machine.step (outcomes.headD default) op state).1,
        (machine.step (outcomes.headD default) op state).2⟩ ∧
      Meets machine allowed outcomes.tail
        (next (machine.step (outcomes.headD default) op state).1)
        (machine.step (outcomes.headD default) op state).2 := by
  simp [Meets, events]

end Semantics

section Logic

variable {Op : Type u} {Reply : Op → Type v} {State Outcome : Type x}
variable {First Second Result : Type w}
variable {machine : Machine Op Reply State Outcome}

/-- Every state between the calls satisfies `inv`, and the result and final
state satisfy `post`, whatever the outcomes of the calls are, as long as every
call that was made is `allowed`. -/
def Holds (machine : Machine Op Reply State Outcome)
    (allowed : Event Op Reply State → Prop) (inv : State → Prop)
    (post : Result → State → Prop) : Program Op Reply Result → State → Prop
  | .pure result, state => inv state ∧ post result state
  | .call op next, state =>
      inv state ∧ ∀ outcome,
        allowed ⟨op, state, (machine.step outcome op state).1,
          (machine.step outcome op state).2⟩ →
        Holds machine allowed inv post (next (machine.step outcome op state).1)
          (machine.step outcome op state).2

variable {allowed : Event Op Reply State → Prop} {inv : State → Prop}
  {post : Result → State → Prop}

theorem Holds.pure {result : Result} {state : State} (kept : inv state)
    (done : post result state) :
    Holds machine allowed inv post (Pure.pure result) state :=
  ⟨kept, done⟩

theorem Holds.start {program : Program Op Reply Result} {state : State}
    (holds : Holds machine allowed inv post program state) : inv state := by
  cases program with
  | pure result => exact holds.1
  | call op next => exact holds.1

/-- The rule for one call: the invariant before it, and the continuation after
each allowed answer. -/
theorem Holds.call {op : Op} {next : Reply op → Program Op Reply Result} {state : State}
    (kept : inv state)
    (continues : ∀ outcome,
      allowed ⟨op, state, (machine.step outcome op state).1,
        (machine.step outcome op state).2⟩ →
      Holds machine allowed inv post (next (machine.step outcome op state).1)
        (machine.step outcome op state).2) :
    Holds machine allowed inv post (.call op next) state :=
  ⟨kept, continues⟩

theorem Holds.bind {program : Program Op Reply First}
    {continuation : First → Program Op Reply Second} {post : Second → State → Prop}
    {state : State}
    (holds : Holds machine allowed inv
      (fun result after => Holds machine allowed inv post (continuation result) after)
      program state) :
    Holds machine allowed inv post (program >>= continuation) state := by
  induction program generalizing state with
  | pure result => exact holds.2
  | call op next ih =>
      exact ⟨holds.1, fun outcome valid => ih _ (holds.2 outcome valid)⟩

theorem Holds.weaken {weaker : State → Prop} {after : Result → State → Prop}
    {program : Program Op Reply Result} {state : State}
    (holds : Holds machine allowed inv post program state)
    (invariant : ∀ state, inv state → weaker state)
    (result : ∀ result state, inv state → post result state → after result state) :
    Holds machine allowed weaker after program state := by
  induction program generalizing state with
  | pure value => exact ⟨invariant _ holds.1, result _ _ holds.1 holds.2⟩
  | call op next ih =>
      exact ⟨invariant _ holds.1, fun outcome valid => ih _ (holds.2 outcome valid)⟩

theorem Holds.and {other : State → Prop} {also : Result → State → Prop}
    {program : Program Op Reply Result} {state : State}
    (left : Holds machine allowed inv post program state)
    (right : Holds machine allowed other also program state) :
    Holds machine allowed (fun state => inv state ∧ other state)
      (fun result state => post result state ∧ also result state) program state := by
  induction program generalizing state with
  | pure value => exact ⟨⟨left.1, right.1⟩, left.2, right.2⟩
  | call op next ih =>
      exact ⟨⟨left.1, right.1⟩,
        fun outcome valid => ih _ (left.2 outcome valid) (right.2 outcome valid)⟩

variable [Inhabited Outcome]

/-- Soundness for the result of a run. -/
theorem Holds.run {program : Program Op Reply Result} {state : State}
    (holds : Holds machine allowed inv post program state) (outcomes : List Outcome)
    (meets : Meets machine allowed outcomes program state) :
    post (EffectProgram.run machine outcomes program state).1
      (EffectProgram.run machine outcomes program state).2 := by
  induction program generalizing outcomes state with
  | pure result => exact holds.2
  | call op next ih =>
      obtain ⟨first, rest⟩ := meets_call.mp meets
      exact ih _ (holds.2 _ first) outcomes.tail rest

/-- Soundness for every state of a run, and so for every crash. -/
theorem Holds.states {program : Program Op Reply Result} {state : State}
    (holds : Holds machine allowed inv post program state) (outcomes : List Outcome)
    (meets : Meets machine allowed outcomes program state) :
    ∀ visited ∈ EffectProgram.states machine outcomes program state, inv visited := by
  induction program generalizing outcomes state with
  | pure result =>
      intro visited member
      rw [states_pure, List.mem_singleton] at member
      rw [member]
      exact holds.1
  | call op next ih =>
      intro visited member
      obtain ⟨first, rest⟩ := meets_call.mp meets
      rw [states_call, List.mem_cons] at member
      rcases member with same | later
      · rw [same]
        exact holds.1
      · exact ih _ (holds.2 _ first) outcomes.tail rest visited later

end Logic

section Calls

variable {Op : Type u} {Reply : Op → Type v} {State Outcome : Type x}
variable {First Second Result : Type w}
variable {machine : Machine Op Reply State Outcome}

/-- Every call the program could make, whatever the replies, is among the given ones. -/
def Confined (among : Op → Prop) : Program Op Reply Result → Prop
  | .pure _ => True
  | .call op next => among op ∧ ∀ reply, Confined among (next reply)

theorem Confined.bind {among : Op → Prop} {program : Program Op Reply First}
    {continuation : First → Program Op Reply Second} (first : Confined among program)
    (continues : ∀ result, Confined among (continuation result)) :
    Confined among (program.bind continuation) := by
  induction program with
  | pure result => exact continues result
  | call op next ih => exact ⟨first.1, fun reply => ih reply (first.2 reply)⟩

theorem Confined.weaken {among wider : Op → Prop} {program : Program Op Reply Result}
    (confined : Confined among program) (implies : ∀ op, among op → wider op) :
    Confined wider program := by
  induction program with
  | pure result => trivial
  | call op next ih => exact ⟨implies op confined.1, fun reply => ih reply (confined.2 reply)⟩

/-- Every call of a run meets the condition on the call and its answer, and the result
and final state satisfy `post`, whatever the outcomes of the calls are. -/
def Issues (machine : Machine Op Reply State Outcome)
    (good : Event Op Reply State → Prop) (post : Result → State → Prop) :
    Program Op Reply Result → State → Prop
  | .pure result, state => post result state
  | .call op next, state => ∀ outcome,
      good ⟨op, state, (machine.step outcome op state).1, (machine.step outcome op state).2⟩ ∧
        Issues machine good post (next (machine.step outcome op state).1)
          (machine.step outcome op state).2

variable {good : Event Op Reply State → Prop} {post : Result → State → Prop}

theorem Issues.bind {program : Program Op Reply First}
    {continuation : First → Program Op Reply Second} {post : Second → State → Prop}
    {state : State}
    (issues : Issues machine good
      (fun result after => Issues machine good post (continuation result) after)
      program state) :
    Issues machine good post (program.bind continuation) state := by
  induction program generalizing state with
  | pure result => exact issues
  | call op next ih => exact fun outcome => ⟨(issues outcome).1, ih _ (issues outcome).2⟩

theorem Issues.weaken {after : Result → State → Prop} {program : Program Op Reply Result}
    {state : State} (issues : Issues machine good post program state)
    (implies : ∀ result state, post result state → after result state) :
    Issues machine good after program state := by
  induction program generalizing state with
  | pure value => exact implies value state issues
  | call op next ih => exact fun outcome => ⟨(issues outcome).1, ih _ (issues outcome).2⟩

theorem Confined.issues {among : Op → Prop} {program : Program Op Reply Result}
    (confined : Confined among program)
    (fine : ∀ event : Event Op Reply State, among event.op → good event) (state : State) :
    Issues machine good (fun _ _ => True) program state := by
  induction program generalizing state with
  | pure result => trivial
  | call op next ih =>
      exact fun outcome => ⟨fine ⟨op, _, _, _⟩ confined.1, ih _ (confined.2 _) _⟩

theorem Confined.holds {among : Op → Prop} {allowed : Event Op Reply State → Prop}
    {inv : State → Prop} {program : Program Op Reply Result}
    (confined : Confined among program)
    (kept : ∀ op, among op → ∀ outcome state, inv state → inv (machine.step outcome op state).2)
    {state : State} (start : inv state) :
    Holds machine allowed inv (fun _ _ => True) program state := by
  induction program generalizing state with
  | pure result => exact ⟨start, trivial⟩
  | call op next ih =>
      exact ⟨start, fun outcome _ =>
        ih _ (confined.2 _) (kept op confined.1 outcome state start)⟩

theorem Issues.run [Inhabited Outcome] {program : Program Op Reply Result} {state : State}
    (issues : Issues machine good post program state) (outcomes : List Outcome) :
    post (EffectProgram.run machine outcomes program state).1
      (EffectProgram.run machine outcomes program state).2 := by
  induction program generalizing outcomes state with
  | pure result => exact issues
  | call op next ih => exact ih _ (issues _).2 outcomes.tail

theorem Issues.meets [Inhabited Outcome] {program : Program Op Reply Result} {state : State}
    (issues : Issues machine good post program state) (outcomes : List Outcome) :
    Meets machine good outcomes program state := by
  induction program generalizing outcomes state with
  | pure result =>
      intro event member
      cases member
  | call op next ih =>
      exact meets_call.mpr ⟨(issues _).1, ih _ (issues _).2 outcomes.tail⟩

end Calls

end EffectProgram
