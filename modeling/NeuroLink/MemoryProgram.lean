import NeuroLink.EffectProgram

/-!
Programs that also keep a memory of their own. A service takes its memory along
between the calls it makes: the environment never sees it, and a crash loses it.

`Ensures` speaks of every answer the environment could give, `Keeps` of the
answers of one machine and of the states between its calls.
-/

namespace MemoryProgram

open EffectProgram

universe u v w

def Service (Op : Type u) (Reply : Op → Type u) (Memory : Type u) (Result : Type u) :=
  Memory → Program Op Reply (Result × Memory)

namespace Service

variable {Op : Type u} {Reply : Op → Type u} {Memory First Second Result : Type u}

instance : Monad (Service Op Reply Memory) where
  pure result := fun memory => .pure (result, memory)
  bind service continuation := fun memory =>
    (service memory).bind fun outcome => continuation outcome.1 outcome.2

/-- One call to the environment. -/
def perform (op : Op) : Service Op Reply Memory (Reply op) :=
  fun memory => .call op fun reply => .pure (reply, memory)

def edit (change : Memory → Result × Memory) : Service Op Reply Memory Result :=
  fun memory => .pure (change memory)

def inspect : Service Op Reply Memory Memory := fun memory => .pure (memory, memory)

end Service

section Ensures

variable {Op : Type u} {Reply : Op → Type u} {Memory First Result : Type u}

def Always (post : Result → Prop) : Program Op Reply Result → Prop
  | .pure result => post result
  | .call _ next => ∀ reply, Always post (next reply)

theorem Always.bind {post : Result → Prop} {program : Program Op Reply First}
    {continuation : First → Program Op Reply Result}
    (always : Always (fun result => Always post (continuation result)) program) :
    Always post (program.bind continuation) := by
  induction program with
  | pure result => exact always
  | call op next ih => exact fun reply => ih reply (always reply)

theorem Always.weaken {post after : Result → Prop} {program : Program Op Reply Result}
    (always : Always post program) (implies : ∀ result, post result → after result) :
    Always after program := by
  induction program with
  | pure result => exact implies result always
  | call op next ih => exact fun reply => ih reply (always reply)

/-- What always holds is the result of every run on every machine. -/
theorem Always.run {State Outcome : Type w} [Inhabited Outcome] {post : Result → Prop}
    {program : Program Op Reply Result} (always : Always post program)
    (machine : Machine Op Reply State Outcome) (outcomes : List Outcome) (state : State) :
    post (EffectProgram.run machine outcomes program state).1 := by
  induction program generalizing outcomes state with
  | pure result => exact always
  | call op next ih => exact ih _ (always _) _ _

def Ensures (post : Result → Memory → Prop) (service : Service Op Reply Memory Result)
    (memory : Memory) : Prop :=
  Always (fun outcome => post outcome.1 outcome.2) (service memory)

variable {post : Result → Memory → Prop} {memory : Memory}

theorem Ensures.pure {result : Result} (done : post result memory) :
    Ensures post (Pure.pure result : Service Op Reply Memory Result) memory := done

theorem Ensures.bind {service : Service Op Reply Memory First}
    {continuation : First → Service Op Reply Memory Result}
    (ensures : Ensures (fun result after => Ensures post (continuation result) after)
      service memory) :
    Ensures post (service >>= continuation) memory :=
  Always.bind ensures

theorem Ensures.weaken {after : Result → Memory → Prop}
    {service : Service Op Reply Memory Result} (ensures : Ensures post service memory)
    (implies : ∀ result memory, post result memory → after result memory) :
    Ensures after service memory :=
  Always.weaken ensures fun outcome => implies outcome.1 outcome.2

/-- The rule of sequencing, from the condition between the two parts. -/
theorem Ensures.seq {mid : First → Memory → Prop} {service : Service Op Reply Memory First}
    {continuation : First → Service Op Reply Memory Result}
    (first : Ensures mid service memory)
    (rest : ∀ result after, mid result after → Ensures post (continuation result) after) :
    Ensures post (service >>= continuation) memory :=
  .bind (first.weaken rest)

theorem Ensures.last {continuation : First → Service Op Reply Memory Result}
    (service : Service Op Reply Memory First)
    (rest : ∀ result after, Ensures post (continuation result) after) :
    Ensures post (service >>= continuation) memory := by
  have always : ∀ program : Program Op Reply (First × Memory),
      Always (fun outcome => Ensures post (continuation outcome.1) outcome.2) program := by
    intro program
    induction program with
    | pure outcome => exact rest outcome.1 outcome.2
    | call op next ih => exact ih
  exact .bind (always (service memory))

theorem Ensures.perform {op : Op} {post : Reply op → Memory → Prop}
    (done : ∀ reply, post reply memory) :
    Ensures post (Service.perform op : Service Op Reply Memory (Reply op)) memory := done

theorem Ensures.edit {change : Memory → Result × Memory}
    (done : post (change memory).1 (change memory).2) :
    Ensures post (Service.edit change : Service Op Reply Memory Result) memory := done

theorem Ensures.inspect {post : Memory → Memory → Prop} (done : post memory memory) :
    Ensures post (Service.inspect : Service Op Reply Memory Memory) memory := done

end Ensures

section Keeps

variable {Op : Type u} {Reply : Op → Type u} {Memory First Result : Type u}
variable {State Outcome : Type u} {machine : Machine Op Reply State Outcome}
variable {allowed : Event Op Reply State → Prop} {inv : State → Prop}

/-- `Holds` for a service that starts with the given memory. -/
def Keeps (machine : Machine Op Reply State Outcome) (allowed : Event Op Reply State → Prop)
    (inv : State → Prop) (post : Result → Memory → State → Prop)
    (service : Service Op Reply Memory Result) (memory : Memory) (state : State) : Prop :=
  Holds machine allowed inv (fun outcome after => post outcome.1 outcome.2 after)
    (service memory) state

variable {post : Result → Memory → State → Prop} {memory : Memory} {state : State}

theorem Keeps.pure {result : Result} (kept : inv state) (done : post result memory state) :
    Keeps machine allowed inv post (Pure.pure result) memory state :=
  ⟨kept, done⟩

theorem Keeps.bind {service : Service Op Reply Memory First}
    {continuation : First → Service Op Reply Memory Result}
    (keeps : Keeps machine allowed inv
      (fun result after world =>
        Keeps machine allowed inv post (continuation result) after world)
      service memory state) :
    Keeps machine allowed inv post (service >>= continuation) memory state :=
  Holds.bind keeps

theorem Keeps.weaken {weaker : State → Prop} {after : Result → Memory → State → Prop}
    {service : Service Op Reply Memory Result}
    (keeps : Keeps machine allowed inv post service memory state)
    (invariant : ∀ state, inv state → weaker state)
    (implies : ∀ result memory state, inv state → post result memory state →
      after result memory state) :
    Keeps machine allowed weaker after service memory state :=
  Holds.weaken keeps invariant fun outcome state => implies outcome.1 outcome.2 state

theorem Keeps.seq {mid : First → Memory → State → Prop}
    {service : Service Op Reply Memory First}
    {continuation : First → Service Op Reply Memory Result}
    (first : Keeps machine allowed inv mid service memory state)
    (rest : ∀ result after world, inv world → mid result after world →
      Keeps machine allowed inv post (continuation result) after world) :
    Keeps machine allowed inv post (service >>= continuation) memory state :=
  .bind (first.weaken (fun _ kept => kept) rest)

theorem Keeps.perform {op : Op} {post : Reply op → Memory → State → Prop}
    (kept : inv state)
    (continues : ∀ outcome,
      allowed ⟨op, state, (machine.step outcome op state).1,
        (machine.step outcome op state).2⟩ →
      inv (machine.step outcome op state).2 ∧
        post (machine.step outcome op state).1 memory (machine.step outcome op state).2) :
    Keeps machine allowed inv post (Service.perform op) memory state :=
  ⟨kept, continues⟩

theorem Keeps.edit {change : Memory → Result × Memory} (kept : inv state)
    (done : post (change memory).1 (change memory).2 state) :
    Keeps machine allowed inv post (Service.edit change) memory state :=
  ⟨kept, done⟩

theorem Keeps.inspect {post : Memory → Memory → State → Prop} (kept : inv state)
    (done : post memory memory state) :
    Keeps machine allowed inv post (Service.inspect) memory state :=
  ⟨kept, done⟩

/-- What is ensured whatever the replies are holds on every machine. -/
theorem Ensures.keeps {post : Result → Memory → Prop}
    {service : Service Op Reply Memory Result} (ensures : Ensures post service memory)
    (machine : Machine Op Reply State Outcome) (allowed : Event Op Reply State → Prop)
    (state : State) :
    Keeps machine allowed (fun _ => True) (fun result after _ => post result after)
      service memory state := by
  have holds : ∀ (program : Program Op Reply (Result × Memory)) (state : State),
      Always (fun outcome => post outcome.1 outcome.2) program →
      Holds machine allowed (fun _ => True) (fun outcome _ => post outcome.1 outcome.2)
        program state := by
    intro program
    induction program with
    | pure outcome => exact fun _ always => ⟨trivial, always⟩
    | call op next ih => exact fun _ always => ⟨trivial, fun _ _ => ih _ _ (always _)⟩
  exact holds _ state ensures

end Keeps

section Calls

variable {Op : Type u} {Reply : Op → Type u} {Memory First Result : Type u}
variable {State Outcome : Type u} {machine : Machine Op Reply State Outcome}
variable {among : Op → Prop} {good : Event Op Reply State → Prop}

/-- `Confined` for a service, whatever memory it starts with. -/
def CallsOnly (among : Op → Prop) (service : Service Op Reply Memory Result) : Prop :=
  ∀ memory, Confined among (service memory)

theorem CallsOnly.pure (result : Result) :
    CallsOnly among (Pure.pure result : Service Op Reply Memory Result) := fun _ => trivial

theorem CallsOnly.edit (change : Memory → Result × Memory) :
    CallsOnly among (Service.edit change : Service Op Reply Memory Result) := fun _ => trivial

theorem CallsOnly.inspect : CallsOnly among (Service.inspect : Service Op Reply Memory Memory) :=
  fun _ => trivial

theorem CallsOnly.perform {op : Op} (member : among op) :
    CallsOnly among (Service.perform op : Service Op Reply Memory (Reply op)) :=
  fun _ => ⟨member, fun _ => trivial⟩

theorem CallsOnly.bind {service : Service Op Reply Memory First}
    {continuation : First → Service Op Reply Memory Result}
    (first : CallsOnly among service)
    (continues : ∀ result, CallsOnly among (continuation result)) :
    CallsOnly among (service >>= continuation) :=
  fun memory => Confined.bind (first memory) fun outcome => continues outcome.1 outcome.2

theorem CallsOnly.weaken {wider : Op → Prop} {service : Service Op Reply Memory Result}
    (only : CallsOnly among service) (implies : ∀ op, among op → wider op) :
    CallsOnly wider service :=
  fun memory => (only memory).weaken implies

theorem CallsOnly.keeps {allowed : Event Op Reply State → Prop} {inv : State → Prop}
    {service : Service Op Reply Memory Result} (only : CallsOnly among service)
    (kept : ∀ op, among op → ∀ outcome state, inv state → inv (machine.step outcome op state).2)
    (memory : Memory) {state : State} (start : inv state) :
    Keeps machine allowed inv (fun _ _ _ => True) service memory state :=
  (only memory).holds kept start

/-- `Issues` for a service that starts with the given memory. -/
def Issuing (machine : Machine Op Reply State Outcome) (good : Event Op Reply State → Prop)
    (post : Result → Memory → State → Prop) (service : Service Op Reply Memory Result)
    (memory : Memory) (state : State) : Prop :=
  Issues machine good (fun outcome after => post outcome.1 outcome.2 after)
    (service memory) state

variable {post : Result → Memory → State → Prop} {memory : Memory} {state : State}

theorem Issuing.pure {result : Result} (done : post result memory state) :
    Issuing machine good post (Pure.pure result) memory state := done

theorem Issuing.edit {change : Memory → Result × Memory}
    (done : post (change memory).1 (change memory).2 state) :
    Issuing machine good post (Service.edit change) memory state := done

theorem Issuing.perform {op : Op} {post : Reply op → Memory → State → Prop}
    (issues : ∀ outcome,
      good ⟨op, state, (machine.step outcome op state).1, (machine.step outcome op state).2⟩ ∧
        post (machine.step outcome op state).1 memory (machine.step outcome op state).2) :
    Issuing machine good post (Service.perform op) memory state := issues

theorem Issuing.seq {mid : First → Memory → State → Prop}
    {service : Service Op Reply Memory First}
    {continuation : First → Service Op Reply Memory Result}
    (first : Issuing machine good mid service memory state)
    (rest : ∀ result after world, mid result after world →
      Issuing machine good post (continuation result) after world) :
    Issuing machine good post (service >>= continuation) memory state :=
  Issues.bind (first.weaken fun outcome => rest outcome.1 outcome.2)

theorem CallsOnly.issuing {service : Service Op Reply Memory Result}
    (only : CallsOnly among service)
    (fine : ∀ event : Event Op Reply State, among event.op → good event)
    (memory : Memory) (state : State) :
    Issuing machine good (fun _ _ _ => True) service memory state :=
  (only memory).issues fine state

end Calls

end MemoryProgram
