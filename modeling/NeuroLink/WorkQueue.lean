import Mathlib.Tactic.Common
import Mathlib.Data.List.Infix
import Mathlib.Logic.Function.Iterate

/-!
A bounded queue with one work item behind it. Threads put items into the queue and then
submit the work item; its handler takes items out until it finds the queue empty. A work
item that is submitted again before or while its handler runs is queued once, and the handler
runs again after it has returned. Putting, submitting and each step of the handler are steps
of their own, so that anything may happen between two of them.
-/

namespace WorkQueue

universe u v

variable {Thread : Type u} {Item : Type v}

/-- Where a thread stands: outside of a call, in front of the put with its item, or in
front of the submission. -/
inductive Position (Item : Type v) where
  | outside
  | ready (item : Item)
  | owing

def Position.owes : Position Item → Bool
  | .owing => true
  | _ => false

/-- `held` is the item the handler has taken and not delivered yet; `accepted` and
`delivered` say what was put and what was delivered so far, in order. -/
structure State (Thread : Type u) (Item : Type v) where
  queue : List Item
  held : Option Item
  queued : Bool
  running : Bool
  positions : Thread → Position Item
  accepted : List Item
  delivered : List Item

/-- A thread calls, puts or submits, the thread of the work queue goes on, or the queue is
emptied. -/
inductive Action (Thread : Type u) (Item : Type v) where
  | call (thread : Thread) (item : Item)
  | put (thread : Thread)
  | submit (thread : Thread)
  | work
  | purge

def initial : State Thread Item where
  queue := []
  held := none
  queued := false
  running := false
  positions := fun _ => .outside
  accepted := []
  delivered := []

/-- The next step of the work queue's thread: it delivers what the handler holds, looks for
the next item, or starts a work item that is queued. -/
def work (state : State Thread Item) : State Thread Item :=
  match state.held with
  | some item => { state with held := none, delivered := state.delivered ++ [item] }
  | none =>
      if state.running then
        match state.queue with
        | [] => { state with running := false }
        | item :: rest => { state with queue := rest, held := some item }
      else if state.queued then { state with queued := false, running := true }
      else state

/-- A thread that stands elsewhere than the action asks for makes no step. -/
def step [DecidableEq Thread] (capacity : Nat) (state : State Thread Item) :
    Action Thread Item → State Thread Item
  | .call thread item =>
      match state.positions thread with
      | .outside =>
          { state with positions := Function.update state.positions thread (.ready item) }
      | _ => state
  | .put thread =>
      match state.positions thread with
      | .ready item =>
          if state.queue.length < capacity then
            { state with
              queue := state.queue ++ [item]
              positions := Function.update state.positions thread .owing
              accepted := state.accepted ++ [item] }
          else { state with positions := Function.update state.positions thread .outside }
      | _ => state
  | .submit thread =>
      match state.positions thread with
      | .owing =>
          { state with
            queued := true
            positions := Function.update state.positions thread .outside }
      | _ => state
  | .work => work state
  | .purge => { state with queue := [] }

/-- Everything that was accepted and not dropped, in the order of the queue. -/
def State.present (state : State Thread Item) : List Item :=
  state.delivered ++ (state.held.toList ++ state.queue)

/-- No thread stands between its put and its submission. -/
def State.Settled (state : State Thread Item) : Prop :=
  ∀ thread, (state.positions thread).owes = false

/-- What waits has somebody who will see to it: a handler that runs or is queued, or a
thread that is about to submit it. -/
structure Awake (state : State Thread Item) : Prop where
  held : state.held ≠ none → state.running = true
  queue : state.queue ≠ [] → state.running = true ∨ state.queued = true ∨ ¬ state.Settled

/-- Every item on its way meets the condition. -/
structure Carries (condition : Item → Prop) (state : State Thread Item) : Prop where
  accepted : ∀ item ∈ state.accepted, condition item
  ready : ∀ thread item, state.positions thread = .ready item → condition item

/-- How many steps the thread of the work queue still has to make. -/
def load (state : State Thread Item) : Nat :=
  2 * state.queue.length + state.held.toList.length + state.running.toNat +
    2 * state.queued.toNat

theorem initial_awake : Awake (initial : State Thread Item) where
  held := fun held => absurd rfl held
  queue := fun queue => absurd rfl queue

theorem initial_carries (condition : Item → Prop) :
    Carries condition (initial : State Thread Item) where
  accepted := fun _ member => absurd member List.not_mem_nil
  ready := fun _ _ here => nomatch here

section Work

variable {state : State Thread Item}

theorem work_positions : (work state).positions = state.positions := by
  unfold work
  split
  · rfl
  · repeat' split
    all_goals rfl

theorem work_accepted : (work state).accepted = state.accepted := by
  unfold work
  split
  · rfl
  · repeat' split
    all_goals rfl

theorem work_present : (work state).present = state.present := by
  unfold work
  cases taken : state.held with
  | some item => simp [State.present, taken]
  | none =>
      cases running : state.running with
      | true => cases waiting : state.queue <;> simp [State.present, taken, waiting]
      | false => cases state.queued <;> simp [State.present, taken]

theorem work_delivered : (work state).delivered = state.delivered ++ state.held.toList := by
  unfold work
  cases taken : state.held with
  | some item => rfl
  | none =>
      cases state.running with
      | true => cases state.queue <;> simp
      | false => cases state.queued <;> simp

theorem work_within : (work state).queue.length ≤ state.queue.length := by
  unfold work
  cases state.held with
  | some item => exact Nat.le_refl _
  | none =>
      cases state.running with
      | true => cases state.queue <;> simp
      | false => cases state.queued <;> exact Nat.le_refl _

theorem work_awake (awake : Awake state) : Awake (work state) := by
  unfold work
  cases taken : state.held with
  | some item => exact ⟨fun held => absurd rfl held, awake.queue⟩
  | none =>
      cases running : state.running with
      | true =>
          cases waiting : state.queue with
          | nil => exact ⟨fun held => absurd rfl held, fun more => absurd rfl more⟩
          | cons item rest => exact ⟨fun _ => rfl, fun _ => .inl rfl⟩
      | false =>
          cases queued : state.queued with
          | true => exact ⟨fun _ => rfl, fun _ => .inl rfl⟩
          | false => simpa [queued] using awake

/-- With something left to do and no debt of another thread, each step brings the work queue
nearer to its end. -/
theorem work_load (awake : Awake state) (settled : state.Settled) :
    load (work state) = load state - 1 := by
  unfold work
  cases taken : state.held with
  | some item =>
      simp only [load, taken, Option.toList_some, Option.toList_none, List.length_nil,
        List.length_singleton]
      omega
  | none =>
      cases running : state.running with
      | true =>
          cases waiting : state.queue with
          | nil => simp [load, taken, running, waiting]
          | cons item rest => simp [load, taken, running, waiting]; omega
      | false =>
          cases queued : state.queued with
          | true => simp [load, taken, running, queued]
          | false =>
              have empty : state.queue = [] := by
                by_contra waiting
                rcases awake.queue waiting with runs | queues | owed
                · rw [running] at runs
                  cases runs
                · rw [queued] at queues
                  cases queues
                · exact owed settled
              simp [load, taken, running, queued, empty]

theorem delivered_of_load (done : load state = 0) : state.delivered = state.present := by
  have held : state.held = none := by
    cases taken : state.held with
    | none => rfl
    | some item =>
        simp only [load, taken, Option.toList_some, List.length_singleton] at done
        omega
  have queue : state.queue = [] := List.eq_nil_of_length_eq_zero (by unfold load at done; omega)
  simp [State.present, held, queue]

/-- A work queue that is left alone delivers everything that is present, in order. -/
theorem worked_off (awake : Awake state) (settled : state.Settled) (count : Nat)
    (enough : load state ≤ count) : (work^[count] state).delivered = state.present := by
  induction count generalizing state with
  | zero => exact delivered_of_load (Nat.le_zero.mp enough)
  | succ rest ih =>
      have left := work_load awake settled
      rw [Function.iterate_succ_apply, ih (work_awake awake), work_present]
      · intro thread
        rw [work_positions]
        exact settled thread
      · omega

end Work

section Steps

variable [DecidableEq Thread] {capacity : Nat} {state : State Thread Item}

theorem not_settled_owing {positions : Thread → Position Item} {thread : Thread}
    {after : State Thread Item} (here : after.positions = Function.update positions thread .owing) :
    ¬ after.Settled := by
  intro settled
  have owes := settled thread
  rw [here, Function.update_self] at owes
  cases owes

theorem not_settled_elsewhere {thread : Thread} {position : Position Item}
    {after : State Thread Item} (before : ¬ state.Settled)
    (free : (state.positions thread).owes = false)
    (here : after.positions = Function.update state.positions thread position) :
    ¬ after.Settled := by
  intro settled
  apply before
  intro other
  by_cases same : other = thread
  · rw [same]
    exact free
  · have owes := settled other
    rwa [here, Function.update_of_ne same] at owes

theorem Awake.moved {thread : Thread} {position : Position Item} (awake : Awake state)
    (free : (state.positions thread).owes = false) :
    Awake { state with positions := Function.update state.positions thread position } := by
  refine ⟨awake.held, fun waiting => ?_⟩
  rcases awake.queue waiting with running | queued | owed
  · exact .inl running
  · exact .inr (.inl queued)
  · exact .inr (.inr (not_settled_elsewhere owed free rfl))

theorem step_awake (awake : Awake state) (action : Action Thread Item) :
    Awake (step capacity state action) := by
  cases action with
  | call thread item =>
      simp only [step]
      cases here : state.positions thread with
      | outside => exact awake.moved (by rw [here]; rfl)
      | ready other => exact awake
      | owing => exact awake
  | put thread =>
      simp only [step]
      cases here : state.positions thread with
      | outside => exact awake
      | owing => exact awake
      | ready item =>
          by_cases room : state.queue.length < capacity
          · -- the thread itself now owes the submission
            simp only [room, if_true]
            exact ⟨awake.held, fun _ => .inr (.inr (not_settled_owing rfl))⟩
          · simp only [room, if_false]
            exact awake.moved (by rw [here]; rfl)
  | submit thread =>
      simp only [step]
      cases here : state.positions thread with
      | outside => exact awake
      | ready item => exact awake
      | owing => exact ⟨awake.held, fun _ => .inr (.inl rfl)⟩
  | work => exact work_awake awake
  | purge => exact ⟨awake.held, fun more => absurd rfl more⟩

theorem step_within (within : state.queue.length ≤ capacity) (action : Action Thread Item) :
    (step capacity state action).queue.length ≤ capacity := by
  cases action with
  | call thread item => simp only [step]; split <;> exact within
  | put thread =>
      simp only [step]
      split
      · split
        · next room =>
          rw [List.length_append, List.length_singleton]
          exact room
        · exact within
      · exact within
  | submit thread => simp only [step]; split <;> exact within
  | work => exact Nat.le_trans work_within within
  | purge => exact Nat.zero_le _

theorem step_delivered (action : Action Thread Item) (other : action ≠ .work) :
    (step capacity state action).delivered = state.delivered := by
  cases action with
  | call thread item => simp only [step]; split <;> rfl
  | put thread =>
      simp only [step]
      split
      · split <;> rfl
      · rfl
  | submit thread => simp only [step]; split <;> rfl
  | work => exact absurd rfl other
  | purge => rfl

/-- A step accepts at most one item and puts it behind everything present; apart from that
only a purge takes something away. -/
theorem step_present (action : Action Thread Item) :
    ∃ more, (step capacity state action).accepted = state.accepted ++ more ∧
      ((step capacity state action).present = state.present ++ more ∨
        action = .purge ∧ more = [] ∧
          (step capacity state action).present.Sublist state.present) := by
  cases action with
  | call thread item => refine ⟨[], ?_⟩; simp only [step]; split <;> simp [State.present]
  | put thread =>
      cases here : state.positions thread with
      | outside => exact ⟨[], by simp [step, here]⟩
      | owing => exact ⟨[], by simp [step, here]⟩
      | ready item =>
          by_cases room : state.queue.length < capacity
          · exact ⟨[item], by simp [step, here, room, State.present]⟩
          · exact ⟨[], by simp [step, here, room, State.present]⟩
  | submit thread => refine ⟨[], ?_⟩; simp only [step]; split <;> simp [State.present]
  | work => exact ⟨[], by simp [step, work_accepted], .inl (by simp [step, work_present])⟩
  | purge =>
      refine ⟨[], by simp [step], .inr ⟨rfl, rfl, ?_⟩⟩
      simp only [step, State.present, List.append_nil]
      exact (List.Sublist.refl _).append (List.sublist_append_left _ _)

theorem Carries.moved {condition : Item → Prop} (carries : Carries condition state)
    (thread : Thread) (position : Position Item)
    (meets : ∀ item, position = .ready item → condition item) :
    Carries condition
      { state with positions := Function.update state.positions thread position } where
  accepted := carries.accepted
  ready := fun other item here => by
    by_cases same : other = thread
    · simp only [same, Function.update_self] at here
      exact meets item here
    · simp only [Function.update_of_ne same] at here
      exact carries.ready other item here

theorem step_carries {condition : Item → Prop} (carries : Carries condition state)
    (action : Action Thread Item)
    (asked : ∀ thread item, action = .call thread item → condition item) :
    Carries condition (step capacity state action) := by
  cases action with
  | call thread item =>
      simp only [step]
      split
      · refine carries.moved thread _ fun other same => ?_
        cases same
        exact asked thread item rfl
      · exact carries
  | put thread =>
      simp only [step]
      split
      · next item here =>
        split
        · have moved := carries.moved thread .owing nofun
          refine ⟨fun other member => ?_, moved.ready⟩
          rcases List.mem_append.mp member with old | new
          · exact carries.accepted other old
          · rw [List.mem_singleton.mp new]
            exact carries.ready thread item here
        · exact carries.moved thread .outside nofun
      · exact carries
  | submit thread =>
      simp only [step]
      split
      · have moved := carries.moved thread .outside nofun
        exact ⟨moved.accepted, moved.ready⟩
      · exact carries
  | work =>
      refine ⟨fun item member => ?_, fun thread item here => ?_⟩
      · rw [step, work_accepted] at member
        exact carries.accepted item member
      · rw [step, work_positions] at here
        exact carries.ready thread item here
  | purge => exact ⟨carries.accepted, carries.ready⟩

end Steps

end WorkQueue
