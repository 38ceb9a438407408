import NeuroLink.Errno
import NeuroLink.StepRun

/-!
One artifact chunk query: the caller that waits for it, the reply callback and the drop
callback share a context and the caller's buffer. The callbacks of a query run one at a
time and the drop callback runs last, once; nothing else orders them with the caller, who
waits for a limited time.
-/

namespace NeuroLink.ChunkFetch

open Errno StepRun

/-- `struct neuro_fetch_reply_ctx`; `done` is the semaphore, which counts to one. -/
structure Context where
  bufCapacity : Nat
  received : Nat
  result : Int
  replied : Bool
  refs : Nat
  done : Bool

/-- What the callback gets: a reply that is not ok, one without a readable payload, or
the payload. -/
inductive Reply where
  | failed
  | unreadable
  | payload (data : List UInt8)

/-- Where the caller stands in `neuro_unit_zenoh_fetch_chunk`: in front of the wait, of
reading the result, of `neuro_fetch_ctx_put`, or of the return. -/
inductive Caller where
  | waiting
  | woken
  | holding (ret : Int)
  | leaving (ret : Int)
  | returned (ret : Int)
  deriving DecidableEq

/-- Where the callbacks stand: between two of them, in front of the `memcpy`, of the result
or of `k_sem_give` in `fetch_reply_handler`, or at the check, at `k_sem_give` or at
`neuro_fetch_ctx_put` in `fetch_reply_dropper`. -/
inductive Callback where
  | idle
  | copying (data : List UInt8)
  | setting (result : Int) (received : Option Nat)
  | giving
  | dropping
  | dropGiving
  | dropPutting
  | dropped
  deriving DecidableEq

/-- The query with the caller's buffer; `frees` counts the releases of the context. -/
structure State where
  context : Context
  buffer : List UInt8
  outReceived : Option Nat
  frees : Nat
  caller : Caller
  callback : Callback

/-- A reply arrives, the query is dropped, the callback or the caller does its next step, or
the time of the wait is up. -/
inductive Action where
  | reply (reply : Reply)
  | drop
  | callback
  | caller
  | timeout

/-- `neuro_fetch_ctx_put`. -/
def put (state : State) : State :=
  { state with
    context := { state.context with refs := state.context.refs - 1 }
    frees := if state.context.refs = 1 then state.frees + 1 else state.frees }

/-- `fetch_reply_handler` up to its first write. -/
def enter (context : Context) (reply : Reply) : Callback :=
  if context.replied then .idle else
  match reply with
  | .failed => .setting (-eio) none
  | .unreadable => .setting (-ebadmsg) none
  | .payload data =>
      if data.length > context.bufCapacity then .setting (-emsgsize) none
      else if data = [] then .setting 0 (some 0)
      else .copying data

def stepCallback (state : State) : State :=
  match state.callback with
  | .idle | .dropped => state
  | .copying data =>
      { state with
        buffer := data ++ state.buffer.drop data.length
        callback := .setting 0 (some data.length) }
  | .setting result received =>
      { state with
        context := { state.context with
          received := received.getD state.context.received
          result := result
          replied := true }
        callback := .giving }
  | .giving => { state with context := { state.context with done := true }, callback := .idle }
  | .dropping =>
      if ¬ state.context.replied ∧ state.context.result = 0 then
        { state with
          context := { state.context with result := -enodata }
          callback := .dropGiving }
      else { state with callback := .dropPutting }
  | .dropGiving =>
      { state with context := { state.context with done := true }, callback := .dropPutting }
  | .dropPutting => { put state with callback := .dropped }

def stepCaller (state : State) : State :=
  match state.caller with
  | .waiting =>
      if state.context.done then
        { state with context := { state.context with done := false }, caller := .woken }
      else state
  | .woken =>
      { state with
        outReceived := some state.context.received
        caller := .holding state.context.result }
  | .holding ret => { put state with caller := .leaving ret }
  | .leaving ret => { state with caller := .returned ret }
  | .returned _ => state

/-- One action; one that cannot take place leaves the state. -/
def take (state : State) : Action → State
  | .reply reply =>
      if state.callback = .idle then { state with callback := enter state.context reply }
      else state
  | .drop => if state.callback = .idle then { state with callback := .dropping } else state
  | .callback => stepCallback state
  | .caller => stepCaller state
  | .timeout =>
      if state.caller = .waiting ∧ ¬ state.context.done then
        { state with caller := .holding (-etimedout) }
      else state

/-- The context and the buffer when the query is under way. -/
def start (chunkSize : Nat) (buffer : List UInt8) : State where
  context := ⟨chunkSize, 0, 0, false, 2, false⟩
  buffer := buffer
  outReceived := none
  frees := 0
  caller := .waiting
  callback := .idle

def after (chunkSize : Nat) (buffer : List UInt8) (actions : List Action) : State :=
  actions.foldl take (start chunkSize buffer)

def Callback.writes : Callback → Bool
  | .copying _ => true
  | _ => false

def Caller.hasReturned : Caller → Bool
  | .returned _ => true
  | _ => false

def Caller.hasPut : Caller → Bool
  | .leaving _ | .returned _ => true
  | _ => false

/-- The buffer is written only while the call has not returned. -/
def BufferSafe (state : State) : Prop :=
  state.callback.writes = true → state.caller.hasReturned = false

/-- The context is released once the caller and the drop callback are done with it, and
not before. -/
def ReleasedOnce (state : State) : Prop :=
  state.frees = if state.caller.hasPut ∧ state.callback = .dropped then 1 else 0

/-- No payload that is going to be copied comes in after the return, and the call does not
return while one is being copied. -/
def Timely (state : State) : Action → Prop
  | .reply reply =>
      state.callback = .idle → (enter state.context reply).writes = true →
        state.caller.hasReturned = false
  | .caller => state.caller.hasPut = true → state.callback.writes = false
  | _ => True

structure Counted (state : State) : Prop where
  refs : state.context.refs = (if state.caller.hasPut then 0 else 1) +
    (if state.callback = .dropped then 0 else 1)
  released : ReleasedOnce state

section Steps

variable {state : State}

theorem start_counted (chunkSize : Nat) (buffer : List UInt8) :
    Counted (start chunkSize buffer) where
  refs := rfl
  released := rfl

theorem Counted.same {next : State} (counted : Counted state)
    (refs : next.context.refs = state.context.refs) (frees : next.frees = state.frees)
    (caller : next.caller.hasPut = state.caller.hasPut)
    (callback : next.callback = .dropped ↔ state.callback = .dropped) : Counted next := by
  constructor
  · simp only [refs, caller, callback]
    exact counted.refs
  · simp only [ReleasedOnce, frees, caller, callback]
    exact counted.released

theorem stepCallback_counted (counted : Counted state) : Counted (stepCallback state) := by
  unfold stepCallback
  split
  next => exact counted
  next => exact counted
  next here => exact counted.same rfl rfl rfl (by simp [here])
  next here => exact counted.same rfl rfl rfl (by simp [here])
  next here => exact counted.same rfl rfl rfl (by simp [here])
  next here =>
    split
    · exact counted.same rfl rfl rfl (by simp [here])
    · exact counted.same rfl rfl rfl (by simp [here])
  next here => exact counted.same rfl rfl rfl (by simp [here])
  next here =>
    -- the drop callback gives up its reference
    obtain ⟨refs, released⟩ := counted
    simp only [here, ReleasedOnce] at refs released
    constructor
    · simp [put, refs]
    · cases gone : state.caller.hasPut <;> simp_all [ReleasedOnce, put]

theorem stepCaller_counted (counted : Counted state) : Counted (stepCaller state) := by
  unfold stepCaller
  split
  next here =>
    split
    · exact counted.same rfl rfl (by simp [here, Caller.hasPut]) Iff.rfl
    · exact counted
  next here => exact counted.same rfl rfl (by simp [here, Caller.hasPut]) Iff.rfl
  next ret here =>
    -- the caller gives up its reference
    obtain ⟨refs, released⟩ := counted
    simp only [here, ReleasedOnce, Caller.hasPut] at refs released
    constructor
    · simp [put, refs, Caller.hasPut]
    · by_cases gone : state.callback = .dropped <;> simp_all [ReleasedOnce, put, Caller.hasPut]
  next here => exact counted.same rfl rfl (by simp [here, Caller.hasPut]) Iff.rfl
  next => exact counted

theorem take_counted (action : Action) (counted : Counted state) : Counted (take state action) := by
  cases action with
  | reply reply =>
      rw [take]
      split
      · next here =>
        refine counted.same rfl rfl rfl ?_
        have undropped : enter state.context reply ≠ .dropped := by
          unfold enter
          split
          · simp
          · split
            · simp
            · simp
            · split
              · simp
              · split <;> simp
        simp [here, undropped]
      · exact counted
  | drop =>
      rw [take]
      split
      · next here => exact counted.same rfl rfl rfl (by simp [here])
      · exact counted
  | callback => exact stepCallback_counted counted
  | caller => exact stepCaller_counted counted
  | timeout =>
      rw [take]
      split
      · next here => exact counted.same rfl rfl (by simp [here.1, Caller.hasPut]) Iff.rfl
      · exact counted

theorem stepCallback_writes : (stepCallback state).callback.writes = false ∧
    (stepCallback state).caller = state.caller := by
  unfold stepCallback
  split
  next here => exact ⟨by rw [here]; rfl, rfl⟩
  next here => exact ⟨by rw [here]; rfl, rfl⟩
  next => exact ⟨rfl, rfl⟩
  next => exact ⟨rfl, rfl⟩
  next => exact ⟨rfl, rfl⟩
  next => split <;> exact ⟨rfl, rfl⟩
  next => exact ⟨rfl, rfl⟩
  next => exact ⟨rfl, rfl⟩

theorem stepCaller_returns : (stepCaller state).callback = state.callback ∧
    (stepCaller state).caller.hasReturned = state.caller.hasPut := by
  unfold stepCaller
  split
  next here =>
    split
    · exact ⟨rfl, by rw [here]; rfl⟩
    · exact ⟨rfl, by rw [here]; rfl⟩
  next here => exact ⟨rfl, by rw [here]; rfl⟩
  next here => exact ⟨rfl, by rw [here]; rfl⟩
  next here => exact ⟨rfl, by rw [here]; rfl⟩
  next here => exact ⟨rfl, by rw [here]; rfl⟩

theorem take_safe_iff (action : Action) (safe : BufferSafe state) :
    BufferSafe (take state action) ↔ Timely state action := by
  cases action with
  | reply reply =>
      simp only [take, Timely]
      split
      · next here => simp [BufferSafe, here]
      · next busy => simp [busy, safe]
  | drop =>
      simp only [take, Timely, iff_true]
      split
      · simp [BufferSafe, Callback.writes]
      · exact safe
  | callback =>
      simp only [take, Timely, iff_true, BufferSafe, stepCallback_writes.1]
      simp
  | caller =>
      simp only [take, Timely, BufferSafe, stepCaller_returns.1, stepCaller_returns.2]
      cases state.callback.writes <;> cases state.caller.hasPut <;> simp
  | timeout =>
      simp only [take, Timely, iff_true]
      split
      · simp [BufferSafe, Caller.hasReturned]
      · exact safe

end Steps

/-- In every order of the replies, the drop, the timeout and the steps of both sides, the
context is released exactly once; the buffer is written only before the return exactly when
no payload comes in, or is still being copied, after it. -/
theorem fetch_safe_iff (chunkSize : Nat) (buffer : List UInt8) (actions : List Action) :
    (∀ front, front <+: actions →
      BufferSafe (after chunkSize buffer front) ∧ ReleasedOnce (after chunkSize buffer front)) ↔
      Obeys take Timely (start chunkSize buffer) actions := by
  refine good_iff_obeys (fun state => BufferSafe state ∧ ReleasedOnce state) actions
    ⟨by simp [BufferSafe, start, Callback.writes], rfl⟩ (start_counted chunkSize buffer)
    (fun _ action counted => take_counted action counted) ?_
  intro state action counted good
  rw [← take_safe_iff action good.1]
  exact and_iff_left (take_counted action counted).released

def lateReply : List Action :=
  [.timeout, .caller, .caller, .reply (.payload [1]), .callback]

theorem lateReply_writes :
    ¬ ∀ (chunkSize : Nat) (buffer : List UInt8) (actions : List Action),
      ∀ front, front <+: actions → BufferSafe (after chunkSize buffer front) ∧
        ReleasedOnce (after chunkSize buffer front) := by
  intro claimed
  have safe := (claimed 2 [0, 0] lateReply (lateReply.take 4) (List.take_prefix _ _)).1
  exact absurd (safe rfl) (by decide)

end NeuroLink.ChunkFetch
