import Mathlib.Logic.Function.Basic
import NeuroLink.StepRun

/-!
Decisions on one approval request, taken by any number of callers at once. Each caller
reads the status, works on what it read, and writes the status last; its statements are
committed one by one, the adapter may raise, and a caller may be cut off anywhere.
-/

namespace NeuroLink.ApprovalDecision

open StepRun

inductive Decision where
  | approve
  | deny
  | expire
  deriving DecidableEq

/-- The status column of `approval_requests`. -/
inductive Status where
  | pending
  | approved
  | denied
  | expired
  deriving DecidableEq

/-- `updated_status`. -/
def Decision.updatedStatus : Decision → Status
  | .approve => .approved
  | .deny => .denied
  | .expire => .expired

/-- The tools `_build_operator_requirements` executes, in order. -/
def inspectionTools : List String :=
  ["system_query_leases", "system_query_apps", "system_state_sync"]

/-- How far `apply_approval_decision` has come: in front of reading the request, of an
inspection before the resource gate, of the two statements of a blocked approval, of
executing the tool, of the statements that record the execution, of recording the decision,
of updating the request, or of the reads and inspections of the answer. -/
inductive Stage where
  | reading
  | inspecting (tools : List String)
  | blocking
  | reopening
  | asking
  | tracing (statements : Nat)
  | deciding
  | closing
  | answering (tools : List String)
  | ended
  deriving DecidableEq

structure Call where
  decision : Decision
  stage : Stage

/-- What the adapter and the table of decisions have seen. -/
inductive Entry where
  | asked (caller : Nat)
  | recorded (decision : Decision)

/-- The request in the database, its history with the newest entry first, and the calls. -/
structure State where
  tool : String
  status : Status
  history : List Entry
  calls : Nat → Call

/-- A call does its next step, whose resource gate may be satisfied or not, its adapter call
raises, or it is cut off. -/
inductive Event where
  | advance (satisfied : Bool)
  | raise
  | crash
  deriving DecidableEq

structure Action where
  caller : Nat
  event : Event

def moveTo (state : State) (caller : Nat) (stage : Stage) : State :=
  { state with
    calls := Function.update state.calls caller { state.calls caller with stage := stage } }

/-- An adapter call; only those for the tool of the request are remembered. -/
def ask (state : State) (caller : Nat) (tool : String) : State :=
  if tool = state.tool then { state with history := .asked caller :: state.history } else state

def record (state : State) (decision : Decision) : State :=
  { state with history := .recorded decision :: state.history }

/-- The next step of `apply_approval_decision`. -/
def advance (state : State) (caller : Nat) (satisfied : Bool) : State :=
  let decision := (state.calls caller).decision
  match (state.calls caller).stage with
  | .reading =>
      if state.status ≠ .pending then moveTo state caller .ended
      else if decision = .approve then moveTo state caller (.inspecting inspectionTools)
      else moveTo state caller .deciding
  | .inspecting [] => moveTo state caller (if satisfied then .asking else .blocking)
  | .inspecting (tool :: tools) => moveTo (ask state caller tool) caller (.inspecting tools)
  | .blocking => moveTo (record state decision) caller .reopening
  | .reopening => moveTo { state with status := .pending } caller (.answering [])
  | .asking => moveTo (ask state caller state.tool) caller (.tracing 4)
  | .tracing 0 => moveTo state caller .deciding
  | .tracing (statements + 1) => moveTo state caller (.tracing statements)
  | .deciding => moveTo (record state decision) caller .closing
  | .closing =>
      moveTo { state with status := decision.updatedStatus } caller
        (.answering (if decision = .approve then [] else inspectionTools))
  | .answering [] => moveTo state caller .ended
  | .answering (tool :: tools) => moveTo (ask state caller tool) caller (.answering tools)
  | .ended => state

def nextTool (state : State) (caller : Nat) : Option String :=
  match (state.calls caller).stage with
  | .inspecting (tool :: _) | .answering (tool :: _) => some tool
  | .asking => some state.tool
  | _ => none

def take (state : State) (action : Action) : State :=
  match action.event with
  | .advance satisfied => advance state action.caller satisfied
  | .raise =>
      match nextTool state action.caller with
      | some tool => moveTo (ask state action.caller tool) action.caller .ended
      | none => moveTo state action.caller .ended
  | .crash => moveTo state action.caller .ended

/-- A pending request, and calls that are about to start. -/
def start (tool : String) (decisions : Nat → Decision) : State where
  tool := tool
  status := .pending
  history := []
  calls caller := ⟨decisions caller, .reading⟩

def after (tool : String) (decisions : Nat → Decision) (actions : List Action) : State :=
  actions.foldl take (start tool decisions)

def askers : List Entry → List Nat
  | [] => []
  | .asked caller :: rest => caller :: askers rest
  | .recorded _ :: rest => askers rest

def refused : List Entry → Bool
  | [] => false
  | .asked _ :: rest => refused rest
  | .recorded decision :: rest => decision ≠ .approve || refused rest

def Allowed : List Entry → Prop
  | [] => True
  | .asked _ :: rest => refused rest = false ∧ Allowed rest
  | .recorded _ :: rest => Allowed rest

def Call.executing (call : Call) : Bool :=
  match call.stage with
  | .tracing _ => true
  | .deciding | .closing => call.decision = .approve
  | _ => false

/-- The tool is asked for at most once and never after a refusal, and once it was, and no
call is about to update the request, the request is no longer open. -/
structure Guarded (state : State) : Prop where
  once : (askers state.history).length ≤ 1
  allowed : Allowed state.history
  closed : askers state.history ≠ [] → (∀ caller, (state.calls caller).executing = false) →
    state.status ≠ .pending

def AsksTool (state : State) (action : Action) : Prop :=
  nextTool state action.caller = some state.tool ∧ action.event ≠ .crash

/-- A call executes the tool only while the request is pending, not refused and not being
executed by another call; a call that has executed it is not cut off before it has updated
the request; and none reopens a request that was executed. -/
structure Orderly (state : State) (action : Action) : Prop where
  asks : AsksTool state action →
    (state.calls action.caller).stage = .asking ∧ action.event ≠ .raise ∧
      state.status = .pending ∧ refused state.history = false ∧
      ∀ caller, (state.calls caller).executing = false
  cuts : (state.calls action.caller).executing = true →
    action.event = .raise ∨ action.event = .crash → state.status ≠ .pending
  reopens : (state.calls action.caller).stage = .reopening →
    action.event ≠ .raise → action.event ≠ .crash → askers state.history ≠ [] →
      ∃ caller, (state.calls caller).executing = true

def Stage.approving : Stage → Bool
  | .inspecting _ | .blocking | .reopening | .asking | .tracing _ => true
  | _ => false

structure Follows (history : List Entry) (caller : Nat) (call : Call) : Prop where
  executed : call.executing = true → caller ∈ askers history
  refusing : call.stage = .closing → call.decision ≠ .approve → refused history = true
  inspected : ∀ tool tools, call.stage = .answering (tool :: tools) → refused history = true
  approving : call.decision ≠ .approve → call.stage.approving = false

structure Tracked (state : State) : Prop where
  follows : ∀ caller, Follows state.history caller (state.calls caller)
  approved : state.status = .approved → askers state.history ≠ []
  refusal : state.status = .denied ∨ state.status = .expired → refused state.history = true

section Tracked

variable {state : State} {caller : Nat}

theorem start_tracked (tool : String) (decisions : Nat → Decision) :
    Tracked (start tool decisions) := by
  constructor
  · intro caller
    constructor
    · simp [start, Call.executing]
    · simp [start]
    · simp [start]
    · simp [start, Stage.approving]
  · simp [start]
  · simp [start]

theorem Follows.asked {history : List Entry} {call : Call} (follows : Follows history caller call)
    (other : Nat) : Follows (.asked other :: history) caller call where
  executed live := List.mem_cons_of_mem other (follows.executed live)
  refusing := follows.refusing
  inspected := follows.inspected
  approving := follows.approving

theorem Follows.recorded {history : List Entry} {call : Call}
    (follows : Follows history caller call) (decision : Decision) :
    Follows (.recorded decision :: history) caller call where
  executed := follows.executed
  refusing stage decided := by simp [refused, follows.refusing stage decided]
  inspected tool tools stage := by simp [refused, follows.inspected tool tools stage]
  approving := follows.approving

theorem ask_tracked (tracked : Tracked state) (tool : String) :
    Tracked (ask state caller tool) := by
  unfold ask
  split
  · constructor
    · exact fun other => (tracked.follows other).asked caller
    · simp [askers]
    · exact tracked.refusal
  · exact tracked

theorem record_tracked (tracked : Tracked state) (decision : Decision) :
    Tracked (record state decision) := by
  constructor
  · exact fun other => (tracked.follows other).recorded decision
  · exact tracked.approved
  · intro shown
    simp [record, refused, tracked.refusal shown]

theorem moveTo_tracked {stage : Stage} (tracked : Tracked state)
    (own : Follows state.history caller { state.calls caller with stage := stage }) :
    Tracked (moveTo state caller stage) := by
  constructor
  · intro other
    by_cases same : other = caller
    · rw [same, moveTo]
      simpa using own
    · rw [moveTo]
      simpa [same] using tracked.follows other
  · exact tracked.approved
  · exact tracked.refusal

def Stage.free : Stage → Bool
  | .reading | .answering [] | .ended => true
  | _ => false

theorem moveTo_free {stage : Stage} (tracked : Tracked state) (free : stage.free = true) :
    Tracked (moveTo state caller stage) := by
  refine moveTo_tracked tracked ⟨?_, ?_, ?_, ?_⟩
  all_goals cases stage <;> simp_all [Stage.free, Call.executing, Stage.approving]
  all_goals split at free <;> simp_all

/-- A stage an approval comes to before it executes the tool. -/
def Stage.early : Stage → Bool
  | .inspecting _ | .blocking | .reopening | .asking => true
  | _ => false

theorem moveTo_early {stage : Stage} (tracked : Tracked state)
    (approve : (state.calls caller).decision = .approve) (early : stage.early = true) :
    Tracked (moveTo state caller stage) := by
  refine moveTo_tracked tracked ⟨?_, ?_, ?_, ?_⟩
  all_goals cases stage <;> simp_all [Stage.early, Call.executing]

theorem ask_calls (state : State) (caller : Nat) (tool : String) :
    (ask state caller tool).calls = state.calls := by
  unfold ask
  split <;> rfl

theorem Tracked.approves (tracked : Tracked state)
    (approving : (state.calls caller).stage.approving = true) :
    (state.calls caller).decision = .approve := by
  by_contra other
  rw [(tracked.follows caller).approving other] at approving
  cases approving

theorem advance_tracked (tracked : Tracked state) (satisfied : Bool) :
    Tracked (advance state caller satisfied) := by
  have own := tracked.follows caller
  have approves : (state.calls caller).stage.approving = true →
      (state.calls caller).decision = .approve := tracked.approves
  unfold advance
  dsimp only
  split
  next =>
    split
    · exact moveTo_free tracked rfl
    split
    · next approve => exact moveTo_early tracked approve rfl
    · next other =>
      refine moveTo_tracked tracked ⟨?_, by simp, by simp, by simp [Stage.approving]⟩
      simp [Call.executing, other]
  next here =>
    have approve := approves (by simp [here, Stage.approving])
    exact moveTo_early tracked approve (by split <;> rfl)
  next here =>
    have approve := approves (by simp [here, Stage.approving])
    exact moveTo_early (ask_tracked tracked _) (by rw [ask_calls]; exact approve) rfl
  next here =>
    have approve := approves (by simp [here, Stage.approving])
    exact moveTo_early (record_tracked tracked _) approve rfl
  next =>
    refine moveTo_free ⟨tracked.follows, ?_, ?_⟩ rfl
    · simp
    · simp
  next here =>
    -- the call that executes the tool is on record as one that asked for it
    have approve := approves (by simp [here, Stage.approving])
    refine moveTo_tracked (ask_tracked tracked _) ⟨?_, by simp, by simp, ?_⟩
    · simp [ask, askers]
    · rw [ask_calls]
      exact fun other => absurd approve other
  next here =>
    refine moveTo_tracked tracked ⟨?_, by simp, by simp, by simp [Stage.approving]⟩
    exact fun _ => own.executed (by simp [Call.executing, here])
  next here =>
    have approve := approves (by simp [here, Stage.approving])
    refine moveTo_tracked tracked ⟨?_, by simp, by simp, fun other => absurd approve other⟩
    exact fun _ => own.executed (by simp [Call.executing, here])
  next here =>
    refine moveTo_tracked (record_tracked tracked _) ⟨?_, ?_, by simp, by simp [Stage.approving]⟩
    · intro live
      exact own.executed (by rw [Call.executing, here]; exact live)
    · intro _ other
      simp only [record] at other
      simp [record, refused, other]
  next here =>
    have shown : Tracked { state with status := (state.calls caller).decision.updatedStatus } := by
      refine ⟨tracked.follows, ?_, ?_⟩
      · intro approved
        have approve : (state.calls caller).decision = .approve := by
          cases decided : (state.calls caller).decision <;>
            simp_all [Decision.updatedStatus]
        exact List.ne_nil_of_mem (own.executed (by simp [Call.executing, here, approve]))
      · intro refusal
        refine own.refusing here fun approve => ?_
        simp [approve, Decision.updatedStatus] at refusal
    split
    · exact moveTo_free shown rfl
    · next other =>
      refine moveTo_tracked shown ⟨by simp [Call.executing], by simp, ?_, by simp [Stage.approving]⟩
      exact fun _ _ _ => own.refusing here other
  next => exact moveTo_free tracked rfl
  next tool tools here =>
    refine moveTo_tracked (ask_tracked tracked _) ⟨by simp [Call.executing], by simp, ?_,
      by simp [Stage.approving]⟩
    intro _ _ _
    have before := own.inspected tool tools here
    unfold ask
    split
    · exact before
    · exact before
  next => exact tracked

theorem take_tracked (action : Action) (tracked : Tracked state) : Tracked (take state action) := by
  unfold take
  split
  · exact advance_tracked tracked _
  · split
    · exact moveTo_free (ask_tracked tracked _) rfl
    · exact moveTo_free tracked rfl
  · exact moveTo_free tracked rfl

end Tracked

/-! What a step does to a guarded state. -/

section Steps

variable {state next : State} {caller : Nat}

theorem guarded_quiet (asks : askers next.history = askers state.history)
    (allowed : Allowed next.history ↔ Allowed state.history) (status : next.status = state.status)
    (executing : ∀ other, (next.calls other).executing = (state.calls other).executing) :
    Guarded next ↔ Guarded state := by
  constructor
  · rintro ⟨once, permitted, closed⟩
    rw [asks] at once closed
    refine ⟨once, allowed.mp permitted, fun asked idle => ?_⟩
    rw [← status]
    exact closed asked fun other => (executing other).trans (idle other)
  · rintro ⟨once, permitted, closed⟩
    refine ⟨by rw [asks]; exact once, allowed.mpr permitted, fun asked idle => ?_⟩
    rw [asks] at asked
    rw [status]
    exact closed asked fun other => (executing other).symm.trans (idle other)

theorem moveTo_calls (state : State) (caller : Nat) (stage : Stage) (other : Nat) :
    ((moveTo state caller stage).calls other).executing =
      if other = caller then ({ state.calls caller with stage := stage } : Call).executing
      else (state.calls other).executing := by
  by_cases same : other = caller
  · rw [if_pos same, same]
    simp [moveTo]
  · simp [moveTo, same]

theorem moveTo_quiet {stage : Stage}
    (executing : ({ state.calls caller with stage := stage } : Call).executing =
      (state.calls caller).executing) :
    Guarded (moveTo state caller stage) ↔ Guarded state := by
  refine guarded_quiet rfl Iff.rfl rfl fun other => ?_
  rw [moveTo_calls]
  split
  · next same => rw [same, executing]
  · rfl

theorem record_quiet (decision : Decision) : Guarded (record state decision) ↔ Guarded state :=
  guarded_quiet rfl Iff.rfl rfl fun _ => rfl

theorem ask_other {tool : String} (other : tool ≠ state.tool) : ask state caller tool = state :=
  if_neg other

theorem Tracked.pending (tracked : Tracked state) (fresh : askers state.history = [])
    (accepted : refused state.history = false) : state.status = .pending := by
  cases shown : state.status with
  | pending => rfl
  | approved => exact absurd fresh (tracked.approved shown)
  | denied => simp [tracked.refusal (.inl shown)] at accepted
  | expired => simp [tracked.refusal (.inr shown)] at accepted

theorem Tracked.idle (tracked : Tracked state) (fresh : askers state.history = [])
    (other : Nat) : (state.calls other).executing = false := by
  refine Bool.eq_false_iff.mpr fun live => ?_
  have asked := (tracked.follows other).executed live
  rw [fresh] at asked
  cases asked

/-- Executing the tool is what the conditions on it say. -/
theorem execute_guarded_iff (tracked : Tracked state) (guarded : Guarded state) :
    Guarded (moveTo (ask state caller state.tool) caller (.tracing 4)) ↔
      state.status = .pending ∧ refused state.history = false ∧
        ∀ other, (state.calls other).executing = false := by
  have history : (moveTo (ask state caller state.tool) caller (.tracing 4)).history =
      .asked caller :: state.history := by simp [moveTo, ask]
  constructor
  · intro after
    have fresh : askers state.history = [] := by
      have once := after.once
      rw [history, askers, List.length_cons] at once
      exact List.eq_nil_of_length_eq_zero (by omega)
    have accepted : refused state.history = false := by
      have allowed := after.allowed
      rw [history] at allowed
      exact allowed.1
    exact ⟨tracked.pending fresh accepted, accepted, tracked.idle fresh⟩
  · rintro ⟨pending, accepted, idle⟩
    have fresh : askers state.history = [] := by
      by_contra asked
      exact guarded.closed asked idle pending
    constructor
    · rw [history, askers, fresh]
      exact Nat.le_refl 1
    · rw [history]
      exact ⟨accepted, guarded.allowed⟩
    · intro _ idle
      have own := idle caller
      rw [moveTo_calls, if_pos rfl] at own
      cases own

theorem ask_unguarded {stage : Stage} (tracked : Tracked state)
    (idle : ({ state.calls caller with stage := stage } : Call).executing = false) :
    ¬ Guarded (moveTo (ask state caller state.tool) caller stage) := by
  have history : (moveTo (ask state caller state.tool) caller stage).history =
      .asked caller :: state.history := by simp [moveTo, ask]
  intro after
  have once := after.once
  have allowed := after.allowed
  have closed := after.closed
  rw [history, askers] at once closed
  rw [history] at allowed
  have fresh : askers state.history = [] :=
    List.eq_nil_of_length_eq_zero (by rw [List.length_cons] at once; omega)
  refine closed (by simp) (fun other => ?_) ?_
  · rw [moveTo_calls, ask_calls]
    split
    · exact idle
    · exact tracked.idle fresh other
  · have pending := tracked.pending fresh allowed.1
    simpa [moveTo, ask] using pending

theorem end_guarded_iff (tracked : Tracked state) (guarded : Guarded state)
    (live : (state.calls caller).executing = true) :
    Guarded (moveTo state caller .ended) ↔ state.status ≠ .pending := by
  have asked := (tracked.follows caller).executed live
  constructor
  · intro after
    refine after.closed (List.ne_nil_of_mem asked) fun other => ?_
    rw [moveTo_calls]
    split
    · rfl
    · next apart =>
      refine Bool.eq_false_iff.mpr fun also => apart ?_
      -- at most one call has asked for the tool
      have another := (tracked.follows other).executed also
      obtain ⟨single, only⟩ := List.length_eq_one_iff.mp
        (Nat.le_antisymm guarded.once (List.length_pos_of_mem asked))
      rw [only, List.mem_singleton] at another asked
      exact another.trans asked.symm
  · exact fun shown => ⟨guarded.once, guarded.allowed, fun _ _ => shown⟩

theorem reopen_guarded_iff (guarded : Guarded state)
    (idle : (state.calls caller).executing = false) :
    Guarded (moveTo { state with status := .pending } caller (.answering [])) ↔
      (askers state.history ≠ [] → ∃ other, (state.calls other).executing = true) := by
  have same : ∀ other, ((moveTo { state with status := .pending } caller
      (.answering [])).calls other).executing = (state.calls other).executing := by
    intro other
    rw [moveTo_calls]
    split
    · next own =>
      rw [own, idle]
      rfl
    · rfl
  constructor
  · intro after asked
    by_contra none
    refine after.closed asked (fun other => ?_) rfl
    rw [same]
    exact Bool.eq_false_iff.mpr fun live => none ⟨other, live⟩
  · intro executed
    refine ⟨guarded.once, guarded.allowed, fun asked idle => ?_⟩
    obtain ⟨other, live⟩ := executed asked
    rw [← same, idle other] at live
    cases live

theorem orderly_quiet {action : Action} (silent : ¬ AsksTool state action)
    (whole : (state.calls action.caller).executing = true →
      ¬ (action.event = .raise ∨ action.event = .crash))
    (kept : (state.calls action.caller).stage = .reopening →
      action.event = .raise ∨ action.event = .crash) : Orderly state action where
  asks asked := absurd asked silent
  cuts live cut := absurd cut (whole live)
  reopens here raised crashed := ((kept here).elim raised crashed).elim

/-- An adapter call outside the execution is in order if it is for another tool. -/
theorem inspect_guarded_iff {stage : Stage} {tool : String} {event : Event}
    (tracked : Tracked state) (guarded : Guarded state)
    (next : nextTool state caller = some tool) (here : (state.calls caller).stage ≠ .asking)
    (before : (state.calls caller).executing = false)
    (idle : ({ state.calls caller with stage := stage } : Call).executing = false)
    (runs : event ≠ .crash) :
    Guarded (moveTo (ask state caller tool) caller stage) ↔ Orderly state ⟨caller, event⟩ := by
  by_cases own : tool = state.tool
  · subst own
    constructor
    · intro after
      exact absurd after (ask_unguarded tracked idle)
    · intro orderly
      exact absurd (orderly.asks ⟨next, runs⟩).1 here
  · rw [ask_other own, moveTo_quiet (idle.trans before.symm), iff_true_left guarded]
    refine orderly_quiet (fun asks => ?_) (fun live => ?_) fun reopening => ?_
    · have same : some tool = some state.tool := next.symm.trans asks.1
      exact own (Option.some.inj same)
    · rw [before] at live
      cases live
    · rw [nextTool, reopening] at next
      cases next

theorem advance_guarded_iff (tracked : Tracked state) (guarded : Guarded state)
    (satisfied : Bool) :
    Guarded (advance state caller satisfied) ↔
      Orderly state ⟨caller, .advance satisfied⟩ := by
  have quiet : nextTool state caller = none → (state.calls caller).stage ≠ .reopening →
      Orderly state ⟨caller, .advance satisfied⟩ := by
    intro silent kept
    refine orderly_quiet (fun asks => ?_) (by simp) fun here => absurd here kept
    rw [AsksTool, silent] at asks
    cases asks.1
  unfold advance
  dsimp only
  split
  next here =>
    have orderly := quiet (by simp [nextTool, here]) (by simp [here])
    split
    · rw [moveTo_quiet (by simp [Call.executing, here]), iff_true_left guarded]
      exact orderly
    split
    · rw [moveTo_quiet (by simp [Call.executing, here]), iff_true_left guarded]
      exact orderly
    · next other =>
      rw [moveTo_quiet (by simp [Call.executing, here, other]), iff_true_left guarded]
      exact orderly
  next here =>
    rw [moveTo_quiet (by split <;> simp [Call.executing, here]), iff_true_left guarded]
    exact quiet (by simp [nextTool, here]) (by simp [here])
  next here =>
    exact inspect_guarded_iff tracked guarded (by simp [nextTool, here]) (by simp [here])
      (by simp [Call.executing, here]) rfl (by simp)
  next here =>
    rw [moveTo_quiet (by simp [Call.executing, here, record]), record_quiet,
      iff_true_left guarded]
    exact quiet (by simp [nextTool, here]) (by simp [here])
  next here =>
    rw [reopen_guarded_iff guarded (by simp [Call.executing, here])]
    constructor
    · intro executed
      refine ⟨fun asks => ?_, by simp, fun _ _ _ => executed⟩
      simp [AsksTool, nextTool, here] at asks
    · exact fun orderly => orderly.reopens here (by simp) (by simp)
  next here =>
    rw [execute_guarded_iff tracked guarded]
    constructor
    · intro open_
      refine ⟨fun _ => ⟨here, by simp, open_⟩, by simp, fun reopening => ?_⟩
      rw [here] at reopening
      cases reopening
    · exact fun orderly => (orderly.asks ⟨by simp [nextTool, here], by simp⟩).2.2
  next here =>
    have approve : (state.calls caller).decision = .approve :=
      tracked.approves (by simp [here, Stage.approving])
    rw [moveTo_quiet (by simp [Call.executing, here, approve]), iff_true_left guarded]
    exact quiet (by simp [nextTool, here]) (by simp [here])
  next here =>
    rw [moveTo_quiet (by simp [Call.executing, here]), iff_true_left guarded]
    exact quiet (by simp [nextTool, here]) (by simp [here])
  next here =>
    rw [moveTo_quiet (by simp [Call.executing, here, record]), record_quiet,
      iff_true_left guarded]
    exact quiet (by simp [nextTool, here]) (by simp [here])
  next here =>
    -- the status it writes is not pending, whoever else is under way
    refine iff_of_true ⟨guarded.once, guarded.allowed, fun _ _ => ?_⟩
      (quiet (by simp [nextTool, here]) (by simp [here]))
    change (state.calls caller).decision.updatedStatus ≠ .pending
    cases (state.calls caller).decision <;> simp [Decision.updatedStatus]
  next here =>
    rw [moveTo_quiet (by simp [Call.executing, here]), iff_true_left guarded]
    exact quiet (by simp [nextTool, here]) (by simp [here])
  next here =>
    exact inspect_guarded_iff tracked guarded (by simp [nextTool, here]) (by simp [here])
      (by simp [Call.executing, here]) rfl (by simp)
  next here =>
    exact iff_of_true guarded (quiet (by simp [nextTool, here]) (by simp [here]))

/-- A call that ends early, where it does not ask the adapter for anything. -/
theorem cut_guarded_iff {event : Event} (tracked : Tracked state) (guarded : Guarded state)
    (cut : event = .raise ∨ event = .crash) (silent : ¬ AsksTool state ⟨caller, event⟩) :
    Guarded (moveTo state caller .ended) ↔ Orderly state ⟨caller, event⟩ := by
  cases live : (state.calls caller).executing with
  | true =>
      rw [end_guarded_iff tracked guarded live]
      constructor
      · intro shown
        exact ⟨fun asks => absurd asks silent, fun _ _ => shown,
          fun _ raised crashed => (cut.elim raised crashed).elim⟩
      · exact fun orderly => orderly.cuts live cut
  | false =>
      rw [moveTo_quiet (by rw [live]; rfl), iff_true_left guarded]
      refine orderly_quiet silent (fun alive => ?_) fun _ => cut
      rw [live] at alive
      cases alive

theorem take_guarded_iff (action : Action) (tracked : Tracked state) (guarded : Guarded state) :
    Guarded (take state action) ↔ Orderly state action := by
  obtain ⟨caller, event⟩ := action
  cases event with
  | advance satisfied => exact advance_guarded_iff tracked guarded satisfied
  | crash => exact cut_guarded_iff tracked guarded (.inr rfl) fun asks => asks.2 rfl
  | raise =>
      change Guarded (match nextTool state caller with
        | some tool => moveTo (ask state caller tool) caller .ended
        | none => moveTo state caller .ended) ↔ _
      cases next : nextTool state caller with
      | none =>
          refine cut_guarded_iff tracked guarded (.inl rfl) fun asks => ?_
          rw [AsksTool, next] at asks
          cases asks.1
      | some tool =>
          by_cases here : (state.calls caller).stage = .asking
          · -- the tool was executed, and nothing records it
            have own : tool = state.tool := by
              rw [nextTool, here] at next
              exact (Option.some.inj next).symm
            subst own
            constructor
            · intro after
              exact absurd after (ask_unguarded tracked rfl)
            · intro orderly
              exact absurd rfl (orderly.asks ⟨next, by simp⟩).2.1
          · refine inspect_guarded_iff tracked guarded next here ?_ rfl (by simp)
            unfold nextTool at next
            split at next
            next shown => simp [Call.executing, shown]
            next shown => simp [Call.executing, shown]
            next shown => exact absurd shown here
            next => cases next

end Steps

/-- Whatever the calls are and however their steps, exceptions and crashes interleave, the
tool is executed at most once, not after a refusal and not with the request left open,
exactly as long as every step is in order. -/
theorem executes_once_iff (tool : String) (decisions : Nat → Decision) (actions : List Action) :
    (∀ front, front <+: actions → Guarded (after tool decisions front)) ↔
      Obeys take Orderly (start tool decisions) actions :=
  good_iff_obeys Guarded actions ⟨by simp [start, askers], trivial, by simp [start, askers]⟩
    (start_tracked tool decisions) (fun _ action tracked => take_tracked action tracked)
    fun _ action tracked guarded => take_guarded_iff action tracked guarded

def bothApprove : List Action :=
  (List.replicate 6 ⟨0, .advance true⟩) ++ (List.replicate 6 ⟨1, .advance true⟩)

theorem bothApprove_executes_twice :
    ¬ ∀ (tool : String) (decisions : Nat → Decision) (actions : List Action),
      ∀ front, front <+: actions → Guarded (after tool decisions front) := by
  intro claimed
  have once := (claimed "system_restart_app" (fun _ => .approve) bothApprove bothApprove
    (List.prefix_refl _)).once
  revert once
  decide

end NeuroLink.ApprovalDecision
