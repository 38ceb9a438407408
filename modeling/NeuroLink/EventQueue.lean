import NeuroLink.RequestDispatch
import NeuroLink.WorkQueue

/-!
How the unit publishes events. An application hands its event over to a queue of fixed depth
and goes on; the system work queue publishes what waits there. What else the unit publishes
goes out at once, in the thread that asks for it.
-/

namespace NeuroLink.EventQueue

open CText Errno RequestDispatch

/-- `NEURO_UNIT_EVENT_KEY_LEN`. -/
abbrev keyLen : Nat := 128

/-- `NEURO_UNIT_EVENT_JSON_LEN`. -/
abbrev jsonLen : Nat := 256

/-- `NEURO_UNIT_EVENT_ASYNC_QUEUE_DEPTH`. -/
abbrev queueDepth : Nat := 8

/-- `struct neuro_unit_event_ctx`; of the two callbacks it is kept whether they are set. -/
structure Context where
  nodeId : Buffer 32
  publishFn : Bool
  publishBytesFn : Bool

/-- `struct neuro_unit_pending_event_bytes`. -/
structure Pending where
  keyexpr : Text
  payload : List UInt8

/-- `neuro_protocol_build_event_route` into a buffer of `outLen` bytes. -/
def buildEventRoute (outLen : Nat) (node suffix : Text) : Except Int Text :=
  if outLen = 0 ∨ ¬ tokenIsValid node ∨ suffix = [] then .error (-einval)
  else
    let route := lit "neuro/" ++ node ++ lit "/event/" ++ suffix
    if route.length ≥ outLen then .error (-enametoolong) else .ok route

/-- `neuro_protocol_build_app_event_route` into a buffer of `outLen` bytes. -/
def buildAppEventRoute (outLen : Nat) (node appId eventName : Text) : Except Int Text :=
  if outLen = 0 ∨ ¬ tokenIsValid node ∨ ¬ tokenIsValid appId ∨ ¬ tokenIsValid eventName then
    .error (-einval)
  else
    let route := lit "neuro/" ++ node ++ lit "/event/app/" ++ appId ++ lit "/" ++ eventName
    if route.length ≥ outLen then .error (-enametoolong) else .ok route

/-- What both ways to configure the module do with the node: a name that does not fit is cut
and refused, and the callbacks stay as they were. -/
def configureNode (context : Context) (nodeId : Text) (set : Context → Context) :
    Int × Context :=
  if ¬ tokenIsValid nodeId then (-einval, context)
  else
    let named := { context with nodeId := copyBounded nodeId }
    if nodeId.length ≥ 32 then (-enametoolong, named) else (0, set named)

/-- `neuro_unit_event_configure`. -/
def configure (context : Context) (nodeId : Text) : Int × Context :=
  configureNode context nodeId fun context =>
    { context with publishFn := true, publishBytesFn := false }

/-- `neuro_unit_event_configure_bytes`. -/
def configureBytes (context : Context) (nodeId : Text) : Int × Context :=
  configureNode context nodeId fun context =>
    { context with publishFn := false, publishBytesFn := true }

/-- The context after `neuro_unit_event_reset`. -/
def Context.empty : Context := ⟨Buffer.empty, false, false⟩

/-- `neuro_unit_publish_app_event_bytes` up to its put. -/
def pendingEvent (context : Context) (appId eventName : Text) (payload : List UInt8) :
    Except Int Pending :=
  if context.nodeId.text = [] then .error (-enosys)
  else
    match buildAppEventRoute keyLen context.nodeId.text appId eventName with
    | .error code => .error code
    | .ok keyexpr =>
        if payload = [] ∨ payload.length > jsonLen then .error (-einval)
        else .ok ⟨keyexpr, payload⟩

/-- `neuro_unit_event_publish_bytes_now` up to the call of `publish_bytes_fn`. -/
def publishBytesNow (context : Context) (event : Pending) : Except Int Pending :=
  if ¬ context.publishBytesFn then .error (-enosys)
  else if event.keyexpr = [] ∨ event.payload = [] then .error (-einval)
  else .ok event

/-- `neuro_unit_event_publish` up to the call of `publish_fn` or of `publish_bytes_fn`. -/
def publishText (context : Context) (keyexpr payload : Text) : Except Int Pending :=
  if keyexpr = [] ∨ payload = [] then .error (-einval)
  else if ¬ context.publishFn then
    if context.publishBytesFn then publishBytesNow context ⟨keyexpr, bytes payload⟩
    else .error (-enosys)
  else .ok ⟨keyexpr, bytes payload⟩

/-- `neuro_unit_publish_app_event` up to the call of a callback. -/
def publishAppEvent (context : Context) (appId eventName payload : Text) : Except Int Pending :=
  if context.nodeId.text = [] then .error (-enosys)
  else
    match buildAppEventRoute keyLen context.nodeId.text appId eventName with
    | .error code => .error code
    | .ok keyexpr => publishText context keyexpr payload

/-- The module with the threads that call it; `handed` is what the work queue handed to
`publish_bytes_fn`, `direct` what the threads handed to a callback themselves. -/
structure State where
  context : Context
  work : WorkQueue.State Nat Pending
  handed : List Pending
  direct : List Pending

/-- A thread asks for an event to be queued, puts it or submits the work, a thread publishes
on its own, the work queue goes on, or the module is set up anew. -/
inductive Action where
  | publishAppEventBytes (thread : Nat) (appId eventName : Text) (payload : List UInt8)
  | put (thread : Nat)
  | submit (thread : Nat)
  | publishBytes (event : Pending)
  | publishAppEvent (appId eventName payload : Text)
  | handler
  | reset
  | configure (nodeId : Text)
  | configureBytes (nodeId : Text)

def Action.setsUp : Action → Bool
  | .reset | .configure _ | .configureBytes _ => true
  | _ => false

def State.moved (state : State) (action : WorkQueue.Action Nat Pending) : State :=
  { state with work := WorkQueue.step queueDepth state.work action }

def State.published (state : State) (event : Except Int Pending) : State :=
  { state with direct := state.direct ++ event.toOption.toList }

def handedNext (state : State) : List Pending :=
  (state.work.held.bind fun event => (publishBytesNow state.context event).toOption).toList

def take (state : State) : Action → State
  | .publishAppEventBytes thread appId eventName payload =>
      match pendingEvent state.context appId eventName payload with
      | .error _ => state
      | .ok pending => state.moved (.call thread pending)
  | .put thread => state.moved (.put thread)
  | .submit thread => state.moved (.submit thread)
  | .publishBytes event => state.published (publishBytesNow state.context event)
  | .publishAppEvent appId eventName payload =>
      state.published (EventQueue.publishAppEvent state.context appId eventName payload)
  | .handler => { state.moved .work with handed := state.handed ++ handedNext state }
  | .reset => { state.moved .purge with context := .empty }
  | .configure nodeId => { state with context := (EventQueue.configure state.context nodeId).2 }
  | .configureBytes nodeId =>
      { state with context := (EventQueue.configureBytes state.context nodeId).2 }

def started (nodeId : Text) : State where
  context := (configureBytes .empty nodeId).2
  work := WorkQueue.initial
  handed := []
  direct := []

def after (nodeId : Text) (actions : List Action) : State := actions.foldl take (started nodeId)

/-- An event of an application of the node, under its route and with a payload that fits. -/
def AppEvent (nodeId : Text) (event : Pending) : Prop :=
  ∃ appId eventName, tokenIsValid appId = true ∧ tokenIsValid eventName = true ∧
    event.keyexpr =
      lit "neuro/" ++ nodeId ++ lit "/event/app/" ++ appId ++ lit "/" ++ eventName ∧
    event.payload ≠ [] ∧ event.payload.length ≤ jsonLen

theorem pendingEvent_appEvent {context : Context} {appId eventName : Text}
    {payload : List UInt8} {pending : Pending}
    (made : pendingEvent context appId eventName payload = .ok pending) :
    AppEvent context.nodeId.text pending := by
  rw [pendingEvent] at made
  split at made
  · cases made
  · cases route : buildAppEventRoute keyLen context.nodeId.text appId eventName with
    | error code =>
        rw [route] at made
        cases made
    | ok keyexpr =>
        rw [route] at made
        dsimp only at made
        split at made
        · cases made
        · next sized =>
          cases made
          rw [buildAppEventRoute] at route
          split at route
          · cases route
          · next valid =>
            dsimp only at route
            split at route
            · cases route
            · cases route
              push Not at valid sized
              exact ⟨appId, eventName, valid.2.2.1, valid.2.2.2, rfl, sized.1, sized.2⟩

theorem publishBytesNow_same {context : Context} {event sent : Pending}
    (ok : publishBytesNow context event = .ok sent) : sent = event := by
  rw [publishBytesNow] at ok
  split at ok
  · cases ok
  · split at ok
    · cases ok
    · cases ok
      rfl

theorem publishBytesNow_appEvent {context : Context} {nodeId : Text} {event : Pending}
    (set : context.publishBytesFn = true) (known : AppEvent nodeId event) :
    publishBytesNow context event = .ok event := by
  obtain ⟨appId, eventName, _, _, route, filled, _⟩ := known
  have named : event.keyexpr ≠ [] := by
    rw [route]
    simp [lit]
  simp [publishBytesNow, set, named, filled]

theorem handedNext_sublist (state : State) :
    (handedNext state).Sublist state.work.held.toList := by
  rw [handedNext]
  cases state.work.held with
  | none => exact List.Sublist.refl _
  | some event =>
      cases sent : publishBytesNow state.context event with
      | error code => simp [sent, Except.toOption]
      | ok same => simp [sent, Except.toOption, publishBytesNow_same sent]

/-- What an action of a thread or of the setup does to the queue: nothing, or one step of it,
which empties it only when the module is set up anew and asks only for events of the node. -/
theorem take_work (state : State) (action : Action) (other : action ≠ .handler) :
    (take state action).work = state.work ∨
      ∃ move, (take state action).work = WorkQueue.step queueDepth state.work move ∧
        move ≠ .work ∧ (move = .purge → action.setsUp = true) ∧
        ∀ thread event, move = .call thread event → AppEvent state.context.nodeId.text event := by
  cases action with
  | publishAppEventBytes thread appId eventName payload =>
      rw [take]
      cases made : pendingEvent state.context appId eventName payload with
      | error code => exact .inl rfl
      | ok pending =>
          refine .inr ⟨.call thread pending, rfl, nofun, nofun, ?_⟩
          rintro _ _ ⟨rfl, rfl⟩
          exact pendingEvent_appEvent made
  | put thread => exact .inr ⟨.put thread, rfl, nofun, nofun, nofun⟩
  | submit thread => exact .inr ⟨.submit thread, rfl, nofun, nofun, nofun⟩
  | publishBytes event => exact .inl rfl
  | publishAppEvent appId eventName payload => exact .inl rfl
  | handler => exact absurd rfl other
  | reset => exact .inr ⟨.purge, rfl, nofun, fun _ => rfl, nofun⟩
  | configure nodeId => exact .inl rfl
  | configureBytes nodeId => exact .inl rfl

theorem take_handed (state : State) (action : Action) (other : action ≠ .handler) :
    (take state action).handed = state.handed := by
  cases action with
  | publishAppEventBytes thread appId eventName payload => rw [take]; split <;> rfl
  | handler => exact absurd rfl other
  | _ => rfl

theorem take_context (state : State) (action : Action) (kept : action.setsUp = false) :
    (take state action).context = state.context := by
  cases action with
  | publishAppEventBytes thread appId eventName payload => rw [take]; split <;> rfl
  | reset => cases kept
  | configure nodeId => cases kept
  | configureBytes nodeId => cases kept
  | _ => rfl

structure Sound (state : State) : Prop where
  awake : WorkQueue.Awake state.work
  within : state.work.queue.length ≤ queueDepth
  handed : state.handed.Sublist state.work.delivered
  present : state.work.present.Sublist state.work.accepted

theorem started_sound (nodeId : Text) : Sound (started nodeId) where
  awake := WorkQueue.initial_awake
  within := Nat.zero_le _
  handed := List.Sublist.refl _
  present := List.Sublist.refl _

theorem take_sound {state : State} (sound : Sound state) (action : Action) :
    Sound (take state action) := by
  by_cases handler : action = .handler
  · subst handler
    constructor
    · exact WorkQueue.work_awake sound.awake
    · exact WorkQueue.step_within sound.within .work
    · change (state.handed ++ handedNext state).Sublist (WorkQueue.work state.work).delivered
      rw [WorkQueue.work_delivered]
      exact sound.handed.append (handedNext_sublist state)
    · change (WorkQueue.work state.work).present.Sublist (WorkQueue.work state.work).accepted
      rw [WorkQueue.work_present, WorkQueue.work_accepted]
      exact sound.present
  · rcases take_work state action handler with same | ⟨move, moved, idle, _, _⟩
    · constructor
      · rw [same]
        exact sound.awake
      · rw [same]
        exact sound.within
      · rw [same, take_handed state action handler]
        exact sound.handed
      · rw [same]
        exact sound.present
    · constructor
      · rw [moved]
        exact WorkQueue.step_awake sound.awake move
      · rw [moved]
        exact WorkQueue.step_within sound.within move
      · rw [moved, take_handed state action handler, WorkQueue.step_delivered move idle]
        exact sound.handed
      · obtain ⟨more, accepted, present | ⟨_, rfl, dropped⟩⟩ :=
          WorkQueue.step_present move
        · rw [moved, accepted, present]
          exact sound.present.append_right more
        · rw [moved, accepted, List.append_nil]
          exact dropped.trans sound.present

structure Steady (nodeId : Text) (state : State) : Prop where
  named : state.context.nodeId.text = nodeId
  set : state.context.publishBytesFn = true
  carries : WorkQueue.Carries (AppEvent nodeId) state.work
  handed : state.handed = state.work.delivered
  present : state.work.present = state.work.accepted

theorem started_steady {nodeId : Text} (valid : tokenIsValid nodeId = true)
    (short : nodeId.length < 32) : Steady nodeId (started nodeId) := by
  have context : (started nodeId).context = ⟨copyBounded nodeId, false, true⟩ := by
    have fits : ¬ nodeId.length ≥ 32 := by omega
    simp [started, configureBytes, configureNode, valid, fits]
  constructor
  · rw [context]
    exact copyBounded_exact nodeId (by omega)
  · rw [context]
  · exact WorkQueue.initial_carries _
  · rfl
  · rfl

theorem take_steady {nodeId : Text} {state : State} (steady : Steady nodeId state)
    (action : Action) (kept : action.setsUp = false) : Steady nodeId (take state action) := by
  have context := take_context state action kept
  by_cases handler : action = .handler
  · subst handler
    constructor
    · rw [context]
      exact steady.named
    · rw [context]
      exact steady.set
    · change WorkQueue.Carries _ (WorkQueue.step queueDepth state.work .work)
      exact WorkQueue.step_carries steady.carries .work nofun
    · change state.handed ++ handedNext state = (WorkQueue.work state.work).delivered
      rw [WorkQueue.work_delivered, steady.handed, handedNext]
      cases held : state.work.held with
      | none => rfl
      | some event =>
          -- the held event was accepted, so that the publisher takes it
          have known : AppEvent nodeId event := by
            apply steady.carries.accepted
            rw [← steady.present, WorkQueue.State.present, held]
            simp
          simp [publishBytesNow_appEvent steady.set known, Except.toOption]
    · change (WorkQueue.work state.work).present = (WorkQueue.work state.work).accepted
      rw [WorkQueue.work_present, WorkQueue.work_accepted]
      exact steady.present
  · have handed := take_handed state action handler
    rcases take_work state action handler with same | ⟨move, moved, idle, purges, asks⟩
    · constructor
      · rw [context]
        exact steady.named
      · rw [context]
        exact steady.set
      · rw [same]
        exact steady.carries
      · rw [handed, same]
        exact steady.handed
      · rw [same]
        exact steady.present
    · constructor
      · rw [context]
        exact steady.named
      · rw [context]
        exact steady.set
      · rw [moved]
        refine WorkQueue.step_carries steady.carries move fun thread event call => ?_
        rw [← steady.named]
        exact asks thread event call
      · rw [handed, moved, WorkQueue.step_delivered move idle]
        exact steady.handed
      · obtain ⟨more, accepted, present | ⟨purge, _, _⟩⟩ :=
          WorkQueue.step_present move
        · rw [moved, accepted, present, steady.present]
        · rw [purges purge] at kept
          cases kept

theorem run_sound (actions : List Action) {state : State} (sound : Sound state) :
    Sound (actions.foldl take state) := by
  induction actions generalizing state with
  | nil => exact sound
  | cons action rest ih => exact ih (take_sound sound action)

theorem run_steady {nodeId : Text} (actions : List Action) {state : State}
    (steady : Steady nodeId state) (kept : ∀ action ∈ actions, action.setsUp = false) :
    Steady nodeId (actions.foldl take state) := by
  induction actions generalizing state with
  | nil => exact steady
  | cons action rest ih =>
      exact ih (take_steady steady action (kept action List.mem_cons_self))
        fun other later => kept other (List.mem_cons_of_mem _ later)

theorem handlers_work (count : Nat) (state : State) :
    ((List.replicate count .handler).foldl take state).work =
      WorkQueue.work^[count] state.work := by
  induction count generalizing state with
  | zero => rfl
  | succ rest ih => exact ih (take state .handler)

/-- Whatever happens between the steps of the threads, the work queue hands over accepted
events only, none of them twice and in the order in which they were accepted, and at most
eight wait. If the module is left as it was set up, all of them are events of the node, none
is dropped, and with no thread between its put and its submission the work queue by itself
hands over the rest. -/
theorem accepted_events_published (nodeId : Text) (valid : tokenIsValid nodeId = true)
    (short : nodeId.length < 32) (actions : List Action) :
    let state := after nodeId actions
    state.handed.Sublist state.work.accepted ∧ state.work.queue.length ≤ queueDepth ∧
      ((∀ action ∈ actions, action.setsUp = false) →
        (∀ event ∈ state.work.accepted, AppEvent nodeId event) ∧
        state.handed ++ (state.work.held.toList ++ state.work.queue) = state.work.accepted ∧
        (state.work.Settled → ∀ count, WorkQueue.load state.work ≤ count →
          (after nodeId (actions ++ List.replicate count .handler)).handed =
            state.work.accepted)) := by
  intro state
  have sound : Sound state := run_sound actions (started_sound nodeId)
  refine ⟨?_, sound.within, fun kept => ?_⟩
  · have front : state.work.delivered.Sublist state.work.present :=
      List.sublist_append_left _ _
    exact (sound.handed.trans front).trans sound.present
  · have begun := started_steady valid short
    have steady : Steady nodeId state := run_steady actions begun kept
    refine ⟨steady.carries.accepted, ?_, fun settled count enough => ?_⟩
    · rw [← steady.present, WorkQueue.State.present, steady.handed]
    · have later : Steady nodeId (after nodeId (actions ++ List.replicate count .handler)) := by
        refine run_steady _ begun fun action member => ?_
        rcases List.mem_append.mp member with old | new
        · exact kept action old
        · rw [List.eq_of_mem_replicate new]
          rfl
      have split : (after nodeId (actions ++ List.replicate count .handler)).work =
          WorkQueue.work^[count] state.work := by
        rw [after, List.foldl_append]
        exact handlers_work count state
      rw [later.handed, split, WorkQueue.worked_off sound.awake settled count enough,
        steady.present]

/-- Two threads publish; the first event goes out while the second is put. -/
def twoEvents : List Action :=
  [.publishAppEventBytes 0 (lit "pump") (lit "callback") [0xa0], .put 0, .submit 0, .handler,
    .publishAppEventBytes 1 (lit "fan") (lit "callback") [0xa1], .handler, .put 1, .handler]

theorem twoEvents_published :
    (after (lit "unit-01") twoEvents).handed ++
        ((after (lit "unit-01") twoEvents).work.held.toList ++
          (after (lit "unit-01") twoEvents).work.queue) =
      (after (lit "unit-01") twoEvents).work.accepted ∧
      (after (lit "unit-01") twoEvents).work.accepted.length = 2 :=
  ⟨((accepted_events_published (lit "unit-01") (by decide) (by decide) twoEvents).2.2
    (by decide)).2.1, by decide⟩

end NeuroLink.EventQueue
