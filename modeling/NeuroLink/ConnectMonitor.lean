import NeuroLink.NetworkManager
import NeuroLink.StepRun

/-!
The thread that keeps the unit's session with the router up. It opens a session once the
network is ready, declares the three queryables of the unit on it and takes both down again
when the transport or the network fails. The shell may change the endpoint at any time and
takes down the session itself, if there is one. Only what is done under the lock is one step.
-/

namespace NeuroLink.ConnectMonitor

open CText NetworkManager StepRun

/-- The queryables of the unit, `cmd_queryable`, `query_queryable` and `update_queryable`, in the
order in which an attempt declares them. -/
inductive Handle where
  | cmd
  | query
  | update
deriving DecidableEq

/-- What an attempt undeclares, in this order, where the declaration of the handle fails. -/
def Handle.earlier : Handle → List Handle
  | .cmd => []
  | .query => [.cmd]
  | .update => [.query, .cmd]

/-- Where the thread stands: at the start of its loop, in front of a teardown after an
unhealthy transport, of the network status, of a teardown after an unready network, or at a
stage of `neuro_unit_connect_once`, with the endpoint in its configuration. What `connect`
points to is kept as whether that is the override. -/
inductive Position where
  | top
  | tearing (overridden : Bool)
  | collecting (overridden : Bool)
  | dropping
  | configuring
  | probing (endpoint : Text) (overridden : Bool)
  | opening (endpoint : Text)
  | declaring (handle : Handle)
  | announcing

/-- `struct neuro_unit_zenoh_transport` with the endpoint of the session that is open. The
counters say how often the library was asked to open and close a session and to declare and
undeclare each queryable, and how often the unit announced itself. -/
structure State where
  sessionReady : Bool
  connectOverride : Text
  endpoint : Text
  position : Position
  opens : Nat
  closes : Nat
  declares : Handle → Nat
  undeclares : Handle → Nat
  announcements : Nat

/-- What the environment answers the thread at its position, a step of the thread without an
answer, or the shell. -/
inductive Action where
  | health (running : Bool)
  | network (observation : Observation)
  | go
  | probe (reached : Bool)
  | openSession (ok : Bool)
  | declare (ok : Bool)
  | setConnectOverride (endpoint : Text)
  | clearConnectOverride

def Handle.declared : Handle → Position
  | .cmd => .declaring .query
  | .query => .declaring .update
  | .update => .announcing

section Machine

variable (connectDefault : Text)

/-- `neuro_unit_zenoh_get_connect`. -/
def getConnect (state : State) : Text :=
  if state.connectOverride ≠ [] then state.connectOverride else connectDefault

/-- What a pointer that `neuro_unit_zenoh_get_connect` returned points to by now. -/
def pointee (state : State) (overridden : Bool) : Text :=
  if overridden then state.connectOverride else connectDefault

def undeclare (handles : List Handle) (state : State) : State :=
  { state with undeclares := fun handle => state.undeclares handle + handles.count handle }

/-- `neuro_unit_zenoh_disconnect_locked`. -/
def disconnectLocked (state : State) : State :=
  if state.sessionReady then
    { undeclare [.update, .query, .cmd] state with
      sessionReady := false
      closes := state.closes + 1 }
  else state

/-- `neuro_unit_zenoh_set_connect_override`. -/
def setConnectOverride (state : State) (endpoint : Text) : State :=
  if endpoint = [] ∨ endpoint.length ≥ 128 ∨ state.connectOverride = endpoint then state
  else disconnectLocked { state with connectOverride := endpoint }

/-- `neuro_unit_zenoh_clear_connect_override`. -/
def clearConnectOverride (state : State) : State :=
  if state.connectOverride = [] then state
  else disconnectLocked { state with connectOverride := [] }

/-- One step of `neuro_unit_zenoh_connect_thread` or of the shell. An answer that is not the
one the thread waits for changes nothing. -/
def take (state : State) (action : Action) : State :=
  match action, state.position with
  | .health running, .top =>
      let overridden : Bool := state.connectOverride ≠ []
      if state.sessionReady && !running then { state with position := .tearing overridden }
      else { state with position := .collecting overridden }
  | .go, .tearing overridden =>
      { disconnectLocked state with position := .collecting overridden }
  | .network observation, .collecting overridden =>
      if !isReady (collectStatus (pointee connectDefault state overridden) observation) then
        { state with position := if state.sessionReady then .dropping else .top }
      else { state with position := if state.sessionReady then .top else .configuring }
  | .go, .dropping => { disconnectLocked state with position := .top }
  | .go, .configuring =>
      { state with
        position := .probing (getConnect connectDefault state) (state.connectOverride ≠ []) }
  | .probe reached, .probing endpoint overridden =>
      if pointee connectDefault state overridden = [] ∨ reached then
        { state with position := .opening endpoint }
      else { state with position := .top }
  | .openSession ok, .opening endpoint =>
      if ok then
        { state with endpoint := endpoint, opens := state.opens + 1, position := .declaring .cmd }
      else { state with position := .top }
  | .declare ok, .declaring handle =>
      if ok then
        { state with
          declares := Function.update state.declares handle (state.declares handle + 1)
          position := handle.declared }
      else
        -- what was declared so far goes first, the session after it
        { undeclare handle.earlier state with
          closes := state.closes + 1
          position := .top }
  | .go, .announcing =>
      { state with
        sessionReady := true
        announcements := state.announcements + 1
        position := .top }
  | .setConnectOverride endpoint, _ => setConnectOverride state endpoint
  | .clearConnectOverride, _ => clearConnectOverride state
  | _, _ => state

/-- The transport after `neuro_unit_zenoh_init`. -/
def initial : State where
  sessionReady := false
  connectOverride := []
  endpoint := []
  position := .top
  opens := 0
  closes := 0
  declares := fun _ => 0
  undeclares := fun _ => 0
  announcements := 0

def after (actions : List Action) : State := actions.foldl (take connectDefault) initial

end Machine

/-- The sessions and queryables that the attempt under way has open. -/
def Position.session : Position → Nat
  | .declaring _ | .announcing => 1
  | _ => 0

def Position.holds (handle : Handle) : Position → Nat
  | .declaring next => next.earlier.count handle
  | .announcing => 1
  | _ => 0

/-- The thread is in `neuro_unit_connect_once`. -/
def Position.attempting : Position → Bool
  | .configuring | .probing _ _ | .opening _ | .declaring _ | .announcing => true
  | _ => false

/-- What is open is the announced session with its queryables or what the attempt under way
has opened, and never both. -/
structure Accounted (state : State) : Prop where
  sessions : state.opens =
    state.closes + ((if state.sessionReady then 1 else 0) + state.position.session)
  queryables : ∀ handle, state.declares handle = state.undeclares handle +
    ((if state.sessionReady then 1 else 0) + state.position.holds handle)
  single : state.sessionReady = true → state.position.attempting = false

section Steps

variable {connectDefault : Text} {state : State}

theorem initial_accounted : Accounted initial := ⟨rfl, fun _ => rfl, nofun⟩

theorem Accounted.unready (accounted : Accounted state)
    (attempting : state.position.attempting = true) : state.sessionReady = false := by
  cases ready : state.sessionReady with
  | false => rfl
  | true =>
      rw [accounted.single ready] at attempting
      cases attempting

theorem Accounted.moved {next : State} (accounted : Accounted state)
    (ready : next.sessionReady = state.sessionReady)
    (opens : next.opens = state.opens) (closes : next.closes = state.closes)
    (declares : next.declares = state.declares) (undeclares : next.undeclares = state.undeclares)
    (session : next.position.session = state.position.session)
    (queryables : ∀ handle, next.position.holds handle = state.position.holds handle)
    (single : state.sessionReady = true → next.position.attempting = false) :
    Accounted next := by
  constructor
  · rw [opens, closes, ready, session]
    exact accounted.sessions
  · intro handle
    rw [declares, undeclares, ready, queryables]
    exact accounted.queryables handle
  · rw [ready]
    exact single

/-- A teardown leaves nothing open but what the attempt under way has opened. -/
theorem disconnectLocked_accounted (accounted : Accounted state) :
    Accounted (disconnectLocked state) := by
  unfold disconnectLocked
  obtain ⟨sessions, queryables, single⟩ := accounted
  split
  · next ready =>
    simp only [ready, if_true] at sessions queryables
    refine ⟨?_, fun handle => ?_, nofun⟩
    · simp only [undeclare, Bool.false_eq_true, if_false]
      omega
    · have each : [Handle.update, .query, .cmd].count handle = 1 := by cases handle <;> rfl
      have owned := queryables handle
      simp only [undeclare, each, Bool.false_eq_true, if_false]
      omega
  · exact ⟨sessions, queryables, single⟩

@[simp] theorem disconnectLocked_position : (disconnectLocked state).position = state.position := by
  unfold disconnectLocked
  split <;> rfl

@[simp] theorem disconnectLocked_override :
    (disconnectLocked state).connectOverride = state.connectOverride := by
  unfold disconnectLocked
  split <;> rfl

@[simp] theorem disconnectLocked_ready : (disconnectLocked state).sessionReady = false := by
  unfold disconnectLocked
  split
  · rfl
  · next unready =>
    simpa using unready

theorem setConnectOverride_accounted (accounted : Accounted state) (endpoint : Text) :
    Accounted (setConnectOverride state endpoint) := by
  unfold setConnectOverride
  split
  · exact accounted
  · exact disconnectLocked_accounted
      (accounted.moved rfl rfl rfl rfl rfl rfl (fun _ => rfl) accounted.single)

theorem clearConnectOverride_accounted (accounted : Accounted state) :
    Accounted (clearConnectOverride state) := by
  unfold clearConnectOverride
  split
  · exact accounted
  · exact disconnectLocked_accounted
      (accounted.moved rfl rfl rfl rfl rfl rfl (fun _ => rfl) accounted.single)

theorem Accounted.tornDown {position : Position} (accounted : Accounted state)
    (before : state.position.session = 0 ∧ ∀ handle, state.position.holds handle = 0)
    (behind : position.session = 0 ∧ ∀ handle, position.holds handle = 0) :
    Accounted { disconnectLocked state with position := position } := by
  have down := disconnectLocked_accounted accounted
  refine down.moved rfl rfl rfl rfl rfl ?_ (fun handle => ?_) fun ready => ?_
  · rw [disconnectLocked_position, before.1]
    exact behind.1
  · rw [disconnectLocked_position, before.2]
    exact behind.2 handle
  · rw [disconnectLocked_ready] at ready
    cases ready

theorem declared_holds (handle other : Handle) :
    handle.declared.session = 1 ∧ handle.declared.holds other =
      handle.earlier.count other + if other = handle then 1 else 0 := by
  cases handle <;> cases other <;> exact ⟨rfl, rfl⟩

theorem Accounted.walked {position : Position} (accounted : Accounted state)
    (session : position.session = state.position.session)
    (queryables : ∀ handle, position.holds handle = state.position.holds handle)
    (single : state.sessionReady = true → position.attempting = false) :
    Accounted { state with position := position } :=
  accounted.moved rfl rfl rfl rfl rfl session queryables single

theorem take_accounted (accounted : Accounted state) (action : Action) :
    Accounted (take connectDefault state action) := by
  unfold take
  split
  next running here =>
    -- at the start of the loop only the position moves
    dsimp only
    split
    · exact accounted.walked (by rw [here]; rfl) (by simp [here, Position.holds]) fun _ => rfl
    · exact accounted.walked (by rw [here]; rfl) (by simp [here, Position.holds]) fun _ => rfl
  next overridden here =>
    exact accounted.tornDown (by rw [here]; exact ⟨rfl, fun _ => rfl⟩) ⟨rfl, fun _ => rfl⟩
  next observation overridden here =>
    split
    · refine accounted.walked ?_ (fun _ => ?_) fun _ => ?_
      · rw [here]
        split <;> rfl
      · rw [here]
        split <;> rfl
      · split <;> rfl
    · refine accounted.walked ?_ (fun _ => ?_) fun ready => ?_
      · rw [here]
        split <;> rfl
      · rw [here]
        split <;> rfl
      · rw [if_pos ready]
        rfl
  next here =>
    exact accounted.tornDown (by rw [here]; exact ⟨rfl, fun _ => rfl⟩) ⟨rfl, fun _ => rfl⟩
  next here =>
    -- an attempt begins: nothing is open yet
    have closed := accounted.unready (by rw [here]; rfl)
    exact accounted.walked (by rw [here]; rfl) (by simp [here, Position.holds])
      fun other => absurd (closed.symm.trans other) (by decide)
  next reached endpoint overridden here =>
    have closed := accounted.unready (by rw [here]; rfl)
    split
    · exact accounted.walked (by rw [here]; rfl) (by simp [here, Position.holds])
        fun other => absurd (closed.symm.trans other) (by decide)
    · exact accounted.walked (by rw [here]; rfl) (by simp [here, Position.holds]) fun _ => rfl
  next ok endpoint here =>
    have closed := accounted.unready (by rw [here]; rfl)
    obtain ⟨sessions, queryables, _⟩ := accounted
    simp only [here, closed, Position.session, Position.holds, Bool.false_eq_true, if_false]
      at sessions queryables
    split
    · -- the session is open from here on, none of its queryables is declared yet
      refine ⟨?_, fun handle => ?_, fun other => absurd (closed.symm.trans other) (by decide)⟩
      · simp only [closed, Position.session, Bool.false_eq_true, if_false]
        omega
      · simpa [closed, Position.holds, Handle.earlier] using queryables handle
    · refine ⟨?_, fun handle => ?_, fun _ => rfl⟩
      · simpa [closed, Position.session] using sessions
      · simpa [closed, Position.holds] using queryables handle
  next ok handle here =>
    have closed := accounted.unready (by rw [here]; rfl)
    obtain ⟨sessions, queryables, _⟩ := accounted
    simp only [here, closed, Position.session, Position.holds, Bool.false_eq_true, if_false]
      at sessions queryables
    split
    · -- the handle is declared, and counts as held from here on
      refine ⟨?_, fun other => ?_, fun other => absurd (closed.symm.trans other) (by decide)⟩
      · simp only [closed, (declared_holds handle handle).1, Bool.false_eq_true, if_false]
        exact sessions
      · have owned := queryables other
        simp only [closed, (declared_holds handle other).2, Bool.false_eq_true, if_false]
        by_cases same : other = handle
        · subst same
          rw [Function.update_self, if_pos rfl]
          omega
        · rw [Function.update_of_ne same, if_neg same]
          omega
    · -- the attempt gives back what it has
      refine ⟨?_, fun other => ?_, fun _ => rfl⟩
      · simp only [undeclare, closed, Position.session, Bool.false_eq_true, if_false]
        omega
      · have owned := queryables other
        simp only [undeclare, closed, Position.holds, Bool.false_eq_true, if_false]
        omega
  next here =>
    have closed := accounted.unready (by rw [here]; rfl)
    obtain ⟨sessions, queryables, _⟩ := accounted
    simp only [here, closed, Position.session, Position.holds, Bool.false_eq_true, if_false]
      at sessions queryables
    exact ⟨sessions, queryables, fun _ => rfl⟩
  next position endpoint => exact setConnectOverride_accounted accounted endpoint
  next position => exact clearConnectOverride_accounted accounted
  next => exact accounted

theorem after_accounted (connectDefault : Text) (actions : List Action) :
    Accounted (after connectDefault actions) :=
  List.foldlRecOn actions _ initial_accounted fun _ accounted action _ =>
    take_accounted accounted action

/-- Whatever the network, the router and the shell do, a session that is announced has each of its
three queryables, nothing is open without it outside of an attempt, and nothing is closed that is
not open. -/
theorem session_accounted (connectDefault : Text) (actions : List Action) :
    let state := after connectDefault actions
    state.closes ≤ state.opens ∧ (∀ handle, state.undeclares handle ≤ state.declares handle) ∧
      (state.sessionReady = true → state.opens = state.closes + 1 ∧
        ∀ handle, state.declares handle = state.undeclares handle + 1) ∧
      (state.sessionReady = false → state.position.attempting = false →
        state.opens = state.closes ∧
          ∀ handle, state.declares handle = state.undeclares handle) := by
  intro state
  have accounted : Accounted state := after_accounted connectDefault actions
  obtain ⟨sessions, queryables, single⟩ := accounted
  have idle : ∀ position : Position, position.attempting = false →
      position.session = 0 ∧ ∀ handle, position.holds handle = 0 := by
    intro position outside
    cases position <;> simp_all [Position.session, Position.holds, Position.attempting]
  refine ⟨by omega, fun handle => ?_, fun ready => ?_, fun unready outside => ?_⟩
  · have owned := queryables handle
    omega
  · obtain ⟨session, held⟩ := idle _ (single ready)
    rw [ready, session] at sessions
    refine ⟨sessions, fun handle => ?_⟩
    have owned := queryables handle
    rw [ready, held] at owned
    exact owned
  · obtain ⟨session, held⟩ := idle _ outside
    rw [unready, session] at sessions
    refine ⟨sessions, fun handle => ?_⟩
    have owned := queryables handle
    rw [unready, held] at owned
    exact owned

/-- The announced session is one with the endpoint that is configured now. -/
def Faithful (connectDefault : Text) (state : State) : Prop :=
  state.sessionReady = true → state.endpoint = getConnect connectDefault state

/-- A session is announced while its endpoint is still the configured one. -/
def Current (connectDefault : Text) (state : State) : Action → Prop
  | .go =>
      match state.position with
      | .announcing => state.endpoint = getConnect connectDefault state
      | _ => True
  | _ => True

theorem faithful_of_unready (unready : state.sessionReady = false) :
    Faithful connectDefault state :=
  fun ready => absurd (unready.symm.trans ready) (by decide)

theorem setConnectOverride_faithful (faithful : Faithful connectDefault state) (endpoint : Text) :
    Faithful connectDefault (setConnectOverride state endpoint) := by
  unfold setConnectOverride
  split
  · exact faithful
  · exact faithful_of_unready disconnectLocked_ready

theorem clearConnectOverride_faithful (faithful : Faithful connectDefault state) :
    Faithful connectDefault (clearConnectOverride state) := by
  unfold clearConnectOverride
  split
  · exact faithful
  · exact faithful_of_unready disconnectLocked_ready

theorem current_elsewhere {action : Action}
    (elsewhere : action = .go → state.position = .announcing → False) :
    Current connectDefault state action := by
  cases action with
  | go =>
      cases here : state.position with
      | announcing => exact (elsewhere rfl here).elim
      | _ => simp only [Current, here]
  | _ => trivial

/-- Only an announcement can bring in a session to an endpoint that is no longer configured. -/
theorem take_faithful_iff (accounted : Accounted state)
    (faithful : Faithful connectDefault state) (action : Action) :
    Faithful connectDefault (take connectDefault state action) ↔
      Current connectDefault state action := by
  unfold take
  split
  next running here =>
    refine iff_of_true ?_ trivial
    dsimp only
    split <;> exact faithful
  next overridden here =>
    refine iff_of_true (faithful_of_unready disconnectLocked_ready) ?_
    simp only [Current, here]
  next observation overridden here =>
    refine iff_of_true ?_ trivial
    split <;> exact faithful
  next here =>
    refine iff_of_true (faithful_of_unready disconnectLocked_ready) ?_
    simp only [Current, here]
  next here =>
    refine iff_of_true (faithful_of_unready (accounted.unready (by rw [here]; rfl))) ?_
    simp only [Current, here]
  next reached endpoint overridden here =>
    refine iff_of_true ?_ trivial
    split <;> exact faithful
  next ok endpoint here =>
    refine iff_of_true ?_ trivial
    have closed := accounted.unready (by rw [here]; rfl)
    split <;> exact faithful_of_unready closed
  next ok count here =>
    refine iff_of_true ?_ trivial
    split <;> exact faithful
  next here =>
    simp only [Current, here]
    exact ⟨fun known => known rfl, fun same _ => same⟩
  next position endpoint =>
    exact iff_of_true (setConnectOverride_faithful faithful endpoint) trivial
  next position => exact iff_of_true (clearConnectOverride_faithful faithful) trivial
  next elsewhere => exact iff_of_true faithful (current_elsewhere elsewhere)

/-- The session that is announced is throughout one to the configured endpoint exactly when
every announcement finds the endpoint of its attempt still configured: a change of the
endpoint between the start of an attempt and its announcement takes down nothing. -/
theorem session_endpoint_iff (connectDefault : Text) (actions : List Action) :
    (∀ front, front <+: actions → Faithful connectDefault (after connectDefault front)) ↔
      Obeys (take connectDefault) (Current connectDefault) initial actions :=
  good_iff_obeys (Faithful connectDefault) actions (faithful_of_unready rfl) initial_accounted
    (fun _ action accounted => take_accounted accounted action)
    fun _ action accounted faithful => take_faithful_iff accounted faithful action

/-- What a network and a router that work answer the thread. -/
def welcome (observation : Observation) (state : State) : Action :=
  match state.position with
  | .top => .health true
  | .collecting _ => .network observation
  | .probing _ _ => .probe true
  | .opening _ => .openSession true
  | .declaring _ => .declare true
  | .tearing _ | .dropping | .configuring | .announcing => .go

def State.calm (state : State) : Bool :=
  state.sessionReady &&
    match state.position with
    | .top | .collecting _ => true
    | _ => false

def Position.distance : Position → Nat
  | .dropping => 10
  | .top | .tearing _ => 9
  | .collecting _ => 8
  | .configuring => 7
  | .probing _ _ => 6
  | .opening _ => 5
  | .declaring .cmd => 4
  | .declaring .query => 3
  | .declaring .update => 2
  | .announcing => 1

def State.distance (state : State) : Nat := if state.calm then 0 else state.position.distance

section Welcome

variable {observation : Observation}

/-- A network that is ready for every endpoint the thread may look at. -/
def Reachable (connectDefault : Text) (observation : Observation) (state : State) : Prop :=
  ∀ overridden,
    isReady (collectStatus (pointee connectDefault state overridden) observation) = true

theorem welcome_override :
    (take connectDefault state (welcome observation state)).connectOverride =
      state.connectOverride := by
  unfold welcome take
  cases here : state.position <;> dsimp only <;> repeat' split
  all_goals first | rfl | exact disconnectLocked_override

theorem welcome_distance (accounted : Accounted state)
    (reachable : Reachable connectDefault observation state) :
    (take connectDefault state (welcome observation state)).distance ≤ state.distance - 1 := by
  unfold welcome take
  cases here : state.position with
  | top =>
      cases ready : state.sessionReady <;>
        simp [State.distance, State.calm, Position.distance, here, ready]
  | tearing overridden =>
      simp [State.distance, State.calm, Position.distance, here]
  | collecting overridden =>
      cases ready : state.sessionReady <;>
        simp [State.distance, State.calm, Position.distance, here, ready, reachable overridden]
  | dropping => simp [State.distance, State.calm, Position.distance, here]
  | configuring =>
      have closed := accounted.unready (by rw [here]; rfl)
      simp [State.distance, State.calm, Position.distance, here, closed]
  | probing endpoint overridden =>
      have closed := accounted.unready (by rw [here]; rfl)
      simp [State.distance, State.calm, Position.distance, here, closed]
  | opening endpoint =>
      have closed := accounted.unready (by rw [here]; rfl)
      simp [State.distance, State.calm, Position.distance, here, closed]
  | declaring handle =>
      have closed := accounted.unready (by rw [here]; rfl)
      cases handle <;>
        simp [State.distance, State.calm, Position.distance, Handle.declared, here, closed]
  | announcing => simp [State.distance, State.calm, Position.distance, here]

theorem welcomed (accounted : Accounted state)
    (reachable : Reachable connectDefault observation state) (count : Nat)
    (enough : state.distance ≤ count) :
    ((fun state => take connectDefault state (welcome observation state))^[count]
      state).sessionReady = true := by
  induction count generalizing state with
  | zero =>
      have calm : state.calm = true := by
        by_contra restless
        have far : 0 < state.distance := by
          rw [State.distance, if_neg restless]
          cases state.position with
          | declaring handle => cases handle <;> simp [Position.distance]
          | _ => simp [Position.distance]
        omega
      rw [State.calm, Bool.and_eq_true] at calm
      exact calm.1
  | succ rest ih =>
      have nearer := welcome_distance accounted reachable
      rw [Function.iterate_succ_apply]
      refine ih (take_accounted accounted _) (fun overridden => ?_) (by omega)
      rw [pointee, welcome_override]
      exact reachable overridden

theorem distance_bounded (state : State) : state.distance ≤ 10 := by
  unfold State.distance
  split
  · exact Nat.zero_le _
  · unfold Position.distance
    split <;> omega

end Welcome

end Steps

/-- From wherever the thread stands after any run, a network and a router that work bring the
session up within ten answers, and it stays up as long as they do. -/
theorem session_recovers (connectDefault : Text) (observation : Observation)
    (actions : List Action)
    (reachable : Reachable connectDefault observation (after connectDefault actions))
    (count : Nat) (enough : 10 ≤ count) :
    ((fun state => take connectDefault state (welcome observation state))^[count]
      (after connectDefault actions)).sessionReady = true :=
  welcomed (after_accounted connectDefault actions) reachable count
    (Nat.le_trans (distance_bounded _) enough)

/-- A port with an address. -/
def wired : Observation :=
  .reported ⟨true, true, 1, lit "eth0", lit "192.168.2.7"⟩

/-- The router refuses the second queryable of the first attempt. -/
theorem refused_recovers :
    ((fun state => take (lit "tcp/192.168.2.90:7447") state (welcome wired state))^[10]
      (after (lit "tcp/192.168.2.90:7447") [.health true, .network wired, .go, .probe true,
        .openSession true, .declare true, .declare false])).sessionReady = true :=
  session_recovers (lit "tcp/192.168.2.90:7447") wired
    [.health true, .network wired, .go, .probe true, .openSession true, .declare true,
      .declare false] (by intro overridden; revert overridden; decide) 10 (by decide)

end NeuroLink.ConnectMonitor
