import NeuroLink.PyValue
import NeuroLink.Recurrence
import NeuroLink.Vitality
import Mathlib.Data.List.Nodup

/-!
The cycles of the event daemon. A cycle takes a batch of events, adds the ticks that are due to
it, and submits it to the workflow if it holds something to wake for.
-/

namespace NeuroLink.DaemonCycles

open PyValue Recurrence Vitality

structure AutonomousDaemonPolicy where
  maintenanceIntervalCycles : Int
  timeTickPriority : Int
  maintenanceTickPriority : Int
  wakePriorityThreshold : Int
  timeTickPeriodMs : Int

/-- `AutonomousDaemonPolicy()`. -/
def AutonomousDaemonPolicy.standard : AutonomousDaemonPolicy := ⟨3, 10, 25, 50, 1000⟩

inductive CycleKind where
  | paused
  | mixed
  | externalBatch
  | maintenanceTick
  | timeTick

inductive WakeDecision where
  | paused
  | affectiveWake
  | maintenanceOnly
  | sleep
  deriving DecidableEq

structure AutonomousCyclePlan where
  cycleIndex : Nat
  cycleKind : CycleKind
  wakeDecision : WakeDecision
  reasons : List String
  rawEventCount : Nat
  plannedEvents : List Dict
  syntheticEventCount : Nat
  shouldRunWorkflow : Bool

def timeTick : String := "time.tick"

def maintenanceTick : String := "core.maintenance.tick"

/-- `INTERNAL_AUTONOMY_TOPICS`. -/
def internalAutonomyTopics : List String := [timeTick, maintenanceTick]

def suffix (cycleIndex : Nat) : String :=
  String.ofList ((Nat.toDigits 10 cycleIndex).leftpad 4 '0')

def buildTimeTickEvent (cycleIndex : Nat) (timestampWall : String) (periodMs priority : Int) :
    Dict :=
  [("event_id", .str ("evt-autonomy-time-tick-" ++ suffix cycleIndex)),
    ("source_kind", .str "clock"),
    ("source_node", .str "core-daemon"),
    ("event_type", .str timeTick),
    ("semantic_topic", .str timeTick),
    ("timestamp_wall", .str timestampWall),
    ("priority", .int priority),
    ("dedupe_key", .str ("autonomy-time-tick-" ++ suffix cycleIndex)),
    ("policy_tags", .list [.str "clock", .str "autonomy"]),
    ("payload", .dict [
      ("period_ms", .int periodMs),
      ("cycle_index", .int cycleIndex),
      ("scheduler", .str "autonomy_planner")])]

def buildMaintenanceTickEvent (cycleIndex : Nat) (timestampWall : String) (priority : Int)
    (reason : String) (vitalityState : String) : Dict :=
  [("event_id", .str ("evt-autonomy-maintenance-tick-" ++ suffix cycleIndex)),
    ("source_kind", .str "core"),
    ("source_node", .str "core-daemon"),
    ("event_type", .str maintenanceTick),
    ("semantic_topic", .str maintenanceTick),
    ("timestamp_wall", .str timestampWall),
    ("priority", .int priority),
    ("dedupe_key", .str ("autonomy-maintenance-tick-" ++ suffix cycleIndex)),
    ("policy_tags", .list [.str "maintenance", .str "autonomy"]),
    ("payload", .dict [
      ("cycle_index", .int cycleIndex),
      ("reason", .str reason),
      ("vitality_state", .str vitalityState),
      ("scheduler", .str "autonomy_planner")])]

/-- The state if it is one that calls for maintenance. -/
def lowVitality (vitality : Option VitalityState) : Option Condition :=
  (vitality.map (·.state)).filter fun state => state = .concerned ∨ state = .critical

/-- Why maintenance is due: what the tick says of it, and what the plan says. -/
def maintenanceReason (policy : AutonomousDaemonPolicy) (vitality : Option VitalityState)
    (lastMaintenanceCycle : Option Nat) (cycleIndex : Nat) :
    Except String (Option (String × String)) :=
  match lowVitality vitality with
  | some state => .ok (some ("vitality_" ++ state.name, "low_vitality_maintenance_due"))
  | none =>
      -- without an earlier maintenance the index is divided by the interval
      if lastMaintenanceCycle = none ∧ policy.maintenanceIntervalCycles = 0 then
        .error "ZeroDivisionError"
      else if Due policy.maintenanceIntervalCycles lastMaintenanceCycle cycleIndex then
        .ok (some ("maintenance_interval_elapsed", "maintenance_interval_elapsed"))
      else .ok none

section Cycles

variable (python : Conversions)

/-- `str(event.get("semantic_topic") or event.get("event_type") or default)`. -/
def topicOr (default : String) (event : Dict) : String :=
  (firstTrue [get event "semantic_topic", get event "event_type"] (.str default)).text python.repr

def topic (event : Dict) : String := topicOr python "unknown" event

def hasTopic (name : String) (events : List Dict) : Bool :=
  events.any fun event => topic python event == name

def external (event : Dict) : Bool := !internalAutonomyTopics.contains (topic python event)

def withTimeTick (policy : AutonomousDaemonPolicy) (cycleIndex : Nat) (timestampWall : String)
    (events : List Dict) : List Dict :=
  if hasTopic python timeTick events then events else
    events ++ [buildTimeTickEvent cycleIndex timestampWall policy.timeTickPeriodMs
      policy.timeTickPriority]

/-- The events with a maintenance tick if one is due, unless they have one. -/
def withMaintenanceTick (policy : AutonomousDaemonPolicy) (vitality : Option VitalityState)
    (cycleIndex : Nat) (timestampWall : String) (due : Option (String × String))
    (events : List Dict) : List Dict :=
  match due with
  | none => events
  | some (reason, _) =>
      if hasTopic python maintenanceTick events then events else
        events ++ [buildMaintenanceTickEvent cycleIndex timestampWall
          policy.maintenanceTickPriority reason ((vitality.map (·.state.name)).getD "unknown")]

def wake (policy : AutonomousDaemonPolicy) (plannedEvents : List Dict) (priorities : List Int) :
    WakeDecision × String :=
  if plannedEvents.any (external python) then (.affectiveWake, "external_event_present")
  else if hasTopic python maintenanceTick plannedEvents then
    (.maintenanceOnly, "maintenance_tick_present")
  else if policy.wakePriorityThreshold ≤ priorities.max?.getD 0 then
    (.affectiveWake, "priority_threshold_reached")
  else (.sleep, "quiet_cycle")

def cycleKind (plannedEvents : List Dict) : CycleKind :=
  match plannedEvents.any (external python), hasTopic python maintenanceTick plannedEvents with
  | true, true => .mixed
  | true, false => .externalBatch
  | false, true => .maintenanceTick
  | false, false => .timeTick

/-- `plan_autonomous_cycle`. -/
def planAutonomousCycle (policy : AutonomousDaemonPolicy) (vitality : Option VitalityState)
    (operatorPaused : Bool) (lastMaintenanceCycle : Option Nat) (cycleIndex : Nat)
    (timestampWall : String) (rawEvents : List Dict) : Except String AutonomousCyclePlan := do
  if operatorPaused then
    return {
      cycleIndex
      cycleKind := .paused
      wakeDecision := .paused
      reasons := ["operator_paused"]
      rawEventCount := rawEvents.length
      plannedEvents := rawEvents
      syntheticEventCount := 0
      shouldRunWorkflow := false }
  else
    let due ← maintenanceReason policy vitality lastMaintenanceCycle cycleIndex
    let plannedEvents := withMaintenanceTick python policy vitality cycleIndex timestampWall due
      (withTimeTick python policy cycleIndex timestampWall rawEvents)
    let priorities ← plannedEvents.mapM fun event => python.intOrZero (get event "priority")
    let woken := wake python policy plannedEvents priorities
    return {
      cycleIndex
      cycleKind := cycleKind python plannedEvents
      wakeDecision := woken.1
      reasons := (if hasTopic python timeTick rawEvents then [] else ["time_tick_scheduled"]) ++
        (due.map Prod.snd).toList ++ [woken.2]
      rawEventCount := rawEvents.length
      plannedEvents
      syntheticEventCount := plannedEvents.length - rawEvents.length
      shouldRunWorkflow := woken.1 = .affectiveWake ∨ woken.1 = .maintenanceOnly }

structure Daemon where
  autonomyEnabled : Bool
  policy : AutonomousDaemonPolicy
  vitality : Option VitalityState
  operatorPaused : Bool

/-- A batch, the time at which it is taken, and what the workflow raises if it is run on it. -/
structure Batch where
  events : List Dict
  now : String
  outcome : Except String Unit

/-- A cycle that came to its end. -/
structure Cycle where
  index : Nat
  provided : List Dict
  planned : List Dict
  submitted : Bool

/-- The events the cycle added. -/
def Cycle.synthetic (cycle : Cycle) : List Dict := cycle.planned.drop cycle.provided.length

def Cycle.maintained (cycle : Cycle) : Bool :=
  cycle.planned.any fun event => topicOr python "" event == maintenanceTick

def cycleTimestamp (batch : Batch) : String :=
  match (batch.events.getLast?.map fun event => get event "timestamp_wall").filter
      (·.truthy) with
  | some time => time.text python.repr
  | none => batch.now

variable (daemon : Daemon)

/-- One turn of the loop of `run_event_daemon_replay`. -/
def runCycle (lastMaintenanceCycle : Option Nat) (index : Nat) (batch : Batch) :
    Except String Cycle := do
  if daemon.autonomyEnabled then
    let plan ← planAutonomousCycle python daemon.policy daemon.vitality daemon.operatorPaused
      lastMaintenanceCycle index (cycleTimestamp python batch) batch.events
    if plan.shouldRunWorkflow then batch.outcome
    return ⟨index, batch.events, plan.plannedEvents, plan.shouldRunWorkflow⟩
  else
    batch.outcome
    return ⟨index, batch.events, batch.events, true⟩

/-- The cycles that came to their end, and what was raised in the one after them. -/
def runCycles (lastMaintenanceCycle : Option Nat) (index : Nat) :
    List Batch → List Cycle × Option String
  | [] => ([], none)
  | batch :: rest =>
      match runCycle python daemon lastMaintenanceCycle index batch with
      | .error raised => ([], some raised)
      | .ok cycle =>
          let later := runCycles (renewed lastMaintenanceCycle index
            (daemon.autonomyEnabled && cycle.maintained python)) (index + 1) rest
          (cycle :: later.1, later.2)

/-- `run_event_daemon_replay`, from its first cycle. -/
def runEventDaemonReplay (batches : List Batch) : List Cycle × Option String :=
  runCycles python daemon none 1 batches

variable {python : Conversions} {daemon : Daemon}

theorem topic_timeTick (cycleIndex : Nat) (timestampWall : String) (periodMs priority : Int) :
    topic python (buildTimeTickEvent cycleIndex timestampWall periodMs priority) = timeTick :=
  rfl

theorem topic_maintenanceTick (cycleIndex : Nat) (timestampWall : String) (priority : Int)
    (reason vitalityState : String) :
    topic python
      (buildMaintenanceTickEvent cycleIndex timestampWall priority reason vitalityState) =
      maintenanceTick :=
  rfl

theorem maintained_iff_hasTopic (cycle : Cycle) :
    cycle.maintained python = hasTopic python maintenanceTick cycle.planned := by
  have same (event : Dict) :
      (topicOr python "" event == maintenanceTick) =
        (topicOr python "unknown" event == maintenanceTick) := by
    unfold topicOr firstTrue
    simp only [List.foldr_cons, List.foldr_nil, Value.orElse]
    split
    · rfl
    · split
      · rfl
      · rfl
  rw [Cycle.maintained, hasTopic]
  exact congrArg (cycle.planned.any ·) (funext same)

def tickKeys (cycleIndex : Nat) : List Value :=
  [.str ("autonomy-time-tick-" ++ suffix cycleIndex),
    .str ("autonomy-maintenance-tick-" ++ suffix cycleIndex)]

structure Ticks (python : Conversions) (cycleIndex : Nat) (events : List Dict) : Prop where
  keyed : (events.map (get · "dedupe_key")).Sublist (tickKeys cycleIndex)
  inward : ∀ event ∈ events, external python event = false

section Plan

variable {policy : AutonomousDaemonPolicy} {vitality : Option VitalityState} {paused : Bool}
  {last : Option Nat} {cycleIndex : Nat} {timestampWall : String} {rawEvents : List Dict}
  {plan : AutonomousCyclePlan}

structure Awake (python : Conversions) (policy : AutonomousDaemonPolicy)
    (vitality : Option VitalityState) (last : Option Nat) (cycleIndex : Nat)
    (timestampWall : String) (rawEvents : List Dict) (plan : AutonomousCyclePlan)
    (due : Option (String × String)) (priorities : List Int) : Prop where
  reason : maintenanceReason policy vitality last cycleIndex = .ok due
  events : plan.plannedEvents =
    withMaintenanceTick python policy vitality cycleIndex timestampWall due
      (withTimeTick python policy cycleIndex timestampWall rawEvents)
  runs : plan.shouldRunWorkflow =
    decide ((wake python policy plan.plannedEvents priorities).1 = .affectiveWake ∨
      (wake python policy plan.plannedEvents priorities).1 = .maintenanceOnly)

theorem plan_paused
    (planned : planAutonomousCycle python policy vitality true last cycleIndex timestampWall
      rawEvents = .ok plan) :
    plan.plannedEvents = rawEvents ∧ plan.shouldRunWorkflow = false := by
  cases planned
  exact ⟨rfl, rfl⟩

theorem plan_awake
    (planned : planAutonomousCycle python policy vitality false last cycleIndex timestampWall
      rawEvents = .ok plan) :
    ∃ due priorities,
      Awake python policy vitality last cycleIndex timestampWall rawEvents plan due priorities := by
  rw [planAutonomousCycle, if_neg Bool.false_ne_true] at planned
  cases reason : maintenanceReason policy vitality last cycleIndex with
  | error raised =>
      rw [reason] at planned
      cases planned
  | ok due =>
      rw [reason] at planned
      cases read : (withMaintenanceTick python policy vitality cycleIndex timestampWall due
          (withTimeTick python policy cycleIndex timestampWall rawEvents)).mapM
          fun event => python.intOrZero (get event "priority") with
      | error raised =>
          simp only [bind, Except.bind, read] at planned
          cases planned
      | ok priorities =>
          simp only [bind, Except.bind, read] at planned
          cases planned
          exact ⟨due, priorities, reason, rfl, rfl⟩

theorem withTimeTick_ticks (python : Conversions) (policy : AutonomousDaemonPolicy)
    (cycleIndex : Nat) (timestampWall : String) (events : List Dict) :
    ∃ ticks, withTimeTick python policy cycleIndex timestampWall events = events ++ ticks ∧
      (ticks.map (get · "dedupe_key")).Sublist
        [.str ("autonomy-time-tick-" ++ suffix cycleIndex)] ∧
      ∀ event ∈ ticks, topic python event = timeTick := by
  rw [withTimeTick]
  split
  · exact ⟨[], (List.append_nil events).symm, List.nil_sublist _, by simp⟩
  · refine ⟨_, rfl, List.Sublist.refl _, ?_⟩
    intro event member
    rw [List.mem_singleton.mp member]
    exact topic_timeTick _ _ _ _

theorem withMaintenanceTick_ticks (python : Conversions) (policy : AutonomousDaemonPolicy)
    (vitality : Option VitalityState) (cycleIndex : Nat) (timestampWall : String)
    (due : Option (String × String)) (events : List Dict) :
    ∃ ticks, withMaintenanceTick python policy vitality cycleIndex timestampWall due events =
        events ++ ticks ∧
      (ticks.map (get · "dedupe_key")).Sublist
        [.str ("autonomy-maintenance-tick-" ++ suffix cycleIndex)] ∧
      (∀ event ∈ ticks, topic python event = maintenanceTick) ∧
      hasTopic python maintenanceTick (events ++ ticks) =
        (due.isSome || hasTopic python maintenanceTick events) := by
  cases due with
  | none => exact ⟨[], (List.append_nil events).symm, List.nil_sublist _, by simp, by simp⟩
  | some reason =>
      obtain ⟨text, shown⟩ := reason
      rw [withMaintenanceTick]
      cases there : hasTopic python maintenanceTick events with
      | true =>
          refine ⟨[], (List.append_nil events).symm, List.nil_sublist _, by simp, ?_⟩
          rw [List.append_nil, there]
          rfl
      | false =>
          refine ⟨_, rfl, List.Sublist.refl _, ?_, ?_⟩
          · intro event member
            rw [List.mem_singleton.mp member]
            exact topic_maintenanceTick _ _ _ _ _
          · rw [hasTopic, List.any_append, List.any_cons, topic_maintenanceTick]
            simp

theorem planned_ticks
    (planned : planAutonomousCycle python policy vitality paused last cycleIndex timestampWall
      rawEvents = .ok plan) :
    ∃ ticks, plan.plannedEvents = rawEvents ++ ticks ∧ Ticks python cycleIndex ticks := by
  cases paused with
  | true => exact ⟨[], by rw [(plan_paused planned).1, List.append_nil],
      List.nil_sublist _, by simp⟩
  | false =>
      obtain ⟨due, priorities, awake⟩ := plan_awake planned
      obtain ⟨timed, extended, timeKeys, clock⟩ :=
        withTimeTick_ticks python policy cycleIndex timestampWall rawEvents
      obtain ⟨kept, completed, keptKeys, core, _⟩ :=
        withMaintenanceTick_ticks python policy vitality cycleIndex timestampWall due
        (rawEvents ++ timed)
      refine ⟨timed ++ kept, ?_, ?_, ?_⟩
      · rw [awake.events, extended, completed, List.append_assoc]
      · rw [List.map_append]
        exact timeKeys.append keptKeys
      · intro event member
        rw [external]
        rcases List.mem_append.mp member with inClock | inCore
        · rw [clock event inClock]
          rfl
        · rw [core event inCore]
          rfl

/-- Whether the batch, or the vitality, asks for maintenance whatever the interval. -/
def asked (python : Conversions) (vitality : Option VitalityState) (events : List Dict) : Bool :=
  (lowVitality vitality).isSome || hasTopic python maintenanceTick events

theorem reason_isSome {due : Option (String × String)}
    (reason : maintenanceReason policy vitality last cycleIndex = .ok due) :
    due.isSome = ((lowVitality vitality).isSome ||
      decide (Due policy.maintenanceIntervalCycles last cycleIndex)) := by
  rw [maintenanceReason] at reason
  cases low : lowVitality vitality with
  | some state =>
      rw [low] at reason
      cases reason
      rfl
  | none =>
      rw [low] at reason
      dsimp only at reason
      split at reason
      · cases reason
      · split at reason
        · next due =>
            cases reason
            simp [due]
        · next idle =>
            cases reason
            simp [idle]

/-- A plan holds a maintenance event exactly if one is asked for or due. -/
theorem planned_maintained
    (planned : planAutonomousCycle python policy vitality false last cycleIndex timestampWall
      rawEvents = .ok plan) :
    hasTopic python maintenanceTick plan.plannedEvents =
      done policy.maintenanceIntervalCycles last cycleIndex (asked python vitality rawEvents) := by
  obtain ⟨due, priorities, awake⟩ := plan_awake planned
  obtain ⟨timed, extended, _, clock⟩ :=
    withTimeTick_ticks python policy cycleIndex timestampWall rawEvents
  obtain ⟨kept, completed, _, _, holds⟩ :=
    withMaintenanceTick_ticks python policy vitality cycleIndex timestampWall due
        (rawEvents ++ timed)
  have untimed : hasTopic python maintenanceTick timed = false := by
    rw [hasTopic, List.any_eq_false]
    intro event member
    rw [clock event member]
    decide
  have before : hasTopic python maintenanceTick (rawEvents ++ timed) =
      hasTopic python maintenanceTick rawEvents := by
    rw [hasTopic, List.any_append]
    change (hasTopic python maintenanceTick rawEvents ||
      hasTopic python maintenanceTick timed) = _
    rw [untimed, Bool.or_false]
  rw [awake.events, extended, completed, holds, before, reason_isSome awake.reason, done, asked]
  cases (lowVitality vitality).isSome <;> simp [Bool.or_comm]

theorem planned_external
    (planned : planAutonomousCycle python policy vitality false last cycleIndex timestampWall
      rawEvents = .ok plan)
    (resting : plan.shouldRunWorkflow = false) :
    plan.plannedEvents.any (external python) = false := by
  obtain ⟨due, priorities, awake⟩ := plan_awake planned
  by_contra outside
  have found : plan.plannedEvents.any (external python) = true := by simpa using outside
  have runs := awake.runs
  rw [resting, wake, if_pos found] at runs
  simp at runs

end Plan

/-- What a cycle that came to its end did. -/
theorem runCycle_cases {last : Option Nat} {index : Nat} {batch : Batch} {cycle : Cycle}
    (ran : runCycle python daemon last index batch = .ok cycle) :
    cycle.index = index ∧ cycle.provided = batch.events ∧
      ((daemon.autonomyEnabled = false ∧ cycle.planned = batch.events ∧
          cycle.submitted = true) ∨
        daemon.autonomyEnabled = true ∧ ∃ plan,
          planAutonomousCycle python daemon.policy daemon.vitality daemon.operatorPaused last
            index (cycleTimestamp python batch) batch.events = .ok plan ∧
          cycle.planned = plan.plannedEvents ∧ cycle.submitted = plan.shouldRunWorkflow) := by
  rw [runCycle] at ran
  cases enabled : daemon.autonomyEnabled with
  | false =>
      rw [if_neg (by simp [enabled])] at ran
      cases outcome : batch.outcome with
      | error raised =>
          rw [outcome] at ran
          cases ran
      | ok _ =>
          rw [outcome] at ran
          cases ran
          exact ⟨rfl, rfl, .inl ⟨rfl, rfl, rfl⟩⟩
  | true =>
      rw [if_pos enabled] at ran
      cases planned : planAutonomousCycle python daemon.policy daemon.vitality
          daemon.operatorPaused last index (cycleTimestamp python batch) batch.events with
      | error raised =>
          rw [planned] at ran
          cases ran
      | ok plan =>
          rw [planned] at ran
          -- the workflow has run or was not called for; what the cycle says is the plan
          have finished : cycle =
              ⟨index, batch.events, plan.plannedEvents, plan.shouldRunWorkflow⟩ := by
            cases runs : plan.shouldRunWorkflow with
            | false =>
                simp only [bind, Except.bind, runs, Bool.false_eq_true, if_false] at ran
                cases ran
                rfl
            | true =>
                cases outcome : batch.outcome with
                | error raised =>
                    simp only [bind, Except.bind, runs, if_true, outcome] at ran
                    cases ran
                | ok _ =>
                    simp only [bind, Except.bind, runs, if_true, outcome] at ran
                    cases ran
                    rfl
          rw [finished]
          exact ⟨rfl, rfl, .inr ⟨rfl, plan, rfl, rfl, rfl⟩⟩

theorem runCycles_provided (python : Conversions) (daemon : Daemon) (last : Option Nat)
    (index : Nat) (batches : List Batch) :
    (runCycles python daemon last index batches).1.map (·.provided) =
      (batches.take (runCycles python daemon last index batches).1.length).map (·.events) := by
  induction batches generalizing last index with
  | nil => rfl
  | cons batch rest ih =>
      rw [runCycles]
      cases ran : runCycle python daemon last index batch with
      | error raised => rfl
      | ok cycle =>
          rw [List.map_cons, List.length_cons, List.take_succ_cons, List.map_cons, ih]
          rw [(runCycle_cases ran).2.1]

theorem runCycles_index (python : Conversions) (daemon : Daemon) (last : Option Nat)
    (index : Nat) (batches : List Batch) :
    (runCycles python daemon last index batches).1.map (·.index) =
      List.range' index (runCycles python daemon last index batches).1.length := by
  induction batches generalizing last index with
  | nil => rfl
  | cons batch rest ih =>
      rw [runCycles]
      cases ran : runCycle python daemon last index batch with
      | error raised => rfl
      | ok cycle =>
          rw [List.map_cons, List.length_cons, List.range'_succ, ih, (runCycle_cases ran).1]

section Maintenance

/-- The cycles with maintenance are those in which a task with the interval of the policy is
done that is asked for by the batches. -/
theorem runCycles_marks (python : Conversions) (enabled : daemon.autonomyEnabled = true)
    (running : daemon.operatorPaused = false) (last : Option Nat) (index : Nat)
    (batches : List Batch) :
    let cycles := (runCycles python daemon last index batches).1
    cycles.map (·.maintained python) =
      marks daemon.policy.maintenanceIntervalCycles last index
        (cycles.map fun cycle => asked python daemon.vitality cycle.provided) := by
  induction batches generalizing last index with
  | nil => rfl
  | cons batch rest ih =>
      dsimp only
      rw [runCycles]
      cases ran : runCycle python daemon last index batch with
      | error raised => rfl
      | ok cycle =>
          obtain ⟨_, given, alone | ⟨_, plan, planned, events, _⟩⟩ := runCycle_cases ran
          · exact absurd alone.1 (by simp [enabled])
          · rw [running] at planned
            have now : cycle.maintained python =
                done daemon.policy.maintenanceIntervalCycles last index
                  (asked python daemon.vitality cycle.provided) := by
              rw [maintained_iff_hasTopic, events, given]
              exact planned_maintained planned
            rw [List.map_cons, List.map_cons, marks, ← now, enabled, Bool.true_and]
            exact congrArg (cycle.maintained python :: ·) (ih _ _)

def standardDaemon : Daemon := ⟨true, .standard, none, false⟩

def stateChanged : Dict :=
  [("semantic_topic", .str "unit.state.changed"), ("priority", .int 60)]

/-- Four batches of which the second brings an event of a unit. -/
def fourBatches : List Batch :=
  [⟨[], "t1", .ok ()⟩, ⟨[stateChanged], "t2", .ok ()⟩, ⟨[], "t3", .ok ()⟩, ⟨[], "t4", .ok ()⟩]

/-- Whatever the batches hold, and also in a run that ends by raising, any cycles in a row as
many as the interval have one with maintenance. -/
theorem maintenance_within (enabled : daemon.autonomyEnabled = true)
    (running : daemon.operatorPaused = false)
    (positive : 1 ≤ daemon.policy.maintenanceIntervalCycles) (batches : List Batch)
    (start window : Nat) (wide : daemon.policy.maintenanceIntervalCycles ≤ window)
    (inside : start + window ≤ (runEventDaemonReplay python daemon batches).1.length) :
    ∃ cycle ∈ ((runEventDaemonReplay python daemon batches).1.drop start).take window,
      cycle.maintained python = true := by
  have marked := runCycles_marks python enabled running none 1 batches
  rw [runEventDaemonReplay] at inside ⊢
  obtain ⟨offset, within, found⟩ := marks_window positive (past_none 1)
    ((runCycles python daemon none 1 batches).1.map fun cycle =>
      asked python daemon.vitality cycle.provided) start window wide (by simpa using inside)
  rw [← marked, List.getElem?_map, Option.map_eq_some_iff] at found
  obtain ⟨cycle, there, holds⟩ := found
  refine ⟨cycle, List.mem_iff_getElem?.mpr ⟨offset, ?_⟩, holds⟩
  rw [List.getElem?_take_of_lt within, List.getElem?_drop]
  exact there

theorem fourBatches_within :
    ∃ cycle ∈ ((runEventDaemonReplay plainConversions standardDaemon fourBatches).1.drop 1).take 3,
      cycle.maintained plainConversions = true :=
  maintenance_within rfl rfl (by decide) fourBatches 1 3 (by decide) (by decide)

/-- With a healthy agent, and no maintenance events in the batches, maintenance takes place in
the cycles that the interval divides and in no others. -/
theorem maintenance_multiples (enabled : daemon.autonomyEnabled = true)
    (running : daemon.operatorPaused = false)
    (positive : 1 ≤ daemon.policy.maintenanceIntervalCycles)
    (healthy : lowVitality daemon.vitality = none) (batches : List Batch)
    (unasked : ∀ batch ∈ batches, hasTopic python maintenanceTick batch.events = false)
    (cycle : Cycle) (member : cycle ∈ (runEventDaemonReplay python daemon batches).1) :
    cycle.maintained python = true ↔
      daemon.policy.maintenanceIntervalCycles ∣ (cycle.index : Int) := by
  have marked := runCycles_marks python enabled running none 1 batches
  have provided := runCycles_provided python daemon none 1 batches
  have indexed := runCycles_index python daemon none 1 batches
  rw [runEventDaemonReplay] at member
  generalize (runCycles python daemon none 1 batches).1 = cycles at *
  have never : (cycles.map fun cycle => asked python daemon.vitality cycle.provided) =
      List.replicate cycles.length false := by
    rw [List.eq_replicate_iff]
    refine ⟨List.length_map _, ?_⟩
    intro ask asking
    obtain ⟨other, inCycles, rfl⟩ := List.mem_map.mp asking
    have held : other.provided ∈ (batches.take cycles.length).map (·.events) := by
      rw [← provided]
      exact List.mem_map_of_mem inCycles
    obtain ⟨batch, inBatches, same⟩ := List.mem_map.mp held
    rw [asked, healthy, ← same, unasked batch (List.mem_of_mem_take inBatches)]
    rfl
  obtain ⟨offset, inside, found⟩ := List.mem_iff_getElem.mp member
  have shown : (cycles.map (·.maintained python))[offset]? = some (cycle.maintained python) := by
    rw [List.getElem?_map, List.getElem?_eq_getElem inside, found]
    rfl
  have numbered : (cycles.map (·.index))[offset]? = some cycle.index := by
    rw [List.getElem?_map, List.getElem?_eq_getElem inside, found]
    rfl
  rw [indexed, List.getElem?_range' inside, Nat.one_mul] at numbered
  rw [marked, never, marks_unasked (by exact ⟨Nat.le_refl 1, positive⟩) _ _ inside] at shown
  rw [← Option.some.inj shown, ← Option.some.inj numbered]
  exact decide_eq_true_iff

theorem fourBatches_multiples :
    (runEventDaemonReplay plainConversions standardDaemon fourBatches).1.length = 4 ∧
      ∀ cycle ∈ (runEventDaemonReplay plainConversions standardDaemon fourBatches).1,
        cycle.maintained plainConversions = true ↔ (3 : Int) ∣ cycle.index :=
  ⟨rfl, maintenance_multiples rfl rfl (by decide) rfl fourBatches (by decide)⟩

end Maintenance

theorem ticks_none {index : Nat} {ticks : List Dict} (added : Ticks python index ticks) :
    ticks.filter (external python) = [] := by
  rw [List.filter_eq_nil_iff]
  intro event member
  rw [added.inward event member]
  exact Bool.false_ne_true

theorem runCycle_external (running : daemon.operatorPaused = false) {last : Option Nat}
    {index : Nat} {batch : Batch} {cycle : Cycle}
    (ran : runCycle python daemon last index batch = .ok cycle) :
    (if cycle.submitted then cycle.planned else []).filter (external python) =
      cycle.provided.filter (external python) := by
  obtain ⟨_, given, ⟨_, whole, sent⟩ | ⟨_, plan, planned, events, sent⟩⟩ := runCycle_cases ran
  · rw [sent, whole, given]
    rfl
  · obtain ⟨ticks, extended, added⟩ := planned_ticks planned
    have kept : cycle.planned.filter (external python) =
        cycle.provided.filter (external python) := by
      rw [events, extended, List.filter_append, ticks_none added, List.append_nil, given]
    cases submitted : cycle.submitted with
    | true => exact kept
    | false =>
        rw [running] at planned
        have quiet := planned_external planned (sent.symm.trans submitted)
        rw [← kept, events]
        exact (List.filter_eq_nil_iff.mpr (by simpa using quiet)).symm

/-- Of a daemon that is not paused, the external events of all batches taken reach the workflow
once each and in their order, and no others do. -/
theorem external_submitted (running : daemon.operatorPaused = false) (batches : List Batch) :
    let cycles := (runEventDaemonReplay python daemon batches).1
    ((cycles.filter (·.submitted)).flatMap (·.planned)).filter (external python) =
      ((batches.take cycles.length).flatMap (·.events)).filter (external python) := by
  have each (last : Option Nat) (index : Nat) :
      let cycles := (runCycles python daemon last index batches).1
      ((cycles.filter (·.submitted)).flatMap (·.planned)).filter (external python) =
        (cycles.flatMap (·.provided)).filter (external python) := by
    induction batches generalizing last index with
    | nil => rfl
    | cons batch rest ih =>
        dsimp only
        rw [runCycles]
        cases ran : runCycle python daemon last index batch with
        | error raised => rfl
        | ok cycle =>
            have here := runCycle_external running ran
            dsimp only
            rw [List.flatMap_cons, List.filter_append, ← ih, ← here, List.filter_cons]
            cases cycle.submitted with
            | true =>
                simp only [if_true]
                rw [List.flatMap_cons, List.filter_append]
            | false => rfl
  rw [runEventDaemonReplay]
  have provided := runCycles_provided python daemon none 1 batches
  dsimp only
  rw [each none 1, List.flatMap_def, provided, ← List.flatMap_def]

theorem fourBatches_submitted :
    let cycles := (runEventDaemonReplay plainConversions standardDaemon fourBatches).1
    ((cycles.filter (·.submitted)).flatMap (·.planned)).filter (external plainConversions) =
      ((fourBatches.take cycles.length).flatMap (·.events)).filter (external plainConversions) :=
  external_submitted rfl fourBatches

theorem suffix_injective : Function.Injective suffix := by
  intro first second same
  have digits := String.ofList_injective same
  have value (index : Nat) :
      Nat.ofDigitChars 10 ((Nat.toDigits 10 index).leftpad 4 '0') 0 = index := by
    rw [List.leftpad, Nat.ofDigitChars_append, Nat.ofDigitChars_replicate_zero, Nat.mul_zero,
      Nat.ofDigitChars_ten_toDigits]
  rw [← value first, digits, value second]

theorem timeKey_ne_maintenanceKey (first second : String) :
    Value.str ("autonomy-time-tick-" ++ first) ≠
      Value.str ("autonomy-maintenance-tick-" ++ second) := by
  intro same
  injection same with same
  have letters := congrArg String.toList same
  simp at letters

theorem tickKeys_nodup (index : Nat) : (tickKeys index).Nodup := by
  rw [tickKeys, List.nodup_cons, List.mem_singleton]
  exact ⟨timeKey_ne_maintenanceKey _ _, List.nodup_singleton _⟩

theorem tickKeys_disjoint {first second : Nat} (apart : first ≠ second) :
    (tickKeys first).Disjoint (tickKeys second) := by
  intro key inFirst inSecond
  rw [tickKeys, List.mem_pair] at inFirst inSecond
  rcases inFirst with rfl | rfl
  · rcases inSecond with same | same
    · injection same with same
      exact apart (suffix_injective (String.append_right_inj _ |>.mp same))
    · exact timeKey_ne_maintenanceKey _ _ same
  · rcases inSecond with same | same
    · exact timeKey_ne_maintenanceKey _ _ same.symm
    · injection same with same
      exact apart (suffix_injective (String.append_right_inj _ |>.mp same))

theorem runCycles_keys (last : Option Nat) (index : Nat) (batches : List Batch) :
    let cycles := (runCycles python daemon last index batches).1
    ((cycles.flatMap Cycle.synthetic).map (get · "dedupe_key")).Sublist
      ((List.range' index cycles.length).flatMap tickKeys) := by
  induction batches generalizing last index with
  | nil => exact List.Sublist.refl _
  | cons batch rest ih =>
      dsimp only
      rw [runCycles]
      cases ran : runCycle python daemon last index batch with
      | error raised => exact List.Sublist.refl _
      | ok cycle =>
          have here : (cycle.synthetic.map (get · "dedupe_key")).Sublist (tickKeys index) := by
            obtain ⟨_, given, ⟨_, whole, _⟩ | ⟨_, plan, planned, events, _⟩⟩ :=
              runCycle_cases ran
            · rw [Cycle.synthetic, whole, given, List.drop_length]
              exact List.nil_sublist _
            · obtain ⟨ticks, extended, added⟩ := planned_ticks planned
              rw [Cycle.synthetic, events, extended, given, List.drop_left]
              exact added.keyed
          dsimp only
          rw [List.flatMap_cons, List.map_append, List.length_cons, List.range'_succ,
            List.flatMap_cons]
          exact here.append (ih _ _)

/-- No two events that the cycles of a run add have the same key, so the router takes none of
them for a repetition of another. -/
theorem ticks_unrepeated (batches : List Batch) :
    (((runEventDaemonReplay python daemon batches).1.flatMap Cycle.synthetic).map
      (get · "dedupe_key")).Nodup := by
  refine (runCycles_keys none 1 batches).nodup ?_
  rw [List.nodup_flatMap]
  refine ⟨fun index _ => tickKeys_nodup index, ?_⟩
  have unique : (List.range' 1 (runCycles python daemon none 1 batches).1.length).Nodup :=
    List.nodup_range'
  exact unique.imp fun apart => tickKeys_disjoint apart

end Cycles

end NeuroLink.DaemonCycles
