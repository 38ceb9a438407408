import NeuroLink.DeployWorkflow

/-!
Runs of the deployments, whatever the commands and tools return or raise. An activation
command is issued only behind the approval and the steps before it. A lease that was
acquired is given back exactly when every later call returns something the workflow can
read; and a deployment reports success only where it counted every command as passed.
-/

namespace NeuroLink.DeployRuns

open PyValue ToolManifest ActivationHealth RaisingProgram DeployWorkflow

abbrev Event := Done Call Call.Reply

section Runs

variable (repr : Value → String) (loads : String → Loaded) (plan : DeployPlan)

def Succeeded (stage : Stage) (event : Event) : Prop :=
  ∃ command : CommandResult, event = ⟨.run (plan.argv stage), .ok command⟩ ∧
    stepFailure repr loads stage.expectedStatus command = .ok ""

/-- The lease acquire step succeeded. -/
def Acquired (log : List Event) : Prop :=
  ∃ event ∈ log, Succeeded repr loads plan .leaseAcquire event

def Prepared (before : List Event) : Prop :=
  ∃ preflight acquire prepare verify, before = [preflight, acquire, prepare, verify] ∧
    Succeeded repr loads plan .preflight preflight ∧
    Succeeded repr loads plan .leaseAcquire acquire ∧
    Succeeded repr loads plan .deployPrepare prepare ∧
    Succeeded repr loads plan .deployVerify verify

def deployStages : List Stage := [.deployPrepare, .deployVerify, .deployActivate]

/-- One release is issued, behind the last command that deploys. -/
def ReleasedOnce (log : List Event) : Prop :=
  ∃ before release after, log = before ++ release :: after ∧
    release.op = .run (plan.argv .leaseRelease) ∧
    (∀ event ∈ before ++ after, event.op ≠ .run (plan.argv .leaseRelease)) ∧
    ∀ event ∈ after, ∀ stage ∈ deployStages, event.op ≠ .run (plan.argv stage)

/-- The lease is given back and the workflow returns. -/
def GivenBack (result : Except String Dict) (log : List Event) : Prop :=
  (∃ payload, result = .ok payload) ∧ ReleasedOnce plan log

/-- A call that returns something the workflow can read: no command prints what makes
`json.loads` raise anything but a `ValueError`, the health guard works and has an observation,
and the leases are those of a reply. -/
def Settles : Event → Prop
  | ⟨.run _, .error _⟩ => False
  | ⟨.run _, .ok command⟩ => (loadedStdout loads command.stdout).escapes = false
  | ⟨.execute _ _, .error _⟩ => False
  | ⟨.execute toolName _, .ok result⟩ =>
      (toolName = "system_activation_health_guard" →
        result.status = "ok" ∧ (healthObservation result.payload).isDict = true) ∧
      (toolName = "system_query_leases" → (observedLeaseRows result).isSome = true)
  | ⟨.describeTool _, reply⟩ => reply.isOk = true

instance decidableSettles : DecidablePred (Settles loads)
  | ⟨.run _, .error _⟩ => inferInstanceAs (Decidable False)
  | ⟨.run _, .ok command⟩ =>
      inferInstanceAs (Decidable ((loadedStdout loads command.stdout).escapes = false))
  | ⟨.execute _ _, .error _⟩ => inferInstanceAs (Decidable False)
  | ⟨.execute toolName _, .ok result⟩ => inferInstanceAs (Decidable
      ((toolName = "system_activation_health_guard" →
        result.status = "ok" ∧ (healthObservation result.payload).isDict = true) ∧
      (toolName = "system_query_leases" → (observedLeaseRows result).isSome = true)))
  | ⟨.describeTool _, reply⟩ => inferInstanceAs (Decidable (reply.isOk = true))

/-- The failure of a command within a workflow, where a release may report some statuses. -/
def commandFailure (allowed : List String) (stage : Stage) (command : CommandResult) :
    Except String String :=
  (jsonStep repr loads plan stage (if stage = .leaseRelease then allowed else []) command).map
    JsonStep.failure

/-- The command of an event, if it is one that returned, counted as passed. -/
def Passed (allowed : List String) (event : Event) : Prop :=
  ∀ stage command, event = ⟨.run (plan.argv stage), .ok command⟩ →
    commandFailure repr loads plan allowed stage command = .ok ""

/-- What a run ends with: a lease that was acquired is given back exactly when all calls
settle, and a payload that says ok stands on passed commands only. -/
def Ends (allowed : List String) (result : Except String Dict) (log : List Event) : Prop :=
  (Acquired repr loads plan log →
    (GivenBack plan result log ↔ ∀ event ∈ log, Settles loads event)) ∧
    ∀ payload, result = .ok payload → get payload "ok" = .bool true →
      ∀ event ∈ log, Passed repr loads plan allowed event

/-- The lease is held: it was acquired and not released, and nothing has gone wrong. -/
structure Held (log : List Event) : Prop where
  acquired : Acquired repr loads plan log
  unreleased : ∀ event ∈ log, event.op ≠ .run (plan.argv .leaseRelease)
  settled : ∀ event ∈ log, Settles loads event

end Runs

section Steps

variable {repr : Value → String} {loads : String → Loaded} {plan : DeployPlan}
  {allowed : List String} {log : List Event} {good : List Event → Call → Prop}

theorem Held.next (held : Held repr loads plan log) {event : Event} (settles : Settles loads event)
    (other : event.op ≠ .run (plan.argv .leaseRelease)) :
    Held repr loads plan (log ++ [event]) := by
  obtain ⟨acquire, member, succeeded⟩ := held.acquired
  refine ⟨⟨acquire, List.mem_append_left _ member, succeeded⟩, ?_, ?_⟩
  · intro done later
    rcases List.mem_append.mp later with earlier | last
    · exact held.unreleased done earlier
    · rw [List.mem_singleton.mp last]
      exact other
  · intro done later
    rcases List.mem_append.mp later with earlier | last
    · exact held.settled done earlier
    · rw [List.mem_singleton.mp last]
      exact settles

/-- Where a call has not settled, a run that raises gives nothing back. -/
theorem ends_raised {raised : String} (unsettled : ∃ event ∈ log, ¬ Settles loads event) :
    Ends repr loads plan allowed (.error raised) log := by
  obtain ⟨event, member, bad⟩ := unsettled
  refine ⟨fun _ => ⟨fun given => ?_, fun all => absurd (all event member) bad⟩, ?_⟩
  · obtain ⟨⟨payload, same⟩, _⟩ := given
    cases same
  · intro payload same
    cases same

theorem ends_last {event : Event} (bad : ¬ Settles loads event) (raised : String) :
    Ends repr loads plan allowed (.error raised) (log ++ [event]) :=
  ends_raised ⟨event, List.mem_append_right _ List.mem_cons_self, bad⟩

theorem raised_unsettled (argv : List String) (raised : String) :
    ¬ Settles loads ⟨.run argv, .error raised⟩ := not_false

theorem tool_unsettled (toolName : String) (args : Dict) (raised : String) :
    ¬ Settles loads ⟨.execute toolName args, .error raised⟩ := not_false

/-- A command is read by a step exactly if nothing but a `ValueError` is raised. -/
theorem jsonStep_cases (stage : Stage) (statuses : List String) (command : CommandResult) :
    (∃ raised, jsonStep repr loads plan stage statuses command = .error raised ∧
      ¬ Settles loads ⟨.run (plan.argv stage), .ok command⟩) ∨
    ∃ step, jsonStep repr loads plan stage statuses command = .ok step ∧
      Settles loads ⟨.run (plan.argv stage), .ok command⟩ := by
  have settles : Settles loads ⟨.run (plan.argv stage), .ok command⟩ ↔
      (loadedStdout loads command.stdout).escapes = false := Iff.rfl
  rw [settles]
  unfold jsonStep parseCommandJsonResult
  cases loadedStdout loads command.stdout with
  | raised raised => exact .inl ⟨raised, rfl, nofun⟩
  | invalid message something => exact .inr ⟨_, rfl, rfl⟩
  | undecodable => exact .inr ⟨_, rfl, rfl⟩
  | value value => cases value <;> exact .inr ⟨_, rfl, rfl⟩

theorem passing_next (passing : ∀ event ∈ log, Passed repr loads plan allowed event)
    {event : Event} (passed : Passed repr loads plan allowed event) :
    ∀ done ∈ log ++ [event], Passed repr loads plan allowed done := by
  intro done member
  rcases List.mem_append.mp member with earlier | last
  · exact passing done earlier
  · rw [List.mem_singleton.mp last]
    exact passed

theorem run_inj {argv other : List String} {command result : CommandResult}
    (same : (⟨.run argv, .ok command⟩ : Event) = ⟨.run other, .ok result⟩) :
    argv = other ∧ command = result := by
  cases same
  exact ⟨rfl, rfl⟩

theorem passed_command {stage : Stage} {command : CommandResult}
    (fine : commandFailure repr loads plan allowed stage command = .ok "") :
    Passed repr loads plan allowed ⟨.run (plan.argv stage), .ok command⟩ := by
  intro other result same
  obtain ⟨argv, rfl⟩ := run_inj same
  obtain rfl := argv_injective plan argv
  exact fine

theorem passed_tool {toolName : String} {args : Dict} {reply : Except String ToolResult} :
    Passed repr loads plan allowed ⟨.execute toolName args, reply⟩ := by
  intro stage command same
  cases same

theorem runJsonStep_logs {Result : Type}
    {post : Except String Result → List Event → Prop} {stage : Stage} {statuses : List String}
    {next : JsonStep → WorkflowM Result} (fine : good log (.run (plan.argv stage)))
    (raises : ∀ raised reply, ¬ Settles loads ⟨.run (plan.argv stage), reply⟩ →
      post (.error raised) (log ++ [⟨.run (plan.argv stage), reply⟩]))
    (returns : ∀ command step, jsonStep repr loads plan stage statuses command = .ok step →
      Settles loads ⟨.run (plan.argv stage), .ok command⟩ →
      Logs good post (next step) (log ++ [⟨.run (plan.argv stage), .ok command⟩])) :
    Logs good post (runJsonStep repr loads plan stage statuses >>= next) log := by
  refine Logs.bind (Logs.perform fine (fun raised => raises raised _ (raised_unsettled _ _))
    fun command => ?_)
  rcases @jsonStep_cases repr loads plan stage statuses command with
    ⟨raised, read, bad⟩ | ⟨step, read, settles⟩
  · rw [read]
    exact raises raised _ bad
  · rw [read]
    exact returns command step read settles

theorem execute_logs {Result : Type} {post : Except String Result → List Event → Prop}
    {toolName : String} {args : Dict} {next : ToolResult → WorkflowM Result}
    (fine : good log (.execute toolName args))
    (raises : ∀ raised, post (.error raised) (log ++ [⟨.execute toolName args, .error raised⟩]))
    (returns : ∀ result : ToolResult,
      Logs good post (next result) (log ++ [⟨.execute toolName args, .ok result⟩])) :
    Logs good post (ask (.execute toolName args) >>= next) log := by
  refine ⟨fine, fun reply => ?_⟩
  cases reply with
  | error raised => exact raises raised
  | ok result => exact returns result

theorem jsonStep_failure {stage : Stage} {command : CommandResult} {step : JsonStep}
    (read : jsonStep repr loads plan stage [] command = .ok step) :
    stepFailure repr loads stage.expectedStatus command = .ok step.failure := by
  unfold jsonStep at read
  unfold stepFailure
  cases parsed : parseCommandJsonResult loads command with
  | error raised =>
      rw [parsed] at read
      cases read
  | ok found =>
      rw [parsed] at read
      obtain rfl := Except.ok.inj read
      simp [Except.map, settledFailure]

theorem commandFailure_plain {stage : Stage} {command : CommandResult} {step : JsonStep}
    (other : stage ≠ .leaseRelease)
    (read : jsonStep repr loads plan stage [] command = .ok step) :
    commandFailure repr loads plan allowed stage command = .ok step.failure := by
  rw [commandFailure, if_neg other, read]
  rfl

theorem succeeded_of_passed {stage : Stage} {command : CommandResult}
    (other : stage ≠ .leaseRelease)
    (passed : commandFailure repr loads plan allowed stage command = .ok "") :
    Succeeded repr loads plan stage ⟨.run (plan.argv stage), .ok command⟩ := by
  rcases @jsonStep_cases repr loads plan stage [] command with
    ⟨raised, read, _⟩ | ⟨step, read, _⟩
  · rw [commandFailure, if_neg other, read] at passed
    cases passed
  · rw [commandFailure_plain other read] at passed
    exact ⟨command, rfl, by rw [jsonStep_failure read, passed]⟩

end Steps

/-! The part of a deployment that holds the lease. It raises only where a call has not
settled, and hands on a lease that is still held; without a failure all commands passed. -/

section Stages

variable {repr : Value → String} {loads : String → Loaded} {plan : DeployPlan}
  {allowed : List String} {log : List Event} {good : List Event → Call → Prop}
  {post : Except String Progress → List Event → Prop} {execution : Dict}

def Passing (repr : Value → String) (loads : String → Loaded) (plan : DeployPlan)
    (allowed : List String) (progress : Progress) (log : List Event) : Prop :=
  progress.failureStatus = "" → ∀ event ∈ log, Passed repr loads plan allowed event

structure Parts (repr : Value → String) (loads : String → Loaded) (plan : DeployPlan)
    (allowed : List String) (post : Except String Progress → List Event → Prop) : Prop where
  raises : ∀ raised log, (∃ event ∈ log, ¬ Settles loads event) → post (.error raised) log
  returns : ∀ progress log, Held repr loads plan log →
    Passing repr loads plan allowed progress log → post (.ok progress) log

theorem Parts.last (parts : Parts repr loads plan allowed post) {event : Event}
    (bad : ¬ Settles loads event) (raised : String) : post (.error raised) (log ++ [event]) :=
  parts.raises raised _ ⟨event, List.mem_append_right _ List.mem_cons_self, bad⟩

theorem Parts.failed (parts : Parts repr loads plan allowed post) {progress : Progress}
    (held : Held repr loads plan log) (failed : progress.failureStatus ≠ "") :
    post (.ok progress) log :=
  parts.returns progress log held fun none => absurd none failed

/-- A step that deploys fails the deployment, or has passed and goes on. -/
theorem deployStep_logs (parts : Parts repr loads plan allowed post) {stage : Stage}
    {key : String} {next : Dict → WorkflowM Progress} (other : stage ≠ .leaseRelease)
    (held : Held repr loads plan log) (fine : good log (.run (plan.argv stage)))
    (goes : ∀ execution command, commandFailure repr loads plan allowed stage command = .ok "" →
      Held repr loads plan (log ++ [⟨.run (plan.argv stage), .ok command⟩]) →
      Logs good post (next execution) (log ++ [⟨.run (plan.argv stage), .ok command⟩])) :
    Logs good post (deployStep repr loads plan stage key execution next) log := by
  refine runJsonStep_logs fine (fun raised _ bad => parts.last bad raised)
    fun command step read settles => ?_
  have later : Held repr loads plan (log ++ [⟨.run (plan.argv stage), .ok command⟩]) := by
    refine held.next settles fun same => other ?_
    exact argv_injective plan (by injection same)
  refine Logs.ite (fun failed => .pure (parts.failed later failed)) fun passed =>
    goes _ command ?_ later
  rw [commandFailure_plain other read, not_not.mp passed]

theorem observedStep_passed {step : JsonStep} (passed : (observedStep repr plan step).2 = "") :
    step.failure = "" := by
  unfold observedStep at passed
  cases there : step.result with
  | none =>
      rw [there] at passed
      exact passed
  | some payload =>
      rw [there] at passed
      by_contra failed
      dsimp only at passed
      rw [if_neg fun both => failed both.1] at passed
      exact failed passed

theorem observeApps_logs (parts : Parts repr loads plan allowed post)
    (held : Held repr loads plan log)
    (passing : ∀ event ∈ log, Passed repr loads plan allowed event)
    (fine : good log (.run (plan.argv .queryApps))) :
    Logs good post (observeApps repr loads plan execution) log := by
  refine runJsonStep_logs fine (fun raised _ bad => parts.last bad raised)
    fun command step read settles => ?_
  have later : Held repr loads plan (log ++ [⟨.run (plan.argv .queryApps), .ok command⟩]) := by
    refine held.next settles fun same => ?_
    have argv : Stage.queryApps = .leaseRelease := argv_injective plan (by injection same)
    cases argv
  refine Logs.ite (fun failed => .pure (parts.failed later failed)) fun passed => ?_
  refine .pure (parts.returns _ _ later fun _ => passing_next passing (passed_command ?_))
  rw [commandFailure_plain (by decide) read, observedStep_passed (not_not.mp passed)]

/-- A candidate for a rollback is summed up exactly when the leases can be read. -/
theorem buildRecoveryCandidateSummary_isSome (plan : DeployPlan)
    (shows : ∀ value, repr value ≠ "")
    (activationHealth : Dict) (leases : ToolResult) (failure : String) :
    (buildRecoveryCandidateSummary repr plan activationHealth leases failure).isSome =
      (observedLeaseRows leases).isSome := by
  have named : (firstTrue [get activationHealth "app_id", .str plan.appId] (.str "")).text repr
      ≠ "" := by
    refine text_ne_empty shows ?_
    simp [plan.named]
  have resource : ¬ "update/app/" ++ (firstTrue [get activationHealth "app_id",
      .str plan.appId] (.str "")).text repr ++ "/rollback" = "" := by
    intro empty
    have length := congrArg String.length empty
    rw [String.length_append, String.length_append] at length
    exact absurd length (by simp)
  unfold buildRecoveryCandidateSummary matchingLeaseIdsForResource
  dsimp only
  rw [if_neg named, if_neg resource]
  cases observedLeaseRows leases with
  | none => rfl
  | some rows => rfl

/-- The health guard has failed the activation, with an observation or without one. -/
theorem proposeRollback_logs (parts : Parts repr loads plan allowed post)
    (shows : ∀ value, repr value ≠ "") {observation : Option Dict} {failure : String}
    (failed : failure ≠ "") (fine : ∀ args, good log (.execute "system_query_leases" args))
    (later : ∀ event, good (log ++ [event]) (.describeTool "system_rollback_app"))
    (unsettled : observation = none → ∃ event ∈ log, ¬ Settles loads event)
    (held : observation.isSome → Held repr loads plan log) :
    Logs good post (proposeRollback repr plan execution observation failure) log := by
  refine execute_logs (fine _) (fun raised => parts.last (tool_unsettled _ _ _) raised)
    fun leases => ?_
  refine Logs.orRaise (fun none => ?_) fun activationHealth some => ?_
  · obtain ⟨event, member, bad⟩ := unsettled none
    exact parts.raises _ _ ⟨event, List.mem_append_left _ member, bad⟩
  have holding := held (by rw [some]; rfl)
  refine Logs.orRaise (fun none => parts.last ?_ _) fun summary built => ?_
  · have unread := buildRecoveryCandidateSummary_isSome plan shows activationHealth leases
      failure
    rw [none] at unread
    intro settles
    rw [settles.2 rfl] at unread
    cases unread
  have read : Held repr loads plan (log ++ [⟨.execute "system_query_leases"
      (appArguments plan.appId ++
        [("reason", .str "activation_rollback_candidate_lease_observation")]), .ok leases⟩]) := by
    refine holding.next ⟨fun same => absurd same (by decide), fun _ => ?_⟩
      fun same => by cases same
    rw [← buildRecoveryCandidateSummary_isSome plan shows activationHealth leases failure, built]
    rfl
  refine Logs.ite (fun _ => ?_) fun _ => .pure (parts.failed read failed)
  · refine ⟨later _, fun reply => ?_⟩
    cases reply with
    | error raised => exact parts.last (fun settles => by cases settles) raised
    | ok contract => exact .pure (parts.failed (read.next rfl fun same => by cases same) failed)

/-- The health guard finds the application healthy, or the deployment fails. -/
theorem guardHealth_logs (parts : Parts repr loads plan allowed post)
    (shows : ∀ value, repr value ≠ "") (held : Held repr loads plan log)
    (passing : ∀ event ∈ log, Passed repr loads plan allowed event)
    (fine : ∀ log call, call ≠ .run (plan.argv .deployActivate) → good log call) :
    Logs good post (guardHealth repr loads plan execution) log := by
  have tool : ∀ log toolName args, good log (.execute toolName args) :=
    fun log toolName args => fine log _ fun same => by cases same
  refine execute_logs (tool _ _ _) (fun raised => parts.last (tool_unsettled _ _ _) raised)
    fun health => ?_
  set event : Event :=
    ⟨.execute "system_activation_health_guard" (appArguments plan.appId), .ok health⟩ with guarded
  -- whatever the guard finds wrong, the answer is the proposal of a rollback
  have proposes : ∀ execution observation failure, failure ≠ "" →
      (observation = none → ¬ Settles loads event) →
      (observation.isSome → Held repr loads plan (log ++ [event])) →
      Logs good post (proposeRollback repr plan execution observation failure)
        (log ++ [event]) := by
    intro execution observation failure failed unsettled holding
    exact proposeRollback_logs parts shows failed (fun args => tool _ _ args)
      (fun _ => fine _ _ fun same => by cases same)
      (fun none => ⟨event, by simp, unsettled none⟩) holding
  by_cases worked : health.status = "ok"
  · rw [if_neg (not_not.mpr worked)]
    cases seen : healthObservation health.payload with
    | dict observed =>
        have later : Held repr loads plan (log ++ [event]) := by
          refine held.next ⟨fun _ => ⟨worked, ?_⟩, fun same => absurd same (by decide)⟩
            fun same => by cases same
          rw [seen]
          rfl
        refine Logs.bind (Logs.pure ?_)
        refine Logs.ite (fun failed => ?_) fun _ => ?_
        · exact proposes _ _ _ failed (fun none => by cases none) fun _ => later
        · exact observeApps_logs parts later (passing_next passing passed_tool)
            (fine _ _ fun same => by
              have stages : Stage.queryApps = .deployActivate :=
                argv_injective plan (by injection same)
              cases stages)
    | _ =>
        refine parts.last (fun settles => ?_) _
        have observed := (settles.1 rfl).2
        rw [seen] at observed
        cases observed
  · rw [if_pos worked]
    have unsettled : ¬ Settles loads event := fun settles => worked (settles.1 rfl).1
    refine Logs.bind (Logs.pure ?_)
    dsimp only [Onward]
    have failed : healthFailure repr health none ≠ "" := by
      rw [healthFailure]
      exact text_ne_empty shows (by simp)
    rw [if_pos failed]
    exact proposes _ _ _ failed (fun _ => unsettled) fun some => by cases some

theorem activateStages_logs (parts : Parts repr loads plan allowed post)
    (shows : ∀ value, repr value ≠ "") (held : Held repr loads plan log)
    (passing : ∀ event ∈ log, Passed repr loads plan allowed event)
    (fine : ∀ log call, call ≠ .run (plan.argv .deployActivate) → good log call)
    (ready : ∀ prepare verify, Succeeded repr loads plan .deployPrepare prepare →
      Succeeded repr loads plan .deployVerify verify →
      good (log ++ [prepare] ++ [verify]) (.run (plan.argv .deployActivate))) :
    Logs good post (activateStages repr loads plan execution) log := by
  have other : ∀ stage, stage ≠ .deployActivate →
      (.run (plan.argv stage) : Call) ≠ .run (plan.argv .deployActivate) :=
    fun stage apart same => apart (argv_injective plan (by injection same))
  refine deployStep_logs parts (by decide) held (fine _ _ (other _ (by decide)))
    fun _ prepare prepared held => ?_
  have first := passing_next passing (passed_command prepared)
  refine deployStep_logs parts (by decide) held (fine _ _ (other _ (by decide)))
    fun _ verify verified held => ?_
  have second := passing_next first (passed_command verified)
  refine deployStep_logs parts (by decide) held ?_ fun _ activate activated held => ?_
  · exact ready _ _ (succeeded_of_passed (by decide) prepared)
      (succeeded_of_passed (by decide) verified)
  · exact guardHealth_logs parts shows held
      (passing_next second (passed_command activated)) fine

end Stages

section Cleanup

variable {repr : Value → String} {loads : String → Loaded} {plan : DeployPlan}
  {allowed : List String} {log : List Event} {good : List Event → Call → Prop}

theorem orFailed_status {progress : Progress} {step failure : String} :
    (progress.orFailed step failure).failureStatus = "" ↔
      progress.failureStatus = "" ∧ failure = "" := by
  unfold Progress.orFailed
  split
  · next both => simp [both.1]
  · next neither =>
    rw [not_and_or, not_not] at neither
    rcases neither with none | before
    · simp [none]
    · simp [before]

theorem get_failurePayload (command failureClass : String) (decision : Dict)
    (progress : Progress) :
    get (failurePayload plan command failureClass decision progress) "ok" = .bool false := by
  unfold failurePayload
  dsimp only
  cases progress.rollbackApproval <;> cases progress.recoveryCandidateSummary
  case none.none => rfl
  case none.some => rw [get_insert_ne (by decide)]; rfl
  case some.none => rw [get_insert_ne (by decide)]; rfl
  case some.some => rw [get_insert_ne (by decide), get_insert_ne (by decide)]; rfl

theorem get_unapprovedPayload (status : String) (decision execution : Dict) :
    get (unapprovedPayload plan status decision execution) "ok" = .bool false := rfl

theorem finalPayload_ok {command failureClass : String} {decision : Dict} {progress : Progress}
    (ok : get (finalPayload plan command failureClass decision progress) "ok" = .bool true) :
    progress.failureStatus = "" := by
  by_contra failed
  rw [finalPayload, if_pos failed, get_failurePayload] at ok
  cases ok

theorem run_apart {left right : Stage} (apart : left ≠ right) :
    (.run (plan.argv left) : Call) ≠ .run (plan.argv right) :=
  fun same => apart (argv_injective plan (by injection same))

/-- The cleanup of a held lease releases it once, and what follows deploys nothing. -/
theorem cleanUp_logs (held : Held repr loads plan log) {progress : Progress}
    (passing : Passing repr loads plan allowed progress log)
    (fine : ∀ log call, call ≠ .run (plan.argv .deployActivate) → good log call)
    (command failureClass : String) (decision : Dict) :
    Logs good (Ends repr loads plan allowed)
      (cleanUp repr loads plan allowed progress >>= fun progress =>
        pure (finalPayload plan command failureClass decision progress)) log := by
  refine Logs.bind (runJsonStep_logs (fine _ _ (run_apart (by decide)))
    (fun raised _ bad => ends_last bad raised) fun release freed read released => ?_)
  refine runJsonStep_logs (fine _ _ (run_apart (by decide)))
    (fun raised _ bad => ends_last bad raised) fun leases listing shown queried => ?_
  -- the release is the last event but one, and neither of the two deploys
  refine ⟨fun _ => ⟨fun _ event member => ?_, fun _ => ⟨⟨_, rfl⟩, ?_⟩⟩, ?_⟩
  · rcases List.mem_append.mp member with before | last
    · rcases List.mem_append.mp before with earlier | middle
      · exact held.settled event earlier
      · rw [List.mem_singleton.mp middle]
        exact released
    · rw [List.mem_singleton.mp last]
      exact queried
  · refine ⟨log, _, [_], List.append_assoc .., rfl, ?_, ?_⟩
    · intro event member
      rcases List.mem_append.mp member with earlier | last
      · exact held.unreleased event earlier
      · rw [List.mem_singleton.mp last]
        exact run_apart (by decide)
    · intro event last stage deploys
      rw [List.mem_singleton.mp last]
      refine run_apart ?_
      rintro rfl
      exact absurd deploys (by decide)
  · intro payload same ok
    obtain rfl := Except.ok.inj same
    obtain ⟨⟨none, fine⟩, listed⟩ :=
      (orFailed_status.mp (finalPayload_ok ok)).imp orFailed_status.mp id
    refine passing_next (passing_next (passing none) (passed_command ?_)) (passed_command ?_)
    · rw [commandFailure, if_pos rfl, read]
      exact congrArg Except.ok fine
    · rw [commandFailure_plain (by decide) shown]
      split at listed
      · exact absurd listed (by decide)
      · exact congrArg Except.ok listed

end Cleanup

section Deployments

variable {repr : Value → String} {loads : String → Loaded} {plan : DeployPlan}
  {allowed : List String} {log : List Event} {good : List Event → Call → Prop}

theorem ends_unsuccessful {payload : Dict}
    (refused : ∀ event ∈ log, ¬ Succeeded repr loads plan .leaseAcquire event)
    (failed : get payload "ok" ≠ .bool true) :
    Ends repr loads plan allowed (.ok payload) log := by
  constructor
  · rintro ⟨event, member, succeeded⟩
    exact absurd succeeded (refused event member)
  · intro other same ok
    rw [← Except.ok.inj same] at ok
    exact absurd ok failed

theorem ends_raised_before {raised : String}
    (refused : ∀ event ∈ log, ¬ Succeeded repr loads plan .leaseAcquire event) :
    Ends repr loads plan allowed (.error raised) log := by
  constructor
  · rintro ⟨event, member, succeeded⟩
    exact absurd succeeded (refused event member)
  · intro payload same
    cases same

theorem not_succeeded_unsettled {stage : Stage} {reply : Except String CommandResult}
    (bad : ¬ Settles loads ⟨.run (plan.argv stage), reply⟩) :
    ¬ Succeeded repr loads plan stage ⟨.run (plan.argv stage), reply⟩ := by
  rintro ⟨command, same, passed⟩
  cases same
  rcases @jsonStep_cases repr loads plan stage [] command with
    ⟨raised, read, _⟩ | ⟨step, read, settles⟩
  · have unread : parseCommandJsonResult loads command = .error raised := by
      unfold jsonStep at read
      cases parsed : parseCommandJsonResult loads command with
      | error other =>
          rw [parsed] at read
          exact congrArg Except.error (Except.error.inj read)
      | ok found =>
          rw [parsed] at read
          cases read
    rw [stepFailure, unread] at passed
    cases passed
  · exact bad settles

theorem not_succeeded_failed {stage : Stage} {command : CommandResult}
    (failed : stepFailure repr loads stage.expectedStatus command ≠ .ok "") :
    ¬ Succeeded repr loads plan stage ⟨.run (plan.argv stage), .ok command⟩ := by
  rintro ⟨other, same, passed⟩
  obtain ⟨_, rfl⟩ := run_inj same
  exact failed passed

theorem not_acquire {stage : Stage} (other : stage ≠ .leaseAcquire)
    (reply : Except String CommandResult) :
    ¬ Succeeded repr loads plan .leaseAcquire ⟨.run (plan.argv stage), reply⟩ := by
  rintro ⟨command, same, _⟩
  have op := congrArg Done.op same
  exact other (argv_injective plan (by injection op))

theorem unsuccessful_two {first second : Event}
    (one : ¬ Succeeded repr loads plan .leaseAcquire first)
    (two : ¬ Succeeded repr loads plan .leaseAcquire second) :
    ∀ event ∈ [first] ++ [second], ¬ Succeeded repr loads plan .leaseAcquire event := by
  intro event member
  simp only [List.cons_append, List.nil_append, List.mem_cons, List.not_mem_nil,
    or_false] at member
  rcases member with rfl | rfl
  · exact one
  · exact two

theorem parts_of_cleanup (fine : ∀ log call, call ≠ .run (plan.argv .deployActivate) →
      good log call) (command failureClass : String) (decision : Dict) :
    Parts repr loads plan allowed (Onward good (Ends repr loads plan allowed) fun progress =>
      cleanUp repr loads plan allowed progress >>= fun progress =>
        pure (finalPayload plan command failureClass decision progress)) where
  raises _ _ unsettled := ends_raised unsettled
  returns _ _ held passing := cleanUp_logs held passing fine command failureClass decision

theorem failedPayload_ok (command failureClass : String) (decision execution : Dict)
    (step failure : String) : get (failurePayload plan command failureClass decision
      (.failed execution step failure)) "ok" ≠ .bool true := by
  rw [get_failurePayload]
  intro same
  cases same

theorem failedFinal_ok (command failureClass : String) (decision execution : Dict)
    (step : String) {failure : String} (failed : failure ≠ "") :
    get (finalPayload plan command failureClass decision (.failed execution step failure)) "ok" ≠
      .bool true :=
  fun ok => failed (finalPayload_ok ok)

/-- The frame both deployments share: what is done under the lease starts with a lease that
is held, and hands it to the cleanup. -/
theorem deployUnderLease_logs {command failureClass : String} {decision execution : Dict}
    {deploy : Dict → WorkflowM Progress}
    (fine : ∀ log call, call ≠ .run (plan.argv .deployActivate) → good log call)
    (goes : ∀ post execution preflight acquire, Parts repr loads plan allowed post →
      Succeeded repr loads plan .preflight preflight →
      Succeeded repr loads plan .leaseAcquire acquire →
      Held repr loads plan ([preflight] ++ [acquire]) →
      (∀ event ∈ [preflight] ++ [acquire], Passed repr loads plan allowed event) →
      Logs good post (deploy execution) ([preflight] ++ [acquire])) :
    Logs good (Ends repr loads plan allowed)
      (deployUnderLease repr loads plan command failureClass decision allowed execution deploy)
      [] := by
  refine runJsonStep_logs (fine _ _ (run_apart (by decide))) (fun raised reply _ => ?_)
    fun preflight checking looked settled => ?_
  · exact ends_raised_before fun event member => by
      rw [List.mem_singleton.mp member]
      exact not_acquire (by decide) reply
  -- an exit in front of the lease leaves nothing to release
  have first : ¬ Succeeded repr loads plan .leaseAcquire
      ⟨.run (plan.argv .preflight), .ok preflight⟩ := not_acquire (by decide) _
  refine Logs.ite (fun _ => ?_) fun fit => ?_
  · exact Logs.pure (ends_unsuccessful (fun event member => by
      rw [List.mem_singleton.mp member]
      exact first) (failedPayload_ok _ _ _ _ _ _))
  · have ready := not_not.mp fit
    refine runJsonStep_logs (fine _ _ (run_apart (by decide))) (fun raised reply bad => ?_)
      fun acquire taking read granting => ?_
    · exact ends_raised_before (unsuccessful_two first (not_succeeded_unsettled bad))
    refine Logs.ite (fun failed => ?_) fun taken => ?_
    · have refused : stepFailure repr loads Stage.leaseAcquire.expectedStatus acquire ≠ .ok "" := by
        rw [jsonStep_failure read]
        exact fun same => failed (Except.ok.inj same)
      exact .pure (ends_unsuccessful (unsuccessful_two first (not_succeeded_failed refused))
        (failedFinal_ok _ _ _ _ _ failed))
    · have checked : commandFailure repr loads plan allowed .preflight preflight = .ok "" :=
        (commandFailure_plain (by decide) looked).trans (congrArg Except.ok ready)
      have granted : commandFailure repr loads plan allowed .leaseAcquire acquire = .ok "" :=
        (commandFailure_plain (by decide) read).trans (congrArg Except.ok (not_not.mp taken))
      have acquired := succeeded_of_passed (by decide) granted
      refine Logs.bind (goes _ _ _ _ (parts_of_cleanup fine command failureClass decision)
        (succeeded_of_passed (by decide) checked) acquired ?_ ?_)
      · refine ⟨⟨_, by simp, acquired⟩, ?_, ?_⟩
        · intro event member
          simp only [List.cons_append, List.nil_append, List.mem_cons, List.not_mem_nil,
            or_false] at member
          rcases member with rfl | rfl
          · exact run_apart (by decide)
          · exact run_apart (by decide)
        · intro event member
          simp only [List.cons_append, List.nil_append, List.mem_cons, List.not_mem_nil,
            or_false] at member
          rcases member with rfl | rfl
          · exact settled
          · exact granting
      · intro event member
        simp only [List.cons_append, List.nil_append, List.mem_cons, List.not_mem_nil,
          or_false] at member
        rcases member with rfl | rfl
        · exact passed_command checked
        · exact passed_command granted

def ActivatesPrepared (repr : Value → String) (loads : String → Loaded) (plan : DeployPlan)
    (decision : String) (log : List Event) (call : Call) : Prop :=
  call = .run (plan.argv .deployActivate) →
    normalizeActivationApprovalDecision decision = some "approved" ∧ Prepared repr loads plan log

theorem runAppDeployActivate_logs (loads : String → Loaded) (plan : DeployPlan)
    (shows : ∀ value, repr value ≠ "") (decision note : String) :
    Logs (ActivatesPrepared repr loads plan decision)
      (Ends repr loads plan ["lease_not_found"])
      (runAppDeployActivate repr loads plan decision note) [] := by
  have nothing : ∀ event ∈ ([] : List Event), ¬ Succeeded repr loads plan .leaseAcquire event :=
    fun event member => by cases member
  refine Logs.orRaise (fun _ => ends_raised_before nothing) fun normalized known => ?_
  refine Logs.ite (fun _ => ?_) fun approved => ?_
  · refine Logs.pure (ends_unsuccessful nothing ?_)
    rw [get_unapprovedPayload]
    intro same
    cases same
  · obtain rfl := not_not.mp approved
    have fine : ∀ log call, call ≠ .run (plan.argv .deployActivate) →
        ActivatesPrepared repr loads plan decision log call :=
      fun log call other same => absurd same other
    refine deployUnderLease_logs fine fun post execution preflight acquire parts checked acquired
      held passing => activateStages_logs parts shows held passing fine ?_
    intro prepare verify prepared verified _
    exact ⟨known, preflight, acquire, prepare, verify, rfl, checked, acquired, prepared, verified⟩

theorem runAppDeployPrepareVerify_logs (repr : Value → String)
    (loads : String → Loaded) (plan : DeployPlan) :
    Logs (fun _ _ => True) (Ends repr loads plan [])
      (runAppDeployPrepareVerify repr loads plan) [] := by
  refine deployUnderLease_logs (fun _ _ _ => trivial) fun post execution preflight acquire parts
    checked acquired held passing => ?_
  refine deployStep_logs parts (by decide) held trivial fun _ prepare prepared held => ?_
  have first := passing_next passing (passed_command prepared)
  refine deployStep_logs parts (by decide) held trivial fun _ verify verified held => ?_
  exact Logs.pure (parts.returns _ _ held fun _ => passing_next first (passed_command verified))

end Deployments

section Lease

variable (repr : Value → String) (loads : String → Loaded) (plan : DeployPlan)

/-- Every activation command is behind an approval and the four steps it needs. -/
def ActivatesInOrder (decision : String) (log : List Event) : Prop :=
  ∀ before event after, log = before ++ event :: after →
    event.op = .run (plan.argv .deployActivate) →
      normalizeActivationApprovalDecision decision = some "approved" ∧
        Prepared repr loads plan before

/-- Whatever the commands and tools return or raise, an activation is issued in its place,
and a lease that was acquired is given back exactly when all calls settle. -/
theorem acquired_lease_given_back (shows : ∀ value, repr value ≠ "") (decision note : String)
    (answers : List (Answers Call Call.Reply)) :
    let done := logged answers (runAppDeployActivate repr loads plan decision note)
    (ActivatesInOrder repr loads plan decision done.2 ∧
        (Acquired repr loads plan done.2 → GivenBack plan done.1 done.2)) ↔
      (Acquired repr loads plan done.2 → ∀ event ∈ done.2, Settles loads event) := by
  intro done
  have logs := runAppDeployActivate_logs loads plan shows decision note
  have ends := (logs.run answers).1
  have ordered : ActivatesInOrder repr loads plan decision done.2 :=
    logs.calls answers fun before event after same => by simp at same
  constructor
  · rintro ⟨_, given⟩ acquired
    exact (ends acquired).mp (given acquired)
  · exact fun settle => ⟨ordered, fun acquired => (ends acquired).mpr (settle acquired)⟩

/-! A deployment to try. -/

def pumpPlan : DeployPlan where
  python := "python3"
  nodeId := "unit-01"
  sourceAgent := "rational"
  appId := "pump"
  artifactFile := "pump.llext"
  leaseTtlMs := 120000
  startArgs := ""
  artifactAdmission := []
  planned := []
  named := by decide

/-- What every command prints, and what `json.loads` makes of it. -/
def pumpText : String :=
  "\x7b\"ok\": true, \"status\": \"ready\", \"payload\": \x7b\"apps\": [\x7b\"app_id\": " ++
    "\"pump\", \"state\": \"RUNNING\"\x7d]\x7d\x7d"

def pumpPayload : Dict :=
  [("ok", .bool true), ("status", .str "ready"), ("payload", .dict [("apps",
    .list [.dict [("app_id", .str "pump"), ("state", .str "RUNNING")]])])]

def pumpLoads (text : String) : Loaded :=
  if text = pumpText then .value (.dict pumpPayload) else .undecodable

/-- Every command prints that text, and the health guard reports the result. -/
def pumpAnswers (guard : ToolResult) : Answers Call Call.Reply
  | .run _ => .ok ⟨0, pumpText, ""⟩
  | .execute _ _ => .ok guard
  | .describeTool _ => .ok none

def pumpRun (guard : ToolResult) : Except String Dict × List Event :=
  logged (List.replicate 12 (pumpAnswers guard))
    (runAppDeployActivate (fun _ => "...") pumpLoads pumpPlan "approve" "")

def passes (repr : Value → String) (loads : String → Loaded) (plan : DeployPlan)
    (stage : Stage) : Event → Bool
  | ⟨.run argv, .ok command⟩ =>
      argv == plan.argv stage &&
        (stepFailure repr loads stage.expectedStatus command).toOption == some ""
  | _ => false

theorem acquired_of_passes {log : List Event}
    (passed : log.any (passes repr loads plan .leaseAcquire) = true) :
    Acquired repr loads plan log := by
  obtain ⟨event, member, fine⟩ := List.any_eq_true.mp passed
  refine ⟨event, member, ?_⟩
  match event, fine with
  | ⟨.run argv, .ok command⟩, fine =>
      obtain ⟨same, none⟩ := Bool.and_eq_true_iff.mp fine
      refine ⟨command, by rw [eq_of_beq same], ?_⟩
      cases failure : stepFailure repr loads Stage.leaseAcquire.expectedStatus command with
      | error raised =>
          rw [failure] at none
          cases none
      | ok text =>
          rw [failure] at none
          exact congrArg Except.ok (Option.some.inj (eq_of_beq none))

def healthyPump : ToolResult :=
  ⟨"system_activation_health_guard", "ok",
    [("activation_health", .dict [("classification", .str "healthy")])]⟩

theorem pump_lease_given_back :
    GivenBack pumpPlan (pumpRun healthyPump).1 (pumpRun healthyPump).2 :=
  ((acquired_lease_given_back (fun _ => "...") pumpLoads pumpPlan (fun _ => by decide) "approve" ""
    (List.replicate 12 (pumpAnswers healthyPump))).mpr fun _ => by decide +kernel).2
      (acquired_of_passes _ _ _ (by decide +kernel))

/-- The guard that does not know its tool. -/
def unknownTool : ToolResult :=
  ⟨"system_activation_health_guard", "error", [("failure_status", .str "unknown_tool")]⟩

/-- The workflow raises before it releases the lease. -/
theorem pump_lease_kept :
    ¬ (ActivatesInOrder (fun _ => "...") pumpLoads pumpPlan "approve" (pumpRun unknownTool).2 ∧
      (Acquired (fun _ => "...") pumpLoads pumpPlan (pumpRun unknownTool).2 →
        GivenBack pumpPlan (pumpRun unknownTool).1 (pumpRun unknownTool).2)) := by
  rintro ⟨_, given⟩
  obtain ⟨⟨payload, returned⟩, _⟩ :=
    given (acquired_of_passes _ _ _ (by decide +kernel))
  have raised : (pumpRun unknownTool).1.isOk = false := by decide +kernel
  rw [returned] at raised
  cases raised

end Lease

section Classifiers

variable (repr : Value → String) (loads : String → Loaded)

def unreadResult (toolName : String) (command : CommandResult) (failure : String) : ToolResult :=
  ⟨toolName, "error", [("failure_status", .str failure),
    ("failure_class", .str "cli_execution_failed"), ("stderr", .str command.stderr)]⟩

/-- `NeuroCliToolAdapter.execute` of a tool that only reads, from what its command did. -/
def executeCommand (toolName : String) (command : CommandResult) : Except String ToolResult :=
  match loads command.stdout with
  | .raised raised => .error raised
  | .value (.dict payload) => .ok (executeRead repr toolName payload)
  | .value _ => .ok (unreadResult toolName command "parse_failed")
  | .invalid message _ => .ok (unreadResult toolName command message)
  | .undecodable => .ok (unreadResult toolName command
      (if command.exitCode ≠ 0 then "command_exit_" ++ toString command.exitCode
      else "parse_failed"))

/-- What the workflows rely on of `json.loads`: it cannot decode the empty text, and the space
around a document does not matter. -/
structure JsonLoads : Prop where
  empty : loads "" = .undecodable
  stripped : ∀ text value, loads text = .value value → loads (strip text) = .value value

/-- The process ended well and its output is one that a query tool would accept. -/
def Accepted (command : CommandResult) : Prop :=
  command.exitCode = 0 ∧ ∀ toolName, ∃ result,
    executeCommand repr loads toolName command = .ok result ∧ result.status = "ok"

/-- The output is a JSON object, or its part from the first opening to the last closing brace
is one and the whole is no JSON. -/
def Shows (stdout : String) (payload : Dict) : Prop :=
  loads (strip stdout) = .value (.dict payload) ∨
    loads (strip stdout) = .undecodable ∧
      ∃ cut, cutOut (strip stdout) = some cut ∧ loads cut = .value (.dict payload)

/-- An object with a status that is neither empty nor `ok`. -/
def BadStatus (value : Value) : Prop :=
  ∃ fields, value = .dict fields ∧ fieldText repr fields "status" ≠ "" ∧
    fieldText repr fields "status" ≠ "ok"

/-- The object itself tells of a failure: its `ok` is false and it has a status, the status of
its payload or of the payload of a reply is bad, or its status is not the expected one. -/
def Declares (expected : Option String) (payload : Dict) : Prop :=
  get payload "ok" = .bool false ∧ fieldText repr payload "status" ≠ "" ∨
    BadStatus repr (get payload "payload") ∨
    (∃ reply, .dict reply ∈ (get payload "replies").items ∧
      BadStatus repr (get reply "payload")) ∨
    ∃ status, expected = some status ∧ fieldText repr payload "status" ≠ status

/-- Where a command prints an object that tells of no failure, the process ended well, and it
printed nothing but that object, which says ok. -/
def Clean (expected : Option String) (command : CommandResult) : Prop :=
  ∀ payload, Shows loads command.stdout payload → Declares repr expected payload ∨
    command.exitCode = 0 ∧ loads command.stdout = .value (.dict payload) ∧
      (get payload "ok").truthy = true

variable {repr loads}

theorem failingStatus_none {value : Value} :
    failingStatus repr value = none ↔ ¬ BadStatus repr value := by
  unfold failingStatus BadStatus
  cases value <;> simp

theorem extractNestedFailureStatus_none {payload : Dict} :
    extractNestedFailureStatus repr payload = none ↔
      ¬ BadStatus repr (get payload "payload") ∧
        ∀ reply, .dict reply ∈ (get payload "replies").items →
          ¬ BadStatus repr (get reply "payload") := by
  unfold extractNestedFailureStatus
  rw [Option.or_eq_none_iff, List.findSome?_eq_none_iff, failingStatus_none]
  simp only [failingStatus_none, mem_dicts]

theorem failingStatus_ne {payload : Value} {status : String}
    (failing : failingStatus repr payload = some status) : status ≠ "" := by
  unfold failingStatus at failing
  split at failing
  · dsimp only at failing
    split at failing
    · next both =>
      obtain rfl := Option.some.inj failing
      exact both.1
    · cases failing
  · cases failing

theorem extractNestedFailureStatus_getD {payload : Dict} :
    (extractNestedFailureStatus repr payload).getD "" = "" ↔
      extractNestedFailureStatus repr payload = none := by
  cases found : extractNestedFailureStatus repr payload with
  | none => simp
  | some status =>
      have named : status ≠ "" := by
        rcases Option.or_eq_some_iff.mp found with first | ⟨_, later⟩
        · exact failingStatus_ne first
        · obtain ⟨reply, _, failing⟩ := List.exists_of_findSome?_eq_some later
          exact failingStatus_ne failing
      simp [named]

theorem commandPayloadFailureStatus_none {payload : Dict} :
    commandPayloadFailureStatus repr payload = "" ↔
      ¬ (get payload "ok" = .bool false ∧ fieldText repr payload "status" ≠ "") ∧
        extractNestedFailureStatus repr payload = none := by
  unfold commandPayloadFailureStatus
  rw [← extractNestedFailureStatus_getD]
  dsimp only
  split
  · next refused =>
    by_cases silent : fieldText repr payload "status" = ""
    · simp [silent]
    · simp [silent, refused]
  · next other =>
    have kept : ¬ (get payload "ok" = .bool false ∧ fieldText repr payload "status" ≠ "") :=
      fun both => other both.1
    simp only [kept, not_false_eq_true, true_and]

theorem payloadFailure_none (shows : ∀ value, repr value ≠ "") {expected : Option String}
    {payload : Dict} :
    payloadFailure repr expected payload = "" ↔ ¬ Declares repr expected payload := by
  have fields : commandPayloadFailureStatus repr payload = "" ↔
      ¬ (get payload "ok" = .bool false ∧ fieldText repr payload "status" ≠ "") ∧
        ¬ BadStatus repr (get payload "payload") ∧
        ∀ reply, .dict reply ∈ (get payload "replies").items →
          ¬ BadStatus repr (get reply "payload") := by
    rw [commandPayloadFailureStatus_none, extractNestedFailureStatus_none]
  unfold payloadFailure Declares
  cases expected with
  | none =>
      rw [fields]
      simp
  | some status =>
      dsimp only
      by_cases same : fieldText repr payload "status" = status
      · rw [if_neg (not_not.mpr same), fields]
        simp [same]
      · rw [if_pos same]
        have named : ((get payload "status").orElse (.str "unexpected_status")).text repr ≠ "" :=
          text_ne_empty shows (by simp)
        simp [named, same]

theorem executeRead_ok {toolName : String} {payload : Dict} :
    (executeRead repr toolName payload).status = "ok" ↔
      (get payload "ok").truthy = true ∧ extractNestedFailureStatus repr payload = none := by
  unfold executeRead
  cases truth : (get payload "ok").truthy with
  | false => simp
  | true =>
      cases nested : extractNestedFailureStatus repr payload with
      | some status => simp
      | none => by_cases tool : toolName = "system_state_sync" <;> simp [tool]

theorem parseCommandJsonResult_error {command : CommandResult} {failure : String}
    (failed : parseCommandJsonResult loads command = .ok (.error failure)) : failure ≠ "" := by
  have exit : "command_exit_" ++ toString command.exitCode ≠ "" := by
    intro empty
    have length := congrArg String.length empty
    rw [String.length_append] at length
    exact absurd length (by simp)
  have unread : (if command.exitCode ≠ 0 then "command_exit_" ++ toString command.exitCode
      else "parse_failed") ≠ "" := by
    split
    · exact exit
    · decide
  unfold parseCommandJsonResult at failed
  split at failed
  · cases failed
  · next message something _ =>
    obtain rfl := Except.error.inj (Except.ok.inj failed)
    exact something
  · cases Except.ok.inj failed
  · obtain rfl := Except.error.inj (Except.ok.inj failed)
    exact unread
  · obtain rfl := Except.error.inj (Except.ok.inj failed)
    exact unread
  · obtain rfl := Except.error.inj (Except.ok.inj failed)
    decide

theorem parseCommandJsonResult_ok {command : CommandResult} {payload : Dict} :
    parseCommandJsonResult loads command = .ok (.ok payload) ↔
      loadedStdout loads command.stdout = .value (.dict payload) := by
  unfold parseCommandJsonResult
  cases loadedStdout loads command.stdout with
  | value value => cases value <;> simp
  | _ => simp

theorem cutOut_ne {text cut : String} (found : cutOut text = some cut) : cut ≠ "" := by
  unfold cutOut at found
  dsimp only at found
  split at found
  · cases found
  · next something =>
    obtain rfl := Option.some.inj found
    intro empty
    exact something (by simpa using congrArg String.toList empty)

/-- The payload of a step is the object that the output shows. -/
theorem loadedStdout_shows (json : JsonLoads loads) {stdout : String} {payload : Dict} :
    loadedStdout loads stdout = .value (.dict payload) ↔ Shows loads stdout payload := by
  have cuts : firstLoaded loads ((cutOut (strip stdout)).toList.filter (· ≠ "")) =
      .value (.dict payload) ↔
        ∃ cut, cutOut (strip stdout) = some cut ∧ loads cut = .value (.dict payload) := by
    cases found : cutOut (strip stdout) with
    | none => simp [firstLoaded]
    | some cut =>
        rw [Option.toList_some, List.filter_cons_of_pos (by simpa using cutOut_ne found),
          List.filter_nil, firstLoaded]
        cases read : loads cut <;> simp [firstLoaded, read]
  unfold loadedStdout Shows
  by_cases blank : strip stdout = ""
  · rw [List.filter_cons_of_neg (by simpa using blank), cuts, blank, json.empty]
    simp
  · rw [List.filter_cons_of_pos (by simpa using blank), firstLoaded]
    cases read : loads (strip stdout) with
    | undecodable => simpa using cuts
    | _ => simp

theorem accepted_iff {command : CommandResult} : Accepted repr loads command ↔
    command.exitCode = 0 ∧ ∃ payload, loads command.stdout = .value (.dict payload) ∧
      (get payload "ok").truthy = true ∧ extractNestedFailureStatus repr payload = none := by
  unfold Accepted executeCommand
  refine and_congr_right fun _ => ?_
  cases read : loads command.stdout with
  | value value => cases value <;> simp [unreadResult, executeRead_ok]
  | _ => simp [unreadResult]

/-- A step is counted as passed only for an accepted command exactly if the command is
clean. -/
theorem passed_accepted_iff (json : JsonLoads loads) (shows : ∀ value, repr value ≠ "")
    (expected : Option String) (command : CommandResult) :
    (stepFailure repr loads expected command = .ok "" → Accepted repr loads command) ↔
      Clean repr loads expected command := by
  constructor
  · intro accepts payload shown
    refine or_iff_not_imp_left.mpr fun silent => ?_
    have read := parseCommandJsonResult_ok.mpr ((loadedStdout_shows json).mpr shown)
    have counted : stepFailure repr loads expected command = .ok "" := by
      rw [stepFailure, read]
      exact congrArg Except.ok ((payloadFailure_none shows).mpr silent)
    obtain ⟨ended, found, whole, ok, _⟩ := accepted_iff.mp (accepts counted)
    have same : Shows loads command.stdout found := .inl (json.stripped _ _ whole)
    have read' := (loadedStdout_shows json).mpr same
    rw [(loadedStdout_shows json).mpr shown] at read'
    cases read'
    exact ⟨ended, whole, ok⟩
  · intro clean counted
    unfold stepFailure at counted
    cases read : parseCommandJsonResult loads command with
    | error raised =>
        rw [read] at counted
        cases counted
    | ok found =>
        rw [read] at counted
        have none := Except.ok.inj counted
        cases found with
        | error failure => exact absurd none (parseCommandJsonResult_error read)
        | ok payload =>
            have shown := (loadedStdout_shows json).mp (parseCommandJsonResult_ok.mp read)
            have silent := (payloadFailure_none shows).mp none
            obtain ⟨ended, whole, ok⟩ := (clean payload shown).resolve_left silent
            refine accepted_iff.mpr ⟨ended, payload, whole, ok, ?_⟩
            refine extractNestedFailureStatus_none.mpr ⟨fun bad => silent (.inr (.inl bad)), ?_⟩
            exact fun reply member bad => silent (.inr (.inr (.inl ⟨reply, member, bad⟩)))

def CleanRun (repr : Value → String) (loads : String → Loaded) (plan : DeployPlan)
    (log : List Event) : Prop :=
  ∀ stage command, (⟨.run (plan.argv stage), .ok command⟩ : Event) ∈ log →
    Clean repr loads stage.expectedStatus command

/-- All commands of a run were accepted, up to a release that reports an allowed status. -/
def AcceptedRun (repr : Value → String) (loads : String → Loaded) (plan : DeployPlan)
    (allowed : List String) (log : List Event) : Prop :=
  ∀ stage command, (⟨.run (plan.argv stage), .ok command⟩ : Event) ∈ log →
    Accepted repr loads command ∨
      stage = .leaseRelease ∧ ∃ failure ∈ allowed,
        stepFailure repr loads stage.expectedStatus command = .ok failure

theorem acceptedRun_of_passed (json : JsonLoads loads) (shows : ∀ value, repr value ≠ "")
    {plan : DeployPlan} {allowed : List String} {log : List Event}
    (clean : CleanRun repr loads plan log)
    (passed : ∀ event ∈ log, Passed repr loads plan allowed event) :
    AcceptedRun repr loads plan allowed log := by
  intro stage command member
  have counted := passed _ member stage command rfl
  have accepts := (passed_accepted_iff json shows _ _).mpr (clean stage command member)
  by_cases release : stage = .leaseRelease
  · rw [commandFailure, if_pos release, jsonStep] at counted
    cases read : parseCommandJsonResult loads command with
    | error raised =>
        rw [read] at counted
        cases counted
    | ok found =>
        rw [read] at counted
        have none := Except.ok.inj counted
        have failure : stepFailure repr loads stage.expectedStatus command =
            .ok (readFailure repr stage.expectedStatus found) := by
          rw [stepFailure, read]
          rfl
        dsimp only at none
        split at none
        · unfold settledFailure at none
          split at none
          · next listed => exact .inr ⟨release, _, by simpa using listed, failure⟩
          · exact .inl (accepts (failure.trans (congrArg Except.ok none)))
        · exact .inl (accepts (failure.trans (congrArg Except.ok none)))
  · obtain ⟨other, same, passed⟩ := succeeded_of_passed release counted
    obtain ⟨_, rfl⟩ := run_inj same
    exact .inl (accepts passed)

/-- Where the commands of a deployment are clean, it says ok only if all were accepted. -/
def OkAccepted (repr : Value → String) (loads : String → Loaded) (plan : DeployPlan)
    (allowed : List String) (done : Except String Dict × List Event) : Prop :=
  CleanRun repr loads plan done.2 → ∀ payload, done.1 = .ok payload →
    get payload "ok" = .bool true → AcceptedRun repr loads plan allowed done.2

/-- A step counts as passed only for an accepted command exactly if the command is clean; and
a deployment with clean commands says ok only if all were accepted. -/
theorem passed_steps_accepted (json : JsonLoads loads) (shows : ∀ value, repr value ≠ "")
    (plan : DeployPlan) (decision note : String) (answers : List (Answers Call Call.Reply)) :
    (∀ expected command,
      (stepFailure repr loads expected command = .ok "" → Accepted repr loads command) ↔
        Clean repr loads expected command) ∧
    OkAccepted repr loads plan [] (logged answers (runAppDeployPrepareVerify repr loads plan)) ∧
    OkAccepted repr loads plan ["lease_not_found"]
      (logged answers (runAppDeployActivate repr loads plan decision note)) := by
  refine ⟨passed_accepted_iff json shows, ?_, ?_⟩
  · intro clean payload returned ok
    have ends := (runAppDeployPrepareVerify_logs repr loads plan).run answers
    exact acceptedRun_of_passed json shows clean (ends.2 payload returned ok)
  · intro clean payload returned ok
    have ends := (runAppDeployActivate_logs loads plan shows decision note).run answers
    exact acceptedRun_of_passed json shows clean (ends.2 payload returned ok)

theorem pumpLoads_json : JsonLoads pumpLoads where
  empty := if_neg (by decide)
  stripped := by
    intro text value loaded
    unfold pumpLoads at loaded
    split at loaded
    · next same =>
      rw [same, show strip pumpText = pumpText by decide +kernel]
      unfold pumpLoads
      rwa [if_pos rfl]
    · cases loaded

/-- The output is that object, with exit code 0 and `ok` true. -/
theorem pump_command_accepted : Accepted (fun _ => "...") pumpLoads ⟨0, pumpText, ""⟩ := by
  have whole : pumpLoads pumpText = .value (.dict pumpPayload) := if_pos rfl
  refine ((passed_steps_accepted pumpLoads_json (fun _ => by decide) pumpPlan "approve" "" []).1
    none ⟨0, pumpText, ""⟩).mpr (fun payload shown => .inr ?_) (by rfl)
  have first := pumpLoads_json.stripped _ _ whole
  rcases shown with same | ⟨undecodable, _⟩
  · rw [first] at same
    cases same
    exact ⟨rfl, whole, rfl⟩
  · rw [first] at undecodable
    cases undecodable

def failedText : String := "\x7b\"ok\": false\x7d"

def failedLoads (text : String) : Loaded :=
  if text = failedText then .value (.dict [("ok", .bool false)]) else pumpLoads text

/-- Only the preflight works. -/
def failedAnswers : List (Answers Call Call.Reply) :=
  pumpAnswers healthyPump :: List.replicate 5 fun
    | .run _ => .ok ⟨2, failedText, "node unreachable"⟩
    | .execute _ _ => .error "TimeoutExpired"
    | .describeTool _ => .error "TimeoutExpired"

/-- A command that ended with an error counts as passed, and a deployment whose commands all
failed says ok. -/
theorem failed_command_passes :
    ¬ (∀ expected command, stepFailure (fun _ => "...") failedLoads expected command = .ok "" →
      Accepted (fun _ => "...") failedLoads command) ∧
    ((logged failedAnswers (runAppDeployPrepareVerify (fun _ => "...") failedLoads
      pumpPlan)).1.toOption.any fun payload => (get payload "ok").truthy) = true := by
  constructor
  · intro accepts
    have accepted := accepts none ⟨2, failedText, "node unreachable"⟩ (by rfl)
    exact absurd accepted.1 (by decide)
  · decide +kernel

end Classifiers

end NeuroLink.DeployRuns
