import NeuroLink.ActivationHealth
import NeuroLink.RaisingProgram

/-!
The release-gate deployments of the Core: the commands it runs for a deploy plan, how it
reads what they print, and the two workflows over them. A command and a tool may also raise,
which ends a workflow where nothing catches it.
-/

namespace NeuroLink.DeployWorkflow

open PyValue ToolManifest ActivationHealth RaisingProgram

inductive Stage where
  | preflight
  | leaseAcquire
  | deployPrepare
  | deployVerify
  | deployActivate
  | queryApps
  | leaseRelease
  | queryLeases
  deriving DecidableEq

def Stage.name : Stage → String
  | .preflight => "preflight"
  | .leaseAcquire => "lease_acquire_activate"
  | .deployPrepare => "deploy_prepare"
  | .deployVerify => "deploy_verify"
  | .deployActivate => "deploy_activate"
  | .queryApps => "query_apps"
  | .leaseRelease => "lease_release_activate"
  | .queryLeases => "query_leases"

/-- A valid `deploy_plan`: what its commands are made of, and the entries that every payload
repeats of the planning. -/
structure DeployPlan where
  python : String
  nodeId : String
  sourceAgent : String
  appId : String
  artifactFile : String
  leaseTtlMs : Int
  startArgs : String
  artifactAdmission : Dict
  planned : Dict
  named : appId ≠ ""

/-- `_suggest_activation_lease_id`. -/
def suggestActivationLeaseId (appId : String) : String :=
  "l-" ++ (appId.map fun char => if char = '_' ∨ char = '.' then '-' else char).toLower ++ "-act"

section Commands

variable (plan : DeployPlan)

def DeployPlan.leaseId : String := suggestActivationLeaseId plan.appId

def DeployPlan.activationResource : String := "update/app/" ++ plan.appId ++ "/activate"

def DeployPlan.cliPrefix : List String :=
  [plan.python, "applocation/NeuroLink/neuro_cli/src/neuro_cli.py", "--output", "json",
    "--node", plan.nodeId, "--source-agent", plan.sourceAgent]

def DeployPlan.words : Stage → List String
  | .preflight => []
  | .leaseAcquire => ["lease", "acquire", "--resource", plan.activationResource, "--lease-id",
      plan.leaseId, "--ttl-ms", toString plan.leaseTtlMs]
  | .deployPrepare => ["deploy", "prepare", "--app-id", plan.appId, "--file", plan.artifactFile]
  | .deployVerify => ["deploy", "verify", "--app-id", plan.appId]
  | .deployActivate =>
      ["deploy", "activate", "--app-id", plan.appId, "--lease-id", plan.leaseId] ++
        if plan.startArgs = "" then [] else ["--start-args", plan.startArgs]
  | .queryApps => ["query", "apps"]
  | .leaseRelease => ["lease", "release", "--lease-id", plan.leaseId]
  | .queryLeases => ["query", "leases"]

def DeployPlan.preflightParts : List String :=
  ["bash", "applocation/NeuroLink/scripts/preflight_neurolink_linux.sh", "--node", plan.nodeId,
    "--artifact-file", plan.artifactFile, "--auto-start-router", "--require-serial",
    "--install-missing-cli-deps", "--output", "json"]

/-- `steps[..]["argv"]`. -/
def DeployPlan.argv (stage : Stage) : List String :=
  if stage = .preflight then plan.preflightParts else plan.cliPrefix ++ plan.words stage

theorem argv_injective {left right : Stage} (same : plan.argv left = plan.argv right) :
    left = right := by
  cases left <;> cases right <;>
    simp [DeployPlan.argv, DeployPlan.preflightParts, DeployPlan.cliPrefix,
      DeployPlan.words] at same ⊢

@[simp] theorem argv_inj {left right : Stage} :
    plan.argv left = plan.argv right ↔ left = right :=
  ⟨argv_injective plan, fun same => same ▸ rfl⟩

attribute [irreducible] DeployPlan.argv

end Commands

/-- `CommandExecutionResult`. -/
structure CommandResult where
  exitCode : Int
  stdout : String
  stderr : String

/-- What `json.loads` does with a text: it returns a value or raises, a `JSONDecodeError`,
another `ValueError` with its message (an integer of too many digits), or something else (a
`RecursionError` where brackets nest too deep). -/
inductive Loaded where
  | value (value : Value)
  | undecodable
  | invalid (message : String) (something : message ≠ "")
  | raised (raised : String)

def Loaded.escapes : Loaded → Bool
  | .raised _ => true
  | _ => false

section Reading

variable (repr : Value → String) (loads : String → Loaded)

def cutOut (text : String) : Option String :=
  let opened := text.toList.dropWhile (· ≠ Char.ofNat 123)
  let cut := (opened.reverse.dropWhile (· ≠ Char.ofNat 125)).reverse
  if cut = [] then none else some (String.ofList cut)

/-- What `json.loads` does with the first of the texts that it can decode. -/
def firstLoaded : List String → Loaded
  | [] => .undecodable
  | text :: rest =>
      match loads text with
      | .undecodable => firstLoaded rest
      | found => found

def loadedStdout (stdout : String) : Loaded :=
  firstLoaded loads ((strip stdout :: (cutOut (strip stdout)).toList).filter (· ≠ ""))

/-- `_parse_command_json_result`: the payload or the text of a `ValueError`, unless something
else is raised. -/
def parseCommandJsonResult (command : CommandResult) : Except String (Except String Dict) :=
  match loadedStdout loads command.stdout with
  | .raised raised => .error raised
  | .invalid message _ => .ok (.error message)
  | .value (.dict payload) => .ok (.ok payload)
  | .undecodable | .value .none => .ok (.error
      (if command.exitCode ≠ 0 then "command_exit_" ++ toString command.exitCode
      else "parse_failed"))
  | .value _ => .ok (.error "parse_failed")

/-- `_command_payload_failure_status`. -/
def commandPayloadFailureStatus (payload : Dict) : String :=
  let nested := (extractNestedFailureStatus repr payload).getD ""
  match get payload "ok" with
  | .bool false =>
      if fieldText repr payload "status" ≠ "" then fieldText repr payload "status" else nested
  | _ => nested

def Stage.expectedStatus : Stage → Option String
  | .preflight => some "ready"
  | _ => none

def payloadFailure (expected : Option String) (payload : Dict) : String :=
  match expected with
  | none => commandPayloadFailureStatus repr payload
  | some status =>
      if fieldText repr payload "status" ≠ status then
        ((get payload "status").orElse (.str "unexpected_status")).text repr
      else commandPayloadFailureStatus repr payload

def readFailure (expected : Option String) : Except String Dict → String
  | .error failure => failure
  | .ok payload => payloadFailure repr expected payload

/-- The failure of a step, before allowed ones are dropped. -/
def stepFailure (expected : Option String) (command : CommandResult) : Except String String :=
  (parseCommandJsonResult loads command).map (readFailure repr expected)

def settledFailure (allowed : List String) (failure : String) : String :=
  if allowed.contains failure then "" else failure

end Reading

/-! The calls of a workflow. -/

inductive Call where
  | run (argv : List String)
  | execute (toolName : String) (args : Dict)
  | describeTool (toolName : String)
  deriving Inhabited

abbrev Call.Reply : Call → Type
  | .run _ => CommandResult
  | .execute _ _ => ToolResult
  | .describeTool _ => Option ToolContract

abbrev WorkflowM := Service Call Call.Reply

def ask (call : Call) : WorkflowM call.Reply := perform call

structure JsonStep where
  entries : Dict
  failure : String
  result : Option Dict

section Steps

variable (repr : Value → String) (loads : String → Loaded) (plan : DeployPlan)

/-- `_build_execution_step_result`. -/
def buildExecutionStepResult (stage : Stage) (command : CommandResult) (payload : Option Dict)
    (failure : String) : Dict :=
  let argv := plan.argv stage
  let entries : Dict := [("name", .str stage.name),
    ("command", .str (String.intercalate " " argv)), ("argv", .list (argv.map .str)),
    ("ok", .bool (failure = "")), ("failure_status", .str failure),
    ("exit_code", .int command.exitCode)]
  let entries := insertIf (command.stderr ≠ "") entries "stderr" (.str command.stderr)
  match payload with
  | none => entries
  | some payload => insert entries "result" (.dict payload)

def jsonStep (stage : Stage) (allowed : List String) (command : CommandResult) :
    Except String JsonStep :=
  (parseCommandJsonResult loads command).map fun read =>
    let failure := readFailure repr stage.expectedStatus read
    -- a payload that could not be read is never an allowed failure
    let failure := if read.toOption.isSome then settledFailure allowed failure else failure
    ⟨buildExecutionStepResult plan stage command read.toOption failure, failure,
      read.toOption⟩

attribute [irreducible] jsonStep

/-- `run_json_step`. -/
def runJsonStep (stage : Stage) (allowed : List String) : WorkflowM JsonStep := do
  let command : CommandResult ← ask (.run (plan.argv stage))
  orThrow (jsonStep repr loads plan stage allowed command)

/-- `_build_tool_execution_step_result`. -/
def buildToolExecutionStepResult (name toolName : String) (result : ToolResult)
    (failure : String) : Dict :=
  [("name", .str name), ("tool_name", .str toolName), ("status", .str result.status),
    ("ok", .bool (failure = "")), ("failure_status", .str failure),
    ("result", .dict result.payload)]

end Steps

structure Progress where
  execution : Dict
  failedStep : String
  failureStatus : String
  recoveryCandidateSummary : Option Dict
  rollbackApproval : Option Dict

def Progress.start (execution : Dict) : Progress := ⟨execution, "", "", none, none⟩

def Progress.failed (execution : Dict) (step failure : String) : Progress :=
  ⟨execution, step, failure, none, none⟩

section Cleanup

variable (repr : Value → String) (loads : String → Loaded) (plan : DeployPlan)

def observedLeases (payload : Option Dict) : List Value :=
  ((dicts (get (payload.getD []) "replies").items).findSome? fun reply =>
    match get (get reply "payload").entries "leases" with
    | .list leases => some leases
    | _ => none).getD []

def Progress.orFailed (progress : Progress) (step failure : String) : Progress :=
  if failure ≠ "" ∧ progress.failureStatus = "" then
    { progress with failedStep := step, failureStatus := failure }
  else progress

def cleanUp (allowed : List String) (progress : Progress) : WorkflowM Progress := do
  let execution := insert progress.execution "cleanup_attempted" (.bool true)
  let release ← runJsonStep repr loads plan .leaseRelease allowed
  let execution := insert execution "lease_release" (.dict release.entries)
  let leases ← runJsonStep repr loads plan .queryLeases []
  let held := leases.failure = "" ∧ observedLeases leases.result ≠ []
  let failure := if held then "cleanup_leases_not_empty" else leases.failure
  let entries := insertIf held leases.entries "failure_status" (.str failure)
  let execution :=
    insert execution "query_leases" (.dict (insertIf held entries "ok" (.bool false)))
  return (({ progress with execution := execution }.orFailed Stage.leaseRelease.name
    release.failure).orFailed Stage.queryLeases.name failure)

def DeployPlan.evidence (decision : Dict) (execution : Dict) : Dict :=
  plan.planned ++ decision ++ [("deploy_execution", .dict execution)]

def failurePayload (command failureClass : String) (decision : Dict) (progress : Progress) :
    Dict :=
  let payload : Dict := [("ok", .bool false), ("status", .str "error"),
    ("command", .str command), ("failure_class", .str failureClass),
    ("failure_status", .str progress.failureStatus), ("failed_step", .str progress.failedStep)] ++
    plan.evidence decision progress.execution
  let payload := match progress.recoveryCandidateSummary with
    | some summary => insert payload "recovery_candidate_summary" (.dict summary)
    | none => payload
  match progress.rollbackApproval with
  | some approval => insert payload "rollback_approval" (.dict approval)
  | none => payload

def finalPayload (command failureClass : String) (decision : Dict) (progress : Progress) :
    Dict :=
  if progress.failureStatus ≠ "" then failurePayload plan command failureClass decision progress
  else [("ok", .bool true), ("status", .str "ok"), ("command", .str command)] ++
    plan.evidence decision progress.execution

end Cleanup

section Workflows

variable (repr : Value → String) (loads : String → Loaded) (plan : DeployPlan)

/-- One step of a deployment: it fails the deployment or the next steps follow. -/
def deployStep (stage : Stage) (key : String) (execution : Dict)
    (next : Dict → WorkflowM Progress) : WorkflowM Progress := do
  let step ← runJsonStep repr loads plan stage []
  let execution := insert execution key (.dict step.entries)
  if step.failure ≠ "" then return .failed execution stage.name step.failure
  else next execution

/-- The frame of both workflows: the preflight, the lease, what is done under the lease, and
the cleanup. -/
def deployUnderLease (command failureClass : String) (decision : Dict) (allowed : List String)
    (execution : Dict) (deploy : Dict → WorkflowM Progress) : WorkflowM Dict := do
  let preflight ← runJsonStep repr loads plan .preflight []
  let execution := insert execution "preflight" (.dict preflight.entries)
  if preflight.failure ≠ "" then
    return failurePayload plan command failureClass decision
      (.failed execution Stage.preflight.name preflight.failure)
  else
    let lease ← runJsonStep repr loads plan .leaseAcquire []
    let execution := insert execution "lease_acquire" (.dict lease.entries)
    if lease.failure ≠ "" then
      return finalPayload plan command failureClass decision
        (.failed execution Stage.leaseAcquire.name lease.failure)
    else
      let progress ← deploy execution
      let progress ← cleanUp repr loads plan allowed progress
      return finalPayload plan command failureClass decision progress

def prepareVerifyStages (execution : Dict) : WorkflowM Progress :=
  deployStep repr loads plan .deployPrepare "deploy_prepare" execution fun execution =>
    deployStep repr loads plan .deployVerify "deploy_verify" execution fun execution =>
      return .start (insert execution "completed_through" (.str "deploy_verify"))

/-- `run_app_deploy_prepare_verify`. -/
def runAppDeployPrepareVerify : WorkflowM Dict :=
  deployUnderLease repr loads plan "app-deploy-prepare-verify"
    "app_deploy_prepare_verify_failed" [] []
    [("schema_version", .str "1.2.4-app-deploy-prepare-verify-v1"),
      ("completed_through", .str ""), ("cleanup_attempted", .bool false)]
    (prepareVerifyStages repr loads plan)

/-! The activation. -/

/-- `_normalize_activation_approval_decision`. -/
def normalizeActivationApprovalDecision (decision : String) : Option String :=
  let normalized := (strip decision).toLower
  if ["approve", "approved"].contains normalized then some "approved"
  else if ["deny", "denied"].contains normalized then some "denied"
  else if ["expire", "expired"].contains normalized then some "expired"
  else if ["pending", ""].contains normalized then some "pending"
  else none

/-- `activation_decision["status"]`. -/
def decisionStatus (decision : String) : String :=
  if decision = "approved" then "approved"
  else if decision = "pending" then "pending_approval"
  else if decision = "expired" then "expired"
  else "denied"

/-- `_release_gate_approval_failure_class`. -/
def releaseGateApprovalFailureClass (status kind : String) : String :=
  if status = "denied" then kind ++ "_approval_denied"
  else if status = "expired" then kind ++ "_approval_expired"
  else kind ++ "_approval_required"

/-- `activation_decision`, as an entry of the payload. -/
def activationDecision (decision note : String) : Dict :=
  [("activation_decision", .dict [("approval_required", .bool true), ("decision", .str decision),
    ("status", .str (decisionStatus decision)),
    ("activation_resource", .str plan.activationResource),
    ("resolved_app_id", .str plan.appId), ("resolved_lease_id", .str plan.leaseId),
    ("approval_note", .str (strip note)),
    ("resume_hint", .str "rerun with --approval-decision approve to execute activation")])]

def appArguments (appId : String) : Dict := [("app_id", .str appId), ("app", .str appId)]

def healthObservation (payload : Dict) : Value :=
  firstTrue [get payload "activation_health", get payload "health_observation"] (.dict [])

/-- `health_failure`, from the observation where the guard has worked. -/
def healthFailure (result : ToolResult) (observation : Option Dict) : String :=
  match observation with
  | none =>
      (firstTrue [get result.payload "failure_status", .str result.status]
        (.str "activation_health_failed")).text repr
  | some observed =>
      let classification := ((get observed "classification").orElse (.str "unknown")).text repr
      if classification = "healthy" then ""
      else if classification ≠ "unknown" then classification
      else "activation_health_not_healthy"

def artifactId : String :=
  (firstTrue [get (get plan.artifactAdmission "source_identity").entries "build_id",
    get plan.artifactAdmission "artifact_sha256"] (.str "")).text repr

/-- `_build_recovery_candidate_summary`, after an activation with the given failure; it
raises if the leases cannot be read. -/
def buildRecoveryCandidateSummary (activationHealth : Dict) (leases : ToolResult)
    (failure : String) : Option Dict := do
  let appId := (firstTrue [get activationHealth "app_id", .str plan.appId] (.str "")).text repr
  let leaseResource := if appId = "" then "" else "update/app/" ++ appId ++ "/rollback"
  let matching ← matchingLeaseIdsForResource repr leases leaseResource
  let observedHealth := ((get activationHealth "classification").orElse (.str "unknown")).text repr
  let observedAppState :=
    ((get activationHealth "observed_app_state").orElse (.str "unknown")).text repr
  return [("trigger_topic", .str "unit.lifecycle.activate_failed"), ("app_id", .str appId),
    ("artifact_id", .str (artifactId repr plan)),
    ("activation_result", .str (if failure = "" then "activate_failed" else failure)),
    ("observed_health", .str observedHealth),
    ("rollback_decision", .str (if observedHealth = "rollback_required" then
      "operator_review_required" else "not_required")),
    ("final_app_state", .str observedAppState), ("lease_resource", .str leaseResource),
    ("lease_ownership_status", .str (if matching = [] then "missing" else "held")),
    ("matching_lease_ids", .list (matching.map .str)),
    ("ready_for_rollback_consideration",
      .bool (get activationHealth "ready_for_rollback_consideration").truthy)]

def sideEffectLevelValue : SideEffectLevel → String
  | .observeOnly => "observe_only"
  | .readOnly => "read_only"
  | .suggestOnly => "suggest_only"
  | .lowRiskExecute => "low_risk_execute"
  | .approvalRequired => "approval_required"
  | .destructive => "destructive"

/-- `ToolContract.to_dict`. -/
def contractToDict (contract : ToolContract) : Dict :=
  [("name", .str contract.toolName), ("description", .str contract.description),
    ("argv_template", .list (contract.argvTemplate.map .str)),
    ("resource", .str contract.resource),
    ("required_arguments", .list (contract.requiredArguments.map .str)),
    ("side_effect_level", .str (sideEffectLevelValue contract.sideEffectLevel)),
    ("lease_requirements", .list (contract.requiredResources.map .str)),
    ("timeout_seconds", .int contract.timeoutSeconds), ("retryable", .bool contract.retryable),
    ("approval_required", .bool contract.approvalRequired),
    ("cleanup_hints", .list ((contract.cleanupHint.filter (· ≠ "")).toList.map .str)),
    ("output_contract", .dict contract.outputContract)]

/-- `_build_guarded_rollback_approval`, from the contract of the rollback tool. -/
def guardedRollbackApproval (summary : Dict) (contract : Option ToolContract) : Dict :=
  let appId := Value.str (fieldText repr summary "app_id")
  let leaseId := ((get summary "matching_lease_ids").items.head?.getD (.str "")).text repr
  let payload : Dict := [("status", .str "pending_approval"),
    ("tool_name", .str "system_rollback_app"),
    ("reason", .str "operator_approval_required_for_guarded_rollback"),
    ("requested_args", .dict [("app_id", appId), ("app", appId), ("lease_id", .str leaseId),
      ("reason", .str "guarded_rollback_after_activation_health_failure")]),
    ("required_resources", .list [.str "update_rollback_lease"]),
    ("cleanup_hint", .str
      "confirm rollback evidence, lease ownership, and target app identity before resume"),
    ("target_app_id", appId), ("recovery_candidate_summary", .dict summary)]
  match contract with
  | none => payload
  | some contract =>
      let payload := insert payload "required_resources"
        (.list (contract.requiredResources.map .str))
      let payload := insert payload "cleanup_hint" ((contract.cleanupHint.map .str).getD .none)
      insert payload "contract" (.dict (contractToDict contract))

def proposeRollback (execution : Dict) (observation : Option Dict) (failure : String) :
    WorkflowM Progress := do
  let leases : ToolResult ← ask (.execute "system_query_leases" (appArguments plan.appId ++
    [("reason", .str "activation_rollback_candidate_lease_observation")]))
  let leaseFailure :=
    if leases.status = "ok" then ""
    else (firstTrue [get leases.payload "failure_status", .str leases.status]
      (.str "rollback_candidate_lease_observation_failed")).text repr
  let execution := insert execution "rollback_candidate_lease_observation"
    (.dict (buildToolExecutionStepResult "rollback_candidate_lease_observation"
      "system_query_leases" leases leaseFailure))
  -- the observation is not assigned where the guard did not work
  let activationHealth ← orRaise "UnboundLocalError" observation
  let summary ← orRaise "AttributeError"
    (buildRecoveryCandidateSummary repr plan activationHealth leases failure)
  if failure = "rollback_required" then
    let contract : Option ToolContract ← ask (.describeTool "system_rollback_app")
    return ⟨execution, "activation_health_guard", failure, some summary,
      some (guardedRollbackApproval repr summary contract)⟩
  else return ⟨execution, "activation_health_guard", failure, some summary, none⟩

/-- What the workflow adds to the step that queried the applications, and its failure. -/
def observedStep (step : JsonStep) : Dict × String :=
  match step.result with
  | none => (step.entries, step.failure)
  | some payload =>
      let state := extractQueryAppsTargetState repr payload plan.appId
      let entries := insert step.entries "observed_app_state" (.str state.observedAppState)
      let entries := insert entries "app_present" (.bool state.appPresent)
      if step.failure = "" ∧ ¬ state.appRunning then
        let failure := "app_not_running_after_activate"
        (insert (insert entries "failure_status" (.str failure)) "ok" (.bool false), failure)
      else (entries, step.failure)

attribute [irreducible] healthFailure observedStep

def observeApps (execution : Dict) : WorkflowM Progress := do
  let step ← runJsonStep repr loads plan .queryApps []
  let (entries, failure) := observedStep repr plan step
  let execution := insert execution "query_apps" (.dict entries)
  if failure ≠ "" then return .failed execution Stage.queryApps.name failure
  else return .start (insert execution "completed_through" (.str "query_apps"))

def guardHealth (execution : Dict) : WorkflowM Progress := do
  let health : ToolResult ←
    ask (.execute "system_activation_health_guard" (appArguments plan.appId))
  let observation : Option Dict ←
    if health.status ≠ "ok" then pure none
    else
      match healthObservation health.payload with
      | .dict observed => pure (some observed)
      | _ => raise "AttributeError"
  let failure := healthFailure repr health observation
  let execution := insert execution "activation_health_guard"
    (.dict (buildToolExecutionStepResult "activation_health_guard"
      "system_activation_health_guard" health failure))
  if failure ≠ "" then proposeRollback repr plan execution observation failure
  else observeApps repr loads plan execution

def activateStages (execution : Dict) : WorkflowM Progress :=
  deployStep repr loads plan .deployPrepare "deploy_prepare" execution fun execution =>
    deployStep repr loads plan .deployVerify "deploy_verify" execution fun execution =>
      deployStep repr loads plan .deployActivate "deploy_activate" execution
        (guardHealth repr loads plan)

def unapprovedPayload (status : String) (decision execution : Dict) : Dict :=
  [("ok", .bool false), ("status", .str status), ("command", .str "app-deploy-activate"),
    ("failure_class", .str (releaseGateApprovalFailureClass status "activation")),
    ("failure_status", .str status)] ++ plan.evidence decision execution

/-- `run_app_deploy_activate`. -/
def runAppDeployActivate (approvalDecision approvalNote : String) : WorkflowM Dict := do
  let decision ← orRaise "invalid_activation_approval_decision"
    (normalizeActivationApprovalDecision approvalDecision)
  let decided := activationDecision plan decision approvalNote
  let execution : Dict := [("schema_version", .str "1.2.4-app-deploy-activate-v1"),
    ("completed_through", .str ""), ("cleanup_attempted", .bool false)]
  if decision ≠ "approved" then
    return unapprovedPayload plan (decisionStatus decision) decided execution
  else
    deployUnderLease repr loads plan "app-deploy-activate" "app_deploy_activate_failed" decided
      ["lease_not_found"] execution (activateStages repr loads plan)

end Workflows

end NeuroLink.DeployWorkflow
