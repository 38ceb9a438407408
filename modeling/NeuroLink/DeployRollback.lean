import NeuroLink.DeployWorkflow

/-!
The rollback workflow of the Core: one tool call for the rollback, then two observations, of the
applications and of the leases, which both have to show that it is over.
-/

namespace NeuroLink.DeployRollback

open PyValue ToolManifest ActivationHealth RaisingProgram DeployWorkflow

/-- The arguments of `run_app_deploy_rollback` once they are validated. -/
structure RollbackPlan where
  appId : String
  nodeId : String
  sourceAgent : String
  leaseId : String
  rollbackReason : String
  approvalDecision : String
  approvalNote : String
  named : appId ≠ ""

section Payloads

variable (repr : Value → String) (plan : RollbackPlan)

/-- `rollback_resource`. -/
def RollbackPlan.rollbackResource : String := "update/app/" ++ plan.appId ++ "/rollback"

/-- `rollback_decision`. -/
def rollbackDecision (decision : String) : Dict :=
  [("approval_required", .bool true), ("decision", .str decision),
    ("status", .str (decisionStatus decision)),
    ("rollback_resource", .str plan.rollbackResource), ("resolved_app_id", .str plan.appId),
    ("requested_lease_id", .str (strip plan.leaseId)),
    ("rollback_reason", .str plan.rollbackReason),
    ("approval_note", .str (strip plan.approvalNote)),
    ("resume_hint", .str "rerun with --approval-decision approve to execute rollback"),
    ("node_id", .str plan.nodeId), ("source_agent", .str plan.sourceAgent)]

def rollbackArguments : Dict :=
  insertIf (strip plan.leaseId ≠ "") (appArguments plan.appId) "lease_id"
    (.str (strip plan.leaseId)) ++ [("reason", .str plan.rollbackReason)]

/-- `_tool_execution_failure_status`. -/
def toolExecutionFailureStatus (result : ToolResult) : String :=
  if result.status ≠ "ok" then
    (firstTrue [get result.payload "failure_status", .str result.status]
      (.str "tool_execution_failed")).text repr
  else
    match get result.payload "result" with
    | .dict payload => commandPayloadFailureStatus repr payload
    | _ => ""

/-- The end of `_execute_rollback_app`, from what the CLI printed. -/
def executeRollbackApp (resolvedArgs payload : Dict) : ToolResult :=
  let nested := (extractNestedFailureStatus repr payload).getD ""
  let status := ((get payload "status").orElse (.str "unknown")).text repr
  if !(get payload "ok").truthy || nested ≠ "" then
    ⟨"system_rollback_app", "error",
      [("failure_status", .str (if nested ≠ "" then nested else status)),
        ("failure_class", .str "rollback_failed"), ("resolved_args", .dict resolvedArgs),
        ("result", .dict payload)]⟩
  else ⟨"system_rollback_app", "ok",
    [("resolved_args", .dict resolvedArgs), ("result", .dict payload)]⟩

def rollbackFailureAdvice (failureStatus : String) : String × String :=
  if failureStatus = "rollback_args_unresolved" then ("argument_resolution",
    "provide explicit rollback lease identity or verify rollback lease discovery before retry")
  else if failureStatus = "lease_holder_mismatch" then ("lease_ownership",
    "reacquire or release the rollback lease with the correct source_agent before retry")
  else if failureStatus = "lease_not_found" then ("lease_resolution",
    "query rollback leases and confirm update/app/<app_id>/rollback is held before retry")
  else if failureStatus = "no_reply" then ("transport",
    "verify Unit and router reachability, then rerun preflight or state sync before retry")
  else if failureStatus = "app_still_running_after_rollback" then ("post_rollback_observation",
    "inspect app lifecycle state and confirm rollback target actually stopped before retry")
  else if failureStatus = "rollback_lease_still_held_after_rollback" then
    ("post_rollback_cleanup",
      "inspect rollback lease ownership and release stale rollback lease state before retry")
  else ("rollback_execution",
    "inspect rollback result and query apps/leases evidence before retry")

/-- `_build_rollback_failure_summary`. -/
def buildRollbackFailureSummary (failedStep failureStatus : String) (decision execution : Dict) :
    Dict :=
  let rollbackResult := (get (get execution "rollback").entries "result").entries
  let (category, advice) := rollbackFailureAdvice failureStatus
  let summary : Dict := [("app_id", .str (fieldText repr decision "resolved_app_id")),
    ("failed_step", .str failedStep), ("failure_status", .str failureStatus),
    ("failure_category", .str category),
    ("rollback_resource", .str (fieldText repr decision "rollback_resource")),
    ("requested_lease_id", .str (fieldText repr decision "requested_lease_id")),
    ("resolved_lease_id",
      .str (fieldText repr (get rollbackResult "resolved_args").entries "lease_id")),
    ("source_agent", .str (fieldText repr decision "source_agent")),
    ("recommended_next_actions", .list [.str advice])]
  let summary :=
    if failedStep = "query_apps" then
      let step := (get execution "query_apps").entries
      insert (insert summary "observed_app_state"
        (.str (((get step "observed_app_state").orElse (.str "unknown")).text repr)))
        "app_present" (.bool (get step "app_present").truthy)
    else if failedStep = "query_leases" then
      insert summary "matching_lease_ids"
        (.list (get (get execution "query_leases").entries "matching_lease_ids").items)
    else summary
  let toolFailureClass := fieldText repr rollbackResult "failure_class"
  insertIf (toolFailureClass ≠ "") summary "tool_failure_class" (.str toolFailureClass)

def unapprovedRollback (decision : String) (decided execution : Dict) : Dict :=
  [("ok", .bool false), ("status", .str (decisionStatus decision)),
    ("command", .str "app-deploy-rollback"),
    ("failure_class", .str (releaseGateApprovalFailureClass (decisionStatus decision) "rollback")),
    ("failure_status", .str (decisionStatus decision)), ("rollback_decision", .dict decided),
    ("rollback_execution", .dict execution)]

def rollbackPayload (failedStep failureStatus : String) (decided execution : Dict) : Dict :=
  if failureStatus ≠ "" then
    [("ok", .bool false), ("status", .str "error"), ("command", .str "app-deploy-rollback"),
      ("failure_class", .str "app_deploy_rollback_failed"),
      ("failure_status", .str failureStatus), ("failed_step", .str failedStep),
      ("rollback_decision", .dict decided), ("rollback_execution", .dict execution),
      ("rollback_failure_summary",
        .dict (buildRollbackFailureSummary repr failedStep failureStatus decided execution))]
  else [("ok", .bool true), ("status", .str "ok"), ("command", .str "app-deploy-rollback"),
    ("rollback_decision", .dict decided), ("rollback_execution", .dict execution)]

end Payloads

structure ObservedStep where
  entries : Dict
  failure : String

/-- A failure that the observation itself shows. -/
def ObservedStep.failed (step : ObservedStep) (failure : String) : ObservedStep :=
  ⟨insert (insert step.entries "failure_status" (.str failure)) "ok" (.bool false), failure⟩

section Observing

variable (repr : Value → String) (plan : RollbackPlan)

/-- The step that looks for the application, which must not run any more; it raises if the first
reply cannot be read. -/
def observedRollbackApps (result : ToolResult) : Option ObservedStep :=
  let failure := toolExecutionFailureStatus repr result
  let entries := buildToolExecutionStepResult "query_apps" "system_query_apps" result failure
  if failure ≠ "" then some ⟨entries, failure⟩
  else
    (extractRollbackQueryAppsState repr result plan.appId).map fun state =>
      let entries := insert entries "observed_app_state" (.str state.observedAppState)
      let entries := insert entries "app_present" (.bool state.appPresent)
      if state.appRunning then
        ObservedStep.failed ⟨entries, failure⟩ "app_still_running_after_rollback"
      else ⟨entries, failure⟩

def observedRollbackLeases (result : ToolResult) : Option ObservedStep :=
  let failure := toolExecutionFailureStatus repr result
  let entries := buildToolExecutionStepResult "query_leases" "system_query_leases" result failure
  if failure ≠ "" then some ⟨entries, failure⟩
  else
    (matchingLeaseIdsForResource repr result plan.rollbackResource).map fun matching =>
      let entries := insert entries "rollback_resource" (.str plan.rollbackResource)
      let entries := insert entries "matching_lease_ids" (.list (matching.map .str))
      if matching ≠ [] then
        ObservedStep.failed ⟨entries, failure⟩ "rollback_lease_still_held_after_rollback"
      else ⟨entries, failure⟩

def firstFailure (apps leases : ObservedStep) : String × String :=
  if apps.failure ≠ "" then ("query_apps", apps.failure)
  else if leases.failure ≠ "" then ("query_leases", leases.failure)
  else ("", "")

def observeLeases (decided execution : Dict) (apps : ObservedStep) : WorkflowM Dict := do
  let result : ToolResult ← ask (.execute "system_query_leases" (appArguments plan.appId ++
    [("reason", .str "post_rollback_lease_observation")]))
  let leases ← orRaise "AttributeError" (observedRollbackLeases repr plan result)
  let execution := insert execution "query_leases" (.dict leases.entries)
  let execution := insert execution "completed_through" (.str "query_leases")
  let (failedStep, failureStatus) := firstFailure apps leases
  return rollbackPayload repr failedStep failureStatus decided execution

def observeRollback (decided execution : Dict) : WorkflowM Dict := do
  let execution := insert execution "observation_attempted" (.bool true)
  let result : ToolResult ← ask (.execute "system_query_apps" (appArguments plan.appId ++
    [("reason", .str "post_rollback_app_observation")]))
  let apps ← orRaise "AttributeError" (observedRollbackApps repr plan result)
  observeLeases repr plan decided (insert execution "query_apps" (.dict apps.entries)) apps

def executeRollback (decided execution : Dict) : WorkflowM Dict := do
  let result : ToolResult ← ask (.execute "system_rollback_app" (rollbackArguments plan))
  let failure := toolExecutionFailureStatus repr result
  let execution := insert execution "rollback"
    (.dict (buildToolExecutionStepResult "rollback" "system_rollback_app" result failure))
  if failure ≠ "" then return rollbackPayload repr "rollback" failure decided execution
  else observeRollback repr plan decided execution

/-- `run_app_deploy_rollback`. -/
def runAppDeployRollback : WorkflowM Dict := do
  let decision ← orRaise "invalid_activation_approval_decision"
    (normalizeActivationApprovalDecision plan.approvalDecision)
  let decided := rollbackDecision plan decision
  let execution : Dict := [("schema_version", .str "1.2.4-app-deploy-rollback-v1"),
    ("completed_through", .str ""), ("observation_attempted", .bool false)]
  if decision ≠ "approved" then return unapprovedRollback decision decided execution
  else executeRollback repr plan decided execution

end Observing

end NeuroLink.DeployRollback
