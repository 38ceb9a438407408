import NeuroLink.PlanValidation

/-!
What one pass of the Core workflow does with the plan of a model: which tools it passes to
the adapter, and which approval requests it leaves. Everything else a pass reads is
arbitrary: the events, the plan, and the answers of the adapter.
-/

namespace NeuroLink.PlanGovernance

open PyValue ToolManifest PlanValidation

/-- `new_id`: an id from `uuid4`, which was not used before. -/
structure IdSource where
  next : List String → String
  fresh : ∀ used, next used ∉ used

structure Workflow where
  manifest : List ToolContract
  skill : SkillDescriptor
  catalog : WorkflowCatalog
  ids : IdSource
  repr : Value → String

/-- What the rational agent does: nothing at all if the pass raised before it. -/
inductive Planning where
  | notReached
  | invalid (message : String)
  | noPlan
  | plan (plan : RationalPlan)

/-- What a pass over a batch of events reads. An answer that is missing was raised. -/
structure Batch where
  eventIds : List String
  activateFailed : Dict
  planning : Planning
  planAnswer : Option ToolResult
  leaseAnswer : Option ToolResult

/-- `_build_recovery_candidate_summary`. -/
structure RecoveryCandidate where
  appId : String
  leaseResource : String
  matchingLeaseIds : List String
  observedHealth : String
  finalAppState : String

/-- The payload of an approval request. -/
structure ApprovalRequest where
  toolName : String
  reason : String
  requestedArgs : Dict
  requiredResources : List String
  cleanupHint : Option String
  policyDecision : ToolPolicyDecision
  contract : ToolContract
  planQuality : Option PlanQuality
  targetAppId : Option String
  recoveryCandidate : Option RecoveryCandidate
  status : String

/-- The tools passed to the adapter, and the table of approval requests. -/
structure State where
  executed : List (String × Dict)
  requests : List (String × ApprovalRequest)

def State.execute (state : State) (toolName : String) (args : Dict) : State :=
  { state with executed := state.executed ++ [(toolName, args)] }

/-- `persist_approval_request` under a new id: a row of the same id is replaced. -/
def State.persistApprovalRequest (state : State) (workflow : Workflow)
    (request : ApprovalRequest) : State :=
  let id := workflow.ids.next (state.requests.map (·.1))
  { state with requests := state.requests.filter (fun row => row.1 != id) ++ [(id, request)] }

theorem persistApprovalRequest_requests (state : State) (workflow : Workflow)
    (request : ApprovalRequest) :
    (state.persistApprovalRequest workflow request).requests =
      state.requests ++ [(workflow.ids.next (state.requests.map (·.1)), request)] := by
  have unused : ∀ row ∈ state.requests,
      (row.1 != workflow.ids.next (state.requests.map (·.1))) = true := by
    intro row member
    have fresh := workflow.ids.fresh (state.requests.map (·.1))
    exact bne_iff_ne.mpr fun same => fresh (same ▸ List.mem_map_of_mem member)
  show state.requests.filter _ ++ _ = _
  rw [List.filter_eq_self.mpr unused]

def recoveryCandidateSummary (workflow : Workflow) (batch : Batch) (activationHealth : Dict)
    (leases : ToolResult) : Option RecoveryCandidate :=
  let appId := (firstTrue [get activationHealth "app_id",
    get batch.activateFailed "target_app_id"] (.str "")).text workflow.repr
  let leaseResource := if appId = "" then "" else "update/app/" ++ appId ++ "/rollback"
  (matchingLeaseIdsForResource workflow.repr leases leaseResource).map fun matchingLeaseIds => {
    appId := appId
    leaseResource := leaseResource
    matchingLeaseIds := matchingLeaseIds
    observedHealth := ((get activationHealth "classification").orElse (.str "unknown")).text
      workflow.repr
    finalAppState := ((get activationHealth "observed_app_state").orElse (.str "unknown")).text
      workflow.repr }

def rollbackRequest (contract : ToolContract) (candidate : RecoveryCandidate) :
    ApprovalRequest where
  toolName := "system_rollback_app"
  reason := "operator_approval_required_for_guarded_rollback"
  requestedArgs := [("app_id", .str candidate.appId), ("app", .str candidate.appId),
    ("reason", .str "guarded_rollback_after_activation_health_failure")]
  requiredResources := contract.requiredResources
  cleanupHint := contract.cleanupHint
  policyDecision := evaluateContract contract
  contract := contract
  planQuality := none
  targetAppId := some candidate.appId
  recoveryCandidate := some candidate
  status := "pending"

/-- After the leases were observed, the rollback is proposed to the operator. -/
def proposeRollback (workflow : Workflow) (batch : Batch) (activationHealth : Dict)
    (state : State) (leases : ToolResult) : State :=
  match recoveryCandidateSummary workflow batch activationHealth leases,
      describeTool workflow.manifest "system_rollback_app" with
  | some candidate, some contract =>
      if (evaluateContract contract).approvalRequired then
        state.persistApprovalRequest workflow (rollbackRequest contract candidate)
      else state
  | _, _ => state

/-- The leases are read before a rollback is proposed, if the policy allows it. -/
def observeLeases (workflow : Workflow) (batch : Batch) (activationHealth : Dict)
    (state : State) : State :=
  match describeTool workflow.manifest "system_query_leases" with
  | none => state
  | some contract =>
      if (evaluateContract contract).allowed then
        let asked := state.execute "system_query_leases"
          [("event_ids", .list (batch.eventIds.map .str)),
            ("reason", .str "rollback_candidate_lease_observation")]
        match batch.leaseAnswer with
        | some leases => proposeRollback workflow batch activationHealth asked leases
        | none => asked
      else state

def observeHealth (workflow : Workflow) (batch : Batch) (state : State) (result : ToolResult) :
    State :=
  let activationHealth := (get result.payload "activation_health").entries
  if result.toolName = "system_activation_health_guard" ∧ result.status = "ok" ∧
      (get activationHealth "classification").isText "rollback_required" then
    observeLeases workflow batch activationHealth state
  else state

def planRequest (plan : RationalPlan) (contract : ToolContract) (quality : PlanQuality) :
    ApprovalRequest where
  toolName := plan.toolName
  reason := "operator_approval_required_before_execution"
  requestedArgs := plan.args
  requiredResources := contract.requiredResources
  cleanupHint := contract.cleanupHint
  policyDecision := evaluateContract contract
  contract := contract
  planQuality := some quality
  targetAppId := none
  recoveryCandidate := none
  status := "pending"

def assess (workflow : Workflow) (plan : RationalPlan) (contract : ToolContract) :
    Option PlanQuality :=
  buildRationalPlanQuality workflow.repr workflow.skill workflow.catalog workflow.manifest plan
    contract

/-- `NoModelCoreWorkflow.run`, from the plan on. -/
def run (workflow : Workflow) (state : State) (batch : Batch) : State :=
  match batch.planning with
  | .plan plan =>
      match describeTool workflow.manifest plan.toolName with
      | none => state
      | some contract =>
          match assess workflow plan contract with
          | none => state
          | some quality =>
              if quality.valid = false then state
              else if (evaluateContract contract).allowed then
                match batch.planAnswer with
                | some result =>
                    observeHealth workflow batch (state.execute plan.toolName plan.args) result
                | none => state.execute plan.toolName plan.args
              else if (evaluateContract contract).approvalRequired then
                state.persistApprovalRequest workflow (planRequest plan contract quality)
              else state
  | .notReached | .invalid _ | .noPlan => state

def after (workflow : Workflow) (state : State) (batches : List Batch) : State :=
  batches.foldl (run workflow) state

/-- Every tool passed to the adapter has a contract that lets it run unasked. -/
def Governed (workflow : Workflow) (state : State) : Prop :=
  ∀ call ∈ state.executed, ∃ contract ∈ workflow.manifest,
    contract.toolName = call.1 ∧ Harmless contract

section Steps

variable {workflow : Workflow} {state : State} {batch : Batch}

@[simp] theorem persistApprovalRequest_executed (request : ApprovalRequest) :
    (state.persistApprovalRequest workflow request).executed = state.executed := rfl

/-- A tool is executed only where the policy allows the contract found for it. -/
theorem execute_governed {toolName : String} {contract : ToolContract} (args : Dict)
    (governed : Governed workflow state)
    (found : describeTool workflow.manifest toolName = some contract)
    (allowed : (evaluateContract contract).allowed = true) :
    Governed workflow (state.execute toolName args) := by
  intro call member
  rcases List.mem_append.mp member with old | new
  · exact governed call old
  · obtain rfl := List.mem_singleton.mp new
    obtain ⟨offered, named⟩ := describeTool_named found
    exact ⟨contract, offered, named, evaluateContract_allowed.mp allowed⟩

theorem proposeRollback_executed (activationHealth : Dict) (leases : ToolResult) :
    (proposeRollback workflow batch activationHealth state leases).executed =
      state.executed := by
  unfold proposeRollback
  split
  · split
    · rfl
    · rfl
  · rfl

theorem observeLeases_governed (activationHealth : Dict) (governed : Governed workflow state) :
    Governed workflow (observeLeases workflow batch activationHealth state) := by
  unfold observeLeases
  split
  · exact governed
  · next contract found =>
    split
    · next allowed =>
      have asked := execute_governed [("event_ids", .list (batch.eventIds.map .str)),
        ("reason", .str "rollback_candidate_lease_observation")] governed found allowed
      cases batch.leaseAnswer with
      | some leases =>
          intro call member
          rw [proposeRollback_executed] at member
          exact asked call member
      | none => exact asked
    · exact governed

theorem observeHealth_governed (result : ToolResult) (governed : Governed workflow state) :
    Governed workflow (observeHealth workflow batch state result) := by
  unfold observeHealth
  dsimp only
  split
  · exact observeLeases_governed _ governed
  · exact governed

/-- One pass keeps what every earlier one left. -/
theorem run_governed (batch : Batch) (governed : Governed workflow state) :
    Governed workflow (run workflow state batch) := by
  unfold run
  cases batch.planning with
  | notReached => exact governed
  | invalid message => exact governed
  | noPlan => exact governed
  | plan plan =>
      dsimp only
      split
      · exact governed
      · next contract found =>
        split
        · exact governed
        · split
          · exact governed
          split
          · next allowed =>
            have executed := execute_governed plan.args governed found allowed
            split
            · exact observeHealth_governed _ executed
            · exact executed
          split
          · exact governed
          · exact governed

theorem after_governed (batches : List Batch) (governed : Governed workflow state) :
    Governed workflow (after workflow state batches) := by
  induction batches generalizing state with
  | nil => exact governed
  | cons batch rest ih => exact ih (run_governed batch governed)

end Steps

/-- The plan passes the checks against the contract found for it. -/
def Accepted (workflow : Workflow) (plan : RationalPlan) (contract : ToolContract) : Prop :=
  describeTool workflow.manifest plan.toolName = some contract ∧
    ∃ quality, assess workflow plan contract = some quality ∧ quality.valid = true

/-- There is no plan, or it passes no checks, or the policy neither allows its tool nor lets
an operator approve it. -/
def Refused (workflow : Workflow) : Planning → Prop
  | .notReached | .invalid _ | .noPlan => True
  | .plan plan => ∀ contract, Accepted workflow plan contract →
      contract.approvalRequired = false ∧ contract.sideEffectLevel ∉ allowedLevels

section Outcomes

variable {workflow : Workflow} {state : State} {batch : Batch} {plan : RationalPlan}
  {contract : ToolContract}

/-- A plan that needs an approval leaves its request and nothing else. -/
theorem run_asks (planned : batch.planning = .plan plan)
    (accepted : Accepted workflow plan contract) (required : contract.approvalRequired = true) :
    ∃ quality, run workflow state batch =
      state.persistApprovalRequest workflow (planRequest plan contract quality) := by
  obtain ⟨found, quality, assessed, valid⟩ := accepted
  have forbidden : ¬ (evaluateContract contract).allowed = true := by
    intro allowed
    have harmless := evaluateContract_allowed.mp allowed
    rw [harmless.1] at required
    cases required
  have asked : (evaluateContract contract).approvalRequired = true :=
    (evaluateContract_approvalRequired contract).trans required
  refine ⟨quality, ?_⟩
  simp only [run, planned, found, assessed, valid, forbidden, asked, Bool.true_eq_false,
    ↓reduceIte, Bool.false_eq_true]

theorem run_refuses (refused : Refused workflow batch.planning) :
    run workflow state batch = state := by
  unfold run
  split
  · next plan planned =>
    rw [planned] at refused
    split
    · rfl
    · next contract found =>
      split
      · rfl
      · next quality assessed =>
        split
        · rfl
        · next valid =>
          have accepted : Accepted workflow plan contract :=
            ⟨found, quality, assessed, by simpa using valid⟩
          obtain ⟨unasked, level⟩ := refused contract accepted
          rw [if_neg (fun allowed => level (evaluateContract_allowed.mp allowed).2),
            evaluateContract_approvalRequired, unasked]
          rfl
  · rfl
  · rfl
  · rfl

end Outcomes

/-- Over any sequence of batches a plan executes only what needs no approval and changes
nothing; one that needs an approval leaves exactly its request, a refused one nothing. -/
theorem plans_governed (workflow : Workflow) (requests : List (String × ApprovalRequest))
    (batches : List Batch) (batch : Batch) :
    let reached := after workflow ⟨[], requests⟩ batches
    let next := run workflow reached batch
    (∀ call ∈ next.executed, ∃ contract ∈ workflow.manifest,
      contract.toolName = call.1 ∧ Harmless contract) ∧
    (∀ plan contract, batch.planning = .plan plan → Accepted workflow plan contract →
      contract.approvalRequired = true →
        next.executed = reached.executed ∧
        ∃ id request, next.requests = reached.requests ++ [(id, request)] ∧
          id ∉ reached.requests.map (·.1) ∧ request.status = "pending" ∧
          request.toolName = plan.toolName ∧ request.requestedArgs = plan.args) ∧
    (Refused workflow batch.planning → next = reached) := by
  intro reached next
  have start : Governed workflow ⟨[], requests⟩ := by
    intro call member
    cases member
  refine ⟨run_governed batch (after_governed batches start), ?_, run_refuses⟩
  intro plan contract planned accepted required
  obtain ⟨quality, asked⟩ := run_asks planned accepted required
  have left : next = reached.persistApprovalRequest workflow (planRequest plan contract quality) :=
    asked
  constructor
  · rw [left, persistApprovalRequest_executed]
  · refine ⟨_, planRequest plan contract quality, ?_, workflow.ids.fresh _, rfl, rfl, rfl⟩
    rw [left, persistApprovalRequest_requests]

/-- The contract of `system_restart_app`. -/
def restartContract : ToolContract where
  toolName := "system_restart_app"
  description := "Restart a Unit application through the control plane after explicit approval."
  sideEffectLevel := .approvalRequired
  argvTemplate := ["python", "neuro_cli/scripts/invoke_neuro_cli.py", "control", "app-restart",
    "--output", "json"]
  resource := "app control plane"
  requiredArguments := ["--node", "--app"]
  requiredResources := ["app_control_lease"]
  timeoutSeconds := 15
  retryable := false
  approvalRequired := true
  cleanupHint := some "confirm target app identity and active leases before restart"
  outputContract := [("format", .str "json"), ("top_level_ok", .bool true)]

/-- The workflow of the catalog that covers the tool, with the command that names it. -/
def restartCatalog : WorkflowCatalog where
  plans := [("control-app-restart", [("commands", .list [.str
    "python invoke_neuro_cli.py control app-restart --app neuro_unit_app --lease-id lease-1"])])]
  metadataDefaults := [("destructive", .bool false), ("cleanup", .list [])]
  metadata := [("control-app-restart", [("destructive", .bool true),
    ("cleanup", .list [.str "release lease lease-1"])])]

def totalLength : List String → Nat
  | [] => 0
  | id :: rest => id.length + totalLength rest

theorem length_le_total {id : String} {used : List String} (member : id ∈ used) :
    id.length ≤ totalLength used := by
  induction used with
  | nil => cases member
  | cons first rest ih =>
      rcases List.mem_cons.mp member with rfl | later
      · exact Nat.le_add_right _ _
      · exact Nat.le_trans (ih later) (Nat.le_add_left _ _)

def growingIds : IdSource where
  next used := String.ofList (List.replicate (totalLength used + 1) 'a')
  fresh := by
    intro used member
    have bound := length_le_total member
    rw [String.length_ofList, List.length_replicate] at bound
    omega

def restartWorkflow : Workflow where
  manifest := [restartContract]
  skill := ⟨true, true, true⟩
  catalog := restartCatalog
  ids := growingIds
  repr := fun _ => ""

def restartPlan : RationalPlan :=
  ⟨"system_restart_app", [("app_id", .str "neuro_unit_app"), ("app", .str "neuro_unit_app")],
    "app looks stuck"⟩

def restartBatch : Batch := ⟨["evt-1"], [], .plan restartPlan, none, none⟩

/-- A plan to restart an application is accepted, and waits for the operator. -/
theorem restart_waits :
    let next := run restartWorkflow ⟨[], []⟩ restartBatch
    next.executed = [] ∧ ∃ id request, next.requests = [(id, request)] ∧
      request.toolName = "system_restart_app" ∧ request.requestedArgs = restartPlan.args := by
  have governed := (plans_governed restartWorkflow [] [] restartBatch).2.1 restartPlan
    restartContract rfl ⟨rfl, _, rfl, by decide +kernel⟩ rfl
  obtain ⟨nothing, id, request, left, _, _, tool, args⟩ := governed
  exact ⟨nothing, id, request, left, tool, args⟩

end NeuroLink.PlanGovernance
