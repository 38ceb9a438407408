import NeuroLink.PyValue

/-!
Contracts of the tools an adapter offers, the policy over them, and what an execution
returns. The rows of an observation are those of the first reply the unit gave.
-/

namespace NeuroLink.ToolManifest

open PyValue

inductive SideEffectLevel where
  | observeOnly
  | readOnly
  | suggestOnly
  | lowRiskExecute
  | approvalRequired
  | destructive
  deriving DecidableEq

structure ToolContract where
  toolName : String
  description : String
  sideEffectLevel : SideEffectLevel
  argvTemplate : List String
  resource : String
  requiredArguments : List String
  requiredResources : List String
  timeoutSeconds : Int
  retryable : Bool
  approvalRequired : Bool
  cleanupHint : Option String
  outputContract : Dict

/-- `describe_tool`: the first contract of the name. -/
def describeTool (manifest : List ToolContract) (toolName : String) : Option ToolContract :=
  manifest.find? fun contract => contract.toolName == toolName

theorem describeTool_named {manifest : List ToolContract} {toolName : String}
    {contract : ToolContract} (found : describeTool manifest toolName = some contract) :
    contract ∈ manifest ∧ contract.toolName = toolName :=
  ⟨List.mem_of_find?_eq_some found, by simpa using List.find?_some found⟩

structure ToolPolicyDecision where
  allowed : Bool
  reason : String
  sideEffectLevel : SideEffectLevel
  approvalRequired : Bool

/-- `ReadOnlyToolPolicy.allowed_levels`. -/
def allowedLevels : List SideEffectLevel := [.observeOnly, .readOnly, .suggestOnly]

/-- `ReadOnlyToolPolicy.evaluate_contract`. -/
def evaluateContract (contract : ToolContract) : ToolPolicyDecision :=
  if contract.approvalRequired then
    ⟨false, "approval_required_tool_blocked_in_no_model_slice", contract.sideEffectLevel, true⟩
  else if !allowedLevels.contains contract.sideEffectLevel then
    ⟨false, "side_effect_level_not_allowed_in_no_model_slice", contract.sideEffectLevel, false⟩
  else ⟨true, "read_only_policy_allows_tool", contract.sideEffectLevel, false⟩

def Harmless (contract : ToolContract) : Prop :=
  contract.approvalRequired = false ∧ contract.sideEffectLevel ∈ allowedLevels

theorem evaluateContract_allowed {contract : ToolContract} :
    (evaluateContract contract).allowed = true ↔ Harmless contract := by
  unfold evaluateContract Harmless
  split
  · next required => simp [required]
  split
  · next other level => simpa [other] using level
  · next other level => simpa [other] using level

theorem evaluateContract_approvalRequired (contract : ToolContract) :
    (evaluateContract contract).approvalRequired = contract.approvalRequired := by
  unfold evaluateContract
  split
  · next required => exact required.symm
  split
  · next other _ => simpa using other
  · next other _ => simpa using other

/-- `ToolExecutionResult`, without the id of the row it is stored in. -/
structure ToolResult where
  toolName : String
  status : String
  payload : Dict

/-- The rows under the key in the first reply of an observation. There is none if the first
reply is no dictionary, which raises. -/
def observedRows (key : String) (observation : ToolResult) : Option (List Dict) :=
  if observation.status ≠ "ok" then some []
  else
    match get (get observation.payload "result").entries "replies" with
    | .list (.dict first :: _) =>
        some (dicts (get (get first "payload").entries key).items)
    | .list (_ :: _) => none
    | _ => some []

theorem observedRows_mem {key : String} {observation : ToolResult} {rows : List Dict}
    (observed : observedRows key observation = some rows) {row : Dict} (member : row ∈ rows) :
    ∃ reply ∈ dicts (get (get observation.payload "result").entries "replies").items,
      ∃ values, get (get reply "payload").entries key = .list values ∧ row ∈ dicts values := by
  unfold observedRows at observed
  split at observed
  · cases observed
    cases member
  split at observed
  · next first rest replies =>
    cases observed
    rw [replies]
    refine ⟨first, List.mem_cons_self, ?_⟩
    cases found : get (get first "payload").entries key with
    | list values =>
        rw [found] at member
        exact ⟨values, rfl, member⟩
    | _ =>
        rw [found] at member
        cases member
  · cases observed
  · cases observed
    cases member

/-- `_extract_observed_lease_rows`. -/
def observedLeaseRows : ToolResult → Option (List Dict) := observedRows "leases"

/-- `_extract_observed_app_rows`. -/
def observedAppRows : ToolResult → Option (List Dict) := observedRows "apps"

section Leases

variable (repr : Value → String)

/-- `str(row.get(key) or "")`. -/
def fieldText (row : Dict) (key : String) : String :=
  ((get row key).orElse (.str "")).text repr

def leaseIdsOn (resources : List String) (leases : List Dict) : List String :=
  leases.filterMap fun lease =>
    if !resources.contains (fieldText repr lease "resource") then none
    else if fieldText repr lease "lease_id" = "" then none
    else some (fieldText repr lease "lease_id")

/-- `_extract_matching_lease_ids_for_resource`. -/
def matchingLeaseIdsForResource (observation : ToolResult) (resource : String) :
    Option (List String) :=
  if resource = "" then some []
  else (observedLeaseRows observation).map (leaseIdsOn repr [resource])

end Leases

end NeuroLink.ToolManifest
