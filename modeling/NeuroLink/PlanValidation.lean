import NeuroLink.ToolManifest

/-!
The checks a plan has to pass before the policy is asked: the arguments the contract
requires, the rules of the CLI skill, and the workflow catalog.
-/

namespace NeuroLink.PlanValidation

open PyValue ToolManifest

structure SkillDescriptor where
  workflowPlanRequired : Bool
  jsonOutputRequired : Bool
  callbackAuditRequired : Bool

/-- `load_workflow_catalog_definition`. -/
structure WorkflowCatalog where
  plans : List (String × Dict)
  metadataDefaults : Dict
  metadata : List (String × Dict)

structure RationalPlan where
  toolName : String
  args : Dict
  reason : String

/-- `INTERNAL_CORE_ONLY_TOOLS`. -/
def internalCoreOnlyTools : List String := ["system_state_sync", "system_activation_health_guard"]

/-- `TOOL_WORKFLOW_COVERAGE`. -/
def toolWorkflowCoverage : List (String × List String) :=
  [("system_query_device", ["discover-device", "control-health"]),
    ("system_query_apps", ["discover-apps"]),
    ("system_query_leases", ["discover-leases", "control-cleanup"]),
    ("system_capabilities", ["discover-host"]),
    ("system_start_app", ["control-app-start"]),
    ("system_restart_app", ["control-app-restart"]),
    ("system_stop_app", ["llext-lifecycle"]),
    ("system_unload_app", ["llext-lifecycle"]),
    ("system_rollback_app", ["control-rollback"])]

def singleQuote : Char := Char.ofNat 39

def doubleQuote : Char := Char.ofNat 34

def backslash : Char := Char.ofNat 92

/-- Where `shlex.split` stands: between two words, in a word, in a quote, or behind a
backslash in one of these. -/
inductive ShlexState where
  | between
  | word
  | quoted (quote : Char)
  | escaped (inside : Option Char)

def shlexWords (state : ShlexState) (token : List Char) : List Char → Option (List String)
  | [] =>
      match state with
      | .between => some []
      | .word => some [String.ofList token.reverse]
      | .quoted _ | .escaped _ => none
  | char :: rest =>
      match state with
      | .between =>
          if char.isWhitespace then shlexWords .between [] rest
          else if char = backslash then shlexWords (.escaped none) [] rest
          else if char = singleQuote ∨ char = doubleQuote then shlexWords (.quoted char) [] rest
          else shlexWords .word [char] rest
      | .word =>
          if char.isWhitespace then
            (shlexWords .between [] rest).map (String.ofList token.reverse :: ·)
          else if char = singleQuote ∨ char = doubleQuote then
            shlexWords (.quoted char) token rest
          else if char = backslash then shlexWords (.escaped none) token rest
          else shlexWords .word (char :: token) rest
      | .quoted quote =>
          if char = quote then shlexWords .word token rest
          else if char = backslash ∧ quote = doubleQuote then
            shlexWords (.escaped (some quote)) token rest
          else shlexWords (.quoted quote) (char :: token) rest
      | .escaped none => shlexWords .word (char :: token) rest
      | .escaped (some quote) =>
          -- inside a quote the backslash is kept in front of most characters
          if char ≠ backslash ∧ char ≠ quote then
            shlexWords (.quoted quote) (char :: backslash :: token) rest
          else shlexWords (.quoted quote) (char :: token) rest

/-- `shlex.split`. -/
def shlexSplit (text : String) : Option (List String) := shlexWords .between [] text.toList

/-- The arguments without `--output` and the word behind it. -/
def withoutOutput : List String → List String
  | [] => []
  | item :: rest =>
      if item = "--output" then
        match rest with
        | [] => []
        | _ :: later => withoutOutput later
      else item :: withoutOutput rest

/-- `_canonical_contract_command_suffix`. -/
def canonicalContractCommandSuffix (contract : ToolContract) : String :=
  let argv := contract.argvTemplate
  let suffix :=
    match argv.findIdx? (occurs "invoke_neuro_cli.py") with
    | some index => argv.drop (index + 1)
    | none => argv
  strip (" ".intercalate (withoutOutput suffix))

section Catalog

variable (repr : Value → String)

/-- `{**metadata_defaults, **metadata}.get(key)`. -/
def mergedMetadata (catalog : WorkflowCatalog) (workflow key : String) : Value :=
  match ((catalog.metadata.lookup workflow).getD []).lookup key with
  | some value => value
  | none => get catalog.metadataDefaults key

/-- `_workflow_command_mentions_lease`. -/
def workflowMentionsLease (metadata : String → Value) : Bool :=
  ["preconditions", "cleanup"].any fun key =>
    (metadata key).items.any fun item => occurs "lease" (item.text repr).toLower

/-- Whether the canonical command stands in a command of the workflow. Reading the commands
stops at the first that contains it, and a command that cannot be split raises. -/
def commandCovered (canonical : String) : List Value → Option Bool
  | [] => some false
  | command :: rest => do
      let words ← shlexSplit (command.text repr)
      if occurs canonical (" ".intercalate words) then return true
      commandCovered canonical rest

def governed (contract : ToolContract) : Bool :=
  contract.approvalRequired || !contract.requiredResources.isEmpty ||
    !([SideEffectLevel.readOnly, .observeOnly].contains contract.sideEffectLevel)

/-- `valid` of `validate_tool_workflow_catalog_consistency`. -/
def workflowCatalogConsistent (catalog : WorkflowCatalog) (contract : ToolContract) :
    Option Bool :=
  if internalCoreOnlyTools.contains contract.toolName then some true
  else
    let coverage := (toolWorkflowCoverage.lookup contract.toolName).getD []
    let canonical := canonicalContractCommandSuffix contract
    let entriesPresent := !coverage.isEmpty && coverage.all fun name =>
      (catalog.plans.lookup name).isSome && (catalog.metadata.lookup name).isSome
    if !entriesPresent then some false
    else do
      let covered ← coverage.mapM fun name =>
        if canonical = "" then some false
        else commandCovered repr canonical
          (get ((catalog.plans.lookup name).getD []) "commands").items
      let destructiveAligned := coverage.all fun name =>
        (mergedMetadata catalog name "destructive").truthy == governed contract
      let leaseAligned := contract.requiredResources.isEmpty || coverage.all fun name =>
        workflowMentionsLease repr (mergedMetadata catalog name)
      return (covered.any id || canonical = "") && destructiveAligned && leaseAligned

end Catalog

/-- `_required_argument_aliases`. -/
def requiredArgumentAliases (argumentName : String) : List String :=
  let normalizedKey := String.ofList ((argumentName.toList.dropWhile (· == '-')).map
    fun char => if char = '-' then '_' else char)
  [normalizedKey] ++ (if argumentName = "--app-id" then ["app"] else []) ++
    (if argumentName = "--lease-id" then ["lease"] else [])

/-- `value not in (None, "", [])`. -/
def present : Value → Bool
  | .none | .str "" | .list [] => false
  | _ => true

/-- Whether the contract runs the wrapper and asks it for JSON; contracts that only read may
leave the output open. -/
def skillGroundRulesValid (contract : ToolContract) (skill : SkillDescriptor) : Bool :=
  let usesWrapper := contract.argvTemplate.any (occurs "invoke_neuro_cli.py")
  let jsonFlag := (contract.argvTemplate.zip contract.argvTemplate.tail).contains
    ("--output", "json")
  let jsonContract := (get contract.outputContract "format").isText "json" &&
    (get contract.outputContract "top_level_ok").truthy && jsonFlag
  let legacyReadOnly := usesWrapper && contract.outputContract.isEmpty &&
    [SideEffectLevel.readOnly, .observeOnly].contains contract.sideEffectLevel
  let callbackAudit := !skill.callbackAuditRequired || !occurs "callback" contract.toolName ||
    contract.approvalRequired || contract.cleanupHint.getD "" != ""
  usesWrapper && (!skill.jsonOutputRequired || jsonContract || legacyReadOnly) && callbackAudit

/-- The bridge mode `_mcp_descriptor_summary` asks for. -/
def bridgeMode (contract : ToolContract) : String :=
  if contract.approvalRequired || !contract.requiredResources.isEmpty then
    "core_governed_approval_required_proposal"
  else if [SideEffectLevel.readOnly, .observeOnly].contains contract.sideEffectLevel then
    "core_governed_read_only_execution"
  else "read_only_descriptor_only"

/-- `approval_required_tool_proposals_allowed` of the bridge in the mode. -/
def proposalsAllowed (mode : String) : Bool := mode == "core_governed_approval_required_proposal"

/-- `_build_rational_plan_quality`. -/
structure PlanQuality where
  toolName : String
  requiredArgumentCoverage : List (String × Bool)
  missingRequiredArguments : List String
  operatorResolvableMissingArguments : List String
  blockingMissingArguments : List String
  workflowPlanRequired : Bool
  workflowPlanEvidencePresent : Bool
  valid : Bool

/-- The tool the plan names, as the list of available tools has it: the last of the name. -/
def availableTool (manifest : List ToolContract) (toolName : String) : Option ToolContract :=
  manifest.reverse.find? fun tool => tool.toolName == toolName

def availableToolMatches (tool contract : ToolContract) : Bool :=
  tool.requiredResources == contract.requiredResources &&
    tool.approvalRequired == contract.approvalRequired &&
    tool.retryable == contract.retryable &&
    tool.sideEffectLevel == contract.sideEffectLevel

def buildRationalPlanQuality (repr : Value → String) (skill : SkillDescriptor)
    (catalog : WorkflowCatalog) (manifest : List ToolContract) (plan : RationalPlan)
    (contract : ToolContract) : Option PlanQuality := do
  let coverage := contract.requiredArguments.map fun argument =>
    (argument, argument == "--node" ||
      (requiredArgumentAliases argument).any fun key => present (get plan.args key))
  let missing := (coverage.filter fun entry => !entry.2).map (·.1)
  let consistent ← workflowCatalogConsistent repr catalog contract
  let needsResources := !contract.requiredResources.isEmpty
  let resolvable := missing.filter fun argument =>
    contract.approvalRequired && ["--app", "--app-id", "--lease-id"].contains argument
  let blocking := missing.filter fun argument => !resolvable.contains argument
  return {
    toolName := plan.toolName
    requiredArgumentCoverage := coverage
    missingRequiredArguments := missing
    operatorResolvableMissingArguments := resolvable
    blockingMissingArguments := blocking
    workflowPlanRequired := skill.workflowPlanRequired &&
      (contract.approvalRequired || needsResources)
    workflowPlanEvidencePresent := consistent
    valid := blocking.isEmpty &&
      ((availableTool manifest plan.toolName).any fun tool =>
        availableToolMatches tool contract) &&
      (!needsResources || contract.approvalRequired) &&
      (!(contract.approvalRequired || needsResources) || contract.cleanupHint.getD "" != "") &&
      skillGroundRulesValid contract skill && consistent &&
      (!(contract.approvalRequired || needsResources) || proposalsAllowed (bridgeMode contract)) }

end NeuroLink.PlanValidation
