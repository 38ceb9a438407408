import NeuroLink.ToolManifest

/-!
From an approved request to the command lines the adapter runs. The gate works out the target
application, the resources and the leases from the request and an observation; the arguments of
the request come first wherever they are there at all, and the adapter fills in what is missing.
-/

namespace NeuroLink.ApprovedCommand

open PyValue ToolManifest

/-- `cast(dict, value or {})` of which a field is read; any other true value raises. -/
def asDict (value : Value) : Option Dict :=
  if value.truthy then
    match value with
    | .dict entries => some entries
    | _ => none
  else some []

/-- `value in (None, "")`. -/
def blank : Value → Bool
  | .none => true
  | value => value.isText ""

section Gate

variable (repr : Value → String)

/-- `_extract_observed_resource_names`: the first name that is a text counts. -/
def observedResourceNames (leases : List Dict) : List String :=
  (leases.filterMap fun lease =>
    ["resource", "resource_name", "lease_name", "name"].findSome? fun key =>
      match get lease key with
      | .str name => if name = "" then none else some name
      | _ => none).eraseDups.mergeSort

def observedAppId (row : Dict) : String :=
  (firstTrue [get row "app_id", get row "name", get row "app"] (.str "")).text repr

def singleAppId : List Dict → String
  | [row] => observedAppId repr row
  | _ => ""

/-- The application of a recovery candidate, which is looked at only if nothing before it is
true. -/
def recoveryAppId (requestPayload : Dict) (given : Value) : Option Value :=
  if given.truthy then some .none
  else (asDict (get requestPayload "recovery_candidate_summary")).map (get · "app_id")

/-- `target_app_id`. -/
def targetAppId (requestPayload requestedArgs : Dict) (observedApps : List Dict) :
    Option String := do
  let given := firstTrue [get requestedArgs "app_id", get requestedArgs "app"]
    (get requestPayload "target_app_id")
  let recovery ← recoveryAppId requestPayload given
  let target := (firstTrue [given, recovery] (.str "")).text repr
  return if target ≠ "" then target else singleAppId repr observedApps

def resolveResource (targetAppId resource : String) : Option String :=
  if resource = "app_control_lease" then
    if targetAppId ≠ "" then some ("app/" ++ targetAppId ++ "/control") else none
  else if resource = "update_rollback_lease" then
    if targetAppId ≠ "" then some ("update/app/" ++ targetAppId ++ "/rollback") else none
  else some resource

/-- What `_build_operator_requirements` finds, without the observations it passes on. -/
structure OperatorRequirements where
  resource : String
  requiredResources : List String
  resolvedRequiredResources : List String
  unresolvedRequiredResources : List String
  observedResources : List String
  missingRequiredResources : List String
  workflowPlanRequired : Bool
  workflowPlanEvidencePresent : Bool
  targetAppId : String
  matchingLeaseIds : List String

/-- `_build_operator_requirements`; it raises if one of the parts of the payload or the first
reply of an observation is no dictionary. -/
def operatorRequirements (requestPayload : Dict)
    (leaseObservation appsObservation : ToolResult) : Option OperatorRequirements := do
  let requiredResources := (get requestPayload "required_resources").items.map (·.text repr)
  let contract ← asDict (get requestPayload "contract")
  let planQuality ← asDict (get requestPayload "plan_quality")
  let skillRequirements ← asDict (firstTrue [get planQuality "skill_requirements"]
    (get requestPayload "skill_requirements"))
  let observedLeases ← observedLeaseRows leaseObservation
  let observedApps ← observedAppRows appsObservation
  let requestedArgs ← asDict (get requestPayload "requested_args")
  let targetAppId ← targetAppId repr requestPayload requestedArgs observedApps
  let observedResources := observedResourceNames observedLeases
  let resolved := requiredResources.filterMap (resolveResource targetAppId)
  let unresolved := requiredResources.filter fun resource =>
    (resolveResource targetAppId resource).isNone
  return {
    resource := (firstTrue [get contract "resource", get requestPayload "tool_name"]
      (.str "")).text repr
    requiredResources
    resolvedRequiredResources := resolved
    unresolvedRequiredResources := unresolved
    observedResources
    missingRequiredResources :=
      (resolved.filter fun resource => !observedResources.contains resource) ++ unresolved
    workflowPlanRequired := (get skillRequirements "workflow_plan_required").truthy
    workflowPlanEvidencePresent :=
      (get skillRequirements "workflow_plan_evidence_present").truthy
    targetAppId
    matchingLeaseIds := leaseIdsOn repr resolved observedLeases }

/-- The arguments `apply_approval_decision` executes the tool with. -/
def approvedArgs (requirements : OperatorRequirements) (requestedArgs : Dict) : Dict :=
  let args := if requirements.targetAppId ≠ "" then
      setdefault (setdefault requestedArgs "app_id" (.str requirements.targetAppId)) "app"
        (.str requirements.targetAppId)
    else requestedArgs
  match requirements.matchingLeaseIds with
  | first :: _ => if first ≠ "" then setdefault args "lease_id" (.str first) else args
  | [] => args

end Gate

section Adapter

variable (repr : Value → String)

/-- `_extract_apps_payload` and `_extract_lease_rows`: the rows of the first reply that has a
list of them. -/
def replyRows (key : String) (payload : Dict) : List Dict :=
  ((dicts (get payload "replies").items).findSome? fun reply =>
    match get (get reply "payload").entries key with
    | .list rows => some (dicts rows)
    | _ => none).getD []

/-- What the queries of the adapter print, where that can be read. -/
structure Discovery where
  apps : Option Dict
  leases : Option Dict

/-- The application the adapter finds by itself. -/
def Discovery.appId (found : Discovery) : String :=
  (found.apps.map fun payload => singleAppId repr (replyRows "apps" payload)).getD ""

def Discovery.leaseId (found : Discovery) (resource : String) : String :=
  ((found.leases.map fun payload =>
    leaseIdsOn repr [resource] (replyRows "leases" payload)).getD []).headD ""

/-- The tools that need an approval. -/
inductive ControlTool where
  | rollbackApp
  | restartApp
  | startApp
  | stopApp
  | unloadApp
  deriving DecidableEq

/-- The resource the adapter looks for a lease on. -/
def ControlTool.resource (tool : ControlTool) (appId : String) : String :=
  if tool = .rollbackApp then "update/app/" ++ appId ++ "/rollback"
  else "app/" ++ appId ++ "/control"

def fillArgs (args : Dict) (appId leaseId : String) : Option Dict :=
  if appId = "" ∨ leaseId = "" then none
  else some (setdefault (setdefault (setdefault args "app_id" (.str appId)) "app" (.str appId))
    "lease_id" (.str leaseId))

/-- `_resolve_control_app_args` and `_resolve_rollback_args`. -/
def resolveArgs (tool : ControlTool) (args : Dict) (found : Discovery) : Option Dict :=
  let given := (firstTrue [get args "app_id", get args "app"] (.str "")).text repr
  let appId := if given ≠ "" then given else found.appId repr
  let asked := fieldText repr args "lease_id"
  fillArgs args appId
    (if asked ≠ "" then asked else found.leaseId repr (tool.resource appId))

/-- `candidate_keys` of an argument. -/
def candidateKeys : String → List String
  | "--app-id" => ["app_id", "app", "app_id"]
  | "--lease-id" => ["lease_id", "lease_id"]
  | "--start-args" => ["start_args", "start_args"]
  | _ => []

/-- The first candidate that is neither `None` nor empty. -/
def argumentValue (args : Dict) (argument : String) : Option String :=
  ((candidateKeys argument).find? fun key => !blank (get args key)).map fun key =>
    (get args key).text repr

/-- A command of the CLI: its words, and the arguments after them with their values. -/
structure Command where
  words : List String
  arguments : List (String × String)

/-- The arguments the contracts of these tools require, without `--node`. -/
def requiredArguments : List String := ["--app-id", "--lease-id"]

/-- `_build_contract_command_with_args`, without the base command. -/
def buildCommand (words : List String) (args : Dict) : Command :=
  let required := requiredArguments.filterMap fun argument =>
    (argumentValue repr args argument).map fun value => (argument, value)
  let startArgs := (argumentValue repr args "--start-args").toList.filterMap fun value =>
    if required.any fun argument => argument.2 = "--start-args" then none
    else some ("--start-args", value)
  ⟨words, required ++ startArgs⟩

/-- The commands a tool runs; a restart is a stop and, if that succeeds, a start. -/
def ControlTool.commands (tool : ControlTool) (args : Dict) (stopSucceeds : Bool) :
    List Command :=
  match tool with
  | .rollbackApp => [buildCommand repr ["deploy", "rollback"] args]
  | .restartApp =>
      buildCommand repr ["app", "stop"] args ::
        if stopSucceeds then [buildCommand repr ["app", "start"] args] else []
  | .startApp => [buildCommand repr ["app", "start"] args]
  | .stopApp => [buildCommand repr ["app", "stop"] args]
  | .unloadApp => [buildCommand repr ["app", "unload"] args]

end Adapter

/-- A pending request for one of the tools, what the gate observes when it is approved, and
what the adapter finds afterwards. -/
structure Approval where
  tool : ControlTool
  requestPayload : Dict
  leaseObservation : ToolResult
  appsObservation : ToolResult
  found : Discovery
  stopSucceeds : Bool

section Approvals

variable (repr : Value → String)

def Approval.requirements (approval : Approval) : Option OperatorRequirements :=
  operatorRequirements repr approval.requestPayload approval.leaseObservation
    approval.appsObservation

/-- `requested_args`. -/
def Approval.requestedArgs (approval : Approval) : Dict :=
  (asDict (get approval.requestPayload "requested_args")).getD []

/-- The commands that `apply_approval_decision` makes the adapter run for the tool. -/
def Approval.commands (approval : Approval) : List Command :=
  match approval.requirements repr with
  | none => []
  | some requirements =>
      if !requirements.missingRequiredResources.isEmpty then []
      else
        match resolveArgs repr approval.tool
            (approvedArgs requirements approval.requestedArgs) approval.found with
        | none => []
        | some args => approval.tool.commands repr args approval.stopSucceeds

end Approvals

/-- Every required resource was observed, the command names the target, and its lease was
observed on one of the resources. -/
structure ActsOnChecked (requirements : OperatorRequirements) (command : Command) : Prop where
  held : ∀ resource ∈ requirements.resolvedRequiredResources,
    resource ∈ requirements.observedResources
  resolved : requirements.unresolvedRequiredResources = []
  appId : command.arguments.lookup "--app-id" = some requirements.targetAppId
  leaseId : ∃ leaseId ∈ requirements.matchingLeaseIds,
    command.arguments.lookup "--lease-id" = some leaseId

section Gate

variable {repr : Value → String} {requestPayload : Dict} {requirements : OperatorRequirements}
  {leaseObservation appsObservation : ToolResult}

theorem leaseIdsOn_ne_empty {resources : List String} {leases : List Dict} :
    ∀ leaseId ∈ leaseIdsOn repr resources leases, leaseId ≠ "" := by
  intro leaseId member
  obtain ⟨lease, _, read⟩ := List.mem_filterMap.mp member
  split at read
  · cases read
  · split at read
    · cases read
    · next given => exact Option.some.inj read ▸ given

theorem operatorRequirements_facts
    (found : operatorRequirements repr requestPayload leaseObservation appsObservation =
      some requirements) :
    requirements.missingRequiredResources =
        (requirements.resolvedRequiredResources.filter fun resource =>
          !requirements.observedResources.contains resource) ++
            requirements.unresolvedRequiredResources ∧
      ∀ leaseId ∈ requirements.matchingLeaseIds, leaseId ≠ "" := by
  simp only [operatorRequirements, Option.bind_eq_bind, Option.bind_eq_some_iff] at found
  obtain ⟨_, _, _, _, _, _, _, _, _, _, _, _, _, _, same⟩ := found
  cases same
  exact ⟨rfl, leaseIdsOn_ne_empty⟩

end Gate

section Arguments

variable {repr : Value → String} {requirements : OperatorRequirements} {args : Dict}

/-- What the executed arguments hold: the request's own, else what the gate found, else what
the adapter found. -/
structure Filled (requirements : OperatorRequirements) (requestedArgs args : Dict)
    (appId leaseId : String) : Prop where
  appNamed : appId ≠ ""
  appTarget : requirements.targetAppId ≠ "" → appId = requirements.targetAppId
  leaseNamed : leaseId ≠ ""
  leaseMatching : requirements.matchingLeaseIds ≠ [] → leaseId ∈ requirements.matchingLeaseIds
  appIdAt : args.lookup "app_id" = some ((requestedArgs.lookup "app_id").getD (.str appId))
  appAt : args.lookup "app" = some ((requestedArgs.lookup "app").getD (.str appId))
  leaseIdAt : args.lookup "lease_id" =
    some ((requestedArgs.lookup "lease_id").getD (.str leaseId))

theorem approvedArgs_app {key : String} (either : key = "app_id" ∨ key = "app") :
    (approvedArgs requirements args).lookup key =
      if requirements.targetAppId ≠ "" then
        some ((args.lookup key).getD (.str requirements.targetAppId))
      else args.lookup key := by
  have other : key ≠ "lease_id" := by
    rcases either with rfl | rfl <;> decide
  have named : (if requirements.targetAppId ≠ "" then
      setdefault (setdefault args "app_id" (.str requirements.targetAppId)) "app"
        (.str requirements.targetAppId) else args).lookup key =
      if requirements.targetAppId ≠ "" then
        some ((args.lookup key).getD (.str requirements.targetAppId))
      else args.lookup key := by
    split
    · rcases either with rfl | rfl
      · rw [lookup_setdefault_ne (by decide), lookup_setdefault_self]
      · rw [lookup_setdefault_self, lookup_setdefault_ne (by decide)]
    · rfl
  unfold approvedArgs
  simp only
  split
  · split
    · rw [lookup_setdefault_ne other, named]
    · exact named
  · exact named

theorem approvedArgs_lease (named : ∀ leaseId ∈ requirements.matchingLeaseIds, leaseId ≠ "") :
    (approvedArgs requirements args).lookup "lease_id" =
      match requirements.matchingLeaseIds with
      | first :: _ => some ((args.lookup "lease_id").getD (.str first))
      | [] => args.lookup "lease_id" := by
  have kept : (if requirements.targetAppId ≠ "" then
      setdefault (setdefault args "app_id" (.str requirements.targetAppId)) "app"
        (.str requirements.targetAppId) else args).lookup "lease_id" =
      args.lookup "lease_id" := by
    split
    · rw [lookup_setdefault_ne (by decide), lookup_setdefault_ne (by decide)]
    · rfl
  unfold approvedArgs
  simp only
  split
  · next first rest matching =>
    rw [if_pos (named first (matching ▸ List.mem_cons_self)), lookup_setdefault_self, kept]
  · exact kept

/-- The adapter only runs a command with an application and a lease of some name. -/
theorem fillArgs_lookup {appId leaseId : String} {resolved : Dict}
    (resolves : fillArgs args appId leaseId = some resolved) :
    appId ≠ "" ∧ leaseId ≠ "" ∧
      resolved.lookup "app_id" = some ((args.lookup "app_id").getD (.str appId)) ∧
      resolved.lookup "app" = some ((args.lookup "app").getD (.str appId)) ∧
      resolved.lookup "lease_id" = some ((args.lookup "lease_id").getD (.str leaseId)) := by
  unfold fillArgs at resolves
  split at resolves
  · cases resolves
  · next named =>
    cases resolves
    refine ⟨fun empty => named (.inl empty), fun empty => named (.inr empty), ?_, ?_, ?_⟩
    · rw [lookup_setdefault_ne (by decide), lookup_setdefault_ne (by decide),
        lookup_setdefault_self]
    · rw [lookup_setdefault_ne (by decide), lookup_setdefault_self,
        lookup_setdefault_ne (by decide)]
    · rw [lookup_setdefault_self, lookup_setdefault_ne (by decide),
        lookup_setdefault_ne (by decide)]

theorem resolveArgs_filled {tool : ControlTool} {found : Discovery} {resolved : Dict}
    (named : ∀ leaseId ∈ requirements.matchingLeaseIds, leaseId ≠ "")
    (resolves : resolveArgs repr tool (approvedArgs requirements args) found = some resolved) :
    ∃ appId leaseId, Filled requirements args resolved appId leaseId := by
  obtain ⟨ownApp, ownLease, resolves⟩ : ∃ appId leaseId,
      fillArgs (approvedArgs requirements args) appId leaseId = some resolved := ⟨_, _, resolves⟩
  obtain ⟨appNamed, leaseNamed, appIdAt, appAt, leaseIdAt⟩ := fillArgs_lookup resolves
  rw [approvedArgs_app (.inl rfl)] at appIdAt
  rw [approvedArgs_app (.inr rfl)] at appAt
  rw [approvedArgs_lease named] at leaseIdAt
  let appId := if requirements.targetAppId ≠ "" then requirements.targetAppId else ownApp
  let leaseId := requirements.matchingLeaseIds.headD ownLease
  refine ⟨appId, leaseId, ?_, ?_, ?_, ?_, ?_, ?_, ?_⟩
  · by_cases target : requirements.targetAppId = ""
    · simpa [appId, target] using appNamed
    · simp [appId, target]
  · intro target
    exact if_pos target
  · cases matching : requirements.matchingLeaseIds with
    | nil => simpa [leaseId, matching] using leaseNamed
    | cons first rest =>
        simpa [leaseId, matching] using named first (matching ▸ List.mem_cons_self)
  · intro matching
    cases shape : requirements.matchingLeaseIds with
    | nil => exact absurd shape matching
    | cons first rest => simp [leaseId, shape]
  · rw [appIdAt]
    by_cases target : requirements.targetAppId = ""
    · simp [appId, target]
    · simp [appId, target]
  · rw [appAt]
    by_cases target : requirements.targetAppId = ""
    · simp [appId, target]
    · simp [appId, target]
  · rw [leaseIdAt]
    cases matching : requirements.matchingLeaseIds with
    | nil => simp [leaseId, matching]
    | cons first rest => simp [leaseId, matching]

end Arguments

section Commands

variable (repr : Value → String)

/-- The request names the target, or leaves it to the gate: a key that is there and blank does
not, nor does a false value that is not blank. -/
def AppGiven (requestedArgs : Dict) (targetAppId : String) : Prop :=
  match requestedArgs.lookup "app_id" with
  | none => targetAppId ≠ ""
  | some appId =>
      if blank appId then
        match requestedArgs.lookup "app" with
        | none => targetAppId ≠ ""
        | some app => blank app = false ∧ app.text repr = targetAppId
      else appId.text repr = targetAppId

/-- The request names one of the leases the gate found, or leaves the choice to the gate, which
found one. -/
def LeaseGiven (requestedArgs : Dict) (matchingLeaseIds : List String) : Prop :=
  match requestedArgs.lookup "lease_id" with
  | none => matchingLeaseIds ≠ []
  | some leaseId => blank leaseId = false ∧ leaseId.text repr ∈ matchingLeaseIds

variable {repr} {requirements : OperatorRequirements} {requestedArgs args : Dict}
  {appId leaseId : String}

theorem blank_str {text : String} (named : text ≠ "") : blank (.str text) = false := by
  simpa [blank, Value.isText] using named

theorem argumentValue_app : argumentValue repr args "--app-id" =
    if blank (get args "app_id") then
      if blank (get args "app") then none else some ((get args "app").text repr)
    else some ((get args "app_id").text repr) := by
  cases first : blank (get args "app_id") <;> cases second : blank (get args "app") <;>
    simp [argumentValue, candidateKeys, first, second]

theorem argumentValue_lease : argumentValue repr args "--lease-id" =
    if blank (get args "lease_id") then none else some ((get args "lease_id").text repr) := by
  cases given : blank (get args "lease_id") <;> simp [argumentValue, candidateKeys, given]

theorem get_of_lookup {key : String} {value : Value} (found : args.lookup key = some value) :
    get args key = value := by
  rw [PyValue.get, found]
  rfl

theorem argumentValue_appId (filled : Filled requirements requestedArgs args appId leaseId) :
    argumentValue repr args "--app-id" = some requirements.targetAppId ↔
      AppGiven repr requestedArgs requirements.targetAppId := by
  have untold : blank (.str appId) = false := blank_str filled.appNamed
  -- what the adapter fills in is the target exactly if the gate has one
  have own : appId = requirements.targetAppId ↔ requirements.targetAppId ≠ "" :=
    ⟨fun same => same ▸ filled.appNamed, filled.appTarget⟩
  rw [argumentValue_app, get_of_lookup filled.appIdAt, get_of_lookup filled.appAt, AppGiven]
  cases requestedArgs.lookup "app_id" with
  | none => simp [untold, own]
  | some given =>
      cases here : blank given with
      | false => simp [here]
      | true =>
          cases requestedArgs.lookup "app" with
          | none => simp [here, untold, own]
          | some other =>
              cases there : blank other with
              | false => simp [here, there]
              | true => simp [here, there]

theorem argumentValue_leaseId (filled : Filled requirements requestedArgs args appId leaseId) :
    (∃ held ∈ requirements.matchingLeaseIds,
        argumentValue repr args "--lease-id" = some held) ↔
      LeaseGiven repr requestedArgs requirements.matchingLeaseIds := by
  have untold : blank (.str leaseId) = false := blank_str filled.leaseNamed
  have own : leaseId ∈ requirements.matchingLeaseIds ↔ requirements.matchingLeaseIds ≠ [] :=
    ⟨List.ne_nil_of_mem, filled.leaseMatching⟩
  rw [argumentValue_lease, get_of_lookup filled.leaseIdAt, LeaseGiven]
  cases requestedArgs.lookup "lease_id" with
  | none => simp [untold, own]
  | some given =>
      cases here : blank given with
      | false => simp [here]
      | true => simp [here]

theorem buildCommand_lookup {words : List String} {argument : String}
    (required : argument ∈ requiredArguments) :
    (buildCommand repr words args).arguments.lookup argument =
      argumentValue repr args argument := by
  have optional : ∀ {entries : List (String × String)} {value : Option String}
      {dropped : String → Bool}, (entries ++ value.toList.filterMap fun value =>
        if dropped value then none else some ("--start-args", value)).lookup argument =
          entries.lookup argument := by
    intro entries value dropped
    have absent : (value.toList.filterMap fun value =>
        if dropped value then none else some ("--start-args", value)).lookup argument = none := by
      rw [List.lookup_eq_none_iff]
      intro entry member
      obtain ⟨_, _, shown⟩ := List.mem_filterMap.mp member
      split at shown
      · cases shown
      · cases shown
        simp only [requiredArguments, List.mem_cons, List.not_mem_nil, or_false] at required
        rcases required with rfl | rfl <;> simp
    rw [List.lookup_append, absent, Option.or_none]
  unfold buildCommand
  simp only
  rw [optional]
  simp only [requiredArguments, List.mem_cons, List.not_mem_nil, or_false] at required
  cases app : argumentValue repr args "--app-id" <;>
    cases lease : argumentValue repr args "--lease-id" <;>
    rcases required with rfl | rfl <;>
    simp [requiredArguments, app, lease, List.lookup_cons]

theorem commands_mem {tool : ControlTool} {stopSucceeds : Bool} {command : Command}
    (member : command ∈ tool.commands repr args stopSucceeds) :
    ∃ words, command = buildCommand repr words args := by
  cases tool with
  | restartApp =>
      rcases List.mem_cons.mp member with rfl | member
      · exact ⟨_, rfl⟩
      · split at member
        · exact ⟨_, List.mem_singleton.mp member⟩
        · cases member
  | _ => exact ⟨_, List.mem_singleton.mp member⟩

/-- A command is only run after the gate found every resource, with arguments the adapter
filled in. -/
theorem commands_filled {approval : Approval} {command : Command}
    (found : approval.requirements repr = some requirements)
    (ran : command ∈ approval.commands repr) :
    requirements.missingRequiredResources = [] ∧
      ∃ words args appId leaseId, command = buildCommand repr words args ∧
        Filled requirements approval.requestedArgs args appId leaseId := by
  unfold Approval.commands at ran
  rw [found] at ran
  simp only at ran
  split at ran
  · cases ran
  · next gate =>
    split at ran
    · cases ran
    · next args resolves =>
      obtain ⟨words, rfl⟩ := commands_mem ran
      obtain ⟨appId, leaseId, filled⟩ :=
        resolveArgs_filled (operatorRequirements_facts found).2 resolves
      exact ⟨by simpa using gate, words, args, appId, leaseId, rfl, filled⟩

/-- A command acts on what the gate checked exactly when the request does not hide the target
or the lease behind a blank or a different argument. -/
theorem approved_command_acts {approval : Approval} {command : Command}
    (found : approval.requirements repr = some requirements)
    (ran : command ∈ approval.commands repr) :
    ActsOnChecked requirements command ↔
      AppGiven repr approval.requestedArgs requirements.targetAppId ∧
        LeaseGiven repr approval.requestedArgs requirements.matchingLeaseIds := by
  obtain ⟨nothing, words, args, appId, leaseId, rfl, filled⟩ := commands_filled found ran
  have missing := (operatorRequirements_facts found).1
  rw [nothing] at missing
  obtain ⟨observed, resolved⟩ := List.append_eq_nil_iff.mp missing.symm
  have held : ∀ resource ∈ requirements.resolvedRequiredResources,
      resource ∈ requirements.observedResources := by
    intro resource member
    simpa using List.filter_eq_nil_iff.mp observed resource member
  have app := @buildCommand_lookup repr args words "--app-id" (by decide)
  have lease := @buildCommand_lookup repr args words "--lease-id" (by decide)
  rw [← argumentValue_appId filled, ← argumentValue_leaseId filled, ← app, ← lease]
  exact ⟨fun acts => ⟨acts.appId, acts.leaseId⟩,
    fun ⟨appId, leaseId⟩ => ⟨held, resolved, appId, leaseId⟩⟩

def answered (key : String) (rows : List Dict) : ToolResult where
  toolName := "system_query_" ++ key
  status := "ok"
  payload := [("result", .dict [("ok", .bool true), ("replies", .list [.dict
    [("ok", .bool true), ("payload", .dict [("status", .str "ok"),
      (key, .list (rows.map .dict))])]])])]

def rollbackApproval (requestedArgs : Dict) : Approval where
  tool := .rollbackApp
  requestPayload := [("tool_name", .str "system_rollback_app"),
    ("required_resources", .list [.str "update_rollback_lease"]),
    ("requested_args", .dict requestedArgs)]
  leaseObservation := answered "leases"
    [[("resource", .str "update/app/neuro_demo_app/rollback"), ("lease_id", .str "lease-new")]]
  appsObservation := answered "apps" [[("app_id", .str "neuro_demo_app")]]
  found := ⟨none, none⟩
  stopSucceeds := true

/-- The request names a lease that has been replaced since. -/
def staleApproval : Approval :=
  rollbackApproval [("app_id", .str "neuro_demo_app"), ("lease_id", .str "lease-old")]

/-- The gate finds the new lease, and the command is run with the old one. -/
theorem stale_lease_used : ∃ requirements command,
    staleApproval.requirements (fun _ => "") = some requirements ∧
      command ∈ staleApproval.commands (fun _ => "") ∧
      ¬ ActsOnChecked requirements command := by
  have leases : (staleApproval.requirements fun _ => "").map (·.matchingLeaseIds) =
      some ["lease-new"] := by decide +kernel
  have lines : (staleApproval.commands fun _ => "").map (·.arguments) =
      [[("--app-id", "neuro_demo_app"), ("--lease-id", "lease-old")]] := by decide +kernel
  obtain ⟨requirements, found, matching⟩ := Option.map_eq_some_iff.mp leases
  obtain ⟨command, _, shape, line, _⟩ := List.map_eq_cons_iff.mp lines
  refine ⟨requirements, command, found, shape ▸ List.mem_cons_self, fun acts => ?_⟩
  obtain ⟨leaseId, held, used⟩ := acts.leaseId
  rw [matching, List.mem_singleton] at held
  rw [line, held] at used
  exact absurd used (by decide)

/-- A request that leaves the lease to the gate. -/
def openApproval : Approval := rollbackApproval [("app_id", .str "neuro_demo_app")]

theorem open_approval_acts : ∃ requirements command,
    openApproval.requirements (fun _ => "") = some requirements ∧
      command ∈ openApproval.commands (fun _ => "") ∧ ActsOnChecked requirements command := by
  have facts : (openApproval.requirements fun _ => "").map (fun requirements =>
      (requirements.targetAppId, requirements.matchingLeaseIds)) =
      some ("neuro_demo_app", ["lease-new"]) := by decide +kernel
  have lines : (openApproval.commands fun _ => "").map (·.arguments) =
      [[("--app-id", "neuro_demo_app"), ("--lease-id", "lease-new")]] := by decide +kernel
  obtain ⟨requirements, found, same⟩ := Option.map_eq_some_iff.mp facts
  obtain ⟨target, matching⟩ := Prod.mk.inj same
  obtain ⟨command, _, shape, _, _⟩ := List.map_eq_cons_iff.mp lines
  have ran : command ∈ openApproval.commands fun _ => "" := shape ▸ List.mem_cons_self
  refine ⟨requirements, command, found, ran, (approved_command_acts found ran).mpr ⟨?_, ?_⟩⟩
  · rw [target]
    rfl
  · rw [matching]
    exact List.cons_ne_nil _ _

end Commands

end NeuroLink.ApprovedCommand
