import NeuroLink.ApprovedCommand

/-!
The command lines of the control tools against the parser of the CLI. The adapter works out an
application and a lease and takes them into the arguments only where their keys are missing; it
then emits the first argument that is neither `None` nor empty, and appends the arguments of a
start to every command.
-/

namespace NeuroLink.ControlCommands

open PyValue ToolManifest ApprovedCommand

/-- The options that `add_grouped_alias_commands` declares for a subcommand. -/
def declaredOptions : List String → List String
  | ["app", "start"] => ["--app-id", "--lease-id", "--start-args"]
  | ["app", "stop"] => ["--app-id", "--lease-id"]
  | ["app", "unload"] => ["--app-id", "--lease-id"]
  | ["deploy", "rollback"] => ["--app-id", "--lease-id", "--reason"]
  | _ => []

section Resolution

variable (repr : Value → String)

/-- The application of the arguments, or else the one that was found. -/
def resolvedAppId (args : Dict) (found : Discovery) : String :=
  let given := (firstTrue [get args "app_id", get args "app"] (.str "")).text repr
  if given ≠ "" then given else found.appId repr

/-- The lease of the arguments, or else the one that was found on the resource of the tool. -/
def resolvedLeaseId (tool : ControlTool) (args : Dict) (found : Discovery) : String :=
  let asked := fieldText repr args "lease_id"
  if asked ≠ "" then asked
  else found.leaseId repr (tool.resource (resolvedAppId repr args found))

/-- The command names the application and the lease and has only options of its parser. -/
structure Carries (command : Command) (appId leaseId : String) : Prop where
  appId : appId ≠ "" ∧ command.arguments.lookup "--app-id" = some appId
  leaseId : leaseId ≠ "" ∧ command.arguments.lookup "--lease-id" = some leaseId
  declared : ∀ argument ∈ command.arguments, argument.1 ∈ declaredOptions command.words

/-- A key of the application is missing, or has the application in it; one that is blank counts
as missing while `app` does. -/
def AppShown (args : Dict) (appId : String) : Prop :=
  match args.lookup "app_id" with
  | none => True
  | some given =>
    if blank given then
      match args.lookup "app" with
      | none => True
      | some other => blank other = false ∧ other.text repr = appId
    else given.text repr = appId

/-- The key of the lease is missing, or has the lease in it. -/
def LeaseShown (args : Dict) (leaseId : String) : Prop :=
  ∀ given, args.lookup "lease_id" = some given →
    blank given = false ∧ given.text repr = leaseId

/-- No arguments of a start are appended; they are for the start alone. An id that reads like
the option keeps it away. -/
def StartArgsFit (tool : ControlTool) (args : Dict) (appId leaseId : String) : Prop :=
  tool = .startApp ∨ blank (get args "start_args") = true ∨
    appId = "--start-args" ∨ leaseId = "--start-args"

end Resolution

section Carrying

variable {repr : Value → String} {tool : ControlTool} {args resolved : Dict} {found : Discovery}
  {appId leaseId : String}

theorem resolveArgs_eq : resolveArgs repr tool args found =
    fillArgs args (resolvedAppId repr args found) (resolvedLeaseId repr tool args found) :=
  rfl

theorem fillArgs_other {key : String} (resolves : fillArgs args appId leaseId = some resolved)
    (other : key ≠ "app_id" ∧ key ≠ "app" ∧ key ≠ "lease_id") :
    get resolved key = get args key := by
  unfold fillArgs at resolves
  split at resolves
  · cases resolves
  · cases resolves
    rw [PyValue.get, PyValue.get, lookup_setdefault_ne other.2.2, lookup_setdefault_ne other.2.1,
      lookup_setdefault_ne other.1]

theorem app_shown_iff (resolves : fillArgs args appId leaseId = some resolved) :
    argumentValue repr resolved "--app-id" = some appId ↔ AppShown repr args appId := by
  obtain ⟨appNamed, _, appIdAt, appAt, _⟩ := fillArgs_lookup resolves
  have own : blank (.str appId) = false := blank_str appNamed
  rw [argumentValue_app, get_of_lookup appIdAt, get_of_lookup appAt, AppShown]
  cases args.lookup "app_id" with
  | none => simp [own]
  | some given =>
    cases here : blank given with
    | false => simp [here]
    | true =>
      cases args.lookup "app" with
      | none => simp [here, own]
      | some other =>
        cases there : blank other with
        | false => simp [here, there]
        | true => simp [here, there]

theorem lease_shown_iff (resolves : fillArgs args appId leaseId = some resolved) :
    argumentValue repr resolved "--lease-id" = some leaseId ↔ LeaseShown repr args leaseId := by
  obtain ⟨_, leaseNamed, _, _, leaseIdAt⟩ := fillArgs_lookup resolves
  have own : blank (.str leaseId) = false := blank_str leaseNamed
  rw [argumentValue_lease, get_of_lookup leaseIdAt, LeaseShown]
  cases args.lookup "lease_id" with
  | none => simp [own]
  | some given =>
    cases here : blank given with
    | false => simp [here]
    | true => simp [here]

theorem argumentValue_startArgs : argumentValue repr args "--start-args" =
    if blank (get args "start_args") then none else some ((get args "start_args").text repr) := by
  cases given : blank (get args "start_args") <;> simp [argumentValue, candidateKeys, given]

theorem buildCommand_arguments {words : List String}
    (app : argumentValue repr args "--app-id" = some appId)
    (lease : argumentValue repr args "--lease-id" = some leaseId) :
    (buildCommand repr words args).arguments =
      [("--app-id", appId), ("--lease-id", leaseId)] ++
        if blank (get args "start_args") = true ∨ appId = "--start-args" ∨
            leaseId = "--start-args" then []
        else [("--start-args", (get args "start_args").text repr)] := by
  rw [buildCommand]
  simp only [requiredArguments, List.filterMap_cons, List.filterMap_nil, app, lease,
    Option.map_some, argumentValue_startArgs, List.any_cons, List.any_nil, Bool.or_false]
  cases blanked : blank (get args "start_args") with
  | true => simp
  | false =>
    by_cases value : appId = "--start-args" ∨ leaseId = "--start-args"
    · simp [value]
    · simp [value]

def Sayable (args : Dict) (appId leaseId : String) (words : List String) : Prop :=
  "--start-args" ∈ declaredOptions words ∨ blank (get args "start_args") = true ∨
    appId = "--start-args" ∨ leaseId = "--start-args"

/-- One command carries the ids exactly when their keys show them and it may say the rest. -/
theorem carries_iff (resolves : fillArgs args appId leaseId = some resolved)
    {words : List String} (ids : "--app-id" ∈ declaredOptions words ∧
      "--lease-id" ∈ declaredOptions words) :
    Carries (buildCommand repr words resolved) appId leaseId ↔
      AppShown repr args appId ∧ LeaseShown repr args leaseId ∧
        Sayable args appId leaseId words := by
  obtain ⟨appNamed, leaseNamed, _⟩ := fillArgs_lookup resolves
  have startArgs : get resolved "start_args" = get args "start_args" :=
    fillArgs_other resolves (by decide)
  rw [← app_shown_iff resolves, ← lease_shown_iff resolves]
  constructor
  · intro carries
    have app := carries.appId.2
    have lease := carries.leaseId.2
    rw [buildCommand_lookup (by decide)] at app lease
    refine ⟨app, lease, ?_⟩
    have declared := carries.declared
    rw [buildCommand_arguments app lease, startArgs] at declared
    by_cases unsaid : blank (get args "start_args") = true ∨ appId = "--start-args" ∨
        leaseId = "--start-args"
    · exact .inr unsaid
    · rw [if_neg unsaid] at declared
      exact .inl (declared _ (List.mem_append_right _ List.mem_cons_self))
  · rintro ⟨app, lease, sayable⟩
    constructor
    · exact ⟨appNamed, by rw [buildCommand_lookup (by decide), app]⟩
    · exact ⟨leaseNamed, by rw [buildCommand_lookup (by decide), lease]⟩
    · rw [buildCommand_arguments app lease, startArgs]
      intro argument member
      rcases List.mem_append.mp member with id | extra
      · rcases List.mem_cons.mp id with rfl | id
        · exact ids.1
        · rcases List.mem_singleton.mp id with rfl
          exact ids.2
      · split at extra
        · cases extra
        · next said =>
          rcases List.mem_singleton.mp extra with rfl
          exact sayable.resolve_right said

theorem sayable_iff {words : List String} (tool : ControlTool) (other : tool ≠ .startApp)
    (lacks : "--start-args" ∉ declaredOptions words) :
    Sayable args appId leaseId words ↔ StartArgsFit tool args appId leaseId := by
  rw [Sayable, StartArgsFit, or_iff_right lacks, or_iff_right other]

/-- Every tool but the start runs a command that does not declare the arguments of a start. -/
theorem commands_carry_iff {stopSucceeds : Bool}
    (resolves : fillArgs args appId leaseId = some resolved) :
    (∀ command ∈ tool.commands repr resolved stopSucceeds, Carries command appId leaseId) ↔
      AppShown repr args appId ∧ LeaseShown repr args leaseId ∧
        StartArgsFit tool args appId leaseId := by
  have declares : "--start-args" ∈ declaredOptions ["app", "start"] := by decide
  cases tool with
  | startApp =>
    rw [ControlTool.commands, List.forall_mem_singleton, carries_iff resolves (by decide)]
    exact and_congr_right' (and_congr_right' (iff_of_true (.inl declares) (.inl rfl)))
  | stopApp =>
    rw [ControlTool.commands, List.forall_mem_singleton, carries_iff resolves (by decide),
      sayable_iff .stopApp (by decide) (by decide)]
  | unloadApp =>
    rw [ControlTool.commands, List.forall_mem_singleton, carries_iff resolves (by decide),
      sayable_iff .unloadApp (by decide) (by decide)]
  | rollbackApp =>
    rw [ControlTool.commands, List.forall_mem_singleton, carries_iff resolves (by decide),
      sayable_iff .rollbackApp (by decide) (by decide)]
  | restartApp =>
    rw [ControlTool.commands, List.forall_mem_cons, carries_iff resolves (by decide),
      sayable_iff .restartApp (by decide) (by decide)]
    apply and_iff_left_of_imp
    rintro ⟨app, lease, _⟩ command member
    -- the start that may follow declares everything
    split at member
    · rw [List.mem_singleton.mp member, carries_iff resolves (by decide)]
      exact ⟨app, lease, .inl declares⟩
    · cases member

end Carrying

/-- Whenever the adapter runs the commands of a control tool, they carry the application and the
lease, and only options of their parsers, exactly when the keys of the two show them and no
arguments of a start come with another tool. -/
theorem control_commands_carry (repr : Value → String) (tool : ControlTool)
    (args resolved : Dict) (found : Discovery) (stopSucceeds : Bool)
    (runs : resolveArgs repr tool args found = some resolved) :
    (∀ command ∈ tool.commands repr resolved stopSucceeds,
        Carries command (resolvedAppId repr args found) (resolvedLeaseId repr tool args found)) ↔
      AppShown repr args (resolvedAppId repr args found) ∧
        LeaseShown repr args (resolvedLeaseId repr tool args found) ∧
        StartArgsFit tool args (resolvedAppId repr args found)
          (resolvedLeaseId repr tool args found) :=
  commands_carry_iff runs

def restartArgs (startArgs : Value) : Dict :=
  [("app_id", .str "neuro_demo_app"), ("lease_id", .str "lease-1"), ("start_args", startArgs)]

section Restart

variable {startArgs : Value}

theorem restartArgs_appId : resolvedAppId (fun _ => "") (restartArgs startArgs) ⟨none, none⟩ =
    "neuro_demo_app" := by
  simp [resolvedAppId, restartArgs, PyValue.get, List.lookup_cons, firstTrue, Value.orElse,
    Value.truthy, Value.text]

theorem restartArgs_leaseId :
    resolvedLeaseId (fun _ => "") .restartApp (restartArgs startArgs) ⟨none, none⟩ =
      "lease-1" := by
  simp [resolvedLeaseId, restartArgs, fieldText, PyValue.get, List.lookup_cons, Value.orElse,
    Value.truthy, Value.text]

theorem restartArgs_fills : fillArgs (restartArgs startArgs) "neuro_demo_app" "lease-1" =
    some (restartArgs startArgs ++ [("app", .str "neuro_demo_app")]) := by
  simp [fillArgs, restartArgs, setdefault, List.lookup_cons]

theorem restartArgs_runs :
    resolveArgs (fun _ => "") .restartApp (restartArgs startArgs) ⟨none, none⟩ =
      some (restartArgs startArgs ++ [("app", .str "neuro_demo_app")]) := by
  rw [resolveArgs_eq, restartArgs_appId, restartArgs_leaseId, restartArgs_fills]

end Restart

/-- A restart with nothing for the start carries what it has to. -/
theorem control_commands_carry_restart :
    let args := restartArgs (.str "")
    let appId := resolvedAppId (fun _ => "") args ⟨none, none⟩
    let leaseId := resolvedLeaseId (fun _ => "") .restartApp args ⟨none, none⟩
    appId = "neuro_demo_app" ∧ leaseId = "lease-1" ∧
      ∀ command ∈ ControlTool.commands (fun _ => "") .restartApp
        (args ++ [("app", .str "neuro_demo_app")]) true, Carries command appId leaseId := by
  refine ⟨restartArgs_appId, restartArgs_leaseId, ?_⟩
  apply (control_commands_carry (fun _ => "") .restartApp (restartArgs (.str "")) _ ⟨none, none⟩
    true restartArgs_runs).mpr
  rw [restartArgs_appId, restartArgs_leaseId]
  refine ⟨?_, ?_, .inr (.inl rfl)⟩
  · simp [AppShown, restartArgs, blank, Value.isText, Value.text]
  · simp [LeaseShown, restartArgs, List.lookup_cons, blank, Value.isText, Value.text]

/-- With arguments for the start, the stop of a restart has an option that it does not know. -/
theorem restart_stop_refused :
    ¬ ∀ (tool : ControlTool) (args resolved : Dict) (found : Discovery) (stopSucceeds : Bool),
      resolveArgs (fun _ => "") tool args found = some resolved →
      ∀ command ∈ tool.commands (fun _ => "") resolved stopSucceeds,
        Carries command (resolvedAppId (fun _ => "") args found)
          (resolvedLeaseId (fun _ => "") tool args found) := by
  intro claimed
  have carried := claimed .restartApp (restartArgs (.str "--fast")) _ ⟨none, none⟩ false
    restartArgs_runs
  rw [restartArgs_appId, restartArgs_leaseId] at carried
  rcases ((commands_carry_iff restartArgs_fills).mp carried).2.2 with start | said | appId | leaseId
  · cases start
  · exact absurd said (by decide +kernel)
  · exact absurd appId (by decide)
  · exact absurd leaseId (by decide)

end NeuroLink.ControlCommands
