import NeuroLink.DeployRollback
import NeuroLink.UpdateReplies

/-!
What the Core reports of a rollback that the unit has answered: the answer comes back through
the tool, and the observations show the applications and the leases the unit is left with.
-/

namespace NeuroLink.RollbackAgreement

open PyValue ToolManifest ActivationHealth RaisingProgram DeployWorkflow DeployRollback
open CText EffectProgram UpdateService UpdateWorld UpdateReplies

/-- A text of the unit as the CLI decodes it. -/
def decoded (text : CText.Text) : Option String := String.fromUTF8? ⟨(CText.bytes text).toArray⟩

structure Aftermath where
  runtime : AppRuntime.Runtime
  leases : LeaseManager.Manager
  nowMs : Int

def appRow (app : AppRuntime.App) : Option Dict := do
  let appId ← decoded app.name.text
  let state ← decoded (QueryReplies.appRuntimeStateToStr app.state)
  return [("app_id", .str appId), ("state", .str state)]

def leaseRow (lease : LeaseManager.Lease) : Option Dict := do
  let leaseId ← decoded lease.leaseId.text
  let resource ← decoded lease.resource.text
  return [("lease_id", .str leaseId), ("resource", .str resource)]

def Aftermath.apps (unit : Aftermath) : List AppRuntime.App :=
  unit.runtime.apps.take QueryReplies.snapshotCapacity

/-- The leases that are not expired. -/
def Aftermath.held (unit : Aftermath) : List LeaseManager.Lease :=
  SlotTable.entries (LeaseManager.pruneExpired unit.leases unit.nowMs)

/-- The result of a query that found these rows; a reply that cannot be decoded is none. -/
def queryResult (toolName key : String) : Option (List Dict) → ToolResult
  | some rows => ⟨toolName, "ok", [("result", .dict [("ok", .bool true), ("replies",
      .list [.dict [("ok", .bool true), ("payload",
        .dict [("status", .str "ok"), (key, .list (rows.map .dict))])]])])]⟩
  | none => ⟨toolName, "error", [("failure_status", .str "parse_failed"),
      ("failure_class", .str "top_level_status_failure")]⟩

/-- What the CLI prints of the answer of the unit, as far as the Core looks at it. -/
def printed : Answer → Dict
  | .accepted _ _ => [("ok", .bool true), ("replies", .list [.dict [("ok", .bool true),
      ("payload", .dict [("status", .str "ok")])]])]
  | .error _ statusCode => [("ok", .bool false), ("status", .str "error_reply"),
      ("replies", .list [.dict [("ok", .bool true),
        ("payload", .dict [("status", .str "error"), ("status_code", .int statusCode)])]]),
      ("failure_status", .str "error")]

section Report

variable (repr : Value → String) (plan : RollbackPlan)

def toolAnswers (answer : Answer) (unit : Aftermath) : Answers Call Call.Reply
  | .execute "system_rollback_app" args => .ok (executeRollbackApp repr args (printed answer))
  | .execute "system_query_apps" _ =>
      .ok (queryResult "system_query_apps" "apps" (unit.apps.mapM appRow))
  | .execute "system_query_leases" _ =>
      .ok (queryResult "system_query_leases" "leases" (unit.held.mapM leaseRow))
  | _ => .error "NotImplementedError"

def report (answer : Answer) (unit : Aftermath) : Except String Dict :=
  (logged (List.replicate 3 (toolAnswers repr answer unit)) (runAppDeployRollback repr plan)).1

/-- The report says that the rollback is done. -/
def ReportsOk (answer : Answer) (unit : Aftermath) : Prop :=
  ∃ payload, report repr plan answer unit = .ok payload ∧ (get payload "ok").truthy = true

end Report

/-- Every row of both observations can be decoded. -/
def Legible (unit : Aftermath) : Prop :=
  (unit.apps.mapM appRow).isSome ∧ (unit.held.mapM leaseRow).isSome

def ListedRunning (unit : Aftermath) (appId : String) : Prop :=
  ∃ app, unit.apps.find? (fun app => decoded app.name.text = some appId) = some app ∧
    app.state = .running

def StillHeld (unit : Aftermath) (resource : String) : Prop :=
  ∃ lease ∈ unit.held, decoded lease.resource.text = some resource ∧
    ∃ leaseId, decoded lease.leaseId.text = some leaseId ∧ leaseId ≠ ""

def Accepted (answer : Answer) : Prop := ∃ action reply, answer = .accepted action reply

section Steps

variable {repr : Value → String} {plan : RollbackPlan} {unit : Aftermath}

theorem rollback_failure (answer : Answer) (args : Dict) :
    toolExecutionFailureStatus repr (executeRollbackApp repr args (printed answer)) = "" ↔
      Accepted answer := by
  cases answer with
  | accepted action reply => exact ⟨fun _ => ⟨action, reply, rfl⟩, fun _ => rfl⟩
  | error message statusCode =>
      constructor
      · intro none
        exact absurd (show "error" = "" from none) (by decide)
      · rintro ⟨_, _, same⟩
        cases same

theorem queryResult_failure (toolName key : String) (rows : List Dict) :
    toolExecutionFailureStatus repr (queryResult toolName key (some rows)) = "" := rfl

theorem unread_failure (toolName key : String) :
    toolExecutionFailureStatus repr (queryResult toolName key none) = "parse_failed" := rfl

theorem report_refused {answer : Answer}
    (approved : normalizeActivationApprovalDecision plan.approvalDecision = some "approved")
    (refused : ¬ Accepted answer) : ¬ ReportsOk repr plan answer unit := by
  have failed : toolExecutionFailureStatus repr
      (executeRollbackApp repr (rollbackArguments plan) (printed answer)) ≠ "" :=
    fun none => refused ((rollback_failure answer _).mp none)
  rintro ⟨payload, reported, ok⟩
  unfold report runAppDeployRollback at reported
  rw [approved] at reported
  change (logged (toolAnswers repr answer unit :: _) (executeRollback repr plan _ _)).1 = _
    at reported
  unfold executeRollback at reported
  rw [ask, logged_perform (executeRollbackApp repr (rollbackArguments plan) (printed answer)) _
    rfl] at reported
  dsimp only at reported
  rw [if_pos failed] at reported
  unfold rollbackPayload at reported
  rw [if_pos failed] at reported
  cases reported
  cases ok

theorem report_observed {answer : Answer}
    (approved : normalizeActivationApprovalDecision plan.approvalDecision = some "approved")
    (accepted : Accepted answer) {apps leases : ObservedStep}
    (appsObserved : observedRollbackApps repr plan
      (queryResult "system_query_apps" "apps" (unit.apps.mapM appRow)) = some apps)
    (leasesObserved : observedRollbackLeases repr plan
      (queryResult "system_query_leases" "leases" (unit.held.mapM leaseRow)) = some leases) :
    ReportsOk repr plan answer unit ↔ apps.failure = "" ∧ leases.failure = "" := by
  have succeeded : toolExecutionFailureStatus repr
      (executeRollbackApp repr (rollbackArguments plan) (printed answer)) = "" :=
    (rollback_failure answer _).mpr accepted
  have reported : ∃ decided execution, report repr plan answer unit = .ok (rollbackPayload repr
      (firstFailure apps leases).1 (firstFailure apps leases).2 decided execution) := by
    unfold report runAppDeployRollback
    rw [approved]
    change ∃ decided execution, (logged (toolAnswers repr answer unit :: _)
      (executeRollback repr plan _ _)).1 = _
    unfold executeRollback
    rw [ask, logged_perform (executeRollbackApp repr (rollbackArguments plan) (printed answer)) _
      rfl]
    dsimp only
    rw [if_neg (not_not_intro succeeded)]
    change ∃ decided execution, (logged (toolAnswers repr answer unit :: _)
      (observeRollback repr plan _ _)).1 = _
    unfold observeRollback
    dsimp only
    rw [ask, logged_perform (queryResult "system_query_apps" "apps" (unit.apps.mapM appRow)) _
      rfl, appsObserved]
    change ∃ decided execution, (logged (toolAnswers repr answer unit :: _)
      (observeLeases repr plan _ _ apps)).1 = _
    unfold observeLeases
    rw [ask, logged_perform (queryResult "system_query_leases" "leases"
      (unit.held.mapM leaseRow)) _ rfl, leasesObserved]
    exact ⟨_, _, rfl⟩
  obtain ⟨decided, execution, shown⟩ := reported
  -- the payload reports the first of the two failures, so none is reported when there is none
  have none : (firstFailure apps leases).2 = "" ↔ apps.failure = "" ∧ leases.failure = "" := by
    unfold firstFailure
    by_cases first : apps.failure = ""
    · by_cases second : leases.failure = ""
      · simp [first, second]
      · simp [first, second]
    · simp [first]
  rw [← none]
  constructor
  · rintro ⟨payload, same, ok⟩
    by_contra failed
    rw [shown, rollbackPayload, if_pos failed] at same
    cases same
    cases ok
  · intro succeeds
    refine ⟨_, shown, ?_⟩
    rw [rollbackPayload, if_neg (not_not_intro succeeds)]
    rfl

def shownState (state : AppRuntime.AppState) : String :=
  (decoded (QueryReplies.appRuntimeStateToStr state)).getD ""

theorem shownState_running (state : AppRuntime.AppState) :
    shownState state ≠ "" ∧
      ((["running", "active", "started", "running_active"].contains (shownState state).toLower) =
        true ↔ state = .running) := by
  cases state <;> decide +kernel

theorem appRow_some {app : AppRuntime.App} {row : Dict} (read : appRow app = some row) :
    ∃ appId, decoded app.name.text = some appId ∧
      row = [("app_id", .str appId), ("state", .str (shownState app.state))] := by
  obtain ⟨appId, named, read⟩ := Option.bind_eq_some_iff.mp read
  obtain ⟨state, stated, same⟩ := Option.bind_eq_some_iff.mp read
  refine ⟨appId, named, ?_⟩
  rw [shownState, stated]
  exact (Option.some.inj same).symm

theorem observed_state (appId : String) (state : AppRuntime.AppState) :
    observedAppState repr [("app_id", .str appId), ("state", .str (shownState state))] =
      shownState state := by
  have something : (Value.str (shownState state)).truthy = true := by
    simpa using (shownState_running state).1
  exact congrArg (Value.text repr) (orElse_truthy _ something)

theorem row_named (repr : Value → String) (name appId : String) (state : Value) :
    (firstTrue [get [("app_id", .str name), ("state", state)] "app_id",
      get [("app_id", .str name), ("state", state)] "name"] (.str "")).text repr = appId ↔
        name = appId := by
  change ((Value.str name).orElse (Value.none.orElse (.str ""))).text repr = appId ↔ _
  by_cases empty : name = ""
  · subst name
    exact Iff.rfl
  · rw [orElse_truthy _ (by simpa using empty), text_str]

theorem targetState_running {apps : List AppRuntime.App} {rows : List Dict} (appId : String)
    (read : apps.mapM appRow = some rows) :
    (targetState repr rows appId).appRunning = true ↔
      ∃ app, apps.find? (fun app => decoded app.name.text = some appId) = some app ∧
        app.state = .running := by
  induction apps generalizing rows with
  | nil =>
      cases read
      simp [targetState, matchedApp]
  | cons app rest ih =>
      rw [List.mapM_cons] at read
      obtain ⟨row, first, read⟩ := Option.bind_eq_some_iff.mp read
      obtain ⟨others, later, same⟩ := Option.bind_eq_some_iff.mp read
      obtain rfl : row :: others = rows := Option.some.inj same
      obtain ⟨name, named, rfl⟩ := appRow_some first
      by_cases hit : name = appId
      · have found : matchedApp repr
            ([("app_id", .str name), ("state", .str (shownState app.state))] :: others) appId =
              some [("app_id", .str name), ("state", .str (shownState app.state))] :=
          List.find?_cons_of_pos (decide_eq_true ((row_named repr name appId _).mpr hit))
        rw [targetState, found, List.find?_cons_of_pos (by simp [named, hit])]
        dsimp only
        rw [observed_state, (shownState_running app.state).2]
        simp
      · have passed : matchedApp repr
            ([("app_id", .str name), ("state", .str (shownState app.state))] :: others) appId =
              matchedApp repr others appId :=
          List.find?_cons_of_neg fun same =>
            hit ((row_named repr name appId _).mp (of_decide_eq_true same))
        rw [List.find?_cons_of_neg (by simp [named, hit]), ← ih later, targetState, targetState,
          passed]

theorem leaseRow_some {lease : LeaseManager.Lease} {row : Dict} (read : leaseRow lease = some row) :
    ∃ leaseId resource, decoded lease.leaseId.text = some leaseId ∧
      decoded lease.resource.text = some resource ∧
      row = [("lease_id", .str leaseId), ("resource", .str resource)] := by
  obtain ⟨leaseId, named, read⟩ := Option.bind_eq_some_iff.mp read
  obtain ⟨resource, on, same⟩ := Option.bind_eq_some_iff.mp read
  exact ⟨leaseId, resource, named, on, (Option.some.inj same).symm⟩

theorem leaseIds_none {held : List LeaseManager.Lease} {rows : List Dict} (resource : String)
    (read : held.mapM leaseRow = some rows) :
    leaseIdsOn repr [resource] rows = [] ↔
      ¬ ∃ lease ∈ held, decoded lease.resource.text = some resource ∧
        ∃ leaseId, decoded lease.leaseId.text = some leaseId ∧ leaseId ≠ "" := by
  induction held generalizing rows with
  | nil =>
      cases read
      simp [leaseIdsOn]
  | cons lease rest ih =>
      rw [List.mapM_cons] at read
      obtain ⟨row, first, read⟩ := Option.bind_eq_some_iff.mp read
      obtain ⟨others, later, same⟩ := Option.bind_eq_some_iff.mp read
      obtain rfl : row :: others = rows := Option.some.inj same
      obtain ⟨leaseId, on, named, held, rfl⟩ := leaseRow_some first
      have shown (key text : String) (row : Dict) (has : get row key = .str text) :
          fieldText repr row key = text := by
        unfold fieldText
        rw [has]
        by_cases empty : text = ""
        · subst text
          rfl
        · rw [orElse_truthy _ (by simpa using empty), text_str]
      rw [List.exists_mem_cons_iff, not_or, ← ih later, leaseIdsOn, List.filterMap_eq_nil_iff,
        List.forall_mem_cons, ← List.filterMap_eq_nil_iff, ← leaseIdsOn]
      refine and_congr_left fun _ => ?_
      rw [shown "resource" on _ rfl, shown "lease_id" leaseId _ rfl, named, held]
      by_cases same : on = resource
      · subst on
        by_cases empty : leaseId = ""
        · simp [empty]
        · simp [empty]
      · simp [same]

/-- The observation of the applications fails exactly if it cannot be read or the application
runs. -/
theorem observedApps_result (repr : Value → String) (plan : RollbackPlan) (unit : Aftermath) :
    ∃ step, observedRollbackApps repr plan
        (queryResult "system_query_apps" "apps" (unit.apps.mapM appRow)) = some step ∧
      (step.failure = "" ↔
        (unit.apps.mapM appRow).isSome ∧ ¬ ListedRunning unit plan.appId) := by
  cases read : unit.apps.mapM appRow with
  | none =>
      unfold observedRollbackApps
      rw [unread_failure]
      exact ⟨_, rfl, by simp⟩
  | some rows =>
      have running : (targetState repr rows plan.appId).appRunning = true ↔
          ListedRunning unit plan.appId := targetState_running plan.appId read
      have found : extractRollbackQueryAppsState repr
          (queryResult "system_query_apps" "apps" (some rows)) plan.appId =
            some (targetState repr rows plan.appId) := by
        have listed : observedAppRows (queryResult "system_query_apps" "apps" (some rows)) =
            some (dicts (rows.map .dict)) := rfl
        rw [extractRollbackQueryAppsState, listed, dicts_map_dict]
        rfl
      unfold observedRollbackApps
      rw [queryResult_failure, found]
      by_cases runs : (targetState repr rows plan.appId).appRunning = true
      · refine ⟨_, rfl, ?_⟩
        dsimp only
        rw [if_pos runs]
        exact iff_of_false (by decide : "app_still_running_after_rollback" ≠ "")
          fun finished => finished.2 (running.mp runs)
      · refine ⟨_, rfl, ?_⟩
        dsimp only
        rw [if_neg runs]
        exact iff_of_true rfl ⟨rfl, fun shown => runs (running.mpr shown)⟩

theorem observedLeases_result (repr : Value → String) (plan : RollbackPlan) (unit : Aftermath) :
    ∃ step, observedRollbackLeases repr plan
        (queryResult "system_query_leases" "leases" (unit.held.mapM leaseRow)) = some step ∧
      (step.failure = "" ↔
        (unit.held.mapM leaseRow).isSome ∧ ¬ StillHeld unit plan.rollbackResource) := by
  cases read : unit.held.mapM leaseRow with
  | none =>
      unfold observedRollbackLeases
      rw [unread_failure]
      exact ⟨_, rfl, by simp⟩
  | some rows =>
      have free : leaseIdsOn repr [plan.rollbackResource] rows = [] ↔
          ¬ StillHeld unit plan.rollbackResource := leaseIds_none plan.rollbackResource read
      have named : plan.rollbackResource ≠ "" := by
        intro empty
        have length := congrArg String.length empty
        simp [RollbackPlan.rollbackResource, String.length_append] at length
      have found : matchingLeaseIdsForResource repr
          (queryResult "system_query_leases" "leases" (some rows)) plan.rollbackResource =
            some (leaseIdsOn repr [plan.rollbackResource] rows) := by
        have listed : observedLeaseRows (queryResult "system_query_leases" "leases" (some rows)) =
            some (dicts (rows.map .dict)) := rfl
        rw [matchingLeaseIdsForResource, if_neg named, listed, dicts_map_dict]
        rfl
      unfold observedRollbackLeases
      rw [queryResult_failure, found]
      by_cases none : leaseIdsOn repr [plan.rollbackResource] rows = []
      · refine ⟨_, rfl, ?_⟩
        dsimp only
        rw [if_neg (not_not_intro none)]
        exact iff_of_true rfl ⟨rfl, free.mp none⟩
      · refine ⟨_, rfl, ?_⟩
        dsimp only
        rw [if_pos none]
        exact iff_of_false (by decide : "rollback_lease_still_held_after_rollback" ≠ "")
          fun finished => none (free.mpr finished.2)

/-- When the Core reports a rollback as done. -/
theorem reportsOk_iff {repr : Value → String} {plan : RollbackPlan} {answer : Answer}
    {unit : Aftermath}
    (approved : normalizeActivationApprovalDecision plan.approvalDecision = some "approved") :
    ReportsOk repr plan answer unit ↔ Accepted answer ∧ Legible unit ∧
      ¬ ListedRunning unit plan.appId ∧ ¬ StillHeld unit plan.rollbackResource := by
  obtain ⟨apps, appsObserved, appsFine⟩ := observedApps_result repr plan unit
  obtain ⟨leases, leasesObserved, leasesFine⟩ := observedLeases_result repr plan unit
  by_cases accepted : Accepted answer
  · rw [report_observed approved accepted appsObserved leasesObserved, appsFine, leasesFine]
    unfold Legible
    grind
  · exact iff_of_false (report_refused approved accepted) fun finished => accepted finished.1

end Steps

section Rollback

variable {repr : Value → String} {plan : RollbackPlan}

theorem stillHeld_of_required {unit : Aftermath} {resource : CText.Text}
    {metadata : RequestMetadata} {leaseId : String}
    (required : (LeaseManager.requireResource unit.leases resource metadata unit.nowMs).1 = 0)
    (named : decoded resource = some plan.rollbackResource)
    (presented : decoded metadata.leaseId.text = some leaseId) (some : leaseId ≠ "") :
    StillHeld unit plan.rollbackResource := by
  unfold LeaseManager.requireResource at required
  have never : ¬ (-Errno.eperm : Int) = 0 := by decide
  dsimp only at required
  split at required
  · exact absurd required never
  next slot lease found =>
      split at required
      · exact absurd required never
      next same =>
          have member : lease ∈ unit.held :=
            SlotTable.mem_entries.mpr ⟨slot, SlotTable.find_content found⟩
          refine ⟨lease, member, ?_, leaseId, ?_, some⟩
          · rw [LeaseManager.findLeaseByResource_resource found, named]
          · rw [not_not.mp same, presented]

/-- Whatever a rollback does on the unit, the Core reports it as done exactly if the unit accepted
it and the observations, which can be decoded, show neither the application running nor a lease
on the resource of the rollback. -/
theorem rollback_report_iff
    (approved : normalizeActivationApprovalDecision plan.approvalDecision = some "approved")
    (config : Config) (request : Request) {memory : Memory} (settled : Settled memory)
    (world : World) (outcomes : List Outcome) (leases : LeaseManager.Manager) (nowMs : Int) :
    let after := run machine outcomes (handleUpdateRollback config request memory) world
    let unit : Aftermath := ⟨after.2.runtime, leases, nowMs⟩
    ∃ answer, after.1.2.replies = memory.replies ++ [answer] ∧
      (ReportsOk repr plan answer unit ↔ Accepted answer ∧ Legible unit ∧
        ¬ ListedRunning unit plan.appId ∧ ¬ StillHeld unit plan.rollbackResource) := by
  intro after unit
  have ended :=
    (@handleUpdateRollback_ends config request memory settled).run machine outcomes world
  obtain ⟨answer, replied, _⟩ := ended.replied
  exact ⟨answer, replied, reportsOk_iff approved⟩

end Rollback

theorem demo_named : "pump" ≠ "" := by decide

def demoPlan : RollbackPlan where
  appId := "pump"
  nodeId := "unit-01"
  sourceAgent := "rational"
  leaseId := "lease-rb"
  rollbackReason := "guarded_rollback_after_activation_health_failure"
  approvalDecision := "approve"
  approvalNote := ""
  named := demo_named

def demoLoaded : Device :=
  after demoConfig demoDevice [.serve none [], .serve (some (demoRequest "prepare" "")) [],
    .applications { demoRuntime with apps := [⟨copyBounded (lit "pump"),
      copyBounded (lit "/apps/pump.llext"), [1], AppRuntime.loadsWell.callbacks, .loaded, 0,
      false⟩] }]

def demoHolder : RequestMetadata :=
  { RequestMetadata.init with leaseId := copyBounded (lit "lease-rb") }

def demoLeases : LeaseManager.Manager :=
  (LeaseManager.acquire LeaseManager.init (lit "update/app/pump/rollback") demoHolder 60000 0).2

theorem demoLoaded_settled : Settled demoLoaded.memory :=
  have ended := @handleAction_answered demoConfig (demoRequest "prepare" "") _ settled_init
  (ended.run machine [] demoDevice.world).1

/-- Once the lease that admitted the request has expired, the Core reports the rollback as done. -/
theorem demoLoaded_report :
    let after := run machine [] (handleUpdateRollback demoConfig (demoRequest "rollback" "")
      demoLoaded.memory) demoLoaded.world
    let unit : Aftermath := ⟨after.2.runtime, demoLeases, 70000⟩
    ∃ answer, after.1.2.replies = demoLoaded.memory.replies ++ [answer] ∧
      Accepted answer ∧ ReportsOk (fun _ => "[...]") demoPlan answer unit := by
  intro after unit
  have reported : ∃ answer, after.1.2.replies = demoLoaded.memory.replies ++ [answer] ∧
      (ReportsOk (fun _ => "[...]") demoPlan answer unit ↔ Accepted answer ∧ Legible unit ∧
        ¬ ListedRunning unit demoPlan.appId ∧ ¬ StillHeld unit demoPlan.rollbackResource) :=
    rollback_report_iff (by decide +kernel) demoConfig (demoRequest "rollback" "")
      demoLoaded_settled demoLoaded.world [] demoLeases 70000
  obtain ⟨answer, replied, reported⟩ := reported
  have ended : after.1.2.replies = demoLoaded.memory.replies ++ [.accepted (lit "rollback")
      { okReply demoConfig (demoRequest "rollback" "") with
        reason := lit "rollback requested" }] := by decide +kernel
  obtain rfl := List.singleton_injective (List.append_cancel_left (replied.symm.trans ended))
  have removed : unit.apps = [] := List.eq_nil_of_length_eq_zero (by decide +kernel)
  have expired : unit.held = [] := List.eq_nil_of_length_eq_zero (by decide +kernel)
  refine ⟨_, replied, ⟨_, _, rfl⟩, reported.mpr ⟨⟨_, _, rfl⟩, ?_, ?_, ?_⟩⟩
  · rw [Legible, removed, expired]
    exact ⟨rfl, rfl⟩
  · rintro ⟨app, found, _⟩
    rw [removed] at found
    cases found
  · rintro ⟨lease, held, _⟩
    rw [expired] at held
    cases held

/-- The unit accepts the rollback and is left without the application; the only lease is the one
that admitted the request, and the Core does not report the rollback as done. -/
theorem held_lease_unreported :
    ¬ ∀ (repr : Value → String) (plan : RollbackPlan) (config : Config) (request : Request)
      (device : Device) (outcomes : List Outcome) (leases : LeaseManager.Manager)
      (metadata : RequestMetadata) (lease : LeaseManager.Lease) (nowMs : Int)
      (action : CText.Text) (reply : UpdateReply),
      normalizeActivationApprovalDecision plan.approvalDecision = some "approved" →
      Settled device.memory → decoded request.appId.text = some plan.appId →
      SlotTable.entries leases = [lease] →
      decoded lease.resource.text = some plan.rollbackResource →
      (LeaseManager.requireResource leases lease.resource.text metadata nowMs).1 = 0 →
      (run machine outcomes (handleUpdateRollback config request device.memory)
        device.world).1.2.replies = device.memory.replies ++ [.accepted action reply] →
      ReportsOk repr plan (.accepted action reply) ⟨(run machine outcomes
        (handleUpdateRollback config request device.memory) device.world).2.runtime, leases,
        nowMs⟩ := by
  intro claimed
  have reported := claimed (fun _ => "[...]") demoPlan demoConfig (demoRequest "rollback" "")
    demoLoaded [] demoLeases demoHolder (LeaseManager.granted (lit "update/app/pump/rollback")
      demoHolder 60000 0) 1000 (lit "rollback")
    { okReply demoConfig (demoRequest "rollback" "") with reason := lit "rollback requested" }
    (by decide +kernel) demoLoaded_settled (by decide +kernel) (by decide +kernel)
    (by decide +kernel) (by decide +kernel) (by decide +kernel)
  refine ((reportsOk_iff (by decide +kernel)).mp reported).2.2.2 ?_
  exact stillHeld_of_required (by decide +kernel :
    (LeaseManager.requireResource demoLeases (lit "update/app/pump/rollback") demoHolder
      1000).1 = 0) (by decide +kernel) (by decide +kernel : decoded _ = some "lease-rb") (by decide)

end NeuroLink.RollbackAgreement
