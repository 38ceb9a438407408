import NeuroLink.CliQuery
import NeuroLink.QueryReplies
import NeuroLink.ToolManifest

/-!
How the state of an application gets from the unit to the Core: the replies of the unit, the
summary the CLI makes of its queries, and the readers of the Core, of which each knows the
state under a name of its own.
-/

namespace NeuroLink.ActivationHealth

open PyValue CliQuery QueryReplies ToolManifest

section Summary

variable (repr : Value → String)

/-- `extract_first_reply_payload`. -/
def extractFirstReplyPayload (result : Dict) : Dict :=
  ((dicts (get result "replies").items).findSome? fun reply =>
    match get reply "payload" with
    | .dict payload => some payload
    | _ => none).getD []

/-- `summarize_state_sync_query`. -/
def summarizeStateSyncQuery (result : Dict) : Dict :=
  [("ok", .bool (get result "ok").truthy),
    ("status", .str (((result.lookup "status").getD (.str "unknown")).text repr)),
    ("payload", .dict (extractFirstReplyPayload result))]

/-- `handle_state_sync`, from the results of its three queries. -/
def handleStateSync (device apps leases : Dict) : Dict :=
  let state := [("device", summarizeStateSyncQuery repr device),
    ("apps", summarizeStateSyncQuery repr apps), ("leases", summarizeStateSyncQuery repr leases)]
  let ok := state.all fun surface => (get surface.2 "ok").truthy
  [("ok", .bool ok), ("status", .str (if ok then "ok" else "partial_failure")),
    ("state", .dict (state.map fun surface => (surface.1, .dict surface.2)))]

end Summary

section Adapter

variable (repr : Value → String)

/-- The status of a payload that is neither empty nor `ok`. -/
def failingStatus (payload : Value) : Option String :=
  match payload with
  | .dict payload =>
      let status := fieldText repr payload "status"
      if status ≠ "" ∧ status ≠ "ok" then some status else none
  | _ => none

/-- `_extract_nested_failure_status`. -/
def extractNestedFailureStatus (payload : Dict) : Option String :=
  (failingStatus repr (get payload "payload")).or
    ((dicts (get payload "replies").items).findSome? fun reply =>
      failingStatus repr (get reply "payload"))

/-- `StateSyncSurface`. -/
structure StateSyncSurface where
  ok : Bool
  status : String
  payload : Dict

def StateSyncSurface.fromDict (payload : Dict) : StateSyncSurface where
  ok := (get payload "ok").truthy
  status := ((get payload "status").orElse (.str "unknown")).text repr
  payload := (get payload "payload").entries

def StateSyncSurface.toDict (surface : StateSyncSurface) : Dict :=
  [("ok", .bool surface.ok), ("status", .str surface.status),
    ("payload", .dict surface.payload)]

/-- The surfaces of `StateSyncSnapshot.from_dict`. -/
def snapshotState (payload : Dict) : List (String × StateSyncSurface) :=
  (get payload "state").entries.map fun surface =>
    (surface.1, StateSyncSurface.fromDict repr surface.2.entries)

/-- `NeuroCliToolAdapter.execute` of a tool that only reads, from what the CLI printed. -/
def executeRead (toolName : String) (payload : Dict) : ToolResult :=
  if !(get payload "ok").truthy then
    ⟨toolName, "error", [("failure_status",
      .str (((get payload "status").orElse (.str "unknown")).text repr)),
      ("failure_class", .str "top_level_status_failure")]⟩
  else
    match extractNestedFailureStatus repr payload with
    | some status => ⟨toolName, "error", [("failure_status", .str status),
        ("failure_class", .str "nested_payload_status_failure")]⟩
    | none =>
        if toolName = "system_state_sync" then
          ⟨toolName, "ok", [("state_sync", .dict [("state", .dict
            ((snapshotState repr payload).map fun surface =>
              (surface.1, .dict surface.2.toDict)))])]⟩
        else ⟨toolName, "ok", [("result", .dict payload)]⟩

end Adapter

/-- `ActivationHealthObservation`. -/
structure Observation where
  classification : String
  reason : String
  readyForRollbackConsideration : Bool
  networkState : String
  appPresent : Bool
  observedAppState : String

section Readers

variable (repr : Value → String)

def matchedApp (rows : List Dict) (appId : String) : Option Dict :=
  rows.find? fun row =>
    (firstTrue [get row "app_id", get row "name"] (.str "")).text repr = appId

/-- `matched_app.get("state") or matched_app.get("status") or "unknown"`. -/
def observedAppState (row : Dict) : String :=
  (firstTrue [get row "state", get row "status"] (.str "unknown")).text repr

/-- `_classify_activation_health_result`. -/
def classifyActivationHealthResult (result : ToolResult) (appId : String) : Observation :=
  if result.status ≠ "ok" then
    ⟨"no_reply", ((get result.payload "failure_status").orElse (.str "state_sync_failed")).text
      repr, false, "unknown", false, "unknown"⟩
  else
    let state := snapshotState repr (get result.payload "state_sync").entries
    let device := (state.lookup "device").getD ⟨false, "unknown", []⟩
    let apps := (state.lookup "apps").getD ⟨false, "unknown", []⟩
    let networkState := ((get device.payload "network_state").orElse (.str "unknown")).text repr
    let matched := matchedApp repr (dicts (get apps.payload "apps").items) appId
    let observed := (matched.map (observedAppState repr)).getD "unknown"
    if !device.ok || !(["ok", "ready"].contains device.status) then
      ⟨"no_reply", device.status, false, networkState, matched.isSome, observed⟩
    else if networkState ≠ "NETWORK_READY" then
      ⟨"degraded", "network_not_ready_after_activate", false, networkState, matched.isSome,
        observed⟩
    else if matched.isNone then
      ⟨"rollback_required", "target_app_missing_after_activate", true, networkState, false,
        observed⟩
    else if ["running", "active", "started"].contains observed.toLower then
      ⟨"healthy", "target_app_running_after_activate", false, networkState, true, observed⟩
    else
      ⟨"degraded", "target_app_not_running_after_activate", true, networkState, true, observed⟩

structure TargetState where
  appPresent : Bool
  observedAppState : String
  appRunning : Bool

def targetState (rows : List Dict) (appId : String) : TargetState :=
  match matchedApp repr rows appId with
  | none => ⟨false, "missing", false⟩
  | some row =>
      ⟨true, observedAppState repr row, ["running", "active", "started", "running_active"].contains
        (observedAppState repr row).toLower⟩

def queryAppsRows (payload : Dict) : List Dict :=
  match get (get payload "payload").entries "apps" with
  | .list rows => dicts rows
  | _ =>
      ((dicts (get payload "replies").items).findSome? fun reply =>
        match get (get reply "payload").entries "apps" with
        | .list rows => some (dicts rows)
        | _ => none).getD []

/-- `_extract_query_apps_target_state`. -/
def extractQueryAppsTargetState (payload : Dict) (appId : String) : TargetState :=
  targetState repr (queryAppsRows payload) appId

/-- `_extract_rollback_query_apps_state`. -/
def extractRollbackQueryAppsState (observation : ToolResult) (appId : String) :
    Option TargetState :=
  (observedAppRows observation).map fun rows => targetState repr rows appId

end Readers

section Rows

variable {unit : UnitState} {requestId : CText.Text}

def keyText (key : CborKey) : String := (keyNames.lookup key.number).getD ""

theorem keyName_put (key : CborKey) : keyName true (.int key.number) = some (keyText key) := by
  cases key <;> rfl

def rowKeys : List CborKey :=
  [.priority, .appId, .path, .runtimeState, .manifestPresent, .updateState, .artifactState,
    .stableRef, .lastError, .rollbackReason]

def Stateless (row : Dict) : Prop := get row "state" = .none ∧ get row "status" = .none

theorem rowKeys_named : ∀ key ∈ rowKeys, keyText key ≠ "state" ∧ keyText key ≠ "status" := by
  decide +kernel

theorem queryApp_stateless {app : AppRuntime.App} {row : Dict}
    (read : toValue true (queryApp unit app) = some (.dict row)) : Stateless row := by
  rw [queryApp, toValue, Option.map_eq_some_iff] at read
  obtain ⟨shown, entries, same⟩ := read
  cases same
  have known : ∀ entry ∈ shown, ∃ key ∈ rowKeys, entry.1 = keyText key := by
    intro entry member
    obtain ⟨written, inside, named, _⟩ := toEntries_mem entries entry member
    have keys : ∃ key ∈ rowKeys, written.1 = .int key.number := by
      simp only [List.mem_cons, List.not_mem_nil, or_false] at inside
      rcases inside with rfl | rfl | rfl | rfl | rfl | rfl | rfl | rfl | rfl | rfl
      all_goals exact ⟨_, by decide, rfl⟩
    obtain ⟨key, listed, here⟩ := keys
    rw [here, keyName_put] at named
    exact ⟨key, listed, (Option.some.inj named).symm⟩
  have absent : ∀ name, (∀ key ∈ rowKeys, keyText key ≠ name) →
      get shown.reverse name = .none := by
    intro name other
    by_contra there
    have member := List.mem_reverse.mp (mem_of_get rfl there)
    obtain ⟨key, listed, same⟩ := known _ member
    exact other key listed same.symm
  exact ⟨absent "state" fun key listed => (rowKeys_named key listed).1,
    absent "status" fun key listed => (rowKeys_named key listed).2⟩

/-- The rows of what the CLI reads as the payload of a reply have no state. -/
def StatelessRows (payload : Value) : Prop :=
  ∀ rows, get payload.entries "apps" = .list rows → ∀ row ∈ dicts rows, Stateless row

theorem queryAppsReply_rows {payload : Value}
    (read : toValue true (queryAppsReply unit requestId) = some payload) :
    StatelessRows payload := by
  rw [queryAppsReply, toValue, Option.map_eq_some_iff] at read
  obtain ⟨shown, entries, rfl⟩ := read
  intro rows found row member
  have listed : ("apps", Value.list rows) ∈ shown :=
    List.mem_reverse.mp (mem_of_get found (by simp))
  obtain ⟨written, inside, named, plain⟩ := toEntries_mem entries _ listed
  have value := plain (show "apps" ≠ "message_kind" by decide)
  have only : ∃ key, written.1 = .int (CborKey.number key) ∧ (keyText key = "apps" →
      written = put .apps (.list ((listedApps unit).map (queryApp unit)))) := by
    simp only [envelope, List.cons_append, List.nil_append, List.mem_cons, List.not_mem_nil,
      or_false] at inside
    rcases inside with rfl | rfl | rfl | rfl | rfl | rfl | rfl | rfl | rfl
    case inr.inr.inr.inr.inr.inr.inr.inr => exact ⟨.apps, rfl, fun _ => rfl⟩
    all_goals exact ⟨_, rfl, fun same => absurd same (by decide +kernel)⟩
  obtain ⟨key, here, known⟩ := only
  rw [here, keyName_put] at named
  have apps := known (Option.some.inj named)
  rw [apps, put, toValue, Option.map_eq_some_iff] at value
  obtain ⟨values, each, same⟩ := value
  obtain rfl : values = rows := by simpa using same
  have inner : Value.dict row ∈ values := by
    simp only [dicts, List.mem_filterMap] at member
    obtain ⟨value, here, is⟩ := member
    cases value <;> simp at is
    exact is ▸ here
  obtain ⟨item, made, shownRow⟩ := toValues_mem each _ inner
  obtain ⟨app, _, rfl⟩ := List.mem_map.mp made
  exact queryApp_stateless shownRow

theorem errorReply_rows {message : CText.Text} {statusCode : Nat} {payload : Value}
    (read : toValue true (errorReply unit requestId message statusCode) = some payload) :
    StatelessRows payload := by
  rw [errorReply, toValue, Option.map_eq_some_iff] at read
  obtain ⟨shown, entries, rfl⟩ := read
  intro rows found
  have listed : ("apps", Value.list rows) ∈ shown :=
    List.mem_reverse.mp (mem_of_get found (by simp))
  obtain ⟨written, inside, named, _⟩ := toEntries_mem entries _ listed
  have other : ∃ key, written.1 = .int (CborKey.number key) ∧ keyText key ≠ "apps" := by
    simp only [envelope, List.cons_append, List.nil_append, List.mem_cons, List.not_mem_nil,
      or_false] at inside
    rcases inside with rfl | rfl | rfl | rfl | rfl | rfl | rfl
    all_goals exact ⟨_, rfl, by decide +kernel⟩
  obtain ⟨key, here, apart⟩ := other
  rw [here, keyName_put] at named
  exact absurd (Option.some.inj named) apart

/-- Whatever the unit answers to a query for its applications, no row shows a state. -/
theorem handleQueryApps_rows {loads : List UInt8 → Option Value} {data : List UInt8}
    {payload : Value} (answered : data ∈ handleQueryApps unit requestId)
    (read : parseWirePayload loads data = some payload) : StatelessRows payload := by
  obtain ⟨rfl, short⟩ | ⟨rfl, short⟩ := answer_mem answered
  · have bound : (Cbor.encode (queryAppsReply unit requestId)).length < 2 ^ 64 :=
      Nat.lt_of_le_of_lt short (by decide)
    have reading := (parseWirePayload_encode loads (queryAppsReply_fits requestId) bound).symm
    exact queryAppsReply_rows (reading.trans read)
  · have bound : (Cbor.encode (errorReply unit requestId
        (CText.lit "query apps reply build failed") 500)).length < 2 ^ 64 :=
      Nat.lt_of_le_of_lt short (by decide)
    have reading := (parseWirePayload_encode loads
      (errorReply_fits requestId _ (by decide)) bound).symm
    exact errorReply_rows (reading.trans read)

end Rows

section Queries

variable (repr : Value → String) (loads : List UInt8 → Option Value)

inductive Delivery where
  | raised (error : String)
  | lost
  | delivered

def Delivery.attempt (answers : List (List UInt8)) : Delivery → Attempt
  | .raised error => .raised error
  | .lost => .replied []
  | .delivered => .replied (answers.map .ok)

/-- `base_payload`. -/
structure BasePayload where
  requestId : String
  sourceCore : String
  sourceAgent : String
  targetNode : String
  timeoutMs : Int

def BasePayload.toDict (payload : BasePayload) : Dict :=
  [("request_id", .str payload.requestId), ("source_core", .str payload.sourceCore),
    ("source_agent", .str payload.sourceAgent), ("target_node", .str payload.targetNode),
    ("timeout_ms", .int payload.timeoutMs)]

/-- A query of the CLI, the id the unit reads in it, and what becomes of its attempts. -/
structure Query where
  keyexpr : String
  payload : BasePayload
  requestId : CText.Text
  first : Delivery
  later : List Delivery

/-- What the query results in, where the unit answers each delivered attempt the same. -/
def Query.result (query : Query) (answers : List (List UInt8)) : Dict :=
  collectQueryResultWithRetry repr loads query.keyexpr query.payload.toDict
    (query.first.attempt answers) (query.later.map (Delivery.attempt answers))

end Queries

section Results

variable (repr : Value → String) {loads : List UInt8 → Option Value}

def Unstated (result : Dict) : Prop :=
  (get result "ok").truthy = true → result.lookup "status" = none

theorem collectQueryResult_unstated (keyexpr : String) (payload : Dict) (attempt : Attempt) :
    Unstated (collectQueryResult loads keyexpr payload attempt) := by
  match attempt with
  | .raised _ => exact fun right => nomatch right
  | .replied [] => exact fun right => nomatch right
  | .replied (sample :: samples) =>
      rw [collectQueryResult]
      split
      · intro _
        rfl
      · next wrong =>
        intro right
        exact absurd right wrong

theorem unstated_not_transport {result : Dict} {statuses : List String}
    (unstated : Unstated result) (named : hasStatus result statuses = true) :
    (get result "ok").truthy = false := by
  by_contra right
  have absent : get result "status" = .none := by
    rw [PyValue.get, unstated (by simpa using right)]
    rfl
  simp [hasStatus, absent, Value.isText] at named

theorem settleAttempt_unstated {result settled : Dict} {last : Bool}
    (unstated : Unstated result) (ends : settleAttempt repr result last = some settled) :
    Unstated settled := by
  intro right
  rcases settleAttempt_cases repr ends with ⟨_, rfl⟩ | ⟨_, transport, rfl⟩ | rfl
  · rw [get_insert_ne (by decide), get_insert_ne (by decide), get_insert_self] at right
    cases right
  · rw [get_insert_ne (by decide), unstated_not_transport unstated transport] at right
    cases right
  · exact unstated right

theorem result_unstated (query : Query) (answers : List (List UInt8)) :
    Unstated (query.result repr loads answers) :=
  collectQueryResultWithRetry_of repr _ _
    (fun attempt _ => collectQueryResult_unstated query.keyexpr query.payload.toDict attempt)
    fun _ _ _ => settleAttempt_unstated repr

/-- No row of a result shows a state, neither beside the replies nor in them. -/
def Blind (result : Dict) : Prop :=
  get (get result "payload").entries "apps" = .none ∧
    ∀ reply ∈ dicts (get result "replies").items, StatelessRows (get reply "payload")

theorem settleAttempt_blind {result settled : Dict} {last : Bool} (blind : Blind result)
    (ends : settleAttempt repr result last = some settled) : Blind settled := by
  have same : get settled "payload" = get result "payload" ∧
      get settled "replies" = get result "replies" := by
    rcases settleAttempt_cases repr ends with ⟨_, rfl⟩ | ⟨_, _, rfl⟩ | rfl
    · constructor
      · rw [get_insert_ne (by decide), get_insert_ne (by decide), get_insert_ne (by decide)]
      · rw [get_insert_ne (by decide), get_insert_ne (by decide), get_insert_ne (by decide)]
    · constructor
      · rw [get_insert_ne (by decide)]
      · rw [get_insert_ne (by decide)]
    · exact ⟨rfl, rfl⟩
  unfold Blind
  rw [same.1, same.2]
  exact blind

theorem noApps_of_str {text : String} : StatelessRows (.str text) := by
  intro rows found
  cases found

/-- What the CLI makes of one attempt at a query for the applications. -/
theorem collectQueryResult_blind {unit : UnitState} {requestId : CText.Text} (query : Query)
    (delivery : Delivery) :
    Blind (collectQueryResult loads query.keyexpr query.payload.toDict
      (delivery.attempt (handleQueryApps unit requestId))) := by
  have lost : Blind (collectQueryResult loads query.keyexpr query.payload.toDict (.replied [])) :=
    ⟨rfl, fun reply member => nomatch member⟩
  cases delivery with
  | raised error => exact ⟨rfl, fun reply member => nomatch member⟩
  | lost => exact lost
  | delivered =>
      cases answers : handleQueryApps unit requestId with
      | nil => exact lost
      | cons data rest =>
          have each : ∀ reply ∈ ((data :: rest).map Sample.ok).map
              (parseReply loads query.keyexpr), StatelessRows (get reply "payload") := by
            intro reply member
            rw [List.map_map] at member
            obtain ⟨data, answered, rfl⟩ := List.mem_map.mp member
            rw [Function.comp_apply, parseReply]
            split
            · next payload read => exact handleQueryApps_rows (answers ▸ answered) read
            · exact noApps_of_str
          have listed : ∀ result, get result "payload" = .dict query.payload.toDict →
              get result "replies" = .list ((((data :: rest).map Sample.ok).map
                (parseReply loads query.keyexpr)).map .dict) → Blind result := by
            intro result same replies
            rw [Blind, same, replies, Value.items, dicts_map_dict]
            exact ⟨rfl, each⟩
          have shape : (Delivery.delivered.attempt (data :: rest)) =
              .replied (.ok data :: rest.map .ok) := rfl
          rw [shape, collectQueryResult]
          split
          · exact listed _ rfl rfl
          · exact listed _ rfl rfl

theorem result_blind {unit : UnitState} {requestId : CText.Text} (query : Query) :
    Blind (query.result repr loads (handleQueryApps unit requestId)) := by
  refine collectQueryResultWithRetry_of repr _ _ (fun attempt member => ?_)
    fun _ _ _ => settleAttempt_blind repr
  rw [← List.map_cons] at member
  obtain ⟨delivery, _, rfl⟩ := List.mem_map.mp member
  exact collectQueryResult_blind query delivery

end Results

section Reading

variable (repr : Value → String) {loads : List UInt8 → Option Value}

theorem summary_unknown {result : Dict} (unstated : Unstated result)
    (right : (get result "ok").truthy = true) :
    summarizeStateSyncQuery repr result = [("ok", .bool true), ("status", .str "unknown"),
      ("payload", .dict (extractFirstReplyPayload result))] := by
  rw [summarizeStateSyncQuery, right, unstated right]
  rfl

theorem stateSync_device {device apps leases : Dict} (unstated : Unstated device)
    (right : (get (handleStateSync repr device apps leases) "ok").truthy = true) :
    (snapshotState repr (handleStateSync repr device apps leases)).lookup "device" =
      some ⟨true, "unknown", extractFirstReplyPayload device⟩ := by
  have all : ((get device "ok").truthy && ((get apps "ok").truthy &&
      ((get leases "ok").truthy && true))) = true := right
  have here : (get device "ok").truthy = true := (Bool.and_eq_true_iff.mp all).1
  have surface : (snapshotState repr (handleStateSync repr device apps leases)).lookup "device" =
      some (StateSyncSurface.fromDict repr (summarizeStateSyncQuery repr device)) := rfl
  rw [surface, summary_unknown repr unstated here]
  rfl

theorem snapshotState_toDict (surfaces : List (String × StateSyncSurface)) (name : String) :
    (snapshotState repr [("state", .dict (surfaces.map fun surface =>
      (surface.1, .dict surface.2.toDict)))]).lookup name =
      (surfaces.lookup name).map fun surface => StateSyncSurface.fromDict repr surface.toDict := by
  have shape : snapshotState repr [("state", .dict (surfaces.map fun surface =>
      (surface.1, .dict surface.2.toDict)))] =
      surfaces.map fun surface =>
        (surface.1, StateSyncSurface.fromDict repr surface.2.toDict) := by
    rw [snapshotState]
    exact List.map_map
  rw [shape]
  clear shape
  induction surfaces with
  | nil => rfl
  | cons surface rest ih =>
      rw [List.map_cons, List.lookup_cons, List.lookup_cons]
      cases name == surface.1 with
      | true => rfl
      | false => exact ih

theorem unready_no_reply {result : ToolResult} {device : StateSyncSurface} {appId : String}
    (found : (snapshotState repr (get result.payload "state_sync").entries).lookup "device" =
      some device) (other : ["ok", "ready"].contains device.status = false) :
    (classifyActivationHealthResult repr result appId).classification = "no_reply" := by
  unfold classifyActivationHealthResult
  split
  · rfl
  · have unready : (!device.ok || !(["ok", "ready"].contains device.status)) = true := by
      rw [other]
      simp
    simp only [found, Option.getD_some, if_pos unready]

theorem classified_no_reply {device apps leases : Dict} (unstated : Unstated device)
    (appId : String) :
    (classifyActivationHealthResult repr (executeRead repr "system_state_sync"
      (handleStateSync repr device apps leases)) appId).classification = "no_reply" := by
  unfold executeRead
  split
  · rfl
  · next right =>
    have found := stateSync_device repr unstated (by simpa using right)
    have read := snapshotState_toDict repr
      (snapshotState repr (handleStateSync repr device apps leases)) "device"
    rw [found] at read
    have nested : extractNestedFailureStatus repr (handleStateSync repr device apps leases) =
        none := rfl
    rw [nested]
    have other : ["ok", "ready"].contains "unknown" = false := by decide
    exact unready_no_reply repr read other

theorem stateless_unknown {row : Dict} (stateless : Stateless row) :
    observedAppState repr row = "unknown" := by
  rw [observedAppState, stateless.1, stateless.2]
  rfl

theorem targetState_not_running {rows : List Dict} (stateless : ∀ row ∈ rows, Stateless row)
    (appId : String) : (targetState repr rows appId).appRunning = false := by
  unfold targetState
  split
  · rfl
  · next row matched =>
    rw [stateless_unknown repr (stateless row (List.mem_of_find?_eq_some matched))]
    decide +kernel

theorem queryAppsRows_stateless {result : Dict} (blind : Blind result) :
    ∀ row ∈ queryAppsRows result, Stateless row := by
  intro row member
  rw [queryAppsRows, blind.1] at member
  cases found : (dicts (get result "replies").items).findSome? (fun reply =>
      match get (get reply "payload").entries "apps" with
      | .list rows => some (dicts rows)
      | _ => none) with
  | none =>
      simp only [found] at member
      cases member
  | some rows =>
      simp only [found] at member
      obtain ⟨reply, inside, here⟩ := List.exists_of_findSome?_eq_some found
      split at here
      · next values listed =>
        cases here
        exact blind.2 reply inside values listed row member
      · cases here

theorem observedAppRows_stateless {result : Dict} (blind : Blind result) {rows : List Dict}
    (observed : observedAppRows (executeRead repr "system_query_apps" result) = some rows) :
    ∀ row ∈ rows, Stateless row := by
  intro row member
  unfold executeRead at observed
  split at observed
  · cases observed
    cases member
  split at observed
  · cases observed
    cases member
  · obtain ⟨reply, inside, values, listed, here⟩ := observedRows_mem observed member
    exact blind.2 reply inside values listed row here

end Reading

section Exchanges

variable (repr : Value → String) (loads : List UInt8 → Option Value)

/-- The application is running on the unit. -/
def Running (unit : UnitState) (appId : String) : Prop :=
  ∃ app ∈ unit.runtime.apps,
    CText.bytes app.name.text = appId.toUTF8.data.toList ∧ app.state = .running

/-- A unit, the queries of a state sync to it, and a query for its applications. -/
structure Exchange where
  unit : UnitState
  nowMs : Int
  device : Query
  apps : Query
  leases : Query
  queryApps : Query

def Exchange.deviceResult (exchange : Exchange) : Dict :=
  exchange.device.result repr loads
    (handleQueryDevice exchange.unit exchange.device.requestId)

def Exchange.appsResult (exchange : Exchange) : Dict :=
  exchange.apps.result repr loads (handleQueryApps exchange.unit exchange.apps.requestId)

def Exchange.leasesResult (exchange : Exchange) : Dict :=
  exchange.leases.result repr loads
    (handleQueryLeases exchange.unit exchange.leases.requestId exchange.nowMs)

def Exchange.queryAppsResult (exchange : Exchange) : Dict :=
  exchange.queryApps.result repr loads
    (handleQueryApps exchange.unit exchange.queryApps.requestId)

def Exchange.stateSync (exchange : Exchange) : ToolResult :=
  executeRead repr "system_state_sync" (handleStateSync repr (exchange.deviceResult repr loads)
    (exchange.appsResult repr loads) (exchange.leasesResult repr loads))

/-- The Core's execution of the query for the applications. -/
def Exchange.observation (exchange : Exchange) : ToolResult :=
  executeRead repr "system_query_apps" (exchange.queryAppsResult repr loads)

/-- Both queries of the state sync succeeded and found the network ready. -/
def Exchange.Reached (exchange : Exchange) : Prop :=
  (get (exchange.deviceResult repr loads) "ok").truthy = true ∧
    (get (exchange.appsResult repr loads) "ok").truthy = true ∧
    exchange.unit.networkState = .ready

/-- The query for the applications succeeded. -/
def Exchange.Listed (exchange : Exchange) : Prop :=
  (get (exchange.queryAppsResult repr loads) "ok").truthy = true

/-- Each reader of the Core takes the application for running if and only if it is. -/
structure ReadsCorrectly (exchange : Exchange) (appId : String) : Prop where
  health : (classifyActivationHealthResult repr (exchange.stateSync repr loads)
      appId).classification = "healthy" ↔
    exchange.Reached repr loads ∧ Running exchange.unit appId
  target : exchange.Listed repr loads →
    ((extractQueryAppsTargetState repr (exchange.queryAppsResult repr loads)
      appId).appRunning = true ↔ Running exchange.unit appId)
  rollback : exchange.Listed repr loads →
    ((∃ state, extractRollbackQueryAppsState repr (exchange.observation repr loads) appId =
      some state ∧ state.appRunning = true) ↔ Running exchange.unit appId)

variable {repr loads} {exchange : Exchange}

theorem stateSync_not_healthy (appId : String) :
    (classifyActivationHealthResult repr (exchange.stateSync repr loads)
      appId).classification ≠ "healthy" := by
  rw [Exchange.stateSync, Exchange.deviceResult,
    classified_no_reply repr (result_unstated repr exchange.device _) appId]
  decide

theorem target_not_running (appId : String) :
    (extractQueryAppsTargetState repr (exchange.queryAppsResult repr loads)
      appId).appRunning = false :=
  targetState_not_running repr
    (queryAppsRows_stateless (result_blind repr exchange.queryApps)) appId

theorem rollback_not_running {appId : String} {state : TargetState}
    (read : extractRollbackQueryAppsState repr (exchange.observation repr loads) appId =
      some state) : state.appRunning = false := by
  obtain ⟨rows, observed, rfl⟩ := Option.map_eq_some_iff.mp read
  exact targetState_not_running repr
    (observedAppRows_stateless repr (result_blind repr exchange.queryApps) observed) appId

/-- The readers look at fields the replies do not have, so they are right only about an
application that does not run, or about one they are not told of. -/
theorem reads_stopped_apps (repr : Value → String) (loads : List UInt8 → Option Value)
    (exchange : Exchange) (appId : String) :
    ReadsCorrectly repr loads exchange appId ↔
      ¬ Running exchange.unit appId ∨
        ¬ (exchange.Reached repr loads ∨ exchange.Listed repr loads) := by
  constructor
  · intro correct
    by_cases running : Running exchange.unit appId
    · right
      rintro (reached | listed)
      · exact stateSync_not_healthy appId (correct.health.mpr ⟨reached, running⟩)
      · have shown := (correct.target listed).mpr running
        rw [target_not_running appId] at shown
        cases shown
    · exact .inl running
  · intro condition
    constructor
    · refine ⟨fun healthy => absurd healthy (stateSync_not_healthy appId), ?_⟩
      rintro ⟨reached, running⟩
      exact absurd (.inl reached) (condition.resolve_left (not_not_intro running))
    · intro listed
      refine ⟨fun shown => ?_, fun running => ?_⟩
      · rw [target_not_running appId] at shown
        cases shown
      · exact absurd (.inr listed) (condition.resolve_left (not_not_intro running))
    · intro listed
      constructor
      · rintro ⟨state, read, shown⟩
        rw [rollback_not_running read] at shown
        cases shown
      · intro running
        exact absurd (.inr listed) (condition.resolve_left (not_not_intro running))

def runningUnit : UnitState where
  nodeId := CText.lit "unit-01"
  board := CText.lit "dnesp32s3b"
  zenohMode := CText.lit "client"
  sessionReady := true
  networkState := .ready
  ipv4 := CText.lit "192.168.2.69"
  runtime := { AppRuntime.init 0 with
    apps := [{
      name := ⟨CText.lit "neuro_demo_app", by decide⟩
      path := ⟨CText.lit "/SD:/apps/neuro_demo_app.llext", by decide⟩
      image := []
      callbacks := ⟨1, 2, 0, 3, 4, 5, 6, 7⟩
      state := .running
      priority := 100
      autoSuspended := false }] }
  manifestPresent := fun _ => true
  updateManager := UpdateManager.init
  artifactStore := ArtifactStore.init
  leaseManager := LeaseManager.init
  countsFit := by decide
  prioritiesFit := by simp

def answeredQuery (keyexpr : String) : Query where
  keyexpr
  payload := ⟨"req-1", "core-cli", "rational", "unit-01", 10000⟩
  requestId := CText.lit "req-1"
  first := .delivered
  later := []

def runningExchange : Exchange where
  unit := runningUnit
  nowMs := 0
  device := answeredQuery "neuro/unit-01/query/device"
  apps := answeredQuery "neuro/unit-01/query/apps"
  leases := answeredQuery "neuro/unit-01/query/leases"
  queryApps := answeredQuery "neuro/unit-01/query/apps"

/-- Every query is answered, the network is ready and the application runs. -/
theorem running_app_unread :
    ¬ ReadsCorrectly (fun _ => "") (fun _ => none) runningExchange "neuro_demo_app" := by
  intro correct
  have running : Running runningExchange.unit "neuro_demo_app" :=
    ⟨_, List.mem_singleton_self _, by decide +kernel, rfl⟩
  have reached : runningExchange.Reached (fun _ => "") fun _ => none := by
    refine ⟨by decide +kernel, by decide +kernel, rfl⟩
  exact stateSync_not_healthy _ (correct.health.mpr ⟨reached, running⟩)

end Exchanges

end NeuroLink.ActivationHealth
