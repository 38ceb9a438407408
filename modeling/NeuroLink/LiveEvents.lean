import NeuroLink.PyValue

/-!
How the Core reads a row of the CLI's event monitor: the row gets a topic, a type and an
identity, which is put together from the first of several optional fields of the payload.
-/

namespace NeuroLink.LiveEvents

open PyValue

/-- Built-in functions of Python that a row goes through and that read more than one kind of
value; the three before the last may raise. A text that does not encode, for its half of a
surrogate pair, is refused by the database. -/
structure Builtins where
  repr : Value → String
  lower : String → String
  intOfReal : String → Option Int
  intOfText : String → Option Int
  dictOfList : List Value → Option Dict
  encodes : String → Bool

namespace Builtins

variable (py : Builtins)

/-- `str(value or last)`. -/
def textOr (value : Value) (last : String) : String := (value.orElse (.str last)).text py.repr

/-- `int(value)`. -/
def toInt : Value → Option Int
  | .bool flag => some (if flag then 1 else 0)
  | .int number => some number
  | .real shown _ => py.intOfReal shown
  | .str text => py.intOfText text
  | _ => none

/-- `dict(value or {})`. -/
def toDict (value : Value) : Option Dict :=
  if value.truthy then
    match value with
    | .dict entries => some entries
    | .list items => py.dictOfList items
    | _ => none
  else some []

end Builtins

def segments (keyexpr : String) : List String :=
  ((keyexpr.toList.splitOn '/').map String.ofList).filter (· ≠ "")

/-- `_source_node_from_keyexpr`. -/
def sourceNodeFromKeyexpr (keyexpr : String) : String :=
  match segments keyexpr with
  | first :: node :: _ => if first = "neuro" then node else ""
  | _ => ""

/-- `_source_app_from_keyexpr`. -/
def sourceAppFromKeyexpr (keyexpr : String) : String :=
  match segments keyexpr with
  | first :: _ :: kind :: source :: app :: _ =>
      if first = "neuro" ∧ kind = "event" ∧ source = "app" then app else ""
  | _ => ""

/-- Every run of characters that are neither letters nor digits becomes one dash. -/
def dashed (inRun : Bool) : List Char → List Char
  | [] => []
  | char :: rest =>
      if char.isAlphanum then char :: dashed false rest
      else if inRun then dashed true rest
      else '-' :: dashed true rest

/-- `_event_id_token`. -/
def eventIdToken (text : String) : String :=
  let token := (stripWhere (· = '-') (String.ofList (dashed false text.toList))).toLower
  if token = "" then "unknown" else token

section Rows

variable (py : Builtins)

/-- `_payload_text`. -/
def payloadText (payload : Dict) (keys : List String) : String :=
  ((keys.map (PyValue.get payload)).findSome? fun
    | .none => none
    | value => if value.isText "" then none else some (value.text py.repr)).getD ""

/-- What `_semantic_topic_for_live_payload` says of an update. -/
def updateTopic (payload : Dict) : String :=
  let stage := py.lower (payloadText py payload ["stage"])
  let status := py.lower (payloadText py payload ["status", "update_state", "runtime_state"])
  if stage = "activate" ∧ !(["", "ok", "active", "running"].contains status) then
    "unit.lifecycle.activate_failed"
  else if stage ≠ "" then "unit.lifecycle." ++ stage
  else ""

def stateTopic (payload : Dict) : String :=
  let health := py.lower (payloadText py payload ["health"])
  let networkState := py.lower (payloadText py payload ["network_state"])
  let state := py.lower (payloadText py payload ["state", "runtime_state", "status"])
  let expectedEndpoint := payloadText py payload ["expected_endpoint", "configured_endpoint"]
  let observedEndpoint :=
    payloadText py payload ["observed_endpoint", "actual_endpoint", "current_endpoint"]
  let driftFlag := py.lower (payloadText py payload ["endpoint_drift"])
  if ["1", "true", "yes"].contains driftFlag ∨
      (expectedEndpoint ≠ "" ∧ observedEndpoint ≠ "" ∧ expectedEndpoint ≠ observedEndpoint) then
    "unit.network.endpoint_drift"
  else if health = "degraded" ∨ state = "degraded" then "unit.health.degraded"
  else if state = "offline" ∨ ["offline", "disconnected", "no_reply"].contains networkState then
    "unit.state.offline"
  else if state = "online" ∨ networkState = "network_ready" then "unit.state.online"
  else ""

def keyexprTopic (keyexpr : String) : String :=
  if "/health".toList.isSuffixOf keyexpr.toList then "unit.health.unknown"
  else if "/state".toList.isSuffixOf keyexpr.toList then "unit.state.unknown"
  else ""

/-- `_semantic_topic_for_live_payload`. -/
def semanticTopicForLivePayload (payload : Dict) (messageKind keyexpr current : String) :
    String :=
  if current ≠ "" then current
  else if messageKind = "callback_event" then "unit.callback"
  else if messageKind = "lease_event" then "lease_event"
  else
    let topic :=
      if messageKind = "update_event" then updateTopic py payload
      else if messageKind = "state_event" then stateTopic py payload
      else ""
    if topic ≠ "" then topic else keyexprTopic keyexpr

/-- What `_normalize_live_event_row` finds out about a row with a payload. -/
structure LiveFields where
  sourceNode : String
  sourceApp : String
  sourceKind : String
  semanticTopic : String
  eventType : String
  timestampWall : String

def liveFields (rawEvent payload : Dict) (defaultSourceKind defaultAppId : String) :
    LiveFields :=
  let keyexpr := py.textOr (PyValue.get rawEvent "keyexpr") ""
  let messageKind := py.textOr (PyValue.get payload "message_kind") ""
  let eventName := py.textOr (PyValue.get payload "event_name") ""
  let either (key : String) (last : String) : String :=
    (firstTrue [PyValue.get rawEvent key, PyValue.get payload key] (.str last)).text py.repr
  let sourceNode := either "source_node" (sourceNodeFromKeyexpr keyexpr)
  let sourceApp := (firstTrue [PyValue.get rawEvent "source_app",
    PyValue.get payload "source_app", PyValue.get payload "app_id", .str defaultAppId]
    (.str (sourceAppFromKeyexpr keyexpr))).text py.repr
  let sourceKind :=
    either "source_kind" (if sourceApp ≠ "" then "unit_app" else defaultSourceKind)
  let semanticTopic := semanticTopicForLivePayload py payload messageKind keyexpr
    (either "semantic_topic" "")
  let eventType := either "event_type" ""
  { sourceNode, sourceApp, sourceKind, semanticTopic
    timestampWall := either "timestamp_wall" ""
    eventType :=
      if eventType ≠ "" then eventType
      else if messageKind = "callback_event" then "callback"
      else if eventName ≠ "" then eventName
      else if semanticTopic ≠ "" then semanticTopic
      else if messageKind ≠ "" then messageKind
      else "unknown" }

def identitySeed (payload : Dict) (timestampWall : String) : String :=
  (firstTrue [PyValue.get payload "event_id", .str timestampWall,
    PyValue.get payload "timestamp_ms", PyValue.get payload "state_version",
    PyValue.get payload "sequence", PyValue.get payload "invoke_count",
    PyValue.get payload "status", PyValue.get payload "health", PyValue.get payload "state",
    PyValue.get payload "network_state"] (.str "0")).text py.repr

def liveEventId (fields : LiveFields) (payload : Dict) : String :=
  "liveevt-" ++ eventIdToken (if fields.sourceNode ≠ "" then fields.sourceNode else "node") ++
    "-" ++ eventIdToken (if fields.sourceApp ≠ "" then fields.sourceApp else fields.sourceKind) ++
    "-" ++ eventIdToken fields.eventType ++
    "-" ++ eventIdToken (identitySeed py payload fields.timestampWall)

def describeRow (rawEvent payload : Dict) (fields : LiveFields) : Dict :=
  let row := insertIf (fields.timestampWall ≠ "") rawEvent "timestamp_wall"
    (.str fields.timestampWall)
  let row := insertIf (!(PyValue.get row "event_id").truthy) row "event_id"
    (.str (liveEventId py fields payload))
  let row := insert row "source_kind" (.str fields.sourceKind)
  let row := insert row "source_node" (.str fields.sourceNode)
  let row := insertIf (fields.sourceApp ≠ "") row "source_app" (.str fields.sourceApp)
  let row := insert row "event_type" (.str fields.eventType)
  insert row "semantic_topic" (.str
    (if fields.semanticTopic ≠ "" then fields.semanticTopic else fields.eventType))

/-- `_normalize_live_event_row`; there is nothing if the priority cannot be read. -/
def normalizeLiveEventRow (rawEvent : Dict) (defaultSourceKind defaultAppId : String) :
    Option Dict :=
  if (PyValue.get rawEvent "semantic_topic").truthy &&
      (PyValue.get rawEvent "event_id").truthy then some rawEvent
  else
    match PyValue.get rawEvent "payload" with
    | .dict payload => do
        let fields := liveFields py rawEvent payload defaultSourceKind defaultAppId
        let row := describeRow py rawEvent payload fields
        let priority ← py.toInt (firstTrue [PyValue.get row "priority",
          PyValue.get payload "priority"] (.int (if fields.eventType = "callback" then 80 else 50)))
        let row := insert row "priority" (.int priority)
        let row := insert row "payload" (.dict payload)
        return setdefault row "dedupe_key" (PyValue.get row "event_id")
    | _ => some rawEvent

def appEventId (sourceApp eventType : Value) (payload : Dict) : String :=
  "appevt-" ++ sourceApp.text py.repr ++ "-" ++ eventType.text py.repr ++ "-" ++
    (PyValue.get payload "invoke_count").text py.repr ++ "-" ++
    (PyValue.get payload "start_count").text py.repr

/-- `_normalize_app_event_row`. -/
def normalizeAppEventRow (rawEvent : Dict) (defaultAppId : String) : Option Dict := do
  let payloadEventId :=
    py.textOr (PyValue.get (PyValue.get rawEvent "payload").entries "event_id") ""
  let row ← normalizeLiveEventRow py rawEvent "unit_app" defaultAppId
  match PyValue.get row "payload" with
  | .dict payload =>
      if py.textOr (PyValue.get row "event_type") "" = "callback" ∧ payloadEventId = "" then
        let eventId := py.textOr (PyValue.get payload "event_id")
          (appEventId py (PyValue.get row "source_app") (PyValue.get row "event_type") payload)
        return insert (insert row "event_id" (.str eventId)) "dedupe_key" (.str eventId)
      else return row
  | _ => return row

/-- A row of the event monitor; how the payload was encoded is not read. -/
structure Row where
  keyexpr : String
  payload : Value

def Row.toDict (row : Row) : Dict := [("keyexpr", .str row.keyexpr), ("payload", row.payload)]

/-- `collect_live_events` or `collect_app_events`. -/
inductive Collector where
  | live
  | app (appId : String)

/-- What the collector makes of a row. -/
def Collector.collect (row : Row) : Collector → Option Dict
  | .live => normalizeLiveEventRow py row.toDict "unit" ""
  | .app appId => normalizeAppEventRow py row.toDict appId

/-- The identity the collector gives to a row with a payload: the tokens of node, application
or kind, event type and seed, or for a callback of an application its two counts. -/
def Collector.payloadIdentity (row : Row) (payload : Dict) : Collector → String
  | .live => liveEventId py (liveFields py row.toDict payload "unit" "") payload
  | .app appId =>
      let fields := liveFields py row.toDict payload "unit_app" appId
      if fields.eventType = "callback" ∧ py.textOr (PyValue.get payload "event_id") "" = "" then
        py.textOr (PyValue.get payload "event_id") (appEventId py
          (if fields.sourceApp ≠ "" then .str fields.sourceApp else .none)
          (.str fields.eventType) payload)
      else liveEventId py fields payload

def Collector.identity (collector : Collector) (row : Row) : Option String :=
  match row.payload with
  | .dict payload =>
      let identity := collector.payloadIdentity py row payload
      if identity = "" then none else some identity
  | _ => none

/-- The payload is one the Core can read: a dictionary whose priority, if it has one, is a
number, or nothing at all. -/
def Row.Readable (row : Row) : Prop :=
  match row.payload with
  | .dict payload => (PyValue.get payload "priority").truthy = true →
      (py.toInt (PyValue.get payload "priority")).isSome = true
  | other => (py.toDict other).isSome = true

end Rows

section Identities

variable {py : Builtins}

structure Identified (row payload : Dict) (identity : String) : Prop where
  eventId : PyValue.get row "event_id" = .str identity
  dedupeKey : PyValue.get row "dedupe_key" = .str identity
  held : PyValue.get row "payload" = .dict payload
  priority : ∃ number, PyValue.get row "priority" = .int number

theorem describeRow_lookup {row : Row} {payload : Dict} {fields : LiveFields} {key : String}
    (other : key ∉ ["timestamp_wall", "event_id", "source_kind", "source_node", "source_app",
      "event_type", "semantic_topic"]) :
    (describeRow py row.toDict payload fields).lookup key = row.toDict.lookup key := by
  simp only [List.mem_cons, List.not_mem_nil, or_false, not_or] at other
  obtain ⟨notTime, notId, notKind, notNode, notApp, notType, notTopic⟩ := other
  unfold describeRow
  simp only
  rw [lookup_insert_ne notTopic, lookup_insert_ne notType, lookup_insertIf_ne notApp,
    lookup_insert_ne notNode, lookup_insert_ne notKind, lookup_insertIf_ne notId,
    lookup_insertIf_ne notTime]

theorem describeRow_eventId {row : Row} {payload : Dict} {fields : LiveFields} :
    PyValue.get (describeRow py row.toDict payload fields) "event_id" =
      .str (liveEventId py fields payload) := by
  unfold describeRow
  simp only
  rw [get_insert_ne (by decide), get_insert_ne (by decide), get_insertIf_ne (by decide),
    get_insert_ne (by decide), get_insert_ne (by decide)]
  have absent : (PyValue.get (insertIf (fields.timestampWall ≠ "") row.toDict "timestamp_wall"
      (.str fields.timestampWall)) "event_id").truthy = false := by
    rw [get_insertIf_ne (by decide)]
    rfl
  rw [absent]
  exact get_insert_self

theorem describeRow_eventType {row : Row} {payload : Dict} {fields : LiveFields} :
    PyValue.get (describeRow py row.toDict payload fields) "event_type" =
      .str fields.eventType := by
  unfold describeRow
  simp only
  rw [get_insert_ne (by decide), get_insert_self]

theorem describeRow_sourceApp {row : Row} {payload : Dict} {fields : LiveFields} :
    PyValue.get (describeRow py row.toDict payload fields) "source_app" =
      if fields.sourceApp ≠ "" then .str fields.sourceApp else .none := by
  unfold describeRow
  simp only
  rw [get_insert_ne (by decide), get_insert_ne (by decide)]
  by_cases named : fields.sourceApp = ""
  · rw [if_neg (by simpa using named), insertIf, if_neg (by simpa using named),
      get_insert_ne (by decide), get_insert_ne (by decide), get_insertIf_ne (by decide),
      get_insertIf_ne (by decide)]
    rfl
  · rw [if_pos named, insertIf, if_pos (by simpa using named), get_insert_self]

/-- What a row of the monitor with a readable payload becomes. -/
theorem normalizeLiveEventRow_identified {row : Row} {payload : Dict}
    (defaultSourceKind defaultAppId : String) (dictionary : row.payload = .dict payload)
    (readable : row.Readable py) :
    ∃ collected, normalizeLiveEventRow py row.toDict defaultSourceKind defaultAppId =
        some collected ∧
      Identified collected payload (liveEventId py
        (liveFields py row.toDict payload defaultSourceKind defaultAppId) payload) ∧
      PyValue.get collected "event_type" =
        .str (liveFields py row.toDict payload defaultSourceKind defaultAppId).eventType ∧
      PyValue.get collected "source_app" =
        if (liveFields py row.toDict payload defaultSourceKind defaultAppId).sourceApp ≠ "" then
          .str (liveFields py row.toDict payload defaultSourceKind defaultAppId).sourceApp
        else .none := by
  have held : PyValue.get row.toDict "payload" = .dict payload := dictionary
  have bare : ((PyValue.get row.toDict "semantic_topic").truthy &&
      (PyValue.get row.toDict "event_id").truthy) = false := rfl
  rw [Row.Readable, dictionary] at readable
  let fields := liveFields py row.toDict payload defaultSourceKind defaultAppId
  let described := describeRow py row.toDict payload fields
  have noPriority : PyValue.get described "priority" = .none :=
    congrArg (·.getD .none) (describeRow_lookup (by decide))
  have noKey : described.lookup "dedupe_key" = none := describeRow_lookup (by decide)
  -- the row has no priority of its own: the payload's is read, else a default
  have priority : ∃ number, py.toInt (firstTrue [PyValue.get described "priority",
      PyValue.get payload "priority"]
      (.int (if fields.eventType = "callback" then 80 else 50))) = some number := by
    rw [noPriority, firstTrue_cons, orElse_falsy _ rfl, firstTrue_cons, firstTrue_nil]
    by_cases given : (PyValue.get payload "priority").truthy = true
    · rw [orElse_truthy _ given]
      exact Option.isSome_iff_exists.mp (readable given)
    · rw [orElse_falsy _ (by simpa using given)]
      exact ⟨_, rfl⟩
  obtain ⟨number, numbered⟩ := priority
  let row' := insert (insert described "priority" (.int number)) "payload" (.dict payload)
  have named : PyValue.get row' "event_id" = .str (liveEventId py fields payload) := by
    rw [get_insert_ne (by decide), get_insert_ne (by decide)]
    exact describeRow_eventId
  refine ⟨setdefault row' "dedupe_key" (PyValue.get row' "event_id"), ?_, ?_, ?_, ?_⟩
  · rw [normalizeLiveEventRow, bare, held]
    simp only [Bool.false_eq_true, if_false]
    exact congrArg (Option.bind · _) numbered
  · constructor
    · rw [get_setdefault_ne (by decide), named]
    · rw [get_setdefault_self, named]
      rw [lookup_insert_ne (by decide), lookup_insert_ne (by decide), noKey]
    · rw [get_setdefault_ne (by decide), get_insert_self]
    · refine ⟨number, ?_⟩
      rw [get_setdefault_ne (by decide), get_insert_ne (by decide), get_insert_self]
  · rw [get_setdefault_ne (by decide), get_insert_ne (by decide), get_insert_ne (by decide)]
    exact describeRow_eventType
  · rw [get_setdefault_ne (by decide), get_insert_ne (by decide), get_insert_ne (by decide)]
    exact describeRow_sourceApp

theorem normalizeLiveEventRow_unreadable {row : Row} {payload : Dict}
    (defaultSourceKind defaultAppId : String) (dictionary : row.payload = .dict payload)
    (unreadable : ¬ row.Readable py) :
    normalizeLiveEventRow py row.toDict defaultSourceKind defaultAppId = none := by
  have held : PyValue.get row.toDict "payload" = .dict payload := dictionary
  have bare : ((PyValue.get row.toDict "semantic_topic").truthy &&
      (PyValue.get row.toDict "event_id").truthy) = false := rfl
  rw [Row.Readable, dictionary] at unreadable
  push Not at unreadable
  obtain ⟨given, unread⟩ := unreadable
  let fields := liveFields py row.toDict payload defaultSourceKind defaultAppId
  have noPriority : PyValue.get (describeRow py row.toDict payload fields) "priority" = .none :=
    congrArg (·.getD .none) (describeRow_lookup (by decide))
  have raises : py.toInt (firstTrue [PyValue.get (describeRow py row.toDict payload fields)
      "priority", PyValue.get payload "priority"]
      (.int (if fields.eventType = "callback" then 80 else 50))) = none := by
    rw [noPriority, firstTrue_cons, orElse_falsy _ rfl, firstTrue_cons, orElse_truthy _ given]
    simpa using unread
  rw [normalizeLiveEventRow, bare, held]
  simp only [Bool.false_eq_true, if_false]
  exact congrArg (Option.bind · _) raises

theorem normalizeLiveEventRow_plain {row : Row} (defaultSourceKind defaultAppId : String)
    (plain : ∀ payload, row.payload ≠ .dict payload) :
    normalizeLiveEventRow py row.toDict defaultSourceKind defaultAppId = some row.toDict := by
  have held : PyValue.get row.toDict "payload" = row.payload := rfl
  have bare : ((PyValue.get row.toDict "semantic_topic").truthy &&
      (PyValue.get row.toDict "event_id").truthy) = false := rfl
  rw [normalizeLiveEventRow, bare, held]
  cases kind : row.payload with
  | dict payload => exact absurd kind (plain payload)
  | _ => rfl

variable {collector : Collector} {row : Row} {payload : Dict}

theorem textOr_str (text : String) : py.textOr (.str text) "" = text := by
  unfold Builtins.textOr
  by_cases empty : text = ""
  · rw [empty]
    rfl
  · rw [orElse_truthy _ (by simpa using empty), text_str]

theorem normalizeAppEventRow_identified (appId : String)
    (dictionary : row.payload = .dict payload) (readable : row.Readable py) :
    ∃ collected, normalizeAppEventRow py row.toDict appId = some collected ∧
      Identified collected payload ((Collector.app appId).payloadIdentity py row payload) := by
  obtain ⟨collected, normalized, facts, eventType, sourceApp⟩ :=
    normalizeLiveEventRow_identified "unit_app" appId dictionary readable
  let fields := liveFields py row.toDict payload "unit_app" appId
  let eventId := py.textOr (PyValue.get payload "event_id") (appEventId py
    (if fields.sourceApp ≠ "" then .str fields.sourceApp else .none) (.str fields.eventType)
    payload)
  have step : normalizeAppEventRow py row.toDict appId =
      if fields.eventType = "callback" ∧ py.textOr (PyValue.get payload "event_id") "" = "" then
        some (insert (insert collected "event_id" (.str eventId)) "dedupe_key" (.str eventId))
      else some collected := by
    have held : PyValue.get row.toDict "payload" = .dict payload := dictionary
    rw [normalizeAppEventRow, normalized, held]
    simp only [Option.bind_eq_bind, Option.bind_some, facts.held, eventType, sourceApp, textOr_str]
    rfl
  rw [step, Collector.payloadIdentity]
  split
  · refine ⟨_, rfl, ?_⟩
    constructor
    · rw [get_insert_ne (by decide), get_insert_self]
    · rw [get_insert_self]
    · rw [get_insert_ne (by decide), get_insert_ne (by decide), facts.held]
    · obtain ⟨number, numbered⟩ := facts.priority
      refine ⟨number, ?_⟩
      rw [get_insert_ne (by decide), get_insert_ne (by decide), numbered]
  · exact ⟨collected, rfl, facts⟩

theorem collect_identified (dictionary : row.payload = .dict payload)
    (readable : row.Readable py) :
    ∃ collected, collector.collect py row = some collected ∧
      Identified collected payload (collector.payloadIdentity py row payload) := by
  cases collector with
  | live =>
      obtain ⟨collected, collects, facts, _⟩ :=
        normalizeLiveEventRow_identified "unit" "" dictionary readable
      exact ⟨collected, collects, facts⟩
  | app appId => exact normalizeAppEventRow_identified appId dictionary readable

theorem collect_unreadable (dictionary : row.payload = .dict payload)
    (unreadable : ¬ row.Readable py) : collector.collect py row = none := by
  cases collector with
  | live => exact normalizeLiveEventRow_unreadable "unit" "" dictionary unreadable
  | app appId =>
      have stopped := normalizeLiveEventRow_unreadable "unit_app" appId dictionary unreadable
      rw [Collector.collect, normalizeAppEventRow, stopped]
      rfl

theorem readable_plain (plain : ∀ payload, row.payload ≠ .dict payload) :
    row.Readable py ↔ (py.toDict row.payload).isSome = true := by
  unfold Row.Readable
  cases kind : row.payload with
  | dict payload => exact absurd kind (plain payload)
  | _ => rfl

theorem collect_plain (plain : ∀ payload, row.payload ≠ .dict payload) :
    collector.collect py row = some row.toDict := by
  cases collector with
  | live => exact normalizeLiveEventRow_plain "unit" "" plain
  | app appId =>
      have same : normalizeLiveEventRow py row.toDict "unit_app" appId = some row.toDict :=
        normalizeLiveEventRow_plain "unit_app" appId plain
      have held : PyValue.get row.toDict "payload" = row.payload := rfl
      rw [Collector.collect, normalizeAppEventRow, same]
      simp only [Option.bind_eq_bind, Option.bind_some, held]
      cases kind : row.payload with
      | dict payload => exact absurd kind (plain payload)
      | _ => rfl

end Identities

end NeuroLink.LiveEvents
