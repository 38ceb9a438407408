import NeuroLink.EventQueue
import NeuroLink.LiveEvents
import NeuroLink.NetworkManager
import NeuroLink.PayloadCodec
import NeuroLink.ReplyReading
import NeuroLink.RollbackAgreement

/-!
The events of the unit on their way to the Core: the unit encodes what happened under a route
of its own, the CLI decodes the payload, and the Core reads node, application and topic from
both. What the Core ends up with is what the unit said.
-/

namespace NeuroLink.UnitEvents

open CText Cbor QueryReplies EventQueue RequestDispatch PyValue CliQuery LiveEvents ReplyReading
open RollbackAgreement (decoded)

/-- `enum neuro_protocol_cbor_key`, the keys that no reply to a query uses. -/
inductive EventKey where
  | eventName
  | invokeCount
  | startCount
  | stage
  | detail
  | action

def EventKey.number : EventKey → Nat
  | .eventName => 82
  | .invokeCount => 83
  | .startCount => 84
  | .stage => 90
  | .detail => 91
  | .action => 93

def putEvent (key : EventKey) (value : Item) : Item × Item := (.int key.number, value)

/-- `struct neuro_protocol_callback_event`, `neuro_protocol_update_event_cbor`,
`neuro_protocol_state_event_cbor` and `neuro_protocol_lease_event_cbor`, without the node. -/
inductive UnitEvent where
  | callback (appId eventName : Text) (invokeCount : UInt32) (startCount : Int32)
  | update (appId stage status detail : Text)
  | state (appCount runningCount : UInt32) (networkState : NetworkState)
  | lease (action : Text) (leaseId : Buffer 32) (resource : Buffer 48)
      (sourceCore sourceAgent : Buffer 24) (priority : Int32)

/-- `neuro_protocol_encode_callback_event_cbor` and its siblings, up to the bytes. -/
def entries (nodeId : Text) : UnitEvent → List (Item × Item)
  | .callback appId eventName invokeCount startCount => envelope 40 ++
      [putText .appId appId, putEvent .eventName (.text (bytes eventName)),
        putEvent .invokeCount (.int invokeCount.toNat),
        putEvent .startCount (.int startCount.toInt)]
  | .update appId stage status detail => envelope 41 ++
      [putText .nodeId nodeId, putText .appId appId, putEvent .stage (.text (bytes stage)),
        putText .status status, putEvent .detail (.text (bytes detail))]
  | .state appCount runningCount networkState => envelope 42 ++
      [putText .nodeId nodeId, putNumber .appCount appCount.toNat,
        putNumber .runningCount runningCount.toNat,
        putText .networkState (networkStateToStr networkState)]
  | .lease action leaseId resource sourceCore sourceAgent priority => envelope 43 ++
      [putText .nodeId nodeId, putEvent .action (.text (bytes action)),
        putText .leaseId leaseId.text, putText .resource resource.text,
        putText .sourceCore sourceCore.text, putText .sourceAgent sourceAgent.text,
        putNumber .priority priority.toInt]

def UnitEvent.capacity : UnitEvent → Nat
  | .callback _ _ _ _ | .lease _ _ _ _ _ _ => jsonLen
  | .update _ _ _ _ | .state _ _ _ => maxCborLen

/-- The key of the event: `neuro_unit_event_build_app_key` of a callback, or
`neuro_unit_event_build_key` with the suffix `publish_state_event`, `publish_update_event` or
`publish_lease_event` asks for. -/
def route (nodeId : Text) : UnitEvent → Except Int Text
  | .callback appId eventName _ _ => buildAppEventRoute keyLen nodeId appId eventName
  | .update _ _ _ _ => buildEventRoute keyLen nodeId (lit "update")
  | .state _ _ _ => buildEventRoute keyLen nodeId (lit "state")
  | .lease _ leaseId _ _ _ _ =>
      -- the suffix is printed into 64 bytes
      buildEventRoute keyLen nodeId ((lit "lease/" ++ leaseId.text).take 63)

/-- What is handed to the publisher, if the event has a route and its bytes fit. -/
def publication (nodeId : Text) (event : UnitEvent) : Option Pending :=
  match route nodeId event with
  | .error _ => none
  | .ok keyexpr =>
      (encodeInto event.capacity (.map (entries nodeId event))).map (Pending.mk keyexpr)

def shown (text : Text) : String := (decoded text).getD ""

/-- The texts of an event. -/
def UnitEvent.texts : UnitEvent → List Text
  | .callback appId eventName _ _ => [appId, eventName]
  | .update appId stage status detail => [appId, stage, status, detail]
  | .state _ _ _ => []
  | .lease action leaseId resource sourceCore sourceAgent _ =>
      [action, leaseId.text, resource.text, sourceCore.text, sourceAgent.text]

def document (nodeId : Text) : UnitEvent → Dict
  | .callback appId eventName invokeCount startCount =>
      [("schema_version", .int 2), ("message_kind", .str "callback_event"),
        ("app_id", .str (shown appId)), ("event_name", .str (shown eventName)),
        ("invoke_count", .int invokeCount.toNat), ("start_count", .int startCount.toInt)]
  | .update appId stage status detail =>
      [("schema_version", .int 2), ("message_kind", .str "update_event"),
        ("node_id", .str (shown nodeId)), ("app_id", .str (shown appId)),
        ("stage", .str (shown stage)), ("status", .str (shown status)),
        ("detail", .str (shown detail))]
  | .state appCount runningCount networkState =>
      [("schema_version", .int 2), ("message_kind", .str "state_event"),
        ("node_id", .str (shown nodeId)), ("app_count", .int appCount.toNat),
        ("running_count", .int runningCount.toNat),
        ("network_state", .str (shown (networkStateToStr networkState)))]
  | .lease action leaseId resource sourceCore sourceAgent priority =>
      [("schema_version", .int 2), ("message_kind", .str "lease_event"),
        ("node_id", .str (shown nodeId)), ("action", .str (shown action)),
        ("lease_id", .str (shown leaseId.text)), ("resource", .str (shown resource.text)),
        ("source_core", .str (shown sourceCore.text)),
        ("source_agent", .str (shown sourceAgent.text)),
        ("priority", .int priority.toInt)]

/-- Python's `str.lower` as far as it is known here: it takes ASCII letters for letters. -/
def LowersAscii (lower : String → String) : Prop :=
  ∀ text : String, text.toList.all (fun char => char.toNat < 128) = true →
    lower text = text.toLower

def UnitEvent.topic (lower : String → String) : UnitEvent → String
  | .callback _ _ _ _ => "unit.callback"
  | .update _ stage status _ =>
      if lower (shown stage) = "activate" ∧
          lower (shown status) ∉ ["", "ok", "active", "running"] then
        "unit.lifecycle.activate_failed"
      else if lower (shown stage) ≠ "" then "unit.lifecycle." ++ lower (shown stage)
      else "update_event"
  | .state _ _ networkState =>
      if networkState = .ready then "unit.state.online" else "unit.state.unknown"
  | .lease _ _ _ _ _ _ => "lease_event"

/-- The application an event is about, if there is one. -/
def UnitEvent.app : UnitEvent → String
  | .callback appId _ _ _ | .update appId _ _ _ => shown appId
  | .state _ _ _ | .lease _ _ _ _ _ _ => ""

/-- The record the Core keeps says what the unit said. -/
structure Reports (lower : String → String) (nodeId : Text) (event : UnitEvent) (row : Dict) :
    Prop where
  node : get row "source_node" = .str (shown nodeId)
  app : get row "source_app" = if event.app ≠ "" then .str event.app else .none
  topic : get row "semantic_topic" = .str (event.topic lower)
  payload : get row "payload" = .dict (document nodeId event).reverse

section Texts

variable {text left right : Text} {string first second : String}

theorem utf8_of_decoded (read : decoded text = some string) :
    PayloadCodec.utf8 string = bytes text := by
  unfold decoded String.fromUTF8? at read
  split at read
  · cases read
    simp [PayloadCodec.utf8, String.fromUTF8]
  · cases read

theorem decoded_of_utf8 (same : PayloadCodec.utf8 string = bytes text) :
    decoded text = some string := by
  rw [decoded, ← same, PayloadCodec.utf8_read]

theorem utf8_append (first second : String) :
    PayloadCodec.utf8 (first ++ second) = PayloadCodec.utf8 first ++ PayloadCodec.utf8 second := by
  simp [PayloadCodec.utf8, String.toByteArray_append]

theorem decoded_append (one : decoded left = some first) (two : decoded right = some second) :
    decoded (left ++ right) = some (first ++ second) := by
  apply decoded_of_utf8
  rw [utf8_append, utf8_of_decoded one, utf8_of_decoded two, bytes, bytes, bytes, List.map_append]

theorem shown_of_decoded (read : decoded text = some string) : shown text = string := by
  rw [shown, read, Option.getD_some]

theorem no_slash (read : decoded text = some string) (clean : slash ∉ text) :
    '/' ∉ string.toList := by
  intro inside
  obtain ⟨front, behind, split⟩ := List.append_of_mem inside
  have parts : string = String.ofList front ++ "/" ++ String.ofList behind := by
    apply String.toList_injective
    rw [split]
    simp
  have same := utf8_of_decoded read
  rw [parts, utf8_append, utf8_append] at same
  have there : (47 : UInt8) ∈ bytes text := by
    rw [← same]
    exact List.mem_append_left _ (List.mem_append_right _ (by decide))
  obtain ⟨letter, listed, byte⟩ := List.mem_map.mp there
  have same : letter = slash := Subtype.ext byte
  exact clean (same ▸ listed)

end Texts

section Payload

variable {key : Item} {name : String} {rest : List (Item × Item)} {later : Dict}

theorem toEntries_text {text : Text} (known : keyName true key = some name)
    (other : name ≠ "message_kind") (read : decoded text = some (shown text))
    (after : toEntries true rest = some later) :
    toEntries true ((key, .text (bytes text)) :: rest) =
      some ((name, .str (shown text)) :: later) := by
  have value : toValue true (.text (bytes text)) = some (.str (shown text)) := by
    rw [toValue]
    exact congrArg (Option.map Value.str) read
  simp [toEntries, known, value, after, other]

theorem toEntries_number {number : Int} (known : keyName true key = some name)
    (other : name ≠ "message_kind") (after : toEntries true rest = some later) :
    toEntries true ((key, .int number) :: rest) = some ((name, .int number) :: later) := by
  have value : toValue true (.int number) = some (.int number) := by rw [toValue]
  simp [toEntries, known, value, after, other]

theorem toEntries_envelope {kind : Nat} {kindText : String}
    (known : messageKindNames.lookup kind = some kindText)
    (after : toEntries true rest = some later) :
    toEntries true (envelope kind ++ rest) =
      some (("schema_version", .int 2) :: ("message_kind", .str kindText) :: later) := by
  have named : toEntries true ((.int 1, .int kind) :: rest) =
      some (("message_kind", .str kindText) :: later) := by
    have name : keyName true (.int 1) = some "message_kind" := rfl
    simp [toEntries, name, toValue, after, messageKindName, known]
  exact toEntries_number rfl (by decide) named

/-- Every text of the event, and the name of the node, is legible. -/
def Legible (nodeId : Text) (event : UnitEvent) : Prop :=
  ∀ text ∈ nodeId :: event.texts, (decoded text).isSome = true

theorem decoded_shown {text : Text} (legible : (decoded text).isSome = true) :
    decoded text = some (shown text) := by
  obtain ⟨string, read⟩ := Option.isSome_iff_exists.mp legible
  rw [shown_of_decoded read, read]

theorem networkState_decoded (state : NetworkState) :
    decoded (networkStateToStr state) = some (shown (networkStateToStr state)) := by
  apply decoded_shown
  cases state <;> decide +kernel

theorem toEntries_entries {nodeId : Text} {event : UnitEvent} (legible : Legible nodeId event) :
    toEntries true (entries nodeId event) = some (document nodeId event) := by
  have node := decoded_shown (legible nodeId List.mem_cons_self)
  have read : ∀ text ∈ event.texts, decoded text = some (shown text) :=
    fun text member => decoded_shown (legible text (List.mem_cons_of_mem _ member))
  cases event with
  | callback appId eventName invokeCount startCount =>
      refine toEntries_envelope rfl ?_
      refine toEntries_text rfl (by decide) (read appId (by simp [UnitEvent.texts])) ?_
      refine toEntries_text rfl (by decide) (read eventName (by simp [UnitEvent.texts])) ?_
      refine toEntries_number rfl (by decide) ?_
      exact toEntries_number rfl (by decide) rfl
  | update appId stage status detail =>
      refine toEntries_envelope rfl ?_
      refine toEntries_text rfl (by decide) node ?_
      refine toEntries_text rfl (by decide) (read appId (by simp [UnitEvent.texts])) ?_
      refine toEntries_text rfl (by decide) (read stage (by simp [UnitEvent.texts])) ?_
      refine toEntries_text rfl (by decide) (read status (by simp [UnitEvent.texts])) ?_
      exact toEntries_text rfl (by decide) (read detail (by simp [UnitEvent.texts])) rfl
  | state appCount runningCount networkState =>
      refine toEntries_envelope rfl ?_
      refine toEntries_text rfl (by decide) node ?_
      refine toEntries_number rfl (by decide) ?_
      refine toEntries_number rfl (by decide) ?_
      exact toEntries_text rfl (by decide) (networkState_decoded networkState) rfl
  | lease action leaseId resource sourceCore sourceAgent priority =>
      refine toEntries_envelope rfl ?_
      refine toEntries_text rfl (by decide) node ?_
      refine toEntries_text rfl (by decide) (read action (by simp [UnitEvent.texts])) ?_
      refine toEntries_text rfl (by decide) (read leaseId.text (by simp [UnitEvent.texts])) ?_
      refine toEntries_text rfl (by decide) (read resource.text (by simp [UnitEvent.texts])) ?_
      refine toEntries_text rfl (by decide) (read sourceCore.text (by simp [UnitEvent.texts])) ?_
      refine toEntries_text rfl (by decide) (read sourceAgent.text (by simp [UnitEvent.texts])) ?_
      exact toEntries_number rfl (by decide) rfl

theorem plain_nil : PlainEntries [] := ⟨by simp, by simp⟩

theorem plain_cons (number : Nat) {value : Item} (small : number < 256) (fits : Plain value)
    (plain : PlainEntries rest) : PlainEntries ((.int number, value) :: rest) where
  keys := List.forall_mem_cons.mpr ⟨⟨number, small, rfl⟩, plain.keys⟩
  values := List.forall_mem_cons.mpr ⟨fits, plain.values⟩

theorem plain_envelope {kind : Nat} (small : kind < 2 ^ 64) (plain : PlainEntries rest) :
    PlainEntries (envelope kind ++ rest) :=
  plain_cons 0 (by decide) (by constructor <;> decide)
    (plain_cons 1 (by decide) (by constructor <;> omega) plain)

theorem plain_unsigned (number : UInt32) : Plain (.int number.toNat) := by
  have small := number.toNat_lt
  constructor <;> omega

theorem plain_signed (number : Int32) : Plain (.int number.toInt) := by
  have low := number.le_toInt
  have high := number.toInt_lt
  constructor <;> omega

theorem entries_plain (nodeId : Text) (event : UnitEvent) :
    PlainEntries (entries nodeId event) := by
  cases event with
  | callback appId eventName invokeCount startCount =>
      refine plain_envelope (by decide) ?_
      refine plain_cons _ (by decide) trivial ?_
      refine plain_cons _ (by decide) trivial ?_
      refine plain_cons _ (by decide) (plain_unsigned invokeCount) ?_
      exact plain_cons _ (by decide) (plain_signed startCount) plain_nil
  | update appId stage status detail =>
      refine plain_envelope (by decide) ?_
      refine plain_cons _ (by decide) trivial ?_
      refine plain_cons _ (by decide) trivial ?_
      refine plain_cons _ (by decide) trivial ?_
      refine plain_cons _ (by decide) trivial ?_
      exact plain_cons _ (by decide) trivial plain_nil
  | state appCount runningCount networkState =>
      refine plain_envelope (by decide) ?_
      refine plain_cons _ (by decide) trivial ?_
      refine plain_cons _ (by decide) (plain_unsigned appCount) ?_
      refine plain_cons _ (by decide) (plain_unsigned runningCount) ?_
      exact plain_cons _ (by decide) trivial plain_nil
  | lease action leaseId resource sourceCore sourceAgent priority =>
      refine plain_envelope (by decide) ?_
      refine plain_cons _ (by decide) trivial ?_
      refine plain_cons _ (by decide) trivial ?_
      refine plain_cons _ (by decide) trivial ?_
      refine plain_cons _ (by decide) trivial ?_
      refine plain_cons _ (by decide) trivial ?_
      refine plain_cons _ (by decide) trivial ?_
      exact plain_cons _ (by decide) (plain_signed priority) plain_nil

theorem encodeInto_some {size : Nat} {item : Item} {data : List UInt8}
    (encoded : encodeInto size item = some data) : data = encode item ∧ data.length ≤ size := by
  rw [encodeInto] at encoded
  split at encoded
  · next fits =>
    cases encoded
    exact ⟨rfl, fits⟩
  · cases encoded

theorem capacity_lt (event : UnitEvent) : event.capacity < 2 ^ 64 := by
  unfold UnitEvent.capacity
  split <;> decide

/-- What the unit publishes is the encoding of the event under its route. -/
theorem publication_some {nodeId : Text} {event : UnitEvent} {pending : Pending}
    (published : publication nodeId event = some pending) :
    route nodeId event = .ok pending.keyexpr ∧
      pending.payload = encode (.map (entries nodeId event)) ∧
      pending.payload.length ≤ event.capacity := by
  rw [publication] at published
  cases addressed : route nodeId event with
  | error code =>
      rw [addressed] at published
      cases published
  | ok keyexpr =>
      rw [addressed] at published
      obtain ⟨data, encoded, rfl⟩ := Option.map_eq_some_iff.mp published
      obtain ⟨same, fits⟩ := encodeInto_some encoded
      exact ⟨rfl, same, fits⟩

/-- The CLI reads off the payload what the unit said, field by field. -/
theorem publication_read (loads : List UInt8 → Option Value) {nodeId : Text}
    {event : UnitEvent} {pending : Pending} (legible : Legible nodeId event)
    (published : publication nodeId event = some pending) :
    parseWirePayload loads pending.payload = some (.dict (document nodeId event).reverse) := by
  obtain ⟨_, encoded, fits⟩ := publication_some published
  have short : (encode (.map (entries nodeId event))).length < 2 ^ 64 := by
    rw [← encoded]
    exact lt_of_le_of_lt fits (capacity_lt event)
  rw [encoded, parseWirePayload_encode loads (entries_plain nodeId event).fits short, toValue,
    toEntries_entries legible]
  rfl

end Payload

section Routes

theorem segments_slash {head rest : String} (clean : '/' ∉ head.toList) (filled : head ≠ "") :
    segments (head ++ "/" ++ rest) = head :: segments rest := by
  have letters : (head ++ "/" ++ rest).toList = head.toList ++ '/' :: rest.toList := by simp
  rw [segments, letters, List.splitOn_append_cons_self_of_not_mem clean, List.map_cons,
    String.ofList_toList, List.filter_cons_of_pos (by simpa using filled), segments]

theorem shown_valid {token : Text} (valid : tokenIsValid token = true)
    (legible : (decoded token).isSome = true) :
    '/' ∉ (shown token).toList ∧ shown token ≠ "" := by
  simp only [tokenIsValid, Bool.and_eq_true, Bool.not_eq_true', List.isEmpty_eq_false_iff,
    List.contains_eq_mem, decide_eq_false_iff_not] at valid
  obtain ⟨filled, clean⟩ := valid
  have read := decoded_shown legible
  refine ⟨no_slash read clean, ?_⟩
  intro empty
  have same := utf8_of_decoded read
  rw [empty] at same
  exact filled (List.map_eq_nil_iff.mp same.symm)

variable {nodeId : Text} {event : UnitEvent} {keyexpr : Text}

def tail : UnitEvent → Text
  | .callback appId eventName _ _ => lit "app/" ++ appId ++ lit "/" ++ eventName
  | .update _ _ _ _ => lit "update"
  | .state _ _ _ => lit "state"
  | .lease _ leaseId _ _ _ _ => lit "lease/" ++ leaseId.text

theorem buildEventRoute_ok {suffix : Text}
    (routed : buildEventRoute keyLen nodeId suffix = .ok keyexpr) :
    tokenIsValid nodeId = true ∧ keyexpr = lit "neuro/" ++ nodeId ++ lit "/event/" ++ suffix := by
  rw [buildEventRoute] at routed
  split at routed
  · cases routed
  · next valid =>
    dsimp only at routed
    split at routed
    · cases routed
    · cases routed
      push Not at valid
      exact ⟨valid.2.1, rfl⟩

theorem route_ok (routed : route nodeId event = .ok keyexpr) :
    tokenIsValid nodeId = true ∧
      keyexpr = lit "neuro/" ++ nodeId ++ lit "/event/" ++ tail event := by
  cases event with
  | callback appId eventName invokeCount startCount =>
      rw [route, buildAppEventRoute] at routed
      split at routed
      · cases routed
      · next valid =>
        dsimp only at routed
        split at routed
        · cases routed
        · cases routed
          push Not at valid
          refine ⟨valid.2.1, ?_⟩
          have path : lit "/event/app/" = lit "/event/" ++ lit "app/" := by decide
          rw [path, tail]
          simp only [List.append_assoc]
  | update appId stage status detail => exact buildEventRoute_ok routed
  | state appCount runningCount networkState => exact buildEventRoute_ok routed
  | lease action leaseId resource sourceCore sourceAgent priority =>
      have whole : (lit "lease/" ++ leaseId.text).take 63 = lit "lease/" ++ leaseId.text := by
        apply List.take_of_length_le
        have short := leaseId.fits
        have prefixed : (lit "lease/").length = 6 := by decide
        rw [List.length_append]
        omega
      rw [route, whole] at routed
      exact buildEventRoute_ok routed

def shownTail : UnitEvent → String
  | .callback appId eventName _ _ => "app/" ++ shown appId ++ "/" ++ shown eventName
  | .update _ _ _ _ => "update"
  | .state _ _ _ => "state"
  | .lease _ leaseId _ _ _ _ => "lease/" ++ shown leaseId.text

def shownKey (nodeId : Text) (event : UnitEvent) : String :=
  "neuro/" ++ shown nodeId ++ "/event/" ++ shownTail event

theorem tail_decoded (legible : Legible nodeId event) :
    decoded (tail event) = some (shownTail event) := by
  have read : ∀ text ∈ event.texts, decoded text = some (shown text) :=
    fun text member => decoded_shown (legible text (List.mem_cons_of_mem _ member))
  cases event with
  | callback appId eventName invokeCount startCount =>
      have app : decoded (lit "app/") = some "app/" := by decide +kernel
      have between : decoded (lit "/") = some "/" := by decide +kernel
      exact decoded_append (decoded_append (decoded_append app
        (read appId (by simp [UnitEvent.texts]))) between)
        (read eventName (by simp [UnitEvent.texts]))
  | update appId stage status detail =>
      have update : decoded (lit "update") = some "update" := by decide +kernel
      exact update
  | state appCount runningCount networkState =>
      have state : decoded (lit "state") = some "state" := by decide +kernel
      exact state
  | lease action leaseId resource sourceCore sourceAgent priority =>
      have lease : decoded (lit "lease/") = some "lease/" := by decide +kernel
      exact decoded_append lease (read leaseId.text (by simp [UnitEvent.texts]))

theorem route_decoded (legible : Legible nodeId event)
    (routed : route nodeId event = .ok keyexpr) :
    decoded keyexpr = some (shownKey nodeId event) := by
  rw [(route_ok routed).2]
  have root : decoded (lit "neuro/") = some "neuro/" := by decide +kernel
  have kind : decoded (lit "/event/") = some "/event/" := by decide +kernel
  exact decoded_append (decoded_append (decoded_append root
    (decoded_shown (legible nodeId List.mem_cons_self))) kind) (tail_decoded legible)

theorem segments_shownKey (valid : tokenIsValid nodeId = true) (legible : Legible nodeId event) :
    segments (shownKey nodeId event) =
      "neuro" :: shown nodeId :: "event" :: segments (shownTail event) := by
  obtain ⟨clean, filled⟩ := shown_valid valid (legible nodeId List.mem_cons_self)
  have nested : shownKey nodeId event =
      "neuro" ++ "/" ++ (shown nodeId ++ "/" ++ ("event" ++ "/" ++ shownTail event)) := by
    apply String.toList_injective
    simp [shownKey]
  rw [nested, segments_slash (by decide) (by decide), segments_slash clean filled,
    segments_slash (by decide) (by decide)]

theorem sourceNode_shownKey (valid : tokenIsValid nodeId = true)
    (legible : Legible nodeId event) :
    sourceNodeFromKeyexpr (shownKey nodeId event) = shown nodeId := by
  rw [sourceNodeFromKeyexpr, segments_shownKey valid legible]
  rfl

/-- Only the key of a callback names an application. -/
theorem sourceApp_shownKey (valid : tokenIsValid nodeId = true) (legible : Legible nodeId event)
    (plain : ∀ appId eventName invokeCount startCount,
      event ≠ .callback appId eventName invokeCount startCount) :
    sourceAppFromKeyexpr (shownKey nodeId event) = "" := by
  rw [sourceAppFromKeyexpr, segments_shownKey valid legible]
  cases event with
  | callback appId eventName invokeCount startCount =>
      exact absurd rfl (plain appId eventName invokeCount startCount)
  | update appId stage status detail =>
      have single : segments "update" = ["update"] := by decide
      rw [shownTail, single]
  | state appCount runningCount networkState =>
      have single : segments "state" = ["state"] := by decide
      rw [shownTail, single]
  | lease action leaseId resource sourceCore sourceAgent priority =>
      have nested : shownTail (.lease action leaseId resource sourceCore sourceAgent priority) =
          "lease" ++ "/" ++ shown leaseId.text := by
        apply String.toList_injective
        simp [shownTail]
      rw [nested, segments_slash (by decide) (by decide)]
      cases segments (shown leaseId.text) with
      | nil => rfl
      | cons first others => rfl

end Routes

section Rows

variable {py : Builtins} {keyexpr kind : String} {payload : Dict}

/-- What a payload of the unit has, and what it lacks of the fields a row may have. -/
structure Announces (py : Builtins) (payload : Dict) (kind : String) : Prop where
  kind : get payload "message_kind" = .str kind
  noNode : get payload "source_node" = .none
  noApp : get payload "source_app" = .none
  noTopic : get payload "semantic_topic" = .none
  noType : get payload "event_type" = .none
  readable : (get payload "priority").truthy = true →
    (py.toInt (get payload "priority")).isSome = true

def keyedRow (keyexpr : String) (payload : Dict) : Row := ⟨keyexpr, .dict payload⟩

abbrev fieldsOf (py : Builtins) (keyexpr : String) (payload : Dict) : LiveFields :=
  liveFields py (keyedRow keyexpr payload).toDict payload "unit" ""

theorem keyed_text (keyexpr : String) (payload : Dict) :
    py.textOr (get (keyedRow keyexpr payload).toDict "keyexpr") "" = keyexpr :=
  textOr_str keyexpr

theorem fields_node (keyexpr : String) (announces : Announces py payload kind) :
    (fieldsOf py keyexpr payload).sourceNode = sourceNodeFromKeyexpr keyexpr := by
  change (firstTrue [get (keyedRow keyexpr payload).toDict "source_node",
    get payload "source_node"] (.str (sourceNodeFromKeyexpr
      (py.textOr (get (keyedRow keyexpr payload).toDict "keyexpr") "")))).text py.repr = _
  rw [announces.noNode, keyed_text]
  rfl

theorem fields_app (keyexpr : String) (announces : Announces py payload kind) :
    (fieldsOf py keyexpr payload).sourceApp =
      ((get payload "app_id").orElse (.str (sourceAppFromKeyexpr keyexpr))).text py.repr := by
  change (firstTrue [get (keyedRow keyexpr payload).toDict "source_app",
    get payload "source_app", get payload "app_id", .str ""] (.str (sourceAppFromKeyexpr
      (py.textOr (get (keyedRow keyexpr payload).toDict "keyexpr") "")))).text py.repr = _
  rw [announces.noApp, keyed_text]
  rfl

theorem fields_topic (keyexpr : String) (announces : Announces py payload kind) :
    (fieldsOf py keyexpr payload).semanticTopic =
      semanticTopicForLivePayload py payload kind keyexpr "" := by
  change semanticTopicForLivePayload py payload (py.textOr (get payload "message_kind") "")
    (py.textOr (get (keyedRow keyexpr payload).toDict "keyexpr") "")
    ((firstTrue [get (keyedRow keyexpr payload).toDict "semantic_topic",
      get payload "semantic_topic"] (.str "")).text py.repr) = _
  rw [announces.kind, announces.noTopic, keyed_text, textOr_str]
  rfl

theorem fields_type (keyexpr : String) (announces : Announces py payload kind) (filled : kind ≠ "")
    (other : kind ≠ "callback_event") (noName : get payload "event_name" = .none)
    (noTopic : (fieldsOf py keyexpr payload).semanticTopic = "") :
    (fieldsOf py keyexpr payload).eventType = kind := by
  have none : (firstTrue [get (keyedRow keyexpr payload).toDict "event_type",
      get payload "event_type"] (.str "")).text py.repr = "" := by
    rw [announces.noType]
    rfl
  have kindText : py.textOr (get payload "message_kind") "" = kind := by
    rw [announces.kind, textOr_str]
  have nameText : py.textOr (get payload "event_name") "" = "" := by
    rw [noName]
    rfl
  rw [fieldsOf, liveFields] at noTopic ⊢
  dsimp only at noTopic ⊢
  rw [if_neg (not_not_intro none), if_neg (by rw [kindText]; exact other),
    if_neg (not_not_intro nameText), if_neg (not_not_intro noTopic),
    if_pos (by rw [kindText]; exact filled)]
  exact kindText

theorem collect_shape (keyexpr : String) (announces : Announces py payload kind) :
    ∃ collected number, Collector.live.collect py (keyedRow keyexpr payload) = some collected ∧
      collected = setdefault (insert (insert
        (describeRow py (keyedRow keyexpr payload).toDict payload (fieldsOf py keyexpr payload))
        "priority" (.int number)) "payload" (.dict payload)) "dedupe_key"
        (get (insert (insert (describeRow py (keyedRow keyexpr payload).toDict payload
          (fieldsOf py keyexpr payload)) "priority" (.int number)) "payload" (.dict payload))
          "event_id") := by
  obtain ⟨collected, normalized, _⟩ := normalizeLiveEventRow_identified "unit" ""
    (show (keyedRow keyexpr payload).payload = .dict payload from rfl) announces.readable
  have held : get (keyedRow keyexpr payload).toDict "payload" = .dict payload := rfl
  have bare : ((get (keyedRow keyexpr payload).toDict "semantic_topic").truthy &&
      (get (keyedRow keyexpr payload).toDict "event_id").truthy) = false := rfl
  have shape := normalized
  rw [normalizeLiveEventRow, bare, held] at shape
  simp only [Bool.false_eq_true, if_false] at shape
  obtain ⟨number, _, same⟩ := Option.bind_eq_some_iff.mp shape
  exact ⟨collected, number, normalized, (Option.some.inj same).symm⟩

structure Collected (py : Builtins) (keyexpr : String) (payload collected : Dict) : Prop where
  node : get collected "source_node" = .str (fieldsOf py keyexpr payload).sourceNode
  app : get collected "source_app" =
    if (fieldsOf py keyexpr payload).sourceApp ≠ "" then
      .str (fieldsOf py keyexpr payload).sourceApp
    else .none
  topic : get collected "semantic_topic" = .str
    (if (fieldsOf py keyexpr payload).semanticTopic ≠ "" then
      (fieldsOf py keyexpr payload).semanticTopic
    else (fieldsOf py keyexpr payload).eventType)
  payload : get collected "payload" = .dict payload

theorem collect_collected (keyexpr : String) (announces : Announces py payload kind) :
    ∃ collected, Collector.live.collect py (keyedRow keyexpr payload) = some collected ∧
      Collected py keyexpr payload collected := by
  obtain ⟨collected, number, made, shape⟩ := collect_shape keyexpr announces
  refine ⟨collected, made, ?_, ?_, ?_, ?_⟩
  · rw [shape, get_setdefault_ne (by decide), get_insert_ne (by decide),
      get_insert_ne (by decide), describeRow]
    rw [get_insert_ne (by decide), get_insert_ne (by decide), get_insertIf_ne (by decide),
      get_insert_self]
  · rw [shape, get_setdefault_ne (by decide), get_insert_ne (by decide),
      get_insert_ne (by decide)]
    exact describeRow_sourceApp
  · rw [shape, get_setdefault_ne (by decide), get_insert_ne (by decide),
      get_insert_ne (by decide), describeRow]
    rw [get_insert_self]
  · rw [shape, get_setdefault_ne (by decide), get_insert_self]

end Rows

section Topics

variable {py : Builtins} {payload : Dict} {nodeId : Text} {event : UnitEvent}

theorem get_absent {key : String} (absent : key ∉ payload.map Prod.fst) :
    get payload key = .none := by
  have missing : payload.lookup key = none := by
    rw [List.lookup_eq_none_iff]
    intro entry member
    exact bne_iff_ne.mpr fun same => absent (List.mem_map.mpr ⟨entry, member, same.symm⟩)
  rw [PyValue.get, missing]
  rfl

theorem payloadText_absent {keys : List String}
    (absent : ∀ key ∈ keys, get payload key = .none) : payloadText py payload keys = "" := by
  induction keys with
  | nil => rfl
  | cons key rest ih =>
      have later := ih fun other member => absent other (List.mem_cons_of_mem key member)
      rw [payloadText, List.map_cons, absent key List.mem_cons_self]
      exact later

theorem payloadText_first {key text : String} {keys : List String}
    (found : get payload key = .str text) (absent : ∀ other ∈ keys, get payload other = .none) :
    payloadText py payload (key :: keys) = text := by
  have later : payloadText py payload keys = "" := payloadText_absent absent
  rw [payloadText, List.map_cons, found, List.findSome?_cons]
  by_cases empty : text = ""
  · subst empty
    exact later
  · have filled : (Value.str text).isText "" = false := by simpa [Value.isText] using empty
    simp only [filled, Bool.false_eq_true, if_false, Option.getD_some]
    rfl

theorem lower_empty (lowers : LowersAscii py.lower) : py.lower "" = "" :=
  (lowers "" (by decide)).trans (by decide +kernel)

theorem lower_networkState (py : Builtins) (lowers : LowersAscii py.lower) (state : NetworkState) :
    (py.lower (shown (networkStateToStr state)) = "network_ready" ↔ state = .ready) ∧
      py.lower (shown (networkStateToStr state)) ∉ ["offline", "disconnected", "no_reply"] := by
  have ascii : (shown (networkStateToStr state)).toList.all (fun char => char.toNat < 128) =
      true := by
    cases state <;> decide +kernel
  rw [lowers _ ascii]
  cases state <;> decide +kernel

theorem ends_append {ending last : List Char} (front : List Char)
    (short : ending.length ≤ last.length) :
    ending.isSuffixOf (front ++ last) = ending.isSuffixOf last := by
  rw [Bool.eq_iff_iff, List.isSuffixOf_iff_suffix, List.isSuffixOf_iff_suffix]
  constructor
  · intro whole
    exact List.suffix_of_suffix_length_le whole (List.suffix_append front last) short
  · intro inside
    exact inside.trans (List.suffix_append front last)

theorem keyexprTopic_update (appId stage status detail : Text) :
    keyexprTopic (shownKey nodeId (.update appId stage status detail)) = "" := by
  have letters : (shownKey nodeId (.update appId stage status detail)).toList =
      ("neuro/" ++ shown nodeId).toList ++ "/event/update".toList := by
    simp [shownKey, shownTail]
  rw [keyexprTopic, letters, ends_append _ (by decide), ends_append _ (by decide)]
  decide

theorem keyexprTopic_state (appCount runningCount : UInt32) (state : NetworkState) :
    keyexprTopic (shownKey nodeId (.state appCount runningCount state)) =
      "unit.state.unknown" := by
  have letters : (shownKey nodeId (.state appCount runningCount state)).toList =
      ("neuro/" ++ shown nodeId).toList ++ "/event/state".toList := by
    simp [shownKey, shownTail]
  rw [keyexprTopic, letters, ends_append _ (by decide), ends_append _ (by decide)]
  decide

/-- `message_kind`. -/
def UnitEvent.kind : UnitEvent → String
  | .callback _ _ _ _ => "callback_event"
  | .update _ _ _ _ => "update_event"
  | .state _ _ _ => "state_event"
  | .lease _ _ _ _ _ _ => "lease_event"

theorem document_announces (py : Builtins) (nodeId : Text) (event : UnitEvent) :
    Announces py (document nodeId event).reverse event.kind := by
  cases event with
  | callback appId eventName invokeCount startCount =>
      exact ⟨rfl, rfl, rfl, rfl, rfl, fun given => absurd given (by exact Bool.false_ne_true)⟩
  | update appId stage status detail =>
      exact ⟨rfl, rfl, rfl, rfl, rfl, fun given => absurd given (by exact Bool.false_ne_true)⟩
  | state appCount runningCount networkState =>
      exact ⟨rfl, rfl, rfl, rfl, rfl, fun given => absurd given (by exact Bool.false_ne_true)⟩
  | lease action leaseId resource sourceCore sourceAgent priority =>
      exact ⟨rfl, rfl, rfl, rfl, rfl, fun _ => rfl⟩

theorem updateTopic_document (appId stage status detail : Text) :
    updateTopic py (document nodeId (.update appId stage status detail)).reverse =
      if py.lower (shown stage) = "activate" ∧
          py.lower (shown status) ∉ ["", "ok", "active", "running"] then
        "unit.lifecycle.activate_failed"
      else if py.lower (shown stage) ≠ "" then "unit.lifecycle." ++ py.lower (shown stage)
      else "" := by
  have stageText : payloadText py (document nodeId (.update appId stage status detail)).reverse
      ["stage"] = shown stage := payloadText_first rfl (by simp)
  have statusText : payloadText py (document nodeId (.update appId stage status detail)).reverse
      ["status", "update_state", "runtime_state"] = shown status :=
    payloadText_first rfl (by
      intro key member
      rcases List.mem_pair.mp member with rfl | rfl
      · rfl
      · rfl)
  rw [updateTopic, stageText, statusText]
  simp [List.contains_eq_mem]

theorem stateTopic_document (lowers : LowersAscii py.lower) (appCount runningCount : UInt32)
    (state : NetworkState) :
    stateTopic py (document nodeId (.state appCount runningCount state)).reverse =
      if state = .ready then "unit.state.online" else "" := by
  obtain ⟨ready, reachable⟩ := lower_networkState py lowers state
  have network : payloadText py (document nodeId (.state appCount runningCount state)).reverse
      ["network_state"] = shown (networkStateToStr state) := payloadText_first rfl (by simp)
  have absent {keys : List String}
      (others : ∀ key ∈ keys, key ∉ ["network_state", "running_count", "app_count", "node_id",
        "message_kind", "schema_version"]) :
      payloadText py (document nodeId (.state appCount runningCount state)).reverse keys = "" :=
    payloadText_absent fun key member => get_absent (others key member)
  rw [stateTopic, network, absent (by decide), absent (by decide), absent (by decide),
    absent (by decide), absent (by decide), lower_empty lowers]
  generalize py.lower (shown (networkStateToStr state)) = seen at ready reachable ⊢
  by_cases up : state = .ready
  · simp [up, ready.mpr up]
  · have other := mt ready.mp up
    simp only [List.mem_cons, List.not_mem_nil, or_false, not_or] at reachable
    simp [up, other, reachable]

/-- The topic the Core gives to the row of an event is what the event is about. -/
theorem topic_document (lowers : LowersAscii py.lower) :
    (if (fieldsOf py (shownKey nodeId event) (document nodeId event).reverse).semanticTopic ≠ ""
      then (fieldsOf py (shownKey nodeId event) (document nodeId event).reverse).semanticTopic
      else (fieldsOf py (shownKey nodeId event) (document nodeId event).reverse).eventType) =
      event.topic py.lower := by
  have announces := document_announces py nodeId event
  have semantic := fields_topic (shownKey nodeId event) announces
  cases event with
  | callback appId eventName invokeCount startCount =>
      rw [semantic]
      rfl
  | lease action leaseId resource sourceCore sourceAgent priority =>
      rw [semantic]
      rfl
  | update appId stage status detail =>
      -- the key tells nothing of an update, so the topic is that of the payload
      have said : semanticTopicForLivePayload py
          (document nodeId (.update appId stage status detail)).reverse "update_event"
          (shownKey nodeId (.update appId stage status detail)) "" =
          updateTopic py (document nodeId (.update appId stage status detail)).reverse := by
        change (if updateTopic py _ ≠ "" then updateTopic py _ else
          keyexprTopic (shownKey nodeId (.update appId stage status detail))) = _
        rw [keyexprTopic_update]
        split
        · rfl
        · next empty => exact (not_not.mp empty).symm
      have typed := fields_type (shownKey nodeId (.update appId stage status detail)) announces
        (show "update_event" ≠ "" by decide)
        (show "update_event" ≠ "callback_event" by decide) rfl
      rw [UnitEvent.kind] at semantic typed
      rw [semantic, said, updateTopic_document] at typed ⊢
      rw [UnitEvent.topic]
      by_cases failed : py.lower (shown stage) = "activate" ∧
          py.lower (shown status) ∉ ["", "ok", "active", "running"]
      · rw [if_pos failed, if_pos failed]
        rfl
      · rw [if_neg failed] at typed
        rw [if_neg failed, if_neg failed]
        by_cases staged : py.lower (shown stage) = ""
        · rw [if_neg (not_not_intro staged)] at typed
          rw [if_neg (not_not_intro staged), if_neg (not_not_intro staged), typed rfl]
          rfl
        · rw [if_pos staged, if_pos staged, if_pos]
          intro empty
          have letters := congrArg String.toList empty
          simp at letters
  | state appCount runningCount networkState =>
      have said : semanticTopicForLivePayload py
          (document nodeId (.state appCount runningCount networkState)).reverse "state_event"
          (shownKey nodeId (.state appCount runningCount networkState)) "" =
          if networkState = .ready then "unit.state.online" else "unit.state.unknown" := by
        -- a state that is not ready has the topic of its key
        change (if stateTopic py _ ≠ "" then stateTopic py _ else
          keyexprTopic (shownKey nodeId (.state appCount runningCount networkState))) = _
        rw [keyexprTopic_state, stateTopic_document lowers]
        split <;> simp_all
      rw [UnitEvent.kind] at semantic
      rw [semantic, said, UnitEvent.topic]
      split <;> simp_all

theorem callback_appId_valid {appId eventName keyexpr : Text} {invokeCount : UInt32}
    {startCount : Int32}
    (routed : route nodeId (.callback appId eventName invokeCount startCount) = .ok keyexpr) :
    tokenIsValid appId = true := by
  rw [route, buildAppEventRoute] at routed
  split at routed
  · cases routed
  · next valid =>
    push Not at valid
    exact valid.2.2.1

/-- The application the Core finds for the row of an event. -/
theorem app_document {keyexpr : Text} (legible : Legible nodeId event)
    (routed : route nodeId event = .ok keyexpr) :
    (fieldsOf py (shownKey nodeId event) (document nodeId event).reverse).sourceApp =
      event.app := by
  rw [fields_app _ (document_announces py nodeId event)]
  have valid := (route_ok routed).1
  cases event with
  | callback appId eventName invokeCount startCount =>
      have filled := (shown_valid (callback_appId_valid routed)
        (legible appId (by simp [UnitEvent.texts]))).2
      exact congrArg (Value.text py.repr)
        (orElse_truthy _ (show (Value.str (shown appId)).truthy = true by
          simpa [Value.truthy] using filled))
  | update appId stage status detail =>
      have keyed := sourceApp_shownKey valid legible (by simp)
      change ((Value.str (shown appId)).orElse (.str (sourceAppFromKeyexpr
        (shownKey nodeId (.update appId stage status detail))))).text py.repr = shown appId
      rw [keyed]
      have same : py.textOr (.str (shown appId)) "" = shown appId := textOr_str _
      exact same
  | state appCount runningCount networkState =>
      have keyed := sourceApp_shownKey valid legible (by simp)
      change (Value.none.orElse (.str (sourceAppFromKeyexpr
        (shownKey nodeId (.state appCount runningCount networkState))))).text py.repr = ""
      rw [keyed]
      rfl
  | lease action leaseId resource sourceCore sourceAgent priority =>
      have keyed := sourceApp_shownKey valid legible (by simp)
      change (Value.none.orElse (.str (sourceAppFromKeyexpr (shownKey nodeId
        (.lease action leaseId resource sourceCore sourceAgent priority))))).text py.repr = ""
      rw [keyed]
      rfl

/-- What the unit publishes of an event reaches the Core whole: the CLI can read it, and the
row the Core keeps has the node, the application, the topic and every field of the event. -/
theorem event_reported (py : Builtins) (loads : List UInt8 → Option Value)
    (lowers : LowersAscii py.lower) {pending : Pending} (legible : Legible nodeId event)
    (published : publication nodeId event = some pending) :
    ∃ key payload row, decoded pending.keyexpr = some key ∧
      parseWirePayload loads pending.payload = some payload ∧
      Collector.live.collect py ⟨key, payload⟩ = some row ∧
      Reports py.lower nodeId event row := by
  obtain ⟨routed, _, _⟩ := publication_some published
  have announces := document_announces py nodeId event
  obtain ⟨row, collected, found⟩ := collect_collected (shownKey nodeId event) announces
  refine ⟨_, _, row, route_decoded legible routed, publication_read loads legible published,
    collected, ?_⟩
  constructor
  · rw [found.node, fields_node _ announces, sourceNode_shownKey (route_ok routed).1 legible]
  · rw [found.app, app_document legible routed]
  · rw [found.topic, topic_document lowers]
  · exact found.payload

/-- Python without the texts that the event below does not call on. -/
def plainBuiltins : Builtins :=
  ⟨fun _ => "", String.toLower, fun _ => none, fun _ => none, fun _ => none, fun _ => true⟩

def failedActivation : UnitEvent :=
  .update (lit "neuro_demo_app") (lit "activate") (lit "error") (lit "start failed")

theorem failedActivation_reported :
    ∃ pending, publication (lit "unit-01") failedActivation = some pending ∧
      ∃ key payload row, decoded pending.keyexpr = some key ∧
        parseWirePayload (fun _ => none) pending.payload = some payload ∧
        Collector.live.collect plainBuiltins ⟨key, payload⟩ = some row ∧
        Reports String.toLower (lit "unit-01") failedActivation row :=
  ⟨_, rfl, event_reported plainBuiltins (fun _ => none) (fun _ _ => rfl)
    (by unfold Legible; decide +kernel) rfl⟩

end Topics

end NeuroLink.UnitEvents
