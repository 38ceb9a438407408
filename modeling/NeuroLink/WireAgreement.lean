import NeuroLink.PayloadCodec
import NeuroLink.RequestDecoder

/-!
The command line client and the unit on the format of a request. Every field of a payload
arrives in its member, and the arguments as a JSON text of them; but a payload with a
`schema_version` or a `message_kind` of its own replaces the header.
-/

namespace NeuroLink.WireAgreement

open CText Cbor Dictionary PayloadCodec RequestBridge RequestDecoder
open CliQuery (keyNames)

/-- `keyexpr.split("/")`. -/
def segments (keyexpr : String) : List String :=
  (keyexpr.toList.splitOn '/').map String.ofList

def callbackConfigFields : List String := ["callback_enabled", "trigger_every", "event_name"]

/-- `mapping` of the actions on an update. -/
def updateKinds : List (String × String) :=
  [("prepare", "update_prepare_request"), ("verify", "update_verify_request"),
    ("activate", "update_activate_request"), ("rollback", "update_rollback_request"),
    ("delete", "update_delete_request")]

/-- `message_kind_for_keyexpr`. -/
def messageKindForKeyexpr (keyexpr : String) (payload : Entries) : Option String :=
  let parts := segments keyexpr
  let scope := (parts.drop 2).take 2
  if 4 ≤ parts.length ∧ parts[2]? = some "query" then some "query_request"
  else if 5 ≤ parts.length ∧ scope = ["cmd", "lease"] ∧ parts[4]? = some "acquire" then
    some "lease_acquire_request"
  else if 5 ≤ parts.length ∧ scope = ["cmd", "lease"] ∧ parts[4]? = some "release" then
    some "lease_release_request"
  else if 5 ≤ parts.length ∧ scope = ["cmd", "app"] then
    if parts.getLast? = some "invoke" ∧
        ∃ name ∈ callbackConfigFields, Key.text name ∈ payload.map Prod.fst then
      some "callback_config_request"
    else some "app_command_request"
  else if 6 ≤ parts.length ∧ scope = ["update", "app"] then
    parts[5]?.bind fun action => updateKinds.lookup action
  else none

/-- `encode_query_payload`. -/
def encodeQueryPayload (keyexpr : String) (payload : Entries) : Option (List UInt8) :=
  (messageKindForKeyexpr keyexpr payload).bind fun kind => encodePayloadCbor payload kind

/-- The names of the kinds of requests. -/
def kindText : MessageKind → String
  | .queryRequest => "query_request"
  | .leaseAcquireRequest => "lease_acquire_request"
  | .leaseReleaseRequest => "lease_release_request"
  | .appCommandRequest => "app_command_request"
  | .callbackConfigRequest => "callback_config_request"
  | .updatePrepareRequest => "update_prepare_request"
  | .updateVerifyRequest => "update_verify_request"
  | .updateActivateRequest => "update_activate_request"
  | .updateRollbackRequest => "update_rollback_request"
  | .updateDeleteRequest => "update_delete_request"
  | .errorReply => "error_reply"
  | .leaseReply => "lease_reply"
  | .queryDeviceReply => "query_device_reply"
  | .queryAppsReply => "query_apps_reply"
  | .queryLeasesReply => "query_leases_reply"
  | .updatePrepareReply => "update_prepare_reply"
  | .updateVerifyReply => "update_verify_reply"
  | .updateActivateReply => "update_activate_reply"
  | .updateRollbackReply => "update_rollback_reply"
  | .appCommandReply => "app_command_reply"
  | .callbackEvent => "callback_event"
  | .updateEvent => "update_event"
  | .stateEvent => "state_event"
  | .leaseEvent => "lease_event"

/-- `payload.get(name)`. -/
def at? (payload : Entries) (name : String) : Option Datum := payload.lookup (.text name)

def textAt (payload : Entries) (name : String) : List UInt8 :=
  match at? payload name with
  | some (.text letters) => utf8 letters
  | _ => []

def intAt (payload : Entries) (name : String) (missing : Int) : Int :=
  match at? payload name with
  | some (.int number) => number
  | _ => missing

def flagAt (payload : Entries) (name : String) : Bool :=
  match at? payload name with
  | some (.bool flag) => flag
  | _ => false

/-! What the claims of the format are about. -/

def textSizes : List (String × Nat) :=
  [("request_id", 32), ("source_core", 32), ("source_agent", 24), ("target_node", 32),
    ("idempotency_key", 32), ("lease_id", 32), ("resource", 64), ("start_args", 96),
    ("reason", 64), ("transport", 32), ("artifact_key", 96), ("event_name", 32)]

def unsignedNames : List String :=
  ["schema_version", "message_kind", "timeout_ms", "ttl_ms", "size", "chunk_size"]

def signedNames : List String := ["priority", "trigger_every"]

def flagNames : List String := ["forwarded", "callback_enabled"]

def JsonSafe (letters : String) : Prop :=
  utf8 letters ≠ [] ∧ ∀ byte ∈ utf8 letters, byte ≠ 34 ∧ byte ≠ 92 ∧ 32 ≤ byte

def Argument (entry : Key × Datum) : Prop :=
  (∃ name, entry.1 = .text name ∧ JsonSafe name) ∧
    match entry.2 with
    | .text letters => JsonSafe letters
    | .int number => -(2 ^ 31) ≤ number ∧ number < 2 ^ 32
    | .bool _ => True
    | .list _ | .dict _ => False

def itemsOf (entries : Entries) : List (Item × Item) :=
  (sorted entries).map fun entry => (keyItem entry.1, represent entry.2)

/-- Every known field has a value of its type that fits its member. -/
structure Sendable (payload : Entries) : Prop where
  distinct : (payload.map Prod.fst).Nodup
  texts : ∀ field ∈ textSizes, ∀ value, (.text field.1, value) ∈ payload →
    ∃ letters, value = .text letters ∧ 0 ∉ utf8 letters ∧ (utf8 letters).length < field.2
  unsigned : ∀ name ∈ unsignedNames, ∀ value, (.text name, value) ∈ payload →
    ∃ number, value = .int number ∧ 0 ≤ number ∧ number < 2 ^ 32
  signed : ∀ name ∈ signedNames, ∀ value, (.text name, value) ∈ payload →
    ∃ number, value = .int number ∧ -(2 ^ 31) ≤ number ∧ number < 2 ^ 31
  flags : ∀ name ∈ flagNames, ∀ value, (.text name, value) ∈ payload →
    ∃ flag, value = .bool flag
  args : ∀ value, (.text "args", value) ∈ payload → ∃ entries, value = .dict entries ∧
    (∀ entry ∈ entries, Argument entry) ∧ (argumentsText (itemsOf entries)).length < 256

def Shows : JsonText.Value → Datum → Prop
  | .string content, .text letters => bytes content = utf8 letters
  | .number number, .int value => number = value
  | .bool flag, .bool value => flag = value
  | _, _ => False

def ArgsCarried (payload : Entries) (text : Text) : Prop :=
  match at? payload "args" with
  | some (.dict entries) => ∃ members order, JsonText.parse text = some (.object members) ∧
      List.Perm order entries ∧ List.Forall₂ (fun member entry =>
        (∃ name, entry.1 = .text name ∧ bytes member.1 = utf8 name) ∧ Shows member.2 entry.2)
        members order
  | _ => text = []

structure MetadataCarried (payload : Entries) (metadata : ProtocolMetadata) : Prop where
  requestId : bytes metadata.requestId.text = textAt payload "request_id"
  sourceCore : bytes metadata.sourceCore.text = textAt payload "source_core"
  sourceAgent : bytes metadata.sourceAgent.text = textAt payload "source_agent"
  targetNode : bytes metadata.targetNode.text = textAt payload "target_node"
  leaseId : bytes metadata.leaseId.text = textAt payload "lease_id"
  idempotencyKey : bytes metadata.idempotencyKey.text = textAt payload "idempotency_key"
  timeoutMs : (metadata.timeoutMs.toNat : Int) = intAt payload "timeout_ms" 0
  priority : metadata.priority.toInt = intAt payload "priority" (-1)
  forwarded : metadata.forwarded = flagAt payload "forwarded"

structure FieldsCarried (payload : Entries) (fields : RequestFields) : Prop where
  resource : bytes fields.resource.text = textAt payload "resource"
  argsJson : ArgsCarried payload fields.argsJson.text
  ttlMs : (fields.ttlMs.toNat : Int) = intAt payload "ttl_ms" 0
  startArgs : bytes fields.startArgs.text = textAt payload "start_args"
  reason : bytes fields.reason.text = textAt payload "reason"
  transport : bytes fields.transport.text = textAt payload "transport"
  artifactKey : bytes fields.artifactKey.text = textAt payload "artifact_key"
  size : (fields.size.toNat : Int) = intAt payload "size" 0
  chunkSize : (fields.chunkSize.toNat : Int) = intAt payload "chunk_size" 0
  hasCallbackEnabled : fields.hasCallbackEnabled = (at? payload "callback_enabled").isSome
  callbackEnabled : fields.callbackEnabled = flagAt payload "callback_enabled"
  hasTriggerEvery : fields.hasTriggerEvery = (at? payload "trigger_every").isSome
  triggerEvery : fields.triggerEvery.toInt = intAt payload "trigger_every" 0
  hasEventName : fields.hasEventName = (at? payload "event_name").isSome
  eventName : bytes fields.eventName.text = textAt payload "event_name"

/-- Both decoders read the bytes, with this kind and every field of the payload. -/
structure Carried (zcbor : ElementReader) (payload : Entries) (kind : MessageKind)
    (data : List UInt8) : Prop where
  metadata : ∃ metadata, decodeRequestMetadataCbor zcbor data = .ok (metadata, kind) ∧
    MetadataCarried payload metadata
  fields : ∃ fields, decodeRequestFieldsCbor zcbor data = .ok fields ∧ FieldsCarried payload fields

/-- The payload has no header of its own, or the one that it gets. -/
structure HeaderKept (payload : Entries) (kind : MessageKind) : Prop where
  schemaVersion : ∀ value, (.text "schema_version", value) ∈ payload → value = .int 2
  messageKind : ∀ value, (.text "message_kind", value) ∈ payload →
    value = .int kind.number.toNat

section Written

def Writes (value : Datum) : Prop :=
  ∀ data, cborEncode value = some data → data = encode (represent value) ∧ Fits (represent value)

theorem encodeUint_some {major value : Nat} {data : List UInt8}
    (written : cborEncodeUint major value = some data) :
    data = head major value ∧ value < 2 ^ 64 := by
  unfold cborEncodeUint at written
  split at written
  · next small =>
    cases written
    exact ⟨rfl, small⟩
  · cases written

theorem encodeInt_some {number : Int} {data : List UInt8}
    (written : encodeInt number = some data) :
    data = encode (.int number) ∧ Fits (.int number) := by
  unfold encodeInt at written
  split at written
  · next positive =>
    obtain ⟨rfl, small⟩ := encodeUint_some written
    rw [encode, if_neg (by omega)]
    exact ⟨rfl, by omega, by omega⟩
  · next negative =>
    obtain ⟨rfl, small⟩ := encodeUint_some written
    rw [encode, if_pos (by omega)]
    exact ⟨rfl, by omega, by omega⟩

theorem encodeText_some {letters : String} {data : List UInt8}
    (written : encodeText letters = some data) :
    data = encode (.text (utf8 letters)) ∧ Fits (.text (utf8 letters)) := by
  obtain ⟨front, opened, rfl⟩ := Option.map_eq_some_iff.mp written
  obtain ⟨rfl, small⟩ := encodeUint_some opened
  exact ⟨rfl, small⟩

theorem encodeKey_some {key : Key} {data : List UInt8} (written : encodeKey key = some data) :
    data = encode (keyItem key) ∧ Fits (keyItem key) := by
  cases key with
  | int number => exact encodeInt_some written
  | text letters => exact encodeText_some written

theorem encodeList_some {items : List Datum} {data : List UInt8}
    (each : ∀ item ∈ items, Writes item) (written : encodeList items = some data) :
    data = encodeItems (items.map represent) ∧ ∀ item ∈ items, Fits (represent item) := by
  induction items generalizing data with
  | nil =>
    cases written
    exact ⟨rfl, fun _ member => absurd member List.not_mem_nil⟩
  | cons item rest ih =>
    obtain ⟨here, later⟩ := List.forall_mem_cons.mp each
    rw [PayloadCodec.encodeList] at written
    obtain ⟨first, wroteFirst, written⟩ := Option.bind_eq_some_iff.mp written
    obtain ⟨others, wroteOthers, written⟩ := Option.bind_eq_some_iff.mp written
    cases written
    obtain ⟨rfl, fits⟩ := here first wroteFirst
    obtain ⟨rfl, fitsLater⟩ := ih later wroteOthers
    exact ⟨rfl, List.forall_mem_cons.mpr ⟨fits, fitsLater⟩⟩

theorem encodeEntries_some {entries : Entries} {data : List (Key × List UInt8)}
    (each : ∀ entry ∈ entries, Writes entry.2)
    (written : PayloadCodec.encodeEntries entries = some data) :
    data = entries.map (fun entry =>
        (entry.1, encode (keyItem entry.1) ++ encode (represent entry.2))) ∧
      ∀ entry ∈ entries, Fits (keyItem entry.1) ∧ Fits (represent entry.2) := by
  induction entries generalizing data with
  | nil =>
    cases written
    exact ⟨rfl, fun _ member => absurd member List.not_mem_nil⟩
  | cons entry rest ih =>
    obtain ⟨here, later⟩ := List.forall_mem_cons.mp each
    rw [PayloadCodec.encodeEntries] at written
    obtain ⟨name, wroteName, written⟩ := Option.bind_eq_some_iff.mp written
    obtain ⟨value, wroteValue, written⟩ := Option.bind_eq_some_iff.mp written
    obtain ⟨others, wroteOthers, written⟩ := Option.bind_eq_some_iff.mp written
    cases written
    obtain ⟨rfl, fitsName⟩ := encodeKey_some wroteName
    obtain ⟨rfl, fitsValue⟩ := here value wroteValue
    obtain ⟨rfl, fitsLater⟩ := ih later wroteOthers
    exact ⟨rfl, List.forall_mem_cons.mpr ⟨⟨fitsName, fitsValue⟩, fitsLater⟩⟩

theorem cborEncode_some (value : Datum) : Writes value := by
  induction value using Datum.members with
  | bool flag =>
    intro data written
    cases written
    exact ⟨rfl, trivial⟩
  | int number => exact fun data written => encodeInt_some written
  | text letters => exact fun data written => encodeText_some written
  | list items ih =>
    intro data written
    rw [cborEncode] at written
    obtain ⟨front, opened, written⟩ := Option.bind_eq_some_iff.mp written
    obtain ⟨body, wroteBody, written⟩ := Option.bind_eq_some_iff.mp written
    cases written
    -- the front is the head of the list, and the body its items
    obtain ⟨rfl, small⟩ := encodeUint_some opened
    obtain ⟨rfl, fits⟩ := encodeList_some ih wroteBody
    rw [represent, representList_eq, encode, List.length_map]
    refine ⟨rfl, by rw [List.length_map]; exact small, fitItems_of_mem fun item member => ?_⟩
    obtain ⟨inner, inside, rfl⟩ := List.mem_map.mp member
    exact fits inner inside
  | dict entries ih =>
    intro data written
    rw [cborEncode] at written
    obtain ⟨body, wroteBody, written⟩ := Option.bind_eq_some_iff.mp written
    split at written
    · obtain ⟨front, opened, written⟩ := Option.bind_eq_some_iff.mp written
      cases written
      -- the entries are written in the order of their keys, as the item has them
      obtain ⟨rfl, small⟩ := encodeUint_some opened
      obtain ⟨rfl, fits⟩ := encodeEntries_some ih wroteBody
      rw [represent_dict]
      constructor
      · rw [encode, Cbor.encodeEntries_eq, List.flatMap_map, List.length_map,
          (sorted_perm entries).length_eq, sorted_map, List.flatMap_map]
      · constructor
        · rw [List.length_map, (sorted_perm entries).length_eq]
          exact small
        · apply fitEntries_of_mem
          intro item member
          obtain ⟨entry, inside, rfl⟩ := List.mem_map.mp member
          exact fits entry (mem_sorted.mp inside)
    · cases written

end Written

/-! The entries that travel. -/

section Sent

variable {payload : Entries} {number : Nat}

/-- What `logical_to_cbor_map` assigns behind the header. -/
def numberedEntries (payload : Entries) : Entries :=
  payload.filterMap fun entry =>
    (keyNumber entry.1).map fun (number : Nat) => (.int number, entry.2)

def header (number : Nat) : Entries := [(.int 0, .int 2), (.int 1, .int number)]

def sentEntries (number : Nat) (payload : Entries) : Entries :=
  (numberedEntries payload).foldl (fun held entry => assign entry.1 entry.2 held) (header number)

theorem logicalToCborMap_sent {kind : String} (known : kindNumber kind = some number) :
    logicalToCborMap payload kind = some (sentEntries number payload) := by
  rw [logicalToCborMap, known]
  rfl

theorem keyNames_numbers : ∀ entry ∈ keyNames, keyNumber (.text entry.2) = some entry.1 := by
  decide

theorem mem_numberedEntries {key : Nat} {name : String} (named : (key, name) ∈ keyNames)
    {value : Datum} :
    (.int key, value) ∈ numberedEntries payload ↔ (.text name, value) ∈ payload := by
  rw [numberedEntries, List.mem_filterMap]
  constructor
  · rintro ⟨entry, member, travels⟩
    obtain ⟨number, found, same⟩ := Option.map_eq_some_iff.mp travels
    rw [Prod.mk.injEq, Key.int.injEq, Int.natCast_inj] at same
    obtain ⟨rfl, rfl⟩ := same
    have back := (nameOf_number found).1
    rw [(nameOf_number (keyNames_numbers _ named)).1] at back
    rw [back]
    exact member
  · exact fun member => ⟨_, member, by rw [keyNames_numbers _ named]; rfl⟩

theorem numberedEntries_named {entry : Key × Datum} (member : entry ∈ numberedEntries payload) :
    ∃ key name, (key, name) ∈ keyNames ∧ entry.1 = .int key := by
  obtain ⟨origin, _, travels⟩ := List.mem_filterMap.mp member
  obtain ⟨number, found, rfl⟩ := Option.map_eq_some_iff.mp travels
  obtain ⟨name, _, named⟩ := keyNumber_some found
  exact ⟨number, name, named, rfl⟩

theorem numberedEntries_distinct (distinct : (payload.map Prod.fst).Nodup) :
    ((numberedEntries payload).map Prod.fst).Nodup := by
  have keys : (numberedEntries payload).map Prod.fst =
      (payload.map Prod.fst).filterMap fun key =>
        (keyNumber key).map fun (number : Nat) => Key.int number := by
    rw [numberedEntries, List.map_filterMap, List.filterMap_map]
    apply List.filterMap_congr
    intro entry _
    rw [Option.map_map]
    rfl
  rw [keys]
  refine List.Nodup.filterMap (fun first second key travels other => ?_) distinct
  obtain ⟨number, found, rfl⟩ := Option.map_eq_some_iff.mp travels
  obtain ⟨same, foundOther, equal⟩ := Option.map_eq_some_iff.mp other
  rw [Key.int.injEq, Int.natCast_inj] at equal
  rw [← (nameOf_number found).1, ← (nameOf_number foundOther).1, equal]

theorem header_distinct : ((header number).map Prod.fst).Nodup := by
  simp [header]

theorem mem_sentEntries (distinct : (payload.map Prod.fst).Nodup) {entry : Key × Datum} :
    entry ∈ sentEntries number payload ↔ entry ∈ numberedEntries payload ∨
      (entry ∈ header number ∧ entry.1 ∉ (numberedEntries payload).map Prod.fst) :=
  mem_foldl_assign header_distinct (numberedEntries_distinct distinct)

theorem sentEntries_distinct : ((sentEntries number payload).map Prod.fst).Nodup :=
  foldl_assign_distinct _ header_distinct

theorem sent_field (distinct : (payload.map Prod.fst).Nodup) {key : Nat} {name : String}
    (named : (key, name) ∈ keyNames) (behind : 2 ≤ key) {value : Datum} :
    (.int key, value) ∈ sentEntries number payload ↔ (.text name, value) ∈ payload := by
  rw [mem_sentEntries distinct, mem_numberedEntries named]
  constructor
  · rintro (member | ⟨member, _⟩)
    · exact member
    · simp [header] at member
      omega
  · exact .inl

theorem sent_header (distinct : (payload.map Prod.fst).Nodup) {key : Nat} {name : String}
    (named : (key, name) ∈ keyNames) {own value : Datum} (part : (.int key, own) ∈ header number) :
    (.int key, value) ∈ sentEntries number payload ↔
      (at? payload name).getD own = value := by
  rw [mem_sentEntries distinct, mem_numberedEntries named]
  cases found : at? payload name with
  | none =>
    have missing : ∀ other, (.text name, other) ∉ payload := by
      intro other member
      rw [at?, (lookup_iff_mem distinct).mpr member] at found
      cases found
    have absent : .int (key : Int) ∉ (numberedEntries payload).map Prod.fst := by
      intro member
      obtain ⟨entry, inside, same⟩ := List.mem_map.mp member
      have travels : (.int (key : Int), entry.2) ∈ numberedEntries payload := same ▸ inside
      exact missing _ ((mem_numberedEntries named).mp travels)
    have only (other : Datum) : (header number).lookup (.int key) = some other ↔
        (.int (key : Int), other) ∈ header number := lookup_iff_mem header_distinct
    rw [← only, (only own).mpr part, Option.getD_none, Option.some.injEq]
    constructor
    · rintro (member | ⟨same, _⟩)
      · exact absurd member (missing value)
      · exact same
    · exact fun same => .inr ⟨same, absent⟩
  | some other =>
    have there := (lookup_iff_mem distinct).mp found
    have taken : .int (key : Int) ∈ (numberedEntries payload).map Prod.fst :=
      List.mem_map_of_mem ((mem_numberedEntries named).mpr there)
    rw [Option.getD_some]
    constructor
    · rintro (member | ⟨_, absent⟩)
      · have again := (lookup_iff_mem distinct).mpr member
        rw [at?] at found
        rw [found] at again
        exact Option.some.inj again
      · exact absurd taken absent
    · rintro rfl
      exact .inl there

theorem sent_named (distinct : (payload.map Prod.fst).Nodup) {entry : Key × Datum}
    (member : entry ∈ sentEntries number payload) :
    ∃ key name, (key, name) ∈ keyNames ∧ entry.1 = .int key := by
  rcases (mem_sentEntries distinct).mp member with travels | ⟨part, _⟩
  · exact numberedEntries_named travels
  · rw [header, List.mem_cons, List.mem_singleton] at part
    rcases part with rfl | rfl
    · exact ⟨0, "schema_version", by decide, rfl⟩
    · exact ⟨1, "message_kind", by decide, rfl⟩

/-- The number of a key that travels. -/
def numberOf : Key → UInt32
  | .int number => UInt32.ofNat number.toNat
  | .text _ => 0

def wireEntry (entry : Key × Datum) : UInt32 × Item := (numberOf entry.1, represent entry.2)

def wireEntries (sent : Entries) : List (UInt32 × Item) := (sorted sent).map wireEntry

theorem keyNames_small : ∀ entry ∈ keyNames, entry.1 < 2 ^ 32 := by decide

theorem numberOf_named {key : Nat} {name : String} (named : (key, name) ∈ keyNames) :
    (numberOf (.int key)).toNat = key := by
  rw [numberOf, UInt32.toNat_ofNat', Int.toNat_natCast]
  exact Nat.mod_eq_of_lt (keyNames_small _ named)

theorem packet_wireEntries (distinct : (payload.map Prod.fst).Nodup) :
    packet (wireEntries (sentEntries number payload)) =
      encode (represent (.dict (sentEntries number payload))) := by
  rw [packet, represent_dict, wireEntries, List.map_map]
  congr 2
  apply List.map_congr_left
  intro entry member
  obtain ⟨key, name, named, isNumber⟩ := sent_named distinct (mem_sorted.mp member)
  obtain ⟨place, value⟩ := entry
  obtain rfl : place = .int key := isNumber
  rw [Function.comp_apply, wireEntry, written, numberOf_named named, keyItem]

theorem wireEntries_distinct (distinct : (payload.map Prod.fst).Nodup) :
    ((wireEntries (sentEntries number payload)).reverse.map Prod.fst).Nodup := by
  rw [List.map_reverse, List.nodup_reverse, wireEntries, List.map_map]
  have keys : (sorted (sentEntries number payload)).map (Prod.fst ∘ wireEntry) =
      ((sorted (sentEntries number payload)).map Prod.fst).map numberOf := by
    rw [List.map_map]
    rfl
  rw [keys]
  apply List.Nodup.map_on _ (sorted_increasing sentEntries_distinct).nodup
  intro first member second other same
  obtain ⟨entry, inside, rfl⟩ := List.mem_map.mp member
  obtain ⟨entry', inside', rfl⟩ := List.mem_map.mp other
  obtain ⟨key, name, named, isNumber⟩ := sent_named distinct (mem_sorted.mp inside)
  obtain ⟨key', name', named', isNumber'⟩ := sent_named distinct (mem_sorted.mp inside')
  rw [isNumber, isNumber'] at same ⊢
  rw [← numberOf_named named, ← numberOf_named named', same]

theorem lookup_wireEntries (distinct : (payload.map Prod.fst).Nodup) {key : UInt32}
    {item : Item} :
    (wireEntries (sentEntries number payload)).reverse.lookup key = some item ↔
      ∃ value, (.int key.toNat, value) ∈ sentEntries number payload ∧ represent value = item := by
  rw [lookup_iff_mem (wireEntries_distinct distinct), List.mem_reverse, wireEntries,
    List.mem_map]
  constructor
  · rintro ⟨entry, member, same⟩
    obtain ⟨key', name, named, isNumber⟩ := sent_named distinct (mem_sorted.mp member)
    obtain ⟨place, value⟩ := entry
    obtain rfl : place = .int key' := isNumber
    rw [wireEntry, Prod.mk.injEq] at same
    obtain ⟨rfl, rfl⟩ := same
    refine ⟨value, ?_, rfl⟩
    rw [numberOf_named named]
    exact mem_sorted.mp member
  · rintro ⟨value, member, rfl⟩
    refine ⟨_, mem_sorted.mpr member, ?_⟩
    rw [wireEntry, numberOf, Int.toNat_natCast, UInt32.ofNat_toNat]

variable {key : UInt32} {name : String}

theorem lookup_field (distinct : (payload.map Prod.fst).Nodup)
    (named : (key.toNat, name) ∈ keyNames) (behind : 2 ≤ key.toNat) :
    (wireEntries (sentEntries number payload)).reverse.lookup key =
      (at? payload name).map represent := by
  apply Option.ext
  intro item
  rw [lookup_wireEntries distinct, Option.map_eq_some_iff]
  simp only [sent_field distinct named behind, at?, lookup_iff_mem distinct]

theorem lookup_header (distinct : (payload.map Prod.fst).Nodup)
    (named : (key.toNat, name) ∈ keyNames) {own : Datum}
    (part : (.int key.toNat, own) ∈ header number) :
    (wireEntries (sentEntries number payload)).reverse.lookup key =
      some (represent ((at? payload name).getD own)) :=
  (lookup_wireEntries distinct).mpr ⟨_, (sent_header distinct named part).mpr rfl, rfl⟩

end Sent

/-! Every field of the payload suits the member that it travels to. -/

section Suits

variable {σ : Type} {payload : Entries} {number backups : Nat} {key : UInt32} {name : String}

def RowSuits (backups number : Nat) (payload : Entries) (row : UInt32 × RequestDecoder.Field σ) :
    Prop :=
  ∀ value, (.int row.1.toNat, value) ∈ sentEntries number payload →
    row.2.Suits backups (represent value)

theorem tstr_suits (name : String) (named : (key.toNat, name) ∈ keyNames) (behind : 2 ≤ key.toNat)
    {size : Nat} (sized : (name, size + 1) ∈ textSizes) (sendable : Sendable payload)
    {set : Buffer (size + 1) → σ → σ} : RowSuits backups number payload (key, .tstr size set) := by
  intro value travels
  have member := (sent_field sendable.distinct named behind).mp travels
  obtain ⟨letters, rfl, _, short⟩ := sendable.texts _ sized value member
  exact Nat.le_of_lt_succ short

theorem uint32_suits (name : String) (named : (key.toNat, name) ∈ keyNames)
    (behind : 2 ≤ key.toNat) (listed : name ∈ unsignedNames) (sendable : Sendable payload)
    {set : UInt32 → σ → σ} : RowSuits backups number payload (key, .uint32 set) := by
  intro value travels
  have member := (sent_field sendable.distinct named behind).mp travels
  obtain ⟨sent, rfl, low, high⟩ := sendable.unsigned name listed value member
  exact ⟨low, high⟩

theorem int32_suits (name : String) (named : (key.toNat, name) ∈ keyNames)
    (behind : 2 ≤ key.toNat) (listed : name ∈ signedNames) (sendable : Sendable payload)
    {set : Int32 → σ → σ} : RowSuits backups number payload (key, .int32 set) := by
  intro value travels
  have member := (sent_field sendable.distinct named behind).mp travels
  obtain ⟨sent, rfl, low, high⟩ := sendable.signed name listed value member
  exact ⟨low, high⟩

theorem bool_suits (name : String) (named : (key.toNat, name) ∈ keyNames)
    (behind : 2 ≤ key.toNat) (listed : name ∈ flagNames) (sendable : Sendable payload)
    {set : Bool → σ → σ} : RowSuits backups number payload (key, .bool set) := by
  intro value travels
  have member := (sent_field sendable.distinct named behind).mp travels
  obtain ⟨flag, rfl⟩ := sendable.flags name listed value member
  trivial

theorem header_suits (name : String) (own : Nat) (named : (key.toNat, name) ∈ keyNames)
    (listed : name ∈ unsignedNames) (part : (.int key.toNat, .int own) ∈ header number)
    (small : own < 2 ^ 32) (sendable : Sendable payload) {set : UInt32 → σ → σ} :
    RowSuits backups number payload (key, .uint32 set) := by
  intro value travels
  rw [sent_header sendable.distinct named part] at travels
  cases found : at? payload name with
  | none =>
    rw [found, Option.getD_none] at travels
    subst travels
    exact ⟨by omega, by omega⟩
  | some other =>
    rw [found, Option.getD_some] at travels
    subst travels
    have member := (lookup_iff_mem sendable.distinct).mp found
    obtain ⟨sent, rfl, low, high⟩ := sendable.unsigned name listed other member
    exact ⟨low, high⟩

theorem items_suit {entries : Entries} (each : ∀ entry ∈ entries, Argument entry) :
    ∀ item ∈ itemsOf entries, KeySuits item.1 ∧ ArgumentSuits item.2 := by
  intro item member
  obtain ⟨entry, inside, rfl⟩ := List.mem_map.mp member
  obtain ⟨⟨name, named, safe⟩, fits⟩ := each entry (mem_sorted.mp inside)
  obtain ⟨key, value⟩ := entry
  obtain rfl : key = .text name := named
  refine ⟨jsonFragmentIsSafe_iff.mpr safe, ?_⟩
  cases value with
  | text letters => exact jsonFragmentIsSafe_iff.mpr fits
  | int number => exact fits
  | bool flag => trivial
  | list _ => exact fits.elim
  | dict _ => exact fits.elim

theorem args_suits (free : 0 < backups) (named : (key.toNat, "args") ∈ keyNames)
    (behind : 2 ≤ key.toNat) (sendable : Sendable payload) {set : Buffer (255 + 1) → σ → σ} :
    RowSuits backups number payload (key, .args 255 set) := by
  intro value travels
  have member := (sent_field sendable.distinct named behind).mp travels
  obtain ⟨entries, rfl, each, short⟩ := sendable.args value member
  rw [represent_dict]
  have counted := @JsonText.length_le_join _ argumentText (itemsOf entries)
  have whole : (argumentsText (itemsOf entries)).length < 256 := short
  rw [argumentsText, List.length_append, List.length_append] at short
  exact ⟨free, by show (itemsOf entries).length < 65536; omega, by decide, items_suit each,
    Nat.le_of_lt_succ whole⟩

theorem metadata_rows (small : number < 2 ^ 32) (sendable : Sendable payload) :
    ∀ row ∈ recordFields metadataFields, RowSuits backups number payload row := by
  simp only [recordFields, headerFields, metadataFields, List.map_cons, List.map_nil,
    List.cons_append, List.nil_append, List.forall_mem_cons, Field.ofRecord]
  exact ⟨header_suits "schema_version" 2 (by decide) (by decide) (.head _) (by decide) sendable,
    header_suits "message_kind" number (by decide) (by decide) (.tail _ (.head _)) small sendable,
    tstr_suits "request_id" (by decide) (by decide) (by decide) sendable,
    tstr_suits "source_core" (by decide) (by decide) (by decide) sendable,
    tstr_suits "source_agent" (by decide) (by decide) (by decide) sendable,
    tstr_suits "target_node" (by decide) (by decide) (by decide) sendable,
    uint32_suits "timeout_ms" (by decide) (by decide) (by decide) sendable,
    int32_suits "priority" (by decide) (by decide) (by decide) sendable,
    tstr_suits "idempotency_key" (by decide) (by decide) (by decide) sendable,
    tstr_suits "lease_id" (by decide) (by decide) (by decide) sendable,
    bool_suits "forwarded" (by decide) (by decide) (by decide) sendable,
    fun _ none => absurd none List.not_mem_nil⟩

theorem requestFields_rows (free : 0 < backups) (small : number < 2 ^ 32)
    (sendable : Sendable payload) :
    ∀ row ∈ recordFields requestFields, RowSuits backups number payload row := by
  simp only [recordFields, headerFields, requestFields, List.map_cons, List.map_nil,
    List.cons_append, List.nil_append, List.forall_mem_cons, Field.ofRecord]
  exact ⟨header_suits "schema_version" 2 (by decide) (by decide) (.head _) (by decide) sendable,
    header_suits "message_kind" number (by decide) (by decide) (.tail _ (.head _)) small sendable,
    tstr_suits "resource" (by decide) (by decide) (by decide) sendable,
    args_suits free (by decide) (by decide) sendable,
    uint32_suits "ttl_ms" (by decide) (by decide) (by decide) sendable,
    tstr_suits "start_args" (by decide) (by decide) (by decide) sendable,
    tstr_suits "reason" (by decide) (by decide) (by decide) sendable,
    tstr_suits "transport" (by decide) (by decide) (by decide) sendable,
    tstr_suits "artifact_key" (by decide) (by decide) (by decide) sendable,
    uint32_suits "size" (by decide) (by decide) (by decide) sendable,
    uint32_suits "chunk_size" (by decide) (by decide) (by decide) sendable,
    bool_suits "callback_enabled" (by decide) (by decide) (by decide) sendable,
    int32_suits "trigger_every" (by decide) (by decide) (by decide) sendable,
    tstr_suits "event_name" (by decide) (by decide) (by decide) sendable,
    fun _ none => absurd none List.not_mem_nil⟩

/-- Where every row suits what travels to it, every entry suits its field. -/
theorem entries_suit {fields : List (UInt32 × RequestDecoder.Field σ)} (sendable : Sendable payload)
    (rows : ∀ row ∈ fields, RowSuits backups number payload row)
    (fits : Fits (represent (.dict (sentEntries number payload)))) :
    ∀ entry ∈ wireEntries (sentEntries number payload), EntrySuits backups fields entry := by
  intro entry member
  obtain ⟨origin, inside, rfl⟩ := List.mem_map.mp member
  rw [represent_dict] at fits
  constructor
  · exact (fitEntries_mem fits.2 _ (List.mem_map_of_mem inside)).2
  · intro field found
    have travels := mem_sorted.mp inside
    obtain ⟨key, name, named, isNumber⟩ := sent_named sendable.distinct travels
    obtain ⟨place, value⟩ := origin
    obtain rfl : place = .int key := isNumber
    apply rows _ (mem_of_lookup found) value
    show (.int (numberOf (.int key)).toNat, value) ∈ sentEntries number payload
    rw [numberOf_named named]
    exact travels

theorem wireEntries_few (sendable : Sendable payload) :
    (wireEntries (sentEntries number payload)).length < 65536 := by
  have among : (sentEntries number payload).map Prod.fst ⊆
      keyNames.map fun entry => .int entry.1 := by
    intro key member
    obtain ⟨entry, inside, rfl⟩ := List.mem_map.mp member
    obtain ⟨key, name, named, isNumber⟩ := sent_named sendable.distinct inside
    exact List.mem_map.mpr ⟨(key, name), named, isNumber.symm⟩
  have most := (sentEntries_distinct.subperm among).length_le
  rw [List.length_map, List.length_map] at most
  rw [wireEntries, List.length_map, (sorted_perm _).length_eq]
  exact Nat.lt_of_le_of_lt most (by decide)

end Suits

/-! What the unit reads is what the payload holds. -/

section Carried

variable {payload : Entries} {number : Nat}

def seenBy (number : Nat) (payload : Entries) : List (UInt32 × Item) :=
  (wireEntries (sentEntries number payload)).reverse

theorem field_member (sendable : Sendable payload) {name : String} {value : Datum}
    (found : at? payload name = some value) : (.text name, value) ∈ payload :=
  (lookup_iff_mem sendable.distinct).mp found

theorem text_carried (key : UInt32) (name : String) (named : (key.toNat, name) ∈ keyNames)
    (behind : 2 ≤ key.toNat) {size : Nat} (sized : (name, size + 1) ∈ textSizes)
    (sendable : Sendable payload) :
    bytes (textOf ((seenBy number payload).lookup key) : Buffer (size + 1)).text =
      textAt payload name := by
  rw [seenBy, lookup_field sendable.distinct named behind, textAt]
  cases found : at? payload name with
  | none => rfl
  | some value =>
    obtain ⟨letters, rfl, live, short⟩ :=
      sendable.texts _ sized value (field_member sendable found)
    show bytes (copyBounded (ofBytes (utf8 letters)) : Buffer (size + 1)).text = utf8 letters
    have whole := bytes_ofBytes live
    rw [copyBounded_exact, whole]
    rw [← bytes_length, whole]
    exact Nat.le_of_lt_succ short

theorem unsigned_carried (key : UInt32) (name : String) (named : (key.toNat, name) ∈ keyNames)
    (behind : 2 ≤ key.toNat) (listed : name ∈ unsignedNames) (sendable : Sendable payload) :
    ((uint32Of ((seenBy number payload).lookup key)).toNat : Int) = intAt payload name 0 := by
  rw [seenBy, lookup_field sendable.distinct named behind, intAt]
  cases found : at? payload name with
  | none => rfl
  | some value =>
    obtain ⟨sent, rfl, low, high⟩ :=
      sendable.unsigned name listed value (field_member sendable found)
    exact uint32_number low high

theorem signed_carried (key : UInt32) (name : String) (missing : Int32)
    (named : (key.toNat, name) ∈ keyNames) (behind : 2 ≤ key.toNat)
    (listed : name ∈ signedNames) (sendable : Sendable payload) :
    (int32Of missing ((seenBy number payload).lookup key)).toInt =
      intAt payload name missing.toInt := by
  rw [seenBy, lookup_field sendable.distinct named behind, intAt]
  cases found : at? payload name with
  | none => rfl
  | some value =>
    obtain ⟨sent, rfl, low, high⟩ :=
      sendable.signed name listed value (field_member sendable found)
    exact int32_number low high

theorem flag_carried (key : UInt32) (name : String) (named : (key.toNat, name) ∈ keyNames)
    (behind : 2 ≤ key.toNat) (listed : name ∈ flagNames) (sendable : Sendable payload) :
    boolOf ((seenBy number payload).lookup key) = flagAt payload name := by
  rw [seenBy, lookup_field sendable.distinct named behind, flagAt]
  cases found : at? payload name with
  | none => rfl
  | some value =>
    obtain ⟨flag, rfl⟩ := sendable.flags name listed value (field_member sendable found)
    rfl

theorem presence_carried (key : UInt32) (name : String)
    (named : (key.toNat, name) ∈ keyNames) (behind : 2 ≤ key.toNat)
    (sendable : Sendable payload) :
    ((seenBy number payload).lookup key).isSome = (at? payload name).isSome := by
  rw [seenBy, lookup_field sendable.distinct named behind, Option.isSome_map]

theorem argument_means {entry : Key × Datum} (argument : Argument entry) :
    (∃ name, entry.1 = .text name ∧ bytes (argumentKey (keyItem entry.1)) = utf8 name) ∧
      Shows (argumentValue (represent entry.2)) entry.2 := by
  obtain ⟨⟨name, named, safe⟩, fits⟩ := argument
  obtain ⟨key, value⟩ := entry
  obtain rfl : key = .text name := named
  refine ⟨⟨name, rfl, bytes_ofBytes (safe_live (jsonFragmentIsSafe_iff.mpr safe))⟩, ?_⟩
  cases value with
  | text letters => exact bytes_ofBytes (safe_live (jsonFragmentIsSafe_iff.mpr fits))
  | int number => rfl
  | bool flag => rfl
  | list _ => exact fits.elim
  | dict _ => exact fits.elim

theorem args_carried (key : UInt32) (named : (key.toNat, "args") ∈ keyNames)
    (behind : 2 ≤ key.toNat) (sendable : Sendable payload) :
    ArgsCarried payload
      (argumentsOf ((seenBy number payload).lookup key) : Buffer (255 + 1)).text := by
  rw [seenBy, lookup_field sendable.distinct named behind, ArgsCarried]
  cases found : at? payload "args" with
  | none => rfl
  | some value =>
    obtain ⟨entries, rfl, each, short⟩ := sendable.args value (field_member sendable found)
    have read : (argumentsOf (some (represent (.dict entries))) : Buffer (255 + 1)).text =
        argumentsText (itemsOf entries) := by
      rw [represent_dict]
      exact copyBounded_exact _ (Nat.le_of_lt_succ short)
    refine ⟨(itemsOf entries).map fun entry => (argumentKey entry.1, argumentValue entry.2),
      sorted entries, ?_, sorted_perm entries, ?_⟩
    · rw [Option.map_some, read]
      exact argumentsText_parsed (items_suit each)
    · rw [itemsOf, List.map_map, List.forall₂_map_left_iff, List.forall₂_same]
      exact fun entry member => argument_means (each entry (mem_sorted.mp member))

theorem metadata_carried (sendable : Sendable payload) :
    MetadataCarried payload (metadataOf (seenBy number payload)) where
  requestId := text_carried 3 "request_id" (by decide) (by decide) (by decide) sendable
  sourceCore := text_carried 5 "source_core" (by decide) (by decide) (by decide) sendable
  sourceAgent := text_carried 6 "source_agent" (by decide) (by decide) (by decide) sendable
  targetNode := text_carried 7 "target_node" (by decide) (by decide) (by decide) sendable
  leaseId := text_carried 11 "lease_id" (by decide) (by decide) (by decide) sendable
  idempotencyKey :=
    text_carried 10 "idempotency_key" (by decide) (by decide) (by decide) sendable
  timeoutMs := unsigned_carried 8 "timeout_ms" (by decide) (by decide) (by decide) sendable
  priority := signed_carried 9 "priority" (-1) (by decide) (by decide) (by decide) sendable
  forwarded := flag_carried 12 "forwarded" (by decide) (by decide) (by decide) sendable

theorem fields_carried (sendable : Sendable payload) :
    FieldsCarried payload (requestFieldsOf (seenBy number payload)) where
  resource := text_carried 30 "resource" (by decide) (by decide) (by decide) sendable
  argsJson := args_carried 52 (by decide) (by decide) sendable
  ttlMs := unsigned_carried 32 "ttl_ms" (by decide) (by decide) (by decide) sendable
  startArgs := text_carried 53 "start_args" (by decide) (by decide) (by decide) sendable
  reason := text_carried 54 "reason" (by decide) (by decide) (by decide) sendable
  transport := text_carried 56 "transport" (by decide) (by decide) (by decide) sendable
  artifactKey := text_carried 57 "artifact_key" (by decide) (by decide) (by decide) sendable
  size := unsigned_carried 58 "size" (by decide) (by decide) (by decide) sendable
  chunkSize := unsigned_carried 59 "chunk_size" (by decide) (by decide) (by decide) sendable
  hasCallbackEnabled := presence_carried 80 "callback_enabled" (by decide) (by decide) sendable
  callbackEnabled :=
    flag_carried 80 "callback_enabled" (by decide) (by decide) (by decide) sendable
  hasTriggerEvery := presence_carried 81 "trigger_every" (by decide) (by decide) sendable
  triggerEvery := signed_carried 81 "trigger_every" 0 (by decide) (by decide) (by decide) sendable
  hasEventName := presence_carried 82 "event_name" (by decide) (by decide) sendable
  eventName := text_carried 82 "event_name" (by decide) (by decide) (by decide) sendable

end Carried

/-! The header decides whether the request is taken. -/

section Header

variable {payload : Entries} {number : Nat} {kind : MessageKind}

theorem ofNumber_number : ∀ kind, MessageKind.ofNumber (MessageKind.number kind) = some kind := by
  intro kind
  cases kind <;> rfl

theorem ofNumber_some {wire : UInt32} (found : MessageKind.ofNumber wire = some kind) :
    wire = kind.number := by
  obtain ⟨entry, listed, rfl⟩ := Option.map_eq_some_iff.mp found
  have same : entry.2 = wire := by simpa using List.find?_some listed
  have member := List.mem_of_find?_eq_some listed
  rw [← same]
  revert member
  generalize entry = any
  revert any
  decide

theorem requestKind_ok {α : Type} {decoded : Decoded α} (request : kind.number < 20) :
    requestKind decoded = .ok kind ↔
      decoded.schemaVersion = 2 ∧ decoded.messageKind = kind.number := by
  rw [requestKind]
  constructor
  · intro accepted
    split at accepted
    · cases accepted
    · next version =>
      split at accepted
      · cases accepted
      · next other found =>
        split at accepted
        · cases accepted
        · cases accepted
          exact ⟨not_not.mp version, ofNumber_some found⟩
  · rintro ⟨version, same⟩
    have taken : ¬ decoded.schemaVersion ≠ NEURO_PROTOCOL_CBOR_SCHEMA_VERSION :=
      not_not.mpr version
    rw [if_neg taken, same, ofNumber_number]
    exact if_neg (UInt32.not_le.mpr request)

theorem part_kept (sendable : Sendable payload) {name : String} (listed : name ∈ unsignedNames)
    (own : UInt32) :
    uint32Of (some (represent ((at? payload name).getD (.int own.toNat)))) = own ↔
      ∀ value, (.text name, value) ∈ payload → value = .int own.toNat := by
  cases found : at? payload name with
  | none =>
    rw [Option.getD_none, represent, uint32Of, Int.toNat_natCast, UInt32.ofNat_toNat]
    refine ⟨fun _ value member => ?_, fun _ => rfl⟩
    rw [at?, (lookup_iff_mem sendable.distinct).mpr member] at found
    cases found
  | some other =>
    obtain ⟨sent, rfl, low, high⟩ :=
      sendable.unsigned name listed other (field_member sendable found)
    have whole := uint32_number low high
    rw [Option.getD_some, represent, uint32Of]
    constructor
    · intro same value member
      rw [at?, (lookup_iff_mem sendable.distinct).mpr member] at found
      rw [Option.some.inj found, ← same, whole]
    · intro only
      have same := Datum.int.inj (only _ (field_member sendable found))
      rw [same, Int.toNat_natCast, UInt32.ofNat_toNat]

theorem headerKept_iff (sendable : Sendable payload) :
    (uint32Of ((seenBy kind.number.toNat payload).lookup 0) = 2 ∧
      uint32Of ((seenBy kind.number.toNat payload).lookup 1) = kind.number) ↔
        HeaderKept payload kind := by
  have version : (seenBy kind.number.toNat payload).lookup 0 =
      some (represent ((at? payload "schema_version").getD (.int (2 : UInt32).toNat))) :=
    lookup_header sendable.distinct (by decide) (.head _)
  have sort : (seenBy kind.number.toNat payload).lookup 1 =
      some (represent ((at? payload "message_kind").getD (.int kind.number.toNat))) :=
    lookup_header sendable.distinct (by decide) (.tail _ (.head _))
  rw [version, sort, part_kept sendable (by decide), part_kept sendable (by decide)]
  exact ⟨fun kept => ⟨kept.1, kept.2⟩, fun kept => ⟨kept.schemaVersion, kept.messageKind⟩⟩

end Header

/-! The two sides together. -/

section Agreement

variable {zcbor : ElementReader} {payload : Entries} {number : Nat}

theorem decoded_metadata (small : number < 2 ^ 32) (sendable : Sendable payload)
    (fits : Fits (represent (.dict (sentEntries number payload)))) :
    decodeRequestMetadataCbor zcbor (packet (wireEntries (sentEntries number payload))) =
      (requestKind (decodedOf metadataOf (seenBy number payload))).map fun kind =>
        (metadataOf (seenBy number payload), kind) :=
  decodeRequestMetadataCbor_run (wireEntries_few sendable)
    (entries_suit sendable (metadata_rows small sendable) fits)

theorem decoded_fields (small : number < 2 ^ 32) (sendable : Sendable payload)
    (fits : Fits (represent (.dict (sentEntries number payload)))) :
    decodeRequestFieldsCbor zcbor (packet (wireEntries (sentEntries number payload))) =
      (requestKind (decodedOf requestFieldsOf (seenBy number payload))).map fun _ =>
        requestFieldsOf (seenBy number payload) :=
  decodeRequestFieldsCbor_run (wireEntries_few sendable)
    (entries_suit sendable (requestFields_rows Nat.one_pos small sendable) fits)

theorem messageKindForKeyexpr_kind {keyexpr name : String}
    (routed : messageKindForKeyexpr keyexpr payload = some name) :
    ∃ kind : MessageKind, name = kindText kind ∧ kind.number < 20 ∧
      kindNumber name = some kind.number.toNat := by
  simp only [messageKindForKeyexpr] at routed
  split at routed
  · cases routed
    exact ⟨.queryRequest, rfl, by decide, by decide⟩
  split at routed
  · cases routed
    exact ⟨.leaseAcquireRequest, rfl, by decide, by decide⟩
  split at routed
  · cases routed
    exact ⟨.leaseReleaseRequest, rfl, by decide, by decide⟩
  split at routed
  · split at routed
    · cases routed
      exact ⟨.callbackConfigRequest, rfl, by decide, by decide⟩
    · cases routed
      exact ⟨.appCommandRequest, rfl, by decide, by decide⟩
  split at routed
  · obtain ⟨action, _, found⟩ := Option.bind_eq_some_iff.mp routed
    obtain ⟨before, after, listed, _⟩ := List.lookup_eq_some_iff.mp found
    have member : (action, name) ∈ updateKinds := by
      rw [listed]
      exact List.mem_append_right before List.mem_cons_self
    simp only [updateKinds, List.mem_cons, List.not_mem_nil, or_false, Prod.mk.injEq] at member
    rcases member with ⟨_, rfl⟩ | ⟨_, rfl⟩ | ⟨_, rfl⟩ | ⟨_, rfl⟩ | ⟨_, rfl⟩
    · exact ⟨.updatePrepareRequest, rfl, by decide, by decide⟩
    · exact ⟨.updateVerifyRequest, rfl, by decide, by decide⟩
    · exact ⟨.updateActivateRequest, rfl, by decide, by decide⟩
    · exact ⟨.updateRollbackRequest, rfl, by decide, by decide⟩
    · exact ⟨.updateDeleteRequest, rfl, by decide, by decide⟩
  · cases routed

theorem encoded_packet {kind : String} {data : List UInt8} (sendable : Sendable payload)
    (known : kindNumber kind = some number)
    (encoded : encodePayloadCbor payload kind = some data) :
    data = packet (wireEntries (sentEntries number payload)) ∧
      Fits (represent (.dict (sentEntries number payload))) := by
  rw [encodePayloadCbor, logicalToCborMap_sent known] at encoded
  rw [packet_wireEntries sendable.distinct]
  exact cborEncode_some _ _ encoded

/-- What the client encodes the unit decodes as its kind and its fields, exactly when the payload
leaves the header as it is. -/
theorem request_format_agrees (zcbor : ElementReader) {keyexpr : String} {payload : Entries}
    {data : List UInt8} (accepted : encodeQueryPayload keyexpr payload = some data)
    (sendable : Sendable payload) :
    ∃ kind, messageKindForKeyexpr keyexpr payload = some (kindText kind) ∧
      (Carried zcbor payload kind data ↔ HeaderKept payload kind) := by
  obtain ⟨name, routed, encoded⟩ := Option.bind_eq_some_iff.mp accepted
  obtain ⟨kind, rfl, request, known⟩ := messageKindForKeyexpr_kind routed
  refine ⟨kind, routed, ?_⟩
  obtain ⟨rfl, fits⟩ := encoded_packet sendable known encoded
  have metadata := @decoded_metadata zcbor _ _ kind.number.toNat_lt sendable fits
  have fields := @decoded_fields zcbor _ _ kind.number.toNat_lt sendable fits
  rw [← headerKept_iff sendable]
  constructor
  · rintro ⟨⟨record, decoded, _⟩, _⟩
    rw [metadata] at decoded
    cases taken : requestKind (decodedOf metadataOf (seenBy kind.number.toNat payload)) with
    | error _ =>
      rw [taken] at decoded
      cases decoded
    | ok other =>
      rw [taken] at decoded
      cases decoded
      exact (requestKind_ok request).mp taken
  · intro header
    have taken : requestKind (decodedOf metadataOf (seenBy kind.number.toNat payload)) = .ok kind :=
      (requestKind_ok request).mpr header
    have takenFields : requestKind (decodedOf requestFieldsOf
        (seenBy kind.number.toNat payload)) = .ok kind :=
      (requestKind_ok request).mpr header
    constructor
    · exact ⟨_, by rw [metadata, taken]; rfl, metadata_carried sendable⟩
    · exact ⟨_, by rw [fields, takenFields]; rfl, fields_carried sendable⟩

theorem encodeQueryPayload_sent {keyexpr name : String}
    (routed : messageKindForKeyexpr keyexpr payload = some name)
    (known : kindNumber name = some number)
    (storable : Storable (.dict (sentEntries number payload))) :
    encodeQueryPayload keyexpr payload =
      some (encode (represent (.dict (sentEntries number payload)))) := by
  rw [encodeQueryPayload, routed, Option.bind_some, encodePayloadCbor,
    logicalToCborMap_sent known, Option.bind_eq_bind, Option.bind_some, cborEncode_eq storable]

end Agreement

def demoPayload : Entries :=
  [(.text "request_id", .text "r1"), (.text "args", .dict [(.text "x", .int 5)])]

theorem demo_sendable : Sendable demoPayload := by
  have only {name : String} {value : Datum} (member : (.text name, value) ∈ demoPayload) :
      (name = "request_id" ∧ value = .text "r1") ∨
        (name = "args" ∧ value = .dict [(.text "x", .int 5)]) := by
    simpa [demoPayload] using member
  have unlisted {names : List String} (apart : "request_id" ∉ names ∧ "args" ∉ names)
      {name : String} (listed : name ∈ names) {value : Datum} :
      (.text name, value) ∉ demoPayload := by
    intro member
    rcases only member with ⟨rfl, _⟩ | ⟨rfl, _⟩
    · exact apart.1 listed
    · exact apart.2 listed
  constructor
  · simp [demoPayload]
  · intro field listed value member
    have apart : ∀ field ∈ textSizes, field.1 ≠ "args" ∧ 24 ≤ field.2 := by decide
    obtain ⟨other, large⟩ := apart field listed
    rcases only member with ⟨_, same⟩ | ⟨named, _⟩
    · exact ⟨"r1", same, by decide, Nat.lt_of_lt_of_le (by decide) large⟩
    · exact absurd named other
  · exact fun name listed value member => absurd member (unlisted (by decide) listed)
  · exact fun name listed value member => absurd member (unlisted (by decide) listed)
  · exact fun name listed value member => absurd member (unlisted (by decide) listed)
  · intro value member
    rcases only member with ⟨named, _⟩ | ⟨_, rfl⟩
    · exact absurd named (by decide)
    · refine ⟨_, rfl, ?_, ?_⟩
      · rw [List.forall_mem_singleton]
        exact ⟨⟨"x", rfl, jsonFragmentIsSafe_iff.mp (by decide)⟩, by decide, by decide⟩
      · rw [itemsOf, sorted, List.mergeSort_singleton]
        decide

/-- A request with an argument, to the reader that keeps its position and nothing else. -/
theorem request_format_agrees_demo :
    ∃ data, encodeQueryPayload "neuro/n1/cmd/app/a/invoke" demoPayload = some data ∧
      Carried ElementReader.plain demoPayload .appCommandRequest data := by
  have routed : messageKindForKeyexpr "neuro/n1/cmd/app/a/invoke" demoPayload =
      some "app_command_request" := by decide +kernel
  have sent : sentEntries 4 demoPayload =
      [(.int 0, .int 2), (.int 1, .int 4), (.int 3, .text "r1"),
        (.int 52, .dict [(.text "x", .int 5)])] := by rfl
  have storable : Storable (.dict (sentEntries 4 demoPayload)) := by
    rw [sent]
    simp [Storable, StorableEntries, Key.Storable, oneKind, Key.isText]
    decide
  have accepted := encodeQueryPayload_sent routed (by decide) storable
  refine ⟨_, accepted, ?_⟩
  obtain ⟨kind, chosen, agrees⟩ := request_format_agrees ElementReader.plain accepted demo_sendable
  have same : kind = .appCommandRequest := by
    rw [routed, Option.some.injEq] at chosen
    revert chosen
    cases kind <;> decide
  rw [← same]
  apply agrees.mpr
  constructor
  · intro value member
    simp [demoPayload] at member
  · intro value member
    simp [demoPayload] at member

def foreignVersion : Entries := [(.text "schema_version", .int 3)]

theorem foreignVersion_sendable : Sendable foreignVersion := by
  have only {name : String} {value : Datum} (member : (.text name, value) ∈ foreignVersion) :
      name = "schema_version" ∧ value = .int 3 := by
    simpa [foreignVersion] using member
  constructor
  · simp [foreignVersion]
  · intro field listed value member
    have apart : ∀ field ∈ textSizes, field.1 ≠ "schema_version" := by decide
    exact absurd (only member).1 (apart field listed)
  · intro name listed value member
    exact ⟨3, (only member).2, by decide, by decide⟩
  · intro name listed value member
    obtain ⟨rfl, _⟩ := only member
    exact absurd listed (by decide)
  · intro name listed value member
    obtain ⟨rfl, _⟩ := only member
    exact absurd listed (by decide)
  · intro value member
    exact absurd (only member).1 (by decide)

/-- A payload with a version of its own is refused by both decoders. -/
theorem foreign_version_refused :
    Sendable foreignVersion ∧
      messageKindForKeyexpr "neuro/n1/query/device" foreignVersion = some "query_request" ∧
      ∃ data, encodeQueryPayload "neuro/n1/query/device" foreignVersion = some data ∧
        decodeRequestMetadataCbor ElementReader.plain data = .error (-Errno.enotsup) ∧
        decodeRequestFieldsCbor ElementReader.plain data = .error (-Errno.enotsup) := by
  have sendable := foreignVersion_sendable
  have routed : messageKindForKeyexpr "neuro/n1/query/device" foreignVersion =
      some "query_request" := by decide +kernel
  have sent : sentEntries 1 foreignVersion = [(.int 0, .int 3), (.int 1, .int 1)] := by rfl
  have storable : Storable (.dict (sentEntries 1 foreignVersion)) := by
    rw [sent]
    simp [Storable, StorableEntries, Key.Storable, oneKind, Key.isText]
  have fits := represent_fits storable
  have version : (seenBy 1 foreignVersion).lookup 0 = some (.int 3) :=
    @lookup_header foreignVersion 1 0 "schema_version" sendable.distinct (by decide) (.int 2)
      (.head _)
  refine ⟨sendable, routed, _, encodeQueryPayload_sent routed (by decide) storable, ?_⟩
  rw [← packet_wireEntries sendable.distinct, decoded_metadata (by decide) sendable fits,
    decoded_fields (by decide) sendable fits]
  simp only [requestKind, decodedOf, version]
  exact ⟨rfl, rfl⟩

end NeuroLink.WireAgreement
