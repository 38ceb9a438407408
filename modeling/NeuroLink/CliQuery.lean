import NeuroLink.Cbor
import NeuroLink.PyValue

/-!
How the CLI reads the replies to a query. The bytes of a reply become a dictionary under the
logical names of the protocol, the replies of one attempt become a result, and an attempt that
nothing or an error came of is repeated.
-/

namespace NeuroLink.CliQuery

open PyValue Cbor

/-- `CBOR_V2_KEY_NAMES`. -/
def keyNames : List (Nat × String) :=
  [(0, "schema_version"), (1, "message_kind"), (2, "status"), (3, "request_id"), (4, "node_id"),
    (5, "source_core"), (6, "source_agent"), (7, "target_node"), (8, "timeout_ms"),
    (9, "priority"), (10, "idempotency_key"), (11, "lease_id"), (12, "forwarded"),
    (20, "status_code"), (21, "message"), (30, "resource"), (31, "expires_at_ms"), (32, "ttl_ms"),
    (40, "board"), (41, "zenoh_mode"), (42, "session_ready"), (43, "network_state"), (44, "ipv4"),
    (50, "app_id"), (51, "command"), (52, "args"), (53, "start_args"), (54, "reason"),
    (55, "path"), (56, "transport"), (57, "artifact_key"), (58, "size"), (59, "chunk_size"),
    (60, "app_count"), (61, "running_count"), (62, "suspended_count"), (63, "apps"),
    (64, "runtime_state"), (65, "manifest_present"), (66, "update_state"), (67, "artifact_state"),
    (68, "stable_ref"), (69, "last_error"), (70, "rollback_reason"), (71, "leases"),
    (80, "callback_enabled"), (81, "trigger_every"), (82, "event_name"), (83, "invoke_count"),
    (84, "start_count"), (85, "config_changed"), (86, "publish_ret"), (87, "echo"), (90, "stage"),
    (91, "detail"), (92, "state_version"), (93, "action")]

/-- `CBOR_V2_MESSAGE_KIND_NAMES`. -/
def messageKindNames : List (Nat × String) :=
  [(1, "query_request"), (2, "lease_acquire_request"), (3, "lease_release_request"),
    (4, "app_command_request"), (5, "callback_config_request"), (6, "update_prepare_request"),
    (7, "update_verify_request"), (8, "update_activate_request"), (9, "update_rollback_request"),
    (10, "update_delete_request"), (20, "error_reply"), (21, "lease_reply"),
    (22, "query_device_reply"), (23, "query_apps_reply"), (24, "query_leases_reply"),
    (25, "update_prepare_reply"), (26, "update_verify_reply"), (27, "update_activate_reply"),
    (28, "update_rollback_reply"), (29, "app_command_reply"), (40, "callback_event"),
    (41, "update_event"), (42, "state_event"), (43, "lease_event")]

/-- `CBOR_V2_KEY_NAMES.get(key, key)`, as a key of JSON, which has no keys but texts. -/
def numberName (named : Bool) (number : Int) (shown : String) : String :=
  if named && 0 ≤ number then (keyNames.lookup number.toNat).getD shown else shown

/-- A truth value is a number to a dictionary; an array or a map is no key at all. -/
def keyName (named : Bool) : Item → Option String
  | .int number => some (numberName named number (toString number))
  | .bool flag => some (numberName named (if flag then 1 else 0) (if flag then "true" else "false"))
  | .text bytes => String.fromUTF8? ⟨bytes.toArray⟩
  | .list _ | .map _ => none

def isMap : Item → Bool
  | .map _ => true
  | _ => false

/-- `CBOR_V2_MESSAGE_KIND_NAMES.get(item, item)` of an integer; a truth value is one. -/
def messageKindName (item : Item) (value : Value) : Value :=
  match item with
  | .int number => ((messageKindNames.lookup number.toNat).map .str).getD value
  | .bool flag => ((messageKindNames.lookup (if flag then 1 else 0)).map .str).getD value
  | _ => value

/-! `cbor_decode` of the texts and `cbor_map_to_logical` of what is named: a dictionary, the
dictionaries in it, and those in its lists. Of two entries with one key the later counts. -/

mutual

def toValue (named : Bool) : Item → Option Value
  | .int number => some (.int number)
  | .text bytes => (String.fromUTF8? ⟨bytes.toArray⟩).map .str
  | .bool flag => some (.bool flag)
  | .list items => (toValues named items).map .list
  | .map entries => (toEntries named entries).map fun entries => .dict entries.reverse

def toValues (named : Bool) : List Item → Option (List Value)
  | [] => some []
  | item :: rest => do
      let value ← toValue (named && isMap item) item
      let values ← toValues named rest
      return value :: values

def toEntries (named : Bool) : List (Item × Item) → Option Dict
  | [] => some []
  | (key, item) :: rest => do
      let name ← keyName named key
      let value ← toValue named item
      let entries ← toEntries named rest
      return (name, if named && name = "message_kind" then messageKindName item value else value) ::
        entries

end

/-- `decode_payload_cbor`. -/
def decodePayloadCbor (data : List UInt8) : Option Value :=
  match decode data with
  | some (.map entries) => toValue true (.map entries)
  | _ => none

theorem toValues_mem {named : Bool} {items : List Item} {values : List Value}
    (read : toValues named items = some values) :
    ∀ value ∈ values, ∃ item ∈ items, toValue (named && isMap item) item = some value := by
  induction items generalizing values with
  | nil =>
      cases read
      simp
  | cons item rest ih =>
      rw [toValues, Option.bind_eq_bind, Option.bind_eq_some_iff] at read
      obtain ⟨first, here, read⟩ := read
      rw [Option.bind_eq_bind, Option.bind_eq_some_iff] at read
      obtain ⟨others, later, read⟩ := read
      cases read
      intro value member
      rcases List.mem_cons.mp member with rfl | member
      · exact ⟨item, List.mem_cons_self, here⟩
      · obtain ⟨other, inside, shown⟩ := ih later value member
        exact ⟨other, List.mem_cons_of_mem item inside, shown⟩

theorem toEntries_mem {entries : List (Item × Item)} {named : Bool} {shown : Dict}
    (read : toEntries named entries = some shown) :
    ∀ entry ∈ shown, ∃ written ∈ entries, keyName named written.1 = some entry.1 ∧
      (entry.1 ≠ "message_kind" → toValue named written.2 = some entry.2) := by
  induction entries generalizing shown with
  | nil =>
      cases read
      simp
  | cons written rest ih =>
      obtain ⟨key, item⟩ := written
      rw [toEntries, Option.bind_eq_bind, Option.bind_eq_some_iff] at read
      obtain ⟨name, named, read⟩ := read
      rw [Option.bind_eq_bind, Option.bind_eq_some_iff] at read
      obtain ⟨value, here, read⟩ := read
      rw [Option.bind_eq_bind, Option.bind_eq_some_iff] at read
      obtain ⟨others, later, read⟩ := read
      cases read
      intro entry member
      rcases List.mem_cons.mp member with rfl | member
      · refine ⟨(key, item), List.mem_cons_self, named, fun other => ?_⟩
        have plain : ¬ (name = "message_kind") := other
        simpa [plain] using here
      · obtain ⟨source, inside, facts⟩ := ih later entry member
        exact ⟨source, List.mem_cons_of_mem _ inside, facts⟩

inductive Sample where
  | ok (data : List UInt8)
  | err (shown : String)

/-- What comes of one attempt: the session raises, or it returns the replies. -/
inductive Attempt where
  | raised (error : String)
  | replied (samples : List Sample)

section Results

variable (loads : List UInt8 → Option Value)

/-- `parse_wire_payload`: bytes that start like JSON are read by `loads`. -/
def parseWirePayload (data : List UInt8) : Option Value :=
  match data with
  | first :: _ => if first ≠ 0x7b ∧ first ≠ 0x5b then decodePayloadCbor data else loads data
  | [] => loads data

/-- A map the unit encoded is read as that map. -/
theorem parseWirePayload_encode {entries : List (Item × Item)} (ints : IntsFit (.map entries))
    (short : (encode (.map entries)).length < 2 ^ 64) :
    parseWirePayload loads (encode (.map entries)) = toValue true (.map entries) := by
  have whole : decode (encode (.map entries)) = some (.map entries) :=
    decode_encode (fits_of_short _ ints short)
  have first : ∃ byte rest, encode (.map entries) = byte :: rest ∧ 160 ≤ byte.toNat := by
    refine ⟨_, _, rfl, ?_⟩
    have small := additional_lt entries.length
    rw [UInt8.toNat_ofNat']
    omega
  obtain ⟨byte, rest, shape, large⟩ := first
  have cbor : byte ≠ 0x7b ∧ byte ≠ 0x5b := by
    constructor
    · rintro rfl
      exact absurd large (by decide)
    · rintro rfl
      exact absurd large (by decide)
  have read : parseWirePayload loads (byte :: rest) = decodePayloadCbor (byte :: rest) :=
    if_pos cbor
  rw [shape, read, ← shape, decodePayloadCbor, whole]

/-- `parse_reply`. -/
def parseReply (keyexpr : String) : Sample → Dict
  | .err shown => [("ok", .bool false), ("payload", .str shown)]
  | .ok data =>
      match parseWirePayload loads data with
      | some payload => [("ok", .bool true), ("keyexpr", .str keyexpr), ("payload", payload)]
      | none => [("ok", .bool false), ("status", .str "parse_failed"),
          ("keyexpr", .str keyexpr), ("payload", .str "<unreadable ok payload>")]

/-- `collect_query_result`. A result whose replies are all right has no status. -/
def collectQueryResult (keyexpr : String) (payload : Dict) : Attempt → Dict
  | .raised error => [("ok", .bool false), ("status", .str "query_failed"),
      ("keyexpr", .str keyexpr), ("error", .str error)]
  | .replied [] => [("ok", .bool false), ("status", .str "no_reply"),
      ("keyexpr", .str keyexpr), ("payload", .dict payload), ("replies", .list [])]
  | .replied (sample :: samples) =>
      let replies := (sample :: samples).map (parseReply loads keyexpr)
      let ok := replies.all fun reply => (get reply "ok").truthy
      let result := [("ok", .bool ok), ("keyexpr", .str keyexpr), ("payload", .dict payload),
        ("replies", .list (replies.map .dict))]
      if ok then result
      else result ++ [("status", .str
        (if replies.any fun reply => (get reply "status").isText "parse_failed" then
          "parse_failed"
        else "error_reply"))]

end Results

/-- `PAYLOAD_FAILURE_STATUSES`. -/
def payloadFailureStatuses : List String :=
  ["error", "not_implemented", "invalid_input", "query_failed", "no_reply", "error_reply",
    "parse_failed", "session_open_failed", "handler_failed", "serial_dependency_missing",
    "serial_device_missing", "serial_open_failed", "serial_timeout", "shell_error",
    "endpoint_verify_failed"]

section Retries

variable (repr : Value → String)

/-- `payload_status_is_failure`, with the text of the status. -/
def failureText : Value → Option String
  | .none => none
  | status =>
      if payloadFailureStatuses.contains (status.text repr) then some (status.text repr)
      else none

/-- What `result_failure_status` finds in one reply. -/
def replyFailure (reply : Dict) : Option String :=
  if ((reply.lookup "ok").getD (.bool true)).truthy = false then some "error_reply"
  else
    match get reply "payload" with
    | .dict payload => failureText repr (get payload "status")
    | _ => none

/-- `result_failure_status`. -/
def resultFailureStatus (result : Dict) : Option String :=
  if (get result "ok").truthy then
    (dicts (get result "replies").items).findSome? (replyFailure repr)
  else some ((failureText repr (get result "status")).getD "payload_not_ok")

def transportStatuses : List String := ["no_reply", "query_failed", "parse_failed"]

def hasStatus (result : Dict) (statuses : List String) : Bool :=
  statuses.any fun status => (get result "status").isText status

/-- What `collect_query_result_with_retry` makes of the result of one attempt: the answer, or
nothing if it tries again. -/
def settleAttempt (result : Dict) (last : Bool) : Option Dict :=
  let failure := resultFailureStatus repr result
  match failure with
  | some status =>
      if !hasStatus result transportStatuses then
        some (insert (insert (insert result "ok" (.bool false)) "status" (.str "error_reply"))
          "failure_status" (.str status))
      else if last || !hasStatus result ["no_reply", "query_failed"] then
        some (insert result "failure_status" (.str status))
      else none
  | none => some result

/-- What an attempt settles to: an error of the unit is marked, a failure of the transport is
named, and anything else stays as it is. -/
theorem settleAttempt_cases {result settled : Dict} {last : Bool}
    (ends : settleAttempt repr result last = some settled) :
    (∃ status, settled = insert (insert (insert result "ok" (.bool false)) "status"
      (.str "error_reply")) "failure_status" (.str status)) ∨
    (∃ status, hasStatus result transportStatuses = true ∧
      settled = insert result "failure_status" (.str status)) ∨
    settled = result := by
  cases failed : resultFailureStatus repr result with
  | none =>
      simp only [settleAttempt, failed, Option.some.injEq] at ends
      exact .inr (.inr ends.symm)
  | some status =>
      simp only [settleAttempt, failed] at ends
      split at ends
      · cases ends
        exact .inl ⟨status, rfl⟩
      · next transport =>
        split at ends
        · cases ends
          exact .inr (.inl ⟨status, by simpa using transport, rfl⟩)
        · cases ends

/-- `collect_query_result_with_retry`, with one element for each attempt it may make. -/
def collectQueryResultWithRetry (loads : List UInt8 → Option Value) (keyexpr : String)
    (payload : Dict) (first : Attempt) : List Attempt → Dict
  | [] =>
      let result := collectQueryResult loads keyexpr payload first
      (settleAttempt repr result true).getD result
  | next :: later =>
      match settleAttempt repr (collectQueryResult loads keyexpr payload first) false with
      | some result => result
      | none => collectQueryResultWithRetry loads keyexpr payload next later

/-- What holds of the result of every attempt and survives its settling holds of the whole. -/
theorem collectQueryResultWithRetry_of {loads : List UInt8 → Option Value} {keyexpr : String}
    {payload : Dict} {holds : Dict → Prop} (first : Attempt) (later : List Attempt)
    (each : ∀ attempt ∈ first :: later, holds (collectQueryResult loads keyexpr payload attempt))
    (settles : ∀ result settled last, holds result →
      settleAttempt repr result last = some settled → holds settled) :
    holds (collectQueryResultWithRetry repr loads keyexpr payload first later) := by
  induction later generalizing first with
  | nil =>
      rw [collectQueryResultWithRetry]
      have here := each first (by simp)
      cases ends : settleAttempt repr (collectQueryResult loads keyexpr payload first) true with
      | none => exact here
      | some settled => exact settles _ _ _ here ends
  | cons next rest ih =>
      rw [collectQueryResultWithRetry]
      split
      · next settled ends => exact settles _ _ _ (each first (by simp)) ends
      · exact ih next fun attempt member => each attempt (List.mem_cons_of_mem _ member)

end Retries

end NeuroLink.CliQuery
