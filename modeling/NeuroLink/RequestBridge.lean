import NeuroLink.RequestText
import NeuroLink.RequestMetadata
import NeuroLink.Errno

/-!
From a decoded CBOR request to the handlers: the text the unit builds for its
JSON readers, and the request that the lease handlers and the two starters of an
app read back. The CBOR reader itself is a library of its own; a request enters
here as the structures it was decoded into.
-/

namespace NeuroLink.RequestBridge

open CText RequestText

/-- `struct neuro_protocol_request_metadata`. -/
@[ext]
structure ProtocolMetadata where
  requestId : Buffer 32
  sourceCore : Buffer 32
  sourceAgent : Buffer 24
  targetNode : Buffer 32
  leaseId : Buffer 32
  idempotencyKey : Buffer 32
  timeoutMs : UInt32
  priority : Int32
  forwarded : Bool
  deriving DecidableEq

/-- The action fields of a request: `struct neuro_protocol_request_fields_cbor`
and, with the same members, `struct neuro_unit_request_fields`. -/
structure RequestFields where
  resource : Buffer 64
  argsJson : Buffer 256
  ttlMs : UInt32
  startArgs : Buffer 96
  reason : Buffer 64
  transport : Buffer 32
  artifactKey : Buffer 96
  size : UInt32
  chunkSize : UInt32
  hasCallbackEnabled : Bool
  callbackEnabled : Bool
  hasTriggerEvery : Bool
  triggerEvery : Int32
  hasEventName : Bool
  eventName : Buffer 32
  deriving DecidableEq

/-- `copy_cbor_metadata`, and the same copy in `neuro_request_metadata_parse`. -/
def copyMetadata (source : ProtocolMetadata) : RequestMetadata where
  requestId := copyBounded source.requestId.text
  sourceCore := copyBounded source.sourceCore.text
  sourceAgent := copyBounded source.sourceAgent.text
  targetNode := copyBounded source.targetNode.text
  leaseId := copyBounded source.leaseId.text
  idempotencyKey := copyBounded source.idempotencyKey.text
  timeoutMs := source.timeoutMs
  priority := source.priority.toInt
  forwarded := source.forwarded

/-- `copy_cbor_request_fields`. -/
def copyRequestFields (source : RequestFields) : RequestFields where
  resource := copyBounded source.resource.text
  argsJson := copyBounded source.argsJson.text
  ttlMs := source.ttlMs
  startArgs := copyBounded source.startArgs.text
  reason := copyBounded source.reason.text
  transport := copyBounded source.transport.text
  artifactKey := copyBounded source.artifactKey.text
  size := source.size
  chunkSize := source.chunkSize
  hasCallbackEnabled := source.hasCallbackEnabled
  callbackEnabled := source.callbackEnabled
  hasTriggerEvery := source.hasTriggerEvery
  triggerEvery := source.triggerEvery
  hasEventName := source.hasEventName
  eventName := copyBounded source.eventName.text

theorem copyRequestFields_same (fields : RequestFields) :
    copyRequestFields fields = fields := by
  simp [copyRequestFields, copyBounded_buffer]

/-! `cbor_request_to_internal_json`. -/

def NEURO_MAX_JSON_LEN : Nat := 1024

/-- `snprintk` into the reply buffer, with the length check after it. -/
def printInto (jsonLen : Nat) (json : Text) : Except Int Text :=
  if json.length < jsonLen then .ok json else .error (-Errno.enametoolong)

def printOptional (jsonLen : Nat) (wanted : Bool) (json member : Text) : Except Int Text :=
  if wanted then printInto jsonLen (json ++ comma :: member) else .ok json

def metadataMembers (metadata : RequestMetadata) : List Member :=
  [⟨lit "request_id", .text metadata.requestId.text⟩,
   ⟨lit "source_core", .text metadata.sourceCore.text⟩,
   ⟨lit "source_agent", .text metadata.sourceAgent.text⟩,
   ⟨lit "target_node", .text metadata.targetNode.text⟩,
   ⟨lit "timeout_ms", .number metadata.timeoutMs.toNat⟩,
   ⟨lit "priority", .number metadata.priority⟩,
   ⟨lit "idempotency_key", .text metadata.idempotencyKey.text⟩,
   ⟨lit "lease_id", .text metadata.leaseId.text⟩,
   ⟨lit "forwarded", .flag metadata.forwarded⟩]

def leaseMembers (fields : RequestFields) : List Member :=
  [⟨lit "resource", .text fields.resource.text⟩,
   ⟨lit "ttl_ms", .number fields.ttlMs.toNat⟩]

def startMembers (fields : RequestFields) : List Member :=
  [⟨lit "start_args", .text fields.startArgs.text⟩,
   ⟨lit "reason", .text fields.reason.text⟩,
   ⟨lit "transport", .text fields.transport.text⟩,
   ⟨lit "artifact_key", .text fields.artifactKey.text⟩,
   ⟨lit "size", .number fields.size.toNat⟩,
   ⟨lit "chunk_size", .number fields.chunkSize.toNat⟩]

def openBrace : Text := lit "\x7b"

def cborRequestToInternalJson (jsonLen : Nat) (metadata : RequestMetadata)
    (fields : RequestFields) : Except Int Text := do
  let json ← printInto jsonLen (openBrace ++
    joinMembers (metadataMembers metadata ++ leaseMembers fields ++ startMembers fields))
  let json ← printOptional jsonLen fields.hasCallbackEnabled json
    (Member.print ⟨lit "callback_enabled", .flag fields.callbackEnabled⟩)
  let json ← printOptional jsonLen (fields.argsJson.text ≠ []) json
    (quoted (lit "args") ++ colon :: fields.argsJson.text)
  let json ← printOptional jsonLen fields.hasTriggerEvery json
    (Member.print ⟨lit "trigger_every", .number fields.triggerEvery.toInt⟩)
  let json ← printOptional jsonLen fields.hasEventName json
    (Member.print ⟨lit "event_name", .text fields.eventName.text⟩)
  printInto jsonLen (json ++ lit "\x7d")

/-! Reading the request back. -/

/-- `neuro_protocol_decode_request_metadata_json`. -/
def decodeRequestMetadataJson (longMax : Nat) (json : Text) : ProtocolMetadata where
  requestId := (jsonExtractString json (lit "request_id")).getD .empty
  sourceCore := (jsonExtractString json (lit "source_core")).getD .empty
  sourceAgent := (jsonExtractString json (lit "source_agent")).getD .empty
  targetNode := (jsonExtractString json (lit "target_node")).getD .empty
  leaseId := (jsonExtractString json (lit "lease_id")).getD .empty
  idempotencyKey := (jsonExtractString json (lit "idempotency_key")).getD .empty
  timeoutMs := ((jsonExtractInt longMax json (lit "timeout_ms")).map Int32.toUInt32).getD 0
  priority := (jsonExtractInt longMax json (lit "priority")).getD (-1)
  forwarded := (jsonExtractBool json (lit "forwarded")).getD false

/-- `neuro_request_metadata_parse`. -/
def requestMetadataParse (longMax : Nat) (json : Text) : RequestMetadata :=
  copyMetadata (decodeRequestMetadataJson longMax json)

def NEURO_DEFAULT_LEASE_TTL_MS : Int32 := 30000

/-- What `handle_lease_acquire` hands to the lease manager. -/
structure AcquireRequest where
  metadata : RequestMetadata
  resource : Buffer 48
  ttlMs : Int32

/-- The head of `handle_lease_acquire`: the request as it reads it. -/
def leaseAcquireRequest (longMax : Nat) (json : Text) : AcquireRequest where
  metadata := requestMetadataParse longMax json
  resource := (neuroJsonExtractString json (lit "resource")).getD .empty
  ttlMs :=
    let ttlMs := neuroJsonExtractInt longMax json (lit "ttl_ms") NEURO_DEFAULT_LEASE_TTL_MS
    if ttlMs ≤ 0 then NEURO_DEFAULT_LEASE_TTL_MS else ttlMs

/-- The start arguments of `neuro_unit_handle_app_command` and of
`neuro_unit_update_service_handle_update_activate`. -/
def startArgs (json : Text) (requestFields : RequestFields) : Buffer 96 :=
  if requestFields.startArgs.text ≠ [] then copyBounded requestFields.startArgs.text
  else (neuroJsonExtractString json (lit "start_args")).getD .empty

end NeuroLink.RequestBridge
