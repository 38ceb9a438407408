import NeuroLink.ElementReader
import NeuroLink.JsonText
import NeuroLink.RequestBridge

/-!
The decoders of requests. Both go through the entries of one map: an entry whose key they know
is read into its field, and any other is skipped. The arguments of a command become a JSON text.
-/

namespace NeuroLink.RequestDecoder

open CText Cbor Errno RequestText RequestBridge

/-- `enum neuro_protocol_cbor_message_kind`. -/
inductive MessageKind where
  | queryRequest
  | leaseAcquireRequest
  | leaseReleaseRequest
  | appCommandRequest
  | callbackConfigRequest
  | updatePrepareRequest
  | updateVerifyRequest
  | updateActivateRequest
  | updateRollbackRequest
  | updateDeleteRequest
  | errorReply
  | leaseReply
  | queryDeviceReply
  | queryAppsReply
  | queryLeasesReply
  | updatePrepareReply
  | updateVerifyReply
  | updateActivateReply
  | updateRollbackReply
  | appCommandReply
  | callbackEvent
  | updateEvent
  | stateEvent
  | leaseEvent
  deriving DecidableEq

namespace MessageKind

def numbers : List (MessageKind × UInt32) :=
  [(queryRequest, 1), (leaseAcquireRequest, 2), (leaseReleaseRequest, 3), (appCommandRequest, 4),
    (callbackConfigRequest, 5), (updatePrepareRequest, 6), (updateVerifyRequest, 7),
    (updateActivateRequest, 8), (updateRollbackRequest, 9), (updateDeleteRequest, 10),
    (errorReply, 20), (leaseReply, 21), (queryDeviceReply, 22), (queryAppsReply, 23),
    (queryLeasesReply, 24), (updatePrepareReply, 25), (updateVerifyReply, 26),
    (updateActivateReply, 27), (updateRollbackReply, 28), (appCommandReply, 29),
    (callbackEvent, 40), (updateEvent, 41), (stateEvent, 42), (leaseEvent, 43)]

def number (kind : MessageKind) : UInt32 := (numbers.lookup kind).getD 0

/-- The kind of a number, if `neuro_protocol_cbor_message_kind_is_valid`. -/
def ofNumber (number : UInt32) : Option MessageKind :=
  (numbers.find? fun kind => kind.2 = number).map Prod.fst

end MessageKind

/-! The arguments as JSON. -/

section Json

variable {size : Nat}

/-- `json_fragment_is_safe`. -/
def jsonFragmentIsSafe (value : List UInt8) : Bool :=
  !value.isEmpty && value.all fun byte => decide (byte ≠ 34 ∧ byte ≠ 92 ∧ 32 ≤ byte)

theorem jsonFragmentIsSafe_iff {value : List UInt8} : jsonFragmentIsSafe value = true ↔
    value ≠ [] ∧ ∀ byte ∈ value, byte ≠ 34 ∧ byte ≠ 92 ∧ 32 ≤ byte := by
  simp only [jsonFragmentIsSafe, Bool.and_eq_true, List.all_eq_true, decide_eq_true_eq,
    Bool.not_eq_true', List.isEmpty_eq_false_iff]

/-- The room that is left of a buffer, as the `int` that it is compared as. -/
def roomLeft (buf : Buffer size) : Int := Int.bmod (size - buf.text.length) (2 ^ 32)

theorem append_lt {buf : Buffer size} {fragment : Text}
    (fits : (fragment.length : Int) < roomLeft buf) : (buf.text ++ fragment).length < size := by
  have filled := buf.fits
  have modest : roomLeft buf ≤ size - buf.text.length := by
    rw [roomLeft, Int.bmod_def]
    split <;> omega
  rw [List.length_append]
  omega

/-- `json_append`, and with another text `json_append_u32` and `json_append_i32`. -/
def jsonAppend (buf : Buffer size) (fragment : Text) : Option (Buffer size) :=
  if fits : (fragment.length : Int) < roomLeft buf then
    some ⟨buf.text ++ fragment, append_lt fits⟩
  else none

/-- `json_append_tstr`. -/
def jsonAppendTstr (buf : Buffer size) (value : List UInt8) : Option (Buffer size) :=
  if jsonFragmentIsSafe value then jsonAppend buf (quoted (ofBytes value)) else none

def jsonSeparate (buf : Buffer size) : Option (Buffer size) :=
  if buf.text.length > 1 then jsonAppend buf (lit ",") else some buf

end Json

section Decoders

variable (zcbor : ElementReader)

section Arguments

variable {size : Nat}

def decodeArgument (buf : Buffer size) (state : zcbor.State) :
    Option (Buffer size × zcbor.State) :=
  match (zcbor.position state).payload with
  | [] => none
  | first :: _ =>
    match first.toNat / 32 with
    | 3 => do
        let (text, state) ← zcbor.tstrDecode state
        let buf ← jsonAppendTstr buf text
        return (buf, state)
    | 0 => do
        let (number, state) ← zcbor.uint32Decode state
        let buf ← jsonAppend buf (decimalNat number.toNat)
        return (buf, state)
    | 1 => do
        let (number, state) ← zcbor.int32Decode state
        let buf ← jsonAppend buf (decimal number.toInt)
        return (buf, state)
    | 7 => do
        let (flag, state) ← zcbor.boolDecode state
        let buf ← jsonAppend buf (lit (if flag then "true" else "false"))
        return (buf, state)
    | _ => none

/-- One round of the loop in `cbor_decode_args_json`. -/
def decodeArgsEntry (buf : Buffer size) (state : zcbor.State) :
    Option (Buffer size × zcbor.State) := do
  let (key, state) ← zcbor.tstrDecode state
  if jsonFragmentIsSafe key then
    let buf ← jsonSeparate buf
    let buf ← jsonAppendTstr buf key
    let buf ← jsonAppend buf (lit ":")
    decodeArgument zcbor buf state
  else none

/-- `cbor_decode_args_json`. -/
def cborDecodeArgsJson (state : zcbor.State) : Option (Buffer size × zcbor.State) :=
  if long : 0 < size then do
    let state ← zcbor.mapStartDecode state
    let buf ← jsonAppend ⟨[], long⟩ (lit "\x7b")
    let (buf, state) ← zcbor.eachElement (decodeArgsEntry zcbor) buf state
    let state ← zcbor.mapEndDecode state
    let buf ← jsonAppend buf (lit "\x7d")
    return (buf, state)
  else none

/-- `cbor_decode_tstr_to_buf`. -/
def cborDecodeTstrToBuf (state : zcbor.State) : Option (Buffer (size + 1) × zcbor.State) := do
  let (value, state) ← zcbor.tstrDecode state
  if value.length ≥ size + 1 then none else return (copyBounded (ofBytes value), state)

end Arguments

/-- A case of the switch over the keys: how the value is read, and where it goes. -/
inductive Field (σ : Type) where
  | uint32 (set : UInt32 → σ → σ)
  | int32 (set : Int32 → σ → σ)
  | bool (set : Bool → σ → σ)
  | tstr (size : Nat) (set : Buffer (size + 1) → σ → σ)
  | args (size : Nat) (set : Buffer (size + 1) → σ → σ)

variable {σ α : Type}

def Field.decode (held : σ) (state : zcbor.State) : Field σ → Option (σ × zcbor.State)
  | .uint32 set => (zcbor.uint32Decode state).map fun (value, state) => (set value held, state)
  | .int32 set => (zcbor.int32Decode state).map fun (value, state) => (set value held, state)
  | .bool set => (zcbor.boolDecode state).map fun (value, state) => (set value held, state)
  | .tstr _ set => (cborDecodeTstrToBuf zcbor state).map fun (value, state) =>
      (set value held, state)
  | .args _ set => (cborDecodeArgsJson zcbor state).map fun (value, state) =>
      (set value held, state)

/-- One round of the loop of a decoder: a key that is not in the switch has its value skipped. -/
def decodeEntry (fields : List (UInt32 × Field σ)) (held : σ) (state : zcbor.State) :
    Option (σ × zcbor.State) := do
  let (key, state) ← zcbor.uint32Decode state
  match fields.lookup key with
  | some field => field.decode zcbor held state
  | none =>
      let ((), state) ← zcbor.anySkip state
      return (held, state)

/-- The variables of a decoder: what it has read of the header, and the structure it fills. -/
structure Decoded (α : Type) where
  schemaVersion : UInt32
  messageKind : UInt32
  record : α

def decodeMap (fields : List (UInt32 × Field (Decoded α))) (backups : Nat) (initial : α)
    (payload : List UInt8) : Option (Decoded α) := do
  let state ← zcbor.mapStartDecode (zcbor.start backups 1 payload)
  let (decoded, state) ← zcbor.eachElement (decodeEntry zcbor fields) ⟨0, 0, initial⟩ state
  let _ ← zcbor.mapEndDecode state
  return decoded

def NEURO_PROTOCOL_CBOR_SCHEMA_VERSION : UInt32 := 2

def requestKind (decoded : Decoded α) : Except Int MessageKind :=
  if decoded.schemaVersion ≠ NEURO_PROTOCOL_CBOR_SCHEMA_VERSION then .error (-enotsup)
  else
    match MessageKind.ofNumber decoded.messageKind with
    | none => .error (-enotsup)
    | some kind => if decoded.messageKind ≥ 20 then .error (-enotsup) else .ok kind

def decodeRequest (fields : List (UInt32 × Field (Decoded α))) (backups : Nat) (initial : α)
    (payload : List UInt8) : Except Int (α × MessageKind) :=
  if payload = [] then .error (-einval)
  else
    match decodeMap zcbor fields backups initial payload with
    | none => .error (-ebadmsg)
    | some decoded => (requestKind decoded).map fun kind => (decoded.record, kind)

def headerFields : List (UInt32 × Field (Decoded α)) :=
  [(0, .uint32 fun value held => { held with schemaVersion := value }),
    (1, .uint32 fun value held => { held with messageKind := value })]

def Field.ofRecord : Field α → Field (Decoded α)
  | .uint32 set => .uint32 fun value held => { held with record := set value held.record }
  | .int32 set => .int32 fun value held => { held with record := set value held.record }
  | .bool set => .bool fun value held => { held with record := set value held.record }
  | .tstr size set => .tstr size fun value held => { held with record := set value held.record }
  | .args size set => .args size fun value held => { held with record := set value held.record }

def recordFields (fields : List (UInt32 × Field α)) : List (UInt32 × Field (Decoded α)) :=
  headerFields ++ fields.map fun field => (field.1, field.2.ofRecord)

/-- The structure after `memset`, without a priority. -/
def emptyMetadata : ProtocolMetadata :=
  ⟨.empty, .empty, .empty, .empty, .empty, .empty, 0, -1, false⟩

/-- The cases of the switch in `neuro_protocol_decode_request_metadata_cbor`. -/
def metadataFields : List (UInt32 × Field ProtocolMetadata) :=
  [(3, .tstr 31 fun value held => { held with requestId := value }),
    (5, .tstr 31 fun value held => { held with sourceCore := value }),
    (6, .tstr 23 fun value held => { held with sourceAgent := value }),
    (7, .tstr 31 fun value held => { held with targetNode := value }),
    (8, .uint32 fun value held => { held with timeoutMs := value }),
    (9, .int32 fun value held => { held with priority := value }),
    (10, .tstr 31 fun value held => { held with idempotencyKey := value }),
    (11, .tstr 31 fun value held => { held with leaseId := value }),
    (12, .bool fun value held => { held with forwarded := value })]

/-- `neuro_protocol_decode_request_metadata_cbor`. -/
def decodeRequestMetadataCbor (payload : List UInt8) :
    Except Int (ProtocolMetadata × MessageKind) :=
  decodeRequest zcbor (recordFields metadataFields) 1 emptyMetadata payload

/-- The structure after `memset`. -/
def emptyRequestFields : RequestFields :=
  ⟨.empty, .empty, 0, .empty, .empty, .empty, .empty, 0, 0, false, false, false, 0, false, .empty⟩

/-- The cases of the switch in `neuro_protocol_decode_request_fields_cbor`. -/
def requestFields : List (UInt32 × Field RequestFields) :=
  [(30, .tstr 63 fun value held => { held with resource := value }),
    (52, .args 255 fun value held => { held with argsJson := value }),
    (32, .uint32 fun value held => { held with ttlMs := value }),
    (53, .tstr 95 fun value held => { held with startArgs := value }),
    (54, .tstr 63 fun value held => { held with reason := value }),
    (56, .tstr 31 fun value held => { held with transport := value }),
    (57, .tstr 95 fun value held => { held with artifactKey := value }),
    (58, .uint32 fun value held => { held with size := value }),
    (59, .uint32 fun value held => { held with chunkSize := value }),
    (80, .bool fun value held =>
      { held with callbackEnabled := value, hasCallbackEnabled := true }),
    (81, .int32 fun value held => { held with triggerEvery := value, hasTriggerEvery := true }),
    (82, .tstr 31 fun value held => { held with eventName := value, hasEventName := true })]

/-- `neuro_protocol_decode_request_fields_cbor`. -/
def decodeRequestFieldsCbor (payload : List UInt8) : Except Int RequestFields :=
  (decodeRequest zcbor (recordFields requestFields) 2 emptyRequestFields payload).map Prod.fst

end Decoders

/-! What the arguments are printed as. -/

def argumentKey : Item → Text
  | .text bytes => ofBytes bytes
  | .int _ | .bool _ | .list _ | .map _ => []

def argumentShown : Item → Text
  | .text bytes => quoted (ofBytes bytes)
  | .int number => decimal number
  | .bool flag => lit (if flag then "true" else "false")
  | .list _ | .map _ => []

def argumentText : Item × Item → Text :=
  JsonText.member (fun entry => argumentKey entry.1) fun entry => argumentShown entry.2

def argumentsText (entries : List (Item × Item)) : Text :=
  lit "\x7b" ++ JsonText.join argumentText entries ++ lit "\x7d"

def KeySuits : Item → Prop
  | .text bytes => jsonFragmentIsSafe bytes = true
  | .int _ | .bool _ | .list _ | .map _ => False

/-- A safe text, a number of 32 bits or a truth value. -/
def ArgumentSuits : Item → Prop
  | .text bytes => jsonFragmentIsSafe bytes = true
  | .int number => -(2 ^ 31) ≤ number ∧ number < 2 ^ 32
  | .bool _ => True
  | .list _ | .map _ => False

section Arguments

variable {zcbor : ElementReader} {size : Nat} {buf : Buffer size} {state : zcbor.State}
  {rest : List UInt8} {count : Nat}

theorem roomLeft_short (short : size < 2 ^ 31) : roomLeft buf = size - buf.text.length := by
  have filled := buf.fits
  exact Int.bmod_eq_of_le (by omega) (by omega)

theorem jsonAppend_fits (short : size < 2 ^ 31) {fragment : Text}
    (fits : (buf.text ++ fragment).length < size) :
    jsonAppend buf fragment = some ⟨buf.text ++ fragment, fits⟩ := by
  rw [jsonAppend, dif_pos]
  rw [roomLeft_short short]
  rw [List.length_append] at fits
  omega

theorem jsonAppendTstr_fits (short : size < 2 ^ 31) {value : List UInt8}
    (safe : jsonFragmentIsSafe value = true)
    (fits : (buf.text ++ quoted (ofBytes value)).length < size) :
    jsonAppendTstr buf value = some ⟨buf.text ++ quoted (ofBytes value), fits⟩ := by
  rw [jsonAppendTstr, if_pos safe, jsonAppend_fits short fits]

theorem uint32_number {number : Int} (low : 0 ≤ number) (high : number < 2 ^ 32) :
    ((UInt32.ofNat number.toNat).toNat : Int) = number := by
  rw [UInt32.toNat_ofNat']
  omega

theorem int32_number {number : Int} (low : -(2 ^ 31) ≤ number) (high : number < 2 ^ 31) :
    (Int32.ofInt number).toInt = number :=
  Int32.toInt_ofInt_of_le low high

theorem decodeArgument_run (small : size < 2 ^ 31) {value : Item} (suits : ArgumentSuits value)
    (fits : Fits value)
    (ahead : (zcbor.position state).payload = encode value ++ rest)
    (expected : (zcbor.position state).elemCount = count + 1)
    (room : (buf.text ++ argumentShown value).length < size) :
    ∃ after,
      decodeArgument zcbor buf state = some (⟨buf.text ++ argumentShown value, room⟩, after) ∧
      zcbor.position after =
        { zcbor.position state with payload := rest, elemCount := count } := by
  obtain ⟨first, others, shape, major⟩ := encode_first value rest
  have payload := ahead.trans shape
  cases value with
  | text bytes =>
    obtain ⟨after, taken, stands⟩ := zcbor.takesText bytes fits state rest count ahead expected
    refine ⟨after, ?_, stands⟩
    simp only [decodeArgument, payload, major, majorOf, taken, Option.bind_eq_bind,
      Option.bind_some]
    rw [jsonAppendTstr_fits small suits room]
    rfl
  | bool flag =>
    obtain ⟨after, taken, stands⟩ := zcbor.takesBool flag state rest count ahead expected
    refine ⟨after, ?_, stands⟩
    have appended : jsonAppend buf (lit (if flag then "true" else "false")) = some ⟨_, room⟩ :=
      jsonAppend_fits small room
    simp only [decodeArgument, payload, major, majorOf, taken, Option.bind_eq_bind,
      Option.bind_some]
    rw [appended]
    rfl
  | int number =>
    obtain ⟨low, high⟩ := suits
    have appended : jsonAppend buf (decimal number) = some ⟨_, room⟩ := jsonAppend_fits small room
    rw [majorOf] at major
    -- the first byte tells negative numbers from others, which are read as unsigned
    by_cases negative : number < 0
    · rw [if_pos negative] at major
      have whole := int32_number low (by omega)
      have reads := zcbor.takesInt32 (Int32.ofInt number) state rest count
      rw [whole] at reads
      obtain ⟨after, taken, stands⟩ := reads ahead expected
      refine ⟨after, ?_, stands⟩
      simp only [decodeArgument, payload, major, taken, Option.bind_eq_bind, Option.bind_some,
        whole]
      rw [appended]
      rfl
    · rw [if_neg negative] at major
      have whole := uint32_number (show 0 ≤ number by omega) high
      have reads := zcbor.takesUint32 (UInt32.ofNat number.toNat) state rest count
      rw [whole] at reads
      obtain ⟨after, taken, stands⟩ := reads ahead expected
      refine ⟨after, ?_, stands⟩
      have printed : decimalNat (UInt32.ofNat number.toNat).toNat = decimal number := by
        conv_rhs => rw [← whole]
        rfl
      simp only [decodeArgument, payload, major, taken, Option.bind_eq_bind, Option.bind_some,
        printed]
      rw [appended]
      rfl
  | list _ => exact suits.elim
  | map _ => exact suits.elim

/-- The text with one argument more. -/
def grown (buf : Buffer size) (entry : Item × Item) : Text :=
  (if buf.text.length > 1 then buf.text ++ lit "," else buf.text) ++ argumentText entry

theorem argumentText_eq {bytes : List UInt8} (value : Item) :
    argumentText (.text bytes, value) =
      quoted (ofBytes bytes) ++ (lit ":" ++ argumentShown value) :=
  rfl

theorem decodeArgsEntry_run (small : size < 2 ^ 31) {entry : Item × Item} (key : KeySuits entry.1)
    (value : ArgumentSuits entry.2) (fits : Fits entry.1 ∧ Fits entry.2)
    (ahead : (zcbor.position state).payload = encode entry.1 ++ (encode entry.2 ++ rest))
    (expected : (zcbor.position state).elemCount = count + 2)
    (room : (grown buf entry).length < size) :
    ∃ after, decodeArgsEntry zcbor buf state = some (⟨grown buf entry, room⟩, after) ∧
      zcbor.position after =
        { zcbor.position state with payload := rest, elemCount := count } := by
  obtain ⟨name, value'⟩ := entry
  cases name with
  | int _ => exact key.elim
  | bool _ => exact key.elim
  | list _ => exact key.elim
  | map _ => exact key.elim
  | text bytes =>
    obtain ⟨middle, takenKey, standsKey⟩ :=
      zcbor.takesText bytes fits.1 state _ (count + 1) ahead expected
    have whole : grown buf (.text bytes, value') =
        (if buf.text.length > 1 then buf.text ++ lit "," else buf.text) ++
          (quoted (ofBytes bytes) ++ (lit ":" ++ argumentShown value')) := rfl
    -- a comma is put in front of every argument but the first
    obtain ⟨front, separated, same⟩ : ∃ front : Buffer size, jsonSeparate buf = some front ∧
        front.text = if buf.text.length > 1 then buf.text ++ lit "," else buf.text := by
      rw [jsonSeparate]
      split
      · next more =>
        rw [whole, if_pos more, List.length_append] at room
        exact ⟨_, jsonAppend_fits small (Nat.lt_of_le_of_lt (Nat.le_add_right _ _) room), rfl⟩
      · exact ⟨buf, rfl, rfl⟩
    rw [← same] at whole
    -- each piece fits because all of them do
    have spelled : (front.text ++ quoted (ofBytes bytes)).length < size := by
      rw [whole, List.length_append, List.length_append] at room
      rw [List.length_append]
      omega
    have marked : ((front.text ++ quoted (ofBytes bytes)) ++ lit ":").length < size := by
      rw [whole, List.length_append, List.length_append, List.length_append] at room
      rw [List.length_append, List.length_append]
      omega
    have assembled : grown buf (.text bytes, value') =
        ((front.text ++ quoted (ofBytes bytes)) ++ lit ":") ++ argumentShown value' := by
      rw [whole, List.append_assoc, List.append_assoc]
    have all : (((front.text ++ quoted (ofBytes bytes)) ++ lit ":") ++
        argumentShown value').length < size := by
      rw [← assembled]
      exact room
    -- the value is printed behind the name
    obtain ⟨after, takenValue, standsValue⟩ := @decodeArgument_run zcbor size ⟨_, marked⟩ middle
      rest count small value' value fits.2 (by rw [standsKey]) (by rw [standsKey]) all
    refine ⟨after, ?_, by rw [standsValue, standsKey]⟩
    simp only [decodeArgsEntry, takenKey, Option.bind_eq_bind, Option.bind_some]
    rw [if_pos (show jsonFragmentIsSafe bytes = true from key), separated, Option.bind_some,
      jsonAppendTstr_fits small key spelled, Option.bind_some, jsonAppend_fits small marked,
      Option.bind_some, takenValue]
    exact congrArg (fun buffer => some (buffer, after)) (Buffer.text_injective assembled.symm)

structure Printed (entries later : List (Item × Item)) (buf : Buffer size) : Prop where
  text : ∃ before, before ++ later = entries ∧
    buf.text = lit "\x7b" ++ JsonText.join argumentText before
  suits : ∀ entry ∈ later, KeySuits entry.1 ∧ ArgumentSuits entry.2
  fits : ∀ entry ∈ later, Fits entry.1 ∧ Fits entry.2

theorem argumentText_ne_nil (entry : Item × Item) : argumentText entry ≠ [] :=
  List.cons_ne_nil _ _

theorem grown_printed {before : List (Item × Item)} {entry : Item × Item}
    (text : buf.text = lit "\x7b" ++ JsonText.join argumentText before) :
    grown buf entry = lit "\x7b" ++ JsonText.join argumentText (before ++ [entry]) := by
  rw [JsonText.join_snoc, grown, text]
  by_cases first : before = []
  · rw [first]
    rfl
  · have more := List.length_pos_of_ne_nil
      (JsonText.join_ne_nil (fun entry _ => argumentText_ne_nil entry) first)
    have brace : (lit "\x7b").length = 1 := rfl
    rw [if_pos (by rw [List.length_append]; omega), if_neg first]
    simp only [List.append_assoc]
    rfl

theorem decodeArgsEntry_keeps (small : size < 2 ^ 31) {entries later : List (Item × Item)}
    {entry : Item × Item} (room : (argumentsText entries).length < size)
    (good : Printed entries (entry :: later) buf)
    (ahead : (zcbor.position state).payload = encode entry.1 ++ (encode entry.2 ++ rest))
    (expected : (zcbor.position state).elemCount = count + 2) :
    ∃ next after, decodeArgsEntry zcbor buf state = some (next, after) ∧
      Printed entries later next ∧
      zcbor.position after =
        { zcbor.position state with payload := rest, elemCount := count } := by
  obtain ⟨⟨before, whole, text⟩, suits, fits⟩ := good
  obtain ⟨suitsHere, suitsLater⟩ := List.forall_mem_cons.mp suits
  obtain ⟨fitsHere, fitsLater⟩ := List.forall_mem_cons.mp fits
  have printed := @grown_printed size buf before entry text
  have whole' : (before ++ [entry]) ++ later = entries := by
    rw [List.append_assoc, List.singleton_append, whole]
  have short : (grown buf entry).length < size := by
    have part := @JsonText.join_length_append _ argumentText (before ++ [entry]) later
    rw [whole'] at part
    rw [argumentsText, List.length_append, List.length_append] at room
    rw [printed, List.length_append]
    omega
  obtain ⟨after, taken, stands⟩ := decodeArgsEntry_run small suitsHere.1 suitsHere.2 fitsHere
    ahead expected short
  exact ⟨_, after, taken, ⟨⟨before ++ [entry], whole', printed⟩, suitsLater, fitsLater⟩, stands⟩

/-- The arguments are printed, when the text of all of them fits. -/
theorem cborDecodeArgsJson_run (small : size < 2 ^ 31) {entries : List (Item × Item)}
    {backups : Nat}
    (suits : ∀ entry ∈ entries, KeySuits entry.1 ∧ ArgumentSuits entry.2)
    (fits : Fits (.map entries)) (few : entries.length < 65536)
    (ahead : (zcbor.position state).payload = encode (.map entries) ++ rest)
    (expected : (zcbor.position state).elemCount = count + 1)
    (free : (zcbor.position state).backups = backups + 1)
    (room : (argumentsText entries).length < size) :
    ∃ after, cborDecodeArgsJson zcbor state = some (⟨argumentsText entries, room⟩, after) ∧
      zcbor.position after =
        { zcbor.position state with payload := rest, elemCount := count } := by
  rw [encode, List.append_assoc] at ahead
  obtain ⟨inside, entered, standsInside⟩ :=
    zcbor.enters state _ entries.length count backups few ahead expected free
  -- one brace is printed, then the entries, then the other brace
  have long : 0 < size := Nat.zero_lt_of_lt room
  have brace : ((⟨[], long⟩ : Buffer size).text ++ lit "\x7b").length < size := by
    rw [argumentsText, List.length_append, List.length_append] at room
    exact Nat.lt_of_le_of_lt (Nat.le_trans (Nat.le_add_right _ _) (Nat.le_add_right _ _)) room
  have opened : Printed entries entries (⟨_, brace⟩ : Buffer size) :=
    ⟨⟨[], rfl, rfl⟩, suits, fitEntries_mem fits.2⟩
  obtain ⟨last, after, ran, printed, standsAfter⟩ := @ElementReader.eachElement_run zcbor
    (Buffer size) (decodeArgsEntry zcbor) (Printed entries) backups _ entries
    (fun entry later held state rest good stands => by
      obtain ⟨next, after, taken, keeps, stood⟩ := @decodeArgsEntry_keeps zcbor size held state
        rest (2 * later.length) small entries later entry room good (by rw [stands])
        (by rw [stands])
      exact ⟨next, after, taken, keeps, by rw [stood, stands]⟩) _ inside _ opened standsInside
  -- the map is left with the position behind it
  obtain ⟨outside, left, standsOutside⟩ := zcbor.leaves after count
    (zcbor.position state).outer (by rw [standsAfter]) (by rw [standsAfter])
  obtain ⟨before, whole, text⟩ := printed.text
  rw [List.append_nil] at whole
  have assembled : last.text ++ lit "\x7d" = argumentsText entries := by
    rw [text, whole, argumentsText]
  have all : (last.text ++ lit "\x7d").length < size := by
    rw [assembled]
    exact room
  refine ⟨outside, ?_, by simp only [standsOutside, standsAfter, free]⟩
  have closed : (⟨last.text ++ lit "\x7d", all⟩ : Buffer size) = ⟨argumentsText entries, room⟩ :=
    Buffer.text_injective assembled
  have opening := jsonAppend_fits small brace
  have closing := jsonAppend_fits small all
  rw [closed] at closing
  rw [cborDecodeArgsJson, dif_pos long, entered, Option.bind_eq_bind, Option.bind_some, opening,
    Option.bind_eq_bind, Option.bind_some, ran, Option.bind_eq_bind, Option.bind_some]
  dsimp only
  rw [left, Option.bind_some, closing, Option.bind_some, Option.pure_def]

end Arguments

/-! The text of the arguments is read again. -/

section Parsed

theorem bytes_ofBytes {value : List UInt8} (live : 0 ∉ value) : bytes (ofBytes value) = value := by
  induction value with
  | nil => rfl
  | cons byte rest ih =>
    rw [List.mem_cons, not_or] at live
    obtain ⟨first, later⟩ := live
    rw [ofBytes, dif_pos (Ne.symm first)]
    exact congrArg (byte :: ·) (ih later)

theorem safe_live {value : List UInt8} (safe : jsonFragmentIsSafe value = true) : 0 ∉ value :=
  fun member => absurd ((jsonFragmentIsSafe_iff.mp safe).2 0 member).2.2 (by decide)

theorem ofBytes_plain {value : List UInt8} (safe : jsonFragmentIsSafe value = true) :
    ∀ letter ∈ ofBytes value, JsonText.Plain letter := by
  intro letter member
  have inside : letter.val ∈ bytes (ofBytes value) := List.mem_map_of_mem member
  rw [bytes_ofBytes (safe_live safe)] at inside
  exact (jsonFragmentIsSafe_iff.mp safe).2 letter.val inside

def argumentValue : Item → JsonText.Value
  | .text bytes => .string (ofBytes bytes)
  | .int number => .number number
  | .bool flag => .bool flag
  | .list _ | .map _ => .null

theorem readValue_shown {value : Item} (suits : ArgumentSuits value) (fuel : Nat)
    {stop : Letter} (stops : JsonText.Stop stop) (rest : Text) :
    JsonText.readValue (fuel + 1) (argumentShown value ++ stop :: rest) =
      some (argumentValue value, stop :: rest) := by
  cases value with
  | text bytes => exact JsonText.readValue_string (ofBytes_plain suits) fuel (stop :: rest)
  | int number => exact JsonText.readValue_number number stops fuel rest
  | bool flag => exact JsonText.readValue_bool flag fuel (stop :: rest)
  | list _ => exact suits.elim
  | map _ => exact suits.elim

theorem argumentKey_plain {key : Item} (suits : KeySuits key) :
    ∀ letter ∈ argumentKey key, JsonText.Plain letter := by
  cases key with
  | text bytes => exact ofBytes_plain suits
  | int _ => exact suits.elim
  | bool _ => exact suits.elim
  | list _ => exact suits.elim
  | map _ => exact suits.elim

/-- Arguments that suit are parsed from their text, one after the other. -/
theorem argumentsText_parsed {entries : List (Item × Item)}
    (suits : ∀ entry ∈ entries, KeySuits entry.1 ∧ ArgumentSuits entry.2) :
    JsonText.parse (argumentsText entries) = some (.object (entries.map fun entry =>
      (argumentKey entry.1, argumentValue entry.2))) :=
  JsonText.parse_object (fun entry member => argumentKey_plain (suits entry member).1)
    fun entry member fuel _ stops rest => readValue_shown (suits entry member).2 fuel stops rest

end Parsed

/-! What the loop leaves. -/

section Fields

variable {σ : Type}

/-- The value is of the type of the field and fits it, with so many backups left. -/
def Field.Suits (backups : Nat) : Field σ → Item → Prop
  | .uint32 _, .int number => 0 ≤ number ∧ number < 2 ^ 32
  | .int32 _, .int number => -(2 ^ 31) ≤ number ∧ number < 2 ^ 31
  | .bool _, .bool _ => True
  | .tstr size _, .text bytes => bytes.length ≤ size
  | .args size _, .map entries => 0 < backups ∧ entries.length < 65536 ∧ size + 1 < 2 ^ 31 ∧
      (∀ entry ∈ entries, KeySuits entry.1 ∧ ArgumentSuits entry.2) ∧
      (argumentsText entries).length ≤ size
  | _, _ => False

def Field.put : Field σ → Item → σ → σ
  | .uint32 set, .int number => set (UInt32.ofNat number.toNat)
  | .int32 set, .int number => set (Int32.ofInt number)
  | .bool set, .bool flag => set flag
  | .tstr _ set, .text bytes => set (copyBounded (ofBytes bytes))
  | .args _ set, .map entries => set (copyBounded (argumentsText entries))
  | _, _ => id

variable {zcbor : ElementReader} {state : zcbor.State} {rest : List UInt8} {count backups : Nat}

theorem Field.decode_run {field : Field σ} {value : Item} (held : σ)
    (suits : field.Suits backups value) (fits : Fits value)
    (ahead : (zcbor.position state).payload = encode value ++ rest)
    (expected : (zcbor.position state).elemCount = count + 1)
    (free : (zcbor.position state).backups = backups) :
    ∃ after, field.decode zcbor held state = some (field.put value held, after) ∧
      zcbor.position after =
        { zcbor.position state with payload := rest, elemCount := count } := by
  cases field with
  | uint32 set =>
    cases value with
    | int number =>
      have reads := zcbor.takesUint32 (UInt32.ofNat number.toNat) state rest count
      rw [uint32_number suits.1 suits.2] at reads
      obtain ⟨after, taken, stands⟩ := reads ahead expected
      exact ⟨after, by rw [Field.decode, taken]; rfl, stands⟩
    | _ => exact suits.elim
  | int32 set =>
    cases value with
    | int number =>
      have reads := zcbor.takesInt32 (Int32.ofInt number) state rest count
      rw [int32_number suits.1 suits.2] at reads
      obtain ⟨after, taken, stands⟩ := reads ahead expected
      exact ⟨after, by rw [Field.decode, taken]; rfl, stands⟩
    | _ => exact suits.elim
  | bool set =>
    cases value with
    | bool flag =>
      obtain ⟨after, taken, stands⟩ := zcbor.takesBool flag state rest count ahead expected
      exact ⟨after, by rw [Field.decode, taken]; rfl, stands⟩
    | _ => exact suits.elim
  | tstr size set =>
    cases value with
    | text bytes =>
      obtain ⟨after, taken, stands⟩ := zcbor.takesText bytes fits state rest count ahead expected
      refine ⟨after, ?_, stands⟩
      have short : ¬ bytes.length ≥ size + 1 := Nat.not_le.mpr (Nat.lt_succ_of_le suits)
      rw [Field.decode, cborDecodeTstrToBuf, taken, Option.bind_eq_bind, Option.bind_some]
      simp only [if_neg short]
      rfl
    | _ => exact suits.elim
  | args size set =>
    cases value with
    | map entries =>
      obtain ⟨some, few, small, each, short⟩ := suits
      obtain ⟨after, taken, stands⟩ := cborDecodeArgsJson_run small each fits few ahead expected
        (free.trans (Nat.sub_add_cancel some).symm) (Nat.lt_succ_of_le short)
      refine ⟨after, ?_, stands⟩
      rw [Field.decode, taken]
      exact congrArg (fun buffer => Option.some (set buffer held, after))
        (copyBounded_buffer (⟨argumentsText entries, Nat.lt_succ_of_le short⟩)).symm
    | _ => exact suits.elim

/-- The record is a function of the entries read so far, the last of them first. -/
structure Tracks (backups : Nat) (fields : List (UInt32 × Field σ))
    (recordOf : List (UInt32 × Item) → σ) : Prop where
  known : ∀ key field item seen, fields.lookup key = some field → field.Suits backups item →
    field.put item (recordOf seen) = recordOf ((key, item) :: seen)
  unknown : ∀ key item seen, fields.lookup key = none →
    recordOf ((key, item) :: seen) = recordOf seen

def EntrySuits (backups : Nat) (fields : List (UInt32 × Field σ)) (entry : UInt32 × Item) :
    Prop :=
  Fits entry.2 ∧ ∀ field, fields.lookup entry.1 = some field → field.Suits backups entry.2

/-- An entry as an item of the map. -/
def written (entry : UInt32 × Item) : Item × Item := (.int entry.1.toNat, entry.2)

variable {fields : List (UInt32 × Field σ)} {recordOf : List (UInt32 × Item) → σ}

theorem decodeEntry_run (tracks : Tracks backups fields recordOf) {entry : UInt32 × Item}
    (seen : List (UInt32 × Item)) (suits : EntrySuits backups fields entry)
    (ahead : (zcbor.position state).payload =
      encode (written entry).1 ++ (encode (written entry).2 ++ rest))
    (expected : (zcbor.position state).elemCount = count + 2)
    (free : (zcbor.position state).backups = backups) :
    ∃ after, decodeEntry zcbor fields (recordOf seen) state =
        some (recordOf (entry :: seen), after) ∧
      zcbor.position after =
        { zcbor.position state with payload := rest, elemCount := count } := by
  obtain ⟨middle, takenKey, standsKey⟩ :=
    zcbor.takesUint32 entry.1 state _ (count + 1) ahead expected
  cases found : fields.lookup entry.1 with
  | none =>
    obtain ⟨after, skipped, stands⟩ := zcbor.skips entry.2 suits.1 middle rest count
      (by rw [standsKey]; rfl) (by rw [standsKey])
    refine ⟨after, ?_, by rw [stands, standsKey]⟩
    rw [tracks.unknown entry.1 entry.2 seen found]
    simp only [decodeEntry, takenKey, found, skipped, Option.bind_eq_bind, Option.bind_some]
    rfl
  | some field =>
    have suited := suits.2 field found
    obtain ⟨after, taken, stands⟩ := @Field.decode_run σ zcbor middle rest count backups field
      entry.2 (recordOf seen) suited suits.1 (by rw [standsKey]; rfl) (by rw [standsKey])
      (by rw [standsKey]; exact free)
    refine ⟨after, ?_, by rw [stands, standsKey]⟩
    rw [← tracks.known entry.1 field entry.2 seen found suited]
    simp only [decodeEntry, takenKey, found, taken, Option.bind_eq_bind, Option.bind_some]

structure Between (backups : Nat) (fields : List (UInt32 × Field σ))
    (recordOf : List (UInt32 × Item) → σ) (entries : List (UInt32 × Item))
    (later : List (Item × Item)) (held : σ) : Prop where
  split : ∃ seen pending, seen.reverse ++ pending = entries ∧ pending.map written = later ∧
    held = recordOf seen
  suits : ∀ entry ∈ entries, EntrySuits backups fields entry

theorem decodeEntry_keeps (tracks : Tracks backups fields recordOf)
    {entries : List (UInt32 × Item)} {entry : Item × Item} {later : List (Item × Item)} {held : σ}
    (good : Between backups fields recordOf entries (entry :: later) held)
    (ahead : (zcbor.position state).payload = encode entry.1 ++ (encode entry.2 ++ rest))
    (expected : (zcbor.position state).elemCount = count + 2)
    (free : (zcbor.position state).backups = backups) :
    ∃ next after, decodeEntry zcbor fields held state = some (next, after) ∧
      Between backups fields recordOf entries later next ∧
      zcbor.position after =
        { zcbor.position state with payload := rest, elemCount := count } := by
  obtain ⟨⟨seen, pending, whole, same, rfl⟩, suits⟩ := good
  cases pending with
  | nil => cases same
  | cons first others =>
    rw [List.map_cons, List.cons.injEq] at same
    obtain ⟨rfl, rfl⟩ := same
    have member : first ∈ entries := by
      rw [← whole]
      exact List.mem_append_right _ List.mem_cons_self
    obtain ⟨after, taken, stands⟩ := decodeEntry_run tracks seen (suits first member) ahead
      expected free
    refine ⟨_, after, taken, ⟨⟨first :: seen, others, ?_, rfl, rfl⟩, suits⟩, stands⟩
    rw [List.reverse_cons, List.append_assoc, List.singleton_append, whole]

end Fields

section Maps

variable {zcbor : ElementReader} {α : Type} {backups : Nat}
  {fields : List (UInt32 × Field (Decoded α))} {recordOf : List (UInt32 × Item) → Decoded α}
  {initial : α} {entries : List (UInt32 × Item)}

def packet (entries : List (UInt32 × Item)) : List UInt8 := encode (.map (entries.map written))

/-- A map whose entries suit their fields is read to its end. -/
theorem decodeMap_run (tracks : Tracks backups fields recordOf)
    (empty : recordOf [] = ⟨0, 0, initial⟩) (few : entries.length < 65536)
    (suits : ∀ entry ∈ entries, EntrySuits backups fields entry) :
    decodeMap zcbor fields (backups + 1) initial (packet entries) =
      some (recordOf entries.reverse) := by
  have starts := zcbor.starts (backups + 1) 1 (packet entries)
  obtain ⟨inside, entered, standsInside⟩ := zcbor.enters
    (zcbor.start (backups + 1) 1 (packet entries)) (encodeEntries (entries.map written) ++ [])
    (entries.map written).length 0 backups (by rw [List.length_map]; exact few)
    (by rw [starts, List.append_nil]; rfl) (by rw [starts]) (by rw [starts])
  have opened : Between backups fields recordOf entries (entries.map written) ⟨0, 0, initial⟩ :=
    ⟨⟨[], entries, rfl, rfl, empty.symm⟩, suits⟩
  obtain ⟨last, after, ran, between, standsAfter⟩ := @ElementReader.eachElement_run zcbor
    (Decoded α) (decodeEntry zcbor fields) (Between backups fields recordOf entries) backups _
    (entries.map written)
    (fun entry later held state rest good stands => by
      obtain ⟨next, after, taken, keeps, stood⟩ := @decodeEntry_keeps _ zcbor state rest
        (2 * later.length) backups fields recordOf tracks entries entry later held good
        (by rw [stands]) (by rw [stands]) (by rw [stands])
      exact ⟨next, after, taken, keeps, by rw [stood, stands]⟩) _ inside _ opened standsInside
  obtain ⟨outside, left, _⟩ := zcbor.leaves after 0 _ (by rw [standsAfter]) (by rw [standsAfter])
  obtain ⟨seen, pending, whole, none, rfl⟩ := between.split
  have all : recordOf entries.reverse = recordOf seen := by
    rw [List.map_eq_nil_iff.mp none, List.append_nil] at whole
    rw [← whole, List.reverse_reverse]
  rw [all]
  simp only [decodeMap, entered, Option.bind_eq_bind, Option.bind_some]
  rw [ran]
  simp only [Option.bind_some, left]
  rfl

end Maps

/-! The members of a structure, by the values that stand under their keys. -/

def textOf {size : Nat} : Option Item → Buffer (size + 1)
  | some (.text bytes) => copyBounded (ofBytes bytes)
  | _ => .empty

def argumentsOf {size : Nat} : Option Item → Buffer (size + 1)
  | some (.map entries) => copyBounded (argumentsText entries)
  | _ => .empty

def uint32Of : Option Item → UInt32
  | some (.int number) => UInt32.ofNat number.toNat
  | _ => 0

def int32Of (missing : Int32) : Option Item → Int32
  | some (.int number) => Int32.ofInt number
  | _ => missing

def boolOf : Option Item → Bool
  | some (.bool flag) => flag
  | _ => false

def decodedOf {α : Type} (recordOf : List (UInt32 × Item) → α) (seen : List (UInt32 × Item)) :
    Decoded α :=
  ⟨uint32Of (seen.lookup 0), uint32Of (seen.lookup 1), recordOf seen⟩

def metadataOf (seen : List (UInt32 × Item)) : ProtocolMetadata where
  requestId := textOf (seen.lookup 3)
  sourceCore := textOf (seen.lookup 5)
  sourceAgent := textOf (seen.lookup 6)
  targetNode := textOf (seen.lookup 7)
  leaseId := textOf (seen.lookup 11)
  idempotencyKey := textOf (seen.lookup 10)
  timeoutMs := uint32Of (seen.lookup 8)
  priority := int32Of (-1) (seen.lookup 9)
  forwarded := boolOf (seen.lookup 12)

def requestFieldsOf (seen : List (UInt32 × Item)) : RequestFields where
  resource := textOf (seen.lookup 30)
  argsJson := argumentsOf (seen.lookup 52)
  ttlMs := uint32Of (seen.lookup 32)
  startArgs := textOf (seen.lookup 53)
  reason := textOf (seen.lookup 54)
  transport := textOf (seen.lookup 56)
  artifactKey := textOf (seen.lookup 57)
  size := uint32Of (seen.lookup 58)
  chunkSize := uint32Of (seen.lookup 59)
  hasCallbackEnabled := (seen.lookup 80).isSome
  callbackEnabled := boolOf (seen.lookup 80)
  hasTriggerEvery := (seen.lookup 81).isSome
  triggerEvery := int32Of 0 (seen.lookup 81)
  hasEventName := (seen.lookup 82).isSome
  eventName := textOf (seen.lookup 82)

section Tables

variable {σ : Type} {fields : List (UInt32 × Field σ)} {key : UInt32} {field : Field σ}

theorem mem_of_lookup (found : fields.lookup key = some field) : (key, field) ∈ fields := by
  obtain ⟨before, after, split, _⟩ := List.lookup_eq_some_iff.mp found
  rw [split]
  exact List.mem_append_right before List.mem_cons_self

theorem lookup_unknown (missing : fields.lookup key = none) (item : Item)
    (seen : List (UInt32 × Item)) {other : UInt32} (listed : other ∈ fields.map Prod.fst) :
    ((key, item) :: seen).lookup other = seen.lookup other := by
  obtain ⟨field, member, rfl⟩ := List.mem_map.mp listed
  have apart := List.lookup_eq_none_iff.mp missing field member
  rw [List.lookup_cons]
  have differs : (field.1 == key) = false := by
    rw [beq_eq_false_iff_ne]
    rintro rfl
    simp at apart
  rw [differs]

theorem metadata_tracks (backups : Nat) :
    Tracks backups (recordFields metadataFields) (decodedOf metadataOf) where
  known key field item seen found suits := by
    have member := mem_of_lookup found
    simp only [recordFields, headerFields, metadataFields, List.map_cons, List.map_nil,
      List.cons_append, List.nil_append, List.mem_cons, List.not_mem_nil, or_false,
      Prod.mk.injEq] at member
    rcases member with ⟨rfl, rfl⟩ | ⟨rfl, rfl⟩ | ⟨rfl, rfl⟩ | ⟨rfl, rfl⟩ | ⟨rfl, rfl⟩ | ⟨rfl, rfl⟩ |
      ⟨rfl, rfl⟩ | ⟨rfl, rfl⟩ | ⟨rfl, rfl⟩ | ⟨rfl, rfl⟩ | ⟨rfl, rfl⟩
    all_goals
      cases item with
      | int _ => first | exact suits.elim | rfl
      | text _ => first | exact suits.elim | rfl
      | bool _ => first | exact suits.elim | rfl
      | list _ => exact suits.elim
      | map _ => exact suits.elim
  unknown key item seen missing := by
    have same {other : UInt32} := @lookup_unknown _ _ key missing item seen other
    rw [decodedOf, metadataOf, same (by decide), same (by decide), same (by decide),
      same (by decide), same (by decide), same (by decide), same (by decide), same (by decide),
      same (by decide), same (by decide), same (by decide)]
    rfl

theorem requestFields_tracks (backups : Nat) :
    Tracks backups (recordFields requestFields) (decodedOf requestFieldsOf) where
  known key field item seen found suits := by
    have member := mem_of_lookup found
    simp only [recordFields, headerFields, requestFields, List.map_cons, List.map_nil,
      List.cons_append, List.nil_append, List.mem_cons, List.not_mem_nil, or_false,
      Prod.mk.injEq] at member
    rcases member with ⟨rfl, rfl⟩ | ⟨rfl, rfl⟩ | ⟨rfl, rfl⟩ | ⟨rfl, rfl⟩ | ⟨rfl, rfl⟩ | ⟨rfl, rfl⟩ |
      ⟨rfl, rfl⟩ | ⟨rfl, rfl⟩ | ⟨rfl, rfl⟩ | ⟨rfl, rfl⟩ | ⟨rfl, rfl⟩ | ⟨rfl, rfl⟩ | ⟨rfl, rfl⟩ |
      ⟨rfl, rfl⟩
    all_goals
      cases item with
      | int _ => first | exact suits.elim | rfl
      | text _ => first | exact suits.elim | rfl
      | bool _ => first | exact suits.elim | rfl
      | list _ => exact suits.elim
      | map _ => first | exact suits.elim | rfl
  unknown key item seen missing := by
    have same {other : UInt32} := @lookup_unknown _ _ key missing item seen other
    rw [decodedOf, requestFieldsOf, same (by decide), same (by decide), same (by decide),
      same (by decide), same (by decide), same (by decide), same (by decide), same (by decide),
      same (by decide), same (by decide), same (by decide), same (by decide), same (by decide),
      same (by decide)]
    rfl

end Tables

section Requests

variable {zcbor : ElementReader} {entries : List (UInt32 × Item)}

theorem packet_ne_nil : packet entries ≠ [] :=
  List.ne_nil_of_length_pos (encode_positive _)

theorem decodeRequestMetadataCbor_run (few : entries.length < 65536)
    (suits : ∀ entry ∈ entries, EntrySuits 0 (recordFields metadataFields) entry) :
    decodeRequestMetadataCbor zcbor (packet entries) =
      (requestKind (decodedOf metadataOf entries.reverse)).map fun kind =>
        (metadataOf entries.reverse, kind) := by
  have read := @decodeMap_run zcbor _ 0 _ _ emptyMetadata entries (metadata_tracks 0) rfl few
    suits
  rw [Nat.zero_add] at read
  rw [decodeRequestMetadataCbor, decodeRequest, if_neg packet_ne_nil, read]
  rfl

theorem decodeRequestFieldsCbor_run (few : entries.length < 65536)
    (suits : ∀ entry ∈ entries, EntrySuits 1 (recordFields requestFields) entry) :
    decodeRequestFieldsCbor zcbor (packet entries) =
      (requestKind (decodedOf requestFieldsOf entries.reverse)).map fun _ =>
        requestFieldsOf entries.reverse := by
  have read := @decodeMap_run zcbor _ 1 _ _ emptyRequestFields entries (requestFields_tracks 1)
    rfl few suits
  rw [decodeRequestFieldsCbor, decodeRequest, if_neg packet_ne_nil, read]
  show ((requestKind (decodedOf requestFieldsOf entries.reverse)).map fun kind =>
    (requestFieldsOf entries.reverse, kind)).map Prod.fst = _
  cases requestKind (decodedOf requestFieldsOf entries.reverse) <;> rfl

end Requests

end NeuroLink.RequestDecoder
