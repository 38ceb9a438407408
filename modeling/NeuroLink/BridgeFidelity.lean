import Mathlib.Algebra.Group.Nat.Defs
import NeuroLink.RequestBridge
import NeuroLink.RequestPolicy

/-!
When the handlers that read a request back from its JSON text act on the request
that was decoded and validated, and when they do not. A quote in a string ends
it early and lets what follows pass for members; a string spelled like a key
hides the member that has the key; a number above the range of `int` or `long`
is cut.
-/

namespace NeuroLink.BridgeFidelity

open CText RequestText RequestBridge

/-! The text of an accepted request. -/

theorem printInto_ok {jsonLen : Nat} {text json : Text}
    (fits : printInto jsonLen text = .ok json) : json = text := by
  unfold printInto at fits
  split at fits
  · cases fits
    rfl
  · cases fits

theorem printOptional_ok {jsonLen : Nat} {wanted : Bool} {text member json : Text}
    (fits : printOptional jsonLen wanted text member = .ok json) :
    ∃ rest, json = text ++ rest := by
  unfold printOptional at fits
  split at fits
  · exact ⟨comma :: member, printInto_ok fits⟩
  · cases fits
    exact ⟨[], (List.append_nil _).symm⟩

theorem bind_ok {α β : Type} {first : Except Int α} {next : α → Except Int β} {result : β}
    (success : (first >>= next) = .ok result) :
    ∃ value, first = .ok value ∧ next value = .ok result := by
  cases first with
  | error code => cases success
  | ok value => exact ⟨value, rfl, success⟩

def writtenBefore (metadata : RequestMetadata) (fields : RequestFields) : Text :=
  openBrace ++ printMembers (metadataMembers metadata ++ leaseMembers fields)

theorem bridge_text {jsonLen : Nat} {metadata : RequestMetadata} {fields : RequestFields}
    {json : Text} (bridged : cborRequestToInternalJson jsonLen metadata fields = .ok json) :
    ∃ more, json = writtenBefore metadata fields ++
      (quoted (lit "start_args") ++ colon :: (quoted fields.startArgs.text ++ comma :: more)) := by
  obtain ⟨head, printed, bridged⟩ := bind_ok bridged
  obtain ⟨enabled, first, bridged⟩ := bind_ok bridged
  obtain ⟨args, second, bridged⟩ := bind_ok bridged
  obtain ⟨every, third, bridged⟩ := bind_ok bridged
  obtain ⟨named, fourth, bridged⟩ := bind_ok bridged
  obtain ⟨enabledRest, rfl⟩ := printOptional_ok first
  obtain ⟨argsRest, rfl⟩ := printOptional_ok second
  obtain ⟨everyRest, rfl⟩ := printOptional_ok third
  obtain ⟨namedRest, rfl⟩ := printOptional_ok fourth
  obtain rfl := printInto_ok printed
  obtain rfl := printInto_ok bridged
  rw [startMembers, joinMembers_append]
  simp only [joinMembers, Member.print, Written.print, writtenBefore, List.append_assoc,
    List.cons_append]
  exact ⟨_, rfl⟩

theorem valueAfter_opened (key rest : Text) :
    valueAfter (quoted key) (openBrace ++ rest) = valueAfter (quoted key) rest := by
  rw [valueAfter, valueAfter, quoted, strstr_unmarked key openBrace rest (by decide)]

/-- A text that starts with clean members shows what `shownAs` names. -/
theorem shows_members {key : Text} {members : List Member} {value : Written} (tail : Text)
    (plain : Plain key) (keys : ∀ member ∈ members, Plain member.key)
    (quoteFree : ∀ member ∈ members, member.value.QuoteFree)
    (shown : shownAs key members = some value) :
    Shows (openBrace ++ (printMembers members ++ tail)) key value := by
  obtain ⟨rest, found⟩ := valueAfter_members tail plain
    (fun member inside => ⟨keys member inside, quoteFree member inside⟩) shown
  obtain ⟨member, inside, same⟩ := shownAs_mem shown
  exact ⟨same ▸ quoteFree member inside, rest, by rw [valueAfter_opened, found]⟩

theorem jsonExtractString_unquoted {size : Nat} (json key : Text) :
    quote ∉ ((jsonExtractString json key : Option (Buffer (size + 1))).getD .empty).text := by
  cases read : (jsonExtractString json key : Option (Buffer (size + 1))) with
  | none => simp
  | some buffer =>
      obtain ⟨position, -, read⟩ := Option.bind_eq_some_iff.mp read
      exact stringAt_unquoted read

theorem neuroJsonExtractString_unquoted {size : Nat} (json key : Text) :
    quote ∉ ((neuroJsonExtractString json key : Option (Buffer (size + 1))).getD .empty).text := by
  cases read : (neuroJsonExtractString json key : Option (Buffer (size + 1))) with
  | none => simp
  | some buffer =>
      obtain ⟨position, -, read⟩ := Option.bind_eq_some_iff.mp read
      exact stringAt_unquoted read

/-! Numbers that survive `strtol` and the casts after it. -/

def timeoutRead (longMax : Nat) (value : Written) : UInt32 :=
  ((value.toInt longMax).map Int32.toUInt32).getD 0

def ttlRead (longMax : Nat) (value : Written) : Int32 :=
  let ttlMs := (value.toInt longMax).getD NEURO_DEFAULT_LEASE_TTL_MS
  if ttlMs ≤ 0 then NEURO_DEFAULT_LEASE_TTL_MS else ttlMs

theorem timeoutRead_own (longMax : Nat) (timeout : UInt32) :
    timeoutRead longMax (.number timeout.toNat) = timeout ↔ timeout.toNat ≤ longMax := by
  have cut : clampLong longMax timeout.toNat = (min longMax timeout.toNat : Nat) := by
    simp only [clampLong]
    omega
  have read : timeoutRead longMax (.number timeout.toNat) =
      UInt32.ofNat (min longMax timeout.toNat) := by
    rw [timeoutRead, Written.toInt, cut, Int32.ofInt_eq_ofNat]
    rfl
  have small := timeout.toNat_lt
  rw [read, ← UInt32.toNat_inj, UInt32.toNat_ofNat']
  omega

theorem priorityRead_own (longMax : Nat) (wide : 2 ^ 31 - 1 ≤ longMax) (priority : Int32) :
    ((Written.number priority.toInt).toInt longMax).getD (-1) = priority := by
  have low := Int32.le_toInt priority
  have high := Int32.toInt_lt priority
  have same : clampLong longMax priority.toInt = priority.toInt := by
    simp only [clampLong]
    omega
  simp [Written.toInt, same]

theorem ttlRead_own (longMax : Nat) (wide : 2 ^ 31 - 1 ≤ longMax) (ttl : UInt32)
    (inRange : ttl.toNat < 2 ^ 31) :
    (ttlRead longMax (.number ttl.toNat)).toInt =
      if ttl = 0 then NEURO_DEFAULT_LEASE_TTL_MS.toInt else ttl.toNat := by
  have whole : clampLong longMax ttl.toNat = ttl.toNat := by
    simp only [clampLong]
    omega
  have value : (Int32.ofInt (ttl.toNat : Int)).toInt = ttl.toNat :=
    Int32.toInt_ofInt_of_le (by omega) (by omega)
  have zero : Int32.ofInt (ttl.toNat : Int) ≤ 0 ↔ ttl = 0 := by
    rw [Int32.le_iff_toInt_le, value, ← UInt32.toNat_inj]
    simp
  simp only [ttlRead, Written.toInt, whole, Option.getD_some, zero]
  split
  · rfl
  · exact value

/-! The metadata. -/

section Metadata

variable (longMax : Nat) (source : ProtocolMetadata)

def textRead {size : Nat} (value : Written) : Buffer (size + 1) := value.toBuffer.getD .empty

/-- No string ends early, no number is cut, and no string spelled like a key
shows the reader another value than the decoded one. -/
structure MetadataCarried : Prop where
  quoteFree : ∀ member ∈ metadataMembers (copyMetadata source), member.value.QuoteFree
  timeoutInRange : source.timeoutMs.toNat ≤ longMax
  sourceCore : Unshadowed (lit "source_core")
    (fun shadow => textRead shadow = source.sourceCore) (metadataMembers (copyMetadata source))
  sourceAgent : Unshadowed (lit "source_agent")
    (fun shadow => textRead shadow = source.sourceAgent) (metadataMembers (copyMetadata source))
  targetNode : Unshadowed (lit "target_node")
    (fun shadow => textRead shadow = source.targetNode) (metadataMembers (copyMetadata source))
  timeoutMs : Unshadowed (lit "timeout_ms")
    (fun shadow => timeoutRead longMax shadow = source.timeoutMs)
    (metadataMembers (copyMetadata source))
  priority : Unshadowed (lit "priority")
    (fun shadow => (shadow.toInt longMax).getD (-1) = source.priority)
    (metadataMembers (copyMetadata source))
  idempotencyKey : Unshadowed (lit "idempotency_key")
    (fun shadow => textRead shadow = source.idempotencyKey)
    (metadataMembers (copyMetadata source))
  leaseId : Unshadowed (lit "lease_id")
    (fun shadow => textRead shadow = source.leaseId) (metadataMembers (copyMetadata source))
  forwarded : Unshadowed (lit "forwarded")
    (fun shadow => shadow.toBool.getD false = source.forwarded)
    (metadataMembers (copyMetadata source))

theorem metadata_keys (metadata : RequestMetadata) :
    (metadataMembers metadata).map (·.key) =
      [lit "request_id", lit "source_core", lit "source_agent", lit "target_node",
        lit "timeout_ms", lit "priority", lit "idempotency_key", lit "lease_id",
        lit "forwarded"] := rfl

theorem metadata_keys_distinct (metadata : RequestMetadata) :
    ((metadataMembers metadata).map (·.key)).Nodup := by
  rw [metadata_keys]
  decide

theorem metadata_keys_plain (metadata : RequestMetadata) :
    ∀ member ∈ metadataMembers metadata, Plain member.key := by
  have plain : ∀ key ∈ (metadataMembers metadata).map (·.key), Plain key := by
    rw [metadata_keys]
    decide
  intro member inside
  exact plain _ (List.mem_map_of_mem inside)

theorem metadataMembers_copy :
    metadataMembers (copyMetadata source) =
      [⟨lit "request_id", .text source.requestId.text⟩,
       ⟨lit "source_core", .text source.sourceCore.text⟩,
       ⟨lit "source_agent", .text source.sourceAgent.text⟩,
       ⟨lit "target_node", .text source.targetNode.text⟩,
       ⟨lit "timeout_ms", .number source.timeoutMs.toNat⟩,
       ⟨lit "priority", .number source.priority.toInt⟩,
       ⟨lit "idempotency_key", .text source.idempotencyKey.text⟩,
       ⟨lit "lease_id", .text source.leaseId.text⟩,
       ⟨lit "forwarded", .flag source.forwarded⟩] := by
  simp only [metadataMembers, copyMetadata, copyBounded_buffer]

/-- A timeout that was cut could only be hidden by a string before it, and those
are followed by strings or by the timeout itself. -/
theorem timeout_shown {value : Written}
    (shown : shownAs (lit "timeout_ms") (metadataMembers (copyMetadata source)) = some value)
    (read : timeoutRead longMax value = source.timeoutMs) :
    source.timeoutMs.toNat ≤ longMax := by
  have split := @shownAs_before _ ((metadataMembers (copyMetadata source)).take 4) _
    ⟨lit "timeout_ms", .number source.timeoutMs.toNat⟩ value rfl shown
  rcases split with rfl | ⟨member, inside, rfl⟩
  · exact (timeoutRead_own longMax source.timeoutMs).mp read
  · have text : ∃ content, member.value = .text content := by
      simp only [metadataMembers, List.take_succ_cons, List.take_zero, List.mem_cons,
        List.not_mem_nil, or_false] at inside
      rcases inside with rfl | rfl | rfl | rfl <;> exact ⟨_, rfl⟩
    obtain ⟨content, same⟩ := text
    rw [same] at read
    rw [← read]
    exact Nat.zero_le _

theorem metadata_quoteFree_iff :
    (∀ member ∈ metadataMembers (copyMetadata source), member.value.QuoteFree) ↔
      quote ∉ source.requestId.text ∧ quote ∉ source.sourceCore.text ∧
      quote ∉ source.sourceAgent.text ∧ quote ∉ source.targetNode.text ∧
      quote ∉ source.idempotencyKey.text ∧ quote ∉ source.leaseId.text := by
  simp only [metadataMembers, List.forall_mem_cons, List.not_mem_nil, false_imp_iff,
    implies_true, Written.QuoteFree, copyMetadata, copyBounded_buffer, and_true, true_and]

/-- What was read back holds no quotes, so neither does what it equals. -/
theorem decode_quoteFree {json : Text}
    (same : decodeRequestMetadataJson longMax json = source) :
    ∀ member ∈ metadataMembers (copyMetadata source), member.value.QuoteFree := by
  rw [metadata_quoteFree_iff, ← same]
  exact ⟨jsonExtractString_unquoted _ _, jsonExtractString_unquoted _ _,
    jsonExtractString_unquoted _ _, jsonExtractString_unquoted _ _,
    jsonExtractString_unquoted _ _, jsonExtractString_unquoted _ _⟩

variable {longMax source} {json : Text}

theorem decode_string {size : Nat} (key : Text) (own : Buffer (size + 1))
    (shows : ∀ key value, Plain key →
      shownAs key (metadataMembers (copyMetadata source)) = some value → Shows json key value)
    (short : key.length < 30) (plain : Plain key)
    (present : ⟨key, .text own.text⟩ ∈ metadataMembers (copyMetadata source)) :
    (jsonExtractString json key).getD .empty = own ↔
      Unshadowed key (fun shadow => textRead shadow = own)
        (metadataMembers (copyMetadata source)) :=
  carried_iff key _ textRead _ (metadata_keys_distinct _) present
    (by simp [textRead, Written.toBuffer, copyBounded_buffer])
    fun value shown => by
      rw [jsonExtractString_shows short (shows key value plain shown), textRead]

theorem decode_timeout
    (shows : ∀ key value, Plain key →
      shownAs key (metadataMembers (copyMetadata source)) = some value → Shows json key value) :
    ((jsonExtractInt longMax json (lit "timeout_ms")).map Int32.toUInt32).getD 0 =
        source.timeoutMs ↔
      source.timeoutMs.toNat ≤ longMax ∧
        Unshadowed (lit "timeout_ms") (fun shadow => timeoutRead longMax shadow = source.timeoutMs)
          (metadataMembers (copyMetadata source)) := by
  have present : ⟨lit "timeout_ms", .number source.timeoutMs.toNat⟩ ∈
      metadataMembers (copyMetadata source) := by simp [metadataMembers_copy]
  have reads (value : Written)
      (shown : shownAs (lit "timeout_ms") (metadataMembers (copyMetadata source)) = some value) :
      ((jsonExtractInt longMax json (lit "timeout_ms")).map Int32.toUInt32).getD 0 =
        timeoutRead longMax value := by
    rw [jsonExtractInt_shows longMax (by decide) (shows _ value (by decide) shown), timeoutRead]
  have whole (inRange : source.timeoutMs.toNat ≤ longMax) :=
    carried_iff _ _ (timeoutRead longMax) _ (metadata_keys_distinct (copyMetadata source)) present
      ((timeoutRead_own longMax source.timeoutMs).mpr inRange) reads
  constructor
  · intro same
    obtain ⟨value, shown⟩ := shownAs_own ⟨_, present, rfl⟩
    have inRange := timeout_shown longMax source shown ((reads value shown).symm.trans same)
    exact ⟨inRange, (whole inRange).mp same⟩
  · rintro ⟨inRange, clear⟩
    exact (whole inRange).mpr clear

theorem decode_fields (wide : 2 ^ 31 - 1 ≤ longMax)
    (shows : ∀ key value, Plain key →
      shownAs key (metadataMembers (copyMetadata source)) = some value → Shows json key value)
    (quoteFree : ∀ member ∈ metadataMembers (copyMetadata source), member.value.QuoteFree) :
    decodeRequestMetadataJson longMax json = source ↔ MetadataCarried longMax source := by
  have distinct := metadata_keys_distinct (copyMetadata source)
  have listed := metadataMembers_copy source
  have requestId := decode_string (lit "request_id") source.requestId shows
    (by decide) (by decide) (by simp [listed])
  have sourceCore := decode_string (lit "source_core") source.sourceCore shows
    (by decide) (by decide) (by simp [listed])
  have sourceAgent := decode_string (lit "source_agent") source.sourceAgent shows
    (by decide) (by decide) (by simp [listed])
  have targetNode := decode_string (lit "target_node") source.targetNode shows
    (by decide) (by decide) (by simp [listed])
  have idempotencyKey := decode_string (lit "idempotency_key") source.idempotencyKey shows
    (by decide) (by decide) (by simp [listed])
  have leaseId := decode_string (lit "lease_id") source.leaseId shows
    (by decide) (by decide) (by simp [listed])
  have priority := carried_iff (lit "priority") (.number source.priority.toInt)
    (fun value => (value.toInt longMax).getD (-1))
    ((jsonExtractInt longMax json (lit "priority")).getD (-1)) distinct (by simp [listed])
    (priorityRead_own longMax wide source.priority) fun value shown => by
      rw [jsonExtractInt_shows longMax (by decide) (shows _ value (by decide) shown)]
  have forwarded := carried_iff (lit "forwarded") (.flag source.forwarded)
    (fun value => value.toBool.getD false)
    ((jsonExtractBool json (lit "forwarded")).getD false) distinct (by simp [listed]) rfl
    fun value shown => by
      rw [jsonExtractBool_shows (by decide) (shows _ value (by decide) shown)]
  -- No string stands before the first member.
  have first : Unshadowed (lit "request_id") (fun shadow => textRead shadow = source.requestId)
      (metadataMembers (copyMetadata source)) := by simp [listed, Unshadowed]
  rw [ProtocolMetadata.ext_iff]
  simp only [decodeRequestMetadataJson, requestId, sourceCore, sourceAgent, targetNode,
    idempotencyKey, leaseId, decode_timeout shows, priority, first, true_and]
  constructor
  · rintro ⟨core, agent, target, lease, idempotency, ⟨inRange, timeout⟩, rank, relay⟩
    exact ⟨quoteFree, inRange, core, agent, target, timeout, rank, idempotency, lease,
      forwarded.mp relay⟩
  · rintro ⟨-, inRange, core, agent, target, timeout, rank, idempotency, lease, relay⟩
    exact ⟨core, agent, target, lease, idempotency, ⟨inRange, timeout⟩, rank,
      forwarded.mpr relay⟩

theorem decode_iff (wide : 2 ^ 31 - 1 ≤ longMax) (tail : Text) :
    decodeRequestMetadataJson longMax
        (openBrace ++ (printMembers (metadataMembers (copyMetadata source)) ++ tail)) = source ↔
      MetadataCarried longMax source := by
  by_cases quoteFree : ∀ member ∈ metadataMembers (copyMetadata source), member.value.QuoteFree
  · exact decode_fields wide (fun key value plain =>
      shows_members tail plain (metadata_keys_plain _) quoteFree) quoteFree
  · constructor
    · intro same
      exact absurd (decode_quoteFree longMax source same) quoteFree
    · intro carried
      exact absurd carried.quoteFree quoteFree

theorem copyMetadata_injective {left right : ProtocolMetadata}
    (same : copyMetadata left = copyMetadata right) : left = right := by
  simp only [copyMetadata, copyBounded_buffer, RequestMetadata.mk.injEq,
    Int32.toInt_inj] at same
  exact ProtocolMetadata.ext_iff.mpr (by simp_all)

/-- The request metadata is read back as decoded exactly when it is carried. -/
theorem parse_iff (wide : 2 ^ 31 - 1 ≤ longMax) (tail : Text) :
    requestMetadataParse longMax
        (openBrace ++ (printMembers (metadataMembers (copyMetadata source)) ++ tail)) =
        copyMetadata source ↔
      MetadataCarried longMax source := by
  rw [← decode_iff wide]
  exact ⟨copyMetadata_injective, congrArg copyMetadata⟩

end Metadata

/-! The resource and the lifetime of a lease. -/

section Lease

variable (longMax : Nat) (source : ProtocolMetadata) (fields : RequestFields)

def leaseRequestMembers : List Member :=
  metadataMembers (copyMetadata source) ++ leaseMembers fields

def requestedTtl : Int :=
  if fields.ttlMs = 0 then NEURO_DEFAULT_LEASE_TTL_MS.toInt else fields.ttlMs.toNat

structure LeaseCarried : Prop where
  quoteFree : quote ∉ fields.resource.text
  resourceFits : fields.resource.text.length < 48
  ttlInRange : fields.ttlMs.toNat < 2 ^ 31
  resource : Unshadowed (lit "resource")
    (fun shadow => (textRead shadow : Buffer 48).text = fields.resource.text)
    (leaseRequestMembers source fields)
  ttlMs : Unshadowed (lit "ttl_ms")
    (fun shadow => (ttlRead longMax shadow).toInt = requestedTtl fields)
    (leaseRequestMembers source fields)

theorem leaseRequest_keys :
    (leaseRequestMembers source fields).map (·.key) =
      [lit "request_id", lit "source_core", lit "source_agent", lit "target_node",
        lit "timeout_ms", lit "priority", lit "idempotency_key", lit "lease_id",
        lit "forwarded", lit "resource", lit "ttl_ms"] := rfl

theorem leaseRequest_keys_distinct :
    ((leaseRequestMembers source fields).map (·.key)).Nodup := by
  rw [leaseRequest_keys]
  decide

theorem leaseRequest_keys_plain :
    ∀ member ∈ leaseRequestMembers source fields, Plain member.key := by
  have plain : ∀ key ∈ (leaseRequestMembers source fields).map (·.key), Plain key := by
    rw [leaseRequest_keys]
    decide
  intro member inside
  exact plain _ (List.mem_map_of_mem inside)

variable {longMax source fields} {json : Text}

theorem lease_fields_iff (wide : 2 ^ 31 - 1 ≤ longMax)
    (shows : ∀ key value, Plain key →
      shownAs key (leaseRequestMembers source fields) = some value → Shows json key value)
    (quoteFree : quote ∉ fields.resource.text) :
    ((leaseAcquireRequest longMax json).resource.text = fields.resource.text ∧
      (leaseAcquireRequest longMax json).ttlMs.toInt = requestedTtl fields) ↔
      LeaseCarried longMax source fields := by
  have distinct := leaseRequest_keys_distinct source fields
  have resource (fits : fields.resource.text.length < 48) :=
    carried_iff (lit "resource") (.text fields.resource.text)
      (fun value => (textRead value : Buffer 48).text)
      (leaseAcquireRequest longMax json).resource.text distinct
      (by simp [leaseRequestMembers, leaseMembers])
      (copyBounded_exact _ (Nat.le_of_lt_succ fits)) fun value shown => by
        rw [leaseAcquireRequest,
          neuroJsonExtractString_shows (by decide) (shows _ value (by decide) shown), textRead]
  have ttlMs (inRange : fields.ttlMs.toNat < 2 ^ 31) :=
    carried_iff (lit "ttl_ms") (.number fields.ttlMs.toNat)
      (fun value => (ttlRead longMax value).toInt)
      (leaseAcquireRequest longMax json).ttlMs.toInt distinct
      (by simp [leaseRequestMembers, leaseMembers])
      (ttlRead_own longMax wide fields.ttlMs inRange) fun value shown => by
        rw [leaseAcquireRequest,
          neuroJsonExtractInt_shows longMax _ (by decide) (shows _ value (by decide) shown),
          ttlRead]
  constructor
  · rintro ⟨sameResource, sameTtl⟩
    have fits : fields.resource.text.length < 48 :=
      sameResource ▸ (leaseAcquireRequest longMax json).resource.fits
    have inRange : fields.ttlMs.toNat < 2 ^ 31 := by
      have below := Int32.toInt_lt (leaseAcquireRequest longMax json).ttlMs
      rw [sameTtl, requestedTtl] at below
      split at below
      · next absent => simp [absent]
      · omega
    exact ⟨quoteFree, fits, inRange, (resource fits).mp sameResource, (ttlMs inRange).mp sameTtl⟩
  · intro carried
    exact ⟨(resource carried.resourceFits).mpr carried.resource,
      (ttlMs carried.ttlInRange).mpr carried.ttlMs⟩

theorem acquire_iff (wide : 2 ^ 31 - 1 ≤ longMax) (tail : Text)
    (written : json = openBrace ++ (printMembers (leaseRequestMembers source fields) ++ tail)) :
    ((leaseAcquireRequest longMax json).metadata = copyMetadata source ∧
      (leaseAcquireRequest longMax json).resource.text = fields.resource.text ∧
      (leaseAcquireRequest longMax json).ttlMs.toInt = requestedTtl fields) ↔
      MetadataCarried longMax source ∧ LeaseCarried longMax source fields := by
  have metadata : (leaseAcquireRequest longMax json).metadata = copyMetadata source ↔
      MetadataCarried longMax source := by
    rw [← parse_iff wide (printMembers (leaseMembers fields) ++ tail), written]
    simp [leaseAcquireRequest, leaseRequestMembers, printMembers]
  rw [metadata]
  refine and_congr_right fun carried => ?_
  by_cases quoteFree : quote ∉ fields.resource.text
  · refine lease_fields_iff wide (fun key value plain shown => ?_) quoteFree
    rw [written]
    refine shows_members tail plain (leaseRequest_keys_plain source fields) ?_ shown
    simp only [leaseRequestMembers, List.forall_mem_append]
    exact ⟨carried.quoteFree, by simp [leaseMembers, Written.QuoteFree, quoteFree]⟩
  · constructor
    · rintro ⟨same, -⟩
      exact absurd (same ▸ neuroJsonExtractString_unquoted json _) quoteFree
    · intro lease
      exact absurd lease.quoteFree quoteFree

end Lease

/-! The start arguments. -/

section Start

variable {source : ProtocolMetadata} {fields : RequestFields} {json : Text}

/-- Nothing written before the start arguments can be taken for them: behind
the first quoted `start_args` there, no value opens as a string with content. -/
def StartArgsHidden (written : Text) : Prop :=
  ∀ letter rest, valueAfter (quoted (lit "start_args")) written = some (quote :: letter :: rest) →
    letter = quote

theorem skipJsonWs_stops (before : Text) (stop : Letter) (dark : isJsonWs stop = false) :
    ∃ shown, ∀ rest, skipJsonWs (before ++ stop :: rest) = shown ++ stop :: rest := by
  induction before with
  | nil => exact ⟨[], fun rest => by simp [skipJsonWs, dark]⟩
  | cons first tail ih =>
      by_cases blank : isJsonWs first
      · obtain ⟨shown, same⟩ := ih
        exact ⟨shown, fun rest => by simpa [skipJsonWs, blank] using same rest⟩
      · exact ⟨first :: tail, fun rest => by simp [skipJsonWs, blank]⟩

theorem stringAt_empty_iff {size : Nat} {letter : Letter} {rest : Text}
    (closed : quote ∈ letter :: rest) :
    ((stringAt (quote :: letter :: rest) : Option (Buffer (size + 2))).getD .empty).text = [] ↔
      letter = quote := by
  by_cases ends : letter = quote
  · have nothing : between (quote :: rest) (quote :: rest) = [] := between_append [] _
    simp [stringAt, strchr, ends, nothing]
  · have later : quote ∈ rest := by simpa [Ne.symm ends] using closed
    obtain ⟨stop, search⟩ : ∃ stop, strchr quote rest = some stop := by
      cases search : strchr quote rest with
      | none => exact absurd later (strchr_none search)
      | some stop => exact ⟨stop, rfl⟩
    obtain ⟨before, others, split, -, -⟩ := strchr_suffix search
    have content : between (letter :: rest) stop = letter :: before := by
      rw [split, ← List.cons_append, between_append]
    simp [stringAt, strchr, ends, search, content]

theorem stringAt_bare {size : Nat} {first : Letter} {rest : Text} (bare : first ≠ quote) :
    (stringAt (first :: rest) : Option (Buffer (size + 1))) = none := by
  simp [stringAt, bare]

theorem ends_with {last : Letter} {before tail : Text} (nonempty : tail ≠ [])
    (ending : tail <:+ before ++ [last]) : ∃ front, tail = front ++ [last] := by
  rcases List.suffix_concat_iff.mp ending with empty | ⟨front, same, -⟩
  · exact absurd empty nonempty
  · exact ⟨front, same⟩

theorem hidden_value (front own : Text) (closed : quote ∈ own) :
    ((stringAt (skipJsonWs (front ++ [comma] ++ own)) : Option (Buffer 96)).getD .empty).text =
        [] ↔
      ∀ letter rest, skipJsonWs (front ++ [comma]) = quote :: letter :: rest →
        letter = quote := by
  obtain ⟨shown, same⟩ := skipJsonWs_stops front comma rfl
  rw [same [], List.append_assoc, List.singleton_append, same own]
  cases shown with
  | nil =>
      rw [List.nil_append, stringAt_bare (by decide)]
      simp [show comma ≠ quote by decide]
  | cons first others =>
      by_cases opens : first = quote
      · obtain ⟨letter, rest, shape⟩ : ∃ letter rest, others ++ [comma] = letter :: rest :=
          List.exists_cons_of_ne_nil (by simp)
        have longer : others ++ comma :: own = letter :: (rest ++ own) := by
          rw [← List.cons_append, ← shape]
          simp
        rw [opens, List.cons_append, List.cons_append, longer, shape,
          stringAt_empty_iff (by rw [← longer]; simp [closed])]
        simp [List.cons.injEq]
      · rw [List.cons_append, stringAt_bare opens]
        simp [opens]

/-- With empty start arguments in the text, the reader finds none exactly when
none are hidden in what was written before them. -/
theorem startArgs_absent_iff (more before : Text) :
    (((valueAfter (quoted (lit "start_args")) (before ++ [comma] ++
        (quoted (lit "start_args") ++ colon :: (quoted [] ++ comma :: more)))).bind
          stringAt : Option (Buffer 96)).getD .empty).text = [] ↔
      StartArgsHidden (before ++ [comma]) := by
  generalize own : quoted (lit "start_args") ++ colon :: (quoted [] ++ comma :: more) = ownMember
  have visible : quoted (lit "start_args") ≠ [] := by simp [quoted, enclose]
  have closed : quote ∈ ownMember := by simp [← own, quoted, enclose]
  have empty : ((stringAt (quoted [] ++ comma :: more) : Option (Buffer 96)).getD .empty).text =
      [] := by rw [stringAt_quoted _ (by simp)]; rfl
  cases search : strstr (quoted (lit "start_args")) (before ++ [comma]) with
  | none =>
      -- The member's own key is the first occurrence.
      have here : strstr (quoted (lit "start_args")) (before ++ [comma] ++ ownMember) =
          some (quoted (lit "start_args") ++ colon :: (quoted [] ++ comma :: more)) := by
        rw [strstr_append_none _ search, ← own]
        · exact strstr_here (List.prefix_append _ _) visible
        · rintro tail ending nonempty inside
          obtain ⟨front, rfl⟩ := ends_with nonempty ending
          have member : comma ∈ quoted (lit "start_args") := inside.subset (by simp)
          exact absurd member (by decide)
      refine iff_of_true ?_ ?_
      · rw [valueAfter_key (.text []) here]
        exact empty
      · intro letter rest shown
        simp [valueAfter, search] at shown
  | some hit =>
      obtain ⟨⟨afterKey, rfl⟩, ending⟩ := strstr_prefix search
      have whole := strstr_append_some ownMember visible search
      rw [List.append_assoc (quoted (lit "start_args"))] at whole
      rw [StartArgsHidden, valueAfter_found whole, valueAfter_found search]
      cases separator : strchr colon afterKey with
      | none =>
          -- The next colon is the one of the start arguments themselves.
          have jump := strchr_append colon (afterKey ++ quoted (lit "start_args"))
            (quoted [] ++ comma :: more) (by
              rw [List.mem_append, not_or]
              exact ⟨strchr_none separator, by decide⟩)
          rw [List.append_assoc, own] at jump
          refine iff_of_true ?_ (by simp)
          rw [jump]
          exact empty
      | some rest =>
          obtain ⟨skipped, tail, rfl, rfl, -⟩ := strchr_suffix separator
          have suffix : colon :: tail <:+ before ++ [comma] :=
            ((List.suffix_append skipped _).trans (List.suffix_append _ _)).trans ending
          obtain ⟨front, ends⟩ := ends_with (List.cons_ne_nil colon tail) suffix
          obtain ⟨inner, rfl⟩ : ∃ inner, tail = inner ++ [comma] := by
            cases front with
            | nil => cases ends
            | cons first inner => exact ⟨inner, (List.cons.inj ends).2⟩
          rw [strchr_append_some ownMember separator]
          simpa using hidden_value inner ownMember closed

theorem startArgs_iff {metadata : RequestMetadata} {more : Text}
    (written : json = writtenBefore metadata fields ++
      (quoted (lit "start_args") ++ colon :: (quoted fields.startArgs.text ++ comma :: more))) :
    startArgs json (copyRequestFields fields) = fields.startArgs ↔
      fields.startArgs.text ≠ [] ∨ StartArgsHidden (writtenBefore metadata fields) := by
  rw [copyRequestFields_same, startArgs]
  by_cases given : fields.startArgs.text = []
  · have short : (lit "start_args").length < 30 := by decide
    obtain ⟨before, ends⟩ : ∃ before, writtenBefore metadata fields = before ++ [comma] :=
      ⟨openBrace ++ printMembers (metadataMembers metadata) ++
        (Member.print ⟨lit "resource", .text fields.resource.text⟩ ++ comma ::
          Member.print ⟨lit "ttl_ms", .number fields.ttlMs.toNat⟩), by
        simp [writtenBefore, printMembers, leaseMembers]⟩
    have absent := startArgs_absent_iff more before
    rw [← ends, ← given, ← written] at absent
    have read : neuroJsonExtractString json (lit "start_args") =
        ((valueAfter (quoted (lit "start_args")) json).bind stringAt : Option (Buffer 96)) := by
      rw [neuroJsonExtractString, copyBounded_text, pattern_whole short]
    rw [if_neg (not_not.mpr given), read, or_iff_right (not_not.mpr given), ← absent]
    exact ⟨congrArg Buffer.text, Buffer.text_injective⟩
  · simp [given, copyBounded_buffer]

end Start

/-! The four handlers. -/

inductive Handler where
  | leaseAcquire
  | leaseRelease
  | appStart
  | updateActivate

/-- What the policy of the handler's route requires of the request. -/
def Handler.required (key : Text) : Handler → UInt32
  | .updateActivate => RequestPolicy.requiredFieldsForUpdateAction (lit "activate")
  | _ => RequestPolicy.requiredFieldsForCommand key

/-- The request was turned into text and passed the policy. -/
structure Accepted (nodeId key : Text) (handler : Handler) (source : ProtocolMetadata)
    (fields : RequestFields) (json : Text) : Prop where
  bridged : cborRequestToInternalJson NEURO_MAX_JSON_LEN (copyMetadata source) fields = .ok json
  policy : handler.required key = 0 ∨
    RequestPolicy.validate (copyMetadata source) (handler.required key) nodeId = none

/-- What the handler acts on is what was decoded. -/
def ActedAsDecoded (longMax : Nat) (source : ProtocolMetadata) (fields : RequestFields)
    (json : Text) : Handler → Prop
  | .leaseAcquire =>
      (leaseAcquireRequest longMax json).metadata = copyMetadata source ∧
      (leaseAcquireRequest longMax json).resource.text = fields.resource.text ∧
      (leaseAcquireRequest longMax json).ttlMs.toInt = requestedTtl fields
  | .leaseRelease => requestMetadataParse longMax json = copyMetadata source
  | .appStart | .updateActivate =>
      startArgs json (copyRequestFields fields) = fields.startArgs

/-- The request survives the text it travels in. -/
def Carried (longMax : Nat) (source : ProtocolMetadata) (fields : RequestFields) :
    Handler → Prop
  | .leaseAcquire => MetadataCarried longMax source ∧ LeaseCarried longMax source fields
  | .leaseRelease => MetadataCarried longMax source
  | .appStart | .updateActivate =>
      fields.startArgs.text ≠ [] ∨ StartArgsHidden (writtenBefore (copyMetadata source) fields)

/-- A handler acts on the decoded request exactly when the request is carried. -/
theorem acted_as_decoded_iff (longMax : Nat) (wide : 2 ^ 31 - 1 ≤ longMax)
    (nodeId key : Text) (handler : Handler) (source : ProtocolMetadata)
    (fields : RequestFields) (json : Text)
    (accepted : Accepted nodeId key handler source fields json) :
    ActedAsDecoded longMax source fields json handler ↔
      Carried longMax source fields handler := by
  obtain ⟨more, written⟩ := bridge_text accepted.bridged
  cases handler with
  | leaseAcquire =>
      refine acquire_iff wide (quoted (lit "start_args") ++
        colon :: (quoted fields.startArgs.text ++ comma :: more)) ?_
      rw [written, writtenBefore, List.append_assoc]
      rfl
  | leaseRelease =>
      have split : json = openBrace ++ (printMembers (metadataMembers (copyMetadata source)) ++
          (printMembers (leaseMembers fields) ++ (quoted (lit "start_args") ++
            colon :: (quoted fields.startArgs.text ++ comma :: more)))) := by
        rw [written, writtenBefore]
        simp [printMembers]
      rw [split]
      exact parse_iff wide _
  | appStart => exact startArgs_iff written
  | updateActivate => exact startArgs_iff written

def demoSource (requestId : String) : ProtocolMetadata where
  requestId := copyBounded (lit requestId)
  sourceCore := copyBounded (lit "core-a")
  sourceAgent := copyBounded (lit "rational")
  targetNode := copyBounded (lit "unit-01")
  leaseId := .empty
  idempotencyKey := copyBounded (lit "idem-1")
  timeoutMs := 5000
  priority := 1
  forwarded := false

def demoFields : RequestFields where
  resource := copyBounded (lit "app/demo/control")
  argsJson := .empty
  ttlMs := 60000
  startArgs := .empty
  reason := .empty
  transport := .empty
  artifactKey := .empty
  size := 0
  chunkSize := 0
  hasCallbackEnabled := false
  callbackEnabled := false
  hasTriggerEvery := false
  triggerEvery := 0
  hasEventName := false
  eventName := .empty

def demoJson (requestId : String) : Text :=
  openBrace ++ joinMembers (metadataMembers (copyMetadata (demoSource requestId)) ++
    leaseMembers demoFields ++ startMembers demoFields) ++ lit "\x7d"

theorem demoRequest_accepted :
    Accepted (lit "unit-01") (lit "neuro/unit-01/cmd/lease/acquire") .leaseAcquire
      (demoSource "req-1") demoFields (demoJson "req-1") :=
  ⟨by decide +kernel, .inr (by decide +kernel)⟩

theorem demoRequest_carried : Carried (2 ^ 31 - 1) (demoSource "req-1") demoFields .leaseAcquire :=
  (acted_as_decoded_iff (2 ^ 31 - 1) (Nat.le_refl _) _ _ _ _ _ _ demoRequest_accepted).mp
    (by unfold ActedAsDecoded; decide +kernel)

/-- A request id with quotes in it passes the policy and then raises the
priority of its own lease. -/
theorem forged_priority : ¬ ∀ (longMax : Nat), 2 ^ 31 - 1 ≤ longMax →
    ∀ (nodeId key : Text) (handler : Handler) (source : ProtocolMetadata)
      (fields : RequestFields) (json : Text),
      Accepted nodeId key handler source fields json →
      ActedAsDecoded longMax source fields json handler := by
  intro claimed
  have accepted : Accepted (lit "unit-01") (lit "neuro/unit-01/cmd/lease/acquire") .leaseAcquire
      (demoSource "r\",\"priority\":9,\"x\":\"") demoFields
      (demoJson "r\",\"priority\":9,\"x\":\"") :=
    ⟨by decide +kernel, .inr (by decide +kernel)⟩
  have acted := (claimed (2 ^ 31 - 1) (Nat.le_refl _) _ _ _ _ _ _ accepted).1
  have forged : (leaseAcquireRequest (2 ^ 31 - 1)
      (demoJson "r\",\"priority\":9,\"x\":\"")).metadata.priority = 9 := by decide +kernel
  rw [acted] at forged
  exact absurd forged (by decide)

end NeuroLink.BridgeFidelity
