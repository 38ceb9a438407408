import NeuroLink.RequestMetadata
import NeuroLink.TextScan

/-!
Which fields of the metadata a request needs. The policy goes by the text of the key, or
by the action of an update, and the check by the flags the policy returns.
-/

namespace NeuroLink.RequestPolicy

open CText

/-! `enum neuro_request_metadata_requirements`. -/

def requireRequestId : UInt32 := 1
def requireSourceCore : UInt32 := 2
def requireSourceAgent : UInt32 := 4
def requireTargetNode : UInt32 := 8
def requireTimeoutMs : UInt32 := 16
def requireLeaseId : UInt32 := 32
def requireIdempotencyKey : UInt32 := 64
def requirePriority : UInt32 := 128

def requireCommon : UInt32 :=
  requireRequestId ||| requireSourceCore ||| requireSourceAgent ||| requireTargetNode |||
    requireTimeoutMs

/-- `NEURO_REQ_FLAGS_WRITE`. -/
def writeFlags : UInt32 := requireCommon ||| requirePriority ||| requireIdempotencyKey

/-- `NEURO_REQ_FLAGS_PROTECTED_WRITE`. -/
def protectedWriteFlags : UInt32 := writeFlags ||| requireLeaseId

/-- `neuro_request_metadata_validate`: the error of a request that is turned away. -/
def validate (metadata : RequestMetadata) (requiredFields : UInt32) (expectedTargetNode : Text) :
    Option Text :=
  if requiredFields &&& requireRequestId ≠ 0 ∧ metadata.requestId.text = [] then
    some (lit "request_id is required")
  else if requiredFields &&& requireSourceCore ≠ 0 ∧ metadata.sourceCore.text = [] then
    some (lit "source_core is required")
  else if requiredFields &&& requireSourceAgent ≠ 0 ∧ metadata.sourceAgent.text = [] then
    some (lit "source_agent is required")
  else if requiredFields &&& requireTargetNode ≠ 0 ∧ metadata.targetNode.text = [] then
    some (lit "target_node is required")
  else if requiredFields &&& requireTimeoutMs ≠ 0 ∧ metadata.timeoutMs = 0 then
    some (lit "timeout_ms is required")
  else if requiredFields &&& requireLeaseId ≠ 0 ∧ metadata.leaseId.text = [] then
    some (lit "lease_id is required")
  else if requiredFields &&& requirePriority ≠ 0 ∧ metadata.priority < 0 then
    some (lit "priority is required")
  else if requiredFields &&& requireIdempotencyKey ≠ 0 ∧ metadata.idempotencyKey.text = [] then
    some (lit "idempotency_key is required")
  else if expectedTargetNode ≠ [] ∧ metadata.targetNode.text ≠ [] ∧
      metadata.targetNode.text ≠ expectedTargetNode then
    some (lit "target_node mismatch")
  else none

def hasSuffix (value suffix : Text) : Bool := suffix.isSuffixOf value

/-- `neuro_request_policy_required_fields_for_command`. -/
def requiredFieldsForCommand (key : Text) : UInt32 :=
  if hasSuffix key (lit "/cmd/lease/acquire") then writeFlags
  else if hasSuffix key (lit "/cmd/lease/release") ∨ (strstr (lit "/cmd/app/") key).isSome then
    protectedWriteFlags
  else 0

/-- `neuro_request_policy_required_fields_for_query`. -/
def requiredFieldsForQuery (key : Text) : UInt32 :=
  if hasSuffix key (lit "/query/device") ∨ hasSuffix key (lit "/query/apps") ∨
      hasSuffix key (lit "/query/leases") then requireCommon
  else 0

/-- `neuro_request_policy_required_fields_for_update_action`. -/
def requiredFieldsForUpdateAction (action : Text) : UInt32 :=
  if action = lit "prepare" then writeFlags
  else if action = lit "verify" then requireCommon
  else if action = lit "activate" then protectedWriteFlags
  else if action = lit "rollback" then protectedWriteFlags
  else if action = lit "recover" then protectedWriteFlags
  else if action = lit "delete" then protectedWriteFlags
  else 0

/-! What the metadata of a request that passed has. -/

structure Checked (requiredFields : UInt32) (nodeId : Text) (metadata : RequestMetadata) :
    Prop where
  requestId : requiredFields &&& requireRequestId ≠ 0 → metadata.requestId.text ≠ []
  sourceCore : requiredFields &&& requireSourceCore ≠ 0 → metadata.sourceCore.text ≠ []
  sourceAgent : requiredFields &&& requireSourceAgent ≠ 0 → metadata.sourceAgent.text ≠ []
  targetNode : requiredFields &&& requireTargetNode ≠ 0 → metadata.targetNode.text ≠ []
  timeoutMs : requiredFields &&& requireTimeoutMs ≠ 0 → metadata.timeoutMs ≠ 0
  leaseId : requiredFields &&& requireLeaseId ≠ 0 → metadata.leaseId.text ≠ []
  priority : requiredFields &&& requirePriority ≠ 0 → ¬ metadata.priority < 0
  idempotencyKey : requiredFields &&& requireIdempotencyKey ≠ 0 →
    metadata.idempotencyKey.text ≠ []
  addressed : nodeId ≠ [] → metadata.targetNode.text ≠ [] → metadata.targetNode.text = nodeId

structure Common (nodeId : Text) (metadata : RequestMetadata) : Prop where
  requestId : metadata.requestId.text ≠ []
  sourceCore : metadata.sourceCore.text ≠ []
  sourceAgent : metadata.sourceAgent.text ≠ []
  targetNode : metadata.targetNode.text ≠ []
  timeoutMs : metadata.timeoutMs ≠ 0
  addressed : nodeId ≠ [] → metadata.targetNode.text = nodeId

structure Write (nodeId : Text) (metadata : RequestMetadata) : Prop
    extends Common nodeId metadata where
  priority : 0 ≤ metadata.priority
  idempotencyKey : metadata.idempotencyKey.text ≠ []

structure ProtectedWrite (nodeId : Text) (metadata : RequestMetadata) : Prop
    extends Write nodeId metadata where
  leaseId : metadata.leaseId.text ≠ []

section Validate

variable {metadata : RequestMetadata} {requiredFields : UInt32} {nodeId : Text}

theorem passed {check : Prop} [Decidable check] {error : Text} {rest : Option Text}
    (accepted : (if check then some error else rest) = none) : ¬ check ∧ rest = none := by
  by_cases fails : check
  · rw [if_pos fails] at accepted
    cases accepted
  · rw [if_neg fails] at accepted
    exact ⟨fails, accepted⟩

theorem validate_checked (accepted : validate metadata requiredFields nodeId = none) :
    Checked requiredFields nodeId metadata := by
  unfold validate at accepted
  obtain ⟨requestId, accepted⟩ := passed accepted
  obtain ⟨sourceCore, accepted⟩ := passed accepted
  obtain ⟨sourceAgent, accepted⟩ := passed accepted
  obtain ⟨targetNode, accepted⟩ := passed accepted
  obtain ⟨timeoutMs, accepted⟩ := passed accepted
  obtain ⟨leaseId, accepted⟩ := passed accepted
  obtain ⟨priority, accepted⟩ := passed accepted
  obtain ⟨idempotencyKey, accepted⟩ := passed accepted
  obtain ⟨addressed, _⟩ := passed accepted
  constructor
  · exact not_and.mp requestId
  · exact not_and.mp sourceCore
  · exact not_and.mp sourceAgent
  · exact not_and.mp targetNode
  · exact not_and.mp timeoutMs
  · exact not_and.mp leaseId
  · exact not_and.mp priority
  · exact not_and.mp idempotencyKey
  · intro named present
    by_contra other
    exact addressed ⟨named, present, other⟩

theorem Checked.common (checked : Checked requiredFields nodeId metadata)
    (asks : requiredFields &&& requireCommon = requireCommon) : Common nodeId metadata := by
  have asked : ∀ flag, flag ≠ 0 → requireCommon &&& flag = flag → requiredFields &&& flag ≠ 0 := by
    intro flag some part
    rw [← part, ← UInt32.and_assoc, asks, part]
    exact some
  have present := checked.targetNode (asked _ (by decide) (by decide))
  constructor
  · exact checked.requestId (asked _ (by decide) (by decide))
  · exact checked.sourceCore (asked _ (by decide) (by decide))
  · exact checked.sourceAgent (asked _ (by decide) (by decide))
  · exact present
  · exact checked.timeoutMs (asked _ (by decide) (by decide))
  · exact fun named => checked.addressed named present

theorem validate_common (accepted : validate metadata requireCommon nodeId = none) :
    Common nodeId metadata :=
  (validate_checked accepted).common (by decide)

theorem validate_write (accepted : validate metadata writeFlags nodeId = none) :
    Write nodeId metadata := by
  have checked := validate_checked accepted
  exact ⟨checked.common (by decide), Int.not_lt.mp (checked.priority (by decide)),
    checked.idempotencyKey (by decide)⟩

theorem validate_protectedWrite (accepted : validate metadata protectedWriteFlags nodeId = none) :
    ProtectedWrite nodeId metadata := by
  have checked := validate_checked accepted
  exact ⟨⟨checked.common (by decide), Int.not_lt.mp (checked.priority (by decide)),
    checked.idempotencyKey (by decide)⟩, checked.leaseId (by decide)⟩

end Validate

end NeuroLink.RequestPolicy
