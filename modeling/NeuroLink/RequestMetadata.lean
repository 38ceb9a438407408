import NeuroLink.CText

/-! The metadata every request carries, in the fixed fields it is parsed into. -/

namespace NeuroLink

open CText

/-- `struct neuro_request_metadata`. -/
structure RequestMetadata where
  requestId : Buffer 32
  sourceCore : Buffer 32
  sourceAgent : Buffer 24
  targetNode : Buffer 32
  leaseId : Buffer 32
  idempotencyKey : Buffer 32
  timeoutMs : UInt32
  priority : Int
  forwarded : Bool
  deriving DecidableEq

namespace RequestMetadata

/-- `neuro_request_metadata_init`: all bytes zero, and no priority yet. -/
def init : RequestMetadata where
  requestId := .empty
  sourceCore := .empty
  sourceAgent := .empty
  targetNode := .empty
  leaseId := .empty
  idempotencyKey := .empty
  timeoutMs := 0
  priority := -1
  forwarded := false

end RequestMetadata

end NeuroLink
