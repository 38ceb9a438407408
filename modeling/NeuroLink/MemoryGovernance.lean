import NeuroLink.PyValue
import Mathlib.Data.List.Sort

/-!
The governance of memory candidates: how a candidate is screened, when it may be committed,
the key that tells it from others, and what is stored of it.
-/

namespace NeuroLink.MemoryGovernance

open PyValue

/-- What the screening takes from Python besides `str` and `int`: `dict(value)` of a true value
that is no dictionary, the digest of a text, the rounded quotient of a priority, the clock at the
moment, days ahead, and fresh identifiers. -/
structure Library extends Conversions where
  toDict : Value → Except String Dict
  sha256 : String → String
  rounded : Int → Except String Value
  utcAfterDays : Nat → String
  utcNowIso : String
  newId : String → Nat → String

variable (python : Library)

/-- `dict(value or {})`. -/
def Library.dictOr (value : Value) : Except String Dict :=
  match value.orElse (.dict []) with
  | .dict entries => .ok entries
  | other => python.toDict other

/-- `list(value or [])`. -/
def listOr (value : Value) : Except String (List Value) := (value.orElse (.list [])).toList

def memoryGovernanceSchemaVersion : String := "1.2.5-memory-governance-v1"

/-- `_candidate_confidence`. -/
def candidateConfidence (priority : Int) : Except String Value :=
  if priority ≤ 0 then .ok (.real "0.2" (by decide)) else python.rounded priority

/-- `_retention_policy_for_topic`. -/
def retentionPolicyForTopic (semanticTopic : String) : String × Nat :=
  if "user.input".toList.isPrefixOf semanticTopic.toList then ("user_context", 30)
  else if "unit.callback".toList.isPrefixOf semanticTopic.toList then ("operational_lesson", 14)
  else if "time.".toList.isPrefixOf semanticTopic.toList then ("ephemeral_telemetry", 1)
  else ("operational_context", 7)

def textsOf (values : List Value) : Except String (List String) :=
  values.mapM fun
    | .str text => .ok text
    | _ => .error "TypeError"

/-- `_candidate_dedupe_key`. -/
def candidateDedupeKey (semanticTopic source : String) (eventIds : List Value) :
    Except String String := do
  let texts ← textsOf eventIds
  let joined := "|".intercalate (semanticTopic :: source :: texts.insertionSort (· ≤ ·))
  return "memcand:" ++ (python.sha256 joined).take 16

/-- `value not in history` for a text. -/
def recorded (history : List Value) (text : String) : Bool := history.any (Value.isText text)

/-- `if text not in history: history.append(text)`. -/
def record (history : List Value) (text : String) : List Value :=
  if recorded history text then history else history ++ [.str text]

/-- `str(first or second or third())`, where the third is asked for only if needed. -/
def firstKey (first second : Value) (third : Except String String) : Except String String :=
  let named := first.orElse second
  if named.truthy then .ok (named.text python.repr) else third

/-- What a candidate is screened to, by its topic and its priority. -/
def decision (retentionClass : String) (priority : Int) : String × String :=
  if retentionClass = "ephemeral_telemetry" then
    ("rejected", "ephemeral_telemetry_not_retained")
  else if priority < 10 then ("rejected", "candidate_confidence_below_threshold")
  else ("accepted", "deterministic_candidate_accepted")

/-- `_screen_candidate`. -/
def screenCandidate (payload : Dict) : Except String Dict := do
  let governance ← python.dictOr (get payload "memory_governance")
  let semanticTopic := python.textOr "unknown" (get payload "semantic_topic")
  let source := python.textOr "unknown" (get payload "source")
  let eventIds ← listOr (get payload "event_ids")
  let priority ← python.intOrZero (get payload "priority")
  let dedupeKey ← firstKey python (get governance "dedupe_key")
    (get payload "candidate_dedupe_key") (candidateDedupeKey python semanticTopic source eventIds)
  let sourceFactRefs ← listOr
    ((get governance "source_fact_refs").orElse (get payload "source_fact_refs"))
  let (retentionClass, retentionTtlDays) := retentionPolicyForTopic semanticTopic
  let history ← ((get governance "lifecycle_history").orElse (.list [.str "proposed"])).toList
  let (lifecycleState, decisionReason) := decision retentionClass priority
  let lifecycleHistory := record (record history "screened") lifecycleState
  let confidence ← candidateConfidence python priority
  let governance := update governance
    [("schema_version", .str memoryGovernanceSchemaVersion),
      ("lifecycle_state", .str lifecycleState), ("decision_reason", .str decisionReason),
      ("screening_reason", .str decisionReason), ("confidence", confidence),
      ("confidence_source", .str "frame_priority"), ("dedupe_key", .str dedupeKey),
      ("source_event_refs", .list eventIds), ("source_fact_refs", .list sourceFactRefs),
      ("source_fact_ref_count", .int sourceFactRefs.length),
      ("review_mode", .str "deterministic_auto_candidate"),
      ("retention_class", .str retentionClass), ("retention_ttl_days", .int retentionTtlDays),
      ("retention_expires_at", .str (python.utcAfterDays retentionTtlDays)),
      ("commit_eligible", .bool (lifecycleState = "accepted")),
      ("lifecycle_history", .list lifecycleHistory)]
  let stamp := if lifecycleState = "accepted" then "accepted_at" else "rejected_at"
  let governance := insert governance stamp
    ((get governance stamp).orElse (.str (python.utcAfterDays 0)))
  return update payload
    [("candidate_dedupe_key", .str dedupeKey), ("source_event_refs", .list eventIds),
      ("source_fact_refs", .list sourceFactRefs), ("memory_governance", .dict governance)]

/-- What a commit notes of the sidecar: neither `None` nor an empty text. -/
def sidecarNotes (externalMemoryId sidecarStatus : Option String) : Dict :=
  let note (key : String) (text : Option String) : Dict :=
    (text.filter (· ≠ "")).toList.map fun text => (key, .str text)
  note "external_memory_id" externalMemoryId ++ note "sidecar_status" sidecarStatus

/-- `_committed_memory_payload`. -/
def committedMemoryPayload (commitBackend commitReason : String)
    (externalMemoryId sidecarStatus : Option String) (candidate : Dict) : Except String Dict := do
  let governance ← python.dictOr (get candidate "memory_governance")
  let lifecycleHistory ← listOr (get governance "lifecycle_history")
  let governance := update governance
    [("schema_version", .str memoryGovernanceSchemaVersion),
      ("lifecycle_state", .str "committed"), ("decision_reason", .str commitReason),
      ("commit_backend", .str commitBackend), ("committed_at", .str (python.utcAfterDays 0)),
      ("lifecycle_history", .list (record lifecycleHistory "committed"))]
  let notes := sidecarNotes externalMemoryId sidecarStatus
  return update (insert candidate "memory_governance" (.dict (update governance notes))) notes

/-- `_candidate_commit_eligible`. -/
def candidateCommitEligible (candidate : Dict) : Except String Bool := do
  let governance ← python.dictOr (get candidate "memory_governance")
  return (get governance "commit_eligible").truthy ||
    python.textOrEmpty (get governance "lifecycle_state") = "accepted"

/-- `_external_memory_payload`. -/
def externalMemoryPayload (candidate : Dict) : Except String Dict := do
  let governance ← python.dictOr (get candidate "memory_governance")
  let eventIds ← listOr (get candidate "event_ids")
  let sourceEventRefs ← listOr (get governance "source_event_refs")
  let sourceFactRefs ← listOr (get governance "source_fact_refs")
  let text (default key : String) : Value := .str (python.textOr default (get governance key))
  return [("semantic_topic", .str (python.textOr "unknown" (get candidate "semantic_topic"))),
    ("source", .str (python.textOr "unknown" (get candidate "source"))),
    ("event_ids", .list eventIds), ("source_event_refs", .list sourceEventRefs),
    ("source_fact_refs", .list sourceFactRefs),
    ("memory_governance", .dict [("schema_version", .str memoryGovernanceSchemaVersion),
      ("lifecycle_state", text "unknown" "lifecycle_state"),
      ("decision_reason", text "" "decision_reason"), ("confidence", get governance "confidence"),
      ("confidence_source", text "" "confidence_source"), ("dedupe_key", text "" "dedupe_key"),
      ("retention_class", text "" "retention_class"),
      ("retention_expires_at", text "" "retention_expires_at"),
      ("review_mode", text "" "review_mode")])]

def dedupeKey (payload : Dict) : Except String String := do
  let governance ← python.dictOr (get payload "memory_governance")
  firstKey python (get governance "dedupe_key") (get payload "candidate_dedupe_key") do
    let eventIds ← listOr (get payload "event_ids")
    candidateDedupeKey python (python.textOr "unknown" (get payload "semantic_topic"))
      (python.textOr "unknown" (get payload "source")) eventIds

def screened (candidate : Dict) : Except String Dict := do
  let governance ← python.dictOr (get candidate "memory_governance")
  let lifecycleState := python.textOrEmpty (get governance "lifecycle_state")
  if lifecycleState = "" ∨ lifecycleState = "proposed" then screenCandidate python candidate
  else return candidate

/-- What a commit makes of a candidate before it acts: the payload with its key, if the candidate
may be committed. -/
def selected (candidate : Dict) : Except String (Option (String × Dict)) := do
  let payload ← screened python candidate
  let eligible ← candidateCommitEligible python payload
  if eligible then
    let key ← dedupeKey python payload
    return some (key, payload)
  else return none

section Marking

variable {python : Library}

@[simp] theorem dictOr_dict (entries : Dict) : python.dictOr (.dict entries) = .ok entries := by
  cases entries with
  | nil => rfl
  | cons entry rest => rfl

@[simp] theorem listOr_list (items : List Value) : listOr (.list items) = .ok items := by
  cases items with
  | nil => rfl
  | cons item rest => rfl

/-- The payload is the candidate, marked as committed: what tells it from others reads as before,
and so does its eligibility. -/
structure Marked (python : Library) (candidate payload : Dict) : Prop where
  marks : ∃ before governance, python.dictOr (get candidate "memory_governance") = .ok before ∧
    get payload "memory_governance" = .dict governance ∧
    get governance "lifecycle_state" = .str "committed" ∧
    (∃ history, get governance "lifecycle_history" = .list history) ∧
    get governance "commit_eligible" = get before "commit_eligible" ∧
    get governance "dedupe_key" = get before "dedupe_key"
  keeps : ∀ key ∈ ["candidate_dedupe_key", "semantic_topic", "source", "event_ids"],
    get payload key = get candidate key

theorem key_of_selected {candidate payload : Dict} {key : String}
    (reads : selected python candidate = .ok (some (key, payload))) :
    dedupeKey python payload = .ok key := by
  obtain ⟨found, _, reads⟩ := bind_eq_ok.mp reads
  obtain ⟨eligible, _, reads⟩ := bind_eq_ok.mp reads
  cases eligible with
  | false => cases reads
  | true =>
      obtain ⟨other, named, same⟩ := bind_eq_ok.mp reads
      cases same
      exact named

theorem notes_apart {externalMemoryId sidecarStatus : Option String} {key : String}
    (other : key ≠ "external_memory_id" ∧ key ≠ "sidecar_status") :
    ∀ note ∈ sidecarNotes externalMemoryId sidecarStatus, note.1 ≠ key := by
  intro note member same
  unfold sidecarNotes at member
  rcases List.mem_append.mp member with first | second
  · obtain ⟨text, _, rfl⟩ := List.mem_map.mp first
    exact other.1 same.symm
  · obtain ⟨text, _, rfl⟩ := List.mem_map.mp second
    exact other.2 same.symm

/-- A candidate whose governance and history can be read is committed, and marked so. -/
theorem committed_marked {candidate governance : Dict} {history : List Value}
    (governs : python.dictOr (get candidate "memory_governance") = .ok governance)
    (lives : listOr (get governance "lifecycle_history") = .ok history)
    (commitBackend commitReason : String) (externalMemoryId sidecarStatus : Option String) :
    ∃ payload, committedMemoryPayload python commitBackend commitReason externalMemoryId
      sidecarStatus candidate = .ok payload ∧ Marked python candidate payload := by
  unfold committedMemoryPayload
  rw [governs]
  dsimp only [bind, Except.bind]
  rw [lives]
  have stored {value : Value} : get (update (insert candidate "memory_governance" value)
      (sidecarNotes externalMemoryId sidecarStatus)) "memory_governance" = value :=
    (get_update_ne (notes_apart (by decide))).trans get_insert_self
  refine ⟨_, rfl, ⟨governance, _, governs, stored, ?_,
    ⟨record history "committed", ?_⟩, ?_, ?_⟩, fun key member => ?_⟩
  · exact (get_update_ne (notes_apart (by decide))).trans
      (get_update_of_mem (by simp) (.tail _ (.head _)))
  · exact (get_update_ne (notes_apart (by decide))).trans
      (get_update_of_mem (by simp) (List.mem_of_getLast? rfl))
  · exact (get_update_ne (notes_apart (by decide))).trans (get_update_ne (by simp))
  · exact (get_update_ne (notes_apart (by decide))).trans (get_update_ne (by simp))
  · have apart : key ≠ "memory_governance" ∧ key ≠ "external_memory_id" ∧
        key ≠ "sidecar_status" := by
      simp only [List.mem_cons, List.not_mem_nil, or_false] at member
      rcases member with rfl | rfl | rfl | rfl <;> decide
    exact (get_update_ne (notes_apart apart.2)).trans (get_insert_ne apart.1)

theorem Marked.readable {candidate payload : Dict} (marked : Marked python candidate payload) :
    ∃ governance history, python.dictOr (get payload "memory_governance") = .ok governance ∧
      listOr (get governance "lifecycle_history") = .ok history := by
  obtain ⟨_, governance, _, holds, _, ⟨history, lives⟩, _, _⟩ := marked.marks
  exact ⟨governance, history, by rw [holds, dictOr_dict], by rw [lives, listOr_list]⟩

theorem Marked.key {candidate payload : Dict} (marked : Marked python candidate payload) :
    dedupeKey python payload = dedupeKey python candidate := by
  obtain ⟨before, governance, reads, holds, _, _, _, named⟩ := marked.marks
  have same := fun key member => marked.keeps key member
  unfold dedupeKey
  rw [holds, dictOr_dict, reads]
  dsimp only [bind, Except.bind]
  rw [named, same "candidate_dedupe_key" (by simp), same "semantic_topic" (by simp),
    same "source" (by simp), same "event_ids" (by simp)]

/-- The flag of the governance that makes a candidate eligible, whatever its state. -/
def Flagged (python : Library) (candidate : Dict) : Prop :=
  ∃ governance, python.dictOr (get candidate "memory_governance") = .ok governance ∧
    (get governance "commit_eligible").truthy = true

theorem Marked.selected_again {candidate payload : Dict} {key : String}
    (marked : Marked python candidate payload) (keyed : dedupeKey python candidate = .ok key) :
    (Flagged python candidate ∧ selected python payload = .ok (some (key, payload))) ∨
      (¬ Flagged python candidate ∧ selected python payload = .ok none) := by
  have again := marked.key.trans keyed
  obtain ⟨before, governance, reads, holds, state, _, flag, _⟩ := marked.marks
  have unscreened : screened python payload = .ok payload := by
    unfold screened
    rw [holds, dictOr_dict]
    dsimp only [bind, Except.bind]
    rw [state]
    rfl
  have eligible : candidateCommitEligible python payload =
      .ok (get before "commit_eligible").truthy := by
    unfold candidateCommitEligible
    rw [holds, dictOr_dict]
    dsimp only [bind, Except.bind]
    rw [state, flag]
    exact congrArg Except.ok (Bool.or_false _)
  unfold selected
  rw [unscreened]
  dsimp only [bind, Except.bind]
  rw [eligible]
  by_cases flagged : (get before "commit_eligible").truthy = true
  · refine .inl ⟨⟨before, reads, flagged⟩, ?_⟩
    dsimp only
    rw [if_pos flagged, again]
    rfl
  · refine .inr ⟨fun ⟨other, also, known⟩ => ?_, ?_⟩
    · cases reads.symm.trans also
      exact flagged known
    · dsimp only
      rw [if_neg flagged]
      rfl

end Marking

end NeuroLink.MemoryGovernance
