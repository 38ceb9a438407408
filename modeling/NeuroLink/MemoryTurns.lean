import NeuroLink.MemoryLookup
import NeuroLink.MemoryRecall
import Mathlib.Data.List.Range

/-!
The memory of the agent over its turns. A turn looks up memories for the topics of its frame,
proposes a new memory for each topic, and commits those that pass the screening; between the
turns memories retire.
-/

namespace NeuroLink.MemoryTurns

open PyValue MemoryGovernance MemoryRetention MemoryLookup MemoryRecall
open SidecarMemory (Row Local Ending loop returned unvisited)
open UtcText (Timestamp)

/-- What a frame reads of an event. -/
structure PerceptionEvent where
  eventId : String
  eventType : String
  semanticTopic : Option String
  priority : Int

structure PerceptionFrame where
  eventIds : List String
  highestPriority : Int
  topics : List String
  named : ∀ topic ∈ topics, topic ≠ ""

/-- `event.semantic_topic or event.event_type`. -/
def PerceptionEvent.topic (event : PerceptionEvent) : String :=
  (event.semanticTopic.filter (· ≠ "")).getD event.eventType

/-- `_build_frame`. -/
def buildFrame (events : List PerceptionEvent) : PerceptionFrame where
  eventIds := events.map (·.eventId)
  highestPriority := (events.map (·.priority)).max?.getD 0
  topics := ((events.map (·.topic)).filter (· ≠ "")).dedup.insertionSort (· ≤ ·)
  named topic member := by
    rw [List.mem_insertionSort, List.mem_dedup, List.mem_filter] at member
    exact of_decide_eq_true member.2

/-- The clock at one moment, and the times some days after it. -/
structure Moment where
  afterDays : Nat → Timestamp

section Turn

variable (python : Library)

/-- What the memory takes from Python at the moment. -/
def Moment.library (moment : Moment) : Library :=
  { python with
    utcAfterDays := fun days => (moment.afterDays days).text
    utcNowIso := (moment.afterDays 0).text }

/-- `if text is not None: payload[key] = text`, for a payload without the key. -/
def noted (key : String) (text : Option String) : Dict :=
  text.toList.map fun text => (key, .str text)

/-- `_governed_candidate`. -/
def governedCandidate (semanticTopic source : String) (eventIds : List String) (priority : Int)
    (sourceFactRefs : List String) (memoryBackend userId agentId : Option String) :
    Except String Dict := do
  let eventRefs : List Value := eventIds.map .str
  let dedupeKey ← candidateDedupeKey python semanticTopic source eventRefs
  let confidence ← candidateConfidence python priority
  let governance : Dict :=
    [("schema_version", .str memoryGovernanceSchemaVersion),
      ("lifecycle_state", .str "proposed"),
      ("decision_reason", .str "frame_topic_candidate_detected"), ("confidence", confidence),
      ("confidence_source", .str "frame_priority"), ("dedupe_key", .str dedupeKey),
      ("source_event_refs", .list eventRefs),
      ("source_fact_refs", .list (sourceFactRefs.map .str)),
      ("source_fact_ref_count", .int sourceFactRefs.length),
      ("review_mode", .str "deterministic_auto_candidate"),
      ("lifecycle_history", .list [.str "proposed"])]
  return [("semantic_topic", .str semanticTopic), ("source", .str source),
      ("event_ids", .list eventRefs), ("priority", .int priority),
      ("candidate_dedupe_key", .str dedupeKey), ("source_event_refs", .list eventRefs),
      ("memory_governance", .dict (governance ++ noted "memory_backend" memoryBackend))] ++
    noted "memory_backend" memoryBackend ++ noted "user_id" userId ++ noted "agent_id" agentId

/-- `LocalCandidateBackedMemory.propose_candidates`. -/
def proposeCandidates (frame : PerceptionFrame) : Except String (List Dict) :=
  frame.topics.mapM fun topic =>
    governedCandidate python topic "local_candidate_backed_memory" frame.eventIds
      frame.highestPriority [] (some "local_sqlite") none none

def addSourceFacts (sourceFactRefs : List String) (candidate : Dict) : Except String Dict := do
  let refs : Value := .list (sourceFactRefs.map .str)
  let candidatePayload := insert candidate "source_fact_refs" refs
  let governance ← python.dictOr (get candidatePayload "memory_governance")
  let governance := insert governance "source_fact_refs" refs
  let governance := insert governance "source_fact_ref_count" (.int sourceFactRefs.length)
  return insert candidatePayload "memory_governance" (.dict governance)

def screenedCandidates (frame : PerceptionFrame) (sourceFactRefs : List String) :
    Except String (List Dict) := do
  let candidates ← proposeCandidates python frame
  let candidatePayloads ← candidates.mapM (addSourceFacts python sourceFactRefs)
  candidatePayloads.mapM (screenCandidate python)

def itemOf (row : Row) : Dict :=
  [("memory_id", .str row.memoryId),
    ("source_execution_span_id", .str row.sourceExecutionSpanId),
    ("semantic_topic", .str row.semanticTopic), ("payload", .dict row.payload),
    ("created_at", .str row.createdAt)]

/-- `LocalCandidateBackedMemory.runtime_metadata`. -/
def runtimeMetadata : Dict :=
  [("backend_kind", .str "local_sqlite"), ("backend_runtime", .str "sqlite_candidate_store"),
    ("governance_schema_version", .str memoryGovernanceSchemaVersion),
    ("requires_external_service", .bool false), ("fallback_active", .bool false),
    ("can_execute_tools_directly", .bool false)]

/-- The part of a workflow run that uses the memory: the table after it, and the memories that
the prompt is told of or what was raised. -/
def memoryTurn (rows : List Row) (executionSpanId : String) (frame : PerceptionFrame)
    (sourceFactRefs : List String) : List Row × Except String RecallContext :=
  match lookup rows frame.topics with
  | .error raised => (rows, .error raised)
  | .ok memoryItems =>
      match screenedCandidates python frame sourceFactRefs with
      | .error raised => (rows, .error raised)
      | .ok candidates =>
          let (store, ending) := Local.commitCandidates python executionSpanId rows candidates
          (store.rows, do
            let _memoryIds ← returned store.memoryIds ending
            buildMemoryRecallContext python.toConversions (memoryItems.map itemOf)
              runtimeMetadata)

/-- The tables that turns and retirements lead to. -/
inductive Reached : List Row → Prop where
  | empty : Reached []
  | turn {rows : List Row} (moment : Moment) (executionSpanId : String)
      (events : List PerceptionEvent) (sourceFactRefs : List String) : Reached rows →
      Reached (memoryTurn (moment.library python) rows executionSpanId (buildFrame events)
        sourceFactRefs).1
  | retire {rows after : List Row} {ids : List String} (moment : Moment)
      (referenceTime : Option String) : Reached rows →
      retireExpiredLongTermMemories (moment.library python) (moment.afterDays 0).text rows
        referenceTime = .ok (after, ids) → Reached after

end Turn

/-! What a candidate carries from one stage to the next. -/

/-- A candidate for the topic that can be screened; the entries are its governance. -/
structure Proposed (semanticTopic : String) (priority : Int) (candidate entries : Dict) : Prop where
  topic : get candidate "semantic_topic" = .str semanticTopic
  eventIds : ∃ ids, get candidate "event_ids" = .list ids
  rated : get candidate "priority" = .int priority
  governance : get candidate "memory_governance" = .dict entries
  key : ∃ key, key ≠ "" ∧ get entries "dedupe_key" = .str key
  history : ∃ history, get entries "lifecycle_history" = .list history

structure Stamped (semanticTopic : String) (entries : Dict) : Prop where
  retention : get entries "retention_class" = .str (retentionPolicyForTopic semanticTopic).1
  expires : ∃ time : Timestamp, get entries "retention_expires_at" = .str time.text
  history : ∃ history, get entries "lifecycle_history" = .list history
  facts : ∃ refs, get entries "source_fact_refs" = .list refs

def Acceptable (semanticTopic : String) (priority : Int) : Prop :=
  (retentionPolicyForTopic semanticTopic).1 ≠ "ephemeral_telemetry" ∧ 10 ≤ priority

structure Screened (semanticTopic : String) (priority : Int) (candidate entries : Dict) : Prop
    extends Proposed semanticTopic priority candidate entries, Stamped semanticTopic entries where
  decided : get entries "lifecycle_state" = .str "accepted" ∧
      get entries "commit_eligible" = .bool true ∧ Acceptable semanticTopic priority ∨
    get entries "lifecycle_state" = .str "rejected" ∧
      get entries "commit_eligible" = .bool false

/-- A memory in the table. -/
structure Stored (row : Row) : Prop where
  eventIds : ∃ ids, get row.payload "event_ids" = .list ids
  rated : ∃ priority : Int, get row.payload "priority" = .int priority ∧
    Acceptable row.semanticTopic priority
  governance : ∃ entries, get row.payload "memory_governance" = .dict entries ∧
    Stamped row.semanticTopic entries ∧ (get entries "lifecycle_state" = .str "committed" ∨
      get entries "lifecycle_state" = .str "retired")

/-- The table holds such memories only, the ids of which were drawn in turn. -/
structure Tidy (python : Library) (rows : List Row) : Prop where
  stored : ∀ row ∈ rows, Stored row
  ids : rows.map (·.memoryId) = (List.range rows.length).map (python.newId "memory")

theorem textOr_str {python : Conversions} {text : String} (default : String) (named : text ≠ "") :
    python.textOr default (.str text) = text := by
  rw [Conversions.textOr, orElse_truthy _ (by simpa using named)]
  rfl

theorem mapM_exists {First Second : Type} {takes : First → Prop} (gives : Second → Prop)
    {run : First → Except String Second} {items : List First}
    (each : ∀ item, takes item → ∃ result, run item = .ok result ∧ gives result)
    (all : ∀ item ∈ items, takes item) :
    ∃ results, items.mapM run = .ok results ∧ ∀ result ∈ results, gives result := by
  induction items with
  | nil => exact ⟨[], rfl, by simp⟩
  | cons item items ih =>
      obtain ⟨here, later⟩ := List.forall_mem_cons.mp all
      obtain ⟨result, ran, given⟩ := each item here
      obtain ⟨results, rest, allGiven⟩ := ih later
      refine ⟨result :: results, ?_, List.forall_mem_cons.mpr ⟨given, allGiven⟩⟩
      rw [List.mapM_cons, ran, rest]
      rfl

section Stages

variable {python : Library} {semanticTopic : String} {priority : Int}

theorem textsOf_str (texts : List String) : textsOf (texts.map .str) = .ok texts := by
  induction texts with
  | nil => rfl
  | cons text texts ih =>
      rw [textsOf] at ih
      rw [textsOf, List.map_cons, List.mapM_cons, ih]
      rfl

theorem governedCandidate_proposed {confidence : Value} (semanticTopic : String)
    (rated : candidateConfidence python priority = .ok confidence) (source : String)
    (eventIds : List String) : ∃ candidate,
    governedCandidate python semanticTopic source eventIds priority [] (some "local_sqlite")
        none none = .ok candidate ∧
      ∃ entries, Proposed semanticTopic priority candidate entries := by
  rw [governedCandidate, candidateDedupeKey, textsOf_str, rated]
  refine ⟨_, rfl, _, rfl, ⟨_, rfl⟩, rfl, rfl, ⟨_, ?_, rfl⟩, ⟨_, rfl⟩⟩
  intro empty
  have letters := congrArg String.toList empty
  simp at letters

structure Founded (semanticTopic : String) (priority : Int) (candidate entries : Dict) : Prop
    extends Proposed semanticTopic priority candidate entries where
  refs : ∃ refs, get candidate "source_fact_refs" = .list refs
  facts : ∃ refs, get entries "source_fact_refs" = .list refs

theorem addSourceFacts_founded (python : Library) (sourceFactRefs : List String)
    {candidate entries : Dict} (proposed : Proposed semanticTopic priority candidate entries) :
    ∃ founded, addSourceFacts python sourceFactRefs candidate = .ok founded ∧
      ∃ entries, Founded semanticTopic priority founded entries := by
  have governs : get (insert candidate "source_fact_refs"
      (.list (sourceFactRefs.map .str))) "memory_governance" = .dict entries := by
    rw [get_insert_ne (by decide), proposed.governance]
  have kept {value other : Value} {key : String}
      (apart : key ≠ "source_fact_refs" ∧ key ≠ "memory_governance") :
      get (insert (insert candidate "source_fact_refs" value) "memory_governance" other) key =
        get candidate key := by
    rw [get_insert_ne apart.2, get_insert_ne apart.1]
  have carried {value other : Value} {key : String}
      (apart : key ≠ "source_fact_refs" ∧ key ≠ "source_fact_ref_count") :
      get (insert (insert entries "source_fact_refs" value) "source_fact_ref_count" other) key =
        get entries key := by
    rw [get_insert_ne apart.2, get_insert_ne apart.1]
  obtain ⟨key, named, keyed⟩ := proposed.key
  rw [addSourceFacts, governs, dictOr_dict]
  refine ⟨_, rfl, _, ⟨?_, ?_, ?_, get_insert_self, ⟨key, named, ?_⟩, ?_⟩,
    ⟨sourceFactRefs.map .str, ?_⟩, ⟨sourceFactRefs.map .str, ?_⟩⟩
  · exact (kept (by decide)).trans proposed.topic
  · rw [kept (by decide)]
    exact proposed.eventIds
  · exact (kept (by decide)).trans proposed.rated
  · exact (carried (by decide)).trans keyed
  · rw [carried (by decide)]
    exact proposed.history
  · rw [get_insert_ne (by decide), get_insert_self]
  · rw [get_insert_ne (by decide), get_insert_self]

theorem firstKey_str {key : String} (named : key ≠ "") {second : Value}
    {third : Except String String} : firstKey python (.str key) second third = .ok key := by
  rw [firstKey, orElse_truthy _ (by simpa using named), if_pos (by simpa using named)]
  rfl

theorem orElse_list {left right : Value} (first : ∃ items, left = .list items)
    (second : ∃ items, right = .list items) : ∃ items, left.orElse right = .list items := by
  obtain ⟨items, rfl⟩ := first
  cases items with
  | nil => exact second
  | cons item items => exact ⟨item :: items, rfl⟩

/-- The decision on a candidate: accepted, or rejected. -/
theorem decision_cases (semanticTopic : String) (priority : Int) :
    (decision (retentionPolicyForTopic semanticTopic).1 priority).1 = "accepted" ∧
        Acceptable semanticTopic priority ∨
      (decision (retentionPolicyForTopic semanticTopic).1 priority).1 = "rejected" := by
  rw [decision]
  split_ifs with telemetry low
  · exact .inr rfl
  · exact .inr rfl
  · exact .inl ⟨rfl, telemetry, Int.not_lt.mp low⟩

theorem screenCandidate_screened {confidence : Value} {expiry : Nat → Timestamp}
    (clock : ∀ days, python.utcAfterDays days = (expiry days).text)
    (rated : candidateConfidence python priority = .ok confidence) (named : semanticTopic ≠ "")
    {candidate entries : Dict} (founded : Founded semanticTopic priority candidate entries) :
    ∃ screened, screenCandidate python candidate = .ok screened ∧
      ∃ entries, Screened semanticTopic priority screened entries := by
  -- what the screening reads of the candidate, in the order in which it reads it
  obtain ⟨key, keyed, keyRead⟩ := founded.key
  obtain ⟨ids, idsRead⟩ := founded.eventIds
  obtain ⟨refs, refsRead⟩ := orElse_list founded.facts founded.refs
  obtain ⟨history, historyRead⟩ := orElse_list founded.history ⟨[.str "proposed"], rfl⟩
  have topicRead : python.textOr "unknown" (.str semanticTopic) = semanticTopic :=
    textOr_str "unknown" named
  have priorityRead : python.intOrZero (.int priority) = .ok priority := by
    rw [Conversions.intOrZero, Value.orElse]
    split
    · rfl
    next zero =>
      have zeroed : priority = 0 := by simpa [Value.truthy] using zero
      rw [zeroed]
      rfl
  rw [screenCandidate, founded.governance, dictOr_dict]
  dsimp only [bind, Except.bind]
  rw [founded.topic, topicRead, idsRead, listOr_list]
  dsimp only
  rw [founded.rated, priorityRead]
  dsimp only
  rw [keyRead, firstKey_str keyed]
  dsimp only
  rw [refsRead, listOr_list]
  dsimp only
  rw [historyRead, Value.toList]
  dsimp only
  rw [rated]
  -- the decision stays open; what it writes is read back the same either way
  have outcome := decision_cases semanticTopic priority
  generalize decision (retentionPolicyForTopic semanticTopic).1 priority = decided at outcome ⊢
  obtain ⟨state, reason⟩ := decided
  dsimp only at outcome ⊢
  have read {changes : Dict} {name : String} {stamp value : Value}
      (once : (changes.map Prod.fst).Nodup) (member : (name, value) ∈ changes)
      (apart : name ≠ "accepted_at" ∧ name ≠ "rejected_at") :
      get (PyValue.insert (update entries changes)
        (if state = "accepted" then "accepted_at" else "rejected_at") stamp) name = value := by
    refine (get_insert_ne ?_).trans (get_update_of_mem once member)
    split
    · exact apart.1
    · exact apart.2
  refine ⟨_, rfl, _, ⟨?_, ?_, ?_, get_update_of_mem (by simp) (List.mem_of_getLast? rfl), ?_, ?_⟩,
    ?_, ?_, ?_, ?_⟩
  · rw [get_update_ne (by simp), founded.topic]
  · exact ⟨ids, by rw [get_update_ne (by simp), idsRead]⟩
  · rw [get_update_ne (by simp), founded.rated]
  · exact ⟨key, keyed, read (by simp) (by simp) (by decide)⟩
  · exact ⟨_, read (by simp) (List.mem_of_getLast? rfl) (by decide)⟩
  · exact read (by simp) (by simp) (by decide)
  · refine ⟨expiry (retentionPolicyForTopic semanticTopic).2, ?_⟩
    rw [← clock]
    exact read (by simp) (by simp) (by decide)
  · exact ⟨refs, read (by simp) (by simp) (by decide)⟩
  · rcases outcome with ⟨rfl, acceptable⟩ | rfl
    · refine .inl ⟨?_, ?_, acceptable⟩
      · exact read (by simp) (by simp) (by decide)
      · exact read (by simp) (by simp) (by decide)
    · refine .inr ⟨?_, ?_⟩
      · exact read (by simp) (by simp) (by decide)
      · exact read (by simp) (by simp) (by decide)

def Candidate (frame : PerceptionFrame) (candidate : Dict) : Prop :=
  ∃ semanticTopic entries, semanticTopic ≠ "" ∧
    Screened semanticTopic frame.highestPriority candidate entries

theorem screenedCandidates_ok {confidence : Value} {expiry : Nat → Timestamp}
    (clock : ∀ days, python.utcAfterDays days = (expiry days).text) {frame : PerceptionFrame}
    (rated : candidateConfidence python frame.highestPriority = .ok confidence)
    (sourceFactRefs : List String) : ∃ candidates,
    screenedCandidates python frame sourceFactRefs = .ok candidates ∧
      ∀ candidate ∈ candidates, Candidate frame candidate := by
  obtain ⟨proposed, proposes, allProposed⟩ := mapM_exists
    (fun candidate => ∃ topic entries, topic ≠ "" ∧
      Proposed topic frame.highestPriority candidate entries)
    (fun topic named => by
      obtain ⟨candidate, made, entries, proposed⟩ := governedCandidate_proposed
        topic rated "local_candidate_backed_memory" frame.eventIds
      exact ⟨candidate, made, topic, entries, named, proposed⟩)
    frame.named
  obtain ⟨founded, founds, allFounded⟩ := mapM_exists
    (fun candidate => ∃ topic entries, topic ≠ "" ∧
      Founded topic frame.highestPriority candidate entries)
    (fun candidate ⟨topic, _, named, proposed⟩ => by
      obtain ⟨founded, made, entries, holds⟩ :=
        addSourceFacts_founded python sourceFactRefs proposed
      exact ⟨founded, made, topic, entries, named, holds⟩)
    allProposed
  obtain ⟨screened, screens, allScreened⟩ := mapM_exists (Candidate frame)
    (fun candidate ⟨topic, _, named, founded⟩ => by
      obtain ⟨screened, made, entries, holds⟩ :=
        screenCandidate_screened clock rated named founded
      exact ⟨screened, made, topic, entries, named, holds⟩)
    allFounded
  refine ⟨screened, ?_, allScreened⟩
  rw [screenedCandidates, proposeCandidates, proposes]
  dsimp only [bind, Except.bind]
  rw [founds]
  exact screens

theorem screenedCandidates_cases (python : Library) {expiry : Nat → Timestamp}
    (clock : ∀ days, python.utcAfterDays days = (expiry days).text) (frame : PerceptionFrame)
    (sourceFactRefs : List String) :
    (∃ candidates, screenedCandidates python frame sourceFactRefs = .ok candidates ∧
        ∀ candidate ∈ candidates, Candidate frame candidate) ∨
      ∃ raised, candidateConfidence python frame.highestPriority = .error raised ∧
        screenedCandidates python frame sourceFactRefs = .error raised := by
  cases rated : candidateConfidence python frame.highestPriority with
  | ok confidence => exact .inl (screenedCandidates_ok clock rated sourceFactRefs)
  | error raised =>
      rw [screenedCandidates, proposeCandidates]
      cases frame.topics with
      | nil => exact .inl ⟨[], rfl, by simp⟩
      | cons topic topics =>
          refine .inr ⟨raised, rfl, ?_⟩
          rw [List.mapM_cons, governedCandidate, candidateDedupeKey, textsOf_str, rated]
          rfl

theorem selected_screened (python : Library) {candidate entries : Dict}
    (ready : Screened semanticTopic priority candidate entries) :
    selected python candidate = .ok none ∨
      Acceptable semanticTopic priority ∧
        ∃ key, selected python candidate = .ok (some (key, candidate)) := by
  have governs : python.dictOr (get candidate "memory_governance") = .ok entries := by
    rw [ready.governance, dictOr_dict]
  have taken {state : String} (shown : get entries "lifecycle_state" = .str state)
      (past : state ≠ "" ∧ state ≠ "proposed") : screened python candidate = .ok candidate := by
    rw [screened, governs]
    dsimp only [bind, Except.bind]
    rw [shown, Conversions.textOrEmpty, textOr_str "" past.1, if_neg (not_or.mpr past)]
    rfl
  have eligible : candidateCommitEligible python candidate =
      .ok ((get entries "commit_eligible").truthy ||
        python.textOrEmpty (get entries "lifecycle_state") = "accepted") := by
    rw [candidateCommitEligible, governs]
    rfl
  rcases ready.decided with ⟨state, flag, acceptable⟩ | ⟨state, flag⟩
  · obtain ⟨key, named, keyed⟩ := ready.key
    have keyRead : dedupeKey python candidate = .ok key := by
      rw [dedupeKey, governs]
      dsimp only [bind, Except.bind]
      rw [keyed, firstKey_str named]
    have able : candidateCommitEligible python candidate = .ok true := by
      rw [eligible, flag]
      rfl
    refine .inr ⟨acceptable, key, ?_⟩
    rw [selected, taken state (by decide)]
    dsimp only [bind, Except.bind]
    rw [able]
    dsimp only
    rw [if_pos rfl, keyRead]
    rfl
  · refine .inl ?_
    rw [selected, taken state (by decide)]
    dsimp only [bind, Except.bind]
    rw [eligible, flag, state]
    rfl

end Stages

section Commit

variable {python : Library} {semanticTopic : String} {priority : Int} (executionSpanId : String)

theorem Tidy.distinct {rows : List Row} (tidy : Tidy python rows)
    (fresh : Function.Injective (python.newId "memory")) : (rows.map (·.memoryId)).Nodup := by
  rw [tidy.ids]
  exact List.nodup_range.map fresh

/-- A commit stores an accepted candidate. -/
theorem commitOne_tidy (moment : Moment) {state : Local} (tidy : Tidy python state.rows)
    {candidate entries : Dict} (named : semanticTopic ≠ "")
    (ready : Screened semanticTopic priority candidate entries)
    (acceptable : Acceptable semanticTopic priority) : ∃ next,
    state.commitOne (moment.library python) executionSpanId candidate = (next, .finished) ∧
      Tidy python next.rows := by
  obtain ⟨history, recorded⟩ := ready.history
  obtain ⟨payload, committed, governs, others⟩ : ∃ payload,
      committedMemoryPayload (moment.library python) "local_sqlite" "auto_commit_local_sqlite"
          none none candidate = .ok payload ∧
        (∃ marked, get payload "memory_governance" = .dict marked ∧
          Stamped semanticTopic marked ∧ get marked "lifecycle_state" = .str "committed") ∧
        ∀ key ≠ "memory_governance", get payload key = get candidate key := by
    rw [committedMemoryPayload, ready.governance, dictOr_dict]
    dsimp only [bind, Except.bind]
    rw [recorded, listOr_list]
    -- without a sidecar there is nothing to note
    have silent (payload : Dict) : update payload (sidecarNotes none none) = payload := rfl
    dsimp only
    rw [silent, silent]
    refine ⟨_, rfl, ⟨_, get_insert_self, ⟨?_, ?_, ?_, ?_⟩, ?_⟩,
      fun key apart => get_insert_ne apart⟩
    · exact (get_update_ne (by simp)).trans ready.retention
    · obtain ⟨time, expires⟩ := ready.expires
      exact ⟨time, (get_update_ne (by simp)).trans expires⟩
    · exact ⟨_, get_update_of_mem (by simp) (List.mem_of_getLast? rfl)⟩
    · obtain ⟨refs, founded⟩ := ready.facts
      exact ⟨refs, (get_update_ne (by simp)).trans founded⟩
    · exact get_update_of_mem (by simp) (by simp)
  obtain ⟨marked, marks, stamped, state_eq⟩ := governs
  have titled : (moment.library python).textOr "unknown" (get candidate "semantic_topic") =
      semanticTopic := by
    rw [ready.topic]
    exact textOr_str "unknown" named
  refine ⟨_, by rw [Local.commitOne, committed], ?_, ?_⟩
  · intro row member
    rcases List.mem_append.mp member with old | new
    · exact tidy.stored row old
    · rw [List.mem_singleton.mp new, titled]
      obtain ⟨ids, listed⟩ := ready.eventIds
      exact ⟨⟨ids, (others _ (by decide)).trans listed⟩,
        ⟨priority, (others _ (by decide)).trans ready.rated, acceptable⟩,
        ⟨marked, marks, stamped, .inl state_eq⟩⟩
  · rw [Local.persistLongTermMemory, List.map_append, tidy.ids, List.length_append,
      List.length_singleton, List.range_succ, List.map_append]
    rfl

theorem loop_keeps {State : Type} {visit : State → Dict → State × Ending} (holds : State → Prop)
    {candidates : List Dict} (each : ∀ candidate ∈ candidates,
      selected python candidate = .ok none ∨
        ∃ key payload, selected python candidate = .ok (some (key, payload)) ∧
          ∀ state, holds state → ∃ next, visit state payload = (next, .finished) ∧ holds next)
    (seen : List String) {state : State} (start : holds state) :
    ∃ last, loop python visit candidates seen state = (last, .finished) ∧ holds last := by
  induction candidates generalizing seen state with
  | nil => exact ⟨state, rfl, start⟩
  | cons candidate rest ih =>
      obtain ⟨here, later⟩ := List.forall_mem_cons.mp each
      rw [loop, unvisited]
      rcases here with skipped | ⟨key, payload, chosen, kept⟩
      · rw [skipped]
        exact ih later seen start
      · rw [chosen]
        by_cases known : seen.contains key
        · have passed : ((some (key, payload)).filter fun found => !seen.contains found.1) =
              none := by simpa using known
          dsimp only [bind, Except.bind, pure, Except.pure]
          rw [passed]
          exact ih later seen start
        · have visited : ((some (key, payload)).filter fun found => !seen.contains found.1) =
              some (key, payload) := by simpa using known
          obtain ⟨next, turn, holds⟩ := kept state start
          dsimp only [bind, Except.bind, pure, Except.pure]
          rw [visited]
          dsimp only
          rw [turn]
          exact ih later (key :: seen) holds

theorem commitCandidates_tidy (moment : Moment) {rows : List Row} (tidy : Tidy python rows)
    {frame : PerceptionFrame} {candidates : List Dict}
    (all : ∀ candidate ∈ candidates, Candidate frame candidate) : ∃ store,
    Local.commitCandidates (moment.library python) executionSpanId rows candidates =
        (store, .finished) ∧ Tidy python store.rows := by
  apply loop_keeps (fun state : Local => Tidy python state.rows) _ [] tidy
  intro candidate member
  obtain ⟨semanticTopic, entries, named, ready⟩ := all candidate member
  rcases selected_screened (moment.library python) ready with
    skipped | ⟨acceptable, key, chosen⟩
  · exact .inl skipped
  · exact .inr ⟨key, candidate, chosen, fun state tidy =>
      commitOne_tidy executionSpanId moment tidy named ready acceptable⟩

end Commit

section Retirement

variable {python : Library} {moment : Moment}

theorem Stored.formed {row : Row} (stored : Stored row) : Formed (moment.library python) row := by
  obtain ⟨entries, governs, stamped, _⟩ := stored.governance
  have reads : MemoryRetention.governance (moment.library python) row = .ok entries := by
    rw [MemoryRetention.governance, governs, dictOr_dict]
  have read (key : String) : governed (moment.library python) row key = get entries key := by
    rw [governed, reads]
    rfl
  obtain ⟨history, recorded⟩ := stamped.history
  obtain ⟨time, expires⟩ := stamped.expires
  refine ⟨⟨entries, reads⟩, ⟨history, ?_⟩, .inr ⟨time, ?_⟩⟩
  · rw [read, recorded, listOr_list]
  · rw [retentionExpiresAt, read, expires, Conversions.textOrEmpty,
      textOr_str "" time.text_ne_empty]

theorem Stored.settle {row : Row} (stored : Stored row) (reference : String) :
    Stored (settle (moment.library python) reference row) := by
  rw [MemoryRetention.settle]
  split
  · obtain ⟨entries, governs, stamped, _⟩ := stored.governance
    have reads : MemoryRetention.governance (moment.library python) row = .ok entries := by
      rw [MemoryRetention.governance, governs, dictOr_dict]
    obtain ⟨ids, listed⟩ := stored.eventIds
    obtain ⟨priority, rated, acceptable⟩ := stored.rated
    refine ⟨⟨ids, ?_⟩, ⟨priority, ?_, acceptable⟩, _, get_insert_self, ⟨?_, ?_, ?_, ?_⟩, .inr ?_⟩
    · exact (get_insert_ne (by decide)).trans listed
    · exact (get_insert_ne (by decide)).trans rated
    · rw [reads]
      exact (get_update_ne (by simp)).trans stamped.retention
    · obtain ⟨time, expires⟩ := stamped.expires
      rw [reads]
      exact ⟨time, (get_update_ne (by simp)).trans expires⟩
    · exact ⟨_, get_update_of_mem (by simp) (List.mem_of_getLast? rfl)⟩
    · obtain ⟨refs, founded⟩ := stamped.facts
      rw [reads]
      exact ⟨refs, (get_update_ne (by simp)).trans founded⟩
    · exact get_update_of_mem (by simp) (by simp)
  · exact stored

/-- A retirement raises nothing, and leaves a tidy table. -/
theorem retire_tidy {rows : List Row} (fresh : Function.Injective (python.newId "memory"))
    (tidy : Tidy python rows) (now : String) (referenceTime : Option String) : ∃ after ids,
    retireExpiredLongTermMemories (moment.library python) now rows referenceTime =
        .ok (after, ids) ∧ Tidy python after := by
  have distinct := tidy.distinct fresh
  have formed : ∀ memory ∈ scanned rows, Formed (moment.library python) memory :=
    fun memory scan => (tidy.stored memory (mem_of_scanned scan)).formed
  refine ⟨_, _, run_eq formed [], ?_, ?_⟩
  · intro row member
    obtain ⟨old, there, rfl⟩ := List.mem_map.mp member
    rw [foldl_touch (fun memory scan same =>
      (row_of_id distinct there (mem_of_scanned scan) same).symm) (scanned_distinct distinct)]
    split
    · exact (tidy.stored old there).settle _
    · exact tidy.stored old there
  · rw [List.length_map, ← tidy.ids, List.map_map]
    apply List.map_congr_left
    intro row there
    rw [Function.comp, foldl_touch (fun memory scan same =>
      (row_of_id distinct there (mem_of_scanned scan) same).symm) (scanned_distinct distinct)]
    split
    · exact settle_columns.1
    · rfl

end Retirement

section Runs

variable {python : Library} {rows : List Row}

theorem memoryTurn_tidy (tidy : Tidy python rows) (moment : Moment) (executionSpanId : String)
    (frame : PerceptionFrame) (sourceFactRefs : List String) :
    Tidy python (memoryTurn (moment.library python) rows executionSpanId frame
      sourceFactRefs).1 := by
  rw [memoryTurn]
  split
  · exact tidy
  · split
    · exact tidy
    next candidates prepared =>
      obtain ⟨found, known, all⟩ | ⟨raised, _, fails⟩ := screenedCandidates_cases
        (moment.library python) (fun _ => rfl) frame sourceFactRefs
      · cases known.symm.trans prepared
        obtain ⟨store, ran, after⟩ := commitCandidates_tidy executionSpanId moment tidy all
        rw [ran]
        exact after
      · cases fails.symm.trans prepared

theorem Reached.tidy (fresh : Function.Injective (python.newId "memory"))
    (reached : Reached python rows) : Tidy python rows := by
  induction reached with
  | empty => exact ⟨by simp, rfl⟩
  | turn moment executionSpanId events sourceFactRefs _ ih =>
      exact memoryTurn_tidy ih moment executionSpanId (buildFrame events) sourceFactRefs
  | retire moment referenceTime _ ran ih =>
      obtain ⟨_, _, also, after⟩ := retire_tidy fresh ih _ referenceTime
      cases also.symm.trans ran
      exact after

end Runs

section Recall

variable {python : Conversions}

def userInput (row : Row) : Bool := "user.input".toList.isPrefixOf row.semanticTopic.toList

def channelOf (row : Row) : Classification :=
  if userInput row then .affectiveLongTerm else .rationalOperational

/-- The channels show the memories found, those of user inputs in the one and all others in
the other, and leave none out. -/
structure Recalls (found : List Row) (context : RecallContext) : Prop where
  all : context.lookupCount = found.length ∧ context.filteredOutCategories = []
  affective : context.affectiveRecall.selectedCount = (found.filter userInput).length ∧
    context.affectiveRecall.items.map (·.memoryId) =
      ((found.filter userInput).map (·.memoryId)).take 5
  rational : context.rationalRecall.selectedCount = (found.filter (!userInput ·)).length ∧
    context.rationalRecall.items.map (·.memoryId) =
      ((found.filter (!userInput ·)).map (·.memoryId)).take 5

theorem Stored.readable {row : Row} (stored : Stored row) : Readable row := by
  obtain ⟨entries, governs, _⟩ := stored.governance
  rw [Readable, governanceOf, governs]
  cases entries with
  | nil => exact ⟨_, rfl⟩
  | cons entry rest => exact ⟨_, rfl⟩

theorem Stored.committed {row : Row} (stored : Stored row) (alive : live row = true) :
    ∃ entries, get row.payload "memory_governance" = .dict entries ∧
      Stamped row.semanticTopic entries ∧ get entries "lifecycle_state" = .str "committed" := by
  obtain ⟨entries, governs, stamped, state | state⟩ := stored.governance
  · exact ⟨entries, governs, stamped, state⟩
  · have some : governanceOf row = .dict entries := by
      rw [governanceOf, governs, orElse_truthy]
      cases entries with
      | nil => cases state
      | cons entry rest => rfl
    rw [live, some] at alive
    dsimp only at alive
    rw [state] at alive
    cases alive

theorem retention_cases {semanticTopic : String}
    (retained : (retentionPolicyForTopic semanticTopic).1 ≠ "ephemeral_telemetry") :
    "user.input".toList.isPrefixOf semanticTopic.toList = true ∧
        (retentionPolicyForTopic semanticTopic).1 = "user_context" ∨
      "user.input".toList.isPrefixOf semanticTopic.toList = false ∧
        ((retentionPolicyForTopic semanticTopic).1 = "operational_lesson" ∨
          (retentionPolicyForTopic semanticTopic).1 = "operational_context") := by
  rw [retentionPolicyForTopic] at retained ⊢
  split_ifs at retained ⊢ with user unit time
  · exact .inl ⟨user, rfl⟩
  · exact .inr ⟨Bool.eq_false_iff.mpr user, .inl rfl⟩
  · exact absurd rfl retained
  · exact .inr ⟨Bool.eq_false_iff.mpr user, .inr rfl⟩

theorem classify_stored {row : Row} (stored : Stored row) (alive : live row = true) :
    classifyMemoryRecallItem python (itemOf row) = .ok (channelOf row) := by
  obtain ⟨entries, governs, stamped, state⟩ := stored.committed alive
  obtain ⟨_, _, retained, _⟩ := stored.rated
  have some : ¬ entries.isEmpty := by
    cases entries with
    | nil => cases state
    | cons entry rest => exact Bool.false_ne_true
  have payload : readDict (get (itemOf row) "payload") = .ok row.payload := readDict_dict _
  have shown {text : String} (named : text ≠ "") : python.textOrEmpty (.str text) = text :=
    textOr_str "" named
  rw [classifyMemoryRecallItem, payload]
  dsimp only [bind, Except.bind]
  rw [governs, readDict_dict]
  dsimp only [pure, Except.pure]
  rw [classification, state, stamped.retention, shown (by decide)]
  rw [if_neg some, if_neg (not_not.mpr rfl), channelOf, userInput]
  rcases retention_cases retained with ⟨user, kept⟩ | ⟨other, kept | kept⟩
  · rw [user, kept, shown (by decide)]
    rfl
  · rw [other, kept, shown (by decide)]
    rfl
  · rw [other, kept, shown (by decide)]
    rfl

theorem summarize_stored (python : Conversions) {row : Row} (stored : Stored row) : ∃ summary,
    summarizeMemoryItem python (itemOf row) = .ok summary ∧ summary.memoryId = row.memoryId := by
  obtain ⟨entries, governs, stamped, _⟩ := stored.governance
  obtain ⟨ids, listed⟩ := stored.eventIds
  obtain ⟨refs, founded⟩ := stamped.facts
  obtain ⟨eventIds, idsRead⟩ := orElse_list ⟨ids, rfl⟩ ⟨[], rfl⟩
  obtain ⟨sourceFactRefs, refsRead⟩ := orElse_list ⟨refs, rfl⟩ ⟨[], rfl⟩
  have payload : readDict (get (itemOf row) "payload") = .ok row.payload := readDict_dict _
  have absent : get (itemOf row) "event_ids" = .none := rfl
  rw [summarizeMemoryItem, payload]
  dsimp only [bind, Except.bind]
  rw [governs, readDict_dict]
  dsimp only
  rw [listed, absent, founded, firstTrue_cons, firstTrue_cons, firstTrue_nil,
    orElse_falsy _ truthy_none, idsRead, refsRead]
  refine ⟨_, rfl, ?_⟩
  -- an empty id is not true, and shows as the empty text in the end
  have identity : get (itemOf row) "memory_id" = .str row.memoryId := rfl
  have other : get (itemOf row) "id" = .none := rfl
  rw [identity, other, firstTrue_cons, firstTrue_cons, firstTrue_nil, orElse_falsy _ truthy_none]
  by_cases named : row.memoryId = ""
  · rw [named]
    rfl
  · rw [orElse_truthy _ (by simpa using named)]
    rfl

theorem summaries_ids {found : List Row} {summaries : List MemorySummary}
    (stored : ∀ row ∈ found, Stored row)
    (read : (found.map itemOf).mapM (summarizeMemoryItem python) = .ok summaries) :
    summaries.map (·.memoryId) = found.map (·.memoryId) := by
  induction found generalizing summaries with
  | nil =>
      cases read
      rfl
  | cons row rest ih =>
      obtain ⟨here, later⟩ := List.forall_mem_cons.mp stored
      obtain ⟨summary, summarized, named⟩ := summarize_stored python here
      rw [List.map_cons, List.mapM_cons] at read
      obtain ⟨other, again, read⟩ := bind_eq_ok.mp read
      cases summarized.symm.trans again
      obtain ⟨others, ran, read⟩ := bind_eq_ok.mp read
      cases read
      rw [List.map_cons, List.map_cons, named, ih later ran]

theorem recall_loop (python : Conversions) {found : List Row} (stored : ∀ row ∈ found, Stored row)
    (alive : ∀ row ∈ found, live row = true) (before : Sorted) :
    ∃ after, (found.map itemOf).foldlM (recallItem python) before = .ok after := by
  induction found generalizing before with
  | nil => exact ⟨before, rfl⟩
  | cons row rest ih =>
      obtain ⟨here, later⟩ := List.forall_mem_cons.mp stored
      obtain ⟨lives, others⟩ := List.forall_mem_cons.mp alive
      obtain ⟨summary, summarized, _⟩ := summarize_stored python here
      rw [List.map_cons, List.foldlM_cons, recallItem, classify_stored here lives, summarized]
      exact ih later others _

theorem ofClass_found {found : List Row} (stored : ∀ row ∈ found, Stored row)
    (alive : ∀ row ∈ found, live row = true) (expected : Classification) :
    ofClass python expected (found.map itemOf) =
      (found.filter fun row => channelOf row = expected).map itemOf := by
  rw [ofClass, List.filter_map]
  apply congrArg (List.map itemOf)
  apply List.filter_congr
  intro row member
  rw [Function.comp, classify_stored (stored row member) (alive row member)]
  simp [Except.toOption]

/-- What a channel shows of the memories of its class. -/
theorem channel_found {found : List Row} (stored : ∀ row ∈ found, Stored row)
    (alive : ∀ row ∈ found, live row = true) {expected : Classification} {mine : Row → Bool}
    (own : ∀ row, mine row = decide (channelOf row = expected)) {summaries : List MemorySummary}
    (read : (ofClass python expected (found.map itemOf)).mapM (summarizeMemoryItem python) =
      .ok summaries) (policyMode : String) (categories : List (String × Nat)) :
    (channel policyMode summaries categories).selectedCount = (found.filter mine).length ∧
      (channel policyMode summaries categories).items.map (·.memoryId) =
        ((found.filter mine).map (·.memoryId)).take 5 := by
  rw [ofClass_found stored alive, ← funext own] at read
  have ids := summaries_ids (fun row member => stored row (List.mem_of_mem_filter member)) read
  constructor
  · have lengths := congrArg List.length ids
    rw [List.length_map, List.length_map] at lengths
    exact lengths
  · rw [← ids, channel, List.map_take]

theorem tallies_none {categories : List (String × Nat)}
    (tallies : Tallies categories fun _ => 0) : categories = [] := by
  cases categories with
  | nil => rfl
  | cons entry rest =>
      have counted := tallies.counted entry.1
      rw [List.lookup_cons, beq_self_eq_true, if_pos rfl] at counted
      cases counted

/-- Memories of the table that are live are all recalled. -/
theorem recalled (python : Conversions) {found : List Row} (stored : ∀ row ∈ found, Stored row)
    (alive : ∀ row ∈ found, live row = true) (memoryRuntime : Dict) : ∃ context,
    buildMemoryRecallContext python (found.map itemOf) memoryRuntime = .ok context ∧
      Recalls found context := by
  obtain ⟨sorted, ran⟩ := recall_loop python stored alive ⟨[], [], []⟩
  have sorts := sorts_run ran
  obtain ⟨affective, affectiveRead, affectiveItems⟩ := sorts.affective
  obtain ⟨rational, rationalRead, rationalItems⟩ := sorts.rational
  rw [List.nil_append] at affectiveItems rationalItems
  refine ⟨_, by rw [buildMemoryRecallContext, ran]; rfl, ⟨List.length_map _, ?_⟩, ?_, ?_⟩
  · apply tallies_none
    have none : Tallies [] fun _ => 0 := ⟨List.nodup_nil, fun _ => rfl⟩
    refine cast (congrArg _ (funext fun category => ?_)) (sorts.leftOut _ none)
    rw [ofClass_found stored alive, Nat.zero_add, List.length_map, List.length_eq_zero_iff,
      List.filter_eq_nil_iff]
    intro row _
    rw [channelOf]
    split
    · simp
    · simp
  · rw [affectiveItems]
    apply channel_found stored alive _ affectiveRead
    intro row
    rw [channelOf]
    cases userInput row with
    | false => rfl
    | true => rfl
  · rw [rationalItems]
    apply channel_found stored alive _ rationalRead
    intro row
    rw [channelOf]
    cases userInput row with
    | false => rfl
    | true => rfl

end Recall

section Recalling

variable {python : Library} {rows : List Row}

/-- A turn raises nothing but what the rating of its priority raises, and recalls every memory
that it finds: each is a live one of its topics that once passed the screening. -/
def RecallsAll (python : Library) (rows : List Row) (moment : Moment) (executionSpanId : String)
    (frame : PerceptionFrame) (sourceFactRefs : List String) : Prop :=
  ∃ found, lookup rows frame.topics = .ok found ∧
    (∀ row ∈ found, row ∈ rows ∧ row.semanticTopic ∈ frame.topics ∧ live row = true ∧
      ∃ priority : Int, get row.payload "priority" = .int priority ∧
        Acceptable row.semanticTopic priority) ∧
    ((∃ raised, candidateConfidence python frame.highestPriority = .error raised ∧
        memoryTurn (moment.library python) rows executionSpanId frame sourceFactRefs =
          (rows, .error raised)) ∨
      ∃ after context,
        memoryTurn (moment.library python) rows executionSpanId frame sourceFactRefs =
          (after, .ok context) ∧ Recalls found context)

/-- Whatever turns and retirements came before, a turn recalls all that it finds. -/
theorem turn_recalls (fresh : Function.Injective (python.newId "memory"))
    (reached : Reached python rows) (moment : Moment) (executionSpanId : String)
    (events : List PerceptionEvent) (sourceFactRefs : List String) :
    RecallsAll python rows moment executionSpanId (buildFrame events) sourceFactRefs := by
  have tidy := reached.tidy fresh
  generalize buildFrame events = frame
  rw [RecallsAll]
  have pages : ∀ topic ∈ frame.topics, ∀ row ∈ page rows topic, row ∈ rows :=
    fun topic _ row inside => (mem_newest_topic.mp (List.mem_of_mem_take inside)).1
  have looks : lookup rows frame.topics =
      .ok (frame.topics.flatMap fun topic => (page rows topic).filter live) :=
    lookup_run.mpr ⟨fun topic member row inside =>
      (tidy.stored row (pages topic member row inside)).readable, rfl⟩
  have origin : ∀ row ∈ frame.topics.flatMap fun topic => (page rows topic).filter live,
      row ∈ rows ∧ row.semanticTopic ∈ frame.topics ∧ live row = true := by
    intro row member
    obtain ⟨topic, listed, inside⟩ := List.mem_flatMap.mp member
    obtain ⟨inside, alive⟩ := List.mem_filter.mp inside
    exact ⟨pages topic listed row inside, page_topic inside ▸ listed, alive⟩
  refine ⟨_, looks, fun row member => ?_, ?_⟩
  · obtain ⟨inside, listed, alive⟩ := origin row member
    exact ⟨inside, listed, alive, (tidy.stored row inside).rated⟩
  · rw [memoryTurn, looks]
    dsimp only
    obtain ⟨candidates, prepared, all⟩ | ⟨raised, rated, fails⟩ :=
      screenedCandidates_cases (moment.library python) (fun _ => rfl) frame sourceFactRefs
    · right
      obtain ⟨store, ran, _⟩ := commitCandidates_tidy executionSpanId moment tidy all
      obtain ⟨context, built, recalls⟩ := recalled python.toConversions
        (fun row member => tidy.stored row (origin row member).1)
        (fun row member => (origin row member).2.2) runtimeMetadata
      refine ⟨store.rows, context, ?_, recalls⟩
      rw [prepared]
      dsimp only
      rw [ran]
      exact Prod.ext rfl built
    · left
      refine ⟨raised, rated, ?_⟩
      rw [fails]

/-- A message of a user, and the noon it arrives at. -/
def chatMessage : PerceptionEvent := ⟨"evt-1", "chat", some "user.input.chat", 50⟩

def atNoon : Moment := ⟨fun _ => noon 0 (by omega)⟩

/-- The table after the first turn. -/
def firstTable : List Row :=
  (memoryTurn (atNoon.library SidecarMemory.plainLibrary) [] "span-1" (buildFrame [chatMessage])
    []).1

theorem plainIds_injective : Function.Injective (SidecarMemory.plainLibrary.newId "memory") := by
  intro first second same
  have letters := congrArg String.toList same
  simp only [SidecarMemory.plainLibrary, String.toList_append,
    List.append_cancel_left_eq] at letters
  have digits : Nat.toDigits 10 first = Nat.toDigits 10 second :=
    String.ofList_injective (String.toList_injective letters)
  have value := @Nat.ofDigitChars_ten_toDigits first
  rw [digits, Nat.ofDigitChars_ten_toDigits] at value
  exact value.symm

theorem secondTurn_recalls : firstTable.length = 1 ∧
    RecallsAll SidecarMemory.plainLibrary firstTable atNoon "span-2" (buildFrame [chatMessage])
      [] :=
  ⟨by decide +kernel, turn_recalls plainIds_injective
    (.turn atNoon "span-1" [chatMessage] [] .empty) atNoon "span-2" [chatMessage] []⟩

end Recalling

end NeuroLink.MemoryTurns
