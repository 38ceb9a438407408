import NeuroLink.CheckedFilter
import NeuroLink.MemoryRetention

/-!
Reading the long-term memories that are still live. The query cuts the newest rows off
at the limit, and only then are the retired ones dropped: newer retired rows use up the
limit.
-/

namespace NeuroLink.MemoryLookup

open PyValue MemoryRetention
open SidecarMemory (Row)

/-! A limit before a filter. -/

section Limit

variable {α : Type} {keep : α → Bool}

theorem filter_split (rows : List α) (limit : Nat) :
    (rows.take limit).filter keep ++ (rows.drop limit).filter keep = rows.filter keep := by
  rw [← List.filter_append, List.take_append_drop]

/-- The filter after the limit keeps what the limit after the filter keeps exactly when
the limit lets through nothing bad or cuts off nothing good. -/
theorem filter_take_iff (rows : List α) (limit : Nat) :
    (rows.take limit).filter keep = (rows.filter keep).take limit ↔
      (∀ row ∈ rows.take limit, keep row = true) ∨
        ∀ row ∈ rows.drop limit, keep row = false := by
  have few : ((rows.take limit).filter keep).length ≤ limit :=
    (List.length_filter_le _ _).trans (List.length_take_le _ _)
  rw [← filter_split rows limit, List.take_append, List.take_of_length_le few,
    List.self_eq_append_right, List.take_eq_nil_iff, List.filter_eq_nil_iff]
  constructor
  · rintro (full | none)
    · left
      apply List.length_filter_eq_length_iff.mp
      have most := List.length_filter_le keep (rows.take limit)
      have cut := List.length_take_le limit rows
      omega
    · exact .inr fun row member => by simpa using none row member
  · rintro (good | none)
    · by_cases short : rows.length ≤ limit
      · right
        simp [List.drop_eq_nil_of_le short]
      · left
        rw [List.filter_eq_self.mpr good, List.length_take]
        omega
    · exact .inr fun row member => by simp [none row member]

end Limit

/-! The rows the store returns. -/

/-- `payload.get("memory_governance") or {}`. -/
def governanceOf (row : Row) : Value :=
  (get row.payload "memory_governance").orElse (.dict [])

def Readable (row : Row) : Prop := ∃ governance, governanceOf row = .dict governance

/-- A memory that is not retired. -/
def live (row : Row) : Bool :=
  match governanceOf row with
  | .dict governance => !(get governance "lifecycle_state").isText "retired"
  | _ => true

def matching (sourceExecutionSpanId semanticTopic : Option String) (row : Row) : Bool :=
  sourceExecutionSpanId.all (row.sourceExecutionSpanId = ·) &&
    semanticTopic.all (row.semanticTopic = ·)

/-- The matching rows, the newest first. -/
def newest (rows : List Row) (sourceExecutionSpanId semanticTopic : Option String) :
    List Row :=
  (rows.filter (matching sourceExecutionSpanId semanticTopic)).mergeSort newestFirst

theorem selectMemories_eq (rows : List Row) (sourceExecutionSpanId semanticTopic : Option String)
    (limit : Nat) :
    selectMemories rows sourceExecutionSpanId semanticTopic limit =
      (newest rows sourceExecutionSpanId semanticTopic).take limit := by
  rw [selectMemories, newest]
  exact if_neg (by omega)

/-- What the loop does with one row. -/
def active (memory : Row) : Except String Bool :=
  match (get memory.payload "memory_governance").orElse (.dict []) with
  | .dict governance => .ok !(get governance "lifecycle_state").isText "retired"
  | _ => .error "AttributeError"

theorem active_readable {row : Row} (readable : Readable row) : active row = .ok (live row) := by
  obtain ⟨governance, reads⟩ := readable
  rw [governanceOf] at reads
  rw [active, live, governanceOf, reads]

theorem active_unreadable {row : Row} (unreadable : ¬ Readable row) :
    active row = .error "AttributeError" := by
  rw [active]
  split
  next governance reads => exact absurd ⟨governance, reads⟩ unreadable
  next => rfl

theorem filterM_readable {memories : List Row} (readable : ∀ row ∈ memories, Readable row) :
    memories.filterM active = .ok (memories.filter live) :=
  CheckedFilter.filterM_ok fun row member => active_readable (readable row member)

theorem filterM_ok_iff {memories kept : List Row} :
    memories.filterM active = .ok kept ↔
      (∀ row ∈ memories, Readable row) ∧ memories.filter live = kept := by
  constructor
  · intro ran
    have readable : ∀ row ∈ memories, Readable row := by
      intro row member
      by_contra unreadable
      obtain ⟨good, tested⟩ := CheckedFilter.tested_of_filterM ran row member
      rw [active_unreadable unreadable] at tested
      cases tested
    rw [filterM_readable readable] at ran
    exact ⟨readable, Except.ok.inj ran⟩
  · rintro ⟨readable, rfl⟩
    exact filterM_readable readable

theorem getLongTermMemories_eq (rows : List Row)
    (sourceExecutionSpanId semanticTopic : Option String) (limit : Nat) :
    getLongTermMemories rows sourceExecutionSpanId semanticTopic false limit =
      ((newest rows sourceExecutionSpanId semanticTopic).take limit).filterM active := by
  rw [getLongTermMemories, selectMemories_eq]
  rfl

/-- Every row that the loop looks at has a readable governance, and the limit either lets
through live rows only or cuts off none of them. -/
structure Unstarved (rows : List Row) (sourceExecutionSpanId semanticTopic : Option String)
    (limit : Nat) : Prop where
  readable : ∀ row ∈ (newest rows sourceExecutionSpanId semanticTopic).take limit, Readable row
  enough : (∀ row ∈ (newest rows sourceExecutionSpanId semanticTopic).take limit,
      live row = true) ∨
    ∀ row ∈ (newest rows sourceExecutionSpanId semanticTopic).drop limit, live row = false

theorem getLongTermMemories_exact_iff (rows : List Row)
    (sourceExecutionSpanId semanticTopic : Option String) (limit : Nat) :
    getLongTermMemories rows sourceExecutionSpanId semanticTopic false limit =
        .ok (((newest rows sourceExecutionSpanId semanticTopic).filter live).take limit) ↔
      Unstarved rows sourceExecutionSpanId semanticTopic limit := by
  rw [getLongTermMemories_eq, filterM_ok_iff, filter_take_iff]
  exact ⟨fun ⟨readable, enough⟩ => ⟨readable, enough⟩,
    fun unstarved => ⟨unstarved.readable, unstarved.enough⟩⟩

/-! The lookup of a frame, five memories for each of its topics. -/

def lookupTopic (rows memoryItems : List Row) (topic : String) : Except String (List Row) := do
  let memories ← getLongTermMemories rows none (some topic) false 5
  return memoryItems ++ memories

/-- `LocalCandidateBackedMemory.lookup`. -/
def lookup (rows : List Row) (topics : List String) : Except String (List Row) :=
  topics.foldlM (lookupTopic rows) []

def page (rows : List Row) (topic : String) : List Row :=
  (newest rows none (some topic)).take 5

theorem mem_newest_topic {rows : List Row} {topic : String} {row : Row} :
    row ∈ newest rows none (some topic) ↔ row ∈ rows ∧ row.semanticTopic = topic := by
  simp [newest, matching, List.mem_mergeSort]

theorem page_topic {rows : List Row} {topic : String} {row : Row}
    (member : row ∈ page rows topic) : row.semanticTopic = topic :=
  (mem_newest_topic.mp (List.mem_of_mem_take member)).2

theorem lookup_run {rows : List Row} {topics : List String} {found items : List Row} :
    topics.foldlM (lookupTopic rows) found = .ok items ↔
      (∀ topic ∈ topics, ∀ row ∈ page rows topic, Readable row) ∧
        items = found ++ topics.flatMap fun topic => (page rows topic).filter live := by
  induction topics generalizing found with
  | nil => simp [pure, Except.pure, eq_comm]
  | cons topic topics ih =>
      have query : getLongTermMemories rows none (some topic) false 5 =
          (page rows topic).filterM active := getLongTermMemories_eq rows none (some topic) 5
      rw [List.foldlM_cons, lookupTopic, query]
      cases ran : (page rows topic).filterM active with
      | error text =>
          have unreadable : ¬ ∀ row ∈ page rows topic, Readable row := by
            intro readable
            rw [filterM_readable readable] at ran
            cases ran
          constructor
          · intro next
            cases next
          · rintro ⟨readable, -⟩
            exact absurd (readable topic List.mem_cons_self) unreadable
      | ok memories =>
          obtain ⟨readable, rfl⟩ := filterM_ok_iff.mp ran
          refine (@ih (found ++ (page rows topic).filter live)).trans ?_
          rw [List.flatMap_cons, List.append_assoc, List.forall_mem_cons]
          exact ⟨fun ⟨later, same⟩ => ⟨⟨readable, later⟩, same⟩,
            fun ⟨⟨_, later⟩, same⟩ => ⟨later, same⟩⟩

/-- The lookup returns a live memory for every topic that has one. -/
def Answers (rows : List Row) (topics : List String) : Prop :=
  ∃ items, lookup rows topics = .ok items ∧
    ∀ topic ∈ topics, (∃ row ∈ rows, row.semanticTopic = topic ∧ live row = true) →
      ∃ row ∈ items, row.semanticTopic = topic ∧ live row = true

/-- Among the five newest memories of every topic that has a live one is a live one. -/
structure Reached (rows : List Row) (topics : List String) : Prop where
  readable : ∀ topic ∈ topics, ∀ row ∈ page rows topic, Readable row
  shown : ∀ topic ∈ topics, (∃ row ∈ rows, row.semanticTopic = topic ∧ live row = true) →
    ∃ row ∈ page rows topic, live row = true

theorem answers_iff (rows : List Row) (topics : List String) :
    Answers rows topics ↔ Reached rows topics := by
  constructor
  · rintro ⟨items, ran, answers⟩
    obtain ⟨readable, rfl⟩ := lookup_run.mp ran
    refine ⟨readable, fun topic member alive => ?_⟩
    obtain ⟨row, inside, same, good⟩ := answers topic member alive
    rw [List.nil_append, List.mem_flatMap] at inside
    obtain ⟨other, -, inside⟩ := inside
    have here := List.mem_of_mem_filter inside
    obtain rfl : other = topic := (page_topic here).symm.trans same
    exact ⟨row, here, good⟩
  · rintro ⟨readable, shown⟩
    refine ⟨_, lookup_run.mpr ⟨readable, rfl⟩, fun topic member alive => ?_⟩
    obtain ⟨row, inside, good⟩ := shown topic member alive
    refine ⟨row, ?_, page_topic inside, good⟩
    rw [List.nil_append, List.mem_flatMap]
    exact ⟨topic, member, List.mem_filter.mpr ⟨inside, good⟩⟩

/-- The query returns the newest live rows, as many as the limit allows, exactly when the
limit starves it of none, and the lookup answers for every topic with a live memory exactly
when one of the five newest of the topic is live. -/
theorem live_memories_iff (rows : List Row)
    (sourceExecutionSpanId semanticTopic : Option String) (limit : Nat)
    (topics : List String) :
    (getLongTermMemories rows sourceExecutionSpanId semanticTopic false limit =
        .ok (((newest rows sourceExecutionSpanId semanticTopic).filter live).take limit) ↔
      Unstarved rows sourceExecutionSpanId semanticTopic limit) ∧
    (Answers rows topics ↔ Reached rows topics) :=
  ⟨getLongTermMemories_exact_iff rows sourceExecutionSpanId semanticTopic limit,
    answers_iff rows topics⟩

def storedRow (memoryId lifecycleState createdAt : String) : Row where
  memoryId := memoryId
  sourceExecutionSpanId := "span-1"
  semanticTopic := "unit.callback"
  payload := [("memory_governance", .dict [("lifecycle_state", .str lifecycleState)])]
  createdAt := createdAt

/-- Five retired memories of May and a committed one of April. -/
def crowdedRows : List Row :=
  [storedRow "memory-6" "retired" "2026-05-10T12:00:06Z",
    storedRow "memory-5" "retired" "2026-05-10T12:00:05Z",
    storedRow "memory-4" "retired" "2026-05-10T12:00:04Z",
    storedRow "memory-3" "retired" "2026-05-10T12:00:03Z",
    storedRow "memory-2" "retired" "2026-05-10T12:00:02Z",
    storedRow "memory-1" "committed" "2026-04-26T12:00:00Z"]

theorem retired_rows_starve :
    ¬ ((∀ limit : Nat, getLongTermMemories crowdedRows none (some "unit.callback") false limit =
          .ok (((newest crowdedRows none (some "unit.callback")).filter live).take limit)) ∧
      Answers crowdedRows ["unit.callback"]) := by
  rintro ⟨-, answers⟩
  have reached := (answers_iff _ _).mp answers
  have sorted : newest crowdedRows none (some "unit.callback") = crowdedRows :=
    List.mergeSort_of_pairwise (by decide +kernel)
  obtain ⟨row, inside, good⟩ := reached.shown "unit.callback" (by simp)
    ⟨storedRow "memory-1" "committed" "2026-04-26T12:00:00Z", by simp [crowdedRows], rfl, rfl⟩
  rw [page, sorted] at inside
  have retired : ∀ row ∈ crowdedRows.take 5, live row = false := by decide +kernel
  exact absurd (retired row inside) (by simp [good])

end NeuroLink.MemoryLookup
