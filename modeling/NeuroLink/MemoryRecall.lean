import NeuroLink.PyValue
import Mathlib.Data.List.Dedup
import Mathlib.Data.List.Nodup
import Mathlib.Data.List.Sort

/-!
What a prompt is told of the memories that were found: which of them it recalls, in which of
its two channels, and how many it leaves out for what reason.
-/

namespace NeuroLink.MemoryRecall

open PyValue

inductive Classification where
  | affectiveLongTerm
  | rationalOperational
  | leftOut (category : String)
  deriving DecidableEq

structure MemorySummary where
  memoryId : String
  semanticTopic : String
  source : String
  sourceExecutionSpanId : String
  createdAt : String
  eventIds : List Value
  priority : Value
  sourceFactRefs : List Value
  retentionClass : String
  lifecycleState : String
  commitBackend : String

structure Sorted where
  affectiveItems : List MemorySummary
  rationalItems : List MemorySummary
  filteredOutCategories : List (String × Nat)

structure Channel where
  policyMode : String
  selectedCount : Nat
  items : List MemorySummary
  sourceRefs : List String
  filteredOutCategories : List (String × Nat)

structure RecallContext where
  schemaVersion : String
  lookupCount : Nat
  backendKind : String
  fallbackBackend : String
  fallbackActive : Bool
  lastLookupStatus : String
  affectiveRecall : Channel
  rationalRecall : Channel
  filteredOutCategories : List (String × Nat)
  runtime : Dict

def memoryRecallPolicySchemaVersion : String := "1.2.5-memory-recall-policy-v1"

/-- `value or {}`, of which a key is read next. -/
def readDict (value : Value) : Except String Dict :=
  match value.orElse (.dict []) with
  | .dict entries => .ok entries
  | _ => .error "AttributeError"

@[simp] theorem readDict_dict (entries : Dict) : readDict (.dict entries) = .ok entries := by
  cases entries with
  | nil => rfl
  | cons entry rest => rfl

variable (python : Conversions)

/-- `text or "unknown"`. -/
def orUnknown (text : String) : String := if text = "" then "unknown" else text

def classification (governance : Dict) : Classification :=
  let lifecycleState := python.textOrEmpty (get governance "lifecycle_state")
  let retentionClass := python.textOrEmpty (get governance "retention_class")
  if governance.isEmpty then .leftOut "ungoverned_memory_result"
  else if lifecycleState ≠ "committed" then .leftOut ("lifecycle_" ++ orUnknown lifecycleState)
  else if retentionClass = "user_context" then .affectiveLongTerm
  else if retentionClass = "operational_lesson" ∨ retentionClass = "operational_context" then
    .rationalOperational
  else .leftOut ("retention_" ++ orUnknown retentionClass)

/-- `_classify_memory_recall_item`. -/
def classifyMemoryRecallItem (item : Dict) : Except String Classification := do
  let payload ← readDict (get item "payload")
  let governance ← readDict (get payload "memory_governance")
  return classification python governance

/-- `_summarize_memory_item`. -/
def summarizeMemoryItem (item : Dict) : Except String MemorySummary := do
  let payload ← readDict (get item "payload")
  let governance ← readDict (get payload "memory_governance")
  let eventIds ←
    (firstTrue [get payload "event_ids", get item "event_ids"] (.list [])).toList
  let sourceFactRefs ← ((get governance "source_fact_refs").orElse (.list [])).toList
  return {
    memoryId := (firstTrue [get item "memory_id", get item "id"] (.str "")).text python.repr
    semanticTopic := (firstTrue [get item "semantic_topic", get payload "semantic_topic",
      get item "topic"] (.str "")).text python.repr
    source := (firstTrue [get item "source", get payload "source"] (.str "")).text python.repr
    sourceExecutionSpanId := python.textOrEmpty (get item "source_execution_span_id")
    createdAt := python.textOrEmpty (get item "created_at")
    eventIds := eventIds.take 10
    priority := (payload.lookup "priority").getD (get item "priority")
    sourceFactRefs := sourceFactRefs.take 10
    retentionClass := python.textOrEmpty (get governance "retention_class")
    lifecycleState := python.textOrEmpty (get governance "lifecycle_state")
    commitBackend := python.textOrEmpty (get governance "commit_backend") }

def increment (category : String) : List (String × Nat) → List (String × Nat)
  | [] => [(category, 1)]
  | (other, count) :: rest =>
      if other = category then (other, count + 1) :: rest
      else (other, count) :: increment category rest

def Sorted.add (sorted : Sorted) (summary : MemorySummary) : Classification → Sorted
  | .affectiveLongTerm => { sorted with affectiveItems := sorted.affectiveItems ++ [summary] }
  | .rationalOperational => { sorted with rationalItems := sorted.rationalItems ++ [summary] }
  | .leftOut category =>
      { sorted with filteredOutCategories := increment category sorted.filteredOutCategories }

def recallItem (sorted : Sorted) (item : Dict) : Except String Sorted := do
  let classification ← classifyMemoryRecallItem python item
  let summary ← summarizeMemoryItem python item
  return sorted.add summary classification

def sourceRefs (items : List MemorySummary) : List String :=
  ((items.map (·.memoryId)).filter (· ≠ "")).dedup.insertionSort (· ≤ ·)

/-- `_summarize_runtime_metadata`. -/
def summarizeRuntimeMetadata (metadata : Dict) : Dict :=
  metadata.filter fun entry => ["backend_kind", "backend_runtime", "requires_external_service",
    "fallback_active", "fallback_backend", "package_available", "sidecar_configured",
    "last_lookup_status", "last_commit_status", "can_execute_tools_directly"].contains entry.1

def channel (policyMode : String) (items : List MemorySummary)
    (filteredOutCategories : List (String × Nat)) : Channel where
  policyMode := policyMode
  selectedCount := items.length
  items := items.take 5
  sourceRefs := (sourceRefs items).take 10
  filteredOutCategories := filteredOutCategories

/-- `_build_memory_recall_context`. -/
def buildMemoryRecallContext (memoryItems : List Dict) (memoryRuntime : Dict) :
    Except String RecallContext := do
  let sorted ← memoryItems.foldlM (recallItem python) ⟨[], [], []⟩
  return {
    schemaVersion := memoryRecallPolicySchemaVersion
    lookupCount := memoryItems.length
    backendKind := python.textOrEmpty (get memoryRuntime "backend_kind")
    fallbackBackend := python.textOrEmpty (get memoryRuntime "fallback_backend")
    fallbackActive := (get memoryRuntime "fallback_active").truthy
    lastLookupStatus := python.textOrEmpty (get memoryRuntime "last_lookup_status")
    affectiveRecall := channel "affective_long_term_context" sorted.affectiveItems
      sorted.filteredOutCategories
    rationalRecall := channel "rational_operational_context" sorted.rationalItems
      sorted.filteredOutCategories
    filteredOutCategories := sorted.filteredOutCategories
    runtime := summarizeRuntimeMetadata memoryRuntime }

section Counting

def total : List (String × Nat) → Nat
  | [] => 0
  | (_, count) :: rest => count + total rest

/-- The dictionary counts every category that occurs, as often as it does, and no other. -/
structure Tallies (categories : List (String × Nat)) (occurrences : String → Nat) : Prop where
  distinct : (categories.map Prod.fst).Nodup
  counted : ∀ category, categories.lookup category =
    if occurrences category = 0 then none else some (occurrences category)

variable {categories : List (String × Nat)} {category : String}

theorem total_increment : total (increment category categories) = total categories + 1 := by
  induction categories with
  | nil => rfl
  | cons entry rest ih =>
      obtain ⟨other, count⟩ := entry
      rw [increment]
      split
      · rw [total, total]
        omega
      · rw [total, total, ih]
        omega

theorem mem_increment_keys {other : String} :
    other ∈ (increment category categories).map Prod.fst ↔
      other = category ∨ other ∈ categories.map Prod.fst := by
  induction categories with
  | nil => simp [increment]
  | cons entry rest ih =>
      obtain ⟨first, count⟩ := entry
      rw [increment]
      split
      next same =>
        subst same
        simp
      next apart =>
        rw [List.map_cons, List.mem_cons, ih, List.map_cons, List.mem_cons]
        exact or_left_comm

theorem increment_nodup (distinct : (categories.map Prod.fst).Nodup) :
    ((increment category categories).map Prod.fst).Nodup := by
  induction categories with
  | nil => exact List.nodup_singleton _
  | cons entry rest ih =>
      obtain ⟨first, count⟩ := entry
      rw [List.map_cons, List.nodup_cons] at distinct
      rw [increment]
      split
      · exact List.nodup_cons.mpr distinct
      next apart =>
        rw [List.map_cons, List.nodup_cons, mem_increment_keys]
        refine ⟨?_, ih distinct.2⟩
        rintro (same | inside)
        · exact apart same
        · exact distinct.1 inside

theorem lookup_increment (other : String) : (increment category categories).lookup other =
    if other = category then some ((categories.lookup category).getD 0 + 1)
    else categories.lookup other := by
  induction categories with
  | nil =>
      rw [increment, List.lookup_cons, List.lookup_nil]
      by_cases same : other = category
      · rw [if_pos same, same, beq_self_eq_true]
        rfl
      · rw [if_neg same, beq_eq_false_iff_ne.mpr same]
  | cons entry rest ih =>
      obtain ⟨first, count⟩ := entry
      rw [increment]
      split
      next known =>
        subst known
        rw [List.lookup_cons, List.lookup_cons, List.lookup_cons, beq_self_eq_true]
        by_cases same : other = first
        · rw [if_pos same, same, beq_self_eq_true]
          rfl
        · rw [if_neg same, beq_eq_false_iff_ne.mpr same]
      next apart =>
        rw [List.lookup_cons, List.lookup_cons, List.lookup_cons, ih,
          beq_eq_false_iff_ne.mpr (Ne.symm apart)]
        by_cases same : other = first
        · rw [same, beq_self_eq_true]
          exact (if_neg apart).symm
        · rw [beq_eq_false_iff_ne.mpr same]

theorem Tallies.increment {occurrences : String → Nat} (tallies : Tallies categories occurrences)
    (category : String) : Tallies (increment category categories)
      fun other => occurrences other + if other = category then 1 else 0 where
  distinct := increment_nodup tallies.distinct
  counted other := by
    rw [lookup_increment]
    by_cases same : other = category
    · rw [if_pos same, if_pos same, tallies.counted, same, if_neg (Nat.succ_ne_zero _)]
      split
      next never => rw [never, Option.getD_none]
      next some => rw [Option.getD_some]
    · rw [if_neg same, if_neg same, tallies.counted, Nat.add_zero]

end Counting

section Sorting

variable {python : Conversions}

def ofClass (python : Conversions) (expected : Classification) (items : List Dict) : List Dict :=
  items.filter fun item => (classifyMemoryRecallItem python item).toOption = some expected

/-- What the loop has made of the memories, where it began with what was sorted before. -/
structure Sorts (python : Conversions) (items : List Dict) (before after : Sorted) : Prop where
  affective : ∃ summaries,
    (ofClass python .affectiveLongTerm items).mapM (summarizeMemoryItem python) = .ok summaries ∧
      after.affectiveItems = before.affectiveItems ++ summaries
  rational : ∃ summaries,
    (ofClass python .rationalOperational items).mapM (summarizeMemoryItem python) = .ok summaries ∧
      after.rationalItems = before.rationalItems ++ summaries
  leftOut : ∀ occurrences, Tallies before.filteredOutCategories occurrences →
    Tallies after.filteredOutCategories fun category =>
      occurrences category + (ofClass python (.leftOut category) items).length
  all : after.affectiveItems.length + after.rationalItems.length +
      total after.filteredOutCategories =
    before.affectiveItems.length + before.rationalItems.length +
      total before.filteredOutCategories + items.length

theorem ofClass_cons (expected : Classification) {item : Dict} (items : List Dict)
    {found : Classification} (classified : classifyMemoryRecallItem python item = .ok found) :
    ofClass python expected (item :: items) =
      if found = expected then item :: ofClass python expected items
      else ofClass python expected items := by
  rw [ofClass, List.filter_cons, classified]
  simp [ofClass, Except.toOption]

theorem mapM_cons_ok {item : Dict} {items : List Dict} {summary : MemorySummary}
    {summaries : List MemorySummary} (first : summarizeMemoryItem python item = .ok summary)
    (rest : items.mapM (summarizeMemoryItem python) = .ok summaries) :
    (item :: items).mapM (summarizeMemoryItem python) = .ok (summary :: summaries) := by
  rw [List.mapM_cons, first, rest]
  rfl

theorem Sorts.cons {item : Dict} {items : List Dict} {before between after : Sorted}
    (turn : recallItem python before item = .ok between)
    (rest : Sorts python items between after) : Sorts python (item :: items) before after := by
  obtain ⟨found, classified, turn⟩ := bind_eq_ok.mp turn
  obtain ⟨summary, summarized, turn⟩ := bind_eq_ok.mp turn
  obtain ⟨affective, affectiveRead, affectiveItems⟩ := rest.affective
  obtain ⟨rational, rationalRead, rationalItems⟩ := rest.rational
  have split := fun expected => ofClass_cons expected items classified
  have all := rest.all
  -- the channel of the memory grows by its summary, the rest is as before
  cases found with
  | affectiveLongTerm =>
      cases turn
      refine ⟨⟨summary :: affective, ?_, ?_⟩, ⟨rational, ?_, rationalItems⟩, ?_, ?_⟩
      · rw [split, if_pos rfl]
        exact mapM_cons_ok summarized affectiveRead
      · exact affectiveItems.trans (List.append_assoc _ _ _)
      · rw [split, if_neg (by decide)]
        exact rationalRead
      · intro occurrences tallies
        have later := rest.leftOut occurrences tallies
        simpa [split] using later
      · simp only [Sorted.add, List.length_append, List.length_cons, List.length_nil] at all ⊢
        omega
  | rationalOperational =>
      cases turn
      refine ⟨⟨affective, ?_, affectiveItems⟩, ⟨summary :: rational, ?_, ?_⟩, ?_, ?_⟩
      · rw [split, if_neg (by decide)]
        exact affectiveRead
      · rw [split, if_pos rfl]
        exact mapM_cons_ok summarized rationalRead
      · exact rationalItems.trans (List.append_assoc _ _ _)
      · intro occurrences tallies
        have later := rest.leftOut occurrences tallies
        simpa [split] using later
      · simp only [Sorted.add, List.length_append, List.length_cons, List.length_nil] at all ⊢
        omega
  | leftOut category =>
      cases turn
      refine ⟨⟨affective, ?_, affectiveItems⟩, ⟨rational, ?_, rationalItems⟩, ?_, ?_⟩
      · rw [split, if_neg Classification.noConfusion]
        exact affectiveRead
      · rw [split, if_neg Classification.noConfusion]
        exact rationalRead
      · intro occurrences tallies
        -- one more of the category is counted, and the later ones from there
        have later := rest.leftOut _ (tallies.increment category)
        refine cast (congrArg _ (funext fun other => ?_)) later
        rw [split]
        by_cases same : other = category
        · subst same
          rw [if_pos rfl, if_pos rfl, List.length_cons]
          omega
        · rw [if_neg same, if_neg fun equal => same (Classification.leftOut.inj equal).symm]
          omega
      · simp only [Sorted.add, total_increment, List.length_cons] at all ⊢
        omega

theorem sorts_run {items : List Dict} {before after : Sorted}
    (ran : items.foldlM (recallItem python) before = .ok after) :
    Sorts python items before after := by
  induction items generalizing before with
  | nil =>
      cases ran
      exact ⟨⟨[], rfl, (List.append_nil _).symm⟩, ⟨[], rfl, (List.append_nil _).symm⟩,
        fun _ tallies => tallies, rfl⟩
  | cons item items ih =>
      rw [List.foldlM_cons] at ran
      obtain ⟨between, turn, rest⟩ := bind_eq_ok.mp ran
      exact .cons turn (ih rest)

end Sorting

def retained : Classification → List String
  | .affectiveLongTerm => ["user_context"]
  | .rationalOperational => ["operational_lesson", "operational_context"]
  | .leftOut _ => []

/-- The channel shows the first five of the memories of the class, and the ten first ids of
all of them; all are committed ones of the retention classes that belong there. -/
structure Selects (expected : Classification) (items : List Dict) (shown : Channel) : Prop where
  chosen : ∃ summaries,
    (ofClass python expected items).mapM (summarizeMemoryItem python) = .ok summaries ∧
      shown.items = summaries.take 5 ∧ shown.sourceRefs = (sourceRefs summaries).take 10
  counted : shown.selectedCount = (ofClass python expected items).length
  committed : ∀ summary ∈ shown.items,
    summary.lifecycleState = "committed" ∧ summary.retentionClass ∈ retained expected

/-- Every memory is in a channel or counted with the reason it is in none. -/
structure Accounts (items : List Dict) (context : RecallContext) : Prop where
  affective : Selects python .affectiveLongTerm items context.affectiveRecall
  rational : Selects python .rationalOperational items context.rationalRecall
  leftOut : Tallies context.filteredOutCategories fun category =>
    (ofClass python (.leftOut category) items).length
  all : context.affectiveRecall.selectedCount + context.rationalRecall.selectedCount +
    total context.filteredOutCategories = context.lookupCount

section Accounting

variable {python}

theorem mapM_summaries {items : List Dict} {summaries : List MemorySummary}
    (ran : items.mapM (summarizeMemoryItem python) = .ok summaries) :
    List.Forall₂ (fun item summary => summarizeMemoryItem python item = .ok summary)
      items summaries := by
  induction items generalizing summaries with
  | nil =>
      cases ran
      exact .nil
  | cons item items ih =>
      rw [List.mapM_cons] at ran
      obtain ⟨summary, read, ran⟩ := bind_eq_ok.mp ran
      obtain ⟨later, rest, ran⟩ := bind_eq_ok.mp ran
      cases ran
      exact .cons read (ih rest)

theorem classification_summary {item : Dict} {found : Classification} {summary : MemorySummary}
    (classified : classifyMemoryRecallItem python item = .ok found)
    (summarized : summarizeMemoryItem python item = .ok summary) :
    (∃ category, found = .leftOut category) ∨
      summary.lifecycleState = "committed" ∧ summary.retentionClass ∈ retained found := by
  obtain ⟨payload, reads, classified⟩ := bind_eq_ok.mp classified
  obtain ⟨governance, governs, classified⟩ := bind_eq_ok.mp classified
  obtain ⟨_, again, summarized⟩ := bind_eq_ok.mp summarized
  cases reads.symm.trans again
  obtain ⟨_, again, summarized⟩ := bind_eq_ok.mp summarized
  cases governs.symm.trans again
  obtain ⟨eventIds, _, summarized⟩ := bind_eq_ok.mp summarized
  obtain ⟨sourceFactRefs, _, summarized⟩ := bind_eq_ok.mp summarized
  cases summarized
  cases classified
  dsimp only [classification]
  split_ifs with ungoverned uncommitted affective rational
  · exact .inl ⟨_, rfl⟩
  · exact .inl ⟨_, rfl⟩
  · exact .inr ⟨not_not.mp uncommitted, by simp [retained, affective]⟩
  · exact .inr ⟨not_not.mp uncommitted, by simpa [retained] using rational⟩
  · exact .inl ⟨_, rfl⟩

theorem Sorts.selects {expected : Classification} {items : List Dict}
    {summaries : List MemorySummary} (policyMode : String) (categories : List (String × Nat))
    (read : (ofClass python expected items).mapM (summarizeMemoryItem python) = .ok summaries)
    (kept : ∀ category, expected ≠ .leftOut category) :
    Selects python expected items (channel policyMode summaries categories) where
  chosen := ⟨summaries, read, rfl, rfl⟩
  counted := (mapM_summaries read).length_eq.symm
  committed summary shown := by
    have pairs := mapM_summaries read
    obtain ⟨place, less, rfl⟩ := List.mem_iff_getElem.mp (List.mem_of_mem_take shown)
    have inside : place < (ofClass python expected items).length := pairs.length_eq ▸ less
    have summarized := List.forall₂_iff_get.mp pairs |>.2 place inside less
    have member := (List.mem_filter.mp (List.getElem_mem inside)).2
    have classified : classifyMemoryRecallItem python (ofClass python expected items)[place] =
        .ok expected := by
      revert member
      cases classifyMemoryRecallItem python (ofClass python expected items)[place] with
      | error raised => simp [Except.toOption]
      | ok found => simp [Except.toOption]
    obtain ⟨category, left⟩ | fits := classification_summary classified summarized
    · exact absurd left (kept category)
    · exact fits

/-- A recall context accounts for all memories that were looked up. -/
theorem recall_accounts {items : List Dict} {memoryRuntime : Dict} {context : RecallContext}
    (built : buildMemoryRecallContext python items memoryRuntime = .ok context) :
    Accounts python items context := by
  obtain ⟨sorted, ran, built⟩ := bind_eq_ok.mp built
  cases built
  have sorts := sorts_run ran
  obtain ⟨affective, affectiveRead, affectiveItems⟩ := sorts.affective
  obtain ⟨rational, rationalRead, rationalItems⟩ := sorts.rational
  rw [List.nil_append] at affectiveItems rationalItems
  refine ⟨?_, ?_, ?_, ?_⟩
  · rw [affectiveItems]
    exact Sorts.selects _ _ affectiveRead fun _ => Classification.noConfusion
  · rw [rationalItems]
    exact Sorts.selects _ _ rationalRead fun _ => Classification.noConfusion
  · have none : Tallies [] fun _ => 0 := ⟨List.nodup_nil, fun _ => rfl⟩
    simpa using sorts.leftOut _ none
  · simpa [channel, total] using sorts.all

end Accounting

def foundMemory (memoryId lifecycleState retentionClass : String) : Dict :=
  [("memory_id", .str memoryId), ("payload", .dict [("memory_governance", .dict
    [("lifecycle_state", .str lifecycleState), ("retention_class", .str retentionClass)])])]

/-- A memory for each channel, and a retired one. -/
def foundMemories : List Dict :=
  [foundMemory "memory-1" "committed" "user_context",
    foundMemory "memory-2" "retired" "user_context",
    foundMemory "memory-3" "committed" "operational_lesson"]

theorem foundMemories_accounted : ∃ context,
    buildMemoryRecallContext plainConversions foundMemories [] = .ok context ∧
      context.filteredOutCategories = [("lifecycle_retired", 1)] ∧
      Accounts plainConversions foundMemories context :=
  ⟨_, rfl, by decide, recall_accounts rfl⟩

end NeuroLink.MemoryRecall
