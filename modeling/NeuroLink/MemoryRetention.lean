import Mathlib.Data.String.Basic
import NeuroLink.SidecarMemory
import NeuroLink.UtcText

/-!
Retirement of the long-term memories whose retention is over. The scan reads the newest
thousand rows of the table, retired or not, and compares times as texts: a memory beyond the
thousand is never looked at, and within the second of the reference time a text with a
fraction is before one without.
-/

namespace NeuroLink.MemoryRetention

open PyValue MemoryGovernance
open SidecarMemory (Row plainLibrary)
open UtcText (Timestamp)

variable (python : Library)

/-- `ORDER BY created_at DESC, memory_id DESC`. -/
def newestFirst (first second : Row) : Bool :=
  second.createdAt < first.createdAt ||
    (second.createdAt = first.createdAt && second.memoryId ≤ first.memoryId)

/-- The rows that the query selects; SQLite takes a negative limit for none. -/
def selectMemories (rows : List Row) (sourceExecutionSpanId semanticTopic : Option String)
    (limit : Int) : List Row :=
  let chosen := rows.filter fun row =>
    sourceExecutionSpanId.all (row.sourceExecutionSpanId = ·) &&
      semanticTopic.all (row.semanticTopic = ·)
  let ordered := chosen.mergeSort newestFirst
  if limit < 0 then ordered else ordered.take limit.toNat

/-- `CoreDataStore.get_long_term_memories`. -/
def getLongTermMemories (rows : List Row) (sourceExecutionSpanId semanticTopic : Option String)
    (includeRetired : Bool) (limit : Int) : Except String (List Row) :=
  let memories := selectMemories rows sourceExecutionSpanId semanticTopic limit
  if includeRetired then .ok memories
  else memories.filterM fun memory =>
    match (get memory.payload "memory_governance").orElse (.dict []) with
    | .dict governance => .ok !(get governance "lifecycle_state").isText "retired"
    | _ => .error "AttributeError"

/-- `CoreDataStore.update_long_term_memory`. -/
def updateLongTermMemory (rows : List Row) (memoryId : String) (payload : Dict) : List Row :=
  rows.map fun row => if row.memoryId = memoryId then { row with payload } else row

def retiredGovernance (resolvedReferenceTime : String) (governance : Dict)
    (lifecycleHistory : List Value) : Dict :=
  update governance
    [("lifecycle_state", .str "retired"), ("decision_reason", .str "retention_expired"),
      ("retired_at", .str resolvedReferenceTime),
      ("lifecycle_history", .list (record lifecycleHistory "retired"))]

/-- One pass of the loop of `retire_expired_long_term_memories`, on the table and the ids. -/
def retireStep (resolvedReferenceTime : String) (state : List Row × List String) (memory : Row) :
    Except String (List Row × List String) := do
  let governance ← python.dictOr (get memory.payload "memory_governance")
  if (get governance "lifecycle_state").isText "retired" then return state
  let retentionExpiresAt := python.textOrEmpty (get governance "retention_expires_at")
  if retentionExpiresAt = "" ∨ resolvedReferenceTime < retentionExpiresAt then return state
  let lifecycleHistory ← listOr (get governance "lifecycle_history")
  let payload := insert memory.payload "memory_governance"
    (.dict (retiredGovernance resolvedReferenceTime governance lifecycleHistory))
  return (updateLongTermMemory state.1 memory.memoryId payload, state.2 ++ [memory.memoryId])

/-- `CoreDataStore.retire_expired_long_term_memories`, at the given moment. -/
def retireExpiredLongTermMemories (now : String) (rows : List Row)
    (referenceTime : Option String) : Except String (List Row × List String) := do
  let resolvedReferenceTime := (referenceTime.filter (· ≠ "")).getD now
  let memories ← getLongTermMemories rows none none true 1000
  memories.foldlM (retireStep python resolvedReferenceTime) (rows, [])

/-- `dict(payload.get("memory_governance") or {})`. -/
def governance (row : Row) : Except String Dict :=
  python.dictOr (get row.payload "memory_governance")

def governed (row : Row) (key : String) : Value :=
  get ((governance python row).toOption.getD []) key

def isRetired (row : Row) : Bool := (governed python row "lifecycle_state").isText "retired"

def retentionExpiresAt (row : Row) : String :=
  python.textOrEmpty (governed python row "retention_expires_at")

/-- A row as the store writes it: the governance is a dictionary in which the history is a list,
and the end of the retention is empty or a time. -/
structure Formed (row : Row) : Prop where
  governance : ∃ entries, governance python row = .ok entries
  history : ∃ history, listOr (governed python row "lifecycle_history") = .ok history
  retention : retentionExpiresAt python row = "" ∨
    ∃ time : Timestamp, retentionExpiresAt python row = time.text

/-- The contents of the table: rows as the store writes them, each with an id of its own. -/
structure Table where
  rows : List Row
  distinct : (rows.map Row.memoryId).Nodup
  formed : ∀ row ∈ rows, Formed python row

/-- The retention of a memory that is not retired has ended at the reference time. -/
def Expired (reference : Timestamp) (row : Row) : Prop :=
  isRetired python row = false ∧
    ∃ time : Timestamp, retentionExpiresAt python row = time.text ∧ ¬ reference.Earlier time

def due (resolvedReferenceTime : String) (row : Row) : Bool :=
  !isRetired python row && !(retentionExpiresAt python row = "" ||
    resolvedReferenceTime < retentionExpiresAt python row)

def retiredPayload (resolvedReferenceTime : String) (row : Row) : Dict :=
  insert row.payload "memory_governance" (.dict (retiredGovernance resolvedReferenceTime
    ((governance python row).toOption.getD [])
    ((listOr (governed python row "lifecycle_history")).toOption.getD [])))

def touch (reference : String) (row memory : Row) : Row :=
  if due python reference memory = true ∧ row.memoryId = memory.memoryId then
    { row with payload := retiredPayload python reference memory }
  else row

def settle (reference : String) (row : Row) : Row :=
  if due python reference row then { row with payload := retiredPayload python reference row }
  else row

section Step

variable {python} {reference : String} {row : Row}

/-- One pass retires the memory if it is due and leaves everything else. -/
theorem retireStep_eq (formed : Formed python row) (state : List Row × List String) :
    retireStep python reference state row = .ok (if due python reference row then
      (updateLongTermMemory state.1 row.memoryId (retiredPayload python reference row),
        state.2 ++ [row.memoryId])
    else state) := by
  obtain ⟨entries, governed_eq⟩ := formed.governance
  obtain ⟨history, history_eq⟩ := formed.history
  have read : ∀ key, governed python row key = get entries key := by
    intro key
    rw [governed, governed_eq]
    rfl
  rw [governance] at governed_eq
  rw [read] at history_eq
  have payload_eq : retiredPayload python reference row = insert row.payload "memory_governance"
      (.dict (retiredGovernance reference entries history)) := by
    rw [retiredPayload, read, governance, governed_eq, history_eq]
    rfl
  rw [payload_eq, due, isRetired, retentionExpiresAt, read, read, ← Bool.decide_or, retireStep,
    governed_eq]
  simp only [bind, Except.bind, pure, Except.pure, history_eq]
  cases (get entries "lifecycle_state").isText "retired" with
  | true => rfl
  | false =>
    by_cases kept : python.textOrEmpty (get entries "retention_expires_at") = "" ∨
        reference < python.textOrEmpty (get entries "retention_expires_at")
    · rw [if_neg Bool.false_ne_true, if_pos kept, decide_eq_true kept]
      rfl
    · rw [if_neg Bool.false_ne_true, if_neg kept, decide_eq_false kept]
      rfl

theorem run_eq {memories rows : List Row} (formed : ∀ memory ∈ memories, Formed python memory)
    (ids : List String) :
    memories.foldlM (retireStep python reference) (rows, ids) =
      .ok (rows.map fun row => memories.foldl (touch python reference) row,
        ids ++ (memories.filter (due python reference)).map Row.memoryId) := by
  induction memories generalizing rows ids with
  | nil => simp [pure, Except.pure]
  | cons memory rest ih =>
    obtain ⟨here, later⟩ := List.forall_mem_cons.mp formed
    rw [List.foldlM_cons, retireStep_eq here]
    simp only [bind, Except.bind]
    cases taken : due python reference memory with
    | true =>
      rw [if_pos rfl, ih later, updateLongTermMemory, List.map_map, List.filter_cons_of_pos taken,
        List.map_cons, List.append_assoc]
      congr 2
      apply List.map_congr_left
      intro row _
      rw [Function.comp, List.foldl_cons, touch]
      simp only [taken, true_and]
    | false =>
      rw [if_neg Bool.false_ne_true, ih later, List.filter_cons_of_neg (by rw [taken]; decide)]
      congr 2
      apply List.map_congr_left
      intro row _
      rw [List.foldl_cons, touch, if_neg fun both => absurd (taken.symm.trans both.1) (by decide)]

theorem foldl_touch_other {memories : List Row} {row : Row}
    (other : row.memoryId ∉ memories.map Row.memoryId) :
    memories.foldl (touch python reference) row = row := by
  induction memories with
  | nil => rfl
  | cons memory rest ih =>
    rw [List.map_cons, List.mem_cons, not_or] at other
    rw [List.foldl_cons, touch, if_neg fun both => other.1 both.2, ih other.2]

theorem foldl_touch {memories : List Row} {row : Row}
    (own : ∀ memory ∈ memories, row.memoryId = memory.memoryId → memory = row)
    (distinct : (memories.map Row.memoryId).Nodup) :
    memories.foldl (touch python reference) row =
      if row.memoryId ∈ memories.map Row.memoryId then settle python reference row else row := by
  induction memories with
  | nil => rfl
  | cons memory rest ih =>
    obtain ⟨fresh, distinct⟩ := List.nodup_cons.mp distinct
    obtain ⟨here, later⟩ := List.forall_mem_cons.mp own
    rw [List.foldl_cons]
    by_cases same : row.memoryId = memory.memoryId
    · obtain rfl := here same
      have settled : touch python reference memory memory = settle python reference memory := by
        rw [touch, settle]
        simp only [and_true]
      have kept : (settle python reference memory).memoryId = memory.memoryId := by
        rw [settle]
        split <;> rfl
      rw [settled, foldl_touch_other (kept.symm ▸ fresh)]
      exact (if_pos List.mem_cons_self).symm
    · rw [touch, if_neg fun both => same both.2, ih later distinct]
      apply if_congr _ rfl rfl
      rw [List.map_cons, List.mem_cons]
      exact (or_iff_right same).symm

end Step

def scanned (rows : List Row) : List Row := selectMemories rows none none 1000

section Scan

variable {python : Library}

theorem scanned_eq (rows : List Row) : scanned rows = (rows.mergeSort newestFirst).take 1000 := by
  have all : rows.filter (fun row => (none : Option String).all (row.sourceExecutionSpanId = ·) &&
      (none : Option String).all (row.semanticTopic = ·)) = rows :=
    List.filter_eq_self.mpr fun _ _ => rfl
  rw [scanned, selectMemories, all]
  rfl

theorem mem_of_scanned {rows : List Row} {row : Row} (scan : row ∈ scanned rows) : row ∈ rows := by
  rw [scanned_eq] at scan
  exact List.mem_mergeSort.mp (List.mem_of_mem_take scan)

theorem scanned_distinct {rows : List Row} (distinct : (rows.map Row.memoryId).Nodup) :
    ((scanned rows).map Row.memoryId).Nodup := by
  rw [scanned_eq]
  apply List.Nodup.sublist ((List.take_sublist 1000 _).map Row.memoryId)
  exact ((List.mergeSort_perm rows newestFirst).map Row.memoryId).nodup_iff.mpr distinct

theorem scanned_map {rows : List Row} {change : Row → Row}
    (same : ∀ row ∈ rows, (change row).memoryId = row.memoryId ∧
      (change row).createdAt = row.createdAt) :
    scanned (rows.map change) = (scanned rows).map change := by
  rw [scanned_eq, scanned_eq, List.map_take]
  apply congrArg (List.take 1000)
  symm
  apply List.map_mergeSort
  intro first member second other
  rw [newestFirst, newestFirst, (same first member).1, (same first member).2,
    (same second other).1, (same second other).2]

theorem row_of_id {rows : List Row} {first second : Row} (distinct : (rows.map Row.memoryId).Nodup)
    (member : first ∈ rows) (other : second ∈ rows) (same : first.memoryId = second.memoryId) :
    first = second :=
  List.inj_on_of_nodup_map distinct member other same

end Scan

section Retire

variable {python : Library} {reference : String} {row : Row}

theorem governed_retired (key : String) :
    governed python { row with payload := retiredPayload python reference row } key =
      get (retiredGovernance reference ((governance python row).toOption.getD [])
        ((listOr (governed python row "lifecycle_history")).toOption.getD [])) key := by
  rw [governed, governance, retiredPayload, get_insert_self, dictOr_dict]
  rfl

theorem retired_isRetired :
    isRetired python { row with payload := retiredPayload python reference row } = true := by
  rw [isRetired, governed_retired, retiredGovernance, get_update_of_mem (by simp)
    List.mem_cons_self]
  rfl

theorem retired_formed (formed : Formed python row) :
    Formed python { row with payload := retiredPayload python reference row } where
  governance := by
    rw [governance, retiredPayload, get_insert_self, dictOr_dict]
    exact ⟨_, rfl⟩
  history := by
    rw [governed_retired, retiredGovernance, get_update_of_mem (by simp)
      (List.mem_cons_of_mem _ (List.mem_cons_of_mem _ (List.mem_cons_of_mem _
        List.mem_cons_self))), listOr_list]
    exact ⟨_, rfl⟩
  retention := by
    have kept : governed python { row with payload := retiredPayload python reference row }
        "retention_expires_at" = governed python row "retention_expires_at" := by
      rw [governed_retired, retiredGovernance, get_update_ne (by simp)]
      rfl
    rw [retentionExpiresAt, kept]
    exact formed.retention

theorem settle_columns : (settle python reference row).memoryId = row.memoryId ∧
    (settle python reference row).createdAt = row.createdAt := by
  rw [settle]
  split
  · exact ⟨rfl, rfl⟩
  · exact ⟨rfl, rfl⟩

theorem settle_formed (formed : Formed python row) :
    Formed python (settle python reference row) := by
  rw [settle]
  split
  · exact retired_formed formed
  · exact formed

theorem due_settle : due python reference (settle python reference row) = false := by
  cases waits : due python reference row with
  | true => rw [settle, if_pos waits, due, retired_isRetired]; rfl
  | false => rw [settle, waits, if_neg Bool.false_ne_true, waits]

theorem foldl_touch_idle {memories : List Row}
    (idle : ∀ memory ∈ memories, due python reference memory = false) :
    memories.foldl (touch python reference) row = row := by
  induction memories with
  | nil => rfl
  | cons memory rest ih =>
    obtain ⟨here, later⟩ := List.forall_mem_cons.mp idle
    rw [List.foldl_cons, touch, if_neg fun both => absurd (here.symm.trans both.1) (by decide),
      ih later]

end Retire

def outcome (reference : String) (rows : List Row) (row : Row) : Row :=
  if row.memoryId ∈ (scanned rows).map Row.memoryId then settle python reference row else row

section Runs

variable {python : Library} {reference : Timestamp} {row : Row}

theorem resolved_reference (now : String) (reference : Timestamp) :
    ((some reference.text).filter (· ≠ "")).getD now = reference.text := by
  rw [Option.filter_some, if_pos (decide_eq_true reference.text_ne_empty), Option.getD_some]

theorem retire_run (table : Table python) (reference : Timestamp) (now : String) :
    retireExpiredLongTermMemories python now table.rows (some reference.text) =
      .ok (table.rows.map (outcome python reference.text table.rows),
        ((scanned table.rows).filter (due python reference.text)).map Row.memoryId) := by
  have formed : ∀ memory ∈ scanned table.rows, Formed python memory :=
    fun memory scan => table.formed memory (mem_of_scanned scan)
  have run : (scanned table.rows).foldlM (retireStep python reference.text) (table.rows, []) = _ :=
    run_eq formed []
  rw [retireExpiredLongTermMemories, resolved_reference]
  refine run.trans ?_
  congr 2
  apply List.map_congr_left
  intro row member
  apply foldl_touch _ (scanned_distinct table.distinct)
  exact fun memory scan same =>
    (row_of_id table.distinct member (mem_of_scanned scan) same).symm

theorem scanned_outcome (table : Table python) :
    scanned (table.rows.map (outcome python reference.text table.rows)) =
      (scanned table.rows).map (settle python reference.text) := by
  rw [scanned_map]
  · apply List.map_congr_left
    exact fun row scan => if_pos (List.mem_map_of_mem scan)
  · intro row _
    rw [outcome]
    split
    · exact settle_columns
    · exact ⟨rfl, rfl⟩

/-- Nothing is due at the same reference time in the table that a call leaves. -/
theorem retire_again (table : Table python) (reference : Timestamp) (later : String) :
    retireExpiredLongTermMemories python later
        (table.rows.map (outcome python reference.text table.rows)) (some reference.text) =
      .ok (table.rows.map (outcome python reference.text table.rows), []) := by
  have settled : ∀ memory ∈ (scanned table.rows).map (settle python reference.text),
      Formed python memory ∧ due python reference.text memory = false := by
    intro memory member
    obtain ⟨row, scan, rfl⟩ := List.mem_map.mp member
    exact ⟨settle_formed (table.formed row (mem_of_scanned scan)), due_settle⟩
  have run : ((scanned table.rows).map (settle python reference.text)).foldlM
      (retireStep python reference.text)
      (table.rows.map (outcome python reference.text table.rows), []) = _ :=
    run_eq (fun memory member => (settled memory member).1) []
  rw [retireExpiredLongTermMemories, resolved_reference]
  have scan : scanned (table.rows.map (outcome python reference.text table.rows)) = _ :=
    scanned_outcome table
  rw [← scan] at run
  refine run.trans ?_
  rw [scan, List.filter_eq_nil_iff.mpr fun memory member => by
    rw [(settled memory member).2]; decide]
  congr 2
  exact List.map_id'' (fun row =>
    foldl_touch_idle fun memory member => (settled memory member).2) _

/-- The loop takes a memory for expired by the text of its time. -/
theorem due_iff (formed : Formed python row) :
    due python reference.text row = true ↔ isRetired python row = false ∧
      ∃ time : Timestamp, retentionExpiresAt python row = time.text ∧
        ¬ reference.text < time.text := by
  rw [due, Bool.and_eq_true, Bool.not_eq_true', ← Bool.decide_or, Bool.not_eq_true',
    decide_eq_false_iff_not, not_or]
  apply and_congr_right'
  constructor
  · rintro ⟨some, before⟩
    obtain ⟨time, shown⟩ := formed.retention.resolve_left some
    exact ⟨time, shown, shown ▸ before⟩
  · rintro ⟨time, shown, before⟩
    exact ⟨shown ▸ time.text_ne_empty, shown ▸ before⟩

/-- The text of a time tells the right thing exactly when its fraction does not mislead. -/
theorem due_iff_expired (formed : Formed python row) :
    (due python reference.text row = true ↔ Expired python reference row) ↔
      (isRetired python row = false → ∀ time : Timestamp,
        retentionExpiresAt python row = time.text → ¬ reference.Mixed time) := by
  rw [due_iff formed, Expired]
  constructor
  · intro agree live time shown
    have only : ∀ other : Timestamp, retentionExpiresAt python row = other.text → other = time :=
      fun other same => UtcText.Timestamp.text_injective (same.symm.trans shown)
    apply UtcText.Timestamp.text_lt_iff_earlier.mp
    apply not_iff_not.mp
    constructor
    · intro before
      obtain ⟨_, other, same, passed⟩ := agree.mp ⟨live, time, shown, before⟩
      exact only other same ▸ passed
    · intro passed
      obtain ⟨_, other, same, before⟩ := agree.mpr ⟨live, time, shown, passed⟩
      exact only other same ▸ before
  · intro unmixed
    apply and_congr_right
    intro live
    apply exists_congr
    intro time
    apply and_congr_right
    intro shown
    exact not_congr (UtcText.Timestamp.text_lt_iff_earlier.mpr (unmixed live time shown))

end Runs

def Becomes (reference : Timestamp) (row row' : Row) : Prop :=
  (Expired python reference row →
    isRetired python row' = true ∧ row' = { row with payload := row'.payload }) ∧
  (¬ Expired python reference row → row' = row)

/-- Exactly the expired rows are retired, their ids are returned, and the same call retires
nothing more, at whatever moment. -/
def RetiresExactly (now : String) (rows : List Row) (reference : Timestamp) : Prop :=
  ∃ after ids,
    retireExpiredLongTermMemories python now rows (some reference.text) = .ok (after, ids) ∧
    List.Forall₂ (Becomes python reference) rows after ∧
    (∀ memoryId, memoryId ∈ ids ↔
      ∃ row ∈ rows, row.memoryId = memoryId ∧ Expired python reference row) ∧
    ids.Nodup ∧
    ∀ later, retireExpiredLongTermMemories python later after (some reference.text) =
      .ok (after, [])

/-- The expired rows are among the newest thousand, and none of these that is not retired has a
time in the second of the reference of which only one shows a fraction. -/
structure Timely (rows : List Row) (reference : Timestamp) : Prop where
  reached : ∀ row ∈ rows, Expired python reference row → row ∈ scanned rows
  unmixed : ∀ row ∈ scanned rows, isRetired python row = false → ∀ time : Timestamp,
    retentionExpiresAt python row = time.text → ¬ reference.Mixed time

section Exactness

variable {python : Library} {table : Table python} {reference : Timestamp} {now : String}

/-- A row of the table is scanned when its id is. -/
theorem scanned_of_id {row : Row} (member : row ∈ table.rows)
    (scan : row.memoryId ∈ (scanned table.rows).map Row.memoryId) : row ∈ scanned table.rows := by
  obtain ⟨other, inside, same⟩ := List.mem_map.mp scan
  exact row_of_id table.distinct (mem_of_scanned inside) member same ▸ inside

theorem outcome_scanned {row : Row} (scan : row ∈ scanned table.rows) :
    outcome python reference.text table.rows row = settle python reference.text row :=
  if_pos (List.mem_map_of_mem scan)

theorem timely_of_retires (exactly : RetiresExactly python now table.rows reference) :
    Timely python table.rows reference := by
  obtain ⟨after, ids, ran, rows, _, _, _⟩ := exactly
  obtain ⟨rfl, _⟩ := Prod.mk.inj (Except.ok.inj ((retire_run table reference now).symm.trans ran))
  have each := List.forall₂_same.mp (List.forall₂_map_right_iff.mp rows)
  constructor
  · intro row member expired
    by_contra missed
    have kept : outcome python reference.text table.rows row = row :=
      if_neg fun scan => missed (scanned_of_id member scan)
    have retired := ((each row member).1 expired).1
    rw [kept, expired.1] at retired
    exact Bool.false_ne_true retired
  · intro row scan
    have member := mem_of_scanned scan
    have becomes := each row member
    rw [outcome_scanned scan, settle] at becomes
    apply (due_iff_expired (table.formed row member)).mp
    constructor
    · intro waits
      by_contra alive
      have kept := becomes.2 alive
      rw [if_pos waits] at kept
      have live := ((due_iff (table.formed row member)).mp waits).1
      rw [← kept, retired_isRetired] at live
      exact Bool.false_ne_true live.symm
    · intro expired
      by_contra idle
      have retired := (becomes.1 expired).1
      rw [if_neg idle, expired.1] at retired
      exact Bool.false_ne_true retired

/-- In a timely table the loop takes for expired what is expired. -/
theorem Timely.due_iff (timely : Timely python table.rows reference) {row : Row}
    (scan : row ∈ scanned table.rows) :
    due python reference.text row = true ↔ Expired python reference row :=
  (due_iff_expired (table.formed row (mem_of_scanned scan))).mpr (timely.unmixed row scan)

theorem Timely.becomes (timely : Timely python table.rows reference) {row : Row}
    (member : row ∈ table.rows) :
    Becomes python reference row (outcome python reference.text table.rows row) := by
  constructor
  · intro expired
    have scan := timely.reached row member expired
    rw [outcome_scanned scan, settle, if_pos ((timely.due_iff scan).mpr expired)]
    exact ⟨retired_isRetired, rfl⟩
  · intro alive
    by_cases scan : row ∈ scanned table.rows
    · rw [outcome_scanned scan, settle, if_neg fun waits => alive ((timely.due_iff scan).mp waits)]
    · exact if_neg fun listed => scan (scanned_of_id member listed)

theorem retires_of_timely (timely : Timely python table.rows reference) :
    RetiresExactly python now table.rows reference := by
  refine ⟨_, _, retire_run table reference now, ?_, ?_, ?_, retire_again table reference⟩
  · apply List.forall₂_map_right_iff.mpr
    exact List.forall₂_same.mpr fun row member => timely.becomes member
  · intro memoryId
    rw [List.mem_map]
    constructor
    · rintro ⟨row, taken, rfl⟩
      obtain ⟨scan, waits⟩ := List.mem_filter.mp taken
      exact ⟨row, mem_of_scanned scan, rfl, (timely.due_iff scan).mp waits⟩
    · rintro ⟨row, member, rfl, expired⟩
      have scan := timely.reached row member expired
      exact ⟨row, List.mem_filter.mpr ⟨scan, (timely.due_iff scan).mpr expired⟩, rfl⟩
  · apply List.Nodup.sublist _ (scanned_distinct table.distinct)
    exact List.filter_sublist.map Row.memoryId

end Exactness

/-- A call retires exactly the expired rows if and only if the scan reaches them all and no
fraction misleads it. -/
theorem retires_exactly_iff (python : Library) (table : Table python) (reference : Timestamp)
    (now : String) : RetiresExactly python now table.rows reference ↔
      Timely python table.rows reference :=
  ⟨timely_of_retires, retires_of_timely⟩

def noon (micro : Nat) (fits : micro < 1000000) : Timestamp where
  year := 2026
  month := 5
  day := 10
  hour := 12
  minute := 0
  second := 0
  micro := micro
  dated := ⟨⟨by omega, by omega⟩, ⟨by omega, by omega⟩, by omega, by omega⟩
  timed := ⟨by omega, by omega, by omega, fits⟩

def noonRow : Row where
  memoryId := "memory-1"
  sourceExecutionSpanId := "span-1"
  semanticTopic := "unit.callback"
  payload := [("memory_governance", .dict [("lifecycle_state", .str "committed"),
    ("retention_expires_at", .str "2026-05-10T12:00:00Z"),
    ("lifecycle_history", .list [.str "committed"])])]
  createdAt := "2026-04-26T12:00:00Z"

theorem noonRow_formed : Formed plainLibrary noonRow where
  governance := ⟨_, rfl⟩
  history := ⟨_, rfl⟩
  retention := .inr ⟨noon 0 (by omega), by decide +kernel⟩

def noonTable : Table plainLibrary where
  rows := [noonRow]
  distinct := List.pairwise_singleton _ _
  formed := List.forall_mem_singleton.mpr noonRow_formed

/-- Half a second after noon the memory whose time is up at noon is not retired. -/
theorem noon_not_retired :
    ¬ ∀ (table : Table plainLibrary) (reference : Timestamp) (now : String),
      RetiresExactly plainLibrary now table.rows reference := by
  intro claimed
  have timely := timely_of_retires (claimed noonTable (noon 500000 (by omega)) "")
  have scan : noonRow ∈ scanned noonTable.rows := by
    rw [scanned_eq, show noonTable.rows = [noonRow] from rfl, List.mergeSort_singleton]
    exact List.mem_cons_self
  exact timely.unmixed noonRow scan rfl (noon 0 (by omega)) (by decide +kernel)
    ⟨rfl, by decide⟩

end NeuroLink.MemoryRetention
