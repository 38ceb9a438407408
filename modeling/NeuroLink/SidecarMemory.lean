import NeuroLink.MemoryGovernance
import Mathlib.Data.List.Nodup

/-!
The long-term memory with a sidecar: a commit offers the candidates to the sidecar, if there is
one, and then stores a mirror of what was committed in the local table.
-/

namespace NeuroLink.SidecarMemory

open PyValue MemoryGovernance

universe u

/-- A row of `long_term_memories`. -/
structure Row where
  memoryId : String
  sourceExecutionSpanId : String
  semanticTopic : String
  payload : Dict
  createdAt : String

inductive Ending where
  | finished
  | broke
  | raised (name : String)

section Loop

variable {State : Type u} (python : Library) (visit : State → Dict → State × Ending)

/-- What the loop of a commit visits of a candidate: one that may be committed, unless one with
its key was. -/
def unvisited (committedDedupeKeys : List String) (candidate : Dict) :
    Except String (Option (String × Dict)) := do
  let found ← selected python candidate
  return found.filter fun found => !committedDedupeKeys.contains found.1

def loop : List Dict → List String → State → State × Ending
  | [], _, state => (state, .finished)
  | candidate :: rest, committedDedupeKeys, state =>
      match unvisited python committedDedupeKeys candidate with
      | .error raised => (state, .raised raised)
      | .ok none => loop rest committedDedupeKeys state
      | .ok (some (dedupeKey, payload)) =>
          match visit state payload with
          | (next, .finished) => loop rest (dedupeKey :: committedDedupeKeys) next
          | stopped => stopped

end Loop

structure Local where
  rows : List Row
  memoryIds : List String

variable (python : Library) (executionSpanId : String)

/-- `persist_long_term_memory`. -/
def Local.persistLongTermMemory (state : Local) (semanticTopic : String) (payload : Dict) : Local :=
  let memoryId := python.newId "memory" state.rows.length
  { rows := state.rows ++ [⟨memoryId, executionSpanId, semanticTopic, payload, python.utcNowIso⟩]
    memoryIds := state.memoryIds ++ [memoryId] }

def Local.commitOne (state : Local) (candidatePayload : Dict) : Local × Ending :=
  match committedMemoryPayload python "local_sqlite" "auto_commit_local_sqlite" none none
      candidatePayload with
  | .error raised => (state, .raised raised)
  | .ok payload => (state.persistLongTermMemory python executionSpanId
      (python.textOr "unknown" (get candidatePayload "semantic_topic")) payload, .finished)

/-- `LocalCandidateBackedMemory.commit_candidates`. -/
def Local.commitCandidates (rows : List Row) (candidates : List Dict) : Local × Ending :=
  loop python (Local.commitOne python executionSpanId) candidates [] ⟨rows, []⟩

/-- What the client makes of one `add`: of the message by position and, after a `TypeError`, by
name. -/
structure Attempt where
  positional : Except String Value
  keyword : Except String Value

/-- `_add_sidecar_memory`. -/
def addSidecarMemory (attempt : Attempt) (candidate : Dict) : Except String Value := do
  let _message ← externalMemoryPayload python candidate
  match attempt.positional with
  | .error "TypeError" => attempt.keyword
  | other => other

def someText : Value → Option String
  | .str text => if text ≠ "" then some text else none
  | _ => none

/-- `_extract_sidecar_memory_id`. -/
def extractSidecarMemoryId (result : Value) : Option String :=
  match result with
  | .dict entries =>
      (["id", "memory_id", "memoryId"].findSome? fun key => someText (get entries key)).or
        (match (get entries "results").items with
        | .dict first :: _ => someText ((get first "id").orElse (get first "memory_id"))
        | _ => none)
  | _ => none

structure Collected where
  sidecarMemoryIds : List String
  committedCandidates : List Dict
  lastCommitStatus : String

/-- The attempt of the client at each `add` of a commit, in order. -/
abbrev Client := Nat → Attempt

/-- One turn of the loop with a client, of which the first exception ends the loop and drops what
was collected. -/
def Collected.sidecarOne (client : Client) (state : Collected) (payload : Dict) :
    Collected × Ending :=
  match addSidecarMemory python (client state.committedCandidates.length) payload with
  | .error raised => (⟨[], [], "sqlite_mirror_after_" ++ raised⟩, .broke)
  | .ok result =>
      let sidecarMemoryId := extractSidecarMemoryId result
      match committedMemoryPayload python "mem0_sidecar" "auto_commit_mem0_sidecar"
          sidecarMemoryId (some "sidecar_committed") payload with
      | .error raised => (state, .raised raised)
      | .ok committed => ({ state with
          sidecarMemoryIds := state.sidecarMemoryIds ++ sidecarMemoryId.toList
          committedCandidates := state.committedCandidates ++ [committed] }, .finished)

def Collected.fallbackOne (state : Collected) (payload : Dict) : Collected × Ending :=
  match committedMemoryPayload python "local_sqlite_fallback"
      "auto_commit_mem0_fallback_local_sqlite" none (some "fallback_local_sqlite") payload with
  | .error raised => (state, .raised raised)
  | .ok committed => ({ state with
      committedCandidates := state.committedCandidates ++ [committed] }, .finished)

/-- `Mem0SidecarMemory`, with the table of its data store. -/
structure Mem0SidecarMemory where
  client : Option Client
  lastCommitStatus : String
  lastSidecarMemoryIds : List String
  rows : List Row

/-- The first loop of a commit, with a client or without. -/
def Mem0SidecarMemory.collect (memory : Mem0SidecarMemory) (candidates : List Dict) :
    Collected × Ending :=
  match memory.client with
  | some client =>
      match loop python (Collected.sidecarOne python client) candidates []
          ⟨[], [], memory.lastCommitStatus⟩ with
      | (state, .finished) =>
          ({ state with lastCommitStatus := "sidecar_and_sqlite_mirror" }, .finished)
      | ended => ended
  | none =>
    loop python (Collected.fallbackOne python) candidates [] ⟨[], [], "fallback_local_sqlite"⟩

def Collected.mirrored (state : Collected) (candidate : Dict) : Except String Dict := do
  let status : Value := .str state.lastCommitStatus
  let ids : Value := .list (state.sidecarMemoryIds.map .str)
  let candidate := update candidate
    [("memory_backend", .str "mem0_sidecar"), ("sidecar_status", status),
      ("sidecar_memory_ids", ids)]
  let governance ← python.dictOr (get candidate "memory_governance")
  return insert candidate "memory_governance" (.dict (update governance
    [("mirror_backend", .str "local_sqlite"), ("mirror_status", status),
      ("sqlite_mirror_status", status), ("sidecar_memory_ids", ids),
      ("fallback_continuity",
        .bool ("fallback_".toList.isPrefixOf state.lastCommitStatus.toList))]))

def returned (memoryIds : List String) : Ending → Except String (List String)
  | .raised raised => .error raised
  | _ => .ok memoryIds

def Mem0SidecarMemory.mirror (memory : Mem0SidecarMemory) (state : Collected) :
    Mem0SidecarMemory × Except String (List String) :=
  let memory := { memory with
    lastCommitStatus := state.lastCommitStatus, lastSidecarMemoryIds := state.sidecarMemoryIds }
  match state.committedCandidates.mapM (Collected.mirrored python state) with
  | .error raised => (memory, .error raised)
  | .ok mirroredCandidates =>
      let (store, ending) :=
        Local.commitCandidates python executionSpanId memory.rows mirroredCandidates
      ({ memory with rows := store.rows }, returned store.memoryIds ending)

/-- `Mem0SidecarMemory.commit_candidates`. -/
def Mem0SidecarMemory.commitCandidates (memory : Mem0SidecarMemory) (candidates : List Dict) :
    Mem0SidecarMemory × Except String (List String) :=
  match memory.collect python candidates with
  | (state, .raised raised) =>
      ({ memory with lastCommitStatus := state.lastCommitStatus }, .error raised)
  | (state, _) => memory.mirror python executionSpanId state
section Choosing

/-- The payloads the loop visits, as long as none ends it, with their keys. -/
def chosen (python : Library) : List Dict → List String → Except String (List (String × Dict))
  | [], _ => .ok []
  | candidate :: rest, seen =>
      match unvisited python seen candidate with
      | .error raised => .error raised
      | .ok none => chosen python rest seen
      | .ok (some (dedupeKey, payload)) =>
          (chosen python rest (dedupeKey :: seen)).map ((dedupeKey, payload) :: ·)

def visits {State : Type u} (visit : State → Dict → State × Ending) :
    List (String × Dict) → State → State × Ending
  | [], state => (state, .finished)
  | (_, payload) :: rest, state =>
      match visit state payload with
      | (next, .finished) => visits visit rest next
      | stopped => stopped

def Committable (python : Library) (key : String) (candidate : Dict) : Prop :=
  ∃ payload, selected python candidate = .ok (some (key, payload))

variable {python : Library} {State : Type u} {visit : State → Dict → State × Ending}

theorem unvisited_some {seen : List String} {candidate payload : Dict} {key : String} :
    unvisited python seen candidate = .ok (some (key, payload)) ↔
      selected python candidate = .ok (some (key, payload)) ∧ key ∉ seen := by
  unfold unvisited
  cases selected python candidate with
  | error raised => simp [bind, Except.bind]
  | ok found =>
      cases found with
      | none => simp [bind, Except.bind, pure, Except.pure]
      | some found =>
          obtain ⟨first, held⟩ := found
          simp only [bind, Except.bind, pure, Except.pure, Except.ok.injEq, Option.some.injEq,
            Option.filter_eq_some_iff, Prod.mk.injEq]
          constructor
          · rintro ⟨⟨rfl, rfl⟩, new⟩
            exact ⟨⟨rfl, rfl⟩, by simpa using new⟩
          · rintro ⟨⟨rfl, rfl⟩, new⟩
            exact ⟨⟨rfl, rfl⟩, by simpa using new⟩

theorem seen_of_unvisited {seen : List String} {candidate : Dict} {key : String}
    (skipped : unvisited python seen candidate = .ok none)
    (committable : Committable python key candidate) : key ∈ seen := by
  obtain ⟨payload, reads⟩ := committable
  by_contra new
  have visited := unvisited_some.mpr ⟨reads, new⟩
  rw [skipped] at visited
  cases visited

theorem loop_chosen {candidates : List Dict} {seen : List String} {list : List (String × Dict)}
    (known : chosen python candidates seen = .ok list) (state : State) :
    loop python visit candidates seen state = visits visit list state := by
  induction candidates generalizing seen list state with
  | nil =>
      cases known
      rfl
  | cons candidate rest ih =>
      unfold chosen at known
      unfold loop
      split at known
      · cases known
      · exact ih known state
      next key payload visited =>
          cases later : chosen python rest (key :: seen) with
          | error raised =>
              rw [later] at known
              cases known
          | ok others =>
              rw [later] at known
              cases known
              unfold visits
              split
              · exact ih later _
              · rfl

theorem chosen_of_finished {candidates : List Dict} {seen : List String} {state : State}
    (finished : (loop python visit candidates seen state).2 = .finished) :
    ∃ list, chosen python candidates seen = .ok list := by
  induction candidates generalizing seen state with
  | nil => exact ⟨[], rfl⟩
  | cons candidate rest ih =>
      unfold loop at finished
      unfold chosen
      split at finished
      · cases finished
      · exact ih finished
      · split at finished
        · obtain ⟨others, later⟩ := ih finished
          exact ⟨_, by rw [later]; rfl⟩
        next stopped => exact (stopped _ (Prod.ext rfl finished)).elim

theorem committable_of_broke {candidates : List Dict} {seen : List String} {state : State}
    (broke : (loop python visit candidates seen state).2 = .broke) :
    ∃ candidate ∈ candidates, ∃ key, Committable python key candidate := by
  induction candidates generalizing seen state with
  | nil => cases broke
  | cons candidate rest ih =>
      unfold loop at broke
      split at broke
      · cases broke
      · obtain ⟨other, member, committable⟩ := ih broke
        exact ⟨other, .tail _ member, committable⟩
      next key payload visited =>
          exact ⟨candidate, .head _, key, payload, (unvisited_some.mp visited).1⟩

theorem chosen_keys {candidates : List Dict} {seen : List String} {list : List (String × Dict)}
    (known : chosen python candidates seen = .ok list) :
    (list.map Prod.fst).Nodup ∧ (∀ key ∈ list.map Prod.fst, key ∉ seen) ∧
      ∀ key, (key ∈ list.map Prod.fst ∨ key ∈ seen) ↔
        ((∃ candidate ∈ candidates, Committable python key candidate) ∨ key ∈ seen) := by
  induction candidates generalizing seen list with
  | nil =>
      cases known
      simp
  | cons candidate rest ih =>
      unfold chosen at known
      split at known
      · cases known
      · next skipped =>
          obtain ⟨once, fresh, all⟩ := ih known
          refine ⟨once, fresh, fun key => (all key).trans ?_⟩
          rw [List.exists_mem_cons_iff, or_assoc]
          exact ⟨.inr, Or.rec (fun here => .inr (seen_of_unvisited skipped here)) id⟩
      next first payload visited =>
          obtain ⟨reads, new⟩ := unvisited_some.mp visited
          have only (key : String) : Committable python key candidate ↔ first = key := by
            simp [Committable, reads]
          cases later : chosen python rest (first :: seen) with
          | error raised =>
              rw [later] at known
              cases known
          | ok others =>
              rw [later] at known
              cases known
              obtain ⟨once, fresh, all⟩ := ih later
              refine ⟨?_, ?_, fun key => ?_⟩
              · rw [List.map_cons, List.nodup_cons]
                exact ⟨fun member => fresh first member (.head _), once⟩
              · rw [List.map_cons, List.forall_mem_cons]
                exact ⟨new, fun key member held => fresh key member (.tail _ held)⟩
              · have rest := all key
                rw [List.mem_cons] at rest
                rw [List.exists_mem_cons_iff, only, List.map_cons, List.mem_cons]
                grind

theorem chosen_selected {candidates : List Dict} {seen : List String} {list : List (String × Dict)}
    (known : chosen python candidates seen = .ok list) :
    ∀ pair ∈ list, dedupeKey python pair.2 = .ok pair.1 := by
  induction candidates generalizing seen list with
  | nil =>
      cases known
      simp
  | cons candidate rest ih =>
      unfold chosen at known
      split at known
      · cases known
      · exact ih known
      next first payload visited =>
          cases later : chosen python rest (first :: seen) with
          | error raised =>
              rw [later] at known
              cases known
          | ok others =>
              rw [later] at known
              cases known
              rw [List.forall_mem_cons]
              exact ⟨key_of_selected (unvisited_some.mp visited).1, ih later⟩

end Choosing

/-- The governance and the history of the payload can be read. -/
def Readable (python : Library) (payload : Dict) : Prop :=
  ∃ governance history, python.dictOr (get payload "memory_governance") = .ok governance ∧
    listOr (get governance "lifecycle_history") = .ok history

section Collecting

variable {python : Library}

theorem committed_iff (commitBackend commitReason : String)
    (externalMemoryId sidecarStatus : Option String) (payload : Dict) :
    (∃ committed, committedMemoryPayload python commitBackend commitReason externalMemoryId
      sidecarStatus payload = .ok committed) ↔ Readable python payload := by
  constructor
  · rintro ⟨committed, known⟩
    obtain ⟨governance, governs, known⟩ := bind_eq_ok.mp known
    obtain ⟨history, lives, known⟩ := bind_eq_ok.mp known
    exact ⟨governance, history, governs, lives⟩
  · rintro ⟨governance, history, governs, lives⟩
    obtain ⟨committed, known, _⟩ := committed_marked governs lives commitBackend commitReason
      externalMemoryId sidecarStatus
    exact ⟨committed, known⟩

theorem marked_of_committed {commitBackend commitReason : String}
    {externalMemoryId sidecarStatus : Option String} {payload committed : Dict}
    (known : committedMemoryPayload python commitBackend commitReason externalMemoryId
      sidecarStatus payload = .ok committed) : Marked python payload committed := by
  obtain ⟨governance, history, governs, lives⟩ := (committed_iff _ _ _ _ _).mp ⟨committed, known⟩
  obtain ⟨other, also, marked⟩ := committed_marked governs lives commitBackend commitReason
    externalMemoryId sidecarStatus
  cases known.symm.trans also
  exact marked

/-- The turn of a loop with these outcomes: a payload that is accepted is collected, marked. -/
structure Collects (python : Library) (accepted : Nat → Dict → Prop)
    (visit : Collected → Dict → Collected × Ending) : Prop where
  takes : ∀ state payload, accepted state.committedCandidates.length payload →
    Readable python payload → ∃ next committed, visit state payload = (next, .finished) ∧
      next.committedCandidates = state.committedCandidates ++ [committed] ∧
      Marked python payload committed
  needs : ∀ state payload, (visit state payload).2 = .finished →
    accepted state.committedCandidates.length payload ∧ Readable python payload
  drops : ∀ state payload, (visit state payload).2 = .broke →
    (visit state payload).1.committedCandidates = []

/-- Each payload is accepted at its place, counted from `start`, and can be read. -/
def AllAccepted (python : Library) (accepted : Nat → Dict → Prop) :
    Nat → List (String × Dict) → Prop
  | _, [] => True
  | start, (_, payload) :: rest =>
      accepted start payload ∧ Readable python payload ∧
        AllAccepted python accepted (start + 1) rest

abbrev AllMarked (python : Library) : List (String × Dict) → List Dict → Prop :=
  List.Forall₂ fun pair committed => Marked python pair.2 committed

variable {accepted : Nat → Dict → Prop} {visit : Collected → Dict → Collected × Ending}

theorem Collects.visits_all (collects : Collects python accepted visit)
    {list : List (String × Dict)} {state : Collected}
    (fine : AllAccepted python accepted state.committedCandidates.length list) :
    ∃ next added, visits visit list state = (next, .finished) ∧
      next.committedCandidates = state.committedCandidates ++ added ∧
      AllMarked python list added := by
  induction list generalizing state with
  | nil => exact ⟨state, [], rfl, by simp, .nil⟩
  | cons pair rest ih =>
      obtain ⟨takes, reads, later⟩ := fine
      obtain ⟨next, committed, visited, grown, marked⟩ := collects.takes state pair.2 takes reads
      have longer : next.committedCandidates.length = state.committedCandidates.length + 1 := by
        simp [grown]
      obtain ⟨last, added, run, all, allMarked⟩ := ih (longer ▸ later)
      refine ⟨last, committed :: added, ?_, ?_, .cons marked allMarked⟩
      · unfold visits
        rw [visited]
        exact run
      · rw [all, grown, List.append_assoc, List.singleton_append]

theorem Collects.all_of_finished (collects : Collects python accepted visit)
    {list : List (String × Dict)} {state : Collected}
    (finished : (visits visit list state).2 = .finished) :
    AllAccepted python accepted state.committedCandidates.length list := by
  induction list generalizing state with
  | nil => trivial
  | cons pair rest ih =>
      unfold visits at finished
      split at finished
      · next next visited =>
          obtain ⟨takes, reads⟩ := collects.needs state pair.2 (by rw [visited])
          obtain ⟨other, committed, also, grown, _⟩ := collects.takes state pair.2 takes reads
          cases visited.symm.trans also
          have later := ih finished
          rw [grown, List.length_append] at later
          exact ⟨takes, reads, later⟩
      next stopped => exact (stopped _ (Prod.ext rfl finished)).elim

theorem Collects.dropped_of_broke (collects : Collects python accepted visit)
    {candidates : List Dict} {seen : List String} {state : Collected}
    (broke : (loop python visit candidates seen state).2 = .broke) :
    (loop python visit candidates seen state).1.committedCandidates = [] := by
  induction candidates generalizing seen state with
  | nil => cases broke
  | cons candidate rest ih =>
      unfold loop at broke ⊢
      split at broke
      · cases broke
      · exact ih broke
      next key payload visited =>
          split at broke
          · exact ih broke
          next stopped => exact collects.drops state payload broke

theorem sidecar_collects (python : Library) (client : Client) :
    Collects python (fun place payload => ∃ result, addSidecarMemory python (client place) payload =
      .ok result) (Collected.sidecarOne python client) where
  takes state payload := by
    rintro ⟨result, added⟩ readable
    obtain ⟨committed, known⟩ := (committed_iff "mem0_sidecar" "auto_commit_mem0_sidecar"
      (extractSidecarMemoryId result) (some "sidecar_committed") payload).mpr readable
    have turn : Collected.sidecarOne python client state payload = ({ state with
        sidecarMemoryIds := state.sidecarMemoryIds ++ (extractSidecarMemoryId result).toList
        committedCandidates := state.committedCandidates ++ [committed] }, .finished) := by
      unfold Collected.sidecarOne
      rw [added]
      dsimp only
      rw [known]
    exact ⟨_, committed, turn, rfl, marked_of_committed known⟩
  needs state payload finished := by
    unfold Collected.sidecarOne at finished
    split at finished
    · cases finished
    next result added =>
        dsimp only at finished
        split at finished
        · cases finished
        next committed known => exact ⟨⟨result, added⟩, (committed_iff _ _ _ _ _).mp ⟨_, known⟩⟩
  drops state payload broke := by
    unfold Collected.sidecarOne at broke ⊢
    split at broke
    · rfl
    · dsimp only at broke
      split at broke
      · cases broke
      · cases broke

theorem fallback_collects (python : Library) :
    Collects python (fun _ _ => True) (Collected.fallbackOne python) where
  takes state payload _ readable := by
    obtain ⟨committed, known⟩ := (committed_iff "local_sqlite_fallback"
      "auto_commit_mem0_fallback_local_sqlite" none (some "fallback_local_sqlite")
      payload).mpr readable
    have turn : Collected.fallbackOne python state payload = ({ state with
        committedCandidates := state.committedCandidates ++ [committed] }, .finished) := by
      unfold Collected.fallbackOne
      rw [known]
    exact ⟨_, committed, turn, rfl, marked_of_committed known⟩
  needs state payload finished := by
    unfold Collected.fallbackOne at finished
    split at finished
    · cases finished
    next committed known => exact ⟨trivial, (committed_iff _ _ _ _ _).mp ⟨_, known⟩⟩
  drops state payload broke := by
    unfold Collected.fallbackOne at broke
    split at broke
    · cases broke
    · cases broke

end Collecting

section Mirroring

variable {python : Library} (executionSpanId : String)

theorem mirrored_marked (state : Collected) {payload committed : Dict}
    (marked : Marked python payload committed) :
    ∃ copy, state.mirrored python committed = .ok copy ∧ Marked python payload copy := by
  obtain ⟨before, governance, reads, holds, lives, ⟨history, listed⟩, flag, named⟩ := marked.marks
  unfold Collected.mirrored
  dsimp only
  rw [get_update_ne (by simp), holds, dictOr_dict]
  refine ⟨_, rfl, ⟨before, _, reads, get_insert_self, ?_, ⟨history, ?_⟩, ?_, ?_⟩,
    fun key member => ?_⟩
  · rw [get_update_ne (by simp), lives]
  · rw [get_update_ne (by simp), listed]
  · rw [get_update_ne (by simp), flag]
  · rw [get_update_ne (by simp), named]
  · have apart : key ≠ "memory_governance" ∧ key ≠ "memory_backend" ∧ key ≠ "sidecar_status" ∧
        key ≠ "sidecar_memory_ids" := by
      simp only [List.mem_cons, List.not_mem_nil, or_false] at member
      rcases member with rfl | rfl | rfl | rfl <;> decide
    rw [get_insert_ne apart.1, get_update_ne (by simpa using ⟨apart.2.1.symm, apart.2.2.1.symm,
      apart.2.2.2.symm⟩), marked.keeps key member]

theorem mirrored_all (state : Collected) {list : List (String × Dict)} {added : List Dict}
    (marked : AllMarked python list added) :
    ∃ copies, added.mapM (Collected.mirrored python state) = .ok copies ∧
      AllMarked python list copies := by
  induction marked with
  | nil => exact ⟨[], rfl, .nil⟩
  | cons here _ ih =>
      obtain ⟨copies, copied, allMarked⟩ := ih
      obtain ⟨copy, known, stays⟩ := mirrored_marked state here
      refine ⟨copy :: copies, ?_, .cons stays allMarked⟩
      rw [List.mapM_cons, known, copied]
      rfl

def rowKey (python : Library) (row : Row) : Except String String := dedupeKey python row.payload

theorem commitOne_marked (state : Local) {payload copy : Dict} {key : String}
    (marked : Marked python payload copy) (keyed : dedupeKey python payload = .ok key) :
    ∃ next row, state.commitOne python executionSpanId copy = (next, .finished) ∧
      next.rows = state.rows ++ [row] ∧ rowKey python row = .ok key := by
  obtain ⟨stored, known⟩ := (committed_iff "local_sqlite" "auto_commit_local_sqlite" none none
    copy).mpr marked.readable
  have turn : state.commitOne python executionSpanId copy =
      (state.persistLongTermMemory python executionSpanId
        (python.textOr "unknown" (get copy "semantic_topic")) stored, .finished) := by
    unfold Local.commitOne
    rw [known]
  have same : dedupeKey python stored = .ok key :=
    ((marked_of_committed known).key.trans marked.key).trans keyed
  exact ⟨_, _, turn, rfl, same⟩

theorem local_loop {list : List (String × Dict)} {copies : List Dict} {seen : List String}
    (marked : AllMarked python list copies) (state : Local)
    (once : (list.map Prod.fst).Nodup) (fresh : ∀ key ∈ list.map Prod.fst, key ∉ seen)
    (keyed : ∀ pair ∈ list, dedupeKey python pair.2 = .ok pair.1) :
    ∃ next rows, ∃ keys : List String,
      loop python (Local.commitOne python executionSpanId) copies seen state =
        (next, .finished) ∧ next.rows = state.rows ++ rows ∧
      rows.map (rowKey python) = keys.map .ok ∧ keys.Sublist (list.map Prod.fst) ∧
      ∀ pair ∈ list, pair.1 ∈ keys ↔ Flagged python pair.2 := by
  induction marked generalizing seen state with
  | nil => exact ⟨state, [], [], rfl, by simp, rfl, .slnil, by simp⟩
  | @cons pair copy rest copies here _ ih =>
      rw [List.map_cons, List.nodup_cons] at once
      rw [List.map_cons, List.forall_mem_cons] at fresh
      rw [List.forall_mem_cons] at keyed
      unfold loop
      -- a flagged copy is stored and its key is seen from now on; another one is passed over
      rcases here.selected_again keyed.1 with ⟨flagged, reads⟩ | ⟨unflagged, reads⟩
      · have visited := unvisited_some.mpr ⟨reads, fresh.1⟩
        obtain ⟨next, row, turn, grown, rowed⟩ :=
          commitOne_marked executionSpanId state here keyed.1
        have later : ∀ key ∈ rest.map Prod.fst, key ∉ pair.1 :: seen := by
          intro key member held
          rcases List.mem_cons.mp held with rfl | held
          · exact once.1 member
          · exact fresh.2 key member held
        obtain ⟨last, rows, keys, run, all, rowsKeyed, among, flags⟩ :=
          ih next once.2 later keyed.2
        refine ⟨last, row :: rows, pair.1 :: keys, ?_, ?_, ?_, among.cons_cons _, ?_⟩
        · rw [visited]
          dsimp only
          rw [turn]
          exact run
        · rw [all, grown, List.append_assoc, List.singleton_append]
        · rw [List.map_cons, List.map_cons, rowed, rowsKeyed]
        · rw [List.forall_mem_cons]
          refine ⟨by simpa using flagged, fun other member => ?_⟩
          have apart : other.1 ≠ pair.1 := fun same =>
            once.1 (same ▸ List.mem_map_of_mem member)
          rw [List.mem_cons, or_iff_right apart]
          exact flags other member
      · have skipped : unvisited python seen copy = .ok none := by
          unfold unvisited
          rw [reads]
          rfl
        obtain ⟨last, rows, keys, run, all, rowsKeyed, among, flags⟩ :=
          ih state once.2 fresh.2 keyed.2
        refine ⟨last, rows, keys, ?_, all, rowsKeyed, among.cons _, ?_⟩
        · rw [skipped]
          exact run
        · rw [List.forall_mem_cons]
          exact ⟨iff_of_false (fun held => once.1 (among.subset held)) unflagged, flags⟩

end Mirroring

section Commit

variable {python : Library} (executionSpanId : String)

/-- A commit stores, below the rows that were there, one row for each key of the candidates that
may be committed, and no other. -/
def Stores (python : Library) (executionSpanId : String) (memory : Mem0SidecarMemory)
    (candidates : List Dict) : Prop :=
  ∃ after memoryIds rows, ∃ keys : List String,
    memory.commitCandidates python executionSpanId candidates = (after, .ok memoryIds) ∧
    after.rows = memory.rows ++ rows ∧ rows.map (rowKey python) = keys.map .ok ∧ keys.Nodup ∧
    ∀ key, key ∈ keys ↔ ∃ candidate ∈ candidates, Committable python key candidate

/-- The sidecar takes the payload at this place, if there is a sidecar. -/
def Takes (python : Library) (client : Option Client) (place : Nat) (payload : Dict) : Prop :=
  ∀ attempts ∈ client, ∃ result, addSidecarMemory python (attempts place) payload = .ok result

/-- Either first loop of a commit is one over turns that collect. -/
theorem collect_loop (python : Library) (memory : Mem0SidecarMemory) (candidates : List Dict) :
    ∃ visit start, Collects python (Takes python memory.client) visit ∧
      start.committedCandidates = [] ∧
      (memory.collect python candidates).2 = (loop python visit candidates [] start).2 ∧
      (memory.collect python candidates).1.committedCandidates =
        (loop python visit candidates [] start).1.committedCandidates := by
  unfold Mem0SidecarMemory.collect
  cases memory.client with
  | none =>
      have collects := fallback_collects python
      refine ⟨Collected.fallbackOne python, ⟨[], [], "fallback_local_sqlite"⟩, ?_, rfl, rfl, rfl⟩
      constructor
      · exact fun state payload _ => collects.takes state payload trivial
      · intro state payload finished
        refine ⟨fun attempts absent => ?_, (collects.needs state payload finished).2⟩
        cases absent
      · exact collects.drops
  | some client =>
      have collects := sidecar_collects python client
      refine ⟨Collected.sidecarOne python client, ⟨[], [], memory.lastCommitStatus⟩, ?_, rfl,
        ?_, ?_⟩
      · constructor
        · exact fun state payload takes => collects.takes state payload (takes client rfl)
        · intro state payload finished
          obtain ⟨taken, readable⟩ := collects.needs state payload finished
          refine ⟨fun attempts same => ?_, readable⟩
          cases same
          exact taken
        · exact collects.drops
      · dsimp only
        split
        next state ended => rw [ended]
        · rfl
      · dsimp only
        split
        next state ended => rw [ended]
        · rfl

theorem mirror_rows (memory : Mem0SidecarMemory) {state : Collected} {list : List (String × Dict)}
    (marked : AllMarked python list state.committedCandidates)
    (once : (list.map Prod.fst).Nodup)
    (keyed : ∀ pair ∈ list, dedupeKey python pair.2 = .ok pair.1) :
    ∃ after memoryIds rows, ∃ keys : List String,
      memory.mirror python executionSpanId state = (after, .ok memoryIds) ∧
      after.rows = memory.rows ++ rows ∧ rows.map (rowKey python) = keys.map .ok ∧
      keys.Sublist (list.map Prod.fst) ∧ ∀ pair ∈ list, pair.1 ∈ keys ↔ Flagged python pair.2 := by
  obtain ⟨copies, copied, stays⟩ := mirrored_all state marked
  obtain ⟨store, rows, keys, run, grown, rowed, among, flags⟩ :=
    local_loop executionSpanId stays ⟨memory.rows, []⟩ once
      (fun key _ => List.not_mem_nil) keyed
  have mirrors : memory.mirror python executionSpanId state = ({ memory with
      lastCommitStatus := state.lastCommitStatus
      lastSidecarMemoryIds := state.sidecarMemoryIds
      rows := store.rows }, .ok store.memoryIds) := by
    unfold Mem0SidecarMemory.mirror
    dsimp only
    rw [copied]
    dsimp only
    unfold Local.commitCandidates
    rw [run]
    rfl
  exact ⟨_, _, rows, keys, mirrors, grown, rowed, among, flags⟩

/-- What a commit stores if the sidecar takes all: the candidates with the flag. -/
theorem commit_taken (memory : Mem0SidecarMemory) {candidates : List Dict}
    {list : List (String × Dict)} (known : chosen python candidates [] = .ok list)
    (taken : AllAccepted python (Takes python memory.client) 0 list) :
    ∃ after memoryIds rows, ∃ keys : List String,
      memory.commitCandidates python executionSpanId candidates = (after, .ok memoryIds) ∧
      after.rows = memory.rows ++ rows ∧ rows.map (rowKey python) = keys.map .ok ∧
      keys.Sublist (list.map Prod.fst) ∧ ∀ pair ∈ list, pair.1 ∈ keys ↔ Flagged python pair.2 := by
  obtain ⟨visit, start, collects, empty, ends, holds⟩ :=
    collect_loop python memory candidates
  have fromStart : AllAccepted python (Takes python memory.client)
      start.committedCandidates.length list := by
    rw [empty]
    exact taken
  obtain ⟨last, added, run, all, marked⟩ := collects.visits_all fromStart
  rw [loop_chosen known, run] at ends holds
  rw [all, empty, List.nil_append] at holds
  unfold Mem0SidecarMemory.commitCandidates
  cases first : memory.collect python candidates with
  | mk state ending =>
      rw [first] at ends holds
      obtain rfl : ending = .finished := ends
      exact mirror_rows executionSpanId memory (by rw [holds]; exact marked) (chosen_keys known).1
        (chosen_selected known)

/-- A commit that stores what it should was offered candidates that could all be read, and its
sidecar took all of them. -/
theorem taken_of_stores (memory : Mem0SidecarMemory) {candidates : List Dict}
    (stores : Stores python executionSpanId memory candidates) :
    ∃ list, chosen python candidates [] = .ok list ∧
      AllAccepted python (Takes python memory.client) 0 list := by
  obtain ⟨after, memoryIds, rows, keys, commits, grown, rowed, _, all⟩ := stores
  obtain ⟨visit, start, collects, empty, ends, holds⟩ :=
    collect_loop python memory candidates
  cases ending : (loop python visit candidates [] start).2 with
  | finished =>
      obtain ⟨list, known⟩ := chosen_of_finished ending
      rw [loop_chosen known] at ending
      have taken := collects.all_of_finished ending
      rw [empty] at taken
      exact ⟨list, known, taken⟩
  | broke =>
      -- nothing is mirrored, although a candidate was offered to the sidecar
      obtain ⟨candidate, member, key, committable⟩ := committable_of_broke ending
      have dropped := collects.dropped_of_broke ending
      unfold Mem0SidecarMemory.commitCandidates at commits
      cases first : memory.collect python candidates with
      | mk state ended =>
          rw [first] at ends holds commits
          rw [ending] at ends
          obtain rfl : ended = .broke := ends
          have none : AllMarked python [] state.committedCandidates := by
            rw [show state.committedCandidates = [] from holds.trans dropped]
            exact .nil
          obtain ⟨other, otherIds, fewer, noKeys, mirrors, same, keyed, among, _⟩ :=
            mirror_rows executionSpanId memory none (by simp) (by simp)
          obtain ⟨rfl, _⟩ := Prod.mk.inj (mirrors.symm.trans commits)
          obtain rfl : fewer = rows := List.append_cancel_left (same.symm.trans grown)
          obtain rfl : noKeys = [] := List.sublist_nil.mp among
          obtain rfl : keys = [] := by
            rw [keyed] at rowed
            exact List.map_eq_nil_iff.mp rowed.symm
          exact absurd ((all key).mpr ⟨candidate, member, committable⟩) List.not_mem_nil
  | raised name =>
      unfold Mem0SidecarMemory.commitCandidates at commits
      cases first : memory.collect python candidates with
      | mk state ended =>
          rw [first] at ends commits
          rw [ending] at ends
          obtain rfl : ended = .raised name := ends
          cases (Prod.mk.inj commits).2

/-- A commit stores one row for each key of the candidates that may be committed exactly if all
that are offered can be read, the sidecar takes every one of them, and each has the flag that
the second pass asks for, whatever its state. -/
theorem stores_iff (memory : Mem0SidecarMemory) (candidates : List Dict) :
    Stores python executionSpanId memory candidates ↔
      ∃ list, chosen python candidates [] = .ok list ∧
        AllAccepted python (Takes python memory.client) 0 list ∧
        ∀ pair ∈ list, Flagged python pair.2 := by
  constructor
  · intro stores
    obtain ⟨list, known, taken⟩ := taken_of_stores executionSpanId memory stores
    refine ⟨list, known, taken, fun pair member => ?_⟩
    obtain ⟨after, memoryIds, rows, keys, commits, grown, rowed, _, all⟩ := stores
    obtain ⟨other, otherIds, others, kept, also, same, keyed, _, flags⟩ :=
      commit_taken executionSpanId memory known taken
    obtain ⟨rfl, _⟩ := Prod.mk.inj (commits.symm.trans also)
    obtain rfl : rows = others := List.append_cancel_left (grown.symm.trans same)
    have keysSame : keys = kept :=
      List.map_injective_iff.mpr (fun _ _ => Except.ok.inj) (rowed.symm.trans keyed)
    have offered := ((chosen_keys known).2.2 pair.1).mp (.inl (List.mem_map_of_mem member))
    have stored : pair.1 ∈ keys := (all pair.1).mpr (offered.resolve_right List.not_mem_nil)
    exact (flags pair member).mp (keysSame ▸ stored)
  · rintro ⟨list, known, taken, flagged⟩
    obtain ⟨after, memoryIds, rows, keys, commits, grown, rowed, among, flags⟩ :=
      commit_taken executionSpanId memory known taken
    obtain ⟨once, _, all⟩ := chosen_keys known
    refine ⟨after, memoryIds, rows, keys, commits, grown, rowed, among.nodup once, fun key => ?_⟩
    have listed : key ∈ keys ↔ key ∈ list.map Prod.fst := by
      refine ⟨fun held => among.subset held, fun member => ?_⟩
      obtain ⟨pair, there, rfl⟩ := List.mem_map.mp member
      exact (flags pair there).mpr (flagged pair there)
    simpa using listed.trans (or_iff_left List.not_mem_nil |>.symm.trans (all key))

/-- A screened candidate as the workflow commits it. -/
def acceptedCandidate (dedupeKey : String) : Dict :=
  [("semantic_topic", .str "user.input.chat"), ("event_ids", .list [.str "evt-1"]),
    ("memory_governance", .dict [("lifecycle_state", .str "accepted"),
      ("commit_eligible", .bool true), ("dedupe_key", .str dedupeKey),
      ("lifecycle_history", .list [.str "proposed", .str "screened", .str "accepted"])])]

/-- A client that takes the first candidate and then times out. -/
def failingClient : Client := fun place =>
  if place = 0 then ⟨.ok (.dict [("id", .str "mem-1")]), .error "TypeError"⟩
  else ⟨.error "TimeoutError", .error "TimeoutError"⟩

def plainLibrary : Library where
  repr _ := "[...]"
  parsed _ := .error "ValueError"
  truncated _ := .ok 0
  toDict _ := .error "TypeError"
  sha256 text := text
  rounded _ := .ok (.real "0.5" (by decide))
  utcAfterDays _ := "2026-05-11T12:00:00Z"
  utcNowIso := "2026-05-11T12:00:00Z"
  newId kind number := kind ++ "-" ++ toString number

def emptyMemory (client : Option Client) : Mem0SidecarMemory := ⟨client, "not_requested", [], []⟩

/-- The add of the second candidate raises: the commit says that the table mirrors the sidecar,
and has stored neither. -/
theorem failing_add_stores_nothing :
    ¬ Stores plainLibrary "span-1" (emptyMemory (some failingClient))
        [acceptedCandidate "memcand:1", acceptedCandidate "memcand:2"] ∧
      ((emptyMemory (some failingClient)).commitCandidates plainLibrary "span-1"
        [acceptedCandidate "memcand:1", acceptedCandidate "memcand:2"]).1.lastCommitStatus =
          "sqlite_mirror_after_TimeoutError" := by
  have commits : (emptyMemory (some failingClient)).commitCandidates plainLibrary "span-1"
      [acceptedCandidate "memcand:1", acceptedCandidate "memcand:2"] =
        (⟨some failingClient, "sqlite_mirror_after_TimeoutError", [], []⟩, .ok []) := rfl
  refine ⟨fun ⟨after, memoryIds, rows, keys, again, grown, rowed, _, all⟩ => ?_, by rw [commits]⟩
  obtain ⟨rfl, _⟩ := Prod.mk.inj (commits.symm.trans again)
  obtain rfl : rows = [] := grown.symm
  obtain rfl : keys = [] := List.map_eq_nil_iff.mp rowed.symm
  have committable : Committable plainLibrary "memcand:1" (acceptedCandidate "memcand:1") :=
    ⟨acceptedCandidate "memcand:1", rfl⟩
  exact absurd ((all "memcand:1").mpr ⟨_, List.mem_cons_self, committable⟩) List.not_mem_nil

end Commit

end NeuroLink.SidecarMemory
