import Mathlib.Algebra.Group.Int.Defs
import NeuroLink.EventMarks
import NeuroLink.KeyFilter
import NeuroLink.StepRun

/-!
Rows of the event monitor on their way through the router of the Core. The router drops what
it has seen the key of, the routed events are stored, and a router that is started anew is
seeded with the keys that were stored last.
-/

namespace NeuroLink.EventRouting

open PyValue LiveEvents EventMarks

/-- `PerceptionEvent`. An event that brings no id draws one that no other event has. -/
structure PerceptionEvent where
  eventId : Option String
  sourceKind : String
  sourceNode : Value
  sourceApp : Value
  eventType : String
  semanticTopic : Value
  timestampWall : String
  priority : Int
  dedupeKey : Option String
  causalityId : Value
  payload : Dict

/-- `event.dedupe_key or event.event_id`; a drawn id is no key. -/
def PerceptionEvent.key (event : PerceptionEvent) : Option String :=
  match event.dedupeKey with
  | some key => if key = "" then event.eventId else some key
  | none => event.eventId

def textAt (row : Dict) (key : String) : Option String :=
  match PyValue.get row key with
  | .str text => some text
  | _ => none

section Router

variable (py : Builtins)

/-- `PerceptionEvent.from_payload`; it raises if the priority or the payload cannot be read. -/
def fromPayload (payload : Dict) (now : String) : Option PerceptionEvent := do
  let priority ← py.toInt ((payload.lookup "priority").getD (.int 50))
  let held ← py.toDict (PyValue.get payload "payload")
  return {
    eventId := if (PyValue.get payload "event_id").truthy then
      some ((PyValue.get payload "event_id").text py.repr) else none
    sourceKind := py.textOr (PyValue.get payload "source_kind") "core"
    sourceNode := PyValue.get payload "source_node"
    sourceApp := PyValue.get payload "source_app"
    eventType := py.textOr (PyValue.get payload "event_type") "unknown"
    semanticTopic := PyValue.get payload "semantic_topic"
    timestampWall := py.textOr (PyValue.get payload "timestamp_wall") now
    priority
    dedupeKey := textAt payload "dedupe_key"
    causalityId := PyValue.get payload "causality_id"
    payload := held }

/-- `_normalize_payload`. -/
def normalizePayload (rawEvent : Dict) : Dict :=
  let payload := setdefault rawEvent "source_kind" (.str "external")
  let payload := setdefault payload "event_type"
    ((PyValue.get payload "semantic_topic").orElse (.str "unknown"))
  let payload := setdefault payload "semantic_topic"
    ((PyValue.get payload "event_type").orElse (.str "unknown"))
  let payload := setdefault payload "priority" (.int 50)
  let payload := setdefault payload "policy_tags" (.list [])
  let payload := insertIf (!(PyValue.get payload "dedupe_key").truthy) payload "dedupe_key"
    (PyValue.get payload "event_id")
  let payload := insertIf (!(PyValue.get payload "causality_id").truthy) payload "causality_id"
    ((PyValue.get payload "dedupe_key").orElse (PyValue.get payload "event_id"))
  setdefault payload "payload" (.dict [])

def readEvent (rawEvent : Dict) (now : String) : Option PerceptionEvent :=
  fromPayload py (normalizePayload rawEvent) now

theorem readEvent_eq (rawEvent : Dict) (now : String) :
    readEvent py rawEvent now = fromPayload py (normalizePayload rawEvent) now := rfl

attribute [irreducible] readEvent

/-- The loop of `normalize`: for each row the event, or nothing if its key was seen. The rows
come with the time at which they are read; the keys seen so far stay seen if one raises. -/
def normalizeRows (seen : List String) :
    List (Dict × String) → Option (List (Option PerceptionEvent)) × List String
  | [] => (some [], seen)
  | (rawEvent, now) :: rest =>
      match readEvent py rawEvent now with
      | none => (none, seen)
      | some event =>
          let known := event.key.any seen.contains
          let later := normalizeRows (if known then seen else event.key.toList ++ seen) rest
          (later.1.map ((if known then none else some event) :: ·), later.2)

end Router

/-- The key `normalize` sorts by; it reads the priority from the largest on. -/
def PerceptionEvent.sortKey (event : PerceptionEvent) : Int × String × String :=
  (-event.priority, event.timestampWall, event.eventId.getD "")

def sortsBefore (left right : Int × String × String) : Bool :=
  if left.1 ≠ right.1 then left.1 < right.1
  else if left.2.1 ≠ right.2.1 then left.2.1 < right.2.1
  else left.2.2 ≤ right.2.2

/-- The events `route` publishes. -/
def routedEvents (decisions : List (Option PerceptionEvent)) : List PerceptionEvent :=
  (decisions.filterMap id).mergeSort fun left right => sortsBefore left.sortKey right.sortKey

section Storing

variable (py : Builtins)

def bindable : Value → Bool
  | .int number => -2 ^ 63 ≤ number && number < 2 ^ 63
  | .str text => py.encodes text
  | .list _ | .dict _ => false
  | _ => true

def PerceptionEvent.bindable (event : PerceptionEvent) : Bool :=
  [.str (event.eventId.getD ""), .str event.sourceKind, event.sourceNode, event.sourceApp,
    .str event.eventType, event.semanticTopic, .str event.timestampWall, .int event.priority,
    .str (event.dedupeKey.getD ""), event.causalityId].all (EventRouting.bindable py)

/-- `persist_event`: an event with an id that is there already is ignored, and one that SQLite
does not take raises. -/
def persistEvent (stored : List PerceptionEvent) (event : PerceptionEvent) :
    Option (List PerceptionEvent) :=
  if ¬ event.bindable py then none
  else if event.eventId.isSome && stored.any (·.eventId == event.eventId) then some stored
  else some (stored ++ [event])

def persistEvents (stored : List PerceptionEvent) : List PerceptionEvent → List PerceptionEvent
  | [] => stored
  | event :: rest =>
      match persistEvent py stored event with
      | none => stored
      | some stored => persistEvents stored rest

end Storing

/-- A stored key that is neither `NULL` nor empty. -/
def storedKey (event : PerceptionEvent) : Option String := event.dedupeKey.filter (· ≠ "")

/-- `get_recent_dedupe_keys`: of events of one time the one that was stored later comes first. -/
def recentDedupeKeys (limit : Nat) (stored : List PerceptionEvent) : List String :=
  (((stored.reverse.filter fun event => (storedKey event).isSome).mergeSort
    fun left right => right.timestampWall ≤ left.timestampWall).take limit).filterMap storedKey

/-- The keys of the router and the events of the store. -/
structure Core where
  seen : List String
  stored : List PerceptionEvent

def Core.fresh : Core := ⟨[], []⟩

structure Arrival where
  row : Row
  now : String

inductive Step where
  | batch (collector : Collector) (arrivals : List Arrival)
  | restart

abbrev seedLimit : Nat := 1000

section Runs

variable (py : Builtins)

def collectRows (collector : Collector) (arrivals : List Arrival) :
    Option (List (Dict × String)) :=
  arrivals.mapM fun arrival =>
    (collector.collect py arrival.row).map fun row => (row, arrival.now)

/-- A batch is collected, routed and stored: whether each row is routed, and what is left. -/
def ingest (core : Core) (collector : Collector) (arrivals : List Arrival) : List Bool × Core :=
  let lost := arrivals.map fun _ => false
  match collectRows py collector arrivals with
  | none => (lost, core)
  | some rows =>
      match normalizeRows py core.seen rows with
      | (none, seen) => (lost, { core with seen })
      | (some decisions, seen) =>
          (decisions.map Option.isSome,
            ⟨seen, persistEvents py core.stored (routedEvents decisions)⟩)

def Core.step (core : Core) : Step → Core
  | .batch collector arrivals => (ingest py core collector arrivals).2
  | .restart => { core with seen := recentDedupeKeys seedLimit core.stored }

/-- A row that came up, what it says of itself to its collector, and whether it was routed. -/
structure Occurrence where
  row : Row
  mark : Option Mark
  routed : Bool

def Occurrence.identity (occurrence : Occurrence) : Option String :=
  occurrence.mark.map Mark.identity

def occurrences (core : Core) : Step → List Occurrence
  | .batch collector arrivals =>
      (arrivals.zip (ingest py core collector arrivals).1).map fun entry =>
        ⟨entry.1.row, mark py collector entry.1.row, entry.2⟩
  | .restart => []

/-- All rows that come up in a run. -/
def trace (core : Core) : List Step → List Occurrence
  | [] => []
  | step :: rest => occurrences py core step ++ trace (core.step py step) rest

end Runs

/-- A row is routed exactly when no earlier row was equal to it. -/
def Faithful (trace : List Occurrence) : Prop :=
  ∀ earlier occurrence later, trace = earlier ++ occurrence :: later →
    (occurrence.routed = true ↔ occurrence.row ∉ earlier.map Occurrence.row)

/-- Rows are told apart by their marks: a mark comes up for the first time exactly when its row
does. -/
def ToldApart (trace : List Occurrence) : Prop :=
  ∀ earlier occurrence later, trace = earlier ++ occurrence :: later →
    ((∀ mark, occurrence.mark = some mark → some mark ∉ earlier.map Occurrence.mark) ↔
      occurrence.row ∉ earlier.map Occurrence.row)

/-- A restart finds in the store every key that the router has let through, and no more keys
than a router is seeded with. -/
def Remembered (core : Core) (step : Step) : Prop :=
  match step with
  | .batch _ _ => True
  | .restart => (∀ key ∈ core.seen, key ∈ core.stored.filterMap storedKey) ∧
      (core.stored.filterMap storedKey).length ≤ seedLimit

section Events

variable {py : Builtins} {row : Dict}

theorem normalizePayload_lookup {key : String}
    (other : key ∉ ["source_kind", "event_type", "semantic_topic", "priority", "policy_tags",
      "dedupe_key", "causality_id", "payload"]) :
    (normalizePayload row).lookup key = row.lookup key := by
  simp only [List.mem_cons, List.not_mem_nil, or_false, not_or] at other
  obtain ⟨notKind, notType, notTopic, notPriority, notTags, notKey, notCause, notPayload⟩ := other
  unfold normalizePayload
  simp only
  rw [lookup_setdefault_ne notPayload, lookup_insertIf_ne notCause, lookup_insertIf_ne notKey,
    lookup_setdefault_ne notTags, lookup_setdefault_ne notPriority, lookup_setdefault_ne notTopic,
    lookup_setdefault_ne notType, lookup_setdefault_ne notKind]

theorem normalizePayload_priority : (normalizePayload row).lookup "priority" =
    some ((row.lookup "priority").getD (.int 50)) := by
  unfold normalizePayload
  simp only
  rw [lookup_setdefault_ne (by decide), lookup_insertIf_ne (by decide),
    lookup_insertIf_ne (by decide), lookup_setdefault_ne (by decide), lookup_setdefault_self,
    lookup_setdefault_ne (by decide), lookup_setdefault_ne (by decide),
    lookup_setdefault_ne (by decide)]

theorem normalizePayload_payload : (normalizePayload row).lookup "payload" =
    some ((row.lookup "payload").getD (.dict [])) := by
  unfold normalizePayload
  simp only
  rw [lookup_setdefault_self, lookup_insertIf_ne (by decide), lookup_insertIf_ne (by decide),
    lookup_setdefault_ne (by decide), lookup_setdefault_ne (by decide),
    lookup_setdefault_ne (by decide), lookup_setdefault_ne (by decide),
    lookup_setdefault_ne (by decide)]

theorem normalizePayload_key : PyValue.get (normalizePayload row) "dedupe_key" =
    (PyValue.get row "dedupe_key").orElse (PyValue.get row "event_id") := by
  unfold normalizePayload
  simp only
  rw [get_setdefault_ne (by decide), get_insertIf_ne (by decide)]
  have before : ∀ key, key ∉ ["source_kind", "event_type", "semantic_topic", "priority",
      "policy_tags"] → ∀ {kind type topic priority tags : Value},
      PyValue.get (setdefault (setdefault (setdefault (setdefault (setdefault row "source_kind"
        kind) "event_type" type) "semantic_topic" topic) "priority" priority) "policy_tags" tags)
        key = PyValue.get row key := by
    intro key other kind type topic priority tags
    simp only [List.mem_cons, List.not_mem_nil, or_false, not_or] at other
    obtain ⟨notKind, notType, notTopic, notPriority, notTags⟩ := other
    rw [get_setdefault_ne notTags, get_setdefault_ne notPriority, get_setdefault_ne notTopic,
      get_setdefault_ne notType, get_setdefault_ne notKind]
  rw [before "event_id" (by decide), before "dedupe_key" (by decide)]
  cases given : (PyValue.get row "dedupe_key").truthy with
  | true =>
      rw [orElse_truthy _ given]
      exact before "dedupe_key" (by decide)
  | false =>
      rw [orElse_falsy _ given]
      exact get_insert_self

def Sound (event : PerceptionEvent) : Prop :=
  storedKey event = event.key ∧ event.eventId = event.key

theorem sound_of {event : PerceptionEvent} {identity : String}
    (id : event.eventId = if identity = "" then none else some identity)
    (dedupe : event.dedupeKey = some identity) :
    Sound event ∧ event.key = if identity = "" then none else some identity := by
  have key : event.key = if identity = "" then none else some identity := by
    rw [PerceptionEvent.key, dedupe, id]
    by_cases empty : identity = "" <;> simp [empty]
  refine ⟨⟨?_, id.trans key.symm⟩, key⟩
  rw [storedKey, dedupe, key]
  by_cases empty : identity = "" <;> simp [empty]

theorem toDict_dict (payload : Dict) : ∃ held, py.toDict (.dict payload) = some held := by
  unfold Builtins.toDict
  split
  · exact ⟨payload, rfl⟩
  · exact ⟨[], rfl⟩

theorem fromPayload_identified {payload : Dict} {identity : String}
    (facts : Identified row payload identity) (now : String) :
    ∃ event, fromPayload py (normalizePayload row) now = some event ∧ Sound event ∧
      event.key = if identity = "" then none else some identity := by
  obtain ⟨number, numbered⟩ := facts.priority
  have priority : py.toInt (((normalizePayload row).lookup "priority").getD (.int 50)) =
      some number := by
    rw [normalizePayload_priority, lookup_of_get numbered (by simp)]
    rfl
  have dictionary : PyValue.get (normalizePayload row) "payload" = .dict payload := by
    rw [PyValue.get, normalizePayload_payload, lookup_of_get facts.held (by simp)]
    rfl
  have id : PyValue.get (normalizePayload row) "event_id" = .str identity := by
    rw [PyValue.get, normalizePayload_lookup (by decide)]
    exact facts.eventId
  have key : PyValue.get (normalizePayload row) "dedupe_key" = .str identity := by
    rw [normalizePayload_key, facts.dedupeKey, facts.eventId]
    exact ite_self _
  obtain ⟨held, read⟩ := @toDict_dict py payload
  rw [fromPayload, priority, dictionary, read, id, textAt, key]
  refine ⟨_, rfl, sound_of ?_ rfl⟩
  by_cases empty : identity = "" <;> simp [empty]

section Plain

variable {row : Row}

theorem plain_priority : py.toInt (((normalizePayload row.toDict).lookup "priority").getD
    (.int 50)) = some 50 := by
  rw [normalizePayload_priority]
  rfl

theorem plain_payload : PyValue.get (normalizePayload row.toDict) "payload" = row.payload := by
  rw [PyValue.get, normalizePayload_payload]
  rfl

theorem fromPayload_plain (plain : ∀ payload, row.payload ≠ .dict payload)
    (readable : row.Readable py) (now : String) :
    ∃ event, fromPayload py (normalizePayload row.toDict) now = some event ∧ Sound event ∧
      event.key = none := by
  obtain ⟨held, read⟩ := Option.isSome_iff_exists.mp ((readable_plain plain).mp readable)
  have id : PyValue.get (normalizePayload row.toDict) "event_id" = .none := by
    rw [PyValue.get, normalizePayload_lookup (by decide)]
    rfl
  have key : PyValue.get (normalizePayload row.toDict) "dedupe_key" = .none := by
    rw [normalizePayload_key]
    rfl
  rw [fromPayload, plain_priority, plain_payload, read, id, textAt, key]
  exact ⟨_, rfl, ⟨rfl, rfl⟩, rfl⟩

theorem fromPayload_unreadable (plain : ∀ payload, row.payload ≠ .dict payload)
    (unreadable : ¬ row.Readable py) (now : String) :
    fromPayload py (normalizePayload row.toDict) now = none := by
  have unread : py.toDict row.payload = none := by
    simpa using (readable_plain plain).not.mp unreadable
  rw [fromPayload, plain_priority, plain_payload, unread]
  rfl

end Plain

/-- A readable row is collected, and its event has the identity as key. -/
theorem fromPayload_collected (collector : Collector) {row : Row} (readable : row.Readable py)
    (now : String) :
    ∃ collected event, collector.collect py row = some collected ∧
      fromPayload py (normalizePayload collected) now = some event ∧ Sound event ∧
      event.key = collector.identity py row := by
  by_cases dictionary : ∃ payload, row.payload = .dict payload
  · obtain ⟨payload, dictionary⟩ := dictionary
    obtain ⟨collected, collects, facts⟩ :=
      @collect_identified py collector row payload dictionary readable
    obtain ⟨event, read, sound, key⟩ := fromPayload_identified facts now
    refine ⟨collected, event, collects, read, sound, ?_⟩
    rw [key, Collector.identity, dictionary]
  · have plain : ∀ payload, row.payload ≠ .dict payload := fun payload same =>
      dictionary ⟨payload, same⟩
    have collects := @collect_plain py collector row plain
    obtain ⟨event, read, sound, key⟩ := fromPayload_plain plain readable now
    refine ⟨row.toDict, event, collects, read, sound, ?_⟩
    rw [key, Collector.identity]
    cases kind : row.payload with
    | dict payload => exact absurd kind (plain payload)
    | _ => rfl

end Events

section Batches

variable {py : Builtins} {collector : Collector}

theorem collects_cons {arrival : Arrival} {rest : List Arrival} {collected : Dict}
    {rows : List (Dict × String)} (here : collector.collect py arrival.row = some collected)
    (later : collectRows py collector rest = some rows) :
    collectRows py collector (arrival :: rest) = some ((collected, arrival.now) :: rows) := by
  rw [collectRows, List.mapM_cons, here]
  exact congrArg (Option.bind · _) later

theorem normalizeRows_known {seen : List String} {rawEvent : Dict} {now : String}
    {rest : List (Dict × String)} {event : PerceptionEvent}
    (read : readEvent py rawEvent now = some event)
    (known : event.key.any seen.contains = true) :
    normalizeRows py seen ((rawEvent, now) :: rest) =
      ((normalizeRows py seen rest).1.map (none :: ·), (normalizeRows py seen rest).2) := by
  simp only [normalizeRows, read, known, if_true]

theorem normalizeRows_new {seen : List String} {rawEvent : Dict} {now : String}
    {rest : List (Dict × String)} {event : PerceptionEvent}
    (read : readEvent py rawEvent now = some event)
    (unknown : event.key.any seen.contains = false) :
    normalizeRows py seen ((rawEvent, now) :: rest) =
      ((normalizeRows py (event.key.toList ++ seen) rest).1.map (some event :: ·),
        (normalizeRows py (event.key.toList ++ seen) rest).2) := by
  simp only [normalizeRows, read, unknown, Bool.false_eq_true, if_false]

theorem normalizeRows_collected {arrivals : List Arrival}
    (readable : ∀ arrival ∈ arrivals, arrival.row.Readable py) :
    ∃ rows, collectRows py collector arrivals = some rows ∧
      ∀ seen, ∃ decisions after, normalizeRows py seen rows = (some decisions, after) ∧
        decisions.map Option.isSome =
          KeyFilter.pass seen (arrivals.map fun arrival => collector.identity py arrival.row) ∧
        (∀ key, key ∈ after ↔ key ∈ seen ∨
          some key ∈ arrivals.map fun arrival => collector.identity py arrival.row) ∧
        (∀ key, key ∈ after ↔ key ∈ seen ∨ some key ∈ (decisions.filterMap id).map storedKey) ∧
        ∀ event ∈ decisions.filterMap id, Sound event := by
  induction arrivals with
  | nil => exact ⟨[], rfl, fun seen => ⟨[], seen, rfl, rfl, by simp, by simp, by simp⟩⟩
  | cons arrival rest ih =>
      obtain ⟨rows, collects, routes⟩ := ih fun other member =>
        readable other (List.mem_cons_of_mem _ member)
      obtain ⟨collected, event, here, read, sound, key⟩ :=
        fromPayload_collected collector (readable arrival List.mem_cons_self) arrival.now
      rw [← readEvent_eq] at read
      refine ⟨(collected, arrival.now) :: rows, collects_cons here collects, fun seen => ?_⟩
      rw [List.map_cons, ← key]
      -- a known key is dropped and the set stays; a new one is added for the rows behind it
      cases known : event.key.any seen.contains with
      | true =>
          obtain ⟨found, same, inside⟩ : ∃ found, event.key = some found ∧ found ∈ seen := by
            simpa [Option.any_eq_true] using known
          obtain ⟨decisions, after, routed, passes, knows, keeps, sounds⟩ := routes seen
          refine ⟨none :: decisions, after, ?_, ?_, ?_, keeps, sounds⟩
          · rw [normalizeRows_known read known, routed]
            rfl
          · have again : KeyFilter.pass (found :: seen) (rest.map fun arrival =>
                collector.identity py arrival.row) = KeyFilter.pass seen _ :=
              KeyFilter.pass_congr _ fun key => by
                rw [List.mem_cons, or_iff_right_of_imp]
                rintro rfl
                exact inside
            rw [same, KeyFilter.pass, again, List.map_cons, passes]
            simp [inside]
          · intro key
            rw [knows key, same, List.mem_cons, Option.some.injEq]
            constructor
            · rintro (old | new)
              · exact .inl old
              · exact .inr (.inr new)
            · rintro (old | rfl | new)
              · exact .inl old
              · exact .inl inside
              · exact .inr new
      | false =>
          obtain ⟨decisions, after, routed, passes, knows, keeps, sounds⟩ :=
            routes (event.key.toList ++ seen)
          have shown : (some event :: decisions).filterMap id =
              event :: decisions.filterMap id := rfl
          refine ⟨some event :: decisions, after, ?_, ?_, ?_, ?_, ?_⟩
          · rw [normalizeRows_new read known, routed]
            rfl
          · cases same : event.key with
            | none =>
                rw [same] at passes
                rw [KeyFilter.pass, List.map_cons, passes]
                rfl
            | some found =>
                rw [same] at passes known
                have outside : found ∉ seen := by simpa using known
                rw [KeyFilter.pass, List.map_cons, passes]
                simp [outside]
          · intro found
            rw [knows found, KeyFilter.mem_seen_or_later]
          · intro found
            rw [keeps found, KeyFilter.mem_seen_or_later, shown, List.map_cons, sound.1]
          · intro other member
            rw [shown] at member
            rcases List.mem_cons.mp member with rfl | member
            · exact sound
            · exact sounds other member

end Batches

section Store

variable {py : Builtins} {stored : List PerceptionEvent}

/-- The store has a key only if some event brought it. -/
theorem persistEvent_keys {event : PerceptionEvent} {after : List PerceptionEvent}
    (sounds : ∀ other ∈ stored, Sound other) (sound : Sound event)
    (persisted : persistEvent py stored event = some after) :
    (∀ other ∈ after, Sound other) ∧ ∀ key, some key ∈ after.map storedKey →
      some key ∈ stored.map storedKey ∨ some key = storedKey event := by
  unfold persistEvent at persisted
  split at persisted
  · cases persisted
  split at persisted
  · cases persisted
    exact ⟨sounds, fun key old => .inl old⟩
  · cases persisted
    constructor
    · intro other member
      rcases List.mem_append.mp member with old | new
      · exact sounds other old
      · exact List.mem_singleton.mp new ▸ sound
    · intro key
      rw [List.map_append, List.mem_append, List.map_singleton, List.mem_singleton]
      exact id

theorem persistEvents_keys {events : List PerceptionEvent}
    (sounds : ∀ other ∈ stored, Sound other) (brought : ∀ event ∈ events, Sound event) :
    (∀ other ∈ persistEvents py stored events, Sound other) ∧
      ∀ key, some key ∈ (persistEvents py stored events).map storedKey →
        some key ∈ stored.map storedKey ∨ some key ∈ events.map storedKey := by
  induction events generalizing stored with
  | nil => exact ⟨sounds, fun key old => .inl old⟩
  | cons event rest ih =>
      cases persisted : persistEvent py stored event with
      | none =>
          rw [persistEvents, persisted]
          exact ⟨sounds, fun key old => .inl old⟩
      | some after =>
          rw [persistEvents, persisted]
          have here := persistEvent_keys sounds (brought event List.mem_cons_self) persisted
          have later := ih here.1 fun other member => brought other (List.mem_cons_of_mem _ member)
          refine ⟨later.1, fun key there => ?_⟩
          rw [List.map_cons, List.mem_cons]
          rcases later.2 key there with before | behind
          · exact (here.2 key before).imp_right .inl
          · exact .inr (.inr behind)

/-- As long as all keys fit, a new router is seeded with every key of the store. -/
theorem recentDedupeKeys_all {key : String}
    (few : (stored.filterMap storedKey).length ≤ seedLimit) :
    key ∈ recentDedupeKeys seedLimit stored ↔ some key ∈ stored.map storedKey := by
  have short : (((stored.reverse.filter fun event => (storedKey event).isSome).mergeSort
      fun left right => right.timestampWall ≤ left.timestampWall)).length ≤ seedLimit := by
    rw [List.length_mergeSort, List.filter_reverse, List.length_reverse,
      ← List.countP_eq_length_filter, ← List.length_filterMap_eq_countP]
    exact few
  rw [recentDedupeKeys, List.take_of_length_le short]
  simp only [List.mem_filterMap, List.mem_mergeSort, List.mem_filter, List.mem_reverse,
    List.mem_map]
  constructor
  · rintro ⟨event, ⟨member, _⟩, same⟩
    exact ⟨event, member, same⟩
  · rintro ⟨event, member, same⟩
    exact ⟨event, ⟨member, same ▸ rfl⟩, same⟩

end Store

section Ingest

variable {py : Builtins} {core : Core} {collector : Collector} {arrivals : List Arrival}

structure Core.Consistent (core : Core) : Prop where
  sound : ∀ event ∈ core.stored, Sound event
  known : ∀ key, some key ∈ core.stored.map storedKey → key ∈ core.seen

theorem routedEvents_mem {decisions : List (Option PerceptionEvent)} {event : PerceptionEvent} :
    event ∈ routedEvents decisions ↔ event ∈ decisions.filterMap id :=
  List.mem_mergeSort

theorem ingest_readable (consistent : core.Consistent)
    (readable : ∀ arrival ∈ arrivals, arrival.row.Readable py) :
    (ingest py core collector arrivals).1 = KeyFilter.pass core.seen
        (arrivals.map fun arrival => collector.identity py arrival.row) ∧
      (ingest py core collector arrivals).2.Consistent ∧
      ∀ key, key ∈ (ingest py core collector arrivals).2.seen ↔ key ∈ core.seen ∨
        some key ∈ arrivals.map fun arrival => collector.identity py arrival.row := by
  obtain ⟨rows, collects, routes⟩ :=
    @normalizeRows_collected py collector arrivals readable
  obtain ⟨decisions, after, routed, passes, knows, keeps, sounds⟩ := routes core.seen
  have result : ingest py core collector arrivals = (decisions.map Option.isSome,
      ⟨after, persistEvents py core.stored (routedEvents decisions)⟩) := by
    simp only [ingest, collects, routed]
  have brought : ∀ event ∈ routedEvents decisions, Sound event := fun event member =>
    sounds event (routedEvents_mem.mp member)
  have stores := @persistEvents_keys py core.stored _ consistent.sound brought
  rw [result]
  refine ⟨passes, ⟨stores.1, fun key there => (keeps key).mpr ?_⟩, knows⟩
  refine (stores.2 key there).imp (consistent.known key) fun new => ?_
  simp only [List.mem_map, routedEvents_mem] at new ⊢
  exact new

theorem normalizeRows_raises {seen : List String} {rows : List (Dict × String)}
    (raises : ∃ row ∈ rows, readEvent py row.1 row.2 = none) :
    (normalizeRows py seen rows).1 = none := by
  induction rows generalizing seen with
  | nil => simp at raises
  | cons row rest ih =>
      obtain ⟨rawEvent, now⟩ := row
      cases read : readEvent py rawEvent now with
      | none => simp only [normalizeRows, read]
      | some event =>
          have later : ∃ row ∈ rest, readEvent py row.1 row.2 = none := by
            obtain ⟨row, member, none⟩ := raises
            rcases List.mem_cons.mp member with rfl | member
            · exact absurd none (by simp [read])
            · exact ⟨row, member, none⟩
          simp only [normalizeRows, read, ih later, Option.map_none]

theorem collectRows_mem {rows : List (Dict × String)}
    (collects : collectRows py collector arrivals = some rows) {arrival : Arrival}
    (member : arrival ∈ arrivals) :
    ∃ collected, collector.collect py arrival.row = some collected ∧
      (collected, arrival.now) ∈ rows := by
  induction arrivals generalizing rows with
  | nil => cases member
  | cons first rest ih =>
      rw [collectRows, List.mapM_cons, Option.bind_eq_bind, Option.bind_eq_some_iff] at collects
      obtain ⟨row, here, collects⟩ := collects
      rw [Option.bind_eq_bind, Option.bind_eq_some_iff] at collects
      obtain ⟨others, later, same⟩ := collects
      cases same
      rcases List.mem_cons.mp member with rfl | member
      · obtain ⟨collected, read, rfl⟩ := Option.map_eq_some_iff.mp here
        exact ⟨collected, read, List.mem_cons_self⟩
      · obtain ⟨collected, read, inside⟩ := ih later member
        exact ⟨collected, read, List.mem_cons_of_mem _ inside⟩

theorem ingest_unreadable {arrival : Arrival} (member : arrival ∈ arrivals)
    (unreadable : ¬ arrival.row.Readable py) :
    (ingest py core collector arrivals).1 = arrivals.map fun _ => false := by
  unfold ingest
  simp only
  split
  · rfl
  · next rows collects =>
    obtain ⟨collected, here, inside⟩ := collectRows_mem collects member
    have raises : readEvent py collected arrival.now = none := by
      by_cases dictionary : ∃ payload, arrival.row.payload = .dict payload
      · obtain ⟨payload, dictionary⟩ := dictionary
        rw [collect_unreadable dictionary unreadable] at here
        cases here
      · have plain : ∀ payload, arrival.row.payload ≠ .dict payload := fun payload same =>
          dictionary ⟨payload, same⟩
        rw [collect_plain plain] at here
        cases here
        rw [readEvent_eq]
        exact fromPayload_unreadable plain unreadable arrival.now
    have lost := @normalizeRows_raises py core.seen rows ⟨_, inside, raises⟩
    split
    · rfl
    · next decisions after routed =>
      rw [routed] at lost
      cases lost

end Ingest

section Routing

variable {py : Builtins} {core : Core}

theorem normalizeRows_length {seen : List String} {rows : List (Dict × String)}
    {decisions : List (Option PerceptionEvent)}
    (routed : (normalizeRows py seen rows).1 = some decisions) :
    decisions.length = rows.length := by
  induction rows generalizing seen decisions with
  | nil =>
      cases routed
      rfl
  | cons row rest ih =>
      obtain ⟨rawEvent, now⟩ := row
      cases read : readEvent py rawEvent now with
      | none =>
          simp only [normalizeRows, read] at routed
          cases routed
      | some event =>
          simp only [normalizeRows, read] at routed
          obtain ⟨later, found, rfl⟩ := Option.map_eq_some_iff.mp routed
          rw [List.length_cons, List.length_cons, ih found]

theorem collectRows_length {collector : Collector} {arrivals : List Arrival}
    {rows : List (Dict × String)} (collects : collectRows py collector arrivals = some rows) :
    rows.length = arrivals.length := by
  induction arrivals generalizing rows with
  | nil =>
      cases collects
      rfl
  | cons first rest ih =>
      rw [collectRows, List.mapM_cons, Option.bind_eq_bind, Option.bind_eq_some_iff] at collects
      obtain ⟨row, _, collects⟩ := collects
      rw [Option.bind_eq_bind, Option.bind_eq_some_iff] at collects
      obtain ⟨others, later, same⟩ := collects
      cases same
      rw [List.length_cons, List.length_cons, ih later]

theorem ingest_length (collector : Collector) (arrivals : List Arrival) :
    (ingest py core collector arrivals).1.length = arrivals.length := by
  unfold ingest
  simp only
  split
  · exact List.length_map _
  · next rows collects =>
    split
    · exact List.length_map _
    · next decisions after routed =>
      have decided : (normalizeRows py core.seen rows).1 = some decisions := by rw [routed]
      rw [List.length_map, normalizeRows_length decided, collectRows_length collects]

/-- The rows of a step. -/
def Step.rows : Step → List Row
  | .batch _ arrivals => arrivals.map Arrival.row
  | .restart => []

theorem occurrences_batch (collector : Collector) (arrivals : List Arrival) :
    (occurrences py core (.batch collector arrivals)).map Occurrence.row =
        arrivals.map Arrival.row ∧
      (occurrences py core (.batch collector arrivals)).map Occurrence.mark =
        arrivals.map (fun arrival => mark py collector arrival.row) ∧
      (occurrences py core (.batch collector arrivals)).map Occurrence.routed =
        (ingest py core collector arrivals).1 := by
  have same := @ingest_length py core collector arrivals
  have first := List.map_fst_zip (Nat.le_of_eq same.symm)
  have second := List.map_snd_zip (Nat.le_of_eq same)
  simp only [occurrences, List.map_map]
  refine ⟨?_, ?_, second⟩
  · exact (List.map_map (f := Prod.fst) (g := Arrival.row)).symm.trans (by rw [first])
  · exact (List.map_map (f := Prod.fst) (g := fun arrival : Arrival =>
      mark py collector arrival.row)).symm.trans (by rw [first])

theorem occurrences_rows (step : Step) :
    (occurrences py core step).map Occurrence.row = step.rows := by
  cases step with
  | restart => rfl
  | batch collector arrivals => exact (occurrences_batch collector arrivals).1

theorem trace_rows (steps : List Step) :
    (trace py core steps).map Occurrence.row = steps.flatMap Step.rows := by
  induction steps generalizing core with
  | nil => rfl
  | cons step rest ih =>
      rw [trace, List.map_append, occurrences_rows, ih, List.flatMap_cons]

/-- In a run of readable rows that forgets nothing, rows pass as their identities do. -/
theorem trace_routed {steps : List Step} (consistent : core.Consistent)
    (readable : ∀ row ∈ steps.flatMap Step.rows, row.Readable py)
    (remembers : StepRun.Obeys (Core.step py) Remembered core steps) :
    (trace py core steps).map Occurrence.routed =
      KeyFilter.pass core.seen ((trace py core steps).map Occurrence.identity) := by
  induction steps generalizing core with
  | nil => rfl
  | cons step rest ih =>
      have later : ∀ row ∈ rest.flatMap Step.rows, row.Readable py := fun row member =>
        readable row (by
          rw [List.flatMap_cons]
          exact List.mem_append_right _ member)
      cases step with
      | restart =>
          obtain ⟨⟨kept, few⟩, onward⟩ := remembers
          -- a restart neither forgets a key nor brings one up
          have same : ∀ key, key ∈ (core.step py .restart).seen ↔ key ∈ core.seen := by
            intro key
            refine (recentDedupeKeys_all few).trans ⟨consistent.known key, fun seen => ?_⟩
            simpa using kept key seen
          have next : (core.step py .restart).Consistent :=
            ⟨consistent.sound, fun key there => (same key).mpr (consistent.known key there)⟩
          rw [trace, occurrences, List.nil_append, ih next later onward]
          exact KeyFilter.pass_congr _ same
      | batch collector arrivals =>
          have here : ∀ arrival ∈ arrivals, arrival.row.Readable py := fun arrival member =>
            readable arrival.row (by
              rw [List.flatMap_cons]
              exact List.mem_append_left _ (List.mem_map_of_mem member))
          obtain ⟨passes, next, knows⟩ := ingest_readable consistent here
          have onward : (core.step py (.batch collector arrivals)).Consistent := next
          obtain ⟨_, marks, routed⟩ := @occurrences_batch py core collector arrivals
          -- a batch passes by the identities of its rows, from the keys seen so far
          have identities : (occurrences py core (.batch collector arrivals)).map
              Occurrence.identity =
                arrivals.map fun arrival => collector.identity py arrival.row := by
            have named := congrArg (List.map (Option.map Mark.identity)) marks
            rw [List.map_map, List.map_map] at named
            simp only [identity_marked]
            exact named
          rw [trace, List.map_append, List.map_append, identities, routed, passes,
            ih onward later remembers.2]
          exact (KeyFilter.pass_append _ _ knows).symm

theorem unreadable_not_routed {steps : List Step} {occurrence : Occurrence}
    (member : occurrence ∈ trace py core steps)
    (unreadable : ¬ occurrence.row.Readable py) : occurrence.routed = false := by
  induction steps generalizing core with
  | nil => cases member
  | cons step rest ih =>
      rw [trace, List.mem_append] at member
      rcases member with here | later
      · cases step with
        | restart => cases here
        | batch collector arrivals =>
            have rows := (@occurrences_batch py core collector arrivals).1
            have inside := List.mem_map_of_mem (f := Occurrence.row) here
            rw [rows] at inside
            obtain ⟨arrival, member, same⟩ := List.mem_map.mp inside
            have lost := @ingest_unreadable py core collector arrivals arrival member
              (same ▸ unreadable)
            have routed := List.mem_map_of_mem (f := Occurrence.routed) here
            rw [(@occurrences_batch py core collector arrivals).2.2, lost] at routed
            exact (List.mem_map.mp routed).elim fun _ found => found.2.symm
      · exact ih later

/-- A faithful run has no row that cannot be read: the first such row would be lost. -/
theorem faithful_readable {steps : List Step} (faithful : Faithful (trace py core steps)) :
    ∀ row ∈ steps.flatMap Step.rows, row.Readable py := by
  intro row member
  by_contra unreadable
  rw [← @trace_rows py core] at member
  obtain ⟨earlier, later, shape, first⟩ := List.eq_append_cons_of_mem member
  obtain ⟨before, rest, split, same, more⟩ := List.map_eq_append_iff.mp shape
  obtain ⟨occurrence, after, rfl, here, _⟩ := List.map_eq_cons_iff.mp more
  have routed := (faithful before occurrence after split).mpr (by rw [same, here]; exact first)
  have inside : occurrence ∈ trace py core steps := by
    rw [split]
    simp
  rw [unreadable_not_routed inside (here ▸ unreadable)] at routed
  cases routed

theorem fresh_consistent : Core.fresh.Consistent :=
  ⟨fun _ member => absurd member List.not_mem_nil,
    fun _ there => absurd there List.not_mem_nil⟩

/-- An identity comes up for the first time exactly when its mark does. -/
theorem identity_first {earlier : List Occurrence} {occurrence : Occurrence} :
    (∀ identity, occurrence.identity = some identity →
        some identity ∉ earlier.map Occurrence.identity) ↔
      ∀ mark, occurrence.mark = some mark → some mark ∉ earlier.map Occurrence.mark := by
  have shared : ∀ mark : Mark, some mark.identity ∈ earlier.map Occurrence.identity ↔
      some mark ∈ earlier.map Occurrence.mark := by
    intro mark
    simp only [List.mem_map, Occurrence.identity, Option.map_eq_some_iff]
    constructor
    · rintro ⟨other, member, twin, marked, same⟩
      exact ⟨other, member, marked.trans (congrArg some (Mark.identity_injective same))⟩
    · rintro ⟨other, member, marked⟩
      exact ⟨other, member, mark, marked, rfl⟩
  constructor
  · intro first mark marked known
    refine first mark.identity ?_ ((shared mark).mpr known)
    rw [Occurrence.identity, marked, Option.map_some]
  · intro first identity named known
    obtain ⟨mark, marked, rfl⟩ := Option.map_eq_some_iff.mp named
    exact first mark marked ((shared mark).mp known)

/-- No event is lost or routed twice exactly when every row can be read and rows are told apart
by their marks, as long as no restart forgets a key. -/
theorem events_routed_once (py : Builtins) (steps : List Step)
    (remembers : StepRun.Obeys (Core.step py) Remembered Core.fresh steps) :
    Faithful (trace py Core.fresh steps) ↔
      (∀ row ∈ steps.flatMap Step.rows, row.Readable py) ∧
        ToldApart (trace py Core.fresh steps) := by
  have routed : (∀ row ∈ steps.flatMap Step.rows, row.Readable py) →
      ∀ earlier occurrence later,
        trace py Core.fresh steps = earlier ++ occurrence :: later →
        (occurrence.routed = true ↔ ∀ mark, occurrence.mark = some mark →
          some mark ∉ earlier.map Occurrence.mark) :=
    fun readable earlier occurrence later shape =>
      (KeyFilter.passes_iff (trace_routed fresh_consistent readable remembers) shape).trans
        identity_first
  constructor
  · intro faithful
    have readable := faithful_readable faithful
    refine ⟨readable, fun earlier occurrence later shape => ?_⟩
    rw [← routed readable earlier occurrence later shape]
    exact faithful earlier occurrence later shape
  · rintro ⟨readable, apart⟩ earlier occurrence later shape
    rw [routed readable earlier occurrence later shape]
    exact apart earlier occurrence later shape

/-- The built-in functions, as far as the rows below need them. -/
def sampleBuiltins : Builtins where
  repr := fun _ => "{}"
  lower := String.toLower
  intOfReal := fun _ => none
  intOfText := fun _ => none
  dictOfList := fun _ => none
  encodes := fun _ => true

def callbackRow (invokeCount startCount : Int) : Row where
  keyexpr := "neuro/unit-01/event/app/neuro_demo_app/callback"
  payload := .dict [("schema_version", .int 2), ("message_kind", .str "callback_event"),
    ("app_id", .str "neuro_demo_app"), ("event_name", .str "callback"),
    ("invoke_count", .int invokeCount), ("start_count", .int startCount)]

def callbackArrival (invokeCount startCount : Int) : Arrival :=
  ⟨callbackRow invokeCount startCount, "2026-05-07T00:00:00Z"⟩

/-- An application calls back, is restarted, and calls back again. -/
def restartedRun : List Step := [.batch .live [callbackArrival 1 1, callbackArrival 1 2]]

/-- The second callback is another event and is lost. -/
theorem restarted_callback_lost : ¬ Faithful (trace sampleBuiltins Core.fresh restartedRun) := by
  intro faithful
  have routed : (trace sampleBuiltins Core.fresh restartedRun).map Occurrence.routed =
      [true, false] := by decide +kernel
  have rows := @trace_rows sampleBuiltins Core.fresh restartedRun
  obtain ⟨first, others, shape, _, more⟩ := List.map_eq_cons_iff.mp routed
  obtain ⟨second, none, rfl, dropped, nothing⟩ := List.map_eq_cons_iff.mp more
  obtain rfl := List.map_eq_nil_iff.mp nothing
  rw [shape] at rows
  obtain ⟨firstRow, rest⟩ := List.cons.inj rows
  have other : second.row ∉ [first].map Occurrence.row := by
    rw [(List.cons.inj rest).1, List.map_singleton, firstRow, List.mem_singleton]
    intro same
    simp [callbackArrival, callbackRow] at same
  have kept := (faithful [first] second [] shape).mpr other
  rw [dropped] at kept
  cases kept

/-- A callback comes up again after the Core was restarted. -/
def reseededRun : List Step :=
  [.batch .live [callbackArrival 1 1], .restart, .batch .live [callbackArrival 1 1]]

/-- It is routed once. -/
theorem reseeded_routed_once :
    (trace sampleBuiltins Core.fresh reseededRun).map Occurrence.routed = [true, false] ∧
      Faithful (trace sampleBuiltins Core.fresh reseededRun) := by
  have kept : ∀ key ∈ (Core.fresh.step sampleBuiltins (.batch .live [callbackArrival 1 1])).seen,
      key ∈ (Core.fresh.step sampleBuiltins (.batch .live
        [callbackArrival 1 1])).stored.filterMap storedKey := by
    decide +kernel
  have few : ((Core.fresh.step sampleBuiltins (.batch .live
      [callbackArrival 1 1])).stored.filterMap storedKey).length ≤ seedLimit := by
    decide +kernel
  have rows := @trace_rows sampleBuiltins Core.fresh reseededRun
  have marks : (trace sampleBuiltins Core.fresh reseededRun).map Occurrence.mark =
      [mark sampleBuiltins .live (callbackRow 1 1),
        mark sampleBuiltins .live (callbackRow 1 1)] := by
    decide +kernel
  refine ⟨by decide +kernel, (events_routed_once sampleBuiltins reseededRun
    ⟨trivial, ⟨kept, few⟩, trivial, trivial⟩).mpr ⟨fun row member => ?_, ?_⟩⟩
  · obtain rfl : row = callbackRow 1 1 := by
      simpa [reseededRun, Step.rows, callbackArrival] using member
    intro given
    cases given
  · intro earlier occurrence later shape
    rw [shape, List.map_append, List.map_cons] at rows marks
    cases earlier with
    | nil => simp
    | cons first others =>
        obtain ⟨firstRow, rows⟩ := List.cons.inj rows
        obtain ⟨firstMark, marks⟩ := List.cons.inj marks
        cases others with
        | nil =>
            -- the second row is the first one again, and so is its mark
            have sameRow := firstRow.trans (List.cons.inj rows).1.symm
            have sameMark := firstMark.trans (List.cons.inj marks).1.symm
            refine iff_of_false (fun new => ?_) (fun new => ?_)
            · obtain ⟨found, marked⟩ : ∃ found, occurrence.mark = some found := by
                rw [(List.cons.inj marks).1]
                exact ⟨_, rfl⟩
              exact new found marked (by simp [sameMark, marked])
            · exact new (by simp [sameRow])
        | cons second none =>
            have longer := congrArg List.length rows
            simp [Step.rows] at longer

end Routing

end NeuroLink.EventRouting
