import Mathlib.Algebra.Group.Int.Defs
import NeuroLink.EventRouting
import NeuroLink.QqOfficial

/-!
The ingress of a workflow run: raw events are made into perception events, the router drops those
whose key it has seen, and the rest is stored, where an event with an id that the table has is
ignored.
-/

namespace NeuroLink.EventStore

open PyValue LiveEvents
open QqOfficial (SocialMessageEnvelope)

/-- `PerceptionEvent`. An event that brings no id draws one that no other event has. -/
structure PerceptionEvent where
  eventId : Option String
  sourceKind : String
  eventType : String
  timestampWall : String
  sourceNode : Value
  sourceApp : Value
  semanticTopic : Value
  timestampMono : Value
  priority : Int
  dedupeKey : Value
  causalityId : Value
  rawPayloadRef : Value
  policyTags : List Value
  payload : Dict

/-- `PerceptionEvent.from_payload`. -/
def fromPayload (py : Builtins) (payload : Dict) (now : String) : Option PerceptionEvent := do
  let priority ← py.toInt ((payload.lookup "priority").getD (.int 50))
  let policyTags ← ((get payload "policy_tags").orElse (.list [])).toList.toOption
  let held ← py.toDict (get payload "payload")
  return {
    eventId := if (get payload "event_id").truthy then
      some ((get payload "event_id").text py.repr) else none
    sourceKind := py.textOr (get payload "source_kind") "core"
    eventType := py.textOr (get payload "event_type") "unknown"
    timestampWall := py.textOr (get payload "timestamp_wall") now
    sourceNode := get payload "source_node"
    sourceApp := get payload "source_app"
    semanticTopic := get payload "semantic_topic"
    timestampMono := get payload "timestamp_mono"
    priority
    dedupeKey := get payload "dedupe_key"
    causalityId := get payload "causality_id"
    rawPayloadRef := get payload "raw_payload_ref"
    policyTags
    payload := held }

/-- `event.dedupe_key or event.event_id`; a drawn id is no key. -/
def PerceptionEvent.key (event : PerceptionEvent) : Option Value :=
  if event.dedupeKey.truthy then some event.dedupeKey else event.eventId.map .str

def PerceptionEvent.sortKey (event : PerceptionEvent) : Int × String × String :=
  (-event.priority, event.timestampWall, event.eventId.getD "")

section Router

-- `hashed` is what a set tells values apart by; lists and dictionaries have nothing of the kind
variable {Key : Type} [DecidableEq Key] (hashed : Value → Option Key) (py : Builtins)

/-- The loop of `PerceptionEventRouter.normalize`, over raw events with the time each is read at. -/
def normalizeEvents (seen : List Key) :
    List (Dict × String) → Option (List PerceptionEvent × List Key)
  | [] => some ([], seen)
  | (rawEvent, now) :: rest => do
      let event ← fromPayload py (EventRouting.normalizePayload rawEvent) now
      match event.key with
      | none =>
          let (events, seen) ← normalizeEvents seen rest
          return (event :: events, seen)
      | some key =>
          let key ← hashed key
          if seen.contains key then normalizeEvents seen rest
          else
            let (events, seen) ← normalizeEvents (key :: seen) rest
            return (event :: events, seen)

/-- `PerceptionEventRouter.route`. -/
def route (seen : List Key) (rawEvents : List (Dict × String)) :
    Option (List PerceptionEvent × List Key) :=
  (normalizeEvents hashed py seen rawEvents).map fun routed =>
    (routed.1.mergeSort fun left right => EventRouting.sortsBefore left.sortKey right.sortKey,
      routed.2)

end Router

/-- A row of `perception_events`. -/
structure Row where
  event : PerceptionEvent
  createdAt : String

/-- SQLite takes the parameters of the event; the JSON of its tags and its payload is plain. -/
def PerceptionEvent.bindable (py : Builtins) (event : PerceptionEvent) : Bool :=
  [.str (event.eventId.getD ""), .str event.sourceKind, event.sourceNode, event.sourceApp,
    .str event.eventType, event.semanticTopic, event.timestampMono, .str event.timestampWall,
    .int event.priority, event.dedupeKey, event.causalityId, event.rawPayloadRef].all
      (EventRouting.bindable py)

def SameId (left right : PerceptionEvent) : Prop :=
  left.eventId.isSome ∧ left.eventId = right.eventId

instance (left right : PerceptionEvent) : Decidable (SameId left right) :=
  inferInstanceAs (Decidable (_ ∧ _))

/-- `CoreDataStore.persist_event`: `INSERT OR IGNORE` by the id, which is the primary key. -/
def persistEvent (py : Builtins) (now : String) (rows : List Row) (event : PerceptionEvent) :
    Option (List Row) :=
  if ¬ event.bindable py then none
  else if ∃ row ∈ rows, SameId row.event event then some rows
  else some (rows ++ [⟨event, now⟩])

structure WorkflowResult (Key : Type) where
  seen : List Key
  rows : List Row
  eventsPersisted : Nat

/-- The ingress of `NoModelCoreWorkflow.run`. -/
def run {Key : Type} [DecidableEq Key] (hashed : Value → Option Key) (py : Builtins)
    (now : String) (seen : List Key) (rows : List Row) (rawEvents : List (Dict × String)) :
    Option (WorkflowResult Key) := do
  let (events, seen) ← route hashed py seen rawEvents
  let rows ← events.foldlM (persistEvent py now) rows
  return ⟨seen, rows, events.length⟩

/-- The row holds what the event is about, where it came from, and its topic. -/
def Holds (row : Row) (event : PerceptionEvent) : Prop :=
  row.event.payload = event.payload ∧ row.event.sourceKind = event.sourceKind ∧
    row.event.sourceNode = event.sourceNode ∧ row.event.sourceApp = event.sourceApp ∧
    row.event.semanticTopic = event.semanticTopic

/-- Every event has a row of its own, and the count is that of the rows that were added. -/
def Recorded (before after : List Row) (events : List PerceptionEvent) (persisted : Nat) : Prop :=
  (∀ event ∈ events, ∃ row ∈ after, row.event.eventId = event.eventId ∧ Holds row event) ∧
    persisted + before.length = after.length

/-- No two events have the same id, and none has that of a row. -/
def NewIds (rows : List Row) (events : List PerceptionEvent) : Prop :=
  events.Pairwise (fun left right => ¬ SameId left right) ∧
    ∀ event ∈ events, ∀ row ∈ rows, ¬ SameId row.event event

section Persisting

variable {py : Builtins} {now : String} {rows after : List Row} {events : List PerceptionEvent}

/-- Persisting appends some of the events, and all of them exactly if their ids are new. -/
theorem persist_all (stored : events.foldlM (persistEvent py now) rows = some after) :
    ∃ added : List PerceptionEvent, after = rows ++ added.map (⟨·, now⟩) ∧
      added.Sublist events ∧ (added.length = events.length ↔ NewIds rows events) := by
  induction events generalizing rows with
  | nil =>
      cases stored
      exact ⟨[], by simp, .slnil, by simp [NewIds]⟩
  | cons event rest ih =>
      rw [List.foldlM_cons] at stored
      obtain ⟨next, turn, stored⟩ := Option.bind_eq_some_iff.mp stored
      obtain ⟨added, same, among, all⟩ := ih stored
      unfold persistEvent at turn
      split at turn
      · cases turn
      split at turn
      · next old =>
          cases turn
          -- an event with an old id is passed over, and the others cannot make up for it
          refine ⟨added, same, among.cons _, iff_of_false ?_ ?_⟩
          · have bound := among.length_le
            rw [List.length_cons]
            omega
          · obtain ⟨row, member, shared⟩ := old
            exact fun new => new.2 event List.mem_cons_self row member shared
      · next fresh =>
          cases turn
          refine ⟨event :: added, ?_, among.cons_cons _, ?_⟩
          · rw [same, List.map_cons, List.append_assoc, List.singleton_append]
          · rw [List.length_cons, List.length_cons, Nat.add_right_cancel_iff, all]
            unfold NewIds
            rw [List.pairwise_cons, List.forall_mem_cons]
            constructor
            · rintro ⟨apart, others⟩
              refine ⟨⟨fun later member => ?_, apart⟩, fun row member shared => ?_,
                fun later member row inside => ?_⟩
              · exact others later member ⟨event, now⟩ (by simp)
              · exact fresh ⟨row, member, shared⟩
              · exact others later member row (by simp [inside])
            · rintro ⟨⟨first, apart⟩, _, others⟩
              refine ⟨apart, fun later member row inside => ?_⟩
              rcases List.mem_append.mp inside with old | new
              · exact others later member row old
              · rw [List.mem_singleton] at new
                subst new
                exact first later member

/-- What a run stores is what it routed exactly if the ids of the routed events are new. -/
theorem recorded_of_persisted (stored : events.foldlM (persistEvent py now) rows = some after) :
    Recorded rows after events events.length ↔ NewIds rows events := by
  obtain ⟨added, rfl, among, all⟩ := persist_all stored
  have counted : events.length + rows.length = (rows ++ added.map (⟨·, now⟩ : _ → Row)).length ↔
      added.length = events.length := by
    rw [List.length_append, List.length_map]
    omega
  unfold Recorded
  rw [counted, all, and_iff_right_iff_imp]
  intro new event member
  have every : added = events := among.eq_of_length (all.mpr new)
  refine ⟨⟨event, now⟩, List.mem_append_right _ ?_, rfl, rfl, rfl, rfl, rfl, rfl⟩
  exact List.mem_map_of_mem (every ▸ member)

end Persisting

/-- `_normalize_channel_kind`. -/
def normalizeChannelKind (channelKind : String) : Option String :=
  let normalized := (strip channelKind).toLower
  if ["group", "direct", "channel"].contains normalized then some normalized else none

/-- `MockSocialAdapter.bind_principal`: the id of a message is put together from its adapter, its
channel and its user. -/
def bindPrincipal (adapterKind channelId channelKind externalUserId text receivedAt : String)
    (isAdmin : Bool) : Option SocialMessageEnvelope := do
  let resolvedChannelKind ← normalizeChannelKind channelKind
  return {
    socialMessageId := "social-" ++ adapterKind ++ "-" ++ channelId ++ "-" ++ externalUserId
    adapterKind
    channelId
    channelKind := resolvedChannelKind
    externalUserId
    principalId := adapterKind ++ ":" ++ externalUserId
    messageKind := "text"
    text
    receivedAt
    rateLimitClass :=
      if isAdmin then "admin"
      else if resolvedChannelKind = "group" then "group_user"
      else "normal_user"
    policyTags := ["social_ingress", "user_input", "channel_" ++ resolvedChannelKind]
    metadata := [("is_admin", .bool isAdmin), ("channel_kind", .str resolvedChannelKind)] }

/-- `MockSocialAdapter.to_perception_event`. -/
def toPerceptionEvent (envelope : SocialMessageEnvelope) : Dict :=
  [("event_id", .str envelope.socialMessageId), ("source_kind", .str "social"),
    ("source_node", .str envelope.adapterKind), ("event_type", .str "user.input.social"),
    ("semantic_topic", .str
      (if envelope.channelKind = "group" then "user.input.social.group"
      else if envelope.channelKind = "channel" then "user.input.social.channel"
      else "user.input.social.direct")),
    ("timestamp_wall", .str envelope.receivedAt),
    ("priority", .int (if envelope.rateLimitClass = "admin" then 70 else 55)),
    ("dedupe_key", .str envelope.socialMessageId),
    ("policy_tags", .list (envelope.policyTags.map .str)),
    ("payload", .dict [("text", .str envelope.text), ("channel_id", .str envelope.channelId),
      ("channel_kind", .str envelope.channelKind),
      ("external_user_id", .str envelope.externalUserId),
      ("principal_id", .str envelope.principalId),
      ("rate_limit_class", .str envelope.rateLimitClass),
      ("social_adapter", .str envelope.adapterKind)])]

/-- A message of one user in one group, when it is received. -/
def groupMessage (text receivedAt : String) : Dict :=
  ((bindPrincipal "mock_qq" "group-1" "group" "user-1" text receivedAt false).map
    toPerceptionEvent).getD []

def textHash : Value → Option String
  | .str text => some text
  | _ => none

/-- What a first run stores, of which the router is started anew afterwards. -/
def firstRows : List Row :=
  ((run textHash EventRouting.sampleBuiltins "2026-05-11T12:00:00Z" [] []
    [(groupMessage "hello" "2026-05-11T12:00:00Z", "2026-05-11T12:00:00Z")]).map
      WorkflowResult.rows).getD []

end NeuroLink.EventStore
