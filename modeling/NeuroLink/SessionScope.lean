import NeuroLink.SocialAdapters

/-!
The session of a message: messages of one user in one channel are to share a key that no other
messages have. The key joins the channel and the user with a colon, which either may contain,
and the channel of a direct message is whatever the payload names.
-/

namespace NeuroLink.SessionScope

open PyValue SocialAdapters
open QqOfficial (SocialMessageEnvelope)

section Joined

variable {α : Type}

theorem joined_eq {separator : α} {first first' second second' : List α} :
    first ++ separator :: second = first' ++ separator :: second' ↔
      (first = first' ∧ second = second') ∨
      (∃ part, first' = first ++ separator :: part ∧ second = part ++ separator :: second') ∨
      ∃ part, first = first' ++ separator :: part ∧ second' = part ++ separator :: second := by
  constructor
  · intro same
    rcases List.append_eq_append_iff.mp same with ⟨rest, front, back⟩ | ⟨rest, front, back⟩
    · cases rest with
      | nil =>
        rw [List.append_nil] at front
        exact .inl ⟨front.symm, (List.cons.inj back).2⟩
      | cons letter part =>
        obtain ⟨rfl, rest⟩ := List.cons.inj back
        exact .inr (.inl ⟨part, front, rest⟩)
    · cases rest with
      | nil =>
        rw [List.append_nil] at front
        exact .inl ⟨front, (List.cons.inj back).2.symm⟩
      | cons letter part =>
        obtain ⟨rfl, rest⟩ := List.cons.inj back
        exact .inr (.inr ⟨part, front, rest⟩)
  · rintro (⟨rfl, rfl⟩ | ⟨part, rfl, rfl⟩ | ⟨part, rfl, rfl⟩)
    · rfl
    · rw [List.append_assoc, List.cons_append]
    · rw [List.append_assoc, List.cons_append]

end Joined

/-- What a message says of where it comes from, and what the adapter reads as its channel. -/
structure Scope where
  user : String
  direct : Bool
  group : String
  channel : String
  shared : Bool

/-- One user in one channel; the direct messages of a user are one channel. -/
def SameChannel (first second : Scope) : Prop :=
  first.user = second.user ∧ first.direct = second.direct ∧
    (first.direct = false → first.group = second.group)

/-- The channel of the one message goes on with a colon and the front of its user. -/
def Overlap (first second : Scope) : Prop :=
  ∃ part, second.channel = first.channel ++ ":" ++ part ∧ first.user = part ++ ":" ++ second.user

def Scope.key (scope : Scope) : String := sessionScopeKey scope.shared scope.channel scope.user

section Keys

theorem joined_strings {channel channel' user user' : String} :
    channel ++ ":" ++ user = channel' ++ ":" ++ user' ↔
      (channel = channel' ∧ user = user') ∨
      (∃ part, channel' = channel ++ ":" ++ part ∧ user = part ++ ":" ++ user') ∨
      ∃ part, channel = channel' ++ ":" ++ part ∧ user' = part ++ ":" ++ user := by
  have letters : ∀ first second : String, (first ++ ":" ++ second).toList =
      first.toList ++ ':' :: second.toList := by
    intro first second
    rw [String.toList_append, String.toList_append, List.append_assoc]
    rfl
  have part_iff : ∀ first second third fourth : String,
      (∃ part : List Char, second.toList = first.toList ++ ':' :: part ∧
        third.toList = part ++ ':' :: fourth.toList) ↔
      ∃ part, second = first ++ ":" ++ part ∧ third = part ++ ":" ++ fourth := by
    intro first second third fourth
    constructor
    · rintro ⟨part, front, back⟩
      refine ⟨String.ofList part, ?_, ?_⟩
      · rw [← String.toList_inj, letters, String.toList_ofList, front]
      · rw [← String.toList_inj, letters, String.toList_ofList, back]
    · rintro ⟨part, rfl, rfl⟩
      exact ⟨part.toList, letters first part, letters part fourth⟩
  rw [← String.toList_inj, letters, letters, joined_eq, String.toList_inj, String.toList_inj,
    part_iff, part_iff]

variable {first second : Scope}

/-- Two keys of channel and user are equal with the parts or by an overlap. -/
theorem key_eq (alone : first.shared = false) (alone' : second.shared = false) :
    first.key = second.key ↔ (first.channel = second.channel ∧ first.user = second.user) ∨
      Overlap first second ∨ Overlap second first := by
  rw [Scope.key, Scope.key, alone, alone', sessionScopeKey, sessionScopeKey]
  exact joined_strings

theorem Overlap.users_ne (overlap : Overlap first second) : first.user ≠ second.user := by
  obtain ⟨part, _, longer⟩ := overlap
  intro same
  have length := congrArg String.length longer
  rw [String.length_append, String.length_append, same] at length
  have colon : ":".length = 1 := rfl
  omega

end Keys

structure Distinguished (first second : Scope) : Prop where
  plain : ¬ Overlap first second ∧ ¬ Overlap second first
  direct : first.user = second.user → first.direct = true → second.direct = true →
    first.channel = second.channel
  groups : first.user = second.user → first.direct = false → second.direct = false →
    (first.channel = second.channel ↔ first.group = second.group)
  mixed : first.user = second.user → first.direct ≠ second.direct →
    first.channel ≠ second.channel

/-- No two messages of different sessions are keyed alike, nor two of one session apart. -/
structure Unambiguous (first second : Scope) : Prop where
  alone : first.shared = false → second.shared = false → Distinguished first second
  shared : first.shared = false → second.shared = true →
    second.channel ≠ first.channel ++ ":" ++ first.user
  shared' : second.shared = false → first.shared = true →
    first.channel ≠ second.channel ++ ":" ++ second.user

structure Separated (first second : Scope) (key key' : String) : Prop where
  alone : first.shared = false → second.shared = false →
    (key = key' ↔ SameChannel first second)
  shared : first.shared ≠ second.shared → key ≠ key'

section Separation

variable {first second : Scope}

/-- For one user, the conditions on two messages say that their channels are read alike just
where they are the same. -/
theorem Distinguished.channel_iff (apart : Distinguished first second)
    (user : first.user = second.user) :
    first.channel = second.channel ↔ SameChannel first second := by
  cases direct : first.direct with
  | true =>
    cases direct' : second.direct with
    | true =>
      exact ⟨fun _ => ⟨user, by rw [direct, direct'], by rw [direct]; exact (nomatch ·)⟩,
        fun _ => apart.direct user direct direct'⟩
    | false =>
      have other : first.direct ≠ second.direct := by rw [direct, direct']; decide
      exact ⟨fun same => absurd same (apart.mixed user other), fun same => absurd same.2.1 other⟩
  | false =>
    cases direct' : second.direct with
    | true =>
      have other : first.direct ≠ second.direct := by rw [direct, direct']; decide
      exact ⟨fun same => absurd same (apart.mixed user other), fun same => absurd same.2.1 other⟩
    | false =>
      have groups := apart.groups user direct direct'
      exact ⟨fun same => ⟨user, by rw [direct, direct'], fun _ => groups.mp same⟩,
        fun same => groups.mpr (same.2.2 direct)⟩

theorem distinguished_iff (alone : first.shared = false) (alone' : second.shared = false) :
    (first.key = second.key ↔ SameChannel first second) ↔ Distinguished first second := by
  have keys := key_eq alone alone'
  constructor
  · intro separates
    have plain : ∀ overlap : Overlap first second ∨ Overlap second first, False := by
      intro overlap
      have same := (separates.mp (keys.mpr (.inr overlap))).1
      exact overlap.elim (fun first => first.users_ne same) fun second => second.users_ne same.symm
    have channel : first.user = second.user →
        (first.channel = second.channel ↔ SameChannel first second) := by
      intro user
      rw [← separates, keys]
      exact ⟨fun same => .inl ⟨same, user⟩, fun same => (same.resolve_right plain).1⟩
    refine ⟨⟨fun first => plain (.inl first), fun second => plain (.inr second)⟩, ?_, ?_, ?_⟩
    · intro user direct direct'
      exact (channel user).mpr ⟨user, by rw [direct, direct'], by rw [direct]; exact (nomatch ·)⟩
    · intro user direct direct'
      rw [channel user]
      exact ⟨fun same => same.2.2 direct,
        fun group => ⟨user, by rw [direct, direct'], fun _ => group⟩⟩
    · intro user other same
      exact other ((channel user).mp same).2.1
  · intro apart
    rw [keys]
    constructor
    · rintro (⟨channel, user⟩ | overlap | overlap)
      · exact (apart.channel_iff user).mp channel
      · exact absurd overlap apart.plain.1
      · exact absurd overlap apart.plain.2
    · intro same
      exact .inl ⟨(apart.channel_iff same.1).mpr same, same.1⟩

theorem separated_iff :
    Separated first second first.key second.key ↔ Unambiguous first second := by
  constructor
  · intro separated
    constructor
    · exact fun alone alone' => (distinguished_iff alone alone').mp (separated.alone alone alone')
    · intro alone shared same
      apply separated.shared (by rw [alone, shared]; decide)
      rw [Scope.key, Scope.key, alone, shared]
      exact same.symm
    · intro alone shared same
      apply separated.shared (by rw [alone, shared]; decide)
      rw [Scope.key, Scope.key, alone, shared]
      exact same
  · intro clear
    constructor
    · exact fun alone alone' => (distinguished_iff alone alone').mpr (clear.alone alone alone')
    · intro other same
      cases shared : first.shared with
      | true =>
        have alone : second.shared = false := by
          cases shared' : second.shared with
          | true => exact absurd (shared.trans shared'.symm) other
          | false => rfl
        rw [Scope.key, Scope.key, shared, alone] at same
        exact clear.shared' alone shared same
      | false =>
        have shared' : second.shared = true := by
          cases shared' : second.shared with
          | true => rfl
          | false => exact absurd (shared.trans shared'.symm) other
        rw [Scope.key, Scope.key, shared, shared'] at same
        exact clear.shared shared shared' same.symm

end Separation

inductive Adapter where
  | qqOfficial
  | onebot
  | wecom
  | openclaw (adapterKind : String) (defaults : OpenClawAdapterDefaults)

section Adapters

variable (python : Conversions) (lower : String → String)

def qqUser (event : Dict) : String :=
  (firstTrue [get event "user_id", get (get event "author").entries "id",
    get (get (get event "member").entries "user").entries "id", get event "openid"]
    (.str "unknown-qq-user")).text python.repr

def qqGroup (event : Dict) : String :=
  (firstTrue [get event "group_id", get event "guild_id", get event "channel_id"]
    (.str "")).text python.repr

/-- The group, also of a direct message that names a guild, or else the direct message. -/
def qqChannel (event : Dict) : String :=
  if qqGroup python event ≠ "" then qqGroup python event
  else "direct-" ++
    ((get event "direct_message_id").orElse (.str (qqUser python event))).text python.repr

def onebotGroupId (event : Dict) : String :=
  let groupId := (get event "group_id").text python.repr
  if groupId = "None" then "" else groupId

namespace Adapter

/-- The event of a payload that is accepted, with its type where there are types. -/
def dispatched (payload : Dict) : Adapter → Except String (Option (String × Dict))
  | qqOfficial => QqOfficial.qqOfficialExtractDispatchPayload python payload
  | onebot | wecom | openclaw _ _ => .ok (some ("", payload))

def envelope (event : Dict) : Adapter → SocialMessageEnvelope
  | qqOfficial => QqOfficial.envelopeFromEvent python event
  | onebot => onebotEnvelope python lower event
  | wecom => wecomEnvelope python event
  | openclaw adapterKind defaults =>
    buildOpenclawSocialEnvelope python lower adapterKind defaults event

/-- Where an event comes from. A dispatch of the official QQ platform is direct by its type. -/
def scope (eventType : String) (event : Dict) : Adapter → Scope
  | qqOfficial => {
      user := qqUser python event
      direct := eventType = "DIRECT_MESSAGE_CREATE" || eventType = "C2C_MESSAGE_CREATE"
      group := qqGroup python event
      channel := qqChannel python event
      shared := qqGroup python event ≠ "" && !(QqOfficial.mentionedUserIds python event).isEmpty }
  | onebot => {
      user := onebotUser python event
      direct := !onebotGroup python lower event
      group := onebotGroupId python event
      channel := onebotChannel python lower event
      shared := onebotShared python lower event }
  | wecom => {
      user := wecomUser python event
      direct := !wecomGroup python event
      group := wecomRoom python event
      channel := roomOrDirect (wecomRoom python event) (wecomUser python event)
      shared := wecomShared python event }
  | openclaw _ _ => {
      user := openclawUser python event
      direct := !openclawGroup python lower event
      group := openclawRoom python event
      channel := roomOrDirect (openclawRoom python event) (openclawUser python event)
      shared := openclawShared python lower event }

end Adapter

/-- `session_scope_key` of an envelope. -/
def sessionKey (envelope : SocialMessageEnvelope) : Value :=
  get envelope.metadata "session_scope_key"

/-- `session_scope == "per_user"`. -/
def perUser (envelope : SocialMessageEnvelope) : Bool :=
  (get envelope.metadata "session_scope").isText "per_user"

/-- A payload that the adapter accepts. -/
structure Message (adapter : Adapter) where
  payload : Dict
  eventType : String
  event : Dict
  accepted : adapter.dispatched python payload = .ok (some (eventType, event))

end Adapters

namespace Message

variable {python : Conversions} {lower : String → String} {adapter : Adapter}

def envelope (lower : String → String) (message : Message python adapter) :
    SocialMessageEnvelope := adapter.envelope python lower message.event

def scope (lower : String → String) (message : Message python adapter) : Scope :=
  adapter.scope python lower message.eventType message.event

theorem perUser_sessionScope (shared : Bool) :
    (Value.str (sessionScope shared)).isText "per_user" = !shared := by
  cases shared <;> decide

/-- The official QQ adapter shares the session of a group message that mentions someone. -/
theorem qq_shared_iff (event : Dict) :
    ((if qqGroup python event ≠ "" then "group" else "direct") = "group" ∧
        QqOfficial.mentionedUserIds python event ≠ []) ↔
      (qqGroup python event ≠ "" && !(QqOfficial.mentionedUserIds python event).isEmpty) =
        true := by
  rw [Bool.and_eq_true, Bool.not_eq_true', List.isEmpty_eq_false_iff, decide_eq_true_iff]
  apply and_congr_left'
  by_cases named : qqGroup python event ≠ ""
  · rw [if_pos named]
    exact iff_of_true rfl named
  · rw [if_neg named]
    exact iff_of_false (by decide) named

theorem sessionKey_eq (message : Message python adapter) :
    sessionKey (message.envelope lower) = .str (message.scope lower).key := by
  cases adapter with
  | qqOfficial =>
    exact congrArg Value.str (if_congr (qq_shared_iff message.event) rfl rfl)
  | onebot => rfl
  | wecom => rfl
  | openclaw adapterKind defaults => rfl

theorem perUser_eq (message : Message python adapter) :
    perUser (message.envelope lower) = !(message.scope lower).shared := by
  cases adapter with
  | qqOfficial =>
    have kind : get (QqOfficial.envelopeFromEvent python message.event).metadata
        "session_scope" = .str (sessionScope _) :=
      congrArg Value.str (if_congr (qq_shared_iff message.event) rfl rfl)
    exact (congrArg (Value.isText "per_user") kind).trans (perUser_sessionScope _)
  | onebot => exact perUser_sessionScope _
  | wecom => exact perUser_sessionScope _
  | openclaw adapterKind defaults => exact perUser_sessionScope _

end Message

/-- What the keys have to do for two messages of one adapter: two that are scoped to their users
have the same key exactly in the same channel of the same user, and none has the key of a
shared group. -/
structure Separates {python : Conversions} {adapter : Adapter} (lower : String → String)
    (first second : Message python adapter) : Prop where
  alone : perUser (first.envelope lower) = true → perUser (second.envelope lower) = true →
    (sessionKey (first.envelope lower) = sessionKey (second.envelope lower) ↔
      SameChannel (first.scope lower) (second.scope lower))
  shared : perUser (first.envelope lower) ≠ perUser (second.envelope lower) →
    sessionKey (first.envelope lower) ≠ sessionKey (second.envelope lower)

/-- The keys of two messages do what they have to exactly where the scopes are unambiguous. -/
theorem sessions_separated_iff (python : Conversions) (lower : String → String)
    (adapter : Adapter) (first second : Message python adapter) :
    Separates lower first second ↔
      Unambiguous (first.scope lower) (second.scope lower) := by
  rw [← separated_iff]
  have keys : sessionKey (first.envelope lower) = sessionKey (second.envelope lower) ↔
      (first.scope lower).key = (second.scope lower).key := by
    rw [Message.sessionKey_eq, Message.sessionKey_eq, Value.str.injEq]
  constructor
  · intro separates
    constructor
    · intro alone alone'
      rw [← keys]
      apply separates.alone
      · rw [Message.perUser_eq, alone]; rfl
      · rw [Message.perUser_eq, alone']; rfl
    · intro other
      rw [ne_eq, ← keys]
      apply separates.shared
      rw [Message.perUser_eq, Message.perUser_eq]
      exact fun same => other (Bool.not_inj same)
  · intro separated
    constructor
    · intro alone alone'
      rw [Message.perUser_eq, Bool.not_eq_true'] at alone alone'
      rw [keys]
      exact separated.alone alone alone'
    · intro other
      rw [ne_eq, keys]
      apply separated.shared
      rw [Message.perUser_eq, Message.perUser_eq] at other
      exact fun same => other (congrArg not same)

def directPayload (id : String) : Dict :=
  [("op", .int 0), ("t", .str "C2C_MESSAGE_CREATE"),
    ("d", .dict [("id", .str id), ("author", .dict [("id", .str "user-1")])])]

/-- What the adapter is given of it: the id of the message stands for the direct message. -/
def directEvent (id : String) : Dict :=
  [("id", .str id), ("author", .dict [("id", .str "user-1")]),
    ("event_type", .str "C2C_MESSAGE_CREATE"), ("direct_message_id", .str id)]

def firstDirect : Message plainConversions .qqOfficial where
  payload := directPayload "m-1"
  eventType := "C2C_MESSAGE_CREATE"
  event := directEvent "m-1"
  accepted := rfl

def secondDirect : Message plainConversions .qqOfficial where
  payload := directPayload "m-2"
  eventType := "C2C_MESSAGE_CREATE"
  event := directEvent "m-2"
  accepted := rfl

/-- Two direct messages of one user are two sessions. -/
theorem direct_messages_apart :
    ¬ ∀ (adapter : Adapter) (first second : Message plainConversions adapter),
      Separates id first second := by
  intro claimed
  have separates := claimed .qqOfficial firstDirect secondDirect
  have same := (separates.alone (by decide +kernel) (by decide +kernel)).mpr
    ⟨by decide +kernel, by decide +kernel, fun direct => absurd direct (by decide +kernel)⟩
  rw [Message.sessionKey_eq, Message.sessionKey_eq, Value.str.injEq] at same
  exact absurd same (by decide +kernel)

end NeuroLink.SessionScope
