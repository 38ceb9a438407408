import NeuroLink.PyValue

/-!
Messages of the official QQ bot platform: the payloads that dispatch one, and the envelope
that the adapter makes of it.
-/

namespace NeuroLink.QqOfficial

open PyValue

/-- `SocialMessageEnvelope`. -/
structure SocialMessageEnvelope where
  socialMessageId : String
  adapterKind : String
  channelId : String
  channelKind : String
  externalUserId : String
  principalId : String
  messageKind : String
  text : String
  receivedAt : String
  rateLimitClass : String
  policyTags : List String
  metadata : Dict

section Reading

variable (python : Conversions)

/-- `value if isinstance(value, dict) else {}`. -/
def dictOrEmpty (value : Value) : Dict := value.entries

/-- `QQ_OFFICIAL_DISPATCH_EVENT_TYPES`. -/
def qqOfficialDispatchEventTypes : List String :=
  ["AT_MESSAGE_CREATE", "GROUP_AT_MESSAGE_CREATE", "DIRECT_MESSAGE_CREATE", "C2C_MESSAGE_CREATE"]

/-- `(payload.get("author") or {}).get("id")`, which a true author raises that is no
dictionary. -/
def authorId (payload : Dict) : Except String Value :=
  match (get payload "author").orElse (.dict []) with
  | .dict author => .ok (get author "id")
  | _ => .error "AttributeError"

def directMessageId (payload : Dict) : Except String String :=
  let named := firstTrue [get payload "id", get payload "message_id"] (get payload "user_id")
  if named.truthy then .ok (named.text python.repr)
  else (authorId payload).map fun author =>
    (author.orElse (.str "qq-direct-message")).text python.repr

/-- `qq_official_extract_dispatch_payload`. -/
def qqOfficialExtractDispatchPayload (payload : Dict) : Except String (Option (String × Dict)) := do
  let op ← python.intOrZero (get payload "op")
  let eventType := strip (python.textOrEmpty (get payload "t"))
  if op ≠ 0 then return none
  else if ¬ qqOfficialDispatchEventTypes.contains eventType then return none
  else
    let event := insert (dictOrEmpty (get payload "d")) "event_type" (.str eventType)
    if eventType = "DIRECT_MESSAGE_CREATE" ∨ eventType = "C2C_MESSAGE_CREATE" then
      if (get event "direct_message_id").truthy then
        return some (eventType, pop event "group_id")
      else
        let directId ← directMessageId python event
        return some (eventType, pop (insert event "direct_message_id" (.str directId)) "group_id")
    else
      let openid := strip (python.textOrEmpty (get event "group_openid"))
      return some (eventType,
        insertIf (!(get event "group_id").truthy && openid ≠ "") event "group_id" (.str openid))

/-- `QQOfficialSocialAdapter.adapter_kind`. -/
def adapterKind : String := "qq_official"

def mentionedUserIds (payload : Dict) : List String :=
  ((dicts (get payload "mentions").items).map fun item =>
    python.textOrEmpty (get item "id")).filter (· ≠ "")

/-- `QQOfficialSocialAdapter.envelope_from_event`. -/
def envelopeFromEvent (payload : Dict) : SocialMessageEnvelope :=
  let author := dictOrEmpty (get payload "author")
  let memberUser := dictOrEmpty (get (dictOrEmpty (get payload "member")) "user")
  let externalUserId := (firstTrue [get payload "user_id", get author "id", get memberUser "id",
    get payload "openid"] (.str "unknown-qq-user")).text python.repr
  let groupId := (firstTrue [get payload "group_id", get payload "guild_id",
    get payload "channel_id"] (.str "")).text python.repr
  let directId := ((get payload "direct_message_id").orElse (.str externalUserId)).text python.repr
  let channelKind := if groupId ≠ "" then "group" else "direct"
  let channelId := if groupId ≠ "" then groupId else "direct-" ++ directId
  let mentioned := mentionedUserIds python payload
  let socialMessageId := (firstTrue [get payload "id", get payload "message_id"]
    (.str ("qq-official-" ++ channelId ++ "-" ++ externalUserId))).text python.repr
  let isAdmin := (get payload "is_admin").truthy || (get payload "operator_override").truthy
  let shared := channelKind = "group" ∧ mentioned ≠ []
  { socialMessageId
    adapterKind
    channelId
    channelKind
    externalUserId
    principalId := adapterKind ++ ":" ++ externalUserId
    messageKind := "text"
    text := strip ((firstTrue [get payload "content", get payload "message"]
      (.str "")).text python.repr)
    receivedAt := "2026-05-11T12:00:00Z"
    rateLimitClass := if isAdmin then "admin" else
      if channelKind = "group" then "group_user" else "normal_user"
    policyTags := ["social_ingress", "user_input", "channel_" ++ channelKind,
      "adapter_qq_official", "official_api",
      if channelKind = "group" then "mention_required" else "direct_access"]
    metadata := [("source_payload_kind", .str "qq_official_bot"),
      ("message_id", .str socialMessageId), ("mentions_present", .bool (mentioned ≠ [])),
      ("mentioned_user_ids", .list (mentioned.map .str)),
      ("mention_policy", .str "mention_or_direct"), ("transport_kind", .str "https"),
      ("session_scope", .str (if shared then "shared_group" else "per_user")),
      ("session_scope_key",
        .str (if shared then channelId else channelId ++ ":" ++ externalUserId)),
      ("group_scene", .str (if channelKind = "group" then "group" else "direct")),
      ("live_network_executed", .bool false)] }

end Reading

end NeuroLink.QqOfficial
