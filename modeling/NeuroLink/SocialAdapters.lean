import NeuroLink.QqOfficial

/-!
The other social adapters: OneBot, WeCom and the ones that OpenClaw hosts. Each makes an
envelope of a payload and keys its session by the channel, in a shared group, or by the channel
and the user.
-/

namespace NeuroLink.SocialAdapters

open PyValue
open QqOfficial (SocialMessageEnvelope)

section Reading

-- `lower` is `str.lower`
variable (python : Conversions) (lower : String → String)

/-- `[str(item).strip() for item in value if str(item).strip()]` of a list. -/
def textList (value : Value) : List String :=
  (value.items.map fun item => strip (item.text python.repr)).filter (· ≠ "")

/-- What the segments of one type hold in one field of their data, without empty texts. -/
def segmentTexts (kind field : String) (message : List Value) : List String :=
  let named := (dicts message).filter fun segment =>
    python.textOrEmpty (get segment "type") = kind
  (named.map fun segment =>
    strip (python.textOrEmpty (get (get segment "data").entries field))).filter (· ≠ "")

/-- `_extract_onebot_text`. -/
def extractOnebotText : Value → String
  | .str message => strip message
  | .list message => strip (" ".intercalate (segmentTexts python "text" "text" message))
  | _ => ""

/-- `_extract_onebot_mentions`. -/
def extractOnebotMentions : Value → List String
  | .list message => segmentTexts python "at" "qq" message
  | _ => []

/-- `channel_id if session_scope == "shared_group" else f"{channel_id}:{external_user_id}"`. -/
def sessionScopeKey (shared : Bool) (channelId externalUserId : String) : String :=
  if shared then channelId else channelId ++ ":" ++ externalUserId

def sessionScope (shared : Bool) : String := if shared then "shared_group" else "per_user"

/-- `str(payload.get("message_type") or "private").strip().lower() == "group"`. -/
def onebotGroup (payload : Dict) : Bool :=
  lower (strip (python.textOr "private" (get payload "message_type"))) = "group"

def onebotUser (payload : Dict) : String :=
  python.textOr "unknown-onebot-user" (get payload "user_id")

/-- The channel of a OneBot message; an id that is missing reads as `None`. -/
def onebotChannel (payload : Dict) : String :=
  let channelId := (get payload
    (if onebotGroup python lower payload then "group_id" else "user_id")).text python.repr
  if channelId = "" ∨ channelId = "None" then "direct-" ++ onebotUser python payload
  else channelId

def onebotShared (payload : Dict) : Bool :=
  onebotGroup python lower payload && (get payload "share_session_in_group").truthy

/-- `OneBotQQSocialAdapter.envelope_from_event`. -/
def onebotEnvelope (payload : Dict) : SocialMessageEnvelope :=
  let messageType := lower (strip (python.textOr "private" (get payload "message_type")))
  let channelKind := if messageType = "group" then "group" else "direct"
  let externalUserId := onebotUser python payload
  let channelId := onebotChannel python lower payload
  let message := firstTrue [get payload "message", get payload "raw_message"] (.str "")
  let mentionedUserIds := extractOnebotMentions python message
  let selfId := python.textOrEmpty (get payload "self_id")
  let shared := onebotShared python lower payload
  { socialMessageId := python.textOr ("onebot-" ++ channelId ++ "-" ++ externalUserId)
      (get payload "message_id")
    adapterKind := "onebot_qq"
    channelId
    channelKind
    externalUserId
    principalId := "onebot_qq:" ++ externalUserId
    messageKind := "text"
    text := extractOnebotText python message
    receivedAt := "2026-05-11T12:00:00Z"
    rateLimitClass := if channelKind = "group" then "group_user" else "normal_user"
    policyTags := ["social_ingress", "user_input", "channel_" ++ channelKind,
      "adapter_onebot_qq", "lab_bridge",
      if channelKind = "group" then "mention_or_direct" else "direct_access"]
    metadata := [("source_payload_kind", .str "onebot_v11"), ("message_type", .str messageType),
      ("self_id", .str selfId),
      ("is_self_message", .bool (selfId ≠ "" && selfId = externalUserId)),
      ("mentioned_user_ids", .list (mentionedUserIds.map .str)),
      ("mentioned_self", .bool (selfId ≠ "" && mentionedUserIds.contains selfId)),
      ("mention_policy", .str "mention_or_direct"), ("transport_kind", .str "reverse_websocket"),
      ("sender_role", .str (python.textOr "member" (get (get payload "sender").entries "role"))),
      ("share_session_in_group", .bool (get payload "share_session_in_group").truthy),
      ("session_scope", .str (sessionScope shared)),
      ("session_scope_key", .str (sessionScopeKey shared channelId externalUserId)),
      ("live_network_executed", .bool false)] }

/-- `conversation_type in {"group", "room"}`. -/
def wecomGroup (payload : Dict) : Bool :=
  ["group", "room"].contains (python.textOr "single" (get payload "conversation_type"))

def wecomUser (payload : Dict) : String :=
  (firstTrue [get payload "from", get payload "userid", get payload "user_id"]
    (.str "unknown-wecom-user")).text python.repr

def wecomRoom (payload : Dict) : String :=
  (firstTrue [get payload "roomid", get payload "chatid"] (.str "")).text python.repr

/-- `room_id or f"direct-{external_user_id}"`. -/
def roomOrDirect (room user : String) : String := if room ≠ "" then room else "direct-" ++ user

def wecomShared (payload : Dict) : Bool :=
  wecomGroup python payload && !(textList python (get payload "mentioned_list")).isEmpty

/-- `WeComSocialAdapter.envelope_from_event`. -/
def wecomEnvelope (payload : Dict) : SocialMessageEnvelope :=
  let externalUserId := wecomUser python payload
  let channelKind := if wecomGroup python payload then "group" else "direct"
  let channelId := roomOrDirect (wecomRoom python payload) externalUserId
  let socialMessageId := (firstTrue [get payload "msgid", get payload "message_id"]
    (.str ("wecom-" ++ channelId ++ "-" ++ externalUserId))).text python.repr
  let shared := wecomShared python payload
  { socialMessageId
    adapterKind := "wecom"
    channelId
    channelKind
    externalUserId
    principalId := "wecom:" ++ externalUserId
    messageKind := "text"
    text := strip ((firstTrue [get payload "text", get payload "content"]
      (.str "")).text python.repr)
    receivedAt := "2026-05-11T12:00:00Z"
    rateLimitClass := if channelKind = "group" then "group_user" else "normal_user"
    policyTags := ["social_ingress", "user_input", "channel_" ++ channelKind, "adapter_wecom",
      "official_enterprise_api",
      if channelKind = "group" then "mention_or_direct" else "direct_access"]
    metadata := [("source_payload_kind", .str "wecom_bot"), ("message_id", .str socialMessageId),
      ("mentioned_user_ids",
        .list ((textList python (get payload "mentioned_list")).map .str)),
      ("mention_policy", .str "mention_or_direct"), ("transport_kind", .str "websocket"),
      ("session_scope", .str (sessionScope shared)),
      ("session_scope_key", .str (sessionScopeKey shared channelId externalUserId)),
      ("group_scene", .str (if channelKind = "group" then "group" else "direct")),
      ("live_network_executed", .bool false)] }

/-- `_first_text`: the first of the keys with a text that is not blank. -/
def firstText (payload : Dict) (keys : List String) (default : String) : String :=
  let texts := keys.filterMap fun key =>
    match get payload key with
    | .none => none
    | value => some (strip (value.text python.repr))
  (texts.find? (· ≠ "")).getD default

structure OpenClawAdapterDefaults where
  platformKind : String
  pluginId : String
  pluginPackage : String
  installerPackage : String
  pluginComplianceClass : String

def openclawUser (payload : Dict) : String :=
  firstText python payload ["from_user", "openid", "user_id"] "unknown-openclaw-user"

def openclawGroup (payload : Dict) : Bool :=
  lower (firstText python payload ["scene"] "direct") = "group"

def openclawRoom (payload : Dict) : String := firstText python payload ["room_id", "chatroom"] ""

def openclawShared (payload : Dict) : Bool :=
  openclawGroup python lower payload && (get payload "share_session_in_group").truthy

/-- `build_openclaw_social_envelope`. -/
def buildOpenclawSocialEnvelope (adapterKind : String) (defaults : OpenClawAdapterDefaults)
    (payload : Dict) : SocialMessageEnvelope :=
  let externalUserId := openclawUser python payload
  let channelKind := if openclawGroup python lower payload then "group" else "direct"
  let channelId := roomOrDirect (openclawRoom python payload) externalUserId
  let socialMessageId := firstText python payload ["msg_id", "message_id"]
    ("openclaw-" ++ adapterKind ++ "-" ++ channelId ++ "-" ++ externalUserId)
  let shared := openclawShared python lower payload
  { socialMessageId
    adapterKind
    channelId
    channelKind
    externalUserId
    principalId := adapterKind ++ ":" ++ externalUserId
    messageKind := "text"
    text := firstText python payload ["text", "content"] ""
    receivedAt := "2026-05-11T12:00:00Z"
    rateLimitClass := if channelKind = "group" then "group_user" else "normal_user"
    policyTags := ["social_ingress", "user_input", "channel_" ++ channelKind,
      "adapter_" ++ adapterKind, "runtime_openclaw", "hosted_plugin_bridge",
      if channelKind = "group" then "mention_or_direct" else "direct_access"]
    metadata := [("source_payload_kind", .str "openclaw"),
      ("social_contract_schema_version", .str "2.2.3-openclaw-social-contract-v1"),
      ("message_id", .str socialMessageId),
      ("mentioned_user_ids",
        .list ((textList python (get payload "mentioned_list")).map .str)),
      ("mention_policy", .str "mention_or_direct"), ("runtime_host", .str "openclaw"),
      ("transport_kind", .str "openclaw_gateway"), ("platform_kind", .str defaults.platformKind),
      ("plugin_id", .str (firstText python payload ["plugin_id"] defaults.pluginId)),
      ("plugin_package",
        .str (firstText python payload ["plugin_package"] defaults.pluginPackage)),
      ("plugin_version", .str (firstText python payload ["plugin_version"] "")),
      ("installer_package",
        .str (firstText python payload ["installer_package"] defaults.installerPackage)),
      ("host_version", .str (firstText python payload ["host_version"] "")),
      ("plugin_compliance_class", .str defaults.pluginComplianceClass),
      ("share_session_in_group", .bool (get payload "share_session_in_group").truthy),
      ("session_scope", .str (sessionScope shared)),
      ("session_scope_key", .str (sessionScopeKey shared channelId externalUserId)),
      ("group_scene", .str (if channelKind = "group" then "group" else "direct")),
      ("raw_event_type",
        .str (firstText python payload ["event_type", "raw_event_type"] "message")),
      ("live_network_executed", .bool false)] }

end Reading

end NeuroLink.SocialAdapters
