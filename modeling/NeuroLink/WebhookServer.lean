import NeuroLink.QqOfficial
import NeuroLink.RaisingProgram

/-!
The handler of the local server for callbacks of the official QQ platform. A request is
answered by a program of calls: it reads the body, changes the counts that all requests
share, passes a message on, and replies.
-/

namespace NeuroLink.WebhookServer

open PyValue QqOfficial RaisingProgram

/-- Ed25519: what signs with a private key, and whether a signature of a message is one of
the key. -/
structure Ed25519 where
  sign : List UInt8 → List UInt8 → List UInt8
  verifies : List UInt8 → List UInt8 → List UInt8 → Bool

/-- `unhexlify`, `bytes.decode("utf-8")` followed by `json.loads` (which finds no value, or
raises what nothing catches), and the conversions of values. -/
structure Library extends Conversions where
  ed25519 : Ed25519
  unhexlify : String → Option (List UInt8)
  loads : List UInt8 → Except String (Option Value)

structure Settings where
  appSecret : String
  normalizedPath : String

structure Request where
  path : String
  headers : List (String × String)

/-- `str(self.headers.get(name) or "")`. -/
def Request.header (request : Request) (name : String) : String :=
  ((request.headers.find? fun header => header.1.toLower == name.toLower).map (·.2)).getD ""

def bytesOf (text : String) : List UInt8 := text.toUTF8.data.toList

def repeated (secret : List Char) (given : secret ≠ []) : List Char :=
  if short : secret.length < 32 then repeated (secret ++ secret) (by simp [given]) else secret
termination_by 32 - secret.length
decreasing_by
  have positive := List.length_pos_iff.mpr given
  simp only [List.length_append]
  omega

def privateKey (secret : String) (given : secret.toList ≠ []) : Except String (List UInt8) :=
  let seed := bytesOf (String.ofList ((repeated secret.toList given).take 32))
  if seed.length = 32 then .ok seed else .error "ValueError"

section Signatures

variable (library : Library)

def hex (bytes : List UInt8) : String :=
  String.ofList (bytes.flatMap fun byte => (Nat.toDigits 16 (byte.toNat + 256)).drop 1)

/-- `qq_official_validation_response`. -/
def qqOfficialValidationResponse (appSecret plainToken eventTs : String) :
    Except String Dict := do
  if given : appSecret.toList ≠ [] then
    let key ← privateKey appSecret given
    return [("plain_token", .str plainToken),
      ("signature", .str (hex (library.ed25519.sign key (bytesOf (eventTs ++ plainToken)))))]
  else throw "qq_official_app_secret_missing"

/-- `qq_official_verify_request_signature`. -/
def qqOfficialVerifyRequestSignature (appSecret signatureHex signatureTimestamp : String)
    (body : List UInt8) : Except String Bool := do
  if given : appSecret.toList ≠ [] then
    if signatureHex = "" ∨ signatureTimestamp = "" then return false
    else
      let key ← privateKey appSecret given
      match library.unhexlify signatureHex with
      | none => return false
      | some signature =>
          return library.ed25519.verifies key signature (bytesOf signatureTimestamp ++ body)
  else return false

end Signatures

/-! The state that the requests share, and how they change it. -/

structure ValidationRequest where
  path : String
  xBotAppid : String
  userAgent : String
  xSignatureTimestamp : String
  xSignatureEd25519Present : Bool
  requestSignatureValid : Bool
  plainToken : String
  eventTs : String
  responseSignature : String
  deriving DecidableEq

structure Event where
  eventType : String
  channelKind : String
  principalId : String
  socialMessageId : String
  deriving DecidableEq

structure CoreResult where
  ok : Bool
  status : String
  eventsPersisted : Int
  finalResponseSpeaker : String
  deriving DecidableEq

structure State where
  receivedRequestCount : Nat
  validationRequestCount : Nat
  validationRequests : List ValidationRequest
  dispatchEventCount : Nat
  ignoredEventCount : Nat
  events : List Event
  coreResults : List CoreResult
  deriving DecidableEq

inductive Change where
  | received
  | validated (request : ValidationRequest)
  | ignored
  | dispatched (event : Event) (result : Option CoreResult)

def Change.apply (state : State) : Change → State
  | .received => { state with receivedRequestCount := state.receivedRequestCount + 1 }
  | .validated request =>
      { state with
        validationRequestCount := state.validationRequestCount + 1
        validationRequests := state.validationRequests ++ [request] }
  | .ignored => { state with ignoredEventCount := state.ignoredEventCount + 1 }
  | .dispatched event result =>
      { state with
        dispatchEventCount := state.dispatchEventCount + 1
        events := state.events ++ [event]
        coreResults := state.coreResults ++ result.toList }

inductive Call where
  | readBody (length : Int)
  | update (change : Change)
  | diagnose (request : ValidationRequest)
  | ingest (envelope : SocialMessageEnvelope) (eventType : String)
  | writeJson (statusCode : Nat) (payload : Dict)

abbrev Call.Reply : Call → Type
  | .readBody _ => List UInt8
  | .update _ => Unit
  | .diagnose _ => Unit
  | .ingest _ _ => Dict
  | .writeJson _ _ => Unit

abbrev HandlerM := Service Call Call.Reply

abbrev Step := Done Call Call.Reply

/-- The state after what a handler did, in the order in which the handlers of all requests
did it. -/
def State.after (state : State) (log : List Step) : State :=
  log.foldl (fun state done =>
    match done.op, done.reply with
    | .update change, .ok _ => change.apply state
    | _, _ => state) state

section Handler

variable (library : Library) (settings : Settings) (request : Request)

def ask (call : Call) : HandlerM call.Reply := perform call

def update (change : Change) : HandlerM Unit := ask (.update change)

def writeJson (statusCode : Nat) (payload : Dict) : HandlerM Unit :=
  ask (.writeJson statusCode payload)

def refusal (reason : String) : Dict := [("ok", .bool false), ("reason", .str reason)]

/-- The entries of `core_results` for what the Core made of a message. -/
def coreResultOf (coreResult : Dict) : Except String CoreResult := do
  let eventsPersisted ← library.intOrZero (get coreResult "events_persisted")
  return { ok := (get coreResult "ok").truthy
           status := library.textOrEmpty (get coreResult "status")
           eventsPersisted
           finalResponseSpeaker := match get coreResult "final_response" with
             | .dict response => (get response "speaker").text library.repr
             | _ => "" }

def answerValidation (body : List UInt8) (payload : Dict) : HandlerM Unit := do
  let data := dictOrEmpty (get payload "d")
  let plainToken := library.textOrEmpty (get data "plain_token")
  let eventTs := library.textOrEmpty (get data "event_ts")
  let requestSignature := request.header "X-Signature-Ed25519"
  let requestSignatureTimestamp := request.header "X-Signature-Timestamp"
  let response ← orThrow
    (qqOfficialValidationResponse library settings.appSecret plainToken eventTs)
  let requestSignatureValid ← orThrow (qqOfficialVerifyRequestSignature library
    settings.appSecret requestSignature requestSignatureTimestamp body)
  let validationRequest : ValidationRequest :=
    { path := request.path
      xBotAppid := request.header "X-Bot-Appid"
      userAgent := request.header "User-Agent"
      xSignatureTimestamp := requestSignatureTimestamp
      xSignatureEd25519Present := requestSignature ≠ ""
      requestSignatureValid
      plainToken
      eventTs
      responseSignature := library.textOrEmpty (get response "signature") }
  update (.validated validationRequest)
  ask (.diagnose validationRequest)
  writeJson 200 response

def answerIngest (eventType : String) (envelope : SocialMessageEnvelope) :
    Except String Dict → HandlerM Unit
  | .error raised =>
      writeJson 500 (refusal "qq_official_dispatch_failed" ++ [("error", .str raised)])
  | .ok coreResult =>
      let event : Event :=
        ⟨eventType, envelope.channelKind, envelope.principalId, envelope.socialMessageId⟩
      match coreResultOf library coreResult with
      | .error raised => do
          -- the event was counted before its result could not be read
          update (.dispatched event none)
          raise raised
      | .ok result => do
          update (.dispatched event (some result))
          writeJson 200 [("op", .int 12)]

/-- A message goes to the Core. -/
def dispatch (eventType : String) (eventPayload : Dict) : HandlerM Unit := do
  let envelope := envelopeFromEvent library.toConversions eventPayload
  let reply ← caught (ask (.ingest envelope eventType))
  answerIngest library eventType envelope reply

def handlePayload (body : List UInt8) (payload : Dict) : HandlerM Unit := do
  let op ← orThrow (library.intOrZero (get payload "op"))
  if op = 13 then answerValidation library settings request body payload
  else
    match ← orThrow (qqOfficialExtractDispatchPayload library.toConversions payload) with
    | none => do
        update .ignored
        writeJson 202 [("ok", .bool true), ("reason", .str "ignored_event_type")]
    | some (eventType, eventPayload) => dispatch library eventType eventPayload

/-- `Handler.do_POST`. -/
def doPost : HandlerM Unit := do
  if request.path ≠ settings.normalizedPath then writeJson 404 (refusal "path_not_found")
  else
    let contentLength := request.header "Content-Length"
    let bodyLength ← orThrow (library.parsed (if contentLength = "" then "0" else contentLength))
    let body : List UInt8 ← ask (.readBody bodyLength)
    update .received
    match ← orThrow (library.loads body) with
    | none => writeJson 400 (refusal "invalid_json_payload")
    | some (.dict payload) => handlePayload library settings request body payload
    | some _ => writeJson 400 (refusal "invalid_payload_shape")

end Handler

section Properties

variable {library : Library} {settings : Settings} {request : Request}

def Dispatches (library : Library) (body : List UInt8) (envelope : SocialMessageEnvelope)
    (eventType : String) : Prop :=
  ∃ payload eventPayload, library.loads body = .ok (some (.dict payload)) ∧
    qqOfficialExtractDispatchPayload library.toConversions payload =
      .ok (some (eventType, eventPayload)) ∧
    envelope = envelopeFromEvent library.toConversions eventPayload

/-- The messages of a request: read from its body, counted, and dispatched. -/
def Messages (library : Library) (settings : Settings) (request : Request) (log : List Step)
    (envelope : SocialMessageEnvelope) (eventType : String) : Prop :=
  request.path = settings.normalizedPath ∧ (⟨.update .received, .ok ()⟩ : Step) ∈ log ∧
    ∃ length body, (⟨.readBody length, .ok body⟩ : Step) ∈ log ∧
      Dispatches library body envelope eventType

/-- A message is passed on where the request holds it, and counted where it was passed on. -/
def Allowed (library : Library) (settings : Settings) (request : Request) (log : List Step) :
    Call → Prop
  | .ingest envelope eventType => Messages library settings request log envelope eventType
  | .update (.dispatched _ _) =>
      ∃ envelope eventType coreResult, (⟨.ingest envelope eventType, .ok coreResult⟩ : Step) ∈ log
  | _ => True

def PassedOn (library : Library) (settings : Settings) (request : Request) (log : List Step) :
    Prop :=
  ∀ envelope eventType, Messages library settings request log envelope eventType →
    ∃ reply, (⟨.ingest envelope eventType, reply⟩ : Step) ∈ log

theorem Messages.of_append {log : List Step} {done : Step} {envelope : SocialMessageEnvelope}
    {eventType : String}
    (messages : Messages library settings request (log ++ [done]) envelope eventType)
    (read : ∀ length, done.op ≠ .readBody length) (received : done.op ≠ .update .received) :
    Messages library settings request log envelope eventType := by
  obtain ⟨path, counted, length, body, there, dispatches⟩ := messages
  refine ⟨path, ?_, length, body, ?_, dispatches⟩
  · rcases List.mem_append.mp counted with earlier | last
    · exact earlier
    · obtain rfl := List.mem_singleton.mp last
      exact absurd rfl received
  · rcases List.mem_append.mp there with earlier | last
    · exact earlier
    · obtain rfl := List.mem_singleton.mp last
      exact absurd rfl (read length)

theorem PassedOn.append {log : List Step} {done : Step}
    (passed : PassedOn library settings request log)
    (read : ∀ length, done.op ≠ .readBody length) (received : done.op ≠ .update .received) :
    PassedOn library settings request (log ++ [done]) := by
  intro envelope eventType messages
  obtain ⟨reply, there⟩ := passed envelope eventType (messages.of_append read received)
  exact ⟨reply, List.mem_append_left _ there⟩

def opening (length : Int) (body : List UInt8) : List Step :=
  [⟨.readBody length, .ok body⟩, ⟨.update .received, .ok ()⟩]

theorem messages_opening {length : Int} {body : List UInt8} {envelope : SocialMessageEnvelope}
    {eventType : String} :
    Messages library settings request (opening length body) envelope eventType ↔
      request.path = settings.normalizedPath ∧ Dispatches library body envelope eventType := by
  constructor
  · rintro ⟨path, _, other, read, there, dispatches⟩
    obtain ⟨rfl, rfl⟩ : other = length ∧ read = body := by simpa [opening] using there
    exact ⟨path, dispatches⟩
  · rintro ⟨path, dispatches⟩
    exact ⟨path, by simp [opening], length, body, by simp [opening], dispatches⟩

theorem passedOn_silent {length : Int} {body : List UInt8}
    (silent : ∀ envelope eventType, ¬ Dispatches library body envelope eventType) :
    PassedOn library settings request (opening length body) :=
  fun envelope eventType messages =>
    absurd (messages_opening.mp messages).2 (silent envelope eventType)

theorem passedOn_ingested {length : Int} {body : List UInt8} {payload eventPayload : Dict}
    {eventType : String} {reply : Except String Dict}
    (loaded : library.loads body = .ok (some (.dict payload)))
    (extracted : qqOfficialExtractDispatchPayload library.toConversions payload =
      .ok (some (eventType, eventPayload))) :
    PassedOn library settings request (opening length body ++
      [⟨.ingest (envelopeFromEvent library.toConversions eventPayload) eventType, reply⟩]) := by
  intro envelope otherType messages
  have before := messages.of_append (fun length => nofun) nofun
  obtain ⟨other, otherPayload, otherLoaded, otherExtracted, rfl⟩ :=
    (messages_opening.mp before).2
  obtain rfl : payload = other := by
    simpa using Except.ok.inj (loaded.symm.trans otherLoaded)
  have same := Option.some.inj (Except.ok.inj (extracted.symm.trans otherExtracted))
  obtain ⟨rfl, rfl⟩ := Prod.mk.inj same
  exact ⟨reply, by simp⟩

/-- A dispatched payload has the operation zero and one of the types of messages. -/
theorem extract_some {python : Conversions} {payload eventPayload : Dict} {eventType : String}
    (extracted : qqOfficialExtractDispatchPayload python payload =
      .ok (some (eventType, eventPayload))) :
    python.intOrZero (get payload "op") = .ok 0 ∧ eventType ∈ qqOfficialDispatchEventTypes := by
  unfold qqOfficialExtractDispatchPayload at extracted
  cases read : python.intOrZero (get payload "op") with
  | error raised =>
      rw [read] at extracted
      cases extracted
  | ok op =>
      rw [read] at extracted
      dsimp only [bind, Except.bind] at extracted
      by_cases other : op ≠ 0
      · rw [if_pos other] at extracted
        cases extracted
      · rw [if_neg other] at extracted
        refine ⟨by rw [not_not.mp other], ?_⟩
        by_cases unknown : ¬ qqOfficialDispatchEventTypes.contains
            (strip (python.textOrEmpty (get payload "t")))
        · rw [if_pos unknown] at extracted
          cases extracted
        · rw [if_neg unknown] at extracted
          have known : strip (python.textOrEmpty (get payload "t")) ∈
              qqOfficialDispatchEventTypes := by simpa using unknown
          have typed {value : String × Dict}
              (done : (Except.ok (some value) : Except String _) =
                .ok (some (eventType, eventPayload)))
              (listed : value.1 ∈ qqOfficialDispatchEventTypes) :
              eventType ∈ qqOfficialDispatchEventTypes := by
            cases done
            exact listed
          split at extracted
          · split at extracted
            · exact typed extracted known
            · cases named : directMessageId python (insert (dictOrEmpty (get payload "d"))
                "event_type" (.str (strip (python.textOrEmpty (get payload "t"))))) with
              | error raised =>
                  rw [named] at extracted
                  cases extracted
              | ok directId =>
                  rw [named] at extracted
                  exact typed extracted known
          · exact typed extracted known

variable (library settings request) in
/-- What is known of the runs of a handler: every call is allowed, and in the end all
messages were passed on. -/
def Serves (program : HandlerM Unit) (log : List Step) : Prop :=
  Logs (Allowed library settings request)
    (fun _ log => PassedOn library settings request log) program log

theorem serves_writeJson {log : List Step} (statusCode : Nat) (payload : Dict)
    (passed : PassedOn library settings request log) :
    Serves library settings request (writeJson statusCode payload) log :=
  ⟨trivial, fun _ => passed.append (fun _ => nofun) nofun⟩

theorem serves_update {log : List Step} {change : Change} {next : HandlerM Unit}
    (allowed : Allowed library settings request log (.update change))
    (other : change ≠ .received) (passed : PassedOn library settings request log)
    (rest : ∀ log, PassedOn library settings request log →
      Serves library settings request next log) :
    Serves library settings request (do update change; next) log := by
  have kept : ∀ reply : Except String Unit, PassedOn library settings request
      (log ++ [⟨.update change, reply⟩]) := fun reply =>
    passed.append (fun _ => nofun) fun same => other (Call.update.inj same)
  exact Logs.perform allowed (fun raised => kept (.error raised)) fun value =>
    rest _ (kept (.ok value))

theorem serves_answerValidation {log : List Step} (body : List UInt8) (payload : Dict)
    (passed : PassedOn library settings request log) :
    Serves library settings request (answerValidation library settings request body payload)
      log := by
  refine Logs.orThrow (fun raised _ => passed) fun response _ => ?_
  refine Logs.orThrow (fun raised _ => passed) fun requestSignatureValid _ => ?_
  refine serves_update trivial nofun passed fun log passed => ?_
  refine Logs.perform trivial (fun raised => ?_) fun _ => ?_
  · exact passed.append (fun _ => nofun) nofun
  · exact serves_writeJson _ _ (passed.append (fun _ => nofun) nofun)

theorem serves_answerIngest {log : List Step} {eventType : String}
    {envelope : SocialMessageEnvelope} {reply : Except String Dict}
    (passed : PassedOn library settings request log)
    (ingested : (⟨.ingest envelope eventType, reply⟩ : Step) ∈ log) :
    Serves library settings request (answerIngest library eventType envelope reply) log := by
  cases reply with
  | error raised => exact serves_writeJson _ _ passed
  | ok coreResult =>
      unfold answerIngest
      dsimp only
      cases coreResultOf library coreResult with
      | error raised =>
          refine serves_update ?_ nofun passed fun log passed => passed
          exact ⟨envelope, eventType, coreResult, ingested⟩
      | ok result =>
          refine serves_update ?_ nofun passed fun log passed => serves_writeJson _ _ passed
          exact ⟨envelope, eventType, coreResult, ingested⟩

theorem serves_dispatch {length : Int} {body : List UInt8} {payload eventPayload : Dict}
    {eventType : String} (path : request.path = settings.normalizedPath)
    (loaded : library.loads body = .ok (some (.dict payload)))
    (extracted : qqOfficialExtractDispatchPayload library.toConversions payload =
      .ok (some (eventType, eventPayload))) :
    Serves library settings request (dispatch library eventType eventPayload)
      (opening length body) := by
  have messages : Messages library settings request (opening length body)
      (envelopeFromEvent library.toConversions eventPayload) eventType :=
    messages_opening.mpr ⟨path, payload, eventPayload, loaded, extracted, rfl⟩
  refine Logs.caught ⟨messages, fun reply => ?_⟩
  exact serves_answerIngest (passedOn_ingested loaded extracted)
    (List.mem_append_right _ List.mem_cons_self)

theorem serves_handlePayload {length : Int} {body : List UInt8} {payload : Dict}
    (path : request.path = settings.normalizedPath)
    (loaded : library.loads body = .ok (some (.dict payload))) :
    Serves library settings request (handlePayload library settings request body payload)
      (opening length body) := by
  have silent : (∀ event, qqOfficialExtractDispatchPayload library.toConversions payload ≠
      .ok (some event)) → PassedOn library settings request (opening length body) := by
    intro none
    refine passedOn_silent ?_
    rintro envelope eventType ⟨other, eventPayload, otherLoaded, extracted, _⟩
    obtain rfl : payload = other := by simpa using Except.ok.inj (loaded.symm.trans otherLoaded)
    exact none _ extracted
  have undispatched : ∀ result, library.intOrZero (get payload "op") = result → result ≠ .ok 0 →
      PassedOn library settings request (opening length body) := by
    refine fun result read other => silent fun event extracted => ?_
    exact other (read.symm.trans (extract_some extracted).1)
  refine Logs.orThrow (fun raised read => undispatched _ read nofun) fun op read => ?_
  refine Logs.ite (fun thirteen => ?_) fun _ => ?_
  · subst thirteen
    exact serves_answerValidation body payload (undispatched _ read (by decide))
  · refine Logs.orThrow (fun raised extracted => ?_) fun event extracted => ?_
    · exact silent fun event other => by cases extracted.symm.trans other
    · cases event with
      | none =>
          refine serves_update trivial nofun ?_ fun log passed => serves_writeJson _ _ passed
          exact silent fun event other => by cases extracted.symm.trans other
      | some event => exact serves_dispatch path loaded extracted

theorem serves_doPost : Serves library settings request (doPost library settings request) [] := by
  have unread : PassedOn library settings request [] :=
    fun envelope eventType messages => nomatch messages.2.1
  refine Logs.ite (fun _ => serves_writeJson _ _ unread) fun path => ?_
  have path := not_not.mp path
  refine Logs.orThrow (fun raised _ => unread) fun bodyLength _ => ?_
  have uncounted : ∀ reply : Except String (List UInt8), PassedOn library settings request
      [⟨.readBody bodyLength, reply⟩] :=
    fun reply envelope eventType messages => by simpa using messages.2.1
  refine Logs.perform trivial (fun raised => uncounted (.error raised)) fun body => ?_
  refine Logs.perform trivial (fun raised envelope eventType messages => ?_) fun _ => ?_
  · exact absurd messages.2.1 (by simp)
  · have silent : (∀ payload, library.loads body ≠ .ok (some (.dict payload))) →
        PassedOn library settings request (opening bodyLength body) := fun other =>
      passedOn_silent fun envelope eventType ⟨payload, _, loaded, _⟩ => other payload loaded
    refine Logs.orThrow (fun raised loaded => ?_) fun found loaded => ?_
    · exact silent fun payload other => by cases loaded.symm.trans other
    · cases found with
      | none =>
          exact serves_writeJson _ _ (silent fun payload other => by cases loaded.symm.trans other)
      | some value =>
          cases value with
          | dict payload => exact serves_handlePayload path loaded
          | _ =>
              exact serves_writeJson _ _
                (silent fun payload other => by cases loaded.symm.trans other)

def State.dispatches (state : State) : Nat × List Event × List CoreResult :=
  (state.dispatchEventCount, state.events, state.coreResults)

theorem after_dispatches {done : Step}
    (other : ∀ event result, done.op ≠ .update (.dispatched event result)) (state : State) :
    (state.after [done]).dispatches = state.dispatches := by
  obtain ⟨op, reply⟩ := done
  cases op with
  | update change =>
      cases reply with
      | error raised => rfl
      | ok value =>
          cases change with
          | dispatched event result => exact absurd rfl (other event result)
          | _ => rfl
  | _ => rfl

/-- Without the header there is no valid signature. -/
theorem unsigned_invalid (appSecret signatureTimestamp : String) (body : List UInt8) :
    qqOfficialVerifyRequestSignature library appSecret "" signatureTimestamp body =
      .ok false := by
  unfold qqOfficialVerifyRequestSignature
  by_cases given : appSecret.toList ≠ []
  · rw [dif_pos given, if_pos (.inl rfl)]
    rfl
  · rw [dif_neg given]
    rfl

end Properties

section Unsigned

def unsignedPayload : Dict :=
  [("op", .int 0), ("t", .str "C2C_MESSAGE_CREATE"),
    ("d", .dict [("id", .str "qq-direct-live-001"), ("content", .str "hello")])]

def unsignedBody : List UInt8 := bytesOf
  ("\x7b\"op\": 0, \"t\": \"C2C_MESSAGE_CREATE\"," ++
    " \"d\": \x7b\"id\": \"qq-direct-live-001\", \"content\": \"hello\"\x7d\x7d")

def demoLibrary : Library where
  repr _ := "..."
  parsed text := if text = "91" then .ok 91 else .error "ValueError"
  truncated _ := .error "ValueError"
  ed25519 := ⟨fun _ _ => [], fun _ _ _ => false⟩
  unhexlify _ := none
  loads body := .ok (if body = unsignedBody then some (.dict unsignedPayload) else none)

def demoSettings : Settings := ⟨"test-secret-value", "/qq/callback"⟩

def unsignedRequest : Request := ⟨"/qq/callback", [("Content-Length", "91")]⟩

def demoAnswers : Answers Call Call.Reply
  | .readBody _ => .ok unsignedBody
  | .update _ => .ok ()
  | .diagnose _ => .ok ()
  | .ingest _ _ => .ok []
  | .writeJson _ _ => .ok ()

def Call.isIngest : Call → Bool
  | .ingest _ _ => true
  | _ => false

end Unsigned

end NeuroLink.WebhookServer
