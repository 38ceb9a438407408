import NeuroLink.AppCommand
import NeuroLink.CliQuery
import NeuroLink.QueryReplies
import NeuroLink.RetriedCall

/-!
The writes of the CLI to the unit: how the handlers carry them out over the leases, the
applications and the managers, what bytes they answer with, and how the CLI repeats a write
until an attempt is answered.
-/

namespace NeuroLink.WriteService

open CText Errno EffectProgram MemoryProgram RequestBridge Cbor QueryReplies PyValue RetriedCall
open UpdateService (Config Request requestMetadata requestStartArgs)

/-- The surroundings of the handlers, with the leases. -/
structure World where
  apps : AppCommand.World
  leases : LeaseManager.Manager

structure Node where
  memory : UpdateService.Memory
  world : World

/-- When a request arrives, and what the environment makes of the calls of its handler. -/
structure Reception where
  nowMs : Int
  uptime : 0 ≤ nowMs ∧ nowMs < 2 ^ 62
  outcomes : List AppCommand.Outcome

/-- One call of a handler; the lease checks look at the leases. -/
def step (nowMs : Int) (outcome : AppCommand.Outcome) :
    (effect : AppCommand.Effect) → World → AppCommand.EffectReply effect × World
  | .service (.requireResource resource metadata), world =>
      let answer := LeaseManager.requireResource world.leases resource metadata nowMs
      (answer.1, { world with leases := answer.2 })
  | effect, world =>
      let answer := AppCommand.step outcome effect world.apps
      (answer.1, { world with apps := answer.2 })

def machine (nowMs : Int) :
    Machine AppCommand.Effect AppCommand.EffectReply World AppCommand.Outcome :=
  ⟨step nowMs⟩

def updateMachine (nowMs : Int) :
    Machine UpdateService.Effect UpdateService.EffectReply World AppCommand.Outcome :=
  ⟨fun outcome effect => step nowMs outcome (.service effect)⟩

/-- The write and protected-write requests, past the checks of the dispatcher. -/
inductive Write where
  | leaseAcquire (payload : Text) (requestId : Buffer 32)
  | leaseRelease (payload : Text) (requestId : Buffer 32)
  | app (request : Request)
  | update (request : Request)

inductive Answer where
  | error (message : Text) (statusCode : Nat)
  | lease (lease : LeaseManager.Lease) (includeExpiresAtMs : Bool)
  | command (reply : AppCommand.CommandReply) (json : Buffer 1024)
  | update (action : Text) (reply : UpdateService.UpdateReply)

def Answer.accepts : Answer → Bool
  | .error _ _ => false
  | _ => true

def Answer.ofCommand : AppCommand.Answer → Answer
  | .error message statusCode => .error message statusCode
  | .accepted reply json => .command reply json

def Answer.ofUpdate : UpdateService.Answer → Answer
  | .error message statusCode => .error message statusCode
  | .accepted action reply => .update action reply

/-- `handle_lease_acquire`. -/
def handleLeaseAcquire (config : Config) (payload : Text) (nowMs : Int)
    (leases : LeaseManager.Manager) : Answer × LeaseManager.Manager :=
  let request := leaseAcquireRequest config.longMax payload
  if request.resource.text = [] then (.error (lit "resource missing") 400, leases)
  else
    let pruned := LeaseManager.pruneExpired leases nowMs
    let acquired := LeaseManager.acquire pruned request.resource.text request.metadata
      request.ttlMs.toInt nowMs
    let answer : Answer :=
      match acquired.1 with
      | .ok result => .lease result.acquired true
      | .error ret =>
          if ret = -eacces then .error (lit "lease holder mismatch") 403
          else if ret = -eexist then .error (lit "lease conflict") 409
          else if ret = -enospc then .error (lit "lease table full") 409
          else .error (lit "lease acquire failed") 500
    (answer, acquired.2)

/-- `handle_lease_release`. -/
def handleLeaseRelease (config : Config) (payload : Text) (nowMs : Int)
    (leases : LeaseManager.Manager) : Answer × LeaseManager.Manager :=
  let released := LeaseManager.release leases (requestMetadataParse config.longMax payload) nowMs
  let answer : Answer :=
    match released.1 with
    | .ok lease => .lease lease false
    | .error ret =>
        if ret = -enoent then .error (lit "lease not found") 404
        else if ret = -eacces then .error (lit "lease holder mismatch") 403
        else .error (lit "lease release failed") 500
  (answer, released.2)

/-- The unit takes a write: its answers, and what it is left with. -/
def serve (config : Config) (write : Write) (reception : Reception) (node : Node) :
    List Answer × Node :=
  match write with
  | .leaseAcquire payload _ =>
      let handled := handleLeaseAcquire config payload reception.nowMs node.world.leases
      ([handled.1], { node with world := { node.world with leases := handled.2 } })
  | .leaseRelease payload _ =>
      let handled := handleLeaseRelease config payload reception.nowMs node.world.leases
      ([handled.1], { node with world := { node.world with leases := handled.2 } })
  | .app request =>
      let handled := run (machine reception.nowMs) reception.outcomes
        (AppCommand.handleAppCommand config request []) node.world
      (handled.1.2.map .ofCommand, { node with world := handled.2 })
  | .update request =>
      let handled := run (updateMachine reception.nowMs) reception.outcomes
        (UpdateWorld.serve config (some request) { node.memory with replies := [] }) node.world
      (handled.1.2.replies.map .ofUpdate, ⟨handled.1.2, handled.2⟩)

/-! The bytes of the answers. -/

section Bytes

def numbered (entries : List (Nat × Item)) : List (Item × Item) :=
  entries.map fun entry => (.int entry.1, entry.2)

/-- `neuro_protocol_encode_lease_reply_cbor`. -/
def leaseReply (config : Config) (requestId : Text) (lease : LeaseManager.Lease)
    (includeExpiresAtMs : Bool) : List (Item × Item) :=
  envelope 21 ++
    [putText .status (lit "ok"), putText .requestId requestId, putText .nodeId config.nodeId,
      putText .leaseId lease.leaseId.text, putText .resource lease.resource.text] ++
    if includeExpiresAtMs then [putNumber .expiresAtMs lease.expiresAtMs] else []

/-- `neuro_protocol_encode_app_command_reply_cbor`. -/
def appCommandReply (reply : AppCommand.CommandReply) : List (Item × Item) :=
  envelope 29 ++ numbered
    [(51, .text (bytes reply.commandName)), (80, .bool reply.callbackEnabled),
      (81, .int reply.triggerEvery.toInt), (82, .text (bytes reply.eventName)),
      (83, .int reply.invokeCount.toNat), (85, .bool reply.configChanged),
      (86, .int reply.publishRet.toInt), (87, .text (bytes reply.echo))]

/-- `encode_update_reply_cbor`, with what each kind of reply ends with; a delete has none. -/
def updateReply (action : Text) (reply : UpdateService.UpdateReply) :
    Option (List (Item × Item)) :=
  let entries (messageKind : Nat) (rest : List (Item × Item)) :=
    envelope messageKind ++
      [putText .status (lit "ok"), putText .requestId reply.requestId,
        putText .nodeId reply.nodeId, putText .appId reply.appId] ++ rest
  if action = lit "prepare" then
    some (entries 25 (putText .path reply.path :: numbered [(56, .text (bytes reply.transport))]))
  else if action = lit "verify" then some (entries 26 (numbered [(58, .int reply.size)]))
  else if action = lit "activate" then some (entries 27 [putText .path reply.path])
  else if action = lit "rollback" then
    some (entries 28 (numbered [(54, .text (bytes reply.reason))]))
  else none

variable (config : Config) (updateJson : Text → UpdateService.UpdateReply → List UInt8)

/-- `neuro_unit_build_error_response_cbor`, into the buffer of `reply_error`. -/
def errorData (requestId message : Text) (statusCode : Nat) : Option (List UInt8) :=
  encodeInto 256 (.map (envelope 20 ++
    [putText .status (lit "error"), putText .requestId requestId, putText .nodeId config.nodeId,
      putNumber .statusCode statusCode, putText .message message]))

/-- The bytes an answer is sent as, if it is; `updateJson` writes the text of an update reply. -/
def data (requestId : Text) : Answer → Option (List UInt8)
  | .error message statusCode => errorData config requestId message statusCode
  | .lease lease includeExpiresAtMs =>
      (encodeInto maxCborLen (.map (leaseReply config requestId lease includeExpiresAtMs))).orElse
        fun _ => errorData config requestId (if includeExpiresAtMs then
          lit "lease acquire reply build failed" else lit "lease release reply build failed") 500
  | .command reply json =>
      some ((encodeInto 256 (.map (appCommandReply reply))).getD (bytes json.text))
  | .update action reply =>
      some (((updateReply action reply).bind fun entries =>
        encodeInto 256 (.map entries)).getD (updateJson action reply))

def requestIdOf : Write → Text
  | .leaseAcquire _ requestId | .leaseRelease _ requestId => requestId.text
  | .app request | .update request => request.requestId

end Bytes

/-! What the CLI makes of it. -/

/-- What becomes of an attempt without an answer: the session returns no reply, or raises. -/
inductive Silence where
  | noReply
  | raised (error : String)

def Silence.attempt : Silence → CliQuery.Attempt
  | .noReply => .replied []
  | .raised error => .raised error

/-- A write of the CLI to a unit, whose name fits the target that a request must name. -/
structure Session where
  config : Config
  named : config.nodeId.length ≤ 31
  updateJson : Text → UpdateService.UpdateReply → List UInt8
  loads : List UInt8 → Option Value
  repr : Value → String
  keyexpr : String
  payload : Dict
  write : Write

namespace Session

variable (session : Session)

/-- The answers as the session of the CLI receives them. -/
def replies (answers : List Answer) : List CliQuery.Sample :=
  answers.filterMap fun answer =>
    (data session.config session.updateJson (requestIdOf session.write) answer).map .ok

def link : Link Node Reception Silence CliQuery.Attempt Dict where
  serve reception node :=
    let served := serve session.config session.write reception node
    (.replied (session.replies served.1), served.2)
  silent := Silence.attempt
  settle attempt last := CliQuery.settleAttempt session.repr
    (CliQuery.collectQueryResult session.loads session.keyexpr session.payload attempt) last
  exhausted attempt :=
    CliQuery.collectQueryResult session.loads session.keyexpr session.payload attempt

/-- What `collect_query_result_with_retry` returns, and what reached the unit. -/
def course (first : Passage Reception Silence) (node : Node)
    (later : List (Passage Reception Silence)) : Dict × List (Delivery Node Reception) :=
  (CliQuery.collectQueryResultWithRetry session.repr session.loads session.keyexpr
      session.payload (attempt session.link first node).1
      (sights session.link later (attempt session.link first node).2),
    (call session.link first node later).2)

theorem course_eq_call (first : Passage Reception Silence) (node : Node)
    (later : List (Passage Reception Silence)) :
    session.course first node later = call session.link first node later := by
  suffices result : (session.course first node later).1 =
      (call session.link first node later).1 from Prod.ext result rfl
  induction later generalizing first node with
  | nil => rfl
  | cons next rest ih =>
      have later := ih next (attempt session.link first node).2
      simp only [course] at later ⊢
      rw [sights, CliQuery.collectQueryResultWithRetry, later, call]
      cases settled : session.link.settle (attempt session.link first node).1 false with
      | none =>
          rw [show CliQuery.settleAttempt _ _ _ = none from settled]
      | some result =>
          rw [show CliQuery.settleAttempt _ _ _ = some result from settled]

end Session

end NeuroLink.WriteService
