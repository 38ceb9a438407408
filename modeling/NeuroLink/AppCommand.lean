import NeuroLink.CommandRegistry
import NeuroLink.UpdateWorld

/-!
The commands of applications: those that an application registered, which its
callback answers, and start, stop and unload, which the unit carries out itself. The
registry is part of the surroundings, next to the volume and the runtime, because
the update service changes it too.
-/

namespace NeuroLink.AppCommand

open CText Errno EffectProgram MemoryProgram RequestText RequestBridge
open UpdateService (Config Request requestMetadata requestStartArgs)

/-- `struct neuro_protocol_app_command_reply`. -/
structure CommandReply where
  commandName : Text
  invokeCount : UInt32
  callbackEnabled : Bool
  triggerEvery : Int32
  eventName : Text
  configChanged : Bool
  publishRet : Int32
  echo : Text

/-- A success is sent as CBOR, or as the JSON text where it cannot be encoded. -/
inductive Answer where
  | error (message : Text) (statusCode : Nat)
  | accepted (reply : CommandReply) (json : Buffer 1024)

inductive Effect where
  | service (effect : UpdateService.Effect)
  | findCommand (appId commandName : Text)
  | setAppEnabled (appId : Text) (enabled : Bool)
  | dispatchCallback (appId commandName payload : Text)

abbrev EffectReply : Effect → Type
  | .service effect => UpdateService.EffectReply effect
  | .findCommand _ _ => Except Int CommandRegistry.Desc
  | .setAppEnabled _ _ => Int
  | .dispatchCallback _ _ _ => Except Int (Buffer 1024)

abbrev CommandM := Service Effect EffectReply (List Answer)

def perform (effect : Effect) : CommandM (EffectReply effect) := Service.perform effect

def answer (reply : Answer) : CommandM Unit :=
  Service.edit fun replies => ((), replies ++ [reply])

def replyError (message : String) (statusCode : Nat) : CommandM Unit :=
  answer (.error (lit message) statusCode)

/-- The reply `query_reply_app_command` builds; `appReplyJson` is empty where there is
none. -/
def commandReply (config : Config) (request : Request) (appReplyJson : Text) : CommandReply :=
  let reply : CommandReply :=
    { commandName := request.action
      invokeCount := 0
      callbackEnabled := false
      triggerEvery := 0
      eventName := lit "callback"
      configChanged := false
      publishRet := 0
      echo := request.appId.text }
  if appReplyJson = [] then reply
  else
    let extractString (size : Nat) (key : String) : Option (Buffer (size + 1)) :=
      neuroJsonExtractString appReplyJson (lit key)
    let extractInt (key : String) : Int32 :=
      neuroJsonExtractInt config.longMax appReplyJson (lit key) 0
    let extractBool (key : String) : Bool :=
      neuroJsonExtractBool appReplyJson (lit key) false
    { commandName := ((extractString 31 "command").map (·.text)).getD reply.commandName
      invokeCount :=
        if extractInt "invoke_count" > 0 then (extractInt "invoke_count").toUInt32 else 0
      callbackEnabled := extractBool "callback_enabled"
      triggerEvery := extractInt "trigger_every"
      eventName := ((extractString 31 "event_name").map (·.text)).getD reply.eventName
      configChanged := extractBool "config_changed"
      publishRet := extractInt "publish_ret"
      echo := ((extractString 63 "echo").map (·.text)).getD reply.echo }

def replyMembers (config : Config) (request : Request) : Text :=
  lit "\x7b\"status\":\"ok\",\"request_id\":\"" ++ request.requestId ++
    lit "\",\"node_id\":\"" ++ config.nodeId ++ lit "\",\"app_id\":\"" ++ request.appId.text ++
    lit "\",\"action\":\"" ++ request.action ++ lit "\""

/-- `require_resource_lease_or_reply` on the control of the application. -/
def requireControl (config : Config) (request : Request) : CommandM Bool := do
  let resource : Buffer 64 := copyBounded (lit "app/" ++ request.appId.text ++ lit "/control")
  let ret : Int ← perform
    (.service (.requireResource resource.text (requestMetadata config request)))
  if ret = -eperm then
    replyError "lease not held" 403
    return false
  else if ret = -eacces then
    replyError "lease holder mismatch" 403
    return false
  else if ret ≠ 0 then
    replyError "lease check failed" 500
    return false
  else
    return true

def dispatchCommand (config : Config) (request : Request) : CommandM Unit := do
  let dispatched : Except Int (Buffer 1024) ← perform
    (.dispatchCallback request.appId.text request.action request.payload)
  match dispatched with
  | .error _ => replyError "app callback dispatch failed" 500
  | .ok callbackReply =>
      let shown := if callbackReply.text = [] then lit "\x7b\x7d" else callbackReply.text
      answer (.accepted (commandReply config request callbackReply.text)
        (copyBounded (replyMembers config request ++
          lit ",\"dispatch\":\"callback\",\"reply\":" ++ shown ++ lit "\x7d")))

def registeredCommand (config : Config) (request : Request) (command : CommandRegistry.Desc) :
    CommandM Unit :=
  if command.state ≠ .enabled then replyError "app command disabled" 409
  else if command.leaseRequired then do
    let held ← requireControl config request
    if ¬ held then return () else dispatchCommand config request
  else dispatchCommand config request

def finishCommand (config : Config) (request : Request) (ret : Int) : CommandM Unit :=
  if ret ≠ 0 then
    if ret = -enoent ∧ request.action = lit "unload" then replyError "app not loaded" 404
    else replyError "app runtime command failed" 500
  else do
    perform (.service .publishStateEvent)
    answer (.accepted (commandReply config request [])
      (copyBounded (replyMembers config request ++ lit "\x7d")))

/-- A call of the runtime, and what goes with it in the registry if it works. -/
def runtimeCommand (config : Config) (request : Request) (call : CommandM Int)
    (register : CommandM Unit) : CommandM Unit := do
  let ret ← call
  if ret = 0 then
    register
    finishCommand config request ret
  else
    finishCommand config request ret

def setAppEnabled (appId : Text) (enabled : Bool) : CommandM Unit := do
  let _ ← perform (.setAppEnabled appId enabled)
  return ()

def unitCommand (config : Config) (request : Request) : CommandM Unit := do
  let appId := request.appId.text
  let held ← requireControl config request
  if ¬ held then
    return ()
  else if request.action = lit "start" then
    runtimeCommand config request
      (perform (.service (.runtimeStart appId (requestStartArgs request).text)))
      (setAppEnabled appId true)
  else if request.action = lit "stop" then
    runtimeCommand config request (perform (.service (.runtimeStop appId)))
      (setAppEnabled appId false)
  else if request.action = lit "unload" then
    runtimeCommand config request (perform (.service (.runtimeUnload appId)))
      (perform (.service (.removeAppCommands appId)))
  else
    replyError "unsupported app command" 404

/-- `neuro_unit_handle_app_command`. -/
def handleAppCommand (config : Config) (request : Request) : CommandM Unit := do
  let found : Except Int CommandRegistry.Desc ← perform
    (.findCommand request.appId.text request.action)
  match found with
  | .ok command => registeredCommand config request command
  | .error _ => unitCommand config request

/-! The surroundings with the registry. -/

structure World where
  unit : UpdateWorld.World
  registry : CommandRegistry.Registry

/-- The descriptor `neuro_register_app_callback_command` fills in. -/
def callbackCommand (appId : Text) : CommandRegistry.Desc where
  appId := copyBounded appId
  commandName := copyBounded (lit "invoke")
  visibility := 1
  leaseRequired := true
  idempotent := false
  timeoutMs := 5000
  state := .registering

/-- `neuro_register_app_callback_command`. -/
def registerAppCallbackCommand (appId : Text) (runtime : AppRuntime.Runtime)
    (registry : CommandRegistry.Registry) : CommandRegistry.Registry :=
  if ¬ AppRuntime.supportsCommandCallback appId runtime then registry
  else
    let registered := CommandRegistry.register registry (callbackCommand appId)
    if registered.1 ≠ 0 then registered.2
    else (CommandRegistry.setAppEnabled registered.2 appId true).2

def serviceStep (outcome : UpdateWorld.Outcome) :
    (effect : UpdateService.Effect) → World → UpdateService.EffectReply effect × World
  | .registerAppCallbackCommand appId, world =>
      ((), { world with
        registry := registerAppCallbackCommand appId world.unit.runtime world.registry })
  | .removeAppCommands appId, world =>
      ((), { world with registry := (CommandRegistry.removeApp world.registry appId).2 })
  | effect, world =>
      let answer := UpdateWorld.step outcome effect world.unit
      (answer.1, { world with unit := answer.2 })

def serviceMachine :
    Machine UpdateService.Effect UpdateService.EffectReply World UpdateWorld.Outcome :=
  ⟨serviceStep⟩

/-- What the environment makes of a call of the command handler: also the text the
callback of an application answers with. -/
structure Outcome where
  service : UpdateWorld.Outcome
  callbackReply : Buffer 1024

instance : Inhabited Outcome := ⟨⟨default, .empty⟩⟩

/-- `neuro_app_callback_bridge_dispatch`, on the reply of the application. -/
def bridgeDispatch (ret : Int) (callbackReply : Buffer 1024) : Except Int (Buffer 1024) :=
  if ret ≠ 0 then .error ret
  else if callbackReply.text = [] then .ok (copyBounded (lit "\x7b\x7d"))
  else .ok callbackReply

/-- One call of the command handler. -/
def step (outcome : Outcome) : (effect : Effect) → World → EffectReply effect × World
  | .service effect, world => serviceStep outcome.service effect world
  | .findCommand appId commandName, world =>
      (CommandRegistry.findCommand world.registry appId commandName, world)
  | .setAppEnabled appId enabled, world =>
      let answer := CommandRegistry.setAppEnabled world.registry appId enabled
      (answer.1, { world with registry := answer.2 })
  | .dispatchCallback appId commandName _, world =>
      let answer := AppRuntime.dispatchCommand appId commandName world.unit.runtime
      (bridgeDispatch answer.1 outcome.callbackReply,
        { world with unit := { world.unit with runtime := answer.2 } })

def machine : Machine Effect EffectReply World Outcome := ⟨step⟩

/-- The update service and the command registry with their surroundings. -/
structure Device where
  memory : UpdateService.Memory
  world : World

/-- A request of either kind, and what the environment makes of its calls. -/
inductive Turn where
  | update (request : Option Request) (outcomes : List UpdateWorld.Outcome)
  | command (request : Request) (outcomes : List Outcome)

/-- The device after the handler has returned. -/
def Turn.take (config : Config) (device : Device) : Turn → Device
  | .update request outcomes =>
      let done := run serviceMachine outcomes (UpdateWorld.serve config request device.memory)
        device.world
      ⟨done.1.2, done.2⟩
  | .command request outcomes =>
      ⟨device.memory, (run machine outcomes (handleAppCommand config request []) device.world).2⟩

def after (config : Config) (device : Device) (turns : List Turn) : Device :=
  turns.foldl (Turn.take config) device

end NeuroLink.AppCommand
