import NeuroLink.UpdateWorld
import NeuroLink.WriteService

/-!
When a repeated write does no harm: its effect is there already, as with a stop of what is
stopped and an acquire of the lease that is held, or the state it meets refuses it. A refused
write is not carried out.
-/

namespace NeuroLink.WriteRefusals

open CText Errno EffectProgram MemoryProgram RequestBridge RetriedCall
open WriteService
open UpdateService (Config Request requestMetadata requestStartArgs)

/-! When a repeated write does no harm. -/

section Conditions

variable (config : Config) (request : Request) (nowMs : Int)

def HoldsControl (leases : LeaseManager.Manager) : Prop :=
  let resource : Buffer 64 := copyBounded (lit "app/" ++ request.appId.text ++ lit "/control")
  (LeaseManager.requireResource leases resource.text (requestMetadata config request) nowMs).1 = 0

instance (leases : LeaseManager.Manager) :
    Decidable (HoldsControl config request nowMs leases) :=
  inferInstanceAs (Decidable (_ = 0))

/-- The lease is held already, by the holder who asks for it and under the id asked for. -/
def LeaseIsThere (payload : Text) (leases : LeaseManager.Manager) : Bool :=
  let request := leaseAcquireRequest config.longMax payload
  request.resource.text ≠ [] &&
    (LeaseManager.findLeaseByResource (LeaseManager.pruneExpired leases nowMs)
      request.resource.text).any fun found =>
        found.2.leaseId.text = (LeaseManager.requestedLeaseId request.metadata nowMs).text &&
          LeaseManager.holderMatchesRequest found.2 request.metadata

/-- `app_runtime_dispatch_command` comes as far as `app_on_command`. -/
def ReachesCallback (appId commandName : Text) (runtime : AppRuntime.Runtime) : Bool :=
  appId ≠ [] && commandName ≠ [] && (AppRuntime.findApp runtime appId).any fun app =>
    app.state = .running && AppRuntime.callbackAddrIsValid app.callbacks.onCommand

def IsStopped (runtime : AppRuntime.Runtime) : Bool :=
  request.appId.text ≠ [] && (AppRuntime.findApp runtime request.appId.text).any fun app =>
    app.state ≠ .running && app.state ≠ .suspended

def runtimeCall (runtime : AppRuntime.Runtime) : Option Int :=
  let appId := request.appId.text
  if request.action = lit "start" then
    some (AppRuntime.start appId (requestStartArgs request).text runtime).1
  else if request.action = lit "stop" then some (AppRuntime.stop appId runtime).1
  else if request.action = lit "unload" then some (AppRuntime.unload appId runtime).1
  else none

def CommandRefused (world : World) : Prop :=
  let runtime := world.apps.unit.runtime
  match CommandRegistry.findCommand world.apps.registry request.appId.text request.action with
  | .ok command =>
      command.state ≠ .enabled ∨
        (command.leaseRequired = true ∧ ¬ HoldsControl config request nowMs world.leases) ∨
        ReachesCallback request.appId.text request.action runtime = false
  | .error _ =>
      ¬ HoldsControl config request nowMs world.leases ∨
        ∀ ret, runtimeCall request runtime = some ret → ret ≠ 0

def StageRefused (memory : UpdateService.Memory) : Prop :=
  let appId := request.appId.text
  if request.action = lit "prepare" then
    (UpdateManager.prepareBegin memory.updates appId).1 ≠ 0
  else if request.action = lit "verify" then
    (UpdateManager.verifyBegin memory.updates appId).1 ≠ 0
  else if request.action = lit "activate" then
    (UpdateManager.activateBegin memory.updates appId).1 ≠ 0
  else if request.action = lit "rollback" ∨ request.action = lit "recover" then
    (UpdateManager.rollbackBegin memory.updates appId
      (UpdateService.requestReason request).text).1 ≠ 0
  else if request.action = lit "delete" then
    ArtifactStore.get memory.artifacts appId = none
  else True

end Conditions

section Harm

variable (config : Config) (write : Write)

def Repeats (delivery : Delivery Node Reception) : Prop :=
  let world := delivery.state.world
  match write with
  | .leaseAcquire payload _ =>
      LeaseIsThere config delivery.env.nowMs payload world.leases = true
  | .app request => request.action = lit "stop" ∧
      HoldsControl config request delivery.env.nowMs world.leases ∧
      IsStopped request world.apps.unit.runtime = true
  | _ => False

/-- The state the write meets refuses it. -/
def Refused (delivery : Delivery Node Reception) : Prop :=
  let node := delivery.state
  let nowMs := delivery.env.nowMs
  match write with
  | .leaseAcquire payload _ =>
      let request := leaseAcquireRequest config.longMax payload
      request.resource.text = [] ∨
        (LeaseManager.acquire node.world.leases request.resource.text request.metadata
          request.ttlMs.toInt nowMs).1.isOk = false
  | .leaseRelease payload _ =>
      (LeaseManager.release node.world.leases (requestMetadataParse config.longMax payload)
        nowMs).1.isOk = false
  | .app request => CommandRefused config request nowMs node.world
  | .update request => node.memory.seedInitialized = false ∨ StageRefused request node.memory

/-- The unit answers the write with a success, where its effect was not there before. -/
def Succeeded (delivery : Delivery Node Reception) : Prop :=
  (∃ answer ∈ (serve config write delivery.env delivery.state).1, answer.accepts = true) ∧
    ¬ Repeats config write delivery

def CallsBack (event : Event AppCommand.Effect AppCommand.EffectReply World) : Prop :=
  match event.op with
  | .dispatchCallback appId commandName _ =>
      ReachesCallback appId commandName event.before.apps.unit.runtime = true
  | _ => False

/-- The handler of the command comes to run the callback of the application. -/
def Dispatched (delivery : Delivery Node Reception) : Prop :=
  match write with
  | .app request => ∃ event ∈ events (machine delivery.env.nowMs) delivery.env.outcomes
      (AppCommand.handleAppCommand config request []) delivery.state.world, CallsBack event
  | _ => False

/-- The unit carries the write out. A callback that returns an error has run all the same. -/
def Applied (delivery : Delivery Node Reception) : Prop :=
  Succeeded config write delivery ∨ Dispatched config write delivery

end Harm

/-! A refused write is answered with an error. -/

section Commands

open AppCommand (CommandM)

variable {config : Config} {request : Request} {nowMs : Int} {world : World}
variable {replies : List AppCommand.Answer}

abbrev Leads {Result : Type} (nowMs : Int)
    (post : Result → List AppCommand.Answer → World → Prop) (service : CommandM Result)
    (replies : List AppCommand.Answer) (world : World) : Prop :=
  Issuing (machine nowMs) (fun event => ¬ CallsBack event) post service replies world

def Denied (replies : List AppCommand.Answer) : Prop :=
  ∀ answer ∈ replies, (Answer.ofCommand answer).accepts = false

theorem denied_error (message : String) (statusCode : Nat) :
    Leads nowMs (fun _ after left => Denied after ∧ left = world)
      (AppCommand.replyError message statusCode) [] world := by
  refine ⟨fun answer member => ?_, rfl⟩
  obtain rfl := List.mem_singleton.mp member
  rfl

theorem requireControl_leads :
    Leads nowMs (fun held after left => left.apps = world.apps ∧
        (HoldsControl config request nowMs world.leases → held = true ∧ after = []) ∧
        (¬ HoldsControl config request nowMs world.leases → held = false ∧ Denied after))
      (AppCommand.requireControl config request) [] world := by
  have refused : ∀ (message : String) (statusCode : Nat) (left : World), left.apps = world.apps →
      ¬ HoldsControl config request nowMs world.leases →
      Leads nowMs (fun held after left => left.apps = world.apps ∧
        (HoldsControl config request nowMs world.leases → held = true ∧ after = []) ∧
        (¬ HoldsControl config request nowMs world.leases → held = false ∧ Denied after))
        (do AppCommand.replyError message statusCode; return false) [] left := by
    intro message statusCode left same unheld
    refine (denied_error message statusCode).seq fun _ after final ends => ?_
    obtain ⟨denied, rfl⟩ := ends
    exact .pure ⟨same, fun held => absurd held unheld, fun _ => ⟨rfl, denied⟩⟩
  have asked : Leads nowMs (fun ret after left => after = [] ∧ left.apps = world.apps ∧
        (ret = 0 ↔ HoldsControl config request nowMs world.leases))
      (AppCommand.perform (.service (.requireResource
        (copyBounded (lit "app/" ++ request.appId.text ++ lit "/control") : Buffer 64).text
        (requestMetadata config request))) : CommandM Int) [] world :=
    .perform fun _ => ⟨not_false, rfl, rfl, Iff.rfl⟩
  refine asked.seq fun ret after left checked => ?_
  obtain ⟨rfl, same, granted⟩ := checked
  by_cases held : ret = 0
  · have holds := granted.mp held
    subst held
    exact .pure ⟨same, fun _ => ⟨rfl, rfl⟩, fun unheld => absurd holds unheld⟩
  · have unheld := fun holds => held (granted.mpr holds)
    split
    · exact refused _ _ left same unheld
    split
    · exact refused _ _ left same unheld
    · exact refused _ _ left same unheld

theorem finishCommand_denied {ret : Int} (failed : ret ≠ 0) :
    Leads nowMs (fun _ after _ => Denied after) (AppCommand.finishCommand config request ret)
      [] world := by
  have denies : ∀ (message : String) (statusCode : Nat),
      Leads nowMs (fun _ after _ => Denied after) (AppCommand.replyError message statusCode)
        [] world :=
    fun message statusCode => (denied_error message statusCode).weaken fun _ _ ends => ends.1
  unfold AppCommand.finishCommand
  rw [if_pos failed]
  split
  · exact denies _ _
  · exact denies _ _

/-- A command of the unit whose call of the runtime fails. -/
theorem runtimeCommand_denied {call : CommandM Int} {register : CommandM Unit}
    (fails : Leads nowMs (fun ret after _ => ret ≠ 0 ∧ after = []) call [] world) :
    Leads nowMs (fun _ after _ => Denied after)
      (AppCommand.runtimeCommand config request call register) [] world := by
  refine fails.seq fun ret after left failed => ?_
  obtain ⟨failed, rfl⟩ := failed
  rw [if_neg failed]
  exact finishCommand_denied failed

/-- A dispatch that does not come to the callback fails. -/
theorem dispatch_fails {appId commandName : Text} {runtime : AppRuntime.Runtime}
    (unreached : ReachesCallback appId commandName runtime = false) :
    (AppRuntime.dispatchCommand appId commandName runtime).1 ≠ 0 := by
  unfold AppRuntime.dispatchCommand
  split
  · exact AppRuntime.fail_nonzero _ .invalidArgument (by decide) _
  next named =>
  split
  · exact AppRuntime.fail_nonzero _ .notFound (by decide) _
  next app found =>
  split
  · exact AppRuntime.fail_nonzero _ .stateConflict (by decide) _
  next running =>
  split
  · exact AppRuntime.fail_nonzero _ .notSupported (by decide) _
  · have invalid : AppRuntime.callbackAddrIsValid app.callbacks.onCommand = false := by
      obtain ⟨app_named, command_named⟩ := not_or.mp named
      simpa [ReachesCallback, app_named, command_named, found, not_not.mp running]
        using unreached
    have missing : (AppRuntime.fail "app_on_command_ptr" .symbolMissing (-enoent) runtime).1 ≠ 0 :=
      AppRuntime.fail_nonzero _ _ (by decide) _
    rw [AppRuntime.invokeCallback, if_pos (by simp [invalid])]
    dsimp only
    rw [if_pos missing]
    exact missing

theorem dispatchCommand_denied (unreached : ReachesCallback request.appId.text request.action
      world.apps.unit.runtime = false) :
    Leads nowMs (fun _ after _ => Denied after) (AppCommand.dispatchCommand config request)
      [] world := by
  have dispatched : Leads nowMs (fun reply after _ => (∃ error, reply = .error error) ∧ after = [])
      (AppCommand.perform (.dispatchCallback request.appId.text request.action request.payload) :
        CommandM (Except Int (Buffer 1024))) [] world :=
    .perform fun _ => ⟨by simp [CallsBack, unreached], ⟨_, if_pos (dispatch_fails unreached)⟩, rfl⟩
  refine dispatched.seq fun reply after left failed => ?_
  obtain ⟨⟨error, rfl⟩, rfl⟩ := failed
  exact (denied_error _ _).weaken fun _ _ ends => ends.1

theorem registeredCommand_denied {command : CommandRegistry.Desc}
    (refused : command.state ≠ .enabled ∨
      (command.leaseRequired = true ∧ ¬ HoldsControl config request nowMs world.leases) ∨
      ReachesCallback request.appId.text request.action world.apps.unit.runtime = false) :
    Leads nowMs (fun _ after _ => Denied after)
      (AppCommand.registeredCommand config request command) [] world := by
  unfold AppCommand.registeredCommand
  split
  · exact (denied_error _ _).weaken fun _ _ ends => ends.1
  next enabled =>
  have later := refused.resolve_left enabled
  split
  · refine requireControl_leads.seq fun held after left checked => ?_
    obtain ⟨same, granted, turned⟩ := checked
    by_cases holds : HoldsControl config request nowMs world.leases
    · obtain ⟨rfl, rfl⟩ := granted holds
      have fails := later.resolve_left fun unheld => unheld.2 holds
      rw [← same] at fails
      exact dispatchCommand_denied fails
    · obtain ⟨rfl, denied⟩ := turned holds
      exact .pure denied
  · next free =>
    exact dispatchCommand_denied (later.resolve_left fun unheld => free unheld.1)

theorem unitCommand_denied
    (refused : ¬ HoldsControl config request nowMs world.leases ∨
      ∀ ret, runtimeCall request world.apps.unit.runtime = some ret → ret ≠ 0) :
    Leads nowMs (fun _ after _ => Denied after) (AppCommand.unitCommand config request)
      [] world := by
  refine requireControl_leads.seq fun held after left checked => ?_
  obtain ⟨same, granted, turned⟩ := checked
  -- without the lease the request is turned away; with it the call of the runtime fails
  by_cases holds : HoldsControl config request nowMs world.leases
  · obtain ⟨rfl, rfl⟩ := granted holds
    have fails := refused.resolve_left (not_not_intro holds)
    rw [← same] at fails
    unfold runtimeCall at fails
    rw [if_neg (by simp)]
    split
    · next start =>
      rw [if_pos start] at fails
      have called : Leads nowMs (fun ret after _ => ret ≠ 0 ∧ after = [])
          (AppCommand.perform (.service (.runtimeStart request.appId.text
          (requestStartArgs request).text)) : CommandM Int)
          [] left := .perform fun _ => ⟨not_false, fails _ rfl, rfl⟩
      exact runtimeCommand_denied called
    next start =>
    rw [if_neg start] at fails
    split
    · next stop =>
      rw [if_pos stop] at fails
      have called : Leads nowMs (fun ret after _ => ret ≠ 0 ∧ after = [])
          (AppCommand.perform (.service (.runtimeStop request.appId.text)) : CommandM Int)
          [] left := .perform fun _ => ⟨not_false, fails _ rfl, rfl⟩
      exact runtimeCommand_denied called
    next stop =>
    rw [if_neg stop] at fails
    split
    · next unload =>
      rw [if_pos unload] at fails
      have called : Leads nowMs (fun ret after _ => ret ≠ 0 ∧ after = [])
          (AppCommand.perform (.service (.runtimeUnload request.appId.text)) : CommandM Int)
          [] left := .perform fun _ => ⟨not_false, fails _ rfl, rfl⟩
      exact runtimeCommand_denied called
    · exact (denied_error _ _).weaken fun _ _ ends => ends.1
  · obtain ⟨rfl, denied⟩ := turned holds
    exact .pure denied

theorem handleAppCommand_denied (refused : CommandRefused config request nowMs world) :
    Leads nowMs (fun _ after _ => Denied after) (AppCommand.handleAppCommand config request)
      [] world := by
  have finds : Leads nowMs (fun found after left => after = [] ∧ left = world ∧
        found = CommandRegistry.findCommand world.apps.registry request.appId.text request.action)
      (AppCommand.perform (.findCommand request.appId.text request.action) :
        CommandM (Except Int CommandRegistry.Desc)) [] world :=
    fun _ => ⟨not_false, rfl, rfl, rfl⟩
  refine finds.seq fun found after left known => ?_
  obtain ⟨rfl, rfl, rfl⟩ := known
  unfold CommandRefused at refused
  dsimp only at refused
  split
  · next command found =>
    rw [found] at refused
    exact registeredCommand_denied refused
  · next error found =>
    rw [found] at refused
    exact unitCommand_denied refused

end Commands

section Stages

open UpdateService (ServiceM)

variable {config : Config} {request : Request} {memory : UpdateService.Memory}

def StageDenied (memory : UpdateService.Memory) : Prop :=
  ∀ answer ∈ memory.replies, (Answer.ofUpdate answer).accepts = false

theorem stage_error (unanswered : memory.replies = []) (message : String) (statusCode : Nat) :
    Ensures (fun _ after => StageDenied after) (UpdateService.replyError message statusCode)
      memory := by
  change StageDenied { memory with replies := memory.replies ++ _ }
  rw [unanswered]
  intro answer member
  obtain rfl := List.mem_singleton.mp member
  rfl

/-- A stage whose first step on the entry fails. -/
theorem stage_begins {change : UpdateManager.Manager → Int × UpdateManager.Manager}
    {rest : Int → ServiceM Unit} (unanswered : memory.replies = [])
    (fails : (change memory.updates).1 ≠ 0) {message : String} {statusCode : Nat}
    (refuses : ∀ ret, ret ≠ 0 → rest ret = UpdateService.replyError message statusCode) :
    Ensures (fun _ after => StageDenied after) (UpdateService.updates change >>= rest)
      memory := by
  have first : Ensures (fun ret after => ret ≠ 0 ∧ after.replies = [])
      (UpdateService.updates change) memory := ⟨fails, unanswered⟩
  refine first.seq fun ret after left => ?_
  rw [refuses ret left.1]
  exact stage_error left.2 message statusCode

theorem stage_lease (unanswered : memory.replies = []) (resource : Text)
    (metadata : RequestMetadata) :
    Ensures (fun held after => after.updates = memory.updates ∧
        after.artifacts = memory.artifacts ∧ (held = true → after.replies = []) ∧
        (held = false → StageDenied after))
      (UpdateService.requireResourceLeaseOrReply resource metadata) memory := by
  have refused : ∀ (message : String) (statusCode : Nat),
      Ensures (fun held after => after.updates = memory.updates ∧
        after.artifacts = memory.artifacts ∧ (held = true → after.replies = []) ∧
        (held = false → StageDenied after))
        (do UpdateService.replyError message statusCode; return false) memory :=
    fun message statusCode => ⟨rfl, rfl, nofun, fun _ => stage_error unanswered message statusCode⟩
  have asked : Ensures (fun _ after => after = memory)
      (UpdateService.perform (.requireResource resource metadata) : ServiceM Int) memory :=
    .perform fun _ => rfl
  refine asked.seq fun ret after same => ?_
  subst same
  split
  · exact refused _ _
  split
  · exact refused _ _
  split
  · exact refused _ _
  · exact .pure ⟨rfl, rfl, fun _ => unanswered, nofun⟩

/-- A stage that asks for a lease first and then fails. -/
theorem leased_denied {rest : ServiceM Unit} {resource : Text} {metadata : RequestMetadata}
    (unanswered : memory.replies = [])
    (denied : ∀ after : UpdateService.Memory, after.updates = memory.updates →
      after.artifacts = memory.artifacts → after.replies = [] →
      Ensures (fun _ final => StageDenied final) rest after) :
    Ensures (fun _ after => StageDenied after)
      (do
        let held ← UpdateService.requireResourceLeaseOrReply resource metadata
        if ¬ held then return () else rest) memory := by
  refine (stage_lease unanswered resource metadata).seq fun held after checked => ?_
  obtain ⟨updates, artifacts, free, turned⟩ := checked
  cases held with
  | true => exact denied after updates artifacts (free rfl)
  | false => exact .pure (turned rfl)

theorem delete_denied (unanswered : memory.replies = [])
    (missing : ArtifactStore.get memory.artifacts request.appId.text = none) :
    Ensures (fun _ after => StageDenied after) (UpdateService.handleUpdateDelete config request)
      memory := by
  have fails : ∀ (detail message : String) (statusCode : Nat) (after : UpdateService.Memory),
      after.replies = [] → Ensures (fun _ final => StageDenied final)
        (UpdateService.failDelete request.appId.text detail message statusCode) after :=
    fun detail message statusCode after unanswered =>
      .bind (.perform fun _ => stage_error unanswered message statusCode)
  refine leased_denied unanswered fun after _ artifacts unanswered => ?_
  have asked : Ensures (fun _ final => final = after)
      (UpdateService.runtimeAppIsLoaded request.appId.text) after :=
    fun _ => rfl
  refine asked.seq fun loaded final same => ?_
  subst same
  split
  · exact fails _ _ _ _ unanswered
  · have looked : Ensures (fun memory after => memory = final ∧ after = final)
        UpdateService.inspect final := ⟨rfl, rfl⟩
    refine looked.seq fun memory after same => ?_
    obtain ⟨rfl, rfl⟩ := same
    rw [artifacts, missing]
    split
    · exact fails _ _ _ _ unanswered
    · exact fails _ _ _ _ unanswered

theorem handleAction_denied (unanswered : memory.replies = [])
    (refused : StageRefused request memory) :
    Ensures (fun _ after => StageDenied after) (UpdateService.handleAction config request)
      memory := by
  unfold StageRefused at refused
  unfold UpdateService.handleAction
  split
  · next prepare =>
    rw [if_pos prepare] at refused
    exact stage_begins unanswered refused fun ret failed => if_pos failed
  next prepare =>
  rw [if_neg prepare] at refused
  split
  · next verify =>
    rw [if_pos verify] at refused
    exact stage_begins unanswered refused fun ret failed => if_pos failed
  next verify =>
  rw [if_neg verify] at refused
  split
  · next activate =>
    rw [if_pos activate] at refused
    refine leased_denied unanswered fun after updates _ unanswered => ?_
    rw [← updates] at refused
    exact stage_begins unanswered refused fun ret failed => if_pos failed
  next activate =>
  rw [if_neg activate] at refused
  split
  · next rollback =>
    rw [if_pos rollback] at refused
    refine leased_denied unanswered fun after updates _ unanswered => ?_
    rw [← updates] at refused
    exact stage_begins unanswered refused fun ret failed => if_pos failed
  next rollback =>
  rw [if_neg rollback] at refused
  split
  · next delete =>
    rw [if_pos delete] at refused
    exact delete_denied unanswered refused
  · exact stage_error unanswered _ _

theorem serve_denied (unanswered : memory.replies = [])
    (refused : memory.seedInitialized = false ∨ StageRefused request memory) :
    Ensures (fun _ after => StageDenied after) (UpdateWorld.serve config (some request))
      memory := by
  have looked : Ensures (fun found after => found = memory ∧ after = memory)
      UpdateService.inspect memory := ⟨rfl, rfl⟩
  refine looked.seq fun found after same => ?_
  obtain ⟨rfl, rfl⟩ := same
  split
  · next initialized =>
    have stage := refused.resolve_left fun closed => by simp [closed] at initialized
    exact handleAction_denied unanswered stage
  · exact stage_error unanswered _ _

end Stages

section Leases

variable {config : Config} {payload : Text} {nowMs : Int} {leases : LeaseManager.Manager}

theorem pruneExpired_again (nowMs : Int) (leases : LeaseManager.Manager) :
    LeaseManager.pruneExpired (LeaseManager.pruneExpired leases nowMs) nowMs =
      LeaseManager.pruneExpired leases nowMs := by
  refine Vector.ext fun index small => ?_
  have slot (table : LeaseManager.Manager) := SlotTable.getElem_keep
    (fun lease : LeaseManager.Lease => nowMs < lease.expiresAtMs) table
  have once := slot leases ⟨index, small⟩
  have twice := slot (LeaseManager.pruneExpired leases nowMs) ⟨index, small⟩
  rw [SlotTable.getElem_slot, SlotTable.getElem_slot] at once twice
  change (LeaseManager.pruneExpired leases nowMs)[index] = _ at once
  change (LeaseManager.pruneExpired (LeaseManager.pruneExpired leases nowMs) nowMs)[index] = _
    at twice
  rw [twice, once, Option.filter_filter]
  simp

/-- Dropping the expired leases first makes no difference to an acquire. -/
theorem acquire_pruned (resource : Text) (metadata : RequestMetadata) (ttlMs : Int) :
    (LeaseManager.acquire (LeaseManager.pruneExpired leases nowMs) resource metadata ttlMs
      nowMs).1 = (LeaseManager.acquire leases resource metadata ttlMs nowMs).1 := by
  unfold LeaseManager.acquire
  rw [pruneExpired_again]
  split
  · rfl
  · rfl

theorem acquire_denied (refused : let request := leaseAcquireRequest config.longMax payload
      request.resource.text = [] ∨
        (LeaseManager.acquire leases request.resource.text request.metadata
          request.ttlMs.toInt nowMs).1.isOk = false) :
    (handleLeaseAcquire config payload nowMs leases).1.accepts = false := by
  unfold handleLeaseAcquire
  dsimp only at refused ⊢
  split
  · rfl
  next named =>
  rw [← acquire_pruned] at refused
  have failed := refused.resolve_left named
  split
  · next result granted =>
    rw [granted] at failed
    cases failed
  · repeat' split
    all_goals rfl

theorem release_denied (refused : (LeaseManager.release leases
      (requestMetadataParse config.longMax payload) nowMs).1.isOk = false) :
    (handleLeaseRelease config payload nowMs leases).1.accepts = false := by
  unfold handleLeaseRelease
  dsimp only
  split
  · next lease released =>
    rw [released] at refused
    cases refused
  · repeat' split
    all_goals rfl

end Leases

theorem refused_denied {config : Config} {write : Write} {delivery : Delivery Node Reception}
    (refused : Refused config write delivery) :
    ∀ answer ∈ (serve config write delivery.env delivery.state).1, answer.accepts = false := by
  intro answer member
  cases write with
  | leaseAcquire payload requestId =>
      obtain rfl := List.mem_singleton.mp member
      exact acquire_denied refused
  | leaseRelease payload requestId =>
      obtain rfl := List.mem_singleton.mp member
      exact release_denied refused
  | app request =>
      obtain ⟨sent, listed, rfl⟩ := List.mem_map.mp member
      exact (handleAppCommand_denied refused).run delivery.env.outcomes sent listed
  | update request =>
      obtain ⟨sent, listed, rfl⟩ := List.mem_map.mp member
      have unanswered : ({ delivery.state.memory with replies := [] } :
        UpdateService.Memory).replies = [] := rfl
      exact (serve_denied unanswered refused).run (updateMachine delivery.env.nowMs)
        delivery.env.outcomes delivery.state.world sent listed

/-- A write that is refused runs no callback. -/
theorem refused_undispatched {config : Config} {write : Write} {delivery : Delivery Node Reception}
    (refused : Refused config write delivery) : ¬ Dispatched config write delivery := by
  intro dispatched
  cases write with
  | app request =>
      obtain ⟨event, member, calls⟩ := dispatched
      exact (handleAppCommand_denied refused).meets delivery.env.outcomes event member calls
  | leaseAcquire | leaseRelease | update => exact dispatched

end NeuroLink.WriteRefusals
