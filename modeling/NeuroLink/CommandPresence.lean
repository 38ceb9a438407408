import NeuroLink.AppCommand
import NeuroLink.RuntimeCapacity
import NeuroLink.ServiceCalls

/-!
Which applications have commands in the registry. A command is registered while its
application is loaded, and everything that unloads an application takes its commands
away, but for activate: it unloads the old version and keeps its commands for the new
one, which may not load.
-/

namespace NeuroLink.CommandPresence

open CText Errno EffectProgram MemoryProgram UpdateService ServiceCalls AppCommand
open CommandRegistry (appIds)
open RuntimeCapacity (names)
open AppCommand (World)

def Advertised (world : World) : Prop :=
  ∀ appId ∈ appIds world.registry, appId ∈ names world.unit.runtime

def AdvertisedBut (appId : Text) (world : World) : Prop :=
  ∀ other ∈ appIds world.registry, other = appId ∨ other ∈ names world.unit.runtime

def replacesWell (event : Event UpdateService.Effect UpdateService.EffectReply World) : Bool :=
  match event with
  | ⟨.runtimeLoad appId _, before, reply, _⟩ =>
      decide (reply = (0 : Int) ∨ appId ∈ names before.unit.runtime ∨
        appId ∉ appIds before.registry)
  | _ => true

def Keeping : UpdateService.Effect → Prop
  | .runtimeUnload _ => False
  | _ => True

section Steps

variable {world : World} {appId : Text}

theorem Advertised.but (advertised : Advertised world) (appId : Text) :
    AdvertisedBut appId world :=
  fun other member => .inr (advertised other member)

theorem AdvertisedBut.whole (but : AdvertisedBut appId world)
    (own : appId ∈ appIds world.registry → appId ∈ names world.unit.runtime) :
    Advertised world := by
  intro other member
  rcases but other member with rfl | loaded
  · exact own member
  · exact loaded

theorem supports_loaded {runtime : AppRuntime.Runtime}
    (supports : AppRuntime.supportsCommandCallback appId runtime = true) :
    appId.length ≤ 31 ∧ appId ∈ names runtime := by
  obtain ⟨app, found, _⟩ := (Option.any_eq_true _ _).mp supports
  have there := (RuntimeCapacity.findApp_find found).2
  have owner := RuntimeCapacity.find_name there
  rw [← owner]
  exact ⟨Nat.le_of_lt_succ app.name.fits, List.mem_map_of_mem (List.mem_of_find?_eq_some there)⟩

theorem registerAppCallbackCommand_appIds {runtime : AppRuntime.Runtime}
    {registry : CommandRegistry.Registry} {other : Text}
    (member : other ∈ appIds (registerAppCallbackCommand appId runtime registry)) :
    other ∈ names runtime ∨ other ∈ appIds registry := by
  unfold registerAppCallbackCommand at member
  split at member
  · exact .inr member
  next supports =>
  have registered :
      other ∈ appIds (CommandRegistry.register registry (callbackCommand appId)).2 := by
    dsimp only at member
    split at member
    · exact member
    · exact (CommandRegistry.setAppEnabled_appIds true).mp member
  obtain ⟨short, loaded⟩ := supports_loaded (not_not.mp supports)
  rcases CommandRegistry.register_appIds registered with own | known
  · have whole : (callbackCommand appId).appId.text = appId := copyBounded_exact appId short
    rw [own, whole]
    exact .inl loaded
  · exact .inr known

/-- Applications are only added, and commands only for applications that are loaded. -/
structure Grows (before after : World) : Prop where
  loaded : ∀ appId ∈ names before.unit.runtime, appId ∈ names after.unit.runtime
  registered : ∀ appId ∈ appIds after.registry,
    appId ∈ names before.unit.runtime ∨ appId ∈ appIds before.registry

theorem Grows.of_names {after : World} (registry : after.registry = world.registry)
    (same : names after.unit.runtime = names world.unit.runtime) : Grows world after :=
  ⟨fun _ member => same ▸ member, fun _ member => .inr (registry ▸ member)⟩

theorem Grows.advertised {after : World} (grows : Grows world after)
    (advertised : Advertised world) : Advertised after := by
  intro appId member
  rcases grows.registered appId member with loaded | known
  · exact grows.loaded appId loaded
  · exact grows.loaded appId (advertised appId known)

/-- Every call but an unload keeps what is loaded, and registers only that. -/
theorem serviceStep_grows {effect : UpdateService.Effect} (keeping : Keeping effect)
    (outcome : UpdateWorld.Outcome) (world : World) :
    Grows world (serviceStep outcome effect world).2 := by
  cases effect with
  | runtimeUnload appId => exact keeping.elim
  | runtimeLoad appId path =>
      rcases @RuntimeCapacity.load_names world.unit.runtime appId outcome.report
        world.unit.volume path with ⟨_, same⟩ | ⟨_, added⟩
      · exact .of_names rfl same
      · refine ⟨fun other member => ?_, fun _ => .inr⟩
        exact added ▸ List.mem_append_left [appId] member
  | runtimeStart appId startArgs => exact .of_names rfl (RuntimeCapacity.start_names startArgs)
  | runtimeStop appId => exact .of_names rfl RuntimeCapacity.stop_quieter.names
  | registerAppCallbackCommand appId =>
      exact ⟨fun _ => id, fun _ => registerAppCallbackCommand_appIds⟩
  | removeAppCommands appId =>
      exact ⟨fun _ => id, fun _ member => .inr (CommandRegistry.removeApp_appIds member)⟩
  | saveSeed snapshot =>
      refine .of_names rfl ?_
      simp only [serviceStep, UpdateWorld.step]
      split <;> rfl
  | loadSeed =>
      refine .of_names rfl ?_
      simp only [serviceStep, UpdateWorld.step]
      split
      · rfl
      · split <;> rfl
  | mark moment => cases moment <;> exact .of_names rfl rfl
  | _ => exact .of_names rfl rfl

end Steps

/-! The handlers of the update service. -/

section Service

variable {config : Config} {request : Request} {memory : Memory} {world : World}

theorem aside_keeping (effect : UpdateService.Effect) (aside : Aside effect) :
    Keeping effect := by
  cases effect with
  | runtimeUnload appId => exact aside
  | _ => trivial

/-- A part that unloads nothing leaves every command with a loaded application. -/
theorem keeping_advertised {Result : Type} {service : ServiceM Result}
    (only : CallsOnly Keeping service) (advertised : Advertised world) :
    Keeps serviceMachine (fun event => replacesWell event) (fun _ => True)
      (fun _ _ after => Advertised after) service memory world :=
  (only.keeps (fun _ keeping outcome before kept =>
    (serviceStep_grows keeping outcome before).advertised kept) memory advertised).weaken
      (fun _ _ => trivial) fun _ _ _ kept _ => kept

theorem aside_advertised {Result : Type} {service : ServiceM Result}
    (aside : CallsOnly Aside service) (advertised : Advertised world) :
    Keeps serviceMachine (fun event => replacesWell event) (fun _ => True)
      (fun _ _ after => Advertised after) service memory world :=
  keeping_advertised (aside.weaken aside_keeping) advertised

theorem recordActivation_keeping (path : Text) :
    CallsOnly Keeping (recordActivation config request path) := by
  refine .bind (.edit _) fun _ => .bind (.edit _) fun ret => ?_
  split
  · exact .edit _
  · exact .bind (.perform trivial) fun _ => .bind (.edit _) fun _ =>
      .bind (persist_aside.weaken aside_keeping) fun _ =>
      .bind (.perform trivial) fun _ => .bind (.perform trivial) fun _ =>
      .bind (.perform trivial) fun _ => .edit _

/-- A load that works brings the application back; one that fails is allowed where no
command is left without it. -/
theorem load_advertised (path : Text) (but : AdvertisedBut request.appId.text world) :
    Keeps serviceMachine (fun event => replacesWell event) (fun _ => True)
      (fun _ _ after => Advertised after)
      (UpdateService.perform (.runtimeLoad request.appId.text path) : ServiceM Int)
      memory world := by
  refine .perform trivial fun outcome valid => ⟨trivial, ?_⟩
  have loads := @RuntimeCapacity.load_names world.unit.runtime request.appId.text outcome.report
    world.unit.volume path
  rcases loads with ⟨failed, same⟩ | ⟨worked, added⟩
  · have spared : request.appId.text ∈ names world.unit.runtime ∨
        request.appId.text ∉ appIds world.registry :=
      (of_decide_eq_true valid).resolve_left failed
    have ready : Advertised world :=
      but.whole fun member => spared.resolve_right (not_not.mpr member)
    have grows : Grows world
        (serviceStep outcome (.runtimeLoad request.appId.text path) world).2 :=
      .of_names rfl same
    exact grows.advertised ready
  · intro other member
    change other ∈ names (AppRuntime.load _ _ _ _ _).2
    rw [added, List.mem_append, List.mem_singleton]
    exact (but other member).symm

theorem launchArtifact_advertised (but : AdvertisedBut request.appId.text world) :
    Keeps serviceMachine (fun event => replacesWell event) (fun _ => True)
      (fun _ _ after => Advertised after) (launchArtifact config request) memory world := by
  have starts : CallsOnly Keeping (UpdateService.perform
      (.runtimeStart request.appId.text (requestStartArgs request).text) : ServiceM Int) :=
    .perform trivial
  refine (load_advertised _ but).seq fun ret after left _ advertised => ?_
  split
  · exact aside_advertised (failActivate_aside _ _) advertised
  refine (keeping_advertised starts advertised).seq fun ret after left _ kept => ?_
  split
  · exact aside_advertised (failActivate_aside _ _) kept
  · exact keeping_advertised (recordActivation_keeping _) kept

/-- An unload that works leaves the commands of its own application behind. -/
def Unloaded (appId : Text) (ret : Int) (world : World) : Prop :=
  ret ≠ 0 ∧ Advertised world ∨ ret = 0 ∧ appId ≠ [] ∧ AdvertisedBut appId world

theorem Unloaded.but {appId : Text} {ret : Int} (unloaded : Unloaded appId ret world) :
    AdvertisedBut appId world := by
  rcases unloaded with ⟨_, advertised⟩ | ⟨_, _, but⟩
  · exact advertised.but appId
  · exact but

theorem Unloaded.removed {appId : Text} {ret : Int} (unloaded : Unloaded appId ret world)
    (short : appId.length ≤ 31) (outcome : UpdateWorld.Outcome) :
    Advertised (serviceStep outcome (.removeAppCommands appId) world).2 := by
  have grows : Grows world (serviceStep outcome (.removeAppCommands appId) world).2 :=
    @serviceStep_grows (.removeAppCommands appId) trivial outcome world
  rcases unloaded with ⟨_, advertised⟩ | ⟨_, named, but⟩
  · exact grows.advertised advertised
  · have gone := @CommandRegistry.removeApp_gone world.registry appId
      (by simp [CommandRegistry.appIdValid, named, short])
    intro other member
    rcases but other (CommandRegistry.removeApp_appIds member) with rfl | loaded
    · exact absurd member gone
    · exact loaded

theorem serviceStep_unloads (outcome : UpdateWorld.Outcome) (appId : Text)
    (advertised : Advertised world) :
    Unloaded appId (serviceStep outcome (.runtimeUnload appId) world).1
      (serviceStep outcome (.runtimeUnload appId) world).2 := by
  rcases @RuntimeCapacity.unload_names world.unit.runtime appId with
    ⟨failed, same⟩ | ⟨worked, dropped⟩
  · have grows : Grows world (serviceStep outcome (.runtimeUnload appId) world).2 :=
      .of_names rfl same
    exact .inl ⟨failed, grows.advertised advertised⟩
  · refine .inr ⟨worked, ?_, fun other member => ?_⟩
    · rintro rfl
      exact absurd worked (AppRuntime.fail_nonzero _ _ (by decide) _)
    · by_cases own : other = appId
      · exact .inl own
      · right
        change other ∈ names (AppRuntime.unload appId world.unit.runtime).2
        rw [dropped]
        exact (List.mem_erase_of_ne own).mpr (advertised other member)

theorem unload_advertised (appId : Text) (advertised : Advertised world) :
    Keeps serviceMachine (fun event => replacesWell event) (fun _ => True)
      (fun ret _ after => Unloaded appId ret after)
      (UpdateService.perform (.runtimeUnload appId) : ServiceM Int) memory world :=
  ⟨trivial, fun outcome _ => ⟨trivial, serviceStep_unloads outcome appId advertised⟩⟩

theorem activate_advertised (advertised : Advertised world) :
    Keeps serviceMachine (fun event => replacesWell event) (fun _ => True)
      (fun _ _ after => Advertised after) (handleUpdateActivate config request)
      memory world := by
  refine (aside_advertised (lease_aside _ _) advertised).seq fun held after left _ kept => ?_
  split
  · exact .pure trivial kept
  refine (keeping_advertised (CallsOnly.edit _) kept).seq fun ret after left _ kept => ?_
  split
  · exact keeping_advertised (.edit _) kept
  refine (aside_advertised (loaded_aside _) kept).seq fun loaded after left _ kept => ?_
  split
  · refine (unload_advertised _ kept).seq fun ret after left _ unloaded => ?_
    split
    · next failed =>
      have kept := (unloaded.resolve_right fun worked => failed worked.1).2
      exact aside_advertised (failStage_aside _ _ _ _ _ _) kept
    · exact launchArtifact_advertised unloaded.but
  · exact launchArtifact_advertised (kept.but _)

/-- Rollback removes the commands before it restores anything. -/
theorem rollBack_advertised (advertised : Advertised world) :
    Keeps serviceMachine (fun event => replacesWell event) (fun _ => True)
      (fun _ _ after => Advertised after) (rollBack config request) memory world := by
  have stops : CallsOnly Keeping (UpdateService.perform
      (.runtimeStop request.appId.text) : ServiceM Int) := .perform trivial
  have restores : ∀ stableRef, CallsOnly Keeping (restoreStable request.appId.text stableRef) := by
    intro stableRef
    refine .bind (.perform trivial) fun ret => ?_
    split
    · exact .perform trivial
    · exact .pure _
  refine (keeping_advertised stops advertised).seq fun _ after left _ kept => ?_
  refine (unload_advertised _ kept).seq fun ret after left _ unloaded => ?_
  split
  · next failed =>
    have kept := (unloaded.resolve_right fun worked => failed.1 worked.1).2
    exact aside_advertised (failStage_aside _ _ _ _ _ _) kept
  have removes : Keeps serviceMachine (fun event => replacesWell event) (fun _ => True)
      (fun _ _ after => Advertised after)
      (UpdateService.perform (.removeAppCommands request.appId.text) : ServiceM Unit)
      after left :=
    .perform trivial fun outcome _ =>
      ⟨trivial, unloaded.removed (Nat.le_of_lt_succ request.appId.fits) outcome⟩
  refine removes.seq fun _ after left _ kept => ?_
  -- behind the removal of the commands no call takes an application away
  have rest : CallsOnly Keeping (do
      let memory ← inspect
      let stableRef := UpdateManager.stableRefFor memory.updates request.appId.text
      if stableRef ≠ [] then
        let ret ← restoreStable request.appId.text stableRef
        if ret ≠ 0 then
          failRollback request.appId.text "stable restore failed" "stable restore failed"
            "rollback stable restore failed"
        else
          UpdateService.perform (.registerAppCallbackCommand request.appId.text)
          let _ ← setArtifactState request.appId.text .active
          completeRollback config request "stable restored"
      else
        let _ ← artifacts fun store => ArtifactStore.remove store request.appId.text
        completeRollback config request "artifact removed") := by
    have completes : ∀ detail, CallsOnly Keeping (completeRollback config request detail) :=
      fun _ => (completeRollback_aside _).weaken aside_keeping
    refine .bind .inspect fun memory => ?_
    dsimp only
    split
    · refine .bind (restores _) fun ret => ?_
      split
      · exact (failStage_aside _ _ _ _ _ _).weaken aside_keeping
      · exact .bind (.perform trivial) fun _ => .bind (.edit _) fun _ => completes _
    · exact .bind (.edit _) fun _ => completes _
  exact keeping_advertised rest kept

theorem rollback_advertised (advertised : Advertised world) :
    Keeps serviceMachine (fun event => replacesWell event) (fun _ => True)
      (fun _ _ after => Advertised after) (handleUpdateRollback config request)
      memory world := by
  refine (aside_advertised (lease_aside _ _) advertised).seq fun held after left _ kept => ?_
  split
  · exact .pure trivial kept
  refine (keeping_advertised (CallsOnly.edit _) kept).seq fun ret after left _ kept => ?_
  split
  · exact keeping_advertised (.edit _) kept
  refine (aside_advertised persist_aside kept).seq fun saved after left _ kept => ?_
  split
  · exact keeping_advertised
      (.bind (.edit _) fun _ => .bind (.perform trivial) fun _ => .edit _) kept
  refine (keeping_advertised (CallsOnly.edit _) kept).seq fun ret after left _ kept => ?_
  split
  · exact keeping_advertised (.bind (.edit _) fun _ => .edit _) kept
  · exact rollBack_advertised kept

theorem serve_advertised (request : Option Request) (advertised : Advertised world) :
    Keeps serviceMachine (fun event => replacesWell event) (fun _ => True)
      (fun _ _ after => Advertised after) (UpdateWorld.serve config request) memory world := by
  cases request with
  | none =>
      have opens : CallsOnly Aside (UpdateWorld.serve config none) :=
        .bind (ensureRecoverySeedInitialized_calls.weaken housekeeping_aside) fun _ => .pure _
      exact aside_advertised opens advertised
  | some request =>
      refine (keeping_advertised .inspect advertised).seq fun read after left _ kept => ?_
      split
      · unfold handleAction
        split
        · exact aside_advertised prepare_aside kept
        split
        · exact aside_advertised verify_aside kept
        split
        · exact activate_advertised kept
        split
        · exact rollback_advertised kept
        split
        · exact aside_advertised delete_aside kept
        · exact keeping_advertised (.edit _) kept
      · exact keeping_advertised (.edit _) kept

end Service

/-! The command handler. -/

section Command

variable {config : Config} {request : Request} {replies : List AppCommand.Answer}
  {world : World}

def CommandKeeping : AppCommand.Effect → Prop
  | .service effect => Keeping effect
  | _ => True

theorem step_grows {effect : AppCommand.Effect} (keeping : CommandKeeping effect)
    (outcome : AppCommand.Outcome) (world : World) :
    Grows world (AppCommand.step outcome effect world).2 := by
  cases effect with
  | service effect => exact serviceStep_grows keeping outcome.service world
  | findCommand appId commandName => exact .of_names rfl rfl
  | setAppEnabled appId enabled =>
      exact ⟨fun _ => id, fun _ member =>
        .inr ((CommandRegistry.setAppEnabled_appIds enabled).mp member)⟩
  | dispatchCallback appId commandName payload =>
      exact .of_names rfl (RuntimeCapacity.dispatchCommand_names appId commandName)

theorem commandKeeping_advertised {Result : Type} {service : CommandM Result}
    (only : CallsOnly CommandKeeping service) (advertised : Advertised world) :
    Keeps AppCommand.machine (fun _ => True) (fun _ => True)
      (fun _ _ after => Advertised after) service replies world :=
  (only.keeps (fun _ keeping outcome before kept =>
    (step_grows keeping outcome before).advertised kept) replies advertised).weaken
      (fun _ _ => trivial) fun _ _ _ kept _ => kept

theorem requireControl_keeping : CallsOnly CommandKeeping (requireControl config request) := by
  refine .bind (.perform trivial) fun ret => ?_
  split
  · exact .bind (.edit _) fun _ => .pure _
  split
  · exact .bind (.edit _) fun _ => .pure _
  split
  · exact .bind (.edit _) fun _ => .pure _
  · exact .pure _

theorem registeredCommand_keeping (command : CommandRegistry.Desc) :
    CallsOnly CommandKeeping (registeredCommand config request command) := by
  have dispatches : CallsOnly CommandKeeping (dispatchCommand config request) := by
    refine .bind (.perform trivial) fun dispatched => ?_
    split
    · exact .edit _
    · exact .edit _
  unfold registeredCommand
  split
  · exact .edit _
  split
  · refine .bind requireControl_keeping fun held => ?_
    split
    · exact .pure _
    · exact dispatches
  · exact dispatches

theorem finishCommand_keeping (ret : Int) :
    CallsOnly CommandKeeping (finishCommand config request ret) := by
  unfold finishCommand
  split
  · split
    · exact .edit _
    · exact .edit _
  · exact .bind (.perform trivial) fun _ => .edit _

theorem runtimeCommand_keeping {call : CommandM Int} {register : CommandM Unit}
    (calls : CallsOnly CommandKeeping call) (registers : CallsOnly CommandKeeping register) :
    CallsOnly CommandKeeping (runtimeCommand config request call register) := by
  refine .bind calls fun ret => ?_
  split
  · exact .bind registers fun _ => finishCommand_keeping _
  · exact finishCommand_keeping _

/-- Unload removes the commands where it works. -/
theorem unloadCommand_advertised (advertised : Advertised world) :
    Keeps AppCommand.machine (fun _ => True) (fun _ => True)
      (fun _ _ after => Advertised after)
      (runtimeCommand config request
        (AppCommand.perform (.service (.runtimeUnload request.appId.text)))
        (AppCommand.perform (.service (.removeAppCommands request.appId.text))))
      replies world := by
  have unloads : Keeps AppCommand.machine (fun _ => True) (fun _ => True)
      (fun ret _ after => Unloaded request.appId.text ret after)
      (AppCommand.perform (.service (.runtimeUnload request.appId.text)) : CommandM Int)
      replies world :=
    ⟨trivial, fun outcome _ =>
      ⟨trivial, serviceStep_unloads outcome.service request.appId.text advertised⟩⟩
  refine unloads.seq fun ret after left _ unloaded => ?_
  split
  · have removes : Keeps AppCommand.machine (fun _ => True) (fun _ => True)
        (fun _ _ after => Advertised after)
        (AppCommand.perform (.service (.removeAppCommands request.appId.text)) : CommandM Unit)
        after left :=
      ⟨trivial, fun outcome _ =>
        ⟨trivial, unloaded.removed (Nat.le_of_lt_succ request.appId.fits) outcome.service⟩⟩
    exact removes.seq fun _ _ _ _ kept => commandKeeping_advertised (finishCommand_keeping _) kept
  · next failed =>
    have kept := (unloaded.resolve_right fun worked => failed worked.1).2
    exact commandKeeping_advertised (finishCommand_keeping _) kept

theorem handleAppCommand_advertised (advertised : Advertised world) :
    Keeps AppCommand.machine (fun _ => True) (fun _ => True)
      (fun _ _ after => Advertised after) (handleAppCommand config request) replies world := by
  have finds : CallsOnly CommandKeeping
      (AppCommand.perform (.findCommand request.appId.text request.action) :
        CommandM (Except Int CommandRegistry.Desc)) := .perform trivial
  have starts : CallsOnly CommandKeeping (AppCommand.perform
      (.service (.runtimeStart request.appId.text (requestStartArgs request).text)) :
        CommandM Int) := .perform trivial
  have stops : CallsOnly CommandKeeping (AppCommand.perform
      (.service (.runtimeStop request.appId.text)) : CommandM Int) := .perform trivial
  have enables : ∀ enabled,
      CallsOnly CommandKeeping (setAppEnabled request.appId.text enabled) :=
    fun _ => .bind (.perform trivial) fun _ => .pure _
  refine (commandKeeping_advertised finds advertised).seq fun found after left _ kept => ?_
  split
  · exact commandKeeping_advertised (registeredCommand_keeping _) kept
  refine (commandKeeping_advertised requireControl_keeping kept).seq
    fun held after left _ kept => ?_
  split
  · exact .pure trivial kept
  split
  · exact commandKeeping_advertised (runtimeCommand_keeping starts (enables true)) kept
  split
  · exact commandKeeping_advertised (runtimeCommand_keeping stops (enables false)) kept
  split
  · exact unloadCommand_advertised kept
  · exact commandKeeping_advertised (.edit _) kept

end Command

/-- In a request to the update service, every load works that replaces an application
with commands. -/
def TurnReplacesWell (config : Config) (device : Device) : Turn → Prop
  | .update request outcomes =>
      Meets serviceMachine (fun event => replacesWell event) outcomes
        (UpdateWorld.serve config request device.memory) device.world
  | .command _ _ => True

/-- The same in every turn of a run. -/
def ReplacesWell (config : Config) (device : Device) : List Turn → Prop
  | [] => True
  | turn :: rest =>
      TurnReplacesWell config device turn ∧ ReplacesWell config (turn.take config device) rest

theorem take_advertised {config : Config} {device : Device} {turn : Turn}
    (advertised : Advertised device.world) (works : TurnReplacesWell config device turn) :
    Advertised (turn.take config device).world := by
  cases turn with
  | update request outcomes => exact (serve_advertised request advertised).run outcomes works
  | command request outcomes =>
      exact (handleAppCommand_advertised advertised).run outcomes fun _ _ => trivial

/-- After every handler of a run from an empty registry, each application with a command
in the registry is loaded, as long as every load works that replaces an application with
commands. -/
theorem registered_loaded (config : Config) (device : Device)
    (empty : device.world.registry = CommandRegistry.init) (turns : List Turn)
    (works : ReplacesWell config device turns) (front : List Turn) (part : front <+: turns) :
    ∀ appId ∈ appIds (after config device front).world.registry,
      appId ∈ names (after config device front).world.unit.runtime := by
  have start : Advertised device.world := by
    intro appId member
    rw [empty, CommandRegistry.appIds_init] at member
    cases member
  clear empty
  induction turns generalizing device front with
  | nil =>
      rw [List.prefix_nil.mp part]
      exact start
  | cons turn rest ih =>
      cases front with
      | nil => exact start
      | cons first later =>
          obtain ⟨rfl, shorter⟩ := List.cons_prefix_cons.mp part
          exact ih (first.take config device) works.2 later shorter
            (take_advertised start works.1)

instance (config : Config) (device : Device) (turn : Turn) :
    Decidable (TurnReplacesWell config device turn) :=
  match turn with
  | .update request outcomes => inferInstanceAs (Decidable (∀ event ∈ events serviceMachine
      outcomes (UpdateWorld.serve config request device.memory) device.world,
      replacesWell event = true))
  | .command _ _ => inferInstanceAs (Decidable True)

instance decidableReplacesWell (config : Config) (device : Device) :
    (turns : List Turn) → Decidable (ReplacesWell config device turns)
  | [] => inferInstanceAs (Decidable True)
  | turn :: rest =>
      have := decidableReplacesWell config (turn.take config device) rest
      inferInstanceAs (Decidable (TurnReplacesWell config device turn ∧
        ReplacesWell config (turn.take config device) rest))

/-- A unit without files, applications and commands. -/
def demoDevice : Device where
  memory := UpdateWorld.booted
  world := ⟨UpdateWorld.demoDevice.world, CommandRegistry.init⟩

def install (content : List UInt8) (report : AppRuntime.LoadReport) : List Turn :=
  let outcome : UpdateWorld.Outcome :=
    { UpdateWorld.works with chunk := .ok content, report := report }
  [.update (some (UpdateWorld.demoRequest "prepare"
      "\x7b\"artifact_key\":\"a\",\"size\":2\x7d")) (List.replicate 9 outcome),
    .update (some (UpdateWorld.demoRequest "verify" "")) [],
    .update (some (UpdateWorld.demoRequest "activate" "")) (List.replicate 9 outcome)]

def demoTurns (report : AppRuntime.LoadReport) : List Turn :=
  .update none [] :: install [1, 1] AppRuntime.loadsWell ++ install [1, 2] report

/-- Both versions load, and the commands are those of a loaded application. -/
theorem demoTurns_loaded :
    let device := after UpdateWorld.demoConfig demoDevice (demoTurns AppRuntime.loadsWell)
    lit "pump" ∈ appIds device.world.registry ∧ lit "pump" ∈ names device.world.unit.runtime := by
  intro device
  have listed : lit "pump" ∈ appIds device.world.registry := by decide +kernel
  exact ⟨listed, registered_loaded UpdateWorld.demoConfig demoDevice rfl
    (demoTurns AppRuntime.loadsWell) (by decide +kernel) _ (List.prefix_refl _) _ listed⟩

/-- The second version does not load: the first one is gone, and its command is not. -/
theorem demoTurns_dangling :
    ¬ ∀ (config : Config) (device : Device) (turns : List Turn),
      device.world.registry = CommandRegistry.init →
        ∀ appId ∈ appIds (after config device turns).world.registry,
          appId ∈ names (after config device turns).world.unit.runtime := by
  intro claimed
  have loaded := claimed UpdateWorld.demoConfig demoDevice
    (demoTurns { AppRuntime.loadsWell with llextLoad := -1 }) rfl (lit "pump")
    (by decide +kernel)
  revert loaded
  decide +kernel

end NeuroLink.CommandPresence
