import NeuroLink.CommandPresence
import NeuroLink.RuntimeFrame
import NeuroLink.StepRun

/-!
Whether the commands of an application can be called while it runs, and only then. The
handler that starts or stops an application enables or disables its commands; a start
may also suspend another application, and nobody disables the commands of that one.
-/

namespace NeuroLink.CommandAvailability

open CText Errno EffectProgram MemoryProgram UpdateService ServiceCalls AppCommand
open AppRuntime RuntimeFrame StepRun
open SlotTable (entries)
open CommandRegistry (appIds appIdValid)
open AppCommand (World)

def Follows (runtime : Runtime) (command : CommandRegistry.Desc) : Prop :=
  ∀ app, findApp runtime command.appId.text = some app →
    (command.state = .enabled ↔ app.state = .running)

/-- Every command is of the kind the unit registers, and follows its application unless
that is the excepted one. -/
def AlignedBut (appId : Text) (world : World) : Prop :=
  ∀ command ∈ entries world.registry, command.commandName.text = lit "invoke" ∧
    (command.appId.text ≠ appId → Follows world.unit.runtime command)

def Aligned (world : World) : Prop :=
  ∀ command ∈ entries world.registry, command.commandName.text = lit "invoke" ∧
    Follows world.unit.runtime command

def startSpares (appId : Text) (world : World) : Bool :=
  (startPreempts appId world.unit.runtime).all fun candidate =>
    !(appIds world.registry).contains candidate.name.text

def serviceSpares (event : Event UpdateService.Effect UpdateService.EffectReply World) : Bool :=
  match event with
  | ⟨.runtimeStart appId _, before, _, _⟩ => startSpares appId before
  | _ => true

def commandSpares (event : Event AppCommand.Effect AppCommand.EffectReply World) : Bool :=
  match event with
  | ⟨.service (.runtimeStart appId _), before, _, _⟩ => startSpares appId before
  | _ => true

def supportsCallback (event : Event UpdateService.Effect UpdateService.EffectReply World) :
    Bool :=
  match event with
  | ⟨.registerAppCallbackCommand appId, before, _, _⟩ =>
      supportsCommandCallback appId before.unit.runtime
  | _ => true

def succeeded (memory : Memory) : Bool :=
  match memory.replies.getLast? with
  | some (.accepted _ _) => true
  | _ => false

def switches (action : Text) : Bool :=
  action = lit "activate" ∨ action = lit "rollback" ∨ action = lit "recover"

def asksSwitch (request : Option Request) : Bool := request.any fun asked => switches asked.action

section States

variable {world after : World} {appId : Text}

theorem Aligned.but (aligned : Aligned world) (appId : Text) : AlignedBut appId world :=
  fun command member => ⟨(aligned command member).1, fun _ => (aligned command member).2⟩

theorem AlignedBut.whole (but : AlignedBut appId world)
    (own : ∀ command ∈ entries world.registry, command.appId.text = appId →
      Follows world.unit.runtime command) : Aligned world := by
  intro command member
  obtain ⟨kind, follows⟩ := but command member
  by_cases same : command.appId.text = appId
  · exact ⟨kind, own command member same⟩
  · exact ⟨kind, follows same⟩

theorem AlignedBut.framed (but : AlignedBut appId world)
    (fewer : ∀ command ∈ entries after.registry, command ∈ entries world.registry)
    (frame : ∀ command ∈ entries after.registry, command.appId.text ≠ appId →
      findApp after.unit.runtime command.appId.text =
        findApp world.unit.runtime command.appId.text) :
    AlignedBut appId after := by
  intro command member
  obtain ⟨kind, follows⟩ := but command (fewer command member)
  refine ⟨kind, fun apart app found => ?_⟩
  rw [frame command member apart] at found
  exact follows apart app found

theorem Aligned.framed (aligned : Aligned world)
    (fewer : ∀ command ∈ entries after.registry, command ∈ entries world.registry)
    (frame : ∀ command ∈ entries after.registry,
      findApp after.unit.runtime command.appId.text =
        findApp world.unit.runtime command.appId.text) :
    Aligned after := by
  intro command member
  obtain ⟨kind, follows⟩ := aligned command (fewer command member)
  refine ⟨kind, fun app found => ?_⟩
  rw [frame command member] at found
  exact follows app found

/-- An application was started or stopped, and its commands are still what they were. -/
def Moved (appId : Text) (enabled : Bool) (world : World) : Prop :=
  AlignedBut appId world ∧ appId.length ≤ 31 ∧
    ∀ app, findApp world.unit.runtime appId = some app → (enabled = true ↔ app.state = .running)

theorem Moved.settled {enabled : Bool} (moved : Moved appId enabled world) :
    Aligned { world with
      registry := (CommandRegistry.setAppEnabled world.registry appId enabled).2 } := by
  obtain ⟨but, short, state⟩ := moved
  by_cases named : appId = []
  · -- no application has the empty name
    have same : (CommandRegistry.setAppEnabled world.registry appId enabled).2 =
        world.registry := by simp [CommandRegistry.setAppEnabled, appIdValid, named]
    rw [same]
    refine but.whole fun command _ own app found => ?_
    rw [own, named, findApp, if_pos rfl] at found
    cases found
  have valid : appIdValid appId = true := by simp [appIdValid, named, short]
  intro command member
  rcases CommandRegistry.setAppEnabled_entries valid member with
    ⟨apart, there⟩ | ⟨own, turned, old, there, _, kind⟩
  · exact ⟨(but command there).1, (but command there).2 apart⟩
  · refine ⟨kind ▸ (but old there).1, fun app found => ?_⟩
    rw [own] at found
    rw [turned, ← state app found]
    cases enabled <;> simp

theorem callbackCommand_name (appId : Text) :
    (callbackCommand appId).commandName.text = lit "invoke" := by
  change (copyBounded (lit "invoke") : Buffer 32).text = lit "invoke"
  decide

theorem Moved.registered (moved : Moved appId true world)
    (supports : supportsCommandCallback appId world.unit.runtime = true) :
    Aligned { world with
      registry := registerAppCallbackCommand appId world.unit.runtime world.registry } := by
  obtain ⟨but, short, state⟩ := moved
  have whole : (callbackCommand appId).appId.text = appId := copyBounded_exact appId short
  have named : appId ≠ [] := by
    rintro rfl
    simp [supportsCommandCallback, findApp] at supports
  have valid : appIdValid appId = true := by simp [appIdValid, named, short]
  unfold registerAppCallbackCommand
  rw [if_neg (by simp [supports])]
  dsimp only
  by_cases failed : (CommandRegistry.register world.registry (callbackCommand appId)).1 ≠ 0
  · -- the registry is full, and then holds no command of the application
    rw [if_pos failed]
    have kind : CommandRegistry.nameValid (callbackCommand appId).commandName.text = true := by
      rw [callbackCommand_name]
      decide
    have full := CommandRegistry.register_full (by rw [whole]; exact valid) kind failed
    rw [full.1]
    refine but.whole fun command member own => ?_
    refine absurd (Prod.ext ?_ ?_) (full.2 command member)
    · exact own.trans whole.symm
    · exact (but command member).1.trans (callbackCommand_name appId).symm
  · rw [if_neg failed]
    have added : Moved appId true { world with
        registry := (CommandRegistry.register world.registry (callbackCommand appId)).2 } := by
      refine ⟨fun command member => ?_, short, state⟩
      rcases CommandRegistry.register_entries member with rfl | old
      · exact ⟨callbackCommand_name appId, fun apart => absurd whole apart⟩
      · exact but command old
    exact added.settled

end States

/-! The calls. -/

section Steps

variable {world : World} {appId : Text}

theorem startSpares_apart {command : CommandRegistry.Desc} (spares : startSpares appId world = true)
    (member : command ∈ entries world.registry) (candidate : App)
    (chosen : startPreempts appId world.unit.runtime = some candidate) :
    candidate.name.text ≠ command.appId.text := by
  intro same
  rw [startSpares, chosen] at spares
  have absent : candidate.name.text ∉ appIds world.registry := by simpa using spares
  exact absent (same ▸ List.mem_map_of_mem member)

/-- A start that works leaves its application running, with commands that wait to be
enabled. -/
theorem start_moved (startArgs : Text) (short : appId.length ≤ 31)
    (spares : startSpares appId world = true) (but : AlignedBut appId world) :
    let answer := AppRuntime.start appId startArgs world.unit.runtime
    answer.1 = 0 →
      Moved appId true { world with unit := { world.unit with runtime := answer.2 } } := by
  intro answer worked
  rcases start_own appId startArgs world.unit.runtime with ⟨_, app, there, runs⟩ | ⟨failed, _⟩
  · refine ⟨but.framed (fun _ => id) fun command member apart => ?_, short, fun other found => ?_⟩
    · exact start_frame startArgs apart (startSpares_apart spares member)
    · have own : some app = some other := there.symm.trans found
      cases own
      simp [runs]
  · exact absurd worked failed

theorem start_moves (startArgs : Text) (short : appId.length ≤ 31)
    (spares : startSpares appId world = true) (aligned : Aligned world) :
    let answer := AppRuntime.start appId startArgs world.unit.runtime
    let after : World := { world with unit := { world.unit with runtime := answer.2 } }
    answer.1 = 0 ∧ Moved appId true after ∨ answer.1 ≠ 0 ∧ Aligned after := by
  intro answer after
  rcases start_own appId startArgs world.unit.runtime with ⟨worked, _⟩ | ⟨failed, same⟩
  · exact .inl ⟨worked, start_moved startArgs short spares (aligned.but appId) worked⟩
  · refine .inr ⟨failed, aligned.framed (fun _ => id) fun command member => ?_⟩
    by_cases own : command.appId.text = appId
    · rw [own]
      exact same
    · exact start_frame startArgs own (startSpares_apart spares member)

theorem stop_moves (short : appId.length ≤ 31) (aligned : Aligned world) :
    let answer := AppRuntime.stop appId world.unit.runtime
    let after : World := { world with unit := { world.unit with runtime := answer.2 } }
    answer.1 = 0 ∧ Moved appId false after ∨ answer.1 ≠ 0 ∧ Aligned after := by
  intro answer after
  rcases stop_own appId world.unit.runtime with ⟨worked, idle⟩ | ⟨failed, same⟩
  · refine .inl ⟨worked, ?_, short, ?_⟩
    · exact (aligned.but appId).framed (fun _ => id) fun _ _ apart => stop_frame apart
    · intro app found
      simp [idle app found]
  · refine .inr ⟨failed, aligned.framed (fun _ => id) fun command member => ?_⟩
    by_cases own : command.appId.text = appId
    · rw [own]
      exact same
    · exact stop_frame own

/-- Calls that move no application leave every command with the state it shows. -/
theorem serviceStep_aside {effect : UpdateService.Effect} (aside : Aside effect)
    (outcome : UpdateWorld.Outcome) (world : World) :
    (serviceStep outcome effect world).2.unit.runtime = world.unit.runtime ∧
      ∀ command ∈ entries (serviceStep outcome effect world).2.registry,
        command ∈ entries world.registry := by
  cases effect with
  | runtimeLoad | runtimeStart | runtimeStop | runtimeUnload | registerAppCallbackCommand =>
      exact aside.elim
  | removeAppCommands appId =>
      exact ⟨rfl, fun command member => CommandRegistry.removeApp_entries member⟩
  | saveSeed snapshot =>
      simp only [serviceStep, UpdateWorld.step]
      split <;> exact ⟨rfl, fun _ => id⟩
  | loadSeed =>
      simp only [serviceStep, UpdateWorld.step]
      split
      · exact ⟨rfl, fun _ => id⟩
      · split <;> exact ⟨rfl, fun _ => id⟩
  | mark moment => cases moment <;> exact ⟨rfl, fun _ => id⟩
  | _ => exact ⟨rfl, fun _ => id⟩

end Steps

/-! The handlers of the update service. -/

section Service

variable {config : Config} {request : Request} {memory : Memory} {world : World}

def Allowed (event : Event UpdateService.Effect UpdateService.EffectReply World) : Prop :=
  serviceSpares event = true ∧ supportsCallback event = true

abbrev Leaves {Result : Type} (post : Result → Memory → World → Prop) (service : ServiceM Result)
    (memory : Memory) (world : World) : Prop :=
  Keeps serviceMachine Allowed (fun _ => True) post service memory world

theorem aside_keeps {inv : World → Prop} {Result : Type} {service : ServiceM Result}
    (kept : ∀ before after : World, inv before →
      after.unit.runtime = before.unit.runtime →
      (∀ command ∈ entries after.registry, command ∈ entries before.registry) → inv after)
    (aside : CallsOnly Aside service) (start : inv world) :
    Leaves (fun _ _ after => inv after) service memory world := by
  refine (aside.keeps (fun effect member outcome before holds => ?_) memory start).weaken
    (fun _ _ => trivial) fun _ _ _ holds _ => holds
  have step := serviceStep_aside member outcome before
  exact kept before _ holds step.1 step.2

theorem aside_aligned {Result : Type} {service : ServiceM Result} (aside : CallsOnly Aside service)
    (aligned : Aligned world) :
    Leaves (fun _ _ after => Aligned after) service memory world :=
  aside_keeps (fun _ _ aligned runtime fewer =>
    aligned.framed fewer fun _ _ => by rw [runtime]) aside aligned

theorem aside_moved {appId : Text} {Result : Type} {service : ServiceM Result}
    (aside : CallsOnly Aside service) (moved : Moved appId true world) :
    Leaves (fun _ _ after => Moved appId true after) service memory world := by
  refine aside_keeps (fun before after moved runtime fewer => ⟨?_, moved.2.1, ?_⟩) aside moved
  · exact moved.1.framed fewer fun _ _ _ => by rw [runtime]
  · rw [runtime]
    exact moved.2.2

def Refusing (service : ServiceM Unit) : Prop :=
  ∀ memory, Ensures (fun _ after => succeeded after = false) service memory

theorem Refusing.last {Result : Type} (service : ServiceM Result) {rest : Result → ServiceM Unit}
    (refusing : ∀ result, Refusing (rest result)) : Refusing (service >>= rest) :=
  fun _ => .last service fun result => refusing result

theorem error_refusing (message : Text) (statusCode : Nat) :
    Refusing (answer (.error message statusCode)) :=
  fun memory => .edit (by simp [succeeded])

theorem failStage_refusing (fail : UpdateManager.Manager → Int × UpdateManager.Manager)
    (appId : Text) (stage : String) (detail message : Text) (statusCode : Nat) :
    Refusing (failStage fail appId stage detail message statusCode) :=
  .last _ fun _ => .last _ fun _ => .last _ fun _ => error_refusing message statusCode

def Concluded (memory : Memory) (world : World) : Prop := succeeded memory = true → Aligned world

theorem Refusing.concludes {service : ServiceM Unit} (refusing : Refusing service) :
    Leaves (fun _ => Concluded) service memory world :=
  ((refusing memory).keeps serviceMachine Allowed world).weaken (fun _ => id)
    fun _ _ _ _ refused accepted => absurd accepted (by simp [refused])

theorem aside_concludes {service : ServiceM Unit} (aside : CallsOnly Aside service)
    (aligned : Aligned world) :
    Leaves (fun _ => Concluded) service memory world :=
  (aside_aligned aside aligned).weaken (fun _ => id) fun _ _ _ _ kept _ => kept

theorem register_concludes {rest : ServiceM Unit} (aside : CallsOnly Aside rest)
    (moved : Moved request.appId.text true world) :
    Leaves (fun _ => Concluded)
      (do UpdateService.perform (.registerAppCallbackCommand request.appId.text); rest)
      memory world := by
  have registers : Leaves (fun _ _ after => Aligned after)
      (UpdateService.perform (.registerAppCallbackCommand request.appId.text) : ServiceM Unit)
      memory world :=
    ⟨trivial, fun _ allowed => ⟨trivial, moved.registered allowed.2⟩⟩
  exact registers.seq fun _ _ _ _ aligned => aside_concludes aside aligned

theorem recordActivation_concludes (path : Text) (moved : Moved request.appId.text true world) :
    Leaves (fun _ => Concluded) (recordActivation config request path) memory world := by
  have edits : ∀ {Result : Type} (change : Memory → Result × Memory),
      CallsOnly Aside (Service.edit change : ServiceM Result) := fun change => .edit change
  have marks : CallsOnly Aside
      (UpdateService.perform (.mark (.activated request.appId.text)) : ServiceM Unit) :=
    .perform trivial
  refine (aside_moved (edits _) moved).seq fun _ _ _ _ moved => ?_
  refine (aside_moved (edits _) moved).seq fun ret _ _ _ moved => ?_
  split
  · exact (error_refusing _ _).concludes
  refine (aside_moved marks moved).seq fun _ _ _ _ moved => ?_
  refine (aside_moved (edits _) moved).seq fun _ _ _ _ moved => ?_
  refine (aside_moved persist_aside moved).seq fun _ _ _ _ moved => ?_
  exact register_concludes (.bind (.perform trivial) fun _ => .bind (.perform trivial) fun _ =>
    .edit _) moved

theorem load_but (path : Text) (but : AlignedBut request.appId.text world) :
    Leaves (fun _ _ after => AlignedBut request.appId.text after)
      (UpdateService.perform (.runtimeLoad request.appId.text path) : ServiceM Int) memory world :=
  ⟨trivial, fun outcome _ => ⟨trivial, but.framed (fun _ => id) fun _ _ apart =>
    load_frame outcome.report world.unit.volume path apart⟩⟩

theorem start_keeps (startArgs : Text) (but : AlignedBut request.appId.text world) :
    Leaves (fun ret _ after => ret = 0 → Moved request.appId.text true after)
      (UpdateService.perform (.runtimeStart request.appId.text startArgs) : ServiceM Int)
      memory world :=
  ⟨trivial, fun _ allowed => ⟨trivial, fun worked =>
    start_moved startArgs (Nat.le_of_lt_succ request.appId.fits) allowed.1 but worked⟩⟩

theorem launchArtifact_concludes (but : AlignedBut request.appId.text world) :
    Leaves (fun _ => Concluded) (launchArtifact config request) memory world := by
  refine (load_but _ but).seq fun ret _ _ _ but => ?_
  split
  · exact (Refusing.last _ fun _ => failStage_refusing _ _ _ _ _ _).concludes
  refine (start_keeps _ but).seq fun ret _ _ _ moved => ?_
  split
  · exact (Refusing.last _ fun _ => failStage_refusing _ _ _ _ _ _).concludes
  · next worked => exact recordActivation_concludes _ (moved (not_not.mp worked))

theorem unload_but (but : AlignedBut request.appId.text world) :
    Leaves (fun _ _ after => AlignedBut request.appId.text after)
      (UpdateService.perform (.runtimeUnload request.appId.text) : ServiceM Int) memory world :=
  ⟨trivial, fun _ _ => ⟨trivial, but.framed (fun _ => id) fun _ _ apart => unload_frame apart⟩⟩

theorem activate_concludes (aligned : Aligned world) :
    Leaves (fun _ => Concluded) (handleUpdateActivate config request) memory world := by
  refine (aside_aligned (lease_aside _ _) aligned).seq fun held _ _ _ aligned => ?_
  split
  · exact aside_concludes (.pure _) aligned
  refine (aside_aligned (.edit _) aligned).seq fun ret _ _ _ aligned => ?_
  split
  · exact (error_refusing _ _).concludes
  refine (aside_aligned (loaded_aside _) aligned).seq fun loaded _ _ _ aligned => ?_
  split
  · refine (unload_but (aligned.but _)).seq fun ret _ _ _ but => ?_
    split
    · exact (failStage_refusing _ _ _ _ _ _).concludes
    · exact launchArtifact_concludes but
  · exact launchArtifact_concludes (aligned.but _)

theorem remove_aligned (but : AlignedBut request.appId.text world) :
    Leaves (fun _ _ after => Aligned after)
      (UpdateService.perform (.removeAppCommands request.appId.text) : ServiceM Unit)
      memory world := by
  refine ⟨trivial, fun outcome _ => ⟨trivial, ?_⟩⟩
  have fewer := serviceStep_aside
    (show Aside (.removeAppCommands request.appId.text) from trivial) outcome world
  have kept : AlignedBut request.appId.text
      (serviceStep outcome (.removeAppCommands request.appId.text) world).2 :=
    but.framed fewer.2 fun _ _ _ => rfl
  refine kept.whole fun command member own app found => ?_
  by_cases named : request.appId.text = []
  · -- no application has the empty name
    rw [own, named, findApp, if_pos rfl] at found
    cases found
  · have short := Nat.le_of_lt_succ request.appId.fits
    have gone := @CommandRegistry.removeApp_gone world.registry request.appId.text
      (by simp [appIdValid, named, short])
    have listed : command.appId.text ∈ appIds (CommandRegistry.removeApp world.registry
        request.appId.text).2 := List.mem_map_of_mem member
    rw [own] at listed
    exact absurd listed gone

theorem restoreStable_moves (stableRef : Text) (but : AlignedBut request.appId.text world) :
    Leaves (fun ret _ after => ret = 0 → Moved request.appId.text true after)
      (restoreStable request.appId.text stableRef) memory world := by
  refine (load_but _ but).seq fun ret _ _ _ but => ?_
  split
  · exact start_keeps _ but
  · next failed => exact .pure trivial fun worked => absurd worked failed

theorem rollBack_concludes (aligned : Aligned world) :
    Leaves (fun _ => Concluded) (rollBack config request) memory world := by
  have stops : Leaves (fun _ _ after => AlignedBut request.appId.text after)
      (UpdateService.perform (.runtimeStop request.appId.text) : ServiceM Int) memory world :=
    ⟨trivial, fun _ _ => ⟨trivial, (aligned.but _).framed (fun _ => id) fun _ _ apart =>
      stop_frame apart⟩⟩
  refine stops.seq fun _ _ _ _ but => ?_
  refine (unload_but but).seq fun ret _ _ _ but => ?_
  split
  · exact (failStage_refusing _ _ _ _ _ _).concludes
  refine (remove_aligned but).seq fun _ _ _ _ aligned => ?_
  refine (aside_aligned .inspect aligned).seq fun read _ _ _ aligned => ?_
  dsimp only
  split
  · refine (restoreStable_moves _ (aligned.but _)).seq fun ret _ _ _ moved => ?_
    split
    · exact (failStage_refusing _ _ _ _ _ _).concludes
    · next worked =>
      exact register_concludes (.bind (.edit _) fun _ => completeRollback_aside _)
        (moved (not_not.mp worked))
  · exact aside_concludes (.bind (.edit _) fun _ => completeRollback_aside _) aligned

theorem rollback_concludes (aligned : Aligned world) :
    Leaves (fun _ => Concluded) (handleUpdateRollback config request) memory world := by
  refine (aside_aligned (lease_aside _ _) aligned).seq fun held _ _ _ aligned => ?_
  split
  · exact aside_concludes (.pure _) aligned
  refine (aside_aligned (.edit _) aligned).seq fun ret _ _ _ aligned => ?_
  split
  · exact (error_refusing _ _).concludes
  refine (aside_aligned persist_aside aligned).seq fun saved _ _ _ aligned => ?_
  split
  · exact (Refusing.last _ fun _ => .last _ fun _ => error_refusing _ _).concludes
  refine (aside_aligned (.edit _) aligned).seq fun ret _ _ _ aligned => ?_
  split
  · exact (Refusing.last _ fun _ => error_refusing _ _).concludes
  · exact rollBack_concludes aligned

/-- The commands are as they should be after a success that exchanges a version, and after
every answer to another request. -/
def Settled (request : Option Request) (memory : Memory) (world : World) : Prop :=
  (asksSwitch request = true → succeeded memory = true) → Aligned world

theorem aside_settles {request : Option Request} {service : ServiceM Unit}
    (aside : CallsOnly Aside service) (aligned : Aligned world) :
    Leaves (fun _ => Settled request) service memory world :=
  (aside_aligned aside aligned).weaken (fun _ => id) fun _ _ _ _ kept _ => kept

theorem switch_settles {service : ServiceM Unit} (asked : switches request.action = true)
    (concludes : Leaves (fun _ => Concluded) service memory world) :
    Leaves (fun _ => Settled (some request)) service memory world :=
  concludes.weaken (fun _ => id) fun _ _ _ _ concluded succeeds => concluded (succeeds asked)

theorem serve_settles (request : Option Request) (aligned : Aligned world) :
    Leaves (fun _ => Settled request) (UpdateWorld.serve config request) memory world := by
  cases request with
  | none =>
      have opens : CallsOnly Aside (UpdateWorld.serve config none) :=
        .bind (ensureRecoverySeedInitialized_calls.weaken housekeeping_aside) fun _ => .pure _
      exact aside_settles opens aligned
  | some request =>
      refine (aside_aligned .inspect aligned).seq fun read _ _ _ aligned => ?_
      split
      · unfold handleAction
        split
        · exact aside_settles prepare_aside aligned
        split
        · exact aside_settles verify_aside aligned
        split
        · next asked =>
          exact switch_settles (by simp [switches, asked]) (activate_concludes aligned)
        split
        · next asked =>
          exact switch_settles (by simp [switches, asked]) (rollback_concludes aligned)
        split
        · exact aside_settles delete_aside aligned
        · exact aside_settles (.edit _) aligned
      · exact aside_settles (.edit _) aligned

end Service

/-! The command handler. -/

section Command

variable {config : Config} {request : Request} {replies : List AppCommand.Answer}
  {world : World}

abbrev Turns {Result : Type} (post : Result → World → Prop) (service : CommandM Result)
    (replies : List AppCommand.Answer) (world : World) : Prop :=
  Keeps AppCommand.machine (fun event => commandSpares event = true) (fun _ => True)
    (fun result _ after => post result after) service replies world

/-- Calls of the command handler that neither move an application nor change a command. -/
def Idle : AppCommand.Effect → Prop
  | .service effect => Aside effect
  | .findCommand _ _ => True
  | .setAppEnabled _ _ | .dispatchCallback _ _ _ => False

theorem idle_aligned {Result : Type} {service : CommandM Result} (idle : CallsOnly Idle service)
    (aligned : Aligned world) : Turns (fun _ after => Aligned after) service replies world := by
  refine (idle.keeps (fun effect member outcome before aligned => ?_) replies aligned).weaken
    (fun _ _ => trivial) fun _ _ _ aligned _ => aligned
  cases effect with
  | service effect =>
      have step := serviceStep_aside member outcome.service before
      exact aligned.framed step.2 fun _ _ => congrArg (findApp · _) step.1
  | findCommand => exact aligned
  | setAppEnabled | dispatchCallback => exact member.elim

theorem requireControl_idle : CallsOnly Idle (requireControl config request) := by
  refine .bind (.perform trivial) fun ret => ?_
  split
  · exact .bind (.edit _) fun _ => .pure _
  split
  · exact .bind (.edit _) fun _ => .pure _
  split
  · exact .bind (.edit _) fun _ => .pure _
  · exact .pure _

theorem finishCommand_idle (ret : Int) : CallsOnly Idle (finishCommand config request ret) := by
  unfold finishCommand
  split
  · split
    · exact .edit _
    · exact .edit _
  · exact .bind (.perform trivial) fun _ => .edit _

/-- Start and stop set the commands to what the application has become. -/
theorem runtimeCommand_aligned {call : CommandM Int} {enabled : Bool}
    (moves : Turns (fun ret after => ret = 0 ∧ Moved request.appId.text enabled after ∨
      ret ≠ 0 ∧ Aligned after) call replies world) :
    Turns (fun _ after => Aligned after)
      (runtimeCommand config request call (setAppEnabled request.appId.text enabled))
      replies world := by
  refine moves.seq fun ret after left _ moved => ?_
  split
  · next worked =>
    have moved := (moved.resolve_right fun failed => failed.1 worked).2
    have sets : Turns (fun _ after => Aligned after)
        (setAppEnabled request.appId.text enabled) after left :=
      ⟨trivial, fun _ _ => ⟨trivial, moved.settled⟩⟩
    exact sets.seq fun _ _ _ _ aligned => idle_aligned (finishCommand_idle _) aligned
  · next failed =>
    have aligned := (moved.resolve_left fun worked => failed worked.1).2
    exact idle_aligned (finishCommand_idle _) aligned

/-- The names of the commands of the unit are reserved. -/
theorem findCommand_reserved {registry : CommandRegistry.Registry} {appId action : Text}
    (reserved : action = lit "start" ∨ action = lit "stop") :
    CommandRegistry.findCommand registry appId action = .error (-einval) := by
  have refused : CommandRegistry.nameValid action = false := by
    rcases reserved with rfl | rfl <;> decide
  simp [CommandRegistry.findCommand, refused]

theorem handleAppCommand_aligned
    (asked : request.action = lit "start" ∨ request.action = lit "stop")
    (aligned : Aligned world) :
    Turns (fun _ after => Aligned after) (handleAppCommand config request) replies world := by
  have short := Nat.le_of_lt_succ request.appId.fits
  have finds : Turns (fun found after => found = .error (-einval) ∧ Aligned after)
      (AppCommand.perform (.findCommand request.appId.text request.action) :
        CommandM (Except Int CommandRegistry.Desc)) replies world :=
    ⟨trivial, fun _ _ => ⟨trivial, findCommand_reserved asked, aligned⟩⟩
  have starts : ∀ {replies : List AppCommand.Answer} {world : World}, Aligned world →
      Turns (fun ret after => ret = 0 ∧ Moved request.appId.text true after ∨
        ret ≠ 0 ∧ Aligned after)
        (AppCommand.perform (.service (.runtimeStart request.appId.text
          (requestStartArgs request).text)) : CommandM Int) replies world :=
    fun aligned => ⟨trivial, fun _ spares => ⟨trivial, start_moves _ short spares aligned⟩⟩
  have stops : ∀ {replies : List AppCommand.Answer} {world : World}, Aligned world →
      Turns (fun ret after => ret = 0 ∧ Moved request.appId.text false after ∨
        ret ≠ 0 ∧ Aligned after)
        (AppCommand.perform (.service (.runtimeStop request.appId.text)) : CommandM Int)
        replies world :=
    fun aligned => ⟨trivial, fun _ _ => ⟨trivial, stop_moves short aligned⟩⟩
  refine finds.seq fun found after left _ reserved => ?_
  obtain ⟨rfl, aligned⟩ := reserved
  refine (idle_aligned requireControl_idle aligned).seq fun held after left _ aligned => ?_
  split
  · exact .pure trivial aligned
  split
  · exact runtimeCommand_aligned (starts aligned)
  split
  · exact runtimeCommand_aligned (stops aligned)
  · next other_start other_stop => exact (asked.elim other_start other_stop).elim

end Command

/-- The requests a run is made of: start and stop, and requests to the update service, of
which those that exchange a version succeed, for applications that support commands. -/
def InScope (config : Config) (device : Device) : Turn → Prop
  | .update request outcomes =>
      Meets serviceMachine (fun event => supportsCallback event) outcomes
          (UpdateWorld.serve config request device.memory) device.world ∧
        (asksSwitch request = true →
          succeeded (Turn.take config device (.update request outcomes)).memory = true)
  | .command request _ => request.action = lit "start" ∨ request.action = lit "stop"

/-- No start of a request suspends an application that has commands. -/
def SparesCommands (config : Config) (device : Device) : Turn → Prop
  | .update request outcomes =>
      Meets serviceMachine (fun event => serviceSpares event) outcomes
        (UpdateWorld.serve config request device.memory) device.world
  | .command request outcomes =>
      Meets AppCommand.machine (fun event => commandSpares event) outcomes
        (handleAppCommand config request []) device.world

theorem take_aligned {config : Config} {device : Device} {turn : Turn}
    (aligned : Aligned device.world) (scope : InScope config device turn)
    (spares : SparesCommands config device turn) : Aligned (turn.take config device).world := by
  cases turn with
  | update request outcomes =>
      have settles : Leaves (fun _ => Settled request) (UpdateWorld.serve config request)
          device.memory device.world := serve_settles request aligned
      exact settles.run outcomes (fun event member => ⟨spares event member, scope.1 event member⟩)
        scope.2
  | command request outcomes =>
      exact (handleAppCommand_aligned scope aligned).run outcomes spares

/-- After every request of a run in which no start suspends an application with commands,
a command is enabled exactly while its application runs. -/
theorem command_follows (config : Config) (device : Device)
    (empty : device.world.registry = CommandRegistry.init) (turns : List Turn)
    (scope : Obeys (Turn.take config) (InScope config) device turns)
    (spares : Obeys (Turn.take config) (SparesCommands config) device turns) :
    ∀ command ∈ entries (after config device turns).world.registry, ∀ app,
      findApp (after config device turns).world.unit.runtime command.appId.text = some app →
        (command.state = .enabled ↔ app.state = .running) := by
  have start : Aligned device.world := by
    intro command member
    rw [empty, CommandRegistry.init, SlotTable.entries_empty] at member
    cases member
  have aligned : Aligned (after config device turns).world :=
    (scope.both spares).keeps (fun _ _ aligned conditions =>
      take_aligned aligned conditions.1 conditions.2) start
  exact fun command member => (aligned command member).2

instance (config : Config) (device : Device) (turn : Turn) :
    Decidable (InScope config device turn) :=
  match turn with
  | .update request outcomes => inferInstanceAs (Decidable ((∀ event ∈ events serviceMachine
      outcomes (UpdateWorld.serve config request device.memory) device.world,
      supportsCallback event = true) ∧ (asksSwitch request = true →
        succeeded (Turn.take config device (.update request outcomes)).memory = true)))
  | .command request _ => inferInstanceAs
      (Decidable (request.action = lit "start" ∨ request.action = lit "stop"))

instance (config : Config) (device : Device) (turn : Turn) :
    Decidable (SparesCommands config device turn) :=
  match turn with
  | .update request outcomes => inferInstanceAs (Decidable (∀ event ∈ events serviceMachine
      outcomes (UpdateWorld.serve config request device.memory) device.world,
      serviceSpares event = true))
  | .command request outcomes => inferInstanceAs (Decidable (∀ event ∈ events AppCommand.machine
      outcomes (handleAppCommand config request []) device.world, commandSpares event = true))

def valve : App where
  name := copyBounded (lit "valve")
  path := copyBounded (lit "/apps/valve")
  image := [1]
  callbacks := loadsWell.callbacks
  state := .initialized
  priority := 0
  autoSuspended := false

def valveDevice (maxRunningApps : Nat) : Device where
  memory := UpdateWorld.booted
  world := ⟨{ UpdateWorld.demoDevice.world with
    runtime := { UpdateWorld.demoRuntime with
      apps := [valve], policy := ⟨4, maxRunningApps, true⟩ } }, CommandRegistry.init⟩

def appRequest (appId action : String) : Request :=
  { UpdateWorld.demoRequest action "" with appId := copyBounded (lit appId) }

/-- An application of lower priority is installed, and then the second one started. -/
def valveTurns : List Turn :=
  .update none [] :: CommandPresence.install [1, 1] { loadsWell with priority := 10 } ++
    [.command (appRequest "valve" "start") []]

/-- With room for both, each command follows its application. -/
theorem valveTurns_follow :
    let device := after UpdateWorld.demoConfig (valveDevice 2) valveTurns
    ∀ command ∈ entries device.world.registry, ∀ app,
      findApp device.world.unit.runtime command.appId.text = some app →
        (command.state = .enabled ↔ app.state = .running) :=
  command_follows UpdateWorld.demoConfig (valveDevice 2) rfl valveTurns (by decide +kernel)
    (by decide +kernel)

/-- With room for one, the first application is suspended and its command stays enabled. -/
theorem valveTurns_suspend :
    ¬ ∀ (config : Config) (device : Device) (turns : List Turn),
      device.world.registry = CommandRegistry.init →
        Obeys (Turn.take config) (InScope config) device turns →
          ∀ command ∈ entries (after config device turns).world.registry, ∀ app,
            findApp (after config device turns).world.unit.runtime command.appId.text =
                some app →
              (command.state = .enabled ↔ app.state = .running) := by
  intro claimed
  have follows := claimed UpdateWorld.demoConfig (valveDevice 1) valveTurns rfl
    (by decide +kernel)
  have left : ∃ command ∈ entries
      (after UpdateWorld.demoConfig (valveDevice 1) valveTurns).world.registry,
      command.state = .enabled ∧ (findApp
        (after UpdateWorld.demoConfig (valveDevice 1) valveTurns).world.unit.runtime
        command.appId.text).any (fun app => app.state ≠ .running) = true := by
    decide +kernel
  obtain ⟨command, member, enabled, idle⟩ := left
  obtain ⟨app, found, stopped⟩ := (Option.any_eq_true _ _).mp idle
  exact of_decide_eq_true stopped ((follows command member app found).mp enabled)

end NeuroLink.CommandAvailability
