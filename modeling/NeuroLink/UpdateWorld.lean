import NeuroLink.UpdateService

/-!
The surroundings of the update service: the volume, the saved seed and the
application runtime, and what each effect does to them under every outcome. Two
histories go along for the proofs: the content each path had when verify last
accepted it, dropped by whatever may change the file, and the content each
application was last activated from.

A run takes turns: a boot gate, a request, a change of the applications by other
commands, or a power loss at any call of a gate or a request.
-/

namespace NeuroLink.UpdateWorld

open CText Errno EffectProgram FileSystem UpdateService

structure World where
  volume : Volume
  seed : Option RecoverySeed.Snapshot
  runtime : AppRuntime.Runtime
  checked : Text → Option (List UInt8)
  activated : Text → Option (List UInt8)

/-- What the environment makes of one call; each call looks at its own part. A
failed save may still have reached the storage. -/
structure Outcome where
  code : Int
  stored : Bool
  file : FileSystem.Outcome
  allocated : Bool
  chunk : Except Int (List UInt8)
  report : AppRuntime.LoadReport

/-- Every call works; a fetched chunk is one byte. -/
def works : Outcome where
  code := 0
  stored := true
  file := .works
  allocated := true
  chunk := .ok [1]
  report := AppRuntime.loadsWell

instance : Inhabited Outcome := ⟨works⟩

def fileContent (volume : Volume) (path : Text) : Option (List UInt8) :=
  match volume path with
  | some (.file content) => some content
  | _ => none

/-- A file that was written, truncated, removed or renamed is no longer the one that
was checked. -/
def forget (checked : Text → Option (List UInt8)) :
    (op : FileSystem.Op) → FileSystem.Reply op → Text → Option (List UInt8)
  | .openTruncate path, _ => Function.update checked path none
  | .write path _, _ => Function.update checked path none
  | .unlink path, reply => if reply = 0 then Function.update checked path none else checked
  | .rename source target, reply =>
      if reply = 0 then Function.update (Function.update checked source none) target none
      else checked
  | _, _ => checked

/-- One call of the service. -/
def step (outcome : Outcome) : (effect : Effect) → World → EffectReply effect × World
  | .requireResource _ _, world => (outcome.code, world)
  | .file op, world =>
      let answer := FileSystem.step outcome.file op world.volume
      (answer.1, { world with volume := answer.2, checked := forget world.checked op answer.1 })
  | .openAuxSession, world => (outcome.code, world)
  | .closeAuxSession, world => ((), world)
  | .allocate _, world => (outcome.allocated, world)
  | .fetchChunk _ _ _, world => (outcome.chunk, world)
  | .runtimeStatus, world => (AppRuntime.status world.runtime, world)
  | .runtimeLoad appId path, world =>
      let answer := AppRuntime.load outcome.report world.volume appId path world.runtime
      (answer.1, { world with runtime := answer.2 })
  | .runtimeStart appId startArgs, world =>
      let answer := AppRuntime.start appId startArgs world.runtime
      (answer.1, { world with runtime := answer.2 })
  | .runtimeStop appId, world =>
      let answer := AppRuntime.stop appId world.runtime
      (answer.1, { world with runtime := answer.2 })
  | .runtimeUnload appId, world =>
      let answer := AppRuntime.unload appId world.runtime
      (answer.1, { world with runtime := answer.2 })
  | .lastException, world => (world.runtime.lastException, world)
  | .storageMount, world => (outcome.code, world)
  | .loadSeed, world =>
      if outcome.code ≠ 0 then (.error outcome.code, world)
      else
        match world.seed with
        | some snapshot => (.ok snapshot, world)
        | none => (.error (-enoent), world)
  | .saveSeed snapshot, world =>
      if outcome.code = 0 ∨ outcome.stored then
        (outcome.code, { world with seed := some snapshot })
      else (outcome.code, world)
  | .publishUpdateEvent .., world => ((), world)
  | .publishStateEvent, world => ((), world)
  | .registerAppCallbackCommand _, world => ((), world)
  | .removeAppCommands _, world => ((), world)
  | .mark (.verified path), world =>
      ((), { world with
        checked := Function.update world.checked path (fileContent world.volume path) })
  | .mark (.activated appId), world =>
      ((), { world with
        activated :=
          Function.update world.activated appId (AppRuntime.imageOf world.runtime appId) })

def machine : Machine Effect EffectReply World Outcome := ⟨step⟩

section Rules

open MemoryProgram

variable {allowed : Event Effect EffectReply World → Prop} {inv : World → Prop}
  {Result : Type} {post : Result → Memory → World → Prop} {memory : Memory} {world : World}

/-- The rule of a call: every allowed answer keeps the invariant, and the rest goes
on from it. -/
theorem perform_keeps (effect : Effect) {rest : EffectReply effect → ServiceM Result}
    (kept : inv world)
    (continues : ∀ outcome, allowed ⟨effect, world, (step outcome effect world).1,
        (step outcome effect world).2⟩ →
      inv (step outcome effect world).2 ∧
        Keeps machine allowed inv post (rest (step outcome effect world).1) memory
          (step outcome effect world).2) :
    Keeps machine allowed inv post (perform effect >>= rest) memory world :=
  .bind (.perform kept continues)

theorem call_keeps (effect : Effect) {post : EffectReply effect → Memory → World → Prop}
    (kept : inv world)
    (done : ∀ outcome, allowed ⟨effect, world, (step outcome effect world).1,
        (step outcome effect world).2⟩ →
      inv (step outcome effect world).2 ∧
        post (step outcome effect world).1 memory (step outcome effect world).2) :
    Keeps machine allowed inv post (perform effect) memory world :=
  .perform kept done

theorem updates_keeps {change : UpdateManager.Manager → Int × UpdateManager.Manager}
    {rest : Int → ServiceM Result}
    (continues : Keeps machine allowed inv post (rest (change memory.updates).1)
      { memory with updates := (change memory.updates).2 } world) :
    Keeps machine allowed inv post (updates change >>= rest) memory world :=
  continues

theorem artifacts_keeps {change : ArtifactStore.Store → Int × ArtifactStore.Store}
    {rest : Int → ServiceM Result}
    (continues : Keeps machine allowed inv post (rest (change memory.artifacts).1)
      { memory with artifacts := (change memory.artifacts).2 } world) :
    Keeps machine allowed inv post (artifacts change >>= rest) memory world :=
  continues

theorem inspect_keeps {rest : Memory → ServiceM Result}
    (continues : Keeps machine allowed inv post (rest memory) memory world) :
    Keeps machine allowed inv post (inspect >>= rest) memory world :=
  continues

end Rules

/-- The service with its surroundings. -/
structure Device where
  memory : Memory
  world : World

/-- The memory after a boot. -/
def booted : Memory where
  updates := UpdateManager.init
  artifacts := ArtifactStore.init
  seedInitialized := false
  replies := []

/-- A unit before its first boot: no seed yet, and any files and applications. -/
def fresh (volume : Volume) (runtime : AppRuntime.Runtime) : Device where
  memory := booted
  world := ⟨volume, none, runtime, fun _ => none, fun _ => none⟩

/-- What the dispatcher calls: the gate alone, or a request, which is turned away
until the gate is open. -/
def serve (config : Config) : Option Request → ServiceM Unit
  | none => do
      let _ ← ensureRecoverySeedInitialized
      return ()
  | some request => do
      let memory ← inspect
      if memory.seedInitialized then handleAction config request
      else replyError "recovery seed storage not ready" 503

inductive Turn where
  | serve (request : Option Request) (outcomes : List Outcome)
  | applications (runtime : AppRuntime.Runtime)
  | powerLoss (request : Option Request) (outcomes : List Outcome) (calls : Nat)
      (runtime : AppRuntime.Runtime)

/-- The device after a turn. A power loss leaves the world as it was after so many
calls, as it was before them when there are not that many, and starts over with an
empty memory and other applications. -/
def Turn.take (config : Config) (device : Device) : Turn → Device
  | .serve request outcomes =>
      let done := run machine outcomes (UpdateWorld.serve config request device.memory) device.world
      ⟨done.1.2, done.2⟩
  | .applications runtime => ⟨device.memory, { device.world with runtime := runtime }⟩
  | .powerLoss request outcomes calls runtime =>
      let visited :=
        states machine outcomes (UpdateWorld.serve config request device.memory) device.world
      ⟨booted, { visited.getD calls device.world with runtime := runtime }⟩

def after (config : Config) (device : Device) (turns : List Turn) : Device :=
  turns.foldl (Turn.take config) device

/-- Every turn of a run meets a condition on the device before it. -/
def Obeys (config : Config) (condition : Device → Turn → Prop) (device : Device) :
    List Turn → Prop
  | [] => True
  | turn :: rest =>
      condition device turn ∧ Obeys config condition (turn.take config device) rest

/-- What holds at the start and survives each turn holds after every run. -/
theorem after_induction {config : Config} {condition : Device → Turn → Prop}
    {invariant : Device → Prop}
    (kept : ∀ device turn, invariant device → condition device turn →
      invariant (turn.take config device))
    (turns : List Turn) {device : Device} (start : invariant device)
    (obeys : Obeys config condition device turns) : invariant (after config device turns) := by
  induction turns generalizing device with
  | nil => exact start
  | cons turn rest ih => exact ih (kept device turn start obeys.1) obeys.2

theorem after_invariant {config : Config} {invariant : Device → Prop}
    (kept : ∀ device (turn : Turn), invariant device → invariant (turn.take config device))
    (turns : List Turn) {device : Device} (start : invariant device) :
    invariant (after config device turns) := by
  induction turns generalizing device with
  | nil => exact start
  | cons turn rest ih => exact ih (kept device turn start)

theorem Obeys.and {config : Config} {condition : Device → Turn → Prop} {also : Turn → Prop}
    {turns : List Turn} {device : Device} (obeys : Obeys config condition device turns)
    (all : ∀ turn ∈ turns, also turn) :
    Obeys config (fun device turn => also turn ∧ condition device turn) device turns := by
  induction turns generalizing device with
  | nil => trivial
  | cons turn rest ih =>
      obtain ⟨first, later⟩ := List.forall_mem_cons.mp all
      exact ⟨⟨first, obeys.1⟩, ih obeys.2 later⟩

instance decidableObeys (config : Config) (condition : Device → Turn → Prop)
    [∀ device turn, Decidable (condition device turn)] (device : Device) :
    (turns : List Turn) → Decidable (Obeys config condition device turns)
  | [] => inferInstanceAs (Decidable True)
  | turn :: rest =>
      have := decidableObeys config condition (turn.take config device) rest
      inferInstanceAs (Decidable (condition device turn ∧
        Obeys config condition (turn.take config device) rest))

/-! A unit to try requests on. -/

def demoConfig : Config where
  nodeId := lit "unit-01"
  appsDir := lit "/apps"
  downloadAvailable := true
  removeAvailable := true
  longMax := 2147483647
  sizeModulus := 4294967296

def demoRequest (action payload : String) : Request where
  appId := copyBounded (lit "pump")
  action := lit action
  payload := lit payload
  requestId := lit "req-1"
  metadata := some RequestMetadata.init
  fields := none

def demoRuntime : AppRuntime.Runtime where
  apps := []
  policy := ⟨4, 2, true⟩
  lastException := .cleared
  callbackResults := []

def demoDevice : Device := fresh (fun _ => none) demoRuntime

def preparedTurns : List Turn :=
  [.serve none [], .serve (some (demoRequest "prepare"
    "\x7b\"artifact_key\":\"a\",\"size\":2\x7d")) []]

def installTurns (content : List UInt8) : List Turn :=
  [.serve (some (demoRequest "prepare" "\x7b\"artifact_key\":\"a\",\"size\":2\x7d"))
      (List.replicate 9 { works with chunk := .ok content }),
    .serve (some (demoRequest "verify" "")) [], .serve (some (demoRequest "activate" "")) []]

end NeuroLink.UpdateWorld
