import NeuroLink.UpdateGuard

/-!
Invariants of whole runs. Between two turns a unit is either idle, with empty managers
that no gate has filled yet, or its memory and its world meet a guard. The gate leads
from the one to the other, and a power loss back.
-/

namespace NeuroLink.UpdateRuns

open CText EffectProgram MemoryProgram UpdateManager UpdateService UpdateTables UpdateWorld
  UpdateGuard

section Gate

variable {config : Config} {tables : Manager → ArtifactStore.Store → Prop}
  {joint : Memory → World → Prop} {safe : World → Prop} {free : Text → Memory → World → Prop}

theorem runtimeAppIsActive_guarded (base : Base joint safe) (appId : Text) :
    Guarded joint safe (runtimeAppIsActive appId) :=
  .bind (.call base fun _ world => ⟨world.runtime, rfl⟩) fun _ => .pure base _

theorem artifactAvailable_guarded (base : Base joint safe)
    (found : Option ArtifactStore.Meta) : Guarded joint safe (artifactAvailable found) := by
  cases found with
  | none => exact .pure base false
  | some artifact =>
      unfold artifactAvailable artifactPathAvailable
      dsimp only
      split
      · exact .pure base false
      · refine .bind (.call base (stat_quiet _)) fun found => ?_
        cases found with
        | error error => exact .pure base _
        | ok ent => exact .pure base _

theorem reconcileEntry_guarded (guard : Guard config tables joint safe free) (entry : Entry) :
    Guarded joint safe (reconcileEntry entry) := by
  have base := guard.toBase
  have reconciles : ∀ runtimeActive available, Guarded joint safe (updates fun manager =>
      reconcileAfterBoot manager entry.appId.text runtimeActive available) :=
    fun _ _ => updates_guarded guard fun _ unique => reconcile_calm _ _ _ unique
  refine .bind (.inspect base) fun memory => .bind (runtimeAppIsActive_guarded base _) fun _ =>
    .bind (artifactAvailable_guarded base _) fun _ => .bind (reconciles _ _) fun ret =>
    .bind (.inspect base) fun memory => ?_
  split
  · exact publish_guarded base _ _ _ _
  · exact .pure base ()

theorem reconcileEntries_guarded (guard : Guard config tables joint safe free)
    (entries : List Entry) :
    Guarded joint safe (reconcileEntries entries) := by
  induction entries with
  | nil => exact .pure guard.toBase ()
  | cons entry rest ih => exact .bind (reconcileEntry_guarded guard entry) fun _ => ih

theorem reconcileRecoverySeedAfterBoot_guarded (guard : Guard config tables joint safe free) :
    Guarded joint safe reconcileRecoverySeedAfterBoot :=
  .bind (.inspect guard.toBase) fun _ => .bind (reconcileEntries_guarded guard _) fun _ =>
    .bind (saveSnapshot_guarded guard) fun _ => .pure guard.toBase ()

def opened (replies : List Answer) : Memory :=
  { booted with seedInitialized := true, replies := replies }

def restored (snapshot : RecoverySeed.Snapshot) (replies : List Answer) : Memory :=
  let applied := SeedSnapshot.applySnapshot snapshot UpdateManager.init ArtifactStore.init
  { updates := applied.2.1, artifacts := applied.2.2, seedInitialized := true,
    replies := replies }

structure Boots (joint : Memory → World → Prop) (safe idle : World → Prop) : Prop where
  safe : ∀ {world}, idle world → safe world
  runtime : ∀ {world} runtime, idle world → idle { world with runtime := runtime }
  opens : ∀ {world} replies, idle world → joint (opened replies) world
  applies : ∀ {world snapshot} replies, idle world → world.seed = some snapshot →
    (SeedSnapshot.applySnapshot snapshot UpdateManager.init ArtifactStore.init).1 = 0 ∧
      joint (restored snapshot replies) world

structure Between (joint : Memory → World → Prop) (idle : World → Prop) (memory : Memory)
    (world : World) : Prop where
  ready : memory.seedInitialized = true → joint memory world
  idle : memory.seedInitialized = false →
    idle world ∧ memory = { booted with replies := memory.replies }

variable {idle : World → Prop}

theorem Between.of_joint (guard : Guard config tables joint safe free) {memory : Memory}
    {world : World} (start : joint memory world) : Between joint idle memory world :=
  ⟨fun _ => start, fun closed => absurd (guard.initialized start) (by simp [closed])⟩

theorem loadSeed_keeps {world : World} (kept : safe world) (memory : Memory) :
    Keeps machine (fun _ => True) safe
      (fun loaded after left => after = memory ∧ left = world ∧
        ∀ snapshot, loaded = .ok snapshot → world.seed = some snapshot)
      (perform .loadSeed : ServiceM (Except Int RecoverySeed.Snapshot)) memory world := by
  refine call_keeps .loadSeed kept fun outcome _ => ?_
  dsimp only [step]
  split
  · exact ⟨kept, rfl, rfl, fun snapshot same => nomatch same⟩
  · cases seed : world.seed with
    | none => exact ⟨kept, rfl, rfl, fun snapshot same => nomatch same⟩
    | some saved => exact ⟨kept, rfl, rfl, fun snapshot same => by cases same; rfl⟩

theorem gate_keeps (guard : Guard config tables joint safe free) (boots : Boots joint safe idle)
    {world : World} (start : idle world) (replies : List Answer) :
    Keeps machine (fun _ => True) safe (fun _ after left => Between joint idle after left)
      ensureRecoverySeedInitialized { booted with replies := replies } world := by
  have kept := boots.safe start
  have leaves : ∀ {Result : Type} {service : ServiceM Result} {memory left},
      Guarded joint safe service → joint memory left →
      Keeps machine (fun _ => True) safe (fun _ after left => Between joint idle after left)
        service memory left := fun guarded ready =>
    (guarded _ _ ready).weaken (fun _ => id) fun _ _ _ _ => .of_joint guard
  have reports : ∀ stage status detail, Guarded joint safe
      (do publishUpdateEvent (lit "system") stage status detail; return (0 : Int)) :=
    fun _ _ _ => .bind (publish_guarded guard.toBase _ _ _ _) fun _ => .pure guard.toBase 0
  have mounts : ∀ memory, Keeps machine (fun _ => True) safe
      (fun _ after left => after = memory ∧ left = world)
      (perform .storageMount : ServiceM Int) memory world := fun _ =>
    call_keeps .storageMount kept fun _ _ => ⟨kept, rfl, rfl⟩
  refine inspect_keeps ?_
  rw [if_neg (by simp [booted])]
  refine (mounts _).seq fun ret after left _ same => ?_
  rw [same.1, same.2]
  split
  · exact .pure kept ⟨(nomatch ·), fun _ => ⟨start, rfl⟩⟩
  -- from here on the seed counts as initialized, whatever the load gives
  refine .bind (.edit kept ?_)
  change Keeps machine _ _ _ _ (opened replies) world
  refine (loadSeed_keeps kept _).seq fun loaded after left _ done => ?_
  rw [done.1, done.2.1]
  have empty := boots.opens replies start
  cases loaded with
  | error error =>
      dsimp only
      split
      · exact leaves (reports _ _ _) empty
      · exact leaves (.pure guard.toBase 0) empty
  | ok snapshot =>
      obtain ⟨applied, ready⟩ := boots.applies replies start (done.2.2 snapshot rfl)
      have applying : Keeps machine (fun _ => True) safe
          (fun ret after left => ret = 0 ∧ after = restored snapshot replies ∧ left = world)
          (applySnapshot snapshot) (opened replies) world := .edit kept ⟨applied, rfl, rfl⟩
      refine applying.seq fun ret after left _ same => ?_
      rw [same.1, same.2.1, same.2.2, if_pos rfl]
      exact leaves (.bind (reconcileRecoverySeedAfterBoot_guarded guard) fun _ => reports _ _ _)
        ready

end Gate

section Turns

variable {config : Config} {tables : Manager → ArtifactStore.Store → Prop}
  {joint : Memory → World → Prop} {safe idle : World → Prop} {free : Text → Memory → World → Prop}

def served : Turn → Option Request
  | .serve request _ => request
  | .applications _ => none
  | .powerLoss request .. => request

def Frees (config : Config) (free : Text → Memory → World → Prop) (device : Device)
    (turn : Turn) : Prop :=
  ∀ request, served turn = some request → request.action = lit "prepare" →
    Downloads config request →
    (prepareBegin device.memory.updates request.appId.text).1 = 0 →
    free request.appId.text
      { device.memory with
        updates := (prepareBegin device.memory.updates request.appId.text).2 }
      device.world

theorem closed_keeps (guard : Guard config tables joint safe free) (boots : Boots joint safe idle)
    {device : Device} {turn : Turn} (between : Between joint idle device.memory device.world)
    (closed : device.memory.seedInitialized = false) :
    Keeps machine (fun _ => True) safe (fun _ after left => Between joint idle after left)
      (serve config (served turn)) device.memory device.world := by
  obtain ⟨start, memory⟩ := between.idle closed
  have kept := boots.safe start
  cases asked : served turn with
  | none =>
      have gate := gate_keeps guard boots start device.memory.replies
      rw [← memory] at gate
      exact gate.seq fun _ after left kept between => .pure kept between
  | some request =>
      refine inspect_keeps ?_
      rw [if_neg (by simp [closed])]
      refine .edit kept ⟨fun ready => absurd ready (by simp [closed]), fun _ => ⟨start, ?_⟩⟩
      rw [memory]

theorem serve_keeps (guard : Guard config tables joint safe free) (boots : Boots joint safe idle)
    {device : Device} {turn : Turn} (between : Between joint idle device.memory device.world)
    (frees : Frees config free device turn) :
    Keeps machine (fun _ => True) safe (fun _ after left => Between joint idle after left)
      (serve config (served turn)) device.memory device.world := by
  cases opened : device.memory.seedInitialized with
  | false => exact closed_keeps guard boots between opened
  | true =>
      have ready := between.ready opened
      have kept := guard.safe ready
      have same : Between joint idle device.memory device.world := .of_joint guard ready
      cases asked : served turn with
      | none =>
          refine .bind (.bind (.inspect kept ?_))
          rw [if_pos opened]
          exact .pure kept (.pure kept same)
      | some request =>
          refine inspect_keeps ?_
          rw [if_pos opened]
          exact (handleAction_keeps guard ready fun prepare => frees request asked prepare).weaken
            (fun _ => id) fun _ _ _ _ => .of_joint guard

/-- A turn leads from one state between turns to another. A power loss does so where
what it finds is enough for an idle unit. -/
theorem take_between (guard : Guard config tables joint safe free) (boots : Boots joint safe idle)
    {device : Device} {turn : Turn} (between : Between joint idle device.memory device.world)
    (frees : Frees config free device turn)
    (survives : ∀ request outcomes calls runtime, turn = .powerLoss request outcomes calls runtime →
      ∀ {world}, safe world → idle world) :
    Between joint idle (turn.take config device).memory (turn.take config device).world := by
  have keeps := serve_keeps guard boots between frees
  cases turn with
  | serve request outcomes => exact keeps.run outcomes fun _ _ => trivial
  | applications runtime =>
      refine ⟨fun opened => guard.runtime runtime (between.ready opened), fun closed => ?_⟩
      obtain ⟨start, memory⟩ := between.idle closed
      exact ⟨boots.runtime runtime start, memory⟩
  | powerLoss request outcomes calls runtime =>
      refine ⟨(nomatch ·), fun _ => ⟨boots.runtime runtime ?_, rfl⟩⟩
      have cut := keeps.states outcomes fun _ _ => trivial
      have start := keeps.start
      rw [List.getD_eq_getElem?_getD]
      cases there : (states machine outcomes (UpdateWorld.serve config request device.memory)
          device.world)[calls]? with
      | none => exact survives _ _ _ _ rfl start
      | some world => exact survives _ _ _ _ rfl (cut world (List.mem_of_getElem? there))

end Turns

end NeuroLink.UpdateRuns
