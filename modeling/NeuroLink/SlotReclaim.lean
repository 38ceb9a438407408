import NeuroLink.LoadedView
import NeuroLink.UpdateRecovery

/-!
Giving an update slot back. Prepare takes a slot before it downloads anything, and
delete gives one back only where the artifact store still knows the application and the
file is still there, so an entry whose prepare failed can stay for good.
-/

namespace NeuroLink.SlotReclaim

open CText EffectProgram MemoryProgram UpdateManager UpdateService UpdateTables UpdateWorld
  UpdateGuard UpdateRecovery
open LoadedView (reportsLoaded)
open RuntimeCapacity (names)

/-- The lease is held, a file is removed wherever there is one, and the seed is saved. -/
def deletesWell (event : Event Effect EffectReply World) : Bool :=
  match event with
  | ⟨.requireResource _ _, _, reply, _⟩ => decide (reply = (0 : Int))
  | ⟨.file (.unlink path), before, reply, _⟩ =>
      decide (reply = (FileSystem.step .works (.unlink path) before.volume).1)
  | ⟨.saveSeed _, _, reply, _⟩ => decide (reply = (0 : Int))
  | _ => true

/-- The request is answered with success, and the application is in neither manager. -/
structure Reclaimed (appId : Text) (before after : Memory) : Prop where
  accepted : ∃ reply, after.replies = before.replies ++ [.accepted (lit "delete") reply]
  update : entryFor after.updates appId = none
  artifact : ArtifactStore.get after.artifacts appId = none

/-- The artifact store knows the application, and the file it names is there. -/
def Removable (memory : Memory) (world : World) (appId : Text) : Prop :=
  ∃ artifact, ArtifactStore.get memory.artifacts appId = some artifact ∧
    world.volume artifact.path.text ≠ none

section Delete

variable {config : Config} {request : Request} {memory : Memory} {world : World}

theorem error_unreclaimed {appId : Text} {before after : Memory} {message : Text}
    {statusCode : Nat} (answered : after.replies = before.replies ++ [.error message statusCode]) :
    ¬ Reclaimed appId before after := by
  intro reclaimed
  obtain ⟨reply, accepted⟩ := reclaimed.accepted
  rw [answered] at accepted
  have same := List.append_cancel_left accepted
  cases same

theorem failDelete_unreclaimed (detail message : String) (statusCode : Nat) :
    Keeps machine (fun event => deletesWell event) (fun _ => True)
      (fun _ after _ => ¬ Reclaimed request.appId.text memory after)
      (failDelete request.appId.text detail message statusCode) memory world :=
  .bind (call_keeps (.publishUpdateEvent _ _ _ _) trivial fun _ _ =>
    ⟨trivial, .edit trivial (error_unreclaimed rfl)⟩)

theorem lease_held (resource : Text) (metadata : RequestMetadata) :
    Keeps machine (fun event => deletesWell event) (fun _ => True)
      (fun held after left => held = true ∧ after = memory ∧ left = world)
      (requireResourceLeaseOrReply resource metadata) memory world := by
  have asked : Keeps machine (fun event => deletesWell event) (fun _ => True)
      (fun ret after left => ret = 0 ∧ after = memory ∧ left = world)
      (perform (.requireResource resource metadata) : ServiceM Int) memory world :=
    call_keeps (.requireResource resource metadata) trivial fun _ held =>
      ⟨trivial, of_decide_eq_true held, rfl, rfl⟩
  refine asked.seq fun ret after left _ done => ?_
  obtain ⟨rfl, rfl, rfl⟩ := done
  change Keeps machine _ _ _ (Pure.pure true) after left
  exact .pure trivial ⟨rfl, rfl, rfl⟩

theorem persist_saves (memory : Memory) (initialized : memory.seedInitialized = true)
    (tidy : Tidy config memory.updates memory.artifacts) :
    Keeps machine (fun event => deletesWell event) (fun _ => True)
      (fun saved after _ => saved = 0 ∧ after = memory) persistRecoverySeedSnapshot
      memory world := by
  have ready : Keeps machine (fun event => deletesWell event) (fun _ => True)
      (fun ret after _ => ret = 0 ∧ after = memory) ensureRecoverySeedInitialized
      memory world := by
    refine inspect_keeps ?_
    rw [if_pos initialized]
    exact .pure trivial ⟨rfl, rfl⟩
  refine ready.seq fun ret after left _ done => ?_
  obtain ⟨rfl, rfl⟩ := done
  rw [if_neg (by simp)]
  refine inspect_keeps ?_
  obtain ⟨snapshot, built, _⟩ := snapshot_built tidy
  rw [built]
  exact call_keeps (.saveSeed snapshot) trivial fun _ saved =>
    ⟨trivial, of_decide_eq_true saved, rfl⟩

theorem forgetApp_reclaims (initialized : memory.seedInitialized = true)
    (tidy : Tidy config memory.updates memory.artifacts) (named : request.appId.text ≠ [])
    (path : Text) :
    Keeps machine (fun event => deletesWell event) (fun _ => True)
      (fun _ after _ => Reclaimed request.appId.text memory after)
      (forgetApp config request path) memory world := by
  have forgotten := tidy.forgotten named
  have update := (remove_effect tidy.unique named).own
  have artifact : ArtifactStore.get
      (ArtifactStore.remove memory.artifacts request.appId.text).2 request.appId.text = none := by
    rw [ArtifactStore.get, if_neg named]
    by_contra stored
    exact forgotten.recorded stored update
  unfold forgetApp
  refine artifacts_keeps (updates_keeps ?_)
  refine perform_keeps (.removeAppCommands _) trivial fun _ _ => ⟨trivial, ?_⟩
  refine (persist_saves { memory with
    artifacts := (ArtifactStore.remove memory.artifacts request.appId.text).2
    updates := (remove memory.updates request.appId.text).2 } initialized forgotten).seq
    fun saved after left _ done => ?_
  obtain ⟨rfl, rfl⟩ := done
  rw [if_neg (by simp)]
  refine perform_keeps (.publishUpdateEvent _ _ _ _) trivial fun _ _ => ⟨trivial, ?_⟩
  refine perform_keeps .publishStateEvent trivial fun _ _ => ⟨trivial, .edit trivial ?_⟩
  exact ⟨⟨_, rfl⟩, (entryFor_entryOf named).trans update, artifact⟩

/-- A delete of an application that is not loaded gives its slot back if and only if
there is an artifact to remove. -/
theorem delete_reclaims (initialized : memory.seedInitialized = true)
    (tidy : Tidy config memory.updates memory.artifacts) (removes : config.removeAvailable)
    (unloaded : request.appId.text ∉ names world.runtime) :
    Keeps machine (fun event => deletesWell event) (fun _ => True)
      (fun _ after _ => Reclaimed request.appId.text memory after ↔
        Removable memory world request.appId.text)
      (handleUpdateDelete config request) memory world := by
  -- every exit but the last answers an error, and there is then nothing to remove
  have fails : ∀ detail message statusCode left, ¬ Removable memory world request.appId.text →
      Keeps machine (fun event => deletesWell event) (fun _ => True)
        (fun _ after _ => Reclaimed request.appId.text memory after ↔
          Removable memory world request.appId.text)
        (failDelete request.appId.text detail message statusCode) memory left :=
    fun _ _ _ _ missing => (failDelete_unreclaimed _ _ _).weaken (fun _ => id)
      fun _ _ _ _ unreclaimed => iff_of_false unreclaimed missing
  have unseen : reportsLoaded world.runtime request.appId.text = false :=
    LoadedView.unloaded_unseen unloaded
  have loaded : Keeps machine (fun event => deletesWell event) (fun _ => True)
      (fun loaded after left => loaded = false ∧ after = memory ∧ left = world)
      (runtimeAppIsLoaded request.appId.text) memory world :=
    .bind (call_keeps .runtimeStatus trivial fun _ _ =>
      ⟨trivial, .pure trivial ⟨unseen, rfl, rfl⟩⟩)
  unfold handleUpdateDelete
  refine (lease_held _ _).seq fun held after left _ done => ?_
  obtain ⟨rfl, rfl, rfl⟩ := done
  rw [if_neg (by simp)]
  refine loaded.seq fun seen after left _ done => ?_
  obtain ⟨rfl, rfl, rfl⟩ := done
  rw [if_neg (by simp)]
  refine inspect_keeps ?_
  rw [if_neg (by simp [removes])]
  cases stored : ArtifactStore.get after.artifacts request.appId.text with
  | none =>
      rw [if_pos rfl]
      refine fails _ _ _ _ ?_
      rintro ⟨artifact, there, _⟩
      rw [stored] at there
      cases there
  | some artifact =>
      rw [if_neg (by simp)]
      have named : request.appId.text ≠ [] := by
        intro empty
        rw [ArtifactStore.get, if_pos empty] at stored
        cases stored
      have located : artifact.path.text = appPath config request.appId.text :=
        located_get tidy.located stored
      have path : (deletePath config (some artifact) request.appId.text).text =
          artifact.path.text := by
        rw [← stored, deletePath_located tidy.located (by simp [stored]), located]
      -- an `unlink` that works well answers zero exactly where a node is
      have unlinks : Keeps machine (fun event => deletesWell event) (fun _ => True)
          (fun ret same _ => same = after ∧ (ret = 0 ↔ left.volume artifact.path.text ≠ none))
          (perform (.file (.unlink artifact.path.text)) : ServiceM Int) after left := by
        refine call_keeps (.file (.unlink artifact.path.text)) trivial fun outcome valid => ?_
        have answered : (step outcome (.file (.unlink artifact.path.text)) left).1 =
            (FileSystem.step .works (.unlink artifact.path.text) left.volume).1 :=
          of_decide_eq_true valid
        rw [answered]
        refine ⟨trivial, rfl, ?_⟩
        cases there : left.volume artifact.path.text with
        | none => simp [FileSystem.step, FileSystem.perform, there, Errno.enoent]
        | some node => simp [FileSystem.step, FileSystem.perform, there]
      rw [path]
      refine unlinks.seq fun ret same gone _ done => ?_
      obtain ⟨rfl, removed⟩ := done
      by_cases failed : ret ≠ 0
      · rw [if_pos failed]
        refine fails _ _ _ _ ?_
        rintro ⟨other, there, node⟩
        rw [stored] at there
        cases there
        exact failed (removed.mpr node)
      · rw [if_neg failed]
        have removable : Removable same left request.appId.text :=
          ⟨artifact, stored, removed.mp (not_not.mp failed)⟩
        exact (forgetApp_reclaims initialized tidy named _).weaken (fun _ => id)
          fun _ _ _ _ reclaimed => iff_of_true reclaimed removable

end Delete

/-- In every state that turns can lead to, a delete of an application that is on record
and not loaded, which holds its lease and can remove files and save the seed, gives the
slot back if and only if the artifact store knows the application and its file is there. -/
theorem reclaimed_iff (config : Config) (volume : FileSystem.Volume)
    (runtime : AppRuntime.Runtime) (turns : List Turn) (request : Request)
    (outcomes : List Outcome) (removes : config.removeAvailable)
    (delete : request.action = lit "delete")
    (recorded : entryFor (after config (fresh volume runtime) turns).memory.updates
      request.appId.text ≠ none)
    (unloaded : request.appId.text ∉
      names (after config (fresh volume runtime) turns).world.runtime)
    (works : Meets machine (fun event => deletesWell event) outcomes
      (serve config (some request) (after config (fresh volume runtime) turns).memory)
      (after config (fresh volume runtime) turns).world) :
    let device := after config (fresh volume runtime) turns
    Reclaimed request.appId.text device.memory
        (run machine outcomes (serve config (some request) device.memory) device.world).1.2 ↔
      Removable device.memory device.world request.appId.text := by
  intro device
  have sane : Sane config device := after_sane volume runtime turns
  have initialized : device.memory.seedInitialized = true := by
    by_contra closed
    refine recorded ?_
    rw [(sane.idle (by simpa using closed)).2]
    exact entryFor_init _
  have keeps : Keeps machine (fun event => deletesWell event) (fun _ => True)
      (fun _ after _ => Reclaimed request.appId.text device.memory after ↔
        Removable device.memory device.world request.appId.text)
      (serve config (some request)) device.memory device.world := by
    refine inspect_keeps ?_
    rw [if_pos initialized, handleAction, delete]
    exact delete_reclaims initialized sane.tidy removes unloaded
  exact keeps.run outcomes works

/-- A prepared application gives its slot back. -/
theorem prepared_reclaimed :
    let device := after demoConfig demoDevice preparedTurns
    Reclaimed (lit "pump") device.memory
      (run machine [] (serve demoConfig (some (demoRequest "delete" "")) device.memory)
        device.world).1.2 := by
  intro device
  have recorded : entryFor device.memory.updates (lit "pump") ≠ none := by decide +kernel
  have works : ∀ event ∈ events machine []
      (serve demoConfig (some (demoRequest "delete" "")) device.memory) device.world,
      deletesWell event = true := by
    decide +kernel
  have there : (ArtifactStore.get device.memory.artifacts (lit "pump")).any (fun artifact =>
      (device.world.volume artifact.path.text).isSome) = true := by
    decide +kernel
  obtain ⟨artifact, stored, node⟩ := (Option.any_eq_true _ _).mp there
  exact (reclaimed_iff demoConfig (fun _ => none) demoRuntime preparedTurns
    (demoRequest "delete" "") [] rfl rfl recorded (by decide +kernel) works).mpr
    ⟨artifact, stored, Option.isSome_iff_ne_none.mp node⟩

def refusedTurns : List Turn :=
  [.serve none [], .serve (some (demoRequest "prepare" "")) []]

/-- Its entry is on record, and a delete in which everything works does not remove it. -/
theorem refused_stays :
    ¬ ∀ (config : Config) (volume : FileSystem.Volume) (runtime : AppRuntime.Runtime)
        (turns : List Turn) (request : Request) (outcomes : List Outcome),
      config.removeAvailable → request.action = lit "delete" →
      entryFor (after config (fresh volume runtime) turns).memory.updates
        request.appId.text ≠ none →
      request.appId.text ∉ names (after config (fresh volume runtime) turns).world.runtime →
      Meets machine (fun event => deletesWell event) outcomes
        (serve config (some request) (after config (fresh volume runtime) turns).memory)
        (after config (fresh volume runtime) turns).world →
      Reclaimed request.appId.text (after config (fresh volume runtime) turns).memory
        (run machine outcomes
          (serve config (some request) (after config (fresh volume runtime) turns).memory)
          (after config (fresh volume runtime) turns).world).1.2 := by
  intro claimed
  have recorded : entryFor (after demoConfig demoDevice refusedTurns).memory.updates
      (lit "pump") ≠ none := by
    decide +kernel
  have works : ∀ event ∈ events machine []
      (serve demoConfig (some (demoRequest "delete" ""))
        (after demoConfig demoDevice refusedTurns).memory)
      (after demoConfig demoDevice refusedTurns).world, deletesWell event = true := by
    decide +kernel
  have reclaimed := claimed demoConfig (fun _ => none) demoRuntime refusedTurns
    (demoRequest "delete" "") [] rfl rfl recorded (by decide +kernel) works
  have kept : entryFor (run machine []
      (serve demoConfig (some (demoRequest "delete" ""))
        (after demoConfig demoDevice refusedTurns).memory)
      (after demoConfig demoDevice refusedTurns).world).1.2.updates (lit "pump") ≠ none := by
    decide +kernel
  exact kept reclaimed.update

end NeuroLink.SlotReclaim
