import NeuroLink.RuntimeCapacity
import NeuroLink.ServiceCalls
import NeuroLink.UpdateWorld

/-!
Which applications the update service sees. It asks the runtime for a status, which
lists the first four loaded applications, so an application behind them is taken for
one that is not loaded.
-/

namespace NeuroLink.LoadedView

open CText EffectProgram MemoryProgram AppRuntime UpdateService UpdateWorld ServiceCalls
open RuntimeCapacity (names)

/-- The application is one of those a status lists, if it is loaded at all. -/
def InView (runtime : Runtime) (appId : Text) : Prop :=
  appId ∈ names runtime → appId ∈ (names runtime).take 4

/-- What `runtime_app_is_loaded` answers. -/
def reportsLoaded (runtime : Runtime) (appId : Text) : Bool :=
  appId ≠ [] ∧ (status runtime).any fun app => app.1 = appId

def UnloadsFirst (event : Event Effect EffectReply World) : Prop :=
  match event.op with
  | .runtimeLoad name _ => name ∉ names event.before.runtime
  | _ => True

/-- What the service does with the application of a request as far as it is loaded. -/
structure Sees (config : Config) (request : Request) (memory : Memory) (world : World) :
    Prop where
  exact : ∀ outcomes, (run machine outcomes
    (runtimeAppIsLoaded request.appId.text memory) world).1.1 = true ↔
      request.appId.text ∈ names world.runtime
  deletes : request.appId.text ∈ names world.runtime → ∀ outcomes,
    let done := run machine outcomes (handleUpdateDelete config request memory) world
    done.1.2.updates = memory.updates ∧ done.1.2.artifacts = memory.artifacts ∧
      done.2.volume = world.volume
  activates : ∀ outcomes,
    Meets machine UnloadsFirst outcomes (handleUpdateActivate config request memory) world

theorem reportsLoaded_iff {runtime : Runtime} {appId : Text} (named : [] ∉ names runtime) :
    reportsLoaded runtime appId = true ↔ appId ∈ (names runtime).take 4 := by
  have listed : (status runtime).any (fun app => app.1 = appId) = true ↔
      appId ∈ (names runtime).take 4 := by
    rw [names, ← List.map_take, status, List.any_map, List.any_eq_true]
    simp only [List.mem_map, Function.comp, decide_eq_true_eq]
  simp only [reportsLoaded, decide_eq_true_eq, listed]
  constructor
  · exact And.right
  · intro member
    refine ⟨?_, member⟩
    rintro rfl
    exact named (List.mem_of_mem_take member)

theorem unloaded_unseen {runtime : Runtime} {appId : Text} (unloaded : appId ∉ names runtime) :
    reportsLoaded runtime appId = false := by
  have unlisted : (status runtime).any (fun app => app.1 = appId) = false := by
    refine List.any_eq_false.mpr fun app member same => unloaded ?_
    obtain ⟨loaded, listed, rfl⟩ := List.mem_map.mp member
    rw [← of_decide_eq_true same]
    exact List.mem_map_of_mem (List.mem_of_mem_take listed)
  simp [reportsLoaded, unlisted]

section Calls

variable {good : Event Effect EffectReply World → Prop} {memory : Memory} {world : World}

def Unloading : Effect → Prop
  | .runtimeLoad _ _ => False
  | _ => True

theorem lease_issuing (fine : ∀ event : Event Effect EffectReply World,
      Unloading event.op → good event)
    (resource : Text) (metadata : RequestMetadata) :
    Issuing machine good (fun _ after left => left = world ∧
        after.updates = memory.updates ∧ after.artifacts = memory.artifacts)
      (requireResourceLeaseOrReply resource metadata) memory world := by
  have denied : ∀ (message : String) (statusCode : Nat),
      Issuing machine good (fun _ after left => left = world ∧
          after.updates = memory.updates ∧ after.artifacts = memory.artifacts)
        (do replyError message statusCode; return false) memory world :=
    fun _ _ => ⟨rfl, rfl, rfl⟩
  have asked : Issuing machine good (fun _ after left => after = memory ∧ left = world)
      (perform (.requireResource resource metadata) : ServiceM Int) memory world :=
    .perform fun outcome => ⟨fine ⟨_, _, _, _⟩ trivial, rfl, rfl⟩
  refine asked.seq fun ret after left same => ?_
  obtain ⟨rfl, rfl⟩ := same
  split
  · exact denied _ _
  split
  · exact denied _ _
  split
  · exact denied _ _
  · exact .pure ⟨rfl, rfl, rfl⟩

theorem loaded_issuing (fine : ∀ event : Event Effect EffectReply World,
      Unloading event.op → good event) (appId : Text) :
    Issuing machine good (fun loaded after left =>
        loaded = reportsLoaded world.runtime appId ∧ after = memory ∧ left = world)
      (runtimeAppIsLoaded appId) memory world :=
  fun _ => ⟨fine ⟨_, _, _, _⟩ trivial, rfl, rfl, rfl⟩

end Calls

section Delete

variable {config : Config} {request : Request} {memory : Memory} {world : World}

theorem delete_refused (seen : reportsLoaded world.runtime request.appId.text = true) :
    Issuing machine (fun _ => True) (fun _ after left => after.updates = memory.updates ∧
        after.artifacts = memory.artifacts ∧ left.volume = world.volume)
      (handleUpdateDelete config request) memory world := by
  unfold handleUpdateDelete
  refine (lease_issuing (fun _ _ => trivial) _ _).seq fun held after left same => ?_
  obtain ⟨rfl, updates, artifacts⟩ := same
  split
  · exact .pure ⟨updates, artifacts, rfl⟩
  refine (loaded_issuing (fun _ _ => trivial) _).seq fun loaded after left same => ?_
  obtain ⟨rfl, rfl, rfl⟩ := same
  rw [if_pos seen]
  exact fun _ => ⟨trivial, updates, artifacts, rfl⟩

end Delete

section Activate

variable {config : Config} {request : Request} {memory : Memory} {world : World}

theorem unloading_fine (event : Event Effect EffectReply World) (other : Unloading event.op) :
    UnloadsFirst event := by
  unfold UnloadsFirst
  split
  · next same =>
    rw [same] at other
    exact other.elim
  · trivial

theorem housekeeping_unloading (effect : Effect) (housekeeping : Housekeeping effect) :
    Unloading effect := by
  cases effect with
  | runtimeLoad appId path => exact housekeeping
  | _ => trivial

theorem failActivate_calls (fallback : String) (ret : Int) (appId : Text) :
    CallsOnly Unloading (do
      let detail ← runtimeFailureDetail fallback ret
      failActivate appId detail detail) :=
  (CallsOnly.bind (runtimeFailureDetail_calls fallback ret) fun _ =>
    failStage_calls _ _ _ _ _ _).weaken housekeeping_unloading

theorem recordActivation_calls (path : Text) :
    CallsOnly Unloading (recordActivation config request path) := by
  refine .bind (.edit _) fun _ => .bind (.edit _) fun ret => ?_
  split
  · exact (answer_calls _).weaken housekeeping_unloading
  · exact .bind (.perform trivial) fun _ => .bind (.edit _) fun _ =>
      .bind (persist_calls.weaken housekeeping_unloading) fun _ => .bind (.perform trivial) fun _ =>
      .bind (.perform trivial) fun _ => .bind (.perform trivial) fun _ => .edit _

theorem launchArtifact_issuing (absent : request.appId.text ∉ names world.runtime) :
    Issuing machine UnloadsFirst (fun _ _ _ => True) (launchArtifact config request)
      memory world := by
  have started : ∀ path : Text, CallsOnly Unloading (do
      let ret : Int ← perform (.runtimeStart request.appId.text (requestStartArgs request).text)
      if ret ≠ 0 then
        let detail ← runtimeFailureDetail "activate start failed" ret
        failActivate request.appId.text detail detail
      else
        recordActivation config request path) := by
    refine fun path => .bind (.perform trivial) fun ret => ?_
    split
    · exact failActivate_calls _ _ _
    · exact recordActivation_calls _
  have loads : Issuing machine UnloadsFirst (fun _ _ _ => True)
      (perform (.runtimeLoad request.appId.text
        (buildAppPath config request.appId.text : Buffer 96).text) : ServiceM Int)
      memory world := .perform fun _ => ⟨absent, trivial⟩
  refine loads.seq fun ret after left _ => ?_
  split
  · exact (failActivate_calls _ _ _).issuing unloading_fine after left
  · exact (started _).issuing unloading_fine after left

/-- An activate that sees every application loads into a runtime without its own. -/
theorem activate_unloads (distinct : (names world.runtime).Nodup)
    (seen : reportsLoaded world.runtime request.appId.text = true ↔
      request.appId.text ∈ names world.runtime) :
    Issuing machine UnloadsFirst (fun _ _ _ => True) (handleUpdateActivate config request)
      memory world := by
  have ends : ∀ (message : String) (statusCode : Nat) (memory : Memory) (world : World),
      Issuing machine UnloadsFirst (fun _ _ _ => True) (replyError message statusCode)
        memory world := fun _ _ _ _ => trivial
  unfold handleUpdateActivate
  refine (lease_issuing unloading_fine _ _).seq fun held after left same => ?_
  rw [same.1]
  split
  · exact .pure trivial
  have begins : Issuing machine UnloadsFirst (fun _ _ left => left = world)
      (updates fun manager => UpdateManager.activateBegin manager request.appId.text)
      after world := .edit rfl
  refine begins.seq fun ret begun left same => ?_
  rw [same]
  split
  · exact ends _ _ _ _
  refine (loaded_issuing unloading_fine _).seq fun loaded after left same => ?_
  rw [same.1, same.2.1, same.2.2]
  -- what the report misses is not in the runtime, and what it shows is unloaded first
  by_cases listed : reportsLoaded world.runtime request.appId.text = true
  · rw [if_pos listed]
    have unloads : Issuing machine UnloadsFirst
        (fun ret _ left => ret = 0 → request.appId.text ∉ names left.runtime)
        (perform (.runtimeUnload request.appId.text) : ServiceM Int) begun world := by
      refine .perform fun outcome => ⟨trivial, fun worked => ?_⟩
      rcases @RuntimeCapacity.unload_names world.runtime request.appId.text with
        ⟨failed, _⟩ | ⟨_, dropped⟩
      · exact absurd worked failed
      · change request.appId.text ∉ names (unload request.appId.text world.runtime).2
        rw [dropped]
        exact distinct.not_mem_erase
    refine unloads.seq fun ret after left gone => ?_
    by_cases failed : ret ≠ 0
    · rw [if_pos failed]
      exact ((failStage_calls _ _ _ _ _ _).weaken housekeeping_unloading).issuing
        unloading_fine _ _
    · rw [if_neg failed]
      exact launchArtifact_issuing (gone (not_not.mp failed))
  · rw [if_neg listed]
    exact launchArtifact_issuing fun member => listed (seen.mpr member)

end Activate

/-- In every runtime that calls and policies can lead to, the service knows whether an
application is loaded, deletes nothing of a loaded one and unloads it before it is
loaded again, if and only if the application is among the first four loaded ones or
not loaded. -/
theorem sees_iff (noLimit : Nat) (steps : List RuntimeCapacity.Step) (config : Config)
    (request : Request) (memory : Memory) (before : World) :
    let world := { before with runtime := RuntimeCapacity.run noLimit steps }
    Sees config request memory world ↔ InView world.runtime request.appId.text := by
  intro world
  obtain ⟨named, distinct⟩ := RuntimeCapacity.run_names noLimit steps
  have reports := @reportsLoaded_iff world.runtime request.appId.text named
  have answers : ∀ outcomes, (run machine outcomes
      (runtimeAppIsLoaded request.appId.text memory) world).1.1 =
        reportsLoaded world.runtime request.appId.text := fun _ => rfl
  constructor
  · intro sees loaded
    have exact := (sees.exact []).mpr loaded
    rw [answers] at exact
    exact reports.mp exact
  · intro inView
    have seen : reportsLoaded world.runtime request.appId.text = true ↔
        request.appId.text ∈ names world.runtime :=
      reports.trans ⟨List.mem_of_mem_take, inView⟩
    constructor
    · intro outcomes
      rw [answers]
      exact seen
    · exact fun loaded outcomes => (delete_refused (seen.mpr loaded)).run outcomes
    · exact (activate_unloads distinct seen).meets

def crowdedRun : List RuntimeCapacity.Step :=
  ["a", "b", "c", "d", "pump"].map fun name =>
    ⟨.load loadsWell (fun _ => some (.file [1])) (lit name) (lit "/apps/app.llext"), []⟩

/-- The fifth application is loaded, and the service takes it for one that is not. -/
theorem crowdedRun_unseen :
    ¬ ∀ (noLimit : Nat) (steps : List RuntimeCapacity.Step) (config : Config)
        (request : Request) (memory : Memory) (before : World),
      Sees config request memory
        { before with runtime := RuntimeCapacity.run noLimit steps } := by
  intro claimed
  have sees := claimed 4294967295 crowdedRun demoConfig (demoRequest "delete" "") booted
    demoDevice.world
  have loaded : lit "pump" ∈ names (RuntimeCapacity.run 4294967295 crowdedRun) := by
    decide +kernel
  have unseen : reportsLoaded (RuntimeCapacity.run 4294967295 crowdedRun) (lit "pump") = false := by
    decide +kernel
  have answered : reportsLoaded (RuntimeCapacity.run 4294967295 crowdedRun) (lit "pump") = true :=
    (sees.exact []).mpr loaded
  rw [unseen] at answered
  cases answered

end NeuroLink.LoadedView
