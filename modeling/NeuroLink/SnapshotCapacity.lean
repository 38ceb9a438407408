import Mathlib.Data.List.Perm.Subperm
import NeuroLink.UpdateRecovery

/-!
Room for every application. The update manager, the artifact store and the snapshot
that merges them have four entries each, which is enough because the artifacts are of
applications that the update manager has on record. The requests keep it so; a seed
with an artifact record alone, which decode and apply accept, does not.
-/

namespace NeuroLink.SnapshotCapacity

open CText SlotTable SeedSnapshot UpdateManager UpdateService UpdateTables UpdateWorld
  UpdateGuard UpdateRuns UpdateRecovery

/-- The two tables and the snapshot of them never run out of entries. -/
structure Spacious (updates : Manager) (artifacts : ArtifactStore.Store) : Prop where
  updatesUnique : Unique updates
  artifactsUnique : Distinct ArtifactStore.Meta.id artifacts
  onRecord : ∀ appId, lookup ArtifactStore.Meta.id artifacts appId ≠ none →
    entryOf updates appId ≠ none
  stages : ∀ (appId : Buffer 32) (transport artifactKey path : Text)
    (sizeBytes chunkSize chunksReceived : Nat),
    (prepareBegin updates appId.text).1 = 0 → path ≠ [] →
    (ArtifactStore.stage artifacts appId.text transport artifactKey path sizeBytes chunkSize
      chunksReceived).1 = 0
  saves : ∀ error, SeedSnapshot.buildSnapshot updates artifacts ≠ .error error
  checkpoints : ∀ appId reason error,
    SeedSnapshot.buildSnapshot (rollbackBegin updates appId reason).2 artifacts ≠ .error error

section Listed

variable {updates : Manager} {artifacts : ArtifactStore.Store} {appId : Text}

theorem vacant_slot (listed : Listed updates artifacts)
    (present : entryOf updates appId ≠ none)
    (missing : ArtifactStore.findEntry artifacts appId = none) :
    ∃ slot, vacant artifacts = some slot := by
  cases free : vacant artifacts with
  | some slot => exact ⟨slot, rfl⟩
  | none =>
      have recorded : ∀ name, entryOf updates name ≠ none →
          name ∈ (entries updates).map Entry.id := by
        intro name there
        obtain ⟨entry, found⟩ := Option.ne_none_iff_exists'.mp there
        rw [entryOf, lookup_entries] at found
        have own : entry.id = name := by simpa using List.find?_some found
        rw [← own]
        exact List.mem_map_of_mem (List.mem_of_find?_eq_some found)
      have others : appId ∉ (entries artifacts).map ArtifactStore.Meta.id := by
        intro member
        obtain ⟨artifact, kept, own⟩ := List.mem_map.mp member
        obtain ⟨slot, there⟩ := mem_entries.mp kept
        have apart := (find_none_iff _ _).mp missing slot artifact there
        exact of_decide_eq_false apart own
      have ids : (appId :: (entries artifacts).map ArtifactStore.Meta.id).Nodup :=
        List.nodup_cons.mpr ⟨others, entries_keys_nodup listed.distinct⟩
      have among : appId :: (entries artifacts).map ArtifactStore.Meta.id ⊆
          (entries updates).map Entry.id := by
        intro name member
        rcases List.mem_cons.mp member with rfl | kept
        · exact recorded name present
        · obtain ⟨artifact, stored, rfl⟩ := List.mem_map.mp kept
          obtain ⟨slot, there⟩ := mem_entries.mp stored
          exact recorded _ (listed.covered slot artifact there)
      have room := (ids.subperm among).length_le
      rw [List.length_cons, List.length_map, List.length_map, entries_full free] at room
      have few : (entries updates).length ≤ 4 := entries_length updates
      exact absurd (Nat.le_trans room few) (by decide)

theorem stage_works (listed : Listed updates artifacts) (named : appId ≠ [])
    (present : entryOf updates appId ≠ none) {path : Text} (located : path ≠ [])
    (transport artifactKey : Text) (sizeBytes chunkSize chunksReceived : Nat) :
    (ArtifactStore.stage artifacts appId transport artifactKey path sizeBytes chunkSize
      chunksReceived).1 = 0 := by
  unfold ArtifactStore.stage
  rw [if_neg (by simp [named, located])]
  cases found : ArtifactStore.findEntry artifacts appId with
  | some pair => rfl
  | none =>
      obtain ⟨slot, free⟩ := vacant_slot listed present found
      rw [free]

theorem build_works (listed : Listed updates artifacts) (error : Int) :
    buildSnapshot updates artifacts ≠ .error error := by
  obtain ⟨snapshot, built, _⟩ := snapshot_complete listed
  rw [built]
  exact (nomatch ·)

theorem listed_spacious (listed : Listed updates artifacts) : Spacious updates artifacts where
  updatesUnique := listed.unique
  artifactsUnique := listed.distinct
  onRecord _ stored := listed.recorded stored
  stages appId transport artifactKey path sizeBytes chunkSize chunksReceived begun located := by
    have short : appId.text.length ≤ 31 := Nat.le_of_lt_succ appId.fits
    have after := listed.updated (prepareBegin_calm listed.unique short).toRetains
    have present := prepareBegin_present listed.unique short begun
    obtain ⟨entry, there⟩ := Option.ne_none_iff_exists'.mp present
    exact stage_works after (after.lasting _ entry there).1 present located _ _ _ _ _
  saves := build_works listed
  checkpoints appId reason :=
    build_works (listed.updated (rollbackBegin_calm appId reason listed.unique).toRetains)

end Listed

def SeedApplicable (world : World) : Prop :=
  ∀ snapshot, world.seed = some snapshot → Applicable snapshot

structure Roomy (memory : Memory) (world : World) : Prop where
  initialized : memory.seedInitialized = true
  listed : Listed memory.updates memory.artifacts
  seed : SeedApplicable world

theorem roomy_guard (config : Config) :
    Guard config Listed Roomy SeedApplicable fun _ _ _ => True where
  safe roomy := roomy.seed
  runtime _ roomy := ⟨roomy.initialized, roomy.listed, roomy.seed⟩
  upkeep := listed_upkeep config
  initialized roomy := roomy.initialized
  upheld roomy := roomy.listed
  replies _ roomy := ⟨roomy.initialized, roomy.listed, roomy.seed⟩
  saved roomy built := by
    obtain ⟨snapshot, same, complete, _⟩ := snapshot_complete roomy.listed
    rw [built] at same
    cases same
    exact ⟨roomy.initialized, roomy.listed, fun _ saved => by
      cases saved
      exact complete.applicable⟩
  calm roomy _ listed := ⟨roomy.initialized, listed, roomy.seed⟩
  stored roomy listed := ⟨roomy.initialized, listed, roomy.seed⟩
  freeRuntime _ _ := trivial
  writes roomy _ _ := ⟨⟨roomy.initialized, roomy.listed, roomy.seed⟩, trivial⟩
  checks roomy _ := ⟨roomy.initialized, roomy.listed, roomy.seed⟩
  verifies roomy _ _ listed := ⟨roomy.initialized, listed, roomy.seed⟩
  activates roomy _ := ⟨roomy.initialized, roomy.listed, roomy.seed⟩
  records roomy _ _ listed := ⟨roomy.initialized, listed, roomy.seed⟩
  forgets roomy _ _ _ _ listed := ⟨roomy.initialized, listed, roomy.seed⟩

theorem roomy_boots : Boots Roomy SeedApplicable SeedApplicable where
  safe seed := seed
  runtime _ seed := seed
  opens _ seed := ⟨rfl, init_listed, seed⟩
  applies _ seed saved :=
    have applied := applied_listed (seed _ saved) UpdateManager.init ArtifactStore.init
    ⟨applied.1, rfl, applied.2, seed⟩

/-- A unit to start from: after init, or with a snapshot applied, and with no seed or one
to go on from. -/
structure Starts (device : Device) : Prop where
  memory : device.memory = booted ∨
    ∃ snapshot, Applicable snapshot ∧ device.memory = restored snapshot []
  seed : SeedApplicable device.world

/-- In every state that turns can lead to from there, applications are listed once,
artifacts are of applications on record, a prepare that is admitted finds a slot to stage
its artifact in, and every save has room for its snapshot. -/
theorem capacity_kept (config : Config) (device : Device) (starts : Starts device)
    (turns : List Turn) :
    Spacious (after config device turns).memory.updates
      (after config device turns).memory.artifacts := by
  have start : Between Roomy SeedApplicable device.memory device.world := by
    rcases starts.memory with boot | ⟨snapshot, applicable, applied⟩
    · rw [boot]
      exact ⟨(nomatch ·), fun _ => ⟨starts.seed, rfl⟩⟩
    · rw [applied]
      have listed := (applied_listed applicable UpdateManager.init ArtifactStore.init).2
      exact .of_joint (roomy_guard config) ⟨rfl, listed, starts.seed⟩
  have between : Between Roomy SeedApplicable (after config device turns).memory
      (after config device turns).world := by
    have run := @after_invariant config (fun device =>
      Between Roomy SeedApplicable device.memory device.world)
    refine run (fun device turn between => ?_) turns start
    exact take_between (roomy_guard config) roomy_boots between (fun _ _ _ _ _ => trivial)
      fun _ _ _ _ _ _ seed => seed
  cases opened : (after config device turns).memory.seedInitialized with
  | true => exact listed_spacious (between.ready opened).listed
  | false =>
      rw [(between.idle opened).2]
      exact listed_spacious init_listed

/-- An entry with an update record and one with an artifact record, of one application. -/
def pairedSeed : RecoverySeed.Snapshot where
  entries :=
    [{ addedEntry (lit "pump") with updateState := .failed },
      { addedEntry (lit "pump") with artifactState := .staged }]

def pairedTurns : List Turn :=
  [.serve none [], .serve (some { demoRequest "prepare" "\x7b\"transport\":\"usb\"\x7d" with
    appId := copyBounded (lit "valve") }) []]

/-- Both are staged then, and there is room for two more. -/
theorem pairedSeed_spacious :
    (entries (after demoConfig ⟨booted, { demoDevice.world with seed := some pairedSeed }⟩
      pairedTurns).memory.artifacts).length = 2 ∧ Spacious
      (after demoConfig ⟨booted, { demoDevice.world with seed := some pairedSeed }⟩
        pairedTurns).memory.updates
      (after demoConfig ⟨booted, { demoDevice.world with seed := some pairedSeed }⟩
        pairedTurns).memory.artifacts := by
  have applicable : Applicable pairedSeed :=
    ⟨by decide, by decide, by decide, by decide⟩
  refine ⟨by decide, ?_⟩
  exact capacity_kept demoConfig ⟨booted, { demoDevice.world with seed := some pairedSeed }⟩
    ⟨.inl rfl, fun snapshot saved => by cases saved; exact applicable⟩ pairedTurns

def artifactSeed : RecoverySeed.Snapshot where
  entries := ["a", "b", "c", "d"].map fun name =>
    { addedEntry (lit name) with artifactState := .staged }

/-- A seed that decodes and is applied at boot can fill the artifact store with
applications that are not on record: a prepare is admitted, and neither staging its
artifact nor a snapshot finds room. -/
theorem artifactSeed_overflows :
    ¬ ∀ (snapshot : RecoverySeed.Snapshot) (bytes : List UInt8) (turns : List Turn),
      RecoverySeed.decode bytes = .ok snapshot →
      Spacious
        (after demoConfig ⟨booted, { demoDevice.world with seed := some snapshot }⟩
          turns).memory.updates
        (after demoConfig ⟨booted, { demoDevice.world with seed := some snapshot }⟩
          turns).memory.artifacts := by
  intro claimed
  have spacious := claimed artifactSeed (RecoverySeed.image artifactSeed) [.serve none []]
    (RecoverySeed.decode_image artifactSeed (by decide))
  have staged := spacious.stages (copyBounded (lit "pump")) (lit "usb") [] (lit "/apps/pump.llext")
    0 0 0 (by decide) (by decide)
  exact absurd staged (by decide)

end NeuroLink.SnapshotCapacity
