import Mathlib.Algebra.Group.Nat.Defs
import NeuroLink.UpdateRecovery

/-!
What a unit finds again after a restart. The snapshot of its managers, written to the
seed, read back and split up, gives every application the update entry and the artifact
it had.
-/

namespace NeuroLink.SeedRestoration

open CText RecoverySeed SeedSnapshot SlotTable UpdateManager UpdateService UpdateTables
  UpdateWorld UpdateRecovery

/-- The managers as a restart finds them: their snapshot is encoded for the seed file,
and its bytes are decoded and applied to managers that are initialized afresh. -/
def throughSeed (updates : Manager) (artifacts : ArtifactStore.Store) :
    Except Int (Manager × ArtifactStore.Store) := do
  let snapshot ← buildSnapshot updates artifacts
  let bytes ← encode snapshot maxImage
  let decoded ← decode bytes
  let applied := applySnapshot decoded UpdateManager.init ArtifactStore.init
  if applied.1 = 0 then .ok applied.2 else .error applied.1

/-- What is observed of an artifact: its path, its transport, its key, its state and
its size. -/
def observed (artifact : ArtifactStore.Meta) : Text × Text × Text × ArtifactStore.State × Nat :=
  (artifact.path.text, artifact.transport.text, artifact.artifactKey.text, artifact.state,
    artifact.sizeBytes)

section Merged

variable {updates : Manager} {artifacts : ArtifactStore.Store} {appId : Text}

theorem updateOf_merged {update : Entry} (present : entryOf updates appId = some update) :
    (mergedEntry updates artifacts appId).map updateOf = some update := by
  have own : (copyBounded appId : Buffer 32) = update.appId := by
    rw [← entryOf_id present]
    exact copyBounded_buffer update.appId
  have half : updateOf (mergeUpdate update (addedEntry appId)) = update := by
    simp only [updateOf, mergeUpdate, addedEntry, own, copyBounded_buffer]
  rw [mergedEntry, present]
  cases lookup ArtifactStore.Meta.id artifacts appId with
  | none => exact congrArg some half
  | some artifact => exact congrArg some half

theorem artifactOf_merged {artifact : ArtifactStore.Meta} {config : Config}
    (tidy : Tidy config updates artifacts)
    (stored : lookup ArtifactStore.Meta.id artifacts appId = some artifact)
    (small : artifact.sizeBytes < 2 ^ 32) :
    (((mergedEntry updates artifacts appId).filter hasArtifact).map artifactOf).map observed =
      some (observed artifact) := by
  obtain ⟨slot, found⟩ := lookup_some stored
  have path := tidy.located slot artifact (find_content found)
  have located : artifact.path.text ≠ [] := by
    rw [path]
    exact buildAppPath_nonempty config artifact.id
  rw [mergedEntry, stored]
  generalize fill mergeUpdate appId (entryOf updates appId) none = half
  have has : hasArtifact (mergeArtifact artifact (half.getD (addedEntry appId))) = true := by
    simp [hasArtifact, mergeArtifact, copyBounded_buffer, located]
  have size : (UInt32.ofNat artifact.sizeBytes).toNat = artifact.sizeBytes :=
    Nat.mod_eq_of_lt small
  have shown : observed (artifactOf (mergeArtifact artifact (half.getD (addedEntry appId)))) =
      observed artifact := by
    simp only [observed, artifactOf, mergeArtifact, copyBounded_buffer, size]
  simp only [fill, Option.filter, has, if_true, Option.map_some, shown]

theorem artifactOf_missing {update : Entry} (present : entryOf updates appId = some update)
    (missing : lookup ArtifactStore.Meta.id artifacts appId = none) :
    (mergedEntry updates artifacts appId).filter hasArtifact = none := by
  rw [mergedEntry, missing, present]
  simp [fill, Option.filter, hasArtifact, mergeUpdate, addedEntry]

end Merged

theorem mergedEntry_none {config : Config} {updates : Manager} {artifacts : ArtifactStore.Store}
    {appId : Text} (tidy : Tidy config updates artifacts)
    (missing : entryOf updates appId = none) : mergedEntry updates artifacts appId = none := by
  have unstored : lookup ArtifactStore.Meta.id artifacts appId = none := by
    by_contra stored
    exact tidy.recorded stored missing
  rw [mergedEntry, unstored, missing]
  rfl

structure Restores (updates : Manager) (artifacts : ArtifactStore.Store) (restored : Manager)
    (stored : ArtifactStore.Store) : Prop where
  updatesUnique : Unique restored
  artifactsUnique : Distinct ArtifactStore.Meta.id stored
  update : ∀ appId, entryFor restored appId = entryFor updates appId
  artifact : ∀ appId, (ArtifactStore.get stored appId).map observed =
    (ArtifactStore.get artifacts appId).map observed

/-- A snapshot that is built goes through the seed unchanged. -/
theorem throughSeed_applied {updates restored : Manager}
    {artifacts stored : ArtifactStore.Store} {snapshot : Snapshot}
    (built : buildSnapshot updates artifacts = .ok snapshot)
    (few : snapshot.entries.length ≤ RecoverySeed.maxEntries)
    (applied : applySnapshot snapshot UpdateManager.init ArtifactStore.init =
      (0, restored, stored)) :
    throughSeed updates artifacts = .ok (restored, stored) := by
  have continues : ∀ {First Result : Type} (first : First)
      (rest : First → Except Int Result), (Except.ok first >>= rest) = rest first :=
    fun _ _ => rfl
  rw [throughSeed, built, continues, encode_ok snapshot few, continues,
    decode_image snapshot few, continues, applied]
  exact if_pos rfl

theorem throughSeed_restores {config : Config} {updates : Manager}
    {artifacts : ArtifactStore.Store} (tidy : Tidy config updates artifacts)
    (small : ∀ appId artifact, ArtifactStore.get artifacts appId = some artifact →
      artifact.sizeBytes < 2 ^ 32) :
    ∃ restored stored, throughSeed updates artifacts = .ok (restored, stored) ∧
      Restores updates artifacts restored stored := by
  obtain ⟨snapshot, built, restorable⟩ := snapshot_built tidy
  have few := restorable.few
  obtain ⟨restored, stored, applied, unique, distinct, view⟩ :=
    applySnapshot_restores restorable.toComplete UpdateManager.init ArtifactStore.init
  have merged := buildSnapshot_seedFor tidy.unique tidy.distinct built
  refine ⟨restored, stored, throughSeed_applied built few applied, unique, distinct,
    fun appId => ?_, fun appId => ?_⟩
  · by_cases named : appId = []
    · simp [entryFor, named]
    rw [entryFor_entryOf named, entryFor_entryOf named, (view appId).1, merged]
    cases present : entryOf updates appId with
    | some update => exact updateOf_merged present
    | none => rw [mergedEntry_none tidy present, Option.map_none]
  · by_cases named : appId = []
    · simp [ArtifactStore.get, named]
    rw [ArtifactStore.get, ArtifactStore.get, if_neg named, if_neg named, (view appId).2, merged]
    cases there : lookup ArtifactStore.Meta.id artifacts appId with
    | some artifact =>
        refine artifactOf_merged tidy there (small appId artifact ?_)
        rw [ArtifactStore.get, if_neg named]
        exact there
    | none =>
        cases present : entryOf updates appId with
        | some update => rw [artifactOf_missing present there, Option.map_none]
        | none => rw [mergedEntry_none tidy present, Option.filter_none, Option.map_none]

/-- In every state that turns can lead to, with artifacts of less than 2^32 bytes, the
managers survive a restart: no application is lost, added or listed twice, and each
shows what it showed. -/
theorem restart_restores (config : Config) (volume : FileSystem.Volume)
    (runtime : AppRuntime.Runtime) (turns : List Turn)
    (small : ∀ appId artifact,
      ArtifactStore.get (after config (fresh volume runtime) turns).memory.artifacts appId =
        some artifact → artifact.sizeBytes < 2 ^ 32) :
    let memory := (after config (fresh volume runtime) turns).memory
    ∃ restored stored, throughSeed memory.updates memory.artifacts = .ok (restored, stored) ∧
      Restores memory.updates memory.artifacts restored stored :=
  throughSeed_restores (after_sane volume runtime turns).tidy small

theorem preparedTurns_restored :
    let memory := (after demoConfig demoDevice preparedTurns).memory
    ∃ restored stored, throughSeed memory.updates memory.artifacts = .ok (restored, stored) ∧
      Restores memory.updates memory.artifacts restored stored := by
  have sizes : ∀ artifact ∈ entries (after demoConfig demoDevice preparedTurns).memory.artifacts,
      artifact.sizeBytes = 2 := by
    decide +kernel
  refine restart_restores demoConfig (fun _ => none) demoRuntime preparedTurns ?_
  intro appId artifact found
  rw [ArtifactStore.get] at found
  split at found
  · cases found
  · rw [lookup_entries] at found
    have size := sizes artifact (List.mem_of_find?_eq_some found)
    rw [size]
    decide

end NeuroLink.SeedRestoration
