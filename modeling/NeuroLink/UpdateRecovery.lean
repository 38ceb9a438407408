import NeuroLink.SnapshotRestore
import NeuroLink.UpdateRuns

/-!
The managers through the recovery seed. What the service keeps of its managers is
enough for a snapshot to have room for them, and a snapshot of such managers gives
such managers again. So every run keeps them, however often the power is lost.
-/

namespace NeuroLink.UpdateRecovery

open CText RecoverySeed SeedSnapshot UpdateManager UpdateService UpdateTables UpdateWorld
  UpdateGuard UpdateRuns

/-- A snapshot as the service leaves it in the seed. -/
structure Restorable (config : Config) (snapshot : Snapshot) : Prop extends
    Complete snapshot where
  live : ∀ entry ∈ snapshot.entries, entry.updateState ≠ .none
  located : ∀ entry ∈ snapshot.entries, hasArtifact entry →
    entry.artifactPath.text = appPath config entry.appId.text

section Snapshots

variable {config : Config} {updates : Manager} {artifacts : ArtifactStore.Store}
  {snapshot : Snapshot}

theorem mergedEntry_update {appId : Text} {update : Entry}
    (there : entryOf updates appId = some update) {entry : SeedEntry}
    (merged : mergedEntry updates artifacts appId = some entry) :
    entry.updateState = update.state ∧ entry.updateLastError = update.lastError ∧
      entry.rollbackReason = update.rollbackReason ∧ entry.stableRef = update.stableRef := by
  have halves : ∀ seed : SeedEntry, (mergeUpdate update seed).updateState = update.state ∧
      (mergeUpdate update seed).updateLastError = update.lastError ∧
      (mergeUpdate update seed).rollbackReason = update.rollbackReason ∧
      (mergeUpdate update seed).stableRef = update.stableRef := fun _ =>
    ⟨rfl, copyBounded_buffer _, copyBounded_buffer _, copyBounded_buffer _⟩
  rw [mergedEntry, there] at merged
  cases stored : SlotTable.lookup ArtifactStore.Meta.id artifacts appId with
  | none =>
      rw [stored] at merged
      cases merged
      exact halves _
  | some artifact =>
      rw [stored] at merged
      cases merged
      exact halves (addedEntry appId)

theorem mergedEntry_artifact (tidy : Tidy config updates artifacts) {appId : Text}
    {update : Entry} (there : entryOf updates appId = some update) {entry : SeedEntry}
    (merged : mergedEntry updates artifacts appId = some entry) (has : hasArtifact entry) :
    entry.artifactPath.text = appPath config appId := by
  rw [mergedEntry, there] at merged
  cases stored : SlotTable.lookup ArtifactStore.Meta.id artifacts appId with
  | none =>
      rw [stored] at merged
      cases merged
      simp [hasArtifact, mergeUpdate, addedEntry] at has
  | some artifact =>
      rw [stored] at merged
      cases merged
      obtain ⟨slot, found⟩ := SlotTable.lookup_some stored
      have own : artifact.id = appId := SlotTable.findKey_key found
      have path := tidy.located slot artifact (SlotTable.find_content found)
      rw [own] at path
      exact Eq.trans (copyBounded_exact _ (Nat.le_of_lt_succ artifact.path.fits)) path

/-- Managers without an artifact of an unrecorded application have a snapshot, with an
update half in each entry. -/
theorem snapshot_complete (listed : Listed updates artifacts) :
    ∃ snapshot, buildSnapshot updates artifacts = .ok snapshot ∧ Complete snapshot ∧
      ∀ entry ∈ snapshot.entries, ∃ update, entryOf updates entry.appId.text = some update ∧
        mergedEntry updates artifacts entry.appId.text = some entry := by
  obtain ⟨snapshot, built, names⟩ := buildSnapshot_room listed.unique listed.covered
  refine ⟨snapshot, built, ?_⟩
  have view := buildSnapshot_seedFor listed.unique listed.distinct built
  -- the snapshot lists the entries of the update manager, in their order
  have ids : snapshot.entries.map (fun entry => entry.appId.text) =
      (SlotTable.entries updates).map Entry.id := by
    have second := congrArg (List.map Prod.snd) names
    rw [List.map_map, List.map_map] at second
    exact second
  have distinct : (snapshot.entries.map fun entry => entry.appId.text).Nodup := by
    rw [ids]
    exact SlotTable.entries_keys_nodup listed.unique
  have used : ∀ entry ∈ snapshot.entries, entry.used = true := by
    intro entry member
    have named : name entry ∈ snapshot.entries.map name := List.mem_map_of_mem member
    rw [names] at named
    obtain ⟨update, _, same⟩ := List.mem_map.mp named
    exact (congrArg Prod.fst same).symm
  have recorded : ∀ entry ∈ snapshot.entries, ∃ update,
      entryOf updates entry.appId.text = some update ∧
        mergedEntry updates artifacts entry.appId.text = some entry := by
    intro entry member
    have known : entry.appId.text ∈ (SlotTable.entries updates).map Entry.id := by
      rw [← ids]
      exact List.mem_map_of_mem member
    obtain ⟨update, stored, same⟩ := List.mem_map.mp known
    refine ⟨update, ?_, ?_⟩
    · rw [entryOf, SlotTable.lookup_entries, ← same]
      exact SlotTable.find_listed (SlotTable.entries_keys_nodup listed.unique) stored
    · rw [← view, seedFor_used used]
      exact SlotTable.find_listed distinct member
  refine ⟨⟨?_, distinct, fun entry member => ?_⟩, recorded⟩
  · have length := congrArg List.length ids
    rw [List.length_map, List.length_map] at length
    rw [length]
    exact SlotTable.entries_length updates
  · obtain ⟨update, there, merged⟩ := recorded entry member
    obtain ⟨named, lasting⟩ := listed.lasting _ update there
    obtain ⟨state, lastError, reason, ref⟩ := mergedEntry_update there merged
    refine ⟨by simp [named, used entry member, SeedSnapshot.named], ?_⟩
    rw [hasUpdate, state, lastError, reason, ref]
    exact decide_eq_true lasting

/-- The managers the service keeps have a snapshot, and it is one to restore from. -/
theorem snapshot_built (tidy : Tidy config updates artifacts) :
    ∃ snapshot, buildSnapshot updates artifacts = .ok snapshot ∧ Restorable config snapshot := by
  obtain ⟨snapshot, built, complete, recorded⟩ := snapshot_complete tidy.toListed
  refine ⟨snapshot, built, complete, fun entry member => ?_, fun entry member has => ?_⟩
  · obtain ⟨update, there, merged⟩ := recorded entry member
    rw [(mergedEntry_update there merged).1]
    exact (tidy.sound _ update there).2
  · obtain ⟨update, there, merged⟩ := recorded entry member
    exact mergedEntry_artifact tidy there merged has

theorem updateHalves_lasting {update : Entry} (member : update ∈ updateHalves snapshot) :
    update.id ≠ [] ∧ Recorded update := by
  obtain ⟨entry, selected, rfl⟩ := List.mem_map.mp member
  obtain ⟨used, half⟩ := List.mem_filter.mp selected
  have recorded := of_decide_eq_true half
  rw [updateOf_id]
  refine ⟨(of_decide_eq_true (List.mem_filter.mp used).2).2, ?_⟩
  simpa only [Recorded, updateOf, copyBounded_buffer] using recorded

/-- Applying an applicable snapshot fills both managers, and no artifact is without its
update entry. -/
theorem applied_listed (applicable : Applicable snapshot) (before : Manager)
    (store : ArtifactStore.Store) :
    (applySnapshot snapshot before store).1 = 0 ∧
      Listed (applySnapshot snapshot before store).2.1
        (applySnapshot snapshot before store).2.2 := by
  have view : ∀ appId, entryOf (SlotTable.ofEntries (updateHalves snapshot)) appId =
      (updateHalves snapshot).find? fun entry => entry.id = appId := fun appId => by
    rw [entryOf, SlotTable.lookup_entries,
      SlotTable.entries_ofEntries (updateHalves_few applicable.few)]
  rw [applySnapshot_halves applicable.few]
  refine ⟨rfl, SlotTable.distinct_ofEntries applicable.updatesApart,
    fun appId update present => ?_, SlotTable.distinct_ofEntries applicable.artifactsApart,
    fun slot artifact there => ?_⟩
  · rw [view] at present
    have own : update.id = appId := by simpa using List.find?_some present
    rw [← own]
    exact updateHalves_lasting (List.mem_of_find?_eq_some present)
  · have member : artifact ∈ artifactHalves snapshot := by
      have stored := SlotTable.mem_entries.mpr ⟨slot, there⟩
      rw [SlotTable.entries_ofEntries (artifactHalves_few applicable.few)] at stored
      exact stored
    obtain ⟨update, known, same⟩ := applicable.recorded artifact member
    rw [view, ← same, SlotTable.find_listed applicable.updatesApart known]
    exact Option.some_ne_none _

theorem applied_tidy (restorable : Restorable config snapshot) (before : Manager)
    (store : ArtifactStore.Store) :
    (applySnapshot snapshot before store).1 = 0 ∧
      Tidy config (applySnapshot snapshot before store).2.1
        (applySnapshot snapshot before store).2.2 := by
  obtain ⟨worked, listed⟩ := applied_listed restorable.applicable before store
  obtain ⟨restored, stored, applied, unique, distinct, view⟩ :=
    applySnapshot_restores restorable.toComplete before store
  have found : ∀ {appId : Text} {entry : SeedEntry},
      seedFor snapshot.entries appId = some entry →
        entry ∈ snapshot.entries ∧ entry.appId.text = appId := by
    intro appId entry there
    rw [seedFor_used restorable.toComplete.used] at there
    exact ⟨List.mem_of_find?_eq_some there, by simpa using List.find?_some there⟩
  rw [applied] at listed ⊢
  refine ⟨rfl, listed, fun appId update present => ?_, fun slot artifact there => ?_⟩
  · have named := (listed.lasting appId update present).1
    rw [(view appId).1] at present
    obtain ⟨entry, there, rfl⟩ := Option.map_eq_some_iff.mp present
    exact ⟨named, restorable.live entry (found there).1⟩
  · have looked := SlotTable.lookup_stored distinct there
    rw [(view artifact.id).2] at looked
    obtain ⟨entry, kept, rfl⟩ := Option.map_eq_some_iff.mp looked
    obtain ⟨listed, has⟩ := Option.filter_eq_some_iff.mp kept
    obtain ⟨member, own⟩ := found listed
    have path := restorable.located entry member has
    rw [own] at path
    exact Eq.trans (copyBounded_exact _ (Nat.le_of_lt_succ entry.artifactPath.fits)) path

end Snapshots

def SeedKept (config : Config) (world : World) : Prop :=
  ∀ snapshot, world.seed = some snapshot → Restorable config snapshot

structure Kept (config : Config) (memory : Memory) (world : World) : Prop where
  initialized : memory.seedInitialized = true
  tidy : Tidy config memory.updates memory.artifacts
  seed : SeedKept config world

section Runs

variable {config : Config}

theorem init_listed : Listed UpdateManager.init ArtifactStore.init where
  unique := SlotTable.distinct_empty
  lasting appId entry present := by simp [UpdateManager.init] at present
  distinct := SlotTable.distinct_empty
  covered slot artifact there := by
    rw [ArtifactStore.init, SlotTable.getElem_empty] at there
    cases there

theorem init_tidy : Tidy config UpdateManager.init ArtifactStore.init where
  toListed := init_listed
  sound appId entry present := by simp [UpdateManager.init] at present
  located slot artifact there := by
    rw [ArtifactStore.init, SlotTable.getElem_empty] at there
    cases there

/-- What a request does to the files leaves the managers and the seed alone. -/
theorem kept_guard :
    Guard config (Tidy config) (Kept config) (SeedKept config) fun _ _ _ => True where
  safe kept := kept.seed
  runtime _ kept := ⟨kept.initialized, kept.tidy, kept.seed⟩
  initialized kept := kept.initialized
  upkeep := tidy_upkeep config
  upheld kept := kept.tidy
  replies _ kept := ⟨kept.initialized, kept.tidy, kept.seed⟩
  saved kept built := by
    obtain ⟨snapshot, same, restorable⟩ := snapshot_built kept.tidy
    rw [built] at same
    cases same
    exact ⟨kept.initialized, kept.tidy, fun _ saved => by cases saved; exact restorable⟩
  calm kept _ tidy := ⟨kept.initialized, tidy, kept.seed⟩
  stored kept tidy := ⟨kept.initialized, tidy, kept.seed⟩
  freeRuntime _ _ := trivial
  writes kept _ _ := ⟨⟨kept.initialized, kept.tidy, kept.seed⟩, trivial⟩
  checks kept _ := ⟨kept.initialized, kept.tidy, kept.seed⟩
  verifies kept _ _ tidy := ⟨kept.initialized, tidy, kept.seed⟩
  activates kept _ := ⟨kept.initialized, kept.tidy, kept.seed⟩
  records kept _ _ tidy := ⟨kept.initialized, tidy, kept.seed⟩
  forgets kept _ _ _ _ tidy := ⟨kept.initialized, tidy, kept.seed⟩

theorem kept_boots : Boots (Kept config) (SeedKept config) (SeedKept config) where
  safe kept := kept
  runtime _ kept := kept
  opens _ kept := ⟨rfl, init_tidy, kept⟩
  applies _ kept saved :=
    have applied := applied_tidy (kept _ saved) UpdateManager.init ArtifactStore.init
    ⟨applied.1, rfl, applied.2, kept⟩

def Sane (config : Config) (device : Device) : Prop :=
  Between (Kept config) (SeedKept config) device.memory device.world

/-- Every run from a unit without a seed stays so, however often the power is lost. -/
theorem after_sane (volume : FileSystem.Volume) (runtime : AppRuntime.Runtime)
    (turns : List Turn) : Sane config (after config (fresh volume runtime) turns) := by
  refine after_invariant (fun device turn sane => ?_) turns ?_
  · exact take_between kept_guard kept_boots sane (fun _ _ _ _ _ => trivial)
      fun _ _ _ _ _ _ kept => kept
  · exact ⟨(nomatch ·), fun _ => ⟨(fun _ saved => nomatch saved), rfl⟩⟩

theorem Sane.tidy {device : Device} (sane : Sane config device) :
    Tidy config device.memory.updates device.memory.artifacts := by
  cases opened : device.memory.seedInitialized with
  | true => exact (sane.ready opened).tidy
  | false =>
      rw [(sane.idle opened).2]
      exact init_tidy

theorem Sane.seed {device : Device} (sane : Sane config device) :
    SeedKept config device.world := by
  cases opened : device.memory.seedInitialized with
  | true => exact (sane.ready opened).seed
  | false => exact (sane.idle opened).1

end Runs

end NeuroLink.UpdateRecovery
