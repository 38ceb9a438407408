import NeuroLink.SeedFiles
import NeuroLink.SeedSnapshot

/-!
The file that a boot finds its seed in. Whatever fails in a load, it returns the snapshot of that
file or none; and a snapshot that was decoded has room in the managers.
-/

namespace NeuroLink.HeldSeed

open CText Errno EffectProgram UpdateManager RecoverySeed SeedSnapshot SeedStore SeedFiles
open FileSystem (Volume Node FileM)

/-- The file that a load is about: the store file, else a legacy file with something in it, else
the temporary file. -/
def held (store : Store) (volume : Volume) : Option Node :=
  match volume store.path.text with
  | some node => some node
  | none =>
      match volume store.legacyPath.text with
      | some (.file (first :: rest)) => some (.file (first :: rest))
      | _ => volume store.tmpPath.text

section Load

variable {store : Store} {volume : Volume}

theorem held_present {node : Node} (there : volume store.path.text = some node) :
    held store volume = some node := by
  rw [held, there]

theorem held_legacy {content : List UInt8} (missing : volume store.path.text = none)
    (there : volume store.legacyPath.text = some (.file content)) (something : content ≠ []) :
    held store volume = some (.file content) := by
  cases content with
  | nil => exact absurd rfl something
  | cons first rest =>
      rw [held, missing]
      dsimp only
      rw [there]

theorem held_tmp (missing : volume store.path.text = none)
    (unusable : ∀ content, volume store.legacyPath.text = some (.file content) → content = []) :
    held store volume = volume store.tmpPath.text := by
  rw [held, missing]
  dsimp only
  split
  · next first rest there => exact absurd (unusable _ there) (List.cons_ne_nil _ _)
  · rfl

/-- What a part of a load passes on to the next: the file that is held is under the store path,
or else under the temporary path. -/
structure Found (store : Store) (before now : Volume) : Prop where
  present : now store.path.text ≠ none → now store.path.text = held store before
  missing : now store.path.text = none → now store.tmpPath.text = held store before

/-- Parts of a load, with a condition on the code and on the volume they leave. -/
abbrev Leads (program : FileM Int) (volume : Volume) (post : Int → Volume → Prop) : Prop :=
  Holds FileSystem.machine (fun _ => True) (fun _ => True) post program volume

theorem migrateLegacySeedIfNeeded_finds : Leads (migrateLegacySeedIfNeeded store) volume
    fun migrated now => ¬ migrated < 0 → Found store volume now := by
  have stops : ∀ {code : Int}, code < 0 → Leads (pure code) volume
      fun migrated now => ¬ migrated < 0 → Found store volume now :=
    fun negative => .pure trivial fun fine => absurd negative fine
  have stays : ∀ code : Int, (¬ code < 0 → Found store volume volume) → Leads (pure code) volume
      fun migrated now => ¬ migrated < 0 → Found store volume now :=
    fun _ found => .pure trivial found
  unfold migrateLegacySeedIfNeeded
  split
  · exact stops (by decide)
  simp only [FileSystem.stat, Program.request_bind]
  refine FileSystem.holds_stat trivial (fun node there => ?_) (fun missing => ?_)
    (fun error negative other => ?_)
  · refine stays 0 fun _ => ⟨fun _ => ?_, fun missing => ?_⟩
    · rw [there, held_present there]
    · rw [there] at missing
      cases missing
  · have tmp (unusable : ∀ content, volume store.legacyPath.text = some (.file content) →
        content = []) : Found store volume volume :=
      ⟨fun present => absurd missing present, fun _ => (held_tmp missing unusable).symm⟩
    dsimp only
    rw [if_neg (not_not.mpr rfl)]
    refine FileSystem.holds_stat trivial (fun node there => ?_) (fun absent => ?_)
      (fun error negative other => ?_)
    · dsimp only
      split
      · next unusable =>
          refine stays 0 fun _ => tmp fun content same => ?_
          rw [there] at same
          cases same
          by_contra something
          simp [Node.dirent, something] at unusable
      · next usable =>
          -- the legacy file takes the store path, in a directory that may be new
          have moves : ∀ now : Volume, now store.legacyPath.text = some node →
              Leads (do
                let renamed ← FileSystem.rename store.legacyPath.text store.path.text
                pure (if renamed < 0 then renamed else 0)) now
                fun migrated now => ¬ migrated < 0 → Found store volume now := by
            intro now here
            refine FileSystem.holds_rename trivial (fun moved found => ?_)
              (fun error negative => ?_)
            · rw [here] at found
              cases found
              cases node with
              | dir => exact absurd (.inl (by decide)) usable
              | file content =>
                  have something : content ≠ [] := by
                    rintro rfl
                    exact usable (.inr rfl)
                  refine .pure trivial fun _ => ⟨fun _ => ?_, fun gone => ?_⟩
                  · rw [Function.update_self, held_legacy missing there something]
                  · rw [Function.update_self] at gone
                    cases gone
            · refine .pure trivial fun fine => absurd ?_ fine
              rw [if_pos negative]
              exact negative
          refine holds_ensureParentDir trivial (fun ready _ => ?_) (fun parent _ vacant => ?_)
          · split
            · next negative => exact stops negative
            · exact moves volume there
          · rw [if_neg (by decide)]
            refine moves _ ?_
            rw [Function.update_of_ne, there]
            rintro same
            rw [same, vacant] at there
            cases there
    · refine stays _ fun _ => tmp fun content same => ?_
      rw [absent] at same
      cases same
    · dsimp only
      rw [if_neg other]
      exact stops negative
  · dsimp only
    rw [if_pos other]
    exact stops negative

theorem recoverTmpSeedIfNeeded_finds {now : Volume} (found : Found store volume now) :
    Leads (recoverTmpSeedIfNeeded store) now fun _ left =>
      left store.path.text ≠ none → left store.path.text = held store volume := by
  have stops : ∀ code, Leads (pure code) now fun _ left =>
      left store.path.text ≠ none → left store.path.text = held store volume :=
    fun _ => .pure trivial found.present
  unfold recoverTmpSeedIfNeeded
  simp only [FileSystem.stat, Program.request_bind]
  refine FileSystem.holds_stat trivial (fun _ _ => stops _) (fun missing => ?_)
    (fun error _ other => ?_)
  · dsimp only
    rw [if_neg (not_not.mpr rfl)]
    refine FileSystem.holds_stat trivial (fun _ _ => ?_) (fun _ => stops _) (fun _ _ _ => stops _)
    refine holds_readSnapshotFile trivial fun result _ => ?_
    cases result with
    | error error =>
        refine FileSystem.holds_unlink trivial (fun _ _ => .pure trivial fun present => ?_)
          fun _ _ => stops _
        by_cases same : store.path.text = store.tmpPath.text
        · rw [same, Function.update_self] at present
          exact absurd rfl present
        · rw [Function.update_of_ne same] at present
          exact absurd missing present
    | ok snapshot =>
        refine FileSystem.holds_rename trivial (fun node there => .pure trivial fun _ => ?_)
          fun _ _ => stops _
        rw [Function.update_self, ← there]
        exact found.missing missing
  · dsimp only
    rw [if_pos other]
    exact stops _

theorem load_held : Holds FileSystem.machine (fun _ => True) (fun _ => True)
    (fun result _ => ∀ snapshot, result = .ok snapshot →
      readNode (held store volume) = .ok snapshot) (load store) volume := by
  have stops : ∀ {now : Volume} (error : Int),
      Holds FileSystem.machine (fun _ => True) (fun _ => True)
        (fun result _ => ∀ snapshot, result = .ok snapshot →
          readNode (held store volume) = .ok snapshot)
        (pure (.error error) : FileM (Except Int Snapshot)) now := fun _ => .pure trivial nofun
  unfold load
  split
  · exact stops _
  refine .bind (migrateLegacySeedIfNeeded_finds.weaken (fun _ _ => trivial)
    fun migrated now _ found => ?_)
  split
  · exact stops _
  · next fine =>
      refine .bind ((recoverTmpSeedIfNeeded_finds (found fine)).weaken
        (fun _ _ => trivial) fun recovered left _ same => ?_)
      split
      · exact stops _
      · rw [← Program.bind_pure (readSnapshotFile store.path.text)]
        refine holds_readSnapshotFile trivial fun result reads =>
          .pure trivial fun snapshot there => ?_
        have read := reads snapshot there
        rwa [same] at read
        intro missing
        rw [missing] at read
        cases read

end Load

section Apply

variable {snapshot : Snapshot}

theorem decode_few {bytes : List UInt8} (decoded : decode bytes = .ok snapshot) :
    snapshot.entries.length ≤ RecoverySeed.maxEntries := by
  unfold decode at decoded
  split at decoded
  · cases decoded
  dsimp only at decoded
  split at decoded
  · cases decoded
  split at decoded
  · cases decoded
  split at decoded
  · unfold decodeV1 at decoded
    split at decoded
    · cases decoded
    next few =>
    dsimp only at decoded
    split at decoded
    · cases decoded
    split at decoded
    · cases decoded
    · cases decoded
      rw [FixedLayout.Layout.readMany_length]
      exact Nat.not_lt.mp few
  · cases decoded

theorem readNode_few {node : Option Node} (reads : readNode node = .ok snapshot) :
    snapshot.entries.length ≤ RecoverySeed.maxEntries := by
  obtain ⟨content, something, rfl⟩ := readNode_ok reads
  rw [readNode, if_neg something] at reads
  split at reads
  · cases reads
  · exact decode_few reads

theorem applySnapshot_few (few : snapshot.entries.length ≤ RecoverySeed.maxEntries)
    (updates : Manager) (artifacts : ArtifactStore.Store) :
    (SeedSnapshot.applySnapshot snapshot updates artifacts).1 = 0 := by
  unfold SeedSnapshot.applySnapshot UpdateManager.importEntries ArtifactStore.importEntries
  rw [if_neg (Nat.not_lt_of_le few)]
  dsimp only
  rw [if_neg (Nat.not_lt_of_le (List.length_take_le _ _)), if_neg (fun other => other rfl),
    if_neg (Nat.not_lt_of_le (List.length_take_le _ _))]

end Apply

end NeuroLink.HeldSeed
