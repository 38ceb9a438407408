import NeuroLink.SeedAtomicity

/-!
The files of the seed between saves and loads. When only fine snapshots are saved, nothing else
can be read under the paths of the store, whatever fails and wherever a call is cut off; and a
save that returns zero has put its snapshot under the store path.
-/

namespace NeuroLink.SeedFiles

open CText EffectProgram FileSystem RecoverySeed SeedStore SeedAtomicity

def places (store : Store) : List Text :=
  [store.path.text, store.tmpPath.text, store.legacyPath.text]

/-- Whatever reads as a snapshot there is a fine one. -/
def Wholesome (fine : Snapshot → Prop) (store : Store) (volume : Volume) : Prop :=
  ∀ place ∈ places store, ∀ snapshot, readNode (volume place) = .ok snapshot → fine snapshot

variable {fine : Snapshot → Prop} {store : Store} {volume : Volume}

theorem Wholesome.update (wholesome : Wholesome fine store volume) (path : Text)
    {node : Option Node} (fresh : ∀ snapshot, readNode node = .ok snapshot → fine snapshot) :
    Wholesome fine store (Function.update volume path node) := by
  intro place member snapshot reads
  by_cases same : place = path
  · rw [same, Function.update_self] at reads
    exact fresh snapshot reads
  · rw [Function.update_of_ne same] at reads
    exact wholesome place member snapshot reads

theorem Wholesome.unlink (wholesome : Wholesome fine store volume) (path : Text) :
    Wholesome fine store (Function.update volume path none) :=
  wholesome.update path nofun

theorem Wholesome.mkdir (wholesome : Wholesome fine store volume) (path : Text) :
    Wholesome fine store (Function.update volume path (some .dir)) :=
  wholesome.update path nofun

theorem Wholesome.rename (wholesome : Wholesome fine store volume) {source : Text}
    (target : Text) (member : source ∈ places store) {node : Node}
    (there : volume source = some node) :
    Wholesome fine store (Function.update (Function.update volume source none) target
      (some node)) := by
  refine (wholesome.unlink source).update target ?_
  rw [← there]
  exact wholesome source member

section Save

variable {new : Snapshot}

abbrev Saves (fine : Snapshot → Prop) (store : Store) (new : Snapshot) (program : FileM Int)
    (volume : Volume) : Prop :=
  Holds machine (fun _ => True) (Wholesome fine store)
    (fun code after => code = 0 → Stored store after new) program volume

theorem saves_error {error : Int} (negative : error ≠ 0) (kept : Wholesome fine store volume) :
    Saves fine store new (pure error) volume :=
  .pure kept fun zero => absurd zero negative

theorem discardTmp_saves {error : Int} (negative : error ≠ 0)
    (kept : Wholesome fine store volume) :
    Saves fine store new (discardTmp store error) volume :=
  holds_discardTmp kept (fun zero => absurd zero negative) fun _ _ =>
    ⟨kept.unlink _, fun zero => absurd zero negative⟩

theorem publishTmp_saves (few : new.entries.length ≤ maxEntries)
    (kept : Wholesome fine store volume)
    (whole : volume store.tmpPath.text = some (.file (image new))) :
    Saves fine store new (publishTmp store) volume := by
  have tmp : store.tmpPath.text ∈ places store := by simp [places]
  have stored : ∀ middle : Volume,
      Stored store (Function.update middle store.path.text (some (.file (image new)))) new := by
    intro middle
    rw [Stored, Function.update_self]
    exact readNode_image new few
  unfold publishTmp
  simp only [FileSystem.rename, FileSystem.unlink, Program.request_bind]
  refine holds_rename kept (fun node found => ?_) (fun error negative => ?_)
  · have moved := kept.rename store.path.text tmp found
    rw [whole] at found
    cases found
    exact .pure moved fun _ => stored _
  have failed : Saves fine store new (discardTmp store error) volume :=
    discardTmp_saves (Int.ne_of_lt negative) kept
  rw [if_pos negative]
  split
  · refine holds_unlink kept (fun _ _ => ?_) (fun error refused => ?_)
    · have gone := kept.unlink store.path.text
      rw [if_neg (by decide)]
      refine holds_rename gone (fun node found => ?_) (fun error refused => ?_)
      · have moved := gone.rename store.path.text tmp found
        by_cases same : store.tmpPath.text = store.path.text
        · rw [same, Function.update_self] at found
          cases found
        · rw [Function.update_of_ne same, whole] at found
          cases found
          exact .pure moved fun _ => stored _
      · rw [if_pos refused]
        exact discardTmp_saves (Int.ne_of_lt refused) gone
    · rw [if_pos refused]
      exact discardTmp_saves (Int.ne_of_lt refused) kept
  · exact failed

theorem Wholesome.writing (kept : Wholesome fine store volume) (isFine : fine new)
    (few : new.entries.length ≤ maxEntries) {now : Volume}
    (writing : Writing store volume (image new) now) : Wholesome fine store now := by
  intro place member snapshot reads
  by_cases same : place = store.tmpPath.text
  · obtain ⟨count, part⟩ := writing.part
    rw [same, part] at reads
    rw [readNode_part few reads]
    exact isFine
  · rw [writing.others place same] at reads
    exact kept place member snapshot reads

theorem encode_error {error : Int} (encoded : encode new maxImage = .error error) :
    error ≠ 0 := by
  rintro rfl
  unfold encode at encoded
  split at encoded
  · cases encoded
  · split at encoded <;> cases encoded

theorem save_saves (isFine : fine new) (kept : Wholesome fine store volume) :
    Saves fine store new (save store new) volume := by
  have written : ∀ {middle : Volume} {content : List UInt8}, Wholesome fine store middle →
      encode new maxImage = .ok content → Saves fine store new (writeTmp store content) middle := by
    intro middle content kept encoded
    obtain ⟨few, rfl⟩ := encode_ok_iff.mp encoded
    refine holds_writeTmp kept (fun error negative zero => by omega)
      (fun _ now writing => kept.writing isFine few writing)
      (fun _ now error negative writing => ?_) (fun now writing whole => ?_)
    · exact discardTmp_saves (Int.ne_of_lt negative) (kept.writing isFine few writing)
    · exact publishTmp_saves few (kept.writing isFine few writing) whole
  unfold save
  split
  · exact saves_error (by decide) kept
  split
  · exact saves_error (by decide) kept
  refine holds_ensureParentDir kept (fun ready _ => ?_) (fun parent _ _ => ?_)
  · split
    · next negative => exact saves_error (Int.ne_of_lt negative) kept
    split
    · next encoded => exact saves_error (encode_error encoded) kept
    · next encoded => exact written kept encoded
  · rw [if_neg (by decide)]
    split
    · next encoded => exact saves_error (encode_error encoded) (kept.mkdir parent)
    · next encoded => exact written (kept.mkdir parent) encoded

theorem save_named {answers : List Outcome}
    (zero : (run machine answers (save store new) volume).1 = 0) : store.path.text ≠ [] := by
  intro empty
  rw [save, if_pos empty] at zero
  change -Errno.einval = 0 at zero
  exact absurd zero (by decide)

end Save

section Load

abbrev Tends (fine : Snapshot → Prop) (store : Store) (program : FileM Int) (volume : Volume) :
    Prop :=
  Holds machine (fun _ => True) (Wholesome fine store) (fun _ _ => True) program volume

theorem renamed_tends {source : Text} (target : Text) (member : source ∈ places store)
    (kept : Wholesome fine store volume) :
    Tends fine store (do
      let renamed ← rename source target
      pure (if renamed < 0 then renamed else 0)) volume :=
  holds_rename kept (fun _ found => .pure (kept.rename target member found) trivial)
    (fun _ _ => .pure kept trivial)

theorem migrateLegacySeedIfNeeded_tends (kept : Wholesome fine store volume) :
    Tends fine store (migrateLegacySeedIfNeeded store) volume := by
  have legacy : store.legacyPath.text ∈ places store := by simp [places]
  have stops : ∀ code, Tends fine store (pure code) volume := fun _ => .pure kept trivial
  unfold migrateLegacySeedIfNeeded
  split
  · exact stops _
  simp only [stat, Program.request_bind]
  refine holds_stat kept (fun _ _ => stops _) (fun _ => ?_) (fun error _ other => ?_)
  · refine holds_stat kept (fun node _ => ?_) (fun _ => stops _) (fun _ _ _ => stops _)
    dsimp only
    split
    · exact stops _
    refine holds_ensureParentDir kept (fun ready _ => ?_) (fun parent _ _ => ?_)
    · split
      · exact stops _
      · exact renamed_tends _ legacy kept
    · rw [if_neg (by decide)]
      exact renamed_tends _ legacy (kept.mkdir parent)
  · simp only [ne_eq, other, not_false_eq_true, ↓reduceIte]
    exact stops _

theorem recoverTmpSeedIfNeeded_tends (kept : Wholesome fine store volume) :
    Tends fine store (recoverTmpSeedIfNeeded store) volume := by
  have tmp : store.tmpPath.text ∈ places store := by simp [places]
  have stops : ∀ code, Tends fine store (pure code) volume := fun _ => .pure kept trivial
  unfold recoverTmpSeedIfNeeded
  simp only [stat, Program.request_bind]
  refine holds_stat kept (fun _ _ => stops _) (fun _ => ?_) (fun error _ other => ?_)
  · refine holds_stat kept (fun _ _ => ?_) (fun _ => stops _) (fun _ _ _ => stops _)
    refine holds_readSnapshotFile kept fun result _ => ?_
    cases result with
    | error error =>
        exact holds_unlink kept (fun _ _ => .pure (kept.unlink _) trivial) fun _ _ => stops _
    | ok snapshot => exact renamed_tends _ tmp kept
  · simp only [ne_eq, other, not_false_eq_true, ↓reduceIte]
    exact stops _

/-- A load that succeeds returns a fine snapshot. -/
theorem load_finds (kept : Wholesome fine store volume) :
    Holds machine (fun _ => True) (Wholesome fine store)
      (fun result _ => ∀ snapshot, result = .ok snapshot → fine snapshot)
      (load store) volume := by
  have stops : ∀ {now : Volume} (error : Int), Wholesome fine store now →
      Holds machine (fun _ => True) (Wholesome fine store)
        (fun result _ => ∀ snapshot, result = .ok snapshot → fine snapshot)
        (pure (.error error) : FileM (Except Int Snapshot)) now :=
    fun _ kept => .pure kept nofun
  have path : store.path.text ∈ places store := by simp [places]
  unfold load
  split
  · exact stops _ kept
  refine .bind ((migrateLegacySeedIfNeeded_tends kept).weaken (fun _ kept => kept)
    fun migrated now kept _ => ?_)
  split
  · exact stops _ kept
  refine .bind ((recoverTmpSeedIfNeeded_tends kept).weaken (fun _ kept => kept)
    fun recovered now kept _ => ?_)
  split
  · exact stops _ kept
  · rw [← Program.bind_pure (readSnapshotFile store.path.text)]
    exact holds_readSnapshotFile kept fun result reads =>
      .pure kept fun snapshot same => kept _ path snapshot (reads snapshot same)

end Load

end NeuroLink.SeedFiles
