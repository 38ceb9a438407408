import NeuroLink.FileSystem
import NeuroLink.RecoverySeed

/-!
The file behind the recovery seed. A save writes a temporary file and renames it
over the store file, removing the store file first where the file system refuses
to replace it. A load first moves a legacy file or a surviving temporary file to
the store path when the store file is absent.
-/

namespace NeuroLink.SeedStore

open CText EffectProgram Errno FileSystem RecoverySeed

structure Store where
  path : Buffer 128
  tmpPath : Buffer 128
  bakPath : Buffer 128
  legacyPath : Buffer 128
  deriving DecidableEq

def defaultPath : Text := lit "/SD:/recovery.seed"

def legacySeedPath : Text := lit "/SD:/neuro/recovery.seed"

/-- The path with a suffix of four characters, or the path itself when there is
no room for the suffix. -/
def withSuffix (path : Buffer 128) (suffix : Text) (four : suffix.length = 4) :
    Buffer 128 :=
  if room : path.text.length + 4 < 128 then
    ⟨path.text ++ suffix, by
      rw [List.length_append]
      omega⟩
  else path

/-- `neuro_recovery_seed_store_init`; no path stands for the null pointer. -/
def init (path : Option Text) : Store :=
  let stored : Buffer 128 := copyBounded (path.getD defaultPath)
  { path := stored
    tmpPath := withSuffix stored (lit ".tmp") (by decide)
    bakPath := withSuffix stored (lit ".bak") (by decide)
    legacyPath := copyBounded legacySeedPath }

def slash : Letter := ⟨47, by decide⟩

/-- `split_parent_dir` into an array of 128 characters. -/
def splitParentDir (path : Text) : Except Int Text :=
  match strrchr slash path with
  | none => .error (-einval)
  | some dirLen =>
      if dirLen = 0 ∨ 128 ≤ dirLen then .error (-einval) else .ok (path.take dirLen)

def ensureParentDir (path : Text) : FileM Int :=
  match splitParentDir path with
  | .error error => pure error
  | .ok parent => do
      match ← stat parent with
      | .ok entry => pure (if entry.kind = .dir then 0 else -enotdir)
      | .error error =>
          if error ≠ -enoent then pure error
          else do
            let made ← mkdir parent
            pure (if made < 0 ∧ made ≠ -eexist then made else 0)

def readSnapshotFile (path : Text) : FileM (Except Int Snapshot) :=
  if path = [] then pure (.error (-einval))
  else do
    match ← stat path with
    | .error error => pure (.error error)
    | .ok entry =>
        if entry.kind ≠ .file ∨ entry.size = 0 then pure (.error (-ebadmsg))
        else if entry.size > maxImage then pure (.error (-efbig))
        else do
          let opened ← openRead path
          if opened < 0 then pure (.error opened)
          else do
            let content ← read path entry.size
            let _ ← close path
            match content with
            | .error _ => pure (.error (-eio))
            | .ok content =>
                if content.length ≠ entry.size then pure (.error (-eio))
                else pure (decode content)

def migrateLegacySeedIfNeeded (store : Store) : FileM Int :=
  if store.legacyPath.text = [] then pure (-einval)
  else do
    match ← stat store.path.text with
    | .ok _ => pure 0
    | .error error =>
        if error ≠ -enoent then pure error
        else do
          match ← stat store.legacyPath.text with
          | .error error => pure (if error = -enoent then 0 else error)
          | .ok entry =>
              if entry.kind ≠ .file ∨ entry.size = 0 then pure 0
              else do
                let ready ← ensureParentDir store.path.text
                if ready < 0 then pure ready
                else do
                  let renamed ← rename store.legacyPath.text store.path.text
                  pure (if renamed < 0 then renamed else 0)

/-- A surviving temporary file is promoted when it is a whole snapshot and
removed when it is not. -/
def recoverTmpSeedIfNeeded (store : Store) : FileM Int := do
  match ← stat store.path.text with
  | .ok _ => pure 0
  | .error error =>
      if error ≠ -enoent then pure error
      else do
        match ← stat store.tmpPath.text with
        | .error error => pure (if error = -enoent then 0 else error)
        | .ok _ =>
            match ← readSnapshotFile store.tmpPath.text with
            | .error error => do
                let _ ← unlink store.tmpPath.text
                pure error
            | .ok _ => do
                let renamed ← rename store.tmpPath.text store.path.text
                pure (if renamed < 0 then renamed else 0)

def discardTmp (store : Store) (error : Int) : FileM Int := do
  let _ ← unlink store.tmpPath.text
  pure error

def publishTmp (store : Store) : FileM Int := do
  let renamed ← rename store.tmpPath.text store.path.text
  if renamed = -eexist ∨ renamed = -enotempty then do
    let removed ← unlink store.path.text
    if removed < 0 then discardTmp store removed
    else do
      let renamed ← rename store.tmpPath.text store.path.text
      if renamed < 0 then discardTmp store renamed else pure 0
  else if renamed < 0 then discardTmp store renamed
  else pure 0

/-- The middle of a save: the whole image in the temporary file, synced and
closed. -/
def writeTmp (store : Store) (content : List UInt8) : FileM Int := do
  let opened ← openTruncate store.tmpPath.text
  if opened < 0 then pure opened
  else do
    let written ← write store.tmpPath.text content
    if written < 0 ∨ written ≠ content.length then do
      let _ ← close store.tmpPath.text
      discardTmp store (if written < 0 then written else -eio)
    else do
      let synced ← sync store.tmpPath.text
      if synced < 0 then do
        let _ ← close store.tmpPath.text
        discardTmp store synced
      else do
        let closed ← close store.tmpPath.text
        if closed < 0 then discardTmp store closed else publishTmp store

/-- `neuro_recovery_seed_store_save`. -/
def save (store : Store) (snapshot : Snapshot) : FileM Int :=
  if store.path.text = [] then pure (-einval)
  else if store.tmpPath.text = [] ∨ store.bakPath.text = [] then pure (-einval)
  else do
    let ready ← ensureParentDir store.path.text
    if ready < 0 then pure ready
    else
      match encode snapshot maxImage with
      | .error error => pure error
      | .ok content => writeTmp store content

/-- `neuro_recovery_seed_store_load`. -/
def load (store : Store) : FileM (Except Int Snapshot) :=
  if store.path.text = [] then pure (.error (-einval))
  else do
    let migrated ← migrateLegacySeedIfNeeded store
    if migrated < 0 then pure (.error migrated)
    else do
      let recovered ← recoverTmpSeedIfNeeded store
      if recovered < 0 ∧ recovered ≠ -enoent then pure (.error recovered)
      else readSnapshotFile store.path.text

/-! The paths of a store. -/

/-- The facts about its four paths that a store has from its initialization. -/
structure Addressed (store : Store) : Prop where
  named : store.path.text ≠ []
  tmpNamed : store.tmpPath.text ≠ []
  bakNamed : store.bakPath.text ≠ []
  legacyNamed : store.legacyPath.text ≠ []
  tmpLonger : store.tmpPath = store.path ∨
    store.path.text.length < store.tmpPath.text.length
  tmpNotLegacy : store.tmpPath.text = store.legacyPath.text →
    store.tmpPath = store.path

theorem withSuffix_cases (path : Buffer 128) (suffix : Text) (four : suffix.length = 4) :
    withSuffix path suffix four = path ∨
      (withSuffix path suffix four).text = path.text ++ suffix := by
  unfold withSuffix
  split
  · exact .inr rfl
  · exact .inl rfl

theorem init_addressed (path : Option Text) (named : (init path).path.text ≠ []) :
    Addressed (init path) := by
  have nonempty (suffix : Text) (four : suffix.length = 4) :
      (withSuffix (init path).path suffix four).text ≠ [] := by
    rcases withSuffix_cases (init path).path suffix four with same | longer
    · rw [same]
      exact named
    · rw [longer]
      intro empty
      exact named (List.append_eq_nil_iff.mp empty).1
  refine ⟨named, nonempty _ (by decide), nonempty _ (by decide),
    show legacySeedPath.take 127 ≠ [] by decide, ?_, ?_⟩
  · rcases withSuffix_cases (init path).path (lit ".tmp") (by decide) with same | longer
    · exact .inl same
    · right
      change _ < (withSuffix (init path).path (lit ".tmp") (by decide)).text.length
      rw [longer, List.length_append]
      have four : (lit ".tmp").length = 4 := by decide
      omega
  · intro clash
    rcases withSuffix_cases (init path).path (lit ".tmp") (by decide) with same | longer
    · exact same
    · -- the legacy path does not end in the suffix
      have ends : (init path).path.text ++ lit ".tmp" = legacySeedPath := by
        rw [← longer]
        exact clash
      have size := congrArg List.length ends
      rw [List.length_append, show (lit ".tmp").length = 4 by decide,
        show legacySeedPath.length = 24 by decide] at size
      have tail := congrArg (List.drop 20) ends
      rw [List.drop_left' (by omega)] at tail
      exact absurd tail (by decide)

theorem splitParentDir_shorter {path parent : Text}
    (split : splitParentDir path = .ok parent) : parent.length < path.length := by
  unfold splitParentDir at split
  cases found : strrchr slash path with
  | none =>
      rw [found] at split
      cases split
  | some dirLen =>
      rw [found] at split
      have inside := strrchr_lt found
      dsimp only at split
      split at split
      · cases split
      · cases split
        rw [List.length_take]
        omega

/-! Rules for the parts of a save. -/

section Rules

variable {Result : Type} {allowed : Event Op Reply Volume → Prop} {inv : Volume → Prop}
  {post : Result → Volume → Prop} {volume : Volume} {path : Text} {store : Store}

theorem holds_ensureParentDir {next : Int → FileM Result} (kept : inv volume)
    (ready : ∀ reply, (¬ reply < 0 → ∃ parent, splitParentDir path = .ok parent) →
      Holds machine allowed inv post (next reply) volume)
    (made : ∀ parent, splitParentDir path = .ok parent → volume parent = none →
      Holds machine allowed inv post (next 0)
        (Function.update volume parent (some .dir))) :
    Holds machine allowed inv post (ensureParentDir path >>= next) volume := by
  unfold ensureParentDir
  cases split : splitParentDir path with
  | error error =>
      refine ready error fun fine => absurd ?_ fine
      unfold splitParentDir at split
      revert split
      split
      · rintro ⟨⟩
        decide
      · split
        · rintro ⟨⟩
          decide
        · rintro ⟨⟩
  | ok parent =>
      simp only [stat, mkdir, Program.request_bind, Program.call_bind]
      refine holds_stat kept (fun node _ => ?_) (fun absent => ?_)
        (fun error negative other => ?_)
      · exact ready _ fun _ => ⟨parent, split⟩
      · refine holds_mkdir kept (fun _ => made parent split absent)
          (fun error negative => ?_)
        exact ready _ fun _ => ⟨parent, split⟩
      · simp only [ne_eq, other, not_false_eq_true, ↓reduceIte]
        exact ready error fun _ => ⟨parent, split⟩

variable {saved : Int → Volume → Prop}

theorem holds_discardTmp {error : Int} (kept : inv volume) (failed : saved error volume)
    (removed : volume store.tmpPath.text ≠ none →
      allowed ⟨.unlink store.tmpPath.text, volume, (0 : Int),
        Function.update volume store.tmpPath.text none⟩ →
      inv (Function.update volume store.tmpPath.text none) ∧
        saved error (Function.update volume store.tmpPath.text none)) :
    Holds machine allowed inv saved (discardTmp store error) volume :=
  holds_unlink kept
    (fun there valid => .pure (removed there valid).1 (removed there valid).2)
    (fun _ _ => .pure kept failed)

/-- The volumes a save goes through while it writes the temporary file: nothing
else changed, and the file holds a first part of the image. -/
structure Writing (store : Store) (before : Volume) (content : List UInt8)
    (now : Volume) : Prop where
  others : ∀ path, path ≠ store.tmpPath.text → now path = before path
  part : ∃ count, now store.tmpPath.text = some (.file (content.take count))

/-- Writing the temporary file reaches only such volumes, discards the file on an
error, and goes on to publish it once it is whole. -/
theorem holds_writeTmp {content : List UInt8} (kept : inv volume)
    (unopened : ∀ error, error < 0 → saved error volume)
    (opens : allowed ⟨.openTruncate store.tmpPath.text, volume, (0 : Int),
        Function.update volume store.tmpPath.text (some (.file []))⟩ →
      ∀ now, Writing store volume content now → inv now)
    (discards : allowed ⟨.openTruncate store.tmpPath.text, volume, (0 : Int),
        Function.update volume store.tmpPath.text (some (.file []))⟩ →
      ∀ now error, error < 0 → Writing store volume content now →
      Holds machine allowed inv saved (discardTmp store error) now)
    (publishes : ∀ now, Writing store volume content now →
      now store.tmpPath.text = some (.file content) →
      Holds machine allowed inv saved (publishTmp store) now) :
    Holds machine allowed inv saved (writeTmp store content) volume := by
  unfold writeTmp
  simp only [openTruncate, write, sync, close, Program.request_bind]
  refine holds_openTruncate kept (fun opened => ?_) (fun error negative => ?_)
  · have empty : Writing store volume content
        (Function.update volume store.tmpPath.text (some (.file []))) :=
      ⟨fun path other => Function.update_of_ne other _ _, 0, by simp⟩
    rw [if_neg (by decide)]
    refine holds_write (opens opened _ empty) fun count reply full => ?_
    have appended : append (Function.update volume store.tmpPath.text (some (.file [])))
        store.tmpPath.text (content.take count) =
        Function.update volume store.tmpPath.text (some (.file (content.take count))) := by
      simp [append]
    rw [appended]
    -- a write may stop anywhere: the file holds a front part of the content
    have now : Writing store volume content
        (Function.update volume store.tmpPath.text (some (.file (content.take count)))) :=
      ⟨fun path other => Function.update_of_ne other _ _, count, by simp⟩
    split
    · refine holds_close (opens opened _ now) fun _ => discards opened _ _ ?_ now
      split
      · assumption
      · decide
    · next fine =>
        have whole := full (not_not.mp (not_or.mp fine).2)
        refine holds_sync (opens opened _ now) fun synced => ?_
        split
        · next bad =>
            exact holds_close (opens opened _ now) fun _ => discards opened _ _ bad now
        · refine holds_close (opens opened _ now) fun closed => ?_
          split
          · next bad => exact discards opened _ _ bad now
          · exact publishes _ now (by rw [whole]; simp)
  · simp only [negative, ↓reduceIte]
    exact .pure kept (unopened error negative)

end Rules

/-! What a load returns when every call works. -/

/-- What reading the file under a path returns. -/
def readNode : Option Node → Except Int Snapshot
  | none => .error (-enoent)
  | some .dir => .error (-ebadmsg)
  | some (.file content) =>
      if content = [] then .error (-ebadmsg)
      else if content.length > maxImage then .error (-efbig)
      else decode content

/-- A regular file with something in it, which is what `load` migrates. -/
def Usable (volume : Volume) (path : Text) : Prop :=
  ∃ content, content ≠ [] ∧ volume path = some (.file content)

def ParentExists (volume : Volume) (path : Text) : Prop :=
  ∃ parent, splitParentDir path = .ok parent ∧ volume parent = some .dir

theorem readNode_image (snapshot : Snapshot)
    (few : snapshot.entries.length ≤ RecoverySeed.maxEntries) :
    readNode (some (.file (image snapshot))) = .ok snapshot := by
  have size := image_length snapshot
  have bound : snapshot.entries.length ≤ 4 := few
  have nonempty : image snapshot ≠ [] := by
    intro empty
    rw [empty, List.length_nil] at size
    omega
  have fits : ¬ (image snapshot).length > maxImage := by
    simp only [maxImage, headerLayout_width, entryLayout_width]
    omega
  rw [readNode, if_neg nonempty, if_neg fits, decode_image snapshot few]

theorem readNode_part {snapshot found : Snapshot} {count : Nat}
    (few : snapshot.entries.length ≤ RecoverySeed.maxEntries)
    (reads : readNode (some (.file ((image snapshot).take count))) = .ok found) :
    found = snapshot := by
  by_cases short : ((image snapshot).take count).length < (image snapshot).length
  · rw [readNode, decode_prefix few (List.take_prefix _ _) short] at reads
    split at reads
    · cases reads
    · split at reads <;> cases reads
  · rw [List.length_take] at short
    rw [List.take_of_length_le (by omega), readNode_image snapshot few] at reads
    exact (Except.ok.inj reads).symm

theorem readNode_ok {node : Option Node} {snapshot : Snapshot}
    (reads : readNode node = .ok snapshot) :
    ∃ content, content ≠ [] ∧ node = some (.file content) := by
  cases node with
  | none => cases reads
  | some node =>
      cases node with
      | dir => cases reads
      | file content =>
          refine ⟨content, fun empty => ?_, rfl⟩
          rw [readNode, if_pos empty] at reads
          cases reads

theorem holds_readSnapshotFile {Result : Type} {allowed : Event Op Reply Volume → Prop}
    {inv : Volume → Prop} {post : Result → Volume → Prop} {volume : Volume} {path : Text}
    {next : Except Int Snapshot → FileM Result} (kept : inv volume)
    (continues : ∀ result,
      (∀ snapshot, result = .ok snapshot → readNode (volume path) = .ok snapshot) →
      Holds machine allowed inv post (next result) volume) :
    Holds machine allowed inv post (readSnapshotFile path >>= next) volume := by
  have fails (error : Int) :
      Holds machine allowed inv post (next (.error error)) volume :=
    continues _ fun snapshot same => by cases same
  unfold readSnapshotFile
  split
  · exact fails _
  · simp only [stat, openRead, FileSystem.read, close, Program.request_bind,
      Program.call_bind]
    refine holds_stat kept (fun node there => ?_) (fun _ => fails _) (fun error _ _ => fails _)
    dsimp only
    split
    · exact fails _
    · next regular =>
        split
        · exact fails _
        · next small =>
            cases node with
            | dir => exact absurd (.inl (by decide)) regular
            | file content =>
                have something : content ≠ [] := by
                  rintro rfl
                  exact regular (.inr rfl)
                refine holds_openRead kept fun opened => ?_
                dsimp only
                split
                · exact fails _
                · refine holds_read kept fun reply whole => ?_
                  refine holds_close kept fun _ => ?_
                  cases reply with
                  | error error => exact fails _
                  | ok bytes =>
                      dsimp only
                      split
                      · exact fails _
                      · next full =>
                          -- the size was asked before the read: a full read is the whole file
                          have held : contentAt volume path = content := by
                            simp [contentAt, there]
                          have same : bytes = content := by
                            rw [← held]
                            refine whole bytes rfl (not_not.mp full) ?_
                            rw [held]
                            rfl
                          refine continues _ fun snapshot decoded => ?_
                          have fits : ¬ content.length > maxImage := small
                          rw [there, readNode, if_neg something, if_neg fits, ← same]
                          exact decoded

theorem run_readSnapshotFile {path : Text} (named : path ≠ []) (volume : Volume) :
    run machine [] (readSnapshotFile path) volume = (readNode (volume path), volume) := by
  unfold readSnapshotFile
  rw [if_neg named]
  simp only [stat, openRead, FileSystem.read, close, Program.request_bind, run_nil_call,
    machine_default]
  cases there : volume path with
  | none => simp [perform, there, readNode]
  | some node =>
      cases node with
      | dir => simp [perform, there, readNode, Node.dirent]
      | file content =>
          by_cases empty : content = []
          · simp [perform, there, readNode, Node.dirent, empty]
          · by_cases big : maxImage < content.length
            · simp [perform, there, readNode, Node.dirent, empty, big]
            · simp [perform, there, readNode, Node.dirent, empty, big, contentAt]

theorem run_ensureParentDir {volume : Volume} {path : Text}
    (exists_ : ParentExists volume path) :
    run machine [] (ensureParentDir path) volume = (0, volume) := by
  obtain ⟨parent, split, there⟩ := exists_
  simp [ensureParentDir, split, stat, perform, there, Node.dirent]

variable {store : Store} {volume : Volume}

theorem load_present (named : store.path.text ≠ []) (legacy : store.legacyPath.text ≠ [])
    {node : Node} (there : volume store.path.text = some node) :
    (run machine [] (load store) volume).1 = readNode (some node) := by
  simp [load, named, migrateLegacySeedIfNeeded, legacy, recoverTmpSeedIfNeeded, stat,
    perform, there, run_readSnapshotFile named]

/-- Making sure of the directory fails, or leaves every other path alone and
succeeds, as it does when the directory is there. -/
theorem ensureParentDir_run (volume : Volume) (path : Text) :
    ∃ (ready : Int) (after : Volume),
      run machine [] (ensureParentDir path) volume = (ready, after) ∧
      (∀ other node, volume other = some node → after other = some node) ∧
      (ParentExists volume path → ready = 0) := by
  cases split : splitParentDir path with
  | error error =>
      refine ⟨error, volume, by simp [ensureParentDir, split], fun _ _ there => there, ?_⟩
      rintro ⟨parent, found, _⟩
      rw [split] at found
      cases found
  | ok parent =>
      cases there : volume parent with
      | none =>
          refine ⟨0, Function.update volume parent (some .dir), ?_, ?_, fun _ => rfl⟩
          · simp [ensureParentDir, split, stat, perform, there, mkdir]
          · intro other node held
            rw [Function.update_of_ne (by rintro rfl; rw [there] at held; cases held)]
            exact held
      | some node =>
          refine ⟨if node.dirent.kind = .dir then 0 else -enotdir, volume,
            by simp [ensureParentDir, split, stat, perform, there], fun _ _ held => held, ?_⟩
          rintro ⟨found, same, dir⟩
          rw [split] at same
          cases same
          rw [there] at dir
          cases dir
          rfl

/-- With no store file, a usable legacy file takes its place or the load fails. -/
theorem migrate_run (legacy : store.legacyPath.text ≠ [])
    (missing : volume store.path.text = none)
    {content : List UInt8} (something : content ≠ [])
    (there : volume store.legacyPath.text = some (.file content)) :
    ∃ (migrated : Int) (after : Volume),
      run machine [] (migrateLegacySeedIfNeeded store) volume = (migrated, after) ∧
      (migrated < 0 ∨ after store.path.text = some (.file content)) ∧
      (ParentExists volume store.path.text → ¬ migrated < 0) := by
  obtain ⟨ready, middle, made, kept, parent⟩ :=
    ensureParentDir_run volume store.path.text
  have still : middle store.legacyPath.text = some (.file content) := kept _ _ there
  have start : run machine [] (migrateLegacySeedIfNeeded store) volume =
      run machine []
        (if ready < 0 then pure ready
          else do
            let renamed ← rename store.legacyPath.text store.path.text
            pure (if renamed < 0 then renamed else 0)) middle := by
    simp [migrateLegacySeedIfNeeded, legacy, stat, perform, missing, there, Node.dirent,
      something, run_nil_bind, made]
  rw [start]
  -- the parent could not be made, or the rename meets nothing, a directory or a file
  by_cases bad : ready < 0
  · refine ⟨ready, middle, by simp [bad], .inl bad, fun exists_ => ?_⟩
    rw [parent exists_] at bad
    exact absurd bad (by decide)
  · cases onto : middle store.path.text with
    | none =>
        refine ⟨0, Function.update (Function.update middle store.legacyPath.text none)
          store.path.text (some (.file content)), ?_, .inr (by simp), by simp⟩
        simp [bad, rename, perform, still, onto]
    | some node =>
        cases node with
        | dir =>
            refine ⟨-eisdir, middle, by simp [bad, rename, perform, still, onto],
              .inl (by decide), ?_⟩
            intro exists_
            have same := run_ensureParentDir exists_
            rw [made] at same
            cases same
            rw [missing] at onto
            cases onto
        | file other =>
            refine ⟨0, Function.update (Function.update middle store.legacyPath.text none)
              store.path.text (some (.file content)), ?_, .inr (by simp), by simp⟩
            simp [bad, rename, perform, still, onto]

theorem load_legacy (named : store.path.text ≠ []) (legacy : store.legacyPath.text ≠ [])
    (missing : volume store.path.text = none)
    {content : List UInt8} (something : content ≠ [])
    (there : volume store.legacyPath.text = some (.file content)) :
    (ParentExists volume store.path.text →
      (run machine [] (load store) volume).1 = readNode (some (.file content))) ∧
    ∀ snapshot, (run machine [] (load store) volume).1 = .ok snapshot →
      readNode (some (.file content)) = .ok snapshot := by
  obtain ⟨migrated, after, ran, placed, succeeds⟩ :=
    migrate_run legacy missing something there
  have start : run machine [] (load store) volume =
      run machine []
        (if migrated < 0 then pure (.error migrated)
          else do
            let recovered ← recoverTmpSeedIfNeeded store
            if recovered < 0 ∧ recovered ≠ -enoent then pure (.error recovered)
            else readSnapshotFile store.path.text) after := by
    rw [load, if_neg named, run_nil_bind, ran]
  have reads (fine : ¬ migrated < 0) :
      (run machine [] (load store) volume).1 = readNode (some (.file content)) := by
    have onto : after store.path.text = some (.file content) := placed.resolve_left fine
    rw [start, if_neg fine]
    simp [recoverTmpSeedIfNeeded, stat, perform, onto, run_readSnapshotFile named]
  refine ⟨fun exists_ => reads (succeeds exists_), fun snapshot loaded => ?_⟩
  by_cases bad : migrated < 0
  · rw [start, if_pos bad] at loaded
    cases loaded
  · rwa [reads bad] at loaded

theorem load_tmp (named : store.path.text ≠ []) (legacy : store.legacyPath.text ≠ [])
    (tmp : store.tmpPath.text ≠ []) (missing : volume store.path.text = none)
    (unusable : ¬ Usable volume store.legacyPath.text) :
    (∀ snapshot, readNode (volume store.tmpPath.text) = .ok snapshot →
      (run machine [] (load store) volume).1 = .ok snapshot) ∧
    (volume store.tmpPath.text = none →
      (run machine [] (load store) volume).1 = .error (-enoent)) := by
  -- without a usable legacy file the migration has nothing to do
  have migrated : run machine [] (migrateLegacySeedIfNeeded store) volume =
      (0, volume) := by
    cases there : volume store.legacyPath.text with
    | none => simp [migrateLegacySeedIfNeeded, legacy, stat, perform, missing, there]
    | some node =>
        cases node with
        | dir =>
            simp [migrateLegacySeedIfNeeded, legacy, stat, perform, missing, there,
              Node.dirent]
        | file content =>
            have empty : content = [] := by
              by_contra something
              exact unusable ⟨content, something, there⟩
            simp [migrateLegacySeedIfNeeded, legacy, stat, perform, missing, there,
              Node.dirent, empty]
  have start : run machine [] (load store) volume =
      run machine []
        (do
          let recovered ← recoverTmpSeedIfNeeded store
          if recovered < 0 ∧ recovered ≠ -enoent then pure (.error recovered)
          else readSnapshotFile store.path.text) volume := by
    rw [load, if_neg named, run_nil_bind, migrated]
    rfl
  rw [start]
  constructor
  · intro snapshot reads
    obtain ⟨content, something, there⟩ := readNode_ok reads
    rw [there] at reads
    simp [recoverTmpSeedIfNeeded, stat, perform, missing, there, run_nil_bind,
      run_readSnapshotFile tmp, run_readSnapshotFile named, reads, rename]
  · intro absent
    simp [recoverTmpSeedIfNeeded, stat, perform, missing, absent,
      run_readSnapshotFile named, readNode]

end NeuroLink.SeedStore
