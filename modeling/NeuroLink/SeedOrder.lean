import NeuroLink.SeedStore

/-!
Histories of one store path. Saves and loads run to their end or are cut off by
a crash, under any answers of the file system. As long as no save removes the
store file while a legacy file is there to take its place, every load returns a
snapshot that was saved at or after the last save that returned zero.
-/

namespace NeuroLink.SeedOrder

open CText EffectProgram Errno FileSystem RecoverySeed SeedStore

/-- One act on the store. A crash keeps what the first `calls` calls did. -/
inductive Act where
  | save (snapshot : Snapshot) (answers : List Outcome)
  | crashedSave (snapshot : Snapshot) (answers : List Outcome) (calls : Nat)
  | load (answers : List Outcome)
  | crashedLoad (answers : List Outcome) (calls : Nat)

/-- The volume, and the snapshots given to saves from the last save on that
returned zero, that one first; none before the first such save. -/
structure Past where
  volume : Volume
  since : Option (List Snapshot)

def saveResult (store : Store) (volume : Volume) (snapshot : Snapshot)
    (answers : List Outcome) : Int × Volume :=
  run machine answers (save store snapshot) volume

def loadResult (store : Store) (volume : Volume) (answers : List Outcome) :
    Except Int Snapshot × Volume :=
  run machine answers (load store) volume

def attempt (snapshot : Snapshot) (past : Past) : Option (List Snapshot) :=
  past.since.map (· ++ [snapshot])

def Act.apply (store : Store) (past : Past) : Act → Past
  | .save snapshot answers =>
      let result := saveResult store past.volume snapshot answers
      ⟨result.2, if result.1 = 0 then some [snapshot] else attempt snapshot past⟩
  | .crashedSave snapshot answers calls =>
      ⟨(states machine answers (SeedStore.save store snapshot) past.volume).getD calls
        past.volume, attempt snapshot past⟩
  | .load answers => ⟨(loadResult store past.volume answers).2, past.since⟩
  | .crashedLoad answers calls =>
      ⟨(states machine answers (SeedStore.load store) past.volume).getD calls past.volume,
        past.since⟩

def SparesLegacy (store : Store) : Event Op Reply Volume → Prop
  | ⟨.unlink path, _, reply, after⟩ =>
      reply = (0 : Int) → path = store.path.text → ¬ Usable after store.legacyPath.text
  | _ => True

/-- The condition on an act: the calls of a save, cut off or not, all spare the
legacy file. -/
def Act.Careful (store : Store) (volume : Volume) : Act → Prop
  | .save snapshot answers | .crashedSave snapshot answers _ =>
      Meets machine (SparesLegacy store) answers (SeedStore.save store snapshot) volume
  | _ => True

def history (store : Store) : Past → List Act → Past
  | past, [] => past
  | past, act :: later => history store (act.apply store past) later

def CarefulHistory (store : Store) : Past → List Act → Prop
  | _, [] => True
  | past, act :: later =>
      act.Careful store past.volume ∧ CarefulHistory store (act.apply store past) later

def Past.Recent (past : Past) (snapshot : Snapshot) : Prop :=
  ∀ snapshots, past.since = some snapshots → snapshot ∈ snapshots

/-- Whatever a load could find under any of the paths is recent. -/
structure Current (recent : Snapshot → Prop) (store : Store) (volume : Volume) : Prop where
  path : ∀ snapshot, readNode (volume store.path.text) = .ok snapshot → recent snapshot
  tmp : ∀ snapshot, readNode (volume store.tmpPath.text) = .ok snapshot → recent snapshot
  legacy : volume store.path.text = none → ∀ snapshot,
    readNode (volume store.legacyPath.text) = .ok snapshot → recent snapshot

variable {recent : Snapshot → Prop} {store : Store} {volume : Volume}

theorem Current.weaken {weaker : Snapshot → Prop} (current : Current recent store volume)
    (implies : ∀ snapshot, recent snapshot → weaker snapshot) :
    Current weaker store volume :=
  ⟨fun snapshot reads => implies _ (current.path snapshot reads),
    fun snapshot reads => implies _ (current.tmp snapshot reads),
    fun missing snapshot reads => implies _ (current.legacy missing snapshot reads)⟩

theorem readNode_none (snapshot : Snapshot) : readNode none ≠ .ok snapshot := by
  rintro ⟨⟩

theorem readNode_dir (snapshot : Snapshot) : readNode (some .dir) ≠ .ok snapshot := by
  rintro ⟨⟩

theorem Current.mkdir (addressed : Addressed store) (current : Current recent store volume)
    {parent : Text} (split : splitParentDir store.path.text = .ok parent) :
    Current recent store (Function.update volume parent (some .dir)) := by
  have shorter := splitParentDir_shorter split
  have offPath : store.path.text ≠ parent := by
    rintro same
    rw [same] at shorter
    omega
  have offTmp : store.tmpPath.text ≠ parent := by
    rintro same
    rcases addressed.tmpLonger with equal | longer
    · rw [← same, equal] at shorter
      omega
    · rw [same] at longer
      omega
  refine ⟨?_, ?_, ?_⟩
  · rw [Function.update_of_ne offPath]
    exact current.path
  · rw [Function.update_of_ne offTmp]
    exact current.tmp
  · rw [Function.update_of_ne offPath]
    intro missing snapshot reads
    by_cases same : store.legacyPath.text = parent
    · rw [same, Function.update_self] at reads
      exact absurd reads (readNode_dir snapshot)
    · rw [Function.update_of_ne same] at reads
      exact current.legacy missing snapshot reads

theorem Current.place (current : Current recent store volume) (source : Text) {node : Node}
    (fresh : ∀ snapshot, readNode (some node) = .ok snapshot → recent snapshot) :
    Current recent store
      (Function.update (Function.update volume source none) store.path.text
        (some node)) := by
  refine ⟨?_, ?_, fun missing => ?_⟩
  · rw [Function.update_self]
    exact fresh
  · intro snapshot reads
    by_cases onPath : store.tmpPath.text = store.path.text
    · rw [onPath, Function.update_self] at reads
      exact fresh snapshot reads
    · rw [Function.update_of_ne onPath] at reads
      by_cases onSource : store.tmpPath.text = source
      · rw [onSource, Function.update_self] at reads
        exact absurd reads (readNode_none snapshot)
      · rw [Function.update_of_ne onSource] at reads
        exact current.tmp snapshot reads
  · rw [Function.update_self] at missing
    cases missing

theorem Current.unlink (current : Current recent store volume) (path : Text)
    (spares : path = store.path.text →
      ¬ Usable (Function.update volume path none) store.legacyPath.text) :
    Current recent store (Function.update volume path none) := by
  have kept (other : Text)
      (before : ∀ snapshot, readNode (volume other) = .ok snapshot → recent snapshot)
      (snapshot : Snapshot)
      (reads : readNode (Function.update volume path none other) = .ok snapshot) :
      recent snapshot := by
    by_cases same : other = path
    · rw [same, Function.update_self] at reads
      exact absurd reads (readNode_none snapshot)
    · rw [Function.update_of_ne same] at reads
      exact before snapshot reads
  refine ⟨kept _ current.path, kept _ current.tmp, fun missing snapshot reads => ?_⟩
  by_cases same : path = store.path.text
  · exact absurd (readNode_ok reads) (spares same)
  · rw [Function.update_of_ne (Ne.symm same)] at missing
    exact kept _ (current.legacy missing) snapshot reads

/-! A save. -/

section Save

variable {new : Snapshot} {saved : Int → Volume → Prop}

theorem discardTmp_holds {error : Int} (negative : error < 0)
    (current : Current recent store volume) :
    Holds machine (SparesLegacy store) (Current recent store)
      (fun code after => code = 0 → Current (· = new) store after)
      (discardTmp store error) volume := by
  refine holds_discardTmp current (fun zero => by omega) fun _ valid =>
    ⟨current.unlink _ fun same => valid rfl same, fun zero => by omega⟩

/-- The volumes a save goes through while it writes are current if the new
snapshot counts as recent. -/
theorem Current.writing (addressed : Addressed store) (current : Current recent store volume)
    (few : new.entries.length ≤ maxEntries) (isNew : recent new) {now : Volume}
    (writing : Writing store volume (image new) now) : Current recent store now := by
  obtain ⟨count, part⟩ := writing.part
  have tmp (snapshot : Snapshot) (reads : readNode (now store.tmpPath.text) = .ok snapshot) :
      recent snapshot := by
    rw [part] at reads
    rw [readNode_part few reads]
    exact isNew
  by_cases same : store.tmpPath.text = store.path.text
  · rw [same] at tmp part
    refine ⟨tmp, by rwa [same], fun missing => ?_⟩
    rw [part] at missing
    cases missing
  · have path := writing.others _ (Ne.symm same)
    refine ⟨by rw [path]; exact current.path, tmp, fun missing => ?_⟩
    have legacy := writing.others store.legacyPath.text fun clash =>
      same (congrArg Buffer.text (addressed.tmpNotLegacy clash.symm))
    rw [path] at missing
    rw [legacy]
    exact current.legacy missing

theorem publishTmp_holds (few : new.entries.length ≤ maxEntries)
    (isNew : recent new) (current : Current recent store volume)
    (whole : volume store.tmpPath.text = some (.file (image new))) :
    Holds machine (SparesLegacy store) (Current recent store)
      (fun code after => code = 0 → Current (· = new) store after)
      (publishTmp store) volume := by
  have reads (snapshot : Snapshot) (found : readNode (some (.file (image new))) = .ok snapshot) :
      snapshot = new := by
    rw [readNode_image new few] at found
    exact (Except.ok.inj found).symm
  have done (middle : Volume) : Current (· = new) store
      (Function.update (Function.update middle store.tmpPath.text none)
        store.path.text (some (.file (image new)))) := by
    refine ⟨?_, fun snapshot found => ?_, fun missing => ?_⟩
    · rw [Function.update_self]
      exact reads
    · by_cases same : store.tmpPath.text = store.path.text
      · rw [same, Function.update_self] at found
        exact reads snapshot found
      · rw [Function.update_of_ne same, Function.update_self] at found
        exact absurd found (readNode_none snapshot)
    · rw [Function.update_self] at missing
      cases missing
  have placed (middle : Volume) : Current recent store
      (Function.update (Function.update middle store.tmpPath.text none)
        store.path.text (some (.file (image new)))) :=
    (done middle).weaken fun _ same => same ▸ isNew
  unfold publishTmp
  simp only [rename, unlink, Program.request_bind]
  -- the first rename may fail where a file is in the way: it is removed and renamed again
  refine holds_rename current (fun node found => ?_) (fun error negative => ?_)
  · rw [whole] at found
    cases found
    exact .pure (placed volume) fun _ => done volume
  · split
    · refine holds_unlink current (fun _ valid => ?_)
        (fun error negative => ?_)
      · have gone := current.unlink _ fun same => valid rfl same
        rw [if_neg (by decide)]
        refine holds_rename gone (fun node found => ?_) (fun error negative => ?_)
        · by_cases same : store.tmpPath.text = store.path.text
          · rw [same, Function.update_self] at found
            cases found
          · rw [Function.update_of_ne same, whole] at found
            cases found
            exact .pure (placed _) fun _ => done _
        · rw [if_pos negative]
          exact discardTmp_holds negative gone
      · rw [if_pos negative]
        exact discardTmp_holds negative current
    · exact discardTmp_holds negative current

theorem save_holds (addressed : Addressed store) (isNew : recent new)
    (current : Current recent store volume) :
    Holds machine (SparesLegacy store) (Current recent store)
      (fun code after => code = 0 → Current (· = new) store after)
      (save store new) volume := by
  have failed {error : Int} (encoded : encode new maxImage = .error error) : error ≠ 0 := by
    rintro rfl
    unfold encode at encoded
    split at encoded
    · cases encoded
    · split at encoded <;> cases encoded
  have written {middle : Volume} {content : List UInt8}
      (current : Current recent store middle) (encoded : encode new maxImage = .ok content) :
      Holds machine (SparesLegacy store) (Current recent store)
        (fun code after => code = 0 → Current (· = new) store after)
        (writeTmp store content) middle := by
    obtain ⟨few, rfl⟩ := encode_ok_iff.mp encoded
    exact holds_writeTmp current (fun error negative zero => by omega)
      (fun _ now writing => current.writing addressed few isNew writing)
      (fun _ now error negative writing =>
        discardTmp_holds negative (current.writing addressed few isNew writing))
      (fun now writing whole => publishTmp_holds few isNew
        (current.writing addressed few isNew writing) whole)
  unfold save
  rw [if_neg addressed.named,
    if_neg (not_or.mpr ⟨addressed.tmpNamed, addressed.bakNamed⟩)]
  refine holds_ensureParentDir current (fun ready _ => ?_) (fun parent split _ => ?_)
  · split
    · exact .pure current fun zero => by omega
    split
    · next encoded => exact .pure current fun zero => absurd zero (failed encoded)
    · next encoded => exact written current encoded
  · rw [if_neg (by decide)]
    have made := current.mkdir addressed split
    split
    · next encoded => exact .pure made fun zero => absurd zero (failed encoded)
    · next encoded => exact written made encoded

end Save

/-! A load. -/

theorem migrate_holds (addressed : Addressed store) (current : Current recent store volume) :
    Holds machine (fun _ => True) (Current recent store) (fun _ _ => True)
      (migrateLegacySeedIfNeeded store) volume := by
  have stop (code : Int) {now : Volume} (current : Current recent store now) :
      Holds machine (fun _ => True) (Current recent store) (fun _ _ => True)
        (pure code) now := .pure current trivial
  have move {now : Volume} (current : Current recent store now)
      (missing : now store.path.text = none) :
      Holds machine (fun _ => True) (Current recent store) (fun _ _ => True)
        (do
          let renamed ← rename store.legacyPath.text store.path.text
          pure (if renamed < 0 then renamed else 0)) now := by
    refine holds_rename current (fun node found => ?_) (fun error _ => stop _ current)
    refine stop _ (current.place _ fun snapshot reads => ?_)
    exact current.legacy missing snapshot (by rwa [found])
  unfold migrateLegacySeedIfNeeded
  rw [if_neg addressed.legacyNamed]
  simp only [stat, Program.request_bind]
  refine holds_stat current (fun node _ => stop _ current) (fun missing => ?_)
    (fun error _ other => ?_)
  · refine holds_stat current (fun node _ => ?_) (fun _ => stop _ current)
      (fun error _ _ => stop _ current)
    dsimp only
    split
    · exact stop _ current
    · refine holds_ensureParentDir current (fun ready _ => ?_) (fun parent split _ => ?_)
      · split
        · exact stop _ current
        · exact move current missing
      · rw [if_neg (by decide)]
        refine move (current.mkdir addressed split) ?_
        have shorter := splitParentDir_shorter split
        rw [Function.update_of_ne (by rintro same; rw [same] at shorter; omega)]
        exact missing
  · simp only [ne_eq, other, not_false_eq_true, ↓reduceIte]
    exact stop _ current

theorem recover_holds (current : Current recent store volume) :
    Holds machine (fun _ => True) (Current recent store) (fun _ _ => True)
      (recoverTmpSeedIfNeeded store) volume := by
  have stop (code : Int) {now : Volume} (current : Current recent store now) :
      Holds machine (fun _ => True) (Current recent store) (fun _ _ => True)
        (pure code) now := .pure current trivial
  unfold recoverTmpSeedIfNeeded
  simp only [stat, Program.request_bind]
  refine holds_stat current (fun node _ => stop _ current) (fun missing => ?_)
    (fun error _ other => ?_)
  · refine holds_stat current (fun node there => ?_) (fun _ => stop _ current)
      (fun error _ _ => stop _ current)
    have apart : store.tmpPath.text ≠ store.path.text := by
      intro same
      rw [same, missing] at there
      cases there
    refine holds_readSnapshotFile current fun result _ => ?_
    cases result with
    | error error =>
        exact holds_unlink current
          (fun _ _ => stop _ (current.unlink _ fun same => absurd same apart))
          (fun _ _ => stop _ current)
    | ok snapshot =>
        refine holds_rename current (fun node found => ?_) (fun error _ => stop _ current)
        refine stop _ (current.place _ fun snapshot reads => ?_)
        exact current.tmp snapshot (by rwa [found])
  · simp only [ne_eq, other, not_false_eq_true, ↓reduceIte]
    exact stop _ current

theorem load_holds (addressed : Addressed store) (current : Current recent store volume) :
    Holds machine (fun _ => True) (Current recent store)
      (fun result _ => ∀ snapshot, result = .ok snapshot → recent snapshot)
      (load store) volume := by
  have stop (error : Int) {now : Volume} (current : Current recent store now) :
      Holds machine (fun _ => True) (Current recent store)
        (fun result _ => ∀ snapshot, result = .ok snapshot → recent snapshot)
        (pure (.error error) : FileM (Except Int Snapshot)) now :=
    .pure current fun snapshot same => by cases same
  unfold load
  rw [if_neg addressed.named]
  refine .bind ((migrate_holds addressed current).weaken (fun _ kept => kept)
    fun migrated now current _ => ?_)
  split
  · exact stop _ current
  · refine .bind ((recover_holds current).weaken (fun _ kept => kept)
      fun recovered now current _ => ?_)
    split
    · exact stop _ current
    · rw [← Program.bind_pure (readSnapshotFile store.path.text)]
      exact holds_readSnapshotFile current fun result reads =>
        .pure current fun snapshot same => current.path snapshot (reads snapshot same)

/-! Histories. -/

theorem getD_mem {State : Type} (states : List State) (index : Nat) (default : State) :
    states.getD index default = default ∨ states.getD index default ∈ states := by
  rw [List.getD_eq_getElem?_getD]
  cases found : states[index]? with
  | none => exact .inl rfl
  | some state => exact .inr (List.mem_of_getElem? found)

theorem attempt_recent (past : Past) (volume : Volume) (snapshot : Snapshot) :
    (⟨volume, attempt snapshot past⟩ : Past).Recent snapshot ∧
      ∀ earlier, past.Recent earlier →
        (⟨volume, attempt snapshot past⟩ : Past).Recent earlier := by
  unfold Past.Recent attempt
  cases past.since with
  | none =>
      refine ⟨fun _ same => ?_, fun _ _ _ same => ?_⟩
      · cases same
      · cases same
  | some snapshots =>
      refine ⟨fun all same => ?_, fun earlier recent all same => ?_⟩
      · cases same
        simp
      · cases same
        exact List.mem_append_left _ (recent snapshots rfl)

/-- What one act preserves. -/
theorem apply_current (addressed : Addressed store) (past : Past) (act : Act)
    (careful : act.Careful store past.volume)
    (current : Current past.Recent store past.volume) :
    Current (act.apply store past).Recent store (act.apply store past).volume := by
  cases act with
  | save snapshot answers =>
      obtain ⟨isNew, older⟩ := attempt_recent past
        (saveResult store past.volume snapshot answers).2 snapshot
      have holds := save_holds addressed isNew (current.weaken older)
      have after := holds.states answers careful _ (run_mem_states machine answers _ _)
      by_cases success : (saveResult store past.volume snapshot answers).1 = 0
      · have published := holds.run answers careful success
        simp only [Act.apply, success, ↓reduceIte]
        refine published.weaken fun found same => ?_
        rintro snapshots ⟨⟩
        simpa using same
      · simp only [Act.apply, success, ↓reduceIte]
        exact after
  | crashedSave snapshot answers calls =>
      obtain ⟨isNew, older⟩ := attempt_recent past
        ((states machine answers (save store snapshot) past.volume).getD calls past.volume)
        snapshot
      have holds := save_holds addressed isNew (current.weaken older)
      rcases getD_mem (states machine answers (save store snapshot) past.volume) calls
        past.volume with same | member
      · simp only [Act.apply, same]
        rw [same] at older
        exact current.weaken older
      · exact holds.states answers careful _ member
  | load answers =>
      exact (load_holds addressed current).states answers (fun _ _ => trivial) _
        (run_mem_states machine answers _ _)
  | crashedLoad answers calls =>
      rcases getD_mem (states machine answers (load store) past.volume) calls
        past.volume with same | member
      · simp only [Act.apply, same]
        exact current
      · exact (load_holds addressed current).states answers (fun _ _ => trivial) _ member

theorem history_current (addressed : Addressed store) (acts : List Act) (past : Past)
    (careful : CarefulHistory store past acts)
    (current : Current past.Recent store past.volume) :
    Current (history store past acts).Recent store (history store past acts).volume := by
  induction acts generalizing past with
  | nil => exact current
  | cons act later ih =>
      exact ih _ careful.2 (apply_current addressed past act careful.1 current)

/-- From any volume, after any history in which no save removes the store file
while a legacy file is there, a load that succeeds returns a snapshot of the last
save that returned zero or of a later one. -/
theorem loads_never_older (path : Option Text) (named : (init path).path.text ≠ [])
    (start : Volume) (acts : List Act)
    (careful : CarefulHistory (init path) ⟨start, none⟩ acts)
    (answers : List Outcome) (snapshot : Snapshot)
    (found : (loadResult (init path)
      (history (init path) ⟨start, none⟩ acts).volume answers).1 = .ok snapshot)
    (snapshots : List Snapshot)
    (since : (history (init path) ⟨start, none⟩ acts).since = some snapshots) :
    snapshot ∈ snapshots := by
  have addressed := init_addressed path named
  have recent (snapshot : Snapshot) : (⟨start, none⟩ : Past).Recent snapshot := by
    rintro _ ⟨⟩
  have current := history_current addressed acts ⟨start, none⟩ careful
    ⟨fun _ _ => recent _, fun _ _ => recent _, fun _ _ _ => recent _⟩
  exact (load_holds addressed current).run answers (fun _ _ => trivial) snapshot found
    snapshots since

def freshVolume : Volume := fun path =>
  if path = lit "/SD:" then some .dir else none

theorem freshVolume_kept :
    (loadResult (init none)
      (history (init none) ⟨freshVolume, none⟩ [.save ⟨[]⟩ []]).volume []).1 = .ok ⟨[]⟩ ∧
    ∃ snapshots, (history (init none) ⟨freshVolume, none⟩ [.save ⟨[]⟩ []]).since =
      some snapshots ∧ (⟨[]⟩ : Snapshot) ∈ snapshots := by
  refine ⟨by rfl, _, by rfl, loads_never_older none (by decide) freshVolume [.save ⟨[]⟩ []]
    ⟨?_, trivial⟩ [] ⟨[]⟩ (by rfl) [⟨[]⟩] (by rfl)⟩
  intro event member
  have noUnlink : ∀ op ∈ (events machine [] (save (init none) ⟨[]⟩) freshVolume).map (·.op),
      ∀ path, op = .unlink path → False := by
    rw [show (events machine [] (save (init none) ⟨[]⟩) freshVolume).map (·.op) =
      [.stat (lit "/SD:"), .openTruncate (init none).tmpPath.text,
        .write (init none).tmpPath.text (image ⟨[]⟩), .sync (init none).tmpPath.text,
        .close (init none).tmpPath.text,
        .rename (init none).tmpPath.text (init none).path.text] from rfl]
    simp
  obtain ⟨op, before, reply, after⟩ := event
  cases op with
  | unlink path => exact (noUnlink _ (List.mem_map_of_mem member) path rfl).elim
  | _ => trivial

def legacyVolume : Volume := fun path =>
  if path = lit "/SD:" then some .dir
  else if path = legacySeedPath then some (.file (image ⟨[demoEntry]⟩))
  else none

theorem renameRefused : -eexist < 0 := by decide

/-- A save that returns zero, and a second one cut off when it has removed the
store file because the rename was refused. -/
def interruptedSaves : List Act :=
  [.save ⟨[]⟩ [],
    .crashedSave ⟨[]⟩ [.works, .works, .works, .works, .works,
      .fails (-eexist) renameRefused 0] 7]

/-- After a completed save a load can return the legacy snapshot. -/
theorem load_returns_legacy :
    ¬ ∀ (path : Option Text) (start : Volume) (acts : List Act)
        (answers : List Outcome) (snapshot : Snapshot) (snapshots : List Snapshot),
      (init path).path.text ≠ [] →
      (history (init path) ⟨start, none⟩ acts).since = some snapshots →
      (loadResult (init path)
        (history (init path) ⟨start, none⟩ acts).volume answers).1 = .ok snapshot →
      snapshot ∈ snapshots := by
  intro claimed
  have addressed := init_addressed none (by decide)
  have missing : (history (init none) ⟨legacyVolume, none⟩ interruptedSaves).volume
      (init none).path.text = none := by rfl
  have legacy : (history (init none) ⟨legacyVolume, none⟩ interruptedSaves).volume
      (init none).legacyPath.text = some (.file (image ⟨[demoEntry]⟩)) := by rfl
  have parent : ParentExists
      (history (init none) ⟨legacyVolume, none⟩ interruptedSaves).volume
      (init none).path.text := ⟨lit "/SD:", by decide, by rfl⟩
  have something : image ⟨[demoEntry]⟩ ≠ [] := by
    intro empty
    have size := image_length ⟨[demoEntry]⟩
    rw [empty] at size
    cases size
  have found := (load_legacy addressed.named addressed.legacyNamed missing something
    legacy).1 parent
  rw [readNode_image _ (by decide)] at found
  have member := claimed none legacyVolume interruptedSaves [] ⟨[demoEntry]⟩
    [⟨[]⟩, ⟨[]⟩] (by decide) (by rfl) found
  simp at member

end NeuroLink.SeedOrder
