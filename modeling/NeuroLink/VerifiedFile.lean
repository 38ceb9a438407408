import NeuroLink.BootReconciliation

/-!
What `VERIFIED` says of the file. While the power stays on, an application in that
state has the file its verify accepted: a download takes the state away before it
opens the file. In the saved snapshot it takes the state away only with the save at
the end of the prepare, so a power loss in between brings it back for another file.
-/

namespace NeuroLink.VerifiedFile

open CText EffectProgram MemoryProgram RecoverySeed SeedSnapshot UpdateManager UpdateService
  UpdateTables UpdateWorld UpdateGuard UpdateRuns UpdateRecovery UpdateReplies

/-- The file of the application is the one verify last accepted, untouched since. -/
def Accepted (config : Config) (world : World) (appId : Text) : Prop :=
  ∃ content, world.checked (appPath config appId) = some content ∧
    world.volume (appPath config appId) = some (.file content)

def Gone (config : Config) (world : World) (appId : Text) : Prop :=
  world.volume (appPath config appId) = none

def savedEntries (world : World) : List SeedEntry := (world.seed.map Snapshot.entries).getD []

/-- The saved snapshot has the application as `VERIFIED`. -/
def SavedVerified (world : World) (appId : Text) : Prop :=
  ∃ entry ∈ savedEntries world, entry.appId.text = appId ∧ entry.updateState = .verified

instance (world : World) (appId : Text) : Decidable (SavedVerified world appId) := by
  unfold SavedVerified
  infer_instance

/-- Of these applications, what the saved snapshot has as `VERIFIED` is so, or its file
is gone. -/
def SavedFiles (config : Config) (durable : Text → Prop) (world : World) : Prop :=
  ∀ appId, durable appId → SavedVerified world appId →
    Accepted config world appId ∨ Gone config world appId

/-- The managers between two calls. Between a boot and its reconciliation a file may be
`missing`; and while a download is on its way the snapshot does not count for its
application, only for those that are `durable`. -/
structure Joint (config : Config) (missing : Prop) (durable : Text → Prop) (memory : Memory)
    (world : World) : Prop where
  initialized : memory.seedInitialized = true
  tidy : Tidy config memory.updates memory.artifacts
  verified : ∀ appId entry, entryOf memory.updates appId = some entry → entry.state = .verified →
    Accepted config world appId ∨ missing ∧ Gone config world appId
  seed : SeedKept config world
  saved : SavedFiles config durable world

structure Safe (config : Config) (durable : Text → Prop) (world : World) : Prop where
  seed : SeedKept config world
  saved : SavedFiles config durable world

/-- Neither the memory nor the snapshot vouches for the file of the application. -/
def Unvouched (durable : Text → Prop) (appId : Text) (memory : Memory) (world : World) : Prop :=
  appId.length ≤ 31 ∧
    (∀ entry, entryOf memory.updates appId = some entry → entry.state ≠ .verified) ∧
    (durable appId → ¬ SavedVerified world appId)

section Files

variable {config : Config} {durable : Text → Prop} {world left : World} {appId : Text}

theorem Accepted.same {name : Text} (accepted : Accepted config world name)
    (volume : left.volume (appPath config name) = world.volume (appPath config name))
    (checked : left.checked (appPath config name) = world.checked (appPath config name)) :
    Accepted config left name := by
  obtain ⟨content, known, there⟩ := accepted
  exact ⟨content, checked.trans known, volume.trans there⟩

theorem elsewhere (apart : PathsApart config) {name : Text} (short : name.length ≤ 31)
    (other : appId.length ≤ 31) (differs : name ≠ appId) :
    appPath config name ≠ appPath config appId :=
  fun same => differs (apart name appId short other same)

theorem savedVerified_short (saved : SavedVerified world appId) : appId.length ≤ 31 := by
  obtain ⟨entry, _, rfl, _⟩ := saved
  exact Nat.le_of_lt_succ entry.appId.fits

theorem savedVerified_congr (seed : left.seed = world.seed) (name : Text) :
    SavedVerified left name ↔ SavedVerified world name := by
  unfold SavedVerified savedEntries
  rw [seed]

theorem SavedFiles.spared (files : SavedFiles config durable world)
    (seed : left.seed = world.seed)
    (spared : ∀ name, durable name → SavedVerified world name →
      left.volume (appPath config name) = world.volume (appPath config name) ∧
        left.checked (appPath config name) = world.checked (appPath config name) ∨
      Accepted config left name ∨ Gone config left name) :
    SavedFiles config durable left := by
  intro name counts saved
  have before := (savedVerified_congr seed name).mp saved
  rcases spared name counts before with ⟨volume, checked⟩ | there
  · rcases files name counts before with accepted | gone
    · exact .inl (accepted.same volume checked)
    · exact .inr (volume.trans gone)
  · exact there

theorem mergedEntry_verified {updates : Manager} {artifacts : ArtifactStore.Store}
    {entry : SeedEntry} (merged : mergedEntry updates artifacts appId = some entry)
    (state : entry.updateState = .verified) :
    ∃ update, entryOf updates appId = some update ∧ update.state = .verified := by
  rw [mergedEntry] at merged
  cases present : entryOf updates appId with
  | none =>
      rw [present] at merged
      cases stored : SlotTable.lookup ArtifactStore.Meta.id artifacts appId with
      | none =>
          rw [stored] at merged
          cases merged
      | some artifact =>
          rw [stored] at merged
          cases merged
          cases state
  | some update =>
      refine ⟨update, rfl, ?_⟩
      rw [present] at merged
      cases stored : SlotTable.lookup ArtifactStore.Meta.id artifacts appId with
      | none =>
          rw [stored] at merged
          cases merged
          exact state
      | some artifact =>
          rw [stored] at merged
          cases merged
          exact state

theorem SavedFiles.built {memory : Memory} {snapshot : Snapshot}
    (tidy : Tidy config memory.updates memory.artifacts)
    (verified : ∀ appId entry, entryOf memory.updates appId = some entry →
      entry.state = .verified → Accepted config world appId ∨ Gone config world appId)
    (built : buildSnapshot memory.updates memory.artifacts = .ok snapshot)
    (restorable : Restorable config snapshot) (seed : world.seed = some snapshot) :
    SavedFiles config durable world := by
  rintro appId _ ⟨entry, member, rfl, state⟩
  rw [savedEntries, seed] at member
  change entry ∈ snapshot.entries at member
  have view := buildSnapshot_seedFor tidy.unique tidy.distinct built entry.appId.text
  rw [seedFor_used restorable.toComplete.used,
    SlotTable.find_listed restorable.toComplete.distinct member] at view
  obtain ⟨update, present, live⟩ := mergedEntry_verified view.symm state
  exact verified _ update present live

end Files

section Guard

variable {config : Config} {missing : Prop} {durable : Text → Prop}

/-- A step of the update manager that verifies nothing. -/
theorem Joint.moved {memory : Memory} {world : World} {later : Manager}
    (start : Joint config missing durable memory world)
    (tidy : Tidy config later memory.artifacts)
    (old : ∀ appId entry, entryOf later appId = some entry → entry.state = .verified →
      Accepted config world appId ∨
        ∃ earlier, entryOf memory.updates appId = some earlier ∧ earlier.state = .verified) :
    Joint config missing durable { memory with updates := later } world := by
  refine ⟨start.initialized, tidy, fun appId entry present live => ?_, start.seed, start.saved⟩
  rcases old appId entry present live with accepted | ⟨earlier, was, before⟩
  · exact .inl accepted
  · exact start.verified appId earlier was before

theorem amend_verified {manager : Manager} {missingRet : Int} {refuses : Entry → Option Int}
    {edit : Entry → Entry} {world : World} (appId : Text) (unique : Unique manager)
    (missingError : missingRet ≠ 0)
    (refusalError : ∀ entry error, refuses entry = some error → error ≠ 0)
    (kept : ∀ entry, (edit entry).appId = entry.appId)
    (state : ∀ entry, (edit entry).state = entry.state ∨ Accepted config world appId)
    (name : Text) (entry : Entry)
    (present : entryOf (amend manager appId missingRet refuses edit).2 name = some entry)
    (live : entry.state = .verified) :
    Accepted config world name ∨
      ∃ earlier, entryOf manager name = some earlier ∧ earlier.state = .verified := by
  rcases amend_effect unique missingError refusalError kept with
    ⟨_, same⟩ | ⟨earlier, _, was, _, _, rewrites⟩
  · rw [same] at present
    exact .inr ⟨entry, present, live⟩
  · by_cases own : name = appId
    · rw [own, rewrites.own] at present
      cases present
      rw [own]
      rcases state earlier with same | accepted
      · exact .inr ⟨earlier, was, same.symm.trans live⟩
      · exact .inl accepted
    · rw [rewrites.other own] at present
      exact .inr ⟨entry, present, live⟩

theorem verified_guard (apart : PathsApart config) :
    Guard config (Tidy config) (Joint config missing durable) (Safe config durable)
      (Unvouched durable) where
  safe start := ⟨start.seed, start.saved⟩
  runtime _ start := ⟨start.initialized, start.tidy, start.verified, start.seed, start.saved⟩
  initialized start := start.initialized
  upkeep := tidy_upkeep config
  upheld start := start.tidy
  replies _ start := ⟨start.initialized, start.tidy, start.verified, start.seed, start.saved⟩
  saved start built := by
    obtain ⟨snapshot, same, restorable⟩ := snapshot_built start.tidy
    rw [built] at same
    cases same
    have verified := fun appId entry present live =>
      (start.verified appId entry present live).imp_right And.right
    refine ⟨start.initialized, start.tidy, start.verified,
      fun _ saved => by cases saved; exact restorable, ?_⟩
    exact .built start.tidy verified built restorable rfl
  calm start calm tidy :=
    start.moved tidy fun appId entry present live => .inr (calm.verified appId entry present live)
  stored start tidy := ⟨start.initialized, tidy, start.verified, start.seed, start.saved⟩
  freeRuntime _ unvouched := unvouched
  writes := by
    intro appId memory world volume checked start unvouched same
    -- a write to one path leaves the files and the marks of every other application
    have spared : ∀ name : Text, name.length ≤ 31 → name ≠ appId →
        volume (appPath config name) = world.volume (appPath config name) ∧
          checked (appPath config name) = world.checked (appPath config name) :=
      fun name short differs => same _ (elsewhere apart short unvouched.1 differs)
    refine ⟨⟨start.initialized, start.tidy, fun name entry present live => ?_, start.seed,
      start.saved.spared rfl fun name counts saved => .inl ?_⟩, unvouched⟩
    · have differs : name ≠ appId := by
        rintro rfl
        exact unvouched.2.1 entry present live
      obtain ⟨files, marks⟩ := spared name (entryOf_short present) differs
      rcases start.verified name entry present live with accepted | ⟨lost, gone⟩
      · exact .inl (accepted.same files marks)
      · exact .inr ⟨lost, files.trans gone⟩
    · refine spared name (savedVerified_short saved) ?_
      rintro rfl
      exact unvouched.2.2 counts saved
  checks := by
    intro appId memory world content start there
    -- a hash marks the path it reads: that application is accepted anew, the others stay
    have marked : ∀ name, Accepted config { world with
          checked := Function.update world.checked (appPath config appId) (some content) } name ∨
        Function.update world.checked (appPath config appId) (some content) (appPath config name) =
          world.checked (appPath config name) := by
      intro name
      by_cases own : appPath config name = appPath config appId
      · refine .inl ⟨content, ?_, ?_⟩
        · rw [own]
          exact Function.update_self ..
        · rw [own]
          exact there
      · exact .inr (Function.update_of_ne own ..)
    refine ⟨start.initialized, start.tidy, fun name entry present live => ?_, start.seed,
      start.saved.spared rfl fun name _ _ => ?_⟩
    · rcases marked name with accepted | same
      · exact .inl accepted
      · exact (start.verified name entry present live).imp_left fun before => before.same rfl same
    · rcases marked name with accepted | same
      · exact .inr (.inl accepted)
      · exact .inl ⟨rfl, same⟩
  verifies := by
    intro appId memory world content start accepted there tidy
    refine start.moved tidy ?_
    exact amend_verified _ start.tidy.unique (by decide) (onlyFrom_error _) (fun _ => rfl)
      fun _ => .inr ⟨content, accepted, there⟩
  activates start _ := ⟨start.initialized, start.tidy, start.verified, start.seed, start.saved⟩
  records := by
    intro appId memory world content start active there tidy
    refine start.moved tidy ?_
    have located : appPath config appId ≠ [] := buildAppPath_nonempty config appId
    rw [recordStableRef, if_neg located]
    exact amend_verified _ start.tidy.unique (by decide) (by simp) (fun _ => rfl)
      fun _ => .inl rfl
  forgets := by
    intro appId path memory world start named short present located tidy
    rw [← located, deletePath_located start.tidy.located present]
    -- the entry is gone with its file, and a saved entry may outlive both
    have rewrites := @remove_effect memory.updates appId start.tidy.unique named
    have spared : ∀ {File : Type} (files : Text → Option File) (name : Text), name.length ≤ 31 →
        name ≠ appId → Function.update files (appPath config appId) none (appPath config name) =
          files (appPath config name) :=
      fun files name fits differs =>
        Function.update_of_ne (elsewhere apart fits short differs) ..
    refine ⟨start.initialized, tidy, fun name entry present live => ?_, start.seed,
      start.saved.spared rfl fun name _ saved => ?_⟩
    · rw [rewrites.view] at present
      split at present
      · cases present
      · next differs =>
        have fits := entryOf_short present
        rcases start.verified name entry present live with accepted | ⟨lost, gone⟩
        · exact .inl (accepted.same (spared _ name fits differs) (spared _ name fits differs))
        · exact .inr ⟨lost, (spared _ name fits differs).trans gone⟩
    · by_cases own : name = appId
      · rw [own]
        exact .inr (.inr (Function.update_self ..))
      · have fits := savedVerified_short saved
        exact .inl ⟨spared _ name fits own, spared _ name fits own⟩

/-- An idle unit's snapshot gives managers that are right but for missing files. -/
theorem verified_boots (always : ∀ appId, durable appId) :
    Boots (Joint config True durable) (Safe config durable) (Safe config durable) where
  safe safe := safe
  runtime _ safe := ⟨safe.seed, safe.saved⟩
  opens _ safe := by
    refine ⟨rfl, init_tidy, fun appId entry present _ => ?_, safe.seed, safe.saved⟩
    simp [opened, booted, UpdateManager.init] at present
  applies := by
    intro world snapshot replies safe saved
    have restorable := safe.seed snapshot saved
    have applied := applied_tidy restorable UpdateManager.init ArtifactStore.init
    obtain ⟨updates, artifacts, result, _, _, view⟩ :=
      applySnapshot_restores restorable.toComplete UpdateManager.init ArtifactStore.init
    refine ⟨applied.1, rfl, applied.2, fun appId entry present live => ?_, safe.seed, safe.saved⟩
    change entryOf (applySnapshot snapshot UpdateManager.init ArtifactStore.init).2.1 appId =
      some entry at present
    rw [result, (view appId).1] at present
    obtain ⟨stored, found, rfl⟩ := Option.map_eq_some_iff.mp present
    rw [seedFor_used restorable.toComplete.used] at found
    have listed : stored ∈ savedEntries world := by
      rw [savedEntries, saved]
      exact List.mem_of_find?_eq_some found
    have own : stored.appId.text = appId := by simpa using List.find?_some found
    have right := safe.saved appId (always appId) ⟨stored, listed, own, live⟩
    exact right.imp_right fun gone => ⟨trivial, gone⟩

end Guard

/-! The gate: reconciliation fails what has lost its file. -/

section Gate

variable {config : Config} {world : World}

def Present (config : Config) (memory : Memory) (world : World) : Prop :=
  ∀ appId entry, entryOf memory.updates appId = some entry → entry.state = .verified →
    ¬ Gone config world appId

theorem fileThere_present {artifacts : ArtifactStore.Store} {appId : Text}
    (located : Located config artifacts)
    (there : BootReconciliation.fileThere world.volume (ArtifactStore.get artifacts appId) = true) :
    ¬ Gone config world appId := by
  intro gone
  cases found : ArtifactStore.get artifacts appId with
  | none =>
      rw [found] at there
      cases there
  | some artifact =>
      have path := located_get located found
      rw [found] at there
      rw [Gone, ← path] at gone
      simp [BootReconciliation.fileThere, fileContent, gone] at there

theorem gate_present (kept : SeedKept config world) (replies : List Answer) :
    Keeps machine (fun _ => True) (fun _ => True)
      (fun _ after left => Present config after left)
      ensureRecoverySeedInitialized { booted with replies := replies } world := by
  -- a boot that restores nothing has no entry that could miss its file
  have empty : ∀ (memory : Memory) left, memory.updates = UpdateManager.init →
      Present config memory left := by
    intro memory left fresh appId entry present
    rw [fresh] at present
    simp [UpdateManager.init] at present
  have reports : ∀ stage status detail memory left, Present config memory left →
      Keeps machine (fun _ => True) (fun _ => True) (fun _ after left => Present config after left)
        (do publishUpdateEvent (lit "system") stage status detail; return (0 : Int)) memory left :=
    fun _ _ _ _ _ present => .bind (call_keeps (.publishUpdateEvent ..) trivial fun _ _ =>
      ⟨trivial, .pure trivial present⟩)
  refine inspect_keeps ?_
  rw [if_neg (by simp [booted])]
  refine perform_keeps .storageMount trivial fun outcome _ => ⟨trivial, ?_⟩
  split
  · exact .pure trivial (empty _ _ rfl)
  refine .bind (.edit trivial ?_)
  change Keeps machine _ _ _ _ (opened replies) world
  refine (loadSeed_keeps trivial _).seq fun loaded after left _ done => ?_
  rw [done.1, done.2.1]
  cases loaded with
  | error error =>
      dsimp only
      split
      · exact reports _ _ _ _ _ (empty _ _ rfl)
      · exact .pure trivial (empty _ _ rfl)
  | ok snapshot =>
      have restorable := kept snapshot (done.2.2 snapshot rfl)
      have applied := applied_tidy restorable UpdateManager.init ArtifactStore.init
      have applying : Keeps machine (fun _ => True) (fun _ => True)
          (fun ret after left => ret = 0 ∧ after = restored snapshot replies ∧ left = world)
          (applySnapshot snapshot) (opened replies) world := .edit trivial ⟨applied.1, rfl, rfl⟩
      refine applying.seq fun ret after left _ same => ?_
      rw [same.1, same.2.1, same.2.2, if_pos rfl]
      refine (BootReconciliation.reconcile_keeps applied.2.unique applied.2.sound).seq
        fun _ reconciled left _ done => ?_
      obtain ⟨same, volume, _, available, backed, view⟩ := done
      refine reports _ _ _ _ _ fun appId entry present live => ?_
      rw [view] at present
      obtain ⟨earlier, _, rfl⟩ := Option.map_eq_some_iff.mp present
      have there := backed appId ((BootReconciliation.reconciled_rests _ _ earlier).2.1 (.inr live))
      rw [Gone, volume]
      exact fileThere_present applied.2.located there

end Gate

/-! A prepare ends with a save. -/

def stores (event : Event Effect EffectReply World) : Bool :=
  match event with
  | ⟨.saveSeed snapshot, _, _, left⟩ => decide (left.seed = some snapshot)
  | _ => true

def Saved (memory : Memory) (world : World) : Prop :=
  ∃ snapshot, buildSnapshot memory.updates memory.artifacts = .ok snapshot ∧
    world.seed = some snapshot

structure Ready (config : Config) (memory : Memory) : Prop where
  initialized : memory.seedInitialized = true
  tidy : Tidy config memory.updates memory.artifacts

section Prepare

variable {config : Config} {request : Request} {memory : Memory} {world : World}

theorem outward_then {First : Type} {service : ServiceM First} {rest : First → ServiceM Unit}
    {post : Unit → Memory → World → Prop} (outward : Outward service)
    (continues : ∀ result left,
      Keeps machine (fun event => stores event) (fun _ => True) post (rest result) memory left) :
    Keeps machine (fun event => stores event) (fun _ => True) post (service >>= rest) memory
      world := by
  have same := Ensures.keeps (outward memory) machine (fun event => stores event) world
  refine Keeps.seq same fun result after left _ unchanged => ?_
  rw [unchanged]
  exact continues result left

theorem persist_saves (ready : Ready config memory) :
    Keeps machine (fun event => stores event) (fun _ => True)
      (fun _ after left => after = memory ∧ Saved after left)
      persistRecoverySeedSnapshot memory world := by
  have opened : Keeps machine (fun event => stores event) (fun _ => True)
      (fun ret after left => ret = 0 ∧ after = memory ∧ left = world)
      ensureRecoverySeedInitialized memory world := by
    refine inspect_keeps ?_
    rw [if_pos ready.initialized]
    exact .pure trivial ⟨rfl, rfl, rfl⟩
  refine opened.seq fun ret after left _ done => ?_
  rw [done.1, done.2.1, done.2.2, if_neg (by simp)]
  obtain ⟨snapshot, built, _⟩ := snapshot_built ready.tidy
  refine inspect_keeps ?_
  rw [built]
  exact call_keeps (.saveSeed snapshot) trivial fun outcome stored =>
    ⟨trivial, rfl, snapshot, built, of_decide_eq_true stored⟩

theorem report_saves (ready : Ready config memory) (stage status : String) (detail : Text)
    (reply : Answer) :
    Keeps machine (fun event => stores event) (fun _ => True) (fun _ after left => Saved after left)
      (do
        let _ ← persistRecoverySeedSnapshot
        publishUpdateEvent request.appId.text stage status detail
        answer reply) memory world := by
  refine (persist_saves ready).seq fun _ after left _ saved => ?_
  exact perform_keeps (.publishUpdateEvent ..) trivial fun _ _ =>
    ⟨trivial, .edit trivial saved.2⟩

theorem failPrepare_saves (ready : Ready config memory) (reason message : String)
    (statusCode : Nat) :
    Keeps machine (fun event => stores event) (fun _ => True) (fun _ after left => Saved after left)
      (failPrepare request.appId.text reason message statusCode) memory world := by
  have failed : Ready config { memory with
      updates := (prepareFail memory.updates request.appId.text (lit reason)).2 } :=
    ⟨ready.initialized,
      ready.tidy.updated (fail_calm request.appId.text _ ready.tidy.unique).toRetains⟩
  exact updates_keeps (report_saves failed _ _ _ _)

theorem stageArtifact_saves (ready : Ready config memory) (keyexpr : Text)
    (named : request.appId.text ≠ []) {entry : Entry}
    (present : entryOf memory.updates request.appId.text = some entry)
    (preparing : entry.state = .preparing) :
    Keeps machine (fun event => stores event) (fun _ => True) (fun _ after left => Saved after left)
      (stageArtifact config request keyexpr) memory world := by
  have recorded : entryOf memory.updates request.appId.text ≠ none := by simp [present]
  have staged : Ready config { memory with
      artifacts := (ArtifactStore.stage memory.artifacts request.appId.text
        (requestTransport request).text keyexpr (appPath config request.appId.text)
        (requestedSize config request) (requestChunkSize config request) 0).2 } :=
    ⟨ready.initialized, ready.tidy.staged (short_id request) recorded _ _ _ _ _⟩
  unfold stageArtifact
  refine artifacts_keeps ?_
  split
  · exact failPrepare_saves staged _ _ _
  have completes : (prepareComplete memory.updates request.appId.text).1 = 0 ∧
      Rewrites request.appId.text (some (entry.moveTo .prepared)) memory.updates
        (prepareComplete memory.updates request.appId.text).2 :=
    amend_accepts ready.tidy.unique named present (onlyFrom_accepts (by simp [preparing])) rfl
  have calm : Calm memory.updates (prepareComplete memory.updates request.appId.text).2 :=
    move_calm _ (by decide) ready.tidy.unique
  have completed : Ready config { memory with
      updates := (prepareComplete memory.updates request.appId.text).2
      artifacts := (ArtifactStore.stage memory.artifacts request.appId.text
        (requestTransport request).text keyexpr (appPath config request.appId.text)
        (requestedSize config request) (requestChunkSize config request) 0).2 } :=
    ⟨ready.initialized, staged.tidy.updated calm.toRetains⟩
  refine updates_keeps ?_
  rw [if_neg (by simp [completes.1])]
  exact report_saves completed _ _ _ _

/-- An admitted prepare, from the download on. -/
theorem handleUpdatePrepare_saves (ready : Ready config memory)
    (downloads : Downloads config request)
    (admitted : (prepareBegin memory.updates request.appId.text).1 = 0) :
    Keeps machine (fun event => stores event) (fun _ => True) (fun _ after left => Saved after left)
      (handleUpdatePrepare config request) memory world := by
  rcases prepareBegin_effect ready.tidy.unique (short_id request) with
    ⟨failed, _⟩ | ⟨next, named, preparing, _, _, rewrites⟩
  · exact absurd admitted failed
  have begun : Ready config { memory with
      updates := (prepareBegin memory.updates request.appId.text).2 } :=
    ⟨ready.initialized, ready.tidy.updated
      (prepareBegin_calm ready.tidy.unique (short_id request)).toRetains⟩
  unfold handleUpdatePrepare
  refine updates_keeps ?_
  rw [if_neg (not_not.mpr admitted)]
  dsimp only
  obtain ⟨zenoh, key, size, available⟩ := downloads
  rw [if_pos zenoh, if_neg (by simp [key, size, available])]
  refine outward_then (downloadArtifact_outward _ _ _ _ _) fun ret left => ?_
  split
  · exact outward_then (removeFile_outward _ _) fun _ _ => failPrepare_saves begun _ _ _
  refine outward_then (downloadedWhole_outward _ _) fun whole left => ?_
  split
  · exact outward_then (removeFile_outward _ _) fun _ _ => failPrepare_saves begun _ _ _
  · exact stageArtifact_saves begun _ named rewrites.own preparing

end Prepare

/-! Turns. -/

/-- A prepare that gets to its download, of an application the saved snapshot has as
`VERIFIED`. -/
def Endangers (config : Config) (device : Device) (request : Request) : Prop :=
  device.memory.seedInitialized = true ∧ request.action = lit "prepare" ∧
    Downloads config request ∧ (prepareBegin device.memory.updates request.appId.text).1 = 0 ∧
    SavedVerified device.world request.appId.text

def cutWorld (config : Config) (device : Device) (request : Option Request)
    (outcomes : List Outcome) (calls : Nat) : World :=
  (states machine outcomes (UpdateWorld.serve config request device.memory) device.world).getD
    calls device.world

/-- The file is as before, or the snapshot does not have the application as `VERIFIED`
any more. -/
def Spared (config : Config) (appId : Text) (before cut : World) : Prop :=
  ¬ SavedVerified cut appId ∨
    cut.volume (appPath config appId) = before.volume (appPath config appId) ∧
      cut.checked (appPath config appId) = before.checked (appPath config appId)

/-- A prepare that endangers an application saves its outcome, and a power loss does not come
between its download and its save. -/
def Secures (config : Config) (device : Device) : Turn → Prop
  | .serve (some request) outcomes => Endangers config device request →
      Meets machine (fun event => stores event) outcomes
        (UpdateWorld.serve config (some request) device.memory) device.world
  | .powerLoss (some request) outcomes calls _ => Endangers config device request →
      Spared config request.appId.text device.world
        (cutWorld config device (some request) outcomes calls)
  | _ => True

instance (config : Config) (device : Device) (request : Request) :
    Decidable (Endangers config device request) := by
  unfold Endangers
  infer_instance

instance (config : Config) (appId : Text) (before cut : World) :
    Decidable (Spared config appId before cut) := by
  unfold Spared
  infer_instance

instance (config : Config) (device : Device) (turn : Turn) :
    Decidable (Secures config device turn) := by
  unfold Secures Meets
  split <;> infer_instance

abbrev everyone : Text → Prop := fun _ => True

/-- The unit between two turns, with every `VERIFIED` right. -/
def Trusted (config : Config) (device : Device) : Prop :=
  Between (Joint config False everyone) (Safe config everyone) device.memory device.world

section Turns

variable {config : Config} {device : Device} {request : Request}

theorem Joint.weaken {missing : Prop} {durable : Text → Prop} {memory : Memory} {world : World}
    (start : Joint config False everyone memory world) :
    Joint config missing durable memory world where
  initialized := start.initialized
  tidy := start.tidy
  verified appId entry present live :=
    .inl ((start.verified appId entry present live).resolve_right fun lost => lost.1)
  seed := start.seed
  saved appId _ := start.saved appId trivial

theorem Joint.present {memory : Memory} {world : World}
    (start : Joint config True everyone memory world) (present : Present config memory world) :
    Joint config False everyone memory world where
  initialized := start.initialized
  tidy := start.tidy
  verified appId entry there live :=
    .inl ((start.verified appId entry there live).resolve_right
      fun lost => present appId entry there live lost.2)
  seed := start.seed
  saved := start.saved

/-- The applications the snapshot counts for while a request is served: all but the one
it endangers. -/
def Counts (config : Config) (device : Device) (request : Request) (appId : Text) : Prop :=
  Endangers config device request → appId ≠ request.appId.text

theorem open_keeps (apart : PathsApart config)
    (start : Joint config False everyone device.memory device.world) :
    Keeps machine (fun _ => True) (Safe config (Counts config device request))
      (fun _ after left => Joint config False (Counts config device request) after left)
      (UpdateWorld.serve config (some request)) device.memory device.world := by
  refine inspect_keeps ?_
  rw [if_pos start.initialized]
  refine handleAction_keeps (verified_guard apart) start.weaken fun prepare downloads admitted =>
    ⟨short_id request, fun entry present live => ?_, fun counts saved => ?_⟩
  · rcases prepareBegin_effect start.tidy.unique (short_id request) with
      ⟨failed, _⟩ | ⟨next, _, preparing, _, _, rewrites⟩
    · exact failed admitted
    · rw [rewrites.own] at present
      cases present
      rw [preparing] at live
      cases live
  · exact counts ⟨start.initialized, prepare, downloads, admitted, saved⟩ rfl

/-- The gate, or a request before it, verifies nothing that has no file. -/
theorem closed_present (trusted : Trusted config device)
    (closed : device.memory.seedInitialized = false) (asked : Option Request) :
    Keeps machine (fun _ => True) (fun _ => True)
      (fun _ after left => Present config after left)
      (UpdateWorld.serve config asked) device.memory device.world := by
  obtain ⟨start, memory⟩ := trusted.idle closed
  cases asked with
  | none =>
      have gate := gate_present start.seed device.memory.replies
      rw [← memory] at gate
      exact gate.seq fun _ after left _ present => .pure trivial present
  | some request =>
      refine inspect_keeps ?_
      rw [if_neg (by simp [closed])]
      refine .edit trivial fun appId entry present _ => ?_
      rw [memory] at present
      simp [booted, UpdateManager.init] at present

theorem endangered_saved (start : Joint config False everyone device.memory device.world)
    (endangers : Endangers config device request) :
    Keeps machine (fun event => stores event) (fun _ => True) (fun _ after left => Saved after left)
      (UpdateWorld.serve config (some request)) device.memory device.world := by
  obtain ⟨opened, prepare, downloads, admitted, _⟩ := endangers
  refine inspect_keeps ?_
  rw [if_pos opened, handleAction, if_pos prepare]
  exact handleUpdatePrepare_saves ⟨opened, start.tidy⟩ downloads admitted

theorem Joint.settle {memory : Memory} {world : World}
    (start : Joint config False (Counts config device request) memory world)
    (saves : Endangers config device request → Saved memory world) :
    Joint config False everyone memory world := by
  refine ⟨start.initialized, start.tidy, start.verified, start.seed, ?_⟩
  by_cases endangers : Endangers config device request
  · obtain ⟨snapshot, built, seed⟩ := saves endangers
    have verified := fun appId entry present live =>
      (start.verified appId entry present live).imp_right And.right
    exact .built start.tidy verified built (start.seed snapshot seed) seed
  · exact fun appId _ => start.saved appId fun endangered => absurd endangered endangers

theorem cut_safe {inv : World → Prop} {post : Unit → Memory → World → Prop}
    {asked : Option Request}
    (keeps : Keeps machine (fun _ => True) inv post (UpdateWorld.serve config asked)
      device.memory device.world) (outcomes : List Outcome) (calls : Nat) :
    inv (cutWorld config device asked outcomes calls) := by
  have every := keeps.states outcomes fun _ _ => trivial
  rw [cutWorld, List.getD_eq_getElem?_getD]
  cases there : (states machine outcomes (UpdateWorld.serve config asked device.memory)
      device.world)[calls]? with
  | none => exact keeps.start
  | some world => exact every world (List.mem_of_getElem? there)

/-- A power loss that spares what the request endangers leaves a snapshot to trust. -/
theorem Safe.settle {cut : World}
    (start : Joint config False everyone device.memory device.world)
    (safe : Safe config (Counts config device request) cut)
    (spared : Endangers config device request →
      Spared config request.appId.text device.world cut) :
    Safe config everyone cut := by
  refine ⟨safe.seed, fun appId _ saved => ?_⟩
  by_cases counts : Counts config device request appId
  · exact safe.saved appId counts saved
  · obtain ⟨endangers, own⟩ := Classical.not_imp.mp counts
    rw [not_not.mp own] at saved ⊢
    rcases spared endangers with unsaved | ⟨volume, checked⟩
    · exact absurd saved unsaved
    · rcases start.saved request.appId.text trivial endangers.2.2.2.2 with accepted | gone
      · exact .inl (accepted.same volume checked)
      · exact .inr (volume.trans gone)

theorem reopened_keeps {inv : World → Prop} {post : Unit → Memory → World → Prop}
    (opened : device.memory.seedInitialized = true) (kept : inv device.world)
    (done : post () device.memory device.world) :
    Keeps machine (fun _ => True) inv post (UpdateWorld.serve config none)
      device.memory device.world := by
  refine .bind (.bind (.inspect kept ?_))
  rw [if_pos opened]
  exact .pure kept (.pure kept done)

theorem take_opened (apart : PathsApart config) {turn : Turn} (trusted : Trusted config device)
    (opened : device.memory.seedInitialized = true) (secures : Secures config device turn) :
    Trusted config (turn.take config device) := by
  have start := trusted.ready opened
  have safe : Safe config everyone device.world := ⟨start.seed, start.saved⟩
  cases turn with
  | applications runtime =>
      exact .of_joint (verified_guard apart) ((verified_guard apart).runtime runtime start)
  | serve asked outcomes =>
      cases asked with
      | none =>
          have stays : Keeps machine (fun _ => True) (fun _ => True)
              (fun _ after left => Trusted config ⟨after, left⟩)
              (UpdateWorld.serve config none) device.memory device.world :=
            reopened_keeps opened trivial trusted
          exact stays.run outcomes fun _ _ => trivial
      | some request =>
          have ends := (@open_keeps _ _ request apart start).run outcomes fun _ _ => trivial
          refine .of_joint (verified_guard apart) (ends.settle fun endangers => ?_)
          exact (endangered_saved start endangers).run outcomes (secures endangers)
  | powerLoss asked outcomes calls runtime =>
      refine ⟨(nomatch ·), fun _ => ⟨?_, rfl⟩⟩
      cases asked with
      | none =>
          have stays : Keeps machine (fun _ => True) (Safe config everyone) (fun _ _ _ => True)
              (UpdateWorld.serve config none) device.memory device.world :=
            reopened_keeps opened safe trivial
          have cut := cut_safe stays outcomes calls
          exact ⟨cut.seed, cut.saved⟩
      | some request =>
          have cut := cut_safe (@open_keeps _ _ request apart start) outcomes calls
          have settled := cut.settle start secures
          exact ⟨settled.seed, settled.saved⟩

theorem take_closed (apart : PathsApart config) {turn : Turn} (trusted : Trusted config device)
    (closed : device.memory.seedInitialized = false) :
    Trusted config (turn.take config device) := by
  have idle := trusted.idle closed
  have loose : Between (Joint config True everyone) (Safe config everyone) device.memory
      device.world := ⟨fun opened => absurd opened (by simp [closed]), trusted.idle⟩
  have boots : Boots (Joint config True everyone) (Safe config everyone) (Safe config everyone) :=
    verified_boots fun _ => trivial
  have keeps := @closed_keeps _ _ _ _ _ _ (verified_guard apart) boots device turn loose closed
  cases turn with
  | applications runtime =>
      exact ⟨fun opened => absurd opened (by simp [Turn.take, closed]),
        fun _ => ⟨⟨idle.1.seed, idle.1.saved⟩, idle.2⟩⟩
  | serve asked outcomes =>
      have between := keeps.run outcomes fun _ _ => trivial
      have present := (closed_present trusted closed asked).run outcomes fun _ _ => trivial
      exact ⟨fun opened => (between.ready opened).present present, between.idle⟩
  | powerLoss asked outcomes calls runtime =>
      have cut := cut_safe keeps outcomes calls
      exact ⟨(nomatch ·), fun _ => ⟨⟨cut.seed, cut.saved⟩, rfl⟩⟩

end Turns

/-- In every run that secures the prepares of applications saved as `VERIFIED`, however
often the power is lost, an application in that state has the file that its verify
accepted, with nothing written to it since. -/
theorem verified_file_kept {config : Config} (apart : PathsApart config)
    (volume : FileSystem.Volume) (runtime : AppRuntime.Runtime) (turns : List Turn)
    (secures : Obeys config (Secures config) (fresh volume runtime) turns) (appId : Text)
    (verified : stateFor (after config (fresh volume runtime) turns).memory.updates appId =
      .verified) :
    let world := (after config (fresh volume runtime) turns).world
    ∃ content, world.checked (appPath config appId) = some content ∧
      world.volume (appPath config appId) = some (.file content) := by
  have trusted : Trusted config (after config (fresh volume runtime) turns) := by
    refine after_induction (fun device turn trusted secures => ?_) turns ?_ secures
    · cases opened : device.memory.seedInitialized with
      | true => exact take_opened apart trusted opened secures
      | false => exact take_closed apart trusted opened
    · have unsaved : SavedFiles config everyone (fresh volume runtime).world := by
        rintro name _ ⟨entry, member, _⟩
        cases member
      exact ⟨(nomatch ·), fun _ => ⟨⟨(fun _ saved => nomatch saved), unsaved⟩, rfl⟩⟩
  obtain ⟨entry, _, present, live⟩ := stateFor_entry (by decide) verified
  cases opened : (after config (fresh volume runtime) turns).memory.seedInitialized with
  | true =>
      exact ((trusted.ready opened).verified appId entry present live).resolve_right
        fun lost => lost.1
  | false =>
      rw [(trusted.idle opened).2] at present
      simp [booted, UpdateManager.init] at present

def firstVerified : List Turn := .serve none [] :: (installTurns [1, 1]).take 2

def rebootTurns : List Turn := [.powerLoss none [] 0 demoRuntime, .serve none []]

def secondVerified : List Turn := firstVerified ++ (installTurns [1, 2]).take 2 ++ rebootTurns

theorem secondVerified_kept :
    let device := after demoConfig demoDevice secondVerified
    stateFor device.memory.updates (lit "pump") = .verified ∧
      ∃ content, device.world.checked (appPath demoConfig (lit "pump")) = some content ∧
        device.world.volume (appPath demoConfig (lit "pump")) = some (.file content) := by
  intro device
  have fit : PathsFit demoConfig := by decide
  have verified : stateFor device.memory.updates (lit "pump") = .verified := by decide +kernel
  exact ⟨verified, verified_file_kept fit.apart (fun _ => none) demoRuntime secondVerified
    (by decide +kernel) (lit "pump") verified⟩

def cutPrepare : List Turn :=
  firstVerified ++ [.powerLoss (some (demoRequest "prepare"
    "\x7b\"artifact_key\":\"a\",\"size\":2\x7d")) (List.replicate 9 { works with chunk := .ok [7] })
    5 demoRuntime, .serve none []]

/-- After the boot the application is `VERIFIED`, with the first byte of the second
version as its file. -/
theorem cutPrepare_unverified :
    ¬ ∀ (config : Config) (volume : FileSystem.Volume) (runtime : AppRuntime.Runtime)
      (turns : List Turn) (appId : Text), PathsApart config →
      stateFor (after config (fresh volume runtime) turns).memory.updates appId = .verified →
      let world := (after config (fresh volume runtime) turns).world
      ∃ content, world.checked (appPath config appId) = some content ∧
        world.volume (appPath config appId) = some (.file content) := by
  intro claimed
  have fit : PathsFit demoConfig := by decide
  obtain ⟨content, known, _⟩ := claimed demoConfig (fun _ => none) demoRuntime cutPrepare
    (lit "pump") fit.apart (by decide +kernel)
  have forgotten : (after demoConfig demoDevice cutPrepare).world.checked
      (appPath demoConfig (lit "pump")) = none := by
    decide +kernel
  cases forgotten.symm.trans known

end NeuroLink.VerifiedFile
