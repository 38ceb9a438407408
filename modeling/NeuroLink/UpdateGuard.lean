import NeuroLink.UpdateTables
import NeuroLink.UpdateWorld

/-!
Invariants of a whole request. A guard is a condition on the memory and the world
together with the few ways in which a request moves them; a condition that is a
guard holds again when any request is over, and implies what a power loss may rely
on at every call in between. The handlers are walked once, here; each use only has
to show that its condition is a guard.
-/

namespace NeuroLink.UpdateGuard

open CText EffectProgram MemoryProgram UpdateManager UpdateService UpdateTables UpdateWorld

def Downloads (config : Config) (request : Request) : Prop :=
  (requestTransport request).text = lit "zenoh" ∧ (requestArtifactKey request).text ≠ [] ∧
    requestedSize config request ≠ 0 ∧ config.downloadAvailable

instance (config : Config) (request : Request) : Decidable (Downloads config request) := by
  unfold Downloads
  infer_instance

/-- A condition that survives what the calls of the service do to the runtime. -/
structure Base (joint : Memory → World → Prop) (safe : World → Prop) : Prop where
  safe : ∀ {memory world}, joint memory world → safe world
  runtime : ∀ {memory world} runtime, joint memory world →
    joint memory { world with runtime := runtime }

/-- A service that keeps the condition, and is safe at every call. -/
def Guarded {Result : Type} (joint : Memory → World → Prop) (safe : World → Prop)
    (service : ServiceM Result) : Prop :=
  ∀ memory world, joint memory world →
    Keeps machine (fun _ => True) safe (fun _ after left => joint after left) service memory world

/-- Calls that change at most the runtime. -/
def Quiet (effect : Effect) : Prop :=
  ∀ outcome world, ∃ runtime, (step outcome effect world).2 = { world with runtime := runtime }

section Rules

variable {First Result : Type} {joint : Memory → World → Prop} {safe : World → Prop}
  {service : ServiceM First} {rest : First → ServiceM Result}

theorem Guarded.pure (base : Base joint safe) (result : Result) :
    Guarded joint safe (Pure.pure result) :=
  fun _ _ start => .pure (base.safe start) start

theorem Guarded.bind (first : Guarded joint safe service)
    (continues : ∀ result, Guarded joint safe (rest result)) :
    Guarded joint safe (service >>= rest) :=
  fun memory world start => (first memory world start).seq fun result after left _ kept =>
    continues result after left kept

theorem Guarded.call (base : Base joint safe) {effect : Effect} (quiet : Quiet effect) :
    Guarded joint safe (perform effect) := by
  refine fun memory world start => call_keeps effect (base.safe start) fun outcome _ => ?_
  obtain ⟨runtime, left⟩ := quiet outcome world
  rw [left]
  exact ⟨base.safe (base.runtime runtime start), base.runtime runtime start⟩

theorem Guarded.inspect (base : Base joint safe) : Guarded joint safe inspect :=
  fun _ _ start => .inspect (base.safe start) start

end Rules

theorem stat_quiet (path : Text) : Quiet (.file (.stat path)) := by
  intro outcome world
  refine ⟨world.runtime, ?_⟩
  rcases FileSystem.step_stat_cases outcome.file world.volume path with
    ⟨_, _, result⟩ | ⟨_, result⟩ | ⟨_, _, _, result⟩ <;> simp [step, result, forget]

theorem close_quiet (path : Text) : Quiet (.file (.close path)) := by
  intro outcome world
  obtain ⟨reply, result⟩ := FileSystem.step_close_cases outcome.file world.volume path
  exact ⟨world.runtime, by simp [step, result, forget]⟩

/-- A condition on memory and world with all that a request does to them. `free`
is what a download of the application needs to be allowed to write its file. -/
structure Guard (config : Config) (tables : Manager → ArtifactStore.Store → Prop)
    (joint : Memory → World → Prop) (safe : World → Prop)
    (free : Text → Memory → World → Prop) : Prop extends Base joint safe where
  upkeep : Upkeep config tables
  initialized : ∀ {memory world}, joint memory world → memory.seedInitialized = true
  upheld : ∀ {memory world}, joint memory world → tables memory.updates memory.artifacts
  replies : ∀ {memory world} replies, joint memory world →
    joint { memory with replies := replies } world
  saved : ∀ {memory world snapshot}, joint memory world →
    SeedSnapshot.buildSnapshot memory.updates memory.artifacts = .ok snapshot →
    joint memory { world with seed := some snapshot }
  calm : ∀ {memory world updates}, joint memory world → Calm memory.updates updates →
    tables updates memory.artifacts → joint { memory with updates := updates } world
  stored : ∀ {memory world artifacts}, joint memory world →
    tables memory.updates artifacts → joint { memory with artifacts := artifacts } world
  freeRuntime : ∀ {appId memory world} runtime, free appId memory world →
    free appId memory { world with runtime := runtime }
  writes : ∀ {appId memory world volume checked}, joint memory world → free appId memory world →
    (∀ path, path ≠ appPath config appId →
      volume path = world.volume path ∧ checked path = world.checked path) →
    joint memory { world with volume := volume, checked := checked } ∧
      free appId memory { world with volume := volume, checked := checked }
  checks : ∀ {appId memory world content}, joint memory world →
    world.volume (appPath config appId) = some (.file content) →
    joint memory { world with
      checked := Function.update world.checked (appPath config appId) (some content) }
  verifies : ∀ {appId memory world content}, joint memory world →
    world.checked (appPath config appId) = some content →
    world.volume (appPath config appId) = some (.file content) →
    tables (verifyComplete memory.updates appId).2 memory.artifacts →
    joint { memory with updates := (verifyComplete memory.updates appId).2 } world
  activates : ∀ {appId memory world content}, joint memory world →
    world.volume (appPath config appId) = some (.file content) →
    joint memory { world with
      activated := Function.update world.activated appId (some content) }
  records : ∀ {appId memory world content}, joint memory world →
    world.activated appId = some content →
    world.volume (appPath config appId) = some (.file content) →
    tables (recordStableRef memory.updates appId (appPath config appId)).2
      memory.artifacts →
    joint { memory with
      updates := (recordStableRef memory.updates appId (appPath config appId)).2 } world
  forgets : ∀ {appId path memory world}, joint memory world → appId ≠ [] →
    appId.length ≤ 31 → ArtifactStore.get memory.artifacts appId ≠ none →
    (deletePath config (ArtifactStore.get memory.artifacts appId) appId).text = path →
    tables (remove memory.updates appId).2 (ArtifactStore.remove memory.artifacts appId).2 →
    joint { memory with
        artifacts := (ArtifactStore.remove memory.artifacts appId).2
        updates := (remove memory.updates appId).2 }
      { world with
        volume := Function.update world.volume path none
        checked := Function.update world.checked path none }

section Parts

variable {config : Config} {tables : Manager → ArtifactStore.Store → Prop}
  {joint : Memory → World → Prop} {safe : World → Prop} {free : Text → Memory → World → Prop}
  {appId : Text}

theorem answer_guarded (guard : Guard config tables joint safe free) (reply : Answer) :
    Guarded joint safe (answer reply) :=
  fun _ _ start => .edit (guard.safe start) (guard.replies _ start)

theorem publish_guarded (base : Base joint safe) (appId : Text) (stage status : String)
    (detail : Text) : Guarded joint safe (publishUpdateEvent appId stage status detail) :=
  .call base fun _ world => ⟨world.runtime, rfl⟩

theorem artifacts_guarded (guard : Guard config tables joint safe free)
    {change : ArtifactStore.Store → Int × ArtifactStore.Store}
    (stays : ∀ updates store, tables updates store → tables updates (change store).2) :
    Guarded joint safe (artifacts change) :=
  fun memory _ start => .edit (guard.safe start)
    (guard.stored start (stays memory.updates memory.artifacts (guard.upheld start)))

theorem Guard.unique (guard : Guard config tables joint safe free) {memory : Memory}
    {world : World} (start : joint memory world) : Unique memory.updates :=
  (guard.upkeep.listed (guard.upheld start)).unique

theorem Guard.calmed (guard : Guard config tables joint safe free) {memory : Memory} {world : World}
    {updates : Manager} (start : joint memory world) (calm : Calm memory.updates updates) :
    joint { memory with updates := updates } world :=
  guard.calm start calm (guard.upkeep.updated (guard.upheld start) calm.toRetains)

theorem updates_guarded (guard : Guard config tables joint safe free)
    {change : Manager → Int × Manager}
    (calm : ∀ manager : Manager, Unique manager → Calm manager (change manager).2) :
    Guarded joint safe (updates change) :=
  fun memory _ start => .edit (guard.safe start)
    (guard.calmed start (calm memory.updates (guard.unique start)))

/-- A save stores the snapshot of the memory, or leaves the one before. -/
theorem saveSnapshot_guarded (guard : Guard config tables joint safe free) :
    Guarded joint safe saveSnapshot := by
  intro memory world start
  refine inspect_keeps ?_
  cases built : SeedSnapshot.buildSnapshot memory.updates memory.artifacts with
  | error error => exact .pure (guard.safe start) start
  | ok snapshot =>
      refine call_keeps (.saveSeed snapshot) (guard.safe start) fun outcome _ => ?_
      dsimp only [step]
      split
      · exact ⟨guard.safe (guard.saved start built), guard.saved start built⟩
      · exact ⟨guard.safe start, start⟩

theorem persist_guarded (guard : Guard config tables joint safe free) :
    Guarded joint safe persistRecoverySeedSnapshot := by
  intro memory world start
  have ready : Keeps machine (fun _ => True) safe
      (fun ret after left => ret = 0 ∧ after = memory ∧ left = world)
      ensureRecoverySeedInitialized memory world := by
    refine .bind (.inspect (guard.safe start) ?_)
    rw [if_pos (guard.initialized start)]
    exact .pure (guard.safe start) ⟨rfl, rfl, rfl⟩
  refine ready.seq fun ret after left _ done => ?_
  rw [done.1, done.2.1, done.2.2, if_neg (by simp)]
  exact saveSnapshot_guarded guard memory world start

theorem failStage_guarded (guard : Guard config tables joint safe free)
    {fail : Manager → Int × Manager}
    (calm : ∀ manager : Manager, Unique manager → Calm manager (fail manager).2) (appId : Text)
    (stage : String) (detail message : Text) (statusCode : Nat) :
    Guarded joint safe (failStage fail appId stage detail message statusCode) :=
  .bind (updates_guarded guard calm) fun _ => .bind (persist_guarded guard) fun _ =>
    .bind (publish_guarded guard.toBase _ _ _ _) fun _ => answer_guarded guard _

theorem lease_guarded (guard : Guard config tables joint safe free) (resource : Text)
    (metadata : RequestMetadata) :
    Guarded joint safe (requireResourceLeaseOrReply resource metadata) := by
  have denied : ∀ (message : String) (statusCode : Nat),
      Guarded joint safe (do replyError message statusCode; return false) :=
    fun message statusCode => .bind (answer_guarded guard _) fun _ => .pure guard.toBase false
  have asked : Guarded joint safe (perform (.requireResource resource metadata)) :=
    .call guard.toBase fun _ world => ⟨world.runtime, rfl⟩
  refine .bind asked fun ret => ?_
  split
  · exact denied _ _
  split
  · exact denied _ _
  split
  · exact denied _ _
  · exact .pure guard.toBase true

theorem runtimeAppIsLoaded_guarded (base : Base joint safe) (appId : Text) :
    Guarded joint safe (runtimeAppIsLoaded appId) :=
  .bind (.call base fun _ world => ⟨world.runtime, rfl⟩) fun _ => .pure base _

theorem runtimeFailureDetail_guarded (base : Base joint safe) (fallback : String)
    (ret : Int) : Guarded joint safe (runtimeFailureDetail fallback ret) :=
  .bind (.call base fun _ world => ⟨world.runtime, rfl⟩) fun _ => .pure base _

end Parts

section Prepare

variable {config : Config} {tables : Manager → ArtifactStore.Store → Prop}
  {joint : Memory → World → Prop} {safe : World → Prop} {free : Text → Memory → World → Prop}
  {request : Request}

theorem failPrepare_guarded (guard : Guard config tables joint safe free) (appId : Text)
    (reason message : String) (statusCode : Nat) :
    Guarded joint safe (failPrepare appId reason message statusCode) := by
  refine failStage_guarded guard ?_ _ _ _ _ _
  exact fun _ unique => fail_calm appId _ unique

theorem stageArtifact_keeps (guard : Guard config tables joint safe free) (keyexpr : Text)
    {memory : Memory} {world : World} (start : joint memory world)
    (present : entryOf memory.updates request.appId.text ≠ none) :
    Keeps machine (fun _ => True) safe (fun _ after left => joint after left)
      (stageArtifact config request keyexpr) memory world := by
  have short : request.appId.text.length ≤ 31 := Nat.le_of_lt_succ request.appId.fits
  have staged := guard.stored start (guard.upkeep.staged (requestTransport request).text keyexpr
    (requestedSize config request) (requestChunkSize config request) 0 (guard.upheld start)
    short present)
  unfold stageArtifact
  refine artifacts_keeps ?_
  split
  · exact failPrepare_guarded guard _ _ _ _ _ _ staged
  have completes : Guarded joint safe
      (updates fun manager => prepareComplete manager request.appId.text) :=
    updates_guarded guard fun _ unique => move_calm _ (by decide) unique
  have rest : Guarded joint safe (do
      let ret ← updates fun manager => prepareComplete manager request.appId.text
      if ret ≠ 0 then
        publishUpdateEvent request.appId.text "prepare" "error" (lit "prepare complete failed")
        replyError "prepare complete failed" 500
      else
        let _ ← persistRecoverySeedSnapshot
        publishUpdateEvent request.appId.text "prepare" "ok" (appPath config request.appId.text)
        answer (.accepted (lit "prepare")
          { okReply config request with
            path := appPath config request.appId.text
            transport := (requestTransport request).text })) := by
    refine .bind completes fun ret => ?_
    split
    · exact .bind (publish_guarded guard.toBase _ _ _ _) fun _ => answer_guarded guard _
    · exact .bind (persist_guarded guard) fun _ =>
        .bind (publish_guarded guard.toBase _ _ _ _) fun _ => answer_guarded guard _
  exact rest _ _ staged

/-- The condition while a download may write the file of an application, which is on
record. -/
def Writable (joint : Memory → World → Prop) (free : Text → Memory → World → Prop)
    (appId : Text) (memory : Memory) (world : World) : Prop :=
  joint memory world ∧ free appId memory world ∧ entryOf memory.updates appId ≠ none

theorem writable_base (guard : Guard config tables joint safe free) (appId : Text) :
    Base (Writable joint free appId) safe :=
  ⟨fun writable => guard.safe writable.1,
    fun runtime writable => ⟨guard.runtime runtime writable.1,
      guard.freeRuntime runtime writable.2.1, writable.2.2⟩⟩

def WritesTo (path : Text) (op : FileSystem.Op) : Prop :=
  op = .openTruncate path ∨ (∃ content, op = .write path content) ∨ op = .unlink path

theorem writesTo_elsewhere {path other : Text} {op : FileSystem.Op} (writes : WritesTo path op)
    (apart : other ≠ path) (outcome : Outcome) (world : World) :
    (step outcome (.file op) world).2.volume other = world.volume other ∧
      (step outcome (.file op) world).2.checked other = world.checked other := by
  rcases writes with rfl | ⟨content, rfl⟩ | rfl
  · refine ⟨?_, by simp [step, forget, apart]⟩
    rcases FileSystem.step_openTruncate_cases outcome.file world.volume path with
      result | ⟨_, _, result⟩ <;> simp [step, result, apart]
  · refine ⟨?_, by simp [step, forget, apart]⟩
    obtain ⟨count, reply, result, _⟩ :=
      FileSystem.step_write_cases outcome.file world.volume path content
    simp only [step, result]
    exact FileSystem.append_elsewhere _ apart
  · rcases FileSystem.step_unlink_cases outcome.file world.volume path with
      ⟨_, result⟩ | ⟨_, negative, result⟩
    · simp [step, result, forget, apart]
    · have failed : ¬ (_ : Int) = 0 := Int.ne_of_lt negative
      simp [step, result, forget, failed]

theorem write_guarded (guard : Guard config tables joint safe free) {appId : Text}
    {op : FileSystem.Op} (writes : WritesTo (appPath config appId) op) :
    Guarded (Writable joint free appId) safe
      (perform (.file op)) := by
  refine fun memory world start => call_keeps (.file op) (guard.safe start.1) fun outcome _ => ?_
  have after := guard.writes start.1 start.2.1
    fun path apart => writesTo_elsewhere writes apart outcome world
  exact ⟨guard.safe after.1, after.1, after.2, start.2.2⟩

theorem removeFile_guarded (guard : Guard config tables joint safe free) (appId : Text) :
    Guarded (Writable joint free appId) safe
      (removeFile config (appPath config appId)) := by
  have base := writable_base guard appId
  unfold removeFile
  split
  · exact .bind (write_guarded guard (.inr (.inr rfl))) fun _ => .pure base ()
  · exact .pure base ()

theorem downloadChunks_guarded (guard : Guard config tables joint safe free) (appId key : Text)
    (totalSize chunkSize rounds offset : Nat) :
    Guarded (Writable joint free appId) safe
      (downloadChunks key totalSize chunkSize (appPath config appId) rounds offset) := by
  have base := writable_base guard appId
  induction rounds generalizing offset with
  | zero => exact .pure base 0
  | succ rounds ih =>
      unfold downloadChunks
      split
      · refine .bind (.call base fun _ world => ⟨world.runtime, rfl⟩) fun fetched => ?_
        cases fetched with
        | error error => exact .pure base error
        | ok chunk =>
            dsimp only
            split
            · exact .pure base _
            refine .bind (write_guarded guard (.inr (.inl ⟨chunk, rfl⟩))) fun written => ?_
            split
            · exact .pure base _
            split
            · exact .pure base _
            · exact ih _
      · exact .pure base 0

/-- A download writes the one file it is for. -/
theorem downloadArtifact_guarded (guard : Guard config tables joint safe free) (appId key : Text)
    (totalSize chunkSize : Nat) :
    Guarded (Writable joint free appId) safe
      (downloadArtifact config key totalSize chunkSize (appPath config appId)) := by
  have base := writable_base guard appId
  have transfer : Guarded (Writable joint free appId) safe
      (zenohDownloadArtifact config key totalSize chunkSize (appPath config appId)) := by
    unfold zenohDownloadArtifact
    split
    · exact .pure base _
    refine .bind (.call base fun _ world => ⟨world.runtime, rfl⟩) fun allocated => ?_
    split
    · exact .pure base _
    refine .bind (write_guarded guard (.inl rfl)) fun opened => ?_
    split
    · exact .pure base _
    refine .bind (downloadChunks_guarded guard _ _ _ _ _ _) fun ret =>
      .bind (.call base (close_quiet _)) fun closed => ?_
    dsimp only
    generalize (if ret = 0 ∧ closed < 0 then closed else ret) = outcome
    split
    · exact .bind (removeFile_guarded guard appId) fun _ => .pure base _
    · exact .pure base _
  refine .bind (.call base fun _ world => ⟨world.runtime, rfl⟩) fun opened => ?_
  split
  · exact .pure base _
  · exact .bind transfer fun ret =>
      .bind (.call base fun _ world => ⟨world.runtime, rfl⟩) fun _ => .pure base ret

theorem downloadedWhole_guarded (base : Base joint safe) (path : Text) (size : Nat) :
    Guarded joint safe (downloadedWhole path size) := by
  refine .bind (.call base (stat_quiet path)) fun found => ?_
  cases found with
  | error error => exact .pure base _
  | ok ent => exact .pure base _

theorem Guarded.afterwards {Result : Type} {appId : Text} {service : ServiceM Result}
    {rest : Result → ServiceM Unit} {memory : Memory} {world : World}
    (guarded : Guarded (Writable joint free appId) safe
      service)
    (start : Writable joint free appId memory world)
    (continues : ∀ result after left, Writable joint free appId after left →
      Keeps machine (fun _ => True) safe (fun _ after left => joint after left) (rest result)
        after left) :
    Keeps machine (fun _ => True) safe (fun _ after left => joint after left)
      (service >>= rest) memory world :=
  (guarded memory world start).seq fun result after left _ kept => continues result after left kept

theorem handleUpdatePrepare_keeps (guard : Guard config tables joint safe free) {memory : Memory}
    {world : World} (start : joint memory world)
    (frees : Downloads config request →
      (prepareBegin memory.updates request.appId.text).1 = 0 →
      free request.appId.text
        { memory with updates := (prepareBegin memory.updates request.appId.text).2 } world) :
    Keeps machine (fun _ => True) safe (fun _ after left => joint after left)
      (handleUpdatePrepare config request) memory world := by
  have short : request.appId.text.length ≤ 31 := Nat.le_of_lt_succ request.appId.fits
  have unique := (guard.unique start)
  have begun := guard.calmed start (prepareBegin_calm unique short)
  unfold handleUpdatePrepare
  refine updates_keeps ?_
  by_cases refused : (prepareBegin memory.updates request.appId.text).1 ≠ 0
  · rw [if_pos refused]
    exact answer_guarded guard _ _ _ begun
  rw [if_neg refused]
  -- an admitted prepare has put the application on record
  have present := prepareBegin_present unique short (not_not.mp refused)
  dsimp only
  by_cases zenoh : (requestTransport request).text = lit "zenoh"
  · rw [if_pos zenoh]
    by_cases contract : (requestArtifactKey request).text = [] ∨ requestedSize config request = 0 ∨
        ¬ config.downloadAvailable
    · rw [if_pos contract]
      exact failPrepare_guarded guard _ _ _ _ _ _ begun
    rw [if_neg contract]
    have downloads : Downloads config request := by
      unfold Downloads
      tauto
    have open_ := frees downloads (not_not.mp refused)
    -- a download that fails, or is short, leaves no file and no artifact
    refine (downloadArtifact_guarded guard _ _ _ _).afterwards ⟨begun, open_, present⟩
      fun ret fetched left kept => ?_
    split
    · exact (removeFile_guarded guard _).afterwards kept fun _ removed left kept =>
        failPrepare_guarded guard _ _ _ _ _ _ kept.1
    refine (downloadedWhole_guarded (writable_base guard _) _ _).afterwards kept
      fun whole checked left kept => ?_
    split
    · exact (removeFile_guarded guard _).afterwards kept fun _ removed left kept =>
        failPrepare_guarded guard _ _ _ _ _ _ kept.1
    · exact stageArtifact_keeps guard _ kept.1 kept.2.2
  · rw [if_neg zenoh]
    exact stageArtifact_keeps guard _ begun present

end Prepare

theorem artifactStat_finds {safe : World → Prop} {memory : Memory} {world : World}
    (kept : safe world) (path : Text) :
    Keeps machine (fun _ => True) safe
      (fun found after left => after = memory ∧ left = world ∧ (fileSize found ≠ 0 →
        ∃ content, world.volume path = some (.file content) ∧ content ≠ []))
      (artifactStat path) memory world := by
  refine call_keeps (.file (.stat path)) kept fun outcome _ => ?_
  rcases FileSystem.step_stat_cases outcome.file world.volume path with
    ⟨node, there, result⟩ | ⟨_, result⟩ | ⟨_, _, _, result⟩
  · simp only [step, result, forget]
    refine ⟨kept, trivial, trivial, fun sized => ?_⟩
    cases node with
    | dir => exact absurd rfl sized
    | file content =>
        refine ⟨content, there, fun empty => sized ?_⟩
        rw [empty]
        rfl
  · simp only [step, result, forget]
    exact ⟨kept, trivial, trivial, fun sized => absurd rfl sized⟩
  · simp only [step, result, forget]
    exact ⟨kept, trivial, trivial, fun sized => absurd rfl sized⟩

section Verify

variable {config : Config} {tables : Manager → ArtifactStore.Store → Prop}
  {joint : Memory → World → Prop} {safe : World → Prop} {free : Text → Memory → World → Prop}
  {request : Request} {memory : Memory} {world : World}

theorem setArtifactState_guarded (guard : Guard config tables joint safe free) (appId : Text)
    (state : ArtifactStore.State) : Guarded joint safe (setArtifactState appId state) :=
  artifacts_guarded guard fun _ _ tidy => guard.upkeep.setState appId state tidy

theorem failVerify_guarded (guard : Guard config tables joint safe free) (appId : Text)
    (reason detail message : String) (statusCode : Nat) :
    Guarded joint safe (failVerify appId reason detail message statusCode) := by
  refine failStage_guarded guard ?_ _ _ _ _ _
  exact fun _ unique => fail_calm appId _ unique

/-- A file that verify accepts is marked before the entry says so. -/
theorem acceptArtifact_keeps (guard : Guard config tables joint safe free) {content : List UInt8}
    (size : Nat) (start : joint memory world)
    (there : world.volume (appPath config request.appId.text) = some (.file content)) :
    Keeps machine (fun _ => True) safe (fun _ after left => joint after left)
      (acceptArtifact config request (appPath config request.appId.text) size) memory world := by
  unfold acceptArtifact
  refine perform_keeps (.mark _) (guard.safe start) fun _ _ => ?_
  have found : fileContent world.volume (appPath config request.appId.text) = some content := by
    simp [fileContent, there]
  have marked := guard.checks start there
  rw [← found] at marked
  refine ⟨guard.safe marked, artifacts_keeps ?_⟩
  have stored := guard.stored marked
    (guard.upkeep.setState request.appId.text .verified (guard.upheld marked))
  split
  · exact failVerify_guarded guard _ _ _ _ _ _ _ stored
  have checked : Function.update world.checked (appPath config request.appId.text)
      (fileContent world.volume (appPath config request.appId.text))
      (appPath config request.appId.text) = some content := by
    rw [Function.update_self, found]
  have verified := guard.verifies stored checked there
    (guard.upkeep.updated (guard.upheld stored)
      (verifyComplete_retains _ (guard.unique stored)))
  refine updates_keeps ?_
  split
  · exact failVerify_guarded guard _ _ _ _ _ _ _ verified
  · have rest : Guarded joint safe (do
        let _ ← persistRecoverySeedSnapshot
        publishUpdateEvent request.appId.text "verify" "ok" (lit "artifact present")
        answer (.accepted (lit "verify")
          { okReply config request with size := (UInt32.ofNat size).toNat })) :=
      .bind (persist_guarded guard) fun _ =>
        .bind (publish_guarded guard.toBase _ _ _ _) fun _ => answer_guarded guard _
    exact rest _ _ verified

theorem handleUpdateVerify_keeps (guard : Guard config tables joint safe free)
    (start : joint memory world) :
    Keeps machine (fun _ => True) safe (fun _ after left => joint after left)
      (handleUpdateVerify config request) memory world := by
  have begins : Calm memory.updates (verifyBegin memory.updates request.appId.text).2 :=
    amend_calm _ (guard.unique start) (by decide) (onlyFrom_error _) (fun _ => rfl)
      (fun _ => rfl) (fun _ => by simp)
  have begun := guard.calmed start begins
  unfold handleUpdateVerify
  refine updates_keeps ?_
  split
  · exact answer_guarded guard _ _ _ begun
  refine (artifactStat_finds (guard.safe begun) _).seq fun found after left _ done => ?_
  obtain ⟨rfl, rfl, sized⟩ := done
  dsimp only
  have fails : ∀ message statusCode, Guarded joint safe (do
      let _ ← setArtifactState request.appId.text .invalid
      failVerify request.appId.text message message message statusCode) :=
    fun message statusCode => .bind (setArtifactState_guarded guard _ _) fun _ =>
      failVerify_guarded guard _ _ _ _ _
  by_cases missing : fileSize found = 0
  · rw [if_pos missing]
    exact fails _ _ _ _ begun
  rw [if_neg missing]
  obtain ⟨content, there, _⟩ := sized missing
  refine inspect_keeps ?_
  split
  · exact fails _ _ _ _ begun
  · exact acceptArtifact_keeps guard _ begun there

end Verify

section Activate

variable {config : Config} {tables : Manager → ArtifactStore.Store → Prop}
  {joint : Memory → World → Prop} {safe : World → Prop} {free : Text → Memory → World → Prop}
  {request : Request} {memory : Memory} {world : World}

theorem failActivate_guarded (guard : Guard config tables joint safe free)
    (appId detail message : Text) :
    Guarded joint safe (failActivate appId detail message) := by
  refine failStage_guarded guard ?_ _ _ _ _ _
  exact fun _ unique => fail_calm appId _ unique

/-- The stable reference is recorded with the content that runs, which is the one
the file has. -/
theorem recordActivation_keeps (guard : Guard config tables joint safe free) {content : List UInt8}
    (start : joint memory world)
    (there : world.volume (appPath config request.appId.text) = some (.file content))
    (runs : AppRuntime.imageOf world.runtime request.appId.text = some content) :
    Keeps machine (fun _ => True) safe (fun _ after left => joint after left)
      (recordActivation config request (appPath config request.appId.text)) memory world := by
  unfold recordActivation
  have stored := guard.stored start
    (guard.upkeep.setState request.appId.text .active (guard.upheld start))
  refine artifacts_keeps (updates_keeps ?_)
  have completes : Calm memory.updates
      (activateComplete memory.updates request.appId.text).2 :=
    move_calm _ (by decide) (guard.unique start)
  have completed := guard.calmed stored completes
  split
  · exact answer_guarded guard _ _ _ completed
  have marked := guard.activates completed there
  rw [← runs] at marked
  refine perform_keeps (.mark _) (guard.safe completed) fun _ _ => ⟨guard.safe marked, ?_⟩
  have active : Function.update world.activated request.appId.text
      (AppRuntime.imageOf world.runtime request.appId.text) request.appId.text = some content := by
    rw [Function.update_self, runs]
  have recorded := guard.records marked active there
    (guard.upkeep.updated (guard.upheld marked)
      (recordStableRef_retains _ _ (guard.unique marked)))
  refine updates_keeps ?_
  have rest : Guarded joint safe (do
      let _ ← persistRecoverySeedSnapshot
      perform (.registerAppCallbackCommand request.appId.text)
      publishUpdateEvent request.appId.text "activate" "ok" (lit "app running")
      perform .publishStateEvent
      answer (.accepted (lit "activate")
        { okReply config request with path := appPath config request.appId.text })) :=
    .bind (persist_guarded guard) fun _ =>
      .bind (.call guard.toBase fun _ world => ⟨world.runtime, rfl⟩) fun _ =>
      .bind (publish_guarded guard.toBase _ _ _ _) fun _ =>
      .bind (.call guard.toBase fun _ world => ⟨world.runtime, rfl⟩) fun _ =>
      answer_guarded guard _
  exact rest _ _ recorded

theorem runtimeLoad_keeps (guard : Guard config tables joint safe free) (start : joint memory world)
    (appId path : Text) :
    Keeps machine (fun _ => True) safe
      (fun ret after left => after = memory ∧ joint memory left ∧ left.volume = world.volume ∧
        (ret = 0 → ∃ content, world.volume path = some (.file content) ∧
          AppRuntime.imageOf left.runtime appId = some content))
      (perform (.runtimeLoad appId path) : ServiceM Int) memory world := by
  refine call_keeps (.runtimeLoad appId path) (guard.safe start) fun outcome _ => ?_
  have loaded := guard.runtime
    (AppRuntime.load outcome.report world.volume appId path world.runtime).2 start
  exact ⟨guard.safe loaded, rfl, loaded, rfl, AppRuntime.load_image⟩

theorem runtimeStart_keeps (guard : Guard config tables joint safe free)
    (start : joint memory world) (appId startArgs : Text) :
    Keeps machine (fun _ => True) safe
      (fun _ after left => after = memory ∧ joint memory left ∧ left.volume = world.volume ∧
        AppRuntime.imageOf left.runtime appId = AppRuntime.imageOf world.runtime appId)
      (perform (.runtimeStart appId startArgs) : ServiceM Int) memory world := by
  refine call_keeps (.runtimeStart appId startArgs) (guard.safe start) fun outcome _ => ?_
  have started := guard.runtime (AppRuntime.start appId startArgs world.runtime).2 start
  exact ⟨guard.safe started, rfl, started, rfl,
    AppRuntime.imageOf_images (AppRuntime.start_images startArgs) appId⟩

theorem launchArtifact_keeps (guard : Guard config tables joint safe free)
    (start : joint memory world) :
    Keeps machine (fun _ => True) safe (fun _ after left => joint after left)
      (launchArtifact config request) memory world := by
  have fails : ∀ fallback ret, Guarded joint safe (do
      let detail ← runtimeFailureDetail fallback ret
      failActivate request.appId.text detail detail) := fun _ _ =>
    .bind (runtimeFailureDetail_guarded guard.toBase _ _) fun _ => failActivate_guarded guard _ _ _
  unfold launchArtifact
  refine (runtimeLoad_keeps guard start _ _).seq fun ret after left _ done => ?_
  obtain ⟨rfl, loaded, volume, image⟩ := done
  by_cases failed : ret ≠ 0
  · rw [if_pos failed]
    exact fails _ _ _ _ loaded
  rw [if_neg failed]
  obtain ⟨content, there, image⟩ := image (not_not.mp failed)
  refine (runtimeStart_keeps guard loaded _ _).seq fun ret after running _ done => ?_
  obtain ⟨rfl, started, same, kept⟩ := done
  split
  · exact fails _ _ _ _ started
  · exact recordActivation_keeps guard started (by rw [same, volume]; exact there)
      (kept.trans image)

theorem handleUpdateActivate_keeps (guard : Guard config tables joint safe free)
    (start : joint memory world) :
    Keeps machine (fun _ => True) safe (fun _ after left => joint after left)
      (handleUpdateActivate config request) memory world := by
  have launches : Guarded joint safe (launchArtifact config request) :=
    fun _ _ => launchArtifact_keeps guard
  have begins : Guarded joint safe
      (updates fun manager => activateBegin manager request.appId.text) :=
    updates_guarded guard fun _ unique => amend_calm _ unique (by decide) (onlyFrom_error _)
      (fun _ => rfl) (fun _ => rfl) (fun _ => by simp)
  have handled : Guarded joint safe (handleUpdateActivate config request) := by
    unfold handleUpdateActivate
    refine .bind (lease_guarded guard _ _) fun held => ?_
    split
    · exact .pure guard.toBase ()
    refine .bind begins fun ret => ?_
    split
    · exact answer_guarded guard _
    refine .bind (runtimeAppIsLoaded_guarded guard.toBase _) fun loaded => ?_
    split
    · refine .bind (.call guard.toBase fun _ world => ⟨_, rfl⟩) fun ret => ?_
      split
      · exact failActivate_guarded guard _ _ _
      · exact launches
    · exact launches
  exact handled _ _ start

end Activate

section Rollback

variable {config : Config} {tables : Manager → ArtifactStore.Store → Prop}
  {joint : Memory → World → Prop} {safe : World → Prop} {free : Text → Memory → World → Prop}
  {request : Request}

theorem failRollback_guarded (guard : Guard config tables joint safe free) (appId : Text)
    (reason detail message : String) :
    Guarded joint safe (failRollback appId reason detail message) := by
  refine failStage_guarded guard ?_ _ _ _ _ _
  exact fun _ unique => fail_calm appId _ unique

theorem completeRollback_guarded (guard : Guard config tables joint safe free) (detail : String) :
    Guarded joint safe (completeRollback config request detail) := by
  have completes : Guarded joint safe
      (updates fun manager => rollbackComplete manager request.appId.text) :=
    updates_guarded guard fun _ unique => move_calm _ (by decide) unique
  refine .bind completes fun ret => ?_
  split
  · exact answer_guarded guard _
  · exact .bind (persist_guarded guard) fun _ =>
      .bind (publish_guarded guard.toBase _ _ _ _) fun _ =>
      .bind (.call guard.toBase fun _ world => ⟨world.runtime, rfl⟩) fun _ =>
      answer_guarded guard _

theorem rollBack_guarded (guard : Guard config tables joint safe free) :
    Guarded joint safe (rollBack config request) := by
  have base := guard.toBase
  unfold rollBack
  refine .bind (.call base fun _ world => ⟨_, rfl⟩) fun _ =>
    .bind (.call base fun _ world => ⟨_, rfl⟩) fun ret => ?_
  split
  · exact failRollback_guarded guard _ _ _ _
  refine .bind (.call base fun _ world => ⟨world.runtime, rfl⟩) fun _ =>
    .bind (.inspect base) fun memory => ?_
  dsimp only
  split
  · have restores : Guarded joint safe (restoreStable request.appId.text
        (stableRefFor memory.updates request.appId.text)) := by
      refine .bind (.call base fun _ world => ⟨_, rfl⟩) fun ret => ?_
      split
      · exact .call base fun _ world => ⟨_, rfl⟩
      · exact .pure base _
    refine .bind restores fun ret => ?_
    split
    · exact failRollback_guarded guard _ _ _ _
    · exact .bind (.call base fun _ world => ⟨world.runtime, rfl⟩) fun _ =>
        .bind (setArtifactState_guarded guard _ _) fun _ => completeRollback_guarded guard _
  · exact .bind (artifacts_guarded guard fun _ _ tidy => guard.upkeep.removed _ tidy)
      fun _ => completeRollback_guarded guard _

theorem handleUpdateRollback_guarded (guard : Guard config tables joint safe free) :
    Guarded joint safe (handleUpdateRollback config request) := by
  have begins : Guarded joint safe (updates fun manager =>
      rollbackBegin manager request.appId.text (requestReason request).text) :=
    updates_guarded guard fun _ unique => rollbackBegin_calm _ _ unique
  have fails : ∀ reason, Guarded joint safe (updates fun manager =>
      rollbackFail manager request.appId.text reason) := fun reason =>
    updates_guarded guard fun _ unique => fail_calm _ _ unique
  have marks : Guarded joint safe (updates fun manager =>
      rollbackMarkInProgress manager request.appId.text) :=
    updates_guarded guard fun _ unique => move_calm _ (by decide) unique
  unfold handleUpdateRollback
  refine .bind (lease_guarded guard _ _) fun held => ?_
  split
  · exact .pure guard.toBase ()
  refine .bind begins fun ret => ?_
  split
  · exact answer_guarded guard _
  refine .bind (persist_guarded guard) fun saved => ?_
  split
  · exact .bind (fails _) fun _ => .bind (publish_guarded guard.toBase _ _ _ _) fun _ =>
      answer_guarded guard _
  refine .bind marks fun ret => ?_
  split
  · exact .bind (fails _) fun _ => answer_guarded guard _
  · exact rollBack_guarded guard

end Rollback

section Delete

variable {config : Config} {tables : Manager → ArtifactStore.Store → Prop}
  {joint : Memory → World → Prop} {safe : World → Prop} {free : Text → Memory → World → Prop}
  {request : Request}

theorem failDelete_guarded (guard : Guard config tables joint safe free) (appId : Text)
    (detail message : String) (statusCode : Nat) :
    Guarded joint safe (failDelete appId detail message statusCode) :=
  .bind (publish_guarded guard.toBase _ _ _ _) fun _ => answer_guarded guard _

theorem deletePath_located {store : ArtifactStore.Store} {appId : Text}
    (located : Located config store) (present : ArtifactStore.get store appId ≠ none) :
    (deletePath config (ArtifactStore.get store appId) appId).text = appPath config appId := by
  cases found : ArtifactStore.get store appId with
  | none => exact absurd found present
  | some artifact =>
      have path := located_get located found
      have named : artifact.path.text ≠ [] := by
        rw [path]
        exact buildAppPath_nonempty config appId
      unfold deletePath
      rw [Option.map_some, Option.getD_some, if_pos named, path]
      exact copyBounded_exact _ (Nat.le_trans (appPath_short config appId) (by decide))

/-- From the removed file on: the application is forgotten with it. -/
theorem forgetApp_keeps (guard : Guard config tables joint safe free) {memory : Memory}
    {world : World} (path : Text)
    (forgot : joint { memory with
        artifacts := (ArtifactStore.remove memory.artifacts request.appId.text).2
        updates := (remove memory.updates request.appId.text).2 } world) :
    Keeps machine (fun _ => True) safe (fun _ after left => joint after left)
      (forgetApp config request path) memory world := by
  unfold forgetApp
  refine artifacts_keeps (updates_keeps ?_)
  have rest : Guarded joint safe (do
      perform (.removeAppCommands request.appId.text)
      let saved ← persistRecoverySeedSnapshot
      if saved ≠ 0 then
        failDelete request.appId.text "recovery seed save failed"
          "delete recovery seed save failed" 500
      else
        publishUpdateEvent request.appId.text "delete" "ok" (lit "artifact deleted")
        perform .publishStateEvent
        answer (.accepted (lit "delete") { okReply config request with path := path })) := by
    refine .bind (.call guard.toBase fun _ world => ⟨world.runtime, rfl⟩) fun _ =>
      .bind (persist_guarded guard) fun saved => ?_
    split
    · exact failDelete_guarded guard _ _ _ _
    · exact .bind (publish_guarded guard.toBase _ _ _ _) fun _ =>
        .bind (.call guard.toBase fun _ world => ⟨world.runtime, rfl⟩) fun _ =>
        answer_guarded guard _
  exact rest _ _ forgot

theorem unlink_step (outcome : Outcome) (path : Text) (world : World) :
    step outcome (.file (.unlink path)) world = ((0 : Int), { world with
        volume := Function.update world.volume path none
        checked := Function.update world.checked path none }) ∨
      ∃ error : Int, error ≠ 0 ∧ step outcome (.file (.unlink path)) world = (error, world) := by
  rcases FileSystem.step_unlink_cases outcome.file world.volume path with
    ⟨_, result⟩ | ⟨error, negative, result⟩
  · exact .inl (by simp [step, result, forget])
  · have failed : error ≠ 0 := Int.ne_of_lt negative
    exact .inr ⟨error, failed, by simp [step, result, forget, failed]⟩

theorem handleUpdateDelete_guarded (guard : Guard config tables joint safe free) :
    Guarded joint safe (handleUpdateDelete config request) := by
  unfold handleUpdateDelete
  refine .bind (lease_guarded guard _ _) fun held => ?_
  split
  · exact .pure guard.toBase ()
  refine .bind (runtimeAppIsLoaded_guarded guard.toBase _) fun loaded => ?_
  split
  · exact failDelete_guarded guard _ _ _ _
  intro memory world start
  refine inspect_keeps ?_
  dsimp only
  split
  · exact failDelete_guarded guard _ _ _ _ _ _ start
  split
  · exact failDelete_guarded guard _ _ _ _ _ _ start
  · next present =>
    have named : request.appId.text ≠ [] := fun empty =>
      present (by simp [ArtifactStore.get, empty])
    refine perform_keeps (.file (.unlink _)) (guard.safe start) fun outcome _ => ?_
    rcases unlink_step outcome (deletePath config
        (ArtifactStore.get memory.artifacts request.appId.text) request.appId.text).text world with
      removed | ⟨error, failed, kept⟩
    · have forgot := guard.forgets start named (Nat.le_of_lt_succ request.appId.fits) present rfl
        (guard.upkeep.forgotten (guard.upheld start) named)
      rw [removed, if_neg (by simp)]
      exact ⟨guard.safe forgot, forgetApp_keeps guard _ forgot⟩
    · rw [kept, if_pos failed]
      exact ⟨guard.safe start, failDelete_guarded guard _ _ _ _ _ _ start⟩

end Delete

/-- Every request keeps a guard, and is safe at every call, as long as a prepare
that gets to its download is free to write the file. -/
theorem handleAction_keeps {config : Config}
    {tables : Manager → ArtifactStore.Store → Prop} {joint : Memory → World → Prop}
    {safe : World → Prop} {free : Text → Memory → World → Prop}
  {request : Request}
    {memory : Memory} {world : World} (guard : Guard config tables joint safe free)
    (start : joint memory world)
    (frees : request.action = lit "prepare" → Downloads config request →
      (prepareBegin memory.updates request.appId.text).1 = 0 →
      free request.appId.text
        { memory with updates := (prepareBegin memory.updates request.appId.text).2 } world) :
    Keeps machine (fun _ => True) safe (fun _ after left => joint after left)
      (handleAction config request) memory world := by
  unfold handleAction
  split
  · next prepare => exact handleUpdatePrepare_keeps guard start (frees prepare)
  split
  · exact handleUpdateVerify_keeps guard start
  split
  · exact handleUpdateActivate_keeps guard start
  split
  · exact handleUpdateRollback_guarded guard _ _ start
  split
  · exact handleUpdateDelete_guarded guard _ _ start
  · exact answer_guarded guard _ _ _ start

end NeuroLink.UpdateGuard
