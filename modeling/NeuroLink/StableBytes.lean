import NeuroLink.ServiceCalls
import NeuroLink.UpdateReplies
import NeuroLink.UpdateRecovery

/-!
What a rollback restores. A stable reference is only a path, so it is worth what the
file at that path still holds. Every stage but one leaves that file alone: a prepare
downloads onto the path of the application, which is the one its stable reference
names.
-/

namespace NeuroLink.StableBytes

open CText EffectProgram MemoryProgram UpdateManager UpdateService UpdateTables UpdateWorld
  UpdateGuard UpdateRuns UpdateReplies ServiceCalls

/-- The file of every stable reference holds what the application was last
activated from. -/
def Pinned (config : Config) (updates : Manager) (world : World) : Prop :=
  ∀ appId entry, entryOf updates appId = some entry → entry.stableRef.text ≠ [] →
    entry.stableRef.text = appPath config appId ∧
      ∃ content, world.activated appId = some content ∧
        world.volume (appPath config appId) = some (.file content)

structure Joint (config : Config) (memory : Memory) (world : World) : Prop where
  initialized : memory.seedInitialized = true
  tidy : Tidy config memory.updates memory.artifacts
  pinned : Pinned config memory.updates world

def Unreferenced (appId : Text) (memory : Memory) (_ : World) : Prop :=
  appId.length ≤ 31 ∧
    ∀ entry, entryOf memory.updates appId = some entry → entry.stableRef.text = []

section Pinned

variable {config : Config} {before after manager : Manager} {world left : World} {appId : Text}

def OldRefs (before after : Manager) : Prop :=
  ∀ name entry, entryOf after name = some entry → entry.stableRef.text ≠ [] →
    ∃ earlier, entryOf before name = some earlier ∧ earlier.stableRef = entry.stableRef

theorem Pinned.mono (pinned : Pinned config before world) (old : OldRefs before after) :
    Pinned config after world := by
  intro name entry present located
  obtain ⟨earlier, was, same⟩ := old name entry present located
  rw [← same] at located ⊢
  exact pinned name earlier was located

theorem amend_oldRefs {missing : Int} {refuses : Entry → Option Int} {edit : Entry → Entry}
    (appId : Text) (unique : Unique manager) (missingError : missing ≠ 0)
    (refusalError : ∀ entry error, refuses entry = some error → error ≠ 0)
    (kept : ∀ entry, (edit entry).appId = entry.appId)
    (stable : ∀ entry, (edit entry).stableRef = entry.stableRef) :
    OldRefs manager (amend manager appId missing refuses edit).2 := by
  intro name entry present _
  rcases amend_effect unique missingError refusalError kept with
    ⟨_, same⟩ | ⟨earlier, _, was, _, _, rewrites⟩
  · rw [same] at present
    exact ⟨entry, present, rfl⟩
  · by_cases own : name = appId
    · rw [own, rewrites.own] at present
      cases present
      exact ⟨earlier, own ▸ was, (stable earlier).symm⟩
    · rw [rewrites.other own] at present
      exact ⟨entry, present, rfl⟩

theorem Pinned.elsewhere (apart : PathsApart config) (short : appId.length ≤ 31)
    (pinned : Pinned config before world)
    (unreferenced : ∀ entry, entryOf before appId = some entry → entry.stableRef.text = [])
    (activated : left.activated = world.activated)
    (volume : ∀ path, path ≠ appPath config appId → left.volume path = world.volume path) :
    Pinned config before left := by
  intro name entry present located
  obtain ⟨named, content, active, there⟩ := pinned name entry present located
  have elsewhere : appPath config name ≠ appPath config appId := by
    intro same
    have own := apart name appId (entryOf_short present) short same
    rw [own] at present
    exact located (unreferenced entry present)
  exact ⟨named, content, by rw [activated]; exact active, by rw [volume _ elsewhere]; exact there⟩

/-- Activating a file again gives its stable reference the content it has. -/
theorem Pinned.activate {content : List UInt8} (pinned : Pinned config before world)
    (there : world.volume (appPath config appId) = some (.file content)) :
    Pinned config before
      { world with activated := Function.update world.activated appId (some content) } := by
  intro name entry present located
  obtain ⟨named, earlier, active, held⟩ := pinned name entry present located
  by_cases own : name = appId
  · rw [own]
    exact ⟨own ▸ named, content, Function.update_self .., there⟩
  · exact ⟨named, earlier, (Function.update_of_ne own ..).trans active, held⟩

theorem Pinned.record {content : List UInt8} (pinned : Pinned config before world)
    (unique : Unique before) (active : world.activated appId = some content)
    (there : world.volume (appPath config appId) = some (.file content)) :
    Pinned config (recordStableRef before appId (appPath config appId)).2 world := by
  have located : appPath config appId ≠ [] := buildAppPath_nonempty config appId
  unfold recordStableRef
  rw [if_neg located]
  have effect := @amend_effect before appId (-Errno.eperm) (fun _ => none)
    (fun entry => { entry with stableRef := copyBounded (appPath config appId) }) unique
    (by decide) (by simp) fun _ => rfl
  rcases effect with ⟨_, same⟩ | ⟨earlier, _, _, _, _, rewrites⟩
  · rw [same]
    exact pinned
  · intro name entry present located
    by_cases own : name = appId
    · rw [own, rewrites.own] at present
      cases present
      rw [own]
      exact ⟨copyBounded_exact _ (appPath_short config appId), content, active, there⟩
    · rw [rewrites.other own] at present
      exact pinned name entry present located

/-- A deleted application has no stable reference, so its file may go with it. -/
theorem Pinned.forget (apart : PathsApart config) (pinned : Pinned config before world)
    (unique : Unique before) (named : appId ≠ []) (short : appId.length ≤ 31)
    (activated : left.activated = world.activated)
    (volume : ∀ path, path ≠ appPath config appId → left.volume path = world.volume path) :
    Pinned config (remove before appId).2 left := by
  have rewrites := @remove_effect before appId unique named
  refine .elsewhere apart short (pinned.mono ?_) ?_ activated volume
  · intro name entry present _
    rw [rewrites.view] at present
    split at present
    · cases present
    · exact ⟨entry, present, rfl⟩
  · intro entry present
    rw [rewrites.own] at present
    cases present

end Pinned

section Runs

variable {config : Config}

/-- Only a download for an application with a stable reference could break it. -/
theorem stable_guard (apart : PathsApart config) :
    Guard config (Tidy config) (Joint config) (fun _ => True) Unreferenced where
  safe _ := trivial
  runtime _ start := ⟨start.initialized, start.tidy, start.pinned⟩
  initialized start := start.initialized
  upkeep := tidy_upkeep config
  upheld start := start.tidy
  replies _ start := ⟨start.initialized, start.tidy, start.pinned⟩
  saved start _ := ⟨start.initialized, start.tidy, start.pinned⟩
  calm start calm tidy := ⟨start.initialized, tidy, start.pinned.mono calm.stable⟩
  stored start tidy := ⟨start.initialized, tidy, start.pinned⟩
  freeRuntime _ unreferenced := unreferenced
  writes start unreferenced same := by
    refine ⟨⟨start.initialized, start.tidy, ?_⟩, unreferenced⟩
    exact start.pinned.elsewhere apart unreferenced.1 unreferenced.2 rfl
      fun path elsewhere => (same path elsewhere).1
  checks start _ := ⟨start.initialized, start.tidy, start.pinned⟩
  verifies start _ _ tidy := by
    refine ⟨start.initialized, tidy, start.pinned.mono ?_⟩
    exact amend_oldRefs _ start.tidy.unique (by decide) (onlyFrom_error _) (fun _ => rfl)
      fun _ => rfl
  activates start there := ⟨start.initialized, start.tidy, start.pinned.activate there⟩
  records start active there tidy :=
    ⟨start.initialized, tidy, start.pinned.record start.tidy.unique active there⟩
  forgets start named short present path tidy := by
    rw [← path, deletePath_located start.tidy.located present]
    refine ⟨start.initialized, tidy, ?_⟩
    exact start.pinned.forget apart start.tidy.unique named short rfl
      fun path elsewhere => Function.update_of_ne elsewhere ..

/-- No seed has been saved yet, so the gate finds none. -/
theorem stable_boots : Boots (Joint config) (fun _ => True) fun world => world.seed = none where
  safe _ := trivial
  runtime _ idle := idle
  opens _ _ := by
    refine ⟨rfl, UpdateRecovery.init_tidy, fun appId entry present => ?_⟩
    simp [opened, booted, UpdateManager.init] at present
  applies _ idle saved := by
    rw [idle] at saved
    cases saved

/-- The power stays on. -/
def Powered : Turn → Prop
  | .powerLoss .. => False
  | _ => True

/-- A prepare that gets to its download is for an application without a stable
reference. -/
def Spares (config : Config) (device : Device) (turn : Turn) : Prop :=
  ∀ request, served turn = some request → request.action = lit "prepare" →
    Downloads config request →
    (prepareBegin device.memory.updates request.appId.text).1 = 0 →
    stableRefFor device.memory.updates request.appId.text = []

instance (turn : Turn) : Decidable (Powered turn) := by
  cases turn <;> unfold Powered <;> infer_instance

instance (config : Config) (device : Device) (turn : Turn) :
    Decidable (Spares config device turn) :=
  match asked : served turn with
  | none => isTrue fun request same => nomatch asked.symm.trans same
  | some request =>
      decidable_of_iff (request.action = lit "prepare" → Downloads config request →
          (prepareBegin device.memory.updates request.appId.text).1 = 0 →
          stableRefFor device.memory.updates request.appId.text = [])
        (by simp [Spares, asked])

theorem prepareBegin_unreferenced {manager : Manager} {appId : Text} (unique : Unique manager)
    (short : appId.length ≤ 31) (admitted : (prepareBegin manager appId).1 = 0)
    (absent : stableRefFor manager appId = []) (entry : Entry)
    (present : entryOf (prepareBegin manager appId).2 appId = some entry) :
    entry.stableRef.text = [] := by
  rcases prepareBegin_effect unique short with
    ⟨failed, _⟩ | ⟨next, named, _, stable, _, rewrites⟩
  · exact absurd admitted failed
  · rw [rewrites.own] at present
    cases present
    rcases stable with empty | ⟨earlier, was, same⟩
    · exact empty
    · rw [stableRefFor, entryFor_entryOf named, was] at absent
      rw [same]
      exact absent

def Stable (config : Config) (device : Device) : Prop :=
  Between (Joint config) (fun world => world.seed = none) device.memory device.world

theorem take_stable (apart : PathsApart config) {device : Device} {turn : Turn}
    (stable : Stable config device) (powered : Powered turn) (spares : Spares config device turn) :
    Stable config (turn.take config device) := by
  refine take_between (stable_guard apart) stable_boots stable ?_ ?_
  · intro request asked prepare downloads admitted
    have absent := spares request asked prepare downloads admitted
    refine ⟨short_id request, prepareBegin_unreferenced ?_ (short_id request) admitted absent⟩
    cases opened : device.memory.seedInitialized with
    | true => exact (stable.ready opened).tidy.unique
    | false =>
        rw [(stable.idle opened).2]
        exact (@UpdateRecovery.init_tidy config).unique
  · intro request outcomes calls runtime cut
    rw [cut] at powered
    exact powered.elim

end Runs

/-! What a rollback loads. -/

section Rollback

variable {config : Config} {request : Request} {before memory : Memory} {world : World}
  {appId : Text} {content : List UInt8}

structure Awaiting (before : Memory) (appId : Text) (content : List UInt8) (memory : Memory)
    (world : World) : Prop where
  initialized : memory.seedInitialized = true
  unique : Unique memory.updates
  stable : stableRefFor memory.updates appId = stableRefFor before.updates appId
  held : world.volume (stableRefFor before.updates appId) = some (.file content)
  replies : memory.replies = before.replies

def Restored (before : Memory) (appId : Text) (content : List UInt8) (after : Memory)
    (left : World) : Prop :=
  ∀ action reply, after.replies = before.replies ++ [.accepted action reply] →
    AppRuntime.imageOf left.runtime appId = some content

def Refuses (before : Memory) (service : ServiceM Unit) (memory : Memory) : Prop :=
  Ensures (fun _ after => ∃ message statusCode,
    after.replies = before.replies ++ [.error message statusCode]) service memory

theorem Refuses.restored {service : ServiceM Unit} (refuses : Refuses before service memory) :
    Keeps machine (fun _ => True) (fun _ => True)
      (fun _ after left => Restored before appId content after left) service memory world := by
  refine (Ensures.keeps refuses machine (fun _ => True) world).weaken (fun _ => id) ?_
  rintro _ after left _ ⟨message, statusCode, refused⟩ action reply accepted
  rw [refused, List.append_cancel_left_eq] at accepted
  cases accepted

theorem replyError_refuses (replies : memory.replies = before.replies) (message : String)
    (statusCode : Nat) : Refuses before (replyError message statusCode) memory :=
  .edit ⟨lit message, statusCode, by rw [replies]⟩

theorem failRollback_refuses (initialized : memory.seedInitialized = true)
    (replies : memory.replies = before.replies) (reason detail message : String) :
    Refuses before (failRollback appId reason detail message) memory := by
  have moved : Ensures (fun _ after => after.seedInitialized = true ∧
      after.replies = before.replies)
      (updates fun manager => rollbackFail manager appId (lit reason)) memory :=
    .edit ⟨initialized, replies⟩
  refine moved.seq fun _ after moved => (persist_keeps moved.1).seq fun _ saved same => ?_
  rw [same]
  exact perform_then (.publishUpdateEvent ..) fun _ => .edit ⟨_, _, by rw [moved.2]⟩

theorem Awaiting.amended {missing : Int} {refuses : Entry → Option Int} {edit : Entry → Entry}
    (awaiting : Awaiting before appId content memory world) (missingError : missing ≠ 0)
    (refusalError : ∀ entry error, refuses entry = some error → error ≠ 0)
    (kept : ∀ entry, (edit entry).appId = entry.appId)
    (stable : ∀ entry, (edit entry).stableRef = entry.stableRef) :
    Awaiting before appId content
      { memory with updates := (amend memory.updates appId missing refuses edit).2 } world := by
  rcases amend_effect awaiting.unique missingError refusalError kept with
    ⟨_, same⟩ | ⟨entry, named, present, _, _, rewrites⟩
  · rw [same]
    exact awaiting
  · refine ⟨awaiting.initialized, rewrites.unique, ?_, awaiting.held, awaiting.replies⟩
    rw [← awaiting.stable, stableRefFor, stableRefFor, entryFor_entryOf named,
      entryFor_entryOf named, rewrites.own, present]
    exact congrArg Buffer.text (stable entry)

theorem housekeeping_still (effect : Effect) (housekeeping : Housekeeping effect)
    (outcome : Outcome) (world : World) :
    (step outcome effect world).2.volume = world.volume ∧
      (step outcome effect world).2.runtime = world.runtime := by
  cases effect with
  | file op =>
      cases op with
      | stat path =>
          refine ⟨?_, rfl⟩
          rcases FileSystem.step_stat_cases outcome.file world.volume path with
            ⟨_, _, result⟩ | ⟨_, result⟩ | ⟨_, _, _, result⟩ <;> simp [step, result]
      | _ => exact housekeeping.elim
  | saveSeed snapshot =>
      dsimp only [step]
      split <;> exact ⟨rfl, rfl⟩
  | loadSeed =>
      dsimp only [step]
      split
      · exact ⟨rfl, rfl⟩
      · split <;> exact ⟨rfl, rfl⟩
  | storageMount | publishUpdateEvent | publishStateEvent | runtimeStatus | lastException =>
      exact ⟨rfl, rfl⟩
  | _ => exact housekeeping.elim

theorem housekeeping_keeps {Result : Type} {service : ServiceM Result}
    (calls : CallsOnly Housekeeping service) (memory : Memory) (world : World) :
    Keeps machine (fun _ => True)
      (fun left => left.volume = world.volume ∧ left.runtime = world.runtime)
      (fun _ _ _ => True) service memory world := by
  refine calls.keeps (fun effect housekeeping outcome left same => ?_) memory ⟨rfl, rfl⟩
  have still := housekeeping_still effect housekeeping outcome left
  exact ⟨still.1.trans same.1, still.2.trans same.2⟩

theorem persist_awaiting (awaiting : Awaiting before appId content memory world) :
    Keeps machine (fun _ => True) (fun _ => True)
      (fun _ after left => Awaiting before appId content after left)
      persistRecoverySeedSnapshot memory world := by
  have same := (persist_keeps awaiting.initialized).keeps machine (fun _ => True) world
  refine (Holds.and same (housekeeping_keeps persist_calls memory world)).weaken
    (fun _ _ => trivial) ?_
  rintro outcome left ⟨_, volume, _⟩ ⟨unchanged, _⟩
  rw [unchanged]
  exact ⟨awaiting.initialized, awaiting.unique, awaiting.stable,
    volume ▸ awaiting.held, awaiting.replies⟩

/-- From the restored application on, nothing changes what it runs. -/
theorem completeRollback_restored (detail : String)
    (runs : AppRuntime.imageOf world.runtime appId = some content) :
    Keeps machine (fun _ => True) (fun _ => True)
      (fun _ after left => Restored before appId content after left)
      (completeRollback config request detail) memory world := by
  have calls : CallsOnly Housekeeping (completeRollback config request detail) := by
    refine .bind (.edit _) fun ret => ?_
    split
    · exact answer_calls _
    · exact .bind persist_calls fun _ => .bind (publish_calls _ _ _ _) fun _ =>
        .bind (.perform trivial) fun _ => answer_calls _
  refine (housekeeping_keeps calls memory world).weaken (fun _ _ => trivial) ?_
  rintro _ after left ⟨_, runtime⟩ _ action reply _
  rw [runtime]
  exact runs

/-- Restoring loads the file of the stable reference. -/
theorem restoreStable_loads {path : Text} (held : world.volume path = some (.file content)) :
    Keeps machine (fun _ => True) (fun _ => True)
      (fun ret after left => after = memory ∧
        (ret = 0 → AppRuntime.imageOf left.runtime appId = some content))
      (restoreStable appId path) memory world := by
  refine perform_keeps (.runtimeLoad appId path) trivial fun outcome _ => ⟨trivial, ?_⟩
  split
  · next loaded =>
    obtain ⟨image, there, runs⟩ := AppRuntime.load_image loaded
    rw [held] at there
    cases there
    refine call_keeps (.runtimeStart appId []) trivial fun _ _ => ⟨trivial, rfl, fun _ => ?_⟩
    exact (AppRuntime.imageOf_images (AppRuntime.start_images []) appId).trans runs
  · next failed => exact .pure trivial ⟨rfl, fun worked => absurd worked failed⟩

theorem rollBack_restored (referenced : stableRefFor before.updates request.appId.text ≠ [])
    (awaiting : Awaiting before request.appId.text content memory world) :
    Keeps machine (fun _ => True) (fun _ => True)
      (fun _ after left => Restored before request.appId.text content after left)
      (rollBack config request) memory world := by
  unfold rollBack
  refine perform_keeps (.runtimeStop _) trivial fun _ _ => ⟨trivial, ?_⟩
  refine perform_keeps (.runtimeUnload _) trivial fun _ _ => ⟨trivial, ?_⟩
  split
  · exact (failRollback_refuses awaiting.initialized awaiting.replies _ _ _).restored
  refine perform_keeps (.removeAppCommands _) trivial fun _ _ => ⟨trivial, inspect_keeps ?_⟩
  dsimp only
  rw [if_pos (by rw [awaiting.stable]; exact referenced), awaiting.stable]
  refine Keeps.seq (restoreStable_loads awaiting.held) fun ret after left _ restored => ?_
  rw [restored.1]
  split
  · exact (failRollback_refuses awaiting.initialized awaiting.replies _ _ _).restored
  · next worked =>
    refine perform_keeps (.registerAppCallbackCommand _) trivial fun _ _ => ⟨trivial, ?_⟩
    exact artifacts_keeps (completeRollback_restored _ (restored.2 (not_not.mp worked)))

theorem lease_keeps (before : Memory) (world : World) (resource : Text)
    (metadata : RequestMetadata) :
    Keeps machine (fun _ => True) (fun _ => True)
      (fun held after left => left = world ∧ (held = true → after = before) ∧
        (held = false → ∃ message statusCode,
          after.replies = before.replies ++ [.error message statusCode]))
      (requireResourceLeaseOrReply resource metadata) before world := by
  refine perform_keeps (.requireResource ..) trivial fun outcome _ => ⟨trivial, ?_⟩
  have denies : ∀ message statusCode, Keeps machine (fun _ => True) (fun _ => True)
      (fun held after left => left = world ∧ (held = true → after = before) ∧
        (held = false → ∃ message statusCode,
          after.replies = before.replies ++ [.error message statusCode]))
      (do replyError message statusCode; return false : ServiceM Bool) before world :=
    fun message statusCode => .bind (.edit trivial (.pure trivial
      ⟨rfl, (nomatch ·), fun _ => ⟨_, _, rfl⟩⟩))
  split
  · exact denies _ _
  split
  · exact denies _ _
  split
  · exact denies _ _
  · exact .pure trivial ⟨rfl, fun _ => rfl, (nomatch ·)⟩

theorem handleUpdateRollback_restored
    (referenced : stableRefFor before.updates request.appId.text ≠ [])
    (awaiting : Awaiting before request.appId.text content before world) :
    Keeps machine (fun _ => True) (fun _ => True)
      (fun _ after left => Restored before request.appId.text content after left)
      (handleUpdateRollback config request) before world := by
  unfold handleUpdateRollback
  refine (lease_keeps before world _ _).seq fun held after left _ asked => ?_
  obtain ⟨rfl, granted, denied⟩ := asked
  cases held with
  | false =>
      rw [if_pos (by simp)]
      refine .pure trivial fun action reply accepted => ?_
      obtain ⟨message, statusCode, refused⟩ := denied rfl
      rw [refused, List.append_cancel_left_eq] at accepted
      cases accepted
  | true =>
      rw [granted rfl, if_neg (by simp)]
      refine updates_keeps ?_
      split
      · exact (replyError_refuses awaiting.replies _ _).restored
      -- the reference and the file stay as they were through both steps of the update manager
      have begun : Awaiting before request.appId.text content
          { before with
            updates :=
              (rollbackBegin before.updates request.appId.text (requestReason request).text).2 }
          left :=
        awaiting.amended (by decide) rollbackRefuses_error (fun _ => rfl) fun _ => rfl
      refine (persist_awaiting begun).seq fun saved after left _ begun => ?_
      have fails : Refuses before (do
          let _ ← updates fun manager =>
            rollbackFail manager request.appId.text (lit "rollback checkpoint save failed")
          publishUpdateEvent request.appId.text "rollback" "error" (lit "checkpoint save failed")
          replyError "rollback checkpoint save failed" 500) after :=
        .bind (.edit (perform_then (.publishUpdateEvent ..) fun _ =>
          replyError_refuses begun.replies _ _))
      split
      · exact fails.restored
      refine updates_keeps ?_
      have marked : Awaiting before request.appId.text content
          { after with
            updates := (rollbackMarkInProgress after.updates request.appId.text).2 } left :=
        begun.amended (by decide) (onlyFrom_error _) (fun _ => rfl) fun _ => rfl
      split
      · have stops : ∀ memory, memory.replies = before.replies → Refuses before (do
            let _ ← updates fun manager =>
              rollbackFail manager request.appId.text (lit "rollback state transition failed")
            replyError "rollback state transition failed" 500) memory := fun _ replies =>
          .bind (.edit (replyError_refuses replies _ _))
        exact (stops _ marked.replies).restored
      · exact rollBack_restored referenced marked

end Rollback

/-- The file every stable reference names has the bytes of the activate that recorded it. -/
def ReferencesHold (device : Device) : Prop :=
  ∀ appId, stableRefFor device.memory.updates appId ≠ [] →
    ∃ content, device.world.activated appId = some content ∧
      device.world.volume (stableRefFor device.memory.updates appId) = some (.file content)

/-- A rollback with a stable reference that replies ok has loaded the bytes of the last
successful activate. -/
def RollbacksRestore (config : Config) (device : Device) : Prop :=
  ∀ request outcomes action reply,
    request.action = lit "rollback" ∨ request.action = lit "recover" →
    stableRefFor device.memory.updates request.appId.text ≠ [] →
    (Turn.take config device (.serve (some request) outcomes)).memory.replies =
      device.memory.replies ++ [.accepted action reply] →
    ∃ content, device.world.activated request.appId.text = some content ∧
      AppRuntime.imageOf (Turn.take config device (.serve (some request) outcomes)).world.runtime
        request.appId.text = some content

section Claims

variable {config : Config} {device : Device}

theorem referenced_entry {manager : Manager} {appId : Text}
    (referenced : stableRefFor manager appId ≠ []) :
    ∃ entry, entryOf manager appId = some entry ∧
      entry.stableRef.text = stableRefFor manager appId := by
  by_cases named : appId = []
  · rw [stableRefFor, entryFor, if_pos named] at referenced
    exact absurd rfl referenced
  · rw [stableRefFor, entryFor_entryOf named] at referenced ⊢
    cases present : entryOf manager appId with
    | none =>
        rw [present] at referenced
        exact absurd rfl referenced
    | some entry => exact ⟨entry, rfl, rfl⟩

theorem Stable.opened (stable : Stable config device) {appId : Text}
    (referenced : stableRefFor device.memory.updates appId ≠ []) :
    Joint config device.memory device.world := by
  cases opened : device.memory.seedInitialized with
  | true => exact stable.ready opened
  | false =>
      obtain ⟨entry, present, _⟩ := referenced_entry referenced
      rw [(stable.idle opened).2] at present
      simp [booted, UpdateManager.init] at present

theorem Stable.pinned (stable : Stable config device) {appId : Text}
    (referenced : stableRefFor device.memory.updates appId ≠ []) :
    ∃ content, device.world.activated appId = some content ∧
      device.world.volume (stableRefFor device.memory.updates appId) = some (.file content) := by
  obtain ⟨entry, present, same⟩ := referenced_entry referenced
  have located : entry.stableRef.text ≠ [] := by
    rw [same]
    exact referenced
  obtain ⟨named, content, active, there⟩ :=
    (stable.opened referenced).pinned appId entry present located
  exact ⟨content, active, by rw [← same, named]; exact there⟩

theorem Stable.restores (stable : Stable config device) : RollbacksRestore config device := by
  intro request outcomes action reply rolls referenced accepted
  have joint := stable.opened referenced
  obtain ⟨content, active, there⟩ := stable.pinned referenced
  have awaiting : Awaiting device.memory request.appId.text content device.memory device.world :=
    ⟨joint.initialized, joint.tidy.unique, rfl, there, rfl⟩
  have keeps : Keeps machine (fun _ => True) (fun _ => True)
      (fun _ after left => Restored device.memory request.appId.text content after left)
      (UpdateWorld.serve config (some request)) device.memory device.world := by
    refine inspect_keeps ?_
    rw [if_pos joint.initialized]
    have handles : handleAction config request = handleUpdateRollback config request := by
      rcases rolls with rollback | recover
      · simp [handleAction, rollback, lit]
      · simp [handleAction, recover, lit]
    rw [handles]
    exact handleUpdateRollback_restored referenced awaiting
  exact ⟨content, active, keeps.run outcomes (fun _ _ => trivial) action reply accepted⟩

/-- In every run in which no application with a stable reference is downloaded again,
each stable reference keeps its bytes, and each rollback restores them. -/
theorem stable_bytes_kept (apart : PathsApart config) (volume : FileSystem.Volume)
    (runtime : AppRuntime.Runtime) (turns : List Turn) (powered : ∀ turn ∈ turns, Powered turn)
    (spares : Obeys config (Spares config) (fresh volume runtime) turns) :
    ReferencesHold (after config (fresh volume runtime) turns) ∧
      RollbacksRestore config (after config (fresh volume runtime) turns) := by
  have stable : Stable config (after config (fresh volume runtime) turns) := by
    refine after_induction (fun device turn stable both => ?_) turns ?_ (spares.and powered)
    · exact take_stable apart stable both.1 both.2
    · exact ⟨(nomatch ·), fun _ => ⟨rfl, rfl⟩⟩
  exact ⟨fun appId => stable.pinned, stable.restores⟩

end Claims

def firstVersion : List Turn := .serve none [] :: installTurns [1, 1]

/-- After its activate the first version can be rolled back to. -/
theorem firstVersion_kept :
    let device := after demoConfig demoDevice firstVersion
    stableRefFor device.memory.updates (lit "pump") = lit "/apps/pump.llext" ∧
      ∃ content, device.world.activated (lit "pump") = some content ∧
        device.world.volume (lit "/apps/pump.llext") = some (.file content) := by
  intro device
  have named : stableRefFor device.memory.updates (lit "pump") = lit "/apps/pump.llext" := by
    decide +kernel
  have fit : PathsFit demoConfig := by decide
  have kept := stable_bytes_kept fit.apart (fun _ => none) demoRuntime firstVersion
    (by decide +kernel) (by decide +kernel)
  refine ⟨named, ?_⟩
  have holds := kept.1 (lit "pump") (by decide +kernel)
  rw [← named]
  exact holds

/-- A second version is prepared, and a third prepare, without an artifact key, fails. -/
def secondVersion : List Turn :=
  firstVersion ++ (installTurns [1, 2]).take 1 ++ [.serve (some (demoRequest "prepare" "")) []]

/-- The stable reference then names the second version, and a rollback loads it. -/
theorem secondVersion_restored :
    (¬ ∀ (config : Config) (volume : FileSystem.Volume) (runtime : AppRuntime.Runtime)
      (turns : List Turn), PathsApart config → (∀ turn ∈ turns, Powered turn) →
        ReferencesHold (after config (fresh volume runtime) turns)) ∧
    ¬ ∀ (config : Config) (volume : FileSystem.Volume) (runtime : AppRuntime.Runtime)
      (turns : List Turn), PathsApart config → (∀ turn ∈ turns, Powered turn) →
        RollbacksRestore config (after config (fresh volume runtime) turns) := by
  have active : (after demoConfig demoDevice secondVersion).world.activated (lit "pump") =
      some [1, 1] := by decide +kernel
  constructor
  · intro claimed
    obtain ⟨content, was, there⟩ := claimed demoConfig (fun _ => none) demoRuntime secondVersion
      (PathsFit.apart (by decide)) (by decide +kernel) (lit "pump") (by decide +kernel)
    cases active.symm.trans was
    revert there
    decide +kernel
  · intro claimed
    obtain ⟨content, was, runs⟩ := claimed demoConfig (fun _ => none) demoRuntime secondVersion
      (PathsFit.apart (by decide)) (by decide +kernel) (demoRequest "rollback" "") []
      (lit "rollback")
      { okReply demoConfig (demoRequest "rollback" "") with reason := lit "rollback requested" }
      (.inl rfl) (by decide +kernel) (by decide +kernel)
    cases active.symm.trans was
    revert runs
    decide +kernel

end NeuroLink.StableBytes
