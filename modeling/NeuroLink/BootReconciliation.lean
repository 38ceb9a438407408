import NeuroLink.UpdateRecovery
import NeuroLink.UpdateReplies

/-!
What a unit makes of its seed after a boot. Each entry is reconciled once, from what
the runtime reports of the application and from whether the file of its artifact is
there, and the entries that come out of it are ones that reconciling leaves alone.
-/

namespace NeuroLink.BootReconciliation

open CText EffectProgram MemoryProgram UpdateManager UpdateService UpdateTables UpdateWorld
  UpdateGuard UpdateRuns UpdateRecovery
open UpdateReplies (Transient)

def reportsRunning (runtime : AppRuntime.Runtime) (appId : Text) : Bool :=
  appId ≠ [] ∧ ((AppRuntime.status runtime).find? fun app => app.1 = appId).any fun app =>
    app.2 = .running

def fileThere (volume : FileSystem.Volume) (artifact : Option ArtifactStore.Meta) : Bool :=
  match artifact with
  | none => false
  | some artifact =>
      artifact.path.text ≠ [] ∧ (fileContent volume artifact.path.text).any fun content =>
        content ≠ []

/-- A boot that mounts the storage and reads the seed. -/
def readsSeed (event : Event Effect EffectReply World) : Bool :=
  match event with
  | ⟨.storageMount, _, reply, _⟩ => decide (reply = (0 : Int))
  | ⟨.loadSeed, _, reply, _⟩ => Except.isOk reply
  | _ => true

/-- The file system answers a `stat` with what is there. -/
def AnswersWell (event : Event Effect EffectReply World) : Prop :=
  match event with
  | ⟨.file (.stat path), before, reply, _⟩ =>
      reply = (FileSystem.step .works (.stat path) before.volume).1
  | _ => True

structure Reconciled (snapshot : RecoverySeed.Snapshot) (memory : Memory) (world : World) :
    Prop where
  quiet : ∀ appId entry, entryFor memory.updates appId = some entry → ¬ Transient entry.state
  available : ∀ appId entry, entryFor memory.updates appId = some entry →
    entry.state = .prepared ∨ entry.state = .verified →
    fileThere world.volume (ArtifactStore.get memory.artifacts appId) = true
  running : ∀ appId entry, entryFor memory.updates appId = some entry → entry.state = .active →
    reportsRunning world.runtime appId = true
  references : ∀ appId,
    (entryFor memory.updates appId).map (fun entry => (entry.stableRef, entry.rollbackReason)) =
      (SeedSnapshot.seedFor snapshot.entries appId).map fun entry =>
        (entry.stableRef, entry.rollbackReason)
  again : ∀ outcomes,
    Meets machine AnswersWell outcomes (reconcileRecoverySeedAfterBoot memory) world →
    let done := run machine outcomes (reconcileRecoverySeedAfterBoot memory) world
    done.1.2 = memory ∧ done.2.volume = world.volume ∧ done.2.runtime = world.runtime

section Entries

theorem reconciled_rests (runtimeActive available : Bool) (entry : Entry) :
    ¬ Transient (reconciled runtimeActive available entry).state ∧
      ((reconciled runtimeActive available entry).state = .prepared ∨
        (reconciled runtimeActive available entry).state = .verified → available = true) ∧
      ((reconciled runtimeActive available entry).state = .active → runtimeActive = true) := by
  unfold reconciled
  cases state : entry.state with
  | prepared | verified =>
      cases available
      · simp [Entry.fail, Transient]
      · simp [state, Transient]
  | active =>
      cases runtimeActive
      · simp [Entry.fail, Transient]
      · simp [state, Transient]
  | none | rolledBack | failed | unknown => simp [state, Transient]
  | _ => simp [Entry.fail, Transient]

theorem reconciled_references (runtimeActive available : Bool) (entry : Entry) :
    (reconciled runtimeActive available entry).stableRef = entry.stableRef ∧
      (reconciled runtimeActive available entry).rollbackReason = entry.rollbackReason := by
  rcases reconciled_cases runtimeActive available entry with same | ⟨reason, failed⟩
  · rw [same]
    exact ⟨rfl, rfl⟩
  · rw [failed]
    exact ⟨rfl, rfl⟩

theorem reconciled_again (runtimeActive : Bool) {available later : Bool}
    (still : available = true → later = true) (entry : Entry) :
    reconciled runtimeActive later (reconciled runtimeActive available entry) =
      reconciled runtimeActive available entry := by
  cases state : entry.state with
  | prepared | verified =>
      cases available
      · simp only [reconciled, state, Entry.fail, Bool.false_eq_true, if_false]
      · simp only [reconciled, state, still rfl, if_true]
  | active =>
      cases runtimeActive
      · simp only [reconciled, state, Entry.fail, Bool.false_eq_true, if_false]
      · simp only [reconciled, state, if_true]
  | none | rolledBack | failed | unknown => simp only [reconciled, state]
  | _ => simp only [reconciled, state, Entry.fail]

end Entries

section Manager

variable {manager : Manager} {appId : Text}

theorem reconcileAfterBoot_view (unique : Unique manager) (named : appId ≠ [])
    (runtimeActive available : Bool) :
    Unique (reconcileAfterBoot manager appId runtimeActive available).2 ∧
      ∀ other, entryOf (reconcileAfterBoot manager appId runtimeActive available).2 other =
        if other = appId then (entryOf manager appId).map (reconciled runtimeActive available)
        else entryOf manager other := by
  have kept : ∀ entry, (reconciled runtimeActive available entry).appId = entry.appId := by
    intro entry
    rcases reconciled_cases runtimeActive available entry with same | ⟨reason, failed⟩
    · rw [same]
    · rw [failed, Entry.fail]
  cases present : entryOf manager appId with
  | some entry =>
      have accepted := @amend_accepts manager appId entry (-Errno.enoent) (fun _ => none)
        (reconciled runtimeActive available) unique named present rfl (kept entry)
      exact ⟨accepted.2.unique, accepted.2.view⟩
  | none =>
      have missing : findEntry manager appId = none := SlotTable.lookup_none.mp present
      have same : (reconcileAfterBoot manager appId runtimeActive available).2 = manager := by
        rw [reconcileAfterBoot, amend, if_neg named, missing]
      rw [same]
      refine ⟨unique, fun other => ?_⟩
      by_cases own : other = appId
      · rw [if_pos own, own, present, Option.map_none]
      · rw [if_neg own]

theorem reconcileAfterBoot_fixed {runtimeActive available : Bool}
    (fixed : ∀ entry, entryOf manager appId = some entry →
      reconciled runtimeActive available entry = entry) :
    (reconcileAfterBoot manager appId runtimeActive available).2 = manager := by
  unfold reconcileAfterBoot amend
  split
  · rfl
  cases found : findEntry manager appId with
  | none => rfl
  | some pair =>
      have present : entryOf manager appId = some pair.2 := SlotTable.lookup_found found
      have stored : manager[pair.1] = some pair.2 := SlotTable.find_content found
      dsimp only
      rw [fixed pair.2 present, ← stored]
      exact Vector.set_getElem_self pair.1.isLt

end Manager

section Pass

variable {allowed : Event Effect EffectReply World → Prop} {memory : Memory} {world : World}

/-- A `stat` finds a file only where one is, and where it answers well wherever one is. -/
theorem artifactAvailable_tells (found : Option ArtifactStore.Meta) :
    Keeps machine allowed (fun _ => True)
      (fun available after left => after = memory ∧ left = world ∧
        (available = true → fileThere world.volume found = true) ∧
        ((∀ event, allowed event → AnswersWell event) →
          available = fileThere world.volume found))
      (artifactAvailable found) memory world := by
  cases found with
  | none => exact .pure trivial ⟨rfl, rfl, nofun, fun _ => rfl⟩
  | some artifact =>
      unfold artifactAvailable artifactPathAvailable
      dsimp only
      by_cases located : artifact.path.text = []
      · rw [if_pos located]
        have nowhere : fileThere world.volume (some artifact) = false := by
          simp [fileThere, located]
        exact .pure trivial ⟨rfl, rfl, nofun, fun _ => nowhere.symm⟩
      rw [if_neg located]
      have asks : Keeps machine allowed (fun _ => True)
          (fun found after left => after = memory ∧ left = world ∧
            ((∃ node, world.volume artifact.path.text = some node ∧ found = .ok node.dirent) ∨
              (∃ error, found = .error error) ∧
                ((∀ event, allowed event → AnswersWell event) →
                  world.volume artifact.path.text = none)))
          (artifactStat artifact.path.text) memory world := by
        refine call_keeps (.file (.stat artifact.path.text)) trivial fun outcome valid => ?_
        have answered : (∀ event, allowed event → AnswersWell event) →
            (FileSystem.step outcome.file (.stat artifact.path.text) world.volume).1 =
              (FileSystem.step .works (.stat artifact.path.text) world.volume).1 :=
          fun careful => careful _ valid
        -- a `stat` may also fail on a file that is there; the careful environment excludes that
        rcases FileSystem.step_stat_cases outcome.file world.volume artifact.path.text with
          ⟨node, there, result⟩ | ⟨missing, result⟩ | ⟨error, _, other, result⟩
        · simp only [step, result, forget]
          exact ⟨trivial, trivial, trivial, .inl ⟨node, there, rfl⟩⟩
        · simp only [step, result, forget]
          exact ⟨trivial, trivial, trivial, .inr ⟨⟨_, rfl⟩, fun _ => missing⟩⟩
        · rw [result] at answered
          simp only [step, result, forget]
          refine ⟨trivial, trivial, trivial, .inr ⟨⟨_, rfl⟩, fun careful => ?_⟩⟩
          cases there : world.volume artifact.path.text with
          | none => rfl
          | some node => exact absurd (answered careful) (by simp [FileSystem.step,
              FileSystem.perform, there])
      refine asks.seq fun reply after left _ done => ?_
      obtain ⟨rfl, rfl, told⟩ := done
      rcases told with ⟨node, there, rfl⟩ | ⟨⟨error, rfl⟩, missing⟩
      · have same : fileThere left.volume (some artifact) =
            ((node.dirent.kind = .file ∧ node.dirent.size > 0 : Prop) : Bool) := by
          cases node with
          | dir => simp [fileThere, fileContent, there, FileSystem.Node.dirent]
          | file content =>
              simp [fileThere, fileContent, there, located, FileSystem.Node.dirent,
                List.length_pos_iff]
        exact .pure trivial ⟨rfl, rfl, fun told => same.trans told, fun _ => same.symm⟩
      · refine .pure trivial ⟨rfl, rfl, nofun, fun careful => ?_⟩
        simp [fileThere, fileContent, missing careful]

/-- One round: the entry is reconciled from the report of the runtime and from what the
file system tells of its artifact. -/
theorem reconcileEntry_keeps (entry : Entry) :
    Keeps machine allowed (fun _ => True)
      (fun _ after left => left = world ∧ ∃ available,
        (available = true →
          fileThere world.volume (ArtifactStore.get memory.artifacts entry.id) = true) ∧
        ((∀ event, allowed event → AnswersWell event) →
          available = fileThere world.volume (ArtifactStore.get memory.artifacts entry.id)) ∧
        after = { memory with updates := (reconcileAfterBoot memory.updates entry.id
          (reportsRunning world.runtime entry.id) available).2 })
      (reconcileEntry entry) memory world := by
  unfold reconcileEntry
  have active : Keeps machine allowed (fun _ => True)
      (fun active after left => active = reportsRunning world.runtime entry.id ∧
        after = memory ∧ left = world)
      (runtimeAppIsActive entry.id) memory world :=
    .bind (call_keeps .runtimeStatus trivial fun _ _ =>
      ⟨trivial, .pure trivial ⟨rfl, rfl, rfl⟩⟩)
  refine inspect_keeps (active.seq fun active after left _ done => ?_)
  obtain ⟨rfl, rfl, rfl⟩ := done
  refine (artifactAvailable_tells _).seq fun available after left _ done => ?_
  obtain ⟨rfl, rfl, told, exact⟩ := done
  refine updates_keeps (inspect_keeps ?_)
  have publishes : ∀ detail memory world, Keeps machine allowed (fun _ => True)
      (fun _ after left => after = memory ∧ left = world)
      (publishUpdateEvent entry.id "recovery" "error" detail) memory world :=
    fun detail _ _ => call_keeps (.publishUpdateEvent _ _ _ detail) trivial fun _ _ =>
      ⟨trivial, rfl, rfl⟩
  split
  · refine (publishes _ _ _).weaken (fun _ => id) fun _ after left _ done => ?_
    exact ⟨done.2, available, told, exact, done.1⟩
  · exact .pure trivial ⟨rfl, available, told, exact, rfl⟩

theorem reconcileEntries_fixed (careful : ∀ event, allowed event → AnswersWell event)
    (fixed : ∀ appId entry, entryOf memory.updates appId = some entry →
      reconciled (reportsRunning world.runtime appId)
        (fileThere world.volume (ArtifactStore.get memory.artifacts appId)) entry = entry)
    (entries : List Entry) :
    Keeps machine allowed (fun _ => True) (fun _ after left => after = memory ∧ left = world)
      (reconcileEntries entries) memory world := by
  induction entries with
  | nil => exact .pure trivial ⟨rfl, rfl⟩
  | cons entry rest ih =>
      refine (reconcileEntry_keeps entry).seq fun _ after left _ done => ?_
      obtain ⟨rfl, available, _, exact, rfl⟩ := done
      rw [exact careful, reconcileAfterBoot_fixed (fixed entry.id)]
      exact ih

/-- Every listed entry is reconciled once, and nothing else changes. -/
theorem reconcileEntries_keeps {entries : List Entry}
    (distinct : (entries.map Entry.id).Nodup) (named : ∀ entry ∈ entries, entry.id ≠ [])
    (unique : Unique memory.updates) :
    Keeps machine allowed (fun _ => True)
      (fun _ after left => left = world ∧
        after = { memory with updates := after.updates } ∧ Unique after.updates ∧
        ∃ available : Text → Bool,
          (∀ appId, available appId = true →
            fileThere world.volume (ArtifactStore.get memory.artifacts appId) = true) ∧
          ∀ appId, entryOf after.updates appId =
            if appId ∈ entries.map Entry.id then
              (entryOf memory.updates appId).map
                (reconciled (reportsRunning world.runtime appId) (available appId))
            else entryOf memory.updates appId)
      (reconcileEntries entries) memory world := by
  induction entries generalizing memory with
  | nil => exact .pure trivial ⟨rfl, rfl, unique, fun _ => false, nofun, fun _ => rfl⟩
  | cons entry rest ih =>
      obtain ⟨alone, others⟩ := List.nodup_cons.mp distinct
      refine (reconcileEntry_keeps entry).seq fun _ after left _ done => ?_
      obtain ⟨rfl, first, told, _, rfl⟩ := done
      have view := reconcileAfterBoot_view unique (named entry List.mem_cons_self)
        (reportsRunning left.runtime entry.id) first
      refine (ih others (fun other member => named other (List.mem_cons_of_mem _ member))
        view.1).weaken (fun _ => id) fun _ after end_ _ done => ?_
      obtain ⟨rfl, same, uniqueAfter, available, backed, entries⟩ := done
      -- the answers so far, with the one about this entry; it stands once in the list
      refine ⟨rfl, same, uniqueAfter, Function.update available entry.id first, ?_, ?_⟩
      · intro appId there
        by_cases own : appId = entry.id
        · rw [own, Function.update_self] at there
          rw [own]
          exact told there
        · rw [Function.update_of_ne own] at there
          exact backed appId there
      · intro appId
        rw [entries, view.2]
        by_cases own : appId = entry.id
        · rw [own, List.map_cons, if_neg alone, if_pos rfl, if_pos List.mem_cons_self,
            Function.update_self]
        · rw [if_neg own, Function.update_of_ne own]
          simp only [List.map_cons, List.mem_cons, own, false_or]

theorem saveSnapshot_keeps :
    Keeps machine allowed (fun _ => True)
      (fun _ after left => after = memory ∧ left.volume = world.volume ∧
        left.runtime = world.runtime) saveSnapshot memory world := by
  refine inspect_keeps ?_
  cases SeedSnapshot.buildSnapshot memory.updates memory.artifacts with
  | error error => exact .pure trivial ⟨rfl, rfl, rfl⟩
  | ok snapshot =>
      refine call_keeps (.saveSeed snapshot) trivial fun outcome _ => ?_
      dsimp only [step]
      split <;> exact ⟨trivial, rfl, rfl, rfl⟩

/-- The whole pass: every entry on record is reconciled, and the rest of the memory, the
files and the runtime stay as they are. -/
theorem reconcile_keeps (unique : Unique memory.updates) (sound : Sound memory.updates) :
    Keeps machine allowed (fun _ => True)
      (fun _ after left => after = { memory with updates := after.updates } ∧
        left.volume = world.volume ∧ left.runtime = world.runtime ∧
        ∃ available : Text → Bool,
          (∀ appId, available appId = true →
            fileThere world.volume (ArtifactStore.get memory.artifacts appId) = true) ∧
          ∀ appId, entryOf after.updates appId = (entryOf memory.updates appId).map
            (reconciled (reportsRunning world.runtime appId) (available appId)))
      reconcileRecoverySeedAfterBoot memory world := by
  unfold reconcileRecoverySeedAfterBoot
  refine inspect_keeps ?_
  rw [SeedSnapshot.exportEntries_all]
  have named : ∀ entry ∈ SlotTable.entries memory.updates, entry.id ≠ [] := by
    intro entry listed
    obtain ⟨slot, there⟩ := SlotTable.mem_entries.mp listed
    exact (sound _ entry (entryOf_stored unique there)).1
  refine (reconcileEntries_keeps (SlotTable.entries_keys_nodup unique) named unique).seq
    fun _ after left _ done => ?_
  obtain ⟨rfl, same, _, available, backed, view⟩ := done
  refine saveSnapshot_keeps.seq fun _ saved kept _ stays => .pure trivial ?_
  obtain ⟨rfl, volume, runtime⟩ := stays
  refine ⟨same, volume, runtime, available, backed, fun appId => ?_⟩
  rw [view]
  split
  · rfl
  · next unlisted =>
    cases present : entryOf memory.updates appId with
    | none => rfl
    | some entry =>
        rw [entryOf, SlotTable.lookup_entries] at present
        have own : entry.id = appId := by simpa using List.find?_some present
        refine absurd ?_ unlisted
        rw [← own]
        exact List.mem_map_of_mem (List.mem_of_find?_eq_some present)

end Pass

section Gate

variable {memory after : Memory} {world left : World} {snapshot : RecoverySeed.Snapshot}

theorem reconcile_again
    (fixed : ∀ appId entry, entryOf memory.updates appId = some entry →
      reconciled (reportsRunning world.runtime appId)
        (fileThere world.volume (ArtifactStore.get memory.artifacts appId)) entry = entry)
    (outcomes : List Outcome)
    (careful : Meets machine AnswersWell outcomes (reconcileRecoverySeedAfterBoot memory) world) :
    let done := run machine outcomes (reconcileRecoverySeedAfterBoot memory) world
    done.1.2 = memory ∧ done.2.volume = world.volume ∧ done.2.runtime = world.runtime := by
  have keeps : Keeps machine AnswersWell (fun _ => True)
      (fun _ after left => after = memory ∧ left.volume = world.volume ∧
        left.runtime = world.runtime) reconcileRecoverySeedAfterBoot memory world := by
    unfold reconcileRecoverySeedAfterBoot
    refine inspect_keeps ((reconcileEntries_fixed (fun _ => id) fixed _).seq
      fun _ after left _ same => ?_)
    obtain ⟨rfl, rfl⟩ := same
    exact saveSnapshot_keeps.seq fun _ _ _ _ stays => .pure trivial stays
  exact keeps.run outcomes careful

theorem reconciled_of_pass {available : Text → Bool}
    (restores : ∀ appId, entryOf memory.updates appId =
      (SeedSnapshot.seedFor snapshot.entries appId).map SeedSnapshot.updateOf)
    (named : SeedSnapshot.seedFor snapshot.entries [] = none)
    (same : after = { memory with updates := after.updates })
    (volume : left.volume = world.volume) (runtime : left.runtime = world.runtime)
    (backed : ∀ appId, available appId = true →
      fileThere world.volume (ArtifactStore.get memory.artifacts appId) = true)
    (view : ∀ appId, entryOf after.updates appId = (entryOf memory.updates appId).map
      (reconciled (reportsRunning world.runtime appId) (available appId))) :
    Reconciled snapshot after left := by
  have artifacts : after.artifacts = memory.artifacts := by
    rw [same]
  -- every entry after the pass is the reconciled form of one before it
  have came : ∀ appId entry, entryFor after.updates appId = some entry →
      ∃ earlier, reconciled (reportsRunning world.runtime appId) (available appId) earlier =
        entry := by
    intro appId entry present
    rw [entryFor] at present
    split at present
    · cases present
    · change entryOf after.updates appId = some entry at present
      rw [view] at present
      obtain ⟨earlier, _, came⟩ := Option.map_eq_some_iff.mp present
      exact ⟨earlier, came⟩
  constructor
  · intro appId entry present
    obtain ⟨earlier, rfl⟩ := came appId entry present
    exact (reconciled_rests _ _ earlier).1
  · intro appId entry present state
    obtain ⟨earlier, rfl⟩ := came appId entry present
    rw [volume, artifacts]
    exact backed appId ((reconciled_rests _ _ earlier).2.1 state)
  · intro appId entry present state
    obtain ⟨earlier, rfl⟩ := came appId entry present
    rw [runtime]
    exact (reconciled_rests _ _ earlier).2.2 state
  · intro appId
    by_cases empty : appId = []
    · rw [empty, named]
      rfl
    · rw [entryFor_entryOf empty, view, restores, Option.map_map, Option.map_map]
      refine congrArg (fun change => Option.map change _) (funext fun entry => ?_)
      have kept := reconciled_references (reportsRunning world.runtime appId) (available appId)
        (SeedSnapshot.updateOf entry)
      exact Prod.ext (kept.1.trans (copyBounded_buffer _)) (kept.2.trans (copyBounded_buffer _))
  · intro outcomes careful
    refine reconcile_again (fun appId entry present => ?_) outcomes careful
    rw [view] at present
    obtain ⟨earlier, _, rfl⟩ := Option.map_eq_some_iff.mp present
    rw [volume, runtime, artifacts]
    exact reconciled_again _ (backed appId) earlier

theorem gate_reconciles {config : Config} (restorable : Restorable config snapshot)
    (seed : world.seed = some snapshot) (replies : List Answer) :
    Keeps machine (fun event => readsSeed event) (fun _ => True)
      (fun _ after left => Reconciled snapshot after left)
      ensureRecoverySeedInitialized { booted with replies := replies } world := by
  obtain ⟨updates, artifacts, applied, unique, _, view⟩ :=
    SeedSnapshot.applySnapshot_restores restorable.toComplete UpdateManager.init
      ArtifactStore.init
  -- the three calls in front of the pass: each works, as the environment reads the seed
  have mounts : ∀ memory, Keeps machine (fun event => readsSeed event) (fun _ => True)
      (fun ret after left => ret = 0 ∧ after = memory ∧ left = world)
      (perform .storageMount : ServiceM Int) memory world := fun _ =>
    call_keeps .storageMount trivial fun _ mounted =>
      ⟨trivial, of_decide_eq_true mounted, rfl, rfl⟩
  have loads : ∀ memory, Keeps machine (fun event => readsSeed event) (fun _ => True)
      (fun loaded after left => loaded = .ok snapshot ∧ after = memory ∧ left = world)
      (perform .loadSeed : ServiceM (Except Int RecoverySeed.Snapshot)) memory world := by
    refine fun memory => call_keeps .loadSeed trivial fun outcome loaded => ?_
    change Except.isOk (step outcome .loadSeed world).1 = true at loaded
    by_cases unread : outcome.code ≠ 0
    · have result : step outcome .loadSeed world = (.error outcome.code, world) :=
        if_pos unread
      rw [result] at loaded
      cases loaded
    · have result : step outcome .loadSeed world = (.ok snapshot, world) := by
        simp [step, unread, seed]
      rw [result]
      exact ⟨trivial, rfl, rfl, rfl⟩
  have tidy := (applied_tidy restorable UpdateManager.init ArtifactStore.init).2
  rw [applied] at tidy
  have applies : ∀ memory : Memory, memory.updates = UpdateManager.init →
      memory.artifacts = ArtifactStore.init →
      Keeps machine (fun event => readsSeed event) (fun _ => True)
        (fun ret after left => ret = 0 ∧ after.updates = updates ∧
          after.artifacts = artifacts ∧ left = world)
        (applySnapshot snapshot) memory world := by
    intro memory empty none
    refine .edit trivial ?_
    rw [empty, none, applied]
    exact ⟨rfl, rfl, rfl, rfl⟩
  have unnamed : SeedSnapshot.seedFor snapshot.entries [] = none := by
    refine List.find?_eq_none.mpr fun entry member found => ?_
    have named := (of_decide_eq_true (restorable.whole entry member).1).2
    exact named (of_decide_eq_true found).2
  refine inspect_keeps ?_
  rw [if_neg (by simp [booted])]
  refine (mounts _).seq fun ret after left _ done => ?_
  obtain ⟨rfl, rfl, rfl⟩ := done
  rw [if_neg (by simp)]
  refine .bind (.edit trivial ?_)
  refine (loads _).seq fun loaded after left _ done => ?_
  obtain ⟨rfl, rfl, rfl⟩ := done
  refine (applies _ rfl rfl).seq fun ret after left _ done => ?_
  obtain ⟨rfl, rfl, rfl, rfl⟩ := done
  rw [if_pos rfl]
  refine (reconcile_keeps unique tidy.sound).seq fun _ reconciled kept _ done => ?_
  obtain ⟨same, volume, runtime, available, backed, entries⟩ := done
  have passed : Reconciled snapshot reconciled kept :=
    reconciled_of_pass (fun appId => (view appId).1) unnamed same volume runtime backed entries
  exact .bind (call_keeps (.publishUpdateEvent _ _ _ _) trivial fun _ _ =>
    ⟨trivial, .pure trivial passed⟩)

end Gate

/-- Whatever run it was that the seed was saved in and that a power loss ended, the gate
that mounts the storage and reads the seed leaves its entries reconciled, with any
answers to the other calls. -/
theorem boot_reconciles (config : Config) (volume : FileSystem.Volume)
    (runtime : AppRuntime.Runtime) (turns : List Turn) (snapshot : RecoverySeed.Snapshot)
    (outcomes : List Outcome)
    (closed : (after config (fresh volume runtime) turns).memory.seedInitialized = false)
    (saved : (after config (fresh volume runtime) turns).world.seed = some snapshot)
    (loaded : Meets machine (fun event => readsSeed event) outcomes
      (ensureRecoverySeedInitialized (after config (fresh volume runtime) turns).memory)
      (after config (fresh volume runtime) turns).world) :
    let device := after config (fresh volume runtime) turns
    let done := run machine outcomes (ensureRecoverySeedInitialized device.memory) device.world
    Reconciled snapshot done.1.2 done.2 := by
  intro device
  have sane : Sane config device := after_sane volume runtime turns
  have keeps := gate_reconciles (sane.seed snapshot saved) saved device.memory.replies
  rw [← (sane.idle closed).2] at keeps
  exact keeps.run outcomes loaded

def interruptedTurns : List Turn := preparedTurns ++ [.powerLoss none [] 0 demoRuntime]

def interrupted : Device := after demoConfig demoDevice interruptedTurns

theorem interrupted_reconciles :
    ∃ snapshot, interrupted.world.seed = some snapshot ∧
      let done := run machine [] (ensureRecoverySeedInitialized interrupted.memory)
        interrupted.world
      Reconciled snapshot done.1.2 done.2 := by
  have present : interrupted.world.seed.isSome = true := by decide +kernel
  obtain ⟨snapshot, saved⟩ := Option.isSome_iff_exists.mp present
  have loaded : ∀ event ∈ events machine [] (ensureRecoverySeedInitialized interrupted.memory)
      interrupted.world, readsSeed event = true := by
    decide +kernel
  exact ⟨snapshot, saved, boot_reconciles demoConfig (fun _ => none) demoRuntime
    interruptedTurns snapshot [] rfl saved loaded⟩

end NeuroLink.BootReconciliation
