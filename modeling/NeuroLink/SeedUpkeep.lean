import NeuroLink.Checkpoints
import NeuroLink.UpdateRuns

/-!
The walk through the handlers for the contract of the seed. A request starts with managers that a
snapshot can restore and that have the applications to keep; so does it end, with one more
answer, and a success is answered with the managers saved as they are.
-/

namespace NeuroLink.SeedUpkeep

open CText EffectProgram MemoryProgram CallContract UpdateManager UpdateService UpdateTables
open RecoverySeed SeedSnapshot UpdateRecovery SeedDevice Checkpoints

structure Steady (config : Config) (keep : Text → Prop) (memory : Memory) : Prop where
  initialized : memory.seedInitialized = true
  tidy : Tidy config memory.updates memory.artifacts
  small : Small memory.artifacts
  kept : ∀ appId, keep appId → entryOf memory.updates appId ≠ none

def Saved (trusted : Trust) (memory : Memory) (known : Option Snapshot) : Prop :=
  trusted.saves → ∃ snapshot, known = some snapshot ∧
    buildSnapshot memory.updates memory.artifacts = .ok snapshot

/-- A request that has not been answered yet. -/
structure Pending (config : Config) (keep : Text → Prop) (before : List Answer)
    (memory : Memory) : Prop extends Steady config keep memory where
  replies : memory.replies = before

/-- A request that has been answered, with success only if the managers are saved. -/
structure Answered (config : Config) (keep : Text → Prop) (trusted : Trust)
    (before : List Answer) (memory : Memory) (known : Option Snapshot) : Prop
    extends Steady config keep memory where
  replied : ∃ reply, memory.replies = before ++ [reply] ∧
    ∀ action content, reply = .accepted action content → Saved trusted memory known

section Parts

variable {config : Config} {keep : Text → Prop} {trusted : Trust} {before : List Answer}
  {memory : Memory} {known : Option Snapshot} {First Result : Type}
  {post : Result → Memory → Option Snapshot → Prop}

theorem Pending.updated (pending : Pending config keep before memory) {updates : Manager}
    (retains : Retains memory.updates updates) :
    Pending config keep before { memory with updates := updates } where
  initialized := pending.initialized
  tidy := pending.tidy.updated retains
  small := pending.small
  kept appId named := retains.present appId (pending.kept appId named)
  replies := pending.replies

theorem Pending.stored (pending : Pending config keep before memory)
    {artifacts : ArtifactStore.Store} (tidy : Tidy config memory.updates artifacts)
    (small : Small artifacts) :
    Pending config keep before { memory with artifacts := artifacts } where
  initialized := pending.initialized
  tidy := tidy
  small := small
  kept := pending.kept
  replies := pending.replies

theorem Steady.snapshot (steady : Steady config keep memory) :
    ∃ snapshot, buildSnapshot memory.updates memory.artifacts = .ok snapshot ∧
      Keeping config keep snapshot := by
  obtain ⟨snapshot, built, restorable⟩ := snapshot_built steady.tidy
  refine ⟨snapshot, built, restorable, fun appId named => ?_⟩
  obtain ⟨update, present⟩ := Option.ne_none_iff_exists'.mp (steady.kept appId named)
  have found := buildSnapshot_seedFor steady.tidy.unique steady.tidy.distinct built appId
  rw [mergedEntry, present] at found
  have listed : ∃ entry, seedFor snapshot.entries appId = some entry := by
    rw [found]
    cases SlotTable.lookup ArtifactStore.Meta.id memory.artifacts appId <;> exact ⟨_, rfl⟩
  obtain ⟨entry, there⟩ := listed
  have own := List.find?_some there
  simp only [decide_eq_true_eq] at own
  exact ⟨entry, List.mem_of_find?_eq_some there, own.2⟩

theorem call_then {effect : Effect} {rest : EffectReply effect → ServiceM Result}
    (elsewhere : ¬ OfSeed effect)
    (continues : ∀ reply,
      Secures (terms config keep trusted) post (rest reply) memory known) :
    Secures (terms config keep trusted) post (perform effect >>= rest) memory known := by
  cases effect with
  | saveSeed snapshot => exact absurd trivial elsewhere
  | loadSeed => exact absurd trivial elsewhere
  | _ => exact ⟨trivial, fun reply _ => continues reply⟩

def Aside (config : Config) (keep : Text → Prop) (trusted : Trust) (service : ServiceM First) :
    Prop :=
  ∀ memory known, Secures (terms config keep trusted)
    (fun _ after left => after = memory ∧ left = known) service memory known

namespace Aside

variable {service : ServiceM First} {rest : First → ServiceM Result}

theorem pure (result : First) : Aside config keep trusted (Pure.pure result) :=
  fun _ _ => ⟨rfl, rfl⟩

theorem call {effect : Effect} (elsewhere : ¬ OfSeed effect) :
    Aside config keep trusted (perform effect) := by
  intro memory known
  cases effect with
  | saveSeed snapshot => exact absurd trivial elsewhere
  | loadSeed => exact absurd trivial elsewhere
  | _ => exact ⟨trivial, fun _ _ => ⟨rfl, rfl⟩⟩

theorem andThen (aside : Aside config keep trusted service)
    (continues : ∀ result,
      Secures (terms config keep trusted) post (rest result) memory known) :
    Secures (terms config keep trusted) post (service >>= rest) memory known := by
  refine (aside memory known).seq fun result after left same => ?_
  rw [same.1, same.2]
  exact continues result

theorem bind (aside : Aside config keep trusted service)
    (continues : ∀ result, Aside config keep trusted (rest result)) :
    Aside config keep trusted (service >>= rest) :=
  fun memory known => aside.andThen fun result => continues result memory known

end Aside

/-- Saving the managers. -/
theorem saveSnapshot_secures (steady : Steady config keep memory) :
    Secures (terms config keep trusted)
      (fun _ after left => after = memory ∧ Saved trusted memory left)
      saveSnapshot memory known := by
  obtain ⟨snapshot, built, keeping⟩ := steady.snapshot
  refine .inspect ?_
  rw [built]
  refine ⟨keeping, fun code returns => ⟨rfl, fun trust => ⟨snapshot, ?_, built⟩⟩⟩
  exact if_pos (returns trust)

theorem persist_then {rest : Int → ServiceM Result} (steady : Steady config keep memory)
    (continues : ∀ code left, Saved trusted memory left →
      Secures (terms config keep trusted) post (rest code) memory left) :
    Secures (terms config keep trusted) post (persistRecoverySeedSnapshot >>= rest) memory
      known := by
  have ready : Secures (terms config keep trusted)
      (fun ret after left => ret = 0 ∧ after = memory ∧ left = known)
      ensureRecoverySeedInitialized memory known := by
    refine .inspect ?_
    rw [if_pos steady.initialized]
    exact ⟨rfl, rfl, rfl⟩
  have persists : Secures (terms config keep trusted)
      (fun _ after left => after = memory ∧ Saved trusted memory left)
      persistRecoverySeedSnapshot memory known := by
    refine ready.seq fun ret after left same => ?_
    rw [same.1, same.2.1, if_neg (by simp)]
    exact saveSnapshot_secures steady
  refine persists.seq fun code after left done => ?_
  rw [done.1]
  exact continues code left done.2

theorem updates_then {change : Manager → Int × Manager} {rest : Int → ServiceM Result}
    (continues : Secures (terms config keep trusted) post (rest (change memory.updates).1)
      { memory with updates := (change memory.updates).2 } known) :
    Secures (terms config keep trusted) post (updates change >>= rest) memory known :=
  continues

theorem artifacts_then {change : ArtifactStore.Store → Int × ArtifactStore.Store}
    {rest : Int → ServiceM Result}
    (continues : Secures (terms config keep trusted) post (rest (change memory.artifacts).1)
      { memory with artifacts := (change memory.artifacts).2 } known) :
    Secures (terms config keep trusted) post (artifacts change >>= rest) memory known :=
  continues

theorem setState_then {appId : Text} {state : ArtifactStore.State} {rest : Int → ServiceM Result}
    (pending : Pending config keep before memory)
    (continues : ∀ ret after, Pending config keep before after →
      Secures (terms config keep trusted) post (rest ret) after known) :
    Secures (terms config keep trusted) post (setArtifactState appId state >>= rest) memory
      known :=
  artifacts_then (continues _ _
    (pending.stored (pending.tidy.setState appId state) (pending.small.setState appId state)))

/-! The ends of a request. -/

theorem error_secures (pending : Pending config keep before memory) (message : Text)
    (statusCode : Nat) :
    Secures (terms config keep trusted)
      (fun _ after left => Answered config keep trusted before after left)
      (answer (.error message statusCode)) memory known where
  initialized := pending.initialized
  tidy := pending.tidy
  small := pending.small
  kept := pending.kept
  replied := ⟨_, congrArg (· ++ _) pending.replies, nofun⟩

theorem accepted_secures (pending : Pending config keep before memory)
    (saved : Saved trusted memory known) (action : Text) (reply : UpdateReply) :
    Secures (terms config keep trusted)
      (fun _ after left => Answered config keep trusted before after left)
      (answer (.accepted action reply)) memory known where
  initialized := pending.initialized
  tidy := pending.tidy
  small := pending.small
  kept := pending.kept
  replied := ⟨_, congrArg (· ++ _) pending.replies, fun _ _ _ => saved⟩

theorem failStage_secures (pending : Pending config keep before memory)
    {fail : Manager → Int × Manager}
    (retains : Retains memory.updates (fail memory.updates).2) (appId : Text) (stage : String)
    (detail message : Text) (statusCode : Nat) :
    Secures (terms config keep trusted)
      (fun _ after left => Answered config keep trusted before after left)
      (failStage fail appId stage detail message statusCode) memory known := by
  have failed := pending.updated retains
  refine updates_then (persist_then failed.toSteady fun _ _ _ => ?_)
  exact call_then id fun _ => error_secures failed _ _

theorem lease_secures (pending : Pending config keep before memory) (resource : Text)
    (metadata : RequestMetadata) :
    Secures (terms config keep trusted)
      (fun held after left => if held then after = memory ∧ left = known
        else Answered config keep trusted before after left)
      (requireResourceLeaseOrReply resource metadata) memory known := by
  have denied : ∀ (message : String) (statusCode : Nat), Secures (terms config keep trusted)
      (fun held after left => if held then after = memory ∧ left = known
        else Answered config keep trusted before after left)
      (do replyError message statusCode; return false) memory known := fun message statusCode =>
    (error_secures pending (lit message) statusCode).seq fun _ _ _ answered => answered
  unfold requireResourceLeaseOrReply
  refine call_then id fun ret => ?_
  split
  · exact denied _ _
  split
  · exact denied _ _
  split
  · exact denied _ _
  · exact .pure ⟨rfl, rfl⟩

theorem lease_then {resource : Text} {metadata : RequestMetadata} {rest : ServiceM Unit}
    (pending : Pending config keep before memory)
    (granted : Secures (terms config keep trusted)
      (fun _ after left => Answered config keep trusted before after left) rest memory known) :
    Secures (terms config keep trusted)
      (fun _ after left => Answered config keep trusted before after left)
      (do
        let held ← requireResourceLeaseOrReply resource metadata
        if ¬ held then return () else rest) memory known := by
  refine (lease_secures pending resource metadata).seq fun held after left done => ?_
  cases held with
  | false => exact done
  | true =>
      obtain ⟨rfl, rfl⟩ := done
      exact granted

end Parts

/-! The download. -/

section Download

variable {config : Config} {keep : Text → Prop} {trusted : Trust}

theorem removeFile_aside (path : Text) : Aside config keep trusted (removeFile config path) := by
  unfold removeFile
  split
  · exact .bind (.call id) fun _ => .pure ()
  · exact .pure ()

theorem downloadChunks_aside (artifactKey : Text) (totalSize chunkSize : Nat) (dstPath : Text)
    (rounds offset : Nat) : Aside config keep trusted
      (downloadChunks artifactKey totalSize chunkSize dstPath rounds offset) := by
  induction rounds generalizing offset with
  | zero => exact .pure 0
  | succ rounds ih =>
      unfold downloadChunks
      split
      · refine .bind (.call id) fun fetched => ?_
        cases fetched with
        | error error => exact .pure error
        | ok chunk =>
            dsimp only
            split
            · exact .pure _
            refine .bind (.call id) fun written => ?_
            split
            · exact .pure _
            split
            · exact .pure _
            · exact ih _
      · exact .pure 0

theorem downloadArtifact_aside (artifactKey : Text) (totalSize chunkSize : Nat)
    (dstPath : Text) : Aside config keep trusted
      (downloadArtifact config artifactKey totalSize chunkSize dstPath) := by
  have transfer : Aside config keep trusted
      (zenohDownloadArtifact config artifactKey totalSize chunkSize dstPath) := by
    unfold zenohDownloadArtifact
    split
    · exact .pure _
    refine .bind (.call id) fun allocated => ?_
    split
    · exact .pure _
    refine .bind (.call id) fun opened => ?_
    split
    · exact .pure _
    refine .bind (downloadChunks_aside _ _ _ _ _ _) fun ret => .bind (.call id) fun closed => ?_
    dsimp only
    generalize (if ret = 0 ∧ closed < 0 then closed else ret) = outcome
    split
    · exact .bind (removeFile_aside _) fun _ => .pure _
    · exact .pure _
  refine .bind (.call id) fun opened => ?_
  split
  · exact .pure _
  · exact .bind transfer fun ret => .bind (.call id) fun _ => .pure ret

theorem downloadedWhole_aside (path : Text) (size : Nat) :
    Aside config keep trusted (downloadedWhole path size) := by
  refine .bind (.call id) fun found => ?_
  cases found with
  | error error => exact .pure _
  | ok ent => exact .pure _

end Download

section Handlers

variable {config : Config} {keep : Text → Prop} {trusted : Trust} {before : List Answer}
  {request : Request} {memory : Memory} {known : Option Snapshot}

/-- The size a prepare request announces is one of 32 bits, as every one is where `size_t` is. -/
def Announces (config : Config) (request : Request) : Prop :=
  requestedSize config request < 2 ^ 32

theorem announces_of_word (word : config.sizeModulus = 2 ^ 32) (request : Request) :
    Announces config request := by
  unfold Announces requestedSize
  rw [word]
  have below := Int.emod_lt_of_pos (readInt config request (·.size) "size" 0)
    (show (0 : Int) < (2 ^ 32 : Nat) by decide)
  omega

abbrev Ends (config : Config) (keep : Text → Prop) (trusted : Trust) (before : List Answer)
    (service : ServiceM Unit) (memory : Memory) (known : Option Snapshot) : Prop :=
  Secures (terms config keep trusted)
    (fun _ after left => Answered config keep trusted before after left) service memory known

theorem failPrepare_ends (pending : Pending config keep before memory) (appId : Text)
    (reason message : String) (statusCode : Nat) :
    Ends config keep trusted before (failPrepare appId reason message statusCode) memory known :=
  failStage_secures pending (fail_calm appId _ pending.tidy.unique).toRetains _ _ _ _ _

theorem stageArtifact_ends (pending : Pending config keep before memory)
    (announces : Announces config request)
    (present : entryOf memory.updates request.appId.text ≠ none) (keyexpr : Text) :
    Ends config keep trusted before (stageArtifact config request keyexpr) memory known := by
  have short : request.appId.text.length ≤ 31 := Nat.le_of_lt_succ request.appId.fits
  have staged := pending.stored
    (pending.tidy.staged short present (requestTransport request).text keyexpr
      (requestedSize config request) (requestChunkSize config request) 0)
    (pending.small.staged announces _ _ _ _ _ _)
  unfold stageArtifact
  refine artifacts_then ?_
  split
  · exact failPrepare_ends staged _ _ _ _
  have completes : Calm memory.updates (prepareComplete memory.updates request.appId.text).2 :=
    move_calm _ (by decide) staged.tidy.unique
  have completed := staged.updated completes.toRetains
  refine updates_then ?_
  split
  · exact call_then id fun _ => error_secures completed _ _
  · refine persist_then completed.toSteady fun _ _ saved => ?_
    exact call_then id fun _ => accepted_secures completed saved _ _

theorem handleUpdatePrepare_ends (pending : Pending config keep before memory)
    (announces : Announces config request) :
    Ends config keep trusted before (handleUpdatePrepare config request) memory known := by
  have short : request.appId.text.length ≤ 31 := Nat.le_of_lt_succ request.appId.fits
  have begun := pending.updated (prepareBegin_calm pending.tidy.unique short).toRetains
  unfold handleUpdatePrepare
  refine updates_then ?_
  by_cases refused : (prepareBegin memory.updates request.appId.text).1 ≠ 0
  · rw [if_pos refused]
    exact error_secures begun _ _
  rw [if_neg refused]
  have present := prepareBegin_present pending.tidy.unique short (not_not.mp refused)
  dsimp only
  split
  · split
    · exact failPrepare_ends begun _ _ _ _
    refine (downloadArtifact_aside _ _ _ _).andThen fun ret => ?_
    split
    · exact (removeFile_aside _).andThen fun _ => failPrepare_ends begun _ _ _ _
    refine (downloadedWhole_aside _ _).andThen fun whole => ?_
    split
    · exact (removeFile_aside _).andThen fun _ => failPrepare_ends begun _ _ _ _
    · exact stageArtifact_ends begun announces present _
  · exact stageArtifact_ends begun announces present _

theorem failVerify_ends (pending : Pending config keep before memory) (appId : Text)
    (reason detail message : String) (statusCode : Nat) :
    Ends config keep trusted before (failVerify appId reason detail message statusCode) memory
      known :=
  failStage_secures pending (fail_calm appId _ pending.tidy.unique).toRetains _ _ _ _ _

theorem acceptArtifact_ends (pending : Pending config keep before memory) (path : Text)
    (size : Nat) :
    Ends config keep trusted before (acceptArtifact config request path size) memory known := by
  unfold acceptArtifact
  refine call_then id fun _ => setState_then pending fun ret after stored => ?_
  split
  · exact failVerify_ends stored _ _ _ _ _
  have completed := stored.updated (verifyComplete_retains request.appId.text stored.tidy.unique)
  refine updates_then ?_
  split
  · exact failVerify_ends completed _ _ _ _ _
  · refine persist_then completed.toSteady fun _ _ saved => ?_
    exact call_then id fun _ => accepted_secures completed saved _ _

theorem handleUpdateVerify_ends (pending : Pending config keep before memory) :
    Ends config keep trusted before (handleUpdateVerify config request) memory known := by
  have begins : Calm memory.updates (verifyBegin memory.updates request.appId.text).2 :=
    amend_calm _ pending.tidy.unique (by decide) (onlyFrom_error _) (fun _ => rfl)
      (fun _ => rfl) (fun _ => by simp)
  have begun := pending.updated begins.toRetains
  have fails : ∀ {memory : Memory} (message : String) (statusCode : Nat),
      Pending config keep before memory → Ends config keep trusted before (do
        let _ ← setArtifactState request.appId.text .invalid
        failVerify request.appId.text message message message statusCode) memory known :=
    fun message statusCode pending =>
      setState_then pending fun _ _ stored => failVerify_ends stored _ _ _ _ _
  unfold handleUpdateVerify
  refine updates_then ?_
  split
  · exact error_secures begun _ _
  refine (Aside.call id).andThen fun found => ?_
  dsimp only
  split
  · exact fails _ _ begun
  refine .inspect ?_
  split
  · exact fails _ _ begun
  · exact acceptArtifact_ends begun _ _

theorem runtimeFailureDetail_aside (fallback : String) (ret : Int) :
    Aside config keep trusted (runtimeFailureDetail fallback ret) :=
  .bind (.call id) fun _ => .pure _

theorem runtimeAppIsLoaded_aside (appId : Text) :
    Aside config keep trusted (runtimeAppIsLoaded appId) :=
  .bind (.call id) fun _ => .pure _

theorem failActivate_ends (pending : Pending config keep before memory)
    (appId detail message : Text) :
    Ends config keep trusted before (failActivate appId detail message) memory known :=
  failStage_secures pending (fail_calm appId _ pending.tidy.unique).toRetains _ _ _ _ _

theorem recordActivation_ends (pending : Pending config keep before memory) (path : Text) :
    Ends config keep trusted before (recordActivation config request path) memory known := by
  unfold recordActivation
  refine setState_then pending fun _ after stored => ?_
  have completes : Calm after.updates (activateComplete after.updates request.appId.text).2 :=
    move_calm _ (by decide) stored.tidy.unique
  have completed := stored.updated completes.toRetains
  refine updates_then ?_
  split
  · exact error_secures completed _ _
  refine call_then id fun _ => updates_then ?_
  have recorded := completed.updated
    (recordStableRef_retains request.appId.text path completed.tidy.unique)
  refine persist_then recorded.toSteady fun _ _ saved => ?_
  exact call_then id fun _ => call_then id fun _ => call_then id fun _ =>
    accepted_secures recorded saved _ _

theorem launchArtifact_ends (pending : Pending config keep before memory) :
    Ends config keep trusted before (launchArtifact config request) memory known := by
  unfold launchArtifact
  refine call_then id fun ret => ?_
  split
  · exact (runtimeFailureDetail_aside _ _).andThen fun _ => failActivate_ends pending _ _ _
  refine call_then id fun ret => ?_
  split
  · exact (runtimeFailureDetail_aside _ _).andThen fun _ => failActivate_ends pending _ _ _
  · exact recordActivation_ends pending _

theorem handleUpdateActivate_ends (pending : Pending config keep before memory) :
    Ends config keep trusted before (handleUpdateActivate config request) memory known := by
  have begins : Calm memory.updates (activateBegin memory.updates request.appId.text).2 :=
    amend_calm _ pending.tidy.unique (by decide) (onlyFrom_error _) (fun _ => rfl)
      (fun _ => rfl) (fun _ => by simp)
  have begun := pending.updated begins.toRetains
  unfold handleUpdateActivate
  refine lease_then pending (updates_then ?_)
  split
  · exact error_secures begun _ _
  refine (runtimeAppIsLoaded_aside _).andThen fun loaded => ?_
  split
  · refine call_then id fun ret => ?_
    split
    · exact failActivate_ends begun _ _ _
    · exact launchArtifact_ends begun
  · exact launchArtifact_ends begun

theorem failRollback_ends (pending : Pending config keep before memory) (appId : Text)
    (reason detail message : String) :
    Ends config keep trusted before (failRollback appId reason detail message) memory known :=
  failStage_secures pending (fail_calm appId _ pending.tidy.unique).toRetains _ _ _ _ _

theorem completeRollback_ends (pending : Pending config keep before memory) (detail : String) :
    Ends config keep trusted before (completeRollback config request detail) memory known := by
  have completes : Calm memory.updates (rollbackComplete memory.updates request.appId.text).2 :=
    move_calm _ (by decide) pending.tidy.unique
  have completed := pending.updated completes.toRetains
  unfold completeRollback
  refine updates_then ?_
  split
  · exact error_secures completed _ _
  · refine persist_then completed.toSteady fun _ _ saved => ?_
    exact call_then id fun _ => call_then id fun _ => accepted_secures completed saved _ _

theorem restoreStable_aside (appId stableRef : Text) :
    Aside config keep trusted (restoreStable appId stableRef) := by
  refine .bind (.call id) fun ret => ?_
  split
  · exact .call id
  · exact .pure _

theorem rollBack_ends (pending : Pending config keep before memory) :
    Ends config keep trusted before (rollBack config request) memory known := by
  unfold rollBack
  refine call_then id fun _ => call_then id fun ret => ?_
  split
  · exact failRollback_ends pending _ _ _ _
  refine call_then id fun _ => .inspect ?_
  dsimp only
  split
  · refine (restoreStable_aside _ _).andThen fun ret => ?_
    split
    · exact failRollback_ends pending _ _ _ _
    · exact call_then id fun _ => setState_then pending fun _ _ stored =>
        completeRollback_ends stored _
  · refine artifacts_then ?_
    exact completeRollback_ends
      (pending.stored (pending.tidy.removed _) (pending.small.removed _)) _

theorem handleUpdateRollback_ends (pending : Pending config keep before memory) :
    Ends config keep trusted before (handleUpdateRollback config request) memory known := by
  have begun := pending.updated (rollbackBegin_calm request.appId.text
    (requestReason request).text pending.tidy.unique).toRetains
  unfold handleUpdateRollback
  refine lease_then pending (updates_then ?_)
  split
  · exact error_secures begun _ _
  refine persist_then begun.toSteady fun saved _ _ => ?_
  split
  · refine updates_then (call_then id fun _ => ?_)
    exact error_secures (begun.updated (fail_calm _ _ begun.tidy.unique).toRetains) _ _
  have marks : ∀ manager : Manager, Unique manager →
      Calm manager (rollbackMarkInProgress manager request.appId.text).2 :=
    fun _ unique => move_calm _ (by decide) unique
  have marked := begun.updated (marks _ begun.tidy.unique).toRetains
  refine updates_then ?_
  split
  · refine updates_then ?_
    exact error_secures (marked.updated (fail_calm _ _ marked.tidy.unique).toRetains) _ _
  · exact rollBack_ends marked

theorem failDelete_ends (pending : Pending config keep before memory) (appId : Text)
    (detail message : String) (statusCode : Nat) :
    Ends config keep trusted before (failDelete appId detail message statusCode) memory known :=
  call_then id fun _ => error_secures pending _ _

theorem handleUpdateDelete_ends (pending : Pending config keep before memory)
    (spared : ¬ keep request.appId.text) :
    Ends config keep trusted before (handleUpdateDelete config request) memory known := by
  unfold handleUpdateDelete
  refine lease_then pending ((runtimeAppIsLoaded_aside _).andThen fun loaded => ?_)
  split
  · exact failDelete_ends pending _ _ _ _
  refine .inspect ?_
  dsimp only
  split
  · exact failDelete_ends pending _ _ _ _
  split
  · exact failDelete_ends pending _ _ _ _
  next present =>
    have named : request.appId.text ≠ [] := fun empty =>
      present (by simp [ArtifactStore.get, empty])
    have forgotten : Pending config keep before { memory with
        artifacts := (ArtifactStore.remove memory.artifacts request.appId.text).2
        updates := (remove memory.updates request.appId.text).2 } := by
      refine ⟨⟨pending.initialized, pending.tidy.forgotten named, pending.small.removed _,
        fun appId kept => ?_⟩, pending.replies⟩
      have rewrites := remove_effect pending.tidy.unique named
      rw [rewrites.other fun same => spared (same ▸ kept)]
      exact pending.kept appId kept
    refine call_then id fun ret => ?_
    split
    · exact failDelete_ends pending _ _ _ _
    refine artifacts_then (updates_then (call_then id fun _ => ?_))
    refine persist_then forgotten.toSteady fun saved _ stored => ?_
    split
    · exact failDelete_ends forgotten _ _ _ _
    · exact call_then id fun _ => call_then id fun _ => accepted_secures forgotten stored _ _

/-- Every request keeps the contract, as long as it does not delete an application to keep. -/
theorem handleAction_ends (pending : Pending config keep before memory)
    (announces : Announces config request)
    (spared : request.action = lit "delete" → ¬ keep request.appId.text) :
    Ends config keep trusted before (handleAction config request) memory known := by
  unfold handleAction
  split
  · exact handleUpdatePrepare_ends pending announces
  split
  · exact handleUpdateVerify_ends pending
  split
  · exact handleUpdateActivate_ends pending
  split
  · exact handleUpdateRollback_ends pending
  split
  · next delete => exact handleUpdateDelete_ends pending (spared delete)
  · exact error_secures pending _ _

end Handlers

/-! The gate. -/

section Gate

variable {config : Config} {keep : Text → Prop} {trusted : Trust} {before : List Answer}
  {memory : Memory} {known : Option Snapshot}

theorem publish_aside (appId : Text) (stage status : String) (detail : Text) :
    Aside config keep trusted (publishUpdateEvent appId stage status detail) :=
  .call id

theorem reconcileEntry_then {Result : Type} {post : Result → Memory → Option Snapshot → Prop}
    {entry : Entry} {rest : Unit → ServiceM Result}
    (pending : Pending config keep before memory)
    (continues : ∀ after, Pending config keep before after →
      Secures (terms config keep trusted) post (rest ()) after known) :
    Secures (terms config keep trusted) post (reconcileEntry entry >>= rest) memory known := by
  have active : Aside config keep trusted (runtimeAppIsActive entry.appId.text) :=
    .bind (.call id) fun _ => .pure _
  have available : ∀ found, Aside config keep trusted (artifactAvailable found) := by
    intro found
    cases found with
    | none => exact .pure false
    | some artifact =>
        unfold artifactAvailable artifactPathAvailable
        dsimp only
        split
        · exact .pure false
        · refine .bind (.call id) fun found => ?_
          cases found with
          | error error => exact .pure _
          | ok ent => exact .pure _
  have round : Secures (terms config keep trusted)
      (fun _ after left => Pending config keep before after ∧ left = known)
      (reconcileEntry entry) memory known := by
    refine .inspect (active.andThen fun running => (available _).andThen fun there =>
      updates_then ?_)
    have reconciled := pending.updated
      (reconcile_calm entry.appId.text running there pending.tidy.unique).toRetains
    refine .inspect ?_
    split
    · refine (publish_aside _ _ _ _ _ known).weaken fun _ after left same => ?_
      rw [same.1]
      exact ⟨reconciled, same.2⟩
    · exact .pure ⟨reconciled, rfl⟩
  refine round.seq fun _ after left done => ?_
  rw [done.2]
  exact continues after done.1

theorem reconcileEntries_secures (entries : List Entry)
    (pending : Pending config keep before memory) :
    Secures (terms config keep trusted) (fun _ after _ => Pending config keep before after)
      (reconcileEntries entries) memory known := by
  induction entries generalizing memory with
  | nil => exact pending
  | cons entry rest ih => exact reconcileEntry_then pending fun _ kept => ih kept

theorem reconcile_secures (pending : Pending config keep before memory) :
    Secures (terms config keep trusted) (fun _ after _ => Pending config keep before after)
      reconcileRecoverySeedAfterBoot memory known := by
  refine .inspect ((reconcileEntries_secures _ pending).seq fun _ after left kept => ?_)
  refine (saveSnapshot_secures kept.toSteady).seq fun _ saved left done => ?_
  rw [done.1]
  exact kept

theorem restored_pending {snapshot : Snapshot} (keeping : Keeping config keep snapshot)
    (replies : List Answer) :
    (SeedSnapshot.applySnapshot snapshot UpdateManager.init ArtifactStore.init).1 = 0 ∧
      Pending config keep replies (UpdateRuns.restored snapshot replies) := by
  obtain ⟨restorable, lists⟩ := keeping
  obtain ⟨applies, tidy⟩ := applied_tidy restorable UpdateManager.init ArtifactStore.init
  obtain ⟨restored, stored, applied, _, distinct, view⟩ :=
    applySnapshot_restores restorable.toComplete UpdateManager.init ArtifactStore.init
  refine ⟨applies, ⟨rfl, tidy, ?_, fun appId named => ?_⟩, rfl⟩
  · change Small (SeedSnapshot.applySnapshot snapshot UpdateManager.init ArtifactStore.init).2.2
    rw [applied]
    intro slot artifact there
    have looked := SlotTable.lookup_stored distinct there
    rw [(view artifact.id).2] at looked
    obtain ⟨entry, _, rfl⟩ := Option.map_eq_some_iff.mp looked
    exact entry.sizeBytes.toNat_lt
  · change entryOf
      (SeedSnapshot.applySnapshot snapshot UpdateManager.init ArtifactStore.init).2.1 appId ≠ none
    obtain ⟨entry, member, own⟩ := lists appId named
    rw [applied, (view appId).1, seedFor_used restorable.toComplete.used, ne_eq,
      Option.map_eq_none_iff, List.find?_eq_none]
    exact fun unlisted => unlisted entry member (decide_eq_true own)

structure Between (config : Config) (keep : Text → Prop) (replies : List Answer)
    (memory : Memory) : Prop where
  ready : memory.seedInitialized = true → Pending config keep replies memory
  idle : memory.seedInitialized = false → memory = { UpdateWorld.booted with replies := replies }

theorem Between.of_pending (pending : Pending config keep before memory) :
    Between config keep before memory :=
  ⟨fun _ => pending, fun closed => absurd pending.initialized (by simp [closed])⟩

theorem opened_pending (nothing : ∀ appId, ¬ keep appId) (replies : List Answer) :
    Pending config keep replies (UpdateRuns.opened replies) where
  initialized := rfl
  tidy := init_tidy
  small slot artifact there := by
    change ArtifactStore.init[slot] = some artifact at there
    rw [ArtifactStore.init, SlotTable.getElem_empty] at there
    cases there
  kept appId named := absurd named (nothing appId)
  replies := rfl

theorem gate_secures (loads : trusted.loads) (replies : List Answer) :
    Secures (terms config keep trusted) (fun _ after _ => Between config keep replies after)
      ensureRecoverySeedInitialized { UpdateWorld.booted with replies := replies } known := by
  have reports : ∀ {memory : Memory} {left : Option Snapshot} (stage status detail),
      Pending config keep replies memory → Secures (terms config keep trusted)
        (fun _ after _ => Between config keep replies after)
        (do publishUpdateEvent (lit "system") stage status detail; return (0 : Int)) memory
        left := fun _ _ _ pending => call_then id fun _ => .pure (.of_pending pending)
  refine .inspect ?_
  rw [if_neg (by simp [UpdateWorld.booted])]
  refine call_then id fun ret => ?_
  split
  · exact .pure ⟨fun ready => absurd ready Bool.false_ne_true, fun _ => rfl⟩
  -- from here on the seed counts as initialized, whatever the load gives
  refine .edit (.call loads fun loaded granted => ?_)
  cases loaded with
  | error error =>
      have opened : Pending config keep replies (UpdateRuns.opened replies) :=
        opened_pending granted replies
      dsimp only
      split
      · exact reports _ _ _ opened
      · exact .pure (.of_pending opened)
  | ok snapshot =>
      obtain ⟨applies, restored⟩ := restored_pending granted replies
      have applying : Secures (terms config keep trusted)
          (fun ret after _ => ret = 0 ∧ after = UpdateRuns.restored snapshot replies)
          (UpdateService.applySnapshot snapshot) (UpdateRuns.opened replies) none := ⟨applies, rfl⟩
      refine applying.seq fun ret after left same => ?_
      rw [same.1, same.2, if_pos rfl]
      exact (reconcile_secures restored).seq fun _ after left kept => reports _ _ _ kept

end Gate

section Serve

variable {config : Config} {keep : Text → Prop} {trusted : Trust} {memory : Memory}
  {known : Option Snapshot}

theorem Between.replies {replies : List Answer} (between : Between config keep replies memory) :
    memory.replies = replies := by
  cases opened : memory.seedInitialized with
  | true => exact (between.ready opened).replies
  | false => exact congrArg Memory.replies (between.idle opened)

theorem unbooted (idle : memory = { UpdateWorld.booted with replies := memory.replies })
    (replies : List Answer) :
    { memory with replies := replies } = { UpdateWorld.booted with replies := replies } := by
  cases memory
  simp only [Memory.mk.injEq] at idle
  obtain ⟨rfl, rfl, rfl, _⟩ := idle
  rfl

/-- What a turn leaves: a unit between two requests, whose managers are saved if the turn has
answered with success. -/
def Left (config : Config) (keep : Text → Prop) (trusted : Trust) (before after : Memory)
    (known : Option Snapshot) : Prop :=
  Between config keep after.replies after ∧ ∀ action content,
    after.replies = before.replies ++ [.accepted action content] → Saved trusted after known

theorem Left.unanswered {after : Memory} (same : after.replies = memory.replies)
    (between : Between config keep after.replies after) :
    Left config keep trusted memory after known := by
  refine ⟨between, fun action content answered => ?_⟩
  rw [same] at answered
  simp at answered

/-- A turn of the dispatcher, which loads the seed only if the unit has not done so. -/
theorem serve_secures (between : Between config keep memory.replies memory)
    {request : Option Request}
    (loads : memory.seedInitialized = false → trusted.loads)
    (announces : ∀ asked ∈ request, Announces config asked)
    (spared : ∀ asked ∈ request, asked.action = lit "delete" → ¬ keep asked.appId.text) :
    Secures (terms config keep trusted)
      (fun _ after left => Left config keep trusted memory after left)
      (UpdateWorld.serve config request) memory known := by
  -- an open gate serves at once; a closed one loads the seed first
  cases opened : memory.seedInitialized with
  | true =>
      have pending := between.ready opened
      cases request with
      | none =>
          have gate : Secures (terms config keep trusted)
              (fun _ after left => after = memory ∧ left = known)
              ensureRecoverySeedInitialized memory known := by
            refine .inspect ?_
            rw [if_pos opened]
            exact .pure ⟨rfl, rfl⟩
          refine gate.seq fun _ after left same => ?_
          rw [same.1]
          exact .pure (.unanswered rfl between)
      | some request =>
          refine .inspect ?_
          rw [if_pos opened]
          refine (handleAction_ends pending (announces request rfl) (spared request rfl)).weaken
            fun _ after left answered => ⟨.of_pending ⟨answered.toSteady, rfl⟩, ?_⟩
          intro action content said
          obtain ⟨reply, replied, saved⟩ := answered.replied
          rw [said, List.append_cancel_left_eq, List.cons.injEq] at replied
          exact saved action content replied.1.symm
  | false =>
      have idle := between.idle opened
      cases request with
      | none =>
          have gate := @gate_secures config keep trusted known (loads opened) memory.replies
          rw [← idle] at gate
          refine gate.seq fun _ after left kept => ?_
          have same := kept.replies
          exact .pure (.unanswered same (same ▸ kept))
      | some request =>
          refine .inspect ?_
          rw [if_neg (by simp [opened])]
          refine ⟨⟨fun ready => absurd ready (by simp [opened]), fun _ => ?_⟩,
            fun action content said => ?_⟩
          · exact unbooted idle _
          · exact nomatch (List.append_cancel_left said)

end Serve

end NeuroLink.SeedUpkeep
