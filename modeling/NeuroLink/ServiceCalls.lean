import NeuroLink.UpdateService

/-!
The calls of the parts that every handler of the update service shares: persisting,
publishing and answering. They look at the runtime and at files, and write the seed,
but change no application, no command and no artifact.
-/

namespace NeuroLink.ServiceCalls

open CText EffectProgram MemoryProgram UpdateService

def Housekeeping : Effect → Prop
  | .storageMount | .loadSeed | .saveSeed _ | .publishUpdateEvent .. | .publishStateEvent
  | .runtimeStatus | .file (.stat _) | .lastException => True
  | _ => False

theorem answer_calls (reply : Answer) : CallsOnly Housekeeping (answer reply) := .edit _

theorem publish_calls (appId : Text) (stage status : String) (detail : Text) :
    CallsOnly Housekeeping (publishUpdateEvent appId stage status detail) := .perform trivial

theorem saveSnapshot_calls : CallsOnly Housekeeping saveSnapshot := by
  refine .bind .inspect fun memory => ?_
  split
  · exact .pure _
  · exact .perform trivial

theorem artifactAvailable_calls (found : Option ArtifactStore.Meta) :
    CallsOnly Housekeeping (artifactAvailable found) := by
  unfold artifactAvailable artifactPathAvailable
  split
  · exact .pure _
  · split
    · exact .pure _
    · refine .bind (.perform trivial) fun stat => ?_
      split
      · exact .pure _
      · exact .pure _

theorem reconcileEntries_calls (entries : List UpdateManager.Entry) :
    CallsOnly Housekeeping (reconcileEntries entries) := by
  induction entries with
  | nil => exact .pure _
  | cons entry rest ih =>
      have round : CallsOnly Housekeeping (reconcileEntry entry) := by
        have active : CallsOnly Housekeeping (runtimeAppIsActive entry.appId.text) :=
          .bind (.perform trivial) fun _ => .pure _
        refine .bind .inspect fun memory => .bind active fun _ =>
          .bind (artifactAvailable_calls _) fun _ => .bind (.edit _) fun ret =>
          .bind .inspect fun memory => ?_
        split
        · exact publish_calls _ _ _ _
        · exact .pure _
      exact .bind round fun _ => ih

theorem ensureRecoverySeedInitialized_calls :
    CallsOnly Housekeeping ensureRecoverySeedInitialized := by
  refine .bind .inspect fun memory => ?_
  split
  · exact .pure _
  refine .bind (.perform trivial) fun ret => ?_
  split
  · exact .pure _
  refine .bind (.edit _) fun _ => .bind (.perform trivial) fun loaded => ?_
  split
  · refine .bind (.edit _) fun ret => ?_
    have reconciles : CallsOnly Housekeeping reconcileRecoverySeedAfterBoot :=
      .bind .inspect fun memory => .bind (reconcileEntries_calls _) fun _ =>
        .bind saveSnapshot_calls fun _ => .pure _
    split
    · exact .bind reconciles fun _ => .bind (publish_calls _ _ _ _) fun _ => .pure _
    · exact .bind (publish_calls _ _ _ _) fun _ => .pure _
  · split
    · exact .bind (publish_calls _ _ _ _) fun _ => .pure _
    · exact .pure _

theorem persist_calls : CallsOnly Housekeeping persistRecoverySeedSnapshot := by
  refine .bind ensureRecoverySeedInitialized_calls fun ret => ?_
  split
  · exact .pure _
  · exact saveSnapshot_calls

theorem failStage_calls (fail : UpdateManager.Manager → Int × UpdateManager.Manager)
    (appId : Text) (stage : String) (detail message : Text) (statusCode : Nat) :
    CallsOnly Housekeeping (failStage fail appId stage detail message statusCode) :=
  .bind (.edit _) fun _ => .bind persist_calls fun _ => .bind (publish_calls _ _ _ _) fun _ =>
    answer_calls _

theorem runtimeFailureDetail_calls (fallback : String) (ret : Int) :
    CallsOnly Housekeeping (runtimeFailureDetail fallback ret) :=
  .bind (.perform trivial) fun _ => .pure _

def Aside : Effect → Prop
  | .runtimeLoad .. | .runtimeStart .. | .runtimeStop _ | .runtimeUnload _
  | .registerAppCallbackCommand _ => False
  | _ => True

section Aside

variable {config : Config} {request : Request}

theorem housekeeping_aside (effect : Effect) (housekeeping : Housekeeping effect) :
    Aside effect := by
  cases effect with
  | runtimeLoad | runtimeStart | runtimeStop | runtimeUnload | registerAppCallbackCommand =>
      exact housekeeping
  | _ => trivial

theorem persist_aside : CallsOnly Aside persistRecoverySeedSnapshot :=
  persist_calls.weaken housekeeping_aside

theorem failStage_aside (fail : UpdateManager.Manager → Int × UpdateManager.Manager)
    (appId : Text) (stage : String) (detail message : Text) (statusCode : Nat) :
    CallsOnly Aside (failStage fail appId stage detail message statusCode) :=
  (failStage_calls _ _ _ _ _ _).weaken housekeeping_aside

theorem removeFile_aside (path : Text) : CallsOnly Aside (removeFile config path) := by
  unfold removeFile
  split
  · exact .bind (.perform trivial) fun _ => .pure _
  · exact .pure _

theorem lease_aside (resource : Text) (metadata : RequestMetadata) :
    CallsOnly Aside (requireResourceLeaseOrReply resource metadata) := by
  refine .bind (.perform trivial) fun ret => ?_
  split
  · exact .bind (.edit _) fun _ => .pure _
  split
  · exact .bind (.edit _) fun _ => .pure _
  split
  · exact .bind (.edit _) fun _ => .pure _
  · exact .pure _

theorem loaded_aside (appId : Text) : CallsOnly Aside (runtimeAppIsLoaded appId) :=
  .bind (.perform trivial) fun _ => .pure _

theorem downloadChunks_aside (artifactKey : Text) (totalSize chunkSize : Nat) (dstPath : Text)
    (rounds offset : Nat) :
    CallsOnly Aside (downloadChunks artifactKey totalSize chunkSize dstPath rounds offset) := by
  induction rounds generalizing offset with
  | zero => exact .pure _
  | succ rounds ih =>
      unfold downloadChunks
      split
      · refine .bind (.perform trivial) fun fetched => ?_
        split
        · exact .pure _
        split
        · exact .pure _
        refine .bind (.perform trivial) fun written => ?_
        split
        · exact .pure _
        split
        · exact .pure _
        · exact ih _
      · exact .pure _

theorem downloadArtifact_aside (artifactKey : Text) (totalSize chunkSize : Nat)
    (dstPath : Text) :
    CallsOnly Aside (downloadArtifact config artifactKey totalSize chunkSize dstPath) := by
  have downloads : CallsOnly Aside
      (zenohDownloadArtifact config artifactKey totalSize chunkSize dstPath) := by
    have ends : ∀ ret : Int, CallsOnly Aside (do
        if ret ≠ 0 then
          removeFile config dstPath
          return ret
        else
          return ret : ServiceM Int) := by
      intro ret
      split
      · exact .bind (removeFile_aside _) fun _ => .pure _
      · exact .pure _
    unfold zenohDownloadArtifact
    split
    · exact .pure _
    refine .bind (.perform trivial) fun allocated => ?_
    split
    · exact .pure _
    refine .bind (.perform trivial) fun opened => ?_
    split
    · exact .pure _
    exact .bind (downloadChunks_aside _ _ _ _ _ _) fun ret =>
      .bind (.perform trivial) fun closeRet => ends _
  refine .bind (.perform trivial) fun ret => ?_
  split
  · exact .pure _
  · exact .bind downloads fun _ => .bind (.perform trivial) fun _ => .pure _

theorem stageArtifact_aside (keyexpr : Text) :
    CallsOnly Aside (stageArtifact config request keyexpr) := by
  refine .bind (.edit _) fun ret => ?_
  split
  · exact failStage_aside _ _ _ _ _ _
  refine .bind (.edit _) fun ret => ?_
  split
  · exact .bind (.perform trivial) fun _ => .edit _
  · exact .bind persist_aside fun _ => .bind (.perform trivial) fun _ => .edit _

theorem prepare_aside : CallsOnly Aside (handleUpdatePrepare config request) := by
  refine .bind (.edit _) fun ret => ?_
  split
  · exact .edit _
  dsimp only
  split
  · split
    · exact failStage_aside _ _ _ _ _ _
    refine .bind (downloadArtifact_aside _ _ _ _) fun ret => ?_
    split
    · exact .bind (removeFile_aside _) fun _ => failStage_aside _ _ _ _ _ _
    have whole : ∀ path size, CallsOnly Aside (downloadedWhole path size) := by
      intro path size
      refine .bind (.perform trivial) fun found => ?_
      split
      · exact .pure _
      · exact .pure _
    refine .bind (whole _ _) fun complete => ?_
    split
    · exact .bind (removeFile_aside _) fun _ => failStage_aside _ _ _ _ _ _
    · exact stageArtifact_aside _
  · exact stageArtifact_aside _

theorem verify_aside : CallsOnly Aside (handleUpdateVerify config request) := by
  have accepts : ∀ path size, CallsOnly Aside (acceptArtifact config request path size) := by
    intro path size
    refine .bind (.perform trivial) fun _ => .bind (.edit _) fun ret => ?_
    split
    · exact failStage_aside _ _ _ _ _ _
    refine .bind (.edit _) fun ret => ?_
    split
    · exact failStage_aside _ _ _ _ _ _
    · exact .bind persist_aside fun _ => .bind (.perform trivial) fun _ => .edit _
  refine .bind (.edit _) fun ret => ?_
  split
  · exact .edit _
  refine .bind (.perform trivial) fun found => ?_
  dsimp only
  split
  · exact .bind (.edit _) fun _ => failStage_aside _ _ _ _ _ _
  refine .bind .inspect fun memory => ?_
  split
  · exact .bind (.edit _) fun _ => failStage_aside _ _ _ _ _ _
  · exact accepts _ _

theorem delete_aside : CallsOnly Aside (handleUpdateDelete config request) := by
  have fails : ∀ detail message statusCode,
      CallsOnly Aside (failDelete request.appId.text detail message statusCode) :=
    fun _ _ _ => .bind (.perform trivial) fun _ => .edit _
  have forgets : ∀ path, CallsOnly Aside (forgetApp config request path) := by
    intro path
    refine .bind (.edit _) fun _ => .bind (.edit _) fun _ => .bind (.perform trivial) fun _ => ?_
    refine .bind persist_aside fun saved => ?_
    split
    · exact fails _ _ _
    · exact .bind (.perform trivial) fun _ => .bind (.perform trivial) fun _ => .edit _
  refine .bind (lease_aside _ _) fun held => ?_
  split
  · exact .pure _
  refine .bind (loaded_aside _) fun loaded => ?_
  split
  · exact fails _ _ _
  refine .bind .inspect fun memory => ?_
  dsimp only
  split
  · exact fails _ _ _
  split
  · exact fails _ _ _
  refine .bind (.perform trivial) fun ret => ?_
  split
  · exact fails _ _ _
  · exact forgets _

theorem completeRollback_aside (detail : String) :
    CallsOnly Aside (completeRollback config request detail) := by
  refine .bind (.edit _) fun ret => ?_
  split
  · exact .edit _
  · exact .bind persist_aside fun _ => .bind (.perform trivial) fun _ =>
      .bind (.perform trivial) fun _ => .edit _

theorem failActivate_aside (fallback : String) (ret : Int) :
    CallsOnly Aside (do
      let detail ← runtimeFailureDetail fallback ret
      failActivate request.appId.text detail detail) :=
  .bind ((runtimeFailureDetail_calls fallback ret).weaken housekeeping_aside) fun _ =>
    failStage_aside _ _ _ _ _ _

end Aside

end NeuroLink.ServiceCalls
