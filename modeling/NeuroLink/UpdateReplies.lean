import NeuroLink.UpdateView
import NeuroLink.UpdateWorld

/-!
Every update request is answered once and leaves no stage half done. The
argument follows the entry of the application through its handler: while the
request runs, the managers are those of its start with that one entry rewritten,
and each exit either reports the state the entry was brought to or fails it.
-/

namespace NeuroLink.UpdateReplies

open CText EffectProgram MemoryProgram SlotTable UpdateManager UpdateService

def Transient (state : State) : Prop :=
  state ∈ [.prepareRequested, .preparing, .verifying, .activating, .rollbackPending,
    .rollingBack]

instance (state : State) : Decidable (Transient state) := by
  unfold Transient
  infer_instance

/-- What a request finds and leaves: the seed initialized, one entry for each
application, and no entry in a transient state. -/
structure Settled (memory : Memory) : Prop where
  initialized : memory.seedInitialized = true
  unique : Unique memory.updates
  quiet : ∀ (slot : Fin maxEntries) (entry : Entry),
    memory.updates[slot] = some entry → ¬ Transient entry.state

def InState (state : State) (entry : Option Entry) : Prop := entry.map Entry.state = some state

/-- What a success of the action reports of the application's entry. -/
def Reached (action : Text) (entry : Option Entry) : Prop :=
  if action = lit "prepare" then InState .prepared entry
  else if action = lit "verify" then InState .verified entry
  else if action = lit "activate" then InState .active entry
  else if action = lit "rollback" ∨ action = lit "recover" then InState .rolledBack entry
  else if action = lit "delete" then entry = none
  else False

def Truthful (action : Text) (before after : Option Entry) : Answer → Prop
  | .accepted _ _ => Reached action after
  | .error _ _ => action ≠ lit "delete" → after = before ∨ InState .failed after

/-- The end of a request: one more answer, and the entry as the answer says. -/
structure Ended (before : Memory) (appId : Text) (reached : Option Entry → Prop)
    (missed : Option Entry → Prop) (after : Memory) : Prop where
  settled : Settled after
  replied : ∃ answer, after.replies = before.replies ++ [answer] ∧
    match answer with
    | .accepted _ _ => reached (entryFor after.updates appId)
    | .error _ _ => missed (entryFor after.updates appId)

/-- A request under way: nothing is answered yet, and only the entry of the
application has changed. -/
structure During (before : Memory) (appId : Text) (next : Option Entry) (memory : Memory) :
    Prop where
  initialized : memory.seedInitialized = true
  rewrites : Rewrites appId next before.updates memory.updates
  replies : memory.replies = before.replies

def KeptOrFailed (before : Memory) (appId : Text) (entry : Option Entry) : Prop :=
  entry = entryFor before.updates appId ∨ InState .failed entry

theorem settled_entryOf {memory : Memory} (settled : Settled memory) {name : Text}
    {entry : Entry} (present : entryOf memory.updates name = some entry) :
    ¬ Transient entry.state := by
  obtain ⟨slot, found⟩ := lookup_some present
  exact settled.quiet slot entry (find_content found)

namespace During

variable {before memory : Memory} {appId : Text} {next : Option Entry}
  {reached missed : Option Entry → Prop}

theorem start (settled : Settled before) :
    During before appId (entryOf before.updates appId) before :=
  ⟨settled.initialized, .refl settled.unique, rfl⟩

theorem stored (during : During before appId next memory) (store : ArtifactStore.Store) :
    During before appId next { memory with artifacts := store } :=
  ⟨during.initialized, during.rewrites, during.replies⟩

theorem own (during : During before appId next memory) :
    entryOf memory.updates appId = next :=
  during.rewrites.own

theorem ended (during : During before appId next memory) (settled : Settled before)
    (rests : ∀ entry, next = some entry → ¬ Transient entry.state) (reply : Answer)
    (truth : match reply with
      | .accepted _ _ => reached (entryFor memory.updates appId)
      | .error _ _ => missed (entryFor memory.updates appId)) :
    Ended before appId reached missed { memory with replies := memory.replies ++ [reply] } := by
  refine ⟨⟨during.initialized, during.rewrites.unique, fun slot entry there => ?_⟩,
    reply, by rw [← during.replies], truth⟩
  have stored := entryOf_stored during.rewrites.unique there
  by_cases same : entry.id = appId
  · rw [same, during.own] at stored
    exact rests entry stored
  · rw [during.rewrites.other same] at stored
    exact settled_entryOf settled stored

end During

section Specs

variable {config : Config} {request : Request} {before memory : Memory} {appId : Text}
  {next : Option Entry} {reached missed : Option Entry → Prop}
  {post : Unit → Memory → Prop}

theorem updates_turns {later : Option Entry} {change : Manager → Int × Manager}
    {rest : Int → ServiceM Unit} (during : During before appId next memory)
    (rewrites : Rewrites appId later memory.updates (change memory.updates).2)
    (continues : ∀ ret after, During before appId later after → Ensures post (rest ret) after) :
    Ensures post (updates change >>= rest) memory := by
  have first : Ensures (fun _ after => During before appId later after)
      (updates change) memory :=
    ⟨during.initialized, during.rewrites.trans rewrites, during.replies⟩
  exact first.seq continues

/-- A manager step that goes through moves the entry. -/
theorem updates_moves {later : Option Entry} {change : Manager → Int × Manager}
    {rest : Int → ServiceM Unit} (during : During before appId next memory)
    (moves : (change memory.updates).1 = 0 ∧
      Rewrites appId later memory.updates (change memory.updates).2)
    (continues : ∀ after, During before appId later after → Ensures post (rest 0) after) :
    Ensures post (updates change >>= rest) memory := by
  have first : Ensures (fun ret after => ret = 0 ∧ During before appId later after)
      (updates change) memory :=
    ⟨moves.1, during.initialized, during.rewrites.trans moves.2, during.replies⟩
  refine first.seq fun ret after done => ?_
  rw [done.1]
  exact continues after done.2

theorem updates_refused {change : Manager → Int × Manager} {rest : Int → ServiceM Unit}
    (failed : (change memory.updates).1 ≠ 0)
    (same : (change memory.updates).2 = memory.updates)
    (continues : ∀ ret, ret ≠ 0 → Ensures post (rest ret) memory) :
    Ensures post (updates change >>= rest) memory := by
  have first : Ensures (fun ret after => ret ≠ 0 ∧ after = memory) (updates change) memory := by
    refine ⟨failed, ?_⟩
    change { memory with updates := (change memory.updates).2 } = memory
    rw [same]
  refine first.seq fun ret after done => ?_
  rw [done.2]
  exact continues ret done.1

theorem artifacts_during {change : ArtifactStore.Store → Int × ArtifactStore.Store}
    (during : During before appId next memory) :
    Ensures (fun _ after => During before appId next after) (artifacts change) memory :=
  during.stored _

end Specs

theorem perform_then {Result : Type} {post : Result → Memory → Prop} {memory : Memory}
    (effect : Effect) {rest : EffectReply effect → ServiceM Result}
    (continues : ∀ reply, Ensures post (rest reply) memory) :
    Ensures post (perform effect >>= rest) memory :=
  .bind (.perform continues)

def Outward {Result : Type} (service : ServiceM Result) : Prop :=
  ∀ memory, Ensures (fun _ after => after = memory) service memory

namespace Outward

variable {First Result : Type} {service : ServiceM First} {rest : First → ServiceM Result}

theorem pure (result : Result) : Outward (Pure.pure result) := fun _ => rfl

theorem call (effect : Effect) : Outward (perform effect) := fun _ _ => rfl

theorem bind (first : Outward service) (continues : ∀ result, Outward (rest result)) :
    Outward (service >>= rest) := by
  refine fun memory => (first memory).seq fun result after same => ?_
  subst same
  exact continues result after

theorem andThen {post : Result → Memory → Prop} {memory : Memory} (outward : Outward service)
    (continues : ∀ result, Ensures post (rest result) memory) :
    Ensures post (service >>= rest) memory := by
  refine (outward memory).seq fun result after same => ?_
  subst same
  exact continues result

end Outward

theorem removeFile_outward (config : Config) (path : Text) :
    Outward (removeFile config path) := by
  unfold removeFile
  split
  · exact .bind (.call _) fun _ => .pure ()
  · exact .pure ()

theorem downloadChunks_outward (artifactKey : Text) (totalSize chunkSize : Nat)
    (dstPath : Text) (rounds offset : Nat) :
    Outward (downloadChunks artifactKey totalSize chunkSize dstPath rounds offset) := by
  induction rounds generalizing offset with
  | zero => exact .pure 0
  | succ rounds ih =>
      unfold downloadChunks
      split
      · refine .bind (.call _) fun fetched => ?_
        cases fetched with
        | error error => exact .pure error
        | ok chunk =>
            dsimp only
            split
            · exact .pure _
            · refine .bind (.call _) fun written => ?_
              split
              · exact .pure _
              · split
                · exact .pure _
                · exact ih _
      · exact .pure 0

theorem downloadArtifact_outward (config : Config) (artifactKey : Text)
    (totalSize chunkSize : Nat) (dstPath : Text) :
    Outward (downloadArtifact config artifactKey totalSize chunkSize dstPath) := by
  have transfer : Outward
      (zenohDownloadArtifact config artifactKey totalSize chunkSize dstPath) := by
    unfold zenohDownloadArtifact
    split
    · exact .pure _
    · refine .bind (.call _) fun allocated => ?_
      split
      · exact .pure _
      · refine .bind (.call _) fun opened => ?_
        split
        · exact .pure _
        · refine .bind (downloadChunks_outward _ _ _ _ _ _) fun ret =>
            .bind (.call _) fun closed => ?_
          dsimp only
          generalize (if ret = 0 ∧ closed < 0 then closed else ret) = outcome
          split
          · exact .bind (removeFile_outward _ _) fun _ => .pure _
          · exact .pure _
  refine .bind (.call _) fun opened => ?_
  split
  · exact .pure _
  · exact .bind transfer fun ret => .bind (.call _) fun _ => .pure ret

theorem persist_keeps {memory : Memory} (initialized : memory.seedInitialized = true) :
    Ensures (fun _ after => after = memory) persistRecoverySeedSnapshot memory := by
  have ready : Ensures (fun ret after => ret = 0 ∧ after = memory)
      ensureRecoverySeedInitialized memory := by
    refine .bind (.inspect ?_)
    rw [if_pos initialized]
    exact .pure ⟨rfl, rfl⟩
  refine ready.seq fun ret after done => ?_
  rw [done.1, done.2, if_neg (by simp)]
  refine .bind (.inspect ?_)
  cases SeedSnapshot.buildSnapshot memory.updates memory.artifacts with
  | error error => exact .pure rfl
  | ok snapshot => exact .perform fun _ => rfl

section Ends

variable {config : Config} {request : Request} {before memory : Memory} {appId : Text}
  {reached missed : Option Entry → Prop}

theorem replyError_ends {next : Option Entry} (during : During before appId next memory)
    (settled : Settled before) (rests : ∀ entry, next = some entry → ¬ Transient entry.state)
    (message : String) (statusCode : Nat) (truth : missed (entryFor memory.updates appId)) :
    Ensures (fun _ after => Ended before appId reached missed after)
      (replyError message statusCode) memory :=
  .edit (during.ended settled rests _ truth)

theorem refusal_ends {next : Option Entry} (during : During before appId next memory)
    (settled : Settled before) (unmoved : next = entryOf before.updates appId)
    (kept : missed (entryFor before.updates appId)) (message : String) (statusCode : Nat) :
    Ensures (fun _ after => Ended before appId reached missed after)
      (replyError message statusCode) memory := by
  refine replyError_ends during settled (fun entry same => ?_) message statusCode ?_
  · exact settled_entryOf settled (unmoved.symm.trans same)
  · have same : entryOf memory.updates appId = entryOf before.updates appId :=
      during.own.trans unmoved
    simp only [entryFor, entryOf] at same kept ⊢
    rw [same]
    exact kept

theorem failed_ends {entry : Entry} (during : During before appId (some entry) memory)
    (settled : Settled before) (named : appId ≠ []) (failed : entry.state = .failed)
    (message : Text) (statusCode : Nat) :
    Ensures (fun _ after => Ended before appId reached (KeptOrFailed before appId) after)
      (answer (.error message statusCode)) memory := by
  refine .edit (during.ended settled (fun other same => ?_) _ (.inr ?_))
  · cases same
    simp [failed, Transient]
  · simp [entryFor_entryOf named, during.own, InState, failed]

theorem failStage_ends {entry failed : Entry} {fail : Manager → Int × Manager}
    (during : During before appId (some entry) memory) (settled : Settled before)
    (named : appId ≠ []) (fails : (fail memory.updates).1 = 0 ∧
      Rewrites appId (some failed) memory.updates (fail memory.updates).2)
    (state : failed.state = .failed) (stage : String) (detail message : Text)
    (statusCode : Nat) :
    Ensures (fun _ after => Ended before appId reached (KeptOrFailed before appId) after)
      (failStage fail appId stage detail message statusCode) memory := by
  refine updates_moves during fails fun after during => ?_
  refine (persist_keeps during.initialized).seq fun _ saved same => ?_
  subst same
  exact perform_then (.publishUpdateEvent ..) fun _ =>
    failed_ends during settled named state _ _

theorem accepted_ends {entry : Entry} (state : State)
    (during : During before appId (some entry) memory) (settled : Settled before)
    (named : appId ≠ []) (reports : entry.state = state) (rests : ¬ Transient state)
    (action : Text) (reply : UpdateReply) :
    Ensures (fun _ after => Ended before appId (InState state) missed after)
      (answer (.accepted action reply)) memory := by
  refine .edit (during.ended settled (fun other same => ?_) _ ?_)
  · cases same
    rw [reports]
    exact rests
  · simp [entryFor_entryOf named, during.own, InState, reports]

/-- The lease check answers for itself when it refuses. -/
theorem lease_then (settled : Settled before) (kept : missed (entryFor before.updates appId))
    (resource : Text) (metadata : RequestMetadata) {rest : ServiceM Unit}
    (continues : Ensures (fun _ after => Ended before appId reached missed after) rest before) :
    Ensures (fun _ after => Ended before appId reached missed after)
      (requireResourceLeaseOrReply resource metadata >>= fun held =>
        if ¬ held then pure () else rest) before := by
  have denied : ∀ (message : String) (statusCode : Nat),
      Ensures (fun held after => held = false ∧ Ended before appId reached missed after)
        (do replyError message statusCode; return false) before := fun message statusCode =>
    (refusal_ends (.start settled) settled rfl kept message statusCode).seq
      fun _ _ ended => .pure ⟨rfl, ended⟩
  have checked : Ensures (fun held after => held = true ∧ after = before ∨
        held = false ∧ Ended before appId reached missed after)
      (requireResourceLeaseOrReply resource metadata) before := by
    refine perform_then (.requireResource ..) fun ret => ?_
    split
    · exact (denied "lease not held" 403).weaken fun _ _ => .inr
    · split
      · exact (denied "lease holder mismatch" 403).weaken fun _ _ => .inr
      · split
        · exact (denied "lease check failed" 500).weaken fun _ _ => .inr
        · exact .pure (.inl ⟨rfl, rfl⟩)
  refine checked.seq fun held after outcome => ?_
  rcases outcome with ⟨rfl, rfl⟩ | ⟨rfl, ended⟩
  · simpa using continues
  · rw [if_pos (by simp)]
    exact .pure ended

end Ends

section Prepare

variable {config : Config} {request : Request} {before : Memory}

theorem short_id (request : Request) : request.appId.text.length ≤ 31 :=
  Nat.le_of_lt_succ request.appId.fits

theorem failPrepare_ends {memory : Memory} {appId : Text} {entry : Entry}
    (during : During before appId (some entry) memory) (settled : Settled before)
    (named : appId ≠ []) (preparing : entry.state = .preparing) (reason message : String)
    (statusCode : Nat) :
    Ensures (fun _ after =>
        Ended before appId (InState .prepared) (KeptOrFailed before appId) after)
      (failPrepare appId reason message statusCode) memory :=
  failStage_ends during settled named
    (amend_accepts during.rewrites.unique named during.own
      (onlyFrom_accepts (by simp [preparing])) rfl) rfl _ _ _ _

theorem stageArtifact_ends {memory : Memory} {entry : Entry}
    (during : During before request.appId.text (some entry) memory) (settled : Settled before)
    (named : request.appId.text ≠ []) (preparing : entry.state = .preparing) (keyexpr : Text) :
    Ensures (fun _ after => Ended before request.appId.text (InState .prepared)
        (KeptOrFailed before request.appId.text) after)
      (stageArtifact config request keyexpr) memory := by
  unfold stageArtifact
  refine (artifacts_during during).seq fun ret staged during => ?_
  split
  · exact failPrepare_ends during settled named preparing _ _ _
  · refine updates_moves during (amend_accepts during.rewrites.unique named during.own
      (onlyFrom_accepts (by simp [preparing])) rfl) fun completed during => ?_
    rw [if_neg (by simp)]
    refine (persist_keeps during.initialized).seq fun _ saved same => ?_
    subst same
    exact perform_then (.publishUpdateEvent ..) fun _ =>
      accepted_ends .prepared during settled named rfl (by decide) _ _

theorem downloadedWhole_outward (path : Text) (size : Nat) :
    Outward (downloadedWhole path size) := by
  refine .bind (.call _) fun found => ?_
  cases found with
  | error error => exact .pure false
  | ok ent => exact .pure _

theorem handleUpdatePrepare_ends (settled : Settled before) :
    Ensures (fun _ after => Ended before request.appId.text (InState .prepared)
        (KeptOrFailed before request.appId.text) after)
      (handleUpdatePrepare config request) before := by
  unfold handleUpdatePrepare
  rcases prepareBegin_effect settled.unique (short_id request) with
    ⟨failed, same⟩ | ⟨entry, named, preparing, _, admitted⟩
  · refine updates_refused failed same fun ret refused => ?_
    rw [if_pos refused]
    exact refusal_ends (.start settled) settled rfl (.inl rfl) _ _
  · refine updates_moves (.start settled) admitted fun begun during => ?_
    rw [if_neg (by simp)]
    dsimp only
    split
    · split
      · exact failPrepare_ends during settled named preparing _ _ _
      · refine (downloadArtifact_outward _ _ _ _ _).andThen fun ret => ?_
        split
        · exact (removeFile_outward _ _).andThen fun _ =>
            failPrepare_ends during settled named preparing _ _ _
        · refine (downloadedWhole_outward _ _).andThen fun whole => ?_
          split
          · exact (removeFile_outward _ _).andThen fun _ =>
              failPrepare_ends during settled named preparing _ _ _
          · exact stageArtifact_ends during settled named preparing _
    · exact stageArtifact_ends during settled named preparing _

end Prepare

theorem begin_then {refuses : Entry → Option Int} {edit : Entry → Entry} {before : Memory}
    {appId : Text} {rest : Int → ServiceM Unit} {post : Unit → Memory → Prop}
    (settled : Settled before)
    (refusalError : ∀ entry error, refuses entry = some error → error ≠ 0)
    (kept : ∀ entry, (edit entry).appId = entry.appId)
    (refused : ∀ ret, ret ≠ 0 → Ensures post (rest ret) before)
    (started : ∀ entry after, appId ≠ [] →
      During before appId (some (edit entry)) after → Ensures post (rest 0) after) :
    Ensures post
      (updates (fun manager => amend manager appId (-Errno.eperm) refuses edit) >>= rest)
      before := by
  have missing : -Errno.eperm ≠ 0 := by decide
  rcases amend_effect settled.unique missing refusalError kept
    with ⟨failed, same⟩ | ⟨entry, named, _, _, moves⟩
  · exact updates_refused failed same refused
  · exact updates_moves (.start settled) moves fun after during =>
      started entry after named during

section Verify

variable {config : Config} {request : Request} {before memory : Memory}

theorem failVerify_ends {appId : Text} {entry : Entry}
    (during : During before appId (some entry) memory) (settled : Settled before)
    (named : appId ≠ []) (verifying : entry.state = .verifying)
    (reason detail message : String) (statusCode : Nat) :
    Ensures (fun _ after =>
        Ended before appId (InState .verified) (KeptOrFailed before appId) after)
      (failVerify appId reason detail message statusCode) memory :=
  failStage_ends during settled named
    (amend_accepts during.rewrites.unique named during.own
      (onlyFrom_accepts (by simp [verifying])) rfl) rfl _ _ _ _

theorem acceptArtifact_ends {entry : Entry}
    (during : During before request.appId.text (some entry) memory) (settled : Settled before)
    (named : request.appId.text ≠ []) (verifying : entry.state = .verifying) (path : Text)
    (size : Nat) :
    Ensures (fun _ after => Ended before request.appId.text (InState .verified)
        (KeptOrFailed before request.appId.text) after)
      (acceptArtifact config request path size) memory := by
  unfold acceptArtifact
  refine perform_then (.mark ..) fun _ => ?_
  refine (artifacts_during during).seq fun ret marked during => ?_
  split
  · exact failVerify_ends during settled named verifying _ _ _ _
  · refine updates_moves during (amend_accepts during.rewrites.unique named during.own
      (onlyFrom_accepts (by simp [verifying])) rfl) fun completed during => ?_
    rw [if_neg (by simp)]
    refine (persist_keeps during.initialized).seq fun _ saved same => ?_
    subst same
    exact perform_then (.publishUpdateEvent ..) fun _ =>
      accepted_ends .verified during settled named rfl (by decide) _ _

theorem handleUpdateVerify_ends (settled : Settled before) :
    Ensures (fun _ after => Ended before request.appId.text (InState .verified)
        (KeptOrFailed before request.appId.text) after)
      (handleUpdateVerify config request) before := by
  unfold handleUpdateVerify
  refine begin_then settled (onlyFrom_error _) (fun _ => rfl) (fun ret failed => ?_)
    fun entry begun named during => ?_
  · rw [if_pos failed]
    exact refusal_ends (.start settled) settled rfl (.inl rfl) _ _
  · rw [if_neg (by simp)]
    refine perform_then (.file (.stat _)) fun found => ?_
    dsimp only
    split
    · exact (artifacts_during during).seq fun _ _ during =>
        failVerify_ends during settled named rfl _ _ _ _
    · refine .bind (.inspect ?_)
      split
      · exact (artifacts_during during).seq fun _ _ during =>
          failVerify_ends during settled named rfl _ _ _ _
      · exact acceptArtifact_ends during settled named rfl _ _

end Verify

section Activate

variable {config : Config} {request : Request} {before memory : Memory}

theorem failActivate_ends {appId : Text} {entry : Entry}
    (during : During before appId (some entry) memory) (settled : Settled before)
    (named : appId ≠ []) (activating : entry.state = .activating) (detail message : Text) :
    Ensures (fun _ after =>
        Ended before appId (InState .active) (KeptOrFailed before appId) after)
      (failActivate appId detail message) memory :=
  failStage_ends during settled named
    (amend_accepts during.rewrites.unique named during.own
      (onlyFrom_accepts (by simp [activating])) rfl) rfl _ _ _ _

theorem recordActivation_ends {entry : Entry}
    (during : During before request.appId.text (some entry) memory) (settled : Settled before)
    (named : request.appId.text ≠ []) (activating : entry.state = .activating) (path : Text)
    (located : path ≠ []) :
    Ensures (fun _ after => Ended before request.appId.text (InState .active)
        (KeptOrFailed before request.appId.text) after)
      (recordActivation config request path) memory := by
  unfold recordActivation
  refine (artifacts_during during).seq fun _ marked during => ?_
  refine updates_moves during (amend_accepts during.rewrites.unique named during.own
    (onlyFrom_accepts (by simp [activating])) rfl) fun completed during => ?_
  rw [if_neg (by simp)]
  refine perform_then (.mark ..) fun _ => ?_
  refine updates_moves during (recordStableRef_accepts during.rewrites.unique named during.own
    located) fun recorded during => ?_
  refine (persist_keeps during.initialized).seq fun _ saved same => ?_
  subst same
  exact perform_then (.registerAppCallbackCommand _) fun _ =>
    perform_then (.publishUpdateEvent ..) fun _ => perform_then .publishStateEvent fun _ =>
      accepted_ends .active during settled named rfl (by decide) _ _

theorem runtimeFailureDetail_outward (fallback : String) (ret : Int) :
    Outward (runtimeFailureDetail fallback ret) :=
  .bind (.call _) fun _ => .pure _

theorem launchArtifact_ends {entry : Entry}
    (during : During before request.appId.text (some entry) memory) (settled : Settled before)
    (named : request.appId.text ≠ []) (activating : entry.state = .activating) :
    Ensures (fun _ after => Ended before request.appId.text (InState .active)
        (KeptOrFailed before request.appId.text) after)
      (launchArtifact config request) memory := by
  unfold launchArtifact
  refine perform_then (.runtimeLoad ..) fun ret => ?_
  split
  · exact (runtimeFailureDetail_outward _ _).andThen fun _ =>
      failActivate_ends during settled named activating _ _
  · refine perform_then (.runtimeStart ..) fun ret => ?_
    split
    · exact (runtimeFailureDetail_outward _ _).andThen fun _ =>
        failActivate_ends during settled named activating _ _
    · exact recordActivation_ends during settled named activating _
        (buildAppPath_nonempty config _)

theorem runtimeAppIsLoaded_outward (appId : Text) : Outward (runtimeAppIsLoaded appId) :=
  .bind (.call _) fun _ => .pure _

theorem handleUpdateActivate_ends (settled : Settled before) :
    Ensures (fun _ after => Ended before request.appId.text (InState .active)
        (KeptOrFailed before request.appId.text) after)
      (handleUpdateActivate config request) before := by
  unfold handleUpdateActivate
  refine lease_then settled (.inl rfl) _ _ ?_
  refine begin_then settled (onlyFrom_error _) (fun _ => rfl) (fun ret failed => ?_)
    fun entry begun named during => ?_
  · rw [if_pos failed]
    exact refusal_ends (.start settled) settled rfl (.inl rfl) _ _
  · rw [if_neg (by simp)]
    refine (runtimeAppIsLoaded_outward _).andThen fun loaded => ?_
    split
    · refine perform_then (.runtimeUnload _) fun ret => ?_
      split
      · exact failActivate_ends during settled named rfl _ _
      · exact launchArtifact_ends during settled named rfl
    · exact launchArtifact_ends during settled named rfl

end Activate

section Rollback

variable {config : Config} {request : Request} {before memory : Memory}

/-- A rollback that fails from one of the two states it passes through. -/
theorem failRollback_ends {appId : Text} {entry : Entry} {reached : Option Entry → Prop}
    (during : During before appId (some entry) memory) (settled : Settled before)
    (named : appId ≠ []) (rolling : entry.state = .rollingBack)
    (reason detail message : String) :
    Ensures (fun _ after => Ended before appId reached (KeptOrFailed before appId) after)
      (failRollback appId reason detail message) memory :=
  failStage_ends during settled named
    (amend_accepts during.rewrites.unique named during.own
      (onlyFrom_accepts (by simp [rolling])) rfl) rfl _ _ _ _

theorem completeRollback_ends {entry : Entry} {missed : Option Entry → Prop}
    (during : During before request.appId.text (some entry) memory) (settled : Settled before)
    (named : request.appId.text ≠ []) (rolling : entry.state = .rollingBack)
    (detail : String) :
    Ensures (fun _ after => Ended before request.appId.text (InState .rolledBack) missed after)
      (completeRollback config request detail) memory := by
  unfold completeRollback
  refine updates_moves during (amend_accepts during.rewrites.unique named during.own
    (onlyFrom_accepts (by simp [rolling])) rfl) fun completed during => ?_
  rw [if_neg (by simp)]
  refine (persist_keeps during.initialized).seq fun _ saved same => ?_
  subst same
  exact perform_then (.publishUpdateEvent ..) fun _ => perform_then .publishStateEvent fun _ =>
    accepted_ends .rolledBack during settled named rfl (by decide) _ _

theorem restoreStable_outward (appId stableRef : Text) :
    Outward (restoreStable appId stableRef) := by
  refine .bind (.call _) fun ret => ?_
  split
  · exact .call _
  · exact .pure _

theorem rollBack_ends {entry : Entry}
    (during : During before request.appId.text (some entry) memory) (settled : Settled before)
    (named : request.appId.text ≠ []) (rolling : entry.state = .rollingBack) :
    Ensures (fun _ after => Ended before request.appId.text (InState .rolledBack)
        (KeptOrFailed before request.appId.text) after)
      (rollBack config request) memory := by
  unfold rollBack
  refine perform_then (.runtimeStop _) fun _ => perform_then (.runtimeUnload _) fun ret => ?_
  split
  · exact failRollback_ends during settled named rolling _ _ _
  · refine perform_then (.removeAppCommands _) fun _ => .bind (.inspect ?_)
    dsimp only
    split
    · refine (restoreStable_outward _ _).andThen fun ret => ?_
      split
      · exact failRollback_ends during settled named rolling _ _ _
      · refine perform_then (.registerAppCallbackCommand _) fun _ => ?_
        exact (artifacts_during during).seq fun _ _ during =>
          completeRollback_ends during settled named rolling _
    · exact (artifacts_during during).seq fun _ _ during =>
        completeRollback_ends during settled named rolling _

theorem handleUpdateRollback_ends (settled : Settled before) :
    Ensures (fun _ after => Ended before request.appId.text (InState .rolledBack)
        (KeptOrFailed before request.appId.text) after)
      (handleUpdateRollback config request) before := by
  unfold handleUpdateRollback
  refine lease_then settled (.inl rfl) _ _ ?_
  refine begin_then settled rollbackRefuses_error (fun _ => rfl) (fun ret failed => ?_)
    fun entry begun named during => ?_
  · rw [if_pos failed]
    exact refusal_ends (.start settled) settled rfl (.inl rfl) _ _
  · rw [if_neg (by simp)]
    refine (persist_keeps during.initialized).seq fun saved _ same => ?_
    subst same
    split
    · refine updates_moves during (amend_accepts during.rewrites.unique named during.own
        (onlyFrom_accepts (by simp)) rfl) fun failed during => ?_
      refine perform_then (.publishUpdateEvent ..) fun _ => ?_
      exact failed_ends during settled named rfl _ _
    · refine updates_moves during (amend_accepts during.rewrites.unique named during.own
        (onlyFrom_accepts (by simp)) rfl) fun marked during => ?_
      rw [if_neg (by simp)]
      exact rollBack_ends during settled named rfl

end Rollback

section Delete

variable {config : Config} {request : Request} {before memory : Memory}

def KeptOrGone (before : Memory) (appId : Text) (entry : Option Entry) : Prop :=
  entry = entryFor before.updates appId ∨ entry = none

theorem failDelete_keeps (settled : Settled before) (detail message : String)
    (statusCode : Nat) :
    Ensures (fun _ after => Ended before request.appId.text (· = none)
        (KeptOrGone before request.appId.text) after)
      (failDelete request.appId.text detail message statusCode) before :=
  perform_then (.publishUpdateEvent ..) fun _ =>
    refusal_ends (.start settled) settled rfl (.inl rfl) _ _

theorem forgetApp_ends (settled : Settled before) (path : Text)
    (named : request.appId.text ≠ []) :
    Ensures (fun _ after => Ended before request.appId.text (· = none)
        (KeptOrGone before request.appId.text) after)
      (forgetApp config request path) before := by
  unfold forgetApp
  have untouched : During before request.appId.text _ before := .start settled
  refine (artifacts_during untouched).seq fun _ removed during => ?_
  refine updates_turns during (remove_effect during.rewrites.unique named)
    fun _ gone during => ?_
  have absent : entryFor gone.updates request.appId.text = none :=
    (entryFor_entryOf named).trans during.own
  refine perform_then (.removeAppCommands _) fun _ => ?_
  refine (persist_keeps during.initialized).seq fun saved _ same => ?_
  subst same
  split
  · exact perform_then (.publishUpdateEvent ..) fun _ =>
      replyError_ends during settled (by simp) _ _ (.inr absent)
  · exact perform_then (.publishUpdateEvent ..) fun _ => perform_then .publishStateEvent fun _ =>
      .edit (during.ended settled (by simp) _ absent)

theorem handleUpdateDelete_ends (settled : Settled before) :
    Ensures (fun _ after => Ended before request.appId.text (· = none)
        (KeptOrGone before request.appId.text) after)
      (handleUpdateDelete config request) before := by
  unfold handleUpdateDelete
  refine lease_then settled (.inl rfl) _ _ ?_
  refine (runtimeAppIsLoaded_outward _).andThen fun loaded => ?_
  split
  · exact failDelete_keeps settled _ _ _
  · refine .bind (.inspect ?_)
    dsimp only
    split
    · exact failDelete_keeps settled _ _ _
    · split
      · exact failDelete_keeps settled _ _ _
      · next present =>
        have named : request.appId.text ≠ [] := fun empty =>
          present (by simp [ArtifactStore.get, empty])
        refine perform_then (.file (.unlink _)) fun ret => ?_
        split
        · exact failDelete_keeps settled _ _ _
        · exact forgetApp_ends settled _ named

end Delete

/-- A request that is over: one answer more, and a true one. -/
def Answered (request : Request) (before after : Memory) : Prop :=
  Settled after ∧ ∃ answer, after.replies = before.replies ++ [answer] ∧
    Truthful request.action (entryFor before.updates request.appId.text)
      (entryFor after.updates request.appId.text) answer

section Dispatch

variable {config : Config} {request : Request} {before after : Memory}
  {reached missed : Option Entry → Prop}

theorem Ended.answered (ended : Ended before request.appId.text reached missed after)
    (success : ∀ entry action reply, reached entry → Truthful request.action
      (entryFor before.updates request.appId.text) entry (.accepted action reply))
    (failure : ∀ entry message statusCode, missed entry → Truthful request.action
      (entryFor before.updates request.appId.text) entry (.error message statusCode)) :
    Answered request before after := by
  obtain ⟨answer, replies, truth⟩ := ended.replied
  refine ⟨ended.settled, answer, replies, ?_⟩
  cases answer with
  | accepted action reply => exact success _ action reply truth
  | error message statusCode => exact failure _ message statusCode truth

/-- An error is truthful when the entry is as before or failed, whatever the action. -/
theorem kept_truthful (entry : Option Entry) (message : Text) (statusCode : Nat)
    (kept : KeptOrFailed before request.appId.text entry) :
    Truthful request.action (entryFor before.updates request.appId.text) entry
      (.error message statusCode) :=
  fun _ => kept

/-- Each action reaches its own handler, and a success reports the state of that
action alone. -/
theorem handleAction_answered (settled : Settled before) :
    Ensures (fun _ after => Answered request before after)
      (handleAction config request) before := by
  unfold handleAction
  -- the dispatcher asks for one action after the other; each handler ends the request
  by_cases prepare : request.action = lit "prepare"
  · rw [if_pos prepare]
    refine (handleUpdatePrepare_ends settled).weaken fun _ after ended =>
      ended.answered (fun entry _ _ reached => ?_) kept_truthful
    simpa only [Truthful, Reached, if_pos prepare] using reached
  rw [if_neg prepare]
  by_cases verify : request.action = lit "verify"
  · rw [if_pos verify]
    refine (handleUpdateVerify_ends settled).weaken fun _ after ended =>
      ended.answered (fun entry _ _ reached => ?_) kept_truthful
    simpa only [Truthful, Reached, if_neg prepare, if_pos verify] using reached
  rw [if_neg verify]
  by_cases activate : request.action = lit "activate"
  · rw [if_pos activate]
    refine (handleUpdateActivate_ends settled).weaken fun _ after ended =>
      ended.answered (fun entry _ _ reached => ?_) kept_truthful
    simpa only [Truthful, Reached, if_neg prepare, if_neg verify, if_pos activate] using reached
  rw [if_neg activate]
  by_cases rollback : request.action = lit "rollback" ∨ request.action = lit "recover"
  · rw [if_pos rollback]
    refine (handleUpdateRollback_ends settled).weaken fun _ after ended =>
      ended.answered (fun entry _ _ reached => ?_) kept_truthful
    simpa only [Truthful, Reached, if_neg prepare, if_neg verify, if_neg activate,
      if_pos rollback] using reached
  rw [if_neg rollback]
  by_cases delete : request.action = lit "delete"
  · rw [if_pos delete]
    refine (handleUpdateDelete_ends settled).weaken fun _ after ended =>
      ended.answered (fun entry _ _ reached => ?_)
        (fun _ _ _ _ apart => absurd delete apart)
    simpa only [Truthful, Reached, if_neg prepare, if_neg verify, if_neg activate,
      if_neg rollback, if_pos delete] using reached
  rw [if_neg delete]
  -- no handler is called for any other action
  have refused : Ensures (fun _ after => Ended before request.appId.text (fun _ => False)
      (KeptOrFailed before request.appId.text) after)
      (replyError "unsupported update path" 404) before :=
    refusal_ends (.start settled) settled rfl (.inl rfl) _ _
  exact refused.weaken fun _ after ended =>
    ended.answered (fun _ _ _ never => never.elim) kept_truthful

end Dispatch

/-- Whatever the environment answers, a request on a settled service is answered
exactly once, leaves the service settled, and the answer tells what became of the
application's entry. -/
theorem handleAction_truthful {World Outcome : Type} [Inhabited Outcome]
    (machine : Machine Effect EffectReply World Outcome) (outcomes : List Outcome)
    (config : Config) (request : Request) (memory : Memory) (world : World)
    (settled : Settled memory) :
    let after := (run machine outcomes (handleAction config request memory) world).1.2
    Settled after ∧ ∃ answer, after.replies = memory.replies ++ [answer] ∧
      Truthful request.action (entryFor memory.updates request.appId.text)
        (entryFor after.updates request.appId.text) answer :=
  (handleAction_answered settled).run machine outcomes world

theorem settled_init : Settled { UpdateWorld.booted with seedInitialized := true } where
  initialized := rfl
  unique := distinct_empty
  quiet := fun slot entry there => by
    have vacant : UpdateManager.init[slot] = none := getElem_empty slot
    rw [show UpdateManager.init[slot] = some entry from there] at vacant
    cases vacant

theorem demoPrepare_truthful :
    let memory : Memory := { UpdateWorld.booted with seedInitialized := true }
    let request := UpdateWorld.demoRequest "prepare" "\x7b\"artifact_key\":\"a\",\"size\":2\x7d"
    let after := (run UpdateWorld.machine [] (handleAction UpdateWorld.demoConfig request memory)
      UpdateWorld.demoDevice.world).1.2
    Settled after ∧ ∃ answer, after.replies = memory.replies ++ [answer] ∧
      Truthful request.action (entryFor memory.updates request.appId.text)
        (entryFor after.updates request.appId.text) answer :=
  handleAction_truthful UpdateWorld.machine [] _ _ _ _ settled_init

end NeuroLink.UpdateReplies
