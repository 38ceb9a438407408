import NeuroLink.CallTrace
import NeuroLink.UpdateWorld

/-!
The download of an artifact, from the provider of the CLI to the file of the unit. The unit
asks for one chunk at a time, from where its file ends, and takes the file away again when
anything goes wrong.
-/

namespace NeuroLink.ArtifactDownload

open CText Errno EffectProgram FileSystem MemoryProgram UpdateService UpdateWorld

/-! The provider. The request is the dictionary the query carries. -/

structure ChunkRequest where
  offset : Option Int
  chunkSize : Option Int

/-- `artifact_route`. -/
def artifactRoute (node appId : Text) : Text := lit "neuro/artifact/" ++ node ++ lit "/" ++ appId

structure ArtifactProvider where
  keyexpr : Text
  filePath : Text
  chunkSize : Int

/-- What the prepare request is extended with. -/
structure Announced where
  transport : Text
  artifactKey : Text
  size : Nat
  chunkSize : Int

/-- `build_prepare_payload` on the files of the CLI's machine, with the path it has made
absolute. -/
def buildPreparePayload (files : Text → Option (List UInt8)) (node appId filePath : Text)
    (chunkSize : Int) : Except Text (Announced × ArtifactProvider) :=
  match files filePath with
  | none => .error (lit "artifact file not found: " ++ filePath)
  | some content =>
      let chunkSize := max 1 chunkSize
      let keyexpr := artifactRoute node appId
      .ok (⟨lit "zenoh", keyexpr, content.length, chunkSize⟩, ⟨keyexpr, filePath, chunkSize⟩)

/-- `ArtifactProvider.handle_query` on a file with this content: the reply, or the message of
the error reply. -/
def handleQuery (provider : ArtifactProvider) (content : List UInt8) (request : ChunkRequest) :
    Except Text (List UInt8) :=
  let offset := request.offset.getD 0
  let requested := request.chunkSize.getD provider.chunkSize
  if offset < 0 ∨ requested ≤ 0 then .error (lit "invalid offset or chunk_size")
  else if offset > content.length then .error (lit "offset out of range")
  else .ok ((content.drop offset.toNat).take (min requested.toNat (content.length - offset.toNat)))

/-- What `neuro_unit_zenoh_fetch_chunk` makes of a reply it gets in time. -/
def fetchReply (chunkSize : Nat) : Except Text (List UInt8) → Except Int (List UInt8)
  | .error _ => .error (-eio)
  | .ok data => if data.length > chunkSize then .error (-emsgsize) else .ok data

/-! What comes of a call of the unit. -/

inductive Fetched where
  | reply (data : List UInt8)
  | failed (error : Int) (some : error ≠ 0)

def Fetched.result : Fetched → Except Int (List UInt8)
  | reply data => .ok data
  | failed error _ => .error error

/-- What the allocation, the file operations and the fetches of a download come to. -/
structure Answer where
  allocated : Bool
  file : FileSystem.Outcome
  fetched : Fetched

def Answer.outcome (answer : Answer) : UpdateWorld.Outcome :=
  { works with
    file := answer.file
    allocated := answer.allocated
    chunk := answer.fetched.result }

abbrev DownloadEvent := Event Effect EffectReply World

/-- The data the fetches of the run returned, in order. -/
def replies (events : List DownloadEvent) : List UInt8 :=
  events.flatMap fun event =>
    match event with
    | ⟨.fetchChunk _ _ _, _, .ok data, _⟩ => data
    | _ => []

/-- A fetch asks for bytes from where the file ends, and none past the end of the artifact. -/
def Exact (artifactKey dstPath : Text) (totalSize : Nat) (event : DownloadEvent) : Prop :=
  ∀ key offset size, event.op = .fetchChunk key offset size →
    key = artifactKey ∧ fileContent event.before.volume dstPath ≠ none ∧
      offset = (contentAt event.before.volume dstPath).length ∧ 0 < size ∧
      offset + size ≤ totalSize

/-- Memory and file operations work, and each chunk comes from the provider. -/
def Served (provider : ArtifactProvider) (artifact : List UInt8) : DownloadEvent → Prop
  | ⟨.fetchChunk _ offset size, _, reply, _⟩ =>
      reply = fetchReply size (handleQuery provider artifact ⟨some offset, some size⟩)
  | ⟨.allocate _, _, reply, _⟩ => reply = true
  | ⟨.file (.openTruncate _), _, reply, _⟩ => reply = 0
  | ⟨.file (.write _ content), _, reply, _⟩ => reply = content.length
  | ⟨.file (.close _), _, reply, _⟩ => reply = 0
  | _ => True

section Loop

variable {artifactKey dstPath : Text} {totalSize chunkSize : Nat} {memory : Memory}
  {world : World}

theorem choice_run {Result : Type} (condition : Prop) [Decidable condition]
    (left right : ServiceM Result) (memory : Memory) :
    (if condition then left else right) memory =
      if condition then left memory else right memory := by
  split <;> rfl

theorem downloadChunks_round (rounds offset : Nat) :
    downloadChunks artifactKey totalSize chunkSize dstPath (rounds + 1) offset memory =
      if offset < totalSize then
        .call (.fetchChunk artifactKey offset (min (totalSize - offset) chunkSize)) fun fetched =>
          match fetched with
          | .error error => .pure (error, memory)
          | .ok chunk =>
              if chunk.length = 0 ∨ chunk.length > min (totalSize - offset) chunkSize then
                .pure (-eio, memory)
              else
                .call (.file (.write dstPath chunk)) fun written =>
                  if written < 0 then .pure (written, memory)
                  else if written ≠ chunk.length then .pure (-eio, memory)
                  else downloadChunks artifactKey totalSize chunkSize dstPath rounds
                    (offset + chunk.length) memory
      else .pure (0, memory) := by
  rw [downloadChunks]
  split
  · refine congrArg (Program.call _) (funext fun fetched => ?_)
    cases fetched with
    | error error => rfl
    | ok chunk =>
        refine (choice_run _ _ _ memory).trans (ite_congr rfl (fun _ => rfl) fun _ => ?_)
        refine congrArg (Program.call _) (funext fun written => ?_)
        refine (choice_run _ _ _ memory).trans (ite_congr rfl (fun _ => rfl) fun _ => ?_)
        exact choice_run _ _ _ memory
  · rfl

/-- With at least one round for each byte that is left, further rounds are never begun. -/
theorem downloadChunks_ends (rounds offset : Nat) (enough : totalSize ≤ rounds + offset) :
    downloadChunks artifactKey totalSize chunkSize dstPath rounds offset memory =
      downloadChunks artifactKey totalSize chunkSize dstPath (rounds + 1) offset memory := by
  induction rounds generalizing offset with
  | zero =>
      rw [downloadChunks_round, if_neg (by omega)]
      rfl
  | succ rounds ih =>
      rw [downloadChunks_round, downloadChunks_round]
      refine ite_congr rfl (fun _ => ?_) fun _ => rfl
      refine congrArg (Program.call _) (funext fun fetched => ?_)
      cases fetched with
      | error error => rfl
      | ok chunk =>
          refine ite_congr rfl (fun _ => rfl) fun some => ?_
          refine congrArg (Program.call _) (funext fun written => ?_)
          refine ite_congr rfl (fun _ => rfl) fun _ => ite_congr rfl (fun _ => rfl) fun _ => ?_
          exact ih (offset + chunk.length) (by omega)

/-- The chunk the provider gives for a request inside the artifact. -/
theorem fetchReply_served (provider : ArtifactProvider) (artifact : List UInt8)
    {offset size : Nat} (some : 0 < size) (inside : offset + size ≤ artifact.length) :
    fetchReply size (handleQuery provider artifact ⟨.some offset, .some size⟩) =
      .ok ((artifact.drop offset).take size) := by
  have valid : ¬ ((offset : Int) < 0 ∨ (size : Int) ≤ 0) := by omega
  have low : ¬ ((offset : Int) > artifact.length) := by omega
  have all : min size (artifact.length - offset) = size := by omega
  have sized : ((artifact.drop offset).take size).length = size := by
    rw [List.length_take, List.length_drop]
    omega
  simp only [handleQuery, Option.getD_some, if_neg valid, if_neg low, Int.toNat_natCast, all,
    fetchReply]
  exact if_neg (by omega)

def Proper (outcome : UpdateWorld.Outcome) : Prop :=
  ∀ error, outcome.chunk = .error error → error ≠ 0

structure Course (artifactKey dstPath : Text) (totalSize : Nat) (content : List UInt8)
    (ret : Int) (events : List DownloadEvent) (after : World) : Prop where
  exact : ∀ event ∈ events, Exact artifactKey dstPath totalSize event
  there : fileContent after.volume dstPath ≠ none
  whole : ret = 0 → fileContent after.volume dstPath = some (content ++ replies events) ∧
    (content ++ replies events).length = totalSize
  served : ∀ provider artifact, artifact.length = totalSize →
    content = artifact.take content.length → (∀ event ∈ events, Served provider artifact event) →
    ret = 0 ∧ fileContent after.volume dstPath = some artifact

section Course

variable {content : List UInt8} {events : List DownloadEvent}

theorem contentAt_eq (held : fileContent world.volume dstPath = some content) :
    world.volume dstPath = some (.file content) ∧ contentAt world.volume dstPath = content := by
  unfold fileContent at held
  split at held
  · next there =>
    cases held
    exact ⟨there, by rw [contentAt, there]⟩
  · cases held

theorem Course.done (held : fileContent world.volume dstPath = some content)
    (full : content.length = totalSize) :
    Course artifactKey dstPath totalSize content 0 [] world where
  exact := List.forall_mem_nil _
  there := by simp [held]
  whole := fun _ => ⟨by simpa [replies] using held, by simpa [replies] using full⟩
  served := by
    intro provider artifact sized taken _
    refine ⟨rfl, ?_⟩
    rw [held, taken, full, ← sized, List.take_length]

theorem Course.failed {ret : Int}
    (exact : ∀ event ∈ events, Exact artifactKey dstPath totalSize event)
    (there : fileContent world.volume dstPath ≠ none) (failed : ret ≠ 0)
    (unserved : ∀ provider artifact, artifact.length = totalSize →
      ¬ ∀ event ∈ events, Served provider artifact event) :
    Course artifactKey dstPath totalSize content ret events world where
  exact := exact
  there := there
  whole := fun worked => absurd worked failed
  served := fun provider artifact sized _ served =>
    absurd served (unserved provider artifact sized)

theorem Course.onward {ret : Int} {chunk : List UInt8} {fetch store : DownloadEvent} {after : World}
    (course : Course artifactKey dstPath totalSize (content ++ chunk) ret events after)
    (fetched : Exact artifactKey dstPath totalSize fetch)
    (stored : Exact artifactKey dstPath totalSize store)
    (data : ∀ events, replies (fetch :: store :: events) = chunk ++ replies events)
    (next : ∀ provider artifact, artifact.length = totalSize → Served provider artifact fetch →
      chunk = (artifact.drop content.length).take chunk.length) :
    Course artifactKey dstPath totalSize content ret (fetch :: store :: events) after where
  exact := List.forall_mem_cons.mpr ⟨fetched, List.forall_mem_cons.mpr ⟨stored, course.exact⟩⟩
  there := course.there
  whole := by
    intro worked
    rw [data, ← List.append_assoc]
    exact course.whole worked
  served := by
    intro provider artifact sized taken all
    obtain ⟨first, rest⟩ := List.forall_mem_cons.mp all
    refine course.served provider artifact sized ?_ (List.forall_mem_cons.mp rest).2
    rw [List.length_append, List.take_add, ← taken, ← next provider artifact sized first]

theorem append_held (chunk : List UInt8) (held : fileContent world.volume dstPath = some content) :
    fileContent (append world.volume dstPath chunk) dstPath = some (content ++ chunk) := by
  rw [append, (contentAt_eq held).1]
  simp [fileContent]

theorem exact_of_other {event : DownloadEvent}
    (other : ∀ key offset size, event.op ≠ .fetchChunk key offset size) :
    Exact artifactKey dstPath totalSize event :=
  fun key offset size fetch => absurd fetch (other key offset size)

/-- The write of a chunk, the fetch in front of it and the rounds behind it. -/
theorem writeChunk_course {rounds offset : Nat} {chunk : List UInt8} {fetch : DownloadEvent}
    (held : fileContent world.volume dstPath = some content)
    (fetched : Exact artifactKey dstPath totalSize fetch)
    (data : ∀ events, replies (fetch :: events) = chunk ++ replies events)
    (next : ∀ provider artifact, artifact.length = totalSize → Served provider artifact fetch →
      chunk = (artifact.drop content.length).take chunk.length)
    (onward : ∀ after, fileContent after.volume dstPath = some (content ++ chunk) →
      Traces UpdateWorld.machine Proper
        (fun result events final =>
          Course artifactKey dstPath totalSize (content ++ chunk) result.1 events final)
        (downloadChunks artifactKey totalSize chunkSize dstPath rounds offset memory) after) :
    Traces UpdateWorld.machine Proper
      (fun result events after =>
        Course artifactKey dstPath totalSize content result.1 (fetch :: events) after)
      (.call (.file (.write dstPath chunk)) fun written =>
        if written < 0 then .pure (written, memory)
        else if written ≠ chunk.length then .pure (-eio, memory)
        else downloadChunks artifactKey totalSize chunkSize dstPath rounds offset memory)
      world := by
  intro writing _
  obtain ⟨count, reply, written, complete⟩ :=
    FileSystem.step_write_cases writing.file world.volume dstPath chunk
  have stored : UpdateWorld.machine.step writing (.file (.write dstPath chunk)) world =
      (reply, { world with
        volume := append world.volume dstPath (chunk.take count)
        checked := Function.update world.checked dstPath none }) := by
    change (_, _) = _
    rw [written]
    rfl
  rw [stored]
  dsimp only
  have appended := append_held (chunk.take count) held
  have writes : ∀ reply after, Exact artifactKey dstPath totalSize
      ⟨.file (.write dstPath chunk), world, reply, after⟩ :=
    fun _ _ => exact_of_other fun _ _ _ fetch => nomatch fetch
  -- a write that is not full ends the loop, and no such write is one of a served chunk
  have course_failed : ∀ ret : Int, ret ≠ 0 → reply ≠ chunk.length →
      Course artifactKey dstPath totalSize content ret
        [fetch, ⟨.file (.write dstPath chunk), world, reply, { world with
          volume := append world.volume dstPath (chunk.take count)
          checked := Function.update world.checked dstPath none }⟩]
        { world with
          volume := append world.volume dstPath (chunk.take count)
          checked := Function.update world.checked dstPath none } := by
    intro ret failed incomplete
    refine .failed ?_ (by simp [appended]) failed ?_
    · exact List.forall_mem_cons.mpr
        ⟨fetched, List.forall_mem_cons.mpr ⟨writes _ _, List.forall_mem_nil _⟩⟩
    · intro provider artifact _ served
      exact incomplete (served _ (List.mem_cons_of_mem _ List.mem_cons_self))
  split
  · next negative =>
    refine course_failed reply (Int.ne_of_lt negative) (Int.ne_of_lt ?_)
    exact Int.lt_of_lt_of_le negative (Int.natCast_nonneg _)
  split
  · next _ incomplete => exact course_failed (-eio) eio_refuses incomplete
  next full =>
  have taken := complete (not_not.mp full)
  rw [taken] at appended ⊢
  refine (onward _ appended).weaken fun result events after course => ?_
  exact course.onward fetched (writes _ _) (fun events => data (_ :: events)) next

/-- The loop from a file with this content. -/
theorem downloadChunks_course {rounds offset : Nat}
    (held : fileContent world.volume dstPath = some content) (here : content.length = offset)
    (within : offset ≤ totalSize) (enough : totalSize ≤ rounds + offset) (some : 0 < chunkSize) :
    Traces UpdateWorld.machine Proper
      (fun result events after =>
        Course artifactKey dstPath totalSize content result.1 events after)
      (downloadChunks artifactKey totalSize chunkSize dstPath rounds offset memory) world := by
  induction rounds generalizing offset content world with
  | zero => exact .done held (by omega)
  | succ rounds ih =>
      rw [downloadChunks_round]
      by_cases left : offset < totalSize
      swap
      · rw [if_neg left]
        exact .done held (by omega)
      rw [if_pos left]
      have open_ : fileContent world.volume dstPath ≠ none := by simp [held]
      have size_pos : 0 < min (totalSize - offset) chunkSize := by omega
      have asked : ∀ reply after, Exact artifactKey dstPath totalSize
          ⟨.fetchChunk artifactKey offset (min (totalSize - offset) chunkSize), world, reply,
            after⟩ := by
        rintro reply after key from_ size ⟨⟩
        refine ⟨rfl, open_, ?_, by omega, by omega⟩
        rw [(contentAt_eq held).2, here]
      -- what the provider would have answered
      have supplied : ∀ {reply after} {provider : ArtifactProvider} {artifact : List UInt8},
          artifact.length = totalSize →
          Served provider artifact ⟨.fetchChunk artifactKey offset
            (min (totalSize - offset) chunkSize), world, reply, after⟩ →
          reply = .ok ((artifact.drop offset).take (min (totalSize - offset) chunkSize)) := by
        intro reply after provider artifact sized served
        exact served.trans (fetchReply_served provider artifact size_pos (by omega))
      intro outcome proper
      cases fetched : outcome.chunk with
      | error error =>
          have answered : (UpdateWorld.machine.step outcome (.fetchChunk artifactKey offset
              (min (totalSize - offset) chunkSize)) world) = (.error error, world) :=
            congrArg (·, world) fetched
          rw [answered]
          refine .failed (by simpa using asked _ _) open_ (proper error fetched) ?_
          intro provider artifact sized served
          cases supplied sized (served _ List.mem_cons_self)
      | ok chunk =>
          have answered : (UpdateWorld.machine.step outcome (.fetchChunk artifactKey offset
              (min (totalSize - offset) chunkSize)) world) = (.ok chunk, world) :=
            congrArg (·, world) fetched
          rw [answered]
          dsimp only
          by_cases misfit : chunk.length = 0 ∨ chunk.length > min (totalSize - offset) chunkSize
          · rw [if_pos misfit]
            refine .failed (by simpa using asked _ _) open_ eio_refuses ?_
            intro provider artifact sized served
            have data := Except.ok.inj (supplied sized (served _ List.mem_cons_self))
            have length := congrArg List.length data
            rw [List.length_take, List.length_drop] at length
            omega
          rw [if_neg misfit]
          have longer : (content ++ chunk).length = offset + chunk.length := by
            rw [List.length_append, here]
          refine writeChunk_course held (asked _ _) (fun _ => rfl) ?_ fun after grown =>
            ih grown longer (by omega) (by omega)
          intro provider artifact sized served
          have data := Except.ok.inj (supplied sized served)
          have length := congrArg List.length data
          rw [List.length_take, List.length_drop] at length
          rw [here, data]
          congr 1
          rw [List.length_take, List.length_drop]
          omega

end Course

end Loop

/-- The destination was opened. -/
def Opened (dstPath : Text) : DownloadEvent → Prop
  | ⟨.file (.openTruncate path), _, reply, _⟩ => path = dstPath ∧ (0 : Int) ≤ reply
  | _ => False

/-- The file operation `remove` works. -/
def Removes : DownloadEvent → Prop
  | ⟨.file (.unlink _), _, reply, _⟩ => reply = (0 : Int)
  | _ => True

structure Download (config : Config) (artifactKey dstPath : Text) (totalSize : Nat)
    (ret : Int) (events : List DownloadEvent) (after : World) : Prop where
  exact : ∀ event ∈ events, Exact artifactKey dstPath totalSize event
  whole : ret = 0 → fileContent after.volume dstPath = some (replies events) ∧
    (replies events).length = totalSize
  removed : config.removeAvailable = true → ret ≠ 0 → (∃ event ∈ events, Opened dstPath event) →
    (∀ event ∈ events, Removes event) → after.volume dstPath = none
  served : artifactKey ≠ [] → 0 < totalSize → ∀ provider artifact, artifact.length = totalSize →
    (∀ event ∈ events, Served provider artifact event) →
    ret = 0 ∧ fileContent after.volume dstPath = some artifact

/-- The end of `neuro_unit_zenoh_download_artifact`, from the label `out`. -/
def finishDownload (config : Config) (dstPath : Text) (ret : Int) : ServiceM Int := do
  let closeRet : Int ← perform (.file (.close dstPath))
  let ret := if ret = 0 ∧ closeRet < 0 then closeRet else ret
  if ret ≠ 0 then
    removeFile config dstPath
    return ret
  else
    return ret

section Whole

variable {config : Config} {artifactKey dstPath : Text} {totalSize chunkSize : Nat}
  {memory : Memory} {world : World}

theorem finishDownload_eq (ret : Int) :
    finishDownload config dstPath ret memory =
      .call (.file (.close dstPath)) fun closeRet =>
        if (if ret = 0 ∧ closeRet < 0 then closeRet else ret) ≠ 0 then
          if config.removeAvailable then
            .call (.file (.unlink dstPath)) fun _ =>
              .pure ((if ret = 0 ∧ closeRet < 0 then closeRet else ret), memory)
          else .pure ((if ret = 0 ∧ closeRet < 0 then closeRet else ret), memory)
        else .pure ((if ret = 0 ∧ closeRet < 0 then closeRet else ret), memory) := by
  refine congrArg (Program.call _) (funext fun closeRet => ?_)
  refine (choice_run _ _ _ memory).trans (ite_congr rfl (fun _ => ?_) fun _ => rfl)
  change (removeFile config dstPath memory).bind _ = _
  unfold removeFile
  cases config.removeAvailable <;> rfl

theorem zenohDownloadArtifact_eq :
    zenohDownloadArtifact config artifactKey totalSize chunkSize dstPath memory =
      if artifactKey = [] ∨ totalSize = 0 then .pure (-einval, memory)
      else
        let chunkSize := if chunkSize = 0 then 1024 else chunkSize
        let chunkSize := if chunkSize > 4096 then 4096 else chunkSize
        .call (.allocate chunkSize) fun allocated =>
          if ¬ allocated then .pure (-enomem, memory)
          else .call (.file (.openTruncate dstPath)) fun opened =>
            if opened < 0 then .pure (opened, memory)
            else (downloadChunks artifactKey totalSize chunkSize dstPath totalSize 0 memory).bind
              fun outcome => finishDownload config dstPath outcome.1 outcome.2 := by
  refine (choice_run _ _ _ memory).trans (ite_congr rfl (fun _ => rfl) fun _ => ?_)
  refine congrArg (Program.call _) (funext fun allocated => ?_)
  refine (choice_run _ _ _ memory).trans (ite_congr rfl (fun _ => rfl) fun _ => ?_)
  refine congrArg (Program.call _) (funext fun opened => ?_)
  exact choice_run _ _ _ memory

theorem Download.early {ret : Int} {events : List DownloadEvent} (failed : ret ≠ 0)
    (nothing : ∀ event ∈ events, Exact artifactKey dstPath totalSize event ∧
      ¬ Opened dstPath event)
    (unserved : artifactKey ≠ [] → 0 < totalSize → ∀ provider artifact,
      ¬ ∀ event ∈ events, Served provider artifact event) :
    Download config artifactKey dstPath totalSize ret events world where
  exact := fun event member => (nothing event member).1
  whole := fun worked => absurd worked failed
  removed := fun _ _ ⟨event, member, opened⟩ => absurd opened (nothing event member).2
  served := fun named some provider artifact _ served =>
    absurd served (unserved named some provider artifact)

theorem close_step (outcome : UpdateWorld.Outcome) :
    ∃ reply : Int, UpdateWorld.machine.step outcome (.file (.close dstPath)) world =
      (reply, world) := by
  obtain ⟨reply, closed⟩ := FileSystem.step_close_cases outcome.file world.volume dstPath
  refine ⟨reply, ?_⟩
  change (_, _) = _
  rw [closed]
  rfl

/-- The end of a download, after the loop has taken its course. -/
theorem finishDownload_download (front : List DownloadEvent) {ret : Int}
    {events : List DownloadEvent}
    (course : Course artifactKey dstPath totalSize [] ret events world)
    (before : ∀ event ∈ front, Exact artifactKey dstPath totalSize event)
    (nothing : replies front = []) :
    Traces UpdateWorld.machine Proper
      (fun result rest after => Download config artifactKey dstPath totalSize result.1
        (front ++ (events ++ rest)) after)
      (finishDownload config dstPath ret memory) world := by
  have collected : ∀ rest, replies rest = [] →
      replies (front ++ (events ++ rest)) = replies events := by
    intro rest none
    have joined : replies (front ++ (events ++ rest)) =
        replies front ++ (replies events ++ replies rest) := by
      simp only [replies, List.flatMap_append]
    rw [joined, nothing, none, List.nil_append, List.append_nil]
  have exactly : ∀ rest, (∀ event ∈ rest, Exact artifactKey dstPath totalSize event) →
      ∀ event ∈ front ++ (events ++ rest), Exact artifactKey dstPath totalSize event := by
    intro rest late event member
    rcases List.mem_append.mp member with early | later
    · exact before event early
    rcases List.mem_append.mp later with during | after
    · exact course.exact event during
    · exact late event after
  rw [finishDownload_eq]
  intro closing _
  obtain ⟨closeRet, closed⟩ := @close_step dstPath world closing
  rw [closed]
  dsimp only
  have closes : ∀ event ∈ [(⟨.file (.close dstPath), world, closeRet, world⟩ : DownloadEvent)],
      Exact artifactKey dstPath totalSize event := by
    intro event member
    rw [List.mem_singleton.mp member]
    exact exact_of_other fun _ _ _ fetch => nomatch fetch
  have served_during : ∀ {provider artifact rest},
      (∀ event ∈ front ++ (events ++ rest), Served provider artifact event) →
        (∀ event ∈ events, Served provider artifact event) ∧
          ∀ event ∈ rest, Served provider artifact event := by
    intro provider artifact rest all
    have later := (List.forall_mem_append.mp all).2
    exact List.forall_mem_append.mp later
  by_cases failed : (if ret = 0 ∧ closeRet < 0 then closeRet else ret) ≠ 0
  · rw [if_pos failed]
    -- the loop or the close went wrong, so not everything was served
    have unserved : ∀ provider artifact rest, artifact.length = totalSize →
        ¬ ∀ event ∈ front ++ (events ++ ⟨.file (.close dstPath), world, closeRet, world⟩ :: rest),
          Served provider artifact event := by
      intro provider artifact rest sized all
      obtain ⟨during, late⟩ := served_during all
      obtain ⟨worked, _⟩ := course.served provider artifact sized List.take_zero.symm during
      have closeWorked : closeRet = 0 := late _ List.mem_cons_self
      rw [worked, closeWorked] at failed
      exact failed rfl
    cases available : config.removeAvailable with
    | false =>
        rw [if_neg Bool.false_ne_true]
        refine ⟨exactly _ closes, fun worked => absurd worked failed, ?_, ?_⟩
        · exact fun able => absurd (available.symm.trans able) Bool.false_ne_true
        · exact fun _ _ provider artifact sized all =>
            absurd all (unserved provider artifact [] sized)
    | true =>
        rw [if_pos rfl]
        intro removing _
        refine ⟨exactly _ ?_, fun worked => absurd worked failed, ?_, ?_⟩
        · intro event member
          rcases List.mem_cons.mp member with rfl | last
          · exact closes _ (List.mem_singleton_self _)
          · rw [List.mem_singleton.mp last]
            exact exact_of_other fun _ _ _ fetch => nomatch fetch
        · intro _ _ _ removes
          have gone := removes _ (List.mem_append_right front (List.mem_append_right events
            (List.mem_cons_of_mem _ (List.mem_singleton_self _))))
          rcases FileSystem.step_unlink_cases removing.file world.volume dstPath with
            ⟨_, removed⟩ | ⟨error, negative, refused⟩
          · change (FileSystem.step removing.file (.unlink dstPath) world.volume).2 dstPath = none
            rw [removed]
            exact Function.update_self ..
          · have zero : (FileSystem.step removing.file (.unlink dstPath) world.volume).1 =
                (0 : Int) := gone
            rw [refused] at zero
            exact absurd zero (Int.ne_of_lt negative)
        · exact fun _ _ provider artifact sized all =>
            absurd all (unserved provider artifact _ sized)
  · rw [if_neg failed]
    have worked : ret = 0 := by
      rw [not_not] at failed
      split at failed
      · next both => exact both.1
      · exact failed
    have result : (if ret = 0 ∧ closeRet < 0 then closeRet else ret) = 0 := not_not.mp failed
    rw [result]
    refine ⟨exactly _ closes, fun _ => ?_, fun _ failed => absurd rfl failed, ?_⟩
    · rw [collected _ rfl]
      exact course.whole worked
    · intro _ _ provider artifact sized all
      exact ⟨rfl, (course.served provider artifact sized List.take_zero.symm
        (served_during all).1).2⟩

theorem zenohDownloadArtifact_download :
    Traces UpdateWorld.machine Proper
      (fun result events after =>
        Download config artifactKey dstPath totalSize result.1 events after)
      (zenohDownloadArtifact config artifactKey totalSize chunkSize dstPath memory) world := by
  rw [zenohDownloadArtifact_eq]
  by_cases refused : artifactKey = [] ∨ totalSize = 0
  · rw [if_pos refused]
    refine .early einval_refuses (List.forall_mem_nil _) fun named some => ?_
    exact absurd refused (not_or.mpr ⟨named, Nat.ne_of_gt some⟩)
  rw [if_neg refused]
  dsimp only
  -- whatever was announced, a chunk has at least one byte
  generalize sized : (if (if chunkSize = 0 then 1024 else chunkSize) > 4096 then 4096
    else if chunkSize = 0 then 1024 else chunkSize) = size
  have size_pos : 0 < size := by
    rw [← sized]
    split
    · exact Nat.zero_lt_succ _
    split
    · exact Nat.zero_lt_succ _
    · omega
  intro allocating _
  have allocates : ∀ reply after, Exact artifactKey dstPath totalSize
      ⟨.allocate size, world, reply, after⟩ :=
    fun _ _ => exact_of_other fun _ _ _ fetch => nomatch fetch
  have allocated : UpdateWorld.machine.step allocating (.allocate size) world =
      (allocating.allocated, world) := rfl
  rw [allocated]
  cases allocating.allocated with
  | false =>
      refine .early enomem_refuses ?_ fun _ _ provider artifact served => ?_
      · intro event member
        rw [List.mem_singleton.mp member]
        exact ⟨allocates _ _, id⟩
      · exact absurd (served _ List.mem_cons_self) Bool.false_ne_true
  | true =>
      intro opening _
      have opens : ∀ reply after, Exact artifactKey dstPath totalSize
          ⟨.file (.openTruncate dstPath), world, reply, after⟩ :=
        fun _ _ => exact_of_other fun _ _ _ fetch => nomatch fetch
      have stepped : UpdateWorld.machine.step opening (.file (.openTruncate dstPath)) world =
          ((FileSystem.step opening.file (.openTruncate dstPath) world.volume).1,
            { world with
              volume := (FileSystem.step opening.file (.openTruncate dstPath) world.volume).2
              checked := Function.update world.checked dstPath none }) := rfl
      rw [stepped]
      rcases FileSystem.step_openTruncate_cases opening.file world.volume dstPath with
        worked | ⟨error, negative, failed⟩
      · rw [worked]
        have held : fileContent (Function.update world.volume dstPath (some (.file []))) dstPath =
            some [] := by simp [fileContent]
        have nothing : ([] : List UInt8).length = 0 := rfl
        have enough : totalSize ≤ totalSize + 0 := Nat.le_refl _
        dsimp only
        refine Traces.bind ((downloadChunks_course held nothing (Nat.zero_le _) enough
          size_pos).weaken ?_)
        intro result events middle course
        refine finishDownload_download [_, _] course ?_ rfl
        exact List.forall_mem_cons.mpr
          ⟨allocates _ _, List.forall_mem_cons.mpr ⟨opens _ _, List.forall_mem_nil _⟩⟩
      · rw [failed]
        dsimp only
        rw [if_pos negative]
        refine .early (Int.ne_of_lt negative) ?_ fun _ _ provider artifact served => ?_
        · intro event member
          rcases List.mem_cons.mp member with rfl | last
          · exact ⟨allocates _ _, id⟩
          · rw [List.mem_singleton.mp last]
            exact ⟨opens _ _, fun opened => absurd opened.2 (Int.not_le.mpr negative)⟩
        · have zero : error = 0 := served _ (List.mem_cons_of_mem _ List.mem_cons_self)
          exact absurd zero (Int.ne_of_lt negative)

/-- The rounds of the loop never run out. -/
theorem downloadChunks_enough {rounds : Nat} (enough : totalSize ≤ rounds) :
    downloadChunks artifactKey totalSize chunkSize dstPath rounds 0 memory =
      downloadChunks artifactKey totalSize chunkSize dstPath totalSize 0 memory := by
  obtain ⟨more, rfl⟩ := Nat.exists_eq_add_of_le enough
  induction more with
  | zero => rfl
  | succ more ih =>
      rw [← Nat.add_assoc, ← downloadChunks_ends (totalSize + more) 0 (by omega)]
      exact ih (Nat.le_add_right _ _)

end Whole

section Runs

variable (config : Config) (artifactKey dstPath : Text) (totalSize chunkSize : Nat)
  (memory : Memory) (world : World) (answers : List Answer)

def downloadRun : (Int × Memory) × World :=
  run UpdateWorld.machine (answers.map Answer.outcome)
    (zenohDownloadArtifact config artifactKey totalSize chunkSize dstPath memory) world

def downloadEvents : List DownloadEvent :=
  events UpdateWorld.machine (answers.map Answer.outcome)
    (zenohDownloadArtifact config artifactKey totalSize chunkSize dstPath memory) world

theorem answers_proper : ∀ outcome ∈ answers.map Answer.outcome, Proper outcome := by
  intro outcome member error failed
  obtain ⟨answer, _, rfl⟩ := List.mem_map.mp member
  cases given : answer.fetched with
  | reply data =>
      have same : Fetched.result (.reply data) = .error error := given ▸ failed
      cases same
  | failed code some =>
      have same : Fetched.result (.failed code some) = .error error := given ▸ failed
      cases same
      exact some

theorem downloadRun_download :
    Download config artifactKey dstPath totalSize
      (downloadRun config artifactKey dstPath totalSize chunkSize memory world answers).1.1
      (downloadEvents config artifactKey dstPath totalSize chunkSize memory world answers)
      (downloadRun config artifactKey dstPath totalSize chunkSize memory world answers).2 :=
  zenohDownloadArtifact_download.run _ (answers_proper answers) fun _ failed => nomatch failed

end Runs

/-- A download ends; it asks for the bytes after those it has; it succeeds only with the whole
file, which is what the replies gave, and leaves no file when it fails. From the provider of
the CLI, announced with any chunk size, it gets the artifact. -/
theorem download_exact (config : Config) (dstPath : Text) (memory : Memory) (world : World)
    (answers : List Answer) :
    (∀ (artifactKey : Text) (totalSize chunkSize rounds : Nat), totalSize ≤ rounds →
      downloadChunks artifactKey totalSize chunkSize dstPath rounds 0 memory =
        downloadChunks artifactKey totalSize chunkSize dstPath totalSize 0 memory) ∧
    (∀ (artifactKey : Text) (totalSize chunkSize : Nat),
      (∀ event ∈ downloadEvents config artifactKey dstPath totalSize chunkSize memory world answers,
        Exact artifactKey dstPath totalSize event) ∧
      ((downloadRun config artifactKey dstPath totalSize chunkSize memory world answers).1.1 = 0 →
        fileContent (downloadRun config artifactKey dstPath totalSize chunkSize memory world
            answers).2.volume dstPath =
          some (replies (downloadEvents config artifactKey dstPath totalSize chunkSize memory world
            answers)) ∧
        (replies (downloadEvents config artifactKey dstPath totalSize chunkSize memory world
          answers)).length = totalSize) ∧
      (config.removeAvailable = true →
        (downloadRun config artifactKey dstPath totalSize chunkSize memory world answers).1.1 ≠ 0 →
        (∃ event ∈ downloadEvents config artifactKey dstPath totalSize chunkSize memory world
          answers, Opened dstPath event) →
        (∀ event ∈ downloadEvents config artifactKey dstPath totalSize chunkSize memory world
          answers, Removes event) →
        (downloadRun config artifactKey dstPath totalSize chunkSize memory world answers).2.volume
          dstPath = none)) ∧
    ∀ (files : Text → Option (List UInt8)) (node appId filePath : Text) (chunkSize : Int)
      (artifact : List UInt8) (announced : Announced) (provider : ArtifactProvider),
      files filePath = some artifact → artifact ≠ [] →
      buildPreparePayload files node appId filePath chunkSize = .ok (announced, provider) →
      (∀ event ∈ downloadEvents config announced.artifactKey dstPath announced.size
        announced.chunkSize.toNat memory world answers, Served provider artifact event) →
      (downloadRun config announced.artifactKey dstPath announced.size announced.chunkSize.toNat
          memory world answers).1.1 = 0 ∧
        fileContent (downloadRun config announced.artifactKey dstPath announced.size
          announced.chunkSize.toNat memory world answers).2.volume dstPath = some artifact := by
  refine ⟨fun _ _ _ _ enough => downloadChunks_enough enough, ?_, ?_⟩
  · intro artifactKey totalSize chunkSize
    have download := downloadRun_download config artifactKey dstPath totalSize chunkSize memory
      world answers
    exact ⟨download.exact, download.whole, download.removed⟩
  · intro files node appId filePath chunkSize artifact announced provider there some built served
    rw [buildPreparePayload, there] at built
    cases built
    have download := downloadRun_download config (artifactRoute node appId) dstPath artifact.length
      (max 1 chunkSize).toNat memory world answers
    refine download.served ?_ (List.length_pos_iff.mpr some) _ artifact rfl served
    simp [artifactRoute, lit]

/-- Three bytes in two chunks. -/
def demoAnswers : List Answer :=
  [⟨true, .works, .reply []⟩, ⟨true, .works, .reply []⟩, ⟨true, .works, .reply [7, 8]⟩,
    ⟨true, .works, .reply []⟩, ⟨true, .works, .reply [9]⟩]

theorem demo_delivered :
    (downloadRun demoConfig (artifactRoute (lit "unit-1") (lit "pump")) (lit "/apps/pump.llext") 3 2
      booted demoDevice.world demoAnswers).1.1 = 0 ∧
    fileContent (downloadRun demoConfig (artifactRoute (lit "unit-1") (lit "pump"))
      (lit "/apps/pump.llext") 3 2 booted demoDevice.world demoAnswers).2.volume
        (lit "/apps/pump.llext") = some [7, 8, 9] := by
  refine (download_exact demoConfig (lit "/apps/pump.llext") booted demoDevice.world
    demoAnswers).2.2 (fun _ => some [7, 8, 9]) (lit "unit-1") (lit "pump") (lit "pump.llext") 2
    [7, 8, 9] _ _ rfl (by decide) rfl ?_
  refine List.forall_mem_cons.mpr ⟨rfl, List.forall_mem_cons.mpr ⟨rfl, ?_⟩⟩
  refine List.forall_mem_cons.mpr ⟨rfl, List.forall_mem_cons.mpr ⟨rfl, ?_⟩⟩
  refine List.forall_mem_cons.mpr ⟨rfl, List.forall_mem_cons.mpr ⟨rfl, ?_⟩⟩
  exact List.forall_mem_cons.mpr ⟨rfl, List.forall_mem_nil _⟩

end NeuroLink.ArtifactDownload
