import NeuroLink.AppRuntime
import NeuroLink.MemoryProgram
import NeuroLink.RequestBridge
import NeuroLink.SeedSnapshot

/-!
The update service: how prepare, verify, activate, rollback and delete drive the
update manager, the artifact store, the file system, the application runtime and
the recovery seed. The managers are the memory of the service; everything else is
an effect with a reply. Log output is left out. The file operations of the port
are taken as registered, except that `remove` may be missing.
-/

namespace NeuroLink.UpdateService

open CText Errno EffectProgram FileSystem MemoryProgram RequestText RequestBridge

/-- The settings of the unit that the service reads. -/
structure Config where
  nodeId : Text
  appsDir : Text
  downloadAvailable : Bool
  removeAvailable : Bool
  longMax : Nat
  sizeModulus : Nat

/-- One call of `neuro_unit_update_service_handle_action` with what the reply
context carries. The application id is the `app_id` field of the dispatch route. -/
structure Request where
  appId : Buffer 32
  action : Text
  payload : Text
  requestId : Text
  metadata : Option RequestMetadata
  fields : Option RequestFields

/-- `struct neuro_protocol_update_reply_cbor`; the JSON fallback has the same
content. -/
structure UpdateReply where
  requestId : Text
  nodeId : Text
  appId : Text
  path : Text
  transport : Text
  size : Nat
  reason : Text
  deriving DecidableEq

inductive Answer where
  | error (message : Text) (statusCode : Nat)
  | accepted (action : Text) (reply : UpdateReply)
  deriving DecidableEq

structure Memory where
  updates : UpdateManager.Manager
  artifacts : ArtifactStore.Store
  seedInitialized : Bool
  replies : List Answer

/-- Marks for the proofs, without an effect in the code: the moment the checks of
verify have passed on the file, and the moment activate records its stable
reference. -/
inductive Mark where
  | verified (path : Text)
  | activated (appId : Text)
  deriving DecidableEq

inductive Effect where
  | requireResource (resource : Text) (metadata : RequestMetadata)
  | file (op : FileSystem.Op)
  | openAuxSession
  | closeAuxSession
  | allocate (size : Nat)
  | fetchChunk (artifactKey : Text) (offset chunkSize : Nat)
  | runtimeStatus
  | runtimeLoad (appId path : Text)
  | runtimeStart (appId startArgs : Text)
  | runtimeStop (appId : Text)
  | runtimeUnload (appId : Text)
  | lastException
  | storageMount
  | loadSeed
  | saveSeed (snapshot : RecoverySeed.Snapshot)
  | publishUpdateEvent (appId stage status detail : Text)
  | publishStateEvent
  | registerAppCallbackCommand (appId : Text)
  | removeAppCommands (appId : Text)
  | mark (moment : Mark)

abbrev EffectReply : Effect → Type
  | .file op => FileSystem.Reply op
  | .allocate _ => Bool
  | .fetchChunk _ _ _ => Except Int (List UInt8)
  | .runtimeStatus => List (Text × AppRuntime.AppState)
  | .lastException => AppRuntime.RuntimeException
  | .loadSeed => Except Int RecoverySeed.Snapshot
  | .closeAuxSession | .publishUpdateEvent .. | .publishStateEvent
  | .registerAppCallbackCommand _ | .removeAppCommands _ | .mark _ => Unit
  | _ => Int

abbrev ServiceM := Service Effect EffectReply Memory

def perform (effect : Effect) : ServiceM (EffectReply effect) := Service.perform effect

def edit {Result : Type} (change : Memory → Result × Memory) : ServiceM Result :=
  Service.edit change

def inspect : ServiceM Memory := Service.inspect

def updates (change : UpdateManager.Manager → Int × UpdateManager.Manager) : ServiceM Int :=
  edit fun memory =>
    ((change memory.updates).1, { memory with updates := (change memory.updates).2 })

def artifacts (change : ArtifactStore.Store → Int × ArtifactStore.Store) : ServiceM Int :=
  edit fun memory =>
    ((change memory.artifacts).1, { memory with artifacts := (change memory.artifacts).2 })

def answer (reply : Answer) : ServiceM Unit :=
  edit fun memory => ((), { memory with replies := memory.replies ++ [reply] })

def replyError (message : String) (statusCode : Nat) : ServiceM Unit :=
  answer (.error (lit message) statusCode)

def publishUpdateEvent (appId : Text) (stage status : String) (detail : Text) :
    ServiceM Unit :=
  perform (.publishUpdateEvent appId (lit stage) (lit status) detail)

/-- `fs_ops->remove`, where the port has it and the code ignores its result. -/
def removeFile (config : Config) (path : Text) : ServiceM Unit := do
  if config.removeAvailable then
    let _ ← perform (.file (.unlink path))
    return ()
  else
    return ()

/-- `artifact_stat`. -/
def artifactStat (path : Text) : ServiceM (Except Int Dirent) := perform (.file (.stat path))

/-- `build_app_path`. -/
def buildAppPath {size : Nat} (config : Config) (appId : Text) : Buffer (size + 1) :=
  copyBounded (config.appsDir ++ lit "/" ++ appId ++ lit ".llext")

theorem buildAppPath_nonempty (config : Config) (appId : Text) :
    (buildAppPath config appId : Buffer 96).text ≠ [] := by
  simp [buildAppPath, lit]

/-- `runtime_app_is_loaded`. -/
def runtimeAppIsLoaded (appId : Text) : ServiceM Bool := do
  let apps : List (Text × AppRuntime.AppState) ← perform .runtimeStatus
  return appId ≠ [] ∧ apps.any fun app => app.1 = appId

/-- `runtime_app_is_active`. -/
def runtimeAppIsActive (appId : Text) : ServiceM Bool := do
  let apps : List (Text × AppRuntime.AppState) ← perform .runtimeStatus
  return appId ≠ [] ∧ (apps.find? fun app => app.1 = appId).any fun app => app.2 = .running

/-- `require_resource_lease_or_reply`. -/
def requireResourceLeaseOrReply (resource : Text) (metadata : RequestMetadata) :
    ServiceM Bool := do
  let ret : Int ← perform (.requireResource resource metadata)
  if ret = -eperm then
    replyError "lease not held" 403
    return false
  else if ret = -eacces then
    replyError "lease holder mismatch" 403
    return false
  else if ret ≠ 0 then
    replyError "lease check failed" 500
    return false
  else
    return true

/-! The recovery seed. -/

/-- The body of `persist_recovery_seed_snapshot` once the seed is initialized. -/
def saveSnapshot : ServiceM Int := do
  let memory ← inspect
  match SeedSnapshot.buildSnapshot memory.updates memory.artifacts with
  | .error error => return error
  | .ok snapshot => perform (.saveSeed snapshot)

/-- `artifact_path_available`. -/
def artifactPathAvailable (path : Text) : ServiceM Bool :=
  if path = [] then return false
  else do
    match ← artifactStat path with
    | .error _ => return false
    | .ok ent => return ent.kind = .file ∧ ent.size > 0

/-- `meta != NULL && artifact_path_available(meta->path)`. -/
def artifactAvailable (found : Option ArtifactStore.Meta) : ServiceM Bool :=
  match found with
  | none => return false
  | some found => artifactPathAvailable found.path.text

/-- One round of the loop in `reconcile_recovery_seed_after_boot`. -/
def reconcileEntry (entry : UpdateManager.Entry) : ServiceM Unit := do
  let memory ← inspect
  let runtimeActive ← runtimeAppIsActive entry.appId.text
  let available ← artifactAvailable (ArtifactStore.get memory.artifacts entry.appId.text)
  let ret ← updates fun manager =>
    UpdateManager.reconcileAfterBoot manager entry.appId.text runtimeActive available
  let memory ← inspect
  if ret = 0 ∧ UpdateManager.stateFor memory.updates entry.appId.text = .failed then
    publishUpdateEvent entry.appId.text "recovery" "error"
      (UpdateManager.lastErrorFor memory.updates entry.appId.text)
  else
    return ()

def reconcileEntries : List UpdateManager.Entry → ServiceM Unit
  | [] => return ()
  | entry :: rest => do
      reconcileEntry entry
      reconcileEntries rest

/-- `reconcile_recovery_seed_after_boot`. The seed is marked initialized before
it runs, so that its persist saves at once. -/
def reconcileRecoverySeedAfterBoot : ServiceM Unit := do
  let memory ← inspect
  reconcileEntries (UpdateManager.exportEntries memory.updates UpdateManager.maxEntries)
  let _ ← saveSnapshot
  return ()

def markSeedInitialized : ServiceM Unit :=
  edit fun memory => ((), { memory with seedInitialized := true })

def applySnapshot (snapshot : RecoverySeed.Snapshot) : ServiceM Int :=
  edit fun memory =>
    let applied := SeedSnapshot.applySnapshot snapshot memory.updates memory.artifacts
    (applied.1, { memory with updates := applied.2.1, artifacts := applied.2.2 })

/-- `neuro_unit_update_service_ensure_recovery_seed_initialized`. -/
def ensureRecoverySeedInitialized : ServiceM Int := do
  let memory ← inspect
  if memory.seedInitialized then
    return 0
  else
    let ret : Int ← perform .storageMount
    if ret ≠ 0 then
      return ret
    else
      markSeedInitialized
      let loaded : Except Int RecoverySeed.Snapshot ← perform .loadSeed
      match loaded with
      | .ok snapshot =>
          let ret ← applySnapshot snapshot
          if ret = 0 then
            reconcileRecoverySeedAfterBoot
            publishUpdateEvent (lit "system") "recovery" "ok"
              (lit "boot reconciliation complete")
            return 0
          else
            publishUpdateEvent (lit "system") "recovery" "error" (lit "seed apply failed")
            return 0
      | .error error =>
          if error ≠ -enoent then
            publishUpdateEvent (lit "system") "recovery" "error" (lit "seed load failed")
            return 0
          else
            return 0

/-- `persist_recovery_seed_snapshot`. -/
def persistRecoverySeedSnapshot : ServiceM Int := do
  let ret ← ensureRecoverySeedInitialized
  if ret ≠ 0 then
    return ret
  else
    saveSnapshot

/-! The artifact download of `neuro_unit_zenoh.c`. -/

/-- The download loop from an offset; every round that goes on takes at least one
byte, so as many rounds as bytes are enough. -/
def downloadChunks (artifactKey : Text) (totalSize chunkSize : Nat) (dstPath : Text) :
    Nat → Nat → ServiceM Int
  | 0, _ => return 0
  | rounds + 1, offset =>
      if offset < totalSize then do
        let requestSize := min (totalSize - offset) chunkSize
        let fetched : Except Int (List UInt8) ←
          perform (.fetchChunk artifactKey offset requestSize)
        match fetched with
        | .error error => return error
        | .ok chunk =>
            if chunk.length = 0 ∨ chunk.length > requestSize then
              return -eio
            else
              let written : Int ← perform (.file (.write dstPath chunk))
              if written < 0 then
                return written
              else if written ≠ chunk.length then
                return -eio
              else
                downloadChunks artifactKey totalSize chunkSize dstPath rounds
                  (offset + chunk.length)
      else return 0

/-- `neuro_unit_zenoh_download_artifact`. -/
def zenohDownloadArtifact (config : Config) (artifactKey : Text) (totalSize chunkSize : Nat)
    (dstPath : Text) : ServiceM Int := do
  if artifactKey = [] ∨ totalSize = 0 then
    return -einval
  else
    let chunkSize := if chunkSize = 0 then 1024 else chunkSize
    let chunkSize := if chunkSize > 4096 then 4096 else chunkSize
    let allocated : Bool ← perform (.allocate chunkSize)
    if ¬ allocated then
      return -enomem
    else
      let opened : Int ← perform (.file (.openTruncate dstPath))
      if opened < 0 then
        return opened
      else
        let ret ← downloadChunks artifactKey totalSize chunkSize dstPath totalSize 0
        let closeRet : Int ← perform (.file (.close dstPath))
        let ret := if ret = 0 ∧ closeRet < 0 then closeRet else ret
        if ret ≠ 0 then
          removeFile config dstPath
          return ret
        else
          return ret

/-- `neuro_download_update_artifact`. -/
def downloadArtifact (config : Config) (artifactKey : Text) (totalSize chunkSize : Nat)
    (dstPath : Text) : ServiceM Int := do
  let ret : Int ← perform .openAuxSession
  if ret ≠ 0 then
    return ret
  else
    let ret ← zenohDownloadArtifact config artifactKey totalSize chunkSize dstPath
    perform .closeAuxSession
    return ret

/-! The request as the handlers read it: a decoded field where there is one, else
the JSON payload. -/

/-- A text member: the field if it is set, else the member of the payload, else
what the caller's buffer holds. -/
def readText {size : Nat} (request : Request) (field : RequestFields → Text) (key : String)
    (default : Text) : Buffer (size + 1) :=
  if (request.fields.map field).getD [] ≠ [] then
    copyBounded ((request.fields.map field).getD [])
  else
    (neuroJsonExtractString request.payload (lit key)).getD (copyBounded default)

/-- A number member: the field if it is positive, else the member of the payload. -/
def readInt (config : Config) (request : Request) (field : RequestFields → UInt32)
    (key : String) (default : Int32) : Int :=
  if (request.fields.map field).getD 0 > 0 then
    ((request.fields.map field).getD 0).toNat
  else
    (neuroJsonExtractInt config.longMax request.payload (lit key) default).toInt

def requestTransport (request : Request) : Buffer 32 :=
  readText request (·.transport.text) "transport" (lit "zenoh")

def requestArtifactKey (request : Request) : Buffer 128 :=
  readText request (·.artifactKey.text) "artifact_key" []

def requestStartArgs (request : Request) : Buffer 96 :=
  readText request (·.startArgs.text) "start_args" []

def requestReason (request : Request) : Buffer 64 :=
  readText request (·.reason.text) "reason" (lit "rollback requested")

/-- A negative size wraps around in `size_t`. -/
def requestedSize (config : Config) (request : Request) : Nat :=
  (readInt config request (·.size) "size" 0 % config.sizeModulus).toNat

/-- The chunk size as an `int`, brought into the range from 1 to 4096. -/
def requestChunkSize (config : Config) (request : Request) : Nat :=
  let chunkSize := (Int32.ofInt (readInt config request (·.chunkSize) "chunk_size" 1024)).toInt
  if chunkSize ≤ 0 then 1024
  else if chunkSize > 4096 then 4096
  else chunkSize.toNat

def requestMetadata (config : Config) (request : Request) : RequestMetadata :=
  request.metadata.getD (requestMetadataParse config.longMax request.payload)

def okReply (config : Config) (request : Request) : UpdateReply where
  requestId := request.requestId
  nodeId := config.nodeId
  appId := request.appId.text
  path := []
  transport := []
  size := 0
  reason := []

/-- The end that most failing stages share: the entry fails, the seed is saved,
the failure is published, and the error is the reply. -/
def failStage (fail : UpdateManager.Manager → Int × UpdateManager.Manager) (appId : Text)
    (stage : String) (detail message : Text) (statusCode : Nat) : ServiceM Unit := do
  let _ ← updates fail
  let _ ← persistRecoverySeedSnapshot
  publishUpdateEvent appId stage "error" detail
  answer (.error message statusCode)

/-! `handle_update_prepare`. -/

def failPrepare (appId : Text) (reason message : String) (statusCode : Nat) : ServiceM Unit :=
  failStage (fun manager => UpdateManager.prepareFail manager appId (lit reason)) appId
    "prepare" (lit reason) (lit message) statusCode

def stageArtifact (config : Config) (request : Request) (keyexpr : Text) : ServiceM Unit := do
  let appId := request.appId.text
  let transport := (requestTransport request).text
  let path := (buildAppPath config appId : Buffer 96).text
  let ret ← artifacts fun store =>
    ArtifactStore.stage store appId transport keyexpr path (requestedSize config request)
      (requestChunkSize config request) 0
  if ret ≠ 0 then
    failPrepare appId "artifact stage failed" "prepare artifact stage failed" 500
  else
    let ret ← updates fun manager => UpdateManager.prepareComplete manager appId
    if ret ≠ 0 then
      publishUpdateEvent appId "prepare" "error" (lit "prepare complete failed")
      replyError "prepare complete failed" 500
    else
      let _ ← persistRecoverySeedSnapshot
      publishUpdateEvent appId "prepare" "ok" path
      answer (.accepted (lit "prepare")
        { okReply config request with path := path, transport := transport })

def downloadedWhole (path : Text) (size : Nat) : ServiceM Bool := do
  let found ← artifactStat path
  match found with
  | .error _ => return false
  | .ok ent => return ent.kind = .file ∧ ent.size = size

def handleUpdatePrepare (config : Config) (request : Request) : ServiceM Unit := do
  let appId := request.appId.text
  let ret ← updates fun manager => UpdateManager.prepareBegin manager appId
  if ret ≠ 0 then
    replyError "prepare state conflict" 409
  else
    let path := (buildAppPath config appId : Buffer 96).text
    let keyexpr := (requestArtifactKey request).text
    let size := requestedSize config request
    if (requestTransport request).text = lit "zenoh" then
      if keyexpr = [] ∨ size = 0 ∨ ¬ config.downloadAvailable then
        failPrepare appId "artifact download contract invalid"
          "prepare artifact download contract invalid" 400
      else
        let ret ← downloadArtifact config keyexpr size (requestChunkSize config request) path
        if ret ≠ 0 then
          removeFile config path
          failPrepare appId "artifact download failed" "prepare artifact download failed" 500
        else
          let whole ← downloadedWhole path size
          if ¬ whole then
            removeFile config path
            failPrepare appId "artifact size mismatch" "prepare artifact size mismatch" 500
          else
            stageArtifact config request keyexpr
    else
      let keyexpr : Buffer 128 := copyBounded
        (lit "neuro/" ++ config.nodeId ++ lit "/update/app/" ++ appId ++ lit "/artifact")
      stageArtifact config request keyexpr.text

/-! `handle_update_verify`. -/

def failVerify (appId : Text) (reason detail message : String) (statusCode : Nat) :
    ServiceM Unit :=
  failStage (fun manager => UpdateManager.verifyFail manager appId (lit reason)) appId
    "verify" (lit detail) (lit message) statusCode

def setArtifactState (appId : Text) (state : ArtifactStore.State) : ServiceM Int :=
  artifacts fun store => ArtifactStore.setState store appId state

def acceptArtifact (config : Config) (request : Request) (path : Text) (size : Nat) :
    ServiceM Unit := do
  let appId := request.appId.text
  perform (.mark (.verified path))
  let ret ← setArtifactState appId .verified
  if ret ≠ 0 then
    failVerify appId "verify artifact state update failed" "artifact state update failed"
      "verify artifact state update failed" 500
  else
    let ret ← updates fun manager => UpdateManager.verifyComplete manager appId
    if ret ≠ 0 then
      failVerify appId "verify complete failed" "verify complete failed"
        "verify complete failed" 500
    else
      let _ ← persistRecoverySeedSnapshot
      publishUpdateEvent appId "verify" "ok" (lit "artifact present")
      answer (.accepted (lit "verify")
        { okReply config request with size := (UInt32.ofNat size).toNat })

def fileSize : Except Int Dirent → Nat
  | .error _ => 0
  | .ok ent => if ent.kind = .file then ent.size else 0

def handleUpdateVerify (config : Config) (request : Request) : ServiceM Unit := do
  let appId := request.appId.text
  let ret ← updates fun manager => UpdateManager.verifyBegin manager appId
  if ret ≠ 0 then
    replyError "verify state conflict" 409
  else
    let path := (buildAppPath config appId : Buffer 96).text
    let found ← artifactStat path
    let size := fileSize found
    if size = 0 then
      let _ ← setArtifactState appId .invalid
      failVerify appId "artifact missing" "artifact missing" "artifact missing" 404
    else
      let memory ← inspect
      if (ArtifactStore.get memory.artifacts appId).any fun artifact =>
          artifact.sizeBytes > 0 ∧ size ≠ artifact.sizeBytes then
        let _ ← setArtifactState appId .invalid
        failVerify appId "artifact size mismatch" "artifact size mismatch"
          "artifact size mismatch" 500
      else
        acceptArtifact config request path size

/-! `handle_update_activate`. -/

/-- `format_runtime_failure_detail`, into the handler's `error_detail`. -/
def runtimeFailureDetail (fallback : String) (ret : Int) : ServiceM Text := do
  let exc : AppRuntime.RuntimeException ← perform .lastException
  let cause :=
    if exc.code ≠ .none then
      exc.component.text ++ lit "/" ++ exc.operation.text ++ lit " " ++ exc.code.str ++
        lit " cause=" ++ decimal exc.cause ++ lit " "
    else []
  let detail : Buffer 128 :=
    copyBounded (lit fallback ++ lit ": " ++ cause ++ lit "ret=" ++ decimal ret)
  return detail.text

def failActivate (appId detail message : Text) : ServiceM Unit :=
  failStage (fun manager => UpdateManager.activateFail manager appId detail) appId
    "activate" detail message 500

def recordActivation (config : Config) (request : Request) (path : Text) : ServiceM Unit := do
  let appId := request.appId.text
  let _ ← setArtifactState appId .active
  let ret ← updates fun manager => UpdateManager.activateComplete manager appId
  if ret ≠ 0 then
    replyError "activate complete failed" 500
  else
    perform (.mark (.activated appId))
    let _ ← updates fun manager => UpdateManager.recordStableRef manager appId path
    let _ ← persistRecoverySeedSnapshot
    perform (.registerAppCallbackCommand appId)
    publishUpdateEvent appId "activate" "ok" (lit "app running")
    perform .publishStateEvent
    answer (.accepted (lit "activate") { okReply config request with path := path })

def launchArtifact (config : Config) (request : Request) : ServiceM Unit := do
  let appId := request.appId.text
  let path := (buildAppPath config appId : Buffer 96).text
  let ret : Int ← perform (.runtimeLoad appId path)
  if ret ≠ 0 then
    let detail ← runtimeFailureDetail "activate load failed" ret
    failActivate appId detail detail
  else
    let ret : Int ← perform (.runtimeStart appId (requestStartArgs request).text)
    if ret ≠ 0 then
      let detail ← runtimeFailureDetail "activate start failed" ret
      failActivate appId detail detail
    else
      recordActivation config request path

def handleUpdateActivate (config : Config) (request : Request) : ServiceM Unit := do
  let appId := request.appId.text
  let resource : Buffer 64 := copyBounded (lit "update/app/" ++ appId ++ lit "/activate")
  let held ← requireResourceLeaseOrReply resource.text (requestMetadata config request)
  if ¬ held then
    return ()
  else
    let ret ← updates fun manager => UpdateManager.activateBegin manager appId
    if ret ≠ 0 then
      replyError "activate state conflict" 409
    else
      let loaded ← runtimeAppIsLoaded appId
      if loaded then
        let ret : Int ← perform (.runtimeUnload appId)
        if ret ≠ 0 then
          failActivate appId (lit "existing app unload failed")
            (lit "activate unload existing app failed")
        else
          launchArtifact config request
      else
        launchArtifact config request

/-! `handle_update_rollback`. -/

def failRollback (appId : Text) (reason detail message : String) : ServiceM Unit :=
  failStage (fun manager => UpdateManager.rollbackFail manager appId (lit reason)) appId
    "rollback" (lit detail) (lit message) 500

def completeRollback (config : Config) (request : Request) (detail : String) :
    ServiceM Unit := do
  let appId := request.appId.text
  let ret ← updates fun manager => UpdateManager.rollbackComplete manager appId
  if ret ≠ 0 then
    replyError "rollback complete failed" 500
  else
    let _ ← persistRecoverySeedSnapshot
    publishUpdateEvent appId "rollback" "ok" (lit detail)
    perform .publishStateEvent
    answer (.accepted (lit "rollback")
      { okReply config request with reason := (requestReason request).text })

/-- `app_runtime_load` of the stable reference and, if it works, `app_runtime_start`. -/
def restoreStable (appId stableRef : Text) : ServiceM Int := do
  let ret : Int ← perform (.runtimeLoad appId stableRef)
  if ret = 0 then
    perform (.runtimeStart appId [])
  else
    return ret

def rollBack (config : Config) (request : Request) : ServiceM Unit := do
  let appId := request.appId.text
  let _ ← perform (.runtimeStop appId)
  let ret : Int ← perform (.runtimeUnload appId)
  if ret ≠ 0 ∧ ret ≠ -enoent then
    failRollback appId "rollback unload failed" "unload failed" "rollback unload failed"
  else
    perform (.removeAppCommands appId)
    let memory ← inspect
    let stableRef := UpdateManager.stableRefFor memory.updates appId
    if stableRef ≠ [] then
      let ret ← restoreStable appId stableRef
      if ret ≠ 0 then
        failRollback appId "stable restore failed" "stable restore failed"
          "rollback stable restore failed"
      else
        perform (.registerAppCallbackCommand appId)
        let _ ← setArtifactState appId .active
        completeRollback config request "stable restored"
    else
      let _ ← artifacts fun store => ArtifactStore.remove store appId
      completeRollback config request "artifact removed"

def handleUpdateRollback (config : Config) (request : Request) : ServiceM Unit := do
  let appId := request.appId.text
  let resource : Buffer 64 := copyBounded (lit "update/app/" ++ appId ++ lit "/rollback")
  let held ← requireResourceLeaseOrReply resource.text (requestMetadata config request)
  if ¬ held then
    return ()
  else
    let ret ← updates fun manager =>
      UpdateManager.rollbackBegin manager appId (requestReason request).text
    if ret ≠ 0 then
      replyError "rollback state conflict" 409
    else
      let saved ← persistRecoverySeedSnapshot
      if saved ≠ 0 then
        let _ ← updates fun manager =>
          UpdateManager.rollbackFail manager appId (lit "rollback checkpoint save failed")
        publishUpdateEvent appId "rollback" "error" (lit "checkpoint save failed")
        replyError "rollback checkpoint save failed" 500
      else
        let ret ← updates fun manager =>
          UpdateManager.rollbackMarkInProgress manager appId
        if ret ≠ 0 then
          let _ ← updates fun manager =>
            UpdateManager.rollbackFail manager appId (lit "rollback state transition failed")
          replyError "rollback state transition failed" 500
        else
          rollBack config request

/-! `handle_update_delete`. -/

def failDelete (appId : Text) (detail message : String) (statusCode : Nat) :
    ServiceM Unit := do
  publishUpdateEvent appId "delete" "error" (lit detail)
  replyError message statusCode

def forgetApp (config : Config) (request : Request) (path : Text) : ServiceM Unit := do
  let appId := request.appId.text
  let _ ← artifacts fun store => ArtifactStore.remove store appId
  let _ ← updates fun manager => UpdateManager.remove manager appId
  perform (.removeAppCommands appId)
  let saved ← persistRecoverySeedSnapshot
  if saved ≠ 0 then
    failDelete appId "recovery seed save failed" "delete recovery seed save failed" 500
  else
    publishUpdateEvent appId "delete" "ok" (lit "artifact deleted")
    perform .publishStateEvent
    answer (.accepted (lit "delete") { okReply config request with path := path })

/-- The path delete removes: the stored one, else the one of the application. -/
def deletePath (config : Config) (artifact : Option ArtifactStore.Meta) (appId : Text) :
    Buffer 128 :=
  if (artifact.map (·.path.text)).getD [] ≠ [] then
    copyBounded ((artifact.map (·.path.text)).getD [])
  else buildAppPath config appId

def handleUpdateDelete (config : Config) (request : Request) : ServiceM Unit := do
  let appId := request.appId.text
  let resource : Buffer 64 := copyBounded (lit "update/app/" ++ appId ++ lit "/delete")
  let held ← requireResourceLeaseOrReply resource.text (requestMetadata config request)
  if ¬ held then
    return ()
  else
    let loaded ← runtimeAppIsLoaded appId
    if loaded then
      failDelete appId "delete active app rejected" "delete active app rejected" 409
    else
      let memory ← inspect
      let artifact := ArtifactStore.get memory.artifacts appId
      if ¬ config.removeAvailable then
        failDelete appId "artifact delete unavailable" "artifact delete unavailable" 500
      else if artifact = none then
        failDelete appId "artifact missing" "artifact missing" 404
      else
        let path := (deletePath config artifact appId).text
        let ret : Int ← perform (.file (.unlink path))
        if ret ≠ 0 then
          failDelete appId "artifact remove failed" "artifact remove failed" 500
        else
          forgetApp config request path

/-- `neuro_unit_update_service_handle_action`. -/
def handleAction (config : Config) (request : Request) : ServiceM Unit :=
  if request.action = lit "prepare" then handleUpdatePrepare config request
  else if request.action = lit "verify" then handleUpdateVerify config request
  else if request.action = lit "activate" then handleUpdateActivate config request
  else if request.action = lit "rollback" ∨ request.action = lit "recover" then
    handleUpdateRollback config request
  else if request.action = lit "delete" then handleUpdateDelete config request
  else replyError "unsupported update path" 404

end NeuroLink.UpdateService
