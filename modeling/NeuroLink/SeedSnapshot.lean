import NeuroLink.RecoverySeed

/-!
Between the managers and the recovery seed: one seed entry for each application,
merged from its update entry and its artifact entry, and split again at boot.
-/

namespace NeuroLink.SeedSnapshot

open CText Errno RecoverySeed

/-- The entry `find_or_add_seed_entry` adds. -/
def addedEntry (appId : Text) : SeedEntry where
  used := true
  appId := copyBounded appId
  updateState := .none
  updateLastError := .empty
  rollbackReason := .empty
  stableRef := .empty
  artifactState := .none
  artifactTransport := .empty
  artifactKey := .empty
  artifactPath := .empty
  sizeBytes := 0
  chunkSize := 0
  chunksReceived := 0

def amendEntry (appId : Text) (merge : SeedEntry → SeedEntry) :
    List SeedEntry → Option (List SeedEntry)
  | [] => none
  | entry :: rest =>
      if entry.used ∧ entry.appId.text = appId then some (merge entry :: rest)
      else (amendEntry appId merge rest).map (entry :: ·)

/-- The entry of the application rewritten, or one added behind the others;
nothing when there is no room for it. -/
def mergeEntry (entries : List SeedEntry) (appId : Text) (merge : SeedEntry → SeedEntry) :
    Option (List SeedEntry) :=
  match amendEntry appId merge entries with
  | some amended => some amended
  | none =>
      if entries.length ≥ maxEntries then none
      else some (entries ++ [merge (addedEntry appId)])

def mergeUpdate (update : UpdateManager.Entry) (entry : SeedEntry) : SeedEntry :=
  { entry with
    updateState := update.state
    updateLastError := copyBounded update.lastError.text
    rollbackReason := copyBounded update.rollbackReason.text
    stableRef := copyBounded update.stableRef.text }

def mergeArtifact (artifact : ArtifactStore.Meta) (entry : SeedEntry) : SeedEntry :=
  { entry with
    artifactState := artifact.state
    artifactTransport := copyBounded artifact.transport.text
    artifactKey := copyBounded artifact.artifactKey.text
    artifactPath := copyBounded artifact.path.text
    sizeBytes := UInt32.ofNat artifact.sizeBytes
    chunkSize := UInt32.ofNat artifact.chunkSize
    chunksReceived := UInt32.ofNat artifact.chunksReceived }

def mergeUpdates : List UpdateManager.Entry → List SeedEntry → Option (List SeedEntry)
  | [], entries => some entries
  | update :: rest, entries =>
      (mergeEntry entries update.appId.text (mergeUpdate update)).bind (mergeUpdates rest)

def mergeArtifacts : List ArtifactStore.Meta → List SeedEntry → Option (List SeedEntry)
  | [], entries => some entries
  | artifact :: rest, entries =>
      (mergeEntry entries artifact.appId.text (mergeArtifact artifact)).bind
        (mergeArtifacts rest)

/-- `neuro_recovery_seed_build_snapshot`. -/
def buildSnapshot (updates : UpdateManager.Manager) (artifacts : ArtifactStore.Store) :
    Except Int Snapshot :=
  match (mergeUpdates (UpdateManager.exportEntries updates UpdateManager.maxEntries) []).bind
      (mergeArtifacts (ArtifactStore.exportEntries artifacts ArtifactStore.maxEntries)) with
  | some entries => .ok ⟨entries⟩
  | none => .error (-enospc)

def updateOf (entry : SeedEntry) : UpdateManager.Entry where
  appId := copyBounded entry.appId.text
  state := entry.updateState
  lastError := copyBounded entry.updateLastError.text
  rollbackReason := copyBounded entry.rollbackReason.text
  stableRef := copyBounded entry.stableRef.text

def artifactOf (entry : SeedEntry) : ArtifactStore.Meta where
  appId := copyBounded entry.appId.text
  transport := copyBounded entry.artifactTransport.text
  artifactKey := copyBounded entry.artifactKey.text
  path := copyBounded entry.artifactPath.text
  sizeBytes := entry.sizeBytes.toNat
  chunkSize := entry.chunkSize.toNat
  chunksReceived := entry.chunksReceived.toNat
  state := entry.artifactState

def named (entry : SeedEntry) : Bool := entry.used ∧ entry.appId.text ≠ []

def hasUpdate (entry : SeedEntry) : Bool :=
  entry.updateState ≠ .none ∨ entry.updateLastError.text ≠ [] ∨
    entry.rollbackReason.text ≠ [] ∨ entry.stableRef.text ≠ []

def hasArtifact (entry : SeedEntry) : Bool :=
  entry.artifactState ≠ .none ∨ entry.artifactPath.text ≠ [] ∨ entry.artifactKey.text ≠ []

/-- `neuro_recovery_seed_apply_snapshot`: what it returns and the two managers. -/
def applySnapshot (snapshot : Snapshot) (updates : UpdateManager.Manager)
    (artifacts : ArtifactStore.Store) :
    Int × UpdateManager.Manager × ArtifactStore.Store :=
  if snapshot.entries.length > maxEntries then (-eoverflow, updates, artifacts) else
  let used := snapshot.entries.filter named
  let updateEntries := ((used.filter hasUpdate).map updateOf).take UpdateManager.maxEntries
  let artifactEntries :=
    ((used.filter hasArtifact).map artifactOf).take ArtifactStore.maxEntries
  let (ret, updates) := UpdateManager.importEntries updates updateEntries
  if ret ≠ 0 then (ret, updates, artifacts) else
  let (ret, artifacts) := ArtifactStore.importEntries artifacts artifactEntries
  (ret, updates, artifacts)

end NeuroLink.SeedSnapshot
