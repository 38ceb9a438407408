import NeuroLink.CText
import NeuroLink.Errno
import NeuroLink.SlotTable

/-!
The artifact store: for each application the file its artifact was downloaded
to, where it came from, and how far it was accepted.
-/

namespace NeuroLink.ArtifactStore

open CText Errno SlotTable

/-- `enum neuro_artifact_state`, read back from storage unchecked like the
update state. -/
inductive State where
  | none
  | staged
  | verified
  | active
  | invalid
  | unknown (code : UInt32) (beyond : 5 ≤ code)
  deriving DecidableEq

/-- `struct neuro_artifact_meta` of a used entry. -/
structure Meta where
  appId : Buffer 32
  transport : Buffer 16
  artifactKey : Buffer 128
  path : Buffer 128
  sizeBytes : Nat
  chunkSize : Nat
  chunksReceived : Nat
  state : State
  deriving DecidableEq

abbrev maxEntries : Nat := 4

abbrev Store := Table Meta maxEntries

def Meta.id (entry : Meta) : Text := entry.appId.text

def findEntry (store : Store) (appId : Text) : Option (Fin maxEntries × Meta) :=
  findKey Meta.id store appId

def init : Store := SlotTable.empty

def stagedMeta (appId : Buffer 32) (transport artifactKey path : Text)
    (sizeBytes chunkSize chunksReceived : Nat) : Meta where
  appId := appId
  transport := copyBounded transport
  artifactKey := copyBounded artifactKey
  path := copyBounded path
  sizeBytes := sizeBytes
  chunkSize := chunkSize
  chunksReceived := chunksReceived
  state := .staged

def stage (store : Store) (appId transport artifactKey path : Text)
    (sizeBytes chunkSize chunksReceived : Nat) : Int × Store :=
  if appId = [] ∨ path = [] then (-einval, store) else
  match findEntry store appId with
  | some (slot, entry) =>
      (0, store.set slot (some (stagedMeta entry.appId transport artifactKey path
        sizeBytes chunkSize chunksReceived)))
  | none =>
      match vacant store with
      | none => (-enospc, store)
      | some slot =>
          (0, store.set slot (some (stagedMeta (copyBounded appId) transport artifactKey
            path sizeBytes chunkSize chunksReceived)))

def setState (store : Store) (appId : Text) (state : State) : Int × Store :=
  if appId = [] then (-einval, store) else
  match findEntry store appId with
  | none => (-enoent, store)
  | some (slot, entry) => (0, store.set slot (some { entry with state := state }))

def remove (store : Store) (appId : Text) : Int × Store :=
  if appId = [] then (-einval, store) else
  match findEntry store appId with
  | none => (-enoent, store)
  | some (slot, _) => (0, store.set slot none)

def exportEntries (store : Store) (maxEntries : Nat) : List Meta :=
  (SlotTable.entries store).take maxEntries

def importEntries (store : Store) (entries : List Meta) : Int × Store :=
  if entries.length > maxEntries then (-enospc, store) else (0, ofEntries entries)

def get (store : Store) (appId : Text) : Option Meta :=
  if appId = [] then none else lookup Meta.id store appId

end NeuroLink.ArtifactStore
