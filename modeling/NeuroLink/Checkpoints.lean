import Mathlib.Algebra.Group.Nat.Defs
import NeuroLink.SeedDevice

/-!
What the update service owes its seed. It saves only snapshots to restore from, which list the
applications it has to keep, and it answers with success only when the last snapshot it saved is
the one of its managers. The handlers are walked once, against a contract for the two calls of
the seed.
-/

namespace NeuroLink.Checkpoints

open CText EffectProgram MemoryProgram CallContract UpdateManager UpdateService UpdateTables
open RecoverySeed SeedSnapshot SeedStore SeedAtomicity SeedFiles SeedDevice UpdateRecovery

def Lists (snapshot : Snapshot) (appId : Text) : Prop :=
  ∃ entry ∈ snapshot.entries, entry.appId.text = appId

def Keeping (config : Config) (keep : Text → Prop) (snapshot : Snapshot) : Prop :=
  Restorable config snapshot ∧ ∀ appId, keep appId → Lists snapshot appId

/-- Whether a program may load the seed, and whether it may count on its saves. -/
structure Trust where
  loads : Prop
  saves : Prop

/-- What a load returns, which fails only if there is nothing to keep, and, when saves are
trusted, what a save returns. -/
def Granted (config : Config) (keep : Text → Prop) (trusted : Trust) :
    (effect : Effect) → EffectReply effect → Prop
  | .loadSeed, .ok snapshot => Keeping config keep snapshot
  | .loadSeed, .error _ => ∀ appId, ¬ keep appId
  | .saveSeed _, code => trusted.saves → code = (0 : Int)
  | _, _ => True

/-- The contract for the seed. What is known is the snapshot that a save has just stored. -/
def terms (config : Config) (keep : Text → Prop) (trusted : Trust) :
    Contract Effect EffectReply (Option Snapshot) where
  owes
    | .saveSeed snapshot => Keeping config keep snapshot
    | .loadSeed => trusted.loads
    | _ => True
  grants := Granted config keep trusted
  learns
    | .saveSeed snapshot, code, _ => if code = (0 : Int) then some snapshot else none
    | .loadSeed, _, _ => none
    | _, _, known => known

section Board

variable {config : Config} {keep : Text → Prop} {trusted : Trust} {store : Store}

def Trustworthy (keep : Text → Prop) (trusted : Trust) (event : Event Effect EffectReply Board) :
    Prop :=
  match event with
  | ⟨.saveSeed _, _, reply, _⟩ => trusted.saves → reply = (0 : Int)
  | ⟨.loadSeed, _, .ok snapshot, _⟩ => trusted.loads → ∀ appId, keep appId → Lists snapshot appId
  | ⟨.loadSeed, _, .error _, _⟩ => trusted.loads → ∀ appId, ¬ keep appId
  | _ => True

def Sound (config : Config) (store : Store) (board : Board) : Prop :=
  Wholesome (Restorable config) store board.flash

def Backs (store : Store) (known : Option Snapshot) (board : Board) : Prop :=
  ∀ snapshot, known = some snapshot →
    store.path.text ≠ [] ∧ Stored store board.flash snapshot

theorem granted_of_found {reply : Except Int Snapshot} {board left : Board}
    (loads : trusted.loads) (found : ∀ snapshot, reply = .ok snapshot → Restorable config snapshot)
    (trustworthy : Trustworthy keep trusted ⟨.loadSeed, board, reply, left⟩) :
    Granted config keep trusted .loadSeed reply := by
  cases reply with
  | error error => exact trustworthy loads
  | ok snapshot => exact ⟨found snapshot rfl, trustworthy loads⟩

theorem machine_provides : Provides (terms config keep trusted) (machine store)
    (Trustworthy keep trusted) (Sound config store) (Backs store) := by
  intro outcome effect known board paid sound backs trustworthy
  cases effect with
  | saveSeed snapshot =>
      have saves := save_saves paid.1 sound
      have meets : Meets FileSystem.machine (fun _ => True) outcome.files (save store snapshot)
          board.flash := fun _ _ => trivial
      refine ⟨trustworthy, ?_, fun stored same => ?_⟩
      · exact saves.states outcome.files meets _ (run_mem_states _ _ _ _)
      · change (if _ = (0 : Int) then some snapshot else none) = some stored at same
        split at same
        · next zero =>
            cases same
            exact ⟨save_named zero, saves.run outcome.files meets zero⟩
        · cases same
  | loadSeed =>
      have finds := load_finds sound
      have meets : Meets FileSystem.machine (fun _ => True) outcome.files (load store)
          board.flash := fun _ _ => trivial
      refine ⟨?_, ?_, fun _ same => nomatch same⟩
      · exact granted_of_found paid (finds.run outcome.files meets) trustworthy
      · exact finds.states outcome.files meets _ (run_mem_states _ _ _ _)
  | _ => exact ⟨trivial, sound, backs⟩

theorem passes_sound (outcome : Outcome) (effect : Effect) (board : Board)
    (paid : (terms config keep trusted).owes effect) (sound : Sound config store board) :
    ∀ passed ∈ passes store outcome effect board, Sound config store passed := by
  intro passed member
  cases effect with
  | saveSeed snapshot =>
      obtain ⟨flash, visited, rfl⟩ := List.mem_map.mp member
      exact (save_saves paid.1 sound).states outcome.files (fun _ _ => trivial) flash visited
  | loadSeed =>
      obtain ⟨flash, visited, rfl⟩ := List.mem_map.mp member
      exact (load_finds sound).states outcome.files (fun _ _ => trivial) flash visited
  | _ =>
      rw [List.mem_singleton.mp member]
      exact sound

end Board

/-! Artifact sizes as the seed stores them. -/

/-- Every stored size is one of 32 bits. -/
def Small (store : ArtifactStore.Store) : Prop :=
  ∀ (slot : Fin ArtifactStore.maxEntries) (artifact : ArtifactStore.Meta),
    store[slot] = some artifact → artifact.sizeBytes < 2 ^ 32

section Sizes

variable {store : ArtifactStore.Store}

theorem Small.put (small : Small store) {slot : Fin ArtifactStore.maxEntries}
    {content : Option ArtifactStore.Meta}
    (fits : ∀ artifact, content = some artifact → artifact.sizeBytes < 2 ^ 32) :
    Small (store.set slot content slot.isLt) := by
  intro other artifact there
  rw [SlotTable.getElem_put] at there
  split at there
  · exact fits artifact there
  · exact small other artifact there

theorem Small.setState (small : Small store) (appId : Text) (state : ArtifactStore.State) :
    Small (ArtifactStore.setState store appId state).2 := by
  unfold ArtifactStore.setState
  split
  · exact small
  · cases found : ArtifactStore.findEntry store appId with
    | none => exact small
    | some pair =>
        refine small.put fun artifact same => ?_
        cases same
        exact small pair.1 pair.2 (SlotTable.find_content found)

theorem Small.removed (small : Small store) (appId : Text) :
    Small (ArtifactStore.remove store appId).2 := by
  unfold ArtifactStore.remove
  split
  · exact small
  · cases ArtifactStore.findEntry store appId with
    | none => exact small
    | some pair => exact small.put nofun

theorem Small.staged (small : Small store) {size : Nat} (fits : size < 2 ^ 32)
    (appId transport key path : Text) (chunkSize received : Nat) :
    Small (ArtifactStore.stage store appId transport key path size chunkSize received).2 := by
  unfold ArtifactStore.stage
  split
  · exact small
  · cases ArtifactStore.findEntry store appId with
    | some pair =>
        refine small.put fun artifact same => ?_
        cases same
        exact fits
    | none =>
        dsimp only
        split
        · exact small
        · refine small.put fun artifact same => ?_
          cases same
          exact fits

theorem Small.found (small : Small store) {appId : Text} {artifact : ArtifactStore.Meta}
    (present : ArtifactStore.get store appId = some artifact) : artifact.sizeBytes < 2 ^ 32 := by
  unfold ArtifactStore.get at present
  split at present
  · cases present
  · obtain ⟨slot, found⟩ := SlotTable.lookup_some present
    exact small slot artifact (SlotTable.find_content found)

end Sizes

end NeuroLink.Checkpoints
