import NeuroLink.SeedRestoration
import NeuroLink.SeedUpkeep

/-!
What a crash finds after a success was answered. The handlers of prepare, verify, activate and
rollback answer with success whatever the save of the seed returns. When the saves of the request
return zero, the seed file gives back the managers that the answer is about.
-/

namespace NeuroLink.AcknowledgedState

open CText EffectProgram CallContract UpdateManager UpdateService UpdateTables
open RecoverySeed SeedSnapshot SeedStore SeedAtomicity SeedFiles SeedDevice SeedRestoration
open UpdateRecovery Checkpoints SeedUpkeep

/-- The seed file loads back to a snapshot from which the managers come back as they are. -/
def Recovers (store : Store) (flash : FileSystem.Volume) (memory : Memory) : Prop :=
  ∃ snapshot restored stored, loaded store flash = .ok snapshot ∧
    SeedSnapshot.applySnapshot snapshot UpdateManager.init ArtifactStore.init =
      (0, restored, stored) ∧
    Restores memory.updates memory.artifacts restored stored

def saveReturnsZero (event : Event Effect EffectReply Board) : Bool :=
  match event with
  | ⟨.saveSeed _, _, reply, _⟩ => decide (reply = (0 : Int))
  | _ => true

section Turns

variable {config : Config} {store : Store} {device : Device}

/-- What every turn keeps of a unit with a seed of its own, whatever its files do. -/
structure Healthy (config : Config) (store : Store) (device : Device) : Prop where
  between : Between config (fun _ => False) device.memory.replies device.memory
  sound : Sound config store device.board

theorem any_trustworthy (event : Event Effect EffectReply Board) :
    Trustworthy (fun _ => False) ⟨True, False⟩ event := by
  obtain ⟨effect, before, reply, after⟩ := event
  cases effect with
  | saveSeed snapshot => exact False.elim
  | loadSeed =>
      cases reply with
      | error error => exact fun _ _ => id
      | ok snapshot => exact fun _ _ => False.elim
  | _ => trivial

theorem any_provides : Provides (terms config (fun _ => False) ⟨True, False⟩) (machine store)
    (fun _ => True) (Sound config store) (Backs store) :=
  fun outcome effect known board paid sound backs _ =>
    machine_provides outcome effect known board paid sound backs (any_trustworthy _)

theorem take_healthy (healthy : Healthy config store device) {turn : Turn}
    (announces : ∀ asked ∈ turn.request, Announces config asked) :
    Healthy config store (turn.take config store device) := by
  have serves : ∀ request : Option Request, (∀ asked ∈ request, Announces config asked) →
      Secures (terms config (fun _ => False) ⟨True, False⟩)
        (fun _ after left => Left config (fun _ => False) ⟨True, False⟩ device.memory after left)
        (UpdateWorld.serve config request) device.memory none := fun _ announces =>
    serve_secures healthy.between (fun _ => trivial) announces fun _ _ _ => id
  have nothing : Backs store none device.board := fun _ same => nomatch same
  cases turn with
  | serve request outcomes =>
      have holds := Honours.holds (serves request announces) any_provides healthy.sound nothing
      obtain ⟨left, _, kept⟩ := holds.run outcomes fun _ _ => trivial
      exact ⟨kept.1, holds.states outcomes (fun _ _ => trivial) _ (run_mem_states _ _ _ _)⟩
  | applications runtime => exact ⟨healthy.between, healthy.sound⟩
  | powerLoss request outcomes calls inside runtime =>
      have sound := Honours.crashed (serves request announces) any_provides
        (fun outcome effect board => passes_sound outcome effect board) healthy.sound nothing
        outcomes calls inside
      exact ⟨⟨fun ready => (nomatch ready), fun _ => rfl⟩, sound⟩

theorem after_healthy {turns : List Turn} (healthy : Healthy config store device)
    (announces : ∀ turn ∈ turns, ∀ asked ∈ turn.request, Announces config asked) :
    Healthy config store (after config store device turns) :=
  @after_invariant config store (Healthy config store)
    (fun turn => ∀ asked ∈ turn.request, Announces config asked)
    (fun _ _ announces healthy => take_healthy healthy announces) turns announces _ healthy

end Turns

section Managers

variable {config : Config} {store : Store} {keep : Text → Prop} {memory : Memory}

theorem Between.managers {replies : List Answer} (between : Between config keep replies memory) :
    Tidy config memory.updates memory.artifacts ∧ Small memory.artifacts := by
  cases opened : memory.seedInitialized with
  | true => exact ⟨(between.ready opened).tidy, (between.ready opened).small⟩
  | false =>
      have pending : Pending config (fun _ => False) replies (UpdateRuns.opened replies) :=
        opened_pending (fun _ => id) replies
      rw [between.idle opened]
      exact ⟨pending.tidy, pending.small⟩

theorem recovers_of_stored {path : Option Text} {flash : FileSystem.Volume}
    {snapshot : Snapshot} (tidy : Tidy config memory.updates memory.artifacts)
    (small : Small memory.artifacts) (named : (SeedStore.init path).path.text ≠ [])
    (built : buildSnapshot memory.updates memory.artifacts = .ok snapshot)
    (stored : Stored (SeedStore.init path) flash snapshot) :
    Recovers (SeedStore.init path) flash memory := by
  obtain ⟨other, same, restorable⟩ := snapshot_built tidy
  rw [built] at same
  cases same
  obtain ⟨restored, artifacts, applied, _⟩ :=
    applySnapshot_restores restorable.toComplete UpdateManager.init ArtifactStore.init
  obtain ⟨updates, again, through, restores⟩ :=
    throughSeed_restores tidy fun appId artifact => small.found
  rw [throughSeed_applied built restorable.few applied] at through
  cases through
  exact ⟨snapshot, restored, artifacts, loaded_of_stored (init_addressed path named) stored,
    applied, restores⟩

end Managers

/-- After any turns, power losses between and within the calls of the service included, a
request that is answered with success and whose saves of the seed returned zero has left a seed
file that gives back the managers, the update entry, the stable reference and the artifact of
each application as they are. The sizes that are announced are below 2^32, as they all are where
`size_t` has 32 bits. -/
theorem acknowledged_recovers (config : Config) (path : Option Text) (world : UpdateWorld.World)
    (flash : FileSystem.Volume) (turns : List Turn) (request : Request) (outcomes : List Outcome)
    (action : Text) (reply : UpdateReply)
    (own : Wholesome (Restorable config) (SeedStore.init path) flash)
    (announced : ∀ turn ∈ turns ++ [.serve (some request) outcomes],
      ∀ asked ∈ turn.request, Announces config asked)
    (saved : let device := after config (SeedStore.init path) (fresh world flash) turns
      Meets (machine (SeedStore.init path)) (fun event => saveReturnsZero event) outcomes
        (UpdateWorld.serve config (some request) device.memory) device.board)
    (accepted : let device := after config (SeedStore.init path) (fresh world flash) turns
      ((Turn.serve (some request) outcomes).take config (SeedStore.init path)
        device).memory.replies = device.memory.replies ++ [.accepted action reply]) :
    let done := (Turn.serve (some request) outcomes).take config (SeedStore.init path)
      (after config (SeedStore.init path) (fresh world flash) turns)
    Recovers (SeedStore.init path) done.board.flash done.memory := by
  have start : Healthy config (SeedStore.init path) (fresh world flash) :=
    ⟨⟨fun ready => (nomatch ready), fun _ => rfl⟩, own⟩
  have healthy := after_healthy start fun turn member =>
    announced turn (List.mem_append_left _ member)
  -- only the saves have to be trusted: a load may return whatever it finds
  have trustworthy : ∀ event, saveReturnsZero event →
      Trustworthy (fun _ => False) ⟨True, True⟩ event := by
    intro event zero
    obtain ⟨effect, before, result, left⟩ := event
    cases effect with
    | saveSeed snapshot => exact fun _ => of_decide_eq_true zero
    | loadSeed =>
        cases result with
        | error error => exact fun _ _ => id
        | ok snapshot => exact fun _ _ => False.elim
    | _ => trivial
  have serves : Secures (terms config (fun _ => False) ⟨True, True⟩)
      (fun _ after left => Left config (fun _ => False) ⟨True, True⟩ _ after left)
      (UpdateWorld.serve config (some request)) _ none :=
    serve_secures healthy.between (fun _ => trivial)
      (announced _ (List.mem_append_right _ (List.mem_singleton.mpr rfl))) fun _ _ _ => id
  have holds := Honours.holds serves machine_provides healthy.sound fun _ same => nomatch same
  obtain ⟨known, backs, between, answered⟩ := holds.run outcomes fun event member =>
    trustworthy event (saved event member)
  obtain ⟨snapshot, same, built⟩ := answered action reply accepted trivial
  obtain ⟨named, stored⟩ := backs snapshot same
  obtain ⟨tidy, small⟩ := Between.managers between
  exact recovers_of_stored tidy small named built stored

/-! A unit without a seed, and a prepare of an artifact that comes by other means. -/

def emptyFlash : FileSystem.Volume := fun _ => none

theorem emptyFlash_own (config : Config) (store : Store) :
    Wholesome (Restorable config) store emptyFlash := by
  intro place member snapshot reads
  cases reads

def bootTurns : List Turn := [.serve none []]

def sideload : Request := UpdateWorld.demoRequest "prepare" "\x7b\"transport\":\"usb\"\x7d"

def sideloadReply : UpdateReply :=
  { okReply UpdateWorld.demoConfig sideload with
    path := (buildAppPath UpdateWorld.demoConfig (lit "pump") : Buffer 96).text
    transport := lit "usb" }

theorem sideload_announced (turns : List Turn) (outcomes : List Outcome)
    (boots : turns = bootTurns) : ∀ turn ∈ turns ++ [.serve (some sideload) outcomes],
      ∀ asked ∈ turn.request, Announces UpdateWorld.demoConfig asked := by
  have announces : Announces UpdateWorld.demoConfig sideload := announces_of_word rfl sideload
  intro turn member asked there
  rw [boots] at member
  simp only [bootTurns, List.cons_append, List.nil_append, List.mem_cons, List.not_mem_nil,
    or_false] at member
  rcases member with rfl | rfl
  · cases there
  · cases there
    exact announces

theorem sideload_recovers :
    let done := (Turn.serve (some sideload) []).take UpdateWorld.demoConfig (SeedStore.init none)
      (after UpdateWorld.demoConfig (SeedStore.init none)
        (fresh UpdateWorld.demoDevice.world emptyFlash) bootTurns)
    Recovers (SeedStore.init none) done.board.flash done.memory := by
  refine acknowledged_recovers UpdateWorld.demoConfig none UpdateWorld.demoDevice.world emptyFlash
    bootTurns sideload [] (lit "prepare") sideloadReply (emptyFlash_own _ _)
    (sideload_announced _ _ rfl) ?_ (by decide +kernel)
  unfold Meets
  decide +kernel

def saveFails : Outcome := ⟨UpdateWorld.works, [.fails (-Errno.eio) (by decide) 0]⟩

/-- The prepare is answered with success, and there is no seed to load. -/
theorem unsaved_acknowledged :
    ¬ ∀ (config : Config) (path : Option Text) (world : UpdateWorld.World)
      (flash : FileSystem.Volume) (turns : List Turn) (request : Request)
      (outcomes : List Outcome) (action : Text) (reply : UpdateReply),
      Wholesome (Restorable config) (SeedStore.init path) flash →
      (∀ turn ∈ turns ++ [.serve (some request) outcomes],
        ∀ asked ∈ turn.request, Announces config asked) →
      (let device := after config (SeedStore.init path) (fresh world flash) turns
      ((Turn.serve (some request) outcomes).take config (SeedStore.init path)
        device).memory.replies = device.memory.replies ++ [.accepted action reply]) →
      let done := (Turn.serve (some request) outcomes).take config (SeedStore.init path)
        (after config (SeedStore.init path) (fresh world flash) turns)
      Recovers (SeedStore.init path) done.board.flash done.memory := by
  intro claimed
  obtain ⟨snapshot, _, _, found, _⟩ := claimed UpdateWorld.demoConfig none
    UpdateWorld.demoDevice.world emptyFlash bootTurns sideload [saveFails] (lit "prepare")
    sideloadReply (emptyFlash_own _ _) (sideload_announced _ _ rfl) (by decide +kernel)
  have missing : (loaded (SeedStore.init none)
      ((Turn.serve (some sideload) [saveFails]).take UpdateWorld.demoConfig (SeedStore.init none)
        (after UpdateWorld.demoConfig (SeedStore.init none)
          (fresh UpdateWorld.demoDevice.world emptyFlash) bootTurns)).board.flash).isOk =
      false := by
    decide +kernel
  rw [found] at missing
  cases missing

end NeuroLink.AcknowledgedState
