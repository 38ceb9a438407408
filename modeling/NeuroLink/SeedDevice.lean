import NeuroLink.CallContract
import NeuroLink.SeedFiles
import NeuroLink.UpdateRecovery

/-!
The unit with the files of its seed. Saving and loading the seed are runs of the seed store on a
volume; every other call goes to the surroundings as before. A power loss may come between two
calls of the service or between two file operations of one of them.
-/

namespace NeuroLink.SeedDevice

open CText EffectProgram FileSystem UpdateService RecoverySeed SeedStore
open UpdateWorld (World booted)

/-- The surroundings, and the volume with the files of the seed, which are none of the
applications' files. They stand for the `seed` of the world, which is not used here. -/
structure Board where
  world : World
  flash : Volume

/-- What the environment makes of one call of the service: one outcome for the call, and one
for each file operation of the seed store in it. -/
structure Outcome where
  call : UpdateWorld.Outcome
  files : List FileSystem.Outcome

instance : Inhabited Outcome := ⟨⟨default, []⟩⟩

def step (store : Store) (outcome : Outcome) :
    (effect : Effect) → Board → EffectReply effect × Board
  | .saveSeed snapshot, board =>
      let saved := run FileSystem.machine outcome.files (save store snapshot) board.flash
      (saved.1, { board with flash := saved.2 })
  | .loadSeed, board =>
      let loaded := run FileSystem.machine outcome.files (load store) board.flash
      (loaded.1, { board with flash := loaded.2 })
  | effect, board =>
      let done := UpdateWorld.step outcome.call effect board.world
      (done.1, { board with world := done.2 })

def machine (store : Store) : Machine Effect EffectReply Board Outcome := ⟨step store⟩

def passes (store : Store) (outcome : Outcome) : Effect → Board → List Board
  | .saveSeed snapshot, board =>
      (states FileSystem.machine outcome.files (save store snapshot) board.flash).map
        fun flash => { board with flash := flash }
  | .loadSeed, board =>
      (states FileSystem.machine outcome.files (load store) board.flash).map
        fun flash => { board with flash := flash }
  | _, board => [board]

structure Device where
  memory : Memory
  board : Board

def fresh (world : World) (flash : Volume) : Device := ⟨booted, ⟨world, flash⟩⟩

inductive Turn where
  | serve (request : Option Request) (outcomes : List Outcome)
  | applications (runtime : AppRuntime.Runtime)
  | powerLoss (request : Option Request) (outcomes : List Outcome) (calls inside : Nat)
      (runtime : AppRuntime.Runtime)

/-- The request that a turn serves, to its end or not. -/
def Turn.request : Turn → Option Request
  | .serve request _ | .powerLoss request .. => request
  | .applications _ => none

def Turn.take (config : Config) (store : Store) (device : Device) : Turn → Device
  | .serve request outcomes =>
      let done := run (machine store) outcomes (UpdateWorld.serve config request device.memory)
        device.board
      ⟨done.1.2, done.2⟩
  | .applications runtime =>
      ⟨device.memory, { device.board with world := { device.board.world with runtime } }⟩
  | .powerLoss request outcomes calls inside runtime =>
      let left := CallContract.crashed (machine store) (passes store) outcomes
        (UpdateWorld.serve config request device.memory) device.board calls inside
      ⟨booted, { left with world := { left.world with runtime } }⟩

def after (config : Config) (store : Store) (device : Device) (turns : List Turn) : Device :=
  turns.foldl (Turn.take config store) device

/-- What holds at the start and survives each turn of a run holds after it. -/
theorem after_invariant {config : Config} {store : Store} {invariant : Device → Prop}
    {condition : Turn → Prop}
    (kept : ∀ device turn, condition turn → invariant device →
      invariant (turn.take config store device))
    (turns : List Turn) (all : ∀ turn ∈ turns, condition turn) {device : Device}
    (start : invariant device) : invariant (after config store device turns) := by
  induction turns generalizing device with
  | nil => exact start
  | cons turn rest ih =>
      obtain ⟨first, later⟩ := List.forall_mem_cons.mp all
      exact ih later (kept device turn first start)

section Steps

variable {store : Store} {outcome : Outcome} {board : Board}

def OfSeed : Effect → Prop
  | .saveSeed _ | .loadSeed => True
  | _ => False

end Steps

end NeuroLink.SeedDevice
