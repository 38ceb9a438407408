import NeuroLink.AcknowledgedState
import NeuroLink.HeldSeed

/-!
The gate of a boot that has a seed. The gate counts as open before the seed is loaded, and
returns zero whatever the load gives; so it hydrates the managers exactly when the load works.
Requests that follow a load that failed save the seed anew from managers that never had it.
-/

namespace NeuroLink.GateHydration

open CText Errno EffectProgram MemoryProgram CallContract UpdateManager UpdateService UpdateTables
open FileSystem (Volume)
open RecoverySeed SeedSnapshot SeedStore SeedFiles SeedDevice UpdateRecovery Checkpoints
open SeedUpkeep HeldSeed

/-- What reconciling makes of the update entries, one application after another. -/
inductive Reconciling : Manager → Manager → Prop where
  | done {manager : Manager} : Reconciling manager manager
  | entry {before after : Manager} (earlier : Reconciling before after) (appId : Text)
      (runtimeActive available : Bool) :
      Reconciling before (reconcileAfterBoot after appId runtimeActive available).2

/-- The managers after a boot: the snapshot was applied to empty ones and then reconciled. -/
structure Hydrated (snapshot : Snapshot) (memory : Memory) : Prop where
  updates : Reconciling
    (SeedSnapshot.applySnapshot snapshot UpdateManager.init ArtifactStore.init).2.1
    memory.updates
  artifacts : memory.artifacts =
    (SeedSnapshot.applySnapshot snapshot UpdateManager.init ArtifactStore.init).2.2

section Reconcile

variable {memory : Memory} {snapshot : Snapshot}

theorem Reconciling.of_init {before left : Manager} (reconciling : Reconciling before left)
    (empty : left = UpdateManager.init) : before = UpdateManager.init := by
  induction reconciling with
  | done => exact empty
  | entry earlier appId runtimeActive available ih =>
      refine ih ?_
      unfold reconcileAfterBoot amend at empty
      split at empty
      · exact empty
      split at empty
      · exact empty
      · next slot entry found =>
          dsimp only at empty
          have there := congrArg (fun table : Manager => table[slot]) empty
          simp [UpdateManager.init] at there

theorem artifactAvailable_ensures (found : Option ArtifactStore.Meta) :
    Ensures (fun _ left => left = memory) (artifactAvailable found) memory := by
  cases found with
  | none => exact .pure rfl
  | some artifact =>
      unfold artifactAvailable artifactPathAvailable
      dsimp only
      split
      · exact .pure rfl
      · refine .seq (Ensures.perform fun _ => rfl) fun found left same => ?_
        cases found with
        | error error => exact .pure same.symm
        | ok ent => exact .pure same.symm

theorem reconcileEntries_hydrates (entries : List Entry) (hydrated : Hydrated snapshot memory) :
    Ensures (fun _ after => Hydrated snapshot after) (reconcileEntries entries) memory := by
  induction entries generalizing memory with
  | nil => exact hydrated
  | cons entry rest ih =>
      have active : Ensures (fun _ left => left = memory)
          (runtimeAppIsActive entry.appId.text) memory :=
        Ensures.seq (Ensures.perform fun _ => rfl) fun _ _ same => .pure same.symm
      have available : Ensures (fun _ left => left = memory)
          (artifactAvailable (ArtifactStore.get memory.artifacts entry.appId.text)) memory :=
        artifactAvailable_ensures _
      have round : Ensures (fun _ left => Hydrated snapshot left) (reconcileEntry entry)
          memory := by
        refine .bind (.inspect (.seq active fun running _ same => ?_))
        rw [same]
        refine .seq available fun there _ same => ?_
        rw [same]
        have reconciled : Hydrated snapshot { memory with
            updates := (reconcileAfterBoot memory.updates entry.appId.text running there).2 } :=
          ⟨.entry hydrated.updates _ _ _, hydrated.artifacts⟩
        refine .bind (.edit (.bind (.inspect ?_)))
        split
        · exact .perform fun _ => reconciled
        · exact .pure reconciled
      exact .seq round fun _ _ kept => ih kept

theorem reconcile_hydrates (hydrated : Hydrated snapshot memory) :
    Ensures (fun _ left => Hydrated snapshot left) reconcileRecoverySeedAfterBoot memory := by
  refine .bind (.inspect (.seq (reconcileEntries_hydrates _ hydrated) fun _ left kept => ?_))
  refine .seq (?_ : Ensures (fun _ saved => saved = left) saveSnapshot left) fun _ saved same =>
    .pure (same ▸ kept)
  refine .bind (.inspect ?_)
  cases buildSnapshot left.updates left.artifacts with
  | error error => exact .pure rfl
  | ok snapshot => exact .perform fun _ => rfl

end Reconcile

section Gate

variable {store : Store} {outcomes : List Outcome} {replies : List Answer} {board : Board}

/-- The code of the mount, which is the first call of the gate. -/
def mountCode (outcomes : List Outcome) : Int := (outcomes.headD default).call.code

/-- The load of the gate, which is its second call. -/
def seedLoad (store : Store) (outcomes : List Outcome) (flash : Volume) :
    Except Int Snapshot × Volume :=
  run FileSystem.machine (outcomes.tail.headD default).files (load store) flash

/-- The gate of a unit that was not booted before, which may have turned requests away. -/
def gate (store : Store) (outcomes : List Outcome) (replies : List Answer) (board : Board) :
    (Int × Memory) × Board :=
  run (machine store) outcomes
    (ensureRecoverySeedInitialized { UpdateWorld.booted with replies := replies }) board

def afterLoad : Except Int Snapshot → ServiceM Int
  | .ok snapshot => do
      let ret ← UpdateService.applySnapshot snapshot
      if ret = 0 then
        reconcileRecoverySeedAfterBoot
        publishUpdateEvent (lit "system") "recovery" "ok" (lit "boot reconciliation complete")
        return 0
      else
        publishUpdateEvent (lit "system") "recovery" "error" (lit "seed apply failed")
        return 0
  | .error error =>
      if error ≠ -enoent then do
        publishUpdateEvent (lit "system") "recovery" "error" (lit "seed load failed")
        return 0
      else
        return 0

theorem gate_start : gate store outcomes replies board = run (machine store) outcomes.tail
    ((if mountCode outcomes ≠ 0 then (return mountCode outcomes)
      else do
        markSeedInitialized
        let loaded : Except Int Snapshot ← perform .loadSeed
        afterLoad loaded : ServiceM Int) { UpdateWorld.booted with replies := replies })
    board :=
  rfl

theorem gate_deferred (refused : mountCode outcomes ≠ 0) :
    gate store outcomes replies board =
      ((mountCode outcomes, { UpdateWorld.booted with replies := replies }), board) := by
  rw [gate_start, if_pos refused]
  rfl

theorem gate_mounted (mounted : mountCode outcomes = 0) :
    gate store outcomes replies board = run (machine store) outcomes.tail.tail
      (afterLoad (seedLoad store outcomes board.flash).1 (UpdateRuns.opened replies))
      { board with flash := (seedLoad store outcomes board.flash).2 } := by
  rw [gate_start, if_neg (not_not.mpr mounted)]
  rfl

theorem gate_unloaded {error : Int} (mounted : mountCode outcomes = 0)
    (failed : (seedLoad store outcomes board.flash).1 = .error error) :
    (gate store outcomes replies board).1 = (0, UpdateRuns.opened replies) := by
  rw [gate_mounted mounted, failed]
  unfold afterLoad
  dsimp only
  split <;> rfl

theorem gate_loaded {snapshot : Snapshot} (mounted : mountCode outcomes = 0)
    (loaded : (seedLoad store outcomes board.flash).1 = .ok snapshot) :
    readNode (held store board.flash) = .ok snapshot ∧
      Hydrated snapshot (gate store outcomes replies board).1.2 := by
  have found : readNode (held store board.flash) = .ok snapshot :=
    load_held.run (outcomes.tail.headD default).files (fun _ _ => trivial) snapshot loaded
  have applies := applySnapshot_few (readNode_few found) UpdateManager.init ArtifactStore.init
  have hydrates : Ensures (fun _ left => Hydrated snapshot left) (afterLoad (.ok snapshot))
      (UpdateRuns.opened replies) := by
    refine .bind (.edit ?_)
    dsimp only [UpdateRuns.opened, UpdateWorld.booted]
    rw [if_pos applies]
    refine .seq (reconcile_hydrates ⟨.done, rfl⟩) fun _ left kept => ?_
    exact .seq (Ensures.perform fun _ => kept) fun _ _ same => .pure same
  refine ⟨found, ?_⟩
  rw [gate_mounted mounted, loaded]
  exact hydrates.run _ _ _

/-- The gate returns zero only if the snapshot that is held has been applied. -/
def OpensHydrated (store : Store) (outcomes : List Outcome) (replies : List Answer)
    (board : Board) : Prop :=
  (gate store outcomes replies board).1.1 = 0 →
    ∃ snapshot, readNode (held store board.flash) = .ok snapshot ∧
      Hydrated snapshot (gate store outcomes replies board).1.2

/-- The snapshot has nothing that applying it would put into the managers. -/
def Vacant (snapshot : Snapshot) : Prop :=
  (SeedSnapshot.applySnapshot snapshot UpdateManager.init ArtifactStore.init).2 =
    (UpdateManager.init, ArtifactStore.init)

theorem hydrated_opened_iff {snapshot : Snapshot} :
    Hydrated snapshot (UpdateRuns.opened replies) ↔ Vacant snapshot := by
  constructor
  · intro hydrated
    exact Prod.ext (hydrated.updates.of_init rfl) hydrated.artifacts.symm
  · intro vacant
    have updates := congrArg Prod.fst vacant
    have artifacts := congrArg Prod.snd vacant
    dsimp only at updates artifacts
    refine ⟨?_, ?_⟩
    · rw [updates]
      exact .done
    · rw [artifacts]
      rfl

/-- The gate does so exactly when it stays shut, when the load works, and when there is nothing
to apply. -/
theorem opens_hydrated_iff : OpensHydrated store outcomes replies board ↔
    mountCode outcomes ≠ 0 ∨
      (∃ snapshot, (seedLoad store outcomes board.flash).1 = .ok snapshot) ∨
      ∃ snapshot, readNode (held store board.flash) = .ok snapshot ∧ Vacant snapshot := by
  unfold OpensHydrated
  by_cases mounted : mountCode outcomes = 0
  swap
  · refine iff_of_true (fun opened => ?_) (.inl mounted)
    rw [gate_deferred mounted] at opened
    exact absurd opened mounted
  cases loaded : (seedLoad store outcomes board.flash).1 with
  | ok snapshot =>
      exact iff_of_true (fun _ => ⟨snapshot, gate_loaded mounted loaded⟩)
        (.inr (.inl ⟨snapshot, rfl⟩))
  | error error =>
      rw [gate_unloaded mounted loaded]
      simp only [hydrated_opened_iff, mounted, ne_eq, not_true_eq_false, reduceCtorEq,
        exists_false, false_or, forall_const]

end Gate

/-! The requests after the gate. -/

section Boot

variable {config : Config} {store : Store} {keep : Text → Prop} {flash : Volume}

/-- The call is no load of the seed that fails. -/
def loadWorks (event : Event Effect EffectReply Board) : Prop :=
  match event with
  | ⟨.loadSeed, _, reply, _⟩ => ∃ snapshot, reply = .ok snapshot
  | _ => True

/-- A save has the applications to keep. -/
def savesListed (keep : Text → Prop) (event : Event Effect EffectReply Board) : Prop :=
  match event with
  | ⟨.saveSeed snapshot, _, _, _⟩ => ∀ appId, keep appId → Lists snapshot appId
  | _ => True

def EveryCall (config : Config) (store : Store) (good : Event Effect EffectReply Board → Prop)
    (device : Device) : Turn → Prop
  | .serve request outcomes | .powerLoss request outcomes .. =>
      Meets (machine store) good outcomes (UpdateWorld.serve config request device.memory)
        device.board
  | .applications _ => True

/-- What holds of every call in a run. -/
def Throughout (config : Config) (store : Store) (good : Event Effect EffectReply Board → Prop) :
    Device → List Turn → Prop
  | _, [] => True
  | device, turn :: rest =>
      EveryCall config store good device turn ∧
        Throughout config store good (turn.take config store device) rest

/-- A turn of the boot that is going on. -/
def Turn.goesOn : Turn → Bool
  | .serve .. | .applications _ => true
  | .powerLoss .. => false

/-- A unit in a boot whose loads work: the seed is as it was until the gate opens. -/
structure Retaining (config : Config) (store : Store) (keep : Text → Prop) (flash : Volume)
    (device : Device) : Prop where
  between : Between config keep device.memory.replies device.memory
  sound : Sound config store device.board
  waiting : device.memory.seedInitialized = false → device.board.flash = flash

theorem untrusted_trustworthy (event : Event Effect EffectReply Board) :
    Trustworthy keep ⟨False, False⟩ event := by
  obtain ⟨effect, before, reply, left⟩ := event
  cases effect with
  | saveSeed snapshot => exact False.elim
  | loadSeed =>
      cases reply with
      | error error => exact False.elim
      | ok snapshot => exact False.elim
  | _ => trivial

theorem owes_listed {event : Event Effect EffectReply Board}
    (paid : (terms config keep ⟨False, False⟩).owes event.op) : savesListed keep event := by
  obtain ⟨effect, before, reply, left⟩ := event
  cases effect with
  | saveSeed snapshot => exact paid.2
  | _ => trivial

theorem secures_run {Result : Type} {service : ServiceM Result} {memory : Memory} {board : Board}
    {post : Result → Memory → Option Snapshot → Prop}
    (secures : Secures (terms config keep ⟨False, False⟩) post service memory none)
    (sound : Sound config store board) (outcomes : List Outcome) :
    Meets (machine store) (savesListed keep) outcomes (service memory) board ∧
      Sound config store (run (machine store) outcomes (service memory) board).2 ∧
      ∃ left, post (run (machine store) outcomes (service memory) board).1.1
        (run (machine store) outcomes (service memory) board).1.2 left := by
  have provides : Provides (terms config keep ⟨False, False⟩) (machine store)
      (Trustworthy keep ⟨False, False⟩) (Sound config store) (Backs store) := machine_provides
  have trusted : Meets (machine store) (Trustworthy keep ⟨False, False⟩) outcomes
      (service memory) board := fun event _ => untrusted_trustworthy event
  have nothing : Backs store none board := fun _ same => nomatch same
  have holds := Honours.holds secures provides sound nothing
  obtain ⟨left, _, done⟩ := holds.run outcomes trusted
  have paid := Honours.paid secures provides sound nothing outcomes trusted
  exact ⟨fun event member => owes_listed (paid event member),
    holds.states outcomes trusted _ (run_mem_states _ _ _ _), left, done⟩

def afterSeed (loaded : Except Int Snapshot) : ServiceM Unit := do
  let _ ← afterLoad loaded
  return ()

theorem afterSeed_secures {replies : List Answer} {seed : Snapshot}
    (keeping : Keeping config keep seed) :
    Secures (terms config keep ⟨False, False⟩) (fun _ after _ => Pending config keep replies after)
      (afterSeed (.ok seed)) (UpdateRuns.opened replies) none := by
  obtain ⟨applies, restored⟩ := restored_pending keeping replies
  have loaded : Secures (terms config keep ⟨False, False⟩)
      (fun _ after _ => Pending config keep replies after)
      (afterLoad (.ok seed)) (UpdateRuns.opened replies) none := by
    refine .edit ?_
    dsimp only [UpdateRuns.opened, UpdateWorld.booted]
    rw [if_pos applies]
    exact (reconcile_secures restored).seq fun _ after left kept =>
      call_then id fun _ => .pure kept
  exact loaded.seq fun _ _ _ kept => .pure kept

def afterMount (replies : List Answer) (ret : Int) : Program Effect EffectReply (Unit × Memory) :=
  if ret ≠ 0 then .pure ((), { UpdateWorld.booted with replies := replies })
  else .call .loadSeed fun loaded => afterSeed loaded (UpdateRuns.opened replies)

theorem serve_gate (replies : List Answer) :
    UpdateWorld.serve config none { UpdateWorld.booted with replies := replies } =
      .call .storageMount fun ret => afterMount replies ret := by
  have program : UpdateWorld.serve config none { UpdateWorld.booted with replies := replies } =
      .call .storageMount fun ret => ((if ret ≠ (0 : Int) then (return ret)
        else do
          markSeedInitialized
          let loaded : Except Int Snapshot ← perform .loadSeed
          afterLoad loaded : ServiceM Int) >>= fun _ => return ())
        { UpdateWorld.booted with replies := replies } := rfl
  rw [program]
  refine congrArg _ (funext fun ret => ?_)
  unfold afterMount
  split <;> rfl

theorem gate_retains {replies : List Answer} {board : Board} {outcomes : List Outcome}
    {seed : Snapshot} (sound : Sound config store board)
    (seeded : readNode (held store board.flash) = .ok seed)
    (lists : ∀ appId, keep appId → Lists seed appId)
    (loads : Meets (machine store) loadWorks outcomes
      (UpdateWorld.serve config none { UpdateWorld.booted with replies := replies }) board) :
    Meets (machine store) (savesListed keep) outcomes
        (UpdateWorld.serve config none { UpdateWorld.booted with replies := replies }) board ∧
      Retaining config store keep board.flash
        ((Turn.serve none outcomes).take config store
          ⟨{ UpdateWorld.booted with replies := replies }, board⟩) := by
  rw [serve_gate] at loads ⊢
  rw [Turn.take, serve_gate]
  have later := (meets_call.mp loads).2
  rw [meets_call]
  change Meets (machine store) loadWorks outcomes.tail
    (afterMount replies (mountCode outcomes)) board at later
  change (True ∧ Meets (machine store) (savesListed keep) outcomes.tail
      (afterMount replies (mountCode outcomes)) board) ∧
    Retaining config store keep board.flash
      ⟨(run (machine store) outcomes.tail (afterMount replies (mountCode outcomes)) board).1.2,
        (run (machine store) outcomes.tail (afterMount replies (mountCode outcomes)) board).2⟩
  rw [true_and]
  unfold afterMount at later ⊢
  by_cases mounted : mountCode outcomes ≠ 0
  · rw [if_pos mounted]
    exact ⟨fun _ member => (nomatch member),
      ⟨⟨fun ready => (nomatch ready), fun _ => rfl⟩, sound, fun _ => rfl⟩⟩
  rw [if_neg mounted] at later ⊢
  obtain ⟨⟨snapshot, loaded⟩, _⟩ := meets_call.mp later
  change (seedLoad store outcomes board.flash).1 = .ok snapshot at loaded
  have finds := load_finds sound
  have meets : Meets FileSystem.machine (fun _ => True) (outcomes.tail.headD default).files
      (load store) board.flash := fun _ _ => trivial
  -- a load that works gives what the flash holds, whichever file it came from
  have same : snapshot = seed := by
    have found := load_held.run (outcomes.tail.headD default).files meets snapshot loaded
    rw [seeded] at found
    exact (Except.ok.inj found).symm
  rw [same] at loaded
  have keeping : Keeping config keep seed :=
    ⟨finds.run (outcomes.tail.headD default).files meets seed loaded, lists⟩
  have still : Sound config store { board with flash := (seedLoad store outcomes board.flash).2 } :=
    finds.states (outcomes.tail.headD default).files meets _ (run_mem_states _ _ _ _)
  obtain ⟨saves, kept, _, pending⟩ := secures_run (afterSeed_secures keeping) still
    outcomes.tail.tail
  rw [meets_call]
  change (True ∧ Meets (machine store) (savesListed keep) outcomes.tail.tail
      (afterSeed (seedLoad store outcomes board.flash).1 (UpdateRuns.opened replies))
      { board with flash := (seedLoad store outcomes board.flash).2 }) ∧
    Retaining config store keep board.flash
      ⟨(run (machine store) outcomes.tail.tail
          (afterSeed (seedLoad store outcomes board.flash).1 (UpdateRuns.opened replies))
          { board with flash := (seedLoad store outcomes board.flash).2 }).1.2,
        (run (machine store) outcomes.tail.tail
          (afterSeed (seedLoad store outcomes board.flash).1 (UpdateRuns.opened replies))
          { board with flash := (seedLoad store outcomes board.flash).2 }).2⟩
  rw [loaded, true_and]
  refine ⟨saves, .of_pending ⟨pending.toSteady, rfl⟩, kept, fun closed => ?_⟩
  exact absurd (pending.initialized.symm.trans closed) (by decide)

theorem serve_steady {memory : Memory} {replies : List Answer}
    (pending : Pending config keep replies memory) {request : Option Request}
    (announces : ∀ asked ∈ request, Announces config asked)
    (spared : ∀ asked ∈ request, asked.action = lit "delete" → ¬ keep asked.appId.text) :
    Secures (terms config keep ⟨False, False⟩)
      (fun _ left _ => Pending config keep left.replies left)
      (UpdateWorld.serve config request) memory none := by
  cases request with
  | none =>
      have opened : Secures (terms config keep ⟨False, False⟩) (fun _ left _ => left = memory)
          ensureRecoverySeedInitialized memory none := by
        refine .inspect ?_
        rw [if_pos pending.initialized]
        exact .pure rfl
      refine opened.seq fun _ left _ same => ?_
      rw [same]
      exact .pure ⟨pending.toSteady, rfl⟩
  | some request =>
      refine .inspect ?_
      rw [if_pos pending.initialized]
      exact (handleAction_ends pending (announces request rfl) (spared request rfl)).weaken
        fun _ left _ answered => ⟨answered.toSteady, rfl⟩

/-- A turn of the boot saves no snapshot without the applications to keep. -/
theorem take_retains {device : Device} {turn : Turn} {seed : Snapshot}
    (retaining : Retaining config store keep flash device)
    (seeded : readNode (held store flash) = .ok seed)
    (lists : ∀ appId, keep appId → Lists seed appId) (goesOn : Turn.goesOn turn = true)
    (announces : ∀ asked ∈ turn.request, Announces config asked)
    (spared : ∀ asked ∈ turn.request, asked.action = lit "delete" → ¬ keep asked.appId.text)
    (loads : EveryCall config store loadWorks device turn) :
    EveryCall config store (savesListed keep) device turn ∧
      Retaining config store keep flash (turn.take config store device) := by
  cases turn with
  | applications runtime =>
      exact ⟨trivial, retaining.between, retaining.sound, retaining.waiting⟩
  | powerLoss request outcomes calls inside runtime => cases goesOn
  | serve request outcomes =>
      cases opened : device.memory.seedInitialized with
      | true =>
          have steady := serve_steady (retaining.between.ready opened) announces spared
          obtain ⟨saves, sound, _, pending⟩ := secures_run steady retaining.sound outcomes
          exact ⟨saves, .of_pending pending, sound,
            fun closed => absurd (pending.initialized.symm.trans closed) (by decide)⟩
      | false =>
          have still := retaining.waiting opened
          have idle := retaining.between.idle opened
          obtain ⟨memory, board⟩ := device
          obtain ⟨replies, rfl⟩ : ∃ replies,
              memory = { UpdateWorld.booted with replies := replies } := ⟨_, idle⟩
          cases request with
          | none =>
              have gates := gate_retains retaining.sound (still ▸ seeded) lists loads
              rw [still] at gates
              exact gates
          | some request =>
              -- the request is turned away
              exact ⟨fun _ member => (nomatch member),
                ⟨fun ready => (nomatch ready), fun _ => rfl⟩, retaining.sound, fun _ => still⟩

theorem run_retains {seed : Snapshot} (seeded : readNode (held store flash) = .ok seed)
    (lists : ∀ appId, keep appId → Lists seed appId) {turns : List Turn}
    (goOn : ∀ turn ∈ turns, Turn.goesOn turn = true)
    (announced : ∀ turn ∈ turns, ∀ asked ∈ turn.request, Announces config asked)
    (spared : ∀ turn ∈ turns, ∀ asked ∈ turn.request,
      asked.action = lit "delete" → ¬ keep asked.appId.text)
    {device : Device} (retaining : Retaining config store keep flash device)
    (loads : Throughout config store loadWorks device turns) :
    Throughout config store (savesListed keep) device turns := by
  induction turns generalizing device with
  | nil => trivial
  | cons turn rest ih =>
      obtain ⟨goesOn, laterOn⟩ := List.forall_mem_cons.mp goOn
      obtain ⟨announces, laterAnnounced⟩ := List.forall_mem_cons.mp announced
      obtain ⟨spares, laterSpared⟩ := List.forall_mem_cons.mp spared
      obtain ⟨saves, kept⟩ :=
        take_retains retaining seeded lists goesOn announces spares loads.1
      exact ⟨saves, ih laterOn laterAnnounced laterSpared kept loads.2⟩

end Boot

/-- The seed lists the application, and no request of the boot deletes it. -/
def Persisted (seed : Snapshot) (turns : List Turn) (appId : Text) : Prop :=
  Lists seed appId ∧ ∀ turn ∈ turns, ∀ asked ∈ turn.request,
    asked.action = lit "delete" → asked.appId.text ≠ appId

/-- In a boot with a seed, the gate returns zero only after applying it exactly when it stays
shut, when its load works, or when there is nothing to apply. And in every boot whose loads work,
no request saves a snapshot without the applications of the seed. -/
theorem gate_hydrates (config : Config) (store : Store) (world : UpdateWorld.World)
    (flash : Volume) :
    (held store flash ≠ none → ∀ outcomes replies,
      (OpensHydrated store outcomes replies ⟨world, flash⟩ ↔
        mountCode outcomes ≠ 0 ∨ (∃ snapshot, (seedLoad store outcomes flash).1 = .ok snapshot) ∨
          ∃ snapshot, readNode (held store flash) = .ok snapshot ∧ Vacant snapshot)) ∧
    ∀ (turns : List Turn) (seed : Snapshot), Wholesome (Restorable config) store flash →
      readNode (held store flash) = .ok seed → (∀ turn ∈ turns, Turn.goesOn turn = true) →
      (∀ turn ∈ turns, ∀ asked ∈ turn.request, Announces config asked) →
      Throughout config store loadWorks (fresh world flash) turns →
      Throughout config store (savesListed (Persisted seed turns)) (fresh world flash) turns := by
  refine ⟨fun _ outcomes replies => opens_hydrated_iff, ?_⟩
  intro turns seed own seeded goOn announced loads
  have start : Retaining config store (Persisted seed turns) flash (fresh world flash) :=
    ⟨⟨fun ready => (nomatch ready), fun _ => rfl⟩, own, fun _ => rfl⟩
  exact run_retains seeded (fun _ kept => kept.1) goOn announced
    (fun turn member asked there delete kept => kept.2 turn member asked there delete rfl)
    start loads

/-! A seed that cannot be read at boot, and the prepare of another application. -/

def valveEntry : SeedEntry := { demoEntry with artifactState := .none }

def valveFlash : Volume := fun path =>
  if path = lit "/SD:" then some .dir
  else if path = defaultPath then some (.file (image ⟨[valveEntry]⟩))
  else none

theorem valveFlash_held : readNode (held (SeedStore.init none) valveFlash) = .ok ⟨[valveEntry]⟩ :=
  readNode_image ⟨[valveEntry]⟩ (by decide)

theorem valveFlash_own (config : Config) :
    Wholesome (Restorable config) (SeedStore.init none) valveFlash := by
  intro place member snapshot reads
  have stored : place = (SeedStore.init none).path.text := by
    by_contra other
    have absent : valveFlash place = none := by
      simp only [places, List.mem_cons, List.not_mem_nil, or_false] at member
      rcases member with rfl | rfl | rfl
      · exact absurd rfl other
      · decide
      · decide
    rw [absent] at reads
    cases reads
  rw [stored] at reads
  change readNode (some (.file (image ⟨[valveEntry]⟩))) = .ok snapshot at reads
  rw [readNode_image ⟨[valveEntry]⟩ (by decide)] at reads
  cases reads
  refine ⟨⟨by decide, by decide, ?_⟩, ?_, ?_⟩
  · intro entry listed
    rw [List.mem_singleton.mp listed]
    decide
  · intro entry listed
    rw [List.mem_singleton.mp listed]
    decide
  · intro entry listed has
    rw [List.mem_singleton.mp listed] at has
    exact absurd has (by decide)

def hydratedTurns : List Turn := [.serve none [], .serve (some AcknowledgedState.sideload) []]

/-- `loadWorks`, as it is computed. -/
def loadReturns (event : Event Effect EffectReply Board) : Bool :=
  match event with
  | ⟨.loadSeed, _, reply, _⟩ => Except.isOk reply
  | _ => true

set_option maxRecDepth 30000 in
/-- The entry that the seed holds goes into every snapshot of the boot. -/
theorem hydrated_seed_kept :
    Throughout UpdateWorld.demoConfig (SeedStore.init none)
        (savesListed (Persisted ⟨[valveEntry]⟩ hydratedTurns))
        (fresh UpdateWorld.demoDevice.world valveFlash) hydratedTurns ∧
      Persisted ⟨[valveEntry]⟩ hydratedTurns (lit "demo") := by
  refine ⟨?_, ⟨valveEntry, List.mem_singleton.mpr rfl, by decide⟩, ?_⟩
  · have gate : (events (machine (SeedStore.init none)) [] (UpdateWorld.serve
        UpdateWorld.demoConfig none (fresh UpdateWorld.demoDevice.world valveFlash).memory)
        (fresh UpdateWorld.demoDevice.world valveFlash).board).all loadReturns = true := by
      decide +kernel
    have prepare : (events (machine (SeedStore.init none)) [] (UpdateWorld.serve
        UpdateWorld.demoConfig (some AcknowledgedState.sideload)
        ((Turn.serve none []).take UpdateWorld.demoConfig (SeedStore.init none)
          (fresh UpdateWorld.demoDevice.world valveFlash)).memory)
        ((Turn.serve none []).take UpdateWorld.demoConfig (SeedStore.init none)
          (fresh UpdateWorld.demoDevice.world valveFlash)).board).all loadReturns = true := by
      decide +kernel
    have announced : ∀ turn ∈ hydratedTurns, ∀ asked ∈ turn.request,
        Announces UpdateWorld.demoConfig asked := fun turn _ asked _ => announces_of_word rfl asked
    refine (gate_hydrates UpdateWorld.demoConfig (SeedStore.init none)
      UpdateWorld.demoDevice.world valveFlash).2 hydratedTurns ⟨[valveEntry]⟩ (valveFlash_own _)
      valveFlash_held (by decide) announced ?_
    have works : ∀ event : Event Effect EffectReply Board, loadReturns event = true →
        loadWorks event := by
      rintro ⟨effect, before, reply, left⟩ returned
      cases effect with
      | loadSeed =>
          cases reply with
          | ok snapshot => exact ⟨snapshot, rfl⟩
          | error error => cases returned
      | _ => trivial
    exact ⟨fun event member => works event (List.all_eq_true.mp gate event member),
      fun event member => works event (List.all_eq_true.mp prepare event member), trivial⟩
  · intro turn listed asked there delete
    simp only [hydratedTurns, List.mem_cons, List.not_mem_nil, or_false] at listed
    rcases listed with rfl | rfl
    · cases there
    · cases there
      exact absurd delete (by decide)

def unread : List Outcome := [⟨UpdateWorld.works, []⟩, AcknowledgedState.saveFails]

def overwritingTurns : List Turn :=
  [.serve none unread, .serve (some AcknowledgedState.sideload) []]

def savedIds (events : List (Event Effect EffectReply Board)) : List (List Text) :=
  events.filterMap fun event =>
    match event with
    | ⟨.saveSeed snapshot, _, _, _⟩ => some (snapshot.entries.map (·.appId.text))
    | _ => none

/-- The gate returns zero without the seed, and the prepare saves one without its application. -/
theorem unread_seed_overwritten :
    (¬ ∀ (store : Store) (world : UpdateWorld.World) (flash : Volume), held store flash ≠ none →
      ∀ outcomes replies, OpensHydrated store outcomes replies ⟨world, flash⟩) ∧
    ¬ ∀ (config : Config) (store : Store) (world : UpdateWorld.World) (flash : Volume)
      (turns : List Turn) (seed : Snapshot), Wholesome (Restorable config) store flash →
      readNode (held store flash) = .ok seed → (∀ turn ∈ turns, Turn.goesOn turn = true) →
      (∀ turn ∈ turns, ∀ asked ∈ turn.request, Announces config asked) →
      Throughout config store (savesListed (Persisted seed turns)) (fresh world flash) turns := by
  constructor
  · intro claimed
    have opens := claimed (SeedStore.init none) UpdateWorld.demoDevice.world valveFlash
      (by decide +kernel) unread []
    rcases opens_hydrated_iff.mp opens with deferred | ⟨snapshot, loaded⟩ | ⟨seed, reads, vacant⟩
    · exact absurd rfl deferred
    · have failed : (seedLoad (SeedStore.init none) unread valveFlash).1.isOk = false := by
        decide +kernel
      rw [loaded] at failed
      cases failed
    · rw [valveFlash_held] at reads
      cases reads
      have count := congrArg (fun managers => (SlotTable.entries managers.1).length) vacant
      exact absurd count (by decide +kernel)
  · intro claimed
    have announced : ∀ turn ∈ overwritingTurns, ∀ asked ∈ turn.request,
        Announces UpdateWorld.demoConfig asked := fun turn _ asked _ =>
      announces_of_word rfl asked
    have throughout := claimed UpdateWorld.demoConfig (SeedStore.init none)
      UpdateWorld.demoDevice.world valveFlash overwritingTurns ⟨[valveEntry]⟩ (valveFlash_own _)
      valveFlash_held (by decide) announced
    -- the saved snapshot lists the new application alone
    have ids : savedIds (events (machine (SeedStore.init none)) []
        (UpdateWorld.serve UpdateWorld.demoConfig (some AcknowledgedState.sideload)
          ((Turn.serve none unread).take UpdateWorld.demoConfig (SeedStore.init none)
            (fresh UpdateWorld.demoDevice.world valveFlash)).memory)
        ((Turn.serve none unread).take UpdateWorld.demoConfig (SeedStore.init none)
          (fresh UpdateWorld.demoDevice.world valveFlash)).board) = [[lit "pump"]] := by
      decide +kernel
    obtain ⟨event, member, same⟩ := List.mem_filterMap.mp
      (show [lit "pump"] ∈ savedIds _ by rw [ids]; exact List.mem_singleton.mpr rfl)
    have saves := throughout.2.1 event member
    obtain ⟨effect, before, reply, left⟩ := event
    cases effect with
    | saveSeed snapshot =>
        have kept : Persisted ⟨[valveEntry]⟩ overwritingTurns (lit "demo") := by
          refine ⟨⟨valveEntry, List.mem_singleton.mpr rfl, by decide⟩, ?_⟩
          intro turn listed asked there delete
          simp only [overwritingTurns, List.mem_cons, List.not_mem_nil, or_false] at listed
          rcases listed with rfl | rfl
          · cases there
          · cases there
            exact absurd delete (by decide)
        obtain ⟨entry, among, own⟩ := saves (lit "demo") kept
        have named : lit "demo" ∈ snapshot.entries.map (·.appId.text) :=
          own ▸ List.mem_map_of_mem among
        rw [Option.some.inj same] at named
        exact absurd named (by decide)
    | _ => cases same

end NeuroLink.GateHydration
