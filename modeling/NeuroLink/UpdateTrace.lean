import Mathlib.Data.List.Induction
import NeuroLink.UpdateManager

/-!
Histories of update-manager calls. A run is a list of public operations from the
initial manager, each recorded with the value it returned. `Move` is the state
machine the operations implement on one entry; `progress` reads off a state
which stages must lie behind it.
-/

namespace NeuroLink.UpdateTrace

open CText Errno SlotTable UpdateManager

/-- The public operations that change the manager. -/
inductive Op where
  | prepareBegin (appId : Text)
  | prepareComplete (appId : Text)
  | prepareFail (appId reason : Text)
  | verifyBegin (appId : Text)
  | verifyComplete (appId : Text)
  | verifyFail (appId reason : Text)
  | activateBegin (appId : Text)
  | activateComplete (appId : Text)
  | activateFail (appId reason : Text)
  | recordStableRef (appId stableRef : Text)
  | remove (appId : Text)
  | rollbackBegin (appId reason : Text)
  | rollbackMarkInProgress (appId : Text)
  | rollbackComplete (appId : Text)
  | rollbackFail (appId reason : Text)
  | reconcileAfterBoot (appId : Text) (runtimeActive artifactAvailable : Bool)
  deriving DecidableEq

namespace Op

def appId : Op → Text
  | prepareBegin appId | prepareComplete appId | prepareFail appId _
  | verifyBegin appId | verifyComplete appId | verifyFail appId _
  | activateBegin appId | activateComplete appId | activateFail appId _
  | recordStableRef appId _ | remove appId | rollbackBegin appId _
  | rollbackMarkInProgress appId | rollbackComplete appId | rollbackFail appId _
  | reconcileAfterBoot appId _ _ => appId

def apply (manager : Manager) : Op → Int × Manager
  | prepareBegin appId => UpdateManager.prepareBegin manager appId
  | prepareComplete appId => UpdateManager.prepareComplete manager appId
  | prepareFail appId reason => UpdateManager.prepareFail manager appId reason
  | verifyBegin appId => UpdateManager.verifyBegin manager appId
  | verifyComplete appId => UpdateManager.verifyComplete manager appId
  | verifyFail appId reason => UpdateManager.verifyFail manager appId reason
  | activateBegin appId => UpdateManager.activateBegin manager appId
  | activateComplete appId => UpdateManager.activateComplete manager appId
  | activateFail appId reason => UpdateManager.activateFail manager appId reason
  | recordStableRef appId ref => UpdateManager.recordStableRef manager appId ref
  | remove appId => UpdateManager.remove manager appId
  | rollbackBegin appId reason => UpdateManager.rollbackBegin manager appId reason
  | rollbackMarkInProgress appId =>
      UpdateManager.rollbackMarkInProgress manager appId
  | rollbackComplete appId => UpdateManager.rollbackComplete manager appId
  | rollbackFail appId reason => UpdateManager.rollbackFail manager appId reason
  | reconcileAfterBoot appId runtimeActive artifactAvailable =>
      UpdateManager.reconcileAfterBoot manager appId runtimeActive artifactAvailable

/-- The operations outside the stage sequence: noting the stable reference and
comparing the entry with what is found after a boot. -/
def bookkeeping : Op → Bool
  | recordStableRef .. | reconcileAfterBoot .. => true
  | _ => false

end Op

structure Log where
  manager : Manager
  calls : List (Op × Int)

def step (log : Log) (op : Op) : Log where
  manager := (op.apply log.manager).2
  calls := log.calls ++ [(op, (op.apply log.manager).1)]

def run (ops : List Op) : Log := ops.foldl step ⟨init, []⟩

/-- One call's effect on the trail of an application: a successful prepare
starts a new trail, any other success is added to the one there is. -/
def note (appId : Text) (trail : Option (List Op)) (call : Op × Int) :
    Option (List Op) :=
  if call.1.appId = appId ∧ call.2 = 0 then
    if call.1 = .prepareBegin appId then some [] else trail.map (· ++ [call.1])
  else trail

/-- The successful operations on the application since its last successful
prepare, oldest first; none when it was never prepared. -/
def sinceLastPrepare (appId : Text) (calls : List (Op × Int)) : Option (List Op) :=
  calls.foldl (note appId) none

/-- The operations that lead from an admitted prepare to `ACTIVE`. -/
def activation (appId : Text) : List Op :=
  [.prepareComplete appId, .verifyBegin appId, .verifyComplete appId,
    .activateBegin appId, .activateComplete appId]

/-- What the four query functions report of an application. -/
structure Observation where
  state : State
  stableRef : Text
  rollbackReason : Text
  lastError : Text
  deriving DecidableEq

def observe (manager : Manager) (appId : Text) : Observation where
  state := stateFor manager appId
  stableRef := stableRefFor manager appId
  rollbackReason := rollbackReasonFor manager appId
  lastError := lastErrorFor manager appId

inductive Move : Op → State → State → Prop
  | prepareBegin (appId) {state} : ¬ Busy state →
      Move (.prepareBegin appId) state .preparing
  | prepareComplete (appId) : Move (.prepareComplete appId) .preparing .prepared
  | prepareFail (appId reason) {state} :
      state = .prepareRequested ∨ state = .preparing →
      Move (.prepareFail appId reason) state .failed
  | verifyBegin (appId) : Move (.verifyBegin appId) .prepared .verifying
  | verifyComplete (appId) : Move (.verifyComplete appId) .verifying .verified
  | verifyFail (appId reason) : Move (.verifyFail appId reason) .verifying .failed
  | activateBegin (appId) : Move (.activateBegin appId) .verified .activating
  | activateComplete (appId) : Move (.activateComplete appId) .activating .active
  | activateFail (appId reason) :
      Move (.activateFail appId reason) .activating .failed
  | recordStableRef (appId ref) {state} : Move (.recordStableRef appId ref) state state
  | rollbackBegin (appId reason) {state} : state = .active ∨ state = .failed →
      Move (.rollbackBegin appId reason) state .rollbackPending
  | rollbackMarkInProgress (appId) :
      Move (.rollbackMarkInProgress appId) .rollbackPending .rollingBack
  | rollbackComplete (appId) : Move (.rollbackComplete appId) .rollingBack .rolledBack
  | rollbackFail (appId reason) {state} :
      state = .rollbackPending ∨ state = .rollingBack →
      Move (.rollbackFail appId reason) state .failed
  | reconcileKept (appId runtimeActive artifactAvailable) {state} :
      Move (.reconcileAfterBoot appId runtimeActive artifactAvailable) state state
  | reconcileFailed (appId runtimeActive artifactAvailable) {state} :
      Move (.reconcileAfterBoot appId runtimeActive artifactAvailable) state .failed

/-- Everything a call can do: return an error and change nothing, move the entry
that was found, create one for a first prepare, or clear one. -/
inductive Outcome (manager : Manager) (op : Op) : Prop
  | rejected (error : Int) (failed : error ≠ 0)
      (result : op.apply manager = (error, manager))
  | moved (slot : Fin maxEntries) (entry next : Entry) (named : op.appId ≠ [])
      (found : findEntry manager op.appId = some (slot, entry))
      (kept : next.appId = entry.appId) (move : Move op entry.state next.state)
      (result : op.apply manager = (0, manager.set slot (some next) slot.isLt))
  | created (slot : Fin maxEntries) (next : Entry) (named : op.appId ≠ [])
      (prepare : op = .prepareBegin op.appId)
      (missing : findEntry manager op.appId = none)
      (free : vacant manager = some slot)
      (owner : next.appId = copyBounded op.appId) (fresh : next.state = .preparing)
      (result : op.apply manager = (0, manager.set slot (some next) slot.isLt))
  | cleared (slot : Fin maxEntries) (entry : Entry) (named : op.appId ≠ [])
      (removal : op = .remove op.appId)
      (found : findEntry manager op.appId = some (slot, entry))
      (result : op.apply manager = (0, manager.set slot none slot.isLt))

theorem amend_outcome {manager : Manager} {op : Op} {missing : Int}
    {refuses : Entry → Option Int} {edit : Entry → Entry}
    (missingError : missing ≠ 0)
    (refusalError : ∀ entry error, refuses entry = some error → error ≠ 0)
    (applies : op.apply manager = amend manager op.appId missing refuses edit)
    (kept : ∀ entry, (edit entry).appId = entry.appId)
    (move : ∀ entry, refuses entry = none → Move op entry.state (edit entry).state) :
    Outcome manager op := by
  rcases amend_cases manager op.appId missing refuses edit missingError refusalError with
    ⟨error, failed, result⟩ | ⟨slot, entry, named, found, accepted, result⟩
  · exact .rejected error failed (applies.trans result)
  · exact .moved slot entry (edit entry) named found (kept entry)
      (move entry accepted) (applies.trans result)

theorem reconciled_appId (runtimeActive artifactAvailable : Bool) (entry : Entry) :
    (reconciled runtimeActive artifactAvailable entry).appId = entry.appId := by
  unfold reconciled
  split
  all_goals first | rfl | (split <;> rfl)

theorem reconciled_state (runtimeActive artifactAvailable : Bool) (entry : Entry) :
    (reconciled runtimeActive artifactAvailable entry).state = entry.state ∨
      (reconciled runtimeActive artifactAvailable entry).state = .failed := by
  unfold reconciled
  split
  all_goals first | exact .inl rfl | exact .inr rfl | skip
  all_goals split
  all_goals first | exact .inl rfl | exact .inr rfl

theorem apply_outcome (manager : Manager) (op : Op) : Outcome manager op := by
  cases op with
  | prepareBegin appId =>
      rcases prepareBegin_cases manager appId with
        ⟨error, failed, result⟩ | ⟨slot, entry, named, found, idle, result⟩ |
        ⟨slot, named, missing, free, result⟩
      · exact .rejected error failed result
      · exact .moved slot entry { entry with state := .preparing, lastError := .empty }
          named found rfl (.prepareBegin appId idle) result
      · exact .created slot _ named rfl missing free rfl rfl result
  | remove appId =>
      rcases remove_cases manager appId with
        ⟨error, failed, result⟩ | ⟨slot, entry, named, found, result⟩
      · exact .rejected error failed result
      · exact .cleared slot entry named rfl found result
  | recordStableRef appId ref =>
      by_cases empty : ref = []
      · exact .rejected (-einval) (by decide)
          (by simp [Op.apply, UpdateManager.recordStableRef, empty])
      · have applies : (Op.recordStableRef appId ref).apply manager =
            amend manager appId (-eperm) (fun _ => none)
              (fun entry => { entry with stableRef := copyBounded ref }) := by
          simp [Op.apply, UpdateManager.recordStableRef, empty]
        exact amend_outcome (by decide) (by simp) applies (fun _ => rfl)
          (fun _ _ => .recordStableRef appId ref)
  | reconcileAfterBoot appId runtimeActive artifactAvailable =>
      have applies : (Op.reconcileAfterBoot appId runtimeActive artifactAvailable).apply
          manager = amend manager appId (-enoent) (fun _ => none)
            (reconciled runtimeActive artifactAvailable) := rfl
      refine amend_outcome (by decide) (by simp) applies
        (reconciled_appId runtimeActive artifactAvailable) (fun entry _ => ?_)
      rcases reconciled_state runtimeActive artifactAvailable entry with same | failed
      · rw [same]
        exact .reconcileKept appId runtimeActive artifactAvailable
      · rw [failed]
        exact .reconcileFailed appId runtimeActive artifactAvailable
  | rollbackBegin appId reason =>
      exact amend_outcome (by decide) rollbackRefuses_error rfl (fun _ => rfl)
        fun _ accepted => .rollbackBegin appId reason (rollbackRefuses_none.mp accepted)
  | prepareFail appId reason =>
      exact amend_outcome (by decide) (onlyFrom_error _) rfl (fun _ => rfl)
        fun _ accepted => .prepareFail appId reason
          (by simpa using onlyFrom_none.mp accepted)
  | rollbackFail appId reason =>
      exact amend_outcome (by decide) (onlyFrom_error _) rfl (fun _ => rfl)
        fun _ accepted => .rollbackFail appId reason
          (by simpa using onlyFrom_none.mp accepted)
  -- the other transitions are taken from one state only
  | _ =>
      refine amend_outcome (by decide) (onlyFrom_error _) rfl (fun _ => rfl)
        fun entry accepted => ?_
      have start := List.mem_singleton.mp (onlyFrom_none.mp accepted)
      rw [start]
      constructor

section Effects

variable {manager : Manager} {op : Op}

theorem rejected_unchanged (refused : (op.apply manager).1 ≠ 0) :
    (op.apply manager).2 = manager := by
  cases apply_outcome manager op with
  | rejected _ _ result => rw [result]
  | moved _ _ _ _ _ _ _ result => exact absurd (by rw [result]) refused
  | created _ _ _ _ _ _ _ _ result => exact absurd (by rw [result]) refused
  | cleared _ _ _ _ _ result => exact absurd (by rw [result]) refused

theorem apply_unique (unique : Unique manager) (short : op.appId.length ≤ 31) :
    Unique (op.apply manager).2 := by
  cases apply_outcome manager op with
  | rejected _ _ result =>
      rw [result]
      exact unique
  | moved slot entry next _ found kept _ result =>
      rw [result]
      exact distinct_rewrite unique (find_content found) (congrArg (·.text) kept)
  | created slot next _ _ missing _ owner _ result =>
      rw [result]
      have owned : next.id = op.appId := by
        rw [Entry.id, owner]
        exact copyBounded_exact _ short
      exact distinct_insert unique (by rw [owned]; exact missing)
  | cleared slot _ _ _ _ result =>
      rw [result]
      exact distinct_clear slot unique

theorem apply_entryFor_other (unique : Unique manager) (short : op.appId.length ≤ 31)
    {other : Text} (apart : other ≠ op.appId) :
    entryFor (op.apply manager).2 other = entryFor manager other := by
  cases apply_outcome manager op with
  | rejected _ _ result => rw [result]
  | moved slot entry next named found kept _ result =>
      rw [result]
      simpa [apart] using entryFor_put_found named found next kept other
  | created slot next named _ missing free owner _ result =>
      have owned : next.appId.text = op.appId := by
        rw [owner]
        exact copyBounded_exact _ short
      rw [result]
      simpa [apart] using entryFor_put_vacant named missing free next owned other
  | cleared slot entry _ _ found result =>
      rw [result]
      simpa [apart] using entryFor_clear_found unique found other

theorem observe_congr {before after : Manager} {appId : Text}
    (same : entryFor after appId = entryFor before appId) :
    observe after appId = observe before appId := by
  simp [observe, stateFor, stableRefFor, rollbackReasonFor, lastErrorFor, same]

end Effects

theorem run_concat (ops : List Op) (op : Op) : run (ops ++ [op]) = step (run ops) op := by
  simp [run]

/-- Induction over a run: what holds of the initial log and survives each
operation of the run holds at its end. -/
theorem run_induction {allowed : Op → Prop} (holds : Log → Prop)
    (start : holds ⟨init, []⟩)
    (next : ∀ log op, allowed op → holds log → holds (step log op))
    (ops : List Op) (all : ∀ op ∈ ops, allowed op) : holds (run ops) := by
  induction ops using List.reverseRecOn with
  | nil => exact start
  | append_singleton ops op ih =>
      rw [run_concat]
      have before := ih fun earlier member => all earlier (List.mem_append_left _ member)
      exact next _ op (all op (by simp)) before

/-- Application ids the manager stores whole. -/
def Named (op : Op) : Prop :=
  1 ≤ op.appId.length ∧ op.appId.length ≤ 31

instance (op : Op) : Decidable (Named op) := by
  unfold Named
  infer_instance

theorem run_unique (ops : List Op) (named : ∀ op ∈ ops, Named op) :
    Unique (run ops).manager :=
  run_induction (fun log => Unique log.manager) distinct_empty
    (fun _ _ named unique => apply_unique unique named.2) ops named

/-! The stages behind a state. `progress` is the list of stages that must have
succeeded, in order, since the prepare that was last admitted. -/

def progress (appId : Text) : State → Option (List Op)
  | .preparing => some []
  | .prepared => some [.prepareComplete appId]
  | .verifying => some [.prepareComplete appId, .verifyBegin appId]
  | .verified =>
      some [.prepareComplete appId, .verifyBegin appId, .verifyComplete appId]
  | .activating =>
      some [.prepareComplete appId, .verifyBegin appId, .verifyComplete appId,
        .activateBegin appId]
  | .active => some (activation appId)
  | _ => none

def stagesSince (appId : Text) (calls : List (Op × Int)) : Option (List Op) :=
  (sinceLastPrepare appId calls).map (·.filter fun op => !op.bookkeeping)

/-- Every entry that is on its way to `ACTIVE` has exactly the stages of its
state behind it. -/
def Traced (log : Log) : Prop :=
  ∀ appId stages, progress appId (stateFor log.manager appId) = some stages →
    stagesSince appId log.calls = some stages

/-- A move that ends on the way to `ACTIVE` starts the way, adds the stage that
was next, or is bookkeeping that left the state alone. -/
theorem move_progress {op : Op} {before after : State} {stages : List Op}
    (move : Move op before after)
    (reached : progress op.appId after = some stages) :
    (op = .prepareBegin op.appId ∧ stages = []) ∨
    (op ≠ .prepareBegin op.appId ∧ op.bookkeeping = true ∧ after = before) ∨
    (op ≠ .prepareBegin op.appId ∧ op.bookkeeping = false ∧
      ∃ earlier, progress op.appId before = some earlier ∧ stages = earlier ++ [op]) := by
  cases move with
  | prepareBegin appId =>
      left
      simpa [progress, Op.appId, eq_comm] using reached
  | recordStableRef | reconcileKept => simp [Op.bookkeeping]
  | _ =>
      simp [progress] at reached
      try
        right
        right
        simp [Op.bookkeeping, progress, ← reached, Op.appId, activation]

theorem stateFor_of_entry {manager : Manager} {appId : Text} {entry : Entry}
    (present : entryFor manager appId = some entry) :
    stateFor manager appId = entry.state := by
  simp [stateFor, present]

theorem note_other {appId : Text} {op : Op} (apart : op.appId ≠ appId) (code : Int)
    (trail : Option (List Op)) : note appId trail (op, code) = trail := by
  simp [note, apart]

theorem note_error {appId : Text} {op : Op} {code : Int} (failed : code ≠ 0)
    (trail : Option (List Op)) : note appId trail (op, code) = trail := by
  simp [note, failed]

theorem sinceLastPrepare_concat (appId : Text) (calls : List (Op × Int))
    (call : Op × Int) :
    sinceLastPrepare appId (calls ++ [call]) =
      note appId (sinceLastPrepare appId calls) call := by
  simp [sinceLastPrepare]

/-- What a successful call on the application adds to its stages. -/
theorem stagesSince_success {appId : Text} {op : Op} (owner : op.appId = appId)
    (calls : List (Op × Int)) :
    stagesSince appId (calls ++ [(op, 0)]) =
      if op = .prepareBegin appId then some []
      else (stagesSince appId calls).map
        fun stages => if op.bookkeeping then stages else stages ++ [op] := by
  unfold stagesSince
  rw [sinceLastPrepare_concat]
  by_cases prepare : op = .prepareBegin appId
  · subst prepare
    simp [note, Op.appId]
  · cases trail : sinceLastPrepare appId calls with
    | none => simp [note, prepare]
    | some stages => cases kind : op.bookkeeping <;> simp [note, owner, prepare, kind]

theorem step_traced {log : Log} {op : Op} (named : Named op)
    (unique : Unique log.manager) (traced : Traced log) : Traced (step log op) := by
  intro appId stages reached
  change progress appId (stateFor (op.apply log.manager).2 appId) = _ at reached
  change stagesSince appId (log.calls ++ [(op, (op.apply log.manager).1)]) = _
  -- a call on another application changes neither the entry nor the trail of this one
  by_cases owner : op.appId = appId
  · subst owner
    cases apply_outcome log.manager op with
    | rejected error failed result =>
        rw [result] at reached ⊢
        simpa [stagesSince, sinceLastPrepare_concat, note_error failed] using
          traced _ stages reached
    | moved slot entry next present found kept move result =>
        have after := entryFor_put_found present found next kept op.appId
        rw [if_pos rfl] at after
        rw [result, stateFor_of_entry after] at reached
        rw [result, stagesSince_success rfl]
        have before := stateFor_of_entry (entryFor_found present found)
        rcases move_progress move reached with
          ⟨prepare, rfl⟩ | ⟨other, kind, same⟩ | ⟨other, kind, earlier, past, rfl⟩
        · rw [if_pos prepare]
        · rw [same, ← before] at reached
          simp [other, kind, traced _ stages reached]
        · rw [← before] at past
          simp [other, kind, traced _ earlier past]
    | created slot next present prepare missing free identity fresh result =>
        have owned : next.appId.text = op.appId := by
          rw [identity]
          exact copyBounded_exact _ named.2
        have after := entryFor_put_vacant present missing free next owned op.appId
        rw [if_pos rfl] at after
        rw [result, stateFor_of_entry after, fresh] at reached
        rw [result, stagesSince_success rfl, if_pos prepare]
        simpa [progress] using reached
    | cleared slot entry _ _ found result =>
        have after := entryFor_clear_found unique found op.appId
        rw [if_pos rfl] at after
        rw [result] at reached
        simp [stateFor, after, progress] at reached
  · have same := apply_entryFor_other unique named.2 (Ne.symm owner)
    have kept : stateFor (op.apply log.manager).2 appId = stateFor log.manager appId := by
      simp [stateFor, same]
    rw [kept] at reached
    simpa [stagesSince, sinceLastPrepare_concat, note_other owner] using
      traced appId stages reached

theorem run_traced (ops : List Op) (named : ∀ op ∈ ops, Named op) :
    Traced (run ops) := by
  have both : Unique (run ops).manager ∧ Traced (run ops) := by
    refine run_induction (fun log => Unique log.manager ∧ Traced log)
      ⟨distinct_empty, ?_⟩ (fun log op named before => ?_) ops named
    · intro appId stages reached
      simp [stateFor, progress] at reached
    · exact ⟨apply_unique before.1 named.2, step_traced named before.1 before.2⟩
  exact both.2

/-- In every run from the initial manager each application has at most one
entry; an `ACTIVE` one has exactly the activation stages behind it since its
last admitted prepare, the bookkeeping calls left out; no operation changes what
is observed of another application; and an operation that returns an error
changes nothing that is observed. -/
theorem update_runs_safe (ops : List Op) (named : ∀ op ∈ ops, Named op) :
    (∀ (left right : Fin maxEntries) (first second : Entry),
      (run ops).manager[left] = some first → (run ops).manager[right] = some second →
        first.appId.text = second.appId.text → left = right) ∧
    (∀ appId, stateFor (run ops).manager appId = .active →
      ∃ trail, sinceLastPrepare appId (run ops).calls = some trail ∧
        (trail.filter fun op => !op.bookkeeping) = activation appId) ∧
    (∀ op, Named op → ∀ other, other ≠ op.appId →
      observe (op.apply (run ops).manager).2 other =
        observe (run ops).manager other) ∧
    (∀ op, Named op → (op.apply (run ops).manager).1 ≠ 0 → ∀ appId,
      observe (op.apply (run ops).manager).2 appId =
        observe (run ops).manager appId) := by
  have unique := run_unique ops named
  refine ⟨unique, fun appId active => ?_, fun op short other apart => ?_,
    fun op _ refused appId => ?_⟩
  · have stages := run_traced ops named appId (activation appId) (by rw [active]; rfl)
    exact Option.map_eq_some_iff.mp stages
  · exact observe_congr (apply_entryFor_other unique short.2 apart)
  · rw [rejected_unchanged refused]

/-- The calls the update service makes for one update that goes through. -/
def servedUpdate : List Op :=
  [.prepareBegin (lit "demo"), .prepareComplete (lit "demo"),
    .verifyBegin (lit "demo"), .verifyComplete (lit "demo"),
    .activateBegin (lit "demo"), .activateComplete (lit "demo"),
    .recordStableRef (lit "demo") (lit "/apps/demo.llext")]

theorem servedUpdate_safe :
    stateFor (run servedUpdate).manager (lit "demo") = .active ∧
      ∃ trail, sinceLastPrepare (lit "demo") (run servedUpdate).calls = some trail ∧
        (trail.filter fun op => !op.bookkeeping) = activation (lit "demo") := by
  have active : stateFor (run servedUpdate).manager (lit "demo") = .active := by decide
  exact ⟨active, (update_runs_safe servedUpdate (by decide)).2.1 _ active⟩

/-- The trail of an `ACTIVE` entry is not the bare activation: after an update
that went through, the note of its stable reference is a success on the trail
too. -/
theorem active_trail_has_more :
    ¬ ∀ ops : List Op, (∀ op ∈ ops, Named op) →
      ∀ appId, stateFor (run ops).manager appId = .active →
        sinceLastPrepare appId (run ops).calls = some (activation appId) ∨
          ∃ call ∈ (run ops).calls, ∃ runtimeActive artifactAvailable,
            call = (.reconcileAfterBoot appId runtimeActive artifactAvailable, 0) := by
  intro claimed
  rcases claimed servedUpdate (by decide) (lit "demo") (by decide) with exact | reconciled
  · exact absurd exact (by decide)
  · obtain ⟨call, member, _, _, rfl⟩ := reconciled
    have codes : ∀ call ∈ (run servedUpdate).calls,
        call.1.bookkeeping = true → call.1 = .recordStableRef (lit "demo")
          (lit "/apps/demo.llext") := by decide
    exact absurd (codes _ member rfl) (by simp)

end NeuroLink.UpdateTrace
