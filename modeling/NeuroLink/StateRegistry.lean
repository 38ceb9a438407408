import NeuroLink.ChangeToken
import NeuroLink.QueryReplies

/-!
The state registry of the unit and its version. A setter compares the text it is given
with the stored one before it cuts the text off to the size of the field, so a text that
is too long counts as a change every time.
-/

namespace NeuroLink.StateRegistry

open CText
open QueryReplies (NetworkState networkStateToStr)

inductive Health where
  | unknown
  | ok
  | degraded
  | failed
  deriving DecidableEq

/-- `neuro_state_health_to_str`. -/
def healthToStr : Health → Text
  | .ok => lit "ok"
  | .degraded => lit "degraded"
  | .failed => lit "failed"
  | .unknown => lit "unknown"

/-- `struct neuro_state_snapshot`, what the registry holds besides its lock. -/
structure Snapshot where
  nodeId : Buffer 32
  version : BitVec 64
  sessionReady : Bool
  networkState : NetworkState
  ipv4Addr : Buffer 16
  health : Health
  appCount : Nat
  runningCount : Nat
  leaseCount : Nat
  updateAppId : Buffer 32
  updateStage : Buffer 32
  updateStatus : Buffer 16
  deriving DecidableEq

/-- What the setter reads of `struct neuro_network_status`. -/
structure NetworkStatus where
  state : NetworkState
  ipv4Addr : Buffer 16

/-- The calls into `neuro_unit_diag.c`. -/
inductive Diag where
  | transitionBool (field : String) (old new : Bool) (version : BitVec 64)
  | transitionSize (field : String) (old new : Nat) (version : BitVec 64)
  | transitionText (field : String) (old new : Text) (version : BitVec 64)
  | transitionEnum (field : String) (old new : Text) (version : BitVec 64)
  | stateSnapshot (reason : String) (nodeId : Text) (version : BitVec 64)
      (sessionReady : Bool) (networkState health : Text)
  deriving DecidableEq

/-- `update_bool`, `update_size`, `update_network_state` and `update_health`: the value of
the field and whether it changed. -/
def updateValue {α : Type} [DecidableEq α] (dst value : α) : α × Bool :=
  if dst = value then (dst, false) else (value, true)

variable {size : Nat}

/-- `strncmp(left, right, len) == 0`. -/
def strncmpEqual (left right : Text) (len : Nat) : Bool := left.take len = right.take len

def updateStr (dst : Buffer (size + 1)) (value : Option Text) : Buffer (size + 1) × Bool :=
  let value := value.getD []
  if strncmpEqual dst.text value (size + 1) then (dst, false) else (copyBounded value, true)

def healthFromNetwork : NetworkState → Health
  | .ready => .ok
  | .degraded => .degraded
  | .failed => .failed
  | _ => .unknown

def bumpVersionIfChanged (snapshot : Snapshot) (changed : Bool) : Snapshot :=
  if changed then { snapshot with version := snapshot.version + 1 } else snapshot

def logSnapshotIfChanged (snapshot : Snapshot) (changed : Bool) (reason : String) : List Diag :=
  if !changed then []
  else [.stateSnapshot reason snapshot.nodeId.text snapshot.version snapshot.sessionReady
    (networkStateToStr snapshot.networkState) (healthToStr snapshot.health)]

def noteIf (changed : Bool) (diag : Diag) : List Diag := if changed then [diag] else []

/-- `neuro_state_registry_init`. -/
def init (nodeId : Option Text) : Snapshot where
  nodeId := copyBounded (nodeId.getD [])
  version := 0
  sessionReady := false
  networkState := .down
  ipv4Addr := copyBounded (lit "no-ipv4")
  health := .unknown
  appCount := 0
  runningCount := 0
  leaseCount := 0
  updateAppId := .empty
  updateStage := .empty
  updateStatus := copyBounded (lit "idle")

def setSessionReady (registry : Snapshot) (ready : Bool) : Snapshot × List Diag :=
  let sessionReady := updateValue registry.sessionReady ready
  let after :=
    bumpVersionIfChanged { registry with sessionReady := sessionReady.1 } sessionReady.2
  (after,
    noteIf sessionReady.2 (.transitionBool "session_ready" registry.sessionReady
      after.sessionReady after.version) ++
    logSnapshotIfChanged after sessionReady.2 "session_ready")

/-- `neuro_state_registry_set_network`; no status is the null pointer. -/
def setNetwork (registry : Snapshot) : Option NetworkStatus → Snapshot × List Diag
  | none => (registry, [])
  | some status =>
      let network := updateValue registry.networkState status.state
      let ipv4 := updateStr registry.ipv4Addr (some status.ipv4Addr.text)
      let health := updateValue registry.health (healthFromNetwork status.state)
      let changed := network.2 || ipv4.2 || health.2
      let after := bumpVersionIfChanged { registry with
        networkState := network.1
        ipv4Addr := ipv4.1
        health := health.1 } changed
      (after,
        noteIf network.2 (.transitionEnum "network_state"
          (networkStateToStr registry.networkState) (networkStateToStr after.networkState)
          after.version) ++
        noteIf ipv4.2 (.transitionText "ipv4_addr" registry.ipv4Addr.text after.ipv4Addr.text
          after.version) ++
        noteIf health.2 (.transitionEnum "health" (healthToStr registry.health)
          (healthToStr after.health) after.version) ++
        logSnapshotIfChanged after changed "network")

def setRuntimeCounters (registry : Snapshot) (appCount runningCount : Nat) :
    Snapshot × List Diag :=
  let apps := updateValue registry.appCount appCount
  let running := updateValue registry.runningCount runningCount
  let changed := apps.2 || running.2
  let after := bumpVersionIfChanged { registry with
    appCount := apps.1
    runningCount := running.1 } changed
  (after,
    noteIf apps.2 (.transitionSize "app_count" registry.appCount after.appCount
      after.version) ++
    noteIf running.2 (.transitionSize "running_count" registry.runningCount
      after.runningCount after.version) ++
    logSnapshotIfChanged after changed "runtime_counters")

def setLeaseCount (registry : Snapshot) (leaseCount : Nat) : Snapshot × List Diag :=
  let leases := updateValue registry.leaseCount leaseCount
  let after := bumpVersionIfChanged { registry with leaseCount := leases.1 } leases.2
  (after,
    noteIf leases.2 (.transitionSize "lease_count" registry.leaseCount after.leaseCount
      after.version) ++
    logSnapshotIfChanged after leases.2 "lease_count")

def setUpdateState (registry : Snapshot) (appId stage status : Option Text) :
    Snapshot × List Diag :=
  let apps := updateStr registry.updateAppId appId
  let stages := updateStr registry.updateStage stage
  let statuses := updateStr registry.updateStatus status
  let changed := apps.2 || stages.2 || statuses.2
  let after := bumpVersionIfChanged { registry with
    updateAppId := apps.1
    updateStage := stages.1
    updateStatus := statuses.1 } changed
  (after,
    noteIf apps.2 (.transitionText "update_app_id" registry.updateAppId.text
      after.updateAppId.text after.version) ++
    noteIf stages.2 (.transitionText "update_stage" registry.updateStage.text
      after.updateStage.text after.version) ++
    noteIf statuses.2 (.transitionText "update_status" registry.updateStatus.text
      after.updateStatus.text after.version) ++
    logSnapshotIfChanged after changed "update_state")

inductive SetterCall where
  | sessionReady (ready : Bool)
  | network (status : Option NetworkStatus)
  | runtimeCounters (appCount runningCount : Nat)
  | leaseCount (leaseCount : Nat)
  | updateState (appId stage status : Option Text)

def perform (registry : Snapshot) : SetterCall → Snapshot × List Diag
  | .sessionReady ready => setSessionReady registry ready
  | .network status => setNetwork registry status
  | .runtimeCounters appCount runningCount => setRuntimeCounters registry appCount runningCount
  | .leaseCount leaseCount => setLeaseCount registry leaseCount
  | .updateState appId stage status => setUpdateState registry appId stage status

def run (registry : Snapshot) (calls : List SetterCall) : Snapshot :=
  calls.foldl (fun registry call => (perform registry call).1) registry

/-- The fields of the snapshot that are not the version. -/
def content (snapshot : Snapshot) : Snapshot := { snapshot with version := 0 }

/-! What one call changes and what it reports. -/

/-- The version counts the call exactly if the contents change, and nothing is reported
of a snapshot that has not changed. -/
structure Tracks (before : Snapshot) (result : Snapshot × List Diag) : Prop where
  token : result.1.version ≠ before.version ↔ content result.1 ≠ content before
  byOne : result.1.version ≠ before.version → result.1.version = before.version + 1
  silent : result.2 = [] ↔ content result.1 = content before

theorem bumpVersionIfChanged_content (snapshot : Snapshot) (changed : Bool) :
    content (bumpVersionIfChanged snapshot changed) = content snapshot := by
  cases changed <;> rfl

theorem bumpVersionIfChanged_version (snapshot : Snapshot) (changed : Bool) :
    (bumpVersionIfChanged snapshot changed).version =
      if changed then snapshot.version + 1 else snapshot.version := by
  cases changed <;> rfl

theorem tracks_bump (before edited : Snapshot) (changed : Bool) {diags : List Diag}
    (same : edited.version = before.version) (reports : diags = [] ↔ changed = false) :
    Tracks before (bumpVersionIfChanged edited changed, diags) ↔
      (changed = true ↔ content edited ≠ content before) := by
  have counted : (bumpVersionIfChanged edited changed).version ≠ before.version ↔
      changed = true := by
    rw [bumpVersionIfChanged_version, same]
    cases changed with
    | false => simp
    | true =>
        have moves : before.version + 1 ≠ before.version := fun back =>
          absurd (BitVec.self_eq_add_right.mp back.symm) (by decide)
        exact iff_of_true moves rfl
  constructor
  · intro tracks
    rw [← counted, ← bumpVersionIfChanged_content edited changed]
    exact tracks.token
  · intro exactly
    refine ⟨?_, ?_, ?_⟩
    · rw [counted, bumpVersionIfChanged_content]
      exact exactly
    · intro moved
      rw [bumpVersionIfChanged_version, if_pos (counted.mp moved), same]
    · rw [reports, bumpVersionIfChanged_content, ← Bool.not_eq_true, exactly, not_not]

theorem logSnapshotIfChanged_nil (snapshot : Snapshot) (changed : Bool) (reason : String) :
    logSnapshotIfChanged snapshot changed reason = [] ↔ changed = false := by
  cases changed <;> simp [logSnapshotIfChanged]

theorem noteIf_nil (changed : Bool) (diag : Diag) :
    noteIf changed diag = [] ↔ changed = false := by
  cases changed <;> simp [noteIf]

theorem updateValue_flag {α : Type} [DecidableEq α] (dst value : α) :
    (updateValue dst value).2 = true ↔ (updateValue dst value).1 ≠ dst := by
  by_cases same : dst = value
  · simp [updateValue, same]
  · simp [updateValue, same, Ne.symm same]

/-- The field holds what it would be given, the rest of which does not fit. -/
def Kept (dst : Buffer (size + 1)) (value : Option Text) : Prop :=
  dst.text = (value.getD []).take size

def Long (size : Nat) (value : Option Text) : Prop := size < (value.getD []).length

theorem strncmpEqual_iff (dst : Buffer (size + 1)) (value : Text) :
    strncmpEqual dst.text value (size + 1) = true ↔ dst.text = value := by
  have whole : dst.text.take (size + 1) = dst.text :=
    List.take_of_length_le (Nat.le_of_lt dst.fits)
  rw [strncmpEqual, decide_eq_true_iff, whole]
  constructor
  · intro cut
    have short : value.length < size + 1 := by
      have fits := dst.fits
      rw [cut, List.length_take] at fits
      omega
    rw [cut, List.take_of_length_le (Nat.le_of_lt short)]
  · intro same
    rw [← same, whole]

theorem updateStr_flag (dst : Buffer (size + 1)) (value : Option Text) :
    (updateStr dst value).2 = false ↔ Kept dst value ∧ ¬ Long size value := by
  have equal := strncmpEqual_iff dst (value.getD [])
  by_cases same : dst.text = value.getD []
  · have short : (value.getD []).length ≤ size := same ▸ Nat.le_of_lt_succ dst.fits
    have kept : Kept dst value := by rw [Kept, List.take_of_length_le short, same]
    simp [updateStr, equal.mpr same, kept, Long, short]
  · have cut : ¬ (Kept dst value ∧ ¬ Long size value) := by
      rintro ⟨kept, short⟩
      rw [Kept, List.take_of_length_le (Nat.not_lt.mp short)] at kept
      exact same kept
    simp [updateStr, mt equal.mp same, cut]

theorem updateStr_kept (dst : Buffer (size + 1)) (value : Option Text) :
    (updateStr dst value).1 = dst ↔ Kept dst value := by
  cases same : strncmpEqual dst.text (value.getD []) (size + 1) with
  | true =>
      have flag : (updateStr dst value).2 = false := by simp [updateStr, same]
      simp [updateStr, same, ((updateStr_flag dst value).mp flag).1]
  | false =>
      have stored : (updateStr dst value).1 = copyBounded (value.getD []) := by
        simp [updateStr, same]
      rw [stored, Kept]
      constructor
      · intro equal
        rw [← equal, copyBounded_text]
      · intro kept
        exact Buffer.text_injective (by rw [copyBounded_text, kept])

/-! The setters. -/

/-- An update state that the registry already holds, as far as it fits, with a text that
does not fit. -/
def Overlong (registry : Snapshot) : SetterCall → Prop
  | .updateState appId stage status =>
      (Kept registry.updateAppId appId ∧ Kept registry.updateStage stage ∧
        Kept registry.updateStatus status) ∧
      (Long 31 appId ∨ Long 31 stage ∨ Long 15 status)
  | _ => False

theorem setSessionReady_tracks (registry : Snapshot) (ready : Bool) :
    Tracks registry (setSessionReady registry ready) := by
  have flag := updateValue_flag registry.sessionReady ready
  refine (tracks_bump registry _ _ ?_ ?_).mpr ?_
  · rfl
  · simp [noteIf_nil, logSnapshotIfChanged_nil]
  · rw [flag]
    simp [content]

theorem setLeaseCount_tracks (registry : Snapshot) (leaseCount : Nat) :
    Tracks registry (setLeaseCount registry leaseCount) := by
  have flag := updateValue_flag registry.leaseCount leaseCount
  refine (tracks_bump registry _ _ ?_ ?_).mpr ?_
  · rfl
  · simp [noteIf_nil, logSnapshotIfChanged_nil]
  · rw [flag]
    simp [content]

theorem setRuntimeCounters_tracks (registry : Snapshot) (appCount runningCount : Nat) :
    Tracks registry (setRuntimeCounters registry appCount runningCount) := by
  have apps := updateValue_flag registry.appCount appCount
  have running := updateValue_flag registry.runningCount runningCount
  refine (tracks_bump registry _ _ ?_ ?_).mpr ?_
  · rfl
  · simp only [List.append_eq_nil_iff, noteIf_nil, logSnapshotIfChanged_nil,
      Bool.or_eq_false_iff]
    tauto
  · rw [Bool.or_eq_true, apps, running]
    simp [content, Decidable.imp_iff_not_or]

/-- The status holds an address that fits the registry's field. -/
theorem setNetwork_tracks (registry : Snapshot) (status : Option NetworkStatus) :
    Tracks registry (setNetwork registry status) := by
  cases status with
  | none => exact ⟨by simp [setNetwork], by simp [setNetwork], by simp [setNetwork]⟩
  | some status =>
      have network := updateValue_flag registry.networkState status.state
      have health := updateValue_flag registry.health (healthFromNetwork status.state)
      have flag := updateStr_flag registry.ipv4Addr (some status.ipv4Addr.text)
      have kept := updateStr_kept registry.ipv4Addr (some status.ipv4Addr.text)
      have fits : ¬ Long 15 (some status.ipv4Addr.text) :=
        Nat.not_lt.mpr (Nat.le_of_lt_succ status.ipv4Addr.fits)
      have address : (updateStr registry.ipv4Addr (some status.ipv4Addr.text)).2 = true ↔
          (updateStr registry.ipv4Addr (some status.ipv4Addr.text)).1 ≠ registry.ipv4Addr := by
        rw [← Bool.not_eq_false, flag, ne_eq, kept]
        simp [fits]
      refine (tracks_bump registry _ _ ?_ ?_).mpr ?_
      · rfl
      · simp only [List.append_eq_nil_iff, noteIf_nil, logSnapshotIfChanged_nil,
          Bool.or_eq_false_iff]
        exact and_self_iff
      · rw [Bool.or_eq_true, Bool.or_eq_true, network, address, health]
        simp only [content, ne_eq, Snapshot.mk.injEq, true_and, and_true, not_and_or, or_assoc]

theorem setUpdateState_tracks (registry : Snapshot) (appId stage status : Option Text) :
    Tracks registry (setUpdateState registry appId stage status) ↔
      ¬ Overlong registry (.updateState appId stage status) := by
  refine (tracks_bump registry _ _ ?_ ?_).trans ?_
  · rfl
  · simp only [List.append_eq_nil_iff, noteIf_nil, logSnapshotIfChanged_nil,
      Bool.or_eq_false_iff]
    exact and_self_iff
  · have same : content { registry with
        updateAppId := (updateStr registry.updateAppId appId).1
        updateStage := (updateStr registry.updateStage stage).1
        updateStatus := (updateStr registry.updateStatus status).1 } = content registry ↔
        Kept registry.updateAppId appId ∧ Kept registry.updateStage stage ∧
          Kept registry.updateStatus status := by
      rw [← updateStr_kept, ← updateStr_kept, ← updateStr_kept]
      simp [content]
    rw [ne_eq, same, ← Bool.not_eq_false, Bool.or_eq_false_iff, Bool.or_eq_false_iff,
      updateStr_flag, updateStr_flag, updateStr_flag, Overlong]
    clear same
    grind

theorem perform_tracks (registry : Snapshot) (call : SetterCall) :
    Tracks registry (perform registry call) ↔ ¬ Overlong registry call := by
  cases call with
  | sessionReady ready => exact iff_of_true (setSessionReady_tracks registry ready) id
  | network status => exact iff_of_true (setNetwork_tracks registry status) id
  | runtimeCounters appCount runningCount =>
      exact iff_of_true (setRuntimeCounters_tracks registry appCount runningCount) id
  | leaseCount leaseCount => exact iff_of_true (setLeaseCount_tracks registry leaseCount) id
  | updateState appId stage status => exact setUpdateState_tracks registry appId stage status

/-! Runs of calls. -/

/-- No call of the run repeats an update state that does not fit. -/
def Fitting : Snapshot → List SetterCall → Prop
  | _, [] => True
  | registry, call :: rest =>
      ¬ Overlong registry call ∧ Fitting (perform registry call).1 rest

theorem fitting_append {registry : Snapshot} {front rest : List SetterCall} :
    Fitting registry (front ++ rest) ↔
      Fitting registry front ∧ Fitting (run registry front) rest := by
  induction front generalizing registry with
  | nil => simp [Fitting, run]
  | cons call front ih =>
      rw [List.cons_append, Fitting, Fitting, ih, and_assoc]
      rfl

theorem Tracks.counted {before : Snapshot} {result : Snapshot × List Diag}
    (tracks : Tracks before result) :
    ChangeToken.Counted Snapshot.version content before result.1 := by
  by_cases changed : content result.1 = content before
  · right
    exact ⟨not_not.mp (mt tracks.token.mp (not_not.mpr changed)), changed⟩
  · left
    exact ⟨tracks.byOne (tracks.token.mpr changed), changed⟩

theorem fitting_steady {registry : Snapshot} {calls : List SetterCall}
    (fitting : Fitting registry calls) :
    ChangeToken.Steady Snapshot.version content
      (fun registry call => (perform registry call).1) registry calls := by
  induction calls generalizing registry with
  | nil => trivial
  | cons call rest ih =>
      exact ⟨((perform_tracks registry call).mpr fitting.1).counted, ih fitting.2⟩

/-- A call is exact unless it repeats an update state that does not fit. In a run without
such calls every call is exact, and two reads fewer than 2^64 calls apart that show the
same version show the same contents. -/
theorem version_change_token (registry : Snapshot) :
    (∀ call, Tracks registry (perform registry call) ↔ ¬ Overlong registry call) ∧
    ∀ calls, Fitting registry calls →
      (∀ front call rest, calls = front ++ call :: rest →
        Tracks (run registry front) (perform (run registry front) call)) ∧
      ∀ front between rest, calls = front ++ (between ++ rest) → between.length < 2 ^ 64 →
        (run registry (front ++ between)).version = (run registry front).version →
        content (run registry (front ++ between)) = content (run registry front) := by
  refine ⟨perform_tracks registry, fun calls fitting => ⟨?_, ?_⟩⟩
  · rintro front call rest rfl
    exact (perform_tracks _ call).mpr (fitting_append.mp fitting).2.1
  · rintro front between rest rfl few equal
    have later := (fitting_append.mp (fitting_append.mp fitting).2).1
    have joined : run registry (front ++ between) = run (run registry front) between :=
      List.foldl_append
    rw [joined] at equal ⊢
    exact ChangeToken.steady_token (fitting_steady later) few equal

def reportVerifying : SetterCall :=
  .updateState (some (lit "pump")) (some (lit "verify")) (some (lit "waiting-for-unit"))

/-- The second of two such reports counts although it changes nothing. -/
theorem repeated_status_counts :
    let first := run (init (some (lit "unit-1"))) [reportVerifying]
    let second := perform first reportVerifying
    second.1.version = first.version + 1 ∧ content second.1 = content first ∧
      second.2 ≠ [] := by
  decide

def reportInProgress : SetterCall :=
  .updateState (some (lit "pump")) (some (lit "verify")) (some (lit "in_progress"))

theorem reportInProgress_fits (registry : Snapshot) : ¬ Overlong registry reportInProgress := by
  rintro ⟨-, long⟩
  revert long
  simp only [Long]
  decide

/-- Two reports whose status fits, of which the second changes nothing. -/
theorem version_change_token_demo :
    let first := run (init (some (lit "unit-1"))) [reportInProgress]
    first.version = 1 ∧ Tracks first (perform first reportInProgress) ∧
      (perform first reportInProgress).1.version = 1 := by
  have token := (version_change_token (init (some (lit "unit-1")))).2
    [reportInProgress, reportInProgress]
    ⟨reportInProgress_fits _, reportInProgress_fits _, trivial⟩
  exact ⟨by decide, token.1 [reportInProgress] reportInProgress [] rfl, by decide⟩

end NeuroLink.StateRegistry
