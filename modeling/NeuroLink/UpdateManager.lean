import NeuroLink.CText
import NeuroLink.Errno
import NeuroLink.SlotTable

/-!
The update manager: four entries, one for each application with an update in
progress or on record. Each public operation finds the entry of its application,
checks the state the operation starts from, and rewrites that entry in place.
A null manager pointer is not represented; a null application id, reason or
reference is the empty text, which the C code treats the same way.
-/

namespace NeuroLink.UpdateManager

open CText Errno SlotTable

/-- `enum neuro_update_state`. A value read back from storage is cast to the
enumeration unchecked, so any other 32-bit code can occur. -/
inductive State where
  | none
  | prepareRequested
  | preparing
  | prepared
  | verifying
  | verified
  | activating
  | active
  | rollbackPending
  | rollingBack
  | rolledBack
  | failed
  | unknown (code : UInt32) (beyond : 12 ≤ code)
  deriving DecidableEq

structure Entry where
  appId : Buffer 32
  state : State
  lastError : Buffer 64
  rollbackReason : Buffer 64
  stableRef : Buffer 96
  deriving DecidableEq

abbrev maxEntries : Nat := 4

abbrev Manager := Table Entry maxEntries

def Entry.id (entry : Entry) : Text := entry.appId.text

def findEntry (manager : Manager) (appId : Text) : Option (Fin maxEntries × Entry) :=
  findKey Entry.id manager appId

def createdEntry (appId : Text) : Entry where
  appId := copyBounded appId
  state := .none
  lastError := .empty
  rollbackReason := .empty
  stableRef := .empty

/-- The entry of the application, created in the first unused slot when there is
none yet; the third component is the manager with that slot filled. -/
def findOrCreateEntry (manager : Manager) (appId : Text) :
    Option (Fin maxEntries × Entry × Manager) :=
  match findEntry manager appId with
  | some (slot, entry) => some (slot, entry, manager)
  | none =>
      (vacant manager).map fun slot =>
        (slot, createdEntry appId, manager.set slot (some (createdEntry appId)))

def init : Manager := SlotTable.empty

def prepareBegin (manager : Manager) (appId : Text) : Int × Manager :=
  if appId = [] then (-einval, manager) else
  match findOrCreateEntry manager appId with
  | none => (-enospc, manager)
  | some (slot, entry, created) =>
      if entry.state = .prepareRequested ∨ entry.state = .preparing ∨
          entry.state = .verifying ∨ entry.state = .activating then
        (-ebusy, created)
      else
        (0, created.set slot
          (some { entry with state := .preparing, lastError := .empty }))

/-- The common shape of every operation that needs an existing entry: `missing`
is returned when there is none, `refuses` gives the error of an entry the
operation does not start from, and `edit` is the rewrite. -/
def amend (manager : Manager) (appId : Text) (missing : Int)
    (refuses : Entry → Option Int) (edit : Entry → Entry) : Int × Manager :=
  if appId = [] then (-einval, manager) else
  match findEntry manager appId with
  | none => (missing, manager)
  | some (slot, entry) =>
      match refuses entry with
      | some error => (error, manager)
      | none => (0, manager.set slot (some (edit entry)))

/-- Refuses with `EPERM` every entry outside the given states. -/
def onlyFrom (states : List State) (entry : Entry) : Option Int :=
  if entry.state ∈ states then none else some (-eperm)

def Entry.moveTo (state : State) (entry : Entry) : Entry :=
  { entry with state := state }

def Entry.fail (reason : Text) (entry : Entry) : Entry :=
  { entry with state := .failed, lastError := copyBounded reason }

def prepareComplete (manager : Manager) (appId : Text) : Int × Manager :=
  amend manager appId (-eperm) (onlyFrom [.preparing]) (.moveTo .prepared)

def prepareFail (manager : Manager) (appId reason : Text) : Int × Manager :=
  amend manager appId (-eperm) (onlyFrom [.prepareRequested, .preparing])
    (.fail reason)

def verifyBegin (manager : Manager) (appId : Text) : Int × Manager :=
  amend manager appId (-eperm) (onlyFrom [.prepared])
    fun entry => { entry with state := .verifying, lastError := .empty }

def verifyComplete (manager : Manager) (appId : Text) : Int × Manager :=
  amend manager appId (-eperm) (onlyFrom [.verifying]) (.moveTo .verified)

def verifyFail (manager : Manager) (appId reason : Text) : Int × Manager :=
  amend manager appId (-eperm) (onlyFrom [.verifying]) (.fail reason)

def activateBegin (manager : Manager) (appId : Text) : Int × Manager :=
  amend manager appId (-eperm) (onlyFrom [.verified])
    fun entry => { entry with state := .activating, lastError := .empty }

def activateComplete (manager : Manager) (appId : Text) : Int × Manager :=
  amend manager appId (-eperm) (onlyFrom [.activating]) (.moveTo .active)

def activateFail (manager : Manager) (appId reason : Text) : Int × Manager :=
  amend manager appId (-eperm) (onlyFrom [.activating]) (.fail reason)

def recordStableRef (manager : Manager) (appId stableRef : Text) : Int × Manager :=
  if stableRef = [] then (-einval, manager) else
  amend manager appId (-eperm) (fun _ => none)
    fun entry => { entry with stableRef := copyBounded stableRef }

def remove (manager : Manager) (appId : Text) : Int × Manager :=
  if appId = [] then (-einval, manager) else
  match findEntry manager appId with
  | none => (-enoent, manager)
  | some (slot, _) => (0, manager.set slot none)

/-- A rollback already under way is refused as busy, every other state but
`ACTIVE` and `FAILED` as not permitted. -/
def rollbackRefuses (entry : Entry) : Option Int :=
  if entry.state = .rollbackPending ∨ entry.state = .rollingBack then
    some (-ebusy)
  else onlyFrom [.active, .failed] entry

def rollbackBegin (manager : Manager) (appId reason : Text) : Int × Manager :=
  amend manager appId (-eperm) rollbackRefuses
    fun entry =>
      { entry with state := .rollbackPending, rollbackReason := copyBounded reason }

def rollbackMarkInProgress (manager : Manager) (appId : Text) : Int × Manager :=
  amend manager appId (-eperm) (onlyFrom [.rollbackPending]) (.moveTo .rollingBack)

def rollbackComplete (manager : Manager) (appId : Text) : Int × Manager :=
  amend manager appId (-eperm) (onlyFrom [.rollingBack]) (.moveTo .rolledBack)

def rollbackFail (manager : Manager) (appId reason : Text) : Int × Manager :=
  amend manager appId (-eperm) (onlyFrom [.rollbackPending, .rollingBack])
    (.fail reason)

/-- What boot reconciliation makes of one entry: an interrupted stage failed, a
file or a running application that is no longer there failed too, and the rest
stays as it was stored. -/
def reconciled (runtimeActive artifactAvailable : Bool) (entry : Entry) : Entry :=
  match entry.state with
  | .prepareRequested | .preparing | .verifying | .activating
  | .rollbackPending | .rollingBack =>
      entry.fail (lit "recovery interrupted transition")
  | .prepared | .verified =>
      if artifactAvailable then entry
      else entry.fail (lit "recovery artifact missing")
  | .active =>
      if runtimeActive then entry
      else entry.fail (lit "recovery runtime state mismatch")
  | .none | .rolledBack | .failed | .unknown .. => entry

def reconcileAfterBoot (manager : Manager) (appId : Text)
    (runtimeActive artifactAvailable : Bool) : Int × Manager :=
  amend manager appId (-enoent) (fun _ => none)
    (reconciled runtimeActive artifactAvailable)

/-- The entry the query functions read: the first of that id, and none for the
empty id. -/
def entryFor (manager : Manager) (appId : Text) : Option Entry :=
  if appId = [] then none else lookup Entry.id manager appId

def stateFor (manager : Manager) (appId : Text) : State :=
  ((entryFor manager appId).map Entry.state).getD .none

def stableRefFor (manager : Manager) (appId : Text) : Text :=
  ((entryFor manager appId).map (·.stableRef.text)).getD []

def rollbackReasonFor (manager : Manager) (appId : Text) : Text :=
  ((entryFor manager appId).map (·.rollbackReason.text)).getD []

def lastErrorFor (manager : Manager) (appId : Text) : Text :=
  ((entryFor manager appId).map (·.lastError.text)).getD []

def exportEntries (manager : Manager) (maxEntries : Nat) : List Entry :=
  (SlotTable.entries manager).take maxEntries

def importEntries (manager : Manager) (entries : List Entry) : Int × Manager :=
  if entries.length > maxEntries then (-enospc, manager) else (0, ofEntries entries)

/-! Every operation is seen through `entryFor`: the lemmas below say what it
returns and how the view of each application changes. -/

abbrev Unique (manager : Manager) : Prop := Distinct Entry.id manager

variable {manager : Manager} {appId : Text} {slot : Fin maxEntries} {entry : Entry}

@[simp] theorem entryFor_init (appId : Text) : entryFor init appId = none := by
  simp [entryFor, init]

theorem entryFor_found (named : appId ≠ [])
    (found : findEntry manager appId = some (slot, entry)) :
    entryFor manager appId = some entry := by
  rw [entryFor, if_neg named]
  exact lookup_found found

theorem entryFor_put_found (named : appId ≠ [])
    (found : findEntry manager appId = some (slot, entry))
    (next : Entry) (kept : next.appId = entry.appId) (other : Text) :
    entryFor (manager.set slot (some next)) other =
      if other = appId then some next else entryFor manager other := by
  have stored : entry.id = appId := findKey_key found
  have owner : next.id = appId := (congrArg Buffer.text kept).trans stored
  unfold entryFor
  rw [lookup_put_found found next owner other]
  by_cases same : other = appId <;> simp [same, named]

theorem entryFor_put_vacant (named : appId ≠ [])
    (missing : findEntry manager appId = none) (free : vacant manager = some slot)
    (next : Entry) (owner : next.appId.text = appId) (other : Text) :
    entryFor (manager.set slot (some next)) other =
      if other = appId then some next else entryFor manager other := by
  unfold entryFor
  rw [lookup_put_vacant missing free next owner other]
  by_cases same : other = appId <;> simp [same, named]

theorem entryFor_clear_found (unique : Unique manager)
    (found : findEntry manager appId = some (slot, entry)) (other : Text) :
    entryFor (manager.set slot none) other =
      if other = appId then none else entryFor manager other := by
  unfold entryFor
  rw [lookup_clear_found unique found other]
  by_cases same : other = appId <;> simp [same]

section Amend

/-- An `amend` either returns an error and changes nothing or rewrites the
entry that was found. -/
theorem amend_cases (manager : Manager) (appId : Text) (missing : Int)
    (refuses : Entry → Option Int) (edit : Entry → Entry)
    (missingError : missing ≠ 0)
    (refusalError : ∀ entry error, refuses entry = some error → error ≠ 0) :
    (∃ error, error ≠ 0 ∧
      amend manager appId missing refuses edit = (error, manager)) ∨
    ∃ slot entry, appId ≠ [] ∧ findEntry manager appId = some (slot, entry) ∧
      refuses entry = none ∧
      amend manager appId missing refuses edit =
        (0, manager.set slot (some (edit entry))) := by
  unfold amend
  by_cases named : appId = []
  · exact Or.inl ⟨-einval, by decide, by simp [named]⟩
  · cases found : findEntry manager appId with
    | none => exact Or.inl ⟨missing, missingError, by simp [named]⟩
    | some pair =>
        obtain ⟨slot, entry⟩ := pair
        cases verdict : refuses entry with
        | some error =>
            exact Or.inl ⟨error, refusalError entry error verdict,
              by simp [named, verdict]⟩
        | none =>
            exact Or.inr ⟨slot, entry, named, rfl, verdict,
              by simp [named, verdict]⟩

theorem onlyFrom_error (states : List State) (entry : Entry) (error : Int)
    (refused : onlyFrom states entry = some error) : error ≠ 0 := by
  unfold onlyFrom at refused
  split at refused
  · cases refused
  · cases refused
    decide

theorem onlyFrom_none {states : List State} :
    onlyFrom states entry = none ↔ entry.state ∈ states := by
  simp [onlyFrom]

theorem rollbackRefuses_error (entry : Entry) (error : Int)
    (refused : rollbackRefuses entry = some error) : error ≠ 0 := by
  unfold rollbackRefuses at refused
  split at refused
  · cases refused
    decide
  · exact onlyFrom_error _ _ _ refused

theorem rollbackRefuses_none :
    rollbackRefuses entry = none ↔ entry.state = .active ∨ entry.state = .failed := by
  unfold rollbackRefuses
  split
  · next busy => rcases busy with pending | rolling <;> simp [*]
  · simp [onlyFrom_none]

end Amend

def Busy (state : State) : Prop :=
  state = .prepareRequested ∨ state = .preparing ∨ state = .verifying ∨
    state = .activating

instance (state : State) : Decidable (Busy state) := by
  unfold Busy
  infer_instance

theorem prepareBegin_cases (manager : Manager) (appId : Text) :
    (∃ error, error ≠ 0 ∧ prepareBegin manager appId = (error, manager)) ∨
    (∃ slot entry, appId ≠ [] ∧ findEntry manager appId = some (slot, entry) ∧
      ¬ Busy entry.state ∧
      prepareBegin manager appId = (0, manager.set slot
        (some { entry with state := .preparing, lastError := .empty }))) ∨
    (∃ slot, appId ≠ [] ∧ findEntry manager appId = none ∧
      vacant manager = some slot ∧
      prepareBegin manager appId = (0, manager.set slot
        (some { createdEntry appId with state := .preparing }))) := by
  unfold prepareBegin findOrCreateEntry
  by_cases named : appId = []
  · exact Or.inl ⟨-einval, by decide, by simp [named]⟩
  · cases found : findEntry manager appId with
    | some pair =>
        obtain ⟨slot, entry⟩ := pair
        by_cases busy : Busy entry.state
        · exact Or.inl ⟨-ebusy, by decide, by simp [named, show _ ∨ _ from busy]⟩
        · exact Or.inr (Or.inl ⟨slot, entry, named, rfl, busy,
            by simp [named, show ¬ (_ ∨ _) from busy]⟩)
    | none =>
        cases free : vacant manager with
        | none => exact Or.inl ⟨-enospc, by decide, by simp [named]⟩
        | some slot =>
            refine Or.inr (Or.inr ⟨slot, named, rfl, rfl, ?_⟩)
            simp [named, createdEntry]

theorem remove_cases (manager : Manager) (appId : Text) :
    (∃ error, error ≠ 0 ∧ remove manager appId = (error, manager)) ∨
    ∃ slot entry, appId ≠ [] ∧ findEntry manager appId = some (slot, entry) ∧
      remove manager appId = (0, manager.set slot none) := by
  unfold remove
  by_cases named : appId = []
  · exact Or.inl ⟨-einval, by decide, by simp [named]⟩
  · cases found : findEntry manager appId with
    | none => exact Or.inl ⟨-enoent, by decide, by simp [named]⟩
    | some pair =>
        obtain ⟨slot, entry⟩ := pair
        exact Or.inr ⟨slot, entry, named, rfl, by simp [named]⟩

end NeuroLink.UpdateManager
