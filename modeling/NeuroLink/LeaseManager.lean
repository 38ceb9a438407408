import NeuroLink.Errno
import NeuroLink.RequestMetadata
import NeuroLink.SlotTable

/-!
The lease manager: four slots, each holding the active lease on one resource.
Acquire renews, preempts or creates a lease, release clears one by its id, and
every operation that is given the time first drops what has expired by then.
Times are the uptime in milliseconds.
-/

namespace NeuroLink.LeaseManager

open CText Errno SlotTable

/-- An active `struct neuro_lease_entry`; an inactive one is an empty slot. -/
structure Lease where
  leaseId : Buffer 32
  resource : Buffer 48
  sourceCore : Buffer 24
  sourceAgent : Buffer 24
  priority : Int
  expiresAtMs : Int
  deriving DecidableEq

abbrev maxEntries : Nat := 4

abbrev Manager := Table Lease maxEntries

structure AcquireResult where
  acquired : Lease
  preempted : Option Lease
  deriving DecidableEq

def holderMatchesRequest (lease : Lease) (metadata : RequestMetadata) : Bool :=
  lease.sourceCore.text = metadata.sourceCore.text &&
    lease.sourceAgent.text = metadata.sourceAgent.text

def Lease.hasId (leaseId : Text) (lease : Lease) : Bool :=
  lease.leaseId.text = leaseId

def Lease.isOn (resource : Text) (lease : Lease) : Bool :=
  lease.resource.text = resource

def findLeaseById (manager : Manager) (leaseId : Text) :
    Option (Fin maxEntries × Lease) :=
  find (Lease.hasId leaseId) manager

def findLeaseByResource (manager : Manager) (resource : Text) :
    Option (Fin maxEntries × Lease) :=
  find (Lease.isOn resource) manager

/-- `ensure_generated_lease_id`: the requested id, or one made from the time when
the request names none. -/
def requestedLeaseId (metadata : RequestMetadata) (nowMs : Int) : Buffer 32 :=
  if metadata.leaseId.text = [] then copyBounded (lit "lease-" ++ decimal nowMs)
  else metadata.leaseId

def init : Manager := SlotTable.empty

def expireAll (manager : Manager) : Int × Manager :=
  ((SlotTable.entries manager).length, SlotTable.empty)

def pruneExpired (manager : Manager) (nowMs : Int) : Manager :=
  keep (fun lease => nowMs < lease.expiresAtMs) manager

def granted (resource : Text) (metadata : RequestMetadata) (ttlMs nowMs : Int) :
    Lease where
  leaseId := requestedLeaseId metadata nowMs
  resource := copyBounded resource
  sourceCore := copyBounded metadata.sourceCore.text
  sourceAgent := copyBounded metadata.sourceAgent.text
  priority := metadata.priority
  expiresAtMs := nowMs + ttlMs

def acquire (manager : Manager) (resource : Text) (metadata : RequestMetadata)
    (ttlMs nowMs : Int) : Except Int AcquireResult × Manager :=
  if resource = [] ∨ ttlMs ≤ 0 then (.error (-einval), manager) else
  let pruned := pruneExpired manager nowMs
  let lease := granted resource metadata ttlMs nowMs
  match findLeaseByResource pruned resource with
  | some (slot, current) =>
      if current.leaseId.text = (requestedLeaseId metadata nowMs).text then
        if holderMatchesRequest current metadata then
          (.ok ⟨lease, none⟩, pruned.set slot (some lease))
        else (.error (-eacces), pruned)
      else if metadata.priority > current.priority then
        (.ok ⟨lease, some current⟩, pruned.set slot (some lease))
      else (.error (-eexist), pruned)
  | none =>
      match vacant pruned with
      | none => (.error (-enospc), pruned)
      | some slot => (.ok ⟨lease, none⟩, pruned.set slot (some lease))

def release (manager : Manager) (metadata : RequestMetadata) (nowMs : Int) :
    Except Int Lease × Manager :=
  if metadata.leaseId.text = [] then (.error (-einval), manager) else
  let pruned := pruneExpired manager nowMs
  match findLeaseById pruned metadata.leaseId.text with
  | none => (.error (-enoent), pruned)
  | some (slot, lease) =>
      if holderMatchesRequest lease metadata then
        (.ok lease, pruned.set slot none)
      else (.error (-eacces), pruned)

def requireResource (manager : Manager) (resource : Text)
    (metadata : RequestMetadata) (nowMs : Int) : Int × Manager :=
  let pruned := pruneExpired manager nowMs
  match findLeaseByResource pruned resource with
  | none => (-eperm, pruned)
  | some (_, lease) =>
      if lease.leaseId.text ≠ metadata.leaseId.text then (-eperm, pruned)
      else if holderMatchesRequest lease metadata then (0, pruned)
      else (-eacces, pruned)

/-! What pruning leaves. -/

variable {manager : Manager} {slot : Fin maxEntries} {lease : Lease}

theorem pruneExpired_some {nowMs : Int} :
    (pruneExpired manager nowMs)[slot] = some lease ↔
      manager[slot] = some lease ∧ nowMs < lease.expiresAtMs := by
  rw [pruneExpired, getElem_keep]
  simp [Option.filter_eq_some_iff]

theorem findLeaseByResource_resource {resource : Text}
    (found : findLeaseByResource manager resource = some (slot, lease)) :
    lease.resource.text = resource := by
  simpa [Lease.isOn] using find_passes found

theorem findLeaseById_id {leaseId : Text}
    (found : findLeaseById manager leaseId = some (slot, lease)) :
    lease.leaseId.text = leaseId := by
  simpa [Lease.hasId] using find_passes found

/-! What each operation can do. -/

/-- A successful acquire renews the holder's lease, preempts a lease of lower
priority under another id, or fills a free slot. -/
inductive Acquired (pruned : Manager) (resource : Text) (metadata : RequestMetadata)
    (nowMs : Int) (slot : Fin maxEntries) : Option Lease → Prop
  | renewed (current : Lease)
      (found : findLeaseByResource pruned resource = some (slot, current))
      (sameId : current.leaseId.text = (requestedLeaseId metadata nowMs).text)
      (holder : holderMatchesRequest current metadata = true) :
      Acquired pruned resource metadata nowMs slot none
  | preempted (current : Lease)
      (found : findLeaseByResource pruned resource = some (slot, current))
      (otherId : current.leaseId.text ≠ (requestedLeaseId metadata nowMs).text)
      (higher : metadata.priority > current.priority) :
      Acquired pruned resource metadata nowMs slot (some current)
  | created (missing : findLeaseByResource pruned resource = none)
      (free : vacant pruned = some slot) :
      Acquired pruned resource metadata nowMs slot none

theorem acquire_cases (manager : Manager) (resource : Text)
    (metadata : RequestMetadata) (ttlMs nowMs : Int) :
    (∃ error, error < 0 ∧
      acquire manager resource metadata ttlMs nowMs = (.error error, manager)) ∨
    (∃ error, error < 0 ∧
      acquire manager resource metadata ttlMs nowMs =
        (.error error, pruneExpired manager nowMs)) ∨
    ∃ slot preempted, resource ≠ [] ∧ 0 < ttlMs ∧
      Acquired (pruneExpired manager nowMs) resource metadata nowMs slot preempted ∧
      acquire manager resource metadata ttlMs nowMs =
        (.ok ⟨granted resource metadata ttlMs nowMs, preempted⟩,
          (pruneExpired manager nowMs).set slot
            (some (granted resource metadata ttlMs nowMs))) := by
  unfold acquire
  by_cases invalid : resource = [] ∨ ttlMs ≤ 0
  · exact .inl ⟨-einval, by decide, by simp [invalid]⟩
  · obtain ⟨named, positive⟩ := not_or.mp invalid
    right
    cases found : findLeaseByResource (pruneExpired manager nowMs) resource with
    | none =>
        cases free : vacant (pruneExpired manager nowMs) with
        | none => exact .inl ⟨-enospc, by decide, by simp [invalid, found, free]⟩
        | some slot =>
            exact .inr ⟨slot, none, named, by omega, .created found free,
              by simp [invalid, found, free]⟩
    | some pair =>
        obtain ⟨slot, current⟩ := pair
        by_cases sameId : current.leaseId.text = (requestedLeaseId metadata nowMs).text
        · by_cases holder : holderMatchesRequest current metadata = true
          · exact .inr ⟨slot, none, named, by omega,
              .renewed current found sameId holder,
              by simp [invalid, found, sameId, holder]⟩
          · exact .inl ⟨-eacces, by decide, by simp [invalid, found, sameId, holder]⟩
        · by_cases higher : metadata.priority > current.priority
          · exact .inr ⟨slot, some current, named, by omega,
              .preempted current found sameId higher,
              by simp [invalid, found, sameId, higher]⟩
          · exact .inl ⟨-eexist, by decide, by simp [invalid, found, sameId, higher]⟩

theorem release_cases (manager : Manager) (metadata : RequestMetadata) (nowMs : Int) :
    (∃ error, error < 0 ∧ release manager metadata nowMs = (.error error, manager)) ∨
    (∃ error, error < 0 ∧
      release manager metadata nowMs = (.error error, pruneExpired manager nowMs)) ∨
    ∃ slot lease,
      findLeaseById (pruneExpired manager nowMs) metadata.leaseId.text =
        some (slot, lease) ∧
      holderMatchesRequest lease metadata = true ∧
      release manager metadata nowMs =
        (.ok lease, (pruneExpired manager nowMs).set slot none) := by
  unfold release
  by_cases empty : metadata.leaseId.text = []
  · exact .inl ⟨-einval, by decide, by simp [empty]⟩
  · right
    cases found : findLeaseById (pruneExpired manager nowMs) metadata.leaseId.text with
    | none => exact .inl ⟨-enoent, by decide, by simp [empty, found]⟩
    | some pair =>
        obtain ⟨slot, lease⟩ := pair
        by_cases holder : holderMatchesRequest lease metadata = true
        · exact .inr ⟨slot, lease, rfl, holder, by simp [empty, found, holder]⟩
        · exact .inl ⟨-eacces, by decide, by simp [empty, found, holder]⟩

theorem requireResource_manager (manager : Manager) (resource : Text)
    (metadata : RequestMetadata) (nowMs : Int) :
    (requireResource manager resource metadata nowMs).2 =
      pruneExpired manager nowMs := by
  simp only [requireResource]
  split
  · rfl
  · split
    · rfl
    · split <;> rfl

/-- A required resource is granted exactly when its first lease carries the
request's lease id and names its holder. -/
theorem requireResource_granted (manager : Manager) (resource : Text)
    (metadata : RequestMetadata) (nowMs : Int) :
    (requireResource manager resource metadata nowMs).1 = 0 ↔
      ∃ slot lease,
        findLeaseByResource (pruneExpired manager nowMs) resource = some (slot, lease) ∧
        lease.leaseId.text = metadata.leaseId.text ∧
        holderMatchesRequest lease metadata = true := by
  unfold requireResource
  cases found : findLeaseByResource (pruneExpired manager nowMs) resource with
  | none => simp [found]
  | some pair =>
      obtain ⟨slot, lease⟩ := pair
      by_cases sameId : lease.leaseId.text = metadata.leaseId.text
      · by_cases holder : holderMatchesRequest lease metadata = true
        · simp [found, sameId, holder]
        · simp [found, sameId, holder]
      · simp [found, sameId]

end NeuroLink.LeaseManager
