import Mathlib.Data.List.Induction
import NeuroLink.LeaseManager

/-!
Runs of the lease manager. Clients' acquires, releases and checks come in any
order and at any times, mixed with pruning and with the expiry of everything. No
resource ever has two active leases, and an unexpired lease is left alone until
its holder, an expiry of all leases or a higher priority ends it.
-/

namespace NeuroLink.LeaseSafety

open CText SlotTable LeaseManager

inductive Call where
  | acquire (resource : Text) (metadata : RequestMetadata) (ttlMs nowMs : Int)
  | release (metadata : RequestMetadata) (nowMs : Int)
  | requireResource (resource : Text) (metadata : RequestMetadata) (nowMs : Int)
  | pruneExpired (nowMs : Int)
  | expireAll
  deriving DecidableEq

/-- The value the C function returns: zero or an error, and for the expiry of
all leases their number. -/
def code {Result : Type} : Except Int Result → Int
  | .ok _ => 0
  | .error error => error

namespace Call

def apply (manager : Manager) : Call → Int × Manager
  | acquire resource metadata ttlMs nowMs =>
      let result := LeaseManager.acquire manager resource metadata ttlMs nowMs
      (code result.1, result.2)
  | release metadata nowMs =>
      let result := LeaseManager.release manager metadata nowMs
      (code result.1, result.2)
  | requireResource resource metadata nowMs =>
      LeaseManager.requireResource manager resource metadata nowMs
  | pruneExpired nowMs => (0, LeaseManager.pruneExpired manager nowMs)
  | expireAll => LeaseManager.expireAll manager

/-- The time the call is made at, for the calls that look at the time. -/
def nowMs? : Call → Option Int
  | acquire _ _ _ nowMs | release _ nowMs | requireResource _ _ nowMs
  | pruneExpired nowMs => some nowMs
  | expireAll => none

/-- The resource a lease is asked for is stored whole. -/
def Short : Call → Prop
  | acquire resource _ _ _ => resource.length ≤ 47
  | _ => True

instance (call : Call) : Decidable call.Short := by
  cases call <;> simp only [Short] <;> infer_instance

end Call

def runFrom (manager : Manager) (calls : List Call) : Manager :=
  calls.foldl (fun current call => (call.apply current).2) manager

def run (calls : List Call) : Manager := runFrom init calls

abbrev Exclusive (manager : Manager) : Prop :=
  Distinct (fun lease : Lease => lease.resource) manager

inductive Ends (lease : Lease) (manager : Manager) : Call → Prop
  | renewed {resource metadata ttlMs nowMs}
      (granted : (acquire manager resource metadata ttlMs nowMs).1.isOk = true)
      (same : resource = lease.resource.text)
      (sameId : (requestedLeaseId metadata nowMs).text = lease.leaseId.text)
      (holder : holderMatchesRequest lease metadata = true) :
      Ends lease manager (.acquire resource metadata ttlMs nowMs)
  | preempted {resource metadata ttlMs nowMs}
      (granted : (acquire manager resource metadata ttlMs nowMs).1.isOk = true)
      (same : resource = lease.resource.text)
      (otherId : (requestedLeaseId metadata nowMs).text ≠ lease.leaseId.text)
      (higher : metadata.priority > lease.priority) :
      Ends lease manager (.acquire resource metadata ttlMs nowMs)
  | released {metadata nowMs}
      (released : (release manager metadata nowMs).1 = .ok lease)
      (holder : holderMatchesRequest lease metadata = true) :
      Ends lease manager (.release metadata nowMs)
  | expired : Ends lease manager .expireAll

/-- Every call comes before the lease expires and none of them ends it. -/
def Undisturbed (lease : Lease) : Manager → List Call → Prop
  | _, [] => True
  | manager, call :: later =>
      (∀ nowMs, call.nowMs? = some nowMs → nowMs < lease.expiresAtMs) ∧
        ¬ Ends lease manager call ∧
        Undisturbed lease (call.apply manager).2 later

variable {manager : Manager} {slot : Fin maxEntries} {lease : Lease}

theorem acquired_exclusive {pruned : Manager} {resource : Text}
    {metadata : RequestMetadata} {ttlMs nowMs : Int} {preempted : Option Lease}
    (exclusive : Exclusive pruned) (short : resource.length ≤ 47)
    (acquired : Acquired pruned resource metadata nowMs slot preempted) :
    Exclusive (pruned.set slot (some (granted resource metadata ttlMs nowMs))) := by
  have stored : (granted resource metadata ttlMs nowMs).resource.text = resource :=
    copyBounded_exact resource short
  have rewrites (current : Lease)
      (found : findLeaseByResource pruned resource = some (slot, current)) :
      Exclusive (pruned.set slot (some (granted resource metadata ttlMs nowMs))) := by
    refine distinct_rewrite exclusive (find_content found) ?_
    exact Buffer.text_injective (stored.trans (findLeaseByResource_resource found).symm)
  cases acquired with
  | renewed current found => exact rewrites current found
  | preempted current found => exact rewrites current found
  | created missing =>
      refine distinct_put _ exclusive fun next written other held there same => ?_
      cases written
      have absent := (find_none_iff _ _).mp missing other held there
      simp [Lease.isOn, ← same, stored] at absent

theorem apply_exclusive (exclusive : Exclusive manager) {call : Call}
    (short : call.Short) : Exclusive (call.apply manager).2 := by
  have pruned (nowMs : Int) : Exclusive (pruneExpired manager nowMs) :=
    distinct_keep _ exclusive
  cases call with
  | acquire resource metadata ttlMs nowMs =>
      rcases acquire_cases manager resource metadata ttlMs nowMs with
        ⟨error, _, result⟩ | ⟨error, _, result⟩ | ⟨slot, _, _, _, acquired, result⟩
      · simpa [Call.apply, result] using exclusive
      · simpa [Call.apply, result] using pruned nowMs
      · simpa [Call.apply, result] using acquired_exclusive (pruned nowMs) short acquired
  | release metadata nowMs =>
      rcases release_cases manager metadata nowMs with
        ⟨error, _, result⟩ | ⟨error, _, result⟩ | ⟨slot, lease, _, _, result⟩
      · simpa [Call.apply, result] using exclusive
      · simpa [Call.apply, result] using pruned nowMs
      · simpa [Call.apply, result] using distinct_clear slot (pruned nowMs)
  | requireResource resource metadata nowMs =>
      simpa [Call.apply, requireResource_manager] using pruned nowMs
  | pruneExpired nowMs => exact pruned nowMs
  | expireAll => exact distinct_empty

/-- An acquire leaves an unexpired lease in its slot or is granted on its
resource, as a renewal by its holder or as a preemption. -/
theorem acquire_keeps {resource : Text} {metadata : RequestMetadata}
    {ttlMs nowMs : Int} (held : manager[slot] = some lease)
    (early : nowMs < lease.expiresAtMs) :
    (acquire manager resource metadata ttlMs nowMs).2[slot] = some lease ∨
    ∃ preempted, resource = lease.resource.text ∧
      (acquire manager resource metadata ttlMs nowMs).1 =
        .ok ⟨granted resource metadata ttlMs nowMs, preempted⟩ ∧
      ((requestedLeaseId metadata nowMs).text = lease.leaseId.text ∧
          holderMatchesRequest lease metadata = true ∨
        (requestedLeaseId metadata nowMs).text ≠ lease.leaseId.text ∧
          metadata.priority > lease.priority ∧ preempted = some lease) := by
  have pruned : (pruneExpired manager nowMs)[slot] = some lease :=
    pruneExpired_some.mpr ⟨held, early⟩
  rcases acquire_cases manager resource metadata ttlMs nowMs with
    ⟨error, _, result⟩ | ⟨error, _, result⟩ |
    ⟨target, preempted, _, _, acquired, result⟩
  · exact .inl (by simpa [result] using held)
  · exact .inl (by simpa [result] using pruned)
  -- a grant in another slot leaves the lease alone; one in its slot found it there
  · by_cases apart : slot = target
    · subst target
      have onSlot (current : Lease)
          (found : findLeaseByResource (pruneExpired manager nowMs) resource =
            some (slot, current)) : current = lease := by
        simpa [pruned, eq_comm] using find_content found
      cases acquired with
      | renewed current found sameId holder =>
          cases onSlot current found
          exact .inr ⟨none, (findLeaseByResource_resource found).symm, by rw [result],
            .inl ⟨sameId.symm, holder⟩⟩
      | preempted current found otherId higher =>
          cases onSlot current found
          exact .inr ⟨some lease, (findLeaseByResource_resource found).symm,
            by rw [result], .inr ⟨Ne.symm otherId, higher, rfl⟩⟩
      | created _ free =>
          rw [vacant_content free] at pruned
          cases pruned
    · left
      rw [result, getElem_put, if_neg apart]
      exact pruned

theorem release_keeps {metadata : RequestMetadata} {nowMs : Int}
    (held : manager[slot] = some lease) (early : nowMs < lease.expiresAtMs) :
    (release manager metadata nowMs).2[slot] = some lease ∨
      (release manager metadata nowMs).1 = .ok lease ∧
        holderMatchesRequest lease metadata = true := by
  have pruned : (pruneExpired manager nowMs)[slot] = some lease :=
    pruneExpired_some.mpr ⟨held, early⟩
  rcases release_cases manager metadata nowMs with
    ⟨error, _, result⟩ | ⟨error, _, result⟩ | ⟨target, found, hit, holder, result⟩
  · exact .inl (by simpa [result] using held)
  · exact .inl (by simpa [result] using pruned)
  · by_cases apart : slot = target
    · subst target
      have same : found = lease := by
        simpa [pruned, eq_comm] using find_content hit
      subst same
      exact .inr ⟨by rw [result], holder⟩
    · left
      rw [result, getElem_put, if_neg apart]
      exact pruned

/-- One call on a table that holds an unexpired lease: the lease stays in its
slot with every field, or the call is one that may end it. -/
theorem apply_keeps {call : Call} (held : manager[slot] = some lease)
    (alive : ∀ nowMs, call.nowMs? = some nowMs → nowMs < lease.expiresAtMs) :
    (call.apply manager).2[slot] = some lease ∨ Ends lease manager call := by
  cases call with
  | acquire resource metadata ttlMs nowMs =>
      rcases acquire_keeps held (alive nowMs rfl) with
        still | ⟨preempted, same, result, ⟨sameId, holder⟩ | ⟨otherId, higher, _⟩⟩
      · exact .inl still
      · exact .inr (.renewed (by rw [result]; rfl) same sameId holder)
      · exact .inr (.preempted (by rw [result]; rfl) same otherId higher)
  | release metadata nowMs =>
      rcases release_keeps held (alive nowMs rfl) with still | ⟨released, holder⟩
      · exact .inl still
      · exact .inr (.released released holder)
  | requireResource resource metadata nowMs =>
      left
      simpa [Call.apply, requireResource_manager] using
        pruneExpired_some.mpr ⟨held, alive nowMs rfl⟩
  | pruneExpired nowMs => exact .inl (pruneExpired_some.mpr ⟨held, alive nowMs rfl⟩)
  | expireAll => exact .inr .expired

/-- A run that does not disturb a lease leaves it in its slot. -/
theorem runFrom_keeps (calls : List Call) (held : manager[slot] = some lease)
    (undisturbed : Undisturbed lease manager calls) :
    (runFrom manager calls)[slot] = some lease := by
  induction calls generalizing manager with
  | nil => exact held
  | cons call later ih =>
      obtain ⟨alive, kept, rest⟩ := undisturbed
      rcases apply_keeps held alive with still | ends
      · exact ih still rest
      · exact absurd ends kept

theorem apply_error {call : Call} (failed : (call.apply manager).1 < 0)
    (slot : Fin maxEntries) :
    (call.apply manager).2[slot] = manager[slot] ∨
      (call.apply manager).2[slot] = none ∧
        ∃ lease nowMs, manager[slot] = some lease ∧ call.nowMs? = some nowMs ∧
          lease.expiresAtMs ≤ nowMs := by
  have pruned (nowMs : Int) (time : call.nowMs? = some nowMs) :
      (pruneExpired manager nowMs)[slot] = manager[slot] ∨
        (pruneExpired manager nowMs)[slot] = none ∧
          ∃ lease nowMs, manager[slot] = some lease ∧ call.nowMs? = some nowMs ∧
            lease.expiresAtMs ≤ nowMs := by
    rw [pruneExpired, getElem_keep]
    cases content : manager[slot] with
    | none => exact .inl rfl
    | some lease =>
        by_cases early : nowMs < lease.expiresAtMs
        · exact .inl (by simp [early])
        · have late : lease.expiresAtMs ≤ nowMs := by omega
          exact .inr ⟨by simp [late], lease, nowMs, rfl, time, late⟩
  cases call with
  | acquire resource metadata ttlMs nowMs =>
      rcases acquire_cases manager resource metadata ttlMs nowMs with
        ⟨error, _, result⟩ | ⟨error, _, result⟩ | ⟨target, _, _, _, _, result⟩
      · exact .inl (by simp [Call.apply, result])
      · simpa [Call.apply, result] using pruned nowMs rfl
      · simp [Call.apply, result, code] at failed
  | release metadata nowMs =>
      rcases release_cases manager metadata nowMs with
        ⟨error, _, result⟩ | ⟨error, _, result⟩ | ⟨target, _, _, _, result⟩
      · exact .inl (by simp [Call.apply, result])
      · simpa [Call.apply, result] using pruned nowMs rfl
      · simp [Call.apply, result, code] at failed
  | requireResource resource metadata nowMs =>
      simpa [Call.apply, requireResource_manager] using pruned nowMs rfl
  | pruneExpired nowMs => simp [Call.apply] at failed
  | expireAll =>
      simp [Call.apply, expireAll] at failed
      omega

theorem run_exclusive (calls : List Call) (short : ∀ call ∈ calls, call.Short) :
    Exclusive (run calls) := by
  induction calls using List.reverseRecOn with
  | nil => exact distinct_empty
  | append_singleton calls call ih =>
      have before := ih fun earlier member => short earlier (List.mem_append_left _ member)
      simpa [run, runFrom] using apply_exclusive before (short call (by simp))

/-- After any calls there is at most one active lease on a resource; an active
lease keeps its slot and every field through all later calls before its expiry
until one of them ends it; and a call that returns an error changes nothing but
leases that had expired. -/
theorem lease_runs_safe (calls : List Call) (short : ∀ call ∈ calls, call.Short) :
    (∀ (left right : Fin maxEntries) (first second : Lease),
      (run calls)[left] = some first → (run calls)[right] = some second →
        first.resource = second.resource → left = right) ∧
    (∀ (slot : Fin maxEntries) (lease : Lease) (later : List Call),
      (run calls)[slot] = some lease → Undisturbed lease (run calls) later →
        (runFrom (run calls) later)[slot] = some lease) ∧
    (∀ call : Call, (call.apply (run calls)).1 < 0 → ∀ slot : Fin maxEntries,
      (call.apply (run calls)).2[slot] = (run calls)[slot] ∨
        (call.apply (run calls)).2[slot] = none ∧
          ∃ lease nowMs, (run calls)[slot] = some lease ∧
            call.nowMs? = some nowMs ∧ lease.expiresAtMs ≤ nowMs) :=
  ⟨run_exclusive calls short, fun _ _ later => runFrom_keeps later,
    fun _ => apply_error⟩

/-- The metadata of a client's request under a lease id. -/
def clientRequest (core agent leaseId : String) (priority : Int) : RequestMetadata :=
  { RequestMetadata.init with
    sourceCore := copyBounded (lit core)
    sourceAgent := copyBounded (lit agent)
    leaseId := copyBounded (lit leaseId)
    priority := priority }

def demoAcquire : List Call :=
  [.acquire (lit "app/demo/control") (clientRequest "core-a" "agent" "lease-a" 5) 1000 10]

def demoLease : Lease :=
  granted (lit "app/demo/control") (clientRequest "core-a" "agent" "lease-a" 5) 1000 10

/-- A rival of equal priority is refused and the lease stays. -/
theorem demoLease_kept :
    (runFrom (run demoAcquire)
      [.acquire (lit "app/demo/control") (clientRequest "core-b" "agent" "lease-b" 5)
        1000 20])[(0 : Fin maxEntries)] = some demoLease := by
  have undisturbed : Undisturbed demoLease (run demoAcquire)
      [.acquire (lit "app/demo/control") (clientRequest "core-b" "agent" "lease-b" 5)
        1000 20] := by
    refine ⟨?_, ?_, trivial⟩
    · intro nowMs time
      cases time
      decide
    · intro ends
      cases ends with
      | renewed granted => exact absurd granted (by decide)
      | preempted granted => exact absurd granted (by decide)
  exact (lease_runs_safe demoAcquire (by decide)).2.1 0 demoLease _ (by decide) undisturbed

end NeuroLink.LeaseSafety
