import NeuroLink.LeaseUsability

/-!
Lease ids. A release looks for its lease by the id alone, and acquire takes any id
that a client asks for, or makes one from the time. As long as no acquire takes a
resource under an id that another active lease has, an id stands for one lease: the
one the last acquire that returned the id was given.
-/

namespace NeuroLink.LeaseIdentity

open CText SlotTable LeaseManager LeaseSafety

abbrev Identified (manager : Manager) : Prop :=
  Distinct (fun lease : Lease => lease.leaseId) manager

/-- The table together with what the last acquire that returned an id was given. -/
structure Ledger where
  manager : Manager
  granted : Text → Option Lease

def record (ledger : Ledger) (call : Call) : Ledger where
  manager := (call.apply ledger.manager).2
  granted :=
    match call with
    | .acquire resource metadata ttlMs nowMs =>
        match (acquire ledger.manager resource metadata ttlMs nowMs).1 with
        | .ok result =>
            Function.update ledger.granted result.acquired.leaseId.text (some result.acquired)
        | .error _ => ledger.granted
    | _ => ledger.granted

def ledgerOf (calls : List Call) : Ledger := calls.foldl record ⟨init, fun _ => none⟩

/-- An id stands for one lease, and a release by its holder frees the lease that was
granted under the id and leaves every other one. -/
structure Exact (ledger : Ledger) : Prop where
  identified : Identified ledger.manager
  frees : ∀ (metadata : RequestMetadata) (nowMs : Int) (lease : Lease),
    (release ledger.manager metadata nowMs).1 = .ok lease →
      ledger.granted metadata.leaseId.text = some lease ∧
      ∀ slot : Fin maxEntries, (release ledger.manager metadata nowMs).2[slot] =
        (pruneExpired ledger.manager nowMs)[slot].filter (· ≠ lease)

/-- The acquire is in order and finds its resource free with a slot left, or under a
lease of lower priority. -/
def Takes (pruned : Manager) (resource : Text) (metadata : RequestMetadata)
    (ttlMs : Int) : Prop :=
  resource ≠ [] ∧ 0 < ttlMs ∧
    match findLeaseByResource pruned resource with
    | some (_, current) => metadata.priority > current.priority
    | none => vacant pruned ≠ none

/-- An acquire that takes its resource does so under an id that no unexpired lease
has, but for the one it finds on the resource. -/
def Fresh (manager : Manager) : Call → Prop
  | .acquire resource metadata ttlMs nowMs =>
      Takes (pruneExpired manager nowMs) resource metadata ttlMs →
        ∀ (slot : Fin maxEntries) (lease : Lease),
          (pruneExpired manager nowMs)[slot] = some lease →
            lease.leaseId = requestedLeaseId metadata nowMs →
              findLeaseByResource (pruneExpired manager nowMs) resource = some (slot, lease)
  | _ => True

structure Booked (ledger : Ledger) : Prop where
  identified : Identified ledger.manager
  booked : ∀ (slot : Fin maxEntries) (lease : Lease), ledger.manager[slot] = some lease →
    ledger.granted lease.leaseId.text = some lease

theorem ledgerOf_manager (calls : List Call) : (ledgerOf calls).manager = run calls := by
  induction calls using List.reverseRecOn with
  | nil => rfl
  | append_singleton calls call ih =>
      rw [ledgerOf, List.foldl_append, run, runFrom, List.foldl_append]
      exact congrArg (fun manager => (call.apply manager).2) ih

section Step

variable {ledger : Ledger} {manager : Manager} {resource : Text} {metadata : RequestMetadata}
  {ttlMs nowMs : Int} {slot : Fin maxEntries} {preempted : Option Lease}

/-- In a table where ids are distinct, every granted acquire but a renewal takes its
resource, and a renewal keeps the id of its lease. -/
theorem fresh_elsewhere (identified : Identified (pruneExpired manager nowMs))
    (fresh : Fresh manager (.acquire resource metadata ttlMs nowMs))
    (named : resource ≠ []) (positive : 0 < ttlMs)
    (acquired : Acquired (pruneExpired manager nowMs) resource metadata nowMs slot preempted)
    {other : Fin maxEntries} {lease : Lease}
    (held : (pruneExpired manager nowMs)[other] = some lease)
    (same : lease.leaseId = requestedLeaseId metadata nowMs) : other = slot := by
  cases acquired with
  | renewed current found sameId =>
      have own : current.leaseId = lease.leaseId :=
        Buffer.text_injective (sameId.trans (congrArg Buffer.text same.symm))
      exact (identified slot other current lease (find_content found) held own).symm
  | preempted current found otherId higher =>
      have takes : Takes (pruneExpired manager nowMs) resource metadata ttlMs :=
        ⟨named, positive, by rw [found]; exact higher⟩
      have again := fresh takes other lease held same
      rw [found] at again
      cases again
      rfl
  | created missing free =>
      have takes : Takes (pruneExpired manager nowMs) resource metadata ttlMs :=
        ⟨named, positive, by rw [missing]; simp [free]⟩
      have again := fresh takes other lease held same
      rw [missing] at again
      cases again

theorem booked_pruned (booked : Booked ledger) (nowMs : Int) :
    Booked ⟨pruneExpired ledger.manager nowMs, ledger.granted⟩ where
  identified := distinct_keep _ booked.identified
  booked slot lease held := booked.booked slot lease (pruneExpired_some.mp held).1

theorem acquire_booked (booked : Booked ledger)
    (fresh : Fresh ledger.manager (.acquire resource metadata ttlMs nowMs)) :
    Booked (record ledger (.acquire resource metadata ttlMs nowMs)) := by
  have pruned := booked_pruned booked nowMs
  rcases acquire_cases ledger.manager resource metadata ttlMs nowMs with
    ⟨error, _, result⟩ | ⟨error, _, result⟩ |
    ⟨slot, preempted, named, positive, acquired, result⟩
  · simpa [record, Call.apply, result] using booked
  · simpa [record, Call.apply, result] using pruned
  · have elsewhere : ∀ {other : Fin maxEntries} {lease : Lease},
        (pruneExpired ledger.manager nowMs)[other] = some lease →
          lease.leaseId = requestedLeaseId metadata nowMs → other = slot :=
      fresh_elsewhere pruned.identified fresh named positive acquired
    have written : record ledger (.acquire resource metadata ttlMs nowMs) =
        ⟨(pruneExpired ledger.manager nowMs).set slot
            (some (granted resource metadata ttlMs nowMs)),
          Function.update ledger.granted (requestedLeaseId metadata nowMs).text
            (some (granted resource metadata ttlMs nowMs))⟩ := by
      simp [record, Call.apply, result, granted]
    rw [written]
    constructor
    · refine distinct_put _ pruned.identified fun next same other lease held sameId => ?_
      cases same
      exact elsewhere held sameId.symm
    · intro other lease held
      rw [getElem_put] at held
      by_cases here : other = slot
      · rw [if_pos here] at held
        cases held
        exact Function.update_self ..
      · rw [if_neg here] at held
        have apart : lease.leaseId.text ≠ (requestedLeaseId metadata nowMs).text :=
          fun same => here (elsewhere held (Buffer.text_injective same))
        exact (Function.update_of_ne apart ..).trans (pruned.booked other lease held)

theorem record_booked (booked : Booked ledger) {call : Call}
    (fresh : Fresh ledger.manager call) : Booked (record ledger call) := by
  have pruned := booked_pruned booked
  cases call with
  | acquire resource metadata ttlMs nowMs => exact acquire_booked booked fresh
  | release metadata nowMs =>
      rcases release_cases ledger.manager metadata nowMs with
        ⟨error, _, result⟩ | ⟨error, _, result⟩ | ⟨slot, lease, _, _, result⟩
      · simpa [record, Call.apply, result] using booked
      · simpa [record, Call.apply, result] using pruned nowMs
      · have written : record ledger (.release metadata nowMs) =
            ⟨(pruneExpired ledger.manager nowMs).set slot none, ledger.granted⟩ := by
          simp [record, Call.apply, result]
        rw [written]
        refine ⟨distinct_clear slot (pruned nowMs).identified, fun other lease held => ?_⟩
        rw [getElem_put] at held
        split at held
        · cases held
        · exact (pruned nowMs).booked other lease held
  | requireResource resource metadata nowMs =>
      simpa [record, Call.apply, requireResource_manager] using pruned nowMs
  | pruneExpired nowMs => exact pruned nowMs
  | expireAll =>
      refine ⟨distinct_empty, fun slot lease held => ?_⟩
      have vacant := @getElem_empty Lease maxEntries slot
      cases vacant.symm.trans held

theorem booked_exact (booked : Booked ledger) : Exact ledger := by
  refine ⟨booked.identified, fun metadata nowMs lease released => ?_⟩
  have pruned := booked_pruned booked nowMs
  rcases release_cases ledger.manager metadata nowMs with
    ⟨error, _, result⟩ | ⟨error, _, result⟩ | ⟨slot, freed, found, _, result⟩
  · rw [result] at released
    cases released
  · rw [result] at released
    cases released
  · rw [result] at released
    cases released
    have held := find_content found
    constructor
    · rw [← findLeaseById_id found]
      exact pruned.booked slot lease held
    · intro other
      rw [result, getElem_put]
      by_cases here : other = slot
      · rw [if_pos here, here, held]
        simp [Option.filter]
      · rw [if_neg here]
        cases content : (pruneExpired ledger.manager nowMs)[other] with
        | none => rfl
        | some kept =>
            have apart : kept ≠ lease := by
              rintro rfl
              exact here (pruned.identified other slot kept kept content held rfl)
            simp [Option.filter, apart]

theorem granted_twice {pruned : Manager} {target : Fin maxEntries}
    (after : Identified (pruned.set target (some (granted resource metadata ttlMs nowMs))
      target.isLt))
    {lease : Lease} (held : pruned[slot] = some lease)
    (same : lease.leaseId = requestedLeaseId metadata nowMs) : slot = target := by
  by_contra apart
  refine apart (after slot target lease (granted resource metadata ttlMs nowMs) ?_ ?_ same)
  · rw [getElem_put, if_neg apart]
    exact held
  · rw [getElem_put, if_pos rfl]

theorem fresh_of_identified (identified : Identified manager) {call : Call}
    (after : Identified (call.apply manager).2) : Fresh manager call := by
  cases call with
  | acquire resource metadata ttlMs nowMs =>
      rintro ⟨named, positive, admitted⟩ slot lease held same
      have pruned : Identified (pruneExpired manager nowMs) := distinct_keep _ identified
      have valid : ¬ (resource = [] ∨ ttlMs ≤ 0) := not_or.mpr ⟨named, Int.not_le.mpr positive⟩
      simp only [Call.apply, acquire, if_neg valid] at after
      cases found : findLeaseByResource (pruneExpired manager nowMs) resource with
      | some pair =>
          obtain ⟨target, current⟩ := pair
          have content := find_content found
          have here : slot = target := by
            by_cases sameId : current.leaseId.text = (requestedLeaseId metadata nowMs).text
            · have own : lease.leaseId = current.leaseId :=
                Buffer.text_injective ((congrArg Buffer.text same).trans sameId.symm)
              exact pruned slot target lease current held content own
            · rw [found] at admitted after
              dsimp only at admitted after
              rw [if_neg sameId, if_pos admitted] at after
              exact granted_twice after held same
          subst here
          rw [held] at content
          cases content
          rfl
      | none =>
          rw [found] at admitted after
          cases free : vacant (pruneExpired manager nowMs) with
          | none => exact absurd free admitted
          | some target =>
              rw [free] at after
              have here := granted_twice after held same
              rw [here, vacant_content free] at held
              cases held
  | _ => trivial

end Step

/-- After every part of a run each id stands for the one lease granted under it last,
and releases free that lease alone, if and only if every acquire that takes a
resource does so under an id no other unexpired lease has. -/
theorem lease_ids_exact_iff (calls : List Call) :
    (∀ front, front <+: calls → Exact (ledgerOf front)) ↔
      ∀ front call, front ++ [call] <+: calls → Fresh (run front) call := by
  constructor
  · intro exact front call part
    have before := (exact front ((List.prefix_append _ _).trans part)).identified
    have after := (exact (front ++ [call]) part).identified
    rw [ledgerOf_manager] at before after
    rw [run, runFrom, List.foldl_append] at after
    exact fresh_of_identified before after
  · intro fresh front part
    refine booked_exact ?_
    induction front using List.reverseRecOn with
    | nil =>
        refine ⟨distinct_empty, fun slot lease held => ?_⟩
        change (SlotTable.empty : Manager)[slot] = some lease at held
        rw [getElem_empty] at held
        cases held
    | append_singleton front call ih =>
        rw [ledgerOf, List.foldl_append]
        refine record_booked (ih ((List.prefix_append _ _).trans part)) ?_
        rw [ledgerOf_manager]
        exact fresh front call part

def sharedId : List Call :=
  [.acquire (lit "app/a/control") (clientRequest "core-a" "agent" "lease-a" 5) 1000 10,
    .acquire (lit "app/b/control") (clientRequest "core-a" "agent" "lease-a" 5) 1000 10]

theorem sharedId_twice :
    ¬ ∀ calls : List Call, (calls.filterMap Call.nowMs?).Pairwise (· ≤ ·) →
      ∀ front, front <+: calls → Exact (ledgerOf front) := by
  intro claimed
  have identified := (claimed sharedId (by decide) sharedId (List.prefix_refl _)).identified
  rw [ledgerOf_manager] at identified
  have held : ∀ slot : Fin maxEntries, slot = 0 ∨ slot = 1 →
      ((run sharedId)[slot].map (·.leaseId.text)) = some (lit "lease-a") := by decide
  obtain ⟨first, there, firstId⟩ := Option.map_eq_some_iff.mp (held 0 (.inl rfl))
  obtain ⟨second, next, secondId⟩ := Option.map_eq_some_iff.mp (held 1 (.inr rfl))
  have same : first.leaseId = second.leaseId :=
    Buffer.text_injective (firstId.trans secondId.symm)
  exact absurd (identified 0 1 first second there next same) (by decide)

end NeuroLink.LeaseIdentity
