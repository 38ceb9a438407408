import NeuroLink.LeaseSafety

/-!
What a client can do with a lease it was granted. The request, the table entry
and the handlers' resource names have fields of different sizes, and every copy
cuts what does not fit while the checks compare whole strings. A granted lease
works exactly while nothing of it was cut, no other client's lease under the same
id stands in front of it, and the first lease on its resource answers for it.
-/

namespace NeuroLink.LeaseUsability

open CText SlotTable LeaseManager LeaseSafety

def controlResource (appId : Text) : Text :=
  lit "app/" ++ appId ++ lit "/control"

def stageResource (appId : Text) (stage : String) : Text :=
  lit "update/app/" ++ appId ++ lit "/" ++ lit stage

def carrying (metadata : RequestMetadata) (lease : Lease) : RequestMetadata :=
  { metadata with leaseId := lease.leaseId }

/-- The lease the holder has after a call: its own successful acquire under the
same id returns a new one. -/
def regrant (lease : Lease) (manager : Manager) : Call → Lease
  | .acquire resource metadata ttlMs nowMs =>
      match (acquire manager resource metadata ttlMs nowMs).1 with
      | .ok result =>
          if result.acquired.resource = lease.resource ∧
              result.acquired.leaseId = lease.leaseId ∧
              holderMatchesRequest lease metadata = true then result.acquired
          else lease
      | .error _ => lease
  | _ => lease

inductive Displaces (lease : Lease) (manager : Manager) : Call → Prop
  | preempted {resource metadata ttlMs nowMs result}
      (granted : (acquire manager resource metadata ttlMs nowMs).1 = .ok result)
      (victim : result.preempted = some lease) :
      Displaces lease manager (.acquire resource metadata ttlMs nowMs)
  | released {metadata nowMs} (released : (release manager metadata nowMs).1 = .ok lease) :
      Displaces lease manager (.release metadata nowMs)
  | expired : Displaces lease manager .expireAll

/-- Every call comes before the expiry the holder was last given, and none of
them displaces the lease. -/
def Unbroken : Lease → Manager → List Call → Prop
  | _, _, [] => True
  | lease, manager, call :: later =>
      (∀ nowMs, call.nowMs? = some nowMs → nowMs < lease.expiresAtMs) ∧
        ¬ Displaces lease manager call ∧
        Unbroken (regrant lease manager call) (call.apply manager).2 later

def lastGrant : Lease → Manager → List Call → Lease
  | lease, _, [] => lease
  | lease, manager, call :: later =>
      lastGrant (regrant lease manager call) (call.apply manager).2 later

/-- The request that was granted can be used now: the resource is granted to it,
its release succeeds, and nobody else gets the resource at this priority. -/
structure Usable (resource : Text) (metadata : RequestMetadata) (lease : Lease)
    (manager : Manager) (nowMs : Int) : Prop where
  required :
    (requireResource manager resource (carrying metadata lease) nowMs).1 = 0
  released : (release manager (carrying metadata lease) nowMs).1.isOk = true
  guarded : ∀ (rival : RequestMetadata) (ttlMs : Int),
    rival.sourceCore ≠ metadata.sourceCore ∨ rival.sourceAgent ≠ metadata.sourceAgent →
      rival.priority ≤ lease.priority →
        (acquire manager resource rival ttlMs nowMs).1.isOk = false

structure First (manager : Manager) (nowMs : Int) (wanted : Lease → Prop)
    (slot : Fin maxEntries) (lease : Lease) : Prop where
  held : manager[slot] = some lease
  early : nowMs < lease.expiresAtMs
  hit : wanted lease
  missed : ∀ (earlier : Fin maxEntries) (before : Lease), earlier < slot →
    manager[earlier] = some before → nowMs < before.expiresAtMs → ¬ wanted before

/-- The first unexpired lease under the granted id has the same holder. -/
def HolderFirst (lease : Lease) (manager : Manager) (nowMs : Int) : Prop :=
  ∀ (slot : Fin maxEntries) (other : Lease),
    First manager nowMs (fun stored => stored.leaseId = lease.leaseId) slot other →
      other.sourceCore = lease.sourceCore ∧ other.sourceAgent = lease.sourceAgent

/-- The first unexpired lease on the granted resource answers for the granted one:
it is under the same id, of the same holder and of no lower priority. A longer name
that was cut to the granted one may stand in front of it. -/
def GrantFirst (lease : Lease) (manager : Manager) (nowMs : Int) : Prop :=
  ∀ (slot : Fin maxEntries) (other : Lease),
    First manager nowMs (fun stored => stored.resource = lease.resource) slot other →
      other.leaseId = lease.leaseId ∧ other.sourceCore = lease.sourceCore ∧
        other.sourceAgent = lease.sourceAgent ∧ lease.priority ≤ other.priority

variable {manager : Manager} {slot : Fin maxEntries} {lease : Lease}

theorem requestedLeaseId_named (metadata : RequestMetadata) (nowMs : Int) :
    (requestedLeaseId metadata nowMs).text ≠ [] := by
  unfold requestedLeaseId
  split
  · rw [copyBounded_text, List.take_append]
    intro empty
    have cut := congrArg List.length empty
    have six : (lit "lease-").length = 6 := by decide
    simp [six] at cut
  · assumption

theorem regrant_same (lease : Lease) (manager : Manager) (call : Call) :
    (regrant lease manager call).resource = lease.resource ∧
      (regrant lease manager call).leaseId = lease.leaseId ∧
      (regrant lease manager call).sourceCore = lease.sourceCore ∧
      (regrant lease manager call).sourceAgent = lease.sourceAgent := by
  cases call with
  | acquire resource metadata ttlMs nowMs =>
      rcases acquire_cases manager resource metadata ttlMs nowMs with
        ⟨error, _, result⟩ | ⟨error, _, result⟩ | ⟨slot, preempted, _, _, _, result⟩
      · simp [regrant, result]
      · simp [regrant, result]
      · simp only [regrant, result]
        split
        · next same =>
            obtain ⟨sameResource, sameId, holder⟩ := same
            simp only [holderMatchesRequest, Bool.and_eq_true, decide_eq_true_eq] at holder
            refine ⟨sameResource, sameId, ?_, ?_⟩
            · change copyBounded metadata.sourceCore.text = _
              rw [← holder.1]
              exact copyBounded_buffer lease.sourceCore
            · change copyBounded metadata.sourceAgent.text = _
              rw [← holder.2]
              exact copyBounded_buffer lease.sourceAgent
        · exact ⟨rfl, rfl, rfl, rfl⟩
  | _ => exact ⟨rfl, rfl, rfl, rfl⟩

theorem lastGrant_same (lease : Lease) (manager : Manager) (calls : List Call) :
    (lastGrant lease manager calls).resource = lease.resource ∧
      (lastGrant lease manager calls).leaseId = lease.leaseId ∧
      (lastGrant lease manager calls).sourceCore = lease.sourceCore ∧
      (lastGrant lease manager calls).sourceAgent = lease.sourceAgent := by
  induction calls generalizing lease manager with
  | nil => exact ⟨rfl, rfl, rfl, rfl⟩
  | cons call later ih =>
      obtain ⟨resource, id, core, agent⟩ :=
        ih (regrant lease manager call) (call.apply manager).2
      obtain ⟨resource', id', core', agent'⟩ := regrant_same lease manager call
      exact ⟨resource.trans resource', id.trans id', core.trans core',
        agent.trans agent'⟩

/-- The step lemma: a call that does not displace an unexpired lease leaves the
holder's current lease in the table. -/
theorem apply_regrants {call : Call} (held : ∃ slot : Fin maxEntries, manager[slot] = some lease)
    (alive : ∀ nowMs, call.nowMs? = some nowMs → nowMs < lease.expiresAtMs)
    (kept : ¬ Displaces lease manager call) :
    ∃ slot : Fin maxEntries,
      (call.apply manager).2[slot] = some (regrant lease manager call) := by
  obtain ⟨slot, held⟩ := held
  cases call with
  | acquire resource metadata ttlMs nowMs =>
      rcases acquire_cases manager resource metadata ttlMs nowMs with
        ⟨error, _, result⟩ | ⟨error, _, result⟩ | ⟨target, preempted, _, _, _, result⟩
      · refine ⟨slot, ?_⟩
        simpa [regrant, Call.apply, result] using held
      · refine ⟨slot, ?_⟩
        simpa [regrant, Call.apply, result] using
          pruneExpired_some.mpr ⟨held, alive nowMs rfl⟩
      · by_cases renewal : (granted resource metadata ttlMs nowMs).resource = lease.resource ∧
            (granted resource metadata ttlMs nowMs).leaseId = lease.leaseId ∧
            holderMatchesRequest lease metadata = true
        · refine ⟨target, ?_⟩
          simp [regrant, Call.apply, result, renewal]
        · refine ⟨slot, ?_⟩
          have unchanged :
              regrant lease manager (.acquire resource metadata ttlMs nowMs) = lease := by
            simp [regrant, result, renewal]
          rw [unchanged]
          -- the lease is still there, or it was renewed or taken, which the premises exclude
          rcases acquire_keeps held (alive nowMs rfl) with
            still | ⟨_, same, granted, ⟨sameId, holder⟩ | ⟨_, _, victim⟩⟩
          · exact still
          · have stored : (LeaseManager.granted resource metadata ttlMs nowMs).resource =
                lease.resource := by
              rw [same]
              exact copyBounded_buffer lease.resource
            exact absurd ⟨stored, Buffer.text_injective sameId, holder⟩ renewal
          · exact absurd (.preempted granted victim) kept
  | release metadata nowMs =>
      rcases release_keeps held (alive nowMs rfl) with still | ⟨released, _⟩
      · exact ⟨slot, still⟩
      · exact absurd (.released released) kept
  | requireResource resource metadata nowMs =>
      refine ⟨slot, ?_⟩
      simpa [Call.apply, requireResource_manager, regrant] using
        pruneExpired_some.mpr ⟨held, alive nowMs rfl⟩
  | pruneExpired nowMs => exact ⟨slot, pruneExpired_some.mpr ⟨held, alive nowMs rfl⟩⟩
  | expireAll => exact absurd .expired kept

theorem runFrom_regrants (calls : List Call)
    (held : ∃ slot : Fin maxEntries, manager[slot] = some lease)
    (unbroken : Unbroken lease manager calls) :
    ∃ slot : Fin maxEntries,
      (runFrom manager calls)[slot] = some (lastGrant lease manager calls) := by
  induction calls generalizing manager lease with
  | nil => exact held
  | cons call later ih =>
      obtain ⟨alive, kept, rest⟩ := unbroken
      exact ih (apply_regrants held alive kept) rest

theorem find_first {nowMs : Int} {test : Lease → Bool} :
    find test (pruneExpired manager nowMs) = some (slot, lease) ↔
      First manager nowMs (fun stored => test stored = true) slot lease := by
  rw [find_some_iff]
  constructor
  · rintro ⟨content, hit, missed⟩
    obtain ⟨held, early⟩ := pruneExpired_some.mp content
    refine ⟨held, early, hit, fun earlier before ahead there unexpired wanted => ?_⟩
    have skipped := missed earlier before ahead (pruneExpired_some.mpr ⟨there, unexpired⟩)
    rw [wanted] at skipped
    cases skipped
  · intro first
    refine ⟨pruneExpired_some.mpr ⟨first.held, first.early⟩, first.hit, ?_⟩
    intro earlier before ahead there
    obtain ⟨held, unexpired⟩ := pruneExpired_some.mp there
    exact Bool.eq_false_iff.mpr (first.missed earlier before ahead held unexpired)

theorem First.congr {nowMs : Int} {wanted asked : Lease → Prop}
    (same : ∀ stored, wanted stored ↔ asked stored) :
    First manager nowMs wanted slot lease ↔ First manager nowMs asked slot lease :=
  ⟨fun first => ⟨first.held, first.early, (same _).mp first.hit,
      fun earlier before ahead there early hit =>
        first.missed earlier before ahead there early ((same _).mpr hit)⟩,
    fun first => ⟨first.held, first.early, (same _).mpr first.hit,
      fun earlier before ahead there early hit =>
        first.missed earlier before ahead there early ((same _).mp hit)⟩⟩

theorem findById_first {nowMs : Int} (granted : Lease) :
    findLeaseById (pruneExpired manager nowMs) granted.leaseId.text = some (slot, lease) ↔
      First manager nowMs (fun stored => stored.leaseId = granted.leaseId) slot lease :=
  find_first.trans (First.congr fun stored => by
    simp only [Lease.hasId, decide_eq_true_eq]
    exact ⟨fun same => Buffer.text_injective same, fun same => by rw [same]⟩)

theorem findByResource_first {nowMs : Int} (granted : Lease) :
    findLeaseByResource (pruneExpired manager nowMs) granted.resource.text =
        some (slot, lease) ↔
      First manager nowMs (fun stored => stored.resource = granted.resource) slot lease :=
  find_first.trans (First.congr fun stored => by
    simp only [Lease.isOn, decide_eq_true_eq]
    exact ⟨fun same => Buffer.text_injective same, fun same => by rw [same]⟩)

theorem find_held {nowMs : Int} (test : Lease → Bool) (held : manager[slot] = some lease)
    (early : nowMs < lease.expiresAtMs) (hit : test lease = true) :
    ∃ first found, find test (pruneExpired manager nowMs) = some (first, found) := by
  cases scan : find test (pruneExpired manager nowMs) with
  | some pair => exact ⟨pair.1, pair.2, rfl⟩
  | none =>
      have missed := (find_none_iff _ _).mp scan slot lease
        (pruneExpired_some.mpr ⟨held, early⟩)
      rw [hit] at missed
      cases missed

theorem release_ok (metadata : RequestMetadata) (nowMs : Int) :
    (release manager metadata nowMs).1.isOk = true ↔
      metadata.leaseId.text ≠ [] ∧ ∃ slot lease,
        findLeaseById (pruneExpired manager nowMs) metadata.leaseId.text =
          some (slot, lease) ∧ holderMatchesRequest lease metadata = true := by
  unfold release
  by_cases empty : metadata.leaseId.text = []
  · simp [empty, Except.isOk, Except.toBool]
  · cases found : findLeaseById (pruneExpired manager nowMs) metadata.leaseId.text with
    | none => simp [empty, found, Except.isOk, Except.toBool]
    | some pair =>
        obtain ⟨slot, lease⟩ := pair
        by_cases holder : holderMatchesRequest lease metadata = true
        · simp [empty, found, holder, Except.isOk, Except.toBool]
        · simp [empty, found, holder, Except.isOk, Except.toBool]

/-! The state in which a grant is used: the table holds the unexpired lease that was
granted to the request. -/

section Use

variable {resource : Text} {metadata : RequestMetadata} {nowMs : Int}

/-- The lease names the resource and the holder of the request as far as its
fields take them. -/
structure GrantedTo (resource : Text) (metadata : RequestMetadata) (lease : Lease) :
    Prop where
  resource : lease.resource = copyBounded resource
  sourceCore : lease.sourceCore = copyBounded metadata.sourceCore.text
  sourceAgent : lease.sourceAgent = metadata.sourceAgent
  named : lease.leaseId.text ≠ []

theorem required_short
    (required : (requireResource manager resource (carrying metadata lease) nowMs).1 = 0) :
    resource.length ≤ 47 ∧ metadata.sourceCore.text.length ≤ 23 := by
  obtain ⟨slot, found, hit, _, holder⟩ :=
    (requireResource_granted manager resource _ nowMs).mp required
  have onResource := findLeaseByResource_resource hit
  simp only [holderMatchesRequest, Bool.and_eq_true, decide_eq_true_eq] at holder
  have core : found.sourceCore.text = metadata.sourceCore.text := holder.1
  rw [← onResource, ← core]
  exact ⟨Nat.le_of_lt_succ found.resource.fits, Nat.le_of_lt_succ found.sourceCore.fits⟩

theorem holder_matches (grant : GrantedTo resource metadata lease)
    (core : metadata.sourceCore.text.length ≤ 23) (request : RequestMetadata) :
    holderMatchesRequest lease request = true ↔
      request.sourceCore = metadata.sourceCore ∧
        request.sourceAgent = metadata.sourceAgent := by
  have storedCore : lease.sourceCore.text = metadata.sourceCore.text := by
    rw [grant.sourceCore]
    exact copyBounded_exact _ core
  simp only [holderMatchesRequest, storedCore, grant.sourceAgent, Bool.and_eq_true,
    decide_eq_true_eq]
  constructor
  · rintro ⟨sameCore, sameAgent⟩
    exact ⟨Buffer.text_injective sameCore.symm, Buffer.text_injective sameAgent.symm⟩
  · rintro ⟨sameCore, sameAgent⟩
    rw [sameCore, sameAgent]
    exact ⟨rfl, rfl⟩

theorem holderMatches_of_fields {other : Lease}
    (core : other.sourceCore.text = lease.sourceCore.text)
    (agent : other.sourceAgent.text = lease.sourceAgent.text)
    (request : RequestMetadata) :
    holderMatchesRequest other request = holderMatchesRequest lease request := by
  simp [holderMatchesRequest, core, agent]

theorem holder_fields (grant : GrantedTo resource metadata lease)
    (core : metadata.sourceCore.text.length ≤ 23) (other : Lease) :
    holderMatchesRequest other metadata = true ↔
      other.sourceCore = lease.sourceCore ∧ other.sourceAgent = lease.sourceAgent := by
  have storedCore : lease.sourceCore.text = metadata.sourceCore.text := by
    rw [grant.sourceCore]
    exact copyBounded_exact _ core
  simp only [holderMatchesRequest, ← storedCore, ← grant.sourceAgent, Bool.and_eq_true,
    decide_eq_true_eq]
  exact ⟨fun same => ⟨Buffer.text_injective same.1, Buffer.text_injective same.2⟩,
    fun same => ⟨by rw [same.1], by rw [same.2]⟩⟩

/-- The release reaches the holder's lease exactly when the first unexpired
lease under the id has the same holder. -/
theorem released_iff (held : manager[slot] = some lease)
    (early : nowMs < lease.expiresAtMs) (grant : GrantedTo resource metadata lease)
    (core : metadata.sourceCore.text.length ≤ 23) :
    (release manager (carrying metadata lease) nowMs).1.isOk = true ↔
      HolderFirst lease manager nowMs := by
  rw [release_ok]
  constructor
  · rintro ⟨_, first, found, hit, holder⟩ slot' other leads
    have again := (findById_first lease).mpr leads
    rw [show (carrying metadata lease).leaseId.text = lease.leaseId.text from rfl,
      again] at hit
    cases hit
    exact (holder_fields grant core found).mp holder
  · intro leading
    refine ⟨grant.named, ?_⟩
    obtain ⟨first, found, hit⟩ :=
      find_held (Lease.hasId lease.leaseId.text) held early (by simp [Lease.hasId])
    exact ⟨first, found, hit, (holder_fields grant core found).mpr
      (leading first found ((findById_first lease).mp hit))⟩

theorem findByResource_held (held : manager[slot] = some lease)
    (early : nowMs < lease.expiresAtMs) :
    ∃ first found,
      findLeaseByResource (pruneExpired manager nowMs) lease.resource.text =
        some (first, found) :=
  find_held (Lease.isOn lease.resource.text) held early (by simp [Lease.isOn])

theorem required_ok (held : manager[slot] = some lease) (early : nowMs < lease.expiresAtMs)
    (grant : GrantedTo resource metadata lease) (stored : lease.resource.text = resource)
    (core : metadata.sourceCore.text.length ≤ 23) (leading : GrantFirst lease manager nowMs) :
    (requireResource manager resource (carrying metadata lease) nowMs).1 = 0 := by
  obtain ⟨first, found, hit⟩ := findByResource_held held early
  obtain ⟨sameId, sameCore, sameAgent, _⟩ :=
    leading first found ((findByResource_first lease).mp hit)
  rw [stored] at hit
  exact (requireResource_granted _ _ _ _).mpr ⟨first, found, hit, by rw [sameId]; rfl,
    (holder_fields grant core found).mpr ⟨sameCore, sameAgent⟩⟩

theorem rival_refused (held : manager[slot] = some lease) (early : nowMs < lease.expiresAtMs)
    (grant : GrantedTo resource metadata lease) (stored : lease.resource.text = resource)
    (core : metadata.sourceCore.text.length ≤ 23) (leading : GrantFirst lease manager nowMs)
    (rival : RequestMetadata) (ttlMs : Int)
    (different : rival.sourceCore ≠ metadata.sourceCore ∨
      rival.sourceAgent ≠ metadata.sourceAgent)
    (lower : rival.priority ≤ lease.priority) :
    (acquire manager resource rival ttlMs nowMs).1.isOk = false := by
  obtain ⟨first, found, hit⟩ := findByResource_held held early
  obtain ⟨_, sameCore, sameAgent, priority⟩ :=
    leading first found ((findByResource_first lease).mp hit)
  rw [stored] at hit
  have mismatch : holderMatchesRequest found rival = false := by
    have sameHolder : holderMatchesRequest found rival = holderMatchesRequest lease rival :=
      holderMatches_of_fields (by rw [sameCore]) (by rw [sameAgent]) rival
    cases verdict : holderMatchesRequest lease rival with
    | false => rw [sameHolder, verdict]
    | true =>
        obtain ⟨rivalCore, rivalAgent⟩ := (holder_matches grant core rival).mp verdict
        rcases different with other | other
        · exact absurd rivalCore other
        · exact absurd rivalAgent other
  -- a grant would renew another holder's lease, preempt a higher one or find none at all
  rcases acquire_cases manager resource rival ttlMs nowMs with
    ⟨error, _, result⟩ | ⟨error, _, result⟩ | ⟨target, _, _, _, acquired, result⟩
  · rw [result]
    rfl
  · rw [result]
    rfl
  · cases acquired with
    | renewed current again sameId holder =>
        rw [hit] at again
        cases again
        rw [mismatch] at holder
        cases holder
    | preempted current again otherId higher =>
        rw [hit] at again
        cases again
        omega
    | created missing =>
        rw [hit] at missing
        cases missing

theorem rival_exists (metadata : RequestMetadata) (leaseId : Buffer 32) (priority : Int) :
    ∃ rival : RequestMetadata, rival.sourceCore ≠ metadata.sourceCore ∧
      rival.priority = priority ∧ rival.leaseId.text ≠ [] ∧ rival.leaseId ≠ leaseId := by
  have core : ∃ core : Buffer 32, core ≠ metadata.sourceCore := by
    by_cases taken : copyBounded (lit "core-a") = metadata.sourceCore
    · exact ⟨copyBounded (lit "core-b"), fun same => absurd (taken.trans same.symm) (by decide)⟩
    · exact ⟨_, taken⟩
  have id : ∃ id : Buffer 32, id.text ≠ [] ∧ id ≠ leaseId := by
    by_cases taken : copyBounded (lit "lease-a") = leaseId
    · exact ⟨copyBounded (lit "lease-b"), by decide,
        fun same => absurd (taken.trans same.symm) (by decide)⟩
    · exact ⟨_, by decide, taken⟩
  obtain ⟨core, otherCore⟩ := core
  obtain ⟨id, named, otherId⟩ := id
  exact ⟨{ RequestMetadata.init with
    sourceCore := core
    leaseId := id
    priority := priority }, otherCore, rfl, named, otherId⟩

/-- A higher request under another id takes the resource over. -/
theorem acquire_preempts {found : Lease} {rival : RequestMetadata} (named : resource ≠ [])
    (hit : findLeaseByResource (pruneExpired manager nowMs) resource = some (slot, found))
    (rivalNamed : rival.leaseId.text ≠ []) (otherId : rival.leaseId ≠ found.leaseId)
    (higher : rival.priority > found.priority) :
    (acquire manager resource rival 1 nowMs).1.isOk = true := by
  have differs : ¬ found.leaseId.text = rival.leaseId.text :=
    fun same => otherId (Buffer.text_injective same.symm)
  simp [acquire, named, hit, requestedLeaseId, rivalNamed, differs, higher, Except.isOk,
    Except.toBool]

theorem usable_first (named : resource ≠ []) (grant : GrantedTo resource metadata lease)
    (stored : lease.resource.text = resource) (core : metadata.sourceCore.text.length ≤ 23)
    (usable : Usable resource metadata lease manager nowMs) :
    GrantFirst lease manager nowMs := by
  intro first other leads
  have hit := (findByResource_first lease).mpr leads
  rw [stored] at hit
  obtain ⟨slot, found, again, sameId, holder⟩ :=
    (requireResource_granted _ _ _ _).mp usable.required
  rw [hit] at again
  cases again
  have same := (holder_fields grant core other).mp holder
  refine ⟨Buffer.text_injective sameId, same.1, same.2, ?_⟩
  by_contra lower
  obtain ⟨rival, otherCore, priority, rivalNamed, otherId⟩ :=
    rival_exists metadata other.leaseId lease.priority
  have taken := acquire_preempts named hit rivalNamed otherId (by omega)
  rw [usable.guarded rival 1 (.inl otherCore) (by omega)] at taken
  cases taken

theorem usable_iff (held : manager[slot] = some lease) (named : resource ≠ [])
    (early : nowMs < lease.expiresAtMs) (grant : GrantedTo resource metadata lease) :
    Usable resource metadata lease manager nowMs ↔
      resource.length ≤ 47 ∧ metadata.sourceCore.text.length ≤ 23 ∧
        HolderFirst lease manager nowMs ∧ GrantFirst lease manager nowMs := by
  have stored (short : resource.length ≤ 47) : lease.resource.text = resource := by
    rw [grant.resource]
    exact copyBounded_exact _ short
  constructor
  · intro usable
    obtain ⟨short, core⟩ := required_short usable.required
    exact ⟨short, core, (released_iff held early grant core).mp usable.released,
      usable_first named grant (stored short) core usable⟩
  · rintro ⟨short, core, holder, first⟩
    exact
      { required := required_ok held early grant (stored short) core first
        released := (released_iff held early grant core).mpr holder
        guarded := fun rival ttlMs different lower =>
          rival_refused held early grant (stored short) core first rival ttlMs
            different lower }

end Use

theorem acquired_grantedTo {resource : Text} {metadata : RequestMetadata}
    {ttlMs nowMs : Int} {result : AcquireResult}
    (acquired : (acquire manager resource metadata ttlMs nowMs).1 = .ok result) :
    resource ≠ [] ∧ GrantedTo resource metadata result.acquired ∧
      ∃ slot : Fin maxEntries,
        (acquire manager resource metadata ttlMs nowMs).2[slot] = some result.acquired := by
  rcases acquire_cases manager resource metadata ttlMs nowMs with
    ⟨error, _, outcome⟩ | ⟨error, _, outcome⟩ | ⟨slot, preempted, named, _, _, outcome⟩
  · rw [outcome] at acquired
    cases acquired
  · rw [outcome] at acquired
    cases acquired
  · rw [outcome] at acquired
    cases acquired
    refine ⟨named, ⟨rfl, rfl, copyBounded_buffer _, requestedLeaseId_named metadata nowMs⟩,
      slot, ?_⟩
    rw [outcome]
    simp

/-- A lease acquired after any calls, used at any time before the expiry last
returned for it and after any calls that did not displace it, does what it was
acquired for if and only if its resource has at most 47 characters, its holder's
core name at most 23, no other client's unexpired lease under the same id comes first
in the table, and neither does a lease of another id, holder or lower priority whose
resource was cut to the same text. -/
theorem lease_usable_iff (calls : List Call) (resource : Text) (metadata : RequestMetadata)
    (ttlMs nowMs : Int) (result : AcquireResult)
    (acquired : (acquire (run calls) resource metadata ttlMs nowMs).1 = .ok result)
    (between : List Call)
    (unbroken : Unbroken result.acquired
      (acquire (run calls) resource metadata ttlMs nowMs).2 between)
    (useMs : Int)
    (early : useMs < (lastGrant result.acquired
      (acquire (run calls) resource metadata ttlMs nowMs).2 between).expiresAtMs) :
    Usable resource metadata
        (lastGrant result.acquired
          (acquire (run calls) resource metadata ttlMs nowMs).2 between)
        (runFrom (acquire (run calls) resource metadata ttlMs nowMs).2 between) useMs ↔
      resource.length ≤ 47 ∧ metadata.sourceCore.text.length ≤ 23 ∧
        HolderFirst
          (lastGrant result.acquired
            (acquire (run calls) resource metadata ttlMs nowMs).2 between)
          (runFrom (acquire (run calls) resource metadata ttlMs nowMs).2 between) useMs ∧
        GrantFirst
          (lastGrant result.acquired
            (acquire (run calls) resource metadata ttlMs nowMs).2 between)
          (runFrom (acquire (run calls) resource metadata ttlMs nowMs).2 between) useMs := by
  obtain ⟨named, grant, granted⟩ := acquired_grantedTo acquired
  obtain ⟨slot, held⟩ := runFrom_regrants between granted unbroken
  obtain ⟨sameResource, sameId, sameCore, sameAgent⟩ := lastGrant_same result.acquired
    (acquire (run calls) resource metadata ttlMs nowMs).2 between
  exact usable_iff held named early
    ⟨sameResource.trans grant.resource, sameCore.trans grant.sourceCore,
      sameAgent.trans grant.sourceAgent, by rw [sameId]; exact grant.named⟩

/-- Another core asks for the resource and is refused. -/
def demoBetween : List Call :=
  [.requireResource (controlResource (lit "demo"))
    (clientRequest "core-b" "agent" "lease-a" 9) 20]

def demoTable : Manager :=
  (acquire (run []) (controlResource (lit "demo"))
    (clientRequest "core-a" "agent" "lease-a" 5) 1000 10).2

/-- A short-named holder can use its lease after another core was refused. -/
theorem demoLease_usable :
    Usable (controlResource (lit "demo")) (clientRequest "core-a" "agent" "lease-a" 5)
      demoLease (runFrom demoTable demoBetween) 900 := by
  have only : ∀ slot : Fin maxEntries,
      (runFrom demoTable demoBetween)[slot] = none ∨
        (runFrom demoTable demoBetween)[slot] = some demoLease := by
    decide
  have unbroken : Unbroken demoLease demoTable demoBetween := by
    refine ⟨fun nowMs time => ?_, fun displaced => ?_, trivial⟩
    · cases time
      decide
    · cases displaced
  have alone : ∀ (slot : Fin maxEntries) (other : Lease),
      (runFrom demoTable demoBetween)[slot] = some other → other = demoLease := by
    intro slot other there
    rcases only slot with empty | held
    · rw [empty] at there
      cases there
    · rw [held] at there
      exact (Option.some.inj there).symm
  refine (lease_usable_iff [] (controlResource (lit "demo"))
    (clientRequest "core-a" "agent" "lease-a" 5) 1000 10 ⟨demoLease, none⟩ (by rfl)
    demoBetween unbroken 900 (by decide)).mpr ⟨by decide, by decide, ?_, ?_⟩
  · intro slot other leads
    cases alone slot other leads.held
    exact ⟨rfl, rfl⟩
  · intro slot other leads
    cases alone slot other leads.held
    exact ⟨rfl, rfl, rfl, Int.le_refl _⟩

/-- A lease on the activation of an application whose id has 28 characters is
granted, and the activation it was acquired for is refused. -/
theorem long_stage_unusable :
    ¬ ∀ (appId : Text) (metadata : RequestMetadata) (ttlMs nowMs : Int)
        (result : AcquireResult), appId.length ≤ 31 →
      (acquire init (stageResource appId "activate") metadata ttlMs nowMs).1 =
        .ok result →
      Usable (stageResource appId "activate") metadata result.acquired
        (acquire init (stageResource appId "activate") metadata ttlMs nowMs).2 nowMs := by
  intro claimed
  have usable := claimed (lit "telemetry-aggregator-service")
    (clientRequest "core-a" "agent" "lease-a" 5) 1000 10
    ⟨granted (stageResource (lit "telemetry-aggregator-service") "activate")
      (clientRequest "core-a" "agent" "lease-a" 5) 1000 10, none⟩ (by decide) (by rfl)
  exact absurd usable.required (by decide)

end NeuroLink.LeaseUsability
