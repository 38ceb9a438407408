import Mathlib.Data.String.Basic
import NeuroLink.CheckedFilter
import NeuroLink.Dictionary

/-!
The routes that the federation topology plans to units of other cores. The planner picks
the peer with the least core id before it looks at the transports, and a decision about
stale or unreachable peers quotes the trust scope of the peer that was registered first.
-/

namespace NeuroLink.FederationRouting

/-- What the planner reads of `UnitCapabilityDescriptor`. -/
structure UnitCapabilityDescriptor where
  networkTransports : List String
  relayCapable : Bool
  relayPath : List String
  deriving DecidableEq

/-- What the planner reads of an attachment; a key that is missing reads as empty. -/
structure Attachment where
  nodeId : String
  relayPath : List String
  networkTransports : List String
  deriving DecidableEq

/-- `CorePeerDescriptor`, without what the planner does not read. -/
structure CorePeerDescriptor where
  coreId : String
  trustScope : String
  remoteUnits : List String
  remoteUnitAttachments : List Attachment
  expiresAt : String
  reachable : Bool
  deriving DecidableEq

inductive RouteKind where
  | direct
  | relay
  | local
  | none
  | delegatedCore
  deriving DecidableEq

inductive RouteStatus where
  | routeReady
  | routeRejected
  | noRoute
  | staleRoute
  | routeFailed
  deriving DecidableEq

structure RouteDecision where
  sourceCore : String
  targetNode : String
  routeKind : RouteKind
  status : RouteStatus
  trustScope : String
  targetCore : Option String
  relayPath : List String
  failureReason : String
  evidenceRefs : List String
  deriving DecidableEq

/-- `FederationTopologyRegistry`. The peers are listed as they were first registered, each
under its own core id. -/
structure Registry where
  localCoreId : String
  localTrustScope : String
  localUnits : List (String × UnitCapabilityDescriptor)
  peers : List (String × CorePeerDescriptor)
  distinct : (peers.map Prod.fst).Nodup
  keyed : ∀ entry ∈ peers, entry.1 = entry.2.coreId

def Registry.registerPeer (registry : Registry) (peer : CorePeerDescriptor) : Registry where
  localCoreId := registry.localCoreId
  localTrustScope := registry.localTrustScope
  localUnits := registry.localUnits
  peers := Dictionary.assign peer.coreId peer registry.peers
  distinct := Dictionary.assign_distinct peer.coreId peer registry.distinct
  keyed := by
    intro entry member
    rcases (Dictionary.mem_assign registry.distinct).mp member with rfl | held
    · rfl
    · exact registry.keyed entry held.1

/-- `self._peers.values()`. -/
def Registry.values (registry : Registry) : List CorePeerDescriptor :=
  registry.peers.map Prod.snd

def sortedByCore (peers : List CorePeerDescriptor) : List CorePeerDescriptor :=
  peers.mergeSort fun first second => first.coreId ≤ second.coreId

/-- `tuple(sorted(peer.core_id for peer in peers))`. -/
def sortedIds (peers : List CorePeerDescriptor) : List String :=
  (peers.map CorePeerDescriptor.coreId).mergeSort fun first second => first ≤ second

def attachmentFor (peer : CorePeerDescriptor) (nodeId : String) : Option Attachment :=
  peer.remoteUnitAttachments.find? fun attachment => attachment.nodeId = nodeId

variable (parseUtc : String → Option Int)

/-- `peer.is_fresh(now)`; `datetime.fromisoformat` raises for a text that is no time. -/
def isFresh (now : String) (peer : CorePeerDescriptor) : Except String Bool :=
  match parseUtc peer.expiresAt, parseUtc now with
  | some expiry, some moment => .ok (decide (moment ≤ expiry))
  | _, _ => .error "ValueError"

def advertises (targetNode : String) (peer : CorePeerDescriptor) : Bool :=
  peer.remoteUnits.contains targetNode || (attachmentFor peer targetNode).isSome

def relayPathTo (targetNode : String) (peer : CorePeerDescriptor) : List String :=
  ((attachmentFor peer targetNode).elim [] Attachment.relayPath).filter (· ≠ "")

def transportsTo (targetNode : String) (peer : CorePeerDescriptor) : List String :=
  ((attachmentFor peer targetNode).elim [] Attachment.networkTransports).filter (· ≠ "")

/-- The branch of `plan_route` for a unit of its own. -/
def planLocal (registry : Registry) (targetNode : String)
    (requiredTrustScope requiredTransport : Option String)
    (unit : UnitCapabilityDescriptor) : RouteDecision :=
  let decision (routeKind : RouteKind) (status : RouteStatus) (relayPath : List String)
      (failureReason : String) (evidenceRefs : List String) : RouteDecision :=
    ⟨registry.localCoreId, targetNode, routeKind, status, registry.localTrustScope, none,
      relayPath, failureReason, evidenceRefs⟩
  let routeKind := if unit.relayPath ≠ [] then RouteKind.relay else .direct
  if requiredTrustScope.any (· ≠ registry.localTrustScope) then
    decision .local .routeRejected [] "trust_scope_mismatch" [targetNode]
  else if requiredTransport.any (! unit.networkTransports.contains ·) then
    decision routeKind .routeRejected unit.relayPath "transport_mismatch"
      (targetNode :: unit.relayPath)
  else if unit.relayPath ≠ [] ∧ unit.relayCapable = false then
    decision .relay .routeRejected unit.relayPath "relay_capability_mismatch"
      (targetNode :: unit.relayPath)
  else decision routeKind .routeReady unit.relayPath "" [targetNode]

def planSelected (localCoreId targetNode : String) (requiredTransport : Option String)
    (selected : CorePeerDescriptor) : RouteDecision :=
  let relayPath := relayPathTo targetNode selected
  let transports := transportsTo targetNode selected
  let decision (status : RouteStatus) (failureReason : String) : RouteDecision :=
    ⟨localCoreId, targetNode, .delegatedCore, status, selected.trustScope,
      some selected.coreId, relayPath, failureReason,
      selected.coreId :: targetNode :: relayPath⟩
  if requiredTransport.any fun transport => transports ≠ [] ∧ transport ∉ transports then
    decision .routeRejected "transport_mismatch"
  else decision .routeReady ""

def planWithout (localCoreId targetNode : String) (routeKind : RouteKind)
    (status : RouteStatus) (trustScope failureReason : String)
    (peers : List CorePeerDescriptor) : RouteDecision :=
  ⟨localCoreId, targetNode, routeKind, status, trustScope, none, [], failureReason,
    sortedIds peers⟩

/-- `peers[0].trust_scope`, for peers that are there. -/
def firstScope (peers : List CorePeerDescriptor) : String :=
  (peers.head?.map CorePeerDescriptor.trustScope).getD ""

def trustedPeers (targetNode : String) (requiredTrustScope : Option String)
    (values : List CorePeerDescriptor) : List CorePeerDescriptor :=
  (values.filter (advertises targetNode)).filter fun peer =>
    requiredTrustScope.all (peer.trustScope = ·)

/-- The branch of `plan_route` for a unit that only peers advertise. -/
def planPeers (localCoreId targetNode now : String)
    (requiredTrustScope requiredTransport : Option String)
    (values : List CorePeerDescriptor) : Except String RouteDecision :=
  let peers := values.filter (advertises targetNode)
  if peers = [] then
    .ok (planWithout localCoreId targetNode .none .noRoute (requiredTrustScope.getD "")
      "target_node_not_advertised" [])
  else
    let trusted := trustedPeers targetNode requiredTrustScope values
    if trusted = [] then
      .ok (planWithout localCoreId targetNode .delegatedCore .routeRejected
        (requiredTrustScope.getD "") "trust_scope_mismatch" peers)
    else do
      let fresh ← trusted.filterM (isFresh parseUtc now)
      if fresh = [] then
        return planWithout localCoreId targetNode .delegatedCore .staleRoute
          (requiredTrustScope.getD (firstScope trusted)) "peer_advertisement_stale" trusted
      match (sortedByCore (fresh.filter CorePeerDescriptor.reachable)).head? with
      | none =>
          return planWithout localCoreId targetNode .delegatedCore .routeFailed
            (requiredTrustScope.getD (firstScope fresh)) "peer_unreachable" fresh
      | some selected =>
          return planSelected localCoreId targetNode requiredTransport selected

/-- An empty scope or transport requires none. -/
def required (name : Option String) : Option String := name.filter (· ≠ "")

/-- `FederationTopologyRegistry.plan_route`. -/
def planRoute (registry : Registry) (targetNode now : String)
    (requiredTrustScope requiredTransport : Option String) : Except String RouteDecision :=
  match registry.localUnits.lookup targetNode with
  | some unit =>
      .ok (planLocal registry targetNode (required requiredTrustScope)
        (required requiredTransport) unit)
  | none =>
      planPeers parseUtc registry.localCoreId targetNode now (required requiredTrustScope)
        (required requiredTransport) registry.values

/-! The peers that are left after each filter. -/

section Filters

variable (targetNode now : String) (scope transport : Option String)
  (values : List CorePeerDescriptor)

def freshAt (peer : CorePeerDescriptor) : Bool :=
  match parseUtc peer.expiresAt, parseUtc now with
  | some expiry, some moment => decide (moment ≤ expiry)
  | _, _ => false

def Timed (peer : CorePeerDescriptor) : Prop :=
  (parseUtc peer.expiresAt).isSome ∧ (parseUtc now).isSome

def freshPeers : List CorePeerDescriptor :=
  (trustedPeers targetNode scope values).filter (freshAt parseUtc now)

def reachablePeers : List CorePeerDescriptor :=
  (freshPeers parseUtc targetNode now scope values).filter CorePeerDescriptor.reachable

/-- The peer lists no transports for the unit, or the required one. -/
def Accepts (peer : CorePeerDescriptor) : Prop :=
  ∀ name, transport = some name →
    transportsTo targetNode peer = [] ∨ name ∈ transportsTo targetNode peer

def Least (peer : CorePeerDescriptor) (peers : List CorePeerDescriptor) : Prop :=
  peer ∈ peers ∧ ∀ other ∈ peers, peer.coreId ≤ other.coreId

end Filters

/-! Sorting. -/

theorem sortedIds_perm {peers others : List CorePeerDescriptor} (same : peers.Perm others) :
    sortedIds peers = sortedIds others := by
  have pairwise (ids : List String) :
      (ids.mergeSort fun first second => first ≤ second).Pairwise
        fun first second => decide (first ≤ second) = true :=
    List.pairwise_mergeSort
      (fun first second third before after => by
        simp only [decide_eq_true_eq] at before after ⊢
        exact le_trans before after)
      (fun first second => by simpa using le_total first second) ids
  have alike := (List.mergeSort_perm (peers.map CorePeerDescriptor.coreId)
    fun first second => decide (first ≤ second)).trans ((same.map _).trans
      (List.mergeSort_perm (others.map CorePeerDescriptor.coreId)
        fun first second => decide (first ≤ second)).symm)
  apply alike.eq_of_pairwise _ (pairwise _) (pairwise _)
  intro first second _ _ before after
  exact le_antisymm (of_decide_eq_true before) (of_decide_eq_true after)

theorem sortedByCore_pairwise (peers : List CorePeerDescriptor) :
    (sortedByCore peers).Pairwise
      fun first second => decide (first.coreId ≤ second.coreId) = true :=
  List.pairwise_mergeSort
    (fun first second third before after => by
      simp only [decide_eq_true_eq] at before after ⊢
      exact le_trans before after)
    (fun first second => by simpa using le_total first.coreId second.coreId) peers

theorem least_of_head {peers : List CorePeerDescriptor} {selected : CorePeerDescriptor}
    (head : (sortedByCore peers).head? = some selected) : Least selected peers := by
  cases sorted : sortedByCore peers with
  | nil =>
      rw [sorted] at head
      cases head
  | cons first rest =>
      rw [sorted, List.head?_cons, Option.some.injEq] at head
      subst selected
      have order := sortedByCore_pairwise peers
      rw [sorted, List.pairwise_cons] at order
      have mem_iff (peer : CorePeerDescriptor) : peer ∈ peers ↔ peer ∈ first :: rest := by
        rw [← sorted, sortedByCore, List.mem_mergeSort]
      refine ⟨(mem_iff first).mpr List.mem_cons_self, fun other member => ?_⟩
      rcases List.mem_cons.mp ((mem_iff other).mp member) with rfl | later
      · exact le_rfl
      · exact of_decide_eq_true (order.1 other later)

theorem least_unique {peers : List CorePeerDescriptor} {first second : CorePeerDescriptor}
    (distinct : (peers.map CorePeerDescriptor.coreId).Nodup) (left : Least first peers)
    (right : Least second peers) : first = second :=
  List.inj_on_of_nodup_map distinct left.1 right.1
    (le_antisymm (left.2 second right.1) (right.2 first left.1))

theorem head_of_least {peers : List CorePeerDescriptor} {selected : CorePeerDescriptor}
    (distinct : (peers.map CorePeerDescriptor.coreId).Nodup) (least : Least selected peers) :
    (sortedByCore peers).head? = some selected := by
  cases head : (sortedByCore peers).head? with
  | none =>
      have empty := List.head?_eq_none_iff.mp head
      have member : selected ∈ sortedByCore peers := by
        rw [sortedByCore, List.mem_mergeSort]
        exact least.1
      rw [empty] at member
      cases member
  | some first => rw [least_unique distinct (least_of_head head) least]

theorem least_exists {peers : List CorePeerDescriptor} (some : peers ≠ []) :
    ∃ selected, Least selected peers := by
  cases head : (sortedByCore peers).head? with
  | some selected => exact ⟨selected, least_of_head head⟩
  | none =>
      have count := (List.mergeSort_perm peers
        fun first second => decide (first.coreId ≤ second.coreId)).length_eq
      rw [← sortedByCore, List.head?_eq_none_iff.mp head] at count
      exact absurd (List.length_eq_zero_iff.mp count.symm) some

theorem Least.of_perm {peers others : List CorePeerDescriptor} {selected : CorePeerDescriptor}
    (same : peers.Perm others) (least : Least selected peers) : Least selected others :=
  ⟨same.mem_iff.mp least.1, fun other member => least.2 other (same.mem_iff.mpr member)⟩

/-! What `plan_route` decides when no filter, one of them or none leaves no peer. -/

section Outcomes

variable {parseUtc} {localCoreId targetNode now : String} {scope transport : Option String}
  {values : List CorePeerDescriptor}

theorem isFresh_timed {peer : CorePeerDescriptor} (timed : Timed parseUtc now peer) :
    isFresh parseUtc now peer = .ok (freshAt parseUtc now peer) := by
  obtain ⟨expiry, expires⟩ := Option.isSome_iff_exists.mp timed.1
  obtain ⟨moment, reads⟩ := Option.isSome_iff_exists.mp timed.2
  simp only [isFresh, freshAt, expires, reads]

theorem isFresh_error {peer : CorePeerDescriptor} {text : String}
    (fails : isFresh parseUtc now peer = .error text) : text = "ValueError" := by
  unfold isFresh at fails
  split at fails
  · cases fails
  · exact (Except.error.inj fails).symm

theorem isFresh_untimed {peer : CorePeerDescriptor} (untimed : ¬ Timed parseUtc now peer)
    (good : Bool) : isFresh parseUtc now peer ≠ .ok good := by
  intro passes
  unfold isFresh at passes
  split at passes
  next expiry moment expires reads =>
    exact untimed ⟨by rw [expires]; rfl, by rw [reads]; rfl⟩
  next => cases passes

theorem advertised_of_trusted (trusted : trustedPeers targetNode scope values ≠ []) :
    values.filter (advertises targetNode) ≠ [] := by
  intro none
  rw [trustedPeers, none] at trusted
  exact trusted rfl

theorem plan_unadvertised (none : values.filter (advertises targetNode) = []) :
    planPeers parseUtc localCoreId targetNode now scope transport values =
      .ok (planWithout localCoreId targetNode .none .noRoute (scope.getD "")
        "target_node_not_advertised" []) :=
  if_pos none

theorem plan_untrusted (some : values.filter (advertises targetNode) ≠ [])
    (none : trustedPeers targetNode scope values = []) :
    planPeers parseUtc localCoreId targetNode now scope transport values =
      .ok (planWithout localCoreId targetNode .delegatedCore .routeRejected (scope.getD "")
        "trust_scope_mismatch" (values.filter (advertises targetNode))) :=
  (if_neg some).trans (if_pos none)

theorem plan_untimed {peer : CorePeerDescriptor}
    (member : peer ∈ trustedPeers targetNode scope values)
    (untimed : ¬ Timed parseUtc now peer) :
    planPeers parseUtc localCoreId targetNode now scope transport values =
      .error "ValueError" := by
  have trusted : trustedPeers targetNode scope values ≠ [] := List.ne_nil_of_mem member
  refine ((if_neg (advertised_of_trusted trusted)).trans (if_neg trusted)).trans ?_
  have failed : (trustedPeers targetNode scope values).filterM (isFresh parseUtc now) =
      .error "ValueError" :=
    CheckedFilter.filterM_error (fun _ _ fails => isFresh_error fails) member
      (isFresh_untimed untimed)
  rw [failed]
  rfl

theorem plan_timed (trusted : trustedPeers targetNode scope values ≠ [])
    (timed : ∀ peer ∈ trustedPeers targetNode scope values, Timed parseUtc now peer) :
    planPeers parseUtc localCoreId targetNode now scope transport values =
      if freshPeers parseUtc targetNode now scope values = [] then
        .ok (planWithout localCoreId targetNode .delegatedCore .staleRoute
          (scope.getD (firstScope (trustedPeers targetNode scope values)))
          "peer_advertisement_stale" (trustedPeers targetNode scope values))
      else match (sortedByCore (reachablePeers parseUtc targetNode now scope values)).head? with
        | none => .ok (planWithout localCoreId targetNode .delegatedCore .routeFailed
            (scope.getD (firstScope (freshPeers parseUtc targetNode now scope values)))
            "peer_unreachable" (freshPeers parseUtc targetNode now scope values))
        | some selected => .ok (planSelected localCoreId targetNode transport selected) := by
  refine ((if_neg (advertised_of_trusted trusted)).trans (if_neg trusted)).trans ?_
  rw [CheckedFilter.filterM_ok fun peer member => isFresh_timed (timed peer member)]
  rfl

theorem planSelected_ready (selected : CorePeerDescriptor) :
    (planSelected localCoreId targetNode transport selected).status = .routeReady ↔
      Accepts targetNode transport selected := by
  cases transport with
  | none => simp [planSelected, Accepts]
  | some name =>
      by_cases refused : transportsTo targetNode selected ≠ [] ∧
          name ∉ transportsTo targetNode selected
      · have fails : ¬ Accepts targetNode (some name) selected := by
          intro accepts
          exact (accepts name rfl).elim refused.1 refused.2
        simp [planSelected, refused, fails]
      · have accepts : Accepts targetNode (some name) selected := by
          rintro other ⟨⟩
          by_contra neither
          exact refused (not_or.mp neither)
        simp only [planSelected, Option.any_some, decide_eq_true_eq, if_neg refused]
        exact iff_of_true trivial accepts

theorem mem_reachable {peer : CorePeerDescriptor} :
    peer ∈ reachablePeers parseUtc targetNode now scope values ↔
      (peer ∈ values ∧ advertises targetNode peer = true ∧
        scope.all (peer.trustScope = ·) = true) ∧
      freshAt parseUtc now peer = true ∧ peer.reachable = true := by
  rw [reachablePeers, freshPeers, trustedPeers, List.mem_filter, List.mem_filter,
    List.mem_filter, List.mem_filter]
  tauto

theorem reachable_distinct (distinct : (values.map CorePeerDescriptor.coreId).Nodup) :
    ((reachablePeers parseUtc targetNode now scope values).map
      CorePeerDescriptor.coreId).Nodup := by
  have sub : (reachablePeers parseUtc targetNode now scope values).Sublist values :=
    List.filter_sublist.trans (List.filter_sublist.trans
      (List.filter_sublist.trans List.filter_sublist))
  exact distinct.sublist (sub.map _)

theorem filters_of_reachable {peer : CorePeerDescriptor}
    (member : peer ∈ reachablePeers parseUtc targetNode now scope values) :
    trustedPeers targetNode scope values ≠ [] ∧
      freshPeers parseUtc targetNode now scope values ≠ [] := by
  have fresh := List.mem_of_mem_filter member
  exact ⟨List.ne_nil_of_mem (List.mem_of_mem_filter fresh), List.ne_nil_of_mem fresh⟩

theorem plan_selected (distinct : (values.map CorePeerDescriptor.coreId).Nodup)
    (timed : ∀ peer ∈ trustedPeers targetNode scope values, Timed parseUtc now peer)
    {selected : CorePeerDescriptor}
    (least : Least selected (reachablePeers parseUtc targetNode now scope values)) :
    planPeers parseUtc localCoreId targetNode now scope transport values =
      .ok (planSelected localCoreId targetNode transport selected) := by
  obtain ⟨trusted, fresh⟩ := filters_of_reachable least.1
  rw [plan_timed trusted timed, if_neg fresh, head_of_least (reachable_distinct distinct) least]

/-- A route is ready exactly if all times read and the first of the peers that are left
accepts the transport. -/
theorem plan_ready_iff (distinct : (values.map CorePeerDescriptor.coreId).Nodup)
    {decision : RouteDecision} :
    planPeers parseUtc localCoreId targetNode now scope transport values = .ok decision ∧
        decision.status = .routeReady ↔
      (∀ peer ∈ trustedPeers targetNode scope values, Timed parseUtc now peer) ∧
        ∃ selected, Least selected (reachablePeers parseUtc targetNode now scope values) ∧
          Accepts targetNode transport selected ∧
          decision = planSelected localCoreId targetNode transport selected := by
  constructor
  · rintro ⟨planned, ready⟩
    by_cases none : values.filter (advertises targetNode) = []
    · rw [plan_unadvertised none] at planned
      cases planned
      cases ready
    by_cases untrusted : trustedPeers targetNode scope values = []
    · rw [plan_untrusted none untrusted] at planned
      cases planned
      cases ready
    by_cases timed : ∀ peer ∈ trustedPeers targetNode scope values, Timed parseUtc now peer
    · refine ⟨timed, ?_⟩
      rw [plan_timed untrusted timed] at planned
      split at planned
      · cases planned
        cases ready
      · split at planned
        · cases planned
          cases ready
        next selected head =>
          cases planned
          exact ⟨selected, least_of_head head, (planSelected_ready selected).mp ready, rfl⟩
    · obtain ⟨peer, untimed⟩ := not_forall.mp timed
      obtain ⟨member, untimed⟩ := Classical.not_imp.mp untimed
      rw [plan_untimed member untimed] at planned
      cases planned
  · rintro ⟨timed, selected, least, accepts, rfl⟩
    exact ⟨plan_selected distinct timed least, (planSelected_ready selected).mpr accepts⟩

end Outcomes

/-! Registering the same peers in another order. -/

theorem Registry.values_distinct (registry : Registry) :
    (registry.values.map CorePeerDescriptor.coreId).Nodup := by
  have ids : registry.values.map CorePeerDescriptor.coreId = registry.peers.map Prod.fst := by
    rw [Registry.values, List.map_map]
    exact List.map_congr_left fun entry member => (registry.keyed entry member).symm
  rw [ids]
  exact registry.distinct

def Registry.withoutPeers (registry : Registry) : Registry where
  localCoreId := registry.localCoreId
  localTrustScope := registry.localTrustScope
  localUnits := registry.localUnits
  peers := []
  distinct := List.nodup_nil
  keyed := fun _ member => absurd member List.not_mem_nil

def Registry.registerPeers (registry : Registry) (peers : List CorePeerDescriptor) : Registry :=
  peers.foldl Registry.registerPeer registry

theorem Registry.registerPeers_local (registry : Registry) (peers : List CorePeerDescriptor) :
    (registry.registerPeers peers).localCoreId = registry.localCoreId ∧
      (registry.registerPeers peers).localUnits = registry.localUnits := by
  induction peers generalizing registry with
  | nil => exact ⟨rfl, rfl⟩
  | cons peer rest ih => exact ih (registry.registerPeer peer)

theorem Registry.registerPeers_peers (registry : Registry) (peers : List CorePeerDescriptor) :
    (registry.registerPeers peers).peers =
      (peers.map fun peer => (peer.coreId, peer)).foldl
        (fun held entry => Dictionary.assign entry.1 entry.2 held) registry.peers := by
  induction peers generalizing registry with
  | nil => rfl
  | cons peer rest ih => exact ih (registry.registerPeer peer)

theorem Registry.registered_values (registry : Registry) {peers : List CorePeerDescriptor}
    (distinct : (peers.map CorePeerDescriptor.coreId).Nodup) :
    (registry.withoutPeers.registerPeers peers).values = peers := by
  have keys : ((peers.map fun peer => (peer.coreId, peer)).map Prod.fst).Nodup := by
    rw [List.map_map]
    exact distinct
  have listed := Dictionary.gather_distinct keys
  rw [Dictionary.gather] at listed
  rw [Registry.values, Registry.registerPeers_peers]
  refine (congrArg (List.map Prod.snd) listed).trans ?_
  rw [List.map_map]
  exact List.map_id _

/-! The law of the routes. -/

section Law

variable (attached : CorePeerDescriptor → Prop) (targetNode now : String)
  (scope transport : Option String) (values : List CorePeerDescriptor)

/-- The peer advertises the unit, is of the scope, fresh and reachable, has an attachment
where one is asked for, and accepts the transport. -/
structure Offers (peer : CorePeerDescriptor) : Prop where
  advertised : advertises targetNode peer = true
  trusted : scope.all (peer.trustScope = ·) = true
  fresh : freshAt parseUtc now peer = true
  reachable : peer.reachable = true
  attachment : attached peer
  accepts : Accepts targetNode transport peer

def Alike (peers : List CorePeerDescriptor) : Prop :=
  ∀ first ∈ peers, ∀ second ∈ peers, first.trustScope = second.trustScope

/-- When the planner keeps the law: if a peer offers the route, all times that are looked
at are times and the peer with the least id among those that are left offers it too; that
peer is not ready without an attachment; and where the decision quotes the scope of the
first peer all of them have one scope. -/
structure Settled : Prop where
  complete : (∃ peer ∈ values, Offers parseUtc attached targetNode now scope transport peer) →
    (∀ peer ∈ trustedPeers targetNode scope values, Timed parseUtc now peer) ∧
      ∀ peer, Least peer (reachablePeers parseUtc targetNode now scope values) →
        Accepts targetNode transport peer
  sound : (∀ peer ∈ trustedPeers targetNode scope values, Timed parseUtc now peer) →
    ∀ peer, Least peer (reachablePeers parseUtc targetNode now scope values) →
      Accepts targetNode transport peer → attached peer
  uniform : scope = none →
    (∀ peer ∈ trustedPeers targetNode scope values, Timed parseUtc now peer) →
      (freshPeers parseUtc targetNode now scope values = [] →
        Alike (trustedPeers targetNode scope values)) ∧
      (reachablePeers parseUtc targetNode now scope values = [] →
        Alike (freshPeers parseUtc targetNode now scope values))

end Law

section Peers

variable {parseUtc} {attached : CorePeerDescriptor → Prop} {localCoreId targetNode now : String}
  {scope transport : Option String} {values : List CorePeerDescriptor}

theorem offers_iff_reachable {peer : CorePeerDescriptor} :
    (peer ∈ values ∧ Offers parseUtc attached targetNode now scope transport peer) ↔
      peer ∈ reachablePeers parseUtc targetNode now scope values ∧ attached peer ∧
        Accepts targetNode transport peer := by
  rw [mem_reachable]
  constructor
  · rintro ⟨member, offers⟩
    exact ⟨⟨⟨member, offers.advertised, offers.trusted⟩, offers.fresh, offers.reachable⟩,
      offers.attachment, offers.accepts⟩
  · rintro ⟨⟨⟨member, advertised, trusted⟩, fresh, reachable⟩, attachment, accepts⟩
    exact ⟨member, advertised, trusted, fresh, reachable, attachment, accepts⟩

theorem trustedPeers_perm {order : List CorePeerDescriptor} (same : order.Perm values) :
    (trustedPeers targetNode scope order).Perm (trustedPeers targetNode scope values) :=
  (same.filter _).filter _

theorem freshPeers_perm {order : List CorePeerDescriptor} (same : order.Perm values) :
    (freshPeers parseUtc targetNode now scope order).Perm
      (freshPeers parseUtc targetNode now scope values) :=
  (trustedPeers_perm same).filter _

theorem reachablePeers_perm {order : List CorePeerDescriptor} (same : order.Perm values) :
    (reachablePeers parseUtc targetNode now scope order).Perm
      (reachablePeers parseUtc targetNode now scope values) :=
  (freshPeers_perm same).filter _

theorem firstScope_alike {peers order : List CorePeerDescriptor} (same : order.Perm peers)
    (alike : Alike peers) : firstScope order = firstScope peers := by
  cases order with
  | nil => rw [List.nil_perm.mp same]
  | cons first rest =>
      cases peers with
      | nil => exact absurd same.length_eq (by simp)
      | cons other others =>
          exact alike first (same.mem_iff.mp List.mem_cons_self) other List.mem_cons_self

theorem plan_stale (trusted : trustedPeers targetNode scope values ≠ [])
    (timed : ∀ peer ∈ trustedPeers targetNode scope values, Timed parseUtc now peer)
    (stale : freshPeers parseUtc targetNode now scope values = []) :
    planPeers parseUtc localCoreId targetNode now scope transport values =
      .ok (planWithout localCoreId targetNode .delegatedCore .staleRoute
        (scope.getD (firstScope (trustedPeers targetNode scope values)))
        "peer_advertisement_stale" (trustedPeers targetNode scope values)) := by
  rw [plan_timed trusted timed, if_pos stale]

theorem plan_unreachable (trusted : trustedPeers targetNode scope values ≠ [])
    (timed : ∀ peer ∈ trustedPeers targetNode scope values, Timed parseUtc now peer)
    (fresh : freshPeers parseUtc targetNode now scope values ≠ [])
    (cut : reachablePeers parseUtc targetNode now scope values = []) :
    planPeers parseUtc localCoreId targetNode now scope transport values =
      .ok (planWithout localCoreId targetNode .delegatedCore .routeFailed
        (scope.getD (firstScope (freshPeers parseUtc targetNode now scope values)))
        "peer_unreachable" (freshPeers parseUtc targetNode now scope values)) := by
  have nobody : (sortedByCore []).head? = .none := by
    rw [sortedByCore, List.mergeSort_nil]
    rfl
  rw [plan_timed trusted timed, if_neg fresh, cut, nobody]

/-- Another order of the peers leaves the decision, where the scope that is quoted is that
of all peers. -/
theorem plan_perm (distinct : (values.map CorePeerDescriptor.coreId).Nodup)
    (uniform : scope = none →
      (∀ peer ∈ trustedPeers targetNode scope values, Timed parseUtc now peer) →
        (freshPeers parseUtc targetNode now scope values = [] →
          Alike (trustedPeers targetNode scope values)) ∧
        (reachablePeers parseUtc targetNode now scope values = [] →
          Alike (freshPeers parseUtc targetNode now scope values)))
    {order : List CorePeerDescriptor} (same : order.Perm values) :
    planPeers parseUtc localCoreId targetNode now scope transport order =
      planPeers parseUtc localCoreId targetNode now scope transport values := by
  have trustedSame : (trustedPeers targetNode scope order).Perm
      (trustedPeers targetNode scope values) := trustedPeers_perm same
  have freshSame : (freshPeers parseUtc targetNode now scope order).Perm
      (freshPeers parseUtc targetNode now scope values) := freshPeers_perm same
  have reachableSame : (reachablePeers parseUtc targetNode now scope order).Perm
      (reachablePeers parseUtc targetNode now scope values) := reachablePeers_perm same
  have peersSame : (order.filter (advertises targetNode)).Perm
      (values.filter (advertises targetNode)) := same.filter _
  by_cases none : values.filter (advertises targetNode) = []
  · rw [plan_unadvertised none, plan_unadvertised (List.perm_nil.mp (none ▸ peersSame))]
  have some : order.filter (advertises targetNode) ≠ [] := fun empty =>
    none (List.nil_perm.mp (empty ▸ peersSame))
  by_cases untrusted : trustedPeers targetNode scope values = []
  · rw [plan_untrusted none untrusted,
      plan_untrusted some (List.perm_nil.mp (untrusted ▸ trustedSame)), planWithout,
      planWithout, sortedIds_perm peersSame]
  have trusted : trustedPeers targetNode scope order ≠ [] := fun empty =>
    untrusted (List.nil_perm.mp (empty ▸ trustedSame))
  by_cases timed : ∀ peer ∈ trustedPeers targetNode scope values, Timed parseUtc now peer
  · have timedOrder : ∀ peer ∈ trustedPeers targetNode scope order, Timed parseUtc now peer :=
      fun peer member => timed peer (trustedSame.mem_iff.mp member)
    -- The scope that a decision without a peer quotes is the required one or that of all.
    have quoted {peers others : List CorePeerDescriptor} (alike : scope = .none → Alike others)
        (perm : peers.Perm others) :
        scope.getD (firstScope peers) = scope.getD (firstScope others) := by
      cases wanted : scope with
      | some name => rfl
      | none => exact firstScope_alike perm (alike wanted)
    by_cases stale : freshPeers parseUtc targetNode now scope values = []
    · rw [plan_stale untrusted timed stale,
        plan_stale trusted timedOrder (List.perm_nil.mp (stale ▸ freshSame)), planWithout,
        planWithout, sortedIds_perm trustedSame,
        quoted (fun free => (uniform free timed).1 stale) trustedSame]
    have fresh : freshPeers parseUtc targetNode now scope order ≠ [] := fun empty =>
      stale (List.nil_perm.mp (empty ▸ freshSame))
    by_cases cut : reachablePeers parseUtc targetNode now scope values = []
    · rw [plan_unreachable untrusted timed stale cut, plan_unreachable trusted timedOrder fresh
        (List.perm_nil.mp (cut ▸ reachableSame)), planWithout, planWithout,
        sortedIds_perm freshSame, quoted (fun free => (uniform free timed).2 cut) freshSame]
    · obtain ⟨selected, least⟩ := least_exists cut
      rw [plan_selected distinct timed least,
        plan_selected ((same.map _).nodup_iff.mpr distinct) timedOrder
          (least.of_perm reachableSame.symm)]
  · obtain ⟨peer, untimed⟩ := not_forall.mp timed
    obtain ⟨member, untimed⟩ := Classical.not_imp.mp untimed
    rw [plan_untimed member untimed, plan_untimed (trustedSame.mem_iff.mpr member) untimed]

theorem trustedPeers_cons {peer : CorePeerDescriptor} (rest : List CorePeerDescriptor)
    (member : peer ∈ trustedPeers targetNode scope values) :
    trustedPeers targetNode scope (peer :: rest) =
      peer :: trustedPeers targetNode scope rest := by
  rw [trustedPeers, List.mem_filter, List.mem_filter] at member
  rw [trustedPeers, List.filter_cons_of_pos member.1.2]
  exact List.filter_cons_of_pos member.2

theorem freshPeers_cons {peer : CorePeerDescriptor} (rest : List CorePeerDescriptor)
    (member : peer ∈ freshPeers parseUtc targetNode now scope values) :
    freshPeers parseUtc targetNode now scope (peer :: rest) =
      peer :: freshPeers parseUtc targetNode now scope rest := by
  have trusted := List.mem_of_mem_filter member
  rw [freshPeers, trustedPeers_cons rest trusted,
    List.filter_cons_of_pos (List.mem_filter.mp member).2, freshPeers]

/-- Registered first, a stale or an unreachable peer gives the decision its scope. -/
theorem scope_of_first
    (timed : ∀ peer ∈ trustedPeers targetNode none values, Timed parseUtc now peer)
    {peer : CorePeerDescriptor}
    (quoted : peer ∈ trustedPeers targetNode none values ∧
        freshPeers parseUtc targetNode now none values = [] ∨
      peer ∈ freshPeers parseUtc targetNode now none values ∧
        reachablePeers parseUtc targetNode now none values = []) :
    ∃ order decision, order.Perm values ∧ decision.trustScope = peer.trustScope ∧
      planPeers parseUtc localCoreId targetNode now none transport order = .ok decision := by
  have trusted : peer ∈ trustedPeers targetNode none values :=
    quoted.elim And.left fun fresh => List.mem_of_mem_filter fresh.1
  have member : peer ∈ values := List.mem_of_mem_filter (List.mem_of_mem_filter trusted)
  have same : (peer :: values.erase peer).Perm values := (List.perm_cons_erase member).symm
  have trustedSame : (trustedPeers targetNode none (peer :: values.erase peer)).Perm
      (trustedPeers targetNode none values) := trustedPeers_perm same
  have freshSame : (freshPeers parseUtc targetNode now none (peer :: values.erase peer)).Perm
      (freshPeers parseUtc targetNode now none values) := freshPeers_perm same
  have reachableSame :
      (reachablePeers parseUtc targetNode now none (peer :: values.erase peer)).Perm
        (reachablePeers parseUtc targetNode now none values) := reachablePeers_perm same
  have some : trustedPeers targetNode none (peer :: values.erase peer) ≠ [] :=
    List.ne_nil_of_mem (trustedSame.mem_iff.mpr trusted)
  have timedOrder : ∀ other ∈ trustedPeers targetNode none (peer :: values.erase peer),
      Timed parseUtc now other :=
    fun other inside => timed other (trustedSame.mem_iff.mp inside)
  refine ⟨peer :: values.erase peer, ?_⟩
  rcases quoted with ⟨_, stale⟩ | ⟨fresh, cut⟩
  · refine ⟨_, same, ?_, plan_stale some timedOrder (List.perm_nil.mp (stale ▸ freshSame))⟩
    rw [trustedPeers_cons _ trusted]
    rfl
  · refine ⟨_, same, ?_, plan_unreachable some timedOrder
      (List.ne_nil_of_mem (freshSame.mem_iff.mpr fresh))
      (List.perm_nil.mp (cut ▸ reachableSame))⟩
    rw [freshPeers_cons _ fresh]
    rfl

/-- If no order of the peers changes the decision, the scope that it quotes is that of all
peers. -/
theorem uniform_of_ordered
    (ordered : ∀ order : List CorePeerDescriptor, order.Perm values →
      planPeers parseUtc localCoreId targetNode now none transport order =
        planPeers parseUtc localCoreId targetNode now none transport values)
    (timed : ∀ peer ∈ trustedPeers targetNode none values, Timed parseUtc now peer) :
    (freshPeers parseUtc targetNode now none values = [] →
      Alike (trustedPeers targetNode none values)) ∧
    (reachablePeers parseUtc targetNode now none values = [] →
      Alike (freshPeers parseUtc targetNode now none values)) := by
  have alike {first second : CorePeerDescriptor} {order other : List CorePeerDescriptor}
      {decision another : RouteDecision} (same : order.Perm values) (also : other.Perm values)
      (one : decision.trustScope = first.trustScope)
      (two : another.trustScope = second.trustScope)
      (planned : planPeers parseUtc localCoreId targetNode now none transport order =
        .ok decision)
      (replanned : planPeers parseUtc localCoreId targetNode now none transport other =
        .ok another) : first.trustScope = second.trustScope := by
    rw [ordered order same, ← ordered other also, replanned] at planned
    rw [← one, ← two, Except.ok.inj planned]
  constructor
  · intro stale first member second other
    obtain ⟨order, decision, same, one, planned⟩ := scope_of_first timed (.inl ⟨member, stale⟩)
    obtain ⟨order', another, also, two, replanned⟩ :=
      scope_of_first timed (.inl ⟨other, stale⟩)
    exact alike same also one two planned replanned
  · intro cut first member second other
    obtain ⟨order, decision, same, one, planned⟩ := scope_of_first timed (.inr ⟨member, cut⟩)
    obtain ⟨order', another, also, two, replanned⟩ := scope_of_first timed (.inr ⟨other, cut⟩)
    exact alike same also one two planned replanned

end Peers

/-- The law of the routes: ready exactly if a peer offers the route, then the decision is
about such a peer, and the order of registration does not matter. -/
structure RouteLaw (attached : CorePeerDescriptor → Prop) (registry : Registry)
    (targetNode now : String) (requiredTrustScope requiredTransport : Option String) : Prop where
  ready : (∃ decision, planRoute parseUtc registry targetNode now requiredTrustScope
        requiredTransport = .ok decision ∧ decision.status = .routeReady) ↔
      ∃ peer ∈ registry.values, Offers parseUtc attached targetNode now
        (required requiredTrustScope) (required requiredTransport) peer
  names : ∀ decision, planRoute parseUtc registry targetNode now requiredTrustScope
        requiredTransport = .ok decision → decision.status = .routeReady →
      ∃ peer ∈ registry.values, Offers parseUtc attached targetNode now
          (required requiredTrustScope) (required requiredTransport) peer ∧
        decision.targetCore = some peer.coreId ∧ decision.trustScope = peer.trustScope ∧
        decision.relayPath = relayPathTo targetNode peer
  ordered : ∀ order : List CorePeerDescriptor, order.Perm registry.values →
    planRoute parseUtc (registry.withoutPeers.registerPeers order) targetNode now
        requiredTrustScope requiredTransport =
      planRoute parseUtc registry targetNode now requiredTrustScope requiredTransport

section Exactness

variable {parseUtc} {attached : CorePeerDescriptor → Prop} {registry : Registry}
  {targetNode now : String} {requiredTrustScope requiredTransport : Option String}

theorem planRoute_remote (remote : registry.localUnits.lookup targetNode = none) :
    planRoute parseUtc registry targetNode now requiredTrustScope requiredTransport =
      planPeers parseUtc registry.localCoreId targetNode now (required requiredTrustScope)
        (required requiredTransport) registry.values := by
  rw [planRoute, remote]

theorem planRoute_registered (remote : registry.localUnits.lookup targetNode = none)
    {order : List CorePeerDescriptor} (same : order.Perm registry.values) :
    planRoute parseUtc (registry.withoutPeers.registerPeers order) targetNode now
        requiredTrustScope requiredTransport =
      planPeers parseUtc registry.localCoreId targetNode now (required requiredTrustScope)
        (required requiredTransport) order := by
  have kept := registry.withoutPeers.registerPeers_local order
  have distinct := (same.map CorePeerDescriptor.coreId).nodup_iff.mpr registry.values_distinct
  rw [planRoute_remote (by rw [kept.2]; exact remote), registry.registered_values distinct,
    kept.1]
  rfl

theorem settled_of_law (remote : registry.localUnits.lookup targetNode = none)
    (law : RouteLaw parseUtc attached registry targetNode now requiredTrustScope
      requiredTransport) :
    Settled parseUtc attached targetNode now (required requiredTrustScope)
      (required requiredTransport) registry.values := by
  have distinct := registry.values_distinct
  refine ⟨fun offered => ?_, fun timed peer least accepts => ?_, fun free timed => ?_⟩
  · obtain ⟨decision, planned, ready⟩ := law.ready.mpr offered
    rw [planRoute_remote remote] at planned
    obtain ⟨timed, selected, least, accepts, -⟩ := (plan_ready_iff distinct).mp ⟨planned, ready⟩
    refine ⟨timed, fun peer other => ?_⟩
    rwa [least_unique (reachable_distinct distinct) other least]
  · have planned := (@planRoute_remote parseUtc registry targetNode now requiredTrustScope
      requiredTransport remote).trans (plan_selected distinct timed least)
    obtain ⟨other, member, offers, core, -, -⟩ :=
      law.names _ planned ((planSelected_ready peer).mpr accepts)
    have core : peer.coreId = other.coreId := by
      have named : (planSelected registry.localCoreId targetNode (required requiredTransport)
          peer).targetCore = some peer.coreId := by
        unfold planSelected
        dsimp only
        split <;> rfl
      exact Option.some.inj (named.symm.trans core)
    have here := (mem_reachable.mp least.1).1.1
    rw [List.inj_on_of_nodup_map distinct here member core]
    exact offers.attachment
  · have ordered := fun order (same : List.Perm order registry.values) =>
      (planRoute_registered remote same).symm.trans
        ((law.ordered order same).trans (planRoute_remote remote))
    rw [free] at ordered timed ⊢
    exact uniform_of_ordered ordered timed

theorem law_of_settled (remote : registry.localUnits.lookup targetNode = none)
    (settled : Settled parseUtc attached targetNode now (required requiredTrustScope)
      (required requiredTransport) registry.values) :
    RouteLaw parseUtc attached registry targetNode now requiredTrustScope
      requiredTransport := by
  have distinct := registry.values_distinct
  -- a route that is ready is one over a peer that offers it
  have offering {decision : RouteDecision}
      (planned : planRoute parseUtc registry targetNode now requiredTrustScope
        requiredTransport = .ok decision) (ready : decision.status = .routeReady) :
      ∃ selected ∈ registry.values, Offers parseUtc attached targetNode now
          (required requiredTrustScope) (required requiredTransport) selected ∧
        decision = planSelected registry.localCoreId targetNode (required requiredTransport)
          selected := by
    rw [planRoute_remote remote] at planned
    obtain ⟨timed, selected, least, accepts, rfl⟩ :=
      (plan_ready_iff distinct).mp ⟨planned, ready⟩
    have attachment := settled.sound timed selected least accepts
    obtain ⟨member, offers⟩ := offers_iff_reachable.mpr ⟨least.1, attachment, accepts⟩
    exact ⟨selected, member, offers, rfl⟩
  refine ⟨⟨?_, ?_⟩, ?_, ?_⟩
  · rintro ⟨decision, planned, ready⟩
    obtain ⟨selected, member, offers, -⟩ := offering planned ready
    exact ⟨selected, member, offers⟩
  · rintro ⟨peer, member, offers⟩
    -- some peer offers the route, so the one with the least id does
    obtain ⟨timed, accepts⟩ := settled.complete ⟨peer, member, offers⟩
    have left := (offers_iff_reachable.mp ⟨member, offers⟩).1
    obtain ⟨selected, least⟩ := least_exists (List.ne_nil_of_mem left)
    exact ⟨_, (planRoute_remote remote).trans (plan_selected distinct timed least),
      (planSelected_ready selected).mpr (accepts selected least)⟩
  · intro decision planned ready
    obtain ⟨selected, member, offers, rfl⟩ := offering planned ready
    refine ⟨selected, member, offers, ?_⟩
    unfold planSelected
    dsimp only
    split
    · exact ⟨rfl, rfl, rfl⟩
    · exact ⟨rfl, rfl, rfl⟩
  · intro order same
    rw [planRoute_registered remote same, planRoute_remote remote]
    exact plan_perm distinct settled.uniform same

end Exactness

def HasAttachment (targetNode : String) (peer : CorePeerDescriptor) : Prop :=
  (attachmentFor peer targetNode).isSome = true

/-- The planner keeps the law exactly where the filters settle it, both when a peer must
have an attachment and when one without an attachment counts as listing no transports. -/
theorem route_law_iff (registry : Registry) (targetNode now : String)
    (requiredTrustScope requiredTransport : Option String)
    (remote : registry.localUnits.lookup targetNode = none) :
    (RouteLaw parseUtc (HasAttachment targetNode) registry targetNode now requiredTrustScope
        requiredTransport ↔
      Settled parseUtc (HasAttachment targetNode) targetNode now (required requiredTrustScope)
        (required requiredTransport) registry.values) ∧
    (RouteLaw parseUtc (fun _ => True) registry targetNode now requiredTrustScope
        requiredTransport ↔
      Settled parseUtc (fun _ => True) targetNode now (required requiredTrustScope)
        (required requiredTransport) registry.values) :=
  ⟨⟨settled_of_law remote, law_of_settled remote⟩, ⟨settled_of_law remote, law_of_settled remote⟩⟩

/-- Two moments of a day in May, in seconds. -/
def parseMay (text : String) : Option Int :=
  if text = "2026-05-09T12:00:00Z" then some 1778328000
  else if text = "2026-05-09T12:30:00Z" then some 1778329800
  else none

def advertisedPeer (coreId : String) (networkTransports : List String) : CorePeerDescriptor where
  coreId := coreId
  trustScope := "lab-federation"
  remoteUnits := ["unit-remote-01"]
  remoteUnitAttachments := [⟨"unit-remote-01", ["gateway-b-01"], networkTransports⟩]
  expiresAt := "2026-05-09T12:30:00Z"
  reachable := true

def emptyRegistry : Registry where
  localCoreId := "core-a"
  localTrustScope := "local"
  localUnits := []
  peers := []
  distinct := List.nodup_nil
  keyed := fun _ member => absurd member List.not_mem_nil

/-- Of two peers only the second one lists the transport. -/
def wifiRegistry : Registry :=
  emptyRegistry.registerPeers
    [advertisedPeer "core-b" ["ethernet"], advertisedPeer "core-c" ["wifi"]]

/-- A single peer, and no transport is required. -/
theorem single_peer_lawful :
    RouteLaw parseMay (HasAttachment "unit-remote-01")
      (emptyRegistry.registerPeers [advertisedPeer "core-b" ["ethernet"]]) "unit-remote-01"
      "2026-05-09T12:00:00Z" (some "lab-federation") none := by
  have only : ∀ peer ∈ (emptyRegistry.registerPeers
      [advertisedPeer "core-b" ["ethernet"]]).values,
      peer = advertisedPeer "core-b" ["ethernet"] := by
    intro peer member
    exact List.mem_singleton.mp member
  refine (route_law_iff parseMay _ "unit-remote-01" "2026-05-09T12:00:00Z"
    (some "lab-federation") none rfl).1.mpr ⟨fun _ => ⟨fun peer member => ?_, ?_⟩, ?_, ?_⟩
  · rw [only peer (List.mem_of_mem_filter (List.mem_of_mem_filter member))]
    exact ⟨rfl, rfl⟩
  · rintro peer _ name ⟨⟩
  · intro _ peer least _
    rw [only peer (mem_reachable.mp least.1).1.1]
    rfl
  · rintro ⟨⟩

/-- The peer that is selected first lacks the transport, and the route is rejected although
the other peer offers it. -/
theorem selected_peer_lacks_transport :
    ¬ RouteLaw parseMay (HasAttachment "unit-remote-01") wifiRegistry "unit-remote-01"
        "2026-05-09T12:00:00Z" none (some "wifi") ∧
    ¬ RouteLaw parseMay (fun _ => True) wifiRegistry "unit-remote-01"
        "2026-05-09T12:00:00Z" none (some "wifi") := by
  have listed (peer : CorePeerDescriptor) : peer ∈ wifiRegistry.values ↔
      peer = advertisedPeer "core-b" ["ethernet"] ∨ peer = advertisedPeer "core-c" ["wifi"] :=
    List.mem_pair
  have least : Least (advertisedPeer "core-b" ["ethernet"])
      (reachablePeers parseMay "unit-remote-01" "2026-05-09T12:00:00Z" (required none)
        wifiRegistry.values) := by
    constructor
    · exact mem_reachable.mpr ⟨⟨(listed _).mpr (.inl rfl), by decide, by decide⟩, by decide, rfl⟩
    · intro other member
      rcases (listed other).mp (mem_reachable.mp member).1.1 with rfl | rfl
      · decide
      · decide
  have lacks : ¬ Accepts "unit-remote-01" (required (some "wifi"))
      (advertisedPeer "core-b" ["ethernet"]) := by
    intro accepts
    exact absurd (accepts "wifi" rfl) (by decide)
  have offers (attached : CorePeerDescriptor → Prop)
      (attachment : attached (advertisedPeer "core-c" ["wifi"])) :
      ∃ peer ∈ wifiRegistry.values, Offers parseMay attached "unit-remote-01"
        "2026-05-09T12:00:00Z" (required none) (required (some "wifi")) peer := by
    refine ⟨_, (listed _).mpr (.inr rfl), by decide, by decide, by decide, rfl, attachment, ?_⟩
    rintro name ⟨⟩
    decide
  constructor
  · intro law
    exact lacks (((settled_of_law rfl law).complete (offers _ rfl)).2 _ least)
  · intro law
    exact lacks (((settled_of_law rfl law).complete (offers _ trivial)).2 _ least)

end NeuroLink.FederationRouting
