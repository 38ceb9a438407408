import NeuroLink.AppRuntime
import NeuroLink.ArtifactStore
import NeuroLink.Cbor
import NeuroLink.LeaseManager
import NeuroLink.UpdateManager

/-!
What the unit answers to the queries for its device, its applications and its leases: one
map under the keys of the protocol, encoded into a buffer of fixed size.
-/

namespace NeuroLink.QueryReplies

open CText Cbor

/-- `enum neuro_protocol_cbor_key`, as far as these replies use it. -/
inductive CborKey where
  | schemaVersion
  | messageKind
  | status
  | requestId
  | nodeId
  | sourceCore
  | sourceAgent
  | priority
  | leaseId
  | resource
  | expiresAtMs
  | statusCode
  | message
  | board
  | zenohMode
  | sessionReady
  | networkState
  | ipv4
  | appId
  | path
  | appCount
  | runningCount
  | suspendedCount
  | apps
  | runtimeState
  | manifestPresent
  | updateState
  | artifactState
  | stableRef
  | lastError
  | rollbackReason
  | leases
  deriving DecidableEq

def CborKey.number : CborKey → Nat
  | .schemaVersion => 0
  | .messageKind => 1
  | .status => 2
  | .requestId => 3
  | .nodeId => 4
  | .sourceCore => 5
  | .sourceAgent => 6
  | .priority => 9
  | .leaseId => 11
  | .resource => 30
  | .expiresAtMs => 31
  | .statusCode => 20
  | .message => 21
  | .board => 40
  | .zenohMode => 41
  | .sessionReady => 42
  | .networkState => 43
  | .ipv4 => 44
  | .appId => 50
  | .path => 55
  | .appCount => 60
  | .runningCount => 61
  | .suspendedCount => 62
  | .apps => 63
  | .runtimeState => 64
  | .manifestPresent => 65
  | .updateState => 66
  | .artifactState => 67
  | .stableRef => 68
  | .lastError => 69
  | .rollbackReason => 70
  | .leases => 71

def put (key : CborKey) (value : Item) : Item × Item := (.int key.number, value)

/-- `cbor_put_key_tstr`. -/
def putText (key : CborKey) (value : Text) : Item × Item := put key (.text (bytes value))

def putNumber (key : CborKey) (value : Int) : Item × Item := put key (.int value)

def putFlag (key : CborKey) (value : Bool) : Item × Item := put key (.bool value)

/-- `cbor_put_envelope`. -/
def envelope (messageKind : Nat) : List (Item × Item) :=
  [putNumber .schemaVersion 2, putNumber .messageKind messageKind]

/-- `app_runtime_state_to_str`. -/
def appRuntimeStateToStr : AppRuntime.AppState → Text
  | .unloaded => lit "UNLOADED"
  | .loaded => lit "LOADED"
  | .initialized => lit "INITIALIZED"
  | .running => lit "RUNNING"
  | .suspended => lit "SUSPENDED"

/-- `artifact_state_to_str`. -/
def artifactStateToStr : ArtifactStore.State → Text
  | .none => lit "NONE"
  | .staged => lit "STAGED"
  | .verified => lit "VERIFIED"
  | .active => lit "ACTIVE"
  | .invalid => lit "INVALID"
  | .unknown _ _ => lit "UNKNOWN"

/-- `neuro_update_manager_state_to_str`. -/
def updateStateToStr : UpdateManager.State → Text
  | .none => lit "NONE"
  | .prepareRequested => lit "PREPARE_REQUESTED"
  | .preparing => lit "PREPARING"
  | .prepared => lit "PREPARED"
  | .verifying => lit "VERIFYING"
  | .verified => lit "VERIFIED"
  | .activating => lit "ACTIVATING"
  | .active => lit "ACTIVE"
  | .rollbackPending => lit "ROLLBACK_PENDING"
  | .rollingBack => lit "ROLLING_BACK"
  | .rolledBack => lit "ROLLED_BACK"
  | .failed => lit "FAILED"
  | .unknown _ _ => lit "UNKNOWN"

/-- `enum neuro_network_state`. -/
inductive NetworkState where
  | down
  | adapterReady
  | linkReady
  | addressReady
  | transportReady
  | ready
  | degraded
  | failed
  deriving DecidableEq

/-- `network_state_to_str`. -/
def networkStateToStr : NetworkState → Text
  | .down => lit "DOWN"
  | .adapterReady => lit "ADAPTER_READY"
  | .linkReady => lit "LINK_READY"
  | .addressReady => lit "ADDRESS_READY"
  | .transportReady => lit "TRANSPORT_READY"
  | .ready => lit "NETWORK_READY"
  | .degraded => lit "DEGRADED"
  | .failed => lit "FAILED"

/-- What the queries read of the unit. The runtime keeps no manifests in this model, so
whether an application has one is given apart; the counts and priorities are 32-bit. -/
structure UnitState where
  nodeId : Text
  board : Text
  zenohMode : Text
  sessionReady : Bool
  networkState : NetworkState
  ipv4 : Text
  runtime : AppRuntime.Runtime
  manifestPresent : Text → Bool
  updateManager : UpdateManager.Manager
  artifactStore : ArtifactStore.Store
  leaseManager : LeaseManager.Manager
  countsFit : runtime.apps.length < 2 ^ 32
  prioritiesFit : ∀ app ∈ runtime.apps, app.priority < 2 ^ 32

/-- `neuro_protocol_encode_query_device_reply_cbor`. -/
def queryDeviceReply (unit : UnitState) (requestId : Text) : Item :=
  .map (envelope 22 ++
    [putText .status (lit "ok"), putText .requestId requestId, putText .nodeId unit.nodeId,
      putText .board unit.board, putText .zenohMode unit.zenohMode,
      putFlag .sessionReady unit.sessionReady,
      putText .networkState (networkStateToStr unit.networkState),
      putText .ipv4 unit.ipv4])

/-- `cbor_put_query_app`, with the values `handle_query_apps` collects. -/
def queryApp (unit : UnitState) (app : AppRuntime.App) : Item :=
  let name := app.name.text
  .map [putNumber .priority app.priority, putText .appId name, putText .path app.path.text,
    putText .runtimeState (appRuntimeStateToStr app.state),
    putFlag .manifestPresent (unit.manifestPresent name),
    putText .updateState (updateStateToStr (UpdateManager.stateFor unit.updateManager name)),
    putText .artifactState (artifactStateToStr
      ((ArtifactStore.get unit.artifactStore name).elim .none (·.state))),
    putText .stableRef (UpdateManager.stableRefFor unit.updateManager name),
    putText .lastError (UpdateManager.lastErrorFor unit.updateManager name),
    putText .rollbackReason (UpdateManager.rollbackReasonFor unit.updateManager name)]

/-- `APP_RT_STATUS_SNAPSHOT_CAPACITY`. -/
abbrev snapshotCapacity : Nat := 4

/-- The applications `app_runtime_get_status` lists. -/
def listedApps (unit : UnitState) : List AppRuntime.App := unit.runtime.apps.take snapshotCapacity

def stateCount (unit : UnitState) (state : AppRuntime.AppState) : Nat :=
  (unit.runtime.apps.filter fun app => app.state = state).length

/-- `neuro_protocol_encode_query_apps_reply_cbor`. -/
def queryAppsReply (unit : UnitState) (requestId : Text) : Item :=
  .map (envelope 23 ++
    [putText .status (lit "ok"), putText .requestId requestId, putText .nodeId unit.nodeId,
      putNumber .appCount unit.runtime.apps.length,
      putNumber .runningCount (stateCount unit .running),
      putNumber .suspendedCount (stateCount unit .suspended),
      put .apps (.list ((listedApps unit).map (queryApp unit)))])

/-- `cbor_put_query_lease`. -/
def queryLease (lease : LeaseManager.Lease) : Item :=
  .map [putText .sourceCore lease.sourceCore.text, putText .sourceAgent lease.sourceAgent.text,
    putNumber .priority lease.priority, putText .leaseId lease.leaseId.text,
    putText .resource lease.resource.text, putNumber .expiresAtMs lease.expiresAtMs]

/-- The leases `handle_query_leases` collects, after it dropped the expired ones. -/
def listedLeases (unit : UnitState) (nowMs : Int) : List LeaseManager.Lease :=
  SlotTable.entries (LeaseManager.pruneExpired unit.leaseManager nowMs)

/-- `neuro_protocol_encode_query_leases_reply_cbor`. -/
def queryLeasesReply (unit : UnitState) (requestId : Text) (nowMs : Int) : Item :=
  .map (envelope 24 ++
    [putText .status (lit "ok"), putText .requestId requestId, putText .nodeId unit.nodeId,
      put .leases (.list ((listedLeases unit nowMs).map queryLease))])

/-- `neuro_protocol_encode_error_reply_cbor`. -/
def errorReply (unit : UnitState) (requestId message : Text) (statusCode : Nat) : Item :=
  .map (envelope 20 ++
    [putText .status (lit "error"), putText .requestId requestId, putText .nodeId unit.nodeId,
      putNumber .statusCode statusCode, putText .message message])

/-- `NEURO_MAX_CBOR_LEN`. -/
abbrev maxCborLen : Nat := 1024

def encodeInto (size : Nat) (reply : Item) : Option (List UInt8) :=
  if (encode reply).length ≤ size then some (encode reply) else none

/-- What a query is answered with: the reply, or an error if that could not be built, or
nothing if the error could not either. -/
def answer (unit : UnitState) (requestId : Text) (reply : Item) (message : String) :
    List (List UInt8) :=
  match encodeInto maxCborLen reply with
  | some data => [data]
  | none => (encodeInto 256 (errorReply unit requestId (lit message) 500)).toList

/-- `handle_query_device`. -/
def handleQueryDevice (unit : UnitState) (requestId : Text) : List (List UInt8) :=
  answer unit requestId (queryDeviceReply unit requestId) "query device reply build failed"

/-- `handle_query_apps`. -/
def handleQueryApps (unit : UnitState) (requestId : Text) : List (List UInt8) :=
  answer unit requestId (queryAppsReply unit requestId) "query apps reply build failed"

/-- `handle_query_leases`. -/
def handleQueryLeases (unit : UnitState) (requestId : Text) (nowMs : Int) :
    List (List UInt8) :=
  answer unit requestId (queryLeasesReply unit requestId nowMs)
    "query leases reply build failed"

section Integers

variable {unit : UnitState}

theorem number_fits (key : CborKey) : IntsFit (.int key.number) := by
  cases key <;> exact ⟨by decide, by decide⟩

theorem putText_fits (key : CborKey) (value : Text) :
    IntsFit (putText key value).1 ∧ IntsFit (putText key value).2 :=
  ⟨number_fits key, trivial⟩

theorem putFlag_fits (key : CborKey) (value : Bool) :
    IntsFit (putFlag key value).1 ∧ IntsFit (putFlag key value).2 :=
  ⟨number_fits key, trivial⟩

theorem putNumber_fits (key : CborKey) {value : Nat} (small : value < 2 ^ 32) :
    IntsFit (putNumber key value).1 ∧ IntsFit (putNumber key value).2 :=
  ⟨number_fits key, by constructor <;> omega⟩

theorem stateCount_le (state : AppRuntime.AppState) :
    stateCount unit state ≤ unit.runtime.apps.length :=
  List.length_filter_le ..

theorem queryApp_fits {app : AppRuntime.App} (listed : app ∈ listedApps unit) :
    IntsFit (queryApp unit app) := by
  have priority := unit.prioritiesFit app (List.mem_of_mem_take listed)
  refine intsFitEntries_of_mem fun entry member => ?_
  simp only [List.mem_cons, List.not_mem_nil, or_false] at member
  rcases member with rfl | rfl | rfl | rfl | rfl | rfl | rfl | rfl | rfl | rfl
  · exact putNumber_fits _ priority
  case inr.inr.inr.inr.inl => exact putFlag_fits ..
  all_goals exact putText_fits ..

theorem queryAppsReply_fits (requestId : Text) : IntsFit (queryAppsReply unit requestId) := by
  have count := unit.countsFit
  have running := @stateCount_le unit .running
  have suspended := @stateCount_le unit .suspended
  have rows : IntsFitItems ((listedApps unit).map (queryApp unit)) := by
    refine intsFitItems_of_mem fun item member => ?_
    obtain ⟨app, listed, rfl⟩ := List.mem_map.mp member
    exact queryApp_fits listed
  refine intsFitEntries_of_mem fun entry member => ?_
  simp only [envelope, List.cons_append, List.nil_append, List.mem_cons, List.not_mem_nil,
    or_false] at member
  rcases member with rfl | rfl | rfl | rfl | rfl | rfl | rfl | rfl | rfl
  · exact @putNumber_fits .schemaVersion 2 (by decide)
  · exact @putNumber_fits .messageKind 23 (by decide)
  · exact putText_fits ..
  · exact putText_fits ..
  · exact putText_fits ..
  · exact putNumber_fits _ count
  · exact putNumber_fits _ (by omega)
  · exact putNumber_fits _ (by omega)
  · exact ⟨number_fits .apps, rows⟩

theorem errorReply_fits (requestId message : Text) {statusCode : Nat}
    (small : statusCode < 2 ^ 32) :
    IntsFit (errorReply unit requestId message statusCode) := by
  refine intsFitEntries_of_mem fun entry member => ?_
  simp only [envelope, List.cons_append, List.nil_append, List.mem_cons, List.not_mem_nil,
    or_false] at member
  rcases member with rfl | rfl | rfl | rfl | rfl | rfl | rfl
  · exact @putNumber_fits .schemaVersion 2 (by decide)
  · exact @putNumber_fits .messageKind 20 (by decide)
  · exact putText_fits ..
  · exact putText_fits ..
  · exact putText_fits ..
  · exact putNumber_fits _ small
  · exact putText_fits ..

end Integers

theorem encodeInto_some {size : Nat} {reply : Item} {data : List UInt8}
    (built : encodeInto size reply = some data) :
    data = encode reply ∧ (encode reply).length ≤ size := by
  unfold encodeInto at built
  split at built
  · next fits => exact ⟨(Option.some.inj built).symm, fits⟩
  · cases built

theorem answer_mem {unit : UnitState} {requestId : Text} {reply : Item} {message : String}
    {data : List UInt8} (answered : data ∈ answer unit requestId reply message) :
    (data = encode reply ∧ (encode reply).length ≤ maxCborLen) ∨
      (data = encode (errorReply unit requestId (lit message) 500) ∧
        (encode (errorReply unit requestId (lit message) 500)).length ≤ 256) := by
  unfold answer at answered
  split at answered
  · next built =>
    obtain rfl := List.mem_singleton.mp answered
    exact .inl (encodeInto_some built)
  · exact .inr (encodeInto_some (Option.mem_toList.mp answered))

end NeuroLink.QueryReplies
