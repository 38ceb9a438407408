import NeuroLink.RequestPolicy
import NeuroLink.UpdateService

/-!
From the key of a query to the handler it reaches. The dispatcher reads the key twice:
the policy looks for parts of it, and the route classifier compares it with the routes of
this node. What a handler may rely on is that both readings agree.
-/

namespace NeuroLink.RequestDispatch

open CText RequestPolicy UpdateService
open RequestBridge (RequestFields)

def slash : Letter := ⟨'/'.toUInt8, by decide⟩

/-- `neuro_protocol_token_is_valid`. -/
def tokenIsValid (token : Text) : Bool := !token.isEmpty && !token.contains slash

abbrev routeLen : Nat := 128

/-- `neuro_protocol_format_route`: a route that does not fit is none. -/
def formatRoute (node route : Text) : Option Text :=
  if ¬ tokenIsValid node then none
  else if route.length ≥ routeLen then none
  else some route

inductive QueryKind where
  | device
  | apps
  | leases

/-- `neuro_protocol_query_kind_to_segment`. -/
def QueryKind.segment : QueryKind → Text
  | .device => lit "device"
  | .apps => lit "apps"
  | .leases => lit "leases"

inductive LeaseAction where
  | acquire
  | release

/-- `neuro_protocol_lease_action_to_segment`. -/
def LeaseAction.segment : LeaseAction → Text
  | .acquire => lit "acquire"
  | .release => lit "release"

/-- `neuro_protocol_build_query_route`. -/
def buildQueryRoute (node : Text) (kind : QueryKind) : Option Text :=
  formatRoute node (lit "neuro/" ++ node ++ lit "/query/" ++ kind.segment)

/-- `neuro_protocol_build_lease_route`. -/
def buildLeaseRoute (node : Text) (action : LeaseAction) : Option Text :=
  formatRoute node (lit "neuro/" ++ node ++ lit "/cmd/lease/" ++ action.segment)

def keyMatchesQueryRoute (key node : Text) (kind : QueryKind) : Bool :=
  buildQueryRoute node kind = some key

def keyMatchesLeaseRoute (key node : Text) (action : LeaseAction) : Bool :=
  buildLeaseRoute node action = some key

/-- `extract_scoped_app_route`. -/
def extractScopedAppRoute (key node scope : Text) : Option (Buffer 32 × Text) :=
  if ¬ tokenIsValid node then none else
  let routePrefix := lit "neuro/" ++ node ++ lit "/" ++ scope ++ lit "/app/"
  if routePrefix.length ≥ routeLen then none
  else if ¬ routePrefix.isPrefixOf key then none
  else
    let start := key.drop routePrefix.length
    match strchr slash start with
    | none => none
    | some sep =>
        let appId := between start sep
        if appId.length = 0 ∨ appId.length ≥ 32 then none
        else
          let action := sep.drop 1
          if tokenIsValid appId ∧ tokenIsValid action then some (copyBounded appId, action)
          else none

/-- `struct neuro_unit_dispatch_route`. -/
inductive Route where
  | leaseAcquire
  | leaseRelease
  | appAction (appId : Buffer 32) (action : Text)
  | query (kind : QueryKind)
  | updateAction (appId : Buffer 32) (action : Text)

/-- `neuro_unit_dispatch_classify_command_route`. -/
def classifyCommandRoute (key node : Text) : Option Route :=
  if keyMatchesLeaseRoute key node .acquire then some .leaseAcquire
  else if keyMatchesLeaseRoute key node .release then some .leaseRelease
  else (extractScopedAppRoute key node (lit "cmd")).map fun found => .appAction found.1 found.2

/-- `neuro_unit_dispatch_classify_query_route`. -/
def classifyQueryRoute (key node : Text) : Option Route :=
  if keyMatchesQueryRoute key node .device then some (.query .device)
  else if keyMatchesQueryRoute key node .apps then some (.query .apps)
  else if keyMatchesQueryRoute key node .leases then some (.query .leases)
  else none

/-- `neuro_unit_dispatch_classify_update_route`. -/
def classifyUpdateRoute (key node : Text) : Option Route :=
  (extractScopedAppRoute key node (lit "update")).map fun found => .updateAction found.1 found.2

/-- `struct neuro_unit_dispatch_ops`: which of its pointers are set, and what the functions
return that the dispatcher asks. -/
structure Ops where
  nodeId : Text
  complete : Bool
  canReplyError : Bool
  transportHealthy : Bool
  ensureRecoverySeedInitialized : Option Int
  handlesLeaseAcquire : Bool
  handlesLeaseRelease : Bool
  handlesAppAction : Bool
  handlesQuery : QueryKind → Bool
  handlesUpdateAction : Bool

/-- What the dispatcher calls. -/
inductive Call where
  | logTransportHealthSnapshot (stage key requestId : Text)
  | replyError (requestId message : Text) (statusCode : Nat)
  | handleLeaseAcquire (payload requestId : Text)
  | handleLeaseRelease (payload requestId : Text)
  | handleAppAction (request : Request)
  | handleQuery (kind : QueryKind) (requestId : Text)
  | handleUpdateAction (request : Request)

/-- `reply_bad_dispatch_contract`. -/
def replyBadDispatchContract (metadata : RequestMetadata) (ops : Ops) : List Call :=
  let requestId := if metadata.requestId.text ≠ [] then metadata.requestId.text else lit "-"
  if ops.canReplyError then [.replyError requestId (lit "dispatch contract unavailable") 500]
  else []

/-- `validate_request_metadata_or_reply`, where the policy asks for any field. -/
def requireFields (ops : Ops) (metadata : RequestMetadata) (requiredFields : UInt32)
    (accepted : List Call) : List Call :=
  if requiredFields = 0 then accepted
  else
    match validate metadata requiredFields ops.nodeId with
    | some error => [.replyError metadata.requestId.text error 400]
    | none => accepted

def gated (ops : Ops) (metadata : RequestMetadata) (stage key : Text) (rest : List Call) :
    List Call :=
  if ¬ ops.complete then replyBadDispatchContract metadata ops
  else if ¬ ops.transportHealthy then
    [.logTransportHealthSnapshot stage key metadata.requestId.text,
      .replyError metadata.requestId.text (lit "session transport unstable") 503]
  else rest

def orUnavailable (metadata : RequestMetadata) (handles : Bool) (handler : Call)
    (message : String) : List Call :=
  if handles then [handler] else [.replyError metadata.requestId.text (lit message) 500]

/-- `neuro_unit_dispatch_command_query`. -/
def dispatchCommandQuery (ops : Ops) (key payload : Text) (metadata : RequestMetadata)
    (fields : Option RequestFields) : List Call :=
  gated ops metadata (lit "cmd_gate") key <|
    requireFields ops metadata (requiredFieldsForCommand key) <|
      match classifyCommandRoute key ops.nodeId with
      | some .leaseAcquire =>
          orUnavailable metadata ops.handlesLeaseAcquire
            (.handleLeaseAcquire payload metadata.requestId.text)
            "lease acquire handler unavailable"
      | some .leaseRelease =>
          orUnavailable metadata ops.handlesLeaseRelease
            (.handleLeaseRelease payload metadata.requestId.text)
            "lease release handler unavailable"
      | some (.appAction appId action) =>
          orUnavailable metadata ops.handlesAppAction
            (.handleAppAction ⟨appId, action, payload, metadata.requestId.text, some metadata,
              fields⟩)
            "app command handler unavailable"
      | _ => [.replyError metadata.requestId.text (lit "unsupported command path") 404]

/-- `neuro_unit_dispatch_query_query`. -/
def dispatchQueryQuery (ops : Ops) (key : Text) (metadata : RequestMetadata) : List Call :=
  gated ops metadata (lit "query_gate") key <|
    requireFields ops metadata (requiredFieldsForQuery key) <|
      match classifyQueryRoute key ops.nodeId with
      | some (.query kind) =>
          orUnavailable metadata (ops.handlesQuery kind)
            (.handleQuery kind metadata.requestId.text)
            (match kind with
              | .device => "query device handler unavailable"
              | .apps => "query apps handler unavailable"
              | .leases => "query leases handler unavailable")
      | _ => [.replyError metadata.requestId.text (lit "unsupported query path") 404]

def lifecycleActions : List Text :=
  [lit "prepare", lit "verify", lit "activate", lit "rollback", lit "recover", lit "delete"]

/-- `neuro_unit_dispatch_update_query`. -/
def dispatchUpdateQuery (ops : Ops) (key payload : Text) (metadata : RequestMetadata)
    (fields : Option RequestFields) : List Call :=
  gated ops metadata (lit "update_gate") key <|
    match classifyUpdateRoute key ops.nodeId with
    | some (.updateAction appId action) =>
        requireFields ops metadata (requiredFieldsForUpdateAction action) <|
          if lifecycleActions.contains action then
            match ops.ensureRecoverySeedInitialized with
            | none =>
                [.replyError metadata.requestId.text (lit "recovery seed gate unavailable") 500]
            | some ret =>
                if ret ≠ 0 then
                  [.replyError metadata.requestId.text
                    (lit "recovery seed storage not ready") 503]
                else
                  orUnavailable metadata ops.handlesUpdateAction
                    (.handleUpdateAction ⟨appId, action, payload, metadata.requestId.text,
                      some metadata, fields⟩)
                    "update command handler unavailable"
          else [.replyError metadata.requestId.text (lit "unsupported update path") 404]
    | _ => [.replyError metadata.requestId.text (lit "invalid update path") 400]

/-- The handler is called with metadata that meets the requirements of its action. -/
def Checks (nodeId : Text) (metadata : RequestMetadata) : Call → Prop
  | .logTransportHealthSnapshot .. | .replyError .. => True
  | .handleLeaseAcquire .. => Write nodeId metadata
  | .handleLeaseRelease .. | .handleAppAction _ => ProtectedWrite nodeId metadata
  | .handleQuery .. => Common nodeId metadata
  | .handleUpdateAction request =>
      (request.action = lit "prepare" ∧ Write nodeId metadata) ∨
      (request.action = lit "verify" ∧ Common nodeId metadata) ∨
      (request.action ∈ [lit "activate", lit "rollback", lit "recover", lit "delete"] ∧
        ProtectedWrite nodeId metadata)

section Keys

variable {key node scope action : Text} {appId : Buffer 32}

theorem last_segment {left right leftLast rightLast : Text} (leftPlain : slash ∉ leftLast)
    (rightPlain : slash ∉ rightLast)
    (same : left ++ slash :: leftLast = right ++ slash :: rightLast) :
    left = right ∧ leftLast = rightLast := by
  have turned := congrArg List.reverse same
  simp only [List.reverse_append, List.reverse_cons, List.append_assoc, List.singleton_append]
    at turned
  have leftTurned : slash ∉ leftLast.reverse := by simpa using leftPlain
  have rightTurned : slash ∉ rightLast.reverse := by simpa using rightPlain
  obtain ⟨last, front⟩ := segment_unique leftTurned rightTurned turned
  exact ⟨List.reverse_injective front, List.reverse_injective last⟩

/-- The parts of a key that names an action of an application. -/
theorem extractScopedAppRoute_key
    (found : extractScopedAppRoute key node scope = some (appId, action)) :
    slash ∉ appId.text ∧ slash ∉ action ∧
      key = lit "neuro/" ++ node ++ lit "/" ++ scope ++ lit "/app/" ++ appId.text ++
        slash :: action := by
  unfold extractScopedAppRoute at found
  split at found
  · cases found
  dsimp only at found
  split at found
  · cases found
  split at found
  · cases found
  next starts =>
  split at found
  · cases found
  next sep search =>
  obtain ⟨before, rest, start, rfl, plain⟩ := strchr_suffix search
  rw [start, between_append] at found
  split at found
  · cases found
  next fits =>
  split at found
  · next valid =>
    cases found
    have whole : (copyBounded before : Buffer 32).text = before :=
      copyBounded_exact before (by omega)
    have tokens : slash ∉ before ∧ slash ∉ rest := by
      simp only [tokenIsValid, Bool.and_eq_true, Bool.not_eq_true', List.contains_eq_mem,
        decide_eq_false_iff_not] at valid
      exact ⟨plain, valid.2.2⟩
    refine ⟨by rw [whole]; exact tokens.1, tokens.2, ?_⟩
    obtain ⟨later, joined⟩ := List.isPrefixOf_iff_prefix.mp (not_not.mp starts)
    rw [← joined, List.drop_left] at start
    rw [whole, ← joined, start]
    simp
  · cases found

/-- The key of an action of an application is a protected one, whatever the tokens are. -/
theorem appAction_protected
    (found : extractScopedAppRoute key node (lit "cmd") = some (appId, action)) :
    requiredFieldsForCommand key = protectedWriteFlags := by
  obtain ⟨idPlain, actionPlain, named⟩ := extractScopedAppRoute_key found
  have segments : lit "/app/" = slash :: (lit "app" ++ [slash]) := by decide
  have acquires : hasSuffix key (lit "/cmd/lease/acquire") = false := by
    refine Bool.eq_false_iff.mpr fun ends => ?_
    obtain ⟨before, same⟩ := List.isSuffixOf_iff_suffix.mp ends
    have cut : lit "/cmd/lease/acquire" =
        slash :: (lit "cmd" ++ slash :: (lit "lease" ++ slash :: lit "acquire")) := by decide
    -- the third segment from the end is `app` here and `cmd` there
    have whole : (((before ++ slash :: lit "cmd") ++ slash :: lit "lease") ++
        slash :: lit "acquire") =
        (((lit "neuro/" ++ node ++ lit "/" ++ lit "cmd") ++ slash :: lit "app") ++
          slash :: appId.text) ++ slash :: action := by
      rw [named, cut, segments] at same
      simpa using same
    have third := (last_segment (by decide) idPlain
      (last_segment (by decide) actionPlain whole).1).1
    exact absurd (last_segment (by decide) (by decide) third).2 (by decide)
  have within : (strstr (lit "/cmd/app/") key).isSome = true := by
    have cut : lit "/" ++ lit "cmd" ++ lit "/app/" = lit "/cmd/app/" := by decide
    refine strstr_found ⟨lit "neuro/" ++ node, appId.text ++ slash :: action, ?_⟩
    rw [named, ← cut]
    simp
  simp [requiredFieldsForCommand, acquires, within]

theorem formatRoute_some {route : Text} (built : formatRoute node route = some key) :
    key = route := by
  unfold formatRoute at built
  split at built
  · cases built
  split at built
  · cases built
  · cases built
    rfl

theorem hasSuffix_append (front suffix : Text) : hasSuffix (front ++ suffix) suffix = true :=
  List.isSuffixOf_iff_suffix.mpr (List.suffix_append front suffix)

theorem leaseAcquire_write (matched : keyMatchesLeaseRoute key node .acquire = true) :
    requiredFieldsForCommand key = writeFlags := by
  have named := formatRoute_some (of_decide_eq_true matched)
  have cut : lit "/cmd/lease/" ++ LeaseAction.acquire.segment = lit "/cmd/lease/acquire" := by
    decide
  rw [requiredFieldsForCommand, named, List.append_assoc, cut, hasSuffix_append, if_pos rfl]

theorem leaseRelease_protected (matched : keyMatchesLeaseRoute key node .release = true) :
    requiredFieldsForCommand key = protectedWriteFlags := by
  have named := formatRoute_some (of_decide_eq_true matched)
  have cut : lit "/cmd/lease/" ++ LeaseAction.release.segment = lit "/cmd/lease/release" := by
    decide
  rw [List.append_assoc, cut] at named
  have acquires : hasSuffix key (lit "/cmd/lease/acquire") = false := by
    refine Bool.eq_false_iff.mpr fun ends => ?_
    obtain ⟨before, same⟩ := List.isSuffixOf_iff_suffix.mp ends
    have acquire : lit "/cmd/lease/acquire" = lit "/cmd/lease" ++ slash :: lit "acquire" := by
      decide
    have release : lit "/cmd/lease/release" = lit "/cmd/lease" ++ slash :: lit "release" := by
      decide
    rw [named, acquire, release, ← List.append_assoc, ← List.append_assoc] at same
    exact absurd (last_segment (by decide) (by decide) same).2 (by decide)
  have releases : hasSuffix key (lit "/cmd/lease/release") = true := by
    rw [named]
    exact hasSuffix_append _ _
  simp [requiredFieldsForCommand, acquires, releases]

theorem query_common {kind : QueryKind} (matched : keyMatchesQueryRoute key node kind = true) :
    requiredFieldsForQuery key = requireCommon := by
  have named := formatRoute_some (of_decide_eq_true matched)
  have ends : hasSuffix key (lit "/query/" ++ kind.segment) = true := by
    rw [named, List.append_assoc]
    exact hasSuffix_append _ _
  cases kind with
  | device =>
    simp [requiredFieldsForQuery, show hasSuffix key (lit "/query/device") = true from ends]
  | apps => simp [requiredFieldsForQuery, show hasSuffix key (lit "/query/apps") = true from ends]
  | leases =>
    simp [requiredFieldsForQuery, show hasSuffix key (lit "/query/leases") = true from ends]

end Keys

section Dispatch

variable {ops : Ops} {key payload : Text} {metadata : RequestMetadata}
  {fields : Option RequestFields} {call : Call} {calls : List Call}

theorem replyError_checks {requestId message : Text} {statusCode : Nat}
    (member : call ∈ [Call.replyError requestId message statusCode]) :
    Checks ops.nodeId metadata call := by
  rw [List.mem_singleton.mp member]
  trivial

theorem gated_checks {stage : Text} (member : call ∈ gated ops metadata stage key calls)
    (rest : call ∈ calls → Checks ops.nodeId metadata call) : Checks ops.nodeId metadata call := by
  unfold gated replyBadDispatchContract at member
  split at member
  · dsimp only at member
    split at member
    · exact replyError_checks member
    · cases member
  split at member
  · rcases List.mem_cons.mp member with rfl | member
    · trivial
    · exact replyError_checks member
  · exact rest member

theorem requireFields_checks {requiredFields : UInt32}
    (member : call ∈ requireFields ops metadata requiredFields calls)
    (rest : (requiredFields ≠ 0 → validate metadata requiredFields ops.nodeId = none) →
      call ∈ calls → Checks ops.nodeId metadata call) :
    Checks ops.nodeId metadata call := by
  unfold requireFields at member
  split at member
  · next free => exact rest (fun asked => absurd free asked) member
  split at member
  · exact replyError_checks member
  · next accepted => exact rest (fun _ => accepted) member

theorem orUnavailable_checks {handles : Bool} {handler : Call} {message : String}
    (member : call ∈ orUnavailable metadata handles handler message)
    (checks : Checks ops.nodeId metadata handler) : Checks ops.nodeId metadata call := by
  unfold orUnavailable at member
  split at member
  · rw [List.mem_singleton.mp member]
    exact checks
  · exact replyError_checks member

theorem commandQuery_checks (member : call ∈ dispatchCommandQuery ops key payload metadata fields) :
    Checks ops.nodeId metadata call := by
  refine gated_checks member fun member => requireFields_checks member fun accepted member => ?_
  unfold classifyCommandRoute at member
  split at member
  next route =>
    split at route
    · next matched =>
      rw [leaseAcquire_write matched] at accepted
      exact orUnavailable_checks member (validate_write (accepted (by decide)))
    · split at route
      · cases route
      · obtain ⟨_, _, route⟩ := Option.map_eq_some_iff.mp route
        cases route
  next route =>
    split at route
    · cases route
    split at route
    · next matched =>
      rw [leaseRelease_protected matched] at accepted
      exact orUnavailable_checks member (validate_protectedWrite (accepted (by decide)))
    · obtain ⟨_, _, route⟩ := Option.map_eq_some_iff.mp route
      cases route
  next appId action route =>
    split at route
    · cases route
    split at route
    · cases route
    · obtain ⟨found, extracted, route⟩ := Option.map_eq_some_iff.mp route
      rw [appAction_protected extracted] at accepted
      exact orUnavailable_checks member (validate_protectedWrite (accepted (by decide)))
  next => exact replyError_checks member

theorem queryQuery_checks (member : call ∈ dispatchQueryQuery ops key metadata) :
    Checks ops.nodeId metadata call := by
  refine gated_checks member fun member => requireFields_checks member fun accepted member => ?_
  have handled : ∀ {kind : QueryKind}, keyMatchesQueryRoute key ops.nodeId kind = true →
      Common ops.nodeId metadata := by
    intro kind matched
    rw [query_common matched] at accepted
    exact validate_common (accepted (by decide))
  unfold classifyQueryRoute at member
  split at member
  next kind route =>
    refine orUnavailable_checks member ?_
    split at route
    · next matched => exact handled matched
    split at route
    · next matched => exact handled matched
    split at route
    · next matched => exact handled matched
    · cases route
  next => exact replyError_checks member

/-- The policy of an update goes by its action. -/
theorem updateAction_checks {request : Request}
    (lifecycle : lifecycleActions.contains request.action)
    (accepted : requiredFieldsForUpdateAction request.action ≠ 0 →
      validate metadata (requiredFieldsForUpdateAction request.action) ops.nodeId = none) :
    Checks ops.nodeId metadata (.handleUpdateAction request) := by
  simp only [lifecycleActions, List.contains_iff_mem, List.mem_cons, List.not_mem_nil,
    or_false] at lifecycle
  rcases lifecycle with asked | asked | asked | asked | asked | asked
  all_goals rw [asked] at accepted
  · exact .inl ⟨asked, validate_write (accepted (by decide))⟩
  · exact .inr (.inl ⟨asked, validate_common (accepted (by decide))⟩)
  · exact .inr (.inr ⟨by simp [asked], validate_protectedWrite (accepted (by decide))⟩)
  · exact .inr (.inr ⟨by simp [asked], validate_protectedWrite (accepted (by decide))⟩)
  · exact .inr (.inr ⟨by simp [asked], validate_protectedWrite (accepted (by decide))⟩)
  · exact .inr (.inr ⟨by simp [asked], validate_protectedWrite (accepted (by decide))⟩)

theorem updateQuery_checks (member : call ∈ dispatchUpdateQuery ops key payload metadata fields) :
    Checks ops.nodeId metadata call := by
  refine gated_checks member fun member => ?_
  split at member
  next appId action _ =>
    refine requireFields_checks member fun accepted member => ?_
    split at member
    · next lifecycle =>
      split at member
      · exact replyError_checks member
      split at member
      · exact replyError_checks member
      · exact orUnavailable_checks member (updateAction_checks lifecycle accepted)
    · exact replyError_checks member
  next => exact replyError_checks member

end Dispatch

/-- The queries of the unit. -/
inductive Endpoint where
  | command
  | query
  | update

def dispatch (ops : Ops) (endpoint : Endpoint) (key payload : Text) (metadata : RequestMetadata)
    (fields : Option RequestFields) : List Call :=
  match endpoint with
  | .command => dispatchCommandQuery ops key payload metadata fields
  | .query => dispatchQueryQuery ops key metadata
  | .update => dispatchUpdateQuery ops key payload metadata fields

/-- Whatever the key is, no handler is reached with metadata that is too weak for it. -/
theorem dispatch_checks (ops : Ops) (endpoint : Endpoint) (key payload : Text)
    (metadata : RequestMetadata) (fields : Option RequestFields) :
    ∀ call ∈ dispatch ops endpoint key payload metadata fields,
      Checks ops.nodeId metadata call := by
  intro call member
  cases endpoint with
  | command => exact commandQuery_checks member
  | query => exact queryQuery_checks member
  | update => exact updateQuery_checks member

/-- A node with every handler. -/
def wholeOps : Ops where
  nodeId := lit "unit-01"
  complete := true
  canReplyError := true
  transportHealthy := true
  ensureRecoverySeedInitialized := some 0
  handlesLeaseAcquire := true
  handlesLeaseRelease := true
  handlesAppAction := true
  handlesQuery := fun _ => true
  handlesUpdateAction := true

def releaseMetadata : RequestMetadata where
  requestId := copyBounded (lit "req-7")
  sourceCore := copyBounded (lit "core-cli")
  sourceAgent := copyBounded (lit "rational")
  targetNode := copyBounded (lit "unit-01")
  leaseId := copyBounded (lit "lease-3")
  idempotencyKey := copyBounded (lit "idem-7")
  timeoutMs := 10000
  priority := 50
  forwarded := false

theorem leaseRelease_checks :
    Checks wholeOps.nodeId releaseMetadata (.handleLeaseRelease (lit "{}") (lit "req-7")) :=
  dispatch_checks wholeOps .command (lit "neuro/unit-01/cmd/lease/release") (lit "{}")
    releaseMetadata none _ (List.mem_singleton.mpr rfl)

end NeuroLink.RequestDispatch
