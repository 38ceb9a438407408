import NeuroLink.RequestDispatch

/-!
The routes as keys. What the protocol header builds and what the dispatcher reads are two
pieces of code: here the classifiers are the inverses of the builders, and no key belongs to
two classes of routes.
-/

namespace NeuroLink.RouteKeys

open CText Errno RequestDispatch

/-- `enum neuro_protocol_update_action`. -/
inductive UpdateAction where
  | prepare
  | verify
  | activate
  | rollback
  | delete
  | recover

/-- `neuro_protocol_update_action_to_segment`. -/
def UpdateAction.segment : UpdateAction → Text
  | .prepare => lit "prepare"
  | .verify => lit "verify"
  | .activate => lit "activate"
  | .rollback => lit "rollback"
  | .delete => lit "delete"
  | .recover => lit "recover"

/-- `neuro_protocol_build_app_command_route` into a buffer of `outLen` bytes. -/
def buildAppCommandRoute (outLen : Nat) (node appId command : Text) : Except Int Text :=
  if outLen = 0 ∨ ¬ tokenIsValid node ∨ ¬ tokenIsValid appId ∨ ¬ tokenIsValid command then
    .error (-einval)
  else
    let route := lit "neuro/" ++ node ++ lit "/cmd/app/" ++ appId ++ lit "/" ++ command
    if route.length ≥ outLen then .error (-enametoolong) else .ok route

/-- `neuro_protocol_build_update_route` into a buffer of `outLen` bytes. -/
def buildUpdateRoute (outLen : Nat) (node appId : Text) (action : UpdateAction) :
    Except Int Text :=
  if outLen = 0 ∨ ¬ tokenIsValid node ∨ ¬ tokenIsValid appId then .error (-einval)
  else
    let route := lit "neuro/" ++ node ++ lit "/update/app/" ++ appId ++ lit "/" ++ action.segment
    if route.length ≥ outLen then .error (-enametoolong) else .ok route

/-- The front of a scoped route and the application id fit the buffers of the classifier. -/
def Fits (node scope appId : Text) : Prop :=
  (lit "neuro/" ++ node ++ lit "/" ++ scope ++ lit "/app/").length < routeLen ∧ appId.length < 32

section Scoped

variable {key node scope appId action : Text}

theorem tokenIsValid_iff {token : Text} :
    tokenIsValid token = true ↔ token ≠ [] ∧ slash ∉ token := by
  simp [tokenIsValid]

/-- A scoped route is read back as its tokens. -/
theorem extractScopedAppRoute_built (nodeValid : tokenIsValid node = true)
    (idValid : tokenIsValid appId = true) (actionValid : tokenIsValid action = true)
    (fits : Fits node scope appId) :
    extractScopedAppRoute
        (lit "neuro/" ++ node ++ lit "/" ++ scope ++ lit "/app/" ++ appId ++ slash :: action)
        node scope = some (copyBounded appId, action) := by
  obtain ⟨idSome, idPlain⟩ := tokenIsValid_iff.mp idValid
  unfold extractScopedAppRoute
  rw [if_neg (not_not.mpr nodeValid)]
  dsimp only
  rw [if_neg (Nat.not_le.mpr fits.1), List.append_assoc _ appId]
  rw [if_neg (not_not.mpr (List.isPrefixOf_iff_prefix.mpr (List.prefix_append _ _))),
    List.drop_left, strchr_append slash appId action idPlain]
  dsimp only
  rw [between_append, if_neg]
  · exact if_pos ⟨idValid, actionValid⟩
  · rintro (empty | long)
    · exact idSome (List.length_eq_zero_iff.mp empty)
    · exact absurd fits.2 (Nat.not_lt.mpr long)

/-- The classifier accepts exactly the keys of the format with valid tokens that fit. -/
theorem extractScopedAppRoute_iff :
    (∃ buffer : Buffer 32, extractScopedAppRoute key node scope = some (buffer, action) ∧
      buffer.text = appId) ↔
    Fits node scope appId ∧ tokenIsValid node = true ∧ tokenIsValid appId = true ∧
      tokenIsValid action = true ∧
      key = lit "neuro/" ++ node ++ lit "/" ++ scope ++ lit "/app/" ++ appId ++
        slash :: action := by
  constructor
  · rintro ⟨buffer, found, rfl⟩
    obtain ⟨idPlain, actionPlain, named⟩ := extractScopedAppRoute_key found
    unfold extractScopedAppRoute at found
    split at found
    · cases found
    next nodeValid =>
    dsimp only at found
    split at found
    · cases found
    next front =>
    split at found
    · cases found
    split at found
    · cases found
    split at found
    · cases found
    next filled =>
    split at found
    · next valid =>
      cases found
      have short := Nat.not_le.mp (not_or.mp filled).2
      rw [copyBounded_exact _ (Nat.lt_succ_iff.mp short)] at named ⊢
      exact ⟨⟨Nat.not_le.mp front, short⟩, not_not.mp nodeValid, valid.1, valid.2, named⟩
    · cases found
  · rintro ⟨fits, nodeValid, idValid, actionValid, rfl⟩
    exact ⟨copyBounded appId, extractScopedAppRoute_built nodeValid idValid actionValid fits,
      copyBounded_exact appId (Nat.lt_succ_iff.mp fits.2)⟩

theorem matchesLease_key {action : LeaseAction}
    (matched : keyMatchesLeaseRoute key node action = true) :
    key = lit "neuro/" ++ node ++ lit "/cmd/lease/" ++ action.segment :=
  formatRoute_some (of_decide_eq_true matched)

theorem matchesQuery_key {kind : QueryKind} (matched : keyMatchesQueryRoute key node kind = true) :
    key = lit "neuro/" ++ node ++ lit "/query/" ++ kind.segment :=
  formatRoute_some (of_decide_eq_true matched)

theorem buildAppCommandRoute_iff {command : Text} :
    (∃ outLen, buildAppCommandRoute outLen node appId command = .ok key) ↔
      tokenIsValid node = true ∧ tokenIsValid appId = true ∧ tokenIsValid command = true ∧
        key = lit "neuro/" ++ node ++ lit "/cmd/app/" ++ appId ++ lit "/" ++ command := by
  constructor
  · rintro ⟨outLen, built⟩
    unfold buildAppCommandRoute at built
    split at built
    · cases built
    next valid =>
    dsimp only at built
    split at built
    · cases built
    cases built
    obtain ⟨_, nodeValid, idValid, commandValid⟩ := not_or.mp valid |>.imp_right
      fun rest => not_or.mp rest |>.imp_right not_or.mp
    exact ⟨not_not.mp nodeValid, not_not.mp idValid, not_not.mp commandValid, rfl⟩
  · rintro ⟨nodeValid, idValid, commandValid, rfl⟩
    refine ⟨(lit "neuro/" ++ node ++ lit "/cmd/app/" ++ appId ++ lit "/" ++ command).length + 1, ?_⟩
    unfold buildAppCommandRoute
    rw [if_neg (by simp [nodeValid, idValid, commandValid])]
    exact if_neg (Nat.not_le.mpr (Nat.lt_succ_self _))

theorem buildUpdateRoute_iff {action : UpdateAction} :
    (∃ outLen, buildUpdateRoute outLen node appId action = .ok key) ↔
      tokenIsValid node = true ∧ tokenIsValid appId = true ∧
        key = lit "neuro/" ++ node ++ lit "/update/app/" ++ appId ++ lit "/" ++ action.segment := by
  constructor
  · rintro ⟨outLen, built⟩
    unfold buildUpdateRoute at built
    split at built
    · cases built
    next valid =>
    dsimp only at built
    split at built
    · cases built
    cases built
    obtain ⟨_, nodeValid, idValid⟩ := not_or.mp valid |>.imp_right not_or.mp
    exact ⟨not_not.mp nodeValid, not_not.mp idValid, rfl⟩
  · rintro ⟨nodeValid, idValid, rfl⟩
    refine ⟨(lit "neuro/" ++ node ++ lit "/update/app/" ++ appId ++ lit "/" ++
      action.segment).length + 1, ?_⟩
    unfold buildUpdateRoute
    rw [if_neg (by simp [nodeValid, idValid])]
    exact if_neg (Nat.not_le.mpr (Nat.lt_succ_self _))

end Scoped

inductive RouteClass where
  | lease
  | app
  | query
  | update

/-- A classifier of the dispatcher puts the key into the class. -/
def Accepts (key node : Text) : RouteClass → Prop
  | .lease => classifyCommandRoute key node = some .leaseAcquire ∨
      classifyCommandRoute key node = some .leaseRelease
  | .app => ∃ appId action, classifyCommandRoute key node = some (.appAction appId action)
  | .query => ∃ route, classifyQueryRoute key node = some route
  | .update => ∃ route, classifyUpdateRoute key node = some route

def RouteClass.mark : RouteClass → Text
  | .lease => lit "cmd/l"
  | .app => lit "cmd/a"
  | .query => lit "query"
  | .update => lit "updat"

def Marked (key node : Text) (routeClass : RouteClass) : Prop :=
  ∃ rest, key = (lit "neuro/" ++ node ++ lit "/") ++ (routeClass.mark ++ rest)

section Classes

variable {key node : Text}

theorem mark_length (routeClass : RouteClass) : routeClass.mark.length = 5 := by
  cases routeClass <;> decide

theorem mark_injective {left right : RouteClass} (same : left.mark = right.mark) :
    left = right := by
  cases left <;> cases right <;> first | rfl | exact absurd same (by decide)

theorem marked_unique {left right : RouteClass} (first : Marked key node left)
    (second : Marked key node right) : left = right := by
  obtain ⟨rest, rfl⟩ := first
  obtain ⟨other, same⟩ := second
  have tails := List.append_cancel_left same
  exact mark_injective (List.append_inj_left tails (by rw [mark_length, mark_length]))

theorem lease_marked {action : LeaseAction}
    (matched : keyMatchesLeaseRoute key node action = true) :
    Marked key node .lease := by
  have cut : lit "/cmd/lease/" = lit "/" ++ (RouteClass.lease.mark ++ lit "ease/") := by decide
  refine ⟨lit "ease/" ++ action.segment, ?_⟩
  rw [matchesLease_key matched, cut]
  simp only [List.append_assoc]

theorem query_marked {kind : QueryKind} (matched : keyMatchesQueryRoute key node kind = true) :
    Marked key node .query := by
  have cut : lit "/query/" = lit "/" ++ (RouteClass.query.mark ++ lit "/") := by decide
  refine ⟨lit "/" ++ kind.segment, ?_⟩
  rw [matchesQuery_key matched, cut]
  simp only [List.append_assoc]

theorem scoped_marked {scope action : Text} {appId : Buffer 32} {routeClass : RouteClass}
    {tail : Text} (cut : scope ++ lit "/app/" = routeClass.mark ++ tail)
    (found : extractScopedAppRoute key node scope = some (appId, action)) :
    Marked key node routeClass := by
  obtain ⟨_, _, named⟩ := extractScopedAppRoute_key found
  refine ⟨tail ++ (appId.text ++ slash :: action), ?_⟩
  rw [named, ← List.append_assoc routeClass.mark, ← cut]
  simp only [List.append_assoc]

theorem app_marked {action : Text} {appId : Buffer 32}
    (found : extractScopedAppRoute key node (lit "cmd") = some (appId, action)) :
    Marked key node .app :=
  @scoped_marked key node _ _ _ .app (lit "pp/") (by decide) found

theorem accepts_marked {routeClass : RouteClass} (accepts : Accepts key node routeClass) :
    Marked key node routeClass := by
  cases routeClass with
  | lease =>
      change classifyCommandRoute key node = _ ∨ classifyCommandRoute key node = _ at accepts
      unfold classifyCommandRoute at accepts
      split at accepts
      · next matched => exact lease_marked matched
      split at accepts
      · next matched => exact lease_marked matched
      · rcases accepts with other | other
        · obtain ⟨_, _, wrong⟩ := Option.map_eq_some_iff.mp other
          cases wrong
        · obtain ⟨_, _, wrong⟩ := Option.map_eq_some_iff.mp other
          cases wrong
  | app =>
      obtain ⟨appId, action, accepted⟩ := accepts
      unfold classifyCommandRoute at accepted
      split at accepted
      · cases accepted
      split at accepted
      · cases accepted
      · obtain ⟨_, found, _⟩ := Option.map_eq_some_iff.mp accepted
        exact app_marked found
  | query =>
      obtain ⟨route, accepted⟩ := accepts
      unfold classifyQueryRoute at accepted
      split at accepted
      · next matched => exact query_marked matched
      split at accepted
      · next matched => exact query_marked matched
      split at accepted
      · next matched => exact query_marked matched
      · cases accepted
  | update =>
      obtain ⟨route, accepted⟩ := accepts
      obtain ⟨_, found, _⟩ := Option.map_eq_some_iff.mp accepted
      exact @scoped_marked key node _ _ _ .update (lit "e/app/") (by decide) found

/-- The command classifier reads an action of an application as the scoped classifier does:
no such key is a route of the leases. -/
theorem classifyCommandRoute_app_iff {buffer : Buffer 32} {action : Text} :
    classifyCommandRoute key node = some (.appAction buffer action) ↔
      extractScopedAppRoute key node (lit "cmd") = some (buffer, action) := by
  constructor
  · intro accepted
    unfold classifyCommandRoute at accepted
    split at accepted
    · cases accepted
    split at accepted
    · cases accepted
    · obtain ⟨⟨_, _⟩, found, same⟩ := Option.map_eq_some_iff.mp accepted
      cases same
      exact found
  · intro found
    have apart : ∀ lease, ¬ keyMatchesLeaseRoute key node lease = true := fun lease matched =>
      nomatch marked_unique (lease_marked matched) (app_marked found)
    rw [classifyCommandRoute, if_neg (apart _), if_neg (apart _), found]
    rfl

theorem classifyUpdateRoute_iff {buffer : Buffer 32} {action : Text} :
    classifyUpdateRoute key node = some (.updateAction buffer action) ↔
      extractScopedAppRoute key node (lit "update") = some (buffer, action) := by
  rw [classifyUpdateRoute]
  constructor
  · intro accepted
    obtain ⟨⟨_, _⟩, found, same⟩ := Option.map_eq_some_iff.mp accepted
    cases same
    exact found
  · intro found
    rw [found]
    rfl

end Classes

/-- The classifiers undo the builders, whatever the tokens are, and the classes of routes
have no key in common. The update classifier takes any token for the action, also one that
no builder knows. -/
theorem routes_read_back (key node : Text) :
    (∀ appId action : Text,
      (∃ buffer : Buffer 32, classifyCommandRoute key node = some (.appAction buffer action) ∧
        buffer.text = appId) ↔
      Fits node (lit "cmd") appId ∧
        ∃ outLen, buildAppCommandRoute outLen node appId action = .ok key) ∧
    (∀ (appId : Text) (action : UpdateAction),
      (∃ buffer : Buffer 32,
        classifyUpdateRoute key node = some (.updateAction buffer action.segment) ∧
        buffer.text = appId) ↔
      Fits node (lit "update") appId ∧
        ∃ outLen, buildUpdateRoute outLen node appId action = .ok key) ∧
    (∀ appId action : Text,
      (∃ buffer : Buffer 32, classifyUpdateRoute key node = some (.updateAction buffer action) ∧
        buffer.text = appId) ↔
      Fits node (lit "update") appId ∧ tokenIsValid node = true ∧ tokenIsValid appId = true ∧
        tokenIsValid action = true ∧
        key = lit "neuro/" ++ node ++ lit "/update/app/" ++ appId ++ lit "/" ++ action) ∧
    ∀ left right : RouteClass, Accepts key node left → Accepts key node right → left = right := by
  -- the routes are built of the same pieces, bracketed in another way
  have slashed : ∀ text : Text, lit "/" ++ text = slash :: text := fun _ => rfl
  have command : lit "/cmd/app/" = lit "/" ++ (lit "cmd" ++ lit "/app/") := by decide
  have update : lit "/update/app/" = lit "/" ++ (lit "update" ++ lit "/app/") := by decide
  have updates : ∀ appId action : Text,
      (∃ buffer : Buffer 32, classifyUpdateRoute key node = some (.updateAction buffer action) ∧
        buffer.text = appId) ↔
      Fits node (lit "update") appId ∧ tokenIsValid node = true ∧ tokenIsValid appId = true ∧
        tokenIsValid action = true ∧
        key = lit "neuro/" ++ node ++ lit "/update/app/" ++ appId ++ lit "/" ++ action := by
    intro appId action
    simp only [classifyUpdateRoute_iff]
    rw [extractScopedAppRoute_iff, update]
    simp only [List.append_assoc, List.cons_append, slashed]
  refine ⟨fun appId action => ?_, fun appId action => ?_, updates, ?_⟩
  · simp only [classifyCommandRoute_app_iff]
    rw [extractScopedAppRoute_iff, buildAppCommandRoute_iff, command]
    simp only [List.append_assoc, List.cons_append, slashed]
  · have valid : tokenIsValid action.segment = true := by cases action <;> decide
    rw [updates appId action.segment, buildUpdateRoute_iff]
    simp only [valid, true_and]
  · intro left right first second
    exact marked_unique (accepts_marked first) (accepts_marked second)

/-- An action of an update that no builder makes a route of. -/
theorem unbuilt_action_accepted :
    ¬ ∀ (key node appId action : Text),
      (∃ buffer : Buffer 32, classifyUpdateRoute key node = some (.updateAction buffer action) ∧
        buffer.text = appId) ↔
      Fits node (lit "update") appId ∧ ∃ kind : UpdateAction, kind.segment = action ∧
        ∃ outLen, buildUpdateRoute outLen node appId kind = .ok key := by
  intro claimed
  have accepted : extractScopedAppRoute (lit "neuro/unit-1/update/app/pump/inspect")
      (lit "unit-1") (lit "update") = some (copyBounded (lit "pump"), lit "inspect") := by
    decide +kernel
  obtain ⟨_, kind, same, _⟩ := (claimed (lit "neuro/unit-1/update/app/pump/inspect")
    (lit "unit-1") (lit "pump") (lit "inspect")).mp
      ⟨_, classifyUpdateRoute_iff.mpr accepted, copyBounded_exact _ (by decide)⟩
  cases kind <;> exact absurd same (by decide)

end NeuroLink.RouteKeys
