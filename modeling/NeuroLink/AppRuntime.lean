import NeuroLink.FileSystem

/-!
The application runtime: the loaded applications in the order they were loaded,
and what load, start, stop and unload do to them. The extension loader and the
code of an application are not part of the unit: what the loader reports comes
with the call, and what the callbacks return comes from a list that every
callback consumes.
-/

namespace NeuroLink.AppRuntime

open CText Errno FileSystem

/-- `enum app_rt_exception_code`. -/
inductive ExceptionCode where
  | none
  | invalidArgument
  | notFound
  | notSupported
  | stateConflict
  | alreadyExists
  | resourceLimit
  | ioFailure
  | networkFailure
  | symbolMissing
  | loadFailure
  | appCallbackFailure
  | internal
  deriving DecidableEq

def ExceptionCode.number : ExceptionCode → Int
  | .none => 0
  | .invalidArgument => 1
  | .notFound => 2
  | .notSupported => 3
  | .stateConflict => 4
  | .alreadyExists => 5
  | .resourceLimit => 6
  | .ioFailure => 7
  | .networkFailure => 8
  | .symbolMissing => 9
  | .loadFailure => 10
  | .appCallbackFailure => 11
  | .internal => 12

/-- `app_rt_exception_code_str`. -/
def ExceptionCode.str : ExceptionCode → Text
  | .none => lit "NONE"
  | .invalidArgument => lit "INVALID_ARGUMENT"
  | .notFound => lit "NOT_FOUND"
  | .notSupported => lit "NOT_SUPPORTED"
  | .stateConflict => lit "STATE_CONFLICT"
  | .alreadyExists => lit "ALREADY_EXISTS"
  | .resourceLimit => lit "RESOURCE_LIMIT"
  | .ioFailure => lit "IO_FAILURE"
  | .networkFailure => lit "NETWORK_FAILURE"
  | .symbolMissing => lit "SYMBOL_MISSING"
  | .loadFailure => lit "LOAD_FAILURE"
  | .appCallbackFailure => lit "APP_CALLBACK_FAILURE"
  | .internal => lit "INTERNAL"

/-- `app_rt_error_from_code`. -/
def ExceptionCode.error : ExceptionCode → Int
  | .none => 0
  | code => -(0x5000 + code.number)

/-- `app_rt_exception_from_errno`, on a negated error number. -/
def exceptionFromErrno (errnoValue : Int) : ExceptionCode :=
  if -errnoValue = einval then .invalidArgument
  else if -errnoValue = enoent then .notFound
  else if -errnoValue = enotsup then .notSupported
  else if -errnoValue = ealready then .alreadyExists
  else if -errnoValue = ebusy ∨ -errnoValue = eagain then .stateConflict
  else if -errnoValue = enomem ∨ -errnoValue = enospc then .resourceLimit
  else if -errnoValue = ehostunreach ∨ -errnoValue = econnaborted ∨
      -errnoValue = econnreset ∨ -errnoValue = econnrefused ∨
      -errnoValue = etimedout then .networkFailure
  else if -errnoValue = eio ∨ -errnoValue = ebadmsg then .ioFailure
  else .internal

/-- `struct app_rt_exception`. -/
structure RuntimeException where
  code : ExceptionCode
  cause : Int
  component : Buffer 16
  operation : Buffer 24

def RuntimeException.cleared : RuntimeException := ⟨.none, 0, .empty, .empty⟩

/-- `enum app_runtime_state`. -/
inductive AppState where
  | unloaded
  | loaded
  | initialized
  | running
  | suspended
  deriving DecidableEq

def AppState.number : AppState → Int
  | .unloaded => 0
  | .loaded => 1
  | .initialized => 2
  | .running => 3
  | .suspended => 4

/-- The addresses of the callbacks an extension exports; zero where it has none. -/
structure Callbacks where
  init : Nat
  startV2 : Nat
  startLegacy : Nat
  suspend : Nat
  resume : Nat
  stop : Nat
  deinit : Nat
  onCommand : Nat

/-- `struct app_runtime_app`; `image` is the content the extension was loaded from. -/
structure App where
  name : Buffer 32
  path : Buffer 128
  image : List UInt8
  callbacks : Callbacks
  state : AppState
  priority : Nat
  autoSuspended : Bool

/-- `struct app_runtime_policy`. -/
structure Policy where
  maxLoadedApps : Nat
  maxRunningApps : Nat
  allowPreemptiveSuspend : Bool

structure Runtime where
  apps : List App
  policy : Policy
  lastException : RuntimeException
  callbackResults : List Int

/-- `app_runtime_fail`. -/
def fail (operation : String) (code : ExceptionCode) (cause : Int) (runtime : Runtime) :
    Int × Runtime :=
  (code.error,
    { runtime with
      lastException :=
        ⟨code, cause, copyBounded (lit "runtime"), copyBounded (lit operation)⟩ })

/-- `app_runtime_fail_errno`. -/
def failErrno (operation : String) (errnoValue : Int) (runtime : Runtime) : Int × Runtime :=
  let negative := if errnoValue ≥ 0 then -errnoValue else errnoValue
  fail operation (exceptionFromErrno negative) negative runtime

def clearLastException (runtime : Runtime) : Runtime :=
  { runtime with lastException := .cleared }

/-- Calls a callback: it returns the next of the pending results. -/
def invoke (runtime : Runtime) : Int × Runtime :=
  (runtime.callbackResults.headD 0,
    { runtime with callbackResults := runtime.callbackResults.tail })

def callbackAddrIsValid (address : Nat) : Bool := 0x1000 ≤ address

/-- `app_runtime_require_callback` followed by the call of the callback. -/
def invokeCallback (address : Nat) (pointerName callbackName : String) (runtime : Runtime) :
    Int × Runtime :=
  if ¬ callbackAddrIsValid address then
    fail pointerName .symbolMissing (-enoent) runtime
  else
    let (ret, runtime) := invoke runtime
    if ret ≠ 0 then fail callbackName .appCallbackFailure ret runtime
    else (0, runtime)

/-- `find_app_by_name_locked`. -/
def findApp (runtime : Runtime) (name : Text) : Option App :=
  if name = [] then none else runtime.apps.find? fun app => app.name.text = name

/-- Rewrites the first application of that name, which `findApp` finds. -/
def amendApp (name : Text) (edit : App → App) : List App → List App
  | [] => []
  | app :: rest =>
      if app.name.text = name then edit app :: rest else app :: amendApp name edit rest

def setApp (runtime : Runtime) (name : Text) (edit : App → App) : Runtime :=
  { runtime with apps := amendApp name edit runtime.apps }

def dropApp (name : Text) : List App → List App
  | [] => []
  | app :: rest => if app.name.text = name then rest else app :: dropApp name rest

/-- `app_runtime_stop_internal_locked`. -/
def stopInternal (app : App) (runtime : Runtime) : Int × Runtime :=
  if app.state ≠ .running ∧ app.state ≠ .suspended then (0, runtime) else
  let (ret, runtime) := invokeCallback app.callbacks.stop "app_stop_ptr" "app_stop" runtime
  if ret ≠ 0 then (ret, runtime)
  else (0, setApp runtime app.name.text fun app =>
    { app with state := .initialized, autoSuspended := false })

/-- `app_runtime_deinit_internal_locked`. -/
def deinitInternal (app : App) (runtime : Runtime) : Int × Runtime :=
  if app.state ≠ .initialized then (0, runtime) else
  let (ret, runtime) :=
    invokeCallback app.callbacks.deinit "app_deinit_ptr" "app_deinit" runtime
  if ret ≠ 0 then (ret, runtime)
  else (0, setApp runtime app.name.text fun app => { app with state := .loaded })

/-- `app_runtime_suspend_internal_locked`. -/
def suspendInternal (app : App) (autoSuspend : Bool) (runtime : Runtime) : Int × Runtime :=
  if app.state ≠ .running then fail "app_suspend" .stateConflict app.state.number runtime else
  let (ret, runtime) :=
    invokeCallback app.callbacks.suspend "app_suspend_ptr" "app_suspend" runtime
  if ret ≠ 0 then (ret, runtime)
  else (0, setApp runtime app.name.text fun app =>
    { app with state := .suspended, autoSuspended := autoSuspend })

def runningCount (runtime : Runtime) : Nat :=
  runtime.apps.countP fun app => app.state = .running

/-- The running application with the largest priority number above the
requester's, the first of them when there are several. -/
def preemptionCandidate (request : App) : List App → Option App → Option App
  | [], candidate => candidate
  | app :: rest, candidate =>
      if app.name = request.name ∨ app.state ≠ .running ∨ app.priority ≤ request.priority then
        preemptionCandidate request rest candidate
      else if candidate.all fun best => app.priority > best.priority then
        preemptionCandidate request rest (some app)
      else preemptionCandidate request rest candidate

/-- `app_runtime_ensure_running_slot_locked`. -/
def ensureRunningSlot (request : App) (runtime : Runtime) : Int × Runtime :=
  if runningCount runtime < runtime.policy.maxRunningApps then (0, runtime)
  else if ¬ runtime.policy.allowPreemptiveSuspend then
    fail "ensure_running_slot" .resourceLimit (runningCount runtime) runtime
  else
    match preemptionCandidate request runtime.apps none with
    | none => fail "ensure_running_slot" .resourceLimit (runningCount runtime) runtime
    | some candidate => suspendInternal candidate true runtime

/-- What allocation, storage and the extension loader report while an application
is loaded; an error of zero is none. -/
structure LoadReport where
  recordAllocated : Bool
  stagingAllocated : Bool
  fileError : Int
  llextLoad : Int
  textAlias : Int
  textGuard : Int
  callbacks : Callbacks
  priority : Nat
  manifest : Int

def loadsWell : LoadReport where
  recordAllocated := true
  stagingAllocated := true
  fileError := 0
  llextLoad := 0
  textAlias := 0
  textGuard := 0
  callbacks := ⟨0x1000, 0x1000, 0x1000, 0x1000, 0x1000, 0x1000, 0x1000, 0x1000⟩
  priority := 0
  manifest := 0

/-- `load_file_to_ram`. -/
def loadFileToRam (report : LoadReport) (volume : Volume) (path : Text) :
    Except Int (List UInt8) :=
  if report.fileError ≠ 0 then .error report.fileError else
  match volume path with
  | none => .error (-enoent)
  | some .dir => .error (-einval)
  | some (.file content) =>
      if content = [] then .error (-einval)
      else if ¬ report.stagingAllocated then .error (-enomem)
      else .ok content

/-- `app_runtime_bind_symbols`: the callbacks an application must have, then its
manifest. -/
def bindSymbols (report : LoadReport) : Int :=
  let found := report.callbacks
  if found.init = 0 ∨ (found.startV2 = 0 ∧ found.startLegacy = 0) ∨ found.suspend = 0 ∨
      found.resume = 0 ∨ found.stop = 0 ∨ found.deinit = 0 then -enoent
  else report.manifest

/-- `app_runtime_load`. -/
def load (report : LoadReport) (volume : Volume) (name path : Text) (runtime : Runtime) :
    Int × Runtime :=
  if name = [] ∨ path = [] then fail "load" .invalidArgument 0 runtime
  else if name.length > 31 ∨ path.length > 127 then
    fail "load" .invalidArgument (-enametoolong) runtime
  else if runtime.apps.length ≥ runtime.policy.maxLoadedApps then
    fail "load" .resourceLimit runtime.policy.maxLoadedApps runtime
  else if (findApp runtime name).isSome then
    fail "load" .alreadyExists (-ealready) runtime
  else if ¬ report.recordAllocated then fail "load" .resourceLimit (-enomem) runtime
  else
    match loadFileToRam report volume path with
    | .error error => failErrno "load_file" error runtime
    | .ok image =>
        if report.llextLoad < 0 then fail "llext_load" .loadFailure report.llextLoad runtime
        else if report.textAlias ≠ 0 then
          fail "llext_text_alias" .loadFailure report.textAlias runtime
        else if report.textGuard ≠ 0 then
          fail "llext_text_guard" .loadFailure report.textGuard runtime
        else if bindSymbols report = -enoent then
          fail "bind_symbols" .symbolMissing (-enoent) runtime
        else if bindSymbols report ≠ 0 then
          fail "bind_manifest" .invalidArgument (bindSymbols report) runtime
        else
          let (ret, runtime) :=
            invokeCallback report.callbacks.init "app_init_ptr" "app_init" runtime
          if ret ≠ 0 then (ret, runtime)
          else
            let app : App :=
              { name := copyBounded name
                path := copyBounded path
                image := image
                callbacks := report.callbacks
                state := .initialized
                priority := report.priority
                autoSuspended := false }
            (0, clearLastException { runtime with apps := runtime.apps ++ [app] })

/-! `app_runtime_parse_start_args`: comma separated `key=value` pairs. -/

def isBlank (letter : Letter) : Bool := letter.val = 32 ∨ letter.val = 9

def trimToken (token : Text) : Text :=
  ((token.dropWhile isBlank).reverse.dropWhile isBlank).reverse

/-- The tokens of `strtok_r(.., ",", ..)`: none of them is empty. -/
def startTokens (raw : Text) : List Text :=
  (raw.splitOn ⟨44, by decide⟩).filter (· ≠ [])

def parseStartPairs : List Text → Nat → Int
  | [], _ => 0
  | token :: rest, pairCount =>
      if pairCount ≥ 8 then -enospc else
      let token := trimToken token
      let key := trimToken (token.takeWhile (·.val ≠ 61))
      let value := trimToken ((token.dropWhile (·.val ≠ 61)).drop 1)
      if token.all (·.val ≠ 61) then -einval
      else if key = [] then -einval
      else if key.length > 23 ∨ value.length > 63 then -enametoolong
      else parseStartPairs rest (pairCount + 1)

def parseStartArgs (raw : Text) : Int :=
  if raw.length > 255 then -enametoolong else parseStartPairs (startTokens raw) 0

/-- `app_runtime_start`. -/
def start (name startArgs : Text) (runtime : Runtime) : Int × Runtime :=
  if name = [] then fail "start" .invalidArgument 0 runtime else
  match findApp runtime name with
  | none => fail "start" .notFound 0 runtime
  | some app =>
      if app.state ≠ .initialized then
        fail "start" .stateConflict app.state.number runtime
      else
        let (ret, runtime) := ensureRunningSlot app runtime
        if ret ≠ 0 then (ret, runtime) else
        let address :=
          if app.callbacks.startV2 ≠ 0 then app.callbacks.startV2 else app.callbacks.startLegacy
        let pointerName :=
          if app.callbacks.startV2 ≠ 0 then "app_start_v2_ptr" else "app_start_ptr"
        if ¬ callbackAddrIsValid address then
          fail pointerName .symbolMissing (-enoent) runtime
        else if app.callbacks.startV2 ≠ 0 ∧ parseStartArgs startArgs ≠ 0 then
          failErrno "start_parse_args" (parseStartArgs startArgs) runtime
        else
          let (ret, runtime) := invokeCallback address pointerName "app_start" runtime
          if ret ≠ 0 then (ret, runtime)
          else (0, clearLastException (setApp runtime name fun app =>
            { app with state := .running, autoSuspended := false }))

/-- `app_runtime_suspend`. -/
def suspend (name : Text) (runtime : Runtime) : Int × Runtime :=
  if name = [] then fail "suspend" .invalidArgument 0 runtime else
  match findApp runtime name with
  | none => fail "suspend" .notFound 0 runtime
  | some app =>
      let (ret, runtime) := suspendInternal app false runtime
      if ret ≠ 0 then (ret, runtime) else (0, clearLastException runtime)

/-- `app_runtime_resume`. -/
def resume (name : Text) (runtime : Runtime) : Int × Runtime :=
  if name = [] then fail "resume" .invalidArgument 0 runtime else
  match findApp runtime name with
  | none => fail "resume" .notFound 0 runtime
  | some app =>
      if app.state ≠ .suspended then
        fail "resume" .stateConflict app.state.number runtime
      else
        let (ret, runtime) := ensureRunningSlot app runtime
        if ret ≠ 0 then (ret, runtime) else
        let (ret, runtime) :=
          invokeCallback app.callbacks.resume "app_resume_ptr" "app_resume" runtime
        if ret ≠ 0 then (ret, runtime)
        else (0, clearLastException (setApp runtime name fun app =>
          { app with state := .running, autoSuspended := false }))

/-- `app_runtime_stop`. -/
def stop (name : Text) (runtime : Runtime) : Int × Runtime :=
  if name = [] then fail "stop" .invalidArgument 0 runtime else
  match findApp runtime name with
  | none => fail "stop" .notFound 0 runtime
  | some app =>
      let (ret, runtime) := stopInternal app runtime
      if ret ≠ 0 then (ret, runtime) else (0, clearLastException runtime)

/-- `app_runtime_unload`. -/
def unload (name : Text) (runtime : Runtime) : Int × Runtime :=
  if name = [] then fail "unload" .invalidArgument 0 runtime else
  match findApp runtime name with
  | none => fail "unload" .notFound 0 runtime
  | some app =>
      let (ret, runtime) := stopInternal app runtime
      if ret ≠ 0 then (ret, runtime) else
      match findApp runtime name with
      | none => fail "unload" .notFound 0 runtime
      | some app =>
          let (ret, runtime) := deinitInternal app runtime
          if ret ≠ 0 then (ret, runtime)
          else (0, clearLastException { runtime with apps := dropApp name runtime.apps })

/-- `app_runtime_supports_command_callback`. -/
def supportsCommandCallback (name : Text) (runtime : Runtime) : Bool :=
  (findApp runtime name).any fun app => app.callbacks.onCommand ≠ 0

/-- `app_runtime_dispatch_command`; the text of the reply is the application's. -/
def dispatchCommand (name commandName : Text) (runtime : Runtime) : Int × Runtime :=
  if name = [] ∨ commandName = [] then fail "app_command" .invalidArgument (-einval) runtime else
  match findApp runtime name with
  | none => fail "app_command" .notFound (-enoent) runtime
  | some app =>
      if app.state ≠ .running then
        fail "app_command" .stateConflict app.state.number runtime
      else if app.callbacks.onCommand = 0 then
        fail "app_command" .notSupported (-enotsup) runtime
      else
        let (ret, runtime) :=
          invokeCallback app.callbacks.onCommand "app_on_command_ptr" "app_on_command" runtime
        if ret ≠ 0 then (ret, runtime) else (0, clearLastException runtime)

/-- `app_runtime_init`, whose limits are the largest `size_t`, which stands for none. -/
def init (noLimit : Nat) : Runtime where
  apps := []
  policy := ⟨noLimit, noLimit, true⟩
  lastException := .cleared
  callbackResults := []

/-- `app_runtime_set_policy`. -/
def setPolicy (policy : Policy) (runtime : Runtime) : Int × Runtime :=
  if policy.maxLoadedApps = 0 ∨ policy.maxRunningApps = 0 ∨
      policy.maxRunningApps > policy.maxLoadedApps then
    fail "set_policy" .invalidArgument 0 runtime
  else if runningCount runtime > policy.maxRunningApps then
    fail "set_policy" .stateConflict (runningCount runtime) runtime
  else (0, clearLastException { runtime with policy := policy })

/-- The part of `app_runtime_get_status` the services read: name and state of the
applications its snapshot has room for. -/
def status (runtime : Runtime) : List (Text × AppState) :=
  (runtime.apps.take 4).map fun app => (app.name.text, app.state)

/-! What the applications were loaded from. Only loading and unloading change it. -/

def images (runtime : Runtime) : List (Text × List UInt8) :=
  runtime.apps.map fun app => (app.name.text, app.image)

def imageOf (runtime : Runtime) (name : Text) : Option (List UInt8) :=
  (findApp runtime name).map (·.image)

theorem imageOf_eq (runtime : Runtime) (name : Text) : imageOf runtime name =
    if name = [] then none
    else ((images runtime).find? fun image => image.1 = name).map (·.2) := by
  unfold imageOf findApp images
  split
  · rfl
  · rw [List.find?_map, Option.map_map]
    rfl

theorem imageOf_images {left right : Runtime} (same : images left = images right)
    (name : Text) : imageOf left name = imageOf right name := by
  rw [imageOf_eq, imageOf_eq, same]

theorem imageOf_added {runtime later : Runtime} {name : Text} {image : List UInt8}
    (named : name ≠ []) (absent : imageOf runtime name = none)
    (added : images later = images runtime ++ [(name, image)]) :
    imageOf later name = some image := by
  rw [imageOf_eq, if_neg named, Option.map_eq_none_iff] at absent
  rw [imageOf_eq, if_neg named, added, List.find?_append, absent]
  simp

section Images

variable {runtime : Runtime} {name : Text}

theorem setApp_images (edit : App → App)
    (kept : ∀ app, (edit app).name = app.name ∧ (edit app).image = app.image) :
    images (setApp runtime name edit) = images runtime := by
  have amended : ∀ apps : List App,
      (amendApp name edit apps).map (fun app => (app.name.text, app.image)) =
        apps.map fun app => (app.name.text, app.image) := by
    intro apps
    induction apps with
    | nil => rfl
    | cons app rest ih =>
        rw [amendApp]
        split
        · simp [kept]
        · simp [ih]
  exact amended runtime.apps

theorem invokeCallback_images (address : Nat) (pointerName callbackName : String) :
    images (invokeCallback address pointerName callbackName runtime).2 = images runtime := by
  unfold invokeCallback
  split
  · rfl
  · dsimp only
    split <;> rfl

theorem suspendInternal_images (app : App) (autoSuspend : Bool) :
    images (suspendInternal app autoSuspend runtime).2 = images runtime := by
  unfold suspendInternal
  split
  · rfl
  · dsimp only
    split
    · exact invokeCallback_images ..
    · rw [setApp_images _ (by simp)]
      exact invokeCallback_images ..

theorem ensureRunningSlot_images (app : App) :
    images (ensureRunningSlot app runtime).2 = images runtime := by
  unfold ensureRunningSlot
  split
  · rfl
  · split
    · rfl
    · split
      · rfl
      · exact suspendInternal_images ..

theorem start_images (startArgs : Text) :
    images (start name startArgs runtime).2 = images runtime := by
  unfold start
  split
  · rfl
  split
  · rfl
  · next app found =>
    split
    · rfl
    have slot : images (ensureRunningSlot app runtime).2 = images runtime :=
      ensureRunningSlot_images app
    dsimp only
    generalize (if app.callbacks.startV2 ≠ 0 then app.callbacks.startV2
      else app.callbacks.startLegacy) = address
    generalize (if app.callbacks.startV2 ≠ 0 then "app_start_v2_ptr" else "app_start_ptr") =
      pointerName
    split
    · exact slot
    split
    · exact slot
    split
    · exact slot
    split
    · exact (invokeCallback_images ..).trans slot
    · refine (setApp_images _ (by simp)).trans ?_
      exact (invokeCallback_images ..).trans slot

theorem fail_nonzero (operation : String) (code : ExceptionCode) (failed : code ≠ .none)
    (cause : Int) : (fail operation code cause runtime).1 ≠ 0 := by
  change code.error ≠ 0
  revert failed
  cases code <;> decide

theorem exceptionFromErrno_fails (errnoValue : Int) : exceptionFromErrno errnoValue ≠ .none := by
  unfold exceptionFromErrno
  repeat' split
  all_goals decide

theorem passes {check : Prop} [Decidable check] {failed rest : Int × Runtime}
    (nonzero : failed.1 ≠ 0) (worked : (if check then failed else rest).1 = 0) :
    ¬ check ∧ rest.1 = 0 ∧ (if check then failed else rest) = rest := by
  by_cases fails : check
  · rw [if_pos fails] at worked
    exact absurd worked nonzero
  · rw [if_neg fails] at worked ⊢
    exact ⟨fails, worked, rfl⟩

theorem loadFileToRam_content {report : LoadReport} {volume : Volume} {path : Text}
    {image : List UInt8} (read : loadFileToRam report volume path = .ok image) :
    volume path = some (.file image) := by
  unfold loadFileToRam at read
  split at read
  · cases read
  · split at read
    · cases read
    · cases read
    · next content there =>
      split at read
      · cases read
      · split at read
        · cases read
        · cases read
          exact there

/-- A load that works has read the file and added an application with its content,
which is the one of that name because there was none before. -/
theorem load_image {report : LoadReport} {volume : Volume} {path : Text}
    (loaded : (load report volume name path runtime).1 = 0) :
    ∃ content, volume path = some (.file content) ∧
      imageOf (load report volume name path runtime).2 name = some content := by
  unfold load at loaded ⊢
  -- each check in front of the read was passed, as a load that fails returns no zero
  obtain ⟨named, loaded, same⟩ := passes (fail_nonzero _ _ (by decide) _) loaded
  rw [same]
  obtain ⟨short, loaded, same⟩ := passes (fail_nonzero _ _ (by decide) _) loaded
  rw [same]
  obtain ⟨_, loaded, same⟩ := passes (fail_nonzero _ _ (by decide) _) loaded
  rw [same]
  obtain ⟨absent, loaded, same⟩ := passes (fail_nonzero _ _ (by decide) _) loaded
  rw [same]
  obtain ⟨_, loaded, same⟩ := passes (fail_nonzero _ _ (by decide) _) loaded
  rw [same]
  cases read : loadFileToRam report volume path with
  | error error =>
      rw [read] at loaded
      exact absurd loaded (fail_nonzero _ _ (exceptionFromErrno_fails _) _)
  | ok image =>
      refine ⟨image, loadFileToRam_content read, ?_⟩
      rw [read] at loaded
      dsimp only at loaded ⊢
      obtain ⟨_, loaded, same⟩ := passes (fail_nonzero _ _ (by decide) _) loaded
      rw [same]
      obtain ⟨_, loaded, same⟩ := passes (fail_nonzero _ _ (by decide) _) loaded
      rw [same]
      obtain ⟨_, loaded, same⟩ := passes (fail_nonzero _ _ (by decide) _) loaded
      rw [same]
      obtain ⟨_, loaded, same⟩ := passes (fail_nonzero _ _ (by decide) _) loaded
      rw [same]
      obtain ⟨_, loaded, same⟩ := passes (fail_nonzero _ _ (by decide) _) loaded
      rw [same]
      split at loaded
      · next failed => exact absurd loaded failed
      · next worked =>
        rw [if_neg worked]
        have kept : images (invokeCallback report.callbacks.init "app_init_ptr" "app_init"
            runtime).2 = images runtime := invokeCallback_images ..
        have unknown : imageOf runtime name = none := by
          rw [imageOf, Option.not_isSome_iff_eq_none.mp absent]
          rfl
        have whole : (copyBounded name : Buffer 32).text = name :=
          copyBounded_exact name (by omega)
        refine imageOf_added (by tauto) unknown ?_
        rw [← kept]
        simp only [images, clearLastException, List.map_append, List.map_cons, List.map_nil,
          whole]

end Images

end NeuroLink.AppRuntime
