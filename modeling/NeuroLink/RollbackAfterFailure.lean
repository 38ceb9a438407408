import NeuroLink.RuntimeFrame
import NeuroLink.SnapshotView
import NeuroLink.UpdateReplies

/-!
Rolling back a failed update. The handler unloads the application first, and goes
on only when that works or reports `ENOENT`. The runtime never reports `ENOENT`: its
errors are exception codes, so an application that is not loaded stops the rollback.
-/

namespace NeuroLink.RollbackAfterFailure

open CText Errno EffectProgram MemoryProgram AppRuntime RuntimeFrame UpdateManager UpdateService
  UpdateWorld UpdateReplies

/-! When the runtime lets go of an application. -/

/-- The results left over once a stop callback has worked: it is called once by
stop, and again by unload if it failed. -/
def afterStop (results : List Int) : Option (List Int) :=
  if results.headD 0 = 0 then some results.tail
  else if results.tail.headD 0 = 0 then some results.tail.tail
  else none

def LetsGo (app : App) (results : List Int) : Prop :=
  match app.state with
  | .running | .suspended =>
      callbackAddrIsValid app.callbacks.stop ∧ callbackAddrIsValid app.callbacks.deinit ∧
        ∃ left, afterStop results = some left ∧ left.headD 0 = 0
  | .initialized => callbackAddrIsValid app.callbacks.deinit ∧ results.headD 0 = 0
  | .loaded | .unloaded => True

/-- The application is in the runtime and can be unloaded. -/
def Unloadable (appId : Text) (runtime : Runtime) : Prop :=
  ∃ app, findApp runtime appId = some app ∧ LetsGo app runtime.callbackResults

theorem error_below (code : ExceptionCode) (failed : code ≠ .none) :
    code.error ≠ 0 ∧ code.error ≠ -enoent := by
  revert failed
  cases code <;> decide

def Stops (ret : Int) : Prop := ret ≠ 0 ∧ ret ≠ -enoent

def Active (app : App) : Prop := app.state = .running ∨ app.state = .suspended

/-- The runtime finds the application, and these callback results are pending. -/
structure Shows (runtime : Runtime) (name : Text) (app : App) (results : List Int) : Prop where
  found : findApp runtime name = some app
  pending : runtime.callbackResults = results

def halted (app : App) : App := { app with state := .initialized, autoSuspended := false }

section Runtime

variable {runtime : Runtime} {name : Text} {app : App} {results : List Int}

theorem Shows.cleared (shows : Shows runtime name app results) :
    Shows (clearLastException runtime) name app results :=
  ⟨shows.found, shows.pending⟩

theorem fail_stops (operation : String) (code : ExceptionCode) (failed : code ≠ .none)
    (cause : Int) : Stops (fail operation code cause runtime).1 :=
  error_below code failed

theorem Shows.failed (shows : Shows runtime name app results) (operation : String)
    (code : ExceptionCode) (cause : Int) :
    Shows (fail operation code cause runtime).2 name app results :=
  ⟨shows.found, shows.pending⟩

theorem invokeCallback_cases (shows : Shows runtime name app results) (address : Nat)
    (pointerName callbackName : String) :
    let answer := invokeCallback address pointerName callbackName runtime
    (callbackAddrIsValid address ∧ results.headD 0 = 0 ∧ answer.1 = 0 ∧
      Shows answer.2 name app results.tail) ∨
    (callbackAddrIsValid address ∧ results.headD 0 ≠ 0 ∧ Stops answer.1 ∧
      Shows answer.2 name app results.tail) ∨
    (¬ callbackAddrIsValid address ∧ Stops answer.1 ∧ Shows answer.2 name app results) := by
  unfold invokeCallback
  by_cases valid : callbackAddrIsValid address
  · rw [if_neg (by simp [valid])]
    dsimp only [invoke]
    rw [shows.pending]
    have called : Shows { runtime with callbackResults := results.tail } name app results.tail :=
      ⟨shows.found, rfl⟩
    by_cases worked : results.headD 0 = 0
    · rw [if_neg (not_not_intro worked)]
      exact .inl ⟨valid, worked, rfl, called⟩
    · rw [if_pos worked]
      exact .inr (.inl ⟨valid, worked, fail_stops _ _ (by decide) _, called.failed _ _ _⟩)
  · rw [if_pos valid]
    exact .inr (.inr ⟨valid, fail_stops _ _ (by decide) _, shows.failed _ _ _⟩)

theorem stopInternal_cases (shows : Shows runtime name app results) :
    let answer := stopInternal app runtime
    (¬ Active app ∧ answer.1 = 0 ∧ Shows answer.2 name app results) ∨
    (Active app ∧ callbackAddrIsValid app.callbacks.stop ∧ results.headD 0 = 0 ∧
      answer.1 = 0 ∧ Shows answer.2 name (halted app) results.tail) ∨
    (Active app ∧ callbackAddrIsValid app.callbacks.stop ∧ results.headD 0 ≠ 0 ∧
      Stops answer.1 ∧ Shows answer.2 name app results.tail) ∨
    (Active app ∧ ¬ callbackAddrIsValid app.callbacks.stop ∧ Stops answer.1 ∧
      Shows answer.2 name app results) := by
  unfold stopInternal
  by_cases active : Active app
  · rw [if_neg (by unfold Active at active; tauto)]
    rcases invokeCallback_cases shows app.callbacks.stop "app_stop_ptr" "app_stop" with
      ⟨valid, worked, ret, called⟩ | ⟨valid, refused, ret, called⟩ | ⟨invalid, ret, called⟩
    · refine .inr (.inl ⟨active, valid, worked, ?_⟩)
      dsimp only
      rw [if_neg (not_not_intro ret)]
      refine ⟨rfl, ?_, called.pending⟩
      rw [(findApp_named shows.found).2]
      exact findApp_setApp (fun _ => rfl) called.found
    · refine .inr (.inr (.inl ⟨active, valid, refused, ?_⟩))
      dsimp only
      rw [if_pos ret.1]
      exact ⟨ret, called⟩
    · refine .inr (.inr (.inr ⟨active, invalid, ?_⟩))
      dsimp only
      rw [if_pos ret.1]
      exact ⟨ret, called⟩
  · rw [if_pos (by unfold Active at active; tauto)]
    exact .inl ⟨active, rfl, shows⟩

theorem deinitInternal_cases (shows : Shows runtime name app results) :
    (app.state ≠ .initialized ∧ (deinitInternal app runtime).1 = 0) ∨
    (app.state = .initialized ∧
      ((callbackAddrIsValid app.callbacks.deinit ∧ results.headD 0 = 0 ∧
        (deinitInternal app runtime).1 = 0) ∨
      (¬ (callbackAddrIsValid app.callbacks.deinit ∧ results.headD 0 = 0) ∧
        Stops (deinitInternal app runtime).1))) := by
  unfold deinitInternal
  by_cases initialized : app.state = .initialized
  · refine .inr ⟨initialized, ?_⟩
    rw [if_neg (by simp [initialized])]
    rcases invokeCallback_cases shows app.callbacks.deinit "app_deinit_ptr" "app_deinit" with
      ⟨valid, worked, ret, _⟩ | ⟨_, refused, ret, _⟩ | ⟨invalid, ret, _⟩
    · refine .inl ⟨valid, worked, ?_⟩
      dsimp only
      rw [if_neg (not_not_intro ret)]
    · refine .inr ⟨fun both => refused both.2, ?_⟩
      dsimp only
      rw [if_pos ret.1]
      exact ret
    · refine .inr ⟨fun both => invalid both.1, ?_⟩
      dsimp only
      rw [if_pos ret.1]
      exact ret
  · rw [if_pos initialized]
    exact .inl ⟨initialized, rfl⟩

def Drops (app : App) (results : List Int) : Prop :=
  (Active app → callbackAddrIsValid app.callbacks.stop ∧ results.headD 0 = 0 ∧
    callbackAddrIsValid app.callbacks.deinit ∧ results.tail.headD 0 = 0) ∧
  (app.state = .initialized → callbackAddrIsValid app.callbacks.deinit ∧ results.headD 0 = 0)

theorem active_not_initialized (active : Active app) : app.state ≠ .initialized := by
  rcases active with running | suspended <;> simp [*]

theorem unload_cases (shows : Shows runtime name app results) :
    (Drops app results ∧ (unload name runtime).1 = 0) ∨
      (¬ Drops app results ∧ Stops (unload name runtime).1) := by
  unfold unload
  rw [if_neg (findApp_named shows.found).1, shows.found]
  dsimp only
  -- the stop may have nothing to do, work, fail in its callback, or find the callback invalid
  rcases stopInternal_cases shows with
    ⟨idle, ret, left⟩ | ⟨active, valid, worked, ret, left⟩ |
    ⟨active, _, refused, ret, _⟩ | ⟨active, invalid, ret, _⟩
  · rw [if_neg (not_not_intro ret), left.found]
    dsimp only
    rcases deinitInternal_cases left with
      ⟨other, done⟩ | ⟨same, ⟨valid, worked, done⟩ | ⟨broken, stops⟩⟩
    · rw [if_neg (not_not_intro done)]
      exact .inl ⟨⟨fun active => absurd active idle, fun same => absurd same other⟩, rfl⟩
    · rw [if_neg (not_not_intro done)]
      exact .inl ⟨⟨fun active => absurd active idle, fun _ => ⟨valid, worked⟩⟩, rfl⟩
    · rw [if_pos stops.1]
      exact .inr ⟨fun drops => broken (drops.2 same), stops⟩
  · rw [if_neg (not_not_intro ret), left.found]
    dsimp only
    have running := active_not_initialized active
    rcases deinitInternal_cases left with
      ⟨other, _⟩ | ⟨_, ⟨deinitValid, done, ret⟩ | ⟨broken, stops⟩⟩
    · exact absurd rfl other
    · rw [if_neg (not_not_intro ret)]
      exact .inl ⟨⟨fun _ => ⟨valid, worked, deinitValid, done⟩,
        fun same => absurd same running⟩, rfl⟩
    · rw [if_pos stops.1]
      exact .inr ⟨fun drops => broken ⟨(drops.1 active).2.2.1, (drops.1 active).2.2.2⟩, stops⟩
  · rw [if_pos ret.1]
    exact .inr ⟨fun drops => refused (drops.1 active).2.1, ret⟩
  · rw [if_pos ret.1]
    exact .inr ⟨fun drops => invalid (drops.1 active).1, ret⟩

theorem letsGo_active (active : Active app) : LetsGo app results ↔
    callbackAddrIsValid app.callbacks.stop ∧ callbackAddrIsValid app.callbacks.deinit ∧
      ∃ left, afterStop results = some left ∧ left.headD 0 = 0 := by
  unfold LetsGo
  rcases active with running | suspended
  · rw [running]
  · rw [suspended]

theorem letsGo_idle (idle : ¬ Active app) : LetsGo app results ↔ Drops app results := by
  unfold LetsGo Drops Active at *
  cases state : app.state <;> simp_all

/-- The state after `app_runtime_stop`, whether it worked or not. -/
theorem stop_shows (shows : Shows runtime name app results) :
    ∃ left rest, Shows (stop name runtime).2 name left rest ∧
      (LetsGo app results ↔ Drops left rest) := by
  unfold stop
  rw [if_neg (findApp_named shows.found).1, shows.found]
  dsimp only
  rcases stopInternal_cases shows with
    ⟨idle, ret, left⟩ | ⟨active, valid, worked, ret, left⟩ |
    ⟨active, valid, refused, ret, left⟩ | ⟨active, invalid, ret, left⟩
  · rw [if_neg (not_not_intro ret)]
    exact ⟨app, results, left.cleared, letsGo_idle idle⟩
  · rw [if_neg (not_not_intro ret)]
    refine ⟨halted app, results.tail, left.cleared, (letsGo_active active).trans ?_⟩
    rw [afterStop, if_pos worked]
    constructor
    · rintro ⟨_, deinitValid, _, same, done⟩
      cases same
      exact ⟨fun again => absurd rfl (active_not_initialized again),
        fun _ => ⟨deinitValid, done⟩⟩
    · intro drops
      exact ⟨valid, (drops.2 rfl).1, results.tail, rfl, (drops.2 rfl).2⟩
  · rw [if_pos ret.1]
    refine ⟨app, results.tail, left, (letsGo_active active).trans ?_⟩
    rw [afterStop, if_neg refused]
    constructor
    · rintro ⟨_, deinitValid, rest, again, done⟩
      split at again
      · next worked =>
        cases again
        exact ⟨fun _ => ⟨valid, worked, deinitValid, done⟩,
          fun same => absurd same (active_not_initialized active)⟩
      · cases again
    · intro drops
      obtain ⟨_, worked, deinitValid, done⟩ := drops.1 active
      exact ⟨valid, deinitValid, results.tail.tail, if_pos worked, done⟩
  · rw [if_pos ret.1]
    refine ⟨app, results, left, ?_⟩
    exact ⟨fun lets => absurd ((letsGo_active active).mp lets).1 invalid,
      fun drops => absurd (drops.1 active).1 invalid⟩

theorem unload_after_stop (name : Text) (runtime : Runtime) :
    (Unloadable name runtime ∧ (unload name (stop name runtime).2).1 = 0) ∨
      (¬ Unloadable name runtime ∧ Stops (unload name (stop name runtime).2).1) := by
  cases found : findApp runtime name with
  | none =>
      have missing : ¬ Unloadable name runtime := by
        rintro ⟨app, present, _⟩
        rw [found] at present
        cases present
      refine .inr ⟨missing, ?_⟩
      have absent : findApp (stop name runtime).2 name = none := by
        unfold stop
        rw [found]
        split <;> exact found
      unfold unload
      rw [absent]
      split <;> exact fail_stops _ _ (by decide) _
  | some app =>
      have present : Shows runtime name app runtime.callbackResults := ⟨found, rfl⟩
      obtain ⟨left, rest, shows, same⟩ := stop_shows present
      have unloadable : Unloadable name runtime ↔ Drops left rest := by
        rw [← same, Unloadable, found]
        simp
      rw [unloadable]
      exact unload_cases shows

end Runtime

/-! The handler on a failed entry. -/

/-- The calls the rollback depends on work: the lease check passes, the seed is
saved, and what is loaded and started is loaded and started. -/
def Favourable : Event Effect EffectReply World → Prop
  | ⟨.requireResource _ _, _, reply, _⟩ => reply = (0 : Int)
  | ⟨.saveSeed _, _, reply, _⟩ => reply = (0 : Int)
  | ⟨.runtimeLoad _ _, _, reply, _⟩ => reply = (0 : Int)
  | ⟨.runtimeStart _ _, _, reply, _⟩ => reply = (0 : Int)
  | _ => True

instance (event : Event Effect EffectReply World) : Decidable (Favourable event) := by
  unfold Favourable
  split <;> infer_instance

instance {Result : Type} (outcomes : List Outcome)
    (program : Program Effect EffectReply Result) (world : World) :
    Decidable (Meets machine Favourable outcomes program world) := by
  unfold Meets
  infer_instance

/-- The request is answered with a success, and the entry is rolled back. -/
def RolledBack (before : Memory) (appId : Text) (after : Memory) : Prop :=
  (∃ action reply, after.replies = before.replies ++ [.accepted action reply]) ∧
    InState .rolledBack (entryFor after.updates appId)

section Handler

variable {config : Config} {request : Request} {before memory after : Memory} {world : World}
  {appId : Text} {missed : Option Entry → Prop}

theorem ended_rolledBack (ended : Ended before appId (InState .rolledBack) (fun _ => False) after) :
    RolledBack before appId after := by
  obtain ⟨answer, replies, truth⟩ := ended.replied
  cases answer with
  | accepted action reply => exact ⟨⟨action, reply, replies⟩, truth⟩
  | error message statusCode => exact truth.elim

theorem ended_not_rolledBack (ended : Ended before appId (fun _ => False) missed after) :
    ¬ RolledBack before appId after := by
  rintro ⟨⟨action, reply, accepted⟩, _⟩
  obtain ⟨answer, replies, truth⟩ := ended.replied
  rw [replies, List.append_cancel_left_eq] at accepted
  cases accepted
  exact truth

theorem completes {entry : Entry} {goal : Prop} (reachable : goal)
    (during : During before request.appId.text (some entry) memory) (settled : Settled before)
    (named : request.appId.text ≠ []) (rolling : entry.state = .rollingBack)
    (detail : String) :
    Keeps machine Favourable (fun _ => True)
      (fun _ after _ => RolledBack before request.appId.text after ↔ goal)
      (completeRollback config request detail) memory world := by
  have ends : Ensures (fun _ after => Ended before request.appId.text (InState .rolledBack)
      (fun _ => False) after) (completeRollback config request detail) memory :=
    completeRollback_ends during settled named rolling detail
  refine (ends.keeps machine Favourable world).weaken (fun _ => id) fun _ _ _ _ ended => ?_
  exact iff_of_true (ended_rolledBack ended) reachable

theorem runtimeStop_keeps {rest : Int → ServiceM Unit} {post : Unit → Memory → World → Prop}
    (continues : Keeps machine Favourable (fun _ => True) post
      (rest (stop appId world.runtime).1) memory
      { world with runtime := (stop appId world.runtime).2 }) :
    Keeps machine Favourable (fun _ => True) post
      ((perform (.runtimeStop appId) : ServiceM Int) >>= rest) memory world :=
  perform_keeps (.runtimeStop appId) trivial fun _ _ => ⟨trivial, continues⟩

theorem runtimeUnload_keeps {rest : Int → ServiceM Unit} {post : Unit → Memory → World → Prop}
    (continues : Keeps machine Favourable (fun _ => True) post
      (rest (unload appId world.runtime).1) memory
      { world with runtime := (unload appId world.runtime).2 }) :
    Keeps machine Favourable (fun _ => True) post
      ((perform (.runtimeUnload appId) : ServiceM Int) >>= rest) memory world :=
  perform_keeps (.runtimeUnload appId) trivial fun _ _ => ⟨trivial, continues⟩

/-- The handler from the unload on: it completes exactly when the application can
be unloaded. -/
theorem rollBack_restores {entry : Entry}
    (during : During before request.appId.text (some entry) memory) (settled : Settled before)
    (named : request.appId.text ≠ []) (rolling : entry.state = .rollingBack) :
    Keeps machine Favourable (fun _ => True)
      (fun _ after _ => RolledBack before request.appId.text after ↔
        Unloadable request.appId.text world.runtime)
      (rollBack config request) memory world := by
  unfold rollBack
  refine runtimeStop_keeps (runtimeUnload_keeps ?_)
  -- an unload that works goes on to the stable file; one that does not ends in an error
  rcases unload_after_stop request.appId.text world.runtime with
    ⟨unloadable, unloaded⟩ | ⟨loaded, stops⟩
  · rw [if_neg (fun both => both.1 unloaded)]
    refine perform_keeps (.removeAppCommands _) trivial fun _ _ => ⟨trivial, inspect_keeps ?_⟩
    dsimp only
    split
    · have restored : ∀ world, Keeps machine Favourable (fun _ => True)
          (fun ret kept _ => ret = 0 ∧ kept = memory)
          (restoreStable request.appId.text
            (stableRefFor memory.updates request.appId.text)) memory world := by
        intro world
        refine perform_keeps (.runtimeLoad ..) trivial fun outcome loads => ⟨trivial, ?_⟩
        have zero : (step outcome (.runtimeLoad request.appId.text
            (stableRefFor memory.updates request.appId.text)) world).1 = (0 : Int) := loads
        rw [if_pos zero]
        exact call_keeps (.runtimeStart ..) trivial fun _ starts => ⟨trivial, starts, rfl⟩
      refine (restored _).seq fun ret kept _ _ outcome => ?_
      rw [outcome.1, outcome.2, if_neg (by simp)]
      refine perform_keeps (.registerAppCallbackCommand _) trivial fun _ _ => ⟨trivial, ?_⟩
      exact artifacts_keeps (completes unloadable (during.stored _) settled named rolling _)
    · exact artifacts_keeps (completes unloadable (during.stored _) settled named rolling _)
  · rw [if_pos (And.intro stops.1 stops.2)]
    have ends : Ensures (fun _ after => Ended before request.appId.text (fun _ => False)
        (KeptOrFailed before request.appId.text) after)
        (failRollback request.appId.text "rollback unload failed" "unload failed"
          "rollback unload failed") memory :=
      failRollback_ends during settled named rolling _ _ _
    refine (ends.keeps machine Favourable _).weaken (fun _ => id) fun _ _ _ _ ended => ?_
    exact iff_of_false (ended_not_rolledBack ended) loaded

theorem persist_saves (initialized : memory.seedInitialized = true)
    (fits : (SeedSnapshot.buildSnapshot memory.updates memory.artifacts).isOk) :
    Keeps machine Favourable (fun _ => True)
      (fun ret kept left => ret = 0 ∧ kept = memory ∧ left.runtime = world.runtime)
      persistRecoverySeedSnapshot memory world := by
  have ready : Keeps machine Favourable (fun _ => True)
      (fun ret kept left => ret = 0 ∧ kept = memory ∧ left = world)
      ensureRecoverySeedInitialized memory world := by
    refine inspect_keeps ?_
    rw [if_pos initialized]
    exact .pure trivial ⟨rfl, rfl, rfl⟩
  refine ready.seq fun ret kept left _ done => ?_
  rw [done.1, done.2.1, done.2.2, if_neg (by simp)]
  refine inspect_keeps ?_
  cases built : SeedSnapshot.buildSnapshot memory.updates memory.artifacts with
  | error error =>
      rw [built] at fits
      cases fits
  | ok snapshot =>
      refine call_keeps (.saveSeed snapshot) trivial fun outcome saves => ?_
      refine ⟨trivial, saves, rfl, ?_⟩
      dsimp only [step]
      split <;> rfl

theorem handleUpdateRollback_restores (settled : Settled memory)
    (failed : stateFor memory.updates request.appId.text = .failed)
    (fits : (SeedSnapshot.buildSnapshot memory.updates memory.artifacts).isOk) :
    Keeps machine Favourable (fun _ => True)
      (fun _ after _ => RolledBack memory request.appId.text after ↔
        Unloadable request.appId.text world.runtime)
      (handleUpdateRollback config request) memory world := by
  obtain ⟨entry, named, present, failed⟩ := stateFor_entry (by decide) failed
  unfold handleUpdateRollback
  have held : ∀ resource metadata, Keeps machine Favourable (fun _ => True)
      (fun held kept left => held = true ∧ kept = memory ∧ left = world)
      (requireResourceLeaseOrReply resource metadata) memory world := by
    intro resource metadata
    refine perform_keeps (.requireResource ..) trivial fun outcome passes => ⟨trivial, ?_⟩
    have zero : (step outcome (.requireResource resource metadata) world).1 = (0 : Int) := passes
    rw [zero, if_neg (by decide), if_neg (by decide), if_neg (by simp)]
    exact .pure trivial ⟨rfl, rfl, rfl⟩
  refine (held _ _).seq fun held kept left _ outcome => ?_
  rw [outcome.1, outcome.2.1, outcome.2.2, if_neg (by simp)]
  refine updates_keeps ?_
  -- a failed update may be rolled back, and both transitions of the manager accept it
  have begins :
      (rollbackBegin memory.updates request.appId.text (requestReason request).text).1 = 0 ∧
      Rewrites request.appId.text (some { entry with
        state := .rollbackPending
        rollbackReason := copyBounded (requestReason request).text }) memory.updates
        (rollbackBegin memory.updates request.appId.text (requestReason request).text).2 :=
    amend_accepts settled.unique named present (rollbackRefuses_none.mpr (.inr failed)) rfl
  have room : (SeedSnapshot.buildSnapshot
      (rollbackBegin memory.updates request.appId.text (requestReason request).text).2
      memory.artifacts).isOk := by
    rw [SeedSnapshot.buildSnapshot_fits]
    · exact fits
    · exact congrArg (· ++ _) (amend_ids _ _ _ fun _ => rfl)
  have initialized : ({ memory with updates := (rollbackBegin memory.updates request.appId.text
      (requestReason request).text).2 } : Memory).seedInitialized = true := settled.initialized
  rw [begins.1, if_neg (by simp)]
  refine (persist_saves initialized room).seq fun saved kept left _ outcome => ?_
  rw [outcome.1, outcome.2.1, ← outcome.2.2, if_neg (by simp)]
  refine updates_keeps ?_
  have marks : (rollbackMarkInProgress (rollbackBegin memory.updates request.appId.text
        (requestReason request).text).2 request.appId.text).1 = 0 ∧
      Rewrites request.appId.text (some { entry with
        state := .rollingBack
        rollbackReason := copyBounded (requestReason request).text }) _
        (rollbackMarkInProgress (rollbackBegin memory.updates request.appId.text
          (requestReason request).text).2 request.appId.text).2 :=
    amend_accepts begins.2.unique named begins.2.own (onlyFrom_accepts (by simp)) rfl
  rw [marks.1, if_neg (by simp)]
  exact rollBack_restores ⟨settled.initialized, begins.2.trans marks.2, rfl⟩ settled named rfl

end Handler

/-- A rollback of a failed update, with the lease check, the saves and what it
restores working, completes if and only if the application is in the runtime and
its callbacks let the runtime unload it. -/
theorem failed_rollback_iff (config : Config) (request : Request) (memory : Memory)
    (world : World) (outcomes : List Outcome) (settled : Settled memory)
    (rollback : request.action = lit "rollback" ∨ request.action = lit "recover")
    (failed : stateFor memory.updates request.appId.text = .failed)
    (fits : (SeedSnapshot.buildSnapshot memory.updates memory.artifacts).isOk)
    (favourable : Meets machine Favourable outcomes (handleAction config request memory) world) :
    RolledBack memory request.appId.text
        (run machine outcomes (handleAction config request memory) world).1.2 ↔
      Unloadable request.appId.text world.runtime := by
  have handler : handleAction config request = handleUpdateRollback config request := by
    unfold handleAction
    rcases rollback with named | named
    · rw [named]
      rfl
    · rw [named]
      rfl
  rw [handler] at favourable ⊢
  exact (handleUpdateRollback_restores settled failed fits).run outcomes favourable

/-- The service after a first prepare that names no artifact. -/
def demoFailed : Device :=
  after demoConfig demoDevice [.serve none [], .serve (some (demoRequest "prepare" "")) []]

theorem demoFailed_settled : Settled demoFailed.memory :=
  have ended := @handleAction_answered demoConfig (demoRequest "prepare" "") _ settled_init
  (ended.run machine [] demoDevice.world).1

theorem demoFailed_rollback_iff :
    RolledBack demoFailed.memory (lit "pump") (run machine []
        (handleAction demoConfig (demoRequest "rollback" "") demoFailed.memory)
        demoFailed.world).1.2 ↔
      Unloadable (lit "pump") demoFailed.world.runtime :=
  failed_rollback_iff demoConfig (demoRequest "rollback" "") demoFailed.memory demoFailed.world []
    demoFailed_settled (.inl rfl) (by decide +kernel) (by decide +kernel) (by decide +kernel)

/-- An application that the runtime never had cannot be rolled back, although every
call the rollback depends on works: the error of its unload is not the one the
handler lets pass. -/
theorem demoFailed_stays_failed :
    let request := demoRequest "rollback" ""
    let rolled := after demoConfig demoFailed [.serve (some request) []]
    stateFor demoFailed.memory.updates (lit "pump") = .failed ∧
      stableRefFor demoFailed.memory.updates (lit "pump") = [] ∧
      Meets machine Favourable [] (serve demoConfig (some request) demoFailed.memory)
        demoFailed.world ∧
      rolled.memory.replies =
        demoFailed.memory.replies ++ [.error (lit "rollback unload failed") 500] ∧
      stateFor rolled.memory.updates (lit "pump") = .failed := by
  decide +kernel

end NeuroLink.RollbackAfterFailure
