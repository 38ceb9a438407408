import NeuroLink.RuntimeCapacity

/-!
Which applications a call of the runtime leaves as they are. A call is about the
application it names; a start may suspend one other to make room.
-/

namespace NeuroLink.RuntimeFrame

open CText FileSystem AppRuntime RuntimeCapacity

section Find

variable {runtime left right : Runtime} {name other : Text} {app : App} {edit : App → App}

theorem findApp_apps (same : left.apps = right.apps) (name : Text) :
    findApp left name = findApp right name := by
  unfold findApp
  rw [same]

theorem findApp_named (found : findApp runtime name = some app) :
    name ≠ [] ∧ app.name.text = name := by
  unfold findApp at found
  split at found
  · cases found
  · next named => exact ⟨named, by simpa using List.find?_some found⟩

theorem findApp_setApp (kept : ∀ app, (edit app).name = app.name)
    (found : findApp runtime name = some app) :
    findApp (setApp runtime name edit) name = some (edit app) := by
  have named := (findApp_named found).1
  rw [findApp, if_neg named] at found ⊢
  have amended : ∀ apps : List App, apps.find? (fun app => app.name.text = name) = some app →
      (amendApp name edit apps).find? (fun app => app.name.text = name) = some (edit app) := by
    intro apps
    induction apps with
    | nil => intro missing; cases missing
    | cons first rest ih =>
        intro there
        by_cases here : first.name.text = name
        · simp only [List.find?_cons, here, decide_true] at there
          cases there
          simp [amendApp, here, kept]
        · simp only [List.find?_cons, here, decide_false] at there
          simp [amendApp, here, ih there]
  exact amended runtime.apps found

theorem findApp_setApp_other (kept : ∀ app, (edit app).name = app.name) (apart : other ≠ name) :
    findApp (setApp runtime name edit) other = findApp runtime other := by
  have same : ∀ apps : List App,
      (amendApp name edit apps).find? (fun app => app.name.text = other) =
        apps.find? fun app => app.name.text = other := by
    intro apps
    induction apps with
    | nil => rfl
    | cons first rest ih =>
        by_cases here : first.name.text = name
        · have first_apart : first.name.text ≠ other := fun own => apart (own.symm.trans here)
          have edit_apart : (edit first).name.text ≠ other := by
            rw [kept]
            exact first_apart
          simp [amendApp, here, apart.symm, edit_apart]
        · simp only [amendApp, if_neg here, List.find?_cons, ih]
  unfold findApp
  split
  · rfl
  · exact same runtime.apps

theorem findApp_dropApp_other (apart : other ≠ name) :
    findApp { runtime with apps := dropApp name runtime.apps } other = findApp runtime other := by
  have same : ∀ apps : List App, (dropApp name apps).find? (fun app => app.name.text = other) =
      apps.find? fun app => app.name.text = other := by
    intro apps
    induction apps with
    | nil => rfl
    | cons first rest ih =>
        by_cases here : first.name.text = name
        · have first_apart : first.name.text ≠ other := fun own => apart (own.symm.trans here)
          simp [dropApp, here, apart.symm]
        · simp only [dropApp, if_neg here, List.find?_cons, ih]
  unfold findApp
  split
  · rfl
  · exact same runtime.apps

end Find

section Calls

variable {runtime : Runtime} {name other : Text} {app : App}

theorem invokeCallback_findApp (address : Nat) (pointerName callbackName : String) (name : Text) :
    findApp (invokeCallback address pointerName callbackName runtime).2 name =
      findApp runtime name :=
  findApp_apps (invokeCallback_quieter runtime address pointerName callbackName).1 name

def preempted (request : App) (runtime : Runtime) : Option App :=
  if runningCount runtime < runtime.policy.maxRunningApps ∨
      ¬ runtime.policy.allowPreemptiveSuspend then none
  else (preemptionCandidate request runtime.apps none).filter fun candidate =>
    callbackAddrIsValid candidate.callbacks.suspend ∧ runtime.callbackResults.headD 0 = 0

def startPreempts (name : Text) (runtime : Runtime) : Option App :=
  ((findApp runtime name).filter fun app => app.state = .initialized).bind fun app =>
    preempted app runtime

theorem preemptionCandidate_other {request : App} {apps : List App} {candidate : Option App}
    (chosen : preemptionCandidate request apps candidate = some app)
    (start : ∀ best, candidate = some best → best.name ≠ request.name) :
    app.name ≠ request.name := by
  induction apps generalizing candidate with
  | nil => exact start app chosen
  | cons first rest ih =>
      rw [preemptionCandidate] at chosen
      split at chosen
      · exact ih chosen start
      · next passed =>
        split at chosen
        · refine ih chosen ?_
          rintro best ⟨⟩
          exact fun same => passed (.inl same)
        · exact ih chosen start

theorem suspendInternal_frame (autoSuspend : Bool)
    (spared : callbackAddrIsValid app.callbacks.suspend ∧ runtime.callbackResults.headD 0 = 0 →
      app.name.text ≠ other) :
    findApp (suspendInternal app autoSuspend runtime).2 other = findApp runtime other := by
  unfold suspendInternal
  split
  · rfl
  by_cases works : callbackAddrIsValid app.callbacks.suspend ∧ runtime.callbackResults.headD 0 = 0
  · have apart := spared works
    dsimp only
    split
    · exact invokeCallback_findApp _ _ _ _
    · refine (findApp_setApp_other ?_ apart.symm).trans (invokeCallback_findApp _ _ _ _)
      exact fun _ => rfl
  · have failed : (invokeCallback app.callbacks.suspend "app_suspend_ptr" "app_suspend"
        runtime).1 ≠ 0 := by
      unfold invokeCallback
      by_cases valid : callbackAddrIsValid app.callbacks.suspend
      · have refused : runtime.callbackResults.headD 0 ≠ 0 := fun zero => works ⟨valid, zero⟩
        rw [if_neg (by simp [valid])]
        dsimp only [invoke]
        rw [if_pos refused]
        exact fail_nonzero _ _ (by decide) _
      · rw [if_pos valid]
        exact fail_nonzero _ _ (by decide) _
    dsimp only
    rw [if_pos failed]
    exact invokeCallback_findApp _ _ _ _

theorem ensureRunningSlot_frame {request : App}
    (spared : ∀ candidate, preempted request runtime = some candidate →
      candidate.name.text ≠ other) :
    findApp (ensureRunningSlot request runtime).2 other = findApp runtime other := by
  unfold ensureRunningSlot
  split
  · rfl
  next full =>
  split
  · rfl
  next allowed =>
  cases chosen : preemptionCandidate request runtime.apps none with
  | none => rfl
  | some candidate =>
      refine suspendInternal_frame true fun works => spared candidate ?_
      unfold preempted
      rw [if_neg (not_or.mpr ⟨full, allowed⟩), chosen]
      exact Option.filter_eq_some_iff.mpr ⟨rfl, decide_eq_true works⟩

theorem ensureRunningSlot_own {request : App} :
    findApp (ensureRunningSlot request runtime).2 request.name.text =
      findApp runtime request.name.text := by
  refine ensureRunningSlot_frame fun candidate chosen same => ?_
  unfold preempted at chosen
  split at chosen
  · cases chosen
  · have picked := (Option.filter_eq_some_iff.mp chosen).1
    exact preemptionCandidate_other picked (by simp) (Buffer.text_injective same)

theorem start_frame (startArgs : Text) (apart : other ≠ name)
    (spared : ∀ candidate, startPreempts name runtime = some candidate →
      candidate.name.text ≠ other) :
    findApp (start name startArgs runtime).2 other = findApp runtime other := by
  unfold start
  split
  · rfl
  cases found : findApp runtime name with
  | none => rfl
  | some app =>
      dsimp only
      split
      · rfl
      next ready =>
      have slot : findApp (ensureRunningSlot app runtime).2 other = findApp runtime other := by
        refine ensureRunningSlot_frame fun candidate chosen => spared candidate ?_
        rw [startPreempts, found, Option.filter_some, if_pos (by simpa using ready)]
        exact chosen
      generalize (if app.callbacks.startV2 ≠ 0 then app.callbacks.startV2
        else app.callbacks.startLegacy) = address
      generalize (if app.callbacks.startV2 ≠ 0 then "app_start_v2_ptr" else "app_start_ptr") =
        pointerName
      split
      · exact slot
      split
      · exact slot
      split
      · exact slot
      split
      · exact (invokeCallback_findApp _ _ _ _).trans slot
      · refine (findApp_setApp_other ?_ apart).trans ((invokeCallback_findApp _ _ _ _).trans slot)
        exact fun _ => rfl

theorem start_own (name startArgs : Text) (runtime : Runtime) :
    ((start name startArgs runtime).1 = 0 ∧
      ∃ app, findApp (start name startArgs runtime).2 name = some app ∧ app.state = .running) ∨
    ((start name startArgs runtime).1 ≠ 0 ∧
      findApp (start name startArgs runtime).2 name = findApp runtime name) := by
  unfold start
  split
  · exact .inr ⟨fail_nonzero _ _ (by decide) _, rfl⟩
  cases found : findApp runtime name with
  | none => exact .inr ⟨fail_nonzero _ _ (by decide) _, found⟩
  | some app =>
      dsimp only
      split
      · exact .inr ⟨fail_nonzero _ _ (by decide) _, found⟩
      have slot : findApp (ensureRunningSlot app runtime).2 name = some app := by
        have own := @ensureRunningSlot_own runtime app
        rw [(findApp_named found).2] at own
        exact own.trans found
      generalize (if app.callbacks.startV2 ≠ 0 then app.callbacks.startV2
        else app.callbacks.startLegacy) = address
      generalize (if app.callbacks.startV2 ≠ 0 then "app_start_v2_ptr" else "app_start_ptr") =
        pointerName
      split
      · next refused => exact .inr ⟨refused, slot⟩
      split
      · exact .inr ⟨fail_nonzero _ _ (by decide) _, slot⟩
      split
      · exact .inr ⟨fail_nonzero _ _ (exceptionFromErrno_fails _) _, slot⟩
      split
      · next failed => exact .inr ⟨failed, (invokeCallback_findApp _ _ _ _).trans slot⟩
      · have there := (invokeCallback_findApp address pointerName "app_start" name).trans slot
        exact .inl ⟨rfl, _, findApp_setApp (by intro _; rfl) there, rfl⟩

theorem stopInternal_frame (apart : app.name.text ≠ other) :
    findApp (stopInternal app runtime).2 other = findApp runtime other := by
  unfold stopInternal
  split
  · rfl
  dsimp only
  split
  · exact invokeCallback_findApp _ _ _ _
  · refine (findApp_setApp_other ?_ apart.symm).trans (invokeCallback_findApp _ _ _ _)
    exact fun _ => rfl

theorem deinitInternal_frame (apart : app.name.text ≠ other) :
    findApp (deinitInternal app runtime).2 other = findApp runtime other := by
  unfold deinitInternal
  split
  · rfl
  dsimp only
  split
  · exact invokeCallback_findApp _ _ _ _
  · refine (findApp_setApp_other ?_ apart.symm).trans (invokeCallback_findApp _ _ _ _)
    exact fun _ => rfl

theorem stop_frame (apart : other ≠ name) :
    findApp (stop name runtime).2 other = findApp runtime other := by
  unfold stop
  split
  · rfl
  cases found : findApp runtime name with
  | none => rfl
  | some app =>
      have own := (findApp_named found).2
      have stays : findApp (stopInternal app runtime).2 other = findApp runtime other :=
        stopInternal_frame fun same => apart (same.symm.trans own)
      dsimp only
      split
      · exact stays
      · exact stays

theorem stopInternal_own (found : findApp runtime name = some app) :
    ((stopInternal app runtime).1 = 0 ∧
      ∃ app', findApp (stopInternal app runtime).2 name = some app' ∧ app'.state ≠ .running) ∨
    ((stopInternal app runtime).1 ≠ 0 ∧
      findApp (stopInternal app runtime).2 name = findApp runtime name) := by
  have own := (findApp_named found).2
  have there := (invokeCallback_findApp app.callbacks.stop "app_stop_ptr" "app_stop" name).trans
    found
  unfold stopInternal
  split
  · next idle => exact .inl ⟨rfl, app, found, idle.1⟩
  dsimp only
  split
  · next failed => exact .inr ⟨failed, there.trans found.symm⟩
  · refine .inl ⟨rfl, { app with state := .initialized, autoSuspended := false }, ?_, by simp⟩
    rw [own]
    exact findApp_setApp (by intro _; rfl) there

theorem stop_own (name : Text) (runtime : Runtime) :
    ((stop name runtime).1 = 0 ∧ ∀ app, findApp (stop name runtime).2 name = some app →
      app.state ≠ .running) ∨
    ((stop name runtime).1 ≠ 0 ∧ findApp (stop name runtime).2 name = findApp runtime name) := by
  unfold stop
  split
  · exact .inr ⟨fail_nonzero _ _ (by decide) _, rfl⟩
  cases found : findApp runtime name with
  | none => exact .inr ⟨fail_nonzero _ _ (by decide) _, found⟩
  | some app =>
      dsimp only
      rcases stopInternal_own found with ⟨worked, halted, there, idle⟩ | ⟨failed, same⟩
      · rw [if_neg (not_not.mpr worked)]
        refine .inl ⟨rfl, fun other present => ?_⟩
        have same : some halted = some other := there.symm.trans present
        cases same
        exact idle
      · rw [if_pos failed]
        exact .inr ⟨failed, same.trans found⟩

theorem unload_frame (apart : other ≠ name) :
    findApp (unload name runtime).2 other = findApp runtime other := by
  unfold unload
  split
  · rfl
  cases found : findApp runtime name with
  | none => rfl
  | some app =>
      have own := (findApp_named found).2
      have stops : findApp (stopInternal app runtime).2 other = findApp runtime other :=
        stopInternal_frame fun same => apart (same.symm.trans own)
      dsimp only
      split
      · exact stops
      cases still : findApp (stopInternal app runtime).2 name with
      | none => exact stops
      | some halted =>
          have named := (findApp_named still).2
          have deinits : findApp (deinitInternal halted (stopInternal app runtime).2).2 other =
              findApp runtime other :=
            (deinitInternal_frame fun same => apart (same.symm.trans named)).trans stops
          dsimp only
          split
          · exact deinits
          · exact (findApp_dropApp_other apart).trans deinits

theorem load_frame (report : LoadReport) (volume : Volume) (path : Text) (apart : other ≠ name) :
    findApp (load report volume name path runtime).2 other = findApp runtime other := by
  obtain ⟨_, ⟨_, same⟩ | ⟨_, _, _, app, _, owner, _, added⟩⟩ :=
    load_effect report volume name path runtime
  · exact findApp_apps same other
  · unfold findApp
    split
    · rfl
    · have skipped : [app].find? (fun app => app.name.text = other) = none := by
        simp [owner, apart.symm]
      rw [added, List.find?_append, skipped, Option.or_none]

end Calls

end NeuroLink.RuntimeFrame
