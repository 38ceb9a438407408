import Mathlib.Data.List.Induction
import Mathlib.Data.List.Nodup
import NeuroLink.AppRuntime

/-!
The capacity of the application runtime. Applications are loaded, started,
suspended, resumed, stopped and unloaded in any order, with any answers of the loader
and of the callbacks, and the policy changes in between. Names stay distinct and the
running limit holds throughout; the loading limit holds unless a policy sets it below
the number of applications that are loaded at that moment.
-/

namespace NeuroLink.RuntimeCapacity

open CText FileSystem AppRuntime

/-- A call of the runtime with what the loader reports for it. -/
inductive Call where
  | load (report : LoadReport) (volume : Volume) (name path : Text)
  | start (name startArgs : Text)
  | suspend (name : Text)
  | resume (name : Text)
  | stop (name : Text)
  | unload (name : Text)
  | setPolicy (policy : Policy)

def Call.apply (runtime : Runtime) : Call → Int × Runtime
  | load report volume name path => AppRuntime.load report volume name path runtime
  | start name startArgs => AppRuntime.start name startArgs runtime
  | suspend name => AppRuntime.suspend name runtime
  | resume name => AppRuntime.resume name runtime
  | stop name => AppRuntime.stop name runtime
  | unload name => AppRuntime.unload name runtime
  | setPolicy policy => AppRuntime.setPolicy policy runtime

/-- One call and the results of the callbacks it makes. -/
structure Step where
  call : Call
  callbackResults : List Int

def Step.take (runtime : Runtime) (step : Step) : Runtime :=
  (step.call.apply { runtime with callbackResults := step.callbackResults }).2

def run (noLimit : Nat) (steps : List Step) : Runtime :=
  steps.foldl Step.take (init noLimit)

def names (runtime : Runtime) : List Text := runtime.apps.map (·.name.text)

/-- The negation of `app_runtime_policy_limit_is_unbounded`. -/
def IsLimit (noLimit limit : Nat) : Prop := limit ≠ noLimit

/-- Names are distinct and the policy is kept where its numbers are limits. -/
structure Within (limits : Nat → Prop) (runtime : Runtime) : Prop where
  named : [] ∉ names runtime
  distinct : (names runtime).Nodup
  loaded : limits runtime.policy.maxLoadedApps →
    runtime.apps.length ≤ runtime.policy.maxLoadedApps
  running : limits runtime.policy.maxRunningApps →
    runningCount runtime ≤ runtime.policy.maxRunningApps

/-- A policy that is accepted leaves room for the applications that are loaded. -/
def LeavesRoom (limits : Nat → Prop) (runtime : Runtime) (step : Step) : Prop :=
  match step.call with
  | .setPolicy policy =>
      0 < policy.maxRunningApps → policy.maxRunningApps ≤ policy.maxLoadedApps →
        runningCount runtime ≤ policy.maxRunningApps →
          limits policy.maxLoadedApps → runtime.apps.length ≤ policy.maxLoadedApps
  | _ => True

section Lists

variable {name : Text} {app : App} {edit : App → App} {apps : List App}

theorem amendApp_names (kept : ∀ app, (edit app).name = app.name) :
    (amendApp name edit apps).map (·.name.text) = apps.map (·.name.text) := by
  induction apps with
  | nil => rfl
  | cons first rest ih =>
      rw [amendApp]
      split
      · simp [kept]
      · simp [ih]

theorem amendApp_count (edit : App → App) (test : App → Bool)
    (found : apps.find? (fun app => app.name.text = name) = some app) :
    (amendApp name edit apps).countP test + (if test app then 1 else 0) =
      apps.countP test + (if test (edit app) then 1 else 0) := by
  induction apps with
  | nil => cases found
  | cons first rest ih =>
      rw [amendApp]
      by_cases here : first.name.text = name
      · rw [List.find?_cons_of_pos (by simpa using here)] at found
        cases found
        rw [if_pos here, List.countP_cons, List.countP_cons]
        omega
      · rw [List.find?_cons_of_neg (by simpa using here)] at found
        rw [if_neg here, List.countP_cons, List.countP_cons]
        have tail := ih found
        omega

theorem find_member (distinct : (apps.map (·.name.text)).Nodup) (member : app ∈ apps) :
    apps.find? (fun other => other.name.text = app.name.text) = some app := by
  induction apps with
  | nil => cases member
  | cons first rest ih =>
      rw [List.map_cons, List.nodup_cons] at distinct
      rcases List.mem_cons.mp member with rfl | later
      · exact List.find?_cons_of_pos (by simp)
      · have apart : first.name.text ≠ app.name.text := fun same =>
          distinct.1 (by rw [same]; exact List.mem_map_of_mem later)
        rw [List.find?_cons_of_neg (by simpa using apart)]
        exact ih distinct.2 later

theorem dropApp_sublist (name : Text) (apps : List App) : (dropApp name apps).Sublist apps := by
  induction apps with
  | nil => exact .slnil
  | cons first rest ih =>
      rw [dropApp]
      split
      · exact List.sublist_cons_self first rest
      · exact ih.cons_cons first

theorem preemptionCandidate_runs {request : App} {candidate : Option App}
    (chosen : preemptionCandidate request apps candidate = some app)
    (start : ∀ best, candidate = some best → best.state = .running) :
    app.state = .running ∧ (app ∈ apps ∨ candidate = some app) := by
  induction apps generalizing candidate with
  | nil => exact ⟨start app chosen, .inr chosen⟩
  | cons first rest ih =>
      rw [preemptionCandidate] at chosen
      split at chosen
      · obtain ⟨runs, from_⟩ := ih chosen start
        exact ⟨runs, from_.imp_left (List.mem_cons_of_mem first)⟩
      · next passed =>
        have live : first.state = .running := by
          by_contra idle
          exact passed (.inr (.inl idle))
        split at chosen
        · obtain ⟨runs, inRest | same⟩ := ih chosen (by rintro best ⟨⟩; exact live)
          · exact ⟨runs, .inl (List.mem_cons_of_mem first inRest)⟩
          · cases same
            exact ⟨runs, .inl List.mem_cons_self⟩
        · obtain ⟨runs, from_⟩ := ih chosen start
          exact ⟨runs, from_.imp_left (List.mem_cons_of_mem first)⟩

end Lists

/-- The applications and the policy are the same, but for states that have left
`RUNNING`. -/
structure Quieter (before after : Runtime) : Prop where
  names : names after = names before
  policy : after.policy = before.policy
  running : runningCount after ≤ runningCount before

namespace Quieter

variable {before middle after : Runtime}

theorem refl (runtime : Runtime) : Quieter runtime runtime := ⟨rfl, rfl, Nat.le_refl _⟩

theorem trans (first : Quieter before middle) (second : Quieter middle after) :
    Quieter before after :=
  ⟨second.names.trans first.names, second.policy.trans first.policy,
    Nat.le_trans second.running first.running⟩

theorem of_apps (apps : after.apps = before.apps) (policy : after.policy = before.policy) :
    Quieter before after :=
  ⟨by rw [RuntimeCapacity.names, apps]; rfl, policy,
    by rw [runningCount, apps]; exact Nat.le_refl _⟩

theorem within {limits : Nat → Prop} (quieter : Quieter before after)
    (within : Within limits before) : Within limits after := by
  have length : after.apps.length = before.apps.length := by
    simpa [RuntimeCapacity.names] using congrArg List.length quieter.names
  constructor
  · rw [quieter.names]
    exact within.named
  · rw [quieter.names]
    exact within.distinct
  · rw [quieter.policy, length]
    exact within.loaded
  · rw [quieter.policy]
    exact fun limited => Nat.le_trans quieter.running (within.running limited)

end Quieter

section Steps

variable {limits : Nat → Prop} {runtime : Runtime} {name : Text} {app : App}

theorem fail_quieter (operation : String) (code : ExceptionCode) (cause : Int) :
    Quieter runtime (fail operation code cause runtime).2 := .of_apps rfl rfl

theorem invokeCallback_quieter (runtime : Runtime) (address : Nat)
    (pointerName callbackName : String) :
    (invokeCallback address pointerName callbackName runtime).2.apps = runtime.apps ∧
      Quieter runtime (invokeCallback address pointerName callbackName runtime).2 := by
  have same : (invokeCallback address pointerName callbackName runtime).2.apps = runtime.apps ∧
      (invokeCallback address pointerName callbackName runtime).2.policy = runtime.policy := by
    unfold invokeCallback
    split
    · exact ⟨rfl, rfl⟩
    · dsimp only
      split <;> exact ⟨rfl, rfl⟩
  exact ⟨same.1, .of_apps same.1 same.2⟩

theorem findApp_find (found : findApp runtime name = some app) :
    name ≠ [] ∧ runtime.apps.find? (fun other => other.name.text = name) = some app := by
  unfold findApp at found
  split at found
  · cases found
  · next named => exact ⟨named, found⟩

theorem find_name (found : runtime.apps.find? (fun other => other.name.text = name) = some app) :
    app.name.text = name := by
  simpa using List.find?_some found

theorem setApp_names {edit : App → App} (kept : ∀ app, (edit app).name = app.name) :
    names (setApp runtime name edit) = names runtime := amendApp_names kept

theorem setApp_idle (edit : App → App) (kept : ∀ app, (edit app).name = app.name)
    (idle : ∀ app, (edit app).state ≠ .running)
    (found : runtime.apps.find? (fun other => other.name.text = name) = some app) :
    Quieter runtime (setApp runtime name edit) ∧
      (app.state = .running →
        runningCount (setApp runtime name edit) + 1 = runningCount runtime) := by
  have count := amendApp_count edit (fun app => app.state = .running) found
  simp only [decide_eq_true_eq, idle app, if_false] at count
  constructor
  · exact ⟨setApp_names kept, rfl, by
      change (amendApp name edit runtime.apps).countP _ ≤ runtime.apps.countP _
      omega⟩
  · intro live
    change (amendApp name edit runtime.apps).countP _ + 1 = runtime.apps.countP _
    rw [if_pos live] at count
    omega

theorem stopInternal_quieter
    (found : runtime.apps.find? (fun other => other.name.text = app.name.text) = some app) :
    Quieter runtime (stopInternal app runtime).2 := by
  have called := invokeCallback_quieter runtime app.callbacks.stop "app_stop_ptr" "app_stop"
  unfold stopInternal
  split
  · exact .refl runtime
  · dsimp only
    split
    · exact called.2
    · rw [← called.1] at found
      exact called.2.trans (setApp_idle
        (fun app => { app with state := .initialized, autoSuspended := false }) (fun _ => rfl)
        (by simp) found).1

theorem deinitInternal_quieter
    (found : runtime.apps.find? (fun other => other.name.text = app.name.text) = some app) :
    Quieter runtime (deinitInternal app runtime).2 := by
  have called := invokeCallback_quieter runtime app.callbacks.deinit "app_deinit_ptr" "app_deinit"
  unfold deinitInternal
  split
  · exact .refl runtime
  · dsimp only
    split
    · exact called.2
    · rw [← called.1] at found
      exact called.2.trans (setApp_idle (fun app => { app with state := .loaded })
        (fun _ => rfl) (by simp) found).1

/-- A suspension that works takes a running application out of the count. -/
theorem suspendInternal_quieter (autoSuspend : Bool)
    (found : runtime.apps.find? (fun other => other.name.text = app.name.text) = some app) :
    Quieter runtime (suspendInternal app autoSuspend runtime).2 ∧
      ((suspendInternal app autoSuspend runtime).1 = 0 →
        runningCount (suspendInternal app autoSuspend runtime).2 + 1 = runningCount runtime) := by
  have called := invokeCallback_quieter runtime app.callbacks.suspend "app_suspend_ptr"
    "app_suspend"
  unfold suspendInternal
  split
  · exact ⟨fail_quieter _ _ _, fun worked =>
      absurd worked (fail_nonzero _ _ (by decide) _)⟩
  · next running =>
    have live : app.state = .running := not_not.mp running
    dsimp only
    split
    · next failed => exact ⟨called.2, fun worked => absurd worked failed⟩
    · rw [← called.1] at found
      obtain ⟨quieter, fewer⟩ := setApp_idle
        (fun app => { app with state := .suspended, autoSuspended := autoSuspend }) (fun _ => rfl)
        (by simp) found
      refine ⟨called.2.trans quieter, fun _ => (fewer live).trans ?_⟩
      rw [runningCount, called.1]
      rfl

/-- A slot that is granted leaves room for one more running application. -/
theorem ensureRunningSlot_quieter (request : App) (within : Within limits runtime) :
    Quieter runtime (ensureRunningSlot request runtime).2 ∧
      ((ensureRunningSlot request runtime).1 = 0 → limits runtime.policy.maxRunningApps →
        runningCount (ensureRunningSlot request runtime).2 < runtime.policy.maxRunningApps) := by
  unfold ensureRunningSlot
  split
  · next room => exact ⟨.refl runtime, fun _ _ => room⟩
  split
  · exact ⟨fail_quieter _ _ _, fun worked => absurd worked (fail_nonzero _ _ (by decide) _)⟩
  split
  · exact ⟨fail_quieter _ _ _, fun worked => absurd worked (fail_nonzero _ _ (by decide) _)⟩
  · next candidate chosen =>
    have member : candidate ∈ runtime.apps :=
      (preemptionCandidate_runs chosen (by simp)).2.resolve_right (by simp)
    obtain ⟨quieter, fewer⟩ := suspendInternal_quieter true (find_member within.distinct member)
    refine ⟨quieter, fun worked limited => ?_⟩
    have count := fewer worked
    have limit := within.running limited
    omega

theorem amendApp_count_le (name : Text) (edit : App → App) (apps : List App)
    (test : App → Bool) :
    (amendApp name edit apps).countP test ≤ apps.countP test + 1 := by
  induction apps with
  | nil => exact Nat.zero_le _
  | cons first rest ih =>
      rw [amendApp]
      split
      · rw [List.countP_cons, List.countP_cons]
        split <;> omega
      · rw [List.countP_cons, List.countP_cons]
        omega

theorem run_within {edit : App → App} (kept : ∀ app, (edit app).name = app.name)
    (within : Within limits runtime)
    (room : limits runtime.policy.maxRunningApps →
      runningCount runtime < runtime.policy.maxRunningApps) :
    Within limits (clearLastException (setApp runtime name edit)) := by
  have sameNames : names (setApp runtime name edit) = names runtime := setApp_names kept
  have sameLength : (setApp runtime name edit).apps.length = runtime.apps.length := by
    simpa [names] using congrArg List.length sameNames
  constructor
  · change [] ∉ names (setApp runtime name edit)
    rw [sameNames]
    exact within.named
  · change (names (setApp runtime name edit)).Nodup
    rw [sameNames]
    exact within.distinct
  · change _ → (setApp runtime name edit).apps.length ≤ _
    rw [sameLength]
    exact within.loaded
  · intro limited
    have added := amendApp_count_le name edit runtime.apps
      (fun app => app.state = .running)
    have before := room limited
    exact Nat.le_trans added before

def LoadEffect (runtime : Runtime) (name : Text) (result : Int × Runtime) : Prop :=
  result.2.policy = runtime.policy ∧
    (result.1 ≠ 0 ∧ result.2.apps = runtime.apps ∨
      result.1 = 0 ∧ runtime.apps.length < runtime.policy.maxLoadedApps ∧
        findApp runtime name = none ∧ ∃ app : App, name ≠ [] ∧ app.name.text = name ∧
          app.state = .initialized ∧ result.2.apps = runtime.apps ++ [app])

/-- A check of a load: it stops there, or goes on. -/
theorem LoadEffect.checked {check : Prop} [Decidable check] {failed rest : Int × Runtime}
    (stops : LoadEffect runtime name failed) (goes : ¬ check → LoadEffect runtime name rest) :
    LoadEffect runtime name (if check then failed else rest) := by
  by_cases fails : check
  · rw [if_pos fails]
    exact stops
  · rw [if_neg fails]
    exact goes fails

theorem load_effect (report : LoadReport) (volume : Volume) (name path : Text)
    (runtime : Runtime) :
    LoadEffect runtime name (load report volume name path runtime) := by
  have failed : ∀ (operation : String) (code : ExceptionCode) (cause : Int), code ≠ .none →
      LoadEffect runtime name (fail operation code cause runtime) :=
    fun operation code cause some => ⟨rfl, .inl ⟨fail_nonzero operation code some cause, rfl⟩⟩
  have called := invokeCallback_quieter runtime report.callbacks.init "app_init_ptr" "app_init"
  refine .checked (failed _ _ _ (by decide)) fun named => ?_
  refine .checked (failed _ _ _ (by decide)) fun short => ?_
  refine .checked (failed _ _ _ (by decide)) fun room => ?_
  refine .checked (failed _ _ _ (by decide)) fun absent => ?_
  refine .checked (failed _ _ _ (by decide)) fun _ => ?_
  split
  · exact failed _ _ _ (exceptionFromErrno_fails _)
  refine .checked (failed _ _ _ (by decide)) fun _ => ?_
  refine .checked (failed _ _ _ (by decide)) fun _ => ?_
  refine .checked (failed _ _ _ (by decide)) fun _ => ?_
  refine .checked (failed _ _ _ (by decide)) fun _ => ?_
  refine .checked (failed _ _ _ (by decide)) fun _ => ?_
  dsimp only
  split
  · next stopped => exact ⟨called.2.policy, .inl ⟨stopped, called.1⟩⟩
  · refine ⟨called.2.policy, .inr ⟨rfl, Nat.not_le.mp room,
      Option.not_isSome_iff_eq_none.mp absent, _, (not_or.mp named).1, ?_, ?_,
      congrArg (· ++ [_]) called.1⟩⟩
    · exact copyBounded_exact name (by omega)
    · rfl

theorem load_within (report : LoadReport) (volume : Volume) (path : Text)
    (within : Within limits runtime) :
    Within limits (load report volume name path runtime).2 := by
  obtain ⟨policy, ⟨_, same⟩ | ⟨_, room, absent, app, named, owner, idle, added⟩⟩ :=
    load_effect report volume name path runtime
  · exact (Quieter.of_apps same policy).within within
  · rw [findApp, if_neg named, List.find?_eq_none] at absent
    constructor
    · rw [names, added, List.map_append, List.map_singleton, owner]
      exact List.not_mem_append within.named (by simpa using Ne.symm named)
    · rw [names, added, List.map_append, List.map_singleton, owner]
      refine List.nodup_append.mpr ⟨within.distinct, List.nodup_singleton _, ?_⟩
      intro other member own single same
      obtain ⟨known, present, rfl⟩ := List.mem_map.mp member
      rw [List.mem_singleton] at single
      exact absent known present (by simp [same, single])
    · rw [policy, added, List.length_append]
      exact fun _ => room
    · rw [policy, runningCount, added, List.countP_append]
      simpa [idle, runningCount] using within.running

theorem start_within (startArgs : Text) (within : Within limits runtime) :
    Within limits (start name startArgs runtime).2 := by
  have failed : ∀ {runtime} operation code cause, Within limits runtime →
      Within limits (fail operation code cause runtime).2 :=
    fun operation code cause => (fail_quieter operation code cause).within
  unfold start
  split
  · exact failed _ _ _ within
  split
  · exact failed _ _ _ within
  · next app found =>
    split
    · exact failed _ _ _ within
    obtain ⟨quieter, room⟩ := ensureRunningSlot_quieter app within
    have slotted := quieter.within within
    dsimp only
    generalize (if app.callbacks.startV2 ≠ 0 then app.callbacks.startV2
      else app.callbacks.startLegacy) = address
    generalize (if app.callbacks.startV2 ≠ 0 then "app_start_v2_ptr" else "app_start_ptr") =
      pointerName
    have called := invokeCallback_quieter (ensureRunningSlot app runtime).2
      address pointerName "app_start"
    split
    · exact slotted
    · next granted =>
      split
      · exact failed _ _ _ slotted
      split
      · exact failed _ _ _ slotted
      split
      · exact called.2.within slotted
      · refine run_within (fun _ => rfl) (called.2.within slotted) fun limited => ?_
        rw [called.2.policy, quieter.policy] at limited ⊢
        exact Nat.lt_of_le_of_lt called.2.running (room (not_not.mp granted) limited)

theorem resume_within (within : Within limits runtime) :
    Within limits (resume name runtime).2 := by
  have failed : ∀ operation code cause,
      Within limits (fail operation code cause runtime).2 :=
    fun operation code cause => (fail_quieter operation code cause).within within
  unfold resume
  split
  · exact failed _ _ _
  split
  · exact failed _ _ _
  · next app found =>
    split
    · exact failed _ _ _
    obtain ⟨quieter, room⟩ := ensureRunningSlot_quieter app within
    have slotted := quieter.within within
    have called := invokeCallback_quieter (ensureRunningSlot app runtime).2
      app.callbacks.resume "app_resume_ptr" "app_resume"
    dsimp only
    split
    · exact slotted
    · next granted =>
      split
      · exact called.2.within slotted
      · refine run_within (fun _ => rfl) (called.2.within slotted) fun limited => ?_
        rw [called.2.policy, quieter.policy] at limited ⊢
        exact Nat.lt_of_le_of_lt called.2.running (room (not_not.mp granted) limited)

theorem suspend_quieter : Quieter runtime (suspend name runtime).2 := by
  unfold suspend
  split
  · exact fail_quieter _ _ _
  split
  · exact fail_quieter _ _ _
  · next app found =>
    obtain ⟨_, there⟩ := findApp_find found
    rw [← find_name there] at there
    have suspended := (suspendInternal_quieter false there).1
    dsimp only
    split
    · exact suspended
    · exact suspended.trans (.of_apps rfl rfl)

theorem stop_quieter : Quieter runtime (stop name runtime).2 := by
  unfold stop
  split
  · exact fail_quieter _ _ _
  split
  · exact fail_quieter _ _ _
  · next app found =>
    obtain ⟨_, there⟩ := findApp_find found
    rw [← find_name there] at there
    have stopped := stopInternal_quieter there
    dsimp only
    split
    · exact stopped
    · exact stopped.trans (.of_apps rfl rfl)

theorem drop_within (within : Within limits runtime) (name : Text) :
    Within limits (clearLastException { runtime with apps := dropApp name runtime.apps }) := by
  have fewer := dropApp_sublist name runtime.apps
  constructor
  · exact fun member => within.named ((fewer.map _).subset member)
  · exact within.distinct.sublist (fewer.map _)
  · exact fun limited => Nat.le_trans fewer.length_le (within.loaded limited)
  · exact fun limited => Nat.le_trans fewer.countP_le (within.running limited)

theorem unload_within (within : Within limits runtime) :
    Within limits (unload name runtime).2 := by
  unfold unload
  split
  · exact (fail_quieter _ _ _).within within
  split
  · exact (fail_quieter _ _ _).within within
  · next app found =>
    obtain ⟨_, there⟩ := findApp_find found
    rw [← find_name there] at there
    have stopped := (stopInternal_quieter there).within within
    dsimp only
    split
    · exact stopped
    split
    · exact (fail_quieter _ _ _).within stopped
    · next app again =>
      obtain ⟨_, still⟩ := findApp_find again
      rw [← find_name still] at still
      have deinited := (deinitInternal_quieter still).within stopped
      split
      · exact deinited
      · exact drop_within deinited name

theorem dropApp_names (name : Text) (apps : List App) :
    (dropApp name apps).map (·.name.text) = (apps.map (·.name.text)).erase name := by
  induction apps with
  | nil => rfl
  | cons first rest ih =>
      rw [dropApp, List.map_cons, List.erase_cons]
      by_cases here : first.name.text = name
      · simp [here]
      · simp [here, ih]

/-- An unload that fails leaves every application, one that works takes the name off
the list. -/
theorem unload_names :
    (unload name runtime).1 ≠ 0 ∧ names (unload name runtime).2 = names runtime ∨
      (unload name runtime).1 = 0 ∧
        names (unload name runtime).2 = (names runtime).erase name := by
  unfold unload
  split
  · exact .inl ⟨fail_nonzero _ _ (by decide) _, rfl⟩
  split
  · exact .inl ⟨fail_nonzero _ _ (by decide) _, rfl⟩
  · next app found =>
    obtain ⟨_, there⟩ := findApp_find found
    rw [← find_name there] at there
    have stopped := (stopInternal_quieter there).names
    dsimp only
    split
    · next failed => exact .inl ⟨failed, stopped⟩
    split
    · exact .inl ⟨fail_nonzero _ _ (by decide) _, stopped⟩
    · next app again =>
      obtain ⟨_, still⟩ := findApp_find again
      rw [← find_name still] at still
      have deinited := (deinitInternal_quieter still).names.trans stopped
      split
      · next failed => exact .inl ⟨failed, deinited⟩
      · exact .inr ⟨rfl, (dropApp_names name _).trans (congrArg (·.erase name) deinited)⟩

theorem start_names (startArgs : Text) :
    names (start name startArgs runtime).2 = names runtime := by
  have same := congrArg (List.map Prod.fst) (@start_images runtime name startArgs)
  simpa only [names, images, List.map_map, Function.comp_def] using same

theorem dispatchCommand_names (name commandName : Text) :
    names (dispatchCommand name commandName runtime).2 = names runtime := by
  unfold dispatchCommand
  split
  · rfl
  split
  · rfl
  · next app _ =>
    have called := (invokeCallback_quieter runtime app.callbacks.onCommand "app_on_command_ptr"
      "app_on_command").2.names
    split
    · rfl
    split
    · rfl
    · dsimp only
      split <;> exact called

theorem load_names (report : LoadReport) (volume : Volume) (path : Text) :
    (load report volume name path runtime).1 ≠ 0 ∧
        names (load report volume name path runtime).2 = names runtime ∨
      (load report volume name path runtime).1 = 0 ∧
        names (load report volume name path runtime).2 = names runtime ++ [name] := by
  obtain ⟨_, ⟨failed, same⟩ | ⟨worked, _, _, app, _, owner, _, added⟩⟩ :=
    load_effect report volume name path runtime
  · exact .inl ⟨failed, congrArg (List.map fun app : App => app.name.text) same⟩
  · refine .inr ⟨worked, ?_⟩
    rw [names, added, List.map_append, List.map_singleton, owner]
    rfl

theorem setPolicy_within {policy : Policy} (within : Within limits runtime)
    (room : 0 < policy.maxRunningApps → policy.maxRunningApps ≤ policy.maxLoadedApps →
      runningCount runtime ≤ policy.maxRunningApps →
        limits policy.maxLoadedApps → runtime.apps.length ≤ policy.maxLoadedApps) :
    Within limits (setPolicy policy runtime).2 := by
  unfold setPolicy
  split
  · exact (fail_quieter _ _ _).within within
  · next valid =>
    obtain ⟨_, some, ordered⟩ := not_or.mp valid |>.imp_right not_or.mp
    split
    · exact (fail_quieter _ _ _).within within
    · next live =>
      exact ⟨within.named, within.distinct, room (Nat.pos_of_ne_zero some) (Nat.not_lt.mp ordered)
        (Nat.not_lt.mp live), fun _ => Nat.not_lt.mp live⟩

/-- Every call keeps the limits, a new policy as long as it has room for what is
loaded. -/
theorem take_within (within : Within limits runtime) {step : Step}
    (room : LeavesRoom limits runtime step) : Within limits (step.take runtime) := by
  obtain ⟨call, callbackResults⟩ := step
  have ready : Within limits { runtime with callbackResults := callbackResults } :=
    ⟨within.named, within.distinct, within.loaded, within.running⟩
  cases call with
  | load report volume name path => exact load_within report volume path ready
  | start name startArgs => exact start_within startArgs ready
  | suspend name => exact suspend_quieter.within ready
  | resume name => exact resume_within ready
  | stop name => exact stop_quieter.within ready
  | unload name => exact unload_within ready
  | setPolicy policy => exact setPolicy_within ready room

theorem leavesRoom_of_within {step : Step} (after : Within limits (step.take runtime)) :
    LeavesRoom limits runtime step := by
  obtain ⟨call, callbackResults⟩ := step
  cases call with
  | setPolicy policy =>
      intro some ordered live limited
      have valid : ¬ (policy.maxLoadedApps = 0 ∨ policy.maxRunningApps = 0 ∨
          policy.maxRunningApps > policy.maxLoadedApps) := by omega
      have accepted : (Step.take runtime ⟨.setPolicy policy, callbackResults⟩) =
          clearLastException
            { runtime with policy := policy, callbackResults := callbackResults } := by
        have quiet : ¬ runningCount { runtime with callbackResults := callbackResults } >
            policy.maxRunningApps := Nat.not_lt.mpr live
        simp only [Step.take, Call.apply, setPolicy, if_neg valid, if_neg quiet]
      rw [accepted] at after
      exact after.loaded limited
  | _ => trivial

end Steps

/-- After every call of a run names are distinct and both limits are kept, if and only
if no policy is accepted that allows fewer applications than are loaded then. -/
theorem capacity_kept_iff (noLimit : Nat) (steps : List Step) :
    (∀ front, front <+: steps → Within (IsLimit noLimit) (run noLimit front)) ↔
      ∀ front step, front ++ [step] <+: steps →
        LeavesRoom (IsLimit noLimit) (run noLimit front) step := by
  constructor
  · intro kept front step part
    have after := kept (front ++ [step]) part
    rw [run, List.foldl_append] at after
    exact leavesRoom_of_within after
  · intro room front part
    induction front using List.reverseRecOn with
    | nil => exact ⟨List.not_mem_nil, List.nodup_nil, fun _ => Nat.zero_le _,
        fun _ => Nat.zero_le _⟩
    | append_singleton front step ih =>
        rw [run, List.foldl_append]
        exact take_within (ih ((List.prefix_append _ _).trans part)) (room front step part)

theorem run_names (noLimit : Nat) (steps : List Step) :
    [] ∉ names (run noLimit steps) ∧ (names (run noLimit steps)).Nodup := by
  have within : Within (fun _ => False) (run noLimit steps) := by
    induction steps using List.reverseRecOn with
    | nil => exact ⟨List.not_mem_nil, List.nodup_nil, False.elim, False.elim⟩
    | append_singleton steps step ih =>
        rw [run, List.foldl_append]
        refine take_within ih ?_
        unfold LeavesRoom
        split
        · exact fun _ _ _ => False.elim
        · trivial
  exact ⟨within.named, within.distinct⟩

def shrinkingRun : List Step :=
  [⟨.load loadsWell (fun _ => some (.file [1])) (lit "pump") (lit "/apps/pump.llext"), []⟩,
    ⟨.load loadsWell (fun _ => some (.file [1])) (lit "fan") (lit "/apps/fan.llext"), []⟩,
    ⟨.setPolicy ⟨1, 1, true⟩, []⟩]

theorem shrinkingRun_exceeds :
    ¬ ∀ (noLimit : Nat) (steps front : List Step), front <+: steps →
      Within (IsLimit noLimit) (run noLimit front) := by
  intro claimed
  have kept := (claimed 4294967295 shrinkingRun shrinkingRun (List.prefix_refl _)).loaded
  have accepted : (run 4294967295 shrinkingRun).policy.maxLoadedApps = 1 ∧
      (run 4294967295 shrinkingRun).apps.length = 2 := by decide +kernel
  rw [accepted.1, accepted.2] at kept
  exact absurd (kept (by unfold IsLimit; decide)) (by decide)

end NeuroLink.RuntimeCapacity
