import Mathlib.Logic.Function.Basic
import NeuroLink.RuntimeFrame

/-!
Making room for an application that is to run. Where the running limit is reached the
running application of the least important priority is suspended, and that happens
before the arguments of a start are read and before the application's own callback is
called: what fails afterwards does not bring the suspended application back.
-/

namespace NeuroLink.RunningSlot

open CText Errno FileSystem AppRuntime RuntimeCapacity RuntimeFrame

/-- The two calls that bring an application to `RUNNING`. -/
inductive RunRequest where
  | start (startArgs : Text)
  | resume

def startAddress (app : App) : Nat :=
  if app.callbacks.startV2 ≠ 0 then app.callbacks.startV2 else app.callbacks.startLegacy

namespace RunRequest

def apply (name : Text) (runtime : Runtime) : RunRequest → Int × Runtime
  | start startArgs => AppRuntime.start name startArgs runtime
  | resume => AppRuntime.resume name runtime

/-- The state the call expects its application in. -/
def awaits : RunRequest → AppState
  | start _ => .initialized
  | resume => .suspended

/-- What the call needs once there is room: an address, arguments that can be read and
a callback that works. -/
def Succeeds (app : App) (callbackResults : List Int) : RunRequest → Prop
  | start startArgs =>
      callbackAddrIsValid (startAddress app) ∧
      (app.callbacks.startV2 ≠ 0 → parseStartArgs startArgs = 0) ∧
      callbackResults.headD 0 = 0
  | resume => callbackAddrIsValid app.callbacks.resume ∧ callbackResults.headD 0 = 0

end RunRequest

def stateOf (runtime : Runtime) (name : Text) : Option AppState :=
  (findApp runtime name).map (·.state)

def Eligible (request app : App) : Prop :=
  app.name ≠ request.name ∧ app.state = .running ∧ request.priority < app.priority

/-- The first in list order of the running applications with the least important
priority, which is less important than the requester's. -/
def IsVictim (request : App) (apps : List App) (victim : App) : Prop :=
  victim.state = .running ∧ request.priority < victim.priority ∧
    ∃ before after, apps = before ++ victim :: after ∧
      (∀ app ∈ before, app.state = .running → app.priority < victim.priority) ∧
      ∀ app ∈ after, app.state = .running → app.priority ≤ victim.priority

section Scan

variable {request victim app : App} {seen apps : List App} {candidate : Option App}

/-- What the scan for a candidate has found in the applications it has seen. -/
inductive Best (request : App) : List App → Option App → Prop where
  | nobody {seen : List App} (passed : ∀ app ∈ seen, ¬ Eligible request app) :
      Best request seen none
  | leader {before after : List App} {victim : App} (eligible : Eligible request victim)
      (earlier : ∀ app ∈ before, Eligible request app → app.priority < victim.priority)
      (later : ∀ app ∈ after, Eligible request app → app.priority ≤ victim.priority) :
      Best request (before ++ victim :: after) (some victim)

theorem Best.pass (best : Best request seen candidate)
    (worse : Eligible request app → ∃ victim, candidate = some victim ∧
      app.priority ≤ victim.priority) :
    Best request (seen ++ [app]) candidate := by
  cases best with
  | nobody passed =>
      apply Best.nobody
      intro other member
      rcases List.mem_append.mp member with old | new
      · exact passed other old
      · intro eligible
        rw [List.mem_singleton.mp new] at eligible
        obtain ⟨_, missing, _⟩ := worse eligible
        cases missing
  | @leader before after victim eligible earlier later =>
      rw [List.append_assoc, List.cons_append]
      apply Best.leader eligible earlier
      intro other member others
      rcases List.mem_append.mp member with old | new
      · exact later other old others
      · rw [List.mem_singleton.mp new] at others ⊢
        obtain ⟨_, same, bound⟩ := worse others
        cases same
        exact bound

theorem Best.take (best : Best request seen candidate) (eligible : Eligible request app)
    (better : ∀ victim, candidate = some victim → victim.priority < app.priority) :
    Best request (seen ++ [app]) (some app) := by
  apply Best.leader eligible
  · intro other member others
    cases best with
    | nobody passed => exact absurd others (passed other member)
    | @leader before after victim chosen earlier later =>
        have above := better victim rfl
        rcases List.mem_append.mp member with front | back
        · exact Nat.lt_trans (earlier other front others) above
        · rcases List.mem_cons.mp back with rfl | rest
          · exact above
          · exact Nat.lt_of_le_of_lt (later other rest others) above
  · intro other none
    cases none

/-- The scan ends with the best of all applications. -/
theorem preemptionCandidate_best (best : Best request seen candidate) :
    Best request (seen ++ apps) (preemptionCandidate request apps candidate) := by
  induction apps generalizing seen candidate with
  | nil => simpa [preemptionCandidate] using best
  | cons first rest ih =>
      have onward : seen ++ first :: rest = seen ++ [first] ++ rest := by simp
      rw [onward, preemptionCandidate]
      split
      · next skipped =>
        apply ih
        apply best.pass
        rintro ⟨apart, running, above⟩
        rcases skipped with same | idle | low
        · exact absurd same apart
        · exact absurd running idle
        · exact absurd above (Nat.not_lt.mpr low)
      · next kept =>
        obtain ⟨apart, running, above⟩ := not_or.mp kept |>.imp_right not_or.mp
        have eligible : Eligible request first := ⟨apart, not_not.mp running, Nat.not_le.mp above⟩
        split
        · next better =>
          apply ih
          apply best.take eligible
          rintro victim rfl
          simpa using better
        · next worse =>
          apply ih
          apply best.pass
          intro _
          cases candidate with
          | none => exact absurd rfl worse
          | some victim => exact ⟨victim, rfl, by simpa using worse⟩

theorem preemptionCandidate_none_iff :
    preemptionCandidate request apps none = none ↔ ∀ app ∈ apps, ¬ Eligible request app := by
  have best : Best request apps (preemptionCandidate request apps none) :=
    @preemptionCandidate_best request [] apps none (.nobody (List.forall_mem_nil _))
  constructor
  · intro missing
    rw [missing] at best
    cases best with
    | nobody passed => exact passed
  · intro passed
    cases chosen : preemptionCandidate request apps none with
    | none => rfl
    | some victim =>
        rw [chosen] at best
        cases best with
        | leader eligible _ _ => exact absurd eligible (passed victim (by simp))

theorem preemptionCandidate_victim (distinct : (apps.map (·.name.text)).Nodup)
    (present : request ∈ apps) (idle : request.state ≠ .running)
    (chosen : preemptionCandidate request apps none = some victim) :
    IsVictim request apps victim ∧ victim ∈ apps ∧ victim.name ≠ request.name := by
  have best : Best request apps (preemptionCandidate request apps none) :=
    @preemptionCandidate_best request [] apps none (.nobody (List.forall_mem_nil _))
  -- a running application of the requester's name would be the requester
  have eligible_of_running : ∀ app ∈ apps, app.state = .running →
      Eligible request app ∨ app.priority ≤ request.priority := by
    intro app member running
    rcases Nat.lt_or_ge request.priority app.priority with above | below
    · refine .inl ⟨fun same => ?_, running, above⟩
      have found := find_member distinct member
      rw [same, find_member distinct present] at found
      cases found
      exact idle running
    · exact .inr below
  rw [chosen] at best
  cases best with
  | @leader before after _ eligible earlier later =>
      obtain ⟨apart, running, above⟩ := eligible
      refine ⟨⟨running, above, before, after, rfl, ?_, ?_⟩, by simp, apart⟩
      · intro app member live
        rcases eligible_of_running app (by simp [member]) live with others | low
        · exact earlier app member others
        · exact Nat.lt_of_le_of_lt low above
      · intro app member live
        rcases eligible_of_running app (by simp [member]) live with others | low
        · exact later app member others
        · exact Nat.le_trans low (Nat.le_of_lt above)

end Scan

section Effects

variable {runtime : Runtime} {name : Text} {app : App}

def SuspendWorks (app : App) (runtime : Runtime) : Prop :=
  callbackAddrIsValid app.callbacks.suspend ∧ runtime.callbackResults.headD 0 = 0

instance (app : App) (runtime : Runtime) : Decidable (SuspendWorks app runtime) :=
  inferInstanceAs (Decidable (_ ∧ _))

theorem invokeCallback_works (address : Nat) (pointerName callbackName : String)
    (valid : callbackAddrIsValid address) (works : runtime.callbackResults.headD 0 = 0) :
    invokeCallback address pointerName callbackName runtime =
      (0, { runtime with callbackResults := runtime.callbackResults.tail }) := by
  rw [invokeCallback, if_neg (not_not.mpr valid)]
  exact if_neg (not_not.mpr works)

theorem invokeCallback_fails (address : Nat) (pointerName callbackName : String)
    (broken : ¬ (callbackAddrIsValid address ∧ runtime.callbackResults.headD 0 = 0)) :
    (invokeCallback address pointerName callbackName runtime).1 ≠ 0 := by
  unfold invokeCallback
  split
  · exact fail_nonzero _ _ (by decide) _
  · next valid =>
    have refused : (invoke runtime).1 ≠ 0 := fun zero => broken ⟨not_not.mp valid, zero⟩
    dsimp only
    rw [if_pos refused]
    exact fail_nonzero _ _ (by decide) _

theorem stateOf_apps {left right : Runtime} (same : left.apps = right.apps) :
    stateOf left = stateOf right :=
  funext fun name => congrArg (Option.map App.state) (findApp_apps same name)

theorem stateOf_setApp {edit : App → App} {state : AppState}
    (kept : ∀ app, (edit app).name = app.name) (becomes : ∀ app, (edit app).state = state)
    (found : findApp runtime name = some app) :
    stateOf (setApp runtime name edit) = Function.update (stateOf runtime) name (some state) := by
  funext other
  by_cases here : other = name
  · rw [here, Function.update_self, stateOf, findApp_setApp kept found, Option.map_some, becomes]
  · rw [Function.update_of_ne here, stateOf, findApp_setApp_other kept here]
    rfl

/-- What making room does: nothing where there is room, and otherwise the suspension of
the candidate or a failure. -/
inductive SlotEffect (request : App) (runtime : Runtime) (slot : Int × Runtime) : Prop where
  | free (room : runningCount runtime < runtime.policy.maxRunningApps)
      (same : slot = (0, runtime))
  | refused (full : ¬ runningCount runtime < runtime.policy.maxRunningApps)
      (noone : runtime.policy.allowPreemptiveSuspend = true →
        preemptionCandidate request runtime.apps none = none)
      (failed : slot.1 ≠ 0) (same : slot.2.apps = runtime.apps)
  | resists {victim : App} (full : ¬ runningCount runtime < runtime.policy.maxRunningApps)
      (allowed : runtime.policy.allowPreemptiveSuspend = true)
      (chosen : preemptionCandidate request runtime.apps none = some victim)
      (broken : ¬ SuspendWorks victim runtime)
      (failed : slot.1 ≠ 0) (same : slot.2.apps = runtime.apps)
  | suspends {victim : App} (full : ¬ runningCount runtime < runtime.policy.maxRunningApps)
      (allowed : runtime.policy.allowPreemptiveSuspend = true)
      (chosen : preemptionCandidate request runtime.apps none = some victim)
      (works : SuspendWorks victim runtime) (worked : slot.1 = 0)
      (results : slot.2.callbackResults = runtime.callbackResults.tail)
      (states : stateOf slot.2 =
        Function.update (stateOf runtime) victim.name.text (some .suspended))

theorem findApp_member (named : [] ∉ names runtime) (distinct : (names runtime).Nodup)
    (member : app ∈ runtime.apps) : findApp runtime app.name.text = some app := by
  have some : app.name.text ≠ [] := fun empty =>
    named (by rw [← empty]; exact List.mem_map_of_mem member)
  rw [findApp, if_neg some]
  exact find_member distinct member

theorem ensureRunningSlot_effect (request : App) (named : [] ∉ names runtime)
    (distinct : (names runtime).Nodup) :
    SlotEffect request runtime (ensureRunningSlot request runtime) := by
  unfold ensureRunningSlot
  by_cases room : runningCount runtime < runtime.policy.maxRunningApps
  · rw [if_pos room]
    exact .free room rfl
  rw [if_neg room]
  by_cases allowed : runtime.policy.allowPreemptiveSuspend = true
  swap
  · rw [if_pos allowed]
    exact .refused room (fun able => absurd able allowed) (fail_nonzero _ _ (by decide) _) rfl
  rw [if_neg (not_not.mpr allowed)]
  cases chosen : preemptionCandidate request runtime.apps none with
  | none => exact .refused room (fun _ => chosen) (fail_nonzero _ _ (by decide) _) rfl
  | some victim =>
      obtain ⟨running, member | seeded⟩ :=
        preemptionCandidate_runs chosen (fun _ none => nomatch none)
      swap
      · cases seeded
      dsimp only
      rw [suspendInternal, if_neg (not_not.mpr running)]
      by_cases works : SuspendWorks victim runtime
      · rw [invokeCallback_works _ _ _ works.1 works.2]
        refine .suspends room allowed chosen works rfl rfl ?_
        exact stateOf_setApp (by intro _; rfl) (by intro _; rfl)
          (findApp_member named distinct member)
      · have failed := invokeCallback_fails victim.callbacks.suspend "app_suspend_ptr"
          "app_suspend" works
        have same := (invokeCallback_quieter runtime victim.callbacks.suspend "app_suspend_ptr"
          "app_suspend").1
        dsimp only
        rw [if_pos failed]
        exact .resists room allowed chosen works failed same

inductive RunEffect (request : RunRequest) (name : Text) (app : App)
    (slot result : Int × Runtime) : Prop where
  | refused (full : slot.1 ≠ 0) (failed : result.1 ≠ 0) (same : result.2.apps = slot.2.apps)
  | fails (room : slot.1 = 0) (broken : ¬ request.Succeeds app slot.2.callbackResults)
      (failed : result.1 ≠ 0) (same : result.2.apps = slot.2.apps)
  | runs (room : slot.1 = 0) (works : request.Succeeds app slot.2.callbackResults)
      (worked : result.1 = 0)
      (states : stateOf result.2 = Function.update (stateOf slot.2) name (some .running))

theorem findApp_slot (found : findApp runtime name = some app) :
    findApp (ensureRunningSlot app runtime).2 name = some app := by
  have own := @ensureRunningSlot_own runtime app
  rw [(findApp_named found).2] at own
  exact own.trans found

theorem start_effect (startArgs : Text) (found : findApp runtime name = some app)
    (ready : app.state = .initialized) :
    RunEffect (.start startArgs) name app (ensureRunningSlot app runtime)
      (start name startArgs runtime) := by
  have there := findApp_slot found
  rw [start, if_neg (findApp_named found).1, found]
  dsimp only
  rw [if_neg (not_not.mpr ready)]
  have entry : startAddress app = if app.callbacks.startV2 ≠ 0 then app.callbacks.startV2
    else app.callbacks.startLegacy := rfl
  rw [← entry]
  generalize (if app.callbacks.startV2 ≠ 0 then "app_start_v2_ptr" else "app_start_ptr") =
    pointerName
  split
  · next full => exact .refused full full rfl
  next room =>
  rw [not_not] at room
  split
  · next invalid =>
    exact .fails room (fun works => invalid works.1) (fail_nonzero _ _ (by decide) _) rfl
  next valid =>
  split
  · next unread =>
    exact .fails room (fun works => unread.2 (works.2.1 unread.1))
      (fail_nonzero _ _ (exceptionFromErrno_fails _) _) rfl
  next read =>
  by_cases works : (ensureRunningSlot app runtime).2.callbackResults.headD 0 = 0
  · rw [invokeCallback_works _ _ _ (not_not.mp valid) works]
    refine .runs room ⟨not_not.mp valid, fun v2 => ?_, works⟩ rfl ?_
    · exact not_not.mp fun unread => read ⟨v2, unread⟩
    · exact stateOf_setApp (by intro _; rfl) (by intro _; rfl) there
  · have failed := invokeCallback_fails (startAddress app) pointerName "app_start"
      (fun both => works both.2)
    rw [if_pos failed]
    exact .fails room (fun all => works all.2.2) failed (invokeCallback_quieter _ _ _ _).1

theorem resume_effect (found : findApp runtime name = some app) (ready : app.state = .suspended) :
    RunEffect .resume name app (ensureRunningSlot app runtime) (resume name runtime) := by
  have there := findApp_slot found
  rw [resume, if_neg (findApp_named found).1, found]
  dsimp only
  rw [if_neg (not_not.mpr ready)]
  split
  · next full => exact .refused full full rfl
  next room =>
  rw [not_not] at room
  by_cases works : RunRequest.resume.Succeeds app (ensureRunningSlot app runtime).2.callbackResults
  · rw [invokeCallback_works _ _ _ works.1 works.2]
    refine .runs room works rfl ?_
    exact stateOf_setApp (by intro _; rfl) (by intro _; rfl) there
  · have failed := invokeCallback_fails app.callbacks.resume "app_resume_ptr" "app_resume" works
    rw [if_pos failed]
    exact .fails room works failed (invokeCallback_quieter _ _ _ _).1

theorem request_effect (request : RunRequest) (found : findApp runtime name = some app)
    (ready : app.state = request.awaits) :
    RunEffect request name app (ensureRunningSlot app runtime) (request.apply name runtime) := by
  cases request with
  | start startArgs => exact start_effect startArgs found ready
  | resume => exact resume_effect found ready

theorem request_rejected (request : RunRequest)
    (unfit : ∀ app, findApp runtime name = some app → app.state ≠ request.awaits) :
    (request.apply name runtime).1 ≠ 0 ∧ (request.apply name runtime).2.apps = runtime.apps := by
  have failed : ∀ operation code cause, code ≠ ExceptionCode.none →
      (fail operation code cause runtime).1 ≠ 0 ∧
        (fail operation code cause runtime).2.apps = runtime.apps :=
    fun operation code cause some => ⟨fail_nonzero operation code some cause, rfl⟩
  cases request with
  | start startArgs =>
      rw [RunRequest.apply, start]
      split
      · exact failed _ _ _ (by decide)
      cases found : findApp runtime name with
      | none => exact failed _ _ _ (by decide)
      | some app =>
          have other : app.state ≠ .initialized := unfit app found
          dsimp only
          rw [if_pos other]
          exact failed _ _ _ (by decide)
  | resume =>
      rw [RunRequest.apply, resume]
      split
      · exact failed _ _ _ (by decide)
      cases found : findApp runtime name with
      | none => exact failed _ _ _ (by decide)
      | some app =>
          have other : app.state ≠ .suspended := unfit app found
          dsimp only
          rw [if_pos other]
          exact failed _ _ _ (by decide)

end Effects

/-- A runtime that calls have led to, with what the callbacks of the next one return. -/
def reached (noLimit : Nat) (steps : List Step) (callbackResults : List Int) : Runtime :=
  { run noLimit steps with callbackResults := callbackResults }

/-- Another application is suspended for a call that then fails in its own part. -/
def SuspendsInVain (request : RunRequest) (name : Text) (runtime : Runtime) : Prop :=
  ∃ app victim, findApp runtime name = some app ∧ app.state = request.awaits ∧
    preempted app runtime = some victim ∧ ¬ request.Succeeds app runtime.callbackResults.tail

/-- The application was not suspended before, and it is afterwards. -/
def BecomesSuspended (before after : Runtime) (name : Text) : Prop :=
  stateOf before name ≠ some .suspended ∧ stateOf after name = some .suspended

section Calls

variable {runtime : Runtime} {name : Text} {app victim : App} {request : RunRequest}

theorem preempted_eq_some_iff :
    preempted app runtime = some victim ↔
      ¬ runningCount runtime < runtime.policy.maxRunningApps ∧
      runtime.policy.allowPreemptiveSuspend = true ∧
      preemptionCandidate app runtime.apps none = some victim ∧ SuspendWorks victim runtime := by
  unfold preempted
  split
  · next open_ =>
    constructor
    · intro none
      cases none
    · rintro ⟨full, allowed, -⟩
      exact absurd open_ (not_or.mpr ⟨full, not_not.mpr allowed⟩)
  · next closed =>
    obtain ⟨full, allowed⟩ := not_or.mp closed
    rw [Option.filter_eq_some_iff, decide_eq_true_eq]
    exact ⟨fun found => ⟨full, not_not.mp allowed, found⟩, fun all => all.2.2⟩

/-- The states after making room are those before, unless another application made room. -/
theorem slot_states (slot : SlotEffect app runtime (ensureRunningSlot app runtime)) :
    (preempted app runtime = none ∧
      stateOf (ensureRunningSlot app runtime).2 = stateOf runtime) ∨
    ∃ victim, preempted app runtime = some victim ∧ (ensureRunningSlot app runtime).1 = 0 ∧
      (ensureRunningSlot app runtime).2.callbackResults = runtime.callbackResults.tail ∧
      stateOf (ensureRunningSlot app runtime).2 =
        Function.update (stateOf runtime) victim.name.text (some .suspended) := by
  have spared : (∀ victim, preempted app runtime ≠ some victim) → preempted app runtime = none :=
    Option.eq_none_iff_forall_ne_some.mpr
  cases slot with
  | free room same =>
      refine .inl ⟨spared fun victim preempts => ?_, by rw [same]⟩
      exact (preempted_eq_some_iff.mp preempts).1 room
  | refused _ noone _ same =>
      refine .inl ⟨spared fun victim preempts => ?_, stateOf_apps same⟩
      obtain ⟨_, allowed, chosen, _⟩ := preempted_eq_some_iff.mp preempts
      rw [noone allowed] at chosen
      cases chosen
  | @resists candidate _ _ chosen broken _ same =>
      refine .inl ⟨spared fun victim preempts => ?_, stateOf_apps same⟩
      obtain ⟨_, _, again, works⟩ := preempted_eq_some_iff.mp preempts
      rw [chosen] at again
      cases again
      exact broken works
  | @suspends victim full allowed chosen works worked results states =>
      exact .inr ⟨victim, preempted_eq_some_iff.mpr ⟨full, allowed, chosen, works⟩, worked,
        results, states⟩

theorem victim_running (preempts : preempted app runtime = some victim) :
    victim.state = .running ∧ victim ∈ runtime.apps := by
  obtain ⟨_, _, chosen, _⟩ := preempted_eq_some_iff.mp preempts
  obtain ⟨running, member | seeded⟩ :=
    preemptionCandidate_runs chosen (fun _ none => nomatch none)
  · exact ⟨running, member⟩
  · cases seeded

/-- A call that fails leaves every state, if and only if it does not suspend in vain. -/
theorem failure_keeps_iff (named : [] ∉ names runtime) (distinct : (names runtime).Nodup) :
    ((request.apply name runtime).1 ≠ 0 →
        ∀ other, stateOf (request.apply name runtime).2 other = stateOf runtime other) ↔
      ¬ SuspendsInVain request name runtime := by
  by_cases fit : ∃ app, findApp runtime name = some app ∧ app.state = request.awaits
  swap
  · obtain ⟨_, same⟩ := request_rejected request fun app found ready => fit ⟨app, found, ready⟩
    constructor
    · rintro _ ⟨app, _, found, ready, _⟩
      exact fit ⟨app, found, ready⟩
    · exact fun _ _ => congrFun (stateOf_apps same)
  obtain ⟨app, found, ready⟩ := fit
  have effect := request_effect request found ready
  rcases slot_states (ensureRunningSlot_effect app named distinct) with
    ⟨none, kept⟩ | ⟨victim, preempts, room, results, states⟩
  · -- nobody made room: a failure keeps what the slot kept
    have spared : ¬ SuspendsInVain request name runtime := by
      rintro ⟨other, victim, again, _, preempts, _⟩
      rw [found] at again
      cases again
      rw [none] at preempts
      cases preempts
    refine iff_of_true (fun failed => ?_) spared
    cases effect with
    | refused _ _ same => exact congrFun ((stateOf_apps same).trans kept)
    | fails _ _ _ same => exact congrFun ((stateOf_apps same).trans kept)
    | runs _ _ worked _ => exact absurd worked failed
  · obtain ⟨running, member⟩ := victim_running preempts
    -- the victim ran before, so a failure behind its suspension has changed a state
    have before : stateOf runtime victim.name.text = some .running := by
      rw [stateOf, findApp_member named distinct member, Option.map_some, running]
    cases effect with
    | refused full _ _ => exact absurd room full
    | fails _ broken failed same =>
        rw [results] at broken
        refine iff_of_false (fun keeps => ?_) fun spared =>
          spared ⟨app, victim, found, ready, preempts, broken⟩
        have after := congrFun ((stateOf_apps same).trans states) victim.name.text
        rw [keeps failed, Function.update_self, before] at after
        cases after
    | runs _ works worked _ =>
        rw [results] at works
        refine iff_of_true (fun failed => absurd worked failed) ?_
        rintro ⟨other, _, again, _, _, broken⟩
        rw [found] at again
        cases again
        exact broken works

end Calls

theorem reached_names (noLimit : Nat) (steps : List Step) (callbackResults : List Int) :
    [] ∉ names (reached noLimit steps callbackResults) ∧
      (names (reached noLimit steps callbackResults)).Nodup := run_names noLimit steps

/-- A start or a resume that fails leaves the state of every application, if and only if
no other application was suspended for it. -/
theorem failing_request_keeps_states (noLimit : Nat) (steps : List Step)
    (callbackResults : List Int) (request : RunRequest) (name : Text) :
    ((request.apply name (reached noLimit steps callbackResults)).1 ≠ 0 →
      ∀ other, stateOf (request.apply name (reached noLimit steps callbackResults)).2 other =
        stateOf (reached noLimit steps callbackResults) other) ↔
      ¬ SuspendsInVain request name (reached noLimit steps callbackResults) :=
  failure_keeps_iff (reached_names noLimit steps callbackResults).1
    (reached_names noLimit steps callbackResults).2

def fanRuns : List Step :=
  [⟨.load loadsWell (fun _ => some (.file [1])) (lit "pump") (lit "/apps/pump.llext"), []⟩,
    ⟨.load { loadsWell with priority := 5 } (fun _ => some (.file [1])) (lit "fan")
      (lit "/apps/fan.llext"), []⟩,
    ⟨.setPolicy ⟨2, 1, true⟩, []⟩, ⟨.start (lit "fan") [], []⟩]

/-- The fan is suspended for the pump, and then the pump does not start. -/
theorem failing_start_suspends :
    ¬ ∀ (noLimit : Nat) (steps : List Step) (callbackResults : List Int) (request : RunRequest)
      (name : Text), (request.apply name (reached noLimit steps callbackResults)).1 ≠ 0 →
      ∀ other, stateOf (request.apply name (reached noLimit steps callbackResults)).2 other =
        stateOf (reached noLimit steps callbackResults) other := by
  intro claimed
  have outcome :
      (start (lit "pump") [] (reached 4294967295 fanRuns [0, -5])).1 ≠ 0 ∧
      stateOf (start (lit "pump") [] (reached 4294967295 fanRuns [0, -5])).2 (lit "fan") =
        some .suspended ∧
      stateOf (reached 4294967295 fanRuns [0, -5]) (lit "fan") = some .running := by
    decide +kernel
  have same := claimed 4294967295 fanRuns [0, -5] (.start []) (lit "pump") outcome.1 (lit "fan")
  have clash := (outcome.2.1.symm.trans same).trans outcome.2.2
  cases clash

/-- Who is suspended for a call about an application in the state the call expects. -/
structure Makes (app : App) (before : Runtime) (result : Int × Runtime) : Prop where
  free : runningCount before < before.policy.maxRunningApps →
    ∀ other, ¬ BecomesSuspended before result.2 other
  refused : before.policy.maxRunningApps ≤ runningCount before →
    (before.policy.allowPreemptiveSuspend = true →
      ∀ other ∈ before.apps, other.state = .running → other.priority ≤ app.priority) →
    result.1 ≠ 0 ∧ ∀ other, ¬ BecomesSuspended before result.2 other
  picked : before.policy.maxRunningApps ≤ runningCount before →
    before.policy.allowPreemptiveSuspend = true →
    (∃ other ∈ before.apps, other.state = .running ∧ app.priority < other.priority) →
    ∃ victim, IsVictim app before.apps victim ∧
      (SuspendWorks victim before → ∀ other, BecomesSuspended before result.2 other ↔
        other = victim.name.text) ∧
      (¬ SuspendWorks victim before →
        result.1 ≠ 0 ∧ ∀ other, ¬ BecomesSuspended before result.2 other)

section Victim

variable {runtime : Runtime} {name : Text} {app victim : App} {request : RunRequest}

theorem spared_of_same {after : Runtime} (same : stateOf after = stateOf runtime) (other : Text) :
    ¬ BecomesSuspended runtime after other :=
  fun becomes => becomes.1 ((congrFun same other).symm.trans becomes.2)

theorem becomesSuspended_runs {slot after : Runtime}
    (states : stateOf after = Function.update (stateOf slot) name (some .running)) (other : Text)
    (becomes : BecomesSuspended runtime after other) :
    other ≠ name ∧ BecomesSuspended runtime slot other := by
  obtain ⟨active, suspended⟩ := becomes
  rw [states] at suspended
  by_cases own : other = name
  · rw [own, Function.update_self] at suspended
    cases suspended
  · rw [Function.update_of_ne own] at suspended
    exact ⟨own, active, suspended⟩

theorem spared_of_slot {slot result : Int × Runtime}
    (effect : RunEffect request name app slot result)
    (kept : stateOf slot.2 = stateOf runtime) (other : Text) :
    ¬ BecomesSuspended runtime result.2 other := by
  intro becomes
  cases effect with
  | refused _ _ same => exact spared_of_same ((stateOf_apps same).trans kept) other becomes
  | fails _ _ _ same => exact spared_of_same ((stateOf_apps same).trans kept) other becomes
  | runs _ _ _ states =>
      exact spared_of_same kept other (becomesSuspended_runs states other becomes).2

theorem suspended_of_slot {slot result : Int × Runtime}
    (effect : RunEffect request name app slot result)
    (states : stateOf slot.2 =
      Function.update (stateOf runtime) victim.name.text (some .suspended))
    (running : stateOf runtime victim.name.text = some .running)
    (apart : victim.name.text ≠ name) (other : Text) :
    BecomesSuspended runtime result.2 other ↔ other = victim.name.text := by
  have slotted : ∀ after, stateOf after = stateOf slot.2 →
      (BecomesSuspended runtime after other ↔ other = victim.name.text) := by
    intro after same
    rw [BecomesSuspended, same, states]
    by_cases own : other = victim.name.text
    · rw [own, Function.update_self, running]
      simp
    · rw [Function.update_of_ne own]
      exact iff_of_false (fun both => both.1 both.2) own
  cases effect with
  | refused _ _ same => exact slotted result.2 (stateOf_apps same)
  | fails _ _ _ same => exact slotted result.2 (stateOf_apps same)
  | runs _ _ _ after =>
      constructor
      · intro becomes
        exact (slotted slot.2 rfl).mp (becomesSuspended_runs after other becomes).2
      · rintro rfl
        have suspended := ((slotted slot.2 rfl).mpr rfl)
        refine ⟨suspended.1, ?_⟩
        rw [after, Function.update_of_ne apart]
        exact suspended.2

theorem failed_of_slot {slot result : Int × Runtime}
    (effect : RunEffect request name app slot result) (failed : slot.1 ≠ 0) : result.1 ≠ 0 := by
  cases effect with
  | refused _ failed _ => exact failed
  | fails room _ _ _ => exact absurd room failed
  | runs room _ _ _ => exact absurd room failed

theorem request_makes (named : [] ∉ names runtime) (distinct : (names runtime).Nodup)
    (found : findApp runtime name = some app) (ready : app.state = request.awaits) :
    Makes app runtime (request.apply name runtime) := by
  have effect := request_effect request found ready
  have idle : app.state ≠ .running := by
    rw [ready]
    cases request <;> exact fun same => nomatch same
  have own := (findApp_named found).2
  have present : app ∈ runtime.apps := List.mem_of_find?_eq_some (findApp_find found).2
  -- there is a candidate exactly when a running application is less important
  have nobody : (∀ other ∈ runtime.apps, other.state = .running → other.priority ≤ app.priority) →
      preemptionCandidate app runtime.apps none = none := by
    intro low
    rw [preemptionCandidate_none_iff]
    exact fun other member eligible =>
      absurd eligible.2.2 (Nat.not_lt.mpr (low other member eligible.2.1))
  have somebody : preemptionCandidate app runtime.apps none = none →
      ¬ ∃ other ∈ runtime.apps, other.state = .running ∧ app.priority < other.priority := by
    rintro none ⟨other, member, running, above⟩
    refine preemptionCandidate_none_iff.mp none other member ⟨fun same => ?_, running, above⟩
    have there := find_member distinct member
    rw [same, find_member distinct present] at there
    cases there
    exact idle running
  -- the four ends of the search for a slot, each against the three parts of the claim
  cases ensureRunningSlot_effect app named distinct with
  | free room same =>
      have kept : stateOf (ensureRunningSlot app runtime).2 = stateOf runtime := by rw [same]
      exact ⟨fun _ => spared_of_slot effect kept,
        fun full _ => absurd room (Nat.not_lt.mpr full),
        fun full _ _ => absurd room (Nat.not_lt.mpr full)⟩
  | refused full noone failed same =>
      have spared := spared_of_slot effect (stateOf_apps same)
      exact ⟨fun _ => spared, fun _ _ => ⟨failed_of_slot effect failed, spared⟩,
        fun _ allowed above => absurd above (somebody (noone allowed))⟩
  | @resists victim full allowed chosen broken failed same =>
      have spared := spared_of_slot effect (stateOf_apps same)
      have isVictim := (preemptionCandidate_victim distinct present idle chosen).1
      exact ⟨fun _ => spared, fun _ _ => ⟨failed_of_slot effect failed, spared⟩,
        fun _ _ _ => ⟨victim, isVictim, fun works => absurd works broken,
          fun _ => ⟨failed_of_slot effect failed, spared⟩⟩⟩
  | @suspends victim full allowed chosen works worked results states =>
      obtain ⟨isVictim, member, apart⟩ := preemptionCandidate_victim distinct present idle chosen
      have before : stateOf runtime victim.name.text = some .running := by
        rw [stateOf, findApp_member named distinct member, Option.map_some, isVictim.1]
      have away : victim.name.text ≠ name := by
        rw [← own]
        exact fun same => apart (Buffer.text_injective same)
      refine ⟨fun room => absurd room full, fun _ low => ?_, fun _ _ _ => ?_⟩
      · rw [nobody (low allowed)] at chosen
        cases chosen
      · exact ⟨victim, isVictim, fun _ => suspended_of_slot effect states before away,
          fun broken => absurd works broken⟩

end Victim

/-- Whom a start or a resume suspends: the first of the least important running
applications where the limit is reached, if that one can be suspended, and otherwise
nobody. -/
theorem request_suspends_victim (noLimit : Nat) (steps : List Step)
    (callbackResults : List Int) (request : RunRequest) (name : Text) :
    (∀ app, findApp (reached noLimit steps callbackResults) name = some app →
      app.state = request.awaits →
      Makes app (reached noLimit steps callbackResults)
        (request.apply name (reached noLimit steps callbackResults))) ∧
    ((∀ app, findApp (reached noLimit steps callbackResults) name = some app →
      app.state ≠ request.awaits) →
      (request.apply name (reached noLimit steps callbackResults)).1 ≠ 0 ∧
      ∀ other, ¬ BecomesSuspended (reached noLimit steps callbackResults)
        (request.apply name (reached noLimit steps callbackResults)).2 other) := by
  obtain ⟨named, distinct⟩ := reached_names noLimit steps callbackResults
  constructor
  · intro app found ready
    exact request_makes named distinct found ready
  · intro unfit
    obtain ⟨failed, same⟩ := request_rejected request unfit
    exact ⟨failed, spared_of_same (stateOf_apps same)⟩

/-- The fan refuses to be suspended for the pump. -/
theorem preemption_fails :
    ¬ ∀ (noLimit : Nat) (steps : List Step) (callbackResults : List Int) (request : RunRequest)
      (name : Text) (app : App),
      findApp (reached noLimit steps callbackResults) name = some app → app.state ≠ .running →
      (reached noLimit steps callbackResults).policy.maxRunningApps ≤
        runningCount (reached noLimit steps callbackResults) →
      (reached noLimit steps callbackResults).policy.allowPreemptiveSuspend = true →
      (∃ other ∈ (reached noLimit steps callbackResults).apps,
        other.state = .running ∧ app.priority < other.priority) →
      ∃ victim, IsVictim app (reached noLimit steps callbackResults).apps victim ∧
        ∀ other, BecomesSuspended (reached noLimit steps callbackResults)
          (request.apply name (reached noLimit steps callbackResults)).2 other ↔
            other = victim.name.text := by
  intro claimed
  have waiting : (findApp (reached 4294967295 fanRuns [-5]) (lit "pump")).map
      (fun app => (app.state, app.priority)) = some (.initialized, 0) := by decide +kernel
  obtain ⟨app, found, shape⟩ := Option.map_eq_some_iff.mp waiting
  obtain ⟨initialized, least⟩ := Prod.mk.inj shape
  have full : (reached 4294967295 fanRuns [-5]).policy.maxRunningApps ≤
        runningCount (reached 4294967295 fanRuns [-5]) ∧
      (reached 4294967295 fanRuns [-5]).policy.allowPreemptiveSuspend = true ∧
      ∃ other ∈ (reached 4294967295 fanRuns [-5]).apps,
        other.state = .running ∧ 0 < other.priority := by decide +kernel
  have awake : ∀ other ∈ (start (lit "pump") [] (reached 4294967295 fanRuns [-5])).2.apps,
      other.state ≠ .suspended := by decide +kernel
  obtain ⟨victim, _, suspended⟩ := claimed 4294967295 fanRuns [-5] (.start []) (lit "pump") app
    found (by rw [initialized]; decide) full.1 full.2.1 (by rw [least]; exact full.2.2)
  obtain ⟨other, there, state⟩ :=
    Option.map_eq_some_iff.mp ((suspended victim.name.text).mpr rfl).2
  exact awake other (List.mem_of_find?_eq_some (findApp_find there).2) state

end NeuroLink.RunningSlot
