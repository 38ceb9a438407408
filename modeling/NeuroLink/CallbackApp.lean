import NeuroLink.RequestText
import NeuroLink.UnitEvents

/-!
The application `neuro_unit_app`, which the unit loads and hands its commands to. What the
application announces is stated twice: by its own variables, and by what it has been told
since it was initialised.
-/

namespace NeuroLink.CallbackApp

open CText RequestText UnitEvents

/-- `struct neuro_unit_app_callback_config`; a field is there when its `has` flag is set. -/
structure CallbackConfig where
  callbackEnabled : Option Bool
  triggerEvery : Option Int32
  eventName : Option (Buffer 32)
  deriving DecidableEq

/-- `neuro_unit_read_callback_config_json`. -/
def readCallbackConfigJson (longMax : Nat) (json : Text) : CallbackConfig where
  callbackEnabled := jsonExtractBool json (lit "callback_enabled")
  triggerEvery := jsonExtractInt longMax json (lit "trigger_every")
  eventName := jsonExtractString json (lit "event_name")

def nothing : CallbackConfig := ⟨none, none, none⟩

/-- The static variables of the application. -/
structure App where
  initialized : Bool
  running : Bool
  startCount : Int32
  callbackEnabled : Bool
  callbackTriggerEvery : Int32
  invokeCount : UInt32
  callbackEventName : Buffer 32

def callbackName : Buffer 32 := copyBounded (lit "callback")

/-- The application as its image is loaded. -/
def App.loaded : App := ⟨false, false, 0, false, 0, 0, callbackName⟩

def told (longMax : Nat) (requestJson : Option Text) : CallbackConfig :=
  (requestJson.map (readCallbackConfigJson longMax)).getD nothing

/-- `command_updates_callback_config`. -/
def commandUpdatesCallbackConfig (config : CallbackConfig) (app : App) : Bool × App :=
  let enabled := config.callbackEnabled.getD app.callbackEnabled
  let every :=
    (config.triggerEvery.map fun every => if every < 0 then 0 else every).getD
      app.callbackTriggerEvery
  let name := (config.eventName.map fun name => copyBounded name.text).getD app.callbackEventName
  (enabled != app.callbackEnabled || every != app.callbackTriggerEvery || config.eventName.isSome,
    { app with
      callbackEnabled := enabled
      callbackTriggerEvery := every
      callbackEventName := name })

/-- The variables once a command has been read and counted. -/
def App.invoked (app : App) (config : CallbackConfig) : App :=
  let updated := (commandUpdatesCallbackConfig config app).2
  { updated with invokeCount := updated.invokeCount + 1 }

def callbackEvent (app : App) : UnitEvent :=
  .callback (lit "neuro_unit_app") app.callbackEventName.text app.invokeCount app.startCount

/-- `maybe_publish_callback_event`: what it publishes. -/
def maybePublishCallbackEvent (app : App) : Option UnitEvent :=
  if ¬ app.callbackEnabled ∨ app.callbackTriggerEvery ≤ 0 then none
  else if app.invokeCount % app.callbackTriggerEvery.toUInt32 ≠ 0 then none
  else some (callbackEvent app)

/-- `struct neuro_unit_app_command_reply`, without its constant texts. -/
structure CommandReply where
  invokeCount : UInt32
  callbackEnabled : Bool
  triggerEvery : Int32
  eventName : Buffer 32
  configChanged : Bool
  publishRet : Int

/-- The calls of the runtime; a command comes with what `neuro_unit_publish_callback_event`
answers if it is called. -/
inductive Call where
  | load
  | init
  | start
  | suspend
  | resume
  | stop
  | deinit
  | onCommand (commandName : Text) (requestJson : Option Text) (publishRet : Int)

/-- What a call returns and leaves, and what it publishes and replies on the way. -/
structure Done where
  ret : Int
  app : App
  event : Option UnitEvent
  reply : Option CommandReply

/-- `app_on_command`. -/
def appOnCommand (longMax : Nat) (commandName : Text) (requestJson : Option Text)
    (publishRet : Int) (app : App) : Done :=
  if ¬ app.initialized ∨ ¬ app.running then ⟨-1, app, none, none⟩
  else if commandName ≠ lit "invoke" then ⟨-2, app, none, none⟩
  else
    let config := told longMax requestJson
    let configChanged := (commandUpdatesCallbackConfig config app).1
    let app := app.invoked config
    let event := maybePublishCallbackEvent app
    { ret := 0
      app := app
      event := event
      reply := some
        { invokeCount := app.invokeCount
          callbackEnabled := app.callbackEnabled
          triggerEvery := app.callbackTriggerEvery
          eventName := app.callbackEventName
          configChanged := configChanged
          publishRet := if event.isSome then publishRet else 0 } }

/-- `app_init` to `app_on_command`. -/
def answer (longMax : Nat) (app : App) : Call → Done
  | .load => ⟨0, .loaded, none, none⟩
  | .init =>
      ⟨0, { app with
        initialized := true
        callbackEnabled := false
        callbackTriggerEvery := 0
        invokeCount := 0
        callbackEventName := callbackName }, none, none⟩
  | .start =>
      if ¬ app.initialized then ⟨-1, app, none, none⟩
      else ⟨0, { app with running := true, startCount := app.startCount + 1 }, none, none⟩
  | .suspend =>
      if ¬ app.running then ⟨-1, app, none, none⟩
      else ⟨0, { app with running := false }, none, none⟩
  | .resume =>
      if ¬ app.initialized ∨ app.running then ⟨-1, app, none, none⟩
      else ⟨0, { app with running := true }, none, none⟩
  | .stop =>
      if ¬ app.initialized then ⟨-1, app, none, none⟩
      else ⟨0, { app with running := false }, none, none⟩
  | .deinit =>
      -- the event name and the number of starts stay
      ⟨0, { app with
        initialized := false
        running := false
        callbackEnabled := false
        callbackTriggerEvery := 0
        invokeCount := 0 }, none, none⟩
  | .onCommand commandName requestJson publishRet =>
      appOnCommand longMax commandName requestJson publishRet app

/-- The application and what it has published, oldest first. -/
structure World where
  app : App
  events : List UnitEvent

def take (longMax : Nat) (world : World) (call : Call) : World :=
  let done := answer longMax world.app call
  ⟨done.app, world.events ++ done.event.toList⟩

def after (longMax : Nat) (calls : List Call) : World :=
  calls.foldl (take longMax) ⟨.loaded, []⟩

/-! What the application has been told. -/

inductive Phase where
  | absent
  | idle
  | running
  deriving DecidableEq

/-- `heard` has what each command since the last initialisation told, oldest first. -/
structure History where
  phase : Phase
  starts : Int32
  heard : List CallbackConfig
  announced : List UnitEvent

/-- The last setting of the switch counts, and before the first one it is off. -/
def enabledBy (heard : List CallbackConfig) : Bool :=
  (heard.filterMap (·.callbackEnabled)).getLast?.getD false

def everyBy (heard : List CallbackConfig) : Nat :=
  ((heard.filterMap (·.triggerEvery)).getLast?.map (·.toInt.toNat)).getD 0

def nameBy (heard : List CallbackConfig) : Text :=
  ((heard.filterMap (·.eventName)).getLast?.map (·.text)).getD (lit "callback")

def interval (heard : List CallbackConfig) : Nat := if enabledBy heard then everyBy heard else 0

/-- The invocation of that number is announced: the number is kept in 32 bits. -/
def Due (every number : Nat) : Prop := 0 < every ∧ every ∣ number % 2 ^ 32

instance (every number : Nat) : Decidable (Due every number) :=
  inferInstanceAs (Decidable (_ ∧ _))

def announcement (starts : Int32) (heard : List CallbackConfig) : UnitEvent :=
  .callback (lit "neuro_unit_app") (nameBy heard) (UInt32.ofNat heard.length) starts

def History.tell (history : History) (config : CallbackConfig) : History :=
  let heard := history.heard ++ [config]
  { history with
    heard := heard
    announced := history.announced ++
      if Due (interval heard) heard.length then [announcement history.starts heard] else [] }

def History.take (longMax : Nat) (history : History) : Call → History
  | .load => { history with phase := .absent, starts := 0, heard := [] }
  | .init =>
      { history with phase := if history.phase = .running then .running else .idle, heard := [] }
  | .start =>
      if history.phase = .absent then history
      else { history with phase := .running, starts := history.starts + 1 }
  | .suspend => if history.phase = .running then { history with phase := .idle } else history
  | .resume => if history.phase = .idle then { history with phase := .running } else history
  | .stop => if history.phase = .absent then history else { history with phase := .idle }
  | .deinit => { history with phase := .absent, heard := [] }
  | .onCommand commandName requestJson _ =>
      if history.phase = .running ∧ commandName = lit "invoke" then
        history.tell (told longMax requestJson)
      else history

def history (longMax : Nat) (calls : List Call) : History :=
  calls.foldl (History.take longMax) ⟨.absent, 0, [], []⟩

structure Agrees (world : World) (history : History) : Prop where
  initialized : world.app.initialized = true ↔ history.phase ≠ .absent
  running : world.app.running = true ↔ history.phase = .running
  starts : world.app.startCount = history.starts
  enabled : world.app.callbackEnabled = enabledBy history.heard
  positive : 0 ≤ world.app.callbackTriggerEvery.toInt
  every : world.app.callbackTriggerEvery.toInt = everyBy history.heard
  number : world.app.invokeCount = UInt32.ofNat history.heard.length
  name : history.phase ≠ .absent → world.app.callbackEventName.text = nameBy history.heard
  events : world.events = history.announced

theorem lastGiven_tell {Value : Type} (field : CallbackConfig → Option Value)
    (heard : List CallbackConfig) (config : CallbackConfig) :
    ((heard ++ [config]).filterMap field).getLast? =
      (field config).or (heard.filterMap field).getLast? := by
  rw [List.filterMap_append]
  cases given : field config <;> simp [given]

theorem enabledBy_tell (heard : List CallbackConfig) (config : CallbackConfig) :
    enabledBy (heard ++ [config]) = config.callbackEnabled.getD (enabledBy heard) := by
  rw [enabledBy, lastGiven_tell, enabledBy]
  cases config.callbackEnabled <;> rfl

theorem everyBy_tell (heard : List CallbackConfig) (config : CallbackConfig) :
    everyBy (heard ++ [config]) =
      (config.triggerEvery.map (·.toInt.toNat)).getD (everyBy heard) := by
  rw [everyBy, lastGiven_tell, everyBy]
  cases config.triggerEvery <;> rfl

theorem nameBy_tell (heard : List CallbackConfig) (config : CallbackConfig) :
    nameBy (heard ++ [config]) = (config.eventName.map (·.text)).getD (nameBy heard) := by
  rw [nameBy, lastGiven_tell, nameBy]
  cases config.eventName <;> rfl

/-- An interval is kept as it is, and one below zero as zero. -/
theorem every_clamped (every : Int32) :
    (if every < 0 then 0 else every : Int32).toInt = every.toInt.toNat := by
  by_cases negative : every < 0
  · have below : every.toInt < 0 := Int32.lt_iff_toInt_lt.mp negative
    rw [if_pos negative, Int.toNat_of_nonpos below.le]
    rfl
  · have above : 0 ≤ every.toInt := not_lt.mp fun below =>
      negative (Int32.lt_iff_toInt_lt.mpr below)
    rw [if_neg negative, Int.toNat_of_nonneg above]

theorem unsigned_every {every : Int32} (positive : 0 ≤ every.toInt) :
    every.toUInt32.toNat = every.toInt.toNat := by
  have bits : every.toInt = every.toBitVec.toInt := rfl
  rw [bits, BitVec.toInt_eq_toNat_cond] at positive ⊢
  split at positive
  · next small => rw [if_pos small]; rfl
  · have := every.toBitVec.isLt
    omega

/-- The test on the two machine numbers is the one on the number of the invocation. -/
theorem multiple_iff {every : Int32} {number : Nat} (positive : 0 < every.toInt) :
    UInt32.ofNat number % every.toUInt32 = 0 ↔ every.toInt.toNat ∣ number % 2 ^ 32 := by
  rw [← UInt32.toNat_inj, UInt32.toNat_mod, unsigned_every positive.le, UInt32.toNat_ofNat',
    Nat.dvd_iff_mod_eq_zero]
  rfl

variable {world : World} {config : CallbackConfig} {heard : List CallbackConfig}

/-- The application publishes the invocation exactly when it is due. -/
theorem maybePublish_due {app : App} {starts : Int32} (sameStarts : app.startCount = starts)
    (enabled : app.callbackEnabled = enabledBy heard)
    (positive : 0 ≤ app.callbackTriggerEvery.toInt)
    (every : app.callbackTriggerEvery.toInt = everyBy heard)
    (number : app.invokeCount = UInt32.ofNat heard.length)
    (name : app.callbackEventName.text = nameBy heard) :
    (maybePublishCallbackEvent app).toList =
      if Due (interval heard) heard.length then [announcement starts heard] else [] := by
  rw [maybePublishCallbackEvent, interval, ← enabled]
  by_cases on : app.callbackEnabled = true
  · by_cases some : 0 < app.callbackTriggerEvery.toInt
    · have kept : ¬ app.callbackTriggerEvery ≤ 0 := fun below =>
        absurd (Int32.le_iff_toInt_le.mp below) (not_le.mpr some)
      have same : everyBy heard = app.callbackTriggerEvery.toInt.toNat := by omega
      have test := @multiple_iff app.callbackTriggerEvery heard.length some
      have due : Due (everyBy heard) heard.length ↔
          app.invokeCount % app.callbackTriggerEvery.toUInt32 = 0 := by
        rw [number, test, Due, same, and_iff_right (by omega)]
      have event : callbackEvent app = announcement starts heard := by
        rw [callbackEvent, announcement, name, number, sameStarts]
      simp only [on, not_true_eq_false, kept, or_self, if_false, if_true, due, event]
      by_cases hit : app.invokeCount % app.callbackTriggerEvery.toUInt32 = 0 <;> simp [hit]
    · have zero : everyBy heard = 0 := by omega
      have below : app.callbackTriggerEvery ≤ 0 := Int32.le_iff_toInt_le.mpr (not_lt.mp some)
      simp [below, zero, Due]
  · simp [on, Due]

theorem agrees_told {history : History} (agrees : Agrees world history)
    (present : history.phase ≠ .absent) :
    Agrees
      ⟨world.app.invoked config,
        world.events ++ (maybePublishCallbackEvent (world.app.invoked config)).toList⟩
      (history.tell config) := by
  -- each variable after the command, by what the command tells of it
  have starts : (world.app.invoked config).startCount = history.starts := agrees.starts
  have enabled : (world.app.invoked config).callbackEnabled =
      enabledBy (history.heard ++ [config]) := by
    rw [enabledBy_tell, ← agrees.enabled]
    rfl
  have every : (world.app.invoked config).callbackTriggerEvery.toInt =
      everyBy (history.heard ++ [config]) := by
    rw [everyBy_tell]
    simp only [App.invoked, commandUpdatesCallbackConfig]
    cases config.triggerEvery with
    | none => exact agrees.every
    | some every => exact every_clamped every
  have positive : 0 ≤ (world.app.invoked config).callbackTriggerEvery.toInt := by omega
  have number : (world.app.invoked config).invokeCount =
      UInt32.ofNat (history.heard ++ [config]).length := by
    rw [List.length_append, List.length_singleton, UInt32.ofNat_add, ← agrees.number]
    rfl
  have name : (world.app.invoked config).callbackEventName.text =
      nameBy (history.heard ++ [config]) := by
    rw [nameBy_tell]
    simp only [App.invoked, commandUpdatesCallbackConfig]
    cases config.eventName with
    | none => exact agrees.name present
    | some name => simp [copyBounded_buffer]
  exact
    { initialized := agrees.initialized
      running := agrees.running
      starts := starts
      enabled := enabled
      positive := positive
      every := every
      number := number
      name := fun _ => name
      events := by
        rw [agrees.events]
        exact congrArg (history.announced ++ ·)
          (maybePublish_due starts enabled positive every number name) }

theorem Agrees.guards {history : History} (agrees : Agrees world history) :
    world.app.initialized = decide (history.phase ≠ .absent) ∧
      world.app.running = decide (history.phase = .running) :=
  ⟨Bool.eq_iff_iff.mpr (by simpa using agrees.initialized),
    Bool.eq_iff_iff.mpr (by simpa using agrees.running)⟩

theorem Agrees.moved {history : History} (agrees : Agrees world history) (phase : Phase)
    (starts : Int32) (kept : phase ≠ .absent → history.phase ≠ .absent) :
    Agrees
      ⟨{ world.app with
          initialized := decide (phase ≠ .absent)
          running := decide (phase = .running)
          startCount := starts }, world.events⟩
      { history with phase := phase, starts := starts } where
  initialized := by simp
  running := by simp
  starts := rfl
  enabled := agrees.enabled
  positive := agrees.positive
  every := agrees.every
  number := agrees.number
  name := fun present => agrees.name (kept present)
  events := agrees.events

theorem agrees_take (longMax : Nat) {history : History} (agrees : Agrees world history)
    (call : Call) : Agrees (take longMax world call) (history.take longMax call) := by
  obtain ⟨initialized, running⟩ := agrees.guards
  have starts := agrees.starts
  have events := agrees.events
  cases call with
  -- a fresh image has heard nothing, and neither has one that was initialised
  | load => constructor <;> simp [take, answer, History.take, App.loaded, events] <;> decide
  | init =>
      have phase : (if history.phase = .running then .running else .idle : Phase) ≠ .absent := by
        split <;> simp
      constructor <;> simp only [take, answer, History.take, events, starts, running]
      case initialized => simpa using phase
      case running => split <;> simp_all
      case name => exact fun _ => by decide
      case events => exact List.append_nil _
      all_goals simp [enabledBy, everyBy]
  | start =>
      cases phase : history.phase
      case absent => simpa [take, answer, History.take, initialized, phase] using agrees
      all_goals
        simpa [take, answer, History.take, initialized, starts, phase] using
          agrees.moved .running (history.starts + 1) (by simp [phase])
  | suspend =>
      cases phase : history.phase
      case running =>
        simpa [take, answer, History.take, initialized, running, starts, phase] using
          agrees.moved .idle history.starts (by simp [phase])
      all_goals simpa [take, answer, History.take, running, phase] using agrees
  | resume =>
      cases phase : history.phase
      case idle =>
        simpa [take, answer, History.take, initialized, running, starts, phase] using
          agrees.moved .running history.starts (by simp [phase])
      all_goals simpa [take, answer, History.take, initialized, running, phase] using agrees
  | stop =>
      cases phase : history.phase
      case absent => simpa [take, answer, History.take, initialized, phase] using agrees
      all_goals
        simpa [take, answer, History.take, initialized, starts, phase] using
          agrees.moved .idle history.starts (by simp [phase])
  | deinit =>
      constructor <;> simp only [take, answer, History.take, events, starts]
      case events => exact List.append_nil _
      all_goals simp [enabledBy, everyBy]
  | onCommand commandName requestJson publishRet =>
      -- only the command the application knows is heard, and only while it runs
      by_cases accepted : history.phase = .running ∧ commandName = lit "invoke"
      · obtain ⟨up, rfl⟩ := accepted
        simpa [take, answer, appOnCommand, History.take, initialized, running, up] using
          agrees_told agrees (by simp [up])
      · rw [History.take, if_neg accepted, take, answer, appOnCommand]
        split
        · simpa using agrees
        next ready =>
          have up : history.phase ≠ .absent ∧ history.phase = .running := by
            simpa [initialized, running] using ready
          rw [if_pos fun named => accepted ⟨up.2, named⟩]
          simpa using agrees

/-- After any run the variables of the application are what it has been told. -/
theorem agrees_after (longMax : Nat) (calls : List Call) :
    Agrees (after longMax calls) (history longMax calls) := by
  rw [after, history]
  have loaded : Agrees ⟨.loaded, []⟩ ⟨.absent, 0, [], []⟩ := by
    constructor <;> simp [App.loaded, enabledBy, everyBy]
  induction calls using List.reverseRecOn with
  | nil => exact loaded
  | append_singleton calls call ih =>
      rw [List.foldl_append, List.foldl_append]
      exact agrees_take longMax ih call

/-- The application announces itself as it has been told, in any order of calls. -/
theorem announces_as_told (longMax : Nat) (calls : List Call) :
    (after longMax calls).events = (history longMax calls).announced ∧
      ((after longMax calls).app.running = true ↔ (history longMax calls).phase = .running) :=
  ⟨(agrees_after longMax calls).events, (agrees_after longMax calls).running⟩

/-! A stretch in which the application is told nothing new. -/

/-- The call leaves the settings and the number of invocations so far in force. -/
def Quiet (longMax : Nat) : Call → Prop
  | .load | .init | .deinit => False
  | .onCommand _ requestJson _ => told longMax requestJson = nothing
  | .start | .suspend | .resume | .stop => True

/-- How many of the first invocations are announced. The number wraps to zero, which every
interval divides. -/
def occurrences (every total : Nat) : Nat :=
  if every = 0 then 0
  else total / 2 ^ 32 * ((2 ^ 32 - 1) / every + 1) + total % 2 ^ 32 / every

theorem occurrences_succ (every total : Nat) :
    occurrences every (total + 1) =
      occurrences every total + if Due every (total + 1) then 1 else 0 := by
  rw [occurrences, occurrences]
  by_cases off : every = 0
  · simp [off, Due]
  have positive : 0 < every := by omega
  rw [if_neg off, if_neg off]
  -- the next invocation starts a new round of the counter, or it goes on in this one
  by_cases wraps : (total + 1) % 2 ^ 32 = 0
  · have turn : (total + 1) / 2 ^ 32 = total / 2 ^ 32 + 1 := by omega
    have last : total % 2 ^ 32 = 2 ^ 32 - 1 := by omega
    rw [if_pos ⟨positive, wraps ▸ Nat.dvd_zero every⟩, turn, wraps, last, Nat.zero_div,
      Nat.add_mul, Nat.one_mul]
    rfl
  · have turn : (total + 1) / 2 ^ 32 = total / 2 ^ 32 := by omega
    have next : (total + 1) % 2 ^ 32 = total % 2 ^ 32 + 1 := by omega
    have due : Due every (total + 1) ↔ every ∣ total % 2 ^ 32 + 1 := by
      rw [Due, next, and_iff_right positive]
    simp only [turn, next, Nat.succ_div, due, Nat.add_assoc]

def announcedNumbers (every start count : Nat) : List Nat :=
  (List.range' (start + 1) count).filter (Due every)

theorem announcedNumbers_succ (every start count : Nat) :
    announcedNumbers every start (count + 1) = announcedNumbers every start count ++
      if Due every (start + count + 1) then [start + count + 1] else [] := by
  have last : start + 1 + count = start + count + 1 := by omega
  rw [announcedNumbers, List.range'_1_concat, List.filter_append, last, announcedNumbers]
  by_cases due : Due every (start + count + 1) <;> simp [due]

theorem announcedNumbers_length (every start count : Nat) :
    (announcedNumbers every start count).length + occurrences every start =
      occurrences every (start + count) := by
  induction count with
  | zero => simp [announcedNumbers]
  | succ count ih =>
      rw [announcedNumbers_succ, List.length_append, ← Nat.add_assoc start, occurrences_succ, ← ih]
      split
      · simp only [List.length_singleton]
        omega
      · simp

def numberOf : UnitEvent → Option UInt32
  | .callback _ _ number _ => some number
  | _ => none

def nameOf : UnitEvent → Option Text
  | .callback _ name _ _ => some name
  | _ => none

/-- What is published while the invocations go on to the total after what was heard. -/
structure Stretch (heard : List CallbackConfig) (total : Nat) (added : List UnitEvent) :
    Prop where
  onward : heard.length ≤ total
  numbers : added.map numberOf =
    (announcedNumbers (interval heard) heard.length (total - heard.length)).map
      fun number => some (UInt32.ofNat number)
  names : ∀ event ∈ added, nameOf event = some (nameBy heard)
  many : added.length =
    occurrences (interval heard) total - occurrences (interval heard) heard.length

variable {longMax : Nat}

theorem interval_nothing (heard : List CallbackConfig) :
    interval (heard ++ [nothing]) = interval heard := by
  rw [interval, enabledBy_tell, everyBy_tell, interval]
  rfl

theorem nameBy_nothing (heard : List CallbackConfig) :
    nameBy (heard ++ [nothing]) = nameBy heard := by
  rw [nameBy_tell]
  rfl

/-- A quiet call is an invocation that tells nothing, or it leaves both lists alone. -/
theorem quiet_cases {call : Call} (quiet : Quiet longMax call) (history : History) :
    (history.take longMax call).heard = history.heard ∧
        (history.take longMax call).announced = history.announced ∨
      history.take longMax call = history.tell nothing := by
  cases call with
  | load | init | deinit => exact quiet.elim
  | start | stop | suspend | resume =>
      rw [History.take]
      split <;> exact .inl ⟨rfl, rfl⟩
  | onCommand commandName requestJson publishRet =>
      rw [History.take]
      split
      · exact .inr (by rw [quiet])
      · exact .inl ⟨rfl, rfl⟩

/-- Settings that tell nothing new are the settings before. -/
structure Settled (before now : List CallbackConfig) : Prop where
  interval : interval now = interval before
  name : nameBy now = nameBy before

theorem Stretch.next {heard now : List CallbackConfig} {added : List UnitEvent}
    (stretch : Stretch heard now.length added) (starts : Int32) (settled : Settled heard now) :
    Stretch heard (now ++ [nothing]).length (added ++
      if Due (CallbackApp.interval (now ++ [nothing])) (now ++ [nothing]).length then
        [announcement starts (now ++ [nothing])] else []) := by
  obtain ⟨onward, numbers, names, many⟩ := stretch
  have length : (now ++ [nothing]).length = now.length + 1 := by simp
  have steps : now.length + 1 - heard.length = (now.length - heard.length) + 1 := by omega
  have reached : heard.length + (now.length - heard.length) + 1 = now.length + 1 := by omega
  rw [interval_nothing, settled.interval, length]
  refine ⟨by omega, ?_, ?_, ?_⟩
  · rw [steps, announcedNumbers_succ, List.map_append, List.map_append, numbers, reached]
    split
    · rw [List.map_singleton, List.map_singleton, announcement, numberOf, length]
    · rfl
  · intro event inside
    rcases List.mem_append.mp inside with early | last
    · exact names event early
    · split at last
      · rw [List.mem_singleton.mp last, announcement, nameOf, nameBy_nothing, settled.name]
      · cases last
  · have before := announcedNumbers_length (CallbackApp.interval heard) heard.length
      (now.length - heard.length)
    rw [Nat.add_sub_cancel' onward] at before
    rw [List.length_append, many, occurrences_succ]
    split
    · simp only [List.length_singleton]
      omega
    · simp

/-- While nothing new is told, every so many invocations are announced, under one name and
with their numbers, however the application is stopped and resumed in between. -/
theorem every_nth (longMax : Nat) (calls later : List Call)
    (quiet : ∀ call ∈ later, Quiet longMax call) :
    ∃ added, (after longMax (calls ++ later)).events = (after longMax calls).events ++ added ∧
      Stretch (history longMax calls).heard (history longMax (calls ++ later)).heard.length
        added := by
  rw [(agrees_after longMax calls).events, (agrees_after longMax (calls ++ later)).events]
  -- the settings are carried along, since each call may be the next invocation
  suffices stretched : ∃ added,
      (history longMax (calls ++ later)).announced =
        (history longMax calls).announced ++ added ∧
      Settled (history longMax calls).heard (history longMax (calls ++ later)).heard ∧
      Stretch (history longMax calls).heard (history longMax (calls ++ later)).heard.length
        added from
    stretched.imp fun _ facts => ⟨facts.1, facts.2.2⟩
  induction later using List.reverseRecOn with
  | nil =>
      rw [List.append_nil]
      exact ⟨[], (List.append_nil _).symm, ⟨rfl, rfl⟩,
        ⟨le_rfl, by simp [announcedNumbers], by simp, by simp⟩⟩
  | append_singleton later call ih =>
      obtain ⟨added, announced, settled, stretch⟩ :=
        ih fun call inside => quiet call (List.mem_append_left _ inside)
      have last : history longMax (calls ++ (later ++ [call])) =
          (history longMax (calls ++ later)).take longMax call := by
        rw [← List.append_assoc, history, List.foldl_append]
        rfl
      rw [last]
      rcases quiet_cases (quiet call (by simp)) (history longMax (calls ++ later)) with
        ⟨heard, same⟩ | told
      · rw [heard, same]
        exact ⟨added, announced, settled, stretch⟩
      · rw [told]
        refine ⟨_, by rw [History.tell, announced, List.append_assoc], ?_, ?_⟩
        · exact ⟨(interval_nothing _).trans settled.interval,
            (nameBy_nothing _).trans settled.name⟩
        · exact stretch.next _ settled

/-! A command that sets an interval of two, and four that set nothing. -/

def everySecond : Call :=
  .onCommand (lit "invoke")
    (some (lit "\x7b\"callback_enabled\":true,\"trigger_every\":2,\"event_name\":\"tick\"\x7d")) 0

def plainInvoke : Call := .onCommand (lit "invoke") (some (lit "\x7b\x7d")) 0

def configured : List Call := [.load, .init, .start, everySecond]

def secondTicks : List Call := [plainInvoke, plainInvoke, .suspend, plainInvoke, .resume,
  plainInvoke, plainInvoke]

theorem secondTicks_quiet : ∀ call ∈ secondTicks, Quiet (2 ^ 31 - 1) call := by
  have plain : Quiet (2 ^ 31 - 1) plainInvoke := by
    rw [plainInvoke, Quiet]
    decide
  intro call inside
  simp only [secondTicks, List.mem_cons, List.not_mem_nil, or_false] at inside
  rcases inside with rfl | rfl | rfl | rfl | rfl | rfl | rfl <;> first | exact plain | trivial

theorem secondTicks_announced : ∃ added,
    (after (2 ^ 31 - 1) (configured ++ secondTicks)).events =
      (after (2 ^ 31 - 1) configured).events ++ added ∧
    added.map numberOf = [some 2, some 4] ∧ ∀ event ∈ added, nameOf event = some (lit "tick") :=
  (every_nth (2 ^ 31 - 1) configured secondTicks secondTicks_quiet).imp fun _ facts =>
    ⟨facts.1, facts.2.numbers.trans (by decide), fun event inside =>
      (facts.2.names event inside).trans (by decide)⟩

end NeuroLink.CallbackApp
