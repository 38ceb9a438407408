import NeuroLink.BridgeFidelity
import NeuroLink.CallbackApp

/-!
A request on its way to `neuro_unit_app`: the unit writes it as JSON, member by member, and
the application reads the text again.
-/

namespace NeuroLink.CallbackRequest

open CText RequestText RequestBridge BridgeFidelity CallbackApp

section Joined

variable {key : Text} {member : Member} {members : List Member} {tail : Text}

/-- One quote is not enough for a quoted key. -/
theorem strstr_lone (key : Text) (unquoted : quote ∉ tail) :
    strstr (quoted key) (quote :: tail) = none := by
  by_contra present
  obtain ⟨found, search⟩ := Option.ne_none_iff_exists'.mp present
  -- a quoted key has two quotes, the text has one
  obtain ⟨starts, ends⟩ := strstr_prefix search
  have inside := starts.sublist.trans ends.sublist
  have most := inside.count_le quote
  rw [List.count_cons_self, List.count_eq_zero.mpr unquoted] at most
  have least : 2 ≤ (quoted key).count quote := by
    rw [quoted, enclose, List.count_cons_self, List.count_append, List.count_singleton_self]
    omega
  omega

theorem strstr_passes (plain : Plain key) (clean : member.Clean) (other : member.key ≠ key)
    (unspelled : member.value ≠ .text key) (rest : Text) :
    strstr (quoted key) (member.print ++ comma :: quote :: rest) =
      strstr (quoted key) (quote :: rest) := by
  have search := strstr_member [] (quote :: rest) plain clean.1.1
  rw [if_neg other] at search
  have shape : member.print ++ comma :: quote :: rest = printMembers [member] ++ quote :: rest := by
    simp [printMembers]
  rw [shape, search]
  cases written : member.value with
  | text content =>
      have unquoted : quote ∉ content := by simpa [written, Written.QuoteFree] using clean.2
      have different : content ≠ key := fun same => unspelled (by rw [written, same])
      rw [strstr_after_text _ plain unquoted, if_neg different]
      exact @strstr_separator key [comma] rest plain (by decide)
        (.inr (List.mem_singleton_self comma))
  | number value => exact strstr_after_bare rest plain (by simp)
  | flag value => exact strstr_after_bare rest plain (by simp)

theorem strstr_last (plain : Plain key) (clean : member.Clean) (other : member.key ≠ key)
    (unspelled : member.value ≠ .text key) (unquoted : quote ∉ tail) :
    strstr (quoted key) (member.print ++ tail) = none := by
  have shape : member.print ++ tail =
      quote :: (member.key ++ quote :: (colon :: (member.value.print ++ tail))) := by
    simp [Member.print, quoted, enclose]
  rw [shape, quoted, strstr_segment _ plain.1 clean.1.1, if_neg other]
  cases written : member.value with
  | text content =>
      have inside : quote ∉ content := by simpa [written, Written.QuoteFree] using clean.2
      have different : content ≠ key := fun same => unspelled (by rw [written, same])
      have opened : quote :: (colon :: ((Written.text content).print ++ tail)) =
          quote :: ([colon] ++ quote :: (content ++ quote :: tail)) := by
        simp [Written.print, quoted, enclose]
      have separator := strstr_separator (content ++ quote :: tail) plain
        (show quote ∉ [colon] by decide) (.inl (List.mem_singleton_self colon))
      rw [quoted] at separator
      rw [opened, separator, strstr_segment tail plain.1 inside, if_neg different]
      exact strstr_lone key unquoted
  | number value =>
      have bare := print_unquoted (.number value) (by simp)
      exact strstr_lone key (by simp [bare, unquoted, show quote ≠ colon by decide])
  | flag value =>
      have bare := print_unquoted (.flag value) (by simp)
      exact strstr_lone key (by simp [bare, unquoted, show quote ≠ colon by decide])

theorem joinMembers_starts (some : members ≠ []) (tail : Text) :
    ∃ rest, joinMembers members ++ tail = quote :: rest := by
  match members, some with
  | [member], _ => exact ⟨_, by simp only [joinMembers, Member.print, quoted, enclose]; rfl⟩
  | member :: next :: rest, _ =>
      exact ⟨_, by simp only [joinMembers, Member.print, quoted, enclose]; rfl⟩

theorem joinMembers_cons (member next : Member) (rest : List Member) (tail : Text) :
    joinMembers (member :: next :: rest) ++ tail =
      member.print ++ comma :: (joinMembers (next :: rest) ++ tail) := by
  rw [joinMembers]
  · simp
  · simp

theorem valueAfter_absent (plain : Plain key) (clean : ∀ member ∈ members, member.Clean)
    (other : ∀ member ∈ members, member.key ≠ key)
    (unspelled : ∀ member ∈ members, member.value ≠ .text key) (unquoted : quote ∉ tail) :
    valueAfter (quoted key) (joinMembers members ++ tail) = none := by
  suffices absent : strstr (quoted key) (joinMembers members ++ tail) = none by
    rw [valueAfter, absent]
    rfl
  induction members with
  | nil =>
      rw [joinMembers, List.nil_append, ← List.append_nil tail, quoted,
        strstr_unmarked key tail [] unquoted]
      simp [strstr, enclose]
  | cons member rest ih =>
      have cleanHere := clean member (by simp)
      have otherHere := other member (by simp)
      have unspelledHere := unspelled member (by simp)
      cases rest with
      | nil => exact strstr_last plain cleanHere otherHere unspelledHere unquoted
      | cons next others =>
          obtain ⟨opened, starts⟩ := joinMembers_starts (List.cons_ne_nil next others) tail
          have ih := ih (fun member inside => clean member (List.mem_cons_of_mem _ inside))
            (fun member inside => other member (List.mem_cons_of_mem _ inside))
            (fun member inside => unspelled member (List.mem_cons_of_mem _ inside))
          rw [joinMembers_cons, starts, strstr_passes plain cleanHere otherHere unspelledHere,
            ← starts]
          exact ih

theorem valueAfter_present {value : Written} (plain : Plain key)
    (clean : ∀ member ∈ members, member.Clean)
    (unspelled : ∀ member ∈ members, member.value ≠ .text key)
    (distinct : (members.map (·.key)).Nodup) (present : ⟨key, value⟩ ∈ members) :
    ∃ more, valueAfter (quoted key) (joinMembers members ++ tail) = some (value.print ++ more) ∧
      (more = tail ∨ ∃ rest, more = comma :: rest) := by
  induction members with
  | nil => cases present
  | cons member rest ih =>
      have cleanHere := clean member (by simp)
      have later := (List.nodup_cons.mp distinct).2
      by_cases here : member.key = key
      · have own : member.value = value := by
          rcases List.mem_cons.mp present with same | inside
          · rw [← same]
          -- a second member with the key would repeat it
          · have twice : member.key ∈ rest.map (·.key) := here ▸ List.mem_map.mpr ⟨_, inside, rfl⟩
            exact absurd twice (List.nodup_cons.mp distinct).1
        have printed : member.print = quoted key ++ colon :: value.print := by
          rw [Member.print, here, own]
        -- behind the value stands the end of the text or the next member
        cases rest with
        | nil =>
            refine ⟨tail, valueAfter_key value ?_, .inl rfl⟩
            rw [joinMembers, printed, List.append_assoc]
            exact strstr_here (List.prefix_append _ _) (List.cons_ne_nil _ _)
        | cons next others =>
            refine ⟨comma :: (joinMembers (next :: others) ++ tail), valueAfter_key value ?_,
              .inr ⟨_, rfl⟩⟩
            rw [joinMembers_cons, printed, List.append_assoc]
            exact strstr_here (List.prefix_append _ _) (List.cons_ne_nil _ _)
      · have inside : ⟨key, value⟩ ∈ rest := by
          rcases List.mem_cons.mp present with same | inside
          · exact absurd (by rw [← same]) here
          · exact inside
        cases rest with
        | nil => cases inside
        | cons next others =>
            obtain ⟨opened, starts⟩ := joinMembers_starts (List.cons_ne_nil next others) tail
            have ih := ih (fun member inside => clean member (List.mem_cons_of_mem _ inside))
              (fun member inside => unspelled member (List.mem_cons_of_mem _ inside)) later inside
            rw [valueAfter, joinMembers_cons, starts,
              strstr_passes plain cleanHere here (unspelled member (by simp)), ← starts]
            exact ih

end Joined

/-! What the application reads of a request. -/

def requestMembers (metadata : RequestMetadata) (fields : RequestFields) : List Member :=
  metadataMembers metadata ++ leaseMembers fields ++ startMembers fields ++
    (if fields.hasCallbackEnabled then [⟨lit "callback_enabled", .flag fields.callbackEnabled⟩]
      else []) ++
    (if fields.hasTriggerEvery then [⟨lit "trigger_every", .number fields.triggerEvery.toInt⟩]
      else []) ++
    (if fields.hasEventName then [⟨lit "event_name", .text fields.eventName.text⟩] else [])

/-- What the client set. -/
def sentConfig (fields : RequestFields) : CallbackConfig where
  callbackEnabled := if fields.hasCallbackEnabled then some fields.callbackEnabled else none
  triggerEvery := if fields.hasTriggerEvery then some fields.triggerEvery else none
  eventName := if fields.hasEventName then some fields.eventName else none

theorem joinMembers_snoc {members : List Member} (some : members ≠ []) (member : Member) :
    joinMembers (members ++ [member]) = joinMembers members ++ comma :: member.print := by
  induction members with
  | nil => exact absurd rfl some
  | cons first rest ih =>
      cases rest with
      | nil => simp [joinMembers]
      | cons next others =>
          have longer := joinMembers_cons first next (others ++ [member]) []
          have shorter := joinMembers_cons first next others []
          simp only [List.append_nil] at longer shorter
          have ih := ih (List.cons_ne_nil next others)
          rw [List.cons_append] at ih
          rw [List.cons_append, List.cons_append, longer, ih, shorter]
          simp

theorem printOptional_joined {jsonLen : Nat} {wanted : Bool} {members : List Member}
    {member : Member} {json : Text} (some : members ≠ [])
    (printed : printOptional jsonLen wanted (openBrace ++ joinMembers members) member.print =
      .ok json) :
    json = openBrace ++ joinMembers (members ++ if wanted then [member] else []) := by
  cases wanted with
  | false =>
      cases printed
      simp
  | true =>
      obtain rfl := printInto_ok printed
      simp [joinMembers_snoc some]

theorem request_text {jsonLen : Nat} {metadata : RequestMetadata} {fields : RequestFields}
    {json : Text} (bridged : cborRequestToInternalJson jsonLen metadata fields = .ok json)
    (plainRequest : fields.argsJson.text = []) :
    json = openBrace ++ (joinMembers (requestMembers metadata fields) ++ lit "\x7d") := by
  obtain ⟨head, printed, bridged⟩ := bind_ok bridged
  obtain ⟨enabled, first, bridged⟩ := bind_ok bridged
  obtain ⟨args, second, bridged⟩ := bind_ok bridged
  obtain ⟨every, third, bridged⟩ := bind_ok bridged
  obtain ⟨named, fourth, bridged⟩ := bind_ok bridged
  obtain rfl := printInto_ok printed
  obtain rfl := printOptional_joined (by simp [metadataMembers]) first
  rw [plainRequest] at second
  obtain rfl : _ = args := Except.ok.inj second
  obtain rfl := printOptional_joined (by simp [metadataMembers]) third
  obtain rfl := printOptional_joined (by simp [metadataMembers]) fourth
  obtain rfl := printInto_ok bridged
  rw [List.append_assoc]
  rfl

def requestKeys (enabled every name : Bool) : List Text :=
  [lit "request_id", lit "source_core", lit "source_agent", lit "target_node", lit "timeout_ms",
    lit "priority", lit "idempotency_key", lit "lease_id", lit "forwarded", lit "resource",
    lit "ttl_ms", lit "start_args", lit "reason", lit "transport", lit "artifact_key",
    lit "size", lit "chunk_size"] ++
    (if enabled then [lit "callback_enabled"] else []) ++
    (if every then [lit "trigger_every"] else []) ++
    (if name then [lit "event_name"] else [])

section Read

variable {longMax : Nat} {metadata : RequestMetadata} {fields : RequestFields}

theorem requestMembers_keys :
    (requestMembers metadata fields).map (·.key) =
      requestKeys fields.hasCallbackEnabled fields.hasTriggerEvery fields.hasEventName := by
  rw [requestMembers, List.map_append, List.map_append, List.map_append]
  cases fields.hasCallbackEnabled <;> cases fields.hasTriggerEvery <;>
    cases fields.hasEventName <;> rfl

theorem requestKeys_plain : ∀ enabled every name,
    ∀ key ∈ requestKeys enabled every name, Plain key := by decide

theorem requestKeys_distinct : ∀ enabled every name,
    (requestKeys enabled every name).Nodup := by decide

def configKeys : List Text := [lit "callback_enabled", lit "trigger_every", lit "event_name"]

/-- No string of the request ends early, and none is spelled like a key of the configuration. -/
structure Undisturbed (metadata : RequestMetadata) (fields : RequestFields) : Prop where
  quoteFree : ∀ member ∈ requestMembers metadata fields, member.value.QuoteFree
  unspelled : ∀ key ∈ configKeys, ∀ member ∈ requestMembers metadata fields,
    member.value ≠ .text key

/-- The text in which the application gets the request. -/
def requestText (metadata : RequestMetadata) (fields : RequestFields) : Text :=
  openBrace ++ (joinMembers (requestMembers metadata fields) ++ lit "\x7d")

theorem Undisturbed.clean (undisturbed : Undisturbed metadata fields) :
    ∀ member ∈ requestMembers metadata fields, member.Clean := by
  intro member inside
  have listed := List.mem_map_of_mem (f := (·.key)) inside
  rw [requestMembers_keys] at listed
  exact ⟨requestKeys_plain _ _ _ _ listed, undisturbed.quoteFree member inside⟩

theorem Undisturbed.absent (undisturbed : Undisturbed metadata fields) {key : Text}
    (asked : key ∈ configKeys)
    (missing : key ∉
      requestKeys fields.hasCallbackEnabled fields.hasTriggerEvery fields.hasEventName) :
    jsonValueForKey (requestText metadata fields) key = none := by
  have plain : ∀ key ∈ configKeys, Plain key := by decide
  have other : ∀ member ∈ requestMembers metadata fields, member.key ≠ key := by
    rintro member inside rfl
    have listed := List.mem_map_of_mem (f := (·.key)) inside
    rw [requestMembers_keys] at listed
    exact missing listed
  rw [jsonValueForKey, requestText, valueAfter_opened, valueAfter_absent (plain key asked)
    undisturbed.clean other (undisturbed.unspelled key asked) (by decide), ite_self]

theorem Undisturbed.present (undisturbed : Undisturbed metadata fields) (key : Text)
    (value : Written) (asked : key ∈ configKeys)
    (inside : ⟨key, value⟩ ∈ requestMembers metadata fields) :
    ∃ more, jsonValueForKey (requestText metadata fields) key = some (value.print ++ more) ∧
      (more = lit "\x7d" ∨ ∃ rest, more = comma :: rest) := by
  have plain : ∀ key ∈ configKeys, Plain key ∧ (quoted key).length < 48 := by decide
  have distinct : ((requestMembers metadata fields).map (·.key)).Nodup := by
    rw [requestMembers_keys]
    exact requestKeys_distinct _ _ _
  obtain ⟨more, found, ends⟩ := @valueAfter_present key _ (lit "\x7d") value (plain key asked).1
    undisturbed.clean (undisturbed.unspelled key asked) distinct inside
  rw [jsonValueForKey, if_pos (plain key asked).2, requestText, valueAfter_opened]
  exact ⟨more, found, ends⟩

theorem intAt_own (wide : 2 ^ 31 - 1 ≤ longMax) (value : Int32) {more : Text}
    (ends : more = lit "\x7d" ∨ ∃ rest, more = comma :: rest) :
    intAt longMax ((Written.number value.toInt).print ++ more) = some value := by
  have own : (Written.number value.toInt).toInt longMax = some value := by
    have read := priorityRead_own longMax wide value
    rw [Written.toInt, Option.getD_some] at read
    rw [Written.toInt, read]
  rcases ends with rfl | ⟨rest, rfl⟩
  · rw [← own, intAt, Written.print, Written.toInt]
    exact congrArg (Option.map Int32.ofInt) (strtol_decimal longMax value.toInt _ [] (by decide))
  · rw [intAt_print, own]

theorem read_enabled (undisturbed : Undisturbed metadata fields) :
    jsonExtractBool (requestText metadata fields) (lit "callback_enabled") =
      (sentConfig fields).callbackEnabled := by
  rw [jsonExtractBool]
  change _ = if fields.hasCallbackEnabled then some fields.callbackEnabled else none
  split
  · next wanted =>
      obtain ⟨more, found, -⟩ := undisturbed.present (lit "callback_enabled")
        (.flag fields.callbackEnabled) (by decide) (by simp [requestMembers, wanted])
      rw [found, Option.bind_some, boolAt_print, Written.toBool]
  · next missing =>
      have absent : ∀ every name, lit "callback_enabled" ∉ requestKeys false every name := by decide
      rw [undisturbed.absent (by decide) (Bool.eq_false_iff.mpr missing ▸ absent _ _)]
      rfl

theorem read_every (wide : 2 ^ 31 - 1 ≤ longMax) (undisturbed : Undisturbed metadata fields) :
    jsonExtractInt longMax (requestText metadata fields) (lit "trigger_every") =
      (sentConfig fields).triggerEvery := by
  rw [jsonExtractInt]
  change _ = if fields.hasTriggerEvery then some fields.triggerEvery else none
  split
  · next wanted =>
      obtain ⟨more, found, ends⟩ := undisturbed.present (lit "trigger_every")
        (.number fields.triggerEvery.toInt) (by decide) (by simp [requestMembers, wanted])
      rw [found, Option.bind_some, intAt_own wide _ ends]
  · next missing =>
      have absent : ∀ enabled name, lit "trigger_every" ∉ requestKeys enabled false name := by
        decide
      rw [undisturbed.absent (by decide) (Bool.eq_false_iff.mpr missing ▸ absent _ _)]
      rfl

theorem read_name (undisturbed : Undisturbed metadata fields) :
    jsonExtractString (requestText metadata fields) (lit "event_name") =
      (sentConfig fields).eventName := by
  rw [jsonExtractString]
  change _ = if fields.hasEventName then some fields.eventName else none
  split
  · next wanted =>
      have inside : ⟨lit "event_name", .text fields.eventName.text⟩ ∈
          requestMembers metadata fields := by simp [requestMembers, wanted]
      obtain ⟨more, found, -⟩ := undisturbed.present (lit "event_name") _ (by decide) inside
      rw [found, Option.bind_some, stringAt_print more (undisturbed.quoteFree _ inside),
        Written.toBuffer, copyBounded_buffer]
  · next missing =>
      have absent : ∀ enabled every, lit "event_name" ∉ requestKeys enabled every false := by decide
      rw [undisturbed.absent (by decide) (Bool.eq_false_iff.mpr missing ▸ absent _ _)]
      rfl

/-- The application reads what was sent. -/
theorem read_sent (wide : 2 ^ 31 - 1 ≤ longMax) (undisturbed : Undisturbed metadata fields) :
    readCallbackConfigJson longMax (requestText metadata fields) = sentConfig fields := by
  rw [readCallbackConfigJson, read_enabled undisturbed, read_every wide undisturbed,
    read_name undisturbed]

end Read

/-- A request that reaches the running application sets what its sender set, counts as one
invocation, and is announced as the new settings say. -/
theorem request_settles (longMax jsonLen : Nat) (wide : 2 ^ 31 - 1 ≤ longMax)
    (metadata : RequestMetadata) (fields : RequestFields) (json : Text)
    (bridged : cborRequestToInternalJson jsonLen metadata fields = .ok json)
    (plainRequest : fields.argsJson.text = []) (undisturbed : Undisturbed metadata fields)
    (calls : List Call) (running : (after longMax calls).app.running = true) (publishRet : Int) :
    after longMax (calls ++ [.onCommand (lit "invoke") (some json) publishRet]) =
      ⟨(after longMax calls).app.invoked (sentConfig fields),
        (after longMax calls).events ++ (maybePublishCallbackEvent
          ((after longMax calls).app.invoked (sentConfig fields))).toList⟩ := by
  have read : told longMax (some json) = sentConfig fields := by
    rw [request_text bridged plainRequest]
    exact read_sent wide undisturbed
  have agrees := agrees_after longMax calls
  have initialized : (after longMax calls).app.initialized = true := by
    rw [agrees.initialized, agrees.running.mp running]
    simp
  have last : after longMax (calls ++ [.onCommand (lit "invoke") (some json) publishRet]) =
      CallbackApp.take longMax (after longMax calls)
        (.onCommand (lit "invoke") (some json) publishRet) := by
    rw [after, List.foldl_append]
    rfl
  rw [last, CallbackApp.take, answer, appOnCommand, read]
  simp [initialized, running]

def tickMetadata : RequestMetadata := copyMetadata
  { requestId := copyBounded (lit "req-7")
    sourceCore := copyBounded (lit "core-cli")
    sourceAgent := copyBounded (lit "rational")
    targetNode := copyBounded (lit "unit-01")
    leaseId := copyBounded (lit "lease-7")
    idempotencyKey := copyBounded (lit "idem-7")
    timeoutMs := 5000
    priority := 50
    forwarded := false }

def tickFields : RequestFields where
  resource := .empty
  argsJson := .empty
  ttlMs := 0
  startArgs := .empty
  reason := .empty
  transport := .empty
  artifactKey := .empty
  size := 0
  chunkSize := 0
  hasCallbackEnabled := true
  callbackEnabled := true
  hasTriggerEvery := true
  triggerEvery := 2
  hasEventName := true
  eventName := copyBounded (lit "tick")

theorem tickRequest_undisturbed : Undisturbed tickMetadata tickFields :=
  ⟨by decide, by decide⟩

theorem tickRequest_bridged :
    cborRequestToInternalJson NEURO_MAX_JSON_LEN tickMetadata tickFields =
      .ok (requestText tickMetadata tickFields) := by
  decide +kernel

theorem tickRequest_settles :
    (after (2 ^ 31 - 1) ([.load, .init, .start] ++
      [.onCommand (lit "invoke") (some (requestText tickMetadata tickFields)) 0])).app =
        (⟨true, true, 1, true, 2, 1, copyBounded (lit "tick")⟩ : App) := by
  rw [request_settles (2 ^ 31 - 1) NEURO_MAX_JSON_LEN (Nat.le_refl _) tickMetadata tickFields
    (requestText tickMetadata tickFields) tickRequest_bridged (by decide) tickRequest_undisturbed
    [.load, .init, .start] (by decide) 0]
  rfl

end NeuroLink.CallbackRequest
