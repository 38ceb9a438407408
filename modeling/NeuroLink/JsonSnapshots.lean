import NeuroLink.BoundedPrint
import NeuroLink.LeaseManager
import NeuroLink.QueryReplies

/-!
The builders of the JSON replies that list the applications and the leases. They append
piece by piece to the reply buffer and take a full buffer for an overflow, so a reply that
fills the buffer exactly is refused.
-/

namespace NeuroLink.JsonSnapshots

open BoundedPrint CText Errno
open QueryReplies (appRuntimeStateToStr artifactStateToStr)

/-- `safe_str`. -/
def safeStr (value : Option Text) : Text := value.getD []

/-- The memory from the reply buffer on, and the offset behind what was printed. -/
structure Out where
  memory : List UInt8
  pos : Nat

/-- `json_append` of a formatted text; the length that `vsnprintk` returns is never
negative. -/
def jsonAppend (bufLen : Nat) (out : Out) (text : Text) : Out :=
  if out.pos ≥ bufLen then out else
  let memory := print 0 out.memory out.pos (bufLen - out.pos) (bytes text)
  if text.length ≥ bufLen - out.pos then ⟨memory, bufLen - 1⟩
  else ⟨memory, out.pos + text.length⟩

/-- The loop of a builder: the rendered elements, all but the first after a comma. -/
def appendElements (bufLen : Nat) : List Text → Nat → Out → Out
  | [], _, out => out
  | element :: rest, index, out =>
      let out := if index > 0 then jsonAppend bufLen out (lit ",") else out
      appendElements bufLen rest (index + 1) (jsonAppend bufLen out element)

/-- What both builders do with the head and the rendered elements of their lists. -/
def buildList (jsonLen : Nat) (json : List UInt8) (head : Text) (elements : List Text) :
    Int × List UInt8 :=
  if jsonLen = 0 then (-einval, json) else
  let out := jsonAppend jsonLen ⟨json, 0⟩ head
  let out := appendElements jsonLen elements 0 out
  let out := jsonAppend jsonLen out (lit "]\x7d")
  if out.pos ≥ jsonLen - 1 then (-enametoolong, out.memory) else (0, out.memory)

/-- `struct neuro_unit_query_app_snapshot`. -/
structure QueryAppSnapshot where
  appId : Option Text
  runtimeState : AppRuntime.AppState
  path : Option Text
  priority : Nat
  manifestPresent : Bool
  updateState : Option Text
  artifactState : ArtifactStore.State
  stableRef : Option Text
  lastError : Option Text
  rollbackReason : Option Text

/-- `struct neuro_unit_query_apps_snapshot`; `app_snapshot_count` is the length of
`apps`. -/
structure QueryAppsSnapshot where
  appCount : Nat
  runningCount : Nat
  suspendedCount : Nat
  apps : List QueryAppSnapshot

/-- `(unsigned int)count`. -/
def unsigned (count : Nat) : Nat := count % 2 ^ 32

/-- The member `"name":"text"`. -/
def textMember (name : String) (text : Text) : Text :=
  lit "\"" ++ lit name ++ lit "\":\"" ++ text ++ lit "\""

/-- The member `"name":value` whose value is not quoted. -/
def plainMember (name : String) (value : Text) : Text :=
  lit "\"" ++ lit name ++ lit "\":" ++ value

def members (texts : List Text) : Text := (lit ",").intercalate texts

def appsHead (requestId nodeId : Option Text) (snapshot : QueryAppsSnapshot) : Text :=
  lit "\x7b" ++ members
    [textMember "status" (lit "ok"), textMember "request_id" (safeStr requestId),
      textMember "node_id" (safeStr nodeId),
      plainMember "app_count" (decimalNat (unsigned snapshot.appCount)),
      plainMember "running_count" (decimalNat (unsigned snapshot.runningCount)),
      plainMember "suspended_count" (decimalNat (unsigned snapshot.suspendedCount)),
      plainMember "apps" (lit "[")]

def appElement (app : QueryAppSnapshot) : Text :=
  lit "\x7b" ++ members
    [textMember "app_id" (safeStr app.appId),
      textMember "state" (appRuntimeStateToStr app.runtimeState),
      textMember "path" (safeStr app.path),
      plainMember "priority" (decimalNat app.priority),
      plainMember "manifest_present" (if app.manifestPresent then lit "true" else lit "false"),
      textMember "update_state" (app.updateState.getD (lit "NONE")),
      textMember "artifact_state" (artifactStateToStr app.artifactState),
      textMember "stable_ref" (safeStr app.stableRef),
      textMember "last_error" (safeStr app.lastError),
      textMember "rollback_reason" (safeStr app.rollbackReason)] ++ lit "\x7d"

def leasesHead (requestId nodeId : Option Text) : Text :=
  lit "\x7b" ++ members
    [textMember "status" (lit "ok"), textMember "request_id" (safeStr requestId),
      textMember "node_id" (safeStr nodeId), plainMember "leases" (lit "[")]

def leaseElement (lease : LeaseManager.Lease) : Text :=
  lit "\x7b" ++ members
    [textMember "lease_id" lease.leaseId.text, textMember "resource" lease.resource.text,
      textMember "source_core" lease.sourceCore.text,
      textMember "source_agent" lease.sourceAgent.text,
      plainMember "priority" (decimal lease.priority),
      plainMember "expires_at_ms" (decimal lease.expiresAtMs)] ++ lit "\x7d"

/-- `neuro_unit_build_query_apps_snapshot_response`, for a buffer and a snapshot that are
there. -/
def buildQueryAppsSnapshotResponse (json : List UInt8) (jsonLen : Nat)
    (requestId nodeId : Option Text) (snapshot : QueryAppsSnapshot) : Int × List UInt8 :=
  buildList jsonLen json (appsHead requestId nodeId snapshot) (snapshot.apps.map appElement)

/-- `neuro_unit_build_query_leases_response`. -/
def buildQueryLeasesResponse (json : List UInt8) (jsonLen : Nat)
    (requestId nodeId : Option Text) (entries : List LeaseManager.Lease) :
    Int × List UInt8 :=
  buildList jsonLen json (leasesHead requestId nodeId) (entries.map leaseElement)

/-! What has been printed. -/

structure Printed (bufLen : Nat) (json : List UInt8) (text : Text) (out : Out) : Prop where
  pos : out.pos = ((bytes text).take (bufLen - 1)).length
  holds : Holds bufLen json (bytes text) out.memory

theorem bytes_append (text more : Text) : bytes (text ++ more) = bytes text ++ bytes more :=
  List.map_append

variable {bufLen : Nat} {json : List UInt8}

theorem jsonAppend_step (some : 0 < bufLen) (room : bufLen ≤ json.length) {text : Text}
    {out : Out} (printed : Printed bufLen json text out) (more : Text) :
    Printed bufLen json (text ++ more) (jsonAppend bufLen out more) ∧
      (jsonAppend bufLen out more).memory.take ((jsonAppend bufLen out more).pos + 1) =
        (bytes (text ++ more)).take (bufLen - 1) ++ [0] := by
  have short : out.pos ≤ bufLen - 1 := by
    rw [printed.pos]
    exact List.length_take_le _ _
  obtain ⟨holds, shown⟩ := @print_holds _ 0 _ _ _ _ printed.holds (bytes more) some room
  rw [← bytes_append, ← printed.pos] at holds shown
  have length : text.length = (bytes text).length := (bytes_length text).symm
  have pos := printed.pos
  rw [List.length_take, ← length] at pos
  have next : (jsonAppend bufLen out more).pos =
      ((bytes (text ++ more)).take (bufLen - 1)).length := by
    rw [List.length_take, bytes_length, List.length_append, jsonAppend, if_neg (by omega)]
    dsimp only
    split
    · dsimp only
      omega
    · dsimp only
      omega
  have memory : (jsonAppend bufLen out more).memory =
      print 0 out.memory out.pos (bufLen - out.pos) (bytes more) := by
    rw [jsonAppend, if_neg (by omega)]
    dsimp only
    split <;> rfl
  rw [← memory] at holds shown
  exact ⟨⟨next, holds⟩, next ▸ shown⟩

def separated : List Text → Nat → Text
  | [], _ => []
  | element :: rest, index =>
      (if index > 0 then lit "," else []) ++ element ++ separated rest (index + 1)

theorem appendElements_run (some : 0 < bufLen) (room : bufLen ≤ json.length)
    (elements : List Text) (index : Nat) {text : Text} {out : Out}
    (printed : Printed bufLen json text out) :
    Printed bufLen json (text ++ separated elements index)
      (appendElements bufLen elements index out) := by
  induction elements generalizing index text out with
  | nil => simpa [separated, appendElements] using printed
  | cons element rest ih =>
      rw [appendElements, separated]
      by_cases later : index > 0
      · have comma := (jsonAppend_step some room printed (lit ",")).1
        have both := ih (index + 1) (jsonAppend_step some room comma element).1
        simpa [later] using both
      · have both := ih (index + 1) (jsonAppend_step some room printed element).1
        simpa [later] using both

theorem separated_later (elements : List Text) (index : Nat) (later : index > 0) :
    separated elements index = elements.flatMap (lit "," ++ ·) := by
  induction elements generalizing index with
  | nil => rfl
  | cons element rest ih =>
      rw [separated, if_pos later, ih _ (Nat.succ_pos _), List.flatMap_cons]

theorem intercalate_flatMap (separator first : Text) (rest : List Text) :
    separator.intercalate (first :: rest) = first ++ rest.flatMap (separator ++ ·) := by
  induction rest generalizing first with
  | nil => simp
  | cons second rest ih =>
      rw [List.intercalate_cons_cons, ih, List.flatMap_cons, List.append_assoc,
        List.append_assoc]

theorem separated_zero (elements : List Text) :
    separated elements 0 = members elements := by
  cases elements with
  | nil => rfl
  | cons first rest =>
      rw [members, intercalate_flatMap, separated, separated_later rest 1 (by decide)]
      rfl

/-! The builders. -/

/-- The reply whose list has the rendered elements. -/
def listText (head : Text) (elements : List Text) : Text :=
  head ++ members elements ++ lit "]\x7d"

/-- A reply is accepted exactly if it leaves a byte of the buffer free behind its
terminator; what is accepted is in the buffer, and nothing beyond the buffer changes. -/
theorem buildList_result (head : Text) (elements : List Text) (some : 0 < bufLen)
    (room : bufLen ≤ json.length) :
    (buildList bufLen json head elements).1 =
        (if (listText head elements).length + 1 < bufLen then 0 else -enametoolong) ∧
      ((listText head elements).length < bufLen →
        (buildList bufLen json head elements).2.take ((listText head elements).length + 1) =
          bytes (listText head elements) ++ [0]) ∧
      (buildList bufLen json head elements).2.length = json.length ∧
      (buildList bufLen json head elements).2.drop bufLen = json.drop bufLen := by
  have start : Printed bufLen json [] ⟨json, 0⟩ := ⟨by simp [bytes], holds_nil bufLen json⟩
  have heads := (jsonAppend_step some room start head).1
  have lists := appendElements_run some room elements 0 heads
  obtain ⟨done, shown⟩ := jsonAppend_step some room lists (lit "]\x7d")
  rw [List.nil_append, separated_zero, ← listText] at done shown
  generalize final : jsonAppend bufLen (appendElements bufLen elements 0
    (jsonAppend bufLen ⟨json, 0⟩ head)) (lit "]\x7d") = out at done shown
  have built : buildList bufLen json head elements =
      if out.pos ≥ bufLen - 1 then (-enametoolong, out.memory) else (0, out.memory) := by
    rw [← final]
    exact if_neg (Nat.ne_of_gt some)
  have memory : (buildList bufLen json head elements).2 = out.memory := by
    rw [built]
    split <;> rfl
  have pos := done.pos
  rw [List.length_take, bytes_length] at pos
  rw [memory]
  refine ⟨?_, fun fits => ?_, done.holds.length, done.holds.beyond⟩
  · rw [built, pos]
    by_cases fits : (listText head elements).length + 1 < bufLen
    · rw [if_neg (by omega), if_pos fits]
    · rw [if_pos (by omega), if_neg fits]
  · have whole : (bytes (listText head elements)).take (bufLen - 1) =
        bytes (listText head elements) :=
      List.take_of_length_le (by rw [bytes_length]; omega)
    rwa [pos, whole, Nat.min_eq_right (by omega)] at shown

/-- The reply is in the buffer exactly when it fits with its terminator, else the call
says that it is too long, and the memory beyond the buffer is as before. -/
structure ExactOrRefused (json : List UInt8) (jsonLen : Nat) (text : Text)
    (result : Int × List UInt8) : Prop where
  accepted : result.1 = 0 ↔ text.length + 1 ≤ jsonLen
  text : result.1 = 0 → result.2.take (text.length + 1) = bytes text ++ [0]
  refused : result.1 ≠ 0 → result.1 = -enametoolong
  length : result.2.length = json.length
  beyond : result.2.drop jsonLen = json.drop jsonLen

theorem buildList_exact_iff (head : Text) (elements : List Text)
    (room : bufLen ≤ json.length) :
    ExactOrRefused json bufLen (listText head elements) (buildList bufLen json head elements) ↔
      bufLen ≠ 0 ∧ (listText head elements).length + 1 ≠ bufLen := by
  by_cases none : bufLen = 0
  · have invalid : (buildList bufLen json head elements).1 = -einval := by
      rw [buildList, if_pos none]
    refine iff_of_false (fun exactly => ?_) fun both => both.1 none
    have long := exactly.refused (by rw [invalid]; decide)
    rw [invalid] at long
    exact absurd long (by decide)
  · obtain ⟨code, shown, length, beyond⟩ :=
      buildList_result head elements (Nat.pos_of_ne_zero none) room
    constructor
    · refine fun exactly => ⟨none, fun full => ?_⟩
      have accepted := exactly.accepted.mpr (by omega)
      rw [code, if_neg (by omega)] at accepted
      exact absurd accepted (by decide)
    · rintro ⟨-, other⟩
      have zero : (buildList bufLen json head elements).1 = 0 ↔
          (listText head elements).length + 1 < bufLen := by
        rw [code]
        split
        next fits => simp [fits]
        next long => simp [long]
      refine ⟨zero.trans ⟨fun fits => by omega, fun fits => by omega⟩, ?_, ?_, length, beyond⟩
      · exact fun accepted => shown (by have := zero.mp accepted; omega)
      · intro refused
        rw [code, if_neg (mt zero.mpr refused)]

/-- A reply buffer of the given length in front of other memory. -/
structure ReplyBuffer (jsonLen : Nat) where
  memory : List UInt8
  room : jsonLen ≤ memory.length

/-- Both builders are exact for every buffer but the empty one and the one that the reply
with its terminator would fill. -/
theorem snapshot_builders_exact_iff (jsonLen : Nat) (json : ReplyBuffer jsonLen)
    (requestId nodeId : Option Text) (snapshot : QueryAppsSnapshot)
    (entries : List LeaseManager.Lease) :
    (ExactOrRefused json.memory jsonLen
        (listText (appsHead requestId nodeId snapshot) (snapshot.apps.map appElement))
        (buildQueryAppsSnapshotResponse json.memory jsonLen requestId nodeId snapshot) ↔
      jsonLen ≠ 0 ∧ (listText (appsHead requestId nodeId snapshot)
        (snapshot.apps.map appElement)).length + 1 ≠ jsonLen) ∧
    (ExactOrRefused json.memory jsonLen
        (listText (leasesHead requestId nodeId) (entries.map leaseElement))
        (buildQueryLeasesResponse json.memory jsonLen requestId nodeId entries) ↔
      jsonLen ≠ 0 ∧ (listText (leasesHead requestId nodeId)
        (entries.map leaseElement)).length + 1 ≠ jsonLen) :=
  ⟨buildList_exact_iff _ _ json.room, buildList_exact_iff _ _ json.room⟩

/-- The reply without leases, and a buffer that it would fill with its terminator. -/
theorem full_buffer_refused :
    let text := lit
      "\x7b\"status\":\"ok\",\"request_id\":\"r\",\"node_id\":\"n\",\"leases\":[]\x7d"
    let result := buildQueryLeasesResponse (List.replicate 59 0) 59 (some (lit "r"))
      (some (lit "n")) []
    text = listText (leasesHead (some (lit "r")) (some (lit "n"))) [] ∧
      text.length + 1 = 59 ∧ result.1 = -enametoolong ∧
      ¬ ExactOrRefused (List.replicate 59 0) 59 text result := by
  refine ⟨by decide, by decide, by decide, fun exactly => ?_⟩
  exact absurd (exactly.accepted.mpr (by decide)) (by decide)

end NeuroLink.JsonSnapshots
