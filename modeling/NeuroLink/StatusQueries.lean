import Mathlib.Algebra.Group.Action.Defs
import Mathlib.Algebra.GroupWithZero.Nat
import Mathlib.Algebra.Order.BigOperators.Group.List
import Mathlib.Algebra.Order.Group.Nat
import NeuroLink.QueryReplies
import NeuroLink.UpdateWorld

/-!
Whether the status queries are answered. A reply is encoded into a buffer of fixed size; four
leases always fit into it, and four applications as long as their names, paths, references,
errors and reasons are short enough together.
-/

namespace NeuroLink.StatusQueries

open CText Cbor QueryReplies

/-- What the encoder puts around the items of a map or a list of so many. -/
structure Framing where
  map : Nat → Nat
  list : Nat → Nat
  mapShort : ∀ count, map count ≤ 2
  listShort : ∀ count, list count ≤ 2

namespace Framing

variable (framing : Framing)

mutual

/-- The bytes of an item, with integers and texts in their shortest form. -/
def size : Item → Nat
  | .int number => (encode (.int number)).length
  | .text bytes => (encode (.text bytes)).length
  | .bool flag => (encode (.bool flag)).length
  | .list items => framing.list items.length + sizeItems items
  | .map entries => framing.map entries.length + sizeEntries entries

def sizeItems : List Item → Nat
  | [] => 0
  | item :: rest => size item + sizeItems rest

def sizeEntries : List (Item × Item) → Nat
  | [] => 0
  | (key, value) :: rest => size key + size value + sizeEntries rest

end

end Framing

inductive Reply where
  | ok (reply : Item)
  | error (message : Text) (statusCode : Nat)

section Queries

variable (framing : Framing) (unit : UnitState) (requestId : Text)

def answer (reply : Item) (message : String) : Reply :=
  if framing.size reply ≤ maxCborLen then .ok reply else .error (lit message) 500

/-- `handle_query_apps`. -/
def handleQueryApps : Reply :=
  answer framing (queryAppsReply unit requestId) "query apps reply build failed"

/-- `handle_query_leases`. -/
def handleQueryLeases (nowMs : Int) : Reply :=
  answer framing (queryLeasesReply unit requestId nowMs) "query leases reply build failed"

/-- Both queries are answered with everything that is there. -/
structure Answered (nowMs : Int) : Prop where
  apps : handleQueryApps framing unit requestId = .ok (queryAppsReply unit requestId)
  listed : ∀ app ∈ unit.runtime.apps, app ∈ listedApps unit
  leases : handleQueryLeases framing unit requestId nowMs =
    .ok (queryLeasesReply unit requestId nowMs)
  held : ∀ (slot : Fin LeaseManager.maxEntries) (lease : LeaseManager.Lease),
    unit.leaseManager[slot] = some lease → nowMs < lease.expiresAtMs →
      lease ∈ listedLeases unit nowMs

def headSpace (number : Nat) : Nat := 1 + argumentWidth number

def textSpace (text : Text) : Nat := headSpace text.length + text.length

def appSpace (app : AppRuntime.App) : Nat :=
  let name := app.name.text
  framing.map 10 + 20 + headSpace app.priority + textSpace name + textSpace app.path.text +
    textSpace (appRuntimeStateToStr app.state) +
    textSpace (updateStateToStr (UpdateManager.stateFor unit.updateManager name)) +
    textSpace (artifactStateToStr
      ((ArtifactStore.get unit.artifactStore name).elim .none (·.state))) +
    textSpace (UpdateManager.stableRefFor unit.updateManager name) +
    textSpace (UpdateManager.lastErrorFor unit.updateManager name) +
    textSpace (UpdateManager.rollbackReasonFor unit.updateManager name)

/-- The bytes of the reply about the applications. -/
def appsSpace : Nat :=
  framing.map 9 + framing.list unit.runtime.apps.length + 21 + textSpace requestId +
    textSpace unit.nodeId + (unit.runtime.apps.map (appSpace framing unit)).sum

end Queries

section Sizes

variable {framing : Framing} {unit : UnitState}

theorem size_nat (number : Nat) : framing.size (.int number) = headSpace number := by
  rw [Framing.size, encode, if_neg (Int.not_lt.mpr (Int.natCast_nonneg number)),
    Int.toNat_natCast, head_length, headSpace]

theorem size_text (text : Text) : framing.size (.text (bytes text)) = textSpace text := by
  rw [Framing.size, encode, List.length_append, head_length, textSpace, headSpace, bytes_length]

theorem size_bool (flag : Bool) : framing.size (.bool flag) = 1 := by
  rw [Framing.size, encode, List.length_singleton]

theorem size_map (entries : List (Item × Item)) : framing.size (.map entries) =
    framing.map entries.length + (entries.map fun entry =>
      framing.size entry.1 + framing.size entry.2).sum := by
  have total : framing.sizeEntries entries = (entries.map fun entry =>
      framing.size entry.1 + framing.size entry.2).sum := by
    induction entries with
    | nil => rfl
    | cons entry rest ih => rw [Framing.sizeEntries, ih, List.map_cons, List.sum_cons]
  rw [Framing.size, total]

theorem size_list (items : List Item) : framing.size (.list items) =
    framing.list items.length + (items.map framing.size).sum := by
  have total : framing.sizeItems items = (items.map framing.size).sum := by
    induction items with
    | nil => rfl
    | cons item rest ih => rw [Framing.sizeItems, ih, List.map_cons, List.sum_cons]
  rw [Framing.size, total]

theorem size_key (key : CborKey) :
    framing.size (.int key.number) = if key.number < 24 then 1 else 2 := by
  rw [size_nat]
  cases key <;> rfl

theorem size_queryApp (app : AppRuntime.App) :
    framing.size (queryApp unit app) = appSpace framing unit app := by
  rw [queryApp, size_map, appSpace]
  simp only [List.map_cons, List.map_nil, List.sum_cons, List.sum_nil, List.length_cons,
    List.length_nil, putNumber, putText, putFlag, put, size_key]
  simp only [size_nat, size_text, size_bool, CborKey.number, Nat.reduceLT, reduceIte,
    Nat.reduceAdd]
  omega

theorem headSpace_few {number : Nat} (few : number < 24) : headSpace number = 1 := by
  rw [headSpace, argumentWidth, if_pos few]

theorem listedApps_all (few : unit.runtime.apps.length ≤ 4) :
    listedApps unit = unit.runtime.apps :=
  List.take_of_length_le few

theorem size_queryAppsReply (few : unit.runtime.apps.length ≤ 4) (requestId : Text) :
    framing.size (queryAppsReply unit requestId) = appsSpace framing unit requestId := by
  have running := @stateCount_le unit .running
  have suspended := @stateCount_le unit .suspended
  have rows : ((unit.runtime.apps.map (queryApp unit)).map framing.size).sum =
      (unit.runtime.apps.map (appSpace framing unit)).sum := by
    rw [List.map_map]
    exact congrArg List.sum (List.map_congr_left fun app _ => size_queryApp app)
  have status : textSpace (lit "ok") = 3 := by decide
  have version : framing.size (.int 2) = 1 := size_nat 2
  have kind : framing.size (.int (23 : Nat)) = 1 := size_nat 23
  rw [queryAppsReply, size_map, appsSpace, listedApps_all few]
  simp only [envelope, List.cons_append, List.nil_append, List.map_cons, List.map_nil,
    List.sum_cons, List.sum_nil, List.length_cons, List.length_nil, putNumber, putText, put,
    size_key]
  simp only [size_nat, size_text, size_list, List.length_map, rows, status, version, kind,
    headSpace_few (show unit.runtime.apps.length < 24 by omega),
    headSpace_few (show stateCount unit .running < 24 by omega),
    headSpace_few (show stateCount unit .suspended < 24 by omega),
    CborKey.number, Nat.reduceLT, reduceIte, Nat.reduceAdd]
  omega

theorem size_int (number : Int) : framing.size (.int number) ≤ 9 := by
  have wide : ∀ argument, argumentWidth argument ≤ 8 := by
    intro argument
    unfold argumentWidth
    split <;> [skip; split <;> [skip; split <;> [skip; split]]] <;> decide
  rw [Framing.size, encode]
  split
  · rw [head_length]
    have := wide (-1 - number).toNat
    omega
  · rw [head_length]
    have := wide number.toNat
    omega

theorem textSpace_le {text : Text} (short : text.length < 256) :
    textSpace text ≤ text.length + 2 := by
  rw [textSpace, headSpace, argumentWidth]
  split <;> omega

theorem buffer_space {capacity : Nat} (buffer : Buffer capacity) (small : capacity ≤ 256) :
    textSpace buffer.text ≤ capacity + 1 := by
  have fits := buffer.fits
  have space := @textSpace_le buffer.text (by omega)
  omega

theorem size_queryLease (lease : LeaseManager.Lease) :
    framing.size (queryLease lease) ≤ 164 := by
  have pairs := framing.mapShort 6
  have core := buffer_space lease.sourceCore (by decide)
  have agent := buffer_space lease.sourceAgent (by decide)
  have id := buffer_space lease.leaseId (by decide)
  have resource := buffer_space lease.resource (by decide)
  have priority := @size_int framing lease.priority
  have expires := @size_int framing lease.expiresAtMs
  rw [queryLease, size_map]
  simp only [List.map_cons, List.map_nil, List.sum_cons, List.sum_nil, List.length_cons,
    List.length_nil, putNumber, putText, put, size_key]
  simp only [size_text, CborKey.number, Nat.reduceLT, reduceIte, Nat.reduceAdd]
  omega

theorem size_queryLeasesReply {requestId : Text} {nowMs : Int} (short : requestId.length ≤ 31)
    (node : unit.nodeId.length ≤ 31) :
    framing.size (queryLeasesReply unit requestId nowMs) ≤ maxCborLen := by
  have pairs := framing.mapShort 6
  have rows := framing.listShort (listedLeases unit nowMs).length
  have few : (listedLeases unit nowMs).length ≤ 4 := SlotTable.entries_length _
  have request := @textSpace_le requestId (by omega)
  have own := @textSpace_le unit.nodeId (by omega)
  have total : (((listedLeases unit nowMs).map queryLease).map framing.size).sum ≤ 4 * 164 := by
    rw [List.map_map]
    refine Nat.le_trans (List.sum_le_card_nsmul _ 164 fun size member => ?_) ?_
    · obtain ⟨lease, _, rfl⟩ := List.mem_map.mp member
      exact size_queryLease lease
    · rw [List.length_map, smul_eq_mul]
      exact Nat.mul_le_mul_right _ few
  have status : textSpace (lit "ok") = 3 := by decide
  have version : framing.size (.int 2) = 1 := size_nat 2
  have kind : framing.size (.int (24 : Nat)) = 2 := size_nat 24
  rw [queryLeasesReply, size_map]
  simp only [envelope, List.cons_append, List.nil_append, List.map_cons, List.map_nil,
    List.sum_cons, List.sum_nil, List.length_cons, List.length_nil, putNumber, putText, put,
    size_key]
  simp only [size_text, size_list, List.length_map, status, version, kind, CborKey.number,
    Nat.reduceLT, reduceIte, Nat.reduceAdd, maxCborLen]
  omega

end Sizes

section Answers

variable {framing : Framing} {unit : UnitState} {requestId : Text} {nowMs : Int}

theorem answer_ok {reply : Item} {message : String} :
    answer framing reply message = .ok reply ↔ framing.size reply ≤ maxCborLen := by
  unfold answer
  split
  · next fits => exact iff_of_true rfl fits
  · next large => exact iff_of_false nofun large

theorem listedLeases_all (slot : Fin LeaseManager.maxEntries) (lease : LeaseManager.Lease)
    (stored : unit.leaseManager[slot] = some lease) (live : nowMs < lease.expiresAtMs) :
    lease ∈ listedLeases unit nowMs :=
  SlotTable.mem_entries.mpr ⟨slot, LeaseManager.pruneExpired_some.mpr ⟨stored, live⟩⟩

end Answers

/-! Four applications that were rolled back. -/

section Wide

open UpdateService UpdateWorld

def wideConfig : Config := { demoConfig with appsDir := lit "/SD:/apps" }

def wideRequest (number action payload : String) : Request :=
  { demoRequest action payload with
    appId := copyBounded (lit ("an-application-of-the-factory-" ++ number)) }

def reason : String := "the new version does not pass the checks of the production line"

def wideTurns (number : String) : List Turn :=
  [.serve (some (wideRequest number "prepare" "\x7b\"artifact_key\":\"a\",\"size\":2\x7d"))
      (List.replicate 9 { works with chunk := .ok [1, 1] }),
    .serve (some (wideRequest number "verify" "")) [],
    .serve (some (wideRequest number "activate" "")) [],
    .serve (some (wideRequest number "rollback"
      ("\x7b\"reason\":\"" ++ reason ++ "\"\x7d"))) []]

def fourTurns : List Turn :=
  .serve none [] :: (wideTurns "1" ++ wideTurns "2" ++ wideTurns "3" ++ wideTurns "4")

def wideRuntime : AppRuntime.Runtime := { demoRuntime with policy := ⟨4, 4, true⟩ }

def wideDevice : Device := after wideConfig (fresh (fun _ => none) wideRuntime) fourTurns

/-- The queries see the managers and the runtime of a device. -/
structure Sees (unit : UnitState) (device : Device) : Prop where
  runtime : unit.runtime = device.world.runtime
  updates : unit.updateManager = device.memory.updates
  artifacts : unit.artifactStore = device.memory.artifacts

def wideUnit (device : Device) (counts : device.world.runtime.apps.length < 2 ^ 32)
    (priorities : ∀ app ∈ device.world.runtime.apps, app.priority < 2 ^ 32) : UnitState where
  nodeId := lit "unit-01"
  board := lit "board"
  zenohMode := lit "client"
  sessionReady := true
  networkState := .ready
  ipv4 := lit "10.0.0.2"
  runtime := device.world.runtime
  manifestPresent := fun _ => true
  updateManager := device.memory.updates
  artifactStore := device.memory.artifacts
  leaseManager := LeaseManager.init
  countsFit := counts
  prioritiesFit := priorities

theorem wideUnit_sees (device : Device) (counts : device.world.runtime.apps.length < 2 ^ 32)
    (priorities : ∀ app ∈ device.world.runtime.apps, app.priority < 2 ^ 32) :
    Sees (wideUnit device counts priorities) device :=
  ⟨rfl, rfl, rfl⟩

theorem wide_fits : wideDevice.world.runtime.apps.length ≤ 4 ∧
    ∀ app ∈ wideDevice.world.runtime.apps, app.priority < 2 ^ 32 := by
  decide +kernel

theorem wide_counts : wideDevice.world.runtime.apps.length < 2 ^ 32 :=
  Nat.lt_of_le_of_lt wide_fits.1 (by decide)

def wideRequestId : Buffer 32 := copyBounded (lit "the-request-of-the-console-0001")

def firstDevice : Device :=
  after wideConfig (fresh (fun _ => none) wideRuntime) (.serve none [] :: wideTurns "1")

theorem first_fits : firstDevice.world.runtime.apps.length ≤ 4 ∧
    ∀ app ∈ firstDevice.world.runtime.apps, app.priority < 2 ^ 32 := by
  decide +kernel

def firstUnit : UnitState :=
  wideUnit firstDevice (Nat.lt_of_le_of_lt first_fits.1 (by decide)) first_fits.2

end Wide

end NeuroLink.StatusQueries
