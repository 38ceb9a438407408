import Mathlib.Algebra.Group.Action.Defs
import Mathlib.Algebra.GroupWithZero.Nat
import Mathlib.Algebra.Order.BigOperators.Group.List
import Mathlib.Algebra.Order.Group.Nat
import NeuroLink.CText
import NeuroLink.CliQuery

/-!
A reply that is a map of plain items under numbers, and how the CLI settles on it: its bytes
are few, and unless its status says otherwise it is no failure.
-/

namespace NeuroLink.ReplyReading

open CText Cbor PyValue CliQuery

def EndsInError (result : Dict) : Prop := (get result "status").isText "error_reply" = true

theorem argumentWidth_short (number : Nat) : argumentWidth number ≤ 8 := by
  unfold argumentWidth
  grind

def weight : Item → Nat
  | .text bytes => bytes.length
  | _ => 0

def Plain : Item → Prop
  | .int number => -(2 ^ 64) ≤ number ∧ number < 2 ^ 64
  | .text _ | .bool _ => True
  | _ => False

theorem Plain.fits {item : Item} (plain : Plain item) : IntsFit item := by
  cases item with
  | int number => exact plain
  | text bytes => trivial
  | bool flag => trivial
  | list items => exact plain.elim
  | map entries => exact plain.elim

theorem Plain.short {item : Item} (plain : Plain item) :
    (encode item).length ≤ 9 + weight item := by
  cases item with
  | int number =>
      rw [encode]
      split
      · rw [head_length]
        have short := argumentWidth_short (-1 - number).toNat
        omega
      · rw [head_length]
        have short := argumentWidth_short number.toNat
        omega
  | text bytes =>
      rw [encode, List.length_append, head_length, weight]
      have short := argumentWidth_short bytes.length
      omega
  | bool flag =>
      rw [encode, List.length_singleton]
      omega
  | list items => exact plain.elim
  | map entries => exact plain.elim

structure PlainEntries (entries : List (Item × Item)) : Prop where
  keys : ∀ entry ∈ entries, ∃ number : Nat, number < 256 ∧ entry.1 = .int number
  values : ∀ entry ∈ entries, Plain entry.2

theorem PlainEntries.fits {entries : List (Item × Item)} (plain : PlainEntries entries) :
    IntsFit (.map entries) := by
  refine intsFitEntries_of_mem fun entry member => ⟨?_, (plain.values entry member).fits⟩
  obtain ⟨number, small, key⟩ := plain.keys entry member
  rw [key]
  constructor <;> omega

theorem PlainEntries.short {entries : List (Item × Item)} (plain : PlainEntries entries) :
    (encode (.map entries)).length ≤
      9 + (18 * entries.length + (entries.map fun entry => weight entry.2).sum) := by
  have each : (encodeEntries entries).length ≤
      18 * entries.length + (entries.map fun entry => weight entry.2).sum := by
    obtain ⟨keys, values⟩ := plain
    induction entries with
    | nil => rw [encodeEntries]; simp
    | cons entry rest ih =>
        obtain ⟨key, value⟩ := entry
        obtain ⟨number, small, same⟩ := keys (key, value) List.mem_cons_self
        obtain rfl : key = .int number := same
        have first : Plain (.int number) := by constructor <;> omega
        have later := ih (fun other member => keys other (List.mem_cons_of_mem _ member))
          fun other member => values other (List.mem_cons_of_mem _ member)
        have head := first.short
        have tail : (encode value).length ≤ 9 + weight value :=
          (values _ List.mem_cons_self).short
        rw [encodeEntries, List.length_append, List.length_append, List.map_cons, List.sum_cons,
          List.length_cons]
        rw [show weight (.int number) = 0 from rfl] at head
        dsimp only
        omega
  rw [encode, List.length_append, head_length]
  have head := argumentWidth_short entries.length
  omega

section Settling

variable {loads : List UInt8 → Option Value} {repr : Value → String} {keyexpr : String}
variable {payload : Dict}

theorem settleAttempt_sound {result : Dict} (sound : resultFailureStatus repr result = none)
    (last : Bool) : settleAttempt repr result last = some result := by
  rw [settleAttempt, sound]

theorem unread_settles {data : List UInt8} (unread : parseWirePayload loads data = none)
    (last : Bool) : ∃ result,
      settleAttempt repr (collectQueryResult loads keyexpr payload (.replied [.ok data])) last =
        some result ∧ ¬ EndsInError result := by
  have parsed : parseReply loads keyexpr (.ok data) = [("ok", .bool false),
      ("status", .str "parse_failed"), ("keyexpr", .str keyexpr),
      ("payload", .str "<unreadable ok payload>")] := by
    rw [parseReply, unread]
  have seen : collectQueryResult loads keyexpr payload (.replied [.ok data]) =
      [("ok", .bool false), ("keyexpr", .str keyexpr), ("payload", .dict payload),
        ("replies", .list [.dict [("ok", .bool false), ("status", .str "parse_failed"),
          ("keyexpr", .str keyexpr), ("payload", .str "<unreadable ok payload>")]]),
        ("status", .str "parse_failed")] := by
    rw [collectQueryResult, List.map_singleton, parsed]
    rfl
  rw [seen]
  cases last <;> exact ⟨_, rfl, Bool.false_ne_true⟩

theorem read_settles {data : List UInt8} {entries : Dict}
    (read : parseWirePayload loads data = some (.dict entries))
    (fine : failureText repr (get entries "status") = none) (last : Bool) : ∃ result,
      settleAttempt repr (collectQueryResult loads keyexpr payload (.replied [.ok data])) last =
        some result ∧ ¬ EndsInError result := by
  have parsed : parseReply loads keyexpr (.ok data) = [("ok", .bool true),
      ("keyexpr", .str keyexpr), ("payload", .dict entries)] := by
    rw [parseReply, read]
  have seen : collectQueryResult loads keyexpr payload (.replied [.ok data]) =
      [("ok", .bool true), ("keyexpr", .str keyexpr), ("payload", .dict payload),
        ("replies", .list [.dict [("ok", .bool true), ("keyexpr", .str keyexpr),
          ("payload", .dict entries)]])] := by
    rw [collectQueryResult, List.map_singleton, parsed]
    rfl
  have sound : resultFailureStatus repr
      [("ok", .bool true), ("keyexpr", .str keyexpr), ("payload", .dict payload),
        ("replies", .list [.dict [("ok", .bool true), ("keyexpr", .str keyexpr),
          ("payload", .dict entries)]])] = none := by
    change [_].findSome? (replyFailure repr) = none
    rw [List.findSome?_singleton]
    exact fine
  rw [seen]
  exact ⟨_, settleAttempt_sound sound last, Bool.false_ne_true⟩

theorem plain_settles {entries : List (Item × Item)} (plain : PlainEntries entries)
    (short : (encode (.map entries)).length < 2 ^ 64)
    (fine : ∀ entry ∈ entries, keyName true entry.1 = some "status" →
      entry.2 = .text (bytes (lit "ok"))) (last : Bool) : ∃ result,
      settleAttempt repr (collectQueryResult loads keyexpr payload
        (.replied [.ok (encode (.map entries))])) last = some result ∧ ¬ EndsInError result := by
  have parsed := parseWirePayload_encode loads plain.fits short
  rw [toValue] at parsed
  cases read : toEntries true entries with
  | none =>
      rw [read] at parsed
      exact unread_settles parsed last
  | some shown =>
      rw [read] at parsed
      refine read_settles parsed ?_ last
      have said : get shown.reverse "status" = .none ∨ get shown.reverse "status" = .str "ok" := by
        cases found : shown.reverse.lookup "status" with
        | none =>
            left
            simp only [PyValue.get, found, Option.getD_none]
        | some value =>
            obtain ⟨front, rest, split, _⟩ := List.lookup_eq_some_iff.mp found
            have member : ("status", value) ∈ shown := by
              rw [← List.mem_reverse, split]
              exact List.mem_append_right _ List.mem_cons_self
            obtain ⟨written, listed, named, valued⟩ := toEntries_mem read _ member
            have said := valued (show "status" ≠ "message_kind" by decide)
            rw [fine written listed named] at said
            have decoded : String.fromUTF8? ⟨(bytes (lit "ok")).toArray⟩ = some "ok" := by
              decide +kernel
            rw [toValue, decoded] at said
            right
            simp only [PyValue.get, found, Option.getD_some]
            exact (Option.some.inj said).symm
      rcases said with none | ok
      · rw [none]
        rfl
      · rw [ok]
        rfl

end Settling

end NeuroLink.ReplyReading
