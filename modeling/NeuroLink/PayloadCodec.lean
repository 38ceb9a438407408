import Mathlib.Data.List.Perm.Subperm
import Mathlib.Data.Sum.Order
import Mathlib.Data.String.Basic
import NeuroLink.CliQuery
import NeuroLink.Dictionary

/-!
The codec of the command line client: nested values as bytes and back, and payloads whose
names travel as numbers. What is read back is the written value with every dictionary in the
order of its keys; the names of a payload are put back wherever a dictionary is met, and a
nested `message_kind` is taken for one of them.
-/

namespace NeuroLink.PayloadCodec

open Cbor Dictionary
open CliQuery (keyNames messageKindNames)

/-- A key of a dictionary; a truth value is the key of the number it equals. -/
inductive Key where
  | int (number : Int)
  | text (text : String)

inductive Datum where
  | bool (flag : Bool)
  | int (number : Int)
  | text (text : String)
  | list (items : List Datum)
  | dict (entries : List (Key × Datum))

abbrev Entries := List (Key × Datum)

def Key.place : Key → Int ⊕ₗ String
  | .int number => Sum.inlₗ number
  | .text letters => Sum.inrₗ letters

theorem Key.place_injective : Function.Injective Key.place := by
  intro first second same
  cases first with
  | int number => cases second with
    | int other => exact congrArg Key.int (Sum.inl_injective same)
    | text letters => cases same
  | text letters => cases second with
    | int number => cases same
    | text other => exact congrArg Key.text (Sum.inr_injective same)

instance : LinearOrder Key := LinearOrder.lift' Key.place Key.place_injective

def Key.isText : Key → Bool
  | .text _ => true
  | .int _ => false

def oneKind (keys : List Key) : Bool :=
  keys.all Key.isText || keys.all fun key => !key.isText

/-- `text.encode("utf-8")`. -/
def utf8 (text : String) : List UInt8 := text.toUTF8.data.toList

theorem utf8_read (text : String) : String.fromUTF8? ⟨(utf8 text).toArray⟩ = some text := by
  have whole : (⟨(utf8 text).toArray⟩ : ByteArray) = text.toByteArray := rfl
  rw [whole, String.fromUTF8?, dif_pos text.isValidUTF8]
  rfl

/-! The encoder. `none` is a raised exception. -/

/-- `_cbor_encode_uint`: eight bytes are the most that `to_bytes` is asked for. -/
def cborEncodeUint (major value : Nat) : Option (List UInt8) :=
  if value < 2 ^ 64 then some (head major value) else none

def encodeInt (number : Int) : Option (List UInt8) :=
  if number ≥ 0 then cborEncodeUint 0 number.toNat else cborEncodeUint 1 (-1 - number).toNat

def encodeText (text : String) : Option (List UInt8) :=
  (cborEncodeUint 3 (utf8 text).length).map (· ++ utf8 text)

def encodeKey : Key → Option (List UInt8)
  | .int number => encodeInt number
  | .text text => encodeText text

mutual

/-- `cbor_encode`. -/
def cborEncode : Datum → Option (List UInt8)
  | .bool flag => some [if flag then 0xf5 else 0xf4]
  | .int number => encodeInt number
  | .text text => encodeText text
  | .dict entries => do
      let written ← encodeEntries entries
      -- `sorted` raises on keys of two kinds
      if oneKind (entries.map Prod.fst) then
        let front ← cborEncodeUint 5 entries.length
        return front ++ (sorted written).flatMap Prod.snd
      else none
  | .list items => do
      let front ← cborEncodeUint 4 items.length
      let body ← encodeList items
      return front ++ body

def encodeList : List Datum → Option (List UInt8)
  | [] => some []
  | item :: rest => do
      let bytes ← cborEncode item
      let others ← encodeList rest
      return bytes ++ others

def encodeEntries : Entries → Option (List (Key × List UInt8))
  | [] => some []
  | (key, value) :: rest => do
      let name ← encodeKey key
      let bytes ← cborEncode value
      let others ← encodeEntries rest
      return (key, name ++ bytes) :: others

end

def keyOf : Item → Option Key
  | .int number => some (.int number)
  | .bool flag => some (.int (if flag then 1 else 0))
  | .text bytes => (String.fromUTF8? ⟨bytes.toArray⟩).map .text
  | .list _ | .map _ => none

mutual

/-- What `_cbor_decode_at` makes of an item. -/
def datum : Item → Option Datum
  | .int number => some (.int number)
  | .text bytes => (String.fromUTF8? ⟨bytes.toArray⟩).map .text
  | .bool flag => some (.bool flag)
  | .list items => (datumList items).map .list
  | .map entries => (datumEntries entries).map fun entries => .dict (gather entries)

def datumList : List Item → Option (List Datum)
  | [] => some []
  | item :: rest => do
      let value ← datum item
      let others ← datumList rest
      return value :: others

def datumEntries : List (Item × Item) → Option Entries
  | [] => some []
  | (key, item) :: rest => do
      let name ← keyOf key
      let value ← datum item
      let others ← datumEntries rest
      return (name, value) :: others

end

/-- `cbor_decode`. -/
def cborDecode (data : List UInt8) : Option Datum := (decode data).bind datum

/-- `CBOR_V2_KEYS.get(name)`. -/
def keyNumber : Key → Option Nat
  | .text name => (keyNames.find? fun entry => entry.2 = name).map Prod.fst
  | .int _ => none

/-- `CBOR_V2_MESSAGE_KINDS[message_kind]`. -/
def kindNumber (kind : String) : Option Nat :=
  (messageKindNames.find? fun entry => entry.2 = kind).map Prod.fst

/-- `CBOR_V2_KEY_NAMES.get(key, key)`. -/
def nameOf : Key → Key
  | .text name => .text name
  | .int number =>
    if number ≥ 0 then ((keyNames.lookup number.toNat).map .text).getD (.int number)
    else .int number

/-- `CBOR_V2_MESSAGE_KIND_NAMES.get(item)`. -/
def kindName (number : Int) : Option String :=
  if number ≥ 0 then messageKindNames.lookup number.toNat else none

def flagNumber (flag : Bool) : Int := if flag then 1 else 0

mutual

/-- The entries that `cbor_map_to_logical` assigns, one after the other. -/
def logicalEntries : Entries → Entries
  | [] => []
  | (key, item) :: rest => (nameOf key, logicalItem (nameOf key) item) :: logicalEntries rest

/-- The value assigned to a name. `isinstance(item, int)` also takes a truth value. -/
def logicalItem (name : Key) : Datum → Datum
  | .int number =>
    if name = .text "message_kind" then ((kindName number).map .text).getD (.int number)
    else .int number
  | .bool flag =>
    if name = .text "message_kind" then
      ((kindName (flagNumber flag)).map .text).getD (.bool flag)
    else .bool flag
  | .dict entries => .dict (gather (logicalEntries entries))
  | .list items => .list (logicalList items)
  | .text text => .text text

def logicalEntry : Datum → Datum
  | .dict entries => .dict (gather (logicalEntries entries))
  | .int number => .int number
  | .bool flag => .bool flag
  | .text text => .text text
  | .list items => .list items

def logicalList : List Datum → List Datum
  | [] => []
  | item :: rest => logicalEntry item :: logicalList rest

end

/-- `cbor_map_to_logical`. -/
def cborMapToLogical (entries : Entries) : Entries := gather (logicalEntries entries)

/-- `logical_to_cbor_map`: the header, then every entry that has a number. -/
def logicalToCborMap (payload : Entries) (kind : String) : Option Entries :=
  (kindNumber kind).map fun (number : Nat) =>
    gather ((.int 0, .int 2) :: (.int 1, .int number) ::
      payload.filterMap fun entry =>
        (keyNumber entry.1).map fun (number : Nat) => (.int number, entry.2))

/-- `encode_payload_cbor`. -/
def encodePayloadCbor (payload : Entries) (kind : String) : Option (List UInt8) := do
  let entries ← logicalToCborMap payload kind
  cborEncode (.dict entries)

/-- `decode_payload_cbor`. -/
def decodePayloadCbor (data : List UInt8) : Option Entries :=
  match cborDecode data with
  | some (.dict entries) => some (cborMapToLogical entries)
  | _ => none

mutual

def canonical : Datum → Datum
  | .bool flag => .bool flag
  | .int number => .int number
  | .text text => .text text
  | .list items => .list (canonicalList items)
  | .dict entries => .dict (sorted (canonicalEntries entries))

def canonicalList : List Datum → List Datum
  | [] => []
  | item :: rest => canonical item :: canonicalList rest

def canonicalEntries : Entries → Entries
  | [] => []
  | (key, value) :: rest => (key, canonical value) :: canonicalEntries rest

end

/-- Equal values: dictionaries have the same entries, in whichever order. -/
def Same (first second : Datum) : Prop := canonical first = canonical second

def Key.Storable : Key → Prop
  | .int number => -(2 ^ 64) ≤ number ∧ number < 2 ^ 64
  | .text letters => (utf8 letters).length < 2 ^ 64

mutual

/-- The values of the format: numbers in range, sizes that a length can say, dictionaries with
distinct keys of one kind. -/
def Storable : Datum → Prop
  | .bool _ => True
  | .int number => -(2 ^ 64) ≤ number ∧ number < 2 ^ 64
  | .text text => (utf8 text).length < 2 ^ 64
  | .list items => items.length < 2 ^ 64 ∧ StorableList items
  | .dict entries => entries.length < 2 ^ 64 ∧ oneKind (entries.map Prod.fst) = true ∧
      (entries.map Prod.fst).Nodup ∧ StorableEntries entries

def StorableList : List Datum → Prop
  | [] => True
  | item :: rest => Storable item ∧ StorableList rest

def StorableEntries : Entries → Prop
  | [] => True
  | (key, value) :: rest => key.Storable ∧ Storable value ∧ StorableEntries rest

end

/-- What holds of a value when it holds of the values in it holds of every value. -/
@[elab_as_elim]
theorem Datum.members {motive : Datum → Prop} (bool : ∀ flag, motive (.bool flag))
    (int : ∀ number, motive (.int number)) (text : ∀ letters, motive (.text letters))
    (list : ∀ items, (∀ item ∈ items, motive item) → motive (.list items))
    (dict : ∀ entries, (∀ entry ∈ entries, motive entry.2) → motive (.dict entries))
    (value : Datum) : motive value := by
  apply @Datum.rec motive (fun items => ∀ item ∈ items, motive item)
    (fun entries => ∀ entry ∈ entries, motive entry.2) (fun entry => motive entry.2)
    bool int text list dict
  · exact fun _ member => absurd member List.not_mem_nil
  · exact fun _ _ head tail => List.forall_mem_cons.mpr ⟨head, tail⟩
  · exact fun _ member => absurd member List.not_mem_nil
  · exact fun _ _ head tail => List.forall_mem_cons.mpr ⟨head, tail⟩
  · exact fun _ _ value => value

section Members

theorem canonicalList_eq (items : List Datum) : canonicalList items = items.map canonical := by
  induction items with
  | nil => rfl
  | cons item rest ih => rw [canonicalList, ih, List.map_cons]

theorem canonicalEntries_eq (entries : Entries) :
    canonicalEntries entries = entries.map fun entry => (entry.1, canonical entry.2) := by
  induction entries with
  | nil => rfl
  | cons entry rest ih => rw [canonicalEntries, ih, List.map_cons]

theorem canonical_dict (entries : Entries) :
    canonical (.dict entries) =
      .dict (sorted (entries.map fun entry => (entry.1, canonical entry.2))) := by
  rw [canonical, canonicalEntries_eq]

theorem storableList_iff {items : List Datum} :
    StorableList items ↔ ∀ item ∈ items, Storable item := by
  induction items with
  | nil => exact ⟨fun _ _ member => absurd member List.not_mem_nil, fun _ => trivial⟩
  | cons item rest ih => rw [StorableList, ih, List.forall_mem_cons]

theorem storableEntries_iff {entries : Entries} :
    StorableEntries entries ↔ ∀ entry ∈ entries, entry.1.Storable ∧ Storable entry.2 := by
  induction entries with
  | nil => exact ⟨fun _ _ member => absurd member List.not_mem_nil, fun _ => trivial⟩
  | cons entry rest ih => rw [StorableEntries, ih, List.forall_mem_cons, and_assoc]

theorem canonical_canonical (value : Datum) : canonical (canonical value) = canonical value := by
  induction value using Datum.members with
  | bool flag => rfl
  | int number => rfl
  | text letters => rfl
  | list items ih =>
    rw [canonical, canonicalList_eq, canonical, canonicalList_eq, List.map_map]
    exact congrArg Datum.list (List.map_congr_left ih)
  | dict entries ih =>
    rw [canonical_dict, canonical_dict, ← sorted_map, List.map_map, sorted_sorted]
    apply congrArg fun entries => Datum.dict (sorted entries)
    exact List.map_congr_left fun entry member => congrArg (Prod.mk entry.1) (ih entry member)

end Members

/-! The item that a value is written as. -/

def keyItem : Key → Item
  | .int number => .int number
  | .text letters => .text (utf8 letters)

mutual

def represent : Datum → Item
  | .bool flag => .bool flag
  | .int number => .int number
  | .text text => .text (utf8 text)
  | .list items => .list (representList items)
  | .dict entries =>
    .map ((sorted (representEntries entries)).map fun entry => (keyItem entry.1, entry.2))

def representList : List Datum → List Item
  | [] => []
  | item :: rest => represent item :: representList rest

def representEntries : Entries → List (Key × Item)
  | [] => []
  | (key, value) :: rest => (key, represent value) :: representEntries rest

end

section Written

theorem representList_eq (items : List Datum) : representList items = items.map represent := by
  induction items with
  | nil => rfl
  | cons item rest ih => rw [representList, ih, List.map_cons]

theorem representEntries_eq (entries : Entries) :
    representEntries entries = entries.map fun entry => (entry.1, represent entry.2) := by
  induction entries with
  | nil => rfl
  | cons entry rest ih => rw [representEntries, ih, List.map_cons]

theorem represent_dict (entries : Entries) :
    represent (.dict entries) =
      .map ((sorted entries).map fun entry => (keyItem entry.1, represent entry.2)) := by
  rw [represent, representEntries_eq, sorted_map, List.map_map]
  rfl

theorem encodeInt_eq {number : Int} (low : -(2 ^ 64) ≤ number) (high : number < 2 ^ 64) :
    encodeInt number = some (encode (.int number)) := by
  rw [encodeInt, encode]
  by_cases negative : number < 0
  · rw [if_neg (by omega), if_pos negative]
    exact if_pos (by omega)
  · rw [if_pos (by omega), if_neg negative]
    exact if_pos (by omega)

theorem encodeText_eq {text : String} (short : (utf8 text).length < 2 ^ 64) :
    encodeText text = some (encode (.text (utf8 text))) := by
  rw [encodeText, cborEncodeUint, if_pos short]
  rfl

theorem encodeKey_eq {key : Key} (storable : key.Storable) :
    encodeKey key = some (encode (keyItem key)) := by
  cases key with
  | int number => exact encodeInt_eq storable.1 storable.2
  | text letters => exact encodeText_eq storable

theorem encodeList_eq {items : List Datum}
    (each : ∀ item ∈ items, cborEncode item = some (encode (represent item))) :
    encodeList items = some (encodeItems (items.map represent)) := by
  induction items with
  | nil => rfl
  | cons item rest ih =>
    obtain ⟨here, later⟩ := List.forall_mem_cons.mp each
    rw [encodeList, here, ih later]
    rfl

theorem encodeEntries_eq {entries : Entries}
    (each : ∀ entry ∈ entries, entry.1.Storable ∧
      cborEncode entry.2 = some (encode (represent entry.2))) :
    encodeEntries entries = some (entries.map fun entry =>
      (entry.1, encode (keyItem entry.1) ++ encode (represent entry.2))) := by
  induction entries with
  | nil => rfl
  | cons entry rest ih =>
    obtain ⟨⟨key, here⟩, later⟩ := List.forall_mem_cons.mp each
    rw [encodeEntries, encodeKey_eq key, here, ih later]
    rfl

theorem cborEncode_eq {value : Datum} (storable : Storable value) :
    cborEncode value = some (encode (represent value)) := by
  induction value using Datum.members with
  | bool flag => rfl
  | int number => exact encodeInt_eq storable.1 storable.2
  | text letters => exact encodeText_eq storable
  | list items ih =>
    have members := storableList_iff.mp storable.2
    rw [cborEncode, cborEncodeUint, if_pos storable.1,
      encodeList_eq fun item member => ih item member (members item member), represent,
      representList_eq, encode, List.length_map]
    rfl
  | dict entries ih =>
    obtain ⟨short, kinds, _, storableEntries⟩ := storable
    have members := storableEntries_iff.mp storableEntries
    rw [cborEncode, encodeEntries_eq fun entry member =>
      ⟨(members entry member).1, ih entry member (members entry member).2⟩]
    simp only [Option.bind_eq_bind, Option.bind_some, if_pos kinds, cborEncodeUint, if_pos short]
    rw [represent_dict, encode, Cbor.encodeEntries_eq, List.flatMap_map, List.length_map,
      (sorted_perm entries).length_eq, sorted_map, List.flatMap_map]
    rfl

theorem keyItem_fits {key : Key} (storable : key.Storable) : Fits (keyItem key) := by
  cases key with
  | int number => exact storable
  | text letters => exact storable

theorem represent_fits {value : Datum} (storable : Storable value) : Fits (represent value) := by
  induction value using Datum.members with
  | bool flag => trivial
  | int number => exact storable
  | text letters => exact storable
  | list items ih =>
    have members := storableList_iff.mp storable.2
    rw [represent, representList_eq]
    constructor
    · rw [List.length_map]
      exact storable.1
    · apply fitItems_of_mem
      intro item member
      obtain ⟨value, inside, rfl⟩ := List.mem_map.mp member
      exact ih value inside (members value inside)
  | dict entries ih =>
    obtain ⟨short, _, _, storableEntries⟩ := storable
    have members := storableEntries_iff.mp storableEntries
    rw [represent_dict]
    constructor
    · rw [List.length_map, (sorted_perm entries).length_eq]
      exact short
    · apply fitEntries_of_mem
      intro item member
      obtain ⟨entry, inside, rfl⟩ := List.mem_map.mp member
      have listed := mem_sorted.mp inside
      exact ⟨keyItem_fits (members entry listed).1, ih entry listed (members entry listed).2⟩

theorem keyOf_keyItem (key : Key) : keyOf (keyItem key) = some key := by
  cases key with
  | int number => rfl
  | text letters => rw [keyItem, keyOf, utf8_read, Option.map_some]

theorem datumList_eq {items : List Datum}
    (each : ∀ item ∈ items, datum (represent item) = some (canonical item)) :
    datumList (items.map represent) = some (items.map canonical) := by
  induction items with
  | nil => rfl
  | cons item rest ih =>
    obtain ⟨here, later⟩ := List.forall_mem_cons.mp each
    rw [List.map_cons, datumList, here, ih later]
    rfl

theorem datumEntries_eq {entries : Entries}
    (each : ∀ entry ∈ entries, datum (represent entry.2) = some (canonical entry.2)) :
    datumEntries (entries.map fun entry => (keyItem entry.1, represent entry.2)) =
      some (entries.map fun entry => (entry.1, canonical entry.2)) := by
  induction entries with
  | nil => rfl
  | cons entry rest ih =>
    obtain ⟨here, later⟩ := List.forall_mem_cons.mp each
    rw [List.map_cons, datumEntries, keyOf_keyItem, here, ih later]
    rfl

/-- The item of a value is read as the value in canonical order. -/
theorem datum_represent {value : Datum} (storable : Storable value) :
    datum (represent value) = some (canonical value) := by
  induction value using Datum.members with
  | bool flag => rfl
  | int number => rfl
  | text letters => rw [represent, datum, utf8_read, Option.map_some, canonical]
  | list items ih =>
    have members := storableList_iff.mp storable.2
    rw [represent, representList_eq, datum,
      datumList_eq fun item member => ih item member (members item member), canonical,
      canonicalList_eq, Option.map_some]
  | dict entries ih =>
    obtain ⟨_, _, distinct, storableEntries⟩ := storable
    have members := storableEntries_iff.mp storableEntries
    have kept : (((sorted entries).map fun entry => (entry.1, canonical entry.2)).map
        Prod.fst).Nodup := by
      rw [List.map_map]
      exact (sorted_increasing distinct).nodup
    rw [represent_dict, datum, datumEntries_eq, Option.map_some, gather_distinct kept,
      canonical_dict, sorted_map]
    intro entry member
    have listed := mem_sorted.mp member
    exact ih entry listed (members entry listed).2

theorem cborDecode_encode {value : Datum} (storable : Storable value) :
    cborDecode (encode (represent value)) = some (canonical value) := by
  rw [cborDecode, decode_encode (represent_fits storable), Option.bind_some,
    datum_represent storable]

end Written

mutual

def Texted : Datum → Prop
  | .bool _ | .int _ | .text _ => True
  | .list items => TextedList items
  | .dict entries => TextedEntries entries

def TextedList : List Datum → Prop
  | [] => True
  | item :: rest => Texted item ∧ TextedList rest

def TextedEntries : Entries → Prop
  | [] => True
  | (key, value) :: rest => key.isText = true ∧ Texted value ∧ TextedEntries rest

end

mutual

/-- Under this name the value is not taken for the number of a message kind, nor is any in a
dictionary that the renaming reaches from it. -/
def UnmarkedItem (name : Key) : Datum → Prop
  | .int number => name = .text "message_kind" → kindName number = none
  | .bool flag => name = .text "message_kind" → kindName (flagNumber flag) = none
  | .text _ => True
  | .list items => UnmarkedList items
  | .dict entries => Unmarked entries

def UnmarkedEntry : Datum → Prop
  | .dict entries => Unmarked entries
  | .int _ | .bool _ | .text _ | .list _ => True

def UnmarkedList : List Datum → Prop
  | [] => True
  | item :: rest => UnmarkedEntry item ∧ UnmarkedList rest

/-- No entry that the renaming reaches is a `message_kind` with the number of a kind. -/
def Unmarked : Entries → Prop
  | [] => True
  | (key, value) :: rest => UnmarkedItem key value ∧ Unmarked rest

end

section Renamed

theorem textedList_iff {items : List Datum} :
    TextedList items ↔ ∀ item ∈ items, Texted item := by
  induction items with
  | nil => exact ⟨fun _ _ member => absurd member List.not_mem_nil, fun _ => trivial⟩
  | cons item rest ih => rw [TextedList, ih, List.forall_mem_cons]

theorem textedEntries_iff {entries : Entries} :
    TextedEntries entries ↔ ∀ entry ∈ entries, entry.1.isText = true ∧ Texted entry.2 := by
  induction entries with
  | nil => exact ⟨fun _ _ member => absurd member List.not_mem_nil, fun _ => trivial⟩
  | cons entry rest ih => rw [TextedEntries, ih, List.forall_mem_cons, and_assoc]

theorem unmarkedList_iff {items : List Datum} :
    UnmarkedList items ↔ ∀ item ∈ items, UnmarkedEntry item := by
  induction items with
  | nil => exact ⟨fun _ _ member => absurd member List.not_mem_nil, fun _ => trivial⟩
  | cons item rest ih => rw [UnmarkedList, ih, List.forall_mem_cons]

theorem unmarked_iff {entries : Entries} :
    Unmarked entries ↔ ∀ entry ∈ entries, UnmarkedItem entry.1 entry.2 := by
  induction entries with
  | nil => exact ⟨fun _ _ member => absurd member List.not_mem_nil, fun _ => trivial⟩
  | cons entry rest ih => rw [Unmarked, ih, List.forall_mem_cons]

theorem logicalList_eq (items : List Datum) : logicalList items = items.map logicalEntry := by
  induction items with
  | nil => rfl
  | cons item rest ih => rw [logicalList, ih, List.map_cons]

theorem logicalEntries_eq (entries : Entries) :
    logicalEntries entries =
      entries.map fun entry => (nameOf entry.1, logicalItem (nameOf entry.1) entry.2) := by
  induction entries with
  | nil => rfl
  | cons entry rest ih => rw [logicalEntries, ih, List.map_cons]

theorem nameOf_text {key : Key} (text : key.isText = true) : nameOf key = key := by
  cases key with
  | int number => cases text
  | text letters => rfl

/-- A dictionary whose keys travel under other keys, written, read and renamed. -/
theorem canonical_renamed {entries : Entries} (sent : Key → Key)
    (distinct : (entries.map Prod.fst).Nodup)
    (named : ∀ entry ∈ entries, nameOf (sent entry.1) = entry.1) :
    canonical (.dict (gather (logicalEntries
        (sorted (entries.map fun entry => (sent entry.1, canonical entry.2)))))) =
      .dict (sorted (entries.map fun entry =>
        (entry.1, canonical (logicalItem entry.1 (canonical entry.2))))) := by
  have renamed : (logicalEntries
      (sorted (entries.map fun entry => (sent entry.1, canonical entry.2)))).Perm
      (entries.map fun entry => (entry.1, logicalItem entry.1 (canonical entry.2))) := by
    rw [logicalEntries_eq]
    apply ((sorted_perm _).map _).trans
    rw [List.map_map]
    apply List.Perm.of_eq
    apply List.map_congr_left
    intro entry member
    simp only [Function.comp, named entry member]
  have kept : ((entries.map fun entry =>
      (entry.1, logicalItem entry.1 (canonical entry.2))).map Prod.fst).Nodup := by
    rw [List.map_map]
    exact distinct
  rw [gather_distinct ((renamed.map Prod.fst).nodup_iff.mpr kept), canonical_dict]
  apply congrArg Datum.dict
  symm
  have shown := (renamed.map fun entry : Key × Datum => (entry.1, canonical entry.2)).symm
  rw [List.map_map] at shown
  apply sorted_eq_of_perm shown
  rw [List.map_map]
  exact distinct

theorem dict_inj {entries : Entries} {first second : Key × Datum → Datum} :
    Datum.dict (sorted (entries.map fun entry => (entry.1, first entry))) =
        .dict (sorted (entries.map fun entry => (entry.1, second entry))) ↔
      ∀ entry ∈ entries, first entry = second entry := by
  rw [Datum.dict.injEq, sorted_map, sorted_map, List.map_inj_left]
  constructor
  · intro same entry member
    exact (Prod.mk.inj (same entry (mem_sorted.mpr member))).2
  · intro same entry member
    rw [same entry (mem_sorted.mp member)]

/-- A dictionary of texts comes back when no value in it is taken for a kind. -/
theorem renamed_dict {entries : Entries} (distinct : (entries.map Prod.fst).Nodup)
    (texted : ∀ entry ∈ entries, entry.1.isText = true)
    (each : ∀ entry ∈ entries,
      canonical (logicalItem entry.1 (canonical entry.2)) = canonical entry.2 ↔
        UnmarkedItem entry.1 entry.2) :
    canonical (.dict (gather (logicalEntries
        (sorted (entries.map fun entry => (entry.1, canonical entry.2)))))) =
      .dict (sorted (entries.map fun entry => (entry.1, canonical entry.2))) ↔
    Unmarked entries := by
  have renamed := canonical_renamed (fun key => key) distinct
    fun entry member => nameOf_text (texted entry member)
  apply (Eq.congr_left renamed).trans
  rw [dict_inj, unmarked_iff]
  exact forall₂_congr each

/-- A number becomes the name of its kind under `message_kind` and stays elsewhere. -/
theorem renamed_number {name : Key} {kind : Option String} {value : Datum}
    (value_text : ∀ shown, value ≠ .text shown) (fixed : canonical value = value) :
    canonical (if name = .text "message_kind" then (kind.map .text).getD value else value) =
      value ↔ (name = .text "message_kind" → kind = none) := by
  by_cases marked : name = .text "message_kind"
  · rw [if_pos marked]
    cases kind with
    | none => exact ⟨fun _ _ => rfl, fun _ => fixed⟩
    | some shown =>
      constructor
      · exact fun same => absurd same.symm (value_text shown)
      · exact fun unmarked => absurd (unmarked marked) (Option.some_ne_none shown)
  · rw [if_neg marked]
    exact ⟨fun _ here => absurd here marked, fun _ => fixed⟩

/-- A value comes back under its name exactly when it is not taken for a kind. -/
theorem renamed_item {value : Datum} (storable : Storable value) (texted : Texted value) :
    (∀ name, canonical (logicalItem name (canonical value)) = canonical value ↔
      UnmarkedItem name value) ∧
    (canonical (logicalEntry (canonical value)) = canonical value ↔ UnmarkedEntry value) := by
  induction value using Datum.members with
  | bool flag =>
    refine ⟨fun name => ?_, fun _ => trivial, fun _ => rfl⟩
    apply renamed_number _ rfl
    exact fun shown same => Datum.noConfusion same
  | int number =>
    refine ⟨fun name => ?_, fun _ => trivial, fun _ => rfl⟩
    apply renamed_number _ rfl
    exact fun shown same => Datum.noConfusion same
  | text letters =>
    exact ⟨fun _ => ⟨fun _ => trivial, fun _ => rfl⟩, fun _ => trivial, fun _ => rfl⟩
  | list items ih =>
    have storables := storableList_iff.mp storable.2
    have texts := textedList_iff.mp texted
    refine ⟨fun name => ?_, fun _ => trivial, fun _ => canonical_canonical (.list items)⟩
    rw [canonical, canonicalList_eq, logicalItem, logicalList_eq, canonical, canonicalList_eq,
      List.map_map, List.map_map, Datum.list.injEq, List.map_inj_left, UnmarkedItem,
      unmarkedList_iff]
    exact forall₂_congr fun item member => (ih item member (storables item member)
      (texts item member)).2
  | dict entries ih =>
    obtain ⟨_, _, distinct, storableEntries⟩ := storable
    have storables := storableEntries_iff.mp storableEntries
    have texts := textedEntries_iff.mp texted
    have whole := renamed_dict distinct (fun entry member => (texts entry member).1)
      fun entry member => (ih entry member (storables entry member).2 (texts entry member).2).1
        entry.1
    rw [canonical_dict entries]
    exact ⟨fun _ => whole, whole⟩

end Renamed

section Names

theorem keyNames_lookup : ∀ entry ∈ keyNames,
    keyNames.lookup entry.1 = some entry.2 ∧ entry.1 < 2 ^ 64 := by
  decide

theorem messageKindNames_lookup : ∀ entry ∈ messageKindNames,
    messageKindNames.lookup entry.1 = some entry.2 ∧ entry.1 < 2 ^ 64 := by
  decide

theorem keyNumber_some {key : Key} {number : Nat} (named : keyNumber key = some number) :
    ∃ name, key = .text name ∧ (number, name) ∈ keyNames := by
  cases key with
  | int number => cases named
  | text name =>
    obtain ⟨entry, found, rfl⟩ := Option.map_eq_some_iff.mp named
    have same : entry.2 = name := by simpa using List.find?_some found
    exact ⟨name, rfl, same ▸ List.mem_of_find?_eq_some found⟩

theorem nameOf_number {key : Key} {number : Nat} (named : keyNumber key = some number) :
    nameOf (.int number) = key ∧ number < 2 ^ 64 := by
  obtain ⟨name, rfl, member⟩ := keyNumber_some named
  obtain ⟨found, small⟩ := keyNames_lookup _ member
  refine ⟨?_, small⟩
  rw [nameOf, if_pos (Int.natCast_nonneg number), Int.toNat_natCast, found]
  rfl

theorem kindName_number {kind : String} {number : Nat} (known : kindNumber kind = some number) :
    kindName number = some kind ∧ number < 2 ^ 64 := by
  obtain ⟨entry, found, rfl⟩ := Option.map_eq_some_iff.mp known
  have same : entry.2 = kind := by simpa using List.find?_some found
  obtain ⟨name, small⟩ := messageKindNames_lookup _ (List.mem_of_find?_eq_some found)
  refine ⟨?_, small⟩
  rw [kindName, if_pos (Int.natCast_nonneg entry.1), Int.toNat_natCast, name, same]

end Names

/-- The payloads of the format: distinct names that have a number and are not of the header,
with values that can be stored and have texts for keys. -/
structure Payload (payload : Entries) : Prop where
  distinct : (payload.map Prod.fst).Nodup
  named : ∀ entry ∈ payload, (keyNumber entry.1).isSome = true
  headless : .text "schema_version" ∉ payload.map Prod.fst ∧
    .text "message_kind" ∉ payload.map Prod.fst
  storable : ∀ entry ∈ payload, Storable entry.2
  texted : ∀ entry ∈ payload, Texted entry.2

/-- The payload under its header, with the kind as the given value. -/
def headed (kind : Datum) (payload : Entries) : Entries :=
  (.text "schema_version", .int 2) :: (.text "message_kind", kind) :: payload

def numbered (key : Key) : Key := (keyNumber key).elim key fun number => .int number

section Payloads

variable {payload : Entries} {kind : String} {number : Nat}

theorem headed_distinct (value : Datum) (formed : Payload payload) :
    ((headed value payload).map Prod.fst).Nodup := by
  have apart : Key.text "schema_version" ≠ .text "message_kind" := by
    intro same
    exact absurd (Key.text.inj same) (by decide)
  apply List.nodup_cons.mpr
  constructor
  · exact List.not_mem_cons_of_ne_of_not_mem apart formed.headless.1
  · exact List.nodup_cons.mpr ⟨formed.headless.2, formed.distinct⟩

theorem headed_numbered (value : Datum) (formed : Payload payload) :
    ∀ entry ∈ headed value payload, ∃ number : Nat, keyNumber entry.1 = some number := by
  intro entry member
  rcases List.mem_cons.mp member with rfl | member
  · exact ⟨0, rfl⟩
  · rcases List.mem_cons.mp member with rfl | member
    · exact ⟨1, rfl⟩
    · exact Option.isSome_iff_exists.mp (formed.named entry member)

theorem nameOf_numbered (value : Datum) (formed : Payload payload) :
    ∀ entry ∈ headed value payload, nameOf (numbered entry.1) = entry.1 := by
  intro entry member
  obtain ⟨number, named⟩ := headed_numbered value formed entry member
  rw [numbered, named]
  exact (nameOf_number named).1

theorem sent_distinct (value : Datum) (formed : Payload payload) :
    (((headed value payload).map fun entry => (numbered entry.1, entry.2)).map
      Prod.fst).Nodup := by
  rw [List.map_map]
  apply List.Nodup.of_map nameOf
  rw [List.map_map]
  have back : (headed value payload).map (nameOf ∘ Prod.fst ∘ fun entry =>
      (numbered entry.1, entry.2)) = (headed value payload).map Prod.fst :=
    List.map_congr_left (nameOf_numbered value formed)
  rw [back]
  exact headed_distinct value formed

theorem logicalToCborMap_eq (formed : Payload payload) (known : kindNumber kind = some number) :
    logicalToCborMap payload kind =
      some ((headed (.int number) payload).map fun entry => (numbered entry.1, entry.2)) := by
  have each : ∀ entry ∈ payload,
      ((keyNumber entry.1).map fun (number : Nat) => (Key.int number, entry.2)) =
        some (numbered entry.1, entry.2) := by
    intro entry member
    obtain ⟨number, named⟩ := Option.isSome_iff_exists.mp (formed.named entry member)
    rw [numbered, named]
    rfl
  rw [logicalToCborMap, known, Option.map_some, List.filterMap_congr each,
    ← Function.comp_def some, List.filterMap_eq_map]
  exact congrArg some (gather_distinct (sent_distinct (.int number) formed))

theorem headed_short (value : Datum) (formed : Payload payload) :
    (headed value payload).length < 2 ^ 64 := by
  have among : (headed value payload).map Prod.fst ⊆
      keyNames.map fun entry => Key.text entry.2 := by
    intro key member
    obtain ⟨entry, inside, rfl⟩ := List.mem_map.mp member
    obtain ⟨number, named⟩ := headed_numbered value formed entry inside
    obtain ⟨name, same, listed⟩ := keyNumber_some named
    exact List.mem_map.mpr ⟨_, listed, same.symm⟩
  have count := (List.Nodup.subperm (headed_distinct value formed) among).length_le
  rw [List.length_map, List.length_map] at count
  exact lt_of_le_of_lt count (by decide)

theorem sent_storable (formed : Payload payload) (known : kindNumber kind = some number) :
    Storable (.dict ((headed (.int number) payload).map fun entry =>
      (numbered entry.1, entry.2))) := by
  have kinds : ∀ entry ∈ headed (.int number) payload, ∃ key : Nat,
      numbered entry.1 = .int key ∧ key < 2 ^ 64 := by
    intro entry member
    obtain ⟨key, named⟩ := headed_numbered _ formed entry member
    exact ⟨key, by rw [numbered, named]; rfl, (nameOf_number named).2⟩
  have values : ∀ entry ∈ headed (.int number) payload, Storable entry.2 := by
    intro entry member
    rcases List.mem_cons.mp member with rfl | member
    · exact ⟨by decide, by decide⟩
    · rcases List.mem_cons.mp member with rfl | member
      · have small := (kindName_number known).2
        constructor <;> omega
      · exact formed.storable entry member
  refine ⟨?_, ?_, sent_distinct _ formed, ?_⟩
  · rw [List.length_map]
    exact headed_short _ formed
  · rw [oneKind, Bool.or_eq_true]
    right
    rw [List.map_map, List.all_map, List.all_eq_true]
    intro entry member
    obtain ⟨key, same, _⟩ := kinds entry member
    simp only [Function.comp, same]
    rfl
  · apply storableEntries_iff.mpr
    intro entry member
    obtain ⟨inner, inside, rfl⟩ := List.mem_map.mp member
    obtain ⟨key, same, small⟩ := kinds inner inside
    refine ⟨?_, values inner inside⟩
    rw [same]
    constructor <;> omega

theorem header_renamed (known : kindNumber kind = some number) :
    (headed (.int number) payload).map (fun entry =>
        (entry.1, canonical (logicalItem entry.1 (canonical entry.2)))) =
      (headed (.text kind) payload).map fun entry =>
        (entry.1, canonical (logicalItem entry.1 (canonical entry.2))) := by
  have kindBack : canonical (logicalItem (.text "message_kind") (canonical (.int number))) =
      .text kind := by
    rw [canonical, logicalItem, if_pos rfl, (kindName_number known).1]
    rfl
  rw [headed, headed, List.map_cons, List.map_cons, List.map_cons, List.map_cons, kindBack]
  rfl

/-- A payload is written, and read as itself under its header exactly when nothing in it is
taken for the number of a kind. -/
theorem payload_read (formed : Payload payload) (known : kindNumber kind = some number) :
    ∃ data back, encodePayloadCbor payload kind = some data ∧
      decodePayloadCbor data = some back ∧
      (Same (.dict back) (.dict (headed (.text kind) payload)) ↔ Unmarked payload) := by
  have storable := sent_storable formed known
  have written : encodePayloadCbor payload kind = some (encode (represent
      (.dict ((headed (.int number) payload).map fun entry => (numbered entry.1, entry.2))))) := by
    rw [encodePayloadCbor, logicalToCborMap_eq formed known, Option.bind_eq_bind,
      Option.bind_some, cborEncode_eq storable]
  have read := cborDecode_encode storable
  rw [canonical_dict, List.map_map] at read
  have renamed := canonical_renamed numbered (headed_distinct (.int number) formed)
    (nameOf_numbered (.int number) formed)
  rw [header_renamed known] at renamed
  have back : ∀ entry ∈ headed (.text kind) payload,
      (canonical (logicalItem entry.1 (canonical entry.2)) = canonical entry.2 ↔
        UnmarkedItem entry.1 entry.2) := by
    intro entry member
    rcases List.mem_cons.mp member with rfl | member
    · exact ⟨fun _ same => absurd (Key.text.inj same) (by decide), fun _ => rfl⟩
    · rcases List.mem_cons.mp member with rfl | member
      · exact ⟨fun _ => trivial, fun _ => rfl⟩
      · exact (renamed_item (formed.storable entry member) (formed.texted entry member)).1 entry.1
  refine ⟨_, cborMapToLogical _, written, by rw [decodePayloadCbor, read], ?_⟩
  apply (Eq.congr_left renamed).trans
  rw [canonical_dict, dict_inj, forall₂_congr back, ← unmarked_iff]
  exact ⟨fun unmarked => unmarked.2.2,
    fun unmarked => ⟨fun same => absurd (Key.text.inj same) (by decide), trivial, unmarked⟩⟩

end Payloads

/-- A stored value comes back as the same value, and a payload under its header comes back as
it was exactly when nothing in it is taken for the number of a message kind. -/
theorem codec_round_trip (value : Datum) (kind : String) (payload : Entries) :
    (Storable value → ∃ data back, cborEncode value = some data ∧
      cborDecode data = some back ∧ Same back value) ∧
    ((kindNumber kind).isSome = true → Payload payload →
      ∃ data back, encodePayloadCbor payload kind = some data ∧
        decodePayloadCbor data = some back ∧
        (Same (.dict back) (.dict (headed (.text kind) payload)) ↔ Unmarked payload)) := by
  constructor
  · intro storable
    exact ⟨_, _, cborEncode_eq storable, cborDecode_encode storable, canonical_canonical value⟩
  · intro known formed
    obtain ⟨number, known⟩ := Option.isSome_iff_exists.mp known
    exact payload_read formed known

/-- Arguments of a command under a name of their own. -/
def ownKind (value : Datum) : Entries :=
  [(.text "args", .dict [(.text "message_kind", value)])]

theorem ownKind_payload {number : Int} (low : 0 ≤ number) (high : number < 100) :
    Payload (ownKind (.int number)) where
  distinct := List.nodup_singleton _
  named := List.forall_mem_singleton.mpr rfl
  headless := by
    show Key.text "schema_version" ∉ [Key.text "args"] ∧
      Key.text "message_kind" ∉ [Key.text "args"]
    decide
  storable := by
    intro entry member
    rcases List.mem_singleton.mp member with rfl
    refine ⟨(by decide : 1 < 2 ^ 64), rfl, List.nodup_singleton _, ?_, ⟨by omega, by omega⟩,
      trivial⟩
    show (utf8 "message_kind").length < 2 ^ 64
    decide
  texted := List.forall_mem_singleton.mpr ⟨rfl, trivial, trivial⟩

/-- Both halves on values that come back: a list of a number, and a kind that does not exist. -/
theorem codec_round_trip_ownKind :
    (∃ data back, cborEncode (.list [.int (-5)]) = some data ∧ cborDecode data = some back ∧
      Same back (.list [.int (-5)])) ∧
    ∃ data back, encodePayloadCbor (ownKind (.int 99)) "app_command_request" = some data ∧
      decodePayloadCbor data = some back ∧
      Same (.dict back) (.dict (headed (.text "app_command_request") (ownKind (.int 99)))) := by
  have both := codec_round_trip (.list [.int (-5)]) "app_command_request" (ownKind (.int 99))
  constructor
  · exact both.1 ⟨by decide, ⟨by omega, by omega⟩, trivial⟩
  · obtain ⟨data, back, written, read, same⟩ :=
      both.2 (by decide) (ownKind_payload (by omega) (by omega))
    exact ⟨data, back, written, read, same.mpr ⟨⟨fun _ => by decide, trivial⟩, trivial⟩⟩

/-- Arguments with a `message_kind` of four come back with the name of a message. -/
theorem own_kind_renamed :
    ¬ ∀ kind payload, (kindNumber kind).isSome = true → Payload payload →
      ∃ data back, encodePayloadCbor payload kind = some data ∧
        decodePayloadCbor data = some back ∧
        Same (.dict back) (.dict (headed (.text kind) payload)) := by
  intro claimed
  have formed : Payload (ownKind (.int 4)) := ownKind_payload (by omega) (by omega)
  have known : kindNumber "app_command_request" = some 4 := by decide
  obtain ⟨data, back, written, read, same⟩ := claimed "app_command_request" _ (by decide) formed
  obtain ⟨data', back', written', read', exact⟩ := payload_read formed known
  cases Option.some.inj (written.symm.trans written')
  cases Option.some.inj (read.symm.trans read')
  exact absurd ((exact.mp same).1.1 rfl) (by decide)

end NeuroLink.PayloadCodec
