import Mathlib.Algebra.Group.Int.Defs
import Mathlib.Algebra.Group.Nat.Defs
import Mathlib.Tactic.Common

/-!
Items of the concise binary object representation: integers, text strings, booleans, arrays
and maps of definite length. `encode` writes the shortest form of each head; `decodeAt`
reads any form of it and leaves the bytes behind the item.
-/

namespace Cbor

inductive Item where
  | int (number : Int)
  | text (bytes : List UInt8)
  | bool (flag : Bool)
  | list (items : List Item)
  | map (entries : List (Item × Item))

def bigEndian : Nat → Nat → List UInt8
  | 0, _ => []
  | width + 1, number => UInt8.ofNat (number / 256 ^ width) :: bigEndian width number

def bigEndianValue (bytes : List UInt8) : Nat :=
  bytes.foldl (fun value byte => 256 * value + byte.toNat) 0

def argumentWidth (number : Nat) : Nat :=
  if number < 24 then 0
  else if number < 256 then 1
  else if number < 65536 then 2
  else if number < 4294967296 then 4
  else 8

def additional (number : Nat) : Nat :=
  if number < 24 then number
  else if number < 256 then 24
  else if number < 65536 then 25
  else if number < 4294967296 then 26
  else 27

def head (major number : Nat) : List UInt8 :=
  UInt8.ofNat (32 * major + additional number) :: bigEndian (argumentWidth number) number

mutual

def encode : Item → List UInt8
  | .int number =>
      if number < 0 then head 1 (-1 - number).toNat else head 0 number.toNat
  | .text bytes => head 3 bytes.length ++ bytes
  | .bool flag => [if flag then 0xf5 else 0xf4]
  | .list items => head 4 items.length ++ encodeItems items
  | .map entries => head 5 entries.length ++ encodeEntries entries

def encodeItems : List Item → List UInt8
  | [] => []
  | item :: rest => encode item ++ encodeItems rest

def encodeEntries : List (Item × Item) → List UInt8
  | [] => []
  | (key, value) :: rest => encode key ++ encode value ++ encodeEntries rest

end

def readArgument (additional : Nat) (data : List UInt8) : Option (Nat × List UInt8) :=
  if additional < 24 then some (additional, data)
  else if additional > 27 then none
  else
    let width := 2 ^ (additional - 24)
    if data.length < width then none
    else some (bigEndianValue (data.take width), data.drop width)

section Many

variable {α : Type}

def many (read : List UInt8 → Option (α × List UInt8)) :
    Nat → List UInt8 → Option (List α × List UInt8)
  | 0, data => some ([], data)
  | count + 1, data => do
      let (item, rest) ← read data
      let (items, rest) ← many read count rest
      return (item :: items, rest)

def pair (read : List UInt8 → Option (α × List UInt8)) (data : List UInt8) :
    Option ((α × α) × List UInt8) := do
  let (key, rest) ← read data
  let (value, rest) ← read rest
  return ((key, value), rest)

end Many

def decodeBody (read : List UInt8 → Option (Item × List UInt8)) (major additional : Nat)
    (data : List UInt8) : Option (Item × List UInt8) :=
  match major with
  | 0 => do
      let (number, rest) ← readArgument additional data
      return (.int number, rest)
  | 1 => do
      let (number, rest) ← readArgument additional data
      return (.int (-1 - number), rest)
  | 3 => do
      let (length, rest) ← readArgument additional data
      if rest.length < length then none
      else return (.text (rest.take length), rest.drop length)
  | 4 => do
      let (length, rest) ← readArgument additional data
      let (items, rest) ← many read length rest
      return (.list items, rest)
  | 5 => do
      let (length, rest) ← readArgument additional data
      let (entries, rest) ← many (pair read) length rest
      return (.map entries, rest)
  | 7 =>
      if additional = 20 then some (.bool false, data)
      else if additional = 21 then some (.bool true, data)
      else none
  | _ => none

def decodeAt : Nat → List UInt8 → Option (Item × List UInt8)
  | _, [] => none
  | 0, _ :: _ => none
  | fuel + 1, first :: data =>
      decodeBody (decodeAt fuel) (first.toNat / 32) (first.toNat % 32) data

/-- The one item the bytes hold. No item is nested deeper than its bytes are many. -/
def decode (data : List UInt8) : Option Item :=
  match decodeAt data.length data with
  | some (item, []) => some item
  | _ => none

mutual

def depth : Item → Nat
  | .list items => depthItems items + 1
  | .map entries => depthEntries entries + 1
  | _ => 1

def depthItems : List Item → Nat
  | [] => 0
  | item :: rest => max (depth item) (depthItems rest)

def depthEntries : List (Item × Item) → Nat
  | [] => 0
  | (key, value) :: rest => max (max (depth key) (depth value)) (depthEntries rest)

end

mutual

/-- Every argument of the item has a head. -/
def Fits : Item → Prop
  | .int number => -(2 ^ 64) ≤ number ∧ number < 2 ^ 64
  | .text bytes => bytes.length < 2 ^ 64
  | .bool _ => True
  | .list items => items.length < 2 ^ 64 ∧ FitItems items
  | .map entries => entries.length < 2 ^ 64 ∧ FitEntries entries

def FitItems : List Item → Prop
  | [] => True
  | item :: rest => Fits item ∧ FitItems rest

def FitEntries : List (Item × Item) → Prop
  | [] => True
  | (key, value) :: rest => Fits key ∧ Fits value ∧ FitEntries rest

end

section Heads

theorem bigEndian_length (width number : Nat) : (bigEndian width number).length = width := by
  induction width with
  | zero => rfl
  | succ width ih => rw [bigEndian, List.length_cons, ih]

theorem foldl_bigEndian (width number value : Nat) :
    (bigEndian width number).foldl (fun value byte => 256 * value + byte.toNat) value =
      256 ^ width * value + number % 256 ^ width := by
  induction width generalizing value with
  | zero => simp [bigEndian, Nat.mod_one]
  | succ width ih =>
      have byte : (UInt8.ofNat (number / 256 ^ width)).toNat = number / 256 ^ width % 256 :=
        UInt8.toNat_ofNat'
      rw [bigEndian, List.foldl_cons, ih, byte, Nat.pow_succ, Nat.mod_mul, Nat.mul_add,
        ← Nat.mul_assoc]
      omega

theorem bigEndianValue_bigEndian {width number : Nat} (fits : number < 256 ^ width) :
    bigEndianValue (bigEndian width number) = number := by
  rw [bigEndianValue, foldl_bigEndian, Nat.mod_eq_of_lt fits, Nat.mul_zero, Nat.zero_add]

theorem readArgument_wide {width number : Nat} (rest : List UInt8) (wide : 24 ≤ width)
    (narrow : width ≤ 27) (fits : number < 256 ^ 2 ^ (width - 24)) :
    readArgument width (bigEndian (2 ^ (width - 24)) number ++ rest) = some (number, rest) := by
  have length := bigEndian_length (2 ^ (width - 24)) number
  have enough : ¬ (bigEndian (2 ^ (width - 24)) number ++ rest).length < 2 ^ (width - 24) := by
    rw [List.length_append, length]
    omega
  unfold readArgument
  rw [if_neg (by omega), if_neg (by omega)]
  dsimp only
  rw [if_neg enough, List.take_left' length, List.drop_left' length,
    bigEndianValue_bigEndian fits]

/-- An argument stands in the first byte, or in as many bytes behind it as that says. -/
theorem additional_cases {number : Nat} (fits : number < 2 ^ 64) :
    (number < 24 ∧ additional number = number ∧ argumentWidth number = 0) ∨
      ∃ width, 24 ≤ width ∧ width ≤ 27 ∧ additional number = width ∧
        argumentWidth number = 2 ^ (width - 24) ∧ number < 256 ^ 2 ^ (width - 24) := by
  unfold additional argumentWidth
  split
  · next small => exact .inl ⟨small, rfl, rfl⟩
  refine .inr ?_
  split
  · next small => exact ⟨24, by decide, by decide, rfl, rfl, small⟩
  split
  · next small => exact ⟨25, by decide, by decide, rfl, rfl, small⟩
  split
  · next small => exact ⟨26, by decide, by decide, rfl, rfl, small⟩
  · exact ⟨27, by decide, by decide, rfl, rfl, fits⟩

theorem readArgument_head {number : Nat} (rest : List UInt8) (fits : number < 2 ^ 64) :
    readArgument (additional number) (bigEndian (argumentWidth number) number ++ rest) =
      some (number, rest) := by
  obtain ⟨small, shown, width⟩ | ⟨width, low, high, shown, wide, holds⟩ := additional_cases fits
  · rw [shown, width, readArgument, if_pos small]
    rfl
  · rw [shown, wide]
    exact readArgument_wide rest low high holds

theorem additional_lt (number : Nat) : additional number < 32 := by
  unfold additional
  split
  · omega
  split
  · omega
  split
  · omega
  split <;> omega

theorem head_first {major : Nat} (number : Nat) (known : major < 8) :
    (UInt8.ofNat (32 * major + additional number)).toNat / 32 = major ∧
      (UInt8.ofNat (32 * major + additional number)).toNat % 32 = additional number := by
  have small := additional_lt number
  have byte : (UInt8.ofNat (32 * major + additional number)).toNat =
      (32 * major + additional number) % 256 := UInt8.toNat_ofNat'
  rw [byte]
  omega

end Heads

section Lists

variable {α : Type} {read : List UInt8 → Option (α × List UInt8)} {write : α → List UInt8}

theorem many_written {items : List α}
    (reads : ∀ item ∈ items, ∀ rest, read (write item ++ rest) = some (item, rest))
    (rest : List UInt8) :
    many read items.length (items.flatMap write ++ rest) = some (items, rest) := by
  induction items with
  | nil => rfl
  | cons item later ih =>
      have first := reads item List.mem_cons_self
      have others := ih fun other member => reads other (List.mem_cons_of_mem item member)
      rw [List.flatMap_cons, List.append_assoc, List.length_cons, many, first]
      simp only [Option.bind_eq_bind, Option.bind_some, others]
      rfl

theorem pair_written {entry : α × α} (key : ∀ rest, read (write entry.1 ++ rest) =
      some (entry.1, rest))
    (value : ∀ rest, read (write entry.2 ++ rest) = some (entry.2, rest)) (rest : List UInt8) :
    pair read ((write entry.1 ++ write entry.2) ++ rest) = some (entry, rest) := by
  simp only [pair, List.append_assoc, key, value, Option.bind_eq_bind, Option.bind_some]
  rfl

end Lists

theorem encodeItems_eq (items : List Item) : encodeItems items = items.flatMap encode := by
  induction items with
  | nil => rfl
  | cons item rest ih => rw [encodeItems, ih, List.flatMap_cons]

theorem encodeEntries_eq (entries : List (Item × Item)) :
    encodeEntries entries = entries.flatMap fun entry => encode entry.1 ++ encode entry.2 := by
  induction entries with
  | nil => rfl
  | cons entry rest ih => rw [encodeEntries, ih, List.flatMap_cons]

theorem fitItems_mem {items : List Item} (fits : FitItems items) :
    ∀ item ∈ items, Fits item := by
  induction items with
  | nil => simp
  | cons first rest ih =>
      intro item member
      rcases List.mem_cons.mp member with rfl | later
      · exact fits.1
      · exact ih fits.2 item later

theorem fitEntries_mem {entries : List (Item × Item)} (fits : FitEntries entries) :
    ∀ entry ∈ entries, Fits entry.1 ∧ Fits entry.2 := by
  induction entries with
  | nil => simp
  | cons first rest ih =>
      intro entry member
      rcases List.mem_cons.mp member with rfl | later
      · exact ⟨fits.1, fits.2.1⟩
      · exact ih fits.2.2 entry later

theorem fitItems_of_mem {items : List Item} (each : ∀ item ∈ items, Fits item) :
    FitItems items := by
  induction items with
  | nil => trivial
  | cons first rest ih =>
      obtain ⟨here, later⟩ := List.forall_mem_cons.mp each
      exact ⟨here, ih later⟩

theorem fitEntries_of_mem {entries : List (Item × Item)}
    (each : ∀ entry ∈ entries, Fits entry.1 ∧ Fits entry.2) : FitEntries entries := by
  induction entries with
  | nil => trivial
  | cons first rest ih =>
      obtain ⟨here, later⟩ := List.forall_mem_cons.mp each
      exact ⟨here.1, here.2, ih later⟩

theorem depthItems_mem {items : List Item} {bound : Nat} (shallow : depthItems items ≤ bound) :
    ∀ item ∈ items, depth item ≤ bound := by
  induction items with
  | nil => simp
  | cons first rest ih =>
      rw [depthItems] at shallow
      intro item member
      rcases List.mem_cons.mp member with rfl | later
      · omega
      · exact ih (by omega) item later

theorem depthEntries_mem {entries : List (Item × Item)} {bound : Nat}
    (shallow : depthEntries entries ≤ bound) :
    ∀ entry ∈ entries, depth entry.1 ≤ bound ∧ depth entry.2 ≤ bound := by
  induction entries with
  | nil => simp
  | cons first rest ih =>
      rw [depthEntries] at shallow
      intro entry member
      rcases List.mem_cons.mp member with rfl | later
      · omega
      · exact ih (by omega) entry later

theorem decodeAt_head {fuel major number : Nat} (known : major < 8) (rest : List UInt8) :
    decodeAt (fuel + 1) (head major number ++ rest) =
      decodeBody (decodeAt fuel) major (additional number)
        (bigEndian (argumentWidth number) number ++ rest) := by
  obtain ⟨kind, argument⟩ := head_first number known
  rw [head, List.cons_append, decodeAt, kind, argument]

/-- An item that was written is read back, whatever follows. -/
theorem decodeAt_encode {item : Item} {fuel : Nat} (fits : Fits item)
    (shallow : depth item ≤ fuel) (rest : List UInt8) :
    decodeAt fuel (encode item ++ rest) = some (item, rest) := by
  induction fuel generalizing item rest with
  | zero => cases item <;> simp [depth] at shallow
  | succ fuel ih =>
      cases item with
      | int number =>
          rw [Fits] at fits
          rw [encode]
          split
          · have value : -1 - (((-1 - number).toNat : Nat) : Int) = number := by omega
            rw [decodeAt_head (by decide)]
            simp only [decodeBody, readArgument_head rest (show (-1 - number).toNat < 2 ^ 64 by
              omega), Option.bind_eq_bind, Option.bind_some, value]
            rfl
          · have value : ((number.toNat : Nat) : Int) = number := by omega
            rw [decodeAt_head (by decide)]
            simp only [decodeBody, readArgument_head rest (show number.toNat < 2 ^ 64 by omega),
              Option.bind_eq_bind, Option.bind_some, value]
            rfl
      | text bytes =>
          rw [Fits] at fits
          rw [encode, List.append_assoc, decodeAt_head (by decide)]
          simp [decodeBody, readArgument_head _ fits]
      | bool flag =>
          cases flag with
          | false => rfl
          | true => rfl
      | list items =>
          rw [Fits] at fits
          rw [depth] at shallow
          -- what is inside is one level less deep, and the fuel is the depth that is left
          have each : ∀ inner ∈ items, ∀ rest,
              decodeAt fuel (encode inner ++ rest) = some (inner, rest) := fun inner member =>
            ih (fitItems_mem fits.2 inner member) (depthItems_mem (by omega) inner member)
          rw [encode, List.append_assoc, decodeAt_head (by decide), encodeItems_eq]
          simp only [decodeBody, readArgument_head _ fits.1, Option.bind_eq_bind,
            Option.bind_some, many_written each]
          rfl
      | map entries =>
          rw [Fits] at fits
          rw [depth] at shallow
          have each : ∀ entry ∈ entries, ∀ rest,
              pair (decodeAt fuel) ((encode entry.1 ++ encode entry.2) ++ rest) =
                some (entry, rest) := by
            intro entry member
            have fit := fitEntries_mem fits.2 entry member
            have low := depthEntries_mem (show depthEntries entries ≤ fuel by omega) entry member
            exact pair_written (ih fit.1 low.1) (ih fit.2 low.2)
          rw [encode, List.append_assoc, decodeAt_head (by decide), encodeEntries_eq]
          simp only [decodeBody, readArgument_head _ fits.1, Option.bind_eq_bind,
            Option.bind_some, many_written each]
          rfl

theorem head_length (major number : Nat) :
    (head major number).length = 1 + argumentWidth number := by
  rw [head, List.length_cons, bigEndian_length, Nat.add_comm]

theorem encode_int_positive (number : Int) : 1 ≤ (encode (.int number)).length := by
  rw [encode]
  split <;> rw [head_length] <;> omega

mutual

theorem depth_le_length : (item : Item) → depth item ≤ (encode item).length
  | .int number => encode_int_positive number
  | .text bytes => by
      show 1 ≤ (head 3 bytes.length ++ bytes).length
      rw [List.length_append, head_length]
      omega
  | .bool _ => Nat.le_refl 1
  | .list items => by
      have inner := depthItems_le_length items
      rw [depth, encode, List.length_append, head_length]
      omega
  | .map entries => by
      have inner := depthEntries_le_length entries
      rw [depth, encode, List.length_append, head_length]
      omega

theorem depthItems_le_length :
    (items : List Item) → depthItems items ≤ (encodeItems items).length
  | [] => Nat.le_refl 0
  | item :: rest => by
      have first := depth_le_length item
      have later := depthItems_le_length rest
      rw [depthItems, encodeItems, List.length_append]
      omega

theorem depthEntries_le_length :
    (entries : List (Item × Item)) → depthEntries entries ≤ (encodeEntries entries).length
  | [] => Nat.le_refl 0
  | (key, value) :: rest => by
      have first := depth_le_length key
      have second := depth_le_length value
      have later := depthEntries_le_length rest
      rw [depthEntries, encodeEntries, List.length_append, List.length_append]
      omega

end

/-- Decoding what was encoded gives the item. -/
theorem decode_encode {item : Item} (fits : Fits item) : decode (encode item) = some item := by
  have read := decodeAt_encode fits (depth_le_length item) []
  rw [List.append_nil] at read
  rw [decode, read]

mutual

def IntsFit : Item → Prop
  | .int number => -(2 ^ 64) ≤ number ∧ number < 2 ^ 64
  | .text _ | .bool _ => True
  | .list items => IntsFitItems items
  | .map entries => IntsFitEntries entries

def IntsFitItems : List Item → Prop
  | [] => True
  | item :: rest => IntsFit item ∧ IntsFitItems rest

def IntsFitEntries : List (Item × Item) → Prop
  | [] => True
  | (key, value) :: rest => IntsFit key ∧ IntsFit value ∧ IntsFitEntries rest

end

theorem intsFitItems_of_mem {items : List Item} (each : ∀ item ∈ items, IntsFit item) :
    IntsFitItems items := by
  induction items with
  | nil => trivial
  | cons item rest ih =>
      exact ⟨each item List.mem_cons_self,
        ih fun other member => each other (List.mem_cons_of_mem item member)⟩

theorem intsFitEntries_of_mem {entries : List (Item × Item)}
    (each : ∀ entry ∈ entries, IntsFit entry.1 ∧ IntsFit entry.2) : IntsFitEntries entries := by
  induction entries with
  | nil => trivial
  | cons entry rest ih =>
      have first := each entry List.mem_cons_self
      exact ⟨first.1, first.2,
        ih fun other member => each other (List.mem_cons_of_mem entry member)⟩

theorem encode_positive (item : Item) : 1 ≤ (encode item).length := by
  cases item with
  | int number => exact encode_int_positive number
  | text bytes => rw [encode, List.length_append, head_length]; omega
  | bool flag => exact Nat.le_refl 1
  | list items => rw [encode, List.length_append, head_length]; omega
  | map entries => rw [encode, List.length_append, head_length]; omega

theorem items_le_length (items : List Item) : items.length ≤ (encodeItems items).length := by
  induction items with
  | nil => exact Nat.le_refl 0
  | cons item rest ih =>
      have first := encode_positive item
      rw [List.length_cons, encodeItems, List.length_append]
      omega

theorem entries_le_length (entries : List (Item × Item)) :
    entries.length ≤ (encodeEntries entries).length := by
  induction entries with
  | nil => exact Nat.le_refl 0
  | cons entry rest ih =>
      have first := encode_positive entry.1
      rw [List.length_cons, encodeEntries, List.length_append, List.length_append]
      omega

mutual

theorem fits_of_short : (item : Item) → IntsFit item → (encode item).length < 2 ^ 64 → Fits item
  | .int _, ints, _ => ints
  | .text bytes, _, short => by
      rw [encode, List.length_append] at short
      show bytes.length < 2 ^ 64
      omega
  | .bool _, _, _ => trivial
  | .list items, ints, short => by
      rw [encode, List.length_append] at short
      have count := items_le_length items
      exact ⟨by omega, fitItems_of_short items ints (by omega)⟩
  | .map entries, ints, short => by
      rw [encode, List.length_append] at short
      have count := entries_le_length entries
      exact ⟨by omega, fitEntries_of_short entries ints (by omega)⟩

theorem fitItems_of_short : (items : List Item) → IntsFitItems items →
    (encodeItems items).length < 2 ^ 64 → FitItems items
  | [], _, _ => trivial
  | item :: rest, ints, short => by
      rw [encodeItems, List.length_append] at short
      exact ⟨fits_of_short item ints.1 (by omega), fitItems_of_short rest ints.2 (by omega)⟩

theorem fitEntries_of_short : (entries : List (Item × Item)) → IntsFitEntries entries →
    (encodeEntries entries).length < 2 ^ 64 → FitEntries entries
  | [], _, _ => trivial
  | (key, value) :: rest, ints, short => by
      rw [encodeEntries, List.length_append, List.length_append] at short
      exact ⟨fits_of_short key ints.1 (by omega), fits_of_short value ints.2.1 (by omega),
        fitEntries_of_short rest ints.2.2 (by omega)⟩

end

end Cbor
