import NeuroLink.CText

/-!
Binary records of a fixed size. A `Layout` writes a value as exactly `width`
bytes and reads a value from any bytes; what it wrote it reads back, whatever
follows. Layouts are put one after the other by `then`, transported along a
retraction by `as`, and repeated by `many`.
-/

namespace FixedLayout

universe u v
variable {Value : Type u} {Other : Type v}

structure Layout (Value : Type u) where
  width : Nat
  write : Value → List UInt8
  read : List UInt8 → Value
  write_length : ∀ value, (write value).length = width
  read_write : ∀ value rest, read (write value ++ rest) = value

namespace Layout

/-- One record, then another. -/
def pair (first : Layout Value) (second : Layout Other) : Layout (Value × Other) where
  width := first.width + second.width
  write value := first.write value.1 ++ second.write value.2
  read bytes := (first.read bytes, second.read (bytes.drop first.width))
  write_length value := by
    rw [List.length_append, first.write_length, second.write_length]
  read_write value rest := by
    have skip : (first.write value.1 ++ second.write value.2 ++ rest).drop first.width =
        second.write value.2 ++ rest := by
      rw [List.append_assoc, List.drop_left' (first.write_length value.1)]
    rw [skip, second.read_write, List.append_assoc, first.read_write]

def as (layout : Layout Value) (toValue : Other → Value) (ofValue : Value → Other)
    (recovers : ∀ other, ofValue (toValue other) = other) : Layout Other where
  width := layout.width
  write other := layout.write (toValue other)
  read bytes := ofValue (layout.read bytes)
  write_length other := layout.write_length (toValue other)
  read_write other rest := by rw [layout.read_write, recovers]

def reserved (width : Nat) : Layout Unit where
  width := width
  write _ := List.replicate width 0
  read _ := ()
  write_length _ := List.length_replicate
  read_write _ _ := rfl

def flag : Layout Bool where
  width := 1
  write value := [if value then 1 else 0]
  read bytes := bytes.headD 0 != 0
  write_length _ := rfl
  read_write value rest := by cases value <;> rfl

def word32Bytes (word : UInt32) : List UInt8 :=
  [.ofNat word.toNat, .ofNat (word.toNat / 256), .ofNat (word.toNat / 65536),
    .ofNat (word.toNat / 16777216)]

def word32OfBytes (bytes : List UInt8) : UInt32 :=
  .ofNat ((bytes.getD 0 0).toNat + (bytes.getD 1 0).toNat * 256 +
    (bytes.getD 2 0).toNat * 65536 + (bytes.getD 3 0).toNat * 16777216)

theorem word32_recovers (word : UInt32) (rest : List UInt8) :
    word32OfBytes (word32Bytes word ++ rest) = word := by
  have small := word.toNat_lt
  apply UInt32.toNat_inj.mp
  simp [word32OfBytes, word32Bytes]
  omega

def word32 : Layout UInt32 where
  width := 4
  write := word32Bytes
  read := word32OfBytes
  write_length _ := rfl
  read_write := word32_recovers

/-- A character array: the string, filled up with zeros, and read up to the first
zero or the last character that leaves room for a terminator. -/
def text (size : Nat) : Layout (CText.Buffer (size + 1)) where
  width := size + 1
  write buffer := CText.bytes buffer.text ++
    List.replicate (size + 1 - buffer.text.length) 0
  read bytes := CText.copyBounded (CText.ofBytes bytes)
  write_length buffer := by
    have fits := buffer.fits
    rw [List.length_append, CText.bytes_length, List.length_replicate]
    omega
  read_write buffer rest := by
    have fits := buffer.fits
    obtain ⟨pad, some⟩ : ∃ pad, size + 1 - buffer.text.length = pad + 1 :=
      ⟨size - buffer.text.length, by omega⟩
    rw [some, List.replicate_succ, List.append_assoc, List.cons_append,
      CText.ofBytes_bytes, CText.copyBounded_buffer]

/-- `count` records of one layout in a row. -/
def readMany (layout : Layout Value) : Nat → List UInt8 → List Value
  | 0, _ => []
  | count + 1, bytes =>
      layout.read bytes :: readMany layout count (bytes.drop layout.width)

def writeMany (layout : Layout Value) (values : List Value) : List UInt8 :=
  values.flatMap layout.write

theorem writeMany_length (layout : Layout Value) (values : List Value) :
    (layout.writeMany values).length = values.length * layout.width := by
  induction values with
  | nil => simp [writeMany]
  | cons value rest ih =>
      simp only [writeMany, List.flatMap_cons, List.length_append, List.length_cons,
        layout.write_length] at ih ⊢
      rw [ih, Nat.succ_mul, Nat.add_comm]

theorem readMany_writeMany (layout : Layout Value) (values : List Value)
    (rest : List UInt8) :
    layout.readMany values.length (layout.writeMany values ++ rest) = values := by
  induction values with
  | nil => rfl
  | cons value tail ih =>
      simp only [writeMany, List.flatMap_cons, List.length_cons, readMany,
        List.append_assoc, layout.read_write,
        List.drop_left' (layout.write_length value)] at ih ⊢
      rw [ih]

theorem readMany_length (layout : Layout Value) (count : Nat) (bytes : List UInt8) :
    (layout.readMany count bytes).length = count := by
  induction count generalizing bytes with
  | zero => rfl
  | succ count ih => simp [readMany, ih]

end Layout

end FixedLayout
