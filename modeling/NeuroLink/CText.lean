import Mathlib.Tactic.Common

/-!
C strings and the fixed character arrays that hold them. A string is the list
of its bytes before the terminator, so no byte of it is zero. A null pointer is
the empty string wherever the C code treats the two alike. `Buffer size` is a
`char [size]` field whose content is terminated inside the array.
-/

namespace CText

abbrev Letter := {byte : UInt8 // byte ≠ 0}

abbrev Text := List Letter

/-- The string a literal of the source denotes. -/
def lit (literal : String) : Text :=
  literal.toList.filterMap fun char =>
    let byte := UInt8.ofNat char.toNat
    if live : byte ≠ 0 then some ⟨byte, live⟩ else none

/-- The bytes of a string, without its terminator. -/
def bytes (text : Text) : List UInt8 := text.map (·.val)

@[simp] theorem bytes_length (text : Text) : (bytes text).length = text.length :=
  List.length_map _

/-- The string that starts at the first byte and ends before the first zero. -/
def ofBytes : List UInt8 → Text
  | [] => []
  | byte :: rest => if live : byte ≠ 0 then ⟨byte, live⟩ :: ofBytes rest else []

theorem ofBytes_bytes (text : Text) (rest : List UInt8) :
    ofBytes (bytes text ++ 0 :: rest) = text := by
  induction text with
  | nil => rfl
  | cons letter tail ih =>
      change ofBytes (letter.val :: (bytes tail ++ 0 :: rest)) = _
      rw [ofBytes, dif_pos letter.property, ih]

def strrchr (letter : Letter) : Text → Option Nat
  | [] => none
  | first :: rest =>
      match strrchr letter rest with
      | some index => some (index + 1)
      | none => if first = letter then some 0 else none

theorem strrchr_lt {letter : Letter} {text : Text} {index : Nat}
    (found : strrchr letter text = some index) : index < text.length := by
  induction text generalizing index with
  | nil => cases found
  | cons first rest ih =>
      rw [strrchr] at found
      cases later : strrchr letter rest with
      | some position =>
          rw [later] at found
          cases found
          exact Nat.succ_lt_succ (ih later)
      | none =>
          rw [later] at found
          dsimp only at found
          split at found
          · cases found
            exact Nat.succ_pos _
          · cases found

structure Buffer (size : Nat) where
  text : Text
  fits : text.length < size
  deriving DecidableEq

namespace Buffer

variable {size : Nat}

def empty : Buffer (size + 1) := ⟨[], Nat.succ_pos size⟩

@[simp] theorem empty_text : (empty : Buffer (size + 1)).text = [] := rfl

theorem text_injective {left right : Buffer size}
    (same : left.text = right.text) : left = right := by
  cases left
  cases right
  simpa using same

end Buffer

variable {size : Nat}

/-- `snprintf(dst, size, "%s", src)`: the copy keeps what fits before the
terminator and drops the rest without an error. -/
def copyBounded (src : Text) : Buffer (size + 1) :=
  ⟨src.take size, by
    rw [List.length_take]
    omega⟩

@[simp] theorem copyBounded_text (src : Text) :
    (copyBounded src : Buffer (size + 1)).text = src.take size := rfl

theorem copyBounded_exact (src : Text) (short : src.length ≤ size) :
    (copyBounded src : Buffer (size + 1)).text = src := by
  rw [copyBounded_text, List.take_of_length_le short]

theorem copyBounded_buffer (buffer : Buffer (size + 1)) :
    copyBounded buffer.text = buffer :=
  Buffer.text_injective (copyBounded_exact _ (Nat.le_of_lt_succ buffer.fits))

/-! Decimal output, as `%u`, `%d` and `%lld` print it. -/

def digitLetter (digit : Fin 10) : Letter :=
  ⟨48 + UInt8.ofNat digit.val, by revert digit; decide⟩

/-- The decimal digits of `value`, most significant first, when `fuel` exceeds
their number. -/
def digitsUpTo : Nat → Nat → Text
  | 0, _ => []
  | fuel + 1, value =>
      if value < 10 then [digitLetter ⟨value % 10, Nat.mod_lt _ (by decide)⟩]
      else digitsUpTo fuel (value / 10) ++
        [digitLetter ⟨value % 10, Nat.mod_lt _ (by decide)⟩]

def decimalNat (value : Nat) : Text := digitsUpTo (value + 1) value

def decimal : Int → Text
  | .ofNat value => decimalNat value
  | .negSucc value => lit "-" ++ decimalNat (value + 1)

end CText
