import NeuroLink.Cbor

/-!
Readers that count elements. Inside a map such a reader knows how many elements are still to
come, two for each entry, and it enters a map only while it has room to keep the count outside.
-/

namespace Cbor

def majorOf : Item → Nat
  | .int number => if number < 0 then 1 else 0
  | .text _ => 3
  | .list _ => 4
  | .map _ => 5
  | .bool _ => 7

theorem encode_first (item : Item) (rest : List UInt8) :
    ∃ first others, encode item ++ rest = first :: others ∧ first.toNat / 32 = majorOf item := by
  cases item with
  | int number =>
    rw [encode, majorOf]
    split
    · exact ⟨_, _, rfl, (head_first _ (by decide)).1⟩
    · exact ⟨_, _, rfl, (head_first _ (by decide)).1⟩
  | text bytes => exact ⟨_, _, rfl, (head_first _ (by decide)).1⟩
  | bool flag => cases flag <;> exact ⟨_, _, rfl, by decide⟩
  | list items => exact ⟨_, _, rfl, (head_first _ (by decide)).1⟩
  | map entries => exact ⟨_, _, rfl, (head_first _ (by decide)).1⟩

/-- Where a reader stands: the bytes ahead, the elements that it expects here and in the maps
around, and how many maps it can still enter. -/
structure Position where
  payload : List UInt8
  elemCount : Nat
  backups : Nat
  outer : List Nat

/-- Wherever the item is ahead and expected, the function reads it and gives the value. -/
def Takes {State α : Type} (position : State → Position) (decode : State → Option (α × State))
    (item : Item) (value : α) : Prop :=
  ∀ state rest count, (position state).payload = encode item ++ rest →
    (position state).elemCount = count + 1 →
    ∃ after, decode state = some (value, after) ∧
      position after = { position state with payload := rest, elemCount := count }

/-- A reader, and what it does with items in their shortest form. -/
structure ElementReader where
  State : Type
  position : State → Position
  start : (backups elemCount : Nat) → List UInt8 → State
  uint32Decode : State → Option (UInt32 × State)
  int32Decode : State → Option (Int32 × State)
  boolDecode : State → Option (Bool × State)
  tstrDecode : State → Option (List UInt8 × State)
  anySkip : State → Option (Unit × State)
  mapStartDecode : State → Option State
  mapEndDecode : State → Option State
  starts : ∀ backups elemCount data,
    position (start backups elemCount data) = ⟨data, elemCount, backups, []⟩
  takesUint32 : ∀ number : UInt32, Takes position uint32Decode (.int number.toNat) number
  takesInt32 : ∀ number : Int32, Takes position int32Decode (.int number.toInt) number
  takesBool : ∀ flag, Takes position boolDecode (.bool flag) flag
  takesText : ∀ bytes, Fits (.text bytes) → Takes position tstrDecode (.text bytes) bytes
  skips : ∀ item, Fits item → Takes position anySkip item ()
  enters : ∀ state rest length count backups, length < 65536 →
    (position state).payload = head 5 length ++ rest →
    (position state).elemCount = count + 1 → (position state).backups = backups + 1 →
    ∃ inside, mapStartDecode state = some inside ∧
      position inside = ⟨rest, 2 * length, backups, count :: (position state).outer⟩
  leaves : ∀ state count outer, (position state).elemCount = 0 →
    (position state).outer = count :: outer →
    ∃ outside, mapEndDecode state = some outside ∧
      position outside = ⟨(position state).payload, count, (position state).backups + 1, outer⟩

namespace ElementReader

variable (reader : ElementReader) {σ : Type}

/-- A loop over the elements that are expected, in at most as many rounds as the fuel. -/
def whileElements (round : σ → reader.State → Option (σ × reader.State)) :
    Nat → σ → reader.State → Option (σ × reader.State)
  | 0, _, _ => none
  | fuel + 1, held, state =>
      if (reader.position state).elemCount = 0 then some (held, state)
      else do
        let (held, state) ← round held state
        whileElements round fuel held state

/-- Every round takes an element, so that one round more than there are is enough. -/
def eachElement (round : σ → reader.State → Option (σ × reader.State)) (held : σ)
    (state : reader.State) : Option (σ × reader.State) :=
  reader.whileElements round ((reader.position state).elemCount + 1) held state

section Runs

variable {reader} {round : σ → reader.State → Option (σ × reader.State)}
  {Good : List (Item × Item) → σ → Prop} {backups : Nat} {outer : List Nat}

/-- What every round keeps holds after the loop: the entries are read one after the other. -/
theorem whileElements_run (entries : List (Item × Item))
    (step : ∀ entry later held state rest, Good (entry :: later) held →
      reader.position state =
        ⟨encode entry.1 ++ (encode entry.2 ++ rest), 2 * later.length + 2, backups, outer⟩ →
      ∃ next after, round held state = some (next, after) ∧ Good later next ∧
        reader.position after = ⟨rest, 2 * later.length, backups, outer⟩)
    {fuel : Nat} (enough : entries.length < fuel) {held : σ} {state : reader.State}
    {rest : List UInt8} (good : Good entries held)
    (stands : reader.position state =
      ⟨encodeEntries entries ++ rest, 2 * entries.length, backups, outer⟩) :
    ∃ last after, reader.whileElements round fuel held state = some (last, after) ∧
      Good [] last ∧ reader.position after = ⟨rest, 0, backups, outer⟩ := by
  induction entries generalizing fuel held state with
  | nil =>
    obtain ⟨fuel, rfl⟩ := Nat.exists_eq_succ_of_ne_zero (Nat.ne_of_gt enough)
    refine ⟨held, state, ?_, good, stands⟩
    rw [whileElements, if_pos]
    rw [stands]
    rfl
  | cons entry later ih =>
    obtain ⟨fuel, rfl⟩ := Nat.exists_eq_succ_of_ne_zero
      (Nat.ne_of_gt (Nat.lt_of_le_of_lt (Nat.zero_le _) enough))
    rw [encodeEntries, List.append_assoc, List.append_assoc, List.length_cons, Nat.mul_succ]
      at stands
    obtain ⟨next, after, taken, goodNext, standsNext⟩ :=
      step entry later held state (encodeEntries later ++ rest) good stands
    obtain ⟨last, final, ran, goodLast, standsLast⟩ :=
      ih (Nat.lt_of_succ_lt_succ enough) goodNext standsNext
    refine ⟨last, final, ?_, goodLast, standsLast⟩
    rw [whileElements, if_neg, taken]
    · exact ran
    · rw [stands]
      exact Nat.succ_ne_zero _

theorem eachElement_run (entries : List (Item × Item))
    (step : ∀ entry later held state rest, Good (entry :: later) held →
      reader.position state =
        ⟨encode entry.1 ++ (encode entry.2 ++ rest), 2 * later.length + 2, backups, outer⟩ →
      ∃ next after, round held state = some (next, after) ∧ Good later next ∧
        reader.position after = ⟨rest, 2 * later.length, backups, outer⟩)
    {held : σ} {state : reader.State} {rest : List UInt8} (good : Good entries held)
    (stands : reader.position state =
      ⟨encodeEntries entries ++ rest, 2 * entries.length, backups, outer⟩) :
    ∃ last after, reader.eachElement round held state = some (last, after) ∧
      Good [] last ∧ reader.position after = ⟨rest, 0, backups, outer⟩ := by
  apply whileElements_run entries step _ good stands
  rw [stands]
  show entries.length < 2 * entries.length + 1
  omega

end Runs

end ElementReader

namespace Position

/-- The next item, if one is expected. -/
def next (position : Position) : Option (Item × Position) :=
  match position.elemCount with
  | 0 => none
  | count + 1 => do
      let (item, rest) ← decodeAt position.payload.length position.payload
      return (item, { position with payload := rest, elemCount := count })

def number (low high : Int) (position : Position) : Option (Int × Position) := do
  match ← position.next with
  | (.int number, after) => if low ≤ number ∧ number < high then some (number, after) else none
  | _ => none

def uint32 (position : Position) : Option (UInt32 × Position) :=
  (position.number 0 (2 ^ 32)).map fun (number, after) => (UInt32.ofNat number.toNat, after)

def int32 (position : Position) : Option (Int32 × Position) :=
  (position.number (-(2 ^ 31)) (2 ^ 31)).map fun (number, after) => (Int32.ofInt number, after)

def bool (position : Position) : Option (Bool × Position) := do
  match ← position.next with
  | (.bool flag, after) => some (flag, after)
  | _ => none

def text (position : Position) : Option (List UInt8 × Position) := do
  match ← position.next with
  | (.text bytes, after) => some (bytes, after)
  | _ => none

def skip (position : Position) : Option (Unit × Position) :=
  position.next.map fun (_, after) => ((), after)

def enter (position : Position) : Option Position :=
  match position.payload, position.elemCount, position.backups with
  | first :: data, count + 1, backups + 1 =>
      if first.toNat / 32 = 5 then
        (readArgument (first.toNat % 32) data).map fun (length, rest) =>
          ⟨rest, 2 * length, backups, count :: position.outer⟩
      else none
  | _, _, _ => none

def leave (position : Position) : Option Position :=
  match position.elemCount, position.outer with
  | 0, count :: outer => some ⟨position.payload, count, position.backups + 1, outer⟩
  | _, _ => none

variable {position : Position} {item : Item} {rest : List UInt8} {count : Nat}

theorem next_encode (fits : Fits item) (ahead : position.payload = encode item ++ rest)
    (expected : position.elemCount = count + 1) :
    position.next = some (item, { position with payload := rest, elemCount := count }) := by
  have deep : depth item ≤ position.payload.length := by
    rw [ahead, List.length_append]
    exact Nat.le_add_right_of_le (depth_le_length item)
  have read := decodeAt_encode fits deep rest
  rw [← ahead] at read
  simp only [next, expected, read]
  rfl

theorem number_encode {number low high : Int} (wide : -(2 ^ 64) ≤ low ∧ high ≤ 2 ^ 64)
    (above : low ≤ number) (below : number < high)
    (ahead : position.payload = encode (.int number) ++ rest)
    (expected : position.elemCount = count + 1) :
    position.number low high =
      some (number, { position with payload := rest, elemCount := count }) := by
  have fits : Fits (.int number) := ⟨by omega, by omega⟩
  rw [Position.number, next_encode fits ahead expected]
  exact if_pos ⟨above, below⟩

theorem uint32_takes (number : UInt32) : Takes id uint32 (.int number.toNat) number := by
  intro state rest count ahead expected
  have below := number.toNat_lt
  have read := @number_encode state rest count number.toNat 0 (2 ^ 32) (by omega) (by omega)
    (by omega) ahead expected
  refine ⟨_, ?_, rfl⟩
  rw [uint32, read]
  simp

theorem int32_takes (number : Int32) : Takes id int32 (.int number.toInt) number := by
  intro state rest count ahead expected
  have read := @number_encode state rest count number.toInt (-(2 ^ 31)) (2 ^ 31) (by omega)
    number.le_toInt number.toInt_lt ahead expected
  refine ⟨_, ?_, rfl⟩
  rw [int32, read]
  simp

theorem bool_takes (flag : Bool) : Takes id bool (.bool flag) flag := by
  intro state rest count ahead expected
  have read := @next_encode state (.bool flag) rest count trivial ahead expected
  refine ⟨_, ?_, rfl⟩
  rw [bool, read]
  rfl

theorem text_takes (bytes : List UInt8) (fits : Fits (.text bytes)) :
    Takes id text (.text bytes) bytes := by
  intro state rest count ahead expected
  have read := @next_encode state (.text bytes) rest count fits ahead expected
  refine ⟨_, ?_, rfl⟩
  rw [text, read]
  rfl

theorem skip_takes (item : Item) (fits : Fits item) : Takes id skip item () := by
  intro state rest count ahead expected
  have read := @next_encode state item rest count fits ahead expected
  refine ⟨_, ?_, rfl⟩
  rw [skip, read]
  rfl

theorem enter_enters (position : Position) (rest : List UInt8) (length count backups : Nat)
    (short : length < 65536) (ahead : position.payload = head 5 length ++ rest)
    (expected : position.elemCount = count + 1) (room : position.backups = backups + 1) :
    ∃ inside, position.enter = some inside ∧
      inside = ⟨rest, 2 * length, backups, count :: position.outer⟩ := by
  obtain ⟨kind, argument⟩ := head_first length (show 5 < 8 by decide)
  have read := readArgument_head rest (show length < 2 ^ 64 by omega)
  refine ⟨_, ?_, rfl⟩
  rw [head, List.cons_append] at ahead
  simp only [enter, ahead, expected, room]
  rw [if_pos kind, argument, read]
  rfl

theorem leave_leaves (position : Position) (count : Nat) (outer : List Nat)
    (done : position.elemCount = 0) (around : position.outer = count :: outer) :
    ∃ outside, position.leave = some outside ∧
      outside = ⟨position.payload, count, position.backups + 1, outer⟩ := by
  refine ⟨_, ?_, rfl⟩
  simp only [leave, done, around]

end Position

/-- The reader that keeps its position and nothing else. -/
def ElementReader.plain : ElementReader where
  State := Position
  position := id
  start backups elemCount data := ⟨data, elemCount, backups, []⟩
  uint32Decode := Position.uint32
  int32Decode := Position.int32
  boolDecode := Position.bool
  tstrDecode := Position.text
  anySkip := Position.skip
  mapStartDecode := Position.enter
  mapEndDecode := Position.leave
  starts _ _ _ := rfl
  takesUint32 := Position.uint32_takes
  takesInt32 := Position.int32_takes
  takesBool := Position.bool_takes
  takesText := Position.text_takes
  skips := Position.skip_takes
  enters := Position.enter_enters
  leaves := Position.leave_leaves

end Cbor
