import Mathlib.Data.List.GetD
import Mathlib.Logic.Function.Iterate

/-!
A linear feedback shift register of any width. Message bits enter at bit 0 and
leave through the polynomial; a register whose polynomial has its top bit set
forgets nothing, so a burst no longer than the register always shows in it.
-/

namespace ShiftRegister

variable {width : Nat}

/-- One shift towards bit 0. The bit that falls out decides whether the
    polynomial is added. -/
def step (poly state : BitVec width) : BitVec width :=
  if state.getLsbD 0 then (state >>> 1) ^^^ poly else state >>> 1

def bit (value : Bool) : BitVec width := (BitVec.ofBool value).setWidth width

def feed (poly state : BitVec width) (bits : List Bool) : BitVec width :=
  bits.foldl (fun state value => step poly (state ^^^ bit value)) state

def word : List Bool → BitVec width
  | [] => 0
  | value :: rest => bit value ^^^ (word rest <<< 1)

def Top (poly : BitVec width) : Prop := poly.getLsbD (width - 1) = true

def difference (bits other : List Bool) : List Bool := List.zipWith xor bits other

@[simp] theorem feed_nil (poly state : BitVec width) : feed poly state [] = state := rfl

@[simp] theorem feed_cons (poly state : BitVec width) (value : Bool) (rest : List Bool) :
    feed poly state (value :: rest) = feed poly (step poly (state ^^^ bit value)) rest :=
  rfl

theorem feed_append (poly state : BitVec width) (bits rest : List Bool) :
    feed poly state (bits ++ rest) = feed poly (feed poly state bits) rest :=
  List.foldl_append

theorem bit_getLsbD (value : Bool) (index : Nat) :
    (bit value : BitVec width).getLsbD index =
      (decide (index < width) && decide (index = 0) && value) := by
  cases value <;> by_cases inside : index < width <;> by_cases low : index = 0 <;>
    simp [bit, inside, low, BitVec.getLsbD_setWidth]

theorem step_getLsbD (poly state : BitVec width) (index : Nat) :
    (step poly state).getLsbD index =
      xor (state.getLsbD (index + 1)) (state.getLsbD 0 && poly.getLsbD index) := by
  unfold step
  split
  next falls => simp [falls, BitVec.getLsbD_ushiftRight, Nat.add_comm 1]
  next stays => simp [stays, BitVec.getLsbD_ushiftRight, Nat.add_comm 1]

@[simp] theorem step_zero (poly : BitVec width) : step poly 0 = 0 := by
  simp [step]

theorem step_xor (poly left right : BitVec width) :
    step poly (left ^^^ right) = step poly left ^^^ step poly right := by
  apply BitVec.eq_of_getLsbD_eq
  intro index _
  simp only [step_getLsbD, BitVec.getLsbD_xor]
  cases left.getLsbD (index + 1) <;> cases right.getLsbD (index + 1) <;>
    cases left.getLsbD 0 <;> cases right.getLsbD 0 <;> simp

/-- No state but zero steps to zero: the top bit of the polynomial shows what
    fell out, and the other bits have only moved. -/
theorem step_eq_zero {poly state : BitVec width} (top : Top poly)
    (zero : step poly state = 0) : state = 0 := by
  have bits (index : Nat) :
      xor (state.getLsbD (index + 1)) (state.getLsbD 0 && poly.getLsbD index) = false := by
    rw [← step_getLsbD, zero, BitVec.ofNat_eq_ofNat, BitVec.getLsbD_zero]
  have low : state.getLsbD 0 = false := by
    have last := bits (width - 1)
    rw [show poly.getLsbD (width - 1) = true from top] at last
    have outside : state.getLsbD (width - 1 + 1) = false :=
      BitVec.getLsbD_of_ge _ _ (by omega)
    simpa [outside] using last
  apply BitVec.eq_of_getLsbD_eq
  intro index _
  cases index with
  | zero => simpa using low
  | succ previous => simpa [low] using bits previous

theorem iterate_eq_zero {poly : BitVec width} (top : Top poly) (count : Nat)
    {state : BitVec width} (zero : (step poly)^[count] state = 0) : state = 0 := by
  induction count with
  | zero => exact zero
  | succ count ih =>
      rw [Function.iterate_succ_apply'] at zero
      exact ih (step_eq_zero top zero)

theorem feed_false (poly state : BitVec width) (count : Nat) :
    feed poly state (List.replicate count false) = (step poly)^[count] state := by
  induction count generalizing state with
  | zero => rfl
  | succ count ih =>
      have nothing : (bit false : BitVec width) = 0 := by
        apply BitVec.eq_of_getLsbD_eq
        simp [bit_getLsbD]
      rw [List.replicate_succ, feed_cons, ih, nothing, Function.iterate_succ_apply]
      simp

theorem feed_xor (poly left right : BitVec width) (bits other : List Bool)
    (same : bits.length = other.length) :
    feed poly left bits ^^^ feed poly right other =
      feed poly (left ^^^ right) (difference bits other) := by
  induction bits generalizing left right other with
  | nil =>
      have empty : other = [] := List.length_eq_zero_iff.mp same.symm
      simp [empty, difference]
  | cons value bits ih =>
      obtain ⟨mate, other, rfl⟩ := List.exists_cons_of_length_eq_add_one same.symm
      have joined : (bit (xor value mate) : BitVec width) = bit value ^^^ bit mate := by
        apply BitVec.eq_of_getLsbD_eq
        intro index _
        simp only [bit_getLsbD, BitVec.getLsbD_xor]
        cases value <;> cases mate <;> simp
      rw [feed_cons, feed_cons, ih _ _ other (by simpa using same), ← step_xor]
      rw [show difference (value :: bits) (mate :: other) =
        xor value mate :: difference bits other from rfl, feed_cons, joined]
      congr 2
      ac_rfl

theorem word_getLsbD (bits : List Bool) (index : Nat) :
    (word bits : BitVec width).getLsbD index =
      (decide (index < width) && bits.getD index false) := by
  induction bits generalizing index with
  | nil => simp [word]
  | cons value rest ih =>
      rw [word, BitVec.getLsbD_xor, bit_getLsbD, BitVec.getLsbD_shiftLeft, ih]
      cases index with
      | zero => cases value <;> simp
      | succ previous =>
          by_cases inside : previous + 1 < width
          · have before : previous < width := by omega
            simp [inside, before]
          · simp [inside]

theorem step_shiftLeft (poly value : BitVec width)
    (free : value.getLsbD (width - 1) = false) : step poly (value <<< 1) = value := by
  apply BitVec.eq_of_getLsbD_eq
  intro index inside
  rw [step_getLsbD]
  by_cases last : index = width - 1
  · subst last
    simp [free]
  · have next : index + 1 < width := by omega
    simp [next, ← BitVec.getLsbD_eq_getElem inside]

theorem feed_word (poly state : BitVec width) (bits : List Bool)
    (short : bits.length ≤ width) :
    feed poly state bits = (step poly)^[bits.length] (state ^^^ word bits) := by
  induction bits generalizing state with
  | nil => simp [word]
  | cons value rest ih =>
      have fewer : rest.length < width := short
      have free : (word rest : BitVec width).getLsbD (width - 1) = false := by
        rw [word_getLsbD, List.getD_eq_default _ _ (by omega), Bool.and_false]
      rw [feed_cons, ih _ (Nat.le_of_lt fewer), List.length_cons, Function.iterate_succ_apply, word,
        ← BitVec.xor_assoc, step_xor poly (state ^^^ bit value), step_shiftLeft poly _ free]

theorem word_eq_zero {bits : List Bool} (short : bits.length ≤ width)
    (zero : (word bits : BitVec width) = 0) : ∀ value ∈ bits, value = false := by
  intro value member
  obtain ⟨index, inside, rfl⟩ := List.mem_iff_getElem.mp member
  have read : (word bits : BitVec width).getLsbD index = _ := word_getLsbD bits index
  have low : index < width := by omega
  rw [zero, List.getD_eq_getElem _ _ inside] at read
  simpa only [BitVec.ofNat_eq_ofNat, BitVec.getLsbD_zero, low, decide_true,
    Bool.true_and] using read.symm

def Burst (start : Nat) (span : Nat) (bits : List Bool) : Prop :=
  ∀ index, bits[index]? = some true → start ≤ index ∧ index < start + span

theorem all_false {bits : List Bool} (quiet : ∀ index : Nat, bits[index]? ≠ some true) :
    ∀ value ∈ bits, value = false := by
  intro value member
  obtain ⟨index, inside⟩ := List.mem_iff_getElem?.mp member
  cases value with
  | false => rfl
  | true => exact absurd inside (quiet index)

/-- A burst no longer than the register that leaves it at zero is no burst. -/
theorem burst_silent {poly : BitVec width} (top : Top poly) {start : Nat}
    {bits : List Bool} (burst : Burst start width bits) (zero : feed poly 0 bits = 0) :
    ∀ value ∈ bits, value = false := by
  have before : ∀ value ∈ bits.take start, value = false := by
    apply all_false
    intro index on
    rw [List.getElem?_take] at on
    split at on
    next early => exact absurd (burst index on).1 (by omega)
    next => cases on
  have after : ∀ value ∈ (bits.drop start).drop width, value = false := by
    apply all_false
    intro index on
    rw [List.drop_drop, List.getElem?_drop] at on
    exact absurd (burst _ on).2 (by omega)
  have window : ∀ value ∈ (bits.drop start).take width, value = false := by
    have short : ((bits.drop start).take width).length ≤ width := List.length_take_le _ _
    have parts : bits = bits.take start ++
        ((bits.drop start).take width ++ (bits.drop start).drop width) := by
      rw [List.take_append_drop, List.take_append_drop]
    -- The zeros before the burst leave the register at zero, those after it
    -- only shift it, and no shift makes it zero.
    have rests (count : Nat) : (step poly)^[count] (0 : BitVec width) = 0 :=
      Function.iterate_fixed (step_zero poly) count
    rw [parts, feed_append, feed_append, List.eq_replicate_of_mem before, feed_false, rests,
      List.eq_replicate_of_mem after, feed_false, feed_word poly 0 _ short] at zero
    have silent := iterate_eq_zero top _ (iterate_eq_zero top _ zero)
    exact word_eq_zero short (by simpa using silent)
  intro value member
  rw [← List.take_append_drop start bits, List.mem_append] at member
  rcases member with early | late
  · exact before value early
  · rw [← List.take_append_drop width (bits.drop start), List.mem_append] at late
    exact late.elim (window value) (after value)

/-- Two messages of one length that differ only inside a window no wider than
    the register, and that leave it in one state, are the same message. -/
theorem feed_injective_burst {poly : BitVec width} (top : Top poly) {state : BitVec width}
    {bits other : List Bool} {start : Nat} (same : bits.length = other.length)
    (window : ∀ index, bits[index]? ≠ other[index]? → start ≤ index ∧ index < start + width)
    (agree : feed poly state bits = feed poly state other) : bits = other := by
  have zero : feed poly 0 (difference bits other) = 0 := by
    have sum := feed_xor poly state state bits other same
    rwa [agree, BitVec.xor_self, BitVec.xor_self, eq_comm] at sum
  have burst : Burst start width (difference bits other) := by
    intro index on
    apply window index
    intro equal
    rw [difference, List.getElem?_zipWith, equal] at on
    cases read : other[index]? <;> simp [read] at on
  have silent := burst_silent top burst zero
  apply List.ext_getElem same
  intro index inside there
  have quiet := silent (xor bits[index] other[index]) (by
    apply List.mem_iff_getElem.mpr
    exact ⟨index, by simp [difference]; omega, by simp [difference]⟩)
  simpa using quiet

end ShiftRegister
