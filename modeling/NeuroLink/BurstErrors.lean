import NeuroLink.RecoverySeed
import NeuroLink.ShiftRegister

/-!
The checksum of the recovery seed file as a shift register of 32 bits, and the
bursts that it catches.
-/

namespace NeuroLink.RecoverySeed

open Errno ShiftRegister

/-- The polynomial in the reflected form that the loop of `neuro_crc32` uses. -/
def generator : BitVec 32 := 0xEDB88320#32

def byteBits (byte : UInt8) : List Bool :=
  (List.range 8).map byte.toBitVec.getLsbD

/-- The bits in the order in which `neuro_crc32` takes them: byte after byte, bit 0
first. -/
def bitsOf (bytes : List UInt8) : List Bool := bytes.flatMap byteBits

theorem generator_top : Top generator := rfl

theorem byteBits_injective {byte other : UInt8} (same : byteBits byte = byteBits other) :
    byte = other := by
  rw [byteBits, byteBits, List.map_inj_left] at same
  apply UInt8.toBitVec_inj.mp
  apply BitVec.eq_of_getLsbD_eq
  intro index inside
  exact same index (List.mem_range.mpr inside)

theorem bitsOf_length (bytes : List UInt8) : (bitsOf bytes).length = bytes.length * 8 := by
  induction bytes with
  | nil => rfl
  | cons byte rest ih =>
      have eight : (byteBits byte).length = 8 := by simp [byteBits]
      rw [bitsOf, List.flatMap_cons, List.length_append, ← bitsOf, ih, eight,
        List.length_cons]
      omega

theorem bitsOf_injective {bytes other : List UInt8} (same : bitsOf bytes = bitsOf other) :
    bytes = other := by
  induction bytes generalizing other with
  | nil =>
      have none := congrArg List.length same
      rw [bitsOf_length, bitsOf_length] at none
      cases other with
      | nil => rfl
      | cons => simp at none
  | cons byte bytes ih =>
      cases other with
      | nil =>
          have none := congrArg List.length same
          rw [bitsOf_length, bitsOf_length] at none
          simp at none
      | cons mate other =>
          rw [bitsOf, bitsOf, List.flatMap_cons, List.flatMap_cons] at same
          have parts := List.append_inj same (by simp [byteBits])
          rw [byteBits_injective parts.1, ih parts.2]

theorem crcBit_step (crc : UInt32) : (crcBit crc).toBitVec = step generator crc.toBitVec := by
  have low : crc &&& 1 ≠ 0 ↔ crc.toBitVec.getLsbD 0 = true := by
    rw [ne_eq, ← UInt32.toBitVec_inj, UInt32.toBitVec_and]
    change ¬ crc.toBitVec &&& 1#32 = 0#32 ↔ _
    rw [BitVec.and_one_eq_setWidth_ofBool_getLsbD]
    cases crc.toBitVec.getLsbD 0 <;> decide
  by_cases falls : crc &&& 1 ≠ 0
  · rw [crcBit, if_pos falls, step, if_pos (low.mp falls)]
    rfl
  · rw [crcBit, if_neg falls, step, if_neg (mt low.mpr falls)]
    rfl

theorem repeat_step (count : Nat) (crc : UInt32) :
    (Nat.repeat crcBit count crc).toBitVec = (step generator)^[count] crc.toBitVec := by
  induction count with
  | zero => rfl
  | succ count ih => rw [Nat.repeat, crcBit_step, ih, Function.iterate_succ_apply']

theorem word_byteBits (byte : UInt8) :
    (word (byteBits byte) : BitVec 32) = byte.toUInt32.toBitVec := by
  apply BitVec.eq_of_getLsbD_eq
  intro index inside
  rw [word_getLsbD, UInt8.toBitVec_toUInt32, BitVec.getLsbD_setWidth, byteBits]
  by_cases within : index < 8
  · rw [List.getD_eq_getElem _ _ (by simpa using within), List.getElem_map, List.getElem_range]
  · rw [List.getD_eq_default _ _ (by simpa using within),
      BitVec.getLsbD_of_ge _ _ (Nat.not_lt.mp within)]

theorem crcByte_feed (crc : UInt32) (byte : UInt8) :
    (crcByte crc byte).toBitVec = feed generator crc.toBitVec (byteBits byte) := by
  rw [feed_word generator _ _ (by simp [byteBits]), word_byteBits, crcByte, repeat_step]
  simp [byteBits]

theorem foldl_feed (crc : UInt32) (bytes : List UInt8) :
    (bytes.foldl crcByte crc).toBitVec = feed generator crc.toBitVec (bitsOf bytes) := by
  induction bytes generalizing crc with
  | nil => rfl
  | cons byte rest ih =>
      rw [List.foldl_cons, ih, crcByte_feed, bitsOf, bitsOf, List.flatMap_cons, feed_append]

/-- Payloads of one length that differ only within 32 consecutive bits have different
checksums. -/
theorem crc32_burst {bytes other : List UInt8} {start : Nat}
    (same : bytes.length = other.length)
    (window : ∀ index, (bitsOf bytes)[index]? ≠ (bitsOf other)[index]? →
      start ≤ index ∧ index < start + 32)
    (agree : crc32 bytes = crc32 other) : bytes = other := by
  have folds : bytes.foldl crcByte 0xFFFFFFFF = other.foldl crcByte 0xFFFFFFFF :=
    UInt32.not_inj.mp agree
  have feeds := congrArg UInt32.toBitVec folds
  rw [foldl_feed, foldl_feed] at feeds
  have lengths : (bitsOf bytes).length = (bitsOf other).length := by
    rw [bitsOf_length, bitsOf_length, same]
  exact bitsOf_injective (feed_injective_burst generator_top lengths window feeds)

/-- An encoded image whose payload is hit by a burst of at most 32 bits is refused. -/
theorem decode_burst {snapshot : Snapshot} {bufLen : Nat} {bytes damaged : List UInt8}
    (encoded : encode snapshot bufLen = .ok bytes)
    (size : damaged.length = bytes.length)
    (headers : damaged.take headerLayout.width = bytes.take headerLayout.width)
    (start : Nat)
    (burst : ∀ index,
      (bitsOf (damaged.drop headerLayout.width))[index]? ≠
        (bitsOf (bytes.drop headerLayout.width))[index]? →
      start ≤ index ∧ index < start + 32)
    (changed : damaged ≠ bytes) : decode damaged = .error (-ebadmsg) := by
  obtain ⟨few, rfl⟩ : snapshot.entries.length ≤ maxEntries ∧ image snapshot = bytes := by
    unfold encode at encoded
    split at encoded
    · cases encoded
    next few =>
      split at encoded
      · cases encoded
      · exact ⟨Nat.not_lt.mp few, by injection encoded⟩
  have written : (headerLayout.write (header snapshot)).length = headerLayout.width :=
    headerLayout.write_length _
  have first : (image snapshot).take headerLayout.width =
      headerLayout.write (header snapshot) := List.take_left' written
  have second : (image snapshot).drop headerLayout.width = payload snapshot :=
    List.drop_left' written
  have whole := List.take_append_drop headerLayout.width damaged
  rw [headers, first] at whole
  rw [second] at burst
  have long : (damaged.drop headerLayout.width).length = (payload snapshot).length := by
    rw [List.length_drop, size, ← second, List.length_drop]
  have count : (payload snapshot).length = snapshot.entries.length * 568 :=
    entryLayout.writeMany_length snapshot.entries
  rw [← whole, decode_header few, if_neg (by omega), List.take_of_length_le (by omega)]
  apply if_pos
  intro agree
  have kept := crc32_burst long burst agree
  rw [kept] at whole
  exact changed whole.symm

/-- The demo image with its first payload byte, the flag `used`, cleared. -/
def demoDamaged : List UInt8 := (image ⟨[demoEntry]⟩).set 16 0

theorem demoDamaged_rejected : decode demoDamaged = .error (-ebadmsg) := by
  have written : (headerLayout.write (header ⟨[demoEntry]⟩)).length = 16 :=
    headerLayout.write_length _
  have split : image ⟨[demoEntry]⟩ =
      headerLayout.write (header ⟨[demoEntry]⟩) ++ 1 :: (payload ⟨[demoEntry]⟩).tail := rfl
  have damage : demoDamaged =
      headerLayout.write (header ⟨[demoEntry]⟩) ++ 0 :: (payload ⟨[demoEntry]⟩).tail := by
    rw [demoDamaged, split, List.set_append_right _ _ (Nat.le_of_eq written), written]
    rfl
  refine decode_burst (encode_ok ⟨[demoEntry]⟩ (by decide)) (by simp [demoDamaged]) ?_ 0 ?_ ?_
  · rw [damage, split, headerLayout_width, List.take_left' written, List.take_left' written]
  · intro index differs
    rw [damage, split, headerLayout_width, List.drop_left' written,
      List.drop_left' written] at differs
    refine ⟨Nat.zero_le _, Nat.lt_of_not_le fun late => differs ?_⟩
    have past (byte : UInt8) : (byteBits byte).length ≤ index := by
      simp only [byteBits, List.length_map, List.length_range]
      omega
    rw [bitsOf, bitsOf, List.flatMap_cons, List.flatMap_cons,
      List.getElem?_append_right (past 0), List.getElem?_append_right (past 1)]
    simp [byteBits]
  · rw [damage, split]
    intro same
    cases List.append_cancel_left same

end NeuroLink.RecoverySeed
