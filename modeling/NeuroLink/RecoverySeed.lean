import NeuroLink.ArtifactStore
import NeuroLink.FixedLayout
import NeuroLink.UpdateManager

/-!
The recovery seed format: a header of four words and up to four entries of 568
bytes, protected by a CRC-32 of the entries. Decoding checks length, magic,
version, entry count and checksum before it looks at an entry.
-/

namespace NeuroLink.RecoverySeed

open CText Errno FixedLayout

/-- `struct neuro_recovery_seed_entry`. -/
structure SeedEntry where
  used : Bool
  appId : Buffer 32
  updateState : UpdateManager.State
  updateLastError : Buffer 64
  rollbackReason : Buffer 64
  stableRef : Buffer 96
  artifactState : ArtifactStore.State
  artifactTransport : Buffer 16
  artifactKey : Buffer 128
  artifactPath : Buffer 128
  sizeBytes : UInt32
  chunkSize : UInt32
  chunksReceived : UInt32
  deriving DecidableEq

/-- `struct neuro_recovery_seed_snapshot`: its first `entry_count` entries. -/
structure Snapshot where
  entries : List SeedEntry
  deriving DecidableEq

abbrev maxEntries : Nat := 4

def seedMagic : UInt32 := 0x4E525344

def seedVersion : UInt32 := 1

def minSupportedVersion : UInt32 := 1

def maxSupportedVersion : UInt32 := seedVersion

def versionSupported (version : UInt32) : Bool :=
  minSupportedVersion ≤ version && version ≤ maxSupportedVersion

/-! State codes. -/

def updateStateCode : UpdateManager.State → UInt32
  | .none => 0
  | .prepareRequested => 1
  | .preparing => 2
  | .prepared => 3
  | .verifying => 4
  | .verified => 5
  | .activating => 6
  | .active => 7
  | .rollbackPending => 8
  | .rollingBack => 9
  | .rolledBack => 10
  | .failed => 11
  | .unknown code _ => code

def updateStateOfCode (code : UInt32) : UpdateManager.State :=
  if beyond : 12 ≤ code then .unknown code beyond
  else if code = 0 then .none
  else if code = 1 then .prepareRequested
  else if code = 2 then .preparing
  else if code = 3 then .prepared
  else if code = 4 then .verifying
  else if code = 5 then .verified
  else if code = 6 then .activating
  else if code = 7 then .active
  else if code = 8 then .rollbackPending
  else if code = 9 then .rollingBack
  else if code = 10 then .rolledBack
  else .failed

theorem updateState_recovers (state : UpdateManager.State) :
    updateStateOfCode (updateStateCode state) = state := by
  cases state with
  | unknown code beyond => simp [updateStateCode, updateStateOfCode, beyond]
  | _ => decide

def artifactStateCode : ArtifactStore.State → UInt32
  | .none => 0
  | .staged => 1
  | .verified => 2
  | .active => 3
  | .invalid => 4
  | .unknown code _ => code

def artifactStateOfCode (code : UInt32) : ArtifactStore.State :=
  if beyond : 5 ≤ code then .unknown code beyond
  else if code = 0 then .none
  else if code = 1 then .staged
  else if code = 2 then .verified
  else if code = 3 then .active
  else .invalid

theorem artifactState_recovers (state : ArtifactStore.State) :
    artifactStateOfCode (artifactStateCode state) = state := by
  cases state with
  | unknown code beyond => simp [artifactStateCode, artifactStateOfCode, beyond]
  | _ => decide

/-! The two records of the file. -/

/-- `struct neuro_seed_file_header`. -/
structure Header where
  magic : UInt32
  version : UInt32
  entryCount : UInt32
  payloadCrc : UInt32
  deriving DecidableEq

def headerLayout : Layout Header :=
  (Layout.word32.pair (Layout.word32.pair (Layout.word32.pair Layout.word32))).as
    (fun header =>
      (header.magic, header.version, header.entryCount, header.payloadCrc))
    (fun (magic, version, entryCount, payloadCrc) =>
      ⟨magic, version, entryCount, payloadCrc⟩)
    (fun _ => rfl)

def updateStateLayout : Layout UpdateManager.State :=
  Layout.word32.as updateStateCode updateStateOfCode updateState_recovers

def artifactStateLayout : Layout ArtifactStore.State :=
  Layout.word32.as artifactStateCode artifactStateOfCode artifactState_recovers

/-- `struct neuro_seed_file_entry`, field by field. -/
def entryLayout : Layout SeedEntry :=
  (Layout.flag.pair <| (Layout.reserved 3).pair <| (Layout.text 31).pair <|
    updateStateLayout.pair <| (Layout.text 63).pair <| (Layout.text 63).pair <|
    (Layout.text 95).pair <| artifactStateLayout.pair <| (Layout.text 15).pair <|
    (Layout.text 127).pair <| (Layout.text 127).pair <| Layout.word32.pair <|
    Layout.word32.pair <| Layout.word32.pair <| Layout.reserved 16).as
    (fun entry =>
      (entry.used, (), entry.appId, entry.updateState, entry.updateLastError,
        entry.rollbackReason, entry.stableRef, entry.artifactState,
        entry.artifactTransport, entry.artifactKey, entry.artifactPath,
        entry.sizeBytes, entry.chunkSize, entry.chunksReceived, ()))
    (fun (used, _, appId, updateState, updateLastError, rollbackReason, stableRef,
        artifactState, artifactTransport, artifactKey, artifactPath, sizeBytes,
        chunkSize, chunksReceived, _) =>
      ⟨used, appId, updateState, updateLastError, rollbackReason, stableRef,
        artifactState, artifactTransport, artifactKey, artifactPath, sizeBytes,
        chunkSize, chunksReceived⟩)
    (fun _ => rfl)

@[simp] theorem headerLayout_width : headerLayout.width = 16 := rfl

@[simp] theorem entryLayout_width : entryLayout.width = 568 := rfl

/-! The checksum. -/

def crcBit (crc : UInt32) : UInt32 :=
  if crc &&& 1 ≠ 0 then (crc >>> 1) ^^^ 0xEDB88320 else crc >>> 1

def crcByte (crc : UInt32) (byte : UInt8) : UInt32 :=
  Nat.repeat crcBit 8 (crc ^^^ byte.toUInt32)

/-- `neuro_crc32`. -/
def crc32 (data : List UInt8) : UInt32 :=
  ~~~ data.foldl crcByte 0xFFFFFFFF

/-! Encoding and decoding. -/

def payload (snapshot : Snapshot) : List UInt8 :=
  entryLayout.writeMany snapshot.entries

def header (snapshot : Snapshot) : Header where
  magic := seedMagic
  version := seedVersion
  entryCount := .ofNat snapshot.entries.length
  payloadCrc := crc32 (payload snapshot)

def image (snapshot : Snapshot) : List UInt8 :=
  headerLayout.write (header snapshot) ++ payload snapshot

def maxImage : Nat := headerLayout.width + maxEntries * entryLayout.width

def encode (snapshot : Snapshot) (bufLen : Nat) : Except Int (List UInt8) :=
  if snapshot.entries.length > maxEntries then .error (-eoverflow)
  else if bufLen < headerLayout.width + (payload snapshot).length then
    .error (-enospc)
  else .ok (image snapshot)

def decodeV1 (header : Header) (buf : List UInt8) : Except Int Snapshot :=
  if header.entryCount.toNat > maxEntries then .error (-eoverflow) else
  let payloadSize := header.entryCount.toNat * entryLayout.width
  if buf.length < headerLayout.width + payloadSize then .error (-ebadmsg) else
  let payload := buf.drop headerLayout.width
  if crc32 (payload.take payloadSize) ≠ header.payloadCrc then .error (-ebadmsg)
  else .ok ⟨entryLayout.readMany header.entryCount.toNat payload⟩

def decode (buf : List UInt8) : Except Int Snapshot :=
  if buf.length < headerLayout.width then .error (-ebadmsg) else
  let header := headerLayout.read buf
  if header.magic ≠ seedMagic then .error (-eproto)
  else if !versionSupported header.version then .error (-enotsup)
  else if header.version = 1 then decodeV1 header buf
  else .error (-enotsup)

theorem image_length (snapshot : Snapshot) :
    (image snapshot).length = 16 + snapshot.entries.length * 568 := by
  simp [image, payload, Layout.writeMany_length, headerLayout.write_length]

/-- A snapshot that fits is encoded to its image. -/
theorem encode_ok (snapshot : Snapshot) (few : snapshot.entries.length ≤ maxEntries) :
    encode snapshot maxImage = .ok (image snapshot) := by
  have room : headerLayout.width + (payload snapshot).length ≤ maxImage := by
    simp only [maxImage, payload, Layout.writeMany_length]
    exact Nat.add_le_add_left (Nat.mul_le_mul_right _ few) _
  rw [encode, if_neg (Nat.not_lt.mpr few), if_neg (Nat.not_lt.mpr room)]

theorem encode_ok_iff {snapshot : Snapshot} {bytes : List UInt8} :
    encode snapshot maxImage = .ok bytes ↔
      snapshot.entries.length ≤ maxEntries ∧ bytes = image snapshot := by
  by_cases few : snapshot.entries.length ≤ maxEntries
  · simp [encode_ok snapshot few, few, eq_comm]
  · simp [encode, Nat.not_le.mp few, few]

theorem decode_header {snapshot : Snapshot} {rest : List UInt8}
    (few : snapshot.entries.length ≤ maxEntries) :
    decode (headerLayout.write (header snapshot) ++ rest) =
      if rest.length < snapshot.entries.length * 568 then .error (-ebadmsg)
      else if crc32 (rest.take (snapshot.entries.length * 568)) ≠
          crc32 (payload snapshot) then .error (-ebadmsg)
      else .ok ⟨entryLayout.readMany snapshot.entries.length rest⟩ := by
  have count : (header snapshot).entryCount.toNat = snapshot.entries.length := by
    have bound : snapshot.entries.length ≤ 4 := few
    change snapshot.entries.length % 4294967296 = _
    exact Nat.mod_eq_of_lt (by omega)
  have long : ¬ (headerLayout.write (header snapshot) ++ rest).length <
      headerLayout.width := by
    rw [List.length_append, headerLayout.write_length]
    omega
  have skip : (headerLayout.write (header snapshot) ++ rest).drop headerLayout.width =
      rest := List.drop_left' (headerLayout.write_length _)
  have versions : versionSupported 1 = true := by decide
  simp only [decode, long, ↓reduceIte, headerLayout.read_write]
  simp only [decodeV1, count, skip, List.length_append, headerLayout.write_length]
  simp only [header, seedVersion, versions, headerLayout_width, entryLayout_width,
    Nat.not_lt.mpr few, ↓reduceIte, ne_eq, not_true_eq_false, Bool.not_true,
    Bool.false_eq_true, Nat.add_lt_add_iff_left]
  rfl

/-- Decoding the image of a snapshot gives the snapshot back. -/
theorem decode_image (snapshot : Snapshot) (few : snapshot.entries.length ≤ maxEntries) :
    decode (image snapshot) = .ok snapshot := by
  have size : (payload snapshot).length = snapshot.entries.length * 568 :=
    entryLayout.writeMany_length snapshot.entries
  rw [image, decode_header few, if_neg (by omega), List.take_of_length_le (by omega),
    if_neg (by simp)]
  have entries := entryLayout.readMany_writeMany snapshot.entries []
  rw [List.append_nil] at entries
  rw [payload, entries]

/-- No proper prefix of an image decodes. -/
theorem decode_prefix {snapshot : Snapshot} {bytes : List UInt8}
    (few : snapshot.entries.length ≤ maxEntries) (cut : bytes <+: image snapshot)
    (short : bytes.length < (image snapshot).length) :
    decode bytes = .error (-ebadmsg) := by
  rw [image_length] at short
  by_cases stub : bytes.length < 16
  · simp [decode, stub]
  · have start : headerLayout.write (header snapshot) <+: bytes :=
      List.prefix_of_prefix_length_le (List.prefix_append _ _) cut
        (by rw [headerLayout.write_length]; exact Nat.not_lt.mp stub)
    obtain ⟨rest, rfl⟩ := start
    rw [List.length_append, headerLayout.write_length, headerLayout_width] at short
    rw [decode_header few, if_pos (by omega)]

/-- A snapshot with at most four entries is encoded into any buffer with room for its
bytes. They decode to the snapshot again, and what a cut leaves of them does not
decode. -/
theorem encode_decodes (snapshot : Snapshot) (bufLen : Nat)
    (few : snapshot.entries.length ≤ maxEntries)
    (room : headerLayout.width + snapshot.entries.length * entryLayout.width ≤ bufLen) :
    ∃ bytes, encode snapshot bufLen = .ok bytes ∧ decode bytes = .ok snapshot ∧
      ∀ cut, cut <+: bytes → cut ≠ bytes → decode cut = .error (-ebadmsg) := by
  have fits : ¬ bufLen < headerLayout.width + (payload snapshot).length := by
    rw [payload, Layout.writeMany_length]
    exact Nat.not_lt.mpr room
  refine ⟨image snapshot, ?_, decode_image snapshot few, fun cut front other => ?_⟩
  · rw [encode, if_neg (Nat.not_lt.mpr few), if_neg fits]
  · have short : cut.length < (image snapshot).length :=
      Nat.lt_of_le_of_ne front.length_le fun same => other (front.eq_of_length same)
    exact decode_prefix few front short

/-- An application as a unit saves it. -/
def demoEntry : SeedEntry where
  used := true
  appId := copyBounded (lit "demo")
  updateState := .active
  updateLastError := .empty
  rollbackReason := .empty
  stableRef := copyBounded (lit "/SD:/apps/demo.llext")
  artifactState := .active
  artifactTransport := .empty
  artifactKey := .empty
  artifactPath := .empty
  sizeBytes := 0
  chunkSize := 0
  chunksReceived := 0

theorem demoEntry_decodes :
    ∃ bytes, encode ⟨[demoEntry]⟩ maxImage = .ok bytes ∧
      decode bytes = .ok ⟨[demoEntry]⟩ ∧
      ∀ cut, cut <+: bytes → cut ≠ bytes → decode cut = .error (-ebadmsg) :=
  encode_decodes ⟨[demoEntry]⟩ maxImage (by decide) (by decide)

end NeuroLink.RecoverySeed
