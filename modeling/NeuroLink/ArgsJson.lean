import NeuroLink.RequestDecoder

/-!
What the JSON text of the arguments says of the map that it was made of. The map is any run of
texts and values that the reader finds, in whatever form their heads are written.
-/

namespace NeuroLink.ArgsJson

open CText Cbor RequestText RequestDecoder

/-- A value under a key, and no more than the major type of one that is not an argument. -/
inductive ArgValue where
  | text (bytes : List UInt8)
  | unsigned (number : UInt32)
  | negative (number : Int32)
  | bool (flag : Bool)
  | other (major : Nat) (foreign : major ∉ [0, 1, 3, 7])

namespace ArgValue

def major : ArgValue → Nat
  | text _ => 3
  | unsigned _ => 0
  | negative _ => 1
  | bool _ => 7
  | other major _ => major

/-- The value may stand in the JSON text. -/
def Safe : ArgValue → Prop
  | text bytes => jsonFragmentIsSafe bytes = true
  | unsigned _ | negative _ | bool _ => True
  | other _ _ => False

def item : ArgValue → Item
  | text bytes => .text bytes
  | unsigned number => .int number.toNat
  | negative number => .int number.toInt
  | bool flag => .bool flag
  | other _ _ => .list []

end ArgValue

abbrev Entry := List UInt8 × ArgValue

def Entry.Safe (entry : Entry) : Prop := jsonFragmentIsSafe entry.1 = true ∧ entry.2.Safe

/-- What an entry is to the loop. -/
def Entry.pair (entry : Entry) : Item × Item := (.text entry.1, entry.2.item)

/-- The text of the arguments. -/
def argsText (entries : List Entry) : Text := argumentsText (entries.map Entry.pair)

def Means : JsonText.Value → ArgValue → Prop
  | .string content, .text value => bytes content = value
  | .number number, .unsigned value => number = value.toNat
  | .number number, .negative value => number = value.toInt
  | .bool flag, .bool value => flag = value
  | _, _ => False

/-- The parsed value is an object with these pairs, one after the other. -/
def Parsed (text : Text) (entries : List Entry) : Prop :=
  ∃ members, JsonText.parse text = some (.object members) ∧
    List.Forall₂ (fun member entry => bytes member.1 = entry.1 ∧ Means member.2 entry.2)
      members entries

section Ahead

variable (zcbor : ElementReader)

/-- The value is ahead: its head gives its major type, and a reader that succeeds gives it. -/
def ValueAhead (value : ArgValue) (behind : zcbor.State → Prop) (state : zcbor.State) : Prop :=
  ∀ first rest, (zcbor.position state).payload = first :: rest →
    first.toNat / 32 = value.major ∧
    match value with
    | .text bytes => ∀ found after, zcbor.tstrDecode state = some (found, after) →
        found = bytes ∧ behind after
    | .unsigned number => ∀ found after, zcbor.uint32Decode state = some (found, after) →
        found = number ∧ behind after
    | .negative number => ∀ found after, zcbor.int32Decode state = some (found, after) →
        found = number ∧ behind after
    | .bool flag => ∀ found after, zcbor.boolDecode state = some (found, after) →
        found = flag ∧ behind after
    | .other _ _ => True

/-- The entries are ahead, and then no element is, or a break that is no text. -/
def EntriesAhead : List Entry → zcbor.State → Prop
  | [], state => (zcbor.position state).elemCount = 0 ∨ zcbor.tstrDecode state = none
  | (key, value) :: rest, state => (zcbor.position state).elemCount ≠ 0 ∧
      ∀ found after, zcbor.tstrDecode state = some (found, after) →
        found = key ∧ ValueAhead zcbor value (EntriesAhead rest) after

/-- A map with these entries is ahead. -/
def MapAhead (entries : List Entry) (state : zcbor.State) : Prop :=
  ∀ inside, zcbor.mapStartDecode state = some inside → EntriesAhead zcbor entries inside

end Ahead

/-! What a text that was appended to says of what it was appended. -/

section Appended

variable {size : Nat} {buf next : Buffer size}

theorem jsonAppend_text {fragment : Text} (appended : jsonAppend buf fragment = some next) :
    next.text = buf.text ++ fragment := by
  rw [jsonAppend] at appended
  split at appended
  · cases appended
    rfl
  · cases appended

theorem jsonAppendTstr_text {value : List UInt8}
    (appended : jsonAppendTstr buf value = some next) :
    jsonFragmentIsSafe value = true ∧ next.text = buf.text ++ quoted (ofBytes value) := by
  rw [jsonAppendTstr] at appended
  split at appended
  · next safe => exact ⟨safe, jsonAppend_text appended⟩
  · cases appended

theorem jsonSeparate_text (separated : jsonSeparate buf = some next) :
    next.text = if buf.text.length > 1 then buf.text ++ lit "," else buf.text := by
  rw [jsonSeparate] at separated
  split at separated
  · next more => rw [if_pos more, jsonAppend_text separated]
  · next first =>
    cases separated
    rw [if_neg first]

end Appended

section Rounds

variable {zcbor : ElementReader} {size : Nat} {buf next : Buffer size} {state after : zcbor.State}

theorem decodeArgument_inv {value : ArgValue} {behind : zcbor.State → Prop}
    (ahead : ValueAhead zcbor value behind state)
    (decoded : decodeArgument zcbor buf state = some (next, after)) :
    value.Safe ∧ next.text = buf.text ++ argumentShown value.item ∧ behind after := by
  unfold decodeArgument at decoded
  split at decoded
  · cases decoded
  next first rest payload =>
  obtain ⟨major, reads⟩ := ahead first rest payload
  rw [major] at decoded
  cases value with
  | text bytes =>
    obtain ⟨⟨found, middle⟩, read, decoded⟩ := Option.bind_eq_some_iff.mp decoded
    obtain ⟨buffer, appended, done⟩ := Option.bind_eq_some_iff.mp decoded
    obtain ⟨rfl, reached⟩ := reads found middle read
    obtain ⟨safe, text⟩ := jsonAppendTstr_text appended
    cases done
    exact ⟨safe, text, reached⟩
  | unsigned number =>
    obtain ⟨⟨found, middle⟩, read, decoded⟩ := Option.bind_eq_some_iff.mp decoded
    obtain ⟨buffer, appended, done⟩ := Option.bind_eq_some_iff.mp decoded
    obtain ⟨rfl, reached⟩ := reads found middle read
    cases done
    exact ⟨trivial, jsonAppend_text appended, reached⟩
  | negative number =>
    obtain ⟨⟨found, middle⟩, read, decoded⟩ := Option.bind_eq_some_iff.mp decoded
    obtain ⟨buffer, appended, done⟩ := Option.bind_eq_some_iff.mp decoded
    obtain ⟨rfl, reached⟩ := reads found middle read
    cases done
    exact ⟨trivial, jsonAppend_text appended, reached⟩
  | bool flag =>
    obtain ⟨⟨found, middle⟩, read, decoded⟩ := Option.bind_eq_some_iff.mp decoded
    obtain ⟨buffer, appended, done⟩ := Option.bind_eq_some_iff.mp decoded
    obtain ⟨rfl, reached⟩ := reads found middle read
    cases done
    exact ⟨trivial, jsonAppend_text appended, reached⟩
  | other major foreign =>
    -- none of the four cases of the switch is the major type of this value
    simp only [List.mem_cons, List.not_mem_nil, or_false, not_or] at foreign
    obtain ⟨notUnsigned, notNegative, notText, notSimple⟩ := foreign
    simp only [ArgValue.major] at decoded
    cases decoded

/-- A round that succeeds has printed a safe entry. -/
theorem decodeArgsEntry_inv {entry : Entry} {rest : List Entry}
    (ahead : EntriesAhead zcbor (entry :: rest) state)
    (decoded : decodeArgsEntry zcbor buf state = some (next, after)) :
    entry.Safe ∧ next.text = grown buf entry.pair ∧ EntriesAhead zcbor rest after := by
  obtain ⟨key, value⟩ := entry
  obtain ⟨⟨found, middle⟩, read, decoded⟩ := Option.bind_eq_some_iff.mp decoded
  obtain ⟨rfl, valueAhead⟩ := ahead.2 found middle read
  dsimp only at decoded
  split at decoded
  · next safe =>
    obtain ⟨front, separated, decoded⟩ := Option.bind_eq_some_iff.mp decoded
    obtain ⟨named, appendedKey, decoded⟩ := Option.bind_eq_some_iff.mp decoded
    obtain ⟨marked, appendedColon, decoded⟩ := Option.bind_eq_some_iff.mp decoded
    obtain ⟨safeValue, text, reached⟩ := decodeArgument_inv valueAhead decoded
    refine ⟨⟨safe, safeValue⟩, ?_, reached⟩
    rw [text, jsonAppend_text appendedColon, (jsonAppendTstr_text appendedKey).2,
      jsonSeparate_text separated, Entry.pair, grown, argumentText_eq]
    simp only [List.append_assoc]
  · cases decoded

/-- A loop that comes to its end has printed every entry behind what was printed before. -/
theorem whileElements_inv {entries : List Entry} {before : List (Item × Item)} {fuel : Nat}
    (text : buf.text = lit "\x7b" ++ JsonText.join argumentText before)
    (ahead : EntriesAhead zcbor entries state)
    (ran : zcbor.whileElements (decodeArgsEntry zcbor) fuel buf state = some (next, after)) :
    (∀ entry ∈ entries, entry.Safe) ∧
      next.text = lit "\x7b" ++ JsonText.join argumentText (before ++ entries.map Entry.pair) := by
  induction entries generalizing fuel before buf state with
  | nil =>
    rw [List.map_nil, List.append_nil]
    refine ⟨fun entry member => absurd member List.not_mem_nil, ?_⟩
    cases fuel with
    | zero => cases ran
    | succ fuel =>
      rw [ElementReader.whileElements] at ran
      split at ran
      · cases ran
        exact text
      · next some =>
        -- elements are still promised, but what stands there is the break of an open map
        have ended := ahead.resolve_left some
        rw [decodeArgsEntry, ended] at ran
        cases ran
  | cons entry rest ih =>
    cases fuel with
    | zero => cases ran
    | succ fuel =>
      rw [ElementReader.whileElements, if_neg ahead.1] at ran
      obtain ⟨⟨grew, middle⟩, round, ran⟩ := Option.bind_eq_some_iff.mp ran
      obtain ⟨safe, printed, later⟩ := decodeArgsEntry_inv ahead round
      have longer : grew.text =
          lit "\x7b" ++ JsonText.join argumentText (before ++ [entry.pair]) := by
        rw [printed, grown_printed text]
      obtain ⟨safeLater, whole⟩ := ih longer later ran
      rw [List.append_assoc, List.singleton_append] at whole
      exact ⟨List.forall_mem_cons.mpr ⟨safe, safeLater⟩, whole⟩

/-- Arguments that were decoded are safe, and their text is the text of the entries. -/
theorem cborDecodeArgsJson_inv {entries : List Entry} (ahead : MapAhead zcbor entries state)
    (decoded : cborDecodeArgsJson zcbor state = some (buf, after)) :
    (∀ entry ∈ entries, entry.Safe) ∧ buf.text = argsText entries := by
  rw [cborDecodeArgsJson] at decoded
  split at decoded
  · obtain ⟨inside, entered, decoded⟩ := Option.bind_eq_some_iff.mp decoded
    obtain ⟨opened, brace, decoded⟩ := Option.bind_eq_some_iff.mp decoded
    obtain ⟨⟨last, final⟩, ran, decoded⟩ := Option.bind_eq_some_iff.mp decoded
    obtain ⟨outside, left, decoded⟩ := Option.bind_eq_some_iff.mp decoded
    obtain ⟨closed, appended, done⟩ := Option.bind_eq_some_iff.mp decoded
    cases done
    have first : opened.text = lit "\x7b" ++ JsonText.join argumentText [] := by
      rw [jsonAppend_text brace]
      rfl
    obtain ⟨safe, text⟩ := whileElements_inv first (ahead inside entered) ran
    refine ⟨safe, ?_⟩
    rw [jsonAppend_text appended, text]
    rfl
  · cases decoded

end Rounds

/-! The text that is read again. -/

theorem Entry.Safe.suits {entry : Entry} (safe : entry.Safe) :
    KeySuits entry.pair.1 ∧ ArgumentSuits entry.pair.2 := by
  obtain ⟨key, value⟩ := entry
  refine ⟨safe.1, ?_⟩
  cases value with
  | text content => exact safe.2
  | unsigned number =>
    have below := number.toNat_lt
    exact ⟨by omega, by omega⟩
  | negative number => exact ⟨number.le_toInt, Int.lt_trans number.toInt_lt (by decide)⟩
  | bool flag => trivial
  | other _ _ => exact safe.2.elim

theorem Entry.Safe.means {entry : Entry} (safe : entry.Safe) :
    bytes (argumentKey entry.pair.1) = entry.1 ∧
      Means (argumentValue entry.pair.2) entry.2 := by
  obtain ⟨key, value⟩ := entry
  refine ⟨bytes_ofBytes (safe_live safe.1), ?_⟩
  cases value with
  | text content => exact bytes_ofBytes (safe_live safe.2)
  | unsigned _ => rfl
  | negative _ => rfl
  | bool _ => rfl
  | other _ _ => exact safe.2.elim

/-- The text of safe entries is parsed as the entries. -/
theorem argsText_parsed {entries : List Entry} (safe : ∀ entry ∈ entries, entry.Safe) :
    Parsed (argsText entries) entries := by
  have suits : ∀ pair ∈ entries.map Entry.pair, KeySuits pair.1 ∧ ArgumentSuits pair.2 := by
    intro pair member
    obtain ⟨entry, inside, rfl⟩ := List.mem_map.mp member
    exact (safe entry inside).suits
  refine ⟨_, argumentsText_parsed suits, ?_⟩
  rw [List.map_map, List.forall₂_map_left_iff, List.forall₂_same]
  exact fun entry member => (safe entry member).means

/-- Arguments are refused, or their text is parsed as the entries of the map. They are refused
when a string is not safe, a value is of another type, or the text does not fit. -/
theorem args_json_faithful (zcbor : ElementReader) (size : Nat) (entries : List Entry)
    (state : zcbor.State) (ahead : MapAhead zcbor entries state) :
    ((cborDecodeArgsJson zcbor state : Option (Buffer size × zcbor.State)) = none ∨
      ∃ (buf : Buffer size) (after : zcbor.State),
        cborDecodeArgsJson zcbor state = some (buf, after) ∧ Parsed buf.text entries) ∧
    ((∃ entry ∈ entries, ¬ entry.Safe) ∨ size ≤ (argsText entries).length →
      (cborDecodeArgsJson zcbor state : Option (Buffer size × zcbor.State)) = none) := by
  cases decoded : (cborDecodeArgsJson zcbor state : Option (Buffer size × zcbor.State)) with
  | none => exact ⟨.inl rfl, fun _ => rfl⟩
  | some result =>
    obtain ⟨buf, after⟩ := result
    obtain ⟨safe, text⟩ := cborDecodeArgsJson_inv ahead decoded
    refine ⟨.inr ⟨buf, after, rfl, ?_⟩, ?_⟩
    · rw [text]
      exact argsText_parsed safe
    · rintro (⟨entry, member, bad⟩ | long)
      · exact absurd (safe entry member) bad
      · have fits := buf.fits
        rw [text] at fits
        exact absurd fits (Nat.not_lt.mpr long)

/-! A map in its shortest form is ahead of every reader. -/

section Encoded

variable {zcbor : ElementReader} {state : zcbor.State} {rest : List UInt8} {count : Nat}

theorem list_foreign : 4 ∉ [0, 1, 3, 7] := by decide

theorem map_foreign : 5 ∉ [0, 1, 3, 7] := by decide

def argOf : Item → ArgValue
  | .text bytes => .text bytes
  | .int number =>
      if number < 0 then .negative (Int32.ofInt number)
      else .unsigned (UInt32.ofNat number.toNat)
  | .bool flag => .bool flag
  | .list _ => .other 4 list_foreign
  | .map _ => .other 5 map_foreign

/-- No integer is of more than 32 bits. -/
def Narrow : Item → Prop
  | .int number => -(2 ^ 31) ≤ number ∧ number < 2 ^ 32
  | .text _ | .bool _ | .list _ | .map _ => True

theorem takes_found {α : Type} {decode : zcbor.State → Option (α × zcbor.State)} {item : Item}
    {value : α} (takes : Takes zcbor.position decode item value)
    (ahead : (zcbor.position state).payload = encode item ++ rest)
    (expected : (zcbor.position state).elemCount = count + 1) {found : α} {after : zcbor.State}
    (read : decode state = some (found, after)) :
    found = value ∧ zcbor.position after =
      { zcbor.position state with payload := rest, elemCount := count } := by
  obtain ⟨final, taken, stands⟩ := takes state rest count ahead expected
  rw [taken] at read
  cases read
  exact ⟨rfl, stands⟩

theorem valueAhead_encode {item : Item} (fits : Fits item) (narrow : Narrow item)
    (ahead : (zcbor.position state).payload = encode item ++ rest)
    (expected : (zcbor.position state).elemCount = count + 1) {behind : zcbor.State → Prop}
    (reached : ∀ after, zcbor.position after =
      { zcbor.position state with payload := rest, elemCount := count } → behind after) :
    ValueAhead zcbor (argOf item) behind state := by
  intro first others payload
  obtain ⟨byte, tail, shape, major⟩ := encode_first item rest
  obtain rfl : first = byte := by
    rw [payload, shape] at ahead
    exact (List.cons.inj ahead).1
  cases item with
  | text bytes =>
    refine ⟨major, fun found after read => ?_⟩
    obtain ⟨same, stands⟩ := takes_found (zcbor.takesText bytes fits) ahead expected read
    exact ⟨same, reached after stands⟩
  | bool flag =>
    refine ⟨major, fun found after read => ?_⟩
    obtain ⟨same, stands⟩ := takes_found (zcbor.takesBool flag) ahead expected read
    exact ⟨same, reached after stands⟩
  | int number =>
    rw [majorOf] at major
    rw [argOf]
    split
    · next negative =>
      rw [if_pos negative] at major
      refine ⟨major, fun found after read => ?_⟩
      have takes := zcbor.takesInt32 (Int32.ofInt number)
      rw [int32_number narrow.1 (by omega)] at takes
      obtain ⟨same, stands⟩ := takes_found takes ahead expected read
      exact ⟨same, reached after stands⟩
    · next unsigned =>
      rw [if_neg unsigned] at major
      refine ⟨major, fun found after read => ?_⟩
      have takes := zcbor.takesUint32 (UInt32.ofNat number.toNat)
      rw [uint32_number (by omega) narrow.2] at takes
      obtain ⟨same, stands⟩ := takes_found takes ahead expected read
      exact ⟨same, reached after stands⟩
  | list _ => exact ⟨major, trivial⟩
  | map _ => exact ⟨major, trivial⟩

theorem entriesAhead_encode {entries : List (List UInt8 × Item)} {backups : Nat}
    {outer : List Nat} (fits : ∀ entry ∈ entries, Fits (.text entry.1) ∧ Fits entry.2)
    (narrow : ∀ entry ∈ entries, Narrow entry.2)
    (stands : zcbor.position state =
      ⟨encodeEntries (entries.map fun entry => (.text entry.1, entry.2)) ++ rest,
        2 * entries.length, backups, outer⟩) :
    EntriesAhead zcbor (entries.map fun entry => (entry.1, argOf entry.2)) state := by
  induction entries generalizing state with
  | nil => exact .inl (by rw [stands]; rfl)
  | cons entry later ih =>
    obtain ⟨⟨fitsKey, fitsValue⟩, fitsLater⟩ := List.forall_mem_cons.mp fits
    obtain ⟨narrowHere, narrowLater⟩ := List.forall_mem_cons.mp narrow
    rw [List.map_cons, encodeEntries, List.append_assoc, List.append_assoc, List.length_cons,
      Nat.mul_succ] at stands
    refine ⟨by rw [stands]; exact Nat.succ_ne_zero _, fun found after read => ?_⟩
    obtain ⟨same, standsKey⟩ := takes_found (zcbor.takesText entry.1 fitsKey)
      (by rw [stands]) (by rw [stands]) read
    refine ⟨same, valueAhead_encode fitsValue narrowHere (by rw [standsKey]) (by rw [standsKey])
      fun final standsValue => ih fitsLater narrowLater ?_⟩
    rw [standsValue, standsKey, stands]

theorem mapAhead_encode {entries : List (List UInt8 × Item)} {backups : Nat}
    (fits : ∀ entry ∈ entries, Fits (.text entry.1) ∧ Fits entry.2)
    (narrow : ∀ entry ∈ entries, Narrow entry.2) (few : entries.length < 65536)
    (ahead : (zcbor.position state).payload =
      encode (.map (entries.map fun entry => (.text entry.1, entry.2))) ++ rest)
    (expected : (zcbor.position state).elemCount = count + 1)
    (free : (zcbor.position state).backups = backups + 1) :
    MapAhead zcbor (entries.map fun entry => (entry.1, argOf entry.2)) state := by
  intro found entered
  rw [encode, List.length_map, List.append_assoc] at ahead
  obtain ⟨inside, opened, stands⟩ :=
    zcbor.enters state _ entries.length count backups few ahead expected free
  rw [opened] at entered
  cases entered
  exact entriesAhead_encode fits narrow stands

end Encoded

/-- `{"x": 5, "d": -2}`, for a buffer that is long enough and one that is not. -/
theorem args_json_faithful_pair :
    let state : Position := ⟨[0xa2, 0x61, 0x78, 0x05, 0x61, 0x64, 0x21], 1, 1, []⟩
    let entries : List Entry := [([120], .unsigned 5), ([100], .negative (-2))]
    ((∃ (buf : Buffer 15) (after : Position),
        cborDecodeArgsJson ElementReader.plain state = some (buf, after) ∧
          buf.text = lit "\x7b\"x\":5,\"d\":-2\x7d" ∧ Parsed buf.text entries) ∧
      (cborDecodeArgsJson ElementReader.plain state : Option (Buffer 14 × Position)) = none) := by
  intro state entries
  have ahead : MapAhead ElementReader.plain entries state := by
    have written := @mapAhead_encode ElementReader.plain state [] 0
      [([120], .int 5), ([100], .int (-2))] 0 (by simp [Fits]) (by simp [Narrow])
      (by decide) rfl rfl rfl
    exact written
  have printed : ((cborDecodeArgsJson ElementReader.plain state :
      Option (Buffer 15 × Position)).map fun result => result.1.text) =
        some (lit "\x7b\"x\":5,\"d\":-2\x7d") := by decide +kernel
  refine ⟨?_, (args_json_faithful ElementReader.plain 14 entries state ahead).2 (.inr ?_)⟩
  · rcases (args_json_faithful ElementReader.plain 15 entries state ahead).1 with
      none | ⟨buf, after, decoded, parsed⟩
    · rw [none] at printed
      cases printed
    · rw [decoded] at printed
      exact ⟨buf, after, decoded, Option.some.inj printed, parsed⟩
  · decide

end NeuroLink.ArgsJson
