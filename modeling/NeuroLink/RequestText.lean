import Mathlib.Data.List.Nodup
import NeuroLink.TextScan

/-!
The JSON text in which a request travels inside the unit: how its readers look
for a key, and what they find in a text that was written member by member. The
readers search for the quoted key anywhere, then for the next colon. In a text
whose strings hold no quotes they stop at the first member that has the key, or
at the first string spelled like it; in that case they read the member after it.
-/

namespace NeuroLink.RequestText

open CText

def quote : Letter := ⟨34, by decide⟩

def colon : Letter := ⟨58, by decide⟩

theorem comma_live : (44 : UInt8) ≠ 0 := by decide

def comma : Letter := ⟨44, comma_live⟩

/-- `"\\"%s\\""`. -/
def quoted (text : Text) : Text := enclose quote text

/-! The readers of `neuro_protocol_codec.c` and `neuro_request_envelope.c`. -/

def isJsonWs (letter : Letter) : Bool :=
  letter.val = 32 ∨ letter.val = 9 ∨ letter.val = 13 ∨ letter.val = 10

def skipJsonWs (text : Text) : Text := text.dropWhile isJsonWs

def valueAfter (pattern json : Text) : Option Text := do
  let found ← strstr pattern json
  let separator ← strchr colon (found.drop pattern.length)
  return skipJsonWs (separator.drop 1)

def stringAt {size : Nat} : Text → Option (Buffer (size + 1))
  | [] => none
  | first :: rest =>
      if first = quote then
        (strchr quote rest).map fun stop => copyBounded (between rest stop)
      else none

/-- `(int)strtol(..)`. -/
def intAt (longMax : Nat) (position : Text) : Option Int32 :=
  (strtol longMax position).map Int32.ofInt

def boolAt (position : Text) : Option Bool :=
  if (lit "true").isPrefixOf position then some true
  else if (lit "false").isPrefixOf position then some false
  else none

/-- `json_value_for_key`, which refuses a key that overruns `pattern[48]`. -/
def jsonValueForKey (json key : Text) : Option Text :=
  if (quoted key).length < 48 then valueAfter (quoted key) json else none

/-- `json_extract_string`; where it fails the caller's buffer stays as it was. -/
def jsonExtractString {size : Nat} (json key : Text) : Option (Buffer (size + 1)) :=
  (jsonValueForKey json key).bind stringAt

def jsonExtractInt (longMax : Nat) (json key : Text) : Option Int32 :=
  (jsonValueForKey json key).bind (intAt longMax)

def jsonExtractBool (json key : Text) : Option Bool :=
  (jsonValueForKey json key).bind boolAt

/-- `neuro_json_extract_string`, which cuts the key's pattern to `pattern[32]`. -/
def neuroJsonExtractString {size : Nat} (json key : Text) : Option (Buffer (size + 1)) :=
  (valueAfter (copyBounded (quoted key) : Buffer 32).text json).bind stringAt

/-- `neuro_json_extract_int`. -/
def neuroJsonExtractInt (longMax : Nat) (json key : Text) (fallback : Int32) : Int32 :=
  ((valueAfter (copyBounded (quoted key) : Buffer 32).text json).bind
    (intAt longMax)).getD fallback

/-- `neuro_json_extract_bool`. -/
def neuroJsonExtractBool (json key : Text) (fallback : Bool) : Bool :=
  ((valueAfter (copyBounded (quoted key) : Buffer 32).text json).bind boolAt).getD fallback

/-! Members as the writer prints them. -/

inductive Written where
  | text (content : Text)
  | number (value : Int)
  | flag (value : Bool)
  deriving DecidableEq

namespace Written

/-- `"%s"` in quotes, `%u` or `%d`, and `true` or `false`. -/
def print : Written → Text
  | .text content => quoted content
  | .number value => decimal value
  | .flag true => lit "true"
  | .flag false => lit "false"

def QuoteFree : Written → Prop
  | .text content => quote ∉ content
  | _ => True

instance (value : Written) : Decidable value.QuoteFree := by
  cases value <;> unfold QuoteFree <;> infer_instance

def toBuffer {size : Nat} : Written → Option (Buffer (size + 1))
  | .text content => some (copyBounded content)
  | _ => none

def toInt (longMax : Nat) : Written → Option Int32
  | .number value => some (Int32.ofInt (clampLong longMax value))
  | _ => none

def toBool : Written → Option Bool
  | .flag value => some value
  | _ => none

end Written

structure Member where
  key : Text
  value : Written
  deriving DecidableEq

def Member.print (member : Member) : Text :=
  quoted member.key ++ colon :: member.value.print

def printMembers (members : List Member) : Text :=
  members.flatMap fun member => member.print ++ [comma]

def joinMembers : List Member → Text
  | [] => []
  | [member] => member.print
  | member :: rest => member.print ++ comma :: joinMembers rest

def Plain (key : Text) : Prop := quote ∉ key ∧ colon ∉ key ∧ comma ∉ key

instance (key : Text) : Decidable (Plain key) := by unfold Plain; infer_instance

/-- The member can be told apart from its neighbours by its quotes alone. -/
def Member.Clean (member : Member) : Prop := Plain member.key ∧ member.value.QuoteFree

instance (member : Member) : Decidable member.Clean := by
  unfold Member.Clean; infer_instance

def shownAs (key : Text) : List Member → Option Written
  | [] => none
  | member :: rest =>
      if member.key = key then some member.value
      else if member.value = .text key then rest.head?.map (·.value)
      else shownAs key rest

theorem decimal_letters (value : Int) :
    ∀ letter ∈ decimal value, isdigit letter ∨ letter.val = 45 := by
  intro letter member
  cases value with
  | ofNat magnitude => exact .inl (digitsUpTo_isdigit _ magnitude letter member)
  | negSucc magnitude =>
      rcases List.mem_append.mp member with sign | digit
      · exact .inr (by rw [List.mem_singleton.mp sign]; rfl)
      · exact .inl (digitsUpTo_isdigit _ _ letter digit)

theorem decimal_nonempty (value : Int) : decimal value ≠ [] := by
  cases value with
  | ofNat magnitude => exact decimalNat_nonempty magnitude
  | negSucc magnitude => simp [decimal, decimalNat_nonempty]

theorem print_unquoted (value : Written) (bare : ∀ content, value ≠ .text content) :
    quote ∉ value.print := by
  cases value with
  | text content => exact absurd rfl (bare content)
  | number value =>
      intro member
      rcases decimal_letters value quote member with digit | sign
      · cases digit
      · cases sign
  | flag value => cases value <;> decide

theorem print_starts (value : Written) :
    ∃ first rest, value.print = first :: rest ∧ isJsonWs first = false := by
  cases value with
  | text content => exact ⟨quote, content ++ [quote], rfl, rfl⟩
  | number value =>
      obtain ⟨first, rest, shape⟩ := List.exists_cons_of_ne_nil (decimal_nonempty value)
      refine ⟨first, rest, shape, ?_⟩
      have letters := decimal_letters value first (by simp [shape])
      simp only [isdigit, decide_eq_true_eq] at letters
      simp only [isJsonWs, decide_eq_false_iff_not]
      grind
  | flag value => cases value <;> exact ⟨_, _, rfl, by decide⟩

theorem skipJsonWs_print (value : Written) (more : Text) :
    skipJsonWs (value.print ++ more) = value.print ++ more := by
  obtain ⟨first, rest, shape, dark⟩ := print_starts value
  simp [skipJsonWs, shape, dark]

theorem valueAfter_found {pattern json rest : Text}
    (search : strstr pattern json = some (pattern ++ rest)) :
    valueAfter pattern json =
      (strchr colon rest).map fun separator => skipJsonWs (separator.drop 1) := by
  cases separator : strchr colon rest <;> simp [valueAfter, search, separator]

/-- After the key the readers stand before the member's own value. -/
theorem valueAfter_key {key json more : Text} (value : Written)
    (search : strstr (quoted key) json =
      some (quoted key ++ colon :: (value.print ++ more))) :
    valueAfter (quoted key) json = some (value.print ++ more) := by
  simp [valueAfter, search, strchr, skipJsonWs_print]

/-- After a string spelled like the key the readers stand before the value of
the next member. -/
theorem valueAfter_spelled {key json : Text} {next : Member} {more : Text}
    (plain : Plain next.key)
    (search : strstr (quoted key) json =
      some (quoted key ++ comma :: (quoted next.key ++ colon :: (next.value.print ++ more)))) :
    valueAfter (quoted key) json = some (next.value.print ++ more) := by
  have absent : colon ∉ comma :: quoted next.key := by
    have keyFree : colon ∉ next.key := plain.2.1
    simp [quoted, enclose, keyFree, show colon ≠ comma by decide, show colon ≠ quote by decide]
  have jump := strchr_append colon (comma :: quoted next.key)
    (next.value.print ++ more) absent
  rw [List.cons_append] at jump
  simp [valueAfter, search, jump, skipJsonWs_print]

theorem strstr_separator {key separator : Text} (rest : Text) (plain : Plain key)
    (unquoted : quote ∉ separator) (marked : colon ∈ separator ∨ comma ∈ separator) :
    strstr (quoted key) (quote :: (separator ++ quote :: rest)) =
      strstr (quoted key) (quote :: rest) := by
  rw [quoted, strstr_segment rest plain.1 unquoted, if_neg]
  rintro rfl
  exact marked.elim plain.2.1 plain.2.2

theorem printMembers_cons (member : Member) (rest : List Member) (tail : Text) :
    printMembers (member :: rest) ++ tail =
      quote :: (member.key ++ quote :: (colon ::
        (member.value.print ++ comma :: (printMembers rest ++ tail)))) := by
  simp [printMembers, Member.print, quoted, enclose]

theorem joinMembers_append (before : List Member) (member : Member) (after : List Member) :
    joinMembers (before ++ member :: after) =
      printMembers before ++ joinMembers (member :: after) := by
  induction before with
  | nil => rfl
  | cons first rest ih =>
      obtain ⟨second, others, shape⟩ : ∃ second others,
          rest ++ member :: after = second :: others := by
        cases rest <;> simp
      rw [shape] at ih
      rw [List.cons_append, shape, joinMembers, ih]
      · simp [printMembers]
      · simp

theorem printMembers_starts {members : List Member} (some : members ≠ []) (tail : Text) :
    ∃ rest, printMembers members ++ tail = quote :: rest := by
  cases members with
  | nil => exact absurd rfl some
  | cons member rest => exact ⟨_, printMembers_cons member rest tail⟩

theorem strstr_member {key : Text} {member : Member} (rest : List Member) (tail : Text)
    (plain : Plain key) (unquoted : quote ∉ member.key) :
    strstr (quoted key) (printMembers (member :: rest) ++ tail) =
      if member.key = key then some (printMembers (member :: rest) ++ tail)
      else strstr (quoted key)
        (quote :: (colon :: (member.value.print ++ comma :: (printMembers rest ++ tail)))) := by
  rw [printMembers_cons]
  exact strstr_segment _ plain.1 unquoted

theorem strstr_after_text {key content : Text} (rest : Text) (plain : Plain key)
    (unquoted : quote ∉ content) :
    strstr (quoted key) (quote :: (colon :: ((Written.text content).print ++ comma :: rest))) =
      if content = key then some (quoted content ++ comma :: rest)
      else strstr (quoted key) (quote :: (comma :: rest)) := by
  have separator := strstr_separator (content ++ quote :: (comma :: rest)) plain
    (show quote ∉ [colon] by decide) (.inl (List.mem_singleton_self colon))
  have segment := strstr_segment (comma :: rest) plain.1 unquoted
  rw [show quote :: (colon :: ((Written.text content).print ++ comma :: rest)) =
    quote :: ([colon] ++ quote :: (content ++ quote :: (comma :: rest))) by
      simp [Written.print, quoted, enclose], separator, quoted, segment]
  simp [quoted, enclose]

theorem strstr_after_bare {key : Text} {value : Written} (rest : Text) (plain : Plain key)
    (bare : ∀ content, value ≠ .text content) :
    strstr (quoted key) (quote :: (colon :: (value.print ++ comma :: (quote :: rest)))) =
      strstr (quoted key) (quote :: rest) := by
  have unquoted : quote ∉ colon :: (value.print ++ [comma]) := by
    have inside := print_unquoted value bare
    simp [inside, show quote ≠ colon by decide, show quote ≠ comma by decide]
  have separator := strstr_separator rest plain unquoted (.inl List.mem_cons_self)
  rw [← separator]
  simp

/-- The readers find exactly the value that `shownAs` names. -/
theorem valueAfter_members {key : Text} {members : List Member} {value : Written}
    (tail : Text) (plain : Plain key) (clean : ∀ member ∈ members, member.Clean)
    (shown : shownAs key members = some value) :
    ∃ more, valueAfter (quoted key) (printMembers members ++ tail) =
      some (value.print ++ comma :: more) := by
  induction members with
  | nil => cases shown
  | cons member rest ih =>
      obtain ⟨keyPlain, quoteFree⟩ := clean member (by simp)
      have search := strstr_member rest tail plain keyPlain.1
      by_cases here : member.key = key
      · simp only [shownAs, here, ↓reduceIte, Option.some.injEq] at shown
        subst shown
        refine ⟨printMembers rest ++ tail, valueAfter_key member.value ?_⟩
        rw [search, if_pos here, printMembers_cons, here]
        simp [quoted, enclose]
      simp only [shownAs, here, ↓reduceIte] at shown
      rw [if_neg here] at search
      -- Both remaining ways to be shown read past this member, so there is a next one.
      obtain ⟨next, others, rfl⟩ : ∃ next others, rest = next :: others := by
        cases rest with
        | nil => simp [shownAs] at shown
        | cons next others => exact ⟨next, others, rfl⟩
      have passed (skipped : strstr (quoted key) (printMembers (member :: next :: others) ++ tail) =
          strstr (quoted key) (printMembers (next :: others) ++ tail))
          (later : shownAs key (next :: others) = some value) :
          ∃ more, valueAfter (quoted key) (printMembers (member :: next :: others) ++ tail) =
            some (value.print ++ comma :: more) := by
        rw [valueAfter, skipped]
        exact ih (fun member inside => clean member (List.mem_cons_of_mem _ inside)) later
      have nextPlain := (clean next (by simp)).1
      obtain ⟨opened, starts⟩ := printMembers_starts (List.cons_ne_nil next others) tail
      cases written : member.value with
      | text content =>
          rw [written] at quoteFree shown search
          rw [strstr_after_text _ plain quoteFree] at search
          by_cases spelled : content = key
          · simp only [spelled, ↓reduceIte, List.head?_cons, Option.map_some,
              Option.some.injEq] at shown
            subst shown
            refine ⟨printMembers others ++ tail, valueAfter_spelled nextPlain ?_⟩
            rw [search, if_pos spelled, printMembers_cons, spelled]
            simp [quoted, enclose]
          · simp only [Written.text.injEq, spelled, ↓reduceIte] at shown
            rw [if_neg spelled, starts] at search
            refine passed ?_ shown
            rw [search, starts]
            exact @strstr_separator key [comma] opened plain (by decide)
              (.inr (List.mem_singleton_self comma))
      | number value =>
          simp only [written, reduceCtorEq, ↓reduceIte] at shown
          refine passed ?_ shown
          rw [starts, written] at search
          rw [search, starts]
          exact strstr_after_bare opened plain (by simp)
      | flag value =>
          simp only [written, reduceCtorEq, ↓reduceIte] at shown
          refine passed ?_ shown
          rw [starts, written] at search
          rw [search, starts]
          exact strstr_after_bare opened plain (by simp)

/-- Whatever the first string spelled like the key points at, if one stands
before the member that has the key, must agree. -/
def Unshadowed (key : Text) (agrees : Written → Prop) : List Member → Prop
  | [] => True
  | member :: rest =>
      if member.key = key then True
      else if member.value = .text key then ∀ next ∈ rest.head?, agrees next.value
      else Unshadowed key agrees rest

theorem shownAs_own {key : Text} {members : List Member}
    (own : ∃ member ∈ members, member.key = key) :
    ∃ value, shownAs key members = some value := by
  induction members with
  | nil => simp at own
  | cons member rest ih =>
      rw [shownAs]
      split
      · exact ⟨_, rfl⟩
      next here =>
        have later : ∃ member ∈ rest, member.key = key := by simpa [here] using own
        split
        · obtain ⟨next, others, rfl⟩ : ∃ next others, rest = next :: others := by
            cases rest with
            | nil => simp at later
            | cons next others => exact ⟨next, others, rfl⟩
          exact ⟨_, rfl⟩
        · exact ih later

theorem shownAs_mem {key : Text} {members : List Member} {value : Written}
    (shown : shownAs key members = some value) :
    ∃ member ∈ members, member.value = value := by
  induction members with
  | nil => cases shown
  | cons member rest ih =>
      rw [shownAs] at shown
      split at shown
      · exact ⟨member, by simp, Option.some.inj shown⟩
      split at shown
      · obtain ⟨next, first, same⟩ := Option.map_eq_some_iff.mp shown
        exact ⟨next, List.mem_cons_of_mem _ (List.mem_of_mem_head? first), same⟩
      · obtain ⟨found, inside, same⟩ := ih shown
        exact ⟨found, List.mem_cons_of_mem _ inside, same⟩

/-- Only what stands before the member with the key can be shown in its place. -/
theorem shownAs_before {key : Text} {before after : List Member} {own : Member}
    {value : Written} (named : own.key = key)
    (shown : shownAs key (before ++ own :: after) = some value) :
    value = own.value ∨ ∃ member ∈ before, value = member.value := by
  induction before with
  | nil =>
      rw [List.nil_append, shownAs, if_pos named] at shown
      exact .inl (Option.some.inj shown).symm
  | cons member rest ih =>
      rw [List.cons_append, shownAs] at shown
      split at shown
      · exact .inr ⟨member, by simp, (Option.some.inj shown).symm⟩
      split at shown
      · cases rest with
        | nil => exact .inl (Option.some.inj shown).symm
        | cons next others => exact .inr ⟨next, by simp, (Option.some.inj shown).symm⟩
      · rcases ih shown with same | ⟨found, inside, same⟩
        · exact .inl same
        · exact .inr ⟨found, List.mem_cons_of_mem _ inside, same⟩

theorem unshadowed_iff {key : Text} {agrees : Written → Prop} {members : List Member}
    {value : Written} (shown : shownAs key members = some value)
    (own : ∀ member ∈ members, member.key = key → agrees member.value) :
    Unshadowed key agrees members ↔ agrees value := by
  induction members with
  | nil => cases shown
  | cons member rest ih =>
      rw [shownAs] at shown
      rw [Unshadowed]
      split at shown
      · next here =>
          cases shown
          simp [here, own member (by simp) here]
      next here =>
        rw [if_neg here]
        split at shown
        · next spelled =>
            rw [if_pos spelled]
            obtain ⟨next, first, rfl⟩ := Option.map_eq_some_iff.mp shown
            simp [first]
        · next different =>
            rw [if_neg different]
            exact ih shown fun member inside => own member (List.mem_cons_of_mem _ inside)

/-- A field is read as written exactly when no shadow disagrees with it. -/
theorem carried_iff {Value : Type} {members : List Member} {expected : Value}
    (key : Text) (own : Written) (read : Written → Value) (result : Value)
    (distinct : (members.map (·.key)).Nodup) (present : ⟨key, own⟩ ∈ members)
    (ownRead : read own = expected)
    (reads : ∀ value, shownAs key members = some value → result = read value) :
    result = expected ↔ Unshadowed key (fun value => read value = expected) members := by
  obtain ⟨value, shown⟩ : ∃ value, shownAs key members = some value :=
    shownAs_own ⟨_, present, rfl⟩
  rw [unshadowed_iff shown, reads value shown]
  intro member inside named
  have same : member = ⟨key, own⟩ := List.inj_on_of_nodup_map distinct inside present named
  rw [same, ownRead]

/-! What each reader makes of a printed value. -/

theorem stringAt_quoted {size : Nat} {content : Text} (rest : Text)
    (unquoted : quote ∉ content) :
    (stringAt (quoted content ++ rest) : Option (Buffer (size + 1))) =
      some (copyBounded content) := by
  have stop := strchr_append quote content rest unquoted
  simp [quoted, enclose, stringAt, stop, between_append]

theorem stringAt_print {size : Nat} {value : Written} (rest : Text)
    (quoteFree : value.QuoteFree) :
    (stringAt (value.print ++ rest) : Option (Buffer (size + 1))) = value.toBuffer := by
  cases value with
  | text content => exact stringAt_quoted rest quoteFree
  | number value =>
      obtain ⟨first, others, shape⟩ := List.exists_cons_of_ne_nil (decimal_nonempty value)
      have bare : first ≠ quote := by
        rintro rfl
        exact print_unquoted (.number value) (by simp) (by simp [Written.print, shape])
      simp [Written.print, shape, stringAt, bare, Written.toBuffer]
  | flag value => cases value <;> rfl

theorem intAt_print (longMax : Nat) (value : Written) (rest : Text) :
    intAt longMax (value.print ++ comma :: rest) = value.toInt longMax := by
  cases value with
  | number value =>
      simp [intAt, Written.print, strtol_decimal longMax value comma rest rfl, Written.toInt]
  | text content =>
      simp [intAt, Written.print, quoted, enclose, strtol, isspace, isdigit, quote, Written.toInt]
  | flag value =>
    cases value <;> simp [intAt, Written.print, lit, strtol, isspace, isdigit, Written.toInt]

theorem boolAt_other {first : Letter} (rest : Text)
    (notTrue : first.val ≠ 116) (notFalse : first.val ≠ 102) :
    boolAt (first :: rest) = none := by
  have trueSpelled : lit "true" = ⟨116, by decide⟩ :: lit "rue" := rfl
  have falseSpelled : lit "false" = ⟨102, by decide⟩ :: lit "alse" := rfl
  have one : ¬ lit "true" <+: first :: rest := by
    rw [trueSpelled, List.cons_prefix_cons]
    rintro ⟨rfl, -⟩
    exact notTrue rfl
  have two : ¬ lit "false" <+: first :: rest := by
    rw [falseSpelled, List.cons_prefix_cons]
    rintro ⟨rfl, -⟩
    exact notFalse rfl
  simp [boolAt, one, two]

theorem boolAt_print (value : Written) (rest : Text) :
    boolAt (value.print ++ rest) = value.toBool := by
  cases value with
  | text content => exact boolAt_other _ (by decide) (by decide)
  | number value =>
      obtain ⟨first, others, shape⟩ := List.exists_cons_of_ne_nil (decimal_nonempty value)
      have letters := decimal_letters value first (by simp [shape])
      simp only [isdigit, decide_eq_true_eq] at letters
      rw [Written.print, shape]
      exact boolAt_other _ (by grind) (by grind)
  | flag value =>
      cases value with
      | true => simp [boolAt, Written.print, Written.toBool]
      | false =>
          have apart : ¬ lit "true" <+: lit "false" ++ rest := by
            simp [show lit "true" = ⟨116, by decide⟩ :: lit "rue" from rfl,
              show lit "false" = ⟨102, by decide⟩ :: lit "alse" from rfl]
          simp [boolAt, Written.print, Written.toBool, apart]

theorem stringAt_unquoted {size : Nat} {position : Text} {buffer : Buffer (size + 1)}
    (read : stringAt position = some buffer) : quote ∉ buffer.text := by
  cases position with
  | nil => cases read
  | cons first rest =>
      simp only [stringAt] at read
      split at read
      · obtain ⟨stop, search, rfl⟩ := Option.map_eq_some_iff.mp read
        obtain ⟨before, others, split, -, absent⟩ := strchr_suffix search
        rw [copyBounded_text, split, between_append]
        exact fun member => absent (List.mem_of_mem_take member)
      · cases read

/-! The readers on a text that shows a value for the key. -/

def Shows (json key : Text) (value : Written) : Prop :=
  value.QuoteFree ∧
    ∃ rest, valueAfter (quoted key) json = some (value.print ++ comma :: rest)

section Shows

variable {size : Nat} {json key : Text} {value : Written}

theorem jsonExtractString_shows (short : key.length < 30) (shows : Shows json key value) :
    (jsonExtractString json key : Option (Buffer (size + 1))) = value.toBuffer := by
  obtain ⟨quoteFree, rest, found⟩ := shows
  have room : (quoted key).length < 48 := by simp [quoted, enclose]; omega
  simp [jsonExtractString, jsonValueForKey, room, found, stringAt_print _ quoteFree]

theorem jsonExtractInt_shows (longMax : Nat) (short : key.length < 30)
    (shows : Shows json key value) :
    jsonExtractInt longMax json key = value.toInt longMax := by
  obtain ⟨-, rest, found⟩ := shows
  have room : (quoted key).length < 48 := by simp [quoted, enclose]; omega
  simp [jsonExtractInt, jsonValueForKey, room, found, intAt_print]

theorem jsonExtractBool_shows (short : key.length < 30) (shows : Shows json key value) :
    jsonExtractBool json key = value.toBool := by
  obtain ⟨-, rest, found⟩ := shows
  have room : (quoted key).length < 48 := by simp [quoted, enclose]; omega
  simp [jsonExtractBool, jsonValueForKey, room, found, boolAt_print]

theorem pattern_whole (short : key.length < 30) :
    (quoted key).take 31 = quoted key :=
  List.take_of_length_le (by simp [quoted, enclose]; omega)

theorem neuroJsonExtractString_shows (short : key.length < 30)
    (shows : Shows json key value) :
    (neuroJsonExtractString json key : Option (Buffer (size + 1))) = value.toBuffer := by
  obtain ⟨quoteFree, rest, found⟩ := shows
  simp [neuroJsonExtractString, pattern_whole short, found, stringAt_print _ quoteFree]

theorem neuroJsonExtractInt_shows (longMax : Nat) (fallback : Int32)
    (short : key.length < 30) (shows : Shows json key value) :
    neuroJsonExtractInt longMax json key fallback =
      (value.toInt longMax).getD fallback := by
  obtain ⟨-, rest, found⟩ := shows
  simp [neuroJsonExtractInt, pattern_whole short, found, intAt_print]

end Shows

end NeuroLink.RequestText
