import Mathlib.Data.List.Induction
import NeuroLink.TextScan

/-!
The values of JSON texts. Escapes, fractions and exponents are refused: a string is what stands
between its quotes, and a number is an integer.
-/

namespace JsonText

open CText

inductive Value where
  | null
  | bool (flag : Bool)
  | number (number : Int)
  | string (content : Text)
  | array (items : List Value)
  | object (members : List (Text × Value))

def isBlank (letter : Letter) : Bool :=
  letter.val = 32 ∨ letter.val = 9 ∨ letter.val = 10 ∨ letter.val = 13

def skip (text : Text) : Text := text.dropWhile isBlank

def expect (word text : Text) : Option Text :=
  if word.isPrefixOf text then some (text.drop word.length) else none

def readString : Text → Option (Text × Text)
  | [] => none
  | letter :: rest =>
      if letter.val = 34 then some ([], rest)
      else if letter.val = 92 ∨ letter.val < 32 then none
      else (readString rest).map fun (content, rest) => (letter :: content, rest)

/-- Digits without a zero in front of others, that no fraction or exponent follows. -/
def readDigits (text : Text) : Option (Nat × Text) :=
  let digits := text.takeWhile isdigit
  let rest := text.dropWhile isdigit
  if digits = [] ∨ (digits.head? = some (digitLetter 0) ∧ digits ≠ [digitLetter 0]) then none
  else if rest.head?.any fun letter => letter.val = 46 ∨ letter.val = 101 ∨ letter.val = 69 then
    none
  else some (digitsValue digits, rest)

def readNumber : Text → Option (Int × Text)
  | [] => none
  | first :: rest =>
      if first.val = 45 then (readDigits rest).map fun (number, rest) => (-number, rest)
      else (readDigits (first :: rest)).map fun (number, rest) => (number, rest)

section Many

variable {α : Type} (read : Text → Option (α × Text)) (close : UInt8)

def readMore : Nat → Text → Option (List α × Text)
  | 0, _ => none
  | fuel + 1, text => do
      let (item, rest) ← read text
      match skip rest with
      | [] => none
      | letter :: rest =>
        if letter.val = close then return ([item], rest)
        else if letter.val = 44 then do
          let (items, rest) ← readMore fuel rest
          return (item :: items, rest)
        else none

def readAll (text : Text) : Option (List α × Text) :=
  match skip text with
  | [] => none
  | letter :: rest =>
      if letter.val = close then some ([], rest) else readMore read close text.length text

def readMember (text : Text) : Option ((Text × α) × Text) := do
  let rest ← expect (lit "\"") (skip text)
  let (key, rest) ← readString rest
  let rest ← expect (lit ":") (skip rest)
  let (value, rest) ← read rest
  return ((key, value), rest)

end Many

def readValue : Nat → Text → Option (Value × Text)
  | 0, _ => none
  | fuel + 1, text =>
      match skip text with
      | [] => none
      | first :: rest =>
        if first.val = 34 then
          (readString rest).map fun (content, rest) => (.string content, rest)
        else if first.val = 91 then
          (readAll (readValue fuel) 93 rest).map fun (items, rest) => (.array items, rest)
        else if first.val = 123 then
          (readAll (readMember (readValue fuel)) 125 rest).map fun (members, rest) =>
            (.object members, rest)
        else if first.val = 116 then
          (expect (lit "true") (first :: rest)).map fun rest => (.bool true, rest)
        else if first.val = 102 then
          (expect (lit "false") (first :: rest)).map fun rest => (.bool false, rest)
        else if first.val = 110 then
          (expect (lit "null") (first :: rest)).map fun rest => (.null, rest)
        else (readNumber (first :: rest)).map fun (number, rest) => (.number number, rest)

/-- The value of the text. No value is nested deeper than its text is long. -/
def parse (text : Text) : Option Value := do
  let (value, rest) ← readValue text.length text
  if skip rest = [] then some value else none

/-! Texts as a printer writes them, without blanks. -/

/-- The letter stands for itself in a string. -/
def Plain (letter : Letter) : Prop := letter.val ≠ 34 ∧ letter.val ≠ 92 ∧ 32 ≤ letter.val

/-- What may follow a value: a comma, or what closes an array or an object. -/
def Stop (letter : Letter) : Prop := letter.val = 44 ∨ letter.val = 93 ∨ letter.val = 125

theorem comma_live : (44 : UInt8) ≠ 0 := by decide

def comma : Letter := ⟨44, comma_live⟩

def join {α : Type} (write : α → Text) : List α → Text
  | [] => []
  | [item] => write item
  | item :: rest => write item ++ comma :: join write rest

theorem join_cons {α : Type} {write : α → Text} {item : α} {rest : List α}
    (more : rest ≠ []) : join write (item :: rest) = write item ++ comma :: join write rest := by
  rw [join]
  exact more

theorem skip_dark {letter : Letter} (dark : isBlank letter = false) (rest : Text) :
    skip (letter :: rest) = letter :: rest := by
  simp [skip, dark]

theorem Stop.dark {letter : Letter} (stop : Stop letter) : isBlank letter = false := by
  rcases stop with value | value | value <;> simp [isBlank, value]

theorem readString_plain {content : Text} (plain : ∀ letter ∈ content, Plain letter)
    {closing : Letter} (closes : closing.val = 34) (rest : Text) :
    readString (content ++ closing :: rest) = some (content, rest) := by
  induction content with
  | nil => simp [readString, closes]
  | cons letter tail ih =>
    obtain ⟨⟨unquoted, unescaped, visible⟩, later⟩ := List.forall_mem_cons.mp plain
    rw [List.cons_append, readString, if_neg unquoted, if_neg, ih later]
    · rfl
    · rintro (escape | control)
      · exact unescaped escape
      · exact absurd visible (UInt8.not_le.mpr control)

theorem digitsUpTo_head {fuel value : Nat} (enough : value < fuel) (positive : 0 < value) :
    (digitsUpTo fuel value).head? ≠ some (digitLetter 0) := by
  induction fuel generalizing value with
  | zero => omega
  | succ fuel ih =>
    rw [digitsUpTo]
    split
    · next small =>
      rw [List.head?_cons, ne_eq, Option.some.injEq]
      intro same
      have zero : (⟨value % 10, Nat.mod_lt _ (by decide)⟩ : Fin 10) = 0 := by
        revert same
        generalize (⟨value % 10, Nat.mod_lt _ (by decide)⟩ : Fin 10) = digit
        revert digit
        decide
      have rest : value % 10 = 0 := congrArg Fin.val zero
      omega
    · next large =>
      have inner := @ih (value / 10) (by omega) (by omega)
      cases shape : digitsUpTo fuel (value / 10) with
      | nil =>
        cases fuel with
        | zero => omega
        | succ fuel =>
          rw [digitsUpTo] at shape
          split at shape <;> simp at shape
      | cons first digits =>
        rw [shape] at inner
        exact inner

theorem Stop.facts {letter : Letter} (stop : Stop letter) :
    isdigit letter = false ∧
      ¬ (letter.val = 46 ∨ letter.val = 101 ∨ letter.val = 69) := by
  rcases stop with value | value | value <;> simp [isdigit, value]

theorem decimalNat_isdigit (value : Nat) : ∀ letter ∈ decimalNat value, isdigit letter :=
  digitsUpTo_isdigit (value + 1) value

theorem readDigits_decimal (value : Nat) {stop : Letter} (stops : Stop stop) (rest : Text) :
    readDigits (decimalNat value ++ stop :: rest) = some (value, stop :: rest) := by
  obtain ⟨ends, whole⟩ := stops.facts
  have digits := takeWhile_digits (decimalNat value) stop rest (decimalNat_isdigit value) ends
  have behind : (decimalNat value ++ stop :: rest).dropWhile isdigit = stop :: rest := by
    rw [List.dropWhile_append_of_pos (decimalNat_isdigit value), List.dropWhile_cons_of_neg]
    simp [ends]
  have shown : digitsValue (decimalNat value) = value :=
    digitsUpTo_value _ value (Nat.lt_succ_self _)
  have front : ¬ (decimalNat value = [] ∨
      ((decimalNat value).head? = some (digitLetter 0) ∧ decimalNat value ≠ [digitLetter 0])) := by
    rintro (empty | ⟨zero, more⟩)
    · exact decimalNat_nonempty value empty
    · rcases Nat.eq_zero_or_pos value with rfl | positive
      · exact more rfl
      · exact digitsUpTo_head (Nat.lt_succ_self value) positive zero
  simp only [readDigits, digits, behind, if_neg front, shown, List.head?_cons, Option.any_some,
    decide_eq_true_eq, if_neg whole]

theorem decimalNat_starts (value : Nat) :
    ∃ first rest, decimalNat value = first :: rest ∧ isdigit first = true := by
  obtain ⟨first, rest, shape⟩ := List.exists_cons_of_ne_nil (decimalNat_nonempty value)
  refine ⟨first, rest, shape, decimalNat_isdigit value first ?_⟩
  rw [shape]
  exact List.mem_cons_self

theorem readNumber_decimal (value : Int) {stop : Letter} (stops : Stop stop) (rest : Text) :
    readNumber (decimal value ++ stop :: rest) = some (value, stop :: rest) := by
  cases value with
  | ofNat magnitude =>
    obtain ⟨first, digits, shape, numeric⟩ := decimalNat_starts magnitude
    have unsigned : first.val ≠ 45 := by
      intro minus
      simp [isdigit, minus] at numeric
    have read := readDigits_decimal magnitude stops rest
    rw [shape, List.cons_append] at read
    rw [decimal, shape, List.cons_append, readNumber, if_neg unsigned, read]
    rfl
  | negSucc magnitude =>
    have sign : decimal (.negSucc magnitude) ++ stop :: rest =
        (⟨45, by decide⟩ : Letter) :: (decimalNat (magnitude + 1) ++ stop :: rest) := rfl
    rw [sign, readNumber, if_pos rfl, readDigits_decimal _ stops]
    rfl

section Joined

variable {α β : Type} {read : Text → Option (β × Text)} {write : α → Text} {value : α → β}
  {items : List α} {closing : Letter}

theorem readMore_join (closes : Stop closing) (other : closing.val ≠ 44)
    (reads : ∀ item ∈ items, ∀ stop, Stop stop → ∀ rest,
      read (write item ++ stop :: rest) = some (value item, stop :: rest))
    (visible : items ≠ []) {fuel : Nat} (enough : items.length ≤ fuel) (rest : Text) :
    readMore read closing.val fuel (join write items ++ closing :: rest) =
      some (items.map value, rest) := by
  induction items generalizing fuel with
  | nil => exact absurd rfl visible
  | cons item later ih =>
    cases fuel with
    | zero => simp at enough
    | succ fuel =>
      obtain ⟨here, others⟩ := List.forall_mem_cons.mp reads
      cases later with
      | nil =>
        rw [join, readMore, here closing closes, Option.bind_eq_bind, Option.bind_some]
        simp only [skip_dark closes.dark, if_true]
        rfl
      | cons next following =>
        have separator : Stop comma := .inl rfl
        have tail := @ih others (List.cons_ne_nil next following) fuel
          (Nat.le_of_succ_le_succ enough)
        rw [join_cons (List.cons_ne_nil next following), List.append_assoc, List.cons_append,
          readMore, here comma separator, Option.bind_eq_bind, Option.bind_some]
        simp only [skip_dark separator.dark]
        rw [if_neg (show comma.val ≠ closing.val from Ne.symm other),
          if_pos (show comma.val = 44 from rfl), tail]
        rfl

theorem length_le_join (items : List α) : items.length ≤ (join write items).length + 1 := by
  induction items with
  | nil => exact Nat.zero_le _
  | cons item later ih =>
    cases later with
    | nil => exact Nat.le_add_left 1 _
    | cons next following =>
      rw [join_cons (List.cons_ne_nil next following)]
      simp only [List.length_cons, List.length_append] at ih ⊢
      omega

theorem join_snoc (items : List α) (item : α) : join write (items ++ [item]) =
    (if items = [] then [] else join write items ++ [comma]) ++ write item := by
  induction items with
  | nil => rfl
  | cons first later ih =>
    cases later with
    | nil => simp [join]
    | cons next following =>
      rw [if_neg (List.cons_ne_nil next following)] at ih
      rw [if_neg (List.cons_ne_nil first _), List.cons_append,
        join_cons (List.append_ne_nil_of_right_ne_nil _ (List.cons_ne_nil item [])), ih,
        join_cons (List.cons_ne_nil next following)]
      simp

theorem join_length_append (items more : List α) :
    (join write items).length ≤ (join write (items ++ more)).length := by
  induction more using List.reverseRecOn with
  | nil => exact Nat.le_of_eq (by rw [List.append_nil])
  | append_singleton later item ih =>
    rw [← List.append_assoc, join_snoc]
    split
    · next empty =>
      rw [empty] at ih
      exact Nat.le_trans ih (Nat.zero_le _)
    · rw [List.length_append, List.length_append]
      omega

theorem join_ne_nil {items : List α} (written : ∀ item ∈ items, write item ≠ [])
    (visible : items ≠ []) : join write items ≠ [] := by
  induction items using List.reverseRecOn with
  | nil => exact absurd rfl visible
  | append_singleton later item _ =>
    rw [join_snoc]
    have last := written item (List.mem_append_right later (List.mem_singleton_self item))
    exact List.append_ne_nil_of_right_ne_nil _ last

/-- A written item starts with a letter that neither closes nor is a blank. -/
def Begins (closing : Letter) (written : Text) : Prop :=
  ∃ first rest, written = first :: rest ∧ isBlank first = false ∧ first.val ≠ closing.val

theorem readAll_join (closes : Stop closing) (other : closing.val ≠ 44)
    (reads : ∀ item ∈ items, ∀ stop, Stop stop → ∀ rest,
      read (write item ++ stop :: rest) = some (value item, stop :: rest))
    (begins : ∀ item ∈ items, Begins closing (write item)) (rest : Text) :
    readAll read closing.val (join write items ++ closing :: rest) =
      some (items.map value, rest) := by
  cases items with
  | nil =>
    rw [join, List.nil_append, readAll, skip_dark closes.dark]
    exact if_pos rfl
  | cons item later =>
    obtain ⟨first, tail, shape, dark, opens⟩ := begins item List.mem_cons_self
    obtain ⟨more, starts⟩ : ∃ more, join write (item :: later) = first :: more := by
      cases later with
      | nil => exact ⟨tail, shape⟩
      | cons next following =>
        refine ⟨tail ++ comma :: join write (next :: following), ?_⟩
        rw [join_cons (List.cons_ne_nil next following), shape, List.cons_append]
    have count := @length_le_join _ write (item :: later)
    have all := readMore_join closes other reads (List.cons_ne_nil item later)
      (show (item :: later).length ≤ (join write (item :: later) ++ closing :: rest).length by
        simp only [List.length_append, List.length_cons] at count ⊢
        omega) rest
    rw [readAll, ← all, starts, List.cons_append, skip_dark dark]
    exact if_neg opens

end Joined

/-! What is printed is read. -/

theorem quote_live : (34 : UInt8) ≠ 0 := by decide

def quote : Letter := ⟨34, quote_live⟩

theorem colon_live : (58 : UInt8) ≠ 0 := by decide

def colon : Letter := ⟨58, colon_live⟩

theorem readValue_string {content : Text} (plain : ∀ letter ∈ content, Plain letter)
    (fuel : Nat) (rest : Text) :
    readValue (fuel + 1) (enclose quote content ++ rest) = some (.string content, rest) := by
  have start : enclose quote content ++ rest = quote :: (content ++ quote :: rest) := by
    simp [enclose]
  rw [start, readValue, skip_dark rfl]
  show (readString (content ++ quote :: rest)).map _ = _
  rw [readString_plain plain rfl]
  rfl

theorem readValue_bool (flag : Bool) (fuel : Nat) (rest : Text) :
    readValue (fuel + 1) (lit (if flag then "true" else "false") ++ rest) =
      some (.bool flag, rest) := by
  cases flag <;> rfl

theorem readValue_number (value : Int) {stop : Letter} (stops : Stop stop) (fuel : Nat)
    (rest : Text) :
    readValue (fuel + 1) (decimal value ++ stop :: rest) =
      some (.number value, stop :: rest) := by
  obtain ⟨first, tail, shape, low, high⟩ : ∃ first tail, decimal value = first :: tail ∧
      45 ≤ first.val ∧ first.val ≤ 57 := by
    cases value with
    | ofNat magnitude =>
      obtain ⟨first, tail, shape, numeric⟩ := decimalNat_starts magnitude
      have bounds := decide_eq_true_eq.mp numeric
      exact ⟨first, tail, shape, UInt8.le_trans (by decide) bounds.1, bounds.2⟩
    | negSucc magnitude => exact ⟨_, _, rfl, by decide, by decide⟩
  have read := readNumber_decimal value stops rest
  rw [shape, List.cons_append] at read
  have dark : isBlank first = false := by
    simp only [isBlank, decide_eq_false_iff_not]
    grind
  rw [shape, List.cons_append, readValue, skip_dark dark]
  simp only [read, Option.map_some]
  rw [if_neg, if_neg, if_neg, if_neg, if_neg, if_neg] <;> grind

section Objects

variable {α : Type} {key shown : α → Text} {value : α → Value} {entries : List α}

/-- An entry of an object as it is printed. -/
def member (key shown : α → Text) (entry : α) : Text :=
  enclose quote (key entry) ++ colon :: shown entry

theorem readMember_member {read : Text → Option (Value × Text)} {entry : α} {after : Text}
    (plain : ∀ letter ∈ key entry, Plain letter)
    (reads : read (shown entry ++ after) = some (value entry, after)) :
    readMember read (member key shown entry ++ after) =
      some ((key entry, value entry), after) := by
  have start : member key shown entry ++ after =
      quote :: (key entry ++ quote :: (colon :: (shown entry ++ after))) := by
    simp [member, enclose]
  rw [start, readMember, skip_dark rfl]
  show (readString (key entry ++ quote :: (colon :: (shown entry ++ after)))).bind _ = _
  rw [readString_plain plain rfl, Option.bind_some]
  simp only [skip_dark (show isBlank colon = false from rfl)]
  show (read (shown entry ++ after)).bind _ = _
  rw [reads]
  rfl

/-- An object that was printed is parsed as its entries. -/
theorem parse_object (plain : ∀ entry ∈ entries, ∀ letter ∈ key entry, Plain letter)
    (reads : ∀ entry ∈ entries, ∀ fuel stop, Stop stop → ∀ rest,
      readValue (fuel + 1) (shown entry ++ stop :: rest) = some (value entry, stop :: rest)) :
    parse (lit "\x7b" ++ join (member key shown) entries ++ lit "\x7d") =
      some (.object (entries.map fun entry => (key entry, value entry))) := by
  have closes : Stop ⟨125, by decide⟩ := .inr (.inr rfl)
  have start : lit "\x7b" ++ join (member key shown) entries ++ lit "\x7d" =
      ⟨123, by decide⟩ :: (join (member key shown) entries ++ [⟨125, by decide⟩]) := by
    rw [List.append_assoc]
    rfl
  have members : readAll (readMember (readValue
        (join (member key shown) entries ++ [(⟨125, by decide⟩ : Letter)]).length))
        125 (join (member key shown) entries ++ [⟨125, by decide⟩]) =
      some (entries.map fun entry => (key entry, value entry), []) := by
    rw [List.length_append]
    apply readAll_join closes (by decide)
    · intro entry inside stop stops rest
      exact readMember_member (plain entry inside) (reads entry inside _ stop stops rest)
    · intro entry _
      exact ⟨_, _, rfl, rfl, by decide⟩
  rw [start, parse, List.length_cons, readValue, skip_dark rfl]
  simp only [members]
  rfl

end Objects

end JsonText
