import NeuroLink.CText

/-!
Searching and reading C strings with `strstr`, `strchr`, `strtol` and
`strncmp`. A pointer into a string is the rest of the string from there, so a
search returns the suffix it stops at.
-/

namespace CText

def strstr (pattern : Text) : Text → Option Text
  | [] => if pattern = [] then some [] else none
  | first :: rest =>
      if pattern.isPrefixOf (first :: rest) then some (first :: rest)
      else strstr pattern rest

def strchr (letter : Letter) : Text → Option Text
  | [] => none
  | first :: rest => if first = letter then some (first :: rest) else strchr letter rest

/-- The characters from `start` up to the pointer `stop` into the same string. -/
def between (start stop : Text) : Text := start.take (start.length - stop.length)

theorem strchr_append (letter : Letter) (before rest : Text)
    (absent : letter ∉ before) :
    strchr letter (before ++ letter :: rest) = some (letter :: rest) := by
  induction before with
  | nil => simp [strchr]
  | cons first tail ih =>
      obtain ⟨different, absent⟩ := not_or.mp (mt List.mem_cons.mpr absent)
      simpa [strchr, Ne.symm different] using ih absent

theorem strchr_append_some {letter : Letter} {text found : Text} (more : Text)
    (search : strchr letter text = some found) :
    strchr letter (text ++ more) = some (found ++ more) := by
  induction text with
  | nil => cases search
  | cons first rest ih =>
      by_cases here : first = letter
      · simp only [strchr, here, ↓reduceIte, Option.some.injEq] at search
        subst found
        simp [strchr, here]
      · simp only [strchr, here, ↓reduceIte] at search
        simpa [strchr, here] using ih search

theorem strchr_none {letter : Letter} {text : Text}
    (search : strchr letter text = none) : letter ∉ text := by
  induction text with
  | nil => simp
  | cons first rest ih =>
      by_cases here : first = letter
      · simp [strchr, here] at search
      · simp only [strchr, here, ↓reduceIte] at search
        simp [ih search, Ne.symm here]

theorem strchr_suffix {letter : Letter} {text found : Text}
    (search : strchr letter text = some found) :
    ∃ before rest, text = before ++ found ∧ found = letter :: rest ∧
      letter ∉ before := by
  induction text with
  | nil => cases search
  | cons first tail ih =>
      by_cases here : first = letter
      · simp only [strchr, here, ↓reduceIte, Option.some.injEq] at search
        exact ⟨[], tail, by simp [← search, here], search.symm, by simp⟩
      · simp only [strchr, here, ↓reduceIte] at search
        obtain ⟨before, rest, split, starts, absent⟩ := ih search
        exact ⟨first :: before, rest, by simp [split], starts,
          by simp [absent, Ne.symm here]⟩

theorem between_append (start stop : Text) : between (start ++ stop) stop = start := by
  simp [between]

theorem strstr_here {pattern text : Text} (starts : pattern <+: text)
    (visible : pattern ≠ []) : strstr pattern text = some text := by
  cases text with
  | nil => exact absurd (List.prefix_nil.mp starts) visible
  | cons first rest => simp [strstr, starts]

theorem strstr_step {pattern : Text} {first : Letter} {rest : Text}
    (elsewhere : ¬ pattern <+: first :: rest) :
    strstr pattern (first :: rest) = strstr pattern rest := by
  simp [strstr, elsewhere]

theorem strstr_prefix {pattern text found : Text}
    (search : strstr pattern text = some found) :
    pattern <+: found ∧ found <:+ text := by
  induction text with
  | nil =>
      simp only [strstr] at search
      split at search
      · cases search
        simp [*]
      · cases search
  | cons first rest ih =>
      by_cases here : pattern <+: first :: rest
      · simp only [strstr, List.isPrefixOf_iff_prefix, here, ↓reduceIte,
          Option.some.injEq] at search
        subst found
        exact ⟨here, List.suffix_refl _⟩
      · rw [strstr_step here] at search
        exact ⟨(ih search).1, (ih search).2.trans (List.suffix_cons first rest)⟩

theorem strstr_append_some {pattern text found : Text} (more : Text)
    (visible : pattern ≠ []) (search : strstr pattern text = some found) :
    strstr pattern (text ++ more) = some (found ++ more) := by
  induction text with
  | nil => simp [strstr, visible] at search
  | cons first rest ih =>
      by_cases here : pattern <+: first :: rest
      · simp only [strstr, List.isPrefixOf_iff_prefix, here, ↓reduceIte,
          Option.some.injEq] at search
        subst found
        exact strstr_here (here.trans (List.prefix_append _ more)) visible
      · rw [strstr_step here] at search
        -- A later match inside the string leaves no room for one across its end.
        have later := strstr_prefix search
        have short := Nat.le_trans later.1.length_le later.2.length_le
        have elsewhere : ¬ pattern <+: first :: rest ++ more := fun starts =>
          here (List.prefix_of_prefix_length_le starts
            (List.prefix_append (first :: rest) more) (by simp; omega))
        rw [List.cons_append] at elsewhere ⊢
        rw [strstr_step elsewhere]
        exact ih search

theorem strstr_append_none {pattern text : Text} (more : Text)
    (search : strstr pattern text = none)
    (closed : ∀ tail, tail <:+ text → tail ≠ [] → ¬ tail <+: pattern) :
    strstr pattern (text ++ more) = strstr pattern more := by
  induction text with
  | nil => rfl
  | cons first rest ih =>
      have here : ¬ pattern <+: first :: rest := by
        intro starts
        simp [strstr, starts] at search
      rw [strstr_step here] at search
      have elsewhere : ¬ pattern <+: first :: (rest ++ more) := by
        intro starts
        rcases List.prefix_or_prefix_of_prefix starts
          (List.prefix_append (first :: rest) more) with inside | across
        · exact here inside
        · exact closed _ (List.suffix_refl _) (by simp) across
      rw [List.cons_append, strstr_step elsewhere]
      exact ih search fun tail ending =>
        closed tail (ending.trans (List.suffix_cons first rest))

theorem strstr_found {pattern text : Text} (inside : pattern <:+: text) :
    (strstr pattern text).isSome = true := by
  induction text with
  | nil => simp [strstr, List.infix_nil.mp inside]
  | cons first rest ih =>
      by_cases here : pattern <+: first :: rest
      · simp [strstr, here]
      · rw [strstr_step here]
        exact ih ((List.infix_cons_iff.mp inside).resolve_left here)

/-! A mark that stands at both ends of a pattern cuts the text into segments. -/

section Marked

variable {mark : Letter}

def enclose (mark : Letter) (segment : Text) : Text := mark :: (segment ++ [mark])

theorem segment_unique {left right : Text} {leftRest rightRest : Text}
    (leftPlain : mark ∉ left) (rightPlain : mark ∉ right)
    (same : left ++ mark :: leftRest = right ++ mark :: rightRest) :
    left = right ∧ leftRest = rightRest := by
  induction left generalizing right with
  | nil =>
      cases right with
      | nil => simpa using same
      | cons first rest =>
          simp only [List.nil_append, List.cons_append, List.cons.injEq] at same
          exact absurd (by simp [same.1]) rightPlain
  | cons first rest ih =>
      cases right with
      | nil =>
          simp only [List.nil_append, List.cons_append, List.cons.injEq] at same
          exact absurd (by simp [same.1]) leftPlain
      | cons other tail =>
          simp only [List.cons_append, List.cons.injEq] at same
          obtain ⟨rfl, rfl⟩ := ih (by simp_all) (by simp_all) same.2
          simp [same.1]

theorem strstr_unmarked (name before rest : Text) (plain : mark ∉ before) :
    strstr (enclose mark name) (before ++ rest) = strstr (enclose mark name) rest := by
  induction before with
  | nil => rfl
  | cons first tail ih =>
      obtain ⟨different, plain⟩ := not_or.mp (mt List.mem_cons.mpr plain)
      rw [List.cons_append, strstr_step]
      · exact ih plain
      · intro starts
        exact different (List.cons_prefix_cons.mp starts).1

/-- At a mark the search looks at the segment up to the next mark: it stops
there or goes on from that next mark. -/
theorem strstr_segment {name segment : Text} (rest : Text)
    (namePlain : mark ∉ name) (plain : mark ∉ segment) :
    strstr (enclose mark name) (mark :: (segment ++ mark :: rest)) =
      if segment = name then some (mark :: (segment ++ mark :: rest))
      else strstr (enclose mark name) (mark :: rest) := by
  split
  · next same =>
      subst same
      refine strstr_here ⟨rest, ?_⟩ (by simp [enclose])
      simp [enclose]
  · next different =>
      rw [strstr_step]
      · exact strstr_unmarked name segment (mark :: rest) plain
      · rintro ⟨more, starts⟩
        simp only [enclose, List.cons_append, List.append_assoc, List.cons.injEq,
          true_and, List.nil_append] at starts
        exact different (segment_unique namePlain plain starts).1.symm

end Marked

/-! Numbers. -/

def isspace (letter : Letter) : Bool :=
  letter.val = 32 ∨ (9 ≤ letter.val ∧ letter.val ≤ 13)

def isdigit (letter : Letter) : Bool := 48 ≤ letter.val ∧ letter.val ≤ 57

def isalnum (letter : Letter) : Bool :=
  isdigit letter ∨ (65 ≤ letter.val ∧ letter.val ≤ 90) ∨ (97 ≤ letter.val ∧ letter.val ≤ 122)

def digitsValue (digits : Text) : Nat :=
  digits.foldl (fun value digit => 10 * value + (digit.val.toNat - 48)) 0

/-- Out of range, `strtol` returns the nearest `long`. -/
def clampLong (longMax : Nat) (value : Int) : Int :=
  max (-longMax - 1) (min longMax value)

/-- `strtol(text, &end, 10)`, or nothing where `end` stays at `text`. -/
def strtol (longMax : Nat) (text : Text) : Option Int :=
  let body := text.dropWhile isspace
  let negative := body.head? = some ⟨45, by decide⟩
  let signed := negative ∨ body.head? = some ⟨43, by decide⟩
  let digits := (if signed then body.drop 1 else body).takeWhile isdigit
  if digits = [] then none
  else some (clampLong longMax
    (if negative then -(digitsValue digits : Int) else digitsValue digits))

theorem digitLetter_isdigit (digit : Fin 10) : isdigit (digitLetter digit) := by
  revert digit
  decide

theorem digitLetter_value (digit : Fin 10) :
    (digitLetter digit).val.toNat - 48 = digit.val := by
  revert digit
  decide

theorem digitsUpTo_isdigit (fuel value : Nat) :
    ∀ letter ∈ digitsUpTo fuel value, isdigit letter := by
  induction fuel generalizing value with
  | zero => simp [digitsUpTo]
  | succ fuel ih =>
      intro letter member
      rw [digitsUpTo] at member
      split at member
      · rw [List.mem_singleton.mp member]
        exact digitLetter_isdigit _
      · rcases List.mem_append.mp member with earlier | last
        · exact ih _ letter earlier
        · rw [List.mem_singleton.mp last]
          exact digitLetter_isdigit _

theorem digitsValue_append (digits : Text) (last : Letter) :
    digitsValue (digits ++ [last]) = 10 * digitsValue digits + (last.val.toNat - 48) := by
  simp [digitsValue]

theorem digitsUpTo_value (fuel value : Nat) (enough : value < fuel) :
    digitsValue (digitsUpTo fuel value) = value := by
  induction fuel generalizing value with
  | zero => omega
  | succ fuel ih =>
      rw [digitsUpTo]
      split
      · simp only [digitsValue, List.foldl_cons, List.foldl_nil, digitLetter_value]
        omega
      · rw [digitsValue_append, ih _ (by omega), digitLetter_value]
        dsimp only
        omega

theorem decimalNat_nonempty (value : Nat) : decimalNat value ≠ [] := by
  rw [decimalNat, digitsUpTo]
  split <;> simp

theorem takeWhile_digits (digits : Text) (stop : Letter) (more : Text)
    (numeric : ∀ letter ∈ digits, isdigit letter) (ends : isdigit stop = false) :
    (digits ++ stop :: more).takeWhile isdigit = digits := by
  rw [List.takeWhile_append_of_pos numeric]
  simp [ends]

theorem isdigit_not_space {letter : Letter} (numeric : isdigit letter) :
    isspace letter = false := by
  have low : 48 ≤ letter.val := (decide_eq_true_eq.mp numeric).1
  simp only [isspace, Bool.decide_or, Bool.or_eq_false_iff, decide_eq_false_iff_not]
  grind

/-- A number printed in decimal and followed by anything but a digit reads back. -/
theorem strtol_decimal (longMax : Nat) (value : Int) (stop : Letter) (more : Text)
    (ends : isdigit stop = false) :
    strtol longMax (decimal value ++ stop :: more) = some (clampLong longMax value) := by
  have read (magnitude : Nat) :
      (decimalNat magnitude ++ stop :: more).takeWhile isdigit = decimalNat magnitude :=
    takeWhile_digits _ stop more (digitsUpTo_isdigit _ magnitude) ends
  have back (magnitude : Nat) : digitsValue (decimalNat magnitude) = magnitude :=
    digitsUpTo_value _ magnitude (Nat.lt_succ_self _)
  cases value with
  | ofNat magnitude =>
      obtain ⟨first, rest, shape⟩ := List.exists_cons_of_ne_nil (decimalNat_nonempty magnitude)
      have numeric : isdigit first := digitsUpTo_isdigit _ magnitude first
        (by change first ∈ decimalNat magnitude; simp [shape])
      have notMinus : first ≠ ⟨45, by decide⟩ := by rintro rfl; cases numeric
      have notPlus : first ≠ ⟨43, by decide⟩ := by rintro rfl; cases numeric
      have body : (decimalNat magnitude ++ stop :: more).dropWhile isspace =
          decimalNat magnitude ++ stop :: more := by
        simp [shape, isdigit_not_space numeric]
      have head : (decimalNat magnitude ++ stop :: more).head? = some first := by simp [shape]
      simp [strtol, decimal, body, head, notMinus, notPlus, read, back, decimalNat_nonempty]
  | negSucc magnitude =>
      have body : (lit "-" ++ decimalNat (magnitude + 1) ++ stop :: more).dropWhile isspace =
          ⟨45, by decide⟩ :: (decimalNat (magnitude + 1) ++ stop :: more) := rfl
      simp only [strtol, decimal, body, List.head?_cons, true_or, ↓reduceIte, List.drop_one,
        List.tail_cons, read, decimalNat_nonempty, back]
      rfl

end CText
