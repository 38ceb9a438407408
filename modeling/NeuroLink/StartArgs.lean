import Mathlib.Data.List.TakeWhile
import NeuroLink.AppRuntime
import NeuroLink.RequestText

/-!
The start arguments of an application: `key=value` pairs separated by commas,
with blanks around them. What a text yields is read off its segments, and a
text that was written from pairs yields those pairs.
-/

namespace NeuroLink.StartArgs

open AppRuntime CText Errno RequestText

def equals : Letter := ⟨61, by decide⟩

def rawMaxLen : Nat := 255

structure StartArgPair where
  key : Buffer 24
  value : Buffer 64
  deriving DecidableEq

/-- `struct app_runtime_start_args`; `pair_count` is the length of `pairs`. -/
structure AppStartArgs where
  raw : Option Text
  pairs : List StartArgPair
  few : pairs.length ≤ 8

def AppStartArgs.add (out : AppStartArgs) (pair : StartArgPair)
    (room : ¬ out.pairs.length ≥ 8) : AppStartArgs :=
  ⟨out.raw, out.pairs ++ [pair], by
    rw [List.length_append]
    exact Nat.not_le.mp room⟩

def parsePair (token : Text) : Except Int StartArgPair :=
  let token := trimToken token
  match strchr equals token with
  | none => .error (-einval)
  | some eq =>
      let key := trimToken (between token eq)
      let value := trimToken (eq.drop 1)
      if key = [] then .error (-einval)
      else if key.length > 23 ∨ value.length > 63 then .error (-enametoolong)
      else .ok ⟨copyBounded key, copyBounded value⟩

def parsePairs : List Text → AppStartArgs → Int × AppStartArgs
  | [], out => (0, out)
  | token :: rest, out =>
      if full : out.pairs.length ≥ 8 then (-enospc, out) else
      match parsePair token with
      | .error code => (code, out)
      | .ok pair => parsePairs rest (out.add pair full)

/-- `app_runtime_parse_start_args`; no text is the null pointer. -/
def appRuntimeParseStartArgs (raw : Option Text) : Int × AppStartArgs :=
  let out : AppStartArgs := ⟨raw, [], Nat.zero_le 8⟩
  match raw with
  | none => (0, out)
  | some raw =>
      if raw = [] then (0, out)
      else if raw.length > rawMaxLen then (-enametoolong, out)
      else
        let scratch : Buffer (rawMaxLen + 1) := copyBounded raw
        parsePairs (startTokens scratch.text) out

/-! Trimming. -/

theorem trimToken_padded (before token after : Text)
    (left : ∀ letter ∈ before, isBlank letter) (right : ∀ letter ∈ after, isBlank letter) :
    trimToken (before ++ token ++ after) = trimToken token := by
  rw [trimToken, trimToken, List.append_assoc, List.dropWhile_append_of_pos left,
    List.dropWhile_append]
  by_cases blank : (token.dropWhile isBlank).isEmpty
  · have nothing : after.dropWhile isBlank = [] := List.dropWhile_eq_nil_iff.mpr right
    rw [if_pos blank, nothing, List.isEmpty_iff.mp blank]
  · rw [if_neg blank, List.reverse_append, List.dropWhile_append_of_pos (by
      intro letter member
      exact right letter (List.mem_reverse.mp member))]

/-- A token is its trimmed form between blanks. -/
theorem trimToken_split (token : Text) :
    ∃ before after, token = before ++ trimToken token ++ after ∧
      (∀ letter ∈ before, isBlank letter) ∧ ∀ letter ∈ after, isBlank letter := by
  let rest := token.dropWhile isBlank
  refine ⟨token.takeWhile isBlank, (rest.reverse.takeWhile isBlank).reverse, ?_, ?_, ?_⟩
  · have back : trimToken token ++ (rest.reverse.takeWhile isBlank).reverse = rest := by
      rw [trimToken, ← List.reverse_append, List.takeWhile_append_dropWhile,
        List.reverse_reverse]
    rw [List.append_assoc, back, List.takeWhile_append_dropWhile]
  · exact fun letter member => List.mem_takeWhile_imp member
  · intro letter member
    exact List.mem_takeWhile_imp (List.mem_reverse.mp member)

theorem mem_trimToken_iff {letter : Letter} (token : Text) (visible : isBlank letter = false) :
    letter ∈ trimToken token ↔ letter ∈ token := by
  obtain ⟨before, after, split, left, right⟩ := trimToken_split token
  have early : letter ∉ before := fun member => by simp [left letter member] at visible
  have late : letter ∉ after := fun member => by simp [right letter member] at visible
  constructor
  · intro member
    rw [split]
    simp [member]
  · intro member
    rw [split] at member
    simpa [early, late] using member

/-! What a segment says. -/

def keyOf (segment : Text) : Text := trimToken (segment.takeWhile (· ≠ equals))

def valueOf (segment : Text) : Text :=
  trimToken ((segment.dropWhile (· ≠ equals)).drop 1)

structure Sound (segment : Text) : Prop where
  assigns : equals ∈ segment
  named : keyOf segment ≠ []
  keyShort : (keyOf segment).length ≤ 23
  valueShort : (valueOf segment).length ≤ 63

def pairOf (segment : Text) : StartArgPair :=
  ⟨copyBounded (keyOf segment), copyBounded (valueOf segment)⟩

theorem takeWhile_equals {key : Text} (value : Text) (plain : equals ∉ key) :
    (key ++ equals :: value).takeWhile (· ≠ equals) = key := by
  rw [List.takeWhile_append_of_pos]
  · simp
  · intro letter member
    exact decide_eq_true fun same => plain (same ▸ member)

theorem dropWhile_equals {key : Text} (value : Text) (plain : equals ∉ key) :
    (key ++ equals :: value).dropWhile (· ≠ equals) = equals :: value := by
  rw [List.dropWhile_append_of_pos]
  · simp
  · intro letter member
    exact decide_eq_true fun same => plain (same ▸ member)

/-- Trimming the whole segment first, as the code does, changes neither part. -/
theorem segment_parts {segment : Text} (assigns : equals ∈ segment) :
    ∃ key value, trimToken segment = key ++ equals :: value ∧ equals ∉ key ∧
      keyOf segment = trimToken key ∧ valueOf segment = trimToken value := by
  obtain ⟨before, after, split, left, right⟩ := trimToken_split segment
  have inside := (mem_trimToken_iff segment (by decide)).mpr assigns
  obtain ⟨key, value, parts, plain⟩ := List.eq_append_cons_of_mem inside
  rw [parts] at split
  have whole : segment = (before ++ key) ++ equals :: (value ++ after) := by
    rw [split]
    simp
  have clear : equals ∉ before ++ key := by
    intro member
    rcases List.mem_append.mp member with early | inside
    · exact absurd (left equals early) (by decide)
    · exact plain inside
  have keys := trimToken_padded before key [] left (by simp)
  have values := trimToken_padded [] value after (by simp) right
  rw [List.append_nil] at keys
  rw [List.nil_append] at values
  refine ⟨key, value, parts, plain, ?_, ?_⟩
  · rw [keyOf, whole, takeWhile_equals _ clear, keys]
  · rw [valueOf, whole, dropWhile_equals _ clear, List.drop_one, List.tail_cons, values]

theorem strchr_absent {letter : Letter} {text : Text} (absent : letter ∉ text) :
    strchr letter text = none := by
  cases search : strchr letter text with
  | none => rfl
  | some found =>
      obtain ⟨before, rest, split, starts, -⟩ := strchr_suffix search
      exact absurd (by simp [split, starts]) absent

theorem parsePair_sound {segment : Text} (sound : Sound segment) :
    parsePair segment = .ok (pairOf segment) := by
  obtain ⟨key, value, token, plain, keys, values⟩ := segment_parts sound.assigns
  have named := sound.named
  have keyShort := sound.keyShort
  have valueShort := sound.valueShort
  rw [keys] at named keyShort
  rw [values] at valueShort
  simp only [parsePair, token, strchr_append equals key value plain, between_append,
    List.drop_one, List.tail_cons]
  rw [if_neg named, if_neg (by omega), pairOf, keys, values]

theorem parsePair_unsound {segment : Text} (unsound : ¬ Sound segment) :
    ∃ code, parsePair segment = .error code ∧ code < 0 := by
  by_cases assigns : equals ∈ segment
  · obtain ⟨key, value, token, plain, keys, values⟩ := segment_parts assigns
    simp only [parsePair, token, strchr_append equals key value plain, between_append,
      List.drop_one, List.tail_cons]
    rw [← keys, ← values]
    split
    · exact ⟨_, rfl, by decide⟩
    next named =>
      split
      · exact ⟨_, rfl, by decide⟩
      next short =>
        obtain ⟨keyShort, valueShort⟩ := not_or.mp short
        exact absurd ⟨assigns, named, Nat.not_lt.mp keyShort, Nat.not_lt.mp valueShort⟩
          unsound
  · have absent : strchr equals (trimToken segment) = none :=
      strchr_absent (mt (mem_trimToken_iff segment (by decide)).mp assigns)
    exact ⟨-einval, by simp only [parsePair, absent], by decide⟩

/-! The loop. -/

theorem parsePairs_sound (tokens : List Text) (out : AppStartArgs)
    (sound : ∀ token ∈ tokens, Sound token)
    (room : out.pairs.length + tokens.length ≤ 8) :
    (parsePairs tokens out).1 = 0 ∧
      (parsePairs tokens out).2.pairs = out.pairs ++ tokens.map pairOf := by
  induction tokens generalizing out with
  | nil => simp [parsePairs]
  | cons token rest ih =>
      have free : ¬ out.pairs.length ≥ 8 := by
        rw [List.length_cons] at room
        omega
      rw [parsePairs, dif_neg free, parsePair_sound (sound token List.mem_cons_self)]
      have later := ih (out.add (pairOf token) free)
        (fun token member => sound token (List.mem_cons_of_mem _ member)) (by
          simp only [AppStartArgs.add, List.length_append, List.length_cons] at room ⊢
          simp only [List.length_nil]
          omega)
      refine ⟨later.1, later.2.trans ?_⟩
      rw [AppStartArgs.add, List.append_assoc]
      rfl

/-- A token that is not sound, or one token too many, stops the loop. -/
theorem parsePairs_rejects {tokens : List Text} {out : AppStartArgs}
    (flawed : (∃ token ∈ tokens, ¬ Sound token) ∨ 8 < out.pairs.length + tokens.length) :
    (parsePairs tokens out).1 < 0 := by
  induction tokens generalizing out with
  | nil =>
      have few := out.few
      rcases flawed with ⟨token, member, -⟩ | many
      · cases member
      · exact absurd many (by simpa using few)
  | cons token rest ih =>
      rw [parsePairs]
      split
      · exact (by decide : -enospc < 0)
      next free =>
        by_cases sound : Sound token
        · rw [parsePair_sound sound]
          apply ih
          rcases flawed with ⟨other, member, unsound⟩ | many
          · rcases List.mem_cons.mp member with rfl | later
            · exact absurd sound unsound
            · exact .inl ⟨other, later, unsound⟩
          · right
            simp only [AppStartArgs.add, List.length_append, List.length_cons,
              List.length_nil] at many ⊢
            omega
        · obtain ⟨code, refused, negative⟩ := parsePair_unsound sound
          rw [refused]
          exact negative

theorem startTokens_eq (raw : Text) :
    startTokens raw = (raw.splitOn comma).filter (· ≠ []) := rfl

theorem appRuntimeParseStartArgs_some {raw : Text} (short : raw.length ≤ 255) :
    appRuntimeParseStartArgs (some raw) =
      parsePairs (startTokens raw) ⟨some raw, [], Nat.zero_le 8⟩ := by
  have copied : (copyBounded raw : Buffer (rawMaxLen + 1)).text = raw :=
    copyBounded_exact raw short
  simp only [appRuntimeParseStartArgs, copied]
  split
  next empty =>
    subst raw
    rfl
  next => rw [if_neg (show ¬ raw.length > rawMaxLen from Nat.not_lt.mpr short)]

/-! Texts written from pairs. -/

structure Renderable (pair : Text × Text) : Prop where
  named : trimToken pair.1 ≠ []
  keyShort : (trimToken pair.1).length ≤ 23
  keyPlain : comma ∉ trimToken pair.1 ∧ equals ∉ trimToken pair.1
  valueShort : (trimToken pair.2).length ≤ 63
  valuePlain : comma ∉ trimToken pair.2

def renderPair (pair : Text × Text) : Text := pair.1 ++ equals :: pair.2

def render (pairs : List (Text × Text)) : Text := [comma].intercalate (pairs.map renderPair)

theorem renderPair_parts {pair : Text × Text} (good : Renderable pair) :
    keyOf (renderPair pair) = trimToken pair.1 ∧ valueOf (renderPair pair) = trimToken pair.2 := by
  have plain : equals ∉ pair.1 := mt (mem_trimToken_iff _ (by decide)).mpr good.keyPlain.2
  rw [keyOf, valueOf, renderPair, takeWhile_equals _ plain, dropWhile_equals _ plain]
  exact ⟨rfl, rfl⟩

theorem renderPair_sound {pair : Text × Text} (good : Renderable pair) :
    Sound (renderPair pair) := by
  obtain ⟨key, value⟩ := renderPair_parts good
  exact ⟨by simp [renderPair], key ▸ good.named, key ▸ good.keyShort, value ▸ good.valueShort⟩

theorem renderPair_plain {pair : Text × Text} (good : Renderable pair) :
    comma ∉ renderPair pair := by
  have key : comma ∉ pair.1 := mt (mem_trimToken_iff _ (by decide)).mpr good.keyPlain.1
  have value : comma ∉ pair.2 := mt (mem_trimToken_iff _ (by decide)).mpr good.valuePlain
  rw [renderPair, List.mem_append, List.mem_cons]
  exact not_or.mpr ⟨key, not_or.mpr ⟨by decide, value⟩⟩

theorem startTokens_render {pairs : List (Text × Text)}
    (good : ∀ pair ∈ pairs, Renderable pair) :
    startTokens (render pairs) = pairs.map renderPair := by
  cases pairs with
  | nil => rfl
  | cons first rest =>
      rw [startTokens_eq, render, List.splitOn_intercalate]
      · apply List.filter_eq_self.mpr
        intro segment member
        obtain ⟨pair, -, rfl⟩ := List.mem_map.mp member
        simp [renderPair]
      · intro segment member
        obtain ⟨pair, inside, rfl⟩ := List.mem_map.mp member
        exact renderPair_plain (good pair inside)
      · simp

def texts (pair : StartArgPair) : Text × Text := (pair.key.text, pair.value.text)

def trimmed (pair : Text × Text) : Text × Text := (trimToken pair.1, trimToken pair.2)

theorem pairOf_renderPair {pair : Text × Text} (good : Renderable pair) :
    texts (pairOf (renderPair pair)) = trimmed pair := by
  obtain ⟨key, value⟩ := renderPair_parts good
  rw [texts, pairOf, key, value, copyBounded_exact _ good.keyShort,
    copyBounded_exact _ good.valueShort, trimmed]

/-- Texts that are no start arguments: too long, too many segments, or a segment that
assigns nothing, has no name, or is over the size of a name or a value. -/
def Refused (raw : Text) : Prop :=
  255 < raw.length ∨
  (∃ segment ∈ raw.splitOn comma, segment ≠ [] ∧
    (equals ∉ segment ∨ keyOf segment = [] ∨ 23 < (keyOf segment).length ∨
      63 < (valueOf segment).length)) ∨
  8 < ((raw.splitOn comma).filter (· ≠ [])).length

theorem render_parses {pairs : List (Text × Text)} (few : pairs.length ≤ 8)
    (good : ∀ pair ∈ pairs, Renderable pair) (short : (render pairs).length ≤ 255) :
    (appRuntimeParseStartArgs (some (render pairs))).1 = 0 ∧
      (appRuntimeParseStartArgs (some (render pairs))).2.pairs.map texts =
        pairs.map trimmed := by
  rw [appRuntimeParseStartArgs_some short, startTokens_render good]
  have run := parsePairs_sound (pairs.map renderPair)
    ⟨some (render pairs), [], Nat.zero_le 8⟩ (by
      intro token member
      obtain ⟨pair, inside, rfl⟩ := List.mem_map.mp member
      exact renderPair_sound (good pair inside)) (by simpa using few)
  refine ⟨run.1, ?_⟩
  rw [run.2, List.nil_append, List.map_map, List.map_map]
  exact List.map_congr_left fun pair member => pairOf_renderPair (good pair member)

theorem refused_fails {raw : Text} (refused : Refused raw) :
    (appRuntimeParseStartArgs (some raw)).1 < 0 := by
  by_cases long : 255 < raw.length
  · have full : raw ≠ [] := by
      intro empty
      simp [empty] at long
    simp only [appRuntimeParseStartArgs]
    rw [if_neg full, if_pos (show raw.length > rawMaxLen from long)]
    exact (by decide : -enametoolong < 0)
  · rw [appRuntimeParseStartArgs_some (Nat.not_lt.mp long)]
    apply parsePairs_rejects
    rcases refused with tooLong | ⟨segment, member, full, flaw⟩ | many
    · exact absurd tooLong long
    · refine .inl ⟨segment, ?_, ?_⟩
      · rw [startTokens_eq, List.mem_filter]
        exact ⟨member, by simpa using full⟩
      · rintro ⟨assigns, named, keyShort, valueShort⟩
        rcases flaw with plain | empty | tooLong | tooLong
        · exact plain assigns
        · exact named empty
        · omega
        · omega
    · exact .inr (by simpa [startTokens_eq] using many)

/-- Parsing undoes rendering, and what is refused is an error. -/
theorem startArgs_exact :
    (∀ pairs : List (Text × Text), pairs.length ≤ 8 → (∀ pair ∈ pairs, Renderable pair) →
      (render pairs).length ≤ 255 →
      (appRuntimeParseStartArgs (some (render pairs))).1 = 0 ∧
      (appRuntimeParseStartArgs (some (render pairs))).2.pairs.map texts =
        pairs.map trimmed) ∧
    ∀ raw : Text, Refused raw → (appRuntimeParseStartArgs (some raw)).1 < 0 :=
  ⟨fun _ few good short => render_parses few good short, fun _ refused => refused_fails refused⟩

theorem startArgs_exact_two :
    (appRuntimeParseStartArgs (some (lit " mode=\tfast ,rate = 2=3"))).1 = 0 ∧
    (appRuntimeParseStartArgs (some (lit " mode=\tfast ,rate = 2=3"))).2.pairs.map texts =
      [(lit "mode", lit "fast"), (lit "rate", lit "2=3")] ∧
    (appRuntimeParseStartArgs (some (lit "mode=fast, ,rate=2"))).1 < 0 := by
  have written : render [(lit " mode", lit "\tfast "), (lit "rate ", lit " 2=3")] =
      lit " mode=\tfast ,rate = 2=3" := by decide
  have yields : [(lit " mode", lit "\tfast "), (lit "rate ", lit " 2=3")].map trimmed =
      [(lit "mode", lit "fast"), (lit "rate", lit "2=3")] := by decide
  have run := startArgs_exact.1 [(lit " mode", lit "\tfast "), (lit "rate ", lit " 2=3")]
    (by decide) (by
      intro pair member
      simp only [List.mem_cons, List.not_mem_nil, or_false] at member
      rcases member with rfl | rfl
      · exact ⟨by decide, by decide, by decide, by decide, by decide⟩
      · exact ⟨by decide, by decide, by decide, by decide, by decide⟩) (by decide)
  rw [written, yields] at run
  refine ⟨run.1, run.2, startArgs_exact.2 _ (.inr (.inl ⟨lit " ", ?_, ?_, .inl ?_⟩))⟩
  · decide
  · decide
  · decide

/-! The code of the runtime's own parse is the code of this one. -/

theorem parseStartPairs_cons (token : Text) (rest : List Text) (pairCount : Nat)
    (free : ¬ pairCount ≥ 8) :
    parseStartPairs (token :: rest) pairCount =
      match parsePair token with
      | .error code => code
      | .ok _ => parseStartPairs rest (pairCount + 1) := by
  have letters (letter : Letter) : (letter.val ≠ 61) = (letter ≠ equals) := by
    simp [equals, Subtype.ext_iff]
  simp only [parseStartPairs, if_neg free, letters]
  by_cases assigns : equals ∈ token
  · obtain ⟨key, value, parts, plain, -, -⟩ := segment_parts assigns
    have first := takeWhile_equals value plain
    have second := dropWhile_equals value plain
    simp only [parsePair, parts, strchr_append equals key value plain, between_append,
      List.drop_one, List.tail_cons, first, second]
    rw [if_neg (by simp)]
    split
    · rfl
    · split <;> rfl
  · have absent := mt (mem_trimToken_iff token (by decide)).mp assigns
    have plain : (trimToken token).all (· ≠ equals) = true := by
      rw [List.all_eq_true]
      intro letter member
      exact decide_eq_true fun same => absent (same ▸ member)
    rw [if_pos plain]
    simp only [parsePair, strchr_absent absent]

theorem parseStartPairs_eq (tokens : List Text) (out : AppStartArgs) :
    parseStartPairs tokens out.pairs.length = (parsePairs tokens out).1 := by
  induction tokens generalizing out with
  | nil => rfl
  | cons token rest ih =>
      by_cases full : out.pairs.length ≥ 8
      · rw [parseStartPairs, if_pos full, parsePairs, dif_pos full]
      · rw [parseStartPairs_cons token rest _ full, parsePairs, dif_neg full]
        cases parsed : parsePair token with
        | error code => rfl
        | ok pair =>
            have later := ih (out.add pair full)
            rw [AppStartArgs.add, List.length_append] at later
            exact later

theorem parseStartArgs_eq (raw : Text) :
    parseStartArgs raw = (appRuntimeParseStartArgs (some raw)).1 := by
  by_cases long : raw.length > 255
  · have full : raw ≠ [] := by
      intro empty
      simp [empty] at long
    rw [parseStartArgs, if_pos long]
    simp only [appRuntimeParseStartArgs]
    rw [if_neg full, if_pos (show raw.length > rawMaxLen from long)]
  · rw [parseStartArgs, if_neg long, appRuntimeParseStartArgs_some (Nat.not_lt.mp long),
      ← parseStartPairs_eq]
    rfl

end NeuroLink.StartArgs
