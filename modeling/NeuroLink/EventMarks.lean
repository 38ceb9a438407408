import Mathlib.Data.List.DropRight
import NeuroLink.LiveEvents

/-!
What the identity of an event row says of the row. The tokens of the fields are joined by the
dash that the words of a token are joined by, so an identity holds the words of all its fields
in a row and no more: not where one field ends, nor how its words were spelled or separated.
-/

namespace NeuroLink.EventMarks

open PyValue LiveEvents

abbrev Word := { chars : List Char // '-' ∉ chars }

def joined (words : List Word) : List Char := ['-'].intercalate (words.map Subtype.val)

section Words

/-- The runs of letters and digits. -/
def runs (chars : List Char) : List (List Char) :=
  (chars.splitOnP fun char => !char.isAlphanum).filter (· ≠ [])

theorem alphanum_no_dash {char : Char} (plain : char.isAlphanum = true) : char.toLower ≠ '-' := by
  intro same
  unfold Char.toLower at same
  split at same
  · next upper =>
    have value : char.val + 32 = 45 := congrArg Char.val same
    have lower : 65 ≤ char.val.toNat := UInt32.le_iff_toNat_le.mp upper.1
    have higher : char.val.toNat ≤ 90 := UInt32.le_iff_toNat_le.mp upper.2
    have shifted := congrArg UInt32.toNat value
    rw [UInt32.toNat_add] at shifted
    change (char.val.toNat + 32) % 2 ^ 32 = 45 at shifted
    omega
  · rw [same] at plain
    exact absurd plain (by decide)

theorem mem_splitOnP {separates : Char → Bool} {chars piece : List Char} {char : Char}
    (listed : piece ∈ chars.splitOnP separates) (inside : char ∈ piece) :
    separates char = false := by
  induction chars generalizing piece with
  | nil =>
      rw [List.splitOnP_nil, List.mem_singleton] at listed
      subst listed
      cases inside
  | cons first rest ih =>
      obtain ⟨head, tail, split⟩ :=
        List.exists_cons_of_ne_nil (List.splitOnP_ne_nil separates rest)
      rw [List.splitOnP_cons_eq_if_modifyHead] at listed
      rw [split] at ih listed
      split at listed
      · rcases List.mem_cons.mp listed with rfl | later
        · cases inside
        · exact ih later inside
      · next kept =>
        rcases List.mem_cons.mp listed with rfl | later
        · rcases List.mem_cons.mp inside with rfl | inside
          · simpa using kept
          · exact ih List.mem_cons_self inside
        · exact ih (List.mem_cons_of_mem _ later) inside

theorem runs_no_dash {chars run : List Char}
    (listed : run ∈ (runs chars).map (·.map Char.toLower)) : '-' ∉ run := by
  intro dash
  obtain ⟨plain, inside, rfl⟩ := List.mem_map.mp listed
  obtain ⟨char, member, lowered⟩ := List.mem_map.mp dash
  have separated := mem_splitOnP ((List.mem_filter.mp inside).1) member
  exact alphanum_no_dash (by simpa using separated) lowered

def wordsOf (text : String) : List Word :=
  ((runs text.toList).map (·.map Char.toLower)).attachWith _ fun _ listed => runs_no_dash listed

theorem wordsOf_val (text : String) :
    (wordsOf text).map Subtype.val = (runs text.toList).map (·.map Char.toLower) := by
  rw [wordsOf, List.attachWith_map_subtype_val]

theorem rdropWhile_cons {drops : Char → Bool} (char : Char) (rest : List Char) :
    List.rdropWhile drops (char :: rest) =
      if List.rdropWhile drops rest = [] ∧ drops char then []
      else char :: List.rdropWhile drops rest := by
  unfold List.rdropWhile
  rw [List.reverse_cons, List.dropWhile_append]
  cases List.dropWhile drops rest.reverse with
  | nil => cases dropped : drops char <;> simp [dropped]
  | cons last others => simp

theorem runs_nonempty {chars run : List Char} (listed : run ∈ runs chars) : run ≠ [] := by
  simpa using (List.mem_filter.mp listed).2

theorem intercalate_runs_nil (chars : List Char) :
    ['-'].intercalate (runs chars) = [] ↔ runs chars = [] := by
  cases shape : runs chars with
  | nil => simp
  | cons first others =>
      have filled := runs_nonempty (shape ▸ List.mem_cons_self : first ∈ runs chars)
      obtain ⟨char, rest, rfl⟩ := List.exists_cons_of_ne_nil filled
      simp

/-- The runs of a text with dashes between them are what its tokens are before they are lowered:
the first part is about a text after a dash, the second about one inside a run. -/
theorem dashed_runs (chars : List Char) :
    List.rdropWhile (· = '-') (dashed true chars) = ['-'].intercalate (runs chars) ∧
      ∃ head tail, chars.splitOnP (fun char => !char.isAlphanum) = head :: tail ∧
        List.rdropWhile (· = '-') (dashed false chars) =
          head ++ if tail.filter (· ≠ []) = [] then [] else
            '-' :: ['-'].intercalate (tail.filter (· ≠ [])) := by
  induction chars with
  | nil => exact ⟨rfl, [], [], rfl, rfl⟩
  | cons char rest ih =>
      obtain ⟨later, head, tail, split, ends⟩ := ih
      cases plain : char.isAlphanum with
      | false =>
          -- a separator ends a run: the tail is that of the text behind it
          have parts : (char :: rest).splitOnP (fun char => !char.isAlphanum) =
              [] :: rest.splitOnP (fun char => !char.isAlphanum) := by
            rw [List.splitOnP_cons_eq_if_modifyHead, if_pos (by simp [plain])]
          have same : runs (char :: rest) = runs rest := by
            rw [runs, parts]
            rfl
          have behind : (rest.splitOnP fun char => !char.isAlphanum).filter (· ≠ []) =
            runs rest := rfl
          rw [same]
          refine ⟨by simpa [dashed, plain] using later, [], _, parts, ?_⟩
          rw [behind, List.nil_append]
          have shown : dashed false (char :: rest) = '-' :: dashed true rest := by
            simp [dashed, plain]
          rw [shown, rdropWhile_cons, later]
          simp only [decide_true, and_true, intercalate_runs_nil]
      | true =>
          -- a letter belongs to the first run, which goes on with the text behind it
          have parts : (char :: rest).splitOnP (fun char => !char.isAlphanum) =
              (char :: head) :: tail := by
            rw [List.splitOnP_cons_eq_if_modifyHead, if_neg (by simp [plain]), split]
            rfl
          have kept : char ≠ '-' := by
            rintro rfl
            exact absurd plain (by decide)
          have within : List.rdropWhile (· = '-') (char :: dashed false rest) =
              (char :: head) ++ if tail.filter (· ≠ []) = [] then [] else
                '-' :: ['-'].intercalate (tail.filter (· ≠ [])) := by
            rw [rdropWhile_cons, if_neg (by simp [kept]), ends]
            rfl
          have both : ∀ inRun, dashed inRun (char :: rest) = char :: dashed false rest := by
            simp [dashed, plain]
          rw [both, both]
          refine ⟨?_, _, _, parts, within⟩
          rw [within, runs, parts, List.filter_cons_of_pos (by simp)]
          by_cases last : tail.filter (· ≠ []) = []
          · rw [if_pos last, last, List.intercalate_singleton, List.append_nil]
          · rw [if_neg last, List.intercalate_cons_of_ne_nil last, List.append_assoc]
            rfl

def labelled (text : String) : List Word :=
  if wordsOf text = [] then [⟨"unknown".toList, by decide⟩] else wordsOf text

theorem dropWhile_dashed (chars : List Char) :
    (dashed true chars).dropWhile (· = '-') = dashed true chars ∧
      (dashed false chars).dropWhile (· = '-') = dashed true chars := by
  induction chars with
  | nil => exact ⟨rfl, rfl⟩
  | cons char rest ih =>
      cases plain : char.isAlphanum with
      | false => simp [dashed, plain, ih.1]
      | true =>
          have kept : char ≠ '-' := by
            rintro rfl
            exact absurd plain (by decide)
          simp [dashed, plain, kept]

theorem map_joined (words : List (List Char)) :
    (['-'].intercalate words).map Char.toLower =
      ['-'].intercalate (words.map (·.map Char.toLower)) := by
  induction words with
  | nil => rfl
  | cons first rest ih =>
      by_cases last : rest = []
      · simp [last]
      · rw [List.intercalate_cons_of_ne_nil last, List.map_cons,
          List.intercalate_cons_of_ne_nil (by simpa using last), List.map_append,
          List.map_append, ih]
        rfl

/-- A token is the words of the field. -/
theorem eventIdToken_joined (text : String) :
    (eventIdToken text).toList = joined (labelled text) := by
  have token : (stripWhere (· = '-') (String.ofList (dashed false text.toList))).toLower.toList =
      joined (wordsOf text) := by
    have lowered (token : String) : token.toLower = token.map Char.toLower := rfl
    rw [lowered, String.toList_map, stripWhere, String.toList_ofList, String.toList_ofList,
      (dropWhile_dashed _).2, joined, wordsOf_val, ← map_joined, ← (dashed_runs _).1]
    rfl
  have empty : joined (wordsOf text) = [] ↔ wordsOf text = [] := by
    rw [joined, wordsOf_val, ← map_joined, List.map_eq_nil_iff, intercalate_runs_nil,
      ← List.map_eq_nil_iff (f := (·.map Char.toLower)), ← wordsOf_val, List.map_eq_nil_iff]
  unfold eventIdToken labelled
  dsimp only
  by_cases named : wordsOf text = []
  · rw [if_pos named, if_pos]
    · rfl
    · rw [← String.toList_inj, token, empty.mpr named]
      rfl
  · rw [if_neg named, if_neg, token]
    intro nothing
    rw [nothing] at token
    exact named (empty.mp token.symm)

end Words

inductive Mark where
  | event (words : List Word)
  | callback (shown : String)
deriving DecidableEq

def Mark.identity : Mark → String
  | .event words => String.ofList (['-'].intercalate ("liveevt".toList :: words.map Subtype.val))
  | .callback shown => "appevt-" ++ shown

/-- Rows with the same identity have the same mark. -/
theorem Mark.identity_injective : Function.Injective Mark.identity := by
  have apart : ∀ (words : List Word) (shown : String),
      (Mark.event words).identity ≠ (Mark.callback shown).identity := by
    intro words shown same
    have heads := congrArg (fun text : String => text.toList.head?) same
    simp [Mark.identity] at heads
  rintro (words | shown) (others | other) same
  · have listed := String.ofList_injective same
    have split : ∀ words : List Word, (['-'].intercalate
        ("liveevt".toList :: words.map Subtype.val)).splitOn '-' =
          "liveevt".toList :: words.map Subtype.val := by
      intro words
      refine List.splitOn_intercalate '-' (fun piece listed => ?_) (by simp)
      rcases List.mem_cons.mp listed with rfl | listed
      · decide
      · obtain ⟨word, _, rfl⟩ := List.mem_map.mp listed
        exact word.2
    have values := (List.cons.inj ((split words).symm.trans
      ((congrArg (List.splitOn '-') listed).trans (split others)))).2
    rw [List.map_injective_iff.mpr Subtype.val_injective values]
  · exact absurd same (apart words other)
  · exact absurd same.symm (apart others shown)
  · have shows := congrArg String.toList same
    rw [Mark.identity, Mark.identity, String.toList_append, String.toList_append] at shows
    rw [String.toList_inj.mp (List.append_cancel_left shows)]

section Rows

variable (py : Builtins)

/-- The words of node, application or kind and type of an event, and of what tells the events of
a source apart. -/
def eventWords (fields : LiveFields) (payload : Dict) : List Word :=
  labelled (if fields.sourceNode ≠ "" then fields.sourceNode else "node") ++
    labelled (if fields.sourceApp ≠ "" then fields.sourceApp else fields.sourceKind) ++
    labelled fields.eventType ++ labelled (identitySeed py payload fields.timestampWall)

/-- The application of a callback, its type and its two counts, as they are printed. -/
def shownCounts (fields : LiveFields) (payload : Dict) : String :=
  (if fields.sourceApp ≠ "" then fields.sourceApp else "None") ++ "-" ++ fields.eventType ++
    "-" ++ (PyValue.get payload "invoke_count").text py.repr ++ "-" ++
    (PyValue.get payload "start_count").text py.repr

/-- What a row says of itself to the collector: nothing without a payload. A callback that an
application's collector meets is known by its counts, unless the payload names an id. -/
def mark (collector : Collector) (row : Row) : Option Mark :=
  match row.payload, collector with
  | .dict payload, .live =>
      some (.event (eventWords py (liveFields py row.toDict payload "unit" "") payload))
  | .dict payload, .app appId =>
      let fields := liveFields py row.toDict payload "unit_app" appId
      if fields.eventType = "callback" ∧ py.textOr (PyValue.get payload "event_id") "" = "" then
        if (PyValue.get payload "event_id").truthy then none
        else some (.callback (shownCounts py fields payload))
      else some (.event (eventWords py fields payload))
  | _, _ => none

variable {py}

theorem labelled_filled (text : String) : labelled text ≠ [] := by
  unfold labelled
  split
  · exact List.cons_ne_nil _ _
  · assumption

theorem joined_append {first second : List Word} (there : first ≠ []) (more : second ≠ []) :
    joined (first ++ second) = joined first ++ '-' :: joined second := by
  induction first with
  | nil => exact absurd rfl there
  | cons word rest ih =>
      unfold joined at ih ⊢
      by_cases last : rest = []
      · rw [last, List.cons_append, List.nil_append, List.map_cons,
          List.intercalate_cons_of_ne_nil fun none => more (List.map_eq_nil_iff.mp none),
          List.append_assoc]
        simp
      · have longer : rest ++ second ≠ [] := List.append_ne_nil_of_left_ne_nil last _
        rw [List.cons_append, List.map_cons, List.map_cons,
          List.intercalate_cons_of_ne_nil fun none => longer (List.map_eq_nil_iff.mp none),
          List.intercalate_cons_of_ne_nil fun none => last (List.map_eq_nil_iff.mp none), ih last]
        simp

theorem liveEventId_marked (fields : LiveFields) (payload : Dict) :
    liveEventId py fields payload = (Mark.event (eventWords py fields payload)).identity := by
  have words : joined (eventWords py fields payload) =
      (eventIdToken (if fields.sourceNode ≠ "" then fields.sourceNode else "node")).toList ++
        '-' :: (eventIdToken (if fields.sourceApp ≠ "" then fields.sourceApp
          else fields.sourceKind)).toList ++
        '-' :: (eventIdToken fields.eventType).toList ++
        '-' :: (eventIdToken (identitySeed py payload fields.timestampWall)).toList := by
    have filled := labelled_filled
    simp only [eventIdToken_joined, eventWords]
    rw [joined_append (by simp [filled]) (filled _), joined_append (by simp [filled]) (filled _),
      joined_append (filled _) (filled _)]
  have filled : (eventWords py fields payload).map Subtype.val ≠ [] := by
    rw [Ne, List.map_eq_nil_iff]
    exact List.append_ne_nil_of_right_ne_nil _ (labelled_filled _)
  rw [← String.toList_inj, Mark.identity, String.toList_ofList,
    List.intercalate_cons_of_ne_nil filled]
  change _ = _ ++ joined (eventWords py fields payload)
  rw [words]
  unfold liveEventId
  simp only [String.toList_append, List.append_assoc]
  rfl

theorem appEventId_marked (fields : LiveFields) (payload : Dict) :
    appEventId py (if fields.sourceApp ≠ "" then .str fields.sourceApp else .none)
        (.str fields.eventType) payload =
      (Mark.callback (shownCounts py fields payload)).identity := by
  unfold appEventId Mark.identity shownCounts
  split
  · simp only [text_str, String.append_assoc]
  · simp only [Value.text, String.append_assoc]

/-- The identity the collector gives to a row is that of the row's mark. -/
theorem identity_marked (collector : Collector) (row : Row) :
    collector.identity py row = (mark py collector row).map Mark.identity := by
  have live : ∀ words, (Mark.event words).identity ≠ "" := by
    intro words same
    have length := congrArg (fun text : String => text.toList.length) same
    simp [Mark.identity] at length
  have callback : ∀ shown, (Mark.callback shown).identity ≠ "" := by
    intro shown same
    have length := congrArg (fun text : String => text.toList.length) same
    simp [Mark.identity] at length
  unfold Collector.identity mark
  cases row.payload with
  | dict payload =>
      cases collector with
      | live =>
          dsimp only [Collector.payloadIdentity]
          rw [liveEventId_marked, if_neg (live _)]
          rfl
      | app appId =>
          dsimp only [Collector.payloadIdentity]
          generalize liveFields py row.toDict payload "unit_app" appId = fields
          split
          · next counted =>
            cases named : (PyValue.get payload "event_id").truthy with
            | true =>
                have nothing := counted.2
                unfold Builtins.textOr at nothing ⊢
                rw [orElse_truthy _ named] at nothing ⊢
                rw [if_pos nothing]
                rfl
            | false =>
                unfold Builtins.textOr
                rw [orElse_falsy _ named, text_str, appEventId_marked, if_neg (callback _)]
                rfl
          · rw [liveEventId_marked, if_neg (live _)]
            rfl
  | _ => rfl

end Rows

end NeuroLink.EventMarks
