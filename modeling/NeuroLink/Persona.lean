import Mathlib.Data.String.Basic

/-!
Updates of the persona: signals move the affective fields and the relationships, redaction
drops relationships. Both build a new state field by field and name eleven of its fourteen
fields, so the seed, the growth record and the provenance hash fall back to their defaults.
-/

namespace NeuroLink.Persona

/-- A Python float: a number of a linear order, or the value that compares with none. -/
abbrev Score (Number : Type) := Option Number

/-- What the updates use of floating point: `a + b`, `round(a, 4)` and the bounds. -/
structure Floats (Number : Type) [LinearOrder Number] where
  sum : Score Number → Score Number → Score Number
  round : Score Number → Score Number
  minusOne : Number
  zero : Number
  half : Number
  one : Number
  ordered : minusOne ≤ zero ∧ zero ≤ half ∧ half ≤ one

variable {Number Seed Growth : Type}

section Scores

variable [LinearOrder Number]

/-- `a < b`, which holds of no value that is not a number. -/
def less : Score Number → Score Number → Bool
  | some first, some second => decide (first < second)
  | _, _ => false

/-- `min(first, second)`: the first unless the second is less. -/
def pyMin (first second : Score Number) : Score Number :=
  if less second first then second else first

/-- `max(first, second)`: the first unless the second is greater. -/
def pyMax (first second : Score Number) : Score Number :=
  if less first second then second else first

/-- `_clamp`. -/
def clamp (floats : Floats Number) (value : Score Number) (minimum maximum : Number) :
    Score Number :=
  pyMax (some minimum) (pyMin (some maximum) (floats.round value))

/-- A number between the bounds. -/
def Within (minimum maximum : Number) (value : Score Number) : Prop :=
  ∃ number, value = some number ∧ minimum ≤ number ∧ number ≤ maximum

theorem pyMin_within (maximum : Number) (value : Score Number) :
    ∃ number, pyMin (some maximum) value = some number ∧ number ≤ maximum := by
  cases value with
  | none => exact ⟨maximum, rfl, le_rfl⟩
  | some number =>
    by_cases below : number < maximum
    · exact ⟨number, by simp [pyMin, less, below], below.le⟩
    · exact ⟨maximum, by simp [pyMin, less, below], le_rfl⟩

theorem clamp_within (floats : Floats Number) (value : Score Number) {minimum maximum : Number}
    (ordered : minimum ≤ maximum) :
    Within minimum maximum (clamp floats value minimum maximum) := by
  obtain ⟨number, least, atMost⟩ := pyMin_within maximum (floats.round value)
  unfold clamp
  rw [least]
  by_cases above : minimum < number
  · exact ⟨number, by simp [pyMax, less, above], above.le, atMost⟩
  · exact ⟨minimum, by simp [pyMax, less, above], le_rfl, ordered⟩

end Scores

/-- `RelationshipSummary`. -/
structure RelationshipSummary (Number : Type) where
  principalId : String
  trust : Score Number
  familiarity : Score Number
  preferredAddress : String
  boundaries : List String
  lastInteractionReason : Option String

/-- `RelationshipSummary(principal_id=…)`: the defaults of the other fields. -/
def RelationshipSummary.initial [LinearOrder Number] (floats : Floats Number) (principal : String) :
    RelationshipSummary Number where
  principalId := principal
  trust := some floats.half
  familiarity := some floats.zero
  preferredAddress := ""
  boundaries := []
  lastInteractionReason := none

/-- `PersonaSignal`. -/
structure PersonaSignal (Number : Type) where
  reason : String
  mood : Option String
  valenceDelta : Score Number
  arousalDelta : Score Number
  curiosityDelta : Score Number
  fatigueDelta : Score Number
  socialOpennessDelta : Score Number
  principalId : Option String
  trustDelta : Score Number
  familiarityDelta : Score Number
  preferredAddress : Option String
  boundaryNote : Option String

/-- `PersonaState`. The seed and the growth record are carried and never looked into. -/
structure PersonaState (Number Seed Growth : Type) where
  personaId : String
  version : Int
  mood : String
  valence : Score Number
  arousal : Score Number
  curiosity : Score Number
  fatigue : Score Number
  socialOpenness : Score Number
  vitalitySummary : String
  relationshipSummaries : List (RelationshipSummary Number)
  seedConfig : Option Seed
  growthState : Option Growth
  provenanceHash : Option String
  updatedAt : Option String

def said (text : Option String) : Option String :=
  text.filter (· ≠ "")

/-- `relationships[item.principal_id] = item`: a key keeps its place, a new one goes last. -/
def assign (item : RelationshipSummary Number) :
    List (RelationshipSummary Number) → List (RelationshipSummary Number)
  | [] => [item]
  | held :: rest =>
    if held.principalId = item.principalId then item :: rest else held :: assign item rest

/-- `sorted(…, key=lambda item: item.principal_id)`. -/
def sortedByPrincipal (items : List (RelationshipSummary Number)) :
    List (RelationshipSummary Number) :=
  items.mergeSort fun first second => decide (first.principalId ≤ second.principalId)

def Ordered (items : List (RelationshipSummary Number)) : Prop :=
  items.Pairwise fun first second => first.principalId < second.principalId

section Dictionary

variable {item held : RelationshipSummary Number} {items : List (RelationshipSummary Number)}

theorem mem_assign (member : held ∈ assign item items) : held = item ∨ held ∈ items := by
  induction items with
  | nil => exact .inl (List.mem_singleton.mp member)
  | cons first rest ih =>
    unfold assign at member
    split at member
    · rcases List.mem_cons.mp member with same | later
      · exact .inl same
      · exact .inr (List.mem_cons_of_mem first later)
    · rcases List.mem_cons.mp member with same | later
      · exact .inr (List.mem_cons.mpr (.inl same))
      · exact (ih later).imp_right (List.mem_cons_of_mem first)

theorem assign_distinct (distinct : (items.map (·.principalId)).Nodup) :
    ((assign item items).map (·.principalId)).Nodup := by
  induction items with
  | nil => exact List.pairwise_singleton _ _
  | cons first rest ih =>
    obtain ⟨fresh, restDistinct⟩ := List.nodup_cons.mp distinct
    unfold assign
    split
    · rename_i same
      rw [List.map_cons, ← same]
      exact distinct
    · rename_i other
      apply List.nodup_cons.mpr
      refine ⟨fun member => ?_, ih restDistinct⟩
      obtain ⟨found, inside, same⟩ := List.mem_map.mp member
      rcases mem_assign inside with replaced | kept
      · exact other (same.symm.trans (congrArg _ replaced))
      · exact fresh (List.mem_map.mpr ⟨found, kept, same⟩)

theorem start_distinct (held : List (RelationshipSummary Number))
    (distinct : (held.map (·.principalId)).Nodup) :
    ((items.foldl (fun held item => assign item held) held).map (·.principalId)).Nodup := by
  induction items generalizing held with
  | nil => exact distinct
  | cons first rest ih => exact ih _ (assign_distinct distinct)

theorem sorted_ordered (distinct : (items.map (·.principalId)).Nodup) :
    Ordered (sortedByPrincipal items) := by
  have sorted : (sortedByPrincipal items).Pairwise
      (fun first second => decide (first.principalId ≤ second.principalId) = true) := by
    apply List.pairwise_mergeSort
    · intro first second third before after
      exact decide_eq_true ((of_decide_eq_true before).trans (of_decide_eq_true after))
    · intro first second
      simpa using le_total first.principalId second.principalId
  have apart : (sortedByPrincipal items).Pairwise
      (fun first second => first.principalId ≠ second.principalId) := by
    apply List.pairwise_map.mp
    exact ((List.mergeSort_perm items _).map _).nodup_iff.mpr distinct
  apply (sorted.and apart).imp
  intro first second both
  exact lt_of_le_of_ne (of_decide_eq_true both.1) both.2

end Dictionary

structure Progress (Number : Type) where
  mood : String
  valence : Score Number
  arousal : Score Number
  curiosity : Score Number
  fatigue : Score Number
  socialOpenness : Score Number
  relationships : List (RelationshipSummary Number)

section Signals

variable [LinearOrder Number]

def renewed (floats : Floats Number) (signal : PersonaSignal Number) (principal : String)
    (previous : RelationshipSummary Number) : RelationshipSummary Number where
  principalId := principal
  trust := clamp floats (floats.sum previous.trust signal.trustDelta) floats.zero floats.one
  familiarity :=
    clamp floats (floats.sum previous.familiarity signal.familiarityDelta) floats.zero floats.one
  preferredAddress := (said signal.preferredAddress).getD previous.preferredAddress
  boundaries :=
    match said signal.boundaryNote with
    | some note =>
      if note ∈ previous.boundaries then previous.boundaries else previous.boundaries ++ [note]
    | none => previous.boundaries
  lastInteractionReason := some signal.reason

def relate (floats : Floats Number) (signal : PersonaSignal Number)
    (relationships : List (RelationshipSummary Number)) : List (RelationshipSummary Number) :=
  match said signal.principalId with
  | some principal =>
    let previous := (relationships.find? (·.principalId = principal)).getD
      (RelationshipSummary.initial floats principal)
    assign (renewed floats signal principal previous) relationships
  | none => relationships

/-- One pass of the loop of `apply_persona_signals`. -/
def heard (floats : Floats Number) (progress : Progress Number) (signal : PersonaSignal Number) :
    Progress Number where
  mood := (said signal.mood).getD progress.mood
  valence :=
    clamp floats (floats.sum progress.valence signal.valenceDelta) floats.minusOne floats.one
  arousal := clamp floats (floats.sum progress.arousal signal.arousalDelta) floats.zero floats.one
  curiosity :=
    clamp floats (floats.sum progress.curiosity signal.curiosityDelta) floats.zero floats.one
  fatigue := clamp floats (floats.sum progress.fatigue signal.fatigueDelta) floats.zero floats.one
  socialOpenness :=
    clamp floats (floats.sum progress.socialOpenness signal.socialOpennessDelta)
      floats.zero floats.one
  relationships := relate floats signal progress.relationships

/-- The variables before the loop: the dictionary keeps the last item of each principal. -/
def Progress.start (current : PersonaState Number Seed Growth) : Progress Number where
  mood := current.mood
  valence := current.valence
  arousal := current.arousal
  curiosity := current.curiosity
  fatigue := current.fatigue
  socialOpenness := current.socialOpenness
  relationships := current.relationshipSummaries.foldl (fun held item => assign item held) []

/-- `apply_persona_signals`. The last three fields but one are not passed to the constructor. -/
def applyPersonaSignals (floats : Floats Number) (current : PersonaState Number Seed Growth)
    (signals : List (PersonaSignal Number)) (vitalitySummary updatedAt : Option String) :
    PersonaState Number Seed Growth :=
  let final := signals.foldl (heard floats) (Progress.start current)
  { personaId := current.personaId
    version := current.version
    mood := final.mood
    valence := final.valence
    arousal := final.arousal
    curiosity := final.curiosity
    fatigue := final.fatigue
    socialOpenness := final.socialOpenness
    vitalitySummary := (said vitalitySummary).getD current.vitalitySummary
    relationshipSummaries := sortedByPrincipal final.relationships
    seedConfig := none
    growthState := none
    provenanceHash := none
    updatedAt := (said updatedAt).or current.updatedAt }

end Signals

/-- `redact_relationships`, which leaves the same three fields to their defaults. -/
def redactRelationships (current : PersonaState Number Seed Growth) (principalIds : List String)
    (updatedAt : Option String) : PersonaState Number Seed Growth where
  personaId := current.personaId
  version := current.version
  mood := current.mood
  valence := current.valence
  arousal := current.arousal
  curiosity := current.curiosity
  fatigue := current.fatigue
  socialOpenness := current.socialOpenness
  vitalitySummary := current.vitalitySummary
  relationshipSummaries :=
    current.relationshipSummaries.filter (·.principalId ∉ principalIds)
  seedConfig := none
  growthState := none
  provenanceHash := none
  updatedAt := (said updatedAt).or current.updatedAt

section Bounds

variable [LinearOrder Number]

def Rated (floats : Floats Number) (items : List (RelationshipSummary Number)) : Prop :=
  ∀ item ∈ items, Within floats.zero floats.one item.trust ∧
    Within floats.zero floats.one item.familiarity

structure Progress.Bounded (floats : Floats Number) (progress : Progress Number) : Prop where
  valence : Within floats.minusOne floats.one progress.valence
  arousal : Within floats.zero floats.one progress.arousal
  curiosity : Within floats.zero floats.one progress.curiosity
  fatigue : Within floats.zero floats.one progress.fatigue
  socialOpenness : Within floats.zero floats.one progress.socialOpenness
  relationships : Rated floats progress.relationships

structure Bounded (floats : Floats Number) (state : PersonaState Number Seed Growth) : Prop where
  valence : Within floats.minusOne floats.one state.valence
  arousal : Within floats.zero floats.one state.arousal
  curiosity : Within floats.zero floats.one state.curiosity
  fatigue : Within floats.zero floats.one state.fatigue
  socialOpenness : Within floats.zero floats.one state.socialOpenness
  relationships : Rated floats state.relationshipSummaries

section Relationships

variable {floats : Floats Number} {item : RelationshipSummary Number}
  {items : List (RelationshipSummary Number)} {signal : PersonaSignal Number}

theorem start_rated (held : List (RelationshipSummary Number)) (rated : Rated floats items)
    (before : Rated floats held) :
    Rated floats (items.foldl (fun held item => assign item held) held) := by
  induction items generalizing held with
  | nil => exact before
  | cons first rest ih =>
    apply ih
    · exact fun item member => rated item (List.mem_cons_of_mem first member)
    · intro item member
      rcases mem_assign member with same | kept
      · exact same ▸ rated first List.mem_cons_self
      · exact before item kept

theorem relate_distinct (distinct : (items.map (·.principalId)).Nodup) :
    ((relate floats signal items).map (·.principalId)).Nodup := by
  unfold relate
  split
  · exact assign_distinct distinct
  · exact distinct

theorem relate_rated (rated : Rated floats items) : Rated floats (relate floats signal items) := by
  have unit : floats.zero ≤ floats.one := floats.ordered.2.1.trans floats.ordered.2.2
  unfold relate
  split
  · intro item member
    rcases mem_assign member with same | kept
    · rw [same]
      exact ⟨clamp_within floats _ unit, clamp_within floats _ unit⟩
    · exact rated item kept
  · exact rated

end Relationships

section Loop

variable {floats : Floats Number} {progress : Progress Number}
  {signals : List (PersonaSignal Number)} {current : PersonaState Number Seed Growth}

theorem heard_bounded {signal : PersonaSignal Number} (bounded : progress.Bounded floats) :
    (heard floats progress signal).Bounded floats := by
  obtain ⟨low, middle, high⟩ := floats.ordered
  have unit : floats.zero ≤ floats.one := middle.trans high
  constructor
  · exact clamp_within floats _ (low.trans unit)
  · exact clamp_within floats _ unit
  · exact clamp_within floats _ unit
  · exact clamp_within floats _ unit
  · exact clamp_within floats _ unit
  · exact relate_rated bounded.relationships

theorem loop_bounded (bounded : progress.Bounded floats) :
    (signals.foldl (heard floats) progress).Bounded floats := by
  induction signals generalizing progress with
  | nil => exact bounded
  | cons signal rest ih => exact ih (heard_bounded bounded)

theorem loop_distinct (distinct : (progress.relationships.map (·.principalId)).Nodup) :
    ((signals.foldl (heard floats) progress).relationships.map (·.principalId)).Nodup := by
  induction signals generalizing progress with
  | nil => exact distinct
  | cons signal rest ih =>
    apply ih
    exact relate_distinct distinct

theorem start_bounded (bounded : Bounded floats current) :
    (Progress.start current).Bounded floats :=
  ⟨bounded.valence, bounded.arousal, bounded.curiosity, bounded.fatigue, bounded.socialOpenness,
    start_rated [] bounded.relationships (fun _ member => absurd member List.not_mem_nil)⟩

end Loop

section Updates

variable {floats : Floats Number} {current : PersonaState Number Seed Growth}
  {signals : List (PersonaSignal Number)} {principalIds : List String}
  {vitalitySummary updatedAt : Option String}

/-- Applied signals leave ordered relationships, even where there were none. -/
theorem applied_ordered :
    Ordered (applyPersonaSignals floats current signals vitalitySummary
      updatedAt).relationshipSummaries := by
  apply sorted_ordered
  apply loop_distinct
  exact start_distinct [] List.nodup_nil

theorem applied_bounded (bounded : Bounded floats current) :
    Bounded floats (applyPersonaSignals floats current signals vitalitySummary updatedAt) := by
  have final : (signals.foldl (heard floats) (Progress.start current)).Bounded floats :=
    loop_bounded (start_bounded bounded)
  refine ⟨final.valence, final.arousal, final.curiosity, final.fatigue, final.socialOpenness, ?_⟩
  exact fun item member => final.relationships item (List.mem_mergeSort.mp member)

theorem redacted_bounded (bounded : Bounded floats current) :
    Bounded floats (redactRelationships current principalIds updatedAt) := by
  refine ⟨bounded.valence, bounded.arousal, bounded.curiosity, bounded.fatigue,
    bounded.socialOpenness, ?_⟩
  exact fun item member => bounded.relationships item (List.mem_of_mem_filter member)

end Updates

end Bounds

structure SameIdentity (before after : PersonaState Number Seed Growth) : Prop where
  personaId : after.personaId = before.personaId
  version : after.version = before.version
  seedConfig : after.seedConfig = before.seedConfig
  growthState : after.growthState = before.growthState
  provenanceHash : after.provenanceHash = before.provenanceHash

/-- Nothing is recorded in the fields that the updates leave to their defaults. -/
def Unrecorded (state : PersonaState Number Seed Growth) : Prop :=
  state.seedConfig = none ∧ state.growthState = none ∧ state.provenanceHash = none

/-- A redaction removes the relationships of the listed principals and no others. -/
def RemovesExactly (principalIds : List String) (before after : PersonaState Number Seed Growth) :
    Prop :=
  after.relationshipSummaries.Sublist before.relationshipSummaries ∧
    ∀ item, item ∈ after.relationshipSummaries ↔
      item ∈ before.relationshipSummaries ∧ item.principalId ∉ principalIds

theorem redacted_removes {current : PersonaState Number Seed Growth} {principalIds : List String}
    {updatedAt : Option String} :
    RemovesExactly principalIds current (redactRelationships current principalIds updatedAt) := by
  constructor
  · exact List.filter_sublist
  · intro item
    simp [redactRelationships]

/-- An update in good order: the identity stays, the relationships stay ordered with one item
a principal, and scores in their ranges stay there. -/
structure Keeps [LinearOrder Number] (floats : Floats Number)
    (before after : PersonaState Number Seed Growth) : Prop where
  identity : SameIdentity before after
  ordered : Ordered before.relationshipSummaries → Ordered after.relationshipSummaries
  bounded : Bounded floats before → Bounded floats after

/-- Both updates are in good order exactly on a state that has none of the dropped fields. -/
theorem updates_keep_record [LinearOrder Number] (floats : Floats Number)
    (current : PersonaState Number Seed Growth) (signals : List (PersonaSignal Number))
    (principalIds : List String) (vitalitySummary updatedAt : Option String) :
    (Keeps floats current
        (applyPersonaSignals floats current signals vitalitySummary updatedAt) ↔
      Unrecorded current) ∧
    (Keeps floats current (redactRelationships current principalIds updatedAt) ∧
        RemovesExactly principalIds current
          (redactRelationships current principalIds updatedAt) ↔
      Unrecorded current) := by
  constructor
  · constructor
    · intro keeps
      exact ⟨keeps.identity.seedConfig.symm, keeps.identity.growthState.symm,
        keeps.identity.provenanceHash.symm⟩
    · rintro ⟨seedless, ungrown, unhashed⟩
      -- the rebuilt fields are `none` on both sides, everything else never depended on them
      exact ⟨⟨rfl, rfl, seedless.symm, ungrown.symm, unhashed.symm⟩,
        fun _ => applied_ordered, applied_bounded⟩
  · constructor
    · rintro ⟨keeps, _⟩
      exact ⟨keeps.identity.seedConfig.symm, keeps.identity.growthState.symm,
        keeps.identity.provenanceHash.symm⟩
    · rintro ⟨seedless, ungrown, unhashed⟩
      exact ⟨⟨⟨rfl, rfl, seedless.symm, ungrown.symm, unhashed.symm⟩,
        fun ordered => ordered.filter _, redacted_bounded⟩, redacted_removes⟩

theorem tenThousandths_ordered : (-10000 : Int) ≤ 0 ∧ (0 : Int) ≤ 5000 ∧ (5000 : Int) ≤ 10000 := by
  omega

/-- Scores counted in ten-thousandths, which rounding leaves as they are. -/
def tenThousandths : Floats Int where
  sum first second := first.bind fun number => second.map (number + ·)
  round := id
  minusOne := -10000
  zero := 0
  half := 5000
  one := 10000
  ordered := tenThousandths_ordered

/-- A persona after three pieces of evidence: its seed by name, its growth by revision. -/
def grown : PersonaState Int String Nat where
  personaId := "affective-main"
  version := 1
  mood := "steady"
  valence := some 0
  arousal := some 0
  curiosity := some 5000
  fatigue := some 0
  socialOpenness := some 5000
  vitalitySummary := "attentive"
  relationshipSummaries := []
  seedConfig := some "affective-seed"
  growthState := some 3
  provenanceHash := some "5e1f"
  updatedAt := some "2026-05-10T12:00:00Z"

/-- A signal that only wears the persona out. -/
def wearing : PersonaSignal Int where
  reason := "user_input_arousal"
  mood := none
  valenceDelta := some 0
  arousalDelta := some 0
  curiosityDelta := some 0
  fatigueDelta := some 500
  socialOpennessDelta := some 0
  principalId := none
  trustDelta := some 0
  familiarityDelta := some 0
  preferredAddress := none
  boundaryNote := none

/-- One signal, or the redaction of one principal, and the growth record is gone. -/
theorem growth_dropped :
    ¬ Keeps tenThousandths grown (applyPersonaSignals tenThousandths grown [wearing] none none) ∧
    ¬ Keeps tenThousandths grown (redactRelationships grown ["user-01"] none) := by
  constructor
  · intro keeps
    exact absurd keeps.identity.growthState.symm (Option.some_ne_none 3)
  · intro keeps
    exact absurd keeps.identity.growthState.symm (Option.some_ne_none 3)

end NeuroLink.Persona
