import NeuroLink.Persona

/-!
The files of a persona: its seed, its state and its growth record, which each command loads
together, and of which the commands issue a stamp. What a command has written is read back with
the scores clamped and with defaults for empty texts.
-/

namespace NeuroLink.PersonaBundle

open Persona

structure PersonaSeedConfig (Number : Type) where
  personaId : String
  seedName : String
  mood : String
  valence : Score Number
  arousal : Score Number
  curiosity : Score Number
  fatigue : Score Number
  socialOpenness : Score Number
  vitalitySummary : String
  relationshipStyle : String
  immutableBoundaries : List String
  createdAt : Option String

structure PersonaGrowthEvidence where
  eventId : String
  source : String
  reason : String
  recordedAt : String

structure PersonaGrowthState where
  personaId : String
  seedFingerprint : String
  revision : Int
  socialInteractionCount : Int
  unitEventCount : Int
  relationshipSummaryCount : Int
  vitalityEventCount : Int
  selfImprovementCount : Int
  evidenceEventIds : List String
  lastEvidenceSource : Option String
  lastEvidenceReason : Option String
  lastEvidenceAt : Option String
  provenanceHash : String

abbrev State (Number : Type) := PersonaState Number (PersonaSeedConfig Number) PersonaGrowthState

structure Bundle (Number : Type) where
  seedConfig : PersonaSeedConfig Number
  personaState : State Number
  growthState : PersonaGrowthState

inductive Document (Number : Type) where
  | seed (seedConfig : PersonaSeedConfig Number)
  | growth (growthState : PersonaGrowthState)
  | bundle (bundle : Bundle Number)

/-- `text or default`. -/
def orDefault (default text : String) : String := if text = "" then default else text

section Growth

variable {Number : Type} (stableHash : Document Number → String)

def computePersonaSeedFingerprint (seedConfig : PersonaSeedConfig Number) : String :=
  stableHash (.seed seedConfig)

def computePersonaGrowthProvenanceHash (growthState : PersonaGrowthState) : String :=
  stableHash (.growth { growthState with provenanceHash := "" })

def initializePersonaGrowthState (seedConfig : PersonaSeedConfig Number) : PersonaGrowthState :=
  let growthState : PersonaGrowthState := {
    personaId := seedConfig.personaId
    seedFingerprint := computePersonaSeedFingerprint stableHash seedConfig
    revision := 0
    socialInteractionCount := 0
    unitEventCount := 0
    relationshipSummaryCount := 0
    vitalityEventCount := 0
    selfImprovementCount := 0
    evidenceEventIds := []
    lastEvidenceSource := none
    lastEvidenceReason := none
    lastEvidenceAt := none
    provenanceHash := "" }
  { growthState with
    provenanceHash := computePersonaGrowthProvenanceHash stableHash growthState }

/-- What a source of evidence adds to the counts; no other texts are sources. -/
def increments : String → Option (Int × Int × Int × Int × Int)
  | "social_interaction" => some (1, 0, 0, 0, 0)
  | "unit_event" => some (0, 1, 0, 0, 0)
  | "relationship_summary" => some (0, 0, 1, 0, 0)
  | "vitality_transition" => some (0, 0, 0, 1, 0)
  | "self_improvement" => some (0, 0, 0, 0, 1)
  | _ => none

def applyPersonaGrowthEvidence (current : PersonaGrowthState) (evidence : PersonaGrowthEvidence) :
    Except String PersonaGrowthState :=
  match increments evidence.source with
  | none => .error "persona_growth_requires_runtime_evidence"
  | some (social, unit, relationship, vitality, selfImprovement) =>
      if evidence.eventId = "" then .error "persona_growth_requires_event_id"
      else if evidence.eventId ∈ current.evidenceEventIds then
        .error "persona_growth_event_already_recorded"
      else
        let updated : PersonaGrowthState := {
          personaId := current.personaId
          seedFingerprint := current.seedFingerprint
          revision := current.revision + 1
          socialInteractionCount := current.socialInteractionCount + social
          unitEventCount := current.unitEventCount + unit
          relationshipSummaryCount := current.relationshipSummaryCount + relationship
          vitalityEventCount := current.vitalityEventCount + vitality
          selfImprovementCount := current.selfImprovementCount + selfImprovement
          evidenceEventIds := current.evidenceEventIds ++ [evidence.eventId]
          lastEvidenceSource := some evidence.source
          lastEvidenceReason := some evidence.reason
          lastEvidenceAt := some evidence.recordedAt
          provenanceHash := "" }
        .ok { updated with
          provenanceHash := computePersonaGrowthProvenanceHash stableHash updated }

end Growth

section Files

variable {Number : Type} [LinearOrder Number] (stableHash : Document Number → String)
  (floats : Floats Number)

/-- `PersonaSeedConfig.from_dict`, of what `to_dict` wrote. -/
def seedFromDict (written : PersonaSeedConfig Number) : PersonaSeedConfig Number where
  personaId := orDefault "affective-main" written.personaId
  seedName := orDefault "default" written.seedName
  mood := orDefault "steady" written.mood
  valence := clamp floats written.valence floats.minusOne floats.one
  arousal := clamp floats written.arousal floats.zero floats.one
  curiosity := clamp floats written.curiosity floats.zero floats.one
  fatigue := clamp floats written.fatigue floats.zero floats.one
  socialOpenness := clamp floats written.socialOpenness floats.zero floats.one
  vitalitySummary := orDefault "attentive" written.vitalitySummary
  relationshipStyle := orDefault "warm" written.relationshipStyle
  immutableBoundaries := written.immutableBoundaries
  createdAt := written.createdAt

/-- `PersonaGrowthState.from_dict`, of what `to_dict` wrote. -/
def growthFromDict (written : PersonaGrowthState) : PersonaGrowthState :=
  { written with personaId := orDefault "affective-main" written.personaId }

/-- `RelationshipSummary.from_dict`, of what `to_dict` wrote. -/
def relationshipFromDict (written : RelationshipSummary Number) : RelationshipSummary Number :=
  { written with
    principalId := orDefault "unknown" written.principalId
    trust := clamp floats written.trust floats.zero floats.one
    familiarity := clamp floats written.familiarity floats.zero floats.one }

/-- `PersonaState.from_dict`, of what `to_dict` wrote. -/
def stateFromDict (written : State Number) : State Number where
  personaId := orDefault "affective-main" written.personaId
  version := if written.version = 0 then 1 else written.version
  mood := orDefault "steady" written.mood
  valence := clamp floats written.valence floats.minusOne floats.one
  arousal := clamp floats written.arousal floats.zero floats.one
  curiosity := clamp floats written.curiosity floats.zero floats.one
  fatigue := clamp floats written.fatigue floats.zero floats.one
  socialOpenness := clamp floats written.socialOpenness floats.zero floats.one
  vitalitySummary := orDefault "attentive" written.vitalitySummary
  relationshipSummaries := written.relationshipSummaries.map (relationshipFromDict floats)
  seedConfig := written.seedConfig.map (seedFromDict floats)
  growthState := written.growthState.map growthFromDict
  provenanceHash := written.provenanceHash
  updatedAt := written.updatedAt

/-- `initialize_persona_state_from_seed`, which leaves the other fields to their defaults. -/
def initializePersonaStateFromSeed (seedConfig : PersonaSeedConfig Number)
    (updatedAt : Option String) : State Number where
  personaId := seedConfig.personaId
  version := 1
  mood := seedConfig.mood
  valence := seedConfig.valence
  arousal := seedConfig.arousal
  curiosity := seedConfig.curiosity
  fatigue := seedConfig.fatigue
  socialOpenness := seedConfig.socialOpenness
  vitalitySummary := seedConfig.vitalitySummary
  relationshipSummaries := []
  seedConfig := none
  growthState := none
  provenanceHash := none
  updatedAt := (said updatedAt).or seedConfig.createdAt

def bound (bundle : Bundle Number) : State Number :=
  { bundle.personaState with
    seedConfig := some bundle.seedConfig
    growthState := some bundle.growthState
    provenanceHash := some ((said bundle.personaState.provenanceHash).getD
      bundle.growthState.seedFingerprint)
    updatedAt := (said bundle.personaState.updatedAt).or bundle.seedConfig.createdAt }

/-- `_bind_persona_bundle`. -/
def bindPersonaBundle (bundle : Bundle Number) : Except String (State Number) :=
  if bundle.personaState.personaId ≠ bundle.seedConfig.personaId then
    .error "persona_bundle_persona_id_mismatch"
  else if bundle.growthState.personaId ≠ bundle.seedConfig.personaId then
    .error "persona_growth_persona_id_mismatch"
  else if bundle.growthState.seedFingerprint ≠
      computePersonaSeedFingerprint stableHash bundle.seedConfig then
    .error "persona_growth_seed_fingerprint_mismatch"
  else .ok (stateFromDict floats (bound bundle))

/-- `_load_persona_bundle_from_files`. -/
def loadPersonaBundle (files : Bundle Number) : Except String (Bundle Number) := do
  let loaded : Bundle Number := {
    seedConfig := seedFromDict floats files.seedConfig
    personaState := stateFromDict floats files.personaState
    growthState := growthFromDict files.growthState }
  let personaState ← bindPersonaBundle stableHash floats loaded
  return { loaded with personaState }

def computePersonaImmutabilityStamp (bundle : Bundle Number) : String :=
  stableHash (.bundle bundle)

def personaImmutabilityTampered (expectedStamp : String) (bundle : Bundle Number) : Bool :=
  expectedStamp != computePersonaImmutabilityStamp stableHash bundle

structure Written (Number : Type) where
  bundle : Bundle Number
  immutabilityStamp : String

/-- `_build_persona_seed_setup_payload`. -/
def personaSeedSetup (seedConfig : PersonaSeedConfig Number) : Except String (Written Number) := do
  let growthState := initializePersonaGrowthState stableHash seedConfig
  let personaState ← bindPersonaBundle stableHash floats ⟨seedConfig,
    initializePersonaStateFromSeed seedConfig seedConfig.createdAt, growthState⟩
  let bundle : Bundle Number := ⟨seedConfig, personaState, growthState⟩
  return ⟨bundle, computePersonaImmutabilityStamp stableHash bundle⟩

/-- `build_persona_growth_apply`. -/
def personaGrowthApply (loaded : Bundle Number) (evidence : PersonaGrowthEvidence) :
    Except String (Written Number) := do
  let updatedGrowth ← applyPersonaGrowthEvidence stableHash loaded.growthState evidence
  let updatedPersona ← bindPersonaBundle stableHash floats ⟨loaded.seedConfig,
    stateFromDict floats { loaded.personaState with
      growthState := some updatedGrowth
      updatedAt := some evidence.recordedAt
      provenanceHash := some updatedGrowth.provenanceHash }, updatedGrowth⟩
  let bundle : Bundle Number := ⟨loaded.seedConfig, updatedPersona, updatedGrowth⟩
  return ⟨bundle, computePersonaImmutabilityStamp stableHash bundle⟩

/-- `build_persona_state_export`; the stamp is that of the state before the redaction. -/
def personaStateExport (loaded : Bundle Number) (redactPrincipalIds : List String) :
    Except String (Written Number) := do
  let exportedState := if redactPrincipalIds = [] then loaded.personaState
    else redactRelationships loaded.personaState redactPrincipalIds none
  let exportedState ← bindPersonaBundle stableHash floats { loaded with
    personaState := exportedState }
  return ⟨{ loaded with personaState := exportedState },
    computePersonaImmutabilityStamp stableHash loaded⟩

/-- `build_persona_state_inspect`. -/
def personaStateInspect (loaded : Bundle Number) : Except String (Written Number) := do
  let boundPersona ← bindPersonaBundle stableHash floats loaded
  let bundle : Bundle Number := { loaded with personaState := boundPersona }
  return ⟨bundle, computePersonaImmutabilityStamp stableHash bundle⟩

/-- `build_persona_state_delete`, of some relationships only. -/
def personaStateDelete (loaded : Bundle Number) (principalIds : List String) :
    Except String (Bundle Number) := do
  let updatedPersona ← bindPersonaBundle stableHash floats { loaded with
    personaState := redactRelationships loaded.personaState principalIds none }
  return { loaded with personaState := updatedPersona }

/-- `persona-tamper-report`: whether the files are taken to be tampered with. -/
def personaTamperReport (files : Bundle Number) (expectedStamp : String) : Except String Bool := do
  let loaded ← loadPersonaBundle stableHash floats files
  return personaImmutabilityTampered stableHash expectedStamp loaded

end Files

section Binding

variable {Number : Type}

theorem said_some {text : String} (named : text ≠ "") : said (some text) = some text :=
  Option.filter_eq_some_iff.mpr ⟨rfl, decide_eq_true named⟩

theorem said_cases (text : Option String) :
    said text = none ∨ ∃ found, found ≠ "" ∧ text = some found ∧ said text = some found := by
  cases text with
  | none => exact .inl rfl
  | some found =>
      by_cases named : found = ""
      · rw [named]
        exact .inl rfl
      · exact .inr ⟨found, named, rfl, said_some named⟩

theorem said_getD_again (text : Option String) (other : String) :
    (said (some ((said text).getD other))).getD other = (said text).getD other := by
  rcases said_cases text with silent | ⟨found, named, _, heard⟩
  · rw [silent, Option.getD_none]
    rcases said_cases (some other) with empty | ⟨found, _, same, heard⟩
    · rw [empty, Option.getD_none]
    · rw [heard, Option.getD_some, Option.some.inj same]
  · rw [heard, Option.getD_some, said_some named, Option.getD_some]

theorem said_or_again (text other : Option String) :
    (said ((said text).or other)).or other = (said text).or other := by
  rcases said_cases text with silent | ⟨found, named, _, heard⟩
  · rw [silent, Option.none_or]
    rcases said_cases other with empty | ⟨found, _, same, heard⟩
    · rw [empty, Option.none_or]
    · rw [heard, same, Option.or_self]
  · rw [heard, Option.some_or, said_some named, Option.some_or]

theorem bound_bound (bundle : Bundle Number) :
    bound { bundle with personaState := bound bundle } = bound bundle := by
  rw [bound, bound]
  dsimp only
  rw [said_getD_again, said_or_again]

/-- A redaction changes what is bound unless there is nothing to redact and the state goes back
to the fingerprint of the seed. -/
theorem bound_redact_iff (bundle : Bundle Number) (principalIds : List String) :
    bound { bundle with
        personaState := redactRelationships (bound bundle) principalIds none } = bound bundle ↔
      (∀ item ∈ (bound bundle).relationshipSummaries, item.principalId ∉ principalIds) ∧
        (bound bundle).provenanceHash = some bundle.growthState.seedFingerprint := by
  constructor
  · intro same
    have kept : (bound bundle).relationshipSummaries.filter
        (fun item => decide (item.principalId ∉ principalIds)) =
          (bound bundle).relationshipSummaries :=
      congrArg PersonaState.relationshipSummaries same
    refine ⟨fun item member => ?_, (congrArg PersonaState.provenanceHash same).symm⟩
    exact of_decide_eq_true (List.filter_eq_self.mp kept item member)
  · rintro ⟨kept, seeded⟩
    have whole : (bound bundle).relationshipSummaries.filter
        (fun item => decide (item.principalId ∉ principalIds)) =
          (bound bundle).relationshipSummaries :=
      List.filter_eq_self.mpr fun item member => decide_eq_true (kept item member)
    have dated : (said (bound bundle).updatedAt).or bundle.seedConfig.createdAt =
        (bound bundle).updatedAt := said_or_again _ _
    have redacted : bound { bundle with
        personaState := redactRelationships (bound bundle) principalIds none } =
          { bound bundle with
            relationshipSummaries := (bound bundle).relationshipSummaries.filter
              (fun item => decide (item.principalId ∉ principalIds))
            provenanceHash := some bundle.growthState.seedFingerprint
            updatedAt := (said (bound bundle).updatedAt).or bundle.seedConfig.createdAt } := rfl
    rw [redacted, whole, dated, ← seeded]

end Binding

/-! Scores and texts that are read back as they were written. -/

section Reading

variable {Number : Type} [LinearOrder Number]

/-- Rounding leaves what is rounded, and the bounds of the scores. -/
structure Rounds (floats : Floats Number) : Prop where
  again : ∀ value, floats.round (floats.round value) = floats.round value
  minusOne : floats.round (some floats.minusOne) = some floats.minusOne
  zero : floats.round (some floats.zero) = some floats.zero
  one : floats.round (some floats.one) = some floats.one

variable {floats : Floats Number}

theorem orDefault_eq {default text : String} (named : text ≠ "") : orDefault default text = text :=
  if_neg named

theorem ne_empty_of_orDefault {default text : String} (some : default ≠ "")
    (same : orDefault default text = text) : text ≠ "" := by
  rintro rfl
  exact some same

theorem clamp_fixed {value : Score Number} {minimum maximum : Number}
    (rounded : floats.round value = value) (within : Within minimum maximum value) :
    clamp floats value minimum maximum = value := by
  obtain ⟨number, rfl, low, high⟩ := within
  have least : pyMin (some maximum) (some number) = some number := by
    rcases high.lt_or_eq with below | rfl
    · exact if_pos (decide_eq_true below)
    · exact ite_self _
  rw [clamp, rounded, least]
  rcases low.lt_or_eq with above | rfl
  · exact if_pos (decide_eq_true above)
  · exact ite_self _

theorem clamp_clamp (rounds : Rounds floats) {minimum maximum : Number}
    (ordered : minimum ≤ maximum) (first : floats.round (some minimum) = some minimum)
    (last : floats.round (some maximum) = some maximum) (value : Score Number) :
    clamp floats (clamp floats value minimum maximum) minimum maximum =
      clamp floats value minimum maximum := by
  apply clamp_fixed _ (clamp_within floats value ordered)
  rw [clamp, pyMax]
  split
  · rw [pyMin]
    split
    · exact rounds.again value
    · exact last
  · exact first

theorem clamp_unit (rounds : Rounds floats) (value : Score Number) :
    clamp floats (clamp floats value floats.zero floats.one) floats.zero floats.one =
      clamp floats value floats.zero floats.one :=
  clamp_clamp rounds (floats.ordered.2.1.trans floats.ordered.2.2) rounds.zero rounds.one value

def Kept (floats : Floats Number) (item : RelationshipSummary Number) : Prop :=
  relationshipFromDict floats item = item

/-- A state that is read back as it was written, but for the records it belongs to. -/
structure Normal (floats : Floats Number) (state : State Number) : Prop where
  personaId : state.personaId ≠ ""
  version : state.version ≠ 0
  mood : state.mood ≠ ""
  vitalitySummary : state.vitalitySummary ≠ ""
  valence : clamp floats state.valence floats.minusOne floats.one = state.valence
  arousal : clamp floats state.arousal floats.zero floats.one = state.arousal
  curiosity : clamp floats state.curiosity floats.zero floats.one = state.curiosity
  fatigue : clamp floats state.fatigue floats.zero floats.one = state.fatigue
  socialOpenness :
    clamp floats state.socialOpenness floats.zero floats.one = state.socialOpenness
  relationships : ∀ item ∈ state.relationshipSummaries, Kept floats item

theorem stateFromDict_normal {state : State Number} (normal : Normal floats state) :
    stateFromDict floats state = { state with
      seedConfig := state.seedConfig.map (seedFromDict floats)
      growthState := state.growthState.map growthFromDict } := by
  rw [stateFromDict, orDefault_eq normal.personaId, if_neg normal.version,
    orDefault_eq normal.mood, orDefault_eq normal.vitalitySummary, normal.valence,
    normal.arousal, normal.curiosity, normal.fatigue, normal.socialOpenness,
    List.map_congr_left normal.relationships, List.map_id']

theorem growthFromDict_eq {growthState : PersonaGrowthState} (named : growthState.personaId ≠ "") :
    growthFromDict growthState = growthState := by
  rw [growthFromDict, orDefault_eq named]

end Reading

section Signals

variable {Number : Type} [LinearOrder Number] {floats : Floats Number}
  {items : List (RelationshipSummary Number)} {progress : Progress Number}

theorem start_kept (held : List (RelationshipSummary Number))
    (kept : ∀ item ∈ items, Kept floats item) (before : ∀ item ∈ held, Kept floats item) :
    ∀ item ∈ items.foldl (fun held item => assign item held) held, Kept floats item := by
  induction items generalizing held with
  | nil => exact before
  | cons first rest ih =>
      obtain ⟨here, later⟩ := List.forall_mem_cons.mp kept
      apply ih _ later
      intro item member
      rcases mem_assign member with rfl | old
      · exact here
      · exact before item old

theorem relate_kept (rounds : Rounds floats) (signal : PersonaSignal Number)
    (kept : ∀ item ∈ items, Kept floats item) :
    ∀ item ∈ relate floats signal items, Kept floats item := by
  rw [relate]
  split
  next principal named =>
    intro item member
    rcases mem_assign member with rfl | old
    · have some : principal ≠ "" := of_decide_eq_true (Option.filter_eq_some_iff.mp named).2
      rw [Kept, relationshipFromDict, renewed, orDefault_eq some]
      dsimp only
      rw [clamp_unit rounds, clamp_unit rounds]
    · exact kept item old
  · exact kept

structure Holds (floats : Floats Number) (progress : Progress Number) : Prop where
  mood : progress.mood ≠ ""
  valence : clamp floats progress.valence floats.minusOne floats.one = progress.valence
  arousal : clamp floats progress.arousal floats.zero floats.one = progress.arousal
  curiosity : clamp floats progress.curiosity floats.zero floats.one = progress.curiosity
  fatigue : clamp floats progress.fatigue floats.zero floats.one = progress.fatigue
  socialOpenness :
    clamp floats progress.socialOpenness floats.zero floats.one = progress.socialOpenness
  relationships : ∀ item ∈ progress.relationships, Kept floats item

theorem said_getD {text : Option String} {other : String} (named : other ≠ "") :
    (said text).getD other ≠ "" := by
  rcases said_cases text with silent | ⟨found, some, _, heard⟩
  · rw [silent]
    exact named
  · rw [heard]
    exact some

theorem heard_holds (rounds : Rounds floats) (signal : PersonaSignal Number)
    (holds : Holds floats progress) : Holds floats (heard floats progress signal) where
  mood := said_getD holds.mood
  valence := clamp_clamp rounds (floats.ordered.1.trans (floats.ordered.2.1.trans
    floats.ordered.2.2)) rounds.minusOne rounds.one _
  arousal := clamp_unit rounds _
  curiosity := clamp_unit rounds _
  fatigue := clamp_unit rounds _
  socialOpenness := clamp_unit rounds _
  relationships := relate_kept rounds signal holds.relationships

theorem loop_holds (rounds : Rounds floats) (signals : List (PersonaSignal Number))
    (holds : Holds floats progress) : Holds floats (signals.foldl (heard floats) progress) := by
  induction signals generalizing progress with
  | nil => exact holds
  | cons signal rest ih => exact ih (heard_holds rounds signal holds)

theorem signals_normal (rounds : Rounds floats) {state : State Number}
    (normal : Normal floats state) (signals : List (PersonaSignal Number))
    (vitalitySummary updatedAt : Option String) :
    Normal floats (applyPersonaSignals floats state signals vitalitySummary updatedAt) := by
  have start : Holds floats (Progress.start state) :=
    ⟨normal.mood, normal.valence, normal.arousal, normal.curiosity, normal.fatigue,
      normal.socialOpenness,
      start_kept [] normal.relationships fun _ member => absurd member List.not_mem_nil⟩
  have final := loop_holds rounds signals start
  exact ⟨normal.personaId, normal.version, final.mood, said_getD normal.vitalitySummary,
    final.valence, final.arousal, final.curiosity, final.fatigue, final.socialOpenness,
    fun item member => final.relationships item (List.mem_mergeSort.mp member)⟩

theorem redact_normal {state : State Number} (normal : Normal floats state)
    (principalIds : List String) :
    Normal floats (redactRelationships state principalIds none) :=
  ⟨normal.personaId, normal.version, normal.mood, normal.vitalitySummary, normal.valence,
    normal.arousal, normal.curiosity, normal.fatigue, normal.socialOpenness,
    fun item member => normal.relationships item (List.mem_of_mem_filter member)⟩

end Signals

section Growing

variable {Number : Type} (stableHash : Document Number → String)

/-- A growth record of the seed that counts the evidence it lists, each once. -/
structure Grown (seedConfig : PersonaSeedConfig Number) (growthState : PersonaGrowthState) :
    Prop where
  personaId : growthState.personaId = seedConfig.personaId
  seedFingerprint :
    growthState.seedFingerprint = computePersonaSeedFingerprint stableHash seedConfig
  revision : growthState.revision = growthState.evidenceEventIds.length
  counted : growthState.socialInteractionCount + growthState.unitEventCount +
    growthState.relationshipSummaryCount + growthState.vitalityEventCount +
      growthState.selfImprovementCount = growthState.revision
  distinct : growthState.evidenceEventIds.Nodup
  named : "" ∉ growthState.evidenceEventIds
  provenanceHash :
    growthState.provenanceHash = computePersonaGrowthProvenanceHash stableHash growthState

variable {stableHash} {seedConfig : PersonaSeedConfig Number}

theorem initialize_grown :
    Grown stableHash seedConfig (initializePersonaGrowthState stableHash seedConfig) where
  personaId := rfl
  seedFingerprint := rfl
  revision := rfl
  counted := rfl
  distinct := List.nodup_nil
  named := List.not_mem_nil
  provenanceHash := rfl

theorem increments_one {source : String} {social unit relationship vitality improvement : Int}
    (known : increments source = some (social, unit, relationship, vitality, improvement)) :
    social + unit + relationship + vitality + improvement = 1 := by
  unfold increments at known
  split at known
  all_goals cases known
  all_goals rfl

theorem apply_grown {current next : PersonaGrowthState} {evidence : PersonaGrowthEvidence}
    (grown : Grown stableHash seedConfig current)
    (accepted : applyPersonaGrowthEvidence stableHash current evidence = .ok next) :
    Grown stableHash seedConfig next ∧
      next.evidenceEventIds = current.evidenceEventIds ++ [evidence.eventId] := by
  rw [applyPersonaGrowthEvidence] at accepted
  split at accepted
  · cases accepted
  next social unit relationship vitality improvement known =>
    split_ifs at accepted with nameless twice
    cases accepted
    have one := increments_one known
    have counted := grown.counted
    refine ⟨⟨grown.personaId, grown.seedFingerprint, ?_, ?_, ?_, ?_, rfl⟩, rfl⟩
    · dsimp only
      rw [grown.revision, List.length_append, List.length_singleton, Int.natCast_add]
      rfl
    · dsimp only
      omega
    · exact List.nodup_append.mpr ⟨grown.distinct, List.pairwise_singleton _ _, by
        rintro id inside other last rfl
        exact twice (List.mem_singleton.mp last ▸ inside)⟩
    · intro inside
      rcases List.mem_append.mp inside with old | last
      · exact grown.named old
      · exact nameless (List.mem_singleton.mp last).symm

end Growing

section Commands

variable {Number : Type} [LinearOrder Number] (stableHash : Document Number → String)
  (floats : Floats Number)

/-- What is done to the files of a persona. The signals are applied as the smoke of the persona
state does, the others are commands. -/
inductive Command (Number : Type) where
  | growthApply (evidence : PersonaGrowthEvidence)
  | stateExport (redactPrincipalIds : List String)
  | stateInspect
  | stateDelete (principalIds : List String)
  | signals (signals : List (PersonaSignal Number)) (vitalitySummary updatedAt : Option String)

/-- The files after a command, and the stamp it reports. -/
def run (files : Bundle Number) (command : Command Number) :
    Except String (Bundle Number × Option String) := do
  let loaded ← loadPersonaBundle stableHash floats files
  match command with
  | .growthApply evidence =>
      let written ← personaGrowthApply stableHash floats loaded evidence
      return (written.bundle, some written.immutabilityStamp)
  | .stateExport redactPrincipalIds =>
      let written ← personaStateExport stableHash floats loaded redactPrincipalIds
      return (written.bundle, some written.immutabilityStamp)
  | .stateInspect =>
      let written ← personaStateInspect stableHash floats loaded
      return (written.bundle, some written.immutabilityStamp)
  | .stateDelete principalIds =>
      let bundle ← personaStateDelete stableHash floats loaded principalIds
      return (bundle, none)
  | .signals signals vitalitySummary updatedAt =>
      let personaState :=
        applyPersonaSignals floats loaded.personaState signals vitalitySummary updatedAt
      return ({ loaded with personaState }, none)

/-- A command that raises writes nothing. -/
def step (files : Bundle Number) (command : Command Number) : Bundle Number :=
  match run stableHash floats files command with
  | .ok (after, _) => after
  | .error _ => files

/-- The command runs: it drops no evidence, and a stamp that it reports is that of the files
it writes, unless it redacts an export. -/
def Runs (files : Bundle Number) (command : Command Number) : Prop :=
  ∃ after stamp, run stableHash floats files command = .ok (after, stamp) ∧
    files.growthState.evidenceEventIds <+: after.growthState.evidenceEventIds ∧
    ((∀ principalIds ≠ [], command ≠ .stateExport principalIds) →
      ∀ issued, stamp = some issued →
        personaTamperReport stableHash floats after issued = .ok false)

def Refuses (files : Bundle Number) (command : Command Number) : Prop :=
  ∃ evidence raised, command = .growthApply evidence ∧
    applyPersonaGrowthEvidence stableHash files.growthState evidence = .error raised ∧
    run stableHash floats files command = .error raised

structure Sound (files : Bundle Number) : Prop where
  seed : seedFromDict floats files.seedConfig = files.seedConfig
  growth : Grown stableHash files.seedConfig files.growthState
  owner : files.personaState.personaId = files.seedConfig.personaId
  state : Normal floats files.personaState

variable {stableHash} {floats} {files : Bundle Number}

theorem Sound.named (sound : Sound stableHash floats files) : files.seedConfig.personaId ≠ "" :=
  ne_empty_of_orDefault (by decide) (congrArg PersonaSeedConfig.personaId sound.seed)

/-- Records of one persona are bound unless the growth record is of another seed. -/
theorem bind_owned (owner : files.personaState.personaId = files.seedConfig.personaId)
    (grown : files.growthState.personaId = files.seedConfig.personaId) :
    bindPersonaBundle stableHash floats files =
      if files.growthState.seedFingerprint =
          computePersonaSeedFingerprint stableHash files.seedConfig then
        .ok (stateFromDict floats (bound files))
      else .error "persona_growth_seed_fingerprint_mismatch" := by
  rw [bindPersonaBundle, if_neg (not_not.mpr owner), if_neg (not_not.mpr grown), ite_not]

theorem Sound.bind (sound : Sound stableHash floats files) :
    bindPersonaBundle stableHash floats files = .ok (bound files) := by
  have normal : Normal floats (bound files) := { sound.state with }
  have named : files.growthState.personaId ≠ "" := sound.growth.personaId ▸ sound.named
  rw [bind_owned sound.owner sound.growth.personaId, if_pos sound.growth.seedFingerprint,
    stateFromDict_normal normal]
  congr 1
  rw [bound]
  dsimp only
  rw [Option.map_some, Option.map_some, sound.seed, growthFromDict_eq named]

theorem Sound.rebound (sound : Sound stableHash floats files) :
    Sound stableHash floats { files with personaState := bound files } :=
  { sound with state := { sound.state with } }

theorem Sound.load (sound : Sound stableHash floats files) :
    loadPersonaBundle stableHash floats files =
      .ok { files with personaState := bound files } := by
  have named : files.growthState.personaId ≠ "" := sound.growth.personaId ▸ sound.named
  have read : Sound stableHash floats { files with
      personaState := stateFromDict floats files.personaState } := by
    rw [stateFromDict_normal sound.state]
    exact { sound with state := { sound.state with } }
  rw [loadPersonaBundle, sound.seed, growthFromDict_eq named]
  dsimp only
  rw [read.bind, stateFromDict_normal sound.state]
  rfl

theorem Sound.tamperReport (sound : Sound stableHash floats files) (stamp : String) :
    personaTamperReport stableHash floats files stamp = .ok (stamp !=
      stableHash (.bundle { files with personaState := bound files })) := by
  rw [personaTamperReport, sound.load]
  rfl

/-- The stamp of a bound state is that of the files it is written to. -/
theorem Sound.verifies (sound : Sound stableHash floats files) :
    personaTamperReport stableHash floats { files with personaState := bound files }
      (stableHash (.bundle { files with personaState := bound files })) = .ok false := by
  rw [sound.rebound.tamperReport, bound_bound, bne_self_eq_false]

theorem growthApply_sound {next : PersonaGrowthState} {evidence : PersonaGrowthEvidence}
    (sound : Sound stableHash floats files)
    (accepted : applyPersonaGrowthEvidence stableHash files.growthState evidence = .ok next) :
    ∃ state, Sound stableHash floats ⟨files.seedConfig, state, next⟩ ∧
      personaGrowthApply stableHash floats { files with personaState := bound files } evidence =
        .ok ⟨⟨files.seedConfig, bound ⟨files.seedConfig, state, next⟩, next⟩, stableHash
          (.bundle ⟨files.seedConfig, bound ⟨files.seedConfig, state, next⟩, next⟩)⟩ := by
  have grown := (apply_grown sound.growth accepted).1
  have named : next.personaId ≠ "" := grown.personaId ▸ sound.named
  have normal : Normal floats { bound files with
      growthState := some next
      updatedAt := some evidence.recordedAt
      provenanceHash := some next.provenanceHash } := { sound.state with }
  have grownSound : Sound stableHash floats ⟨files.seedConfig, stateFromDict floats
      { bound files with
        growthState := some next
        updatedAt := some evidence.recordedAt
        provenanceHash := some next.provenanceHash }, next⟩ := by
    rw [stateFromDict_normal normal]
    exact ⟨sound.seed, grown, sound.owner, { normal with }⟩
  refine ⟨_, grownSound, ?_⟩
  rw [personaGrowthApply, accepted]
  dsimp only [bind, Except.bind]
  rw [grownSound.bind]
  rfl

theorem redact_sound (sound : Sound stableHash floats files) (principalIds : List String) :
    Sound stableHash floats
      { files with personaState := redactRelationships (bound files) principalIds none } :=
  { sound with state := redact_normal sound.rebound.state principalIds }

theorem signals_sound (rounds : Rounds floats) (sound : Sound stableHash floats files)
    (signals : List (PersonaSignal Number)) (vitalitySummary updatedAt : Option String) :
    Sound stableHash floats ⟨files.seedConfig,
      applyPersonaSignals floats (bound files) signals vitalitySummary updatedAt,
      files.growthState⟩ :=
  { sound with
    state := signals_normal rounds sound.rebound.state signals vitalitySummary updatedAt }

structure Leaves (stableHash : Document Number → String) (floats : Floats Number)
    (files after : Bundle Number) : Prop where
  sound : Sound stableHash floats after
  seedConfig : after.seedConfig = files.seedConfig
  evidence : files.growthState.evidenceEventIds <+: after.growthState.evidenceEventIds

/-- The export of a state: what it writes, and what its stamp is of. -/
theorem stateExport_sound (sound : Sound stableHash floats files)
    (redactPrincipalIds : List String) : ∃ state,
    Sound stableHash floats { files with personaState := state } ∧
      personaStateExport stableHash floats { files with personaState := bound files }
          redactPrincipalIds =
        .ok ⟨{ files with personaState := bound { files with personaState := state } },
          stableHash (.bundle { files with personaState := bound files })⟩ ∧
      state = if redactPrincipalIds = [] then bound files
        else redactRelationships (bound files) redactPrincipalIds none := by
  refine ⟨_, ?_, ?_, rfl⟩
  · split
    · exact sound.rebound
    · exact redact_sound sound redactPrincipalIds
  · rw [personaStateExport]
    dsimp only
    split
    · rw [sound.rebound.bind]
      rfl
    · rw [(redact_sound sound redactPrincipalIds).bind]
      rfl

theorem run_growthApply {loaded : Bundle Number} {written : Written Number}
    {evidence : PersonaGrowthEvidence}
    (loads : loadPersonaBundle stableHash floats files = .ok loaded)
    (wrote : personaGrowthApply stableHash floats loaded evidence = .ok written) :
    run stableHash floats files (.growthApply evidence) =
      .ok (written.bundle, some written.immutabilityStamp) := by
  rw [run, loads]
  dsimp only [bind, Except.bind]
  rw [wrote]
  rfl

theorem run_stateExport {loaded : Bundle Number} {written : Written Number}
    {principalIds : List String} (loads : loadPersonaBundle stableHash floats files = .ok loaded)
    (wrote : personaStateExport stableHash floats loaded principalIds = .ok written) :
    run stableHash floats files (.stateExport principalIds) =
      .ok (written.bundle, some written.immutabilityStamp) := by
  rw [run, loads]
  dsimp only [bind, Except.bind]
  rw [wrote]
  rfl

theorem run_sound (rounds : Rounds floats) (sound : Sound stableHash floats files)
    (command : Command Number) :
    (∃ after stamp, run stableHash floats files command = .ok (after, stamp) ∧
        Leaves stableHash floats files after ∧
        ((∀ principalIds ≠ [], command ≠ .stateExport principalIds) →
          ∀ issued, stamp = some issued →
            personaTamperReport stableHash floats after issued = .ok false)) ∨
      Refuses stableHash floats files command := by
  cases command with
  | growthApply evidence =>
      cases applied : applyPersonaGrowthEvidence stableHash files.growthState evidence with
      -- evidence that is refused: the command raises what is raised for it
      | error raised =>
          refine .inr ⟨evidence, raised, rfl, applied, ?_⟩
          rw [run, sound.load]
          dsimp only [bind, Except.bind]
          rw [personaGrowthApply, applied]
          rfl
      | ok next =>
          obtain ⟨state, grown, ran⟩ := growthApply_sound sound applied
          refine .inl ⟨_, _, run_growthApply sound.load ran, ⟨grown.rebound, rfl, ?_⟩, ?_⟩
          · exact ⟨_, (apply_grown sound.growth applied).2.symm⟩
          · rintro - issued ⟨⟩
            exact grown.verifies
  | stateExport redactPrincipalIds =>
      obtain ⟨state, exported, ran, chosen⟩ := stateExport_sound sound redactPrincipalIds
      refine .inl ⟨_, _, run_stateExport sound.load ran,
        ⟨exported.rebound, rfl, List.prefix_refl _⟩, ?_⟩
      rintro whole issued ⟨⟩
      -- only an export that redacts nothing keeps its stamp
      have none : redactPrincipalIds = [] := by
        by_contra some
        exact whole redactPrincipalIds some rfl
      rw [chosen, if_pos none, bound_bound]
      exact sound.verifies
  | stateInspect =>
      refine .inl ⟨{ files with personaState := bound files },
        some (stableHash (.bundle { files with personaState := bound files })), ?_,
        ⟨sound.rebound, rfl, List.prefix_refl _⟩, ?_⟩
      · rw [run, sound.load]
        dsimp only [bind, Except.bind]
        rw [personaStateInspect, sound.rebound.bind, bound_bound]
        rfl
      · rintro - issued ⟨⟩
        exact sound.verifies
  | stateDelete principalIds =>
      have deleted := redact_sound sound principalIds
      refine .inl ⟨_, none, ?_, ⟨deleted.rebound, rfl, List.prefix_refl _⟩, ?_⟩
      · rw [run, sound.load]
        dsimp only [bind, Except.bind]
        rw [personaStateDelete, deleted.bind]
        rfl
      · rintro - issued ⟨⟩
  | signals signals vitalitySummary updatedAt =>
      have moved := signals_sound rounds sound signals vitalitySummary updatedAt
      refine .inl ⟨_, none, ?_, ⟨moved, rfl, List.prefix_refl _⟩, ?_⟩
      · rw [run, sound.load]
        rfl
      · rintro - issued ⟨⟩

theorem step_sound (rounds : Rounds floats) (sound : Sound stableHash floats files)
    (command : Command Number) :
    Leaves stableHash floats files (step stableHash floats files command) := by
  obtain ⟨after, stamp, ran, leaves, _⟩ | ⟨_, _, _, _, refused⟩ :=
    run_sound rounds sound command
  · rw [step, ran]
    exact leaves
  · rw [step, refused]
    exact ⟨sound, rfl, List.prefix_refl _⟩

theorem steps_sound (rounds : Rounds floats) (sound : Sound stableHash floats files)
    (commands : List (Command Number)) :
    Leaves stableHash floats files (commands.foldl (step stableHash floats) files) := by
  induction commands generalizing files with
  | nil => exact ⟨sound, rfl, List.prefix_refl _⟩
  | cons command rest ih =>
      have first := step_sound rounds sound command
      have last := ih first.sound
      exact ⟨last.sound, last.seedConfig.trans first.seedConfig,
        first.evidence.trans last.evidence⟩

theorem seedSetup_sound (stableHash : Document Number → String)
    {seedConfig : PersonaSeedConfig Number}
    (normal : seedFromDict floats seedConfig = seedConfig) : ∃ files,
    Sound stableHash floats files ∧ files.seedConfig = seedConfig ∧
      personaSeedSetup stableHash floats seedConfig =
        .ok ⟨{ files with personaState := bound files },
          stableHash (.bundle { files with personaState := bound files })⟩ := by
  have part {Part : Type} (field : PersonaSeedConfig Number → Part) :
      field (seedFromDict floats seedConfig) = field seedConfig := congrArg field normal
  have sound : Sound stableHash floats ⟨seedConfig,
      initializePersonaStateFromSeed seedConfig seedConfig.createdAt,
      initializePersonaGrowthState stableHash seedConfig⟩ :=
    ⟨normal, initialize_grown, rfl, ne_empty_of_orDefault (by decide) (part (·.personaId)),
      one_ne_zero, ne_empty_of_orDefault (by decide) (part (·.mood)),
      ne_empty_of_orDefault (by decide) (part (·.vitalitySummary)), part (·.valence),
      part (·.arousal), part (·.curiosity), part (·.fatigue), part (·.socialOpenness),
      fun _ member => absurd member List.not_mem_nil⟩
  refine ⟨_, sound, rfl, ?_⟩
  rw [personaSeedSetup]
  dsimp only
  rw [sound.bind]
  rfl

/-- Whatever is done to the files that the setup writes of the seed, they can be loaded: the
seed stays, the growth record counts the evidence it lists, each once, and every command runs or
refuses its evidence; the stamp of the setup and of every command but a redacted export is that
of the files it writes. -/
def Keeps (stableHash : Document Number → String) (floats : Floats Number)
    (seedConfig : PersonaSeedConfig Number) : Prop :=
  ∃ written, personaSeedSetup stableHash floats seedConfig = .ok written ∧
    personaTamperReport stableHash floats written.bundle written.immutabilityStamp = .ok false ∧
      ∀ commands : List (Command Number),
        let files := commands.foldl (step stableHash floats) written.bundle
        files.seedConfig = seedConfig ∧ Grown stableHash seedConfig files.growthState ∧
          ∀ command, Runs stableHash floats files command ∨
            Refuses stableHash floats files command

theorem files_kept (rounds : Rounds floats) {seedConfig : PersonaSeedConfig Number}
    (normal : seedFromDict floats seedConfig = seedConfig) :
    Keeps stableHash floats seedConfig := by
  obtain ⟨start, sound, same, ran⟩ := seedSetup_sound stableHash normal
  refine ⟨_, ran, sound.verifies, fun commands => ?_⟩
  have leaves := steps_sound rounds sound.rebound commands
  have seeded := leaves.seedConfig.trans same
  refine ⟨seeded, seeded ▸ leaves.sound.growth, fun command => ?_⟩
  obtain ⟨after, stamp, ran, left, stamped⟩ | refused := run_sound rounds leaves.sound command
  · exact .inl ⟨after, stamp, ran, left.evidence, stamped⟩
  · exact .inr refused

theorem tenThousandths_rounds : Rounds tenThousandths := ⟨fun _ => rfl, rfl, rfl, rfl⟩

def plainHash : Document Int → String
  | .seed seedConfig => "seed-" ++ seedConfig.mood
  | .growth growthState => "growth-" ++ toString growthState.revision
  | .bundle bundle => "bundle-" ++ bundle.personaState.provenanceHash.getD ""

/-- The seed of the given mood that is standard otherwise. -/
def seedOf (mood : String) : PersonaSeedConfig Int where
  personaId := "affective-main"
  seedName := "default"
  mood := mood
  valence := some 0
  arousal := some 0
  curiosity := some 5000
  fatigue := some 0
  socialOpenness := some 5000
  vitalitySummary := "attentive"
  relationshipStyle := "warm"
  immutableBoundaries := []
  createdAt := none

theorem steady_kept : Keeps plainHash tenThousandths (seedOf "steady") :=
  files_kept tenThousandths_rounds rfl

theorem orDefault_again {default text : String} (some : default ≠ "") :
    orDefault default (orDefault default text) = orDefault default text := by
  by_cases named : text = ""
  · rw [named]
    exact orDefault_eq some
  · rw [orDefault_eq named, orDefault_eq named]

/-- The setup raises nothing, and its files can be loaded if and only if the seed is read back as
it was written: no score is out of range or has more digits than are kept, and no text is empty.
Else the growth record is refused for the fingerprint of its seed. -/
theorem setup_loads_iff (seedConfig : PersonaSeedConfig Number)
    (apart : computePersonaSeedFingerprint stableHash (seedFromDict floats seedConfig) =
        computePersonaSeedFingerprint stableHash seedConfig →
      seedFromDict floats seedConfig = seedConfig) :
    ∃ written, personaSeedSetup stableHash floats seedConfig = .ok written ∧
      ((∃ loaded, loadPersonaBundle stableHash floats written.bundle = .ok loaded) ↔
        seedFromDict floats seedConfig = seedConfig) ∧
      (seedFromDict floats seedConfig ≠ seedConfig →
        loadPersonaBundle stableHash floats written.bundle =
          .error "persona_growth_seed_fingerprint_mismatch") := by
  let start : Bundle Number := ⟨seedConfig,
    initializePersonaStateFromSeed seedConfig seedConfig.createdAt,
    initializePersonaGrowthState stableHash seedConfig⟩
  have bind : bindPersonaBundle stableHash floats start =
      .ok (stateFromDict floats (bound start)) := (bind_owned rfl rfl).trans (if_pos rfl)
  have setup : personaSeedSetup stableHash floats seedConfig =
      .ok ⟨{ start with personaState := stateFromDict floats (bound start) },
        stableHash (.bundle { start with
          personaState := stateFromDict floats (bound start) })⟩ := by
    rw [personaSeedSetup]
    dsimp only
    rw [bind]
    rfl
  refine ⟨_, setup, ?_⟩
  rw [loadPersonaBundle]
  dsimp only
  rw [bind_owned (orDefault_again (by decide)) rfl]
  by_cases same : computePersonaSeedFingerprint stableHash (seedFromDict floats seedConfig) =
      computePersonaSeedFingerprint stableHash seedConfig
  · exact ⟨iff_of_true ⟨_, congrArg (Except.bind · _) (if_pos same.symm)⟩ (apart same),
      fun changed => absurd (apart same) changed⟩
  · refine ⟨iff_of_false ?_ fun normal => same (congrArg _ normal), fun _ => ?_⟩
    · rintro ⟨loaded, loads⟩
      cases (congrArg (Except.bind · _) (if_neg (Ne.symm same))).symm.trans loads
    · exact congrArg (Except.bind · _) (if_neg (Ne.symm same))

/-- Without a mood the setup makes files that no command can load. -/
theorem moodless_loads_iff : ∃ written,
    personaSeedSetup plainHash tenThousandths (seedOf "") = .ok written ∧
      loadPersonaBundle plainHash tenThousandths written.bundle =
        .error "persona_growth_seed_fingerprint_mismatch" := by
  have changed : seedFromDict tenThousandths (seedOf "") ≠ seedOf "" :=
    fun same => absurd (congrArg PersonaSeedConfig.mood same) (by decide)
  have apart : computePersonaSeedFingerprint plainHash
        (seedFromDict tenThousandths (seedOf "")) =
      computePersonaSeedFingerprint plainHash (seedOf "") →
      seedFromDict tenThousandths (seedOf "") = seedOf "" :=
    fun same => absurd same (by decide)
  obtain ⟨written, made, _, refused⟩ := setup_loads_iff (seedOf "") apart
  exact ⟨written, made, refused changed⟩

/-- Wherever the commands have led from the setup of the seed, the stamp of an export that
redacts is that of the exported files if and only if there was nothing to redact and the state
bears the fingerprint of the seed, as no growth leaves it; else the exported files are taken to
be tampered with. -/
def ExportHolds (stableHash : Document Number → String) (floats : Floats Number)
    (seedConfig : PersonaSeedConfig Number) (commands : List (Command Number))
    (principalIds : List String) : Prop :=
  ∃ written loaded after issued, personaSeedSetup stableHash floats seedConfig = .ok written ∧
    loadPersonaBundle stableHash floats
      (commands.foldl (step stableHash floats) written.bundle) = .ok loaded ∧
    run stableHash floats (commands.foldl (step stableHash floats) written.bundle)
      (.stateExport principalIds) = .ok (after, some issued) ∧
    ((stableHash (.bundle after) = stableHash (.bundle loaded) → after = loaded) →
      (personaTamperReport stableHash floats after issued = .ok false ↔
        (∀ item ∈ loaded.personaState.relationshipSummaries, item.principalId ∉ principalIds) ∧
          loaded.personaState.provenanceHash = some loaded.growthState.seedFingerprint))

theorem redacted_export_iff (rounds : Rounds floats) {seedConfig : PersonaSeedConfig Number}
    (normal : seedFromDict floats seedConfig = seedConfig) (commands : List (Command Number))
    {principalIds : List String} (redacts : principalIds ≠ []) :
    ExportHolds stableHash floats seedConfig commands principalIds := by
  obtain ⟨start, sound, -, made⟩ := seedSetup_sound stableHash normal
  have reached := (steps_sound rounds sound.rebound commands).sound
  obtain ⟨state, exported, wrote, chosen⟩ := stateExport_sound reached principalIds
  refine ⟨_, _, _, _, made, reached.load, run_stateExport reached.load wrote, fun apart => ?_⟩
  rw [if_neg redacts] at chosen
  rw [chosen] at apart
  rw [exported.rebound.tamperReport, bound_bound, chosen]
  refine Iff.trans ?_ (bound_redact_iff _ principalIds)
  constructor
  · intro verified
    have same := bne_eq_false_iff_eq.mp (Except.ok.inj verified)
    exact congrArg Bundle.personaState (apart same.symm)
  · intro same
    rw [same, bne_self_eq_false]

def networkRecovery : PersonaGrowthEvidence where
  eventId := "evt-1"
  source := "unit_event"
  reason := "network_recovery"
  recordedAt := "2026-05-11T09:35:00Z"

theorem grown_export : ExportHolds plainHash tenThousandths (seedOf "steady")
    [.growthApply networkRecovery] ["user-1"] :=
  redacted_export_iff tenThousandths_rounds rfl _ (by decide)

end Commands

end NeuroLink.PersonaBundle
