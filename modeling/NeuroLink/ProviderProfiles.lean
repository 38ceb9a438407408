import Mathlib.Data.List.Induction
import NeuroLink.Dictionary

/-!
The provider profiles of the Core: what the commands `provider-config` and `model-set-active`
leave in the configuration file, and what the registry makes of the file and the environment.
-/

namespace NeuroLink.ProviderProfiles

open Dictionary

/-- The environment, `env.get`. -/
abbrev Env := String → Option String

/-- `env.get(name)` where it is not empty. -/
def value (env : Env) (name : String) : Option String := (env name).filter (· ≠ "")

/-- `_credential_present`. -/
def present (env : Env) (name : String) : Bool := name ≠ "" && (value env name).isSome

/-! The configuration file. -/

inductive TextField where
  | providerKind
  | credentialEnvVar
  | endpointEnvVar
  | endpointUrl
  | modelEnvVar
  | deploymentEnvVar
  | configuredModel
  | configuredDeployment

inductive FlagField where
  | supportsModelDiscovery
  | enabled

@[ext]
structure Fields where
  text : TextField → Option String
  flag : FlagField → Option Bool

def Fields.none : Fields := ⟨fun _ => .none, fun _ => .none⟩

def Fields.updated (current given : Fields) : Fields where
  text field := (given.text field).or (current.text field)
  flag field := (given.flag field).or (current.flag field)

structure Config where
  activeAffectiveProfile : String
  activeRationalProfile : String
  profiles : List (String × Fields)

/-- `str(name or "openai_compatible")`. -/
def orCompatible (name : String) : String := if name = "" then "openai_compatible" else name

/-- `load_provider_profile_config`. -/
def loadProviderProfileConfig : Option Config → Config
  | .none => ⟨"openai_compatible", "openai_compatible", []⟩
  | some config =>
      { config with
        activeAffectiveProfile := orCompatible config.activeAffectiveProfile
        activeRationalProfile := orCompatible config.activeRationalProfile }

/-- `_write_provider_profile_config`. -/
def writeProviderProfileConfig (config : Config) : Option Config :=
  some
    { config with
      activeAffectiveProfile := orCompatible config.activeAffectiveProfile
      activeRationalProfile := orCompatible config.activeRationalProfile }

/-- `provider_config_update`. -/
def providerConfigUpdate (file : Option Config) (profileName : String) (given : Fields) :
    Option Config :=
  let config := loadProviderProfileConfig file
  -- a profile without an entry gets one that says nothing else
  let current := (config.profiles.lookup profileName).getD .none
  writeProviderProfileConfig
    { config with profiles := assign profileName (current.updated given) config.profiles }

/-- `set_active_provider_profile`. -/
def setActiveProviderProfile (file : Option Config) (slot profileName : String) :
    Except String (Option Config) :=
  if slot ≠ "affective" ∧ slot ≠ "rational" then .error "unsupported_model_slot"
  else
    let config := loadProviderProfileConfig file
    .ok (writeProviderProfileConfig
      { config with
        activeAffectiveProfile :=
          if slot = "affective" then profileName else config.activeAffectiveProfile
        activeRationalProfile :=
          if slot = "rational" then profileName else config.activeRationalProfile })

inductive Command where
  | providerConfig (profileName : String) (given : Fields)
  | modelSetActive (slot profileName : String)

/-- The file after the command; one that raises leaves it. -/
def take (file : Option Config) : Command → Option Config
  | .providerConfig profileName given => providerConfigUpdate file profileName given
  | .modelSetActive slot profileName =>
      match setActiveProviderProfile file slot profileName with
      | .ok file => file
      | .error _ => file

def after (commands : List Command) : Option Config := commands.foldl take .none

/-! The registry. -/

/-- `ProviderProfile` under its name. -/
structure ProviderProfile where
  text : TextField → Option String
  flag : FlagField → Bool
  endpointConfigured : Bool
  credentialConfigured : Bool

inductive MafProviderKind where
  | azureOpenai
  | openaiCompatible
  | unknown
  deriving DecidableEq

/-- `provider_kind` of `build_maf_provider_config`. -/
def detectedKind (env : Env) : MafProviderKind :=
  if (value env "AZURE_OPENAI_ENDPOINT").isSome || (value env "AZURE_OPENAI_API_KEY").isSome then
    .azureOpenai
  else if (value env "OPENAI_BASE_URL").isSome || (value env "OPENAI_API_KEY").isSome then
    .openaiCompatible
  else .unknown

/-- `_first_present_env_var` on the two names of a deployment. -/
def deploymentVar (env : Env) : String × Option String :=
  match value env "AZURE_OPENAI_CHAT_DEPLOYMENT", value env "AZURE_OPENAI_DEPLOYMENT_NAME" with
  | some deployment, _ => ("AZURE_OPENAI_CHAT_DEPLOYMENT", some deployment)
  | .none, some deployment => ("AZURE_OPENAI_DEPLOYMENT_NAME", some deployment)
  | .none, .none => ("AZURE_OPENAI_CHAT_DEPLOYMENT", .none)

def openaiProfile (env : Env) : ProviderProfile where
  text
    | .providerKind => some "openai_compatible"
    | .credentialEnvVar => some "OPENAI_API_KEY"
    | .endpointEnvVar => some "OPENAI_BASE_URL"
    | .modelEnvVar => some "OPENAI_MODEL"
    | .deploymentEnvVar => some ""
    | .configuredModel => value env "OPENAI_MODEL"
    | .endpointUrl | .configuredDeployment => .none
  flag
    | .supportsModelDiscovery => true
    | .enabled => detectedKind env ≠ .azureOpenai
  endpointConfigured := (value env "OPENAI_BASE_URL").isSome
  credentialConfigured := present env "OPENAI_API_KEY"

def azureProfile (env : Env) : ProviderProfile where
  text
    | .providerKind => some "azure_openai"
    | .credentialEnvVar => some "AZURE_OPENAI_API_KEY"
    | .endpointEnvVar => some "AZURE_OPENAI_ENDPOINT"
    | .modelEnvVar => some ""
    | .deploymentEnvVar => some (deploymentVar env).1
    | .configuredDeployment => (deploymentVar env).2
    | .endpointUrl | .configuredModel => .none
  flag
    | .supportsModelDiscovery => false
    | .enabled => detectedKind env ≠ .openaiCompatible
  endpointConfigured := (value env "AZURE_OPENAI_ENDPOINT").isSome
  credentialConfigured := present env "AZURE_OPENAI_API_KEY"

/-- `str(given or base)`. -/
def overlayText (base given : Option String) : Option String := (given.filter (· ≠ "")).or base

/-- `_overlay_profile_from_config`. -/
def overlayProfileFromConfig (env : Env) (profile : ProviderProfile) (entry : Fields) :
    ProviderProfile :=
  let text := fun field => overlayText (profile.text field) (entry.text field)
  { text := text
    flag := fun field => (entry.flag field).getD (profile.flag field)
    endpointConfigured :=
      (text .endpointUrl).isSome || present env ((text .endpointEnvVar).getD "")
    credentialConfigured := present env ((text .credentialEnvVar).getD "") }

def customText : TextField → Option String
  | .providerKind => some "custom"
  | .credentialEnvVar => some "OPENAI_API_KEY"
  | .endpointEnvVar => some "OPENAI_BASE_URL"
  | .modelEnvVar => some "OPENAI_MODEL"
  | .deploymentEnvVar => some ""
  | .endpointUrl | .configuredModel | .configuredDeployment => .none

def customFlag : FlagField → Bool
  | .supportsModelDiscovery => false
  | .enabled => true

/-- The profile `provider_profile_registry` makes for a name it has not got. -/
def customProfile (entry : Fields) : ProviderProfile where
  text
    | .endpointUrl | .configuredModel | .configuredDeployment => .none
    | field => overlayText (customText field) (entry.text field)
  flag := customFlag
  endpointConfigured := false
  credentialConfigured := false

def builtin (env : Env) : List (String × ProviderProfile) :=
  [("openai_compatible", openaiProfile env), ("azure_openai", azureProfile env)]

/-- One entry of the loop of `provider_profile_registry`. -/
def register (env : Env) (held : List (String × ProviderProfile)) (entry : String × Fields) :
    List (String × ProviderProfile) :=
  if entry.1 = "" then held
  else
    let base := (held.lookup entry.1).getD (customProfile entry.2)
    assign entry.1 (overlayProfileFromConfig env base entry.2) held

/-- The profiles of `provider_profile_registry`, under their names. -/
def providerProfileRegistry (env : Env) (file : Option Config) : List (String × ProviderProfile) :=
  (loadProviderProfileConfig file).profiles.foldl (register env) (builtin env)

/-- The active profile of a slot. -/
def activeProfile (file : Option Config) (slot : String) : String :=
  if slot = "affective" then (loadProviderProfileConfig file).activeAffectiveProfile
  else (loadProviderProfileConfig file).activeRationalProfile

/-! What the commands have given. -/

def Command.givenFor (profileName : String) : Command → Option Fields
  | .providerConfig name given => if name = profileName then some given else .none
  | .modelSetActive _ _ => .none

/-- Field by field, what was last given for the profile. -/
def lastGiven (commands : List Command) (profileName : String) : Fields where
  text field :=
    ((commands.filterMap (Command.givenFor profileName)).filterMap (·.text field)).getLast?
  flag field :=
    ((commands.filterMap (Command.givenFor profileName)).filterMap (·.flag field)).getLast?

def Mentioned (commands : List Command) (profileName : String) : Prop :=
  commands.filterMap (Command.givenFor profileName) ≠ []

instance (commands : List Command) (profileName : String) :
    Decidable (Mentioned commands profileName) := by
  unfold Mentioned
  cases commands.filterMap (Command.givenFor profileName) with
  | nil => exact .isFalse (· rfl)
  | cons => exact .isTrue (by simp)

def Command.activates (slot : String) : Command → Option String
  | .providerConfig _ _ => .none
  | .modelSetActive named profileName => if named = slot then some profileName else .none

def lastActive (commands : List Command) (slot : String) : String :=
  orCompatible ((commands.filterMap (Command.activates slot)).getLast?.getD "")

/-- What the profile is without an entry in the file. -/
def base (env : Env) (profileName : String) : ProviderProfile :=
  if profileName = "openai_compatible" then openaiProfile env
  else if profileName = "azure_openai" then azureProfile env
  else ⟨customText, customFlag, false, false⟩

/-! The file. -/

theorem lookup_assign {Value : Type} (key other : String) (value : Value)
    (entries : List (String × Value)) :
    (assign key value entries).lookup other =
      if other = key then some value else entries.lookup other := by
  induction entries with
  | nil =>
      rw [assign, List.lookup_cons]
      by_cases same : other = key
      · simp [same]
      · simp [same, beq_eq_false_iff_ne.mpr same]
  | cons entry rest ih =>
      obtain ⟨place, held⟩ := entry
      rw [assign]
      by_cases here : place = key
      · subst here
        rw [if_pos rfl, List.lookup_cons, List.lookup_cons]
        by_cases same : other = place
        · simp [same]
        · simp [same, beq_eq_false_iff_ne.mpr same]
      · rw [if_neg here, List.lookup_cons, List.lookup_cons, ih]
        by_cases same : other = place
        · simp [same, here]
        · simp [beq_eq_false_iff_ne.mpr same]

theorem last_snoc {Given Value : Type} (field : Given → Option Value) (history : List Given)
    (given : Given) :
    ((history ++ [given]).filterMap field).getLast? =
      (field given).or (history.filterMap field).getLast? := by
  rw [List.filterMap_append]
  cases said : field given <;> simp [said]

theorem after_snoc (commands : List Command) (command : Command) :
    after (commands ++ [command]) = take (after commands) command := by
  rw [after, List.foldl_append]
  rfl

theorem lastGiven_update (commands : List Command) (profileName : String) (given : Fields) :
    lastGiven (commands ++ [.providerConfig profileName given]) profileName =
      (lastGiven commands profileName).updated given := by
  have heard : (commands ++ [Command.providerConfig profileName given]).filterMap
      (Command.givenFor profileName) =
        commands.filterMap (Command.givenFor profileName) ++ [given] := by
    simp [List.filterMap_append, Command.givenFor]
  rw [lastGiven, heard]
  ext field : 2
  · exact last_snoc (fun given : Fields => given.text field) _ _
  · exact last_snoc (fun given : Fields => given.flag field) _ _

theorem unmentioned_none {commands : List Command} {profileName : String}
    (silent : ¬ Mentioned commands profileName) : lastGiven commands profileName = .none := by
  rw [lastGiven, not_not.mp silent]
  rfl

theorem givenFor_other {commands : List Command} {command : Command} {profileName : String}
    (silent : command.givenFor profileName = .none) :
    (commands ++ [command]).filterMap (Command.givenFor profileName) =
      commands.filterMap (Command.givenFor profileName) := by
  simp [List.filterMap_append, silent]

theorem mentioned_other {commands : List Command} {command : Command} {profileName : String}
    (silent : command.givenFor profileName = .none) :
    Mentioned (commands ++ [command]) profileName ↔ Mentioned commands profileName := by
  rw [Mentioned, givenFor_other silent, Mentioned]

theorem lastGiven_other {commands : List Command} {command : Command} {profileName : String}
    (silent : command.givenFor profileName = .none) :
    lastGiven (commands ++ [command]) profileName = lastGiven commands profileName := by
  rw [lastGiven, givenFor_other silent, lastGiven]

structure Holds (commands : List Command) (config : Config) : Prop where
  distinct : (config.profiles.map Prod.fst).Nodup
  profile : ∀ profileName, config.profiles.lookup profileName =
    if Mentioned commands profileName then some (lastGiven commands profileName) else .none
  affective : config.activeAffectiveProfile = lastActive commands "affective"
  rational : config.activeRationalProfile = lastActive commands "rational"

theorem orCompatible_again (name : String) :
    orCompatible (orCompatible name) = orCompatible name := by
  by_cases empty : name = "" <;> simp [orCompatible, empty]

theorem lastActive_silent {commands : List Command} {command : Command} {slot : String}
    (silent : command.activates slot = .none) :
    lastActive (commands ++ [command]) slot = lastActive commands slot := by
  rw [lastActive, last_snoc, silent]
  rfl

theorem lastActive_again (commands : List Command) (slot : String) :
    orCompatible (lastActive commands slot) = lastActive commands slot :=
  orCompatible_again _

theorem lastActive_set (commands : List Command) (slot other profileName : String) :
    lastActive (commands ++ [.modelSetActive slot profileName]) other =
      orCompatible (if slot = other then profileName else lastActive commands other) := by
  rw [lastActive, last_snoc]
  by_cases same : slot = other
  · simp [Command.activates, same]
  · simp [Command.activates, same, lastActive, orCompatible_again]

theorem Holds.update {commands : List Command} {config : Config} (holds : Holds commands config)
    (profileName : String) (given : Fields) :
    Holds (commands ++ [.providerConfig profileName given])
      { config with
        profiles := assign profileName
          (((config.profiles.lookup profileName).getD .none).updated given) config.profiles } where
  distinct := assign_distinct _ _ holds.distinct
  profile other := by
    rw [lookup_assign]
    by_cases same : other = profileName
    · subst same
      have current : (config.profiles.lookup other).getD .none = lastGiven commands other := by
        rw [holds.profile]
        split
        · rfl
        · next silent => exact (unmentioned_none silent).symm
      have mentioned : Mentioned (commands ++ [.providerConfig other given]) other := by
        simp [Mentioned, List.filterMap_append, Command.givenFor]
      rw [if_pos rfl, if_pos mentioned, current, lastGiven_update]
    · have silent : (Command.providerConfig profileName given).givenFor other = .none :=
        if_neg (Ne.symm same)
      rw [if_neg same, holds.profile]
      simp only [mentioned_other silent, lastGiven_other silent]
  affective := by rw [holds.affective, lastActive_silent rfl]
  rational := by rw [holds.rational, lastActive_silent rfl]

theorem Holds.activate {commands : List Command} {config : Config} (holds : Holds commands config)
    (slot profileName : String) {affective rational : String}
    (first : affective = lastActive (commands ++ [.modelSetActive slot profileName]) "affective")
    (second : rational = lastActive (commands ++ [.modelSetActive slot profileName]) "rational") :
    Holds (commands ++ [.modelSetActive slot profileName])
      { config with activeAffectiveProfile := affective, activeRationalProfile := rational } where
  distinct := holds.distinct
  profile other := by
    have silent : (Command.modelSetActive slot profileName).givenFor other = .none := rfl
    simp only [mentioned_other silent, lastGiven_other silent]
    exact holds.profile other
  affective := first
  rational := second

theorem Holds.loaded {commands : List Command} {config : Config} (holds : Holds commands config) :
    loadProviderProfileConfig (writeProviderProfileConfig config) = config := by
  simp only [writeProviderProfileConfig, loadProviderProfileConfig, holds.affective,
    holds.rational, lastActive_again]
  rw [← holds.affective, ← holds.rational]

theorem holds_after (commands : List Command) :
    Holds commands (loadProviderProfileConfig (after commands)) := by
  induction commands using List.reverseRecOn with
  | nil => exact ⟨List.nodup_nil, fun _ => rfl, rfl, rfl⟩
  | append_singleton commands command ih =>
      rw [after_snoc]
      cases command with
      | providerConfig profileName given =>
          rw [take, providerConfigUpdate, (ih.update profileName given).loaded]
          exact ih.update profileName given
      | modelSetActive slot profileName =>
          rw [take, setActiveProviderProfile]
          by_cases unknown : slot ≠ "affective" ∧ slot ≠ "rational"
          · rw [if_pos unknown]
            have stays := ih.activate slot profileName
              (ih.affective.trans (by rw [lastActive_set, if_neg unknown.1, lastActive_again]))
              (ih.rational.trans (by rw [lastActive_set, if_neg unknown.2, lastActive_again]))
            exact stays
          -- the file is written and loaded, so the name is completed twice
          · rw [if_neg unknown]
            exact ih.activate slot profileName
              (by rw [orCompatible_again, lastActive_set, ih.affective])
              (by rw [orCompatible_again, lastActive_set, ih.rational])

/-! The registry over the file. -/

theorem overlay_again (base given : Option String) :
    overlayText (overlayText base given) given = overlayText base given := by
  rw [overlayText, overlayText]
  cases given.filter (· ≠ "") <;> rfl

theorem overlay_custom (env : Env) (entry : Fields) :
    overlayProfileFromConfig env (customProfile entry) entry =
      overlayProfileFromConfig env ⟨customText, customFlag, false, false⟩ entry := by
  have text : ∀ field, overlayText ((customProfile entry).text field) (entry.text field) =
      overlayText (customText field) (entry.text field) := by
    intro field
    cases field <;> first | rfl | exact overlay_again _ _
  simp only [overlayProfileFromConfig, text]
  rfl

theorem overlay_nothing (env : Env) {profileName : String}
    (built : profileName = "openai_compatible" ∨ profileName = "azure_openai") :
    overlayProfileFromConfig env (base env profileName) Fields.none = base env profileName := by
  rcases built with rfl | rfl <;> rfl

/-- Registering entries with distinct names lays each over what stood under its name. -/
theorem lookup_registered (env : Env) {entries : List (String × Fields)}
    (distinct : (entries.map Prod.fst).Nodup) (held : List (String × ProviderProfile))
    (profileName : String) :
    (entries.foldl (register env) held).lookup profileName =
      if profileName = "" then held.lookup profileName
      else ((entries.lookup profileName).map fun entry =>
        overlayProfileFromConfig env ((held.lookup profileName).getD (customProfile entry))
          entry).or (held.lookup profileName) := by
  induction entries generalizing held with
  | nil => simp
  | cons entry rest ih =>
      obtain ⟨place, fields⟩ := entry
      obtain ⟨fresh, later⟩ := List.nodup_cons.mp distinct
      rw [List.foldl_cons, ih later, register, List.lookup_cons]
      -- an entry without a name is passed, one with a name is laid over what its name has
      by_cases unnamed : place = ""
      · subst unnamed
        rw [if_pos rfl]
        by_cases empty : profileName = ""
        · rw [if_pos empty, if_pos empty]
        · rw [beq_eq_false_iff_ne.mpr empty]
      · rw [if_neg unnamed, lookup_assign]
        by_cases here : profileName = place
        · subst here
          have once : rest.lookup profileName = .none :=
            List.lookup_eq_none_iff.mpr fun entry inside =>
              bne_iff_ne.mpr fun same => fresh (List.mem_map.mpr ⟨entry, inside, same.symm⟩)
          simp [unnamed, once]
        · rw [if_neg here, beq_eq_false_iff_ne.mpr here]

theorem lookup_builtin (env : Env) (profileName : String) :
    (builtin env).lookup profileName =
      if profileName = "openai_compatible" ∨ profileName = "azure_openai" then
        some (base env profileName)
      else .none := by
  rw [builtin, List.lookup_cons, List.lookup_cons, base]
  by_cases openai : profileName = "openai_compatible"
  · simp [openai]
  · by_cases azure : profileName = "azure_openai"
    · simp [azure]
    · simp [openai, azure, beq_eq_false_iff_ne.mpr openai, beq_eq_false_iff_ne.mpr azure]

/-- After any commands the registry shows of each profile what was last given for it, over
what it is without, and nothing of a name that is not built in and was never given one. -/
theorem registry_last_given (env : Env) (commands : List Command) (profileName : String) :
    (providerProfileRegistry env (after commands)).lookup profileName =
        (if ((builtin env).lookup profileName).isSome ∨
            profileName ≠ "" ∧ Mentioned commands profileName then
          some (overlayProfileFromConfig env (base env profileName)
            (lastGiven commands profileName))
        else .none) ∧
      activeProfile (after commands) "affective" = lastActive commands "affective" ∧
      activeProfile (after commands) "rational" = lastActive commands "rational" := by
  have holds := holds_after commands
  refine ⟨?_, holds.affective, holds.rational⟩
  rw [providerProfileRegistry, lookup_registered env holds.distinct, holds.profile]
  by_cases built : profileName = "openai_compatible" ∨ profileName = "azure_openai"
  · -- a profile that is built in is shown whether it was mentioned or not
    have found : (builtin env).lookup profileName = some (base env profileName) := by
      rw [lookup_builtin, if_pos built]
    have named : profileName ≠ "" := by rintro rfl; simp at built
    have shown : ((builtin env).lookup profileName).isSome ∨
        profileName ≠ "" ∧ Mentioned commands profileName := .inl (by rw [found]; rfl)
    rw [if_neg named, if_pos shown, found]
    by_cases mentioned : Mentioned commands profileName
    · rw [if_pos mentioned]
      rfl
    · have bare := overlay_nothing env built
      rw [if_neg mentioned, unmentioned_none mentioned, bare]
      rfl
  · -- any other is made when its name is first given, unless the name is empty
    have missing : (builtin env).lookup profileName = .none := by
      rw [lookup_builtin, if_neg built]
    have own : base env profileName = ⟨customText, customFlag, false, false⟩ := by
      rw [base, if_neg fun same => built (.inl same), if_neg fun same => built (.inr same)]
    have shown : ((builtin env).lookup profileName).isSome ∨
        profileName ≠ "" ∧ Mentioned commands profileName ↔
          profileName ≠ "" ∧ Mentioned commands profileName := by
      simp [missing]
    simp only [shown]
    rw [missing, own]
    by_cases empty : profileName = ""
    · rw [if_pos empty, if_neg fun known => known.1 empty]
    · by_cases mentioned : Mentioned commands profileName
      · rw [if_neg empty, if_pos mentioned, if_pos ⟨empty, mentioned⟩, ← overlay_custom]
        rfl
      · rw [if_neg empty, if_neg mentioned, if_neg fun known => mentioned known.2]
        rfl

end NeuroLink.ProviderProfiles
