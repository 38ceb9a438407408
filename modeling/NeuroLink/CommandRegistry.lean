import NeuroLink.Errno
import NeuroLink.SlotTable
import NeuroLink.TextScan

/-!
The registry of application commands: sixteen slots, each with one command of one
application. A command is found by the application and its own name. Enabling and
removing go by application and touch all its commands at once.
-/

namespace NeuroLink.CommandRegistry

open CText Errno SlotTable

/-- `enum neuro_app_command_state`. -/
inductive State where
  | unregistered
  | registering
  | registered
  | enabled
  | disabled
  | failed
  | removed
  deriving DecidableEq

/-- `struct neuro_app_command_desc`. -/
structure Desc where
  appId : Buffer 32
  commandName : Buffer 32
  visibility : UInt8
  leaseRequired : Bool
  idempotent : Bool
  timeoutMs : UInt32
  state : State
  deriving DecidableEq

abbrev maxEntries : Nat := 16

/-- `g_registry`; an entry that is not in use is an empty slot. -/
abbrev Registry := Table Desc maxEntries

/-- The names of the commands the unit has itself. -/
def reservedNames : List Text :=
  [lit "start", lit "stop", lit "suspend", lit "resume", lit "load", lit "unload", lit "lease"]

/-- `neuro_app_command_name_valid`. -/
def nameValid (name : Text) : Bool :=
  name ≠ [] ∧ name.length ≤ 31 ∧
    (name.all fun letter => isalnum letter ∨ letter.val = 95 ∨ letter.val = 45) ∧
    ¬ reservedNames.contains name

/-- `neuro_app_id_valid`. -/
def appIdValid (appId : Text) : Bool := appId ≠ [] ∧ appId.length ≤ 31

def Desc.key (desc : Desc) : Text × Text := (desc.appId.text, desc.commandName.text)

/-- `neuro_app_command_entry_find_locked`. -/
def entryFind (registry : Registry) (appId commandName : Text) :
    Option (Fin maxEntries × Desc) :=
  findKey Desc.key registry (appId, commandName)

/-- `neuro_app_command_registry_init`. -/
def init : Registry := SlotTable.empty

/-- `neuro_app_command_registry_register`. -/
def register (registry : Registry) (desc : Desc) : Int × Registry :=
  if ¬ appIdValid desc.appId.text ∨ ¬ nameValid desc.commandName.text then
    (-einval, registry)
  else
    match entryFind registry desc.appId.text desc.commandName.text with
    | some (slot, _) => (0, registry.set slot (some { desc with state := .registered }))
    | none =>
        match vacant registry with
        | none => (-enospc, registry)
        | some slot => (0, registry.set slot (some { desc with state := .registered }))

/-- `found ? 0 : -ENOENT`. -/
def foundApp (registry : Registry) (appId : Text) : Int :=
  if (entries registry).any fun desc => desc.appId.text = appId then 0 else -enoent

/-- `neuro_app_command_registry_set_app_enabled`. -/
def setAppEnabled (registry : Registry) (appId : Text) (enabled : Bool) : Int × Registry :=
  if ¬ appIdValid appId then (-einval, registry)
  else
    (foundApp registry appId, rewriteAll (fun desc =>
      if desc.appId.text = appId then
        { desc with state := if enabled then .enabled else .disabled }
      else desc) registry)

/-- `neuro_app_command_registry_remove_app`. -/
def removeApp (registry : Registry) (appId : Text) : Int × Registry :=
  if ¬ appIdValid appId then (-einval, registry)
  else (foundApp registry appId, keep (fun desc => desc.appId.text ≠ appId) registry)

/-- `neuro_app_command_registry_find`. -/
def findCommand (registry : Registry) (appId commandName : Text) : Except Int Desc :=
  if ¬ appIdValid appId ∨ ¬ nameValid commandName then .error (-einval)
  else
    match entryFind registry appId commandName with
    | none => .error (-enoent)
    | some (_, desc) => .ok desc

/-! The applications that have a command in the registry. -/

def appIds (registry : Registry) : List Text := (entries registry).map (·.appId.text)

variable {registry : Registry} {appId other : Text}

@[simp] theorem appIds_init : appIds init = [] := by simp [appIds, init]

theorem register_entries {desc stored : Desc}
    (member : stored ∈ entries (register registry desc).2) :
    stored = { desc with state := .registered } ∨ stored ∈ entries registry := by
  unfold register at member
  split at member
  · exact .inr member
  split at member
  · exact mem_entries_put member
  split at member
  · exact .inr member
  · exact mem_entries_put member

/-- A command that was turned away, although it is well formed, is not in the registry. -/
theorem register_full {desc : Desc} (valid : appIdValid desc.appId.text = true)
    (named : nameValid desc.commandName.text = true)
    (failed : (register registry desc).1 ≠ 0) :
    (register registry desc).2 = registry ∧ ∀ stored ∈ entries registry, stored.key ≠ desc.key := by
  unfold register at failed ⊢
  rw [if_neg (by simp [valid, named])] at failed ⊢
  split at failed
  · exact absurd rfl failed
  next missing =>
  split at failed
  · refine ⟨rfl, fun stored member same => ?_⟩
    obtain ⟨slot, there⟩ := mem_entries.mp member
    have unseen := (find_none_iff _ _).mp missing slot stored there
    exact of_decide_eq_false unseen same
  · exact absurd rfl failed

theorem register_appIds {desc : Desc}
    (member : other ∈ appIds (register registry desc).2) :
    other = desc.appId.text ∨ other ∈ appIds registry := by
  obtain ⟨stored, there, rfl⟩ := List.mem_map.mp member
  rcases register_entries there with rfl | old
  · exact .inl rfl
  · exact .inr (List.mem_map_of_mem old)

theorem setAppEnabled_entries {desc : Desc} {enabled : Bool} (valid : appIdValid appId = true)
    (member : desc ∈ entries (setAppEnabled registry appId enabled).2) :
    (desc.appId.text ≠ appId ∧ desc ∈ entries registry) ∨
    (desc.appId.text = appId ∧ desc.state = (if enabled then .enabled else .disabled) ∧
      ∃ old ∈ entries registry, old.appId = desc.appId ∧ old.commandName = desc.commandName) := by
  rw [setAppEnabled, if_neg (by simp [valid])] at member
  obtain ⟨old, there, rewritten⟩ := mem_entries_rewriteAll.mp member
  split at rewritten
  · next own =>
    rw [← rewritten]
    exact .inr ⟨own, rfl, old, there, rfl, rfl⟩
  · next other =>
    rw [← rewritten]
    exact .inl ⟨other, there⟩

theorem setAppEnabled_appIds (enabled : Bool) :
    other ∈ appIds (setAppEnabled registry appId enabled).2 ↔ other ∈ appIds registry := by
  unfold setAppEnabled
  split
  · rfl
  · simp only [appIds, List.mem_map, mem_entries_rewriteAll]
    constructor
    · rintro ⟨_, ⟨old, member, rfl⟩, rfl⟩
      refine ⟨old, member, ?_⟩
      split <;> rfl
    · rintro ⟨old, member, rfl⟩
      refine ⟨_, ⟨old, member, rfl⟩, ?_⟩
      split <;> rfl

theorem removeApp_entries {desc : Desc} (member : desc ∈ entries (removeApp registry appId).2) :
    desc ∈ entries registry := by
  unfold removeApp at member
  split at member
  · exact member
  · exact (mem_entries_keep.mp member).1

theorem removeApp_appIds (member : other ∈ appIds (removeApp registry appId).2) :
    other ∈ appIds registry := by
  obtain ⟨desc, there, rfl⟩ := List.mem_map.mp member
  exact List.mem_map_of_mem (removeApp_entries there)

theorem removeApp_gone (valid : appIdValid appId = true) :
    appId ∉ appIds (removeApp registry appId).2 := by
  intro member
  rw [removeApp, if_neg (by simp [valid])] at member
  obtain ⟨desc, there, same⟩ := List.mem_map.mp member
  exact of_decide_eq_true (mem_entries_keep.mp there).2 same

end NeuroLink.CommandRegistry
