import Mathlib.Data.List.Induction
import NeuroLink.CommandRegistry

/-!
Registering the commands of an application together. The names and the room are checked
first, and the entries are written one by one afterwards: the checks have to be such
that the writes cannot stop half way. Over a run of the operations of the registry, the
commands stay distinct and their names valid.
-/

namespace NeuroLink.CommandBatch

open CText Errno SlotTable CommandRegistry

/-- The checks of `neuro_app_command_registry_register_descriptors`: a name is valid, and
no later descriptor has it too. -/
def checkNames : List Desc → Int
  | [] => 0
  | desc :: rest =>
      if ¬ nameValid desc.commandName.text then -einval
      else if rest.any fun later => desc.commandName.text = later.commandName.text then -eexist
      else checkNames rest

def neededNewEntries (registry : Registry) (appId : Text) (descs : List Desc) : Nat :=
  descs.countP fun desc => (entryFind registry appId desc.commandName.text).isNone

def freeSlots (registry : Registry) : Nat := registry.countP (·.isNone)

/-- What is stored for a descriptor: the application id is the one of the call. -/
def stored (appId : Text) (desc : Desc) : Desc :=
  { desc with appId := copyBounded appId, state := .registered }

def install (registry : Registry) (appId : Text) : List Desc → Int × Registry
  | [] => (0, registry)
  | desc :: rest =>
      match entryFind registry appId desc.commandName.text with
      | some (slot, _) =>
          install (registry.set slot.val (some (stored appId desc)) slot.isLt) appId rest
      | none =>
          match vacant registry with
          | none => (-enospc, registry)
          | some slot =>
              install (registry.set slot.val (some (stored appId desc)) slot.isLt) appId rest

/-- `neuro_app_command_registry_register_descriptors`. -/
def registerDescriptors (registry : Registry) (appId : Text) (descs : List Desc) :
    Int × Registry :=
  if ¬ appIdValid appId ∨ descs = [] then (-einval, registry)
  else if checkNames descs ≠ 0 then (checkNames descs, registry)
  else if neededNewEntries registry appId descs > freeSlots registry then (-enospc, registry)
  else install registry appId descs

/-- `neuro_app_command_registry_set_enabled`. -/
def setEnabled (registry : Registry) (appId commandName : Text) (enabled : Bool) :
    Int × Registry :=
  if ¬ appIdValid appId ∨ ¬ nameValid commandName then (-einval, registry)
  else
    match entryFind registry appId commandName with
    | none => (-enoent, registry)
    | some (slot, desc) =>
        (0, registry.set slot.val
          (some { desc with state := if enabled then .enabled else .disabled }) slot.isLt)

/-- The operations of the registry that change it. -/
inductive Operation where
  | init
  | register (desc : Desc)
  | registerDescriptors (appId : Text) (descs : List Desc)
  | setEnabled (appId commandName : Text) (enabled : Bool)
  | setAppEnabled (appId : Text) (enabled : Bool)
  | removeApp (appId : Text)

def Operation.apply (registry : Registry) : Operation → Registry
  | init => CommandRegistry.init
  | register desc => (CommandRegistry.register registry desc).2
  | registerDescriptors appId descs => (CommandBatch.registerDescriptors registry appId descs).2
  | setEnabled appId commandName enabled =>
      (CommandBatch.setEnabled registry appId commandName enabled).2
  | setAppEnabled appId enabled => (CommandRegistry.setAppEnabled registry appId enabled).2
  | removeApp appId => (CommandRegistry.removeApp registry appId).2

def run (operations : List Operation) : Registry :=
  operations.foldl Operation.apply CommandRegistry.init

structure WellFormed (registry : Registry) : Prop where
  distinct : Distinct Desc.key registry
  named : ∀ desc ∈ entries registry, nameValid desc.commandName.text = true

section Names

variable {desc : Desc} {descs : List Desc}

theorem checkNames_zero (passed : checkNames descs = 0) :
    (∀ desc ∈ descs, nameValid desc.commandName.text = true) ∧
      (descs.map (·.commandName.text)).Nodup := by
  induction descs with
  | nil => exact ⟨List.forall_mem_nil _, List.nodup_nil⟩
  | cons first rest ih =>
      rw [checkNames] at passed
      split at passed
      · exact absurd passed (by decide)
      next valid =>
      split at passed
      · exact absurd passed (by decide)
      next alone =>
      obtain ⟨names, distinct⟩ := ih passed
      constructor
      · exact List.forall_mem_cons.mpr ⟨not_not.mp valid, names⟩
      · rw [List.map_cons, List.nodup_cons]
        refine ⟨fun again => alone ?_, distinct⟩
        obtain ⟨later, member, same⟩ := List.mem_map.mp again
        exact List.any_eq_true.mpr ⟨later, member, decide_eq_true same.symm⟩

@[simp] theorem stored_commandName (appId : Text) :
    (stored appId desc).commandName = desc.commandName := rfl

theorem stored_key {appId : Text} (short : appId.length ≤ 31) :
    (stored appId desc).key = (appId, desc.commandName.text) := by
  rw [Desc.key, stored]
  exact congrArg (·, desc.commandName.text) (copyBounded_exact appId short)

end Names

section Slots

variable {registry : Registry} {slot : Fin maxEntries} {desc : Desc}

theorem freeSlots_put_used {old : Desc} (content : registry[slot] = some old) :
    freeSlots (registry.set slot.val (some desc) slot.isLt) = freeSlots registry := by
  have there : registry[slot.val] = some old := content
  simp [freeSlots, Vector.countP_set, there]

theorem freeSlots_put_vacant (content : registry[slot] = none) :
    freeSlots (registry.set slot.val (some desc) slot.isLt) = freeSlots registry - 1 := by
  have there : registry[slot.val] = none := content
  simp [freeSlots, Vector.countP_set, there]

theorem vacant_of_freeSlots (some : 0 < freeSlots registry) : vacant registry ≠ none := by
  intro full
  obtain ⟨content, member, empty⟩ := Vector.countP_pos_iff.mp some
  obtain ⟨index, bound, there⟩ := Vector.getElem_of_mem member
  have used := List.find?_eq_none.mp full ⟨index, bound⟩ (List.mem_finRange _)
  rw [getElem_slot] at used
  exact used (there ▸ empty)

end Slots

/-- One write of the batch: the command is found with what was stored for it, and nothing
of another application is touched. -/
structure Placed (appId : Text) (desc : Desc) (before after : Registry) : Prop where
  found : ∀ wanted, lookup Desc.key after wanted =
    if wanted = (appId, desc.commandName.text) then some (stored appId desc)
    else lookup Desc.key before wanted
  others : ∀ (slot : Fin maxEntries) (entry : Desc), entry.appId.text ≠ appId →
    (after[slot] = some entry ↔ before[slot] = some entry)
  distinct : Distinct Desc.key before → Distinct Desc.key after
  added : ∀ entry ∈ entries after, entry = stored appId desc ∨ entry ∈ entries before

section Placing

variable {registry : Registry} {appId : Text} {slot : Fin maxEntries} {desc old : Desc}

theorem others_put (short : appId.length ≤ 31)
    (own : ∀ entry, registry[slot] = some entry → entry.appId.text = appId)
    (probe : Fin maxEntries) (entry : Desc) (apart : entry.appId.text ≠ appId) :
    (registry.set slot.val (some (stored appId desc)) slot.isLt)[probe] = some entry ↔
      registry[probe] = some entry := by
  rw [getElem_put]
  by_cases here : probe = slot
  · subst probe
    rw [if_pos rfl]
    constructor
    · intro written
      cases written
      exact absurd (copyBounded_exact appId short) apart
    · intro there
      exact absurd (own entry there) apart
  · rw [if_neg here]

theorem placed_found (short : appId.length ≤ 31)
    (present : entryFind registry appId desc.commandName.text = some (slot, old)) :
    Placed appId desc registry (registry.set slot.val (some (stored appId desc)) slot.isLt) where
  found := lookup_put_found present _ (stored_key short)
  others := by
    refine others_put short fun entry there => ?_
    rw [find_content present] at there
    cases there
    exact congrArg Prod.fst (findKey_key present)
  distinct := fun distinct => distinct_rewrite distinct (find_content present)
    ((stored_key short).trans (findKey_key present).symm)
  added := fun _ member => mem_entries_put member

theorem placed_vacant (short : appId.length ≤ 31)
    (missing : entryFind registry appId desc.commandName.text = none)
    (free : vacant registry = some slot) :
    Placed appId desc registry (registry.set slot.val (some (stored appId desc)) slot.isLt) where
  found := lookup_put_vacant missing free _ (stored_key short)
  others := by
    refine others_put short fun entry there => ?_
    rw [vacant_content free] at there
    cases there
  distinct := fun distinct => distinct_insert distinct (by rw [stored_key short]; exact missing)
  added := fun _ member => mem_entries_put member

theorem entryFind_isNone (commandName : Text) :
    (entryFind registry appId commandName).isNone =
      (lookup Desc.key registry (appId, commandName)).isNone := by
  rw [lookup, Option.isNone_map]
  rfl

theorem Placed.needed {after : Registry} {rest : List Desc}
    (placed : Placed appId desc registry after)
    (fresh : desc.commandName.text ∉ rest.map (·.commandName.text)) :
    neededNewEntries after appId rest = neededNewEntries registry appId rest := by
  refine List.countP_congr fun later member => ?_
  have apart : ¬ (appId, later.commandName.text) = (appId, desc.commandName.text) := by
    intro same
    apply fresh
    rw [← (Prod.mk.inj same).2]
    exact List.mem_map_of_mem member
  rw [entryFind_isNone, entryFind_isNone, placed.found, if_neg apart]

end Placing

/-- All commands of the batch are written, and nothing of another application is. -/
structure Installed (appId : Text) (descs : List Desc) (before after : Registry) : Prop where
  found : ∀ desc ∈ descs,
    lookup Desc.key after (appId, desc.commandName.text) = some (stored appId desc)
  kept : ∀ wanted, (∀ desc ∈ descs, wanted ≠ (appId, desc.commandName.text)) →
    lookup Desc.key after wanted = lookup Desc.key before wanted
  others : ∀ (slot : Fin maxEntries) (entry : Desc), entry.appId.text ≠ appId →
    (after[slot] = some entry ↔ before[slot] = some entry)
  distinct : Distinct Desc.key before → Distinct Desc.key after
  added : ∀ entry ∈ entries after,
    (∃ desc ∈ descs, entry = stored appId desc) ∨ entry ∈ entries before

section Batch

variable {registry : Registry} {appId : Text} {descs : List Desc}

theorem Placed.installed {desc : Desc} {middle after : Registry} {rest : List Desc}
    (placed : Placed appId desc registry middle)
    (fresh : desc.commandName.text ∉ rest.map (·.commandName.text))
    (installed : Installed appId rest middle after) :
    Installed appId (desc :: rest) registry after where
  found := by
    intro later member
    rcases List.mem_cons.mp member with rfl | inRest
    · rw [installed.kept, placed.found, if_pos rfl]
      intro other inRest same
      apply fresh
      rw [(Prod.mk.inj same).2]
      exact List.mem_map_of_mem inRest
    · exact installed.found later inRest
  kept := by
    intro wanted others
    obtain ⟨first, later⟩ := List.forall_mem_cons.mp others
    rw [installed.kept wanted later, placed.found, if_neg first]
  others := fun slot entry apart =>
    (installed.others slot entry apart).trans (placed.others slot entry apart)
  distinct := fun distinct => installed.distinct (placed.distinct distinct)
  added := by
    intro entry member
    rcases installed.added entry member with ⟨later, inRest, same⟩ | old
    · exact .inl ⟨later, List.mem_cons_of_mem desc inRest, same⟩
    · rcases placed.added entry old with same | older
      · exact .inl ⟨desc, List.mem_cons_self, same⟩
      · exact .inr older

/-- Where there is room for the new commands, no write of the batch is missed. -/
theorem install_installs (short : appId.length ≤ 31)
    (distinct : (descs.map (·.commandName.text)).Nodup)
    (room : neededNewEntries registry appId descs ≤ freeSlots registry) :
    (install registry appId descs).1 = 0 ∧
      Installed appId descs registry (install registry appId descs).2 := by
  induction descs generalizing registry with
  | nil =>
      refine ⟨rfl, List.forall_mem_nil _, fun _ _ => rfl, fun _ _ _ => Iff.rfl, id, ?_⟩
      exact fun _ member => .inr member
  | cons desc rest ih =>
      rw [List.map_cons, List.nodup_cons] at distinct
      obtain ⟨fresh, others⟩ := distinct
      rw [neededNewEntries, List.countP_cons] at room
      rw [install]
      cases present : entryFind registry appId desc.commandName.text with
      | some found =>
          obtain ⟨slot, old⟩ := found
          have placed : Placed appId desc registry _ := placed_found short present
          -- a command that is registered already takes no slot from those behind it
          have enough :
              neededNewEntries (registry.set slot.val (some (stored appId desc)) slot.isLt)
                appId rest ≤
              freeSlots (registry.set slot.val (some (stored appId desc)) slot.isLt) := by
            rw [placed.needed fresh, freeSlots_put_used (find_content present)]
            exact Nat.le_trans (Nat.le_add_right _ _) room
          obtain ⟨worked, installed⟩ := ih others enough
          exact ⟨worked, placed.installed fresh installed⟩
      | none =>
          rw [present, Option.isNone_none, if_pos rfl] at room
          cases free : vacant registry with
          | none => exact absurd free (vacant_of_freeSlots (by omega))
          | some slot =>
              have placed : Placed appId desc registry _ := placed_vacant short present free
              -- a new one takes one of the slots, and one less is needed
              have enough :
                  neededNewEntries (registry.set slot.val (some (stored appId desc)) slot.isLt)
                    appId rest ≤
                    freeSlots (registry.set slot.val (some (stored appId desc)) slot.isLt) := by
                rw [placed.needed fresh, freeSlots_put_vacant (vacant_content free)]
                exact Nat.le_sub_one_of_lt room
              obtain ⟨worked, installed⟩ := ih others enough
              exact ⟨worked, placed.installed fresh installed⟩

/-- A batch is registered as a whole, or it leaves the registry. -/
theorem registerDescriptors_effect (registry : Registry) (appId : Text) (descs : List Desc) :
    (registerDescriptors registry appId descs).1 = 0 ∧
      (∀ desc ∈ descs, nameValid desc.commandName.text = true) ∧
      Installed appId descs registry (registerDescriptors registry appId descs).2 ∨
    (registerDescriptors registry appId descs).1 ≠ 0 ∧
      (registerDescriptors registry appId descs).2 = registry := by
  unfold registerDescriptors
  split
  · exact .inr ⟨einval_refuses, rfl⟩
  next given =>
  split
  · next refused => exact .inr ⟨refused, rfl⟩
  next passed =>
  split
  · exact .inr ⟨enospc_refuses, rfl⟩
  next room =>
  have short : appId.length ≤ 31 := by
    have valid := not_not.mp (not_or.mp given).1
    simp only [appIdValid, decide_eq_true_eq] at valid
    exact valid.2
  obtain ⟨named, distinct⟩ := checkNames_zero (not_not.mp passed)
  obtain ⟨worked, installed⟩ := install_installs short distinct (Nat.not_lt.mp room)
  exact .inl ⟨worked, named, installed⟩

end Batch

section Runs

variable {registry : Registry}

theorem wellFormed_init : WellFormed init where
  distinct := distinct_empty
  named := by
    intro desc member
    rw [init, entries_empty] at member
    cases member

theorem register_wellFormed (formed : WellFormed registry) (desc : Desc) :
    WellFormed (register registry desc).2 := by
  unfold register
  split
  · exact formed
  next valid =>
  have name : nameValid desc.commandName.text = true := not_not.mp (not_or.mp valid).2
  have named : ∀ slot : Fin maxEntries, ∀ stored ∈ entries (registry.set slot
      (some { desc with state := .registered })), nameValid stored.commandName.text = true := by
    intro slot stored member
    rcases mem_entries_put member with rfl | old
    · exact name
    · exact formed.named stored old
  split
  · next slot old present =>
    refine ⟨distinct_rewrite formed.distinct (find_content present) ?_, named slot⟩
    exact (findKey_key present).symm
  · next missing =>
    split
    · exact formed
    · next slot free => exact ⟨distinct_insert formed.distinct missing, named slot⟩

theorem registerDescriptors_wellFormed (formed : WellFormed registry) (appId : Text)
    (descs : List Desc) : WellFormed (registerDescriptors registry appId descs).2 := by
  rcases registerDescriptors_effect registry appId descs with
    ⟨_, names, installed⟩ | ⟨_, same⟩
  · refine ⟨installed.distinct formed.distinct, fun entry member => ?_⟩
    rcases installed.added entry member with ⟨desc, given, rfl⟩ | old
    · exact names desc given
    · exact formed.named entry old
  · rw [same]
    exact formed

theorem setEnabled_wellFormed (formed : WellFormed registry) (appId commandName : Text)
    (enabled : Bool) : WellFormed (setEnabled registry appId commandName enabled).2 := by
  unfold setEnabled
  split
  · exact formed
  split
  · exact formed
  next slot old present =>
  refine ⟨distinct_rewrite formed.distinct (find_content present) rfl, fun entry member => ?_⟩
  rcases mem_entries_put member with rfl | stored
  · exact formed.named old (mem_entries.mpr ⟨slot, find_content present⟩)
  · exact formed.named entry stored

theorem setAppEnabled_wellFormed (formed : WellFormed registry) (appId : Text)
    (enabled : Bool) : WellFormed (setAppEnabled registry appId enabled).2 := by
  unfold setAppEnabled
  split
  · exact formed
  have key_same : ∀ old : Desc, Desc.key (if old.appId.text = appId then
      { old with state := if enabled then .enabled else .disabled } else old) = old.key := by
    intro old
    split <;> rfl
  constructor
  · intro left right first second atLeft atRight same
    rw [getElem_rewriteAll] at atLeft atRight
    obtain ⟨former, there, rfl⟩ := Option.map_eq_some_iff.mp atLeft
    obtain ⟨latter, here, rfl⟩ := Option.map_eq_some_iff.mp atRight
    rw [key_same, key_same] at same
    exact formed.distinct left right former latter there here same
  · intro desc member
    obtain ⟨old, there, rfl⟩ := mem_entries_rewriteAll.mp member
    rw [(Prod.mk.inj (key_same old)).2]
    exact formed.named old there

theorem removeApp_wellFormed (formed : WellFormed registry) (appId : Text) :
    WellFormed (removeApp registry appId).2 where
  distinct := by
    unfold removeApp
    split
    · exact formed.distinct
    · exact distinct_keep _ formed.distinct
  named := fun desc member => formed.named desc (removeApp_entries member)

theorem apply_wellFormed (formed : WellFormed registry) (operation : Operation) :
    WellFormed (operation.apply registry) := by
  cases operation with
  | init => exact wellFormed_init
  | register desc => exact register_wellFormed formed desc
  | registerDescriptors appId descs => exact registerDescriptors_wellFormed formed appId descs
  | setEnabled appId commandName enabled =>
      exact setEnabled_wellFormed formed appId commandName enabled
  | setAppEnabled appId enabled => exact setAppEnabled_wellFormed formed appId enabled
  | removeApp appId => exact removeApp_wellFormed formed appId

theorem run_wellFormed (operations : List Operation) : WellFormed (run operations) := by
  induction operations using List.reverseRecOn with
  | nil => exact wellFormed_init
  | append_singleton front operation ih =>
      rw [run, List.foldl_append]
      exact apply_wellFormed ih operation

end Runs

/-- Over every run the commands in use are distinct and have names that may be registered.
A batch is registered as a whole without touching another application, or it changes
nothing. -/
theorem registry_sound :
    (∀ operations : List Operation, ((entries (run operations)).map Desc.key).Nodup ∧
      ∀ desc ∈ entries (run operations), nameValid desc.commandName.text = true ∧
        desc.commandName.text ∉ reservedNames) ∧
    ∀ (registry : Registry) (appId : Text) (descs : List Desc),
      (registerDescriptors registry appId descs).1 = 0 ∧
          (∀ desc ∈ descs, lookup Desc.key (registerDescriptors registry appId descs).2
            (appId, desc.commandName.text) = some (stored appId desc)) ∧
          (∀ (slot : Fin maxEntries) (entry : Desc), entry.appId.text ≠ appId →
            ((registerDescriptors registry appId descs).2[slot] = some entry ↔
              registry[slot] = some entry)) ∨
        (registerDescriptors registry appId descs).1 ≠ 0 ∧
          (registerDescriptors registry appId descs).2 = registry := by
  constructor
  · intro operations
    have formed := run_wellFormed operations
    refine ⟨entries_keys_nodup formed.distinct, fun desc member => ?_⟩
    have valid := formed.named desc member
    refine ⟨valid, fun reserved => ?_⟩
    simp only [nameValid, decide_eq_true_eq] at valid
    exact valid.2.2.2 (List.contains_iff_mem.mpr reserved)
  · intro registry appId descs
    rcases registerDescriptors_effect registry appId descs with
      ⟨worked, _, installed⟩ | unchanged
    · exact .inl ⟨worked, installed.found, installed.others⟩
    · exact .inr unchanged

end NeuroLink.CommandBatch
