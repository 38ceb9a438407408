import Mathlib.Data.List.Nodup
import NeuroLink.SeedSnapshot
import NeuroLink.UpdateView

/-!
What a snapshot holds. Which entries it has, and whether there is room for them,
depends on the application ids alone; each entry takes its two halves from the
update entry and the artifact entry of its application.
-/

namespace NeuroLink.SeedSnapshot

open CText RecoverySeed SlotTable

/-- What the search for an entry looks at. -/
def name (entry : SeedEntry) : Bool × Text := (entry.used, entry.appId.text)

/-- `mergeEntry` on the names alone. -/
def addName (known : List (Bool × Text)) (appId : Text) : Option (List (Bool × Text)) :=
  if (true, appId) ∈ known then some known
  else if known.length ≥ maxEntries then none
  else some (known ++ [(true, (copyBounded appId : Buffer 32).text)])

section Names

variable (merge : SeedEntry → SeedEntry) (renames : ∀ entry, name (merge entry) = name entry)

include renames

theorem amendEntry_names (entries : List SeedEntry) (appId : Text) :
    (amendEntry appId merge entries).map (List.map name) =
      if (true, appId) ∈ entries.map name then some (entries.map name) else none := by
  induction entries with
  | nil => rfl
  | cons entry rest ih =>
      by_cases here : entry.used = true ∧ entry.appId.text = appId
      · have first : name entry = (true, appId) := Prod.ext here.1 here.2
        simp [amendEntry, here, renames, first]
      · have other : (true, appId) ≠ name entry := fun same =>
          here ⟨(congrArg Prod.fst same).symm, (congrArg Prod.snd same).symm⟩
        rw [amendEntry, if_neg here, Option.map_map]
        by_cases later : (true, appId) ∈ rest.map name
        · rw [if_pos later] at ih
          obtain ⟨amended, found, same⟩ := Option.map_eq_some_iff.mp ih
          simp [found, same, other, later]
        · rw [if_neg later] at ih
          simp [Option.map_eq_none_iff.mp ih, other, later]

theorem mergeEntry_names (entries : List SeedEntry) (appId : Text) :
    (mergeEntry entries appId merge).map (List.map name) =
      addName (entries.map name) appId := by
  have amended := amendEntry_names merge renames entries appId
  unfold mergeEntry addName
  by_cases known : (true, appId) ∈ entries.map name
  · rw [if_pos known] at amended ⊢
    obtain ⟨found, result, same⟩ := Option.map_eq_some_iff.mp amended
    simp [result, same]
  · rw [if_neg known] at amended ⊢
    rw [Option.map_eq_none_iff.mp amended, List.length_map]
    by_cases full : entries.length ≥ maxEntries
    · simp [full]
    · simp only [if_neg full, Option.map_some, List.map_append, List.map_cons, List.map_nil,
        renames]
      rfl

end Names

theorem mergeUpdates_names (updates : List UpdateManager.Entry) (entries : List SeedEntry) :
    (mergeUpdates updates entries).map (List.map name) =
      (updates.map UpdateManager.Entry.id).foldlM addName (entries.map name) := by
  induction updates generalizing entries with
  | nil => rfl
  | cons update rest ih =>
      have first := mergeEntry_names (mergeUpdate update) (fun _ => rfl) entries
        update.appId.text
      rw [List.map_cons, List.foldlM_cons, mergeUpdates, UpdateManager.Entry.id, ← first]
      cases mergeEntry entries update.appId.text (mergeUpdate update) with
      | none => rfl
      | some merged => exact ih merged

theorem mergeArtifacts_names (artifacts : List ArtifactStore.Meta)
    (entries : List SeedEntry) :
    (mergeArtifacts artifacts entries).map (List.map name) =
      (artifacts.map ArtifactStore.Meta.id).foldlM addName (entries.map name) := by
  induction artifacts generalizing entries with
  | nil => rfl
  | cons artifact rest ih =>
      have first := mergeEntry_names (mergeArtifact artifact) (fun _ => rfl) entries
        artifact.appId.text
      rw [List.map_cons, List.foldlM_cons, mergeArtifacts, ArtifactStore.Meta.id, ← first]
      cases mergeEntry entries artifact.appId.text (mergeArtifact artifact) with
      | none => rfl
      | some merged => exact ih merged

/-- The applications of the two managers, in the order a snapshot takes them up. -/
def applications (updates : UpdateManager.Manager) (artifacts : ArtifactStore.Store) :
    List Text :=
  (UpdateManager.exportEntries updates UpdateManager.maxEntries).map UpdateManager.Entry.id ++
    (ArtifactStore.exportEntries artifacts ArtifactStore.maxEntries).map ArtifactStore.Meta.id

/-- Room and names of a snapshot follow from the applications alone. -/
theorem buildSnapshot_names (updates : UpdateManager.Manager)
    (artifacts : ArtifactStore.Store) :
    (buildSnapshot updates artifacts).toOption.map (fun snapshot => snapshot.entries.map name) =
      (applications updates artifacts).foldlM addName [] := by
  have merged := mergeUpdates_names
    (UpdateManager.exportEntries updates UpdateManager.maxEntries) []
  rw [applications, List.foldlM_append, ← List.map_nil, ← merged, buildSnapshot]
  cases mergeUpdates (UpdateManager.exportEntries updates UpdateManager.maxEntries) [] with
  | none => rfl
  | some entries =>
      have filled := mergeArtifacts_names
        (ArtifactStore.exportEntries artifacts ArtifactStore.maxEntries) entries
      simp only [Option.map_some, Option.bind_some, Option.bind_eq_bind]
      rw [← filled]
      cases mergeArtifacts (ArtifactStore.exportEntries artifacts ArtifactStore.maxEntries)
        entries with
      | none => rfl
      | some all => rfl

theorem buildSnapshot_fits {updates later : UpdateManager.Manager}
    {artifacts after : ArtifactStore.Store}
    (same : applications later after = applications updates artifacts) :
    (buildSnapshot later after).isOk = (buildSnapshot updates artifacts).isOk := by
  have isOk : ∀ built : Except Int Snapshot, built.isOk =
      (built.toOption.map fun snapshot => snapshot.entries.map name).isSome := by
    intro built
    cases built <;> rfl
  rw [isOk, isOk, buildSnapshot_names, buildSnapshot_names, same]

/-! What the entry of an application holds. -/

/-- The entry of the application, as `find_seed_entry` finds it. -/
def seedFor (entries : List SeedEntry) (appId : Text) : Option SeedEntry :=
  entries.find? fun entry => entry.used ∧ entry.appId.text = appId

section Merge

variable {merge : SeedEntry → SeedEntry} {appId : Text}

theorem amendEntry_missing {entries : List SeedEntry}
    (missing : amendEntry appId merge entries = none) : seedFor entries appId = none := by
  induction entries with
  | nil => rfl
  | cons entry rest ih =>
      rw [amendEntry] at missing
      split at missing
      · cases missing
      · next other =>
        have later := ih (Option.map_eq_none_iff.mp missing)
        rw [seedFor, List.find?_cons_of_neg (by simpa using other)]
        exact later

theorem amendEntry_seedFor (renames : ∀ entry, name (merge entry) = name entry)
    {entries amended : List SeedEntry} (found : amendEntry appId merge entries = some amended) :
    ∃ entry, seedFor entries appId = some entry ∧ ∀ other, seedFor amended other =
      if other = appId then some (merge entry) else seedFor entries other := by
  induction entries generalizing amended with
  | nil => cases found
  | cons entry rest ih =>
      have used : (merge entry).used = entry.used := congrArg Prod.fst (renames entry)
      have named : (merge entry).appId.text = entry.appId.text :=
        congrArg Prod.snd (renames entry)
      rw [amendEntry] at found
      split at found
      · next here =>
        cases found
        refine ⟨entry, by simp [seedFor, here], fun other => ?_⟩
        by_cases same : other = appId
        · simp [seedFor, same, used, named, here]
        · have apart : ¬ entry.appId.text = other := fun own => same (own.symm.trans here.2)
          simp [seedFor, same, named, apart]
      · next apart =>
        obtain ⟨later, foundLater, rfl⟩ := Option.map_eq_some_iff.mp found
        obtain ⟨own, there, view⟩ := ih foundLater
        refine ⟨own, ?_, fun other => ?_⟩
        · rw [seedFor, List.find?_cons_of_neg (by simpa using apart)]
          exact there
        · by_cases first : entry.used = true ∧ entry.appId.text = other
          · have differ : other ≠ appId := fun same => apart (same ▸ first)
            simp [seedFor, first, differ]
          · rw [seedFor, List.find?_cons_of_neg (by simpa using first), seedFor,
              List.find?_cons_of_neg (by simpa using first)]
            exact view other

theorem mergeEntry_seedFor (renames : ∀ entry, name (merge entry) = name entry)
    (short : appId.length ≤ 31) {entries merged : List SeedEntry}
    (result : mergeEntry entries appId merge = some merged) (other : Text) :
    seedFor merged other =
      if other = appId then some (merge ((seedFor entries appId).getD (addedEntry appId)))
      else seedFor entries other := by
  unfold mergeEntry at result
  cases amended : amendEntry appId merge entries with
  | some found =>
      rw [amended] at result
      cases result
      obtain ⟨entry, there, view⟩ := amendEntry_seedFor renames amended
      rw [view, there, Option.getD_some]
  | none =>
      have missing := amendEntry_missing amended
      rw [amended] at result
      dsimp only at result
      split at result
      · cases result
      · cases result
        have own : name (merge (addedEntry appId)) = (true, appId) := by
          rw [renames]
          exact Prod.ext rfl (copyBounded_exact _ short)
        have used : (merge (addedEntry appId)).used = true := congrArg Prod.fst own
        have named : (merge (addedEntry appId)).appId.text = appId := congrArg Prod.snd own
        rw [seedFor, List.find?_append]
        change (seedFor entries other).or _ = _
        by_cases same : other = appId
        · rw [same, missing]
          simp [used, named]
        · have apart : ¬ appId = other := fun eq => same eq.symm
          simp [same, used, named, apart]

end Merge

/-- The entry of an application with one of its halves filled in, if there is one to
fill in. -/
def fill {Half : Type} (merge : Half → SeedEntry → SeedEntry) (appId : Text)
    (half : Option Half) (entry : Option SeedEntry) : Option SeedEntry :=
  match half with
  | some half => some (merge half (entry.getD (addedEntry appId)))
  | none => entry

section Fill

variable {Half : Type} {key : Half → Text} {merge : Half → SeedEntry → SeedEntry}

def mergeAll (key : Half → Text) (merge : Half → SeedEntry → SeedEntry) (halves : List Half)
    (entries : List SeedEntry) : Option (List SeedEntry) :=
  halves.foldlM (fun entries half => mergeEntry entries (key half) (merge half)) entries

theorem mergeUpdates_eq (updates : List UpdateManager.Entry) (entries : List SeedEntry) :
    mergeUpdates updates entries =
      mergeAll UpdateManager.Entry.id mergeUpdate updates entries := by
  induction updates generalizing entries with
  | nil => rfl
  | cons update rest ih => exact congrArg (Option.bind _) (funext ih)

theorem mergeArtifacts_eq (artifacts : List ArtifactStore.Meta) (entries : List SeedEntry) :
    mergeArtifacts artifacts entries =
      mergeAll ArtifactStore.Meta.id mergeArtifact artifacts entries := by
  induction artifacts generalizing entries with
  | nil => rfl
  | cons artifact rest ih => exact congrArg (Option.bind _) (funext ih)

theorem mergeAll_seedFor (renames : ∀ half entry, name (merge half entry) = name entry)
    {halves : List Half} (distinct : (halves.map key).Nodup)
    (short : ∀ half ∈ halves, (key half).length ≤ 31) {entries merged : List SeedEntry}
    (result : mergeAll key merge halves entries = some merged) (appId : Text) :
    seedFor merged appId =
      fill merge appId (halves.find? fun half => key half = appId) (seedFor entries appId) := by
  induction halves generalizing entries with
  | nil =>
      cases result
      rfl
  | cons half rest ih =>
      obtain ⟨middle, first, later⟩ := Option.bind_eq_some_iff.mp result
      obtain ⟨alone, others⟩ := List.nodup_cons.mp distinct
      have step := mergeEntry_seedFor (renames half) (short half List.mem_cons_self) first appId
      have tail := ih others (fun half member => short half (List.mem_cons_of_mem _ member)) later
      rw [tail, step]
      by_cases here : key half = appId
      · -- no later half is for this application
        have none : (rest.find? fun half => key half = appId) = none := by
          refine List.find?_eq_none.mpr fun other member same => alone ?_
          rw [here, ← of_decide_eq_true same]
          exact List.mem_map_of_mem member
        rw [none, List.find?_cons_of_pos (by simpa using here), if_pos here.symm, here]
        rfl
      · rw [List.find?_cons_of_neg (by simpa using here), if_neg fun same => here same.symm]

end Fill

/-! Both halves together, and the room for them. -/

section Whole

variable {updates : UpdateManager.Manager} {artifacts : ArtifactStore.Store}
  {snapshot : Snapshot}

theorem exportEntries_all (updates : UpdateManager.Manager) :
    UpdateManager.exportEntries updates UpdateManager.maxEntries = SlotTable.entries updates :=
  List.take_of_length_le (entries_length updates)

theorem exportArtifacts_all (artifacts : ArtifactStore.Store) :
    ArtifactStore.exportEntries artifacts ArtifactStore.maxEntries =
      SlotTable.entries artifacts :=
  List.take_of_length_le (entries_length artifacts)

/-- The entry of an application in a snapshot: its update entry and its artifact
entry, merged. -/
def mergedEntry (updates : UpdateManager.Manager) (artifacts : ArtifactStore.Store)
    (appId : Text) : Option SeedEntry :=
  fill mergeArtifact appId (lookup ArtifactStore.Meta.id artifacts appId)
    (fill mergeUpdate appId (UpdateManager.entryOf updates appId) none)

theorem buildSnapshot_seedFor (unique : UpdateManager.Unique updates)
    (distinct : Distinct ArtifactStore.Meta.id artifacts)
    (built : buildSnapshot updates artifacts = .ok snapshot) (appId : Text) :
    seedFor snapshot.entries appId = mergedEntry updates artifacts appId := by
  unfold buildSnapshot at built
  split at built
  · next entries merged =>
    cases built
    obtain ⟨middle, first, later⟩ := Option.bind_eq_some_iff.mp merged
    rw [exportEntries_all, mergeUpdates_eq] at first
    rw [exportArtifacts_all, mergeArtifacts_eq] at later
    have updateName : ∀ update entry, name (mergeUpdate update entry) = name entry :=
      fun _ _ => rfl
    have artifactName : ∀ artifact entry, name (mergeArtifact artifact entry) = name entry :=
      fun _ _ => rfl
    have half := mergeAll_seedFor updateName (entries_keys_nodup unique)
      (fun update _ => Nat.le_of_lt_succ update.appId.fits) first appId
    have whole := mergeAll_seedFor artifactName (entries_keys_nodup distinct)
      (fun artifact _ => Nat.le_of_lt_succ artifact.appId.fits) later appId
    rw [whole, half, ← lookup_entries, ← lookup_entries]
    rfl
  · cases built

theorem addNames_known {known : List (Bool × Text)} {appIds : List Text}
    (all : ∀ appId ∈ appIds, (true, appId) ∈ known) :
    appIds.foldlM addName known = some known := by
  induction appIds with
  | nil => rfl
  | cons appId rest ih =>
      have first : addName known appId = some known :=
        if_pos (all appId List.mem_cons_self)
      rw [List.foldlM_cons, first]
      exact ih fun other member => all other (List.mem_cons_of_mem _ member)

theorem addNames_new {known appIds : List Text} (short : ∀ appId ∈ appIds, appId.length ≤ 31)
    (distinct : (known ++ appIds).Nodup) (room : (known ++ appIds).length ≤ maxEntries) :
    appIds.foldlM addName (known.map (Prod.mk true)) =
      some ((known ++ appIds).map (Prod.mk true)) := by
  induction appIds generalizing known with
  | nil => simp
  | cons appId rest ih =>
      have unknown : (true, appId) ∉ known.map (Prod.mk true) := by
        intro member
        obtain ⟨other, there, same⟩ := List.mem_map.mp member
        cases same
        exact (List.nodup_append.mp distinct).2.2 appId there appId List.mem_cons_self rfl
      have free : ¬ (known.map (Prod.mk true)).length ≥ maxEntries := by
        rw [List.length_append, List.length_cons] at room
        rw [List.length_map]
        omega
      have whole : known ++ appId :: rest = (known ++ [appId]) ++ rest := by simp
      have first : addName (known.map (Prod.mk true)) appId =
          some ((known ++ [appId]).map (Prod.mk true)) := by
        rw [addName, if_neg unknown, if_neg free,
          copyBounded_exact appId (short appId List.mem_cons_self), List.map_append]
        rfl
      rw [whole] at distinct room ⊢
      rw [List.foldlM_cons, first]
      exact ih (fun other member => short other (List.mem_cons_of_mem _ member)) distinct room

def Covered (updates : UpdateManager.Manager) (artifacts : ArtifactStore.Store) : Prop :=
  ∀ (slot : Fin ArtifactStore.maxEntries) (artifact : ArtifactStore.Meta),
    artifacts[slot] = some artifact → UpdateManager.entryOf updates artifact.id ≠ none

/-- If every application with an artifact has an update entry, a snapshot has room for all. -/
theorem buildSnapshot_room (unique : UpdateManager.Unique updates)
    (covered : Covered updates artifacts) :
    ∃ snapshot, buildSnapshot updates artifacts = .ok snapshot ∧
      snapshot.entries.map name =
        (SlotTable.entries updates).map fun update => (true, update.id) := by
  have names := buildSnapshot_names updates artifacts
  rw [applications, exportEntries_all, exportArtifacts_all, List.foldlM_append] at names
  have taken : ((SlotTable.entries updates).map UpdateManager.Entry.id).foldlM addName [] =
      some (((SlotTable.entries updates).map UpdateManager.Entry.id).map (Prod.mk true)) := by
    refine @addNames_new [] _ ?_ ?_ ?_
    · intro appId member
      obtain ⟨update, _, rfl⟩ := List.mem_map.mp member
      exact Nat.le_of_lt_succ update.appId.fits
    · exact entries_keys_nodup unique
    · simpa using entries_length updates
  have known : ((SlotTable.entries artifacts).map ArtifactStore.Meta.id).foldlM addName
      (((SlotTable.entries updates).map UpdateManager.Entry.id).map (Prod.mk true)) =
        some (((SlotTable.entries updates).map UpdateManager.Entry.id).map (Prod.mk true)) := by
    refine addNames_known fun appId member => ?_
    obtain ⟨artifact, listed, rfl⟩ := List.mem_map.mp member
    obtain ⟨slot, stored⟩ := mem_entries.mp listed
    obtain ⟨update, present⟩ := Option.ne_none_iff_exists'.mp (covered slot artifact stored)
    rw [UpdateManager.entryOf, lookup_entries] at present
    have own : update.id = artifact.id := by simpa using List.find?_some present
    rw [← own]
    exact List.mem_map_of_mem (List.mem_map_of_mem (List.mem_of_find?_eq_some present))
  rw [taken, Option.bind_eq_bind, Option.bind_some, known] at names
  cases built : buildSnapshot updates artifacts with
  | error error =>
      rw [built] at names
      cases names
  | ok snapshot =>
      rw [built, List.map_map] at names
      exact ⟨snapshot, rfl, Option.some.inj names⟩

end Whole

end NeuroLink.SeedSnapshot
