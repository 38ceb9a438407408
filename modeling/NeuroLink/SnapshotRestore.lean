import NeuroLink.SnapshotView

/-!
From a snapshot back to the managers. A snapshot that the service builds has an
update half in every entry, so that applying it gives each application its update
entry back, and its artifact entry where it has one.
-/

namespace NeuroLink.SeedSnapshot

open CText RecoverySeed SlotTable

/-- A snapshot as the service builds it: no more entries than there is room for, each
of another application, and each with an update half. -/
structure Complete (snapshot : Snapshot) : Prop where
  few : snapshot.entries.length ≤ maxEntries
  distinct : (snapshot.entries.map fun entry => entry.appId.text).Nodup
  whole : ∀ entry ∈ snapshot.entries, named entry ∧ hasUpdate entry

def updateHalves (snapshot : Snapshot) : List UpdateManager.Entry :=
  ((snapshot.entries.filter named).filter hasUpdate).map updateOf

def artifactHalves (snapshot : Snapshot) : List ArtifactStore.Meta :=
  ((snapshot.entries.filter named).filter hasArtifact).map artifactOf

/-- A snapshot from whose entries both managers can go on: no application has two update
records or two artifact records, and none has an artifact record alone. -/
structure Applicable (snapshot : Snapshot) : Prop where
  few : snapshot.entries.length ≤ maxEntries
  updatesApart : ((updateHalves snapshot).map UpdateManager.Entry.id).Nodup
  artifactsApart : ((artifactHalves snapshot).map ArtifactStore.Meta.id).Nodup
  recorded : ∀ artifact ∈ artifactHalves snapshot,
    ∃ update ∈ updateHalves snapshot, update.id = artifact.id

section Apply

variable {snapshot : Snapshot}

theorem updateHalves_few (few : snapshot.entries.length ≤ maxEntries) :
    (updateHalves snapshot).length ≤ UpdateManager.maxEntries := by
  rw [updateHalves, List.length_map]
  exact Nat.le_trans (List.length_filter_le _ _) (Nat.le_trans (List.length_filter_le _ _) few)

theorem artifactHalves_few (few : snapshot.entries.length ≤ maxEntries) :
    (artifactHalves snapshot).length ≤ ArtifactStore.maxEntries := by
  rw [artifactHalves, List.length_map]
  exact Nat.le_trans (List.length_filter_le _ _) (Nat.le_trans (List.length_filter_le _ _) few)

/-- Applying a snapshot of a size that decode accepts fills the managers with its two
halves. -/
theorem applySnapshot_halves (few : snapshot.entries.length ≤ maxEntries)
    (updates : UpdateManager.Manager) (artifacts : ArtifactStore.Store) :
    applySnapshot snapshot updates artifacts =
      (0, ofEntries (updateHalves snapshot), ofEntries (artifactHalves snapshot)) := by
  have updateFew := updateHalves_few few
  have artifactFew := artifactHalves_few few
  unfold applySnapshot UpdateManager.importEntries ArtifactStore.importEntries
  rw [if_neg (Nat.not_lt_of_le few)]
  dsimp only
  rw [← updateHalves, ← artifactHalves, List.take_of_length_le updateFew,
    List.take_of_length_le artifactFew, if_neg (Nat.not_lt_of_le updateFew),
    if_neg (Nat.not_lt_of_le artifactFew)]
  rfl

theorem seedFor_used {entries : List SeedEntry} (used : ∀ entry ∈ entries, entry.used = true)
    (appId : Text) :
    seedFor entries appId = entries.find? fun entry => entry.appId.text = appId := by
  unfold seedFor
  induction entries with
  | nil => rfl
  | cons entry rest ih =>
      have later := ih fun other member => used other (List.mem_cons_of_mem _ member)
      simp only [List.find?_cons, used entry List.mem_cons_self, true_and, later]

theorem Complete.used (complete : Complete snapshot) :
    ∀ entry ∈ snapshot.entries, entry.used = true := fun entry member =>
  (of_decide_eq_true (complete.whole entry member).1).1

theorem updateOf_id (entry : SeedEntry) : (updateOf entry).id = entry.appId.text :=
  copyBounded_exact _ (Nat.le_of_lt_succ entry.appId.fits)

theorem artifactOf_id (entry : SeedEntry) : (artifactOf entry).id = entry.appId.text :=
  copyBounded_exact _ (Nat.le_of_lt_succ entry.appId.fits)

theorem Complete.updateHalves (complete : Complete snapshot) :
    updateHalves snapshot = snapshot.entries.map updateOf := by
  have all : snapshot.entries.filter named = snapshot.entries :=
    List.filter_eq_self.mpr fun entry member => (complete.whole entry member).1
  have halves : snapshot.entries.filter hasUpdate = snapshot.entries :=
    List.filter_eq_self.mpr fun entry member => (complete.whole entry member).2
  rw [SeedSnapshot.updateHalves, all, halves]

theorem Complete.artifactHalves (complete : Complete snapshot) :
    artifactHalves snapshot = (snapshot.entries.filter hasArtifact).map artifactOf := by
  have all : snapshot.entries.filter named = snapshot.entries :=
    List.filter_eq_self.mpr fun entry member => (complete.whole entry member).1
  rw [SeedSnapshot.artifactHalves, all]

theorem Complete.applicable (complete : Complete snapshot) : Applicable snapshot where
  few := complete.few
  updatesApart := by
    rw [complete.updateHalves, List.map_map]
    exact (List.map_congr_left fun entry _ => updateOf_id entry) ▸ complete.distinct
  artifactsApart := by
    have ids : (snapshot.entries.filter hasArtifact).map (ArtifactStore.Meta.id ∘ artifactOf) =
        (snapshot.entries.filter hasArtifact).map fun entry => entry.appId.text :=
      List.map_congr_left fun entry _ => artifactOf_id entry
    rw [complete.artifactHalves, List.map_map, ids]
    exact complete.distinct.sublist (List.Sublist.map _ List.filter_sublist)
  recorded artifact member := by
    rw [complete.artifactHalves] at member
    obtain ⟨entry, listed, rfl⟩ := List.mem_map.mp member
    rw [complete.updateHalves]
    exact ⟨updateOf entry, List.mem_map_of_mem (List.mem_of_mem_filter listed),
      (updateOf_id entry).trans (artifactOf_id entry).symm⟩

/-- Applying a complete snapshot restores for each application what its entry has. -/
theorem applySnapshot_restores (complete : Complete snapshot)
    (updates : UpdateManager.Manager) (artifacts : ArtifactStore.Store) :
    ∃ restored stored, applySnapshot snapshot updates artifacts = (0, restored, stored) ∧
      UpdateManager.Unique restored ∧ Distinct ArtifactStore.Meta.id stored ∧
      ∀ appId,
        UpdateManager.entryOf restored appId = (seedFor snapshot.entries appId).map updateOf ∧
        lookup ArtifactStore.Meta.id stored appId =
          ((seedFor snapshot.entries appId).filter hasArtifact).map artifactOf := by
  have view := seedFor_used complete.used
  have updateFew := updateHalves_few complete.few
  have artifactFew := artifactHalves_few complete.few
  have applicable := complete.applicable
  refine ⟨ofEntries (updateHalves snapshot), ofEntries (artifactHalves snapshot),
    applySnapshot_halves complete.few updates artifacts,
    distinct_ofEntries applicable.updatesApart, distinct_ofEntries applicable.artifactsApart,
    fun appId => ⟨?_, ?_⟩⟩
  · rw [UpdateManager.entryOf, lookup_entries, entries_ofEntries updateFew,
      complete.updateHalves, List.find?_map, view]
    simp only [Function.comp_def, updateOf_id]
  · rw [lookup_entries, entries_ofEntries artifactFew, complete.artifactHalves, List.find?_map,
      view, ← find_filter hasArtifact complete.distinct]
    simp only [Function.comp_def, artifactOf_id]

end Apply

end NeuroLink.SeedSnapshot
