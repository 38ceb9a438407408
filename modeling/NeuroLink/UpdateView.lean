import NeuroLink.UpdateManager

/-!
What the operations of the update manager do to the entries as a map from
application ids. Each operation that succeeds rewrites the entry of its own
application and keeps the ids distinct; which rewrite it is follows from the
entry it starts from.
-/

namespace NeuroLink.UpdateManager

open CText Errno SlotTable

abbrev entryOf (manager : Manager) (appId : Text) : Option Entry :=
  lookup Entry.id manager appId

/-- `after` is `before` with the entry of one application replaced or removed. -/
structure Rewrites (appId : Text) (next : Option Entry) (before after : Manager) : Prop where
  unique : Unique after
  view : ∀ other, entryOf after other = if other = appId then next else entryOf before other

namespace Rewrites

variable {appId : Text} {next later : Option Entry} {before middle after : Manager}

theorem refl (unique : Unique before) : Rewrites appId (entryOf before appId) before before :=
  ⟨unique, fun other => by split <;> simp [*]⟩

theorem trans (first : Rewrites appId next before middle)
    (second : Rewrites appId later middle after) : Rewrites appId later before after := by
  refine ⟨second.unique, fun other => ?_⟩
  rw [second.view, first.view]
  by_cases same : other = appId <;> simp [same]

theorem own (rewrites : Rewrites appId next before after) : entryOf after appId = next := by
  rw [rewrites.view, if_pos rfl]

theorem other (rewrites : Rewrites appId next before after) {name : Text}
    (apart : name ≠ appId) : entryOf after name = entryOf before name := by
  rw [rewrites.view, if_neg apart]

end Rewrites

variable {manager : Manager} {appId : Text} {entry : Entry}

theorem entryFor_entryOf (named : appId ≠ []) :
    entryFor manager appId = entryOf manager appId := by
  rw [entryFor, if_neg named]

theorem entryOf_id (present : entryOf manager appId = some entry) : entry.id = appId := by
  obtain ⟨slot, found⟩ := lookup_some present
  exact findKey_key found

theorem entryOf_short (present : entryOf manager appId = some entry) : appId.length ≤ 31 := by
  rw [← entryOf_id present]
  exact Nat.le_of_lt_succ entry.appId.fits

theorem stateFor_entry {state : State} (live : state ≠ .none)
    (there : stateFor manager appId = state) :
    ∃ entry, appId ≠ [] ∧ entryOf manager appId = some entry ∧ entry.state = state := by
  by_cases named : appId = []
  · rw [stateFor, entryFor, if_pos named] at there
    exact absurd there.symm live
  · rw [stateFor, entryFor_entryOf named] at there
    cases present : entryOf manager appId with
    | none =>
        rw [present] at there
        exact absurd there.symm live
    | some entry =>
        rw [present] at there
        exact ⟨entry, named, rfl, there⟩

theorem entryOf_stored {slot : Fin maxEntries} (unique : Unique manager)
    (there : manager[slot] = some entry) : entryOf manager entry.id = some entry :=
  lookup_stored unique there

section Amend

variable {missing : Int} {refuses : Entry → Option Int} {edit : Entry → Entry}

theorem amend_accepts (unique : Unique manager) (named : appId ≠ [])
    (present : entryOf manager appId = some entry) (accepted : refuses entry = none)
    (kept : (edit entry).appId = entry.appId) :
    (amend manager appId missing refuses edit).1 = 0 ∧
      Rewrites appId (some (edit entry)) manager
        (amend manager appId missing refuses edit).2 := by
  obtain ⟨slot, found⟩ := lookup_some present
  have result : amend manager appId missing refuses edit =
      (0, manager.set slot (some (edit entry))) := by
    simp [amend, named, show findEntry manager appId = _ from found, accepted]
  have owner : (edit entry).id = appId :=
    (congrArg Buffer.text kept).trans (entryOf_id present)
  rw [result]
  exact ⟨rfl, distinct_rewrite unique (find_content found) (congrArg Buffer.text kept),
    lookup_put_found found (edit entry) owner⟩

theorem amend_effect (unique : Unique manager) (missingError : missing ≠ 0)
    (refusalError : ∀ entry error, refuses entry = some error → error ≠ 0)
    (kept : ∀ entry, (edit entry).appId = entry.appId) :
    ((amend manager appId missing refuses edit).1 ≠ 0 ∧
      (amend manager appId missing refuses edit).2 = manager) ∨
    ∃ entry, appId ≠ [] ∧ entryOf manager appId = some entry ∧ refuses entry = none ∧
      (amend manager appId missing refuses edit).1 = 0 ∧
      Rewrites appId (some (edit entry)) manager
        (amend manager appId missing refuses edit).2 := by
  rcases amend_cases manager appId missing refuses edit missingError refusalError with
    ⟨error, failed, result⟩ | ⟨slot, entry, named, found, accepted, _⟩
  · rw [result]
    exact .inl ⟨failed, rfl⟩
  · have present : entryOf manager appId = some entry := lookup_found found
    exact .inr ⟨entry, named, present, accepted,
      amend_accepts unique named present accepted (kept entry)⟩

theorem amend_ids (manager : Manager) (appId : Text) (limit : Nat)
    (kept : ∀ entry, (edit entry).appId = entry.appId) :
    (exportEntries (amend manager appId missing refuses edit).2 limit).map Entry.id =
      (exportEntries manager limit).map Entry.id := by
  unfold amend
  split
  · rfl
  · cases found : findEntry manager appId with
    | none => rfl
    | some pair =>
        dsimp only
        split
        · rfl
        · have ids := entries_put_keys Entry.id (find_content found)
            (congrArg Buffer.text (kept pair.2))
          rw [exportEntries, exportEntries, List.map_take, List.map_take]
          exact congrArg (List.take limit) ids

end Amend

theorem onlyFrom_accepts {states : List State} (member : entry.state ∈ states) :
    onlyFrom states entry = none :=
  onlyFrom_none.mpr member

/-- A prepare that is admitted leaves an entry in `PREPARING` that has the stable
reference of the one before, or none. -/
theorem prepareBegin_effect (unique : Unique manager) (short : appId.length ≤ 31) :
    ((prepareBegin manager appId).1 ≠ 0 ∧ (prepareBegin manager appId).2 = manager) ∨
    ∃ next, appId ≠ [] ∧ next.state = .preparing ∧
      (next.stableRef.text = [] ∨
        ∃ entry, entryOf manager appId = some entry ∧ next.stableRef = entry.stableRef) ∧
      (prepareBegin manager appId).1 = 0 ∧
      Rewrites appId (some next) manager (prepareBegin manager appId).2 := by
  rcases prepareBegin_cases manager appId with
    ⟨error, failed, result⟩ | ⟨slot, entry, named, found, _, result⟩ |
    ⟨slot, named, missing, free, result⟩
  · rw [result]
    exact .inl ⟨failed, rfl⟩
  · rw [result]
    have present : entryOf manager appId = some entry := lookup_found found
    refine .inr ⟨{ entry with state := .preparing, lastError := .empty }, named, rfl,
      .inr ⟨entry, present, rfl⟩, rfl, ?_, ?_⟩
    · exact distinct_rewrite unique (find_content found) rfl
    · exact lookup_put_found found _ (show entry.id = appId from entryOf_id present)
  · rw [result]
    have owner : (createdEntry appId).id = appId := copyBounded_exact appId short
    refine .inr ⟨{ createdEntry appId with state := .preparing }, named, rfl, .inl rfl, rfl,
      ?_, ?_⟩
    · refine distinct_insert unique ?_
      change findEntry manager (createdEntry appId).id = none
      rw [owner]
      exact missing
    · exact lookup_put_vacant missing free _ owner

theorem recordStableRef_accepts {ref : Text} (unique : Unique manager) (named : appId ≠ [])
    (present : entryOf manager appId = some entry) (located : ref ≠ []) :
    (recordStableRef manager appId ref).1 = 0 ∧
      Rewrites appId (some { entry with stableRef := copyBounded ref }) manager
        (recordStableRef manager appId ref).2 := by
  unfold recordStableRef
  rw [if_neg located]
  exact amend_accepts unique named present rfl rfl

theorem remove_effect (unique : Unique manager) (named : appId ≠ []) :
    Rewrites appId none manager (remove manager appId).2 := by
  unfold remove
  rw [if_neg named]
  cases found : findEntry manager appId with
  | none =>
      have absent : entryOf manager appId = none := lookup_none.mpr found
      simpa only [absent] using @Rewrites.refl appId manager unique
  | some pair =>
      exact ⟨distinct_clear _ unique, lookup_clear_found unique found⟩

end NeuroLink.UpdateManager
