import NeuroLink.SeedStore

/-!
One save under failing calls and crashes. Whatever the environment answers, a
load after a crash finds the old or the new snapshot exactly when the save kept
a copy: it did not truncate the store file itself, it did not remove the store
file in front of a legacy file with other contents, and it did not remove the
temporary file while that was the only copy left.
-/

namespace NeuroLink.SeedAtomicity

open CText EffectProgram Errno FileSystem RecoverySeed SeedStore

/-- A load with every call working. -/
def loaded (store : Store) (volume : Volume) : Except Int Snapshot :=
  (run machine [] (load store) volume).1

/-- The store file reads as the snapshot. -/
abbrev Stored (store : Store) (volume : Volume) (snapshot : Snapshot) : Prop :=
  readNode (volume store.path.text) = .ok snapshot

def EitherOf (old new : Snapshot) (result : Except Int Snapshot) : Prop :=
  result = .ok old ∨ result = .ok new

/-- The condition on the calls of a save under which it keeps a copy. A call
counts only when it succeeds. -/
def KeepsCopy (store : Store) (old new : Snapshot) : Event Op Reply Volume → Prop
  | ⟨.openTruncate path, _, reply, _⟩ =>
      reply = (0 : Int) → path ≠ store.path.text
  | ⟨.unlink path, before, reply, after⟩ =>
      reply = (0 : Int) →
        (path = store.path.text → ∀ content, content ≠ [] →
          after store.legacyPath.text = some (.file content) →
            EitherOf old new (readNode (some (.file content)))) ∧
        (path = store.tmpPath.text →
          before store.path.text ≠ none ∨ Usable before store.legacyPath.text)
  | _ => True

/-- What every state of a save that keeps a copy looks like: the old or the new
snapshot is under the store path, or the path is free and the legacy file has
one of them, or there is no legacy file and the temporary file has the new one. -/
structure Recoverable (store : Store) (old new : Snapshot) (volume : Volume) :
    Prop where
  parent : ∀ parent, splitParentDir store.path.text = .ok parent →
    volume parent = some .dir
  copy : EitherOf old new (readNode (volume store.path.text)) ∨
    volume store.path.text = none ∧ ParentExists volume store.path.text ∧
      ((∃ content, content ≠ [] ∧
          volume store.legacyPath.text = some (.file content) ∧
          EitherOf old new (readNode (some (.file content)))) ∨
        ¬ Usable volume store.legacyPath.text ∧
          readNode (volume store.tmpPath.text) = .ok new)

variable {store : Store} {old new : Snapshot} {volume : Volume}

theorem loaded_of_stored (addressed : Addressed store) {snapshot : Snapshot}
    (stored : Stored store volume snapshot) : loaded store volume = .ok snapshot := by
  obtain ⟨content, _, there⟩ := readNode_ok stored
  rw [loaded, load_present addressed.named addressed.legacyNamed there, ← there]
  exact stored

theorem Recoverable.loads (addressed : Addressed store)
    (recoverable : Recoverable store old new volume) :
    EitherOf old new (loaded store volume) := by
  rcases recoverable.copy with stored | ⟨missing, parent, legacy | ⟨unusable, tmp⟩⟩
  · exact stored.imp (loaded_of_stored addressed) (loaded_of_stored addressed)
  · obtain ⟨content, something, there, reads⟩ := legacy
    have result := (load_legacy addressed.named addressed.legacyNamed missing something
      there).1 parent
    rwa [loaded, result]
  · right
    exact (load_tmp addressed.named addressed.legacyNamed addressed.tmpNamed missing
      unusable).1 new tmp

/-! Keeping a copy is enough. -/

section Sufficient

variable {now : Volume}

theorem parent_ne (addressed : Addressed store)
    {parent : Text} (split : splitParentDir store.path.text = .ok parent) :
    parent ≠ store.path.text ∧ parent ≠ store.tmpPath.text := by
  have shorter := splitParentDir_shorter split
  constructor
  · rintro rfl
    omega
  · rintro rfl
    rcases addressed.tmpLonger with same | longer
    · rw [same] at shorter
      omega
    · omega

theorem Recoverable.off_tmp (addressed : Addressed store)
    (apart : store.tmpPath.text ≠ store.path.text)
    (recoverable : Recoverable store old new volume)
    (stored : EitherOf old new (readNode (volume store.path.text)))
    (others : ∀ path, path ≠ store.tmpPath.text → now path = volume path) :
    Recoverable store old new now ∧
      EitherOf old new (readNode (now store.path.text)) := by
  have same : now store.path.text = volume store.path.text := others _ (Ne.symm apart)
  rw [same]
  refine ⟨⟨fun parent split => ?_, .inl (by rwa [same])⟩, stored⟩
  rw [others parent (parent_ne addressed split).2]
  exact recoverable.parent parent split

theorem discardTmp_holds {error : Int} (negative : error < 0)
    (addressed : Addressed store) (apart : store.tmpPath.text ≠ store.path.text)
    (recoverable : Recoverable store old new now)
    (stored : EitherOf old new (readNode (now store.path.text))) :
    Holds machine (KeepsCopy store old new) (Recoverable store old new)
      (fun code after => code = 0 → Stored store after new)
      (discardTmp store error) now := by
  refine holds_discardTmp recoverable (fun zero => by omega) fun _ _ =>
    ⟨?_, fun zero => by omega⟩
  exact (recoverable.off_tmp addressed apart stored
    fun path other => Function.update_of_ne other _ _).1

theorem publishTmp_holds (addressed : Addressed store)
    (few : new.entries.length ≤ maxEntries)
    (apart : store.tmpPath.text ≠ store.path.text)
    (parent : ParentExists volume store.path.text)
    (recoverable : Recoverable store old new volume)
    (stored : EitherOf old new (readNode (volume store.path.text)))
    (writing : Writing store volume (image new) now)
    (whole : now store.tmpPath.text = some (.file (image new))) :
    Holds machine (KeepsCopy store old new) (Recoverable store old new)
      (fun code after => code = 0 → Stored store after new) (publishTmp store) now := by
  obtain ⟨here, there⟩ := recoverable.off_tmp addressed apart stored writing.others
  have legacyApart : store.legacyPath.text ≠ store.tmpPath.text := by
    intro clash
    exact apart (congrArg Buffer.text (addressed.tmpNotLegacy clash.symm))
  -- the temporary file in the place of the store file, from any state that
  -- agrees with `now` off the store path
  have placed (middle : Volume)
      (agrees : ∀ path, path ≠ store.path.text → middle path = now path) :
      Recoverable store old new
        (Function.update (Function.update middle store.tmpPath.text none)
          store.path.text (some (.file (image new)))) := by
    refine ⟨fun parent split => ?_, .inl (.inr ?_)⟩
    · obtain ⟨offPath, offTmp⟩ := parent_ne addressed split
      rw [Function.update_of_ne offPath, Function.update_of_ne offTmp, agrees _ offPath]
      exact here.parent parent split
    · rw [Function.update_self]
      exact readNode_image new few
  have published (middle : Volume) :
      Stored store (Function.update (Function.update middle store.tmpPath.text none)
        store.path.text (some (.file (image new)))) new := by
    rw [Stored, Function.update_self]
    exact readNode_image new few
  unfold publishTmp
  simp only [rename, unlink, Program.request_bind]
  refine holds_rename here (fun node found => ?_) (fun error negative => ?_)
  · rw [whole] at found
    cases found
    exact .pure (placed now fun _ _ => rfl) fun _ => published now
  · split
    · refine holds_unlink here (fun _ allowed => ?_) (fun error negative => ?_)
      · -- the store file is gone and the temporary file is the only sure copy
        have tmpStill : Function.update now store.path.text none store.tmpPath.text =
            some (.file (image new)) := by
          rw [Function.update_of_ne apart]
          exact whole
        have gone : Recoverable store old new
            (Function.update now store.path.text none) := by
          refine ⟨fun parent split => ?_, .inr ⟨Function.update_self .., ?_, ?_⟩⟩
          · rw [Function.update_of_ne (parent_ne addressed split).1]
            exact here.parent parent split
          · obtain ⟨directory, split, _⟩ := parent
            refine ⟨directory, split, ?_⟩
            rw [Function.update_of_ne (parent_ne addressed split).1]
            exact here.parent directory split
          · by_cases usable : Usable (Function.update now store.path.text none)
                store.legacyPath.text
            · obtain ⟨content, something, legacy⟩ := usable
              exact .inl ⟨content, something, legacy,
                (allowed rfl).1 rfl content something legacy⟩
            · refine .inr ⟨usable, ?_⟩
              rw [tmpStill]
              exact readNode_image new few
        rw [if_neg (by decide)]
        refine holds_rename gone (fun node found => ?_) (fun error negative => ?_)
        · rw [tmpStill] at found
          cases found
          exact .pure (placed _ fun path other => Function.update_of_ne other _ _)
            fun _ => published _
        · rw [if_pos negative]
          refine holds_discardTmp gone (fun zero => by omega) fun _ valid =>
            ⟨⟨fun parent split => ?_, .inr ⟨?_, ?_, ?_⟩⟩, fun zero => by omega⟩
          · rw [Function.update_of_ne (parent_ne addressed split).2]
            exact gone.parent parent split
          · rw [Function.update_of_ne (Ne.symm apart), Function.update_self]
          · obtain ⟨directory, split, _⟩ := parent
            refine ⟨directory, split, ?_⟩
            rw [Function.update_of_ne (parent_ne addressed split).2]
            exact gone.parent directory split
          · rcases (valid rfl).2 rfl with present | usable
            · rw [Function.update_self] at present
              exact absurd rfl present
            · obtain ⟨content, something, legacy⟩ := usable
              refine .inl ⟨content, something, ?_, ?_⟩
              · rw [Function.update_of_ne legacyApart]
                exact legacy
              · rcases gone.copy with copy | ⟨_, _, copy | ⟨unusable, _⟩⟩
                · rw [Function.update_self] at copy
                  rcases copy with copy | copy <;> cases copy
                · obtain ⟨other, _, found, reads⟩ := copy
                  rw [legacy] at found
                  cases found
                  exact reads
                · exact absurd ⟨content, something, legacy⟩ unusable
      · rw [if_pos negative]
        exact discardTmp_holds negative addressed apart here there
    · exact discardTmp_holds negative addressed apart here there

theorem save_holds (addressed : Addressed store)
    (parent : ∀ parent, splitParentDir store.path.text = .ok parent →
      volume parent = some .dir)
    (stored : Stored store volume old) :
    Holds machine (KeepsCopy store old new) (Recoverable store old new)
      (fun code after => code = 0 → Stored store after new) (save store new) volume := by
  have start : Recoverable store old new volume := ⟨parent, .inl (.inl stored)⟩
  unfold save
  rw [if_neg addressed.named,
    if_neg (not_or.mpr ⟨addressed.tmpNamed, addressed.bakNamed⟩)]
  -- the directory is there, so none has to be made
  refine holds_ensureParentDir start (fun ready splits => ?_)
    (fun directory split missing => ?_)
  · split
    · exact .pure start fun zero => by omega
    · next fine =>
        obtain ⟨directory, split⟩ := splits fine
        cases encoded : encode new maxImage with
        | error error =>
            refine .pure start fun zero => ?_
            unfold encode at encoded
            subst zero
            split at encoded
            · cases encoded
            · split at encoded <;> cases encoded
        | ok content =>
            obtain ⟨few, rfl⟩ := encode_ok_iff.mp encoded
            by_cases apart : store.tmpPath.text = store.path.text
            · -- the temporary file is the store file, so it was never opened
              have unopened (allowed : KeepsCopy store old new
                  ⟨.openTruncate store.tmpPath.text, volume, (0 : Int),
                    Function.update volume store.tmpPath.text (some (.file []))⟩) :
                  False := allowed rfl apart
              unfold writeTmp
              simp only [openTruncate, Program.request_bind]
              refine holds_openTruncate start (fun allowed => absurd allowed unopened)
                (fun error negative => ?_)
              simp only [negative, ↓reduceIte]
              exact .pure start fun zero => by omega
            · have exists_ : ParentExists volume store.path.text :=
                ⟨directory, split, parent directory split⟩
              refine holds_writeTmp start (fun error negative zero => by omega)
                (fun _ now writing => (start.off_tmp addressed apart (.inl stored)
                  writing.others).1)
                (fun _ now error negative writing => ?_)
                (fun now writing whole => publishTmp_holds addressed few apart exists_ start
                  (.inl stored) writing whole)
              obtain ⟨here, there⟩ := start.off_tmp addressed apart (.inl stored)
                writing.others
              exact discardTmp_holds negative addressed apart here there
  · rw [parent directory split] at missing
    cases missing

end Sufficient

/-! A save that does not keep a copy reaches a state without one. -/

theorem error_neither {error : Int} : ¬ EitherOf old new (.error error) := by
  rintro (same | same) <;> cases same

theorem copy_lost (addressed : Addressed store) {event : Event Op Reply Volume}
    (real : ∃ outcome, (event.reply, event.after) =
      machine.step outcome event.op event.before)
    (violates : ¬ KeepsCopy store old new event) :
    ¬ EitherOf old new (loaded store event.after) := by
  obtain ⟨outcome, answered⟩ := real
  obtain ⟨op, before, reply, after⟩ := event
  dsimp only at answered ⊢
  cases op with
  | openTruncate path =>
      -- the store file itself was truncated, and there is no snapshot in it
      have opened : reply = (0 : Int) ∧ path = store.path.text := by
        simpa [KeepsCopy] using violates
      obtain ⟨success, rfl⟩ := opened
      rcases step_openTruncate_cases outcome before store.path.text with
        result | ⟨error, negative, result⟩
      · have emptied : after = Function.update before store.path.text (some (.file [])) :=
          congrArg Prod.snd (answered.trans result)
        have present : after store.path.text = some (.file []) := by rw [emptied]; simp
        rw [loaded, load_present addressed.named addressed.legacyNamed present]
        exact error_neither
      · have same : reply = error := congrArg Prod.fst (answered.trans result)
        have zero : error = 0 := same.symm.trans success
        omega
  | unlink path =>
      simp only [KeepsCopy, Classical.not_imp, not_and_or] at violates
      obtain ⟨success, lost⟩ := violates
      rcases step_unlink_cases outcome before path with
        ⟨_, result⟩ | ⟨error, negative, result⟩
      · have removed : after = Function.update before path none :=
          congrArg Prod.snd (answered.trans result)
        rcases lost with ⟨rfl, foreign⟩ | ⟨rfl, alone⟩
        · -- the legacy file takes the free store path
          push Not at foreign
          obtain ⟨content, something, legacy, neither⟩ := foreign
          have missing : after store.path.text = none := by rw [removed]; simp
          have loads := (load_legacy addressed.named addressed.legacyNamed missing
            something legacy).2
          rintro (found | found)
          · exact neither (.inl (loads old found))
          · exact neither (.inr (loads new found))
        · -- neither of the two files is left
          obtain ⟨absent, unusable⟩ := not_or.mp alone
          have clear (other : Text) (gone : before other = none) : after other = none := by
            rw [removed]
            by_cases same : other = store.tmpPath.text
            · rw [same, Function.update_self]
            · rw [Function.update_of_ne same, gone]
          have still : ¬ Usable after store.legacyPath.text := by
            rintro ⟨content, something, there⟩
            rw [removed] at there
            by_cases same : store.legacyPath.text = store.tmpPath.text
            · rw [same, Function.update_self] at there
              cases there
            · rw [Function.update_of_ne same] at there
              exact unusable ⟨content, something, there⟩
          have result := (load_tmp addressed.named addressed.legacyNamed
            addressed.tmpNamed (clear _ (not_not.mp absent)) still).2
            (by rw [removed]; simp)
          rw [loaded, result]
          exact error_neither
      · have same : reply = error := congrArg Prod.fst (answered.trans result)
        have zero : error = 0 := same.symm.trans success
        omega
  | _ => exact absurd trivial violates

/-- A save answered in any way and cut off after any call can be followed by a
load of the old or the new snapshot, and of the new one after success, if and
only if the save kept a copy. -/
theorem save_atomic_iff (path : Option Text) (named : (init path).path.text ≠ [])
    (volume : Volume) (old new : Snapshot)
    (parent : ∀ parent, splitParentDir (init path).path.text = .ok parent →
      volume parent = some .dir)
    (stored : Stored (init path) volume old) (outcomes : List Outcome) :
    ((∀ visited ∈ states machine outcomes (save (init path) new) volume,
        EitherOf old new (loaded (init path) visited)) ∧
      ((run machine outcomes (save (init path) new) volume).1 = 0 →
        loaded (init path) (run machine outcomes (save (init path) new) volume).2 =
          .ok new)) ↔
      Meets machine (KeepsCopy (init path) old new) outcomes (save (init path) new)
        volume := by
  have addressed := init_addressed path named
  constructor
  · intro atomic event member
    obtain ⟨real, visited⟩ := events_real machine member
    by_contra violates
    exact copy_lost addressed real violates (atomic.1 _ visited)
  · intro meets
    have holds : Holds machine (KeepsCopy (init path) old new)
        (Recoverable (init path) old new)
        (fun code after => code = 0 → Stored (init path) after new)
        (save (init path) new) volume := save_holds addressed parent stored
    refine ⟨fun visited member => ?_, fun success => ?_⟩
    · exact (holds.states outcomes meets visited member).loads addressed
    · exact loaded_of_stored addressed (holds.run outcomes meets success)

/-! The store at the default path. -/

/-- A volume with the directory of the store and the store file in it. -/
def demoVolume : Volume := fun path =>
  if path = lit "/SD:" then some .dir
  else if path = defaultPath then some (.file (image ⟨[demoEntry]⟩))
  else none

theorem demoVolume_stored : Stored (init none) demoVolume ⟨[demoEntry]⟩ :=
  readNode_image ⟨[demoEntry]⟩ (by decide)

theorem demoVolume_parent (parent : Text)
    (split : splitParentDir (init none).path.text = .ok parent) :
    demoVolume parent = some .dir := by
  have directory : splitParentDir (init none).path.text = .ok (lit "/SD:") := by decide
  rw [directory] at split
  cases split
  decide

/-- A save whose calls all work is atomic. -/
theorem demoSave_atomic :
    (∀ visited ∈ states machine [] (save (init none) ⟨[]⟩) demoVolume,
      EitherOf ⟨[demoEntry]⟩ ⟨[]⟩ (loaded (init none) visited)) ∧
    ((run machine [] (save (init none) ⟨[]⟩) demoVolume).1 = 0 →
      loaded (init none) (run machine [] (save (init none) ⟨[]⟩) demoVolume).2 =
        .ok ⟨[]⟩) := by
  refine (save_atomic_iff none (by decide) demoVolume ⟨[demoEntry]⟩ ⟨[]⟩
    demoVolume_parent demoVolume_stored []).mpr fun event member => ?_
  have untouched : ∀ op ∈ (events machine [] (save (init none) ⟨[]⟩) demoVolume).map (·.op),
      (∀ path, op = .unlink path → False) ∧
        ∀ path, op = .openTruncate path → path ≠ (init none).path.text := by
    rw [show (events machine [] (save (init none) ⟨[]⟩) demoVolume).map (·.op) =
      [.stat (lit "/SD:"), .openTruncate (init none).tmpPath.text,
        .write (init none).tmpPath.text (image ⟨[]⟩), .sync (init none).tmpPath.text,
        .close (init none).tmpPath.text,
        .rename (init none).tmpPath.text (init none).path.text] from rfl]
    simp
    decide
  obtain ⟨noUnlink, noTruncate⟩ := untouched event.op (List.mem_map_of_mem member)
  obtain ⟨op, before, reply, after⟩ := event
  cases op with
  | unlink path => exact (noUnlink path rfl).elim
  | openTruncate path => exact fun _ => noTruncate path rfl
  | _ => trivial

/-- The answers under which a save loses both copies: the rename is refused
because the store file exists, the store file is removed, the second rename
fails and the temporary file is removed. -/
def losingAnswers : List Outcome :=
  [.works, .works, .works, .works, .works, .fails (-17) (by decide) 0, .works,
    .fails (-5) (by decide) 0, .works]

/-- Saves are not atomic under every pattern of failures. -/
theorem save_not_atomic :
    ¬ ∀ (path : Option Text) (volume : Volume) (old new : Snapshot)
        (outcomes : List Outcome),
      (init path).path.text ≠ [] → new.entries.length ≤ maxEntries →
      (∀ parent, splitParentDir (init path).path.text = .ok parent →
        volume parent = some .dir) →
      Stored (init path) volume old →
      ∀ visited ∈ states machine outcomes (save (init path) new) volume,
        EitherOf old new (loaded (init path) visited) := by
  intro claimed
  have kept := claimed none demoVolume ⟨[demoEntry]⟩ ⟨[]⟩ losingAnswers (by decide)
    (by decide) demoVolume_parent demoVolume_stored _
    (run_mem_states machine losingAnswers (save (init none) ⟨[]⟩) demoVolume)
  have lost : loaded (init none)
      (run machine losingAnswers (save (init none) ⟨[]⟩) demoVolume).2 =
        .error (-enoent) := by rfl
  rw [lost] at kept
  exact error_neither kept

end NeuroLink.SeedAtomicity
