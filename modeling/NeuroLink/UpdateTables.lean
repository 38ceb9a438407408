import NeuroLink.SnapshotView
import NeuroLink.UpdateService

/-!
What the service keeps of its two managers. The operations of the update manager keep
the applications on record; the artifact store holds one artifact for each of them at
most, at the path of the application.
-/

namespace NeuroLink.UpdateTables

open CText UpdateManager UpdateService

def appPath (config : Config) (appId : Text) : Text :=
  (buildAppPath config appId : Buffer 96).text

def PathsFit (config : Config) : Prop := config.appsDir.length ≤ 57

instance (config : Config) : Decidable (PathsFit config) := by
  unfold PathsFit
  infer_instance

theorem appPath_injective {config : Config} (fit : PathsFit config) {left right : Text}
    (leftShort : left.length ≤ 31) (rightShort : right.length ≤ 31)
    (same : appPath config left = appPath config right) : left = right := by
  have whole : ∀ appId : Text, appId.length ≤ 31 → appPath config appId =
      config.appsDir ++ lit "/" ++ appId ++ lit ".llext" := by
    intro appId short
    refine copyBounded_exact _ ?_
    have slash : (lit "/").length = 1 := rfl
    have suffix : (lit ".llext").length = 6 := rfl
    unfold PathsFit at fit
    rw [List.length_append, List.length_append, List.length_append]
    omega
  rw [whole left leftShort, whole right rightShort, List.append_cancel_right_eq,
    List.append_cancel_left_eq] at same
  exact same

/-- Different applications have different artifact paths. -/
def PathsApart (config : Config) : Prop :=
  ∀ left right : Text, left.length ≤ 31 → right.length ≤ 31 →
    appPath config left = appPath config right → left = right

theorem PathsFit.apart {config : Config} (fit : PathsFit config) : PathsApart config :=
  fun _ _ => appPath_injective fit

def Sound (manager : Manager) : Prop :=
  ∀ appId entry, entryOf manager appId = some entry → appId ≠ [] ∧ entry.state ≠ .none

/-- An entry that a snapshot takes for an update record. -/
def Recorded (entry : Entry) : Prop :=
  entry.state ≠ .none ∨ entry.lastError.text ≠ [] ∨ entry.rollbackReason.text ≠ [] ∨
    entry.stableRef.text ≠ []

def Lasting (manager : Manager) : Prop :=
  ∀ appId entry, entryOf manager appId = some entry → appId ≠ [] ∧ Recorded entry

/-- A change of the update manager after which every application on record still is. -/
structure Retains (before after : Manager) : Prop where
  unique : Unique before → Unique after
  present : ∀ appId, entryOf before appId ≠ none → entryOf after appId ≠ none
  sound : Sound before → Sound after
  lasting : Lasting before → Lasting after

/-- One that neither verifies an application nor gives it a stable reference. -/
structure Calm (before after : Manager) : Prop extends Retains before after where
  verified : ∀ appId entry, entryOf after appId = some entry → entry.state = .verified →
    ∃ earlier, entryOf before appId = some earlier ∧ earlier.state = .verified
  stable : ∀ appId entry, entryOf after appId = some entry → entry.stableRef.text ≠ [] →
    ∃ earlier, entryOf before appId = some earlier ∧ earlier.stableRef = entry.stableRef

section Changes

variable {before after manager : Manager} {appId : Text} {next : Entry} {missing : Int}
  {refuses : Entry → Option Int} {edit : Entry → Entry}

theorem Retains.refl (manager : Manager) : Retains manager manager :=
  ⟨id, fun _ => id, id, id⟩

theorem Retains.of_rewrites (named : appId ≠ []) (live : Sound before → next.state ≠ .none)
    (kept : Lasting before → Recorded next)
    (rewrites : Rewrites appId (some next) before after) : Retains before after where
  unique _ := rewrites.unique
  present name there := by
    by_cases same : name = appId
    · rw [same, rewrites.own]
      exact Option.some_ne_none next
    · rw [rewrites.other same]
      exact there
  sound before name entry present := by
    by_cases same : name = appId
    · rw [same, rewrites.own] at present
      cases present
      exact ⟨same ▸ named, live before⟩
    · rw [rewrites.other same] at present
      exact before name entry present
  lasting before name entry present := by
    by_cases same : name = appId
    · rw [same, rewrites.own] at present
      cases present
      exact ⟨same ▸ named, kept before⟩
    · rw [rewrites.other same] at present
      exact before name entry present

theorem Calm.refl (manager : Manager) : Calm manager manager where
  toRetains := .refl manager
  verified _ entry present verified := ⟨entry, present, verified⟩
  stable _ entry present _ := ⟨entry, present, rfl⟩

theorem Calm.of_rewrites (retains : Retains before after)
    (rewrites : Rewrites appId (some next) before after)
    (unverified : next.state = .verified →
      ∃ entry, entryOf before appId = some entry ∧ entry.state = .verified)
    (kept : next.stableRef.text ≠ [] →
      ∃ entry, entryOf before appId = some entry ∧ entry.stableRef = next.stableRef) :
    Calm before after where
  toRetains := retains
  verified name entry present verified := by
    by_cases same : name = appId
    · rw [same, rewrites.own] at present
      cases present
      rw [same]
      exact unverified verified
    · rw [rewrites.other same] at present
      exact ⟨entry, present, verified⟩
  stable name entry present located := by
    by_cases same : name = appId
    · rw [same, rewrites.own] at present
      cases present
      rw [same]
      exact kept located
    · rw [rewrites.other same] at present
      exact ⟨entry, present, rfl⟩

theorem amend_retains (appId : Text) (unique : Unique manager) (missingError : missing ≠ 0)
    (refusalError : ∀ entry error, refuses entry = some error → error ≠ 0)
    (kept : ∀ entry, (edit entry).appId = entry.appId)
    (live : ∀ entry, entry.state ≠ .none → (edit entry).state ≠ .none)
    (lasts : ∀ entry, Recorded entry → Recorded (edit entry)) :
    Retains manager (amend manager appId missing refuses edit).2 := by
  rcases amend_effect unique missingError refusalError kept with
    ⟨_, same⟩ | ⟨entry, named, present, _, _, rewrites⟩
  · rw [same]
    exact .refl manager
  · exact .of_rewrites named (fun sound => live entry (sound appId entry present).2)
      (fun lasting => lasts entry (lasting appId entry present).2) rewrites

theorem amend_calm (appId : Text) (unique : Unique manager) (missingError : missing ≠ 0)
    (refusalError : ∀ entry error, refuses entry = some error → error ≠ 0)
    (kept : ∀ entry, (edit entry).appId = entry.appId)
    (stable : ∀ entry, (edit entry).stableRef = entry.stableRef)
    (moves : ∀ entry, edit entry = entry ∨
      (edit entry).state ≠ .none ∧ (edit entry).state ≠ .verified) :
    Calm manager (amend manager appId missing refuses edit).2 := by
  have retains : Retains manager (amend manager appId missing refuses edit).2 := by
    refine amend_retains appId unique missingError refusalError kept (fun entry live => ?_)
      fun entry recorded => ?_
    · rcases moves entry with same | ⟨some, _⟩
      · rw [same]
        exact live
      · exact some
    · rcases moves entry with same | ⟨some, _⟩
      · rw [same]
        exact recorded
      · exact .inl some
  rcases amend_effect unique missingError refusalError kept with
    ⟨_, same⟩ | ⟨entry, _, present, _, _, rewrites⟩
  · rw [same]
    exact .refl manager
  · refine .of_rewrites retains rewrites (fun verified => ⟨entry, present, ?_⟩)
      fun _ => ⟨entry, present, (stable entry).symm⟩
    rcases moves entry with same | ⟨_, unverified⟩
    · rw [same] at verified
      exact verified
    · exact absurd verified unverified

theorem fail_calm {states : List State} (appId reason : Text) (unique : Unique manager) :
    Calm manager (amend manager appId (-Errno.eperm) (onlyFrom states) (.fail reason)).2 :=
  amend_calm appId unique (by decide) (onlyFrom_error states) (fun _ => rfl) (fun _ => rfl)
    fun _ => by simp [Entry.fail]

theorem move_calm {states : List State} {state : State} (appId : Text)
    (moves : state ≠ .none ∧ state ≠ .verified) (unique : Unique manager) :
    Calm manager (amend manager appId (-Errno.eperm) (onlyFrom states) (.moveTo state)).2 :=
  amend_calm appId unique (by decide) (onlyFrom_error states) (fun _ => rfl) (fun _ => rfl)
    fun _ => .inr moves

theorem rollbackBegin_calm (appId reason : Text) (unique : Unique manager) :
    Calm manager (rollbackBegin manager appId reason).2 :=
  amend_calm appId unique (by decide) rollbackRefuses_error (fun _ => rfl) (fun _ => rfl)
    fun _ => by simp

theorem reconciled_cases (runtimeActive available : Bool) (entry : Entry) :
    reconciled runtimeActive available entry = entry ∨
      ∃ reason, reconciled runtimeActive available entry = entry.fail reason := by
  unfold reconciled
  split
  case h_7 | h_8 =>
    cases available
    · exact .inr ⟨_, rfl⟩
    · exact .inl rfl
  case h_9 =>
    cases runtimeActive
    · exact .inr ⟨_, rfl⟩
    · exact .inl rfl
  case h_10 | h_11 | h_12 | h_13 => exact .inl rfl
  all_goals exact .inr ⟨_, rfl⟩

theorem reconcile_calm (appId : Text) (runtimeActive available : Bool) (unique : Unique manager) :
    Calm manager (reconcileAfterBoot manager appId runtimeActive available).2 := by
  have cases := reconciled_cases runtimeActive available
  refine amend_calm appId unique (by decide) (by simp) (fun entry => ?_) (fun entry => ?_)
    fun entry => ?_
  · rcases cases entry with same | ⟨reason, failed⟩
    · rw [same]
    · rw [failed, Entry.fail]
  · rcases cases entry with same | ⟨reason, failed⟩
    · rw [same]
    · rw [failed, Entry.fail]
  · rcases cases entry with same | ⟨reason, failed⟩
    · exact .inl same
    · rw [failed]
      exact .inr (by simp [Entry.fail])

theorem verifyComplete_retains (appId : Text) (unique : Unique manager) :
    Retains manager (verifyComplete manager appId).2 :=
  amend_retains appId unique (by decide) (onlyFrom_error _) (fun _ => rfl)
    (fun _ _ => by simp [Entry.moveTo]) fun _ _ => .inl (by simp [Entry.moveTo])

theorem recordStableRef_retains (appId ref : Text) (unique : Unique manager) :
    Retains manager (recordStableRef manager appId ref).2 := by
  unfold recordStableRef
  split
  · exact .refl manager
  · next given =>
    have stored : (copyBounded ref : Buffer 96).text ≠ [] := by
      cases ref with
      | nil => exact absurd rfl given
      | cons letter rest => simp [copyBounded_text]
    exact amend_retains appId unique (by decide) (by simp) (fun _ => rfl) (fun _ live => live)
      fun _ _ => .inr (.inr (.inr stored))

theorem prepareBegin_present (unique : Unique manager) (short : appId.length ≤ 31)
    (admitted : (prepareBegin manager appId).1 = 0) :
    entryOf (prepareBegin manager appId).2 appId ≠ none := by
  rcases prepareBegin_effect unique short with ⟨failed, _⟩ | ⟨next, _, _, _, _, rewrites⟩
  · exact absurd admitted failed
  · rw [rewrites.own]
    exact Option.some_ne_none next

theorem prepareBegin_calm (unique : Unique manager) (short : appId.length ≤ 31) :
    Calm manager (prepareBegin manager appId).2 := by
  rcases prepareBegin_effect unique short with
    ⟨_, same⟩ | ⟨next, named, preparing, stable, _, rewrites⟩
  · rw [same]
    exact .refl manager
  · have retains := Retains.of_rewrites named (by simp [preparing])
      (fun _ => .inl (by simp [preparing])) rewrites
    refine .of_rewrites retains rewrites (by simp [preparing]) fun located => ?_
    rcases stable with empty | ⟨entry, present, same⟩
    · exact absurd empty located
    · exact ⟨entry, present, same.symm⟩

end Changes

def Located (config : Config) (store : ArtifactStore.Store) : Prop :=
  ∀ (slot : Fin ArtifactStore.maxEntries) (artifact : ArtifactStore.Meta),
    store[slot] = some artifact → artifact.path.text = appPath config artifact.id

/-- What every request keeps of two managers with any past: an application has at most
one entry in each, and there is no artifact of an application that is not on record. -/
structure Listed (updates : Manager) (artifacts : ArtifactStore.Store) : Prop where
  unique : Unique updates
  lasting : Lasting updates
  distinct : SlotTable.Distinct ArtifactStore.Meta.id artifacts
  covered : SeedSnapshot.Covered updates artifacts

/-- What the service keeps of its own two managers: besides, every update has begun and
every artifact lies at the path of its application. -/
structure Tidy (config : Config) (updates : Manager) (artifacts : ArtifactStore.Store) :
    Prop extends Listed updates artifacts where
  sound : Sound updates
  located : Located config artifacts

section Tables

variable {config : Config} {updates after : Manager} {store : ArtifactStore.Store}
  {appId : Text}

theorem Listed.recorded (listed : Listed updates store)
    (stored : SlotTable.lookup ArtifactStore.Meta.id store appId ≠ none) :
    entryOf updates appId ≠ none := by
  obtain ⟨artifact, there⟩ := Option.ne_none_iff_exists'.mp stored
  obtain ⟨slot, found⟩ := SlotTable.lookup_some there
  have own : artifact.id = appId := SlotTable.findKey_key found
  rw [← own]
  exact listed.covered slot artifact (SlotTable.find_content found)

theorem Listed.updated (listed : Listed updates store) (retains : Retains updates after) :
    Listed after store where
  unique := retains.unique listed.unique
  lasting := retains.lasting listed.lasting
  distinct := listed.distinct
  covered slot artifact there := retains.present artifact.id (listed.covered slot artifact there)

theorem Tidy.updated (tidy : Tidy config updates store) (retains : Retains updates after) :
    Tidy config after store where
  toListed := tidy.toListed.updated retains
  sound := retains.sound tidy.sound
  located := tidy.located

def Every (wanted : ArtifactStore.Meta → Prop) (store : ArtifactStore.Store) : Prop :=
  ∀ (slot : Fin ArtifactStore.maxEntries) (artifact : ArtifactStore.Meta),
    store[slot] = some artifact → wanted artifact

theorem Every.put {wanted : ArtifactStore.Meta → Prop} (every : Every wanted store)
    {slot : Fin ArtifactStore.maxEntries} {content : Option ArtifactStore.Meta}
    (placed : ∀ artifact, content = some artifact → wanted artifact) :
    Every wanted (store.set slot content slot.isLt) := by
  intro other artifact there
  rw [SlotTable.getElem_put] at there
  split at there
  · exact placed artifact there
  · exact every other artifact there

theorem appPath_short (config : Config) (appId : Text) : (appPath config appId).length ≤ 95 :=
  Nat.le_of_lt_succ (buildAppPath config appId : Buffer 96).fits

theorem setState_keeps {wanted : ArtifactStore.Meta → Prop} (appId : Text)
    (state : ArtifactStore.State) (every : Every wanted store)
    (stays : ∀ artifact, wanted artifact → wanted { artifact with state := state })
    (distinct : SlotTable.Distinct ArtifactStore.Meta.id store) :
    Every wanted (ArtifactStore.setState store appId state).2 ∧
      SlotTable.Distinct ArtifactStore.Meta.id (ArtifactStore.setState store appId state).2 := by
  unfold ArtifactStore.setState
  split
  · exact ⟨every, distinct⟩
  · cases found : ArtifactStore.findEntry store appId with
    | none => exact ⟨every, distinct⟩
    | some pair =>
        have stored := SlotTable.find_content found
        refine ⟨every.put fun artifact same => ?_,
          SlotTable.distinct_rewrite distinct stored rfl⟩
        cases same
        exact stays pair.2 (every pair.1 pair.2 stored)

theorem removed_keeps {wanted : ArtifactStore.Meta → Prop} (appId : Text)
    (every : Every wanted store) (distinct : SlotTable.Distinct ArtifactStore.Meta.id store) :
    Every wanted (ArtifactStore.remove store appId).2 ∧
      SlotTable.Distinct ArtifactStore.Meta.id (ArtifactStore.remove store appId).2 := by
  unfold ArtifactStore.remove
  split
  · exact ⟨every, distinct⟩
  · cases ArtifactStore.findEntry store appId with
    | none => exact ⟨every, distinct⟩
    | some pair => exact ⟨every.put (by simp), SlotTable.distinct_clear _ distinct⟩

theorem staged_keeps {wanted : ArtifactStore.Meta → Prop} (short : appId.length ≤ 31)
    (path transport key : Text) (size chunkSize received : Nat) (every : Every wanted store)
    (placed : ∀ artifact : ArtifactStore.Meta, artifact.id = appId →
      artifact.path = copyBounded path → wanted artifact)
    (distinct : SlotTable.Distinct ArtifactStore.Meta.id store) :
    Every wanted (ArtifactStore.stage store appId transport key path size chunkSize received).2 ∧
      SlotTable.Distinct ArtifactStore.Meta.id
        (ArtifactStore.stage store appId transport key path size chunkSize received).2 := by
  unfold ArtifactStore.stage
  split
  · exact ⟨every, distinct⟩
  · cases found : ArtifactStore.findEntry store appId with
    | some pair =>
        have stored := SlotTable.find_content found
        have own : pair.2.id = appId := SlotTable.findKey_key found
        refine ⟨every.put fun artifact same => ?_,
          SlotTable.distinct_rewrite distinct stored rfl⟩
        cases same
        exact placed _ own rfl
    | none =>
        dsimp only
        split
        · exact ⟨every, distinct⟩
        · have own : (copyBounded appId : Buffer 32).text = appId := copyBounded_exact appId short
          refine ⟨every.put fun artifact same => ?_, SlotTable.distinct_insert distinct ?_⟩
          · cases same
            exact placed _ own rfl
          · change ArtifactStore.findEntry store (copyBounded appId : Buffer 32).text = none
            rw [own]
            exact found

theorem removed_other (named : appId ≠ [])
    (distinct : SlotTable.Distinct ArtifactStore.Meta.id store)
    {slot : Fin ArtifactStore.maxEntries} {artifact : ArtifactStore.Meta}
    (there : (ArtifactStore.remove store appId).2[slot] = some artifact) :
    store[slot] = some artifact ∧ artifact.id ≠ appId := by
  unfold ArtifactStore.remove at there
  rw [if_neg named] at there
  cases found : ArtifactStore.findEntry store appId with
  | none =>
      rw [found] at there
      have other := (SlotTable.find_none_iff _ _).mp found slot artifact there
      exact ⟨there, of_decide_eq_false other⟩
  | some pair =>
      rw [found] at there
      dsimp only at there
      rw [SlotTable.getElem_put] at there
      split at there
      · cases there
      · next apart =>
        refine ⟨there, fun same => apart ?_⟩
        have own : pair.2.id = appId := SlotTable.findKey_key found
        exact distinct slot pair.1 artifact pair.2 there (SlotTable.find_content found)
          (same.trans own.symm)

theorem Listed.setState (listed : Listed updates store) (appId : Text)
    (state : ArtifactStore.State) :
    Listed updates (ArtifactStore.setState store appId state).2 :=
  have kept := setState_keeps appId state listed.covered (fun _ => id) listed.distinct
  ⟨listed.unique, listed.lasting, kept.2, kept.1⟩

theorem Listed.removed (listed : Listed updates store) (appId : Text) :
    Listed updates (ArtifactStore.remove store appId).2 :=
  have kept := removed_keeps appId listed.covered listed.distinct
  ⟨listed.unique, listed.lasting, kept.2, kept.1⟩

theorem Listed.staged (listed : Listed updates store) (short : appId.length ≤ 31)
    (present : entryOf updates appId ≠ none) (path transport key : Text)
    (size chunkSize received : Nat) :
    Listed updates
      (ArtifactStore.stage store appId transport key path size chunkSize received).2 :=
  have kept := staged_keeps short path transport key size chunkSize received listed.covered
    (fun _ own _ => by rw [own]; exact present) listed.distinct
  ⟨listed.unique, listed.lasting, kept.2, kept.1⟩

theorem Listed.forgotten (listed : Listed updates store) (named : appId ≠ []) :
    Listed (remove updates appId).2 (ArtifactStore.remove store appId).2 := by
  have rewrites := @remove_effect updates appId listed.unique named
  refine ⟨rewrites.unique, fun name entry present => ?_, (listed.removed appId).distinct,
    fun slot artifact there => ?_⟩
  · rw [rewrites.view] at present
    split at present
    · cases present
    · exact listed.lasting name entry present
  · obtain ⟨stored, apart⟩ := removed_other named listed.distinct there
    rw [rewrites.other apart]
    exact listed.covered slot artifact stored

theorem Tidy.setState (tidy : Tidy config updates store) (appId : Text)
    (state : ArtifactStore.State) :
    Tidy config updates (ArtifactStore.setState store appId state).2 where
  toListed := tidy.toListed.setState appId state
  sound := tidy.sound
  located := (setState_keeps appId state tidy.located (fun _ => id) tidy.distinct).1

theorem Tidy.removed (tidy : Tidy config updates store) (appId : Text) :
    Tidy config updates (ArtifactStore.remove store appId).2 where
  toListed := tidy.toListed.removed appId
  sound := tidy.sound
  located := (removed_keeps appId tidy.located tidy.distinct).1

theorem Tidy.staged (tidy : Tidy config updates store) (short : appId.length ≤ 31)
    (present : entryOf updates appId ≠ none) (transport key : Text)
    (size chunkSize received : Nat) :
    Tidy config updates (ArtifactStore.stage store appId transport key (appPath config appId)
      size chunkSize received).2 where
  toListed := tidy.toListed.staged short present _ transport key size chunkSize received
  sound := tidy.sound
  located := by
    have whole : (copyBounded (appPath config appId) : Buffer 128).text = appPath config appId :=
      copyBounded_exact _ (Nat.le_trans (appPath_short config appId) (by decide))
    refine (staged_keeps short _ transport key size chunkSize received tidy.located
      (fun artifact own path => ?_) tidy.distinct).1
    rw [path, own]
    exact whole

theorem Tidy.forgotten (tidy : Tidy config updates store) (named : appId ≠ []) :
    Tidy config (remove updates appId).2 (ArtifactStore.remove store appId).2 where
  toListed := tidy.toListed.forgotten named
  sound name entry present := by
    rw [(@remove_effect updates appId tidy.unique named).view] at present
    split at present
    · cases present
    · exact tidy.sound name entry present
  located := (tidy.removed appId).located

/-- What the requests need of a condition on the two managers: it survives the changes
they make. -/
structure Upkeep (config : Config) (tables : Manager → ArtifactStore.Store → Prop) : Prop where
  listed : ∀ {updates store}, tables updates store → Listed updates store
  updated : ∀ {updates after store}, tables updates store → Retains updates after →
    tables after store
  setState : ∀ {updates store} (appId : Text) (state : ArtifactStore.State),
    tables updates store → tables updates (ArtifactStore.setState store appId state).2
  removed : ∀ {updates store} (appId : Text), tables updates store →
    tables updates (ArtifactStore.remove store appId).2
  staged : ∀ {updates store} {appId : Text} (transport key : Text)
    (size chunkSize received : Nat), tables updates store → appId.length ≤ 31 →
    entryOf updates appId ≠ none →
    tables updates (ArtifactStore.stage store appId transport key (appPath config appId)
      size chunkSize received).2
  forgotten : ∀ {updates store} {appId : Text}, tables updates store → appId ≠ [] →
    tables (remove updates appId).2 (ArtifactStore.remove store appId).2

theorem listed_upkeep (config : Config) : Upkeep config Listed where
  listed := id
  updated listed retains := listed.updated retains
  setState appId state listed := listed.setState appId state
  removed appId listed := listed.removed appId
  staged transport key size chunkSize received listed short present :=
    listed.staged short present _ transport key size chunkSize received
  forgotten listed named := listed.forgotten named

theorem tidy_upkeep (config : Config) : Upkeep config (Tidy config) where
  listed := Tidy.toListed
  updated tidy retains := tidy.updated retains
  setState appId state tidy := tidy.setState appId state
  removed appId tidy := tidy.removed appId
  staged transport key size chunkSize received tidy short present :=
    tidy.staged short present transport key size chunkSize received
  forgotten tidy named := tidy.forgotten named

theorem located_get {appId : Text} {artifact : ArtifactStore.Meta}
    (located : Located config store) (present : ArtifactStore.get store appId = some artifact) :
    artifact.path.text = appPath config appId := by
  unfold ArtifactStore.get at present
  split at present
  · cases present
  · obtain ⟨slot, found⟩ := SlotTable.lookup_some present
    have own : artifact.id = appId := SlotTable.findKey_key found
    rw [← own]
    exact located slot artifact (SlotTable.find_content found)

end Tables

end NeuroLink.UpdateTables
