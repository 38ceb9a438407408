import NeuroLink.UpdateTrace

/-!
Who may touch a stage in flight. While an update is being prepared, verified,
activated or rolled back, its entry waits for the operation that ends the stage;
removal, an import and boot reconciliation may end any stage. An import replaces the
whole table and is left out here.
-/

namespace NeuroLink.StageOwnership

open CText Errno SlotTable UpdateManager UpdateTrace

def InFlight (state : State) : Prop :=
  state = .preparing ∨ state = .verifying ∨ state = .activating ∨
    state = .rollbackPending ∨ state = .rollingBack

/-- The operations by which a stage completes, is marked or fails. -/
inductive Own : Op → State → Prop
  | prepareComplete (appId) : Own (.prepareComplete appId) .preparing
  | prepareFail (appId reason) : Own (.prepareFail appId reason) .preparing
  | verifyComplete (appId) : Own (.verifyComplete appId) .verifying
  | verifyFail (appId reason) : Own (.verifyFail appId reason) .verifying
  | activateComplete (appId) : Own (.activateComplete appId) .activating
  | activateFail (appId reason) : Own (.activateFail appId reason) .activating
  | rollbackMarkInProgress (appId) : Own (.rollbackMarkInProgress appId) .rollbackPending
  | rollbackComplete (appId) : Own (.rollbackComplete appId) .rollingBack
  | rollbackFail (appId reason) {state} : state = .rollbackPending ∨ state = .rollingBack →
      Own (.rollbackFail appId reason) state

/-- The operations that may end any stage. -/
def Resets : Op → Prop
  | .remove _ | .reconcileAfterBoot .. => True
  | _ => False

def Foreign (op : Op) (state : State) : Prop := ¬ Own op state ∧ ¬ Resets op

def RecordsRef (op : Op) : Prop := ∃ appId ref, op = .recordStableRef appId ref

/-- A new prepare of the application whose rollback is in flight. -/
def OverRollback (op : Op) (entry : Entry) : Prop :=
  op = .prepareBegin entry.id ∧ (entry.state = .rollbackPending ∨ entry.state = .rollingBack)

/-- Every operation on a stage in flight that does not belong to it and is not
excepted is refused and changes nothing. -/
def Owned (excepted : Op → State → Prop) (manager : Manager) : Prop :=
  ∀ (op : Op) (slot : Fin maxEntries) (entry : Entry),
    findEntry manager op.appId = some (slot, entry) → InFlight entry.state →
      Foreign op entry.state → ¬ excepted op entry.state →
        (op.apply manager).1 ≠ 0 ∧ (op.apply manager).2 = manager

variable {manager : Manager} {op : Op} {slot : Fin maxEntries} {entry : Entry}

/-- A foreign operation moves no stage in flight, but for the note of a stable
reference and a prepare over a rollback. -/
theorem foreign_move {state next : State} (inFlight : InFlight state)
    (foreign : Foreign op state) (move : Move op state next) :
    RecordsRef op ∨ op = .prepareBegin op.appId ∧
      (state = .rollbackPending ∨ state = .rollingBack) := by
  obtain ⟨notOwn, noReset⟩ := foreign
  cases move with
  | prepareBegin appId idle =>
      rcases inFlight with rfl | rfl | rfl | rolling
      · exact absurd (show Busy .preparing by decide) idle
      · exact absurd (show Busy .verifying by decide) idle
      · exact absurd (show Busy .activating by decide) idle
      · exact .inr ⟨rfl, rolling⟩
  | prepareComplete appId => exact absurd (.prepareComplete appId) notOwn
  | prepareFail appId reason start =>
      rcases start with rfl | rfl
      · simp [InFlight] at inFlight
      · exact absurd (.prepareFail appId reason) notOwn
  | verifyBegin appId => simp [InFlight] at inFlight
  | verifyComplete appId => exact absurd (.verifyComplete appId) notOwn
  | verifyFail appId reason => exact absurd (.verifyFail appId reason) notOwn
  | activateBegin appId => simp [InFlight] at inFlight
  | activateComplete appId => exact absurd (.activateComplete appId) notOwn
  | activateFail appId reason => exact absurd (.activateFail appId reason) notOwn
  | recordStableRef appId ref => exact .inl ⟨appId, ref, rfl⟩
  | rollbackBegin appId reason start =>
      rcases start with rfl | rfl <;> simp [InFlight] at inFlight
  | rollbackMarkInProgress appId => exact absurd (.rollbackMarkInProgress appId) notOwn
  | rollbackComplete appId => exact absurd (.rollbackComplete appId) notOwn
  | rollbackFail appId reason start => exact absurd (.rollbackFail appId reason start) notOwn
  | reconcileKept => exact absurd trivial noReset
  | reconcileFailed => exact absurd trivial noReset

/-- A foreign operation on a stage in flight is refused. -/
theorem foreign_refused (found : findEntry manager op.appId = some (slot, entry))
    (inFlight : InFlight entry.state) (foreign : Foreign op entry.state)
    (notRecorded : ¬ RecordsRef op) (notOver : ¬ OverRollback op entry) :
    (op.apply manager).1 ≠ 0 ∧ (op.apply manager).2 = manager := by
  cases apply_outcome manager op with
  | rejected error failed result =>
      rw [result]
      exact ⟨failed, rfl⟩
  | moved target moved next _ at_ _ move =>
      rw [found] at at_
      cases at_
      rcases foreign_move inFlight foreign move with recorded | ⟨restarts, rolling⟩
      · exact absurd recorded notRecorded
      · rw [show op.appId = entry.id from (findKey_key found).symm] at restarts
        exact absurd ⟨restarts, rolling⟩ notOver
  | created target next _ _ missing =>
      rw [found] at missing
      cases missing
  | cleared target cleared _ removal =>
      rw [removal] at foreign
      exact absurd trivial foreign.2

theorem apply_elsewhere (stored : manager[slot] = some entry)
    (apart : ∀ other, findEntry manager op.appId ≠ some (slot, other)) :
    (op.apply manager).2[slot] = some entry := by
  have other : ∀ {target : Fin maxEntries} {content : Option Entry}, slot ≠ target →
      (manager.set target content)[slot] = some entry := by
    intro target content elsewhere
    rw [getElem_put, if_neg elsewhere]
    exact stored
  cases apply_outcome manager op with
  | rejected error failed result =>
      rw [result]
      exact stored
  | moved target moved next _ found _ _ result =>
      rw [result]
      refine other ?_
      rintro rfl
      exact apart moved found
  | created target next _ _ _ free _ _ result =>
      rw [result]
      refine other ?_
      rintro rfl
      rw [vacant_content free] at stored
      cases stored
  | cleared target cleared _ _ found result =>
      rw [result]
      refine other ?_
      rintro rfl
      exact apart cleared found

theorem recordStableRef_entry {appId ref : Text}
    (found : findEntry manager appId = some (slot, entry)) :
    (recordStableRef manager appId ref).2[slot] = some entry ∨
      (recordStableRef manager appId ref).2[slot] =
        some { entry with stableRef := copyBounded ref } := by
  have stored := find_content found
  unfold recordStableRef amend
  split
  · exact .inl stored
  split
  · exact .inl stored
  · rw [found]
    exact .inr (by simp)

/-- Whatever operation comes, a stage in flight stays as it is, or the operation is on
its entry and belongs to the stage, resets it, or notes a stable reference, which
changes that field alone; and every other operation on it is refused. Nothing is said
of a prepare of the application itself while its rollback is in flight. -/
theorem stage_owned (manager : Manager) (op : Op) (slot : Fin maxEntries) (entry : Entry)
    (stored : manager[slot] = some entry) (inFlight : InFlight entry.state)
    (notOver : ¬ OverRollback op entry) :
    ((op.apply manager).2[slot] = some entry ∨
      op.appId = entry.id ∧ (Own op entry.state ∨ Resets op ∨
        ∃ ref, op = .recordStableRef entry.id ref ∧
          (op.apply manager).2[slot] =
            some { entry with stableRef := copyBounded ref })) ∧
    (findEntry manager op.appId = some (slot, entry) → Foreign op entry.state →
      ¬ RecordsRef op → (op.apply manager).1 ≠ 0 ∧ (op.apply manager).2 = manager) := by
  refine ⟨?_, fun found foreign notRecorded =>
    foreign_refused found inFlight foreign notRecorded notOver⟩
  by_cases found : findEntry manager op.appId = some (slot, entry)
  · have owner : op.appId = entry.id := (findKey_key found).symm
    by_cases own : Own op entry.state
    · exact .inr ⟨owner, .inl own⟩
    by_cases resets : Resets op
    · exact .inr ⟨owner, .inr (.inl resets)⟩
    by_cases recorded : RecordsRef op
    · obtain ⟨appId, ref, rfl⟩ := recorded
      rcases @recordStableRef_entry _ _ _ appId ref found with same | noted
      · exact .inl same
      · exact .inr ⟨owner, .inr (.inr ⟨ref, by rw [← owner]; rfl, noted⟩)⟩
    · have refused := foreign_refused found inFlight ⟨own, resets⟩ recorded notOver
      rw [refused.2]
      exact .inl stored
  · refine .inl (apply_elsewhere stored fun other at_ => found ?_)
    have same := find_content at_
    rw [stored] at same
    cases same
    exact at_

/-- The operations that leave the entry of an application in `PREPARING`. -/
def preparingRun : List Op := [.prepareBegin (lit "demo")]

/-- A verify is refused while the prepare is in flight. -/
theorem preparingRun_owned :
    ((Op.verifyBegin (lit "demo")).apply (run preparingRun).manager).1 ≠ 0 ∧
      ((Op.verifyBegin (lit "demo")).apply (run preparingRun).manager).2 =
        (run preparingRun).manager := by
  have foreign : Foreign (.verifyBegin (lit "demo")) .preparing :=
    ⟨fun own => (by cases own), id⟩
  exact (stage_owned (run preparingRun).manager (.verifyBegin (lit "demo")) 0
    { createdEntry (lit "demo") with state := .preparing } (by decide) (.inl rfl)
    (fun restarted => by cases restarted.1)).2
    (by decide) foreign (fun records => by obtain ⟨_, _, same⟩ := records; cases same)

/-- The operations that leave the entry of an application in `ROLLBACK_PENDING`. -/
def rollbackRun : List Op :=
  [.prepareBegin (lit "demo"), .prepareFail (lit "demo") (lit "artifact download failed"),
    .rollbackBegin (lit "demo") (lit "rollback requested")]

/-- A stable reference is noted in the middle of a prepare, and a prepare starts over
in the middle of a rollback. -/
theorem stage_not_exclusive :
    (¬ ∀ ops : List Op, Owned (fun _ _ => False) (run ops).manager) ∧
      ¬ ∀ ops : List Op, Owned (fun op _ => RecordsRef op) (run ops).manager := by
  constructor
  · intro claimed
    have foreign : Foreign (.recordStableRef (lit "demo") (lit "/apps/demo.llext"))
        .preparing := ⟨fun own => (by cases own), id⟩
    have refused := (claimed preparingRun
      (.recordStableRef (lit "demo") (lit "/apps/demo.llext")) 0
      { createdEntry (lit "demo") with state := .preparing } (by decide) (.inl rfl)
      foreign id).1
    exact absurd refused (by decide)
  · intro claimed
    have found : ∃ entry, findEntry (run rollbackRun).manager (lit "demo") = some (0, entry) ∧
        entry.state = .rollbackPending := by
      refine ⟨{ createdEntry (lit "demo") with
        state := .rollbackPending
        lastError := copyBounded (lit "artifact download failed")
        rollbackReason := copyBounded (lit "rollback requested") }, by decide, rfl⟩
    obtain ⟨entry, present, pending⟩ := found
    have foreign : Foreign (.prepareBegin (lit "demo")) entry.state := by
      rw [pending]
      exact ⟨fun own => (by cases own), id⟩
    have refused := (claimed rollbackRun (.prepareBegin (lit "demo")) 0 entry present
      (by rw [pending]; exact .inr (.inr (.inr (.inl rfl)))) foreign
      (fun records => by obtain ⟨_, _, same⟩ := records; cases same)).1
    exact absurd refused (by decide)

end NeuroLink.StageOwnership
