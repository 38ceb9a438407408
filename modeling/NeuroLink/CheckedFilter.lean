import Mathlib.Data.List.Basic

/-!
Filtering a list with a test that can fail: the first failure is the result, else the
rows that pass are.
-/

namespace CheckedFilter

variable {α ε : Type} {test : α → Except ε Bool} {keep : α → Bool}

theorem filterAuxM_ok {rows : List α} (passes : ∀ row ∈ rows, test row = .ok (keep row))
    (kept : List α) :
    rows.filterAuxM test kept = .ok ((rows.filter keep).reverse ++ kept) := by
  induction rows generalizing kept with
  | nil => rfl
  | cons row rest ih =>
      obtain ⟨here, later⟩ := List.forall_mem_cons.mp passes
      rw [List.filterAuxM, here]
      refine (ih later _).trans ?_
      cases good : keep row with
      | true => simp [List.filter_cons_of_pos good]
      | false => simp [List.filter_cons_of_neg (Bool.not_eq_true _ ▸ good)]

theorem filterM_ok {rows : List α} (passes : ∀ row ∈ rows, test row = .ok (keep row)) :
    rows.filterM test = .ok (rows.filter keep) := by
  simp only [List.filterM, filterAuxM_ok passes, bind, Except.bind, pure, Except.pure]
  simp

theorem tested_of_filterAuxM {rows kept found : List α}
    (ran : rows.filterAuxM test kept = .ok found) : ∀ row ∈ rows, ∃ good, test row = .ok good := by
  induction rows generalizing kept with
  | nil => simp
  | cons row rest ih =>
      rw [List.filterAuxM] at ran
      cases tested : test row with
      | ok good =>
          rw [tested] at ran
          exact List.forall_mem_cons.mpr ⟨⟨good, tested⟩, ih ran⟩
      | error text =>
          rw [tested] at ran
          cases ran

theorem tested_of_filterM {rows kept : List α} (ran : rows.filterM test = .ok kept) :
    ∀ row ∈ rows, ∃ good, test row = .ok good := by
  cases found : rows.filterAuxM test [] with
  | error text =>
      simp only [List.filterM, found, bind, Except.bind] at ran
      cases ran
  | ok rows => exact tested_of_filterAuxM found

theorem failed_of_filterAuxM {rows kept : List α} {text : ε}
    (ran : rows.filterAuxM test kept = .error text) : ∃ row ∈ rows, test row = .error text := by
  induction rows generalizing kept with
  | nil => cases ran
  | cons row rest ih =>
      rw [List.filterAuxM] at ran
      cases tested : test row with
      | ok good =>
          rw [tested] at ran
          obtain ⟨later, member, fails⟩ := ih ran
          exact ⟨later, List.mem_cons_of_mem _ member, fails⟩
      | error other =>
          rw [tested] at ran
          cases ran
          exact ⟨row, List.mem_cons_self, tested⟩

theorem filterM_error {rows : List α} {failure : ε}
    (alike : ∀ row text, test row = .error text → text = failure)
    {row : α} (member : row ∈ rows) (fails : ∀ good, test row ≠ .ok good) :
    rows.filterM test = .error failure := by
  cases found : rows.filterAuxM test [] with
  | ok kept =>
      obtain ⟨good, passes⟩ := tested_of_filterAuxM found row member
      exact absurd passes (fails good)
  | error text =>
      obtain ⟨other, -, failed⟩ := failed_of_filterAuxM found
      rw [alike other text failed] at found
      simp only [List.filterM, found, bind, Except.bind]

end CheckedFilter
