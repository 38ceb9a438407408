import Mathlib.Algebra.Order.Group.Int
import Mathlib.Data.Int.ModEq
import Mathlib.Tactic.Common

/-!
A task that comes due again when an interval of rounds has gone by since it was last done.
Before it was ever done it is due in the rounds that the interval divides. It may also be done
for other reasons, and the interval then counts from there.
-/

namespace Recurrence

/-- Whether the task is due in a round, given the round in which it was last done. -/
def Due (interval : Int) : Option Nat → Nat → Prop
  | none, round => interval ∣ round
  | some last, round => interval ≤ round - last

instance (interval : Int) :
    (last : Option Nat) → (round : Nat) → Decidable (Due interval last round)
  | none, round => inferInstanceAs (Decidable (interval ∣ (round : Int)))
  | some last, round => inferInstanceAs (Decidable (interval ≤ (round : Int) - last))

/-- Whether it is done in a round in which it may be asked for. -/
def done (interval : Int) (last : Option Nat) (round : Nat) (asked : Bool) : Bool :=
  asked || decide (Due interval last round)

def renewed (last : Option Nat) (round : Nat) (done : Bool) : Option Nat :=
  if done then some round else last

/-- In which of the rounds from `round` on it is done. -/
def marks (interval : Int) (last : Option Nat) (round : Nat) : List Bool → List Bool
  | [] => []
  | asked :: rest =>
      done interval last round asked ::
        marks interval (renewed last round (done interval last round asked)) (round + 1) rest

def Past (last : Option Nat) (round : Nat) : Prop := ∀ before, last = some before → before < round

variable {interval : Int}

theorem marks_length (last : Option Nat) (round : Nat) (asks : List Bool) :
    (marks interval last round asks).length = asks.length := by
  induction asks generalizing last round with
  | nil => rfl
  | cons asked rest ih => rw [marks, List.length_cons, List.length_cons, ih]

theorem past_none (round : Nat) : Past none round := by
  intro before impossible
  cases impossible

theorem past_renewed {last : Option Nat} {round : Nat} (past : Past last round) (done : Bool) :
    Past (renewed last round done) (round + 1) := by
  intro before found
  cases done with
  | true =>
      cases found
      exact Nat.lt_succ_self round
  | false => exact Nat.lt_succ_of_lt (past before found)

theorem marks_drop (last : Option Nat) (round : Nat) (asks : List Bool) (past : Past last round)
    (start : Nat) :
    ∃ later, Past later (round + start) ∧
      (marks interval last round asks).drop start =
        marks interval later (round + start) (asks.drop start) := by
  induction start generalizing last round asks with
  | zero => exact ⟨last, past, rfl⟩
  | succ start ih =>
      cases asks with
      | nil => exact ⟨none, past_none _, rfl⟩
      | cons asked rest =>
          obtain ⟨later, before, same⟩ := ih _ (round + 1) rest
            (past_renewed past (done interval last round asked))
          rw [Nat.add_right_comm] at before same
          exact ⟨later, before, same⟩

theorem not_due_of_quiet (last : Option Nat) (round : Nat) (asks : List Bool) (window : Nat)
    (quiet : ∀ offset < window, (marks interval last round asks)[offset]? = some false) :
    ∀ offset < window, ¬ Due interval last (round + offset) := by
  induction window generalizing round asks with
  | zero => exact fun offset inside => absurd inside (Nat.not_lt_zero offset)
  | succ window ih =>
      cases asks with
      | nil => exact absurd (quiet 0 (Nat.succ_pos window)) (by simp [marks])
      | cons asked rest =>
          have first : done interval last round asked = false := by
            simpa [marks] using quiet 0 (Nat.succ_pos window)
          have idle : ¬ Due interval last round := by
            intro due
            simp [done, due] at first
          have later : ∀ offset < window,
              (marks interval last (round + 1) rest)[offset]? = some false := by
            intro offset inside
            have shifted := quiet (offset + 1) (Nat.succ_lt_succ inside)
            rw [marks, first] at shifted
            exact shifted
          intro offset inside
          cases offset with
          | zero => exact idle
          | succ offset =>
              rw [Nat.add_comm offset, ← Nat.add_assoc]
              exact ih (round + 1) rest later offset (Nat.lt_of_succ_lt_succ inside)

/-- The task comes due within an interval of any round. -/
theorem due_within (positive : 1 ≤ interval) {last : Option Nat} {round : Nat}
    (past : Past last round) : ∃ offset : Nat, (offset : Int) < interval ∧
      Due interval last (round + offset) := by
  cases last with
  | none =>
      refine ⟨(-(round : Int) % interval).toNat, ?_, ?_⟩
      · rw [Int.toNat_of_nonneg (Int.emod_nonneg _ (by omega))]
        exact Int.emod_lt_of_pos _ (by omega)
      · change interval ∣ ((round + (-(round : Int) % interval).toNat : Nat) : Int)
        rw [Nat.cast_add, Int.toNat_of_nonneg (Int.emod_nonneg _ (by omega))]
        rw [Int.dvd_iff_emod_eq_zero, Int.add_emod_emod, Int.add_right_neg, Int.zero_emod]
  | some before =>
      have earlier := past before rfl
      refine ⟨(interval - 1).toNat, by omega, ?_⟩
      change interval ≤ ((round + (interval - 1).toNat : Nat) : Int) - before
      omega

/-- Any run of rounds as long as the interval has one in which it is done. -/
theorem marks_window (positive : 1 ≤ interval) {last : Option Nat} {round : Nat}
    (past : Past last round) (asks : List Bool) (start window : Nat)
    (wide : interval ≤ window) (inside : start + window ≤ asks.length) :
    ∃ offset < window, (marks interval last round asks)[start + offset]? = some true := by
  obtain ⟨later, before, same⟩ := marks_drop last round asks past start
  obtain ⟨offset, close, due⟩ := due_within positive before
  by_contra never
  have quiet : ∀ offset < window,
      (marks interval later (round + start) (asks.drop start))[offset]? = some false := by
    intro offset within
    have shown : (marks interval last round asks)[start + offset]? ≠ some true :=
      fun marked => never ⟨offset, within, marked⟩
    rw [← same, List.getElem?_drop]
    have short : start + offset < (marks interval last round asks).length := by
      rw [marks_length]
      omega
    rw [List.getElem?_eq_getElem short] at shown ⊢
    cases value : (marks interval last round asks)[start + offset] with
    | true => exact absurd (congrArg some value) shown
    | false => rfl
  exact not_due_of_quiet later (round + start) (asks.drop start) window quiet offset
    (by omega) due

/-- The last time is the last round before that the interval divides, if there was one. -/
def Aligned (interval : Int) : Option Nat → Nat → Prop
  | none, round => 1 ≤ round ∧ round ≤ interval
  | some last, round => interval ∣ last ∧ last < round ∧ round ≤ last + interval

theorem due_iff_dvd {last : Option Nat} {round : Nat} (aligned : Aligned interval last round) :
    Due interval last round ↔ interval ∣ round := by
  cases last with
  | none => exact Iff.rfl
  | some before =>
      obtain ⟨divides, earlier, close⟩ := aligned
      constructor
      · intro due
        have exactly : (round : Int) = before + interval := by
          change interval ≤ (round : Int) - before at due
          omega
        rw [exactly]
        exact Int.dvd_add divides (Int.dvd_refl interval)
      · intro multiple
        change interval ≤ (round : Int) - before
        exact Int.le_of_dvd (by omega) (Int.dvd_sub multiple divides)

theorem aligned_next {last : Option Nat} {round : Nat} (aligned : Aligned interval last round) :
    Aligned interval (renewed last round (decide (interval ∣ (round : Int)))) (round + 1) := by
  by_cases multiple : interval ∣ (round : Int)
  · have positive : 1 ≤ interval := by
      cases last with
      | none => exact le_trans (by exact_mod_cast aligned.1) aligned.2
      | some before =>
          obtain ⟨_, earlier, close⟩ := aligned
          omega
    simp only [renewed, multiple, decide_true, if_true]
    exact ⟨multiple, Nat.lt_succ_self round, by push_cast; omega⟩
  · simp only [renewed, multiple, decide_false, Bool.false_eq_true, if_false]
    cases last with
    | none =>
        obtain ⟨first, close⟩ := aligned
        refine ⟨Nat.le_succ_of_le first, ?_⟩
        have apart : (round : Int) ≠ interval := fun same => multiple (same ▸ Int.dvd_refl _)
        push_cast
        omega
    | some before =>
        obtain ⟨divides, earlier, close⟩ := aligned
        refine ⟨divides, Nat.lt_succ_of_lt earlier, ?_⟩
        have apart : (round : Int) ≠ before + interval :=
          fun same => multiple (same ▸ Int.dvd_add divides (Int.dvd_refl interval))
        push_cast
        omega

/-- Never asked for, it is done in the rounds that the interval divides and in no others. -/
theorem marks_unasked {last : Option Nat} {round : Nat} (aligned : Aligned interval last round)
    (rounds offset : Nat) (inside : offset < rounds) :
    (marks interval last round (List.replicate rounds false))[offset]? =
      some (decide (interval ∣ ((round + offset : Nat) : Int))) := by
  induction rounds generalizing last round offset with
  | zero => exact absurd inside (Nat.not_lt_zero offset)
  | succ rounds ih =>
      have now : done interval last round false = decide (interval ∣ (round : Int)) := by
        rw [done, Bool.false_or]
        exact decide_eq_decide.mpr (due_iff_dvd aligned)
      rw [List.replicate_succ, marks, now]
      cases offset with
      | zero => rfl
      | succ offset =>
          rw [List.getElem?_cons_succ, ih (aligned_next aligned) offset
            (Nat.lt_of_succ_lt_succ inside), Nat.add_right_comm, Nat.add_assoc]

end Recurrence
