import Mathlib.Data.List.Basic
import Mathlib.Tactic.Common

/-!
A filter that lets each key pass once. What has no key always passes, and only which keys it
has seen matters to the filter, not in which order.
-/

namespace KeyFilter

universe u

variable {Key : Type u} [DecidableEq Key]

def pass (seen : List Key) : List (Option Key) → List Bool
  | [] => []
  | none :: rest => true :: pass seen rest
  | some key :: rest => decide (key ∉ seen) :: pass (key :: seen) rest

variable {seen other : List Key}

@[simp] theorem pass_length (keys : List (Option Key)) :
    (pass seen keys).length = keys.length := by
  induction keys generalizing seen with
  | nil => rfl
  | cons key rest ih =>
      cases key with
      | none => simp [pass, ih]
      | some key => simp [pass, ih]

theorem pass_congr (keys : List (Option Key)) (same : ∀ key, key ∈ seen ↔ key ∈ other) :
    pass seen keys = pass other keys := by
  induction keys generalizing seen other with
  | nil => rfl
  | cons key rest ih =>
      cases key with
      | none => simp only [pass, ih same]
      | some key =>
          have more : ∀ known, known ∈ key :: seen ↔ known ∈ key :: other := by
            intro known
            rw [List.mem_cons, List.mem_cons, same known]
          simp only [pass, ih more, same key]

omit [DecidableEq Key] in
theorem mem_seen_or_later {key : Option Key} {later : List (Option Key)} {found : Key} :
    found ∈ key.toList ++ seen ∨ some found ∈ later ↔
      found ∈ seen ∨ some found ∈ key :: later := by
  rw [List.mem_append, Option.mem_toList, List.mem_cons, eq_comm]
  exact or_right_comm.trans or_comm

theorem pass_append {after : List Key} (first rest : List (Option Key))
    (left : ∀ key, key ∈ after ↔ key ∈ seen ∨ some key ∈ first) :
    pass seen (first ++ rest) = pass seen first ++ pass after rest := by
  induction first generalizing seen with
  | nil => exact pass_congr rest fun key => by simpa using (left key).symm
  | cons key others ih =>
      cases key with
      | none =>
          have same : ∀ known, known ∈ after ↔ known ∈ seen ∨ some known ∈ others := by
            simpa using left
          simp only [List.cons_append, pass, ih same]
      | some key =>
          have same : ∀ known, known ∈ after ↔ known ∈ key :: seen ∨ some known ∈ others := by
            intro known
            rw [left known]
            simp only [List.mem_cons, Option.some.injEq]
            exact or_left_comm.trans (or_assoc.symm)
          simp only [List.cons_append, pass, ih same]

/-- A key passes exactly when it comes up for the first time. -/
theorem passes_iff {Item : Type u} {key : Item → Option Key} {passes : Item → Bool}
    {items earlier later : List Item} {item : Item}
    (filtered : items.map passes = pass [] (items.map key))
    (shape : items = earlier ++ item :: later) :
    passes item = true ↔ ∀ known, key item = some known → some known ∉ earlier.map key := by
  subst shape
  have kept : ∀ known, known ∈ (earlier.map key).filterMap id ↔
      known ∈ ([] : List Key) ∨ some known ∈ earlier.map key := by simp
  have split := pass_append (earlier.map key) ((item :: later).map key) kept
  rw [List.map_append, List.map_append, split] at filtered
  have tails := List.append_inj_right filtered (by simp)
  cases here : key item with
  | none =>
      rw [List.map_cons, List.map_cons, here, pass] at tails
      simp [(List.cons.inj tails).1]
  | some known =>
      rw [List.map_cons, List.map_cons, here, pass] at tails
      simp [(List.cons.inj tails).1]

end KeyFilter
