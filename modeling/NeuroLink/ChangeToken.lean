import Mathlib.Algebra.Group.Nat.Defs
import Mathlib.Data.List.Basic

/-!
A version number as a change token: if every step of a run either changes the contents
and counts the version up by one, or changes neither, then equal versions mean equal
contents, as long as the counter cannot have come round in between.
-/

namespace ChangeToken

variable {State Event Content : Type} {width : Nat}
variable (version : State → BitVec width) (content : State → Content)

def Counted (before after : State) : Prop :=
  (version after = version before + 1 ∧ content after ≠ content before) ∨
    (version after = version before ∧ content after = content before)

def Steady (step : State → Event → State) : State → List Event → Prop
  | _, [] => True
  | state, event :: rest =>
      Counted version content state (step state event) ∧ Steady step (step state event) rest

variable {version content} {step : State → Event → State}

theorem steady_counts {state : State} {events : List Event}
    (steady : Steady version content step state events) :
    ∃ changes ≤ events.length,
      version (events.foldl step state) = version state + BitVec.ofNat width changes ∧
      (changes = 0 → content (events.foldl step state) = content state) := by
  induction events generalizing state with
  | nil => exact ⟨0, Nat.le_refl 0, by simp, fun _ => rfl⟩
  | cons event rest ih =>
      obtain ⟨counted, later⟩ := steady
      obtain ⟨changes, few, reads, same⟩ := ih later
      rw [List.foldl_cons, List.length_cons, reads]
      rcases counted with ⟨next, -⟩ | ⟨kept, equal⟩
      · refine ⟨changes + 1, Nat.succ_le_succ few, ?_, fun none => absurd none (by omega)⟩
        rw [next, BitVec.add_assoc, Nat.add_comm, BitVec.ofNat_add]
        rfl
      · exact ⟨changes, Nat.le_succ_of_le few, by rw [kept],
          fun none => (same none).trans equal⟩

theorem steady_token {state : State} {events : List Event}
    (steady : Steady version content step state events) (few : events.length < 2 ^ width)
    (equal : version (events.foldl step state) = version state) :
    content (events.foldl step state) = content state := by
  obtain ⟨changes, least, reads, same⟩ := steady_counts steady
  apply same
  rw [equal, BitVec.self_eq_add_right] at reads
  have zero := congrArg BitVec.toNat reads
  rw [BitVec.toNat_ofNat, Nat.mod_eq_of_lt (by omega)] at zero
  simpa using zero

end ChangeToken
