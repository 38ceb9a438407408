import Mathlib.Data.List.Basic

/-!
Printing into a bounded buffer piece by piece. The buffer is the front of a larger
memory; a piece that does not fit is cut off, and whatever was printed is followed by a
terminator.
-/

namespace BoundedPrint

variable {α : Type}

def overwrite (memory : List α) (offset : Nat) (data : List α) : List α :=
  memory.take offset ++ (data ++ memory.drop (offset + data.length))

/-- What `snprintf` does to the memory when it has `room` cells from `offset` on. -/
def print (stop : α) (memory : List α) (offset room : Nat) (text : List α) : List α :=
  if room = 0 then memory else overwrite memory offset (text.take (room - 1) ++ [stop])

/-- The memory holds the text, as far as it fits, at the front of the buffer, and is the
original memory beyond the buffer. -/
structure Holds (size : Nat) (original text memory : List α) : Prop where
  front : memory.take (text.take (size - 1)).length = text.take (size - 1)
  beyond : memory.drop size = original.drop size
  length : memory.length = original.length

theorem holds_nil (size : Nat) (original : List α) : Holds size original [] original :=
  ⟨by simp, rfl, rfl⟩

theorem overwrite_length {memory : List α} {offset : Nat} {data : List α}
    (inside : offset + data.length ≤ memory.length) :
    (overwrite memory offset data).length = memory.length := by
  simp only [overwrite, List.length_append, List.length_take, List.length_drop]
  omega

theorem overwrite_drop {memory data : List α} {offset size : Nat}
    (inside : offset + data.length ≤ size) (room : size ≤ memory.length) :
    (overwrite memory offset data).drop size = memory.drop size := by
  have front : (memory.take offset ++ data).length ≤ size := by
    simp only [List.length_append, List.length_take]
    omega
  rw [overwrite, ← List.append_assoc, List.drop_append, List.drop_of_length_le front,
    List.nil_append, List.drop_drop]
  congr 1
  simp only [List.length_append, List.length_take] at front ⊢
  omega

theorem overwrite_take (memory data : List α) {offset : Nat}
    (inside : offset ≤ memory.length) :
    (overwrite memory offset data).take (offset + data.length) =
      memory.take offset ++ data := by
  rw [overwrite, ← List.append_assoc, List.take_left']
  simp only [List.length_append, List.length_take]
  omega

theorem take_append_cut (text more : List α) (room : Nat) :
    (text ++ more).take room =
      text.take room ++ more.take (room - (text.take room).length) := by
  rw [List.take_append, List.length_take]
  congr 2
  omega

theorem take_front {memory front : List α} {last : α}
    (shown : memory.take (front.length + 1) = front ++ [last]) :
    memory.take front.length = front := by
  have cut := congrArg (List.take front.length) shown
  rwa [List.take_take, Nat.min_eq_left (Nat.le_succ _), List.take_left] at cut

theorem print_holds {stop : α} {size : Nat} {original text memory : List α}
    (holds : Holds size original text memory) (more : List α) (some : 0 < size)
    (room : size ≤ original.length) :
    let after := print stop memory (text.take (size - 1)).length
      (size - (text.take (size - 1)).length) more
    Holds size original (text ++ more) after ∧
      after.take (((text ++ more).take (size - 1)).length + 1) =
        (text ++ more).take (size - 1) ++ [stop] := by
  have short : (text.take (size - 1)).length ≤ size - 1 := List.length_take_le _ _
  have cut := take_append_cut text more (size - 1)
  have rest : size - (text.take (size - 1)).length - 1 =
      size - 1 - (text.take (size - 1)).length := by omega
  have piece : (more.take (size - 1 - (text.take (size - 1)).length) ++ [stop]).length ≤
      size - (text.take (size - 1)).length := by
    simp only [List.length_append, List.length_take, List.length_cons, List.length_nil]
    omega
  have whole := holds.length
  rw [print, if_neg (by omega), rest]
  have shown := overwrite_take memory
    (more.take (size - 1 - (text.take (size - 1)).length) ++ [stop])
    (show (text.take (size - 1)).length ≤ memory.length by omega)
  rw [holds.front, ← List.append_assoc, ← cut] at shown
  have size_eq : (text.take (size - 1)).length +
      (more.take (size - 1 - (text.take (size - 1)).length) ++ [stop]).length =
      ((text ++ more).take (size - 1)).length + 1 := by
    rw [cut, List.length_append, List.length_append, List.length_singleton]
    omega
  rw [size_eq] at shown
  refine ⟨⟨?_, ?_, ?_⟩, shown⟩
  · exact take_front shown
  · rw [overwrite_drop (by omega) (by omega), holds.beyond]
  · rw [overwrite_length (by omega), whole]

end BoundedPrint
