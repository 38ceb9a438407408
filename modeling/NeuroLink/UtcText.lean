import Mathlib.Algebra.Group.Nat.Defs
import Mathlib.Data.String.Basic

/-!
Times of one zone as text, to the microsecond. The text has a fraction only where there is
one to show, so the order of the texts is the order of the times except within one second
that is shown once with a fraction and once without.
-/

namespace UtcText

section Digits

def digits : Nat → Nat → List Char
  | 0, _ => []
  | width + 1, number => (number / 10 ^ width % 10).digitChar :: digits width number

theorem digitChar_lt : ∀ first < 10, ∀ second < 10,
    (first.digitChar < second.digitChar ↔ first < second) ∧
      (first.digitChar = second.digitChar ↔ first = second) := by
  decide

/-- Two numbers are told apart by their higher part first. -/
theorem parts_lt {base low low' : Nat} (high high' : Nat) (below : low < base)
    (below' : low' < base) :
    (low + base * high < low' + base * high' ↔ high < high' ∨ high = high' ∧ low < low') ∧
      (low + base * high = low' + base * high' ↔ high = high' ∧ low = low') := by
  rcases lt_trichotomy high high' with less | rfl | greater
  · have apart := Nat.mul_le_mul_left base less
    rw [Nat.mul_succ] at apart
    omega
  · omega
  · have apart := Nat.mul_le_mul_left base greater
    rw [Nat.mul_succ] at apart
    omega

theorem digits_lt (width first second : Nat) (rest others : List Char) :
    digits width first ++ rest < digits width second ++ others ↔
      first % 10 ^ width < second % 10 ^ width ∨
        first % 10 ^ width = second % 10 ^ width ∧ rest < others := by
  induction width with
  | zero => simp [digits, Nat.mod_one]
  | succ width ih =>
    have small := Nat.mod_lt (first / 10 ^ width) (show 10 > 0 by omega)
    have small' := Nat.mod_lt (second / 10 ^ width) (show 10 > 0 by omega)
    have below := Nat.mod_lt first (Nat.pow_pos (show 10 > 0 by omega) : 10 ^ width > 0)
    have below' := Nat.mod_lt second (Nat.pow_pos (show 10 > 0 by omega) : 10 ^ width > 0)
    obtain ⟨lower, same⟩ := digitChar_lt _ small _ small'
    obtain ⟨less, equal⟩ := parts_lt (first / 10 ^ width % 10) (second / 10 ^ width % 10)
      below below'
    rw [digits, digits, List.cons_append, List.cons_append, List.cons_lt_cons_iff, ih, lower, same,
      Nat.mod_pow_succ, Nat.mod_pow_succ, less, equal, and_or_left, or_assoc, and_assoc]

theorem digits_lt_of_lt {width first second : Nat} (shown : first < 10 ^ width)
    (shown' : second < 10 ^ width) (rest others : List Char) :
    digits width first ++ rest < digits width second ++ others ↔
      first < second ∨ first = second ∧ rest < others := by
  rw [digits_lt, Nat.mod_eq_of_lt shown, Nat.mod_eq_of_lt shown']

theorem field_lt {width first second : Nat} (shown : first < 10 ^ width)
    (shown' : second < 10 ^ width) (separator : Char) (rest others : List Char) :
    digits width first ++ separator :: rest < digits width second ++ separator :: others ↔
      first < second ∨ first = second ∧ rest < others := by
  rw [digits_lt_of_lt shown shown', List.cons_lt_cons_iff]
  simp only [lt_irrefl separator, false_or, true_and]

end Digits

/-- A date and a time of day. -/
structure Timestamp where
  year : Nat
  month : Nat
  day : Nat
  hour : Nat
  minute : Nat
  second : Nat
  micro : Nat
  dated : (1 ≤ year ∧ year ≤ 9999) ∧ (1 ≤ month ∧ month ≤ 12) ∧ 1 ≤ day ∧ day ≤ 31
  timed : hour < 24 ∧ minute < 60 ∧ second < 60 ∧ micro < 1000000

namespace Timestamp

/-- The fields down to the second. -/
def moment (time : Timestamp) : List Nat :=
  [time.year, time.month, time.day, time.hour, time.minute, time.second]

def Earlier (first second : Timestamp) : Prop :=
  first.moment < second.moment ∨ first.moment = second.moment ∧ first.micro < second.micro

instance (first second : Timestamp) : Decidable (first.Earlier second) :=
  inferInstanceAs (Decidable (_ ∨ _))

def tail (time : Timestamp) : List Char :=
  if time.micro = 0 then ['Z'] else '.' :: (digits 6 time.micro ++ ['Z'])

/-- `YYYY-MM-DDTHH:MM:SS.ffffffZ` or `YYYY-MM-DDTHH:MM:SSZ`. -/
def letters (time : Timestamp) : List Char :=
  digits 4 time.year ++ '-' :: (digits 2 time.month ++ '-' :: (digits 2 time.day ++
    'T' :: (digits 2 time.hour ++ ':' :: (digits 2 time.minute ++ ':' :: (digits 2 time.second ++
      time.tail)))))

def text (time : Timestamp) : String := String.ofList time.letters

/-- Two times in one second, of which one is shown with a fraction and one without. -/
def Mixed (first second : Timestamp) : Prop :=
  first.moment = second.moment ∧ (first.micro = 0 ↔ second.micro ≠ 0)

instance (first second : Timestamp) : Decidable (first.Mixed second) :=
  inferInstanceAs (Decidable (_ ∧ _))

variable {first second : Timestamp}

theorem letters_lt :
    first.letters < second.letters ↔
      first.moment < second.moment ∨ first.moment = second.moment ∧ first.tail < second.tail := by
  obtain ⟨⟨_, year⟩, ⟨_, month⟩, _, day⟩ := first.dated
  obtain ⟨⟨_, year'⟩, ⟨_, month'⟩, _, day'⟩ := second.dated
  obtain ⟨hour, minute, seconds, _⟩ := first.timed
  obtain ⟨hour', minute', seconds', _⟩ := second.timed
  rw [letters, letters, field_lt (by omega) (by omega), field_lt (by omega) (by omega),
    field_lt (by omega) (by omega), field_lt (by omega) (by omega),
    field_lt (by omega) (by omega), digits_lt_of_lt (by omega) (by omega)]
  simp only [moment, List.cons_lt_cons_iff, List.cons.injEq, List.not_lt_nil, and_true, and_false,
    or_false, and_or_left, or_assoc, and_assoc]

theorem tail_lt :
    first.tail < second.tail ↔
      first.micro ≠ 0 ∧ (second.micro = 0 ∨ first.micro < second.micro) := by
  have shown : first.micro < 10 ^ 6 := first.timed.2.2.2
  have shown' : second.micro < 10 ^ 6 := second.timed.2.2.2
  have zone : ('Z' < '.') = False := by decide
  have fraction : ('.' < 'Z') = True := by decide
  unfold tail
  by_cases whole : first.micro = 0
  · by_cases whole' : second.micro = 0
    · simp [whole, whole']
    · simp [whole, whole', List.cons_lt_cons_iff, zone]
  · by_cases whole' : second.micro = 0
    · simp [whole, whole', List.cons_lt_cons_iff, fraction]
    · rw [if_neg whole, if_neg whole', List.cons_lt_cons_iff, digits_lt_of_lt shown shown']
      simp [whole, whole']

theorem text_lt : first.text < second.text ↔
    first.moment < second.moment ∨ first.moment = second.moment ∧ first.micro ≠ 0 ∧
      (second.micro = 0 ∨ first.micro < second.micro) := by
  rw [text, text, String.lt_iff_toList_lt, String.toList_ofList, String.toList_ofList, letters_lt,
    tail_lt]

/-- The texts are in the order of the times unless exactly one of them shows a fraction of the
same second. -/
theorem text_lt_iff_earlier :
    (first.text < second.text ↔ first.Earlier second) ↔ ¬ first.Mixed second := by
  rw [text_lt, Earlier, Mixed]
  by_cases same : first.moment = second.moment
  · rw [same]
    simp only [List.lt_irrefl, true_and, false_or]
    omega
  · simp only [same, false_and, or_false, not_false_iff]

theorem text_injective (same : first.text = second.text) : first = second := by
  have before : ¬ first.text < second.text := same ▸ lt_irrefl _
  have after : ¬ second.text < first.text := same ▸ lt_irrefl _
  rw [text_lt, not_or] at before after
  have moments : first.moment = second.moment := by
    rcases lt_trichotomy first.moment second.moment with less | equal | greater
    · exact absurd less before.1
    · exact equal
    · exact absurd greater after.1
  have micros : first.micro = second.micro := by
    have low := before.2
    have high := after.2
    simp only [moments, true_and] at low high
    omega
  cases first
  cases second
  simp only [moment, List.cons.injEq, and_true] at moments
  simp_all

theorem text_ne_empty (time : Timestamp) : time.text ≠ "" := by
  intro empty
  have letters := congrArg String.toList empty
  rw [text, String.toList_ofList] at letters
  exact List.cons_ne_nil _ _ letters

end Timestamp

end UtcText
