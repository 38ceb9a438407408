import Mathlib.Data.List.Nodup
import Mathlib.Order.Lattice

/-!
Dictionaries as lists of entries in the order of insertion. Assigning to a key keeps its place,
a new key goes last; `sorted` lists the entries by key.
-/

namespace Dictionary

variable {Key α β : Type}

section Assign

variable [DecidableEq Key]

/-- `dictionary[key] = value`. -/
def assign (key : Key) (value : α) : List (Key × α) → List (Key × α)
  | [] => [(key, value)]
  | entry :: rest =>
    if entry.1 = key then (key, value) :: rest else entry :: assign key value rest

def gather (entries : List (Key × α)) : List (Key × α) :=
  entries.foldl (fun held entry => assign entry.1 entry.2 held) []

theorem assign_new {key : Key} (value : α) {entries : List (Key × α)}
    (fresh : key ∉ entries.map Prod.fst) :
    assign key value entries = entries ++ [(key, value)] := by
  induction entries with
  | nil => rfl
  | cons entry rest ih =>
    rw [List.map_cons, List.mem_cons, not_or] at fresh
    rw [assign, if_neg (Ne.symm fresh.1), ih fresh.2, List.cons_append]

theorem foldl_assign {entries held : List (Key × α)}
    (distinct : ((held ++ entries).map Prod.fst).Nodup) :
    entries.foldl (fun held entry => assign entry.1 entry.2 held) held = held ++ entries := by
  induction entries generalizing held with
  | nil => exact (List.append_nil held).symm
  | cons entry rest ih =>
    have fresh : entry.1 ∉ held.map Prod.fst := by
      rw [List.map_append, List.map_cons] at distinct
      intro member
      exact (List.nodup_append.mp distinct).2.2 _ member _ List.mem_cons_self rfl
    have together : held ++ [(entry.1, entry.2)] ++ rest = held ++ entry :: rest := by
      rw [List.append_assoc, List.singleton_append]
    rw [List.foldl_cons, assign_new entry.2 fresh, ih, together]
    rw [together]
    exact distinct

/-- Assignments to distinct keys are the dictionary. -/
theorem gather_distinct {entries : List (Key × α)} (distinct : (entries.map Prod.fst).Nodup) :
    gather entries = entries :=
  foldl_assign distinct

theorem mem_assign {key : Key} {value : α} {held : List (Key × α)} {entry : Key × α}
    (distinct : (held.map Prod.fst).Nodup) :
    entry ∈ assign key value held ↔ entry = (key, value) ∨ (entry ∈ held ∧ entry.1 ≠ key) := by
  induction held with
  | nil => simp [assign]
  | cons first rest ih =>
    obtain ⟨fresh, restDistinct⟩ := List.nodup_cons.mp distinct
    rw [assign]
    split
    · next same =>
      rw [List.mem_cons, List.mem_cons]
      apply or_congr_right
      constructor
      · intro later
        refine ⟨.inr later, fun named => fresh ?_⟩
        rw [same, ← named]
        exact List.mem_map_of_mem later
      · rintro ⟨rfl | later, other⟩
        · exact absurd same other
        · exact later
    · next other =>
      rw [List.mem_cons, ih restDistinct, List.mem_cons]
      constructor
      · rintro (rfl | rfl | later)
        · exact .inr ⟨.inl rfl, other⟩
        · exact .inl rfl
        · exact .inr ⟨.inr later.1, later.2⟩
      · rintro (rfl | ⟨rfl | later, named⟩)
        · exact .inr (.inl rfl)
        · exact .inl rfl
        · exact .inr (.inr ⟨later, named⟩)

theorem assign_distinct (key : Key) (value : α) {held : List (Key × α)}
    (distinct : (held.map Prod.fst).Nodup) :
    ((assign key value held).map Prod.fst).Nodup := by
  induction held with
  | nil => exact List.nodup_singleton key
  | cons first rest ih =>
    obtain ⟨fresh, restDistinct⟩ := List.nodup_cons.mp distinct
    rw [assign]
    split
    · next same =>
      rw [List.map_cons, ← same]
      exact distinct
    · next other =>
      refine List.nodup_cons.mpr ⟨fun member => ?_, ih restDistinct⟩
      obtain ⟨entry, inside, named⟩ := List.mem_map.mp member
      rcases (mem_assign restDistinct).mp inside with rfl | kept
      · exact other named.symm
      · exact fresh (named ▸ List.mem_map_of_mem kept.1)

theorem foldl_assign_distinct (entries : List (Key × α)) {held : List (Key × α)}
    (distinct : (held.map Prod.fst).Nodup) :
    ((entries.foldl (fun held entry => assign entry.1 entry.2 held) held).map
      Prod.fst).Nodup := by
  induction entries generalizing held with
  | nil => exact distinct
  | cons entry rest ih => exact ih (assign_distinct entry.1 entry.2 distinct)

theorem mem_foldl_assign {entries held : List (Key × α)} {entry : Key × α}
    (distinct : (held.map Prod.fst).Nodup) (apart : (entries.map Prod.fst).Nodup) :
    entry ∈ entries.foldl (fun held entry => assign entry.1 entry.2 held) held ↔
      entry ∈ entries ∨ (entry ∈ held ∧ entry.1 ∉ entries.map Prod.fst) := by
  induction entries generalizing held with
  | nil => simp
  | cons first rest ih =>
    obtain ⟨fresh, restApart⟩ := List.nodup_cons.mp apart
    rw [List.foldl_cons, ih (assign_distinct first.1 first.2 distinct) restApart,
      mem_assign distinct, List.mem_cons, List.map_cons, List.mem_cons, not_or]
    constructor
    · rintro (later | ⟨rfl | kept, other⟩)
      · exact .inl (.inr later)
      · exact .inl (.inl rfl)
      · exact .inr ⟨kept.1, kept.2, other⟩
    · rintro ((rfl | later) | ⟨kept, other, others⟩)
      · exact .inr ⟨.inl rfl, fresh⟩
      · exact .inl later
      · exact .inr ⟨.inr ⟨kept, other⟩, others⟩

end Assign

section Lookup

variable [BEq Key] [LawfulBEq Key]

theorem lookup_iff_mem {entries : List (Key × α)} (distinct : (entries.map Prod.fst).Nodup)
    {key : Key} {value : α} : entries.lookup key = some value ↔ (key, value) ∈ entries := by
  induction entries with
  | nil => simp
  | cons entry rest ih =>
    obtain ⟨place, held⟩ := entry
    obtain ⟨fresh, restDistinct⟩ := List.nodup_cons.mp distinct
    rw [List.lookup_cons, List.mem_cons, Prod.mk.injEq]
    cases same : key == place with
    | true =>
      obtain rfl := eq_of_beq same
      constructor
      · rintro found
        exact .inl ⟨rfl, (Option.some.inj found).symm⟩
      · rintro (⟨_, rfl⟩ | later)
        · rfl
        · exact absurd (List.mem_map_of_mem later) fresh
    | false =>
      rw [ih restDistinct]
      constructor
      · exact .inr
      · rintro (⟨rfl, _⟩ | later)
        · simp at same
        · exact later

end Lookup

section Sorted

variable [LinearOrder Key]

/-- `sorted(dictionary.items(), key=lambda item: item[0])`. -/
def sorted (entries : List (Key × α)) : List (Key × α) :=
  entries.mergeSort fun first second => decide (first.1 ≤ second.1)

def Increasing (entries : List (Key × α)) : Prop :=
  (entries.map Prod.fst).Pairwise (· < ·)

theorem sorted_perm (entries : List (Key × α)) : (sorted entries).Perm entries :=
  List.mergeSort_perm entries _

theorem mem_sorted {entries : List (Key × α)} {entry : Key × α} :
    entry ∈ sorted entries ↔ entry ∈ entries :=
  (sorted_perm entries).mem_iff

theorem Increasing.nodup {entries : List (Key × α)} (increasing : Increasing entries) :
    (entries.map Prod.fst).Nodup :=
  increasing.imp ne_of_lt

theorem sorted_pairwise (entries : List (Key × α)) :
    (sorted entries).Pairwise fun first second => decide (first.1 ≤ second.1) = true := by
  apply List.pairwise_mergeSort
  · intro first second third before after
    exact decide_eq_true ((of_decide_eq_true before).trans (of_decide_eq_true after))
  · intro first second
    simpa using le_total first.1 second.1

theorem sorted_increasing {entries : List (Key × α)} (distinct : (entries.map Prod.fst).Nodup) :
    Increasing (sorted entries) := by
  have apart : ((sorted entries).map Prod.fst).Nodup :=
    ((sorted_perm entries).map Prod.fst).nodup_iff.mpr distinct
  apply List.pairwise_map.mpr
  apply ((sorted_pairwise entries).and (List.pairwise_map.mp apart)).imp
  intro first second both
  exact lt_of_le_of_ne (of_decide_eq_true both.1) both.2

theorem sorted_sorted (entries : List (Key × α)) : sorted (sorted entries) = sorted entries :=
  List.mergeSort_of_pairwise (sorted_pairwise entries)

theorem sorted_map (change : Key × α → β) (entries : List (Key × α)) :
    sorted (entries.map fun entry => (entry.1, change entry)) =
      (sorted entries).map fun entry => (entry.1, change entry) := by
  symm
  apply List.map_mergeSort
  exact fun _ _ _ _ => rfl

/-- Two orders of insertion of one dictionary are sorted alike. -/
theorem sorted_eq_of_perm {entries others : List (Key × α)} (same : entries.Perm others)
    (distinct : (entries.map Prod.fst).Nodup) : sorted entries = sorted others := by
  have alike : (sorted entries).Perm (sorted others) :=
    (sorted_perm entries).trans (same.trans (sorted_perm others).symm)
  apply alike.eq_of_pairwise _ (sorted_pairwise entries) (sorted_pairwise others)
  intro first second member other before after
  have key : first.1 = second.1 := le_antisymm (of_decide_eq_true before) (of_decide_eq_true after)
  exact List.inj_on_of_nodup_map distinct (mem_sorted.mp member)
    (same.mem_iff.mpr (mem_sorted.mp other)) key

end Sorted

end Dictionary
