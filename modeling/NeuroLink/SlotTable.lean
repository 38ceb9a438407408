import Mathlib.Data.List.Nodup
import Mathlib.Tactic.Common

/-!
A fixed array of slots, each empty or holding one entry, as C code keeps it with
a `used` flag. Every operation of such a table is a scan from slot zero for the
first entry with some property, a scan for the first empty slot, or a write of
one slot. The lemmas say what a write does to every later scan.
-/

namespace SlotTable

universe u v
variable {Entry : Type u} {Key : Type v} {size : Nat}

abbrev Table (Entry : Type u) (size : Nat) := Vector (Option Entry) size

instance : GetElem (Table Entry size) (Fin size) (Option Entry) fun _ _ => True where
  getElem table slot _ := table.get slot

theorem getElem_slot (table : Table Entry size) (slot : Fin size) :
    table[slot] = table[slot.val] := rfl

def empty : Table Entry size := Vector.replicate size none

def find (test : Entry → Bool) (table : Table Entry size) :
    Option (Fin size × Entry) :=
  (List.finRange size).findSome? fun slot =>
    (table[slot]).bind fun entry => if test entry then some (slot, entry) else none

def vacant (table : Table Entry size) : Option (Fin size) :=
  (List.finRange size).find? fun slot => table[slot].isNone

def entries (table : Table Entry size) : List Entry :=
  table.toList.filterMap id

def keep (test : Entry → Bool) (table : Table Entry size) : Table Entry size :=
  ⟨(table.toList.map (·.filter test)).toArray, by simp⟩

def rewriteAll (edit : Entry → Entry) (table : Table Entry size) : Table Entry size :=
  ⟨(table.toList.map (·.map edit)).toArray, by simp⟩

def ofEntries (entries : List Entry) : Table Entry size :=
  ⟨((List.range size).map fun index => entries[index]?).toArray, by simp⟩

def Distinct (key : Entry → Key) (table : Table Entry size) : Prop :=
  ∀ (left right : Fin size) (first second : Entry),
    table[left] = some first → table[right] = some second →
      key first = key second → left = right

@[simp] theorem getElem_empty (slot : Fin size) :
    (empty : Table Entry size)[slot] = none := by
  simp [empty, getElem_slot]

theorem getElem_put (table : Table Entry size) (slot other : Fin size)
    (content : Option Entry) :
    (table.set slot content)[other] =
      if other = slot then content else table[other] := by
  by_cases same : other = slot
  · subst other
    simp [getElem_slot]
  · have apart : slot.val ≠ other.val := fun eq => same (Fin.ext eq.symm)
    simp [getElem_slot, same, apart]

@[simp] theorem getElem_put_self (table : Table Entry size) (slot : Fin size)
    (content : Option Entry) : (table.set slot content)[slot] = content := by
  rw [getElem_put, if_pos rfl]

theorem getElem_keep (test : Entry → Bool) (table : Table Entry size)
    (slot : Fin size) : (keep test table)[slot] = table[slot].filter test := by
  simp [keep, getElem_slot]

theorem getElem_rewriteAll (edit : Entry → Entry) (table : Table Entry size)
    (slot : Fin size) : (rewriteAll edit table)[slot] = table[slot].map edit := by
  simp [rewriteAll, getElem_slot]

theorem getElem_ofEntries (entries : List Entry) (slot : Fin size) :
    (ofEntries entries : Table Entry size)[slot] = entries[slot.val]? := by
  simp [ofEntries, getElem_slot]

section Find

variable (test : Entry → Bool) (table : Table Entry size)

theorem find_some_iff (slot : Fin size) (entry : Entry) :
    find test table = some (slot, entry) ↔
      table[slot] = some entry ∧ test entry = true ∧
        ∀ (earlier : Fin size) (other : Entry), earlier < slot →
          table[earlier] = some other → test other = false := by
  simp only [find, List.findSome?_eq_some_iff]
  constructor
  · rintro ⟨front, probe, back, split, hit, missed⟩
    have ordered := List.pairwise_lt_finRange size
    rw [split, List.pairwise_append] at ordered
    cases content : table[probe] with
    | none => simp [content] at hit
    | some stored =>
        by_cases passes : test stored = true
        · simp only [content, Option.bind_some, passes, ↓reduceIte,
            Option.some.injEq, Prod.mk.injEq] at hit
          obtain ⟨rfl, rfl⟩ := hit
          refine ⟨content, passes, fun earlier other before there => ?_⟩
          -- the slots are probed in their order, so an earlier one stands in front
          have member : earlier ∈ front := by
            have all := List.mem_finRange earlier
            rw [split, List.mem_append, List.mem_cons] at all
            rcases all with inFront | rfl | inBack
            · exact inFront
            · exact absurd before (Nat.lt_irrefl _)
            · have after := (List.pairwise_cons.mp ordered.2.1).1 earlier inBack
              exact absurd before (Nat.lt_asymm after)
          have probed := missed earlier member
          cases verdict : test other with
          | false => rfl
          | true => simp [there, verdict] at probed
        · simp [content, passes] at hit
  · rintro ⟨content, passes, first⟩
    obtain ⟨front, back, split⟩ := List.append_of_mem (List.mem_finRange slot)
    refine ⟨front, slot, back, split, by simp [content, passes], ?_⟩
    intro earlier member
    have ordered := List.pairwise_lt_finRange size
    rw [split, List.pairwise_append] at ordered
    have before := ordered.2.2 earlier member slot List.mem_cons_self
    cases there : table[earlier] with
    | none => rfl
    | some other => simp [first earlier other before there]

theorem find_none_iff :
    find test table = none ↔
      ∀ (slot : Fin size) (entry : Entry), table[slot] = some entry →
        test entry = false := by
  simp only [find, List.findSome?_eq_none_iff]
  constructor
  · intro missed slot entry content
    have probe := missed slot (List.mem_finRange slot)
    cases passes : test entry with
    | false => rfl
    | true => simp [content, passes] at probe
  · intro fails slot _
    cases content : table[slot] with
    | none => rfl
    | some entry => simp [fails slot entry content]

@[simp] theorem find_empty : find test (empty : Table Entry size) = none := by
  refine (find_none_iff test empty).mpr fun slot entry content => ?_
  rw [getElem_empty] at content
  cases content

variable {test table} {slot : Fin size} {entry : Entry}

theorem find_content (found : find test table = some (slot, entry)) :
    table[slot] = some entry :=
  ((find_some_iff test table slot entry).mp found).1

theorem find_passes (found : find test table = some (slot, entry)) :
    test entry = true :=
  ((find_some_iff test table slot entry).mp found).2.1

/-- Rewriting the found entry keeps it the first one that passes. -/
theorem find_put_found (found : find test table = some (slot, entry))
    (next : Entry) (passes : test next = true) :
    find test (table.set slot (some next)) = some (slot, next) := by
  obtain ⟨_, _, first⟩ := (find_some_iff test table slot entry).mp found
  refine (find_some_iff _ _ slot next).mpr ⟨by simp, passes, ?_⟩
  intro earlier other before there
  rw [getElem_put, if_neg (Fin.ne_of_lt before)] at there
  exact first earlier other before there

theorem find_put_unseen (content : Option Entry)
    (removed : ∀ old, table[slot] = some old → test old = false)
    (added : ∀ new, content = some new → test new = false) :
    find test (table.set slot content) = find test table := by
  unfold find
  congr 1
  funext probe
  rw [getElem_put]
  by_cases same : probe = slot
  · subst probe
    cases before : table[slot] with
    | none => cases content with
      | none => simp
      | some new => simp [added new rfl]
    | some old => cases content with
      | none => simp [removed old before]
      | some new => simp [added new rfl, removed old before]
  · simp [same]

end Find

section Vacant

variable {table : Table Entry size} {slot : Fin size}

theorem vacant_content (free : vacant table = some slot) :
    table[slot] = none := by
  simpa using List.find?_some free

/-- Filling the first empty slot of a table without a passing entry makes the
new entry the one that is found. -/
theorem find_put_vacant {test : Entry → Bool} {next : Entry}
    (missing : find test table = none) (passes : test next = true) :
    find test (table.set slot (some next)) = some (slot, next) := by
  refine (find_some_iff _ _ slot next).mpr ⟨by simp, passes, ?_⟩
  intro earlier other before there
  rw [getElem_put, if_neg (Fin.ne_of_lt before)] at there
  exact (find_none_iff test table).mp missing earlier other there

end Vacant

/-! A table read as a finite map: under each key, the first entry with it. -/

section Lookup

variable [DecidableEq Key] (key : Entry → Key)

def findKey (table : Table Entry size) (wanted : Key) : Option (Fin size × Entry) :=
  find (fun entry => key entry = wanted) table

def lookup (table : Table Entry size) (wanted : Key) : Option Entry :=
  (findKey key table wanted).map Prod.snd

variable {key} {table : Table Entry size} {wanted : Key} {slot : Fin size} {entry : Entry}

theorem findKey_key (found : findKey key table wanted = some (slot, entry)) :
    key entry = wanted := by
  have passes := find_passes found
  exact of_decide_eq_true passes

theorem lookup_found (found : findKey key table wanted = some (slot, entry)) :
    lookup key table wanted = some entry := by
  simp [lookup, found]

theorem lookup_some (present : lookup key table wanted = some entry) :
    ∃ slot, findKey key table wanted = some (slot, entry) := by
  obtain ⟨⟨slot, stored⟩, found, rfl⟩ := Option.map_eq_some_iff.mp present
  exact ⟨slot, found⟩

theorem lookup_none :
    lookup key table wanted = none ↔ findKey key table wanted = none :=
  Option.map_eq_none_iff

@[simp] theorem lookup_empty (wanted : Key) :
    lookup key (empty : Table Entry size) wanted = none := by
  simp [lookup, findKey]

theorem lookup_put_other (content : Option Entry) {other : Key} (apart : other ≠ wanted)
    (removed : ∀ old, table[slot] = some old → key old = wanted)
    (added : ∀ new, content = some new → key new = wanted) :
    lookup key (table.set slot content) other = lookup key table other := by
  have unseen : findKey key (table.set slot content) other = findKey key table other := by
    refine find_put_unseen _ (fun old there => ?_) (fun new written => ?_)
    · simpa [removed old there] using Ne.symm apart
    · simpa [added new written] using Ne.symm apart
  simp [lookup, unseen]

theorem lookup_put_found (found : findKey key table wanted = some (slot, entry))
    (next : Entry) (kept : key next = wanted) (other : Key) :
    lookup key (table.set slot (some next)) other =
      if other = wanted then some next else lookup key table other := by
  by_cases same : other = wanted
  · subst other
    have again : findKey key (table.set slot (some next)) wanted = some (slot, next) :=
      find_put_found found next (by simpa using kept)
    simp [lookup, again]
  · rw [if_neg same]
    refine lookup_put_other _ same (fun old there => ?_) (fun new written => ?_)
    · rw [find_content found] at there
      cases there
      exact findKey_key found
    · cases written
      exact kept

theorem lookup_put_vacant (missing : findKey key table wanted = none)
    (free : vacant table = some slot) (next : Entry) (owner : key next = wanted)
    (other : Key) :
    lookup key (table.set slot (some next)) other =
      if other = wanted then some next else lookup key table other := by
  by_cases same : other = wanted
  · subst other
    have again : findKey key (table.set slot (some next)) wanted = some (slot, next) :=
      find_put_vacant missing (by simpa using owner)
    simp [lookup, again]
  · rw [if_neg same]
    refine lookup_put_other _ same (fun old there => ?_) (fun new written => ?_)
    · rw [vacant_content free] at there
      cases there
    · cases written
      exact owner

end Lookup

theorem entries_put_keys (key : Entry → Key) {table : Table Entry size} {slot : Fin size}
    {entry next : Entry} (content : table[slot] = some entry) (kept : key next = key entry) :
    (entries (table.set slot (some next))).map key = (entries table).map key := by
  have keyed : ∀ table : Table Entry size, (entries table).map key =
      (table.toList.map (Option.map key)).filterMap id := by
    intro table
    rw [entries, List.map_filterMap, List.filterMap_map]
    rfl
  rw [keyed, keyed]
  congr 1
  refine List.ext_getElem (by simp) fun index _ _ => ?_
  by_cases here : slot.val = index
  · subst here
    have there : table.toList[slot.val] = some entry := content
    simp [there, kept]
  · simp [here]

section Keyed

variable {key : Entry → Key} {table : Table Entry size}

theorem distinct_empty : Distinct key (empty : Table Entry size) := by
  intro left right first second content
  rw [getElem_empty] at content
  cases content

theorem distinct_keep (test : Entry → Bool) (distinct : Distinct key table) :
    Distinct key (keep test table) := by
  intro left right first second atLeft atRight same
  rw [getElem_keep, Option.filter_eq_some_iff] at atLeft atRight
  exact distinct left right first second atLeft.1 atRight.1 same

theorem distinct_put {slot : Fin size} (content : Option Entry)
    (distinct : Distinct key table)
    (fresh : ∀ next, content = some next → ∀ (other : Fin size) (entry : Entry),
      table[other] = some entry → key next = key entry → other = slot) :
    Distinct key (table.set slot content) := by
  intro left right first second atLeft atRight same
  rw [getElem_put] at atLeft atRight
  by_cases onLeft : left = slot <;> by_cases onRight : right = slot
  · exact onLeft.trans onRight.symm
  · rw [if_pos onLeft] at atLeft
    rw [if_neg onRight] at atRight
    exact absurd (fresh first atLeft right second atRight same) onRight
  · rw [if_neg onLeft] at atLeft
    rw [if_pos onRight] at atRight
    exact absurd (fresh second atRight left first atLeft same.symm) onLeft
  · rw [if_neg onLeft] at atLeft
    rw [if_neg onRight] at atRight
    exact distinct left right first second atLeft atRight same

/-- Clearing a slot, or rewriting its entry under the same key, keeps the keys
distinct. -/
theorem distinct_clear (slot : Fin size) (distinct : Distinct key table) :
    Distinct key (table.set slot none) :=
  distinct_put none distinct (by simp)

theorem distinct_rewrite {slot : Fin size} {entry next : Entry}
    (distinct : Distinct key table) (content : table[slot] = some entry)
    (kept : key next = key entry) :
    Distinct key (table.set slot (some next)) := by
  refine distinct_put (some next) distinct ?_
  intro _ written other stored there same
  cases written
  exact distinct other slot stored entry there content (same.symm.trans kept)

theorem distinct_insert [DecidableEq Key] {slot : Fin size} {next : Entry}
    (distinct : Distinct key table) (missing : findKey key table (key next) = none) :
    Distinct key (table.set slot (some next)) := by
  refine distinct_put (some next) distinct fun _ written other stored there same => ?_
  cases written
  have absent := (find_none_iff _ _).mp missing other stored there
  simp [same] at absent

theorem lookup_clear_found [DecidableEq Key] {slot : Fin size} {entry : Entry}
    {wanted : Key} (distinct : Distinct key table)
    (found : findKey key table wanted = some (slot, entry)) (other : Key) :
    lookup key (table.set slot none) other =
      if other = wanted then none else lookup key table other := by
  have owner := findKey_key found
  by_cases same : other = wanted
  · subst other
    rw [if_pos rfl, lookup_none]
    refine (find_none_iff _ _).mpr fun probe stored there => ?_
    rw [getElem_put] at there
    by_cases here : probe = slot
    · rw [if_pos here] at there
      cases there
    · rw [if_neg here] at there
      refine decide_eq_false fun same => here ?_
      exact distinct probe slot stored entry there (find_content found)
        (same.trans owner.symm)
  · rw [if_neg same]
    refine lookup_put_other _ same (fun old there => ?_) (by simp)
    rw [find_content found] at there
    cases there
    exact owner

theorem lookup_stored [DecidableEq Key] {slot : Fin size} {entry : Entry}
    (distinct : Distinct key table) (there : table[slot] = some entry) :
    lookup key table (key entry) = some entry := by
  have found : findKey key table (key entry) = some (slot, entry) := by
    refine (find_some_iff _ _ _ _).mpr ⟨there, by simp, ?_⟩
    intro earlier other before stored
    refine decide_eq_false fun same => ?_
    have slots := distinct earlier slot other entry stored there same
    exact absurd before (by simp [slots])
  exact lookup_found found

end Keyed

/-! The entries of a table as a list, and a list read back into a table. -/

section Entries

variable {key : Entry → Key} {table : Table Entry size} {list : List Entry}

theorem entries_slots (table : Table Entry size) :
    entries table = (List.finRange size).filterMap fun slot => table[slot] := by
  have slots : table.toList = (List.finRange size).map fun slot => table[slot] := by
    refine List.ext_getElem (by simp) fun index _ _ => ?_
    simp [getElem_slot]
  rw [entries, slots, List.filterMap_map]
  rfl

theorem mem_entries {entry : Entry} :
    entry ∈ entries table ↔ ∃ slot : Fin size, table[slot] = some entry := by
  simp [entries_slots, List.mem_filterMap]

@[simp] theorem entries_empty : entries (empty : Table Entry size) = [] := by
  simp [entries, empty]

/-- A write to a slot adds no entry but the one that is written. -/
theorem mem_entries_put {entry next : Entry} {slot : Fin size}
    (member : entry ∈ entries (table.set slot (some next))) :
    entry = next ∨ entry ∈ entries table := by
  obtain ⟨probe, there⟩ := mem_entries.mp member
  rw [getElem_put] at there
  by_cases here : probe = slot
  · rw [if_pos here] at there
    cases there
    exact .inl rfl
  · rw [if_neg here] at there
    exact .inr (mem_entries.mpr ⟨probe, there⟩)

theorem mem_entries_keep {test : Entry → Bool} {entry : Entry} :
    entry ∈ entries (keep test table) ↔ entry ∈ entries table ∧ test entry = true := by
  rw [mem_entries, mem_entries]
  constructor
  · rintro ⟨slot, there⟩
    rw [getElem_keep, Option.filter_eq_some_iff] at there
    exact ⟨⟨slot, there.1⟩, there.2⟩
  · rintro ⟨⟨slot, there⟩, passes⟩
    refine ⟨slot, ?_⟩
    rw [getElem_keep, Option.filter_eq_some_iff]
    exact ⟨there, passes⟩

theorem mem_entries_rewriteAll {edit : Entry → Entry} {entry : Entry} :
    entry ∈ entries (rewriteAll edit table) ↔ ∃ old ∈ entries table, edit old = entry := by
  rw [mem_entries]
  constructor
  · rintro ⟨slot, there⟩
    rw [getElem_rewriteAll] at there
    obtain ⟨old, stored, edited⟩ := Option.map_eq_some_iff.mp there
    exact ⟨old, mem_entries.mpr ⟨slot, stored⟩, edited⟩
  · rintro ⟨old, member, edited⟩
    obtain ⟨slot, stored⟩ := mem_entries.mp member
    refine ⟨slot, ?_⟩
    rw [getElem_rewriteAll, stored, Option.map_some, edited]

theorem entries_length (table : Table Entry size) : (entries table).length ≤ size := by
  rw [entries_slots]
  simpa using List.length_filterMap_le (fun slot => table[slot]) (List.finRange size)

theorem entries_full (full : vacant table = none) : (entries table).length = size := by
  have used : ∀ slot : Fin size, ∃ entry, table[slot] = some entry := by
    intro slot
    have taken := List.find?_eq_none.mp full slot (List.mem_finRange slot)
    exact Option.ne_none_iff_exists'.mp (by simpa using taken)
  have all : (entries table).map some = (List.finRange size).map fun slot => table[slot] := by
    rw [entries_slots, List.map_filterMap_some_eq_filter_map_isSome, List.filter_eq_self]
    intro content member
    obtain ⟨slot, _, rfl⟩ := List.mem_map.mp member
    obtain ⟨entry, there⟩ := used slot
    simp [there]
  simpa using congrArg List.length all

theorem entries_keys_nodup (distinct : Distinct key table) :
    ((entries table).map key).Nodup := by
  rw [entries_slots, List.map_filterMap]
  refine List.Nodup.filterMap (fun left right shared atLeft atRight => ?_)
    (List.nodup_finRange size)
  obtain ⟨first, there, rfl⟩ := Option.map_eq_some_iff.mp atLeft
  obtain ⟨second, here, same⟩ := Option.map_eq_some_iff.mp atRight
  exact distinct left right first second there here same.symm

theorem lookup_entries [DecidableEq Key] (table : Table Entry size) (wanted : Key) :
    lookup key table wanted = (entries table).find? fun entry => key entry = wanted := by
  rw [entries_slots, lookup, findKey, find]
  induction List.finRange size with
  | nil => rfl
  | cons slot rest ih =>
      cases content : table[slot] with
      | none =>
          simp only [List.findSome?_cons, List.filterMap_cons, content]
          exact ih
      | some entry =>
          simp only [List.findSome?_cons, List.filterMap_cons, List.find?_cons, content,
            Option.bind_some]
          by_cases here : key entry = wanted
          · simp [here]
          · simpa only [here, decide_false, Bool.false_eq_true, if_false] using ih

/-- Among entries of different keys, each is the one its key finds. -/
theorem find_listed [DecidableEq Key] (distinct : (list.map key).Nodup) {entry : Entry}
    (member : entry ∈ list) : list.find? (fun other => key other = key entry) = some entry := by
  induction list with
  | nil => cases member
  | cons first rest ih =>
      obtain ⟨alone, others⟩ := List.nodup_cons.mp distinct
      rcases List.mem_cons.mp member with rfl | later
      · simp
      · have apart : key first ≠ key entry := by
          intro same
          rw [same] at alone
          exact alone (List.mem_map_of_mem later)
        rw [List.find?_cons_of_neg (by simpa using apart)]
        exact ih others later

theorem find_filter [DecidableEq Key] (test : Entry → Bool)
    (distinct : (list.map key).Nodup) (wanted : Key) :
    (list.filter test).find? (fun entry => key entry = wanted) =
      (list.find? fun entry => key entry = wanted).filter test := by
  induction list with
  | nil => rfl
  | cons entry rest ih =>
      obtain ⟨alone, others⟩ := List.nodup_cons.mp distinct
      by_cases here : key entry = wanted
      · cases selected : test entry with
        | true => simp [Option.filter, here, selected]
        | false =>
            have gone : (rest.filter test).find? (fun entry => key entry = wanted) = none := by
              refine List.find?_eq_none.mpr fun other member same => alone ?_
              rw [here, ← of_decide_eq_true same]
              exact List.mem_map_of_mem (List.mem_of_mem_filter member)
            simp [Option.filter, here, selected, gone]
      · cases selected : test entry with
        | true => simpa [here, selected] using ih others
        | false => simpa [here, selected] using ih others

/-- A list that fits is what its table holds. -/
theorem entries_ofEntries (fits : list.length ≤ size) :
    entries (ofEntries list : Table Entry size) = list := by
  have slots : (ofEntries list : Table Entry size).toList =
      list.map some ++ List.replicate (size - list.length) none := by
    refine List.ext_getElem (by simp; omega) fun index _ _ => ?_
    by_cases inside : index < list.length
    · simp [ofEntries, List.getElem_append_left, inside]
    · rw [List.getElem_append_right (by simpa using inside)]
      simp [ofEntries, Nat.le_of_not_lt inside]
  rw [entries, slots, List.filterMap_append, List.filterMap_map]
  simp

theorem distinct_ofEntries (distinct : (list.map key).Nodup) :
    Distinct key (ofEntries list : Table Entry size) := by
  intro left right first second atLeft atRight same
  rw [getElem_ofEntries] at atLeft atRight
  have inside : left.val < (list.map key).length := by
    rw [List.length_map]
    exact (List.getElem?_eq_some_iff.mp atLeft).1
  refine Fin.ext ((List.getElem?_inj inside distinct).mp ?_)
  rw [List.getElem?_map, List.getElem?_map, atLeft, atRight]
  exact congrArg some same

end Entries

end SlotTable
