import Mathlib.Tactic.Common

/-!
Values of a Python program that were read from JSON, and dictionaries of them. A key that a
dictionary lacks reads as `None`, as with `dict.get`, and the first entry of a key counts.
-/

namespace PyValue

/-- A float is given by what `repr` shows of it, which is something. -/
inductive Value where
  | none
  | bool (flag : Bool)
  | int (number : Int)
  | real (shown : String) (something : shown ≠ "")
  | str (text : String)
  | list (items : List Value)
  | dict (entries : List (String × Value))

abbrev Dict := List (String × Value)

/-- `bool(value)`. -/
def Value.truthy : Value → Bool
  | .none => false
  | .bool flag => flag
  | .int number => number != 0
  | .real shown _ => shown != "0.0" && shown != "-0.0"
  | .str text => text != ""
  | .list items => !items.isEmpty
  | .dict entries => !entries.isEmpty

/-- `left or right`. -/
def Value.orElse (left right : Value) : Value := if left.truthy then left else right

/-- The first true one of the values, else the last: `first or ... or last`. -/
def firstTrue (values : List Value) (last : Value) : Value :=
  values.foldr Value.orElse last

/-- `str(value)`, where `repr` shows lists and dictionaries. -/
def Value.text (repr : Value → String) : Value → String
  | .none => "None"
  | .bool true => "True"
  | .bool false => "False"
  | .int number => toString number
  | .real shown _ => shown
  | .str text => text
  | nested => repr nested

/-- `int(value)`, where `parsed` reads the text of a number and `truncated` what `repr` shows
of a float. -/
def Value.toInt (parsed truncated : String → Except String Int) : Value → Except String Int
  | .none => .error "TypeError"
  | .bool flag => .ok flag.toNat
  | .int number => .ok number
  | .real shown _ => truncated shown
  | .str text => parsed text
  | .list _ => .error "TypeError"
  | .dict _ => .error "TypeError"

/-- How Python shows lists and dictionaries, and how it reads the text of a number and the
shown float. -/
structure Conversions where
  repr : Value → String
  parsed : String → Except String Int
  truncated : String → Except String Int

/-- Conversions that show no list and read no number, for values of texts and integers. -/
def plainConversions : Conversions :=
  ⟨fun _ => "...", fun _ => .error "ValueError", fun _ => .error "ValueError"⟩

/-- `int(value or 0)`. -/
def Conversions.intOrZero (python : Conversions) (value : Value) : Except String Int :=
  (value.orElse (.int 0)).toInt python.parsed python.truncated

/-- `str(value or default)`. -/
def Conversions.textOr (python : Conversions) (default : String) (value : Value) : String :=
  (value.orElse (.str default)).text python.repr

/-- `str(value or "")`. -/
def Conversions.textOrEmpty (python : Conversions) (value : Value) : String :=
  python.textOr "" value

/-- `value == text`. -/
def Value.isText (text : String) : Value → Bool
  | .str other => other == text
  | _ => false

/-- `payload.get(key)`. -/
def get (entries : Dict) (key : String) : Value := (entries.lookup key).getD .none

/-- `payload.setdefault(key, value)`: a key that is there keeps its value, even `None`. -/
def setdefault (entries : Dict) (key : String) (value : Value) : Dict :=
  if (entries.lookup key).isSome then entries else entries ++ [(key, value)]

/-- `payload[key] = value`. -/
def insert (entries : Dict) (key : String) (value : Value) : Dict :=
  entries.filter (fun entry => entry.1 != key) ++ [(key, value)]

/-- `if condition: payload[key] = value`. -/
def insertIf (condition : Bool) (entries : Dict) (key : String) (value : Value) : Dict :=
  if condition then insert entries key value else entries

/-- `payload.update(changes)`. -/
def update (entries changes : Dict) : Dict :=
  changes.foldl (fun entries change => insert entries change.1 change.2) entries

/-- `payload.pop(key, None)`, of which the dictionary is left. -/
def pop (entries : Dict) (key : String) : Dict := entries.filter (fun entry => entry.1 != key)

/-- The entries of a dictionary; no others have any. -/
def Value.entries : Value → Dict
  | .dict entries => entries
  | _ => []

/-- `isinstance(value, dict)`. -/
def Value.isDict : Value → Bool
  | .dict _ => true
  | _ => false

/-- The items of a list; no others have any. -/
def Value.items : Value → List Value
  | .list items => items
  | _ => []

/-- `list(value)`: the items of a list, the keys of a dictionary, the characters of a text. -/
def Value.toList : Value → Except String (List Value)
  | .list items => .ok items
  | .dict entries => .ok (entries.map fun entry => .str entry.1)
  | .str text => .ok (text.toList.map fun char => .str char.toString)
  | _ => .error "TypeError"

def dicts (values : List Value) : List Dict :=
  values.filterMap fun
    | .dict entries => some entries
    | _ => none

/-- `part in text`. -/
def occurs (part text : String) : Bool :=
  text.toList.tails.any fun rest => part.toList.isPrefixOf rest

/-- `char.isspace()`. -/
def isSpace (char : Char) : Bool :=
  let code := char.toNat
  (9 ≤ code && code ≤ 13) || (28 ≤ code && code ≤ 32) || code == 0x85 || code == 0xA0 ||
    code == 0x1680 || (0x2000 ≤ code && code ≤ 0x200A) || code == 0x2028 || code == 0x2029 ||
    code == 0x202F || code == 0x205F || code == 0x3000

def stripWhere (drops : Char → Bool) (text : String) : String :=
  String.ofList ((text.toList.dropWhile drops).reverse.dropWhile drops).reverse

/-- `text.strip()`. -/
def strip (text : String) : String := stripWhere isSpace text

theorem bind_eq_ok {First Result : Type} {first : Except String First}
    {next : First → Except String Result} {result : Result} :
    first >>= next = .ok result ↔ ∃ value, first = .ok value ∧ next value = .ok result := by
  cases first with
  | error raised => simp [bind, Except.bind]
  | ok value => simp [bind, Except.bind]

@[simp] theorem truthy_str (text : String) : (Value.str text).truthy = (text != "") := rfl

@[simp] theorem truthy_none : Value.none.truthy = false := rfl

@[simp] theorem text_str (repr : Value → String) (text : String) :
    (Value.str text).text repr = text := rfl

@[simp] theorem firstTrue_nil (last : Value) : firstTrue [] last = last := rfl

@[simp] theorem firstTrue_cons (first last : Value) (rest : List Value) :
    firstTrue (first :: rest) last = first.orElse (firstTrue rest last) := rfl

/-- A true value shows as something, if `repr` of a list or a dictionary does. -/
theorem text_ne_empty {repr : Value → String} (shows : ∀ value, repr value ≠ "") {value : Value}
    (holds : value.truthy = true) : value.text repr ≠ "" := by
  cases value with
  | none => cases holds
  | bool flag =>
      cases flag with
      | false => cases holds
      | true => exact (by decide : "True" ≠ "")
  | int number =>
      cases number with
      | ofNat digits => exact Nat.repr_ne_empty
      | negSucc digits =>
          intro empty
          have length := congrArg String.length (show "-" ++ Nat.repr (digits + 1) = "" from empty)
          rw [String.length_append] at length
          exact absurd length (by simp)
  | real shown something => exact something
  | str text => simpa using holds
  | list items => exact shows _
  | dict entries => exact shows _

theorem orElse_truthy {left : Value} (right : Value) (holds : left.truthy = true) :
    left.orElse right = left := if_pos holds

theorem orElse_falsy {left : Value} (right : Value) (fails : left.truthy = false) :
    left.orElse right = right := by
  unfold Value.orElse
  rw [fails]
  rfl

@[simp] theorem truthy_orElse (left right : Value) :
    (left.orElse right).truthy = (left.truthy || right.truthy) := by
  cases holds : left.truthy with
  | true => rw [orElse_truthy _ holds, holds, Bool.true_or]
  | false => rw [orElse_falsy _ holds, Bool.false_or]

theorem mem_of_get {entries : Dict} {key : String} {value : Value}
    (found : get entries key = value) (some : value ≠ .none) : (key, value) ∈ entries := by
  unfold get at found
  cases there : entries.lookup key with
  | none =>
      rw [there] at found
      exact absurd found.symm some
  | some other =>
      rw [there] at found
      obtain rfl : other = value := found
      obtain ⟨before, after, rfl, _⟩ := List.lookup_eq_some_iff.mp there
      simp

theorem lookup_of_get {entries : Dict} {key : String} {value : Value}
    (found : get entries key = value) (some : value ≠ .none) :
    entries.lookup key = Option.some value := by
  unfold get at found
  cases there : entries.lookup key with
  | none =>
      rw [there] at found
      exact absurd found.symm some
  | some other =>
      rw [there] at found
      exact congrArg Option.some found

theorem mem_dicts {values : List Value} {entries : Dict} :
    entries ∈ dicts values ↔ .dict entries ∈ values := by
  unfold dicts
  rw [List.mem_filterMap]
  constructor
  · rintro ⟨value, member, same⟩
    cases value with
    | dict fields =>
        obtain rfl := Option.some.inj same
        exact member
    | _ => cases same
  · exact fun member => ⟨_, member, rfl⟩

@[simp] theorem dicts_map_dict (rows : List Dict) : dicts (rows.map .dict) = rows := by
  induction rows with
  | nil => rfl
  | cons row rest ih =>
      rw [List.map_cons, dicts, List.filterMap_cons]
      exact congrArg (row :: ·) ih

theorem get_insert_self {entries : Dict} {key : String} {value : Value} :
    get (insert entries key value) key = value := by
  have gone : (entries.filter fun entry => entry.1 != key).lookup key = none := by
    rw [List.lookup_eq_none_iff]
    intro entry member
    have other : entry.1 ≠ key := by simpa using (List.mem_filter.mp member).2
    simpa using other.symm
  simp [insert, PyValue.get, List.lookup_append, gone]

theorem lookup_insert_ne {entries : Dict} {key other : String} {value : Value}
    (apart : other ≠ key) : (insert entries key value).lookup other = entries.lookup other := by
  have last : (other == key) = false := by simpa using apart
  have kept : (entries.filter fun entry => entry.1 != key).lookup other =
      entries.lookup other := by
    induction entries with
    | nil => rfl
    | cons entry rest ih =>
        obtain ⟨name, held⟩ := entry
        by_cases named : name = key
        · subst name
          rw [List.filter_cons_of_neg (by simp), ih, List.lookup_cons, last]
        · rw [List.filter_cons_of_pos (by simpa using named), List.lookup_cons, ih,
            List.lookup_cons]
  simp [insert, List.lookup_append, kept, List.lookup_cons, last]

theorem get_insert_ne {entries : Dict} {key other : String} {value : Value}
    (apart : other ≠ key) : get (insert entries key value) other = get entries other :=
  congrArg (·.getD .none) (lookup_insert_ne apart)

theorem get_update_ne {entries changes : Dict} {key : String}
    (absent : ∀ change ∈ changes, change.1 ≠ key) :
    get (update entries changes) key = get entries key := by
  induction changes generalizing entries with
  | nil => rfl
  | cons change rest ih =>
      have kept : get (update (insert entries change.1 change.2) rest) key =
          get (insert entries change.1 change.2) key :=
        ih fun other member => absent other (by simp [member])
      have apart : key ≠ change.1 := (absent change (by simp)).symm
      exact kept.trans (get_insert_ne apart)

theorem get_update_of_mem {entries changes : Dict} {key : String} {value : Value}
    (once : (changes.map Prod.fst).Nodup) (member : (key, value) ∈ changes) :
    get (update entries changes) key = value := by
  induction changes generalizing entries with
  | nil => simp at member
  | cons change rest ih =>
      rw [List.map_cons, List.nodup_cons] at once
      rcases List.mem_cons.mp member with same | later
      · subst same
        have absent : ∀ other ∈ rest, other.1 ≠ key := fun other there same =>
          once.1 (List.mem_map.mpr ⟨other, there, same⟩)
        exact (get_update_ne absent).trans get_insert_self
      · exact ih once.2 later

theorem lookup_insertIf_ne {condition : Bool} {entries : Dict} {key other : String}
    {value : Value} (apart : other ≠ key) :
    (insertIf condition entries key value).lookup other = entries.lookup other := by
  cases condition with
  | true => exact lookup_insert_ne apart
  | false => rfl

theorem get_insertIf_ne {condition : Bool} {entries : Dict} {key other : String}
    {value : Value} (apart : other ≠ key) :
    get (insertIf condition entries key value) other = get entries other :=
  congrArg (·.getD .none) (lookup_insertIf_ne apart)

theorem lookup_setdefault_self {entries : Dict} {key : String} {value : Value} :
    (setdefault entries key value).lookup key = some ((entries.lookup key).getD value) := by
  unfold setdefault
  cases there : entries.lookup key with
  | none => simp [List.lookup_append, there]
  | some held => simp [there]

theorem lookup_setdefault_ne {entries : Dict} {key other : String} {value : Value}
    (apart : other ≠ key) : (setdefault entries key value).lookup other = entries.lookup other := by
  have last : (other == key) = false := by simpa using apart
  unfold setdefault
  split
  · rfl
  · simp [List.lookup_append, List.lookup_cons, last]

theorem get_setdefault_self {entries : Dict} {key : String} {value : Value}
    (absent : entries.lookup key = none) : get (setdefault entries key value) key = value := by
  rw [PyValue.get, lookup_setdefault_self, absent]
  rfl

theorem get_setdefault_ne {entries : Dict} {key other : String} {value : Value}
    (apart : other ≠ key) : get (setdefault entries key value) other = get entries other :=
  congrArg (·.getD .none) (lookup_setdefault_ne apart)

end PyValue
