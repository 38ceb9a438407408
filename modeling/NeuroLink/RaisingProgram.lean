import NeuroLink.EffectProgram

/-!
Programs of a language with exceptions: every call returns a value or raises, and so does
the program. A run logs its calls with what they returned. `Logs` speaks of all runs at
once: what is known of the log at each call, and of the log and the result at the end.
-/

namespace RaisingProgram

open EffectProgram

universe u

abbrev Raising (Op : Type u) (Value : Op → Type u) (Result : Type u) :=
  Program Op (fun op => Except String (Value op)) (Except String Result)

def Service (Op : Type u) (Value : Op → Type u) (Result : Type u) := Raising Op Value Result

structure Done (Op : Type u) (Value : Op → Type u) where
  op : Op
  reply : Except String (Value op)

section Programs

variable {Op : Type u} {Value : Op → Type u} {First Result : Type u}

instance : Monad (Service Op Value) where
  pure result := .pure (.ok result)
  bind program next := Program.bind program fun
    | .ok result => next result
    | .error raised => .pure (.error raised)

def perform (op : Op) : Service Op Value (Value op) := .call op .pure

def raise (raised : String) : Service Op Value Result := .pure (.error raised)

/-- What an optional value stands for, or the exception if there is none. -/
def orRaise (raised : String) : Option Result → Service Op Value Result
  | some result => pure result
  | none => raise raised

def caught (program : Service Op Value Result) : Service Op Value (Except String Result) :=
  Program.bind program fun result => .pure (.ok result)

def orThrow : Except String Result → Service Op Value Result
  | .ok result => pure result
  | .error raised => raise raised

/-- What all calls of a run return or raise. -/
abbrev Answers (Op : Type u) (Value : Op → Type u) := (op : Op) → Except String (Value op)

instance : Inhabited (Answers Op Value) := ⟨fun _ => .error ""⟩

def logging : Machine Op (fun op => Except String (Value op)) (List (Done Op Value))
    (Answers Op Value) where
  step answers op log := (answers op, log ++ [⟨op, answers op⟩])

/-- The result of a run and its log. -/
def logged (answers : List (Answers Op Value)) (program : Service Op Value Result) :
    Except String Result × List (Done Op Value) :=
  run logging answers program []

theorem run_log (answers : List (Answers Op Value)) (program : Service Op Value Result)
    (log other : List (Done Op Value)) :
    (run logging answers program log).1 = (run logging answers program other).1 := by
  induction program generalizing answers log other with
  | pure result => rfl
  | call op next ih => exact ih _ answers.tail _ _

theorem logged_perform {answer : Answers Op Value} {answers : List (Answers Op Value)} {op : Op}
    (value : Value op) (next : Value op → Service Op Value Result)
    (returns : answer op = .ok value) :
    (logged (answer :: answers) (perform op >>= next)).1 = (logged answers (next value)).1 := by
  change (run logging answers (Program.bind (.pure (answer op)) _) _).1 = _
  rw [returns]
  exact run_log answers (next value) _ []

end Programs

section Logic

variable {Op : Type u} {Value : Op → Type u} {First Result : Type u}

/-- Whatever the calls return, each is made where the log is good for it, and the result
and the log meet the condition in the end. -/
def Logs (good : List (Done Op Value) → Op → Prop)
    (post : Except String Result → List (Done Op Value) → Prop) :
    Service Op Value Result → List (Done Op Value) → Prop
  | .pure result, log => post result log
  | .call op next, log => good log op ∧ ∀ reply, Logs good post (next reply) (log ++ [⟨op, reply⟩])

variable {good : List (Done Op Value) → Op → Prop} {log : List (Done Op Value)}
  {post : Except String Result → List (Done Op Value) → Prop}

theorem Logs.pure {result : Result} (done : post (.ok result) log) :
    Logs good post (Pure.pure result) log := done

/-- What the first part of a program has to end with: a value that the rest goes on from, or
an exception that ends the whole. -/
def Onward (good : List (Done Op Value) → Op → Prop)
    (post : Except String Result → List (Done Op Value) → Prop)
    (next : First → Service Op Value Result) : Except String First → List (Done Op Value) → Prop
  | .ok first, log => Logs good post (next first) log
  | .error raised, log => post (.error raised) log

theorem Logs.bind {program : Service Op Value First} {next : First → Service Op Value Result}
    (logs : Logs good (Onward good post next) program log) :
    Logs good post (program >>= next) log := by
  induction program generalizing log with
  | pure result =>
      cases result with
      | ok first => exact logs
      | error raised => exact logs
  | call op rest ih => exact ⟨logs.1, fun reply => ih reply (logs.2 reply)⟩

/-- The rule of a call: it is made where the log is good, raises, or goes on. -/
theorem Logs.perform {op : Op} {next : Value op → Service Op Value Result} (fine : good log op)
    (raises : ∀ raised, post (.error raised) (log ++ [⟨op, .error raised⟩]))
    (returns : ∀ value, Logs good post (next value) (log ++ [⟨op, .ok value⟩])) :
    Logs good post (RaisingProgram.perform op >>= next) log := by
  refine ⟨fine, fun reply => ?_⟩
  cases reply with
  | error raised => exact raises raised
  | ok value => exact returns value

theorem Logs.orRaise {raised : String} {found : Option First}
    {next : First → Service Op Value Result}
    (raises : found = none → post (.error raised) log)
    (returns : ∀ first, found = some first → Logs good post (next first) log) :
    Logs good post (RaisingProgram.orRaise raised found >>= next) log := by
  cases found with
  | none => exact raises rfl
  | some first => exact returns first rfl

theorem Logs.orThrow {found : Except String First} {next : First → Service Op Value Result}
    (raises : ∀ raised, found = .error raised → post (.error raised) log)
    (returns : ∀ first, found = .ok first → Logs good post (next first) log) :
    Logs good post (RaisingProgram.orThrow found >>= next) log := by
  cases found with
  | error raised => exact raises raised rfl
  | ok first => exact returns first rfl

/-- The rule of a handler: it goes on from either end of the program it guards. -/
theorem Logs.caught {program : Service Op Value First}
    {next : Except String First → Service Op Value Result}
    (logs : Logs good (fun result log => Logs good post (next result) log) program log) :
    Logs good post (RaisingProgram.caught program >>= next) log := by
  induction program generalizing log with
  | pure result => exact logs
  | call op rest ih => exact ⟨logs.1, fun reply => ih reply (logs.2 reply)⟩

theorem Logs.ite {condition : Prop} {_ : Decidable condition}
    {first second : Service Op Value Result}
    (holds : condition → Logs good post first log)
    (fails : ¬ condition → Logs good post second log) :
    Logs good post (if condition then first else second) log := by
  by_cases known : condition
  · rw [if_pos known]
    exact holds known
  · rw [if_neg known]
    exact fails known

/-- Soundness for the result and the log of a run. -/
theorem Logs.run {program : Service Op Value Result} (logs : Logs good post program log)
    (answers : List (Answers Op Value)) :
    post (EffectProgram.run logging answers program log).1
      (EffectProgram.run logging answers program log).2 := by
  induction program generalizing answers log with
  | pure result => exact logs
  | call op next ih => exact ih _ (logs.2 _) answers.tail

/-- Soundness for the calls: where one was made, the log up to it was good for it. -/
theorem Logs.calls {program : Service Op Value Result} (logs : Logs good post program log)
    (answers : List (Answers Op Value))
    (sofar : ∀ before done after, log = before ++ done :: after → good before done.op) :
    ∀ before done after,
      (EffectProgram.run logging answers program log).2 = before ++ done :: after →
        good before done.op := by
  induction program generalizing answers log with
  | pure result => exact sofar
  | call op next ih =>
      refine ih _ (logs.2 _) answers.tail fun before done after same => ?_
      rcases List.eq_nil_or_concat after with rfl | ⟨rest, last, rfl⟩
      · obtain ⟨rfl, only⟩ := List.append_inj' same rfl
        obtain rfl := (List.cons.inj only).1
        exact logs.1
      · have longer : log ++ [(⟨op, (answers.headD default) op⟩ : Done Op Value)] =
            (before ++ done :: rest) ++ [last] := by
          simpa [logging] using same
        exact sofar before done rest (List.append_inj' longer rfl).1

end Logic

end RaisingProgram
