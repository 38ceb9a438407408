import Mathlib.Logic.Function.Basic
import NeuroLink.CText
import NeuroLink.EffectProgram
import NeuroLink.Errno

/-!
A volume maps paths to files and directories. Every call takes effect at once or
not at all, except that a write may leave any part of its data behind. A call
fails with whatever error the environment chooses; only `stat` never reports a
file that exists as absent.
-/

namespace FileSystem

open CText EffectProgram Errno

inductive Node where
  | file (content : List UInt8)
  | dir
  deriving DecidableEq

abbrev Volume := Text → Option Node

inductive Kind where
  | file
  | dir
  deriving DecidableEq

structure Dirent where
  kind : Kind
  size : Nat
  deriving DecidableEq

/-- The calls. A file handle is the path it was opened at. -/
inductive Op where
  | stat (path : Text)
  | mkdir (path : Text)
  | rename (source target : Text)
  | unlink (path : Text)
  | openTruncate (path : Text)
  | openRead (path : Text)
  | read (path : Text) (size : Nat)
  | write (path : Text) (content : List UInt8)
  | sync (path : Text)
  | close (path : Text)
  deriving DecidableEq

abbrev Reply : Op → Type
  | .stat _ => Except Int Dirent
  | .read _ _ => Except Int (List UInt8)
  | _ => Int

/-- What the environment makes of a call: it works, it fails with an error after
some progress, or it transfers fewer bytes than asked. -/
inductive Outcome where
  | works
  | fails (error : Int) (negative : error < 0) (progress : Nat)
  | short (count : Nat)

instance : Inhabited Outcome := ⟨.works⟩

def Node.dirent : Node → Dirent
  | .file content => ⟨.file, content.length⟩
  | .dir => ⟨.dir, 0⟩

def append (volume : Volume) (path : Text) (content : List UInt8) : Volume :=
  match volume path with
  | some (.file before) => Function.update volume path (some (.file (before ++ content)))
  | _ => volume

theorem append_elsewhere {volume : Volume} {path other : Text} (content : List UInt8)
    (apart : other ≠ path) : append volume path content other = volume other := by
  unfold append
  cases volume path with
  | none => rfl
  | some node =>
      cases node with
      | dir => rfl
      | file before => exact Function.update_of_ne apart ..

def contentAt (volume : Volume) (path : Text) : List UInt8 :=
  match volume path with
  | some (.file content) => content
  | _ => []

/-- A call that works. -/
def perform : (op : Op) → Volume → Reply op × Volume
  | .stat path, volume =>
      match volume path with
      | some node => (.ok node.dirent, volume)
      | none => (.error (-enoent), volume)
  | .mkdir path, volume =>
      match volume path with
      | some _ => (-eexist, volume)
      | none => (0, Function.update volume path (some .dir))
  | .rename source target, volume =>
      match volume source, volume target with
      | none, _ => (-enoent, volume)
      | some _, some .dir => (-eisdir, volume)
      | some node, _ =>
          (0, Function.update (Function.update volume source none) target (some node))
  | .unlink path, volume =>
      match volume path with
      | none => (-enoent, volume)
      | some _ => (0, Function.update volume path none)
  | .openTruncate path, volume =>
      match volume path with
      | some .dir => (-eisdir, volume)
      | _ => (0, Function.update volume path (some (.file [])))
  | .openRead path, volume =>
      match volume path with
      | none => (-enoent, volume)
      | some .dir => (-eisdir, volume)
      | some (.file _) => (0, volume)
  | .read path size, volume => (.ok ((contentAt volume path).take size), volume)
  | .write path content, volume => (content.length, append volume path content)
  | .sync _, volume => (0, volume)
  | .close _, volume => (0, volume)

def step : Outcome → (op : Op) → Volume → Reply op × Volume
  | .works, op, volume => perform op volume
  | .fails error _ _, .stat path, volume =>
      if error = -enoent then perform (.stat path) volume else (.error error, volume)
  | .fails error _ progress, .write path content, volume =>
      (error, append volume path (content.take progress))
  | .fails error _ _, .read _ _, volume => (.error error, volume)
  | .fails error _ _, .mkdir _, volume => (error, volume)
  | .fails error _ _, .rename _ _, volume => (error, volume)
  | .fails error _ _, .unlink _, volume => (error, volume)
  | .fails error _ _, .openTruncate _, volume => (error, volume)
  | .fails error _ _, .openRead _, volume => (error, volume)
  | .fails error _ _, .sync _, volume => (error, volume)
  | .fails error _ _, .close _, volume => (error, volume)
  | .short count, .write path content, volume =>
      ((content.take count).length, append volume path (content.take count))
  | .short count, .read path size, volume =>
      (.ok ((contentAt volume path).take (min count size)), volume)
  | .short _, op, volume => perform op volume

def machine : Machine Op Reply Volume Outcome := ⟨step⟩

abbrev FileM := Program Op Reply

def stat (path : Text) : FileM (Except Int Dirent) := .request (Op.stat path)
def mkdir (path : Text) : FileM Int := .request (Op.mkdir path)
def rename (source target : Text) : FileM Int := .request (Op.rename source target)
def unlink (path : Text) : FileM Int := .request (Op.unlink path)
def openTruncate (path : Text) : FileM Int := .request (Op.openTruncate path)
def openRead (path : Text) : FileM Int := .request (Op.openRead path)
def read (path : Text) (size : Nat) : FileM (Except Int (List UInt8)) :=
  .request (Op.read path size)
def write (path : Text) (content : List UInt8) : FileM Int :=
  .request (Op.write path content)
def sync (path : Text) : FileM Int := .request (Op.sync path)
def close (path : Text) : FileM Int := .request (Op.close path)

@[simp] theorem machine_default (op : Op) (volume : Volume) :
    machine.step default op volume = perform op volume := rfl

/-! What each call can do, over all outcomes. -/

section Cases

variable (outcome : Outcome) (volume : Volume)

/-- A call that works, is cut short or fails either does what it does when it
works or returns an error and changes nothing. -/
theorem step_cases (op : Op) (error_reply : Int → Reply op)
    (failing : ∀ error negative progress,
      step (.fails error negative progress) op volume = (error_reply error, volume))
    (shorting : ∀ count, step (.short count) op volume = perform op volume) :
    step outcome op volume = perform op volume ∨
      ∃ error, error < 0 ∧ step outcome op volume = (error_reply error, volume) := by
  cases outcome with
  | works => exact .inl rfl
  | short count => exact .inl (shorting count)
  | fails error negative progress =>
      exact .inr ⟨error, negative, failing error negative progress⟩

theorem step_stat_cases (path : Text) :
    (∃ node, volume path = some node ∧
      step outcome (.stat path) volume = (.ok node.dirent, volume)) ∨
    (volume path = none ∧
      step outcome (.stat path) volume = (.error (-enoent), volume)) ∨
    ∃ error, error < 0 ∧ error ≠ -enoent ∧
      step outcome (.stat path) volume = (.error error, volume) := by
  have truth : (∃ node, volume path = some node ∧
      perform (.stat path) volume = (.ok node.dirent, volume)) ∨
      (volume path = none ∧
        perform (.stat path) volume = (.error (-enoent), volume)) ∨
      ∃ error, error < 0 ∧ error ≠ -enoent ∧
        perform (.stat path) volume = (.error error, volume) := by
    cases there : volume path with
    | none => exact .inr (.inl ⟨rfl, by simp [perform, there]⟩)
    | some node => exact .inl ⟨node, rfl, by simp [perform, there]⟩
  cases outcome with
  | works => exact truth
  | short count => exact truth
  | fails error negative progress =>
      by_cases absent : error = -enoent
      · simpa only [step, if_pos absent] using truth
      · exact .inr (.inr ⟨error, negative, absent, by simp only [step, if_neg absent]⟩)

theorem step_unlink_cases (path : Text) :
    (volume path ≠ none ∧
      step outcome (.unlink path) volume = (0, Function.update volume path none)) ∨
    ∃ error : Int, error < 0 ∧ step outcome (.unlink path) volume = (error, volume) := by
  rcases step_cases outcome volume (.unlink path) id (fun _ _ _ => rfl) (fun _ => rfl) with
    works | failed
  · rw [works]
    cases there : volume path with
    | none => exact .inr ⟨-enoent, by decide, by simp [perform, there]⟩
    | some node => exact .inl (by simp [perform, there])
  · exact .inr failed

theorem step_rename_cases (source target : Text) :
    (∃ node, volume source = some node ∧
      step outcome (.rename source target) volume =
        (0, Function.update (Function.update volume source none) target (some node))) ∨
    ∃ error : Int, error < 0 ∧
      step outcome (.rename source target) volume = (error, volume) := by
  rcases step_cases outcome volume (.rename source target) id (fun _ _ _ => rfl)
    (fun _ => rfl) with works | failed
  · rw [works]
    cases origin : volume source with
    | none => exact .inr ⟨-enoent, by decide, by simp [perform, origin]⟩
    | some node =>
        cases onto : volume target with
        | none => exact .inl ⟨node, rfl, by simp [perform, origin, onto]⟩
        | some other =>
            cases other with
            | dir => exact .inr ⟨-eisdir, by decide, by simp [perform, origin, onto]⟩
            | file content => exact .inl ⟨node, rfl, by simp [perform, origin, onto]⟩
  · exact .inr failed

theorem step_openTruncate_cases (path : Text) :
    step outcome (.openTruncate path) volume =
      (0, Function.update volume path (some (.file []))) ∨
    ∃ error : Int, error < 0 ∧
      step outcome (.openTruncate path) volume = (error, volume) := by
  rcases step_cases outcome volume (.openTruncate path) id (fun _ _ _ => rfl)
    (fun _ => rfl) with works | failed
  · rw [works]
    cases there : volume path with
    | none => exact .inl (by simp [perform, there])
    | some node =>
        cases node with
        | dir => exact .inr ⟨-eisdir, by decide, by simp [perform, there]⟩
        | file content => exact .inl (by simp [perform, there])
  · exact .inr failed

theorem step_mkdir_cases (path : Text) :
    (volume path = none ∧ step outcome (.mkdir path) volume =
      (0, Function.update volume path (some .dir))) ∨
    ∃ error : Int, error < 0 ∧ step outcome (.mkdir path) volume = (error, volume) := by
  rcases step_cases outcome volume (.mkdir path) id (fun _ _ _ => rfl) (fun _ => rfl) with
    works | failed
  · rw [works]
    cases there : volume path with
    | none => exact .inl ⟨rfl, by simp [perform, there]⟩
    | some node => exact .inr ⟨-eexist, by decide, by simp [perform, there]⟩
  · exact .inr failed

theorem step_openRead_cases (path : Text) :
    ∃ reply : Int, step outcome (.openRead path) volume = (reply, volume) := by
  rcases step_cases outcome volume (.openRead path) id (fun _ _ _ => rfl)
    (fun _ => rfl) with works | ⟨error, _, failed⟩
  · rw [works]
    cases there : volume path with
    | none => exact ⟨-enoent, by simp [perform, there]⟩
    | some node =>
        cases node with
        | dir => exact ⟨-eisdir, by simp [perform, there]⟩
        | file content => exact ⟨0, by simp [perform, there]⟩
  · exact ⟨error, failed⟩

theorem step_sync_cases (path : Text) :
    ∃ reply : Int, step outcome (.sync path) volume = (reply, volume) := by
  cases outcome <;> exact ⟨_, rfl⟩

theorem step_close_cases (path : Text) :
    ∃ reply : Int, step outcome (.close path) volume = (reply, volume) := by
  cases outcome <;> exact ⟨_, rfl⟩

theorem step_write_cases (path : Text) (content : List UInt8) :
    ∃ (count : Nat) (reply : Int),
      step outcome (.write path content) volume =
        (reply, append volume path (content.take count)) ∧
      (reply = content.length → content.take count = content) := by
  cases outcome with
  | works =>
      exact ⟨content.length, content.length, by simp [step, perform], by simp⟩
  | fails error negative progress =>
      exact ⟨progress, error, rfl, fun full => by omega⟩
  | short count =>
      refine ⟨count, (content.take count).length, rfl, fun full => ?_⟩
      rw [Int.natCast_inj, List.length_take] at full
      exact List.take_of_length_le (by omega)

theorem step_read_cases (path : Text) (size : Nat) :
    ∃ reply, step outcome (.read path size) volume = (reply, volume) ∧
      ∀ content, reply = .ok content → content.length = size →
        (contentAt volume path).length = size → content = contentAt volume path := by
  cases outcome with
  | works =>
      refine ⟨_, rfl, fun content reply _ bound => ?_⟩
      rw [← Except.ok.inj reply, List.take_of_length_le (by omega)]
  | fails error negative progress =>
      exact ⟨_, rfl, fun content reply => by cases reply⟩
  | short count =>
      refine ⟨_, rfl, fun content reply full bound => ?_⟩
      rw [← Except.ok.inj reply] at full ⊢
      rw [List.length_take] at full
      exact List.take_of_length_le (by omega)

end Cases

/-! The program logic of the calls: one rule for each. -/

section Rules

variable {Result : Type} {allowed : Event Op Reply Volume → Prop} {inv : Volume → Prop}
  {post : Result → Volume → Prop} {volume : Volume} {path : Text}

theorem holds_stat {next : Except Int Dirent → FileM Result} (kept : inv volume)
    (present : ∀ node, volume path = some node →
      Holds machine allowed inv post (next (.ok node.dirent)) volume)
    (absent : volume path = none →
      Holds machine allowed inv post (next (.error (-enoent))) volume)
    (failed : ∀ error, error < 0 → error ≠ -enoent →
      Holds machine allowed inv post (next (.error error)) volume) :
    Holds machine allowed inv post (.call (.stat path) next) volume := by
  refine .call kept fun outcome _ => ?_
  rcases step_stat_cases outcome volume path with
    ⟨node, there, result⟩ | ⟨missing, result⟩ | ⟨error, negative, other, result⟩
  · simpa only [machine, result] using present node there
  · simpa only [machine, result] using absent missing
  · simpa only [machine, result] using failed error negative other

theorem holds_unlink {next : Int → FileM Result} (kept : inv volume)
    (done : volume path ≠ none →
      allowed ⟨.unlink path, volume, (0 : Int), Function.update volume path none⟩ →
      Holds machine allowed inv post (next 0) (Function.update volume path none))
    (failed : ∀ error, error < 0 →
      Holds machine allowed inv post (next error) volume) :
    Holds machine allowed inv post (.call (.unlink path) next) volume := by
  refine .call kept fun outcome valid => ?_
  rcases step_unlink_cases outcome volume path with
    ⟨there, result⟩ | ⟨error, negative, result⟩
  · simp only [machine, result] at valid ⊢
    exact done there valid
  · simpa only [machine, result] using failed error negative

theorem holds_rename {source target : Text} {next : Int → FileM Result}
    (kept : inv volume)
    (done : ∀ node, volume source = some node →
      Holds machine allowed inv post (next 0)
        (Function.update (Function.update volume source none) target (some node)))
    (failed : ∀ error, error < 0 →
      Holds machine allowed inv post (next error) volume) :
    Holds machine allowed inv post (.call (.rename source target) next) volume := by
  refine .call kept fun outcome _ => ?_
  rcases step_rename_cases outcome volume source target with
    ⟨node, there, result⟩ | ⟨error, negative, result⟩
  · simpa only [machine, result] using done node there
  · simpa only [machine, result] using failed error negative

theorem holds_openTruncate {next : Int → FileM Result} (kept : inv volume)
    (done : allowed ⟨.openTruncate path, volume, (0 : Int),
        Function.update volume path (some (.file []))⟩ →
      Holds machine allowed inv post (next 0)
        (Function.update volume path (some (.file []))))
    (failed : ∀ error, error < 0 →
      Holds machine allowed inv post (next error) volume) :
    Holds machine allowed inv post (.call (.openTruncate path) next) volume := by
  refine .call kept fun outcome valid => ?_
  rcases step_openTruncate_cases outcome volume path with
    result | ⟨error, negative, result⟩
  · simp only [machine, result] at valid ⊢
    exact done valid
  · simpa only [machine, result] using failed error negative

theorem holds_mkdir {next : Int → FileM Result} (kept : inv volume)
    (done : volume path = none →
      Holds machine allowed inv post (next 0)
        (Function.update volume path (some .dir)))
    (failed : ∀ error, error < 0 →
      Holds machine allowed inv post (next error) volume) :
    Holds machine allowed inv post (.call (.mkdir path) next) volume := by
  refine .call kept fun outcome _ => ?_
  rcases step_mkdir_cases outcome volume path with
    ⟨missing, result⟩ | ⟨error, negative, result⟩
  · simpa only [machine, result] using done missing
  · simpa only [machine, result] using failed error negative

theorem holds_openRead {next : Int → FileM Result} (kept : inv volume)
    (continues : ∀ reply, Holds machine allowed inv post (next reply) volume) :
    Holds machine allowed inv post (.call (.openRead path) next) volume := by
  refine .call kept fun outcome _ => ?_
  obtain ⟨reply, result⟩ := step_openRead_cases outcome volume path
  simpa only [machine, result] using continues reply

theorem holds_sync {next : Int → FileM Result} (kept : inv volume)
    (continues : ∀ reply, Holds machine allowed inv post (next reply) volume) :
    Holds machine allowed inv post (.call (.sync path) next) volume := by
  refine .call kept fun outcome _ => ?_
  obtain ⟨reply, result⟩ := step_sync_cases outcome volume path
  simpa only [machine, result] using continues reply

theorem holds_close {next : Int → FileM Result} (kept : inv volume)
    (continues : ∀ reply, Holds machine allowed inv post (next reply) volume) :
    Holds machine allowed inv post (.call (.close path) next) volume := by
  refine .call kept fun outcome _ => ?_
  obtain ⟨reply, result⟩ := step_close_cases outcome volume path
  simpa only [machine, result] using continues reply

theorem holds_write {content : List UInt8} {next : Int → FileM Result}
    (kept : inv volume)
    (continues : ∀ (count : Nat) (reply : Int),
      (reply = content.length → content.take count = content) →
      Holds machine allowed inv post (next reply)
        (append volume path (content.take count))) :
    Holds machine allowed inv post (.call (.write path content) next) volume := by
  refine .call kept fun outcome _ => ?_
  obtain ⟨count, reply, result, full⟩ := step_write_cases outcome volume path content
  simpa only [machine, result] using continues count reply full

theorem holds_read {size : Nat} {next : Except Int (List UInt8) → FileM Result}
    (kept : inv volume)
    (continues : ∀ reply,
      (∀ content, reply = .ok content → content.length = size →
        (contentAt volume path).length = size → content = contentAt volume path) →
      Holds machine allowed inv post (next reply) volume) :
    Holds machine allowed inv post (.call (.read path size) next) volume := by
  refine .call kept fun outcome _ => ?_
  obtain ⟨reply, result, whole⟩ := step_read_cases outcome volume path size
  simpa only [machine, result] using continues reply whole

end Rules

end FileSystem
