import Mathlib.Algebra.Order.BigOperators.Group.List
import Mathlib.Algebra.Order.Ring.Int

/-!
The vitality of the agent: a score that signals raise and lower, and the state, the urgency
and the reasons that go with it. It rises on verified evidence only.
-/

namespace NeuroLink.Vitality

inductive Direction where
  | decay
  | replenish
  deriving DecidableEq

/-- `VitalitySignal`; one with a smaller magnitude raises when it is made. -/
structure VitalitySignal where
  reason : String
  direction : Direction
  verified : Bool
  magnitude : Int
  positive : 1 ≤ magnitude

/-- The names `state_for_score` returns. -/
inductive Condition where
  | relaxed
  | attentive
  | concerned
  | critical
  deriving DecidableEq

def Condition.name : Condition → String
  | .relaxed => "relaxed"
  | .attentive => "attentive"
  | .concerned => "concerned"
  | .critical => "critical"

structure VitalityPolicy where
  minScore : Int
  maxScore : Int
  relaxedMin : Int
  attentiveMin : Int
  concernedMin : Int
  decayWeights : List (String × Int)
  replenishmentWeights : List (String × Int)

namespace VitalityPolicy

/-- `VitalityPolicy()`. -/
def standard : VitalityPolicy where
  minScore := 0
  maxScore := 100
  relaxedMin := 75
  attentiveMin := 45
  concernedMin := 20
  decayWeights := [("wall_clock_tick", 3), ("no_effective_interaction", 4), ("stale_memory", 5),
    ("stalled_improvement", 6), ("unresolved_fault", 8), ("failed_test", 10)]
  replenishmentWeights := [("useful_interaction", 4), ("memory_consolidation", 6),
    ("tests_passed", 8), ("unit_recovery", 10), ("approved_improvement", 12),
    ("release_gate_passed", 14)]

variable (policy : VitalityPolicy)

def clamp (score : Int) : Int := max policy.minScore (min policy.maxScore score)

def stateForScore (score : Int) : Condition :=
  if score ≥ policy.relaxedMin then .relaxed
  else if score ≥ policy.attentiveMin then .attentive
  else if score ≥ policy.concernedMin then .concerned
  else .critical

/-- `urgency_modifier_for_score`, in hundredths. -/
def urgencyModifierForScore (score : Int) : Int :=
  match policy.stateForScore score with
  | .relaxed => -20
  | .attentive => 0
  | .concerned => 35
  | .critical => 70

/-- `delta_for`. -/
def deltaFor (signal : VitalitySignal) : Except String Int :=
  match signal.direction with
  | .decay =>
      match policy.decayWeights.lookup signal.reason with
      | none => .error ("unknown vitality decay reason: " ++ signal.reason)
      | some weight => .ok (-(weight * signal.magnitude))
  | .replenish =>
      if !signal.verified then
        .error "vitality replenishment requires verified evidence before it can be applied"
      else
        match policy.replenishmentWeights.lookup signal.reason with
        | none => .error ("unknown vitality replenishment reason: " ++ signal.reason)
        | some weight => .ok (weight * signal.magnitude)

end VitalityPolicy

/-- `VitalityState`; the impact on the policy is always the same text. -/
structure VitalityState where
  score : Int
  state : Condition
  lastDecayReason : Option String
  lastReplenishmentReason : Option String
  urgencyModifier : Int

/-- `VitalityState.from_score`. -/
def fromScore (policy : VitalityPolicy) (score : Int)
    (lastDecayReason lastReplenishmentReason : Option String) : VitalityState where
  score := policy.clamp score
  state := policy.stateForScore (policy.clamp score)
  lastDecayReason := lastDecayReason
  lastReplenishmentReason := lastReplenishmentReason
  urgencyModifier := policy.urgencyModifierForScore (policy.clamp score)

structure VitalityTransition where
  previous : VitalityState
  current : VitalityState
  appliedDelta : Int
  signals : List VitalitySignal

/-- What the loop of `apply_vitality_signals` carries. -/
structure Tally where
  nextScore : Int
  lastDecayReason : Option String
  lastReplenishmentReason : Option String

def Tally.add (policy : VitalityPolicy) (tally : Tally) (signal : VitalitySignal) :
    Except String Tally := do
  let delta ← policy.deltaFor signal
  match signal.direction with
  | .decay => return { tally with
      nextScore := tally.nextScore + delta, lastDecayReason := some signal.reason }
  | .replenish => return { tally with
      nextScore := tally.nextScore + delta, lastReplenishmentReason := some signal.reason }

/-- `apply_vitality_signals`. -/
def applyVitalitySignals (policy : VitalityPolicy) (current : VitalityState)
    (signals : List VitalitySignal) : Except String VitalityTransition := do
  let tally ← signals.foldlM (Tally.add policy)
    ⟨current.score, current.lastDecayReason, current.lastReplenishmentReason⟩
  let next := fromScore policy tally.nextScore tally.lastDecayReason tally.lastReplenishmentReason
  return ⟨current, next, next.score - current.score, signals⟩

/-- The state after a call; one that raises leaves it. -/
def take (policy : VitalityPolicy) (current : VitalityState) (signals : List VitalitySignal) :
    VitalityState :=
  match applyVitalitySignals policy current signals with
  | .ok transition => transition.current
  | .error _ => current

/-- The bounds are in order and no weight is negative. -/
structure Fair (policy : VitalityPolicy) : Prop where
  bounds : policy.minScore ≤ policy.maxScore
  decay : ∀ entry ∈ policy.decayWeights, 0 ≤ entry.2
  replenishment : ∀ entry ∈ policy.replenishmentWeights, 0 ≤ entry.2

/-- The score is within the bounds, and state and urgency are those of the score. -/
structure Sound (policy : VitalityPolicy) (state : VitalityState) : Prop where
  above : policy.minScore ≤ state.score
  below : state.score ≤ policy.maxScore
  named : state.state = policy.stateForScore state.score
  urgent : state.urgencyModifier = policy.urgencyModifierForScore state.score

/-- What a signal may add to the score: the weight of a verified replenishment. -/
def credit (policy : VitalityPolicy) (signal : VitalitySignal) : Int :=
  if signal.direction = .replenish ∧ signal.verified then
    ((policy.replenishmentWeights.lookup signal.reason).getD 0) * signal.magnitude
  else 0

def Admitted (policy : VitalityPolicy) (signal : VitalitySignal) : Prop :=
  ∃ delta, policy.deltaFor signal = .ok delta

def worth (policy : VitalityPolicy) (signal : VitalitySignal) : Int :=
  match policy.deltaFor signal with
  | .ok delta => delta
  | .error _ => 0

section Calls

variable {policy : VitalityPolicy} {current : VitalityState}

theorem fromScore_sound (fair : Fair policy) (score : Int) (decay replenishment : Option String) :
    Sound policy (fromScore policy score decay replenishment) where
  above := le_max_left _ _
  below := max_le fair.bounds (min_le_left _ _)
  named := rfl
  urgent := rfl

theorem worth_of_delta {signal : VitalitySignal} {delta : Int}
    (allowed : policy.deltaFor signal = .ok delta) : worth policy signal = delta := by
  rw [worth, allowed]

/-- One step of the loop goes through exactly with a signal that the policy admits, and adds
what it is worth. -/
theorem add_ok_iff (tally : Tally) (signal : VitalitySignal) :
    (∃ next, Tally.add policy tally signal = .ok next) ↔ Admitted policy signal := by
  cases delta : policy.deltaFor signal with
  | error message => simp [Tally.add, Admitted, delta, bind, Except.bind]
  | ok number =>
      refine iff_of_true ?_ ⟨number, delta⟩
      cases way : signal.direction with
      | decay => exact ⟨_, by simp only [Tally.add, delta, way]; rfl⟩
      | replenish => exact ⟨_, by simp only [Tally.add, delta, way]; rfl⟩

theorem add_score {tally next : Tally} {signal : VitalitySignal}
    (added : Tally.add policy tally signal = .ok next) :
    next.nextScore = tally.nextScore + worth policy signal := by
  cases delta : policy.deltaFor signal with
  | error message => simp [Tally.add, delta, bind, Except.bind] at added
  | ok number =>
      rw [worth_of_delta delta]
      cases way : signal.direction with
      | decay =>
          simp only [Tally.add, delta, way] at added
          cases added
          rfl
      | replenish =>
          simp only [Tally.add, delta, way] at added
          cases added
          rfl

theorem tally_ok_iff (signals : List VitalitySignal) (tally : Tally) :
    (∃ final, signals.foldlM (Tally.add policy) tally = .ok final) ↔
      ∀ signal ∈ signals, Admitted policy signal := by
  induction signals generalizing tally with
  | nil => exact iff_of_true ⟨tally, rfl⟩ (fun _ member => absurd member (List.not_mem_nil))
  | cons signal rest ih =>
      rw [List.forall_mem_cons, ← add_ok_iff tally signal]
      cases added : Tally.add policy tally signal with
      | error message => simp [List.foldlM_cons, added, bind, Except.bind]
      | ok next =>
          rw [List.foldlM_cons, added, ← ih next]
          exact (and_iff_right ⟨next, rfl⟩).symm

theorem tally_score {signals : List VitalitySignal} {tally final : Tally}
    (added : signals.foldlM (Tally.add policy) tally = .ok final) :
    final.nextScore = tally.nextScore + (signals.map (worth policy)).sum := by
  induction signals generalizing tally with
  | nil =>
      cases added
      exact (Int.add_zero _).symm
  | cons signal rest ih =>
      rw [List.foldlM_cons] at added
      cases first : Tally.add policy tally signal with
      | error message =>
          rw [first] at added
          cases added
      | ok next =>
          rw [first] at added
          rw [ih added, add_score first, List.map_cons, List.sum_cons, Int.add_assoc]

/-- A call raises exactly if a signal is not admitted. -/
theorem apply_ok_iff (policy : VitalityPolicy) (current : VitalityState)
    (signals : List VitalitySignal) :
    (∃ transition, applyVitalitySignals policy current signals = .ok transition) ↔
      ∀ signal ∈ signals, Admitted policy signal := by
  rw [← tally_ok_iff signals
    ⟨current.score, current.lastDecayReason, current.lastReplenishmentReason⟩]
  rw [applyVitalitySignals]
  cases signals.foldlM (Tally.add policy)
      ⟨current.score, current.lastDecayReason, current.lastReplenishmentReason⟩ with
  | error message => simp [bind, Except.bind]
  | ok tally => exact iff_of_true ⟨_, rfl⟩ ⟨tally, rfl⟩

theorem apply_score {signals : List VitalitySignal} {transition : VitalityTransition}
    (applied : applyVitalitySignals policy current signals = .ok transition) :
    ∃ decay replenishment, transition.current =
      fromScore policy (current.score + (signals.map (worth policy)).sum) decay
        replenishment := by
  rw [applyVitalitySignals] at applied
  cases added : signals.foldlM (Tally.add policy)
      ⟨current.score, current.lastDecayReason, current.lastReplenishmentReason⟩ with
  | error message =>
      rw [added] at applied
      cases applied
  | ok tally =>
      rw [added] at applied
      cases applied
      exact ⟨_, _, by rw [tally_score added]⟩

theorem credit_nonneg (fair : Fair policy) (signal : VitalitySignal) :
    0 ≤ credit policy signal := by
  unfold credit
  split
  · have magnitude := signal.positive
    refine Int.mul_nonneg ?_ (by omega)
    cases found : policy.replenishmentWeights.lookup signal.reason with
    | none => exact le_refl 0
    | some weight =>
        obtain ⟨front, behind, split, _⟩ := List.lookup_eq_some_iff.mp found
        exact fair.replenishment (signal.reason, weight) (by rw [split]; simp)
  · exact le_refl 0

theorem delta_le_credit (fair : Fair policy) {signal : VitalitySignal} {delta : Int}
    (allowed : policy.deltaFor signal = .ok delta) : delta ≤ credit policy signal := by
  rw [VitalityPolicy.deltaFor] at allowed
  cases way : signal.direction with
  | decay =>
      rw [way] at allowed
      cases found : policy.decayWeights.lookup signal.reason with
      | none =>
          rw [found] at allowed
          cases allowed
      | some weight =>
          rw [found] at allowed
          cases allowed
          obtain ⟨front, behind, split, _⟩ := List.lookup_eq_some_iff.mp found
          have weighs : 0 ≤ weight := fair.decay (signal.reason, weight) (by rw [split]; simp)
          have magnitude := signal.positive
          have falls : 0 ≤ weight * signal.magnitude := Int.mul_nonneg weighs (by omega)
          have none : credit policy signal = 0 := by simp [credit, way]
          omega
  | replenish =>
      rw [way] at allowed
      dsimp only at allowed
      split at allowed
      · cases allowed
      · next evidence =>
        cases found : policy.replenishmentWeights.lookup signal.reason with
        | none =>
            rw [found] at allowed
            cases allowed
        | some weight =>
            rw [found] at allowed
            cases allowed
            have verified : signal.verified = true := by simpa using evidence
            simp [credit, way, verified, found]

/-- Nothing but a verified replenishment adds to the score. -/
theorem worth_le_credit (fair : Fair policy) (signal : VitalitySignal) :
    worth policy signal ≤ credit policy signal := by
  cases delta : policy.deltaFor signal with
  | error message =>
      rw [worth, delta]
      exact credit_nonneg fair signal
  | ok number =>
      rw [worth_of_delta delta]
      exact delta_le_credit fair delta

theorem worths_le_credits (fair : Fair policy) (signals : List VitalitySignal) :
    (signals.map (worth policy)).sum ≤ (signals.map (credit policy)).sum :=
  List.sum_le_sum fun signal _ => worth_le_credit fair signal

theorem credits_nonneg (fair : Fair policy) (signals : List VitalitySignal) :
    0 ≤ (signals.map (credit policy)).sum := by
  apply List.sum_nonneg
  intro credited member
  obtain ⟨signal, _, rfl⟩ := List.mem_map.mp member
  exact credit_nonneg fair signal

theorem take_earned (fair : Fair policy) (sound : Sound policy current)
    (signals : List VitalitySignal) :
    Sound policy (take policy current signals) ∧
      (take policy current signals).score ≤
        current.score + (signals.map (credit policy)).sum := by
  have gained := credits_nonneg fair signals
  rw [take]
  cases applied : applyVitalitySignals policy current signals with
  | error message => exact ⟨sound, by dsimp only; omega⟩
  | ok transition =>
      obtain ⟨decay, replenishment, shown⟩ := apply_score applied
      dsimp only
      rw [shown]
      refine ⟨fromScore_sound fair _ _ _, ?_⟩
      have bound := worths_le_credits fair signals
      have floor := sound.above
      refine max_le (by omega) (le_trans (min_le_right _ _) (by omega))

/-- Over any calls, of which some may raise, the score stays within its bounds with the state
and the urgency that belong to it, and it rises by no more than the verified replenishments
add up to. -/
theorem vitality_earned (policy : VitalityPolicy) (fair : Fair policy) (score : Int)
    (decay replenishment : Option String) (calls : List (List VitalitySignal)) :
    let start := fromScore policy score decay replenishment
    Sound policy (calls.foldl (take policy) start) ∧
      (calls.foldl (take policy) start).score ≤
        start.score + (calls.flatten.map (credit policy)).sum := by
  intro start
  have sound : Sound policy start := fromScore_sound fair score decay replenishment
  clear_value start
  induction calls generalizing start with
  | nil => exact ⟨sound, by simp⟩
  | cons signals rest ih =>
      obtain ⟨kept, earned⟩ := take_earned fair sound signals
      obtain ⟨later, total⟩ := ih (take policy start signals) kept
      refine ⟨later, ?_⟩
      rw [List.flatten_cons, List.map_append, List.sum_append]
      rw [List.foldl_cons]
      omega

theorem standard_fair : Fair .standard where
  bounds := by decide
  decay := by decide
  replenishment := by decide

/-- A decay, a replenishment that nothing verifies, which raises, and one that is verified. -/
def threeCalls : List (List VitalitySignal) :=
  [[⟨"stale_memory", .decay, true, 2, by decide⟩],
    [⟨"release_gate_passed", .replenish, false, 5, by decide⟩],
    [⟨"tests_passed", .replenish, true, 1, by decide⟩]]

theorem threeCalls_earned :
    let start := fromScore .standard 70 none none
    let final := threeCalls.foldl (take .standard) start
    Sound .standard final ∧ final.score = 68 ∧
      final.score ≤ start.score + (threeCalls.flatten.map (credit .standard)).sum := by
  obtain ⟨sound, earned⟩ := vitality_earned .standard standard_fair 70 none none threeCalls
  exact ⟨sound, by decide, earned⟩

/-- The order in which a call takes its signals matters neither to whether it raises nor to the
score, the state and the urgency it leaves. -/
theorem take_perm {signals others : List VitalitySignal} (perm : signals.Perm others) :
    (take policy current signals).score = (take policy current others).score ∧
      (take policy current signals).state = (take policy current others).state ∧
      (take policy current signals).urgencyModifier =
        (take policy current others).urgencyModifier := by
  have either := apply_ok_iff policy current signals
  have other := apply_ok_iff policy current others
  have same : (∀ signal ∈ signals, Admitted policy signal) ↔
      ∀ signal ∈ others, Admitted policy signal :=
    forall_congr' fun signal => imp_congr_left perm.mem_iff
  rw [take, take]
  cases first : applyVitalitySignals policy current signals with
  | error message =>
      cases second : applyVitalitySignals policy current others with
      | error _ => exact ⟨rfl, rfl, rfl⟩
      | ok transition =>
          obtain ⟨_, fine⟩ := either.mpr (same.mpr (other.mp ⟨transition, second⟩))
          rw [first] at fine
          cases fine
  | ok transition =>
      cases second : applyVitalitySignals policy current others with
      | error message =>
          obtain ⟨_, fine⟩ := other.mpr (same.mp (either.mp ⟨transition, first⟩))
          rw [second] at fine
          cases fine
      | ok moved =>
          obtain ⟨_, _, left⟩ := apply_score first
          obtain ⟨_, _, right⟩ := apply_score second
          dsimp only
          rw [left, right, (perm.map (worth policy)).sum_eq]
          exact ⟨rfl, rfl, rfl⟩

end Calls

end NeuroLink.Vitality
