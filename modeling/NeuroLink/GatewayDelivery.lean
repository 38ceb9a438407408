import NeuroLink.GatewayResume
import NeuroLink.StepRun

/-!
Whether every dispatch of a gateway session is passed on. The client keeps to a session, or can
come back to it, as long as the file holds the session and lets a resume be tried; what it owes
is lost only where it parts with a session that still owes something.
-/

namespace NeuroLink.GatewayDelivery

open PyValue QqOfficial GatewayClient GatewayResume StepRun

def With (world : World) (id : String) : Prop :=
  match world.phase with
  | .stopped => world.loaded.shouldResume = true ∧ world.file.position.sessionId = id
  | .waiting memory => memory.shouldResume = true ∧ memory.position.sessionId = id
  | .linked _ _ link _ => link.session = id

/-- The state of the client and its file agree on whether a session may be resumed. -/
def Eligible (world : World) : Phase → Prop
  | .stopped => True
  | .waiting memory => memory.shouldResume = true → world.file.canResume = true
  | .linked memory _ link _ =>
      (memory.position.sessionId = link.session →
        memory.canResume = true ∧ world.file.canResume = true) ∧
      (memory.position.sessionId ≠ link.session →
        memory.canResume = false ∨ memory.position.sessionId = "")

section Owing

variable (python : Conversions)

def Outstanding (world : World) (id : String) : Prop :=
  ∃ index body, (world.sessions id)[index]? = some body ∧ Owed python (index + 1) body ∧
    (id, index + 1) ∉ world.ingested

/-- The numbers are right, and only the session that the client is with owes anything. -/
structure Kept (world : World) : Prop where
  numbers : Invariant python world
  whole : world.torn = false
  eligible : Eligible world world.phase
  owing : ∀ id, Outstanding python world id → With world id

variable (maxResumeAttempts : Nat)

/-- The session that the client parts with: it gives a resume up, is told that the session is
invalid, or leaves the connection before it has joined the session. -/
def partsWith (world : World) (input : Input) : Option String :=
  match input, world.phase with
  | .connectFails, .waiting memory =>
      if memory.shouldResume ∧ maxResumeAttempts ≤ memory.resumeAttemptCount + 1 then
        some memory.position.sessionId
      else none
  | .lose, .linked memory resuming link .idle =>
      if memory.position.sessionId ≠ link.session ∨
          (resuming ∧ maxResumeAttempts ≤ memory.resumeAttemptCount) then some link.session
      else none
  | .finish, .linked memory _ link .idle =>
      if memory.position.sessionId ≠ link.session then some link.session else none
  | .crash, .linked memory _ link _ =>
      if memory.position.sessionId ≠ link.session then some link.session else none
  | .act, .linked memory resuming link (.received message) =>
      match handle python memory message.payload with
      | .leave left =>
          if left.position.sessionId ≠ link.session ∨
              (resuming ∧ maxResumeAttempts ≤ left.resumeAttemptCount) then some link.session
          else none
      | .raise => if memory.position.sessionId ≠ link.session then some link.session else none
      | _ => none
  | _, _ => none

/-- The gateway has a dispatch for a session that the client is no longer with. -/
def SentTooLate (world : World) (input : Input) : Prop :=
  match input with
  | .send id body => world.sessions id ≠ [] ∧
      Owed python ((world.sessions id).length + 1) body ∧ ¬ With world id
  | _ => False

/-- The process does not end with a dispatch in hand or in a write, the number is not taken away,
and the client does not part with a session that owes something. -/
structure Careful (world : World) (input : Input) : Prop where
  punctual : Punctual python maxResumeAttempts world input
  parts : ∀ id ∈ partsWith python maxResumeAttempts world input, ¬ Outstanding python world id
  timely : ¬ SentTooLate python world input

end Owing

section Steps

variable {python : Conversions} {maxResumeAttempts : Nat} {world next : World}

theorem shouldResume_iff {memory : Memory} : memory.shouldResume = true ↔
    memory.canResume = true ∧ memory.position.sessionId ≠ "" ∧
      memory.position.sequence ≠ .none := by
  unfold Memory.shouldResume
  cases memory.position.sequence <;> simp

theorem shouldResume_covered {memory : Memory} (covered : Covered python world memory.position)
    (named : memory.position.sessionId ≠ "") (can : memory.canResume = true) :
    memory.shouldResume = true := by
  refine shouldResume_iff.mpr ⟨can, named, ?_⟩
  rcases covered with none | ⟨number, sequence, _⟩
  · exact absurd none named
  · rw [sequence]
    nofun

theorem works_holds {position : Position} {link : Link} {work : Work}
    (works : Works python world position link work) :
    ∃ sent, Holds python world.sessions link sent ∧
      (position.sessionId = link.session → position.sequence = .int sent) ∧
      (position.sessionId ≠ link.session → sent ≤ 1) := by
  have idle : (∃ sent, Holds python world.sessions link sent ∧ Received position link sent) →
      ∃ sent, Holds python world.sessions link sent ∧
        (position.sessionId = link.session → position.sequence = .int sent) ∧
        (position.sessionId ≠ link.session → sent ≤ 1) := by
    rintro ⟨sent, holds, received⟩
    refine ⟨sent, holds, received.1, fun outside => ?_⟩
    rw [received.2 outside]
    exact Nat.zero_le 1
  have busy : ∀ {number body}, At python world.sessions position link number body →
      ∃ sent, Holds python world.sessions link sent ∧
        (position.sessionId = link.session → position.sequence = .int sent) ∧
        (position.sessionId ≠ link.session → sent ≤ 1) := by
    rintro number body ⟨holds, sequence, index, rfl, _, first⟩
    refine ⟨index + 1, holds, fun _ => sequence, fun outside => ?_⟩
    rw [first outside]
  cases work with
  | idle => exact idle works
  | received message =>
      cases message with
      | dispatch number body => exact busy works
      | control payload => exact idle works.2
  | calling message =>
      cases message with
      | dispatch number body => exact busy works.1
      | control payload => exact works.elim
  | returned message =>
      cases message with
      | dispatch number body => exact busy works.1
      | control payload => exact works.elim

theorem Kept.linked {memory : Memory} {resuming : Bool} {link : Link} {work : Work}
    (kept : Kept python world) (phase : world.phase = .linked memory resuming link work) :
    memory.position = world.file.position ∧ link.session ≠ "" ∧
      Works python world world.file.position link work ∧
      Eligible world (.linked memory resuming link work) := by
  have stands := kept.numbers.stands
  have eligible := kept.eligible
  rw [phase] at stands eligible
  obtain ⟨sent, holds, _⟩ := works_holds stands.2
  exact ⟨stands.1, (kept.numbers.sessions _ holds.known).1, stands.2, eligible⟩

theorem Outstanding.mono {id : String} (owes : Outstanding python next id)
    (sessions : next.sessions = world.sessions)
    (ingested : ∀ entry ∈ world.ingested, entry ∈ next.ingested) :
    Outstanding python world id := by
  obtain ⟨index, body, found, owed, missing⟩ := owes
  exact ⟨index, body, sessions ▸ found, owed, fun done => missing (ingested _ done)⟩

/-- A step that tells the gateway nothing new keeps what the client is with. -/
theorem Kept.stays (kept : Kept python world) (numbers : Invariant python next)
    (whole : next.torn = world.torn) (sessions : next.sessions = world.sessions)
    (ingested : ∀ entry ∈ world.ingested, entry ∈ next.ingested)
    (eligible : Eligible next next.phase)
    (comes : ∀ id, Outstanding python world id → With world id → With next id) :
    Kept python next where
  numbers := numbers
  whole := whole.trans kept.whole
  eligible := eligible
  owing id owes :=
    have before := owes.mono sessions ingested
    comes id before (kept.owing id before)

theorem Kept.rejoins {memory : Memory} {resuming : Bool} {link : Link} {work : Work}
    (kept : Kept python world) (phase : world.phase = .linked memory resuming link work)
    (joined : memory.position.sessionId = link.session) :
    memory.shouldResume = true ∧ world.loaded.shouldResume = true := by
  obtain ⟨same, named, _, eligible⟩ := kept.linked phase
  obtain ⟨can, saved⟩ := eligible.1 joined
  have covered := kept.numbers.covered
  have inside : memory.position.sessionId ≠ "" := joined ▸ named
  refine ⟨shouldResume_covered (same ▸ covered) inside can, ?_⟩
  rw [same] at inside
  exact shouldResume_covered covered inside saved

theorem Kept.stops {memory : Memory} {resuming : Bool} {link : Link} {work : Work}
    (kept : Kept python world) (phase : world.phase = .linked memory resuming link work)
    (numbers : Invariant python { world with phase := .stopped })
    (parts : memory.position.sessionId ≠ link.session → ¬ Outstanding python world link.session) :
    Kept python { world with phase := .stopped } := by
  refine kept.stays numbers rfl rfl (fun _ done => done) trivial fun id owes there => ?_
  rw [With, phase] at there
  obtain rfl : link.session = id := there
  have joined : memory.position.sessionId = link.session := by
    by_contra outside
    exact parts outside owes
  have same := (kept.linked phase).1
  exact ⟨(kept.rejoins phase joined).2, same ▸ joined⟩

theorem Kept.stops_waiting {memory : Memory} (kept : Kept python world)
    (phase : world.phase = .waiting memory)
    (numbers : Invariant python { world with phase := .stopped }) :
    Kept python { world with phase := .stopped } := by
  refine kept.stays numbers rfl rfl (fun _ done => done) trivial fun id _ there => ?_
  have stands := kept.numbers.stands
  have eligible := kept.eligible
  rw [phase] at stands eligible
  rw [With, phase] at there
  obtain ⟨resume, same⟩ := there
  have position : memory.position = world.file.position := stands
  obtain ⟨_, named, numbered⟩ := shouldResume_iff.mp resume
  rw [position] at same named numbered
  exact ⟨shouldResume_iff.mpr ⟨eligible resume, named, numbered⟩, same⟩

theorem kept_start (kept : Kept python world)
    (numbers : Invariant python (world.step python maxResumeAttempts .start)) :
    Kept python (world.step python maxResumeAttempts .start) := by
  cases phase : world.phase with
  | stopped =>
      have starts : world.step python maxResumeAttempts .start =
          { world with phase := .waiting world.loaded } := by
        simp only [World.step, phase, kept.whole, Bool.false_eq_true, if_false]
      rw [starts] at numbers ⊢
      refine kept.stays numbers rfl rfl (fun _ done => done) ?_ fun id _ there => ?_
      · exact fun resume => (shouldResume_iff.mp resume).1
      · rw [With, phase] at there
        exact there
  | _ =>
      simp only [World.step, phase]
      exact kept

theorem kept_connectFails (kept : Kept python world)
    (numbers : Invariant python (world.step python maxResumeAttempts .connectFails))
    (parts : ∀ id ∈ partsWith python maxResumeAttempts world .connectFails,
      ¬ Outstanding python world id) :
    Kept python (world.step python maxResumeAttempts .connectFails) := by
  cases phase : world.phase with
  | waiting memory =>
      by_cases resume : memory.shouldResume = true
      · by_cases given : maxResumeAttempts ≤ memory.resumeAttemptCount + 1
        · have gives : world.step python maxResumeAttempts .connectFails =
              { world with
                file := persisted { memory with
                  resumeAttemptCount := memory.resumeAttemptCount + 1 } false
                phase := .stopped } := by
            simp only [World.step, phase, resume, if_true, World.afterLink, given, and_self]
          rw [gives] at numbers ⊢
          refine kept.stays numbers rfl rfl (fun _ done => done) trivial fun id owes there => ?_
          rw [With, phase] at there
          refine absurd owes (parts id ?_)
          simp only [partsWith, phase, resume, given, and_self, if_true]
          exact congrArg some there.2
        · have waits : world.step python maxResumeAttempts .connectFails =
              { world with phase := .waiting { memory with
                resumeAttemptCount := memory.resumeAttemptCount + 1 } } := by
            simp only [World.step, phase, resume, if_true, World.afterLink, given, and_false,
              if_false]
          rw [waits] at numbers ⊢
          have eligible := kept.eligible
          rw [phase] at eligible
          refine kept.stays numbers rfl rfl (fun _ done => done) eligible fun id _ there => ?_
          rw [With, phase] at there
          exact there
      · simp only [World.step, phase, resume, Bool.false_eq_true, if_false]
        exact kept
  | _ =>
      simp only [World.step, phase]
      exact kept

theorem with_deliver {id session : String} {message : Message} {sessions : String → List Dict} :
    With { world with sessions := sessions, phase := world.phase.deliver session message } id ↔
      With world id := by
  unfold With
  cases phase : world.phase with
  | linked memory resuming link work =>
      dsimp only
      rw [deliver_linked]
      dsimp only
      rw [sentTo_session]
  | _ => exact Iff.rfl

theorem eligible_deliver {session : String} {message : Message} {sessions : String → List Dict}
    (eligible : Eligible world world.phase) :
    Eligible { world with sessions := sessions, phase := world.phase.deliver session message }
      (world.phase.deliver session message) := by
  cases phase : world.phase with
  | linked memory resuming link work =>
      rw [phase] at eligible
      rw [deliver_linked, Eligible, sentTo_session]
      exact eligible
  | _ =>
      rw [phase] at eligible
      exact eligible

theorem kept_send {id : String} {body : Dict} (kept : Kept python world)
    (numbers : Invariant python (world.step python maxResumeAttempts (.send id body)))
    (timely : ¬ SentTooLate python world (.send id body)) :
    Kept python (world.step python maxResumeAttempts (.send id body)) := by
  unfold World.step at numbers ⊢
  dsimp only at numbers ⊢
  split at numbers
  · next none =>
    rw [if_pos none]
    exact kept
  · next sends =>
    rw [if_neg sends]
    refine ⟨numbers, kept.whole, eligible_deliver kept.eligible, fun other owes => ?_⟩
    rw [with_deliver]
    obtain ⟨index, found, there, owed, missing⟩ := owes
    by_cases same : other = id
    · subst same
      dsimp only at there
      rw [Function.update_self] at there
      by_cases earlier : index < (world.sessions other).length
      · rw [List.getElem?_append_left earlier] at there
        exact kept.owing other ⟨index, found, there, owed, missing⟩
      · obtain ⟨below, last⟩ := List.getElem?_eq_some_iff.mp there
        obtain rfl : index = (world.sessions other).length := by
          rw [List.length_append, List.length_singleton] at below
          omega
        rw [List.getElem_concat_length rfl] at last
        subst last
        by_contra away
        exact timely ⟨fun none => sends (.inl none), owed, away⟩
    · dsimp only at there
      rw [Function.update_of_ne same] at there
      exact kept.owing other ⟨index, found, there, owed, missing⟩

theorem kept_control {payload : Dict} (kept : Kept python world)
    (numbers : Invariant python (world.step python maxResumeAttempts (.control payload))) :
    Kept python (world.step python maxResumeAttempts (.control payload)) := by
  cases phase : world.phase with
  | linked memory resuming link work =>
      unfold World.step at numbers ⊢
      dsimp only at numbers ⊢
      rw [phase] at numbers ⊢
      dsimp only at numbers ⊢
      split at numbers
      · next control =>
        rw [if_pos control]
        rw [← phase] at numbers ⊢
        refine kept.stays numbers rfl rfl (fun _ done => done) (eligible_deliver kept.eligible) ?_
        exact fun id _ there => with_deliver.mpr there
      · next other =>
        rw [if_neg other]
        exact kept
  | _ =>
      simp only [World.step, phase]
      exact kept

theorem kept_connect {id : String} {others : Dict} (kept : Kept python world)
    (numbers : Invariant python (world.step python maxResumeAttempts (.connect id others))) :
    Kept python (world.step python maxResumeAttempts (.connect id others)) := by
  cases phase : world.phase with
  | waiting memory =>
      have stands := kept.numbers.stands
      have eligible := kept.eligible
      rw [phase] at stands eligible
      have same : memory.position = world.file.position := stands
      unfold World.step at numbers ⊢
      dsimp only at numbers ⊢
      rw [phase] at numbers ⊢
      dsimp only [World.connect] at numbers ⊢
      by_cases resume : memory.shouldResume = true
      · rw [if_pos resume] at numbers ⊢
        refine kept.stays numbers rfl rfl (fun _ done => done) ⟨fun _ => ?_, fun other => ?_⟩ ?_
        · exact ⟨(shouldResume_iff.mp resume).1, eligible resume⟩
        · exact absurd rfl other
        · intro other _ there
          rw [With, phase] at there
          exact there.2
      · rw [if_neg resume] at numbers ⊢
        -- nothing is owed where nothing is to be resumed
        have settled : ∀ other, ¬ Outstanding python world other := by
          intro other owes
          have there := kept.owing other owes
          rw [With, phase] at there
          exact resume there.1
        split at numbers
        · next taken =>
          rw [if_pos taken]
          exact kept
        · next fresh =>
          rw [if_neg fresh]
          obtain ⟨named, unused⟩ := not_or.mp fresh
          refine ⟨numbers, kept.whole, ⟨fun joined => ?_, fun _ => ?_⟩, fun other owes => ?_⟩
          · have here : world.file.position.sessionId = id := same ▸ joined
            rcases kept.numbers.covered with none | ⟨_, _, known, _⟩
            · exact absurd (here.symm.trans none) named
            · exact absurd (not_not.mp unused) (here ▸ known)
          · by_contra able
            obtain ⟨can, inside⟩ := not_or.mp able
            have covered : Covered python world memory.position := same ▸ kept.numbers.covered
            exact resume (shouldResume_covered covered inside (by simpa using can))
          · obtain ⟨index, found, there, owed, missing⟩ := owes
            dsimp only at there
            by_cases twin : other = id
            · exact twin.symm
            · rw [Function.update_of_ne twin] at there
              exact absurd ⟨index, found, there, owed, missing⟩ (settled other)
  | _ =>
      simp only [World.step, phase]
      exact kept

theorem kept_receive (kept : Kept python world)
    (numbers : Invariant python (world.step python maxResumeAttempts .receive)) :
    Kept python (world.step python maxResumeAttempts .receive) := by
  unfold World.step at numbers ⊢
  dsimp only at numbers ⊢
  split at numbers
  · next memory resuming session message rest phase =>
    obtain ⟨_, named, _, eligible⟩ := kept.linked phase
    have position : (memory.numbered message.payload).position.sessionId =
        memory.position.sessionId := by
      unfold Memory.numbered
      split <;> rfl
    have can : (memory.numbered message.payload).canResume = memory.canResume := by
      unfold Memory.numbered
      split <;> rfl
    refine kept.stays numbers rfl rfl (fun _ done => done) ⟨fun joined => ?_, fun outside => ?_⟩ ?_
    · rw [position] at joined
      obtain ⟨able, saved⟩ := eligible.1 joined
      refine ⟨can.trans able, ?_⟩
      dsimp only
      split
      · have known : (memory.numbered message.payload).position.sessionId ≠ "" := by
          rw [position, joined]
          exact named
        simpa [persisted] using known
      · exact saved
    · rw [position] at outside ⊢
      rw [can]
      exact eligible.2 outside
    · intro id _ there
      rw [With, phase] at there
      exact there
  · exact kept

theorem kept_callback {returns : Bool} (kept : Kept python world)
    (numbers : Invariant python (world.step python maxResumeAttempts (.callback returns))) :
    Kept python (world.step python maxResumeAttempts (.callback returns)) := by
  unfold World.step at numbers ⊢
  dsimp only at numbers ⊢
  split at numbers
  · next memory resuming link number body phase =>
    obtain ⟨same, _, works, eligible⟩ := kept.linked phase
    cases returns with
    | true =>
        refine kept.stays numbers rfl rfl (fun _ done => List.mem_cons_of_mem _ done) eligible ?_
        intro id _ there
        rw [With, phase] at there
        exact there
    | false =>
        have joined : memory.position.sessionId = link.session := same ▸ works.2
        exact kept.stops phase numbers fun outside => absurd joined outside
  · exact kept

theorem kept_record (kept : Kept python world)
    (numbers : Invariant python (world.step python maxResumeAttempts .record)) :
    Kept python (world.step python maxResumeAttempts .record) := by
  unfold World.step at numbers ⊢
  dsimp only at numbers ⊢
  split at numbers
  · next memory resuming link message phase =>
    obtain ⟨_, named, _, eligible⟩ := kept.linked phase
    refine kept.stays numbers rfl rfl (fun _ done => done) ⟨fun joined => ?_, eligible.2⟩ ?_
    · refine ⟨(eligible.1 joined).1, ?_⟩
      have known : memory.position.sessionId ≠ "" := joined ▸ named
      simpa [persisted] using known
    · intro id _ there
      rw [With, phase] at there
      exact there
  · exact kept

theorem kept_finish (kept : Kept python world)
    (numbers : Invariant python (world.step python maxResumeAttempts .finish))
    (parts : ∀ id ∈ partsWith python maxResumeAttempts world .finish,
      ¬ Outstanding python world id) :
    Kept python (world.step python maxResumeAttempts .finish) := by
  unfold World.step at numbers ⊢
  dsimp only at numbers ⊢
  split at numbers
  · next memory phase => exact kept.stops_waiting phase numbers
  · next memory resuming link phase =>
    refine kept.stops phase numbers fun outside => parts _ ?_
    simp only [partsWith, phase, ne_eq, outside, not_false_eq_true, if_true, Option.mem_some]
  · exact kept

theorem kept_crash (kept : Kept python world)
    (numbers : Invariant python (world.step python maxResumeAttempts .crash))
    (parts : ∀ id ∈ partsWith python maxResumeAttempts world .crash,
      ¬ Outstanding python world id) :
    Kept python (world.step python maxResumeAttempts .crash) := by
  cases phase : world.phase with
  | stopped =>
      refine kept.stays numbers rfl rfl (fun _ done => done) trivial fun id _ there => ?_
      rw [With, phase] at there
      exact there
  | waiting memory => exact kept.stops_waiting phase numbers
  | linked memory resuming link work =>
      refine kept.stops phase numbers fun outside => parts _ ?_
      simp only [partsWith, phase, ne_eq, outside, not_false_eq_true, if_true, Option.mem_some]

/-- The connection is over, and the client tries again or gives the session up. -/
theorem Kept.afterLink {memory left : Memory} {resuming : Bool} {link : Link} {work : Work}
    {file : SessionFile} (kept : Kept python world)
    (phase : world.phase = .linked memory resuming link work)
    (numbers : Invariant python
      ({ world with file := file }.afterLink maxResumeAttempts left resuming))
    (saved : left.shouldResume = true → file.canResume = true)
    (resumes : left.position.sessionId = link.session → left.shouldResume = true)
    (parts : left.position.sessionId ≠ link.session ∨
      (resuming ∧ maxResumeAttempts ≤ left.resumeAttemptCount) →
        ¬ Outstanding python world link.session) :
    Kept python ({ world with file := file }.afterLink maxResumeAttempts left resuming) := by
  have onlyLinked : ∀ id, With world id → link.session = id := by
    intro id there
    rw [With, phase] at there
    exact there
  unfold World.afterLink at numbers ⊢
  split at numbers
  · next given =>
    rw [if_pos given]
    refine kept.stays numbers rfl rfl (fun _ done => done) trivial fun id owes there => ?_
    obtain rfl := onlyLinked id there
    exact absurd owes (parts (.inr given))
  · next again =>
    rw [if_neg again]
    refine kept.stays numbers rfl rfl (fun _ done => done) saved fun id owes there => ?_
    obtain rfl := onlyLinked id there
    have joined : left.position.sessionId = link.session := by
      by_contra outside
      exact parts (.inl outside) owes
    exact ⟨resumes joined, joined⟩

theorem kept_lose (kept : Kept python world)
    (numbers : Invariant python (world.step python maxResumeAttempts .lose))
    (parts : ∀ id ∈ partsWith python maxResumeAttempts world .lose,
      ¬ Outstanding python world id) :
    Kept python (world.step python maxResumeAttempts .lose) := by
  unfold World.step at numbers ⊢
  dsimp only at numbers ⊢
  split at numbers
  · next memory resuming link phase =>
    obtain ⟨_, _, _, eligible⟩ := kept.linked phase
    refine kept.afterLink phase numbers (fun resume => ?_) (fun joined => ?_) fun leaves => ?_
    · obtain ⟨can, inside, _⟩ := shouldResume_iff.mp resume
      by_cases joined : memory.position.sessionId = link.session
      · exact (eligible.1 joined).2
      · rcases eligible.2 joined with unable | none
        · rw [unable] at can
          cases can
        · exact absurd none inside
    · exact (kept.rejoins phase joined).1
    · exact parts _ (by simp only [partsWith, phase, if_pos leaves, Option.mem_some])
  · exact kept

theorem handle_leaves {memory left : Memory} {payload : Dict}
    (leaves : handle python memory payload = .leave left) :
    (left.position = memory.position ∧ left.canResume = true) ∨ left.position.sessionId = "" := by
  unfold handle at leaves
  split at leaves
  · cases leaves
  split at leaves
  · cases leaves
    exact .inl ⟨rfl, rfl⟩
  split at leaves
  · cases leaves
    exact .inr rfl
  split at leaves
  · cases leaves
  split at leaves
  · cases leaves
  split at leaves
  · cases leaves
  split at leaves
  all_goals cases leaves

theorem keep_joins {memory left : Memory} {link : Link} {message : Message}
    (sessions : Sessions python world.sessions) (same : memory.position = world.file.position)
    (works : Works python world world.file.position link (.received message))
    (keeps : handle python memory message.payload = .keep left) :
    left.position.sessionId = link.session ∧ left.canResume = true := by
  cases message with
  | control payload =>
      rcases handle_control memory works.1 with ignored | raised | ⟨other, leaves, _⟩
      · cases ignored.symm.trans keeps
      · cases raised.symm.trans keeps
      · cases leaves.symm.trans keeps
  | dispatch number body =>
      obtain ⟨held, _, index, rfl, found, first⟩ := works
      obtain ⟨named, others, later, log, unready⟩ := sessions _ held.known
      rw [log] at found
      cases index with
      | zero =>
          obtain rfl := Option.some.inj found
          cases (handle_ready memory _ named others).symm.trans keeps
          exact ⟨rfl, rfl⟩
      | succ index =>
          have joined : memory.position.sessionId = link.session := by
            rw [same]
            by_contra outside
            cases first outside
          have other := unready body (List.mem_of_getElem? found)
          rcases @handle_later python memory (index + 1 + 1) body other with
            ⟨_, ignored | kept⟩ | ⟨_, _, passes⟩ | raised
          · cases ignored.symm.trans keeps
          · cases kept.symm.trans keeps
            exact ⟨joined, rfl⟩
          · cases passes.symm.trans keeps
          · cases raised.symm.trans keeps

theorem kept_act (kept : Kept python world)
    (numbers : Invariant python (world.step python maxResumeAttempts .act))
    (parts : ∀ id ∈ partsWith python maxResumeAttempts world .act,
      ¬ Outstanding python world id) :
    Kept python (world.step python maxResumeAttempts .act) := by
  cases phase : world.phase with
  | linked memory resuming link work =>
      cases work with
      | received message =>
          obtain ⟨same, named, works, eligible⟩ := kept.linked phase
          have acts : world.step python maxResumeAttempts .act =
              world.act python maxResumeAttempts memory resuming link message := by
            simp only [World.step, phase]
          rw [acts] at numbers ⊢
          unfold World.act at numbers ⊢
          -- on the same connection the client is with the session it was with
          have stays : ∀ {next : World} {memory : Memory} {work : Work},
              next.phase = .linked memory resuming link work →
              ∀ id, Outstanding python world id → With world id → With next id := by
            intro next memory work here id _ there
            rw [With, phase] at there
            rw [With, here]
            exact there
          cases handled : handle python memory message.payload with
          | ignore =>
              rw [handled] at numbers
              exact kept.stays numbers rfl rfl (fun _ done => done) eligible (stays rfl)
          | keep left =>
              rw [handled] at numbers
              obtain ⟨joined, can⟩ := keep_joins kept.numbers.sessions same works handled
              refine kept.stays numbers rfl rfl (fun _ done => done) ?_ (stays rfl)
              exact ⟨fun _ => ⟨can, can⟩, fun outside => absurd joined outside⟩
          | leave left =>
              -- the connection is left: the session is resumed, or the client parts with it
              rw [handled] at numbers
              refine kept.afterLink phase numbers (fun resume => ?_) (fun joined => ?_)
                fun leaves => ?_
              · exact (shouldResume_iff.mp resume).1
              · have inside : left.position.sessionId ≠ "" := joined ▸ named
                obtain ⟨position, can⟩ := (handle_leaves handled).resolve_right inside
                have covered : Covered python world left.position :=
                  (position.trans same) ▸ kept.numbers.covered
                exact shouldResume_covered covered inside can
              · refine parts _ ?_
                simp only [partsWith, phase, handled, if_pos leaves, Option.mem_some]
          | ingest envelope eventType =>
              rw [handled] at numbers
              exact kept.stays numbers rfl rfl (fun _ done => done) eligible (stays rfl)
          | raise =>
              rw [handled] at numbers
              refine kept.stops phase numbers fun outside => parts _ ?_
              simp only [partsWith, phase, handled, ne_eq, outside, not_false_eq_true, if_true,
                Option.mem_some]
      | _ =>
          simp only [World.step, phase]
          exact kept
  | _ =>
      simp only [World.step, phase]
      exact kept

/-- One careful step keeps what the client owes within its reach. -/
theorem kept_step (world : World) (input : Input) (kept : Kept python world)
    (careful : Careful python maxResumeAttempts world input) :
    Kept python (world.step python maxResumeAttempts input) := by
  have numbers := invariant_step world input kept.numbers careful.punctual
  cases input with
  | start => exact kept_start kept numbers
  | connect id others => exact kept_connect kept numbers
  | connectFails => exact kept_connectFails kept numbers careful.parts
  | send id body => exact kept_send kept numbers careful.timely
  | control payload => exact kept_control kept numbers
  | receive => exact kept_receive kept numbers
  | act => exact kept_act kept numbers careful.parts
  | callback returns => exact kept_callback kept numbers
  | record => exact kept_record kept numbers
  | lose => exact kept_lose kept numbers careful.parts
  | finish => exact kept_finish kept numbers careful.parts
  | crash => exact kept_crash kept numbers careful.parts
  | crashWriting =>
      have idle : world.writesNext python maxResumeAttempts = false := careful.punctual
      rw [World.step, idle, if_neg (by decide)]
      exact kept

theorem kept_fresh : Kept python World.fresh where
  numbers := invariant_fresh
  whole := rfl
  eligible := trivial
  owing _ owes := by
    obtain ⟨_, _, found, _⟩ := owes
    cases found

end Steps

section Safety

variable (python : Conversions)

/-- The dispatch is still to come: it waits on the connection of its session, or the resume of
the session brings it. -/
def Comes (world : World) (id : String) (message : Message) : Prop :=
  With world id ∧
    match world.phase with
    | .stopped => world.torn = false ∧
        message ∈ redelivered (world.sessions id) world.file.position.sequence
    | .waiting memory => message ∈ redelivered (world.sessions id) memory.position.sequence
    | .linked _ _ link _ => message ∈ link.queue

/-- No dispatch is lost: the file of a session has a number, which covers nothing that was not
passed on or is in hand, and every dispatch of every session was passed on, is in hand or is
still to come. So a client that has received all there is has passed all on. -/
structure Safe (world : World) : Prop where
  numbered : world.file.position.sessionId ≠ "" →
    ∃ number : Nat, world.file.position.sequence = .int number
  passed : world.file.position.sessionId ≠ "" → ∀ number : Nat,
    world.file.position.sequence = .int number →
      Passed python world world.file.position.sessionId number
  delivered : ∀ id (index : Nat) body, (world.sessions id)[index]? = some body →
    Owed python (index + 1) body →
      (id, index + 1) ∈ world.ingested ∨ inHand world.phase = some (id, index + 1, body) ∨
        Comes world id (.dispatch (index + 1) body)
  caughtUp : ∀ memory resuming id, world.phase = .linked memory resuming ⟨id, []⟩ .idle →
    ∀ (index : Nat) body, (world.sessions id)[index]? = some body → Owed python (index + 1) body →
      (id, index + 1) ∈ world.ingested

variable {python} {world : World}

theorem mem_numberedFrom_drop {sent index : Nat} {log : List Dict} {body : Dict}
    (found : log[index]? = some body) (late : sent ≤ index) :
    .dispatch (index + 1) body ∈ numberedFrom sent (log.drop sent) := by
  have later : (log.drop sent)[index - sent]? = some body := by
    rw [List.getElem?_drop, Nat.add_sub_cancel' late, found]
  have member : .dispatch (sent + (index - sent) + 1) body ∈ numberedFrom sent (log.drop sent) :=
    mem_numberedFrom later
  rwa [Nat.add_sub_cancel' late] at member

theorem passed_of_covered {position : Position} {sent : Nat}
    (covered : Covered python world position) (named : position.sessionId ≠ "")
    (sequence : position.sequence = .int sent) :
    Passed python world position.sessionId sent := by
  rcases covered with none | ⟨number, known, _, _, passed⟩
  · exact absurd none named
  · have same : (number : Int) = sent := by simpa using known.symm.trans sequence
    obtain rfl : number = sent := by exact_mod_cast same
    exact passed

/-- What the file of a session does not cover comes again after a resume. -/
theorem passed_or_redelivered {index : Nat} {body : Dict}
    (covered : Covered python world world.file.position)
    (named : world.file.position.sessionId ≠ "")
    (found : (world.sessions world.file.position.sessionId)[index]? = some body)
    (owed : Owed python (index + 1) body) :
    ((world.file.position.sessionId, index + 1) ∈ world.ingested ∨
        inHand world.phase = some (world.file.position.sessionId, index + 1, body)) ∨
      .dispatch (index + 1) body ∈ redelivered
        (world.sessions world.file.position.sessionId) world.file.position.sequence := by
  rcases covered with none | ⟨number, sequence, _, _, passed⟩
  · exact absurd none named
  · by_cases below : index < number
    · exact .inl (passed index body below found owed)
    · refine .inr ?_
      rw [sequence]
      exact mem_numberedFrom_drop found (Nat.le_of_not_lt below)

theorem Kept.delivered (kept : Kept python world) {id : String} {index : Nat} {body : Dict}
    (found : (world.sessions id)[index]? = some body) (owed : Owed python (index + 1) body) :
    (id, index + 1) ∈ world.ingested ∨ inHand world.phase = some (id, index + 1, body) ∨
      Comes world id (.dispatch (index + 1) body) := by
  by_cases done : (id, index + 1) ∈ world.ingested
  · exact .inl done
  -- what is owed is owed by the session that the client is with, wherever it is
  have there := kept.owing id ⟨index, body, found, owed, done⟩
  have covered := kept.numbers.covered
  have stands := kept.numbers.stands
  refine .inr ?_
  unfold Comes
  cases phase : world.phase with
  -- a new process resumes behind the number of the file
  | stopped =>
      have resumes := there
      rw [With, phase] at resumes
      obtain ⟨resume, rfl⟩ := resumes
      have named := (shouldResume_iff.mp resume).2.1
      rcases passed_or_redelivered covered named found owed with (past | hand) | again
      · exact absurd past done
      · exact .inl (phase ▸ hand)
      · exact .inr ⟨there, kept.whole, again⟩
  | waiting memory =>
      -- a resume goes on behind the number in memory, which is the one of the file
      have resumes := there
      rw [With, phase] at resumes
      rw [phase] at stands
      have same : memory.position = world.file.position := stands
      obtain ⟨resume, rfl⟩ := resumes
      have named := (shouldResume_iff.mp resume).2.1
      rw [same] at named found done there ⊢
      rcases passed_or_redelivered covered named found owed with (past | hand) | again
      · exact absurd past done
      · exact .inl (phase ▸ hand)
      · refine .inr ⟨there, ?_⟩
        change _ ∈ redelivered _ memory.position.sequence
        rw [same]
        exact again
  | linked memory resuming link work =>
      -- on a connection: the dispatch waits on it, or its number was received
      obtain ⟨_, named, works, _⟩ := kept.linked phase
      obtain ⟨sent, holds, joined, outside⟩ := works_holds works
      have resumes := there
      rw [With, phase] at resumes
      obtain rfl : link.session = id := resumes
      by_cases late : sent ≤ index
      · refine .inr ⟨there, List.mem_of_mem_filter (p := Message.isDispatch) ?_⟩
        have queue := holds.queue
        rw [Link.dispatches] at queue
        rw [queue]
        exact mem_numberedFrom_drop found late
      · have below := Nat.lt_of_not_le late
        by_cases inside : world.file.position.sessionId = link.session
        · have passed := passed_of_covered covered (inside ▸ named) (joined inside)
          rw [inside] at passed
          rcases passed index body below found owed with past | hand
          · exact absurd past done
          · exact .inl (phase ▸ hand)
        · -- before it has joined the session, the client has at most its first dispatch
          obtain rfl : index = 0 := by
            have few := outside inside
            omega
          obtain ⟨_, others, later, log, _⟩ := kept.numbers.sessions _ holds.known
          rw [log] at found
          obtain rfl := Option.some.inj found
          exact absurd owed (ready_not_owed _ _ _)

theorem Kept.safe (kept : Kept python world) : Safe python world where
  numbered inside := by
    rcases kept.numbers.covered with none | ⟨number, sequence, _⟩
    · exact absurd none inside
    · exact ⟨number, sequence⟩
  passed inside _ sequence := passed_of_covered kept.numbers.covered inside sequence
  delivered _ _ _ found owed := kept.delivered found owed
  caughtUp memory resuming id phase index body found owed := by
    rcases kept.delivered found owed with done | hand | comes
    · exact done
    · rw [phase] at hand
      cases hand
    · rw [Comes, phase] at comes
      exact absurd comes.2 List.not_mem_nil

end Safety

section Demo

variable (python : Conversions) (maxResumeAttempts : Nat)

instance (number : Nat) (body : Dict) : Decidable (Owed python number body) :=
  match read : qqOfficialExtractDispatchPayload python (Message.dispatch number body).payload with
  | .ok none => isFalse (not_not_intro read)
  | .ok (some _) => isTrue fun none => by cases read.symm.trans none
  | .error _ => isTrue fun none => by cases read.symm.trans none

instance (world : World) : Decidable (Pending python world) :=
  match hand : inHand world.phase with
  | none => isFalse fun ⟨_, _, _, there, _⟩ => by cases hand.symm.trans there
  | some (id, number, body) =>
      decidable_of_iff (Owed python number body ∧ (id, number) ∉ world.ingested)
        ⟨fun pending => ⟨id, number, body, hand, pending⟩,
          fun ⟨_, _, _, there, pending⟩ => by cases hand.symm.trans there; exact pending⟩

instance (memory : Memory) (message : Message) : Decidable (NumberTaken memory message) :=
  match there : message.payload.lookup "s" with
  | some .none => decidable_of_iff (memory.position.sessionId ≠ "")
      ⟨fun inside => ⟨there, inside⟩, fun taken => taken.2⟩
  | none => isFalse fun taken => by cases there.symm.trans taken.1
  | some (.bool _) => isFalse fun taken => by cases there.symm.trans taken.1
  | some (.int _) => isFalse fun taken => by cases there.symm.trans taken.1
  | some (.real _ _) => isFalse fun taken => by cases there.symm.trans taken.1
  | some (.str _) => isFalse fun taken => by cases there.symm.trans taken.1
  | some (.list _) => isFalse fun taken => by cases there.symm.trans taken.1
  | some (.dict _) => isFalse fun taken => by cases there.symm.trans taken.1

instance (world : World) (input : Input) :
    Decidable (Punctual python maxResumeAttempts world input) :=
  match input with
  | .receive => inferInstanceAs (Decidable (∀ next ∈ nextMessage world.phase,
      ¬ NumberTaken next.1 next.2))
  | .act => inferInstanceAs (Decidable (∀ next ∈ messageAt world.phase,
      Action.raises (handle python next.1 next.2.payload) → ¬ Pending python world))
  | .callback returns => inferInstanceAs (Decidable (returns = false → ¬ Pending python world))
  | .crash => inferInstanceAs (Decidable (¬ Pending python world))
  | .crashWriting =>
      inferInstanceAs (Decidable (world.writesNext python maxResumeAttempts = false))
  | .start => isTrue trivial
  | .connect _ _ => isTrue trivial
  | .connectFails => isTrue trivial
  | .send _ _ => isTrue trivial
  | .control _ => isTrue trivial
  | .record => isTrue trivial
  | .lose => isTrue trivial
  | .finish => isTrue trivial

instance (world : World) (id : String) : Decidable (With world id) :=
  match phase : world.phase with
  | .stopped => decidable_of_iff
      (world.loaded.shouldResume = true ∧ world.file.position.sessionId = id) (by rw [With, phase])
  | .waiting memory => decidable_of_iff
      (memory.shouldResume = true ∧ memory.position.sessionId = id) (by rw [With, phase])
  | .linked _ _ link _ => decidable_of_iff (link.session = id) (by rw [With, phase])

instance (world : World) (id : String) : Decidable (Outstanding python world id) :=
  decidable_of_iff (∃ entry ∈ (world.sessions id).zipIdx, Owed python (entry.2 + 1) entry.1 ∧
      (id, entry.2 + 1) ∉ world.ingested)
    ⟨fun ⟨entry, member, owes⟩ =>
        ⟨entry.2, entry.1, List.mem_zipIdx_iff_getElem?.mp member, owes⟩,
      fun ⟨index, body, found, owes⟩ =>
        ⟨(body, index), List.mem_zipIdx_iff_getElem?.mpr found, owes⟩⟩

instance (world : World) (input : Input) : Decidable (SentTooLate python world input) :=
  match input with
  | .send id body => inferInstanceAs (Decidable (world.sessions id ≠ [] ∧
      Owed python ((world.sessions id).length + 1) body ∧ ¬ With world id))
  | .start | .connect _ _ | .connectFails | .control _ | .receive | .act | .callback _ | .record
  | .lose | .finish | .crash | .crashWriting => isFalse nofun

instance (world : World) (input : Input) :
    Decidable (Careful python maxResumeAttempts world input) :=
  decidable_of_iff (Punctual python maxResumeAttempts world input ∧
      (∀ id ∈ partsWith python maxResumeAttempts world input, ¬ Outstanding python world id) ∧
      ¬ SentTooLate python world input)
    ⟨fun careful => ⟨careful.1, careful.2.1, careful.2.2⟩,
      fun careful => ⟨careful.punctual, careful.parts, careful.timely⟩⟩

def greeting : Dict :=
  [("t", .str "C2C_MESSAGE_CREATE"),
    ("d", .dict [("id", .str "qq-1"), ("content", .str "hello")])]

def heartbeatAck : Dict := [("op", .int 11)]

def nullNumbered : Dict := [("op", .int 11), ("s", .none)]

def greeted : List Input :=
  [.start, .connect "S" [], .receive, .act, .send "S" greeting, .receive, .act]

/-- The callback of the message raises, and a new process resumes. -/
def raisedRun : List Input := greeted ++ [.callback false, .start, .connect "" []]

/-- A heartbeat is acknowledged with a null number. -/
def nullRun : List Input := greeted ++ [.callback true, .record, .control nullNumbered, .receive]

/-- A message is sent while the connection is down, and both attempts to resume fail. -/
def givenUpRun : List Input :=
  greeted ++ [.callback true, .record, .lose, .send "S" greeting, .connectFails, .connectFails]

/-- The process is cut off while it writes the number of a message. -/
def tornRun : List Input :=
  greeted ++ [.callback true, .record, .send "S" greeting, .crashWriting]

/-- A careful run: a message is passed on, the connection is lost, another message is sent, and a
new process resumes the session behind the first one and passes the other on. -/
def carefulRun : List Input :=
  greeted ++ [.callback true, .record, .control heartbeatAck, .receive, .act, .lose,
    .send "S" greeting, .crash, .start, .connect "" [], .receive, .act, .callback true, .record]

end Demo

end NeuroLink.GatewayDelivery
