import NeuroLink.GatewayClient
import NeuroLink.StepRun

/-!
What the session state file of the gateway client says is what the client has passed on, in
every run in which no process ends between the number of a message and the return of its
callback or in the middle of a write, and no message takes the number away.
-/

namespace NeuroLink.GatewayResume

open PyValue QqOfficial GatewayClient StepRun

section Gateway

def Link.dispatches (link : Link) : List Message := link.queue.filter Message.isDispatch

theorem numberedFrom_append (sent : Nat) (log : List Dict) (body : Dict) :
    numberedFrom sent (log ++ [body]) =
      numberedFrom sent log ++ [.dispatch (sent + log.length + 1) body] := by
  induction log generalizing sent with
  | nil => rfl
  | cons first rest ih =>
      rw [List.cons_append, numberedFrom, ih, numberedFrom, List.length_cons, List.cons_append,
        Nat.add_right_comm sent 1, Nat.add_assoc sent]

theorem numberedFrom_dispatches (sent : Nat) (log : List Dict) :
    (numberedFrom sent log).filter Message.isDispatch = numberedFrom sent log := by
  induction log generalizing sent with
  | nil => rfl
  | cons first rest ih => rw [numberedFrom, List.filter_cons_of_pos rfl, ih]

theorem numberedFrom_cons {sent number : Nat} {log : List Dict} {body : Dict}
    {rest : List Message}
    (next : .dispatch number body :: rest = numberedFrom sent (log.drop sent)) :
    number = sent + 1 ∧ log[sent]? = some body ∧
      rest = numberedFrom (sent + 1) (log.drop (sent + 1)) := by
  cases waiting : log.drop sent with
  | nil =>
      rw [waiting] at next
      cases next
  | cons first later =>
      rw [waiting, numberedFrom] at next
      obtain ⟨head, tail⟩ := List.cons.inj next
      obtain ⟨rfl, rfl⟩ := Message.dispatch.inj head
      have found : log[sent]? = some body := by
        rw [← List.head?_drop, waiting]
        rfl
      have shorter : log.drop (sent + 1) = later := by
        rw [← List.tail_drop, waiting]
        rfl
      exact ⟨rfl, found, by rw [tail, shorter]⟩

end Gateway

section Owed

variable (python : Conversions)

/-- The dispatches that the client has to pass on: all that it does not read as another kind
of event. -/
def Owed (number : Nat) (body : Dict) : Prop :=
  qqOfficialExtractDispatchPayload python (Message.dispatch number body).payload ≠ .ok none

variable {python}

@[simp] theorem op_dispatch (number : Nat) (body : Dict) :
    python.intOrZero (get (Message.dispatch number body).payload "op") = .ok 0 := rfl

theorem extract_other {payload : Dict} {eventType : String}
    (op : python.intOrZero (get payload "op") = .ok 0)
    (read : python.textOrEmpty (get payload "t") = eventType)
    (other : qqOfficialDispatchEventTypes.contains (strip eventType) = false) :
    qqOfficialExtractDispatchPayload python payload = .ok none := by
  unfold qqOfficialExtractDispatchPayload
  rw [op, read]
  dsimp only [bind, Except.bind]
  rw [if_neg (by simp), if_pos (by rw [other]; exact Bool.false_ne_true)]
  rfl

theorem ready_type (number : Nat) (id : String) (others : Dict) :
    python.textOrEmpty (get (Message.dispatch number (readyBody id others)).payload "t") =
      "READY" := rfl

theorem ready_not_owed (number : Nat) (id : String) (others : Dict) :
    ¬ Owed python number (readyBody id others) :=
  not_not_intro (extract_other (op_dispatch _ _) (ready_type number id others) (by decide +kernel))

theorem handle_dispatch (memory : Memory) (number : Nat) (body : Dict) :
    handle python memory (Message.dispatch number body).payload =
      if python.textOrEmpty (get (Message.dispatch number body).payload "t") = "READY" then
        let sessionId := python.textOrEmpty
          (get (dictOrEmpty (get (Message.dispatch number body).payload "d")) "session_id")
        .keep { memory with
          canResume := sessionId != "", position := { memory.position with sessionId } }
      else if python.textOrEmpty (get (Message.dispatch number body).payload "t") = "RESUMED" then
        .keep { memory with canResume := true }
      else
        match qqOfficialExtractDispatchPayload python (Message.dispatch number body).payload with
        | .error _ => .raise
        | .ok none => .ignore
        | .ok (some (eventType, event)) => .ingest (envelopeFromEvent python event) eventType := by
  unfold handle
  rw [op_dispatch]
  dsimp only
  generalize qqOfficialExtractDispatchPayload python (Message.dispatch number body).payload =
    extracted
  rw [if_neg (by decide), if_neg (by decide)]
  exact (if_neg (by decide)).trans rfl

theorem handle_ready (memory : Memory) (number : Nat) {id : String} (known : id ≠ "")
    (others : Dict) :
    handle python memory (Message.dispatch number (readyBody id others)).payload =
      .keep { memory with
        canResume := true, position := { memory.position with sessionId := id } } := by
  have named : python.textOrEmpty (get (dictOrEmpty (get
      (Message.dispatch number (readyBody id others)).payload "d")) "session_id") = id := by
    show python.textOrEmpty (.str id) = id
    rw [Conversions.textOrEmpty, Conversions.textOr, orElse_truthy _ (by simpa using known),
      text_str]
  rw [handle_dispatch, if_pos (ready_type number id others)]
  dsimp only
  rw [named]
  simp [known]

/-- What a dispatch that is not the first one makes the client do: it goes on, or the dispatch
is owed. -/
theorem handle_later (memory : Memory) {number : Nat} {body : Dict}
    (other : python.textOrEmpty (get body "t") ≠ "READY") :
    (¬ Owed python number body ∧
      (handle python memory (Message.dispatch number body).payload = .ignore ∨
        handle python memory (Message.dispatch number body).payload =
          .keep { memory with canResume := true })) ∨
      (∃ envelope eventType, handle python memory (Message.dispatch number body).payload =
        .ingest envelope eventType) ∨
      handle python memory (Message.dispatch number body).payload = .raise := by
  have unready : ¬ python.textOrEmpty (get (Message.dispatch number body).payload "t") =
      "READY" := other
  rw [handle_dispatch, if_neg unready]
  by_cases resumed :
      python.textOrEmpty (get (Message.dispatch number body).payload "t") = "RESUMED"
  · rw [if_pos resumed]
    refine .inl ⟨not_not_intro ?_, .inr rfl⟩
    exact extract_other (op_dispatch _ _) resumed (by decide +kernel)
  · rw [if_neg resumed]
    cases extracted : qqOfficialExtractDispatchPayload python
        (Message.dispatch number body).payload with
    | error raised => exact .inr (.inr rfl)
    | ok found =>
        cases found with
        | none => exact .inl ⟨not_not_intro extracted, .inl rfl⟩
        | some event => exact .inr (.inl ⟨_, _, rfl⟩)

theorem handle_control (memory : Memory) {payload : Dict}
    (control : isControl python payload = true) :
    handle python memory payload = .ignore ∨ handle python memory payload = .raise ∨
      ∃ left : Memory, handle python memory payload = .leave left ∧
        (left.position = memory.position ∨ left.position.sessionId = "") := by
  unfold handle
  cases read : python.intOrZero (get payload "op") with
  | error raised => exact .inr (.inl rfl)
  | ok op =>
      dsimp only
      by_cases seven : op = 7
      · rw [if_pos seven]
        exact .inr (.inr ⟨_, rfl, .inl rfl⟩)
      · rw [if_neg seven]
        by_cases nine : op = 9
        · rw [if_pos nine]
          exact .inr (.inr ⟨_, rfl, .inr rfl⟩)
        · have other : op ≠ 0 := by
            rintro rfl
            rw [isControl, read] at control
            exact Bool.false_ne_true (Bool.and_eq_true_iff.mp control).2
          rw [if_neg nine, if_pos other]
          exact .inl rfl

theorem control_unnumbered {payload : Dict} (control : isControl python payload = true) :
    get payload "s" = .none := by
  unfold isControl at control
  cases read : get payload "s" with
  | none => rfl
  | _ =>
      rw [read] at control
      cases control

end Owed

section Standing

/-- The dispatch that the client has in hand: its number is written, and its callback has not
returned. -/
def inHand : Phase → Option (String × Nat × Dict)
  | .linked _ _ link (.received (.dispatch number body)) => some (link.session, number, body)
  | .linked _ _ link (.calling (.dispatch number body)) => some (link.session, number, body)
  | _ => none

variable (python : Conversions)

/-- The client has a dispatch in hand that it owes and never passed on. -/
def Pending (world : World) : Prop :=
  ∃ id number body, inHand world.phase = some (id, number, body) ∧ Owed python number body ∧
    (id, number) ∉ world.ingested

/-- The first dispatches of a session were passed on, up to the one in hand. -/
def Passed (world : World) (id : String) (number : Nat) : Prop :=
  ∀ index body, index < number → (world.sessions id)[index]? = some body →
    Owed python (index + 1) body →
      (id, index + 1) ∈ world.ingested ∨ inHand world.phase = some (id, index + 1, body)

/-- Every session begins with the dispatch that tells its id, and no other does. -/
def Sessions (sessions : String → List Dict) : Prop :=
  ∀ id, sessions id ≠ [] → id ≠ "" ∧ ∃ others later,
    sessions id = readyBody id others :: later ∧
      ∀ body ∈ later, python.textOrEmpty (get body "t") ≠ "READY"

/-- The number in the file is one of the session, and what it covers was passed on. -/
def Covered (world : World) (position : Position) : Prop :=
  position.sessionId = "" ∨ ∃ number : Nat, position.sequence = .int number ∧
    world.sessions position.sessionId ≠ [] ∧
    number ≤ (world.sessions position.sessionId).length ∧
    Passed python world position.sessionId number

/-- The connection holds the dispatches of its session after the first few. -/
structure Holds (sessions : String → List Dict) (link : Link) (sent : Nat) : Prop where
  known : sessions link.session ≠ []
  within : sent ≤ (sessions link.session).length
  queue : Link.dispatches link = numberedFrom sent ((sessions link.session).drop sent)
  controls : ∀ payload, .control payload ∈ link.queue → isControl python payload = true

/-- The client has received the first dispatches of the session: its number says so, once it
has joined the session. -/
def Received (position : Position) (link : Link) (sent : Nat) : Prop :=
  (position.sessionId = link.session → position.sequence = .int sent) ∧
    (position.sessionId ≠ link.session → sent = 0)

def At (sessions : String → List Dict) (position : Position) (link : Link) (number : Nat)
    (body : Dict) : Prop :=
  Holds python sessions link number ∧ position.sequence = .int number ∧
    ∃ index, number = index + 1 ∧ (sessions link.session)[index]? = some body ∧
      (position.sessionId ≠ link.session → index = 0)

def Works (world : World) (position : Position) (link : Link) : Work → Prop
  | .idle => ∃ sent, Holds python world.sessions link sent ∧ Received position link sent
  | .received (.control payload) => isControl python payload = true ∧
      ∃ sent, Holds python world.sessions link sent ∧ Received position link sent
  | .received (.dispatch number body) => At python world.sessions position link number body
  | .calling (.dispatch number body) => At python world.sessions position link number body ∧
      position.sessionId = link.session
  | .returned (.dispatch number body) => At python world.sessions position link number body ∧
      position.sessionId = link.session
  | _ => False

def Stands (world : World) : Phase → Prop
  | .stopped => True
  | .waiting memory => memory.position = world.file.position
  | .linked memory _ link work => memory.position = world.file.position ∧
      Works python world world.file.position link work

structure Invariant (world : World) : Prop where
  sessions : Sessions python world.sessions
  covered : Covered python world world.file.position
  stands : Stands python world world.phase

end Standing

section Steps

variable {python : Conversions} {world : World}

/-- What the file covers stays covered where what was passed on or is in hand stays so. -/
theorem Covered.mono {next : World} {position : Position} (covered : Covered python world position)
    (sessions : next.sessions = world.sessions)
    (kept : ∀ id number body, Owed python number body →
      (id, number) ∈ world.ingested ∨ inHand world.phase = some (id, number, body) →
        (id, number) ∈ next.ingested ∨ inHand next.phase = some (id, number, body)) :
    Covered python next position := by
  rcases covered with none | ⟨number, sequence, known, within, passed⟩
  · exact .inl none
  · rw [Covered, sessions]
    refine .inr ⟨number, sequence, known, within, fun index body below found owed => ?_⟩
    rw [sessions] at found
    exact kept _ _ body owed (passed index body below found owed)

theorem passed_of_settled (settled : ¬ Pending python world) {id : String} {number : Nat}
    {body : Dict} (owed : Owed python number body)
    (passed : (id, number) ∈ world.ingested ∨ inHand world.phase = some (id, number, body)) :
    (id, number) ∈ world.ingested := by
  rcases passed with done | hand
  · exact done
  · by_contra missing
    exact settled ⟨id, number, body, hand, owed, missing⟩

theorem Covered.settled {next : World} {position : Position}
    (covered : Covered python world position) (settled : ¬ Pending python world)
    (sessions : next.sessions = world.sessions) (ingested : next.ingested = world.ingested) :
    Covered python next position :=
  covered.mono sessions fun _ _ _ owed passed =>
    .inl (ingested ▸ passed_of_settled settled owed passed)

theorem not_pending_of_free (free : inHand world.phase = none) : ¬ Pending python world := by
  rintro ⟨id, number, body, hand, _⟩
  rw [free] at hand
  cases hand

theorem not_pending_of_unowed {id : String} {number : Nat} {body : Dict}
    (hand : inHand world.phase = some (id, number, body)) (free : ¬ Owed python number body) :
    ¬ Pending python world := by
  rintro ⟨_, _, _, other, owed, _⟩
  rw [hand] at other
  cases other
  exact free owed

theorem Covered.first {position : Position} (sessions : Sessions python world.sessions)
    (known : world.sessions position.sessionId ≠ []) (one : position.sequence = .int 1) :
    Covered python world position := by
  obtain ⟨_, others, later, log, _⟩ := sessions _ known
  refine .inr ⟨1, one, known, ?_, fun index body below found owed => ?_⟩
  · rw [log]
    simp
  · obtain rfl : index = 0 := by omega
    rw [log] at found
    cases found
    exact absurd owed (ready_not_owed _ _ _)

theorem Invariant.stop (holds : Invariant python world) (settled : ¬ Pending python world) :
    Invariant python { world with phase := .stopped } :=
  ⟨holds.sessions, holds.covered.settled settled rfl rfl, trivial⟩

/-- A process that writes its own position and waits or stops keeps the invariant. -/
theorem invariant_afterLink {maxResumeAttempts : Nat} {memory : Memory} {resuming : Bool}
    (sessions : Sessions python world.sessions) (same : memory.position = world.file.position)
    (covered : Covered python { world with phase := .stopped } memory.position) :
    Invariant python (world.afterLink maxResumeAttempts memory resuming) := by
  unfold World.afterLink
  split
  · exact ⟨sessions, covered.mono rfl fun _ _ _ _ passed => passed, trivial⟩
  · refine ⟨sessions, ?_, same⟩
    rw [← same]
    exact covered.mono rfl fun _ _ _ _ passed => passed

theorem invariant_start {maxResumeAttempts : Nat} (holds : Invariant python world) :
    Invariant python (world.step python maxResumeAttempts .start) := by
  unfold World.step
  dsimp only
  split
  · next stopped =>
    split
    · exact holds
    · refine ⟨holds.sessions, holds.covered.settled (not_pending_of_free ?_) rfl rfl, rfl⟩
      rw [stopped]
      rfl
  · exact holds

theorem controls_numberedFrom (sent : Nat) (log : List Dict) (payload : Dict) :
    .control payload ∉ numberedFrom sent log := by
  intro member
  rw [← numberedFrom_dispatches] at member
  exact Bool.false_ne_true (List.mem_filter.mp member).2

theorem holds_redelivered {id : String} {number : Nat}
    (known : world.sessions id ≠ []) (within : number ≤ (world.sessions id).length) :
    Holds python world.sessions ⟨id, redelivered (world.sessions id) (.int number)⟩ number := by
  refine ⟨known, within, ?_, fun payload member => ?_⟩
  · exact numberedFrom_dispatches _ _
  · exact absurd member (controls_numberedFrom _ _ _)

theorem shouldResume_session {memory : Memory} (resume : memory.shouldResume = true) :
    memory.position.sessionId ≠ "" := by
  intro none
  rw [Memory.shouldResume, none] at resume
  simp at resume

theorem invariant_resume {memory : Memory} {id : String} {others : Dict}
    (holds : Invariant python world) (waits : world.phase = .waiting memory)
    (resume : memory.shouldResume = true) :
    Invariant python (world.connect memory id others) := by
  have same : memory.position = world.file.position := by
    have stands := holds.stands
    rwa [waits] at stands
  have free : inHand world.phase = none := by
    rw [waits]
    rfl
  unfold World.connect
  rw [if_pos resume]
  refine ⟨holds.sessions, holds.covered.settled (not_pending_of_free free) rfl rfl, same, ?_⟩
  rcases holds.covered with none | ⟨number, sequence, known, within, _⟩
  · exact absurd (same ▸ none) (shouldResume_session resume)
  · refine ⟨number, ?_, fun _ => sequence, fun other => absurd (congrArg _ same.symm) other⟩
    dsimp only
    rw [same, sequence]
    exact holds_redelivered known within

theorem sessions_update {sessions : String → List Dict} {id : String} {others : Dict}
    (known : Sessions python sessions) (named : id ≠ "") :
    Sessions python (Function.update sessions id [readyBody id others]) := by
  intro other there
  by_cases same : other = id
  · subst same
    exact ⟨named, others, [], by rw [Function.update_self], fun body member => by cases member⟩
  · rw [Function.update_of_ne same] at there ⊢
    exact known other there

theorem invariant_identify {memory : Memory} {id : String} {others : Dict}
    (holds : Invariant python world) (waits : world.phase = .waiting memory)
    (resume : memory.shouldResume = false) :
    Invariant python (world.connect memory id others) := by
  have same : memory.position = world.file.position := by
    have stands := holds.stands
    rwa [waits] at stands
  unfold World.connect
  rw [resume, if_neg (by decide)]
  split
  · exact holds
  · next fresh =>
    obtain ⟨named, unused⟩ := not_or.mp fresh
    have unused := not_not.mp unused
    refine ⟨sessions_update holds.sessions named, ?_, same, ?_⟩
    · rcases holds.covered with none | ⟨number, sequence, known, within, passed⟩
      · exact .inl none
      · have other : world.file.position.sessionId ≠ id := fun equal => known (equal ▸ unused)
        unfold Covered
        dsimp only
        rw [Function.update_of_ne other]
        refine .inr ⟨number, sequence, known, within, fun index body below found owed => ?_⟩
        dsimp only at found
        rw [Function.update_of_ne other] at found
        rcases passed index body below found owed with done | hand
        · exact .inl done
        · rw [waits] at hand
          cases hand
    · refine ⟨0, ⟨?_, Nat.zero_le _, ?_, fun payload member => ?_⟩, fun equal => ?_, fun _ => rfl⟩
      · dsimp only
        rw [Function.update_self]
        exact List.cons_ne_nil _ _
      · dsimp only
        rw [Function.update_self]
        rfl
      · exact absurd member (controls_numberedFrom _ _ _)
      · rcases holds.covered with none | ⟨_, _, known, _⟩
        · exact absurd (equal.symm.trans none) named
        · exact absurd (equal ▸ unused) known

theorem invariant_connect {maxResumeAttempts : Nat} {id : String} {others : Dict}
    (holds : Invariant python world) :
    Invariant python (world.step python maxResumeAttempts (.connect id others)) := by
  unfold World.step
  dsimp only
  split
  · next memory waits =>
    cases resume : memory.shouldResume with
    | true => exact invariant_resume holds waits resume
    | false => exact invariant_identify holds waits resume
  · exact holds

theorem invariant_connectFails {maxResumeAttempts : Nat} (holds : Invariant python world) :
    Invariant python (world.step python maxResumeAttempts .connectFails) := by
  unfold World.step
  dsimp only
  split
  · next memory waits =>
    have same : memory.position = world.file.position := by
      have stands := holds.stands
      rwa [waits] at stands
    have free : inHand world.phase = none := by
      rw [waits]
      rfl
    split
    · refine invariant_afterLink holds.sessions same ?_
      exact same ▸ holds.covered.settled (not_pending_of_free free) rfl rfl
    · exact holds
  · exact holds

@[simp] theorem inHand_deliver (id : String) (message : Message) (phase : Phase) :
    inHand (phase.deliver id message) = inHand phase := by
  cases phase with
  | linked memory resuming link work =>
      unfold Phase.deliver
      dsimp only
      split
      · cases work with
        | received message => cases message <;> rfl
        | calling message => cases message <;> rfl
        | _ => rfl
      · rfl
  | _ => rfl

theorem getElem?_grown {log : List Dict} {body found : Dict} {index : Nat}
    (there : log[index]? = some found) : (log ++ [body])[index]? = some found := by
  obtain ⟨below, _⟩ := List.getElem?_eq_some_iff.mp there
  rw [List.getElem?_append_left below]
  exact there

theorem holds_send {sessions : String → List Dict} {link : Link} {sent : Nat} {body : Dict}
    (holds : Holds python sessions link sent) :
    Holds python (Function.update sessions link.session (sessions link.session ++ [body]))
      { link with queue := link.queue ++
        [.dispatch (sessions link.session ++ [body]).length body] } sent := by
  have waiting : (sessions link.session ++ [body]).drop sent =
      (sessions link.session).drop sent ++ [body] := List.drop_append_of_le_length holds.within
  have number : sent + ((sessions link.session).drop sent).length + 1 =
      (sessions link.session ++ [body]).length := by
    have within := holds.within
    rw [List.length_drop, List.length_append, List.length_singleton]
    omega
  refine ⟨?_, ?_, ?_, fun payload member => ?_⟩
  · dsimp only
    rw [Function.update_self]
    simp
  · dsimp only
    rw [Function.update_self, List.length_append]
    exact Nat.le_add_right_of_le holds.within
  · have queue := holds.queue
    rw [Link.dispatches] at queue ⊢
    dsimp only
    rw [Function.update_self, waiting, numberedFrom_append, number, List.filter_append, queue]
    rfl
  · rcases List.mem_append.mp member with earlier | last
    · exact holds.controls payload earlier
    · cases List.mem_singleton.mp last

theorem holds_send_other {sessions : String → List Dict} {link : Link} {sent : Nat} {id : String}
    {log : List Dict} (other : link.session ≠ id) (holds : Holds python sessions link sent) :
    Holds python (Function.update sessions id log) link sent := by
  obtain ⟨known, within, queue, controls⟩ := holds
  refine ⟨?_, ?_, ?_, controls⟩ <;> rwa [Function.update_of_ne other]

def Link.sentTo (link : Link) (id : String) (message : Message) : Link :=
  if link.session = id then { link with queue := link.queue ++ [message] } else link

theorem deliver_linked {memory : Memory} {resuming : Bool} {link : Link} {work : Work}
    {id : String} {message : Message} :
    (Phase.linked memory resuming link work).deliver id message =
      .linked memory resuming (Link.sentTo link id message) work := by
  unfold Phase.deliver Link.sentTo
  dsimp only
  split <;> rfl

@[simp] theorem sentTo_session {link : Link} {id : String} {message : Message} :
    (Link.sentTo link id message).session = link.session := by
  unfold Link.sentTo
  split <;> rfl

theorem holds_sentTo {sessions : String → List Dict} {link : Link} {sent : Nat} {id : String}
    {body : Dict} (holds : Holds python sessions link sent) :
    Holds python (Function.update sessions id (sessions id ++ [body]))
      (Link.sentTo link id (.dispatch (sessions id ++ [body]).length body)) sent := by
  by_cases same : link.session = id
  · subst same
    rw [Link.sentTo, if_pos rfl]
    exact holds_send holds
  · rw [Link.sentTo, if_neg same]
    exact holds_send_other same holds

theorem holds_controlled {sessions : String → List Dict} {link : Link} {sent : Nat}
    {payload : Dict} (control : isControl python payload = true)
    (holds : Holds python sessions link sent) :
    Holds python sessions { link with queue := link.queue ++ [.control payload] } sent := by
  refine ⟨holds.known, holds.within, ?_, fun other member => ?_⟩
  · have queue := holds.queue
    rw [Link.dispatches] at queue ⊢
    dsimp only
    rw [List.filter_append, queue]
    exact List.append_nil _
  · rcases List.mem_append.mp member with earlier | last
    · exact holds.controls other earlier
    · cases List.mem_singleton.mp last
      exact control

/-- A message on its way changes nothing about the work at hand, if the gateway's sessions only
grow and the connection holds what it held. -/
theorem Works.sent {next : World} {position : Position} {link other : Link} {work : Work}
    (works : Works python world position link work) (same : other.session = link.session)
    (grown : ∀ (index : Nat) body, (world.sessions link.session)[index]? = some body →
      (next.sessions link.session)[index]? = some body)
    (holds : ∀ sent, Holds python world.sessions link sent →
      Holds python next.sessions other sent) :
    Works python next position other work := by
  have at_sent : ∀ number body, At python world.sessions position link number body →
      At python next.sessions position other number body := by
    rintro number body ⟨held, sequence, index, count, found, joined⟩
    exact ⟨holds _ held, sequence, index, count, same ▸ grown _ _ found, same ▸ joined⟩
  have idle : (∃ sent, Holds python world.sessions link sent ∧ Received position link sent) →
      ∃ sent, Holds python next.sessions other sent ∧ Received position other sent := by
    rintro ⟨sent, held, received⟩
    refine ⟨sent, holds _ held, ?_⟩
    rwa [Received, same]
  cases work with
  | idle => exact idle works
  | received message =>
      cases message with
      | dispatch number body => exact at_sent _ _ works
      | control payload => exact ⟨works.1, idle works.2⟩
  | calling message =>
      cases message with
      | dispatch number body => exact ⟨at_sent _ _ works.1, same ▸ works.2⟩
      | control payload => exact works
  | returned message =>
      cases message with
      | dispatch number body => exact ⟨at_sent _ _ works.1, same ▸ works.2⟩
      | control payload => exact works

theorem covered_send {position : Position} {id : String} {body : Dict} {message : Message}
    (covered : Covered python world position) :
    Covered python { world with
      sessions := Function.update world.sessions id (world.sessions id ++ [body])
      phase := world.phase.deliver id message } position := by
  rcases covered with none | ⟨number, sequence, known, within, passed⟩
  · exact .inl none
  · have hand : ∀ index found, index < number →
        (world.sessions position.sessionId)[index]? = some found →
        Owed python (index + 1) found →
        (position.sessionId, index + 1) ∈ world.ingested ∨
          inHand (world.phase.deliver id message) =
            some (position.sessionId, index + 1, found) := by
      intro index found below there owed
      rw [inHand_deliver]
      exact passed index found below there owed
    by_cases same : position.sessionId = id
    · subst same
      refine .inr ⟨number, sequence, ?_, ?_, fun index found below there owed => ?_⟩
      · dsimp only
        rw [Function.update_self]
        exact List.append_ne_nil_of_left_ne_nil known _
      · dsimp only
        rw [Function.update_self, List.length_append]
        exact Nat.le_add_right_of_le within
      · dsimp only at there
        rw [Function.update_self, List.getElem?_append_left (by omega)] at there
        exact hand index found below there owed
    · refine .inr ⟨number, sequence, ?_, ?_, fun index found below there owed => ?_⟩
      · dsimp only
        rwa [Function.update_of_ne same]
      · dsimp only
        rwa [Function.update_of_ne same]
      · dsimp only at there
        rw [Function.update_of_ne same] at there
        exact hand index found below there owed

theorem invariant_send {maxResumeAttempts : Nat} {id : String} {body : Dict}
    (holds : Invariant python world) :
    Invariant python (world.step python maxResumeAttempts (.send id body)) := by
  unfold World.step
  dsimp only
  split
  · exact holds
  · next allowed =>
    obtain ⟨known, unready⟩ := not_or.mp allowed
    -- the log of a session only grows at its end, so what was found is found again
    have grown : ∀ other (index : Nat) found, (world.sessions other)[index]? = some found →
        (Function.update world.sessions id (world.sessions id ++ [body]) other)[index]? =
          some found := by
      intro other index found there
      by_cases same : other = id
      · subst same
        rw [Function.update_self]
        exact getElem?_grown there
      · rwa [Function.update_of_ne same]
    refine ⟨fun other there => ?_, ?_, ?_⟩
    · by_cases same : other = id
      · subst same
        obtain ⟨named, others, later, log, unreadied⟩ := holds.sessions other known
        refine ⟨named, others, later ++ [body], ?_, fun found member => ?_⟩
        · dsimp only
          rw [Function.update_self, log, List.cons_append]
        · rcases List.mem_append.mp member with earlier | last
          · exact unreadied found earlier
          · rwa [List.mem_singleton.mp last]
      · dsimp only at there ⊢
        rw [Function.update_of_ne same] at there ⊢
        exact holds.sessions other there
    · exact covered_send holds.covered
    · have stands := holds.stands
      cases phase : world.phase with
      | stopped => trivial
      | waiting memory =>
          rw [phase] at stands
          exact stands
      | linked memory resuming link work =>
          rw [phase] at stands
          rw [deliver_linked]
          refine ⟨stands.1, stands.2.sent sentTo_session ?_ ?_⟩
          · exact grown link.session
          · exact fun sent held => holds_sentTo held

theorem invariant_control {maxResumeAttempts : Nat} {payload : Dict}
    (holds : Invariant python world) :
    Invariant python (world.step python maxResumeAttempts (.control payload)) := by
  unfold World.step
  dsimp only
  split
  · next memory resuming link work phase =>
    split
    · next control =>
      have stands := holds.stands
      rw [phase] at stands
      refine ⟨holds.sessions, holds.covered.mono rfl fun _ _ _ _ passed => ?_, ?_⟩
      · rwa [inHand_deliver]
      · dsimp only
        rw [phase, deliver_linked, Link.sentTo, if_pos rfl]
        refine ⟨stands.1, stands.2.sent rfl ?_ ?_⟩
        · exact fun index body found => found
        · exact fun sent held => holds_controlled control held
    · exact holds
  · exact holds

theorem holds_receive {sessions : String → List Dict} {session : String} {message : Message}
    {rest : List Message} {sent : Nat}
    (holds : Holds python sessions ⟨session, message :: rest⟩ sent) :
    match message with
    | .control payload => isControl python payload = true ∧
        Holds python sessions ⟨session, rest⟩ sent
    | .dispatch number body => number = sent + 1 ∧ (sessions session)[sent]? = some body ∧
        Holds python sessions ⟨session, rest⟩ number := by
  obtain ⟨known, within, queue, controls⟩ := holds
  have others : ∀ payload, .control payload ∈ rest → isControl python payload = true :=
    fun payload member => controls payload (List.mem_cons_of_mem _ member)
  rw [Link.dispatches] at queue
  cases message with
  | control payload =>
      exact ⟨controls payload List.mem_cons_self, known, within, queue, others⟩
  | dispatch number body =>
      rw [List.filter_cons_of_pos rfl] at queue
      obtain ⟨rfl, found, later⟩ := numberedFrom_cons queue
      refine ⟨rfl, found, known, ?_, later, others⟩
      exact (List.getElem?_eq_some_iff.mp found).1

theorem covered_receive {next : World} {session : String} {link : Link} {sent : Nat}
    {body : Dict} (holds : Invariant python world) (free : inHand world.phase = none)
    (sessions : next.sessions = world.sessions) (ingested : next.ingested = world.ingested)
    (hand : inHand next.phase = some (session, sent + 1, body)) (served : link.session = session)
    (received : Received world.file.position link sent)
    (found : (world.sessions session)[sent]? = some body) :
    Covered python next ⟨world.file.position.sessionId, .int ((sent + 1 : Nat) : Int)⟩ := by
  subst served
  rcases holds.covered with none | ⟨number, sequence, known, within, passed⟩
  · exact .inl none
  · by_cases joined : world.file.position.sessionId = link.session
    · have count : number = sent := by
        have numbers : (number : Int) = sent := by
          simpa using sequence.symm.trans (received.1 joined)
        exact_mod_cast numbers
      subst count
      unfold Covered
      rw [sessions]
      refine .inr ⟨number + 1, rfl, known, ?_, fun index other below there owed => ?_⟩
      · rw [joined]
        exact (List.getElem?_eq_some_iff.mp found).1
      · rw [sessions] at there
        dsimp only at there ⊢
        by_cases last : index = number
        · subst last
          rw [joined] at there ⊢
          obtain rfl := Option.some.inj (found.symm.trans there)
          exact .inr hand
        · rcases passed index other (by omega) there owed with done | before
          · exact .inl (ingested ▸ done)
          · rw [free] at before
            cases before
    · obtain rfl := received.2 joined
      have first : Covered python { world with phase := next.phase }
          ⟨world.file.position.sessionId, .int ((0 + 1 : Nat) : Int)⟩ :=
        Covered.first holds.sessions known rfl
      exact first.mono sessions fun _ _ _ _ passed => by rwa [ingested]

/-- A message takes the number away where it says null. -/
def NumberTaken (memory : Memory) (message : Message) : Prop :=
  message.payload.lookup "s" = some .none ∧ memory.position.sessionId ≠ ""

theorem invariant_receive {maxResumeAttempts : Nat} (holds : Invariant python world)
    (kept : ∀ memory resuming session message rest,
      world.phase = .linked memory resuming ⟨session, message :: rest⟩ .idle →
        ¬ NumberTaken memory message) :
    Invariant python (world.step python maxResumeAttempts .receive) := by
  unfold World.step
  dsimp only
  split
  · next memory resuming session message rest phase =>
    have untaken := kept _ _ _ _ _ phase
    have stands := holds.stands
    rw [phase] at stands
    obtain ⟨same, sent, held, received⟩ := stands
    have free : inHand world.phase = none := by
      rw [phase]
      rfl
    obtain ⟨position, canResume, resumeAttemptCount⟩ := memory
    dsimp only at same
    subst same
    -- a dispatch moves the number on by one; a control message carries none, or null
    cases message with
    | dispatch number body =>
        obtain ⟨rfl, found, later⟩ := holds_receive held
        refine ⟨holds.sessions, ?_, rfl, later, rfl, sent, rfl, found, received.2⟩
        exact covered_receive holds free rfl rfl rfl rfl received found
    | control payload =>
        obtain ⟨control, later⟩ := holds_receive held
        have settled : ¬ Pending python world := not_pending_of_free free
        have absent := control_unnumbered control
        cases there : payload.lookup "s" with
        | none =>
            have unnumbered : ∀ memory : Memory, memory.numbered payload = memory := by
              intro memory
              rw [Memory.numbered, there]
              rfl
            have unwritten : (Message.control payload).payload = payload := rfl
            rw [unwritten, unnumbered, there]
            refine ⟨holds.sessions, ?_, rfl, control, sent, later, received⟩
            exact holds.covered.settled settled rfl rfl
        | some value =>
            -- the number is taken away, which no session minds that the client is not in
            have nothing : value = .none := by
              rw [PyValue.get, there] at absent
              exact absent
            subst nothing
            have outside : world.file.position.sessionId = "" := by
              by_contra inside
              exact untaken ⟨there, inside⟩
            have numbered : ∀ memory : Memory, (memory.numbered payload).position =
                ⟨memory.position.sessionId, .none⟩ := by
              intro memory
              rw [Memory.numbered, there, PyValue.get, there]
              rfl
            have written : (Message.control payload).payload = payload := rfl
            rw [written, there]
            refine ⟨holds.sessions, .inl ?_, rfl, control, sent, later, ?_⟩
            · exact (congrArg Position.sessionId (numbered _)).trans outside
            · have apart : (Memory.numbered ⟨world.file.position, canResume, resumeAttemptCount⟩
                  payload).position.sessionId ≠ session := by
                rw [numbered, outside]
                exact fun equal => (holds.sessions _ later.known).1 equal.symm
              refine ⟨fun equal => absurd equal apart, fun _ => ?_⟩
              refine received.2 fun equal => ?_
              exact (holds.sessions _ later.known).1 (equal.symm.trans outside)
  · exact holds

/-- What the client does with a message that is no dispatch. -/
theorem invariant_act_control {maxResumeAttempts : Nat} {memory : Memory} {resuming : Bool}
    {link : Link} {payload : Dict} (holds : Invariant python world)
    (phase : world.phase = .linked memory resuming link (.received (.control payload))) :
    Invariant python (world.act python maxResumeAttempts memory resuming link
      (.control payload)) := by
  have stands := holds.stands
  rw [phase] at stands
  obtain ⟨same, control, waiting⟩ := stands
  have settled : ¬ Pending python world := not_pending_of_free (by rw [phase]; rfl)
  have written : (Message.control payload).payload = payload := rfl
  unfold World.act
  rw [written]
  rcases handle_control memory control with ignored | raised | ⟨left, leaves, position⟩
  · rw [ignored]
    exact ⟨holds.sessions, holds.covered.settled settled rfl rfl, same, waiting⟩
  · rw [raised]
    exact holds.stop settled
  · rw [leaves]
    dsimp only
    refine invariant_afterLink holds.sessions rfl ?_
    rcases position with kept | gone
    · rw [kept, same]
      exact holds.covered.settled settled rfl rfl
    · exact .inl gone

/-- What the client does with a dispatch: the first one of a session makes it join, and of the
others it passes on those that it owes. -/
theorem invariant_act_dispatch {maxResumeAttempts : Nat} {memory : Memory} {resuming : Bool}
    {link : Link} {number : Nat} {body : Dict} (holds : Invariant python world)
    (phase : world.phase = .linked memory resuming link (.received (.dispatch number body)))
    (careful : handle python memory (Message.dispatch number body).payload = .raise →
      ¬ Pending python world) :
    Invariant python (world.act python maxResumeAttempts memory resuming link
      (.dispatch number body)) := by
  have stands := holds.stands
  rw [phase] at stands
  obtain ⟨same, held, sequence, index, rfl, found, joined⟩ := stands
  obtain ⟨named, others, later, log, unready⟩ := holds.sessions link.session held.known
  have hand : inHand world.phase = some (link.session, index + 1, body) := by
    rw [phase]
    rfl
  unfold World.act
  -- the first message of a session is READY, and no other is
  cases index with
  | zero =>
      obtain rfl : readyBody link.session others = body := by
        rw [log] at found
        exact Option.some.inj found
      rw [handle_ready memory 1 named others]
      dsimp only [persisted]
      rw [same, sequence]
      refine ⟨holds.sessions, Covered.first holds.sessions held.known rfl, rfl, 1, held, ?_⟩
      exact ⟨fun _ => rfl, fun other => absurd rfl other⟩
  | succ index =>
      -- past the first message the client has joined the session
      have inside : world.file.position.sessionId = link.session := by
        by_contra outside
        cases joined outside
      have other : python.textOrEmpty (get body "t") ≠ "READY" := by
        rw [log] at found
        exact unready body (List.mem_of_getElem? found)
      have received : Received world.file.position link (index + 1 + 1) :=
        ⟨fun _ => sequence, fun outside => absurd inside outside⟩
      rcases handle_later memory other with ⟨free, goes⟩ | ⟨envelope, eventType, passes⟩ | raised
      · have settled := not_pending_of_unowed hand free
        rcases goes with ignored | kept
        · rw [ignored]
          exact ⟨holds.sessions, holds.covered.settled settled rfl rfl, same, _, held, received⟩
        · rw [kept]
          dsimp only [persisted]
          rw [same]
          exact ⟨holds.sessions, holds.covered.settled settled rfl rfl, rfl, _, held, received⟩
      · rw [passes]
        refine ⟨holds.sessions, holds.covered.mono rfl fun _ _ _ _ passed => ?_, same, ?_, inside⟩
        · rw [hand] at passed
          exact passed
        · exact ⟨held, sequence, _, rfl, found, joined⟩
      · rw [raised]
        exact holds.stop (careful raised)

theorem invariant_act {maxResumeAttempts : Nat} (holds : Invariant python world)
    (careful : ∀ memory resuming link message,
      world.phase = .linked memory resuming link (.received message) →
        handle python memory message.payload = .raise → ¬ Pending python world) :
    Invariant python (world.step python maxResumeAttempts .act) := by
  unfold World.step
  dsimp only
  split
  · next memory resuming link message phase =>
    cases message with
    | dispatch number body =>
        exact invariant_act_dispatch holds phase (careful _ _ _ _ phase)
    | control payload => exact invariant_act_control holds phase
  · exact holds

theorem invariant_callback {maxResumeAttempts : Nat} {returns : Bool}
    (holds : Invariant python world) (careful : returns = false → ¬ Pending python world) :
    Invariant python (world.step python maxResumeAttempts (.callback returns)) := by
  unfold World.step
  dsimp only
  split
  · next memory resuming link number body phase =>
    have stands := holds.stands
    rw [phase] at stands
    cases returns with
    | false => exact holds.stop (careful rfl)
    | true =>
        refine ⟨holds.sessions, holds.covered.mono rfl fun id other found _ passed => ?_, stands⟩
        rcases passed with done | hand
        · exact .inl (List.mem_cons_of_mem _ done)
        · rw [phase] at hand
          obtain ⟨rfl, rfl, rfl⟩ : link.session = id ∧ number = other ∧ body = found := by
            simpa [inHand] using hand
          exact .inl List.mem_cons_self
  · exact holds

theorem invariant_record {maxResumeAttempts : Nat} (holds : Invariant python world) :
    Invariant python (world.step python maxResumeAttempts .record) := by
  unfold World.step
  dsimp only
  split
  · next memory resuming link message phase =>
    have stands := holds.stands
    rw [phase] at stands
    have settled : ¬ Pending python world := not_pending_of_free (by rw [phase]; rfl)
    cases message with
    | dispatch number body =>
        obtain ⟨same, ⟨held, sequence, _⟩, inside⟩ := stands
        have covered : Covered python { world with
            file := persisted memory (memory.position.sessionId != "")
            phase := .linked memory resuming link .idle } world.file.position :=
          holds.covered.settled settled rfl rfl
        rw [← same] at covered sequence inside
        refine ⟨holds.sessions, covered, rfl, number, held, fun _ => sequence, fun outside => ?_⟩
        exact absurd inside outside
    | control payload => exact stands.2.elim
  · exact holds

theorem invariant_lose {maxResumeAttempts : Nat} (holds : Invariant python world) :
    Invariant python (world.step python maxResumeAttempts .lose) := by
  unfold World.step
  dsimp only
  split
  · next memory resuming link phase =>
    have stands := holds.stands
    rw [phase] at stands
    refine invariant_afterLink holds.sessions stands.1 ?_
    rw [stands.1]
    exact holds.covered.settled (not_pending_of_free (by rw [phase]; rfl)) rfl rfl
  · exact holds

theorem invariant_finish {maxResumeAttempts : Nat} (holds : Invariant python world) :
    Invariant python (world.step python maxResumeAttempts .finish) := by
  unfold World.step
  dsimp only
  split
  · next memory phase => exact holds.stop (not_pending_of_free (by rw [phase]; rfl))
  · next memory resuming link phase =>
    exact holds.stop (not_pending_of_free (by rw [phase]; rfl))
  · exact holds

end Steps

section Punctual

/-- The message that the client is about to receive, and the one that it acts on. -/
def nextMessage : Phase → Option (Memory × Message)
  | .linked memory _ ⟨_, message :: _⟩ .idle => some (memory, message)
  | _ => none

def messageAt : Phase → Option (Memory × Message)
  | .linked memory _ _ (.received message) => some (memory, message)
  | _ => none

def Action.raises : Action → Bool
  | .raise => true
  | _ => false

variable (python : Conversions) (maxResumeAttempts : Nat)

/-- The process does not end, by a crash or by an exception, where a dispatch in hand was never
passed on or in the middle of a write, and no message takes the number away while the client has
a session. -/
def Punctual (world : World) : Input → Prop
  | .receive => ∀ next ∈ nextMessage world.phase, ¬ NumberTaken next.1 next.2
  | .act => ∀ next ∈ messageAt world.phase,
      Action.raises (handle python next.1 next.2.payload) → ¬ Pending python world
  | .callback returns => returns = false → ¬ Pending python world
  | .crash => ¬ Pending python world
  | .crashWriting => world.writesNext python maxResumeAttempts = false
  | _ => True

variable {python}

theorem mem_numberedFrom {sent index : Nat} {log : List Dict} {body : Dict}
    (found : log[index]? = some body) :
    .dispatch (sent + index + 1) body ∈ numberedFrom sent log := by
  induction log generalizing sent index with
  | nil => cases found
  | cons first rest ih =>
      cases index with
      | zero =>
          obtain rfl := Option.some.inj found
          exact List.mem_cons_self
      | succ index =>
          have later : .dispatch (sent + 1 + index + 1) body ∈ numberedFrom (sent + 1) rest :=
            ih found
          have same : sent + 1 + index + 1 = sent + (index + 1) + 1 := by omega
          exact List.mem_cons_of_mem _ (same ▸ later)

/-- One punctual step keeps the invariant. -/
theorem invariant_step {maxResumeAttempts : Nat} (world : World) (input : Input)
    (holds : Invariant python world) (careful : Punctual python maxResumeAttempts world input) :
    Invariant python (world.step python maxResumeAttempts input) := by
  cases input with
  | start => exact invariant_start holds
  | connect id others => exact invariant_connect holds
  | connectFails => exact invariant_connectFails holds
  | send id body => exact invariant_send holds
  | control payload => exact invariant_control holds
  | receive =>
      refine invariant_receive holds fun memory resuming session message rest phase => ?_
      exact careful (memory, message) (by rw [phase]; rfl)
  | act =>
      refine invariant_act holds fun memory resuming link message phase raises => ?_
      exact careful (memory, message) (by rw [phase]; rfl) (by rw [raises]; rfl)
  | callback returns => exact invariant_callback holds careful
  | record => exact invariant_record holds
  | lose => exact invariant_lose holds
  | finish => exact invariant_finish holds
  | crash => exact holds.stop careful
  | crashWriting =>
      have idle : world.writesNext python maxResumeAttempts = false := careful
      rw [World.step, idle, if_neg (by decide)]
      exact holds

theorem invariant_fresh : Invariant python World.fresh :=
  ⟨fun _ known => absurd rfl known, .inl rfl, trivial⟩

end Punctual

end NeuroLink.GatewayResume
