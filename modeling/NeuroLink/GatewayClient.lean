import Mathlib.Logic.Function.Basic
import NeuroLink.QqOfficial

/-!
The client of the official QQ gateway and the gateway itself. The client runs through a
connection message by message and writes where it stands to its session state file; a new
process reads the file. The gateway numbers the dispatches of a session from one on, and after
a resume it sends those again whose numbers are above the given one.
-/

namespace NeuroLink.GatewayClient

open PyValue QqOfficial

/-- Where the client stands: `state["session_id"]` and `state["sequence"]`. -/
structure Position where
  sessionId : String
  sequence : Value

/-- The session state file, as `_load_gateway_session_state` gives it: a file that is not there
reads as one without a session. -/
structure SessionFile where
  position : Position
  canResume : Bool

/-- The entries of `state` that the client goes by. -/
structure Memory where
  position : Position
  canResume : Bool
  resumeAttemptCount : Nat

/-- What the gateway sends: a numbered dispatch of the session, or another message. -/
inductive Message where
  | dispatch (number : Nat) (body : Dict)
  | control (payload : Dict)

def Message.payload : Message → Dict
  | .dispatch number body => ("op", .int 0) :: ("s", .int number) :: body
  | .control payload => payload

def Message.isDispatch : Message → Bool
  | .dispatch _ _ => true
  | .control _ => false

/-- A connection: the session that the gateway serves on it, and what the client has not yet
received. -/
structure Link where
  session : String
  queue : List Message

inductive Work where
  | idle
  | received (message : Message)
  | calling (message : Message)
  | returned (message : Message)

inductive Phase where
  | stopped
  | waiting (memory : Memory)
  | linked (memory : Memory) (resuming : Bool) (link : Link) (work : Work)

/-- The gateway's sessions with their dispatches in order, the client with its file, and the
dispatches whose callback has returned. A torn file was truncated and never written again: it is
empty, and `file` is what it said before. -/
structure World where
  file : SessionFile
  torn : Bool
  sessions : String → List Dict
  ingested : List (String × Nat)
  phase : Phase

/-- No process has run and the gateway has no session. -/
def World.fresh : World := ⟨⟨⟨"", .none⟩, false⟩, false, fun _ => [], [], .stopped⟩

section Client

variable (python : Conversions) (maxResumeAttempts : Nat)

/-- `should_resume`. -/
def Memory.shouldResume (memory : Memory) : Bool :=
  memory.canResume && memory.position.sessionId != "" &&
    match memory.position.sequence with
    | .none => false
    | _ => true

/-- `persist_session_state`. -/
def persisted (memory : Memory) (canResume : Bool) : SessionFile := ⟨memory.position, canResume⟩

/-- What the client takes from the `s` field of a message, where there is one. -/
def Memory.numbered (memory : Memory) (payload : Dict) : Memory :=
  if (payload.lookup "s").isSome then
    { memory with position := { memory.position with sequence := get payload "s" } }
  else memory

/-- What a message makes the client do next. -/
inductive Action where
  | ignore
  | keep (memory : Memory)
  | leave (memory : Memory)
  | ingest (envelope : SocialMessageEnvelope) (eventType : String)
  | raise

/-- The branches on a message, from its `op` on. Where the state is kept or the connection
left, the file is written with the state's own `can_resume`. -/
def handle (memory : Memory) (payload : Dict) : Action :=
  match python.intOrZero (get payload "op") with
  | .error _ => .raise
  | .ok op =>
      if op = 7 then .leave { memory with canResume := true }
      else if op = 9 then
        .leave { memory with
          canResume := false, position := { memory.position with sessionId := "" } }
      else if op ≠ 0 then .ignore
      else if python.textOrEmpty (get payload "t") = "READY" then
        let sessionId := python.textOrEmpty (get (dictOrEmpty (get payload "d")) "session_id")
        .keep { memory with
          canResume := sessionId != "", position := { memory.position with sessionId } }
      else if python.textOrEmpty (get payload "t") = "RESUMED" then
        .keep { memory with canResume := true }
      else
        match qqOfficialExtractDispatchPayload python payload with
        | .error _ => .raise
        | .ok none => .ignore
        | .ok (some (eventType, event)) => .ingest (envelopeFromEvent python event) eventType

/-- After a connection: the client gives the session up once it has tried often enough. -/
def World.afterLink (world : World) (memory : Memory) (resuming : Bool) : World :=
  if resuming ∧ maxResumeAttempts ≤ memory.resumeAttemptCount then
    { world with file := persisted memory false, phase := .stopped }
  else { world with phase := .waiting memory }

end Client

/-! The gateway. -/

def numberedFrom (sent : Nat) : List Dict → List Message
  | [] => []
  | body :: rest => .dispatch (sent + 1) body :: numberedFrom (sent + 1) rest

def readyBody (id : String) (others : Dict) : Dict :=
  [("t", .str "READY"), ("d", .dict (("session_id", .str id) :: others))]

/-- What the gateway sends of a session after a resume from this number on. -/
def redelivered (log : List Dict) : Value → List Message
  | .int number => numberedFrom number.toNat (log.drop number.toNat)
  | _ => []

/-- The gateway sends a message to the client that is connected to the session. -/
def Phase.deliver (id : String) (message : Message) : Phase → Phase
  | .linked memory resuming link work =>
      if link.session = id then
        .linked memory resuming { link with queue := link.queue ++ [message] } work
      else .linked memory resuming link work
  | phase => phase

section Runs

variable (python : Conversions) (maxResumeAttempts : Nat)

/-- A message that is no dispatch has another operation, and no number: its `s` field is not
there or null. -/
def isControl (payload : Dict) : Bool :=
  (match get payload "s" with
    | .none => true
    | _ => false) &&
  match python.intOrZero (get payload "op") with
  | .ok 0 => false
  | _ => true

/-- What can happen: a process starts, connects or fails to; the gateway sends; the client
receives a message, acts on it, has its callback return or raise, and writes its file; the
connection is lost, the loop ends in time, or the process crashes, be it in the middle of a
write. -/
inductive Input where
  | start
  | connect (id : String) (others : Dict)
  | connectFails
  | send (id : String) (body : Dict)
  | control (payload : Dict)
  | receive
  | act
  | callback (returns : Bool)
  | record
  | lose
  | finish
  | crash
  | crashWriting

/-- The connection of a process that waits, to the session it resumes or to a new one. -/
def World.connect (world : World) (memory : Memory) (id : String) (others : Dict) : World :=
  if memory.shouldResume then
    let link : Link := ⟨memory.position.sessionId,
      redelivered (world.sessions memory.position.sessionId) memory.position.sequence⟩
    let memory := { memory with resumeAttemptCount := memory.resumeAttemptCount + 1 }
    { world with phase := .linked memory true link .idle }
  -- the gateway never gives an id twice
  else if id = "" ∨ world.sessions id ≠ [] then world
  else
    { world with
      sessions := Function.update world.sessions id [readyBody id others]
      phase := .linked memory false ⟨id, numberedFrom 0 [readyBody id others]⟩ .idle }

def World.act (world : World) (memory : Memory) (resuming : Bool) (link : Link)
    (message : Message) : World :=
  match handle python memory message.payload with
  | .ignore => { world with phase := .linked memory resuming link .idle }
  | .keep memory =>
      { world with
        file := persisted memory memory.canResume, phase := .linked memory resuming link .idle }
  | .leave memory =>
      { world with file := persisted memory memory.canResume }.afterLink maxResumeAttempts memory
        resuming
  | .ingest _ _ => { world with phase := .linked memory resuming link (.calling message) }
  | .raise => { world with phase := .stopped }

def World.writesNext (world : World) : Bool :=
  match world.phase with
  | .waiting memory => memory.shouldResume && maxResumeAttempts ≤ memory.resumeAttemptCount + 1
  | .linked memory resuming link .idle =>
      (resuming && maxResumeAttempts ≤ memory.resumeAttemptCount) ||
        link.queue.head?.any fun message => (message.payload.lookup "s").isSome
  | .linked memory _ _ (.received message) =>
      match handle python memory message.payload with
      | .keep _ | .leave _ => true
      | _ => false
  | .linked _ _ _ (.returned _) => true
  | _ => false

/-- What a process that starts reads from the file. -/
def World.loaded (world : World) : Memory := ⟨world.file.position, world.file.canResume, 0⟩

def World.step (world : World) : Input → World
  | .start =>
      match world.phase with
      -- an empty file is no JSON, so the process ends at once
      | .stopped => if world.torn then world else { world with phase := .waiting world.loaded }
      | _ => world
  | .connect id others =>
      match world.phase with
      | .waiting memory => world.connect memory id others
      | _ => world
  | .connectFails =>
      match world.phase with
      | .waiting memory =>
          if memory.shouldResume then
            world.afterLink maxResumeAttempts
              { memory with resumeAttemptCount := memory.resumeAttemptCount + 1 } true
          else world
      | _ => world
  | .send id body =>
      if world.sessions id = [] ∨ python.textOrEmpty (get body "t") = "READY" then world
      else
        let log := world.sessions id ++ [body]
        { world with
          sessions := Function.update world.sessions id log
          phase := world.phase.deliver id (.dispatch log.length body) }
  | .control payload =>
      match world.phase with
      | .linked _ _ link _ =>
          if isControl python payload then
            { world with phase := world.phase.deliver link.session (.control payload) }
          else world
      | _ => world
  | .receive =>
      match world.phase with
      | .linked memory resuming ⟨session, message :: rest⟩ .idle =>
          let numbered := memory.numbered message.payload
          { world with
            file := if (message.payload.lookup "s").isSome then
              persisted numbered (numbered.position.sessionId != "") else world.file
            phase := .linked numbered resuming ⟨session, rest⟩ (.received message) }
      | _ => world
  | .act =>
      match world.phase with
      | .linked memory resuming link (.received message) =>
          world.act python maxResumeAttempts memory resuming link message
      | _ => world
  | .callback returns =>
      match world.phase with
      | .linked memory resuming link (.calling (.dispatch number body)) =>
          if returns then
            { world with
              ingested := (link.session, number) :: world.ingested
              phase := .linked memory resuming link (.returned (.dispatch number body)) }
          else { world with phase := .stopped }
      | _ => world
  | .record =>
      match world.phase with
      | .linked memory resuming link (.returned _) =>
          { world with
            file := persisted memory (memory.position.sessionId != "")
            phase := .linked memory resuming link .idle }
      | _ => world
  | .lose =>
      match world.phase with
      | .linked memory resuming _ .idle => world.afterLink maxResumeAttempts memory resuming
      | _ => world
  | .finish =>
      match world.phase with
      | .waiting _ => { world with phase := .stopped }
      | .linked _ _ _ .idle => { world with phase := .stopped }
      | _ => world
  | .crash => { world with phase := .stopped }
  -- `write_text` truncates the file before it writes
  | .crashWriting =>
      if world.writesNext python maxResumeAttempts then
        { world with torn := true, phase := .stopped }
      else world

def World.run (world : World) (inputs : List Input) : World :=
  inputs.foldl (World.step python maxResumeAttempts) world

end Runs

end NeuroLink.GatewayClient
