import NeuroLink.CommandPresence
import NeuroLink.ReplyReading
import NeuroLink.WriteRefusals

/-!
Whether a write that the CLI repeats is applied once. The unit checks that a write carries an
idempotency key and never looks at it again, so a repeated write is carried out, or refused, by
the state it meets. It does no harm where its effect is there already, as with a stop of what is
stopped, or where it is refused and the refusal is lost.
-/

namespace NeuroLink.RetriedWrites

open CText Errno EffectProgram MemoryProgram RequestBridge Cbor QueryReplies PyValue RetriedCall
open WriteService ReplyReading WriteRefusals
open UpdateService (Config Request requestMetadata requestStartArgs)

/-- Whatever reaches the unit after it carried the write out has its effect already or is
refused, and after a success a refusal is lost. -/
def Careful (session : Session) (deliveries : List (Delivery Node Reception)) : Prop :=
  deliveries.Pairwise fun earlier later =>
    (Applied session.config session.write earlier →
      Repeats session.config session.write later ∨ Refused session.config session.write later) ∧
    (Succeeded session.config session.write earlier → later.heard = true →
      Repeats session.config session.write later)

/-- A retried write is applied once. -/
def WrittenOnce (session : Session) (course : Dict × List (Delivery Node Reception)) : Prop :=
  AppliedOnce (Applied session.config session.write) (Succeeded session.config session.write)
    EndsInError course

/-! A write that repeats its effect is answered with a success. -/

section Repeats

open AppCommand (CommandM)

variable {config : Config} {request : Request} {nowMs : Int} {world : World}

theorem stop_stopped {runtime : AppRuntime.Runtime} (stopped : IsStopped request runtime = true) :
    (AppRuntime.stop request.appId.text runtime).1 = 0 := by
  obtain ⟨named, rests⟩ := Bool.and_eq_true_iff.mp stopped
  obtain ⟨app, found, idle⟩ := (Option.any_eq_true _ _).mp rests
  have inactive : app.state ≠ .running ∧ app.state ≠ .suspended := by simpa using idle
  rw [AppRuntime.stop, if_neg (of_decide_eq_true named), found]
  dsimp only
  rw [AppRuntime.stopInternal, if_pos inactive]
  rfl

theorem finishCommand_accepts :
    Leads nowMs (fun _ after _ => ∃ json,
        after = [.accepted (AppCommand.commandReply config request []) json])
      (AppCommand.finishCommand config request 0) [] world :=
  fun _ => ⟨not_false, _, rfl⟩

theorem stop_accepts (stop : request.action = lit "stop")
    (holds : HoldsControl config request nowMs world.leases)
    (stopped : IsStopped request world.apps.unit.runtime = true) :
    Leads nowMs (fun _ after _ => ∃ json,
        after = [.accepted (AppCommand.commandReply config request []) json])
      (AppCommand.handleAppCommand config request) [] world := by
  have reserved : CommandRegistry.findCommand world.apps.registry request.appId.text
      request.action = .error (-einval) := by
    have refused : CommandRegistry.nameValid (lit "stop") = false := by decide
    simp [CommandRegistry.findCommand, stop, refused]
  have finds : Leads nowMs (fun found after left => after = [] ∧ left = world ∧
        found = .error (-einval))
      (AppCommand.perform (.findCommand request.appId.text request.action) :
        CommandM (Except Int CommandRegistry.Desc)) [] world :=
    fun _ => ⟨not_false, rfl, rfl, reserved⟩
  refine finds.seq fun found after left known => ?_
  obtain ⟨rfl, rfl, rfl⟩ := known
  refine requireControl_leads.seq fun held after left checked => ?_
  obtain ⟨same, granted, _⟩ := checked
  obtain ⟨rfl, rfl⟩ := granted holds
  have other : ¬ request.action = lit "start" := by
    rw [stop]
    decide
  rw [if_neg (by simp), if_neg other, if_pos stop]
  rw [← same] at stopped
  have stops : Leads nowMs (fun ret after _ => ret = 0 ∧ after = [])
      (AppCommand.perform (.service (.runtimeStop request.appId.text)) : CommandM Int)
      [] left := .perform fun _ => ⟨not_false, stop_stopped stopped, rfl⟩
  refine stops.seq fun ret after left worked => ?_
  obtain ⟨rfl, rfl⟩ := worked
  rw [if_pos rfl]
  have sets : Leads nowMs (fun _ after _ => after = [])
      (AppCommand.setAppEnabled request.appId.text false) [] left := fun _ => ⟨not_false, rfl⟩
  refine sets.seq fun _ after left unanswered => ?_
  subst unanswered
  exact finishCommand_accepts

theorem leaseAcquireRequest_ttl (longMax : Nat) (payload : Text) :
    0 < (leaseAcquireRequest longMax payload).ttlMs.toInt := by
  unfold leaseAcquireRequest
  dsimp only
  split
  · decide
  · next positive => exact Int32.lt_iff_toInt_lt.mp (Int32.not_le.mp positive)

/-- An acquire of the lease that is there renews it. -/
theorem acquire_renews {payload : Text} {leases : LeaseManager.Manager}
    (there : LeaseIsThere config nowMs payload leases = true) :
    let request := leaseAcquireRequest config.longMax payload
    (handleLeaseAcquire config payload nowMs leases).1 =
      .lease (LeaseManager.granted request.resource.text request.metadata
        request.ttlMs.toInt nowMs) true := by
  intro request
  obtain ⟨asks, held⟩ := Bool.and_eq_true_iff.mp there
  obtain ⟨⟨slot, lease⟩, there, same⟩ := (Option.any_eq_true _ _).mp held
  obtain ⟨id, holder⟩ := Bool.and_eq_true_iff.mp same
  have named : request.resource.text ≠ [] := of_decide_eq_true asks
  have sameId : lease.leaseId.text =
    (LeaseManager.requestedLeaseId request.metadata nowMs).text := of_decide_eq_true id
  have found : LeaseManager.findLeaseByResource (LeaseManager.pruneExpired leases nowMs)
    request.resource.text = some (slot, lease) := there
  have positive : ¬ (request.resource.text = [] ∨ request.ttlMs.toInt ≤ 0) :=
    not_or.mpr ⟨named, Int.not_le.mpr (leaseAcquireRequest_ttl config.longMax payload)⟩
  unfold handleLeaseAcquire
  dsimp only
  rw [if_neg named, acquire_pruned]
  have granted : (LeaseManager.acquire leases request.resource.text request.metadata
      request.ttlMs.toInt nowMs).1 = .ok ⟨LeaseManager.granted request.resource.text
        request.metadata request.ttlMs.toInt nowMs, none⟩ := by
    rw [LeaseManager.acquire, if_neg positive]
    dsimp only
    rw [found]
    dsimp only
    rw [if_pos sameId, if_pos holder]
  rw [granted]

end Repeats

section Success

variable {config : Config}

theorem leaseReply_plain {lease : LeaseManager.Lease} {requestId : Text}
    (expires : -(2 ^ 64) ≤ lease.expiresAtMs ∧ lease.expiresAtMs < 2 ^ 64) :
    PlainEntries (leaseReply config requestId lease true) where
  keys entry member := by
    simp only [leaseReply, envelope, List.mem_append, List.mem_cons, List.not_mem_nil, or_false,
      if_true] at member
    rcases member with ((rfl | rfl) | rfl | rfl | rfl | rfl | rfl) | rfl <;>
      exact ⟨_, by decide, rfl⟩
  values entry member := by
    simp only [leaseReply, envelope, List.mem_append, List.mem_cons, List.not_mem_nil, or_false,
      if_true] at member
    rcases member with ((rfl | rfl) | rfl | rfl | rfl | rfl | rfl) | rfl
    · exact ⟨by decide, by decide⟩
    · exact ⟨by decide, by decide⟩
    · trivial
    · trivial
    · trivial
    · trivial
    · trivial
    · exact expires

theorem appCommandReply_plain (reply : AppCommand.CommandReply) :
    PlainEntries (appCommandReply reply) where
  keys entry member := by
    simp only [appCommandReply, envelope, numbered, List.map_cons, List.map_nil, List.mem_append,
      List.mem_cons, List.not_mem_nil, or_false] at member
    rcases member with (rfl | rfl) | rfl | rfl | rfl | rfl | rfl | rfl | rfl | rfl <;>
      exact ⟨_, by decide, rfl⟩
  values entry member := by
    have trigger := And.intro reply.triggerEvery.le_toInt reply.triggerEvery.toInt_lt
    have published := And.intro reply.publishRet.le_toInt reply.publishRet.toInt_lt
    have count := reply.invokeCount.toNat_lt
    simp only [appCommandReply, envelope, numbered, List.map_cons, List.map_nil, List.mem_append,
      List.mem_cons, List.not_mem_nil, or_false] at member
    rcases member with (rfl | rfl) | rfl | rfl | rfl | rfl | rfl | rfl | rfl | rfl
    · exact ⟨by decide, by decide⟩
    · exact ⟨by decide, by decide⟩
    · trivial
    · trivial
    · constructor <;> omega
    · trivial
    · constructor <;> omega
    · trivial
    · constructor <;> omega
    · trivial

end Success

section Welcome

open CliQuery

variable {session : Session}

theorem leaseReply_short {requestId : Buffer 32} {lease : LeaseManager.Lease}
    (plain : PlainEntries (leaseReply session.config requestId.text lease true)) :
    (encode (.map (leaseReply session.config requestId.text lease true))).length ≤ maxCborLen := by
  have bound := plain.short
  have request := requestId.fits
  have id := lease.leaseId.fits
  have resource := lease.resource.fits
  have node := session.named
  have ok : (lit "ok").length = 2 := by decide
  simp only [leaseReply, envelope, putText, putNumber, put, if_true, List.cons_append,
    List.nil_append, List.map_cons, List.map_nil, List.sum_cons, List.sum_nil,
    List.length_cons, List.length_nil, weight, bytes_length, ok] at bound ⊢
  unfold maxCborLen
  omega

theorem leaseReply_status {requestId : Text} {lease : LeaseManager.Lease} :
    ∀ entry ∈ leaseReply session.config requestId lease true,
      keyName true entry.1 = some "status" → entry.2 = .text (bytes (lit "ok")) := by
  intro entry member named
  simp only [leaseReply, envelope, List.mem_append, List.mem_cons, List.not_mem_nil, or_false,
    if_true] at member
  rcases member with ((rfl | rfl) | rfl | rfl | rfl | rfl | rfl) | rfl
  case inl.inr.inl => rfl
  all_goals
    dsimp only [putText, putNumber, put, CborKey.number] at named
    exact absurd named (by decide)

theorem appCommandReply_status (reply : AppCommand.CommandReply) :
    ∀ entry ∈ appCommandReply reply,
      keyName true entry.1 = some "status" → entry.2 = .text (bytes (lit "ok")) := by
  intro entry member named
  simp only [appCommandReply, envelope, numbered, List.map_cons, List.map_nil, List.mem_append,
    List.mem_cons, List.not_mem_nil, or_false] at member
  rcases member with (rfl | rfl) | rfl | rfl | rfl | rfl | rfl | rfl | rfl | rfl
  all_goals
    dsimp only [putNumber, put, CborKey.number] at named
    exact absurd named (by decide)

theorem appCommandReply_short {reply : AppCommand.CommandReply}
    (short : reply.commandName.length + reply.eventName.length + reply.echo.length ≤ 67) :
    (encode (.map (appCommandReply reply))).length ≤ 256 := by
  have bound := (appCommandReply_plain reply).short
  simp only [appCommandReply, envelope, numbered, putNumber, put, List.cons_append,
    List.nil_append, List.map_cons, List.map_nil, List.sum_cons, List.sum_nil,
    List.length_cons, List.length_nil, weight, bytes_length] at bound ⊢
  omega

theorem repeats_settles {delivery : Delivery Node Reception}
    (repeats : Repeats session.config session.write delivery) (last : Bool) :
    ∃ result, session.link.settle (session.link.serve delivery.env delivery.state).1 last =
      some result ∧ ¬ EndsInError result := by
  -- what both kinds of a repeated success share: a reply of plain entries that says ok
  have settles : ∀ entries : List (Item × Item), PlainEntries entries →
      (encode (.map entries)).length ≤ 1024 →
      (∀ entry ∈ entries, keyName true entry.1 = some "status" →
        entry.2 = .text (bytes (lit "ok"))) →
      session.replies (serve session.config session.write delivery.env delivery.state).1 =
        [.ok (encode (.map entries))] →
      ∃ result, session.link.settle (session.link.serve delivery.env delivery.state).1 last =
        some result ∧ ¬ EndsInError result := by
    intro entries plain short status sent
    change ∃ result, settleAttempt session.repr (collectQueryResult session.loads session.keyexpr
      session.payload (.replied (session.replies (serve session.config session.write delivery.env
        delivery.state).1))) last = some result ∧ ¬ EndsInError result
    rw [sent]
    exact plain_settles plain (by omega) status last
  unfold Repeats at repeats
  cases write : session.write with
  | leaseAcquire payload requestId =>
      -- the lease that is there is renewed, and the reply tells of the renewed one
      rw [write] at repeats settles
      have renewed := acquire_renews repeats
      dsimp only at renewed
      have uptime := delivery.env.uptime
      have ttl := And.intro
        (leaseAcquireRequest session.config.longMax payload).ttlMs.le_toInt
        (leaseAcquireRequest session.config.longMax payload).ttlMs.toInt_lt
      have plain : PlainEntries (leaseReply session.config requestId.text (LeaseManager.granted
          (leaseAcquireRequest session.config.longMax payload).resource.text
          (leaseAcquireRequest session.config.longMax payload).metadata
          (leaseAcquireRequest session.config.longMax payload).ttlMs.toInt
          delivery.env.nowMs) true) := by
        refine leaseReply_plain ?_
        unfold LeaseManager.granted
        dsimp only
        constructor <;> omega
      have short := leaseReply_short plain
      refine settles _ plain short leaseReply_status ?_
      rw [serve, Session.replies]
      dsimp only
      rw [renewed, write, List.filterMap_cons, List.filterMap_nil]
      dsimp only [data, requestIdOf]
      rw [encodeInto, if_pos short]
      rfl
  | leaseRelease payload requestId =>
      -- a release repeats nothing, nor does any step of an update
      rw [write] at repeats
      exact repeats.elim
  | app request =>
      -- the application has stopped, and stopping it again is a success
      rw [write] at repeats settles
      obtain ⟨stop, holds, stopped⟩ := repeats
      obtain ⟨json, answered⟩ := (stop_accepts stop holds stopped).run delivery.env.outcomes
      have short : (encode (.map (appCommandReply
          (AppCommand.commandReply session.config request [])))).length ≤ 256 := by
        refine appCommandReply_short ?_
        have name : (AppCommand.commandReply session.config request []).commandName =
          lit "stop" := stop
        have event : (AppCommand.commandReply session.config request []).eventName =
          lit "callback" := rfl
        have echo : (AppCommand.commandReply session.config request []).echo =
          request.appId.text := rfl
        have fits := request.appId.fits
        rw [name, event, echo]
        have four : (lit "stop").length = 4 := by decide
        have eight : (lit "callback").length = 8 := by decide
        omega
      refine settles (appCommandReply (AppCommand.commandReply session.config request []))
        (appCommandReply_plain _) (by omega) (appCommandReply_status _) ?_
      rw [serve, Session.replies]
      dsimp only
      rw [answered, write, List.map_singleton, List.filterMap_cons, List.filterMap_nil]
      dsimp only [data, requestIdOf, Answer.ofCommand]
      rw [encodeInto, if_pos short]
      rfl
  | update request =>
      rw [write] at repeats
      exact repeats.elim

end Welcome

/-- A write whose effect is there runs no callback. -/
theorem repeats_undispatched {config : Config} {write : Write} {delivery : Delivery Node Reception}
    (repeats : Repeats config write delivery) : ¬ Dispatched config write delivery := by
  intro dispatched
  cases write with
  | app request =>
      obtain ⟨stop, holds, stopped⟩ := repeats
      obtain ⟨event, member, calls⟩ := dispatched
      exact (stop_accepts stop holds stopped).meets delivery.env.outcomes event member calls
  | leaseAcquire | leaseRelease | update => exact dispatched

/-- A retried write is applied once, and its repetition never turns the success into an error,
as long as nothing that reaches the unit after it was carried out does harm: a stop of what is
stopped, under the lease, an acquire of the lease that is there, or a refused write, whose
answer is lost where the first one succeeded. -/
theorem retried_write_applied_once (session : Session) (first : Passage Reception Silence)
    (state : Node) (later : List (Passage Reception Silence))
    (careful : Careful session (session.course first state later).2) :
    WrittenOnce session (session.course first state later) := by
  unfold Careful at careful
  unfold WrittenOnce
  rw [session.course_eq_call] at careful ⊢
  refine AppliedOnce.of_harmless (fun delivery idle applied => ?_)
    (fun delivery repeats => repeats_settles repeats) careful
  rcases idle with repeats | refused
  · rcases applied with succeeded | dispatched
    · exact succeeded.2 repeats
    · exact repeats_undispatched repeats dispatched
  · rcases applied with ⟨⟨answer, member, accepts⟩, _⟩ | dispatched
    · rw [refused_denied refused answer member] at accepts
      cases accepts
    · exact refused_undispatched refused dispatched

/-! A running application under a lease, and the writes of its holder. -/

section Demo

def demoPayload : Text :=
  lit ("\x7b\"request_id\":\"req-7\",\"source_core\":\"core\",\"source_agent\":\"agent\"," ++
    "\"lease_id\":\"lease-7\",\"idempotency_key\":\"idem-7\",\"priority\":5," ++
    "\"resource\":\"app/pump/control\"\x7d")

def demoRequest (action : String) : Request :=
  { UpdateWorld.demoRequest action "" with
    metadata := some (requestMetadataParse UpdateWorld.demoConfig.longMax demoPayload) }

/-- The application is installed, and the lease on its control acquired. -/
def demoNode : Node :=
  let device := AppCommand.after UpdateWorld.demoConfig CommandPresence.demoDevice
    (.update none [] :: CommandPresence.install [1, 1] AppRuntime.loadsWell)
  { memory := device.memory
    world := ⟨device.world,
      (handleLeaseAcquire UpdateWorld.demoConfig demoPayload 0 LeaseManager.init).2⟩ }

def demoSession (action : String) : Session where
  config := UpdateWorld.demoConfig
  named := by decide
  updateJson _ _ := []
  loads _ := none
  repr _ := ""
  keyexpr := "neuro/unit-01/cmd/app/pump/" ++ action
  payload := [("idempotency_key", .str "idem-7")]
  write := .app (demoRequest action)

def firstReception : Reception := ⟨1000, by decide, []⟩

def secondReception : Reception := ⟨2000, by decide, []⟩

def demoLater (action : String) : Node :=
  (serve UpdateWorld.demoConfig (.app (demoRequest action)) firstReception demoNode).2

theorem demo_course (action : String) :
    ((demoSession action).course (.unheard .noReply firstReception) demoNode
      [.heard secondReception]).2 =
      [⟨demoNode, firstReception, false⟩, ⟨demoLater action, secondReception, true⟩] := rfl

/-- A stop whose reply is lost is applied once, and reported as done. -/
theorem retried_stop_applied_once :
    WrittenOnce (demoSession "stop") ((demoSession "stop").course
      (.unheard .noReply firstReception) demoNode [.heard secondReception]) := by
  refine retried_write_applied_once (demoSession "stop") _ _ _ ?_
  unfold Careful
  rw [demo_course]
  have repeats : Repeats (demoSession "stop").config (demoSession "stop").write
      ⟨demoLater "stop", secondReception, true⟩ := ⟨rfl, by decide +kernel⟩
  exact List.pairwise_pair.mpr ⟨fun _ => .inl repeats, fun _ _ => repeats⟩

/-- A command of the application runs a second time when the reply to the first is lost. -/
theorem retried_invoke_applied_twice :
    ¬ ∀ (session : Session) (first : Passage Reception Silence) (state : Node)
      (later : List (Passage Reception Silence)),
      WrittenOnce session (session.course first state later) := by
  intro claimed
  have once := (claimed (demoSession "invoke") (.unheard .noReply firstReception) demoNode
    [.heard secondReception]).once
  rw [demo_course] at once
  have accepted : ∀ delivery ∈ [⟨demoNode, firstReception, false⟩,
      (⟨demoLater "invoke", secondReception, true⟩ : Delivery Node Reception)],
      (serve UpdateWorld.demoConfig (.app (demoRequest "invoke")) delivery.env
        delivery.state).1.any Answer.accepts = true := by
    decide +kernel
  have applied : ∀ delivery ∈ [⟨demoNode, firstReception, false⟩,
      (⟨demoLater "invoke", secondReception, true⟩ : Delivery Node Reception)],
      Applied UpdateWorld.demoConfig (.app (demoRequest "invoke")) delivery := by
    intro delivery member
    refine .inl ⟨List.any_eq_true.mp (accepted delivery member), fun repeats => ?_⟩
    have stop : lit "invoke" = lit "stop" := repeats.1
    exact absurd stop (by decide)
  exact List.pairwise_pair.mp once (applied _ List.mem_cons_self)
    (applied _ (List.mem_cons_of_mem _ List.mem_cons_self))

end Demo

end NeuroLink.RetriedWrites
