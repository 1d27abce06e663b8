import ServiceDiscovery.Proofs.Declining
import ServiceDiscovery.Proofs.Peer

/-!
Start requests that the surroundings of the engine fail. A browse translates the errors of the
operating system, a registration those that are laid to the data of the service; what one of them
translates leaves the other one as it is, and then the call of the session as well.
-/
namespace ServiceDiscovery
namespace Multicast

def Failure.translated (f : Failure) : Call → Bool
  | .browse .. => f.isSystem
  | .register .. => f.blamesData
  | .resolve .. => false

def failureCode : Call → Int
  | .browse .. => ErrorCode.notRunning
  | _ => ErrorCode.badParam

namespace Engine
variable {e : Engine} {around : Surroundings} {f : Failure} {r : StartRequest}

def failure? (around : Surroundings) (e : Engine) : Call → Option Failure
  | .browse _ regtype domain =>
    (ServiceType.of? (some regtype) domain).toOption.bind fun _ => around.browserFault
  | .register _ name regtype domain port txt =>
    (ServiceType.of? (some regtype) domain).toOption.bind fun type =>
      around.infoFault (e.infoOf around type name port txt)
  | .resolve .. => none

/-- A failing call opens nothing and asks nothing of the network. It is refused just if the failure
is one that this call translates. -/
theorem start_failed (hf : e.failure? around r.call = some f) :
    ∃ what effects,
      e.start around r = (f.answer (f.translated r.call) (failureCode r.call) what, e, effects) ∧
      ∀ x ∈ effects, ∃ n, x = .notice n := by
  obtain ⟨call, replyTo⟩ := r
  cases call with
  | browse interfaceIndex regtype domain =>
    simp only [failure?] at hf
    cases hof : ServiceType.of? (some regtype) domain with
    | error refusal => simp [hof, Except.toOption] at hf
    | ok type =>
      simp only [hof, Except.toOption, Option.bind_some] at hf
      refine ⟨"browse failed: ", [.notice (.browsing type.full)], ?_, by simp⟩
      simp only [start, hof, startBrowse, hf, Failure.translated, failureCode]
  | resolve => cases hf
  | register interfaceIndex name regtype domain port txt =>
    simp only [failure?] at hf
    cases hof : ServiceType.of? (some regtype) domain with
    | error refusal => simp [hof, Except.toOption] at hf
    | ok type =>
      simp only [hof, Except.toOption, Option.bind_some] at hf
      refine ⟨"invalid service info: ", (addressesOf around e.settings.addresses).2, ?_, ?_⟩
      · simp only [start, hof, startRegister, hf, Failure.translated, failureCode]
      · unfold addressesOf
        split <;> simp

end Engine
end Multicast

open Multicast

namespace Peer
variable {p : Peer} {around : Surroundings} {f : Failure}

def Contains (p : Peer) (asked : StartRequest) (c : Client) (op : Operation) (o : Outcome)
    (r : Progress) : Prop :=
  r.peer.engine = p.engine ∧ p.loop.Declines [asked] c
    (.failed op (-1) (failureCode asked.call) (ErrorCode.message (failureCode asked.call)) true) o
    (r.peer.loop, r.outputs)

def Escapes (p : Peer) (asked : StartRequest) (f : Fault) (r : Progress) : Prop :=
  r.peer = p ∧ attempts r.outputs = [asked] ∧ openings r.outputs = [] ∧ invocations r.outputs = [] ∧
    outcomes r.outputs = [.error f]

theorem ask_failed {r : Request} {asked : StartRequest} (hask : p.loop.startRequest? r = some asked)
    (hf : p.engine.failure? around asked.call = some f) :
    ∃ what, (p.ask around r).1 = f.answer (f.translated asked.call) (failureCode asked.call) what ∧
      (p.ask around r).2.1 = p.engine := by
  obtain ⟨what, effects, hstart, -⟩ := Engine.start_failed hf
  have hanswer : p.ask around r =
      (f.answer (f.translated asked.call) (failureCode asked.call) what, p.engine, effects) := by
    simp only [ask, hask, hstart]
  exact ⟨what, by rw [hanswer], by rw [hanswer]⟩

theorem escapes_of_settle {r : Progress} {asked : StartRequest} {fault : Fault}
    (hidle : p.loop.isIdle = true) (hengine : r.peer.engine = p.engine)
    (hloop : (r.peer.loop, r.outputs) = p.loop.settle ⟨p.loop.session, p.loop.records,
      [.start asked (.raised fault)], .done (.error fault)⟩) :
    p.Escapes asked fault r := by
  rw [Loop.settle_done hidle] at hloop
  obtain ⟨hpeer, houtputs⟩ := Prod.mk.inj hloop
  rw [Escapes, houtputs]
  exact ⟨congrArg₂ Peer.mk hpeer hengine, rfl, rfl, rfl, rfl⟩

/-- A call that tells its client of a refusal and passes on what the engine raises, and that leaves
the session and the records as they are in both cases. -/
theorem call_failed {r : Request} {asked : StartRequest} {c : Client} {op : Operation} {o : Outcome}
    (turn : StartAnswer → Turn) (notice : Refusal → Notice) (hidle : p.loop.isIdle = true)
    (hask : p.loop.startRequest? r = some asked)
    (hturn : ∀ answer, p.loop.request {} r answer = p.loop.settle (turn answer))
    (hrefused : ∀ refusal, turn (.refused refusal) =
      ⟨p.loop.session, p.loop.records, [.start asked (.refused refusal), .notice (notice refusal)],
        .tell c (.failed op (-1) refusal.code (ErrorCode.message refusal.code) true) o⟩)
    (hraised : ∀ fault, turn (.raised fault) =
      ⟨p.loop.session, p.loop.records, [.start asked (.raised fault)], .done (.error fault)⟩)
    (hf : p.engine.failure? around asked.call = some f) :
    (f.translated asked.call = true → p.Contains asked c op o (p.call around r)) ∧
      (f.translated asked.call = false → p.Escapes asked f.fault (p.call around r)) := by
  obtain ⟨what, hanswer, hengine⟩ := ask_failed hask hf
  have hloop : ((p.call around r).peer.loop, (p.call around r).outputs) =
      p.loop.settle (turn (f.answer (f.translated asked.call) (failureCode asked.call) what)) := by
    rw [← hanswer, ← hturn]
    exact Loop.step_request hidle _ _
  constructor
  · intro hyes
    have hanswered : f.answer (f.translated asked.call) (failureCode asked.call) what =
        .refused _ := if_pos hyes
    rw [hanswered, hrefused] at hloop
    refine ⟨hengine, hloop ▸ Loop.declines_settle hidle ?_ ?_ ?_ ?_⟩ <;> rfl
  · intro hno
    have hanswered : f.answer (f.translated asked.call) (failureCode asked.call) what =
        .raised f.fault :=
      if_neg (by simp [hno])
    rw [hanswered, hraised] at hloop
    exact escapes_of_settle hidle hengine hloop

theorem browse_failed (hidle : p.loop.isIdle = true) (hopen : p.loop.session.closed = false)
    (k : Constraints) (c : Client)
    (hf : p.engine.failure? around (p.loop.session.browseRequest k).call = some f) :
    (f.isSystem = true → p.Contains (p.loop.session.browseRequest k) c .browse (.ok (some (-1)))
      (p.call around (.browse k c))) ∧
    (f.isSystem = false →
      p.Escapes (p.loop.session.browseRequest k) f.fault (p.call around (.browse k c))) := by
  refine call_failed (p.loop.session.browse p.loop.records k c)
    (.browseRefused p.loop.session.uuid (RegType.make k.transportCode k.subtype)) hidle ?_
    (fun _ => rfl) (fun refusal => ?_) (fun fault => ?_) hf
  · simp [Loop.startRequest?, hopen]
  · simp only [Session.browse, hopen, Bool.false_eq_true, if_false, List.singleton_append]
  · simp only [Session.browse, hopen, Bool.false_eq_true, if_false]

theorem announce_failed (hidle : p.loop.isIdle = true) (hopen : p.loop.session.closed = false)
    (a : Advertisement) (c : Client) {txt : Text.Octets}
    (hpacked : p.loop.session.packed p.loop.records a = .ok txt)
    (hf : p.engine.failure? around (p.loop.session.registerRequest a txt).call = some f) :
    (f.blamesData = true →
        p.Contains (p.loop.session.registerRequest a txt) c .register (.ok none)
          (p.call around (.announce a c))) ∧
    (f.blamesData = false →
      p.Escapes (p.loop.session.registerRequest a txt) f.fault
        (p.call around (.announce a c))) := by
  refine call_failed (p.loop.session.announce p.loop.records a c)
    (.registrationRefused p.loop.session.uuid (RegType.make a.transportCode a.subtype)) hidle ?_
    (fun _ => rfl) (fun refusal => ?_) (fun fault => ?_) hf
  · simp [Loop.startRequest?, hopen, hpacked]
  · simp only [Session.announce, hopen, Bool.false_eq_true, if_false, hpacked,
      List.singleton_append]
  · simp only [Session.announce, hopen, Bool.false_eq_true, if_false, hpacked]

/-- A start request that the surroundings fail opens nothing, asks nothing of the network and leaves
the session, the records and the engine as they were. A failure that the call translates is a
refusal: the client is told of one transient error, and then the call comes back. Any other one
leaves the call as it is, and nobody is told. A browse translates errors of the operating system, a
registration what is laid to the data of the service. -/
theorem start_failures (around : Surroundings) (p : Peer) (hidle : p.loop.isIdle = true)
    (hopen : p.loop.session.closed = false) (f : Failure) :
    (∀ r : StartRequest, p.engine.failure? around r.call = some f →
      (p.engine.start around r).2.1 = p.engine ∧
      (∀ x ∈ (p.engine.start around r).2.2, ∃ n, x = .notice n) ∧
      (f.translated r.call = true →
        ∃ message, (p.engine.start around r).1 = .refused ⟨failureCode r.call, message⟩) ∧
      (f.translated r.call = false → (p.engine.start around r).1 = .raised f.fault)) ∧
    (∀ k c, p.engine.failure? around (p.loop.session.browseRequest k).call = some f →
      (f.isSystem = true → p.Contains (p.loop.session.browseRequest k) c .browse (.ok (some (-1)))
        (p.call around (.browse k c))) ∧
      (f.isSystem = false →
        p.Escapes (p.loop.session.browseRequest k) f.fault (p.call around (.browse k c)))) ∧
    ∀ a c txt, p.loop.session.packed p.loop.records a = .ok txt →
      p.engine.failure? around (p.loop.session.registerRequest a txt).call = some f →
      (f.blamesData = true →
        p.Contains (p.loop.session.registerRequest a txt) c .register (.ok none)
          (p.call around (.announce a c))) ∧
      (f.blamesData = false →
        p.Escapes (p.loop.session.registerRequest a txt) f.fault
          (p.call around (.announce a c))) := by
  refine ⟨fun r hf => ?_, fun k c hf => browse_failed hidle hopen k c hf,
    fun a c txt hpacked hf => announce_failed hidle hopen a c hpacked hf⟩
  obtain ⟨what, effects, hstart, hnotices⟩ := Engine.start_failed hf
  rw [hstart]
  exact ⟨rfl, hnotices, fun hyes => ⟨_, if_pos hyes⟩, fun hno => if_neg (by simp [hno])⟩

def fresh : Peer := ⟨(History.start "A" {} false {}).loop, .sharing {}⟩

def failing (f : Failure) : Surroundings :=
  { host := ⟨"h", .ok []⟩, browserFault := some f, infoFault := fun _ => some f }

def networkDown : Failure := .system ⟨some 100, "network down"⟩

def tooLong : Failure := .badName "Too long"

theorem start_failures_networkDown :
    let r := fresh.call (failing networkDown) (.browse {} { ticket := 1 })
    r.peer.engine = fresh.engine ∧ r.peer.loop.records = fresh.loop.records ∧
    (invocations r.outputs).map (·.what) =
      [.failed .browse (-1) (-65563) (ErrorCode.message (-65563)) true] ∧
    outcomes (r.peer.loop.step {} (.finish false)).2 = [.ok (some (-1))] ∧
    fresh.Escapes (fresh.loop.session.registerRequest { port := 9, namePrefix := "/a" }
      [4, 112, 61, 47, 97])
      networkDown.fault (fresh.call (failing networkDown)
        (.announce { port := 9, namePrefix := "/a" } { ticket := 1 })) := by
  intro r
  obtain ⟨-, hbrowse, hannounce⟩ := start_failures (failing networkDown) fresh
    (by decide +kernel) (by decide +kernel) networkDown
  obtain ⟨hcontains, -⟩ := hbrowse {} { ticket := 1 } (by decide +kernel)
  obtain ⟨hengine, hdeclines⟩ := hcontains rfl
  obtain ⟨-, hescapes⟩ :=
    hannounce { port := 9, namePrefix := "/a" } { ticket := 1 } [4, 112, 61, 47, 97]
    (by decide +kernel) (by decide +kernel)
  refine ⟨hengine, hdeclines.records, ?_, ((hdeclines.backLater rfl).2 {} false).2, hescapes rfl⟩
  rw [hdeclines.told]
  rfl

/-- The name of a type may be too long for a browser, and describing a service may fail in the
system. -/
theorem not_start_failures_contained :
    (¬∀ (around : Surroundings) (p : Peer) (f : Failure) (k : Constraints) (c : Client),
      p.loop.isIdle = true → p.loop.session.closed = false → f.isSystem = true ∨
      f.blamesData = true →
      p.engine.failure? around (p.loop.session.browseRequest k).call = some f →
      p.Contains (p.loop.session.browseRequest k) c .browse (.ok (some (-1)))
        (p.call around (.browse k c))) ∧
    ¬∀ (around : Surroundings) (p : Peer) (f : Failure) (a : Advertisement) (c : Client)
      (txt : Text.Octets),
      p.loop.isIdle = true → p.loop.session.closed = false → f.isSystem = true ∨
      f.blamesData = true →
      p.loop.session.packed p.loop.records a = .ok txt →
      p.engine.failure? around (p.loop.session.registerRequest a txt).call = some f →
      p.Contains (p.loop.session.registerRequest a txt) c .register (.ok none)
        (p.call around (.announce a c)) := by
  constructor
  · intro hall
    obtain ⟨-, hdeclines⟩ := hall (failing tooLong) fresh tooLong {}
      { ticket := 1 } (by decide +kernel) (by decide +kernel) (.inr rfl) (by decide +kernel)
    have htold : (invocations (fresh.call (failing tooLong)
        (.browse {} { ticket := 1 })).outputs).length = 0 := by decide +kernel
    rw [hdeclines.told] at htold
    cases htold
  · intro hall
    obtain ⟨-, hdeclines⟩ := hall (failing networkDown) fresh
      networkDown { port := 9, namePrefix := "/a" } { ticket := 1 }
      [4, 112, 61, 47, 97] (by decide +kernel) (by decide +kernel) (.inl rfl) (by decide +kernel)
        (by decide +kernel)
    have htold : (invocations (fresh.call (failing networkDown)
        (.announce { port := 9, namePrefix := "/a" } { ticket := 1 })).outputs).length = 0 := by
      decide +kernel
    rw [hdeclines.told] at htold
    cases htold

end Peer
end ServiceDiscovery
