import ServiceDiscovery.Proofs.Endpoints

/-!
The thread of a registration beside those who close its endpoint: however their steps are mixed, a
service that was registered and whose endpoint was closed is withdrawn once.
-/
namespace ServiceDiscovery.Multicast

def Effect.withdrawing? : Effect → Option String
  | .call (.unregister name) => some name
  | _ => none

def withdrawing (effects : List Effect) : List String := effects.filterMap Effect.withdrawing?

theorem withdrawing_append (xs ys : List Effect) :
    withdrawing (xs ++ ys) = withdrawing xs ++ withdrawing ys :=
  List.filterMap_append

def verdictReply (name reply : String) : Verdict → Reply
  | .accepted => .register 2 0 (some name) (some reply) (some "local.")
  | .nameTaken => .register 0 (-65548) (some name) (some reply) (some "local.")
  | .failed _ => .register 0 (-65537) (some name) (some reply) (some "local.")

namespace Endpoint

inductive Registers (net : Network) (info : ServiceInfo) (name reply : String) (p : Endpoint) :
    Endpoint → List Effect → Prop
  | accepted (hwork : p.work = .ask) (hverdict : net.verdict info = .accepted) :
      Registers net info name reply p { p with work := .settle } [.call (.register info)]
  | rejected (v : Verdict) (notices : List Notice) (hwork : p.work = .ask)
      (hverdict : net.verdict info = v)
      (hrejected : v ≠ .accepted) :
      Registers net info name reply p { p with work := .answer (verdictReply name reply v) }
        (.call (.register info) :: notices.map .notice)
  | settled (hwork : p.work = .settle) (hopen : p.queue.closed = false) :
      Registers net info name reply p
        { p with registered := true, work := .answer (verdictReply name reply .accepted) } []
  | overtaken (hwork : p.work = .settle) (hclosed : p.queue.closed = true) :
      Registers net info name reply p { p with work := .withdraw } []
  | withdrawn (hwork : p.work = .withdraw) :
      Registers net info name reply p { p with work := .finished } [.call (.unregister info.name)]
  | answered (r : Reply) (queue : Queue Reply) (hwork : p.work = .answer r)
      (hopen : p.queue.closed = false)
      (hqueue : queue.Open) (hevents : queue.events = p.queue.events ++ [r]) :
      Registers net info name reply p { p with queue, work := .finished } []
  | unheard (r : Reply) (hwork : p.work = .answer r) (hclosed : p.queue.closed = true) :
      Registers net info name reply p { p with work := .finished } []
  | ended (hwork : p.work = .finished) : Registers net info name reply p p []

/-- The thread of a registration never fails: it posts to a queue that is open, or closed as a
whole. -/
theorem registers_workStep {p : Endpoint} {info : ServiceInfo} {name reply : String} (net : Network)
    (hp : p.purpose = .register info name reply) (hqueue : p.queue.Open ∨ p.queue.closed = true) :
    ∃ p' effects, p.workStep net = (none, p', effects) ∧
    Registers net info name reply p p' effects := by
  obtain ⟨replyTo, purpose, descriptor, sender, queue, work, registered⟩ := p
  obtain rfl : purpose = .register info name reply := hp
  cases work with
  | ask =>
    simp only [workStep, ask]
    cases hverdict : net.verdict info with
    | accepted => exact ⟨_, _, rfl, .accepted rfl hverdict⟩
    | nameTaken => exact ⟨_, _, rfl, .rejected .nameTaken [] rfl hverdict (by simp)⟩
    | failed why =>
      exact ⟨_, _, rfl, .rejected (.failed why) [.advertisingFailed name why]
        rfl hverdict (by simp)⟩
  | settle =>
    cases hclosed : queue.closed with
    | true => exact ⟨_, _, by simp only [workStep, hclosed, if_true], .overtaken rfl hclosed⟩
    | false =>
      refine ⟨_, _, ?_, .settled rfl hclosed⟩
      simp only [workStep, hclosed, Bool.false_eq_true, if_false]
      rfl
  | withdraw => exact ⟨_, _, rfl, .withdrawn rfl⟩
  | answer r =>
    simp only [workStep, post]
    obtain hopen | hclosed := hqueue
    · obtain ⟨queue', hpost, hqueue, hevents⟩ := hopen.post net.room r
      rw [hpost]
      exact ⟨_, _, rfl, .answered r queue' rfl hopen.closed hqueue hevents⟩
    · have hclosed : queue.closed = true := hclosed
      simp only [Queue.post, hclosed, if_true]
      exact ⟨_, _, rfl, .unheard r rfl hclosed⟩
  | finished => exact ⟨_, _, rfl, .ended rfl⟩

end Endpoint

structure Registering where
  endpoint : Endpoint
  /-- Closings that have shut the endpoint and not given back yet what it holds. -/
  closing : Nat := 0
  effects : List Effect := []
  deriving DecidableEq, Repr

namespace Registering

inductive Move
  | work | shut | giveBack
  deriving DecidableEq, Repr

def step (net : Network) (s : Registering) : Move → Registering
  | .work =>
    let (_, endpoint, effects) := s.endpoint.workStep net
    { s with endpoint, effects := s.effects ++ effects }
  | .shut =>
    let (first, endpoint) := s.endpoint.shut
    { s with endpoint, closing := if first then s.closing + 1 else s.closing }
  | .giveBack =>
    if s.closing = 0 then s
    else
      let (endpoint, effects) := s.endpoint.giveBack
      { endpoint, closing := s.closing - 1, effects := s.effects ++ effects }

def run (net : Network) (s : Registering) (moves : List Move) : Registering :=
  moves.foldl (step net) s

def begun (replyTo : ReplyTo) (info : ServiceInfo) (name reply : String) (descriptor sender : Int) :
    Registering :=
  { endpoint :=
      { replyTo, purpose := .register info name reply, descriptor, sender, work := .ask } }

theorem start_begun {e : Engine} {around : Surroundings} {interfaceIndex port d : Int}
    {name regtype : String} {domain : Option String} {txt : Text.Octets} {replyTo : ReplyTo}
    {h : Handle}
    (hstart : (e.start around ⟨.register interfaceIndex name regtype domain port txt, replyTo⟩).1 =
      .started h d) :
    ∃ info reply sender,
      (e.start around ⟨.register interfaceIndex name regtype domain port txt,
        replyTo⟩).2.1.endpoint? h =
        some (begun replyTo info name reply d sender).endpoint := by
  cases hof : ServiceType.of? (some regtype) domain with
  | error f => simp [Engine.start, hof] at hstart
  | ok type =>
    simp only [Engine.start, hof, Engine.startRegister] at hstart ⊢
    split at hstart
    · exact absurd hstart (Failure.answer_ne_started _ _ _ _ _ _)
    · obtain ⟨rfl, rfl⟩ := StartAnswer.started.inj hstart
      exact ⟨_, type.reply, _, List.getElem?_concat_length⟩

/-- The withdrawals to come: one by a closing if the service is marked as registered, one by the
thread between its first step and the end of that withdrawal. -/
def owed (p : Endpoint) : Nat :=
  (if p.registered then 1 else 0) + if p.work = .settle ∨ p.work = .withdraw then 1 else 0

structure Unasked (info : ServiceInfo) (name reply : String) (s : Registering) : Prop where
  purpose : s.endpoint.purpose = .register info name reply
  queue : s.endpoint.queue.Open ∨ s.endpoint.queue.closed = true
  work : s.endpoint.work = .ask
  effects : s.effects = []
  registered : s.endpoint.registered = false
  closed : 0 < s.closing → s.endpoint.queue.closed = true

structure Asked (net : Network) (info : ServiceInfo) (name reply : String) (s : Registering) :
    Prop where
  purpose : s.endpoint.purpose = .register info name reply
  queue : s.endpoint.queue.Open ∨ s.endpoint.queue.closed = true
  work : s.endpoint.work ≠ .ask
  asked : ∃ later, s.effects = .call (.register info) :: later
  /-- A service that was registered has been withdrawn or is owed a withdrawal, and only one of
  these. -/
  custody : (withdrawing s.effects).length + owed s.endpoint =
    if net.verdict info = .accepted then 1 else 0
  named : ∀ n ∈ withdrawing s.effects, n = info.name
  /-- While a shut endpoint is marked as registered, somebody who is closing it has not given back
  yet. -/
  handed : s.endpoint.registered = true → s.endpoint.queue.closed = true → 0 < s.closing
  /-- Withdrawing begins with shutting the endpoint. -/
  closed : s.endpoint.queue.closed = false →
    s.closing = 0 ∧ s.endpoint.work ≠ .withdraw ∧ withdrawing s.effects = []

section
variable {net : Network} {info : ServiceInfo} {name reply : String} {s : Registering}

theorem Asked.closed_of (hs : Asked net info name reply s)
    (h : ¬(s.closing = 0 ∧ s.endpoint.work ≠ .withdraw ∧ withdrawing s.effects = [])) :
    s.endpoint.queue.closed = true := by
  cases hclosed : s.endpoint.queue.closed with
  | true => rfl
  | false => exact absurd (hs.closed hclosed) h

theorem Asked.named_withdrawn (hs : Asked net info name reply s) :
    ∀ n ∈ withdrawing (s.effects ++ [.call (.unregister info.name)]), n = info.name := by
  intro n hn
  rw [withdrawing_append] at hn
  obtain hn | hn := List.mem_append.mp hn
  · exact hs.named n hn
  · simpa [withdrawing, Effect.withdrawing?] using hn

theorem unasked_begun (replyTo : ReplyTo) (descriptor sender : Int) :
    Unasked info name reply (begun replyTo info name reply descriptor sender) where
  purpose := rfl
  queue := .inl Queue.open_empty
  work := rfl
  effects := rfl
  registered := rfl
  closed h := absurd h (Nat.lt_irrefl 0)

theorem Unasked.work_step (hs : Unasked info name reply s) :
    Asked net info name reply (s.step net .work) := by
  obtain ⟨p', effects, hstep, hregisters⟩ := Endpoint.registers_workStep net hs.purpose hs.queue
  have hopen : s.endpoint.queue.closed = false → s.closing = 0 := fun h =>
    Nat.eq_zero_of_not_pos fun hc => by simp [hs.closed hc] at h
  simp only [step, hstep, hs.effects, List.nil_append]
  cases hregisters with
  | accepted hwork hverdict =>
    refine ⟨hs.purpose, hs.queue, by simp, ⟨[], rfl⟩, ?_, by simp [withdrawing,
      Effect.withdrawing?], by simp [hs.registered], fun h => ⟨hopen h, by simp, rfl⟩⟩
    simp [owed, withdrawing, Effect.withdrawing?, hs.registered, hverdict]
  | rejected v notices hwork hverdict hrejected =>
    have hnone : withdrawing (.call (.register info) :: notices.map .notice) = [] := by
      simp [withdrawing, Effect.withdrawing?]
    refine ⟨hs.purpose, hs.queue, by simp, ⟨_, rfl⟩, ?_, by simp [hnone], by simp [hs.registered],
      fun h => ⟨hopen h, by simp, hnone⟩⟩
    simp [owed, hnone, hs.registered, hverdict, hrejected]
  | settled hwork | overtaken hwork | withdrawn hwork | answered r queue hwork | unheard r hwork
    | ended hwork =>
    rw [hs.work] at hwork
    cases hwork

theorem Asked.work_step (hs : Asked net info name reply s) :
    Asked net info name reply (s.step net .work) := by
  obtain ⟨p', effects, hstep, hregisters⟩ := Endpoint.registers_workStep net hs.purpose hs.queue
  obtain ⟨later, hlater⟩ := hs.asked
  have hcustody := hs.custody
  have hone : (if net.verdict info = .accepted then 1 else 0) ≤ 1 := by split <;> omega
  simp only [step, hstep]
  cases hregisters with
  | accepted hwork | rejected v notices hwork => exact absurd hwork hs.work
  | settled hwork hopen =>
    obtain ⟨hclosing, -, hnone⟩ := hs.closed hopen
    refine ⟨hs.purpose, hs.queue, by simp, ⟨later, by simp [hlater]⟩, ?_, by simpa using hs.named,
      fun _ h => ?_, fun _ => ⟨hclosing, by simp, by simpa using hnone⟩⟩
    · simp [owed, hwork] at hcustody ⊢
      omega
    · rw [hopen] at h
      cases h
  | overtaken hwork hclosed =>
    refine ⟨hs.purpose, hs.queue, by simp, ⟨later, by simp [hlater]⟩, ?_, by simpa using hs.named,
      hs.handed, fun h => ?_⟩
    · simpa [owed, hwork] using hcustody
    · rw [hclosed] at h
      cases h
  | withdrawn hwork =>
    refine ⟨hs.purpose, hs.queue,
      by simp, ⟨_, by rw [hlater]; rfl⟩, ?_, hs.named_withdrawn, hs.handed,
      fun h => absurd hwork (hs.closed h).2.1⟩
    simp [owed, hwork, withdrawing, Effect.withdrawing?] at hcustody ⊢
    omega
  | answered r queue hwork hopen hqueue =>
    refine ⟨hs.purpose, .inl hqueue,
      by simp, ⟨later, by simp [hlater]⟩, ?_, by simpa using hs.named, fun _ h => ?_, fun _ => ?_⟩
    · simpa [owed, hwork] using hcustody
    · rw [hqueue.closed] at h
      cases h
    · obtain ⟨hclosing, -, hnone⟩ := hs.closed hopen
      exact ⟨hclosing, by simp, by simpa using hnone⟩
  | unheard r hwork hclosed =>
    refine ⟨hs.purpose, hs.queue, by simp, ⟨later, by simp [hlater]⟩, ?_, by simpa using hs.named,
      hs.handed, fun h => ?_⟩
    · simpa [owed, hwork] using hcustody
    · rw [hclosed] at h
      cases h
  | ended hwork =>
    simpa using hs

theorem step_shut (net : Network) (s : Registering) : s.step net .shut =
    if s.endpoint.queue.closed then s
    else { s with endpoint := { s.endpoint with queue := s.endpoint.queue.close },
                  closing := s.closing + 1 } := by
  simp only [step, Endpoint.shut]
  split
  · rename_i h
    simp
  · rfl

theorem Unasked.shut (hs : Unasked info name reply s) :
    Unasked info name reply (s.step net .shut) := by
  rw [step_shut]
  split
  · exact hs
  · exact ⟨hs.purpose, .inr rfl, hs.work, hs.effects, hs.registered, fun _ => rfl⟩

theorem Asked.shut (hs : Asked net info name reply s) :
    Asked net info name reply (s.step net .shut) := by
  rw [step_shut]
  split
  · exact hs
  · exact ⟨hs.purpose, .inr rfl, hs.work, hs.asked, hs.custody, hs.named,
      fun _ _ => Nat.succ_pos _, nofun⟩

theorem step_giveBack (hp : s.endpoint.purpose = .register info name reply) : s.step net .giveBack =
    if s.closing = 0 then s
    else if s.endpoint.registered then
      { endpoint := { s.endpoint with registered := false }, closing := s.closing - 1
        effects := s.effects ++ [.call (.unregister info.name)] }
    else { s with closing := s.closing - 1 } := by
  simp only [step, Endpoint.giveBack, hp]
  split
  · rfl
  · split
    · rfl
    · simp

theorem Unasked.giveBack (hs : Unasked info name reply s) :
    Unasked info name reply (s.step net .giveBack) := by
  rw [step_giveBack hs.purpose]
  split
  · exact hs
  · simp only [hs.registered, Bool.false_eq_true, if_false]
    exact ⟨hs.purpose, hs.queue, hs.work, hs.effects, hs.registered,
      fun h => hs.closed (by simp at h; omega)⟩

theorem Asked.giveBack (hs : Asked net info name reply s) :
    Asked net info name reply (s.step net .giveBack) := by
  rw [step_giveBack hs.purpose]
  split
  · exact hs
  rename_i hclosing
  have hclosed := hs.closed_of (fun h => hclosing h.1)
  split
  · rename_i hregistered
    obtain ⟨later, hlater⟩ := hs.asked
    have hcustody := hs.custody
    refine ⟨hs.purpose, hs.queue, hs.work, ⟨_, by rw [hlater]; rfl⟩, ?_, hs.named_withdrawn, nofun,
      fun h => ?_⟩
    · simp [owed, hregistered, withdrawing, Effect.withdrawing?] at hcustody ⊢
      omega
    · rw [hclosed] at h
      cases h
  · rename_i hregistered
    refine ⟨hs.purpose, hs.queue, hs.work, hs.asked, hs.custody, hs.named,
      fun h => absurd h hregistered,
      fun h => ?_⟩
    rw [hclosed] at h
    cases h

def Stands (net : Network) (info : ServiceInfo) (name reply : String) (s : Registering) : Prop :=
  Unasked info name reply s ∨ Asked net info name reply s

theorem Stands.purpose (hs : Stands net info name reply s) :
    s.endpoint.purpose = .register info name reply :=
  hs.elim (·.purpose) (·.purpose)

theorem Stands.queue (hs : Stands net info name reply s) :
    s.endpoint.queue.Open ∨ s.endpoint.queue.closed = true :=
  hs.elim (·.queue) (·.queue)

theorem Stands.step (hs : Stands net info name reply s) (m : Move) :
    Stands net info name reply (s.step net m) := by
  cases m with
  | work => exact .inr (hs.elim (·.work_step) (·.work_step))
  | shut => exact hs.imp (·.shut) (·.shut)
  | giveBack => exact hs.imp (·.giveBack) (·.giveBack)

theorem Stands.run (hs : Stands net info name reply s) (moves : List Move) :
    Stands net info name reply (s.run net moves) := by
  induction moves generalizing s with
  | nil => exact hs
  | cons m moves ih => exact ih (hs.step m)

theorem Stands.closed_step (hs : Stands net info name reply s) (m : Move) :
    (s.step net m).endpoint.queue.closed = true ↔ s.endpoint.queue.closed = true ∨ m = .shut := by
  cases m with
  | work =>
    obtain ⟨p', effects, hstep, hregisters⟩ := Endpoint.registers_workStep net hs.purpose hs.queue
    simp only [Registering.step, hstep]
    cases hregisters with
    | answered r queue hwork hopen hqueue => simp [hqueue.closed, hopen]
    | _ => simp
  | shut =>
    rw [step_shut]
    split
    · simpa
    · simp [Queue.close]
  | giveBack =>
    rw [step_giveBack hs.purpose]
    split
    · simp
    · split <;> simp

theorem Stands.closed_run (hs : Stands net info name reply s) (moves : List Move) :
    (s.run net moves).endpoint.queue.closed = true ↔ s.endpoint.queue.closed = true ∨
    .shut ∈ moves := by
  induction moves generalizing s with
  | nil => simp [Registering.run]
  | cons m moves ih =>
    have hrest := ih (hs.step m)
    rw [hs.closed_step, or_assoc, eq_comm (a := m), ← List.mem_cons] at hrest
    exact hrest

structure Answers (net : Network) (info : ServiceInfo) (name reply : String) (s : Registering) :
    Prop where
  answer : ∀ r, s.endpoint.work = .answer r → r = verdictReply name reply (net.verdict info)
  silent : s.endpoint.work ≠ .finished → s.endpoint.queue.events = []

theorem Answers.work_step (h : Answers net info name reply s) (hs : Stands net info name reply s) :
    Answers net info name reply (s.step net .work) := by
  obtain ⟨p', effects, hstep, hregisters⟩ := Endpoint.registers_workStep net hs.purpose hs.queue
  simp only [Registering.step, hstep]
  cases hregisters with
  | accepted hwork => exact ⟨by simp, fun _ => h.silent (by simp [hwork])⟩
  | rejected v notices hwork hverdict =>
    refine ⟨fun r hr => ?_, fun _ => h.silent (by simp [hwork])⟩
    cases hr
    rw [hverdict]
  | settled hwork hopen =>
    refine ⟨fun r hr => ?_, fun _ => h.silent (by simp [hwork])⟩
    cases hr
    obtain hs | hs := hs
    · simp [hs.work] at hwork
    · have hcustody := hs.custody
      simp only [owed, hwork] at hcustody
      by_cases hverdict : net.verdict info = .accepted
      · rw [hverdict]
      · simp [hverdict] at hcustody
  | overtaken hwork => exact ⟨by simp, fun _ => h.silent (by simp [hwork])⟩
  | withdrawn | answered | unheard => exact ⟨by simp, fun hfinished => absurd rfl hfinished⟩
  | ended => exact ⟨h.answer, h.silent⟩

theorem Stands.step_of_ne_work (hs : Stands net info name reply s) {m : Move} (hm : m ≠ .work) :
    (s.step net m).endpoint.work = s.endpoint.work ∧
      (s.step net m).endpoint.queue.events = s.endpoint.queue.events := by
  cases m with
  | work => exact absurd rfl hm
  | shut =>
    rw [step_shut]
    split <;> exact ⟨rfl, rfl⟩
  | giveBack =>
    rw [step_giveBack hs.purpose]
    split
    · exact ⟨rfl, rfl⟩
    · split <;> exact ⟨rfl, rfl⟩

theorem Answers.step (h : Answers net info name reply s) (hs : Stands net info name reply s)
    (m : Move) : Answers net info name reply (s.step net m) := by
  by_cases hm : m = .work
  · exact hm ▸ h.work_step hs
  · obtain ⟨hwork, hevents⟩ := hs.step_of_ne_work hm
    exact ⟨by rw [hwork]; exact h.answer, by rw [hwork, hevents]; exact h.silent⟩

theorem Answers.run (h : Answers net info name reply s) (hs : Stands net info name reply s)
    (moves : List Move) : Answers net info name reply (s.run net moves) := by
  induction moves generalizing s with
  | nil => exact h
  | cons m moves ih => exact ih (h.step hs m) (hs.step m)

theorem Answers.finish (h : Answers net info name reply s) (hs : Stands net info name reply s)
    (hbefore : s.endpoint.work ≠ .finished)
    (hafter : (s.step net .work).endpoint.work = .finished) :
    (s.step net .work).endpoint.queue.events =
      if s.endpoint.queue.closed then [] else [verdictReply name reply (net.verdict info)] := by
  have hsilent := h.silent hbefore
  obtain ⟨p', effects, hstep, hregisters⟩ := Endpoint.registers_workStep net hs.purpose hs.queue
  simp only [Registering.step, hstep] at hafter ⊢
  cases hregisters with
  | accepted | rejected | settled | overtaken => cases hafter
  | withdrawn hwork =>
    obtain hs | hs := hs
    · simp [hs.work] at hwork
    · have hclosed := hs.closed_of (fun h => h.2.1 hwork)
      simp [hclosed, hsilent]
  | answered r queue hwork hopen hqueue hevents => simp [hevents, hsilent, hopen, h.answer r hwork]
  | unheard r hwork hclosed => simp [hclosed, hsilent]
  | ended hwork => exact absurd hwork hbefore

theorem Stands.step_of_finished (hs : Stands net info name reply s)
    (hwork : s.endpoint.work = .finished) (m : Move) : (s.step net m).endpoint.work = .finished ∧
      (s.step net m).endpoint.queue.events = s.endpoint.queue.events := by
  by_cases hm : m = .work
  · subst hm
    simp [Registering.step, Endpoint.workStep, hwork]
  · obtain ⟨hsame, hevents⟩ := hs.step_of_ne_work hm
    exact ⟨hsame.trans hwork, hevents⟩

theorem Stands.run_of_finished (hs : Stands net info name reply s)
    (hwork : s.endpoint.work = .finished) (moves : List Move) :
    (s.run net moves).endpoint.queue.events = s.endpoint.queue.events := by
  induction moves generalizing s with
  | nil => rfl
  | cons m moves ih =>
    obtain ⟨hfinished, hevents⟩ := hs.step_of_finished hwork m
    exact (ih (hs.step m) hfinished).trans hevents

def remaining : Work → Nat
  | .ask => Endpoint.workLength
  | .settle => 2
  | .withdraw | .answer _ => 1
  | .finished => 0

theorem Stands.remaining_step (hs : Stands net info name reply s) (m : Move) :
    remaining (s.step net m).endpoint.work ≤ remaining s.endpoint.work - [m].count .work := by
  by_cases hm : m = .work
  · subst hm
    obtain ⟨p', effects, hstep, hregisters⟩ := Endpoint.registers_workStep net hs.purpose hs.queue
    simp only [Registering.step, hstep]
    cases hregisters <;> simp [remaining, Endpoint.workLength, *]
  · simp [(hs.step_of_ne_work hm).1, hm]

theorem Stands.remaining_run (hs : Stands net info name reply s) (moves : List Move) :
    remaining (s.run net moves).endpoint.work ≤ remaining s.endpoint.work - moves.count .work := by
  induction moves generalizing s with
  | nil => exact Nat.le_refl _
  | cons m moves ih =>
    have hfirst := hs.remaining_step m
    have hrest := ih (hs.step m)
    rw [← List.singleton_append, List.count_append]
    exact Nat.le_trans hrest (by omega)

theorem Stands.finished_of_count (hs : Stands net info name reply s) {moves : List Move}
    (hcount : Endpoint.workLength ≤ moves.count .work) :
    (s.run net moves).endpoint.work = .finished := by
  have hmost : remaining s.endpoint.work ≤ Endpoint.workLength := by
    cases s.endpoint.work <;> simp [remaining, Endpoint.workLength]
  have hleft := hs.remaining_run moves
  cases hwork : (s.run net moves).endpoint.work with
  | finished => rfl
  | _ =>
    rw [hwork] at hleft
    simp only [remaining, Endpoint.workLength] at hleft hmost hcount
    omega

/-- When all have finished, nothing is owed any more. -/
theorem Asked.withdrawing_eq (hs : Asked net info name reply s)
    (hwork : s.endpoint.work = .finished) (hclosing : s.closing = 0) : withdrawing s.effects =
      if net.verdict info = .accepted ∧ s.endpoint.queue.closed = true then [info.name]
      else [] := by
  have hcustody := hs.custody
  cases hclosed : s.endpoint.queue.closed with
  | false => simpa using (hs.closed hclosed).2.2
  | true =>
    have hregistered : s.endpoint.registered = false := by
      cases hregistered : s.endpoint.registered with
      | false => rfl
      | true => exact absurd hclosing (Nat.pos_iff_ne_zero.mp (hs.handed hregistered hclosed))
    simp only [owed, hregistered, hwork] at hcustody
    by_cases hverdict : net.verdict info = .accepted
    · obtain ⟨n, hn⟩ := List.length_eq_one_iff.mp (by simpa [hverdict] using hcustody)
      obtain rfl := hs.named n (by simp [hn])
      simp [hverdict, hn]
    · simpa [hverdict] using hcustody

theorem Asked.accepted_of_withdrawing (hs : Asked net info name reply s)
    (h : withdrawing s.effects ≠ []) : net.verdict info = .accepted := by
  have hcustody := hs.custody
  split at hcustody
  · assumption
  · have hpos := List.length_pos_iff.mpr h
    omega

/-- However the steps of its thread and of any number of closings are mixed, a service that was
registered is withdrawn by one of them if the endpoint was closed, and never else; and its thread
queues the outcome, unless the endpoint was closed before. -/
theorem withdrawn_once (net : Network) (replyTo : ReplyTo) (info : ServiceInfo)
    (name reply : String) (descriptor sender : Int) (moves : List Move) :
    let start := begun replyTo info name reply descriptor sender
    let s := start.run net moves
    (Endpoint.workLength ≤ moves.count .work → s.endpoint.work = .finished) ∧
    (withdrawing s.effects ≠ [] →
      net.verdict info = .accepted ∧ ∃ later, s.effects = .call (.register info) :: later) ∧
    (s.endpoint.work = .finished → s.closing = 0 → withdrawing s.effects =
      if net.verdict info = .accepted ∧ .shut ∈ moves then [info.name] else []) ∧
    (s.endpoint.work ≠ .finished → s.endpoint.queue.events = []) ∧
    ∀ before after, moves = before ++ .work :: after →
      (start.run net before).endpoint.work ≠ .finished →
      (start.run net (before ++ [.work])).endpoint.work = .finished →
      s.endpoint.queue.events =
        if .shut ∈ before then [] else [verdictReply name reply (net.verdict info)] := by
  intro start s
  have hstart : Stands net info name reply start := .inl (unasked_begun replyTo descriptor sender)
  have hanswers : Answers net info name reply start := ⟨nofun, fun _ => rfl⟩
  have hclosed (moves : List Move) : (start.run net moves).endpoint.queue.closed = true ↔
      .shut ∈ moves := by
    rw [hstart.closed_run]
    exact or_iff_right nofun
  refine ⟨fun hcount => ?_, fun hsome => ?_, fun hwork hclosing => ?_,
    (hanswers.run hstart moves).silent, fun before after hmoves hbefore hafter => ?_⟩
  · exact hstart.finished_of_count hcount
  · obtain hs | hs := hstart.run moves
    · simp [s, hs.effects, withdrawing] at hsome
    · exact ⟨hs.accepted_of_withdrawing hsome, hs.asked⟩
  · obtain hs | hs := hstart.run moves
    · rw [hs.work] at hwork
      cases hwork
    · exact (hs.withdrawing_eq hwork hclosing).trans (by simp only [hclosed])
  · have hs := hstart.run before
    have hrun : s = ((start.run net before).step net .work).run net after := by
      simp [s, hmoves, Registering.run]
    rw [Registering.run, List.foldl_append] at hafter
    rw [hrun, (hs.step .work).run_of_finished hafter,
      (hanswers.run hstart before).finish hs hbefore hafter]
    simp [hclosed]

end

def accepting : Network := ⟨fun _ => .missing, fun _ => .accepted, 1⟩

def offered : ServiceInfo :=
  ⟨"_ndn._udp.local.", "A._ndn._udp.local.", 6363, [], "host.local.", ["192.0.2.1"]⟩

def overtakenMoves : List Move := [.work, .shut, .work, .shut, .giveBack, .work]

def endedMoves : List Move := [.work, .work, .work, .shut, .giveBack]

theorem withdrawn_once_accepting :
    let start := begun .register offered "A" "_ndn._udp." 5 6
    let overtaken := start.run accepting overtakenMoves
    let ended := start.run accepting endedMoves
    withdrawing overtaken.effects = ["A._ndn._udp.local."] ∧ overtaken.endpoint.queue.events = [] ∧
    withdrawing ended.effects = ["A._ndn._udp.local."] ∧
    ended.endpoint.queue.events =
      [.register 2 0 (some "A") (some "_ndn._udp.") (some "local.")] := by
  intro start overtaken ended
  obtain ⟨-, -, hovertaken, -, hunheard⟩ :=
    withdrawn_once accepting .register offered "A" "_ndn._udp." 5 6 overtakenMoves
  obtain ⟨-, -, hended, -, hheard⟩ :=
    withdrawn_once accepting .register offered "A" "_ndn._udp." 5 6 endedMoves
  exact ⟨hovertaken (by decide +kernel) (by decide +kernel),
    hunheard [.work, .shut, .work, .shut, .giveBack] [] rfl (by decide +kernel) (by decide +kernel),
    hended (by decide +kernel) (by decide +kernel),
    hheard [.work, .work] [.shut, .giveBack] rfl (by decide +kernel) (by decide +kernel)⟩

end Registering
end ServiceDiscovery.Multicast
