import ServiceDiscovery.Proofs.Closing
import ServiceDiscovery.Proofs.Passing
import ServiceDiscovery.Proofs.Transcript

/-!
A run that announces, step by step. It agrees with what it has printed: its client is told one thing
at most, and an error stops it. It agrees with the codes of its waiting calls: it goes on only as
long as they are zero, and a run that is to end has the status that its lines and codes call for.
-/
namespace ServiceDiscovery

theorem Loop.settle_of_done {l : Loop} {t : Turn} {o : Outcome} (hl : l.isIdle = true)
    (ht : t.next = .done o) :
    l.settle t = (⟨t.session, t.records, l.stack⟩, t.outputs ++ [.returned o]) := by
  have hturn : t = ⟨t.session, t.records, t.outputs, .done o⟩ := by rw [← ht]
  rw [hturn, settle_done hl]

theorem Loop.settle_of_notify {l : Loop} {t : Turn} {i : Invocation} {o : Outcome}
    (ht : t.next = .notify i o) :
    l.settle t = (⟨t.session, t.records, .notifying i o :: l.stack⟩, t.outputs ++ [.invoke i]) := by
  rw [settle, ht]

theorem Multiplexer.wait_eq_error {m : Multiplexer} {timeoutMs : Int} {reported : List Int}
    {fault : Option Fault} {f : Fault} (h : m.wait timeoutMs reported fault = .error f) :
    f = .waitTooLong ∧ timeLimit ≤ timeoutMs.natAbs ∨ fault = some f := by
  unfold wait at h
  split at h
  · cases h
  · split at h
    · rename_i hlong
      exact .inl ⟨(Except.error.inj h).symm, hlong⟩
    · cases fault with
      | some f' => exact .inr (congrArg some (Except.error.inj h))
      | none => cases h

namespace Command
open ServiceDiscovery.Settings

structure Plan.Announces (p : Plan) : Prop where
  action : p.action = .announce
  given : p.ownsProvider = false

/-- A time of the plan is too large for a double. -/
def Plan.Overlong (p : Plan) : Prop :=
  timeLimit ≤ (Run.cycleMs p).natAbs ∨ timeLimit ≤ p.exitAfterMs.toNat

def Input.WaitRaises (i : Input) (f : Fault) : Prop :=
  (∃ reported, i = .world (.waited reported (some f))) ∧ ∀ e, f ≠ .system e

/-- How a run may end, by the status that it calls for: with this status, or, where nothing went
wrong before, with the fault of a time that is too large or with one of those that waits raise. -/
def Plan.EndsWith (p : Plan) (waits : Fault → Prop) (status : Int) (e : Ending) : Prop :=
  e = .exit status ∨
    ∃ f, e = .escaped f ∧ status = 0 ∧ (f = .waitTooLong ∧ p.Overlong ∨ waits f)

/-- The provider refuses and handles break, but nothing else is raised by them, and closing a handle
raises errors of the system only. -/
structure Ordinary (faults : CloseFaults) (i : Input) : Prop where
  closing : ∀ h f, faults.handle h = some f → ∃ e, f = .system e
  started : ∀ now f, i ≠ .proceed now (.raised f)
  pumped : ∀ f, i = .world (.pumped (.raised f)) → ∃ r, f = .refused r

def Input.isCalm : Input → Bool
  | .proceed _ (.raised _) => false
  | .world (.pumped (.raised _)) => false
  | _ => true

theorem ordinary_of_isCalm {i : Input} (h : i.isCalm = true) : Ordinary {} i where
  closing := nofun
  started := by
    rintro now f rfl
    cases h
  pumped := by
    rintro f rfl
    cases h

theorem ordinary_of_calm {xs : List (CloseFaults × Input)}
    (h : ∀ x ∈ xs, x.1 = {} ∧ x.2.isCalm = true) : ∀ x ∈ xs, Ordinary x.1 x.2 := by
  intro x hx
  obtain ⟨hfaults, hcalm⟩ := h x hx
  rw [hfaults]
  exact ordinary_of_isCalm hcalm

def Stage.ending? : Stage → Option Ending
  | .leaving e => some e
  | .ended e => some e
  | _ => none

def Stage.ended? : Stage → Option Ending
  | .ended e => some e
  | _ => none

def Stage.isUnderWay : Stage → Bool
  | .asked => true
  | .resting _ => true
  | .cycling _ => true
  | _ => false

theorem Stage.ending?_of_underWay {stage : Stage} (h : stage.isUnderWay = true) :
    stage.ending? = none := by
  cases stage with
  | leaving | ended => cases h
  | _ => rfl

theorem Stage.ne_opening_of_underWay {stage : Stage} (h : stage.isUnderWay = true) :
    stage ≠ .opening := by
  rintro rfl
  cases h

theorem Stage.ended?_of_ending? {stage : Stage} (h : stage.ending? = none) :
    stage.ended? = none := by
  cases stage with
  | leaving | ended => cases h
  | _ => rfl

namespace Run

/-- What a run that announces is at, beside the calls of the loop that have not come back. It does
not begin to wait once it has failed. -/
inductive Aligned (cycleMs : Int) : Bool → Stage → List Duty → List Frame → Prop
  | opening {failed} : Aligned cycleMs failed .opening [] []
  | rejected (i : Invocation) : Aligned cycleMs true .asked [.finish false]
      [.notifying i (.ok none)]
  | resting {failed} (deadline : Option Rat) : Aligned cycleMs failed (.resting deadline) [] []
  | waiting (deadline : Option Rat) : Aligned cycleMs false (.cycling deadline) []
      [.waiting cycleMs]
  | pumping {failed} (deadline : Option Rat) (descriptor : Int) (h : Handle)
      (rest : List (Int × Handle)) :
      Aligned cycleMs failed (.cycling deadline) [] [.pumping descriptor h, .passing cycleMs rest]
  | telling {failed} (deadline : Option Rat) (i : Invocation) (descriptor : Int) (h : Handle)
      (rest : List (Int × Handle)) : Aligned cycleMs failed (.cycling deadline) [.finish false]
        [.notifying i (.ok none), .pumping descriptor h, .passing cycleMs rest]
  | leaving {failed} (e : Ending) : Aligned cycleMs failed (.leaving e) [] []
  | ended {failed} (e : Ending) : Aligned cycleMs failed (.ended e) [] []

def OneVerdict (ls : List String) : Prop :=
  ls = [] ∨ ∃ line, ls = [line] ∧ isRegistered line = !isError line

structure Consistent (r : Run) (ls : List String) : Prop where
  announces : r.plan.Announces
  aligned : Aligned (cycleMs r.plan) r.failed r.stage r.duties r.loop.stack
  solo : r.stage.ended? = none → r.loop.session.Solo r.loop.records client
  told : r.stage.ended? = none → ls ≠ [] → r.loop.session.waiting = []
  fresh : r.stage = .opening → r.loop.session.registration = none ∧ ls = []
  verdict : OneVerdict ls
  failed : r.failed = ls.any isError
  stopped : r.failed = true → r.stopped = true

/-- A stage after these lines, codes and exits: until the run is to end every code is zero, and then
it ends as they call for. -/
structure Accounted (p : Plan) (waits : Fault → Prop) (stage : Stage) (ls : List String)
    (cs : List Int) (es : List Ending) : Prop where
  ending : ∀ e, stage.ending? = some e → p.EndsWith waits (exitStatus cs ls) e
  codes : stage.ending? = none → ∀ c ∈ cs, c = 0
  endings : es = stage.ended?.toList

namespace Accounted
variable {p : Plan} {waits : Fault → Prop} {stage : Stage} {ls : List String} {cs : List Int}
  {es : List Ending} {e : Ending}

theorem going (hstage : stage.ending? = none) (hzero : ∀ c ∈ cs, c = 0) (hes : es = []) :
    Accounted p waits stage ls cs es where
  ending e he := absurd (hstage.symm.trans he) (Option.some_ne_none e).symm
  codes _ := hzero
  endings := by
    rw [hes, Stage.ended?_of_ending? hstage]
    rfl

theorem leaving (hends : p.EndsWith waits (exitStatus cs ls) e) :
    Accounted p waits (.leaving e) ls cs [] where
  ending _ he := Option.some.inj he ▸ hends
  codes he := absurd he (Option.some_ne_none e)
  endings := rfl

theorem ended (hends : p.EndsWith waits (exitStatus cs ls) e) :
    Accounted p waits (.ended e) ls cs [e] where
  ending _ he := Option.some.inj he ▸ hends
  codes he := absurd he (Option.some_ne_none e)
  endings := rfl

end Accounted

structure Faithful (waits : Fault → Prop) (r : Run) (ls : List String) (cs : List Int)
    (es : List Ending) : Prop where
  consistent : r.Consistent ls
  accounted : Accounted r.plan waits r.stage ls cs es

def Leads (waits : Fault → Prop) (ls : List String) (cs : List Int) (es : List Ending)
    (x : Run × List Event) : Prop :=
  Faithful waits x.1 (ls ++ lines x.2) (cs ++ codes x.2) (es ++ endings x.2)

variable {waits : Fault → Prop} {faults : CloseFaults} {r : Run} {ls : List String} {cs : List Int}
  {es : List Ending} {os later : List Output} {m : Move} {deadline : Option Rat}

theorem leads_of_quiet {events : List Event} (hl : lines events = []) (he : endings events = []) :
    Leads waits ls cs es (r, events) ↔ Faithful waits r ls (cs ++ codes events) es := by
  simp [Leads, hl, he]

theorem leads_of_silent {events : List Event} (hl : lines events = []) (hc : codes events = [])
    (he : endings events = []) : Leads waits ls cs es (r, events) ↔ Faithful waits r ls cs es := by
  rw [leads_of_quiet hl he, hc, List.append_nil]

theorem leads_nil : Leads waits ls cs es (r, []) ↔ Faithful waits r ls cs es :=
  leads_of_silent rfl rfl rfl

theorem leads_cons {x : Run × List Event} {e : Event} (hl : e.line? = none) (hc : e.code? = none)
    (he : e.ending? = none) : Leads waits ls cs es (x.1, e :: x.2) ↔ Leads waits ls cs es x := by
  simp [Leads, lines, codes, endings, hl, hc, he]

theorem leads_absorb (os : List Output) (hi : invocations os = []) (ho : outcomes os = []) :
    Leads waits ls cs es (r.absorb (os ++ later)) ↔ Leads waits ls cs es (r.absorb later) := by
  rw [absorb_append_of_quiet r hi ho]
  simp [Leads, lines_session, endings_session, codes_session ho]

theorem leads_absorb_quiet (hi : invocations os = []) (ho : outcomes os = []) :
    Leads waits ls cs es (r.absorb os) ↔ Faithful waits r ls cs es := by
  rw [← List.append_nil os, leads_absorb os hi ho]
  exact leads_nil

theorem move_eq {l : Loop} (h : r.loop.step faults m = (l, os)) :
    r.move faults m = { r with loop := l }.absorb os := by
  rw [move, h]

theorem rest_cases (r : Run) : (∃ deadline, r.rest = { r with stage := .resting deadline }) ∨
    r.rest = { r with stage := .leaving (.escaped .waitTooLong) } ∧
    timeLimit ≤ r.plan.exitAfterMs.toNat := by
  unfold rest
  split
  · exact .inl ⟨none, rfl⟩
  · split
    · rename_i hlong
      exact .inr ⟨rfl, hlong⟩
    · exact .inl ⟨_, rfl⟩

theorem absorb_started (hstage : r.stage = .asked) (hduties : r.duties = [])
    (hfailed : r.failed = false) :
    r.absorb [.returned (.ok none)] = (r.rest, [.session (.returned (.ok none))]) := by
  simp [absorb, returned, hstage, hduties, hfailed]

theorem move_close (faults : CloseFaults) {e : Ending} (hstage : r.stage = .leaving e)
    (hduties : r.duties = []) (hstack : r.loop.stack = []) (hopen : r.loop.session.closed = false) :
    ∃ loop os, loop.stack = [] ∧ outcomes os = [] ∧
      r.move faults (.request .close (.refused ⟨ErrorCode.noError, ""⟩)) =
        ({ r with loop }, os.map Event.session ++ [Event.session (.returned (.ok none))]) := by
  obtain ⟨os, mux, hturn, -, -, hos⟩ := Session.close_of_open faults r.loop.records hopen
  have hquiet := Session.outcomes_close faults r.loop.session r.loop.records
  rw [hturn] at hquiet
  have hidle : r.loop.isIdle = true := by simp [Loop.isIdle, hstack]
  let l : Loop := (r.loop.settle (r.loop.session.close faults r.loop.records)).1
  have hstep : r.loop.step faults (.request .close (.refused ⟨ErrorCode.noError, ""⟩)) =
      (l, os ++ [Output.returned (.ok none)]) := by
    rw [Loop.step_request hidle, Loop.request]
    simp only [l, hturn, Loop.settle_done hidle]
  have hlstack : l.stack = [] := by
    simp only [l, hturn, Loop.settle_done hidle, hstack]
  refine ⟨l, os, hlstack, hquiet, ?_⟩
  rw [move_eq hstep, absorb_append_of_quiet _ hos.invocations hquiet]
  simp [absorb, returned, hstage, hduties]

theorem close_eq (faults : CloseFaults) {e : Ending} (hstage : r.stage = .leaving e)
    (hduties : r.duties = []) (hstack : r.loop.stack = []) (hopen : r.loop.session.closed = false)
    (hgiven : r.plan.ownsProvider = false) :
    ∃ loop events, r.close faults e = ({ r with loop, stage := .ended e }, events) ∧
    loop.stack = [] ∧
      lines events = [] ∧ codes events = [] ∧ endings events = [e] := by
  obtain ⟨l, os, hlstack, hquiet, hmove⟩ := move_close faults hstage hduties hstack hopen
  have hclose : r.close faults e = ({ r with loop := l, stage := .ended e },
      os.map Event.session ++ [Event.session (.returned (.ok none))] ++
        [Event.restoreSignals, .ended e]) := by
    simp [close, hmove, closeProvider, hgiven]
  refine ⟨l, _, hclose, hlstack, ?_, ?_, ?_⟩
  · rw [lines_append, lines_append, lines_session]
    rfl
  · rw [codes_append, codes_append, codes_session hquiet]
    rfl
  · rw [endings_append, endings_append, endings_session]
    rfl

namespace Consistent

theorem restage (h : r.Consistent ls) {loop : Loop} {stage : Stage} {duties : List Duty}
    (haligned : Aligned (cycleMs r.plan) r.failed stage duties loop.stack)
    (hopening : stage ≠ .opening) (hsolo : loop.session.Solo loop.records client)
    (htold : ls ≠ [] → loop.session.waiting = []) :
    Consistent { r with loop, stage, duties } ls where
  announces := h.announces
  aligned := haligned
  solo _ := hsolo
  told _ := htold
  fresh hstage := absurd hstage hopening
  verdict := h.verdict
  failed := h.failed
  stopped := h.stopped

theorem elapse (h : r.Consistent ls) (now : Rat) : Consistent { r with now } ls :=
  ⟨h.announces, h.aligned, h.solo, h.told, h.fresh, h.verdict, h.failed, h.stopped⟩

theorem interrupt (h : r.Consistent ls) : Consistent { r with stopped := true } ls :=
  ⟨h.announces, h.aligned, h.solo, h.told, h.fresh, h.verdict, h.failed, fun _ => rfl⟩

theorem close (h : r.Consistent ls) (hduties : r.duties = []) {loop : Loop}
    (hstack : loop.stack = []) (e : Ending) : Consistent { r with loop, stage := .ended e } ls where
  announces := h.announces
  aligned := hduties ▸ hstack ▸ .ended e
  solo := nofun
  told := nofun
  fresh := nofun
  verdict := h.verdict
  failed := h.failed
  stopped := h.stopped

theorem print (h : r.Consistent []) {loop : Loop} {stage : Stage} {what : Notification}
    (hv : Verdict what)
    (haligned : Aligned (cycleMs r.plan) (isFailure r.plan what) stage [.finish false] loop.stack)
    (hduties : r.duties = []) (hsolo : loop.session.Solo loop.records client)
    (htold : loop.session.waiting = []) :
    Consistent ({ r with loop, stage }.told what).1
      (lines ({ r with loop, stage }.told what).2) := by
  obtain ⟨hline, hfailure⟩ := verdict_lineOf { r with loop, stage } h.announces.action hv
  have hbefore : r.failed = false := h.failed
  have hnow : (r.failed || isFailure r.plan what) = isFailure r.plan what := by
    rw [hbefore, Bool.false_or]
  rw [told_verdict (r := { r with loop, stage }) hduties hv]
  constructor
  · exact h.announces
  · show Aligned (cycleMs r.plan) (r.failed || isFailure r.plan what) stage
        [.finish false] loop.stack
    rwa [hnow]
  · exact fun _ => hsolo
  · exact fun _ _ => htold
  · intro hstage
    rw [show stage = .opening from hstage] at haligned
    generalize isFailure r.plan what = failed at haligned
    cases haligned
  · exact .inr ⟨_, rfl, hline⟩
  · calc (r.failed || isFailure r.plan what) = isFailure r.plan what := hnow
      _ = isError _ := hfailure
      _ = _ := (Bool.or_false _).symm
  · intro hfailed
    show (r.stopped || isFailure r.plan what) = true
    rw [← hnow, show (r.failed || isFailure r.plan what) = true from hfailed, Bool.or_true]

end Consistent

namespace Faithful

theorem solo (h : r.Faithful waits ls cs es) (hgoes : r.stage.ending? = none) :
    r.loop.session.Solo r.loop.records client :=
  h.consistent.solo (Stage.ended?_of_ending? hgoes)

theorem told (h : r.Faithful waits ls cs es) (hgoes : r.stage.ending? = none) :
    ls ≠ [] → r.loop.session.waiting = [] :=
  h.consistent.told (Stage.ended?_of_ending? hgoes)

theorem endings_eq_nil (h : r.Faithful waits ls cs es) (hgoes : r.stage.ending? = none) :
    es = [] := by
  rw [h.accounted.endings, Stage.ended?_of_ending? hgoes]
  rfl

theorem goOn (h : r.Faithful waits ls cs es) (hgoes : r.stage.ending? = none) {loop : Loop}
    {stage : Stage} {duties : List Duty}
    (haligned : Aligned (cycleMs r.plan) r.failed stage duties loop.stack)
    (hstage : stage.isUnderWay = true) (hsolo : loop.session.Solo loop.records client)
    (htold : ls ≠ [] → loop.session.waiting = []) :
    Faithful waits { r with loop, stage, duties } ls cs es where
  consistent := h.consistent.restage haligned (Stage.ne_opening_of_underWay hstage) hsolo htold
  accounted := .going (Stage.ending?_of_underWay hstage) (h.accounted.codes hgoes)
    (h.endings_eq_nil hgoes)

theorem leave (h : r.Faithful waits ls cs es) (hgoes : r.stage.ending? = none) {loop : Loop}
    {e : Ending} {cs' : List Int} (hends : r.plan.EndsWith waits (exitStatus cs' ls) e)
    (hstack : loop.stack = []) (hsolo : loop.session.Solo loop.records client)
    (htold : ls ≠ [] → loop.session.waiting = []) :
    Faithful waits { r with loop, stage := .leaving e, duties := [] } ls cs' es where
  consistent := h.consistent.restage (hstack ▸ .leaving e) nofun hsolo htold
  accounted := h.endings_eq_nil hgoes ▸ .leaving hends

theorem escaped (h : r.Faithful waits ls cs es) (hgoes : r.stage.ending? = none)
    (hfailed : r.failed = false) {f : Fault} (hf : f = .waitTooLong ∧ r.plan.Overlong ∨ waits f) :
    r.plan.EndsWith waits (exitStatus cs ls) (.escaped f) := by
  have hnone : ls.any isError = false := h.consistent.failed ▸ hfailed
  refine .inr ⟨f, rfl, ?_, hf⟩
  rw [exitStatus_of_zero (h.accounted.codes hgoes), hnone]
  rfl

/-- A waiting call comes back. After zero the run rests, and with any other code it is to end. -/
theorem comes_back (h : r.Faithful waits ls cs es) (hstage : r.stage = .cycling deadline)
    (hduties : r.duties = []) (code : Int) :
    Leads waits ls cs es ({ r with loop := { r.loop with stack := [] } }.absorb
      [.returned (.ok (some code))]) := by
  have hgoes : r.stage.ending? = none := hstage ▸ rfl
  have hzero := h.accounted.codes hgoes
  let loop := { r.loop with stack := [] }
  by_cases hcode : code = 0
  · have hback : ({ r with loop } : Run).absorb [.returned (.ok (some code))] =
        ({ r with loop, stage := .resting deadline, duties := [] },
          [.session (.returned (.ok (some code)))]) := by
      simp [absorb, returned, hstage, hduties, hcode]
    have hzero' : ∀ c ∈ cs ++ [code], c = 0 :=
      List.forall_mem_append.mpr ⟨hzero, by simpa using hcode⟩
    have hrests :
        Faithful waits { r with loop, stage := .resting deadline, duties := [] } ls cs es :=
      h.goOn hgoes (.resting deadline) rfl (h.solo hgoes) (h.told hgoes)
    rw [hback, leads_of_quiet rfl rfl]
    exact ⟨hrests.consistent, .going rfl hzero' (h.endings_eq_nil hgoes)⟩
  · have hback : ({ r with loop } : Run).absorb [.returned (.ok (some code))] =
        ({ r with loop, stage := .leaving (.exit code), duties := [] },
          [.session (.returned (.ok (some code))), .notice (.loopStopped code)]) := by
      simp [absorb, returned, Run.leave, hstage, hduties, hcode]
    rw [hback, leads_of_quiet rfl rfl]
    exact h.leave hgoes (.inl (congrArg _ (exitStatus_concat hzero hcode ls).symm)) rfl
      (h.solo hgoes) (h.told hgoes)

theorem advance (h : r.Faithful waits ls cs es) (hstage : r.stage = .cycling deadline)
    (hduties : r.duties = []) (queue : List (Int × Handle)) :
    let x := r.loop.advance (cycleMs r.plan) queue []
    Leads waits ls cs es ({ r with loop := x.1 }.absorb x.2) := by
  have hgoes : r.stage.ending? = none := hstage ▸ rfl
  have hpositive : cycleMs r.plan ≠ 0 := by unfold cycleMs; omega
  obtain ⟨_, descriptor, handle, later, -, -, -, hadvance⟩ | ⟨-, hadvance⟩ :=
    r.loop.advance_cases (cycleMs r.plan) queue []
  · simp only [hadvance]
    rw [leads_absorb_quiet rfl rfl]
    let loop :=
      { r.loop with stack := [.pumping descriptor handle, .passing (cycleMs r.plan) later] }
    have hpumps :
        Faithful waits { r with loop, stage := .cycling deadline, duties := [] } ls cs es :=
      h.goOn hgoes (.pumping deadline descriptor handle later) rfl (h.solo hgoes) (h.told hgoes)
    rwa [← hstage, ← hduties] at hpumps
  · simp only [hadvance, if_pos (Or.inl hpositive)]
    exact h.comes_back hstage hduties 0

/-- The end of a wait. If it raised something the run is to end, and nothing went wrong before. -/
theorem waited (h : r.Faithful waits ls cs es) (hstage : r.stage = .cycling deadline)
    (hduties : r.duties = []) (hfailed : r.failed = false) (reported : List Int)
    {fault : Option Fault} (hfault : ∀ f, fault = some f → (∀ e, f ≠ .system e) → waits f) :
    let x := r.loop.waited (cycleMs r.plan) [] reported fault
    Leads waits ls cs es ({ r with loop := x.1 }.absorb x.2) := by
  have hgoes : r.stage.ending? = none := hstage ▸ rfl
  cases hwait : r.loop.session.mux.wait (cycleMs r.plan) reported fault with
  | ok ready =>
    simp only [Loop.waited, hwait]
    exact h.advance hstage hduties ready
  | error f =>
    obtain ⟨e, rfl⟩ | hraised := em (∃ e, f = .system e)
    · simp only [Loop.waited, hwait]
      exact (leads_absorb [.notice (.waitFailed r.loop.session.uuid e)] rfl rfl).mpr
        (h.comes_back hstage hduties _)
    · have hother : ∀ e, f ≠ .system e := not_exists.mp hraised
      have hcause : f = .waitTooLong ∧ r.plan.Overlong ∨ waits f :=
        (Multiplexer.wait_eq_error hwait).imp (And.imp_right .inl) fun hf => hfault f hf hother
      let loop := { r.loop with stack := [] }
      have hback : ({ r with loop } : Run).absorb [.returned (.error f)] =
          ({ r with loop, stage := .leaving (.escaped f), duties := [] },
            [.session (.returned (.error f))]) := by
        simp [absorb, returned, Run.leave, hstage, hduties]
      have hended : r.loop.waited (cycleMs r.plan) [] reported fault =
          (loop, [.returned (.error f)]) := by
        rw [Loop.waited, hwait]
        cases f with
        | system e => exact absurd rfl (hother e)
        | _ => rfl
      simp only [hended]
      rw [hback, leads_of_silent rfl rfl rfl]
      exact h.leave hgoes (h.escaped hgoes hfailed hcause) rfl (h.solo hgoes) (h.told hgoes)

theorem pumped (h : r.Faithful waits ls cs es) (hstage : r.stage = .cycling deadline)
    (hduties : r.duties = []) (descriptor : Int) (rest : List (Int × Handle)) {e : PumpEnd}
    (he : ∀ f, e = .raised f → ∃ r, f = .refused r) :
    let x := r.loop.pumped descriptor (cycleMs r.plan) rest [] e
    Leads waits ls cs es ({ r with loop := x.1 }.absorb x.2) := by
  cases e with
  | delivered => exact h.advance hstage hduties rest
  | refused refusal =>
    exact (leads_absorb [.notice (.pumpFailed r.loop.session.uuid descriptor refusal)] rfl rfl).mpr
      (h.comes_back hstage hduties refusal.code)
  | raised f =>
    obtain ⟨refusal, rfl⟩ := he f rfl
    exact (leads_absorb [.notice (.pumpFailed r.loop.session.uuid descriptor refusal)] rfl rfl).mpr
      (h.comes_back hstage hduties refusal.code)

theorem print (h : r.Faithful waits [] cs es) (hgoes : r.stage.ending? = none) {loop : Loop}
    {stage : Stage} (hstage : stage.ending? = none) {i : Invocation} (hv : Verdict i.what)
    (haligned : Aligned (cycleMs r.plan) (isFailure r.plan i.what) stage [.finish false] loop.stack)
    (hduties : r.duties = []) (hsolo : loop.session.Solo loop.records client)
    (htold : loop.session.waiting = []) :
    Leads waits [] cs es ({ r with loop, stage }.absorb [.invoke i]) := by
  let x := ({ r with loop, stage } : Run).told i.what
  have habsorb : ({ r with loop, stage } : Run).absorb [.invoke i] =
      (x.1, .session (.invoke i) :: x.2) := by
    simp [absorb, x]
  have haccounted : Accounted r.plan waits stage (lines x.2) cs es :=
    .going hstage (h.accounted.codes hgoes) (h.endings_eq_nil hgoes)
  have hconsistent : x.1.Consistent (lines x.2) :=
    h.consistent.print hv haligned hduties hsolo htold
  rw [habsorb, leads_cons rfl rfl rfl]
  refine ⟨hconsistent, ?_⟩
  show Accounted r.plan waits stage (lines x.2) (cs ++ []) (es ++ [])
  rwa [List.append_nil, List.append_nil]

theorem reply (h : r.Faithful waits ls cs es) (hstage : r.stage = .cycling deadline)
    (hduties : r.duties = []) {descriptor : Int} {handle : Handle} {rest : List (Int × Handle)}
    (hstack : r.loop.stack = [.pumping descriptor handle, .passing (cycleMs r.plan) rest])
    (hf : ∀ h, faults.escaping h = none) (address : ReplyTo) (reply : Reply) :
    Leads waits ls cs es (r.move faults (.reply address reply)) := by
  have hgoes : r.stage.ending? = none := hstage ▸ rfl
  have hsolo := h.solo hgoes
  have he := Session.transition_reply faults (s := r.loop.session) r.loop.records address reply
  have hquiet := Session.outcomes_onReply faults r.loop.session r.loop.records address reply
  have hok := Session.onReply_ok hf r.loop.session r.loop.records address reply
  have hsettle : r.loop.step faults (.reply address reply) =
      r.loop.settle (r.loop.session.onReply faults r.loop.records address reply) := by
    simp [Loop.step, hstack]
  have hsolo' := hsolo.reply he
  obtain ⟨hnext, hwaiting⟩ | ⟨what, hv, hnext, hwaited, hwaiting⟩ :=
    hsolo.reply_next rfl rfl hf he hok
  all_goals
    generalize r.loop.session.onReply faults r.loop.records address reply = t at *
  · -- The reply comes back to the provider in the pump.
    have hback : r.loop.settle t = (⟨t.session, t.records, r.loop.stack⟩, t.outputs) := by
      simp [Loop.settle, hnext, Loop.comeBack, hstack]
    rw [move_eq (hsettle.trans hback), leads_absorb_quiet he.accounts.invocations hquiet]
    let loop : Loop := ⟨t.session, t.records, r.loop.stack⟩
    have haligned : Aligned (cycleMs r.plan) r.failed (.cycling deadline) [] loop.stack :=
      hstack ▸ .pumping deadline descriptor handle rest
    have hpumps :
        Faithful waits { r with loop, stage := .cycling deadline, duties := [] } ls cs es :=
      h.goOn hgoes haligned rfl hsolo' fun hls => hwaiting (h.told hgoes hls)
    rwa [← hstage, ← hduties] at hpumps
  · have hnothing : ls = [] := by
      by_contra hls
      exact hwaited (h.told hgoes hls)
    subst hnothing
    rw [move_eq (hsettle.trans (Loop.settle_of_notify hnext)),
      leads_absorb _ he.accounts.invocations hquiet]
    let i : Invocation := ⟨client, what⟩
    let loop : Loop := ⟨t.session, t.records, .notifying i (.ok none) :: r.loop.stack⟩
    have haligned :
        Aligned (cycleMs r.plan) (isFailure r.plan what) (.cycling deadline) [.finish false]
          loop.stack := by
      simp only [loop, hstack]
      exact .telling deadline i descriptor handle rest
    have hprint : Leads waits [] cs es
        (({ r with loop, stage := .cycling deadline } : Run).absorb [.invoke i]) :=
      h.print hgoes rfl hv haligned hduties hsolo' hwaiting
    rwa [← hstage] at hprint

theorem world (h : r.Faithful waits ls cs es) (hw : r.isWaiting = true)
    (hi : Ordinary faults (.world m)) (hraises : ∀ f, Input.WaitRaises (.world m) f → waits f) :
    Leads waits ls cs es (r.move faults m) := by
  have hstill : Leads waits ls cs es (({ r with loop := r.loop } : Run).absorb []) :=
    leads_nil.mpr h
  have haligned := h.consistent.aligned
  obtain ⟨deadline, hstage, hduties⟩ : ∃ deadline, r.stage = .cycling deadline ∧ r.duties = [] := by
    unfold isWaiting at hw
    split at hw
    · exact ⟨_, ‹_›, ‹_›⟩
    · cases hw
  rw [hstage, hduties] at haligned
  generalize hfailed : r.failed = failed, hstack : r.loop.stack = stack at haligned
  cases haligned with
  | waiting =>
    obtain ⟨hwaited, hother⟩ := Loop.step_of_waiting faults m hstack
    cases m with
    | waited reported fault =>
      rw [move_eq (hwaited reported fault)]
      exact h.waited hstage hduties hfailed reported fun f hf hother =>
        hraises f ⟨⟨reported, by rw [hf]⟩, hother⟩
    | _ =>
      rw [move_eq (hother nofun)]
      exact hstill
  | pumping _ descriptor handle rest =>
    cases m with
    | pumped e =>
      rw [move_eq (Loop.step_of_pumping hstack e)]
      exact h.pumped hstage hduties descriptor rest fun f hf => hi.pumped f (by rw [hf])
    | reply address reply =>
      exact h.reply hstage hduties hstack (CloseFaults.escaping_eq_none hi.closing) address reply
    | request | finish | waited =>
      have hstep {m : Move} (hm : r.loop.step faults m = (r.loop, [])) :
          Leads waits ls cs es (r.move faults m) := by
        rw [move_eq hm]
        exact hstill
      exact hstep (by simp [Loop.step, Loop.isIdle, hstack])

/-- The callback about an announcement that failed at once comes back: the run is to end. -/
theorem finish_asked (h : r.Faithful waits ls cs es) (hstage : r.stage = .asked)
    (hduties : r.duties = [.finish false]) (hfailed : r.failed = true) {i : Invocation}
    (hstack : r.loop.stack = [.notifying i (.ok none)]) (answer : StartAnswer) :
    Leads waits ls cs es (r.proceed faults answer) := by
  have hgoes : r.stage.ending? = none := hstage ▸ rfl
  have herror : ls.any isError = true := h.consistent.failed ▸ hfailed
  have hstatus : exitStatus cs ls = 1 := by
    rw [exitStatus_of_zero (h.accounted.codes hgoes), if_pos herror]
  let loop := { r.loop with stack := [] }
  have hstep : r.loop.step faults (.finish false) = (loop, [.returned (.ok none)]) := by
    simp [Loop.step, hstack, Loop.comeBack, loop]
  have hproceed : r.proceed faults answer =
      ({ r with loop, stage := .leaving (.exit 1), duties := [] },
        [.session (.returned (.ok none))]) := by
    simp [Run.proceed, hduties, move, hstep, absorb, returned, hstage, hfailed, Run.leave]
  rw [hproceed, leads_of_silent rfl rfl rfl]
  exact h.leave hgoes (.inl (congrArg _ hstatus.symm)) rfl (h.solo hgoes) (h.told hgoes)

theorem finish_cycling (h : r.Faithful waits ls cs es) (hstage : r.stage = .cycling deadline)
    (hduties : r.duties = [.finish false]) {i : Invocation} {descriptor : Int} {handle : Handle}
    {rest : List (Int × Handle)}
    (hstack : r.loop.stack = [.notifying i (.ok none), .pumping descriptor handle,
      .passing (cycleMs r.plan) rest])
    (answer : StartAnswer) : Leads waits ls cs es (r.proceed faults answer) := by
  have hgoes : r.stage.ending? = none := hstage ▸ rfl
  let loop := { r.loop with stack := [.pumping descriptor handle, .passing (cycleMs r.plan) rest] }
  have hstep : r.loop.step faults (.finish false) = (loop, []) := by
    simp [Loop.step, hstack, Loop.comeBack, loop]
  have hproceed : r.proceed faults answer =
      ({ r with loop, stage := .cycling deadline, duties := [] }, []) := by
    simp [Run.proceed, hduties, move, hstep, absorb, hstage]
  rw [hproceed, leads_nil]
  exact h.goOn hgoes (.pumping deadline descriptor handle rest) rfl (h.solo hgoes)
    (h.told hgoes)

theorem started (h : r.Faithful waits [] cs es) (hgoes : r.stage.ending? = none)
    (hduties : r.duties = []) {loop : Loop} (hstack : loop.stack = [])
    (hsolo : loop.session.Solo loop.records client) :
    Leads waits [] cs es (({ r with loop, stage := .asked } : Run).absorb
      [.returned (.ok none)]) := by
  have hfailed : r.failed = false := h.consistent.failed
  have htold : ([] : List String) ≠ [] → loop.session.waiting = [] := fun hls => absurd rfl hls
  rw [absorb_started (r := { r with loop, stage := .asked }) rfl hduties hfailed,
    leads_of_silent rfl rfl rfl]
  obtain ⟨deadline, hrest⟩ | ⟨hrest, hlong⟩ := rest_cases { r with loop, stage := .asked }
  · have hrests :
        Faithful waits { r with loop, stage := .resting deadline, duties := [] } [] cs es :=
      h.goOn hgoes (hstack ▸ .resting deadline) rfl hsolo htold
    rw [hrest]
    rwa [← hduties] at hrests
  · have hleaves :
        Faithful waits { r with loop, stage := .leaving (.escaped .waitTooLong), duties := [] }
      [] cs es :=
      h.leave hgoes (h.escaped hgoes hfailed (.inl ⟨rfl, .inr hlong⟩)) hstack hsolo htold
    rw [hrest]
    rwa [← hduties] at hleaves

theorem announce (h : r.Faithful waits ls cs es) (hstage : r.stage = .opening)
    (hduties : r.duties = []) (hstack : r.loop.stack = []) {answer : StartAnswer}
    (hanswer : ∀ f, answer ≠ .raised f) : Leads waits ls cs es (r.proceed faults answer) := by
  have hgoes : r.stage.ending? = none := hstage ▸ rfl
  have hsolo := h.solo hgoes
  obtain ⟨hnone, rfl⟩ := h.consistent.fresh hstage
  have hfailed : r.failed = false := h.consistent.failed
  have hidle : r.loop.isIdle = true := by simp [Loop.isIdle, hstack]
  have hopening : opening r.plan = .announce (advertisement r.plan) client := by
    rw [opening, h.consistent.announces.action]
  have he := Session.transition_announce faults r.loop.records hsolo.sound (advertisement r.plan)
    client answer
  have hquiet := Session.outcomes_announce r.loop.session r.loop.records (advertisement r.plan)
    client answer
  have hsettle : r.loop.step faults (.request (opening r.plan) answer) =
      r.loop.settle (r.loop.session.announce r.loop.records (advertisement r.plan) client
        answer) := by
    rw [Loop.step_request hidle, hopening, Loop.request]
  have hproceed : r.proceed faults answer =
      ((({ r with stage := .asked } : Run).move faults (.request (opening r.plan) answer)).1,
        .catchSignals :: (({ r with stage := .asked } : Run).move faults
          (.request (opening r.plan) answer)).2) := by
    simp [Run.proceed, hduties, hstage]
  rw [hproceed, leads_cons rfl rfl rfl]
  have ht : Transport.ofCode? (advertisement r.plan).transportCode =
      some r.plan.service.transport :=
    Transport.ofCode?_code _
  obtain ⟨hsolo', hdone | ⟨code, message, transient, hnotify, hwaiting⟩⟩ :=
    hsolo.announce hnone rfl ht hanswer
  all_goals
    generalize r.loop.session.announce r.loop.records (advertisement r.plan) client answer = t at *
  · rw [move_eq (r := { r with stage := .asked }) (hsettle.trans (Loop.settle_of_done hidle hdone)),
      leads_absorb _ he.accounts.invocations hquiet]
    exact h.started hgoes hduties hstack hsolo'
  · let i : Invocation := ⟨client, .failed .register (-1) code message transient⟩
    let loop : Loop := ⟨t.session, t.records, .notifying i (.ok none) :: r.loop.stack⟩
    have hfailure : isFailure r.plan i.what = true := by
      simp [isFailure, i, h.consistent.announces.action]
    have haligned : Aligned (cycleMs r.plan) (isFailure r.plan i.what) .asked [.finish false]
        loop.stack := by
      simp only [loop, hstack, hfailure]
      exact .rejected i
    rw [move_eq (r := { r with stage := .asked }) (hsettle.trans (Loop.settle_of_notify hnotify)),
      leads_absorb _ he.accounts.invocations hquiet]
    exact h.print hgoes rfl (.failed code message transient) haligned hduties hsolo' hwaiting

theorem rest (h : r.Faithful waits ls cs es) (hstage : r.stage = .resting deadline)
    (hduties : r.duties = []) (hstack : r.loop.stack = []) (answer : StartAnswer) :
    Leads waits ls cs es (r.proceed faults answer) := by
  have hgoes : r.stage.ending? = none := hstage ▸ rfl
  have hsolo := h.solo hgoes
  by_cases hover : r.isOver deadline = true
  · have hproceed : r.proceed faults answer =
        ({ r with loop := r.loop, stage := .leaving (.exit r.exitCode), duties := [] }, []) := by
      simp [Run.proceed, hduties, hstage, hover, Run.leave]
    have hstatus : exitStatus cs ls = r.exitCode := by
      rw [exitStatus_of_zero (h.accounted.codes hgoes), exitCode, h.consistent.failed]
    rw [hproceed, leads_nil]
    exact h.leave hgoes (.inl (congrArg _ hstatus.symm)) hstack hsolo (h.told hgoes)
  · let loop := { r.loop with stack := [.waiting (cycleMs r.plan)] }
    have hidle : r.loop.isIdle = true := by simp [Loop.isIdle, hstack]
    have hstep : r.loop.step faults (.request (.run (cycleMs r.plan)) answer) = (loop, []) := by
      rw [Loop.step_request hidle]
      simp [Loop.request, hsolo.isOpen, hstack, loop]
    have hproceed : r.proceed faults answer =
        ({ r with loop, stage := .cycling deadline, duties := [] }, []) := by
      simp [Run.proceed, hduties, hstage, hover, move, hstep, absorb]
    have hfailed : r.failed = false := by
      rw [Bool.eq_false_iff]
      exact fun hfailed => hover (by simp [isOver, h.consistent.stopped hfailed])
    rw [hproceed, leads_nil]
    exact h.goOn hgoes (hfailed ▸ .waiting deadline) rfl hsolo (h.told hgoes)

theorem close (h : r.Faithful waits ls cs es) {e : Ending} (hstage : r.stage = .leaving e)
    (hduties : r.duties = []) (hstack : r.loop.stack = []) :
    Leads waits ls cs es (r.close faults e) := by
  have hopen : r.stage.ended? = none := hstage ▸ rfl
  have hes : es = [] := by rw [h.accounted.endings, hopen]; rfl
  have hends : r.plan.EndsWith waits (exitStatus cs ls) e := h.accounted.ending e (hstage ▸ rfl)
  obtain ⟨loop, events, hclose, hlstack, hl, hc, he⟩ := close_eq faults hstage hduties hstack
    (h.consistent.solo hopen).isOpen h.consistent.announces.given
  rw [hclose, Leads, hl, hc, he, List.append_nil, List.append_nil, hes]
  exact ⟨h.consistent.close hduties hlstack e, .ended hends⟩

theorem proceed (h : r.Faithful waits ls cs es) {answer : StartAnswer}
    (hi : Ordinary faults (.proceed r.now answer)) :
    Leads waits ls cs es (r.proceed faults answer) := by
  have hanswer (f : Fault) : answer ≠ .raised f := fun hf => hi.started r.now f (by rw [hf])
  have haligned := h.consistent.aligned
  generalize hfailed : r.failed = failed, hstage : r.stage = stage, hduties : r.duties = duties,
    hstack : r.loop.stack = stack at haligned
  cases haligned with
  | opening => exact h.announce hstage hduties hstack hanswer
  | rejected i => exact h.finish_asked hstage hduties hfailed hstack answer
  | resting deadline => exact h.rest hstage hduties hstack answer
  | waiting | pumping | ended =>
    have hproceed : r.proceed faults answer = (r, []) := by simp [Run.proceed, hduties, hstage]
    rw [hproceed, leads_nil]
    exact h
  | telling deadline i descriptor handle rest => exact h.finish_cycling hstage hduties hstack answer
  | leaving e =>
    have hproceed : r.proceed faults answer = r.close faults e := by
      simp [Run.proceed, hduties, hstage]
    rw [hproceed]
    exact h.close hstage hduties hstack

theorem elapse (h : r.Faithful waits ls cs es) (now : Rat) :
    Faithful waits { r with now } ls cs es :=
  ⟨h.consistent.elapse now, h.accounted⟩

/-- What one step preserves. -/
theorem step (h : r.Faithful waits ls cs es) {i : Input} (hi : Ordinary faults i)
    (hraises : ∀ f, i.WaitRaises f → waits f) : Leads waits ls cs es (r.step faults i) := by
  cases i with
  | proceed now answer =>
    exact (h.elapse now).proceed hi
  | signal name =>
    by_cases hcatches : r.catchesSignals = true
    · rw [Run.step, if_pos hcatches, leads_of_silent rfl rfl rfl]
      exact ⟨h.consistent.interrupt, h.accounted⟩
    · rw [Run.step, if_neg hcatches, leads_nil]
      exact h
  | world m =>
    by_cases hw : r.isWaiting = true
    · rw [Run.step, if_pos hw]
      exact h.world hw hi hraises
    · rw [Run.step, if_neg hw, leads_nil]
      exact h

end Faithful

end Run
end Command
end ServiceDiscovery
