import ServiceDiscovery.Proofs.Cycling

/-!
How a run that announces ends. Its exit status tells what went wrong first: the code that a waiting
call came back with, else that the announcement failed. It prints one line at most, and once
something went wrong it does not wait again.
-/
namespace ServiceDiscovery.Command.Run
variable {waits : Fault → Prop} {r : Run} {ls : List String} {cs : List Int} {es : List Ending}
  {deadline : Option Rat}

theorem faithful_start {plan : Plan} (h : plan.Announces) :
    (start plan).Faithful waits [] [] [] := by
  let k : History := .start plan.uuid {} false {}
  have hsolo : (start plan).loop.session.Solo (start plan).loop.records client :=
    ⟨k.sound, k.ownApart, rfl, rfl, rfl, nofun⟩
  exact ⟨⟨h, .opening, fun _ => hsolo, fun _ hls => absurd rfl hls, fun _ => ⟨rfl, rfl⟩, .inl rfl,
    rfl, nofun⟩, nofun, fun _ => nofun, rfl⟩

/-- What a whole run preserves. -/
theorem Faithful.steps (h : r.Faithful waits ls cs es) {xs : List (CloseFaults × Input)}
    (hxs : ∀ x ∈ xs, Ordinary x.1 x.2) (hraises : ∀ x ∈ xs, ∀ f, x.2.WaitRaises f → waits f) :
    Leads waits ls cs es (steps xs r) := by
  induction xs generalizing r ls cs es with
  | nil => exact leads_nil.mpr h
  | cons x xs ih =>
    have hfirst := h.step (hxs x List.mem_cons_self) (hraises x List.mem_cons_self)
    have hlater := ih hfirst (fun x hx => hxs x (List.mem_cons_of_mem _ hx))
      fun x hx => hraises x (List.mem_cons_of_mem _ hx)
    simpa [Leads, Run.steps, List.append_assoc] using hlater

theorem steps_pair {x y : CloseFaults × Input} {r₁ r₂ : Run} {first second : List Event}
    (hfirst : r.step x.1 x.2 = (r₁, first)) (hsecond : r₁.step y.1 y.2 = (r₂, second)) :
    (steps [x, y] r).2 = first ++ second := by
  simp [steps, hfirst, hsecond]

theorem resting_of_request? {cycleMs : Int} (h : r.request? = some (.run cycleMs)) :
    ∃ deadline, r.stage = .resting deadline ∧ r.stopped = false := by
  unfold request? at h
  split at h
  · cases h
  · cases h
  · cases hp : r.plan.action <;> simp [opening, hp] at h
  · rename_i deadline _ hstage
    split at h
    · cases h
    · rename_i hover
      exact ⟨deadline, hstage, by simp_all [isOver]⟩
  · cases h

theorem isOver_of_request? (hduties : r.duties = []) (hstage : r.stage = .resting deadline)
    (h : r.request? = none) : r.isOver deadline = true := by
  simpa [request?, hduties, hstage] using h

theorem proceed_over {faults : CloseFaults} {answer : StartAnswer} (hduties : r.duties = [])
    (hstage : r.stage = .resting deadline) (hover : r.isOver deadline = true) :
    r.proceed faults answer = (r.leave (.exit r.exitCode), []) := by
  simp [proceed, hduties, hstage, hover]

theorem step_ended {e : Ending} (hstage : r.stage = .ended e) (hduties : r.duties = [])
    (faults : CloseFaults) (now : Rat) (answer : StartAnswer) :
    r.step faults (.proceed now answer) = ({ r with now }, []) := by
  simp [Run.step, Run.proceed, hduties, hstage]

namespace Faithful

/-- After an error, or a code that is not zero, the run does not wait again. -/
theorem request?_ne_run (h : r.Faithful waits ls cs es)
    (hwrong : ls.any isError = true ∨ ∃ c ∈ cs, c ≠ 0) (now : Rat) (cycleMs : Int) :
    ({ r with now } : Run).request? ≠ some (.run cycleMs) := by
  intro hrequest
  obtain ⟨deadline, hstage, hstopped⟩ := resting_of_request? hrequest
  obtain herror | ⟨c, hc, hne⟩ := hwrong
  · have hfailed : r.failed = true := h.consistent.failed.trans herror
    cases (h.consistent.stopped hfailed).symm.trans hstopped
  · have hgoes : r.stage.ending? = none := by rw [show r.stage = _ from hstage]; rfl
    exact hne (h.accounted.codes hgoes c hc)

theorem endsWith (h : r.Faithful waits ls cs es) {e : Ending} (he : e ∈ es) :
    r.plan.EndsWith waits (exitStatus cs ls) e := by
  rw [h.accounted.endings] at he
  cases hstage : r.stage with
  | ended e' =>
    obtain rfl : e = e' := by simpa [hstage, Stage.ended?] using he
    exact h.accounted.ending e (hstage ▸ rfl)
  | _ => simp [hstage, Stage.ended?] at he

/-- A run that is to end does so when it is next in control. -/
theorem step_leaving (h : r.Faithful waits ls cs es) {e : Ending} (hstage : r.stage = .leaving e)
    (faults : CloseFaults) (now : Rat) (answer : StartAnswer) : ∃ loop events,
      r.step faults (.proceed now answer) = ({ r with loop, stage := .ended e, now }, events) ∧
        r.duties = [] ∧ endings events = [e] := by
  obtain ⟨hduties, hstack⟩ : r.duties = [] ∧ r.loop.stack = [] := by
    have haligned := h.consistent.aligned
    generalize r.failed = failed, r.duties = duties, r.loop.stack = stack at haligned
    rw [hstage] at haligned
    cases haligned
    exact ⟨rfl, rfl⟩
  have hopen : r.loop.session.closed = false := (h.consistent.solo (hstage ▸ rfl)).isOpen
  obtain ⟨loop, events, hclose, -, -, -, hends⟩ :=
    close_eq (r := { r with now }) faults hstage hduties hstack hopen h.consistent.announces.given
  have hstep : r.step faults (.proceed now answer) = ({ r with now } : Run).close faults e := by
    simp [Run.step, Run.proceed, hduties, hstage]
  exact ⟨loop, events, hstep.trans hclose, hduties, hends⟩

/-- A run that is in control and asks for nothing more has ended two steps later. -/
theorem concludes (h : r.Faithful waits ls cs es) (hduties : r.duties = [])
    (hwaits : r.isWaiting = false) {now : Rat} (hrequest : ({ r with now } : Run).request? = none)
    (faults faults' : CloseFaults) (answer answer' : StartAnswer) :
    ∃ e, es ++ endings
        (Run.steps [(faults, .proceed now answer), (faults', .proceed now answer')] r).2 = [e] ∧
      r.plan.EndsWith waits (exitStatus cs ls) e := by
  have haligned := h.consistent.aligned
  generalize r.failed = failed, hstage : r.stage = stage, hstack : r.loop.stack = stack at haligned
  rw [hduties] at haligned
  cases haligned with
  | opening => simp [request?, hduties, hstage] at hrequest
  | resting deadline =>
    have hover := isOver_of_request? (r := { r with now }) hduties hstage hrequest
    have hstep : r.step faults (.proceed now answer) =
        (({ r with now } : Run).leave (.exit r.exitCode), []) :=
      proceed_over (r := { r with now }) hduties hstage hover
    have hleaves : Leads waits ls cs es (({ r with now } : Run).proceed faults answer) :=
      (h.elapse now).rest hstage hduties hstack answer
    rw [proceed_over (r := { r with now }) hduties hstage hover, leads_nil] at hleaves
    obtain ⟨loop, events, hclose, -, hends⟩ := hleaves.step_leaving rfl faults' now answer'
    rw [steps_pair hstep hclose, h.endings_eq_nil (hstage ▸ rfl)]
    exact ⟨_, hends, hleaves.accounted.ending _ rfl⟩
  | waiting | pumping => simp [isWaiting, hduties, hstage] at hwaits
  | leaving e =>
    have hes : es = [] := by rw [h.accounted.endings, hstage]; rfl
    obtain ⟨loop, events, hclose, hnone, hends⟩ := h.step_leaving hstage faults now answer
    have hlast :=
      step_ended (r := { r with loop, stage := .ended e, now }) rfl hnone faults' now answer'
    rw [steps_pair hclose hlast, List.append_nil, hes]
    exact ⟨e, hends, h.accounted.ending e (hstage ▸ rfl)⟩
  | ended e =>
    have hes : es = [e] := by rw [h.accounted.endings, hstage]; rfl
    have hlast := step_ended (r := { r with now }) hstage hduties faults' now answer'
    rw [steps_pair (step_ended hstage hduties faults now answer) hlast, hes]
    exact ⟨e, rfl, h.accounted.ending e (hstage ▸ rfl)⟩

end Faithful

/-- The exit status and the output of a run that announces, over any history. It prints one line at
most, which says that the advertisement was registered or that it failed. It ends with the first
code that is not zero of a waiting call, else with 1 if it printed an error, else with 0, unless
something else ended it before anything went wrong: a time that is too large for a double, or what a
wait raised that was no error of the system. It does end once it is in control and asks for nothing
more, and after an error or such a code it does not wait again. -/
theorem announce_exits {plan : Plan} (haction : plan.action = .announce)
    (hgiven : plan.ownsProvider = false) {xs : List (CloseFaults × Input)}
    (hxs : ∀ x ∈ xs, Ordinary x.1 x.2) :
    let r := (steps xs (start plan)).1
    let events := (steps xs (start plan)).2
    let status := exitStatus (codes events) (lines events)
    let waits f := ∃ x ∈ xs, x.2.WaitRaises f
    (lines events).length ≤ 1 ∧ (∀ line ∈ lines events, isRegistered line = !isError line) ∧
    (∀ e ∈ endings events, plan.EndsWith waits status e) ∧
    (∀ now faults faults' answer answer', r.duties = [] → r.isWaiting = false →
      ({ r with now } : Run).request? = none → ∃ e, plan.EndsWith waits status e ∧
        endings (events ++
          (steps [(faults, .proceed now answer), (faults', .proceed now answer')] r).2) = [e]) ∧
    ((lines events).any isError = true ∨ (∃ c ∈ codes events, c ≠ 0) →
      ∀ now cycleMs, ({ r with now } : Run).request? ≠ some (.run cycleMs)) := by
  intro r events status waits
  have hplan : r.plan = plan := plan_steps xs (start plan)
  have h : r.Faithful waits (lines events) (codes events) (endings events) :=
    (faithful_start ⟨haction, hgiven⟩).steps hxs fun x hx f hf => ⟨x, hx, hf⟩
  refine ⟨?_, ?_, fun e he => hplan ▸ h.endsWith he, ?_, h.request?_ne_run⟩
  · obtain hnone | ⟨line, hone, -⟩ := h.consistent.verdict
    · simp [hnone]
    · simp [hone]
  · obtain hnone | ⟨line, hone, hline⟩ := h.consistent.verdict
    · simp [hnone]
    · simpa [hone] using hline
  · intro now faults faults' answer answer' hduties hwaits hrequest
    rw [endings_append]
    obtain ⟨e, he, hends⟩ := h.concludes hduties hwaits hrequest faults faults' answer answer'
    exact ⟨e, hplan ▸ hends, he⟩

def unlimited : Plan where
  action := .announce
  uuid := "A"
  service := { port := 1, namePrefix := "/a" }

/-- The advertisement is registered, and a signal comes in the callback about it; then its handle
breaks in the same pass. -/
def brokenInPass : List (CloseFaults × Input) :=
  [({}, .proceed 0 (.started 7 3)), ({}, .proceed 0 (.refused ⟨0, ""⟩)),
    ({}, .world (.waited [3] none)),
    ({}, .world (.reply .register (.register 0 0 none none (some "local.")))),
    ({}, .signal "SIGINT"),
    ({}, .proceed 9 (.refused ⟨0, ""⟩)), ({}, .world (.pumped (.refused ⟨-65563, ""⟩)))]

/-- The signal alone would have ended it with 0. -/
theorem announce_exits_brokenInPass : (∀ x ∈ brokenInPass, Ordinary x.1 x.2) ∧
    let r := (steps brokenInPass (start unlimited)).1
    let events := (steps brokenInPass (start unlimited)).2
    lines events = ["REGISTERED A _ndn._udp. local."] ∧ codes events = [-65563] ∧ r.stopped = true ∧
    (∀ now cycleMs, ({ r with now } : Run).request? ≠ some (.run cycleMs)) ∧
    endings (events ++
      (steps [({}, .proceed 9 (.refused ⟨0, ""⟩)), ({}, .proceed 9 (.refused ⟨0, ""⟩))] r).2) =
      [.exit (-65563)] := by
  have hordinary : ∀ x ∈ brokenInPass, Ordinary x.1 x.2 :=
    ordinary_of_calm (by simp [brokenInPass, Input.isCalm])
  have hlines : lines (steps brokenInPass (start unlimited)).2 =
      ["REGISTERED A _ndn._udp. local."] := by
    decide +kernel
  have hcodes : codes (steps brokenInPass (start unlimited)).2 = [-65563] := by decide +kernel
  have hstopped : (steps brokenInPass (start unlimited)).1.stopped = true := by decide +kernel
  have haction : unlimited.action = .announce := rfl
  obtain ⟨-, -, -, hconcludes, hrequest⟩ := announce_exits haction rfl hordinary
  rw [hlines, hcodes] at hconcludes hrequest
  obtain ⟨e, hends, he⟩ := hconcludes 9 {} {} (.refused ⟨0, ""⟩) (.refused ⟨0, ""⟩)
    (by decide +kernel) (by decide +kernel) (Option.isNone_iff_eq_none.mp (by decide +kernel))
  obtain rfl | ⟨-, -, hzero, -⟩ := hends
  · exact ⟨hordinary, hlines, hcodes, hstopped,
      hrequest (.inr ⟨_, List.mem_singleton_self _, by decide⟩), he⟩
  · cases hzero

/-- Announces a service for longer than can be waited for. -/
def endless : Plan := { unlimited with exitAfterMs := timeLimit }

/-- Announces a service in cycles that are too long for the selector. -/
def patient : Plan := { unlimited with timeoutMs := 2147483648 }

def wellBegun : List (CloseFaults × Input) :=
  [({}, .proceed 0 (.started 7 3)), ({}, .proceed 0 (.refused ⟨0, ""⟩))]

def outwaited : List (CloseFaults × Input) :=
  [({}, .proceed 0 (.started 7 3)), ({}, .proceed 0 (.refused ⟨0, ""⟩)),
    ({}, .world (.waited [] (some (.failed "timeout is too large")))),
    ({}, .proceed 0 (.refused ⟨0, ""⟩))]

/-- Nothing is printed, and no waiting call comes back with a code; but what ends the run is a
fault. -/
theorem not_announce_exits_endless :
    (endless.action = .announce ∧ endless.ownsProvider = false ∧
      (∀ x ∈ wellBegun, Ordinary x.1 x.2) ∧
      lines (steps wellBegun (start endless)).2 = [] ∧
      codes (steps wellBegun (start endless)).2 = [] ∧
      endings (steps wellBegun (start endless)).2 = [.escaped .waitTooLong]) ∧
    (patient.action = .announce ∧ patient.ownsProvider = false ∧
      (∀ x ∈ outwaited, Ordinary x.1 x.2) ∧
      lines (steps outwaited (start patient)).2 = [] ∧
      codes (steps outwaited (start patient)).2 = [] ∧
      endings (steps outwaited (start patient)).2 =
        [.escaped (.failed "timeout is too large")]) := by
  refine ⟨⟨rfl, rfl, ordinary_of_calm (by simp [wellBegun, Input.isCalm]), ?_, ?_, ?_⟩,
    rfl, rfl, ordinary_of_calm (by simp [outwaited, Input.isCalm]), ?_, ?_, ?_⟩ <;> decide +kernel

end ServiceDiscovery.Command.Run
