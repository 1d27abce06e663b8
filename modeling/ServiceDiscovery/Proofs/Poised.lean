import ServiceDiscovery.Proofs.Balance
import ServiceDiscovery.Proofs.Cycling
import ServiceDiscovery.Proofs.Pumping

/-!
Where a run of the command is, whatever it is for. Each of its duties is that of a callback on top
of the stack. Below the callbacks is the pump that they were told in, or nothing; and when a run is
to end nothing is left on the stack.
-/
namespace ServiceDiscovery

namespace Loop
variable {l : Loop} {below : List Frame}

theorem finish_comeBack {i : Invocation} {o : Outcome} (hstack : l.stack = .notifying i o :: below)
    (faults : CloseFaults) (raised : Bool) :
    ∃ logged, Plain logged ∧ l.step faults (.finish raised) =
      (({ l with stack := below }.comeBack o).1,
        logged ++ ({ l with stack := below }.comeBack o).2) := by
  refine ⟨if raised then [.notice (.callbackRaised i.what.label)] else [], ?_,
    by simp [step, hstack]⟩
  split
  · exact .notice _
  · exact .nil

end Loop

namespace Command

def Telling (duties : List Duty) (frames : List Frame) : Prop :=
  List.Forall₂ (fun _ f => ∃ i x, f = Frame.notifying i (.ok x)) duties frames

namespace Telling
variable {duty duty' : Duty} {outer : List Duty} {upper base : List Frame}

theorem retell (h : Telling (duty :: outer) upper) : Telling (duty' :: outer) upper := by
  cases h with
  | cons hf ht => exact .cons hf ht

theorem isIdle (h : Telling (duty :: outer) upper) {l : Loop} (hstack : l.stack = upper ++ base) :
    l.isIdle = true := by
  cases h with
  | cons hf ht =>
    obtain ⟨i, x, rfl⟩ := hf
    simp [Loop.isIdle, hstack]

end Telling

inductive Ground : Stage → List Frame → Prop
  | asked : Ground .asked []
  | pumping (deadline : Option Rat) (d : Int) (h : Handle) (timeoutMs : Int)
      (rest : List (Int × Handle)) :
      Ground (.cycling deadline) [.pumping d h, .passing timeoutMs rest]

namespace Run
variable {faults : CloseFaults} {r : Run} {m : Move} {deadline : Option Rat}
  {base upper : List Frame}

inductive PoisedAt : Stage → List Duty → List Frame → Prop
  | opening : PoisedAt .opening [] []
  | calling {stage duties upper base} (hg : Ground stage base) (ht : Telling duties upper) :
      PoisedAt stage duties (upper ++ base)
  | resting (deadline : Option Rat) : PoisedAt (.resting deadline) [] []
  | waiting (deadline : Option Rat) (timeoutMs : Int) : PoisedAt (.cycling deadline) []
      [.waiting timeoutMs]
  | leaving (e : Ending) : PoisedAt (.leaving e) [] []
  | ended (e : Ending) (stack : List Frame) : PoisedAt (.ended e) [] stack

def Poised (r : Run) : Prop := PoisedAt r.stage r.duties r.loop.stack

theorem poised_of_eq {stage : Stage} {duties : List Duty} {stack : List Frame}
    (h : PoisedAt stage duties stack) (hstage : r.stage = stage) (hduties : r.duties = duties)
    (hstack : r.loop.stack = stack) : r.Poised := by
  rw [Poised, hstage, hduties, hstack]
  exact h

theorem poised_calling (hg : Ground r.stage base) (ht : Telling r.duties upper)
    (hstack : r.loop.stack = upper ++ base) : r.Poised :=
  poised_of_eq (.calling hg ht) rfl rfl hstack

theorem poised_leave (hduties : r.duties = []) (hstack : r.loop.stack = []) (e : Ending) :
    (r.leave e).Poised :=
  poised_of_eq (.leaving e) rfl hduties hstack

theorem poised_rest (hduties : r.duties = []) (hstack : r.loop.stack = []) : r.rest.Poised := by
  obtain ⟨deadline, hrest⟩ | ⟨hrest, -⟩ := rest_cases r
  · rw [hrest]
    exact poised_of_eq (.resting deadline) rfl hduties hstack
  · rw [hrest]
    exact poised_leave hduties hstack _

def hear (r : Run) (x : Loop × List Output) : Run := ({ r with loop := x.1 }.absorb x.2).1

theorem move_hear {x : Loop × List Output} (h : r.loop.step faults m = x) :
    (r.move faults m).1 = r.hear x := by
  rw [← h]
  rfl

theorem hear_append {l : Loop} {os : List Output} (hplain : Plain os) (later : List Output) :
    r.hear (l, os ++ later) = r.hear (l, later) := by
  rw [hear, hear, absorb_append_of_quiet _ hplain.invocations hplain.outcomes]

theorem absorb_error (hstage : r.stage = .asked ∨ ∃ deadline, r.stage = .cycling deadline)
    (hduties : r.duties = []) (f : Fault) :
    (r.absorb [.returned (.error f)]).1 = r.leave (.escaped f) := by
  obtain hstage | ⟨deadline, hstage⟩ := hstage <;> simp [absorb, returned, hstage, hduties]

theorem absorb_asked (hstage : r.stage = .asked) (hduties : r.duties = []) (id : Option Int) :
    (r.absorb [.returned (.ok id)]).1 =
      if r.failed || id.any (· < 0) then r.leave (.exit 1) else r.rest := by
  simp only [absorb, returned, hstage, hduties]
  split <;> rfl

theorem absorb_cycling (hstage : r.stage = .cycling deadline) (hduties : r.duties = [])
    (code : Option Int) :
    (r.absorb [.returned (.ok code)]).1 =
      if code.getD 0 = 0 then { r with stage := .resting deadline }
      else r.leave (.exit (code.getD 0)) := by
  simp only [absorb, returned, hstage, hduties]
  split <;> simp [hduties, leave]

theorem absorb_told {duty : Duty} {outer : List Duty} (hduties : r.duties = duty :: outer)
    (o : Outcome) :
    ∃ raised, (r.absorb [.returned o]).1 = { r with duties := .finish raised :: outer } := by
  cases o with
  | ok => exact ⟨false, by simp [absorb, returned, hduties]⟩
  | error => exact ⟨true, by simp [absorb, returned, hduties]⟩

theorem poised_returned_asked (hstage : r.stage = .asked) (hduties : r.duties = [])
    (hstack : r.loop.stack = []) (o : Outcome) : (r.absorb [.returned o]).1.Poised := by
  cases o with
  | error f =>
    rw [absorb_error (.inl hstage) hduties]
    exact poised_leave hduties hstack _
  | ok id =>
    rw [absorb_asked hstage hduties]
    split
    · exact poised_leave hduties hstack _
    · exact poised_rest hduties hstack

theorem poised_returned_cycling (hstage : r.stage = .cycling deadline) (hduties : r.duties = [])
    (hstack : r.loop.stack = []) (o : Outcome) : (r.absorb [.returned o]).1.Poised := by
  cases o with
  | error f =>
    rw [absorb_error (.inr ⟨_, hstage⟩) hduties]
    exact poised_leave hduties hstack _
  | ok code =>
    rw [absorb_cycling hstage hduties]
    split
    · exact poised_of_eq (.resting deadline) rfl hduties hstack
    · exact poised_leave hduties hstack _

theorem poised_fail (hstage : r.stage = .cycling deadline) (hduties : r.duties = []) (d : Int)
    (f : Fault) : (r.hear (r.loop.fail d [] f)).Poised := by
  rw [Loop.fail_eq, hear_append (.notices _)]
  exact poised_returned_cycling (r := { r with loop := { r.loop with stack := [] } }) hstage
    hduties rfl _

theorem poised_told (hg : Ground r.stage base) (ht : Telling r.duties upper) (i : Invocation)
    (x : Option Int) (hstack : r.loop.stack = .notifying i (.ok x) :: (upper ++ base)) :
    (r.absorb [.invoke i]).1.Poised := by
  have htelling : Telling (r.told i.what).1.duties (.notifying i (.ok x) :: upper) :=
    .cons ⟨i, x, rfl⟩ ht
  exact poised_calling (r := (r.told i.what).1) hg htelling hstack

theorem poised_comeBack (hg : Ground r.stage base) (ht : Telling r.duties upper)
    (hstack : r.loop.stack = upper ++ base) (o : Outcome) :
    (r.hear (r.loop.comeBack o)).Poised := by
  obtain ⟨duties, hduties⟩ : ∃ duties, r.duties = duties := ⟨_, rfl⟩
  rw [hduties] at ht
  cases ht with
  | @cons duty f outer below hf ht =>
    obtain ⟨i, x, rfl⟩ := hf
    have hidle : r.loop.isIdle = true := by simp [Loop.isIdle, hstack]
    obtain ⟨raised, hreturned⟩ := absorb_told hduties o
    rw [Loop.comeBack_of_idle hidle, hear, hreturned]
    exact poised_calling (r := { r with duties := .finish raised :: outer }) hg
      (.cons ⟨i, x, rfl⟩ ht) hstack
  | nil =>
    obtain ⟨stage, hstage⟩ : ∃ stage, r.stage = stage := ⟨_, rfl⟩
    rw [hstage] at hg
    cases hg with
    | asked =>
      have hidle : r.loop.isIdle = true := by simp [Loop.isIdle, hstack]
      rw [Loop.comeBack_of_idle hidle]
      exact poised_returned_asked hstage hduties hstack o
    | pumping deadline d h timeoutMs rest =>
      cases o with
      | error f =>
        rw [Loop.comeBack_pumping_error hstack]
        exact poised_fail hstage hduties d f
      | ok x =>
        rw [Loop.comeBack_pumping_ok hstack]
        exact poised_of_eq (r := r) (.calling (.pumping deadline d h timeoutMs rest) .nil) hstage
          hduties hstack

/-- A turn of the session, taken in control of the run or in a pump. -/
theorem poised_turn (hg : Ground r.stage base) (ht : Telling r.duties upper)
    (hstack : r.loop.stack = upper ++ base) {t : Turn} (hplain : Plain t.outputs)
    (htells : t.TellsWell) (hstep : r.loop.step faults m = r.loop.settle t) :
    (r.move faults m).1.Poised := by
  cases hnext : t.next with
  | notify i o =>
    obtain ⟨x, rfl⟩ := htells i o hnext
    rw [move_hear (hstep.trans (Loop.settle_of_notify hnext)), hear_append hplain]
    exact poised_told
      (r := { r with loop := ⟨t.session, t.records, .notifying i (.ok x) :: r.loop.stack⟩ }) hg ht
      i x (congrArg _ hstack)
  | done o =>
    let l : Loop := { r.loop with session := t.session, records := t.records }
    have hsettle : r.loop.settle t = ((l.comeBack o).1, t.outputs ++ (l.comeBack o).2) := by
      simp only [Loop.settle, hnext, l]
    rw [move_hear (hstep.trans hsettle), hear_append hplain]
    exact poised_comeBack (r := { r with loop := l }) hg ht hstack o

theorem poised_finish {duty : Duty} {outer : List Duty} {f : Frame} (hg : Ground r.stage base)
    (ht : Telling (duty :: outer) (f :: upper)) (hstack : r.loop.stack = f :: upper ++ base)
    (raised : Bool) :
    (({ r with duties := outer } : Run).move faults (.finish raised)).1.Poised := by
  cases ht with
  | cons hf ht =>
    obtain ⟨i, x, rfl⟩ := hf
    obtain ⟨logged, hlogged, hstep⟩ := r.loop.finish_comeBack hstack faults raised
    rw [move_hear (r := { r with duties := outer }) hstep, hear_append hlogged]
    let l : Loop := { r.loop with stack := upper ++ base }
    exact poised_comeBack (r := { r with loop := l, duties := outer }) hg ht rfl (.ok x)

theorem poised_advance (hstage : r.stage = .cycling deadline) (hduties : r.duties = [])
    (timeoutMs : Int) (queue : List (Int × Handle)) :
    (r.hear (r.loop.advance timeoutMs queue [])).Poised := by
  obtain ⟨skipped, d, h, later, -, -, -, hnext⟩ | ⟨-, hover⟩ :=
    r.loop.advance_cases timeoutMs queue []
  · rw [hnext]
    exact poised_of_eq (.calling (.pumping deadline d h timeoutMs later) .nil) hstage hduties rfl
  · rw [hover]
    split
    · exact poised_returned_cycling (r := { r with loop := { r.loop with stack := [] } }) hstage
        hduties rfl _
    · exact poised_of_eq (.waiting deadline timeoutMs) hstage hduties rfl

theorem poised_waited (hstage : r.stage = .cycling deadline) (hduties : r.duties = [])
    (timeoutMs : Int) (reported : List Int) (f : Option Fault) :
    (r.hear (r.loop.waited timeoutMs [] reported f)).Poised := by
  unfold Loop.waited
  split
  · exact poised_advance hstage hduties timeoutMs _
  · exact poised_returned_cycling (r := { r with loop := { r.loop with stack := [] } }) hstage
      hduties rfl _
  · exact poised_returned_cycling (r := { r with loop := { r.loop with stack := [] } }) hstage
      hduties rfl _

theorem poised_pumped (hstage : r.stage = .cycling deadline) (hduties : r.duties = [])
    (d timeoutMs : Int) (rest : List (Int × Handle)) (e : PumpEnd) :
    (r.hear (r.loop.pumped d timeoutMs rest [] e)).Poised := by
  cases e with
  | delivered => exact poised_advance hstage hduties timeoutMs rest
  | refused | raised => exact poised_fail hstage hduties d _

theorem cycling_of_isWaiting (hw : r.isWaiting = true) :
    ∃ deadline, r.stage = .cycling deadline ∧ r.duties = [] := by
  unfold isWaiting at hw
  split at hw
  · exact ⟨_, ‹_›, ‹_›⟩
  · cases hw

theorem opening_ne_run (p : Plan) (timeoutMs : Int) : opening p ≠ .run timeoutMs := by
  unfold opening
  split <;> simp

theorem telling_nil (hduties : r.duties = []) : Telling r.duties [] := by
  rw [hduties]
  exact .nil

theorem move_still (hm : r.loop.step faults m = (r.loop, [])) : r.move faults m = (r, []) := by
  rw [move_eq hm]
  rfl

namespace Poised

/-- The stack of a run that waits, with nothing on top of its call. -/
theorem stack_of_isWaiting (h : r.Poised) (hw : r.isWaiting = true) :
    (∃ timeoutMs, r.loop.stack = [.waiting timeoutMs]) ∨
      ∃ d h timeoutMs rest, r.loop.stack = [.pumping d h, .passing timeoutMs rest] := by
  obtain ⟨deadline, hstage, hduties⟩ := cycling_of_isWaiting hw
  rw [Poised, hstage, hduties] at h
  generalize r.loop.stack = stack at h
  cases h with
  | calling hg ht =>
    cases ht
    cases hg
    exact .inr ⟨_, _, _, _, rfl⟩
  | waiting => exact .inl ⟨_, rfl⟩

theorem idle_of_leaving (h : r.Poised) {e : Ending} (hstage : r.stage = .leaving e) :
    r.duties = [] ∧ r.loop.stack = [] := by
  rw [Poised, hstage] at h
  generalize r.duties = duties, r.loop.stack = stack at h
  cases h with
  | calling hg => cases hg
  | leaving => exact ⟨rfl, rfl⟩

theorem duties_of_ended (h : r.Poised) {e : Ending} (hstage : r.stage = .ended e) :
    r.duties = [] := by
  rw [Poised, hstage] at h
  generalize r.duties = duties, r.loop.stack = stack at h
  cases h with
  | calling hg => cases hg
  | ended => rfl

theorem world (h : r.Poised) (hw : r.isWaiting = true) (faults : CloseFaults) (m : Move) :
    (r.move faults m).1.Poised := by
  obtain ⟨deadline, hstage, hduties⟩ := cycling_of_isWaiting hw
  obtain ⟨timeoutMs, hstack⟩ | ⟨d, handle, timeoutMs, rest, hstack⟩ := h.stack_of_isWaiting hw
  · obtain ⟨hwaited, hother⟩ := Loop.step_of_waiting faults m hstack
    cases m with
    | waited reported f =>
      rw [move_hear (hwaited reported f)]
      exact poised_waited hstage hduties timeoutMs reported f
    | _ =>
      rw [move_still (hother nofun)]
      exact h
  · cases m with
    | pumped e =>
      rw [move_hear (Loop.step_of_pumping hstack e)]
      exact poised_pumped hstage hduties d timeoutMs rest e
    | reply address reply =>
      have hg : Ground r.stage [.pumping d handle, .passing timeoutMs rest] := by
        rw [hstage]
        exact .pumping deadline d handle timeoutMs rest
      refine poised_turn hg (telling_nil hduties) hstack
        (Session.plain_onReply faults r.loop.session r.loop.records address reply)
        (Session.transition_reply _ _ address reply).tellsWell_reply ?_
      simp [Loop.step, hstack]
    | request | finish | waited =>
      rw [move_still (by simp [Loop.step, Loop.isIdle, hstack])]
      exact h

theorem request (hgiven : r.loop.session.ownsProvider = false) (hg : Ground r.stage base)
    (ht : Telling r.duties upper) (hstack : r.loop.stack = upper ++ base)
    (hidle : r.loop.isIdle = true) {request : Request} (hr : ∀ timeoutMs, request ≠ .run timeoutMs)
    (answer : StartAnswer) : (r.move faults (.request request answer)).1.Poised := by
  obtain ⟨t, hplain, htells, hsettle⟩ := Loop.plain_turn hgiven faults hr answer
  exact poised_turn hg ht hstack hplain htells
    ((Loop.step_request hidle request answer).trans hsettle)

theorem rest (hstage : r.stage = .resting deadline) (hduties : r.duties = [])
    (hstack : r.loop.stack = []) (answer : StartAnswer) : (r.proceed faults answer).1.Poised := by
  by_cases hover : r.isOver deadline = true
  · have hproceed : r.proceed faults answer = (r.leave (.exit r.exitCode), []) := by
      simp [proceed, hduties, hstage, hover]
    rw [hproceed]
    exact poised_leave hduties hstack _
  · have hproceed : r.proceed faults answer =
        ({ r with stage := .cycling deadline } : Run).move faults
          (.request (.run (cycleMs r.plan)) answer) := by
      simp [proceed, hduties, hstage, hover]
    have hidle : r.loop.isIdle = true := by simp [Loop.isIdle, hstack]
    have hstep : r.loop.step faults (.request (.run (cycleMs r.plan)) answer) = _ :=
      Loop.step_request hidle _ answer
    rw [hproceed]
    by_cases hclosed : r.loop.session.closed = true
    · rw [Loop.request, if_pos hclosed] at hstep
      rw [move_eq (r := { r with stage := .cycling deadline }) hstep]
      exact poised_returned_cycling (r := { r with stage := .cycling deadline })
        rfl hduties hstack _
    · rw [Loop.request, if_neg hclosed, hstack] at hstep
      rw [move_eq (r := { r with stage := .cycling deadline }) hstep]
      exact poised_of_eq (.waiting deadline (cycleMs r.plan)) rfl hduties rfl

theorem tell (hgiven : r.loop.session.ownsProvider = false) (hg : Ground r.stage base)
    (ht : Telling r.duties upper) (hstack : r.loop.stack = upper ++ base) (answer : StartAnswer) :
    (r.proceed faults answer).1.Poised := by
  obtain ⟨duties, hduties⟩ : ∃ duties, r.duties = duties := ⟨_, rfl⟩
  rw [hduties] at ht
  cases duties with
  | nil =>
    have hstage : r.stage = .asked ∨ ∃ deadline, r.stage = .cycling deadline := by
      generalize r.stage = stage at hg
      cases hg with
      | asked => exact .inl rfl
      | pumping deadline => exact .inr ⟨deadline, rfl⟩
    have hproceed : r.proceed faults answer = (r, []) := by
      obtain hstage | ⟨deadline, hstage⟩ := hstage <;> simp [proceed, hduties, hstage]
    rw [hproceed]
    exact poised_calling hg (hduties.symm ▸ ht) hstack
  | cons duty outer =>
    cases duty with
    | resolve id =>
      have hproceed : r.proceed faults answer =
          ({ r with duties := .finish false :: outer } : Run).move faults
            (.request (.resolve id client) answer) := by
        simp [proceed, hduties]
      rw [hproceed]
      exact request (r := { r with duties := .finish false :: outer }) hgiven hg ht.retell hstack
        (ht.isIdle hstack)
        (by simp) answer
    | finish raised =>
      have hproceed : r.proceed faults answer =
          ({ r with duties := outer } : Run).move faults (.finish raised) := by
        simp [proceed, hduties]
      rw [hproceed]
      cases upper with
      | nil => cases ht
      | cons f upper => exact poised_finish hg ht hstack raised

theorem proceed (h : r.Poised) (hplan : r.plan.ownsProvider = false)
    (hgiven : r.loop.session.ownsProvider = false)
    (hopen : r.stage.ended? = none → r.loop.session.closed = false) (answer : StartAnswer) :
    (r.proceed faults answer).1.Poised := by
  have hp := h
  rw [Poised] at h
  obtain ⟨stage, hstage⟩ : ∃ stage, r.stage = stage := ⟨_, rfl⟩
  obtain ⟨duties, hduties⟩ : ∃ duties, r.duties = duties := ⟨_, rfl⟩
  obtain ⟨stack, hstack⟩ : ∃ stack, r.loop.stack = stack := ⟨_, rfl⟩
  rw [hstage, hduties, hstack] at h
  cases h with
  | opening =>
    have hproceed : (r.proceed faults answer).1 =
        (({ r with stage := .asked } : Run).move faults (.request (opening r.plan) answer)).1 := by
      simp [Run.proceed, hduties, hstage]
    rw [hproceed]
    exact request (r := { r with stage := .asked }) hgiven .asked (telling_nil hduties) hstack
      (by simp [Loop.isIdle, hstack]) (opening_ne_run r.plan) answer
  | calling hg ht => exact tell hgiven (hstage ▸ hg) (hduties ▸ ht) hstack answer
  | resting deadline => exact rest hstage hduties hstack answer
  | waiting | ended =>
    have hproceed : r.proceed faults answer = (r, []) := by simp [Run.proceed, hduties, hstage]
    rw [hproceed]
    exact hp
  | leaving e =>
    obtain ⟨loop, events, hclose, -⟩ :=
      close_eq faults hstage hduties hstack (hopen (hstage ▸ rfl)) hplan
    have hproceed : r.proceed faults answer = r.close faults e := by
      simp [Run.proceed, hduties, hstage]
    rw [hproceed, hclose]
    exact poised_of_eq (.ended e loop.stack) rfl hduties rfl

/-- What one step preserves. -/
theorem step (h : r.Poised) (hplan : r.plan.ownsProvider = false)
    (hgiven : r.loop.session.ownsProvider = false)
    (hopen : r.stage.ended? = none → r.loop.session.closed = false) (faults : CloseFaults)
    (i : Input) : (r.step faults i).1.Poised := by
  cases i with
  | proceed now answer => exact proceed (r := { r with now }) h hplan hgiven hopen answer
  | signal name =>
    rw [Run.step]
    split <;> exact h
  | world m =>
    rw [Run.step]
    split
    · exact h.world ‹_› faults m
    · exact h

end Poised
end Run
end Command
end ServiceDiscovery
