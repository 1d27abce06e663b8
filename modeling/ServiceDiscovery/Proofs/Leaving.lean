import ServiceDiscovery.Proofs.ExitStatus
import ServiceDiscovery.Proofs.Poised

/-!
How a run of the command leaves. Whatever ends it, its session is closed and nothing is printed from
then on; with it all its handles are closed, and the signals are given back. The provider that it
was given stays open.
-/
namespace ServiceDiscovery.Command

def Event.output? : Event → Option Output
  | .session o => some o
  | _ => none

def outputs (es : List Event) : List Output := es.filterMap Event.output?

@[simp] theorem outputs_append (a b : List Event) : outputs (a ++ b) = outputs a ++ outputs b :=
  List.filterMap_append

def Event.isMark : Event → Bool
  | .catchSignals | .restoreSignals | .closeProvider | .ended _ => true
  | _ => false

def marks (es : List Event) : List Event := es.filter Event.isMark

@[simp] theorem marks_append (a b : List Event) : marks (a ++ b) = marks a ++ marks b :=
  List.filter_append ..

def Stage.marks : Stage → List Event
  | .opening => []
  | .ended e => [.catchSignals, .restoreSignals, .ended e]
  | _ => [.catchSignals]

theorem Stage.ended?_eq_of_marks {s s' : Stage} (h : s.marks = s'.marks) :
    s.ended? = s'.ended? := by
  cases s <;> cases s' <;> simp_all [Stage.marks, Stage.ended?]

theorem endings_marks (es : List Event) : endings (marks es) = endings es := by
  rw [endings, marks, List.filterMap_filter]
  refine List.filterMap_congr fun e _ => ?_
  cases e <;> rfl

theorem Stage.endings_marks (s : Stage) : endings s.marks = s.ended?.toList := by cases s <;> rfl

namespace Run
variable {faults : CloseFaults} {r : Run} {m : Move} {es : List Event} {os : List Output}
  {deadline : Option Rat}

structure Hears (r : Run) (os : List Output) (x : Run × List Event) : Prop where
  loop : x.1.loop = r.loop
  stage : x.1.stage.marks = r.stage.marks
  marks : marks x.2 = []
  outputs : outputs x.2 = os

theorem hears_told (r : Run) (what : Notification) : r.Hears [] (r.told what) :=
  ⟨rfl, rfl, rfl, rfl⟩

theorem hears_stage {stage : Stage} {events : List Event} (hstage : stage.marks = r.stage.marks)
    (hmarks : Command.marks events = []) (houtputs : Command.outputs events = []) :
    r.Hears [] ({ r with stage }, events) := ⟨rfl, hstage, hmarks, houtputs⟩

theorem hears_returned (r : Run) (o : Outcome) : r.Hears [] (r.returned o) := by
  unfold returned
  split
  · exact ⟨rfl, rfl, rfl, rfl⟩
  · exact ⟨rfl, rfl, rfl, rfl⟩
  · rename_i hstage
    exact hears_stage (hstage ▸ rfl) rfl rfl
  · rename_i hstage
    split
    · exact hears_stage (hstage ▸ rfl) rfl rfl
    · obtain ⟨deadline, hrest⟩ | ⟨hrest, -⟩ := rest_cases r
      · rw [hrest]
        exact hears_stage (hstage ▸ rfl) rfl rfl
      · rw [hrest]
        exact hears_stage (hstage ▸ rfl) rfl rfl
  · rename_i hstage
    exact hears_stage (hstage ▸ rfl) rfl rfl
  · rename_i hstage
    dsimp only
    split
    · exact hears_stage (hstage ▸ rfl) rfl rfl
    · exact hears_stage (hstage ▸ rfl) rfl rfl
  · exact ⟨rfl, rfl, rfl, rfl⟩

theorem Hears.session {x y : Run × List Event} (h : r.Hears [] x) (hy : x.1.Hears os y)
    (o : Output) :
    r.Hears (o :: os) (y.1, .session o :: x.2 ++ y.2) where
  loop := hy.loop.trans h.loop
  stage := hy.stage.trans h.stage
  marks := by
    have hlater : Command.marks (x.2 ++ y.2) = [] := by
      rw [marks_append, h.marks, hy.marks, List.append_nil]
    exact hlater
  outputs := by
    have hlater : Command.outputs (x.2 ++ y.2) = os := by
      rw [outputs_append, h.outputs, hy.outputs, List.nil_append]
    exact congrArg (o :: ·) hlater

theorem hears_absorb (r : Run) (os : List Output) : r.Hears os (r.absorb os) := by
  induction os generalizing r with
  | nil => exact ⟨rfl, rfl, rfl, rfl⟩
  | cons o os ih =>
    cases o with
    | invoke i => exact (hears_told r i.what).session (ih _) _
    | returned o => exact (hears_returned r o).session (ih _) _
    | _ => exact (hears_stage rfl rfl rfl : r.Hears [] (r, [])).session (ih _) _

theorem hears_move (r : Run) (faults : CloseFaults) (m : Move) :
    Hears { r with loop := (r.loop.step faults m).1 } (r.loop.step faults m).2 (r.move faults m) :=
      hears_absorb _ _

theorem namesTransport_opening (p : Plan) (answer : StartAnswer) :
    (Move.request (opening p) answer).NamesTransport := by
  rintro a c answer' hm
  cases haction : p.action with
  | announce =>
    obtain ⟨rfl, -⟩ : advertisement p = a ∧ client = c := by
      simpa [opening, haction] using (Move.request.inj hm).1
    exact Option.isSome_of_eq_some (Transport.ofCode?_code p.service.transport)
  | browse resolve => simp [opening, haction] at hm

theorem opening_ne_close (p : Plan) : opening p ≠ .close := by
  unfold opening
  split <;> exact nofun

structure Clean (es : List Event) (r : Run) : Prop where
  given : r.plan.ownsProvider = false
  shut : r.loop.session.closed = r.stage.ended?.isSome
  kept : r.loop.Kept (outputs es)
  marks : marks es = r.stage.marks

namespace Clean

theorem restage (h : Clean es r) {stage : Stage} {events : List Event}
    (hended : stage.ended? = r.stage.ended?)
    (hmarks : stage.marks = r.stage.marks ++ Command.marks events)
    (houtputs : outputs events = []) :
    Clean (es ++ events) { r with stage } where
  given := h.given
  shut := h.shut.trans (by rw [hended])
  kept := by
    rw [outputs_append, houtputs, List.append_nil]
    exact h.kept
  marks := by rw [marks_append, h.marks, hmarks]

theorem move (h : Clean es r) (hm : m.NamesTransport)
    (hclose : ∀ answer, m ≠ .request .close answer) (faults : CloseFaults) :
    Clean (es ++ (r.move faults m).2) (r.move faults m).1 := by
  have hheard := hears_move r faults m
  constructor
  · rw [plan_move]
    exact h.given
  · rw [hheard.loop, Loop.closed_step h.kept.sound hclose, h.shut,
      Stage.ended?_eq_of_marks hheard.stage]
  · rw [outputs_append, hheard.outputs, hheard.loop]
    exact h.kept.step hm faults
  · rw [marks_append, hheard.marks, List.append_nil, h.marks, hheard.stage]

theorem close (h : Clean es r) {e : Ending} (hstage : r.stage = .leaving e)
    (hidle : r.loop.isIdle = true) (faults : CloseFaults) :
    Clean (es ++ (r.close faults e).2) (r.close faults e).1 := by
  let m : Move := .request .close (.refused ⟨ErrorCode.noError, ""⟩)
  have hheard := hears_move r faults m
  have hgiven : (r.move faults m).1.plan.ownsProvider = false := plan_move faults r m ▸ h.given
  have hclose : r.close faults e =
      ({ (r.move faults m).1 with stage := .ended e }, (r.move faults m).2 ++
        [.restoreSignals, .ended e]) := by
    simp [Run.close, closeProvider, hgiven, m]
  rw [hclose]
  constructor
  · exact hgiven
  · show (r.move faults m).1.loop.session.closed = true
    rw [hheard.loop]
    exact Loop.closed_step_close hidle faults _
  · show (r.move faults m).1.loop.Kept _
    have houtputs : outputs [Event.restoreSignals, .ended e] = [] := rfl
    rw [outputs_append, outputs_append, houtputs, List.append_nil, hheard.outputs, hheard.loop]
    exact h.kept.step (by simp [Move.NamesTransport, m]) faults
  · have hmarks : Command.marks [Event.restoreSignals, .ended e] = [.restoreSignals, .ended e] :=
      rfl
    rw [marks_append, marks_append, hheard.marks, hmarks, h.marks, hstage]
    rfl

theorem retell (h : Clean es r) (duties : List Duty) : Clean es { r with duties } :=
  ⟨h.given, h.shut, h.kept, h.marks⟩

theorem proceed (h : Clean es r) (hp : r.Poised) (faults : CloseFaults) (answer : StartAnswer) :
    Clean (es ++ (r.proceed faults answer).2) (r.proceed faults answer).1 := by
  have hstill : Clean (es ++ []) r := (List.append_nil es).symm ▸ h
  unfold Run.proceed
  split
  · exact (h.retell _).move (by simp [Move.NamesTransport]) (by simp) faults
  · exact (h.retell _).move (by simp [Move.NamesTransport]) (by simp) faults
  · rename_i hstage
    have hasked : Clean (es ++ [.catchSignals]) { r with stage := .asked } :=
      h.restage (hstage ▸ rfl) (hstage ▸ rfl) rfl
    have hmoved :=
      hasked.move (namesTransport_opening r.plan answer) (by simp [opening_ne_close]) faults
    rwa [List.append_assoc] at hmoved
  · rename_i deadline hduties hstage
    split
    · exact h.restage (hstage ▸ rfl) (hstage ▸ rfl) rfl
    · have hcycling : Clean (es ++ []) { r with stage := .cycling deadline } :=
        h.restage (hstage ▸ rfl) (hstage ▸ rfl) rfl
      rw [List.append_nil] at hcycling
      exact hcycling.move (by simp [Move.NamesTransport]) (by simp) faults
  · rename_i e hduties hstage
    obtain ⟨-, hstack⟩ := hp.idle_of_leaving hstage
    exact h.close hstage (by simp [Loop.isIdle, hstack]) faults
  · exact hstill

theorem world (h : Clean es r) (hp : r.Poised) (hw : r.isWaiting = true) (faults : CloseFaults)
    (m : Move) : Clean (es ++ (r.move faults m).2) (r.move faults m).1 := by
  cases m with
  | request request answer =>
    -- Nobody but the provider is in control.
    have hbusy : r.loop.isIdle = false := by
      obtain ⟨timeoutMs, hstack⟩ | ⟨d, handle, timeoutMs, rest, hstack⟩ :=
        hp.stack_of_isWaiting hw <;>
        simp [Loop.isIdle, hstack]
    rw [move_still (by simp [Loop.step, hbusy])]
    exact (List.append_nil es).symm ▸ h
  | _ => exact h.move (by simp [Move.NamesTransport]) (by simp) faults

/-- What one step preserves. -/
theorem step (h : Clean es r) (hp : r.Poised) (faults : CloseFaults) (i : Input) :
    Clean (es ++ (r.step faults i).2) (r.step faults i).1 := by
  have hstill : Clean (es ++ []) r := (List.append_nil es).symm ▸ h
  cases i with
  | proceed now answer =>
    exact proceed (r := { r with now }) ⟨h.given, h.shut, h.kept, h.marks⟩ hp faults answer
  | signal name =>
    rw [Run.step]
    split
    · have hstopping : Clean (es ++ [.notice (.stopping name)]) { r with stage := r.stage } :=
        h.restage rfl (List.append_nil _).symm rfl
      exact ⟨h.given, h.shut, hstopping.kept, hstopping.marks⟩
    · exact hstill
  | world m =>
    rw [Run.step]
    split
    · exact h.world hp ‹_› faults m
    · exact hstill

theorem poised_step (h : Clean es r) (hp : r.Poised) (faults : CloseFaults) (i : Input) :
    (r.step faults i).1.Poised := by
  refine hp.step h.given h.kept.given (fun hgoes => ?_) faults i
  rw [h.shut, hgoes]
  rfl

/-- What a whole run preserves. -/
theorem steps (h : Clean es r) (hp : r.Poised) (xs : List (CloseFaults × Input)) :
    Clean (es ++ (Run.steps xs r).2) (Run.steps xs r).1 ∧ (Run.steps xs r).1.Poised := by
  induction xs generalizing r es with
  | nil => exact ⟨(List.append_nil es).symm ▸ h, hp⟩
  | cons x xs ih =>
    obtain ⟨hclean, hpoised⟩ := ih (h.step hp x.1 x.2) (h.poised_step hp x.1 x.2)
    rw [List.append_assoc] at hclean
    exact ⟨hclean, hpoised⟩

end Clean

theorem clean_start {plan : Plan} (hgiven : plan.ownsProvider = false) :
    Clean [] (start plan) ∧ (start plan).Poised := by
  let k : History := .start plan.uuid {} false {}
  have hkept : (start plan).loop.Kept [] :=
    ⟨k.sound, k.ownApart, rfl, ⟨.nil, fun _ => rfl⟩, by simp⟩
  exact ⟨⟨hgiven, rfl, hkept, rfl⟩, .opening⟩

theorem stage_move (r : Run) (faults : CloseFaults) (m : Move) :
    (r.move faults m).1.stage.ended? = r.stage.ended? :=
      Stage.ended?_eq_of_marks (hears_move r faults m).stage

/-- Only a run that is to end ends in a step. -/
theorem ended?_step (hl : ∀ e, r.stage ≠ .leaving e) (faults : CloseFaults) (i : Input) :
    (r.step faults i).1.stage.ended? = r.stage.ended? := by
  cases i with
  | proceed now answer =>
    simp only [step, proceed]
    split
    · exact stage_move _ faults _
    · exact stage_move _ faults _
    · rename_i hstage
      exact (stage_move _ faults _).trans (hstage ▸ rfl)
    · rename_i hstage
      split
      · exact hstage ▸ rfl
      · exact (stage_move _ faults _).trans (hstage ▸ rfl)
    · rename_i hstage
      exact absurd hstage (hl _)
    · rfl
  | signal name =>
    rw [step]
    split <;> rfl
  | world m =>
    rw [step]
    split
    · exact stage_move r faults m
    · rfl

namespace Clean

theorem open_of_leaving (h : Clean es r) {e : Ending} (hstage : r.stage = .leaving e) :
    r.loop.session.closed = false := by
  rw [h.shut, hstage]
  rfl

theorem step_leaving (h : Clean es r) (hp : r.Poised) {e : Ending} (hstage : r.stage = .leaving e)
    (faults : CloseFaults) (i : Input) : lines (r.step faults i).2 = [] ∧
      ∀ now answer, i = .proceed now answer → endings (r.step faults i).2 = [e] := by
  obtain ⟨hduties, hstack⟩ := hp.idle_of_leaving hstage
  cases i with
  | proceed now answer =>
    obtain ⟨loop, events, hclose, -, hlines, -, hends⟩ :=
      close_eq (r := { r with now }) faults hstage hduties hstack (h.open_of_leaving hstage) h.given
    have hstep : r.step faults (.proceed now answer) = ({ r with now } : Run).close faults e := by
      simp [Run.step, Run.proceed, hduties, hstage]
    rw [hstep, hclose]
    exact ⟨hlines, fun _ _ _ => hends⟩
  | signal name =>
    refine ⟨?_, by simp⟩
    rw [Run.step]
    split <;> rfl
  | world m =>
    refine ⟨?_, by simp⟩
    have hbusy : r.isWaiting = false := by simp [isWaiting, hduties, hstage]
    rw [Run.step, if_neg (by simp [hbusy])]
    rfl

end Clean

theorem events_cons (x : CloseFaults × Input) (xs : List (CloseFaults × Input)) (r : Run) :
    (steps (x :: xs) r).2 = (r.step x.1 x.2).2 ++ (steps xs (r.step x.1 x.2).1).2 := rfl

theorem steps_ended {e : Ending} (hstage : r.stage = .ended e) (hduties : r.duties = [])
    (xs : List (CloseFaults × Input)) : (steps xs r).2 = [] ∧ (steps xs r).1.stage = .ended e := by
  induction xs generalizing r with
  | nil => exact ⟨rfl, hstage⟩
  | cons x xs ih =>
    obtain ⟨now, hstep⟩ : ∃ now, r.step x.1 x.2 = ({ r with now }, []) := by
      obtain ⟨faults, i⟩ := x
      cases i with
      | proceed now answer => exact ⟨now, step_ended hstage hduties faults now answer⟩
      | signal name => exact ⟨r.now, by rw [step, if_neg (by simp [catchesSignals, hstage])]⟩
      | world m => exact ⟨r.now, by rw [step, if_neg (by simp [isWaiting, hduties, hstage])]⟩
    have hlater := ih (r := { r with now }) hstage hduties
    simpa [steps, hstep] using hlater

/-- A run that ends does so in one of its steps. In it and after it nothing is printed. -/
theorem Clean.lines_steps (h : Clean es r) (hp : r.Poised) (hgoes : r.stage.ended? = none)
    {xs : List (CloseFaults × Input)} {e : Ending} (hends : (Run.steps xs r).1.stage = .ended e) :
    ∃ ys x zs, xs = ys ++ x :: zs ∧ (Run.steps ys r).1.stage.ended? = none ∧
      (Run.steps (ys ++ [x]) r).1.stage = .ended e ∧
      lines (Run.steps xs r).2 = lines (Run.steps ys r).2 := by
  induction xs generalizing r es with
  | nil =>
    rw [show r.stage = .ended e from hends] at hgoes
    cases hgoes
  | cons x xs ih =>
    have hclean := h.step hp x.1 x.2
    have hpoised := h.poised_step hp x.1 x.2
    cases hstage : (r.step x.1 x.2).1.stage with
    | ended e' =>
      obtain ⟨hlater, hended⟩ := steps_ended hstage (hpoised.duties_of_ended hstage) xs
      obtain rfl : e' = e := Stage.ended.inj (hended.symm.trans hends)
      obtain ⟨e, hleaving⟩ : ∃ e, r.stage = .leaving e := by
        by_contra hl
        have hsame := ended?_step (not_exists.mp hl) x.1 x.2
        rw [hstage, hgoes] at hsame
        cases hsame
      refine ⟨[], x, xs, rfl, hgoes, hstage, ?_⟩
      obtain ⟨hlines, -⟩ := h.step_leaving hp hleaving x.1 x.2
      rw [events_cons, lines_append, hlines, hlater]
      rfl
    | _ =>
      obtain ⟨ys, y, zs, rfl, hys, hy, hlines⟩ := ih hclean hpoised (by rw [hstage]; rfl) hends
      refine ⟨x :: ys, y, zs, rfl, hys, hy, ?_⟩
      rw [events_cons, events_cons, lines_append, lines_append, hlines]

theorem Clean.stage_of_endings (h : Clean es r) {e : Ending} (he : e ∈ endings es) :
    r.stage = .ended e := by
  rw [← endings_marks, h.marks, Stage.endings_marks] at he
  cases hstage : r.stage with
  | ended e' =>
    obtain rfl : e = e' := by simpa [hstage, Stage.ended?] using he
    rfl
  | _ => simp [hstage, Stage.ended?] at he

/-- How a run leaves a provider that was given to it, over any history and whatever fails. When it
has ended, with an exit status or by a fault, the handles that were returned to it are closed, each
as often as it was returned; the signals were caught and given back; the provider was not closed;
and the step that closed the session, and those after it, printed nothing. A run that is to end does
end when it is next in control. Faults are errors that a program can catch, not what stops its
interpreter; and the handlers that signals are given back to are ones that the program could have
installed itself. -/
theorem leaves_clean {plan : Plan} (hgiven : plan.ownsProvider = false)
    (xs : List (CloseFaults × Input)) :
    let r := (steps xs (start plan)).1
    let events := (steps xs (start plan)).2
    (∀ e ∈ endings events,
      (releases (outputs events)).Perm ((openings (outputs events)).map (·.handle)) ∧
      marks events = [.catchSignals, .restoreSignals, .ended e] ∧
      Output.closeProvider ∉ outputs events ∧
      ∃ ys x zs, xs = ys ++ x :: zs ∧ (steps ys (start plan)).1.loop.session.closed = false ∧
        (steps (ys ++ [x]) (start plan)).1.loop.session.closed = true ∧
        lines events = lines (steps ys (start plan)).2) ∧
    ∀ e faults now answer, r.stage = .leaving e →
      endings (r.step faults (.proceed now answer)).2 = [e] := by
  intro r events
  obtain ⟨hclean, hpoised⟩ := clean_start hgiven
  have hsteps (xs : List (CloseFaults × Input)) :
      Clean (steps xs (start plan)).2 (steps xs (start plan)).1 :=
    (hclean.steps hpoised xs).1
  refine ⟨fun e he => ?_, fun e faults now answer hstage => ?_⟩
  · have hstage : r.stage = .ended e := (hsteps xs).stage_of_endings he
    have hclosed : r.loop.session.closed = true := by
      rw [(hsteps xs).shut, hstage]
      rfl
    have hbalanced := (hsteps xs).kept.balanced
    have hreturned := hbalanced.returned
    rw [hbalanced.shut hclosed, List.nil_append] at hreturned
    have hmarks : marks events = r.stage.marks := (hsteps xs).marks
    obtain ⟨ys, x, zs, hxs, hys, hx, hlines⟩ := hclean.lines_steps hpoised rfl hstage
    refine ⟨hreturned.symm, hmarks.trans (hstage ▸ rfl), (hsteps xs).kept.provider, ys, x, zs, hxs,
      ?_, ?_, hlines⟩
    · rw [(hsteps ys).shut, hys]
      rfl
    · rw [(hsteps (ys ++ [x])).shut, hx]
      rfl
  · exact ((hsteps xs).step_leaving (hclean.steps hpoised xs).2 hstage faults _).2 now answer rfl

def resolving : Plan where
  action := .browse true
  uuid := "A"

def raisedInPump : List (CloseFaults × Input) :=
  [({}, .proceed 0 (.started 1 3)), ({}, .proceed 0 (.refused ⟨0, ""⟩)),
    ({}, .world (.waited [3] none)),
    ({}, .world (.reply (.browse 1) (.browse 2 4 0 "B" (some "_ndn._udp.") (some "local.")))),
    ({}, .proceed 0 (.started 2 4)), ({}, .proceed 0 (.refused ⟨0, ""⟩)),
    ({}, .world (.pumped (.raised (.failed "lost")))),
    ({ handle := fun _ => some (.failed "stuck") }, .proceed 0 (.refused ⟨0, ""⟩))]

theorem leaves_clean_raisedInPump :
    let events := (steps raisedInPump (start resolving)).2
    resolving.ownsProvider = false ∧ lines events = ["ADDED B _ndn._udp. local."] ∧
    endings events = [.escaped (.failed "lost")] ∧ (releases (outputs events)).Perm [1, 2] ∧
    marks events = [.catchSignals, .restoreSignals, .ended (.escaped (.failed "lost"))] ∧
    Output.closeProvider ∉ outputs events := by
  intro events
  have hlines : lines events = ["ADDED B _ndn._udp. local."] := by decide +kernel
  have hendings : endings events = [.escaped (.failed "lost")] := by decide +kernel
  have hopenings : (openings (outputs events)).map (·.handle) = [1, 2] := by decide +kernel
  have hgiven : resolving.ownsProvider = false := rfl
  obtain ⟨hends, -⟩ := leaves_clean hgiven raisedInPump
  obtain ⟨hreleases, hmarks, hprovider, -⟩ :=
    hends (.escaped (.failed "lost")) (hendings ▸ List.mem_singleton_self _)
  exact ⟨hgiven, hlines, hendings, hopenings ▸ hreleases, hmarks, hprovider⟩

end Run
end ServiceDiscovery.Command
