import ServiceDiscovery.Proofs.Leaving

/-!
The phases of a run of the command that has a deadline, and all that one step can do about them.
Callbacks come back after finitely many steps of the run, each pump makes a pass shorter, and each
waiting call waits once.
-/
namespace ServiceDiscovery

/-- A move other than closing the session leaves it open. -/
theorem Loop.open_step {l : Loop} {m : Move} (hs : l.session.Sound)
    (hopen : l.session.closed = false) (hm : ∀ answer, m ≠ .request .close answer)
    (faults : CloseFaults) :
    (l.step faults m).1.session.Sound ∧ (l.step faults m).1.session.closed = false := by
  refine ⟨?_, (closed_step hs hm faults).trans hopen⟩
  obtain hk | ⟨t, he, ht⟩ := step_cases hs faults m
  · exact hk.session ▸ hs
  · exact ht.session ▸ he.sound hs

namespace Command

inductive Floor
  | asked
  | passing (deadline : ℚ) (left : List (Int × Handle))

inductive Phase
  | opening
  | calling (floor : Floor) (duties : List Duty)
  | resting (deadline : ℚ)
  | waiting (deadline : ℚ)
  | leaving (e : Ending)
  | ended (e : Ending)

def Phase.stage : Phase → Stage
  | .opening => .opening
  | .calling .asked _ => .asked
  | .calling (.passing deadline _) _ => .cycling (some deadline)
  | .resting deadline => .resting (some deadline)
  | .waiting deadline => .cycling (some deadline)
  | .leaving e => .leaving e
  | .ended e => .ended e

def Duty.load : Duty → Nat
  | .resolve _ => 3
  | .finish _ => 1

def load (duties : List Duty) : Nat := (duties.map Duty.load).sum

@[simp] theorem load_nil : load [] = 0 := rfl
@[simp] theorem load_cons (d : Duty) (ds : List Duty) : load (d :: ds) = d.load + load ds := rfl
@[simp] theorem Duty.load_resolve (id : RecordId) : (Duty.resolve id).load = 3 := rfl
@[simp] theorem Duty.load_finish (raised : Bool) : (Duty.finish raised).load = 1 := rfl

theorem Duty.load_pos (d : Duty) : 0 < d.load := by cases d <;> simp

namespace Plan
variable {p : Plan} {waits waits' : Fault → Prop} {e : Ending}

/-- How a run may end: with some status, or with the fault of a time that is too large or of a
wait. -/
def Ends (p : Plan) (waits : Fault → Prop) (e : Ending) : Prop :=
  ∃ status, p.EndsWith waits status e

theorem ends_exit (p : Plan) (waits : Fault → Prop) (code : Int) : p.Ends waits (.exit code) :=
  ⟨code, .inl rfl⟩

theorem ends_overlong (h : p.Overlong) (waits : Fault → Prop) :
    p.Ends waits (.escaped .waitTooLong) :=
  ⟨0, .inr ⟨_, rfl, rfl, .inl ⟨rfl, h⟩⟩⟩

theorem ends_wait (p : Plan) {f : Fault} (h : waits f) : p.Ends waits (.escaped f) :=
  ⟨0, .inr ⟨_, rfl, rfl, .inr h⟩⟩

theorem Ends.mono (h : p.Ends waits e) (hwaits : ∀ f, waits f → waits' f) : p.Ends waits' e := by
  obtain ⟨status, hexit | ⟨f, rfl, hzero, hf⟩⟩ := h
  · exact ⟨status, .inl hexit⟩
  · exact ⟨status, .inr ⟨f, rfl, hzero, hf.imp_right (hwaits f)⟩⟩

end Plan

def Floor.Bears (cycleMs : Int) : Floor → Stage → List Frame → Prop
  | .asked, stage, base => stage = .asked ∧ base = []
  | .passing deadline left, stage, base =>
    stage = .cycling (some deadline) ∧ ∃ d h, base = [.pumping d h, .passing cycleMs left]

namespace Run
variable {faults : CloseFaults} {r : Run} {m : Move} {i : Input} {φ : Phase} {floor : Floor}
  {base upper : List Frame} {deadline : ℚ} {o : Outcome}

@[reducible]
def At (r : Run) : Phase → Prop
  | .opening => r.stage = .opening ∧ r.duties = [] ∧ r.loop.stack = []
  | .calling floor duties => r.duties = duties ∧ (floor = .asked → duties ≠ []) ∧ ∃ upper base,
    floor.Bears (cycleMs r.plan) r.stage base ∧ Telling duties upper ∧ r.loop.stack = upper ++ base
  | .resting deadline => r.stage = .resting (some deadline) ∧ r.duties = [] ∧ r.loop.stack = []
  | .waiting deadline =>
    r.stage = .cycling (some deadline) ∧ r.duties = [] ∧ r.loop.stack = [.waiting (cycleMs r.plan)]
  | .leaving e => r.stage = .leaving e ∧ r.duties = [] ∧ r.loop.stack = []
  | .ended e => r.stage = .ended e ∧ r.duties = []

theorem at_leave (hduties : r.duties = []) (hstack : r.loop.stack = []) (e : Ending) :
    (r.leave e).At (.leaving e) :=
  ⟨rfl, hduties, hstack⟩

theorem at_pump {d : Int} {h : Handle} {left : List (Int × Handle)}
    (hstage : r.stage = .cycling (some deadline)) (hduties : r.duties = [])
    (hstack : r.loop.stack = [.pumping d h, .passing (cycleMs r.plan) left]) :
    r.At (.calling (.passing deadline left) []) :=
  ⟨hduties, nofun, [], _, ⟨hstage, d, h, rfl⟩, .nil, hstack⟩

theorem cycleMs_pos (p : Plan) : 1 ≤ cycleMs p := le_max_left _ _

/-- Where a run may be once a call has come back with `o`, to callbacks or, when there are none, to
what they are told in. -/
inductive Lands (p : Plan) (now : ℚ) (o : Outcome) (floor : Floor) (duties : List Duty) :
    Phase → Prop
  | inside {duties'} (hload : load duties' ≤ load duties) :
    Lands p now o floor duties (.calling floor duties')
  | rests (hnone : duties = []) (hfloor : floor = .asked) :
      Lands p now o floor duties (.resting (Run.deadline p now))
  | resumes {deadline left} (hnone : duties = []) (hfloor : floor = .passing deadline left)
      (ho : ∃ f, o = .error f) :
      Lands p now o floor duties (.resting deadline)
  | leaves {e} (hnone : duties = []) (he : (∀ waits, p.Ends waits e) ∨ ∃ f, o = .error f) :
      Lands p now o floor duties (.leaving e)

theorem lands_returned_asked (hE : 0 < r.plan.exitAfterMs) (hstage : r.stage = .asked)
    (hduties : r.duties = []) (hstack : r.loop.stack = []) (o : Outcome) :
    ∃ φ, (r.hear (r.loop, [.returned o])).At φ ∧ Lands r.plan r.now o .asked [] φ := by
  rw [hear]
  cases o with
  | error f =>
    rw [absorb_error (.inl hstage) hduties]
    exact ⟨_, at_leave hduties hstack _, .leaves rfl (.inr ⟨f, rfl⟩)⟩
  | ok id =>
    rw [absorb_asked hstage hduties]
    split
    · exact ⟨_, at_leave hduties hstack _, .leaves rfl (.inl fun waits => r.plan.ends_exit waits 1)⟩
    · unfold rest
      rw [if_neg (by omega)]
      split
      · rename_i hlong
        exact ⟨_, at_leave hduties hstack _, .leaves rfl (.inl (Plan.ends_overlong (.inr hlong)))⟩
      · exact ⟨.resting _, ⟨rfl, hduties, hstack⟩, .rests rfl rfl⟩

section Cycle
variable {l : Loop} (hstage : r.stage = .cycling (some deadline)) (hduties : r.duties = [])
include hstage hduties

theorem at_returned_ok (hstack : l.stack = []) (code : Option Int) :
    (code.getD 0 = 0 → (r.hear (l, [.returned (.ok code)])).At (.resting deadline)) ∧
      (code.getD 0 ≠ 0 →
        (r.hear (l, [.returned (.ok code)])).At (.leaving (.exit (code.getD 0)))) := by
  rw [hear, absorb_cycling (r := { r with loop := l }) hstage hduties]
  refine ⟨fun hzero => ?_, fun hcode => ?_⟩
  · rw [if_pos hzero]
    exact ⟨rfl, hduties, hstack⟩
  · rw [if_neg hcode]
    exact at_leave (r := { r with loop := l }) hduties hstack _

theorem at_returned_error (hstack : l.stack = []) (f : Fault) :
    (r.hear (l, [.returned (.error f)])).At (.leaving (.escaped f)) := by
  rw [hear, absorb_error (r := { r with loop := l }) (.inr ⟨_, hstage⟩) hduties]
  exact at_leave (r := { r with loop := l }) hduties hstack _

/-- A pump fails: an error of the provider without a code ends the waiting call only. -/
theorem at_fail (d : Int) (f : Fault) : (r.hear (r.loop.fail d [] f)).At (.resting deadline) ∨
    ∃ e, (r.hear (r.loop.fail d [] f)).At (.leaving e) ∧
      ((∃ code, e = .exit code) ∨ ∀ refusal, f ≠ .refused refusal) := by
  rw [Loop.fail_eq, hear_append (.notices _)]
  cases f with
  | refused refusal =>
    obtain ⟨hrests, hleaves⟩ :=
      at_returned_ok (l := { r.loop with stack := [] }) hstage hduties rfl (some refusal.code)
    by_cases hcode : refusal.code = 0
    · exact .inl (hrests hcode)
    · exact .inr ⟨_, hleaves hcode, .inl ⟨_, rfl⟩⟩
  | _ => exact .inr ⟨_, at_returned_error hstage hduties rfl _, .inr nofun⟩

theorem at_advance (queue : List (Int × Handle)) :
    (r.hear (r.loop.advance (cycleMs r.plan) queue [])).At (.resting deadline) ∨
    ∃ left, left.length < queue.length ∧
      (r.hear (r.loop.advance (cycleMs r.plan) queue [])).At
        (.calling (.passing deadline left) []) := by
  obtain ⟨skipped, d, h, later, hqueue, -, -, hnext⟩ | ⟨-, hover⟩ :=
    r.loop.advance_cases (cycleMs r.plan) queue []
  · have hshorter : later.length < queue.length := by
      simp only [hqueue, List.length_append, List.length_cons]
      omega
    refine .inr ⟨later, hshorter, ?_⟩
    rw [hnext]
    exact at_pump (r := { r with loop := { r.loop with stack := _ } }) hstage hduties rfl
  · have hcycle : cycleMs r.plan ≠ 0 := by
      have := cycleMs_pos r.plan
      omega
    rw [hover, if_pos (.inl hcycle)]
    exact .inl ((at_returned_ok hstage hduties rfl (some 0)).1 rfl)

theorem at_waited_ok {reported : List Int} {fault : Option Fault} {ready : List (Int × Handle)}
    (hw : r.loop.session.mux.wait (cycleMs r.plan) reported fault = .ok ready) :
    (r.hear (r.loop.waited (cycleMs r.plan) [] reported fault)).At (.resting deadline) ∨
    ∃ left, (r.hear (r.loop.waited (cycleMs r.plan) [] reported fault)).At
      (.calling (.passing deadline left) []) := by
  have hwaited : r.loop.waited (cycleMs r.plan) [] reported fault =
      r.loop.advance (cycleMs r.plan) ready [] := by
    simp only [Loop.waited, hw]
  rw [hwaited]
  obtain hrests | ⟨left, -, hpumps⟩ := at_advance hstage hduties ready
  · exact .inl hrests
  · exact .inr ⟨left, hpumps⟩

theorem at_waited_error {reported : List Int} {fault : Option Fault} {f : Fault}
    (hw : r.loop.session.mux.wait (cycleMs r.plan) reported fault = .error f) :
    ∃ e, (r.hear (r.loop.waited (cycleMs r.plan) [] reported fault)).At (.leaving e) ∧
      ((∃ code, e = .exit code) ∨ (∀ s, f ≠ .system s) ∧ e = .escaped f) := by
  cases f with
  | system s =>
    have hcode : (if s.number.getD 0 = 0 then ErrorCode.unknown else s.number.getD 0) ≠ 0 := by
      split
      · decide
      · assumption
    simp only [Loop.waited, hw]
    exact ⟨_, (at_returned_ok hstage hduties rfl _).2 hcode, .inl ⟨_, rfl⟩⟩
  | _ =>
    simp only [Loop.waited, hw]
    exact ⟨_, at_returned_error hstage hduties rfl _, .inr ⟨by simp, rfl⟩⟩

theorem at_pumped (d : Int) (left : List (Int × Handle)) (e : PumpEnd) :
    (r.hear (r.loop.pumped d (cycleMs r.plan) left [] e)).At (.resting deadline) ∨
    (∃ left', left'.length < left.length ∧
      (r.hear (r.loop.pumped d (cycleMs r.plan) left [] e)).At
        (.calling (.passing deadline left') [])) ∨
    ∃ e', (r.hear (r.loop.pumped d (cycleMs r.plan) left [] e)).At (.leaving e') ∧
      ((∃ code, e' = .exit code) ∨ ∃ f, e = .raised f ∧ ∀ refusal, f ≠ .refused refusal) := by
  cases e with
  | delivered => exact (at_advance hstage hduties left).imp_right .inl
  | refused refusal =>
    obtain hrests | ⟨e', hleaves, he⟩ := at_fail hstage hduties d (.refused refusal)
    · exact .inl hrests
    · exact .inr (.inr ⟨e', hleaves, he.imp_right fun hf => absurd rfl (hf refusal)⟩)
  | raised f =>
    obtain hrests | ⟨e', hleaves, he⟩ := at_fail hstage hduties d f
    · exact .inl hrests
    · exact .inr (.inr ⟨e', hleaves, he.imp_right fun hf => ⟨f, rfl, hf⟩⟩)

end Cycle

/-- A call comes back, to a callback or to what the callbacks are told in. -/
theorem lands_comeBack (hE : 0 < r.plan.exitAfterMs)
    (hf : floor.Bears (cycleMs r.plan) r.stage base) (ht : Telling r.duties upper)
    (hstack : r.loop.stack = upper ++ base) (o : Outcome) :
    ∃ φ, (r.hear (r.loop.comeBack o)).At φ ∧ Lands r.plan r.now o floor r.duties φ := by
  obtain ⟨duties, hduties⟩ : ∃ duties, r.duties = duties := ⟨_, rfl⟩
  rw [hduties] at ht
  suffices hlands : ∃ φ, (r.hear (r.loop.comeBack o)).At φ ∧
      Lands r.plan r.now o floor duties φ from hduties ▸ hlands
  cases ht with
  | @cons duty f outer below hfr ht =>
    obtain ⟨i, x, rfl⟩ := hfr
    have hidle : r.loop.isIdle = true := by simp [Loop.isIdle, hstack]
    obtain ⟨raised, hreturned⟩ := absorb_told hduties o
    rw [Loop.comeBack_of_idle hidle, hear, hreturned]
    have htelling : Telling (.finish raised :: outer) (.notifying i (.ok x) :: below) :=
      .cons ⟨i, x, rfl⟩ ht
    refine ⟨.calling floor _, ⟨rfl, fun _ => List.cons_ne_nil _ _, _, _, hf, htelling, hstack⟩,
      .inside ?_⟩
    have := duty.load_pos
    simp only [load_cons, Duty.load_finish]
    omega
  | nil =>
    cases floor with
    | asked =>
      obtain ⟨hstage, rfl⟩ := hf
      have hidle : r.loop.isIdle = true := by simp [Loop.isIdle, hstack]
      rw [Loop.comeBack_of_idle hidle]
      exact lands_returned_asked hE hstage hduties hstack o
    | passing deadline left =>
      obtain ⟨hstage, d, h, rfl⟩ := hf
      cases o with
      | error f =>
        rw [Loop.comeBack_pumping_error hstack]
        obtain hrests | ⟨e, hleaves, -⟩ := at_fail hstage hduties d f
        · exact ⟨_, hrests, .resumes rfl rfl ⟨f, rfl⟩⟩
        · exact ⟨_, hleaves, .leaves rfl (.inr ⟨f, rfl⟩)⟩
      | ok x =>
        rw [Loop.comeBack_pumping_ok hstack]
        exact ⟨_, at_pump (r := r) hstage hduties hstack, .inside le_rfl⟩

/-- A turn of the session, taken in control of the run or in a pump: a callback begins, or a call
comes back. -/
theorem at_turn (hE : 0 < r.plan.exitAfterMs) (hf : floor.Bears (cycleMs r.plan) r.stage base)
    (ht : Telling r.duties upper) (hstack : r.loop.stack = upper ++ base) {t : Turn}
    (hplain : Plain t.outputs) (htells : t.TellsWell)
    (hstep : r.loop.step faults m = r.loop.settle t) :
    (∃ i o, t.next = .notify i o ∧
      (r.move faults m).1.At (.calling floor (dutyOf r.plan i.what :: r.duties))) ∨
      ∃ o φ, t.next = .done o ∧ (r.move faults m).1.At φ ∧
      Lands r.plan r.now o floor r.duties φ := by
  cases hnext : t.next with
  | notify i o =>
    obtain ⟨x, rfl⟩ := htells i o hnext
    have htelling : Telling (dutyOf r.plan i.what :: r.duties) (.notifying i (.ok x) :: upper) :=
      .cons ⟨i, x, rfl⟩ ht
    refine .inl ⟨i, _, rfl, ?_⟩
    rw [move_hear (hstep.trans (Loop.settle_of_notify hnext)), hear_append hplain]
    exact ⟨rfl, fun _ => List.cons_ne_nil _ _, _, _, hf, htelling, congrArg _ hstack⟩
  | done o =>
    let l : Loop := { r.loop with session := t.session, records := t.records }
    have hsettle : r.loop.settle t = ((l.comeBack o).1, t.outputs ++ (l.comeBack o).2) := by
      simp only [Loop.settle, hnext, l]
    rw [move_hear (hstep.trans hsettle), hear_append hplain]
    obtain ⟨φ, hat, hlands⟩ := lands_comeBack (r := { r with loop := l }) hE hf ht hstack o
    exact .inr ⟨o, φ, rfl, hat, hlands⟩

theorem lands_finish (faults : CloseFaults) (hE : 0 < r.plan.exitAfterMs) {duty : Duty}
    {outer : List Duty} (hf : floor.Bears (cycleMs r.plan) r.stage base)
    (ht : Telling (duty :: outer) upper) (hstack : r.loop.stack = upper ++ base) (raised : Bool) :
    ∃ x φ, (({ r with duties := outer } : Run).move faults (.finish raised)).1.At φ ∧
      Lands r.plan r.now (.ok x) floor outer φ := by
  cases ht with
  | @cons _ _ _ upper hfr ht =>
    obtain ⟨i, x, rfl⟩ := hfr
    obtain ⟨logged, hlogged, hstep⟩ := r.loop.finish_comeBack hstack faults raised
    rw [move_hear (r := { r with duties := outer }) hstep, hear_append hlogged]
    let l : Loop := { r.loop with stack := upper ++ base }
    obtain ⟨φ, hat, hlands⟩ :=
      lands_comeBack (r := { r with loop := l, duties := outer }) hE hf ht rfl (.ok x)
    exact ⟨x, φ, hat, hlands⟩

/-! ### One step -/

def waited? (r : Run) : Input → Option (Int × Except Fault (List (Int × Handle)))
  | .world (.waited reported fault) =>
    match r.isWaiting, r.loop.stack with
    | true, .waiting timeoutMs :: _ =>
      some (timeoutMs, r.loop.session.mux.wait timeoutMs reported fault)
    | _, _ => none
  | _ => none

def calls? (r : Run) : Input → Option Int
  | .proceed now _ =>
    match ({ r with now } : Run).request? with
    | some (.run timeoutMs) => some timeoutMs
    | _ => none
  | _ => none

/-- Whether the one in control makes this input: the run, or in its waiting call the selector or the
provider. -/
def takes (r : Run) : Input → Bool
  | .proceed .. => !r.isWaiting
  | .signal _ => true
  | .world m =>
    r.isWaiting && match m, r.loop.stack with
      | .waited .., .waiting _ :: _ => true
      | .pumped _, .pumping .. :: _ => true
      | .reply .., .pumping .. :: _ => true
      | _, _ => false

inductive Moves (faults : CloseFaults) (r : Run) (i : Input) : Phase → Phase → Prop
  | still {φ : Phase} (hi : r.takes i = true → ∃ name, i = .signal name) : Moves faults r i φ φ
  | asks {now answer duties} (hi : i = .proceed now answer) : Moves faults r i .opening
      (.calling .asked duties)
  | tells {now answer floor duties duties'} (hi : i = .proceed now answer)
      (hload : load duties' < load duties) :
      Moves faults r i (.calling floor duties) (.calling floor duties')
  | rests {now answer φ} (hi : i = .proceed now answer)
      (hφ : φ = .opening ∨ ∃ duties, φ = .calling .asked duties) :
      Moves faults r i φ (.resting (Run.deadline r.plan now))
  | calls {now answer deadline} (hi : i = .proceed now answer) (hnow : now < deadline)
      (hcalls : r.calls? i = some (cycleMs r.plan)) :
      Moves faults r i (.resting deadline) (.waiting deadline)
  | finds {deadline ready φ} (hw : r.waited? i = some (cycleMs r.plan, .ok ready))
      (hφ : φ = .resting deadline ∨ ∃ left, φ = .calling (.passing deadline left) []) :
      Moves faults r i (.waiting deadline) φ
  | pumps {e deadline left φ} (hi : i = .world (.pumped e))
      (hφ : φ = .resting deadline ∨ ∃ left', left'.length < left.length ∧
        φ = .calling (.passing deadline left') []) :
      Moves faults r i (.calling (.passing deadline left) []) φ
  | replies {address reply deadline left duties} (hi : i = .world (.reply address reply)) :
      Moves faults r i (.calling (.passing deadline left) [])
        (.calling (.passing deadline left) duties)
  | drops {address reply deadline left} (hi : i = .world (.reply address reply)) :
      Moves faults r i (.calling (.passing deadline left) []) (.resting deadline)
  | leaves {φ e} (hends : Ordinary faults i → r.plan.Ends i.WaitRaises e)
      (hwaiting : ∀ deadline, φ = .waiting deadline →
        ∃ f, r.waited? i = some (cycleMs r.plan, .error f))
      (hresting : ∀ deadline, φ = .resting deadline → r.calls? i = none) :
      Moves faults r i φ (.leaving e)
  | ends {e e'} : Moves faults r i (.leaving e) (.ended e')
  | past {e} : Moves faults r i (.ended e) (.ended e)

theorem isWaiting_iff :
    r.isWaiting = true ↔ ∃ deadline, r.stage = .cycling deadline ∧ r.duties = [] :=
  ⟨cycling_of_isWaiting, fun ⟨_, hstage, hduties⟩ => by simp [isWaiting, hstage, hduties]⟩

/-- The first request of a run, which fails only if the provider raises something. -/
theorem opening_turn {l : Loop} (hs : l.session.Sound) (hopen : l.session.closed = false) (p : Plan)
    (faults : CloseFaults) (answer : StartAnswer) :
    ∃ t, Plain t.outputs ∧ t.TellsWell ∧ ((∀ f, answer ≠ .raised f) → ∃ x, t.next.outcome = .ok x) ∧
      l.request faults (opening p) answer = l.settle t := by
  unfold opening
  split
  · refine ⟨_, Session.plain_announce _ _ (advertisement p) client answer,
      Session.tellsWell_announce _ _ _ _ _, fun hanswer => ?_, rfl⟩
    cases hpacked : l.session.packed l.records (advertisement p) with
    | error why =>
      rw [Session.announce_rejected hopen hpacked]
      exact ⟨none, by rw [Next.outcome_tell]⟩
    | ok txt =>
      cases answer with
      | raised f => exact absurd rfl (hanswer f)
      | refused refusal =>
        obtain ⟨os, hturn, -⟩ := Session.announce_refused (c := client) hopen hpacked refusal
        rw [hturn]
        exact ⟨none, by rw [Next.outcome_tell]⟩
      | started h d =>
        obtain ⟨os, hturn, -⟩ := Session.announce_started hs hopen hpacked
          (Transport.ofCode?_code p.service.transport) client h d
        rw [hturn]
        exact ⟨_, rfl⟩
  · refine ⟨_, Session.plain_browse _ _ (constraints p) client answer,
      Session.tellsWell_browse _ _ _ _ _, fun hanswer => ?_, rfl⟩
    cases answer with
    | raised f => exact absurd rfl (hanswer f)
    | refused refusal =>
      rw [Session.browse, if_neg (by simp [hopen])]
      exact ⟨some (-1), by rw [Next.outcome_tell]⟩
    | started h d =>
      obtain ⟨os, hturn, -⟩ := Session.browse_started l.records hs hopen (constraints p) client h d
      rw [hturn]
      exact ⟨_, rfl⟩

theorem failed_of_resolve {s : Session} {rs : Records} {target : RecordId} {c : Client}
    {answer : StartAnswer} {i : Invocation}
    (hnext : (s.resolve rs target c answer).next = .notify i o) (p : Plan) :
    dutyOf p i.what = .finish false := by
  have htell {what : Notification} {x : Outcome} (hwhat : dutyOf p what = .finish false)
      (h : Next.tell c what x = .notify i o) : dutyOf p i.what = .finish false := by
    unfold Next.tell at h
    split at h
    · obtain ⟨rfl, -⟩ := Next.notify.inj h
      exact hwhat
    · cases h
  unfold Session.resolve at hnext
  split at hnext
  · cases hnext
  split at hnext
  · exact htell rfl hnext
  cases answer with
  | raised f => cases hnext
  | refused refusal => exact htell rfl hnext
  | started h d =>
    unfold Session.resolveStarted at hnext
    dsimp only at hnext
    split at hnext
    · cases hnext
    · split at hnext <;> cases hnext

theorem ended_close (faults : CloseFaults) {e : Ending} (hstage : r.stage = .leaving e)
    (hduties : r.duties = []) (hstack : r.loop.stack = []) (hopen : r.loop.session.closed = false) :
    ∃ e', (r.close faults e).1.At (.ended e') := by
  obtain ⟨loop, os, -, -, hmove⟩ := move_close faults hstage hduties hstack hopen
  unfold close
  rw [hmove]
  dsimp only
  split
  · exact ⟨e, rfl, hduties⟩
  · exact ⟨_, rfl, hduties⟩

theorem At.stage_eq (h : r.At φ) : r.stage = φ.stage := by
  cases φ with
  | calling floor duties =>
    obtain ⟨-, -, upper, base, hf, -⟩ := h
    cases floor with
    | asked | passing => exact hf.1
  | _ => exact h.1

theorem waiting_or_pumping (h : r.At φ) (hw : r.isWaiting = true) :
    (∃ deadline, φ = .waiting deadline) ∨
    ∃ deadline left, φ = .calling (.passing deadline left) [] := by
  obtain ⟨deadline, hstage, hduties⟩ := isWaiting_iff.mp hw
  have hphase := h.stage_eq.symm.trans hstage
  match φ with
  | .waiting deadline => exact .inl ⟨deadline, rfl⟩
  | .calling (.passing deadline left) duties => exact .inr ⟨deadline, left, by rw [← h.1, hduties]⟩

theorem eq_leaving {e : Ending} (h : r.At φ) (hstage : r.stage = .leaving e) : φ = .leaving e := by
  have hphase := h.stage_eq.symm.trans hstage
  match φ with
  | .leaving e' => rw [Stage.leaving.inj hphase]

theorem eq_resting {deadline : Option ℚ} (h : r.At φ) (hstage : r.stage = .resting deadline) :
    ∃ deadline, φ = .resting deadline := by
  have hphase := h.stage_eq.symm.trans hstage
  match φ with
  | .resting deadline => exact ⟨deadline, rfl⟩

theorem isIdle_of_isWaiting (h : r.At φ) (hw : r.isWaiting = true) : r.loop.isIdle = false := by
  obtain ⟨deadline, rfl⟩ | ⟨deadline, left, rfl⟩ := waiting_or_pumping h hw
  · obtain ⟨-, -, hstack⟩ := h
    simp [Loop.isIdle, hstack]
  · obtain ⟨-, -, upper, base, ⟨-, d, handle, rfl⟩, ht, hstack⟩ := h
    cases ht
    simp [Loop.isIdle, hstack]

theorem open_step (hs : r.loop.session.Sound) (hopen : r.loop.session.closed = false)
    (hl : ∀ e, r.stage ≠ .leaving e) (hbusy : r.isWaiting = true → r.loop.isIdle = false)
    (faults : CloseFaults) (i : Input) :
    (r.step faults i).1.loop.session.Sound ∧ (r.step faults i).1.loop.session.closed = false := by
  have hmove {r' : Run} {m : Move} (hloop : r'.loop = r.loop)
      (hm : ∀ answer, m ≠ .request .close answer) :
      (r'.move faults m).1.loop.session.Sound ∧
        (r'.move faults m).1.loop.session.closed = false := by
    rw [(hears_move r' faults m).loop, hloop]
    exact Loop.open_step hs hopen hm faults
  cases i with
  | proceed now answer =>
    simp only [step, proceed]
    split
    · exact hmove (by rfl) (by simp)
    · exact hmove (by rfl) (by simp)
    · exact hmove (by rfl) (by simp [opening_ne_close])
    · split
      · exact ⟨hs, hopen⟩
      · exact hmove (by rfl) (by simp)
    · rename_i hstage
      exact absurd hstage (hl _)
    · exact ⟨hs, hopen⟩
  | signal name =>
    rw [step]
    split <;> exact ⟨hs, hopen⟩
  | world m =>
    rw [step]
    split
    · rename_i hw
      cases m with
      | request request answer =>
        rw [move_still (by simp [Loop.step, hbusy hw])]
        exact ⟨hs, hopen⟩
      | _ => exact hmove (by rfl) (by simp)
    · exact ⟨hs, hopen⟩

structure Settled (r : Run) (φ : Phase) : Prop where
  place : r.At φ
  due : 0 < r.plan.exitAfterMs
  opened : r.stage.ended? = none → r.loop.session.Sound ∧ r.loop.session.closed = false

def Passes (faults : CloseFaults) (r : Run) (i : Input) (φ : Phase) : Prop :=
  ∃ φ', (r.step faults i).1.At φ' ∧ Moves faults r i φ φ'

theorem Lands.moves {now : ℚ} {answer : StartAnswer} {duties duties' : List Duty} {φ' : Phase}
    (h : Lands r.plan now o floor duties' φ') (hload : load duties' < load duties)
    (ho : ∀ f, o ≠ .error f) : Moves faults r (.proceed now answer) (.calling floor duties) φ' := by
  cases h with
  | inside hload' => exact .tells rfl (by omega)
  | rests hnone hfloor => exact .rests rfl (.inr ⟨duties, hfloor ▸ rfl⟩)
  | resumes _ _ hf =>
    obtain ⟨f, hf⟩ := hf
    exact absurd hf (ho f)
  | leaves hnone he =>
    exact .leaves (fun _ => he.resolve_right (fun ⟨f, hf⟩ => ho f hf) _) nofun nofun

namespace Settled
variable {now : ℚ} {answer : StartAnswer}

theorem passes_opening (h : r.Settled .opening) (faults : CloseFaults) (now : ℚ)
    (answer : StartAnswer) : Passes faults r (.proceed now answer) .opening := by
  obtain ⟨hstage, hduties, hstack⟩ := h.place
  obtain ⟨hs, hopen⟩ := h.opened (hstage ▸ rfl)
  obtain ⟨t, hplain, htells, hok, hrequest⟩ := opening_turn hs hopen r.plan faults answer
  have hidle : r.loop.isIdle = true := by simp [Loop.isIdle, hstack]
  have hstep : r.loop.step faults (.request (opening r.plan) answer) = r.loop.settle t :=
    (Loop.step_request hidle _ answer).trans hrequest
  have hproceed : (r.step faults (.proceed now answer)).1 =
      (({ r with now, stage := .asked } : Run).move faults
        (.request (opening r.plan) answer)).1 := by
    simp [Run.step, Run.proceed, hduties, hstage]
  rw [Passes, hproceed]
  have hf : Floor.asked.Bears (cycleMs r.plan) .asked [] := ⟨rfl, rfl⟩
  obtain ⟨i, o, -, hat⟩ | ⟨o, φ, hdone, hat, hlands⟩ :=
    at_turn (r := { r with now, stage := .asked }) h.due hf
    (telling_nil hduties) hstack hplain htells hstep
  · exact ⟨_, hat, .asks rfl⟩
  · refine ⟨φ, hat, ?_⟩
    cases hlands with
    | inside => exact .asks rfl
    | rests => exact .rests rfl (.inl rfl)
    | resumes _ hfloor => cases hfloor
    | leaves _ he =>
      refine .leaves (fun hordinary => he.resolve_right ?_ _) (by simp) (by simp)
      rintro ⟨f, rfl⟩
      obtain ⟨x, hx⟩ := hok fun f hf => hordinary.started now f (by rw [hf])
      rw [hdone] at hx
      cases hx

theorem passes_calling {floor : Floor} {duty : Duty} {outer : List Duty}
    (h : r.Settled (.calling floor (duty :: outer))) (faults : CloseFaults) (now : ℚ)
    (answer : StartAnswer) :
    Passes faults r (.proceed now answer) (.calling floor (duty :: outer)) := by
  obtain ⟨hduties, -, upper, base, hf, ht, hstack⟩ := h.place
  cases duty with
  | finish raised =>
    have hproceed : (r.step faults (.proceed now answer)).1 =
        (({ r with now, duties := outer } : Run).move faults (.finish raised)).1 := by
      simp [Run.step, Run.proceed, hduties]
    obtain ⟨x, φ, hat, hlands⟩ :=
      lands_finish (r := { r with now }) faults h.due hf ht hstack raised
    exact ⟨φ, hproceed ▸ hat, hlands.moves (r := r) (by simp) (by simp)⟩
  | resolve id =>
    have hproceed : (r.step faults (.proceed now answer)).1 =
        (({ r with now, duties := .finish false :: outer } : Run).move faults
          (.request (.resolve id client) answer)).1 := by
      simp [Run.step, Run.proceed, hduties]
    have hstep : r.loop.step faults (.request (.resolve id client) answer) =
        r.loop.settle (r.loop.session.resolve r.loop.records id client answer) :=
      Loop.step_request (ht.isIdle hstack) _ answer
    have hplain := Session.plain_resolve r.loop.session r.loop.records id client answer
    have htells := Session.tellsWell_resolve r.loop.session r.loop.records id client answer
    rw [Passes, hproceed]
    obtain ⟨i, o, hnotify, hat⟩ | ⟨o, φ, -, hat, hlands⟩ := at_turn
      (r := { r with now, duties := .finish false :: outer }) h.due hf ht.retell hstack hplain
        htells hstep
    · rw [failed_of_resolve hnotify] at hat
      refine ⟨_, hat, .tells rfl ?_⟩
      simp only [load_cons, Duty.load_resolve, Duty.load_finish]
      omega
    · refine ⟨φ, hat, ?_⟩
      cases hlands with
      | inside hload => exact .tells rfl (by simp at hload ⊢; omega)
      | rests hnone | resumes hnone | leaves hnone => cases hnone

theorem request?_resting {deadline : Option ℚ} (hduties : r.duties = [])
    (hstage : r.stage = .resting deadline) :
    r.request? = if r.isOver deadline then none else some (.run (cycleMs r.plan)) := by
  simp [request?, hduties, hstage]

theorem proceed_going {deadline : Option ℚ} (hduties : r.duties = [])
    (hstage : r.stage = .resting deadline) (hgoes : ¬r.isOver deadline = true) :
    r.proceed faults answer =
      ({ r with stage := .cycling deadline } : Run).move faults
        (.request (.run (cycleMs r.plan)) answer) := by
  simp [Run.proceed, hduties, hstage, hgoes]

theorem passes_resting {deadline : ℚ} (h : r.Settled (.resting deadline)) (faults : CloseFaults)
    (now : ℚ) (answer : StartAnswer) :
    Passes faults r (.proceed now answer) (.resting deadline) := by
  obtain ⟨hstage, hduties, hstack⟩ := h.place
  have hrequest := request?_resting (r := { r with now }) hduties hstage
  by_cases hover : ({ r with now } : Run).isOver (some deadline) = true
  · rw [if_pos hover] at hrequest
    have hcalls : r.calls? (.proceed now answer) = none := by simp only [calls?, hrequest]
    rw [Passes, Run.step, proceed_over (r := { r with now }) hduties hstage hover]
    exact ⟨_, at_leave (r := { r with now }) hduties hstack _,
      .leaves (fun _ => r.plan.ends_exit _ _) (by simp) fun _ _ => hcalls⟩
  · have hidle : r.loop.isIdle = true := by simp [Loop.isIdle, hstack]
    obtain ⟨-, hopen⟩ := h.opened (hstage ▸ rfl)
    have hstep : r.loop.step faults (.request (.run (cycleMs r.plan)) answer) =
        ({ r.loop with stack := [.waiting (cycleMs r.plan)] }, []) := by
      rw [Loop.step_request hidle, Loop.request, if_neg (by simp [hopen]), hstack]
    rw [if_neg hover] at hrequest
    have hcalls : r.calls? (.proceed now answer) = some (cycleMs r.plan) := by
      simp only [calls?, hrequest]
    have hnow : now < deadline := by
      simp only [isOver, Option.any_some, Bool.or_eq_true, decide_eq_true_eq, not_or,
        not_le] at hover
      exact hover.2
    rw [Passes, Run.step, proceed_going (r := { r with now }) hduties hstage hover,
      move_eq (r := { r with now, stage := .cycling (some deadline) }) hstep]
    exact ⟨.waiting deadline, ⟨rfl, hduties, rfl⟩, .calls rfl hnow hcalls⟩

theorem passes_waiting {deadline : ℚ} (h : r.Settled (.waiting deadline)) (faults : CloseFaults)
    (m : Move) : Passes faults r (.world m) (.waiting deadline) := by
  obtain ⟨hstage, hduties, hstack⟩ := h.place
  have hw : r.isWaiting = true := isWaiting_iff.mpr ⟨_, hstage, hduties⟩
  obtain ⟨-, hopen⟩ := h.opened (hstage ▸ rfl)
  obtain ⟨hwaited, hother⟩ := Loop.step_of_waiting faults m hstack
  have hworld : (r.step faults (.world m)).1 = (r.move faults m).1 := by rw [Run.step, if_pos hw]
  rw [Passes, hworld]
  cases m with
  | waited reported fault =>
    have hfinds : r.waited? (.world (.waited reported fault)) =
        some (cycleMs r.plan, r.loop.session.mux.wait (cycleMs r.plan) reported fault) := by
      simp only [waited?, hw, hstack]
    rw [move_hear (hwaited reported fault)]
    obtain ⟨result, hwait⟩ : ∃ result, r.loop.session.mux.wait (cycleMs r.plan) reported fault =
        result := ⟨_, rfl⟩
    rw [hwait] at hfinds
    cases result with
    | ok ready =>
      obtain hat | ⟨left, hat⟩ := at_waited_ok hstage hduties hwait
      · exact ⟨_, hat, .finds hfinds (.inl rfl)⟩
      · exact ⟨_, hat, .finds hfinds (.inr ⟨left, rfl⟩)⟩
    | error f =>
      obtain ⟨e, hat, he⟩ := at_waited_error hstage hduties hwait
      refine ⟨_, hat, .leaves (fun _ => ?_) (fun _ _ => ⟨f, hfinds⟩) (by simp)⟩
      obtain ⟨code, rfl⟩ | ⟨hf, rfl⟩ := he
      · exact r.plan.ends_exit _ code
      · obtain ⟨rfl, hlong⟩ | rfl := Multiplexer.wait_eq_error hwait
        · exact Plan.ends_overlong (.inl hlong) _
        · exact r.plan.ends_wait ⟨⟨reported, rfl⟩, hf⟩
  | _ =>
    rw [move_still (hother (by simp))]
    exact ⟨_, h.place, .still (by simp [takes, hw, hstack])⟩

theorem passes_replying {deadline : ℚ} {d : Int} {handle : Handle} {left : List (Int × Handle)}
    (h : r.Settled (.calling (.passing deadline left) []))
    (hstage : r.stage = .cycling (some deadline)) (hduties : r.duties = [])
    (hstack : r.loop.stack = [.pumping d handle, .passing (cycleMs r.plan) left])
    (faults : CloseFaults) (address : ReplyTo) (reply : Reply) :
    ∃ φ', (r.move faults (.reply address reply)).1.At φ' ∧
      Moves faults r (.world (.reply address reply)) (.calling (.passing deadline left) []) φ' := by
  have hf : (Floor.passing deadline left).Bears (cycleMs r.plan) r.stage
      [.pumping d handle, .passing (cycleMs r.plan) left] := ⟨hstage, d, handle, rfl⟩
  have hstep : r.loop.step faults (.reply address reply) =
      r.loop.settle (r.loop.session.onReply faults r.loop.records address reply) := by
    simp [Loop.step, hstack]
  have hplain := Session.plain_onReply faults r.loop.session r.loop.records address reply
  have htells :=
    (Session.transition_reply faults (s := r.loop.session) r.loop.records address
      reply).tellsWell_reply
  obtain ⟨i, o, -, hat⟩ | ⟨o, φ, hdone, hat, hlands⟩ :=
    at_turn h.due hf (telling_nil hduties) hstack hplain htells hstep
  · exact ⟨_, hat, .replies rfl⟩
  · refine ⟨φ, hat, ?_⟩
    cases hlands with
    | inside => exact .replies rfl
    | rests _ hfloor => cases hfloor
    | resumes _ hfloor =>
      obtain ⟨rfl, rfl⟩ := Floor.passing.inj hfloor
      exact .drops rfl
    | leaves _ he =>
      refine .leaves (fun hordinary => he.resolve_right ?_ _) (by simp) (by simp)
      rintro ⟨f, rfl⟩
      have hok := Session.onReply_ok (CloseFaults.escaping_eq_none hordinary.closing)
        r.loop.session r.loop.records address reply
      rw [hdone] at hok
      cases hok

theorem passes_pumping {deadline : ℚ} {left : List (Int × Handle)}
    (h : r.Settled (.calling (.passing deadline left) [])) (faults : CloseFaults) (m : Move) :
    Passes faults r (.world m) (.calling (.passing deadline left) []) := by
  obtain ⟨hduties, -, upper, base, ⟨hstage, d, handle, rfl⟩, ht, hstack⟩ := h.place
  obtain rfl : upper = [] := by
    cases ht
    rfl
  rw [List.nil_append] at hstack
  have hw : r.isWaiting = true := isWaiting_iff.mpr ⟨_, hstage, hduties⟩
  have hworld : (r.step faults (.world m)).1 = (r.move faults m).1 := by rw [Run.step, if_pos hw]
  rw [Passes, hworld]
  cases m with
  | pumped e =>
    rw [move_hear (Loop.step_of_pumping hstack e)]
    obtain hat | ⟨left', hless, hat⟩ | ⟨e', hat, he⟩ := at_pumped hstage hduties d left e
    · exact ⟨_, hat, .pumps rfl (.inl rfl)⟩
    · exact ⟨_, hat, .pumps rfl (.inr ⟨left', hless, rfl⟩)⟩
    · refine ⟨_, hat, .leaves (fun hordinary => ?_) (by simp) (by simp)⟩
      obtain ⟨code, rfl⟩ | ⟨f, rfl, hf⟩ := he
      · exact r.plan.ends_exit _ code
      · obtain ⟨refusal, hrefused⟩ := hordinary.pumped f rfl
        exact absurd hrefused (hf refusal)
  | reply address reply => exact h.passes_replying hstage hduties hstack faults address reply
  | request | finish | waited =>
    rw [move_still (by simp [Loop.step, Loop.isIdle, hstack])]
    exact ⟨_, h.place, .still (by simp [takes, hw, hstack])⟩

theorem passes_held (h : r.Settled φ) (faults : CloseFaults) {now : ℚ} {answer : StartAnswer}
    (hheld : ({ r with now } : Run).proceed faults answer = ({ r with now }, []))
    (hm : Moves faults r (.proceed now answer) φ φ) : Passes faults r (.proceed now answer) φ := by
  rw [Passes, Run.step, hheld]
  exact ⟨φ, h.place, hm⟩

theorem passes_proceed (h : r.Settled φ) (faults : CloseFaults) (now : ℚ) (answer : StartAnswer) :
    Passes faults r (.proceed now answer) φ := by
  cases φ with
  | opening => exact h.passes_opening faults now answer
  | resting deadline => exact h.passes_resting faults now answer
  | waiting deadline =>
    obtain ⟨hstage, hduties, -⟩ := h.place
    have hw : r.isWaiting = true := isWaiting_iff.mpr ⟨_, hstage, hduties⟩
    exact h.passes_held faults (by simp [Run.proceed, hstage, hduties])
      (.still (by simp [takes, hw]))
  | calling floor duties =>
    cases duties with
    | cons duty outer => exact h.passes_calling faults now answer
    | nil =>
      obtain ⟨hduties, hasked, upper, base, hf, -⟩ := h.place
      cases floor with
      | asked => exact absurd rfl (hasked rfl)
      | passing deadline left =>
        obtain ⟨hstage, -⟩ := hf
        have hw : r.isWaiting = true := isWaiting_iff.mpr ⟨_, hstage, hduties⟩
        exact h.passes_held faults (by simp [Run.proceed, hstage, hduties])
          (.still (by simp [takes, hw]))
  | leaving e =>
    obtain ⟨hstage, hduties, hstack⟩ := h.place
    have hproceed : (r.step faults (.proceed now answer)).1 =
        (({ r with now } : Run).close faults e).1 := by
      simp [Run.step, Run.proceed, hduties, hstage]
    obtain ⟨e', hended⟩ := ended_close (r := { r with now }) faults hstage hduties hstack
      (h.opened (hstage ▸ rfl)).2
    exact ⟨.ended e', hproceed ▸ hended, .ends⟩
  | ended e =>
    obtain ⟨hstage, hduties⟩ := h.place
    exact h.passes_held faults (by simp [Run.proceed, hstage, hduties]) .past

theorem passes (h : r.Settled φ) (faults : CloseFaults) (i : Input) : Passes faults r i φ := by
  cases i with
  | proceed now answer => exact h.passes_proceed faults now answer
  | signal name =>
    rw [Passes, Run.step]
    split <;> exact ⟨φ, h.place, .still fun _ => ⟨name, rfl⟩⟩
  | world m =>
    by_cases hw : r.isWaiting = true
    · obtain ⟨deadline, rfl⟩ | ⟨deadline, left, rfl⟩ := waiting_or_pumping h.place hw
      · exact h.passes_waiting faults m
      · exact h.passes_pumping faults m
    · rw [Passes, Run.step, if_neg hw]
      exact ⟨φ, h.place, .still (by simp [takes, hw])⟩

theorem opened_step (h : r.Settled φ) (faults : CloseFaults) (i : Input) :
    (r.step faults i).1.stage.ended? = none →
      (r.step faults i).1.loop.session.Sound ∧ (r.step faults i).1.loop.session.closed = false := by
  intro hgoes
  by_cases hl : ∃ e, r.stage = .leaving e
  · -- Going on it closes its session, but then it has ended.
    obtain ⟨e, hstage⟩ := hl
    obtain rfl := eq_leaving h.place hstage
    obtain ⟨-, hduties, hstack⟩ := h.place
    have hopened := h.opened (hstage ▸ rfl)
    cases i with
    | proceed now answer =>
      obtain ⟨e', hended, -⟩ :=
        ended_close (r := { r with now }) faults hstage hduties hstack hopened.2
      have hproceed : (r.step faults (.proceed now answer)).1 =
          (({ r with now } : Run).close faults e).1 := by
        simp [Run.step, Run.proceed, hduties, hstage]
      rw [hproceed, hended] at hgoes
      cases hgoes
    | signal name =>
      rw [Run.step]
      split <;> exact hopened
    | world m =>
      rw [Run.step, if_neg (by simp [isWaiting, hstage])]
      exact hopened
  · have hl := not_exists.mp hl
    obtain ⟨hs, hopen⟩ := h.opened ((ended?_step hl faults i).symm.trans hgoes)
    exact open_step hs hopen hl (isIdle_of_isWaiting h.place) faults i

/-- What one step does. -/
theorem step (h : r.Settled φ) (faults : CloseFaults) (i : Input) :
    ∃ φ', (r.step faults i).1.Settled φ' ∧ Moves faults r i φ φ' := by
  obtain ⟨φ', hat, hm⟩ := h.passes faults i
  exact ⟨φ', ⟨hat, (plan_step faults r i).symm ▸ h.due, h.opened_step faults i⟩, hm⟩

end Settled

theorem settled_start {plan : Plan} (hE : 0 < plan.exitAfterMs) :
    (start plan).Settled .opening where
  place := ⟨rfl, rfl, rfl⟩
  due := hE
  opened _ := ⟨(History.start plan.uuid {} false {}).sound, rfl⟩

/-! ### What a step costs -/

theorem waited?_cases (r : Run) (i : Input) : r.waited? i = none ∨
    r.isWaiting = true ∧ ∃ reported fault timeoutMs below, i = .world (.waited reported fault) ∧
      r.loop.stack = .waiting timeoutMs :: below := by
  unfold waited?
  split
  · split
    · rename_i hw hstack
      exact .inr ⟨hw, _, _, _, _, rfl, hstack⟩
    · exact .inl rfl
  · exact .inl rfl

theorem calls?_cases (r : Run) (i : Input) :
    r.calls? i = none ∨ r.calls? i = some (cycleMs r.plan) ∧
    ∃ now answer deadline, i = .proceed now answer ∧ r.duties = [] ∧
    r.stage = .resting deadline := by
  cases i with
  | proceed now answer =>
    unfold calls?
    dsimp only
    split
    · rename_i timeoutMs hrun
      unfold request? at hrun
      split at hrun
      · cases hrun
      · cases hrun
      · exact absurd (Option.some.inj hrun) (opening_ne_run _ _)
      · rename_i hduties hstage
        split at hrun
        · cases hrun
        · exact .inr ⟨congrArg some (Request.run.inj (Option.some.inj hrun)).symm, now, answer, _,
            rfl, hduties, hstage⟩
      · cases hrun
    · exact .inl rfl
  | _ => exact .inl rfl

/-- A run ends no wait and makes no waiting call in a step that it or its surroundings do not
make. -/
theorem quiet_of_untaken (hi : r.takes i = true → ∃ name, i = .signal name) :
    r.waited? i = none ∧ r.calls? i = none := by
  constructor
  · obtain hnone | ⟨hw, reported, fault, timeoutMs, below, rfl, hstack⟩ := waited?_cases r i
    · exact hnone
    · simp [takes, hw, hstack] at hi
  · obtain hnone | ⟨-, now, answer, deadline, rfl, hduties, hstage⟩ := calls?_cases r i
    · exact hnone
    · simp [takes, isWaiting, hduties, hstage] at hi

theorem waited?_eq_none (h : r.At φ) (hφ : ∀ deadline, φ ≠ .waiting deadline) (i : Input) :
    r.waited? i = none := by
  obtain hnone | ⟨hw, reported, fault, timeoutMs, below, -, hstack⟩ := waited?_cases r i
  · exact hnone
  · obtain ⟨deadline, rfl⟩ | ⟨deadline, left, rfl⟩ := waiting_or_pumping h hw
    · exact absurd rfl (hφ deadline)
    · obtain ⟨-, -, upper, base, ⟨-, d, handle, rfl⟩, ht, hpumping⟩ := h
      cases ht
      rw [hpumping] at hstack
      cases hstack

theorem calls?_eq_none (h : r.At φ) (hφ : ∀ deadline, φ ≠ .resting deadline) (i : Input) :
    r.calls? i = none := by
  obtain hnone | ⟨-, now, answer, deadline, -, hduties, hstage⟩ := calls?_cases r i
  · exact hnone
  · obtain ⟨deadline, rfl⟩ := eq_resting h hstage
    exact absurd rfl (hφ deadline)

end Run
end Command
end ServiceDiscovery
