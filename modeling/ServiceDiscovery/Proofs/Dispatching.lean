import ServiceDiscovery.Proofs.Handles
import ServiceDiscovery.Proofs.Passing

/-!
Dispatching. A pass gives every entry that the wait found its turn, in order, and pumps the handle
of an entry just if it is still watched then; a run repeats its passes or comes back, as its time
says.
-/
namespace ServiceDiscovery

def Loop.left (l : Loop) (n : Nat) : List (Int × Handle) :=
  match l.stack.reverse[n]? with
  | some (.passing _ rest) => rest
  | _ => []

inductive Fate
  | waits
  | pumps
  | back (o : Outcome)
  deriving DecidableEq

namespace Deed
variable (timeoutMs : Int) (n : Nat) (d : Deed)

def waited? : Option (Except Fault (List (Int × Handle))) :=
  match d.move with
  | .waited reported fault =>
    if d.before.stack.length = n + 1 then some (d.before.session.mux.wait timeoutMs reported fault)
    else none
  | _ => none

def pumped? : Option PumpEnd :=
  match d.move with
  | .pumped e => if d.before.stack.length = n + 2 then some e else none
  | _ => none

def queue : List (Int × Handle) :=
  match d.waited? timeoutMs n with
  | some (.ok ready) => ready
  | _ => d.before.left n

def turns : List (Int × Handle) :=
  (d.queue timeoutMs n).take ((d.queue timeoutMs n).length - (d.after.left n).length)

def fails : Bool :=
  match d.pumped? n with
  | some .delivered => false
  | some _ => true
  | none => false

/-- Whether an entry whose turn comes now is to be pumped: the session is open, its descriptor still
has this very handle, and no pump has failed. -/
def due (e : Int × Handle) : Bool := d.before.watches e && !d.fails n

def passed : Fate :=
  if (d.queue timeoutMs n).any (d.due n) then .pumps
  else if timeoutMs ≠ 0 ∨ d.before.session.closed then .back (.ok (some 0))
  else .waits

def fate : Fate :=
  match d.waited? timeoutMs n, d.pumped? n with
  | some (.error (.system e)), _ =>
    .back (.ok (some (if e.number.getD 0 = 0 then ErrorCode.unknown else e.number.getD 0)))
  | some (.error f), _ => .back (.error f)
  | some (.ok _), _ => d.passed timeoutMs n
  | none, some .delivered => d.passed timeoutMs n
  | none, some (.refused r) => .back (.ok (some r.code))
  | none, some (.raised (.refused r)) => .back (.ok (some r.code))
  | none, some (.raised f) => .back (.error f)
  | none, none => if d.before.stack.length = n + 1 then .waits else .pumps

end Deed

def Fate.Meets (timeoutMs : Int) (below : List Frame) (d : Deed) : Fate → Prop
  | .waits => d.after.stack = .waiting timeoutMs :: below
  | .pumps => ∃ upper descriptor h rest, (∀ f ∈ upper, Frame.Inner f) ∧
      d.after.stack = upper ++ .pumping descriptor h :: .passing timeoutMs rest :: below
  | .back o => d.after.stack = below ∧ outcomes d.outputs = [o]

/-- One deed in a run: each entry whose turn comes is pumped just if it is due, and the run has its
fate. -/
structure Deed.Dispatches (timeoutMs : Int) (below : List Frame) (d : Deed) : Prop where
  queue : d.queue timeoutMs below.length = d.turns timeoutMs below.length ++
    d.after.left below.length
  pumped : pumps d.outputs =
    ((d.turns timeoutMs below.length).filter (d.due below.length)).map (·.2)
  fate : (d.fate timeoutMs below.length).Meets timeoutMs below d

namespace Loop
variable {l : Loop} {timeoutMs d : Int} {h : Handle} {upper below : List Frame}
  {rest : List (Int × Handle)}

theorem left_of_waiting (hstack : l.stack = .waiting timeoutMs :: below) :
    l.left below.length = [] := by
  simp [left, hstack]

theorem left_of_back (hstack : l.stack = below) : l.left below.length = [] := by
  simp [left, hstack]

theorem left_of_pumping
    (hstack : l.stack = upper ++ .pumping d h :: .passing timeoutMs rest :: below) :
    l.left below.length = rest := by
  simp [left, hstack]

end Loop

namespace Deed
variable {d : Deed} {timeoutMs : Int} {below : List Frame} {queue skipped : List (Int × Handle)}

theorem waited?_of_length {n : Nat} (h : d.before.stack.length ≠ n + 1) :
    d.waited? timeoutMs n = none := by
  unfold waited?
  split
  · rw [if_neg h]
  · rfl

theorem pumped?_of_length {n : Nat} (h : d.before.stack.length ≠ n + 2) : d.pumped? n = none := by
  unfold pumped?
  split
  · rw [if_neg h]
  · rfl

theorem length_of_pumped? {n : Nat} {e : PumpEnd} (h : d.pumped? n = some e) :
    d.before.stack.length = n + 2 := by
  by_contra hne
  rw [pumped?_of_length hne] at h
  cases h

theorem fate_of_raised {n : Nat} {f : Fault} (hw : d.waited? timeoutMs n = none)
    (hp : d.pumped? n = some (.raised f)) : d.fate timeoutMs n = .back f.verdict := by
  unfold fate
  rw [hw, hp]
  cases f <;> rfl

theorem turns_eq {n : Nat} (h : d.queue timeoutMs n = skipped ++ d.after.left n) :
    d.turns timeoutMs n = skipped := by
  simp [turns, h]

theorem dispatches_of_pump {descriptor : Int} {h : Handle} {later : List (Int × Handle)}
    (hqueue : d.queue timeoutMs below.length = skipped ++ (descriptor, h) :: later)
    (hskipped : ∀ e ∈ skipped, d.due below.length e = false)
    (hdue : d.due below.length (descriptor, h) = true)
    (hfate : d.fate timeoutMs below.length = .pumps)
    (hstep : d.before.step d.faults d.move =
      ({ d.before with stack := .pumping descriptor h :: .passing timeoutMs later :: below },
        [.pump h])) :
    d.Dispatches timeoutMs below := by
  have hafter : d.after.stack = [] ++ .pumping descriptor h ::
      .passing timeoutMs later :: below := by
    rw [Deed.after, hstep]
    rfl
  have hpending : d.queue timeoutMs below.length =
      (skipped ++ [(descriptor, h)]) ++ d.after.left below.length := by
    rw [hqueue, Loop.left_of_pumping hafter]
    simp
  have hnone : skipped.filter (d.due below.length) = [] := by
    simpa [List.filter_eq_nil_iff] using hskipped
  refine ⟨?_, ?_, ?_⟩
  · rw [turns_eq hpending, hpending]
  · rw [turns_eq hpending, List.filter_append, hnone, Deed.outputs, hstep]
    simp [hdue, pumps, Output.pumped?]
  · rw [hfate]
    exact ⟨[], descriptor, h, later, by simp, hafter⟩

theorem dispatches_of_none
    (hdue : ∀ e ∈ d.queue timeoutMs below.length, d.due below.length e = false)
    (hleft : d.after.left below.length = []) (hpumps : pumps d.outputs = [])
    (hmeets : (d.fate timeoutMs below.length).Meets timeoutMs below d) :
    d.Dispatches timeoutMs below := by
  have hpending : d.queue timeoutMs below.length =
      d.queue timeoutMs below.length ++ d.after.left below.length := by
    rw [hleft, List.append_nil]
  have hfilter : (d.queue timeoutMs below.length).filter (d.due below.length) = [] := by
    simpa [List.filter_eq_nil_iff] using hdue
  refine ⟨?_, ?_, hmeets⟩
  · rw [turns_eq hpending, hleft, List.append_nil]
  · rw [turns_eq hpending, hfilter, hpumps]
    rfl

theorem dispatches_of_advance (hqueue : d.queue timeoutMs below.length = queue)
    (hfails : d.fails below.length = false)
    (hfate : d.fate timeoutMs below.length = d.passed timeoutMs below.length)
    (hstep : d.before.step d.faults d.move = d.before.advance timeoutMs queue below) :
    d.Dispatches timeoutMs below := by
  have hdue (e : Int × Handle) : d.due below.length e = d.before.watches e := by simp [due, hfails]
  obtain ⟨skipped, descriptor, h, later, hsplit, hskipped, hwatches, hadvance⟩ |
      ⟨hnone, hadvance⟩ :=
    Loop.advance_cases d.before timeoutMs queue below
  · have hmember : (descriptor, h) ∈ queue := by simp [hsplit]
    have hpassed : d.passed timeoutMs below.length = .pumps := by
      rw [passed, hqueue, if_pos]
      exact List.any_eq_true.mpr ⟨_, hmember, (hdue _).trans hwatches⟩
    exact dispatches_of_pump (hqueue.trans hsplit) (fun e he => (hdue e).trans (hskipped e he))
      ((hdue _).trans hwatches) (hfate.trans hpassed) (hstep.trans hadvance)
  · rw [hadvance] at hstep
    have hany : queue.any (d.due below.length) = false := by
      simpa [List.any_eq_false, hdue] using hnone
    have hundue : ∀ e ∈ d.queue timeoutMs below.length, d.due below.length e = false := by
      intro e he
      rw [hdue]
      exact hnone e (hqueue ▸ he)
    by_cases hover : timeoutMs ≠ 0 ∨ d.before.session.closed
    · rw [if_pos hover] at hstep
      have hback : d.after.stack = below := congrArg (·.1.stack) hstep
      refine dispatches_of_none hundue (Loop.left_of_back hback) ?_ ?_
      · rw [Deed.outputs, hstep]
        rfl
      · rw [hfate, passed, hqueue, hany, if_neg Bool.false_ne_true, if_pos hover]
        exact ⟨hback, by rw [Deed.outputs, hstep]; rfl⟩
    · rw [if_neg hover] at hstep
      have hwaits : d.after.stack = .waiting timeoutMs :: below := congrArg (·.1.stack) hstep
      refine dispatches_of_none hundue (Loop.left_of_waiting hwaits) ?_ ?_
      · rw [Deed.outputs, hstep]
        rfl
      · rw [hfate, passed, hqueue, hany, if_neg Bool.false_ne_true, if_neg hover]
        exact hwaits

theorem dispatches_of_back {o : Outcome} {os : List Output}
    (hdue : ∀ e ∈ d.queue timeoutMs below.length, d.due below.length e = false)
    (hfate : d.fate timeoutMs below.length = .back o)
    (hstep : d.before.step d.faults d.move = ({ d.before with stack := below }, os))
    (hpumps : pumps os = []) (hos : outcomes os = [o]) : d.Dispatches timeoutMs below := by
  have hback : d.after.stack = below := congrArg (·.1.stack) hstep
  have houtputs : d.outputs = os := congrArg Prod.snd hstep
  refine dispatches_of_none hdue (Loop.left_of_back hback) (houtputs ▸ hpumps) ?_
  rw [hfate]
  exact ⟨hback, houtputs ▸ hos⟩

theorem dispatches_of_still (hqueue : d.queue timeoutMs below.length = d.after.left below.length)
    (hpumps : pumps d.outputs = [])
    (hfate : (d.fate timeoutMs below.length).Meets timeoutMs below d) :
    d.Dispatches timeoutMs below := by
  have hpending : d.queue timeoutMs below.length = [] ++ d.after.left below.length := hqueue
  refine ⟨?_, ?_, hfate⟩
  · rw [turns_eq hpending, hpending]
  · rw [turns_eq hpending, hpumps]
    rfl

end Deed

namespace Running
variable {timeoutMs d : Int} {h : Handle} {upper below : List Frame} {rest : List (Int × Handle)}

theorem dispatches_of_waiting {d : Deed} (hstack : d.before.stack = .waiting timeoutMs :: below) :
    d.Dispatches timeoutMs below := by
  have hlength : d.before.stack.length = below.length + 1 := by simp [hstack]
  have hpumped : d.pumped? below.length = none := Deed.pumped?_of_length (by omega)
  have hfails : d.fails below.length = false := by simp [Deed.fails, hpumped]
  have hleft := Loop.left_of_waiting hstack
  obtain ⟨hwaited, hstill⟩ := Loop.step_of_waiting d.faults d.move hstack
  by_cases hm : ∃ reported fault, d.move = .waited reported fault
  · obtain ⟨reported, fault, hm⟩ := hm
    have hcomes : d.waited? timeoutMs below.length =
        some (d.before.session.mux.wait timeoutMs reported fault) := by
      simp only [Deed.waited?, hm, if_pos hlength]
    have hstep : d.before.step d.faults d.move = d.before.waited timeoutMs below reported fault :=
      hm ▸ hwaited reported fault
    cases hw : d.before.session.mux.wait timeoutMs reported fault with
    | ok ready =>
      rw [hw] at hcomes
      rw [Loop.waited, hw] at hstep
      have hqueue : d.queue timeoutMs below.length = ready := by simp only [Deed.queue, hcomes]
      have hfate : d.fate timeoutMs below.length = d.passed timeoutMs below.length := by
        simp only [Deed.fate, hcomes]
      exact Deed.dispatches_of_advance hqueue hfails hfate hstep
    | error f =>
      rw [hw] at hcomes
      rw [Loop.waited, hw] at hstep
      have hnone : ∀ e ∈ d.queue timeoutMs below.length, d.due below.length e = false := by
        simp [Deed.queue, hcomes, hleft]
      cases f with
      | system e =>
        exact Deed.dispatches_of_back hnone (by simp only [Deed.fate, hcomes]) hstep rfl rfl
      | _ => exact Deed.dispatches_of_back hnone (by simp only [Deed.fate, hcomes]) hstep rfl rfl
  · have hstep : d.before.step d.faults d.move = (d.before, []) :=
      hstill fun reported fault hm' => hm ⟨reported, fault, hm'⟩
    have hafter : d.after = d.before := congrArg Prod.fst hstep
    have hcomes : d.waited? timeoutMs below.length = none := by
      unfold Deed.waited?
      split
      · exact absurd ⟨_, _, ‹_›⟩ hm
      · rfl
    refine Deed.dispatches_of_still ?_ ?_ ?_
    · simp only [Deed.queue, hcomes, hafter]
    · rw [Deed.outputs, hstep]
      rfl
    · have hfate : d.fate timeoutMs below.length = .waits := by
        simp only [Deed.fate, hcomes, hpumped, if_pos hlength]
      rw [hfate, Fate.Meets, hafter, hstack]

theorem dispatches_of_pumping {a : Deed} (hs : a.before.session.Sound)
    (hf : ∀ h, a.faults.escaping h = none) (hupper : ∀ f ∈ upper, Frame.Inner f)
    (hstack : a.before.stack = upper ++ .pumping d h :: .passing timeoutMs rest :: below)
    (hrun : ∀ t answer, a.move ≠ .request (.run t) answer) : a.Dispatches timeoutMs below := by
  have hlength : a.before.stack.length = upper.length + (below.length + 2) := by
    rw [hstack, List.length_append]
    rfl
  have hcomes : a.waited? timeoutMs below.length = none := Deed.waited?_of_length (by omega)
  have hqueue : a.queue timeoutMs below.length = rest := by
    simp only [Deed.queue, hcomes, Loop.left_of_pumping hstack]
  by_cases hend : upper = [] ∧ ∃ e, a.move = .pumped e
  · obtain ⟨rfl, e, hm⟩ := hend
    have hpumped : a.pumped? below.length = some e := by
      simp only [Deed.pumped?, hm, hlength]
      simp
    have hstep : a.before.step a.faults a.move = a.before.pumped d timeoutMs rest below e :=
      hm ▸ Loop.step_of_pumping hstack e
    cases e with
    | delivered =>
      have hfails : a.fails below.length = false := by simp only [Deed.fails, hpumped]
      have hfate : a.fate timeoutMs below.length = a.passed timeoutMs below.length := by
        simp only [Deed.fate, hcomes, hpumped]
      exact Deed.dispatches_of_advance hqueue hfails hfate hstep
    | refused r =>
      have hnone : ∀ e ∈ a.queue timeoutMs below.length, a.due below.length e = false := by
        simp [Deed.due, Deed.fails, hpumped]
      exact Deed.dispatches_of_back hnone (by simp only [Deed.fate, hcomes, hpumped]) hstep rfl rfl
    | raised f =>
      have hnone : ∀ e ∈ a.queue timeoutMs below.length, a.due below.length e = false := by
        simp [Deed.due, Deed.fails, hpumped]
      rw [Loop.pumped, Loop.fail_eq] at hstep
      refine Deed.dispatches_of_back hnone (Deed.fate_of_raised hcomes hpumped) hstep ?_ ?_
      · cases f <;> rfl
      · cases f <;> rfl
  · have hpumped : a.pumped? below.length = none := by
      unfold Deed.pumped?
      split
      · rename_i e hm
        have hupper' : upper ≠ [] := fun hnil => hend ⟨hnil, e, hm⟩
        have hpositive := List.length_pos_of_ne_nil hupper'
        rw [if_neg (by omega)]
      · rfl
    obtain ⟨⟨upper', hupper', hafter⟩, hnone⟩ := Loop.stack_inside hs hf hupper hstack hrun
      fun hnil e hm => hend ⟨hnil, e, hm⟩
    refine Deed.dispatches_of_still ?_ hnone ?_
    · rw [hqueue]
      exact (Loop.left_of_pumping hafter).symm
    · have hfate : a.fate timeoutMs below.length = .pumps := by
        simp only [Deed.fate, hcomes, hpumped]
        rw [if_neg (by omega)]
      rw [hfate]
      exact ⟨upper', d, h, rest, hupper', hafter⟩

/-- What one deed in a run does, and that the run goes on or has come back. -/
theorem dispatches {a : Deed} (hrunning : Running timeoutMs below a.before.stack)
    (hs : a.before.session.Sound) (hf : ∀ h, a.faults.escaping h = none)
    (hrun : ∀ t answer, a.move ≠ .request (.run t) answer) :
    a.Dispatches timeoutMs below ∧
    (Running timeoutMs below a.after.stack ∨ a.after.stack = below) := by
  have hdispatches : a.Dispatches timeoutMs below := by
    generalize hstack : a.before.stack = stack at hrunning
    cases hrunning with
    | waiting => exact dispatches_of_waiting hstack
    | pumping hupper => exact dispatches_of_pumping hs hf hupper hstack hrun
  refine ⟨hdispatches, ?_⟩
  have hmeets := hdispatches.fate
  cases hfate : a.fate timeoutMs below.length with
  | waits =>
    rw [hfate] at hmeets
    exact .inl (hmeets ▸ .waiting)
  | pumps =>
    rw [hfate] at hmeets
    obtain ⟨upper, d, h, rest, hupper, hafter⟩ := hmeets
    exact .inl (hafter ▸ .pumping hupper)
  | back o =>
    rw [hfate] at hmeets
    exact .inr hmeets.1

end Running
end ServiceDiscovery
