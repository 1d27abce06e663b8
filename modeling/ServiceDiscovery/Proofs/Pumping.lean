import ServiceDiscovery.Proofs.History
import ServiceDiscovery.Proofs.Passing

/-!
The pumps under way in a loop. A step ends the innermost one at most, and begins one at most.
-/
namespace ServiceDiscovery

theorem Transition.tellsWell_reply {faults : CloseFaults} {s : Session} {rs : Records}
    {address : ReplyTo} {r : Reply} {t : Turn} (he : Transition faults s rs (.reply address r) t) :
    t.TellsWell := by
  cases he with
  | idle | lostFaulty | answeredFaulty => exact Turn.tellsWell_done _
  | confirmed | browseFailed | appeared | vanished | answered =>
    exact Turn.tellsWell_of_ok (Next.outcome_tell _ _ _)
  | lost =>
    refine Turn.tellsWell_of_ok (x := none) ?_
    dsimp only
    split
    · rfl
    · exact Next.outcome_tell _ _ _

def Frame.pumped? : Frame → Option Handle
  | .pumping _ h => some h
  | _ => none

def Frame.Fair : Frame → Prop
  | .notifying _ (.error _) => False
  | _ => True

namespace Loop

def pumping (l : Loop) : List Handle := l.stack.filterMap Frame.pumped?

def Fair (l : Loop) : Prop := ∀ f ∈ l.stack, f.Fair

def MayEnd (faults : CloseFaults) (l : Loop) : Move → Prop
  | .pumped _ => True
  | .reply address r => ∃ f, (l.session.onReply faults l.records address r).next.outcome = .error f
  | _ => False

/-- Frames come off a stack and others go onto it. Pumps come off only if `ends`, and then just the
innermost one; one pump goes on at most. -/
structure Restack (ends : Prop) (before : List Frame) (r : Loop × List Output)
    (upper lower : List Frame) : Prop where
  stack : r.1.stack = upper ++ lower
  suffix : lower <:+ before
  fair : ∀ f ∈ upper, f.Fair
  begun : pumps r.2 = upper.filterMap Frame.pumped?
  once : (pumps r.2).length ≤ 1
  kept : lower.filterMap Frame.pumped? = before.filterMap Frame.pumped? ∨
    ends ∧ ∃ h, before.filterMap Frame.pumped? = h :: lower.filterMap Frame.pumped?

def Restacks (ends : Prop) (before : List Frame) (r : Loop × List Output) : Prop :=
  ∃ upper lower, Restack ends before r upper lower

variable {faults : CloseFaults} {l : Loop} {r : Loop × List Output} {ends : Prop}
  {before below : List Frame} {t : Turn}

theorem Restacks.same (hstack : r.1.stack = before) (hpumps : pumps r.2 = []) :
    Restacks ends before r :=
  ⟨[], before, hstack, List.suffix_refl _, by simp, hpumps, by simp [hpumps], .inl rfl⟩

theorem Restacks.push {f : Frame} (hf : f.Fair) (hnone : f.pumped? = none)
    (hstack : r.1.stack = f :: before) (hpumps : pumps r.2 = []) : Restacks ends before r := by
  refine ⟨[f], before, hstack, List.suffix_refl _,
    by simpa using hf, ?_, by simp [hpumps], .inl rfl⟩
  rw [hpumps, List.filterMap_cons, hnone, List.filterMap_nil]

theorem Restacks.under {ends' : Prop} (h : Restacks False below r) (hbelow : below <:+ before)
    (hkept : below.filterMap Frame.pumped? = before.filterMap Frame.pumped? ∨
      ends' ∧ ∃ h, before.filterMap Frame.pumped? = h :: below.filterMap Frame.pumped?) :
    Restacks ends' before r := by
  obtain ⟨upper, lower, hr⟩ := h
  obtain hlower | ⟨hfalse, -⟩ := hr.kept
  · exact ⟨upper, lower, hr.stack, hr.suffix.trans hbelow, hr.fair, hr.begun, hr.once,
      by rwa [hlower]⟩
  · exact hfalse.elim

theorem Restacks.of_calling (h : Restacks ends (.calling :: before) r) :
    Restacks ends before r := by
  obtain ⟨upper, lower, hr⟩ := h
  have hpumped : (Frame.calling :: before).filterMap Frame.pumped? =
      before.filterMap Frame.pumped? := rfl
  obtain rfl | hlower := List.suffix_cons_iff.mp hr.suffix
  · refine ⟨upper ++ [.calling], before,
      by simp [hr.stack], List.suffix_refl _, ?_, ?_, hr.once, .inl rfl⟩
    · intro f hf
      obtain hf | hf := List.mem_append.mp hf
      · exact hr.fair f hf
      · exact (List.mem_singleton.mp hf) ▸ trivial
    · rw [hr.begun, List.filterMap_append]
      exact (List.append_nil _).symm
  · exact ⟨upper, lower, hr.stack, hlower, hr.fair, hr.begun, hr.once,
      by rw [← hpumped]; exact hr.kept⟩

theorem restacks_advance (l : Loop) (timeoutMs : Int) (rest : List (Int × Handle))
    (below : List Frame) : Restacks False below (l.advance timeoutMs rest below) := by
  obtain ⟨_, d, h, later, -, -, -, hadvance⟩ | ⟨-, hadvance⟩ := l.advance_cases timeoutMs rest below
  · rw [hadvance]
    refine ⟨[.pumping d h, .passing timeoutMs later], below, rfl, List.suffix_refl _, ?_, rfl,
      Nat.le_refl _, .inl rfl⟩
    simpa using ⟨trivial, trivial⟩
  · rw [hadvance]
    split
    · exact .same rfl rfl
    · exact .push (f := .waiting timeoutMs) trivial rfl rfl rfl

theorem restacks_fail (l : Loop) (d : Int) (below : List Frame) (f : Fault) :
    Restacks False below (l.fail d below f) := by
  rw [fail_eq]
  exact .same rfl ((Accounts.notices _).append ⟨rfl, rfl, rfl, rfl⟩ : Accounts _ [] []).pumps

theorem restacks_comeBack (l : Loop) (o : Outcome) :
    Restacks (∃ f, o = .error f) l.stack (l.comeBack o) := by
  unfold comeBack
  split
  · rename_i d h _ _ below hstack
    cases o with
    | error f =>
      rw [hstack]
      exact (restacks_fail l d below f).under ((List.suffix_cons _ _).trans (List.suffix_cons _ _))
        (.inr ⟨⟨f, rfl⟩, h, rfl⟩)
    | ok x => exact .same rfl rfl
  · rename_i below hstack
    rw [hstack]
    have hoff : Restacks False below (l.leave below o) := .same rfl rfl
    exact hoff.under (List.suffix_cons _ _) (.inl rfl)
  · exact .same rfl rfl

theorem restacks_settle (l : Loop) (hpumps : pumps t.outputs = []) (htells : t.TellsWell) :
    Restacks (∃ f, t.next.outcome = .error f) l.stack (l.settle t) := by
  unfold settle
  cases hnext : t.next with
  | notify i o =>
    obtain ⟨x, rfl⟩ := htells i o hnext
    refine .push (f := .notifying i (.ok x)) trivial rfl rfl ?_
    rw [pumps_append, hpumps]
    rfl
  | done o =>
    obtain ⟨upper, lower, hr⟩ := restacks_comeBack ⟨t.session, t.records, l.stack⟩ o
    have houtputs : pumps (t.outputs ++ (comeBack ⟨t.session, t.records, l.stack⟩ o).2) =
        pumps (comeBack ⟨t.session, t.records, l.stack⟩ o).2 := by
      rw [pumps_append, hpumps, List.nil_append]
    exact ⟨upper, lower, hr.stack, hr.suffix, hr.fair, houtputs.trans hr.begun,
      houtputs ▸ hr.once, hr.kept⟩

theorem restacks_step_request (hs : l.session.Sound) (faults : CloseFaults) (r : Request)
    (answer : StartAnswer) : Restacks False l.stack (l.step faults (.request r answer)) := by
  by_cases hl : l.isIdle = true
  · rw [step_request hl]
    by_cases hr : ∃ timeoutMs, r = .run timeoutMs
    · obtain ⟨timeoutMs, rfl⟩ := hr
      simp only [request]
      split
      · exact .same rfl rfl
      · exact .push (f := .waiting timeoutMs) trivial rfl rfl rfl
    · obtain ⟨t, he, htells, hturn⟩ :=
        request_settles faults hs (fun timeoutMs h => hr ⟨timeoutMs, h⟩) answer
      rw [hturn, settle]
      cases hnext : t.next with
      | notify i o =>
        obtain ⟨x, rfl⟩ := htells i o hnext
        refine .push (f := .notifying i (.ok x)) trivial rfl rfl ?_
        rw [pumps_append, he.accounts.pumps]
        rfl
      | done o =>
        -- client code called, so the call comes back to it whatever its outcome
        have hback := comeBack_of_idle (l := ⟨t.session, t.records, l.stack⟩) hl o
        simp only [hback]
        refine .same rfl ?_
        rw [pumps_append, he.accounts.pumps]
        rfl
  · simp only [step, hl]
    exact .same rfl rfl

theorem restacks_step_finish (hfair : l.Fair) (faults : CloseFaults) (raised : Bool) :
    Restacks False l.stack (l.step faults (.finish raised)) := by
  have hpumps : pumps (l.step faults (.finish raised)).2 = [] := pumps_finish l raised
  obtain ⟨s, rs, _ | ⟨frame, below⟩⟩ := l
  · exact .same rfl rfl
  cases frame with
  | notifying i o =>
    have hnotifying : Frame.Fair (.notifying i o) := hfair _ List.mem_cons_self
    obtain ⟨x, rfl⟩ : ∃ x, o = .ok x := by
      cases o with
      | error f => cases hnotifying
      | ok x => exact ⟨x, rfl⟩
    obtain ⟨upper, lower, hr⟩ := restacks_comeBack ⟨s, rs, below⟩ (.ok x)
    obtain ⟨stack, os, hback, hos, -⟩ := comeBack_eq ⟨s, rs, below⟩ (.ok x)
    rw [hback] at hr
    have hbegun : [] = upper.filterMap Frame.pumped? := hos.pumps.symm.trans hr.begun
    have hoff : Restacks False below
        ((⟨s, rs, .notifying i (.ok x) :: below⟩ : Loop).step faults (.finish raised)) := by
      refine ⟨upper, lower, ?_, hr.suffix, hr.fair, hpumps.trans hbegun, by simp [hpumps], ?_⟩
      · simp only [step, hback]
        exact hr.stack
      · refine .inl (hr.kept.resolve_right ?_)
        rintro ⟨⟨f, hf⟩, -⟩
        cases hf
    exact hoff.under (List.suffix_cons _ _) (.inl rfl)
  | _ => exact .same rfl rfl

theorem restacks_waited (l : Loop) (timeoutMs : Int) (below : List Frame) (reported : List Int)
    (fault : Option Fault) : Restacks False below (l.waited timeoutMs below reported fault) := by
  unfold waited
  split
  · exact restacks_advance _ _ _ _
  · exact .same rfl rfl
  · exact .same rfl rfl

theorem restacks_pumped (l : Loop) (descriptor timeoutMs : Int) (rest : List (Int × Handle))
    (below : List Frame) (e : PumpEnd) :
    Restacks False below (l.pumped descriptor timeoutMs rest below e) := by
  unfold pumped
  split
  · exact restacks_advance _ _ _ _
  · exact restacks_fail _ _ _ _
  · exact restacks_fail _ _ _ _

theorem restacks_step_waited (l : Loop) (faults : CloseFaults) (reported : List Int)
    (fault : Option Fault) : Restacks False l.stack (l.step faults (.waited reported fault)) := by
  obtain ⟨s, rs, _ | ⟨frame, below⟩⟩ := l
  · exact .same rfl rfl
  cases frame with
  | waiting timeoutMs =>
    have hover :=
      restacks_waited ⟨s, rs, .waiting timeoutMs :: below⟩ timeoutMs below reported fault
    exact hover.under (List.suffix_cons _ _) (.inl rfl)
  | _ => exact .same rfl rfl

theorem restacks_step_reply (l : Loop) (faults : CloseFaults) (address : ReplyTo) (r : Reply) :
    Restacks (l.MayEnd faults (.reply address r)) l.stack (l.step faults (.reply address r)) := by
  have he := Session.transition_reply (s := l.session) faults l.records address r
  by_cases hl : l.listens = true
  · obtain ⟨s, rs, stack⟩ := l
    have hsettle (stack : List Frame) :=
      restacks_settle ⟨s, rs, stack⟩ he.accounts.pumps he.tellsWell_reply
    cases stack with
    | nil => exact (hsettle [.calling]).of_calling
    | cons frame below =>
      cases frame with
      | pumping d h => exact hsettle (.pumping d h :: below)
      | notifying i o => exact (hsettle (.calling :: .notifying i o :: below)).of_calling
      | _ => cases hl
  · rw [step_reply_of_deaf (by simpa using hl)]
    exact .same rfl rfl

theorem restacks_step_pumped (l : Loop) (faults : CloseFaults) (e : PumpEnd) :
    Restacks True l.stack (l.step faults (.pumped e)) := by
  obtain ⟨s, rs, _ | ⟨frame, _ | ⟨under, below⟩⟩⟩ := l
  · exact .same rfl rfl
  · cases frame <;> exact .same rfl rfl
  · cases frame with
    | pumping d h =>
      cases under with
      | passing timeoutMs rest =>
        have hover :=
          restacks_pumped ⟨s, rs, .pumping d h :: .passing timeoutMs rest :: below⟩ d timeoutMs rest
          below e
        exact hover.under ((List.suffix_cons _ _).trans (List.suffix_cons _ _))
          (.inr ⟨trivial, h, rfl⟩)
      | _ => exact .same rfl rfl
    | _ => exact .same rfl rfl

theorem restacks_step (hs : l.session.Sound) (hfair : l.Fair) (faults : CloseFaults) (m : Move) :
    Restacks (l.MayEnd faults m) l.stack (l.step faults m) := by
  cases m with
  | request r answer => exact restacks_step_request hs faults r answer
  | finish raised => exact restacks_step_finish hfair faults raised
  | waited reported fault => exact restacks_step_waited l faults reported fault
  | reply address r => exact restacks_step_reply l faults address r
  | pumped e => exact restacks_step_pumped l faults e

theorem Fair.step (hfair : l.Fair) (hs : l.session.Sound) (faults : CloseFaults) (m : Move) :
    (l.step faults m).1.Fair := by
  obtain ⟨upper, lower, hr⟩ := restacks_step hs hfair faults m
  intro f hf
  rw [hr.stack] at hf
  obtain hf | hf := List.mem_append.mp hf
  · exact hr.fair f hf
  · exact hfair f (hr.suffix.subset hf)

end Loop

namespace History

theorem fair (k : History) : k.loop.Fair := by
  refine induction (P := fun _ l => l.Fair) ?_ ?_ k
  · exact fun _ _ _ _ f hf => nomatch hf
  · intro k d hbefore _ hfair
    rw [← hbefore] at hfair
    exact hfair.step (hbefore ▸ k.sound) d.faults d.move

/-- The pumps after a deed: at most one has begun, and at most the innermost one has ended, which
its end or a failing reply brings about. -/
theorem pumping_after (k : History) {d : Deed} (hbefore : d.before = k.loop) :
    ∃ (begun : Option Handle) (kept : List Handle), pumps d.outputs = begun.toList ∧
      d.after.pumping = begun.toList ++ kept ∧
      (kept = k.loop.pumping ∨ k.loop.MayEnd d.faults d.move ∧
        ∃ h, k.loop.pumping = h :: kept) := by
  obtain ⟨upper, lower, hr⟩ := Loop.restacks_step k.sound k.fair d.faults d.move
  rw [← hbefore] at hr ⊢
  have honce : (pumps d.outputs).length ≤ 1 := hr.once
  have hbegun : pumps d.outputs = upper.filterMap Frame.pumped? := hr.begun
  have hpumping : d.after.pumping = pumps d.outputs ++ lower.filterMap Frame.pumped? := by
    rw [hbegun, ← List.filterMap_append, ← hr.stack]
    rfl
  refine ⟨(pumps d.outputs).head?, lower.filterMap Frame.pumped?, ?_, ?_, hr.kept⟩
  · match pumps d.outputs, honce with
    | [], _ => rfl
    | [h], _ => rfl
  · rw [hpumping]
    match pumps d.outputs, honce with
    | [], _ => rfl
    | [h], _ => rfl

end History
end ServiceDiscovery
