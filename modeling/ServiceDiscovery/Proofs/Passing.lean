import Mathlib.Data.List.TakeWhile
import ServiceDiscovery.Proofs.Step

/-!
One run of the loop, step by step. While it has not come back it waits or pumps a handle of a pass;
what client code and replies do meanwhile stays above it on the stack and leaves its pass as it is.
-/
namespace ServiceDiscovery

namespace Session
variable {faults : CloseFaults} {s : Session} {rs : Records}

theorem idle_ok (s : Session) (rs : Records) (os : List Output) :
    (s.idle rs os).next.outcome = .ok none := rfl

theorem onRegisterReply_ok (hf : ∀ h, faults.escaping h = none) (s : Session) (rs : Records)
    (code : Int) (name regtype domain : Option String) :
    (s.onRegisterReply faults rs code name regtype domain).next.outcome = .ok none := by
  cases hg : s.registration with
  | none =>
    simp only [onRegisterReply, hg]
    exact idle_ok s rs []
  | some g =>
    by_cases hcode : code = ErrorCode.noError
    · subst hcode
      by_cases hstate : (s.ownRecord rs).state = .registered
      · rw [onRegisterReply_reconfirmed hg hstate]
        exact idle_ok s rs _
      · obtain ⟨os, hturn, -⟩ := onRegisterReply_confirmed faults hg hstate name regtype domain
        rw [hturn]
        exact Next.outcome_tell _ _ _
    · obtain ⟨os, hturn, -⟩ := onRegisterReply_lost rs hg hcode (hf g.handle) name regtype domain
      rw [hturn]
      by_cases hsettled : g.settled = true
      · rw [if_pos hsettled]
        rfl
      · rw [if_neg hsettled]
        exact Next.outcome_tell _ _ _

theorem onBrowseReply_ok (s : Session) (rs : Records) (id flags interfaceIndex code : Int)
    (name : String) (regtype domain : Option String) :
    (s.onBrowseReply rs id flags interfaceIndex code name regtype domain).next.outcome =
      .ok none := by
  unfold onBrowseReply appear vanish
  split
  · exact idle_ok s rs _
  split
  · exact Next.outcome_tell _ _ _
  split
  · split
    · exact idle_ok s rs _
    split
    · exact idle_ok s rs _
    split
    · exact idle_ok s rs _
    · exact Next.outcome_tell _ _ _
  · split
    · exact idle_ok s rs _
    · exact Next.outcome_tell _ _ _

theorem onResolveReply_ok (hf : ∀ h, faults.escaping h = none) (s : Session) (rs : Records)
    (id code : Int) (fullname hostTarget : Option String) (port : Int) (txt : Text.Octets) :
    (s.onResolveReply faults rs id code fullname hostTarget port txt).next.outcome = .ok none := by
  cases hq : s.registry.resolves.get? id with
  | none =>
    simp only [onResolveReply, Registry.popResolve, hq]
    exact idle_ok s rs []
  | some q =>
    obtain ⟨os, hturn, -⟩ :=
      onResolveReply_answered rs hq (hf q.handle) code fullname hostTarget port txt
    rw [hturn]
    exact Next.outcome_tell _ _ _

/-- No reply ends with a fault, as long as closing a handle fails with system errors at most. -/
theorem onReply_ok (hf : ∀ h, faults.escaping h = none) (s : Session) (rs : Records)
    (address : ReplyTo) (r : Reply) : (s.onReply faults rs address r).next.outcome = .ok none := by
  unfold onReply
  split
  · exact onRegisterReply_ok hf s rs _ _ _ _
  · exact onBrowseReply_ok s rs _ _ _ _ _ _ _
  · exact onResolveReply_ok hf s rs _ _ _ _ _ _
  · exact idle_ok s rs []

end Session

inductive Frame.Inner : Frame → Prop
  | calling : Frame.Inner .calling
  | notifying (i : Invocation) (x : Option Int) : Frame.Inner (.notifying i (.ok x))

inductive Running (timeoutMs : Int) (below : List Frame) : List Frame → Prop
  | waiting : Running timeoutMs below (.waiting timeoutMs :: below)
  | pumping {upper d h rest} (hupper : ∀ f ∈ upper, f.Inner) :
      Running timeoutMs below (upper ++ .pumping d h :: .passing timeoutMs rest :: below)

namespace Loop
variable {faults : CloseFaults} {l : Loop} {m : Move} {t : Turn} {upper below : List Frame}
  {d timeoutMs : Int} {h : Handle} {rest : List (Int × Handle)}

theorem stack_settle_of_idle (hl : l.isIdle = true) (ht : t.TellsWell) :
    ∃ upper, (∀ f ∈ upper, Frame.Inner f) ∧ (l.settle t).1.stack = upper ++ l.stack := by
  unfold settle
  cases hnext : t.next with
  | notify i o =>
    obtain ⟨x, rfl⟩ := ht i o hnext
    exact ⟨[.notifying i (.ok x)], by simpa using .notifying i x, rfl⟩
  | done o =>
    have hback := comeBack_of_idle (l := ⟨t.session, t.records, l.stack⟩) hl o
    exact ⟨[], by simp, by simp only [hback, List.nil_append]⟩

theorem stack_settle_of_pumping
    (hstack : l.stack = .pumping d h :: .passing timeoutMs rest :: below) {x : Option Int}
    (ht : t.next.outcome = .ok x) :
    ∃ upper, (∀ f ∈ upper, Frame.Inner f) ∧ (l.settle t).1.stack = upper ++ l.stack := by
  unfold settle
  cases hnext : t.next with
  | notify i o =>
    rw [hnext] at ht
    obtain rfl : o = .ok x := ht
    exact ⟨[.notifying i (.ok x)], by simpa using .notifying i x, rfl⟩
  | done o =>
    rw [hnext] at ht
    obtain rfl : o = .ok x := ht
    exact ⟨[], by simp, by simp [comeBack, hstack]⟩

theorem stack_settle_calling {x : Option Int} (ht : t.next.outcome = .ok x) :
    ∃ upper, (∀ f ∈ upper, Frame.Inner f) ∧
      ({ l with stack := .calling :: l.stack }.settle t).1.stack = upper ++ l.stack := by
  unfold settle
  cases hnext : t.next with
  | notify i o =>
    rw [hnext] at ht
    obtain rfl : o = .ok x := ht
    refine ⟨[.notifying i (.ok x), .calling], ?_, rfl⟩
    simpa using ⟨.notifying i x, .calling⟩
  | done o => exact ⟨[], by simp, by simp [comeBack, leave]⟩

theorem stack_finish (raised : Bool) (hupper : ∀ f ∈ upper, Frame.Inner f)
    (hstack : l.stack = upper ++ .pumping d h :: .passing timeoutMs rest :: below) :
    ∃ upper', (∀ f ∈ upper', Frame.Inner f) ∧
      (l.step faults (.finish raised)).1.stack = upper' ++ .pumping d h ::
        .passing timeoutMs rest :: below := by
  cases upper with
  | nil => exact ⟨[], by simp, by simp [step, hstack]⟩
  | cons f fs =>
    have hfs : ∀ f ∈ fs, Frame.Inner f := fun f hf => hupper f (List.mem_cons_of_mem _ hf)
    cases hupper f List.mem_cons_self with
    | calling => exact ⟨.calling :: fs, hupper, by simp [step, hstack]⟩
    | notifying i x =>
      cases fs with
      | nil => exact ⟨[], by simp, by simp [step, hstack, comeBack]⟩
      | cons f' fs' =>
        have hfs' : ∀ f ∈ fs', Frame.Inner f := fun f hf => hfs f (List.mem_cons_of_mem _ hf)
        cases hfs f' List.mem_cons_self with
        | calling => exact ⟨fs', hfs', by simp [step, hstack, comeBack, leave]⟩
        | notifying i' x' =>
          exact ⟨.notifying i' (.ok x') :: fs', hfs, by simp [step, hstack, comeBack]⟩

theorem pumps_finish (l : Loop) (raised : Bool) :
    pumps (l.step faults (.finish raised)).2 = [] := by
  obtain ⟨s, rs, _ | ⟨frame, below⟩⟩ := l
  · rfl
  cases frame with
  | notifying i o =>
    obtain ⟨stack, os, hback, hos, -⟩ := comeBack_eq ⟨s, rs, below⟩ o
    have hlogged : pumps (if raised then [Output.notice (.callbackRaised i.what.label)] else []) =
        [] := by
      cases raised <;> rfl
    simp only [step, hback, pumps_append, hlogged, hos.pumps, List.append_nil]
  | _ => rfl

theorem step_of_upper (faults : CloseFaults) (hupper : ∀ f ∈ upper, Frame.Inner f)
    (hstack : l.stack = upper ++ .pumping d h :: .passing timeoutMs rest :: below) :
    (∀ reported fault, l.step faults (.waited reported fault) = (l, [])) ∧
      (upper ≠ [] → ∀ e, l.step faults (.pumped e) = (l, [])) := by
  cases upper with
  | nil => exact ⟨fun _ _ => by simp [step, hstack], fun hne => absurd rfl hne⟩
  | cons f fs =>
    cases hupper f List.mem_cons_self with
    | calling => exact ⟨fun _ _ => by simp [step, hstack], fun _ _ => by simp [step, hstack]⟩
    | notifying i x => exact ⟨fun _ _ => by simp [step, hstack], fun _ _ => by simp [step, hstack]⟩

theorem stack_reply (hf : ∀ h, faults.escaping h = none) (hupper : ∀ f ∈ upper, Frame.Inner f)
    (hstack : l.stack = upper ++ .pumping d h :: .passing timeoutMs rest :: below)
    (address : ReplyTo) (r : Reply) : ∃ upper', (∀ f ∈ upper', Frame.Inner f) ∧
      (l.step faults (.reply address r)).1.stack =
        upper' ++ .pumping d h :: .passing timeoutMs rest :: below := by
  have hok := Session.onReply_ok hf l.session l.records address r
  cases upper with
  | nil =>
    have hstep : l.step faults (.reply address r) =
        l.settle (l.session.onReply faults l.records address r) := by simp [step, hstack]
    rw [hstep]
    obtain ⟨above, habove, hsettled⟩ := stack_settle_of_pumping hstack hok
    exact ⟨above, habove, hsettled.trans (congrArg (above ++ ·) hstack)⟩
  | cons f fs =>
    cases hupper f List.mem_cons_self with
    | calling => exact ⟨.calling :: fs, hupper, by simp [step, hstack, isIdle]⟩
    | notifying i x =>
      have hstep : l.step faults (.reply address r) =
          { l with stack := .calling :: l.stack }.settle
            (l.session.onReply faults l.records address r) := by simp [step, hstack, isIdle]
      rw [hstep]
      obtain ⟨above, habove, hsettled⟩ := stack_settle_calling hok
      refine ⟨above ++ .notifying i (.ok x) :: fs, ?_, ?_⟩
      · intro f hf
        exact (List.mem_append.mp hf).elim (habove f) (hupper f)
      · rw [hsettled, hstack]
        simp

theorem stack_inside (hs : l.session.Sound) (hf : ∀ h, faults.escaping h = none)
    (hupper : ∀ f ∈ upper, Frame.Inner f)
    (hstack : l.stack = upper ++ .pumping d h :: .passing timeoutMs rest :: below)
    (hrun : ∀ t answer, m ≠ .request (.run t) answer) (hend : upper = [] → ∀ e, m ≠ .pumped e) :
    (∃ upper', (∀ f ∈ upper', Frame.Inner f) ∧
      (l.step faults m).1.stack = upper' ++ .pumping d h :: .passing timeoutMs rest :: below) ∧
    pumps (l.step faults m).2 = [] := by
  obtain ⟨hwaited, hpumped⟩ := step_of_upper faults hupper hstack
  have hstill : ∃ upper', (∀ f ∈ upper', Frame.Inner f) ∧
      l.stack = upper' ++ .pumping d h :: .passing timeoutMs rest :: below :=
        ⟨upper, hupper, hstack⟩
  cases m with
  | request r answer =>
    have hr : ∀ t, r ≠ .run t := fun t ht => hrun t answer (ht ▸ rfl)
    by_cases hl : l.isIdle = true
    · obtain ⟨t, he, htells, hsettle⟩ := request_settles faults hs hr answer
      rw [step_request hl, hsettle]
      obtain ⟨above, habove, hsettled⟩ := stack_settle_of_idle hl htells
      refine ⟨⟨above ++ upper, ?_, ?_⟩, (takes_settle l t).pumps.trans he.accounts.pumps⟩
      · intro f hf
        exact (List.mem_append.mp hf).elim (habove f) (hupper f)
      · rw [hsettled, hstack, List.append_assoc]
    · simp only [step, hl]
      exact ⟨hstill, rfl⟩
  | finish raised => exact ⟨stack_finish raised hupper hstack, pumps_finish l raised⟩
  | waited reported fault =>
    rw [hwaited]
    exact ⟨hstill, rfl⟩
  | reply address r =>
    refine ⟨stack_reply hf hupper hstack address r, ?_⟩
    by_cases hl : l.listens = true
    · exact (takes_reply hl address r).pumps.trans
        (Session.transition_reply faults l.records address r).accounts.pumps
    · rw [step_reply_of_deaf (by simpa using hl)]
      rfl
  | pumped e =>
    have hne : upper ≠ [] := fun hnil => hend hnil e rfl
    rw [hpumped hne]
    exact ⟨hstill, rfl⟩

theorem step_of_waiting (faults : CloseFaults) (m : Move)
    (hstack : l.stack = .waiting timeoutMs :: below) :
    (∀ reported fault, l.step faults (.waited reported fault) =
      l.waited timeoutMs below reported fault) ∧
      ((∀ reported fault, m ≠ .waited reported fault) → l.step faults m = (l, [])) := by
  refine ⟨fun reported fault => by simp [step, hstack], fun hm => ?_⟩
  cases m with
  | waited reported fault => exact absurd rfl (hm reported fault)
  | _ => simp [step, hstack, isIdle]

theorem step_of_pumping (hstack : l.stack = .pumping d h :: .passing timeoutMs rest :: below)
    (e : PumpEnd) : l.step faults (.pumped e) = l.pumped d timeoutMs rest below e := by
  simp [step, hstack]

def watches (l : Loop) (e : Int × Handle) : Bool :=
  !l.session.closed && l.session.mux.isWatching e.1 e.2

/-- The pass goes on to the first entry that is still watched. If there is none it is over, and so
is the run unless it has no time. -/
theorem advance_cases (l : Loop) (timeoutMs : Int) (queue : List (Int × Handle))
    (below : List Frame) :
    (∃ skipped d h later, queue = skipped ++ (d, h) :: later ∧
      (∀ e ∈ skipped, l.watches e = false) ∧
      l.watches (d, h) = true ∧ l.advance timeoutMs queue below =
        ({ l with stack := .pumping d h :: .passing timeoutMs later :: below }, [.pump h])) ∨
    ((∀ e ∈ queue, l.watches e = false) ∧ l.advance timeoutMs queue below =
      if timeoutMs ≠ 0 ∨ l.session.closed then
        ({ l with stack := below }, [.returned (.ok (some 0))])
      else ({ l with stack := .waiting timeoutMs :: below }, [])) := by
  unfold advance watches
  by_cases hclosed : l.session.closed = true
  · exact .inr ⟨by simp [hclosed], by simp [hclosed]⟩
  rw [Bool.not_eq_true] at hclosed
  simp only [hclosed, Bool.false_eq_true, if_false, Bool.not_false, Bool.true_and]
  have hsplit := List.takeWhile_append_dropWhile (p := fun e => !l.session.mux.isWatching e.1 e.2)
    (l := queue)
  have hskipped : ∀ e ∈ queue.takeWhile fun e => !l.session.mux.isWatching e.1 e.2,
      l.session.mux.isWatching e.1 e.2 = false := by
    intro e he
    simpa using List.mem_takeWhile_imp he
  cases hrest : queue.dropWhile fun e => !l.session.mux.isWatching e.1 e.2 with
  | nil =>
    rw [hrest, List.append_nil] at hsplit
    exact .inr ⟨hsplit ▸ hskipped, rfl⟩
  | cons e later =>
    have hhead := List.head?_dropWhile_not (fun e => !l.session.mux.isWatching e.1 e.2) queue
    rw [hrest] at hhead hsplit
    exact .inl ⟨_, e.1, e.2, later, hsplit.symm, hskipped, by simpa using hhead, rfl⟩

end Loop
end ServiceDiscovery
