import ServiceDiscovery.Proofs.Transition

/-!
One step of the loop. It either takes a turn of the session over, or only passes control on and
leaves session and records as they are.
-/
namespace ServiceDiscovery

def Fault.verdict : Fault → Outcome
  | .refused r => .ok (some r.code)
  | f => .error f

def Fault.logged (uuid : String) (descriptor : Int) : Fault → List Notice
  | .refused r => [.pumpFailed uuid descriptor r]
  | _ => []

theorem Accounts.notices (ns : List Notice) : Accounts (ns.map .notice) [] [] := by
  induction ns with
  | nil => exact .nil
  | cons n ns ih => simpa using (Accounts.notice n).append ih

namespace Loop
variable {faults : CloseFaults} {l : Loop} {m : Move} {t : Turn} {r : Loop × List Output}

theorem fail_eq (l : Loop) (descriptor : Int) (below : List Frame) (f : Fault) :
    l.fail descriptor below f = ({ l with stack := below },
      (f.logged l.session.uuid descriptor).map .notice ++ [.returned f.verdict]) := by
  cases f <;> rfl

def listens (l : Loop) : Bool :=
  match l.stack with
  | .pumping .. :: _ => true
  | _ => l.isIdle

structure Keeps (l : Loop) (r : Loop × List Output) : Prop where
  session : r.1.session = l.session
  records : r.1.records = l.records
  openings : openings r.2 = []
  releases : releases r.2 = []
  invocations : invocations r.2 = []
  pumps : ∀ h ∈ pumps r.2, h ∈ l.session.mux.handles

structure Takes (t : Turn) (r : Loop × List Output) : Prop where
  session : r.1.session = t.session
  records : r.1.records = t.records
  openings : openings r.2 = openings t.outputs
  releases : releases r.2 = releases t.outputs
  invocations : invocations r.2 = invocations t.outputs ++ t.next.invocation?.toList
  pumps : pumps r.2 = pumps t.outputs
  told : ∀ i o, t.next = .notify i o → r.2 = t.outputs ++ [.invoke i]

theorem Takes.invocations_eq {s : Session} {rs : Records} (ht : Takes t r)
    (he : Transition faults s rs m t) :
    ServiceDiscovery.invocations r.2 = t.next.invocation?.toList := by
  rw [ht.invocations, he.accounts.invocations, List.nil_append]

theorem Takes.invocations_tell {opened : List Opening} {closed : List Handle} {c : Client}
    {what : Notification} {o : Outcome} (ht : Takes t r) (hos : Accounts t.outputs opened closed)
    (hnext : t.next = .tell c what o) :
    ServiceDiscovery.invocations r.2 = if c.wants what then [⟨c, what⟩] else [] := by
  rw [ht.invocations, hos.invocations, hnext, Next.invocation?_tell]
  split <;> rfl

theorem Keeps.refl (l : Loop) : Keeps l (l, []) := ⟨rfl, rfl, rfl, rfl, rfl, fun _ h => nomatch h⟩

theorem Keeps.restack {os : List Output} (l : Loop) (stack : List Frame) (hos : Accounts os [] []) :
    Keeps l ({ l with stack }, os) :=
  ⟨rfl, rfl, hos.openings, hos.releases, hos.invocations, by simp [hos.pumps]⟩

theorem keeps_advance (l : Loop) (timeoutMs : Int) (rest : List (Int × Handle))
    (below : List Frame) :
    Keeps l (l.advance timeoutMs rest below) := by
  unfold advance
  split
  · rename_i d h later hrest
    refine ⟨rfl, rfl, rfl, rfl, rfl, ?_⟩
    intro h' hh'
    obtain rfl : h' = h := List.mem_singleton.mp hh'
    have hwatching : l.session.mux.isWatching d h' = true := by
      split at hrest
      · cases hrest
      · have hhead := List.head?_dropWhile_not (fun e => !l.session.mux.isWatching e.1 e.2) rest
        simpa [hrest] using hhead
    rw [Multiplexer.isWatching, beq_iff_eq, List.lookup_eq_some_iff] at hwatching
    obtain ⟨before, after, heq, -⟩ := hwatching
    exact List.mem_map.mpr ⟨(d, h'), by simp [heq], rfl⟩
  · split
    · exact .restack l _ ⟨rfl, rfl, rfl, rfl⟩
    · exact .restack l _ .nil

theorem comeBack_eq (l : Loop) (o : Outcome) :
    ∃ stack os, l.comeBack o = ({ l with stack }, os) ∧ Accounts os [] [] ∧
      (l.isIdle = true → .returned o ∈ os) := by
  unfold comeBack
  split
  · rename_i hstack
    have hbusy : l.isIdle = true → False := by simp [isIdle, hstack]
    split
    · rw [fail_eq]
      exact ⟨_, _, rfl, (Accounts.notices _).append ⟨rfl, rfl, rfl, rfl⟩, fun hl => (hbusy hl).elim⟩
    · exact ⟨l.stack, [], rfl, .nil, fun hl => (hbusy hl).elim⟩
  · exact ⟨_, _, rfl, ⟨rfl, rfl, rfl, rfl⟩, fun _ => List.mem_singleton_self _⟩
  · exact ⟨l.stack, _, rfl, ⟨rfl, rfl, rfl, rfl⟩, fun _ => List.mem_singleton_self _⟩

/-- A turn in a pump comes back to the provider, and a fault goes through it to the run. -/
theorem comeBack_pumping_ok {d timeoutMs : Int} {h : Handle} {rest : List (Int × Handle)}
    {below : List Frame} (hstack : l.stack = .pumping d h :: .passing timeoutMs rest :: below)
    (x : Option Int) : l.comeBack (.ok x) = (l, []) := by
  simp only [comeBack, hstack]

theorem comeBack_pumping_error {d timeoutMs : Int} {h : Handle} {rest : List (Int × Handle)}
    {below : List Frame} (hstack : l.stack = .pumping d h :: .passing timeoutMs rest :: below)
    (f : Fault) : l.comeBack (.error f) = l.fail d below f := by
  simp only [comeBack, hstack]

theorem mem_comeBack {o : Outcome} {x : Output} (hx : x ∈ (l.comeBack o).2) :
    (∃ o', x = .returned o') ∨ ∃ d r, x = .notice (.pumpFailed l.session.uuid d r) := by
  unfold comeBack at hx
  split at hx
  · split at hx
    · rename_i d _ _ _ _ _ _ f
      cases f with
      | refused r =>
        obtain rfl | rfl := by simpa [fail] using hx
        · exact .inr ⟨d, r, rfl⟩
        · exact .inl ⟨_, rfl⟩
      | _ => exact .inl ⟨_, List.mem_singleton.mp hx⟩
    · cases hx
  · exact .inl ⟨_, List.mem_singleton.mp hx⟩
  · exact .inl ⟨_, List.mem_singleton.mp hx⟩

theorem takes_settle (l : Loop) (t : Turn) : Takes t (l.settle t) := by
  unfold settle
  cases hnext : t.next with
  | notify i o =>
    constructor <;> simp only [hnext, openings_append, releases_append, invocations_append,
      pumps_append]
    · exact List.append_nil _
    · exact List.append_nil _
    · rfl
    · exact List.append_nil _
    · rintro i' o' ⟨⟩
      rfl
  | done o =>
    obtain ⟨stack, os, hback, hos, -⟩ :=
      comeBack_eq { l with session := t.session, records := t.records } o
    simp only [hback]
    constructor <;> simp only [hnext, openings_append, releases_append, invocations_append,
      pumps_append]
    · rw [hos.openings, List.append_nil]
    · rw [hos.releases, List.append_nil]
    · rw [hos.invocations]
      rfl
    · rw [hos.pumps, List.append_nil]
    · exact fun i' o' hnotify => nomatch hnotify

theorem returned_mem_settle {o : Outcome} (hl : l.isIdle = true) (ht : t.next = .done o) :
    .returned o ∈ (l.settle t).2 := by
  obtain ⟨stack, os, hback, -, hos⟩ :=
    comeBack_eq { l with session := t.session, records := t.records } o
  unfold settle
  simp only [ht, hback]
  exact List.mem_append_right _ (hos hl)

theorem comeBack_of_idle (hl : l.isIdle = true) (o : Outcome) :
    l.comeBack o = (l, [.returned o]) := by
  unfold comeBack
  split <;> simp_all [isIdle]

theorem settle_done (hl : l.isIdle = true) (s : Session) (rs : Records) (os : List Output)
    (o : Outcome) : l.settle ⟨s, rs, os, .done o⟩ = (⟨s, rs, l.stack⟩, os ++ [.returned o]) := by
  have hback := comeBack_of_idle (l := ⟨s, rs, l.stack⟩) hl o
  simp only [settle, hback]

/-- A reply that is taken is settled in the pump that is under way, or in a call of its own. -/
theorem step_reply (hl : l.listens = true) (address : ReplyTo) (r : Reply) :
    ∃ stack, (stack = l.stack ∨ l.isIdle = true ∧ stack = .calling :: l.stack) ∧
      ∀ faults, l.step faults (.reply address r) =
        { l with stack }.settle (l.session.onReply faults l.records address r) := by
  unfold listens at hl
  split at hl
  · rename_i hstack
    have hpumping (faults : CloseFaults) : l.step faults (.reply address r) =
        l.settle (l.session.onReply faults l.records address r) := by
      simp only [step, hstack]
    exact ⟨l.stack, .inl rfl, hpumping⟩
  · refine ⟨.calling :: l.stack, .inr ⟨hl, rfl⟩, fun faults => ?_⟩
    unfold step
    split <;> simp_all

theorem takes_reply (hl : l.listens = true) (address : ReplyTo) (r : Reply) :
    Takes (l.session.onReply faults l.records address r) (l.step faults (.reply address r)) := by
  obtain ⟨stack, -, hstep⟩ := step_reply hl address r
  rw [hstep]
  exact takes_settle _ _

theorem keeps_waited (l : Loop) (timeoutMs : Int) (below : List Frame) (reported : List Int)
    (f : Option Fault) : Keeps l (l.waited timeoutMs below reported f) := by
  unfold waited
  split
  · exact keeps_advance _ _ _ _
  · exact .restack l _ ⟨rfl, rfl, rfl, rfl⟩
  · exact .restack l _ ⟨rfl, rfl, rfl, rfl⟩

theorem keeps_fail (l : Loop) (d : Int) (below : List Frame) (f : Fault) :
    Keeps l (l.fail d below f) := by
  rw [fail_eq]
  exact .restack l below ((Accounts.notices _).append ⟨rfl, rfl, rfl, rfl⟩)

theorem keeps_pumped (l : Loop) (d timeoutMs : Int) (rest : List (Int × Handle))
    (below : List Frame) (e : PumpEnd) : Keeps l (l.pumped d timeoutMs rest below e) := by
  unfold pumped
  split
  · exact keeps_advance _ _ _ _
  · exact keeps_fail l d below _
  · exact keeps_fail l d below _

theorem keeps_run (l : Loop) (timeoutMs : Int) (answer : StartAnswer) :
    Keeps l (l.request faults (.run timeoutMs) answer) := by
  simp only [request]
  split
  · exact .restack l l.stack ⟨rfl, rfl, rfl, rfl⟩
  · exact .restack l _ .nil

theorem request_settles (faults : CloseFaults) (hs : l.session.Sound) {r : Request}
    (hr : ∀ timeoutMs, r ≠ .run timeoutMs) (answer : StartAnswer) :
    ∃ t, Transition faults l.session l.records (.request r answer) t ∧
      t.TellsWell ∧ l.request faults r answer = l.settle t := by
  cases r with
  | announce a c =>
    exact ⟨_, Session.transition_announce _ _ hs a c answer,
      Session.tellsWell_announce _ _ a c answer, rfl⟩
  | browse k c =>
    exact ⟨_, Session.transition_browse _ _ hs k c answer,
      Session.tellsWell_browse _ _ k c answer, rfl⟩
  | resolve target c =>
    exact ⟨_, Session.transition_resolve _ _ hs target c answer,
      Session.tellsWell_resolve _ _ target c answer, rfl⟩
  | cancel id =>
    exact ⟨_, Session.transition_cancel _ _ id answer, Session.tellsWell_cancel _ _ _ id, rfl⟩
  | close => exact ⟨_, Session.transition_close _ _ answer, Session.tellsWell_close _ _ _, rfl⟩
  | run timeoutMs => exact absurd rfl (hr timeoutMs)

theorem transition_request (faults : CloseFaults) (hs : l.session.Sound) (r : Request)
    (answer : StartAnswer) :
    Keeps l (l.request faults r answer) ∨
    ∃ t, Transition faults l.session l.records (.request r answer) t ∧
      l.request faults r answer = l.settle t := by
  by_cases hr : ∃ timeoutMs, r = .run timeoutMs
  · obtain ⟨timeoutMs, rfl⟩ := hr
    exact .inl (keeps_run l timeoutMs answer)
  · obtain ⟨t, he, -, ht⟩ :=
      request_settles faults hs (fun timeoutMs hrun => hr ⟨timeoutMs, hrun⟩) answer
    exact .inr ⟨t, he, ht⟩

theorem keeps_finish (l : Loop) (raised : Bool) : Keeps l (l.step faults (.finish raised)) := by
  obtain ⟨s, rs, _ | ⟨frame, below⟩⟩ := l
  · exact .refl _
  cases frame with
  | notifying i o =>
    obtain ⟨stack, os, hback, hos, -⟩ := comeBack_eq ⟨s, rs, below⟩ o
    have hlogged : Accounts (if raised then [Output.notice (.callbackRaised i.what.label)]
        else []) [] [] := by
      split
      · exact .notice _
      · exact .nil
    simp only [step, hback]
    exact .restack _ stack (hlogged.append hos)
  | _ => exact .refl _

theorem keeps_stepWaited (l : Loop) (reported : List Int) (f : Option Fault) :
    Keeps l (l.step faults (.waited reported f)) := by
  obtain ⟨s, rs, _ | ⟨frame, below⟩⟩ := l
  · exact .refl _
  cases frame with
  | waiting timeoutMs => exact keeps_waited _ _ _ _ _
  | _ => exact .refl _

theorem keeps_stepPumped (l : Loop) (e : PumpEnd) : Keeps l (l.step faults (.pumped e)) := by
  obtain ⟨s, rs, _ | ⟨frame, _ | ⟨under, below⟩⟩⟩ := l
  · exact .refl _
  · cases frame <;> exact .refl _
  · cases frame with
    | pumping d h =>
      cases under with
      | passing timeoutMs rest => exact keeps_pumped _ _ _ _ _ _
      | _ => exact .refl _
    | _ => exact .refl _

theorem step_reply_of_deaf (hl : l.listens = false) (address : ReplyTo) (r : Reply) :
    l.step faults (.reply address r) = (l, []) := by
  unfold step
  split <;> simp_all [listens]

theorem step_request (hl : l.isIdle = true) (r : Request) (answer : StartAnswer) :
    l.step faults (.request r answer) = l.request faults r answer := by
  simp only [step, hl, if_true]

/-- All that a step can do. -/
theorem step_cases (hs : l.session.Sound) (faults : CloseFaults) (m : Move) :
    Keeps l (l.step faults m) ∨
      ∃ t, Transition faults l.session l.records m t ∧ Takes t (l.step faults m) := by
  cases m with
  | request r answer =>
    by_cases hl : l.isIdle = true
    · rw [step_request hl]
      obtain hkeeps | ⟨t, he, ht⟩ := transition_request faults hs r answer
      · exact .inl hkeeps
      · exact .inr ⟨t, he, ht ▸ takes_settle l t⟩
    · simp only [step, hl]
      exact .inl (.refl l)
  | reply address r =>
    by_cases hl : l.listens = true
    · exact .inr ⟨_, Session.transition_reply _ _ address r, takes_reply hl address r⟩
    · rw [step_reply_of_deaf (by simpa using hl)]
      exact .inl (.refl l)
  | finish raised => exact .inl (keeps_finish l raised)
  | waited reported f => exact .inl (keeps_stepWaited l reported f)
  | pumped e => exact .inl (keeps_stepPumped l e)

end Loop
end ServiceDiscovery
