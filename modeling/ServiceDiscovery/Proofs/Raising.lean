import ServiceDiscovery.Proofs.Pumping

/-!
Client code that raises. The session logs the exception and goes on as if the client code had come
back: two histories that differ in nothing else have the same states, the same effects and the same
results.
-/
namespace ServiceDiscovery

namespace Loop
variable (l : Loop) (faults : CloseFaults)

def complaint (raised : Bool) : List Output :=
  match raised, l.stack with
  | true, .notifying i _ :: _ => [.notice (.callbackRaised i.what.label)]
  | _, _ => []

theorem step_finish (raised : Bool) : l.step faults (.finish raised) =
    ((l.step faults (.finish false)).1, l.complaint raised ++
      (l.step faults (.finish false)).2) := by
  obtain ⟨s, rs, _ | ⟨frame, below⟩⟩ := l
  · cases raised <;> rfl
  cases frame <;> cases raised <;> rfl

@[simp] theorem filterMap_complaint {α : Type} {f : Output → Option α}
    (hf : ∀ n, f (.notice n) = none) (raised : Bool) : (l.complaint raised).filterMap f = [] := by
  unfold complaint
  split <;> simp [hf]

/-- A call that comes back without a fault passes none on, and ends neither a run nor a pump. -/
theorem comeBack_contained (x : Option Int) :
    (∀ f, .error f ∉ outcomes (l.comeBack (.ok x)).2) ∧
      ∃ ended, (∀ f ∈ ended, Frame.Inner f) ∧ l.stack = ended ++ (l.comeBack (.ok x)).1.stack := by
  unfold comeBack
  split
  · exact ⟨fun _ hf => (nomatch hf), [], by simp, rfl⟩
  · rename_i hstack
    exact ⟨by simp [leave, outcomes, Output.outcome?], [.calling], by simpa using .calling, hstack⟩
  · exact ⟨by simp [outcomes, Output.outcome?], [], by simp, rfl⟩

theorem finish_contained (hfair : l.Fair) (raised : Bool) :
    (∀ f, .error f ∉ outcomes (l.step faults (.finish raised)).2) ∧
      ∃ ended, (∀ f ∈ ended, Frame.Inner f) ∧
      l.stack = ended ++ (l.step faults (.finish raised)).1.stack := by
  obtain ⟨s, rs, _ | ⟨frame, below⟩⟩ := l
  · exact ⟨fun _ hf => (nomatch hf), [], by simp, rfl⟩
  cases frame with
  | notifying i o =>
    cases o with
    | error f => exact (hfair _ List.mem_cons_self).elim
    | ok x =>
      obtain ⟨hwell, ended, hended, hstack⟩ := comeBack_contained ⟨s, rs, below⟩ x
      rw [step_finish]
      refine ⟨fun f hf => hwell f ?_, .notifying i (.ok x) :: ended, ?_, congrArg (_ :: ·) hstack⟩
      · rw [outcomes_append, outcomes, filterMap_complaint _ fun _ => rfl] at hf
        exact hf
      · exact List.forall_mem_cons.mpr ⟨.notifying i x, hended⟩
  | _ => exact ⟨fun _ hf => (nomatch hf), [], by simp, rfl⟩

end Loop

/-- Two occurrences that are the same, except that client code may raise in one where it comes back
in the other. -/
inductive Occurrence.Alike : Occurrence → Occurrence → Prop
  | same (e : Occurrence) : Alike e e
  | finish (raised raised' : Bool) : Alike (.finish raised) (.finish raised')

namespace Deed

def complaint (d : Deed) : List Output :=
  match d.event with
  | .finish raised => d.before.complaint raised
  | _ => []

structure Alike (d d' : Deed) : Prop where
  before : d.before = d'.before
  faults : d.faults = d'.faults
  event : d.event.Alike d'.event
  after : d.after = d'.after
  outputs : ∃ os, d.outputs = d.complaint ++ os ∧ d'.outputs = d'.complaint ++ os

variable {d d' : Deed} {ds ds' : List Deed}

theorem filterMap_complaint {α : Type} {f : Output → Option α} (hf : ∀ n, f (.notice n) = none)
    (d : Deed) : d.complaint.filterMap f = [] := by
  unfold complaint
  split
  · exact d.before.filterMap_complaint hf _
  · rfl

theorem alike_finish (l : Loop) (faults : CloseFaults) (raised raised' : Bool) :
    Alike ⟨l, faults, .finish raised, .finish raised⟩ ⟨l, faults, .finish raised',
      .finish raised'⟩ := by
  refine ⟨rfl, rfl, .finish raised raised', ?_, (l.step faults (.finish false)).2, ?_, ?_⟩
  · simp only [after, l.step_finish faults raised, l.step_finish faults raised']
  · exact congrArg Prod.snd (l.step_finish faults raised)
  · exact congrArg Prod.snd (l.step_finish faults raised')

theorem alike_self {past : List Deed} (hd : d.Follows past) : d.Alike d := by
  obtain ⟨before, faults, event, move⟩ := d
  cases event with
  | finish raised =>
    obtain rfl : Move.finish raised = move := Option.some.inj hd
    exact alike_finish before faults raised raised
  | _ => exact ⟨rfl, rfl, .same _, rfl, _, rfl, rfl⟩

namespace Alike

theorem client? (h : d.Alike d') : d.client? = d'.client? := by
  obtain ⟨before, faults, event, move⟩ := d
  obtain ⟨before', faults', event', move'⟩ := d'
  cases h.event <;> rfl

theorem filterMap_outputs {α : Type} {f : Output → Option α} (hf : ∀ n, f (.notice n) = none)
    (h : List.Forall₂ Alike ds ds') : (outputsOf ds).filterMap f = (outputsOf ds').filterMap f := by
  induction h with
  | nil => rfl
  | @cons d d' ds ds' hd _ ih =>
    obtain ⟨os, hos, hos'⟩ := hd.outputs
    simp only [outputsOf, List.flatMap_cons, List.filterMap_append, hos, hos',
      filterMap_complaint hf, List.nil_append]
    exact congrArg _ ih

theorem clients (h : List.Forall₂ Alike ds ds') : clients ds = ServiceDiscovery.clients ds' := by
  induction h with
  | nil => rfl
  | cons hd _ ih =>
    simp only [ServiceDiscovery.clients, List.filterMap_cons, hd.client?] at ih ⊢
    rw [ih]

end Alike
end Deed

/-- What can happen depends on what the provider returned and on who called, not on log records. -/
theorem Occurrence.move?_congr {past past' : List Deed}
    (hopenings : openings (outputsOf past) = openings (outputsOf past'))
    (hclients : clients past = clients past') (l : Loop) (e : Occurrence) :
    e.move? l past = e.move? l past' := by
  have hreturned : returned past = returned past' := congrArg (List.map Opening.handle) hopenings
  cases e <;> simp only [move?, hreturned, hopenings, hclients]

namespace History

inductive Alike : History → History → Prop
  | start (uuid : String) (codec : Txt.Codec) (ownsProvider : Bool) (records : Records) :
      Alike (.start uuid codec ownsProvider records) (.start uuid codec ownsProvider records)
  | add {k k' : History} {e e' : Occurrence} (past : Alike k k') (faults : CloseFaults)
      (he : e.Alike e') :
      Alike (k.add faults e) (k'.add faults e')

variable {k k' : History}

/-- Like histories have gone through the same, but for the log records about client code that
raised. -/
theorem Alike.same (h : Alike k k') :
    k.loop = k'.loop ∧ List.Forall₂ Deed.Alike k.deeds k'.deeds := by
  induction h with
  | start => exact ⟨rfl, .nil⟩
  | @add k k' e e' _ faults he ih =>
    obtain ⟨hloop, hdeeds⟩ := ih
    have hmove (e : Occurrence) : e.move? k'.loop k'.deeds = e.move? k.loop k.deeds := by
      rw [← hloop]
      exact (e.move?_congr (Deed.Alike.filterMap_outputs (fun _ => rfl) hdeeds)
        (Deed.Alike.clients hdeeds)
        k.loop).symm
    cases he with
    | finish raised raised' =>
      obtain ⟨hdeeds₁, hloop₁⟩ := add_eq (k := k) (e := .finish raised) faults rfl
      obtain ⟨hdeeds₂, hloop₂⟩ := add_eq (k := k') (e := .finish raised') faults rfl
      have halike := Deed.alike_finish k.loop faults raised raised'
      rw [hdeeds₁, hdeeds₂, hloop₁, hloop₂, ← hloop]
      exact ⟨halike.after, List.rel_append hdeeds (.cons halike .nil)⟩
    | same =>
      cases hm : e.move? k.loop k.deeds with
      | none =>
        obtain ⟨hdeeds₁, hloop₁⟩ := add_eq_self faults hm
        obtain ⟨hdeeds₂, hloop₂⟩ := add_eq_self faults ((hmove e).trans hm)
        rw [hdeeds₁, hdeeds₂, hloop₁, hloop₂]
        exact ⟨hloop, hdeeds⟩
      | some m =>
        obtain ⟨hdeeds₁, hloop₁⟩ := add_eq faults hm
        obtain ⟨hdeeds₂, hloop₂⟩ := add_eq faults ((hmove e).trans hm)
        have halike : Deed.Alike ⟨k.loop, faults, e, m⟩ ⟨k.loop, faults, e, m⟩ := Deed.alike_self hm
        rw [hdeeds₁, hdeeds₂, hloop₁, hloop₂, ← hloop]
        exact ⟨rfl, List.rel_append hdeeds (.cons halike .nil)⟩

/-- Client code that raises is as good as client code that comes back. Two histories that differ in
nothing else have the same states, and each deed of theirs the same effects and results, but for a
log record. The exception goes no further: only the calls that are over anyway come to their end,
and none of them with a fault. -/
theorem raising_is_returning (h : Alike k k') :
    k.loop = k'.loop ∧ List.Forall₂ Deed.Alike k.deeds k'.deeds ∧
    ∀ d ∈ k.deeds, ∀ raised, d.event = .finish raised → (∀ f, .error f ∉ outcomes d.outputs) ∧
      ∃ ended, (∀ f ∈ ended, Frame.Inner f) ∧ d.before.stack = ended ++ d.after.stack := by
  obtain ⟨hloop, hdeeds⟩ := h.same
  refine ⟨hloop, hdeeds, fun d hd raised he => ?_⟩
  obtain ⟨k₀, rest, -, hbefore, hfollows⟩ := exists_at hd
  have hmove : d.move = .finish raised := by
    simp only [Deed.Follows, he, Occurrence.move?, Option.some.injEq] at hfollows
    exact hfollows.symm
  rw [Deed.outputs, Deed.after, hmove]
  exact d.before.finish_contained d.faults (hbefore ▸ k₀.fair) raised

def reentrant (raised : Bool) : History :=
  (start "A" {} false {}).adds [
    .request (.browse {} { ticket := 1 }) (.started 1 10),
    .request (.run 5) (.raised (.closed "")), .waited [10] none,
    .report 1 (.browse 2 0 0 "B" (some "_ndn._udp.") (some "local.")),
    .request (.cancel 1) (.raised (.closed "")),
    .request (.announce { port := 9, namePrefix := "/a" } { ticket := 2 }) (.started 2 11),
    .finish raised, .pumped .delivered]

theorem raising_is_returning_reentrant :
    (reentrant true).Alike (reentrant false) ∧ (reentrant true).loop = (reentrant false).loop ∧
    List.Forall₂ Deed.Alike (reentrant true).deeds (reentrant false).deeds ∧
    (reentrant true).deeds.map (fun d => d.complaint.length) = [0, 0, 0, 0, 0, 0, 1, 0] ∧
    (reentrant true).loop.stack.length = 0 := by
  have halike : (reentrant true).Alike (reentrant false) := by
    iterate 8 refine .add ?_ _ (by constructor)
    exact .start _ _ _ _
  obtain ⟨hloop, hdeeds, -⟩ := raising_is_returning halike
  exact ⟨halike, hloop, hdeeds, by decide +kernel, by decide +kernel⟩

end History
end ServiceDiscovery
