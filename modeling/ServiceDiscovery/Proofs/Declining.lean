import ServiceDiscovery.Proofs.Step

/-!
Calls that come to nothing. The session and the records are as before, nothing was opened, and the
client of the call is told once, if it asked to be.
-/
namespace ServiceDiscovery

def Output.attempt? : Output → Option StartRequest
  | .start r _ => some r
  | _ => none

def attempts (os : List Output) : List StartRequest := os.filterMap Output.attempt?

@[simp] theorem attempts_append (a b : List Output) :
    attempts (a ++ b) = attempts a ++ attempts b :=
  List.filterMap_append

namespace Session
variable {s : Session} {rs : Records}

theorem attempts_watch (s : Session) (h : Handle) (d : Int) : attempts (s.watch h d).2.2 = [] := by
  unfold watch
  split <;> rfl

theorem attempts_resolve (hopen : s.closed = false) {target : RecordId} {q : BrowseRequest}
    (hq : s.tracker? rs target = some q) (c : Client) (answer : StartAnswer) :
    attempts (s.resolve rs target c answer).outputs = [s.resolveRequest rs target] := by
  simp only [resolve, hopen, Bool.false_eq_true, if_false, hq]
  cases answer with
  | raised f => rfl
  | refused r => rfl
  | started h d =>
    dsimp only
    unfold resolveStarted
    split
    · rfl
    · rename_i registry _
      have hwatch := attempts_watch { s with registry } h d
      split <;> simp_all [attempts, Output.attempt?]

end Session

namespace Loop
variable {l : Loop} {c : Client} {what : Notification} {o : Outcome}

theorem attempts_settle (hl : l.isIdle = true) (t : Turn) :
    attempts (l.settle t).2 = attempts t.outputs := by
  obtain ⟨s, rs, os, next⟩ := t
  cases next with
  | done o =>
    rw [settle_done hl, attempts_append]
    exact List.append_nil _
  | notify i o =>
    rw [settle, attempts_append]
    exact List.append_nil _

/-- A call that was asked to start `asked` at the most, and that changes nothing. It comes back with
`o`; if its client gave a callback for `what`, then after that callback. -/
structure Declines (l : Loop) (asked : List StartRequest) (c : Client) (what : Notification)
    (o : Outcome) (r : Loop × List Output) : Prop where
  session : r.1.session = l.session
  records : r.1.records = l.records
  attempts : attempts r.2 = asked
  openings : openings r.2 = []
  told : invocations r.2 = if c.wants what then [⟨c, what⟩] else []
  back : c.wants what = false → r.1.stack = l.stack ∧ outcomes r.2 = [o]
  backLater : c.wants what = true → outcomes r.2 = [] ∧ ∀ faults raised,
    (r.1.step faults (.finish raised)).1 = l ∧ outcomes (r.1.step faults (.finish raised)).2 = [o]

theorem declines_settle (hl : l.isIdle = true) {os : List Output} {asked : List StartRequest}
    (hattempts : ServiceDiscovery.attempts os = asked) (hopenings : openings os = [])
    (hinvocations : invocations os = []) (houtcomes : outcomes os = []) :
    Declines l asked c what o (l.settle ⟨l.session, l.records, os, .tell c what o⟩) := by
  by_cases hwants : c.wants what = true
  · have htell : Next.tell c what o = .notify ⟨c, what⟩ o := if_pos hwants
    rw [htell, settle]
    refine ⟨rfl, rfl, ?_, ?_, ?_, ?_, fun _ => ⟨?_, fun faults raised => ?_⟩⟩
    · rw [attempts_append, hattempts]
      exact List.append_nil _
    · rw [openings_append, hopenings]
      rfl
    · rw [invocations_append, hinvocations, if_pos hwants]
      rfl
    · intro hnot
      cases hwants.symm.trans hnot
    · rw [outcomes_append, houtcomes]
      rfl
    · have hback : ({ l with stack := l.stack } : Loop).comeBack o = (l, [.returned o]) :=
        comeBack_of_idle hl o
      constructor
      · simp only [step, hback]
      · cases raised <;> simp only [step, hback] <;> rfl
  · rw [Bool.not_eq_true] at hwants
    have htell : Next.tell c what o = .done o := if_neg (by simp [hwants])
    rw [htell, settle_done hl]
    refine ⟨rfl, rfl, ?_, ?_, ?_, fun _ => ⟨rfl, ?_⟩, fun hyes => ?_⟩
    · rw [attempts_append, hattempts]
      exact List.append_nil _
    · rw [openings_append, hopenings]
      rfl
    · rw [invocations_append, hinvocations, if_neg (by simp [hwants])]
      rfl
    · rw [outcomes_append, houtcomes]
      rfl
    · cases hwants.symm.trans hyes

end Loop
end ServiceDiscovery
