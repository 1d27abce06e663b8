import ServiceDiscovery.Proofs.Announcing
import ServiceDiscovery.Proofs.Passing

/-!
Handles that fail when they are closed. A failure of the system is logged and changes nothing; any
other one cuts short the cancellation or the reply that closed the handle.
-/
namespace ServiceDiscovery

structure Turn.Faulted (faults : CloseFaults) (rs : Records) (hs : List Handle) (t t' : Turn) :
    Prop where
  session : t.session = t'.session
  closes : Closes t.outputs hs
  closes' : Closes t'.outputs hs
  spared : (∀ h ∈ hs, faults.escaping h = none) → t.records = t'.records ∧ t.next = t'.next
  cut : ∀ h ∈ hs, ∀ f, faults.escaping h = some f → t.records = rs ∧ t.next = .done (.error f)

theorem Turn.Faulted.refl {faults : CloseFaults} {rs : Records} {t : Turn}
    (h : Closes t.outputs []) :
    t.Faulted faults rs [] t :=
  ⟨rfl, h, h, fun _ => ⟨rfl, rfl⟩, fun _ hh => nomatch hh⟩

namespace Session
variable (faults : CloseFaults) (s : Session) (rs : Records)

/-- A turn that goes on only when the handle that it closes does not fail. -/
theorem faulted_release (h : Handle) {go : Session → List Output → Turn} {rs' : Records}
    {next : Next}
    (hgo : ∀ os, ∃ later, go { s with mux := (s.mux.remove h).2 } os =
      ⟨{ s with mux := (s.mux.remove h).2 }, rs', os ++ later, next⟩ ∧ Closes later []) :
    Turn.Faulted faults rs [h]
      (match s.release faults h with
        | (s, outputs, some f) => ⟨s, rs, outputs, .done (.error f)⟩
        | (s, outputs, none) => go s outputs)
      (match s.release {} h with
        | (s, outputs, some f) => ⟨s, rs, outputs, .done (.error f)⟩
        | (s, outputs, none) => go s outputs) := by
  obtain ⟨os, hr, hos⟩ := release_eq faults s h
  obtain ⟨os', hr', hos'⟩ := release_eq {} s h
  obtain ⟨later, hturn, hlater⟩ := hgo os
  obtain ⟨later', hturn', hlater'⟩ := hgo os'
  have hnone : CloseFaults.escaping {} h = none := rfl
  cases hf : faults.escaping h with
  | none =>
    simp only [hr, hr', hf, hnone, hturn, hturn']
    exact ⟨rfl, by simpa using hos.append hlater, by simpa using hos'.append hlater',
      fun _ => ⟨rfl, rfl⟩, by simp [hf]⟩
  | some f =>
    simp only [hr, hr', hf, hnone, hturn']
    refine ⟨rfl, hos, by simpa using hos'.append hlater', fun hall => ?_, ?_⟩
    · cases hf.symm.trans (hall h (List.mem_singleton_self h))
    · intro h' hh' f' hf'
      obtain rfl := List.mem_singleton.mp hh'
      obtain rfl := Option.some.inj (hf.symm.trans hf')
      exact ⟨rfl, rfl⟩

theorem faulted_cancel (id : Int) :
    ∃ hs, Turn.Faulted faults rs hs (s.cancel faults rs id) (s.cancel {} rs id) := by
  cases hq : s.registry.browses.get? id with
  | none =>
    simp only [cancel, Registry.popBrowse, hq]
    exact ⟨[], .refl .nil⟩
  | some q =>
    simp only [cancel, Registry.popBrowse, hq]
    exact ⟨[q.handle], faulted_release faults _ rs q.handle fun os => ⟨_, rfl, .notice _⟩⟩

theorem closes_confirm (g : Registration) (name regtype domain : Option String) :
    Closes (s.confirm rs g name regtype domain).outputs [] := by
  unfold confirm
  split
  · exact .notice _
  · refine Closes.add_notice ?_ _
    split
    · split
      · exact .nil
      · exact .notice _
    · exact .nil

theorem faulted_registerReply (code : Int) (name regtype domain : Option String) :
    ∃ hs, Turn.Faulted faults rs hs (s.onRegisterReply faults rs code name regtype domain)
      (s.onRegisterReply {} rs code name regtype domain) := by
  cases hg : s.registration with
  | none =>
    simp only [onRegisterReply, hg]
    exact ⟨[], .refl .nil⟩
  | some g =>
    by_cases hcode : code = ErrorCode.noError
    · simp only [onRegisterReply, hg, hcode, if_true]
      exact ⟨[], .refl (closes_confirm s rs g name regtype domain)⟩
    · simp only [onRegisterReply, hg, hcode, if_false, loseRegistration]
      refine ⟨[g.handle], ?_⟩
      by_cases hsettled : g.settled = true
      · simp only [hsettled, if_true]
        exact faulted_release faults _ rs g.handle fun os => ⟨_, rfl, .notice _⟩
      · simp only [hsettled]
        exact faulted_release faults _ rs g.handle fun os => ⟨_, rfl, .notice _⟩

theorem closes_browseReply (id flags interfaceIndex code : Int) (name : String)
    (regtype domain : Option String) :
    Closes (s.onBrowseReply rs id flags interfaceIndex code name regtype domain).outputs [] := by
  unfold onBrowseReply appear vanish
  split
  · exact .notice _
  split
  · exact .nil
  split
  · split
    · exact .nil
    split
    · exact .notice _
    split <;> exact .notice _
  · split
    · exact .nil
    · exact .notice _

theorem faulted_resolveReply (id code : Int) (fullname hostTarget : Option String) (port : Int)
    (txt : Text.Octets) :
    ∃ hs, Turn.Faulted faults rs hs
      (s.onResolveReply faults rs id code fullname hostTarget port txt)
      (s.onResolveReply {} rs id code fullname hostTarget port txt) := by
  cases hq : s.registry.resolves.get? id with
  | none =>
    simp only [onResolveReply, Registry.popResolve, hq]
    exact ⟨[], .refl .nil⟩
  | some q =>
    simp only [onResolveReply, Registry.popResolve, hq]
    refine ⟨[q.handle], ?_⟩
    by_cases hcode : code = ErrorCode.noError
    · simp only [hcode, ne_eq, not_true_eq_false, if_false]
      exact faulted_release faults _ rs q.handle
        fun os => settleResolve_eq _ rs q fullname hostTarget port txt os
    · simp only [hcode, ne_eq, not_false_eq_true, if_true]
      exact faulted_release faults _ rs q.handle fun os => ⟨[], by rw [List.append_nil], .nil⟩

theorem faulted_reply (address : ReplyTo) (r : Reply) :
    ∃ hs, Turn.Faulted faults rs hs (s.onReply faults rs address r)
      (s.onReply {} rs address r) := by
  unfold onReply
  split
  · exact faulted_registerReply faults s rs _ _ _ _
  · exact ⟨[], .refl (closes_browseReply s rs _ _ _ _ _ _ _)⟩
  · exact faulted_resolveReply faults s rs _ _ _ _ _ _
  · exact ⟨[], .refl .nil⟩

theorem cancel_ok (id : Int) : (s.cancel {} rs id).next.outcome = .ok none := by
  cases hq : s.registry.browses.get? id with
  | none =>
    simp only [cancel, Registry.popBrowse, hq]
    rfl
  | some q =>
    obtain ⟨os, o, hturn, -, ho⟩ := cancel_live {} rs hq
    rw [hturn]
    exact ho rfl

end Session

def Move.mayEnd : Move → Bool
  | .request (.cancel _) _ => true
  | .reply _ _ => true
  | _ => false

namespace Loop
variable {faults : CloseFaults} {l : Loop} {hs : List Handle} {t t' : Turn}

/-- The move goes as it would if no closing failed, but for log records. -/
def Spared (l : Loop) (faults : CloseFaults) (m : Move) : Prop :=
  (l.step faults m).1 = (l.step {} m).1 ∧ unlogged (l.step faults m).2 = unlogged (l.step {} m).2

/-- What becomes of a fault that escapes from a closing call. In a pump the run is over: with the
code of an error of the provider, which it logs, and by any other fault. Outside of pumps the fault
comes out of the call, whatever it is. -/
def Escapes (l : Loop) (f : Fault) (r : Loop × List Output) : Prop :=
  match l.stack with
  | .pumping d _ :: .passing .. :: below =>
    r.1.stack = below ∧
    match f with
    | .refused e =>
      outcomes r.2 = [.ok (some e.code)] ∧ .notice (.pumpFailed r.1.session.uuid d e) ∈ r.2
    | f => outcomes r.2 = [.error f]
  | _ => outcomes r.2 = [.error f]

/-- A step of `l` that closes these handles, beside the step `r'` that it is when no closing
fails. -/
structure Faulted (faults : CloseFaults) (l : Loop) (hs : List Handle) (r r' : Loop × List Output) :
    Prop where
  session : r.1.session = r'.1.session
  releases' : releases r'.2 = hs
  well : ∀ o ∈ outcomes r'.2, o = .ok none
  spared : (∀ h ∈ hs, faults.escaping h = none) → r.1 = r'.1 ∧ unlogged r.2 = unlogged r'.2
  cut : ∀ h ∈ hs, ∀ f, faults.escaping h = some f →
    r.1.records = l.records ∧ invocations r.2 = [] ∧ l.Escapes f r

theorem outcomes_comeBack_ok (l : Loop) (x : Option Int) :
    ∀ o ∈ outcomes (l.comeBack (.ok x)).2, o = .ok x := by
  unfold comeBack
  split <;> simp [leave, outcomes, Output.outcome?]

theorem escapes_of_idle {r : Loop × List Output} {f : Fault} (hl : l.isIdle = true) :
    l.Escapes f r ↔ outcomes r.2 = [.error f] := by
  unfold Escapes
  split <;> simp_all [isIdle]

theorem escapes_comeBack (l : Loop) {os : List Output} (hos : outcomes os = []) (f : Fault) :
    l.Escapes f ((l.comeBack (.error f)).1, os ++ (l.comeBack (.error f)).2) := by
  unfold Escapes
  split
  · rename_i d h timeoutMs rest below hstack
    rw [comeBack_pumping_error hstack, outcomes_append, hos]
    cases f with
    | refused r => exact ⟨rfl, rfl, by simp [fail]⟩
    | _ => exact ⟨rfl, rfl⟩
  · rename_i hstack
    rw [outcomes_append, hos, comeBack]
    split
    · exact absurd ‹_› (hstack _ _ _ _ _)
    · rfl
    · rfl

theorem Faulted.settle (l : Loop) (h : Turn.Faulted faults l.records hs t t')
    (hok : t'.next.outcome = .ok none) : Faulted faults l hs (l.settle t) (l.settle t') := by
  have ht := takes_settle l t
  have ht' := takes_settle l t'
  constructor
  · rw [ht.session, ht'.session, h.session]
  · rw [ht'.releases, h.closes'.accounts.releases]
  · intro o ho
    unfold Loop.settle at ho
    cases hnext : t'.next with
    | notify i o' =>
      simp only [hnext, outcomes_append, h.closes'.outcomes] at ho
      cases ho
    | done o' =>
      obtain rfl : o' = .ok none := by simpa [hnext, Next.outcome] using hok
      simp only [hnext, outcomes_append, h.closes'.outcomes, List.nil_append] at ho
      exact outcomes_comeBack_ok _ none o ho
  · intro hnone
    obtain ⟨hrecords, hnext⟩ := h.spared hnone
    have houtputs : unlogged t.outputs = unlogged t'.outputs := h.closes.trans h.closes'.symm
    unfold Loop.settle
    rw [h.session, hrecords, hnext]
    cases t'.next with
    | notify i o => exact ⟨rfl, by simp only [unlogged_append, houtputs]⟩
    | done o => exact ⟨rfl, by simp only [unlogged_append, houtputs]⟩
  · intro h' hh' f hf
    obtain ⟨hrecords, hnext⟩ := h.cut h' hh' f hf
    refine ⟨ht.records.trans hrecords, ?_, ?_⟩
    · rw [ht.invocations, h.closes.accounts.invocations, hnext]
      rfl
    · have hescapes := escapes_comeBack { l with session := t.session, records := t.records }
        h.closes.outcomes f
      unfold Loop.settle
      rw [hnext]
      exact hescapes

theorem Faulted.refl (l : Loop) : Faulted faults l [] (l, []) (l, []) :=
  ⟨rfl, rfl, fun _ ho => (nomatch ho), fun _ => ⟨rfl, rfl⟩, fun _ hh => nomatch hh⟩

theorem faulted_step (faults : CloseFaults) (l : Loop) {m : Move} (hm : m.mayEnd = true) :
    ∃ hs, Faulted faults l hs (l.step faults m) (l.step {} m) := by
  unfold Move.mayEnd at hm
  split at hm
  · rename_i id answer
    by_cases hidle : l.isIdle = true
    · rw [step_request hidle, step_request hidle]
      obtain ⟨hs, hturn⟩ := Session.faulted_cancel faults l.session l.records id
      exact ⟨hs, .settle l hturn (Session.cancel_ok _ _ _)⟩
    · have hsame (faults : CloseFaults) : l.step faults (.request (.cancel id) answer) =
          (l, []) := by
        simp only [step, if_neg hidle]
      rw [hsame, hsame]
      exact ⟨[], .refl l⟩
  · rename_i address r
    obtain ⟨hs, hturn⟩ := Session.faulted_reply faults l.session l.records address r
    have hok : (l.session.onReply {} l.records address r).next.outcome = .ok none :=
      Session.onReply_ok (fun _ => rfl) l.session l.records address r
    cases hl : l.listens with
    | false =>
      rw [step_reply_of_deaf hl, step_reply_of_deaf hl]
      exact ⟨[], .refl l⟩
    | true =>
      obtain ⟨stack, hstack, hstep⟩ := step_reply hl address r
      rw [hstep, hstep]
      have hfaulted := Faulted.settle { l with stack } hturn hok
      obtain rfl | ⟨hidle, rfl⟩ := hstack
      · exact ⟨hs, hfaulted⟩
      -- in a call of its own the reply is in no pump
      · refine ⟨hs, hfaulted.session, hfaulted.releases', hfaulted.well, hfaulted.spared, ?_⟩
        intro h hh f hf
        obtain ⟨hrecords, hnone, hescapes⟩ := hfaulted.cut h hh f hf
        exact ⟨hrecords, hnone, (escapes_of_idle hidle).mpr hescapes⟩
  · cases hm

/-- A fault that escapes is seen in what the call or the run comes back with. -/
theorem Escapes.not_well {r : Loop × List Output} {f : Fault} (h : l.Escapes f r) :
    ∃ o ∈ outcomes r.2, o ≠ .ok none := by
  unfold Escapes at h
  split at h
  · obtain ⟨-, h⟩ := h
    split at h
    · rename_i e
      exact ⟨.ok (some e.code), by rw [h.1]; exact List.mem_singleton_self _, nofun⟩
    · exact ⟨.error f, by rw [h]; exact List.mem_singleton_self _, nofun⟩
  · exact ⟨.error f, by rw [h]; exact List.mem_singleton_self _, nofun⟩

theorem Faulted.spared_iff {r r' : Loop × List Output} (h : Faulted faults l hs r r') :
    (r.1 = r'.1 ∧ unlogged r.2 = unlogged r'.2) ↔ ∀ h ∈ hs, faults.escaping h = none := by
  refine ⟨?_, h.spared⟩
  rintro ⟨-, houtputs⟩ h' hh'
  cases hf : faults.escaping h' with
  | none => rfl
  | some f =>
    have hsame : outcomes r.2 = outcomes r'.2 := by
      rw [outcomes, ← filterMap_unlogged (fun _ => rfl) r.2, houtputs,
        filterMap_unlogged fun _ => rfl]
      rfl
    obtain ⟨o, ho, hbad⟩ := (h.cut h' hh' f hf).2.2.not_well
    exact absurd (h.well o (hsame ▸ ho)) hbad

end Loop

namespace History
open Session

/-- A registration that fails or is lost leaves the own record as it was at the start, unless
closing its handle raises something. -/
theorem created_iff_of_lost (k : History) (faults : CloseFaults) {g : Registration}
    (hg : k.loop.session.registration = some g) (hl : k.loop.listens = true) {code : Int}
    (hcode : code ≠ ErrorCode.noError) (flags : Int) (name regtype domain : Option String) :
    let m := Move.reply .register (.register flags code name regtype domain)
    releases (k.loop.step {} m).2 = [g.handle] ∧
      (((k.loop.step faults m).1.session.ownRecord (k.loop.step faults m).1.records).state =
          .created ↔
        faults.escaping g.handle = none) := by
  intro m
  have ht (faults : CloseFaults) : Loop.Takes
      (k.loop.session.onRegisterReply faults k.loop.records code name regtype domain)
        (k.loop.step faults m) :=
    Loop.takes_reply hl .register (.register flags code name regtype domain)
  constructor
  · obtain ⟨os, hturn, hos⟩ := onRegisterReply_lost k.loop.records hg hcode
      (show CloseFaults.escaping {} g.handle = none from rfl) name regtype domain
    rw [(ht {}).releases, hturn, hos.releases]
  · rw [(ht faults).session, (ht faults).records]
    cases hf : faults.escaping g.handle with
    | none =>
      obtain ⟨os, hturn, -⟩ := onRegisterReply_lost k.loop.records hg hcode hf name regtype domain
      simp [hturn, ownRecord, k.ownApart.get_modify_own]
    | some f =>
      obtain ⟨os, hturn, -⟩ := onRegisterReply_faulty k.loop.records hg hcode hf name regtype domain
      have hstate := k.ownApart.state g hg
      have hactive := g.isActive_shows
      rw [hturn]
      simp only [ownRecord, reduceCtorEq, iff_false] at hstate ⊢
      rw [hstate]
      exact fun hcreated => by simp [hcreated, ServiceState.isActive] at hactive

/-- A cancellation or a reply goes as if closing never failed, but for log records, if and only if
closing the handle that it closes raises nothing but errors of the system. After any other fault
nobody is told and the records stay as they were, and the fault ends the call or the run that it was
raised in; requests, registration and multiplexer end the same in any case. -/
theorem release_best_effort (k : History) (faults : CloseFaults) {m : Move} (hm : m.mayEnd = true) :
    (k.loop.step faults m).1.session = (k.loop.step {} m).1.session ∧
    (∀ o ∈ outcomes (k.loop.step {} m).2, o = .ok none) ∧
    (k.loop.Spared faults m ↔ ∀ h ∈ releases (k.loop.step {} m).2, faults.escaping h = none) ∧
    (∀ h ∈ releases (k.loop.step {} m).2, ∀ f, faults.escaping h = some f →
      (k.loop.step faults m).1.records = k.loop.records ∧
      invocations (k.loop.step faults m).2 = [] ∧
      k.loop.Escapes f (k.loop.step faults m)) ∧
    ∀ g flags code name regtype domain, k.loop.session.registration = some g →
      k.loop.listens = true →
      m = .reply .register (.register flags code name regtype domain) → code ≠ ErrorCode.noError →
      releases (k.loop.step {} m).2 = [g.handle] ∧
        (((k.loop.step faults m).1.session.ownRecord (k.loop.step faults m).1.records).state =
            .created ↔
          faults.escaping g.handle = none) := by
  obtain ⟨hs, hstep⟩ := k.loop.faulted_step faults hm
  rw [hstep.releases']
  refine ⟨hstep.session, hstep.well, hstep.spared_iff, hstep.cut, ?_⟩
  rintro g flags code name regtype domain hg hl rfl hcode
  rw [← hstep.releases']
  exact k.created_iff_of_lost faults hg hl hcode flags name regtype domain

def failedClosing (f : Fault) : CloseFaults × Move :=
  ({ handle := fun _ => some f }, .reply .register (.register 0 (-65563) none none none))

theorem release_best_effort_logged :
    let (faults, m) := failedClosing (.system ⟨some 5, "close failed"⟩)
    announced.loop.Spared faults m ∧ releases (announced.loop.step faults m).2 = [1] ∧
    (invocations (announced.loop.step faults m).2).map (·.what) =
      [.failed .register (-1) (-65563) (ErrorCode.message (-65563)) true] ∧
    ((announced.loop.step faults m).1.session.ownRecord
      (announced.loop.step faults m).1.records).state =
      .created := by
  obtain ⟨-, -, hspared, -⟩ := announced.release_best_effort
    (failedClosing (.system ⟨some 5, "close failed"⟩)).1
    (show (failedClosing (.system ⟨some 5, "close failed"⟩)).2.mayEnd = true from rfl)
  exact ⟨hspared.mpr (by decide +kernel), by decide +kernel, by decide +kernel, by decide +kernel⟩

/-- A fault that is no system error keeps the client of a failed announcement from being told. -/
theorem not_release_best_effort_raised :
    ¬∀ (k : History) (faults : CloseFaults) (m : Move), m.mayEnd = true →
    k.loop.Spared faults m := by
  intro hall
  have hsame := (hall announced (failedClosing (.failed "close failed")).1
    (failedClosing (.failed "close failed")).2 rfl).2
  exact absurd (congrArg (fun os => (invocations os).length) hsame) (by decide +kernel)

end History
end ServiceDiscovery
