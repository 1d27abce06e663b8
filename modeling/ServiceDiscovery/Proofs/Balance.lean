import ServiceDiscovery.Proofs.ClosingFaults

/-!
Handles counted. A handle that the provider returned is held by the session or was closed, as often
as it was returned, and a closed session holds none. The provider is closed by nobody but a session
that made it.
-/
namespace ServiceDiscovery

def Output.isPlain : Output → Bool
  | .notice _ | .start .. | .release _ => true
  | _ => false

def Plain (os : List Output) : Prop := ∀ o ∈ os, o.isPlain = true

namespace Plain
variable {os os' : List Output}

theorem append (h : Plain os) (h' : Plain os') : Plain (os ++ os') :=
  List.forall_mem_append.mpr ⟨h, h'⟩

theorem nil : Plain [] := List.forall_mem_nil _

theorem notice (n : Notice) : Plain [.notice n] := by simp [Plain, Output.isPlain]

theorem notices (ns : List Notice) : Plain (ns.map .notice) := by simp [Plain, Output.isPlain]

theorem start (r : StartRequest) (a : StartAnswer) : Plain [.start r a] := by
  simp [Plain, Output.isPlain]

theorem filterMap_eq_nil {α : Type} {f : Output → Option α}
    (hf : ∀ o, o.isPlain = true → f o = none) (h : Plain os) : os.filterMap f = [] :=
  List.filterMap_eq_nil_iff.mpr fun o ho => hf o (h o ho)

theorem outcomes (h : Plain os) : outcomes os = [] := by
  refine h.filterMap_eq_nil fun o ho => ?_
  cases o <;> first | rfl | cases ho

theorem invocations (h : Plain os) : invocations os = [] := by
  refine h.filterMap_eq_nil fun o ho => ?_
  cases o <;> first | rfl | cases ho

theorem closeProvider_notMem (h : Plain os) : Output.closeProvider ∉ os :=
  fun hmem => nomatch h _ hmem

end Plain

theorem Closes.plain {os : List Output} {hs : List Handle} (h : Closes os hs) : Plain os := by
  intro o ho
  cases hlogs : o.logs with
  | true => cases o <;> first | rfl | cases hlogs
  | false =>
    have hmem : o ∈ unlogged os := List.mem_filter.mpr ⟨ho, by simp [hlogs]⟩
    rw [h] at hmem
    obtain ⟨handle, -, rfl⟩ := List.mem_map.mp hmem
    rfl

namespace Session
variable (faults : CloseFaults) (s : Session) (rs : Records)

theorem plain_watch (h : Handle) (d : Int) : Plain (s.watch h d).2.2 := by
  unfold watch
  split <;> simp [Plain, Output.isPlain]

theorem plain_of_watch {s s' : Session} {h : Handle} {d : Int} {r : Except Fault Unit}
    {os : List Output} (hw : s.watch h d = (r, s', os)) : Plain os := by
  have hplain := s.plain_watch h d
  rwa [hw] at hplain

theorem plain_announce (a : Advertisement) (c : Client) (answer : StartAnswer) :
    Plain (s.announce rs a c answer).outputs := by
  unfold announce announceStarted
  split
  · exact .nil
  split
  · exact .notice _
  split
  · exact .start _ _
  · exact (Plain.start _ _).append (.notice _)
  split
  · exact .start _ _
  split
  · rename_i hw
    exact (Plain.start _ _).append (plain_of_watch hw)
  · rename_i hw
    exact ((Plain.start _ _).append (plain_of_watch hw)).append (.notice _)

theorem plain_browse (k : Constraints) (c : Client) (answer : StartAnswer) :
    Plain (s.browse rs k c answer).outputs := by
  unfold browse browseStarted
  split
  · exact .nil
  dsimp only
  split
  · exact .start _ _
  · exact (Plain.start _ _).append (.notice _)
  split
  · exact .start _ _
  split
  · rename_i hw
    exact (Plain.start _ _).append (plain_of_watch hw)
  · rename_i hw
    exact ((Plain.start _ _).append (plain_of_watch hw)).append (.notice _)

theorem plain_resolve (target : RecordId) (c : Client) (answer : StartAnswer) :
    Plain (s.resolve rs target c answer).outputs := by
  unfold resolve resolveStarted
  split
  · exact .nil
  split
  · exact .notice _
  dsimp only
  split
  · exact .start _ _
  · exact (Plain.start _ _).append (.notice _)
  split
  · exact .start _ _
  split
  · rename_i hw
    exact (Plain.start _ _).append (plain_of_watch hw)
  · rename_i hw
    exact (Plain.start _ _).append (plain_of_watch hw)

theorem plain_cancel (id : Int) : Plain (s.cancel faults rs id).outputs := by
  obtain ⟨hs, hturn⟩ := faulted_cancel faults s rs id
  exact hturn.closes.plain

theorem plain_onReply (address : ReplyTo) (r : Reply) :
    Plain (s.onReply faults rs address r).outputs := by
  obtain ⟨hs, hturn⟩ := faulted_reply faults s rs address r
  exact hturn.closes.plain

theorem plain_close (hgiven : s.ownsProvider = false) : Plain (s.close faults rs).outputs := by
  obtain ⟨os, mux, hr, hos⟩ := releaseAllQuietly_eq faults { s with closed := true, registry := {} }
    (s.registry.resolves.values.map (·.handle) ++ s.registry.browses.values.map (·.handle))
  obtain ⟨os', mux', hw, hos'⟩ :=
    withdraw_eq faults { s with closed := true, registry := {}, mux } rs
  have hselector : Plain (if faults.selector.isSome then [.notice .multiplexerCloseFailed]
      else []) := by
    split
    · exact .notice _
    · exact .nil
  have hprovider : Plain (if s.ownsProvider then
      .closeProvider :: (if faults.provider.isSome then [.notice .providerCloseFailed] else [])
      else []) := by
    rw [if_neg (by simp [hgiven])]
    exact .nil
  by_cases hclosed : s.closed = true
  · rw [close_of_closed faults rs hclosed]
    exact .nil
  · rw [close, if_neg hclosed]
    simp only [hr, hw]
    exact ((hos.plain.append hos'.plain).append hselector).append hprovider

end Session

namespace Transition
variable {faults : CloseFaults} {s : Session} {rs : Records} {m : Move} {t : Turn}

theorem ownsProvider_eq (he : Transition faults s rs m t) :
    t.session.ownsProvider = s.ownsProvider := by
  cases he <;> rfl

theorem closed_eq (he : Transition faults s rs m t) (hm : ∀ answer, m ≠ .request .close answer) :
    t.session.closed = s.closed := by
  cases he with
  | closed => exact absurd rfl (hm _)
  | _ => rfl

end Transition

def Move.NamesTransport (m : Move) : Prop :=
  ∀ a c answer, m = .request (.announce a c) answer →
    (Transport.ofCode? a.transportCode).isSome = true

/-- The handles returned so far are those that are held and those that were closed. -/
structure Balanced (os : List Output) (s : Session) : Prop where
  returned : ((openings os).map (·.handle)).Perm (s.held ++ releases os)
  shut : s.closed = true → s.held = []

namespace Balanced
variable {os os' : List Output} {s s' : Session} {m : Move}

theorem trade (h : Balanced os s) (ht : Trade m s s' (openings os') (releases os'))
    (hm : m.NamesTransport) : Balanced (os ++ os') s' := by
  have hreturned := h.returned
  constructor
  · rw [openings_append, releases_append, List.map_append]
    generalize openings os' = opened, releases os' = closed at ht
    cases ht with
    | none hheld => simpa [hheld] using hreturned
    | stray hannounce _ hunknown =>
      have hknown := hm _ _ _ hannounce
      rw [hunknown] at hknown
      cases hknown
    | @take o _ hheld =>
      refine (List.perm_append_comm.trans (hreturned.cons o.handle)).trans ?_
      simpa using hheld.symm.append_right (releases os)
    | @drop handle hheld =>
      refine (by simpa using hreturned : List.Perm _ _).trans ((hheld.append_right _).trans ?_)
      simpa using (List.perm_append_singleton handle (s'.held ++ releases os)).symm
    | clear hheld hnone =>
      rw [hnone]
      exact (by simpa using hreturned : List.Perm _ _).trans
        ((hheld.append_right _).trans List.perm_append_comm)
  · have hshut := h.shut
    generalize openings os' = opened, releases os' = closed at ht
    cases ht with
    | none hheld _ hclosed => rwa [hheld, hclosed]
    | stray _ _ _ hs => rwa [hs]
    | take hopen _ _ hclosed => exact fun hnow => nomatch hnow.symm.trans (hclosed.trans hopen)
    | drop hheld _ hclosed =>
      intro hnow
      rw [hshut (hclosed ▸ hnow)] at hheld
      cases hheld.nil_eq
    | clear _ hnone => exact fun _ => hnone

end Balanced

namespace Loop
variable {faults : CloseFaults} {l : Loop} {m : Move} {os : List Output}

theorem closeProvider_notMem_comeBack (l : Loop) (o : Outcome) :
    Output.closeProvider ∉ (l.comeBack o).2 := by
  intro hmem
  obtain ⟨o', ho'⟩ | ⟨d, r, hr⟩ := mem_comeBack hmem
  · cases ho'
  · cases hr

theorem closeProvider_notMem_settle (l : Loop) {t : Turn} (ht : Plain t.outputs) :
    Output.closeProvider ∉ (l.settle t).2 := by
  unfold settle
  split
  · simp [ht.closeProvider_notMem]
  · have hback :=
      closeProvider_notMem_comeBack { l with session := t.session, records := t.records }
    simp [ht.closeProvider_notMem, hback]

theorem closeProvider_notMem_advance (l : Loop) (timeoutMs : Int) (rest : List (Int × Handle))
    (below : List Frame) : Output.closeProvider ∉ (l.advance timeoutMs rest below).2 := by
  unfold advance
  split
  · simp
  · split <;> simp

theorem plain_turn (hgiven : l.session.ownsProvider = false) (faults : CloseFaults) {r : Request}
    (hr : ∀ timeoutMs, r ≠ .run timeoutMs) (answer : StartAnswer) :
    ∃ t : Turn, Plain t.outputs ∧ t.TellsWell ∧ l.request faults r answer = l.settle t := by
  cases r with
  | announce a c =>
    exact ⟨_, Session.plain_announce _ _ a c answer, Session.tellsWell_announce _ _ a c answer, rfl⟩
  | browse k c =>
    exact ⟨_, Session.plain_browse _ _ k c answer, Session.tellsWell_browse _ _ k c answer, rfl⟩
  | resolve target c =>
    exact ⟨_, Session.plain_resolve _ _ target c answer,
      Session.tellsWell_resolve _ _ target c answer, rfl⟩
  | cancel id => exact ⟨_, Session.plain_cancel _ _ _ id, Session.tellsWell_cancel _ _ _ id, rfl⟩
  | close => exact ⟨_, Session.plain_close _ _ _ hgiven, Session.tellsWell_close _ _ _, rfl⟩
  | run timeoutMs => exact absurd rfl (hr timeoutMs)

theorem closeProvider_notMem_step (hgiven : l.session.ownsProvider = false) (faults : CloseFaults)
    (m : Move) : Output.closeProvider ∉ (l.step faults m).2 := by
  cases m with
  | request r answer =>
    by_cases hl : l.isIdle = true
    · rw [step_request hl]
      by_cases hr : ∃ timeoutMs, r = .run timeoutMs
      · obtain ⟨timeoutMs, rfl⟩ := hr
        rw [request]
        split <;> simp
      · obtain ⟨t, ht, -, hsettle⟩ :=
          plain_turn hgiven faults (fun timeoutMs hrun => hr ⟨timeoutMs, hrun⟩) answer
        rw [hsettle]
        exact closeProvider_notMem_settle l ht
    · simp [step, hl]
  | reply address r =>
    by_cases hl : l.listens = true
    · obtain ⟨stack, -, hstep⟩ := step_reply hl address r
      rw [hstep]
      exact closeProvider_notMem_settle _
        (Session.plain_onReply faults l.session l.records address r)
    · rw [step_reply_of_deaf (by simpa using hl)]
      exact List.not_mem_nil
  | finish raised =>
    obtain ⟨s, rs, _ | ⟨frame, below⟩⟩ := l
    · exact List.not_mem_nil
    cases frame with
    | notifying i o =>
      have hback := closeProvider_notMem_comeBack ⟨s, rs, below⟩ o
      cases raised <;> simp [step, hback]
    | _ => exact List.not_mem_nil
  | waited reported f =>
    obtain ⟨s, rs, _ | ⟨frame, below⟩⟩ := l
    · exact List.not_mem_nil
    cases frame with
    | waiting timeoutMs =>
      simp only [step, waited, leave]
      split
      · exact closeProvider_notMem_advance _ _ _ _
      · simp
      · simp
    | _ => exact List.not_mem_nil
  | pumped e =>
    obtain ⟨s, rs, _ | ⟨frame, _ | ⟨under, below⟩⟩⟩ := l
    · exact List.not_mem_nil
    · cases frame <;> exact List.not_mem_nil
    · cases frame with
      | pumping d h =>
        cases under with
        | passing timeoutMs rest =>
          cases e with
          | delivered => exact closeProvider_notMem_advance _ _ _ _
          | refused | raised => simp [step, pumped, fail_eq]
        | _ => exact List.not_mem_nil
      | _ => exact List.not_mem_nil

theorem closed_step (hs : l.session.Sound) (hm : ∀ answer, m ≠ .request .close answer)
    (faults : CloseFaults) : (l.step faults m).1.session.closed = l.session.closed := by
  obtain hk | ⟨t, he, ht⟩ := step_cases hs faults m
  · rw [hk.session]
  · rw [ht.session, he.closed_eq hm]

theorem closed_step_close (hl : l.isIdle = true) (faults : CloseFaults) (answer : StartAnswer) :
    (l.step faults (.request .close answer)).1.session.closed = true := by
  rw [step_request hl, request, (takes_settle l _).session]
  by_cases hclosed : l.session.closed = true
  · rw [Session.close_of_closed faults l.records hclosed]
    exact hclosed
  · obtain ⟨os, mux, hturn, -⟩ :=
      Session.close_of_open faults l.records (Bool.eq_false_iff.mpr hclosed)
    rw [hturn]

structure Kept (os : List Output) (l : Loop) : Prop where
  sound : l.session.Sound
  apart : l.session.OwnApart l.records
  given : l.session.ownsProvider = false
  balanced : Balanced os l.session
  provider : Output.closeProvider ∉ os

/-- What one step preserves. -/
theorem Kept.step (h : l.Kept os) (hm : m.NamesTransport) (faults : CloseFaults) :
    (l.step faults m).1.Kept (os ++ (l.step faults m).2) := by
  have hprovider : Output.closeProvider ∉ os ++ (l.step faults m).2 := by
    rw [List.mem_append, not_or]
    exact ⟨h.provider, closeProvider_notMem_step h.given faults m⟩
  obtain hk | ⟨t, he, ht⟩ := step_cases h.sound faults m
  · have htrade : Trade m l.session (l.step faults m).1.session (openings (l.step faults m).2)
        (releases (l.step faults m).2) := by
      rw [hk.openings, hk.releases]
      exact .none (by rw [hk.session]) (by rw [hk.session]) (by rw [hk.session])
    have hbalanced := h.balanced.trade htrade hm
    constructor
    · exact hk.session ▸ h.sound
    · exact hk.session ▸ hk.records ▸ h.apart
    · exact hk.session ▸ h.given
    · exact hbalanced
    · exact hprovider
  · have htrade := he.trade h.sound h.apart
    rw [← ht.openings, ← ht.releases] at htrade
    constructor
    · exact ht.session ▸ he.sound h.sound
    · exact ht.session ▸ ht.records ▸ he.ownApart h.sound h.apart
    · exact ht.session ▸ he.ownsProvider_eq ▸ h.given
    · exact ht.session ▸ h.balanced.trade htrade hm
    · exact hprovider

end Loop
end ServiceDiscovery
