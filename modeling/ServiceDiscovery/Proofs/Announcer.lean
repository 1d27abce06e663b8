import ServiceDiscovery.Proofs.ClosingFaults
import ServiceDiscovery.Proofs.FailedAnnouncements
import ServiceDiscovery.Proofs.Telling

/-!
A session that only announces, for one client. The client waits to be told what comes of the
announcement: that it is registered, or that it failed. It is told one of them, and only once.
-/
namespace ServiceDiscovery

inductive Verdict : Notification → Prop
  | registered : Verdict .registered
  | failed (code : Int) (message : String) (transient : Bool) :
      Verdict (.failed .register (-1) code message transient)

theorem Transport.ofCode?_code (t : Transport) : ofCode? t.code = some t := by cases t <;> rfl

namespace Session

structure Solo (s : Session) (rs : Records) (c : Client) : Prop where
  sound : s.Sound
  apart : s.OwnApart rs
  isOpen : s.closed = false
  browses : s.registry.browses.values = []
  resolves : s.registry.resolves.values = []
  client : ∀ g, s.registration = some g → g.client = c

variable {faults : CloseFaults} {s : Session} {rs : Records} {c : Client} {t : Turn}
  {address : ReplyTo} {r : Reply}

namespace Solo

theorem browse?_eq_none (hs : s.Solo rs c) : ∀ id, s.registry.browses.get? id = none :=
  RequestTable.get?_eq_none_of_values hs.browses

theorem resolve?_eq_none (hs : s.Solo rs c) : ∀ id, s.registry.resolves.get? id = none :=
  RequestTable.get?_eq_none_of_values hs.resolves

theorem waiting_eq (hs : s.Solo rs c) :
    s.waiting = (s.registration.bind Registration.waiting?).toList := by
  simp [waiting, hs.resolves]

theorem waiting_length (hs : s.Solo rs c) : s.waiting.length ≤ 1 := by
  rw [hs.waiting_eq]
  cases s.registration.bind Registration.waiting? <;> simp

theorem reply (hs : s.Solo rs c) (he : Transition faults s rs (.reply address r) t) :
    t.session.Solo t.records c := by
  have hsound := he.sound hs.sound
  have hapart := he.ownApart hs.sound hs.apart
  cases he with
  | idle => exact ⟨hsound, hapart, hs.isOpen, hs.browses, hs.resolves, hs.client⟩
  | confirmed hg =>
    have hclient := hs.client _ hg
    refine ⟨hsound, hapart, hs.isOpen, hs.browses, hs.resolves, ?_⟩
    rintro g ⟨⟩
    exact hclient
  | lost | lostFaulty =>
    exact ⟨hsound, hapart, hs.isOpen, hs.browses, hs.resolves, fun g hg => nomatch hg⟩
  | browseFailed hq | appeared hq | vanished hq => cases (hs.browse?_eq_none _).symm.trans hq
  | answered hq | answeredFaulty hq => cases (hs.resolve?_eq_none _).symm.trans hq

/-- A reply tells the client of a session that only announces nothing, or what came of the
announcement; it waits no longer then. -/
theorem reply_next (hs : s.Solo rs c) (hresult : c.onResult = true) (herror : c.onError = true)
    (hf : ∀ h, faults.escaping h = none) (he : Transition faults s rs (.reply address r) t)
    (hok : t.next.outcome = .ok none) :
    t.next = .done (.ok none) ∧ (s.waiting = [] → t.session.waiting = []) ∨
      ∃ what, Verdict what ∧ t.next = .notify ⟨c, what⟩ (.ok none) ∧ s.waiting ≠ [] ∧
        t.session.waiting = [] := by
  have htelling := he.telling hs.sound hs.apart
  -- Who is told is the one that waited, and nobody else can have waited.
  have silent (hnext : t.next = .done (.ok none)) :
      t.next = .done (.ok none) ∧ (s.waiting = [] → t.session.waiting = []) := by
    refine ⟨hnext, fun hw => ?_⟩
    rw [hnext] at htelling
    cases htelling with
    | silent hsub => exact List.subperm_nil.mp (hw ▸ hsub)
    | asked hm => cases hm
  have spoken {what : Notification} (hnext : t.next = .notify ⟨c, what⟩ (.ok none)) :
      s.waiting ≠ [] ∧ t.session.waiting = [] := by
    rw [hnext] at htelling
    cases htelling with
    | refused hm => cases hm
    | settled hperm =>
      have hlength := hperm.length_eq
      have hone := hs.waiting_length
      rw [List.length_cons] at hlength
      exact ⟨List.ne_nil_of_length_pos (by omega), List.length_eq_zero_iff.mp (by omega)⟩
    | browse hq =>
      rw [hs.browses] at hq
      cases hq
  cases he with
  | @idle _ os hm hos o => exact .inl (silent (congrArg Next.done hok))
  | @confirmed g flags name regtype domain os hg =>
    have hnext : Next.tell g.client .registered (.ok none) =
        .notify ⟨c, .registered⟩ (.ok none) := by
      rw [hs.client g hg]
      exact if_pos hresult
    exact .inr ⟨_, .registered, hnext, spoken hnext⟩
  | @lost g flags code name regtype domain os hg =>
    by_cases hsettled : g.settled = true
    · exact .inl (silent (if_pos hsettled))
    · let what := Notification.failed .register (-1) code (ErrorCode.message code) true
      have hnext : (if g.settled then .done (.ok none) else Next.tell g.client what (.ok none)) =
          .notify ⟨c, what⟩ (.ok none) := by
        rw [if_neg hsettled, hs.client g hg]
        exact if_pos herror
      exact .inr ⟨what, .failed _ _ _, hnext, spoken hnext⟩
  | @lostFaulty g _ _ _ _ _ _ _ hg hfault => cases (hf g.handle).symm.trans hfault
  | browseFailed hq | appeared hq | vanished hq => cases (hs.browse?_eq_none _).symm.trans hq
  | answered hq | answeredFaulty hq => cases (hs.resolve?_eq_none _).symm.trans hq

/-- An announcement from a session that only announces is started, or its client is told at once
that it failed; nobody waits then. -/
theorem announce (hs : s.Solo rs c) (hnone : s.registration = none) (herror : c.onError = true)
    {a : Advertisement} {transport : Transport}
    (ht : Transport.ofCode? a.transportCode = some transport) {answer : StartAnswer}
    (hanswer : ∀ f, answer ≠ .raised f) :
    (s.announce rs a c answer).session.Solo (s.announce rs a c answer).records c ∧
      ((s.announce rs a c answer).next = .done (.ok none) ∨
        ∃ code message transient, (s.announce rs a c answer).next =
            .notify ⟨c, .failed .register (-1) code message transient⟩ (.ok none) ∧
          (s.announce rs a c answer).session.waiting = []) := by
  have hwaiting : s.waiting = [] := by simp [hs.waiting_eq, hnone]
  have told (code : Int) (message : String) (transient : Bool) :
      Next.tell c (.failed .register (-1) code message transient) (.ok none) =
        .notify ⟨c, .failed .register (-1) code message transient⟩ (.ok none) := if_pos herror
  cases hpacked : s.packed rs a with
  | error why =>
    rw [announce_rejected hs.isOpen hpacked]
    exact ⟨hs, .inr ⟨_, _, _, told _ _ _, hwaiting⟩⟩
  | ok txt =>
    cases answer with
    | raised f => exact absurd rfl (hanswer f)
    | refused refusal =>
      obtain ⟨os, hturn, -⟩ := announce_refused (c := c) hs.isOpen hpacked refusal
      rw [hturn]
      exact ⟨hs, .inr ⟨_, _, _, told _ _ _, hwaiting⟩⟩
    | started h d =>
      have he := transition_announce {} rs hs.sound a c (.started h d)
      have hsound := he.sound hs.sound
      have hapart := he.ownApart hs.sound hs.apart
      obtain ⟨os, hturn, -⟩ := announce_started hs.sound hs.isOpen hpacked ht c h d
      rw [hturn] at hsound hapart ⊢
      refine ⟨⟨hsound, hapart, hs.isOpen, hs.browses, hs.resolves, ?_⟩, .inl rfl⟩
      rintro g ⟨⟩
      rfl

end Solo

theorem outcomes_onReply (faults : CloseFaults) (s : Session) (rs : Records) (address : ReplyTo)
    (r : Reply) : outcomes (s.onReply faults rs address r).outputs = [] := by
  obtain ⟨hs, hturn⟩ := faulted_reply faults s rs address r
  exact hturn.closes.outcomes

end Session
end ServiceDiscovery
