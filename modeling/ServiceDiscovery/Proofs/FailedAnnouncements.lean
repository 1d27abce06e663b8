import ServiceDiscovery.Proofs.History

/-!
Announcements that fail. Whatever is wrong with one, the session and the records are as before; but
an unknown transport is found out only when the operation is running, and nobody closes its handle.
-/
namespace ServiceDiscovery

def FailsToAnnounce (os : List Output) : Prop :=
  (∃ f, .error f ∈ outcomes os) ∨
    ∃ i ∈ invocations os, ∃ code message transient, i.what =
      .failed .register (-1) code message transient

def LeavesNothingOpen (os : List Output) : Prop := ∀ o ∈ openings os, o.handle ∈ releases os

namespace Session
variable (s : Session) (rs : Records)

theorem outcomes_announce (a : Advertisement) (c : Client) (answer : StartAnswer) :
    outcomes (s.announce rs a c answer).outputs = [] := by
  have hwatch {s s' : Session} {h : Handle} {d : Int} {r : Except Fault Unit} {os : List Output}
      (hw : s.watch h d = (r, s', os)) : outcomes os = [] := by
    unfold watch at hw
    split at hw <;> cases hw <;> rfl
  unfold announce
  split
  · rfl
  split
  · rfl
  split
  · rfl
  · rfl
  unfold announceStarted
  split
  · rfl
  split
  · rename_i hw
    rw [outcomes_append, hwatch hw]
    rfl
  · rename_i hw
    rw [outcomes_append, outcomes_append, hwatch hw]
    rfl

/-- An announcement with a known transport that passes its checks is taken up once the provider has
started it. Any other one changes nothing, and opens something only if its transport is unknown. -/
theorem announce_cases (hs : s.Sound) (hopen : s.closed = false) (a : Advertisement) (c : Client)
    (answer : StartAnswer) :
    (s.announce rs a c answer).next = .done (.ok none) ∧
        (∃ txt h d transport, s.packed rs a = .ok txt ∧ answer = .started h d ∧
          Transport.ofCode? a.transportCode = some transport) ∨
      (s.announce rs a c answer).session = s ∧ (s.announce rs a c answer).records = rs ∧
        releases (s.announce rs a c answer).outputs = [] ∧
        (openings (s.announce rs a c answer).outputs = [] ↔
          ¬∃ txt h d, s.packed rs a = .ok txt ∧ answer = .started h d ∧
            Transport.ofCode? a.transportCode = none) := by
  cases hpacked : s.packed rs a with
  | error why =>
    rw [announce_rejected hopen hpacked]
    exact .inr ⟨rfl, rfl, rfl, by simp [openings, Output.opening?]⟩
  | ok txt =>
    cases answer with
    | raised f =>
      simp only [announce, hopen, hpacked]
      exact .inr ⟨rfl, rfl, rfl, by simp [openings, Output.opening?]⟩
    | refused r =>
      obtain ⟨os, hturn, hos⟩ := announce_refused (c := c) hopen hpacked r
      rw [hturn]
      exact .inr ⟨rfl, rfl, hos.releases, by simp [hos.openings]⟩
    | started h d =>
      cases ht : Transport.ofCode? a.transportCode with
      | none =>
        simp only [announce, hopen, hpacked, announceStarted, ht]
        exact .inr ⟨rfl, rfl, rfl, by simp [openings, Output.opening?]⟩
      | some transport =>
        obtain ⟨os, hturn, -⟩ := announce_started hs hopen hpacked ht c h d
        rw [hturn]
        exact .inl ⟨rfl, txt, h, d, transport, rfl, rfl, rfl⟩

end Session

namespace History

/-- An announcement that raises something or is reported as failed leaves the session and the
records as they were, also after the callback. It leaves something open just if it passed its checks
and the provider has started it for a transport that there is not. This assumes that a handle which
the provider has started can be watched, as `Selector.register` does: an announcement whose handle
could not be would fail with it open too. -/
theorem failed_announce_leaves (k : History) (faults : CloseFaults) (a : Advertisement) (c : Client)
    (answer : StartAnswer) (hopen : k.loop.session.closed = false)
    (hfails : FailsToAnnounce (k.loop.step faults (.request (.announce a c) answer)).2) :
    let r := k.loop.step faults (.request (.announce a c) answer)
    r.1.session = k.loop.session ∧ r.1.records = k.loop.records ∧
    (∀ raised, (r.1.step {} (.finish raised)).1.session = k.loop.session ∧
      (r.1.step {} (.finish raised)).1.records = k.loop.records) ∧
    (LeavesNothingOpen r.2 ↔ ¬∃ txt h d, k.loop.session.packed k.loop.records a = .ok txt ∧
      answer = .started h d ∧ Transport.ofCode? a.transportCode = none) := by
  intro r
  by_cases hidle : k.loop.isIdle = true
  · let t := k.loop.session.announce k.loop.records a c answer
    have hr : r = k.loop.settle t := Loop.step_request hidle _ _
    have ht : Loop.Takes t r := hr ▸ Loop.takes_settle k.loop t
    obtain ⟨hnext, -⟩ | ⟨hsession, hrecords, hreleases, hopenings⟩ :=
      Session.announce_cases k.loop.session k.loop.records k.sound hopen a c answer
    · -- What is taken up comes back well and tells nobody yet.
      have hwell : outcomes r.2 = [.ok none] := by
        have hdone : t = ⟨t.session, t.records, t.outputs, .done (.ok none)⟩ := by rw [← hnext]
        rw [hr, hdone, Loop.settle_done hidle, outcomes_append, Session.outcomes_announce]
        rfl
      have hsilent : invocations r.2 = [] := by
        rw [ht.invocations_eq
          (Session.transition_announce faults k.loop.records k.sound a c answer), hnext]
        rfl
      obtain ⟨f, hf⟩ | ⟨i, hi, -⟩ := hfails
      · rw [show outcomes _ = _ from hwell] at hf
        cases List.mem_singleton.mp hf
      · rw [show invocations _ = _ from hsilent] at hi
        cases hi
    · have hs : r.1.session = k.loop.session := ht.session.trans hsession
      have hrs : r.1.records = k.loop.records := ht.records.trans hrecords
      refine ⟨hs, hrs, fun raised => ?_, ?_⟩
      · have hkeeps : Loop.Keeps r.1 (r.1.step {} (.finish raised)) := Loop.keeps_finish r.1 raised
        exact ⟨hkeeps.session.trans hs, hkeeps.records.trans hrs⟩
      · rw [← hopenings, ← ht.openings, LeavesNothingOpen, ht.releases, hreleases]
        simp [List.eq_nil_iff_forall_not_mem]
  · have hr : r = (k.loop, []) := by simp only [r, Loop.step, if_neg hidle]
    obtain ⟨f, hf⟩ | ⟨i, hi, -⟩ := hfails
    · rw [show Loop.step _ _ _ = _ from hr] at hf
      cases hf
    · rw [show Loop.step _ _ _ = _ from hr] at hi
      cases hi

/-- An announcement that the provider refuses. -/
theorem failed_announce_leaves_refused :
    let r := (start "A" {} false {}).loop.step {}
      (.request (.announce { port := 9, namePrefix := "/a", transportCode := 3 } { ticket := 1 })
        (.refused ⟨-65563, ""⟩))
    (invocations r.2).map (·.what) =
      [.failed .register (-1) (-65563) (ErrorCode.message (-65563)) true] ∧
    (r.1.session.ownRecord r.1.records).state = .created ∧ r.1.session.mux.watched = [] ∧
    LeavesNothingOpen r.2 := by
  intro r
  have hinv : (invocations r.2).map (·.what) =
      [.failed .register (-1) (-65563) (ErrorCode.message (-65563)) true] := by decide +kernel
  have hfails : FailsToAnnounce r.2 := by
    have hmem : Notification.failed .register (-1) (-65563) (ErrorCode.message (-65563)) true ∈
        (invocations r.2).map (·.what) := hinv ▸ List.mem_singleton_self _
    obtain ⟨i, hi, hwhat⟩ := List.mem_map.mp hmem
    exact .inr ⟨i, hi, _, _, _, hwhat⟩
  obtain ⟨hs, hrs, -, hopen⟩ :=
    (start "A" {} false {}).failed_announce_leaves {} _ _ _ (by decide +kernel) hfails
  refine ⟨hinv, ?_, ?_, hopen.mpr ?_⟩
  · rw [hs, hrs]
    decide +kernel
  · rw [hs]
    decide +kernel
  · rintro ⟨_, _, _, -, ⟨⟩, -⟩

/-- An announcement for the transport with the code 3, which there is not. -/
theorem not_failed_announce_leaves_orphaned :
    ¬∀ (k : History) (faults : CloseFaults) (a : Advertisement) (c : Client) (answer : StartAnswer),
      k.loop.session.closed = false →
      FailsToAnnounce (k.loop.step faults (.request (.announce a c) answer)).2 →
      LeavesNothingOpen (k.loop.step faults (.request (.announce a c) answer)).2 := by
  intro hall
  let m : Move :=
    .request (.announce { port := 9, namePrefix := "/a", transportCode := 3 } { ticket := 1 })
      (.started 1 10)
  have hfails : FailsToAnnounce ((start "A" {} false {}).loop.step {} m).2 :=
    .inl ⟨.notATransport 3, by decide +kernel⟩
  have hclosed := hall (start "A" {} false {}) {} _ _ _ (by decide +kernel) hfails
  have hopen : ((openings ((start "A" {} false {}).loop.step {} m).2).map (·.handle)) = [1] := by
    decide +kernel
  have hnone : releases ((start "A" {} false {}).loop.step {} m).2 = [] := by decide +kernel
  obtain ⟨o, ho, -⟩ := List.mem_map.mp (hopen ▸ List.mem_singleton_self 1)
  exact absurd (hclosed o ho) (hnone ▸ List.not_mem_nil)

end History
end ServiceDiscovery
