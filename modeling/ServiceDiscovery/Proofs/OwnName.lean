import ServiceDiscovery.Proofs.Announcing
import ServiceDiscovery.Proofs.Attribution
import ServiceDiscovery.Proofs.Presence

/-!
What a session hears of its own advertisement. It never discovers its own instance id; a provider
that registers it under another name makes it an instance like any other.
-/
namespace ServiceDiscovery

theorem Loop.notice_mem_settle {l : Loop} {t : Turn} {n : Notice}
    (hn : ∀ uuid d r, n ≠ .pumpFailed uuid d r) :
    .notice n ∈ (l.settle t).2 ↔ .notice n ∈ t.outputs := by
  unfold settle
  cases t.next with
  | notify i o => simp
  | done o =>
    have hback (l : Loop) : .notice n ∉ (l.comeBack o).2 := by
      intro hmem
      obtain ⟨o', ho'⟩ | ⟨d, r, hr⟩ := mem_comeBack hmem
      · cases ho'
      · exact hn _ d r (Output.notice.inj hr)
    simp [hback]

theorem Session.registeredAs_mem_outputs {faults : CloseFaults} {s : Session} {rs : Records}
    {g : Registration} (hg : s.registration = some g)
    (hstate : (s.ownRecord rs).state ≠ .registered) (n : String) (regtype domain : Option String) :
    .notice (.registeredAs s.uuid n) ∈
        (s.onRegisterReply faults rs ErrorCode.noError (some n) regtype domain).outputs ↔
      n ≠ "" ∧ n ≠ s.uuid := by
  simp only [onRegisterReply, hg, if_true, confirm, hstate, if_false]
  split <;> rename_i hn
  · simp [← not_or, hn]
  · simp [← not_or, hn]

namespace History
variable {k : History}

theorem added_foreign {past rest : List Deed} {e : Deed} {i : Invocation} {id : Int} {r : RecordId}
    (hk : k.deeds = past ++ e :: rest) (hi : i ∈ invocations e.outputs)
    (hwhat : i.what = .added id r) : e.after.records.name r ≠ k.loop.session.uuid := by
  obtain ⟨k', rfl, hloop, hfollows⟩ := exists_before hk
  obtain ⟨k'', hk'', hafter⟩ := exists_after hloop.symm hfollows
  rw [← (uuid_eq hk).2, ← hafter]
  refine k''.presence.foreign i.client.ticket (.added r) ?_
  rw [hk'', announcements_append]
  refine List.mem_append_right _ (List.mem_filterMap.mpr ⟨i, ?_, by rw [hwhat]; rfl⟩)
  simpa [told] using hi

theorem added_by_report {d : Deed} {q : BrowseRequest} {flags interfaceIndex : Int}
    {n regtype : String} {domain : Option String} {transport : Transport}
    (hbefore : d.before = k.loop) (hd : d.Follows k.deeds)
    (hq : q ∈ k.loop.session.registry.browses.values) (hon : q.client.onResult = true)
    (hnew : q.discovered.lookup n = none) (hforeign : n ≠ k.loop.session.uuid)
    (hflags : Reply.announces flags = true) (ht : RegType.transport? regtype = some transport)
    (he : d.event = .report q.handle (.browse flags interfaceIndex ErrorCode.noError n
      (some regtype) domain)) :
    ∃ r, invocations d.outputs = [⟨q.client, .added q.id r⟩] ∧ d.after.records.name r = n := by
  obtain ⟨_, _, _, _, _, _, hr, hmove, htakes⟩ := takes_browse_report hbefore hd hq he
  obtain ⟨rfl, rfl, rfl, rfl, rfl, rfl⟩ := Reply.browse.inj hr
  have hget := k.sound.browses.mem_values_iff.mp hq
  have hturn : ∃ s record os, record.uuid = n ∧
      k.loop.session.onBrowseReply k.loop.records q.id flags
      interfaceIndex ErrorCode.noError n (some regtype) domain = ⟨s, k.loop.records.add record, os,
        .tell q.client (.added q.id k.loop.records.nextId) (.ok none)⟩ ∧ Accounts os [] [] := by
    simp only [Session.onBrowseReply, hget, ne_eq, not_true_eq_false, if_false, hflags, if_true,
      Session.appear, hforeign, hnew, Option.isSome_none, Bool.false_eq_true, Option.bind_some, ht,
      Option.map_some]
    exact ⟨_, _, _, rfl, rfl, .notice _⟩
  obtain ⟨s, record, os, rfl, hturn, hos⟩ := hturn
  rw [hturn] at htakes
  refine ⟨k.loop.records.nextId, (htakes.invocations_tell hos rfl).trans (if_pos hon), ?_⟩
  have hrecords : d.after.records = k.loop.records.add record := htakes.records
  rw [hrecords, Records.name, Records.get, Records.get?_add_self]
  rfl

/-- When a registration is confirmed, a name that is not the own instance id is warned of. From then
on, as long as the registration lasts, nobody is told of an instance with the own id; under another
name the own advertisement is announced like that of anybody else. -/
theorem own_name_unseen (k : History) {past rest : List Deed} {d : Deed} {g : Registration}
    {flags : Int} {n : String} {regtype domain : Option String} (hk : k.deeds = past ++ d :: rest)
    (hd : d.event = .report g.handle (.register flags ErrorCode.noError (some n) regtype domain))
    (hg : d.before.session.registration = some g) (hunsettled : g.settled = false) :
    (.notice (.registeredAs k.loop.session.uuid n) ∈ d.outputs ↔ n ≠ "" ∧ n ≠ k.loop.session.uuid) ∧
    ∀ mid e later, rest = mid ++ e :: later →
      e.before.session.registration.map Registration.handle = some g.handle →
      (n = k.loop.session.uuid → ∀ i ∈ invocations e.outputs, ∀ id r, i.what = .added id r →
        e.after.records.name r ≠ n) ∧
      (n ≠ k.loop.session.uuid → ∀ q ∈ e.before.session.registry.browses.values,
        q.client.onResult = true → q.discovered.lookup n = none →
        ∀ flags interfaceIndex regtype domain, Reply.announces flags = true →
        (RegType.transport? regtype).isSome →
        e.event = .report q.handle
          (.browse flags interfaceIndex ErrorCode.noError n (some regtype) domain) →
        ∃ r, invocations e.outputs = [⟨q.client, .added q.id r⟩] ∧ e.after.records.name r = n) := by
  constructor
  · obtain ⟨k', rfl, hloop, hfollows⟩ := exists_before hk
    have huuid := (uuid_eq hk).1
    rw [← hloop] at hg huuid
    obtain ⟨_, _, _, _, _, hr, hmove⟩ := move_of_report hfollows hg hd
    obtain ⟨rfl, rfl, rfl, rfl, rfl⟩ := Reply.register.inj hr
    obtain ⟨-, -, -, hlistens, -, -⟩ := hfollows.of_report hd
    obtain ⟨stack, -, hstep⟩ := Loop.step_reply hlistens .register
      (.register flags ErrorCode.noError (some n) regtype domain)
    have hstate : (k'.loop.session.ownRecord k'.loop.records).state ≠ .registered := by
      rw [Ne, ← k'.ownApart.settled_iff hg, hunsettled]
      exact Bool.false_ne_true
    rw [Deed.outputs, hmove, hstep, Loop.notice_mem_settle (by simp), ← hloop,
      ← huuid]
    exact Session.registeredAs_mem_outputs hg hstate n regtype domain
  · rintro mid e later rfl -
    have hk : k.deeds = (past ++ d :: mid) ++ e :: later := by simp [hk]
    constructor
    · rintro rfl i hi id r hwhat
      exact added_foreign hk hi hwhat
    · intro hforeign q hq hon hnew flags interfaceIndex regtype domain hflags ht he
      obtain ⟨k', hpast, hloop, hfollows⟩ := exists_before hk
      obtain ⟨transport, ht⟩ := Option.isSome_iff_exists.mp ht
      rw [← (uuid_eq hk).1] at hforeign
      rw [← hpast] at hfollows
      rw [← hloop] at hq hforeign
      exact added_by_report hloop.symm hfollows hq hon hnew hforeign hflags ht he

def advertising : History :=
  (start "B" {} false {}).add {}
    (.request (.announce { port := 9, namePrefix := "/a" } { ticket := 1 }) (.started 1 10))

def confirming (h : Handle) : Occurrence :=
  .report h (.register 2 0 (some "B (2)") (some "_ndn._udp.") (some "local."))

def hearing (h : Handle) : Occurrence :=
  .report h (.browse 2 0 0 "B (2)" (some "_ndn._udp.") (some "local."))

def renamed : History :=
  ((advertising.add {} (confirming 1)).add {} (.finish false)).add {}
    (.request (.browse {} { ticket := 2 }) (.started 2 11))

/-- The deeds in which the session is registered under another name and hears of it. -/
theorem exists_renamed_heard : ∃ past d mid e g q,
    (renamed.add {} (hearing 2)).deeds = past ++ d :: (mid ++ e :: []) ∧
      d.event = confirming g.handle ∧ d.before.session.registration = some g ∧ g.settled = false ∧
      e.event = hearing q.handle ∧ e.before = renamed.loop ∧ e.Follows renamed.deeds ∧
      e.before.session.registration.map Registration.handle = some g.handle ∧
      q ∈ renamed.loop.session.registry.browses.values ∧ q.client.onResult = true ∧
      q.discovered = [] := by
  obtain ⟨d, hd, hconfirmed, hadvertising⟩ :=
    exists_deed advertising {} (confirming 1) (by decide +kernel)
  obtain ⟨e, he, hheard, hrenamed⟩ := exists_deed renamed {} (hearing 2) (by decide +kernel)
  obtain ⟨mid, hmid⟩ : (advertising.add {} (confirming 1)).deeds <+: renamed.deeds :=
    (deeds_le_add _ _ _).trans (deeds_le_add _ _ _)
  obtain ⟨-, -, -, hfollows⟩ := exists_before he
  have hregistration : advertising.loop.session.registration.map (fun g => (g.handle, g.settled)) =
      some (1, false) := by decide +kernel
  obtain ⟨g, hg, hshown⟩ := Option.map_eq_some_iff.mp hregistration
  obtain ⟨hhandle, hunsettled⟩ : g.handle = 1 ∧ g.settled = false := by simpa using hshown
  have hbrowses : renamed.loop.session.registry.browses.values.map
      (fun q => (q.handle, q.client.onResult, q.discovered)) = [(2, true, [])] := by decide +kernel
  obtain ⟨q, hq, hshown⟩ := List.mem_map.mp (hbrowses ▸ List.mem_singleton_self (2, true, []))
  obtain ⟨hlive, hon, hnone⟩ : q.handle = 2 ∧ q.client.onResult = true ∧ q.discovered = [] := by
    simpa using hshown
  refine ⟨advertising.deeds, d, mid, e, g, q, ?_, hhandle ▸ hconfirmed,
    hadvertising ▸ hg, hunsettled, hlive ▸ hheard, hrenamed, hfollows, ?_, hq, hon, hnone⟩
  · rw [he, ← hmid, hd]
    simp
  · rw [hrenamed, hhandle]
    decide +kernel

theorem own_name_unseen_renamed :
    ∃ (d e : Deed) (g : Registration) (q : BrowseRequest) (r : RecordId),
      d.event = confirming g.handle ∧ .notice (.registeredAs "B" "B (2)") ∈ d.outputs ∧
      e.event = hearing q.handle ∧ invocations e.outputs = [⟨q.client, .added q.id r⟩] ∧
      e.after.records.name r = "B (2)" := by
  obtain ⟨past, d, mid, e, g, q, hk, hd, hg, hunsettled, he, hrenamed, -, hcurrent, hq,
      hon, hnone⟩ :=
    exists_renamed_heard
  have huuid : (renamed.add {} (hearing 2)).loop.session.uuid = "B" := by decide +kernel
  obtain ⟨hwarned, hlater⟩ := (renamed.add {} (hearing 2)).own_name_unseen hk hd hg hunsettled
  obtain ⟨-, hseen⟩ := hlater mid e [] rfl hcurrent
  rw [huuid] at hwarned hseen
  obtain ⟨r, htold, hname⟩ :=
    hseen (by decide) q (hrenamed ▸ hq) hon (by rw [hnone]; rfl) 2 0 "_ndn._udp."
    (some "local.") (by decide) (by decide +kernel) he
  exact ⟨d, e, g, q, r, hd, hwarned.mpr (by decide), he, htold, hname⟩

/-- A session that was registered under another name discovers itself under this name. -/
theorem not_own_name_unseen_renamed :
    ¬∀ (k : History) (past mid later : List Deed) (d e : Deed) (g : Registration) (flags : Int)
      (n : String) (regtype domain : Option String), k.deeds = past ++ d :: (mid ++ e :: later) →
      d.event = .report g.handle (.register flags ErrorCode.noError (some n) regtype domain) →
      d.before.session.registration = some g → g.settled = false →
      e.before.session.registration.map Registration.handle = some g.handle →
      ∀ i ∈ invocations e.outputs, ∀ id r, i.what = .added id r → e.after.records.name r ≠ n := by
  intro hall
  obtain ⟨past, d, mid, e, g, q, hk, hd, hg, hunsettled, he, hrenamed, hfollows, hcurrent, hq,
      hon, hnone⟩ :=
    exists_renamed_heard
  have hforeign : "B (2)" ≠ renamed.loop.session.uuid := by decide +kernel
  have ht : RegType.transport? "_ndn._udp." = some .udp := by decide +kernel
  obtain ⟨r, htold, hname⟩ :=
    added_by_report hrenamed hfollows hq hon (by rw [hnone]; rfl) hforeign (by decide) ht he
  exact hall _ past mid [] d e g _ _ _ _ hk hd hg hunsettled hcurrent _
    (htold ▸ List.mem_singleton_self _) _ r
    rfl hname

end History
end ServiceDiscovery
