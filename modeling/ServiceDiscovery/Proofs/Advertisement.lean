import ServiceDiscovery.Proofs.Calls
import ServiceDiscovery.Proofs.Closing
import ServiceDiscovery.Proofs.TxtRecord

/-!
What the own record shows. As long as there is a registration it holds what was announced when the
handle of the registration was returned, and readers see port, name prefix and certificate once it
is confirmed.
-/
namespace ServiceDiscovery
open ServiceDiscovery.Text (Octets)

structure Record.Holds (r : Record) (a : Advertisement) : Prop where
  transport : Transport.ofCode? a.transportCode = some r.transport
  interfaceIndex : r.interfaceIndex = a.interfaceIndex
  subtype : r.subtype = a.subtype
  regtype : r.regtype = RegType.make a.transportCode a.subtype
  port : r.port = a.port
  namePrefix : r.namePrefix = a.namePrefix
  certificate : r.certificate = a.certificate

/-- The call of `d` announced what the record holds, with TXT data that say it too, and the provider
returned the handle of the registration for it. -/
structure Deed.Announces (d : Deed) (uuid : String) (g : Registration) (r : Record)
    (a : Advertisement) (txt : Octets) : Prop where
  called : ∃ descriptor, d.event = .request (.announce a g.client) (.started g.handle descriptor)
  asked : (openings d.outputs).map (fun o => (o.handle, o.request)) =
    [(g.handle, ⟨.register a.interfaceIndex uuid (RegType.make a.transportCode a.subtype)
      (if a.domain = "" then none else some a.domain) a.port txt, .register⟩)]
  holds : r.Holds a
  port_ne : r.port ≠ 0
  prefix_ne : r.namePrefix ≠ ""
  decodes : Txt.decode txt = .ok ⟨some r.namePrefix, if r.certificate = [] then
    none else some r.certificate⟩

def Announced (ds : List Deed) (uuid : String) (g : Registration) (r : Record) : Prop :=
  ∃ d ∈ ds, ∃ a txt, d.Announces uuid g r a txt

section
variable {ds : List Deed} {uuid : String} {g : Registration} {r : Record}

theorem Announced.append (h : Announced ds uuid g r) (later : List Deed) :
    Announced (ds ++ later) uuid g r := by
  obtain ⟨d, hd, hannounces⟩ := h
  exact ⟨d, List.mem_append_left _ hd, hannounces⟩

theorem Announced.confirmed (h : Announced ds uuid g r) (domain : Option String) :
    Announced ds uuid { g with settled := true } (Session.confirmedIn domain r) := by
  obtain ⟨d, hd, a, txt, hcalled, hasked, hholds, hport, hnamePrefix, hdecodes⟩ := h
  refine ⟨d, hd, a, txt, hcalled, hasked, ?_, hport, hnamePrefix, hdecodes⟩
  exact ⟨hholds.transport, hholds.interfaceIndex, hholds.subtype, hholds.regtype, hholds.port,
    hholds.namePrefix, hholds.certificate⟩

end

namespace Session
variable {s : Session} {rs : Records} {a : Advertisement}

/-- An advertisement that can be packed has a name prefix and a port, and reads back. -/
theorem packed_eq_ok {txt : Octets} (h : s.packed rs a = .ok txt) :
    a.namePrefix ≠ "" ∧ a.port ≠ 0 ∧
      Txt.decode txt = .ok ⟨some a.namePrefix, if a.certificate = [] then
        none else some a.certificate⟩ := by
  simp only [packed] at h
  split at h
  · cases h
  split at h
  · cases h
  rename_i hlacking
  split at h
  · cases h
  split at h
  · cases h
  rename_i hencode
  obtain rfl := Except.ok.inj h
  obtain rfl := Txt.eq_pack_of_encode hencode
  exact ⟨(not_or.mp hlacking).1, (not_or.mp hlacking).2, Txt.decode_pack _ _⟩

theorem holds_advertised {transport : Transport}
    (ht : Transport.ofCode? a.transportCode = some transport) (r : Record) :
    (advertised a transport r).Holds a :=
  ⟨ht, rfl, rfl, rfl, rfl, rfl, rfl⟩

end Session

/-- A turn keeps the announcement of the registration, or is the announcement of a new one. -/
theorem Transition.keeps_announced {k : History} {d : Deed} {t : Turn}
    (he : Transition d.faults k.loop.session k.loop.records d.move t) (hd : d.Follows k.deeds)
    (ht : Loop.Takes t (d.after, d.outputs))
    (hold : ∀ g, k.loop.session.registration = some g →
      Announced k.deeds k.loop.session.uuid g (k.loop.session.ownRecord k.loop.records)) :
    ∀ g, t.session.registration = some g →
      Announced (k.deeds ++ [d]) t.session.uuid g (t.session.ownRecord t.records) := by
  have ho := k.ownApart
  -- where neither the registration nor the own record changes
  have kept {s : Session} {rs : Records} (hs : s.registration = k.loop.session.registration)
      (huuid : s.uuid = k.loop.session.uuid)
      (hrs : s.ownRecord rs = k.loop.session.ownRecord k.loop.records) :
      ∀ g, s.registration = some g → Announced (k.deeds ++ [d]) s.uuid g (s.ownRecord rs) := by
    intro g hg
    rw [huuid, hrs]
    exact (hold g (hs ▸ hg)).append _
  generalize hm : d.move = m at he
  cases he with
  | idle | refused | orphaned | browsing | browseFailed | vanished | cancelled | resolving
    | answeredFaulty =>
    exact kept rfl rfl rfl
  | @announced a c h descriptor os transport txt hopen hidle hpacked htransport hos =>
    rintro g ⟨⟩
    obtain ⟨hnamePrefix, hport, hdecodes⟩ := Session.packed_eq_ok hpacked
    have hopenings : openings d.outputs = _ := ht.openings.trans hos.openings
    have hown : Session.ownRecord { k.loop.session with
          registration := some ⟨h, c, false⟩, mux := (k.loop.session.mux.add h descriptor).2 }
        (k.loop.records.modify k.loop.session.own (Session.advertised a transport)) =
        Session.advertised a transport (k.loop.session.ownRecord k.loop.records) :=
          ho.get_modify_own _
    rw [hown]
    refine ⟨d, by simp, a, txt, ⟨descriptor, hd.event_of_request hm⟩, ?_,
      Session.holds_advertised htransport _, hport, hnamePrefix, hdecodes⟩
    rw [hopenings]
    rfl
  | confirmed hg =>
    rintro g' ⟨⟩
    rw [Session.ownRecord, ho.get_modify_own]
    exact ((hold _ hg).confirmed _).append _
  | lost | lostFaulty =>
    intro g hg
    cases hg
  | appeared => exact kept rfl rfl (ho.get_add _)
  | answered hq => exact kept rfl rfl (ho.get_settlement hq _ _ _ _ _)
  | closed =>
    intro g hg
    cases hg.symm.trans ho.registration_of_closing

namespace Record
variable {r : Record}

/-- Before it is confirmed, an own record shows none of what is announced, and never where it is. -/
theorem shown_of_own (hstate : r.state = .created ∨ r.state.isActive = true) :
    r.shown.port = (if r.state = .registered then r.port else 0) ∧
    r.shown.namePrefix = (if r.state = .registered then r.namePrefix else "") ∧
    r.shown.certificate = (if r.state = .registered then r.certificate else []) ∧
    r.shown.hostname = "" ∧ r.shown.fullname = "" := by
  cases h : r.state with
  | discovered | resolved => simp [h, ServiceState.isActive] at hstate
  | created | registering | registered => simp [shown, h, ServiceState.hasPayload]

end Record

namespace History

theorem announced_of_registration (k : History) : ∀ g, k.loop.session.registration = some g →
    Announced k.deeds k.loop.session.uuid g (k.loop.session.ownRecord k.loop.records) := by
  refine invariant (P := fun ds s rs => ∀ g, s.registration = some g →
    Announced ds s.uuid g (s.ownRecord rs))
    ?_ ?_ ?_ k
  · exact fun _ _ _ _ g hg => nomatch hg
  · exact fun k d _ _ _ hold _ g hg => (hold g hg).append _
  · exact fun k d t _ hd hold he ht => he.keeps_announced hd ht hold

/-- An own record that is active holds what was announced by the one call for which the provider
returned the handle of the registration, and what that call packed reads back so. Readers see port,
name prefix and certificate just when the registration is confirmed, and at no time a place. -/
theorem own_record_shows_announced (k : History) (hfaults : OnlySystemFaults k.deeds) :
    let r := k.loop.session.ownRecord k.loop.records
    (r.state.isActive = true → ∃ g, k.loop.session.registration = some g ∧
      ∃ d ∈ k.deeds, (∃ a txt, d.Announces k.loop.session.uuid g r a txt) ∧
        ∀ d' ∈ k.deeds, g.handle ∈ returned [d'] → d' = d) ∧
    (r.state = .registered → r.shown.port = r.port ∧ r.port ≠ 0 ∧
      r.shown.namePrefix = r.namePrefix ∧ r.namePrefix ≠ "" ∧
      r.shown.certificate = r.certificate) ∧
    (r.state ≠ .registered →
      r.shown.port = 0 ∧ r.shown.namePrefix = "" ∧ r.shown.certificate = []) ∧
    r.state ≠ .discovered ∧ r.state ≠ .resolved ∧ r.shown.hostname = "" ∧
    r.shown.fullname = "" := by
  intro r
  have hstate : r.state = .created ∨ r.state.isActive = true := k.created_or_active
  have hactive (h : r.state.isActive = true) : ∃ g, k.loop.session.registration = some g ∧
      Announced k.deeds k.loop.session.uuid g r := by
    obtain ⟨g, hg⟩ := Option.isSome_iff_exists.mp (k.isSome_registration hfaults h)
    exact ⟨g, hg, k.announced_of_registration g hg⟩
  obtain ⟨hport, hnamePrefix, hcertificate, hhostname, hfullname⟩ := Record.shown_of_own hstate
  refine ⟨fun h => ?_, fun h => ?_, fun h => ?_, ?_, ?_, hhostname, hfullname⟩
  · obtain ⟨g, hg, d, hd, a, txt, hannounces⟩ := hactive h
    refine ⟨g, hg, d, hd, ⟨a, txt, hannounces⟩, fun d' hd' hh => ?_⟩
    obtain ⟨o', ho', hhandle'⟩ := (mem_returned_singleton d').mp hh
    have hmem : (g.handle, _) ∈ (openings d.outputs).map fun o => (o.handle, o.request) :=
      hannounces.asked ▸ List.mem_singleton_self _
    obtain ⟨o, ho, hpair⟩ := List.mem_map.mp hmem
    exact opener_unique hd' hd ho' ho (hhandle'.trans (Prod.mk.inj hpair).1.symm)
  · obtain ⟨g, hg, d, hd, a, txt, hannounces⟩ := hactive (by rw [h]; rfl)
    rw [if_pos h] at hport hnamePrefix hcertificate
    exact ⟨hport, hannounces.port_ne, hnamePrefix, hannounces.prefix_ne, hcertificate⟩
  · rw [if_neg h] at hport hnamePrefix hcertificate
    exact ⟨hport, hnamePrefix, hcertificate⟩
  · intro h
    simp [h, ServiceState.isActive] at hstate
  · intro h
    simp [h, ServiceState.isActive] at hstate

def relay : Advertisement where
  transportCode := 2
  interfaceIndex := 2
  subtype := "relay"
  port := 11
  namePrefix := "/b"
  certificate := [1, 2]

def reannounced : History :=
  (start "A" {} false {}).adds [
    .request (.announce { port := 9, namePrefix := "/a" } { ticket := 1 }) (.started 1 10),
    .request (.run 5) (.raised (.closed "")), .waited [10] none,
    .report 1 (.register 0 0 none none none), .finish false,
    .report 1 (.register 0 (-65563) none none none), .finish true, .pumped .delivered,
    .request (.announce relay { ticket := 2 }) (.started 2 10),
    .request (.announce { port := 12, namePrefix := "/c" } { ticket := 3 }) (.raised (.closed "")),
    .request (.run 5) (.raised (.closed "")), .waited [10] none,
    .report 2 (.register 0 0 none none (some "local.")), .finish false,
    .report 2 (.register 0 0 none none none), .pumped .delivered]

theorem own_record_shows_announced_reannounced :
    let r := reannounced.loop.session.ownRecord reannounced.loop.records
    OnlySystemFaults reannounced.deeds ∧ r.state = .registered ∧
    (r.transport, r.regtype, r.port, r.namePrefix, r.certificate) =
      (.tcp, "_ndn._tcp,relay", 11, "/b", [1, 2]) ∧
    (∃ g, reannounced.loop.session.registration = some g ∧
      ∃ d ∈ reannounced.deeds, ∃ a txt, d.Announces reannounced.loop.session.uuid g r a txt) ∧
    r.shown.port = 11 ∧ r.shown.namePrefix = "/b" ∧ r.shown.hostname = "" := by
  intro r
  have hfaults : OnlySystemFaults reannounced.deeds := by
    iterate 16 refine onlySystemFaults_add ?_
    exact atEach_start _ _ _ _
  obtain ⟨hactive, hregistered, -, -, -, hhostname, -⟩ :=
    reannounced.own_record_shows_announced hfaults
  have hstate : r.state = .registered := by decide +kernel
  obtain ⟨g, hg, d, hd, hannounces, -⟩ := hactive (by rw [hstate]; rfl)
  obtain ⟨hport, -, hnamePrefix, -, -⟩ := hregistered hstate
  exact ⟨hfaults, hstate, by decide +kernel, ⟨g, hg, d, hd, hannounces⟩,
    hport.trans (by decide +kernel), hnamePrefix.trans (by decide +kernel), hhostname⟩

end History
end ServiceDiscovery
