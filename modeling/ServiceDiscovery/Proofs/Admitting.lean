import ServiceDiscovery.Proofs.Advertisement
import ServiceDiscovery.Proofs.Declining
import ServiceDiscovery.Proofs.TxtCapacity

/-!
Which announcements reach the provider. One that is held back changes nothing and its client hears
the first thing against it; one that goes out is asked for once, with data that say what was
announced.
-/
namespace ServiceDiscovery
open ServiceDiscovery.Text (Octets)

def Advertisement.data (a : Advertisement) : Octets :=
  Txt.pack (Txt.allStrings (Text.encode a.namePrefix) a.certificate)

theorem Advertisement.decode_data (a : Advertisement) :
    Txt.decode a.data = .ok ⟨some a.namePrefix, if a.certificate = [] then
      none else some a.certificate⟩ :=
  Txt.decode_pack a.namePrefix a.certificate

structure Txt.Codec.Fits (codec : Txt.Codec) (a : Advertisement) : Prop where
  check : ((Text.encode a.namePrefix).length + a.certificate.length + 4 : Int) ≤ codec.capacity
  data : a.data.length ≤ codec.capacity

namespace Session
variable {s : Session} {rs : Records} {a : Advertisement}

theorem packed_of_active (h : (s.ownRecord rs).state.isActive = true) :
    s.packed rs a = .error ErrorCode.alreadyRegistered := by
  rw [packed, if_pos h]

theorem packed_of_lacking (hidle : (s.ownRecord rs).state.isActive = false)
    (h : a.namePrefix = "" ∨ a.port = 0) :
    s.packed rs a = .error ErrorCode.prefixAndPortRequired := by
  rw [packed, if_neg (by simp [hidle]), if_pos h]

theorem packed_of_fits (hidle : (s.ownRecord rs).state.isActive = false)
    (hnamed : a.namePrefix ≠ "") (hport : a.port ≠ 0) (h : s.codec.Fits a) :
    s.packed rs a = .ok a.data := by
  have hcheck :
      ¬s.codec.isOverCapacity ((Text.encode a.namePrefix).length + a.certificate.length : Nat) =
      true := by
    rw [Txt.Codec.isOverCapacity_iff]
    have := h.check
    omega
  have hencode : s.codec.encode (Text.encode a.namePrefix) a.certificate = .ok a.data :=
    if_neg (Int.not_lt.mpr h.data)
  rw [packed, if_neg (by simp [hidle]), if_neg (by simp [hnamed, hport]), if_neg hcheck, hencode]

theorem packed_of_not_fits (hidle : (s.ownRecord rs).state.isActive = false)
    (hnamed : a.namePrefix ≠ "") (hport : a.port ≠ 0) (h : ¬s.codec.Fits a) :
    s.packed rs a = .error ErrorCode.capacityExceeded := by
  rw [packed, if_neg (by simp [hidle]), if_neg (by simp [hnamed, hport])]
  split
  · rfl
  rename_i hover
  rw [Txt.Codec.isOverCapacity_iff] at hover
  have hlarge : s.codec.capacity < a.data.length := by
    by_contra hroom
    exact h ⟨by omega, Int.not_lt.mp hroom⟩
  have hencode : s.codec.encode (Text.encode a.namePrefix) a.certificate =
      .error (.tooLong a.data.length s.codec.capacity) := if_pos hlarge
  rw [hencode]

/-- An announcement with nothing against it asks the provider once, whatever it answers. -/
theorem attempts_announce (hopen : s.closed = false) {txt : Octets}
    (hpacked : s.packed rs a = .ok txt) (c : Client) (answer : StartAnswer) :
    attempts (s.announce rs a c answer).outputs = [s.registerRequest a txt] := by
  simp only [announce, hopen, Bool.false_eq_true, if_false, hpacked]
  cases answer with
  | raised f => rfl
  | refused r => rfl
  | started h d =>
    dsimp only
    unfold announceStarted
    split
    · rfl
    · have hwatch := attempts_watch { s with registration := some ⟨h, c, false⟩ } h d
      dsimp only
      split <;> simp_all [attempts, Output.attempt?]

end Session

namespace Loop
variable {l : Loop} {a : Advertisement}

theorem declines_announce (hl : l.isIdle = true) (hopen : l.session.closed = false) {why : String}
    (hpacked : l.session.packed l.records a = .error why) (faults : CloseFaults) (c : Client)
    (answer : StartAnswer) :
    l.Declines [] c (.failed .register (-1) ErrorCode.localError why false) (.ok none)
      (l.step faults (.request (.announce a c) answer)) := by
  rw [step_request hl, request, Session.announce_rejected hopen hpacked]
  refine declines_settle hl ?_ ?_ ?_ ?_ <;> rfl

theorem attempts_announce (hl : l.isIdle = true) (hopen : l.session.closed = false) {txt : Octets}
    (hpacked : l.session.packed l.records a = .ok txt) (faults : CloseFaults) (c : Client)
    (answer : StartAnswer) :
    attempts (l.step faults (.request (.announce a c) answer)).2 =
      [l.session.registerRequest a txt] := by
  rw [step_request hl, request, attempts_settle hl, Session.attempts_announce hopen hpacked]

end Loop

namespace History

/-- An announcement asks the provider, and then once, just if the own record is new, the
advertisement has a name prefix and a port, the quick check passes and the data fit; the data then
say what was announced. Otherwise it changes nothing and its client is told of one error, which is
not transient: the first of an announcement that still stands, a missing name prefix or port, and
too little room. -/
theorem announce_asks_admitted (k : History) (hidle : k.loop.isIdle = true)
    (hopen : k.loop.session.closed = false) (faults : CloseFaults) (a : Advertisement) (c : Client)
    (answer : StartAnswer) :
    let s := k.loop.session
    let state := (s.ownRecord k.loop.records).state
    let r := k.loop.step faults (.request (.announce a c) answer)
    let Declines (why : String) : Prop :=
      k.loop.Declines [] c (.failed .register (-1) ErrorCode.localError why false) (.ok none) r
    (attempts r.2 ≠ [] ↔ state = .created ∧ a.namePrefix ≠ "" ∧ a.port ≠ 0 ∧ s.codec.Fits a) ∧
    (attempts r.2 ≠ [] →
      attempts r.2 = [⟨.register a.interfaceIndex s.uuid (RegType.make a.transportCode a.subtype)
        (if a.domain = "" then none else some a.domain) a.port a.data, .register⟩] ∧
      Txt.decode a.data = .ok
        ⟨some a.namePrefix, if a.certificate = [] then none else some a.certificate⟩) ∧
    (state ≠ .created → Declines ErrorCode.alreadyRegistered) ∧
    (state = .created → a.namePrefix = "" ∨ a.port = 0 → Declines ErrorCode.prefixAndPortRequired) ∧
    (state = .created → a.namePrefix ≠ "" → a.port ≠ 0 → ¬s.codec.Fits a →
      Declines ErrorCode.capacityExceeded) := by
  intro s state r Declines
  have hdeclines {why : String} (hpacked : s.packed k.loop.records a = .error why) : Declines why :=
    Loop.declines_announce hidle hopen hpacked faults c answer
  have hnew (h : state = .created) : state.isActive = false := by rw [h]; rfl
  have hactive (h : state ≠ .created) : Declines ErrorCode.alreadyRegistered :=
    hdeclines (Session.packed_of_active (k.created_or_active.resolve_left h))
  have hlacking (h : state = .created) (hl : a.namePrefix = "" ∨ a.port = 0) :
      Declines ErrorCode.prefixAndPortRequired :=
    hdeclines (Session.packed_of_lacking (hnew h) hl)
  have hfull (h : state = .created) (hp : a.namePrefix ≠ "") (hport : a.port ≠ 0)
      (hn : ¬s.codec.Fits a) :
      Declines ErrorCode.capacityExceeded :=
    hdeclines (Session.packed_of_not_fits (hnew h) hp hport hn)
  have hasks (h : state = .created) (hp : a.namePrefix ≠ "") (hport : a.port ≠ 0)
      (hf : s.codec.Fits a) :
      attempts r.2 = [s.registerRequest a a.data] :=
    Loop.attempts_announce hidle hopen (Session.packed_of_fits (hnew h) hp hport hf) faults c answer
  have hadmitted : attempts r.2 ≠ [] ↔
      state = .created ∧ a.namePrefix ≠ "" ∧ a.port ≠ 0 ∧ s.codec.Fits a := by
    constructor
    · intro hne
      have hold {why : String} (h : Declines why) : False := hne h.attempts
      have h : state = .created := by_contra fun h => hold (hactive h)
      obtain ⟨hp, hport⟩ := not_or.mp fun hl => hold (hlacking h hl)
      exact ⟨h, hp, hport, by_contra fun hn => hold (hfull h hp hport hn)⟩
    · rintro ⟨h, hp, hport, hf⟩
      simp [hasks h hp hport hf]
  refine ⟨hadmitted, fun hne => ?_, hactive, hlacking, hfull⟩
  obtain ⟨h, hp, hport, hf⟩ := hadmitted.mp hne
  exact ⟨hasks h hp hport hf, a.decode_data⟩

/-- A certificate of 990 bytes passes the quick check but does not fit once it is cut into pieces,
983 bytes fill the room to the last byte, and a confirmed announcement holds back any other. -/
theorem announce_asks_admitted_cutCertificate :
    let fresh : History := .start "A" {} false {}
    let ad (n : Nat) : Advertisement := { relay with certificate := List.replicate n 7 }
    let again : Loop × List Output :=
      reannounced.loop.step {} (.request (.announce (ad 0) { ticket := 4 }) (.raised (.closed "")))
    fresh.loop.Declines [] { ticket := 1 }
      (.failed .register (-1) (-1) "maximum TXT record size exceeded" false)
      (.ok none) (fresh.loop.step {} (.request (.announce (ad 990) { ticket := 1 })
        (.started 1 10))) ∧
    attempts (fresh.loop.step {} (.request (.announce (ad 983) { ticket := 1 })
      (.started 1 10))).2 =
      [⟨.register 2 "A" "_ndn._tcp,relay" none 11 (ad 983).data, .register⟩] ∧
    reannounced.loop.Declines [] { ticket := 4 }
      (.failed .register (-1) (-1) "service is already registered" false)
      (.ok none) again := by
  intro fresh ad again
  have hnew : (fresh.loop.session.ownRecord fresh.loop.records).state = .created := by decide
  have hlength (n : Nat) : (ad n).data.length = Txt.packedSize 2 n := by
    have hnamed : (Text.encode "/b").length = 2 := by decide +kernel
    rw [Advertisement.data, Txt.length_pack_allStrings, List.length_replicate]
    exact congrArg (Txt.packedSize · n) hnamed
  have hlarge : ¬Txt.Codec.Fits {} (ad 990) := by
    intro hfits
    have := hfits.data
    rw [hlength] at this
    exact absurd this (by decide +kernel)
  have hfits : Txt.Codec.Fits {} (ad 983) := by
    constructor
    · rw [List.length_replicate]
      decide +kernel
    · rw [hlength]
      decide +kernel
  obtain ⟨-, -, -, -, hfull⟩ :=
    announce_asks_admitted fresh rfl rfl {} (ad 990) { ticket := 1 } (.started 1 10)
  obtain ⟨hadmitted, hasks, -⟩ :=
    announce_asks_admitted fresh rfl rfl {} (ad 983) { ticket := 1 } (.started 1 10)
  obtain ⟨-, -, hactive, -⟩ :=
    announce_asks_admitted reannounced (by decide +kernel) (by decide +kernel) {} (ad 0)
      { ticket := 4 } (.raised (.closed ""))
  refine ⟨hfull hnew (by decide) (by decide) hlarge, ?_, hactive (by decide +kernel)⟩
  exact (hasks (hadmitted.mpr ⟨hnew, by decide, by decide, hfits⟩)).1

end History
end ServiceDiscovery
