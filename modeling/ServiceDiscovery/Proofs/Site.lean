import ServiceDiscovery.Proofs.Attribution
import ServiceDiscovery.Proofs.Operating
import ServiceDiscovery.Proofs.Peer
import ServiceDiscovery.Proofs.Pumping

/-!
A session that works with the engine. Client code, the pumps under way and the threads of the engine
take turns in any order; client code that is told something may do whatever it likes before it comes
back, and that includes running the session again.
-/
namespace ServiceDiscovery
open Multicast

structure Delivery where
  handle : Handle
  rest : Except Refusal (List Reply)

structure StateChange where
  handle : Handle
  kind : String
  name : String

/-- A session, the engine, the pumps under way with the innermost one first, and what browsers have
reported. -/
structure Site where
  history : History
  engine : Engine
  deliveries : List Delivery := []
  changes : List StateChange := []

def Multicast.Engine.begin (e : Engine) : List Handle → List Delivery × Engine
  | [] => ([], e)
  | h :: _ =>
    let (rest, e) := e.take h
    ([⟨h, rest⟩], e)

theorem Multicast.Engine.begin_some (e : Engine) (h : Handle) :
    e.begin (some h).toList = ([⟨h, (e.take h).1⟩], (e.take h).2) := rfl

namespace Site

inductive Move
  | request (around : Surroundings) (r : Request)
  | finish (raised : Bool)
  | waited (reported : List Int) (fault : Option Fault)
  /-- The innermost pump goes on. -/
  | next
  /-- The thread of an endpoint takes a step. -/
  | work (net : Network) (h : Handle)
  | change (room : Nat) (c : StateChange)

def start (uuid : String) (codec : Txt.Codec) (ownsProvider : Bool) (records : Records)
    (settings : Settings.ProviderSettings) (ownsNetwork : Bool) : Site :=
  ⟨.start uuid codec ownsProvider records, { settings, ownsNetwork }, [], []⟩

def occur (site : Site) (faults : CloseFaults) (e : Occurrence) (engine : Engine)
    (deliveries : List Delivery) : Site :=
  match e.move? site.history.loop site.history.deeds with
  | none => site
  | some m =>
    let (loop, outputs) := site.history.loop.step faults m
    let (begun, engine) := (engine.releaseAll (releases outputs)).begin (pumps outputs)
    -- pumps are nested, so those that go on are the outer ones
    let ended := begun.length + deliveries.length - loop.pumping.length
    { site with history := site.history.add faults e, engine, deliveries := begun ++
                  deliveries.drop ended }

def next (site : Site) (faults : CloseFaults) : Site :=
  match site.history.loop.stack, site.deliveries with
  | .pumping .. :: _, d :: outer =>
    match d.rest with
    | .error r => site.occur faults (.pumped (.refused r)) site.engine site.deliveries
    | .ok batch =>
      match site.engine.nextReply d.handle batch with
      | none => site.occur faults (.pumped .delivered) site.engine site.deliveries
      | some (r, rest) =>
        site.occur faults (.report d.handle r) site.engine ({ d with rest := .ok rest } :: outer)
  | _, _ => site

def step (site : Site) (faults : CloseFaults) : Move → Site
  | .request around r =>
    let (answer, engine, _) := (⟨site.history.loop, site.engine⟩ : Peer).ask around r
    site.occur faults (.request r answer) engine site.deliveries
  | .finish raised => site.occur faults (.finish raised) site.engine site.deliveries
  | .waited reported fault => site.occur faults (.waited reported fault) site.engine site.deliveries
  | .next => site.next faults
  | .work net h =>
    match site.engine.endpoint? h with
    | none => site
    | some p => { site with engine := site.engine.modify h fun _ => (p.workStep net).2.1 }
  | .change room c =>
    match site.engine.endpoint? c.handle with
    | none => site
    | some p =>
      { site with
        engine := site.engine.modify c.handle fun _ => (p.change room c.kind c.name).2.1
        changes := site.changes ++ [c] }

def run (site : Site) (moves : List (CloseFaults × Move)) : Site :=
  moves.foldl (fun site m => site.step m.1 m.2) site

end Site

theorem Loop.startRequest?_browse {l : Loop} {r : Request} {asked : StartRequest}
    {interfaceIndex : Int} {regtype : String} {domain : Option String}
    (h : l.startRequest? r = some asked)
    (hcall : asked.call = .browse interfaceIndex regtype domain) :
    ∃ k c, r = .browse k c ∧ regtype = RegType.make k.transportCode k.subtype := by
  cases r with
  | announce a c =>
    simp only [startRequest?] at h
    split at h
    · cases h
    · split at h
      · cases h
        cases hcall
      · cases h
  | browse k c =>
    simp only [startRequest?] at h
    split at h
    · cases h
    · cases h
      cases hcall
      exact ⟨k, c, rfl, rfl⟩
  | resolve target c =>
    simp only [startRequest?] at h
    split at h
    · cases h
    · obtain ⟨q, -, rfl⟩ := Option.map_eq_some_iff.mp h
      cases hcall
  | cancel | run | close => cases h

theorem Transition.opened_browse {faults : CloseFaults} {s : Session} {rs : Records} {m : Move}
    {t : Turn} {o : Opening} {id : Int} (he : Transition faults s rs m t)
    (ho : o ∈ openings t.outputs) (haddress : o.request.replyTo = .browse id) :
    ∃ k c, m = .request (.browse k c) (.started o.handle o.descriptor) ∧ s.closed = false := by
  cases he with
  | announced _ _ _ _ hos | orphaned _ hos | resolving _ _ hos =>
    rw [hos.openings] at ho
    obtain rfl := List.mem_singleton.mp ho
    cases haddress
  | browsing hopen hos =>
    rw [hos.openings] at ho
    obtain rfl := List.mem_singleton.mp ho
    exact ⟨_, _, rfl, hopen⟩
  | idle _ hos | refused _ hos | confirmed _ _ hos | lost _ _ _ hos | lostFaulty _ _ hos
  | browseFailed _ _ hos | appeared _ _ _ _ _ hos | vanished _ _ _ hos | cancelled _ hos
  | answered _ _ hos | answeredFaulty _ _ hos | closed _ _ _ hos =>
    rw [hos.openings] at ho
    cases ho

namespace Site
variable {site : Site} {engine : Engine} {deliveries : List Delivery} {faults : CloseFaults}
  {e : Occurrence} {m : ServiceDiscovery.Move} {h : Handle}

theorem occur_eq (faults : CloseFaults) (engine : Engine)
    (hpumping : deliveries.map Delivery.handle = site.history.loop.pumping)
    (hm : e.move? site.history.loop site.history.deeds = some m) :
    let d : Deed := ⟨site.history.loop, faults, e, m⟩
    ∃ (begun : Option Handle) (kept : List Delivery), pumps d.outputs = begun.toList ∧
      d.after.pumping = begun.toList ++ kept.map Delivery.handle ∧
      (kept = deliveries ∨ site.history.loop.MayEnd faults m ∧ ∃ x, deliveries = x :: kept) ∧
      site.occur faults e engine deliveries =
        { site with
          history := site.history.add faults e
          engine := ((engine.releaseAll (releases d.outputs)).begin begun.toList).2
          deliveries := ((engine.releaseAll (releases d.outputs)).begin begun.toList).1 ++
            kept } := by
  intro d
  obtain ⟨begun, kept, hbegun, hafter, hkept⟩ := site.history.pumping_after (d := d) rfl
  have hpumps : pumps (site.history.loop.step faults m).2 = begun.toList := hbegun
  have hloop : (site.history.loop.step faults m).1.pumping = begun.toList ++ kept := hafter
  have hlength (e : Engine) : (e.begin begun.toList).1.length = begun.toList.length := by
    cases begun <;> rfl
  have hoccur : site.occur faults e engine deliveries =
      { site with
        history := site.history.add faults e
        engine := ((engine.releaseAll (releases d.outputs)).begin begun.toList).2
        deliveries := ((engine.releaseAll (releases d.outputs)).begin begun.toList).1 ++
          deliveries.drop (deliveries.length - kept.length) } := by
    simp only [occur, hm, hpumps, hloop, hlength, List.length_append, Nat.add_sub_add_left]
    rfl
  obtain rfl | ⟨hend, h, hinner⟩ := hkept
  · have hdrop : deliveries.drop (deliveries.length - site.history.loop.pumping.length) =
        deliveries := by
      simp [← hpumping]
    exact ⟨begun, deliveries, hbegun, by rw [hafter, hpumping], .inl rfl, by rw [hoccur, hdrop]⟩
  · rw [hinner, List.map_eq_cons_iff] at hpumping
    obtain ⟨x, outer, rfl, -, rfl⟩ := hpumping
    have hdrop : (x :: outer).drop ((x :: outer).length - (outer.map Delivery.handle).length) =
        outer := by
      simp
    exact ⟨begun, outer, hbegun, hafter, .inr ⟨hend, x, rfl⟩, by rw [hoccur, hdrop]⟩

structure Pumps (engine : Engine) (d : Delivery) : Prop where
  known : d.handle < engine.endpoints.length
  browse : ∀ p type i b, engine.endpoint? d.handle = some p → p.purpose = .browse type i b →
    p.queue.closed = false → ∃ rest, d.rest = .ok rest ∧ ∀ r ∈ rest, r.isBrowse

theorem Pumps.grow {engine' : Engine} {closed : List Handle} {d : Delivery} (hd : Pumps engine d)
    (hgrows : engine.Grows closed engine') : Pumps engine' d := by
  refine ⟨Nat.lt_of_lt_of_le hd.known hgrows.length, fun p' type i b hp' hbrowse hopen => ?_⟩
  obtain ⟨p, hp, hpurpose, hopened⟩ := hgrows.open_before hd.known hp' hopen
  exact hd.browse p type i b hp (hpurpose.symm.trans hbrowse) hopened

/-- Session, engine and pumps belong together. -/
structure Sound (site : Site) : Prop where
  pumping : site.deliveries.map Delivery.handle = site.history.loop.pumping
  known : ∀ h ∈ returned site.history.deeds, h < site.engine.endpoints.length
  deliveries : ∀ d ∈ site.deliveries, Pumps site.engine d
  changes : ∀ c ∈ site.changes, c.handle < site.engine.endpoints.length
  silent : SilentOnceClosed site.history.deeds
  released : ∀ h ∈ releases (outputsOf site.history.deeds), ∀ p, site.engine.endpoint? h = some p →
    p.queue.closed = true
  /-- What was opened for the replies of a browse browses, and it is open until the session closes
  it. -/
  browsing : ∀ o ∈ openings (outputsOf site.history.deeds), ∀ id, o.request.replyTo = .browse id →
    ∀ p, site.engine.endpoint? o.handle = some p → (∃ type i b, p.purpose = .browse type i b) ∧
      (p.queue.closed = true → o.handle ∈ releases (outputsOf site.history.deeds))
  tidy : site.engine.Tidy

theorem sound_start (uuid : String) (codec : Txt.Codec) (ownsProvider : Bool) (records : Records)
    (settings : Settings.ProviderSettings) (ownsNetwork : Bool) :
    (start uuid codec ownsProvider records settings ownsNetwork).Sound where
  pumping := rfl
  known _ hh := nomatch hh
  deliveries _ hd := nomatch hd
  changes _ hc := nomatch hc
  silent := atEach_nil
  released _ hh := nomatch hh
  browsing _ ho := nomatch ho
  tidy _ _ hp := by simp [start, Engine.endpoint?] at hp

/-- The engine goes on by itself: an endpoint is replaced by a later state of it. -/
theorem Sound.evolve (hs : site.Sound) {p p' : Endpoint} (hp : site.engine.endpoint? h = some p)
    (he : p.Evolves p') {changes : List StateChange}
    (hchanges : ∀ c ∈ changes, c.handle < site.engine.endpoints.length) :
    Sound { site with engine := site.engine.modify h fun _ => p', changes } := by
  have hgrows := Engine.grows_evolve hp he
  have hlength := Engine.length_modify site.engine h fun _ => p'
  refine ⟨hs.pumping, fun h hh => hlength ▸ hs.known h hh,
    fun d hd => (hs.deliveries d hd).grow hgrows,
    fun c hc => hlength ▸ hchanges c hc, hs.silent, fun h' hh' p'' hp'' => ?_,
    fun o ho id haddress p'' hp'' => ?_, hs.tidy.replace hp he.tidy⟩
  · obtain ⟨q, hq, -, hstays, -⟩ := hgrows.old h' p'' hp'' (hlength ▸ Engine.lt_of_endpoint? hp'')
    exact hstays (hs.released h' hh' q hq)
  · obtain ⟨q, hq, hpurpose, -, hcloses⟩ :=
      hgrows.old _ p'' hp'' (hlength ▸ Engine.lt_of_endpoint? hp'')
    obtain ⟨hbrowse, hclosed⟩ := hs.browsing o ho id haddress q hq
    rw [hpurpose]
    exact ⟨hbrowse, fun h => hclosed ((hcloses h).resolve_right List.not_mem_nil)⟩

theorem begin_sound (he : engine.Tidy) (begun : Option Handle)
    (hknown : ∀ h ∈ begun, h < engine.endpoints.length) :
    engine.Grows [] (engine.begin begun.toList).2 ∧ (engine.begin begun.toList).2.Tidy ∧
      (engine.begin begun.toList).1.map Delivery.handle = begun.toList ∧
      ∀ d ∈ (engine.begin begun.toList).1, Pumps (engine.begin begun.toList).2 d := by
  cases begun with
  | none => exact ⟨.refl engine, he, rfl, fun _ hd => nomatch hd⟩
  | some h =>
    have htaken := Engine.taken_take he h
    refine ⟨htaken.grows, htaken.tidy, rfl, fun d hd => ?_⟩
    obtain rfl := List.mem_singleton.mp hd
    have hlt : h < engine.endpoints.length := hknown h rfl
    refine ⟨Nat.lt_of_lt_of_le hlt htaken.grows.length, fun p' type i b hp' hbrowse hopen => ?_⟩
    obtain ⟨p, hp, hbatch, -⟩ := htaken.batch p' hp' hopen
    obtain ⟨q, hq, hpurpose, -⟩ := htaken.grows.old h p' hp' hlt
    obtain rfl := Option.some.inj (hp.symm.trans hq)
    obtain ⟨-, -, hevents⟩ := (he h p hp).browse type i b (hpurpose.symm.trans hbrowse)
    exact ⟨_, hbatch, hevents⟩

theorem Sound.lt_of_released (hs : site.Sound) (hh : h ∈ releases (outputsOf site.history.deeds)) :
    h < site.engine.endpoints.length := hs.known h (site.history.ledger.released h hh)

theorem Sound.lt_of_opening (hs : site.Sound) {o : Opening}
    (ho : o ∈ openings (outputsOf site.history.deeds)) :
    o.handle < site.engine.endpoints.length := hs.known _ (List.mem_map_of_mem ho)

/-- What was closed stays closed, and what a deed closes is closed from then on. -/
theorem Sound.released_later (hs : site.Sound) {d : Deed} {released final : Engine}
    (hall : site.engine.Grows (releases d.outputs) final) (hlast : released.Grows [] final)
    (hknown : ∀ h ∈ releases d.outputs, h < released.endpoints.length)
    (hclosed : ∀ h ∈ releases d.outputs, ∀ p, released.endpoint? h = some p → p.queue.closed = true)
    (hh : h ∈ releases (outputsOf site.history.deeds) ++ releases d.outputs) {p : Endpoint}
    (hp : final.endpoint? h = some p) : p.queue.closed = true := by
  obtain hold | hnow := List.mem_append.mp hh
  · obtain ⟨q, hq, -, hstays, -⟩ := hall.old h p hp (hs.lt_of_released hold)
    exact hstays (hs.released h hold q hq)
  · obtain ⟨q, hq, -, hstays, -⟩ := hlast.old h p hp (hknown h hnow)
    exact hstays (hclosed h hnow q hq)

def OpenFor (engine : Engine) (r : Request) (h : Handle) : Prop :=
  h < engine.endpoints.length ∧ ∀ p, engine.endpoint? h = some p → p.queue.closed = false ∧
    ∀ k c, r = .browse k c → ∃ type i b, p.purpose = .browse type i b

theorem Sound.browsing_later (hs : site.Sound) {d : Deed} {final : Engine}
    (hbefore : d.before = site.history.loop) (hd : d.Follows site.history.deeds)
    (hgrows : site.engine.Grows [] engine) (hlater : engine.Grows (releases d.outputs) final)
    (hopened : ∀ r h descriptor, d.event = .request r (.started h descriptor) → OpenFor engine r h)
    {o : Opening} {id : Int}
    (ho : o ∈ openings (outputsOf site.history.deeds) ++ openings d.outputs)
    (haddress : o.request.replyTo = .browse id) {p : Endpoint}
    (hp : final.endpoint? o.handle = some p) :
    (∃ type i b, p.purpose = .browse type i b) ∧
      (p.queue.closed = true →
        o.handle ∈ releases (outputsOf site.history.deeds) ++ releases d.outputs) := by
  obtain hold | hnow := List.mem_append.mp ho
  · obtain ⟨q, hq, hpurpose, -, hcloses⟩ := (hgrows.trans hlater).old _ p hp (hs.lt_of_opening hold)
    obtain ⟨hbrowse, hclosed⟩ := hs.browsing o hold id haddress q hq
    rw [hpurpose]
    exact ⟨hbrowse, fun h => List.mem_append.mpr ((hcloses h).imp_left hclosed)⟩
  · obtain ⟨t, ht, -, hopening⟩ := Deed.turn_of_opening (hbefore ▸ site.history.sound) hnow
    obtain ⟨k, c, hmove, -⟩ := ht.opened_browse hopening haddress
    obtain ⟨hlt, hendpoint⟩ := hopened _ _ _ (hd.event_of_request hmove)
    obtain ⟨q, hq, hpurpose, -, hcloses⟩ := hlater.old _ p hp hlt
    obtain ⟨hopen, hbrowse⟩ := hendpoint q hq
    rw [hpurpose]
    refine ⟨hbrowse k c rfl, fun h => List.mem_append.mpr (.inr ?_)⟩
    simpa [hopen] using hcloses h

/-- Whatever happens in the session, with the engine as a start request has left it. -/
theorem Sound.occur (hs : site.Sound) (faults : CloseFaults) (e : Occurrence)
    (hgrows : site.engine.Grows [] engine) (htidy : engine.Tidy)
    (hpumping : deliveries.map Delivery.handle = site.history.loop.pumping)
    (hdeliveries : ∀ d ∈ deliveries, Pumps engine d)
    (hsilent : ∀ h r, e = .report h r → h ∉ releases (outputsOf site.history.deeds))
    (hopened : ∀ r h descriptor, e = .request r (.started h descriptor) → OpenFor engine r h) :
    (site.occur faults e engine deliveries).Sound := by
  cases hm : e.move? site.history.loop site.history.deeds with
  | none => simpa only [Site.occur, hm] using hs
  | some m =>
    let d : Deed := ⟨site.history.loop, faults, e, m⟩
    have hd : d.Follows site.history.deeds := hm
    obtain ⟨begun, kept, hbegun, hafter, hkept, hoccur⟩ := occur_eq faults engine hpumping hm
    obtain ⟨hdeeds, hloop⟩ := site.history.add_eq faults hm
    have houtputs : outputsOf (site.history.add faults e).deeds = outputsOf site.history.deeds ++
        d.outputs := by
      rw [hdeeds, outputsOf_append, outputsOf_singleton]
    have hl := (site.history.add faults e).ledger
    have hreleased := Engine.released_releaseAll htidy (releases d.outputs)
    have hlate := hreleased.grows.length
    have hreturned : ∀ h ∈ returned (site.history.add faults e).deeds, h <
        engine.endpoints.length := by
      rw [hdeeds, returned_append]
      intro h hh
      obtain hold | hnew := List.mem_append.mp hh
      · exact Nat.lt_of_lt_of_le (hs.known h hold) hgrows.length
      · obtain ⟨o, ho, rfl⟩ := (mem_returned_singleton d).mp hnew
        obtain ⟨r, he⟩ := hd.event_of_opening site.history.sound ho
        exact (hopened r _ _ he).1
    have hbegins : ∀ h ∈ begun, h < (engine.releaseAll (releases d.outputs)).endpoints.length := by
      rintro h rfl
      have hpumped : h ∈ pumps (outputsOf (site.history.add faults e).deeds) := by
        rw [houtputs, pumps_append, hbegun]
        exact List.mem_append_right _ (List.mem_singleton_self h)
      exact Nat.lt_of_lt_of_le
        (hreturned h ((hl.pumped h hpumped).elim (hl.opened h) (hl.released h))) hlate
    obtain ⟨hbegin, htidy', hhandles, hnew⟩ := begin_sound hreleased.tidy begun hbegins
    have hlater := List.append_nil (releases d.outputs) ▸ hreleased.grows.trans hbegin
    have hall := hgrows.trans hlater
    rw [hoccur]
    refine ⟨?_, ?_, ?_, ?_, ?_, ?_, ?_, htidy'⟩
    · rw [List.map_append, hhandles, hloop, hafter]
    · exact fun h hh => Nat.lt_of_lt_of_le (hreturned h hh) hlater.length
    · intro x hx
      obtain hx | hx := List.mem_append.mp hx
      · exact hnew x hx
      · have hmem : x ∈ deliveries := by
          obtain rfl | ⟨-, y, rfl⟩ := hkept
          · exact hx
          · exact List.mem_cons_of_mem _ hx
        exact (hdeliveries x hmem).grow hlater
    · exact fun c hc => Nat.lt_of_lt_of_le (hs.changes c hc) hall.length
    · rw [hdeeds]
      exact atEach_concat.mpr ⟨hs.silent, hsilent⟩
    · rw [houtputs, releases_append]
      intro h hh p hp
      refine hs.released_later hall hbegin (fun h hh => ?_) hreleased.closed hh hp
      refine Nat.lt_of_lt_of_le (hreturned h (hl.released h ?_)) hlate
      rw [houtputs, releases_append]
      exact List.mem_append_right _ hh
    · rw [houtputs, openings_append, releases_append]
      exact fun o ho id haddress p hp =>
        hs.browsing_later rfl hd hgrows hlater hopened ho haddress hp

structure Asked (e : Engine) (r : Request) (answer : StartAnswer) (engine : Engine) : Prop where
  grows : e.Grows [] engine
  tidy : engine.Tidy
  endpoint? : ∀ h p, engine.endpoint? h = some p →
    e.endpoint? h = some p ∨ h = e.endpoints.length ∧ p.queue = {}
  opened : ∀ h descriptor, answer = .started h descriptor → OpenFor engine r h

theorem asked (he : site.engine.Tidy) (around : Surroundings) (r : Request) :
    Asked site.engine r ((⟨site.history.loop, site.engine⟩ : Peer).ask around r).1
      ((⟨site.history.loop, site.engine⟩ : Peer).ask around r).2.1 := by
  unfold Peer.ask
  cases hask : site.history.loop.startRequest? r with
  | none => exact ⟨.refl _, he, fun _ _ hp => .inl hp, fun _ _ h => nomatch h⟩
  | some asked =>
    have hstarted := site.engine.started_start around asked
    refine ⟨hstarted.grows, ?_, fun h p hp => hstarted.endpoint? hp, ?_⟩
    · refine hstarted.tidy he fun ifx regtype domain hcall => ?_
      obtain ⟨k, c, -, hmake⟩ := Loop.startRequest?_browse hask hcall
      exact ⟨_, _, hmake⟩
    · intro h descriptor hanswer
      dsimp only at hanswer ⊢
      generalize (site.engine.start around asked).1 = answer at hstarted hanswer
      generalize (site.engine.start around asked).2.1 = engine at hstarted
      cases hstarted with
      | unopened hnone => exact absurd hanswer (hnone h descriptor)
      | @opened _ q _ hendpoints hqueue _ hbrowse =>
        obtain ⟨rfl, -⟩ := StartAnswer.started.inj hanswer
        have hat : engine.endpoint? site.engine.endpoints.length = some q := by
          rw [Engine.endpoint?, hendpoints, List.getElem?_concat_length]
        refine ⟨Engine.lt_of_endpoint? hat, fun p hp => ?_⟩
        obtain rfl := Option.some.inj (hat.symm.trans hp)
        refine ⟨by rw [hqueue], ?_⟩
        rintro k c rfl
        simp only [Loop.startRequest?] at hask
        split at hask
        · cases hask
        · obtain rfl := Option.some.inj hask
          exact hbrowse _ _ _ rfl

theorem Sound.pass (hs : site.Sound) (faults : CloseFaults) {e : Occurrence}
    (hr : ∀ h r, e ≠ .report h r) (hq : ∀ r answer, e ≠ .request r answer) :
    (site.occur faults e site.engine site.deliveries).Sound :=
  hs.occur faults e (.refl _) hs.tidy hs.pumping hs.deliveries (fun h r he => absurd he (hr h r))
    fun _ _ _ he => absurd he (hq _ _)

theorem Sound.next (hs : site.Sound) (faults : CloseFaults) : (site.next faults).Sound := by
  unfold Site.next
  split
  · rename_i d outer _ hdeliveries
    have hd := hs.deliveries d (hdeliveries ▸ List.mem_cons_self)
    split
    · exact hs.pass faults (by rintro _ _ ⟨⟩) (by rintro _ _ ⟨⟩)
    · rename_i batch hrest
      split
      · exact hs.pass faults (by rintro _ _ ⟨⟩) (by rintro _ _ ⟨⟩)
      · rename_i r rest hnext
        obtain ⟨hopen, _, _, rfl, heq⟩ := Engine.exists_of_nextReply hnext
        obtain ⟨-, rfl⟩ := Prod.mk.inj heq
        refine hs.occur faults _ (.refl _) hs.tidy ?_ ?_ ?_ (by rintro _ _ _ ⟨⟩)
        · rw [← hs.pumping, hdeliveries]
          rfl
        · refine List.forall_mem_cons.mpr ⟨⟨hd.known, fun p type i b hp hbrowse hopen => ?_⟩, ?_⟩
          · obtain ⟨batch', hbatch, hall⟩ := hd.browse p type i b hp hbrowse hopen
            obtain rfl := Except.ok.inj (hrest.symm.trans hbatch)
            exact ⟨_, rfl, fun r hr => hall r (List.mem_cons_of_mem _ hr)⟩
          · exact fun x hx => hs.deliveries x (hdeliveries ▸ List.mem_cons_of_mem _ hx)
        · rintro _ _ ⟨⟩ hclosed
          obtain ⟨p, hp⟩ : ∃ p, site.engine.endpoint? d.handle = some p :=
            ⟨_, List.getElem?_eq_getElem hd.known⟩
          have hqueue := hs.released _ hclosed p hp
          simp [Engine.isClosed, hp, hqueue] at hopen
  · exact hs

theorem Sound.step (hs : site.Sound) (faults : CloseFaults) (m : Move) :
    (site.step faults m).Sound := by
  cases m with
  | request around r =>
    have hasked := asked hs.tidy around r
    refine hs.occur faults _ hasked.grows hasked.tidy hs.pumping
      (fun d hd => (hs.deliveries d hd).grow hasked.grows) (by rintro _ _ ⟨⟩) ?_
    rintro _ h descriptor he
    obtain ⟨rfl, hanswer⟩ := Occurrence.request.inj he
    exact hasked.opened h descriptor hanswer
  | finish raised =>
    exact hs.pass faults (e := .finish raised) (by rintro _ _ ⟨⟩) (by rintro _ _ ⟨⟩)
  | waited reported fault =>
    exact hs.pass faults (e := .waited reported fault) (by rintro _ _ ⟨⟩) (by rintro _ _ ⟨⟩)
  | next => exact hs.next faults
  | work net h =>
    simp only [Site.step]
    cases hp : site.engine.endpoint? h with
    | none => exact hs
    | some p => exact hs.evolve hp (Endpoint.evolves_workStep (hs.tidy h p hp) net) hs.changes
  | change room c =>
    simp only [Site.step]
    cases hp : site.engine.endpoint? c.handle with
    | none => exact hs
    | some p =>
      refine hs.evolve hp (Endpoint.evolves_change (hs.tidy _ p hp) room c.kind c.name)
        fun c' hc' => ?_
      obtain hold | hnew := List.mem_append.mp hc'
      · exact hs.changes c' hold
      · rw [List.mem_singleton.mp hnew]
        exact Engine.lt_of_endpoint? hp

theorem Sound.run (hs : site.Sound) (moves : List (CloseFaults × Move)) :
    (site.run moves).Sound := by
  induction moves generalizing site with
  | nil => exact hs
  | cons m moves ih => exact ih (hs.step m.1 m.2)

end Site
end ServiceDiscovery
