import ServiceDiscovery.Proofs.Site
import ServiceDiscovery.Proofs.Tracking

/-!
What a browse comes to track of what its browser reports. Nothing that is reported is lost, but a
pump that begins while an outer one is under way overtakes what that one has left. Where no pump
overtakes another one, a browse ends up with the instances of which the last change said that they
were added.
-/
namespace ServiceDiscovery
open Multicast

theorem Reply.came?_congr {n name : String} {flags flags' interfaceIndex code : Int}
    {regtype domain : Option String} (h : announces flags' = announces flags) :
    (browse flags' interfaceIndex code name regtype domain).came? n =
      (browse flags interfaceIndex code name regtype domain).came? n := by
  simp only [came?, h]

theorem Reply.came?_withMoreComing (n : String) (r : Reply) :
    r.withMoreComing.came? n = r.came? n := by
  cases r with
  | browse flags interfaceIndex code name regtype domain =>
    exact came?_congr (announces_marked flags)
  | resolve | register => rfl

theorem Reply.isBrowse_withMoreComing (r : Reply) : r.withMoreComing.isBrowse = r.isBrowse := by
  cases r <;> rfl

def Delivery.left (h : Handle) (d : Delivery) : List Reply :=
  if d.handle = h then
    match d.rest with
    | .ok rest => rest
    | .error _ => []
  else []

def left (h : Handle) (ds : List Delivery) : List Reply := ds.flatMap (Delivery.left h)

def StateChange.came? (h : Handle) (type : ServiceType) (n : String) (c : StateChange) :
    Option Bool :=
  if c.handle = h ∧ instanceName c.name type.base = n then
    if c.kind = "Added" then some true else if c.kind = "Removed" then some false else none
  else none

def news (h : Handle) (type : ServiceType) (n : String) (cs : List StateChange) : List Bool :=
  cs.filterMap (StateChange.came? h type n)

/-- No two pumps of a handle have events of an instance left. -/
def Site.InTurn (site : Site) (h : Handle) (n : String) : Prop :=
  site.deliveries.countP (fun d => comings n (d.left h) != []) ≤ 1

instance (site : Site) (h : Handle) (n : String) : Decidable (site.InTurn h n) :=
  inferInstanceAs (Decidable (_ ≤ _))

section
variable {h : Handle} {n : String} {type : ServiceType} {d : Delivery} {ds : List Delivery}

theorem comings_left (h : Handle) (n : String) (ds : List Delivery) :
    comings n (left h ds) = ds.flatMap fun d => comings n (d.left h) := List.filterMap_flatMap ..

theorem left_cons (h : Handle) (d : Delivery) (ds : List Delivery) :
    left h (d :: ds) = d.left h ++ left h ds := rfl

theorem left_in_turn (hturn : (d :: ds).countP (fun d => comings n (d.left h) != []) ≤ 1) :
    comings n (d.left h) = [] ∨ comings n (left h ds) = [] := by
  by_cases hd : comings n (d.left h) = []
  · exact .inl hd
  · refine .inr ?_
    rw [List.countP_cons_of_pos (by simpa using hd)] at hturn
    have hnone : ds.countP (fun d => comings n (d.left h) != []) = 0 := by omega
    rw [comings_left, List.flatMap_eq_nil_iff]
    simpa using List.countP_eq_zero.mp hnone

theorem news_concat (h : Handle) (type : ServiceType) (n : String) (cs : List StateChange)
    (c : StateChange) :
    news h type n (cs ++ [c]) = news h type n cs ++ (c.came? h type n).toList := by
  cases hc : c.came? h type n <;> simp [news, hc]

end

/-- As long as an endpoint that browses is open, what was handed over, what pumps have left and what
is queued say of an instance what the changes said of it, and say it in order if `ordered`. -/
def Flowing (ordered : Prop) (h : Handle) (n : String) (e : Engine) (delivered left : List Reply)
    (changes : List StateChange) : Prop :=
  ∀ p type i b, e.endpoint? h = some p → p.purpose = .browse type i b → p.queue.closed = false →
    (comings n (delivered ++ left ++ p.queue.events)).Perm (news h type n changes) ∧
      (ordered → comings n (delivered ++ left ++ p.queue.events) = news h type n changes)

namespace Flowing
variable {ordered : Prop} {h h' : Handle} {n : String} {e e' : Engine}
  {delivered left' : List Reply} {changes : List StateChange} {p p' : Endpoint}

theorem released {hs : List Handle} (hf : Flowing ordered h n e delivered left' changes)
    (hr : Engine.Released hs e e') : Flowing ordered h n e' delivered left' changes :=
  fun p type i b hp hbrowse hopen => hf p type i b (hr.kept h p hp hopen) hbrowse hopen

theorem begin {ds : List Delivery} (hf : Flowing ordered h n e delivered (left h ds) changes)
    (he : e.Tidy) (begun : Option Handle)
    (hturn : ordered →
      ((e.begin begun.toList).1 ++ ds).countP (fun d => comings n (d.left h) != []) ≤ 1) :
    Flowing ordered h n (e.begin begun.toList).2 delivered (left h ((e.begin begun.toList).1 ++ ds))
      changes := by
  cases begun with
  | none => exact hf
  | some h' =>
    rw [Engine.begin_some] at hturn ⊢
    rw [List.singleton_append] at hturn ⊢
    have htaken := Engine.taken_take he h'
    intro p' type i b hp' hbrowse hopen
    by_cases hh : h' = h
    · subst hh
      obtain ⟨p, hp, hbatch, hnone⟩ := htaken.batch p' hp' hopen
      obtain ⟨q, hq, hpurpose, hopened⟩ :=
        htaken.grows.open_before (Engine.lt_of_endpoint? hp) hp' hopen
      obtain rfl := Option.some.inj (hp.symm.trans hq)
      have htook : Delivery.left h' ⟨h', (e.take h').1⟩ = p.queue.events := by
        simp only [Delivery.left, hbatch, if_true]
      obtain ⟨hperm, horder⟩ := hf p type i b hp (hpurpose.symm.trans hbrowse) hopened
      have hnow : comings n (delivered ++ left h' (⟨h', (e.take h').1⟩ :: ds) ++ p'.queue.events) =
          comings n delivered ++ (comings n p.queue.events ++ comings n (left h' ds)) := by
        rw [left_cons, htook, hnone, List.append_nil, comings_append, comings_append]
      have hbefore : comings n (delivered ++ left h' ds ++ p.queue.events) =
          comings n delivered ++ (comings n (left h' ds) ++ comings n p.queue.events) := by
        rw [comings_append, comings_append, List.append_assoc]
      rw [hbefore] at hperm horder
      rw [hnow]
      refine ⟨(List.perm_append_comm.append_left _).trans hperm, fun hordered => ?_⟩
      rw [← horder hordered]
      obtain hnothing | hnothing := left_in_turn (hturn hordered)
      · rw [htook] at hnothing
        rw [hnothing, List.append_nil, List.nil_append]
      · rw [hnothing, List.append_nil, List.nil_append]
    · have hother : Delivery.left h ⟨h', (e.take h').1⟩ = [] := if_neg hh
      rw [left_cons, hother, List.nil_append]
      exact hf p' type i b (htaken.kept h p' (Ne.symm hh) hp') hbrowse hopen

end Flowing

theorem StateChange.came?_eq (h : Handle) (type : ServiceType) (n : String) (c : StateChange) :
    c.came? h type n = if c.handle = h ∧ instanceName c.name type.base = n then
      (Endpoint.changeFlags? c.kind).map Reply.announces else none := by
  unfold came? Endpoint.changeFlags?
  split
  · split
    · rfl
    · split <;> rfl
  · rfl

theorem Multicast.Endpoint.comings_change {q : Endpoint} {type : ServiceType} {i : Int} {b : Nat}
    (hq : q.Tidy) (hpurpose : q.purpose = .browse type i b) (hopen : q.queue.closed = false)
    (room : Nat) (n : String) (c : StateChange) :
    comings n (q.change room c.kind c.name).2.1.queue.events =
      comings n q.queue.events ++ (c.came? c.handle type n).toList := by
  obtain ⟨-, ht, -⟩ := hq.browse type i b hpurpose
  rw [StateChange.came?_eq]
  cases hflags : Endpoint.changeFlags? c.kind with
  | none => simp [Endpoint.change, hpurpose, hflags]
  | some flags =>
    obtain ⟨unread, hpost⟩ := Endpoint.post_eq hq room
      (.browse flags i ErrorCode.noError (instanceName c.name type.base) (some type.reply)
        (some localDomain))
    rw [if_neg (by simp [hopen])] at hpost
    simp only [Endpoint.change, hpurpose, hflags, hpost, comings_append, comings_cons, true_and]
    by_cases hname : instanceName c.name type.base = n
    · rw [hname, Reply.came?_self, Option.bind_some, ht]
      cases hannounces : Reply.announces flags <;> simp [comings, hannounces]
    · simp [Reply.came?_of_ne hname, hname, comings]

namespace Site
variable {site : Site} {ordered : Prop} {h : Handle} {n : String} {engine : Engine}
  {deliveries : List Delivery} {faults : CloseFaults} {e : Occurrence}

def Flows (ordered : Prop) (site : Site) (h : Handle) (n : String) : Prop :=
  Flowing ordered h n site.engine (reports h site.history.deeds) (left h site.deliveries)
    site.changes

theorem Flows.occur (hf : site.Flows ordered h n) (htidy : engine.Tidy)
    (hpumping : deliveries.map Delivery.handle = site.history.loop.pumping)
    (hflow : Flowing ordered h n engine (reports h site.history.deeds ++ (e.report? h).toList)
      (left h deliveries) site.changes)
    (hend : ∀ m, e.move? site.history.loop site.history.deeds = some m →
      site.history.loop.MayEnd faults m → ∀ p type i b, engine.endpoint? h = some p →
      p.purpose = .browse type i b → p.queue.closed = false →
      ∀ x outer, deliveries = x :: outer → x.left h = [])
    (hturn : ordered → (site.occur faults e engine deliveries).InTurn h n) :
    (site.occur faults e engine deliveries).Flows ordered h n := by
  cases hm : e.move? site.history.loop site.history.deeds with
  | none => simpa only [Site.occur, hm] using hf
  | some m =>
    obtain ⟨begun, kept, -, -, hkept, hoccur⟩ := occur_eq faults engine hpumping hm
    have hreleased := Engine.released_releaseAll htidy
      (releases (⟨site.history.loop, faults, e, m⟩ : Deed).outputs)
    have hkept : Flowing ordered h n engine (reports h site.history.deeds ++ (e.report? h).toList)
        (left h kept) site.changes := by
      intro p type i b hp hbrowse hopen
      have hsame : left h kept = left h deliveries := by
        obtain rfl | ⟨hover, x, rfl⟩ := hkept
        · rfl
        · rw [left_cons, hend m hm hover p type i b hp hbrowse hopen x kept rfl, List.nil_append]
      rw [hsame]
      exact hflow p type i b hp hbrowse hopen
    rw [hoccur] at hturn ⊢
    have hdeeds := (site.history.add_eq faults hm).1
    rw [Flows, hdeeds, reports_concat]
    exact (hkept.released hreleased).begin hreleased.tidy begun hturn

theorem Flows.pass (hf : site.Flows ordered h n) (hs : site.Sound) (hr : ∀ r, e ≠ .report h r)
    (hend : ∀ m, e.move? site.history.loop site.history.deeds = some m →
      site.history.loop.MayEnd faults m → ∀ p type i b, site.engine.endpoint? h = some p →
      p.purpose = .browse type i b → p.queue.closed = false →
      ∀ x outer, site.deliveries = x :: outer → x.left h = [])
    (hturn : ordered → (site.occur faults e site.engine site.deliveries).InTurn h n) :
    (site.occur faults e site.engine site.deliveries).Flows ordered h n := by
  refine hf.occur hs.tidy hs.pumping ?_ hend hturn
  rw [Occurrence.report?_eq_none hr, Option.toList_none, List.append_nil]
  exact hf

theorem Flows.change (hf : site.Flows ordered h n) (hs : site.Sound) (room : Nat)
    (c : StateChange) :
    (site.step faults (.change room c)).Flows ordered h n := by
  simp only [Site.step]
  cases hq : site.engine.endpoint? c.handle with
  | none => exact hf
  | some q =>
    have hqueue := hs.tidy c.handle q hq
    have hevolves := Endpoint.evolves_change hqueue room c.kind c.name
    intro p' type i b hp' hbrowse hopen
    obtain ⟨hh, rfl⟩ | ⟨hh, hp'⟩ := Engine.endpoint?_of_modify hq hp'
    · have hpurpose : q.purpose = .browse type i b := hevolves.purpose.symm.trans hbrowse
      have hopened : q.queue.closed = false := hevolves.closed.symm.trans hopen
      obtain ⟨hperm, horder⟩ := hf q type i b (hh.symm ▸ hq) hpurpose hopened
      have hsaid := Endpoint.comings_change hqueue hpurpose hopened room n c
      rw [← hh] at hsaid
      simp only [comings_append, hsaid, news_concat, ← List.append_assoc] at hperm horder ⊢
      exact ⟨hperm.append_right _, fun hordered => by rw [horder hordered]⟩
    · have hnews : news h type n (site.changes ++ [c]) = news h type n site.changes := by
        simp [news_concat, StateChange.came?, Ne.symm hh]
      simp only [hnews]
      exact hf p' type i b hp' hbrowse hopen

theorem Flows.work (hf : site.Flows ordered h n) (hs : site.Sound) (net : Network) (h' : Handle) :
    (site.step faults (.work net h')).Flows ordered h n := by
  simp only [Site.step]
  cases hq : site.engine.endpoint? h' with
  | none => exact hf
  | some q =>
    have hqueue := hs.tidy h' q hq
    have hevolves := Endpoint.evolves_workStep hqueue net
    intro p' type i b hp' hbrowse hopen
    obtain ⟨rfl, rfl⟩ | ⟨-, hp'⟩ := Engine.endpoint?_of_modify hq hp'
    · have hpurpose : q.purpose = .browse type i b := hevolves.purpose.symm.trans hbrowse
      have hsame : (q.workStep net).2.1.queue = q.queue := by
        simp only [Endpoint.workStep, (hqueue.browse type i b hpurpose).1]
      rw [hsame] at hopen ⊢
      exact hf q type i b hq hpurpose hopen
    · exact hf p' type i b hp' hbrowse hopen

theorem Flows.request (hf : site.Flows ordered h n) (hs : site.Sound) (around : Surroundings)
    (r : Request) (hturn : ordered → (site.step faults (.request around r)).InTurn h n) :
    (site.step faults (.request around r)).Flows ordered h n := by
  have hasked := asked hs.tidy around r
  refine hf.occur hasked.tidy hs.pumping ?_ ?_ hturn
  · intro p type i b hp hbrowse hopen
    rw [Occurrence.report?_eq_none (by rintro _ ⟨⟩), Option.toList_none, List.append_nil]
    obtain hold | ⟨hnew, hqueue⟩ := hasked.endpoint? h p hp
    · exact hf p type i b hold hbrowse hopen
    · have hother (h' : Handle) (hlt : h' < site.engine.endpoints.length) : h' ≠ h :=
        hnew ▸ Nat.ne_of_lt hlt
      have hreports : reports h site.history.deeds = [] :=
        History.reports_of_unreturned fun hh => hother h (hs.known h hh) rfl
      have hleft : left h site.deliveries = [] :=
        List.flatMap_eq_nil_iff.mpr fun d hd => if_neg (hother _ (hs.deliveries d hd).known)
      have hnews : news h type n site.changes = [] :=
        List.filterMap_eq_nil_iff.mpr fun c hc => if_neg fun hh => hother _ (hs.changes c hc) hh.1
      rw [hreports, hleft, hqueue, hnews]
      exact ⟨.refl _, fun _ => rfl⟩
  · intro m hm hmay
    obtain ⟨-, -, -, hmove⟩ :=
      Deed.Follows.of_request (d := ⟨site.history.loop, faults, _, m⟩) hm rfl
    have hmove : m = _ := hmove
    rw [hmove] at hmay
    exact hmay.elim

/-- An event that is handed over by an open browse does not end its pump. -/
theorem notMayEnd_report {m : ServiceDiscovery.Move} {r : Reply} (hr : r.isBrowse = true)
    (hm : (Occurrence.report h r).move? site.history.loop site.history.deeds = some m) :
    ¬site.history.loop.MayEnd faults m := by
  obtain ⟨o, -, -, -, hfits, hmove⟩ :=
    Deed.Follows.of_report (d := ⟨site.history.loop, faults, .report h r, m⟩) hm rfl
  have hmove : m = .reply o.request.replyTo r := hmove
  rw [hmove]
  rintro ⟨f, hf⟩
  cases r with
  | resolve | register => cases hr
  | browse flags interfaceIndex code name regtype domain =>
    cases haddress : o.request.replyTo with
    | resolve | register =>
      rw [haddress] at hfits
      cases hfits
    | browse id =>
      rw [haddress] at hf
      have hok :=
        Session.onBrowseReply_ok site.history.loop.session site.history.loop.records id flags
        interfaceIndex code name regtype domain
      cases hok.symm.trans hf

/-- The innermost pump hands over its next event, which is then no longer among those that are
left. -/
theorem Flows.report {d : Delivery} {outer : List Delivery} {r marked : Reply} {rest : List Reply}
    (hf : site.Flows ordered h n) (hs : site.Sound) (hdeliveries : site.deliveries = d :: outer)
    (hrest : d.rest = .ok (r :: rest)) (hsame : marked.came? n = r.came? n)
    (hkind : marked.isBrowse = r.isBrowse)
    (hturn : ordered →
      (site.occur faults (.report d.handle marked) site.engine ({ d with rest := .ok rest } ::
      outer)).InTurn h n) :
    (site.occur faults (.report d.handle marked) site.engine
      ({ d with rest := .ok rest } :: outer)).Flows ordered h n := by
  have hpumping : (⟨d.handle, .ok rest⟩ :: outer).map Delivery.handle =
      site.history.loop.pumping := by
    rw [← hs.pumping, hdeliveries]
    rfl
  refine hf.occur hs.tidy hpumping ?_ ?_ hturn
  · intro p type i b hp hbrowse hopen
    have hmoved : comings n (reports h site.history.deeds ++
          ((Occurrence.report d.handle marked).report? h).toList ++
          left h ({ d with rest := .ok rest } :: outer) ++ p.queue.events) =
        comings n (reports h site.history.deeds ++ left h site.deliveries ++ p.queue.events) := by
      rw [hdeliveries]
      by_cases hh : d.handle = h
      · simp [left_cons, Delivery.left, hrest, hh, Occurrence.report?, comings_append,
          comings_cons, hsame]
      · simp [left_cons, Delivery.left, hh, Occurrence.report?]
    rw [hmoved]
    exact hf p type i b hp hbrowse hopen
  · intro m hm hmay p type i b hp hbrowse hopen x outer' hx
    obtain ⟨rfl, rfl⟩ := List.cons.inj hx
    by_cases hh : d.handle = h
    · have hd := hs.deliveries d (by simp [hdeliveries])
      obtain ⟨batch, hbatch, hall⟩ := hd.browse p type i b (hh ▸ hp) hbrowse hopen
      obtain rfl := Except.ok.inj (hrest.symm.trans hbatch)
      exact absurd hmay (notMayEnd_report (hkind.trans (hall r List.mem_cons_self)) hm)
    · exact if_neg hh

theorem Flows.next (hf : site.Flows ordered h n) (hs : site.Sound)
    (hturn : ordered → (site.next faults).InTurn h n) : (site.next faults).Flows ordered h n := by
  unfold Site.next at hturn ⊢
  split at hturn
  · rename_i d outer _ hdeliveries
    have hd := hs.deliveries d (by simp [hdeliveries])
    split at hturn
    · rename_i refusal hrest
      refine hf.pass hs (by rintro _ ⟨⟩) (fun m _ _ p type i b hp hbrowse hopen x outer' hx => ?_)
        hturn
      obtain ⟨rfl, -⟩ := List.cons.inj (hdeliveries.symm.trans hx)
      refine if_neg fun hh => ?_
      obtain ⟨rest, hok, -⟩ := hd.browse p type i b (hh ▸ hp) hbrowse hopen
      cases hrest.symm.trans hok
    · rename_i batch hrest
      split at hturn
      · rename_i hnext
        refine hf.pass hs (by rintro _ ⟨⟩) (fun m _ _ p type i b hp hbrowse hopen x outer' hx => ?_)
          hturn
        obtain ⟨rfl, -⟩ := List.cons.inj (hdeliveries.symm.trans hx)
        by_cases hh : d.handle = h
        · subst hh
          cases batch with
          | nil => simp only [Delivery.left, hrest, if_true]
          | cons r rest =>
            have hisOpen : site.engine.isClosed d.handle = false := by
              simp [Engine.isClosed, hp, hopen]
            simp [Engine.nextReply, hisOpen] at hnext
        · exact if_neg hh
      · rename_i marked rest hnext
        obtain ⟨-, r, _, rfl, heq⟩ := Engine.exists_of_nextReply hnext
        obtain ⟨hmarked, rfl⟩ := Prod.mk.inj heq
        obtain ⟨hsame, hkind⟩ : marked.came? n = r.came? n ∧ marked.isBrowse = r.isBrowse := by
          rw [hmarked]
          split
          · exact ⟨rfl, rfl⟩
          · exact ⟨Reply.came?_withMoreComing n r, Reply.isBrowse_withMoreComing r⟩
        exact hf.report hs hdeliveries hrest hsame hkind hturn
  · exact hf

theorem Flows.step (hf : site.Flows ordered h n) (hs : site.Sound) (m : Move)
    (hturn : ordered → (site.step faults m).InTurn h n) :
    (site.step faults m).Flows ordered h n := by
  cases m with
  | request around r => exact hf.request hs around r hturn
  | finish raised =>
    refine hf.pass hs (e := .finish raised) (by rintro _ ⟨⟩) (fun m hm hmay => ?_) hturn
    obtain rfl : _ = m := Option.some.inj hm
    exact hmay.elim
  | waited reported fault =>
    refine hf.pass hs (e := .waited reported fault) (by rintro _ ⟨⟩) (fun m hm hmay => ?_) hturn
    obtain rfl : _ = m := Option.some.inj hm
    exact hmay.elim
  | next => exact hf.next hs hturn
  | work net h' => exact hf.work hs net h'
  | change room c => exact hf.change hs room c

theorem Flows.run (hf : site.Flows ordered h n) (hs : site.Sound)
    (moves : List (CloseFaults × Move))
    (hturn : ordered → ∀ ms, ms <+: moves → (site.run ms).InTurn h n) :
    (site.run moves).Flows ordered h n := by
  induction moves generalizing site with
  | nil => exact hf
  | cons m moves ih =>
    refine ih (hf.step hs m.2 fun hordered => ?_) (hs.step m.1 m.2) fun hordered ms hms => ?_
    · exact hturn hordered [m] ⟨moves, rfl⟩
    · exact hturn hordered (m :: ms) (List.cons_prefix_cons.mpr ⟨rfl, hms⟩)

theorem Sound.browse_endpoint (hs : site.Sound) {q : BrowseRequest}
    (hq : q ∈ site.history.loop.session.registry.browses.values) :
    ∃ p type i b, site.engine.endpoint? q.handle = some p ∧ p.purpose = .browse type i b ∧
      p.queue.closed = false := by
  obtain ⟨d, hd, o, ho, -, hhandle, haddress⟩ := site.history.origins.browse q hq
  have ho := History.mem_openings hd ho
  obtain ⟨p, hp⟩ : ∃ p, site.engine.endpoint? o.handle = some p :=
    ⟨_, List.getElem?_eq_getElem (hs.lt_of_opening ho)⟩
  obtain ⟨⟨type, i, b, hbrowse⟩, hreleased⟩ := hs.browsing o ho q.id haddress p hp
  have hheld : q.handle ∈ site.history.loop.session.held := by
    simp only [Session.held, List.mem_append, List.mem_map]
    exact .inl (.inl ⟨q, hq, rfl⟩)
  have hunreleased := site.history.ledger.unreleased q.handle hheld
  refine ⟨p, type, i, b, hhandle ▸ hp, hbrowse, Bool.eq_false_iff.mpr fun hclosed => ?_⟩
  exact hunreleased (hhandle ▸ hreleased hclosed)

/-- Once client code is in control again and nothing is queued for a browse, it tracks the instances
of which the last event handed to it said that they came. What it was handed says of every instance
all that the changes said of it, each of them once. If no pump began while an outer one had events
of the instance left, the browse tracks it exactly if the last change said that it was added. -/
theorem browse_converges (uuid : String) (codec : Txt.Codec) (ownsProvider : Bool)
    (records : Records) (settings : Settings.ProviderSettings) (ownsNetwork : Bool)
    (moves : List (CloseFaults × Move)) :
    let begun := start uuid codec ownsProvider records settings ownsNetwork
    let site := begun.run moves
    site.history.loop.stack = [] → ∀ q ∈ site.history.loop.session.registry.browses.values,
      ∃ p type i b, site.engine.endpoint? q.handle = some p ∧ p.purpose = .browse type i b ∧
        (p.queue.events = [] → ∀ n, n ≠ site.history.loop.session.uuid →
          (q.tracks n = true ↔
            (comings n (reports q.handle site.history.deeds)).getLast? = some true) ∧
          (comings n (reports q.handle site.history.deeds)).Perm
            (news q.handle type n site.changes) ∧
          ((∀ ms, ms <+: moves → (begun.run ms).InTurn q.handle n) →
            (q.tracks n = true ↔ (news q.handle type n site.changes).getLast? = some true))) := by
  intro begun site hstack q hq
  have hstart : begun.Sound := sound_start uuid codec ownsProvider records settings ownsNetwork
  have hs : site.Sound := hstart.run moves
  obtain ⟨p, type, i, b, hp, hbrowse, hopen⟩ := hs.browse_endpoint hq
  refine ⟨p, type, i, b, hp, hbrowse, fun hnone n hn => ?_⟩
  have hover : site.deliveries = [] := by
    have hpumping := hs.pumping
    rw [Loop.pumping, hstack] at hpumping
    exact List.map_eq_nil_iff.mp hpumping
  have hflows : site.Flows (∀ ms, ms <+: moves → (begun.run ms).InTurn q.handle n) q.handle n :=
    Flows.run (fun _ _ _ _ hp => by simp [begun, start, Engine.endpoint?] at hp) hstart moves id
  obtain ⟨hperm, horder⟩ := hflows p type i b hp hbrowse hopen
  rw [hover, hnone] at hperm horder
  simp only [left, List.flatMap_nil, List.append_nil] at hperm horder
  have htracks : q.tracks n = true ↔
      (comings n (reports q.handle site.history.deeds)).getLast? = some true := by
    rw [site.history.tracks_eq hs.silent q hq n hn]
    cases (comings n (reports q.handle site.history.deeds)).getLast? <;> simp
  exact ⟨htracks, hperm, fun hturn => horder hturn ▸ htracks⟩

def asking (r : Request) : Move := .request { host := ⟨"host", .ok []⟩ } r

def reporting (kind name : String) : Move := .change 1 ⟨0, kind, name⟩

def running : List Move := [asking (.run 5), .waited [3] none, .next]

def faultless (moves : List Move) : List (CloseFaults × Move) := moves.map fun m => ({}, m)

def after (moves : List Move) : Site := (start "B" {} false {} {} false).run (faultless moves)

theorem after_eq (moves : List Move) :
    (start "B" {} false {} {} false).run (faultless moves) = after moves := rfl

def nested : List Move :=
  [asking (.browse {} { ticket := 1 }), reporting "Added" "X._ndn._udp.local."] ++ running ++
    [reporting "Removed" "X._ndn._udp.local."] ++ running ++
      [.finish false, .next, .finish false, .next]

def overtaken : List Move :=
  [asking (.browse {} { ticket := 1 }), reporting "Added" "X._ndn._udp.local.",
    reporting "Added" "Y._ndn._udp.local."] ++ running ++
    [reporting "Removed" "Y._ndn._udp.local."] ++ running ++
      [.next, .finish false, .next, .finish false, .next]

theorem nested_in_turn :
    ∀ ms, ms <+: faultless nested → ((start "B" {} false {} {} false).run ms).InTurn 0 "X" := by
  have hall : ∀ k ≤ (faultless nested).length,
      ((start "B" {} false {} {} false).run ((faultless nested).take k)).InTurn 0 "X" := by
        decide +kernel
  intro ms hms
  rw [List.prefix_iff_eq_take.mp hms]
  exact hall ms.length hms.length_le

theorem browse_converges_nested :
    ∃ q ∈ (after nested).history.loop.session.registry.browses.values,
      (comings "X" (reports q.handle (after nested).history.deeds)).Perm [true, false] ∧
      q.tracks "X" = false := by
  have hstack : (after nested).history.loop.stack = [] := List.isEmpty_iff.mp (by decide +kernel)
  have hhandles : (after nested).history.loop.session.registry.browses.values.map (·.handle) =
      [0] := by
    decide +kernel
  obtain ⟨q, hq, hhandle⟩ := List.mem_map.mp (hhandles ▸ List.mem_singleton_self (0 : Handle))
  have hall := browse_converges "B" {} false {} {} false (faultless nested)
  simp only [after_eq] at hall
  obtain ⟨p, type, i, b, hp, hbrowse, hconverges⟩ := hall hstack q hq
  have hendpoint : ((after nested).engine.endpoint? 0).map (fun p => (p.purpose, p.queue.events)) =
      some (.browse (serviceType .udp "") 0 1, []) := by decide +kernel
  have hnews : news 0 (serviceType .udp "") "X" (after nested).changes = [true, false] := by
    decide +kernel
  rw [hhandle] at hp hconverges
  obtain ⟨p', hp', hshown⟩ := Option.map_eq_some_iff.mp hendpoint
  obtain rfl := Option.some.inj (hp.symm.trans hp')
  obtain ⟨hpurpose, hnone⟩ := Prod.mk.inj hshown
  obtain ⟨rfl, -, -⟩ := Purpose.browse.inj (hbrowse.symm.trans hpurpose)
  obtain ⟨-, hperm, hlast⟩ := hconverges hnone "X" (by decide +kernel)
  have htracks := hlast nested_in_turn
  rw [hnews] at hperm htracks
  rw [← hhandle] at hperm
  exact ⟨q, hq, hperm, by simpa using htracks⟩

/-- A pump that overtakes another one leaves the browse with an instance of which the last change
said that it was removed. -/
theorem not_browse_converges_overtaken :
    ¬∀ (uuid : String) (codec : Txt.Codec) (ownsProvider : Bool) (records : Records)
      (settings : Settings.ProviderSettings) (ownsNetwork : Bool)
      (moves : List (CloseFaults × Move)),
      let site := (start uuid codec ownsProvider records settings ownsNetwork).run moves
      site.history.loop.stack = [] → ∀ q ∈ site.history.loop.session.registry.browses.values,
        ∀ p type i b, site.engine.endpoint? q.handle = some p → p.purpose = .browse type i b →
          p.queue.events = [] → ∀ n, n ≠ site.history.loop.session.uuid →
            (q.tracks n = true ↔ (news q.handle type n site.changes).getLast? = some true) := by
  intro hall
  have hstack : (after overtaken).history.loop.stack = [] := List.isEmpty_iff.mp (by decide +kernel)
  have hbrowses : (after overtaken).history.loop.session.registry.browses.values.map
      (fun q => (q.handle, q.tracks "Y")) = [(0, true)] := by decide +kernel
  obtain ⟨q, hq, hshown⟩ := List.mem_map.mp (hbrowses ▸ List.mem_singleton_self (0, true))
  obtain ⟨hhandle, htracks⟩ := Prod.mk.inj hshown
  have hendpoint : ((after overtaken).engine.endpoint? 0).map
      (fun p => (p.purpose, p.queue.events)) =
      some (.browse (serviceType .udp "") 0 1, []) := by decide +kernel
  obtain ⟨p, hp, hshown⟩ := Option.map_eq_some_iff.mp hendpoint
  obtain ⟨hbrowse, hnone⟩ := Prod.mk.inj hshown
  have hnews : news 0 (serviceType .udp "") "Y" (after overtaken).changes = [true, false] := by
    decide +kernel
  have hlast := hall "B" {} false {} {} false (faultless overtaken)
  simp only [after_eq] at hlast
  have hlast := hlast hstack q hq p _ _ _ (hhandle ▸ hp) hbrowse hnone "Y" (by decide +kernel)
  rw [hhandle, hnews] at hlast
  cases hlast.mp htracks

end Site
end ServiceDiscovery
