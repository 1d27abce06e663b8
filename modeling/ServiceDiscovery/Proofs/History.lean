import ServiceDiscovery.Proofs.OwnRecord
import ServiceDiscovery.Proofs.Step

/-!
Histories of a session: how it begins and everything that happens to it afterwards. The provider
reports on a handle, and the report goes where it was told to reply when the handle was opened.
-/
namespace ServiceDiscovery

inductive Occurrence
  | request (r : Request) (answer : StartAnswer)
  | report (h : Handle) (r : Reply)
  | finish (raised : Bool)
  | waited (reported : List Int) (fault : Option Fault)
  | pumped (e : PumpEnd)

structure Deed where
  before : Loop
  faults : CloseFaults
  event : Occurrence
  move : Move

namespace Deed

def after (d : Deed) : Loop := (d.before.step d.faults d.move).1
def outputs (d : Deed) : List Output := (d.before.step d.faults d.move).2

def client? (d : Deed) : Option Client :=
  match d.event with
  | .request r _ => r.client?
  | _ => none

end Deed

def outputsOf (ds : List Deed) : List Output := ds.flatMap Deed.outputs

def returned (ds : List Deed) : List Handle := (openings (outputsOf ds)).map Opening.handle

def clients (ds : List Deed) : List Client := ds.filterMap Deed.client?

section
variable (a b : List Deed) (d : Deed)

@[simp] theorem outputsOf_nil : outputsOf [] = [] := rfl
@[simp] theorem outputsOf_append : outputsOf (a ++ b) = outputsOf a ++ outputsOf b :=
  List.flatMap_append
@[simp] theorem outputsOf_singleton : outputsOf [d] = d.outputs := by simp [outputsOf]
@[simp] theorem returned_append : returned (a ++ b) = returned a ++ returned b := by simp [returned]
@[simp] theorem clients_append : clients (a ++ b) = clients a ++ clients b := List.filterMap_append
@[simp] theorem clients_singleton : clients [d] = d.client?.toList := by
  cases h : d.client? <;> simp [clients, h]

theorem mem_returned_singleton {h : Handle} :
    h ∈ returned [d] ↔ ∃ o ∈ openings d.outputs, o.handle = h := by
  simp [returned]

end

def Reply.fits : Reply → ReplyTo → Bool
  | .browse .., .browse _ => true
  | .resolve .., .resolve _ => true
  | .register .., .register => true
  | _, _ => false

def StartAnswer.handle? : StartAnswer → Option Handle
  | .started h _ => some h
  | _ => none

/-- The move that comes of it, if it can happen after what was done. Requests come from client code
in control, each with a ticket of its own, and what the provider starts for one has a handle of its
own. Reports come on handles that were returned, in the kind that was asked for. -/
def Occurrence.move? (l : Loop) (past : List Deed) : Occurrence → Option Move
  | .request r answer =>
    if l.isIdle ∧ (∀ h ∈ answer.handle?, h ∉ returned past) ∧
        (∀ c ∈ r.client?, c.ticket ∉ (clients past).map Client.ticket) then some (.request r answer)
    else none
  | .report h r =>
    match (openings (outputsOf past)).find? (·.handle == h) with
    | some o =>
      if l.listens && r.fits o.request.replyTo then some (.reply o.request.replyTo r) else none
    | none => none
  | .finish raised => some (.finish raised)
  | .waited reported fault => some (.waited reported fault)
  | .pumped e => some (.pumped e)

def Loop.start (uuid : String) (codec : Txt.Codec) (ownsProvider : Bool) (records : Records) :
    Loop :=
  ⟨{ uuid, own := records.nextId, codec, ownsProvider }, records.add (.named uuid), []⟩

inductive History
  | start (uuid : String) (codec : Txt.Codec) (ownsProvider : Bool) (records : Records)
  | add (past : History) (faults : CloseFaults) (e : Occurrence)

namespace History

/-- The loop and what was done so far. What cannot happen leaves no trace. -/
def course : History → Loop × List Deed
  | start uuid codec ownsProvider records => (.start uuid codec ownsProvider records, [])
  | add past faults e =>
    let (l, ds) := past.course
    match e.move? l ds with
    | some m => ((⟨l, faults, e, m⟩ : Deed).after, ds ++ [⟨l, faults, e, m⟩])
    | none => (l, ds)

def loop (k : History) : Loop := k.course.1
def deeds (k : History) : List Deed := k.course.2

end History

theorem Deed.turn_of_opening {d : Deed} (hs : d.before.session.Sound) {o : Opening}
    (ho : o ∈ openings d.outputs) :
    ∃ t, Transition d.faults d.before.session d.before.records d.move t ∧
      Loop.Takes t (d.after, d.outputs) ∧ o ∈ openings t.outputs := by
  obtain hkeeps | ⟨t, he, ht⟩ := Loop.step_cases hs d.faults d.move
  · have hnone : openings d.outputs = [] := hkeeps.openings
    rw [hnone] at ho
    cases ho
  · have hsame : openings d.outputs = openings t.outputs := ht.openings
    exact ⟨t, he, ht, hsame ▸ ho⟩

theorem Deed.invocations_of_opening {d : Deed} (hs : d.before.session.Sound) {o : Opening}
    (ho : o ∈ openings d.outputs) : invocations d.outputs = [] := by
  obtain ⟨t, he, ht, ho⟩ := turn_of_opening hs ho
  have htold : invocations d.outputs = t.next.invocation?.toList := ht.invocations_eq he
  rw [htold, he.invocation?_of_opening ho, Option.toList_none]

def Deed.Follows (past : List Deed) (d : Deed) : Prop := d.event.move? d.before past = some d.move

namespace Deed.Follows
variable {past : List Deed} {d : Deed} {r : Request} {answer : StartAnswer}

theorem of_request (hd : d.Follows past) (he : d.event = .request r answer) :
    d.before.isIdle = true ∧ (∀ h ∈ answer.handle?, h ∉ returned past) ∧
      (∀ c ∈ r.client?, c.ticket ∉ (clients past).map Client.ticket) ∧
      d.move = .request r answer := by
  simp only [Follows, he, Occurrence.move?] at hd
  split at hd
  · rename_i hcan
    exact ⟨hcan.1, hcan.2.1, hcan.2.2, (Option.some.inj hd).symm⟩
  · cases hd

theorem eq_request (hd : d.Follows past) (he : d.event = .request r answer) :
    (d.after, d.outputs) = d.before.request d.faults r answer := by
  obtain ⟨hidle, -, -, hmove⟩ := hd.of_request he
  rw [Deed.after, Deed.outputs, hmove, Loop.step_request hidle]

theorem of_report (hd : d.Follows past) {h : Handle} {r : Reply} (he : d.event = .report h r) :
    ∃ o ∈ openings (outputsOf past), o.handle = h ∧ d.before.listens = true ∧
      r.fits o.request.replyTo = true ∧ d.move = .reply o.request.replyTo r := by
  simp only [Follows, he, Occurrence.move?] at hd
  split at hd
  · rename_i o ho
    split at hd
    · rename_i hcan
      obtain ⟨hlistens, hfits⟩ := Bool.and_eq_true_iff.mp hcan
      exact ⟨o, List.mem_of_find?_eq_some ho, by simpa using List.find?_some ho, hlistens, hfits,
        (Option.some.inj hd).symm⟩
    · cases hd
  · cases hd

theorem event_of_request (hd : d.Follows past) (hm : d.move = .request r answer) :
    d.event = .request r answer := by
  cases he : d.event with
  | request r' answer' =>
    obtain ⟨-, -, -, hmove⟩ := hd.of_request he
    obtain ⟨rfl, rfl⟩ := Move.request.inj (hm.symm.trans hmove)
    rfl
  | report h r' =>
    obtain ⟨o, -, -, -, -, hmove⟩ := hd.of_report he
    cases hm.symm.trans hmove
  | _ => simp [Follows, he, hm, Occurrence.move?] at hd

theorem event_of_waited (hd : d.Follows past) {reported : List Int} {fault : Option Fault}
    (hm : d.move = .waited reported fault) : d.event = .waited reported fault := by
  cases he : d.event with
  | request r' answer' =>
    obtain ⟨-, -, -, hmove⟩ := hd.of_request he
    cases hm.symm.trans hmove
  | report h r' =>
    obtain ⟨o, -, -, -, -, hmove⟩ := hd.of_report he
    cases hm.symm.trans hmove
  | waited reported' fault' =>
    simp only [Follows, he, hm, Occurrence.move?, Option.some.injEq, Move.waited.injEq] at hd
    obtain ⟨rfl, rfl⟩ := hd
    rfl
  | _ => simp [Follows, he, hm, Occurrence.move?] at hd

theorem client?_of_request (hd : d.Follows past) (hm : d.move = .request r answer) {c : Client}
    (hc : r.client? = some c) : d.client? = some c := by
  rw [Deed.client?, hd.event_of_request hm]
  exact hc

theorem fresh_handle (hd : d.Follows past) {h : Handle} {descriptor : Int}
    (he : d.event = .request r (.started h descriptor)) : h ∉ returned past := by
  obtain ⟨-, hfresh, -, -⟩ := hd.of_request he
  exact hfresh h rfl

theorem fresh_ticket (hd : d.Follows past) {c : Client} (hc : d.client? = some c) :
    c.ticket ∉ (clients past).map Client.ticket := by
  unfold Deed.client? at hc
  split at hc
  · rename_i r answer he
    obtain ⟨-, -, hfresh, -⟩ := hd.of_request he
    exact hfresh c hc
  · cases hc

theorem takes_report (hd : d.Follows past) {h : Handle} {r : Reply} (he : d.event = .report h r) :
    ∃ o ∈ openings (outputsOf past), o.handle = h ∧ r.fits o.request.replyTo = true ∧
      d.move = .reply o.request.replyTo r ∧
      Loop.Takes (d.before.session.onReply d.faults d.before.records o.request.replyTo r)
        (d.after, d.outputs) := by
  obtain ⟨o, ho, hhandle, hlistens, hfits, hmove⟩ := hd.of_report he
  refine ⟨o, ho, hhandle, hfits, hmove, ?_⟩
  rw [Deed.after, Deed.outputs, hmove]
  exact Loop.takes_reply hlistens _ r

theorem of_reply (hd : d.Follows past) {address : ReplyTo} {r : Reply}
    (hm : d.move = .reply address r) :
    ∃ o ∈ openings (outputsOf past), d.event = .report o.handle r ∧ o.request.replyTo = address ∧
      r.fits address = true := by
  cases he : d.event with
  | report h r' =>
    obtain ⟨o, ho, rfl, -, hfits, hmove⟩ := hd.of_report he
    obtain ⟨rfl, rfl⟩ := Move.reply.inj (hm.symm.trans hmove)
    exact ⟨o, ho, rfl, rfl, hfits⟩
  | request r' answer' =>
    obtain ⟨-, -, -, hmove⟩ := hd.of_request he
    cases hm.symm.trans hmove
  | _ => simp [Follows, he, hm, Occurrence.move?] at hd

theorem event_of_opening (hd : d.Follows past) (hs : d.before.session.Sound) {o : Opening}
    (ho : o ∈ openings d.outputs) : ∃ r, d.event = .request r (.started o.handle o.descriptor) := by
  obtain ⟨t, he, -, ho⟩ := turn_of_opening hs ho
  obtain ⟨r, hm⟩ := he.opened ho
  exact ⟨r, hd.event_of_request hm⟩

end Deed.Follows

def AtEach (P : List Deed → Deed → Prop) (ds : List Deed) : Prop :=
  ∀ past d rest, ds = past ++ d :: rest → P past d

theorem atEach_nil {P : List Deed → Deed → Prop} : AtEach P [] :=
  fun _ _ _ h => absurd h (by simp)

theorem atEach_concat {P : List Deed → Deed → Prop} {ds : List Deed} {d : Deed} :
    AtEach P (ds ++ [d]) ↔ AtEach P ds ∧ P ds d := by
  constructor
  · intro h
    exact ⟨fun past e rest hds => h past e (rest ++ [d]) (by simp [hds]), h ds d [] rfl⟩
  · rintro ⟨hds, hd⟩ past e rest h
    obtain rfl | ⟨rest, last, rfl⟩ := List.eq_nil_or_concat rest
    · obtain ⟨rfl, he⟩ := List.append_inj' h rfl
      exact List.singleton_inj.mp he ▸ hd
    · rw [List.concat_eq_append, ← List.cons_append, ← List.append_assoc] at h
      exact hds past e rest (List.append_inj' h rfl).1

theorem AtEach.of_append {P : List Deed → Deed → Prop} {a b : List Deed} (h : AtEach P (a ++ b)) :
    AtEach P a :=
  fun past d rest ha => h past d (rest ++ b) (by simp [ha])

def OnlySystemFaults : List Deed → Prop :=
  AtEach fun _ d => ∀ h f, d.faults.handle h = some f → ∃ e, f = .system e

def SilentOnceClosed : List Deed → Prop :=
  AtEach fun past d => ∀ h r, d.event = .report h r → h ∉ releases (outputsOf past)

theorem CloseFaults.escaping_eq_none {faults : CloseFaults}
    (hf : ∀ h f, faults.handle h = some f → ∃ e, f = .system e) (h : Handle) :
    faults.escaping h = none := by
  unfold escaping
  split
  · rfl
  · rename_i hother
    cases hfault : faults.handle h with
    | none => rfl
    | some f =>
      obtain ⟨e, rfl⟩ := hf h f hfault
      exact absurd hfault (hother e)

namespace History
open Session

theorem add_eq {k : History} {e : Occurrence} {m : Move} (faults : CloseFaults)
    (hm : e.move? k.loop k.deeds = some m) :
    (k.add faults e).deeds = k.deeds ++ [⟨k.loop, faults, e, m⟩] ∧
      (k.add faults e).loop = (⟨k.loop, faults, e, m⟩ : Deed).after := by
  have hm : e.move? k.course.1 k.course.2 = some m := hm
  constructor
  · simp only [deeds, loop, course, hm]
  · simp only [loop, course, hm]

theorem add_eq_self {k : History} {e : Occurrence} (faults : CloseFaults)
    (hm : e.move? k.loop k.deeds = none) :
    (k.add faults e).deeds = k.deeds ∧ (k.add faults e).loop = k.loop := by
  have hm : e.move? k.course.1 k.course.2 = none := hm
  simp only [deeds, loop, course, hm, and_self]

/-- What holds at the start and is kept by every deed holds of every history. -/
theorem induction {P : List Deed → Loop → Prop}
    (start : ∀ uuid codec ownsProvider records, P [] (.start uuid codec ownsProvider records))
    (deed : ∀ (k : History) d, d.before = k.loop → d.Follows k.deeds → P k.deeds k.loop →
      P (k.deeds ++ [d]) d.after)
    (k : History) : P k.deeds k.loop := by
  induction k with
  | start => exact start _ _ _ _
  | add past faults e ih =>
    cases hm : e.move? past.loop past.deeds with
    | none =>
      obtain ⟨hdeeds, hloop⟩ := add_eq_self faults hm
      rwa [hdeeds, hloop]
    | some m =>
      obtain ⟨hdeeds, hloop⟩ := add_eq faults hm
      rw [hdeeds, hloop]
      exact deed past ⟨past.loop, faults, e, m⟩ rfl hm ih

theorem exists_before {k : History} {past rest : List Deed} {d : Deed}
    (hk : k.deeds = past ++ d :: rest) :
    ∃ k' : History, k'.deeds = past ∧ k'.loop = d.before ∧ d.Follows past := by
  induction k generalizing rest with
  | start => simp [deeds, course] at hk
  | add before faults e ih =>
    cases hm : e.move? before.loop before.deeds with
    | none => exact ih ((add_eq_self faults hm).1 ▸ hk)
    | some m =>
      rw [(add_eq faults hm).1] at hk
      obtain rfl | ⟨rest, last, rfl⟩ := List.eq_nil_or_concat rest
      · obtain ⟨hpast, hd⟩ := List.append_inj' hk rfl
        obtain rfl := List.singleton_inj.mp hd
        exact ⟨before, hpast, rfl, hpast ▸ hm⟩
      · rw [List.concat_eq_append, ← List.cons_append, ← List.append_assoc] at hk
        exact ih (List.append_inj' hk rfl).1

theorem exists_at {k : History} {d : Deed} (hd : d ∈ k.deeds) :
    ∃ (k' : History) (rest : List Deed), k.deeds = k'.deeds ++ d :: rest ∧ k'.loop = d.before ∧
      d.Follows k'.deeds := by
  obtain ⟨past, rest, hk⟩ := List.append_of_mem hd
  obtain ⟨k', rfl, hloop, hfollows⟩ := exists_before hk
  exact ⟨k', rest, hk, hloop, hfollows⟩

theorem exists_after {k : History} {d : Deed} (hbefore : d.before = k.loop)
    (hd : d.Follows k.deeds) :
    ∃ k' : History, k'.deeds = k.deeds ++ [d] ∧ k'.loop = d.after := by
  obtain ⟨before, faults, event, move⟩ := d
  obtain rfl : before = k.loop := hbefore
  exact ⟨k.add faults event, add_eq faults hd⟩

theorem loop_eq_after {k : History} {past : List Deed} {d : Deed} (hk : k.deeds = past ++ [d]) :
    k.loop = d.after := by
  refine induction (P := fun ds l => ∀ past d, ds = past ++ [d] → l = d.after) ?_ ?_ k past d hk
  · exact fun _ _ _ _ past d h => absurd h (by simp)
  · rintro k d - - - past e h
    obtain ⟨-, he⟩ := List.append_inj' h rfl
    rw [List.singleton_inj.mp he]

theorem exists_of_append {k : History} {past rest : List Deed} (hk : k.deeds = past ++ rest) :
    ∃ k' : History, k'.deeds = past := by
  cases rest with
  | nil => exact ⟨k, by simpa using hk⟩
  | cons d rest =>
    obtain ⟨k', hpast, -, -⟩ := exists_before hk
    exact ⟨k', hpast⟩

theorem sound_ownApart (k : History) :
    k.loop.session.Sound ∧ k.loop.session.OwnApart k.loop.records := by
  refine induction (P := fun _ l => l.session.Sound ∧ l.session.OwnApart l.records) ?_ ?_ k
  · intro uuid codec ownsProvider records
    refine ⟨⟨fun _ => Multiplexer.inStep_empty, rfl, RequestTable.numbered_empty,
      RequestTable.numbered_empty⟩, ⟨?_, (fun q hq => nomatch hq), (fun q hq => nomatch hq),
      fun g hg => nomatch hg⟩⟩
    simp [Loop.start]
  · rintro k d hbefore - ⟨hs, ho⟩
    rw [← hbefore] at hs ho
    obtain hkeeps | ⟨t, he, ht⟩ := Loop.step_cases hs d.faults d.move
    · rw [Deed.after, hkeeps.session, hkeeps.records]
      exact ⟨hs, ho⟩
    · rw [Deed.after, ht.session, ht.records]
      exact ⟨he.sound hs, he.ownApart hs ho⟩

theorem sound (k : History) : k.loop.session.Sound := k.sound_ownApart.1

theorem ownApart (k : History) : k.loop.session.OwnApart k.loop.records := k.sound_ownApart.2

/-- What holds of new sessions, and is kept by every pass of control and by every turn, holds of
every history. -/
theorem invariant {P : List Deed → Session → Records → Prop}
    (start : ∀ uuid codec ownsProvider records,
      P [] (Loop.start uuid codec ownsProvider records).session
      (Loop.start uuid codec ownsProvider records).records)
    (pass : ∀ (k : History) d, d.before = k.loop → d.Follows k.deeds →
      (∀ h r, d.event ≠ .report h r) → P k.deeds k.loop.session k.loop.records →
      Loop.Keeps k.loop (d.after, d.outputs) → P (k.deeds ++ [d]) k.loop.session k.loop.records)
    (turn : ∀ (k : History) d t, d.before = k.loop → d.Follows k.deeds →
      P k.deeds k.loop.session k.loop.records →
      Transition d.faults k.loop.session k.loop.records d.move t →
      Loop.Takes t (d.after, d.outputs) → P (k.deeds ++ [d]) t.session t.records)
    (k : History) : P k.deeds k.loop.session k.loop.records := by
  refine induction (P := fun ds l => P ds l.session l.records) start ?_ k
  intro k d hbefore hd hP
  have taken (t : Turn) (he : Transition d.faults d.before.session d.before.records d.move t)
      (ht : Loop.Takes t (d.after, d.outputs)) :
      P (k.deeds ++ [d]) d.after.session d.after.records := by
    have hsession : d.after.session = t.session := ht.session
    have hrecords : d.after.records = t.records := ht.records
    rw [hsession, hrecords]
    exact turn k d t hbefore hd hP (hbefore ▸ he) ht
  by_cases hreport : ∃ h r, d.event = .report h r
  · obtain ⟨h, r, he⟩ := hreport
    obtain ⟨o, -, -, -, hmove, ht⟩ := hd.takes_report he
    exact taken _ (hmove ▸ Session.transition_reply _ _ _ _) ht
  · obtain hkeeps | ⟨t, he, ht⟩ := Loop.step_cases (hbefore ▸ k.sound) d.faults d.move
    · have hsession : d.after.session = d.before.session := hkeeps.session
      have hrecords : d.after.records = d.before.records := hkeeps.records
      rw [hsession, hrecords, hbefore]
      exact pass k d hbefore hd (fun h r he => hreport ⟨h, r, he⟩) hP (hbefore ▸ hkeeps)
    · exact taken t he ht

theorem atEach_start {P : List Deed → Deed → Prop} (uuid : String) (codec : Txt.Codec)
    (ownsProvider : Bool) (records : Records) :
    AtEach P (start uuid codec ownsProvider records).deeds :=
  atEach_nil

theorem atEach_add {P : List Deed → Deed → Prop} {k : History} {faults : CloseFaults}
    {e : Occurrence} (hk : AtEach P k.deeds)
    (he : ∀ m, Deed.Follows k.deeds ⟨k.loop, faults, e, m⟩ → P k.deeds ⟨k.loop, faults, e, m⟩) :
    AtEach P (k.add faults e).deeds := by
  cases hm : e.move? k.loop k.deeds with
  | none => rwa [(add_eq_self faults hm).1]
  | some m =>
    rw [(add_eq faults hm).1]
    exact atEach_concat.mpr ⟨hk, he m hm⟩

theorem onlySystemFaults_add {k : History} {e : Occurrence} (hk : OnlySystemFaults k.deeds) :
    OnlySystemFaults (k.add {} e).deeds :=
  atEach_add hk fun _ _ _ _ hf => nomatch hf

theorem deeds_le_add (k : History) (faults : CloseFaults) (e : Occurrence) :
    k.deeds <+: (k.add faults e).deeds := by
  cases hm : e.move? k.loop k.deeds with
  | none => exact (add_eq_self faults hm).1 ▸ List.prefix_refl _
  | some m => exact (add_eq faults hm).1 ▸ List.prefix_append _ _

def adds (k : History) (es : List Occurrence) : History := es.foldl (fun k e => k.add {} e) k

theorem deeds_le_adds (k : History) (es : List Occurrence) : k.deeds <+: (k.adds es).deeds := by
  induction es generalizing k with
  | nil => exact List.prefix_refl _
  | cons e es ih => exact (k.deeds_le_add {} e).trans (ih (k.add {} e))

theorem exists_deed (k : History) (faults : CloseFaults) (e : Occurrence)
    (he : (e.move? k.loop k.deeds).isSome) :
    ∃ d, (k.add faults e).deeds = k.deeds ++ [d] ∧ d.event = e ∧ d.before = k.loop := by
  obtain ⟨m, hm⟩ := Option.isSome_iff_exists.mp he
  exact ⟨⟨k.loop, faults, e, m⟩, (add_eq faults hm).1, rfl, rfl⟩

end History
end ServiceDiscovery
