import Mathlib.Data.List.Induction
import ServiceDiscovery.Proofs.Balance
import ServiceDiscovery.Proofs.Calls
import ServiceDiscovery.Proofs.Closing

/-!
The numbers of requests. In each of the two kinds a new number is above those in use, whatever was
cancelled, answered or started since they were given out, so requests stand in the order in which
they were started.
-/
namespace ServiceDiscovery

inductive Kind
  | browses | resolves

structure Live where
  id : Int
  handle : Handle
  client : Client

def Kind.address : Kind → Int → ReplyTo
  | browses, id => .browse id
  | resolves, id => .resolve id

def Kind.outcome : Kind → Int → Outcome
  | browses, id => .ok (some id)
  | resolves, _ => .ok none

def Notification.announced? : Notification → Option Int
  | .added id _ => some id
  | .removed id _ => some id
  | _ => none

def BrowseRequest.live (q : BrowseRequest) : Live := ⟨q.id, q.handle, q.client⟩
def ResolveRequest.live (q : ResolveRequest) : Live := ⟨q.id, q.handle, q.client⟩

namespace RequestTable
variable {α : Type} {idOf : α → Int} {t : RequestTable α}

theorem Numbered.map_values (h : t.Numbered idOf) : t.values.map idOf = t.ids := by
  rw [values, ids, List.map_map]
  exact List.map_congr_left h.own

theorem nextId_pos (h : ∀ i ∈ t.ids, 0 < i) : 0 < t.nextId := by
  unfold nextId
  split
  · rename_i e he
    have hpos := h e.1 (List.mem_map_of_mem (List.mem_of_getLast? he))
    omega
  · omega

structure Counts (next : Int) (qs : List Live) : Prop where
  ascending : qs.Pairwise (·.id < ·.id)
  lt_next : ∀ q ∈ qs, q.id < next
  next_pos : (∀ q ∈ qs, 0 < q.id) → 0 < next

theorem Numbered.counts (h : t.Numbered idOf) (view : α → Live)
    (hview : ∀ a, (view a).id = idOf a) :
    Counts t.nextId (t.values.map view) := by
  have hids : (t.values.map view).map (·.id) = t.ids := by
    rw [List.map_map, ← h.map_values]
    exact List.map_congr_left fun a _ => hview a
  have hmem {q : Live} (hq : q ∈ t.values.map view) : q.id ∈ t.ids := hids ▸ List.mem_map_of_mem hq
  refine ⟨List.pairwise_map.mp (hids ▸ h.ascending), fun q hq => lt_nextId h.ascending (hmem hq),
    fun hpos => ?_⟩
  refine nextId_pos fun i hi => ?_
  rw [← hids] at hi
  obtain ⟨q, hq, rfl⟩ := List.mem_map.mp hi
  exact hpos q hq

theorem values_erase_sublist (t : RequestTable α) (id : Int) :
    (t.erase id).values.Sublist t.values :=
  List.filter_sublist.map _

theorem map_modify_sublist {β : Type} (f : α → α) (g : α → β) (hf : ∀ a, g (f a) = g a) (id : Int) :
    ((t.modify id f).values.map g).Sublist (t.values.map g) := by
  rw [values_modify f g hf]

end RequestTable

namespace Session
variable {s : Session}

def live (s : Session) : Kind → List Live
  | .browses => s.registry.browses.values.map BrowseRequest.live
  | .resolves => s.registry.resolves.values.map ResolveRequest.live

def nextId (s : Session) : Kind → Int
  | .browses => s.registry.browses.nextId
  | .resolves => s.registry.resolves.nextId

theorem Sound.counts (hs : s.Sound) (kind : Kind) :
    RequestTable.Counts (s.nextId kind) (s.live kind) := by
  cases kind with
  | browses => exact hs.browses.counts BrowseRequest.live fun _ => rfl
  | resolves => exact hs.resolves.counts ResolveRequest.live fun _ => rfl

end Session

/-! ### Steps -/

namespace Loop
variable {l : Loop} {kind : Kind} {m : Move} {q : Live} {r : Request} {asked : StartRequest}
  {id : Int}

inductive Asks (l : Loop) : Kind → Request → Int → Prop
  | browse {k c id} (hopen : l.session.closed = false) (hid : id = l.session.nextId .browses) :
      Asks l .browses (.browse k c) id
  | resolve {target c b id} (hopen : l.session.closed = false)
      (hb : l.session.tracker? l.records target = some b)
      (hid : id = l.session.nextId .resolves) : Asks l .resolves (.resolve target c) id

theorem asks_of_startRequest? (h : l.startRequest? r = some asked)
    (haddress : asked.replyTo = kind.address id) : l.Asks kind r id := by
  cases r with
  | announce a c =>
    simp only [startRequest?] at h
    split at h
    · cases h
    split at h
    · obtain rfl := Option.some.inj h
      cases kind <;> cases haddress
    · cases h
  | browse k c =>
    simp only [startRequest?] at h
    split at h
    · cases h
    · rename_i hopen
      obtain rfl := Option.some.inj h
      cases kind with
      | browses => exact .browse (by simpa using hopen) (ReplyTo.browse.inj haddress).symm
      | resolves => cases haddress
  | resolve target c =>
    simp only [startRequest?] at h
    split at h
    · cases h
    · rename_i hopen
      obtain ⟨b, hb, rfl⟩ := Option.map_eq_some_iff.mp h
      cases kind with
      | browses => cases haddress
      | resolves => exact .resolve (by simpa using hopen) hb (ReplyTo.resolve.inj haddress).symm
  | _ => cases h

theorem Asks.id_eq (h : l.Asks kind r id) : id = l.session.nextId kind := by
  cases h <;> assumption

structure Begins (kind : Kind) (l : Loop) (m : Move) (q : Live) : Prop where
  idle : l.isIdle = true
  call : ∃ r asked d, m = .request r (.started q.handle d) ∧ r.client? = some q.client ∧
    l.startRequest? r = some asked ∧ asked.replyTo = kind.address q.id

theorem Begins.id_eq (h : l.Begins kind m q) : q.id = l.session.nextId kind := by
  obtain ⟨-, _, _, _, -, -, hasked, haddress⟩ := h
  exact (asks_of_startRequest? hasked haddress).id_eq

theorem Begins.step (h : l.Begins kind m q) (hs : l.session.Sound) (faults : CloseFaults) :
    (l.step faults m).1.session.live kind = l.session.live kind ++ [q] ∧
    (l.step faults m).1.session.closed = false ∧
    outcomes (l.step faults m).2 = [kind.outcome q.id] := by
  obtain ⟨hidle, r, asked, d, rfl, hclient, hasked, haddress⟩ := h
  obtain ⟨id, handle, client⟩ := q
  rw [step_request hidle]
  cases asks_of_startRequest? hasked haddress with
  | @browse k c _ hopen hid =>
    obtain rfl := Option.some.inj hclient
    obtain ⟨os, hturn, -⟩ := Session.browse_started l.records hs hopen k c handle d
    have hplain := (Session.plain_browse l.session l.records k c (.started handle d)).outcomes
    rw [hturn] at hplain
    rw [request, hturn, settle_done hidle, outcomes_append, hplain]
    obtain rfl : id = l.session.registry.browses.nextId := hid
    exact ⟨by simp [Session.live, hs.browses.values_insert, BrowseRequest.live], hopen, rfl⟩
  | @resolve target c b _ hopen hb hid =>
    obtain rfl := Option.some.inj hclient
    obtain ⟨os, hturn, -⟩ := Session.resolve_started hs hopen hb c handle d
    have hplain := (Session.plain_resolve l.session l.records target c (.started handle d)).outcomes
    rw [hturn] at hplain
    rw [request, hturn, settle_done hidle, outcomes_append, hplain]
    obtain rfl : id = l.session.registry.resolves.nextId := hid
    exact ⟨by simp [Session.live, hs.resolves.values_insert, ResolveRequest.live], hopen, rfl⟩

theorem begins_browse (hidle : l.isIdle = true) (hopen : l.session.closed = false) (k : Constraints)
    (c : Client) (h : Handle) (d : Int) :
    l.Begins .browses (.request (.browse k c) (.started h d))
      ⟨l.session.nextId .browses, h, c⟩ := by
  have hasked : l.startRequest? (.browse k c) = some (l.session.browseRequest k) := by
    simp [startRequest?, hopen]
  exact ⟨hidle, _, _, d, rfl, rfl, hasked, rfl⟩

theorem begins_resolve (hidle : l.isIdle = true) (hopen : l.session.closed = false)
    {target : RecordId} {b : BrowseRequest} (hb : l.session.tracker? l.records target = some b)
    (c : Client) (h : Handle) (d : Int) :
    l.Begins .resolves (.request (.resolve target c) (.started h d))
      ⟨l.session.nextId .resolves, h, c⟩ := by
  have hasked : l.startRequest? (.resolve target c) =
      some (l.session.resolveRequest l.records target) := by
    simp [startRequest?, hopen, hb]
  exact ⟨hidle, _, _, d, rfl, rfl, hasked, rfl⟩

end Loop

namespace Transition
variable {faults : CloseFaults} {l : Loop} {m : Move} {t : Turn}

/-- What a turn does to the requests of a kind: it takes some off the list, or it begins one. -/
theorem live (he : Transition faults l.session l.records m t)
    (hidle : ∀ r answer, m = .request r answer → l.isIdle = true) (kind : Kind) :
    (t.session.live kind).Sublist (l.session.live kind) ∨ ∃ q, l.Begins kind m q := by
  cases he with
  | idle | refused | announced | orphaned | confirmed | lost | lostFaulty | browseFailed =>
    exact .inl (by cases kind <;> exact .refl _)
  | @browsing k c h d os hopen =>
    cases kind with
    | browses => exact .inr ⟨_, Loop.begins_browse (hidle _ _ rfl) hopen k c h d⟩
    | resolves => exact .inl (.refl _)
  | appeared | vanished =>
    refine .inl ?_
    cases kind with
    | browses => exact RequestTable.map_modify_sublist _ _ (by exact fun _ => rfl) _
    | resolves => exact .refl _
  | cancelled =>
    refine .inl ?_
    cases kind with
    | browses => exact (RequestTable.values_erase_sublist _ _).map _
    | resolves => exact .refl _
  | @resolving b target c h d os hopen hb =>
    cases kind with
    | browses => exact .inl (.refl _)
    | resolves => exact .inr ⟨_, Loop.begins_resolve (hidle _ _ rfl) hopen hb c h d⟩
  | answered | answeredFaulty =>
    refine .inl ?_
    cases kind with
    | browses => exact .refl _
    | resolves => exact (RequestTable.values_erase_sublist _ _).map _
  | closed => exact .inl (by cases kind <;> exact List.nil_sublist _)

/-- A turn that closes the session leaves no request. -/
theorem live_of_closes {s : Session} {rs : Records} (he : Transition faults s rs m t)
    (hopen : s.closed = false) (hclosed : t.session.closed = true) (kind : Kind) :
    t.session.live kind = [] := by
  cases he with
  | closed => cases kind <;> rfl
  | _ => exact absurd (hopen.symm.trans hclosed) Bool.false_ne_true

theorem announced_live {s : Session} {rs : Records} (he : Transition faults s rs m t)
    {i : Invocation} {id : Int} (hi : t.next.invocation? = some i)
    (hwhat : i.what.announced? = some id) :
    ∃ q ∈ s.live .browses, q.id = id ∧ q.client = i.client := by
  have hlive {q : BrowseRequest} {id : Int} (hq : s.registry.browses.get? id = some q) :
      q.live ∈ s.live .browses :=
    List.mem_map_of_mem (RequestTable.mem_values_of_get? hq)
  cases he with
  | idle | announced | orphaned | lostFaulty | browsing | cancelled | resolving | answeredFaulty
    | closed => cases hi
  | refused | confirmed | browseFailed =>
    obtain rfl := Next.eq_of_invocation?_tell hi
    cases hwhat
  | @lost g =>
    by_cases hsettled : g.settled = true
    · simp only [hsettled, if_true] at hi
      cases hi
    · simp only [hsettled] at hi
      obtain rfl := Next.eq_of_invocation?_tell hi
      cases hwhat
  | appeared hq | vanished hq =>
    obtain rfl := Next.eq_of_invocation?_tell hi
    exact ⟨_, hlive hq, Option.some.inj hwhat, rfl⟩
  | @answered q _ _ _ code fullname hostTarget port txt =>
    obtain rfl := Next.eq_of_invocation?_tell hi
    obtain ⟨_, _, _, htold⟩ | htold :=
      Session.settlement_cases rs q code fullname hostTarget port txt <;>
      · rw [htold] at hwhat
        cases hwhat

end Transition

structure Session.Counted (s : Session) : Prop where
  sound : s.Sound
  positive : ∀ kind, ∀ q ∈ s.live kind, 0 < q.id
  closed : s.closed = true → ∀ kind, s.live kind = []

namespace Loop
variable {l : Loop} {kind : Kind} {q q' : Live}

theorem step_live (hs : l.session.Sound) (faults : CloseFaults) (m : Move) (kind : Kind) :
    ((l.step faults m).1.session.live kind).Sublist (l.session.live kind) ∨
    ∃ q, l.Begins kind m q := by
  by_cases hidle : ∀ r answer, m = .request r answer → l.isIdle = true
  · obtain hkeeps | ⟨t, he, ht⟩ := step_cases hs faults m
    · rw [hkeeps.session]
      exact .inl (.refl _)
    · rw [ht.session]
      exact he.live hidle kind
  · obtain ⟨r, answer, rfl, hbusy⟩ : ∃ r answer, m = .request r answer ∧ ¬l.isIdle = true := by
      simpa using hidle
    simp only [step, hbusy]
    exact .inl (.refl _)

theorem counted_step (h : l.session.Counted) (faults : CloseFaults) (m : Move) :
    (l.step faults m).1.session.Counted := by
  refine ⟨?_, fun kind q hq => ?_, fun hclosed kind => ?_⟩
  · obtain hkeeps | ⟨t, he, ht⟩ := step_cases h.sound faults m
    · exact hkeeps.session ▸ h.sound
    · exact ht.session ▸ he.sound h.sound
  · obtain hless | ⟨p, hp⟩ := step_live h.sound faults m kind
    · exact h.positive kind q (hless.subset hq)
    · rw [(hp.step h.sound faults).1] at hq
      obtain hold | hnew := List.mem_append.mp hq
      · exact h.positive kind q hold
      · rw [List.mem_singleton.mp hnew, hp.id_eq]
        exact (h.sound.counts kind).next_pos (h.positive kind)
  · obtain hless | ⟨p, hp⟩ := step_live h.sound faults m kind
    · cases hwas : l.session.closed with
      | true =>
        rw [h.closed hwas kind] at hless
        exact List.sublist_nil.mp hless
      | false =>
        obtain hkeeps | ⟨t, he, ht⟩ := step_cases h.sound faults m
        · rw [hkeeps.session, hwas] at hclosed
          cases hclosed
        · rw [ht.session] at hclosed ⊢
          exact he.live_of_closes hwas hclosed kind
    · rw [(hp.step h.sound faults).2.1] at hclosed
      cases hclosed

theorem counted_run (h : l.session.Counted) (ms : List (CloseFaults × Move)) :
    (run ms l).1.session.Counted := by
  induction ms generalizing l with
  | nil => exact h
  | cons e ms ih => exact ih (counted_step h e.1 e.2)

theorem counted_start (uuid : String) (codec : Txt.Codec) (ownsProvider : Bool)
    (records : Records) :
    (start uuid codec ownsProvider records).session.Counted := by
  refine ⟨⟨fun _ => Multiplexer.inStep_empty, rfl, RequestTable.numbered_empty,
    RequestTable.numbered_empty⟩, ?_, fun hclosed => nomatch hclosed⟩
  intro kind q hq
  cases kind <;> cases hq

/-! ### Runs -/

theorem run_concat (ms : List (CloseFaults × Move)) (e : CloseFaults × Move) (l : Loop) :
    (run (ms ++ [e]) l).1 = ((run ms l).1.step e.1 e.2).1 := by
  induction ms generalizing l with
  | nil => rfl
  | cons first ms ih => exact ih (l.step first.1 first.2).1

def reached (l : Loop) (ms : List (CloseFaults × Move)) (n : Nat) : Loop := (run (ms.take n) l).1

structure Since (kind : Kind) (l : Loop) (ms : List (CloseFaults × Move)) (q : Live) (n : Nat) :
    Prop where
  begins : ∃ e, ms[n]? = some e ∧ (l.reached ms n).Begins kind e.2 q ∧
    outcomes ((l.reached ms n).step e.1 e.2).2 = [kind.outcome q.id]
  stays : ∀ n', n < n' → n' ≤ ms.length → q ∈ (l.reached ms n').session.live kind

variable {ms : List (CloseFaults × Move)} {n n' : Nat}

theorem Since.lt_length (h : Since kind l ms q n) : n < ms.length := by
  obtain ⟨e, he, -⟩ := h.begins
  exact (List.getElem?_eq_some_iff.mp he).1

theorem reached_concat (h : n ≤ ms.length) (e : CloseFaults × Move) :
    l.reached (ms ++ [e]) n = l.reached ms n := by
  rw [reached, reached, List.take_append_of_le_length h]

theorem reached_length (l : Loop) (ms : List (CloseFaults × Move)) :
    l.reached ms ms.length = (run ms l).1 := by
  rw [reached, List.take_length]

theorem Since.concat (h : Since kind l ms q n) {e : CloseFaults × Move}
    (hq : q ∈ (run (ms ++ [e]) l).1.session.live kind) : Since kind l (ms ++ [e]) q n := by
  have hn := h.lt_length
  obtain ⟨e', he', hbegins⟩ := h.begins
  refine ⟨⟨e', ?_, ?_⟩, fun n' hlt hle => ?_⟩
  · rwa [List.getElem?_append_left hn]
  · rwa [reached_concat hn.le]
  · by_cases hlast : n' ≤ ms.length
    · rw [reached_concat hlast]
      exact h.stays n' hlt hlast
    · obtain rfl : n' = (ms ++ [e]).length := by
        simp only [List.length_append, List.length_singleton] at hle ⊢
        omega
      rwa [reached_length]

/-- Every request under way was begun by some move. -/
theorem exists_since (h : l.session.Counted) (hnone : l.session.live kind = [])
    (hq : q ∈ (run ms l).1.session.live kind) : ∃ n, Since kind l ms q n := by
  -- from the end: the last move begins the request, or it was under way before
  induction ms using List.reverseRecOn with
  | nil =>
    have hq : q ∈ l.session.live kind := hq
    rw [hnone] at hq
    cases hq
  | append_singleton ms e ih =>
    have hbefore := counted_run h ms
    have hold (hin : q ∈ (run ms l).1.session.live kind) : ∃ n, Since kind l (ms ++ [e]) q n := by
      obtain ⟨n, hn⟩ := ih hin
      exact ⟨n, hn.concat hq⟩
    have hlive := hq
    rw [run_concat] at hlive
    obtain hless | ⟨p, hp⟩ := step_live hbefore.sound e.1 e.2 kind
    · exact hold (hless.subset hlive)
    · obtain ⟨happend, -, hreturned⟩ := hp.step hbefore.sound e.1
      rw [happend] at hlive
      obtain hin | hnew := List.mem_append.mp hlive
      · exact hold hin
      · obtain rfl := List.mem_singleton.mp hnew
        refine ⟨ms.length, ⟨⟨e, by simp, ?_⟩, fun n' hlt hle => ?_⟩⟩
        · rw [reached_concat le_rfl, reached_length]
          exact ⟨hp, hreturned⟩
        · obtain rfl : n' = (ms ++ [e]).length := by
            simp only [List.length_append, List.length_singleton] at hle ⊢
            omega
          rwa [reached_length]

theorem Since.id_lt (h : l.session.Counted) (hq : Since kind l ms q n) (hq' : Since kind l ms q' n')
    (hlt : n < n') : q.id < q'.id := by
  obtain ⟨e, he, hbegins, -⟩ := hq'.begins
  have hsound := (counted_run h (ms.take n')).sound
  have hin := hq.stays n' hlt hq'.lt_length.le
  have hbelow := (hsound.counts kind).lt_next q hin
  rwa [hbegins.id_eq]

theorem Since.id_lt_iff (h : l.session.Counted) (hq : Since kind l ms q n)
    (hq' : Since kind l ms q' n') : q.id < q'.id ↔ n < n' := by
  refine ⟨fun hid => ?_, hq.id_lt h hq'⟩
  obtain hlt | rfl | hgt := lt_trichotomy n n'
  · exact hlt
  · obtain ⟨_, -, hbegins, -⟩ := hq.begins
    obtain ⟨_, -, hbegins', -⟩ := hq'.begins
    rw [hbegins.id_eq, hbegins'.id_eq] at hid
    omega
  · have := hq'.id_lt h hq hgt
    omega

structure InOrder (kind : Kind) (l₀ : Loop) (ms : List (CloseFaults × Move)) : Prop where
  ascending : ((run ms l₀).1.session.live kind).Pairwise (·.id < ·.id)
  positive : ∀ q ∈ (run ms l₀).1.session.live kind, 0 < q.id
  /-- The provider is asked for a number above those in use, whatever it is going to answer. -/
  fresh : ∀ r asked id, (run ms l₀).1.startRequest? r = some asked →
    asked.replyTo = kind.address id →
    0 < id ∧ ∀ q ∈ (run ms l₀).1.session.live kind, q.id < id
  /-- What it starts is listed last, and the call comes back with the number. -/
  begun : ∀ faults m q, (run ms l₀).1.Begins kind m q →
    ((run ms l₀).1.step faults m).1.session.live kind = (run ms l₀).1.session.live kind ++ [q] ∧
      outcomes ((run ms l₀).1.step faults m).2 = [kind.outcome q.id]
  since : ∀ q ∈ (run ms l₀).1.session.live kind, ∃ n, Since kind l₀ ms q n
  byStart : ∀ q q' n n', Since kind l₀ ms q n → Since kind l₀ ms q' n' → (q.id < q'.id ↔ n < n')

theorem inOrder_run {l : Loop} (h : l.session.Counted) (hnone : l.session.live kind = [])
    (ms : List (CloseFaults × Move)) : InOrder kind l ms := by
  have hrun := counted_run h ms
  refine ⟨(hrun.sound.counts kind).ascending, hrun.positive kind,
    fun r asked id hasked haddress => ?_, fun faults m q hm => ?_,
    fun q hq => exists_since h hnone hq, fun q q' n n' hq hq' => hq.id_lt_iff h hq'⟩
  · rw [(asks_of_startRequest? hasked haddress).id_eq]
    exact ⟨(hrun.sound.counts kind).next_pos (hrun.positive kind), (hrun.sound.counts kind).lt_next⟩
  · obtain ⟨hlive, -, hreturned⟩ := hm.step hrun.sound faults
    exact ⟨hlive, hreturned⟩

theorem releases_step_close (h : l.session.Counted) (hidle : l.isIdle = true) (faults : CloseFaults)
    (answer : StartAnswer) : ∃ rest, releases (l.step faults (.request .close answer)).2 =
      (l.session.live .resolves).map (·.handle) ++ (l.session.live .browses).map (·.handle) ++
          rest := by
  rw [step_request hidle]
  cases hclosed : l.session.closed with
  | true =>
    refine ⟨[], ?_⟩
    rw [request, Session.close_of_closed _ _ hclosed, Session.idle, settle_done hidle,
      h.closed hclosed, h.closed hclosed]
    rfl
  | false =>
    obtain ⟨os, mux, hturn, -, -, hos⟩ := Session.close_of_open faults l.records hclosed
    refine ⟨if (l.session.ownRecord l.records).state.isActive then
      l.session.registration.toList.map (·.handle)
      else [], ?_⟩
    rw [request, hturn, settle_done hidle, releases_append, hos.releases]
    simp only [Session.closing, Session.live, List.map_map]
    exact List.append_nil _

theorem announced_step (hs : l.session.Sound) {faults : CloseFaults} {m : Move} {i : Invocation}
    {id : Int} (hi : i ∈ invocations (l.step faults m).2) (hwhat : i.what.announced? = some id) :
    ∃ q ∈ l.session.live .browses, q.id = id ∧ q.client = i.client := by
  obtain hkeeps | ⟨t, he, ht⟩ := step_cases hs faults m
  · rw [hkeeps.invocations] at hi
    cases hi
  · rw [ht.invocations_eq he, Option.mem_toList] at hi
    exact he.announced_live hi hwhat

/-- Requests are numbered in the order in which they are started, browses and resolves apart. Their
numbers are positive and ascend as they are listed, each new one is above those in use, and no
number is ever taken when a request gets it. Closing releases them in this order, resolves first,
and what a browse announces goes out under the number that its call came back with. -/
theorem requests_in_order (uuid : String) (codec : Txt.Codec) (ownsProvider : Bool)
    (records : Records) (ms : List (CloseFaults × Move)) :
    (∀ kind, InOrder kind (start uuid codec ownsProvider records) ms) ∧
    let l := (run ms (start uuid codec ownsProvider records)).1
    (∀ q : BrowseRequest, q.id = l.session.nextId .browses →
      ∃ registry, l.session.registry.addBrowse q = .ok registry) ∧
    (∀ q : ResolveRequest, q.id = l.session.nextId .resolves →
      ∃ registry, l.session.registry.addResolve q = .ok registry) ∧
    (l.isIdle = true → ∀ faults answer, ∃ rest,
      releases (l.step faults (.request .close answer)).2 =
        (l.session.live .resolves).map (·.handle) ++ (l.session.live .browses).map (·.handle) ++
          rest) ∧
    ∀ faults m, ∀ i ∈ invocations (l.step faults m).2, ∀ id, i.what.announced? = some id →
      ∃ q ∈ l.session.live .browses, q.id = id ∧ q.client = i.client := by
  have hstart := counted_start uuid codec ownsProvider records
  have hrun := counted_run hstart ms
  refine ⟨fun kind => inOrder_run hstart (by cases kind <;> rfl) ms, fun q hq => ?_, fun q hq => ?_,
    fun hidle faults answer => releases_step_close hrun hidle faults answer, ?_⟩
  · have hfree := hrun.sound.browses.get?_nextId
    rw [← Session.nextId.eq_1, ← hq] at hfree
    simp only [Registry.addBrowse, hfree]
    exact ⟨_, rfl⟩
  · have hfree := hrun.sound.resolves.get?_nextId
    rw [← Session.nextId.eq_2, ← hq] at hfree
    simp only [Registry.addResolve, hfree]
    exact ⟨_, rfl⟩
  · exact fun faults m i hi id hwhat => announced_step hrun.sound hi hwhat

def interleaved : List (CloseFaults × Move) :=
  [({}, .request (.browse {} { ticket := 1 }) (.started 1 10)),
    ({}, .request (.browse {} { ticket := 2 }) (.started 2 11)),
    ({}, .reply (.browse 2) (.browse 2 0 0 "B" (some "_ndn._udp") (some "local"))),
    ({}, .request (.cancel 1) (.raised (.closed ""))),
    ({}, .request (.browse {} { ticket := 3 }) (.started 3 12)),
    ({}, .request (.resolve 1 { ticket := 4 }) (.started 4 13)), ({}, .finish false)]

theorem requests_in_order_interleaved :
    let l := (run interleaved (start "A" {} false {})).1
    (l.session.live .browses).map (·.id) = [2, 3] ∧ (l.session.live .resolves).map (·.id) = [1] ∧
    InOrder .browses (start "A" {} false {}) interleaved ∧
    (∃ rest, releases (l.step {} (.request .close (.raised (.closed "")))).2 = [4, 2, 3] ++ rest) ∧
    ∃ q ∈ l.session.live .browses, q.id = 3 ∧ q.client.ticket = 3 := by
  obtain ⟨horder, -, -, hclose, hannounced⟩ := requests_in_order "A" {} false {} interleaved
  have hresolves :
      ((run interleaved (start "A" {} false {})).1.session.live .resolves).map (·.handle) =
        [4] := by
    decide +kernel
  have hbrowses :
      ((run interleaved (start "A" {} false {})).1.session.live .browses).map (·.handle) =
        [2, 3] := by
    decide +kernel
  have hidle : (run interleaved (start "A" {} false {})).1.isIdle = true := by decide +kernel
  obtain ⟨rest, hrest⟩ := hclose hidle {} (.raised (.closed ""))
  rw [hresolves, hbrowses] at hrest
  refine ⟨by decide +kernel, by decide +kernel, horder .browses, ⟨rest, hrest⟩, ?_⟩
  obtain ⟨q, hq, hid, hclient⟩ :=
    hannounced {} (.reply (.browse 3) (.browse 2 0 0 "C" (some "_ndn._tcp") none))
    ⟨{ ticket := 3 }, .added 3 2⟩ (List.mem_singleton.mpr rfl) 3 rfl
  exact ⟨q, hq, hid, by rw [hclient]⟩

end Loop
end ServiceDiscovery
