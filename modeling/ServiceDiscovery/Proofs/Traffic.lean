import Mathlib
import ServiceDiscovery.Proofs.Endpoints

/-!
The traffic through the queue of one endpoint: threads post, and the loop pumps, calls back and
closes. Each part that excludes the others is one move, and the moves may come in any order that the
loop allows.
-/
namespace ServiceDiscovery.Multicast

def MoreComing (posted delivered : Int) : Prop :=
  ∀ i, delivered.testBit i = (i == 0 || posted.testBit i)

inductive Followed : Reply → Reply → Prop
  | browse {flags flags' : Int} (h : MoreComing flags flags') (interfaceIndex code : Int)
      (name : String) (regtype domain : Option String) :
      Followed (.browse flags interfaceIndex code name regtype domain)
        (.browse flags' interfaceIndex code name regtype domain)
  | resolve {flags flags' : Int} (h : MoreComing flags flags') (interfaceIndex code : Int)
      (fullname hostTarget : Option String) (port : Int) (txt : Text.Octets) :
      Followed (.resolve flags interfaceIndex code fullname hostTarget port txt)
        (.resolve flags' interfaceIndex code fullname hostTarget port txt)
  | register {flags flags' : Int} (h : MoreComing flags flags') (code : Int)
      (name regtype domain : Option String) :
      Followed (.register flags code name regtype domain)
        (.register flags' code name regtype domain)

theorem moreComing_of_odd (flags : Int) :
    MoreComing flags (if flags % 2 = 0 then flags + 1 else flags) := by
  have hodd : (if flags % 2 = 0 then flags + 1 else flags) = Int.bit true flags.div2 := by
    have hparts := Int.bodd_add_div2 flags
    rw [Int.bit_val, cond_true]
    generalize flags.bodd = odd at hparts
    cases odd with
    | false | true =>
      simp only [cond_false, cond_true] at hparts
      omega
  rw [hodd]
  rintro (_ | i)
  · exact Int.testBit_bit_zero _ _
  · have hposted := Int.testBit_bit_succ i flags.bodd flags.div2
    rw [Int.bit_decomp] at hposted
    exact (Int.testBit_bit_succ i _ _).trans hposted.symm

theorem followed_withMoreComing (r : Reply) : Followed r r.withMoreComing := by
  cases r with
  | browse => exact .browse (moreComing_of_odd _) ..
  | resolve => exact .resolve (moreComing_of_odd _) ..
  | register => exact .register (moreComing_of_odd _) ..

def marked : List Reply → List Reply
  | [] => []
  | r :: rest => (if rest.isEmpty then r else r.withMoreComing) :: marked rest

theorem drop_marked (n : Nat) (rs : List Reply) : (marked rs).drop n = marked (rs.drop n) := by
  induction rs generalizing n with
  | nil => simp [marked]
  | cons r rs ih =>
    cases n with
    | zero => rfl
    | succ n => exact ih n

theorem getElem?_marked (rs : List Reply) (i : Nat) :
    (marked rs)[i]? = rs[i]?.map fun r => if i + 1 = rs.length then r else r.withMoreComing := by
  induction rs generalizing i with
  | nil => simp [marked]
  | cons r rs ih =>
    cases i with
    | zero => cases rs <;> simp [marked]
    | succ i => simpa [marked] using ih i

structure Batch where
  events : List Reply
  handed : List Reply := []
  deriving DecidableEq, Repr

namespace Batch

def given (b : Batch) : List Reply := b.events.take b.handed.length

def left (b : Batch) : List Reply := b.events.drop b.handed.length

/-- What was handed over are the first events: the last one of all as it is, and each before it with
the flag that more follow. -/
def Delivers (b : Batch) : Prop :=
  ∀ (i : Nat) (delivered : Reply), b.handed[i]? = some delivered →
    ∃ posted, b.events[i]? = some posted ∧
    (i + 1 = b.events.length → delivered = posted) ∧
      (i + 1 < b.events.length → Followed posted delivered)

def hand (b : Batch) (r : Reply) : Batch := { b with handed := b.handed ++ [r] }

variable {b : Batch} {r : Reply} {rest : List Reply}

theorem given_hand (hleft : b.left = r :: rest) (handed : Reply) :
    (b.hand handed).given = b.given ++ [r] := by
  have hat : b.events[b.handed.length]? = some r := by
    have hhead := congrArg List.head? hleft
    rwa [left, List.head?_drop] at hhead
  simp [given, hand, List.take_add_one, hat]

theorem left_hand (hleft : b.left = r :: rest) (handed : Reply) : (b.hand handed).left = rest := by
  have htail := congrArg List.tail hleft
  rw [left, List.tail_drop] at htail
  simpa [left, hand] using htail

theorem handed_append (hmarked : b.handed <+: marked b.events) :
    b.handed ++ marked b.left = marked b.events := by
  obtain ⟨tail, htail⟩ := hmarked
  rw [left, ← drop_marked, ← htail, List.drop_left]

theorem marked_hand (hmarked : b.handed <+: marked b.events) (hleft : b.left = r :: rest) :
    (b.hand (if rest.isEmpty then r else r.withMoreComing)).handed <+: marked b.events := by
  refine ⟨marked rest, ?_⟩
  rw [← handed_append hmarked, hleft, hand, List.append_assoc]
  rfl

theorem delivers (hmarked : b.handed <+: marked b.events) : b.Delivers := by
  intro i delivered hi
  obtain ⟨hlength, rfl⟩ := List.getElem?_eq_some_iff.mp hi
  have hat := List.prefix_iff_getElem?.mp hmarked i hlength
  rw [getElem?_marked, Option.map_eq_some_iff] at hat
  obtain ⟨posted, hposted, hdelivered⟩ := hat
  refine ⟨posted, hposted, fun hlast => ?_, fun hmore => ?_⟩
  · rw [← hdelivered, if_pos hlast]
  · rw [← hdelivered, if_neg hmore.ne]
    exact followed_withMoreComing posted

end Batch

inductive Standing
  | outside
  | between (b : Batch) (rest : List Reply)
  | calling (b : Batch) (rest : List Reply)
  deriving DecidableEq, Repr

namespace Standing

def rest : Standing → List Reply
  | outside => []
  | between _ rest | calling _ rest => rest

def batches : Standing → List Batch
  | outside => []
  | between b _ | calling b _ => [b]

def Sound : Standing → Prop
  | outside => True
  | between b rest | calling b rest => b.left = rest

end Standing

structure Traffic where
  engine : Engine
  past : List Batch := []
  standing : Standing := .outside

namespace Traffic

inductive Move
  | post (r : Reply)
  | pump
  /-- The pump goes on, with a callback or with its end. -/
  | next
  /-- The callback returns. -/
  | back
  | close
  deriving DecidableEq, Repr

def post (room : Nat) (e : Engine) (h : Handle) (r : Reply) : Engine :=
  e.modify h fun p => (p.post room r).2

/-- Pumps do not nest, and the loop closes the endpoint between pumps or in a callback; at other
times these moves change nothing. -/
def step (room : Nat) (h : Handle) (t : Traffic) : Move → Traffic
  | .post r => { t with engine := post room t.engine h r }
  | .pump =>
    match t.standing with
    | .outside =>
      match t.engine.take h with
      | (.ok batch, engine) => { t with engine, standing := .between { events := batch } batch }
      | (.error _, engine) => { t with engine }
    | _ => t
  | .next =>
    match t.standing with
    | .between b rest =>
      match t.engine.nextReply h rest with
      | some (r, rest) => { t with standing := .calling (b.hand r) rest }
      | none => { t with past := t.past ++ [b], standing := .outside }
    | _ => t
  | .back =>
    match t.standing with
    | .calling b rest => { t with standing := .between b rest }
    | _ => t
  | .close =>
    match t.standing with
    | .between _ _ => t
    | _ => { t with engine := (t.engine.release h).1 }

def run (room : Nat) (h : Handle) (t : Traffic) (moves : List Move) : Traffic :=
  moves.foldl (step room h) t

def batches (t : Traffic) : List Batch := t.past ++ t.standing.batches

def given (t : Traffic) : List Reply := t.batches.flatMap Batch.given

def handed (t : Traffic) : List Reply := t.batches.flatMap Batch.handed

def Move.posted? : Move → Option Reply
  | .post r => some r
  | _ => none

def posted (moves : List Move) : List Reply := moves.filterMap Move.posted?

/-- While the endpoint is open: every event that was posted has been given, is at hand or is queued,
and a wake-up waits exactly if there are queued events. -/
structure Flows (h : Handle) (posted : List Reply) (t : Traffic) (p : Endpoint) : Prop where
  endpoint : t.engine.endpoint? h = some p
  queue : p.queue.Open
  order : t.given ++ t.standing.rest ++ p.queue.events = posted
  woken : 0 < p.queue.unread ↔ p.queue.events ≠ []

section
variable {room : Nat} {h : Handle} {t : Traffic} {p : Endpoint} {ps : List Reply}

/-- A post puts the event behind all others, and leaves a wake-up even if the connection is full. -/
theorem Flows.post (hf : Flows h ps t p) (hroom : 0 < room) (r : Reply) :
    ∃ p', Flows h (ps ++ [r]) (t.step room h (.post r)) p' := by
  refine ⟨_, Engine.endpoint?_modify _ hf.endpoint, ?_, ?_, ?_⟩
  all_goals simp only [Endpoint.post, hf.queue.post_eq]
  · exact ⟨hf.queue.reader, hf.queue.writer, hf.queue.closed⟩
  · rw [← hf.order, ← List.append_assoc]
    rfl
  · have hsent : 0 < if p.queue.unread < room then p.queue.unread + 1 else p.queue.unread := by
      split <;> omega
    simpa using hsent

/-- A pump takes all that is queued, and reads all wake-ups. -/
theorem Flows.pump (hf : Flows h ps t p) : ∃ p', Flows h ps (t.step room h .pump) p' := by
  obtain ⟨engine, past, standing⟩ := t
  cases standing with
  | between | calling => exact ⟨p, hf⟩
  | outside =>
    have hp : engine.endpoint? h = some p := hf.endpoint
    have htake : engine.take h = (.ok p.queue.events, engine.modify h fun p' =>
        { p' with queue := { p.queue with events := [], unread := 0 } }) := by
      simp only [Engine.take, hp, hf.queue.take_eq]
    simp only [step, htake]
    refine ⟨_, Engine.endpoint?_modify _ hp, ⟨hf.queue.reader, hf.queue.writer, hf.queue.closed⟩,
      ?_, by simp⟩
    simpa [given, batches, Standing.batches, Standing.rest, Batch.given] using hf.order

theorem Flows.next (hf : Flows h ps t p) (hs : t.standing.Sound) :
    Flows h ps (t.step room h .next) p := by
  obtain ⟨engine, past, standing⟩ := t
  cases standing with
  | outside | calling => exact hf
  | between b rest =>
    have hleft : b.left = rest := hs
    have hp : engine.endpoint? h = some p := hf.endpoint
    cases rest with
    | nil =>
      refine ⟨hp, hf.queue, ?_, hf.woken⟩
      simpa [step, Engine.nextReply, given, batches, Standing.batches, Standing.rest] using hf.order
    | cons r rest =>
      simp only [step, Engine.nextReply_cons hp hf.queue]
      refine ⟨hp, hf.queue, ?_, hf.woken⟩
      rw [← hf.order]
      simp [given, batches, Standing.batches, Standing.rest, Batch.given_hand hleft]

theorem Flows.back (hf : Flows h ps t p) : Flows h ps (t.step room h .back) p := by
  obtain ⟨engine, past, standing⟩ := t
  cases standing with
  | outside | between => exact hf
  | calling b rest => exact ⟨hf.endpoint, hf.queue, hf.order, hf.woken⟩

structure Over (h : Handle) (t : Traffic) (p : Endpoint) : Prop where
  endpoint : t.engine.endpoint? h = some p
  closed : p.queue.closed = true

theorem endpoint?_release {e : Engine} (hp : e.endpoint? h = some p)
    (hopen : p.queue.closed = false) :
    ∃ p', (e.release h).1.endpoint? h = some p' ∧ p'.queue.closed = true := by
  refine ⟨p.close.1, ?_, ?_⟩
  · simp only [Engine.release, hp, Engine.endpoint?_modify _ hp]
  · simp only [Endpoint.close, Endpoint.shut, hopen, Bool.false_eq_true, if_false,
      Endpoint.giveBack]
    split
    · rfl
    · rfl
    · split <;> rfl

/-- Only closing ends the flow. -/
theorem Flows.step (hf : Flows h ps t p) (hs : t.standing.Sound) (hroom : 0 < room) (m : Move) :
    (∃ p', Over h (t.step room h m) p') ∨
    ∃ p', Flows h (ps ++ m.posted?.toList) (t.step room h m) p' := by
  cases m with
  | post r => exact .inr (hf.post hroom r)
  | pump => exact .inr (by simpa [Move.posted?] using hf.pump)
  | next => exact .inr ⟨p, by simpa [Move.posted?] using hf.next hs⟩
  | back => exact .inr ⟨p, by simpa [Move.posted?] using hf.back⟩
  | close =>
    obtain ⟨engine, past, standing⟩ := t
    cases standing with
    | between b rest => exact .inr ⟨p, by simpa [Move.posted?, Traffic.step] using hf⟩
    | outside | calling b rest =>
      obtain ⟨p', hp', hclosed⟩ := endpoint?_release hf.endpoint hf.queue.closed
      exact .inl ⟨p', hp', hclosed⟩

theorem Over.step (ht : Over h t p) (room : Nat) (m : Move) :
    Over h (t.step room h m) p ∧ (t.step room h m).handed = t.handed := by
  obtain ⟨engine, past, standing⟩ := t
  obtain ⟨hp, hclosed⟩ := ht
  cases m with
  | post r =>
    refine ⟨⟨?_, hclosed⟩, rfl⟩
    simp [Traffic.step, Traffic.post, Engine.endpoint?_modify _ hp, Endpoint.post,
      Queue.post, hclosed]
  | pump =>
    cases standing with
    | between | calling => exact ⟨⟨hp, hclosed⟩, rfl⟩
    | outside =>
      simp only [Traffic.step, Engine.take, hp, Queue.take, hclosed, if_true]
      exact ⟨⟨Engine.endpoint?_modify _ hp, hclosed⟩, by simp [handed, batches, Standing.batches]⟩
  | next =>
    cases standing with
    | outside | calling => exact ⟨⟨hp, hclosed⟩, rfl⟩
    | between b rest =>
      have hnone : engine.nextReply h rest = none := by
        cases rest with
        | nil => rfl
        | cons r rest => simp [Engine.nextReply, Engine.isClosed, hp, hclosed]
      simp only [Traffic.step, hnone]
      exact ⟨⟨hp, hclosed⟩, by simp [handed, batches, Standing.batches]⟩
  | back => cases standing <;> exact ⟨⟨hp, hclosed⟩, rfl⟩
  | close =>
    cases standing with
    | between => exact ⟨⟨hp, hclosed⟩, rfl⟩
    | outside | calling =>
      simp only [Traffic.step, Engine.release, hp, Endpoint.close, Endpoint.shut, hclosed, if_true]
      exact ⟨⟨Engine.endpoint?_modify _ hp, hclosed⟩, rfl⟩

theorem Over.run (ht : Over h t p) (room : Nat) (moves : List Move) :
    Over h (t.run room h moves) p ∧ (t.run room h moves).handed = t.handed := by
  induction moves generalizing t with
  | nil => exact ⟨ht, rfl⟩
  | cons m moves ih =>
    obtain ⟨hstep, hhanded⟩ := ht.step room m
    obtain ⟨hrun, hrest⟩ := ih hstep
    exact ⟨hrun, hrest.trans hhanded⟩

structure Marks (t : Traffic) : Prop where
  prefixes : ∀ b ∈ t.batches, b.handed <+: marked b.events
  standing : t.standing.Sound

theorem Marks.step (ht : Marks t) (m : Move) : Marks (t.step room h m) := by
  obtain ⟨engine, past, standing⟩ := t
  obtain ⟨hmarked, hstanding⟩ := ht
  have hpast : ∀ b ∈ past, b.handed <+: marked b.events :=
    fun b hb => hmarked b (List.mem_append_left _ hb)
  cases m with
  | post r => exact ⟨hmarked, hstanding⟩
  | pump =>
    cases standing with
    | between | calling => exact ⟨hmarked, hstanding⟩
    | outside =>
      simp only [Traffic.step]
      split
      · refine ⟨fun b hb => ?_, rfl⟩
        obtain hb | hb := List.mem_append.mp hb
        · exact hpast b hb
        · obtain rfl := List.mem_singleton.mp hb
          exact List.nil_prefix
      · exact ⟨hmarked, hstanding⟩
  | next =>
    cases standing with
    | outside | calling => exact ⟨hmarked, hstanding⟩
    | between b rest =>
      have hb : b.handed <+: marked b.events := hmarked b (by simp [batches, Standing.batches])
      cases hnext : engine.nextReply h rest with
      | none =>
        refine ⟨fun c hc => hmarked c ?_, ?_⟩
        · simpa [Traffic.step, hnext, batches, Standing.batches] using hc
        · simp [Traffic.step, hnext, Standing.Sound]
      | some found =>
        obtain ⟨-, r, rest, rfl, rfl⟩ := Engine.exists_of_nextReply hnext
        simp only [Traffic.step, hnext]
        refine ⟨fun c hc => ?_, Batch.left_hand hstanding _⟩
        obtain hc | hc := List.mem_append.mp hc
        · exact hpast c hc
        · obtain rfl := List.mem_singleton.mp hc
          exact Batch.marked_hand hb hstanding
  | back =>
    cases standing with
    | outside | between => exact ⟨hmarked, hstanding⟩
    | calling b rest => exact ⟨hmarked, hstanding⟩
  | close =>
    cases standing with
    | between => exact ⟨hmarked, hstanding⟩
    | outside | calling => exact ⟨hmarked, hstanding⟩

theorem Marks.run (ht : Marks t) (moves : List Move) : Marks (t.run room h moves) := by
  induction moves generalizing t with
  | nil => exact ht
  | cons m moves ih => exact ih (ht.step m)

/-- Over a whole run the events flow until the endpoint is closed. -/
theorem Flows.run (hf : Flows h ps t p) (ht : Marks t) (hroom : 0 < room) (moves : List Move) :
    (∃ p', Over h (t.run room h moves) p') ∨
    ∃ p', Flows h (ps ++ posted moves) (t.run room h moves) p' := by
  induction moves generalizing t ps p with
  | nil => exact .inr ⟨p, by simpa [posted, Traffic.run] using hf⟩
  | cons m moves ih =>
    obtain ⟨p', hover⟩ | ⟨p', hflows⟩ := hf.step ht.standing hroom m
    · exact .inl ⟨p', (hover.run room moves).1⟩
    · have hposted : ps ++ posted (m :: moves) = ps ++ m.posted?.toList ++ posted moves := by
        cases m <;> simp [posted, Move.posted?, List.filterMap_cons]
      rw [hposted]
      exact ih hflows (ht.step m)

/-- The queue of an endpoint loses, repeats and reorders nothing, however threads and the loop mix.
While the endpoint is open, what was given, what a pump has at hand and what is queued are the
posted events in order, a wake-up waits exactly if events are queued, and a pump would take all of
these. All but the last event of a batch come with the flag that more follow. Once the endpoint is
closed, nothing more is queued or handed over. -/
theorem queue_keeps_order {engine : Engine} (hp : engine.endpoint? h = some p)
    (hqueue : p.queue = {}) (hroom : 0 < room) (moves : List Move) :
    let t := run room h { engine } moves
    (t.engine.isClosed h = false → ∃ p', t.engine.endpoint? h = some p' ∧
      t.given ++ t.standing.rest ++ p'.queue.events = posted moves ∧
      (0 < p'.queue.unread ↔ p'.queue.events ≠ []) ∧ (t.engine.take h).1 = .ok p'.queue.events) ∧
    (∀ b ∈ t.batches, b.Delivers) ∧
    (t.engine.isClosed h = true → ∀ later,
      (t.run room h later).engine.endpoint? h = t.engine.endpoint? h ∧
        (t.run room h later).handed = t.handed) := by
  intro t
  have hstart : Flows h [] { engine } p :=
    ⟨hp, hqueue ▸ Queue.open_empty, by simp [given, batches, Standing.batches,
      Standing.rest, hqueue], by simp [hqueue]⟩
  have hmarks : Marks { engine } := ⟨nofun, trivial⟩
  refine ⟨fun hopen => ?_, fun b hb => Batch.delivers ((hmarks.run moves).prefixes b hb),
    fun hclosed later => ?_⟩
  · obtain ⟨p', hover⟩ | ⟨p', hflows⟩ := hstart.run hmarks hroom moves
    · simp [t, Engine.isClosed, hover.endpoint, hover.closed] at hopen
    · refine ⟨p', hflows.endpoint, hflows.order, hflows.woken, ?_⟩
      obtain ⟨e', queue, htake, -⟩ := Engine.take_eq hflows.endpoint hflows.queue
      exact congrArg Prod.fst htake
  · obtain ⟨p', hover⟩ | ⟨p', hflows⟩ := hstart.run hmarks hroom moves
    · obtain ⟨hlater, hhanded⟩ := hover.run room later
      exact ⟨hlater.endpoint.trans hover.endpoint.symm, hhanded⟩
    · simp [t, Engine.isClosed, hflows.endpoint, hflows.queue.closed] at hclosed

end

def browsing : Engine :=
  (Engine.startBrowse { host := ⟨"host", .ok []⟩ } (.sharing {}) (.browse 1)
    (serviceType .udp "") 0).2.1

def appeared (name : String) : Reply := Engine.addition (serviceType .udp "") 0 name

def crowded : List Move :=
  [.post (appeared "A"), .post (appeared "B"), .pump, .next, .post (appeared "C"), .back, .next]

theorem queue_keeps_order_crowded :
    let t := run 1 0 { engine := browsing } crowded
    let closed := run 1 0 { engine := browsing } (crowded ++ [.close])
    (∃ p, t.engine.endpoint? 0 = some p ∧
      t.given ++ t.standing.rest ++ p.queue.events = ["A", "B", "C"].map appeared ∧
      (t.engine.take 0).1 = .ok p.queue.events) ∧
    (∀ b ∈ t.batches, b.Delivers) ∧
    t.handed = [.browse 3 0 0 "A" (some "_ndn._udp.") (some "local."),
      .browse 2 0 0 "B" (some "_ndn._udp.") (some "local.")] ∧
    (closed.run 1 0 [.back, .next, .post (appeared "D"), .pump]).handed = closed.handed := by
  intro t closed
  have hp : browsing.endpoint? 0 =
      some ⟨.browse 1, .browse (serviceType .udp "") 0 1, 3, 4, {}, .finished, false⟩ := by
        decide +kernel
  obtain ⟨hflows, hmarked, -⟩ := queue_keeps_order hp rfl Nat.one_pos crowded
  obtain ⟨-, -, hover⟩ := queue_keeps_order hp rfl Nat.one_pos (crowded ++ [.close])
  obtain ⟨p, hp', horder, -, htake⟩ := hflows (by decide +kernel)
  exact ⟨⟨p, hp', horder, htake⟩, hmarked, by decide +kernel,
    (hover (by decide +kernel) [.back, .next, .post (appeared "D"), .pump]).2⟩

end Traffic
end ServiceDiscovery.Multicast
