import Mathlib.Algebra.Group.Int.Defs
import Mathlib.Data.List.Induction
import ServiceDiscovery.Proofs.Dispatching

/-!
Runs in a history. A run is a row of passes, each begun by a wait; a pass pumps, of the entries that
its wait found, those still watched when their turn comes.
-/
namespace ServiceDiscovery

namespace Occurrence

def run? : Occurrence → Option Int
  | .request (.run timeoutMs) _ => some timeoutMs
  | _ => none

def reported : Occurrence → List Int
  | .waited reported _ => reported
  | _ => []

end Occurrence

/-- A run that was asked for on an open session, and what was done in it. Nothing in it asks for
another run, no wait reports a descriptor twice, and closing a handle fails with errors of the
system at most. -/
structure RunsFrom (k : History) (past : List Deed) (r : Deed) (ds : List Deed) (timeoutMs : Int) :
    Prop where
  deeds : k.deeds = past ++ r :: ds
  starts : r.event.run? = some timeoutMs
  opened : r.before.session.closed = false
  during : ∀ d ∈ ds, r.before.stack.length < d.before.stack.length
  unnested : ∀ d ∈ ds, d.event.run? = none
  reported : ∀ d ∈ ds, d.event.reported.Nodup
  closing : OnlySystemFaults k.deeds

namespace RunsFrom
variable {k : History} {past a b ds : List Deed} {r d : Deed} {timeoutMs : Int}

theorem upTo (h : RunsFrom k past r (a ++ b) timeoutMs) : ∃ k', RunsFrom k' past r a timeoutMs := by
  have hdeeds : k.deeds = (past ++ r :: a) ++ b := by simp [h.deeds]
  obtain ⟨k', hk'⟩ := History.exists_of_append hdeeds
  refine ⟨k', hk', h.starts, h.opened, ?_, ?_, ?_, ?_⟩
  · exact fun d hd => h.during d (List.mem_append_left _ hd)
  · exact fun d hd => h.unnested d (List.mem_append_left _ hd)
  · exact fun d hd => h.reported d (List.mem_append_left _ hd)
  · have hclosing := h.closing
    rw [hdeeds, ← hk'] at hclosing
    exact hclosing.of_append

theorem before (h : RunsFrom k past r (a ++ d :: b) timeoutMs) :
    ∃ k', RunsFrom k' past r a timeoutMs ∧ k'.loop = d.before ∧ d.Follows k'.deeds ∧
      ∀ h, d.faults.escaping h = none := by
  have hdeeds : k.deeds = (past ++ r :: a) ++ d :: b := by simp [h.deeds]
  obtain ⟨k', hrun⟩ := h.upTo
  obtain ⟨k'', hk'', hbefore, hfollows⟩ := History.exists_before hdeeds
  refine ⟨k'', ⟨hk'', hrun.starts, hrun.opened, hrun.during, hrun.unnested, hrun.reported, ?_⟩,
    hbefore, hk'' ▸ hfollows, CloseFaults.escaping_eq_none (h.closing _ d b hdeeds)⟩
  rw [hk'', ← hrun.deeds]
  exact hrun.closing

theorem loop_eq_after (h : RunsFrom k past r (ds ++ [d]) timeoutMs) : k.loop = d.after := by
  have hdeeds : k.deeds = (past ++ r :: ds) ++ [d] := by simp [h.deeds]
  exact History.loop_eq_after hdeeds

theorem stack_after (h : RunsFrom k past r ds timeoutMs) :
    r.after.stack = .waiting timeoutMs :: r.before.stack := by
  obtain ⟨k', -, -, hfollows⟩ := History.exists_before h.deeds
  have hstarts := h.starts
  unfold Occurrence.run? at hstarts
  split at hstarts
  · rename_i t answer he
    obtain rfl := Option.some.inj hstarts
    have hstep : (r.after, r.outputs) =
        ({ r.before with stack := .waiting t :: r.before.stack }, []) := by
      rw [hfollows.eq_request he, Loop.request, if_neg (by simp [h.opened])]
    exact congrArg (·.1.stack) hstep
  · cases hstarts

theorem move_ne_run (hd : d.Follows ds) (hrun : d.event.run? = none) (t : Int)
    (answer : StartAnswer) : d.move ≠ .request (.run t) answer := by
  intro hm
  rw [hd.event_of_request hm] at hrun
  cases hrun

/-- Every deed of a run dispatches, and a run that has not come back waits or pumps. -/
theorem dispatches_running (h : RunsFrom k past r ds timeoutMs) :
    (∀ d ∈ ds, d.Dispatches timeoutMs r.before.stack) ∧
      (Running timeoutMs r.before.stack k.loop.stack ∨ k.loop.stack = r.before.stack) := by
  -- from the end: how the run stands before its last deed says what the deed can do
  induction ds using List.reverseRecOn generalizing k with
  | nil =>
    have hloop : k.loop = r.after := History.loop_eq_after h.deeds
    rw [hloop, h.stack_after]
    exact ⟨fun d hd => absurd hd List.not_mem_nil, .inl .waiting⟩
  | append_singleton ds d ih =>
    obtain ⟨k', hk', hbefore, hfollows, hfaults⟩ := h.before
    obtain ⟨hold, hstands⟩ := ih hk'
    have hlonger := h.during d (by simp)
    have hrunning : Running timeoutMs r.before.stack d.before.stack := by
      rw [← hbefore] at hlonger ⊢
      exact hstands.resolve_right fun hback => by simp [hback] at hlonger
    obtain ⟨hdispatches, hafter⟩ := hrunning.dispatches (hbefore ▸ k'.sound) hfaults
      (move_ne_run hfollows (h.unnested d (by simp)))
    rw [h.loop_eq_after]
    refine ⟨fun e he => ?_, hafter⟩
    cases List.mem_append.mp he with
    | inl hin => exact hold e hin
    | inr hlast => exact List.mem_singleton.mp hlast ▸ hdispatches

theorem dispatches (h : RunsFrom k past r ds timeoutMs) :
    ∀ d ∈ ds, d.Dispatches timeoutMs r.before.stack :=
  h.dispatches_running.1

end RunsFrom

namespace Deed
variable {d : Deed} {timeoutMs : Int} {n : Nat} {ready : List (Int × Handle)}

theorem queue_of_length (h : d.before.stack.length ≠ n + 1) :
    d.queue timeoutMs n = d.before.left n := by
  simp only [queue, waited?_of_length h]

theorem waited?_eq_ok (h : d.waited? timeoutMs n = some (.ok ready)) :
    ∃ reported fault, d.move = .waited reported fault ∧
    ready = d.before.session.mux.ready reported := by
  unfold waited? at h
  split at h
  · rename_i reported fault hm
    split at h
    · exact ⟨reported, fault, hm, Multiplexer.wait_eq_ok (Option.some.inj h)⟩
    · cases h
  · cases h

theorem Dispatches.stack_of_fails {below : List Frame} (h : d.Dispatches timeoutMs below)
    (hfails : d.fails below.length = true) : d.after.stack = below := by
  cases hp : d.pumped? below.length with
  | none => simp [Deed.fails, hp] at hfails
  | some e =>
    have hlength := length_of_pumped? hp
    have hwaited : d.waited? timeoutMs below.length = none := waited?_of_length (by omega)
    have hback : ∃ o, d.fate timeoutMs below.length = .back o := by
      cases e with
      | delivered => simp [Deed.fails, hp] at hfails
      | refused r => exact ⟨.ok (some r.code), by simp only [Deed.fate, hwaited, hp]⟩
      | raised f => exact ⟨_, Deed.fate_of_raised hwaited hp⟩
    obtain ⟨o, ho⟩ := hback
    have hmeets := h.fate
    rw [ho] at hmeets
    exact hmeets.1

theorem fate_eq_waits_iff (ht : timeoutMs ≠ 0) : d.fate timeoutMs n = .waits ↔
    d.before.stack.length = n + 1 ∧ d.waited? timeoutMs n = none := by
  have hpassed : d.passed timeoutMs n ≠ .waits := by
    unfold passed
    split
    · exact fun hpumps => nomatch hpumps
    · rw [if_pos (.inl ht)]
      exact fun hback => nomatch hback
  unfold fate
  cases hw : d.waited? timeoutMs n with
  | some x =>
    cases x with
    | error f => cases f <;> simp
    | ok found => simpa using hpassed
  | none =>
    cases hp : d.pumped? n with
    | some e =>
      have hlength := length_of_pumped? hp
      cases e with
      | raised f => cases f <;> simp [hlength]
      | _ => simp [hlength, hpassed]
    | none => simp

theorem Dispatches.waits_iff {below : List Frame} (h : d.Dispatches timeoutMs below)
    (ht : timeoutMs ≠ 0) :
    d.after.stack.length = below.length + 1 ↔
      d.before.stack.length = below.length + 1 ∧ d.waited? timeoutMs below.length = none := by
  have hmeets := h.fate
  rw [← fate_eq_waits_iff ht]
  cases hfate : d.fate timeoutMs below.length with
  | waits =>
    rw [hfate] at hmeets
    have hafter : d.after.stack = .waiting timeoutMs :: below := hmeets
    simp [hafter]
  | pumps =>
    rw [hfate] at hmeets
    obtain ⟨upper, descriptor, h, rest, -, hafter⟩ := hmeets
    have hlonger : d.after.stack.length = upper.length + (below.length + 2) := by simp [hafter]
    simp only [reduceCtorEq, iff_false]
    omega
  | back o =>
    rw [hfate] at hmeets
    simp [hmeets.1]

end Deed

theorem pumps_eq_of_dispatches {ds : List Deed} {timeoutMs : Int} {below : List Frame}
    (h : ∀ d ∈ ds, d.Dispatches timeoutMs below) : pumps (outputsOf ds) =
      (ds.flatMap fun d => (d.turns timeoutMs below.length).filter (d.due below.length)).map
        (·.2) := by
  induction ds with
  | nil => rfl
  | cons d ds ih =>
    have hhead : pumps d.outputs =
        ((d.turns timeoutMs below.length).filter (d.due below.length)).map (·.2) :=
      (h d List.mem_cons_self).pumped
    have htail := ih fun e he => h e (List.mem_cons_of_mem _ he)
    rw [outputsOf, List.flatMap_cons, pumps_append, hhead, ← outputsOf, htail, List.flatMap_cons,
      List.map_append]

theorem due_turns_sublist (ds : List Deed) (timeoutMs : Int) (n : Nat) :
    (ds.flatMap fun d => (d.turns timeoutMs n).filter (d.due n)).Sublist
      (ds.flatMap fun d => d.turns timeoutMs n) := by
  induction ds with
  | nil => exact List.Sublist.refl _
  | cons d ds ih =>
    rw [List.flatMap_cons, List.flatMap_cons]
    exact List.filter_sublist.append ih

namespace RunsFrom
variable {k : History} {past pre pass : List Deed} {r w : Deed} {timeoutMs : Int}
  {ready : List (Int × Handle)}

theorem ready_eq (h : RunsFrom k past r (pre ++ w :: pass) timeoutMs)
    (hready : w.waited? timeoutMs r.before.stack.length = some (.ok ready))
    (hpass : ∀ d ∈ pass, d.before.stack.length ≠ r.before.stack.length + 1) :
    ready = ((w :: pass).flatMap fun d => d.turns timeoutMs r.before.stack.length) ++
      k.loop.left r.before.stack.length := by
  -- each deed takes its turns off the front of what the deeds before it have left
  induction pass using List.reverseRecOn generalizing k with
  | nil =>
    have hqueue : w.queue timeoutMs r.before.stack.length = ready := by
      simp only [Deed.queue, hready]
    have hsplit := (h.dispatches w (by simp)).queue
    rw [hqueue, ← h.loop_eq_after] at hsplit
    simpa using hsplit
  | append_singleton pass d ih =>
    have hcons : pre ++ w :: (pass ++ [d]) = (pre ++ w :: pass) ++ [d] := by simp
    rw [hcons] at h
    obtain ⟨k', hk', hbefore, -, -⟩ := h.before
    have hearlier := ih hk' fun e he => hpass e (List.mem_append_left _ he)
    have hsplit := (h.dispatches d (by simp)).queue
    rw [Deed.queue_of_length (hpass d (by simp)), ← h.loop_eq_after, ← hbefore] at hsplit
    rw [hearlier, hsplit, ← List.cons_append, List.flatMap_append]
    simp

/-- No wait finds a handle twice, nor one that is not held. -/
theorem ready_held (h : RunsFrom k past r (pre ++ w :: pass) timeoutMs)
    (hready : w.waited? timeoutMs r.before.stack.length = some (.ok ready)) :
    (ready.map (·.2)).Nodup ∧ ∃ k' : History, k.deeds = k'.deeds ++ w :: pass ∧
      ∀ e ∈ ready, e.2 ∈ returned k'.deeds := by
  have hreported := h.reported w (by simp)
  obtain ⟨k', hk', hbefore, hfollows, -⟩ := h.before
  obtain ⟨reported, fault, hm, rfl⟩ := Deed.waited?_eq_ok hready
  rw [hfollows.event_of_waited hm] at hreported
  have hdeeds : k.deeds = k'.deeds ++ w :: pass := by simp [h.deeds, hk'.deeds]
  rw [← hbefore]
  by_cases hclosed : k'.loop.session.closed = true
  · have hnone : k'.loop.session.mux.ready reported = [] := by
      rw [Multiplexer.ready, if_pos (k'.sound.muxClosed.trans hclosed)]
    rw [hnone]
    exact ⟨List.nodup_nil, k', hdeeds, fun e he => absurd he List.not_mem_nil⟩
  · have hstep := k'.sound.inStep (by simpa using hclosed)
    refine ⟨hstep.nodup_ready k'.ledger.watchedOnce hreported, k', hdeeds, fun e he => ?_⟩
    have hwatched : e.2 ∈ k'.loop.session.mux.handles := List.mem_map_of_mem (hstep.mem_ready he)
    exact k'.ledger.opened _ (k'.ledger.watched _ hwatched)

theorem fails_eq_false {a b : List Deed} {d : Deed}
    (h : RunsFrom k past r (a ++ d :: b) timeoutMs) :
    ∀ p ∈ a, p.fails r.before.stack.length = false := by
  intro p hp
  obtain ⟨c, e, rfl⟩ := List.append_of_mem hp
  -- the deed after a failed pump would be outside of the run
  obtain ⟨next, rest, hnext⟩ : ∃ next rest, e ++ d :: b = next :: rest := by cases e <;> simp
  have hsplit : (c ++ p :: e) ++ d :: b = (c ++ [p]) ++ next :: rest := by simp [hnext]
  rw [hsplit] at h
  have hlonger := h.during next (by simp)
  obtain ⟨k', hk', hbefore, -, -⟩ := h.before
  by_contra hfails
  have hback := (hk'.dispatches p (by simp)).stack_of_fails (by simpa using hfails)
  rw [← hbefore, hk'.loop_eq_after, hback] at hlonger
  exact lt_irrefl _ hlonger

end RunsFrom

/-- With each handle in turn once, a handle is pumped just if it is due at its turn. -/
theorem mem_pumps_iff {a b : List Deed} {d : Deed} {timeoutMs : Int} {below : List Frame}
    (h : ∀ d' ∈ a ++ d :: b, d'.Dispatches timeoutMs below)
    (hn : (((a ++ d :: b).flatMap fun d' => d'.turns timeoutMs below.length).map (·.2)).Nodup)
    {e : Int × Handle} (he : e ∈ d.turns timeoutMs below.length) :
    e.2 ∈ pumps (outputsOf (a ++ d :: b)) ↔ d.due below.length e = true := by
  have hturn : e.2 ∈ (d.turns timeoutMs below.length).map (·.2) := List.mem_map_of_mem he
  rw [List.flatMap_append, List.flatMap_cons, List.map_append, List.map_append, List.nodup_append,
    List.nodup_append] at hn
  obtain ⟨-, ⟨hd, -, hlater⟩, hearlier⟩ := hn
  have hbefore : e.2 ∉ pumps (outputsOf a) := by
    rw [pumps_eq_of_dispatches fun d' hd' => h d' (List.mem_append_left _ hd')]
    intro hmem
    exact hearlier _ (((due_turns_sublist a _ _).map _).subset hmem) _
      (List.mem_append_left _ hturn) rfl
  have hafter : e.2 ∉ pumps (outputsOf b) := by
    rw [pumps_eq_of_dispatches fun d' hd' => h d' (by simp [hd'])]
    intro hmem
    exact hlater _ hturn _ (((due_turns_sublist b _ _).map _).subset hmem) rfl
  have hsplit : outputsOf (a ++ d :: b) = outputsOf a ++ (d.outputs ++ outputsOf b) := by
    simp [outputsOf]
  rw [hsplit, pumps_append, pumps_append, List.mem_append, List.mem_append, or_iff_right hbefore,
    or_iff_left hafter, (h d (by simp)).pumped]
  constructor
  · intro hmem
    obtain ⟨e', he', hhandle⟩ := List.mem_map.mp hmem
    obtain ⟨hin, hdue⟩ := List.mem_filter.mp he'
    exact List.inj_on_of_nodup_map hd hin he hhandle ▸ hdue
  · exact fun hdue => List.mem_map_of_mem (List.mem_filter.mpr ⟨he, hdue⟩)

/-- A pass of a run: the entries that its wait found come in turn, and those are pumped that are
still watched at their turn, on an open session and with no pump failed. -/
structure Pass (timeoutMs : Int) (n : Nat) (ready : List (Int × Handle)) (w : Deed)
    (pass : List Deed) : Prop where
  inTurn : ready = ((w :: pass).flatMap fun d => d.turns timeoutMs n) ++
    (pass.getLastD w).after.left n
  pumped : ∀ a d b, w :: pass = a ++ d :: b → ∀ e ∈ d.turns timeoutMs n,
    (e.2 ∈ pumps (outputsOf (w :: pass)) ↔ d.before.session.mux.isWatching e.1 e.2 = true ∧
      d.before.session.closed = false ∧ ∀ p ∈ a ++ [d], p.fails n = false)
  ordered : (pumps (outputsOf (w :: pass))).Sublist (ready.map (·.2))
  once : (pumps (outputsOf (w :: pass))).Nodup
  fresh : ∀ o ∈ openings (outputsOf (w :: pass)), o.handle ∉ pumps (outputsOf (w :: pass))

namespace RunsFrom
variable {k : History} {past pre pass ds : List Deed} {r w : Deed} {timeoutMs : Int}
  {ready : List (Int × Handle)}

theorem opened_late {k' : History} {o : Opening} (hk : k.deeds = k'.deeds ++ pass)
    (ho : o ∈ openings (outputsOf pass)) : o.handle ∉ returned k'.deeds := by
  have hnodup := k.returned_nodup
  rw [hk, returned_append, List.nodup_append] at hnodup
  intro hold
  exact hnodup.2.2 _ hold _ (List.mem_map_of_mem ho) rfl

theorem pass_of_ready (h : RunsFrom k past r (pre ++ w :: pass) timeoutMs)
    (hready : w.waited? timeoutMs r.before.stack.length = some (.ok ready))
    (hpass : ∀ d ∈ pass, d.before.stack.length ≠ r.before.stack.length + 1) :
    Pass timeoutMs r.before.stack.length ready w pass := by
  have hdispatches : ∀ d ∈ w :: pass, d.Dispatches timeoutMs r.before.stack :=
    fun d hd => h.dispatches d (List.mem_append_right _ hd)
  have hlast : k.loop = (pass.getLastD w).after := by
    obtain rfl | ⟨pass, last, rfl⟩ := List.eq_nil_or_concat pass
    · exact h.loop_eq_after
    · have hconcat : pre ++ w :: (pass.concat last) = (pre ++ w :: pass) ++ [last] := by simp
      rw [hconcat] at h
      simpa using h.loop_eq_after
  have hinTurn := hlast ▸ h.ready_eq hready hpass
  obtain ⟨hnodup, k', hdeeds, hheld⟩ := h.ready_held hready
  have hturns : (((w :: pass).flatMap fun d => d.turns timeoutMs r.before.stack.length).map
      (·.2)).Sublist (ready.map (·.2)) := by
    rw [hinTurn]
    exact (List.sublist_append_left _ _).map _
  have hordered : (pumps (outputsOf (w :: pass))).Sublist (ready.map (·.2)) := by
    rw [pumps_eq_of_dispatches hdispatches]
    exact ((due_turns_sublist _ _ _).map _).trans hturns
  refine ⟨hinTurn, ?_, hordered, hordered.nodup hnodup, ?_⟩
  · intro a d b hsplit e he
    have hearlier : ∀ p ∈ a, p.fails r.before.stack.length = false := by
      intro p hp
      rw [hsplit, ← List.append_assoc] at h
      exact h.fails_eq_false p (List.mem_append_right _ hp)
    rw [hsplit] at hdispatches hturns ⊢
    rw [mem_pumps_iff hdispatches (hturns.nodup hnodup) he, Deed.due, Loop.watches]
    simp only [Bool.and_eq_true, Bool.not_eq_true', List.mem_append, List.mem_singleton]
    constructor
    · rintro ⟨⟨hopen, hwatching⟩, hfails⟩
      exact ⟨hwatching, hopen, fun p hp => hp.elim (hearlier p) fun hd => hd ▸ hfails⟩
    · rintro ⟨hwatching, hopen, hfails⟩
      exact ⟨⟨hopen, hwatching⟩, hfails d (.inr rfl)⟩
  · intro o ho hpumped
    obtain ⟨e, he, hhandle⟩ := List.mem_map.mp (hordered.subset hpumped)
    exact opened_late hdeeds ho (hhandle ▸ hheld e he)

theorem countP_waited (h : RunsFrom k past r ds timeoutMs) (ht : timeoutMs ≠ 0) :
    ds.countP (fun d => (d.waited? timeoutMs r.before.stack.length).isSome) =
      if k.loop.stack.length = r.before.stack.length + 1 then 0 else 1 := by
  induction ds using List.reverseRecOn generalizing k with
  | nil =>
    have hloop : k.loop = r.after := History.loop_eq_after h.deeds
    simp [hloop, h.stack_after]
  | append_singleton ds d ih =>
    obtain ⟨k', hk', hbefore, -, -⟩ := h.before
    have hcount := ih hk'
    have hwaits := (h.dispatches d (by simp)).waits_iff ht
    rw [List.countP_append, hcount, h.loop_eq_after, hbefore, List.countP_singleton]
    by_cases hlength : d.before.stack.length = r.before.stack.length + 1
    · cases hw : d.waited? timeoutMs r.before.stack.length with
      | none =>
        have hafter := hwaits.mpr ⟨hlength, hw⟩
        simp [hlength, hafter]
      | some e =>
        have hafter : d.after.stack.length ≠ r.before.stack.length + 1 := by
          intro hafter
          have hnone := (hwaits.mp hafter).2
          rw [hw] at hnone
          cases hnone
        simp [hlength, hafter]
    · have hafter : d.after.stack.length ≠ r.before.stack.length + 1 :=
        fun hafter => hlength (hwaits.mp hafter).1
      simp [hlength, hafter, Deed.waited?_of_length hlength]

end RunsFrom

namespace History
variable {k : History} {past ds : List Deed} {r : Deed} {timeoutMs : Int}

/-- A run dispatches what is ready: it begins with a wait; each wait that ends well begins a pass,
that of a run with time the only one; and after each deed it waits, pumps or has come back as it
should. -/
theorem run_dispatches (h : RunsFrom k past r ds timeoutMs) :
    r.after.stack = .waiting timeoutMs :: r.before.stack ∧
    (∀ pre w pass rest ready, ds = pre ++ w :: pass ++ rest →
      w.waited? timeoutMs r.before.stack.length = some (.ok ready) →
      (∀ d ∈ pass, d.before.stack.length ≠ r.before.stack.length + 1) →
      Pass timeoutMs r.before.stack.length ready w pass) ∧
    (timeoutMs ≠ 0 → ds.countP (fun d => (d.waited? timeoutMs r.before.stack.length).isSome) =
      if k.loop.stack.length = r.before.stack.length + 1 then 0 else 1) ∧
    ∀ d ∈ ds, (d.fate timeoutMs r.before.stack.length).Meets timeoutMs r.before.stack d := by
  refine ⟨h.stack_after, ?_, h.countP_waited, fun d hd => (h.dispatches d hd).fate⟩
  rintro pre w pass rest ready rfl hready hpass
  obtain ⟨k', hk'⟩ := h.upTo
  exact hk'.pass_of_ready hready hpass

def reusing : History :=
  ((((((((((start "A" {} false {}).add {}
    (.request (.browse {} { ticket := 1 }) (.started 1 10))).add {}
    (.request (.browse {} { ticket := 2 }) (.started 2 11))).add {}
    (.request (.run 0) (.raised (.closed "")))).add {} (.waited [10, 11] none)).add {}
    (.report 1 (.browse 2 0 0 "B" (some "_ndn._udp") (some "local")))).add {}
    (.request (.cancel 2) (.raised (.closed "")))).add {}
    (.request (.browse {} { ticket := 3 }) (.started 3 11))).add {} (.finish false)).add {}
    (.pumped .delivered)).add {} (.waited [11] none) |>.add {} (.pumped (.refused ⟨-65563, "gone"⟩))

def reusingRun : Deed := reusing.deeds.get ⟨2, by decide +kernel⟩
def reusingWait : Deed := reusing.deeds.get ⟨3, by decide +kernel⟩

/-- The cancelled handle and the new one are not pumped in the first pass, and the run ends with the
code of the failed pump. -/
theorem run_dispatches_reusing : ∃ pass rest,
    RunsFrom reusing (reusing.deeds.take 2) reusingRun (reusingWait :: pass ++ rest) 0 ∧
    Pass 0 0 [(10, 1), (11, 2)] reusingWait pass ∧ pumps (outputsOf (reusingWait :: pass)) = [1] ∧
    pumps (outputsOf rest) = [3] ∧
    ∀ d ∈ rest.getLast?, outcomes d.outputs = [.ok (some (-65563))] := by
  have hrun : reusing.deeds = reusing.deeds.take 2 ++ reusingRun :: reusing.deeds.drop 3 := by
    rw [reusingRun, List.get_eq_getElem, ← List.drop_eq_getElem_cons, List.take_append_drop]
  have hds : reusing.deeds.drop 3 =
      reusingWait :: (reusing.deeds.drop 4).take 5 ++ reusing.deeds.drop 9 := by
    rw [reusingWait, List.get_eq_getElem, List.drop_eq_getElem_cons, List.cons_append,
      ← List.drop_drop (i := 5), List.take_append_drop]
  have hruns : RunsFrom reusing (reusing.deeds.take 2) reusingRun (reusing.deeds.drop 3) 0 := by
    refine ⟨hrun, by decide +kernel, by decide +kernel, by decide +kernel, by decide +kernel,
      by decide +kernel, ?_⟩
    iterate 11 refine onlySystemFaults_add ?_
    exact atEach_start _ _ _ _
  rw [hds] at hruns
  have hdepth : reusingRun.before.stack.length = 0 := by decide +kernel
  have hready : reusingWait.waited? 0 0 = some (.ok [(10, 1), (11, 2)]) := by decide +kernel
  obtain ⟨-, hpasses, -, hfates⟩ := run_dispatches hruns
  rw [hdepth] at hpasses hfates
  have hpass := hpasses [] reusingWait _ _ _ rfl hready (by decide +kernel)
  refine ⟨_, _, hruns, hpass, by decide +kernel, by decide +kernel, fun d hd => ?_⟩
  have hback : ∀ d ∈ (reusing.deeds.drop 9).getLast?, d.fate 0 0 = .back (.ok (some (-65563))) := by
    decide +kernel
  have hmeets := hfates d (List.mem_append_right _ (List.mem_of_getLast? hd))
  rw [hback d hd] at hmeets
  exact hmeets.2

def endless : History :=
  (((start "A" {} false {}).add {} (.request (.browse {} { ticket := 1 }) (.started 1 10))).add {}
    (.request (.run (10 ^ 400)) (.raised (.closed "")))).add {} (.waited [10] none)

/-- It comes back with neither a pass nor a number, though the session is open and watches the
descriptor. -/
theorem not_run_dispatches_endless :
    endless.deeds.map (·.event.run?) = [none, some (10 ^ 400), none] ∧
    endless.loop.session.closed = false ∧ endless.loop.session.mux.isWatching 10 1 = true ∧
    endless.loop.stack.length = 0 ∧ pumps (outputsOf endless.deeds) = [] ∧
    outcomes (outputsOf (endless.deeds.drop 1)) = [.error .waitTooLong] := by
  decide +kernel

end History
end ServiceDiscovery
