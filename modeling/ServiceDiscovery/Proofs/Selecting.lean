import ServiceDiscovery.Proofs.WatchList

/-!
A multiplexer under any calls, with handles that keep their descriptors. Several handles may have
the same descriptor; the one added last is watched on it, and removing one that was displaced does
not reach the one that displaced it.
-/
namespace ServiceDiscovery
namespace Multiplexer
variable {m : Multiplexer} {h h' : Handle} {d : Int}

theorem InStep.isWatching_add_of_ne (hm : m.InStep) (h h' : Handle) {d d' : Int} (hd : d' ≠ d) :
    (m.add h d).2.isWatching d' h' = m.isWatching d' h' := by
  obtain ⟨-, hin, -, hperm⟩ := hm.add h d
  rw [Bool.eq_iff_iff, hin.isWatching_iff, hm.isWatching_iff, hperm.mem_iff]
  simp [hd]

/-- The selector knows the descriptor of every handle that is watched, so it is never asked to give
up one that it does not have. -/
theorem InStep.unregister_remove (hm : m.InStep) (hd : m.descriptorOf? h = some d) :
    m.selector.unregister d = .ok (m.remove h).2.selector := by
  have hmem : d ∈ m.watched.map (·.1) := by
    obtain ⟨e, he, rfl⟩ := Option.map_eq_some_iff.mp hd
    exact List.mem_map_of_mem (List.mem_of_find?_eq_some he)
  have hfree := Selector.unregister_of_mem (hm.mem_registered_iff.mpr hmem)
  simp [Multiplexer.remove, hd, hfree, Except.toOption]

theorem InStep.isWatching_remove_of_ne (hm : m.InStep) (hn : m.handles.Nodup) (d : Int)
    (hh : h' ≠ h) : (m.remove h).2.isWatching d h' = m.isWatching d h' := by
  rw [Bool.eq_iff_iff, (hm.remove h).isWatching_iff, hm.isWatching_iff, watched_remove hm hn]
  simp [hh]

theorem contains_remove (hm : m.InStep) (hn : m.handles.Nodup) (h : Handle) :
    (m.remove h).2.contains h = false := by
  simp [contains, descriptorOf?, watched_remove hm hn]

inductive Action
  | add (h : Handle)
  | remove (h : Handle)
  | wait (timeoutMs : Int) (reported : List Int) (fault : Option Fault)
  deriving DecidableEq, Repr

def act (descriptor : Handle → Int) (m : Multiplexer) : Action → Multiplexer
  | .add h => (m.add h (descriptor h)).2
  | .remove h => (m.remove h).2
  | .wait .. => m

def after (descriptor : Handle → Int) (as : List Action) : Multiplexer :=
  as.foldl (act descriptor) {}

structure Steady (descriptor : Handle → Int) (m : Multiplexer) : Prop extends InStep m where
  own : ∀ e ∈ m.watched, e.1 = descriptor e.2

namespace Steady
variable {descriptor : Handle → Int}

theorem nodup_handles (hm : Steady descriptor m) : m.handles.Nodup := by
  refine (hm.nodup.of_map _).map_on fun e he e' he' hhandle => ?_
  exact Keyed.key_eq_of_mem hm.nodup he he' (by rw [hm.own e he, hm.own e' he', hhandle])

theorem empty : Steady descriptor {} := ⟨inStep_empty, by simp⟩

theorem add (hm : Steady descriptor m) (h : Handle) :
    Steady descriptor (m.add h (descriptor h)).2 := by
  obtain ⟨-, hin, -, hperm⟩ := hm.toInStep.add h (descriptor h)
  refine ⟨hin, fun e he => ?_⟩
  obtain rfl | hold := List.mem_cons.mp (hperm.mem_iff.mp he)
  · rfl
  · exact hm.own e (List.mem_of_mem_filter hold)

theorem remove (hm : Steady descriptor m) (h : Handle) : Steady descriptor (m.remove h).2 :=
  ⟨hm.toInStep.remove h, fun e he => hm.own e ((watched_remove_sublist m h).subset he)⟩

theorem act (hm : Steady descriptor m) (a : Action) : Steady descriptor (m.act descriptor a) := by
  cases a with
  | add h => exact hm.add h
  | remove h => exact hm.remove h
  | wait => exact hm

theorem run (hm : Steady descriptor m) (as : List Action) :
    Steady descriptor (as.foldl (Multiplexer.act descriptor) m) := by
  induction as generalizing m with
  | nil => exact hm
  | cons a as ih => exact ih (hm.act a)

end Steady

/-- Whatever was added, removed and waited for, the selector holds just the pairs of the map, each
descriptor once. It takes every handle that is added and gives up every handle that is removed;
adding one leaves the other descriptors as they are, removing one leaves the other handles as they
are. What a wait finds is watched, and once closed there is nothing left to find. -/
theorem selector_in_step (descriptor : Handle → Int) (as : List Action) :
    ((after descriptor as).watched.map (·.1)).Nodup ∧
    (after descriptor as).selector.registered.Perm (after descriptor as).watched ∧
    (∀ h, (∃ b, ((after descriptor as).add h (descriptor h)).1 = .ok b) ∧
      ((after descriptor as).add h (descriptor h)).2.isWatching (descriptor h) h = true ∧
      ∀ d h', d ≠ descriptor h →
        ((after descriptor as).add h (descriptor h)).2.isWatching d h' =
          (after descriptor as).isWatching d h') ∧
    (∀ h, (∀ d, (after descriptor as).descriptorOf? h = some d →
        (after descriptor as).selector.unregister d =
          .ok ((after descriptor as).remove h).2.selector) ∧
      ((after descriptor as).remove h).2.contains h = false ∧
      ∀ d h', h' ≠ h → ((after descriptor as).remove h).2.isWatching d h' =
        (after descriptor as).isWatching d h') ∧
    (∀ timeoutMs reported fault ready,
      (after descriptor as).wait timeoutMs reported fault = .ok ready →
      (∀ e ∈ ready, (after descriptor as).isWatching e.1 e.2 = true) ∧
      (reported.Nodup → (ready.map (·.1)).Nodup)) ∧
    (after descriptor as).close.watched = [] ∧
    ∀ timeoutMs reported fault,
      (after descriptor as).close.wait timeoutMs reported fault = .ok [] := by
  have hm : Steady descriptor (after descriptor as) := Steady.empty.run as
  generalize after descriptor as = m at hm
  refine ⟨hm.nodup, hm.perm, fun h => ⟨?_, ?_, ?_⟩, fun h => ⟨?_, ?_, ?_⟩, ?_, rfl, ?_⟩
  · exact (hm.toInStep.add h _).1
  · exact hm.isWatching_add h _
  · exact fun d h' hd => hm.isWatching_add_of_ne h h' hd
  · exact fun d hd => hm.unregister_remove hd
  · exact contains_remove hm.toInStep hm.nodup_handles h
  · exact fun d h' hh => hm.isWatching_remove_of_ne hm.nodup_handles d hh
  · rintro timeoutMs reported fault ready hwait
    rw [wait_eq_ok hwait]
    refine ⟨fun e he => hm.isWatching_iff.mpr (hm.mem_ready he), fun hreported => ?_⟩
    exact (m.map_fst_ready_sublist reported).nodup hreported
  · intro timeoutMs reported fault
    simp [close, wait]

/-- Handle 3 has a descriptor of its own, all others share one. -/
def shared : Handle → Int
  | 3 => 8
  | _ => 7

/-- Handle 2 takes over the descriptor of handle 1, which is removed after that. -/
theorem selector_in_step_takenOver :
    after shared [.add 1, .add 3, .add 2] =
      { watched := [(7, 2), (8, 3)], selector := ⟨[(8, 3), (7, 2)]⟩ } ∧
    ((after shared [.add 1, .add 3, .add 2]).add 1 7).2.isWatching 8 3 = true ∧
    ((after shared [.add 1, .add 3, .add 2]).remove 1).2.isWatching 7 2 = true ∧
    (after shared [.add 1, .add 3, .add 2]).selector.unregister 8 =
      .ok ((after shared [.add 1, .add 3, .add 2]).remove 3).2.selector ∧
    (after shared [.add 1, .add 3, .add 2]).wait 0 [7, 8] none = .ok [(7, 2), (8, 3)] ∧
    (([(7, 2), (8, 3)] : List (Int × Handle)).map (·.1)).Nodup := by
  obtain ⟨-, -, hadd, hremove, hwait, -⟩ := selector_in_step shared [.add 1, .add 3, .add 2]
  have hfound : (after shared [.add 1, .add 3, .add 2]).wait 0 [7, 8] none =
      .ok [(7, 2), (8, 3)] := by
    decide +kernel
  refine ⟨by decide, ?_, ?_, (hremove 3).1 8 (by decide), hfound, (hwait
    _ _ _ _ hfound).2 (by decide)⟩
  · exact ((hadd 1).2.2 8 3 (by decide)).trans (by decide)
  · exact ((hremove 1).2.2 7 2 (by decide)).trans (by decide)

end Multiplexer
end ServiceDiscovery
