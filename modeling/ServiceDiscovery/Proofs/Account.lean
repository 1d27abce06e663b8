import ServiceDiscovery.Session.Basic

/-!
Reading outputs: the handles they open, close and pump, and whom they tell.
-/
namespace ServiceDiscovery

structure Opening where
  handle : Handle
  descriptor : Int
  request : StartRequest
  deriving DecidableEq

def Output.opening? : Output → Option Opening
  | .start r (.started h d) => some ⟨h, d, r⟩
  | _ => none

def Output.released? : Output → Option Handle
  | .release h => some h
  | _ => none

def Output.pumped? : Output → Option Handle
  | .pump h => some h
  | _ => none

def Output.invocation? : Output → Option Invocation
  | .invoke i => some i
  | _ => none

def Output.outcome? : Output → Option Outcome
  | .returned o => some o
  | _ => none

def openings (os : List Output) : List Opening := os.filterMap Output.opening?
def releases (os : List Output) : List Handle := os.filterMap Output.released?
def pumps (os : List Output) : List Handle := os.filterMap Output.pumped?
def invocations (os : List Output) : List Invocation := os.filterMap Output.invocation?
def outcomes (os : List Output) : List Outcome := os.filterMap Output.outcome?

@[simp] theorem openings_append (a b : List Output) :
    openings (a ++ b) = openings a ++ openings b :=
  List.filterMap_append
@[simp] theorem releases_append (a b : List Output) :
    releases (a ++ b) = releases a ++ releases b :=
  List.filterMap_append
@[simp] theorem pumps_append (a b : List Output) : pumps (a ++ b) = pumps a ++ pumps b :=
  List.filterMap_append
@[simp] theorem invocations_append (a b : List Output) :
    invocations (a ++ b) = invocations a ++ invocations b :=
  List.filterMap_append
@[simp] theorem outcomes_append (a b : List Output) :
    outcomes (a ++ b) = outcomes a ++ outcomes b :=
  List.filterMap_append

theorem mem_invocations {i : Invocation} {os : List Output} :
    i ∈ invocations os ↔ .invoke i ∈ os := by
  simp only [invocations, List.mem_filterMap]
  constructor
  · rintro ⟨o, ho, hi⟩
    cases o with
    | invoke j => exact Option.some.inj hi ▸ ho
    | _ => cases hi
  · exact fun hi => ⟨_, hi, rfl⟩

structure Accounts (os : List Output) (opened : List Opening) (closed : List Handle) : Prop where
  openings : openings os = opened
  releases : releases os = closed
  pumps : pumps os = []
  invocations : invocations os = []

theorem Accounts.append {a b : List Output} {o o' : List Opening} {c c' : List Handle}
    (ha : Accounts a o c) (hb : Accounts b o' c') : Accounts (a ++ b) (o ++ o') (c ++ c') := by
  constructor
  · rw [openings_append, ha.openings, hb.openings]
  · rw [releases_append, ha.releases, hb.releases]
  · rw [pumps_append, ha.pumps, hb.pumps, List.append_nil]
  · rw [invocations_append, ha.invocations, hb.invocations, List.append_nil]

theorem Accounts.nil : Accounts [] [] [] := ⟨rfl, rfl, rfl, rfl⟩

theorem Accounts.notice (n : Notice) : Accounts [.notice n] [] [] := ⟨rfl, rfl, rfl, rfl⟩

theorem Accounts.add_notice {os : List Output} {o : List Opening} {c : List Handle}
    (h : Accounts os o c) (n : Notice) : Accounts (os ++ [.notice n]) o c := by
  simpa using h.append (.notice n)


theorem Accounts.started (r : StartRequest) (h : Handle) (d : Int) :
    Accounts [.start r (.started h d)] [⟨h, d, r⟩] [] := ⟨rfl, rfl, rfl, rfl⟩

def Output.logs : Output → Bool
  | .notice _ => true
  | _ => false

def unlogged (os : List Output) : List Output := os.filter (!·.logs)

@[simp] theorem unlogged_append (a b : List Output) :
    unlogged (a ++ b) = unlogged a ++ unlogged b :=
  List.filter_append ..

theorem filterMap_unlogged {α : Type} {f : Output → Option α} (hf : ∀ n, f (.notice n) = none)
    (os : List Output) : (unlogged os).filterMap f = os.filterMap f := by
  induction os with
  | nil => rfl
  | cons o os ih =>
    have hcons : unlogged (o :: os) = if o.logs then unlogged os else o :: unlogged os := by
      cases o <;> rfl
    cases o with
    | notice n => rw [hcons, List.filterMap_cons_none (hf n)]; exact ih
    | _ => simp only [hcons, Output.logs, List.filterMap_cons, ih, Bool.false_eq_true, if_false]

def Closes (os : List Output) (hs : List Handle) : Prop := unlogged os = hs.map .release

namespace Closes
variable {os os' : List Output} {hs hs' : List Handle}

theorem append (h : Closes os hs) (h' : Closes os' hs') : Closes (os ++ os') (hs ++ hs') := by
  rw [Closes, unlogged_append, h, h', List.map_append]

theorem nil : Closes [] [] := rfl
theorem notice (n : Notice) : Closes [.notice n] [] := rfl
theorem release (h : Handle) : Closes [.release h] [h] := rfl

theorem add_notice (h : Closes os hs) (n : Notice) : Closes (os ++ [.notice n]) hs := by
  simpa using h.append (notice n)

theorem filterMap_eq {α : Type} {f : Output → Option α} (hf : ∀ n, f (.notice n) = none)
    (h : Closes os hs) :
    os.filterMap f = hs.filterMap fun h => f (.release h) := by
  rw [← filterMap_unlogged hf os, h, List.filterMap_map]
  rfl

theorem outcomes (h : Closes os hs) : outcomes os = [] :=
  (h.filterMap_eq fun _ => rfl).trans (by simp [Output.outcome?])

theorem accounts (h : Closes os hs) : Accounts os [] hs := by
  constructor
  · exact (h.filterMap_eq fun _ => rfl).trans (by simp [Output.opening?])
  · exact (h.filterMap_eq fun _ => rfl).trans (by simp [Output.released?])
  · exact (h.filterMap_eq fun _ => rfl).trans (by simp [Output.pumped?])
  · exact (h.filterMap_eq fun _ => rfl).trans (by simp [Output.invocation?])

end Closes

end ServiceDiscovery
