import ServiceDiscovery.Command.Run
import ServiceDiscovery.Proofs.Announcer
import ServiceDiscovery.Proofs.Trimming

/-!
Reading what a run of the command does: the lines it prints, the codes its waiting calls come back
with, and its exit. Lines about an announcement begin with one of two words, which tell them apart.
-/
namespace ServiceDiscovery.Text

theorem prefix_rdropWhile {α : Type} (p : α → Bool) {w : List α}
    (hw : ∀ hne : w ≠ [], ¬p (w.getLast hne)) (rest : List α) : w <+: (w ++ rest).rdropWhile p := by
  induction rest using List.reverseRecOn with
  | nil =>
    have hself : w.rdropWhile p = w := List.rdropWhile_eq_self_iff.mpr hw
    exact ⟨[], by simp [hself]⟩
  | append_singleton rest x ih =>
    rw [← List.append_assoc, List.rdropWhile_concat]
    split
    · exact ih
    · exact ⟨rest ++ [x], (List.append_assoc ..).symm⟩

end ServiceDiscovery.Text

namespace ServiceDiscovery.Command
open ServiceDiscovery.Text

def Event.line? : Event → Option String
  | .print line => some line
  | _ => none

/-- The number that a call to the session comes back with. In a run that announces only waiting
calls give one. -/
def Event.code? : Event → Option Int
  | .session (.returned (.ok code)) => code
  | _ => none

def Event.ending? : Event → Option Ending
  | .ended e => some e
  | _ => none

def lines (es : List Event) : List String := es.filterMap Event.line?
def codes (es : List Event) : List Int := es.filterMap Event.code?
def endings (es : List Event) : List Ending := es.filterMap Event.ending?

@[simp] theorem lines_append (a b : List Event) : lines (a ++ b) = lines a ++ lines b :=
  List.filterMap_append
@[simp] theorem codes_append (a b : List Event) : codes (a ++ b) = codes a ++ codes b :=
  List.filterMap_append
@[simp] theorem endings_append (a b : List Event) : endings (a ++ b) = endings a ++ endings b :=
  List.filterMap_append

def beginsWith (word line : String) : Bool := word.toList.isPrefixOf line.toList

def isRegistered (line : String) : Bool := beginsWith "REGISTERED" line
def isError (line : String) : Bool := beginsWith "ERROR" line

def exitStatus (codes : List Int) (lines : List String) : Int :=
  (codes.find? (· != 0)).getD (if lines.any isError then 1 else 0)

theorem exitStatus_of_zero {cs : List Int} (h : ∀ c ∈ cs, c = 0) (ls : List String) :
    exitStatus cs ls = if ls.any isError then 1 else 0 := by
  have hnone : cs.find? (· != 0) = none := by simpa using h
  rw [exitStatus, hnone, Option.getD_none]

theorem exitStatus_concat {cs : List Int} (h : ∀ c ∈ cs, c = 0) {code : Int} (hcode : code ≠ 0)
    (ls : List String) : exitStatus (cs ++ [code]) ls = code := by
  have hfirst : (cs ++ [code]).find? (· != 0) = some code := by
    rw [List.find?_append, List.find?_eq_none.mpr (by simpa using h)]
    simp [hcode]
  rw [exitStatus, hfirst, Option.getD_some]

theorem prefix_describe (kind : String)
    (hkind : ∀ hne : kind.toList ≠ [], isBlank (kind.toList.getLast hne) = false) (r : Record) :
    kind.toList <+: (describe kind r).toList := by
  have hline : ∃ rest, (s!"{kind} {r.uuid} {r.regtype} {r.domain}").toList = kind.toList ++ rest :=
    ⟨_, by simp only [String.toList_append, List.append_assoc]; rfl⟩
  obtain ⟨rest, hrest⟩ := hline
  rw [describe, trimEnd, String.toList_ofList, hrest, dropEndWhile_eq_rdropWhile]
  exact prefix_rdropWhile isBlank (fun hne => by simp [hkind hne]) rest

theorem isRegistered_describe (r : Record) :
    isRegistered (describe "REGISTERED" r) = true ∧ isError (describe "REGISTERED" r) = false := by
  obtain ⟨rest, hrest⟩ := prefix_describe "REGISTERED" (by decide) r
  constructor
  · rw [isRegistered, beginsWith, ← hrest, List.isPrefixOf_iff_prefix]
    exact List.prefix_append _ _
  · rw [isError, beginsWith, ← hrest]
    rfl

theorem isError_line (id code : Int) (message : String) :
    isRegistered s!"ERROR {id} {code} {message}" = false ∧
    isError s!"ERROR {id} {code} {message}" = true := by
  have hline : ∃ rest, (s!"ERROR {id} {code} {message}").toList = "ERROR".toList ++ rest :=
    ⟨_, by simp only [String.toList_append, List.append_assoc]; rfl⟩
  obtain ⟨rest, hrest⟩ := hline
  constructor
  · rw [isRegistered, beginsWith, hrest]
    rfl
  · rw [isError, beginsWith, hrest, List.isPrefixOf_iff_prefix]
    exact List.prefix_append _ _

namespace Run

theorem absorb_append_of_quiet (r : Run) {os : List Output} (hi : invocations os = [])
    (ho : outcomes os = []) (later : List Output) :
    r.absorb (os ++ later) = ((r.absorb later).1, os.map .session ++ (r.absorb later).2) := by
  induction os with
  | nil => rfl
  | cons o os ih =>
    cases o with
    | invoke i => cases hi
    | returned outcome => cases ho
    | _ => simp only [List.cons_append, absorb, ih hi ho, List.map_cons, List.nil_append]

theorem lines_session (os : List Output) : lines (os.map .session) = [] := by
  simp [lines, Event.line?]

theorem endings_session (os : List Output) : endings (os.map .session) = [] := by
  simp [endings, Event.ending?]

theorem codes_session {os : List Output} (ho : outcomes os = []) :
    codes (os.map .session) = [] := by
  induction os with
  | nil => rfl
  | cons o os ih =>
    cases o with
    | returned outcome => cases ho
    | _ => exact ih ho

theorem verdict_lineOf (r : Run) (haction : r.plan.action = .announce) {what : Notification}
    (hv : Verdict what) :
    isRegistered (r.lineOf what) = !isError (r.lineOf what) ∧
    isFailure r.plan what = isError (r.lineOf what) := by
  cases hv with
  | registered =>
    obtain ⟨hregistered, herror⟩ :=
      isRegistered_describe
        { (r.loop.session.ownRecord r.loop.records).shown with uuid := r.plan.uuid }
    rw [lineOf, hregistered, herror]
    exact ⟨rfl, rfl⟩
  | failed code message transient =>
    obtain ⟨hregistered, herror⟩ := isError_line (-1) code message
    rw [lineOf, hregistered, herror]
    exact ⟨rfl, by simp [isFailure, haction]⟩

theorem told_verdict {r : Run} (hduties : r.duties = []) {what : Notification} (hv : Verdict what) :
    r.told what =
      ({ r with
          duties := [.finish false]
          failed := r.failed || isFailure r.plan what
          stopped := r.stopped || isFailure r.plan what }, [.print (r.lineOf what)]) := by
  have hduty : dutyOf r.plan what = .finish false := by cases hv <;> rfl
  rw [told, hduties, hduty]

theorem plan_rest (r : Run) : r.rest.plan = r.plan := by
  unfold rest
  split
  · rfl
  · split <;> rfl

theorem plan_returned (r : Run) (o : Outcome) : (r.returned o).1.plan = r.plan := by
  unfold returned
  split
  · rfl
  · rfl
  · rfl
  · split
    · rfl
    · exact plan_rest r
  · rfl
  · dsimp only
    split <;> rfl
  · rfl

theorem plan_absorb (r : Run) (os : List Output) : (r.absorb os).1.plan = r.plan := by
  induction os generalizing r with
  | nil => rfl
  | cons o os ih =>
    cases o with
    | invoke i => exact ih (r.told i.what).1
    | returned o => exact (ih (r.returned o).1).trans (plan_returned r o)
    | _ => exact ih r

theorem plan_move (faults : CloseFaults) (r : Run) (m : Move) : (r.move faults m).1.plan = r.plan :=
  plan_absorb { r with loop := (r.loop.step faults m).1 } _

theorem plan_close (faults : CloseFaults) (r : Run) (e : Ending) :
    (r.close faults e).1.plan = r.plan := by
  have hmove := plan_move faults r (.request .close (.refused ⟨ErrorCode.noError, ""⟩))
  unfold close
  split
  rename_i hclosing
  rw [hclosing] at hmove
  split <;> exact hmove

theorem plan_proceed (faults : CloseFaults) (r : Run) (answer : StartAnswer) :
    (r.proceed faults answer).1.plan = r.plan := by
  unfold proceed
  split
  · exact plan_move faults { r with duties := _ } _
  · exact plan_move faults { r with duties := _ } _
  · exact plan_move faults { r with stage := .asked } _
  · split
    · rfl
    · exact plan_move faults { r with stage := _ } _
  · exact plan_close faults r _
  · rfl

/-- A run keeps to its plan. -/
theorem plan_step (faults : CloseFaults) (r : Run) (i : Input) :
    (r.step faults i).1.plan = r.plan := by
  cases i with
  | proceed now answer => exact plan_proceed faults { r with now } answer
  | signal name =>
    rw [step]
    split <;> rfl
  | world m =>
    rw [step]
    split
    · exact plan_move faults r m
    · rfl

theorem plan_steps (xs : List (CloseFaults × Input)) (r : Run) : (steps xs r).1.plan = r.plan := by
  induction xs generalizing r with
  | nil => rfl
  | cons x xs ih => exact (ih (r.step x.1 x.2).1).trans (plan_step x.1 r x.2)

end Run
end ServiceDiscovery.Command
