import Mathlib
import ServiceDiscovery.Proofs.Phases
import ServiceDiscovery.Proofs.Rounding

/-!
The deadline of a run of the command, beside a clock that only waits advance. Every waiting call
leaves less time, or the run is to end; so a run calls no more often than it has milliseconds, and
it leaves before its deadline is a cycle ago. The run counts in doubles, and what they are off by
comes on top.
-/
namespace ServiceDiscovery.Command
open Number

/-! ### Doubles -/

/-- The seconds that a run reads off a clock, which counts milliseconds, are off by a part in
`2 ^ 52`. -/
def Reads (now clock : ℚ) : Prop := |1000 * now - clock| ≤ (|clock| + 1) / 2 ^ 52

instance (now clock : ℚ) : Decidable (Reads now clock) :=
  inferInstanceAs (Decidable (|1000 * now - clock| ≤ (|clock| + 1) / 2 ^ 52))

/-- The time up to which a run can take its deadline to be ahead that first rested at `b`. -/
def Plan.due (p : Plan) (b : ℚ) : ℚ := b + p.exitAfterMs + (|b| + p.exitAfterMs) / 2 ^ 49

section Doubles
variable {p : Plan} {now now' b clock : ℚ} (hE : 0 < p.exitAfterMs)
include hE

theorem deadline_le (hset : Reads now b) :
    1000 * Run.deadline p now ≤ b + p.exitAfterMs + 6 * (|b| + p.exitAfterMs) / 2 ^ 53 := by
  have hlowest := two_zpow_lowest_le
  have hone : (1 : ℚ) ≤ p.exitAfterMs := by exact_mod_cast hE
  have hms := abs_nearest_sub_le p.exitAfterMs
  have hseconds := abs_nearest_sub_le (nearest p.exitAfterMs / 1000)
  have hsum := abs_nearest_sub_le (now + nearest (nearest p.exitAfterMs / 1000))
  unfold Run.deadline
  generalize nearest p.exitAfterMs = ms at *
  generalize nearest (ms / 1000) = seconds at *
  generalize nearest (now + seconds) = deadline at *
  generalize (p.exitAfterMs : ℚ) = E at *
  generalize (2 : ℚ) ^ (-1074 : ℤ) = lowest at *
  have hsize : |now| ≤ (|b| + (|b| + 1) / 2 ^ 52) / 1000 := by
    have hbeyond := (abs_sub_abs_le_abs_sub (1000 * now) b).trans hset
    rw [abs_mul, abs_of_pos (by norm_num : (0 : ℚ) < 1000)] at hbeyond
    linarith
  have hadded := abs_add_le now seconds
  rw [abs_of_pos (a := E) (by linarith)] at hms
  obtain ⟨hms, hms'⟩ := abs_le.mp hms
  rw [abs_of_pos (a := ms / 1000) (by linarith)] at hseconds
  obtain ⟨hseconds, hseconds'⟩ := abs_le.mp hseconds
  rw [abs_of_pos (a := seconds) (by linarith)] at hadded
  obtain ⟨-, hsum⟩ := abs_le.mp hsum
  obtain ⟨-, hset⟩ := abs_le.mp hset
  linarith [abs_nonneg b]

/-- A deadline that the run takes to be ahead is hardly past. -/
theorem lt_due (hset : Reads now b) (hread : Reads now' clock) (hb : b ≤ clock)
    (hlt : now' < Run.deadline p now) : clock < p.due b := by
  have hone : (1 : ℚ) ≤ p.exitAfterMs := by exact_mod_cast hE
  have hdeadline := deadline_le hE hset
  obtain ⟨hread, -⟩ := abs_le.mp hread
  have hsize : |clock| ≤ |b| ∨ |clock| = clock := by
    obtain hpos | hneg := le_or_gt 0 clock
    · exact .inr (abs_of_nonneg hpos)
    · rw [abs_of_neg hneg]
      exact .inl (by linarith [neg_le_abs b])
  unfold Plan.due
  obtain hsize | hsize := hsize
  · linarith [abs_nonneg b, neg_abs_le b]
  · linarith [abs_nonneg b, le_abs_self b]

theorem lt_due_self (b : ℚ) : b < p.due b := by
  have hpos : (0 : ℚ) < p.exitAfterMs := by exact_mod_cast hE
  unfold Plan.due
  linarith [abs_nonneg b]

end Doubles

/-! ### A run beside a clock -/

structure Tick where
  faults : CloseFaults := {}
  input : Input
  spent : ℚ := 0

structure Watch where
  run : Run
  /-- What the clock shows, in milliseconds. -/
  clock : ℚ
  /-- When the run first rested. -/
  began : Option ℚ := none
  /-- The timeouts of its waiting calls. -/
  calls : List Int := []
  /-- What waits took that failed. -/
  lost : ℚ := 0

def Stage.isResting : Stage → Bool
  | .resting _ => true
  | _ => false

def Input.now? : Input → Option ℚ
  | .proceed now _ => some now
  | _ => none

def Input.isReport : Input → Bool
  | .signal _ => true
  | .world (.reply ..) => true
  | _ => false

/-- A deadline that was set when a run first rested, at `b`. -/
def Plan.Sets (p : Plan) (b deadline : ℚ) : Prop :=
  ∃ now, Reads now b ∧ deadline = Run.deadline p now

@[reducible]
def Phase.Timed (p : Plan) (clock : ℚ) (began : Option ℚ) (calls : ℕ) (lost : ℚ) : Phase → Prop
  | .opening | .calling .asked _ => began = none ∧ calls = 0 ∧ lost = 0
  | .resting deadline | .calling (.passing deadline _) _ =>
    lost = 0 ∧ ∃ b, began = some b ∧ p.Sets b deadline ∧
    calls ≤ clock - b ∧ calls < p.due b - b + 1 ∧ clock < p.due b + Run.cycleMs p
  | .waiting deadline => lost = 0 ∧ ∃ b, began = some b ∧ p.Sets b deadline ∧
    calls ≤ clock - b + 1 ∧ clock < p.due b
  | .leaving _ | .ended _ => (began = none → calls = 0) ∧
    ∀ b, began = some b → calls < p.due b - b + 1 ∧ clock < p.due b + max (Run.cycleMs p : ℚ) lost

/-- What is left of a phase: the first request, its callbacks, then the time to the deadline, and in
it a pass. -/
def Phase.potential (time : ℕ) : Phase → ℕ ×ₗ ℕ ×ₗ ℕ
  | .opening => toLex (2, toLex (0, 0))
  | .calling .asked duties => toLex (1, toLex (0, load duties))
  | .resting _ => toLex (0, toLex (time, 1))
  | .waiting _ => toLex (0, toLex (time, 0))
  | .calling (.passing _ left) duties => toLex (0, toLex (time, 2 + left.length + load duties))
  | .leaving _ | .ended _ => toLex (0, toLex (0, 0))

/-- In every phase the calls are few, and the deadline is less than a cycle ago, or than a wait that
failed. -/
theorem Phase.Timed.bounds {p : Plan} {clock : ℚ} {began : Option ℚ} {calls : ℕ} {lost : ℚ}
    {φ : Phase} (h : φ.Timed p clock began calls lost) : (began = none → calls = 0) ∧
      ∀ b, began = some b → calls < p.due b - b + 1 ∧
      clock < p.due b + max (Run.cycleMs p : ℚ) lost := by
  have hcycle : (1 : ℚ) ≤ Run.cycleMs p := by exact_mod_cast Run.cycleMs_pos p
  have hmax := le_max_left (Run.cycleMs p : ℚ) lost
  match φ with
  | .opening | .calling .asked _ =>
    obtain ⟨rfl, rfl, -⟩ := h
    exact ⟨fun _ => rfl, nofun⟩
  | .resting deadline | .calling (.passing deadline _) _ =>
    obtain ⟨-, b, rfl, -, -, hcalls, hclock⟩ := h
    refine ⟨nofun, ?_⟩
    rintro b ⟨⟩
    exact ⟨hcalls, by linarith⟩
  | .waiting deadline =>
    obtain ⟨-, b, rfl, -, hcalls, hclock⟩ := h
    refine ⟨nofun, ?_⟩
    rintro b ⟨⟩
    exact ⟨by linarith, by linarith⟩
  | .leaving _ | .ended _ => exact h

theorem Phase.Timed.began_of_resting {p : Plan} {clock : ℚ} {began : Option ℚ} {calls : ℕ}
    {lost : ℚ} (deadline : ℚ) (h : (Phase.resting deadline).Timed p clock began calls lost) :
    began.isSome := by
  obtain ⟨-, b, rfl, -⟩ := h
  rfl

namespace Watch
variable {w : Watch} {t : Tick} {p : Plan} {φ φ' : Phase}

def start (p : Plan) (clock : ℚ) : Watch := ⟨Run.start p, clock, none, [], 0⟩

def tick (w : Watch) (t : Tick) : Watch :=
  let run := (w.run.step t.faults t.input).1
  { run
    clock := w.clock + t.spent
    began := w.began.or (if run.stage.isResting then some (w.clock + t.spent) else none)
    calls := w.calls ++ (w.run.calls? t.input).toList
    lost := match w.run.waited? t.input with
      | some (_, .error _) => w.lost + t.spent
      | _ => w.lost }

def after (w : Watch) (σ : ℕ → Tick) : ℕ → Watch
  | 0 => w
  | n + 1 => (w.after σ n).tick (σ n)

/-- How long a step may take that ends this wait, or none. Nothing is said of a wait that fails. -/
def Lasts (wait : Option (Int × Except Fault (List (Int × Handle)))) (spent : ℚ) : Prop :=
  match wait with
  | none => spent = 0
  | some (timeoutMs, .ok _) => 1 ≤ spent ∧ spent ≤ timeoutMs
  | some (_, .error _) => True

/-- The run reads the clock, and only waits advance it: by a millisecond at least and their timeout
at most, if they do not fail. -/
structure Admits (w : Watch) (t : Tick) : Prop where
  reads : ∀ now ∈ t.input.now?, Reads now w.clock
  lasts : Lasts (w.run.waited? t.input) t.spent

instance (wait : Option (Int × Except Fault (List (Int × Handle)))) (spent : ℚ) :
    Decidable (Lasts wait spent) :=
  match wait with
  | none => inferInstanceAs (Decidable (spent = 0))
  | some (timeoutMs, .ok _) => inferInstanceAs (Decidable (1 ≤ spent ∧ spent ≤ (timeoutMs : ℚ)))
  | some (_, .error _) => inferInstanceAs (Decidable True)

instance (w : Watch) (t : Tick) : Decidable (w.Admits t) :=
  decidable_of_iff ((∀ now ∈ t.input.now?, Reads now w.clock) ∧
    Lasts (w.run.waited? t.input) t.spent)
    ⟨fun h => ⟨h.1, h.2⟩, fun h => ⟨h.reads, h.lasts⟩⟩

theorem Admits.still (ha : w.Admits t) (hw : w.run.waited? t.input = none) : t.spent = 0 := by
  simpa [Lasts, hw] using ha.lasts

theorem Admits.waits (ha : w.Admits t) {timeoutMs : Int} {ready : List (Int × Handle)}
    (hw : w.run.waited? t.input = some (timeoutMs, .ok ready)) :
    1 ≤ t.spent ∧ t.spent ≤ timeoutMs := by
  simpa [Lasts, hw] using ha.lasts

theorem began_eq (hat : (w.tick t).run.At φ')
    (hb : w.began.isSome ∨ ∀ deadline, φ' ≠ .resting deadline) : (w.tick t).began = w.began := by
  cases hbegan : w.began with
  | some b => simp [tick, hbegan]
  | none =>
    have hφ := hb.resolve_left (by simp [hbegan])
    have hstage : (w.tick t).run.stage.isResting = false := by
      rw [hat.stage_eq]
      match φ' with
      | .resting deadline => exact absurd rfl (hφ deadline)
      | .opening | .waiting _ | .leaving _ | .ended _ | .calling .asked _ | .calling
        (.passing ..) _ => rfl
    simpa [tick, hbegan] using hstage

def time (w : Watch) (p : Plan) : ℕ := w.began.elim 0 fun b => ⌈p.due b - w.clock⌉₊

structure Meets (w : Watch) (p : Plan) (φ : Phase) : Prop where
  settled : w.run.Settled φ
  plan : w.run.plan = p
  timed : φ.Timed p w.clock w.began w.calls.length w.lost
  calls : ∀ timeoutMs ∈ w.calls, timeoutMs = Run.cycleMs p

theorem clock_eq (ha : w.Admits t) (hw : w.run.waited? t.input = none) :
    (w.tick t).clock = w.clock ∧ (w.tick t).lost = w.lost := by
  simp [tick, hw, ha.still hw]

theorem calls_eq (hc : w.run.calls? t.input = none) : (w.tick t).calls = w.calls := by
  simp [tick, hc]

theorem timed_of_quiet (ha : w.Admits t)
    (hquiet : w.run.waited? t.input = none ∧ w.run.calls? t.input = none)
    (hat : (w.tick t).run.At φ') (hb : w.began.isSome ∨ ∀ deadline, φ' ≠ .resting deadline)
    (h : φ'.Timed p w.clock w.began w.calls.length w.lost) :
    φ'.Timed p (w.tick t).clock (w.tick t).began (w.tick t).calls.length (w.tick t).lost := by
  obtain ⟨hclock, hlost⟩ := clock_eq ha hquiet.1
  rwa [hclock, began_eq hat hb, calls_eq hquiet.2, hlost]

namespace Meets

theorem quiet (h : w.Meets p φ) (hφ : ∀ deadline, φ ≠ .resting deadline ∧ φ ≠ .waiting deadline) :
    w.run.waited? t.input = none ∧ w.run.calls? t.input = none :=
  ⟨Run.waited?_eq_none h.settled.place (fun deadline => (hφ deadline).2) _,
    Run.calls?_eq_none h.settled.place (fun deadline => (hφ deadline).1) _⟩

theorem timed_rests (h : w.Meets p φ) (ha : w.Admits t) {now : ℚ} {answer : StartAnswer}
    (hi : t.input = .proceed now answer) (hφ : φ = .opening ∨ ∃ duties, φ = .calling .asked duties)
    (hat : (w.tick t).run.At (.resting (Run.deadline p now))) :
    (Phase.resting (Run.deadline p now)).Timed p (w.tick t).clock (w.tick t).began
      (w.tick t).calls.length
      (w.tick t).lost := by
  obtain ⟨hbegan, hcalls, hlost⟩ : w.began = none ∧ w.calls.length = 0 ∧ w.lost = 0 := by
    obtain rfl | ⟨duties, rfl⟩ := hφ
    · exact h.timed
    · exact h.timed
  obtain ⟨hwaited, hnone⟩ : w.run.waited? t.input = none ∧ w.run.calls? t.input = none := by
    obtain rfl | ⟨duties, rfl⟩ := hφ
    · exact h.quiet fun _ => ⟨nofun, nofun⟩
    · exact h.quiet fun _ => ⟨nofun, nofun⟩
  obtain ⟨hclock, hkept⟩ := clock_eq ha hwaited
  have hreads : Reads now w.clock := ha.reads now (by rw [hi]; rfl)
  have hset : (w.tick t).began = some (w.tick t).clock := by
    have hresting : (w.tick t).run.stage.isResting = true := by
      rw [hat.stage_eq]
      rfl
    simpa [tick, hbegan] using hresting
  have hdue := lt_due_self (h.plan ▸ h.settled.due) w.clock
  have hcycle : (1 : ℚ) ≤ Run.cycleMs p := by exact_mod_cast Run.cycleMs_pos p
  rw [hset, hclock, hkept, calls_eq hnone, hcalls]
  refine ⟨hlost, w.clock, rfl, ⟨now, hreads, rfl⟩, ?_, ?_, ?_⟩ <;> push_cast <;> linarith

theorem timed_calls {deadline : ℚ} (h : w.Meets p (.resting deadline)) (ha : w.Admits t) {now : ℚ}
    {answer : StartAnswer} (hi : t.input = .proceed now answer) (hnow : now < deadline)
    (hcalls : w.run.calls? t.input = some (Run.cycleMs w.run.plan))
    (hat : (w.tick t).run.At (.waiting deadline)) :
    (Phase.waiting deadline).Timed p (w.tick t).clock (w.tick t).began (w.tick t).calls.length
      (w.tick t).lost := by
  obtain ⟨hlost, b, hbegan, ⟨now', hset, rfl⟩, hspent, -, -⟩ := h.timed
  obtain ⟨hclock, hkept⟩ := clock_eq ha (Run.waited?_eq_none h.settled.place (fun _ => nofun) _)
  have hone : (w.tick t).calls.length = w.calls.length + 1 := by simp [tick, hcalls]
  have hreads : Reads now w.clock := ha.reads now (by rw [hi]; rfl)
  have hmade : (0 : ℚ) ≤ w.calls.length := w.calls.length.cast_nonneg
  have hsince : b ≤ w.clock := by linarith
  have hbefore := lt_due (h.plan ▸ h.settled.due) hset hreads hsince hnow
  rw [began_eq hat (.inr fun _ => nofun), hclock, hkept, hone]
  refine ⟨hlost, b, hbegan, ⟨now', hset, rfl⟩, ?_, hbefore⟩
  push_cast
  linarith

theorem timed_finds {deadline : ℚ} (h : w.Meets p (.waiting deadline)) (ha : w.Admits t)
    {ready : List (Int × Handle)}
    (hw : w.run.waited? t.input = some (Run.cycleMs w.run.plan, .ok ready))
    (hφ : φ' = .resting deadline ∨ ∃ left, φ' = .calling (.passing deadline left) [])
    (hat : (w.tick t).run.At φ') :
    φ'.Timed p (w.tick t).clock (w.tick t).began (w.tick t).calls.length (w.tick t).lost := by
  obtain ⟨hlost, b, hbegan, hset, hcalls, hclock⟩ := h.timed
  obtain ⟨hleast, hmost⟩ := ha.waits hw
  rw [h.plan] at hmost
  have hspends : (w.tick t).clock = w.clock + t.spent := rfl
  have hkept : (w.tick t).lost = w.lost := by simp [tick, hw]
  have hsame := calls_eq (Run.calls?_eq_none h.settled.place (fun _ => nofun) t.input)
  rw [began_eq hat (.inl (by rw [hbegan]; rfl)), hsame, hspends, hkept]
  obtain rfl | ⟨left, rfl⟩ := hφ <;> refine ⟨hlost, b, hbegan, hset, ?_, ?_, ?_⟩ <;> linarith

theorem timed_fails {deadline : ℚ} {e : Ending} (h : w.Meets p (.waiting deadline)) {f : Fault}
    (hw : w.run.waited? t.input = some (Run.cycleMs w.run.plan, .error f))
    (hat : (w.tick t).run.At (.leaving e)) :
    (Phase.leaving e).Timed p (w.tick t).clock (w.tick t).began (w.tick t).calls.length
      (w.tick t).lost := by
  obtain ⟨hlost, b, hbegan, -, hcalls, hclock⟩ := h.timed
  have hspends : (w.tick t).clock = w.clock + t.spent := rfl
  have hkept : (w.tick t).lost = w.lost + t.spent := by simp [tick, hw]
  have hsame := calls_eq (Run.calls?_eq_none h.settled.place (fun _ => nofun) t.input)
  have hmax := le_max_right (Run.cycleMs p : ℚ) (w.lost + t.spent)
  rw [began_eq hat (.inr fun _ => nofun), hsame, hspends, hkept, hbegan]
  refine ⟨nofun, ?_⟩
  rintro b ⟨⟩
  exact ⟨by linarith, by linarith⟩

theorem timed_tick (h : w.Meets p φ) (ha : w.Admits t) (hat : (w.tick t).run.At φ')
    (hm : Run.Moves t.faults w.run t.input φ φ') :
    φ'.Timed p (w.tick t).clock (w.tick t).began (w.tick t).calls.length (w.tick t).lost := by
  have htimed := h.timed
  have hkeeps (hφ : ∀ deadline, φ ≠ .resting deadline ∧ φ ≠ .waiting deadline)
      (hφ' : ∀ deadline, φ' ≠ .resting deadline)
      (hsame : φ'.Timed p w.clock w.began w.calls.length w.lost) :
      φ'.Timed p (w.tick t).clock (w.tick t).began (w.tick t).calls.length (w.tick t).lost :=
    timed_of_quiet ha (h.quiet hφ) hat (.inr hφ') hsame
  cases hm with
  | still hi =>
    refine timed_of_quiet ha (Run.quiet_of_untaken hi) hat ?_ htimed
    -- Only a rest could set the deadline, and one that lasts has it set.
    match φ with
    | .resting deadline => exact .inl (htimed.began_of_resting deadline)
    | .opening | .waiting _ | .leaving _ | .ended _ | .calling .. => exact .inr fun _ => nofun
  | asks | replies | ends | past => exact hkeeps (by simp) (by simp) htimed
  | @tells _ _ floor =>
    cases floor with
    | asked | passing => exact hkeeps (by simp) (by simp) htimed
  | rests hi hφ =>
    rw [h.plan] at hat ⊢
    exact h.timed_rests ha hi hφ hat
  | calls hi hnow hcalls => exact h.timed_calls ha hi hnow hcalls hat
  | finds hw hφ => exact h.timed_finds ha hw hφ hat
  | @pumps _ deadline _ _ hi hφ =>
    have hbegan := Phase.Timed.began_of_resting deadline htimed
    refine timed_of_quiet ha (h.quiet fun _ => ⟨nofun, nofun⟩) hat (.inl hbegan) ?_
    obtain rfl | ⟨left', -, rfl⟩ := hφ
    · exact htimed
    · exact htimed
  | @drops _ _ deadline =>
    have hbegan := Phase.Timed.began_of_resting deadline htimed
    exact timed_of_quiet ha (h.quiet fun _ => ⟨nofun, nofun⟩) hat (.inl hbegan) htimed
  | leaves hends hwaiting hresting =>
    have hbounds := htimed.bounds
    match φ with
    | .waiting deadline =>
      obtain ⟨f, hw⟩ := hwaiting deadline rfl
      exact h.timed_fails hw hat
    | .resting deadline =>
      have hquiet :=
        And.intro (Run.waited?_eq_none h.settled.place (fun _ => nofun) t.input)
            (hresting deadline rfl)
      exact timed_of_quiet ha hquiet hat (.inr fun _ => nofun) hbounds
    | .opening | .leaving _ | .ended _ | .calling .. => exact hkeeps (by simp) (by simp) hbounds

/-- What one step preserves. -/
theorem tick (h : w.Meets p φ) (ha : w.Admits t) :
    ∃ φ', (w.tick t).Meets p φ' ∧ Run.Moves t.faults w.run t.input φ φ' := by
  obtain ⟨φ', hsettled, hm⟩ := h.settled.step t.faults t.input
  refine ⟨φ',
    ⟨hsettled, (Run.plan_step _ _ _).trans h.plan, h.timed_tick ha hsettled.place hm, ?_⟩, hm⟩
  intro timeoutMs hmem
  obtain hold | hnew := List.mem_append.mp hmem
  · exact h.calls timeoutMs hold
  · obtain hnone | ⟨hcalls, -⟩ := Run.calls?_cases w.run t.input
    · simp [hnone] at hnew
    · simpa [hcalls, h.plan] using hnew

/-- A wait that did not fail leaves less time. -/
theorem time_lt {deadline : ℚ} (h : w.Meets p (.waiting deadline)) (ha : w.Admits t)
    {ready : List (Int × Handle)}
    (hw : w.run.waited? t.input = some (Run.cycleMs w.run.plan, .ok ready)) :
    (w.tick t).time p < w.time p := by
  obtain ⟨-, b, hbegan, -, -, hclock⟩ := h.timed
  obtain ⟨hleast, -⟩ := ha.waits hw
  have hkept : (w.tick t).began = some b := by simp [Watch.tick, hbegan]
  have hspends : (w.tick t).clock = w.clock + t.spent := rfl
  rw [time, time, hkept, hbegan, hspends]
  dsimp only [Option.elim_some]
  calc ⌈p.due b - (w.clock + t.spent)⌉₊ ≤ ⌈p.due b - w.clock - 1⌉₊ := Nat.ceil_le_ceil (by linarith)
    _ = ⌈p.due b - w.clock⌉₊ - 1 := Nat.ceil_sub_one _
    _ < ⌈p.due b - w.clock⌉₊ := Nat.sub_lt (Nat.ceil_pos.mpr (by linarith)) one_pos

theorem time_eq (h : w.Meets p φ) (ha : w.Admits t) (hφ : ∀ deadline, φ ≠ .waiting deadline)
    (hat : (w.tick t).run.At φ') (hb : w.began.isSome ∨ ∀ deadline, φ' ≠ .resting deadline) :
    (w.tick t).time p = w.time p := by
  rw [time, time, began_eq hat hb, (clock_eq ha (Run.waited?_eq_none h.settled.place hφ _)).1]

/-- A step that is made and in which nothing is reported uses up some of what is left, or the run is
to end. -/
theorem descends (h : w.Meets p φ) (ha : w.Admits t) (hat : (w.tick t).run.At φ')
    (hm : Run.Moves t.faults w.run t.input φ φ') (htaken : w.run.takes t.input = true)
    (hquiet : t.input.isReport = false) (hgoes : w.run.stage.ending? = none) :
    (∃ e, φ' = .leaving e) ∨
      φ'.stage.ending? = none ∧ φ'.potential ((w.tick t).time p) < φ.potential (w.time p) := by
  rw [h.settled.place.stage_eq] at hgoes
  cases hm with
  | still hi =>
    obtain ⟨name, hsignal⟩ := hi htaken
    rw [hsignal] at hquiet
    cases hquiet
  | asks => exact .inr ⟨rfl, by simp [Phase.potential, Prod.Lex.toLex_lt_toLex]⟩
  | @tells _ _ floor _ _ _ hload =>
    rw [h.time_eq ha nofun hat (.inr nofun)]
    cases floor with
    | asked | passing =>
      exact .inr ⟨rfl, by simpa [Phase.potential, Prod.Lex.toLex_lt_toLex] using hload⟩
  | rests hi hφ =>
    obtain rfl | ⟨duties, rfl⟩ := hφ
    · exact .inr ⟨rfl, by simp [Phase.potential, Prod.Lex.toLex_lt_toLex]⟩
    · exact .inr ⟨rfl, by simp [Phase.potential, Prod.Lex.toLex_lt_toLex]⟩
  | calls =>
    rw [h.time_eq ha nofun hat (.inr nofun)]
    exact .inr ⟨rfl, by simp [Phase.potential, Prod.Lex.toLex_lt_toLex]⟩
  | finds hw hφ =>
    have hless := h.time_lt ha hw
    obtain rfl | ⟨left, rfl⟩ := hφ
    · exact .inr ⟨rfl, by simp [Phase.potential, Prod.Lex.toLex_lt_toLex, hless]⟩
    · exact .inr ⟨rfl, by simp [Phase.potential, Prod.Lex.toLex_lt_toLex, hless]⟩
  | @pumps _ deadline left _ hi hφ =>
    have hbegan := Phase.Timed.began_of_resting deadline h.timed
    rw [h.time_eq ha nofun hat (.inl hbegan)]
    obtain rfl | ⟨left', hshorter, rfl⟩ := hφ
    · have hleft : 1 < 2 + left.length := by omega
      exact .inr ⟨rfl, by simpa [Phase.potential, Prod.Lex.toLex_lt_toLex] using hleft⟩
    · exact .inr ⟨rfl, by simpa [Phase.potential, Prod.Lex.toLex_lt_toLex] using hshorter⟩
  | replies hi | drops hi =>
    rw [hi] at hquiet
    cases hquiet
  | leaves => exact .inl ⟨_, rfl⟩
  | ends | past => cases hgoes

end Meets

theorem meets_start {p : Plan} (hE : 0 < p.exitAfterMs) (clock : ℚ) :
    (start p clock).Meets p .opening where
  settled := Run.settled_start hE
  plan := rfl
  timed := ⟨rfl, rfl, rfl⟩
  calls := by simp [start]

section Timeline
variable {σ : ℕ → Tick} (hadmits : ∀ n, (w.after σ n).Admits (σ n))
include hadmits

/-- What a whole run preserves, and how it leaves as long as nothing happens out of the ordinary. -/
theorem meets_after (h : w.Meets p φ) (hφ : ∀ e, φ ≠ .leaving e) (n : ℕ) :
    ∃ φ', (w.after σ n).Meets p φ' ∧ ((∀ k < n, Ordinary (σ k).faults (σ k).input) →
      ∀ e, φ' = .leaving e → p.Ends (fun f => ∃ k < n, (σ k).input.WaitRaises f) e) := by
  induction n with
  | zero => exact ⟨φ, h, fun _ e he => absurd he (hφ e)⟩
  | succ n ih =>
    obtain ⟨φ₁, hmeets, hends⟩ := ih
    obtain ⟨φ₂, hnext, hm⟩ := hmeets.tick (hadmits n)
    refine ⟨φ₂, hnext, fun hordinary e he => ?_⟩
    subst he
    cases hm with
    | still =>
      refine (hends (fun k hk => hordinary k (by omega)) e rfl).mono ?_
      rintro f ⟨k, hk, hf⟩
      exact ⟨k, by omega, hf⟩
    | leaves hleaves =>
      rw [hmeets.plan] at hleaves
      exact (hleaves (hordinary n (by omega))).mono fun f hf => ⟨n, by omega, hf⟩
    | finds _ hφ => simp at hφ
    | pumps _ hφ => simp at hφ

/-- Once nothing is reported any more the run leaves, if it and its surroundings go on. -/
theorem leaves_of_meets {N : ℕ}
    (htaken : ∀ n, (w.after σ n).run.stage.ending? = none →
      (w.after σ n).run.takes (σ n).input = true)
    (hquiet : ∀ n, N ≤ n → (σ n).input.isReport = false) (x : ℕ ×ₗ ℕ ×ₗ ℕ) :
    ∀ n φ, N ≤ n → (w.after σ n).Meets p φ → φ.potential ((w.after σ n).time p) = x →
      (w.after σ n).run.stage.ending? = none → ∃ m e, (w.after σ m).run.stage = .leaving e := by
  -- On what is left, in lexicographic order: a wait takes time, but a pass may begin after it.
  induction x using WellFoundedLT.induction with
  | ind x ih =>
    rintro n φ hn hmeets rfl hgoes
    obtain ⟨φ', hnext, hm⟩ := hmeets.tick (hadmits n)
    have hstage : (w.after σ (n + 1)).run.stage = φ'.stage := hnext.settled.place.stage_eq
    obtain ⟨e, rfl⟩ | ⟨hnone, hless⟩ :=
      hmeets.descends (hadmits n) hnext.settled.place hm (htaken n hgoes) (hquiet n hn) hgoes
    · exact ⟨n + 1, e, hstage⟩
    · exact ih _ hless (n + 1) φ' (by omega) hnext rfl (hstage ▸ hnone)

omit hadmits in
theorem leaves_of_ended (hw : w.run.stage.ended? = none) {n : ℕ} {e : Ending}
    (hstage : (w.after σ n).run.stage = .ended e) :
    ∃ m e', (w.after σ m).run.stage = .leaving e' := by
  induction n generalizing e with
  | zero =>
    rw [show w.run.stage = .ended e from hstage] at hw
    cases hw
  | succ n ih =>
    by_contra hnone
    have hl (e' : Ending) : (w.after σ n).run.stage ≠ .leaving e' := fun he => hnone ⟨n, e', he⟩
    have hsame := Run.ended?_step hl (σ n).faults (σ n).input
    rw [show ((w.after σ n).run.step (σ n).faults (σ n).input).1.stage = .ended e from
      hstage] at hsame
    cases hended : (w.after σ n).run.stage with
    | ended e' => exact hnone (ih hended)
    | _ =>
      rw [hended] at hsame
      cases hsame

end Timeline

/-- The deadline of a run, beside a clock that only waits advance, whatever it is for and whatever
happens. It makes no more waiting calls than its time has milliseconds, and none that waits for
ever; and it is less than a cycle late, or than a wait took that failed. To both comes what doubles
may be off by, less than a millisecond for the first 17000 years. Where nothing fails out of the
ordinary it leaves with an exit status, or for a time that is too large to wait for, or with what a
wait raised. And it does leave, once nothing is reported any more and as long as the one in control
goes on. -/
theorem leaves_by_deadline {plan : Plan} (hE : 0 < plan.exitAfterMs) (clock : ℚ) {σ : ℕ → Tick}
    (hadmits : ∀ n, ((start plan clock).after σ n).Admits (σ n)) :
    let watch := (start plan clock).after σ
    let slack b : ℚ := (|b| + plan.exitAfterMs) / 2 ^ 49
    (∀ n, ((watch n).began = none → (watch n).calls = []) ∧
      (∀ timeoutMs ∈ (watch n).calls, timeoutMs = Run.cycleMs plan ∧ timeoutMs ≠ 0) ∧
      (∀ b, (watch n).began = some b → (watch n).calls.length < plan.exitAfterMs + 1 + slack b ∧
        (watch n).clock <
          b + plan.exitAfterMs + slack b + max (Run.cycleMs plan : ℚ) (watch n).lost) ∧
      ((∀ k < n, Ordinary (σ k).faults (σ k).input) → ∀ e, (watch n).run.stage = .leaving e →
        plan.Ends (fun f => ∃ k < n, (σ k).input.WaitRaises f) e)) ∧
    ((∀ n, (watch n).run.stage.ending? = none → (watch n).run.takes (σ n).input = true) →
      (∃ N, ∀ n, N ≤ n → (σ n).input.isReport = false) →
      ∃ n e, (watch n).run.stage = .leaving e) := by
  intro watch slack
  have hmeets := meets_after hadmits (meets_start hE clock) nofun
  refine ⟨fun n => ?_, ?_⟩
  · obtain ⟨φ, h, hends⟩ := hmeets n
    obtain ⟨hnone, hbounds⟩ := h.timed.bounds
    refine ⟨fun hbegan => List.length_eq_zero_iff.mp (hnone hbegan), fun timeoutMs hmem => ?_,
      fun b hbegan => ?_,
      fun hordinary e hstage => hends hordinary e (Run.eq_leaving h.settled.place hstage)⟩
    · have hcycle := Run.cycleMs_pos plan
      have htimeout := h.calls timeoutMs hmem
      exact ⟨htimeout, by omega⟩
    · have hdue : plan.due b = b + plan.exitAfterMs + slack b := rfl
      obtain ⟨hcalls, hclock⟩ := hbounds b hbegan
      rw [hdue] at hcalls hclock
      exact ⟨by linarith, hclock⟩
  · rintro htaken ⟨N, hquiet⟩
    obtain ⟨φ, h, -⟩ := hmeets N
    cases hstage : (watch N).run.stage with
    | leaving e => exact ⟨N, e, hstage⟩
    | ended e => exact leaves_of_ended rfl hstage
    | _ => exact leaves_of_meets hadmits htaken hquiet _ N φ le_rfl h rfl (congrArg
      Stage.ending? hstage)

def endlessly (ticks : List Tick) (n : ℕ) : Tick :=
  ticks.getD n { input := .world (.pumped .delivered) }

section Endlessly
variable (ticks : List Tick) {e : Ending}

theorem endlessly_of_le {n : ℕ} (hn : ticks.length ≤ n) :
    endlessly ticks n = { input := .world (.pumped .delivered) } := List.getD_eq_default _ _ hn

theorem forall_endlessly {q : Tick → Prop} (hticks : ∀ t ∈ ticks, q t)
    (hidle : q { input := .world (.pumped .delivered) }) (n : ℕ) : q (endlessly ticks n) := by
  obtain hn | hn := Nat.lt_or_ge n ticks.length
  · rw [endlessly, List.getD_eq_getElem _ _ hn]
    exact hticks _ (List.getElem_mem hn)
  · rwa [endlessly_of_le ticks hn]

theorem admits_endlessly
    (hticks : ∀ n < ticks.length, (w.after (endlessly ticks) n).Admits (endlessly ticks n))
    (n : ℕ) :
    (w.after (endlessly ticks) n).Admits (endlessly ticks n) := by
  obtain hn | hn := Nat.lt_or_ge n ticks.length
  · exact hticks n hn
  · rw [endlessly_of_le ticks hn]
    exact ⟨nofun, rfl⟩

/-- Nothing that its surroundings do reaches a run that is to end. -/
theorem leaving_endlessly (hstage : (w.after (endlessly ticks) ticks.length).run.stage = .leaving e)
    {n : ℕ} (hn : ticks.length ≤ n) : (w.after (endlessly ticks) n).run.stage = .leaving e := by
  induction n, hn using Nat.le_induction with
  | base => exact hstage
  | succ n hn ih =>
    have hheld : (w.after (endlessly ticks) n).run.isWaiting = false := by simp [Run.isWaiting, ih]
    simpa [after, endlessly_of_le ticks hn, tick, Run.step, hheld] using ih

theorem taken_endlessly (hticks : ∀ n < ticks.length,
      (w.after (endlessly ticks) n).run.takes (endlessly ticks n).input = true)
    (hstage : (w.after (endlessly ticks) ticks.length).run.stage = .leaving e) (n : ℕ)
    (hgoes : (w.after (endlessly ticks) n).run.stage.ending? = none) :
    (w.after (endlessly ticks) n).run.takes (endlessly ticks n).input = true := by
  obtain hn | hn := Nat.lt_or_ge n ticks.length
  · exact hticks n hn
  · rw [leaving_endlessly ticks hstage hn] at hgoes
    cases hgoes

end Endlessly

def glance : Plan := { action := .browse false, uuid := "A", timeoutMs := 0, exitAfterMs := 2 }

def glanceTicks : List Tick := [
  { input := .proceed 0 (.started 1 3) }, { input := .proceed 0 (.refused ⟨0, ""⟩) },
  { input := .world (.waited [] none), spent := 1 },
  { input := .proceed (nearest (1 / 1000)) (.refused ⟨0, ""⟩) },
  { input := .world (.waited [3] none), spent := 1 }, { input := .world (.pumped .delivered) },
  { input := .proceed (nearest (2 / 1000)) (.refused ⟨0, ""⟩) }]

theorem leaves_by_deadline_glance :
    let watch := (start glance 0).after (endlessly glanceTicks)
    0 < glance.exitAfterMs ∧ (∀ n, (watch n).Admits (endlessly glanceTicks n)) ∧
    (∀ n, (watch n).run.stage.ending? = none →
      (watch n).run.takes (endlessly glanceTicks n).input = true) ∧
    (∀ n, 0 ≤ n → (endlessly glanceTicks n).input.isReport = false) ∧
    (∃ n e, (watch n).run.stage = .leaving e) ∧
    (watch 7).run.stage = .leaving (.exit 0) ∧ (watch 7).calls = [1, 1] ∧ (watch 7).began = some 0 ∧
    (watch 7).clock < 0 + 2 + (|0| + 2) / 2 ^ 49 + max 1 0 := by
  intro watch
  have hleaves : (watch 7).run.stage = .leaving (.exit 0) := by decide +kernel
  have hadmits := admits_endlessly (w := start glance 0) glanceTicks (by decide +kernel)
  have htaken := taken_endlessly (w := start glance 0) glanceTicks (by decide +kernel) hleaves
  have hquiet (n : ℕ) (_ : 0 ≤ n) : (endlessly glanceTicks n).input.isReport = false :=
    forall_endlessly glanceTicks (q := fun t => t.input.isReport = false) (by decide) rfl n
  have hE : 0 < glance.exitAfterMs := by decide
  obtain ⟨hbounds, hends⟩ := leaves_by_deadline hE 0 hadmits
  have hbegan : (watch 7).began = some 0 := by decide +kernel
  have hlost : (watch 7).lost = 0 := by decide +kernel
  obtain ⟨-, hclock⟩ := (hbounds 7).2.2.1 0 hbegan
  rw [hlost] at hclock
  exact ⟨hE, hadmits, htaken, hquiet, hends htaken ⟨0, hquiet⟩, hleaves, by decide +kernel, hbegan,
    by simpa [watch, glance, Run.cycleMs] using hclock⟩

def gaze : Plan := { glance with exitAfterMs := timeLimit }

def gazeTicks : List Tick := [{ input := .proceed 0 (.started 1 3) }]

/-- A wait that fails after longer than it was to take. -/
def blinkTicks : List Tick := [
  { input := .proceed 0 (.started 1 3) }, { input := .proceed 0 (.refused ⟨0, ""⟩) },
  { input := .world (.waited [] (some (.system ⟨some 5, "wait failed"⟩))), spent := 9 }]

def stare : Plan := { glance with timeoutMs := 2147483648 }

def stareTicks : List Tick := [
  { input := .proceed 0 (.started 1 3) }, { input := .proceed 0 (.refused ⟨0, ""⟩) },
  { input := .world (.waited [] (some (.failed "timeout is too large"))) }]

def peek : Plan := { glance with exitAfterMs := 1 }

/-- The sum of 0.008 and 0.001 in doubles is beyond 0.009. -/
def peekTicks : List Tick := [
  { input := .proceed (nearest (8 / 1000)) (.started 1 3) },
  { input := .proceed (nearest (8 / 1000)) (.refused ⟨0, ""⟩) },
  { input := .world (.waited [] none), spent := 1 },
  { input := .proceed (nearest (9 / 1000)) (.refused ⟨0, ""⟩) },
  { input := .world (.waited [] none), spent := 1 },
  { input := .proceed (nearest (10 / 1000)) (.refused ⟨0, ""⟩) }]

/-- Browsing starts well, nothing fails and nobody is kept waiting; but the run leaves by a fault,
with no status, for its own time or for that of its cycles. Where a wait fails late the run leaves
late, and where a sum is rounded up it makes one call too many. -/
theorem not_returns_in_time :
    (let watch := (start gaze 0).after (endlessly gazeTicks)
    0 < gaze.exitAfterMs ∧ (∀ n, (watch n).Admits (endlessly gazeTicks n)) ∧
    (∀ n, Ordinary (endlessly gazeTicks n).faults (endlessly gazeTicks n).input) ∧
    (∀ n, (watch n).run.stage.ending? = none →
      (watch n).run.takes (endlessly gazeTicks n).input = true) ∧
    (∀ n, (endlessly gazeTicks n).input.isReport = false) ∧
    (∃ n, (watch n).run.stage = .leaving (.escaped .waitTooLong)) ∧
    ∀ n code, (watch n).run.stage ≠ .leaving (.exit code)) ∧
    (let watch := (start stare 0).after (endlessly stareTicks)
    0 < stare.exitAfterMs ∧ (∀ n, (watch n).Admits (endlessly stareTicks n)) ∧
    (∀ n, Ordinary (endlessly stareTicks n).faults (endlessly stareTicks n).input) ∧
    (watch 2).run.stage.ending? = none ∧
    (watch 3).run.stage = .leaving (.escaped (.failed "timeout is too large"))) ∧
    (let watch := (start glance 0).after (endlessly blinkTicks)
    (∀ n, (watch n).Admits (endlessly blinkTicks n)) ∧
    (∀ n, Ordinary (endlessly blinkTicks n).faults (endlessly blinkTicks n).input) ∧
    (watch 2).run.stage.ending? = none ∧ (watch 3).run.stage = .leaving (.exit 5) ∧
    (watch 3).began = some 0 ∧
    0 + 2 + max 1 0 ≤ (watch 3).clock) ∧
    (let watch := (start peek 8).after (endlessly peekTicks)
    0 < peek.exitAfterMs ∧ (∀ n, (watch n).Admits (endlessly peekTicks n)) ∧
    (∀ n, Ordinary (endlessly peekTicks n).faults (endlessly peekTicks n).input) ∧
    (watch 6).run.stage = .leaving (.exit 0) ∧ (watch 6).began = some 8 ∧ (watch 6).lost = 0 ∧
    peek.exitAfterMs < (watch 6).calls.length ∧ 8 + 1 + max 1 0 ≤ (watch 6).clock) := by
  have hidle : Ordinary {} (.world (.pumped .delivered)) := ordinary_of_isCalm rfl
  have hordinary (ticks : List Tick)
      (hticks : ∀ t ∈ ticks, t.faults = {} ∧ t.input.isCalm = true) (n : ℕ) :
      Ordinary (endlessly ticks n).faults (endlessly ticks n).input := by
    refine forall_endlessly ticks (q := fun t => Ordinary t.faults t.input) (fun t ht => ?_) hidle n
    obtain ⟨hfaults, hcalm⟩ := hticks t ht
    exact hfaults ▸ ordinary_of_isCalm hcalm
  refine ⟨?_, ?_, ?_, ?_⟩
  · intro watch
    have hleaves : (watch 1).run.stage = .leaving (.escaped .waitTooLong) := by decide +kernel
    refine ⟨by decide +kernel, admits_endlessly gazeTicks (by decide +kernel),
      hordinary gazeTicks (by simp [gazeTicks, Input.isCalm]),
      taken_endlessly gazeTicks (by decide +kernel) hleaves,
      forall_endlessly gazeTicks (q := fun t => t.input.isReport = false) (by decide) rfl,
      ⟨1, hleaves⟩, fun n code => ?_⟩
    cases n with
    | zero =>
      show Stage.opening ≠ .leaving (.exit code)
      simp
    | succ n => simp [watch, leaving_endlessly gazeTicks hleaves (Nat.le_add_left 1 n)]
  · exact ⟨by decide, admits_endlessly stareTicks (by decide +kernel),
      hordinary stareTicks (by simp [stareTicks, Input.isCalm]), by decide +kernel,
      by decide +kernel⟩
  · exact ⟨admits_endlessly blinkTicks (by decide +kernel),
      hordinary blinkTicks (by simp [blinkTicks, Input.isCalm]),
      by decide +kernel, by decide +kernel, by decide +kernel, by decide +kernel⟩
  · exact ⟨by decide, admits_endlessly peekTicks (by decide +kernel),
      hordinary peekTicks (by simp [peekTicks, Input.isCalm]), by decide +kernel, by decide +kernel,
      by decide +kernel, by decide +kernel, by decide +kernel⟩

end Watch
end ServiceDiscovery.Command
