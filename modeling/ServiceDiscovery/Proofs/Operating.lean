import ServiceDiscovery.Proofs.Endpoints

/-!
What the operations of the engine make of its endpoints. None goes away, serves another purpose or
opens again; an endpoint that browses queues nothing but events of the browse.
-/
namespace ServiceDiscovery

def Reply.isBrowse : Reply → Bool
  | .browse .. => true
  | _ => false

namespace Multicast

/-- Whatever code names the transport, the registration type is that of a transport. -/
theorem exists_make (code : Int) (subtype : String) :
    ∃ t : Transport, RegType.make code subtype = RegType.make t.code subtype := by
  by_cases hcode : code = Transport.udp.code
  · exact ⟨.udp, by rw [hcode]⟩
  · refine ⟨.tcp, ?_⟩
    have hlabel : RegType.transportLabel code = RegType.transportLabel Transport.tcp.code := by
      rw [RegType.transportLabel, if_neg hcode]
      rfl
    simp only [RegType.make, hlabel]

namespace Endpoint
variable {p : Endpoint}

/-- As long as it is open an endpoint is connected. One that browses, for a type whose replies name
their transport, has no thread and queues events of the browse. -/
structure Tidy (p : Endpoint) : Prop where
  connected : p.queue.closed = false → p.queue.Open
  browse : ∀ type i b, p.purpose = .browse type i b → p.work = .finished ∧
    (RegType.transport? type.reply).isSome ∧ ∀ r ∈ p.queue.events, r.isBrowse

structure Evolves (p p' : Endpoint) : Prop where
  purpose : p'.purpose = p.purpose
  closed : p'.queue.closed = p.queue.closed
  tidy : p'.Tidy

theorem post_eq (hp : p.Tidy) (room : Nat) (r : Reply) :
    ∃ unread, (p.post room r).2 =
      if p.queue.closed then p
      else { p with queue := { p.queue with events := p.queue.events ++ [r], unread } } := by
  by_cases hclosed : p.queue.closed = true
  · exact ⟨0, by simp [post, Queue.post, hclosed]⟩
  · have hopen := hp.connected (by simpa using hclosed)
    exact ⟨_, by rw [if_neg hclosed, post, hopen.post_eq]⟩

theorem evolves_post (hp : p.Tidy) (room : Nat) {r : Reply}
    (hr : ∀ type i b, p.purpose = .browse type i b → r.isBrowse) : p.Evolves (p.post room r).2 := by
  obtain ⟨unread, hpost⟩ := post_eq hp room r
  rw [hpost]
  split
  · exact ⟨rfl, rfl, hp⟩
  · refine ⟨rfl, rfl, ⟨fun hopen => ?_, fun type i b hbrowse => ?_⟩⟩
    · have hopen := hp.connected hopen
      exact ⟨hopen.reader, hopen.writer, hopen.closed⟩
    · obtain ⟨hwork, ht, hevents⟩ := hp.browse type i b hbrowse
      refine ⟨hwork, ht, fun r' hr' => ?_⟩
      obtain hr' | hr' := List.mem_append.mp hr'
      · exact hevents r' hr'
      · rw [List.mem_singleton.mp hr']
        exact hr type i b hbrowse

theorem evolves_change (hp : p.Tidy) (room : Nat) (kind name : String) :
    p.Evolves (p.change room kind name).2.1 := by
  unfold change
  split
  · exact evolves_post hp room fun _ _ _ _ => rfl
  · exact ⟨rfl, rfl, hp⟩

theorem evolves_work (hp : p.Tidy) {p' : Endpoint} (hpurpose : p'.purpose = p.purpose)
    (hqueue : p'.queue = p.queue) (hbusy : p.work ≠ .finished ∨ p'.work = .finished) :
    p.Evolves p' := by
  refine ⟨hpurpose,
    by rw [hqueue], ⟨by rw [hqueue]; exact hp.connected, fun type i b hbrowse => ?_⟩⟩
  obtain ⟨hwork, ht, hevents⟩ := hp.browse type i b (hpurpose ▸ hbrowse)
  exact ⟨hbusy.resolve_left fun h => h hwork, ht, hqueue ▸ hevents⟩

theorem evolves_workStep (hp : p.Tidy) (net : Network) : p.Evolves (p.workStep net).2.1 := by
  unfold workStep
  split
  · rename_i hwork
    have hbusy : p.work ≠ .finished := by simp [hwork]
    unfold ask
    split
    · exact evolves_work hp rfl rfl (.inl hbusy)
    · exact evolves_work hp rfl rfl (.inl hbusy)
    · split <;> exact evolves_work hp rfl rfl (.inl hbusy)
  · rename_i hwork _
    have hbusy : p.work ≠ .finished := by simp [hwork]
    split <;> exact evolves_work hp rfl rfl (.inl hbusy)
  · exact evolves_work hp rfl rfl (.inr rfl)
  · rename_i r hwork
    have hpost := evolves_post (r := r) hp net.room fun type i b hbrowse => by
      rw [(hp.browse type i b hbrowse).1] at hwork
      cases hwork
    exact ⟨hpost.purpose, hpost.closed, ⟨hpost.tidy.connected, fun type i b hbrowse =>
      ⟨rfl, (hpost.tidy.browse type i b hbrowse).2⟩⟩⟩
  · exact evolves_work hp rfl rfl (.inr rfl)

theorem evolves_take (hp : p.Tidy) : p.Evolves { p with queue := p.queue.take.2 } ∧
    (p.queue.closed = false →
      p.queue.take = (.ok p.queue.events, { p.queue with events := [], unread := 0 })) := by
  by_cases hclosed : p.queue.closed = true
  · have htake : p.queue.take.2 = p.queue := by simp [Queue.take, hclosed]
    rw [htake]
    exact ⟨⟨rfl, rfl, hp⟩, fun hopen => absurd hclosed (by simp [hopen])⟩
  · have hopen := hp.connected (by simpa using hclosed)
    rw [hopen.take_eq]
    refine ⟨⟨rfl, rfl, ⟨fun _ => ⟨hopen.reader, hopen.writer, hopen.closed⟩,
      fun type i b hbrowse => ?_⟩⟩,
      fun _ => rfl⟩
    obtain ⟨hwork, ht, -⟩ := hp.browse type i b hbrowse
    exact ⟨hwork, ht, fun r hr => absurd hr List.not_mem_nil⟩

theorem close_eq (p : Endpoint) : ∃ registered, p.close.1 =
    if p.queue.closed then p else { p with queue := p.queue.close, registered } := by
  by_cases hclosed : p.queue.closed = true
  · exact ⟨false, by simp [close, shut, hclosed]⟩
  · simp only [close, shut, hclosed, Bool.false_eq_true, if_false, giveBack]
    split
    · exact ⟨p.registered, rfl⟩
    · exact ⟨p.registered, rfl⟩
    · split
      · exact ⟨false, rfl⟩
      · exact ⟨p.registered, rfl⟩

theorem closed_close (hp : p.Tidy) :
    p.close.1.purpose = p.purpose ∧ p.close.1.queue.closed = true ∧ p.close.1.Tidy := by
  obtain ⟨registered, hclose⟩ := p.close_eq
  rw [hclose]
  split
  · rename_i hclosed
    exact ⟨rfl, hclosed, hp⟩
  · exact ⟨rfl, rfl, ⟨(fun hopen => nomatch hopen), hp.browse⟩⟩

end Endpoint

namespace Engine
variable {e e' e'' : Engine} {h h' : Handle} {p p' : Endpoint} {closed closed' : List Handle}

def Tidy (e : Engine) : Prop := ∀ h p, e.endpoint? h = some p → p.Tidy

theorem lt_of_endpoint? (hp : e.endpoint? h = some p) : h < e.endpoints.length :=
  (List.getElem?_eq_some_iff.mp hp).1

theorem endpoint?_modify_of_ne (f : Endpoint → Endpoint) (hne : h ≠ h') :
    (e.modify h f).endpoint? h' = e.endpoint? h' := by
  simp [endpoint?, modify, hne]

theorem endpoint?_of_modify {p'' : Endpoint} (hp : e.endpoint? h = some p)
    (hp'' : (e.modify h fun _ => p').endpoint? h' = some p'') :
    h' = h ∧ p'' = p' ∨ h' ≠ h ∧ e.endpoint? h' = some p'' := by
  by_cases hh : h' = h
  · subst hh
    rw [endpoint?_modify _ hp] at hp''
    exact .inl ⟨rfl, (Option.some.inj hp'').symm⟩
  · rw [endpoint?_modify_of_ne _ (Ne.symm hh)] at hp''
    exact .inr ⟨hh, hp''⟩

theorem length_modify (e : Engine) (h : Handle) (f : Endpoint → Endpoint) :
    (e.modify h f).endpoints.length = e.endpoints.length := List.length_modify ..

structure Grows (closed : List Handle) (e e' : Engine) : Prop where
  length : e.endpoints.length ≤ e'.endpoints.length
  old : ∀ h p', e'.endpoint? h = some p' → h < e.endpoints.length → ∃ p, e.endpoint? h = some p ∧
    p'.purpose = p.purpose ∧ (p.queue.closed = true → p'.queue.closed = true) ∧
    (p'.queue.closed = true → p.queue.closed = true ∨ h ∈ closed)

theorem Grows.refl (e : Engine) : e.Grows [] e :=
  ⟨Nat.le_refl _, fun _ p hp _ => ⟨p, hp, rfl, id, Or.inl⟩⟩

theorem Grows.trans (h : Grows closed e e') (h' : Grows closed' e' e'') :
    Grows (closed ++ closed') e e'' := by
  refine ⟨Nat.le_trans h.length h'.length, fun i p'' hp'' hi => ?_⟩
  obtain ⟨p', hp', hpurpose', hstays', hcloses'⟩ :=
    h'.old i p'' hp'' (Nat.lt_of_lt_of_le hi h.length)
  obtain ⟨p, hp, hpurpose, hstays, hcloses⟩ := h.old i p' hp' hi
  refine ⟨p, hp, hpurpose'.trans hpurpose, hstays' ∘ hstays, fun hclosed => ?_⟩
  obtain hbefore | hnow := hcloses' hclosed
  · exact (hcloses hbefore).imp_right fun hin => List.mem_append_left _ hin
  · exact .inr (List.mem_append_right _ hnow)

theorem Grows.open_before (hg : e.Grows closed e') (hlt : h < e.endpoints.length)
    (hp' : e'.endpoint? h = some p') (hopen : p'.queue.closed = false) :
    ∃ p, e.endpoint? h = some p ∧ p'.purpose = p.purpose ∧ p.queue.closed = false := by
  obtain ⟨p, hp, hpurpose, hstays, -⟩ := hg.old h p' hp' hlt
  refine ⟨p, hp, hpurpose, Bool.eq_false_iff.mpr fun hclosed => ?_⟩
  rw [hstays hclosed] at hopen
  cases hopen

theorem Grows.replace (hp : e.endpoint? h = some p) (hpurpose : p'.purpose = p.purpose)
    (hstays : p.queue.closed = true → p'.queue.closed = true)
    (hcloses : p'.queue.closed = true → p.queue.closed = true ∨ h ∈ closed) :
    e.Grows closed (e.modify h fun _ => p') := by
  refine ⟨Nat.le_of_eq (length_modify ..).symm, fun h' p'' hp'' _ => ?_⟩
  obtain ⟨rfl, rfl⟩ | ⟨-, hp''⟩ := endpoint?_of_modify hp hp''
  · exact ⟨p, hp, hpurpose, hstays, hcloses⟩
  · exact ⟨p'', hp'', rfl, id, Or.inl⟩

theorem Tidy.replace (he : e.Tidy) (hp : e.endpoint? h = some p) (hp' : p'.Tidy) :
    (e.modify h fun _ => p').Tidy := by
  intro h' p'' hp''
  obtain ⟨rfl, rfl⟩ | ⟨-, hp''⟩ := endpoint?_of_modify hp hp''
  · exact hp'
  · exact he h' p'' hp''

theorem grows_evolve (hp : e.endpoint? h = some p) (he : p.Evolves p') :
    e.Grows [] (e.modify h fun _ => p') :=
  .replace hp he.purpose he.closed.trans fun hclosed => .inl (he.closed.symm.trans hclosed)

structure Released (hs : List Handle) (e e' : Engine) : Prop where
  grows : e.Grows hs e'
  tidy : e'.Tidy
  closed : ∀ h ∈ hs, ∀ p, e'.endpoint? h = some p → p.queue.closed = true
  kept : ∀ h p, e'.endpoint? h = some p → p.queue.closed = false → e.endpoint? h = some p

theorem released_release (he : e.Tidy) (h : Handle) : Released [h] e (e.release h).1 := by
  cases hp : e.endpoint? h with
  | none =>
    have hsame : (e.release h).1 = e := by simp only [release, hp]
    rw [hsame]
    refine ⟨⟨Nat.le_refl _, fun _ p hp _ => ⟨p, hp, rfl, id, Or.inl⟩⟩, he, ?_, fun _ _ hp _ => hp⟩
    intro h' hh' p hp'
    rw [List.mem_singleton.mp hh', hp] at hp'
    cases hp'
  | some p =>
    have hclose : (e.release h).1 = e.modify h fun _ => p.close.1 := by simp only [release, hp]
    obtain ⟨hpurpose, hclosed, htidy⟩ := Endpoint.closed_close (he h p hp)
    rw [hclose]
    refine ⟨.replace hp hpurpose (fun _ => hclosed) fun _ => .inr (List.mem_singleton_self h),
      he.replace hp htidy, ?_, ?_⟩
    · intro h' hh' p' hp'
      rw [List.mem_singleton.mp hh', endpoint?_modify _ hp] at hp'
      exact Option.some.inj hp' ▸ hclosed
    · intro h' p' hp' hopen
      obtain ⟨rfl, rfl⟩ | ⟨-, hp'⟩ := endpoint?_of_modify hp hp'
      · rw [hclosed] at hopen
        cases hopen
      · exact hp'

def releaseAll (e : Engine) (hs : List Handle) : Engine := hs.foldl (fun e h => (e.release h).1) e

theorem released_releaseAll (he : e.Tidy) (hs : List Handle) : Released hs e (e.releaseAll hs) := by
  induction hs generalizing e with
  | nil => exact ⟨.refl e, he, fun _ hh => (nomatch hh), fun _ _ hp _ => hp⟩
  | cons h hs ih =>
    have hfirst := released_release he h
    have hrest := ih hfirst.tidy
    refine ⟨hfirst.grows.trans hrest.grows, hrest.tidy, fun h' hh' p hp => ?_, fun h' p hp hopen =>
      hfirst.kept h' p (hrest.kept h' p hp hopen) hopen⟩
    obtain rfl | hlater := List.mem_cons.mp hh'
    · cases hopen : p.queue.closed with
      | true => rfl
      | false =>
        have hclosed := hfirst.closed h' (List.mem_singleton_self _) p (hrest.kept h' p hp hopen)
        exact hopen.symm.trans hclosed
    · exact hrest.closed h' hlater p hp

structure Taken (h : Handle) (e : Engine) (r : Except Refusal (List Reply) × Engine) : Prop where
  grows : e.Grows [] r.2
  tidy : r.2.Tidy
  batch : ∀ p', r.2.endpoint? h = some p' → p'.queue.closed = false →
    ∃ p, e.endpoint? h = some p ∧ r.1 = .ok p.queue.events ∧ p'.queue.events = []
  kept : ∀ h' p, h' ≠ h → r.2.endpoint? h' = some p → e.endpoint? h' = some p

theorem taken_take (he : e.Tidy) (h : Handle) : Taken h e (e.take h) := by
  cases hp : e.endpoint? h with
  | none =>
    have hsame : e.take h = (.ok [], e) := by simp only [take, hp]
    rw [hsame]
    refine ⟨.refl e, he, fun p' hp' => ?_, fun _ _ _ hp => hp⟩
    rw [hp] at hp'
    cases hp'
  | some p =>
    obtain ⟨hevolves, hopen⟩ := Endpoint.evolves_take (he h p hp)
    have hmodify (queue : Queue Reply) : (e.modify h fun p => { p with queue }) =
        e.modify h fun _ => { p with queue } := by
      have hat : e.endpoints[h]? = some p := hp
      simp only [modify]
      congr 1
      refine List.ext_getElem? fun i => ?_
      by_cases hi : h = i
      · subst hi
        simp [hat]
      · simp [hi]
    have htake :
        e.take h = (p.queue.take.1, e.modify h fun _ => { p with queue := p.queue.take.2 }) := by
      simp only [take, hp, hmodify]
    rw [htake]
    refine ⟨grows_evolve hp hevolves, he.replace hp hevolves.tidy, fun p' hp' hopen' => ?_,
      fun h' p' hne hp' => ?_⟩
    · rw [endpoint?_modify _ hp] at hp'
      obtain rfl := Option.some.inj hp'
      have hopen' := hopen (hevolves.closed.symm.trans hopen')
      exact ⟨p, hp, by rw [hopen'], by rw [hopen']⟩
    · rwa [endpoint?_modify_of_ne _ hne.symm] at hp'

inductive Started (e : Engine) (c : Call) : StartAnswer × Engine → Prop
  | unopened {a} (ha : ∀ h d, a ≠ .started h d) : Started e c (a, e)
  | opened {e' : Engine} {p : Endpoint} {d : Int}
      (hendpoints : e'.endpoints = e.endpoints ++ [p]) (hqueue : p.queue = {})
      (hpurpose : ∀ type i b, p.purpose = .browse type i b → p.work = .finished ∧
        ∃ ifx regtype domain, c = .browse ifx regtype domain ∧
          ServiceType.of? (some regtype) domain = .ok type)
      (hbrowse : ∀ ifx regtype domain, c = .browse ifx regtype domain →
        ∃ type i b, p.purpose = .browse type i b) :
      Started e c (.started e.endpoints.length d, e')

theorem started_start (around : Surroundings) (e : Engine) (r : StartRequest) :
    Started e r.call ((e.start around r).1, (e.start around r).2.1) := by
  obtain ⟨call, replyTo⟩ := r
  cases call with
  | browse ifx regtype domain =>
    simp only [start]
    split
    · exact .unopened (by simp)
    · rename_i type htype
      unfold startBrowse
      split
      · exact .unopened (Failure.answer_ne_started _ _ _ _)
      · refine .opened rfl rfl ?_ fun _ _ _ _ => ⟨_, _, _, rfl⟩
        rintro _ _ _ ⟨⟩
        exact ⟨rfl, _, _, _, rfl, htype⟩
  | resolve ifx name regtype domain =>
    simp only [start]
    split
    · exact .unopened (by simp)
    · unfold startResolve
      split
      · exact .unopened (by simp)
      · exact .opened rfl rfl (by simp) (by simp)
  | register ifx name regtype domain port txt =>
    simp only [start]
    split
    · exact .unopened (by simp)
    · unfold startRegister
      dsimp only
      split
      · exact .unopened (Failure.answer_ne_started _ _ _ _)
      · exact .opened rfl rfl (by simp) (by simp)

theorem Started.endpoint? {c : Call} {r : StartAnswer × Engine} (hr : Started e c r)
    (hp : r.2.endpoint? h = some p) :
    e.endpoint? h = some p ∨ h = e.endpoints.length ∧ p.queue = {} := by
  cases hr with
  | unopened => exact .inl hp
  | opened hendpoints hqueue =>
    have hp : (_ : List Endpoint)[h]? = some p := hp
    rw [hendpoints] at hp
    obtain hlt | hge := Nat.lt_or_ge h e.endpoints.length
    · rw [List.getElem?_append_left hlt] at hp
      exact .inl hp
    · rw [List.getElem?_append_right hge] at hp
      obtain ⟨hzero, rfl⟩ := List.getElem?_eq_some_iff.mp hp
      rw [List.length_singleton, Nat.lt_one_iff, Nat.sub_eq_zero_iff_le] at hzero
      exact .inr ⟨Nat.le_antisymm hzero hge, by simpa using hqueue⟩

/-- The types that replies carry name their transport if the registration types of requests are made
for one. -/
theorem Started.tidy {c : Call} {r : StartAnswer × Engine} (hr : Started e c r) (he : e.Tidy)
    (hc : ∀ ifx regtype domain, c = .browse ifx regtype domain →
      ∃ code subtype, regtype = RegType.make code subtype) : r.2.Tidy := by
  intro h p hp
  obtain hold | ⟨rfl, hqueue⟩ := hr.endpoint? hp
  · exact he h p hold
  cases hr with
  | unopened => exact he _ p hp
  | opened hendpoints _ hpurpose =>
    have hp : (_ : List Endpoint)[e.endpoints.length]? = some p := hp
    rw [hendpoints, List.getElem?_concat_length] at hp
    obtain rfl := Option.some.inj hp
    refine ⟨fun _ => hqueue ▸ Queue.open_empty, fun type i b hbrowse => ?_⟩
    obtain ⟨hwork, ifx, regtype, domain, rfl, htype⟩ := hpurpose type i b hbrowse
    obtain ⟨code, subtype, rfl⟩ := hc _ _ _ rfl
    obtain ⟨t, hmake⟩ := exists_make code subtype
    obtain rfl := eq_of_of?_make (hmake ▸ htype)
    refine ⟨hwork, by rw [transport?_reply]; rfl, ?_⟩
    rw [hqueue]
    exact fun _ hr => nomatch hr

theorem Started.grows {c : Call} {r : StartAnswer × Engine} (hr : Started e c r) :
    e.Grows [] r.2 := by
  have hlength : e.endpoints.length ≤ r.2.endpoints.length := by
    cases hr with
    | unopened => exact Nat.le_refl _
    | opened hendpoints => simp [hendpoints]
  refine ⟨hlength, fun h p hp hlt => ?_⟩
  obtain hold | ⟨rfl, -⟩ := hr.endpoint? hp
  · exact ⟨p, hold, rfl, id, Or.inl⟩
  · exact absurd hlt (Nat.lt_irrefl _)

end Engine
end Multicast
end ServiceDiscovery
