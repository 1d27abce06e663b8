import Mathlib
import ServiceDiscovery.Command.Options
import ServiceDiscovery.Proofs.MappingKeys
import ServiceDiscovery.Settings.Load

/-!
Overrides without any value. Where each of their mappings lies over a mapping of the document they
change nothing, and neither does an empty mapping for a section that the document leaves out.
Anything else that the document has in such a place gives way to the mapping, and what was wrong
with it is never reported.
-/
namespace ServiceDiscovery
namespace Value

mutual
def isHollow : Value → Bool
  | .null => true
  | .map es => areHollow es
  | _ => false
def areHollow : List (Value × Value) → Bool
  | [] => true
  | (_, v) :: es => v.isHollow && areHollow es
end

def isNull : Value → Bool
  | .null => true
  | _ => false

def isMap : Value → Bool
  | .map _ => true
  | _ => false

def isEmptyMap : Value → Bool
  | .map [] => true
  | _ => false

end Value

namespace Settings

mutual
def covers (old : Option Value) : Value → Bool
  | .map overrides =>
    match old with
    | some (.map base) => coversAll base overrides
    | _ => false
  | _ => true
def coversAll (base : List (Value × Value)) : List (Value × Value) → Bool
  | [] => true
  | (k, v) :: rest => covers (lookUp base k) v && coversAll base rest
end

/-- Every entry of an override is covered, or is an empty mapping for what is left out. -/
def spares (es o : List (Value × Value)) : Bool :=
  o.all fun e => covers (lookUp es e.1) e.2 ||
    ((lookUp es e.1).isNone && isText e.1 && e.2.isEmptyMap)

def entries? (document : Value) : Option (List (Value × Value)) :=
  if document.isEmpty then some []
  else match document with
    | .map es => some es
    | _ => none

section Merge
variable {base extra o : List (Value × Value)} {k v w : Value}

theorem put_of_lookUp (h : lookUp base k = some w) : Value.put k w base = base := by
  induction base with
  | nil => cases h
  | cons e es ih =>
    by_cases hk : e.1.sameKey k
    · simp only [lookUp, List.find?_cons, hk, Option.map_some, Option.some.injEq] at h
      simp [Value.put, hk, ← h]
    · simp only [lookUp, List.find?_cons, hk] at h
      simp [Value.put, hk, ih h]

theorem put_of_lookUp_eq_none (h : lookUp base k = none) :
    Value.put k w base = base ++ [(k, w)] := by
  induction base with
  | nil => rfl
  | cons e es ih =>
    by_cases hk : e.1.sameKey k
    · simp [lookUp, hk] at h
    · simp only [lookUp, List.find?_cons, hk] at h
      simp [Value.put, hk, ih h]

theorem lookUp_append : lookUp (base ++ extra) k = (lookUp base k).or (lookUp extra k) := by
  simp only [lookUp, List.find?_append]
  cases base.find? fun e => e.1.sameKey k <;> rfl

/-- A mapping is merged into a mapping and takes the place of anything else. -/
theorem mergeValue_map (old : Option Value) (sub : List (Value × Value)) :
    (∃ base, old = some (.map base) ∧ mergeValue old (.map sub) = some (.map (merge base sub))) ∨
      ((∀ base, old ≠ some (.map base)) ∧ mergeValue old (.map sub) = some (.map sub)) := by
  match old with
  | some (.map base) => exact .inl ⟨base, rfl, by rw [mergeValue]⟩
  | none => exact .inr ⟨by simp, rfl⟩
  | some .null | some (.bool _) | some (.int _) | some (.float _) | some (.text _) | some (.list _)
  | some (.stamp _ _) => exact .inr ⟨by simp, rfl⟩

theorem mergeValue_leaf (old : Option Value) (hnull : v.isNull = false) (hmap : v.isMap = false) :
    mergeValue old v = some v := by
  cases v with
  | null => cases hnull
  | map => cases hmap
  | _ => rfl

theorem merge_nil (es : List (Value × Value)) : merge es [] = es := by rw [merge]

def Settled (old : Option Value) (v : Value) : Prop :=
  mergeValue old v = none ∨ mergeValue old v = old

theorem merge_of_settled (h : ∀ e ∈ o, Settled (lookUp base e.1) e.2) : merge base o = base := by
  induction o with
  | nil => exact merge_nil base
  | cons e rest ih =>
    obtain ⟨k, v⟩ := e
    obtain ⟨hv, hrest⟩ := List.forall_mem_cons.mp h
    rw [merge]
    cases hm : mergeValue (lookUp base k) v with
    | none => exact ih hrest
    | some w =>
      have hold := hv.resolve_left (by simp [hm])
      simp only [put_of_lookUp (hold.symm.trans hm)]
      exact ih hrest

mutual
/-- A hollow value that is covered leaves what it lies over as it is. -/
theorem settled_of_hollow (old : Option Value) : (v : Value) → v.isHollow = true →
    covers old v = true → Settled old v
  | .null, _, _ => .inl rfl
  | .map o, hv, hc => by
    match old, hc with
    | some (.map base), hc =>
      rw [Settled, mergeValue, merge_of_settled (settled_of_areHollow base o hv hc)]
      exact .inr rfl
theorem settled_of_areHollow (base : List (Value × Value)) : (o : List (Value × Value)) →
    Value.areHollow o = true → coversAll base o = true → ∀ e ∈ o, Settled (lookUp base e.1) e.2
  | [], _, _ => List.forall_mem_nil _
  | (_, v) :: rest, hv, hc => by
    obtain ⟨hv, hrest⟩ := Bool.and_eq_true_iff.mp hv
    obtain ⟨hc, hcrest⟩ := Bool.and_eq_true_iff.mp hc
    exact List.forall_mem_cons.mpr ⟨settled_of_hollow _ v hv hc,
      settled_of_areHollow base rest hrest hcrest⟩
end

def Bare (extra : List (Value × Value)) : Prop := ∀ e ∈ extra, isText e.1 = true ∧ e.2 = .map []

theorem Bare.lookUp_eq (h : Bare extra) (hw : lookUp extra k = some w) : w = .map [] := by
  obtain ⟨e, he, rfl⟩ := Option.map_eq_some_iff.mp hw
  exact (h e (List.mem_of_find?_eq_some he)).2

/-- Hollow overrides that spare a document add nothing to it but empty mappings. -/
theorem merge_of_spares (es : List (Value × Value)) (hextra : Bare extra)
    (ho : Value.areHollow o = true) (hs : spares es o = true) :
    ∃ added, merge (es ++ extra) o = es ++ added ∧ Bare added := by
  induction o generalizing extra with
  | nil => exact ⟨extra, rfl, hextra⟩
  | cons e rest ih =>
    obtain ⟨k, v⟩ := e
    obtain ⟨hv, hrest⟩ := Bool.and_eq_true_iff.mp ho
    obtain ⟨hspare, hspares⟩ := Bool.and_eq_true_iff.mp hs
    rw [merge]
    cases hm : mergeValue (lookUp (es ++ extra) k) v with
    | none => exact ih hextra hrest hspares
    | some w =>
      obtain hc | hbare := Bool.or_eq_true_iff.mp hspare
      · have hsame : lookUp (es ++ extra) k = lookUp es k := by
          cases hold : lookUp es k with
          | some old => simp [lookUp_append, hold]
          | none =>
            -- over nothing only a missing value is covered, and that makes no change
            cases v <;> simp_all [covers, Value.isHollow, mergeValue]
        have hkept := (settled_of_hollow _ v hv (hsame ▸ hc)).resolve_left (by simp [hm])
        simp only [put_of_lookUp (hkept.symm.trans hm)]
        exact ih hextra hrest hspares
      · simp only [Bool.and_eq_true, Option.isNone_iff_eq_none] at hbare
        obtain ⟨⟨hold, hk⟩, hempty⟩ := hbare
        obtain rfl : v = .map [] := by
          cases v with
          | map sub =>
            cases sub with
            | nil => rfl
            | cons => cases hempty
          | _ => cases hempty
        cases hextra' : lookUp extra k with
        | some old =>
          obtain rfl := hextra.lookUp_eq hextra'
          have hfound : lookUp (es ++ extra) k = some (.map []) := by
            simp [lookUp_append, hold, hextra']
          rw [hfound, mergeValue, merge] at hm
          obtain rfl := Option.some.inj hm
          simp only [put_of_lookUp hfound]
          exact ih hextra hrest hspares
        | none =>
          have hnew : lookUp (es ++ extra) k = none := by simp [lookUp_append, hold, hextra']
          rw [hnew, mergeValue] at hm
          obtain rfl := Option.some.inj hm
          · simp only [put_of_lookUp_eq_none hnew, List.append_assoc]
            refine ih (fun e he => ?_) hrest hspares
            obtain he | he := List.mem_append.mp he
            · exact hextra e he
            · rw [List.mem_singleton.mp he]
              exact ⟨hk, rfl⟩
          · simp

theorem isText_of_sameKey (h : v.sameKey k = true) : isText v = isText k := by
  cases v <;> cases k <;> simp_all [Value.sameKey, isText, Value.keyNumber?]

theorem all_isText_put :
    (Value.put k w base).all (isText ·.1) = (base.all (isText ·.1) && isText k) := by
  induction base with
  | nil => simp [Value.put]
  | cons e es ih =>
    rw [Value.put]
    split
    · rename_i hk
      rw [List.all_cons, List.all_cons, isText_of_sameKey hk]
      cases isText k <;> simp
    · rw [List.all_cons, List.all_cons, ih, Bool.and_assoc]

/-- The keys of a merged mapping are texts if those on both sides are, but for overrides that are
missing. -/
theorem all_isText_merge : (merge base o).all (isText ·.1) =
    (base.all (isText ·.1) && o.all fun e => isText e.1 || e.2.isNull) := by
  induction o generalizing base with
  | nil => simp [merge]
  | cons e rest ih =>
    obtain ⟨k, v⟩ := e
    rw [merge, List.all_cons]
    cases v with
    | null => simpa [mergeValue, Value.isNull] using ih
    | map sub =>
      obtain ⟨_, -, hw⟩ | ⟨-, hw⟩ := mergeValue_map (lookUp base k) sub <;>
        simp [hw, ih, all_isText_put, Value.isNull, Bool.and_assoc]
    | _ => simp [mergeValue, ih, all_isText_put, Value.isNull, Bool.and_assoc]

end Merge

section Read
variable {α : Type} {es extra o : List (Value × Value)}

theorem field_append {name : String} {missing : α} {read : Value → Checked α} (hextra : Bare extra)
    (hread : read (.map []) = .ok missing) :
    field (es ++ extra) name missing read = field es name missing read := by
  have happend : Value.find? (es ++ extra) name =
      (Value.find? es name).or (Value.find? extra name) := lookUp_append
  rw [field, field, happend]
  cases Value.find? es name with
  | some v => rfl
  | none =>
    cases hfound : Value.find? extra name with
    | none => rfl
    | some v =>
      obtain rfl := hextra.lookUp_eq hfound
      simp [hread, Checked.under]

theorem readConfig_append (hextra : Bare extra) : readConfig (es ++ extra) = readConfig es := by
  have hlogging : field (es ++ extra) "logging" [] readLogging =
      field es "logging" [] readLogging :=
    field_append hextra rfl
  have hprovider : field (es ++ extra) "provider" {} readProvider =
      field es "provider" {} readProvider :=
    field_append hextra rfl
  have hservice : field (es ++ extra) "service" {} readService =
      field es "service" {} readService :=
    field_append hextra rfl
  rw [readConfig, readConfig, hlogging, hprovider, hservice]

theorem load_eq (document : Value) (o : List (Value × Value)) (path : String) :
    load document o path = match entries? document with
      | some es => load.read o path es
      | none => .error .notMapping := by
  unfold load entries?
  split
  · rfl
  · cases document <;> rfl

theorem read_eq (o : List (Value × Value)) (path : String) (es : List (Value × Value)) :
    load.read o path es =
      if (merge es o).all (isText ·.1) then (readConfig (merge es o)).mapError (.invalid path)
      else .error .keyNotText := by
  simp only [load.read]
  cases readConfig (merge es o) <;> rfl

theorem read_of_spares (ho : Value.areHollow o = true) (hs : spares es o = true) (path : String) :
    load.read o path es = load.read [] path es := by
  obtain ⟨added, hmerged, hadded⟩ :=
    merge_of_spares es (show Bare [] from fun _ h => nomatch h) ho hs
  rw [List.append_nil] at hmerged
  have htexts : added.all (isText ·.1) = true := List.all_eq_true.mpr fun e he => (hadded e he).1
  simp only [read_eq, hmerged, readConfig_append hadded, List.all_append, htexts,
    Bool.and_true, merge_nil]

def ServiceMisplaced (es : List (Value × Value)) : Prop :=
  ∃ v, Value.find? es "service" = some v ∧ v.isMap = false

/-- What is wrong with a document that has something else for the service is lost under an empty
override. -/
theorem read_ne_of_misplaced {path : String} (hkeys : es.all (isText ·.1) = true)
    (hes : ServiceMisplaced es) :
    load.read [(.text "service", .map [])] path es ≠ load.read [] path es := by
  obtain ⟨v, hv, hmap⟩ := hes
  have hfound : lookUp es (.text "service") = some v := hv
  have hmerged : merge es [(.text "service", .map [])] =
      Value.put (.text "service") (.map []) es := by
    rw [merge, hfound]
    cases v with
    | map => cases hmap
    | _ => rfl
  have hold : field es "service" {} readService =
      .error [⟨["service"], .notMapping (some serviceKind)⟩] := by
    rw [field, hv]
    cases v with
    | map => cases hmap
    | _ => rfl
  have hput : ∀ name, Value.find? (Value.put (.text "service") (.map []) es) name =
      if "service" == name then some (.map []) else Value.find? es name := fun _ => lookUp_put
  have hnew : field (Value.put (.text "service") (.map []) es) "service" {} readService =
      .ok {} := by
    rw [field, hput, if_pos (beq_self_eq_true _)]
    rfl
  have hlogging : field (Value.put (.text "service") (.map []) es) "logging" [] readLogging =
      field es "logging" [] readLogging := by
    rw [field, hput, if_neg (by decide), field]
  have hprovider : field (Value.put (.text "service") (.map []) es) "provider" {} readProvider =
      field es "provider" {} readProvider := by
    rw [field, hput, if_neg (by decide), field]
  have htexts : (Value.put (.text "service") (.map []) es).all (isText ·.1) = true := by
    rw [all_isText_put, hkeys]
    rfl
  rw [read_eq, read_eq, hmerged, merge_nil, if_pos htexts, if_pos hkeys, readConfig,
    readConfig, hlogging, hprovider, hold, hnew]
  -- the other two sections fail alike on both sides, and only one side has the problem of the
  -- service
  cases (Checked.apply (.ok Config.mk) (field es "logging" [] readLogging)).apply
    (field es "provider" {} readProvider) with
  | ok f => simp [Checked.apply, Except.mapError]
  | error ps => simp [Checked.apply, Except.mapError]

theorem read_of_bare_service (es : List (Value × Value)) (path : String) :
    load.read [(.text "service", .map [])] path es = load.read [] path es ↔
      (es.all (isText ·.1) = true → ¬ServiceMisplaced es) := by
  refine ⟨fun hsame hkeys hes => read_ne_of_misplaced hkeys hes hsame, fun hes => ?_⟩
  by_cases hkeys : es.all (isText ·.1) = true
  · refine read_of_spares (by decide) ?_ path
    have hfits : ∀ v, Value.find? es "service" = some v → v.isMap = true := fun v hv =>
      Bool.not_eq_false _ ▸ fun hmap => hes hkeys ⟨v, hv, hmap⟩
    have hlook : lookUp es (.text "service") = Value.find? es "service" := rfl
    cases hv : Value.find? es "service" with
    | none => simp [spares, hlook, hv, isText, Value.isEmptyMap]
    | some v =>
      have hmap := hfits v hv
      cases v with
      | map base => simp [spares, hlook, hv, covers, coversAll]
      | _ => cases hmap
  · have hmerged : (merge es [(.text "service", .map [])]).all (isText ·.1) = _ := all_isText_merge
    rw [Bool.not_eq_true] at hkeys
    rw [read_eq, read_eq, hmerged, merge_nil, hkeys]
    rfl

/-- Overrides without any value leave what comes of a document as it is if they spare it. An empty
mapping for the service does so just if the document has no service section, or a mapping there, or
fails for another reason before its sections are read. -/
theorem hollow_overrides_spare (document : Value) (path : String) :
    (∀ o, Value.areHollow o = true → (∀ es, entries? document = some es → spares es o = true) →
      load document o path = load document [] path) ∧
    ∀ options : Command.Options, options.service = [] →
      (load document options.overrides path = load document [] path ↔
        ∀ es, entries? document = some es → es.all (isText ·.1) = true → ¬ServiceMisplaced es) := by
  constructor
  · intro o ho hs
    rw [load_eq, load_eq]
    cases hes : entries? document with
    | none => rfl
    | some es => exact read_of_spares ho (hs es hes) path
  · intro options hoptions
    rw [load_eq, load_eq, Command.Options.overrides, hoptions]
    cases hes : entries? document with
    | none => simp
    | some es => simpa using read_of_bare_service es path

end Read

def settingsWithPort : Value :=
  .map [(.text "logging", .map [(.text "level", .text "debug")]),
    (.text "service", .map [(.text "port", .int 70000), (.text "uuid", .text "A")])]

def hollowOverrides : List (Value × Value) :=
  [(.text "service", .map [(.text "uuid", .null), (.text "prefix", .null)]),
    (.text "logging", .map []), (.text "provider", .map []), (.text "extra", .null)]

def listedService : Value := .map [(.text "service", .list [.int 1])]

theorem hollow_overrides_spare_partly :
    Value.areHollow hollowOverrides = true ∧
    load settingsWithPort hollowOverrides "a.yaml" = load settingsWithPort [] "a.yaml" ∧
    (load settingsWithPort [] "a.yaml").isOk = false ∧
    load listedService (Command.Options.overrides { action := .announce }) "a.yaml" ≠
      load listedService [] "a.yaml" := by
  refine ⟨by decide, ?_, by decide +kernel, ?_⟩
  · refine (hollow_overrides_spare settingsWithPort "a.yaml").1 hollowOverrides (by decide) ?_
    rintro es ⟨⟩
    decide
  · intro hsame
    have hplaced :=
      ((hollow_overrides_spare listedService "a.yaml").2 { action := .announce } rfl).mp hsame
    exact hplaced _ rfl (by decide) ⟨_, rfl, rfl⟩

/-- A section that is no mapping gives way to an empty override, and where there is no section an
override without values can be one that does not do. -/
theorem not_hollow_overrides_unchanged :
    (¬∀ document o path, Value.areHollow o = true → load document o path = load document [] path) ∧
    ¬load .null [(.text "service", .map [(.text "uuid", .null)])] "" = load .null [] "" := by
  constructor
  · intro hall
    have hsame :=
      congrArg Except.isOk (hall listedService [(.text "service", .map [])] "" (by decide))
    exact absurd hsame (by decide +kernel)
  · intro hsame
    exact absurd (congrArg Except.isOk hsame) (by decide +kernel)

end Settings
end ServiceDiscovery
