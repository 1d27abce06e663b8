import ServiceDiscovery.Proofs.Overriding

/-!
Precedence of overrides along paths of keys. What overrides say at a path is what the merged mapping
says there, the rest of the base stays, nothing else comes in, and merging the same overrides again
changes nothing.
-/
namespace ServiceDiscovery
namespace Value
open Settings

def at? : List Value → Value → Option Value
  | [], v => some v
  | k :: path, map es => (lookUp es k).bind (at? path)
  | _ :: _, _ => none

mutual
/-- In each mapping, but for those in lists, a key is the same as itself and as no other: none is a
list or a mapping, and none occurs twice. -/
def isKeyed : Value → Bool
  | map es => areKeyed es
  | _ => true
def areKeyed : List (Value × Value) → Bool
  | [] => true
  | (k, v) :: es => k.sameKey k && es.all (fun e => !k.sameKey e.1) && v.isKeyed && areKeyed es
end

def replaces (v : Value) : Bool := !v.isNull && !v.isMap

end Value

namespace Settings

def overrules (o : List (Value × Value)) (path : List Value) : Bool :=
  path.inits.any (fun front => (Value.at? front (.map o)).any Value.replaces) ||
    (Value.at? path (.map o)).any Value.isMap

section Keyed
variable {o : List (Value × Value)} {k v : Value}

theorem areKeyed_cons (h : Value.areKeyed ((k, v) :: o) = true) : k.sameKey k = true ∧
    (∀ e ∈ o, k.sameKey e.1 = false) ∧ v.isKeyed = true ∧ Value.areKeyed o = true := by
  simpa [Value.areKeyed, and_assoc] using h

theorem keysApart_of_areKeyed (h : Value.areKeyed o = true) : KeysApart o := by
  induction o with
  | nil => exact .nil
  | cons e rest ih =>
    obtain ⟨-, hapart, -, hrest⟩ := areKeyed_cons h
    exact .cons hapart (ih hrest)

theorem lookUp_of_mem (h : Value.areKeyed o = true) {e : Value × Value} (he : e ∈ o) :
    lookUp o e.1 = some e.2 ∧ e.2.isKeyed = true := by
  induction o with
  | nil => cases he
  | cons first rest ih =>
    obtain ⟨k, v⟩ := first
    obtain ⟨hself, hapart, hv, hrest⟩ := areKeyed_cons h
    obtain rfl | he := List.mem_cons.mp he
    · exact ⟨by rw [lookUp_cons, if_pos hself], hv⟩
    · have hother : ¬k.sameKey e.1 = true := by simp [hapart e he]
      rw [lookUp_cons, if_neg hother]
      exact ih hrest he

theorem mem_of_lookUp (h : lookUp o k = some v) : ∃ e ∈ o, e.2 = v := by
  obtain ⟨e, he, rfl⟩ := Option.map_eq_some_iff.mp h
  exact ⟨e, List.mem_of_find?_eq_some he, rfl⟩

theorem isKeyed_of_lookUp (h : Value.areKeyed o = true) (hk : lookUp o k = some v) :
    v.isKeyed = true := by
  obtain ⟨e, he, rfl⟩ := mem_of_lookUp hk
  exact (lookUp_of_mem h he).2

theorem isKeyed_toValue (s : CommandLine.Setting) : (Command.Setting.toValue s).isKeyed = true := by
  cases s <;> rfl

theorem areKeyed_filterMap (chosen : String → Option CommandLine.Setting)
    {names : List (String × String)} (h : (names.map (·.2)).Nodup) :
    Value.areKeyed (names.filterMap fun n =>
      (chosen n.1).map fun s => (.text n.2, Command.Setting.toValue s)) = true := by
  induction names with
  | nil => rfl
  | cons n rest ih =>
    obtain ⟨hkey, hrest⟩ := List.nodup_cons.mp h
    cases hn : chosen n.1 with
    | none =>
      rw [List.filterMap_cons_none (by simp [hn])]
      exact ih hrest
    | some s =>
      have hself : (Value.text n.2).sameKey (.text n.2) = true := Value.sameKey_self_iff.mpr rfl
      rw [List.filterMap_cons_some (by rw [hn, Option.map_some]), Value.areKeyed, hself,
        isKeyed_toValue, ih hrest, Bool.true_and, Bool.and_true, Bool.and_true, List.all_eq_true]
      intro e he
      obtain ⟨m, hm, hsome⟩ := List.mem_filterMap.mp he
      obtain ⟨t, -, rfl⟩ := Option.map_eq_some_iff.mp hsome
      have hne : n.2 ≠ m.2 := fun heq => hkey (List.mem_map.mpr ⟨m, hm, heq.symm⟩)
      simpa [Value.sameKey] using hne

theorem areKeyed_overrides (command : String) (settings : List (String × CommandLine.Setting)) :
    Value.areKeyed (Command.Options.ofSettings command settings).overrides = true := by
  have hservice : Value.areKeyed (Command.Options.ofSettings command settings).service = true :=
    areKeyed_filterMap (Command.last? settings) (by decide)
  simpa [Command.Options.overrides, Value.areKeyed, Value.isKeyed, Value.sameKey] using hservice

end Keyed

section Paths
variable {base o sub : List (Value × Value)} {k v w : Value} {path : List Value}

theorem null_or_replaces_or_map (v : Value) :
    v = .null ∨ v.replaces = true ∨ ∃ es, v = .map es := by
  cases v <;> simp [Value.replaces, Value.isNull, Value.isMap]

theorem mergeValue_of_replaces (old : Option Value) (h : v.replaces = true) :
    mergeValue old v = some v := by
  obtain ⟨hnull, hmap⟩ : v.isNull = false ∧ v.isMap = false := by simpa [Value.replaces] using h
  exact mergeValue_leaf old hnull hmap

theorem at?_of_not_map (h : Value.at? path w = some v) (hw : ∀ es, w ≠ .map es) :
    path = [] ∧ w = v := by
  cases path with
  | nil => exact ⟨rfl, Option.some.inj h⟩
  | cons k path =>
    cases w with
    | map es => exact absurd rfl (hw es)
    | _ => cases h

theorem overrules_cons_of_replaces (hk : lookUp o k = some v) (hv : v.replaces = true) :
    overrules o (k :: path) = true := by
  have hat : Value.at? [k] (.map o) = some v := by simp [Value.at?, hk]
  have hfront : [k] ∈ (k :: path).inits := by simp [List.mem_inits]
  rw [overrules, Bool.or_eq_true_iff, List.any_eq_true]
  exact .inl ⟨[k], hfront, by simp [hat, hv]⟩

theorem overrules_cons_of_map (hk : lookUp o k = some (.map sub)) :
    overrules o (k :: path) = overrules sub path := by
  have hroot : Value.replaces (.map o) = false := rfl
  simp [overrules, List.any_map, Function.comp_def, Value.at?, hk, hroot]

theorem at?_merge_of_replaces (ho : Value.areKeyed o = true) (h : Value.at? path (.map o) = some v)
    (hv : v.replaces = true) : Value.at? path (.map (merge base o)) = some v := by
  induction path generalizing base o with
  | nil =>
    cases h
    cases hv
  | cons k path ih =>
    obtain ⟨w, hk, hw⟩ := Option.bind_eq_some_iff.mp h
    rw [Value.at?, lookUp_merge (keysApart_of_areKeyed ho), hk, Option.bind_some]
    obtain rfl | hreplaces | ⟨sub, rfl⟩ := null_or_replaces_or_map w
    · obtain ⟨-, rfl⟩ := at?_of_not_map hw (by simp)
      cases hv
    · rw [mergeValue_of_replaces _ hreplaces, Option.some_or, Option.bind_some, hw]
    · obtain ⟨b, -, hm⟩ | ⟨-, hm⟩ := mergeValue_map (lookUp base k) sub
      · rw [hm, Option.some_or, Option.bind_some]
        exact ih (isKeyed_of_lookUp ho hk) hw
      · rw [hm, Option.some_or, Option.bind_some, hw]

theorem at?_merge_of_not_overrules (ho : Value.areKeyed o = true)
    (h : Value.at? path (.map base) = some v) (hv : v.isMap = false)
    (hkept : overrules o path = false) : Value.at? path (.map (merge base o)) = some v := by
  induction path generalizing base o with
  | nil =>
    cases h
    cases hv
  | cons k path ih =>
    obtain ⟨u, hbase, hu⟩ := Option.bind_eq_some_iff.mp h
    rw [Value.at?, lookUp_merge (keysApart_of_areKeyed ho), hbase]
    cases hk : lookUp o k with
    | none => exact hu
    | some w =>
      rw [Option.bind_some]
      obtain rfl | hreplaces | ⟨sub, rfl⟩ := null_or_replaces_or_map w
      · exact hu
      · rw [overrules_cons_of_replaces hk hreplaces] at hkept
        cases hkept
      · rw [overrules_cons_of_map hk] at hkept
        obtain ⟨b, hb, hm⟩ | ⟨hb, -⟩ := mergeValue_map (some u) sub
        · cases hb
          rw [hm, Option.some_or, Option.bind_some]
          exact ih (isKeyed_of_lookUp ho hk) hu hkept
        · -- the path ends at a value that is no mapping, where the override has one
          obtain ⟨rfl, -⟩ := at?_of_not_map hu fun es hes => hb es (congrArg some hes)
          cases hkept

theorem at?_merge_cases (ho : Value.areKeyed o = true)
    (h : Value.at? path (.map (merge base o)) = some v) (hv : v.isMap = false) :
    Value.at? path (.map o) = some v ∨ Value.at? path (.map base) = some v := by
  induction path generalizing base o with
  | nil =>
    cases h
    cases hv
  | cons k path ih =>
    rw [Value.at?, lookUp_merge (keysApart_of_areKeyed ho)] at h
    rw [Value.at?, Value.at?]
    cases hk : lookUp o k with
    | none => exact .inr (by simpa [hk] using h)
    | some w =>
      rw [hk, Option.bind_some] at h
      obtain rfl | hreplaces | ⟨sub, rfl⟩ := null_or_replaces_or_map w
      · exact .inr h
      · rw [mergeValue_of_replaces _ hreplaces] at h
        exact .inl h
      · obtain ⟨b, hb, hm⟩ | ⟨-, hm⟩ := mergeValue_map (lookUp base k) sub
        · rw [hm] at h
          rw [hb]
          exact ih (isKeyed_of_lookUp ho hk) h
        · rw [hm] at h
          exact .inl h

end Paths

section Again
variable {base o : List (Value × Value)}

mutual
/-- Over itself a value changes nothing. -/
theorem settled_self : (v : Value) → v.isKeyed = true → Settled (some v) v
  | .map o, h => by
    have hentries := settled_self_entries o h
    rw [Settled, mergeValue, merge_of_settled fun e he => (lookUp_of_mem h he).1 ▸ hentries e he]
    exact .inr rfl
  | .null, _ => .inl rfl
  | .bool _, _ | .int _, _ | .float _, _ | .text _, _ | .list _, _ | .stamp _ _, _ => .inr rfl
theorem settled_self_entries : (o : List (Value × Value)) → Value.areKeyed o = true →
    ∀ e ∈ o, Settled (some e.2) e.2
  | [], _ => List.forall_mem_nil _
  | (_, v) :: rest, h =>
    have hkeyed := areKeyed_cons h
    List.forall_mem_cons.mpr ⟨settled_self v hkeyed.2.2.1, settled_self_entries rest hkeyed.2.2.2⟩
end

theorem merge_merge_of_settled (h : Value.areKeyed o = true)
    (hentries : ∀ e ∈ o, Settled ((mergeValue (lookUp base e.1) e.2).or (lookUp base e.1)) e.2) :
    merge (merge base o) o = merge base o :=
  merge_of_settled fun e he => by
    rw [lookUp_merge (keysApart_of_areKeyed h), (lookUp_of_mem h he).1]
    exact hentries e he

mutual
/-- Over what came of merging it a value changes nothing. -/
theorem settled_merged (old : Option Value) : (v : Value) → v.isKeyed = true →
    Settled ((mergeValue old v).or old) v
  | .map o, h => by
    obtain ⟨base, rfl, hm⟩ | ⟨-, hm⟩ := mergeValue_map old o
    · rw [hm, Option.some_or, Settled, mergeValue,
        merge_merge_of_settled h (settled_merged_entries base o h)]
      exact .inr rfl
    · rw [hm]
      exact settled_self (.map o) h
  | .null, _ => .inl rfl
  | .bool _, _ | .int _, _ | .float _, _ | .text _, _ | .list _, _ | .stamp _ _, _ => .inr rfl
theorem settled_merged_entries (base : List (Value × Value)) : (o : List (Value × Value)) →
    Value.areKeyed o = true →
    ∀ e ∈ o, Settled ((mergeValue (lookUp base e.1) e.2).or (lookUp base e.1)) e.2
  | [], _ => List.forall_mem_nil _
  | (_, v) :: rest, h =>
    have hkeyed := areKeyed_cons h
    List.forall_mem_cons.mpr ⟨settled_merged _ v hkeyed.2.2.1,
      settled_merged_entries base rest hkeyed.2.2.2⟩
end

end Again

/-- Overrides win at their own paths, the base stays where it is not overruled, nothing comes in
from elsewhere, and the same overrides make no further change. -/
theorem overrides_take_precedence (base : List (Value × Value)) {o : List (Value × Value)}
    (ho : Value.areKeyed o = true) :
    (∀ path v, Value.at? path (.map o) = some v → v.replaces = true →
      Value.at? path (.map (merge base o)) = some v) ∧
    (∀ path v, Value.at? path (.map base) = some v → v.isMap = false → overrules o path = false →
      Value.at? path (.map (merge base o)) = some v) ∧
    (∀ path v, Value.at? path (.map (merge base o)) = some v → v.isMap = false →
      Value.at? path (.map o) = some v ∨ Value.at? path (.map base) = some v) ∧
    merge (merge base o) o = merge base o :=
  ⟨fun _ _ => at?_merge_of_replaces ho, fun _ _ => at?_merge_of_not_overrules ho,
    fun _ _ => at?_merge_cases ho,
    merge_merge_of_settled ho (settled_merged_entries base o ho)⟩

def layeredBase : List (Value × Value) :=
  [(.text "service", .map [(.text "uuid", .text "A"), (.text "port", .int 1),
    (.int 1, .map [(.null, .bool true)])]), (.text "logging", .text "debug")]

def layeredOverrides : List (Value × Value) :=
  [(.text "service", .map [(.text "port", .int 2), (.text "uuid", .null),
    (.bool true, .map [(.text "x", .int 3)])]),
    (.text "logging", .map [(.text "level", .text "info"), (.text "file", .null)])]

theorem overrides_take_precedence_layered : Value.areKeyed layeredOverrides = true ∧
    Value.at? [.text "service", .text "port"] (.map (merge layeredBase layeredOverrides)) =
      some (.int 2) ∧
    Value.at? [.text "logging", .text "level"] (.map (merge layeredBase layeredOverrides)) =
      some (.text "info") ∧
    Value.at? [.text "service", .text "uuid"] (.map (merge layeredBase layeredOverrides)) =
      some (.text "A") ∧
    Value.at? [.text "service", .int 1, .null] (.map (merge layeredBase layeredOverrides)) =
      some (.bool true) ∧
    merge (merge layeredBase layeredOverrides) layeredOverrides =
      merge layeredBase layeredOverrides := by
  have hkeyed : Value.areKeyed layeredOverrides = true := by decide
  obtain ⟨hwins, hstays, -, hagain⟩ := overrides_take_precedence layeredBase hkeyed
  exact ⟨hkeyed, hwins _ _ rfl rfl, hwins _ _ rfl rfl, hstays _ _ rfl rfl (by decide),
    hstays _ _ rfl rfl (by decide), hagain⟩

end Settings
end ServiceDiscovery
