import ServiceDiscovery.Proofs.Overriding
import ServiceDiscovery.Proofs.Trimming
import ServiceDiscovery.Settings.Written

/-!
Settings that are written back. What a document was read as is in normal form, and a configuration
in normal form is read back as it was written, but for one thing: a blank text as the interfaces
stands for a list of one blank name, and such names are dropped from lists.
-/
namespace ServiceDiscovery.Settings
open ServiceDiscovery.Text

/-! ### What each kind of setting is read as once it is written -/

/-- The names of a list of interfaces are trimmed; the list has a blank one only by itself. -/
def Interfaces.Normal : Interfaces → Prop
  | addresses list => (∀ s ∈ list, trim s = s) ∧ ("" ∈ list → list = [""])
  | _ => True

def Interfaces.tidied : Interfaces → Interfaces
  | addresses list => addresses (list.filter (· != ""))
  | i => i

theorem interfaceNames_map_text (list : List String) :
    interfaceNames (list.map Value.text) = (list.map trim).filter (· != "") := by
  induction list with
  | nil => rfl
  | cons s list ih =>
    have hplain : (Value.text s).plain = s := rfl
    unfold interfaceNames at ih ⊢
    simp only [List.map_cons, List.filter_cons, if_true, hplain, ih]

theorem readInterfaces_toValue {i : Interfaces} (h : i.Normal) :
    readInterfaces i.toValue = .ok i.tidied := by
  cases i with
  | standard => decide +kernel
  | all => decide +kernel
  | addresses list =>
    have htrim : list.map trim = list := (List.map_congr_left h.1).trans (List.map_id' list)
    rw [Interfaces.toValue, readInterfaces, interfaceNames_map_text, htrim]
    rfl

theorem readIpVersion_name (v : Option IpVersion) :
    readIpVersion (optionalText (v.map IpVersion.name)) = .ok v := by
  match v with
  | none => rfl
  | some .v4 => decide +kernel
  | some .v6 => decide +kernel
  | some .all => decide +kernel

theorem readTexts_map_text (place : Nat) (list : List String) :
    readTexts place (list.map Value.text) = .ok list := by
  induction list generalizing place with
  | nil => rfl
  | cons s list ih =>
    rw [List.map_cons, readTexts, ih]
    rfl

theorem readTransport_word (t : Transport) : readTransport (.text (transportWord t)) = .ok t := by
  cases t <;> decide +kernel

theorem readOptionalText_optionalText (s : Option String) :
    readOptionalText (optionalText s) = .ok s := by
  cases s <;> rfl

theorem atLeast_ok {bound n : Int} (h : bound ≤ n) : atLeast bound (.ok n) = .ok n :=
  if_neg (Int.not_lt.mpr h)

theorem atMost_ok {bound n : Int} (h : n ≤ bound) : atMost bound (.ok n) = .ok n :=
  if_neg (Int.not_lt.mpr h)

/-! ### Configurations -/

structure Config.Normal (c : Config) : Prop where
  keys : keyProblems c.logging = []
  interfaces : c.provider.interfaces.Normal
  timeout : 0 ≤ c.provider.resolveTimeoutMs
  port : 0 ≤ c.service.port ∧ c.service.port ≤ 65535

def Config.tidied (c : Config) : Config :=
  { c with provider := { c.provider with interfaces := c.provider.interfaces.tidied } }

theorem readProvider_toValue {p : ProviderSettings} (hi : p.interfaces.Normal)
    (ht : 0 ≤ p.resolveTimeoutMs) :
    readProvider p.toValue = .ok { p with interfaces := p.interfaces.tidied } := by
  have hfields := readInterfaces_toValue hi
  have hversion := readIpVersion_name p.ipVersion
  have htexts := readTexts_map_text 0 p.addresses
  simp [ProviderSettings.toValue, readProvider, field, Value.find?, Value.sameKey, hfields,
    hversion, readBool, readInt, atLeast_ok ht, readTextList, htexts, Checked.under, Checked.apply]

theorem readService_toValue {s : ServiceSettings} (hp : 0 ≤ s.port ∧ s.port ≤ 65535) :
    readService s.toValue = .ok s := by
  have htransport := readTransport_word s.transport
  have hfile := readOptionalText_optionalText s.certificateFile
  simp [ServiceSettings.toValue, readService, field, Value.find?, Value.sameKey, readText,
    htransport, readInt, atLeast_ok hp.1, atMost_ok hp.2, hfile, Checked.under, Checked.apply]

theorem readLogging_map {es : List (Value × Value)} (h : keyProblems es = []) :
    readLogging (.map es) = .ok es := by
  simp [readLogging, h]

theorem load_toValue {c : Config} (hc : c.Normal) (path : String) :
    load c.toValue [] path = .ok c.tidied := by
  have hlogging := readLogging_map hc.keys
  have hprovider := readProvider_toValue hc.interfaces hc.timeout
  have hservice := readService_toValue hc.port
  have hconfig : readConfig [(.text "logging", .map c.logging),
      (.text "provider", c.provider.toValue),
      (.text "service", c.service.toValue)] = .ok c.tidied := by
    simp [readConfig, field, Value.find?, Value.sameKey, hlogging, hprovider, hservice,
      Checked.under, Checked.apply, Config.tidied]
  rw [load_eq, Config.toValue]
  simp only [entries?, Value.isEmpty, List.isEmpty_cons, Bool.false_eq_true, if_false, read_eq,
    merge_nil, hconfig]
  rfl

/-! ### What documents are read as -/

section Read
variable {α : Type} {es : List (Value × Value)} {v : Value}

theorem field_eq_ok {name : String} {missing a : α} {read : Value → Checked α} :
    field es name missing read = .ok a ↔
      (Value.find? es name = none ∧ missing = a) ∨ ∃ v, Value.find? es name = some v ∧
      read v = .ok a := by
  rw [field]
  cases Value.find? es name <;> simp [Checked.under_eq_ok]

theorem of_field {name : String} {missing a : α} {read : Value → Checked α} (P : α → Prop)
    (h : field es name missing read = .ok a) (hmissing : P missing)
    (hread : ∀ v, read v = .ok a → P a) : P a := by
  obtain ⟨-, rfl⟩ | ⟨v, -, hv⟩ := field_eq_ok.mp h
  · exact hmissing
  · exact hread v hv

theorem readConfig_eq_ok {c : Config} (h : readConfig es = .ok c) :
    field es "logging" [] readLogging = .ok c.logging ∧
    field es "provider" {} readProvider = .ok c.provider ∧
    field es "service" {} readService = .ok c.service := by
  simp only [readConfig, Checked.apply_eq_ok, Except.ok.injEq] at h
  obtain ⟨_, _, ⟨_, _, ⟨_, _, rfl, hlogging, rfl⟩, hprovider, rfl⟩, hservice, rfl⟩ := h
  exact ⟨hlogging, hprovider, hservice⟩

theorem readProvider_eq_ok {p : ProviderSettings} (h : readProvider v = .ok p) : ∃ es, v = .map es ∧
    field es "interfaces" .standard readInterfaces = .ok p.interfaces ∧
    field es "resolve_timeout_ms" 3000 (fun v => atLeast 0 (readInt v)) =
      .ok p.resolveTimeoutMs := by
  cases v with
  | map es =>
    simp only [readProvider, Checked.apply_eq_ok, Except.ok.injEq] at h
    obtain ⟨_, _, ⟨_, _, ⟨_, _, ⟨_, _, ⟨_, _, rfl, hinterfaces, rfl⟩, -, rfl⟩, -, rfl⟩, htimeout,
        rfl⟩, -, rfl⟩ := h
    exact ⟨es, rfl, hinterfaces, htimeout⟩
  | _ => cases h

theorem readService_port {s : ServiceSettings} (h : readService v = .ok s) : ∃ es, v = .map es ∧
    field es "port" 0 (fun v => atMost 65535 (atLeast 0 (readInt v))) = .ok s.port := by
  cases v with
  | map es =>
    simp only [readService, Checked.apply_eq_ok, Except.ok.injEq] at h
    obtain ⟨_, _,
        ⟨_, _, ⟨_, _, ⟨_, _, ⟨_, _, ⟨_, _, ⟨_, _, ⟨_, _, rfl, -, rfl⟩, -, rfl⟩, -, rfl⟩, -, rfl⟩, -,
        rfl⟩, hport, rfl⟩, -, rfl⟩, -, rfl⟩ := h
    exact ⟨es, rfl, hport⟩
  | _ => cases h

theorem le_of_atLeast {bound n : Int} {x : Checked Int} (h : atLeast bound x = .ok n) :
    bound ≤ n := by
  cases x with
  | error => cases h
  | ok m =>
    rw [atLeast] at h
    split at h
    · cases h
    · cases h
      omega

theorem le_of_atMost {bound n : Int} {x : Checked Int} (h : atMost bound x = .ok n) :
    n ≤ bound ∧ x = .ok n := by
  cases x with
  | error => cases h
  | ok m =>
    rw [atMost] at h
    split at h
    · cases h
    · cases h
      exact ⟨by omega, rfl⟩

theorem keyProblems_of_readLogging {entries : List (Value × Value)}
    (h : readLogging v = .ok entries) : keyProblems entries = [] := by
  cases v with
  | map es =>
    rw [readLogging] at h
    split at h
    · rename_i hes
      cases h
      exact hes
    · cases h
  | _ => cases h

theorem mem_interfaceNames {items : List Value} {s : String} (h : s ∈ interfaceNames items) :
    trim s = s ∧ s ≠ "" := by
  obtain ⟨hs, hne⟩ := List.mem_filter.mp h
  obtain ⟨v, -, rfl⟩ := List.mem_map.mp hs
  exact ⟨trim_trim _, by simpa using hne⟩

theorem normal_of_readInterfaces {i : Interfaces} (h : readInterfaces v = .ok i) : i.Normal := by
  cases v with
  | null =>
    cases h
    trivial
  | text s =>
    have hword := trim_lower_trim s
    simp only [readInterfaces, Except.ok.injEq] at h
    generalize lower (trim s) = word at hword h
    subst h
    split
    · trivial
    · split
      · trivial
      · simp [Interfaces.Normal, hword]
  | list items =>
    simp only [readInterfaces, Except.ok.injEq] at h
    subst h
    exact ⟨fun s hs => (mem_interfaceNames hs).1,
      fun hblank => absurd rfl (mem_interfaceNames hblank).2⟩
  | _ => simp [readInterfaces] at h

theorem readInterfaces_eq_blank :
    readInterfaces v = .ok (.addresses [""]) ↔ ∃ s, v = .text s ∧ trim s = "" := by
  cases v with
  | text s =>
    have hword : lower (trim s) = "" ↔ trim s = "" := lower_eq_empty_iff _
    simp only [readInterfaces, Except.ok.injEq, Value.text.injEq, exists_eq_left', ← hword]
    split
    · rename_i hdefault
      simp [hdefault]
    · split
      · rename_i hall
        simp [hall]
      · simp
  | list items =>
    simp only [readInterfaces, Except.ok.injEq, Interfaces.addresses.injEq, reduceCtorEq, false_and,
      exists_false, iff_false]
    intro hblank
    exact (mem_interfaceNames (hblank ▸ List.mem_singleton_self "")).2 rfl
  | _ => simp [readInterfaces]

theorem normal_of_readConfig {c : Config} (h : readConfig es = .ok c) : c.Normal := by
  obtain ⟨hlogging, hprovider, hservice⟩ := readConfig_eq_ok h
  refine ⟨?_, ?_, ?_, ?_⟩
  · exact of_field (keyProblems · = []) hlogging rfl fun _ => keyProblems_of_readLogging
  · refine of_field (·.interfaces.Normal) hprovider trivial fun _ hv => ?_
    obtain ⟨_, -, hinterfaces, -⟩ := readProvider_eq_ok hv
    exact of_field Interfaces.Normal hinterfaces trivial fun _ => normal_of_readInterfaces
  · refine of_field (0 ≤ ·.resolveTimeoutMs) hprovider (by decide) fun _ hv => ?_
    obtain ⟨_, -, -, htimeout⟩ := readProvider_eq_ok hv
    exact of_field (0 ≤ ·) htimeout (by decide) fun _ => le_of_atLeast
  · refine of_field (fun s => 0 ≤ s.port ∧ s.port ≤ 65535) hservice (by decide) fun _ hv => ?_
    obtain ⟨_, -, hport⟩ := readService_port hv
    refine of_field (fun port => 0 ≤ port ∧ port ≤ 65535) hport (by decide) fun _ hport => ?_
    obtain ⟨hmost, hleast⟩ := le_of_atMost hport
    exact ⟨le_of_atLeast hleast, hmost⟩

end Read

/-! ### Writing settings back -/

theorem tidied_of_blank {i : Interfaces} (h : i = .addresses [""]) : i.tidied = .addresses [] := by
  subst h
  rfl

/-- Settings in normal form lose a name only where a blank one stands by itself. -/
theorem tidied_eq_iff {i : Interfaces} (h : i.Normal) : i.tidied = i ↔ i ≠ .addresses [""] := by
  cases i with
  | standard => simp [Interfaces.tidied]
  | all => simp [Interfaces.tidied]
  | addresses list =>
    have hnone : list.filter (· != "") = list ↔ "" ∉ list := by
      simp only [List.filter_eq_self, bne_iff_ne]
      exact ⟨fun hall hblank => hall "" hblank rfl, fun hblank s hs hs' => hblank (hs' ▸ hs)⟩
    simp only [Interfaces.tidied, Interfaces.addresses.injEq, hnone, ne_eq, not_iff_not]
    exact ⟨h.2, fun hlist => hlist ▸ List.mem_singleton_self ""⟩

theorem config_tidied_eq_iff (c : Config) :
    c.tidied = c ↔ c.provider.interfaces.tidied = c.provider.interfaces := by
  obtain ⟨_, ⟨_, _, _, _, _⟩, _⟩ := c
  simp [Config.tidied]

def BlankInterfaces (document : Value) (overrides : List (Value × Value)) : Prop :=
  ∃ es provider s, entries? document = some es ∧
    Value.find? (merge es overrides) "provider" = some (.map provider) ∧
    Value.find? provider "interfaces" = some (.text s) ∧ trim s = ""

theorem provider_interfaces_eq_blank {es : List (Value × Value)} {p : ProviderSettings}
    (h : field es "provider" {} readProvider = .ok p) : p.interfaces = .addresses [""] ↔
      ∃ provider s, Value.find? es "provider" = some (.map provider) ∧
        Value.find? provider "interfaces" = some (.text s) ∧ trim s = "" := by
  obtain ⟨hnone, rfl⟩ | ⟨v, hv, hp⟩ := field_eq_ok.mp h
  · simp [hnone]
  · obtain ⟨provider, rfl, hinterfaces, -⟩ := readProvider_eq_ok hp
    obtain ⟨hnone, hmissing⟩ | ⟨w, hw, hread⟩ := field_eq_ok.mp hinterfaces
    · simp [hv, hnone, ← hmissing]
    · have hblank := readInterfaces_eq_blank (v := w)
      rw [hread, Except.ok.injEq] at hblank
      simp [hv, hw, hblank]

theorem load_eq_ok {document : Value} {overrides : List (Value × Value)} {path : String}
    {c : Config} (h : load document overrides path = .ok c) :
    ∃ es, entries? document = some es ∧ readConfig (merge es overrides) = .ok c := by
  rw [load_eq] at h
  cases hes : entries? document with
  | none => simp [hes] at h
  | some es =>
    simp only [hes, read_eq] at h
    split at h
    · exact ⟨es, rfl, by cases hc : readConfig (merge es overrides) <;> simp_all [Except.mapError]⟩
    · cases h

/-- A configuration that was read is written back as a document that is read as the same
configuration, just if its interfaces were no blank text. If they were, the document is read as one
without any interface. -/
theorem load_written_back {document : Value} {overrides : List (Value × Value)} {path : String}
    {c : Config} (h : load document overrides path = .ok c) (path' : String) :
    (load c.toValue [] path' = .ok c ↔ ¬BlankInterfaces document overrides) ∧
    (BlankInterfaces document overrides → load c.toValue [] path' =
      .ok { c with provider := { c.provider with interfaces := .addresses [] } }) := by
  obtain ⟨es, hes, hc⟩ := load_eq_ok h
  have hnormal := normal_of_readConfig hc
  have hblank : BlankInterfaces document overrides ↔ c.provider.interfaces = .addresses [""] := by
    rw [provider_interfaces_eq_blank (readConfig_eq_ok hc).2.1]
    simp [BlankInterfaces, hes]
  rw [load_toValue hnormal, Except.ok.injEq, config_tidied_eq_iff,
    tidied_eq_iff hnormal.interfaces, hblank]
  exact ⟨Iff.rfl, fun hi => by rw [Config.tidied, tidied_of_blank hi]⟩

def spelledFreely : Value :=
  .map [(.text "logging", .map [(.text "level", .text " Debug "), (.text "rules", .list [.null])]),
    (.text "provider", .map [(.text "interfaces", .list [.text " eth0 ", .null, .text " ", .int 5]),
      (.text "ip_version", .text " V4Only "), (.text "unicast", .text "YES"),
      (.text "resolve_timeout_ms", .text " 2_000 "), (.text "addresses", .list [.text " "])]),
    (.text "service", .map [(.text "protocol", .text " TCP "), (.text "port", .int 9),
      (.text "uuid", .text " A ")])]

def portOverride : List (Value × Value) :=
  [(.text "service", .map [(.text "port", .bool true), (.text "uuid", .null)])]

def blankInterfaces : Value := .map [(.text "provider", .map [(.text "interfaces", .text " ")])]

theorem exists_of_isOk {ε α : Type} {x : Except ε α} (h : x.isOk = true) : ∃ a, x = .ok a := by
  cases x with
  | error => cases h
  | ok a => exact ⟨a, rfl⟩

theorem load_written_back_spelled_freely :
    (∃ c, load spelledFreely portOverride "a.yaml" = .ok c ∧
      c.provider = ⟨.addresses ["eth0", "5"], some .v4, true, 2000, [" "]⟩ ∧ c.service.port = 1 ∧
      load c.toValue [] "" = .ok c) ∧
    ∃ c, load blankInterfaces [] "a.yaml" = .ok c ∧ load c.toValue [] "" ≠ .ok c := by
  constructor
  · obtain ⟨c, hc⟩ :=
      exists_of_isOk (x := load spelledFreely portOverride "a.yaml") (by decide +kernel)
    have hshape : (load spelledFreely portOverride "a.yaml").map
        (fun c => (c.provider, c.service.port)) =
        .ok (⟨.addresses ["eth0", "5"], some .v4, true, 2000, [" "]⟩, 1) := by decide +kernel
    simp only [hc, Except.map, Except.ok.injEq, Prod.mk.injEq] at hshape
    refine ⟨c, hc, hshape.1, hshape.2, ((load_written_back hc "").1).mpr ?_⟩
    rintro ⟨_, _, s, ⟨⟩, ⟨⟩, hs, -⟩
    cases hs
  · obtain ⟨c, hc⟩ := exists_of_isOk (x := load blankInterfaces [] "a.yaml") (by decide +kernel)
    refine ⟨c, hc, fun hsame => ((load_written_back hc "").1).mp hsame ?_⟩
    exact ⟨_, _, " ", rfl, rfl, rfl, by decide⟩

/-- A blank text for the interfaces does not come back. -/
theorem not_load_written_back_same :
    ¬∀ document overrides path c, load document overrides path = .ok c →
    load c.toValue [] path = .ok c := by
  intro hall
  have hload : load blankInterfaces [] "" =
      .ok { provider := { interfaces := .addresses [""] } } := by rfl
  have hsame := congrArg (Except.map fun c : Config => c.provider.interfaces) (hall _ _ _ _ hload)
  exact absurd hsame (by decide +kernel)

end ServiceDiscovery.Settings
