import ServiceDiscovery.Proofs.Normalizing

/-!
Configurations that were read are in range, however their settings are spelled and wherever they
come from. A value of the overrides is the one that is read, and it is read as if it stood in a
document all by itself.
-/
namespace ServiceDiscovery.Settings
open ServiceDiscovery.Text

section Merge
variable {base o : List (Value × Value)} {k v w : Value} {name : String}

theorem sameKey_text_iff : k.sameKey (.text name) = true ↔ k = .text name := by
  cases k <;> simp [Value.sameKey, Value.keyNumber?]

theorem find?_cons_self (v : Value) (es : List (Value × Value)) :
    Value.find? ((.text name, v) :: es) name = some v := by
  simp [Value.find?, Value.sameKey]

theorem find?_cons_of_ne (hk : k ≠ .text name) (v : Value) (es : List (Value × Value)) :
    Value.find? ((k, v) :: es) name = Value.find? es name := by
  have hother : k.sameKey (.text name) = false := by simpa using mt sameKey_text_iff.mp hk
  simp [Value.find?, hother]

theorem find?_cons_text (n : String) (v : Value) (es : List (Value × Value)) :
    Value.find? ((.text n, v) :: es) name = if n = name then some v else Value.find? es name := by
  split
  · rename_i hn
    rw [hn, find?_cons_self]
  · rename_i hn
    exact find?_cons_of_ne (by simpa using hn) v es

theorem find?_merge (h : KeysApart o) : Value.find? (merge base o) name =
    ((Value.find? o name).bind (mergeValue (Value.find? base name))).or (Value.find? base name) :=
      lookUp_merge h

end Merge

def given (es : List (Value × Value)) (group name : String) : Option Value :=
  (Value.find? es group).bind (·.get? name)

def Config.shows (c : Config) (group name : String) : Option Value :=
  (c.toValue.get? group).bind (·.get? name)

def GroupsApart (es : List (Value × Value)) : Prop :=
  KeysApart es ∧ ∀ group entries, Value.find? es group = some (.map entries) → KeysApart entries

theorem given_merge {es o : List (Value × Value)} {group name : String} {v : Value}
    (ho : GroupsApart o) (hv : given o group name = some v) (hnull : v.isNull = false)
    (hmap : v.isMap = false) : given (merge es o) group name = some v := by
  obtain ⟨held, hgroup, hname⟩ := Option.bind_eq_some_iff.mp hv
  cases held with
  | map sub =>
    have hsub : KeysApart sub := ho.2 group sub hgroup
    have hname : Value.find? sub name = some v := hname
    rw [given, find?_merge ho.1, hgroup, Option.bind_some]
    cases hold : Value.find? es group with
    | none => exact hname
    | some old =>
      cases old with
      | map base =>
        simp only [mergeValue, Option.some_or, Option.bind_some, Value.get?,
          find?_merge hsub, hname, mergeValue_leaf _ hnull hmap]
      | _ => exact hname
  | _ => cases hname

/-! ### A setting by itself -/

section Alone
variable {es : List (Value × Value)} {name : String} {v : Value}

theorem field_alone {α : Type} {n : String} {missing a : α} {read : Value → Checked α}
    (hv : Value.find? es name = some v) (h : field es n missing read = .ok a) :
    field [(.text name, v)] n missing read = .ok (if n = name then a else missing) := by
  by_cases hn : n = name
  · subst hn
    rw [if_pos rfl, field, find?_cons_self, ← h, field, hv]
  · rw [if_neg hn, field, find?_cons_of_ne (by simpa using Ne.symm hn)]
    rfl

theorem readProvider_map_eq_ok {p : ProviderSettings} : readProvider (.map es) = .ok p ↔
    field es "interfaces" .standard readInterfaces = .ok p.interfaces ∧
    field es "ip_version" none readIpVersion = .ok p.ipVersion ∧
    field es "unicast" false readBool = .ok p.unicast ∧
    field es "resolve_timeout_ms" 3000 (fun v => atLeast 0 (readInt v)) = .ok p.resolveTimeoutMs ∧
    field es "addresses" [] readTextList = .ok p.addresses := by
  obtain ⟨_, _, _, _, _⟩ := p
  simp only [readProvider, Checked.apply_eq_ok, Except.ok.injEq]
  constructor
  · rintro ⟨_, _, ⟨_, _, ⟨_, _, ⟨_, _, ⟨_, _, rfl, h₁, rfl⟩, h₂, rfl⟩, h₃, rfl⟩, h₄, rfl⟩, h₅, hp⟩
    cases hp
    exact ⟨h₁, h₂, h₃, h₄, h₅⟩
  · rintro ⟨h₁, h₂, h₃, h₄, h₅⟩
    exact ⟨_, _, ⟨_, _, ⟨_, _, ⟨_, _, ⟨_, _, rfl, h₁, rfl⟩, h₂, rfl⟩, h₃, rfl⟩, h₄, rfl⟩, h₅, rfl⟩

theorem readService_map_eq_ok {s : ServiceSettings} : readService (.map es) = .ok s ↔
    field es "uuid" "" readText = .ok s.uuid ∧
    field es "protocol" .udp readTransport = .ok s.transport ∧
    field es "subtype" "" readText = .ok s.subtype ∧
    field es "domain" "" readText = .ok s.domain ∧
    field es "interface_index" 0 readInt = .ok s.interfaceIndex ∧
    field es "port" 0 (fun v => atMost 65535 (atLeast 0 (readInt v))) = .ok s.port ∧
    field es "prefix" "" readText = .ok s.namePrefix ∧
    field es "certificate_file" none readOptionalText = .ok s.certificateFile := by
  obtain ⟨_, _, _, _, _, _, _, _⟩ := s
  simp only [readService, Checked.apply_eq_ok, Except.ok.injEq]
  constructor
  · rintro ⟨_, _,
      ⟨_, _, ⟨_, _, ⟨_, _, ⟨_, _, ⟨_, _, ⟨_, _, ⟨_, _, rfl, h₁, rfl⟩, h₂, rfl⟩, h₃, rfl⟩, h₄, rfl⟩,
      h₅, rfl⟩, h₆, rfl⟩, h₇, rfl⟩, h₈, hs⟩
    cases hs
    exact ⟨h₁, h₂, h₃, h₄, h₅, h₆, h₇, h₈⟩
  · rintro ⟨h₁, h₂, h₃, h₄, h₅, h₆, h₇, h₈⟩
    exact ⟨_, _,
      ⟨_, _, ⟨_, _, ⟨_, _, ⟨_, _, ⟨_, _, ⟨_, _, ⟨_, _, rfl, h₁, rfl⟩, h₂, rfl⟩, h₃, rfl⟩, h₄, rfl⟩,
      h₅, rfl⟩, h₆, rfl⟩, h₇, rfl⟩, h₈, rfl⟩

def ProviderSettings.only (p : ProviderSettings) (name : String) : ProviderSettings where
  interfaces := if "interfaces" = name then p.interfaces else .standard
  ipVersion := if "ip_version" = name then p.ipVersion else none
  unicast := if "unicast" = name then p.unicast else false
  resolveTimeoutMs := if "resolve_timeout_ms" = name then p.resolveTimeoutMs else 3000
  addresses := if "addresses" = name then p.addresses else []

def ServiceSettings.only (s : ServiceSettings) (name : String) : ServiceSettings where
  uuid := if "uuid" = name then s.uuid else ""
  transport := if "protocol" = name then s.transport else .udp
  subtype := if "subtype" = name then s.subtype else ""
  domain := if "domain" = name then s.domain else ""
  interfaceIndex := if "interface_index" = name then s.interfaceIndex else 0
  port := if "port" = name then s.port else 0
  namePrefix := if "prefix" = name then s.namePrefix else ""
  certificateFile := if "certificate_file" = name then s.certificateFile else none

theorem provider_only_get? (p : ProviderSettings) (name : String) :
    (p.only name).toValue.get? name = p.toValue.get? name := by
  simp only [ProviderSettings.toValue, Value.get?, find?_cons_text, ProviderSettings.only]
  split_ifs <;> rfl

theorem service_only_get? (s : ServiceSettings) (name : String) :
    (s.only name).toValue.get? name = s.toValue.get? name := by
  simp only [ServiceSettings.toValue, Value.get?, find?_cons_text, ServiceSettings.only]
  split_ifs <;> rfl

theorem readProvider_alone {p : ProviderSettings} (hv : Value.find? es name = some v)
    (h : readProvider (.map es) = .ok p) :
    readProvider (.map [(.text name, v)]) = .ok (p.only name) := by
  obtain ⟨h₁, h₂, h₃, h₄, h₅⟩ := readProvider_map_eq_ok.mp h
  exact readProvider_map_eq_ok.mpr
    ⟨field_alone hv h₁, field_alone hv h₂, field_alone hv h₃, field_alone hv h₄, field_alone hv h₅⟩

theorem readService_alone {s : ServiceSettings} (hv : Value.find? es name = some v)
    (h : readService (.map es) = .ok s) :
    readService (.map [(.text name, v)]) = .ok (s.only name) := by
  obtain ⟨h₁, h₂, h₃, h₄, h₅, h₆, h₇, h₈⟩ := readService_map_eq_ok.mp h
  exact readService_map_eq_ok.mpr ⟨field_alone hv h₁, field_alone hv h₂, field_alone hv h₃,
    field_alone hv h₄, field_alone hv h₅, field_alone hv h₆, field_alone hv h₇, field_alone hv h₈⟩

theorem shows_eq (c : Config) (group name : String) : c.shows group name =
    if "logging" = group then Value.find? c.logging name
    else if "provider" = group then c.provider.toValue.get? name
    else if "service" = group then c.service.toValue.get? name else none := by
  simp only [Config.shows, Config.toValue, Value.get?, find?_cons_text]
  split_ifs <;> rfl

theorem readConfig_of_fields {c : Config}
    (hlogging : field es "logging" [] readLogging = .ok c.logging)
    (hprovider : field es "provider" {} readProvider = .ok c.provider)
    (hservice : field es "service" {} readService = .ok c.service) : readConfig es = .ok c := by
  simp [readConfig, hlogging, hprovider, hservice, Checked.apply]

def alone (group name : String) (v : Value) : List (Value × Value) :=
  [(.text group, .map [(.text name, v)])]

theorem field_alone_self {α : Type} {group : String} {a : α} {read : Value → Checked α}
    (missing : α) (h : read (.map [(.text name, v)]) = .ok a) :
    field (alone group name v) group missing read = .ok a :=
  field_eq_ok.mpr (.inr ⟨_, find?_cons_self _ _, h⟩)

theorem field_alone_of_ne {α : Type} {group n : String} (hne : group ≠ n) (missing : α)
    (read : Value → Checked α) : field (alone group name v) n missing read = .ok missing := by
  rw [alone, field, find?_cons_of_ne (by simpa using hne)]
  rfl

theorem read_of_field {α : Type} {group : String} {held : Value} {missing a : α}
    {read : Value → Checked α} (hgroup : Value.find? es group = some held)
    (h : field es group missing read = .ok a) : read held = .ok a := by
  simpa [field, hgroup, Checked.under_eq_ok] using h

theorem eq_of_readLogging {entries logging : List (Value × Value)}
    (h : readLogging (.map entries) = .ok logging) : entries = logging := by
  rw [readLogging] at h
  split at h
  · exact Except.ok.inj h
  · cases h

theorem readConfig_alone {c : Config} {group : String} (h : readConfig es = .ok c)
    (hv : given es group name = some v) :
    ∃ c', readConfig (alone group name v) = .ok c' ∧ c'.shows group name = c.shows group name := by
  obtain ⟨hlogging, hprovider, hservice⟩ := readConfig_eq_ok h
  obtain ⟨held, hgroup, hget⟩ := Option.bind_eq_some_iff.mp hv
  obtain ⟨entries, rfl⟩ : ∃ entries, held = .map entries := by
    cases held with
    | map entries => exact ⟨entries, rfl⟩
    | _ => cases hget
  have hname : Value.find? entries name = some v := hget
  by_cases hl : "logging" = group
  · subst hl
    obtain rfl : entries = c.logging := eq_of_readLogging (read_of_field hgroup hlogging)
    refine ⟨{ logging := [(.text name, v)] }, readConfig_of_fields (field_alone_self _ rfl)
      (field_alone_of_ne (by decide) _ _) (field_alone_of_ne (by decide) _ _), ?_⟩
    rw [shows_eq, shows_eq, if_pos rfl, if_pos rfl, find?_cons_self, hname]
  by_cases hp : "provider" = group
  · subst hp
    have hread := readProvider_alone hname (read_of_field hgroup hprovider)
    refine ⟨{ provider := c.provider.only name },
      readConfig_of_fields (field_alone_of_ne (by decide) _ _)
      (field_alone_self _ hread) (field_alone_of_ne (by decide) _ _), ?_⟩
    simp only [shows_eq, hl, if_true, if_false, provider_only_get?]
  by_cases hs : "service" = group
  · subst hs
    have hread := readService_alone hname (read_of_field hgroup hservice)
    refine ⟨{ service := c.service.only name },
      readConfig_of_fields (field_alone_of_ne (by decide) _ _)
      (field_alone_of_ne (by decide) _ _) (field_alone_self _ hread), ?_⟩
    simp only [shows_eq, hl, hp, if_true, if_false, service_only_get?]
  · refine ⟨{}, readConfig_of_fields (field_alone_of_ne (Ne.symm hl) _ _)
      (field_alone_of_ne (Ne.symm hp) _ _)
      (field_alone_of_ne (Ne.symm hs) _ _), ?_⟩
    simp only [shows_eq, hl, hp, hs, if_false]

/-- A setting of a configuration is read in the same way when the document has no other. -/
def ReadAlone (c : Config) (group name : String) (v : Value) : Prop := ∀ path,
  ∃ c', load (.map (alone group name v)) [] path = .ok c' ∧ c'.shows group name = c.shows group name

theorem readAlone_of_given {c : Config} {group : String} (h : readConfig es = .ok c)
    (hv : given es group name = some v) : ReadAlone c group name v := by
  intro path
  obtain ⟨c', hc', hshows⟩ := readConfig_alone h hv
  refine ⟨c', ?_, hshows⟩
  have hes : entries? (.map (alone group name v)) = some (alone group name v) := rfl
  have htexts : (alone group name v).all (isText ·.1) = true := rfl
  rw [load_eq, hes]
  dsimp only
  rw [read_eq, merge_nil, if_pos htexts, hc']
  rfl

end Alone

/-! ### Ranges -/

structure Config.InRange (c : Config) : Prop where
  port : ∃ n : Int, c.shows "service" "port" = some (.int n) ∧ 0 ≤ n ∧ n ≤ 65535
  timeout : ∃ n : Int, c.shows "provider" "resolve_timeout_ms" = some (.int n) ∧ 0 ≤ n
  transport : (c.shows "service" "protocol" = some (.text "udp") ∧ c.service.transport = .udp) ∨
    (c.shows "service" "protocol" = some (.text "tcp") ∧ c.service.transport = .tcp)
  ipVersion : ∃ v, c.shows "provider" "ip_version" = some v ∧
    (v = .null ∨ v = .text "v4" ∨ v = .text "v6" ∨ v = .text "all")
  interfaces : ∃ v, c.shows "provider" "interfaces" = some v ∧
    (v = .text "default" ∨ v = .text "all" ∨
    ∃ names : List String, v = .list (names.map .text) ∧ ∀ s ∈ names, Trimmed s.toList)

theorem trimmed_of_trim_eq {s : String} (h : trim s = s) : Trimmed s.toList := by
  have htrimmed := trimmed_trimChars s.toList
  have hlist : (trim s).toList = trimChars s.toList := String.toList_ofList
  rwa [← hlist, h] at htrimmed

theorem inRange_of_normal {c : Config} (h : c.Normal) : c.InRange := by
  have hprovider : ∀ name, c.shows "provider" name = c.provider.toValue.get? name := fun name => by
    rw [shows_eq, if_neg (by decide), if_pos rfl]
  have hservice : ∀ name, c.shows "service" name = c.service.toValue.get? name := fun name => by
    rw [shows_eq, if_neg (by decide), if_neg (by decide), if_pos rfl]
  refine ⟨⟨c.service.port, hservice _, h.port⟩,
    ⟨c.provider.resolveTimeoutMs, hprovider _, h.timeout⟩, ?_,
    ⟨_, hprovider _, ?_⟩, ⟨c.provider.interfaces.toValue, hprovider _, ?_⟩⟩
  · have hword : c.service.toValue.get? "protocol" =
        some (.text (transportWord c.service.transport)) := rfl
    rw [hservice, hword]
    cases c.service.transport with
    | udp => exact .inl ⟨rfl, rfl⟩
    | tcp => exact .inr ⟨rfl, rfl⟩
  · match c.provider.ipVersion with
    | none => exact .inl rfl
    | some .v4 => exact .inr (.inl rfl)
    | some .v6 => exact .inr (.inr (.inl rfl))
    | some .all => exact .inr (.inr (.inr rfl))
  · have hnormal := h.interfaces
    revert hnormal
    cases c.provider.interfaces with
    | standard => exact fun _ => .inl rfl
    | all => exact fun _ => .inr (.inl rfl)
    | addresses names =>
      exact fun hnames => .inr (.inr ⟨names, rfl, fun s hs => trimmed_of_trim_eq (hnames.1 s hs)⟩)

/-! ### Spellings -/

def SpellsTransport (v : Value) : Transport → Prop
  | .udp => v.isEmpty = true ∨ lower (trim v.plain) = "udp"
  | .tcp => v.isEmpty = false ∧ lower (trim v.plain) = "tcp"

def SpellsIpVersion (v : Value) : Option IpVersion → Prop
  | none => v = .null ∨ lower (trim v.plain) = ""
  | some .v4 => lower (trim v.plain) ∈ ["v4", "v4only", "ipv4", "4"]
  | some .v6 => lower (trim v.plain) ∈ ["v6", "v6only", "ipv6", "6"]
  | some .all => lower (trim v.plain) ∈ ["all", "both"]

/-- The settings that have several spellings are what a document spells, or the default ones. -/
structure Config.Spelled (c : Config) (es : List (Value × Value)) : Prop where
  transport : ∀ v, given es "service" "protocol" = some v → SpellsTransport v c.service.transport
  transportMissing : given es "service" "protocol" = none → c.service.transport = .udp
  ipVersion : ∀ v, given es "provider" "ip_version" = some v →
    SpellsIpVersion v c.provider.ipVersion
  ipVersionMissing : given es "provider" "ip_version" = none → c.provider.ipVersion = none

theorem spellsTransport_of_read {v : Value} {transport : Transport}
    (h : readTransport v = .ok transport) : SpellsTransport v transport := by
  unfold readTransport at h
  cases hempty : v.isEmpty with
  | true =>
    rw [hempty] at h
    obtain rfl := Except.ok.inj h
    exact .inl hempty
  | false =>
    simp only [hempty, Bool.false_eq_true, if_false] at h
    split at h
    · obtain rfl := Except.ok.inj h
      exact .inr ‹_›
    · split at h
      · obtain rfl := Except.ok.inj h
        exact ⟨hempty, ‹_›⟩
      · cases h

theorem spellsIpVersion_of_read {v : Value} {version : Option IpVersion}
    (h : readIpVersion v = .ok version) : SpellsIpVersion v version := by
  unfold readIpVersion at h
  split at h
  · obtain rfl := Except.ok.inj h
    exact .inl rfl
  · dsimp only at h
    split_ifs at h with hblank h4 h6 hboth
    · cases h
      exact .inr hblank
    · cases h
      exact List.contains_iff_mem.mp h4
    · cases h
      exact List.contains_iff_mem.mp h6
    · cases h
      exact List.contains_iff_mem.mp hboth
    · cases h

theorem read_given {α β : Type} {es : List (Value × Value)} {group name : String} {missing a : α}
    {first b : β} {read : Value → Checked α} {readGroup : Value → Checked β}
    (hgroup : field es group first readGroup = .ok b) (hfirst : first = b → missing = a)
    (hread : ∀ v, readGroup v = .ok b → ∃ entries, v = .map entries ∧
      field entries name missing read = .ok a) :
    (∀ v, given es group name = some v → read v = .ok a) ∧
    (given es group name = none → a = missing) := by
  obtain ⟨hnone, hb⟩ | ⟨held, hfound, hheld⟩ := field_eq_ok.mp hgroup
  · have hgiven : given es group name = none := by
      rw [given, hnone]
      rfl
    rw [hgiven]
    exact ⟨nofun, fun _ => (hfirst hb).symm⟩
  · obtain ⟨entries, rfl, hentry⟩ := hread held hheld
    have hgiven : given es group name = Value.find? entries name := by
      rw [given, hfound]
      rfl
    rw [hgiven]
    obtain ⟨hnone, rfl⟩ | ⟨v, hv, hok⟩ := field_eq_ok.mp hentry
    · rw [hnone]
      exact ⟨nofun, fun _ => rfl⟩
    · rw [hv]
      refine ⟨?_, nofun⟩
      rintro v' ⟨⟩
      exact hok

theorem spelled_of_readConfig {es : List (Value × Value)} {c : Config} (h : readConfig es = .ok c) :
    c.Spelled es := by
  obtain ⟨-, hprovider, hservice⟩ := readConfig_eq_ok h
  have htransport : (∀ v, given es "service" "protocol" = some v →
      readTransport v = .ok c.service.transport) ∧
      (given es "service" "protocol" = none → c.service.transport = .udp) := by
    refine read_given hservice (fun hfirst => congrArg (·.transport) hfirst) fun v hv => ?_
    cases v with
    | map entries => exact ⟨entries, rfl, (readService_map_eq_ok.mp hv).2.1⟩
    | _ => cases hv
  have hversion : (∀ v, given es "provider" "ip_version" = some v →
      readIpVersion v = .ok c.provider.ipVersion) ∧
      (given es "provider" "ip_version" = none → c.provider.ipVersion = none) := by
    refine read_given hprovider (fun hfirst => congrArg (·.ipVersion) hfirst) fun v hv => ?_
    cases v with
    | map entries => exact ⟨entries, rfl, (readProvider_map_eq_ok.mp hv).2.1⟩
    | _ => cases hv
  exact ⟨fun v hv => spellsTransport_of_read (htransport.1 v hv), htransport.2,
    fun v hv => spellsIpVersion_of_read (hversion.1 v hv), hversion.2⟩

/-- Every configuration that is accepted is in range. Transport and address family are what is
spelled for them, or the default ones. Each value that was given, in the document or in the
overrides, is one that is accepted by itself and read alike there; an override is what is given. -/
theorem load_in_range {document : Value} {overrides : List (Value × Value)} {path : String}
    {c : Config} (h : load document overrides path = .ok c) :
    c.InRange ∧ ∃ es, entries? document = some es ∧ c.Spelled (merge es overrides) ∧
      (∀ group name v, given (merge es overrides) group name = some v → ReadAlone c group name v) ∧
      (GroupsApart overrides → ∀ group name v, given overrides group name = some v →
        v.isNull = false → v.isMap = false →
        given (merge es overrides) group name = some v ∧ ReadAlone c group name v) := by
  obtain ⟨es, hes, hc⟩ := load_eq_ok h
  refine ⟨inRange_of_normal (normal_of_readConfig hc), es, hes, spelled_of_readConfig hc,
    fun _ _ _ hv => readAlone_of_given hc hv, ?_⟩
  intro ho group name v hv hnull hmap
  have hmerged : given (merge es overrides) group name = some v := given_merge ho hv hnull hmap
  exact ⟨hmerged, readAlone_of_given hc hmerged⟩

theorem groupsApart_portOverride : GroupsApart portOverride := by
  refine ⟨by simp [KeysApart, portOverride], fun group entries hfind => ?_⟩
  rw [portOverride, find?_cons_text] at hfind
  split_ifs at hfind
  · obtain rfl := Value.map.inj (Option.some.inj hfind)
    simp [KeysApart, Value.sameKey]
  · cases hfind

/-- A truth value that takes the place of a port is read as it is by itself. -/
theorem load_in_range_port_override :
    ∃ c, load spelledFreely portOverride "a.yaml" = .ok c ∧ c.InRange ∧
    given portOverride "service" "port" = some (.bool true) ∧
    ReadAlone c "service" "port" (.bool true) ∧
    c.shows "service" "port" = some (.int 1) := by
  obtain ⟨c, hc⟩ :=
    exists_of_isOk (x := load spelledFreely portOverride "a.yaml") (by decide +kernel)
  have hport : (load spelledFreely portOverride "a.yaml").map (·.service.port) = .ok 1 := by
    decide +kernel
  simp only [hc, Except.map, Except.ok.injEq] at hport
  obtain ⟨hrange, es, -, -, -, hoverrides⟩ := load_in_range hc
  obtain ⟨-, halone⟩ :=
    hoverrides groupsApart_portOverride "service" "port" (.bool true) rfl rfl rfl
  refine ⟨c, hc, hrange, rfl, halone, ?_⟩
  rw [shows_eq, ← hport]
  rfl

end ServiceDiscovery.Settings
