import ServiceDiscovery.Proofs.Overriding
import ServiceDiscovery.Simulation.Rehearsal

/-!
Settings that cannot be loaded, whatever package reads the documents. The command answers for most
of them with a message and an exit code; it is ended by a document that the package cannot read,
unless a value is to blame, and by a section whose name is no text.
-/
namespace ServiceDiscovery.Settings
open ServiceDiscovery.Text ServiceDiscovery.Yaml

/-! ### Documents -/

def documentOf (parse : Parser) (files : Files) (path : String) : Except SourceError Value :=
  if path = "" then .ok .null
  else match files.read (files.absolute path) with
    | .error e => .error (.unreadable e)
    | .ok bytes => (parse bytes).mapError .unparseable

/-- The names of all sections are texts, but for overrides that are missing. -/
def AllNamed (es overrides : List (Value × Value)) : Prop :=
  (es.all fun e => isText e.1) = true ∧ (overrides.all fun e => isText e.1 || e.2.isNull) = true

/-- What a file can hold that the command has no answer for. -/
inductive Unanswered (parse : Parser) (files : Files) (path : String)
    (overrides : List (Value × Value)) : Prop
  /-- Bytes on which the package fails with another error than one of values. -/
  | unread {bytes : Octets} {e : ReadError} (hpath : path ≠ "")
    (hbytes : files.read (files.absolute path) = .ok bytes)
    (h : parse bytes = .error e) (he : (SourceError.unparseable e).isContained = false)
  /-- A section with another name than a text. -/
  | unnamed {document : Value} {es : List (Value × Value)}
      (hdocument : documentOf parse files path = .ok document)
      (hes : entries? document = some es) (h : ¬AllNamed es overrides)

section Load
variable {parse : Parser} {files : Files} {path : String} {overrides : List (Value × Value)}

theorem loadWith_eq : loadWith parse files path overrides =
    documentOf parse files path >>= fun document =>
      (load document overrides path).mapError .invalid := by
  rw [loadWith, documentOf]
  split
  · rename_i hpath
    rw [hpath]
    rfl
  · cases files.read (files.absolute path) with
    | error e => rfl
    | ok bytes =>
      simp only [ofBytes]
      cases parse bytes <;> rfl

theorem load_keyNotText_iff {document : Value} : load document overrides path = .error .keyNotText ↔
    ∃ es, entries? document = some es ∧ ¬AllNamed es overrides := by
  rw [load_eq]
  cases entries? document with
  | none => simp
  | some es =>
    have hmerged : (merge es overrides).all (isText ·.1) = _ := all_isText_merge
    simp only [read_eq, Option.some.injEq, exists_eq_left', AllNamed, ← Bool.and_eq_true, ← hmerged]
    split
    · rename_i hkeys
      simp only [hkeys, not_true_eq_false, iff_false]
      cases readConfig (merge es overrides) <;> simp [Except.mapError]
    · rename_i hkeys
      simp [hkeys]

theorem isContained_invalid (e : LoadError) :
    (SourceError.invalid e).isContained = false ↔ e = .keyNotText := by
  cases e <;> simp [SourceError.isContained]

/-- A file that cannot be read is answered for, so a document that is not is one that the package
fails on. -/
theorem documentOf_unanswered_iff :
    (∃ e, documentOf parse files path = .error e ∧ e.isContained = false) ↔
    path ≠ "" ∧ ∃ bytes e, files.read (files.absolute path) = .ok bytes ∧ parse bytes = .error e ∧
      (SourceError.unparseable e).isContained = false := by
  rw [documentOf]
  split
  · rename_i hpath
    simp [hpath]
  · rename_i hpath
    cases files.read (files.absolute path) with
    | error e => simp [SourceError.isContained]
    | ok bytes => cases hparse : parse bytes <;> simp [hparse, hpath, Except.mapError]

theorem loadWith_error_iff {e : SourceError} : loadWith parse files path overrides = .error e ↔
    documentOf parse files path = .error e ∨
    ∃ document e', documentOf parse files path = .ok document ∧
      load document overrides path = .error e' ∧ e = .invalid e' := by
  rw [loadWith_eq]
  cases documentOf parse files path with
  | error e' => simp [bind, Except.bind]
  | ok document =>
    cases hload : load document overrides path with
    | ok c => simp [bind, Except.bind, Except.mapError, hload]
    | error e' => simp [bind, Except.bind, Except.mapError, hload, eq_comm]

theorem unanswered_iff :
    (∃ e, loadWith parse files path overrides = .error e ∧ e.isContained = false) ↔
    Unanswered parse files path overrides := by
  constructor
  · rintro ⟨e, he, hcontained⟩
    obtain hdocument | ⟨document, e', hdocument, hload, rfl⟩ := loadWith_error_iff.mp he
    · obtain ⟨hpath, bytes, e', hbytes, hparse, hkind⟩ :=
        documentOf_unanswered_iff.mp ⟨e, hdocument, hcontained⟩
      exact .unread hpath hbytes hparse hkind
    · obtain rfl := (isContained_invalid e').mp hcontained
      obtain ⟨es, hes, hnamed⟩ := load_keyNotText_iff.mp hload
      exact .unnamed hdocument hes hnamed
  · rintro (⟨hpath, hbytes, hparse, hkind⟩ | ⟨hdocument, hes, hnamed⟩)
    · obtain ⟨e, he, hcontained⟩ :=
        documentOf_unanswered_iff.mpr ⟨hpath, _, _, hbytes, hparse, hkind⟩
      exact ⟨e, loadWith_error_iff.mpr (.inl he), hcontained⟩
    · have hload : load _ overrides path = .error .keyNotText :=
        load_keyNotText_iff.mpr ⟨_, hes, hnamed⟩
      exact ⟨_, loadWith_error_iff.mpr (.inr ⟨_, _, hdocument, hload, rfl⟩), rfl⟩

end Load

/-! ### The command -/

section Command
open ServiceDiscovery.Command ServiceDiscovery.Simulation

theorem start_of_error {around : Circumstances} {o : Options} {e : SourceError}
    (h : loadWith around.parse around.files o.config o.overrides = .error e) :
    start around o = .rejected e := by
  rw [start, h]

theorem perform_of_error {s : Scene} {o : Options} {e : SourceError}
    (ho : Options.read s.arguments = .ok o)
    (h : loadWith s.parse s.directory.view o.config o.overrides = .error e) : s.perform =
      if e.isContained then { conclusion := .ran (.exit 1), entries := [.printed e.message] }
      else { conclusion := .rejected e } := by
  have hstart : start s.circumstances o = .rejected e := start_of_error h
  simp only [Scene.perform, ho, hstart]

/-- Settings that cannot be loaded end the command with a message and an exit code, and nothing else
happens, unless the file holds what there is no answer for: a document on which the package fails
with another error than one of values, or a section whose name is no text. -/
theorem settings_answered_for (s : Scene) (o : Options) (ho : Options.read s.arguments = .ok o) :
    ((∃ c, loadWith s.parse s.directory.view o.config o.overrides = .ok c) ∨
      ∃ e, loadWith s.parse s.directory.view o.config o.overrides = .error e ∧
        (¬Unanswered s.parse s.directory.view o.config o.overrides →
          s.perform = { conclusion := .ran (.exit 1), entries := [.printed e.message] }) ∧
        (Unanswered s.parse s.directory.view o.config o.overrides →
          s.perform = { conclusion := .rejected e })) ∧
    ∀ parse files path overrides,
      (∃ e, loadWith parse files path overrides = .error e ∧ e.isContained = false) ↔
        Unanswered parse files path overrides := by
  refine ⟨?_, fun _ _ _ _ => unanswered_iff⟩
  cases hload : loadWith s.parse s.directory.view o.config o.overrides with
  | ok c => exact .inl ⟨c, rfl⟩
  | error e =>
    have hcontained : e.isContained = false ↔
        Unanswered s.parse s.directory.view o.config o.overrides := by
      rw [← unanswered_iff, hload]
      simp
    rw [perform_of_error ho hload, ← hcontained]
    exact .inr ⟨e, rfl, fun h => if_pos (by simpa using h), fun h => if_neg (by simp [h])⟩

def numberKey : Octets := [0x31, 0x3a, 0x20, 0x32]

def nestedLists : Octets := [0x5b, 0x5b, 0x5d, 0x5d]

def unclosed : Octets := [0x5b, 0x31]

/-- What a package makes of `1: 2` and of `[[]]`. Anything else, such as `[1`, is malformed. -/
def samples : Parser := fun bytes =>
  if bytes = numberKey then .ok (.map [(.int 1, .int 2)])
  else if bytes = nestedLists then .ok (.list [.list []])
  else .error .malformed

theorem samples_numberKey : samples numberKey = .ok (.map [(.int 1, .int 2)]) := if_pos rfl

theorem samples_nestedLists : samples nestedLists = .ok (.list [.list []]) :=
  (if_neg (by decide)).trans (if_pos rfl)

theorem samples_unclosed : samples unclosed = .error .malformed :=
  (if_neg (by decide)).trans (if_neg (by decide))

def browsingWith (content : Octets) : Scene where
  arguments := ["browse", "--config", "c.yaml"]
  directory := ⟨"/d", [("c.yaml", content)]⟩
  parse := samples
  time := "12:00"

def browsingOptions : Options := { action := .browse false, config := "c.yaml" }

theorem read_browsingWith (content : Octets) :
    Options.read (browsingWith content).arguments = .ok browsingOptions := by
  cbv

section Browsing
variable {content : Octets}
  (hpath : (browsingWith content).directory.view.absolute "c.yaml" = "/d/c.yaml")
  (hfind : (browsingWith content).directory.find "/d/c.yaml" = .file content)
include hpath hfind

theorem read_absolute_browsingWith : (browsingWith content).directory.view.read
    ((browsingWith content).directory.view.absolute "c.yaml") = .ok content := by
  rw [hpath]
  simp only [Directory.view, Directory.read, hfind]

theorem documentOf_browsingWith {document : Value} (h : samples content = .ok document) :
    documentOf (browsingWith content).parse (browsingWith content).directory.view "c.yaml" =
      .ok document := by
  rw [documentOf, if_neg (by decide), read_absolute_browsingWith hpath hfind]
  exact congrArg (Except.mapError SourceError.unparseable) h

end Browsing

theorem unanswered_numberKey :
    Unanswered (browsingWith numberKey).parse (browsingWith numberKey).directory.view "c.yaml"
    browsingOptions.overrides :=
  .unnamed (documentOf_browsingWith (by decide +kernel) (by decide +kernel) samples_numberKey) rfl
    fun h => absurd h.1 (by decide)

theorem unanswered_unclosed :
    Unanswered (browsingWith unclosed).parse (browsingWith unclosed).directory.view "c.yaml"
    browsingOptions.overrides :=
  .unread (by decide) (read_absolute_browsingWith (by decide +kernel) (by decide +kernel))
    samples_unclosed rfl

theorem loadWith_nestedLists :
    loadWith (browsingWith nestedLists).parse (browsingWith nestedLists).directory.view
    "c.yaml" browsingOptions.overrides = .error (.invalid .notMapping) :=
  loadWith_error_iff.mpr
    (.inr ⟨_, _, documentOf_browsingWith (by decide +kernel) (by decide +kernel)
      samples_nestedLists, rfl, rfl⟩)

theorem settings_answered_for_lists :
    (Options.read (browsingWith numberKey).arguments = .ok browsingOptions ∧
      ∃ e, (browsingWith numberKey).perform = { conclusion := .rejected e }) ∧
    (Options.read (browsingWith unclosed).arguments = .ok browsingOptions ∧
      ∃ e, (browsingWith unclosed).perform = { conclusion := .rejected e }) ∧
    Options.read (browsingWith nestedLists).arguments = .ok browsingOptions ∧
    (browsingWith nestedLists).perform =
      { conclusion := .ran (.exit 1),
        entries := [.printed "Configuration root must be a mapping"] } := by
  have hrejected {content : Octets} (h : Unanswered (browsingWith content).parse
      (browsingWith content).directory.view "c.yaml" browsingOptions.overrides) :
      ∃ e, (browsingWith content).perform = { conclusion := .rejected e } := by
    obtain ⟨⟨c, hc⟩ | ⟨e, -, -, hperform⟩, hexactly⟩ :=
      settings_answered_for _ _ (read_browsingWith content)
    · obtain ⟨e, he, -⟩ := (hexactly _ _ _ _).mpr h
      cases hc.symm.trans he
    · exact ⟨e, hperform h⟩
  refine ⟨⟨read_browsingWith _, hrejected unanswered_numberKey⟩,
    ⟨read_browsingWith _, hrejected unanswered_unclosed⟩, read_browsingWith _, ?_⟩
  obtain ⟨hperform, hexactly⟩ := settings_answered_for _ _ (read_browsingWith nestedLists)
  have hanswered : ¬Unanswered (browsingWith nestedLists).parse
      (browsingWith nestedLists).directory.view "c.yaml" browsingOptions.overrides := by
    rw [← hexactly, loadWith_nestedLists]
    rintro ⟨_, ⟨⟩, ⟨⟩⟩
  obtain ⟨c, hc⟩ | ⟨e, he, hexit, -⟩ := hperform
  · cases hc.symm.trans loadWith_nestedLists
  · obtain rfl := Except.error.inj (loadWith_nestedLists.symm.trans he)
    exact hexit hanswered

/-- A file with a key that is no text ends the command without an answer. -/
theorem not_settings_always_answered_for :
    ¬∀ (s : Scene) (o : Options), Options.read s.arguments = .ok o →
    ∀ e, s.perform ≠ { conclusion := .rejected e } := by
  intro hall
  obtain ⟨e, he, hcontained⟩ := unanswered_iff.mpr unanswered_numberKey
  refine hall _ _ (read_browsingWith numberKey) e ?_
  rw [perform_of_error (read_browsingWith numberKey) he, hcontained]
  rfl

end Command

end ServiceDiscovery.Settings
