import ServiceDiscovery.Settings.Field
import ServiceDiscovery.Settings.Merge

/-!
Settings from a document: overrides are merged in, then every section is read.
-/
namespace ServiceDiscovery.Settings

inductive LoadError
  | notMapping
  | keyNotText
  | invalid (path : String) (problems : List Problem)
  deriving DecidableEq, Repr

def LoadError.message : LoadError → String
  | notMapping => "Configuration root must be a mapping"
  | keyNotText => "keywords must be strings"
  | invalid path problems =>
    let source := if path = "" then "" else " in " ++ path
    "\n".intercalate (s!"Invalid configuration{source}:" :: problems.map Problem.line)

def providerKind : String := "ZeroconfProviderConfig"
def serviceKind : String := "ServiceConfig"

def readProvider : Value → Checked ProviderSettings
  | .map es =>
    let d : ProviderSettings := {}
    ((((Checked.apply (.ok ProviderSettings.mk)
      (field es "interfaces" d.interfaces readInterfaces)).apply
      (field es "ip_version" d.ipVersion readIpVersion)).apply
      (field es "unicast" d.unicast readBool)).apply
      (field es "resolve_timeout_ms" d.resolveTimeoutMs fun v => atLeast 0 (readInt v))).apply
      (field es "addresses" d.addresses readTextList)
  | _ => flawed (.notMapping (some providerKind))

def readService : Value → Checked ServiceSettings
  | .map es =>
    let d : ServiceSettings := {}
    (((((((Checked.apply (.ok ServiceSettings.mk) (field es "uuid" d.uuid readText)).apply
      (field es "protocol" d.transport readTransport)).apply
      (field es "subtype" d.subtype readText)).apply
      (field es "domain" d.domain readText)).apply
      (field es "interface_index" d.interfaceIndex readInt)).apply
      (field es "port" d.port fun v => atMost 65535 (atLeast 0 (readInt v)))).apply
      (field es "prefix" d.namePrefix readText)).apply
      (field es "certificate_file" d.certificateFile readOptionalText)
  | _ => flawed (.notMapping (some serviceKind))

def keyPath (k : Value) : List String := [k.shown, "[key]"]

def keyProblems : List (Value × Value) → List Problem
  | [] => []
  | (.text _, _) :: es => keyProblems es
  | (k, _) :: es => ⟨keyPath k, .notText⟩ :: keyProblems es

def readLogging : Value → Checked (List (Value × Value))
  | .map es =>
    match keyProblems es with
    | [] => .ok es
    | problems => .error problems
  | _ => flawed (.notMapping none)

def readConfig (es : List (Value × Value)) : Checked Config :=
  ((Checked.apply (.ok Config.mk) (field es "logging" [] readLogging)).apply
    (field es "provider" {} readProvider)).apply
    (field es "service" {} readService)

def isText : Value → Bool
  | .text _ => true
  | _ => false

/-- Reads the settings of a document, after merging overrides into it. An empty document has none;
`path` names it in messages. -/
def load (document : Value) (overrides : List (Value × Value)) (path : String) :
    Except LoadError Config :=
  if document.isEmpty then read []
  else match document with
    | .map es => read es
    | _ => .error .notMapping
where
  read (es : List (Value × Value)) : Except LoadError Config :=
    let merged := merge es overrides
    if merged.all fun e => isText e.1 then
      match readConfig merged with
      | .ok c => .ok c
      | .error problems => .error (.invalid path problems)
    else .error .keyNotText

end ServiceDiscovery.Settings
