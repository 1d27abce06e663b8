import ServiceDiscovery.Settings.Schema

/-!
Settings written back as a document.
-/
namespace ServiceDiscovery.Settings

def Interfaces.toValue : Interfaces → Value
  | standard => .text "default"
  | all => .text "all"
  | addresses list => .list (list.map Value.text)

def transportWord : Transport → String
  | .udp => "udp"
  | .tcp => "tcp"

def optionalText : Option String → Value
  | some s => .text s
  | none => .null

def ProviderSettings.toValue (p : ProviderSettings) : Value :=
  .map [(.text "interfaces", p.interfaces.toValue),
    (.text "ip_version", optionalText (p.ipVersion.map IpVersion.name)),
    (.text "unicast", .bool p.unicast), (.text "resolve_timeout_ms", .int p.resolveTimeoutMs),
    (.text "addresses", .list (p.addresses.map Value.text))]

def ServiceSettings.toValue (s : ServiceSettings) : Value :=
  .map [(.text "uuid", .text s.uuid), (.text "protocol", .text (transportWord s.transport)),
    (.text "subtype", .text s.subtype), (.text "domain", .text s.domain),
    (.text "interface_index", .int s.interfaceIndex), (.text "port", .int s.port),
    (.text "prefix", .text s.namePrefix),
    (.text "certificate_file", optionalText s.certificateFile)]

def Config.toValue (c : Config) : Value :=
  .map [(.text "logging", .map c.logging), (.text "provider", c.provider.toValue),
    (.text "service", c.service.toValue)]

end ServiceDiscovery.Settings
