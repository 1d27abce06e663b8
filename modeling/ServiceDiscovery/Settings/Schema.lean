import ServiceDiscovery.RegType
import ServiceDiscovery.Value

/-!
Validated settings: how the multicast engine is bound, what is announced or looked for, and the
free-form section on logging.
-/
namespace ServiceDiscovery.Settings

inductive Interfaces
  | standard
  | all
  | addresses (list : List String)
  deriving DecidableEq, Repr

def Interfaces.shown : Interfaces → String
  | standard => "'default'"
  | all => "'all'"
  | addresses list => (Value.list (list.map Value.text)).shown

inductive IpVersion
  | v4 | v6 | all
  deriving DecidableEq, Repr

def IpVersion.name : IpVersion → String
  | v4 => "v4"
  | v6 => "v6"
  | all => "all"

structure ProviderSettings where
  interfaces : Interfaces := .standard
  ipVersion : Option IpVersion := none
  unicast : Bool := false
  resolveTimeoutMs : Int := 3000
  addresses : List String := []
  deriving DecidableEq, Repr

structure ServiceSettings where
  uuid : String := ""
  transport : Transport := .udp
  subtype : String := ""
  domain : String := ""
  interfaceIndex : Int := 0
  port : Int := 0
  namePrefix : String := ""
  certificateFile : Option String := none
  deriving DecidableEq, Repr

structure Config where
  logging : List (Value × Value) := []
  provider : ProviderSettings := {}
  service : ServiceSettings := {}

end ServiceDiscovery.Settings
