import ServiceDiscovery.RegType
import ServiceDiscovery.Text.Quoted
import ServiceDiscovery.Text.Utf8

/-!
Service records: one instance of a service, our own or a remote one, and which of its details may be
read in each state of its life.
-/
namespace ServiceDiscovery

inductive ServiceState
  | created | discovered | resolved | registering | registered
  deriving DecidableEq, Repr, Inhabited

def ServiceState.name : ServiceState → String
  | created => "CREATED"
  | discovered => "DISCOVERED"
  | resolved => "RESOLVED"
  | registering => "REGISTERING"
  | registered => "REGISTERED"

def ServiceState.isActive : ServiceState → Bool
  | registering => true
  | registered => true
  | _ => false

/-- The states in which port, name prefix and certificate are known. -/
def ServiceState.hasPayload : ServiceState → Bool
  | resolved => true
  | registered => true
  | _ => false

structure Record where
  uuid : String
  transport : Transport := .udp
  interfaceIndex : Int := 0
  subtype : String := ""
  regtype : String
  domain : String := ""
  port : Int := 0
  namePrefix : String := ""
  certificate : Text.Octets := []
  hostname : String := ""
  fullname : String := ""
  state : ServiceState := .created
  deriving DecidableEq, Repr, Inhabited

namespace Record

def new (uuid : String) (transport : Transport) (interfaceIndex : Int) (subtype domain : String) :
    Record :=
  { uuid, transport, interfaceIndex, subtype, domain,
    regtype := RegType.make transport.code subtype }

def named (uuid : String) : Record := new uuid .udp 0 "" ""

/-- The record as its readers see it: details that the state does not vouch for read as zero or
empty. -/
def shown (r : Record) : Record :=
  let payload := r.state.hasPayload
  let located := r.state = .resolved
  { r with
    domain := if r.state = .created then "" else r.domain
    port := if payload then r.port else 0
    namePrefix := if payload then r.namePrefix else ""
    certificate := if payload then r.certificate else []
    hostname := if located then r.hostname else ""
    fullname := if located then r.fullname else "" }

def text (r : Record) : String :=
  s!"ServiceRecord(uuid={Text.quoted r.uuid}, protocol={r.transport.name}, state={r.state.name})"

end Record
end ServiceDiscovery
