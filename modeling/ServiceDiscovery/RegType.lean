import ServiceDiscovery.Text.Blank
import ServiceDiscovery.Text.Lowercase

/-!
Transports and the registration types that name them, with and without a subtype.
-/
namespace ServiceDiscovery

inductive Transport
  | udp | tcp
  deriving DecidableEq, Repr, Inhabited

def Transport.code : Transport → Int
  | udp => 1
  | tcp => 2

def Transport.ofCode? (code : Int) : Option Transport :=
  if code = 1 then some .udp else if code = 2 then some .tcp else none

def Transport.name : Transport → String
  | udp => "UDP"
  | tcp => "TCP"

namespace RegType
open ServiceDiscovery.Text

def service : String := "_ndn"

/-- The label of a transport code; every code other than that of UDP counts as TCP. -/
def transportLabel (code : Int) : String := if code = Transport.udp.code then "_udp" else "_tcp"

def make (code : Int) (subtype : String) : String :=
  service ++ "." ++ transportLabel code ++ if subtype = "" then "." else "," ++ subtype

/-- The labels of a registration type in lower case; commas separate like dots. -/
def labels (regtype : String) : List String :=
  (parts '.' ((lower regtype).toList.map fun c => if c = ',' then '.' else c)).map String.ofList

/-- The transport that a registration type names, the label of UDP before that of TCP. -/
def transport? (regtype : String) : Option Transport :=
  if (labels regtype).contains "_udp" then some .udp
  else if (labels regtype).contains "_tcp" then some .tcp
  else none

end RegType
end ServiceDiscovery
