/-!
Numeric error codes of DNS service discovery and their messages, and the messages of errors found
locally.
-/
namespace ServiceDiscovery.ErrorCode

def localError : Int := -1
def noError : Int := 0
def unknown : Int := -65537
def badParam : Int := -65540
def unsupported : Int := -65544
def nameConflict : Int := -65548
def notRunning : Int := -65563
def timeout : Int := -65568

def table : List (Int × String) :=
  [(0, "no error"), (-65537, "unknown error"), (-65538, "no such name"), (-65539, "out of memory"),
   (-65540, "bad parameter"), (-65541, "bad reference"), (-65542, "internal error"),
   (-65543, "invalid values of flags"), (-65544, "operation not supported"),
   (-65545, "reference not initialized"),
   (-65547, "attempt to register a service that is registered"),
   (-65548, "attempt to register a service with an already used name"),
   (-65549, "invalid parameter data"),
   (-65550, "firewall"), (-65551, "client library incompatible with daemon"),
   (-65552, "specified interface does not exist"), (-65553, "refused"), (-65554, "no such record"),
   (-65555, "no auth"), (-65556, "no such key"), (-65557, "NAT traversal"), (-65558, "double NAT"),
   (-65559, "bad time"), (-65560, "bad signature"), (-65561, "bad key"), (-65562, "transient"),
   (-65563, "background daemon not running"), (-65564, "NAT doesn't support NAT-PMP or UPnP"),
   (-65565, "NAT supports NAT-PMP or UPnP but it's disabled by the administrator"),
   (-65566, "no router currently configured (probably no network connectivity)"),
   (-65567, "polling mode"), (-65568, "timeout")]

def message (code : Int) : String := (table.lookup code).getD "unknown error code"

def alreadyRegistered : String := "service is already registered"
def prefixAndPortRequired : String := "service prefix and port must be specified"
def capacityExceeded : String := "maximum TXT record size exceeded"
def unknownInstance : String := "service discovery instance is unknown"
def prefixNotFound : String := "prefix data was not found"

end ServiceDiscovery.ErrorCode
