/-!
Severities of log entries.
-/
namespace ServiceDiscovery

inductive Level
  | debug | info | warning | error | critical
  deriving DecidableEq, Repr

def Level.number : Level → Int
  | debug => 10
  | info => 20
  | warning => 30
  | error => 40
  | critical => 50

def Level.name : Level → String
  | debug => "DEBUG"
  | info => "INFO"
  | warning => "WARNING"
  | error => "ERROR"
  | critical => "CRITICAL"

end ServiceDiscovery
