import ServiceDiscovery.Files
import ServiceDiscovery.Logging.Message

/-!
Where log messages go: which severities count, and the sinks that every message that counts is
written to.
-/
namespace ServiceDiscovery.Logging

inductive Sink
  | console
  | file (path : String)
  | syslog (program : String)
  deriving DecidableEq, Repr

def Sink.name : Sink → String
  | console => "stderr"
  | file _ => "file"
  | syslog _ => "syslog"

inductive Written
  | console (line : String)
  | file (path line : String)
  | syslogOpened (address : Value) (facility : Int)
  | syslog (line : String)

structure Routing where
  level : Int := 20
  engineLevel : Int := 30
  sinks : List Sink := []
  deriving DecidableEq, Repr

structure Outlets where
  openFile : String → Option SystemError := fun _ => none
  openSyslog : Value → Option SystemError := fun _ => none

namespace Routing

def threshold (r : Routing) (logger : String) : Int :=
  if logger = "zeroconf" || "zeroconf.".toList.isPrefixOf logger.toList then r.engineLevel
  else r.level

def write (time : String) (m : Message) : Sink → Written
  | .console => .console (m.line time)
  | .file path => .file path (m.line time)
  | .syslog program => .syslog (m.syslogLine program)

def lastResort : Int := Level.warning.number

def emit (r : Routing) (time : String) (m : Message) : List Written :=
  if m.level < r.threshold m.logger then []
  else match r.sinks with
    | [] => if m.level < lastResort then [] else [.console m.text]
    | sinks => sinks.map (write time m)

end Routing

def facilities : List (String × Int) :=
  [("EMERG", 0), ("ALERT", 1), ("CRIT", 2), ("ERR", 3), ("WARNING", 4), ("NOTICE", 5), ("INFO", 6),
   ("DEBUG", 7), ("KERN", 0), ("USER", 1), ("MAIL", 2), ("DAEMON", 3), ("AUTH", 4), ("SYSLOG", 5),
   ("LPR", 6), ("NEWS", 7), ("UUCP", 8), ("CRON", 9), ("AUTHPRIV", 10), ("FTP", 11), ("NTP", 12),
   ("SECURITY", 13), ("CONSOLE", 14), ("SOLCRON", 15), ("LOCAL0", 16), ("LOCAL1", 17),
   ("LOCAL2", 18), ("LOCAL3", 19), ("LOCAL4", 20), ("LOCAL5", 21), ("LOCAL6", 22), ("LOCAL7", 23)]

/-- The facility that a value names, in any case; that of user programs if it names none. -/
def readFacility (v : Value) : Int := (facilities.lookup (Text.asciiUpper v.plain)).getD 1

def filePath? (files : Files) (settings : List (Value × Value)) : Option String :=
  match Value.find? settings "file" with
  | some (.text s) =>
    let path := Text.trim s
    if path = "" then none else some (files.absolute path)
  | _ => none

/-- The options of the system log, if it is wanted: any value that is not empty asks for it. -/
def syslogOptions? (settings : List (Value × Value)) : Option (List (Value × Value)) :=
  match Value.find? settings "syslog" with
  | none => none
  | some v =>
    if v.isEmpty then none
    else match v with
      | .map es => some es
      | _ => some []

def orElse (settings : List (Value × Value)) (key default : String) : Value :=
  (Value.find? settings key).getD (.text default)

def withSyslog (outlets : Outlets) (time : String) (r : Routing) (options : List (Value × Value)) :
    Routing × List Written :=
  let address := orElse options "address" "/dev/log"
  match outlets.openSyslog address with
  | some e => (r, r.emit time (.ofNotice toString (.syslogFailed e.message)))
  | none =>
    ({ r with sinks := r.sinks ++ [.syslog (orElse options "tag" "ndnsd").plain] },
      [.syslogOpened address (readFacility (orElse options "facility" "USER"))])

/-- Sets up logging as its settings say; `level` goes before the severity set there. Only a log file
that cannot be opened makes this fail. -/
def Routing.open (files : Files) (outlets : Outlets) (time : String)
    (settings : List (Value × Value)) (level : Value) :
    Except SystemError (Routing × List Written) :=
  let level := if level.isEmpty then orElse settings "level" "info" else level
  let console := if (orElse settings "stderr" "yes").isEmpty then [] else [Sink.console]
  let r : Routing :=
    { level := readLevel level Level.info.number,
      engineLevel :=
        readLevel ((Value.find? settings "zeroconf_level").getD .null) Level.warning.number,
      sinks := console }
  let file := filePath? files settings
  match file.bind outlets.openFile with
  | some e => .error e
  | none =>
    let r := { r with sinks := r.sinks ++ file.toList.map Sink.file }
    .ok (match syslogOptions? settings with
      | some options => withSyslog outlets time r options
      | none => (r, []))

end ServiceDiscovery.Logging
