import ServiceDiscovery.CommandLine.Grammar
import ServiceDiscovery.Value

/-!
The command line of the program: announce the host, or browse for others.
-/
namespace ServiceDiscovery.Command
open ServiceDiscovery.CommandLine

inductive Action
  | announce
  /-- Browse, and resolve whatever appears if that is asked for. -/
  | browse (resolve : Bool)
  deriving DecidableEq, Repr

structure Options where
  action : Action
  config : String := ""
  logLevel : String := ""
  timeoutMs : Int := 500
  exitAfterMs : Int := 0
  service : List (Value × Value) := []

def commonOptions : List OptionForm :=
  [⟨"--config", .text⟩, ⟨"--uuid", .text⟩, ⟨"--protocol", .word ["udp", "tcp"]⟩,
    ⟨"--subtype", .text⟩,
   ⟨"--log-level", .text⟩, ⟨"--timeout-ms", .number⟩, ⟨"--exit-after-ms", .number⟩]

def announceOptions : List OptionForm :=
  [⟨"--port", .number⟩, ⟨"--prefix", .text⟩, ⟨"--cert-file", .text⟩]

def browseOptions : List OptionForm := [⟨"--resolve", .nothing⟩]

def program : Program :=
  ⟨"ndnsd", [("announce", commonOptions ++ announceOptions),
    ("browse", commonOptions ++ browseOptions)]⟩

def serviceKeys : List (String × String) :=
  [("--uuid", "uuid"), ("--protocol", "protocol"), ("--subtype", "subtype"), ("--port", "port"),
   ("--prefix", "prefix"), ("--cert-file", "certificate_file")]

def last? (settings : List (String × Setting)) (name : String) : Option Setting :=
  settings.reverse.lookup name

def textOf (settings : List (String × Setting)) (name : String) : String :=
  match last? settings name with
  | some (.text s) => s
  | _ => ""

def numberOf (settings : List (String × Setting)) (name : String) (default : Int) : Int :=
  match last? settings name with
  | some (.number n) => n
  | _ => default

def Setting.toValue : Setting → Value
  | .given => .bool true
  | .text s => .text s
  | .number n => .int n

namespace Options

def ofSettings (command : String) (settings : List (String × Setting)) : Options where
  action := if command = "announce" then .announce else .browse (last? settings "--resolve").isSome
  config := textOf settings "--config"
  logLevel := textOf settings "--log-level"
  timeoutMs := numberOf settings "--timeout-ms" 500
  exitAfterMs := numberOf settings "--exit-after-ms" 0
  service := serviceKeys.filterMap fun (name, key) =>
    (last? settings name).map fun s => (.text key, Setting.toValue s)

def read (arguments : List String) : Except Halt Options :=
  (program.read arguments).map fun (command, settings) => ofSettings command settings

def overrides (o : Options) : List (Value × Value) := [(.text "service", .map o.service)]

end Options
end ServiceDiscovery.Command
