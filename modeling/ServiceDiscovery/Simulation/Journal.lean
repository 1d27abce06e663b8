import ServiceDiscovery.Simulation.Directory

/-!
Logging on its own: it is set up in a directory, and then messages are logged.
-/
namespace ServiceDiscovery.Simulation
open ServiceDiscovery.Logging

structure Journal where
  routing : Routing
  directory : Directory
  written : List Written

namespace Journal

def store (d : Directory) : Written → Directory
  | .file path line => d.append path (line ++ "\n")
  | _ => d

def start (d : Directory) (time : String) (settings : List (Value × Value)) (level : Value) :
    Except SystemError Journal :=
  (Routing.open d.view d.outlets time settings level).map fun (routing, written) =>
    let opened :=
      routing.sinks.foldl (fun d s => match s with | .file path => d.append path "" | _ => d) d
    ⟨routing, written.foldl store opened, written⟩

def loggerName (name : String) : String := if name = "" then "root" else name

def log (time : String) (j : Journal) (m : Message) : Journal :=
  let written := j.routing.emit time { m with logger := loggerName m.logger }
  { j with directory := written.foldl store j.directory, written := j.written ++ written }

def run (time : String) (j : Journal) (messages : List Message) : Journal :=
  messages.foldl (log time) j

end Journal
end ServiceDiscovery.Simulation
