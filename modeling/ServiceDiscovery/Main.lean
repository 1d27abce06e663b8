import ServiceDiscovery.Command.Start
import ServiceDiscovery.Logging.Time
import ServiceDiscovery.Multicast.Engine
import ServiceDiscovery.Settings.File
import Std.Time.DateTime.Timestamp

/-!
The program: it reads the command line, the files that this names and the clock, and prints what
comes of it. No multicast package is built in, so the setup of the provider is where it ends.
-/
namespace ServiceDiscovery.Terminal
open ServiceDiscovery.Command ServiceDiscovery.Logging

def systemError (path : String) : IO.Error → SystemError
  | .noFileOrDirectory .. => .notFound path
  | .inappropriateType .. => .isDirectory path
  | .permissionDenied .. => ⟨some 13, "Permission denied: " ++ Text.quoted path⟩
  | e => ⟨none, toString e⟩

def fetch (path : String) : IO (String × Except SystemError Text.Octets) := do
  match ← (IO.FS.readBinFile path).toBaseIO with
  | .ok bytes => return (path, .ok bytes.toList)
  | .error e => return (path, .error (systemError path e))

def filesOf (directory home : String) (known : List (String × Except SystemError Text.Octets)) :
    Files :=
  ⟨directory, home, fun path => (known.lookup path).getD (.error (.notFound path))⟩

def certificatePath (files : Files) (o : Options) : String :=
  match Settings.loadFile files o.config o.overrides with
  | .ok c => files.expandHome (c.service.certificateFile.getD "")
  | .error _ => ""

def put : Written → IO Unit
  | .console line => IO.eprintln line
  | .file path line => do (← IO.FS.Handle.mk path .append).putStrLn line
  | .syslogOpened .. => return
  | .syslog _ => return

def report (time : String) (o : Opened) (later : List Notice) : IO UInt32 := do
  for w in o.written ++ (o.notices ++ later).flatMap fun n =>
    o.routing.emit time (.ofNotice toString n) do
    put w
  return 1

def noSyslog : SystemError := ⟨some 2, "No such file or directory"⟩

def run (o : Options) : IO UInt32 := do
  let directory := toString (← IO.currentDir)
  let home := (← IO.getEnv "HOME").getD directory
  let files := filesOf directory home
  let settings ← if o.config = "" then pure [] else pure [← fetch ((files []).absolute o.config)]
  let path := certificatePath (files settings) o
  let certificate ← if path = "" then pure [] else pure [← fetch path]
  let time := timeText (← Std.Time.Timestamp.now).toSecondsSinceUnixEpoch.val
  let hostName := Text.trim ((← IO.getEnv "HOSTNAME").getD "localhost")
  let files := files (settings ++ certificate)
  match start ⟨Yaml.readBytes, files, { openSyslog := fun _ => some noSyslog }, hostName,
    time⟩ o with
  | .rejected e => IO.println e.message; return 1
  | .unlogged e => IO.eprintln e.message; return 1
  | .uncertified opened => report time opened []
  | .ready opened _ _ => report time opened [.setupFailed Multicast.unavailable]

end ServiceDiscovery.Terminal

def main (arguments : List String) : IO UInt32 := do
  match ServiceDiscovery.Command.Options.read arguments with
  | .ok o => ServiceDiscovery.Terminal.run o
  | .error (.usage e) => IO.eprintln e.message; return 2
  | .error .help => return 0
