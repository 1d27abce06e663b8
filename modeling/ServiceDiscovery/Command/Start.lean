import ServiceDiscovery.Command.Run
import ServiceDiscovery.Logging.Routing
import ServiceDiscovery.Settings.Source

/-!
The start of the command: settings, logging and certificate are read in this order, and the first of
them that fails ends it.
-/
namespace ServiceDiscovery.Command
open ServiceDiscovery.Settings ServiceDiscovery.Logging

structure Circumstances where
  parse : Parser
  files : Files
  outlets : Outlets := {}
  hostName : String
  time : String

structure Opened where
  routing : Routing
  written : List Written
  notices : List Notice

inductive Start
  | rejected (e : SourceError)
  | unlogged (e : SystemError)
  | uncertified (o : Opened)
  | ready (o : Opened) (plan : Plan) (provider : ProviderSettings)

/-- The instance id: the one that is set, else the host name up to its first dot. -/
def instanceId (set hostName : String) : String :=
  if set = "" then Text.firstLabel hostName else set

def certificateFor (files : Files) (action : Action) (service : ServiceSettings) :
    Except SystemError Text.Octets :=
  match action with
  | .announce => readCertificate files (service.certificateFile.getD "")
  | .browse _ => .ok []

def startLogged (around : Circumstances) (o : Options) (c : Config) (routing : Routing)
    (written : List Written) : Start :=
  let loaded := if o.config = "" then [] else [Notice.configLoaded o.config]
  match certificateFor around.files o.action c.service with
  | .error e =>
    .uncertified ⟨routing, written,
      loaded ++ [.certificateUnreadable (Text.plainOr c.service.certificateFile) e]⟩
  | .ok certificate =>
    let uuid := instanceId c.service.uuid around.hostName
    .ready ⟨routing, written, loaded⟩
      { action := o.action, uuid, service := c.service, certificate, timeoutMs := o.timeoutMs,
        exitAfterMs := o.exitAfterMs }
      c.provider

def start (around : Circumstances) (o : Options) : Start :=
  match loadWith around.parse around.files o.config o.overrides with
  | .error e => .rejected e
  | .ok c =>
    match Routing.open around.files around.outlets around.time c.logging (.text o.logLevel) with
    | .error e => .unlogged e
    | .ok (routing, written) => startLogged around o c routing written

end ServiceDiscovery.Command
