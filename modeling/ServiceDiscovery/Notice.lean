import ServiceDiscovery.Level
import ServiceDiscovery.Fault

/-!
Everything that is logged, by cause, with the severity, the logger and the wording of each.
-/
namespace ServiceDiscovery
open ServiceDiscovery.Text (quoted quotedOr plainOr)

inductive Notice
  | announceRejected (uuid why : String)
  | registrationRefused (uuid regtype : String) (r : Refusal)
  | registering (uuid regtype : String) (port : Int)
  | reconfirmed (uuid : String)
  | registeredAs (uuid name : String)
  | registered (uuid : String) (regtype : Option String) (domain : String)
  | advertisementLost (uuid : String) (code : Int)
  | registrationFailed (uuid : String) (code : Int)
  | browseRefused (uuid regtype : String) (r : Refusal)
  | browseStarted (uuid : String) (id : Int) (regtype : String)
  | browseIsOver (uuid : String) (id : Int)
  | alreadyTracked (uuid : String) (id : Int) (name : String)
  | unparseable (uuid name : String) (regtype : Option String)
  | appeared (uuid : String) (id : Int) (name : String) (regtype domain : Option String)
  | vanished (uuid : String) (id : Int) (name : String)
  | cancelled (uuid : String) (id : Int)
  | unknownRecord (uuid record : String)
  | resolveRefused (uuid name : String) (r : Refusal)
  | malformedTxt (uuid : String) (fullname : Option String) (why : String)
  | resolved (uuid fullname hostname : String) (port : Int) (namePrefix : String)
  | waitFailed (uuid : String) (e : SystemError)
  | pumpFailed (uuid : String) (descriptor : Int) (r : Refusal)
  | withdrawn (uuid : String)
  | releaseFailed
  | teardownFailed
  | multiplexerCloseFailed
  | providerCloseFailed
  | callbackRaised (label : String)
  | watching (descriptor : Int) (total : Nat)
  | released (descriptor : Int) (left : Nat)
  | browsing (serviceType : String)
  | stateChanged (kind name serviceType : String)
  | lookupFailed (fullname why : String)
  | advertising (name serviceType : String)
  | advertisingFailed (name why : String)
  | hostUnresolved (why : String)
  | interfaceIgnored (address : String)
  | binding (interfaces ipVersion unicast : String)
  | bindFailed (e : SystemError)
  | configLoaded (path : String)
  | certificateUnreadable (path : String) (e : SystemError)
  | setupFailed (why : String)
  | stopping (signal : String)
  | loopStopped (code : Int)
  | closingFailed (why : String)
  | syslogFailed (why : String)
  deriving DecidableEq, Repr

inductive Logger
  | session | multiplexer | engine | command | root
  deriving DecidableEq, Repr

def Logger.name : Logger → String
  | session => "ndnsd.service"
  | multiplexer => "ndnsd.multiplexer"
  | engine => "ndnsd.provider.zeroconf"
  | command => "ndnsd.main"
  | root => "root"

namespace Notice

def level : Notice → Level
  | registering .. | reconfirmed .. | browseStarted .. | browseIsOver .. | alreadyTracked ..
  | appeared .. | vanished .. | cancelled .. | resolved .. | releaseFailed | teardownFailed
  | multiplexerCloseFailed | providerCloseFailed | watching .. | released .. | browsing ..
  | stateChanged .. | advertising .. | hostUnresolved .. | binding .. => .debug
  | registered .. | withdrawn .. | configLoaded .. | stopping .. => .info
  | announceRejected .. | registrationRefused .. | registeredAs .. | advertisementLost ..
  | registrationFailed .. | browseRefused .. | unparseable .. | unknownRecord .. | resolveRefused ..
  | malformedTxt .. | lookupFailed .. | advertisingFailed .. | interfaceIgnored ..
    | closingFailed ..
  | syslogFailed .. => .warning
  | waitFailed .. | pumpFailed .. | callbackRaised .. | bindFailed .. | certificateUnreadable ..
  | setupFailed .. | loopStopped .. => .error

def logger : Notice → Logger
  | watching .. | released .. => .multiplexer
  | browsing .. | stateChanged .. | lookupFailed .. | advertising .. | advertisingFailed ..
  | hostUnresolved .. | interfaceIgnored .. | binding .. | bindFailed .. => .engine
  | configLoaded .. | certificateUnreadable .. | setupFailed .. | stopping .. | loopStopped ..
  | closingFailed .. => .command
  | syslogFailed .. => .root
  | _ => .session

def message (fd : Int → String) : Notice → String
  | announceRejected uuid why => s!"NdnSd {uuid}: announce rejected: {why}"
  | registrationRefused uuid regtype r =>
    s!"NdnSd {uuid}: provider rejected registration of {regtype}: {r.text}"
  | registering uuid regtype port => s!"NdnSd {uuid}: registering {regtype} port={port}"
  | reconfirmed uuid => s!"NdnSd {uuid}: registration re-confirmed"
  | registeredAs uuid name => s!"NdnSd {uuid}: provider registered the service as {quoted name}"
  | registered uuid regtype domain =>
    s!"NdnSd {uuid}: registered {plainOr regtype} in domain {domain}"
  | advertisementLost uuid code =>
    s!"NdnSd {uuid}: advertisement lost after registration: {ErrorCode.message code} ({code})"
  | registrationFailed uuid code =>
    s!"NdnSd {uuid}: registration failed: {ErrorCode.message code} ({code})"
  | browseRefused uuid regtype r => s!"NdnSd {uuid}: browse for {regtype} failed: {r.text}"
  | browseStarted uuid id regtype => s!"NdnSd {uuid}: browse #{id} started for {regtype}"
  | browseIsOver uuid id => s!"NdnSd {uuid}: event for finished browse #{id}"
  | alreadyTracked uuid id name => s!"NdnSd {uuid}: browse #{id} already tracks {quoted name}"
  | unparseable uuid name regtype =>
    s!"NdnSd {uuid}: dropping {quoted name} with unparseable registration type {quotedOr regtype}"
  | appeared uuid id name regtype domain =>
    s!"NdnSd {uuid}: browse #{id} ADD {name} {plainOr regtype} {plainOr domain}"
  | vanished uuid id name => s!"NdnSd {uuid}: browse #{id} REMOVE {name}"
  | cancelled uuid id => s!"NdnSd {uuid}: browse #{id} canceled"
  | unknownRecord uuid record => s!"NdnSd {uuid}: resolve of unknown record {record}"
  | resolveRefused uuid name r => s!"NdnSd {uuid}: resolve of {name} failed: {r.text}"
  | malformedTxt uuid fullname why => s!"NdnSd {uuid}: malformed TXT for {plainOr fullname}: {why}"
  | resolved uuid fullname hostname port namePrefix =>
    s!"NdnSd {uuid}: RESOLVE {fullname} {hostname}:{port} prefix={namePrefix}"
  | waitFailed uuid e => s!"NdnSd {uuid}: wait failed: {e.message}"
  | pumpFailed uuid descriptor r =>
    s!"NdnSd {uuid}: process result error on fd={fd descriptor}: {r.text}"
  | withdrawn uuid => s!"NdnSd {uuid}: advertisement withdrawn"
  | releaseFailed => "NdnSd: releasing provider handle failed"
  | teardownFailed => "NdnSd: teardown of provider handle failed"
  | multiplexerCloseFailed => "NdnSd: closing multiplexer failed"
  | providerCloseFailed => "NdnSd: closing provider failed"
  | callbackRaised label => s!"NdnSd: {label} callback raised"
  | watching descriptor total => s!"multiplexer: watching fd={fd descriptor} ({total} total)"
  | released descriptor left => s!"multiplexer: released fd={fd descriptor} ({left} left)"
  | browsing serviceType => s!"zeroconf: browsing {serviceType}"
  | stateChanged kind name serviceType => s!"zeroconf: {kind} {name} ({serviceType})"
  | lookupFailed fullname why => s!"zeroconf: resolving {fullname} failed: {why}"
  | advertising name serviceType => s!"zeroconf: registering {name} as {serviceType}"
  | advertisingFailed name why => s!"zeroconf: registering {name} failed: {why}"
  | hostUnresolved why => s!"zeroconf: cannot resolve local host name: {why}"
  | interfaceIgnored address => s!"zeroconf: ignoring invalid interface address {quoted address}"
  | binding interfaces ipVersion unicast =>
    s!"zeroconf: interfaces={interfaces} ip_version={ipVersion} unicast={unicast}"
  | bindFailed e => s!"zeroconf: failed to bind mDNS sockets: {e.message}"
  | configLoaded path => s!"Loaded config from {path}"
  | certificateUnreadable path e => s!"Cannot read certificate {path}: {e.message}"
  | setupFailed why => s!"Provider setup failed: {why}"
  | stopping signal => s!"Received {signal}, stopping"
  | loopStopped code => s!"Event loop stopped with error {code}"
  | closingFailed why => s!"Closing provider failed: {why}"
  | syslogFailed why => s!"Failed to configure syslog: {why}"

end Notice
end ServiceDiscovery
