import ServiceDiscovery.Multicast.Address
import ServiceDiscovery.Multicast.Endpoint
import ServiceDiscovery.Settings.Schema

/-!
The multicast engine: a provider that answers start requests with endpoints. What it asks of the
network and logs is listed as effects; what the host and the network answer is given.
-/
namespace ServiceDiscovery.Multicast
open ServiceDiscovery.Settings

structure Host where
  name : String
  addresses : Except String (List String)

/-- What starting a browser or describing a service fails with: an error of the operating system, a
value of the wrong type, a value that is not allowed, a name that is not allowed for the type, or
anything else. -/
inductive Failure
  | system (e : SystemError)
  | mistyped (text : String)
  | invalid (text : String)
  | badName (text : String)
  | other (text : String)
  deriving DecidableEq, Repr

namespace Failure

def fault : Failure → Fault
  | system e => .system e
  | mistyped text => .failed text
  | invalid text => .failed text
  | badName text => .failed text
  | other text => .failed text

def ofFault : Fault → Failure
  | .system e => .system e
  | f => .other f.message

def isSystem : Failure → Bool
  | system _ => true
  | _ => false

def blamesData : Failure → Bool
  | mistyped _ => true
  | invalid _ => true
  | badName _ => true
  | _ => false

/-- A failure of a kind that is translated is a refusal, with its text after `what`. Any other one
goes out as it is. -/
def answer (f : Failure) (translated : Bool) (code : Int) (what : String) : StartAnswer :=
  if translated then .refused ⟨code, what ++ f.fault.message⟩ else .raised f.fault

end Failure

/-- The answers of the surroundings to a start request: the failure of starting a browser, and the
failure of describing a service. -/
structure Surroundings where
  host : Host
  browserFault : Option Failure := none
  infoFault : ServiceInfo → Option Failure := fun _ => none

structure Engine where
  settings : ProviderSettings := {}
  /-- The network was opened by the engine, which has not closed it yet. -/
  ownsNetwork : Bool := false
  endpoints : List Endpoint := []
  browsers : Nat := 0

def unavailable : String :=
  "ZeroconfProvider requires the \"zeroconf\" package. Install ndnsd[zeroconf]."

def bindFailure (e : SystemError) : String :=
  s!"Zeroconf failed to initialize mDNS sockets: {e.message}. "
    ++ "Try setting provider.interfaces=default and/or provider.ip_version=v4."

/-- The usual text of each interface address; those that cannot be read are logged and left out. -/
def readInterfaces : List String → List String × List Effect
  | [] => ([], [])
  | a :: rest =>
    let (found, effects) := readInterfaces rest
    match Address.read? a with
    | some address => (address.text :: found, effects)
    | none => (found, .notice (.interfaceIgnored a) :: effects)

def bindingOf : Interfaces → Binding × List Effect
  | .standard => (.standard, [])
  | .all => (.all, [])
  | .addresses list =>
    let (found, effects) := readInterfaces list
    (.addresses found, effects)

def familyOf : IpVersion → Family
  | .v4 => .v4
  | .v6 => .v6
  | .all => .all

namespace Engine

def sharing (settings : ProviderSettings) : Engine := { settings }

def make (settings : ProviderSettings) (fault : Option SystemError) :
    Except String Engine × List Effect :=
  let (interfaces, ignored) := bindingOf settings.interfaces
  let effects := ignored ++
    [.notice (.binding settings.interfaces.shown
      (Text.quotedOr (settings.ipVersion.map IpVersion.name))
        (Value.bool settings.unicast).shown),
     .call (.opening interfaces settings.unicast (settings.ipVersion.map familyOf))]
  match fault with
  | none => (.ok { settings, ownsNetwork := true }, effects)
  | some e => (.error (bindFailure e), effects ++ [.notice (.bindFailed e)])

def close (e : Engine) : Engine × List Effect :=
  if e.ownsNetwork then ({ e with ownsNetwork := false }, [.call .close]) else (e, [])

def endpoint? (e : Engine) (h : Handle) : Option Endpoint := e.endpoints[h]?

def modify (e : Engine) (h : Handle) (f : Endpoint → Endpoint) : Engine :=
  { e with endpoints := e.endpoints.modify h f }

/-- Descriptors below this one are taken by the program itself. -/
def firstDescriptor : Nat := 3

def freeDescriptor (used : List Int) : Int :=
  let candidates := (List.range (used.length + 1)).map fun n => ((n + firstDescriptor : Nat) : Int)
  (candidates.find? fun d => !used.contains d).getD 0

def add (e : Engine) (replyTo : ReplyTo) (purpose : Purpose) (work : Work) : StartAnswer × Engine :=
  let used := e.endpoints.flatMap Endpoint.descriptors
  let descriptor := freeDescriptor used
  let sender := freeDescriptor (descriptor :: used)
  (.started e.endpoints.length descriptor,
    { e with endpoints := e.endpoints ++ [{ replyTo, purpose, descriptor, sender, work }] })

def startBrowse (around : Surroundings) (e : Engine) (replyTo : ReplyTo) (type : ServiceType)
    (interfaceIndex : Int) : StartAnswer × Engine × List Effect :=
  let logged := Effect.notice (.browsing type.full)
  match around.browserFault with
  | some f => (f.answer f.isSystem ErrorCode.notRunning "browse failed: ", e, [logged])
  | none =>
    let browser := e.browsers + 1
    let (answer, e) :=
      { e with browsers := browser }.add replyTo (.browse type interfaceIndex browser) .finished
    (answer, e, [logged, .call (.browse browser type.full)])

def startResolve (e : Engine) (replyTo : ReplyTo) (type : ServiceType) (name : String)
    (interfaceIndex : Int) : StartAnswer × Engine × List Effect :=
  if name = "" then (.refused ⟨ErrorCode.badParam, "empty instance name"⟩, e, [])
  else
    let purpose :=
      Purpose.resolve type.base s!"{name}.{type.base}" interfaceIndex e.settings.resolveTimeoutMs
    let (answer, e) := e.add replyTo purpose .ask
    (answer, e, [])

def serverName (host : String) : String :=
  let label := Text.firstLabel host
  (if label = "" then "localhost" else label) ++ "." ++ localDomain

/-- The addresses to announce. A failing look-up, made only if none are configured, is logged. -/
def addressesOf (around : Surroundings) (configured : List String) : List String × List Effect :=
  match configured.isEmpty, around.host.addresses with
  | true, .error why => (localAddresses configured none, [.notice (.hostUnresolved why)])
  | _, .error _ => (localAddresses configured none, [])
  | _, .ok found => (localAddresses configured (some found), [])

def infoOf (around : Surroundings) (e : Engine) (type : ServiceType) (name : String) (port : Int)
    (txt : Text.Octets) : ServiceInfo :=
  { type := type.full, name := s!"{name}.{type.base}", port, txt,
    server := serverName around.host.name,
    addresses := (addressesOf around e.settings.addresses).1 }

def startRegister (around : Surroundings) (e : Engine) (replyTo : ReplyTo) (type : ServiceType)
    (name : String) (port : Int) (txt : Text.Octets) : StartAnswer × Engine × List Effect :=
  let logged := (addressesOf around e.settings.addresses).2
  let info := e.infoOf around type name port txt
  match around.infoFault info with
  | some f => (f.answer f.blamesData ErrorCode.badParam "invalid service info: ", e, logged)
  | none =>
    let (answer, e) := e.add replyTo (.register info name type.reply) .ask
    (answer, e, logged ++ [.notice (.advertising name type.full)])

def start (around : Surroundings) (e : Engine) (r : StartRequest) :
    StartAnswer × Engine × List Effect :=
  match r.call with
  | .browse interfaceIndex regtype domain =>
    match ServiceType.of? (some regtype) domain with
    | .error f => (.refused f, e, [])
    | .ok type => e.startBrowse around r.replyTo type interfaceIndex
  | .resolve interfaceIndex name regtype domain =>
    match ServiceType.of? (some regtype) (some domain) with
    | .error f => (.refused f, e, [])
    | .ok type => e.startResolve r.replyTo type name interfaceIndex
  | .register _ name regtype domain port txt =>
    match ServiceType.of? (some regtype) domain with
    | .error f => (.refused f, e, [])
    | .ok type => e.startRegister around r.replyTo type name port txt

def release (e : Engine) (h : Handle) : Engine × List Effect :=
  match e.endpoint? h with
  | none => (e, [])
  | some endpoint =>
    let (endpoint, effects) := endpoint.close
    (e.modify h fun _ => endpoint, effects)

def take (e : Engine) (h : Handle) : Except Refusal (List Reply) × Engine :=
  match e.endpoint? h with
  | none => (.ok [], e)
  | some endpoint =>
    let (batch, queue) := endpoint.queue.take
    (batch, e.modify h fun p => { p with queue })

def isClosed (e : Engine) (h : Handle) : Bool := (e.endpoint? h).all (·.queue.closed)

def isReady (e : Engine) (h : Handle) : Bool := (e.endpoint? h).any (·.queue.isReady)

/-- Goes on with a batch: the next reply, marked if more follow, unless the endpoint was closed. -/
def nextReply (e : Engine) (h : Handle) : List Reply → Option (Reply × List Reply)
  | [] => none
  | r :: rest =>
    if e.isClosed h then none else some (if rest.isEmpty then r else r.withMoreComing, rest)

/-- Runs the threads of the endpoints `hs` in turn to their ends; one that fails stops the rest.
Counts those that had work left. -/
def workAll (net : Network) (e : Engine) (count : Nat) :
    List Handle → Except SystemError Nat × Engine × List Effect
  | [] => (.ok count, e, [])
  | h :: hs =>
    match e.endpoint? h with
    | none => e.workAll net count hs
    | some endpoint =>
      if endpoint.work = .finished then e.workAll net count hs
      else match endpoint.finish net with
        | (some fault, endpoint, effects) => (.error fault, e.modify h fun _ => endpoint, effects)
        | (none, endpoint, effects) =>
          let (outcome, e, later) := (e.modify h fun _ => endpoint).workAll net (count + 1) hs
          (outcome, e, effects ++ later)

def work (net : Network) (e : Engine) : Except SystemError Nat × Engine × List Effect :=
  e.workAll net 0 (List.range e.endpoints.length)

def browserHandle? (e : Engine) (browser : Nat) : Option Handle :=
  e.endpoints.findIdx? fun p => match p.purpose with
    | .browse _ _ b => b == browser
    | _ => false

def emit (room : Nat) (e : Engine) (h : Handle) (kind name : String) :
    Nat → Except SystemError Unit × Engine × List Effect
  | 0 => (.ok (), e, [])
  | n + 1 =>
    match e.endpoint? h with
    | none => (.ok (), e, [])
    | some endpoint =>
      match endpoint.change room kind name with
      | (some fault, endpoint, effects) => (.error fault, e.modify h fun _ => endpoint, effects)
      | (none, endpoint, effects) =>
        let (outcome, e, later) := (e.modify h fun _ => endpoint).emit room h kind name n
        (outcome, e, effects ++ later)

end Engine
end ServiceDiscovery.Multicast
