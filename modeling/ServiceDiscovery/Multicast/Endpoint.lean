import ServiceDiscovery.Multicast.Queue
import ServiceDiscovery.Multicast.ServiceType
import ServiceDiscovery.Notice
import ServiceDiscovery.Provider

/-!
Endpoints: open operations of the multicast engine. Each has a queue towards the loop; a resolve and
a registration also have a thread of their own, whose steps are listed here one by one.
-/
namespace ServiceDiscovery.Multicast
open ServiceDiscovery.Text (Octets)

structure ServiceInfo where
  type : String
  name : String
  port : Int
  txt : Octets
  server : String
  addresses : List String
  deriving DecidableEq, Repr

inductive Binding
  | standard
  | all
  | addresses (list : List String)
  deriving DecidableEq, Repr

inductive Family
  | v4 | v6 | all
  deriving DecidableEq, Repr

inductive NetworkCall
  | opening (interfaces : Binding) (unicast : Bool) (family : Option Family)
  | browse (browser : Nat) (type : String)
  | cancel (browser : Nat)
  | lookUp (type name : String) (timeoutMs : Int)
  | register (info : ServiceInfo)
  | unregister (name : String)
  | close
  deriving DecidableEq, Repr

inductive Effect
  | call (c : NetworkCall)
  | notice (n : Notice)
  deriving DecidableEq, Repr

inductive Lookup
  | found (name : String) (server : Option String) (port : Option Int) (txt : Option Octets)
  | missing
  | failed (why : String)
  deriving DecidableEq, Repr

inductive Verdict
  | accepted
  | nameTaken
  | failed (why : String)
  deriving DecidableEq, Repr

/-- The answers that threads get from the network, and the wake-up bytes that a connection can
hold. -/
structure Network where
  lookUp : String → Lookup
  verdict : ServiceInfo → Verdict
  room : Nat

inductive Purpose
  | browse (type : ServiceType) (interfaceIndex : Int) (browser : Nat)
  | resolve (baseType fullname : String) (interfaceIndex timeoutMs : Int)
  | register (info : ServiceInfo) (name reply : String)
  deriving DecidableEq, Repr

inductive Work
  | ask
  /-- The service is registered: keep that in mind, unless the endpoint was closed meanwhile. -/
  | settle
  /-- The endpoint was closed meanwhile: withdraw the service. -/
  | withdraw
  | answer (r : Reply)
  | finished
  deriving DecidableEq, Repr

structure Endpoint where
  replyTo : ReplyTo
  purpose : Purpose
  descriptor : Int
  sender : Int
  queue : Queue Reply := {}
  work : Work := .finished
  /-- The service is registered and has not been withdrawn. -/
  registered : Bool := false
  deriving DecidableEq, Repr

namespace Endpoint

def post (room : Nat) (e : Endpoint) (r : Reply) : Option SystemError × Endpoint :=
  match e.queue.post room r with
  | (fault, queue) => (fault, { e with queue })

def unresolved (fullname : String) (interfaceIndex code : Int) : Reply :=
  .resolve 0 interfaceIndex code (some fullname) (some "") 0 []

def lookedUp (fullname : String) (interfaceIndex : Int) : Lookup → Reply
  | .found name server port txt =>
    .resolve 0 interfaceIndex ErrorCode.noError (some name) (some (server.getD "")) (port.getD 0)
      (txt.getD [])
  | .missing => unresolved fullname interfaceIndex ErrorCode.timeout
  | .failed _ => unresolved fullname interfaceIndex ErrorCode.unknown

def registration (flags code : Int) (name reply : String) : Reply :=
  .register flags code (some name) (some reply) (some localDomain)

def ask (net : Network) (e : Endpoint) : Endpoint × List Effect :=
  match e.purpose with
  | .browse .. => ({ e with work := .finished }, [])
  | .resolve baseType fullname interfaceIndex timeoutMs =>
    let found := net.lookUp fullname
    let logged := match found with
      | .failed why => [Effect.notice (.lookupFailed fullname why)]
      | _ => []
    ({ e with work := .answer (lookedUp fullname interfaceIndex found) },
      .call (.lookUp baseType fullname timeoutMs) :: logged)
  | .register info name reply =>
    let asked := Effect.call (.register info)
    match net.verdict info with
    | .accepted => ({ e with work := .settle }, [asked])
    | .nameTaken =>
      ({ e with work := .answer (registration 0 ErrorCode.nameConflict name reply) }, [asked])
    | .failed why =>
      ({ e with work := .answer (registration 0 ErrorCode.unknown name reply) },
        [asked, .notice (.advertisingFailed name why)])

/-- One step of the thread. Only queueing the answer can fail, and the thread is over then too. -/
def workStep (net : Network) (e : Endpoint) : Option SystemError × Endpoint × List Effect :=
  match e.work, e.purpose with
  | .ask, _ => (none, e.ask net)
  | .settle, .register _ name reply =>
    if e.queue.closed then (none, { e with work := .withdraw }, [])
    else
      let confirmation := registration 2 ErrorCode.noError name reply
      (none, { e with registered := true, work := .answer confirmation }, [])
  | .withdraw, .register info _ _ =>
    (none, { e with work := .finished }, [.call (.unregister info.name)])
  | .answer r, _ =>
    let (fault, e) := e.post net.room r
    (fault, { e with work := .finished }, [])
  | _, _ => (none, { e with work := .finished }, [])

/-- No thread takes more steps than this. -/
def workLength : Nat := 3

def workSteps (net : Network) : Nat → Endpoint → Option SystemError × Endpoint × List Effect
  | 0, e => (none, e, [])
  | n + 1, e =>
    match e.workStep net with
    | (some fault, e, effects) => (some fault, e, effects)
    | (none, e, effects) =>
      let (fault, e, later) := e.workSteps net n
      (fault, e, effects ++ later)

def finish (net : Network) (e : Endpoint) : Option SystemError × Endpoint × List Effect :=
  e.workSteps net workLength

/-- The part of closing that excludes the thread; the flag says that the endpoint was open. -/
def shut (e : Endpoint) : Bool × Endpoint :=
  if e.queue.closed then (false, e) else (true, { e with queue := e.queue.close })

def giveBack (e : Endpoint) : Endpoint × List Effect :=
  match e.purpose with
  | .browse _ _ browser => (e, [.call (.cancel browser)])
  | .resolve .. => (e, [])
  | .register info _ _ =>
    if e.registered then ({ e with registered := false }, [.call (.unregister info.name)])
    else (e, [])

def close (e : Endpoint) : Endpoint × List Effect :=
  match e.shut with
  | (true, e) => e.giveBack
  | (false, e) => (e, [])

/-- The flags that tell of a change on the network; other kinds of change are not reported. -/
def changeFlags? (kind : String) : Option Int :=
  if kind = "Added" then some 2 else if kind = "Removed" then some 0 else none

def change (room : Nat) (e : Endpoint) (kind name : String) :
    Option SystemError × Endpoint × List Effect :=
  match e.purpose, changeFlags? kind with
  | .browse type interfaceIndex _, some flags =>
    let reply : Reply :=
      .browse flags interfaceIndex ErrorCode.noError (instanceName name type.base) (some type.reply)
        (some localDomain)
    let (fault, e) := e.post room reply
    (fault, e, [.notice (.stateChanged kind name type.full)])
  | _, _ => (none, e, [])

def descriptors (e : Endpoint) : List Int :=
  (if e.queue.readerOpen then [e.descriptor] else []) ++ if e.queue.writerOpen then
    [e.sender] else []

end Endpoint
end ServiceDiscovery.Multicast
