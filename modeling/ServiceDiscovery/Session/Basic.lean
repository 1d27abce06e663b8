import ServiceDiscovery.Multiplexer
import ServiceDiscovery.Notice
import ServiceDiscovery.Registry
import ServiceDiscovery.Txt.Codec

/-!
A session: one local identity with its registration, its requests and the handles they wait on. This
module holds the state, what a step of it gives out, and the release of handles.
-/
namespace ServiceDiscovery

structure Registration where
  handle : Handle
  client : Client
  settled : Bool := false

structure Session where
  uuid : String
  own : RecordId
  codec : Txt.Codec := {}
  registry : Registry := {}
  mux : Multiplexer := {}
  registration : Option Registration := none
  ownsProvider : Bool := false
  closed : Bool := false

inductive Operation
  | register | browse | resolve
  deriving DecidableEq, Repr

def Operation.name : Operation → String
  | register => "register"
  | browse => "browse"
  | resolve => "resolve"

inductive Notification
  | added (id : Int) (record : RecordId)
  | removed (id : Int) (record : RecordId)
  | resolved (id : Int) (record : RecordId)
  | registered
  | failed (op : Operation) (id code : Int) (message : String) (transient : Bool)
  deriving DecidableEq, Repr

def Notification.label : Notification → String
  | added .. => "announcement"
  | removed .. => "announcement"
  | resolved .. => "resolved"
  | registered => "registered"
  | failed op .. => op.name ++ " error"

def Client.wants (c : Client) : Notification → Bool
  | .failed .. => c.onError
  | _ => c.onResult

structure Invocation where
  client : Client
  what : Notification

abbrev Outcome := Except Fault (Option Int)

inductive Output
  | notice (n : Notice)
  | start (r : StartRequest) (a : StartAnswer)
  | release (h : Handle)
  | closeProvider
  | pump (h : Handle)
  | invoke (i : Invocation)
  | returned (o : Outcome)

inductive Next
  | done (o : Outcome)
  | notify (i : Invocation) (o : Outcome)

structure Turn where
  session : Session
  records : Records
  outputs : List Output
  next : Next

/-- The faults of the closing calls of a step: of each handle, of the selector, of the provider. -/
structure CloseFaults where
  handle : Handle → Option Fault := fun _ => none
  selector : Option Fault := none
  provider : Option Fault := none

/-- Tells a client, if it gave a callback for this, and then ends the call with `o`. -/
def Next.tell (c : Client) (what : Notification) (o : Outcome) : Next :=
  if c.wants what then .notify ⟨c, what⟩ o else .done o

namespace Session

def ownRecord (s : Session) (records : Records) : Record := records.get s.own

def watch (s : Session) (h : Handle) (descriptor : Int) :
    Except Fault Unit × Session × List Output :=
  match s.mux.add h descriptor with
  | (.error f, mux) => (.error f, { s with mux }, [])
  | (.ok false, mux) => (.ok (), { s with mux }, [])
  | (.ok true, mux) => (.ok (), { s with mux }, [.notice (.watching descriptor mux.size)])

def unwatch (s : Session) (h : Handle) : Session × List Output :=
  match s.mux.remove h with
  | (none, mux) => ({ s with mux }, [])
  | (some d, mux) => ({ s with mux }, [.notice (.released d mux.size)])

/-- Stops watching a handle and closes it. A failure reported by the system is logged; any other one
is handed back. -/
def release (faults : CloseFaults) (s : Session) (h : Handle) :
    Session × List Output × Option Fault :=
  let (s, outputs) := s.unwatch h
  match faults.handle h with
  | none => (s, outputs ++ [.release h], none)
  | some (.system _) => (s, outputs ++ [.release h, .notice .releaseFailed], none)
  | some f => (s, outputs ++ [.release h], some f)

def releaseQuietly (faults : CloseFaults) (s : Session) (h : Handle) : Session × List Output :=
  match s.release faults h with
  | (s, outputs, none) => (s, outputs)
  | (s, outputs, some _) => (s, outputs ++ [.notice .teardownFailed])

def releaseAllQuietly (faults : CloseFaults) (s : Session) : List Handle → Session × List Output
  | [] => (s, [])
  | h :: hs =>
    let (s, first) := s.releaseQuietly faults h
    let (s, rest) := s.releaseAllQuietly faults hs
    (s, first ++ rest)

end Session
end ServiceDiscovery
