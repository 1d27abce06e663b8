import ServiceDiscovery.Multicast.Endpoint
import ServiceDiscovery.Session.Basic

/-!
Scripts: what is asked of simulated sessions, how their clients react, and what happens around them.
-/
namespace ServiceDiscovery.Simulation

inductive RecordName
  | labelled (label : String)
  | own
  | fresh (uuid : String)
  | told

structure Listener where
  onResult : Bool := true
  onError : Bool := true
  userData : Value := .null

inductive Ask
  | announce (a : Advertisement) (l : Listener)
  | browse (k : Constraints) (l : Listener)
  | resolve (r : RecordName) (l : Listener)
  | cancel (id : Int)
  | run (timeoutMs : Int)
  | close
  /-- Use the session as a scope that closes it at its end. -/
  | scope

def Ask.name : Ask → String
  | announce .. => "announce"
  | browse .. => "browse"
  | resolve .. => "resolve"
  | cancel _ => "cancel"
  | run _ => "run"
  | close => "close"
  | scope => "with"

structure Adjustment where
  nextDescriptor : Option Int := none
  waitFaults : Option (List (Option Int)) := none
  decisions : List (Operation × Option Int) := []
  closeFault : Option (String × Option Fault) := none
  browserFault : Option (Option Fault) := none
  providerCloseFault : Option (Option SystemError) := none
  infos : List (String × Multicast.Lookup) := []
  taken : Option (List String) := none
  failing : Option (List String) := none

inductive Change
  | post (handle : String) (r : Reply) (count : Nat)
  /-- The connection of a handle fails: as told if its provider is scripted, else because its own
  end is closed or because the other end is. -/
  | sever (handle : String) (r : Refusal) (ownEnd : Bool)
  | deliver (handle : String) (r : Reply)
  | adjust (a : Adjustment)
  | work
  | emit (browser : Int) (kind name : String) (count : Nat)

def Change.name : Change → String
  | post .. => "post"
  | sever .. => "break"
  | deliver .. => "deliver"
  | adjust _ => "set"
  | work => "work"
  | emit .. => "emit"

/-- A step, with the number of the session that it is about. In a reaction that is by default the
session of the request. -/
inductive Step
  | ask (session : Option Nat) (a : Ask) (reactions : List (List Step))
  | change (session : Option Nat) (c : Change)
  | fail

namespace Step

def name : Step → String
  | ask _ a _ => a.name
  | change _ c => c.name
  | fail => "raise"

def session? : Step → Option Nat
  | ask s _ _ => s
  | change s _ => s
  | fail => none

mutual
def weight : Step → Nat
  | ask _ _ reactions => 2 + weightAll reactions
  | change _ (.post _ _ count) => 2 + count
  | change _ (.emit _ _ _ count) => 2 + count
  | change _ _ => 2
  | fail => 1
def weightList : List Step → Nat
  | [] => 1
  | s :: ss => s.weight + weightList ss
def weightAll : List (List Step) → Nat
  | [] => 1
  | l :: ls => weightList l + weightAll ls
end

end Step

end ServiceDiscovery.Simulation
