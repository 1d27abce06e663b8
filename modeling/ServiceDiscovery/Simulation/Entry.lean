import ServiceDiscovery.Logging.Routing
import ServiceDiscovery.Multicast.Endpoint
import ServiceDiscovery.Session.Basic

/-!
What can be observed of a simulated run, entry by entry, and how its calls end.
-/
namespace ServiceDiscovery.Simulation

inductive Trouble
  | fault (f : Fault)
  | unknownLabel (label : String)
  | noRecord
  deriving DecidableEq, Repr

def Trouble.message : Trouble → String
  | fault f => f.message
  | unknownLabel label => Text.quoted label
  | noRecord => "'NoneType' object has no attribute 'uuid'"

abbrev Answer := Except Trouble Value

def Answer.ofOutcome : Outcome → Answer
  | .ok none => .ok .null
  | .ok (some n) => .ok (.int n)
  | .error f => .error (.fault f)

inductive Told
  | peer (kind : String) (id : Int) (record : String) (view : Record)
  | registered
  | failed (id code : Int) (message : String) (transient : Bool)

inductive Entry
  | log (n : Notice)
  | started (c : Call) (handle : String)
  | rejected (c : Call) (code : Int)
  | released (handle : String)
  | providerClosed
  | told (t : Told) (userData : Value)
  | did (action : String) (a : Answer)
  | network (c : Multicast.NetworkCall)
  | networkGiven
  | replied (r : Reply)
  | printed (line : String)
  | written (w : Logging.Written)

def Entry.ofEffect : Multicast.Effect → Entry
  | .call c => .network c
  | .notice n => .log n

def Entry.isShown (least : Option Level) : Entry → Bool
  | .log n => least.any fun l => l.number ≤ n.level.number
  | _ => true

end ServiceDiscovery.Simulation
