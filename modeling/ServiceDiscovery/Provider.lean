import ServiceDiscovery.Fault
import ServiceDiscovery.Text.Utf8

/-!
The name-resolution provider as a session sees it: the operations it can be asked to start, its
answers, and the replies that running operations deliver.
-/
namespace ServiceDiscovery

abbrev Handle := Nat

inductive Call
  | browse (interfaceIndex : Int) (regtype : String) (domain : Option String)
  | resolve (interfaceIndex : Int) (name regtype domain : String)
  | register (interfaceIndex : Int) (name regtype : String) (domain : Option String) (port : Int)
      (txt : Text.Octets)
  deriving DecidableEq, Repr

inductive ReplyTo
  | browse (id : Int)
  | resolve (id : Int)
  | register
  deriving DecidableEq, Repr

structure StartRequest where
  call : Call
  replyTo : ReplyTo
  deriving DecidableEq, Repr

inductive StartAnswer
  | started (handle : Handle) (descriptor : Int)
  | refused (r : Refusal)
  | raised (f : Fault)
  deriving DecidableEq, Repr

inductive Reply
  | browse (flags interfaceIndex code : Int) (name : String) (regtype domain : Option String)
  | resolve (flags interfaceIndex code : Int) (fullname hostTarget : Option String) (port : Int)
      (txt : Text.Octets)
  | register (flags code : Int) (name regtype domain : Option String)
  deriving DecidableEq, Repr

namespace Reply

def flags : Reply → Int
  | browse f .. => f
  | resolve f .. => f
  | register f .. => f

def withFlags (flags : Int) : Reply → Reply
  | browse _ i c n r d => browse flags i c n r d
  | resolve _ i c f h p t => resolve flags i c f h p t
  | register _ c n r d => register flags c n r d

/-- The lowest flag: more replies of the same operation wait. -/
def withMoreComing (r : Reply) : Reply :=
  r.withFlags (if r.flags % 2 = 0 then r.flags + 1 else r.flags)

def announces (flags : Int) : Bool := flags / 2 % 2 = 1

end Reply

/-- From here on whole numbers are too large for a double. -/
def timeLimit : Nat := Nat.pow 2 1024 - Nat.pow 2 970

end ServiceDiscovery
