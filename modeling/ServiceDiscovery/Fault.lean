import ServiceDiscovery.ErrorCode
import ServiceDiscovery.Text.Quoted

/-!
What an operation can fail with, by cause, and the wording of each cause.
-/
namespace ServiceDiscovery

/-- The number and the text of an error reported by the operating system, both optional. -/
structure SystemError where
  number : Option Int
  text : String
  deriving DecidableEq, Repr

def SystemError.message (e : SystemError) : String :=
  match e.number with
  | some n => s!"[Errno {n}] {e.text}"
  | none => e.text

structure Refusal where
  code : Int
  message : String
  deriving DecidableEq, Repr

def Refusal.make (code : Int) (message : String) : Refusal :=
  ⟨code, if message = "" then ErrorCode.message code else message⟩

def Refusal.text (r : Refusal) : String := s!"{r.message} ({r.code})"

inductive Fault
  | closed (uuid : String)
  | notATransport (code : Int)
  | refused (r : Refusal)
  | system (e : SystemError)
  | failed (text : String)
  | browseIsLive (id : Int)
  | resolveIsLive (id : Int)
  | descriptorKnown (descriptor : Int)
  | descriptorUnknown (descriptor : Int)
  | waitTooLong
  deriving DecidableEq, Repr

def Fault.message : Fault → String
  | closed uuid => s!"NdnSd handle {Text.quoted uuid} is closed"
  | notATransport code => s!"{code} is not a valid Proto"
  | refused r => r.text
  | system e => e.message
  | failed text => text
  | browseIsLive id => s!"browse request id {id} is already live"
  | resolveIsLive id => s!"resolve request id {id} is already live"
  | descriptorKnown d => toString d
  | descriptorUnknown d => toString d
  | waitTooLong => "int too large to convert to float"

end ServiceDiscovery
