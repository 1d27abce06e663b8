import ServiceDiscovery.Provider
import ServiceDiscovery.Records
import ServiceDiscovery.Value

/-!
Requests that are under way. Browses and resolves are numbered apart; a new number is one above the
greatest in use, and the first is one.
-/
namespace ServiceDiscovery

structure RequestTable (α : Type) where
  entries : List (Int × α) := []

namespace RequestTable
variable {α : Type}

def insertEntry (id : Int) (a : α) : List (Int × α) → List (Int × α)
  | [] => [(id, a)]
  | e :: es => if id < e.1 then (id, a) :: e :: es else e :: insertEntry id a es

def ids (t : RequestTable α) : List Int := t.entries.map (·.1)
def values (t : RequestTable α) : List α := t.entries.map (·.2)
def size (t : RequestTable α) : Nat := t.entries.length
def get? (t : RequestTable α) (id : Int) : Option α := t.entries.lookup id
def insert (t : RequestTable α) (id : Int) (a : α) : RequestTable α := ⟨insertEntry id a t.entries⟩
def erase (t : RequestTable α) (id : Int) : RequestTable α := ⟨t.entries.filter (·.1 != id)⟩

def modify (t : RequestTable α) (id : Int) (f : α → α) : RequestTable α :=
  ⟨t.entries.map fun e => if e.1 = id then (e.1, f e.2) else e⟩

def nextId (t : RequestTable α) : Int :=
  match t.entries.getLast? with
  | some e => e.1 + 1
  | none => 1

end RequestTable

structure Client where
  ticket : Nat
  onResult : Bool := true
  onError : Bool := true
  userData : Value := .null

/-- What to look for; the transport is a bare code, which registration types read leniently. -/
structure Constraints where
  transportCode : Int := 1
  interfaceIndex : Int := 0
  subtype : String := ""
  domain : String := ""
  deriving DecidableEq, Repr

structure Advertisement extends Constraints where
  port : Int := 0
  namePrefix : String := ""
  certificate : Text.Octets := []
  deriving DecidableEq, Repr

structure BrowseRequest where
  id : Int
  handle : Handle
  constraints : Constraints
  client : Client
  /-- Instance names with their records, in the order of discovery. -/
  discovered : List (String × RecordId) := []

structure ResolveRequest where
  id : Int
  handle : Handle
  target : RecordId
  browseId : Int
  client : Client

def BrowseRequest.putRecord (name : String) (r : RecordId) : List (String × RecordId) →
    List (String × RecordId)
  | [] => [(name, r)]
  | e :: es => if e.1 = name then (name, r) :: es else e :: putRecord name r es

def BrowseRequest.track (q : BrowseRequest) (name : String) (r : RecordId) : BrowseRequest :=
  { q with discovered := putRecord name r q.discovered }

def BrowseRequest.drop (q : BrowseRequest) (name : String) : BrowseRequest :=
  { q with discovered := q.discovered.filter (·.1 != name) }

structure Registry where
  browses : RequestTable BrowseRequest := {}
  resolves : RequestTable ResolveRequest := {}

namespace Registry

def size (r : Registry) : Nat := r.browses.size + r.resolves.size

def addBrowse (r : Registry) (q : BrowseRequest) : Except Fault Registry :=
  match r.browses.get? q.id with
  | some _ => .error (.browseIsLive q.id)
  | none => .ok { r with browses := r.browses.insert q.id q }

def addResolve (r : Registry) (q : ResolveRequest) : Except Fault Registry :=
  match r.resolves.get? q.id with
  | some _ => .error (.resolveIsLive q.id)
  | none => .ok { r with resolves := r.resolves.insert q.id q }

def popBrowse (r : Registry) (id : Int) : Option BrowseRequest × Registry :=
  (r.browses.get? id, { r with browses := r.browses.erase id })

def popResolve (r : Registry) (id : Int) : Option ResolveRequest × Registry :=
  (r.resolves.get? id, { r with resolves := r.resolves.erase id })

def findDiscovered (r : Registry) (uuid : String) (record : RecordId) : Option BrowseRequest :=
  r.browses.values.find? fun q => q.discovered.lookup uuid == some record

end Registry
end ServiceDiscovery
