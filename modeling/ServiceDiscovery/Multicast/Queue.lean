import ServiceDiscovery.Fault

/-!
The queue between the threads of the multicast engine and the loop. Each event that is queued also
sends a byte over a pair of connected ends, so that the loop wakes up; pumping reads the bytes and
takes the events.
-/
namespace ServiceDiscovery.Multicast

structure Queue (α : Type) where
  events : List α := []
  /-- Bytes sent and not yet read. -/
  unread : Nat := 0
  readerOpen : Bool := true
  writerOpen : Bool := true
  closed : Bool := false
  deriving DecidableEq, Repr

namespace Queue
variable {α : Type}

def readSize : Nat := 4096

def badDescriptor : SystemError := ⟨some 9, "Bad file descriptor"⟩
def brokenPipe : SystemError := ⟨some 32, "Broken pipe"⟩

/-- Sends a byte. A full buffer holds a wake-up already, so nothing is lost when no byte fits. -/
def wake (room : Nat) (q : Queue α) : Option SystemError × Queue α :=
  if !q.writerOpen then (some badDescriptor, q)
  else if !q.readerOpen then (some brokenPipe, q)
  else (none, if q.unread < room then { q with unread := q.unread + 1 } else q)

def post (room : Nat) (q : Queue α) (event : α) : Option SystemError × Queue α :=
  if q.closed then (none, q) else { q with events := q.events ++ [event] }.wake room

inductive Reading
  | bytes (n : Nat)
  | nothing
  | ended
  | failed (e : SystemError)
  deriving DecidableEq, Repr

def read (q : Queue α) : Reading × Queue α :=
  if !q.readerOpen then (.failed badDescriptor, q)
  else if q.unread = 0 then (if q.writerOpen then .nothing else .ended, q)
  else (.bytes (min readSize q.unread), { q with unread := q.unread - readSize })

theorem unread_lt_of_read {q r : Queue α} {n : Nat} (h : q.read = (.bytes n, r)) :
    r.unread < q.unread := by
  unfold read at h
  split at h
  · cases h
  · split at h
    · split at h <;> cases h
    · cases h
      simp only [readSize]
      omega

/-- Reads all wake-up bytes. A read that fills up is followed by another one, which finds the end of
the connection if the sending end is closed. -/
def drain (q : Queue α) : Except Refusal Unit × Queue α :=
  match _h : q.read with
  | (.failed e, r) => (.error ⟨ErrorCode.notRunning, "provider socket failed: " ++ e.message⟩, r)
  | (.ended, r) => (.error ⟨ErrorCode.notRunning, "provider socket closed"⟩, r)
  | (.nothing, r) => (.ok (), r)
  | (.bytes n, r) => if n < readSize then (.ok (), r) else r.drain
termination_by q.unread
decreasing_by exact unread_lt_of_read _h

def take (q : Queue α) : Except Refusal (List α) × Queue α :=
  if q.closed then (.ok [], q)
  else match q.drain with
    | (.error r, q) => (.error r, q)
    | (.ok (), q) => (.ok q.events, { q with events := [] })

/-- There is something to read, be it the end of the connection. -/
def isReady (q : Queue α) : Bool := q.readerOpen && (0 < q.unread || !q.writerOpen)

def close (q : Queue α) : Queue α :=
  { q with closed := true, readerOpen := false, writerOpen := false }

end Queue
end ServiceDiscovery.Multicast
