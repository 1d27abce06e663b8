import ServiceDiscovery.Text.Utf8

/-!
Character strings packed into record data: each is one length byte followed by that many bytes.
-/
namespace ServiceDiscovery.Txt
open ServiceDiscovery.Text (Octets)

def maxString : Nat := 255

def pack (strings : List Octets) : Octets := strings.flatMap fun s => UInt8.ofNat s.length :: s

/-- The character strings of record data, or nothing if the last one is cut short. -/
def unpack : Octets → Option (List Octets)
  | [] => some []
  | n :: rest =>
    if n.toNat ≤ rest.length then (unpack (rest.drop n.toNat)).map (rest.take n.toNat :: ·)
    else none
termination_by data => data.length
decreasing_by simp only [List.length_drop, List.length_cons]; omega

end ServiceDiscovery.Txt
