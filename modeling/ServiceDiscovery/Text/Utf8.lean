/-!
UTF-8. Encoding follows the scalar value; decoding reads the longest well-formed sequence at each
point, either putting U+FFFD for every maximal ill-formed part or stopping at the first.
-/
namespace ServiceDiscovery.Text

abbrev Octets := List UInt8

def encodeChars (cs : List Char) : Octets := cs.flatMap String.utf8EncodeChar

def encode (s : String) : Octets := encodeChars s.toList

/-- What a lead byte announces: the bits it carries, the range of the next byte, how many bytes
follow. -/
structure Lead where
  bits : Nat
  low : Nat
  high : Nat
  more : Nat
  deriving DecidableEq, Repr

def lead? (b : Nat) : Option Lead :=
  if b < 0x80 then some ⟨b, 0x80, 0xbf, 0⟩
  else if b < 0xc2 then none
  else if b < 0xe0 then some ⟨b - 0xc0, 0x80, 0xbf, 1⟩
  else if b = 0xe0 then some ⟨0, 0xa0, 0xbf, 2⟩
  else if b = 0xed then some ⟨0xd, 0x80, 0x9f, 2⟩
  else if b < 0xf0 then some ⟨b - 0xe0, 0x80, 0xbf, 2⟩
  else if b = 0xf0 then some ⟨0, 0x90, 0xbf, 3⟩
  else if b < 0xf4 then some ⟨b - 0xf0, 0x80, 0xbf, 3⟩
  else if b = 0xf4 then some ⟨4, 0x80, 0x8f, 3⟩
  else none

def follow (bits low high : Nat) : Nat → Octets → Option Nat × Octets
  | 0, rest => (some bits, rest)
  | _ + 1, [] => (none, [])
  | more + 1, b :: rest =>
    if low ≤ b.toNat && b.toNat ≤ high then follow (bits * 64 + b.toNat % 64) 0x80 0xbf more rest
    else (none, b :: rest)

theorem length_follow (bits low high more : Nat) (bs : Octets) :
    (follow bits low high more bs).2.length ≤ bs.length := by
  induction more generalizing bits low high bs with
  | zero => simp [follow]
  | succ more ih =>
    cases bs with
    | nil => simp [follow]
    | cons b rest =>
      unfold follow
      split
      · exact Nat.le_succ_of_le (ih ..)
      · exact Nat.le_refl _

def readChar (b : UInt8) (rest : Octets) : Option Char × Octets :=
  match lead? b.toNat with
  | none => (none, rest)
  | some l =>
    let r := follow l.bits l.low l.high l.more rest
    (r.1.map Char.ofNat, r.2)

theorem length_readChar (b : UInt8) (rest : Octets) : (readChar b rest).2.length ≤ rest.length := by
  unfold readChar
  split
  · exact Nat.le_refl _
  · exact length_follow ..

/-- Decodes with U+FFFD for every maximal ill-formed part. -/
def decodeChars : Octets → List Char
  | [] => []
  | b :: rest => (readChar b rest).1.getD '\uFFFD' :: decodeChars (readChar b rest).2
termination_by bs => bs.length
decreasing_by exact Nat.lt_succ_of_le (length_readChar b rest)

def decode (bs : Octets) : String := .ofList (decodeChars bs)

inductive Utf8Flaw
  | badLead | badFollower | cutShort
  deriving DecidableEq, Repr

structure Utf8Error where
  start : Nat
  bytes : Octets
  flaw : Utf8Flaw
  deriving DecidableEq, Repr

def decodeFrom (start : Nat) : Octets → Except Utf8Error (List Char)
  | [] => .ok []
  | b :: rest =>
    match readChar b rest with
    | (some c, _) =>
      (decodeFrom (start + 1 + (rest.length - (readChar b rest).2.length)) (readChar b rest).2).map
        (c :: ·)
    | (none, left) =>
      let bytes := b :: rest.take (rest.length - left.length)
      let flaw := if (lead? b.toNat).isNone then .badLead else if left.isEmpty then .cutShort
      else .badFollower
      .error ⟨start, bytes, flaw⟩
termination_by bs => bs.length
decreasing_by exact Nat.lt_succ_of_le (length_readChar b rest)

def decode? (bs : Octets) : Except Utf8Error String := (decodeFrom 0 bs).map String.ofList

end ServiceDiscovery.Text
