import ServiceDiscovery.Txt.Packed

/-!
The TXT record of a service: `p` holds its name prefix and `c` its certificate. Values longer than
one character string go on in further strings with the same key.
-/
namespace ServiceDiscovery.Txt
open ServiceDiscovery.Text (Octets)

def prefixKey : UInt8 := 0x70
def certificateKey : UInt8 := 0x63
def equalsSign : UInt8 := 0x3d

def pieceSize : Nat := maxString - 2

def pieces : Octets → List Octets
  | [] => []
  | b :: rest => (b :: rest).take pieceSize :: pieces ((b :: rest).drop pieceSize)
termination_by v => v.length
decreasing_by simp only [pieceSize, maxString, List.length_drop, List.length_cons]; omega

/-- The character strings of one key; an empty value still gives one. -/
def strings (key : UInt8) (value : Octets) : List Octets :=
  if value.isEmpty then [[key, equalsSign]] else (pieces value).map fun p => key :: equalsSign :: p

def allStrings (namePrefix certificate : Octets) : List Octets :=
  strings prefixKey namePrefix ++ if certificate.isEmpty then []
  else strings certificateKey certificate

inductive Error
  | tooLong (size : Nat) (capacity : Int)
  | malformed
  deriving DecidableEq, Repr

def Error.message : Error → String
  | tooLong size capacity => s!"TXT record of {size} bytes exceeds capacity of {capacity} bytes"
  | malformed => "DNS message is malformed."

/-- What a TXT record says; a missing key differs from an empty value. -/
structure Content where
  namePrefix : Option String := none
  certificate : Option Octets := none
  deriving DecidableEq, Repr

structure Codec where
  capacity : Int := 1000
  deriving DecidableEq, Repr

def keyAllowance : Int := 4

def Codec.isOverCapacity (c : Codec) (size : Int) : Bool := c.capacity < size + keyAllowance

def Codec.encode (c : Codec) (namePrefix certificate : Octets) : Except Error Octets :=
  let data := pack (allStrings namePrefix certificate)
  if c.capacity < data.length then .error (.tooLong data.length c.capacity) else .ok data

def lowerOctet (b : UInt8) : UInt8 := if 0x41 ≤ b && b ≤ 0x5a then b + 0x20 else b

/-- Key in lower case and value of a character string, which splits at its first equals sign. -/
def entry? (s : Octets) : Option (Octets × Octets) :=
  if s.contains equalsSign then
    some ((s.takeWhile (· != equalsSign)).map lowerOctet, (s.dropWhile (· != equalsSign)).drop 1)
  else none

def gather (key : UInt8) (entries : List (Octets × Octets)) : Option Octets :=
  match entries.filter (·.1 == [key]) with
  | [] => none
  | found => some (found.flatMap (·.2))

/-- Reads record data; no data at all says nothing. -/
def decode (data : Octets) : Except Error Content :=
  match unpack data with
  | none => .error .malformed
  | some strings =>
    let entries := strings.filterMap entry?
    .ok ⟨(gather prefixKey entries).map Text.decode, gather certificateKey entries⟩

end ServiceDiscovery.Txt
