import Mathlib.Algebra.Order.Floor.Div
import ServiceDiscovery.Proofs.TxtRecord

/-!
The room a TXT record takes. Every piece of a value costs three bytes more than it holds, so records
grow faster than the quick check assumes, which is stricter than packing for a single record alone:
a lone prefix of one piece that fills its room to the last byte.
-/
namespace ServiceDiscovery.Txt
open ServiceDiscovery.Text (Octets)

def packedSize (namePrefix certificate : Nat) : Nat :=
  namePrefix + 3 * max 1 (namePrefix ⌈/⌉ 253) + certificate + 3 * (certificate ⌈/⌉ 253)

theorem ceilDiv_pieceSize (n : Nat) : n ⌈/⌉ 253 = (n + 252) / 253 :=
  Nat.ceilDiv_eq_add_pred_div n 253

theorem length_pieces (value : Octets) : (pieces value).length = value.length ⌈/⌉ 253 := by
  rw [ceilDiv_pieceSize]
  induction value using pieces.induct with
  | case1 => simp [pieces]
  | case2 b rest ih =>
    rw [pieces, List.length_cons, ih, List.length_drop, List.length_cons, pieceSize, maxString]
    omega

theorem length_pack_cons (s : Octets) (ss : List Octets) :
    (pack (s :: ss)).length = s.length + 1 + (pack ss).length := by
  rw [pack, List.flatMap_cons, List.length_append, List.length_cons, pack]

theorem length_pack_append (ss ts : List Octets) :
    (pack (ss ++ ts)).length = (pack ss).length + (pack ts).length := by
  simp [pack]

theorem length_pack_map (key : UInt8) (ps : List Octets) :
    (pack (ps.map fun p => key :: equalsSign :: p)).length = ps.flatten.length + 3 * ps.length := by
  induction ps with
  | nil => rfl
  | cons p ps ih =>
    rw [List.map_cons, length_pack_cons, ih, List.flatten_cons, List.length_append,
      List.length_cons, List.length_cons, List.length_cons]
    omega

theorem length_pack_strings (key : UInt8) (value : Octets) :
    (pack (strings key value)).length = value.length + 3 * max 1 (value.length ⌈/⌉ 253) := by
  cases value with
  | nil => rfl
  | cons b rest =>
    have hmax : max 1 ((b :: rest).length ⌈/⌉ 253) = (b :: rest).length ⌈/⌉ 253 := by
      rw [ceilDiv_pieceSize, List.length_cons]
      omega
    have hstrings : strings key (b :: rest) = (pieces (b :: rest)).map fun p =>
      key :: equalsSign :: p := rfl
    rw [hstrings, length_pack_map, flatten_pieces, length_pieces, hmax]

theorem length_pack_allStrings (namePrefix certificate : Octets) :
    (pack (allStrings namePrefix certificate)).length =
      packedSize namePrefix.length certificate.length := by
  rw [allStrings, length_pack_append, length_pack_strings, packedSize,
    Nat.add_assoc _ certificate.length]
  congr 1
  cases certificate with
  | nil => rfl
  | cons b rest =>
    rw [List.isEmpty_cons, if_neg Bool.false_ne_true, length_pack_strings, ceilDiv_pieceSize,
      List.length_cons]
    omega

namespace Codec
variable (codec : Codec) (namePrefix certificate : Octets)

theorem encode_eq :
    codec.encode namePrefix certificate =
      if codec.capacity < packedSize namePrefix.length certificate.length then
        .error (.tooLong (packedSize namePrefix.length certificate.length) codec.capacity)
      else .ok (pack (allStrings namePrefix certificate)) := by
  simp only [encode, length_pack_allStrings]

theorem encode_eq_ok_iff {data : Octets} :
    codec.encode namePrefix certificate = .ok data ↔
      packedSize namePrefix.length certificate.length ≤ codec.capacity ∧
        data = pack (allStrings namePrefix certificate) := by
  rw [encode_eq]
  split
  · simp [Int.not_le.mpr ‹_›]
  · simp [Int.not_lt.mp ‹_›, eq_comm]

theorem encodes_iff :
    (∃ data, codec.encode namePrefix certificate = .ok data) ↔
      packedSize namePrefix.length certificate.length ≤ codec.capacity := by
  simp [encode_eq_ok_iff]

theorem isOverCapacity_iff (size : Int) :
    codec.isOverCapacity size = true ↔ codec.capacity < size + 4 := by
  rw [isOverCapacity, keyAllowance, decide_eq_true_iff]

end Codec

/-- Only the overhead of a single piece stays below what the quick check allows for. -/
theorem packedSize_lt_iff (namePrefix certificate : Nat) :
    packedSize namePrefix certificate < namePrefix + certificate + 4 ↔ certificate = 0 ∧
    namePrefix ≤ 253 := by
  simp only [packedSize, ceilDiv_pieceSize]
  omega

theorem le_packedSize (namePrefix certificate : Nat) :
    namePrefix + certificate + 3 ≤ packedSize namePrefix certificate := by
  simp only [packedSize]
  omega

theorem Codec.refuses_encodable_iff (codec : Codec) (namePrefix certificate : Octets) :
    codec.isOverCapacity (namePrefix.length + certificate.length : Nat) = true ∧
        (∃ data, codec.encode namePrefix certificate = .ok data) ↔
      certificate.length = 0 ∧ namePrefix.length ≤ 253 ∧
      codec.capacity = namePrefix.length + 3 := by
  have hcheap := packedSize_lt_iff namePrefix.length certificate.length
  have hleast := le_packedSize namePrefix.length certificate.length
  rw [isOverCapacity_iff, encodes_iff]
  constructor
  · rintro ⟨hover, hfits⟩
    obtain ⟨hc, hp⟩ := hcheap.mp (by omega)
    omega
  · rintro ⟨hc, hp, hcapacity⟩
    have := hcheap.mpr ⟨hc, hp⟩
    constructor <;> omega

/-- How large a packed record is, that it is refused exactly where it is larger than its room, and
that the quick check refuses a record that can be packed only where there is no certificate and a
prefix of one piece fits exactly, so never with the room that codecs have by default. -/
theorem quick_check_agrees_but_once (codec : Codec) (namePrefix certificate : Octets) :
    let p := namePrefix.length
    let c := certificate.length
    let size := p + 3 * max 1 (p ⌈/⌉ 253) + c + 3 * (c ⌈/⌉ 253)
    ((∃ data, codec.encode namePrefix certificate = .ok data ∧ data.length = size) ↔
      size ≤ codec.capacity) ∧
    (codec.encode namePrefix certificate = .error (.tooLong size codec.capacity) ↔
      codec.capacity < size) ∧
    (codec.isOverCapacity (p + c : Nat) = true ∧
      (∃ data, codec.encode namePrefix certificate = .ok data) ↔
      c = 0 ∧ p ≤ 253 ∧ codec.capacity = p + 3) ∧
    ¬(Codec.isOverCapacity {} (p + c : Nat) = true ∧
      ∃ data, Codec.encode {} namePrefix certificate = .ok data) := by
  intro p c size
  have hsize : packedSize namePrefix.length certificate.length = size := rfl
  refine ⟨?_, ?_, codec.refuses_encodable_iff namePrefix certificate, fun h => ?_⟩
  · rw [← hsize, ← Codec.encodes_iff]
    constructor
    · rintro ⟨data, hdata, -⟩
      exact ⟨data, hdata⟩
    · rintro ⟨data, hdata⟩
      obtain ⟨-, rfl⟩ := (codec.encode_eq_ok_iff namePrefix certificate).mp hdata
      exact ⟨_, hdata, length_pack_allStrings namePrefix certificate⟩
  · rw [Codec.encode_eq, hsize]
    split <;> simp [*]
  · obtain ⟨-, hp, hcapacity⟩ := (Codec.refuses_encodable_iff {} namePrefix certificate).mp h
    have : (1000 : Int) = namePrefix.length + 3 := hcapacity
    omega

end ServiceDiscovery.Txt
