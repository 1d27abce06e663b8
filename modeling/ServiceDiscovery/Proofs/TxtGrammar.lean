import Mathlib.Data.List.Basic
import Mathlib.Data.List.TakeWhile
import ServiceDiscovery.Proofs.TxtRecord

/-!
The grammar of record data. Reading accepts just what is made of blocks, and the data determine
their blocks. What a key says is joined from the blocks that give it, in order.
-/
namespace ServiceDiscovery.Txt
open ServiceDiscovery.Text (Octets)

@[ext]
structure Block where
  size : UInt8
  content : Octets
  length_content : content.length = size.toNat

def SameButCase (a b : Octets) : Prop := a.map lowerOctet = b.map lowerOctet

namespace Block

def octets (b : Block) : Octets := b.size :: b.content

def join (blocks : List Block) : Octets := blocks.flatMap octets

def Gives (b : Block) (key : UInt8) (value : Octets) : Prop :=
  ∃ before, b.content = before ++ equalsSign :: value ∧ equalsSign ∉ before ∧
    SameButCase before [key]

inductive Values (key : UInt8) : List Block → List Octets → Prop
  | nil : Values key [] []
  | gives {b blocks value values} (h : b.Gives key value) (hrest : Values key blocks values) :
      Values key (b :: blocks) (value :: values)
  | skips {b blocks values} (h : ∀ value, ¬b.Gives key value) (hrest : Values key blocks values) :
      Values key (b :: blocks) values

variable {b b' : Block} {blocks : List Block} {key : UInt8} {value data : Octets}

theorem length_content_le (b : Block) : b.content.length ≤ maxString := by
  rw [b.length_content]
  exact Nat.le_of_lt_succ b.size.toNat_lt

theorem ofNat_length (b : Block) : UInt8.ofNat b.content.length = b.size := by
  rw [b.length_content, UInt8.ofNat_toNat]

theorem content_injective : Function.Injective content := by
  intro b b' h
  refine Block.ext ?_ h
  rw [← b.ofNat_length, ← b'.ofNat_length, h]

theorem join_eq_pack (blocks : List Block) : join blocks = pack (blocks.map content) := by
  simp only [join, pack, List.flatMap_map, ofNat_length]
  rfl

theorem unpack_join (blocks : List Block) : unpack (join blocks) = some (blocks.map content) := by
  rw [join_eq_pack]
  refine unpack_pack fun s hs => ?_
  obtain ⟨b, -, rfl⟩ := List.mem_map.mp hs
  exact b.length_content_le

theorem join_injective : Function.Injective join := by
  intro blocks blocks' h
  have hcontents : some (blocks.map content) = some (blocks'.map content) := by
    rw [← unpack_join, ← unpack_join, h]
  exact List.map_injective_iff.mpr content_injective (Option.some.inj hcontents)

theorem exists_of_unpack {strings : List Octets} (h : unpack data = some strings) :
    ∃ blocks, join blocks = data ∧ blocks.map content = strings := by
  induction data using unpack.induct generalizing strings with
  | case1 =>
    rw [unpack] at h
    exact ⟨[], rfl, Option.some.inj h⟩
  | case2 n rest hlength ih =>
    rw [unpack, if_pos hlength] at h
    obtain ⟨later, hlater, rfl⟩ := Option.map_eq_some_iff.mp h
    obtain ⟨blocks, hjoin, rfl⟩ := ih hlater
    refine ⟨⟨n, rest.take n.toNat, List.length_take_of_le hlength⟩ :: blocks, ?_, rfl⟩
    rw [join, List.flatMap_cons, ← join, hjoin, octets, List.cons_append, List.take_append_drop]
  | case3 n rest hlength =>
    rw [unpack, if_neg hlength] at h
    cases h

theorem unpack_eq_none_iff : unpack data = none ↔ ∀ blocks, join blocks ≠ data := by
  constructor
  · rintro h blocks rfl
    cases (unpack_join blocks).symm.trans h
  · intro h
    cases hunpack : unpack data with
    | none => rfl
    | some strings =>
      obtain ⟨blocks, hjoin, -⟩ := exists_of_unpack hunpack
      exact absurd hjoin (h blocks)

end Block

theorem dropWhile_of_mem {s : Octets} (h : equalsSign ∈ s) :
    s.dropWhile (· != equalsSign) = equalsSign :: (s.dropWhile (· != equalsSign)).drop 1 := by
  induction s with
  | nil => cases h
  | cons b rest ih =>
    by_cases hb : b = equalsSign
    · subst hb
      simp
    · have hrest : equalsSign ∈ rest := (List.mem_cons.mp h).resolve_left (Ne.symm hb)
      rw [List.dropWhile_cons_of_pos (by simpa using hb)]
      exact ih hrest

theorem entry?_eq_some_iff {s key value : Octets} : entry? s = some (key, value) ↔
    ∃ before, s = before ++ equalsSign :: value ∧ equalsSign ∉ before ∧
    before.map lowerOctet = key := by
  constructor
  · intro h
    unfold entry? at h
    split at h
    · rename_i hmem
      obtain ⟨rfl, rfl⟩ := Prod.mk.inj (Option.some.inj h)
      refine ⟨s.takeWhile (· != equalsSign), ?_, fun hbefore => ?_, rfl⟩
      · rw [← dropWhile_of_mem (by simpa using hmem), List.takeWhile_append_dropWhile]
      · simpa using List.mem_takeWhile_imp hbefore
    · cases h
  · rintro ⟨before, rfl, hbefore, rfl⟩
    have hne : ∀ b ∈ before, (b != equalsSign) = true := by
      intro b hb
      rw [bne_iff_ne]
      rintro rfl
      exact hbefore hb
    unfold entry?
    rw [if_pos (by simp), List.takeWhile_append_of_pos hne, List.dropWhile_append_of_pos hne]
    simp

namespace Block
variable {b : Block} {blocks : List Block} {key : UInt8} {value : Octets} {values : List Octets}

theorem gives_iff : b.Gives key value ↔ entry? b.content = some ([lowerOctet key], value) :=
  entry?_eq_some_iff.symm

/-- Blocks give no value just if none of them gives one. -/
theorem Values.eq_nil_iff (h : Values key blocks values) :
    values = [] ↔ ∀ b ∈ blocks, ∀ value, ¬b.Gives key value := by
  induction h with
  | nil => simp
  | @gives b _ value _ h hrest ih =>
    refine iff_of_false (List.cons_ne_nil _ _) fun hnone => ?_
    exact hnone b List.mem_cons_self value h
  | skips h hrest ih => rw [ih, List.forall_mem_cons, and_iff_right h]

/-- What is gathered for a key is joined from the values that the blocks give. -/
theorem gather_eq (hkey : lowerOctet key = key) (blocks : List Block) :
    ∃ values, Values key blocks values ∧
    gather key ((blocks.map content).filterMap entry?) =
      if values = [] then none else some values.flatten := by
  have hall : ∃ values, Values key blocks values ∧
      (((blocks.map content).filterMap entry?).filter (·.1 == [key])).map (·.2) = values := by
    induction blocks with
    | nil => exact ⟨[], .nil, rfl⟩
    | cons b blocks ih =>
      obtain ⟨values, hvalues, heq⟩ := ih
      cases hentry : entry? b.content with
      | none =>
        refine ⟨values, .skips (fun value h => ?_) hvalues, ?_⟩
        · cases hentry.symm.trans (gives_iff.mp h)
        · simpa [hentry] using heq
      | some e =>
        obtain ⟨k, value⟩ := e
        by_cases hk : k = [key]
        · subst hk
          refine ⟨value :: values, .gives (gives_iff.mpr (hkey.symm ▸ hentry)) hvalues, ?_⟩
          simpa [hentry] using heq
        · refine ⟨values, .skips (fun value' h => hk ?_) hvalues, ?_⟩
          · obtain ⟨rfl, -⟩ := Prod.mk.inj (Option.some.inj (hentry.symm.trans (gives_iff.mp h)))
            rw [hkey]
          · simpa [hentry, hk] using heq
  obtain ⟨values, hvalues, heq⟩ := hall
  refine ⟨values, hvalues, ?_⟩
  unfold gather
  split
  · rename_i hnone
    rw [if_pos (by rw [← heq, hnone]; rfl)]
  · rename_i found hne
    rw [if_neg (by rw [← heq]; simpa using hne), ← heq, List.flatMap_def]

end Block

/-- What a record of blocks says: key by key, the values that they give, joined in order. -/
theorem decode_join (blocks : List Block) : ∃ ps cs,
    Block.Values prefixKey blocks ps ∧ Block.Values certificateKey blocks cs ∧
    decode (Block.join blocks) = .ok ⟨if ps = [] then none else some (Text.decode ps.flatten),
      if cs = [] then none else some cs.flatten⟩ := by
  obtain ⟨ps, hps, hprefix⟩ := Block.gather_eq (by decide : lowerOctet prefixKey = prefixKey) blocks
  obtain ⟨cs, hcs, hcertificate⟩ :=
    Block.gather_eq (by decide : lowerOctet certificateKey = certificateKey) blocks
  refine ⟨ps, cs, hps, hcs, ?_⟩
  simp only [decode, Block.unpack_join, hprefix, hcertificate]
  split <;> rfl

theorem decode_eq_error_iff {data : Octets} {e : Error} :
    decode data = .error e ↔ e = .malformed ∧ ∀ blocks, Block.join blocks ≠ data := by
  rw [← Block.unpack_eq_none_iff, decode]
  cases unpack data with
  | none => simp [eq_comm]
  | some strings => simp

/-- Reading accepts just the data that are made of blocks, and these are determined. The name prefix
and the certificate are there just if some block gives their key, and are then joined from what all
such blocks give. -/
theorem decode_reads_blocks (data : Octets) :
    (∀ e, decode data = .error e ↔ e = .malformed ∧ ¬∃ blocks, Block.join blocks = data) ∧
    (∀ blocks blocks', Block.join blocks = data → Block.join blocks' = data → blocks = blocks') ∧
    ∀ blocks, Block.join blocks = data → ∃ content, decode data = .ok content ∧
      (content.namePrefix = none ↔ ¬∃ b ∈ blocks, ∃ value, b.Gives prefixKey value) ∧
      (content.certificate = none ↔ ¬∃ b ∈ blocks, ∃ value, b.Gives certificateKey value) ∧
      (∀ p, content.namePrefix = some p →
        ∃ ps, Block.Values prefixKey blocks ps ∧ p = Text.decode ps.flatten) ∧
      ∀ c, content.certificate = some c →
        ∃ cs, Block.Values certificateKey blocks cs ∧ c = cs.flatten := by
  refine ⟨fun e => ?_, fun blocks blocks' h h' => Block.join_injective (h.trans h'.symm), ?_⟩
  · rw [decode_eq_error_iff, not_exists]
  rintro blocks rfl
  obtain ⟨ps, cs, hps, hcs, hdecode⟩ := decode_join blocks
  refine ⟨_, hdecode, ?_, ?_, fun p hp => ⟨ps, hps, ?_⟩, fun c hc => ⟨cs, hcs, ?_⟩⟩
  · simp [hps.eq_nil_iff]
  · simp [hcs.eq_nil_iff]
  · exact (Option.some.inj (Option.ite_none_left_eq_some.mp hp).2).symm
  · exact (Option.some.inj (Option.ite_none_left_eq_some.mp hc).2).symm

/-- An empty block, a bare word, keys in both cases and a character whose bytes are in two
blocks. -/
theorem decode_reads_blocks_hostile :
    let blocks : List Block := [⟨0, [], rfl⟩, ⟨3, [0x50, 0x3d, 0xc3], rfl⟩, ⟨1, [0x70], rfl⟩,
      ⟨4, [0x43, 0x3d, 0x3d, 0x01], rfl⟩, ⟨4, [0x70, 0x3d, 0xa9, 0x3d], rfl⟩,
      ⟨2, [0x63, 0x3d], rfl⟩]
    let data : Octets :=
      [0, 3, 0x50, 0x3d, 0xc3, 1, 0x70, 4, 0x43, 0x3d, 0x3d, 0x01, 4, 0x70, 0x3d, 0xa9, 0x3d,
      2, 0x63, 0x3d]
    Block.join blocks = data ∧ (∀ blocks', Block.join blocks' = data → blocks = blocks') ∧
      decode data = .ok ⟨some "é=", some [0x3d, 0x01]⟩ ∧
      ∃ content, decode data = .ok content ∧
        ∀ c, content.certificate = some c →
        ∃ cs, Block.Values certificateKey blocks cs ∧ c = cs.flatten := by
  intro blocks data
  obtain ⟨-, hunique, hread⟩ := decode_reads_blocks data
  obtain ⟨content, hdecode, -, -, -, hcertificate⟩ := hread blocks rfl
  exact ⟨rfl, fun blocks' => hunique blocks blocks' rfl,
    by decide +kernel, content, hdecode, hcertificate⟩

end ServiceDiscovery.Txt
