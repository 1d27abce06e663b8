import ServiceDiscovery.Proofs.Utf8
import ServiceDiscovery.Txt.Codec

/-!
TXT records read back. Values are cut at any byte and every piece stands in a character string of
its own, whose key says which value it goes on with; what is packed fits its length byte.
-/
namespace ServiceDiscovery.Txt
open ServiceDiscovery.Text (Octets)

theorem unpack_pack {strings : List Octets} (h : ∀ s ∈ strings, s.length ≤ maxString) :
    unpack (pack strings) = some strings := by
  induction strings with
  | nil => simp [pack, unpack]
  | cons s ss ih =>
    have hs : s.length ≤ 255 := h s (by simp)
    have hlength : (UInt8.ofNat s.length).toNat = s.length := by
      simp [Nat.mod_eq_of_lt (Nat.lt_succ_of_le hs)]
    have hpack : pack (s :: ss) = UInt8.ofNat s.length :: (s ++ pack ss) := by simp [pack]
    rw [hpack, unpack, hlength, if_pos (by simp), List.drop_left, List.take_left,
      ih fun s' hs' => h s' (List.mem_cons_of_mem _ hs')]
    rfl

theorem flatten_pieces (value : Octets) : (pieces value).flatten = value := by
  induction value using pieces.induct with
  | case1 => simp [pieces]
  | case2 b rest ih => rw [pieces, List.flatten_cons, ih, List.take_append_drop]

theorem length_le_of_mem_pieces {value p : Octets} (hp : p ∈ pieces value) :
    p.length ≤ pieceSize := by
  induction value using pieces.induct with
  | case1 => simp [pieces] at hp
  | case2 b rest ih =>
    rw [pieces] at hp
    obtain rfl | hp := List.mem_cons.mp hp
    · exact List.length_take_le _ _
    · exact ih hp

theorem strings_eq (key : UInt8) (value : Octets) : ∃ ps : List Octets,
    strings key value = ps.map (fun p => key :: equalsSign :: p) ∧ ps ≠ [] ∧ ps.flatten = value ∧
      ∀ p ∈ ps, p.length ≤ pieceSize := by
  cases value with
  | nil => exact ⟨[[]], rfl, by simp, rfl, by simp⟩
  | cons b rest =>
    refine ⟨pieces (b :: rest), rfl, ?_, flatten_pieces _, fun p => length_le_of_mem_pieces⟩
    rw [pieces]
    exact List.cons_ne_nil _ _

theorem length_le_of_mem_strings {key : UInt8} {value s : Octets} (hs : s ∈ strings key value) :
    s.length ≤ maxString := by
  obtain ⟨ps, heq, -, -, hshort⟩ := strings_eq key value
  rw [heq] at hs
  obtain ⟨p, hp, rfl⟩ := List.mem_map.mp hs
  have hpiece : p.length ≤ 253 := hshort p hp
  simp only [List.length_cons, maxString]
  omega

theorem length_le_of_mem_allStrings {namePrefix certificate s : Octets}
    (hs : s ∈ allStrings namePrefix certificate) : s.length ≤ maxString := by
  cases List.mem_append.mp hs with
  | inl hs => exact length_le_of_mem_strings hs
  | inr hs =>
    split at hs
    · cases hs
    · exact length_le_of_mem_strings hs

/-- The first equals sign is the one after the key, whatever the piece holds. -/
theorem entry_of_piece {key : UInt8} (hkey : key ≠ equalsSign) (p : Octets) :
    entry? (key :: equalsSign :: p) = some ([lowerOctet key], p) := by
  unfold entry?
  simp [hkey]

theorem entries_strings {key : UInt8} (hkey : key ≠ equalsSign) (hlower : lowerOctet key = key)
    (value : Octets) : ∃ ps : List Octets,
    (strings key value).filterMap entry? = ps.map (fun p => ([key], p)) ∧ ps ≠ [] ∧
    ps.flatten = value := by
  obtain ⟨ps, heq, hne, hflat, -⟩ := strings_eq key value
  have hentry : entry? ∘ (fun p => key :: equalsSign :: p) = some ∘ fun p => ([key], p) := by
    funext p
    simp only [Function.comp_apply, entry_of_piece hkey, hlower]
  refine ⟨ps, ?_, hne, hflat⟩
  rw [heq, List.filterMap_map, hentry, List.filterMap_eq_map]

theorem filter_key_map_of_ne {key key' : UInt8} (hkey : key' ≠ key) (ps : List Octets) :
    (ps.map fun p => ([key'], p)).filter (·.1 == [key]) = [] := by
  simp [List.filter_eq_nil_iff, hkey]

theorem gather_of_filter {key : UInt8} {ps : List Octets} {value : Octets}
    {es : List (Octets × Octets)} (hne : ps ≠ []) (hflat : ps.flatten = value)
    (h : es.filter (·.1 == [key]) = (ps.map fun p => ([key], p)).filter (·.1 == [key])) :
    gather key es = some value := by
  have hall : (ps.map fun p => ([key], p)).filter (·.1 == [key]) = ps.map fun p => ([key], p) := by
    simp [List.filter_eq_self]
  rw [gather, h, hall, ← hflat]
  cases ps with
  | nil => exact absurd rfl hne
  | cons p ps => simp [List.flatMap_def, Function.comp_def]

/-- The entries of a packed record: all of the name prefix first, then those of the certificate. -/
theorem entries_allStrings (namePrefix certificate : Octets) : ∃ ps cs : List Octets,
    (allStrings namePrefix certificate).filterMap entry? =
      ps.map (fun p => ([prefixKey], p)) ++ cs.map (fun c => ([certificateKey], c)) ∧
    ps ≠ [] ∧ ps.flatten = namePrefix ∧ (cs = [] ↔ certificate = []) ∧
    cs.flatten = certificate := by
  obtain ⟨ps, hps, hne, hflat⟩ :=
    entries_strings (by decide : prefixKey ≠ equalsSign) (by decide) namePrefix
  rw [allStrings, List.filterMap_append, hps]
  cases certificate with
  | nil => exact ⟨ps, [], by simp, hne, hflat, by simp, rfl⟩
  | cons b bs =>
    obtain ⟨cs, hcs, hcne, hcflat⟩ :=
      entries_strings (by decide : certificateKey ≠ equalsSign) (by decide) (b :: bs)
    exact ⟨ps, cs, by simp [hcs], hne, hflat, by simp [hcne], hcflat⟩

/-- What a packed record says: its name prefix, and its certificate unless that is empty. -/
theorem decode_pack (namePrefix : String) (certificate : Octets) :
    decode (pack (allStrings (Text.encode namePrefix) certificate)) =
      .ok ⟨some namePrefix, if certificate = [] then none else some certificate⟩ := by
  obtain ⟨ps, cs, hentries, hne, hflat, hcs, hcflat⟩ :=
    entries_allStrings (Text.encode namePrefix) certificate
  have hprefix :
      gather prefixKey ((allStrings (Text.encode namePrefix) certificate).filterMap entry?) =
      some (Text.encode namePrefix) := by
    refine gather_of_filter hne hflat ?_
    rw [hentries, List.filter_append, filter_key_map_of_ne (by decide) cs, List.append_nil]
  have hcertificate :
      gather certificateKey ((allStrings (Text.encode namePrefix) certificate).filterMap entry?) =
        if certificate = [] then none else some certificate := by
    have hfilter : ((allStrings (Text.encode namePrefix) certificate).filterMap entry?).filter
        (·.1 == [certificateKey]) = (cs.map fun c => ([certificateKey], c)).filter
          (·.1 == [certificateKey]) := by
      rw [hentries, List.filter_append, filter_key_map_of_ne (by decide) ps, List.nil_append]
    split
    · rename_i hnil
      rw [gather, hfilter, hcs.mpr hnil]
      rfl
    · rename_i hnil
      exact gather_of_filter (mt hcs.mp hnil) hcflat hfilter
  simp only [decode, unpack_pack fun s => length_le_of_mem_allStrings, hprefix, hcertificate,
    Option.map_some, Text.decode_encode]

theorem eq_pack_of_encode {codec : Codec} {namePrefix certificate data : Octets}
    (h : codec.encode namePrefix certificate = .ok data) :
    data = pack (allStrings namePrefix certificate) := by
  simp only [Codec.encode] at h
  split at h
  · cases h
  · exact (Except.ok.inj h).symm

/-- Whatever is packed reads back, from strings that each fit their length byte. -/
theorem packed_reads_back {codec : Codec} {namePrefix : String} {certificate data : Octets}
    (h : codec.encode (Text.encode namePrefix) certificate = .ok data) :
    data = pack (allStrings (Text.encode namePrefix) certificate) ∧
    unpack data = some (allStrings (Text.encode namePrefix) certificate) ∧
    (∀ s ∈ allStrings (Text.encode namePrefix) certificate, s.length ≤ 255) ∧
    decode data = .ok ⟨some namePrefix, if certificate = [] then none else some certificate⟩ := by
  have hdata := eq_pack_of_encode h
  have hshort : ∀ s ∈ allStrings (Text.encode namePrefix) certificate, s.length ≤ maxString :=
    fun s => length_le_of_mem_allStrings
  exact ⟨hdata, hdata ▸ unpack_pack hshort, hshort, hdata ▸ decode_pack namePrefix certificate⟩

/-- A prefix that is not ASCII and a certificate one byte too long for a string, all equals
signs. -/
theorem packed_reads_back_cutCertificate :
    ∃ data, ({} : Codec).encode (Text.encode "/é=c") (List.replicate 254 equalsSign) = .ok data ∧
      unpack data = some [[0x70, 0x3d, 0x2f, 0xc3, 0xa9, 0x3d, 0x63],
        [0x63, 0x3d] ++ List.replicate 253 0x3d, [0x63, 0x3d, 0x3d]] ∧
      decode data = .ok ⟨some "/é=c", some (List.replicate 254 equalsSign)⟩ := by
  have hstrings : allStrings (Text.encode "/é=c") (List.replicate 254 equalsSign) =
      [[0x70, 0x3d, 0x2f, 0xc3, 0xa9, 0x3d, 0x63],
        [0x63, 0x3d] ++ List.replicate 253 0x3d, [0x63, 0x3d, 0x3d]] := by decide +kernel
  have hencode : ({} : Codec).encode (Text.encode "/é=c") (List.replicate 254 equalsSign) =
      .ok (pack (allStrings (Text.encode "/é=c") (List.replicate 254 equalsSign))) := by
    rw [Codec.encode, if_neg]
    rw [hstrings]
    decide +kernel
  obtain ⟨-, hunpack, -, hdecode⟩ := packed_reads_back hencode
  exact ⟨_, hencode, hstrings ▸ hunpack, hdecode⟩

end ServiceDiscovery.Txt
