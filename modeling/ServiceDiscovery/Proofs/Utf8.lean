import ServiceDiscovery.Text.Utf8

/-!
Reading UTF-8 back. The bytes of a character are read as that character whatever follows them, so
decoding undoes encoding.
-/
namespace ServiceDiscovery.Text

theorem follow_cons {bits low high more b : Nat} (hlow : low ≤ b) (hhigh : b ≤ high) (hb : b < 256)
    (rest : Octets) :
    follow bits low high (more + 1) (UInt8.ofNat b :: rest) =
      follow (bits * 64 + b % 64) 0x80 0xbf more rest := by
  have hval : (UInt8.ofNat b).toNat = b := by simp [Nat.mod_eq_of_lt hb]
  simp [follow, hval, hlow, hhigh]

theorem lead?_of_two {n : Nat} (h : 0x80 ≤ n) (h' : n ≤ 0x7ff) :
    lead? (n / 64 % 32 + 0xc0) = some ⟨n / 64, 0x80, 0xbf, 1⟩ := by
  have hbits : n / 64 % 32 + 0xc0 - 0xc0 = n / 64 := by omega
  rw [lead?, if_neg (by omega), if_neg (by omega), if_pos (by omega), hbits]

theorem lead?_of_three {n : Nat} (h : 0x800 ≤ n) (h' : n ≤ 0xffff) (hs : n < 0xd800 ∨ 0xdfff < n) :
    ∃ low high, lead? (n / 4096 % 16 + 0xe0) = some ⟨n / 4096, low, high, 2⟩ ∧
      low ≤ n / 64 % 64 + 0x80 ∧ n / 64 % 64 + 0x80 ≤ high := by
  by_cases h0 : n / 4096 = 0
  · exact ⟨0xa0, 0xbf, by simp [h0, lead?], by omega, by omega⟩
  by_cases hd : n / 4096 = 0xd
  · exact ⟨0x80, 0x9f, by simp [hd, lead?], by omega, by omega⟩
  have hbits : n / 4096 % 16 + 0xe0 - 0xe0 = n / 4096 := by omega
  refine ⟨0x80, 0xbf, ?_, by omega, by omega⟩
  rw [lead?, if_neg (by omega), if_neg (by omega), if_neg (by omega), if_neg (by omega),
    if_neg (by omega), if_pos (by omega), hbits]

theorem lead?_of_four {n : Nat} (h : 0x10000 ≤ n) (h' : n < 0x110000) :
    ∃ low high, lead? (n / 262144 % 8 + 0xf0) = some ⟨n / 262144, low, high, 3⟩ ∧
      low ≤ n / 4096 % 64 + 0x80 ∧ n / 4096 % 64 + 0x80 ≤ high := by
  by_cases h0 : n / 262144 = 0
  · exact ⟨0x90, 0xbf, by simp [h0, lead?], by omega, by omega⟩
  by_cases h4 : n / 262144 = 4
  · exact ⟨0x80, 0x8f, by simp [h4, lead?], by omega, by omega⟩
  have hbits : n / 262144 % 8 + 0xf0 - 0xf0 = n / 262144 := by omega
  refine ⟨0x80, 0xbf, ?_, by omega, by omega⟩
  rw [lead?, if_neg (by omega), if_neg (by omega), if_neg (by omega), if_neg (by omega),
    if_neg (by omega), if_neg (by omega), if_neg (by omega), if_pos (by omega), hbits]

theorem readChar_of_lead {b n bits low high more : Nat} {tail rest : Octets} (hb : b < 256)
    (hl : lead? b = some ⟨bits, low, high, more⟩)
    (hf : follow bits low high more (tail ++ rest) = (some n, rest)) :
    readChar (UInt8.ofNat b) (tail ++ rest) = (some (Char.ofNat n), rest) := by
  have hval : (UInt8.ofNat b).toNat = b := by simp [Nat.mod_eq_of_lt hb]
  simp only [readChar, hval, hl, hf, Option.map_some]

theorem readChar_encoded (c : Char) (rest : Octets) :
    ∃ b tail, String.utf8EncodeChar c = b :: tail ∧ readChar b (tail ++ rest) = (some c, rest) := by
  have hvalid : c.val.toNat < 0xd800 ∨ (0xdfff < c.val.toNat ∧ c.val.toNat < 0x110000) := c.valid
  have hchar : Char.ofNat c.val.toNat = c := Char.ofNat_toNat c
  unfold String.utf8EncodeChar
  generalize c.val.toNat = n at hvalid hchar ⊢
  rw [← hchar]
  simp only
  split
  · rename_i h1
    have hl : lead? n = some ⟨n, 0x80, 0xbf, 0⟩ := by rw [lead?, if_pos (by omega)]
    exact ⟨_, [], rfl, readChar_of_lead (by omega) hl rfl⟩
  split
  · rename_i h1 h2
    refine ⟨_, _, rfl, readChar_of_lead (by omega) (lead?_of_two (by omega) h2) ?_⟩
    have hbits : n / 64 * 64 + (n % 64 + 0x80) % 64 = n := by omega
    rw [List.cons_append, follow_cons (by omega) (by omega) (by omega), hbits]
    rfl
  split
  · rename_i h1 h2 h3
    obtain ⟨low, high, hl, hlow, hhigh⟩ := lead?_of_three (by omega) h3 (by omega)
    refine ⟨_, _, rfl, readChar_of_lead (by omega) hl ?_⟩
    have hbits : (n / 4096 * 64 + (n / 64 % 64 + 0x80) % 64) * 64 + (n % 64 + 0x80) % 64 = n := by
      omega
    rw [List.cons_append, List.cons_append, follow_cons hlow hhigh (by omega),
      follow_cons (by omega) (by omega) (by omega), hbits]
    rfl
  · rename_i h1 h2 h3
    obtain ⟨low, high, hl, hlow, hhigh⟩ := lead?_of_four (n := n) (by omega) (by omega)
    refine ⟨_, _, rfl, readChar_of_lead (by omega) hl ?_⟩
    have hbits :
        ((n / 262144 * 64 + (n / 4096 % 64 + 0x80) % 64) * 64 + (n / 64 % 64 + 0x80) % 64) * 64 +
        (n % 64 + 0x80) % 64 = n := by omega
    rw [List.cons_append, List.cons_append, List.cons_append, follow_cons hlow hhigh (by omega),
      follow_cons (by omega) (by omega) (by omega),
        follow_cons (by omega) (by omega) (by omega), hbits]
    rfl

theorem decodeChars_encodeChars (cs : List Char) : decodeChars (encodeChars cs) = cs := by
  induction cs with
  | nil => simp [encodeChars, decodeChars]
  | cons c cs ih =>
    obtain ⟨b, tail, hc, hread⟩ := readChar_encoded c (encodeChars cs)
    have hencode : encodeChars (c :: cs) = b :: (tail ++ encodeChars cs) := by
      simp [encodeChars, hc]
    rw [hencode, decodeChars, hread]
    simp [ih]

theorem decode_encode (s : String) : decode (encode s) = s := by
  rw [decode, encode, decodeChars_encodeChars, String.ofList_toList]

end ServiceDiscovery.Text
