import Rendezvous.Text.LossyUtf8

/-!
Lossy text and UTF-8. The UTF-8 form of a text is read back as that text, character by character,
so reading is the identity on UTF-8 and changes nothing that it has read before. A zero byte and
the character NUL stand for each other: no other character has a zero byte in its UTF-8 form, and
bytes without a zero are read without a NUL, whatever is replaced in them.
-/
namespace Rendezvous.Text.LossyUtf8

open Wire (Bytes)

variable {a b c d : UInt8}

/-! ### The classes of bytes, in numbers -/

theorem isTail_iff : isTail b ↔ 0x80 ≤ b.toNat ∧ b.toNat ≤ 0xBF := by
  simp [isTail, UInt8.le_iff_toNat_le]

theorem opensTwo_iff : opensTwo a ↔ 0xC2 ≤ a.toNat ∧ a.toNat ≤ 0xDF := by
  simp [opensTwo, UInt8.le_iff_toNat_le]

theorem opensThree_iff :
    opensThree a b ↔
      (a.toNat = 0xE0 ∧ 0xA0 ≤ b.toNat ∧ b.toNat ≤ 0xBF) ∨
      (0xE1 ≤ a.toNat ∧ a.toNat ≤ 0xEC ∧ 0x80 ≤ b.toNat ∧ b.toNat ≤ 0xBF) ∨
      (a.toNat = 0xED ∧ 0x80 ≤ b.toNat ∧ b.toNat ≤ 0x9F) ∨
      (0xEE ≤ a.toNat ∧ a.toNat ≤ 0xEF ∧ 0x80 ≤ b.toNat ∧ b.toNat ≤ 0xBF) := by
  simp [opensThree, isTail, UInt8.le_iff_toNat_le, ← UInt8.toNat_inj, and_assoc, or_assoc]

theorem opensFour_iff :
    opensFour a b ↔
      (a.toNat = 0xF0 ∧ 0x90 ≤ b.toNat ∧ b.toNat ≤ 0xBF) ∨
      (0xF1 ≤ a.toNat ∧ a.toNat ≤ 0xF3 ∧ 0x80 ≤ b.toNat ∧ b.toNat ≤ 0xBF) ∨
      (a.toNat = 0xF4 ∧ 0x80 ≤ b.toNat ∧ b.toNat ≤ 0x8F) := by
  simp [opensFour, isTail, UInt8.le_iff_toNat_le, ← UInt8.toNat_inj, and_assoc, or_assoc]

/-! ### One character -/

theorem decode_one (ha : a.toNat < 0x80) (rest : Bytes) :
    decode (a :: rest) = Char.ofNat a.toNat :: decode rest := by
  rw [decode.eq_def]
  exact if_pos (UInt8.lt_iff_toNat_lt.2 ha)

theorem not_lt_of_le_toNat (ha : 0x80 ≤ a.toNat) : ¬a < 0x80 := by
  rw [UInt8.lt_iff_toNat_lt]
  exact Nat.not_lt.2 ha

theorem decode_two (ha : opensTwo a) (hb : isTail b) (rest : Bytes) :
    decode (a :: b :: rest) = char2 a b :: decode rest := by
  have hlead : ¬a < 0x80 := not_lt_of_le_toNat (by rw [opensTwo_iff] at ha; omega)
  rw [decode.eq_def]
  simp [hlead, ha, hb]

theorem not_opensTwo_of_opensThree (h : opensThree a b) : ¬opensTwo a := by
  rw [opensTwo_iff]
  rw [opensThree_iff] at h
  omega

theorem not_opensThree_of_opensFour (h : opensFour a b) : ¬opensTwo a ∧ ¬opensThree a b := by
  rw [opensTwo_iff, opensThree_iff]
  rw [opensFour_iff] at h
  omega

theorem decode_three (h : opensThree a b) (hc : isTail c) (rest : Bytes) :
    decode (a :: b :: c :: rest) = char3 a b c :: decode rest := by
  have hlead : ¬a < 0x80 := not_lt_of_le_toNat (by rw [opensThree_iff] at h; omega)
  rw [decode.eq_def]
  simp [hlead, not_opensTwo_of_opensThree h, h, hc]

theorem decode_four (h : opensFour a b) (hc : isTail c) (hd : isTail d) (rest : Bytes) :
    decode (a :: b :: c :: d :: rest) = char4 a b c d :: decode rest := by
  have hlead : ¬a < 0x80 := not_lt_of_le_toNat (by rw [opensFour_iff] at h; omega)
  obtain ⟨htwo, hthree⟩ := not_opensThree_of_opensFour h
  rw [decode.eq_def]
  simp [hlead, htwo, hthree, h, hc, hd]

/-! ### Well-formed sequences -/

/-- The sequences of one to four bytes that stand for a character. -/
inductive WellFormed : Bytes → Char → Prop
  | one {a : UInt8} (ha : a.toNat < 0x80) : WellFormed [a] (Char.ofNat a.toNat)
  | two {a b : UInt8} (ha : opensTwo a) (hb : isTail b) : WellFormed [a, b] (char2 a b)
  | three {a b c : UInt8} (h : opensThree a b) (hc : isTail c) : WellFormed [a, b, c] (char3 a b c)
  | four {a b c d : UInt8} (h : opensFour a b) (hc : isTail c) (hd : isTail d) :
    WellFormed [a, b, c, d] (char4 a b c d)

theorem WellFormed.decode_append {bytes : Bytes} {char : Char} (h : WellFormed bytes char)
    (rest : Bytes) : decode (bytes ++ rest) = char :: decode rest := by
  cases h with
  | one ha => exact decode_one ha rest
  | two ha hb => exact decode_two ha hb rest
  | three h hc => exact decode_three h hc rest
  | four h hc hd => exact decode_four h hc hd rest

/-- The UTF-8 form of a character is well-formed and stands for that character. -/
theorem wellFormed_utf8EncodeChar (char : Char) : WellFormed (String.utf8EncodeChar char) char := by
  have hvalid : char.toNat < 0xD800 ∨ 0xDFFF < char.toNat ∧ char.toNat < 0x110000 := char.valid
  -- The bytes hold the digits of the code point, from which the character is put together again.
  have hback {n : Nat} (h : n = char.toNat) : char = Char.ofNat n := by rw [h, Char.ofNat_toNat]
  unfold String.utf8EncodeChar
  rw [Char.toNat_val]
  generalize char.toNat = n at hvalid hback
  have htail (m : Nat) : isTail (UInt8.ofNat (m % 64 + 128)) := by
    rw [isTail_iff, UInt8.toNat_ofNat']
    omega
  have hdigit (m : Nat) : (UInt8.ofNat (m % 64 + 128)).toNat % 64 = m % 64 := by
    rw [UInt8.toNat_ofNat']
    omega
  dsimp only
  split
  · have hself : (UInt8.ofNat n).toNat = n := by
      rw [UInt8.toNat_ofNat']
      omega
    rw [hback hself]
    exact .one (by omega)
  · split
    · have hlead : opensTwo (UInt8.ofNat (n / 64 % 32 + 192)) := by
        rw [opensTwo_iff, UInt8.toNat_ofNat']
        omega
      have hchar : char = char2 (UInt8.ofNat (n / 64 % 32 + 192)) (UInt8.ofNat (n % 64 + 128)) := by
        apply hback
        rw [hdigit, UInt8.toNat_ofNat']
        omega
      rw [hchar]
      exact .two hlead (htail n)
    · split
      · have hlead : opensThree (UInt8.ofNat (n / 4096 % 16 + 224))
            (UInt8.ofNat (n / 64 % 64 + 128)) := by
          rw [opensThree_iff, UInt8.toNat_ofNat', UInt8.toNat_ofNat']
          omega
        have hchar : char = char3 (UInt8.ofNat (n / 4096 % 16 + 224))
            (UInt8.ofNat (n / 64 % 64 + 128)) (UInt8.ofNat (n % 64 + 128)) := by
          apply hback
          rw [hdigit, hdigit, UInt8.toNat_ofNat']
          omega
        rw [hchar]
        exact .three hlead (htail n)
      · have hlead : opensFour (UInt8.ofNat (n / 262144 % 8 + 240))
            (UInt8.ofNat (n / 4096 % 64 + 128)) := by
          rw [opensFour_iff, UInt8.toNat_ofNat', UInt8.toNat_ofNat']
          omega
        have hchar : char = char4 (UInt8.ofNat (n / 262144 % 8 + 240))
            (UInt8.ofNat (n / 4096 % 64 + 128)) (UInt8.ofNat (n / 64 % 64 + 128))
            (UInt8.ofNat (n % 64 + 128)) := by
          apply hback
          rw [hdigit, hdigit, hdigit, UInt8.toNat_ofNat']
          omega
        rw [hchar]
        exact .four hlead (htail _) (htail n)

/-- A well-formed sequence is the UTF-8 form of the character that it stands for. -/
theorem WellFormed.utf8EncodeChar_eq {bytes : Bytes} {char : Char} (h : WellFormed bytes char) :
    String.utf8EncodeChar char = bytes := by
  have hbyte (x : UInt8) {n : Nat} (h : n % 256 = x.toNat) : UInt8.ofNat n = x := by
    rw [← UInt8.toNat_inj, UInt8.toNat_ofNat', h]
  have hnumber {n : Nat} (h : n.isValidChar) : (Char.ofNat n).toNat = n := by
    rw [Char.ofNat, dif_pos h]
    rfl
  unfold String.utf8EncodeChar
  rw [Char.toNat_val]
  dsimp only
  cases h with
  | @one a ha =>
    have hvalid : a.toNat.isValidChar := .inl (by omega)
    rw [hnumber hvalid, if_pos (by omega), hbyte a (by omega)]
  | @two a b ha hb =>
    rw [opensTwo_iff] at ha
    rw [isTail_iff] at hb
    have hvalid : (a.toNat % 32 * 64 + b.toNat % 64).isValidChar := .inl (by omega)
    rw [char2, hnumber hvalid, if_neg (by omega), if_pos (by omega)]
    rw [hbyte a (by omega), hbyte b (by omega)]
  | @three a b c h hc =>
    rw [opensThree_iff] at h
    rw [isTail_iff] at hc
    have hvalid : (a.toNat % 16 * 4096 + b.toNat % 64 * 64 + c.toNat % 64).isValidChar := by
      unfold Nat.isValidChar
      omega
    have hsize : 0x800 ≤ a.toNat % 16 * 4096 + b.toNat % 64 * 64 + c.toNat % 64 := by omega
    have hlead : 0xE0 ≤ a.toNat ∧ a.toNat ≤ 0xEF ∧ 0x80 ≤ b.toNat ∧ b.toNat ≤ 0xBF := by omega
    clear h
    rw [char3, hnumber hvalid, if_neg (by omega), if_neg (by omega),
      if_pos (by omega)]
    rw [hbyte a (by omega), hbyte b (by omega), hbyte c (by omega)]
  | @four a b c d h hc hd =>
    rw [opensFour_iff] at h
    rw [isTail_iff] at hc hd
    have hvalid : (a.toNat % 8 * 262144 + b.toNat % 64 * 4096 + c.toNat % 64 * 64 +
        d.toNat % 64).isValidChar := by
      unfold Nat.isValidChar
      omega
    have hsize : 0x10000 ≤ a.toNat % 8 * 262144 + b.toNat % 64 * 4096 + c.toNat % 64 * 64 +
        d.toNat % 64 := by omega
    have hlead : 0xF0 ≤ a.toNat ∧ a.toNat ≤ 0xF4 ∧ 0x80 ≤ b.toNat ∧ b.toNat ≤ 0xBF := by omega
    clear h
    rw [char4, hnumber hvalid, if_neg (by omega), if_neg (by omega),
      if_neg (by omega)]
    rw [hbyte a (by omega), hbyte b (by omega), hbyte c (by omega), hbyte d (by omega)]

/-! ### Reading the UTF-8 form of a text -/

/-- The UTF-8 form of a character is read as that character. -/
theorem decode_utf8EncodeChar_append (char : Char) (rest : Bytes) :
    decode (String.utf8EncodeChar char ++ rest) = char :: decode rest :=
  (wellFormed_utf8EncodeChar char).decode_append rest

theorem decode_flatMap_utf8EncodeChar (chars : List Char) :
    decode (chars.flatMap String.utf8EncodeChar) = chars := by
  induction chars with
  | nil => rw [List.flatMap_nil, decode]
  | cons char rest ih => rw [List.flatMap_cons, decode_utf8EncodeChar_append, ih]

/-- Reading undoes writing. -/
@[simp] theorem text_encode (s : String) : text (encode s) = s := by
  rw [text, encode, decode_flatMap_utf8EncodeChar, String.ofList_toList]

theorem length_encode (s : String) : (encode s).length = s.utf8ByteSize := by
  have hbytes : (encode s).toByteArray = s.toByteArray := String.utf8Encode_toList
  rw [← String.size_toByteArray, ← hbytes, List.size_toByteArray]

/-- The bytes that are written as they were read are those that are UTF-8. -/
theorem encode_text_eq_iff {bytes : Bytes} :
    encode (text bytes) = bytes ↔ bytes.toByteArray.IsValidUTF8 := by
  constructor
  · intro h
    exact ⟨(text bytes).toList, congrArg List.toByteArray h.symm⟩
  · rintro ⟨chars, hchars⟩
    have hbytes : bytes = chars.flatMap String.utf8EncodeChar := List.toByteArray_inj.1 hchars
    rw [hbytes, text, encode, decode_flatMap_utf8EncodeChar, String.toList_ofList]

/-! ### Zero bytes and NUL -/

/-- Only NUL has a zero byte in its UTF-8 form. -/
theorem eq_nul_of_zero_mem {char : Char} (h : 0 ∈ String.utf8EncodeChar char) : char = '\x00' := by
  have hzero {m : Nat} (hm : 0 = UInt8.ofNat m) : m % 256 = 0 := by
    simpa using (congrArg UInt8.toNat hm).symm
  unfold String.utf8EncodeChar at h
  rw [Char.toNat_val] at h
  dsimp only at h
  -- Where there are several bytes, each of them has its high bit set.
  split at h
  · have hnul : char.toNat % 256 = 0 := hzero (List.mem_singleton.1 h)
    refine Char.toNat_inj.1 ?_
    show char.toNat = 0
    omega
  · split at h
    · simp only [List.mem_cons, List.not_mem_nil, or_false] at h
      rcases h with h | h <;> exact absurd (hzero h) (by omega)
    · split at h
      · simp only [List.mem_cons, List.not_mem_nil, or_false] at h
        rcases h with h | h | h <;> exact absurd (hzero h) (by omega)
      · simp only [List.mem_cons, List.not_mem_nil, or_false] at h
        rcases h with h | h | h | h <;> exact absurd (hzero h) (by omega)

/-- The UTF-8 form of a text without a NUL has no zero byte. -/
theorem zero_not_mem_encode {s : String} (h : '\x00' ∉ s.toList) : 0 ∉ encode s := by
  intro hzero
  obtain ⟨char, hchar, hmem⟩ := List.mem_flatMap.1 hzero
  exact h (eq_nul_of_zero_mem hmem ▸ hchar)

theorem ofNat_ne_nul {n : Nat} (hpos : 0 < n) (hvalid : n.isValidChar) : Char.ofNat n ≠ '\x00' := by
  intro hnul
  rw [Char.ofNat, dif_pos hvalid] at hnul
  exact Nat.ne_of_gt hpos (congrArg Char.toNat hnul)

theorem char2_ne_nul (ha : opensTwo a) : char2 a b ≠ '\x00' := by
  rw [opensTwo_iff] at ha
  refine ofNat_ne_nul (by omega) (.inl ?_)
  omega

/-- The first two bytes keep overlong forms and surrogates out. -/
theorem char3_ne_nul (h : opensThree a b) (c : UInt8) : char3 a b c ≠ '\x00' := by
  rw [opensThree_iff] at h
  refine ofNat_ne_nul (by omega) ?_
  unfold Nat.isValidChar
  omega

/-- The first two bytes keep overlong forms and numbers above the last code point out. -/
theorem char4_ne_nul (h : opensFour a b) (c d : UInt8) : char4 a b c d ≠ '\x00' := by
  rw [opensFour_iff] at h
  refine ofNat_ne_nul (by omega) ?_
  unfold Nat.isValidChar
  omega

/-- Bytes without a zero are read without a NUL. -/
theorem nul_not_mem_decode {bytes : Bytes} (h : 0 ∉ bytes) : '\x00' ∉ decode bytes := by
  -- Each reading puts one character before what it reads of a later part of the bytes.
  have step {char : Char} {used later : Bytes} (hchar : char ≠ '\x00')
      (ih : 0 ∉ later → '\x00' ∉ decode later) (hbytes : 0 ∉ used ++ later) :
      '\x00' ∉ char :: decode later :=
    List.not_mem_cons_of_ne_of_not_mem hchar.symm
      (ih fun hmem => hbytes (List.mem_append_right used hmem))
  have hreplacement : replacement ≠ '\x00' := by decide
  have broken : '\x00' ∉ [replacement] := by decide
  fun_induction decode bytes with
  | case1 => exact List.not_mem_nil
  | case2 a rest ha ih =>
    have hpos : 0 < a.toNat := by
      refine Nat.pos_of_ne_zero fun hzero => h ?_
      rw [UInt8.toNat_inj.1 (hzero.trans UInt8.toNat_zero.symm)]
      exact List.mem_cons_self
    have hascii : a.toNat < 0x80 := UInt8.lt_iff_toNat_lt.1 ha
    exact @step _ [a] rest (ofNat_ne_nul hpos (.inl (by omega))) ih h
  | case3 => exact broken
  | case4 a _ b rest htwo ih =>
    exact @step _ [a, b] rest (char2_ne_nul (Bool.and_eq_true_iff.1 htwo).1) ih h
  | case5 => exact broken
  | case6 a _ b _ hthree c rest _ ih => exact @step _ [a, b, c] rest (char3_ne_nul hthree c) ih h
  | case7 a _ b _ _ c rest _ ih => exact @step _ [a, b] (c :: rest) hreplacement ih h
  | case8 => exact broken
  | case9 => exact broken
  | case10 a _ b _ _ hfour c _ d rest _ ih =>
    exact @step _ [a, b, c, d] rest (char4_ne_nul hfour c d) ih h
  | case11 a _ b _ _ _ c _ d rest _ ih => exact @step _ [a, b, c] (d :: rest) hreplacement ih h
  | case12 a _ b _ _ _ c rest _ ih => exact @step _ [a, b] (c :: rest) hreplacement ih h
  | case13 a _ b rest _ _ _ ih => exact @step _ [a] (b :: rest) hreplacement ih h

/-- The text of bytes without a zero has no NUL. -/
theorem nul_not_mem_text {bytes : Bytes} (h : 0 ∉ bytes) : '\x00' ∉ (text bytes).toList := by
  rw [text, String.toList_ofList]
  exact nul_not_mem_decode h

end Rendezvous.Text.LossyUtf8
