import Rendezvous.Proofs.Text.Replacement
import Rendezvous.Text.NulTerminated

/-!
Text fields, for any bytes. A field ends at the first zero byte and there alone; without one there
is no field. Its text is what the rule of replacement makes of the bytes before that zero. It never
has a NUL, so it can be written as a field again, and is read back from there as it was, whatever
follows; the bytes of the field are written as they were exactly when they were UTF-8.
-/
namespace Rendezvous.Text

open Wire (Bytes)

/-- A field that ends is read up to its first zero byte. -/
theorem readNulTerminated_of_mem {bytes : Bytes} (h : 0 ∈ bytes) :
    readNulTerminated bytes =
        .ok (LossyUtf8.text (bytes.take (bytes.idxOf 0)), bytes.idxOf 0 + 1) ∧
      0 ∉ bytes.take (bytes.idxOf 0) := by
  cases hsplit : splitAtNul bytes with
  | none => exact absurd h (splitAtNul_eq_none.1 hsplit)
  | some parts =>
    obtain ⟨field, after⟩ := parts
    rw [readNulTerminated, hsplit]
    obtain ⟨rfl, hunbroken⟩ := splitAtNul_eq_some hsplit
    have hoffset : (field ++ 0 :: after).idxOf 0 = field.length := by
      rw [List.idxOf_append, if_neg hunbroken, List.idxOf_cons_self, Nat.zero_add]
    rw [hoffset, List.take_left]
    exact ⟨rfl, hunbroken⟩

theorem readNulTerminated_eq_error_iff {bytes : Bytes} :
    readNulTerminated bytes = .error .unterminated ↔ 0 ∉ bytes := by
  constructor
  · intro herror hmem
    rw [(readNulTerminated_of_mem hmem).1] at herror
    cases herror
  · intro hnone
    rw [readNulTerminated, splitAtNul_eq_none.2 hnone]

/-- What is written without a NUL is read back, and what follows it is left. -/
theorem readNulTerminated_encode_append {s : String} (h : '\x00' ∉ s.toList) (after : Bytes) :
    readNulTerminated (LossyUtf8.encode s ++ 0 :: after) =
      .ok (s, (LossyUtf8.encode s).length + 1) := by
  rw [readNulTerminated, splitAtNul_append (LossyUtf8.zero_not_mem_encode h)]
  dsimp only
  rw [LossyUtf8.text_encode]

/-- Bytes are refused exactly when none of them is zero. Otherwise the field takes as many as there
are up to its first zero, with that one, and its text is what the bytes before are read as. That
text has no NUL; its UTF-8 form is the field again exactly when the field is UTF-8; and written as a
field, in front of any bytes, it is read back as it is. -/
theorem fields_end_at_the_first_zero (bytes : Bytes) :
    (readNulTerminated bytes = .error .unterminated ↔ 0 ∉ bytes) ∧
      (0 ∈ bytes → ∃ text,
        readNulTerminated bytes = .ok (text, bytes.idxOf 0 + 1) ∧
          (∀ chars, LossyUtf8.ReadsAs (bytes.take (bytes.idxOf 0)) chars ↔ text.toList = chars) ∧
          '\x00' ∉ text.toList ∧
          (LossyUtf8.encode text = bytes.take (bytes.idxOf 0) ↔
            (bytes.take (bytes.idxOf 0)).toByteArray.IsValidUTF8) ∧
          ∀ after, readNulTerminated (LossyUtf8.encode text ++ 0 :: after) =
            .ok (text, (LossyUtf8.encode text).length + 1)) := by
  refine ⟨readNulTerminated_eq_error_iff, fun hmem => ?_⟩
  obtain ⟨hread, hunbroken⟩ := readNulTerminated_of_mem hmem
  have hnul := LossyUtf8.nul_not_mem_text hunbroken
  exact ⟨_, hread, fun chars => LossyUtf8.readsAs_iff, hnul, LossyUtf8.encode_text_eq_iff,
    readNulTerminated_encode_append hnul⟩

/-- A field with an accent between two bytes of a character that breaks off and a surrogate. -/
theorem fields_end_at_the_first_zero_of_broken :
    let field : Bytes := [0x6D, 0xE2, 0x82, 0xC3, 0xA9, 0xED, 0xA0, 0x80]
    let text := "m\uFFFDé\uFFFD\uFFFD\uFFFD"
    0 ∈ field ++ [0, 0x78, 0] ∧
      readNulTerminated (field ++ [0, 0x78, 0]) = .ok (text, 9) ∧
      LossyUtf8.ReadsAs field text.toList ∧ ¬field.toByteArray.IsValidUTF8 ∧
      readNulTerminated (LossyUtf8.encode text ++ [0, 0x78]) = .ok (text, 16) := by
  intro field text
  have hmem : 0 ∈ field ++ [0, 0x78, 0] := by decide
  obtain ⟨read, hread, hrule, -, hutf8, hagain⟩ :=
    (fields_end_at_the_first_zero (field ++ [0, 0x78, 0])).2 hmem
  have htext : readNulTerminated (field ++ [0, 0x78, 0]) = .ok (text, 9) := rfl
  obtain ⟨rfl, -⟩ := Prod.mk.inj (Except.ok.inj (hread.symm.trans htext))
  have hshort := hagain [0x78]
  rw [show (LossyUtf8.encode text).length = 15 by decide] at hshort
  refine ⟨hmem, htext, (hrule _).2 rfl, fun hvalid => ?_, hshort⟩
  exact absurd (hutf8.2 hvalid) (by decide)

end Rendezvous.Text
