import Rendezvous.Packet.Report

/-!
How reports are read. The first nine bytes of a payload are all that a report needs; its name is
taken as far as it is there, and never makes it fail.
-/
namespace Rendezvous.ReportRequest

open Wire (Bytes Cursor)

/-- The bytes that a report has to have: those that its reply repeats. -/
def minimum : Nat := 9

theorem decode_of_short {payload : Bytes} (h : payload.length < minimum) :
    decode payload = .error (.packetTooShort minimum payload.length) := by
  have hread : (Cursor.start payload).nine = .error ((Cursor.start payload).short 9) := by
    unfold Cursor.nine
    split
    · next hrest =>
      rw [Cursor.rest_start] at hrest
      rw [hrest] at h
      simp only [List.length_cons, minimum] at h
      omega
    · rfl
  rw [decode, hread]
  simp [Cursor.short, Cursor.start, minimum, bind, Except.bind]

theorem decode_append (echo : Vector UInt8 9) (rest : Bytes) :
    decode (echo.toList ++ rest) =
      .ok ⟨echo, (Text.readNulTerminated (rest.drop 2)).toOption.map (·.1)⟩ := by
  obtain ⟨⟨bytes⟩, hsize⟩ := echo
  match bytes, hsize with
  | [b0, b1, b2, b3, b4, b5, b6, b7, b8], _ => simp [decode, Cursor.nine, nameOffset, bind,
      Except.bind, pure, Except.pure]

/-- Nine bytes are the beginning of a report. -/
theorem exists_append_of_long {payload : Bytes} (h : minimum ≤ payload.length) :
    ∃ (echo : Vector UInt8 9) (rest : Bytes), payload = echo.toList ++ rest := by
  match payload, h with
  | b0 :: b1 :: b2 :: b3 :: b4 :: b5 :: b6 :: b7 :: b8 :: rest, _ =>
    exact ⟨#v[b0, b1, b2, b3, b4, b5, b6, b7, b8], rest, rfl⟩

/-- What a report repeats is what its payload begins with. -/
theorem eq_append_of_decode {payload : Bytes} {r : ReportRequest} (h : decode payload = .ok r) :
    ∃ rest, payload = r.echo.toList ++ rest := by
  by_cases hlong : minimum ≤ payload.length
  · obtain ⟨echo, rest, rfl⟩ := exists_append_of_long hlong
    rw [decode_append] at h
    obtain rfl := Except.ok.inj h
    exact ⟨rest, rfl⟩
  · rw [decode_of_short (Nat.lt_of_not_le hlong)] at h
    cases h

theorem exists_decode_eq_ok_iff {payload : Bytes} :
    (∃ r, decode payload = .ok r) ↔ minimum ≤ payload.length := by
  constructor
  · rintro ⟨r, hr⟩
    obtain ⟨rest, rfl⟩ := eq_append_of_decode hr
    simp [minimum]
  · intro hlong
    obtain ⟨echo, rest, rfl⟩ := exists_append_of_long hlong
    exact ⟨_, decode_append echo rest⟩

end Rendezvous.ReportRequest
