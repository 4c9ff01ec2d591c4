import Rendezvous.Packet.Header

/-!
Headers and the datagrams that begin with them. Every datagram of at least twelve bytes is some
header and a payload, and is read as these two when the header has the mark; a shorter one is too
short for any. These are all verdicts on a datagram. So cutting a datagram behind its header cuts
the payload and nothing else.
-/
namespace Rendezvous.Header

open Wire (Bytes Cursor)

/-- Twelve bytes are a header, with the mark or without. -/
theorem exists_append_of_long {datagram : Bytes} (h : width ≤ datagram.length) :
    ∃ header payload, datagram = encode header ++ payload := by
  match datagram, h with
  | m0 :: m1 :: m2 :: m3 :: m4 :: m5 :: version :: code :: k0 :: k1 :: k2 :: k3 :: payload, _ =>
    refine ⟨⟨#v[m0, m1, m2, m3, m4, m5], version, code, Wire.decode32 k0 k1 k2 k3⟩, payload, ?_⟩
    rw [encode, Wire.encode32_decode32]
    rfl

theorem decode_of_short {datagram : Bytes} (h : datagram.length < width) :
    decode datagram = .error (.packetTooShort width datagram.length) := by
  have hread : read (Cursor.start datagram) = .error ((Cursor.start datagram).short width) := by
    unfold read
    split
    · next hrest =>
      rw [Cursor.rest_start] at hrest
      rw [hrest] at h
      simp only [List.length_cons, width] at h
      omega
    · rfl
  rw [decode, hread]
  simp [Cursor.short, Cursor.start, bind, Except.bind]

theorem decode_append (header : Header) (payload : Bytes) :
    decode (header.encode ++ payload) =
      if header.magic = mark then .ok (header, payload) else .error .badMagic := by
  split
  · next hmark => exact decode_encode_append hmark payload
  · next hmark =>
    simp [decode, read_encode_append, hmark, bind, Except.bind, throw, throwThe,
      MonadExceptOf.throw]

/-- A datagram that is read is its header and its payload. -/
theorem eq_append_of_decode {datagram payload : Bytes} {header : Header}
    (h : decode datagram = .ok (header, payload)) : datagram = header.encode ++ payload := by
  by_cases hlong : width ≤ datagram.length
  · obtain ⟨written, rest, rfl⟩ := exists_append_of_long hlong
    rw [decode_append] at h
    split at h
    · obtain ⟨rfl, rfl⟩ := Prod.mk.inj (Except.ok.inj h)
      rfl
    · cases h
  · rw [decode_of_short (Nat.lt_of_not_le hlong)] at h
    cases h

/-- What a datagram is, by its bytes alone. -/
inductive Verdict (datagram : Bytes) : Except Failure (Header × Bytes) → Prop
  | packet {header : Header} {payload : Bytes} (hmark : header.magic = mark)
    (hlayout : datagram = header.encode ++ payload) : Verdict datagram (.ok (header, payload))
  | short (hshort : datagram.length < 12) :
    Verdict datagram (.error (.packetTooShort 12 datagram.length))
  | unmarked (hlong : 12 ≤ datagram.length) (hmark : datagram.take 6 ≠ mark.toList) :
    Verdict datagram (.error .badMagic)

theorem take_encode_append (header : Header) (payload : Bytes) :
    (header.encode ++ payload).take 6 = header.magic.toList := by
  rw [encode, List.append_assoc, List.append_assoc]
  exact List.take_left' header.magic.length_toList

theorem verdict_decode (datagram : Bytes) : Verdict datagram (decode datagram) := by
  by_cases hlong : width ≤ datagram.length
  · obtain ⟨header, payload, rfl⟩ := exists_append_of_long hlong
    rw [decode_append]
    split
    · next hmark => exact .packet hmark rfl
    · next hmark =>
      refine .unmarked hlong fun htake => hmark ?_
      rw [take_encode_append] at htake
      exact Vector.toList_inj.1 htake
  · rw [decode_of_short (Nat.lt_of_not_le hlong)]
    exact .short (Nat.lt_of_not_le hlong)

/-- Decoding gives the verdict on a datagram and no other. -/
theorem decode_eq_iff {datagram : Bytes} {result : Except Failure (Header × Bytes)} :
    decode datagram = result ↔ Verdict datagram result := by
  constructor
  · rintro rfl
    exact verdict_decode datagram
  · intro h
    cases h with
    | packet hmark hlayout => rw [hlayout, decode_encode_append hmark]
    | short hshort => exact decode_of_short hshort
    | unmarked hlong hmark =>
      obtain ⟨header, payload, rfl⟩ := exists_append_of_long hlong
      rw [take_encode_append] at hmark
      rw [decode_append, if_neg fun hmagic => hmark (congrArg Vector.toList hmagic)]

/-- A cut that spares the header cuts the payload alone. -/
theorem decode_take {limit : Nat} (h : width ≤ limit) (datagram : Bytes) :
    decode (datagram.take limit) =
      (decode datagram).map fun (header, payload) => (header, payload.take (limit - width)) := by
  by_cases hlong : width ≤ datagram.length
  · obtain ⟨header, payload, rfl⟩ := exists_append_of_long hlong
    have hcut : (header.encode ++ payload).take limit =
        header.encode ++ payload.take (limit - width) := by
      rw [List.take_append, length_encode, List.take_of_length_le (by rwa [length_encode])]
    rw [hcut, decode_append, decode_append]
    split
    · rfl
    · rfl
  · rw [List.take_of_length_le (by omega), decode_of_short (Nat.lt_of_not_le hlong)]
    rfl

end Rendezvous.Header
