import Rendezvous.Packet.Connect
import Rendezvous.Proofs.Address

/-!
How Connect-Requests are written and read. An address goes into a request exactly when it is that of
an IPv4 endpoint, and is read back as that endpoint from what is written, whatever follows. A
payload is read by its first six bytes, once the two of the trailer are there; a shorter one ends
before its address, before its port or before its trailer, and is refused for the first of them.
-/
namespace Rendezvous.ConnectRequest

open Wire (Bytes)

/-! ### Writing -/

theorem forPeer_eq_ok_iff {address : SocketAddress} {r : ConnectRequest} :
    forPeer address = .ok r ↔ address.HasIpv4Form r.peer := by
  rw [← SocketAddress.endpoint?_eq_some_iff, forPeer]
  cases address.endpoint? with
  | none => exact ⟨nofun, nofun⟩
  | some endpoint =>
    constructor
    · intro hok
      rw [← Except.ok.inj hok]
    · intro hsome
      rw [Option.some.inj hsome]

theorem forPeer_of_no_form {address : SocketAddress}
    (h : ∀ endpoint, ¬address.HasIpv4Form endpoint) :
    forPeer address = .error (.unsupportedAddress address) := by
  cases hread : address.endpoint? with
  | none => rw [forPeer, hread]
  | some endpoint => exact absurd (SocketAddress.endpoint?_eq_some_iff.1 hread) (h endpoint)

/-- What is written is a header of the kind and a payload that is read back. -/
theorem decode_encode_append (r : ConnectRequest) (version : UInt8) (cookie : UInt32)
    (after : Bytes) :
    ∃ payload,
      Header.decode (r.encode version cookie ++ after) =
        .ok (.forCommand version .connectRequest cookie, payload) ∧
      decode payload = .ok r := by
  refine ⟨_, ?_, r.decode_fields_append after⟩
  rw [encode_eq, List.append_assoc]
  exact Header.decode_encode_append rfl _

/-! ### Reading -/

/-- What a payload is, by its bytes alone. -/
inductive Verdict (payload : Bytes) : Except Failure ConnectRequest → Prop
  | address {r : ConnectRequest} (hlong : 8 ≤ payload.length)
    (hip : r.peer.ip = ⟨payload[0], payload[1], payload[2], payload[3]⟩)
    (hport : r.peer.port.toNat = 256 * payload[4].toNat + payload[5].toNat) :
    Verdict payload (.ok r)
  | short {needed : Nat} (hpart : needed ∈ [4, 6, 8]) (hshort : payload.length < needed)
    (hleast : ∀ n ∈ [4, 6, 8], payload.length < n → needed ≤ n) :
    Verdict payload (.error (.packetTooShort needed payload.length))

variable {payload other : Bytes} {v w : Except Failure ConnectRequest}

theorem verdict_decode (payload : Bytes) : Verdict payload (decode payload) := by
  match payload with
  | [] | [_] | [_, _] | [_, _, _] => exact @Verdict.short _ 4 (by simp) (by simp) (by simp)
  | [_, _, _, _] | [_, _, _, _, _] => exact @Verdict.short _ 6 (by simp) (by simp) (by simp)
  | [_, _, _, _, _, _] | [_, _, _, _, _, _, _] =>
    exact @Verdict.short _ 8 (by simp) (by simp) (by simp)
  | _ :: _ :: _ :: _ :: high :: low :: _ :: _ :: rest =>
    exact .address (by simp) rfl (Wire.toNat_decode16 high low)

/-- A payload with all its bytes is not refused. -/
theorem Verdict.of_long (h : Verdict payload v) (hlong : 8 ≤ payload.length) :
    ∃ r, v = .ok r ∧ r.peer.ip = ⟨payload[0], payload[1], payload[2], payload[3]⟩ ∧
      r.peer.port.toNat = 256 * payload[4].toNat + payload[5].toNat := by
  cases h with
  | address _ hip hport => exact ⟨_, rfl, hip, hport⟩
  | short hpart hshort _ =>
    simp only [List.mem_cons, List.not_mem_nil, or_false] at hpart
    omega

/-- A payload has one verdict. -/
theorem Verdict.unique (h : Verdict payload v) (h' : Verdict payload w) : v = w := by
  cases h with
  | @address r hlong hip hport =>
    obtain ⟨r', rfl, hip', hport'⟩ := h'.of_long hlong
    obtain ⟨⟨ip, port⟩⟩ := r
    obtain ⟨⟨ip', port'⟩⟩ := r'
    obtain rfl : ip = ip' := hip.trans hip'.symm
    obtain rfl : port = port' := UInt16.toNat_inj.1 (hport.trans hport'.symm)
    rfl
  | short hpart hshort hleast =>
    cases h' with
    | address hlong _ _ =>
      obtain ⟨r, hrefused, -⟩ := (Verdict.short hpart hshort hleast).of_long hlong
      cases hrefused
    | short hpart' hshort' hleast' =>
      rw [Nat.le_antisymm (hleast _ hpart' hshort') (hleast' _ hpart hshort)]

/-- Decoding gives the verdict on a payload and no other. -/
theorem decode_eq_iff : decode payload = v ↔ Verdict payload v := by
  constructor
  · rintro rfl
    exact verdict_decode payload
  · intro h
    exact (verdict_decode payload).unique h

/-- Payloads that have all their bytes and begin alike are read alike. -/
theorem decode_eq_of_take_eq (hlong : 8 ≤ payload.length) (hother : 8 ≤ other.length)
    (hsame : payload.take 6 = other.take 6) : decode payload = decode other := by
  have hbyte (i : Nat) (hi : i < 6) : other[i] = payload[i] := by
    have hget := congrArg (·[i]?) hsame
    simp only [List.getElem?_take_of_lt hi] at hget
    rw [List.getElem?_eq_getElem (by omega), List.getElem?_eq_getElem (by omega)] at hget
    exact (Option.some.inj hget).symm
  obtain ⟨r, hread, hip, hport⟩ := (verdict_decode other).of_long hother
  rw [hread, decode_eq_iff]
  apply Verdict.address hlong
  · rw [hip, hbyte 0 (by omega), hbyte 1 (by omega), hbyte 2 (by omega), hbyte 3 (by omega)]
  · rw [hport, hbyte 4 (by omega), hbyte 5 (by omega)]

/-! ### Addresses on the wire -/

/-- An address can be written when it is that of an IPv4 endpoint, as it is or in IPv6 clothes, and
is refused by its own name otherwise. From what is written, under any version and cookie and in
front of any bytes, that endpoint is read back, and it makes the same request again. A payload is an
address exactly when it has eight bytes, of which the first six decide which; any other is too short
for the least of four, six and eight bytes that it does not have. -/
theorem addresses_survive_the_wire :
    (∀ address : SocketAddress,
      ((∃ r, forPeer address = .ok r) ↔ ∃ endpoint, address.HasIpv4Form endpoint) ∧
      ((¬∃ endpoint, address.HasIpv4Form endpoint) →
        forPeer address = .error (.unsupportedAddress address)) ∧
      ∀ r, forPeer address = .ok r →
        address.HasIpv4Form r.peer ∧ forPeer (.v4 r.peer) = .ok r ∧
        ∀ (version : UInt8) (cookie : UInt32) (after : Bytes), ∃ payload,
          Header.decode (r.encode version cookie ++ after) =
            .ok (.forCommand version .connectRequest cookie, payload) ∧
          decode payload = .ok r) ∧
    (∀ (payload : Bytes) (result : Except Failure ConnectRequest),
      decode payload = result ↔ Verdict payload result) ∧
    ∀ payload other : Bytes, 8 ≤ payload.length → 8 ≤ other.length →
      payload.take 6 = other.take 6 → decode payload = decode other := by
  refine ⟨fun address => ⟨⟨?_, ?_⟩, ?_, ?_⟩, fun _ _ => decode_eq_iff,
    fun _ _ => decode_eq_of_take_eq⟩
  · rintro ⟨r, hok⟩
    exact ⟨r.peer, forPeer_eq_ok_iff.1 hok⟩
  · rintro ⟨endpoint, hform⟩
    exact ⟨⟨endpoint⟩, forPeer_eq_ok_iff.2 hform⟩
  · intro hnone
    exact forPeer_of_no_form fun endpoint hform => hnone ⟨endpoint, hform⟩
  · intro r hok
    exact ⟨forPeer_eq_ok_iff.1 hok, rfl, decode_encode_append r⟩

/-- `::ffff:10.0.0.7` on a link goes as `10.0.0.7`, while `::10.0.0.7` is refused; a payload that
ends in the middle of its port is too short for it. -/
theorem addresses_survive_the_wire_of_mapped :
    let r : ConnectRequest := ⟨⟨⟨10, 0, 0, 7⟩, 3000⟩⟩
    let mapped : SocketAddress := .v6 ⟨#v[0, 0, 0, 0, 0, 0xFFFF, 0x0A00, 0x0007]⟩ 3000 2
    let compatible : SocketAddress := .v6 ⟨#v[0, 0, 0, 0, 0, 0, 0x0A00, 0x0007]⟩ 3000 2
    forPeer mapped = .ok r ∧ mapped.HasIpv4Form r.peer ∧
      (∃ payload, Header.decode (r.encode 3 0x01020304 ++ [9]) =
          .ok (.forCommand 3 .connectRequest 0x01020304, payload) ∧ decode payload = .ok r) ∧
      (¬∃ endpoint, compatible.HasIpv4Form endpoint) ∧
      forPeer compatible = .error (.unsupportedAddress compatible) ∧
      Verdict [10, 0, 0, 7, 0x0B] (.error (.packetTooShort 6 5)) ∧
      decode [10, 0, 0, 7, 0x0B, 0xB8, 0x42, 0] = decode [10, 0, 0, 7, 0x0B, 0xB8, 1, 2, 3] := by
  intro r mapped compatible
  obtain ⟨hwrite, hread, hsix⟩ := addresses_survive_the_wire
  have hmapped : forPeer mapped = .ok r := rfl
  obtain ⟨hform, -, hwire⟩ := (hwrite mapped).2.2 r hmapped
  have hnone : ¬∃ endpoint, compatible.HasIpv4Form endpoint := by
    intro hsome
    obtain ⟨request, hok⟩ := (hwrite compatible).1.2 hsome
    cases hok
  exact ⟨hmapped, hform, hwire 3 0x01020304 [9], hnone, (hwrite compatible).2.1 hnone,
    (hread _ _).1 rfl, hsix _ _ (by decide) (by decide) rfl⟩

end Rendezvous.ConnectRequest
