import Rendezvous.Packet.Reading
import Rendezvous.Proofs.Packet.Init

/-!
The grammar of probes. A payload has one verdict, whatever its bytes: the first fault in the order
length, terminator, port type, flag, and the two of them together, or the probe that its bytes spell
at their offsets. The zero that ends the name is the first one after the nine fixed bytes, so zeros
among these are values like any other, and what follows that zero is stray.
-/
namespace Rendezvous

open Wire (Bytes Cursor)

/-! ### Codes -/

theorem PortType.ofCode?_eq_none {code : UInt8} : ofCode? code = none ↔ 3 < code := by
  rw [UInt8.lt_iff_toNat_lt]
  unfold ofCode?
  split
  case h_5 h0 h1 h2 h3 =>
    have h0 := mt UInt8.toNat_inj.1 h0
    have h1 := mt UInt8.toNat_inj.1 h1
    have h2 := mt UInt8.toNat_inj.1 h2
    have h3 := mt UInt8.toNat_inj.1 h3
    simp only [UInt8.reduceToNat] at h0 h1 h2 h3 ⊢
    simp only [true_iff]
    omega
  all_goals decide

namespace InitRequest

theorem flag?_eq_none {code : UInt8} : flag? code = none ↔ 1 < code := by
  rw [UInt8.lt_iff_toNat_lt]
  unfold flag?
  split
  case h_3 h0 h1 =>
    have h0 := mt UInt8.toNat_inj.1 h0
    have h1 := mt UInt8.toNat_inj.1 h1
    simp only [UInt8.reduceToNat] at h0 h1 ⊢
    simp only [true_iff]
    omega
  all_goals decide

/-- What a payload is, by its bytes alone. -/
inductive Verdict (payload : Bytes) : Except Failure InitRequest → Prop
  | short (hshort : payload.length < 10) :
    Verdict payload (.error (.packetTooShort 10 payload.length))
  | unterminated (hlong : 10 ≤ payload.length) (hopen : 0 ∉ payload.drop 9) :
    Verdict payload (.error (.badString .unterminated))
  | port (hlong : 10 ≤ payload.length) (hclosed : 0 ∈ payload.drop 9) (hport : payload[0] > 3) :
    Verdict payload (.error (.invalidPortType payload[0]))
  | flag (hlong : 10 ≤ payload.length) (hclosed : 0 ∈ payload.drop 9) (hport : payload[0] ≤ 3)
    (hflag : payload[2] > 1) : Verdict payload (.error (.invalidUseGamePort payload[2]))
  | disabled (hlong : 10 ≤ payload.length) (hclosed : 0 ∈ payload.drop 9) (hport : payload[0] = 0)
    (hflag : payload[2] = 0) : Verdict payload (.error .gamePortDisabled)
  | probe {k : Nat} {r : InitRequest} (hlong : 10 ≤ payload.length)
    (hstart : 9 ≤ k) (hend : k < payload.length) (hzero : payload[k] = 0)
    (hfirst : ∀ i, 9 ≤ i → (hbefore : i < k) → payload[i] ≠ 0)
    (hport : payload[0] = r.port.code) (hindex : payload[1] = r.index)
    (hflag : payload[2] = if r.useGamePort then 1 else 0)
    (hallowed : ¬(payload[0] = 0 ∧ payload[2] = 0))
    (hip : r.localEndpoint.ip = ⟨payload[3], payload[4], payload[5], payload[6]⟩)
    (hnumber : r.localEndpoint.port.toNat = 256 * payload[7].toNat + payload[8].toNat)
    (hname : r.gameName = Text.LossyUtf8.text ((payload.take k).drop 9))
    (hstray : r.stray = payload.length - k - 1) : Verdict payload (.ok r)

/-! ### A payload that is a probe -/

/-- Behind its fixed bytes, a payload falls into its name, a zero and what comes after. -/
theorem drop_eq_of_zero {payload : Bytes} {k : Nat} (hstart : 9 ≤ k) (hend : k < payload.length)
    (hzero : payload[k] = 0) :
    payload.drop 9 = (payload.take k).drop 9 ++ 0 :: payload.drop (k + 1) := by
  have hlength : 9 ≤ (payload.take k).length := by
    rw [List.length_take]
    omega
  rw [← List.drop_append_of_le_length hlength, ← hzero, ← List.drop_eq_getElem_cons hend,
    List.take_append_drop]

theorem zero_notMem_of_first {payload : Bytes} {k : Nat} (hend : k < payload.length)
    (hfirst : ∀ i, 9 ≤ i → (hbefore : i < k) → payload[i] ≠ 0) :
    0 ∉ (payload.take k).drop 9 := by
  intro hmem
  obtain ⟨i, hi, hvalue⟩ := List.getElem_of_mem hmem
  have hbefore : 9 + i < k := by
    rw [List.length_drop, List.length_take] at hi
    omega
  rw [List.getElem_drop, List.getElem_take] at hvalue
  exact hfirst (9 + i) (Nat.le_add_right 9 i) hbefore hvalue

theorem Verdict.spells {payload : Bytes} {r : InitRequest} (h : Verdict payload (.ok r)) :
    ∃ name after, Spells payload name after r := by
  cases h with
  | @probe k _ hlong hstart hend hzero hfirst hport hindex hflag hallowed hip hnumber hname
      hstray =>
    refine ⟨(payload.take k).drop 9, payload.drop (k + 1), ?_, ?_, hname, ?_, ?_⟩
    · have hfixed : payload.take 9 = r.fixedPart := by
        obtain ⟨b0, b1, b2, b3, b4, b5, b6, b7, b8, rest, -, rfl⟩ := exists_cons_of_long hlong
        have hwritten : r.localEndpoint.port = Wire.decode16 b7 b8 :=
          UInt16.toNat_inj.1 (hnumber.trans (Wire.toNat_decode16 b7 b8).symm)
        rw [fixedPart, flagCode, ← hport, ← hindex, ← hflag, hip, hwritten,
          Wire.encode16_decode16]
        rfl
      rw [← hfixed, ← drop_eq_of_zero hstart hend hzero, List.take_append_drop]
    · exact zero_notMem_of_first hend hfirst
    · rw [hstray, List.length_drop, Nat.sub_sub]
    · intro hgame
      rw [← Bool.not_eq_false]
      intro hunused
      apply hallowed
      rw [hport, hflag, hgame, hunused]
      exact ⟨rfl, rfl⟩

theorem Spells.verdict {payload name after : Bytes} {r : InitRequest}
    (h : Spells payload name after r) : Verdict payload (.ok r) := by
  obtain ⟨rfl, hunbroken, hname, hstray, hconsistent⟩ := h
  have hlength :
      (r.fixedPart ++ (name ++ 0 :: after)).length = 9 + name.length + after.length + 1 := by
    rw [List.length_append, List.length_append, List.length_cons, length_fixedPart]
    omega
  have hfirst (i : Nat) (hstart : 9 ≤ i) (hbefore : i < 9 + name.length) :
      (r.fixedPart ++ (name ++ 0 :: after))[i] = name[i - 9] := by
    rw [List.getElem_append_right hstart, List.getElem_append_left]
    rfl
  have hcut : ((r.fixedPart ++ (name ++ 0 :: after)).take (9 + name.length)).drop 9 = name := by
    rw [← List.append_assoc, List.take_left' (by simp), List.drop_left' r.length_fixedPart]
  refine .probe (k := 9 + name.length) (by omega) (Nat.le_add_right 9 _) (by omega) ?_ ?_ rfl rfl rfl
    ?_ rfl ?_ ?_ ?_
  · rw [List.getElem_append_right (by simp), List.getElem_append_right (by simp)]
    simp
  · intro i hstart hbefore
    rw [hfirst i hstart hbefore]
    exact fun hzero => hunbroken (hzero ▸ List.getElem_mem _)
  · rintro ⟨hport, hflag⟩
    have hport : r.port = .gamePort := by
      rw [← Option.some_inj, ← PortType.ofCode?_code]
      exact congrArg PortType.ofCode? hport
    have hflag : r.flagCode = 0 := hflag
    rw [flagCode, hconsistent hport] at hflag
    cases hflag
  · have hvalue := Wire.toNat_decode16 (UInt8.ofNat (r.localEndpoint.port.toNat / 256))
      (UInt8.ofNat r.localEndpoint.port.toNat)
    rw [Wire.decode16_encode16] at hvalue
    exact hvalue
  · rw [hcut, hname]
  · rw [hlength, hstray]
    omega

/-! ### A payload that is none -/

theorem decode_of_unterminated {payload : Bytes} (hlong : 10 ≤ payload.length)
    (hopen : 0 ∉ payload.drop 9) : decode payload = .error (.badString .unterminated) := by
  obtain ⟨b0, b1, b2, b3, b4, b5, b6, b7, b8, rest, hrest, rfl⟩ := exists_cons_of_long hlong
  have hopen : 0 ∉ rest := hopen
  rw [decode_cons _ _ _ _ _ _ _ _ _ hrest, Text.readNulTerminated, Text.splitAtNul_eq_none.2 hopen]

/-- Behind the length and the terminator, the values decide. -/
theorem decode_of_terminated {payload : Bytes} (hlong : 10 ≤ payload.length)
    (hclosed : 0 ∈ payload.drop 9) :
    ∃ localEndpoint gameName stray, decode payload =
      ofValues payload[0] payload[1] payload[2] localEndpoint gameName stray := by
  obtain ⟨b0, b1, b2, b3, b4, b5, b6, b7, b8, rest, hrest, rfl⟩ := exists_cons_of_long hlong
  have hclosed : 0 ∈ rest := hclosed
  cases hsplit : Text.splitAtNul rest with
  | none => exact absurd hclosed (Text.splitAtNul_eq_none.1 hsplit)
  | some parts =>
    rw [decode_cons _ _ _ _ _ _ _ _ _ hrest, Text.readNulTerminated, hsplit]
    exact ⟨_, _, _, rfl⟩

section Values

variable {portCode flag : UInt8} (index : UInt8) (localEndpoint : Endpoint) (gameName : String)
  (stray : Nat)

theorem ofValues_of_port (hport : portCode > 3) :
    ofValues portCode index flag localEndpoint gameName stray =
      .error (.invalidPortType portCode) := by
  rw [ofValues, PortType.ofCode?_eq_none.2 hport]
  rfl

theorem exists_port_of_le (hport : portCode ≤ 3) :
    ∃ port, PortType.ofCode? portCode = some port := by
  refine Option.ne_none_iff_exists'.1 fun hnone => ?_
  exact UInt8.not_le.2 (PortType.ofCode?_eq_none.1 hnone) hport

theorem ofValues_of_flag (hport : portCode ≤ 3) (hflag : flag > 1) :
    ofValues portCode index flag localEndpoint gameName stray =
      .error (.invalidUseGamePort flag) := by
  obtain ⟨port, hport⟩ := exists_port_of_le hport
  rw [ofValues, hport, flag?_eq_none.2 hflag]
  rfl

theorem exists_ofValues (hport : portCode ≤ 3) (hflag : flag ≤ 1)
    (hallowed : ¬(portCode = 0 ∧ flag = 0)) :
    ∃ r, ofValues portCode index flag localEndpoint gameName stray = .ok r := by
  obtain ⟨port, hport⟩ := exists_port_of_le hport
  cases huse : flag? flag with
  | none => exact absurd hflag (UInt8.not_le.2 (flag?_eq_none.1 huse))
  | some useGamePort =>
    have hport' := PortType.eq_code_of_ofCode? hport
    have hflag' := eq_code_of_flag huse
    let r : InitRequest := ⟨port, index, useGamePort, localEndpoint, gameName, stray⟩
    have hconsistent : r.Consistent := by
      rintro (rfl : port = .gamePort)
      show useGamePort = true
      rw [← Bool.not_eq_false]
      rintro rfl
      exact hallowed ⟨hport', hflag'⟩
    rw [hport', hflag']
    exact ⟨r, ofValues_of_consistent hconsistent⟩

end Values

/-! ### The verdict -/

theorem decode_of_verdict {payload : Bytes} {v : Except Failure InitRequest}
    (h : Verdict payload v) : decode payload = v := by
  cases v with
  | ok r => exact decode_eq_ok_iff.2 h.spells
  | error failure =>
    cases h with
    | short hshort => exact decode_of_short hshort
    | unterminated hlong hopen => exact decode_of_unterminated hlong hopen
    | port hlong hclosed hport =>
      obtain ⟨localEndpoint, gameName, stray, hdecode⟩ := decode_of_terminated hlong hclosed
      rw [hdecode, ofValues_of_port _ _ _ _ hport]
    | flag hlong hclosed hport hflag =>
      obtain ⟨localEndpoint, gameName, stray, hdecode⟩ := decode_of_terminated hlong hclosed
      rw [hdecode, ofValues_of_flag _ _ _ _ hport hflag]
    | disabled hlong hclosed hport hflag =>
      obtain ⟨localEndpoint, gameName, stray, hdecode⟩ := decode_of_terminated hlong hclosed
      rw [hdecode, hport, hflag]
      rfl

theorem exists_verdict (payload : Bytes) : ∃ v, Verdict payload v := by
  by_cases hlong : 10 ≤ payload.length
  case neg => exact ⟨_, .short (Nat.lt_of_not_le hlong)⟩
  by_cases hclosed : 0 ∈ payload.drop 9
  case neg => exact ⟨_, .unterminated hlong hclosed⟩
  by_cases hport : payload[0] ≤ 3
  case neg => exact ⟨_, .port hlong hclosed (UInt8.not_le.1 hport)⟩
  by_cases hflag : payload[2] ≤ 1
  case neg => exact ⟨_, .flag hlong hclosed hport (UInt8.not_le.1 hflag)⟩
  by_cases hallowed : payload[0] = 0 ∧ payload[2] = 0
  case pos => exact ⟨_, .disabled hlong hclosed hallowed.1 hallowed.2⟩
  -- Nothing is wrong with the payload, so it is read as a probe, and that is the one it spells.
  obtain ⟨localEndpoint, gameName, stray, hdecode⟩ := decode_of_terminated hlong hclosed
  obtain ⟨r, hr⟩ := exists_ofValues payload[1] localEndpoint gameName stray hport hflag hallowed
  obtain ⟨name, after, hspells⟩ := decode_eq_ok_iff.1 (hdecode.trans hr)
  exact ⟨_, hspells.verdict⟩

theorem verdict_of_decode {payload : Bytes} {v : Except Failure InitRequest}
    (h : decode payload = v) : Verdict payload v := by
  obtain ⟨w, hw⟩ := exists_verdict payload
  rw [← h, decode_of_verdict hw]
  exact hw

/-- Decoding gives the verdict on a payload and no other. Of the fields of a payload that is long
enough, those before the name can always be read, each at its own offset. -/
theorem decode_gives_the_verdict (payload : Bytes) :
    (∀ v, decode payload = v ↔ Verdict payload v) ∧
      ∀ hlong : 10 ≤ payload.length,
        (Read.performAll (.start payload)
            [.field .byte, .field .byte, .field .byte, .field .quad, .field .word16]) = some
          [(.value (.byte payload[0]), ⟨payload, 1⟩), (.value (.byte payload[1]), ⟨payload, 2⟩),
            (.value (.byte payload[2]), ⟨payload, 3⟩),
            (.value (.quad ⟨payload[3], payload[4], payload[5], payload[6]⟩), ⟨payload, 7⟩),
            (.value (.word16 (Wire.decode16 payload[7] payload[8])), ⟨payload, 9⟩)] := by
  refine ⟨fun v => ⟨verdict_of_decode, decode_of_verdict⟩, fun hlong => ?_⟩
  obtain ⟨b0, b1, b2, b3, b4, b5, b6, b7, b8, rest, -, rfl⟩ := exists_cons_of_long hlong
  rfl

/-- A payload with all faults but those of its length and its terminator is refused for its port
type. One with zeros among its fixed bytes and with stray ones is a probe. -/
theorem decode_gives_the_verdict_on_faults :
    let faulty : Bytes := [9, 0, 7, 0, 0, 0, 0, 0, 0, 0]
    let sound : Bytes := [3, 0, 0, 10, 0, 0, 9, 0, 80, 0x6D, 0x70, 0, 1, 0]
    Verdict (faulty.take 9) (.error (.packetTooShort 10 9)) ∧
      Verdict (faulty.take 9 ++ [1, 2]) (.error (.badString .unterminated)) ∧
      Verdict faulty (.error (.invalidPortType 9)) ∧
      Verdict sound (.ok ⟨.probe3, 0, false, ⟨⟨10, 0, 0, 9⟩, 80⟩, "mp", 2⟩) ∧
      Read.performAll (.start faulty)
          [.field .byte, .field .byte, .field .byte, .field .quad, .field .word16] = some
        [(.value (.byte 9), ⟨faulty, 1⟩), (.value (.byte 0), ⟨faulty, 2⟩),
          (.value (.byte 7), ⟨faulty, 3⟩), (.value (.quad ⟨0, 0, 0, 0⟩), ⟨faulty, 7⟩),
          (.value (.word16 0), ⟨faulty, 9⟩)] := by
  intro faulty sound
  exact ⟨((decode_gives_the_verdict _).1 _).1 rfl, ((decode_gives_the_verdict _).1 _).1 rfl,
    ((decode_gives_the_verdict _).1 _).1 rfl, ((decode_gives_the_verdict _).1 _).1 rfl,
    (decode_gives_the_verdict faulty).2 (by decide)⟩

end InitRequest

end Rendezvous
