import Rendezvous.Packet.Init
import Rendezvous.Proofs.Text.LossyUtf8

/-!
How probes are written and read. A payload is read as a probe exactly when it consists of the nine
fixed bytes of the probe, bytes that are read as its name, a zero byte, and as many bytes as the
probe has stray ones. So a probe that is written is read back without stray bytes, and a payload
that was read is read again as the same probe when the probe is written; where the name was UTF-8,
nothing but the stray bytes is lost.
-/
namespace Rendezvous.InitRequest

open Wire (Bytes Cursor)

/-! ### Reading field by field -/

/-- What the values in a payload amount to. -/
def ofValues (portCode index flag : UInt8) (localEndpoint : Endpoint) (gameName : String)
    (stray : Nat) : Except Failure InitRequest := do
  let some port := PortType.ofCode? portCode | throw (.invalidPortType portCode)
  let some useGamePort := flag? flag | throw (.invalidUseGamePort flag)
  if !useGamePort && port = .gamePort then throw .gamePortDisabled
  return ⟨port, index, useGamePort, localEndpoint, gameName, stray⟩

theorem decode_of_short {payload : Bytes} (h : payload.length < minimum) :
    decode payload = .error (.packetTooShort minimum payload.length) := by
  rw [decode, if_pos h]
  rfl

/-- The fixed bytes of a payload that is long enough can always be read. -/
theorem decode_cons (portCode index flag w x y z high low : UInt8) {rest : Bytes}
    (h : rest ≠ []) :
    decode (portCode :: index :: flag :: w :: x :: y :: z :: high :: low :: rest) =
      match Text.readNulTerminated rest with
      | .error cause => .error (.badString cause)
      | .ok (gameName, width) =>
        ofValues portCode index flag ⟨⟨w, x, y, z⟩, Wire.decode16 high low⟩ gameName
          (rest.length - width) := by
  have hlong : ¬(portCode :: index :: flag :: w :: x :: y :: z :: high :: low :: rest).length <
      minimum := by
    have := List.length_pos_iff.2 h
    simp only [List.length_cons, minimum]
    omega
  rw [decode, if_neg hlong]
  simp only [Cursor.byte, Cursor.quad, Cursor.word16, Cursor.text, Cursor.rest_advance,
    Cursor.rest_start, List.drop_succ_cons, List.drop_zero, bind, Except.bind, pure, Except.pure]
  cases Text.readNulTerminated rest with
  | error cause => rfl
  | ok field =>
    obtain ⟨gameName, width⟩ := field
    have hstray : (rest.length + 9) - (9 + width) = rest.length - width := by omega
    simp only [Cursor.start, Cursor.advance, Cursor.remaining, List.length_cons, Nat.reduceAdd,
      hstray]
    rfl

/-- A payload that is long enough has its nine fixed bytes and something after them. -/
theorem exists_cons_of_long {payload : Bytes} (h : minimum ≤ payload.length) :
    ∃ portCode index flag w x y z high low rest, rest ≠ [] ∧
      payload = portCode :: index :: flag :: w :: x :: y :: z :: high :: low :: rest := by
  match payload, h with
  | portCode :: index :: flag :: w :: x :: y :: z :: high :: low :: next :: rest, _ =>
    exact ⟨portCode, index, flag, w, x, y, z, high, low, next :: rest, List.cons_ne_nil _ _, rfl⟩

/-! ### How a probe stands in a payload -/

def flagCode (r : InitRequest) : UInt8 :=
  if r.useGamePort then 1 else 0

/-- The nine bytes before the name. -/
def fixedPart (r : InitRequest) : Bytes :=
  [r.port.code, r.index, r.flagCode] ++ r.localEndpoint.ip.octets ++
    Wire.encode16 r.localEndpoint.port

@[simp] theorem length_fixedPart (r : InitRequest) : r.fixedPart.length = 9 := rfl

/-- A probe from the game port says that the game port is used. -/
def Consistent (r : InitRequest) : Prop :=
  r.port = .gamePort → r.useGamePort = true

/-- The parts of a payload and the probe that they make up. -/
structure Spells (payload name after : Bytes) (r : InitRequest) : Prop where
  layout : payload = r.fixedPart ++ (name ++ 0 :: after)
  unbroken : 0 ∉ name
  gameName : r.gameName = Text.LossyUtf8.text name
  stray : r.stray = after.length
  consistent : r.Consistent

theorem ofValues_of_consistent {r : InitRequest} (h : r.Consistent) :
    ofValues r.port.code r.index r.flagCode r.localEndpoint r.gameName r.stray = .ok r := by
  obtain ⟨port, index, useGamePort, localEndpoint, gameName, stray⟩ := r
  cases useGamePort with
  | true => simp [ofValues, flagCode, flag?, pure, Except.pure]
  | false =>
    have hport : port ≠ .gamePort := fun heq => Bool.false_ne_true (h heq)
    simp [ofValues, flagCode, flag?, hport, pure, Except.pure]

theorem eq_code_of_flag {code : UInt8} {flag : Bool} (h : flag? code = some flag) :
    code = if flag then 1 else 0 := by
  unfold flag? at h
  split at h
  · obtain rfl := Option.some.inj h; rfl
  · obtain rfl := Option.some.inj h; rfl
  · cases h

/-- Values amount to a probe only when they are its own. -/
theorem eq_of_ofValues {portCode index flag : UInt8} {localEndpoint : Endpoint}
    {gameName : String} {stray : Nat} {r : InitRequest}
    (h : ofValues portCode index flag localEndpoint gameName stray = .ok r) :
    portCode = r.port.code ∧ index = r.index ∧ flag = r.flagCode ∧
      localEndpoint = r.localEndpoint ∧ gameName = r.gameName ∧ stray = r.stray ∧
      r.Consistent := by
  unfold ofValues at h
  cases hport : PortType.ofCode? portCode with
  | none => simp [hport] at h
  | some port =>
    cases hflag : flag? flag with
    | none => simp [hport, hflag] at h
    | some useGamePort =>
      simp only [hport, hflag, pure, Except.pure, bind, Except.bind] at h
      split at h
      · cases h
      · next hallowed =>
        obtain rfl := Except.ok.inj h
        refine ⟨PortType.eq_code_of_ofCode? hport, rfl, eq_code_of_flag hflag, rfl, rfl, rfl, ?_⟩
        rintro (rfl : port = .gamePort)
        simpa using hallowed

/-- A payload is read as a probe exactly when its parts make up that probe. -/
theorem decode_eq_ok_iff {payload : Bytes} {r : InitRequest} :
    decode payload = .ok r ↔ ∃ name after, Spells payload name after r := by
  constructor
  · intro h
    by_cases hlong : minimum ≤ payload.length
    · obtain ⟨portCode, index, flag, w, x, y, z, high, low, rest, hrest, rfl⟩ :=
        exists_cons_of_long hlong
      rw [decode_cons _ _ _ _ _ _ _ _ _ hrest] at h
      unfold Text.readNulTerminated at h
      cases hsplit : Text.splitAtNul rest with
      | none => simp [hsplit] at h
      | some parts =>
        obtain ⟨name, after⟩ := parts
        simp only [hsplit] at h
        obtain ⟨hlayout, hunbroken⟩ := Text.splitAtNul_eq_some hsplit
        obtain ⟨hport, hindex, hflag, hendpoint, hname, hstray, hconsistent⟩ := eq_of_ofValues h
        refine ⟨name, after, ?_, hunbroken, hname.symm, ?_, hconsistent⟩
        · rw [fixedPart, ← hport, ← hindex, ← hflag, ← hendpoint, Wire.encode16_decode16, hlayout]
          rfl
        · rw [← hstray, hlayout, List.length_append, List.length_cons]
          omega
    · rw [decode_of_short (Nat.lt_of_not_le hlong)] at h
      cases h
  · rintro ⟨name, after, hlayout, hunbroken, hname, hstray, hconsistent⟩
    have hcons : payload = r.port.code :: r.index :: r.flagCode :: r.localEndpoint.ip.a ::
        r.localEndpoint.ip.b :: r.localEndpoint.ip.c :: r.localEndpoint.ip.d ::
        UInt8.ofNat (r.localEndpoint.port.toNat / 256) ::
        UInt8.ofNat r.localEndpoint.port.toNat :: (name ++ 0 :: after) := hlayout
    have hwidth : (name ++ 0 :: after).length - (name.length + 1) = r.stray := by
      rw [hstray, List.length_append, List.length_cons]
      omega
    rw [hcons, decode_cons _ _ _ _ _ _ _ _ _ (by simp), Text.readNulTerminated,
      Text.splitAtNul_append hunbroken]
    dsimp only
    rw [hwidth, Wire.decode16_encode16, ← hname]
    exact ofValues_of_consistent hconsistent

/-- The name of a payload ends at the first zero byte after the fixed bytes. -/
theorem Spells.takeWhile_eq {payload name after : Bytes} {r : InitRequest}
    (h : Spells payload name after r) : (payload.drop 9).takeWhile (· ≠ 0) = name := by
  have hname : ∀ b ∈ name, decide (b ≠ 0) = true := fun b hb =>
    decide_eq_true fun heq => h.unbroken (heq ▸ hb)
  rw [h.layout, ← r.length_fixedPart, List.drop_left, List.takeWhile_append_of_pos hname]
  simp

/-! ### Writing -/

theorem encode_eq (r : InitRequest) (version : UInt8) (cookie : UInt32) :
    r.encode version cookie = (Header.forCommand version .initRequest cookie).encode ++
      (r.fixedPart ++ (Text.LossyUtf8.encode r.gameName ++ [0])) := by
  simp [encode, fields, Field.encodeAll, Field.encode, fixedPart, flagCode]

/-- A probe that is consistent and names its game without a NUL is written in parts that make it
up, but for its stray bytes. -/
theorem spells_written {r : InitRequest} (hname : '\x00' ∉ r.gameName.toList)
    (hconsistent : r.Consistent) :
    Spells (r.fixedPart ++ (Text.LossyUtf8.encode r.gameName ++ [0]))
      (Text.LossyUtf8.encode r.gameName) [] { r with stray := 0 } where
  layout := rfl
  unbroken := Text.LossyUtf8.zero_not_mem_encode hname
  gameName := (Text.LossyUtf8.text_encode r.gameName).symm
  stray := rfl
  consistent := hconsistent

/-- The name of a payload has been read without a NUL, so the probe can be written. -/
theorem Spells.nul_not_mem {payload name after : Bytes} {r : InitRequest}
    (h : Spells payload name after r) : '\x00' ∉ r.gameName.toList := by
  rw [h.gameName]
  exact Text.LossyUtf8.nul_not_mem_text h.unbroken

/-- Where the name was UTF-8, the payload is written as it was, up to its stray bytes. -/
theorem Spells.written_eq {payload name after : Bytes} {r : InitRequest}
    (h : Spells payload name after r) (hutf8 : name.toByteArray.IsValidUTF8) :
    r.fixedPart ++ (Text.LossyUtf8.encode r.gameName ++ [0]) =
      payload.take (payload.length - r.stray) := by
  rw [h.gameName, Text.LossyUtf8.encode_text_eq_iff.2 hutf8]
  have hparts : payload = (r.fixedPart ++ (name ++ [0])) ++ after := by
    rw [h.layout]
    simp
  have hlength : payload.length - r.stray = (r.fixedPart ++ (name ++ [0])).length := by
    rw [hparts, h.stray, List.length_append]
    omega
  rw [hlength, hparts, List.take_left]

/-- Writing and reading a probe agree. A probe that names its game without a NUL, and does not deny
the game port that it comes from, is written under the header of its command, and read back without
stray bytes. Whatever payload was read as a probe, that probe is read back as well; and where the
name in the payload was UTF-8, what is written is the payload without its stray bytes. -/
theorem probe_survives_the_wire :
    (∀ (r : InitRequest) (version : UInt8) (cookie : UInt32), '\x00' ∉ r.gameName.toList →
      ¬(r.port = .gamePort ∧ r.useGamePort = false) →
      ∃ payload, Header.decode (r.encode version cookie) =
          .ok (.forCommand version .initRequest cookie, payload) ∧
        decode payload = .ok { r with stray := 0 }) ∧
    ∀ (payload : Bytes) (r : InitRequest), decode payload = .ok r →
      ∀ (version : UInt8) (cookie : UInt32),
        ∃ again, Header.decode (r.encode version cookie) =
            .ok (.forCommand version .initRequest cookie, again) ∧
          decode again = .ok { r with stray := 0 } ∧
          (((payload.drop 9).takeWhile (· ≠ 0)).toByteArray.IsValidUTF8 →
            again = payload.take (payload.length - r.stray)) := by
  have hheader (r : InitRequest) (version : UInt8) (cookie : UInt32) :
      Header.decode (r.encode version cookie) = .ok (.forCommand version .initRequest cookie,
        r.fixedPart ++ (Text.LossyUtf8.encode r.gameName ++ [0])) := by
    rw [encode_eq]
    exact Header.decode_encode_append rfl _
  constructor
  · intro r version cookie hname hport
    have hconsistent : r.Consistent := fun heq => by
      simpa [heq] using hport
    exact ⟨_, hheader r version cookie, decode_eq_ok_iff.2 ⟨_, _, spells_written hname hconsistent⟩⟩
  · intro payload r hdecode version cookie
    obtain ⟨name, after, hspells⟩ := decode_eq_ok_iff.1 hdecode
    have hwritten := spells_written hspells.nul_not_mem hspells.consistent
    refine ⟨_, hheader r version cookie, decode_eq_ok_iff.2 ⟨_, _, hwritten⟩, fun hutf8 => ?_⟩
    rw [hspells.takeWhile_eq] at hutf8
    exact hspells.written_eq hutf8

/-- The probe of a game with an accent in its name is written and read. A payload with that name
and two stray bytes is written without them; one whose name breaks off in the middle of a character
is written with a replacement, and the probe is the same. -/
theorem probe_survives_the_wire_of_accent :
    let r : InitRequest := ⟨.gamePort, 2, true, ⟨⟨192, 168, 0, 5⟩, 27933⟩, "é", 2⟩
    let start : Bytes := [0, 2, 1, 192, 168, 0, 5, 0x6D, 0x1D]
    let accent : Bytes := start ++ [0xC3, 0xA9, 0, 1, 2]
    let broken : Bytes := start ++ [0xC3, 0, 1, 2]
    let replaced : InitRequest := { r with gameName := "\uFFFD" }
    (∃ payload, Header.decode (r.encode 3 7) = .ok (.forCommand 3 .initRequest 7, payload) ∧
        decode payload = .ok { r with stray := 0 }) ∧
      decode accent = .ok r ∧
      Header.decode (r.encode 3 7) =
        .ok (.forCommand 3 .initRequest 7, start ++ [0xC3, 0xA9, 0]) ∧
      decode broken = .ok replaced ∧
      ∃ again, Header.decode (replaced.encode 3 7) =
          .ok (.forCommand 3 .initRequest 7, again) ∧
        decode again = .ok { replaced with stray := 0 } := by
  intro r start accent broken replaced
  have haccent : decode accent = .ok r := rfl
  have hbroken : decode broken = .ok replaced := rfl
  have hutf8 : ((accent.drop 9).takeWhile (· ≠ 0)).toByteArray.IsValidUTF8 := ⟨['é'], by decide⟩
  obtain ⟨payload, hpayload⟩ := probe_survives_the_wire.1 r 3 7 (by decide) (by decide)
  obtain ⟨again, hheader, -, hsame⟩ := probe_survives_the_wire.2 accent r haccent 3 7
  obtain ⟨other, hother, hread, -⟩ := probe_survives_the_wire.2 broken replaced hbroken 3 7
  have hagain : again = start ++ [0xC3, 0xA9, 0] := hsame hutf8
  exact ⟨⟨payload, hpayload⟩, haccent, hagain ▸ hheader, hbroken, other, hother, hread⟩

end Rendezvous.InitRequest
