import Rendezvous.Packet.Reading

/-!
The law of the cursor. What a read gives is settled by the bytes that are left: when they are
enough, it gives the field that the next of them are and goes past them; when they are not, it says
what is missing and stays where it is. No sequence of reads, with any number of failures in between,
leads away from this law, or out of the buffer. There is one gap. A skip adds its count to the
position before it looks at the buffer; where the sum is beyond the machine words, the reader halts,
although the law would have the skip fail. Up to the first such skip every read is lawful, but the
sequence has no outcome.
-/
namespace Rendezvous

open Wire (Bytes Cursor)

/-- The number that bytes are, the most significant byte first. -/
def Wire.bigEndian (bytes : Bytes) : Nat :=
  bytes.foldl (fun n b => 256 * n + b.toNat) 0

/-! ### The law -/

/-- What bytes are, as a field. -/
inductive Field.Stands : Bytes → Field → Prop
  | byte (b : UInt8) : Stands [b] (.byte b)
  | word16 {digits : Bytes} {n : UInt16} (hwidth : digits.length = 2)
    (hvalue : n.toNat = Wire.bigEndian digits) : Stands digits (.word16 n)
  | quad (ip : Ipv4) : Stands [ip.a, ip.b, ip.c, ip.d] (.quad ip)
  | nine (bytes : Vector UInt8 9) : Stands bytes.toList (.nine bytes)
  | header {h : Header} {digits : Bytes} (hwidth : digits.length = 4)
    (hcookie : h.cookie.toNat = Wire.bigEndian digits) :
    Stands (h.magic.toList ++ h.version :: h.code :: digits) (.header h)
  | text {name : Bytes} (hunbroken : 0 ∉ name) :
    Stands (name ++ [0]) (.text (Text.LossyUtf8.text name))

namespace Read

/-- The bytes that a read asks for. A text has as many as there are up to its terminator. -/
def width? : Read → Option Nat
  | field .byte => some 1
  | field .word16 => some 2
  | field .quad => some 4
  | field .nine => some 9
  | field .header => some 12
  | field .text => none
  | skip count => some count.toNat

/-- What a read gives, and where it leaves the cursor. -/
inductive Law (c : Cursor) : Read → Reading → Cursor → Prop
  | value {kind : FieldKind} {value : Field} {n : Nat} (hkind : value.kind = kind)
    (henough : n ≤ c.remaining) (hstands : Field.Stands (c.rest.take n) value) :
    Law c (field kind) (.value value) (c.advance n)
  | skipped {count : UInt64} (henough : count.toNat ≤ c.remaining) :
    Law c (skip count) .skipped (c.advance count.toNat)
  | tooShort {read : Read} {n : Nat} (hwidth : read.width? = some n) (hshort : c.remaining < n) :
    Law c read (.failed (.packetTooShort (c.position + n) c.buffer.length)) c
  | unterminated (hnone : 0 ∉ c.rest) :
    Law c (field .text) (.failed (.badString .unterminated)) c

/-- Every read of a sequence is lawful, where the one before it has left the cursor. -/
inductive Lawful : Cursor → List Read → List (Reading × Cursor) → Prop
  | done (c : Cursor) : Lawful c [] []
  | next {c after : Cursor} {read : Read} {reading : Reading} {rest : List Read}
    {outcomes : List (Reading × Cursor)} (hread : Law c read reading after)
    (hrest : Lawful after rest outcomes) : Lawful c (read :: rest) ((reading, after) :: outcomes)

/-- The end of a skip is beyond the machine words. -/
def Overflows (c : Cursor) : Read → Prop
  | field _ => False
  | skip count => UInt64.size ≤ c.position + count.toNat

instance (c : Cursor) : DecidablePred (Overflows c)
  | field _ => inferInstanceAs (Decidable False)
  | skip _ => inferInstanceAs (Decidable (_ ≤ _))

/-- Every skip of a sequence ends within the machine words. -/
def Fits (c : Cursor) : List Read → Prop
  | [] => True
  | read :: rest => ¬Overflows c read ∧ ∀ outcome ∈ read.perform c, Fits outcome.2 rest

instance Fits.decidable (c : Cursor) : (reads : List Read) → Decidable (Fits c reads)
  | [] => .isTrue trivial
  | _ :: rest =>
    have (outcome : Reading × Cursor) := Fits.decidable outcome.2 rest
    inferInstanceAs (Decidable (_ ∧ _))

/-- There is a skip whose end is beyond the machine words. The reads before it have a lawful outcome
by themselves, and leave the cursor where that skip overflows. -/
def BreaksOff (c : Cursor) (reads : List Read) : Prop :=
  ∃ before skip later outcomes, reads = before ++ skip :: later ∧
    performAll c before = some outcomes ∧ Lawful c before outcomes ∧
    Overflows ((outcomes.map (·.2)).getLastD c) skip

end Read

/-! ### Numbers -/

theorem Wire.toNat_decode16_eq (high low : UInt8) :
    (decode16 high low).toNat = bigEndian [high, low] := by
  simp [bigEndian]

theorem Wire.toNat_decode32_eq (a b c d : UInt8) :
    (decode32 a b c d).toNat = bigEndian [a, b, c, d] := by
  have ha := a.toNat_lt
  have hb := b.toNat_lt
  have hc := c.toNat_lt
  have hd := d.toNat_lt
  simp only [decode32, UInt32.toNat_ofNat', bigEndian, List.foldl_cons, List.foldl_nil]
  omega

/-! ### Reading one field -/

namespace FieldKind

variable {kind : FieldKind} {c : Cursor} {n : Nat}

/-- A read of fixed width that finds too few bytes says where it would have ended. -/
theorem read_of_short (hwidth : (Read.field kind).width? = some n) (hshort : c.remaining < n) :
    kind.read c = .error (c.short n) := by
  rw [← Cursor.length_rest] at hshort
  cases kind
  case text => cases hwidth
  all_goals
    obtain rfl := Option.some.inj hwidth
    simp only [read, Cursor.byte, Cursor.word16, Cursor.quad, Cursor.nine, Header.read]
    split
    · next hrest =>
      rw [hrest] at hshort
      simp only [List.length_cons] at hshort
      omega
    · rfl

/-- A read of fixed width that finds enough bytes gives the field that they are. -/
theorem read_of_enough (hwidth : (Read.field kind).width? = some n) (henough : n ≤ c.remaining) :
    ∃ value, kind.read c = .ok (value, c.advance n) ∧ value.kind = kind ∧
      Field.Stands (c.rest.take n) value := by
  rw [← Cursor.length_rest] at henough
  cases kind with
  | byte =>
    obtain rfl := Option.some.inj hwidth
    match hrest : c.rest, henough with
    | b :: _, _ =>
      exact ⟨_, by rw [read, Cursor.byte, hrest]; rfl, rfl, .byte b⟩
  | word16 =>
    obtain rfl := Option.some.inj hwidth
    match hrest : c.rest, henough with
    | high :: low :: _, _ =>
      exact ⟨_, by rw [read, Cursor.word16, hrest]; rfl, rfl,
        .word16 rfl (Wire.toNat_decode16_eq high low)⟩
  | quad =>
    obtain rfl := Option.some.inj hwidth
    match hrest : c.rest, henough with
    | w :: x :: y :: z :: _, _ =>
      exact ⟨_, by rw [read, Cursor.quad, hrest]; rfl, rfl, .quad ⟨w, x, y, z⟩⟩
  | nine =>
    obtain rfl := Option.some.inj hwidth
    match hrest : c.rest, henough with
    | b0 :: b1 :: b2 :: b3 :: b4 :: b5 :: b6 :: b7 :: b8 :: _, _ =>
      exact ⟨_, by rw [read, Cursor.nine, hrest]; rfl, rfl,
        .nine #v[b0, b1, b2, b3, b4, b5, b6, b7, b8]⟩
  | header =>
    obtain rfl := Option.some.inj hwidth
    match hrest : c.rest, henough with
    | m0 :: m1 :: m2 :: m3 :: m4 :: m5 :: version :: code :: k0 :: k1 :: k2 :: k3 :: _, _ =>
      let header : Header :=
        ⟨#v[m0, m1, m2, m3, m4, m5], version, code, Wire.decode32 k0 k1 k2 k3⟩
      have hstands : Field.Stands (header.magic.toList ++ version :: code :: [k0, k1, k2, k3])
          (.header header) := .header rfl (Wire.toNat_decode32_eq k0 k1 k2 k3)
      exact ⟨.header header, by rw [read, Header.read, hrest]; rfl, rfl, hstands⟩
  | text => cases hwidth

end FieldKind

theorem Wire.Cursor.text_of_unterminated {c : Cursor} (h : 0 ∉ c.rest) :
    c.text = .error (.badString .unterminated) := by
  rw [text, Text.readNulTerminated, Text.splitAtNul_eq_none.2 h]

/-- A text is what stands before the first zero byte, and the cursor goes past that byte. -/
theorem Wire.Cursor.text_of_terminated {c : Cursor} {name after : Bytes} (hunbroken : 0 ∉ name)
    (hrest : c.rest = name ++ 0 :: after) :
    c.text = .ok (Text.LossyUtf8.text name, c.advance (name.length + 1)) := by
  rw [text, Text.readNulTerminated, hrest, Text.splitAtNul_append hunbroken]

/-! ### One read -/

namespace Read

variable {c after : Cursor} {read : Read} {reading : Reading} {n : Nat}

/-- A cursor that has not left its buffer. -/
def Within (c : Cursor) : Prop :=
  c.position ≤ c.buffer.length

theorem law_field (c : Cursor) (kind : FieldKind) :
    ∃ reading after, (field kind).perform c = some (reading, after) ∧
      Law c (field kind) reading after := by
  cases hwidth : (field kind).width? with
  | some n =>
    by_cases henough : n ≤ c.remaining
    · obtain ⟨value, hread, hkind, hstands⟩ := kind.read_of_enough hwidth henough
      refine ⟨.value value, c.advance n, ?_, .value hkind henough hstands⟩
      rw [perform, hread]
    · have hshort : c.remaining < n := Nat.lt_of_not_le henough
      refine ⟨.failed (c.short n), c, ?_, .tooShort hwidth hshort⟩
      rw [perform, kind.read_of_short hwidth hshort]
  | none =>
    cases kind
    case text =>
      cases hsplit : Text.splitAtNul c.rest with
      | none =>
        have hnone : 0 ∉ c.rest := Text.splitAtNul_eq_none.1 hsplit
        refine ⟨.failed (.badString .unterminated), c, ?_, .unterminated hnone⟩
        rw [perform, FieldKind.read, Cursor.text_of_unterminated hnone]
        rfl
      | some parts =>
        obtain ⟨name, after⟩ := parts
        obtain ⟨hrest, hunbroken⟩ := Text.splitAtNul_eq_some hsplit
        have htake : c.rest.take (name.length + 1) = name ++ [0] := by
          rw [hrest, List.append_cons]
          exact List.take_left' (by simp)
        have henough : name.length + 1 ≤ c.remaining := by
          rw [← Cursor.length_rest, hrest, List.length_append, List.length_cons]
          omega
        have hstands : Field.Stands (c.rest.take (name.length + 1))
            (.text (Text.LossyUtf8.text name)) := htake ▸ .text hunbroken
        refine ⟨_, c.advance (name.length + 1), ?_, .value rfl henough hstands⟩
        rw [perform, FieldKind.read, Cursor.text_of_terminated hunbroken hrest]
        rfl
    all_goals cases hwidth

theorem law_skip {count : UInt64} (hwithin : Within c) (hfits : ¬Overflows c (skip count)) :
    ∃ reading after, (skip count).perform c = some (reading, after) ∧
      Law c (skip count) reading after := by
  have hword : c.position + count.toNat < UInt64.size :=
    Nat.lt_of_not_le hfits
  unfold Within at hwithin
  rw [perform, Cursor.skip, if_pos hword, Cursor.take]
  by_cases henough : count.toNat ≤ c.remaining
  · have hend : ¬c.buffer.length < c.position + count.toNat := by
      rw [Cursor.remaining] at henough
      omega
    rw [if_neg hend]
    exact ⟨_, _, rfl, .skipped henough⟩
  · have hend : c.buffer.length < c.position + count.toNat := by
      rw [Cursor.remaining] at henough
      omega
    rw [if_pos hend]
    exact ⟨_, _, rfl, .tooShort rfl (Nat.lt_of_not_le henough)⟩

/-- A read is lawful, unless it is a skip whose end is no machine word. -/
theorem law_perform (hwithin : Within c) (hfits : ¬Overflows c read) :
    ∃ reading after, read.perform c = some (reading, after) ∧ Law c read reading after := by
  cases read with
  | field kind => exact law_field c kind
  | skip count => exact law_skip hwithin hfits

theorem perform_of_overflows (h : Overflows c read) : read.perform c = none := by
  cases read with
  | field kind => exact h.elim
  | skip count => rw [perform, Cursor.skip, if_neg (Nat.not_lt.2 h)]

/-- A lawful read stays in its buffer. -/
theorem Law.within (h : Law c read reading after) (hwithin : Within c) :
    after.buffer = c.buffer ∧ Within after := by
  have hadvance {n : Nat} (henough : n ≤ c.remaining) : Within (c.advance n) := by
    unfold Within at hwithin ⊢
    rw [Cursor.remaining] at henough
    show c.position + n ≤ c.buffer.length
    omega
  cases h with
  | value _ henough _ => exact ⟨rfl, hadvance henough⟩
  | skipped henough => exact ⟨rfl, hadvance henough⟩
  | tooShort _ _ => exact ⟨rfl, hwithin⟩
  | unterminated _ => exact ⟨rfl, hwithin⟩

end Read

/-! ### The law leaves no choice -/

theorem Field.Stands.length_eq {bytes : Bytes} {value : Field} {n : Nat}
    (h : Field.Stands bytes value) (hwidth : (Read.field value.kind).width? = some n) :
    bytes.length = n := by
  cases h with
  | byte b => exact Option.some.inj hwidth
  | word16 hlength _ => exact hlength.trans (Option.some.inj hwidth)
  | quad ip => exact Option.some.inj hwidth
  | nine bytes => exact bytes.length_toList.trans (Option.some.inj hwidth)
  | header hlength _ =>
    rw [List.length_append, Vector.length_toList, List.length_cons, List.length_cons, hlength]
    exact Option.some.inj hwidth
  | text _ => cases hwidth

/-- Bytes begin with one field of a kind at most. -/
theorem Field.Stands.eq_of_append {bytes others after later : Bytes} {value other : Field}
    (h : Field.Stands bytes value) (h' : Field.Stands others other)
    (hkind : value.kind = other.kind) (heq : bytes ++ after = others ++ later) :
    bytes = others ∧ value = other := by
  -- Two fields of one width are made of the same bytes.
  have hbytes {n : Nat} (hwidth : (Read.field value.kind).width? = some n) : bytes = others := by
    refine (List.append_inj heq ?_).1
    rw [h.length_eq hwidth, h'.length_eq (hkind ▸ hwidth)]
  cases h with
  | byte b =>
    have hsame := hbytes rfl
    cases h' with
    | byte b' =>
      obtain rfl := List.singleton_inj.1 hsame
      exact ⟨rfl, rfl⟩
    | _ => cases hkind
  | word16 _ hvalue =>
    have hsame := hbytes rfl
    cases h' with
    | word16 _ hvalue' =>
      subst hsame
      obtain rfl := UInt16.toNat_inj.1 (hvalue.trans hvalue'.symm)
      exact ⟨rfl, rfl⟩
    | _ => cases hkind
  | quad ip =>
    have hsame := hbytes rfl
    cases h' with
    | quad ip' =>
      obtain ⟨a, b, c, d⟩ := ip
      obtain ⟨a', b', c', d'⟩ := ip'
      simpa using hsame
    | _ => cases hkind
  | nine v =>
    have hsame := hbytes rfl
    cases h' with
    | nine v' =>
      obtain rfl := Vector.toList_inj.1 hsame
      exact ⟨rfl, rfl⟩
    | _ => cases hkind
  | @header head digits hlength hcookie =>
    have hsame := hbytes rfl
    cases h' with
    | @header head' digits' hlength' hcookie' =>
      obtain ⟨hmagic, hrest⟩ := List.append_inj hsame (by simp)
      simp only [List.cons.injEq] at hrest
      obtain ⟨hversion, hcode, rfl⟩ := hrest
      refine ⟨hsame, ?_⟩
      obtain ⟨magic, version, code, cookie⟩ := head
      obtain ⟨magic', version', code', cookie'⟩ := head'
      obtain rfl := Vector.toList_inj.1 hmagic
      obtain rfl := UInt32.toNat_inj.1 (hcookie.trans hcookie'.symm)
      subst hversion hcode
      rfl
    | _ => cases hkind
  | @text name hunbroken =>
    cases h' with
    | @text name' hunbroken' =>
      -- A text has no width; its terminator says where it ends.
      have hsplit := Text.splitAtNul_append hunbroken after
      have hsplit' := Text.splitAtNul_append hunbroken' later
      have hrest : name ++ 0 :: after = name' ++ 0 :: later := by simpa using heq
      rw [hrest, hsplit'] at hsplit
      obtain rfl := (Prod.mk.inj (Option.some.inj hsplit)).1
      exact ⟨rfl, rfl⟩
    | _ => cases hkind

theorem Field.Stands.zero_mem {bytes : Bytes} {value : Field} (h : Field.Stands bytes value)
    (hkind : value.kind = .text) : 0 ∈ bytes := by
  cases h with
  | text _ => simp
  | _ => cases hkind

namespace Read

variable {c after later : Cursor} {read : Read} {reading other : Reading}

/-- A read has one lawful outcome. -/
theorem Law.unique (h : Law c read reading after) (h' : Law c read other later) :
    reading = other ∧ after = later := by
  have hlength {n : Nat} (henough : n ≤ c.remaining) : (c.rest.take n).length = n := by
    rw [List.length_take, Cursor.length_rest]
    omega
  cases h with
  | @value kind value n hkind henough hstands =>
    cases h' with
    | @value _ value' m hkind' henough' hstands' =>
      have heq : c.rest.take n ++ c.rest.drop n = c.rest.take m ++ c.rest.drop m := by
        rw [List.take_append_drop, List.take_append_drop]
      obtain ⟨htake, rfl⟩ := hstands.eq_of_append hstands' (hkind.trans hkind'.symm) heq
      have hwidth : n = m := by
        rw [← hlength henough, htake, hlength henough']
      exact ⟨rfl, congrArg c.advance hwidth⟩
    | @tooShort _ m hwidth hshort =>
      have hn : n = m := by
        rw [← hlength henough]
        exact hstands.length_eq (hkind ▸ hwidth)
      omega
    | unterminated hnone =>
      exact absurd (List.mem_of_mem_take (hstands.zero_mem hkind)) hnone
  | skipped henough =>
    cases h' with
    | skipped _ => exact ⟨rfl, rfl⟩
    | tooShort hwidth hshort =>
      have hcount := Option.some.inj hwidth
      omega
  | @tooShort _ n hwidth hshort =>
    cases h' with
    | @value kind value' m hkind henough hstands =>
      have hm : m = n := by
        rw [← hlength henough]
        exact hstands.length_eq (hkind ▸ hwidth)
      omega
    | skipped henough =>
      have hcount := Option.some.inj hwidth
      omega
    | tooShort hwidth' _ =>
      obtain rfl := Option.some.inj (hwidth.symm.trans hwidth')
      exact ⟨rfl, rfl⟩
    | unterminated _ => cases hwidth
  | unterminated hnone =>
    cases h' with
    | value hkind _ hstands =>
      exact absurd (List.mem_of_mem_take (hstands.zero_mem hkind)) hnone
    | tooShort hwidth _ => cases hwidth
    | unterminated _ => exact ⟨rfl, rfl⟩

/-- A field is read by the law. -/
theorem Law.perform_field {kind : FieldKind} (h : Law c (field kind) reading after) :
    (field kind).perform c = some (reading, after) := by
  obtain ⟨other, later, hperform, hlaw⟩ := law_field c kind
  obtain ⟨rfl, rfl⟩ := h.unique hlaw
  exact hperform

/-! ### Sequences of reads -/

variable {reads : List Read} {outcomes others : List (Reading × Cursor)}

theorem Lawful.unique (h : Lawful c reads outcomes) (h' : Lawful c reads others) :
    outcomes = others := by
  induction h generalizing others with
  | done c =>
    cases h'
    rfl
  | next hread _ ih =>
    cases h' with
    | next hread' hrest' =>
      obtain ⟨rfl, rfl⟩ := hread.unique hread'
      rw [ih hrest']

/-- No lawful read changes the buffer or leaves it. -/
theorem Lawful.within (h : Lawful c reads outcomes) (hwithin : Within c) :
    ∀ o ∈ outcomes, o.2.buffer = c.buffer ∧ Within o.2 := by
  induction h with
  | done c => exact fun _ ho => absurd ho List.not_mem_nil
  | next hread _ ih =>
    obtain ⟨hbuffer, hafter⟩ := hread.within hwithin
    refine List.forall_mem_cons.2 ⟨⟨hbuffer, hafter⟩, fun o ho => ?_⟩
    obtain ⟨hsame, hlater⟩ := ih hafter o ho
    exact ⟨hsame.trans hbuffer, hlater⟩

theorem performAll_cons (hperform : read.perform c = some (reading, after)) (rest : List Read) :
    performAll c (read :: rest) = (performAll after rest).map ((reading, after) :: ·) := by
  rw [performAll, hperform]

/-- Fields alone never halt the reader. -/
theorem exists_performAll_fields (c : Cursor) (kinds : List FieldKind) :
    ∃ outcomes, performAll c (kinds.map field) = some outcomes := by
  induction kinds generalizing c with
  | nil => exact ⟨[], rfl⟩
  | cons kind rest ih =>
    obtain ⟨reading, after, hperform, -⟩ := law_field c kind
    obtain ⟨outcomes, hrest⟩ := ih after
    refine ⟨(reading, after) :: outcomes, ?_⟩
    rw [List.map_cons, performAll_cons hperform, hrest]
    rfl

theorem lawful_of_fits (hwithin : Within c) (hfits : Fits c reads) :
    ∃ outcomes, performAll c reads = some outcomes ∧ Lawful c reads outcomes := by
  induction reads generalizing c with
  | nil => exact ⟨[], rfl, .done c⟩
  | cons read rest ih =>
    obtain ⟨hnow, hlater⟩ := hfits
    obtain ⟨reading, after, hperform, hread⟩ := law_perform hwithin hnow
    obtain ⟨outcomes, hrest, hlawful⟩ := ih (hread.within hwithin).2 (hlater _ hperform)
    refine ⟨(reading, after) :: outcomes, ?_, .next hread hlawful⟩
    rw [performAll_cons hperform, hrest]
    rfl

theorem breaksOff_of_not_fits (hwithin : Within c) (hfits : ¬Fits c reads) :
    performAll c reads = none ∧ BreaksOff c reads := by
  induction reads generalizing c with
  | nil => exact absurd trivial hfits
  | cons read rest ih =>
    by_cases hnow : Overflows c read
    · refine ⟨?_, [], read, rest, [], rfl, rfl, .done c, hnow⟩
      rw [performAll, perform_of_overflows hnow]
    · obtain ⟨reading, after, hperform, hread⟩ := law_perform hwithin hnow
      have hlater : ¬Fits after rest := by
        refine fun hrest => hfits ⟨hnow, fun outcome houtcome => ?_⟩
        rw [hperform] at houtcome
        obtain rfl := Option.some.inj houtcome
        exact hrest
      obtain ⟨hhalts, before, skip, later, outcomes, rfl, hbefore, hlawful, hover⟩ :=
        ih (hread.within hwithin).2 hlater
      refine ⟨?_, read :: before, skip, later, (reading, after) :: outcomes, rfl, ?_,
        .next hread hlawful, ?_⟩
      · rw [performAll_cons hperform, hhalts]
        rfl
      · rw [performAll_cons hperform, hbefore]
        rfl
      · rw [List.map_cons, List.getLastD_cons]
        exact hover

/-- From the start of any bytes, a sequence of reads has an outcome exactly when every skip ends
within the machine words. That outcome is lawful, and no other is. Otherwise the reader halts at the
first skip that ends beyond, and the reads before that skip are lawful. The cursor is never outside
the bytes; what it has left is all that stands behind its position. -/
theorem reads_are_lawful_iff_fits (buffer : Bytes) (reads : List Read) :
    let start := Cursor.start buffer
    ((∃ outcomes, performAll start reads = some outcomes ∧ Lawful start reads outcomes) ↔
        Fits start reads) ∧
      (¬Fits start reads → performAll start reads = none ∧ BreaksOff start reads) ∧
      ∀ outcomes, performAll start reads = some outcomes →
        (∀ others, Lawful start reads others ↔ others = outcomes) ∧
        ∀ c ∈ start :: outcomes.map (·.2), c.buffer = buffer ∧ c.position ≤ buffer.length ∧
          c.rest = buffer.drop c.position ∧ c.remaining = buffer.length - c.position := by
  intro start
  have hwithin : Within start := Nat.zero_le _
  have hgoes {outcomes} (houtcomes : performAll start reads = some outcomes) :
      Fits start reads := by
    refine Decidable.byContradiction fun hfits => ?_
    rw [(breaksOff_of_not_fits hwithin hfits).1] at houtcomes
    cases houtcomes
  refine ⟨⟨?_, lawful_of_fits hwithin⟩, breaksOff_of_not_fits hwithin, fun outcomes houtcomes => ?_⟩
  · rintro ⟨outcomes, houtcomes, -⟩
    exact hgoes houtcomes
  · obtain ⟨found, hfound, hlawful⟩ := lawful_of_fits hwithin (hgoes houtcomes)
    obtain rfl := Option.some.inj (hfound.symm.trans houtcomes)
    refine ⟨fun others => ⟨fun h => h.unique hlawful, fun h => h ▸ hlawful⟩, fun c hc => ?_⟩
    have hover : c.buffer = buffer ∧ Within c := by
      rcases List.mem_cons.1 hc with rfl | hc
      · exact ⟨rfl, hwithin⟩
      · obtain ⟨o, ho, rfl⟩ := List.mem_map.1 hc
        exact hlawful.within hwithin o ho
    obtain ⟨rfl, hposition⟩ := hover
    exact ⟨rfl, hposition, rfl, rfl⟩

/-- A skip that fails, a number, a text and a text without an end are lawful. A skip of as many
bytes as a word can count halts the reader, except at the start. -/
theorem reads_are_lawful_of_six_bytes :
    let start := Cursor.start [0x07, 0x6D, 0x1D, 0x6D, 0x00, 0xEE]
    let reads : List Read :=
      [.field .byte, .skip 9, .field .word16, .field .text, .field .text]
    let outcomes : List (Reading × Cursor) :=
      [(.value (.byte 7), start.advance 1), (.failed (.packetTooShort 10 6), start.advance 1),
        (.value (.word16 27933), start.advance 3), (.value (.text "m"), start.advance 5),
        (.failed (.badString .unterminated), start.advance 5)]
    let beyond : List Read :=
      [.skip 0xFFFFFFFFFFFFFFFF, .field .byte, .skip 0xFFFFFFFFFFFFFFFF]
    performAll start reads = some outcomes ∧ Lawful start reads outcomes ∧ Fits start reads ∧
      ¬Fits start beyond ∧ performAll start beyond = none ∧ BreaksOff start beyond := by
  intro start reads outcomes beyond
  obtain ⟨hgoes, -, hlawful⟩ := reads_are_lawful_iff_fits start.buffer reads
  have hperform : performAll start reads = some outcomes := rfl
  have hread : Lawful start reads outcomes := ((hlawful outcomes hperform).1 outcomes).2 rfl
  have hbeyond : ¬Fits start beyond := by decide
  exact ⟨hperform, hread, hgoes.1 ⟨outcomes, hperform, hread⟩, hbeyond,
    (reads_are_lawful_iff_fits start.buffer beyond).2.1 hbeyond⟩

/-- Behind the first of three bytes, a skip of as many bytes as a word can count halts the reader,
where the law has it fail for want of bytes. -/
theorem skip_beyond_the_words_halts :
    let start := Cursor.start [1, 2, 3]
    let reads : List Read := [.field .byte, .skip 0xFFFFFFFFFFFFFFFF]
    performAll start reads = none ∧
      Lawful start reads
        [(.value (.byte 1), ⟨[1, 2, 3], 1⟩),
          (.failed (.packetTooShort 0x10000000000000000 3), ⟨[1, 2, 3], 1⟩)] ∧
      ¬∃ outcomes, performAll start reads = some outcomes ∧ Lawful start reads outcomes := by
  intro start reads
  have hbyte : Law start (.field .byte) (.value (.byte 1)) ⟨[1, 2, 3], 1⟩ :=
    .value (n := 1) rfl (by decide) (.byte 1)
  have hover : Overflows ⟨[1, 2, 3], 1⟩ (.skip 0xFFFFFFFFFFFFFFFF) := by decide
  have hhalts : performAll start reads = none := by
    rw [performAll_cons hbyte.perform_field, performAll, perform_of_overflows hover]
    rfl
  have hshort : Cursor.remaining ⟨[1, 2, 3], 1⟩ < (0xFFFFFFFFFFFFFFFF : UInt64).toNat := by decide
  have hskip : Law ⟨[1, 2, 3], 1⟩ (.skip 0xFFFFFFFFFFFFFFFF)
      (.failed (.packetTooShort 0x10000000000000000 3)) ⟨[1, 2, 3], 1⟩ :=
    .tooShort (n := (0xFFFFFFFFFFFFFFFF : UInt64).toNat) rfl hshort
  refine ⟨hhalts, .next hbyte (.next hskip (.done _)), ?_⟩
  rintro ⟨outcomes, houtcomes, -⟩
  rw [hhalts] at houtcomes
  cases houtcomes

end Read

end Rendezvous
