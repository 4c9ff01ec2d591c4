import Mathlib
import Rendezvous.Proofs.Packet.Header
import Rendezvous.Proofs.Packet.Reading
import Rendezvous.Proofs.Text.LossyUtf8

/-!
Layouts of packets. Fields that are written one after the other take the sum of their widths, and
are read back by their kinds alone: each read finds the bytes of its own field next and leaves the
cursor at the next field, so nothing but what follows the layout is left at its end. Where a layout
is cut, the fields in front of the cut are read as before, and the one that it goes through fails.
-/
namespace Rendezvous

open Wire (Bytes Cursor)

theorem Wire.bigEndian_encode16 (n : UInt16) : bigEndian (encode16 n) = n.toNat := by
  have hvalue := toNat_decode16_eq (UInt8.ofNat (n.toNat / 256)) (UInt8.ofNat n.toNat)
  rw [decode16_encode16] at hvalue
  exact hvalue.symm

theorem Wire.bigEndian_encode32 (n : UInt32) : bigEndian (encode32 n) = n.toNat := by
  have hvalue := toNat_decode32_eq (UInt8.ofNat (n.toNat / 0x1000000))
    (UInt8.ofNat (n.toNat / 0x10000)) (UInt8.ofNat (n.toNat / 0x100)) (UInt8.ofNat n.toNat)
  rw [decode32_encode32] at hvalue
  exact hvalue.symm

namespace Field

/-- The number of bytes that a field takes. -/
def width : Field → Nat
  | byte _ => 1
  | word16 _ => 2
  | quad _ => 4
  | nine _ => 9
  | header _ => 12
  | text value => value.utf8ByteSize + 1

/-- A text ends at its first NUL. -/
def Unbroken : Field → Prop
  | text value => '\x00' ∉ value.toList
  | _ => True

/-- How the read of a field fails that begins at a position and goes beyond the bytes. -/
def cutFailure (position size : Nat) : Field → Failure
  | text _ => .badString .unterminated
  | field => .packetTooShort (position + field.width) size

def read (field : Field) : Read :=
  .field field.kind

/-- What the reads of fields give that follow one another from the cursor on. -/
def readings (c : Cursor) : List Field → List (Reading × Cursor)
  | [] => []
  | field :: rest => (.value field, c.advance field.width) :: readings (c.advance field.width) rest

/-! ### Writing -/

variable {field : Field} {fields inside later : List Field}

@[simp] theorem length_encode (field : Field) : field.encode.length = field.width := by
  cases field with
  | byte _ => rfl
  | word16 _ => rfl
  | quad _ => rfl
  | nine value => exact value.length_toList
  | header value => exact value.length_encode
  | text value =>
    rw [encode, List.length_append, width, ← Text.LossyUtf8.length_encode]
    rfl

theorem length_encodeAll (fields : List Field) :
    (encodeAll fields).length = (fields.map width).sum := by
  rw [encodeAll, List.length_flatMap]
  simp only [length_encode]

theorem encodeAll_cons (field : Field) (rest : List Field) :
    encodeAll (field :: rest) = field.encode ++ encodeAll rest :=
  List.flatMap_cons

theorem encodeAll_append (fields later : List Field) :
    encodeAll (fields ++ later) = encodeAll fields ++ encodeAll later :=
  List.flatMap_append

/-- What a field is written as is that field. -/
theorem stands_encode (h : field.Unbroken) : Stands field.encode field := by
  cases field with
  | byte value => exact .byte value
  | word16 value => exact .word16 (Wire.length_encode16 value) (Wire.bigEndian_encode16 value).symm
  | quad value => exact .quad value
  | nine value => exact .nine value
  | header value =>
    rw [encode, Header.encode, List.append_assoc]
    exact .header (Wire.length_encode32 value.cookie) (Wire.bigEndian_encode32 value.cookie).symm
  | text value =>
    have hstands := Stands.text (Text.LossyUtf8.zero_not_mem_encode h)
    rwa [Text.LossyUtf8.text_encode] at hstands

/-! ### Reading -/

variable {c : Cursor} {after : Bytes}

/-- A read that finds its field next gives it and goes behind it. -/
theorem perform_read (h : field.Unbroken) (hrest : c.rest = field.encode ++ after) :
    field.read.perform c = some (.value field, c.advance field.width) := by
  have henough : field.width ≤ c.remaining := by
    rw [← Cursor.length_rest, hrest, List.length_append, length_encode]
    omega
  have htake : c.rest.take field.width = field.encode := by
    rw [hrest]
    exact List.take_left' (length_encode field)
  have hlaw : Read.Law c field.read (.value field) (c.advance field.width) :=
    .value rfl henough (htake ▸ stands_encode h)
  exact hlaw.perform_field

/-- A read that finds a part of its field, and nothing after it, fails. -/
theorem perform_read_of_cut (h : field.Unbroken) (hcut : c.rest <+: field.encode)
    (hshort : c.remaining < field.width) :
    field.read.perform c = some (.failed (field.cutFailure c.position c.buffer.length), c) := by
  have hlaw : Read.Law c field.read (.failed (field.cutFailure c.position c.buffer.length)) c := by
    cases field with
    | text value =>
      -- The terminator is the last byte of the field, so it is not in the part.
      have hname : c.rest <+: Text.LossyUtf8.encode value := by
        rcases List.prefix_concat_iff.1 hcut with hwhole | hname
        · rw [← Cursor.length_rest, hwhole] at hshort
          exact absurd hshort (Nat.not_lt.2 (Nat.le_of_eq (length_encode (text value)).symm))
        · exact hname
      exact .unterminated fun hzero => Text.LossyUtf8.zero_not_mem_encode h (hname.subset hzero)
    | byte _ => exact .tooShort rfl hshort
    | word16 _ => exact .tooShort rfl hshort
    | quad _ => exact .tooShort rfl hshort
    | nine _ => exact .tooShort rfl hshort
    | header _ => exact .tooShort rfl hshort
  exact hlaw.perform_field

/-- The fields of a layout are read one after the other; other reads go on behind them. -/
theorem performAll_reads (hunbroken : ∀ field ∈ fields, field.Unbroken)
    (hrest : c.rest = encodeAll fields ++ after) (reads : List Read) :
    Read.performAll c (fields.map read ++ reads) =
      (Read.performAll (c.advance (fields.map width).sum) reads).map (readings c fields ++ ·) := by
  induction fields generalizing c with
  | nil => exact Option.map_id'.symm
  | cons field rest ih =>
    obtain ⟨hfield, hunbroken⟩ := List.forall_mem_cons.1 hunbroken
    rw [encodeAll_cons, List.append_assoc] at hrest
    have hnext : (c.advance field.width).rest = encodeAll rest ++ after := by
      rw [Cursor.rest_advance, hrest]
      exact List.drop_left' (length_encode field)
    have hend : (c.advance field.width).advance (rest.map width).sum =
        c.advance ((field :: rest).map width).sum := by
      rw [Cursor.advance, Cursor.advance, Cursor.advance, List.map_cons, List.sum_cons,
        Nat.add_assoc]
    rw [List.map_cons, List.cons_append, Read.performAll_cons (perform_read hfield hrest),
      ih hunbroken hnext, hend, Option.map_map]
    rfl

/-- Fields alone never halt the reader. -/
theorem exists_performAll_read (c : Cursor) (fields : List Field) :
    ∃ outcomes, Read.performAll c (fields.map read) = some outcomes := by
  have hkinds : fields.map read = (fields.map kind).map .field := by
    rw [List.map_map]
    rfl
  rw [hkinds]
  exact Read.exists_performAll_fields c (fields.map kind)

theorem values_readings (c : Cursor) (fields : List Field) :
    (readings c fields).map (·.1) = fields.map .value := by
  induction fields generalizing c with
  | nil => rfl
  | cons field rest ih => rw [readings, List.map_cons, List.map_cons, ih]

theorem last_readings (c : Cursor) (fields : List Field) :
    ((readings c fields).map (·.2)).getLastD c = c.advance (fields.map width).sum := by
  induction fields generalizing c with
  | nil => rfl
  | cons field rest ih =>
    rw [readings, List.map_cons, List.getLastD_cons, ih, List.map_cons, List.sum_cons]
    rw [Cursor.advance, Cursor.advance, Cursor.advance, Nat.add_assoc]

/-! ### Cutting -/

/-- A cut goes through one field. -/
theorem exists_cut {n : Nat} (h : n < (fields.map width).sum) :
    ∃ inside field later, fields = inside ++ field :: later ∧
      (inside.map width).sum ≤ n ∧ n < (inside.map width).sum + field.width := by
  induction fields generalizing n with
  | nil => exact absurd h (Nat.not_lt_zero n)
  | cons first rest ih =>
    rw [List.map_cons, List.sum_cons] at h
    by_cases hfirst : n < first.width
    · exact ⟨[], first, rest, rfl, Nat.zero_le n, by simpa using hfirst⟩
    · have hrest : n - first.width < (rest.map width).sum := by omega
      obtain ⟨inside, field, later, rfl, hle, hlt⟩ := ih hrest
      refine ⟨first :: inside, field, later, rfl, ?_, ?_⟩
      · rw [List.map_cons, List.sum_cons]
        omega
      · rw [List.map_cons, List.sum_cons]
        omega

/-- What a cut leaves of a layout. -/
theorem take_encodeAll {n : Nat} (hle : (inside.map width).sum ≤ n)
    (hlt : n < (inside.map width).sum + field.width) :
    (encodeAll (inside ++ field :: later)).take n =
      encodeAll inside ++ field.encode.take (n - (inside.map width).sum) := by
  have hwhole : (encodeAll inside).take n = encodeAll inside :=
    List.take_of_length_le (by rwa [length_encodeAll])
  have hpart : n - (inside.map width).sum ≤ field.encode.length := by
    rw [length_encode]
    omega
  rw [encodeAll_append, encodeAll_cons, List.take_append, hwhole, length_encodeAll,
    List.take_append_of_le_length hpart]

/-- The fields in front of a cut are read, and the one that it goes through fails. -/
theorem performAll_take {n : Nat} (hunbroken : ∀ f ∈ inside ++ field :: later, f.Unbroken)
    (hle : (inside.map width).sum ≤ n) (hlt : n < (inside.map width).sum + field.width) :
    let c := Cursor.start ((encodeAll (inside ++ field :: later)).take n)
    let cut := c.advance (inside.map width).sum
    ∃ others, Read.performAll c ((inside ++ field :: later).map read) =
      some (readings c inside ++
        (.failed (field.cutFailure (inside.map width).sum n), cut) :: others) := by
  intro c cut
  have hrest : c.rest = encodeAll inside ++ field.encode.take (n - (inside.map width).sum) := by
    rw [Cursor.rest_start, take_encodeAll hle hlt]
  have hpart : cut.rest = field.encode.take (n - (inside.map width).sum) := by
    rw [Cursor.rest_advance, hrest]
    exact List.drop_left' (length_encodeAll inside)
  have hshort : cut.remaining < field.width := by
    rw [← Cursor.length_rest, hpart, List.length_take, length_encode]
    omega
  have hsize : c.buffer.length = n := by
    have htotal : n ≤ ((inside ++ field :: later).map width).sum := by
      rw [List.map_append, List.sum_append, List.map_cons, List.sum_cons]
      omega
    show ((encodeAll (inside ++ field :: later)).take n).length = n
    rw [List.length_take, length_encodeAll]
    exact Nat.min_eq_left htotal
  have hposition : cut.position = (inside.map width).sum := Nat.zero_add _
  obtain ⟨hinside, hunbroken⟩ := List.forall_mem_append.1 hunbroken
  have hfield := (List.forall_mem_cons.1 hunbroken).1
  have hperform := perform_read_of_cut hfield (hpart ▸ List.take_prefix _ _) hshort
  have hbuffer : cut.buffer.length = n := hsize
  rw [hposition, hbuffer] at hperform
  obtain ⟨others, hothers⟩ := exists_performAll_read cut later
  refine ⟨others, ?_⟩
  rw [List.map_append, List.map_cons, performAll_reads hinside hrest,
    Read.performAll_cons hperform, hothers]
  rfl

/-! ### Layouts on the wire -/

/-- A layout takes the sum of the widths of its fields. Where its texts have no NUL, its fields are
read back in their order, whatever follows, and what follows is left. When it is cut anywhere before
its end, the fields that are whole are still read, and the first that is not fails: a text for want
of its terminator, any other field for want of bytes. The header of a datagram is one such field, on
which there is one verdict. -/
theorem layouts_survive_the_wire :
    (∀ fields : List Field,
      (encodeAll fields).length = (fields.map width).sum ∧
        ((encodeAll fields).isEmpty ↔ (fields.map width).sum = 0)) ∧
    (∀ fields : List Field, (∀ field ∈ fields, field.Unbroken) →
      (∀ after : Bytes,
        let c := Cursor.start (encodeAll fields ++ after)
        ∃ outcomes, Read.performAll c (fields.map read) = some outcomes ∧
          outcomes.map (·.1) = fields.map .value ∧
          ((outcomes.map (·.2)).getLastD c).rest = after) ∧
      ∀ n < (encodeAll fields).length, ∃ inside field later,
        fields = inside ++ field :: later ∧
          (inside.map width).sum ≤ n ∧ n < (inside.map width).sum + field.width ∧
          ∃ outcomes others,
            Read.performAll (.start ((encodeAll fields).take n)) (fields.map read) =
              some outcomes ∧
            outcomes.map (·.1) =
              inside.map .value ++ .failed (field.cutFailure (inside.map width).sum n) :: others) ∧
    ∀ (datagram : Bytes) (result : Except Failure (Header × Bytes)),
      Header.decode datagram = result ↔ Header.Verdict datagram result := by
  refine ⟨fun fields => ⟨length_encodeAll fields, ?_⟩, fun fields hunbroken => ⟨?_, ?_⟩,
    fun _ _ => Header.decode_eq_iff⟩
  · rw [List.isEmpty_iff, ← List.length_eq_zero_iff, length_encodeAll]
  · intro after c
    have hrest : c.rest = encodeAll fields ++ after := Cursor.rest_start _
    have hall := performAll_reads hunbroken hrest []
    rw [List.append_nil, Read.performAll, Option.map_some, List.append_nil] at hall
    refine ⟨_, hall, values_readings c fields, ?_⟩
    rw [last_readings, Cursor.rest_advance, hrest]
    exact List.drop_left' (length_encodeAll fields)
  · intro n hn
    rw [length_encodeAll] at hn
    obtain ⟨inside, field, later, rfl, hle, hlt⟩ := exists_cut hn
    refine ⟨inside, field, later, rfl, hle, hlt, ?_⟩
    obtain ⟨others, houtcomes⟩ := performAll_take hunbroken hle hlt
    refine ⟨_, others.map (·.1), houtcomes, ?_⟩
    rw [List.map_append, values_readings, List.map_cons]

/-- A number, a name with an accent and an address, with a byte behind them, and the same three cut
in the middle of the accent. -/
theorem layouts_survive_the_wire_of_three :
    let fields : List Field := [.word16 27933, .text "é", .quad ⟨10, 0, 0, 7⟩]
    let buffer : Bytes := [0x6D, 0x1D, 0xC3, 0xA9, 0, 10, 0, 0, 7]
    (∀ field ∈ fields, field.Unbroken) ∧ encodeAll fields = buffer ∧
      (∃ outcomes, Read.performAll (.start (buffer ++ [1])) (fields.map read) = some outcomes ∧
        outcomes.map (·.1) = fields.map .value) ∧
      (∃ outcomes others,
        Read.performAll (.start [0x6D, 0x1D, 0xC3]) (fields.map read) = some outcomes ∧
        outcomes.map (·.1) =
          .value (.word16 27933) :: .failed (.badString .unterminated) :: others) ∧
      Header.Verdict buffer (.error (.packetTooShort 12 9)) := by
  intro fields buffer
  have hunbroken : ∀ field ∈ fields, field.Unbroken := by
    simp [fields, Unbroken]
  have hbuffer : encodeAll fields = buffer := rfl
  obtain ⟨-, hread, hheader⟩ := layouts_survive_the_wire
  obtain ⟨hwhole, hcut⟩ := hread fields hunbroken
  obtain ⟨whole, hread, hvalues, -⟩ := hwhole [1]
  refine ⟨hunbroken, hbuffer, ⟨whole, hread, hvalues⟩, ?_, (hheader buffer _).1 rfl⟩
  obtain ⟨inside, field, later, hsplit, hle, hlt, outcomes, others, hpart, hcut⟩ :=
    hcut 3 (by decide)
  rcases inside with _ | ⟨first, _ | ⟨second, rest⟩⟩
  · obtain ⟨rfl, -⟩ := List.cons.inj hsplit
    exact absurd hlt (by decide)
  · obtain ⟨rfl, htail⟩ := List.cons.inj hsplit
    obtain ⟨rfl, -⟩ := List.cons.inj htail
    exact ⟨outcomes, others, hpart, hcut⟩
  · obtain ⟨rfl, htail⟩ := List.cons.inj hsplit
    obtain ⟨rfl, -⟩ := List.cons.inj htail
    have hnumber : (Field.word16 27933).width = 2 := rfl
    have hname : (Field.text "é").width = 3 := rfl
    rw [List.map_cons, List.sum_cons, List.map_cons, List.sum_cons, hnumber, hname] at hle
    omega

end Field

end Rendezvous
