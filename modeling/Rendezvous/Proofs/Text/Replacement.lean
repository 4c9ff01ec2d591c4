import Rendezvous.Proofs.Text.LossyUtf8

/-!
What is replaced in bytes that are not UTF-8. Where no character begins, one replacement character
stands for the longest part that some character's form begins with, or for a single byte that begins
none, and reading goes on right behind it. The rule is stated by the UTF-8 forms of characters
alone. It leaves no choice, and reading follows it at every position: what it takes for broken is
never more than the beginning of one character, so no character after it is lost.
-/
namespace Rendezvous.Text.LossyUtf8

open Wire (Bytes)

/-! ### The rule -/

/-- The UTF-8 form of some character begins with these bytes. -/
def Opens (part : Bytes) : Prop :=
  ∃ char, part <+: String.utf8EncodeChar char

/-- The part of the bytes that is replaced where no character begins. -/
structure Broken (part later : Bytes) : Prop where
  nonempty : part ≠ []
  unconvertible : ∀ char, ¬String.utf8EncodeChar char <+: part ++ later
  candidate : Opens part ∨ part.length = 1
  longest : ∀ other, other <+: part ++ later → Opens other ∨ other.length = 1 →
    other.length ≤ part.length

/-- Bytes and what is read from them. -/
inductive ReadsAs : Bytes → List Char → Prop
  | done : ReadsAs [] []
  | char (c : Char) {later : Bytes} {chars : List Char} (hlater : ReadsAs later chars) :
    ReadsAs (String.utf8EncodeChar c ++ later) (c :: chars)
  | broken {part later : Bytes} {chars : List Char} (hpart : Broken part later)
    (hlater : ReadsAs later chars) : ReadsAs (part ++ later) (replacement :: chars)

variable {a b c d : UInt8} {part later other : Bytes} {chars others : List Char}

/-! ### The rule leaves no choice -/

/-- No form of a character begins with the form of another. -/
theorem eq_of_utf8EncodeChar_append {char char' : Char} {rest rest' : Bytes}
    (h : String.utf8EncodeChar char ++ rest = String.utf8EncodeChar char' ++ rest') :
    char = char' ∧ rest = rest' := by
  have hread := congrArg decode h
  rw [decode_utf8EncodeChar_append, decode_utf8EncodeChar_append] at hread
  obtain ⟨rfl, -⟩ := List.cons.inj hread
  exact ⟨rfl, List.append_cancel_left h⟩

theorem Broken.eq_of_append {part' later' : Bytes} (h : Broken part later)
    (h' : Broken part' later') (heq : part ++ later = part' ++ later') :
    part = part' ∧ later = later' := by
  have hle : part'.length ≤ part.length :=
    h.longest part' (heq ▸ List.prefix_append part' later') h'.candidate
  have hge : part.length ≤ part'.length :=
    h'.longest part (heq ▸ List.prefix_append part later) h.candidate
  exact List.append_inj heq (Nat.le_antisymm hge hle)

theorem ReadsAs.unique {bytes : Bytes} (h : ReadsAs bytes chars) (h' : ReadsAs bytes others) :
    chars = others := by
  induction h generalizing others with
  | done =>
    generalize hbytes : ([] : Bytes) = bytes at h'
    cases h' with
    | done => rfl
    | char c _ => simp at hbytes
    | broken hpart _ => simp [hpart.nonempty] at hbytes
  | @char c later _ _ ih =>
    generalize hbytes : String.utf8EncodeChar c ++ later = bytes at h'
    cases h' with
    | done => simp at hbytes
    | char c' hlater' =>
      obtain ⟨rfl, rfl⟩ := eq_of_utf8EncodeChar_append hbytes
      rw [ih hlater']
    | broken hpart _ => exact absurd (hbytes ▸ List.prefix_append _ later) (hpart.unconvertible c)
  | @broken part later _ hpart _ ih =>
    generalize hbytes : part ++ later = bytes at h'
    cases h' with
    | done => simp [hpart.nonempty] at hbytes
    | @char c' later' _ _ =>
      exact absurd (hbytes ▸ List.prefix_append _ later') (hpart.unconvertible c')
    | broken hpart' hlater' =>
      obtain ⟨rfl, rfl⟩ := hpart.eq_of_append hpart' hbytes
      rw [ih hlater']

/-! ### How far a form can be followed -/

theorem Opens.of_prefix (h : Opens part) (hother : other <+: part) : Opens other := by
  obtain ⟨char, hchar⟩ := h
  exact ⟨char, hother.trans hchar⟩

theorem Opens.exists_wellFormed (h : Opens part) :
    ∃ bytes char, WellFormed bytes char ∧ part <+: bytes := by
  obtain ⟨char, hchar⟩ := h
  exact ⟨_, char, wellFormed_utf8EncodeChar char, hchar⟩

theorem Opens.two (h : Opens [a, b]) :
    (opensTwo a ∧ isTail b) ∨ opensThree a b ∨ opensFour a b := by
  obtain ⟨bytes, char, hform, hpart⟩ := h.exists_wellFormed
  cases hform with
  | one ha => simp at hpart
  | two ha hb =>
    obtain ⟨rfl, rfl⟩ : a = _ ∧ b = _ := by simpa using hpart
    exact .inl ⟨ha, hb⟩
  | three h hc =>
    obtain ⟨rfl, rfl⟩ : a = _ ∧ b = _ := by simpa using hpart
    exact .inr (.inl h)
  | four h hc hd =>
    obtain ⟨rfl, rfl⟩ : a = _ ∧ b = _ := by simpa using hpart
    exact .inr (.inr h)

theorem Opens.isTail_third (h : Opens [a, b, c]) : isTail c := by
  obtain ⟨bytes, char, hform, hpart⟩ := h.exists_wellFormed
  cases hform with
  | one ha => simp at hpart
  | two ha hb => simp at hpart
  | three h hc =>
    obtain ⟨-, -, rfl⟩ : a = _ ∧ b = _ ∧ c = _ := by simpa using hpart
    exact hc
  | four h hc hd =>
    obtain ⟨-, -, rfl⟩ : a = _ ∧ b = _ ∧ c = _ := by simpa using hpart
    exact hc

theorem Opens.isTail_fourth (h : Opens [a, b, c, d]) : isTail d := by
  obtain ⟨bytes, char, hform, hpart⟩ := h.exists_wellFormed
  cases hform with
  | one ha => simp at hpart
  | two ha hb => simp at hpart
  | three h hc => simp at hpart
  | four h hc hd =>
    obtain ⟨-, -, -, rfl⟩ : a = _ ∧ b = _ ∧ c = _ ∧ d = _ := by simpa using hpart
    exact hd

/-! ### Parts that are broken -/

theorem exists_next_of_longer (hother : other <+: part ++ later)
    (hlength : part.length < other.length) :
    ∃ next more, later = next :: more ∧ part ++ [next] <+: other := by
  have hpart : part <+: other :=
    List.prefix_of_prefix_length_le (List.prefix_append part later) hother (Nat.le_of_lt hlength)
  obtain ⟨rest, rfl⟩ := hpart
  obtain ⟨more, hmore⟩ := (List.prefix_append_right_inj part).1 hother
  cases rest with
  | nil => simp at hlength
  | cons next rest =>
    refine ⟨next, rest ++ more, hmore.symm, ?_⟩
    rw [List.append_cons part next rest]
    exact List.prefix_append (part ++ [next]) rest

/-- A part without a character in it is broken when the next byte does not carry it on. -/
theorem Broken.of_next (hnonempty : part ≠ [])
    (hwhole : ∀ char, ¬String.utf8EncodeChar char <+: part)
    (hcandidate : Opens part ∨ part.length = 1)
    (hnext : ∀ next more, later = next :: more → ¬Opens (part ++ [next])) :
    Broken part later where
  nonempty := hnonempty
  candidate := hcandidate
  unconvertible char hchar := by
    by_cases hlength : part.length < (String.utf8EncodeChar char).length
    · obtain ⟨next, more, hlater, hopens⟩ := exists_next_of_longer hchar hlength
      exact hnext next more hlater ⟨char, hopens⟩
    · refine hwhole char (List.prefix_of_prefix_length_le hchar (List.prefix_append part later) ?_)
      exact Nat.le_of_not_lt hlength
  longest other hother hopens := by
    refine Nat.le_of_not_lt fun hlength => ?_
    obtain ⟨next, more, hlater, hlonger⟩ := exists_next_of_longer hother hlength
    rcases hopens with hopens | hone
    · exact hnext next more hlater (hopens.of_prefix hlonger)
    · have hpos := List.length_pos_iff.2 hnonempty
      omega

/-- The beginning of a well-formed sequence that does not go on. -/
theorem Broken.of_begun {char : Char} {missing : Bytes} (hform : WellFormed (part ++ missing) char)
    (hmissing : missing ≠ []) (hnonempty : part ≠ [])
    (hnext : ∀ next more, later = next :: more → ¬Opens (part ++ [next])) : Broken part later := by
  have hbytes := hform.utf8EncodeChar_eq
  refine .of_next hnonempty ?_ (.inl ⟨char, ?_⟩) hnext
  · rintro other ⟨rest, hrest⟩
    have heq : String.utf8EncodeChar other ++ (rest ++ missing) =
        String.utf8EncodeChar char ++ [] := by
      rw [← List.append_assoc, hrest, hbytes, List.append_nil]
    exact hmissing (List.append_eq_nil_iff.1 (eq_of_utf8EncodeChar_append heq).2).2
  · rw [hbytes]
    exact List.prefix_append part missing

/-- A byte that is no character and does not go on as one. -/
theorem Broken.of_byte (ha : ¬a < 0x80)
    (hnext : ∀ next more, later = next :: more → ¬Opens [a, next]) : Broken [a] later := by
  refine .of_next (List.cons_ne_nil a []) (fun char hchar => ?_) (.inr rfl) hnext
  generalize hbytes : String.utf8EncodeChar char = bytes at hchar
  cases hbytes ▸ wellFormed_utf8EncodeChar char with
  | one ha' =>
    obtain rfl : _ = a := by simpa using hchar
    exact ha (UInt8.lt_iff_toNat_lt.2 ha')
  | two _ _ => simp at hchar
  | three _ _ => simp at hchar
  | four _ _ _ => simp at hchar

/-- The next byte is none that a sequence goes on with. -/
def Stops (later : Bytes) : Prop :=
  ∀ next ∈ later.head?, ¬isTail next

theorem stops_nil : Stops [] := nofun

theorem stops_cons (h : ¬isTail a) : Stops (a :: later) := by
  rintro _ ⟨⟩
  exact h

theorem Stops.not_opens {next : UInt8} {more : Bytes} (h : Stops later) (heq : later = next :: more)
    (htail : Opens (part ++ [next]) → isTail next) : ¬Opens (part ++ [next]) := by
  intro hopens
  refine h next ?_ (htail hopens)
  rw [heq]
  rfl

section Begun

variable (hstops : Stops later)
include hstops

theorem Broken.of_opensThree (h : opensThree a b) : Broken [a, b] later := by
  have hform : WellFormed ([a, b] ++ [0x80]) (char3 a b 0x80) := .three h (by decide)
  refine .of_begun hform (by simp) (by simp) fun next more heq => ?_
  exact hstops.not_opens heq Opens.isTail_third

theorem Broken.of_opensFour (h : opensFour a b) : Broken [a, b] later := by
  have hform : WellFormed ([a, b] ++ [0x80, 0x80]) (char4 a b 0x80 0x80) :=
    .four h (by decide) (by decide)
  refine .of_begun hform (by simp) (by simp) fun next more heq => ?_
  exact hstops.not_opens heq Opens.isTail_third

theorem Broken.of_opensFour_tail (h : opensFour a b) (hc : isTail c) :
    Broken [a, b, c] later := by
  have hform : WellFormed ([a, b, c] ++ [0x80]) (char4 a b c 0x80) := .four h hc (by decide)
  refine .of_begun hform (by simp) (by simp) fun next more heq => ?_
  exact hstops.not_opens heq Opens.isTail_fourth

end Begun

/-! ### Reading follows the rule -/

theorem WellFormed.readsAs {bytes : Bytes} {char : Char} (h : WellFormed bytes char)
    (hlater : ReadsAs later chars) : ReadsAs (bytes ++ later) (char :: chars) :=
  h.utf8EncodeChar_eq ▸ .char char hlater

theorem readsAs_decode (bytes : Bytes) : ReadsAs bytes (decode bytes) := by
  fun_induction decode bytes with
  | case1 => exact .done
  | case2 a rest ha ih => exact (WellFormed.one (UInt8.lt_iff_toNat_lt.1 ha)).readsAs ih
  | case3 a ha => exact .broken (.of_byte ha fun _ _ hnext => absurd hnext (by simp)) .done
  | case4 a _ b rest htwo ih =>
    obtain ⟨ha, hb⟩ := Bool.and_eq_true_iff.1 htwo
    exact (WellFormed.two ha hb).readsAs ih
  | case5 a _ b _ hthree => exact .broken (.of_opensThree stops_nil hthree) .done
  | case6 a _ b _ hthree c rest hc ih => exact (WellFormed.three hthree hc).readsAs ih
  | case7 a _ b _ hthree c rest hc ih => exact .broken (.of_opensThree (stops_cons hc) hthree) ih
  | case8 a _ b _ _ hfour => exact .broken (.of_opensFour stops_nil hfour) .done
  | case9 a _ b _ _ hfour c hc => exact .broken (.of_opensFour_tail stops_nil hfour hc) .done
  | case10 a _ b _ _ hfour c hc d rest hd ih => exact (WellFormed.four hfour hc hd).readsAs ih
  | case11 a _ b _ _ hfour c hc d rest hd ih =>
    exact .broken (.of_opensFour_tail (stops_cons hd) hfour hc) ih
  | case12 a _ b _ _ hfour c rest hc ih => exact .broken (.of_opensFour (stops_cons hc) hfour) ih
  | case13 a ha b rest htwo hthree hfour ih =>
    have halone : ∀ next more, b :: rest = next :: more → ¬Opens [a, next] := by
      rintro _ _ ⟨⟩ hopens
      rcases hopens.two with ⟨hlead, hb⟩ | h | h
      · exact htwo (Bool.and_eq_true_iff.2 ⟨hlead, hb⟩)
      · exact hthree h
      · exact hfour h
    exact .broken (.of_byte ha halone) ih

/-- The rule gives what is read and nothing else. -/
theorem readsAs_iff {bytes : Bytes} : ReadsAs bytes chars ↔ (text bytes).toList = chars := by
  rw [text, String.toList_ofList]
  constructor
  · intro h
    exact (readsAs_decode bytes).unique h
  · rintro rfl
    exact readsAs_decode bytes

end Rendezvous.Text.LossyUtf8
