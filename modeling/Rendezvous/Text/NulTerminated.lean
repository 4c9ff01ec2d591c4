import Rendezvous.Text.LossyUtf8

/-!
Text fields inside packets: bytes up to a zero byte. The field takes its terminator with it, and
what stands before the terminator is read as UTF-8 with replacements.
-/
namespace Rendezvous.Text

open Wire (Bytes)

inductive FieldError
  | unterminated
  deriving DecidableEq, Repr

def FieldError.message : FieldError → String
  | .unterminated => "string is not null-terminated"

/-- The bytes before the first zero byte, and the bytes after it. -/
def splitAtNul : Bytes → Option (Bytes × Bytes)
  | [] => none
  | b :: rest =>
    if b = 0 then some ([], rest)
    else (splitAtNul rest).map fun (field, after) => (b :: field, after)

/-- The text at the start of the bytes, with the number of bytes it takes, terminator included. -/
def readNulTerminated (bytes : Bytes) : Except FieldError (String × Nat) :=
  match splitAtNul bytes with
  | none => .error .unterminated
  | some (field, _) => .ok (LossyUtf8.text field, field.length + 1)

theorem splitAtNul_eq_some {bytes field after : Bytes}
    (h : splitAtNul bytes = some (field, after)) : bytes = field ++ 0 :: after ∧ 0 ∉ field := by
  induction bytes generalizing field with
  | nil => simp [splitAtNul] at h
  | cons b rest ih =>
    rw [splitAtNul] at h
    split at h
    · next hb =>
      obtain ⟨rfl, rfl⟩ := Prod.mk.inj (Option.some.inj h)
      simp [hb]
    · next hb =>
      obtain ⟨⟨tail, _⟩, hrest, hpair⟩ := Option.map_eq_some_iff.1 h
      obtain ⟨rfl, rfl⟩ := Prod.mk.inj hpair
      obtain ⟨rfl, hmem⟩ := ih hrest
      simp [Ne.symm hb, hmem]

theorem splitAtNul_append {field : Bytes} (h : 0 ∉ field) (after : Bytes) :
    splitAtNul (field ++ 0 :: after) = some (field, after) := by
  induction field with
  | nil => simp [splitAtNul]
  | cons b rest ih =>
    obtain ⟨hb, hrest⟩ := not_or.1 (mt List.mem_cons.2 h)
    simp [splitAtNul, Ne.symm hb, ih hrest]

theorem splitAtNul_eq_none {bytes : Bytes} : splitAtNul bytes = none ↔ 0 ∉ bytes := by
  induction bytes with
  | nil => simp [splitAtNul]
  | cons b rest ih =>
    by_cases hb : b = 0
    · simp [splitAtNul, hb]
    · simp [splitAtNul, hb, ih, Ne.symm hb]

end Rendezvous.Text
