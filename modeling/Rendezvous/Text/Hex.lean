/-!
Numbers in base sixteen with lower case digits, either with the fewest digits or filled up with
zeros to a width.
-/
namespace Rendezvous.Text

/-- The fewest digits. -/
def hex (n : Nat) : String :=
  String.ofList (Nat.toDigits 16 n)

/-- At least `width` digits. -/
def hexPadded (width n : Nat) : String :=
  let digits := Nat.toDigits 16 n
  String.ofList (List.replicate (width - digits.length) '0' ++ digits)

end Rendezvous.Text
