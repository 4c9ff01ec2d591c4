import Rendezvous.Address

/-!
Reading addresses: `a.b.c.d:port`, `[v6]:port` or `[v6%scope]:port`, with nothing before or
after. Octets are decimal without leading zeros. A port or a scope may have leading zeros. An
IPv6 address has eight groups of one to four digits, or fewer with one `::` that stands for at
least one zero group; a dotted quad may stand for the last two.
-/
namespace Rendezvous.Address

/-- A reader takes a beginning of the text and leaves the rest. -/
abbrev Reader (α : Type) := List Char → Option (α × List Char)

def digit? (radix : Nat) (c : Char) : Option Nat :=
  let value? :=
    if '0' ≤ c ∧ c ≤ '9' then some (c.toNat - '0'.toNat)
    else if 'a' ≤ c ∧ c ≤ 'z' then some (c.toNat - 'a'.toNat + 10)
    else if 'A' ≤ c ∧ c ≤ 'Z' then some (c.toNat - 'A'.toNat + 10)
    else none
  value?.filter (· < radix)

def expect (wanted : Char) : Reader Unit
  | c :: rest => if c = wanted then some ((), rest) else none
  | [] => none

/-- What a number must keep to. -/
structure Numeral where
  radix : Nat
  limit : Nat
  /-- The most digits, where there is a bound. -/
  width : Option Nat
  /-- Whether a number of several digits may begin with a zero. -/
  zeros : Bool

def number (form : Numeral) : Reader Nat := fun text =>
  let digits := text.takeWhile fun c => (digit? form.radix c).isSome
  let value := digits.foldl (fun n c => form.radix * n + (digit? form.radix c).getD 0) 0
  let tooWide := form.width.any (· < digits.length)
  let padded := !form.zeros && digits.head? == some '0' && 1 < digits.length
  if digits.isEmpty || tooWide || padded || form.limit < value then none
  else some (value, text.drop digits.length)

def octet : Reader UInt8 := fun text =>
  (number ⟨10, 255, some 3, false⟩ text).map fun (n, rest) => (UInt8.ofNat n, rest)

def group : Reader UInt16 := fun text =>
  (number ⟨16, 0xFFFF, some 4, true⟩ text).map fun (n, rest) => (UInt16.ofNat n, rest)

def port : Reader UInt16 := fun text => do
  let ((), text) ← expect ':' text
  let (n, text) ← number ⟨10, 0xFFFF, none, true⟩ text
  return (UInt16.ofNat n, text)

def quad : Reader Ipv4 := fun text => do
  let (a, text) ← octet text
  let ((), text) ← expect '.' text
  let (b, text) ← octet text
  let ((), text) ← expect '.' text
  let (c, text) ← octet text
  let ((), text) ← expect '.' text
  let (d, text) ← octet text
  return (⟨a, b, c, d⟩, text)

/-- The separator that every group but the first has before it. -/
def separator (first : Bool) : Reader Unit := fun text =>
  if first then some ((), text) else expect ':' text

/-- As many groups as are there, at most `room`, and whether a dotted quad closed them. -/
def groups : (room : Nat) → (first : Bool) → List Char → List UInt16 × Bool × List Char
  | 0, _, text => ([], false, text)
  | room + 1, first, text =>
    let dotted := if room = 0 then none else do
      let ((), text) ← separator first text
      quad text
    match dotted with
    | some (ip, rest) => ([Wire.decode16 ip.a ip.b, Wire.decode16 ip.c ip.d], true, rest)
    | none =>
      let plain := do
        let ((), text) ← separator first text
        group text
      match plain with
      | none => ([], false, text)
      | some (value, rest) =>
        let (values, closed, rest) := groups room false rest
        (value :: values, closed, rest)

def ipv6 : Reader Ipv6 := fun text =>
  let (front, closed, text) := groups 8 true text
  if front.length = 8 then (Ipv6.ofGroups? front).map (·, text)
  else if closed then none
  else do
    let ((), text) ← expect ':' text
    let ((), text) ← expect ':' text
    let (back, _, text) := groups (7 - front.length) true text
    let zeros := List.replicate (8 - front.length - back.length) 0
    let ip ← Ipv6.ofGroups? (front ++ zeros ++ back)
    return (ip, text)

def scope : Reader UInt32 := fun text => do
  let ((), text) ← expect '%' text
  let (n, text) ← number ⟨10, 0xFFFFFFFF, none, true⟩ text
  return (UInt32.ofNat n, text)

def v4 : Reader SocketAddress := fun text => do
  let (ip, text) ← quad text
  let (port, text) ← port text
  return (.v4 ⟨ip, port⟩, text)

def v6 : Reader SocketAddress := fun text => do
  let ((), text) ← expect '[' text
  let (ip, text) ← ipv6 text
  let (zone, text) := (scope text).getD (0, text)
  let ((), text) ← expect ']' text
  let (port, text) ← port text
  return (.v6 ip port zone, text)

end Rendezvous.Address

namespace Rendezvous

def SocketAddress.parse? (s : String) : Option SocketAddress :=
  match (Address.v4 s.toList).or (Address.v6 s.toList) with
  | some (address, []) => some address
  | _ => none

def Endpoint.parse? (s : String) : Option Endpoint :=
  match SocketAddress.parse? s with
  | some (.v4 endpoint) => some endpoint
  | _ => none

end Rendezvous
