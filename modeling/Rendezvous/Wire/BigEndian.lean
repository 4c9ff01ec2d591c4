/-!
Numbers on the wire: the most significant byte comes first. Reading undoes writing, and two
bytes read back as the number that writes them.
-/
namespace Rendezvous.Wire

abbrev Bytes := List UInt8

def encode16 (n : UInt16) : Bytes :=
  [UInt8.ofNat (n.toNat / 256), UInt8.ofNat n.toNat]

def decode16 (high low : UInt8) : UInt16 :=
  UInt16.ofNat (256 * high.toNat + low.toNat)

def encode32 (n : UInt32) : Bytes :=
  [UInt8.ofNat (n.toNat / 0x1000000), UInt8.ofNat (n.toNat / 0x10000),
    UInt8.ofNat (n.toNat / 0x100), UInt8.ofNat n.toNat]

def decode32 (a b c d : UInt8) : UInt32 :=
  UInt32.ofNat (0x1000000 * a.toNat + 0x10000 * b.toNat + 0x100 * c.toNat + d.toNat)

@[simp] theorem length_encode16 (n : UInt16) : (encode16 n).length = 2 := rfl

@[simp] theorem length_encode32 (n : UInt32) : (encode32 n).length = 4 := rfl

@[simp] theorem toNat_decode16 (high low : UInt8) :
    (decode16 high low).toNat = 256 * high.toNat + low.toNat := by
  have hhigh := high.toNat_lt
  have hlow := low.toNat_lt
  simp only [decode16, UInt16.toNat_ofNat']
  omega

theorem decode16_encode16 (n : UInt16) :
    decode16 (UInt8.ofNat (n.toNat / 256)) (UInt8.ofNat n.toNat) = n := by
  apply UInt16.toNat_inj.mp
  have h := n.toNat_lt
  simp only [toNat_decode16, UInt8.toNat_ofNat']
  omega

theorem encode16_decode16 (high low : UInt8) : encode16 (decode16 high low) = [high, low] := by
  have hhigh := high.toNat_lt
  have hlow := low.toNat_lt
  have quotient : UInt8.ofNat ((256 * high.toNat + low.toNat) / 256) = high := by
    apply UInt8.toNat_inj.mp
    simp only [UInt8.toNat_ofNat']
    omega
  have remainder : UInt8.ofNat (256 * high.toNat + low.toNat) = low := by
    apply UInt8.toNat_inj.mp
    simp only [UInt8.toNat_ofNat']
    omega
  simp [encode16, quotient, remainder]

theorem decode32_encode32 (n : UInt32) :
    decode32 (UInt8.ofNat (n.toNat / 0x1000000)) (UInt8.ofNat (n.toNat / 0x10000))
      (UInt8.ofNat (n.toNat / 0x100)) (UInt8.ofNat n.toNat) = n := by
  apply UInt32.toNat_inj.mp
  have h := n.toNat_lt
  simp only [decode32, UInt32.toNat_ofNat', UInt8.toNat_ofNat']
  omega

theorem encode32_decode32 (a b c d : UInt8) : encode32 (decode32 a b c d) = [a, b, c, d] := by
  have ha := a.toNat_lt
  have hb := b.toNat_lt
  have hc := c.toNat_lt
  have hd := d.toNat_lt
  simp only [encode32, decode32, List.cons.injEq, and_true]
  refine ⟨?_, ?_, ?_, ?_⟩ <;>
    (apply UInt8.toNat_inj.mp
     simp only [UInt8.toNat_ofNat', UInt32.toNat_ofNat']
     omega)

end Rendezvous.Wire
