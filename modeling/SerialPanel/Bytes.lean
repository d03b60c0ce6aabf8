namespace SerialPanel

abbrev Bytes := List UInt8

-- The low `size` bytes of a number, most significant first. Higher digits are
-- dropped here; the range is the caller's to check.
def bigEndian : Nat → Nat → Bytes
  | 0, _ => []
  | size + 1, n => bigEndian size (n / 256) ++ [UInt8.ofNat n]

def fromBigEndian (bytes : Bytes) : Nat :=
  bytes.foldl (fun n byte => n * 256 + byte.toNat) 0

def utf8 (text : String) : Bytes := text.toList.flatMap String.utf8EncodeChar

@[simp] theorem bigEndian_length (size n : Nat) : (bigEndian size n).length = size := by
  induction size generalizing n with
  | zero => rfl
  | succ size ih => simp [bigEndian, ih]

@[simp] theorem fromBigEndian_snoc (bytes : Bytes) (byte : UInt8) :
    fromBigEndian (bytes ++ [byte]) = fromBigEndian bytes * 256 + byte.toNat := by
  simp [fromBigEndian]

theorem fromBigEndian_bigEndian (size n : Nat) (fits : n < Nat.pow 256 size) :
    fromBigEndian (bigEndian size n) = n := by
  induction size generalizing n with
  | zero =>
    have one : Nat.pow 256 0 = 1 := rfl
    have nothing : fromBigEndian (bigEndian 0 n) = 0 := rfl
    omega
  | succ size ih =>
    have more : Nat.pow 256 (size + 1) = Nat.pow 256 size * 256 := rfl
    have low : n / 256 < Nat.pow 256 size := by omega
    rw [bigEndian, fromBigEndian_snoc, ih _ low]
    simp [UInt8.toNat_ofNat']
    omega

end SerialPanel
