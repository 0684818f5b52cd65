import FtpServer.Library.CString

/-!
# Little-endian numbers

The bytes of a number in a given width, least significant first, and back.
-/

namespace LittleEndian

/-- The low `w` bytes of `n`. -/
def encode : (w n : ℕ) → Bytes
  | 0, _ => []
  | w + 1, n => UInt8.ofNat n :: encode w (n / 256)

/-- The number with these bytes. -/
def decode : Bytes → ℕ
  | [] => 0
  | b :: bs => b.toNat + 256 * decode bs

/-- A number takes as many bytes as it is given. -/
@[simp] theorem length_encode (w n : ℕ) : (encode w n).length = w := by
  induction w generalizing n with
  | zero => rfl
  | succ w ih => simp [encode, ih]

/-- A number is read back up to what does not fit. -/
theorem decode_encode (w n : ℕ) : decode (encode w n) = n % 256 ^ w := by
  induction w generalizing n with
  | zero => simp [encode, decode, Nat.mod_one]
  | succ w ih =>
    rw [encode, decode, ih, Nat.pow_succ', Nat.mod_mul]
    simp

/-- A number that fits is read back. -/
theorem decode_encode_of_lt {w n : ℕ} (h : n < 256 ^ w) : decode (encode w n) = n := by
  rw [decode_encode, Nat.mod_eq_of_lt h]

end LittleEndian
