/-!
# Little-endian numbers

A number in a fixed count of bytes, lowest byte first.
-/

namespace OnnxCorpus.LittleEndian

/-- The lowest `width` bytes of a number. -/
def write : Nat → Nat → List UInt8
  | 0, _ => []
  | width + 1, n => (n % 256).toUInt8 :: write width (n / 256)

/-- The number that bytes spell. -/
def read : List UInt8 → Nat
  | [] => 0
  | b :: rest => b.toNat + 256 * read rest

@[simp] theorem length_write (width n : Nat) : (write width n).length = width := by
  induction width generalizing n with
  | zero => rfl
  | succ width ih => simp [write, ih]

/-- A number with no bits past the bytes is read back. -/
theorem read_write {width n : Nat} (h : n >>> (8 * width) = 0) : read (write width n) = n := by
  induction width generalizing n with
  | zero => exact h.symm
  | succ width ih =>
    have high : (n / 256) >>> (8 * width) = 0 := by
      rwa [Nat.mul_succ, Nat.add_comm, Nat.shiftRight_add, Nat.shiftRight_eq_div_pow n] at h
    simp only [write, read, ih high, UInt8.toNat_ofNat', Nat.toUInt8_eq]
    omega

theorem eq_of_write_eq {width m n : Nat} (small : m >>> (8 * width) = 0)
    (small' : n >>> (8 * width) = 0) (same : write width m = write width n) : m = n := by
  rw [← read_write small, same, read_write small']

end OnnxCorpus.LittleEndian
