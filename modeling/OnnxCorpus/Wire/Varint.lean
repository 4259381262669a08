import OnnxCorpus.Wire.Input

/-!
# Variable-length integers

A number is written in groups of seven bits, lowest group first; every byte but the last has its
top bit set. Reading takes at most ten groups and a number below `2 ^ 64`: `read_write` says that
it gives back what was written, and the input after it, exactly for those numbers.
-/

namespace OnnxCorpus.Wire.Varint

/-- The groups of a number. -/
def write (n : Nat) : List UInt8 :=
  if n < 128 then [n.toUInt8] else (n % 128 + 128).toUInt8 :: write (n / 128)
termination_by n
decreasing_by omega

/-- A number of at most `groups` groups at the start of the input. -/
def readGroups : Nat → Input → Option (Nat × Input)
  | 0, _ => none
  | groups + 1, input =>
    match input.next? with
    | none => none
    | some (b, rest) =>
      if b < 128 then some (b.toNat, rest)
      else
        match readGroups groups rest with
        | none => none
        | some (n, rest) => some (b.toNat - 128 + 128 * n, rest)

/-- The number at the start of the input. -/
def read (input : Input) : Option (UInt64 × Input) :=
  match readGroups 10 input with
  | none => none
  | some (n, rest) => if n < UInt64.size then some (.ofNat n, rest) else none

/-! ### Reading what was written -/

/-- The groups after the first hold what is left of a number. -/
theorem shiftRight_groups (n groups : Nat) :
    n >>> (7 * (groups + 1)) = (n / 128) >>> (7 * groups) := by
  rw [Nat.mul_succ, Nat.add_comm, Nat.shiftRight_add, Nat.shiftRight_eq_div_pow n]

/-- One group less to read of the groups that follow the first. -/
theorem readGroups_step {groups n : Nat} {rest : List UInt8}
    (ih : 128 ≤ n → readGroups groups (.ofBytes (write (n / 128) ++ rest)) =
      if (n / 128) >>> (7 * groups) = 0 then some (n / 128, .ofBytes rest) else none) :
    readGroups (groups + 1) (.ofBytes (write n ++ rest)) =
      if n >>> (7 * (groups + 1)) = 0 then some (n, .ofBytes rest) else none := by
  rw [write, shiftRight_groups]
  split
  · rename_i small
    have value : n.toUInt8.toNat = n := by
      simp [Nat.mod_eq_of_lt (show n < 256 by omega)]
    have byte : n.toUInt8 < 128 := by
      rw [UInt8.lt_iff_toNat_lt, value]
      exact small
    rw [if_pos (by rw [Nat.div_eq_of_lt small, Nat.zero_shiftRight])]
    simp [readGroups, byte, value]
  · rename_i large
    have value : (n % 128 + 128).toUInt8.toNat = n % 128 + 128 := by
      simp [Nat.mod_eq_of_lt (show n % 128 + 128 < 256 by omega)]
    have byte : ¬(n % 128 + 128).toUInt8 < 128 := by
      rw [UInt8.lt_iff_toNat_lt, value]
      simp
    simp only [readGroups, List.cons_append, Input.next?_ofBytes_cons, byte, if_false,
      ih (by omega)]
    by_cases h : (n / 128) >>> (7 * groups) = 0
    · simp only [h, if_true, value, Option.some.injEq, Prod.mk.injEq, and_true]
      omega
    · simp only [h, if_false]

/-- A number is read back if the groups that are taken hold it. -/
theorem readGroups_write (groups n : Nat) (rest : List UInt8) :
    readGroups (groups + 1) (.ofBytes (write n ++ rest)) =
      if n >>> (7 * (groups + 1)) = 0 then some (n, .ofBytes rest) else none := by
  induction groups generalizing n with
  | zero => exact readGroups_step fun large => by rw [if_neg (by omega), readGroups]
  | succ groups ih => exact readGroups_step fun _ => ih (n / 128)

theorem read_write (n : Nat) (rest : List UInt8) :
    read (.ofBytes (write n ++ rest)) =
      if n < UInt64.size then some (.ofNat n, .ofBytes rest) else none := by
  rw [read, readGroups_write]
  by_cases h : n >>> (7 * (9 + 1)) = 0
  · rw [if_pos h]
  · rw [if_neg h, if_neg (by simp only [UInt64.size]; omega)]

end OnnxCorpus.Wire.Varint
