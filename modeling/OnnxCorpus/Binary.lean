/-!
# Floating-point values by their bits

Tensors keep their floats as bit patterns, so every value, NaN payloads included, goes through a
file unchanged. Numeric comparison (`equals`) differs from equality of the bits: the two zeros are
equal, and a NaN differs from itself.
-/

namespace OnnxCorpus

/-- A single-precision value, given by its bits. -/
structure Binary32 where
  bits : UInt32
deriving DecidableEq

/-- A double-precision value, given by its bits. -/
structure Binary64 where
  bits : UInt64
deriving DecidableEq

namespace Binary32

/-- Positive zero. -/
def zero : Binary32 := ⟨0⟩

/-- The bits below the sign. -/
def magnitude (x : Binary32) : UInt32 := x.bits &&& 0x7fffffff

/-- Whether a value is a NaN: its exponent is all ones and its fraction is not zero. -/
def isNaN (x : Binary32) : Bool := 0x7f800000 < x.magnitude

/-- Numeric equality: the zeros are equal, and a NaN equals nothing. -/
def equals (x y : Binary32) : Bool :=
  !x.isNaN && !y.isNaN && (x.bits == y.bits || (x.magnitude == 0 && y.magnitude == 0))

/-- The value with the bits of a float of the machine. -/
def ofFloat (x : Float32) : Binary32 := ⟨x.toBits⟩

/-- A decimal literal stands for the nearest single-precision value. -/
instance : OfScientific Binary32 where
  ofScientific mantissa negative exponent :=
    ofFloat (OfScientific.ofScientific mantissa negative exponent)

end Binary32

namespace Binary64

/-- The bits below the sign. -/
def magnitude (x : Binary64) : UInt64 := x.bits &&& 0x7fffffffffffffff

/-- Whether a value is a NaN: its exponent is all ones and its fraction is not zero. -/
def isNaN (x : Binary64) : Bool := 0x7ff0000000000000 < x.magnitude

/-- Numeric equality: the zeros are equal, and a NaN equals nothing. -/
def equals (x y : Binary64) : Bool :=
  !x.isNaN && !y.isNaN && (x.bits == y.bits || (x.magnitude == 0 && y.magnitude == 0))

/-- The value with the bits of a float of the machine. -/
def ofFloat (x : Float) : Binary64 := ⟨x.toBits⟩

/-- A decimal literal stands for the nearest double-precision value. -/
instance : OfScientific Binary64 where
  ofScientific mantissa negative exponent :=
    ofFloat (OfScientific.ofScientific mantissa negative exponent)

/-! ### Narrowing to single precision -/

/-- The whole number nearest to `n / 2 ^ places`, a tie going to the even neighbour. -/
def roundShift (n places : Nat) : Nat :=
  let unit := 1 <<< places
  let quotient := n / unit
  let remainder := 2 * (n % unit)
  if remainder < unit then quotient
  else if unit < remainder then quotient + 1
  else quotient + quotient % 2

/-- The bits below the sign of the single-precision value nearest to a finite magnitude: the
significand is cut to 24 bits, or to fewer where the exponent falls below the normal range, and a
carry runs on into the exponent field, up to infinity. -/
def narrowMagnitude (exponent fraction : Nat) : Nat :=
  let significand := 0x10000000000000 + fraction
  if 1151 ≤ exponent then 0x7f800000
  else if 897 ≤ exponent then (exponent - 897) * 0x800000 + roundShift significand 29
  else if exponent = 0 then 0
  else roundShift significand (926 - exponent)

/-- The single-precision value nearest to a double-precision one, a tie going to the even
neighbour. A NaN keeps its sign and the upper part of its payload, and is quiet. -/
def toBinary32 (x : Binary64) : Binary32 :=
  let sign : UInt32 := (x.bits >>> 63).toUInt32 <<< 31
  let fraction : UInt64 := x.bits &&& 0xfffffffffffff
  let magnitude : UInt32 :=
    if x.isNaN then (0x7fc00000 : UInt32) ||| (fraction >>> 29).toUInt32
    else (narrowMagnitude (x.magnitude >>> 52).toNat fraction.toNat).toUInt32
  ⟨sign ||| magnitude⟩

end Binary64

end OnnxCorpus
