import OnnxCorpus.Binary
import OnnxCorpus.Sampling.ChaCha

/-!
# Normal samples

Samples of the standard normal distribution in single precision. A sample takes two words of the
stream, one for its radius and one for its angle.
-/

namespace OnnxCorpus.Sampling

/-- The distance from one to the next single-precision value. -/
def epsilon : Float32 := 1.0 / 8388608.0

/-- A value between `epsilon` and one, from the upper 23 bits of a word. It stays below one, since
the greatest fraction is `1 - epsilon` and the scale is less than one. -/
def positiveUnit (w : UInt32) : Float32 :=
  (w >>> 9).toFloat32 * epsilon * (1.0 - epsilon) + epsilon

/-- A value from zero up to one, from the upper 24 bits of a word. -/
def unit (w : UInt32) : Float32 := (w >>> 8).toFloat32 * (1.0 / 16777216.0)

/-- The single-precision value nearest to the ratio of a circle. -/
def pi : Float32 := .ofBits 0x40490fdb

/-- A normal sample from two independent words. -/
def normal (radius angle : UInt32) : Float32 :=
  (-2.0 * (positiveUnit radius).log).sqrt * (2.0 * pi * unit angle).cos

/-- The first `count` normal samples of a seed. -/
def normals (seed : UInt64) (count : Nat) : List Binary32 :=
  (List.range count).map fun i =>
    .ofFloat (normal (word seed (2 * i)) (word seed (2 * i + 1)))

end OnnxCorpus.Sampling
