/-!
# A stream of words from a seed

The words of the ChaCha stream cipher with twelve rounds, under a key that is spread from a single
number. The stream is a function of the seed and a position, so a sample never depends on what was
drawn before it.
-/

namespace OnnxCorpus.Sampling

/-- The sixteen words of a block. -/
abbrev Block : Type := Vector UInt32 16

/-- The word with its bits moved up by `n` places, those at the top coming in at the bottom. -/
def rotateLeft (x n : UInt32) : UInt32 := (x <<< n) ||| (x >>> (32 - n))

/-- The word with its bits moved down by `n` places, those at the bottom coming in at the top. -/
def rotateRight (x n : UInt32) : UInt32 := (x >>> n) ||| (x <<< ((32 - n) % 32))

/-! ### The key of a seed -/

/-- The state of the generator that spreads a seed, one step on. -/
def seedStep (state : UInt64) : UInt64 := state * 6364136223846793005 + 11634580027462260723

/-- The word that the generator gives in a state. -/
def seedWord (state : UInt64) : UInt32 :=
  rotateRight ((((state >>> 18) ^^^ state) >>> 27).toUInt32) (state >>> 59).toUInt32

/-- The first `n` words that a seed spreads to. -/
def seedWords : Nat → UInt64 → List UInt32
  | 0, _ => []
  | n + 1, state => seedWord (seedStep state) :: seedWords n (seedStep state)

/-! ### Blocks -/

/-- Mixes the words at four places. -/
def quarterRound (a b c d : Fin 16) (s : Block) : Block :=
  let s := s.set a (s[a] + s[b])
  let s := s.set d (rotateLeft (s[d] ^^^ s[a]) 16)
  let s := s.set c (s[c] + s[d])
  let s := s.set b (rotateLeft (s[b] ^^^ s[c]) 12)
  let s := s.set a (s[a] + s[b])
  let s := s.set d (rotateLeft (s[d] ^^^ s[a]) 8)
  let s := s.set c (s[c] + s[d])
  s.set b (rotateLeft (s[b] ^^^ s[c]) 7)

/-- A round on the columns of a block and one on its diagonals. -/
def doubleRound (s : Block) : Block :=
  let s := quarterRound 0 4 8 12 s
  let s := quarterRound 1 5 9 13 s
  let s := quarterRound 2 6 10 14 s
  let s := quarterRound 3 7 11 15 s
  let s := quarterRound 0 5 10 15 s
  let s := quarterRound 1 6 11 12 s
  let s := quarterRound 2 7 8 13 s
  quarterRound 3 4 9 14 s

/-- The block of a number before mixing: four constants, the key, and the number in 64 bits. -/
def startBlock (key : List UInt32) (number : UInt64) : Block :=
  .ofFn fun i =>
    if i.val < 4 then #v[0x61707865, 0x3320646e, 0x79622d32, 0x6b206574].getD i.val 0
    else if i.val < 12 then key.getD (i.val - 4) 0
    else if i.val = 12 then number.toUInt32
    else if i.val = 13 then (number >>> 32).toUInt32
    else 0

/-- The mixed block of a number. -/
def block (key : List UInt32) (number : UInt64) : Block :=
  let start := startBlock key number
  let mixed := doubleRound (doubleRound (doubleRound
    (doubleRound (doubleRound (doubleRound start)))))
  .ofFn fun i => mixed[i] + start[i]

/-- The word at a position of the stream of a seed. -/
def word (seed : UInt64) (position : Nat) : UInt32 :=
  (block (seedWords 8 seed) (.ofNat (position / 16))).getD (position % 16) 0

end OnnxCorpus.Sampling
