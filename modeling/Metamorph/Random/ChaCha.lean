import Metamorph.Random.Source

/-! # The ChaCha8 word stream

The random source of a campaign: the key stream of the ChaCha cipher with eight rounds, read
as one endless sequence of words. A seed of 64 bits is first stretched to a key. -/

namespace Metamorph

/-- A place in the word stream of a key. -/
structure ChaCha where
  key : Vector UInt32 8
  /-- How many words have been drawn. -/
  position : Nat
  /-- The block of sixteen words that holds the next word. -/
  block : Vector UInt32 16

namespace ChaCha

/-- Turn the bits of a word to the left. -/
def rotateLeft (a : UInt32) (count : UInt32) : UInt32 :=
  (a <<< count) ||| (a >>> (32 - count))

/-- The quarter round on four words of the state. -/
def quarterRound (a b c d : Fin 16) (s : Vector UInt32 16) : Vector UInt32 16 :=
  let s := s.set a (s[a] + s[b])
  let s := s.set d (rotateLeft (s[d] ^^^ s[a]) 16)
  let s := s.set c (s[c] + s[d])
  let s := s.set b (rotateLeft (s[b] ^^^ s[c]) 12)
  let s := s.set a (s[a] + s[b])
  let s := s.set d (rotateLeft (s[d] ^^^ s[a]) 8)
  let s := s.set c (s[c] + s[d])
  s.set b (rotateLeft (s[b] ^^^ s[c]) 7)

/-- A round on the columns followed by a round on the diagonals. -/
def doubleRound (s : Vector UInt32 16) : Vector UInt32 16 :=
  let s := quarterRound 0 4 8 12 s
  let s := quarterRound 1 5 9 13 s
  let s := quarterRound 2 6 10 14 s
  let s := quarterRound 3 7 11 15 s
  let s := quarterRound 0 5 10 15 s
  let s := quarterRound 1 6 11 12 s
  let s := quarterRound 2 7 8 13 s
  quarterRound 3 4 9 14 s

/-- The state that a block is made from: four constants, the key, the number of the block in
two words, and two zeros. -/
def initial (key : Vector UInt32 8) (number : Nat) : Vector UInt32 16 :=
  #v[0x61707865, 0x3320646E, 0x79622D32, 0x6B206574,
    key[0], key[1], key[2], key[3], key[4], key[5], key[6], key[7],
    number.toUInt32, (number / UInt32.size).toUInt32, 0, 0]

/-- A block of the stream: eight rounds over the initial state, added to it. -/
def blockAt (key : Vector UInt32 8) (number : Nat) : Vector UInt32 16 :=
  let start := initial key number
  let mixed := doubleRound (doubleRound (doubleRound (doubleRound start)))
  Vector.zipWith (· + ·) mixed start

/-- The beginning of the stream of a key. -/
def ofKey (key : Vector UInt32 8) : ChaCha :=
  ⟨key, 0, blockAt key 0⟩

/-- One step of the generator that stretches a seed. -/
def stretchStep (state : UInt64) : UInt64 :=
  state * 6364136223846793005 + 11634580027462260723

/-- The word that a state of that generator gives. -/
def stretchWord (state : UInt64) : UInt32 :=
  let folded := (((state >>> 18) ^^^ state) >>> 27).toUInt32
  let turn := (state >>> 59).toUInt32
  (folded >>> turn) ||| (folded <<< ((32 - turn) % 32))

/-- The states of that generator after one, two, … steps. -/
def stretch (state : UInt64) : Nat → UInt64
  | 0 => state
  | steps + 1 => stretchStep (stretch state steps)

/-- The stream of a seed of 64 bits. -/
def ofSeed (seed : UInt64) : ChaCha :=
  ofKey (Vector.ofFn fun i : Fin 8 => stretchWord (stretch seed (i + 1)))

/-- The next word of the stream. -/
def word32 : StateM ChaCha UInt32 := fun s =>
  let word := s.block.get ⟨s.position % 16, Nat.mod_lt _ (by decide)⟩
  let position := s.position + 1
  let block := if position % 16 = 0 then blockAt s.key (position / 16) else s.block
  (word, ⟨s.key, position, block⟩)

/-- The next two words of the stream as one, the low half first. -/
def word64 : StateM ChaCha UInt64 := do
  let low ← word32
  let high ← word32
  return low.toUInt64 ||| (high.toUInt64 <<< 32)

/-- How often a draw from a range is repeated before it settles for the lower end. Less than
half of all words are refused, so the limit is never seen. -/
def patience : Nat := 4096

/-- Draw a number below `range`: the high part of a random word times `range`, where words
are refused whose low part lies above the zone that makes all numbers equally likely. -/
def drawBelow (bits : Nat) (word : StateM ChaCha Nat) (range : Nat) : Nat → StateM ChaCha Nat
  | 0 => pure 0
  | tries + 1 => do
    let product := (← word) * range
    let zone := range * Nat.pow 2 (bits - 1 - range.log2) - 1
    if product % Nat.pow 2 bits ≤ zone then pure (product / Nat.pow 2 bits)
    else drawBelow bits word range tries

/-- Draw a number from zero to `span`; the whole range of the word needs no scaling. -/
def drawUpTo (bits : Nat) (word : StateM ChaCha Nat) (span : Nat) : StateM ChaCha Nat := do
  if span + 1 < Nat.pow 2 bits then drawBelow bits word (span + 1) patience
  else return min (← word) span

/-- A word as a number. -/
def number32 : StateM ChaCha Nat := do
  return (← word32).toNat

/-- A word of 64 bits as a number. -/
def number64 : StateM ChaCha Nat := do
  return (← word64).toNat

/-- The number `2 ^ -52`. -/
def epsilon : Float := Float.ofBits 0x3CB0000000000000

/-- Lower a scale until the greatest fraction of it lies below the total. -/
def fitScale (total : Float) : Nat → Float → Float
  | 0, scale => scale
  | fuel + 1, scale =>
    if scale * (1.0 - epsilon) ≥ total then fitScale total fuel (Float.ofBits (scale.toBits - 1))
    else scale

/-- A fraction of 52 random bits, scaled to lie below the total. -/
def drawBelowTotal (total : Float) : StateM ChaCha Float := do
  let fraction := ((← word64) >>> 12).toFloat * epsilon
  let point := fraction * fitScale total 16 total
  return if 0.0 ≤ point && point < total then point else 0.0

instance : RandomSource ChaCha where
  wordBetween low high := do
    return low + (← drawUpTo 32 number32 (high.toNat - low.toNat)).toUInt32
  countBetween low high := do
    return low + (← drawUpTo 64 number64 (high - low))
  unit := do
    return ((← word64) >>> 11).toFloat * Float.ofBits 0x3CA0000000000000
  below := drawBelowTotal

end ChaCha

end Metamorph
