/-!
# The ChaCha12 keystream

The source of predictable random words: the keystream of the ChaCha cipher with twelve rounds, a
block counter of 64 bits and a nonce of zero.  A key is spread from a seed of 64 bits.

Main results:

- Definition `block`: the sixteen words of a block of the keystream.
- Definition `word`: the word at a position of the keystream.
- Definition `keyOfSeed`: the eight key words of a seed.
-/

namespace TextAdventure.Dice

/-! ## Blocks -/

/-- The sixteen words that the cipher works on, as a square of four rows. -/
abbrev Square := Vector UInt32 16

/-- A word rotated to the left. -/
def rotateLeft (x : UInt32) (bits : UInt32) : UInt32 :=
  (x <<< bits) ||| (x >>> (32 - bits))

/-- Mix the four words at the given places. -/
def quarterRound (m : Square) (a b c d : Fin 16) : Square :=
  let xa := m[a] + m[b]
  let xd := rotateLeft (m[d] ^^^ xa) 16
  let xc := m[c] + xd
  let xb := rotateLeft (m[b] ^^^ xc) 12
  let xa := xa + xb
  let xd := rotateLeft (xd ^^^ xa) 8
  let xc := xc + xd
  let xb := rotateLeft (xb ^^^ xc) 7
  (((m.set a xa).set b xb).set c xc).set d xd

/-- Mix the four columns, then the four diagonals. -/
def doubleRound (m : Square) : Square :=
  let m := quarterRound m 0 4 8 12
  let m := quarterRound m 1 5 9 13
  let m := quarterRound m 2 6 10 14
  let m := quarterRound m 3 7 11 15
  let m := quarterRound m 0 5 10 15
  let m := quarterRound m 1 6 11 12
  let m := quarterRound m 2 7 8 13
  quarterRound m 3 4 9 14

/-- The eight words of a key. -/
abbrev Key := Vector UInt32 8

/-- The square that a block starts from: four constants, the key, the block's number and a nonce of
zero. -/
def start (key : Key) (number : Nat) : Square :=
  #v[0x61707865, 0x3320646e, 0x79622d32, 0x6b206574,
    key[0], key[1], key[2], key[3], key[4], key[5], key[6], key[7],
    UInt32.ofNat number, UInt32.ofNat (number / 0x100000000), 0, 0]

/-- The block of the keystream with the given number. -/
def block (key : Key) (number : Nat) : Square :=
  let first := start key number
  Vector.zipWith (· + ·) first (Nat.repeat doubleRound 6 first)

/-- The word of the keystream at the given position. -/
def word (key : Key) (position : Nat) : UInt32 :=
  (block key (position / 16)).get ⟨position % 16, Nat.mod_lt _ (by decide)⟩

/-! ## Keys -/

/-- The next state of the generator that spreads a seed. -/
def spreadNext (s : UInt64) : UInt64 :=
  s * 6364136223846793005 + 11634580027462260723

/-- The word that a state of the spreading generator gives: its high bits folded together and
rotated to the right by its highest five. -/
def spreadWord (s : UInt64) : UInt32 :=
  let x := (((s >>> 18) ^^^ s) >>> 27).toUInt32
  let bits := (s >>> 59).toUInt32
  (x >>> bits) ||| (x <<< ((32 - bits) % 32))

/-- The states of the spreading generator after a seed. -/
def spreadStates (s : UInt64) : Nat → List UInt64
  | 0 => []
  | n + 1 => spreadNext s :: spreadStates (spreadNext s) n

@[simp]
theorem length_spreadStates (s : UInt64) (n : Nat) : (spreadStates s n).length = n := by
  induction n generalizing s with
  | zero => rfl
  | succ n ih => simp [spreadStates, ih]

/-- The key words of a seed. -/
def keyOfSeed (seed : UInt64) : Key :=
  ⟨((spreadStates seed 8).map spreadWord).toArray, by simp⟩

end TextAdventure.Dice
