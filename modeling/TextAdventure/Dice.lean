import TextAdventure.Dice.Stream

/-!
# Dice

Random percentages.  Words are taken from the keystream one after the other; a word is turned into
a percentage by multiplication, and the words that would favour some results are passed over.

Main results:

- Structure `Dice` and definition `Dice.ofSeed`: the dice of a seed, before the first draw.
- Definition `Dice.percentOfWord?`: the percentage of a word, unless the word is passed over.
- Definitions `Dice.percent` and `Dice.chance`: the next percentage, and a test against it.
- Theorem `percent_bounds`: every percentage lies between 1 and 100.
-/

namespace TextAdventure

/-- The keystream of a key from a position on. -/
structure Dice where
  key : Dice.Key
  position : Nat
deriving Repr, DecidableEq

namespace Dice

/-- The dice of a seed, before the first draw. -/
def ofSeed (seed : UInt64) : Dice :=
  ⟨keyOfSeed seed, 0⟩

instance : Inhabited Dice := ⟨ofSeed 0⟩

/-- The next word of the keystream. -/
def nextWord (dice : Dice) : UInt32 :=
  word dice.key dice.position

/-- The dice after a word has been taken. -/
def advance (dice : Dice) : Dice :=
  { dice with position := dice.position + 1 }

/-! ## Percentages -/

/-- The largest low half of a product that is accepted, which leaves 2 ^ 25 words to each result. -/
def lastAccepted : Nat := 100 * 0x2000000 - 1

/-- The percentage of a word: the high half of a hundred times the word, plus one.  The word is
passed over when the low half of the product is past the last one accepted. -/
def percentOfWord? (w : UInt32) : Option Nat :=
  let product := w.toNat * 100
  if product % 0x100000000 ≤ lastAccepted then some (product / 0x100000000 + 1) else none

/-- The first percentage among the next words, looking at so many of them. -/
def percentWithin : Nat → Dice → Nat × Dice
  | 0, dice => (100, dice)
  | n + 1, dice =>
    match percentOfWord? dice.nextWord with
    | some p => (p, dice.advance)
    | none => percentWithin n dice.advance

/-- How many words a draw looks at before it settles for 100.  A draw without this limit would look
on until a word is accepted, and the two agree unless all of these words are passed over.  Fewer
than one word in four is, so that no stream of words is known to reach the limit. -/
def patience : Nat := 4096

/-- The next percentage, from 1 to 100. -/
def percent (dice : Dice) : Nat × Dice :=
  percentWithin patience dice

/-- An event that happens so many times out of a hundred; it always takes one percentage. -/
def chance (dice : Dice) (percentage : Nat) : Bool × Dice :=
  let (p, dice) := dice.percent
  (p ≤ percentage, dice)

/-! ## Range -/

/-- The percentage of a word lies between 1 and 100. -/
theorem bounds_of_percentOfWord? {w : UInt32} {p : Nat} (h : percentOfWord? w = some p) :
    1 ≤ p ∧ p ≤ 100 := by
  have hw := w.toNat_lt
  simp only [percentOfWord?, Option.ite_none_right_eq_some, Option.some.injEq] at h
  omega

/-- A draw of limited patience lies between 1 and 100. -/
theorem percentWithin_bounds (n : Nat) (dice : Dice) :
    1 ≤ (percentWithin n dice).1 ∧ (percentWithin n dice).1 ≤ 100 := by
  induction n generalizing dice with
  | zero => simp [percentWithin]
  | succ n ih =>
    rw [percentWithin]
    split
    · exact bounds_of_percentOfWord? ‹_›
    · exact ih _

/-- Every percentage lies between 1 and 100. -/
theorem percent_bounds (dice : Dice) : 1 ≤ dice.percent.1 ∧ dice.percent.1 ≤ 100 :=
  percentWithin_bounds _ _

end Dice

end TextAdventure
