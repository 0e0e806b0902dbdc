/-!
# Flags

The 32 flags of a game, held in one word.  Flag 15 says that it is night and flag 16 that the light
has run out.

Main results:

- Definitions `Flags.get`, `Flags.set` and `Flags.countSet`.
- Theorems `get_set_same`, `get_set_of_ne` and `get_of_ge`: writes reach one flag each, and there is
  no flag from 32 on.
- Theorem `ext_get`: flags are determined by their values.
-/

namespace TextAdventure

/-- The flags of a game; flag `n` is bit `n` of the word. -/
structure Flags where
  word : BitVec 32
deriving Repr, DecidableEq

namespace Flags

/-- All flags cleared. -/
def clear : Flags :=
  ⟨0⟩

instance : Inhabited Flags := ⟨clear⟩

/-- The word in which only the given flag is set. -/
def mask (flag : Nat) : BitVec 32 :=
  BitVec.twoPow 32 flag

/-- The value of a flag, false from 32 on. -/
def get (flags : Flags) (flag : Nat) : Bool :=
  flags.word.getLsbD flag

/-- Write a flag; a write from 32 on has no effect. -/
def set (flags : Flags) (flag : Nat) (value : Bool) : Flags :=
  if flag < 32 then
    if value then ⟨flags.word ||| mask flag⟩ else ⟨flags.word &&& ~~~mask flag⟩
  else flags

/-- The number of ones among the lowest bits of a word. -/
def onesBelow (word : BitVec 32) : Nat → Nat
  | 0 => 0
  | n + 1 => onesBelow word n + (word >>> n &&& 1#32).toNat

/-- How many flags are set. -/
def countSet (flags : Flags) : Nat :=
  onesBelow flags.word 32

/-- The numbers of the flags that are set, ascending. -/
def numbers (flags : Flags) : List Nat :=
  (List.range 32).filter flags.get

/-- The flags with the given numbers, and no others. -/
def ofNumbers (numbers : List Nat) : Flags :=
  numbers.foldl (fun flags n => flags.set n true) clear

/-- Flag 15 is set while it is night. -/
def night : Nat := 15

/-- Flag 16 is set once the light has run out. -/
def lightOut : Nat := 16

/-! ## Reading back -/

@[simp]
theorem get_clear (flag : Nat) : clear.get flag = false := by
  simp [get, clear]

/-- There is no flag from 32 on. -/
theorem get_of_ge (flags : Flags) {flag : Nat} (h : 32 ≤ flag) : flags.get flag = false :=
  BitVec.getLsbD_of_ge _ _ h

/-- A flag below 32 holds what was written last. -/
theorem get_set_same (flags : Flags) {flag : Nat} (value : Bool) (h : flag < 32) :
    (flags.set flag value).get flag = value := by
  cases value <;> simp [get, set, mask, h]

/-- A write from 32 on changes nothing. -/
theorem set_of_ge (flags : Flags) {flag : Nat} (value : Bool) (h : 32 ≤ flag) :
    flags.set flag value = flags := by
  simp [set, Nat.not_lt.2 h]

/-- A write leaves every other flag alone. -/
theorem get_set_of_ne (flags : Flags) {flag other : Nat} (value : Bool) (h : other ≠ flag) :
    (flags.set flag value).get other = flags.get other := by
  by_cases hflag : flag < 32
  · cases value
    · simpa [get, set, mask, hflag, Ne.symm h] using BitVec.lt_of_getLsbD
    · simp [get, set, mask, hflag, Ne.symm h]
  · rw [set_of_ge flags value (Nat.not_lt.1 hflag)]

/-- Flags are determined by their values. -/
theorem ext_get {a b : Flags} (h : ∀ flag, a.get flag = b.get flag) : a = b := by
  cases a; cases b
  congr 1
  exact BitVec.eq_of_getLsbD_eq fun i _ => h i

end Flags

end TextAdventure
