import Mathlib.Data.Nat.Count
import TextAdventure.Game.Flags

/-!
# Writes to flags

The flags share one word, and each of them is a truth value of its own all the same: after any
writes to any flags it holds what was written to it last.  A write to a number from 32 on reaches no
flag.  Flags therefore take on every combination of 32 truth values, and are determined by it.

Main results:

- Definitions `Flags.setAll` and `Flags.lastWritten?`: writes one after the other, and what the last
  write to a flag wrote.
- Theorem `Flags.get_setAll`: a flag after any writes.
- Theorem `Flags.countSet_eq_count`: the bits that are counted are the flags that are set.
- Theorem `Flags.independent`: flags from the first write on.
-/

namespace TextAdventure.Flags

variable (flags : Flags) (writes : List (Nat × Bool))

/-! ## Writes in a row -/

/-- Write flags one after the other. -/
def setAll : Flags :=
  writes.foldl (fun flags write => flags.set write.1 write.2) flags

/-- The value of the last write to a flag, if there was one. -/
def lastWritten? (flag : Nat) : Option Bool :=
  ((writes.filter fun write => write.1 == flag).getLast?).map Prod.snd

@[simp]
theorem setAll_append (later : List (Nat × Bool)) :
    flags.setAll (writes ++ later) = (flags.setAll writes).setAll later :=
  List.foldl_append

@[simp]
theorem setAll_singleton (flag : Nat) (value : Bool) :
    flags.setAll [(flag, value)] = flags.set flag value := rfl

/-- The last write to a flag is the one that counts. -/
theorem lastWritten?_append_same (flag : Nat) (value : Bool) :
    lastWritten? (writes ++ [(flag, value)]) flag = some value := by
  simp [lastWritten?, List.getLast?_append]

/-- A write to another flag does not count. -/
theorem lastWritten?_append_of_ne {flag other : Nat} (value : Bool) (h : other ≠ flag) :
    lastWritten? (writes ++ [(flag, value)]) other = lastWritten? writes other := by
  simp [lastWritten?, Ne.symm h]

/-- A flag holds what was written to it last, or what it held before if nothing was. -/
theorem get_setAll {flag : Nat} (h : flag < 32) :
    (flags.setAll writes).get flag = (lastWritten? writes flag).getD (flags.get flag) := by
  -- From the end, as the last write is the one that decides.
  induction writes using List.reverseRecOn with
  | nil => rfl
  | append_singleton writes write ih =>
    obtain ⟨written, value⟩ := write
    rw [setAll_append, setAll_singleton]
    by_cases hflag : flag = written
    · rw [← hflag, get_set_same _ value h, lastWritten?_append_same, Option.getD_some]
    · rw [get_set_of_ne _ value hflag, ih, lastWritten?_append_of_ne writes value hflag]

/-- The writes to numbers from 32 on can be left out. -/
theorem setAll_filter_lt :
    flags.setAll (writes.filter fun write => write.1 < 32) = flags.setAll writes := by
  induction writes using List.reverseRecOn with
  | nil => rfl
  | append_singleton writes write ih =>
    obtain ⟨written, value⟩ := write
    by_cases h : written < 32
    · simp [List.filter_append, h, ih]
    · have hnone : (flags.setAll writes).set written value = flags.setAll writes :=
        set_of_ge _ value (Nat.not_lt.1 h)
      simp [List.filter_append, h, ih, hnone]

/-- The writes that give the flags below a number the given values. -/
def writesOf (values : Nat → Bool) (count : Nat) : List (Nat × Bool) :=
  (List.range count).map fun flag => (flag, values flag)

/-- Flags take on any 32 values. -/
theorem get_setAll_writesOf (values : Nat → Bool) {count flag : Nat} (hcount : count ≤ 32)
    (hflag : flag < count) : (flags.setAll (writesOf values count)).get flag = values flag := by
  induction count with
  | zero => cases hflag
  | succ count ih =>
    have hsucc :
        writesOf values (count + 1) = writesOf values count ++ [(count, values count)] := by
      simp [writesOf, List.range_succ]
    rw [hsucc, setAll_append, setAll_singleton]
    by_cases hlast : flag = count
    · rw [hlast, get_set_same _ _ (by omega)]
    · rw [get_set_of_ne _ _ hlast, ih (by omega) (by omega)]

/-! ## Counting -/

/-- The lowest bit of a word that has been shifted is the bit at that distance. -/
theorem toNat_shifted_and_one (word : BitVec 32) (n : Nat) :
    (word >>> n &&& 1#32).toNat = (word.getLsbD n).toNat := by
  rw [BitVec.and_one_eq_setWidth_ofBool_getLsbD, BitVec.getLsbD_ushiftRight, Nat.add_zero]
  cases word.getLsbD n <;> rfl

/-- The ones among the lowest bits are the flags below a number that are set. -/
theorem onesBelow_eq_count (n : Nat) :
    onesBelow flags.word n = Nat.count (fun flag => flags.get flag = true) n := by
  induction n with
  | zero => rfl
  | succ n ih =>
    rw [onesBelow, ih, Nat.count_succ, toNat_shifted_and_one]
    cases h : flags.word.getLsbD n <;> simp [get, h]

/-- The bits that are counted are the flags that are set. -/
theorem countSet_eq_count : flags.countSet = Nat.count (fun flag => flags.get flag = true) 32 :=
  flags.onesBelow_eq_count 32

/-! ## Truth values -/

/-- Flags behave as 32 truth values, none of which depends on another.  Take any writes to flags
that were all cleared.  Each flag below 32 holds what was written to it last if it was written to,
and is cleared otherwise; from 32 on there is no flag, and a write there leaves any flags as they
are.  The number of flags that are set is that of the numbers below 32 that read as set.  Flags that
read alike are the same, and any 32 values can be written and read. -/
theorem independent (a b : Flags) (values : Nat → Bool) :
    (∀ flag, (clear.setAll writes).get flag =
      if flag < 32 then (lastWritten? writes flag).getD false else false) ∧
    (∀ n value, a.set (32 + n) value = a) ∧
    a.setAll (writes.filter fun write => write.1 < 32) = a.setAll writes ∧
    a.countSet = Nat.count (fun flag => a.get flag = true) 32 ∧
    ((∀ flag, a.get flag = b.get flag) ↔ a = b) ∧
    ∃ writes, ∀ flag : Fin 32, (a.setAll writes).get flag = values flag := by
  refine ⟨fun flag => ?_, fun n value => set_of_ge a value (Nat.le_add_right 32 n),
    a.setAll_filter_lt writes, a.countSet_eq_count, ⟨ext_get, fun h flag => by rw [h]⟩,
    writesOf values 32, fun flag => a.get_setAll_writesOf values (Nat.le_refl 32) flag.isLt⟩
  split_ifs with h
  · rw [get_setAll clear writes h, get_clear]
  · exact get_of_ge _ (Nat.not_lt.1 h)

/-- Of two writes to a flag the second one counts, and a write to number 40 does not. -/
example : (clear.setAll [(3, true), (31, true), (40, true), (3, false)]).numbers = [31] := by
  decide

end TextAdventure.Flags
