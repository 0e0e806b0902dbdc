import Mathlib.Algebra.BigOperators.Group.Finset.Sigma
import Mathlib.Data.FinEnum
import Mathlib.Order.Interval.Finset.Nat
import TextAdventure.Proofs.Draws

/-!
# Percentages of words

A percentage is drawn from words of 32 bits, some of which are passed over.  The words that give one
percentage follow upon each other, and there are as many for each of the hundred percentages.  An
event that happens so many times out of a hundred therefore happens for exactly that share of the
words that are not passed over, and so a row of the action table is considered for exactly the share
that its noun says.

Main results:

- Theorem `Dice.percentOfWord?_eq_some_iff`: the words of a percentage.
- Theorem `Dice.card_favouring`: how many words make an event happen.
- Structure `Dice.Takes`: the word that a draw takes, behind those that it passes over.
- Theorem `Dice.exact_share`: the share of the words for which an event happens, and a row is
  considered.
-/

namespace TextAdventure

namespace Dice

/-! ## The words of a percentage -/

/-- How many words give the same percentage. -/
def wordsEach : Nat := 0x2000000

/-- The least of the words that give a percentage. -/
def firstWord (p : Nat) : Nat :=
  ((p - 1) * 0x100000000 + 99) / 100

/-- The words that give a percentage follow upon each other. -/
theorem percentOfWord?_eq_some_iff {w : UInt32} {p : Nat} :
    percentOfWord? w = some p ↔
      (1 ≤ p ∧ p ≤ 100) ∧ firstWord p ≤ w.toNat ∧ w.toNat < firstWord p + wordsEach := by
  have hw := w.toNat_lt
  unfold percentOfWord?
  dsimp only
  rw [Option.ite_none_right_eq_some, Option.some.injEq, lastAccepted, firstWord, wordsEach]
  constructor
  · rintro ⟨hlow, rfl⟩
    omega
  · rintro ⟨hp, hword⟩
    -- The high half of the product is the same for all of these words.
    have hhigh : w.toNat * 100 / 0x100000000 = p - 1 := by omega
    omega

/-- The word is not passed over. -/
def isAccepted (w : UInt32) : Bool :=
  (percentOfWord? w).isSome

/-- An event that happens so many times out of a hundred happens for the word. -/
def favours (percentage : Nat) (w : UInt32) : Bool :=
  (percentOfWord? w).any (· ≤ percentage)

/-- The words of a percentage. -/
def wordsOf (p : Nat) : Finset UInt32 :=
  Finset.univ.filter fun w => percentOfWord? w = some p

/-- The words for which an event happens. -/
def favouring (percentage : Nat) : Finset UInt32 :=
  Finset.univ.filter fun w => favours percentage w

theorem favours_eq_true_iff {percentage : Nat} {w : UInt32} :
    favours percentage w = true ↔ ∃ p ≤ percentage, percentOfWord? w = some p := by
  simp [favours, Option.any_eq_true, and_comm]

/-- Every word that is not passed over is one for which a sure event happens. -/
theorem favours_of_le {percentage : Nat} (h : 100 ≤ percentage) (w : UInt32) :
    favours percentage w = isAccepted w := by
  unfold favours isAccepted
  cases hw : percentOfWord? w with
  | none => rfl
  | some p => simpa using (bounds_of_percentOfWord? hw).2.trans h

/-! ## Counting words -/

/-- The words between two numbers are as many as these numbers. -/
theorem card_words_between {first last : Nat} (h : last ≤ 0x100000000) :
    (Finset.univ.filter fun w : UInt32 => first ≤ w.toNat ∧ w.toNat < last).card =
      last - first := by
  have hnat {n : Nat} (hn : n < last) : (UInt32.ofNat n).toNat = n :=
    UInt32.toNat_ofNat_of_lt' (Nat.lt_of_lt_of_le hn h)
  rw [← Nat.card_Ico]
  refine Finset.card_nbij' UInt32.toNat UInt32.ofNat ?_ ?_ ?_ ?_
  · intro w hw
    simpa using hw
  · intro n hn
    obtain ⟨hfirst, hlast⟩ := Finset.mem_Ico.1 (Finset.mem_coe.1 hn)
    simpa [hnat hlast] using And.intro hfirst hlast
  · exact fun w _ => UInt32.ofNat_toNat
  · exact fun n hn => hnat (Finset.mem_Ico.1 (Finset.mem_coe.1 hn)).2

/-- Each percentage has the same number of words. -/
theorem card_wordsOf {p : Nat} (h : 1 ≤ p ∧ p ≤ 100) : (wordsOf p).card = wordsEach := by
  have hlast : firstWord p + wordsEach ≤ 0x100000000 := by
    simp only [firstWord, wordsEach]
    omega
  have hwords : wordsOf p = Finset.univ.filter fun w : UInt32 =>
      firstWord p ≤ w.toNat ∧ w.toNat < firstWord p + wordsEach := by
    refine Finset.filter_congr fun w _ => ?_
    rw [percentOfWord?_eq_some_iff]
    exact and_iff_right h
  rw [hwords, card_words_between hlast, Nat.add_sub_cancel_left]

/-- No word gives two percentages. -/
theorem disjoint_wordsOf {p q : Nat} (h : p ≠ q) : Disjoint (wordsOf p) (wordsOf q) := by
  refine Finset.disjoint_filter.2 fun w _ hp hq => h ?_
  exact Option.some.inj (hp.symm.trans hq)

/-- An event happens for the words of the percentages that do not exceed its own. -/
theorem favouring_eq_biUnion (percentage : Nat) :
    favouring percentage = (Finset.Icc 1 (min percentage 100)).biUnion wordsOf := by
  ext w
  simp only [favouring, wordsOf, Finset.mem_filter_univ, Finset.mem_biUnion, Finset.mem_Icc,
    favours_eq_true_iff]
  constructor
  · rintro ⟨p, hp, hw⟩
    obtain ⟨hone, hhundred⟩ := bounds_of_percentOfWord? hw
    exact ⟨p, ⟨hone, le_min hp hhundred⟩, hw⟩
  · rintro ⟨p, ⟨-, hp⟩, hw⟩
    exact ⟨p, hp.trans (min_le_left _ _), hw⟩

/-- An event happens for its share of the words, and no event for more than all of them. -/
theorem card_favouring (percentage : Nat) :
    (favouring percentage).card = min percentage 100 * wordsEach := by
  have hcard (p) (hp : p ∈ Finset.Icc 1 (min percentage 100)) : (wordsOf p).card = wordsEach := by
    obtain ⟨hone, hp⟩ := Finset.mem_Icc.1 hp
    exact card_wordsOf ⟨hone, hp.trans (min_le_right _ _)⟩
  rw [favouring_eq_biUnion, Finset.card_biUnion fun p _ q _ h => disjoint_wordsOf h,
    Finset.sum_const_nat hcard, Nat.card_Icc, Nat.add_sub_cancel]

/-- A hundred shares of the words are not passed over. -/
theorem card_accepted :
    (Finset.univ.filter fun w => isAccepted w).card = 100 * wordsEach := by
  have hsure : (Finset.univ.filter fun w => isAccepted w) = favouring 100 :=
    Finset.filter_congr fun w _ => by rw [favours_of_le (Nat.le_refl 100)]
  rw [hsure, card_favouring, min_self]

/-! ## The word that a draw takes -/

/-- The dice after so many words have been taken. -/
def advanceBy (dice : Dice) (count : Nat) : Dice :=
  { dice with position := dice.position + count }

@[simp]
theorem advanceBy_zero (dice : Dice) : dice.advanceBy 0 = dice := rfl

@[simp]
theorem advanceBy_advance (dice : Dice) (count : Nat) :
    dice.advance.advanceBy count = dice.advanceBy (count + 1) := by
  rw [advanceBy, advanceBy, advance, Nat.add_assoc, Nat.add_comm 1 count]

/-- A draw is patient enough to pass over so many words, and takes the one behind them. -/
structure Takes (dice : Dice) (passed : Nat) (w : UInt32) : Prop where
  passed_lt : passed < patience
  rejected : ∀ k < passed, isAccepted (dice.advanceBy k).nextWord = false
  nextWord_eq : (dice.advanceBy passed).nextWord = w
  accepted : isAccepted w = true

variable {dice : Dice} {passed : Nat} {w : UInt32}

/-- A draw gives the percentage of the first word that it does not pass over, if it looks that
far. -/
theorem percentWithin_of_rejected {n p : Nat} (hn : passed < n)
    (hrejected : ∀ k < passed, isAccepted (dice.advanceBy k).nextWord = false)
    (hp : percentOfWord? (dice.advanceBy passed).nextWord = some p) :
    percentWithin n dice = (p, dice.advanceBy (passed + 1)) := by
  obtain ⟨n, rfl⟩ := Nat.exists_eq_succ_of_ne_zero (Nat.ne_zero_of_lt hn)
  induction passed generalizing n dice with
  | zero =>
    rw [advanceBy_zero] at hp
    rw [percentWithin, hp]
    rfl
  | succ passed ih =>
    have hfirst : percentOfWord? dice.nextWord = none := by
      have hrejected := hrejected 0 (Nat.succ_pos passed)
      rwa [isAccepted, Option.isSome_eq_false_iff, Option.isNone_iff_eq_none] at hrejected
    obtain ⟨n, rfl⟩ := Nat.exists_eq_succ_of_ne_zero (Nat.ne_zero_of_lt (Nat.lt_of_succ_lt_succ hn))
    rw [percentWithin, hfirst, ← advanceBy_advance]
    refine ih (fun k hk => ?_) ?_ n (Nat.lt_of_succ_lt_succ hn)
    · rw [advanceBy_advance]
      exact hrejected (k + 1) (Nat.succ_lt_succ hk)
    · rwa [advanceBy_advance]

/-- A draw gives the percentage of the word that it takes, and goes on behind it. -/
theorem Takes.percent (h : dice.Takes passed w) :
    percentOfWord? w = some dice.percent.1 ∧ dice.percent.2 = dice.advanceBy (passed + 1) := by
  obtain ⟨p, hp⟩ := Option.isSome_iff_exists.1 h.accepted
  have hpercent : dice.percent = (p, dice.advanceBy (passed + 1)) :=
    percentWithin_of_rejected h.passed_lt h.rejected (h.nextWord_eq ▸ hp)
  rw [hpercent]
  exact ⟨hp, rfl⟩

/-- The percentage that is drawn does not exceed another one exactly when the word that is taken
favours the other one. -/
theorem Takes.percent_le (h : dice.Takes passed w) (percentage : Nat) :
    decide (dice.percent.1 ≤ percentage) = favours percentage w := by
  rw [favours, h.percent.1]
  rfl

/-- An event happens when the word that is taken favours it. -/
theorem Takes.chance (h : dice.Takes passed w) (percentage : Nat) :
    dice.chance percentage = (favours percentage w, dice.advanceBy (passed + 1)) :=
  Prod.ext (h.percent_le percentage) h.percent.2

end Dice

/-! ## Rows with a percentage -/

/-- The gate of a row with a percentage draws one, and lets the row through if the percentage does
not exceed the noun. -/
theorem Pass.gate_of_isGated {row : Row} (h : row.isGated = true) (pass : Pass) :
    pass.gate row.trigger.noun =
      (decide (pass.dice.percent.1 ≤ row.trigger.noun), pass.draw.2) := by
  have hnoun : row.trigger.noun ≠ 0 := by
    simp only [Row.isGated, Bool.and_eq_true, decide_eq_true_eq] at h
    exact Nat.ne_of_gt h.2
  rw [gate_eq_draw, if_neg hnoun]
  rfl

/-- Draws are fair.  Of all words of 32 bits, a hundred times 2 ^ 25 are not passed over; each of
these gives a percentage from 1 to 100, and each percentage comes from 2 ^ 25 of them.  An event of
so many times out of a hundred happens for exactly that many times 2 ^ 25 words, and for all that
are not passed over from a hundred times on.  A draw goes by the first word that it does not pass
over: an event happens if it happens for this word, and a row with a percentage is let through, and
tried, if its noun is the percentage of an event that does.  From a hundred on its noun always lets
the row through. -/
theorem Dice.exact_share (percentage : Nat) (ctx : Context) {row : NumberedRow}
    (hrow : row.1.isGated = true) {pass : Pass} {passed : Nat} {w : UInt32}
    (h : pass.dice.Takes passed w) :
    ((Finset.univ.filter fun w => isAccepted w).card = 100 * 0x2000000 ∧
      (favouring percentage).card = min percentage 100 * 0x2000000 ∧
      (∀ p ∈ Finset.Icc 1 100, (wordsOf p).card = 0x2000000) ∧
      ∀ w, isAccepted w = true ↔ ∃ p ∈ Finset.Icc 1 100, percentOfWord? w = some p) ∧
    pass.dice.chance percentage = (favours percentage w, pass.dice.advanceBy (passed + 1)) ∧
    pass.gate row.1.trigger.noun = (favours row.1.trigger.noun w, pass.draw.2) ∧
    pass.plainStep ctx row =
      (if favours row.1.trigger.noun w then pass.draw.2.tryRow ctx row else pass.draw.2) ∧
    (100 ≤ row.1.trigger.noun → ∀ pass : Pass, (pass.gate row.1.trigger.noun).1 = true) := by
  have hgate : pass.gate row.1.trigger.noun = (favours row.1.trigger.noun w, pass.draw.2) := by
    rw [pass.gate_of_isGated hrow, h.percent_le]
  have hautomatic : row.1.trigger.isAutomatic = true := by
    simp only [Row.isGated, Bool.and_eq_true] at hrow
    exact hrow.1
  refine ⟨⟨card_accepted, card_favouring percentage,
    fun p hp => card_wordsOf (Finset.mem_Icc.1 hp), fun w => ?_⟩, h.chance percentage, hgate, ?_,
    fun hsure pass => ?_⟩
  · rw [isAccepted, Option.isSome_iff_exists]
    exact exists_congr fun p => (and_iff_right_of_imp fun hp =>
      Finset.mem_Icc.2 (bounds_of_percentOfWord? hp)).symm
  · rw [Pass.plainStep_of_isAutomatic hautomatic, hgate]
  · rw [pass.gate_of_isGated hrow, decide_eq_true_eq]
    exact (percent_bounds pass.dice).2.trans hsure

/-- Dice that pass over one word and give the percentage 67 for the next.  An event of 66 times out
of a hundred does not happen, and a row with the noun 67 is tried. -/
theorem Dice.exact_share_second_word :
    let ctx : Context := { world := World.larder, settings := {} }
    let row : NumberedRow := (⟨67, .replicate 5 0, #v[0, 1]⟩, 0)
    let pass : Pass := ⟨⟨State.initial World.larder, {}⟩, ofSeed 17⟩
    row.1.isGated = true ∧ pass.dice.Takes 1 2858407886 ∧
      (favouring 66).card = 66 * 0x2000000 ∧
      pass.dice.chance 66 = (false, pass.dice.advanceBy 2) ∧
      pass.plainStep ctx row = pass.draw.2.tryRow ctx row := by
  intro ctx row pass
  have hrow : row.1.isGated = true := by decide
  have htakes : pass.dice.Takes 1 2858407886 :=
    ⟨by decide, by decide +kernel, by decide +kernel, by decide +kernel⟩
  obtain ⟨⟨-, hcard, -, -⟩, hchance, -, htried, -⟩ := exact_share 66 ctx hrow htakes
  have hword : favours 66 2858407886 = false ∧ favours row.1.trigger.noun 2858407886 = true := by
    decide +kernel
  rw [hword.1] at hchance
  rw [if_pos hword.2] at htried
  exact ⟨hrow, htakes, hcard, hchance, htried⟩

end TextAdventure
