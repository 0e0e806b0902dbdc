import TextAdventure.Proofs.StoredTreasures

/-!
# The rating of the score

The score rates the stored treasures out of a hundred, by the number of treasures that the header of
the data gives.  This number is not compared with the treasures that there are.  If there are more
of them, the player can be congratulated while some are missing, and with a hundredth more of them
the rating can exceed a hundred.  If there are not, the rating is a percentage, and it is a hundred
with all treasures stored when the player is congratulated.

Main results:

- Theorem `Narration.rating_mono`: more stored treasures do not rate lower.
- Theorem `Narration.rating_le_iff`: the number of stored treasures that rates a hundred at most.
- Theorems `Session.rating_le_iff_of_reached` and `Session.wellDone_iff_of_reached`: the worlds in
  which these numbers are never exceeded.
- Theorem `Session.rating_is_percentage_iff`: both, in a world that has been read.
-/

namespace TextAdventure

/-! ## Ratings -/

/-- A treasure that is brought to the treasure room joins those that are there. -/
theorem World.storedItems_subset_moveItem (world : World) (s : State) (item : Nat) :
    world.storedItems s ⊆ world.storedItems (s.moveItem item world.header.treasureRoom) := by
  intro i hi
  rw [mem_storedItems_iff] at hi ⊢
  refine ⟨hi.1, ?_⟩
  by_cases hitem : i = item
  · have hlength := (List.getElem?_eq_some_iff.1 hi.2).1
    rw [← hitem, State.location?_moveItem_same _ _ hlength]
  · rw [State.location?_moveItem_of_ne _ _ hitem, hi.2]

namespace Narration

variable {world : World} {s t : State}

/-- More stored treasures do not rate lower. -/
theorem rating_mono (h : world.storedItems s ⊆ world.storedItems t) :
    rating world s ≤ rating world t := by
  have hstored : storedTreasures world s ≤ storedTreasures world t := by
    rw [storedTreasures_eq_card, storedTreasures_eq_card]
    exact Finset.card_le_card h
  unfold rating
  split_ifs
  · exact Nat.le_refl 100
  · exact Nat.div_le_div_right (Nat.mul_le_mul_right 100 hstored)

/-- The rating is at most a hundred as long as the stored treasures exceed those of the header by
less than a hundredth. -/
theorem rating_le_iff :
    rating world s ≤ 100 ↔
      world.header.treasures = 0 ∨
        100 * (world.storedItems s).card < 101 * world.header.treasures := by
  unfold rating
  rw [storedTreasures_eq_card]
  split_ifs with hnone
  · simp [hnone]
  · rw [← Nat.lt_succ_iff, Nat.div_lt_iff_lt_mul (Nat.pos_of_ne_zero hnone)]
    omega

/-- The player is congratulated when the stored treasures are as many as those of the header, and
there are some. -/
theorem wellDone_mem_score_iff :
    "Well done." ∈ score world s ↔
      0 < world.header.treasures ∧ world.header.treasures ≤ (world.storedItems s).card := by
  have hstored : "Well done." ≠ s!"I've stored {storedTreasures world s} treasures." := by
    intro h
    have hletters := congrArg String.toList h
    simp [toString] at hletters
  have hrated : "Well done." ≠ s!"On a scale of 0 to 100, that rates {rating world s}." := by
    intro h
    have hletters := congrArg String.toList h
    simp [toString] at hletters
  rw [← storedTreasures_eq_card]
  simp only [score, List.mem_append, List.mem_cons, hstored, hrated, List.not_mem_nil, or_false,
    false_or]
  split_ifs with henough
  · simp [henough]
  · simp [henough]

/-- When the stored treasures are as many as those of the header, they rate a hundred. -/
theorem rating_eq_of_card (h : (world.storedItems s).card = world.header.treasures) :
    rating world s = 100 := by
  unfold rating
  rw [storedTreasures_eq_card, h]
  split_ifs with hnone
  · rfl
  · rw [Nat.mul_div_cancel_left _ (Nat.pos_of_ne_zero hnone)]

end Narration

/-! ## Worlds in which the rating is a percentage -/

namespace Session

open Narration

section Runs

variable {world : World} (hworld : world.WellFormed) (settings : Settings) (dice : Dice)

include hworld

/-- The rating never exceeds a hundred exactly when all treasures that can be stored rate a hundred
at most. -/
theorem rating_le_iff_of_reached :
    (∀ operations st, (new world settings dice).Visits operations st → rating world st ≤ 100) ↔
      world.header.treasures = 0 ∨ world.isLocation world.header.treasureRoom = false ∨
        100 * world.treasureItems.card < 101 * world.header.treasures := by
  constructor
  · intro h
    by_cases hroom : world.isLocation world.header.treasureRoom = true
    · -- Let all treasures be stored.
      have hvisits := visits_gathered hworld settings dice hroom world.treasureItems
      have hrating := rating_le_iff.1 (h _ _ hvisits)
      rw [World.storedItems_gathered (Finset.Subset.refl _)] at hrating
      exact hrating.imp_right Or.inr
    · exact Or.inr (Or.inl (Bool.eq_false_of_not_eq_true hroom))
  · rintro h operations st hst
    have hfits := (sound_new hworld settings dice).fits_of_visits hworld hst
    rw [rating_le_iff]
    rcases h with hnone | hroom | hcount
    · exact Or.inl hnone
    · rw [World.storedItems_eq_empty hfits hroom, Finset.card_empty]
      omega
    · have hcard := Finset.card_le_card (world.storedItems_subset st)
      omega

/-- The player is only congratulated with a rating of a hundred and all treasures in store exactly
when there are no more treasures that can be stored than those of the header. -/
theorem wellDone_iff_of_reached :
    (∀ operations st, (new world settings dice).Visits operations st →
        "Well done." ∈ score world st →
          rating world st = 100 ∧ world.storedItems st = world.treasureItems) ↔
      world.header.treasures = 0 ∨ world.isLocation world.header.treasureRoom = false ∨
        world.treasureItems.card ≤ world.header.treasures := by
  constructor
  · intro h
    by_contra hmore
    rw [not_or, not_or, Bool.not_eq_false, Nat.not_le] at hmore
    obtain ⟨hsome, hroom, hcount⟩ := hmore
    -- Let all treasures be stored but one.
    obtain ⟨i, hi⟩ := Finset.card_pos.1 (Nat.zero_lt_of_lt hcount)
    have hvisits := visits_gathered hworld settings dice hroom (world.treasureItems.erase i)
    have hstored := World.storedItems_gathered (Finset.erase_subset i world.treasureItems)
    have hwellDone := h _ _ hvisits (by
      rw [wellDone_mem_score_iff, hstored, Finset.card_erase_of_mem hi]
      omega)
    rw [hstored] at hwellDone
    exact Finset.erase_ne_self.2 hi hwellDone.2
  · intro h operations st hst hwellDone
    have hfits := (sound_new hworld settings dice).fits_of_visits hworld hst
    obtain ⟨hsome, henough⟩ := wellDone_mem_score_iff.1 hwellDone
    have hsubset := world.storedItems_subset st
    have hcard := Finset.card_le_card hsubset
    rcases h with hnone | hroom | hcount
    · omega
    · rw [World.storedItems_eq_empty hfits hroom, Finset.card_empty] at henough
      omega
    · exact ⟨rating_eq_of_card (by omega), Finset.eq_of_subset_of_card_le hsubset (by omega)⟩

end Runs

/-- In a world that has been read, with its own action table or with any other rows, and with any
settings, the second line of the score prints the rating, and bringing an item to the treasure room
never lowers it.  The rating is at most a hundred in every state that a run leads through exactly
when the treasures exceed those of the header by less than a hundredth; and the player is only
congratulated with a rating of a hundred and all treasures in store exactly when they do not exceed
them at all.  Neither can fail where the header gives no treasures, or a treasure room that is not a
location. -/
theorem rating_is_percentage_iff {text : String} {world : World}
    (hread : World.read text = .ok world) (rows : List Row) (settings : Settings) (dice : Dice) :
    let world := { world with rows }
    (∀ st, (score world st)[1]? =
      some s!"On a scale of 0 to 100, that rates {rating world st}.") ∧
    (∀ st item, rating world st ≤ rating world (st.moveItem item world.header.treasureRoom)) ∧
    ((∀ operations st, (new world settings dice).Visits operations st → rating world st ≤ 100) ↔
      world.header.treasures = 0 ∨ world.isLocation world.header.treasureRoom = false ∨
        100 * world.treasureItems.card < 101 * world.header.treasures) ∧
    ((∀ operations st, (new world settings dice).Visits operations st →
        "Well done." ∈ score world st →
          rating world st = 100 ∧ world.storedItems st = world.treasureItems) ↔
      world.header.treasures = 0 ∨ world.isLocation world.header.treasureRoom = false ∨
        world.treasureItems.card ≤ world.header.treasures) := by
  intro world'
  have hworld : world'.WellFormed := (World.wellFormed_of_read hread).withRows rows
  exact ⟨fun _ => rfl, fun st item => rating_mono (world'.storedItems_subset_moveItem st item),
    rating_le_iff_of_reached hworld settings dice, wellDone_iff_of_reached hworld settings dice⟩

/-- In the purse, whose header gives both treasures, the rating is a percentage, and the player is
only congratulated when both are in store. -/
theorem rating_is_percentage_purse :
    World.read purseText = .ok purse ∧
      (∀ operations st, (new purse {} (Dice.ofSeed 0)).Visits operations st →
        rating purse st ≤ 100) ∧
      ∀ operations st, (new purse {} (Dice.ofSeed 0)).Visits operations st →
        "Well done." ∈ score purse st → rating purse st = 100 ∧ purse.storedItems st = {0, 1} := by
  obtain ⟨-, -, hrating, hwellDone⟩ :=
    rating_is_percentage_iff read_purse purse.rows {} (Dice.ofSeed 0)
  refine ⟨read_purse, hrating.2 ?_, hwellDone.2 ?_⟩
  · exact Or.inr (Or.inr (by decide))
  · exact Or.inr (Or.inr (by decide))

/-- The rating is not always a percentage.  In the hoard, whose header gives one treasure, two
treasures in store rate two hundred; and from the start the player is congratulated for one. -/
theorem not_rating_is_percentage :
    (¬∀ text world, World.read text = .ok world →
      ∀ (settings : Settings) (dice : Dice) (operations : List Operation) (st : State),
        (new world settings dice).Visits operations st → rating world st ≤ 100) ∧
    ¬∀ text world, World.read text = .ok world →
      ∀ (settings : Settings) (dice : Dice) (operations : List Operation) (st : State),
        (new world settings dice).Visits operations st → "Well done." ∈ score world st →
          rating world st = 100 ∧ world.storedItems st = world.treasureItems := by
  have hworld := World.wellFormed_of_read read_hoard
  constructor
  · intro h
    have hvisits := visits_gathered hworld {} (Dice.ofSeed 0) (by decide) {0, 1}
    exact absurd (h _ hoard read_hoard _ _ _ _ hvisits) (by decide)
  · intro h
    have hwellDone := h _ hoard read_hoard {} (Dice.ofSeed 0) [] (State.initial hoard) (Or.inl rfl)
      (by decide)
    exact absurd hwellDone.2 (by decide)

end Session

end TextAdventure
