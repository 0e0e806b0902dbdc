import Mathlib.Data.Prod.Lex
import TextAdventure.Proofs.UppercaseText

/-!
# The word that a typed word stands for

A typed word is looked up in four searches, each with a filter of its own.  Here the same is said
by a ranking.  The stored words that agree with the typed one are ranked by three things: a primary
word comes before a synonym, a word that was typed in full before one that was not, and then the one
that is stored first.  The best of them decides, either by its own number or, if it is a synonym, by
that of the nearest primary word of its kind before it.

Main results:

- Structure `Dictionary.Matches`: a stored word agrees with a typed one.
- Definitions `Dictionary.rank` and `Dictionary.IsBest`: the ranking, and the best of the matches.
- Structure `Dictionary.IsPrimaryBefore`: the nearest primary word before a place.
- Theorem `Dictionary.lookup_ranked`: a typed word is resolved by its best match.
-/

namespace TextAdventure

open Text

namespace Dictionary

variable {d : Dictionary} {kind : WordKind} {word : String} {v w : Word} {place other : Nat}

/-! ## Matches and their ranking -/

/-- The word that is stored at a place is of the kind asked for, can be matched, and agrees with the
typed word in the characters that count. -/
structure Matches (d : Dictionary) (kind : WordKind) (word : String) (w : Word) (place : Nat) :
    Prop where
  stored : d.words[place]? = some w
  kind_eq : w.kind = kind
  index_ne : w.index ≠ 0
  text_ne : w.text ≠ ""
  agrees : truncate d.wordLength (upper w.text) = truncate d.wordLength (upper word)

/-- The rank of a stored word for a typed one: primary words come before synonyms, words that were
typed in full before those that were not, and words in the order in which they are stored. -/
def rank (word : String) (w : Word) (place : Nat) : Bool ×ₗ Bool ×ₗ Nat :=
  toLex (w.isSynonym, toLex (upper w.text != upper word, place))

/-- A match whose rank is the least. -/
structure IsBest (d : Dictionary) (kind : WordKind) (word : String) (w : Word) (place : Nat) :
    Prop extends d.Matches kind word w place where
  rank_le : ∀ {v other}, d.Matches kind word v other → rank word w place ≤ rank word v other

/-- The nearest primary word of a kind that is stored before a place. -/
structure IsPrimaryBefore (d : Dictionary) (kind : WordKind) (place : Nat) (v : Word)
    (other : Nat) : Prop where
  before : other < place
  stored : d.words[other]? = some v
  kind_eq : v.kind = kind
  primary : v.isSynonym = false
  nearest : ∀ between u, other < between → between < place → d.words[between]? = some u →
    u.kind = kind → u.isSynonym = true

/-! ## Searches -/

/-- Of the entries that pass a test, a search in a list in order finds the first. -/
theorem le_of_find?_eq_some {entries : List (Word × Nat)} {test : Word × Nat → Bool}
    {found entry : Word × Nat} (hsorted : entries.Pairwise fun a b => a.2 < b.2)
    (hfound : entries.find? test = some found) (hentry : entry ∈ entries)
    (htest : test entry = true) : found.2 ≤ entry.2 := by
  obtain ⟨-, before, behind, rfl, hfails⟩ := List.find?_eq_some_iff_append.1 hfound
  rcases List.mem_append.1 hentry with hbefore | hrest
  · simpa [htest] using hfails entry hbefore
  · rcases List.mem_cons.1 hrest with rfl | hbehind
    · exact Nat.le_refl _
    · have hcons := (List.pairwise_append.1 hsorted).2.1
      exact Nat.le_of_lt (List.rel_of_pairwise_cons hcons hbehind)

theorem mem_candidates_iff :
    (w, place) ∈ d.candidates kind ↔
      d.words[place]? = some w ∧ w.kind = kind ∧ w.index ≠ 0 ∧ w.text ≠ "" := by
  simp [candidates, List.mem_zipIdx_iff_getElem?, Word.isCandidate, and_assoc]

/-- Candidates come in the order in which they are stored. -/
theorem pairwise_candidates (d : Dictionary) (kind : WordKind) :
    (d.candidates kind).Pairwise fun a b => a.2 < b.2 := by
  refine List.Pairwise.filter _ ?_
  have hplaces : (d.words.zipIdx.map Prod.snd).Pairwise (· < ·) := by
    rw [List.zipIdx_map_snd]
    exact List.pairwise_lt_range'
  exact List.pairwise_map.1 hplaces

/-- A word that was typed in full agrees in the characters that count. -/
theorem isTruncated_of_isExact {typed : String} (h : isExact typed w = true) :
    d.isTruncated typed w = true := by
  simp only [isExact, beq_iff_eq] at h
  simp [isTruncated, h]

theorem matches_iff :
    d.Matches kind word w place ↔
      (w, place) ∈ d.candidates kind ∧ d.isTruncated (upper word) w = true := by
  rw [mem_candidates_iff, isTruncated, beq_iff_eq]
  constructor
  · intro h
    exact ⟨⟨h.stored, h.kind_eq, h.index_ne, h.text_ne⟩, h.agrees⟩
  · rintro ⟨⟨hstored, hkind, hindex, htext⟩, hagrees⟩
    exact ⟨hstored, hkind, hindex, htext, hagrees⟩

/-! ## Comparing ranks -/

/-- Of two words that are both primary or both synonyms, one that was typed in full ranks before one
that was not, and otherwise the one that is stored first ranks before the other. -/
theorem rank_le_rank (hsynonym : w.isSynonym = v.isSynonym)
    (h : isExact (upper word) v = true → isExact (upper word) w = true)
    (hplace : isExact (upper word) w = isExact (upper word) v → place ≤ other) :
    rank word w place ≤ rank word v other := by
  have hinner : toLex (upper w.text != upper word, place) ≤
      toLex (upper v.text != upper word, other) := by
    rw [Prod.Lex.toLex_le_toLex]
    unfold isExact at h hplace
    cases hw : upper w.text == upper word <;> cases hv : upper v.text == upper word
    · exact Or.inr ⟨by simp [bne, hw, hv], hplace (hw.trans hv.symm)⟩
    · rw [h hv] at hw
      cases hw
    · exact Or.inl (by simp [bne, hw, hv])
    · exact Or.inr ⟨by simp [bne, hw, hv], hplace (hw.trans hv.symm)⟩
  exact Prod.Lex.toLex_le_toLex.2 (Or.inr ⟨hsynonym, hinner⟩)

/-- A primary word ranks before a synonym. -/
theorem rank_le_of_primary (hw : w.isSynonym = false) (hv : v.isSynonym = true) :
    rank word w place ≤ rank word v other :=
  Prod.Lex.toLex_le_toLex.2 (Or.inl (by simp [hw, hv]))

/-- Words of the same rank are at the same place. -/
theorem place_eq_of_rank_eq (h : rank word w place = rank word v other) : place = other := by
  have hinner := congrArg Prod.snd (toLex.injective h)
  exact congrArg Prod.snd (toLex.injective hinner)

/-- There is at most one best match. -/
theorem IsBest.unique (hw : d.IsBest kind word w place) (hv : d.IsBest kind word v other) :
    v = w ∧ other = place := by
  have hplace := place_eq_of_rank_eq (le_antisymm (hv.rank_le hw.toMatches)
    (hw.rank_le hv.toMatches))
  subst hplace
  exact ⟨Option.some.inj (hv.stored.symm.trans hw.stored), rfl⟩

/-! ## The best of the primary words, and of the synonyms -/

/-- The best among the primary words, or among the synonyms, is a match, and no other match among
them ranks before it. -/
theorem matches_of_bestAmong {synonym : Bool}
    (h : d.bestAmong (upper word) kind synonym = some (w, place)) :
    d.Matches kind word w place ∧ w.isSynonym = synonym ∧
      ∀ v other, d.Matches kind word v other → v.isSynonym = synonym →
        rank word w place ≤ rank word v other := by
  have hsorted := (d.pairwise_candidates kind).filter fun entry => entry.1.isSynonym == synonym
  have hmember : ∀ v other, d.Matches kind word v other → v.isSynonym = synonym →
      (v, other) ∈ (d.candidates kind).filter fun entry => entry.1.isSynonym == synonym :=
    fun v other hv hsynonym =>
      List.mem_filter.2 ⟨(matches_iff.1 hv).1, beq_iff_eq.2 hsynonym⟩
  unfold bestAmong at h
  rcases Option.or_eq_some_iff.1 h with hexact | ⟨hnone, htruncated⟩
  · have hw : isExact (upper word) w = true := by simpa using List.find?_some hexact
    obtain ⟨hcandidate, hsynonym⟩ := List.mem_filter.1 (List.mem_of_find?_eq_some hexact)
    have hkind : w.isSynonym = synonym := beq_iff_eq.1 hsynonym
    refine ⟨matches_iff.2 ⟨hcandidate, isTruncated_of_isExact hw⟩, hkind, ?_⟩
    intro v other hv hsame
    refine rank_le_rank (hkind.trans hsame.symm) (fun _ => hw) fun hboth => ?_
    exact le_of_find?_eq_some hsorted hexact (hmember v other hv hsame) (hboth.symm.trans hw)
  · have hw : d.isTruncated (upper word) w = true := by simpa using List.find?_some htruncated
    obtain ⟨hcandidate, hsynonym⟩ := List.mem_filter.1 (List.mem_of_find?_eq_some htruncated)
    have hkind : w.isSynonym = synonym := beq_iff_eq.1 hsynonym
    refine ⟨matches_iff.2 ⟨hcandidate, hw⟩, hkind, ?_⟩
    intro v other hv hsame
    have hmem := hmember v other hv hsame
    -- No word among them was typed in full, or the first search would have found one.
    have hnot : isExact (upper word) v = false := by simpa using List.find?_eq_none.1 hnone _ hmem
    refine rank_le_rank (hkind.trans hsame.symm) (fun hv' => absurd (hnot.symm.trans hv') (by simp))
      fun _ => ?_
    exact le_of_find?_eq_some hsorted htruncated hmem (matches_iff.1 hv).2

/-- Where there is no best among the primary words, or among the synonyms, there is no match. -/
theorem not_matches_of_bestAmong_eq_none {synonym : Bool}
    (h : d.bestAmong (upper word) kind synonym = none) (hsynonym : w.isSynonym = synonym) :
    ¬d.Matches kind word w place := by
  intro hw
  unfold bestAmong at h
  obtain ⟨-, htruncated⟩ := Option.or_eq_none_iff.1 h
  have hmem : (w, place) ∈ (d.candidates kind).filter fun entry => entry.1.isSynonym == synonym :=
    List.mem_filter.2 ⟨(matches_iff.1 hw).1, beq_iff_eq.2 hsynonym⟩
  exact List.find?_eq_none.1 htruncated _ hmem (matches_iff.1 hw).2

/-- The best among the primary words is the best of all. -/
theorem isBest_of_primary (h : d.bestAmong (upper word) kind false = some (w, place)) :
    d.IsBest kind word w place ∧ w.isSynonym = false := by
  obtain ⟨hmatches, hprimary, hleast⟩ := matches_of_bestAmong h
  refine ⟨⟨hmatches, fun {v other} hv => ?_⟩, hprimary⟩
  cases hsynonym : v.isSynonym with
  | false => exact hleast v other hv hsynonym
  | true => exact rank_le_of_primary hprimary hsynonym

/-- Where no primary word matches, the best among the synonyms is the best of all. -/
theorem isBest_of_synonym (hnone : d.bestAmong (upper word) kind false = none)
    (h : d.bestAmong (upper word) kind true = some (w, place)) :
    d.IsBest kind word w place ∧ w.isSynonym = true := by
  obtain ⟨hmatches, hsynonym, hleast⟩ := matches_of_bestAmong h
  refine ⟨⟨hmatches, fun {v other} hv => ?_⟩, hsynonym⟩
  cases hv' : v.isSynonym with
  | false => exact absurd hv (not_matches_of_bestAmong_eq_none hnone hv')
  | true => exact hleast v other hv hv'

/-! ## The nearest primary word -/

/-- What is stored at a place is no nearest primary word for the next place, if it is no primary
word of the kind. -/
theorem isPrimaryBefore_succ_iff
    (h : ∀ u, d.words[place]? = some u → u.kind = kind → u.isSynonym = true) :
    d.IsPrimaryBefore kind (place + 1) v other ↔ d.IsPrimaryBefore kind place v other := by
  constructor
  · intro hv
    have hne : other ≠ place := by
      rintro rfl
      have hsynonym := h v hv.stored hv.kind_eq
      rw [hv.primary] at hsynonym
      cases hsynonym
    have hbefore := hv.before
    exact ⟨by omega, hv.stored, hv.kind_eq, hv.primary,
      fun between u hafter hbetween => hv.nearest between u hafter (by omega)⟩
  · intro hv
    have hbefore := hv.before
    refine ⟨by omega, hv.stored, hv.kind_eq, hv.primary, fun between u hafter hbetween hu => ?_⟩
    rcases Nat.lt_succ_iff_lt_or_eq.1 hbetween with hlt | rfl
    · exact hv.nearest between u hafter hlt hu
    · exact h u hu

/-- A primary word of the kind is the nearest one for the place behind it. -/
theorem isPrimaryBefore_succ_self (hstored : d.words[place]? = some w) (hkind : w.kind = kind)
    (hprimary : w.isSynonym = false) : d.IsPrimaryBefore kind (place + 1) w place :=
  ⟨Nat.lt_succ_self _, hstored, hkind, hprimary, fun between _ hafter hbefore => by omega⟩

/-- There is at most one nearest primary word. -/
theorem IsPrimaryBefore.unique (hv : d.IsPrimaryBefore kind place v other) {u : Word} {place' : Nat}
    (hu : d.IsPrimaryBefore kind place u place') : u = v := by
  rcases Nat.lt_trichotomy other place' with hlt | rfl | hlt
  · have hsynonym := hv.nearest place' u hlt hu.before hu.stored hu.kind_eq
    rw [hu.primary] at hsynonym
    cases hsynonym
  · exact Option.some.inj (hu.stored.symm.trans hv.stored)
  · have hsynonym := hu.nearest other v hlt hv.before hv.stored hv.kind_eq
    rw [hv.primary] at hsynonym
    cases hsynonym

/-- Looking back from the next place, the word at the place is seen first. -/
theorem primaryBefore?_succ (d : Dictionary) (kind : WordKind) (place : Nat) :
    d.primaryBefore? kind (place + 1) =
      ((d.words[place]?.filter fun w => w.kind == kind && !w.isSynonym).map Word.index).or
        (d.primaryBefore? kind place) := by
  unfold primaryBefore?
  rw [List.take_add_one, List.reverse_append, List.find?_append, Option.map_or]
  cases d.words[place]? with
  | none => rfl
  | some w =>
    cases htest : w.kind == kind && !w.isSynonym with
    | false => simp [Option.filter, htest]
    | true => simp [Option.filter, htest]

/-- The number that is found before a place is that of the nearest primary word there. -/
theorem primaryBefore?_eq_some_iff {n : Nat} :
    d.primaryBefore? kind place = some n ↔
      ∃ v other, d.IsPrimaryBefore kind place v other ∧ v.index = n := by
  induction place with
  | zero =>
    constructor
    · intro h
      simp [primaryBefore?] at h
    · rintro ⟨v, other, hv, -⟩
      exact absurd hv.before (Nat.not_lt_zero _)
  | succ place ih =>
    rw [primaryBefore?_succ]
    cases hfound : d.words[place]?.filter fun w => w.kind == kind && !w.isSynonym with
    | none =>
      have hother : ∀ u, d.words[place]? = some u → u.kind = kind → u.isSynonym = true := by
        intro u hu hkind
        simpa [hu, hkind] using hfound
      simp only [isPrimaryBefore_succ_iff hother]
      exact ih
    | some w =>
      obtain ⟨hstored, htest⟩ := Option.filter_eq_some_iff.1 hfound
      simp only [Bool.and_eq_true, beq_iff_eq, Bool.not_eq_true'] at htest
      have hself := isPrimaryBefore_succ_self hstored htest.1 htest.2
      constructor
      · intro h
        exact ⟨w, place, hself, Option.some.inj h⟩
      · rintro ⟨v, other, hv, rfl⟩
        rw [hself.unique hv]
        rfl

/-! ## Looking a word up -/

/-- Where anything matches, one match is the best. -/
theorem exists_isBest (h : d.Matches kind word w place) :
    ∃ best place, d.IsBest kind word best place := by
  cases hprimary : d.bestAmong (upper word) kind false with
  | some found => exact ⟨found.1, found.2, (isBest_of_primary hprimary).1⟩
  | none =>
    cases hsynonym : d.bestAmong (upper word) kind true with
    | some found => exact ⟨found.1, found.2, (isBest_of_synonym hprimary hsynonym).1⟩
    | none =>
      cases hw : w.isSynonym with
      | false => exact absurd h (not_matches_of_bestAmong_eq_none hprimary hw)
      | true => exact absurd h (not_matches_of_bestAmong_eq_none hsynonym hw)

/-- A word that is not empty has the number that its best match stands for. -/
theorem lookup_of_isBest (hword : word ≠ "") (h : d.IsBest kind word w place) :
    d.lookup kind word =
      if w.isSynonym then d.primaryBefore? kind place else some w.index := by
  have htyped : upper word ≠ "" := upper_eq_empty_iff.not.2 hword
  unfold lookup
  rw [if_neg htyped]
  cases hprimary : d.bestAmong (upper word) kind false with
  | some found =>
    obtain ⟨v, other⟩ := found
    obtain ⟨hbest, hkind⟩ := isBest_of_primary hprimary
    obtain ⟨rfl, -⟩ := hbest.unique h
    simp [hkind]
  | none =>
    cases hsynonym : d.bestAmong (upper word) kind true with
    | some found =>
      obtain ⟨v, other⟩ := found
      obtain ⟨hbest, hkind⟩ := isBest_of_synonym hprimary hsynonym
      obtain ⟨rfl, rfl⟩ := hbest.unique h
      simp [hkind]
    | none =>
      cases hw : w.isSynonym with
      | false => exact absurd h.toMatches (not_matches_of_bestAmong_eq_none hprimary hw)
      | true => exact absurd h.toMatches (not_matches_of_bestAmong_eq_none hsynonym hw)

/-- A word without a match has no number. -/
theorem lookup_of_not_matches (h : ∀ w place, ¬d.Matches kind word w place) :
    d.lookup kind word = none := by
  have hnone : ∀ synonym, d.bestAmong (upper word) kind synonym = none := by
    intro synonym
    rw [Option.eq_none_iff_forall_ne_some]
    intro found hfound
    exact h found.1 found.2 (matches_of_bestAmong hfound).1
  unfold lookup
  simp [hnone]

/-- A typed word is resolved to a number exactly when its best match has it, as a primary word, or
leads to it, as a synonym. -/
theorem lookup_eq_some_iff {n : Nat} :
    d.lookup kind word = some n ↔
      word ≠ "" ∧ ∃ w place, d.IsBest kind word w place ∧
        (w.isSynonym = false ∧ w.index = n ∨
          w.isSynonym = true ∧ ∃ v other, d.IsPrimaryBefore kind place v other ∧ v.index = n) := by
  constructor
  · intro hn
    have hword : word ≠ "" := by
      rintro rfl
      simp at hn
    have hmatches : ∃ w place, d.Matches kind word w place := by
      by_contra hnone
      rw [lookup_of_not_matches fun w place h => hnone ⟨w, place, h⟩] at hn
      cases hn
    obtain ⟨w, place, hmatches⟩ := hmatches
    obtain ⟨best, first, hbest⟩ := exists_isBest hmatches
    rw [lookup_of_isBest hword hbest] at hn
    refine ⟨hword, best, first, hbest, ?_⟩
    cases hkind : best.isSynonym with
    | false => exact Or.inl ⟨rfl, by simpa [hkind] using hn⟩
    | true => exact Or.inr ⟨rfl, primaryBefore?_eq_some_iff.1 (by simpa [hkind] using hn)⟩
  · rintro ⟨hword, w, place, hbest, ⟨hprimary, rfl⟩ | ⟨hsynonym, hnearest⟩⟩
    · rw [lookup_of_isBest hword hbest, hprimary]
      rfl
    · rw [lookup_of_isBest hword hbest, hsynonym, if_pos rfl]
      exact primaryBefore?_eq_some_iff.2 hnearest

/-- A typed word is resolved by its best match: by the number of a primary word, or by that of the
nearest primary word before a synonym.  Where anything matches, one match is the best. -/
theorem lookup_ranked (d : Dictionary) (kind : WordKind) (word : String) :
    ((∃ w place, d.Matches kind word w place) →
      ∃! best : Word × Nat, d.IsBest kind word best.1 best.2) ∧
    ∀ n, d.lookup kind word = some n ↔
      word ≠ "" ∧ ∃ w place, d.IsBest kind word w place ∧
        (w.isSynonym = false ∧ w.index = n ∨
          w.isSynonym = true ∧ ∃ v other, d.IsPrimaryBefore kind place v other ∧ v.index = n) := by
  refine ⟨?_, fun n => lookup_eq_some_iff⟩
  rintro ⟨w, place, hmatches⟩
  obtain ⟨best, first, hbest⟩ := exists_isBest hmatches
  refine ⟨(best, first), hbest, fun found hfound => ?_⟩
  obtain ⟨hword, hplace⟩ := hbest.unique hfound
  exact Prod.ext hword hplace

/-- A dictionary in which two synonyms agree with a typed word, the first only in the characters
that count, and the nearest word before them is a noun. -/
def ballroom : Dictionary where
  words := [⟨"AUT", false, .verb, 0⟩, ⟨"GO", false, .verb, 1⟩, ⟨"WALL", false, .noun, 1⟩,
    ⟨"WALK", true, .verb, 2⟩, ⟨"WALTZ", true, .verb, 3⟩]
  wordLength := 3

theorem lookup_ranked_ballroom :
    ballroom.Matches .verb "waltz" ⟨"WALK", true, .verb, 2⟩ 3 ∧
      ballroom.lookup .verb "waltz" = some 1 ∧
      (∃! best : Word × Nat, ballroom.IsBest .verb "waltz" best.1 best.2) ∧
      ∃ w place, ballroom.IsBest .verb "waltz" w place ∧
        (w.isSynonym = false ∧ w.index = 1 ∨ w.isSynonym = true ∧
          ∃ v other, ballroom.IsPrimaryBefore .verb place v other ∧ v.index = 1) := by
  have hmatches : ballroom.Matches .verb "waltz" ⟨"WALK", true, .verb, 2⟩ 3 :=
    ⟨rfl, rfl, by decide, by decide, by decide +kernel⟩
  have hlookup : ballroom.lookup .verb "waltz" = some 1 := by decide +kernel
  obtain ⟨hunique, hresolved⟩ := lookup_ranked ballroom .verb "waltz"
  exact ⟨hmatches, hlookup, hunique ⟨_, _, hmatches⟩, ((hresolved 1).1 hlookup).2⟩

end Dictionary

end TextAdventure
