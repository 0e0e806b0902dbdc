import TextAdventure.Proofs.ReservedWords

/-!
# The forms of a move

A move can be typed as the letter of its direction or as the full word, alone or behind a verb that
moves the player.  A direction on its own is known without the dictionary, while behind a verb the
dictionary is asked first, where a letter may agree with a noun in the characters that count.  All
forms are the same move nevertheless, provided that the nouns 1 to 6 are the words of the directions
and that no noun is spelled like a letter: the first letters of the six words are different, so that
no other noun is matched before the word of the direction.

Main results:

- Definitions `Direction.letter`, `Direction.word` and `Direction.stored`: the spellings of a
  direction, and its word in the vocabulary.
- Structure `World.SpellsDirections`: vocabularies with the words of the directions.
- Definition `Session.TypesMove`: the forms of a move.
- Theorem `Order.nounOf_direction`: the noun of every spelling behind a verb.
- Theorem `Session.turn_of_typesMove`: all forms of a move make the same turn.
-/

namespace TextAdventure

open Text

/-! ## Spellings of the directions -/

namespace Direction

/-- The letter that stands for a direction. -/
def letter : Direction → String
  | north => "N"
  | south => "S"
  | east => "E"
  | west => "W"
  | up => "U"
  | down => "D"

/-- The full word of a direction. -/
def word : Direction → String
  | north => "NORTH"
  | south => "SOUTH"
  | east => "EAST"
  | west => "WEST"
  | up => "UP"
  | down => "DOWN"

/-- The full word of a direction as a primary noun, whose number is that of the exit. -/
def stored (d : Direction) : Word :=
  ⟨d.word, false, .noun, d.slot + 1⟩

/-- A typed word, in uppercase, is a spelling of a direction. -/
def IsSpelling (d : Direction) (typed : String) : Prop :=
  typed = d.letter ∨ typed = d.word

@[simp]
theorem upper_word (d : Direction) : upper d.word = d.word := by
  cases d <;> decide +kernel

@[simp]
theorem upper_letter (d : Direction) : upper d.letter = d.letter := by
  cases d <;> decide +kernel

theorem IsSpelling.upper_eq {d : Direction} {typed : String} (h : d.IsSpelling typed) :
    upper typed = typed := by
  rcases h with rfl | rfl
  · exact d.upper_letter
  · exact d.upper_word

theorem IsSpelling.ne_empty {d : Direction} {typed : String} (h : d.IsSpelling typed) :
    typed ≠ "" := by
  rcases h with rfl | rfl
  · cases d <;> decide
  · cases d <;> decide

/-- Both spellings are known without the dictionary. -/
theorem IsSpelling.directionNoun?_eq {d : Direction} {typed : String} (h : d.IsSpelling typed) :
    directionNoun? typed = some d.stored.index := by
  rcases h with rfl | rfl
  · cases d <;> decide +kernel
  · cases d <;> decide +kernel

theorem word_ne_empty (d : Direction) : d.word ≠ "" := by
  cases d <;> decide

/-- The letter of a direction is a single character. -/
theorem letter_eq (d : Direction) : d.letter = String.ofList [d.word.toList.head!] := by
  cases d <;> decide +kernel

/-- The letter of a direction is the first character of its word. -/
theorem truncate_word (d : Direction) : truncate 1 d.word = truncate 1 d.letter := by
  cases d <;> decide +kernel

/-- The words of the directions begin with different letters. -/
theorem eq_of_head?_word {d e : Direction}
    (h : e.word.toList.head? = d.word.toList.head?) : e = d := by
  cases d <;> cases e <;> first | rfl | (revert h; decide +kernel)

end Direction

/-! ## Truncated words -/

/-- The first character of a word always counts. -/
theorem head?_truncate (length : Nat) (word : String) :
    (truncate length word).toList.head? = word.toList.head? := by
  unfold truncate
  split_ifs with hzero
  · rfl
  · rw [String.toList_ofList, List.head?_take, if_neg hzero]

/-- Where more than one character counts, only the word of a single character agrees with it. -/
theorem eq_of_truncate_singleton {length : Nat} (hlength : length ≠ 1) {c : Char} {word : String}
    (h : truncate length word = truncate length (String.ofList [c])) :
    word = String.ofList [c] := by
  unfold truncate at h
  split_ifs at h with hzero
  · exact h
  · have htake : (word.toList.take length) = [c] := by
      have hlist := String.ofList_inj.1 h
      rw [hlist, String.toList_ofList, List.take_of_length_le (by simp; omega)]
    have hall : word.toList.length ≤ length := by
      have := congrArg List.length htake
      rw [List.length_take, List.length_singleton] at this
      omega
    rw [List.take_of_length_le hall] at htake
    rw [← htake, String.ofList_toList]

/-! ## Vocabularies with the words of the directions -/

/-- The nouns 1 to 6 are the words of the directions, and no noun is spelled like the letter of a
direction. -/
structure World.SpellsDirections (world : World) : Prop where
  stored_mem : ∀ d : Direction, d.stored ∈ world.words
  ne_letter : ∀ w ∈ world.words, w.kind = .noun → ∀ d : Direction, upper w.text ≠ d.letter

namespace World.SpellsDirections

variable {world : World} {d : Direction} {typed : String} {v : Word} {place other : Nat}

/-- A noun with the number of an exit is the word of a direction. -/
theorem exists_stored_eq (h : world.SpellsDirections) (hnumbered : Word.Numbered world.words)
    (hv : v ∈ world.words) (hkind : v.kind = .noun) (hne : v.index ≠ 0) (hlt : v.index < 7) :
    ∃ e : Direction, e.stored = v := by
  have hexit : ∃ e : Direction, e.stored.index = v.index := by
    have hall : ∀ n < 7, n ≠ 0 → ∃ e ∈ Direction.all, e.stored.index = n := by decide
    obtain ⟨e, -, he⟩ := hall v.index hlt hne
    exact ⟨e, he⟩
  obtain ⟨e, he⟩ := hexit
  exact ⟨e, hnumbered.eq_of_index_eq (h.stored_mem e) hv hkind.symm he⟩

/-- Of the nouns that agree with a typed word, the word of a direction comes first. -/
theorem le_of_matches (h : world.SpellsDirections) (hnumbered : Word.Numbered world.words)
    (hd : world.dictionary.Matches .noun typed d.stored place)
    (hv : world.dictionary.Matches .noun typed v other) : place ≤ other := by
  by_contra hlt
  have hindex : v.index < d.stored.index :=
    hnumbered.index_lt hv.stored hd.stored (hv.kind_eq.trans hd.kind_eq.symm) (by omega)
  have hbound : d.stored.index < 7 := Nat.succ_lt_succ d.slot.isLt
  obtain ⟨e, rfl⟩ := h.exists_stored_eq hnumbered (List.mem_of_getElem? hv.stored) hv.kind_eq
    hv.index_ne (by omega)
  -- Both words begin with the first letter of the typed one.
  have hheads : e.word.toList.head? = d.word.toList.head? := by
    have hagree : truncate _ (upper e.word) = truncate _ (upper d.word) :=
      hv.agrees.trans hd.agrees.symm
    rw [Direction.upper_word, Direction.upper_word] at hagree
    rw [← head?_truncate, hagree, head?_truncate]
  rw [Direction.eq_of_head?_word hheads] at hindex
  exact Nat.lt_irrefl _ hindex

/-- If the word of a direction agrees with one of its spellings, it is the best match. -/
theorem isBest (h : world.SpellsDirections) (hnumbered : Word.Numbered world.words)
    (hspelling : d.IsSpelling typed) (hd : world.dictionary.Matches .noun typed d.stored place) :
    world.dictionary.IsBest .noun typed d.stored place where
  toMatches := hd
  rank_le {v other} hv := by
    cases hsynonym : v.isSynonym with
    | true => exact Dictionary.rank_le_of_primary rfl hsynonym
    | false =>
      refine Dictionary.rank_le_rank hsynonym.symm ?_ fun _ => h.le_of_matches hnumbered hd hv
      intro hexact
      rcases hspelling with rfl | rfl
      · -- A noun that is the letter itself has been ruled out.
        have hletter : upper v.text = d.letter := by
          simpa [Dictionary.isExact] using hexact
        exact absurd hletter (h.ne_letter v (List.mem_of_getElem? hv.stored) hv.kind_eq d)
      · simp [Dictionary.isExact, Direction.stored]

/-- If the word of a direction does not agree with one of its spellings, no noun does. -/
theorem not_matches (h : world.SpellsDirections) (hspelling : d.IsSpelling typed)
    (hplace : world.words[place]? = some d.stored)
    (hd : ¬world.dictionary.Matches .noun typed d.stored place) :
    ¬world.dictionary.Matches .noun typed v other := by
  have hdisagrees : truncate world.header.wordLength d.word ≠
      truncate world.header.wordLength typed := by
    intro hagree
    refine hd ⟨hplace, rfl, Nat.succ_ne_zero _, d.word_ne_empty, ?_⟩
    show truncate world.header.wordLength (upper d.word) = _
    rw [d.upper_word, hspelling.upper_eq]
    exact hagree
  intro hv
  rcases hspelling with rfl | rfl
  · have hlength : world.header.wordLength ≠ 1 := by
      intro hone
      rw [hone, d.truncate_word] at hdisagrees
      exact hdisagrees rfl
    have hagree := hv.agrees
    rw [Direction.upper_letter, d.letter_eq] at hagree
    have hletter := eq_of_truncate_singleton hlength hagree
    rw [← d.letter_eq] at hletter
    exact h.ne_letter v (List.mem_of_getElem? hv.stored) hv.kind_eq d hletter
  · exact hdisagrees rfl

end World.SpellsDirections

/-- Behind a verb that moves the player, each spelling of a direction is the noun of its exit. -/
theorem Order.nounOf_direction {world : World} (h : world.SpellsDirections)
    (hnumbered : Word.Numbered world.words) (settings : Settings) {d : Direction} {word : String}
    (hspelling : d.IsSpelling (upper word)) :
    nounOf world settings settings.goVerb word = d.stored.index := by
  obtain ⟨place, hplace⟩ := List.mem_iff_getElem?.1 (h.stored_mem d)
  unfold nounOf
  dsimp only
  by_cases hd : world.dictionary.Matches .noun (upper word) d.stored place
  · have hnoun : world.dictionary.noun? (upper word) = some d.stored.index :=
      Dictionary.lookup_of_isBest hspelling.ne_empty (h.isBest hnumbered hspelling hd)
    rw [hnoun]
  · have hnoun : world.dictionary.noun? (upper word) = none :=
      Dictionary.lookup_of_not_matches fun _ _ => h.not_matches hspelling hplace hd
    rw [hnoun, hspelling.directionNoun?_eq]
    simp

/-! ## Turns -/

namespace Session

variable {s : Session} {d : Direction} {input input' : String}

/-- The line is a form of a move: a spelling of the direction in any letter case, alone or behind a
verb that moves the player, in any letter case as well. -/
def TypesMove (s : Session) (d : Direction) (input : String) : Prop :=
  ∃ word, d.IsSpelling (upper word) ∧
    (words input = [word] ∨
      ∃ verbWord typed, s.world.dictionary.verb? verbWord = some s.settings.goVerb ∧
        upper typed = upper verbWord ∧ words input = [typed, word])

/-- Every form of a move orders it. -/
theorem TypesMove.ofLine? (h : s.TypesMove d input) (hspells : s.world.SpellsDirections)
    (hnumbered : Word.Numbered s.world.words) :
    ∃ noun?, Order.ofLine? s.world s.settings input =
      some ⟨s.settings.goVerb, d.stored.index, noun?⟩ := by
  obtain ⟨word, hspelling, hwords | ⟨verbWord, typed, hverb, hupper, hwords⟩⟩ := h
  · refine ⟨some word, ?_⟩
    unfold Order.ofLine? Order.ofWord?
    simp only [hwords, hspelling.directionNoun?_eq]
  · have htyped : s.world.dictionary.verb? typed = some s.settings.goVerb := by
      rw [← hverb, Dictionary.verb?, ← Dictionary.lookup_upper, hupper, Dictionary.lookup_upper]
      rfl
    refine ⟨some word, ?_⟩
    unfold Order.ofLine? Order.ofPair?
    simp only [hwords, htyped, Option.map_some,
      Order.nounOf_direction hspells hnumbered s.settings hspelling]

/-- Every form of a move is carried out as the move, which does not depend on the form. -/
theorem TypesMove.playerPhase (h : s.TypesMove d input) (hspells : s.world.SpellsDirections)
    (hnumbered : Word.Numbered s.world.words) (pass : Pass) :
    s.playerPhase input pass = Builtin.go s.context d pass := by
  obtain ⟨noun?, horder⟩ := h.ofLine? hspells hnumbered
  have hdirection : Order.direction? ⟨s.settings.goVerb, d.stored.index, noun?⟩ s.settings =
      some d := by
    simp only [Order.direction?, if_true]
    exact Direction.ofNoun?_slot d
  simp only [Session.playerPhase, horder, obey, hdirection]

/-- Lines that the player's part of a turn carries out alike make the same turn. -/
theorem turn_congr (h : s.playerPhase input' s.opening = s.playerPhase input s.opening) :
    s.turn input' = s.turn input := by
  cases hhalted : s.halted with
  | some reason => rw [turn_of_halted hhalted, turn_of_halted hhalted]
  | none => rw [turn_of_not_halted hhalted, turn_of_not_halted hhalted, play, play, h]

/-- In a world that has been read, whose nouns 1 to 6 are the words of the directions and in which
no noun is spelled like the letter of one, all forms of a move in a direction make the same turn:
the same session afterwards, with its state, its dice and its mark of whether the game has stopped,
and the same output, with its events and all steps that led to them. -/
theorem turn_of_typesMove {text : String} {world : World} (hread : World.read text = .ok world)
    (hspells : world.SpellsDirections) {s : Session} (hworld : s.world = world) {d : Direction}
    {input input' : String} (h : s.TypesMove d input) (h' : s.TypesMove d input') :
    s.turn input' = s.turn input := by
  have hnumbered := World.numbered_of_read hread
  subst hworld
  exact turn_congr ((h'.playerPhase hspells hnumbered s.opening).trans
    (h.playerPhase hspells hnumbered s.opening).symm)

/-- A world of two rooms, as data.  A single letter counts in its words, and one of its nouns begins
with the letter of a direction. -/
def compassText : String :=
  "0 0 0 7 1 5 0 0 1 10 0 0 0 0 0 0 0 0 0 0
\"AUT\" \"ANY\" \"GO\" \"NORTH\" \"*WALK\" \"SOUTH\" \"\" \"EAST\" \"\" \"WEST\" \"\" \"UP\" \"\" \"DOWN\"
\"\" \"NICHE\"
1 0 0 0 0 0 \"hall\" 0 0 0 0 0 0 \"yard\" \"\" \"\" 0 1 2 1"

/-- The world that this data describes. -/
def compass : World where
  header := {
    lastWord := 7, lastRoom := 1, carryLimit := 5, wordLength := 1, lightTime := 10, version := 1,
    adventure := 2 }
  rows := [⟨0, .replicate 5 0, .replicate 2 0⟩]
  words := [⟨"AUT", false, .verb, 0⟩, ⟨"ANY", false, .noun, 0⟩, ⟨"GO", false, .verb, 1⟩,
    ⟨"NORTH", false, .noun, 1⟩, ⟨"WALK", true, .verb, 2⟩, ⟨"SOUTH", false, .noun, 2⟩,
    ⟨"", false, .verb, 3⟩, ⟨"EAST", false, .noun, 3⟩, ⟨"", false, .verb, 4⟩,
    ⟨"WEST", false, .noun, 4⟩, ⟨"", false, .verb, 5⟩, ⟨"UP", false, .noun, 5⟩,
    ⟨"", false, .verb, 6⟩, ⟨"DOWN", false, .noun, 6⟩, ⟨"", false, .verb, 7⟩,
    ⟨"NICHE", false, .noun, 7⟩]
  rooms := [⟨#v[1, 0, 0, 0, 0, 0], "hall"⟩, ⟨.replicate 6 0, "yard"⟩]
  messages := [""]
  items := [⟨"", none, 0⟩]
  titles := [""]

theorem read_compass : World.read compassText = .ok compass := by
  decide +kernel

theorem spellsDirections_compass : compass.SpellsDirections where
  stored_mem d := by cases d <;> decide
  ne_letter := by
    have hall : ∀ w ∈ compass.words, w.kind = .noun →
        ∀ d ∈ Direction.all, upper w.text ≠ d.letter := by
      decide +kernel
    intro w hw hkind d
    exact hall w hw hkind d (by cases d <;> decide)

/-- In this world, a letter alone and a word behind a synonym lead through the same exit. -/
theorem turn_of_typesMove_compass :
    let s := new compass {} (Dice.ofSeed 0)
    s.TypesMove .north "n" ∧ s.TypesMove .north "Walk North" ∧
      s.turn "Walk North" = s.turn "n" ∧ (s.turn "n").1.state.room = 1 := by
  intro s
  have hletter : s.TypesMove .north "n" :=
    ⟨"n", Or.inl (by decide +kernel), Or.inl (by decide +kernel)⟩
  have hword : s.TypesMove .north "Walk North" :=
    ⟨"North", Or.inr (by decide +kernel),
      Or.inr ⟨"walk", "Walk", by decide +kernel, by decide +kernel, by decide +kernel⟩⟩
  have hsame := turn_of_typesMove read_compass spellsDirections_compass rfl hletter hword
  exact ⟨hletter, hword, hsame, by decide +kernel⟩

end Session

end TextAdventure
