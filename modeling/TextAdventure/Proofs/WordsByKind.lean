import TextAdventure.Proofs.ReservedWords

/-!
# Verbs and nouns apart

The vocabulary holds verbs and nouns in one list, in turn or one half after the other.  Either way
each word is numbered by its place among the words of its kind, and words of the other kind make no
difference to a lookup: not to which words can be matched and in which order, and not to the primary
word that a synonym stands for.

Main results:

- Definitions `Word.pairs` and `Word.listOf`: words in turn, and the words of one kind.
- Theorems `Word.ofKind_interleaved` and `Word.ofKind_split`: the words of one kind in either
  layout.
- Theorem `Dictionary.lookup_restrict`: a word is looked up among the words of one kind alone.
- Theorem `Dictionary.lookup_eq_of_ofKind_eq`: dictionaries with the same words of a kind.
-/

namespace TextAdventure

open Text

/-! ## The words of one kind -/

/-- Of two lists, that of the verbs or that of the nouns. -/
def WordKind.choose {α : Type} (kind : WordKind) (verbs nouns : α) : α :=
  match kind with
  | verb => verbs
  | noun => nouns

namespace Word

/-- Verbs and nouns in turn. -/
def pairs (verbs nouns : List String) : List String :=
  (verbs.zip nouns).flatMap fun pair => [pair.1, pair.2]

/-- The words of one kind, each with its place among them as its number. -/
def listOf (kind : WordKind) (texts : List String) : List Word :=
  texts.zipIdx.map fun entry => ofText entry.1 kind entry.2

/-- The words of one kind, without those of the other. -/
def ofKind (kind : WordKind) (words : List Word) : List Word :=
  words.filter fun w => w.kind == kind

variable {verbs nouns : List String}

theorem length_pairs (h : nouns.length = verbs.length) :
    (pairs verbs nouns).length = 2 * verbs.length := by
  have hpair : ∀ pair ∈ verbs.zip nouns, [pair.1, pair.2].length = 2 := fun pair _ => rfl
  rw [pairs, List.length_flatMap, List.map_congr_left hpair, List.map_const', List.sum_replicate,
    List.length_zip, h, Nat.min_self, Nat.mul_comm]
  rfl

/-- Numbered words are all of one kind. -/
theorem ofKind_listOf (kind other : WordKind) (texts : List String) :
    ofKind kind (listOf other texts) = if other = kind then listOf other texts else [] := by
  have hkind : ∀ w ∈ listOf other texts, w.kind = other := by
    intro w hw
    obtain ⟨entry, -, rfl⟩ := List.mem_map.1 hw
    exact kind_ofText entry.1 other entry.2
  unfold ofKind
  split_ifs with hsame
  · exact List.filter_eq_self.2 fun w hw => by simp [hkind w hw, hsame]
  · exact List.filter_eq_nil_iff.2 fun w hw => by simp [hkind w hw, hsame]

/-- Words that stand in turn, behind any number of pairs, are numbered on from there. -/
theorem ofKind_interleaved_from (kind : WordKind) (h : nouns.length = verbs.length)
    (start : Nat) :
    ofKind kind (((pairs verbs nouns).zipIdx (2 * start)).map fun entry =>
        ofText entry.1 (if entry.2 % 2 = 0 then .verb else .noun) (entry.2 / 2)) =
      ((kind.choose verbs nouns).zipIdx start).map fun entry => ofText entry.1 kind entry.2 := by
  induction verbs generalizing nouns start with
  | nil =>
    obtain rfl := List.length_eq_zero_iff.1 h
    cases kind <;> rfl
  | cons verb verbs ih =>
    cases nouns with
    | nil => cases h
    | cons noun nouns =>
      have hrest := ih (Nat.succ.inj h) (start + 1)
      have hpairs : pairs (verb :: verbs) (noun :: nouns) = verb :: noun :: pairs verbs nouns :=
        rfl
      have heven : 2 * start % 2 = 0 := Nat.mul_mod_right 2 start
      have hodd : (2 * start + 1) % 2 ≠ 0 := by omega
      have hhalf : (2 * start + 1) / 2 = start := by omega
      have hnext : 2 * start + 1 + 1 = 2 * (start + 1) := rfl
      rw [hpairs, List.zipIdx_cons, List.zipIdx_cons, hnext, List.map_cons, List.map_cons]
      dsimp only
      rw [if_pos heven, if_neg hodd, hhalf, Nat.mul_div_cancel_left start Nat.two_pos]
      unfold ofKind at hrest ⊢
      cases kind with
      | verb => simp [WordKind.choose, hrest, List.zipIdx_cons]
      | noun => simp [WordKind.choose, hrest, List.zipIdx_cons]

/-- Words that stand in turn are numbered like words of their kind alone. -/
theorem ofKind_interleaved (kind : WordKind) (h : nouns.length = verbs.length) :
    ofKind kind (interleaved (pairs verbs nouns)) = listOf kind (kind.choose verbs nouns) :=
  ofKind_interleaved_from kind h 0

/-- The two halves are the words of the two kinds. -/
theorem split_append (h : nouns.length = verbs.length) :
    split (verbs ++ nouns) = listOf .verb verbs ++ listOf .noun nouns := by
  have hhalf : ((verbs ++ nouns).length + 1) / 2 = verbs.length := by
    rw [List.length_append, h]
    omega
  unfold split listOf
  dsimp only
  rw [hhalf, List.zipIdx_append, List.map_append, Nat.zero_add]
  congr 1
  · refine List.map_congr_left fun entry hentry => ?_
    have hlt : entry.2 < verbs.length := List.snd_lt_of_mem_zipIdx hentry
    rw [if_pos hlt]
  · rw [List.zipIdx_eq_map_add, List.map_map]
    refine List.map_congr_left fun entry hentry => ?_
    simp

/-- Words that stand in two halves are numbered like words of their kind alone. -/
theorem ofKind_split (kind : WordKind) (h : nouns.length = verbs.length) :
    ofKind kind (split (verbs ++ nouns)) = listOf kind (kind.choose verbs nouns) := by
  rw [split_append h, ofKind, List.filter_append]
  show ofKind kind (listOf .verb verbs) ++ ofKind kind (listOf .noun nouns) = _
  rw [ofKind_listOf, ofKind_listOf]
  cases kind with
  | verb => simp [WordKind.choose]
  | noun => simp [WordKind.choose]

end Word

/-! ## Lookup among the words of one kind -/

section Places

variable {α : Type} (p : α → Bool)

/-- The entries in front of a place that pass a test are in front of the ones that pass it. -/
theorem take_filter_take (xs : List α) (place : Nat) :
    (xs.filter p).take ((xs.take place).filter p).length = (xs.take place).filter p := by
  have hsplit : xs.filter p = (xs.take place).filter p ++ (xs.drop place).filter p := by
    rw [← List.filter_append, List.take_append_drop]
  rw [hsplit, List.take_left]

/-- The entries that pass a test, each with its place among them: as many as pass it before. -/
theorem zipIdx_filter (xs : List α) :
    (xs.filter p).zipIdx = (xs.zipIdx.filter fun entry => p entry.1).map fun entry =>
      (entry.1, ((xs.take entry.2).filter p).length) := by
  induction xs using List.reverseRecOn with
  | nil => rfl
  | append_singleton xs x ih =>
    have hbefore : ∀ entry ∈ xs.zipIdx.filter fun entry => p entry.1,
        ((xs ++ [x]).take entry.2) = xs.take entry.2 := by
      intro entry hentry
      have hlt := List.snd_lt_of_mem_zipIdx (List.mem_filter.1 hentry).1
      exact List.take_append_of_le_length hlt.le
    have hplaces : (xs.zipIdx.filter fun entry => p entry.1).map (fun entry =>
        (entry.1, (((xs ++ [x]).take entry.2).filter p).length)) = (xs.filter p).zipIdx := by
      rw [ih]
      refine List.map_congr_left fun entry hentry => ?_
      rw [hbefore entry hentry]
    rw [List.filter_append, List.zipIdx_append, List.zipIdx_append, List.filter_append,
      List.map_append, hplaces]
    by_cases hx : p x = true
    · simp [hx]
    · simp [hx]

end Places

namespace Dictionary

variable (d : Dictionary) (kind : WordKind)

/-- The words of one kind as a dictionary of their own. -/
def restrict : Dictionary :=
  ⟨Word.ofKind kind d.words, d.wordLength⟩

/-- A word with its place among the words of a kind, in exchange for its place among all. -/
def placed (entry : Word × Nat) : Word × Nat :=
  (entry.1, (Word.ofKind kind (d.words.take entry.2)).length)

/-- The same words can be matched, at their places among the words of their kind. -/
theorem candidates_restrict :
    (d.restrict kind).candidates kind = (d.candidates kind).map (d.placed kind) := by
  have hkind : ∀ entry : Word × Nat,
      (entry.1.isCandidate kind && (entry.1.kind == kind)) = entry.1.isCandidate kind := by
    intro entry
    unfold Word.isCandidate
    cases entry.1.kind == kind <;> simp
  unfold candidates restrict Word.ofKind
  dsimp only
  rw [zipIdx_filter, List.filter_map, List.filter_filter]
  refine congrArg (List.map _) (List.filter_congr fun entry _ => ?_)
  exact hkind entry

theorem bestAmong_restrict (typed : String) (isSynonym : Bool) :
    (d.restrict kind).bestAmong typed kind isSynonym =
      (d.bestAmong typed kind isSynonym).map (d.placed kind) := by
  unfold bestAmong
  dsimp only
  rw [candidates_restrict, List.filter_map, List.find?_map, List.find?_map, Option.map_or]
  rfl

/-- The nearest primary word of a kind before a place is the same among the words of the kind. -/
theorem primaryBefore?_restrict (place : Nat) :
    (d.restrict kind).primaryBefore? kind (Word.ofKind kind (d.words.take place)).length =
      d.primaryBefore? kind place := by
  unfold primaryBefore? restrict Word.ofKind
  dsimp only
  rw [take_filter_take, ← List.filter_reverse, List.find?_filter]
  congr 2
  funext w
  cases w.kind == kind <;> simp

/-- A typed word is looked up among the words of one kind alone. -/
theorem lookup_restrict (word : String) :
    (d.restrict kind).lookup kind word = d.lookup kind word := by
  unfold lookup
  dsimp only
  rw [bestAmong_restrict, bestAmong_restrict]
  split_ifs
  · rfl
  · cases d.bestAmong (upper word) kind false with
    | some entry => rfl
    | none =>
      cases d.bestAmong (upper word) kind true with
      | some entry => exact d.primaryBefore?_restrict kind entry.2
      | none => rfl

/-- Dictionaries with the same words of a kind agree on all words of that kind. -/
theorem lookup_eq_of_ofKind_eq {d d' : Dictionary} (hlength : d'.wordLength = d.wordLength)
    {kind : WordKind} (hwords : Word.ofKind kind d'.words = Word.ofKind kind d.words)
    (word : String) : d'.lookup kind word = d.lookup kind word := by
  have hrestrict : d'.restrict kind = d.restrict kind := by
    rw [restrict, restrict, hlength, hwords]
  rw [← lookup_restrict, hrestrict, lookup_restrict]

end Dictionary

end TextAdventure
