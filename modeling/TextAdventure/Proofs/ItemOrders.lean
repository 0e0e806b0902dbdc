import TextAdventure.Proofs.Synonyms

/-!
# Orders about items

An order to pick up or to put down that no row answers is carried out by the interpreter itself.  It
looks for an item that answers to the typed noun, in the player's room or among what the player
holds, and then does with it what the command for rows of the table does.  The command asks first
whether the item is held already, and the order never asks.  That they agree nevertheless is because
a room is never the inventory.

Main results:

- Definition `IsLastWord` and theorem `getLast?_words_eq_some_iff`: the last word of a text.
- Definitions `World.IsNamed` and `State.itemsNamed`: the items that a noun can mean.
- Theorem `Builtin.findItem?_eq_some_iff`: the lowest of them is found.
- Structure `Progress.Mirrors`: an order comes to the same as a command.
- Theorems `Builtin.mirrors_get` and `Builtin.mirrors_drop`: one order and its command.
- Theorem `Session.items_mirror`: both orders, in every state of a run.
-/

namespace TextAdventure

open Text

/-! ## The last word of a text -/

namespace Text

/-- The word is the last one of the text.  It is not empty and holds no blank; a blank or nothing
stands in front of it, and nothing but blanks behind it. -/
def IsLastWord (word text : String) : Prop :=
  word ≠ "" ∧ (∀ c ∈ word.toList, isBlank c = false) ∧
    ∃ before after, text.toList = before ++ word.toList ++ after ∧
      (∀ c ∈ before.getLast?, isBlank c = true) ∧ ∀ c ∈ after, isBlank c = true

/-- Characters that are not all blanks hold a last run without a blank. -/
theorem exists_last_run {cs : List Char} (h : ∃ c ∈ cs, isBlank c = false) :
    ∃ before run after, cs = before ++ run ++ after ∧ run ≠ [] ∧
      (∀ c ∈ run, isBlank c = false) ∧ (∀ c ∈ before.getLast?, isBlank c = true) ∧
      ∀ c ∈ after, isBlank c = true := by
  induction cs with
  | nil => simp at h
  | cons c cs ih =>
    by_cases hmore : ∃ d ∈ cs, isBlank d = false
    · obtain ⟨before, run, after, rfl, hne, hrun, hbefore, hafter⟩ := ih hmore
      cases before with
      | nil =>
        cases hc : isBlank c with
        | true => exact ⟨[c], run, after, rfl, hne, hrun, by simpa using hc, hafter⟩
        | false =>
          exact ⟨[], c :: run, after, rfl, by simp, by simpa using ⟨hc, hrun⟩, by simp, hafter⟩
      | cons d before =>
        refine ⟨c :: d :: before, run, after, rfl, hne, hrun, ?_, hafter⟩
        rwa [List.getLast?_cons_cons]
    · obtain ⟨d, hd, hblank⟩ := h
      have hc : d = c := by
        rcases List.mem_cons.1 hd with heq | hmem
        · exact heq
        · exact absurd ⟨d, hmem, hblank⟩ hmore
      exact ⟨[], [c], cs, rfl, by simp, by simpa [← hc] using hblank, by simp, by simpa using hmore⟩

/-- The last of the words of a text is its last word. -/
theorem getLast?_words_of_isLastWord {word text : String} (h : IsLastWord word text) :
    (words text).getLast? = some word := by
  obtain ⟨hne, hword, before, after, htext, hbefore, hafter⟩ := h
  have hchars : word.toList ≠ [] := by simpa using hne
  have hlast : splitWords [] (word.toList ++ after) = [word.toList] := by
    cases after with
    | nil => simpa using splitWords_of_not_blank hword [] hchars
    | cons c after =>
      rw [splitWords_append_blank (hafter c List.mem_cons_self),
        splitWords_of_not_blank hword [] hchars,
        splitWords_of_blank fun d hd => hafter d (List.mem_cons_of_mem c hd)]
      rfl
  have hsplit : ∃ earlier, splitWords [] text.toList = earlier ++ [word.toList] := by
    rw [htext, List.append_assoc]
    rcases List.eq_nil_or_concat' before with rfl | ⟨front, c, rfl⟩
    · exact ⟨[], hlast⟩
    · refine ⟨splitWords [] front, ?_⟩
      rw [List.append_assoc, List.singleton_append,
        splitWords_append_blank (hbefore c (by simp)), hlast]
  obtain ⟨earlier, hsplit⟩ := hsplit
  simp [words, hsplit]

/-- A text has a last word exactly where it has words, and that is the last of them. -/
theorem getLast?_words_eq_some_iff {word text : String} :
    (words text).getLast? = some word ↔ IsLastWord word text := by
  refine ⟨fun h => ?_, getLast?_words_of_isLastWord⟩
  have hsome : ∃ c ∈ text.toList, isBlank c = false := by
    by_contra hnone
    have hblank : ∀ c ∈ text.toList, isBlank c = true := by simpa using hnone
    rw [words, splitWords_of_blank hblank] at h
    cases h
  obtain ⟨before, run, after, htext, hne, hrun, hbefore, hafter⟩ := exists_last_run hsome
  have hlast : IsLastWord (String.ofList run) text :=
    ⟨by simpa using hne, by simpa using hrun, before, after, by simpa using htext, hbefore, hafter⟩
  rw [getLast?_words_of_isLastWord hlast] at h
  cases h
  exact hlast

end Text

/-! ## The items that a noun can mean -/

/-- The item has the word: its own one, or else the last word of its description without
asterisks. -/
def Item.HasWord (i : Item) (word : String) : Prop :=
  i.word? = some word ∨
    i.word? = none ∧ IsLastWord word (String.ofList (i.description.toList.filter (· != '*')))

/-- The words agree in uppercase, in the characters that count: the first ones, as many as the
header says, or all of them. -/
def Header.Agree (h : Header) (word word' : String) : Prop :=
  if h.wordLength = 0 then upper word = upper word'
  else (upper word).toList.take h.wordLength = (upper word').toList.take h.wordLength

/-- The item answers to the noun: it has a word that agrees with the noun. -/
def World.IsNamed (world : World) (item : Nat) (noun : String) : Prop :=
  ∃ i word, world.items[item]? = some i ∧ i.HasWord word ∧ world.header.Agree word noun

/-- The items from 1 on that are at a location and answer to a noun. -/
def State.itemsNamed (s : State) (world : World) (noun : String) (location : Nat) : Set Nat :=
  {item | 1 ≤ item ∧ s.location? item = some location ∧ world.IsNamed item noun}

/-- An item that answers to a noun is an item of the world. -/
theorem World.IsNamed.lt {world : World} {item : Nat} {noun : String}
    (h : world.IsNamed item noun) : item < world.items.length := by
  obtain ⟨i, -, hitem, -⟩ := h
  exact (List.getElem?_eq_some_iff.1 hitem).1

namespace Builtin

variable {world : World} {s : State} {noun : String} {location item : Nat}

/-- Words agree when they are the same once truncated. -/
theorem truncate_eq_truncate_iff {word word' : String} :
    truncate world.header.wordLength (upper word) = truncate world.header.wordLength (upper word') ↔
      world.header.Agree word word' := by
  unfold truncate Header.Agree
  split <;> simp [String.ofList_inj]

/-- The word of an item is its own one, or else the last one of its description. -/
theorem word?_or_lastWord?_eq_some_iff {i : Item} {word : String} :
    i.word?.or (lastWord? i.description) = some word ↔ i.HasWord word := by
  rw [Option.or_eq_some_iff, lastWord?, getLast?_words_eq_some_iff, Item.HasWord]

/-- The words of an item are compared as a noun is. -/
theorem itemWord?_eq_some_iff :
    itemWord? world item = some (truncate world.header.wordLength (upper noun)) ↔
      world.IsNamed item noun := by
  unfold itemWord? World.IsNamed
  cases hitem : world.items[item]? with
  | none => simp
  | some i =>
    simp only [Option.map_eq_some_iff, word?_or_lastWord?_eq_some_iff, truncate_eq_truncate_iff,
      Option.some.injEq, exists_eq_left', exists_and_left]

/-- The lowest of the items that a noun can mean is found. -/
theorem findItem?_eq_some_iff :
    findItem? world s noun location = some item ↔
      IsLeast (s.itemsNamed world noun location) item := by
  have htest : ∀ other, (other != 0 && s.location? other == some location &&
      itemWord? world other == some (truncate world.header.wordLength (upper noun))) = true ↔
        other ∈ s.itemsNamed world noun location := by
    intro other
    simp only [Bool.and_eq_true, beq_iff_eq, bne_iff_ne, itemWord?_eq_some_iff, and_assoc,
      State.itemsNamed, Set.mem_ofPred_eq, Nat.one_le_iff_ne_zero]
  simp only [findItem?, List.find?_range_eq_some, htest, List.mem_range, Bool.not_eq_true',
    ← Bool.not_eq_true]
  constructor
  · rintro ⟨hitem, -, hbefore⟩
    exact ⟨hitem, fun other hother => Nat.le_of_not_lt fun hlt => hbefore other hlt hother⟩
  · rintro ⟨hitem, hleast⟩
    exact ⟨hitem, hitem.2.2.lt, fun other hlt hother => Nat.not_le_of_lt hlt (hleast hother)⟩

/-- Nothing is found where the noun can mean nothing. -/
theorem findItem?_of_itemsNamed_eq_empty (h : s.itemsNamed world noun location = ∅) :
    findItem? world s noun location = none := by
  cases hfound : findItem? world s noun location with
  | none => rfl
  | some item =>
    have hitem := (findItem?_eq_some_iff.1 hfound).1
    rw [h] at hitem
    exact absurd hitem (Set.notMem_empty item)

end Builtin

/-! ## Orders and commands -/

namespace Progress

variable {p ordered ran : Progress}

/-- The player is told that there is too much to carry, and nothing else happens. -/
def Refuses (p refused : Progress) : Prop :=
  refused = p.line "I've too much to carry!"

/-- Carrying out an order comes to the same as running a command: the states are the same, and
either both are refused or neither is.  Unless it is refused, the order is acknowledged as well. -/
structure Mirrors (p ordered ran : Progress) : Prop where
  state_eq : ordered.state = ran.state
  refuses_iff : p.Refuses ordered ↔ p.Refuses ran
  acknowledged : ¬p.Refuses ran → ordered = ran.line "O.K."

/-- A change of the state alone is not a refusal. -/
theorem not_refuses_mapState (p : Progress) (f : State → State) : ¬p.Refuses (p.mapState f) := by
  intro h
  have hevents := congrArg (fun q => q.output.events.length) h
  simp [line] at hevents

/-- Neither is an acknowledgement. -/
theorem not_refuses_acknowledged (p : Progress) (f : State → State) :
    ¬p.Refuses ((p.mapState f).line "O.K.") := by
  intro h
  have hevents := congrArg (fun q => q.output.events) h
  simp [line] at hevents

/-- What is refused as an order and as a command comes to the same. -/
theorem mirrors_of_refuses (hordered : p.Refuses ordered) (hran : p.Refuses ran) :
    p.Mirrors ordered ran where
  state_eq := by rw [hordered, hran]
  refuses_iff := ⟨fun _ => hran, fun _ => hordered⟩
  acknowledged hnot := absurd hran hnot

/-- An order that is acknowledged comes to the same as a command that changes the state alone. -/
theorem mirrors_mapState (p : Progress) (f : State → State) :
    p.Mirrors ((p.mapState f).line "O.K.") (p.mapState f) where
  state_eq := rfl
  refuses_iff :=
    ⟨fun h => absurd h (p.not_refuses_acknowledged f), fun h => absurd h (p.not_refuses_mapState f)⟩
  acknowledged _ := rfl

end Progress

/-- A command that names an item of the world, and nothing else, has its effect. -/
theorem Command.execute_of_item {ctx : Context} {c : Command} {o : Operands}
    (h : c.references o = [.item o.first]) (hitem : o.first < ctx.world.items.length)
    (p : Progress) : c.execute ctx o p = c.apply ctx o p := by
  have hadmitted : c.missing? o ctx.world = none := by
    simp [missing?, h, World.admits, hitem]
  exact execute_of_admitted hadmitted p

namespace Builtin

variable {ctx : Context} {noun : String} {p : Progress} {item : Nat}

/-- The order to pick up comes to the same as the command, for the item that is meant. -/
theorem mirrors_get (hroom : p.state.room ≠ carried)
    (hitem : IsLeast (p.state.itemsNamed ctx.world noun p.state.room) item)
    (noun? : Option String) (second : Nat) :
    p.Mirrors (get ctx noun p) (Command.get.execute { ctx with noun? } ⟨item, second⟩ p) := by
  have hfound := findItem?_eq_some_iff.2 hitem
  obtain ⟨⟨-, hhere, hnamed⟩, -⟩ := hitem
  have happly : Command.get.execute { ctx with noun? } ⟨item, second⟩ p =
      Command.get.apply { ctx with noun? } ⟨item, second⟩ p :=
    Command.execute_of_item rfl hnamed.lt p
  -- What is in the player's room is not held: the command does not stop at its first question.
  have hfree : p.state.isCarried item = false := by
    simp [State.isCarried, hhere, hroom]
  by_cases hfull : ctx.world.header.carryLimit ≤ p.state.carriedCount
  · have hordered : p.Refuses (get ctx noun p) := by
      simp only [Progress.Refuses, get, hfound, if_pos hfull]
    have hran : p.Refuses (Command.get.execute { ctx with noun? } ⟨item, second⟩ p) := by
      rw [Progress.Refuses, happly]
      simp only [Command.apply, hfree, if_pos hfull, Bool.false_eq_true, if_false]
    exact Progress.mirrors_of_refuses hordered hran
  · rw [happly]
    simp only [get, hfound, if_neg hfull, Command.apply, hfree, Bool.false_eq_true, if_false]
    exact p.mirrors_mapState (·.moveItem item carried)

/-- The order to put down comes to the same as the command, for the item that is meant. -/
theorem mirrors_drop (hitem : IsLeast (p.state.itemsNamed ctx.world noun carried) item)
    (noun? : Option String) (second : Nat) :
    p.Mirrors (drop ctx noun p) (Command.drop.execute { ctx with noun? } ⟨item, second⟩ p) := by
  have hfound := findItem?_eq_some_iff.2 hitem
  obtain ⟨⟨-, hhere, hnamed⟩, -⟩ := hitem
  have happly : Command.drop.execute { ctx with noun? } ⟨item, second⟩ p =
      Command.drop.apply { ctx with noun? } ⟨item, second⟩ p :=
    Command.execute_of_item rfl hnamed.lt p
  have hheld : p.state.isCarried item = true := by
    simp [State.isCarried, hhere]
  rw [happly]
  simp only [drop, hfound, Command.apply, hheld, if_true]
  exact p.mirrors_mapState fun s => s.moveItem item s.room

/-- Where the noun means nothing in the player's room, the order to pick up leaves the state. -/
theorem state_get_of_itemsNamed_eq_empty
    (h : p.state.itemsNamed ctx.world noun p.state.room = ∅) :
    (get ctx noun p).state = p.state := by
  simp only [get, findItem?_of_itemsNamed_eq_empty h]
  rfl

/-- Where the noun means nothing that the player holds, the order to put down leaves the state. -/
theorem state_drop_of_itemsNamed_eq_empty
    (h : p.state.itemsNamed ctx.world noun carried = ∅) :
    (drop ctx noun p).state = p.state := by
  simp only [drop, findItem?_of_itemsNamed_eq_empty h]
  rfl

end Builtin

/-! ## Runs -/

namespace Session

/-- The player is in a room, which is not the inventory. -/
theorem Sound.room_ne_carried {world : World} {s : Session} (hs : s.Sound world)
    (hworld : world.WellFormed) : s.state.room ≠ carried :=
  hs.fits.room_ne_carried hworld

/-- In a world that has been read, with its own action table or with any other rows, and after any
operations, the orders about items come to the same as the commands, whatever noun was typed and
whatever has been printed in the turn.  The order to pick up acts on the lowest item that the noun
can mean in the player's room, like the command for that item, and is refused exactly when the
command is.  So does the order to put down on the lowest one that the player holds.  Where the noun
means nothing, the state stays as it is. -/
theorem items_mirror {text : String} {world : World} (hread : World.read text = .ok world)
    (rows : List Row) (settings : Settings) (dice : Dice) (operations : List Operation)
    (noun : String) (output : Output) :
    let s := (new { world with rows } settings dice).afterAll operations
    let p : Progress := ⟨s.state, output⟩
    let here := s.state.itemsNamed s.world noun s.state.room
    let held := s.state.itemsNamed s.world noun carried
    (∀ item, IsLeast here item → ∀ noun? second, p.Mirrors (Builtin.get s.context noun p)
        (Command.get.execute { s.context with noun? } ⟨item, second⟩ p)) ∧
      (here = ∅ → (Builtin.get s.context noun p).state = s.state) ∧
      (∀ item, IsLeast held item → ∀ noun? second, p.Mirrors (Builtin.drop s.context noun p)
        (Command.drop.execute { s.context with noun? } ⟨item, second⟩ p)) ∧
      (held = ∅ → (Builtin.drop s.context noun p).state = s.state) := by
  intro s p here held
  have hs : s.Sound { world with rows } := sound_of_read hread rows settings dice operations
  have hroom : p.state.room ≠ carried :=
    hs.room_ne_carried ((World.wellFormed_of_read hread).withRows rows)
  refine ⟨fun item hitem => ?_, fun hnone => ?_, fun item hitem => ?_, fun hnone => ?_⟩
  · exact Builtin.mirrors_get hroom hitem
  · exact Builtin.state_get_of_itemsNamed_eq_empty hnone
  · exact Builtin.mirrors_drop hitem
  · exact Builtin.state_drop_of_itemsNamed_eq_empty hnone

/-- A world with a jar, which has a word of its own, and a spoon, which has none, as data. -/
def dresserText : String :=
  "0 2 0 2 1 5 1 0 3 10 0 0 0 0 0 0 0 0 0 0
\"AUT\" \"ANY\" \"GO\" \"JAM\" \"GET\" \"*JEL\" 0 0 0 0 0 0 \"\" 0 0 0 0 0 0 \"larder\" \"\"
\"\" 0 \"a jar of jam/JAM/\" 1 \"*a spoon *\" 1 \"\" 1 2 3"

/-- The world that this data describes. -/
def dresser : World :=
  { pantry with
    header := { pantry.header with lastItem := 2 }
    items := [⟨"", none, 0⟩, ⟨"a jar of jam", some "JAM", 1⟩, ⟨"*a spoon *", none, 1⟩] }

theorem read_dresser : World.read dresserText = .ok dresser := by
  decide +kernel

/-- In this world, words that agree with the word of the jar and with the last word that describes
the spoon in three characters mean the two.  The player picks up the spoon, and having both, puts
down the jar. -/
theorem items_mirror_dresser :
    let s := new dresser {} (Dice.ofSeed 0)
    let p : Progress := ⟨s.state, {}⟩
    let t := s.afterAll [.restore { s.state with locations := [0, carried, carried] }]
    let q : Progress := ⟨t.state, {}⟩
    (dresser.IsNamed 2 "spores" ∧
        p.Mirrors (Builtin.get s.context "spores" p) (Command.get.execute s.context ⟨2, 0⟩ p) ∧
        (Builtin.get s.context "spores" p).state.isCarried 2 = true) ∧
      q.Mirrors (Builtin.drop t.context "jams" q) (Command.drop.execute t.context ⟨1, 0⟩ q) ∧
      (Builtin.drop t.context "jams" q).state.isHere 1 = true := by
  intro s p t q
  have hspoon : dresser.IsNamed 2 "spores" := by
    refine ⟨⟨"*a spoon *", none, 1⟩, "spoon", rfl, Or.inr ⟨rfl, ?_⟩,
      Builtin.truncate_eq_truncate_iff.1 (by decide +kernel)⟩
    exact ⟨by simp, by simp [Text.isBlank], ['a', ' '], [' '], by simp, by simp [Text.isBlank],
      by simp [Text.isBlank]⟩
  have hhere : IsLeast (s.state.itemsNamed dresser "spores" s.state.room) 2 :=
    Builtin.findItem?_eq_some_iff.1 (by decide +kernel)
  have hheld : IsLeast (t.state.itemsNamed t.world "jams" carried) 1 :=
    Builtin.findItem?_eq_some_iff.1 (by decide +kernel)
  have hget := (items_mirror read_dresser dresser.rows {} (Dice.ofSeed 0) [] "spores" {}).1
  have hdrop := (items_mirror read_dresser dresser.rows {} (Dice.ofSeed 0)
    [.restore { s.state with locations := [0, carried, carried] }] "jams" {}).2.2.1
  exact ⟨⟨hspoon, hget 2 hhere none 0, by decide +kernel⟩, hdrop 1 hheld none 0, by decide +kernel⟩

end Session

end TextAdventure
