import Mathlib.Data.List.OfFn
import Mathlib.Order.Bounds.Basic
import TextAdventure.Proofs.RecordedSteps

/-!
# What the rows name is there

The check of the action table and the game look at a row in the same way: five condition slots, of
which those that hold zero are not in use, and four commands, each with the parameters of the slot
at its position and of the next one as operands.  Here this is said once by positions.  A table that
passes the check therefore never makes the game skip a command or test an item that does not exist,
and a table that fails the check is refused for its first faulty row.

Main results:

- Definition `World.Lacks`: a row names something that the world does not have.
- Theorems `World.isLeast_of_faultyRow?` and `World.checkRows_eq_ok_iff`: the check of the table.
- Definition `Entry.Covered` and theorem `references_covered`: what the check means for play.
-/

namespace TextAdventure

/-! ## Rows by position -/

/-- A table of two entries as a list. -/
theorem toList_eq_pair {α : Type} (v : Vector α 2) :
    v.toList = [v[(0 : Fin 2)], v[(1 : Fin 2)]] := by
  apply List.ext_getElem
  · simp
  · intro i hi hpair
    have hplace : i = 0 ∨ i = 1 := by
      simp only [List.length_cons, List.length_nil] at hpair
      omega
    rcases hplace with rfl | rfl
    · simp
    · simp

namespace Row

/-- The opcode at a position: each slot of commands holds two. -/
def opcodeAt (row : Row) (position : Fin 4) : Nat :=
  let pair := OpcodePair.decode row.commands[position.val / 2]
  if position.val % 2 = 0 then pair.first else pair.second

/-- The operands at a position: the parameters of the condition slot there and of the next one. -/
def operandsAt (row : Row) (position : Fin 4) : Operands :=
  ⟨(CodedCondition.decode row.conditions[position.val]).parameter,
    (CodedCondition.decode row.conditions[position.val + 1]).parameter⟩

/-- The opcodes of a row with their operands are those at its four positions. -/
theorem opcodes_eq_ofFn (row : Row) :
    row.opcodes = List.ofFn fun position => (row.opcodeAt position, row.operandsAt position) := by
  unfold opcodes
  rw [toList_eq_pair]
  simp [OpcodePair.toList, Parameters.operands, Parameters.ofConditions, List.ofFn_succ, opcodeAt,
    operandsAt]

/-- The commands of a row are those of its positions whose opcode is not zero. -/
theorem mem_program_iff {row : Row} {c : Command} {o : Operands} :
    (c, o) ∈ row.program ↔ ∃ position, row.opcodeAt position ≠ 0 ∧
      c = Command.ofOpcode (row.opcodeAt position) ∧ o = row.operandsAt position := by
  unfold program
  rw [opcodes_eq_ofFn]
  constructor
  · intro h
    obtain ⟨⟨opcode, operands⟩, hmem, heq⟩ := List.mem_map.1 h
    obtain ⟨hmem, hne⟩ := List.mem_filter.1 hmem
    obtain ⟨position, hposition⟩ := List.mem_ofFn.1 hmem
    cases hposition
    cases heq
    exact ⟨position, by simpa using hne, rfl, rfl⟩
  · rintro ⟨position, hne, rfl, rfl⟩
    refine List.mem_map.2 ⟨(row.opcodeAt position, row.operandsAt position), ?_, rfl⟩
    exact List.mem_filter.2 ⟨List.mem_ofFn.2 ⟨position, rfl⟩, by simpa using hne⟩

/-- The conditions of a row are those of its slots that do not hold zero. -/
theorem mem_tests_iff {row : Row} {c : Condition} :
    c ∈ row.tests ↔ ∃ slot : Fin 5, row.conditions[slot] ≠ 0 ∧
      c = Condition.decode row.conditions[slot] := by
  simp only [tests, List.mem_map, List.mem_filter, Vector.mem_toList_iff, bne_iff_ne]
  constructor
  · rintro ⟨raw, ⟨hraw, hne⟩, rfl⟩
    obtain ⟨slot, hslot, rfl⟩ := Vector.mem_iff_getElem.1 hraw
    exact ⟨⟨slot, hslot⟩, hne, rfl⟩
  · rintro ⟨slot, hne, rfl⟩
    exact ⟨row.conditions[slot], ⟨Vector.getElem_mem _, hne⟩, rfl⟩

end Row

/-! ## Faulty rows -/

namespace World

/-- The condition in a slot is in use and names something that the world does not have. -/
def LacksForCondition (world : World) (row : Row) (slot : Fin 5) : Prop :=
  row.conditions[slot] ≠ 0 ∧ ∃ r,
    (Condition.decode row.conditions[slot]).reference? = some r ∧ world.admits r = false

/-- The command at a position is in use and names, with its operands, something that the world does
not have. -/
def LacksForCommand (world : World) (row : Row) (position : Fin 4) : Prop :=
  row.opcodeAt position ≠ 0 ∧
    ∃ r ∈ (Command.ofOpcode (row.opcodeAt position)).references (row.operandsAt position),
      world.admits r = false

/-- A condition or a command of the row names something that the world does not have. -/
def Lacks (world : World) (row : Row) : Prop :=
  (∃ slot, world.LacksForCondition row slot) ∨ ∃ position, world.LacksForCommand row position

/-- The world has everything that the conditions and the commands of a row name. -/
structure Provides (world : World) (row : Row) : Prop where
  test : ∀ c ∈ row.tests, ∀ r, c.reference? = some r → world.admits r = true
  command : ∀ c o, (c, o) ∈ row.program → ∀ r ∈ c.references o, world.admits r = true

variable {world : World}

/-- A row that is not faulty has everything it names. -/
theorem not_lacks_iff_provides {row : Row} : ¬world.Lacks row ↔ world.Provides row := by
  constructor
  · intro h
    constructor
    · intro c hc r hr
      by_contra hmissing
      obtain ⟨slot, hne, rfl⟩ := Row.mem_tests_iff.1 hc
      exact h (Or.inl ⟨slot, hne, r, hr, by simpa using hmissing⟩)
    · intro c o hc r hr
      by_contra hmissing
      obtain ⟨position, hne, rfl, rfl⟩ := Row.mem_program_iff.1 hc
      exact h (Or.inr ⟨position, hne, r, hr, by simpa using hmissing⟩)
  · rintro h (⟨slot, hne, r, hr, hmissing⟩ | ⟨position, hne, r, hr, hmissing⟩)
    · have hadmits := h.test _ (Row.mem_tests_iff.2 ⟨slot, hne, rfl⟩) r hr
      rw [hadmits] at hmissing
      contradiction
    · have hadmits := h.command _ _ (Row.mem_program_iff.2 ⟨position, hne, rfl, rfl⟩) r hr
      rw [hadmits] at hmissing
      contradiction

/-! ## The check of the table -/

theorem missingInCondition?_eq_none_iff {c : Condition} :
    world.missingInCondition? c = none ↔
      ∀ r, c.reference? = some r → world.admits r = true := by
  simp [missingInCondition?]

theorem missingInCommand?_eq_none_iff {c : Command} {o : Operands} :
    world.missingInCommand? c o = none ↔ ∀ r ∈ c.references o, world.admits r = true := by
  simp [missingInCommand?, Command.missing?]

/-- Nothing is missing for a row exactly when the row is not faulty. -/
theorem missingIn?_eq_none_iff {row : Row} : world.missingIn? row = none ↔ ¬world.Lacks row := by
  rw [not_lacks_iff_provides, missingIn?, Option.or_eq_none_iff, List.findSome?_eq_none_iff,
    List.findSome?_eq_none_iff]
  constructor
  · rintro ⟨htests, hcommands⟩
    constructor
    · intro c hc
      exact missingInCondition?_eq_none_iff.1 (htests c hc)
    · intro c o hc
      exact missingInCommand?_eq_none_iff.1 (hcommands (c, o) hc)
  · intro h
    constructor
    · intro c hc
      exact missingInCondition?_eq_none_iff.2 (h.test c hc)
    · rintro ⟨c, o⟩ hc
      exact missingInCommand?_eq_none_iff.2 (h.command c o hc)

/-- No row is found faulty exactly when none is. -/
theorem faultyRow?_eq_none_iff :
    world.faultyRow? = none ↔ ∀ row ∈ world.rows, ¬world.Lacks row := by
  simp only [faultyRow?, List.findSome?_eq_none_iff, Option.map_eq_none_iff,
    missingIn?_eq_none_iff]
  constructor
  · intro h row hrow
    obtain ⟨number, hnumber⟩ := List.mem_iff_getElem?.1 hrow
    exact h (row, number) (List.mk_mem_zipIdx_iff_getElem?.2 hnumber)
  · rintro h ⟨row, number⟩ hmem
    exact h row (List.mem_of_getElem? (List.mk_mem_zipIdx_iff_getElem?.1 hmem))

/-- The row that is found faulty is the first one that is. -/
theorem isLeast_of_faultyRow? {number : Nat} {r : Reference} {site : LoadError.Site}
    (h : world.faultyRow? = some (number, r, site)) :
    IsLeast {n | ∃ row, world.rows[n]? = some row ∧ world.Lacks row} number := by
  obtain ⟨before, ⟨row, found⟩, after, hsplit, hmissing, hbefore⟩ :=
    List.findSome?_eq_some_iff.1 h
  obtain ⟨⟨r', site'⟩, hfault, heq⟩ := Option.map_eq_some_iff.1 hmissing
  cases heq
  have hplace : world.rows[number]? = some row ∧ number = before.length := by
    have hentry : world.rows.zipIdx[before.length]? = some (row, number) := by
      rw [hsplit]
      simp
    rw [List.getElem?_zipIdx, Nat.zero_add] at hentry
    obtain ⟨row', hrow, heq⟩ := Option.map_eq_some_iff.1 hentry
    cases heq
    exact ⟨hrow, rfl⟩
  obtain ⟨hrow, rfl⟩ := hplace
  have hlacks : world.Lacks row := by
    by_contra hprovided
    rw [missingIn?_eq_none_iff.2 hprovided] at hfault
    cases hfault
  refine ⟨⟨row, hrow, hlacks⟩, ?_⟩
  rintro n ⟨other, hother, hfaulty⟩
  by_contra hearlier
  -- An earlier row stands among those in which nothing was found.
  have hmem : (other, n) ∈ before := by
    have hentry : world.rows.zipIdx[n]? = some (other, n) := by
      rw [List.getElem?_zipIdx, hother]
      simp
    rw [hsplit, List.getElem?_append_left (Nat.lt_of_not_le hearlier)] at hentry
    exact List.mem_of_getElem? hentry
  have hnone := Option.map_eq_none_iff.1 (hbefore (other, n) hmem)
  exact missingIn?_eq_none_iff.1 hnone hfaulty

/-- The check lets a world through exactly when none of its rows is faulty, and then it gives that
world. -/
theorem checkRows_eq_ok_iff {checked : World} :
    world.checkRows = .ok checked ↔
      (∀ row ∈ world.rows, ¬world.Lacks row) ∧ checked = world := by
  rw [← faultyRow?_eq_none_iff]
  unfold checkRows
  cases world.faultyRow? with
  | none => simp [eq_comm]
  | some fault => simp

/-- What tokens describe, once they have been read, is settled by the check of the table. -/
theorem ofTokens_of_reader {tokens rest : List Token}
    (h : World.reader tokens = .ok (world, rest)) : ofTokens tokens = world.checkRows := by
  unfold ofTokens
  rw [h]
  rfl

/-- The check refuses a world exactly when some row of it is faulty. -/
theorem checkRows_eq_invalidReference_iff :
    (∃ number r site, world.checkRows = .error (.invalidReference number r site)) ↔
      ∃ row ∈ world.rows, world.Lacks row := by
  constructor
  · rintro ⟨number, r, site, h⟩
    by_contra hnone
    push Not at hnone
    rw [checkRows_eq_ok_iff.2 ⟨hnone, rfl⟩] at h
    cases h
  · rintro ⟨row, hrow, hlacks⟩
    unfold checkRows
    cases hfault : world.faultyRow? with
    | none => exact absurd hlacks (faultyRow?_eq_none_iff.1 hfault row hrow)
    | some fault => exact ⟨fault.1, fault.2.1, fault.2.2, rfl⟩

/-- The check names the first faulty row. -/
theorem isLeast_of_checkRows {number : Nat} {r : Reference} {site : LoadError.Site}
    (h : world.checkRows = .error (.invalidReference number r site)) :
    IsLeast {n | ∃ row, world.rows[n]? = some row ∧ world.Lacks row} number := by
  unfold checkRows at h
  cases hfault : world.faultyRow? with
  | none =>
    rw [hfault] at h
    cases h
  | some fault =>
    rw [hfault] at h
    cases h
    exact isLeast_of_faultyRow? hfault

end World

/-! ## Steps that have what they name -/

/-- Where the conditions of a row are tested, the world has what they name, and an item that is
tested has a location and a home.  A command that is executed has all that it names, so that it is
not skipped. -/
def Entry.Covered (world : World) : Entry → Prop
  | tested number s => ∃ row, world.rows[number]? = some row ∧
      ∀ c ∈ row.tests, (∀ r, c.reference? = some r → world.admits r = true) ∧
        ∀ test i, c = .item test i →
          (∃ location, s.location? i = some location) ∧ ∃ item, world.items[i]? = some item
  | executed c o _ => (∀ r ∈ c.references o, world.admits r = true) ∧ c.missing? o world = none
  | ran _ _ | drew _ | looked _ | burned _ => True

/-- In a world whose rows are not faulty, a step that the action table calls for, and that is taken
in a state that fits the world, has what it names. -/
theorem Entry.covered_of_fits {world : World} (hrows : ∀ row ∈ world.rows, ¬world.Lacks row)
    {entry : Entry} (htable : entry.OfTable world)
    (hfits : ∀ s, entry.state? = some s → s.Fits world) : entry.Covered world := by
  cases entry with
  | tested number s =>
    have hrow := List.getElem_mem (l := world.rows) htable
    have hprovides := World.not_lacks_iff_provides.1 (hrows _ hrow)
    refine ⟨_, List.getElem?_eq_getElem htable, ?_⟩
    intro c hc
    refine ⟨hprovides.test c hc, ?_⟩
    rintro test i rfl
    have hitem : i < world.items.length := by
      simpa [World.admits] using hprovides.test _ hc _ rfl
    have hlocation : i < s.locations.length := by
      rw [(hfits s rfl).length_locations]
      exact hitem
    exact ⟨⟨_, List.getElem?_eq_getElem hlocation⟩, ⟨_, List.getElem?_eq_getElem hitem⟩⟩
  | executed c o s =>
    obtain ⟨row, hrow, hmem⟩ := htable
    have hreferences := (World.not_lacks_iff_provides.1 (hrows row hrow)).command c o hmem
    refine ⟨hreferences, ?_⟩
    simpa [Command.missing?] using hreferences
  | ran | drew | looked | burned => trivial

/-! ## A small world -/

/-- A world of two rooms and a jar of jam.  Its second row picks the jam up where the player is. -/
def World.larder : World where
  header := {
    lastItem := 1, lastRow := 1, lastWord := 1, lastRoom := 1, carryLimit := 5, startRoom := 1,
    wordLength := 3, lightTime := 10, lastMessage := 1, version := 1, adventure := 2 }
  rows := [⟨0, .replicate 5 0, .replicate 2 0⟩, ⟨0, #v[22, 0, 0, 0, 0], #v[7800, 0]⟩]
  words := [⟨"AUT", false, .verb, 0⟩, ⟨"ANY", false, .noun, 0⟩, ⟨"TAK", true, .verb, 1⟩,
    ⟨"JAM", false, .noun, 1⟩]
  rooms := [⟨#v[0, 0, 0, 0, 0, 0], ""⟩, ⟨#v[0, 0, 0, 0, 0, 0], "larder"⟩]
  messages := ["", "Taken."]
  items := [⟨"", none, 0⟩, ⟨"jam", some "JAM", 1⟩]
  titles := ["", ""]

theorem World.read_larder :
    World.read "0 1 1 1 1 5 1 0 3 10 1 0 0 0 0 0 0 0 0 0 0 22 0 0 0 0 7800 0
\"AUT\" \"ANY\" \"*TAK\" \"JAM\" 0 0 0 0 0 0 \"\" 0 0 0 0 0 0 \"larder\" \"\" \"Taken.\"
\"\" 0 \"jam/JAM/\" 1 \"\" \"\" 1 2 4" = .ok larder := by
  decide +kernel

namespace Session

/-- In a world that has been read, every step of every run has what it names: no test is on an item
that does not exist, and no command is skipped.  Tokens that can be read as a world are refused for
a reference exactly when some row of that world is faulty, the row that is named is then the first
one that is, and otherwise they describe that world. -/
theorem references_covered :
    (∀ text world, World.read text = .ok world →
      ∀ (settings : Settings) (dice : Dice) (operations : List Operation),
        ∀ entry ∈ (new world settings dice).journal operations, entry.Covered world) ∧
    ∀ tokens world rest, World.reader tokens = .ok (world, rest) →
      ((∃ number r site, World.ofTokens tokens = .error (.invalidReference number r site)) ↔
        ∃ row ∈ world.rows, world.Lacks row) ∧
      (∀ number r site, World.ofTokens tokens = .error (.invalidReference number r site) →
        IsLeast {n | ∃ row, world.rows[n]? = some row ∧ world.Lacks row} number) ∧
      ((∀ row ∈ world.rows, ¬world.Lacks row) → World.ofTokens tokens = .ok world) := by
  constructor
  · intro text world hread settings dice operations entry hentry
    have hworld := World.wellFormed_of_read hread
    obtain ⟨-, -, -, -, hcheck⟩ := World.reader_of_read hread
    have hrows := (World.checkRows_eq_ok_iff.1 hcheck).1
    obtain ⟨htable, hfits⟩ := (sound_new hworld settings dice).of_mem_journal hworld hentry
    exact Entry.covered_of_fits hrows htable hfits
  · intro tokens world rest hreader
    rw [World.ofTokens_of_reader hreader]
    refine ⟨World.checkRows_eq_invalidReference_iff, fun number r site h => ?_, fun h => ?_⟩
    · exact World.isLeast_of_checkRows h
    · exact World.checkRows_eq_ok_iff.2 ⟨h, rfl⟩

/-- Data of the same world, but for a first row that tests an item that does not exist. -/
def faultyLarder : List Token :=
  let numbers (ns : List Int) : List Lexeme := ns.map .number
  let texts (ts : List String) : List Lexeme := ts.map .quoted
  (numbers [0, 1, 1, 1, 1, 5, 1, 0, 3, 10, 1, 0, 0, 102, 0, 0, 0, 0, 0, 0, 0, 22, 0, 0, 0, 0, 7800,
      0] ++ texts ["AUT", "ANY", "*TAK", "JAM"] ++ numbers [0, 0, 0, 0, 0, 0] ++ texts [""] ++
    numbers [0, 0, 0, 0, 0, 0] ++ texts ["larder", "", "Taken.", ""] ++ numbers [0] ++
    texts ["jam/JAM/"] ++ numbers [1] ++ texts ["", ""] ++ numbers [1, 2, 4]).map (⟨·, 1⟩)

/-- A game in this world picks up the jam, and the faulty data is refused for its first row. -/
theorem references_covered_larder :
    let s := new World.larder {} (Dice.ofSeed 0)
    let operations : List Operation := [.restore State.blank, .move .start, .move (.turn "LOOK")]
    let entry : Entry := .executed .get ⟨1, 0⟩ (State.initial World.larder)
    let world :=
      { World.larder with rows := ⟨0, #v[102, 0, 0, 0, 0], #v[0, 0]⟩ :: World.larder.rows.tail }
    let fault : LoadError := .invalidReference 0 (.item 5) (.condition (.item .here 5))
    (entry ∈ s.journal operations ∧ entry.Covered World.larder) ∧
      World.reader faultyLarder = .ok (world, []) ∧ World.ofTokens faultyLarder = .error fault ∧
      IsLeast {n | ∃ row, world.rows[n]? = some row ∧ world.Lacks row} 0 := by
  intro s operations entry world fault
  have hentry : entry ∈ s.journal operations := by decide +kernel
  have hreader : World.reader faultyLarder = .ok (world, []) := by decide +kernel
  have hfault : World.ofTokens faultyLarder = .error fault := by decide +kernel
  obtain ⟨hplay, hload⟩ := references_covered
  refine ⟨⟨hentry, ?_⟩, hreader, hfault, ?_⟩
  · exact hplay _ World.larder World.read_larder {} (Dice.ofSeed 0) operations entry hentry
  · exact (hload faultyLarder world [] hreader).2.1 0 _ _ hfault

end Session

end TextAdventure
