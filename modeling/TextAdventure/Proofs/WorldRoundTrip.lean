import TextAdventure.Proofs.LaidOutText
import TextAdventure.Proofs.RowReferences
import TextAdventure.Proofs.SectionRoundTrip

/-!
# Worlds written and read back

A world that passes the checks of the data, and whose strings can be told apart in writing, is
written section after section.  The sections follow each other without a mark between them: the
counts of the header say how long each table is, and the vocabulary and the titles end where a
number follows.  The text reads back as the same world, however it is laid out.

Main results:

- Definitions `World.lexemes` and `World.write`: a world in writing.
- Structure `World.Writable`: the worlds that can be written.
- Theorem `read_write`: a world that can be written is read back.
-/

namespace TextAdventure.World

/-! ## Worlds in writing -/

/-- All strings of a world. -/
def strings (world : World) : List String :=
  world.words.map Word.text ++ world.rooms.map Room.description ++ world.messages ++
    world.items.flatMap (fun item => item.description :: item.word?.toList) ++ world.titles

/-- The lexemes of a world, in the order of the data. -/
def lexemes (world : World) : List Lexeme :=
  Lexeme.ofNumbers world.header.numbers ++
    (world.rows.flatMap fun row => Lexeme.ofNumbers row.numbers) ++
    (world.words.map Word.written).map .quoted ++ world.rooms.flatMap Room.lexemes ++
    world.messages.map .quoted ++ world.items.flatMap Item.lexemes ++ world.titles.map .quoted ++
    Lexeme.ofNumbers world.header.trailer

/-- The text of a world in a layout. -/
def write (world : World) (layout : Layout) : String :=
  layout.write world.lexemes

/-- A world that can be written.  It passes the checks of the data, its words are stored as pairs of
a verb and a noun with the same number, and its strings can be told apart in writing. -/
structure Writable (world : World) : Prop extends world.WellFormed where
  number_lt : ∀ n ∈ world.header.numbers ++ world.header.trailer, n < 0x8000000000000000
  length_rows : world.rows.length = world.header.lastRow + 1
  not_lacks : ∀ row ∈ world.rows, ¬world.Lacks row
  length_words : world.words.length = 2 * (world.header.lastWord + 1)
  paired_words : Word.Paired world.words
  length_messages : world.messages.length = world.header.lastMessage + 1
  length_titles : world.titles.length = world.header.lastRow + 1
  quote_notMem : ∀ s ∈ world.strings, '"' ∉ s.toList
  not_starred : ∀ word ∈ world.words,
    word.isSynonym = false → word.text.toList.head? ≠ some '*'
  writable_item : ∀ item ∈ world.items, item.Writable

namespace Writable

variable {world : World}

/-! ## Lexemes that can be written -/

theorem writable_ofNumbers {ns : List Nat} (h : ∀ n ∈ ns, n < 0x8000000000000000) :
    ∀ l ∈ Lexeme.ofNumbers ns, l.Writable := by
  intro l hl
  obtain ⟨n, hn, rfl⟩ := List.mem_map.1 hl
  have hlt := h n hn
  constructor <;> omega

theorem writable_quoted {texts : List String} (h : ∀ s ∈ texts, '"' ∉ s.toList) :
    ∀ l ∈ texts.map Lexeme.quoted, l.Writable := by
  intro l hl
  obtain ⟨s, hs, rfl⟩ := List.mem_map.1 hl
  exact h s hs

theorem writable_row (row : Row) : ∀ l ∈ Lexeme.ofNumbers row.numbers, l.Writable := by
  refine writable_ofNumbers fun n hn => ?_
  have hvalue : ∃ value : UInt32, value.toNat = n := by
    simp only [Row.numbers, List.mem_cons, List.not_mem_nil, or_false] at hn
    rcases hn with rfl | rfl | rfl | rfl | rfl | rfl | rfl | rfl <;> exact ⟨_, rfl⟩
  obtain ⟨value, rfl⟩ := hvalue
  have hlt := value.toNat_lt
  omega

theorem writable_room (h : world.Writable) {room : Room} (hroom : room ∈ world.rooms) :
    ∀ l ∈ room.lexemes, l.Writable := by
  intro l hl
  rcases List.mem_append.1 hl with hexit | hdescription
  · refine writable_ofNumbers (fun n hn => ?_) l hexit
    have hdirection : ∃ d, room.exit d = n := by
      simp only [List.mem_cons, List.not_mem_nil, or_false] at hn
      rcases hn with rfl | rfl | rfl | rfl | rfl | rfl
      · exact ⟨.north, rfl⟩
      · exact ⟨.south, rfl⟩
      · exact ⟨.east, rfl⟩
      · exact ⟨.west, rfl⟩
      · exact ⟨.up, rfl⟩
      · exact ⟨.down, rfl⟩
    obtain ⟨d, rfl⟩ := hdirection
    have hexit := h.exit_le room hroom d
    have hrooms : world.header.lastRoom ≤ 253 := h.lastRoom_le
    omega
  · obtain rfl := List.mem_singleton.1 hdescription
    refine h.quote_notMem _ ?_
    simp only [strings, List.mem_append, List.mem_map]
    exact Or.inl (Or.inl (Or.inl (Or.inr ⟨room, hroom, rfl⟩)))

theorem writable_item_lexemes (h : world.Writable) {item : Item} (hitem : item ∈ world.items) :
    ∀ l ∈ item.lexemes, l.Writable := by
  have hstring : ∀ s ∈ item.description :: item.word?.toList, '"' ∉ s.toList := by
    intro s hs
    refine h.quote_notMem s ?_
    simp only [strings, List.mem_append, List.mem_flatMap]
    exact Or.inl (Or.inr ⟨item, hitem, hs⟩)
  intro l hl
  rcases List.mem_cons.1 hl with rfl | hl
  · show '"' ∉ item.written.toList
    have hdescription := hstring _ List.mem_cons_self
    unfold Item.written
    cases hword : item.word? with
    | none => exact hdescription
    | some word =>
      have hquote := hstring word (by simp [hword])
      simp [hdescription, hquote]
  · obtain rfl := List.mem_singleton.1 hl
    have hhome := h.isLocation_home item hitem
    have hrooms : world.header.lastRoom ≤ 253 := h.lastRoom_le
    simp only [isLocation, carried, Bool.or_eq_true, beq_iff_eq, decide_eq_true_eq] at hhome
    constructor <;> omega

theorem writable_words (h : world.Writable) :
    ∀ s ∈ world.words.map Word.written, '"' ∉ s.toList := by
  intro s hs
  obtain ⟨word, hword, rfl⟩ := List.mem_map.1 hs
  have htext : '"' ∉ word.text.toList := by
    refine h.quote_notMem _ ?_
    simp only [strings, List.mem_append, List.mem_map]
    exact Or.inl (Or.inl (Or.inl (Or.inl ⟨word, hword, rfl⟩)))
  unfold Word.written
  split
  · simp [htext]
  · exact htext

/-- Every lexeme of a world that can be written can be written. -/
theorem writable_lexemes (h : world.Writable) : ∀ l ∈ world.lexemes, l.Writable := by
  have hnumber := h.number_lt
  have hquote := h.quote_notMem
  simp only [List.mem_append] at hnumber
  simp only [strings, List.mem_append] at hquote
  intro l hl
  simp only [lexemes, List.mem_append, List.mem_flatMap] at hl
  rcases hl with ((((((hheader | ⟨row, -, hrow⟩) | hword) | ⟨room, hroom, hl⟩) | hmessage) |
    ⟨item, hitem, hl⟩) | htitle) | htrailer
  · exact writable_ofNumbers (fun n hn => hnumber n (Or.inl hn)) l hheader
  · exact writable_row row l hrow
  · exact writable_quoted h.writable_words l hword
  · exact h.writable_room hroom l hl
  · exact writable_quoted (fun s hs => hquote s (Or.inl (Or.inl (Or.inr hs)))) l hmessage
  · exact h.writable_item_lexemes hitem l hl
  · exact writable_quoted (fun s hs => hquote s (Or.inr hs)) l htitle
  · exact writable_ofNumbers (fun n hn => hnumber n (Or.inr hn)) l htrailer

/-! ## Reading back -/

/-- The rooms begin with a number. -/
theorem exists_number_rooms (h : world.Writable) (rest : List Lexeme) :
    ∃ n, (world.rooms.flatMap Room.lexemes ++ rest).head? = some (.number n) := by
  have hlength := h.length_rooms
  cases hrooms : world.rooms with
  | nil =>
    rw [hrooms] at hlength
    simp at hlength
  | cons room rooms => exact ⟨room.exits[0], rfl⟩

/-- A world that can be written is read back from its lexemes. -/
theorem reads (h : world.Writable) : reader.Reads world.lexemes world := by
  have hrows : (Reader.table Row.reader 0 (world.header.lastRow + 1)).Reads
      (world.rows.flatMap fun row => Lexeme.ofNumbers row.numbers) world.rows := by
    rw [← h.length_rows]
    exact Reader.reads_table (fun n row _ => row.reads n) 0
  have hrooms : (Reader.table (Room.reader world.header.lastRoom) 0
      (world.header.lastRoom + 1)).Reads (world.rooms.flatMap Room.lexemes) world.rooms := by
    rw [← h.length_rooms]
    exact Reader.reads_table (fun n room hroom => Room.reads (h.exit_le room hroom) n) 0
  have hmessages : (Reader.table (fun n => Reader.quoted (.message n)) 0
      (world.header.lastMessage + 1)).Reads (world.messages.map .quoted) world.messages := by
    rw [← h.length_messages, List.map_eq_flatMap]
    exact Reader.reads_table (fun n s _ => Reader.reads_quoted (.message n) s) 0
  have hitems : (Reader.table (Item.reader world.header.lastRoom) 0
      (world.header.lastItem + 1)).Reads (world.items.flatMap Item.lexemes) world.items := by
    rw [← h.length_items]
    exact Reader.reads_table (fun n item hitem =>
      Item.reads (h.writable_item item hitem) (h.isLocation_home item hitem) n) 0
  have hwords : Word.ofTexts world.header.lastWord (world.words.map Word.written) =
      world.words := by
    rw [Word.ofTexts, if_pos (by rw [List.length_map, h.length_words])]
    exact Word.interleaved_written h.paired_words h.not_starred
  have hread : reader.Reads world.lexemes
      { world with
        words := Word.ofTexts world.header.lastWord (world.words.map Word.written) } := by
    simp only [lexemes, List.append_assoc]
    refine (Header.reads h.lastRoom_le h.startRoom_le h.lightTime_lt).bind ?_
    refine hrows.bind ?_
    obtain ⟨n, hnumber⟩ := h.exists_number_rooms _
    refine Reader.Reads.quotedRun_bind hnumber ?_
    refine hrooms.bind ?_
    refine hmessages.bind ?_
    refine hitems.bind ?_
    refine (Reader.reads_titlesReader h.length_titles).bind ?_
    refine (Reader.reads_count .version .version _).bind ?_
    refine (Reader.reads_count .adventure .adventure _).bind ?_
    refine (Reader.reads_number .checksum _).bind ?_
    exact Reader.reads_check (fun hne => hne rfl) (Reader.reads_pure _)
  rwa [hwords] at hread

end Writable

/-- A world that can be written is read back from its text, in whatever layout it is written. -/
theorem read_write {world : World} (h : world.Writable) (layout : Layout) :
    World.read (world.write layout) = .ok world := by
  have hscan : Token.scan (world.write layout) = .ok (layout.tokens world.lexemes) :=
    Token.scan_write layout h.writable_lexemes
  have hreader := h.reads (layout.tokens world.lexemes) [] (layout.map_lexeme_tokens world.lexemes)
  rw [List.append_nil] at hreader
  have hcheck : world.checkRows = .ok world := checkRows_eq_ok_iff.2 ⟨h.not_lacks, rfl⟩
  rw [World.read, hscan]
  exact (ofTokens_of_reader hreader).trans hcheck

theorem writable_larder : larder.Writable where
  toWellFormed := wellFormed_of_read read_larder
  number_lt := by decide
  length_rows := rfl
  not_lacks := by
    obtain ⟨-, -, -, -, hcheck⟩ := reader_of_read read_larder
    exact (checkRows_eq_ok_iff.1 hcheck).1
  length_words := rfl
  paired_words := by
    intro place word hword
    obtain ⟨hplace, rfl⟩ := List.getElem?_eq_some_iff.1 hword
    have hlt : place < 4 := hplace
    interval_cases place <;> exact ⟨rfl, rfl⟩
  length_messages := rfl
  length_titles := rfl
  quote_notMem := by decide
  not_starred := by decide
  writable_item := by
    intro item hitem
    simp only [larder, List.mem_cons, List.not_mem_nil, or_false] at hitem
    rcases hitem with rfl | rfl
    · exact ⟨by decide, by simp⟩
    · exact ⟨by decide, by simp⟩

/-- A layout of five lines, with a comment in front and another one behind the twelfth lexeme. -/
def notedLayout : Layout where
  opening := '/' :: '/' :: (" A small world".toList ++ '\n' :: [])
  filler_opening := .comment (by simp) (Or.inl rfl) .nil
  gap n :=
    if n = 11 then
      ⟨' ', '/' :: '/' :: (" rows".toList ++ '\n' :: []), rfl,
        .comment (by simp) (Or.inl rfl) .nil⟩
    else if n = 27 ∨ n = 31 then ⟨'\n', [], rfl, .nil⟩
    else ⟨' ', [], rfl, .nil⟩
  closing := some ⟨'\n', [], rfl, .nil⟩

/-- A small world is read back from a text with comments. -/
theorem read_write_larder :
    larder.Writable ∧ World.read (larder.write notedLayout) = .ok larder :=
  ⟨writable_larder, read_write writable_larder notedLayout⟩

example : larder.write notedLayout = "// A small world
0 1 1 1 1 5 1 0 3 10 1 0 // rows
0 0 0 0 0 0 0 0 0 22 0 0 0 0 7800 0
\"AUT\" \"ANY\" \"*TAK\" \"JAM\"
0 0 0 0 0 0 \"\" 0 0 0 0 0 0 \"larder\" \"\" \"Taken.\" \"\" 0 \"jam/JAM/\" 1 \"\" \"\" 1 2 4
" := by
  decide +kernel

end TextAdventure.World
