import TextAdventure.Proofs.ConsumedLexemes
import TextAdventure.Proofs.CutData
import TextAdventure.Proofs.WordsByKind

/-!
# Two layouts of the vocabulary

Adventure data lists its verbs and nouns in turn, where their number is declared, or else in two
halves.  The two layouts mean the same: data of one and data of the other that agree in everything
but the number of words describe the same world, or neither describes one.  The header and the rows
in front of the vocabulary are numbers, so that they end where the first word begins, and what
stands behind it is read in the same way, whatever the vocabulary holds.

Main results:

- Structure `World.Frame` with `World.Frame.lexemes`: data but for its vocabulary.
- Theorem `World.reader_eq_bind`: the data is read in three parts.
- Theorem `World.exists_reader_eq_ok`: the vocabulary plays no part in whether data is read.
- Definition `Token.ScansTo` and structure `World.KeepsWords`: what a text and a world hold.
- Theorem `World.read_of_layouts`: the two layouts mean the same.
-/

namespace TextAdventure

/-! ## Data with either layout -/

/-- A run of strings is read up to a lexeme of another kind. -/
theorem Reader.exists_quotedRun_eq_ok {tokens : List Token} {texts : List String}
    {behind : List Lexeme} (hbehind : ∀ s, behind.head? ≠ some (.quoted s))
    (h : tokens.map Token.lexeme = texts.map .quoted ++ behind) :
    ∃ rest, quotedRun tokens = .ok (texts, rest) ∧ rest.map Token.lexeme = behind := by
  obtain ⟨first, rest, rfl, hfirst, hrest⟩ := List.map_eq_append_iff.1 h
  have hlimit : texts.length ≤ (first ++ rest).length := by
    have hlength := congrArg List.length hfirst
    simp only [List.length_map] at hlength
    simp only [List.length_append]
    omega
  have hother : ∀ s line later, rest ≠ ⟨.quoted s, line⟩ :: later := by
    rintro s line later rfl
    exact hbehind s (by rw [← hrest]; rfl)
  have hrun := quotedUpTo_append hfirst hlimit (Or.inr hother)
  refine ⟨rest, ?_, hrest⟩
  unfold quotedRun
  rw [hrun]

/-- In front of a string, and of no more lexemes than there are numbers, stand these numbers. -/
theorem eq_of_ofNumbers_append {ns : List Nat} {xs behind rest : List Lexeme}
    {texts : List String} (hne : texts ≠ []) (hlength : xs.length ≤ ns.length)
    (h : Lexeme.ofNumbers ns ++ behind = xs ++ (texts.map .quoted ++ rest)) :
    xs = Lexeme.ofNumbers ns ∧ behind = texts.map .quoted ++ rest := by
  have hnumbers : (Lexeme.ofNumbers ns).length = ns.length := List.length_map _
  rcases List.append_eq_append_iff.1 h with ⟨more, rfl, hbehind⟩ | ⟨more, hxs, hmore⟩
  · have hnil : more = [] := by
      rw [List.length_append, hnumbers] at hlength
      exact List.length_eq_zero_iff.1 (by omega)
    subst hnil
    exact ⟨List.append_nil _, hbehind⟩
  · cases more with
    | nil => exact ⟨by rw [hxs, List.append_nil], hmore.symm⟩
    | cons l more =>
      -- A number would be the first of the strings.
      obtain ⟨s, texts, rfl⟩ := List.exists_cons_of_ne_nil hne
      have hmem : Lexeme.quoted s ∈ Lexeme.ofNumbers ns := by
        obtain ⟨rfl, -⟩ := List.cons.inj hmore
        rw [hxs]
        simp
      obtain ⟨n, -, hn⟩ := List.mem_map.1 hmem
      cases hn

namespace World

/-- Adventure data but for its vocabulary and the number of its words. -/
structure Frame where
  /-- The counts in front of the number of words, -/
  textBytes : Lexeme
  lastItem : Lexeme
  lastRow : Lexeme
  /-- the other counts and the action table, -/
  between : List Lexeme
  /-- and what follows the vocabulary. -/
  rest : List Lexeme
  /-- The eight counts and the rows take up all that stands in front of the vocabulary. -/
  length_between_le : ∀ n : Nat, lastRow = .number n → between.length ≤ 8 * (n + 2)
  /-- The vocabulary ends where its strings end. -/
  head?_rest_ne : ∀ s, rest.head? ≠ some (.quoted s)

/-- The data with the given number of words and the given vocabulary. -/
def Frame.lexemes (frame : Frame) (lastWord : Nat) (texts : List String) : List Lexeme :=
  [frame.textBytes, frame.lastItem, frame.lastRow, .number lastWord] ++
    (frame.between ++ (texts.map .quoted ++ frame.rest))

/-- The numbers of rows, in order. -/
def rowNumbers (rows : List Row) : List Nat :=
  rows.flatMap Row.numbers

theorem length_rowNumbers (rows : List Row) : (rowNumbers rows).length = 8 * rows.length := by
  induction rows with
  | nil => rfl
  | cons row rows ih =>
    have hrow : row.numbers.length = 8 := rfl
    rw [rowNumbers, List.flatMap_cons, List.length_append, hrow, ← rowNumbers, ih,
      List.length_cons]
    omega

/-- What a header and rows are written with, in front of the vocabulary. -/
def frontLexemes (counts : Header) (rows : List Row) : List Lexeme :=
  Lexeme.ofNumbers (counts.numbers ++ rowNumbers rows)

theorem frontLexemes_eq_append (counts : Header) (rows : List Row) :
    frontLexemes counts rows = Lexeme.ofNumbers counts.numbers ++
      rows.flatMap fun row => Lexeme.ofNumbers row.numbers := by
  have hrows : Lexeme.ofNumbers (rowNumbers rows) =
      rows.flatMap fun row => Lexeme.ofNumbers row.numbers := List.map_flatMap
  rw [← hrows]
  exact List.map_append

/-- Data that begins with a header and with as many rows as it calls for begins with the same rows
and the same header, up to the number of words, whatever number and vocabulary it has. -/
theorem Frame.lexemes_eq {frame : Frame} {lastWord : Nat} {texts : List String}
    (hne : texts ≠ []) {counts : Header} {rows : List Row} {behind : List Lexeme}
    (hrows : rows.length = counts.lastRow + 1)
    (h : frontLexemes counts rows ++ behind = frame.lexemes lastWord texts) :
    counts.lastWord = lastWord ∧ behind = texts.map .quoted ++ frame.rest ∧
      ∀ q texts', frame.lexemes q texts' =
        frontLexemes { counts with lastWord := q } rows ++ (texts'.map .quoted ++ frame.rest) := by
  -- The four counts in front are compared one by one, and what follows them as a whole.
  let others := counts.numbers.drop 4
  have hfront : Lexeme.number counts.textBytes :: .number counts.lastItem ::
      .number counts.lastRow :: .number counts.lastWord ::
        (Lexeme.ofNumbers (others ++ rowNumbers rows) ++ behind) =
      frame.textBytes :: frame.lastItem :: frame.lastRow :: .number lastWord ::
        (frame.between ++ (texts.map .quoted ++ frame.rest)) := h
  simp only [List.cons.injEq, Lexeme.number.injEq, Int.natCast_inj] at hfront
  obtain ⟨hbytes, hitem, hrow, hword, hbetween⟩ := hfront
  have hlength : frame.between.length ≤ (others ++ rowNumbers rows).length := by
    have hle := frame.length_between_le counts.lastRow hrow.symm
    have hothers : others.length = 8 := rfl
    rw [List.length_append, length_rowNumbers, hothers, hrows]
    omega
  obtain ⟨hall, hbehind⟩ := eq_of_ofNumbers_append hne hlength hbetween
  refine ⟨hword, hbehind, fun q texts' => ?_⟩
  rw [Frame.lexemes, ← hbytes, ← hitem, ← hrow, hall]
  rfl

/-! ## Reading either layout -/

/-- What is read in front of the vocabulary. -/
def readerBeforeWords : Reader (Header × List Row) := do
  let counts ← Header.reader
  let rows ← Reader.table Row.reader 0 (counts.lastRow + 1)
  return (counts, rows)

/-- What is read behind the vocabulary. -/
def readerBehindWords (counts : Header) (rows : List Row) (texts : List String) :
    Reader World := do
  let rooms ← Reader.table (Room.reader counts.lastRoom) 0 (counts.lastRoom + 1)
  let messages ← Reader.table (fun n => Reader.quoted (.message n)) 0 (counts.lastMessage + 1)
  let items ← Reader.table (Item.reader counts.lastRoom) 0 (counts.lastItem + 1)
  let titles ← titlesReader counts.lastRow
  let version ← Reader.count .version .version
  let adventure ← Reader.count .adventure .adventure
  let found ← Reader.number .checksum
  let header := { counts with version, adventure }
  if found ≠ header.checksum then Reader.fail (.checksum header.checksum found)
  let words := Word.ofTexts counts.lastWord texts
  return { header, rows, words, rooms, messages, items, titles }

/-- The data is read in three parts. -/
theorem reader_eq_bind : reader = readerBeforeWords >>= fun front =>
    Reader.quotedRun >>= fun texts => readerBehindWords front.1 front.2 texts := by
  unfold readerBeforeWords
  simp only [bind_assoc, pure_bind]
  rfl

/-- A header that passes its checks, with as many rows as it calls for. -/
structure FrontFits (counts : Header) (rows : List Row) : Prop where
  lastRoom_le : counts.lastRoom ≤ Header.roomLimit
  startRoom_le : counts.startRoom ≤ counts.lastRoom
  lightTime_lt : counts.lightTime < 0x80000000
  trailer_eq : { counts with version := 0, adventure := 0 } = counts
  length_rows : rows.length = counts.lastRow + 1

/-- The number of words plays no part in this. -/
theorem FrontFits.withLastWord {counts : Header} {rows : List Row} (h : FrontFits counts rows)
    (lastWord : Nat) : FrontFits { counts with lastWord } rows where
  lastRoom_le := h.lastRoom_le
  startRoom_le := h.startRoom_le
  lightTime_lt := h.lightTime_lt
  trailer_eq := congrArg (fun counts => { counts with lastWord }) h.trailer_eq
  length_rows := h.length_rows

theorem consumes_readerBeforeWords : readerBeforeWords.Consumes fun front xs =>
    xs = frontLexemes front.1 front.2 ∧ FrontFits front.1 front.2 := by
  refine Header.consumes_reader.bind ?_
  rintro counts _ ⟨rfl, hrooms, hstart, hlight, htrailer⟩
  refine (Reader.consumes_table Row.consumes_reader 0 _).bind ?_
  rintro rows _ ⟨rfl, hlength⟩
  refine Reader.consumes_pure ⟨?_, hrooms, hstart, hlight, htrailer, hlength⟩
  rw [List.append_nil, frontLexemes_eq_append]

theorem reads_readerBeforeWords {counts : Header} {rows : List Row} (h : FrontFits counts rows) :
    readerBeforeWords.Reads (frontLexemes counts rows) (counts, rows) := by
  have hheader := Header.reads h.lastRoom_le h.startRoom_le h.lightTime_lt
  rw [h.trailer_eq] at hheader
  have hrows : (Reader.table Row.reader 0 (counts.lastRow + 1)).Reads
      (rows.flatMap fun row => Lexeme.ofNumbers row.numbers) rows := by
    rw [← h.length_rows]
    exact Reader.reads_table (fun n row _ => row.reads n) 0
  rw [frontLexemes_eq_append]
  exact hheader.bind hrows.bind_pure

/-- The world with another number of words and another vocabulary. -/
def relaid (world : World) (lastWord : Nat) (texts : List String) : World :=
  { world with
    header := { world.header with lastWord }
    words := Word.ofTexts lastWord texts }

theorem heedsLexemes_room (lastRoom number : Nat) :
    (Room.reader lastRoom number).HeedsLexemes := by
  have hexit := Reader.heedsLexemes_natural (.room number) .roomExit (· ≤ lastRoom)
  iterate 6 refine hexit.bind fun _ => ?_
  exact (Reader.heedsLexemes_quoted _).bind fun _ => Reader.alike_pure rfl

theorem heedsLexemes_item (lastRoom number : Nat) :
    (Item.reader lastRoom number).HeedsLexemes :=
  (Reader.heedsLexemes_quoted _).bind fun _ =>
    (Reader.heedsLexemes_natural _ _ _).bind fun _ => Reader.alike_pure rfl

/-- What is read behind the vocabulary does not depend on it, nor on the number of words. -/
theorem alike_readerBehindWords (counts : Header) (rows : List Row) (texts texts' : List String)
    (q : Nat) : (readerBehindWords counts rows texts).Alike
      (readerBehindWords { counts with lastWord := q } rows texts') fun world world' =>
        world.words = Word.ofTexts counts.lastWord texts ∧ world' = world.relaid q texts' := by
  unfold readerBehindWords
  refine (Reader.heedsLexemes_table (heedsLexemes_room counts.lastRoom) 0 _).bind fun rooms => ?_
  refine (Reader.heedsLexemes_table
    (fun n => Reader.heedsLexemes_quoted (.message n)) 0 _).bind fun messages => ?_
  refine (Reader.heedsLexemes_table (heedsLexemes_item counts.lastRoom) 0 _).bind fun items => ?_
  refine (Reader.heedsLexemes_titlesReader counts.lastRow).bind fun titles => ?_
  refine (Reader.heedsLexemes_natural _ _ _).bind fun version => ?_
  refine (Reader.heedsLexemes_natural _ _ _).bind fun adventure => ?_
  refine (Reader.heedsLexemes_number _).bind fun found => ?_
  exact Reader.alike_check (Reader.alike_pure ⟨rfl, rfl⟩)

/-- Where data of either layout is read, data with any other vocabulary that is laid out in the same
frame is read as well. -/
theorem exists_reader_eq_ok {frame : Frame} {p q : Nat} {texts texts' : List String}
    (hne : texts ≠ []) {tokens tokens' : List Token}
    (htokens : tokens.map Token.lexeme = frame.lexemes p texts)
    (htokens' : tokens'.map Token.lexeme = frame.lexemes q texts') {world : World}
    {rest : List Token} (h : reader tokens = .ok (world, rest)) :
    world.words = Word.ofTexts p texts ∧
      ∃ rest', reader tokens' = .ok (world.relaid q texts', rest') := by
  rw [reader_eq_bind] at h ⊢
  obtain ⟨⟨⟨counts, rows⟩, behind⟩, hfront, hwords⟩ := exists_of_bind_eq_ok h
  obtain ⟨first, rfl, hfirst, hfits⟩ := consumes_readerBeforeWords _ _ _ hfront
  rw [List.map_append, hfirst] at htokens
  obtain ⟨hp, hbehind, hlexemes⟩ := Frame.lexemes_eq hne hfits.length_rows htokens
  obtain ⟨after, hrun, hafter⟩ := Reader.exists_quotedRun_eq_ok frame.head?_rest_ne hbehind
  -- The other tokens are read as far as the vocabulary, and then in step with the first.
  rw [hlexemes q texts'] at htokens'
  obtain ⟨first', behind', rfl, hfirst', hbehind'⟩ := List.map_eq_append_iff.1 htokens'
  have hfront' := reads_readerBeforeWords (hfits.withLastWord q) first' behind' hfirst'
  obtain ⟨after', hrun', hafter'⟩ := Reader.exists_quotedRun_eq_ok frame.head?_rest_ne hbehind'
  have hread : readerBehindWords counts rows texts after = .ok (world, rest) :=
    (Reader.bind_eq_of_eq_ok hrun).symm.trans hwords
  obtain ⟨-, rest', hread', ⟨hsame, rfl⟩, -⟩ := alike_readerBehindWords counts rows texts texts' q
    after after' (hafter'.trans hafter.symm) world rest hread
  refine ⟨hp ▸ hsame, rest', ?_⟩
  rw [Reader.bind_eq_of_eq_ok hfront', Reader.bind_eq_of_eq_ok hrun']
  exact hread'

end World

/-! ## Texts -/

/-- Unless a quote in it is never closed, the text stands for the lexemes. -/
def Token.ScansTo (text : String) (lexemes : List Lexeme) : Prop :=
  ∀ tokens, scan text = .ok tokens → tokens.map lexeme = lexemes

/-- A text that is scanned stands for the lexemes of its tokens. -/
theorem Token.scansTo_of_map_eq {text : String} {lexemes : List Lexeme}
    (h : (scan text).toOption.map (List.map lexeme) = some lexemes) :
    (∃ tokens, scan text = .ok tokens) ∧ ScansTo text lexemes := by
  obtain ⟨tokens, hscan, rfl⟩ := Option.map_eq_some_iff.1 h
  rw [toOption_eq_some_iff] at hscan
  refine ⟨⟨tokens, hscan⟩, fun others hothers => ?_⟩
  rw [Except.ok.inj (hothers.symm.trans hscan)]

namespace World

/-- The world keeps all verbs and nouns, each with its place in its own list as its number. -/
structure KeepsWords (world : World) (verbs nouns : List String) : Prop where
  verbs_eq : Word.ofKind .verb world.words = Word.listOf .verb verbs
  nouns_eq : Word.ofKind .noun world.words = Word.listOf .noun nouns

variable {verbs nouns : List String}

theorem keepsWords_of_ofKind {world : World}
    (h : ∀ kind, Word.ofKind kind world.words = Word.listOf kind (kind.choose verbs nouns)) :
    world.KeepsWords verbs nouns :=
  ⟨h .verb, h .noun⟩

/-- The words of either kind are those of the list. -/
theorem KeepsWords.ofKind_eq {world : World} (h : world.KeepsWords verbs nouns)
    (kind : WordKind) :
    Word.ofKind kind world.words = Word.listOf kind (kind.choose verbs nouns) := by
  cases kind with
  | verb => exact h.verbs_eq
  | noun => exact h.nouns_eq

/-- Worlds with the same words and the same word length agree on every word. -/
theorem KeepsWords.lookup_eq {world world' : World} (h : world.KeepsWords verbs nouns)
    (h' : world'.KeepsWords verbs nouns)
    (hlength : world'.header.wordLength = world.header.wordLength) (kind : WordKind)
    (word : String) : world'.dictionary.lookup kind word = world.dictionary.lookup kind word :=
  Dictionary.lookup_eq_of_ofKind_eq hlength ((h'.ofKind_eq kind).trans (h.ofKind_eq kind).symm) word

/-- A text whose data is read as a world describes what it describes with any other vocabulary. -/
theorem read_relaid {frame : Frame} {p q : Nat} {texts texts' : List String} (hne : texts ≠ [])
    {text text' : String} (htext : Token.ScansTo text (frame.lexemes p texts))
    (htext' : Token.ScansTo text' (frame.lexemes q texts'))
    (hclosed : (∃ tokens, Token.scan text = .ok tokens) → ∃ tokens, Token.scan text' = .ok tokens)
    {world : World} (h : read text = .ok world) :
    world.words = Word.ofTexts p texts ∧ read text' = .ok (world.relaid q texts') := by
  obtain ⟨tokens, rest, hscan, hreader, hcheck⟩ := reader_of_read h
  obtain ⟨tokens', hscan'⟩ := hclosed ⟨tokens, hscan⟩
  obtain ⟨hwords, rest', hreader'⟩ :=
    exists_reader_eq_ok hne (htext tokens hscan) (htext' tokens' hscan') hreader
  -- What the rows name does not depend on the vocabulary.
  have hlacks := (checkRows_eq_ok_iff.1 hcheck).1
  have hcheck' : (world.relaid q texts').checkRows = .ok (world.relaid q texts') :=
    checkRows_eq_ok_iff.2 ⟨hlacks, rfl⟩
  refine ⟨hwords, ?_⟩
  rw [read, hscan']
  exact (ofTokens_of_reader hreader').trans hcheck'

/-- Verbs and nouns of equal number can be listed in turn or in two halves.  Let one text declare
their number and list them in turn, let another one declare any other number and list them in two
halves, and let the two stand for the same lexemes in all other respects, with a quote left open in
both or in neither.  Then both describe worlds or neither does.  Both worlds keep every word with
its place in its own list as its number, they agree on every typed verb and noun, and the second
world is the first one but for the declared number and the order of the words. -/
theorem read_of_layouts (frame : Frame) {n m : Nat} (hne : m ≠ n) {verbs nouns : List String}
    (hverbs : verbs.length = n + 1) (hnouns : nouns.length = n + 1) {text text' : String}
    (htext : Token.ScansTo text (frame.lexemes n (Word.pairs verbs nouns)))
    (htext' : Token.ScansTo text' (frame.lexemes m (verbs ++ nouns)))
    (hclosed : (∃ tokens, Token.scan text = .ok tokens) ↔
      ∃ tokens, Token.scan text' = .ok tokens) :
    ((∃ world, read text = .ok world) ↔ ∃ world', read text' = .ok world') ∧
      ∀ world world', read text = .ok world → read text' = .ok world' →
        world.KeepsWords verbs nouns ∧ world'.KeepsWords verbs nouns ∧
          (∀ word, world'.dictionary.verb? word = world.dictionary.verb? word ∧
            world'.dictionary.noun? word = world.dictionary.noun? word) ∧
          world' = world.relaid m (verbs ++ nouns) := by
  have hequal : nouns.length = verbs.length := hnouns.trans hverbs.symm
  have hpairs : (Word.pairs verbs nouns).length = 2 * (n + 1) := by
    rw [Word.length_pairs hequal, hverbs]
  have hhalves : (verbs ++ nouns).length = 2 * (n + 1) := by
    rw [List.length_append, hverbs, hnouns]
    omega
  have hinTurn : Word.ofTexts n (Word.pairs verbs nouns) =
      Word.interleaved (Word.pairs verbs nouns) := if_pos hpairs
  have hinHalves : Word.ofTexts m (verbs ++ nouns) = Word.split (verbs ++ nouns) :=
    if_neg (by omega)
  have hsome : ∀ {texts : List String}, texts.length = 2 * (n + 1) → texts ≠ [] := by
    rintro texts hlength rfl
    cases hlength
  refine ⟨⟨fun ⟨world, h⟩ => ?_, fun ⟨world', h'⟩ => ?_⟩, fun world world' h h' => ?_⟩
  · exact ⟨_, (read_relaid (hsome hpairs) htext htext' hclosed.1 h).2⟩
  · exact ⟨_, (read_relaid (hsome hhalves) htext' htext hclosed.2 h').2⟩
  · obtain ⟨hwords, hread⟩ := read_relaid (hsome hpairs) htext htext' hclosed.1 h
    obtain rfl := Except.ok.inj (h'.symm.trans hread)
    have hkeeps : world.KeepsWords verbs nouns := keepsWords_of_ofKind fun kind => by
      rw [hwords, hinTurn, Word.ofKind_interleaved kind hequal]
    have hkeeps' : (world.relaid m (verbs ++ nouns)).KeepsWords verbs nouns :=
      keepsWords_of_ofKind fun kind => by
        rw [relaid, hinHalves, Word.ofKind_split kind hequal]
    exact ⟨hkeeps, hkeeps',
      fun word =>
        ⟨hkeeps.lookup_eq hkeeps' rfl .verb word, hkeeps.lookup_eq hkeeps' rfl .noun word⟩,
      rfl⟩

/-- The data of a single room, but for its vocabulary. -/
def nook : Frame where
  textBytes := .number 0
  lastItem := .number 0
  lastRow := .number 0
  between := Lexeme.ofNumbers ([0, 5, 0, 0, 3, 10, 0, 0] ++ List.replicate 8 0)
  rest := Lexeme.ofNumbers (List.replicate 6 0) ++ ["nook", "", ""].map .quoted ++
    Lexeme.ofNumbers [0, 1, 2, 1]
  length_between_le n _ := by
    show 16 ≤ 8 * (n + 2)
    omega
  head?_rest_ne s h := by cases h

/-- The room with its verbs and nouns in turn. -/
def nookInTurn : String :=
  "0 0 0 2 0 5 0 0 3 10 0 0 0 0 0 0 0 0 0 0
\"AUT\" \"ANY\" \"GO\" \"*JEL\" \"*WALK\" \"JAM\" 0 0 0 0 0 0 \"nook\" \"\" \"\" 0 1 2 1"

/-- The room with its verbs and nouns in two halves. -/
def nookInHalves : String :=
  "0 0 0 7 0 5 0 0 3 10 0 0 0 0 0 0 0 0 0 0
\"AUT\" \"GO\" \"*WALK\" \"ANY\" \"*JEL\" \"JAM\" 0 0 0 0 0 0 \"nook\" \"\" \"\" 0 1 2 1"

/-- Both texts of the room describe worlds, which agree on a truncated synonym among other words. -/
theorem read_of_layouts_nook :
    ∃ world world', read nookInTurn = .ok world ∧ read nookInHalves = .ok world' ∧
      world'.KeepsWords ["AUT", "GO", "*WALK"] ["ANY", "*JEL", "JAM"] ∧
      world'.dictionary.verb? "walker" = world.dictionary.verb? "walker" ∧
      world.dictionary.verb? "walker" = some 1 := by
  obtain ⟨hscan, htext⟩ : (∃ tokens, Token.scan nookInTurn = .ok tokens) ∧
      Token.ScansTo nookInTurn (nook.lexemes 2
        (Word.pairs ["AUT", "GO", "*WALK"] ["ANY", "*JEL", "JAM"])) :=
    Token.scansTo_of_map_eq (by decide +kernel)
  obtain ⟨hscan', htext'⟩ : (∃ tokens, Token.scan nookInHalves = .ok tokens) ∧
      Token.ScansTo nookInHalves (nook.lexemes 7
        (["AUT", "GO", "*WALK"] ++ ["ANY", "*JEL", "JAM"])) :=
    Token.scansTo_of_map_eq (by decide +kernel)
  obtain ⟨hiff, hsame⟩ := read_of_layouts nook (by decide) rfl rfl htext htext'
    ⟨fun _ => hscan', fun _ => hscan⟩
  have hwalker : (read nookInTurn).toOption.map (fun world => world.dictionary.verb? "walker") =
      some (some 1) := by
    decide +kernel
  obtain ⟨world, hworld, hone⟩ := Option.map_eq_some_iff.1 hwalker
  have hread := toOption_eq_some_iff.1 hworld
  obtain ⟨world', hread'⟩ := hiff.1 ⟨world, hread⟩
  obtain ⟨-, hkeeps, hlookup, -⟩ := hsame world world' hread hread'
  exact ⟨world, world', hread, hread', hkeeps, (hlookup "walker").1, hone⟩

end World

end TextAdventure
