import TextAdventure.Data.World

/-!
# Worlds that have been read

A world that has been read keeps what the sections of the data promise one by one: every exit leads
to a room, every item starts at a location, each table has an entry for each of its numbers, and no
number exceeds those that the data can hold.  Each reader ensures a condition on what it reads, and
the conditions of a section follow from those of its fields.

Main results:

- Definition `Reader.Ensures`, with rules for composed readers and for tables.
- Theorem `allBounded_of_scan`: every number in a text is a signed number of at most 64 bits.
- Structure `World.WellFormed` and theorem `World.wellFormed_of_read`.
-/

namespace TextAdventure

/-! ## Results that are not refused -/

/-- A result is obtained by a function only from a result. -/
theorem exists_of_map_eq_ok {ε α β : Type} {f : α → β} {x : Except ε α} {b : β}
    (h : f <$> x = .ok b) : ∃ a, x = .ok a ∧ f a = b := by
  cases x with
  | error e => cases h
  | ok a =>
    cases h
    exact ⟨a, rfl, rfl⟩

/-- A result of two computations is obtained from a result of the first. -/
theorem exists_of_bind_eq_ok {ε α β : Type} {x : Except ε α} {f : α → Except ε β} {b : β}
    (h : x >>= f = .ok b) : ∃ a, x = .ok a ∧ f a = .ok b := by
  cases x with
  | error e => cases h
  | ok a => exact ⟨a, rfl, h⟩

/-- The result, where there is one. -/
theorem toOption_eq_some_iff {ε α : Type} {x : Except ε α} {a : α} :
    x.toOption = some a ↔ x = .ok a := by
  cases x with
  | error e => simp [Except.toOption]
  | ok b => simp [Except.toOption]

/-- What is not refused is a result. -/
theorem eq_ok_of_isSome {ε α : Type} [Inhabited α] {x : Except ε α}
    (h : x.toOption.isSome = true) : x = .ok (x.toOption.getD default) := by
  cases x with
  | error e => contradiction
  | ok a => rfl

/-! ## Numbers in a text -/

/-- Every number among the tokens is a signed number of at most 64 bits. -/
def Token.AllBounded (tokens : List Token) : Prop :=
  ∀ t ∈ tokens, ∀ n, t.lexeme = .number n → n < 0x8000000000000000

namespace Token

theorem AllBounded.nil : AllBounded [] := by
  simp [AllBounded]

theorem AllBounded.cons {t : Token} {rest : List Token}
    (hfirst : ∀ n, t.lexeme = .number n → n < 0x8000000000000000) (hrest : AllBounded rest) :
    AllBounded (t :: rest) := by
  intro u hu
  rcases List.mem_cons.1 hu with rfl | hu
  · exact hfirst
  · exact hrest u hu

theorem AllBounded.tail {t : Token} {rest : List Token} (h : AllBounded (t :: rest)) :
    AllBounded rest :=
  fun u hu => h u (List.mem_cons_of_mem t hu)

/-- A word that counts as a number is one of at most 64 bits. -/
theorem lt_of_ofRun {start : Nat} {word : List Char} {n : Int}
    (h : (ofRun start word).lexeme = .number n) : n < 0x8000000000000000 := by
  simp only [ofRun, Lexeme.ofWord] at h
  split at h
  · rename_i m hm
    cases h
    exact (Text.bounds_of_integer? hm).2
  · cases h

/-- The scan gives no number of more than 64 bits, wherever it starts. -/
theorem allBounded_of_scanFrom {mode : Mode} {line : Nat} {cs : List Char} {tokens : List Token}
    (h : scanFrom mode line cs = .ok tokens) : AllBounded tokens := by
  -- A token is added where a quote closes and where a run of characters ends.
  induction cs generalizing mode line tokens with
  | nil =>
    cases mode with
    | between | comment =>
      cases h
      exact .nil
    | quoted start text => cases h
    | bare start word =>
      cases h
      exact .cons (fun n hn => lt_of_ofRun hn) .nil
  | cons c rest ih =>
    cases mode with
    | between => exact ih h
    | comment =>
      simp only [scanFrom] at h
      split at h
      · exact ih h
      · exact ih h
    | quoted start text =>
      simp only [scanFrom] at h
      split at h
      · obtain ⟨later, hlater, rfl⟩ := exists_of_map_eq_ok h
        exact .cons (fun n hn => by cases hn) (ih hlater)
      · exact ih h
    | bare start word =>
      simp only [scanFrom] at h
      split at h
      · obtain ⟨later, hlater, rfl⟩ := exists_of_map_eq_ok h
        exact .cons (fun n hn => lt_of_ofRun hn) (ih hlater)
      · exact ih h

/-- Every number in a text is a signed number of at most 64 bits. -/
theorem allBounded_of_scan {text : String} {tokens : List Token} (h : scan text = .ok tokens) :
    AllBounded tokens :=
  allBounded_of_scanFrom h

end Token

/-! ## What readers ensure -/

/-- Whatever the reader reads off tokens whose numbers are bounded has the property, and the tokens
that it leaves are bounded as well. -/
def Reader.Ensures {α : Type} (r : Reader α) (Q : α → Prop) : Prop :=
  ∀ tokens, Token.AllBounded tokens → ∀ a rest, r tokens = .ok (a, rest) →
    Q a ∧ Token.AllBounded rest

namespace Reader

variable {α β : Type} {P Q : α → Prop} {r : Reader α}

/-! ### Rules -/

theorem Ensures.mono (hr : r.Ensures P) (h : ∀ a, P a → Q a) : r.Ensures Q := by
  intro tokens hbounded a rest heq
  obtain ⟨ha, hrest⟩ := hr tokens hbounded a rest heq
  exact ⟨h a ha, hrest⟩

theorem ensures_pure {a : α} (h : Q a) : (pure a : Reader α).Ensures Q := by
  intro tokens hbounded b rest heq
  cases heq
  exact ⟨h, hbounded⟩

theorem ensures_fail (e : LoadError) : (fail e : Reader α).Ensures Q := by
  intro tokens hbounded a rest heq
  cases heq

theorem Ensures.bind {S : β → Prop} {f : α → Reader β} (hr : r.Ensures P)
    (hf : ∀ a, P a → (f a).Ensures S) : (r >>= f).Ensures S := by
  intro tokens hbounded b rest heq
  obtain ⟨⟨a, middle⟩, hfirst, hsecond⟩ := exists_of_bind_eq_ok heq
  obtain ⟨ha, hmiddle⟩ := hr tokens hbounded a middle hfirst
  exact hf a ha middle hmiddle b rest hsecond

/-- What is read behind a check may rely on the check. -/
theorem ensures_check {bad : Prop} [Decidable bad] {e : LoadError} {f : β → Reader α}
    (hr : ¬bad → r.Ensures Q) :
    (if bad then fail e >>= f else r).Ensures Q := by
  by_cases h : bad
  · rw [if_pos h]
    intro tokens hbounded a rest heq
    cases heq
  · rw [if_neg h]
    exact hr h

/-- A table has the size asked for, and each entry is what the reader of entries ensures. -/
theorem ensures_table {entry : Nat → Reader α} (hentry : ∀ n, (entry n).Ensures Q)
    (start size : Nat) :
    (table entry start size).Ensures fun as => as.length = size ∧ ∀ a ∈ as, Q a := by
  induction size generalizing start with
  | zero => exact ensures_pure ⟨rfl, by simp⟩
  | succ n ih =>
    refine (hentry start).bind fun a ha => (ih (start + 1)).bind fun as has => ensures_pure ?_
    refine ⟨by simp [has.1], ?_⟩
    intro b hb
    rcases List.mem_cons.1 hb with rfl | hb
    · exact ha
    · exact has.2 b hb

/-! ### Single tokens -/

theorem ensures_token (place : LoadError.Section) :
    (token place).Ensures fun t => ∀ n, t.lexeme = .number n → n < 0x8000000000000000 := by
  intro tokens hbounded t rest heq
  cases tokens with
  | nil => cases heq
  | cons first later =>
    cases heq
    exact ⟨hbounded t List.mem_cons_self, hbounded.tail⟩

/-- A number that is read is one of at most 64 bits. -/
theorem ensures_number (place : LoadError.Section) :
    (number place).Ensures fun n => n < 0x8000000000000000 := by
  refine (ensures_token place).bind fun t ht => ?_
  cases hlexeme : t.lexeme with
  | number n => exact ensures_pure (ht n hlexeme)
  | quoted s => exact ensures_fail _
  | bare w => exact ensures_fail _

/-- A quoted string can be anything. -/
theorem ensures_quoted (place : LoadError.Section) : (quoted place).Ensures fun _ => True := by
  refine (ensures_token place).bind fun t ht => ?_
  cases t.lexeme with
  | number n => exact ensures_fail _
  | quoted s => exact ensures_pure trivial
  | bare w => exact ensures_fail _

/-- A number that is checked passes its check. -/
theorem ensures_natural (place : LoadError.Section) (field : LoadError.Field) (ok : Nat → Bool) :
    (natural place field ok).Ensures fun n => n < 0x8000000000000000 ∧ ok n = true := by
  refine (ensures_number place).bind fun value hvalue => ?_
  cases value with
  | ofNat n =>
    by_cases hok : ok n = true
    · simp only [hok, if_true]
      exact ensures_pure ⟨Int.ofNat_lt.1 hvalue, hok⟩
    · simp only [hok, Bool.false_eq_true, if_false]
      exact ensures_fail _
  | negSucc n => exact ensures_fail _

/-! ### Runs of strings -/

theorem allBounded_quotedUpTo (limit : Nat) {tokens : List Token}
    (h : Token.AllBounded tokens) : Token.AllBounded (quotedUpTo limit tokens).2 := by
  fun_induction quotedUpTo limit tokens with
  | case1 n s line rest texts rest' heq ih =>
    rw [heq] at ih
    exact ih h.tail
  | case2 => exact h

theorem ensures_quotedRun : quotedRun.Ensures fun _ => True := by
  intro tokens hbounded texts rest heq
  have hrest : (quotedUpTo tokens.length tokens).2 = rest :=
    congrArg Prod.snd (Except.ok.inj heq)
  rw [← hrest]
  exact ⟨trivial, allBounded_quotedUpTo _ hbounded⟩

end Reader

/-! ## Worlds -/

/-- The conditions that hold in every world that has been read, apart from those on its rows. -/
structure World.WellFormed (world : World) : Prop where
  lastRoom_le : world.header.lastRoom ≤ Header.roomLimit
  startRoom_le : world.header.startRoom ≤ world.header.lastRoom
  lightTime_lt : world.header.lightTime < 0x80000000
  adventure_lt : world.header.adventure < 0x8000000000000000
  length_rooms : world.rooms.length = world.header.lastRoom + 1
  exit_le : ∀ room ∈ world.rooms, ∀ d, room.exit d ≤ world.header.lastRoom
  length_items : world.items.length = world.header.lastItem + 1
  isLocation_home : ∀ item ∈ world.items, world.isLocation item.home = true

/-- The conditions say nothing about the rows. -/
theorem World.WellFormed.withRows {world : World} (h : world.WellFormed) (rows : List Row) :
    { world with rows := rows }.WellFormed where
  lastRoom_le := h.lastRoom_le
  startRoom_le := h.startRoom_le
  lightTime_lt := h.lightTime_lt
  adventure_lt := h.adventure_lt
  length_rooms := h.length_rooms
  exit_le := h.exit_le
  length_items := h.length_items
  isLocation_home := h.isLocation_home

/-- The counts that are read pass the checks of the header. -/
theorem Header.ensures_reader :
    Header.reader.Ensures fun h =>
      h.lastRoom ≤ roomLimit ∧ h.startRoom ≤ h.lastRoom ∧ h.lightTime < 0x80000000 := by
  have hcount := Reader.ensures_natural .header .header fun _ => true
  refine hcount.bind fun textBytes _ => hcount.bind fun lastItem _ => hcount.bind fun lastRow _ =>
    hcount.bind fun lastWord _ => hcount.bind fun lastRoom _ => hcount.bind fun carryLimit _ =>
    hcount.bind fun startRoom _ => hcount.bind fun treasures _ => hcount.bind fun wordLength _ =>
    hcount.bind fun lightTime _ => hcount.bind fun lastMessage _ =>
    hcount.bind fun treasureRoom _ => ?_
  refine Reader.ensures_check fun hrooms => Reader.ensures_check fun hstart =>
    Reader.ensures_check fun hlight => Reader.ensures_pure ?_
  exact ⟨Nat.le_of_not_lt hrooms, Nat.le_of_not_lt hstart, Nat.lt_of_not_le hlight⟩

/-- A row can be anything. -/
theorem Row.ensures_reader (number : Nat) : (Row.reader number).Ensures fun _ => True := by
  have hfield : (Row.field number).Ensures fun _ => True :=
    (Reader.ensures_natural _ _ _).bind fun n _ => Reader.ensures_pure trivial
  exact hfield.bind fun _ _ => hfield.bind fun _ _ => hfield.bind fun _ _ => hfield.bind fun _ _ =>
    hfield.bind fun _ _ => hfield.bind fun _ _ => hfield.bind fun _ _ => hfield.bind fun _ _ =>
    Reader.ensures_pure trivial

/-- Every exit of a room leads to a room. -/
theorem Room.ensures_reader (lastRoom number : Nat) :
    (Room.reader lastRoom number).Ensures fun room => ∀ d, room.exit d ≤ lastRoom := by
  have hexit : (Reader.natural (.room number) .roomExit (· ≤ lastRoom)).Ensures (· ≤ lastRoom) :=
    (Reader.ensures_natural _ _ _).mono fun n hn => by simpa using hn.2
  refine hexit.bind fun north hnorth => hexit.bind fun south hsouth =>
    hexit.bind fun east heast => hexit.bind fun west hwest => hexit.bind fun up hup =>
    hexit.bind fun down hdown => (Reader.ensures_quoted _).bind fun description _ =>
    Reader.ensures_pure ?_
  intro d
  cases d with
  | north => exact hnorth
  | south => exact hsouth
  | east => exact heast
  | west => exact hwest
  | up => exact hup
  | down => exact hdown

/-- The words of an item do not change where it starts. -/
@[simp]
theorem Item.home_ofText (text : String) (home : Nat) : (Item.ofText text home).home = home := by
  unfold ofText
  split <;> rfl

/-- Every item starts in the inventory, in the storeroom or in a room. -/
theorem Item.ensures_reader (lastRoom number : Nat) :
    (Item.reader lastRoom number).Ensures fun item =>
      item.home = carried ∨ item.home ≤ lastRoom := by
  refine (Reader.ensures_quoted _).bind fun text _ =>
    (Reader.ensures_natural _ _ _).bind fun home hhome => Reader.ensures_pure ?_
  simpa using hhome.2

/-- The titles can be anything. -/
theorem World.ensures_titlesReader (lastRow : Nat) :
    (World.titlesReader lastRow).Ensures fun _ => True := by
  intro tokens hbounded titles rest heq
  have hrest : (Reader.quotedUpTo (lastRow + 1) tokens).2 = rest :=
    congrArg Prod.snd (Except.ok.inj heq)
  rw [← hrest]
  exact ⟨trivial, Reader.allBounded_quotedUpTo _ hbounded⟩

/-- The data as a whole describes a world that is well-formed, with a vocabulary that is laid out in
one of the two ways. -/
theorem World.ensures_reader :
    World.reader.Ensures fun world =>
      world.WellFormed ∧ ∃ texts, world.words = Word.ofTexts world.header.lastWord texts := by
  refine Header.ensures_reader.bind fun counts hcounts =>
    (Reader.ensures_table Row.ensures_reader 0 _).bind fun rows _ =>
    Reader.ensures_quotedRun.bind fun texts _ =>
    (Reader.ensures_table (Room.ensures_reader counts.lastRoom) 0 _).bind fun rooms hrooms =>
    (Reader.ensures_table (fun n => Reader.ensures_quoted (.message n)) 0 _).bind
      fun messages _ =>
    (Reader.ensures_table (Item.ensures_reader counts.lastRoom) 0 _).bind fun items hitems =>
    (World.ensures_titlesReader _).bind fun titles _ =>
    (Reader.ensures_natural _ _ _).bind fun version _ =>
    (Reader.ensures_natural _ _ _).bind fun adventure hadventure =>
    (Reader.ensures_number _).bind fun found _ => Reader.ensures_check fun _ =>
    Reader.ensures_pure ?_
  refine ⟨?_, texts, rfl⟩
  exact {
    lastRoom_le := hcounts.1
    startRoom_le := hcounts.2.1
    lightTime_lt := hcounts.2.2
    adventure_lt := hadventure.1
    length_rooms := hrooms.1
    exit_le := hrooms.2
    length_items := hitems.1
    isLocation_home := by simpa [World.isLocation] using hitems.2 }

/-- Tokens describe a world when they can be read as it and the check of the action table lets it
through. -/
theorem World.reader_of_ofTokens {tokens : List Token} {world : World}
    (h : World.ofTokens tokens = .ok world) :
    ∃ rest, World.reader tokens = .ok (world, rest) ∧ world.checkRows = .ok world := by
  obtain ⟨⟨found, rest⟩, hread, hcheck⟩ := exists_of_bind_eq_ok h
  have hfound : found = world := by
    simp only [World.checkRows] at hcheck
    split at hcheck
    · cases hcheck
    · exact Except.ok.inj hcheck
  subst hfound
  exact ⟨rest, hread, hcheck⟩

/-- A text describes a world when its tokens do. -/
theorem World.reader_of_read {text : String} {world : World} (h : World.read text = .ok world) :
    ∃ tokens rest, Token.scan text = .ok tokens ∧ World.reader tokens = .ok (world, rest) ∧
      world.checkRows = .ok world := by
  unfold World.read at h
  cases hscan : Token.scan text with
  | error e => simp [hscan] at h
  | ok tokens =>
    rw [hscan] at h
    obtain ⟨rest, hread, hcheck⟩ := World.reader_of_ofTokens h
    exact ⟨tokens, rest, rfl, hread, hcheck⟩

/-- A world that has been read is well-formed. -/
theorem World.wellFormed_of_read {text : String} {world : World}
    (h : World.read text = .ok world) : world.WellFormed := by
  obtain ⟨tokens, rest, hscan, hreader, -⟩ := World.reader_of_read h
  exact (World.ensures_reader tokens (Token.allBounded_of_scan hscan) world rest hreader).1.1

/-- The vocabulary of a world that has been read is interleaved or split. -/
theorem World.words_of_read {text : String} {world : World} (h : World.read text = .ok world) :
    ∃ texts, world.words = Word.ofTexts world.header.lastWord texts := by
  obtain ⟨tokens, rest, hscan, hreader, -⟩ := World.reader_of_read h
  exact (World.ensures_reader tokens (Token.allBounded_of_scan hscan) world rest hreader).1.2

end TextAdventure
