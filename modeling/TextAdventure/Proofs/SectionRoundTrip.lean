import Mathlib.Tactic.IntervalCases
import TextAdventure.Data.World
import TextAdventure.Proofs.DecimalText

/-!
# Sections read back

Each section of adventure data is read back from the lexemes that it is written with, whatever
tokens come behind it.  The vocabulary alone is only told apart from what follows by the kind of the
next token, so that its rule looks at one lexeme more.

Main results:

- Definition `Reader.Reads`, with rules for composed readers, for tables and for runs of strings.
- Definitions `Header.numbers`, `Row.numbers`, `Word.written`, `Room.lexemes` and `Item.lexemes`:
  the sections in writing.
- Theorems `Header.reads`, `Row.reads`, `Room.reads`, `Item.reads` and `Word.interleaved_written`.
-/

namespace TextAdventure

/-! ## Readers that read back -/

/-- Off tokens that stand for the lexemes, and off nothing behind them, the reader reads the
value. -/
def Reader.Reads {α : Type} (r : Reader α) (lexemes : List Lexeme) (a : α) : Prop :=
  ∀ tokens rest, tokens.map Token.lexeme = lexemes → r (tokens ++ rest) = .ok (a, rest)

namespace Reader

variable {α β : Type} {r : Reader α} {f : α → Reader β} {a : α} {b : β} {xs ys : List Lexeme}

/-! ### Rules -/

theorem reads_pure (a : α) : (pure a : Reader α).Reads [] a := by
  intro tokens rest h
  obtain rfl := List.map_eq_nil_iff.1 h
  rfl

theorem Reads.bind (hr : r.Reads xs a) (hf : (f a).Reads ys b) : (r >>= f).Reads (xs ++ ys) b := by
  intro tokens rest h
  obtain ⟨first, second, rfl, hfirst, hsecond⟩ := List.map_eq_append_iff.1 h
  have hread : r (first ++ (second ++ rest)) = .ok (a, second ++ rest) := hr first _ hfirst
  have hnext : f a (second ++ rest) = .ok (b, rest) := hf second rest hsecond
  rw [List.append_assoc]
  show (r (first ++ (second ++ rest)) >>= fun p => f p.1 p.2) = _
  rw [hread]
  exact hnext

/-- What is computed from a value that is read back is read back. -/
theorem Reads.bind_pure {g : α → β} (hr : r.Reads xs a) :
    (r >>= fun x => pure (g x)).Reads xs (g a) := by
  have hread : (r >>= fun x => pure (g x)).Reads (xs ++ []) (g a) := hr.bind (reads_pure (g a))
  rwa [List.append_nil] at hread

/-- A check that is passed reads nothing. -/
theorem reads_check {bad : Prop} [Decidable bad] {e : LoadError} {g : β → Reader α} (h : ¬bad)
    (hr : r.Reads xs a) : (if bad then fail e >>= g else r).Reads xs a := by
  rw [if_neg h]
  exact hr

/-- A table is read back entry by entry. -/
theorem reads_table {entry : Nat → Reader α} {lexemes : α → List Lexeme} {as : List α}
    (h : ∀ n, ∀ a ∈ as, (entry n).Reads (lexemes a) a) (start : Nat) :
    (table entry start as.length).Reads (as.flatMap lexemes) as := by
  induction as generalizing start with
  | nil => exact reads_pure []
  | cons a as ih =>
    have hmore := ih (fun n b hb => h n b (List.mem_cons_of_mem a hb)) (start + 1)
    exact (h start a List.mem_cons_self).bind hmore.bind_pure

/-! ### Single tokens -/

theorem reads_number (place : LoadError.Section) (n : Int) :
    (number place).Reads [.number n] n := by
  intro tokens rest h
  obtain ⟨⟨l, line⟩, rfl, rfl⟩ := List.map_eq_singleton_iff.1 h
  rfl

theorem reads_quoted (place : LoadError.Section) (s : String) :
    (quoted place).Reads [.quoted s] s := by
  intro tokens rest h
  obtain ⟨⟨l, line⟩, rfl, rfl⟩ := List.map_eq_singleton_iff.1 h
  rfl

theorem reads_natural (place : LoadError.Section) (field : LoadError.Field) {ok : Nat → Bool}
    {n : Nat} (h : ok n = true) : (natural place field ok).Reads [.number n] n := by
  intro tokens rest htokens
  obtain ⟨⟨l, line⟩, rfl, rfl⟩ := List.map_eq_singleton_iff.1 htokens
  exact natural_cons h line rest

theorem reads_count (place : LoadError.Section) (field : LoadError.Field) (n : Nat) :
    (count place field).Reads [.number n] n :=
  reads_natural place field rfl

/-! ### Runs of strings -/

/-- Strings are read up to the limit, or up to a token of another kind. -/
theorem quotedUpTo_append {texts : List String} {tokens rest : List Token} {limit : Nat}
    (htokens : tokens.map Token.lexeme = texts.map .quoted) (hlimit : texts.length ≤ limit)
    (hrest : texts.length = limit ∨ ∀ s line later, rest ≠ ⟨.quoted s, line⟩ :: later) :
    quotedUpTo limit (tokens ++ rest) = (texts, rest) := by
  induction texts generalizing tokens limit with
  | nil =>
    obtain rfl := List.map_eq_nil_iff.1 htokens
    rw [List.nil_append]
    unfold quotedUpTo
    split
    · rename_i n s line later
      rcases hrest with hzero | hother
      · cases hzero
      · exact absurd rfl (hother s line later)
    · rfl
  | cons s texts ih =>
    obtain ⟨⟨l, line⟩, later, rfl, rfl, hlater⟩ := List.map_eq_cons_iff.1 htokens
    cases limit with
    | zero => simp at hlimit
    | succ n =>
      have hmore := ih hlater (Nat.le_of_succ_le_succ hlimit)
        (hrest.imp (fun heq => Nat.succ.inj heq) fun hother => hother)
      simp only [List.cons_append, quotedUpTo, hmore]

/-- A run of strings is read back when a number follows it. -/
theorem Reads.quotedRun_bind {texts : List String} {n : Int} {f : List String → Reader β}
    (hnumber : ys.head? = some (.number n)) (hf : (f texts).Reads ys b) :
    (quotedRun >>= f).Reads (texts.map .quoted ++ ys) b := by
  intro tokens rest h
  obtain ⟨first, second, rfl, hfirst, hsecond⟩ := List.map_eq_append_iff.1 h
  have hlength : texts.length ≤ (first ++ (second ++ rest)).length := by
    have heq := congrArg List.length hfirst
    simp only [List.length_map] at heq
    simp only [List.length_append]
    omega
  have hother : ∀ s line later, second ++ rest ≠ ⟨.quoted s, line⟩ :: later := by
    intro s line later heq
    cases second with
    | nil =>
      subst hsecond
      cases hnumber
    | cons t second =>
      obtain ⟨rfl, -⟩ := List.cons.inj heq
      subst hsecond
      cases hnumber
  have hrun := quotedUpTo_append hfirst hlength (Or.inr hother)
  rw [List.append_assoc]
  show f (quotedUpTo (first ++ (second ++ rest)).length (first ++ (second ++ rest))).1
    (quotedUpTo (first ++ (second ++ rest)).length (first ++ (second ++ rest))).2 = _
  rw [hrun]
  exact hf second rest hsecond

/-- As many titles as there are rows are read back. -/
theorem reads_titlesReader {titles : List String} {lastRow : Nat}
    (h : titles.length = lastRow + 1) :
    (World.titlesReader lastRow).Reads (titles.map .quoted) titles := by
  intro tokens rest htokens
  have hrun : quotedUpTo (lastRow + 1) (tokens ++ rest) = (titles, rest) :=
    quotedUpTo_append htokens (Nat.le_of_eq h) (Or.inl h)
  simp [World.titlesReader, hrun, h]

end Reader

/-- Numbers as they are written. -/
def Lexeme.ofNumbers (ns : List Nat) : List Lexeme :=
  ns.map fun (n : Nat) => .number n

/-! ## The header -/

namespace Header

/-- The counts that the data begins with, in order. -/
def numbers (h : Header) : List Nat :=
  [h.textBytes, h.lastItem, h.lastRow, h.lastWord, h.lastRoom, h.carryLimit, h.startRoom,
    h.treasures, h.wordLength, h.lightTime, h.lastMessage, h.treasureRoom]

/-- The numbers that the data ends with, in order. -/
def trailer (h : Header) : List Nat :=
  [h.version, h.adventure, h.checksum]

/-- A header that passes its checks is read back, but for what stands in the trailer. -/
theorem reads {h : Header} (hrooms : h.lastRoom ≤ roomLimit) (hstart : h.startRoom ≤ h.lastRoom)
    (hlight : h.lightTime < 0x80000000) :
    reader.Reads (Lexeme.ofNumbers h.numbers) { h with version := 0, adventure := 0 } := by
  have hcount := Reader.reads_count .header .header
  iterate 12 refine (hcount _).bind ?_
  exact Reader.reads_check (Nat.not_lt.2 hrooms) <| Reader.reads_check (Nat.not_lt.2 hstart) <|
    Reader.reads_check (Nat.not_le.2 hlight) <| Reader.reads_pure _

end Header

/-! ## Rows -/

namespace Row

/-- The numbers of a row, in order. -/
def numbers (row : Row) : List Nat :=
  [row.vocab.toNat, row.conditions[0].toNat, row.conditions[1].toNat, row.conditions[2].toNat,
    row.conditions[3].toNat, row.conditions[4].toNat, row.commands[0].toNat, row.commands[1].toNat]

theorem reads_field (number : Nat) (value : UInt32) :
    (field number).Reads [.number value.toNat] value := by
  have hnumber : (Reader.natural (.row number) .rowField (· < 0x100000000)).Reads
      [.number value.toNat] value.toNat :=
    Reader.reads_natural _ _ (decide_eq_true value.toNat_lt)
  have hfield : (field number).Reads [.number value.toNat] (UInt32.ofNat value.toNat) :=
    hnumber.bind_pure
  rwa [UInt32.ofNat_toNat] at hfield

/-- A row is read back. -/
theorem reads (row : Row) (number : Nat) :
    (reader number).Reads (Lexeme.ofNumbers row.numbers) row := by
  have hconditions : #v[row.conditions[0], row.conditions[1], row.conditions[2],
      row.conditions[3], row.conditions[4]] = row.conditions := by
    ext i hi
    interval_cases i <;> rfl
  have hcommands : #v[row.commands[0], row.commands[1]] = row.commands := by
    ext i hi
    interval_cases i <;> rfl
  have hread : (reader number).Reads (Lexeme.ofNumbers row.numbers)
      ⟨row.vocab, #v[row.conditions[0], row.conditions[1], row.conditions[2], row.conditions[3],
        row.conditions[4]], #v[row.commands[0], row.commands[1]]⟩ := by
    iterate 8 refine (reads_field number _).bind ?_
    exact Reader.reads_pure _
  rwa [hconditions, hcommands] at hread

end Row

/-! ## Rooms -/

namespace Room

/-- The lexemes of a room, in order. -/
def lexemes (room : Room) : List Lexeme :=
  Lexeme.ofNumbers [room.exits[0], room.exits[1], room.exits[2], room.exits[3], room.exits[4],
    room.exits[5]] ++ [.quoted room.description]

/-- A room whose exits lead to rooms is read back. -/
theorem reads {room : Room} {lastRoom : Nat} (h : ∀ d, room.exit d ≤ lastRoom) (number : Nat) :
    (reader lastRoom number).Reads room.lexemes room := by
  have hexits : #v[room.exits[0], room.exits[1], room.exits[2], room.exits[3], room.exits[4],
      room.exits[5]] = room.exits := by
    ext i hi
    interval_cases i <;> rfl
  have hexit : ∀ d, (Reader.natural (.room number) .roomExit (· ≤ lastRoom)).Reads
      [.number (room.exit d)] (room.exit d) :=
    fun d => Reader.reads_natural _ _ (decide_eq_true (h d))
  have hread : (reader lastRoom number).Reads room.lexemes
      ⟨#v[room.exits[0], room.exits[1], room.exits[2], room.exits[3], room.exits[4],
        room.exits[5]], room.description⟩ := by
    refine (hexit .north).bind ?_
    refine (hexit .south).bind ?_
    refine (hexit .east).bind ?_
    refine (hexit .west).bind ?_
    refine (hexit .up).bind ?_
    refine (hexit .down).bind ?_
    exact (Reader.reads_quoted (.room number) room.description).bind_pure
  rwa [hexits] at hread

end Room

/-! ## Items -/

namespace Item

/-- The text of an item: its description, and behind it the word it answers to between two
slashes. -/
def written (item : Item) : String :=
  match item.word? with
  | some word => item.description ++ "/" ++ word ++ "/"
  | none => item.description

/-- The lexemes of an item, in order. -/
def lexemes (item : Item) : List Lexeme :=
  [.quoted item.written, .number item.home]

/-- The description and the word of an item can be told apart in its text. -/
structure Writable (item : Item) : Prop where
  description : '/' ∉ item.description.toList
  word : ∀ word, item.word? = some word → word ≠ "" ∧ '/' ∉ word.toList

/-- The text of an item stands for its description and its word. -/
theorem ofText_written {item : Item} (h : item.Writable) :
    ofText item.written item.home = item := by
  obtain ⟨description, word?, home⟩ := item
  cases word? with
  | none =>
    show ofText description home = _
    rw [ofText, splitSlashes, Text.span_eq_self h.description]
    simp
  | some word =>
    obtain ⟨hne, hslash⟩ := h.word word rfl
    have hsplit : splitSlashes (description ++ "/" ++ word ++ "/").toList =
        [description.toList, word.toList, []] := by
      have htext : (description ++ "/" ++ word ++ "/").toList =
          description.toList ++ '/' :: (word.toList ++ '/' :: []) := by simp
      rw [htext, splitSlashes, Text.span_of_notMem h.description]
      simp only [Text.span_of_notMem hslash]
    show ofText (description ++ "/" ++ word ++ "/") home = _
    rw [ofText, hsplit]
    simp [hne]

/-- An item that starts at a location is read back. -/
theorem reads {item : Item} {lastRoom : Nat} (h : item.Writable)
    (hhome : (item.home == carried || item.home ≤ lastRoom) = true) (number : Nat) :
    (reader lastRoom number).Reads item.lexemes item := by
  have hlocation : (Reader.natural (.item number) .itemLocation
      fun l => l == carried || l ≤ lastRoom).Reads [.number item.home] item.home :=
    Reader.reads_natural _ _ hhome
  have hread : (reader lastRoom number).Reads item.lexemes (ofText item.written item.home) := by
    refine (Reader.reads_quoted _ _).bind ?_
    exact hlocation.bind_pure
  rwa [ofText_written h] at hread

end Item

/-! ## The vocabulary -/

namespace Word

/-- The text of a word, with an asterisk in front of a synonym. -/
def written (word : Word) : String :=
  if word.isSynonym then "*" ++ word.text else word.text

/-- The words are verbs and nouns in turn, and the words of each pair share its number. -/
def Paired (words : List Word) : Prop :=
  ∀ place word, words[place]? = some word →
    word.kind = (if place % 2 = 0 then .verb else .noun) ∧ word.index = place / 2

/-- The text of a word stands for the word, unless it is mistaken for a synonym. -/
theorem ofText_written {word : Word}
    (h : word.isSynonym = false → word.text.toList.head? ≠ some '*') :
    ofText word.written word.kind word.index = word := by
  obtain ⟨text, isSynonym, kind, index⟩ := word
  cases isSynonym with
  | true => simp [written, ofText]
  | false =>
    simp only [written, Bool.false_eq_true, if_false, ofText]
    split
    · rename_i rest heq
      exact absurd (by rw [heq]; rfl) (h rfl)
    · rfl

/-- Words in pairs are read back from their texts. -/
theorem interleaved_written {words : List Word} (hpaired : Paired words)
    (h : ∀ word ∈ words, word.isSynonym = false → word.text.toList.head? ≠ some '*') :
    interleaved (words.map written) = words := by
  apply List.ext_getElem?
  intro place
  rw [interleaved, List.getElem?_map, List.getElem?_zipIdx, List.getElem?_map]
  cases hword : words[place]? with
  | none => rfl
  | some word =>
    obtain ⟨hkind, hindex⟩ := hpaired place word hword
    have htext := ofText_written (h word (List.mem_of_getElem? hword))
    simp only [Option.map_some, Nat.zero_add, Option.some.injEq]
    rw [← hkind, ← hindex, htext]

end Word

end TextAdventure
