import TextAdventure.Proofs.LaidOutText

/-!
# Texts in any layout

Lexemes are written one after another.  Between two of them stands a gap, and at both ends of the
text stands any filler, which may begin with a comment.  Whatever the layout, the scan gives the
lexemes back, each with the line on which its first character stands.

There is one exception.  A comment directly behind a bare word that ends with a slash begins one
character too early: the slash of the word is taken as the first of the two that open the comment.
This can only happen behind the last lexeme, since a gap begins with a blank.

Main results:

- Definition `Layout.before`: the part of a text that stands in front of a lexeme.
- Structure `Spread` with `Spread.write`: a layout with any filler at the end.
- Theorem `Spread.scan_write_spread`: the lexemes and their lines.
- Theorem `Spread.not_scan_slash_comment`: the exception.
-/

namespace TextAdventure

/-! ## In front of a lexeme -/

namespace Layout

variable (layout : Layout)

/-- Lexemes with the gaps behind them, of which the first has the given number. -/
def withGaps (n : Nat) (ls : List Lexeme) : List Char :=
  (ls.zipIdx n).flatMap fun (l, i) => l.text ++ (layout.gap i).text

/-- What stands in front of the lexeme at a place. -/
def before (ls : List Lexeme) (place : Nat) : List Char :=
  layout.opening ++ layout.withGaps 0 (ls.take place)

@[simp]
theorem withGaps_cons (n : Nat) (l : Lexeme) (ls : List Lexeme) :
    layout.withGaps n (l :: ls) =
      l.text ++ ((layout.gap n).text ++ layout.withGaps (n + 1) ls) := by
  simp [withGaps]

/-- A lexeme stands behind the lexemes in front of it and their gaps. -/
theorem withGaps_append_text {l m : Lexeme} {ls : List Lexeme} {place : Nat}
    (h : (l :: ls)[place]? = some m) (n : Nat) :
    layout.withGaps n ((l :: ls).take place) ++ m.text <+: l.text ++ layout.follow n ls := by
  induction ls generalizing l place n with
  | nil =>
    obtain ⟨rfl, rfl⟩ : place = 0 ∧ l = m := by
      cases place <;> simp_all
    exact List.prefix_append _ _
  | cons k ls ih =>
    cases place with
    | zero =>
      obtain rfl : l = m := by simpa using h
      exact List.prefix_append _ _
    | succ place =>
      rw [List.getElem?_cons_succ] at h
      rw [List.take_succ_cons, withGaps_cons, follow, List.append_assoc, List.append_assoc]
      exact (List.prefix_append_right_inj _).2 ((List.prefix_append_right_inj _).2 (ih h (n + 1)))

theorem before_append_text {ls : List Lexeme} {place : Nat} {l : Lexeme}
    (h : ls[place]? = some l) :
    layout.before ls place ++ l.text <+: (layout.write ls).toList := by
  cases ls with
  | nil => simp at h
  | cons first ls =>
    rw [write, String.toList_ofList, before, List.append_assoc]
    exact (List.prefix_append_right_inj _).2 (layout.withGaps_append_text h 0)

/-- The line of a token is the one behind the lexemes in front of it and their gaps. -/
theorem line_tokensFrom {l : Lexeme} {ls : List Lexeme} {line n place : Nat} {t : Token}
    (h : (⟨l, line⟩ :: layout.tokensFrom (Token.lineBehind line l.text) n ls)[place]? = some t) :
    t.line = Token.lineBehind line (layout.withGaps n ((l :: ls).take place)) := by
  induction ls generalizing l line n place with
  | nil =>
    obtain ⟨rfl, rfl⟩ : place = 0 ∧ ⟨l, line⟩ = t := by
      cases place <;> simp_all [tokensFrom]
    rfl
  | cons m ls ih =>
    cases place with
    | zero =>
      obtain rfl : ⟨l, line⟩ = t := by simpa using h
      rfl
    | succ place =>
      rw [List.getElem?_cons_succ] at h
      rw [ih h, List.take_succ_cons, withGaps_cons, Token.lineBehind_append,
        Token.lineBehind_append]

theorem line_tokens {ls : List Lexeme} {place : Nat} {t : Token}
    (h : (layout.tokens ls)[place]? = some t) :
    t.line = 1 + (layout.before ls place).count '\n' := by
  cases ls with
  | nil => simp [tokens] at h
  | cons first ls =>
    rw [layout.line_tokensFrom h, ← Token.lineBehind_append, Token.lineBehind_eq_add_count]
    rfl

end Layout

/-! ## Fillers at both ends -/

/-- What stands around lexemes: a filler at both ends, and a gap behind each lexeme but the last
one. -/
structure Spread where
  opening : List Char
  filler_opening : Filler opening
  gap : Nat → Gap
  closing : List Char
  filler_closing : Filler closing

namespace Spread

/-- The layout without what stands at the end. -/
def layout (spread : Spread) : Layout where
  opening := spread.opening
  filler_opening := spread.filler_opening
  gap := spread.gap
  closing := none

/-- The text of the lexemes. -/
def write (spread : Spread) (ls : List Lexeme) : String :=
  spread.layout.write ls ++ String.ofList spread.closing

/-- Lexemes are read back from a text in any layout, as long as no comment stands directly behind a
last lexeme that ends with a slash.  The line of each token counts the line breaks in front of its
first character. -/
theorem scan_write_spread (spread : Spread) {ls : List Lexeme} (h : ∀ l ∈ ls, l.Writable)
    (hclosing : ∀ l, ls.getLast? = some l → l.text.getLast? = some '/' →
      spread.closing.head? ≠ some '/') :
    ∃ tokens, Token.scan (spread.write ls) = .ok tokens ∧ tokens.map Token.lexeme = ls ∧
      ∀ place t, tokens[place]? = some t →
        spread.layout.before ls place ++ t.lexeme.text <+: (spread.write ls).toList ∧
          t.line = 1 + (spread.layout.before ls place).count '\n' := by
  have hlexemes := spread.layout.map_lexeme_tokens ls
  refine ⟨spread.layout.tokens ls, ?_, hlexemes, fun place t ht => ⟨?_, ?_⟩⟩
  · exact Token.scan_write_append spread.layout spread.filler_closing h fun _ => hclosing
  · have hlexeme : ls[place]? = some t.lexeme := by
      rw [← hlexemes, List.getElem?_map, ht]
      rfl
    rw [write, String.toList_append]
    exact (spread.layout.before_append_text hlexeme).trans (List.prefix_append _ _)
  · exact spread.layout.line_tokens ht

/-- A layout with a comment at both ends, and with another one in each gap. -/
def betweenComments : Spread where
  opening := '/' :: '/' :: ("\"".toList ++ '\n' :: [])
  filler_opening := .comment (by simp) (Or.inl rfl) .nil
  gap _ :=
    ⟨'\t', '/' :: '/' :: ("a".toList ++ '\r' :: []), rfl, .comment (by simp) (Or.inr rfl) .nil⟩
  closing := '/' :: '/' :: ([] ++ '\n' :: [])
  filler_closing := .comment (by simp) (Or.inl rfl) .nil

/-- A bare word that ends with a slash, a number and a string of two lines are read back from this
layout. -/
theorem scan_write_spread_betweenComments :
    let ls : List Lexeme := [.bare "a/", .number (-7), .quoted "//\n"]
    let text := betweenComments.write ls
    ((∀ l ∈ ls, l.Writable) ∧ ∀ l, ls.getLast? = some l → l.text.getLast? = some '/' →
      betweenComments.closing.head? ≠ some '/') ∧
      text = "//\"\na/\t//a\r-7\t//a\r\"//\n\"//\n" ∧
      ∃ tokens, Token.scan text = .ok tokens ∧ tokens.map Token.lexeme = ls ∧
        ∀ place t, tokens[place]? = some t →
          betweenComments.layout.before ls place ++ t.lexeme.text <+: text.toList ∧
            t.line = 1 + (betweenComments.layout.before ls place).count '\n' := by
  intro ls text
  have hwritable : ∀ l ∈ ls, l.Writable := by decide
  have hclosing : ∀ l, ls.getLast? = some l → l.text.getLast? = some '/' →
      betweenComments.closing.head? ≠ some '/' := by
    intro l hl hslash
    obtain rfl : Lexeme.quoted "//\n" = l := Option.some.inj hl
    exact absurd hslash (by decide)
  have htext : text = "//\"\na/\t//a\r-7\t//a\r\"//\n\"//\n" := by decide +kernel
  exact ⟨⟨hwritable, hclosing⟩, htext, scan_write_spread betweenComments hwritable hclosing⟩

/-- A bare word that ends with a slash is not read back when a comment stands directly behind it: of
the text `a///` the word is `a`, and all slashes belong to the comment. -/
theorem not_scan_slash_comment :
    ¬∀ (spread : Spread) (ls : List Lexeme), (∀ l ∈ ls, l.Writable) →
      ∃ tokens, Token.scan (spread.write ls) = .ok tokens ∧ tokens.map Token.lexeme = ls := by
  intro h
  let spread : Spread :=
    ⟨[], .nil, betweenComments.gap, betweenComments.closing, betweenComments.filler_closing⟩
  have hscan : Token.scan (spread.write [.bare "a/"]) = .ok [⟨.bare "a", 1⟩] := by decide +kernel
  obtain ⟨tokens, htokens, hlexemes⟩ := h spread [.bare "a/"] (by decide)
  rw [hscan] at htokens
  cases htokens
  exact absurd hlexemes (by decide)

end Spread

end TextAdventure
