import TextAdventure.Data.Scan
import TextAdventure.Proofs.DecimalText

/-!
# Texts that lay out lexemes

Adventure data is written one lexeme after another.  Between two of them stands a blank, and behind
it any mixture of blanks and comments; the same can stand before the first lexeme and behind the
last one.  However it is laid out, such a text is scanned as the lexemes that were written.

Main results:

- Definitions `Lexeme.text` and `Lexeme.Writable`: a lexeme in writing.
- Structure `Layout` with `Layout.write`: what stands around the lexemes, and the text.
- Theorem `Token.scan_write`: the tokens of the text, with their lines.
-/

namespace TextAdventure

open Text

/-! ## Lexemes in writing -/

namespace Lexeme

/-- A lexeme as it is written. -/
def text : Lexeme → List Char
  | number n => (toString n).toList
  | quoted s => '"' :: (s.toList ++ ['"'])
  | bare word => word.toList

/-- A lexeme can be written.  A number has at most 64 bits, no quote stands inside a quoted string,
and a bare word is a run of characters outside quotes that does not read as a number. -/
def Writable : Lexeme → Prop
  | number n => -0x8000000000000000 ≤ n ∧ n < 0x8000000000000000
  | quoted s => '"' ∉ s.toList
  | bare word => word ≠ "" ∧ Solid word ∧ '"' ∉ word.toList ∧ ¬['/', '/'] <:+: word.toList ∧
      integer64? word = none

instance (l : Lexeme) : Decidable l.Writable :=
  match l with
  | number n => inferInstanceAs (Decidable (_ ≤ n ∧ n < _))
  | quoted s => inferInstanceAs (Decidable ('"' ∉ s.toList))
  | bare word => inferInstanceAs (Decidable (word ≠ "" ∧ Solid word ∧ '"' ∉ word.toList ∧
      ¬['/', '/'] <:+: word.toList ∧ integer64? word = none))

end Lexeme

/-! ## Layouts -/

/-- Blanks and comments, where each comment is ended by a line break or a carriage return. -/
inductive Filler : List Char → Prop
  | nil : Filler []
  | blank {c : Char} {cs : List Char} (hc : isBlank c = true) (hcs : Filler cs) : Filler (c :: cs)
  | comment {body cs : List Char} {c : Char} (hbody : ∀ d ∈ body, d ≠ '\n' ∧ d ≠ '\r')
      (hc : c = '\n' ∨ c = '\r') (hcs : Filler cs) : Filler ('/' :: '/' :: (body ++ c :: cs))

/-- Fillers make up a filler. -/
theorem Filler.append {cs ds : List Char} (hcs : Filler cs) (hds : Filler ds) :
    Filler (cs ++ ds) := by
  induction hcs with
  | nil => exact hds
  | blank hc _ ih => exact .blank hc ih
  | @comment body cs c hbody hc hcs ih =>
    rw [List.cons_append, List.cons_append, List.append_assoc]
    exact .comment hbody hc ih

/-- What separates two lexemes: a blank, and behind it any filler. -/
structure Gap where
  first : Char
  more : List Char
  isBlank_first : isBlank first = true
  filler_more : Filler more

namespace Gap

/-- The characters of a gap. -/
def text (gap : Gap) : List Char :=
  gap.first :: gap.more

theorem filler_text (gap : Gap) : Filler gap.text :=
  .blank gap.isBlank_first gap.filler_more

end Gap

/-- What stands around lexemes: before the first one, behind each but the last one, and behind the
last one. -/
structure Layout where
  opening : List Char
  filler_opening : Filler opening
  gap : Nat → Gap
  closing : Option Gap

namespace Layout

/-- What is written behind a lexeme: the other lexemes, the first of which stands behind the gap of
the given number. -/
def follow (layout : Layout) : Nat → List Lexeme → List Char
  | _, [] => (layout.closing.map Gap.text).getD []
  | n, l :: ls => (layout.gap n).text ++ (l.text ++ layout.follow (n + 1) ls)

/-- The text that lays out lexemes. -/
def write (layout : Layout) : List Lexeme → String
  | [] => String.ofList (layout.opening ++ layout.follow 0 [])
  | l :: ls => String.ofList (layout.opening ++ (l.text ++ layout.follow 0 ls))

end Layout

/-! ## Lines -/

namespace Token

/-- The line after some characters on the given line. -/
def lineBehind (line : Nat) (cs : List Char) : Nat :=
  cs.foldl lineAfter line

@[simp]
theorem lineBehind_nil (line : Nat) : lineBehind line [] = line := rfl

@[simp]
theorem lineBehind_cons (line : Nat) (c : Char) (cs : List Char) :
    lineBehind line (c :: cs) = lineBehind (lineAfter line c) cs := rfl

@[simp]
theorem lineBehind_append (line : Nat) (cs ds : List Char) :
    lineBehind line (cs ++ ds) = lineBehind (lineBehind line cs) ds :=
  List.foldl_append

/-- Only line breaks lead to another line. -/
theorem lineBehind_of_no_break {cs : List Char} (h : ∀ c ∈ cs, c ≠ '\n') (line : Nat) :
    lineBehind line cs = line := by
  induction cs with
  | nil => rfl
  | cons c cs ih =>
    have hfirst : lineAfter line c = line := if_neg (h c List.mem_cons_self)
    rw [lineBehind_cons, hfirst]
    exact ih fun d hd => h d (List.mem_cons_of_mem c hd)

/-- The line behind some characters counts the line breaks among them. -/
theorem lineBehind_eq_add_count (line : Nat) (cs : List Char) :
    lineBehind line cs = line + cs.count '\n' := by
  induction cs generalizing line with
  | nil => rfl
  | cons c cs ih =>
    rw [lineBehind_cons, ih]
    by_cases hbreak : c = '\n'
    · subst hbreak
      rw [lineAfter, if_pos rfl, List.count_cons_self]
      omega
    · rw [lineAfter, if_neg hbreak, List.count_cons_of_ne hbreak]

end Token

namespace Layout

/-- The tokens of the lexemes behind a gap, with their lines. -/
def tokensFrom (layout : Layout) : Nat → Nat → List Lexeme → List Token
  | _, _, [] => []
  | line, n, l :: ls =>
    let start := Token.lineBehind line (layout.gap n).text
    ⟨l, start⟩ :: layout.tokensFrom (Token.lineBehind start l.text) (n + 1) ls

/-- The tokens of the text that lays out lexemes. -/
def tokens (layout : Layout) : List Lexeme → List Token
  | [] => []
  | l :: ls =>
    let start := Token.lineBehind 1 layout.opening
    ⟨l, start⟩ :: layout.tokensFrom (Token.lineBehind start l.text) 0 ls

theorem map_lexeme_tokensFrom (layout : Layout) (line n : Nat) (ls : List Lexeme) :
    (layout.tokensFrom line n ls).map Token.lexeme = ls := by
  induction ls generalizing line n with
  | nil => rfl
  | cons l ls ih => simp [tokensFrom, ih]

/-- The tokens stand for the lexemes that were laid out. -/
theorem map_lexeme_tokens (layout : Layout) (ls : List Lexeme) :
    (layout.tokens ls).map Token.lexeme = ls := by
  cases ls with
  | nil => rfl
  | cons l ls => simp [tokens, map_lexeme_tokensFrom]

end Layout

/-! ## Scanning -/

namespace Token

/-- No blank is a slash. -/
theorem opensComment_of_blank {c : Char} (h : isBlank c = true) (rest : List Char) :
    opensComment c rest = false := by
  have hne : c ≠ '/' := by
    rintro rfl
    exact absurd h (by decide)
  simp [opensComment, hne]

/-- A blank is skipped. -/
theorem scanFrom_blank {c : Char} (h : isBlank c = true) (line : Nat) (rest : List Char) :
    scanFrom .between line (c :: rest) = scanFrom .between (lineAfter line c) rest := by
  rw [scanFrom, modeAfter, opensComment_of_blank h, if_neg (by simp), if_pos h]

/-- Two slashes open a comment. -/
theorem scanFrom_slashes (line : Nat) (rest : List Char) :
    scanFrom .between line ('/' :: '/' :: rest) = scanFrom .comment line rest := by
  simp [scanFrom, modeAfter, opensComment, lineAfter]

/-- A double quote opens a quoted string. -/
theorem scanFrom_quote (line : Nat) (rest : List Char) :
    scanFrom .between line ('"' :: rest) = scanFrom (.quoted line []) line rest := by
  have hblank : isBlank '"' = false := rfl
  simp [scanFrom, modeAfter, opensComment, lineAfter, hblank]

/-- A comment is skipped. -/
theorem scanFrom_comment {body : List Char} (h : ∀ d ∈ body, d ≠ '\n' ∧ d ≠ '\r') (line : Nat)
    (rest : List Char) : scanFrom .comment line (body ++ rest) = scanFrom .comment line rest := by
  induction body with
  | nil => rfl
  | cons d body ih =>
    obtain ⟨hbreak, hreturn⟩ := h d List.mem_cons_self
    rw [List.cons_append, scanFrom, if_neg (by simp [hbreak, hreturn])]
    exact ih fun e he => h e (List.mem_cons_of_mem d he)

/-- A comment is skipped together with the line break or carriage return that ends it. -/
theorem scanFrom_comment_append {body : List Char} (h : ∀ d ∈ body, d ≠ '\n' ∧ d ≠ '\r') {c : Char}
    (hc : c = '\n' ∨ c = '\r') (line : Nat) (rest : List Char) :
    scanFrom .between line ('/' :: '/' :: (body ++ c :: rest)) =
      scanFrom .between (lineAfter line c) rest := by
  rw [scanFrom_slashes, scanFrom_comment h, scanFrom, if_pos hc]

/-- Filler is skipped. -/
theorem scanFrom_filler {cs : List Char} (h : Filler cs) (line : Nat) (rest : List Char) :
    scanFrom .between line (cs ++ rest) = scanFrom .between (lineBehind line cs) rest := by
  induction h generalizing line with
  | nil => rfl
  | @blank c cs hc hcs ih =>
    rw [List.cons_append, scanFrom_blank hc]
    exact ih (lineAfter line c)
  | @comment body cs c hbody hc hcs ih =>
    have hlines : lineBehind line ('/' :: '/' :: (body ++ c :: cs)) =
        lineBehind (lineAfter line c) cs := by
      have hslash : lineAfter line '/' = line := rfl
      simp [hslash, lineBehind_of_no_break fun d hd => (hbody d hd).1]
    rw [hlines, List.cons_append, List.cons_append, List.append_assoc, List.cons_append,
      scanFrom_comment_append hbody hc]
    exact ih (lineAfter line c)

/-- The text ends here, or it goes on with a character that belongs to no run. -/
def EndsRun (rest : List Char) : Prop :=
  ∀ c later, rest = c :: later → endsWord c later = true

/-- The text ends here, or it goes on with a blank. -/
def Separated (rest : List Char) : Prop :=
  ∀ c later, rest = c :: later → isBlank c = true

theorem Separated.endsRun {rest : List Char} (h : Separated rest) : EndsRun rest := by
  intro c later heq
  simp [endsWord, h c later heq]

/-- What is separated does not go on with a slash. -/
theorem Separated.head?_ne {rest : List Char} (h : Separated rest) : rest.head? ≠ some '/' := by
  intro hslash
  obtain ⟨later, rfl⟩ := List.head?_eq_some_iff.1 hslash
  exact absurd (h '/' later rfl) (by decide)

/-- A filler ends a run: it begins with a blank or with a comment. -/
theorem endsRun_of_filler {cs : List Char} (h : Filler cs) : EndsRun cs := by
  intro c later heq
  cases h with
  | nil => cases heq
  | blank hc hcs =>
    cases heq
    simp [endsWord, hc]
  | comment hbody hc hcs =>
    cases heq
    simp [endsWord, opensComment]

/-- A quoted string is read up to its closing quote. -/
theorem scanFrom_quoted {cs : List Char} (h : '"' ∉ cs) (start : Nat) (text : List Char)
    (line : Nat) (rest : List Char) :
    scanFrom (.quoted start text) line (cs ++ '"' :: rest) =
      (ofQuoted start (cs.reverse ++ text) :: ·) <$>
        scanFrom .between (lineBehind line cs) rest := by
  induction cs generalizing text line with
  | nil => simp [scanFrom]
  | cons c cs ih =>
    have hne : c ≠ '"' := fun heq => h (by simp [heq])
    rw [List.cons_append, scanFrom, if_neg hne, ih fun hmem => h (List.mem_cons_of_mem c hmem)]
    simp

/-- The characters belong to one run outside quotes when the given ones follow. -/
def IsRun (rest : List Char) : List Char → Prop
  | [] => True
  | c :: cs => endsWord c (cs ++ rest) = false ∧ IsRun rest cs

/-- A run of characters is read up to its end. -/
theorem scanFrom_bare {cs rest : List Char} (h : IsRun rest cs) (hrest : EndsRun rest)
    (start : Nat) (word : List Char) (line : Nat) :
    scanFrom (.bare start word) line (cs ++ rest) =
      (ofRun start (cs.reverse ++ word) :: ·) <$> scanFrom .between line rest := by
  induction cs generalizing word with
  | nil =>
    cases rest with
    | nil => rfl
    | cons c later =>
      simp only [List.nil_append, scanFrom, if_pos (hrest c later rfl), List.reverse_nil]
  | cons c cs ih =>
    rw [List.cons_append, scanFrom, if_neg (by simp [h.1]), ih h.2]
    simp

/-- No character of a run is a blank or a quote. -/
theorem not_blank_of_isRun {cs rest : List Char} (h : IsRun rest cs) :
    ∀ c ∈ cs, isBlank c = false ∧ c ≠ '"' := by
  induction cs with
  | nil => simp
  | cons c cs ih =>
    obtain ⟨hfirst, hmore⟩ := h
    simp only [endsWord, Bool.or_eq_false_iff, beq_eq_false_iff_ne] at hfirst
    intro d hd
    rcases List.mem_cons.1 hd with rfl | hd
    · exact hfirst.1
    · exact ih hmore d hd

/-- A run of characters stays on its line. -/
theorem lineBehind_of_isRun {cs rest : List Char} (h : IsRun rest cs) (line : Nat) :
    lineBehind line cs = line := by
  refine lineBehind_of_no_break (fun c hc => ?_) line
  rintro rfl
  exact absurd (not_blank_of_isRun h '\n' hc).1 (by decide)

/-- A run of characters is read as one token. -/
theorem scanFrom_run {cs rest : List Char} (hne : cs ≠ []) (h : IsRun rest cs)
    (hrest : EndsRun rest) (line : Nat) :
    scanFrom .between line (cs ++ rest) =
      (⟨.ofWord (String.ofList cs), line⟩ :: ·) <$>
        scanFrom .between (lineBehind line cs) rest := by
  rw [lineBehind_of_isRun h]
  cases cs with
  | nil => contradiction
  | cons c cs =>
    obtain ⟨hfirst, hmore⟩ := h
    have hone : IsRun (cs ++ rest) [c] := ⟨hfirst, trivial⟩
    have hline := lineBehind_of_isRun hone line
    simp only [endsWord, Bool.or_eq_false_iff, beq_eq_false_iff_ne] at hfirst
    obtain ⟨⟨hblank, hquote⟩, hcomment⟩ := hfirst
    have hmode : modeAfter line c (cs ++ rest) = .bare line [c] := by
      simp [modeAfter, hcomment, hblank, hquote]
    rw [List.cons_append, scanFrom, hmode]
    simp only [lineBehind_cons, lineBehind_nil] at hline
    rw [hline, scanFrom_bare hmore hrest]
    simp [ofRun]

/-- Characters that are neither blanks nor quotes, and among which no comment begins, belong to one
run.  No comment begins with the last of them either. -/
theorem isRun_of_solid {cs rest : List Char} (hsolid : ∀ c ∈ cs, isBlank c = false)
    (hquote : '"' ∉ cs) (hcomment : ¬['/', '/'] <:+: cs)
    (hjoin : cs.getLast? = some '/' → rest.head? ≠ some '/') : IsRun rest cs := by
  induction cs with
  | nil => trivial
  | cons c cs ih =>
    have hopens : opensComment c (cs ++ rest) = false := by
      refine Bool.eq_false_iff.2 fun h => ?_
      simp only [opensComment, Bool.and_eq_true, beq_iff_eq] at h
      obtain ⟨rfl, hhead⟩ := h
      cases cs with
      | nil => exact hjoin rfl hhead
      | cons d cs =>
        obtain rfl : d = '/' := by simpa using hhead
        exact hcomment ⟨[], cs, rfl⟩
    constructor
    · have hne : c ≠ '"' := fun heq => hquote (by simp [heq])
      simp [endsWord, hsolid c List.mem_cons_self, hne, hopens]
    · refine ih (fun d hd => hsolid d (List.mem_cons_of_mem c hd))
        (fun hd => hquote (List.mem_cons_of_mem c hd)) (fun hslashes => hcomment ?_)
        (fun hlast => hjoin ?_)
      · exact hslashes.trans (List.suffix_cons c cs).isInfix
      · rw [List.getLast?_cons, hlast]
        rfl

/-- A number is written with digits and at most a minus sign. -/
theorem isRun_number (n : Int) (rest : List Char) : IsRun rest (toString n).toList := by
  have hdigits : ∀ c ∈ (toString n).toList, c = '-' ∨ c.isDigit = true := by
    intro c hc
    rw [toList_toString_int] at hc
    split at hc
    · exact Or.inr (isDigit_of_mem_toDigits hc)
    · rcases List.mem_cons.1 hc with rfl | hc
      · exact Or.inl rfl
      · exact Or.inr (isDigit_of_mem_toDigits hc)
  have hslash : '/' ∉ (toString n).toList := fun h => absurd (hdigits '/' h) (by decide)
  refine isRun_of_solid (solid_toString_int n) (fun hquote => ?_) (fun hslashes => ?_)
    fun hlast => ?_
  · exact absurd (hdigits _ hquote) (by decide)
  · exact hslash (hslashes.mem (by simp))
  · exact absurd (List.mem_of_getLast? hlast) hslash

/-- A lexeme is read as one token, unless a comment begins with its last character. -/
theorem scanFrom_lexeme {l : Lexeme} (h : l.Writable) {rest : List Char} (hrest : EndsRun rest)
    (hjoin : l.text.getLast? = some '/' → rest.head? ≠ some '/') (line : Nat) :
    scanFrom .between line (l.text ++ rest) =
      (⟨l, line⟩ :: ·) <$> scanFrom .between (lineBehind line l.text) rest := by
  cases l with
  | number n =>
    have hread : integer64? (toString n) = some n := integer?_toString h.1 h.2
    have hne : (toString n).toList ≠ [] := by
      intro hnil
      have hempty : integer64? "" = none := by decide
      rw [String.toList_eq_nil_iff.1 hnil, hempty] at hread
      cases hread
    have hlexeme : Lexeme.ofWord (String.ofList (toString n).toList) = .number n := by
      rw [String.ofList_toList, Lexeme.ofWord, hread]
    rw [Lexeme.text, scanFrom_run hne (isRun_number n rest) hrest, hlexeme]
  | quoted s =>
    have hquoted := scanFrom_quoted h line [] line rest
    have hopen : scanFrom .between line (Lexeme.text (.quoted s) ++ rest) =
        scanFrom (.quoted line []) line (s.toList ++ '"' :: rest) := by
      simp [Lexeme.text, scanFrom_quote]
    rw [hopen, hquoted]
    simp [ofQuoted, Lexeme.text, lineAfter]
  | bare word =>
    obtain ⟨hne, hsolid, hquote, hcomment, hread⟩ := h
    have hlexeme : Lexeme.ofWord (String.ofList word.toList) = .bare word := by
      rw [String.ofList_toList, Lexeme.ofWord, hread]
    have hrun := isRun_of_solid hsolid hquote hcomment hjoin
    rw [Lexeme.text, scanFrom_run (by simpa using hne) hrun hrest, hlexeme]

/-- A text that holds nothing but filler has no tokens. -/
theorem scanFrom_filler_end {cs : List Char} (h : Filler cs) (line : Nat) :
    scanFrom .between line cs = .ok [] := by
  have hskip := scanFrom_filler h line []
  rw [List.append_nil] at hskip
  exact hskip

/-- A gap separates. -/
theorem Gap.separated (gap : Gap) (rest : List Char) : Separated (gap.text ++ rest) := by
  intro c later heq
  obtain ⟨rfl, -⟩ := List.cons.inj heq
  exact gap.isBlank_first

section Layouts

variable (layout : Layout) {tail : List Char} (htail : Filler tail)

include htail

/-- What is written from a lexeme on is scanned as the lexemes that it holds.  Any filler may stand
at the end of the text, as long as no comment stands directly behind a slash. -/
theorem scanFrom_lexemes {l : Lexeme} {ls : List Lexeme} (h : ∀ m ∈ l :: ls, m.Writable)
    (hjoin : layout.closing = none → ∀ m, (l :: ls).getLast? = some m →
      m.text.getLast? = some '/' → tail.head? ≠ some '/') (line n : Nat) :
    scanFrom .between line (l.text ++ (layout.follow n ls ++ tail)) =
      .ok (⟨l, line⟩ :: layout.tokensFrom (lineBehind line l.text) n ls) := by
  induction ls generalizing l line n with
  | nil =>
    have hfiller : Filler (layout.follow n [] ++ tail) ∧
        (l.text.getLast? = some '/' → (layout.follow n [] ++ tail).head? ≠ some '/') := by
      unfold Layout.follow
      cases hclosing : layout.closing with
      | none => exact ⟨htail, hjoin hclosing l rfl⟩
      | some gap =>
        exact ⟨gap.filler_text.append htail, fun _ => (Gap.separated gap tail).head?_ne⟩
    rw [scanFrom_lexeme (h l List.mem_cons_self) (endsRun_of_filler hfiller.1) hfiller.2,
      scanFrom_filler_end hfiller.1]
    rfl
  | cons m ls ih =>
    have hgap := Gap.separated (layout.gap n) (m.text ++ (layout.follow (n + 1) ls ++ tail))
    have hmore := ih (fun k hk => h k (List.mem_cons_of_mem l hk))
      (fun hclosing k hk => hjoin hclosing k (by simpa using hk))
      (lineBehind (lineBehind line l.text) (layout.gap n).text) (n + 1)
    rw [Layout.follow, List.append_assoc, List.append_assoc,
      scanFrom_lexeme (h l List.mem_cons_self) hgap.endsRun (fun _ => hgap.head?_ne),
      scanFrom_filler (layout.gap n).filler_text, hmore]
    rfl

/-- A text that lays out lexemes is scanned as these lexemes, each on the line where it stands, also
when any filler stands behind it that does not begin with a comment directly behind a slash. -/
theorem scan_write_append {ls : List Lexeme} (h : ∀ l ∈ ls, l.Writable)
    (hjoin : layout.closing = none → ∀ l, ls.getLast? = some l → l.text.getLast? = some '/' →
      tail.head? ≠ some '/') :
    scan (layout.write ls ++ String.ofList tail) = .ok (layout.tokens ls) := by
  cases ls with
  | nil =>
    have hfiller : Filler (layout.follow 0 [] ++ tail) := by
      unfold Layout.follow
      cases layout.closing with
      | none => exact htail
      | some gap => exact gap.filler_text.append htail
    rw [scan, Layout.write, String.toList_append, String.toList_ofList, String.toList_ofList,
      List.append_assoc]
    exact scanFrom_filler_end (layout.filler_opening.append hfiller) 1
  | cons l ls =>
    have hlexemes := scanFrom_lexemes layout htail h hjoin (lineBehind 1 layout.opening) 0
    rw [scan, Layout.write, String.toList_append, String.toList_ofList, String.toList_ofList,
      List.append_assoc, List.append_assoc, scanFrom_filler layout.filler_opening, hlexemes]
    rfl

end Layouts

/-- A text that lays out lexemes is scanned as these lexemes, each on the line where it stands. -/
theorem scan_write (layout : Layout) {ls : List Lexeme} (h : ∀ l ∈ ls, l.Writable) :
    scan (layout.write ls) = .ok (layout.tokens ls) := by
  have hscan := scan_write_append layout .nil h (by simp)
  rw [String.ofList_nil, String.append_empty] at hscan
  exact hscan

end Token

end TextAdventure
