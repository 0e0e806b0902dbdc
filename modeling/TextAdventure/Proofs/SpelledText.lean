import TextAdventure.Proofs.LaidOutText
import TextAdventure.Proofs.LoadedWorld

/-!
# What a text spells

Every text is put together from blanks, comments, quoted strings and runs of characters.  At its end
a comment may break off, and a quote may be left open.  The scan of a text gives what these pieces
make up, to the last character.

A simpler scan of the text only knows whether it stands outside, in a comment or in quotes.  A text
is refused just when this scan ends in quotes, and the strings of a text are what this scan finds in
quotes.

Main results:

- Inductives `Token.Piece` and `Token.Spells`: a text in pieces, and what they make up.
- Theorem `Token.spells_iff`: the scan gives what a text spells.
- Inductive `Token.Area` with `Area.behind` and `Area.quotes`: the simpler scan.
- Theorem `Token.scan_outcome`: when a text is refused, and the tokens if it is not.
-/

namespace TextAdventure

open Text

namespace Token

/-! ## The pieces of a text -/

/-- A piece that begins on a line, stands in front of the given characters, and makes up the given
tokens.  A comment ends with a line break or a carriage return, and a run where no character can
belong to it any more. -/
inductive Piece (line : Nat) (rest : List Char) : List Char → List Token → Prop
  | blank {c : Char} (hc : isBlank c = true) : Piece line rest [c] []
  | comment {body : List Char} {c : Char} (hbody : ∀ d ∈ body, d ≠ '\n' ∧ d ≠ '\r')
      (hc : c = '\n' ∨ c = '\r') : Piece line rest ('/' :: '/' :: (body ++ [c])) []
  | quoted {text : List Char} (htext : '"' ∉ text) :
      Piece line rest ('"' :: (text ++ ['"'])) [⟨.quoted (String.ofList text), line⟩]
  | run {word : List Char} (hne : word ≠ []) (hword : IsRun rest word) (hrest : EndsRun rest) :
      Piece line rest word [⟨.ofWord (String.ofList word), line⟩]

/-- What the text from a line on spells.  At its end a comment may break off, and a quote may be
left open. -/
inductive Spells : Nat → List Char → Except ScanError (List Token) → Prop
  | done {line : Nat} : Spells line [] (.ok [])
  | piece {line : Nat} {cs rest : List Char} {tokens : List Token}
      {result : Except ScanError (List Token)} (hcs : Piece line rest cs tokens)
      (hrest : Spells (lineBehind line cs) rest result) :
      Spells line (cs ++ rest) ((tokens ++ ·) <$> result)
  | lastComment {line : Nat} {body : List Char} (hbody : ∀ d ∈ body, d ≠ '\n' ∧ d ≠ '\r') :
      Spells line ('/' :: '/' :: body) (.ok [])
  | unclosed {line : Nat} {body : List Char} (hbody : '"' ∉ body) :
      Spells line ('"' :: body) (.error (.unclosedQuote line))

theorem Piece.ne_nil {line : Nat} {rest cs : List Char} {tokens : List Token}
    (h : Piece line rest cs tokens) : cs ≠ [] := by
  cases h with
  | blank | comment | quoted => simp
  | run hne => exact hne

/-! ## The scan gives what a text spells -/

/-- The rest of a text may belong to a comment. -/
theorem scanFrom_comment_end {body : List Char} (h : ∀ d ∈ body, d ≠ '\n' ∧ d ≠ '\r')
    (line : Nat) : scanFrom .between line ('/' :: '/' :: body) = .ok [] := by
  have hskip := scanFrom_comment h line []
  rw [List.append_nil] at hskip
  rw [scanFrom_slashes, hskip, scanFrom]

/-- A quote that is never closed takes up the rest of the text. -/
theorem scanFrom_unclosed {cs : List Char} (h : '"' ∉ cs) (start : Nat) (text : List Char)
    (line : Nat) : scanFrom (.quoted start text) line cs = .error (.unclosedQuote start) := by
  induction cs generalizing text line with
  | nil => rfl
  | cons c cs ih =>
    obtain ⟨hc, hcs⟩ := not_or.1 (mt List.mem_cons.2 h)
    rw [scanFrom, if_neg (Ne.symm hc)]
    exact ih hcs _ _

theorem Piece.scanFrom_append {line : Nat} {rest cs : List Char} {tokens : List Token}
    (h : Piece line rest cs tokens) :
    scanFrom .between line (cs ++ rest) =
      (tokens ++ ·) <$> scanFrom .between (lineBehind line cs) rest := by
  cases h with
  | blank hc =>
    rw [List.singleton_append, scanFrom_blank hc]
    simp
  | comment hbody hc =>
    have hlines := lineBehind_of_no_break fun d hd => (hbody d hd).1
    rw [List.cons_append, List.cons_append, List.append_assoc, List.singleton_append,
      scanFrom_comment_append hbody hc]
    simp [lineAfter, hlines]
  | quoted htext =>
    rw [List.cons_append, List.append_assoc, List.singleton_append, scanFrom_quote,
      scanFrom_quoted htext]
    simp [ofQuoted, lineAfter]
  | run hne hword hrest =>
    rw [scanFrom_run hne hword hrest]
    rfl

/-- The scan gives what a text spells. -/
theorem Spells.scanFrom_eq {line : Nat} {cs : List Char} {result : Except ScanError (List Token)}
    (h : Spells line cs result) : scanFrom .between line cs = result := by
  induction h with
  | done => rfl
  | piece hcs _ ih => rw [hcs.scanFrom_append, ih]
  | lastComment hbody => exact scanFrom_comment_end hbody _
  | unclosed hbody => rw [scanFrom_quote, scanFrom_unclosed hbody]

/-! ## Every text spells something -/

/-- A comment extends to a line break or a carriage return, or to the end of the text. -/
theorem exists_comment (cs : List Char) :
    (∀ d ∈ cs, d ≠ '\n' ∧ d ≠ '\r') ∨ ∃ body c rest, cs = body ++ c :: rest ∧
      (∀ d ∈ body, d ≠ '\n' ∧ d ≠ '\r') ∧ (c = '\n' ∨ c = '\r') := by
  induction cs with
  | nil => exact Or.inl (by simp)
  | cons c cs ih =>
    by_cases hc : c = '\n' ∨ c = '\r'
    · exact Or.inr ⟨[], c, cs, rfl, by simp, hc⟩
    · rw [not_or] at hc
      obtain hall | ⟨body, d, rest, rfl, hbody, hd⟩ := ih
      · exact Or.inl (List.forall_mem_cons.2 ⟨hc, hall⟩)
      · exact Or.inr ⟨c :: body, d, rest, rfl, List.forall_mem_cons.2 ⟨hc, hbody⟩, hd⟩

/-- A run extends to the first character that cannot belong to it. -/
theorem exists_run (cs : List Char) :
    ∃ word rest, cs = word ++ rest ∧ IsRun rest word ∧ EndsRun rest := by
  induction cs with
  | nil => exact ⟨[], [], rfl, trivial, by simp [EndsRun]⟩
  | cons c cs ih =>
    cases hc : endsWord c cs with
    | true =>
      refine ⟨[], c :: cs, rfl, trivial, ?_⟩
      rintro d later heq
      obtain ⟨rfl, rfl⟩ := List.cons.inj heq
      exact hc
    | false =>
      obtain ⟨word, rest, rfl, hword, hrest⟩ := ih
      exact ⟨c :: word, rest, rfl, ⟨hc, hword⟩, hrest⟩

/-- A text begins with a piece, unless it is a comment or an open quote to its end.  A run is not
empty, since its first character is no blank and opens neither a quoted string nor a comment. -/
theorem exists_piece (line : Nat) (c : Char) (cs : List Char) :
    (∃ piece rest tokens, c :: cs = piece ++ rest ∧ Piece line rest piece tokens) ∨
      (∃ body, c :: cs = '/' :: '/' :: body ∧ ∀ d ∈ body, d ≠ '\n' ∧ d ≠ '\r') ∨
        ∃ body, c :: cs = '"' :: body ∧ '"' ∉ body := by
  by_cases hends : endsWord c cs = true
  · simp only [endsWord, Bool.or_eq_true, beq_iff_eq] at hends
    obtain (hblank | rfl) | hopens := hends
    · exact Or.inl ⟨[c], cs, [], rfl, .blank hblank⟩
    · by_cases hclosed : '"' ∈ cs
      · obtain ⟨text, rest, rfl, htext⟩ := List.eq_append_cons_of_mem hclosed
        exact Or.inl ⟨_, rest, _, by simp, .quoted htext⟩
      · exact Or.inr (Or.inr ⟨cs, rfl, hclosed⟩)
    · simp only [opensComment, Bool.and_eq_true, beq_iff_eq] at hopens
      obtain ⟨rfl, hhead⟩ := hopens
      obtain ⟨cs, rfl⟩ := List.head?_eq_some_iff.1 hhead
      obtain hbody | ⟨body, d, rest, rfl, hbody, hd⟩ := exists_comment cs
      · exact Or.inr (Or.inl ⟨cs, rfl, hbody⟩)
      · exact Or.inl ⟨_, rest, _, by simp, .comment hbody hd⟩
  · obtain ⟨word, rest, rfl, hword, hrest⟩ := exists_run cs
    have hfirst : IsRun rest (c :: word) := ⟨by simpa using hends, hword⟩
    exact Or.inl ⟨c :: word, rest, _, rfl, .run (List.cons_ne_nil c word) hfirst hrest⟩

/-- By induction on the length of the text: no piece is empty. -/
theorem exists_spells (line : Nat) (cs : List Char) : ∃ result, Spells line cs result := by
  induction hlength : cs.length using Nat.strong_induction_on generalizing line cs with
  | _ length ih =>
    cases cs with
    | nil => exact ⟨_, .done⟩
    | cons c cs =>
      obtain ⟨piece, rest, tokens, heq, hpiece⟩ | ⟨body, heq, hbody⟩ | ⟨body, heq, hbody⟩ :=
        exists_piece line c cs
      · have hshorter : rest.length < length := by
          have hpos := List.length_pos_iff.2 hpiece.ne_nil
          rw [← hlength, heq, List.length_append]
          omega
        obtain ⟨result, hresult⟩ := ih rest.length hshorter (lineBehind line piece) rest rfl
        rw [heq]
        exact ⟨_, .piece hpiece hresult⟩
      · rw [heq]
        exact ⟨_, .lastComment hbody⟩
      · rw [heq]
        exact ⟨_, .unclosed hbody⟩

/-- What a text spells is what the scan gives. -/
theorem spells_iff {line : Nat} {cs : List Char} {result : Except ScanError (List Token)} :
    Spells line cs result ↔ scanFrom .between line cs = result := by
  refine ⟨Spells.scanFrom_eq, ?_⟩
  rintro rfl
  obtain ⟨result, hresult⟩ := exists_spells line cs
  rwa [hresult.scanFrom_eq]

/-- What holds of the end of a text and is kept by every piece in front holds of each text that is
not refused, and of its tokens. -/
theorem Spells.tokens_induction {line : Nat} {cs : List Char} {tokens : List Token}
    (h : Spells line cs (.ok tokens)) (P : List Char → List Token → Prop) (hdone : P [] [])
    (hpiece : ∀ line rest cs first later, Piece line rest cs first → P rest later →
      P (cs ++ rest) (first ++ later))
    (hcomment : ∀ body, (∀ d ∈ body, d ≠ '\n' ∧ d ≠ '\r') → P ('/' :: '/' :: body) []) :
    P cs tokens := by
  generalize hresult : Except.ok tokens = result at h
  induction h generalizing tokens with
  | done =>
    cases hresult
    exact hdone
  | piece hcs _ ih =>
    obtain ⟨later, hlater, rfl⟩ := exists_of_map_eq_ok hresult.symm
    exact hpiece _ _ _ _ later hcs (ih hlater.symm)
  | lastComment hbody =>
    cases hresult
    exact hcomment _ hbody
  | unclosed => cases hresult

/-! ## Bare words -/

/-- The word of a run is not empty, and no blank and no quote stands in it. -/
theorem Piece.bare {line : Nat} {rest cs : List Char} {tokens : List Token}
    (h : Piece line rest cs tokens) {t : Token} (ht : t ∈ tokens) {word : String}
    (hword : t.lexeme = .bare word) : word ≠ "" ∧ Solid word ∧ '"' ∉ word.toList := by
  cases h with
  | blank | comment => cases ht
  | quoted =>
    obtain rfl := List.mem_singleton.1 ht
    cases hword
  | run hne hrun =>
    obtain rfl := List.mem_singleton.1 ht
    obtain rfl : String.ofList cs = word := by
      unfold Lexeme.ofWord at hword
      split at hword
      · cases hword
      · exact Lexeme.bare.inj hword
    have hcharacters := not_blank_of_isRun hrun
    refine ⟨by simpa using hne, fun c hc => ?_, fun hc => ?_⟩
    · exact (hcharacters c (by simpa using hc)).1
    · exact (hcharacters '"' (by simpa using hc)).2 rfl

/-- The words of a text that is not refused. -/
theorem Spells.bare {line : Nat} {cs : List Char} {tokens : List Token}
    (h : Spells line cs (.ok tokens)) : ∀ t ∈ tokens, ∀ word, t.lexeme = .bare word →
      word ≠ "" ∧ Solid word ∧ '"' ∉ word.toList := by
  refine h.tokens_induction (fun _ tokens => ∀ t ∈ tokens, ∀ word, t.lexeme = .bare word →
    word ≠ "" ∧ Solid word ∧ '"' ∉ word.toList) (by simp) ?_ (by simp)
  intro line rest cs first later hcs hlater t ht word hword
  obtain hfirst | hmore := List.mem_append.1 ht
  · exact hcs.bare hfirst hword
  · exact hlater t hmore word hword

/-! ## The scan with three modes -/

/-- Where a character of a text can stand. -/
inductive Area where
  | outside
  | comment
  | quoted
deriving Repr, DecidableEq

namespace Area

/-- Where the text goes on behind a character that is followed by the given ones. -/
def next : Area → Char → List Char → Area
  | outside, c, rest => if opensComment c rest then comment else if c = '"' then quoted else outside
  | comment, c, _ => if c = '\n' ∨ c = '\r' then outside else comment
  | quoted, c, _ => if c = '"' then outside else quoted

/-- Where the text goes on behind some characters that are followed by the given ones. -/
def behind : Area → List Char → List Char → Area
  | area, [], _ => area
  | area, c :: cs, rest => (area.next c (cs ++ rest)).behind cs rest

/-- The texts between the paired quotes.  What stands behind an open quote is kept last first. -/
def quotes : Area → List Char → List Char → List String
  | _, _, [] => []
  | outside, _, c :: rest => quotes (next outside c rest) [] rest
  | comment, _, c :: rest => quotes (next comment c rest) [] rest
  | quoted, text, c :: rest =>
    if c = '"' then String.ofList text.reverse :: quotes outside [] rest
    else quotes quoted (c :: text) rest

@[simp]
theorem behind_nil (area : Area) (rest : List Char) : area.behind [] rest = area := rfl

@[simp]
theorem behind_cons (area : Area) (c : Char) (cs rest : List Char) :
    area.behind (c :: cs) rest = (area.next c (cs ++ rest)).behind cs rest := rfl

theorem behind_append (area : Area) (cs ds rest : List Char) :
    area.behind (cs ++ ds) rest = (area.behind cs (ds ++ rest)).behind ds rest := by
  induction cs generalizing area with
  | nil => rfl
  | cons c cs ih => rw [List.cons_append, behind_cons, behind_cons, ih, List.append_assoc]

/-- The characters do not lead out of the area when the given ones follow. -/
def Keeps (area : Area) (rest : List Char) : List Char → Prop
  | [] => True
  | c :: cs => area.next c (cs ++ rest) = area ∧ Keeps area rest cs

theorem Keeps.behind_eq {area : Area} {rest cs : List Char} (h : area.Keeps rest cs) :
    area.behind cs rest = area := by
  induction cs with
  | nil => rfl
  | cons c cs ih => rw [behind_cons, h.1, ih h.2]

/-- No strings begin in a comment or among characters that stay outside. -/
theorem Keeps.quotes_eq {area : Area} {rest cs : List Char} (h : area.Keeps rest cs)
    (hquoted : area ≠ quoted) : area.quotes [] (cs ++ rest) = area.quotes [] rest := by
  induction cs with
  | nil => rfl
  | cons c cs ih =>
    have hstep : area.quotes [] (c :: (cs ++ rest)) =
        (area.next c (cs ++ rest)).quotes [] (cs ++ rest) := by
      cases area with
      | outside | comment => rfl
      | quoted => exact absurd rfl hquoted
    rw [List.cons_append, hstep, h.1, ih h.2]

theorem keeps_blank {c : Char} (h : isBlank c = true) (rest : List Char) :
    outside.Keeps rest [c] := by
  have hne : c ≠ '"' := by
    rintro rfl
    exact absurd h (by decide)
  exact ⟨by simp [next, opensComment_of_blank h, hne], trivial⟩

theorem keeps_run {word rest : List Char} (h : IsRun rest word) : outside.Keeps rest word := by
  induction word with
  | nil => trivial
  | cons c cs ih =>
    obtain ⟨hfirst, hmore⟩ := h
    simp only [endsWord, Bool.or_eq_false_iff, beq_eq_false_iff_ne] at hfirst
    exact ⟨by simp [next, hfirst.2, hfirst.1.2], ih hmore⟩

theorem keeps_comment {body : List Char} (h : ∀ d ∈ body, d ≠ '\n' ∧ d ≠ '\r')
    (rest : List Char) : comment.Keeps rest body := by
  induction body with
  | nil => trivial
  | cons d body ih =>
    obtain ⟨hd, hbody⟩ := List.forall_mem_cons.1 h
    exact ⟨by simp [next, hd.1, hd.2], ih hbody⟩

theorem keeps_quoted {text : List Char} (h : '"' ∉ text) (rest : List Char) :
    quoted.Keeps rest text := by
  induction text with
  | nil => trivial
  | cons c text ih =>
    obtain ⟨hc, htext⟩ := not_or.1 (mt List.mem_cons.2 h)
    exact ⟨by simp [next, Ne.symm hc], ih htext⟩

/-- Two slashes open a comment. -/
theorem quotes_slashes (cs : List Char) :
    outside.quotes [] ('/' :: '/' :: cs) = comment.quotes [] cs := by
  simp [quotes, next, opensComment]

/-- A quote opens a string. -/
theorem quotes_quote (cs : List Char) : outside.quotes [] ('"' :: cs) = quoted.quotes [] cs := by
  simp [quotes, next, opensComment]

/-- A string extends to the next quote. -/
theorem quotes_append {text : List Char} (h : '"' ∉ text) (pending rest : List Char) :
    quoted.quotes pending (text ++ '"' :: rest) =
      String.ofList (pending.reverse ++ text) :: outside.quotes [] rest := by
  induction text generalizing pending with
  | nil => simp [quotes]
  | cons c text ih =>
    obtain ⟨hc, htext⟩ := not_or.1 (mt List.mem_cons.2 h)
    rw [List.cons_append, quotes, if_neg (Ne.symm hc), ih htext]
    simp

/-- The text goes on outside behind every piece. -/
theorem behind_of_piece {line : Nat} {rest cs : List Char} {tokens : List Token}
    (h : Piece line rest cs tokens) : outside.behind cs rest = outside := by
  cases h with
  | blank hc => exact (keeps_blank hc rest).behind_eq
  | @comment body c hbody hc =>
    have hopen : outside.behind ('/' :: '/' :: (body ++ [c])) rest =
        comment.behind (body ++ [c]) rest := rfl
    rw [hopen, behind_append, (keeps_comment hbody _).behind_eq]
    simp [next, hc]
  | @quoted text htext =>
    have hopen : outside.behind ('"' :: (text ++ ['"'])) rest =
        quoted.behind (text ++ ['"']) rest := rfl
    rw [hopen, behind_append, (keeps_quoted htext _).behind_eq]
    rfl
  | run _ hword => exact (keeps_run hword).behind_eq

end Area

/-- The text of a quoted string. -/
def quotedText? (t : Token) : Option String :=
  match t.lexeme with
  | .quoted text => some text
  | _ => none

theorem quotedText?_ofWord (word : String) (line : Nat) :
    quotedText? ⟨.ofWord word, line⟩ = none := by
  unfold Lexeme.ofWord
  cases integer64? word with
  | none | some _ => rfl

/-- A piece makes up the string that stands in it, if any. -/
theorem Piece.quotes_append {line : Nat} {rest cs : List Char} {tokens : List Token}
    (h : Piece line rest cs tokens) :
    Area.outside.quotes [] (cs ++ rest) =
      tokens.filterMap quotedText? ++ Area.outside.quotes [] rest := by
  cases h with
  | blank hc => exact (Area.keeps_blank hc rest).quotes_eq (by decide)
  | @comment body c hbody hc =>
    rw [List.cons_append, List.cons_append, List.append_assoc, Area.quotes_slashes,
      (Area.keeps_comment hbody _).quotes_eq (by decide)]
    simp [Area.quotes, Area.next, hc]
  | @quoted text htext =>
    rw [List.cons_append, List.append_assoc, List.singleton_append, Area.quotes_quote,
      Area.quotes_append htext]
    simp [quotedText?]
  | run _ hword =>
    rw [(Area.keeps_run hword).quotes_eq (by decide)]
    simp [quotedText?_ofWord]

/-- The strings of a text are the texts between its paired quotes. -/
theorem Spells.quotes_eq {line : Nat} {cs : List Char} {tokens : List Token}
    (h : Spells line cs (.ok tokens)) :
    tokens.filterMap quotedText? = Area.outside.quotes [] cs := by
  refine h.tokens_induction (fun cs tokens => tokens.filterMap quotedText? =
    Area.outside.quotes [] cs) rfl ?_ ?_
  · intro line rest cs first later hcs hlater
    rw [hcs.quotes_append, List.filterMap_append, hlater]
  · intro body hbody
    have hkeeps := (Area.keeps_comment hbody []).quotes_eq (by decide)
    rw [List.append_nil] at hkeeps
    rw [Area.quotes_slashes, hkeeps]
    rfl

/-- A text that is not refused does not end in quotes. -/
theorem Spells.behind_ne_quoted {line : Nat} {cs : List Char} {tokens : List Token}
    (h : Spells line cs (.ok tokens)) : Area.outside.behind cs [] ≠ .quoted := by
  refine h.tokens_induction (fun cs _ => Area.outside.behind cs [] ≠ .quoted) (by simp) ?_ ?_
  · intro line rest cs first later hcs hlater
    rw [Area.behind_append, List.append_nil, Area.behind_of_piece hcs]
    exact hlater
  · intro body hbody
    have hopen : Area.outside.behind ('/' :: '/' :: body) [] = Area.comment.behind body [] := rfl
    rw [hopen, (Area.keeps_comment hbody []).behind_eq]
    decide

/-- A text is refused because of a quote that was opened outside and is not closed. -/
theorem Spells.unclosedQuote {line : Nat} {cs : List Char} {e : ScanError}
    (h : Spells line cs (.error e)) : ∃ before body, cs = before ++ '"' :: body ∧
      Area.outside.behind before ('"' :: body) = .outside ∧ '"' ∉ body ∧
        e = .unclosedQuote (lineBehind line before) := by
  generalize hresult : Except.error e = result at h
  induction h with
  | done | lastComment => cases hresult
  | @piece line cs rest tokens result hcs _ ih =>
    have herror : .error e = result := by
      cases result with
      | error e' => exact hresult
      | ok later => cases hresult
    obtain ⟨before, body, rfl, hbefore, hbody, rfl⟩ := ih herror
    refine ⟨cs ++ before, body, by simp, ?_, hbody, by simp⟩
    rw [Area.behind_append, Area.behind_of_piece hcs, hbefore]
  | @unclosed line body hbody =>
    cases hresult
    exact ⟨[], body, rfl, rfl, hbody, rfl⟩

/-- An open quote leads to the end of the text. -/
theorem Area.behind_eq_quoted {before body : List Char}
    (hbefore : outside.behind before ('"' :: body) = .outside) (hbody : '"' ∉ body) :
    outside.behind (before ++ '"' :: body) [] = .quoted := by
  rw [behind_append, List.append_nil, hbefore]
  exact (keeps_quoted hbody []).behind_eq

/-- The scan of any text gives what the text spells.  It fails just when the simple scan ends in
quotes, with the line of the quote that was opened last.  If it does not fail, every bare word is a
run of characters outside quotes, and the strings are the texts between the paired quotes. -/
theorem scan_outcome (text : String) :
    (∀ result, scan text = result ↔ Spells 1 text.toList result) ∧
      ((∃ e, scan text = .error e) ↔ Area.outside.behind text.toList [] = .quoted) ∧
      (∀ e, scan text = .error e → ∃ before body, text.toList = before ++ '"' :: body ∧
        Area.outside.behind before ('"' :: body) = .outside ∧ '"' ∉ body ∧
          e = .unclosedQuote (1 + before.count '\n')) ∧
      ∀ tokens, scan text = .ok tokens →
        (∀ t ∈ tokens, ∀ word, t.lexeme = .bare word →
          word ≠ "" ∧ Solid word ∧ '"' ∉ word.toList) ∧
        tokens.filterMap quotedText? = Area.outside.quotes [] text.toList := by
  have hspells : Spells 1 text.toList (scan text) := spells_iff.2 rfl
  refine ⟨fun result => spells_iff.symm, ⟨?_, fun harea => ?_⟩, ?_, ?_⟩
  · rintro ⟨e, he⟩
    rw [he] at hspells
    obtain ⟨before, body, heq, hbefore, hbody, -⟩ := hspells.unclosedQuote
    rw [heq]
    exact Area.behind_eq_quoted hbefore hbody
  · cases hresult : scan text with
    | error e => exact ⟨e, rfl⟩
    | ok tokens =>
      rw [hresult] at hspells
      exact absurd harea hspells.behind_ne_quoted
  · intro e he
    rw [he] at hspells
    obtain ⟨before, body, heq, hbefore, hbody, rfl⟩ := hspells.unclosedQuote
    rw [lineBehind_eq_add_count]
    exact ⟨before, body, heq, hbefore, hbody, rfl⟩
  · intro tokens htokens
    rw [htokens] at hspells
    exact ⟨hspells.bare, hspells.quotes_eq⟩

/-- A text of a comment, a number, a string of two lines and a bare word, once with and once without
a quote behind the word. -/
theorem scan_outcome_quote_behind_word :
    (scan "//\"\r7\"a\n//\"b/\"" = .error (.unclosedQuote 2) ∧
      Area.outside.behind "//\"\r7\"a\n//\"b/\"".toList [] = .quoted) ∧
    scan "//\"\r7\"a\n//\"b/" = .ok [⟨.number 7, 1⟩, ⟨.quoted "a\n//", 1⟩, ⟨.bare "b/", 2⟩] ∧
      ["a\n//"] = Area.outside.quotes [] "//\"\r7\"a\n//\"b/".toList := by
  have herror : scan "//\"\r7\"a\n//\"b/\"" = .error (.unclosedQuote 2) := by decide +kernel
  have hok : scan "//\"\r7\"a\n//\"b/" =
      .ok [⟨.number 7, 1⟩, ⟨.quoted "a\n//", 1⟩, ⟨.bare "b/", 2⟩] := by decide +kernel
  obtain ⟨-, hrefused, -, -⟩ := scan_outcome "//\"\r7\"a\n//\"b/\""
  obtain ⟨-, -, -, htokens⟩ := scan_outcome "//\"\r7\"a\n//\"b/"
  exact ⟨⟨herror, hrefused.1 ⟨_, herror⟩⟩, hok, (htokens _ hok).2⟩

end Token

end TextAdventure
