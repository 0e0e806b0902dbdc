import TextAdventure.Proofs.LoadedWorld
import TextAdventure.Proofs.SectionRoundTrip

/-!
# What readers take and what they heed

A section of adventure data is read back from the lexemes that it is written with.  Here is the
converse for the sections at the front: whatever header and whatever rows are read, the lexemes that
they are written with have been taken off the tokens, and nothing else.  Which lexemes a reader
takes and what it makes of them does not depend on the lines that they stand on, so that two readers
that differ in what they carry along can be followed side by side, each on tokens of its own.

Main results:

- Definition `Reader.Consumes`, with rules for composed readers and for tables: the lexemes that a
  reader takes for a value.
- Theorems `Header.consumes_reader` and `Row.consumes_reader`: the sections at the front.
- Definition `Reader.Alike`, with the same rules: two readers that make related values of the same
  lexemes.
-/

namespace TextAdventure

namespace Reader

variable {α β : Type} {r r' : Reader α} {f f' : α → Reader β}

/-! ## The lexemes that a reader takes -/

/-- Whatever the reader reads, it takes lexemes off the front that are in the given relation to the
value, and leaves the rest. -/
def Consumes (r : Reader α) (Q : α → List Lexeme → Prop) : Prop :=
  ∀ tokens a rest, r tokens = .ok (a, rest) →
    ∃ taken, tokens = taken ++ rest ∧ Q a (taken.map Token.lexeme)

variable {P Q : α → List Lexeme → Prop} {S : β → List Lexeme → Prop}

theorem Consumes.mono (hr : r.Consumes P) (h : ∀ a xs, P a xs → Q a xs) : r.Consumes Q := by
  intro tokens a rest heq
  obtain ⟨taken, htokens, ha⟩ := hr tokens a rest heq
  exact ⟨taken, htokens, h a _ ha⟩

theorem consumes_pure {a : α} (h : Q a []) : (pure a : Reader α).Consumes Q := by
  intro tokens b rest heq
  cases heq
  exact ⟨[], rfl, h⟩

theorem consumes_fail (e : LoadError) : (fail e : Reader α).Consumes Q := by
  intro tokens a rest heq
  cases heq

theorem Consumes.bind (hr : r.Consumes P)
    (hf : ∀ a xs, P a xs → (f a).Consumes fun b ys => S b (xs ++ ys)) :
    (r >>= f).Consumes S := by
  intro tokens b rest heq
  obtain ⟨⟨a, middle⟩, hfirst, hsecond⟩ := exists_of_bind_eq_ok heq
  obtain ⟨first, rfl, ha⟩ := hr tokens a middle hfirst
  obtain ⟨second, rfl, hb⟩ := hf a _ ha middle b rest hsecond
  refine ⟨first ++ second, (List.append_assoc first second rest).symm, ?_⟩
  rw [List.map_append]
  exact hb

/-- A check takes no lexemes, and what is read behind it may rely on it. -/
theorem consumes_check {bad : Prop} [Decidable bad] {e : LoadError} {g : β → Reader α}
    (hr : ¬bad → r.Consumes Q) : (if bad then fail e >>= g else r).Consumes Q := by
  by_cases h : bad
  · rw [if_pos h]
    intro tokens a rest heq
    cases heq
  · rw [if_neg h]
    exact hr h

/-- A table takes the lexemes of its entries, and has as many entries as it should. -/
theorem consumes_table {entry : Nat → Reader α} {lexemes : α → List Lexeme}
    (hentry : ∀ n, (entry n).Consumes fun a xs => xs = lexemes a) (start size : Nat) :
    (table entry start size).Consumes fun as xs =>
      xs = as.flatMap lexemes ∧ as.length = size := by
  induction size generalizing start with
  | zero => exact consumes_pure ⟨rfl, rfl⟩
  | succ n ih =>
    refine (hentry start).bind ?_
    rintro a _ rfl
    refine (ih (start + 1)).bind ?_
    rintro as _ ⟨rfl, hlength⟩
    exact consumes_pure ⟨by simp, by simp [hlength]⟩

/-! ### Single tokens -/

theorem consumes_token (place : LoadError.Section) :
    (token place).Consumes fun t xs => xs = [t.lexeme] := by
  intro tokens t rest heq
  cases tokens with
  | nil => cases heq
  | cons first later =>
    cases heq
    exact ⟨[t], rfl, rfl⟩

theorem consumes_number (place : LoadError.Section) :
    (number place).Consumes fun n xs => xs = [.number n] := by
  refine (consumes_token place).bind ?_
  rintro t _ rfl
  cases t.lexeme with
  | number n => exact consumes_pure rfl
  | quoted s => exact consumes_fail _
  | bare w => exact consumes_fail _

/-- A number that is checked passes its check. -/
theorem consumes_natural (place : LoadError.Section) (field : LoadError.Field) (ok : Nat → Bool) :
    (natural place field ok).Consumes fun n xs => xs = [.number n] ∧ ok n = true := by
  refine (consumes_number place).bind ?_
  rintro value _ rfl
  cases value with
  | ofNat n =>
    by_cases hok : ok n = true
    · simp only [hok, if_true]
      exact consumes_pure ⟨rfl, hok⟩
    · simp only [hok, Bool.false_eq_true, if_false]
      exact consumes_fail _
  | negSucc n => exact consumes_fail _

end Reader

/-- A header is read off its counts, and it passes its checks.  The numbers of the trailer are not
yet known. -/
theorem Header.consumes_reader : reader.Consumes fun h xs =>
    xs = Lexeme.ofNumbers h.numbers ∧ h.lastRoom ≤ roomLimit ∧ h.startRoom ≤ h.lastRoom ∧
      h.lightTime < 0x80000000 ∧ { h with version := 0, adventure := 0 } = h := by
  have hcount : (Reader.count .header .header).Consumes fun n xs => xs = [.number n] :=
    (Reader.consumes_natural _ _ _).mono fun n xs h => h.1
  iterate 12
    refine hcount.bind ?_
    rintro _ _ rfl
  refine Reader.consumes_check fun hrooms => Reader.consumes_check fun hstart =>
    Reader.consumes_check fun hlight => Reader.consumes_pure ?_
  exact ⟨rfl, Nat.le_of_not_lt hrooms, Nat.le_of_not_lt hstart, Nat.lt_of_not_le hlight, rfl⟩

/-- A row is read off its numbers. -/
theorem Row.consumes_reader (number : Nat) :
    (reader number).Consumes fun row xs => xs = Lexeme.ofNumbers row.numbers := by
  have hfield : (field number).Consumes fun value xs => xs = [.number value.toNat] := by
    refine (Reader.consumes_natural _ _ _).bind ?_
    rintro n _ ⟨rfl, hlt⟩
    refine Reader.consumes_pure ?_
    rw [UInt32.toNat_ofNat_of_lt' (of_decide_eq_true hlt)]
    rfl
  iterate 8
    refine hfield.bind ?_
    rintro _ _ rfl
  exact Reader.consumes_pure rfl

namespace Reader

variable {α β : Type} {r r' : Reader α} {f f' : α → Reader β}
  {R : α → α → Prop} {S : β → β → Prop}

/-! ## Readers side by side -/

/-- Off tokens that stand for the same lexemes, on whatever lines, what the first reader reads is
read by the second one as a related value, and both leave the same lexemes. -/
def Alike (r r' : Reader α) (R : α → α → Prop) : Prop :=
  ∀ tokens tokens', tokens'.map Token.lexeme = tokens.map Token.lexeme →
    ∀ a rest, r tokens = .ok (a, rest) → ∃ a' rest', r' tokens' = .ok (a', rest') ∧ R a a' ∧
      rest'.map Token.lexeme = rest.map Token.lexeme

theorem alike_pure {a a' : α} (h : R a a') : (pure a : Reader α).Alike (pure a') R := by
  intro tokens tokens' hsame b rest heq
  cases heq
  exact ⟨a', tokens', rfl, h, hsame⟩

theorem alike_fail (e : LoadError) : (fail e : Reader α).Alike r R := by
  intro tokens tokens' hsame a rest heq
  cases heq

theorem Alike.bind (hr : r.Alike r' R) (hf : ∀ a a', R a a' → (f a).Alike (f' a') S) :
    (r >>= f).Alike (r' >>= f') S := by
  intro tokens tokens' hsame b rest heq
  obtain ⟨⟨a, middle⟩, hfirst, hsecond⟩ := exists_of_bind_eq_ok heq
  obtain ⟨a', middle', hfirst', ha, hmiddle⟩ := hr tokens tokens' hsame a middle hfirst
  obtain ⟨b', rest', hsecond', hb, hrest⟩ := hf a a' ha middle middle' hmiddle b rest hsecond
  refine ⟨b', rest', ?_, hb, hrest⟩
  show (r' tokens' >>= fun p => f' p.1 p.2) = _
  rw [hfirst']
  exact hsecond'

/-- A reader that makes the same value of the same lexemes. -/
def HeedsLexemes (r : Reader α) : Prop :=
  r.Alike r Eq

/-- Behind a reader that makes the same value of the same lexemes. -/
theorem HeedsLexemes.bind (hr : r.HeedsLexemes) (hf : ∀ a, (f a).Alike (f' a) S) :
    (r >>= f).Alike (r >>= f') S :=
  Alike.bind hr fun a a' heq => by
    subst heq
    exact hf a

/-- A check that both readers make. -/
theorem alike_check {bad : Prop} [Decidable bad] {e e' : LoadError} {g g' : β → Reader α}
    (hr : r.Alike r' R) :
    (if bad then fail e >>= g else r).Alike (if bad then fail e' >>= g' else r') R := by
  by_cases h : bad
  · rw [if_pos h]
    intro tokens tokens' hsame a rest heq
    cases heq
  · rw [if_neg h, if_neg h]
    exact hr

theorem heedsLexemes_table {entry : Nat → Reader α} (hentry : ∀ n, (entry n).HeedsLexemes)
    (start size : Nat) : (table entry start size).HeedsLexemes := by
  induction size generalizing start with
  | zero => exact alike_pure rfl
  | succ n ih =>
    exact (hentry start).bind fun a => (ih (start + 1)).bind fun as => alike_pure rfl

/-! ### Single tokens -/

theorem alike_token (place : LoadError.Section) :
    (token place).Alike (token place) fun t t' => t'.lexeme = t.lexeme := by
  intro tokens tokens' hsame t rest heq
  cases tokens with
  | nil => cases heq
  | cons first later =>
    cases heq
    obtain ⟨t', later', rfl, ht, hlater⟩ := List.map_eq_cons_iff.1 hsame
    exact ⟨t', later', rfl, ht, hlater⟩

theorem heedsLexemes_number (place : LoadError.Section) : (number place).HeedsLexemes := by
  refine (alike_token place).bind fun t t' ht => ?_
  rw [ht]
  cases t.lexeme with
  | number n => exact alike_pure rfl
  | quoted s => exact alike_fail _
  | bare w => exact alike_fail _

theorem heedsLexemes_quoted (place : LoadError.Section) : (quoted place).HeedsLexemes := by
  refine (alike_token place).bind fun t t' ht => ?_
  rw [ht]
  cases t.lexeme with
  | number n => exact alike_fail _
  | quoted s => exact alike_pure rfl
  | bare w => exact alike_fail _

theorem heedsLexemes_natural (place : LoadError.Section) (field : LoadError.Field)
    (ok : Nat → Bool) : (natural place field ok).HeedsLexemes := by
  refine (heedsLexemes_number place).bind fun value => ?_
  cases value with
  | ofNat n =>
    dsimp only
    split_ifs
    · exact alike_pure rfl
    · exact alike_fail _
  | negSucc n => exact alike_fail _

/-! ### Runs of strings -/

/-- A run of strings does not depend on the lines that they stand on. -/
theorem quotedUpTo_congr (limit : Nat) {tokens tokens' : List Token}
    (h : tokens'.map Token.lexeme = tokens.map Token.lexeme) :
    (quotedUpTo limit tokens').1 = (quotedUpTo limit tokens).1 ∧
      (quotedUpTo limit tokens').2.map Token.lexeme =
        (quotedUpTo limit tokens).2.map Token.lexeme := by
  induction limit generalizing tokens tokens' with
  | zero => exact ⟨rfl, h⟩
  | succ n ih =>
    cases tokens with
    | nil =>
      obtain rfl := List.map_eq_nil_iff.1 h
      exact ⟨rfl, rfl⟩
    | cons t rest =>
      obtain ⟨lexeme, line⟩ := t
      obtain ⟨⟨lexeme', line'⟩, rest', rfl, hlexeme, hrest⟩ := List.map_eq_cons_iff.1 h
      obtain rfl : lexeme' = lexeme := hlexeme
      cases lexeme' with
      | quoted s =>
        obtain ⟨htexts, hbehind⟩ := ih hrest
        simp only [quotedUpTo]
        exact ⟨congrArg (s :: ·) htexts, hbehind⟩
      | number m => exact ⟨rfl, h⟩
      | bare w => exact ⟨rfl, h⟩

theorem heedsLexemes_titlesReader (lastRow : Nat) :
    (World.titlesReader lastRow).HeedsLexemes := by
  intro tokens tokens' hsame titles rest heq
  obtain ⟨htexts, hrest⟩ := quotedUpTo_congr (lastRow + 1) hsame
  cases heq
  exact ⟨_, _, rfl, by rw [htexts], hrest⟩

end Reader

end TextAdventure
