import TextAdventure.Proofs.WorldRoundTrip

/-!
# Data that is cut short or goes on

Adventure data says by itself where it ends: the reader takes as many tokens off the front as it
needs, and what comes behind them makes no difference.  If the data breaks off before that, then the
reader runs out of tokens.  No other error comes first, wherever the data breaks off.

The vocabulary and the titles are the two places where this is not plain, because a run of strings
is never refused and a part of it is a run of strings as well.  Behind each of the two, however, a
number is needed.  The run therefore ends where it did, as long as this number is still there, and
where it is not, the reader runs out.

Main results:

- Definitions `Reader.RunsOut` and `Reader.Exact`: readers that say by themselves where they end,
  with rules for composed readers, for tables and for runs of strings.
- Definition `Reader.EndsIn`: the last token that a reader takes.
- Theorem `World.checksum_lt_of_read`: the checksum fits in 64 bits.
- Theorem `World.ofTokens_cut_or_continued`: the tokens of a world, cut short or followed by others.
-/

namespace TextAdventure

namespace Reader

variable {α β : Type}

/-! ## Readers that run out of tokens -/

/-- A token is missing. -/
def RunsOut (r : Reader α) (tokens : List Token) : Prop :=
  ∃ place, r tokens = .error (.truncated place)

variable {r : Reader α} {f : α → Reader β}

/-- Where the first reader runs out, so do both together. -/
theorem RunsOut.bind {tokens : List Token} (h : r.RunsOut tokens) : (r >>= f).RunsOut tokens := by
  obtain ⟨place, heq⟩ := h
  refine ⟨place, ?_⟩
  show (r tokens >>= fun p => f p.1 p.2) = _
  rw [heq]
  rfl

/-- Two readers, one after the other. -/
theorem bind_eq_of_eq_ok {tokens rest : List Token} {a : α} (h : r tokens = .ok (a, rest)) :
    (r >>= f) tokens = f a rest := by
  show (r tokens >>= fun p => f p.1 p.2) = _
  rw [h]
  rfl

/-- Where the second reader runs out, so do both together. -/
theorem runsOut_bind_of_eq_ok {tokens rest : List Token} {a : α} (h : r tokens = .ok (a, rest))
    (hf : (f a).RunsOut rest) : (r >>= f).RunsOut tokens := by
  unfold RunsOut
  rw [bind_eq_of_eq_ok h]
  exact hf

/-! ## Readers that say where they end -/

/-- These tokens are what the reader needs to read the value: it takes them whatever comes behind
them, and it runs out on every part of them that breaks off. -/
structure Takes (r : Reader α) (taken : List Token) (a : α) : Prop where
  eq_ok : ∀ rest, r (taken ++ rest) = .ok (a, rest)
  runsOut : ∀ cut, cut <+: taken → cut ≠ taken → r.RunsOut cut

/-- Whatever the reader reads, it takes what it needs and leaves the rest. -/
def Exact (r : Reader α) : Prop :=
  ∀ tokens a rest, r tokens = .ok (a, rest) → ∃ taken, tokens = taken ++ rest ∧ r.Takes taken a

/-- What breaks off two runs of tokens breaks off the first, or has the first and breaks off the
second. -/
theorem cut_append_cases {xs ys cut : List Token} (h : cut <+: xs ++ ys)
    (hne : cut ≠ xs ++ ys) :
    (cut <+: xs ∧ cut ≠ xs) ∨ ∃ more, cut = xs ++ more ∧ more <+: ys ∧ more ≠ ys := by
  rcases List.prefix_or_prefix_of_prefix h (List.prefix_append xs ys) with hshort | hlong
  · by_cases heq : cut = xs
    · right
      refine ⟨[], by simp [heq], List.nil_prefix, ?_⟩
      rintro rfl
      exact hne (by simp [heq])
    · exact Or.inl ⟨hshort, heq⟩
  · obtain ⟨more, rfl⟩ := hlong
    right
    refine ⟨more, rfl, (List.prefix_append_right_inj xs).1 h, ?_⟩
    rintro rfl
    exact hne rfl

/-! ### Rules -/

theorem takes_nil {a : α} (h : ∀ rest, r rest = .ok (a, rest)) : r.Takes [] a where
  eq_ok := h
  runsOut _ hcut hne := absurd (List.prefix_nil.1 hcut) hne

theorem exact_pure (a : α) : (pure a : Reader α).Exact := by
  intro tokens b rest heq
  cases heq
  exact ⟨[], rfl, takes_nil fun _ => rfl⟩

theorem exact_fail (e : LoadError) : (fail e : Reader α).Exact := by
  intro tokens a rest heq
  cases heq

theorem Takes.bind {first second : List Token} {a : α} {b : β} (hr : r.Takes first a)
    (hf : (f a).Takes second b) : (r >>= f).Takes (first ++ second) b where
  eq_ok rest := by
    have hread := hr.eq_ok (second ++ rest)
    rw [List.append_assoc, bind_eq_of_eq_ok hread]
    exact hf.eq_ok rest
  runsOut cut hcut hne := by
    rcases cut_append_cases hcut hne with ⟨hfirst, hshort⟩ | ⟨more, rfl, hmore, hshort⟩
    · exact (hr.runsOut cut hfirst hshort).bind
    · exact runsOut_bind_of_eq_ok (hr.eq_ok more) (hf.runsOut more hmore hshort)

theorem Exact.bind (hr : r.Exact) (hf : ∀ a, (f a).Exact) : (r >>= f).Exact := by
  intro tokens b rest heq
  obtain ⟨⟨a, middle⟩, hfirst, hsecond⟩ := exists_of_bind_eq_ok heq
  obtain ⟨first, rfl, htakes⟩ := hr tokens a middle hfirst
  obtain ⟨second, rfl, hnext⟩ := hf a middle b rest hsecond
  exact ⟨first ++ second, (List.append_assoc first second rest).symm, htakes.bind hnext⟩

/-- A check takes no tokens. -/
theorem exact_check {bad : Prop} [Decidable bad] {e : LoadError} {g : β → Reader α}
    (hr : r.Exact) : (if bad then fail e >>= g else r).Exact := by
  by_cases h : bad
  · rw [if_pos h]
    intro tokens a rest heq
    cases heq
  · rw [if_neg h]
    exact hr

/-- Each entry of a table says where it ends, and so does the table. -/
theorem exact_table {entry : Nat → Reader α} (hentry : ∀ n, (entry n).Exact) (start size : Nat) :
    (table entry start size).Exact := by
  induction size generalizing start with
  | zero => exact exact_pure []
  | succ n ih =>
    exact (hentry start).bind fun a => (ih (start + 1)).bind fun as => exact_pure (a :: as)

/-! ### Single tokens -/

theorem exact_token (place : LoadError.Section) : (token place).Exact := by
  intro tokens t rest heq
  cases tokens with
  | nil => cases heq
  | cons first later =>
    cases heq
    refine ⟨[t], rfl, fun _ => rfl, fun cut hcut hne => ?_⟩
    -- Only the empty list breaks off a single token.
    rcases List.prefix_cons_iff.1 hcut with rfl | ⟨more, rfl, hmore⟩
    · exact ⟨place, rfl⟩
    · obtain rfl := List.prefix_nil.1 hmore
      exact absurd rfl hne

theorem exact_number (place : LoadError.Section) : (number place).Exact := by
  refine (exact_token place).bind fun t => ?_
  cases t.lexeme with
  | number n => exact exact_pure n
  | quoted s => exact exact_fail _
  | bare w => exact exact_fail _

theorem exact_quoted (place : LoadError.Section) : (quoted place).Exact := by
  refine (exact_token place).bind fun t => ?_
  cases t.lexeme with
  | number n => exact exact_fail _
  | quoted s => exact exact_pure s
  | bare w => exact exact_fail _

theorem exact_natural (place : LoadError.Section) (field : LoadError.Field) (ok : Nat → Bool) :
    (natural place field ok).Exact := by
  refine (exact_number place).bind fun value => ?_
  cases value with
  | ofNat n =>
    dsimp only
    split_ifs
    · exact exact_pure n
    · exact exact_fail _
  | negSucc n => exact exact_fail _

/-! ## Readers that need a number -/

/-- The tokens begin with a number. -/
def LeadsWithNumber (tokens : List Token) : Prop :=
  ∃ n line rest, tokens = ⟨.number n, line⟩ :: rest

/-- The reader runs out where no token is left, and it reads nothing unless a number comes first. -/
structure NeedsNumber (r : Reader α) : Prop where
  runsOut_nil : r.RunsOut []
  leads : ∀ tokens a rest, r tokens = .ok (a, rest) → LeadsWithNumber tokens

theorem NeedsNumber.bind (h : r.NeedsNumber) : (r >>= f).NeedsNumber where
  runsOut_nil := h.runsOut_nil.bind
  leads tokens _ _ heq := by
    obtain ⟨⟨a, middle⟩, hfirst, -⟩ := exists_of_bind_eq_ok heq
    exact h.leads tokens a middle hfirst

/-- The number that is read comes first. -/
theorem exists_of_number_eq_ok {place : LoadError.Section} {tokens rest : List Token} {n : Int}
    (h : number place tokens = .ok (n, rest)) : ∃ line, tokens = ⟨.number n, line⟩ :: rest := by
  obtain ⟨⟨t, middle⟩, htoken, hnumber⟩ := exists_of_bind_eq_ok h
  cases tokens with
  | nil => cases htoken
  | cons first later =>
    cases htoken
    obtain ⟨lexeme, line⟩ := t
    cases lexeme with
    | number m =>
      cases hnumber
      exact ⟨line, rfl⟩
    | quoted s => cases hnumber
    | bare w => cases hnumber

theorem needsNumber_number (place : LoadError.Section) : (number place).NeedsNumber where
  runsOut_nil := ⟨place, rfl⟩
  leads tokens n rest heq := by
    obtain ⟨line, rfl⟩ := exists_of_number_eq_ok heq
    exact ⟨n, line, rest, rfl⟩

theorem needsNumber_natural (place : LoadError.Section) (field : LoadError.Field)
    (ok : Nat → Bool) : (natural place field ok).NeedsNumber :=
  (needsNumber_number place).bind

/-! ## Runs of strings -/

/-- The reader takes a run of strings, and it is never refused.  It takes the same run when the
tokens behind the run lead with another number, and it takes all of a run that breaks off. -/
def TakesStrings (r : Reader α) : Prop :=
  ∀ tokens, ∃ taken a rest, tokens = taken ++ rest ∧ r tokens = .ok (a, rest) ∧
    (∀ more, LeadsWithNumber more → r (taken ++ more) = .ok (a, more)) ∧
    ∀ cut, cut <+: taken → ∃ b, r cut = .ok (b, [])

/-- A run of strings in front of a reader that needs a number. -/
theorem TakesStrings.bind (hr : r.TakesStrings) (hf : ∀ a, (f a).Exact)
    (hnumber : ∀ a, (f a).NeedsNumber) : (r >>= f).Exact := by
  intro tokens b rest heq
  obtain ⟨first, a, middle, rfl, hfirst, hmore, hcut⟩ := hr tokens
  rw [bind_eq_of_eq_ok hfirst] at heq
  obtain ⟨second, rfl, htakes⟩ := hf a middle b rest heq
  -- The number that the second reader needs is among the tokens that it takes.
  have hleads : ∀ cut, cut <+: second → cut ≠ [] → LeadsWithNumber cut := by
    intro cut hcut hne
    obtain ⟨n, line, later, hlater⟩ := (hnumber a).leads _ b rest heq
    obtain ⟨behind, rfl⟩ := hcut
    cases cut with
    | nil => contradiction
    | cons t cut =>
      obtain ⟨rfl, -⟩ := List.cons.inj hlater
      exact ⟨n, line, cut, rfl⟩
  have hne : second ≠ [] := by
    rintro rfl
    have hnothing : f a [] = .ok (b, []) := htakes.eq_ok []
    obtain ⟨place, hplace⟩ := (hnumber a).runsOut_nil
    rw [hnothing] at hplace
    cases hplace
  refine ⟨first ++ second, (List.append_assoc first second rest).symm, ?_, ?_⟩
  · intro others
    have hread : r (first ++ (second ++ others)) = .ok (a, second ++ others) := by
      refine hmore _ ?_
      obtain ⟨n, line, later, rfl⟩ := hleads second List.prefix_rfl hne
      exact ⟨n, line, later ++ others, rfl⟩
    rw [List.append_assoc, bind_eq_of_eq_ok hread]
    exact htakes.eq_ok others
  · intro cut hprefix hdiffers
    -- Without the number, all that is left are strings, and the second reader runs out at once.
    have hstrings : cut <+: first → (r >>= f).RunsOut cut := by
      intro hshort
      obtain ⟨c, hc⟩ := hcut cut hshort
      exact runsOut_bind_of_eq_ok hc (hnumber c).runsOut_nil
    rcases cut_append_cases hprefix hdiffers with ⟨hshort, -⟩ | ⟨more, rfl, hlonger, hshort⟩
    · exact hstrings hshort
    · by_cases hnil : more = []
      · exact hstrings (by simp [hnil])
      · have hread := hmore more (hleads more hlonger hnil)
        exact runsOut_bind_of_eq_ok hread (htakes.runsOut more hlonger hshort)

/-- The strings that are taken stand in front of what is left. -/
theorem exists_of_quotedUpTo (limit : Nat) (tokens : List Token) :
    ∃ taken, tokens = taken ++ (quotedUpTo limit tokens).2 ∧
      taken.map Token.lexeme = (quotedUpTo limit tokens).1.map .quoted := by
  fun_induction quotedUpTo limit tokens with
  | case1 n s line rest texts rest' heq ih =>
    rw [heq] at ih
    obtain ⟨taken, hrest, htaken⟩ := ih
    exact ⟨⟨.quoted s, line⟩ :: taken, by simp [hrest], by simp [htaken]⟩
  | case2 => exact ⟨[], rfl, rfl⟩

/-- A reader that takes strings up to a limit, where the limit leaves room for as many strings as
there are tokens, or for as many as it leaves elsewhere. -/
theorem takesStrings_of_quotedUpTo (limit : List Token → Nat) (g : List String → α)
    (hr : ∀ tokens, r tokens = .ok (g (quotedUpTo (limit tokens) tokens).1,
      (quotedUpTo (limit tokens) tokens).2))
    (hlimit : ∀ xs ys size, size ≤ limit xs → size ≤ ys.length → size ≤ limit ys) :
    r.TakesStrings := by
  intro tokens
  obtain ⟨taken, htokens, htaken⟩ := exists_of_quotedUpTo (limit tokens) tokens
  have hwithin := length_quotedUpTo_le (limit tokens) tokens
  refine ⟨taken, _, _, htokens, hr tokens, ?_, ?_⟩
  all_goals
    generalize (quotedUpTo (limit tokens) tokens).1 = texts at htaken hwithin ⊢
    have hlength : texts.length = taken.length := by
      simpa using (congrArg List.length htaken).symm
  · intro more hmore
    have hroom : texts.length ≤ limit (taken ++ more) :=
      hlimit tokens (taken ++ more) _ hwithin (by simp [hlength])
    have hother : ∀ s line later, more ≠ ⟨.quoted s, line⟩ :: later := by
      obtain ⟨n, line, later, rfl⟩ := hmore
      simp
    rw [hr, quotedUpTo_append htaken hroom (Or.inr hother)]
  · rintro cut ⟨behind, rfl⟩
    rw [List.map_append] at htaken
    obtain ⟨first, second, rfl, hfirst, -⟩ := List.append_eq_map_iff.1 htaken
    have hcut : first.length = cut.length := by simpa using congrArg List.length hfirst
    have hroom : first.length ≤ limit cut := by
      refine hlimit tokens cut _ ?_ (Nat.le_of_eq hcut)
      rw [List.length_append] at hwithin
      omega
    have hrun : quotedUpTo (limit cut) (cut ++ []) = (first, []) :=
      quotedUpTo_append hfirst.symm hroom (Or.inr (by simp))
    rw [List.append_nil] at hrun
    rw [hr, hrun]
    exact ⟨g first, rfl⟩

theorem takesStrings_quotedRun : quotedRun.TakesStrings :=
  takesStrings_of_quotedUpTo List.length id (fun _ => rfl) fun _ _ _ _ hlength => hlength

theorem takesStrings_titlesReader (lastRow : Nat) : (World.titlesReader lastRow).TakesStrings :=
  takesStrings_of_quotedUpTo (fun _ => lastRow + 1)
    (fun titles => titles ++ List.replicate (lastRow + 1 - titles.length) "") (fun _ => rfl)
    fun _ _ _ hlimit _ => hlimit

/-! ## The last token -/

/-- The last token that the reader takes is of a kind that the value determines. -/
def EndsIn (r : Reader α) (last : α → Lexeme) : Prop :=
  ∀ tokens a rest, r tokens = .ok (a, rest) → ∃ taken line, tokens = taken ++ ⟨last a, line⟩ :: rest

/-- What is left behind a reader is the end of the tokens. -/
def Shortens (r : Reader α) : Prop :=
  ∀ tokens a rest, r tokens = .ok (a, rest) → rest <:+ tokens

theorem Exact.shortens (h : r.Exact) : r.Shortens := by
  intro tokens a rest heq
  obtain ⟨taken, rfl, -⟩ := h tokens a rest heq
  exact List.suffix_append taken rest

theorem TakesStrings.shortens (h : r.TakesStrings) : r.Shortens := by
  intro tokens a rest heq
  obtain ⟨taken, b, later, rfl, hread, -⟩ := h tokens
  rw [hread] at heq
  cases heq
  exact List.suffix_append taken rest

/-- The last of two readers takes the last token. -/
theorem Shortens.endsIn_bind {last : β → Lexeme} (hr : r.Shortens)
    (hf : ∀ a, (f a).EndsIn last) : (r >>= f).EndsIn last := by
  intro tokens b rest heq
  obtain ⟨⟨a, middle⟩, hfirst, hsecond⟩ := exists_of_bind_eq_ok heq
  obtain ⟨first, rfl⟩ := hr tokens a middle hfirst
  obtain ⟨second, line, rfl⟩ := hf a middle b rest hsecond
  exact ⟨first ++ second, line, (List.append_assoc first second _).symm⟩

end Reader

/-! ## Sections -/

theorem Header.exact_reader : Header.reader.Exact := by
  have hcount := Reader.exact_natural .header .header fun _ => true
  iterate 12 refine hcount.bind fun _ => ?_
  exact Reader.exact_check <| Reader.exact_check <| Reader.exact_check <| Reader.exact_pure _

theorem Row.exact_reader (number : Nat) : (Row.reader number).Exact := by
  have hfield : (Row.field number).Exact :=
    (Reader.exact_natural _ _ _).bind fun n => Reader.exact_pure _
  iterate 8 refine hfield.bind fun _ => ?_
  exact Reader.exact_pure _

theorem Room.exact_reader (lastRoom number : Nat) : (Room.reader lastRoom number).Exact := by
  have hexit := Reader.exact_natural (.room number) .roomExit (· ≤ lastRoom)
  iterate 6 refine hexit.bind fun _ => ?_
  exact (Reader.exact_quoted _).bind fun _ => Reader.exact_pure _

/-- A room begins with an exit. -/
theorem Room.needsNumber_reader (lastRoom number : Nat) :
    (Room.reader lastRoom number).NeedsNumber :=
  (Reader.needsNumber_natural _ _ _).bind

theorem Item.exact_reader (lastRoom number : Nat) : (Item.reader lastRoom number).Exact :=
  (Reader.exact_quoted _).bind fun _ => (Reader.exact_natural _ _ _).bind fun _ =>
    Reader.exact_pure _

namespace World

/-- The data as a whole says where it ends. -/
theorem exact_reader : World.reader.Exact := by
  refine Header.exact_reader.bind fun counts =>
    (Reader.exact_table Row.exact_reader 0 _).bind fun rows =>
    Reader.takesStrings_quotedRun.bind (fun texts => ?_) fun texts => ?_
  · refine (Reader.exact_table (Room.exact_reader counts.lastRoom) 0 _).bind fun rooms =>
      (Reader.exact_table (fun n => Reader.exact_quoted (.message n)) 0 _).bind fun messages =>
      (Reader.exact_table (Item.exact_reader counts.lastRoom) 0 _).bind fun items =>
      (Reader.takesStrings_titlesReader _).bind (fun titles => ?_) fun titles => ?_
    · exact (Reader.exact_natural _ _ _).bind fun version =>
        (Reader.exact_natural _ _ _).bind fun adventure =>
        (Reader.exact_number _).bind fun found =>
        Reader.exact_check <| Reader.exact_pure _
    · exact (Reader.needsNumber_natural _ _ _).bind
  · -- There is a room, so that an exit follows the vocabulary.
    exact (Room.needsNumber_reader counts.lastRoom 0).bind.bind

/-- The checksum comes last. -/
theorem endsIn_reader : World.reader.EndsIn fun world => .number world.header.checksum := by
  refine Header.exact_reader.shortens.endsIn_bind fun counts =>
    (Reader.exact_table Row.exact_reader 0 _).shortens.endsIn_bind fun rows =>
    Reader.takesStrings_quotedRun.shortens.endsIn_bind fun texts =>
    (Reader.exact_table (Room.exact_reader counts.lastRoom) 0 _).shortens.endsIn_bind fun rooms =>
    (Reader.exact_table (fun n => Reader.exact_quoted (.message n)) 0 _).shortens.endsIn_bind
      fun messages =>
    (Reader.exact_table (Item.exact_reader counts.lastRoom) 0 _).shortens.endsIn_bind fun items =>
    (Reader.takesStrings_titlesReader _).shortens.endsIn_bind fun titles =>
    (Reader.exact_natural _ _ _).shortens.endsIn_bind fun version =>
    (Reader.exact_natural _ _ _).shortens.endsIn_bind fun adventure => ?_
  intro tokens world rest heq
  obtain ⟨⟨found, middle⟩, hnumber, hcheck⟩ := exists_of_bind_eq_ok heq
  obtain ⟨line, rfl⟩ := Reader.exists_of_number_eq_ok hnumber
  dsimp only at hcheck
  split_ifs at hcheck with hsum
  · cases hcheck
  · cases hcheck
    exact ⟨[], line, by simpa using hsum⟩

/-! ## Worlds -/

/-- The checksum of a world that has been read is a number of 64 bits with a sign, since it is one
of the numbers of the data. -/
theorem checksum_lt_of_read {text : String} {world : World} (h : World.read text = .ok world) :
    world.header.checksum < 0x8000000000000000 := by
  obtain ⟨tokens, rest, hscan, hreader, -⟩ := reader_of_read h
  obtain ⟨before, line, heq⟩ := endsIn_reader tokens world rest hreader
  have hbounded := Token.allBounded_of_scan hscan
  rw [heq] at hbounded
  have hsum := hbounded ⟨.number world.header.checksum, line⟩ (by simp) _ rfl
  omega

/-- Tokens that describe a world hold it in a part at their front, which ends with the checksum.
Every shorter part is refused because a token is missing, and whatever comes behind this part, the
tokens describe the same world. -/
theorem ofTokens_cut_or_continued {tokens : List Token} {world : World}
    (h : ofTokens tokens = .ok world) :
    ∃ m ≤ tokens.length, reader tokens = .ok (world, tokens.drop m) ∧
      (tokens.take m).getLast?.map Token.lexeme = some (.number world.header.checksum) ∧
      (∀ k < m, ∃ place, ofTokens (tokens.take k) = .error (.truncated place)) ∧
      ∀ others, ofTokens (tokens.take m ++ others) = .ok world := by
  obtain ⟨rest, hreader, hcheck⟩ := reader_of_ofTokens h
  obtain ⟨taken, rfl, htakes⟩ := exact_reader tokens world rest hreader
  have hlast : taken.getLast?.map Token.lexeme = some (.number world.header.checksum) := by
    obtain ⟨before, line, heq⟩ := endsIn_reader _ world rest hreader
    have htaken : taken = before ++ [⟨.number world.header.checksum, line⟩] :=
      List.append_cancel_right (heq.trans (List.append_cons before _ rest))
    simp [htaken]
  refine ⟨taken.length, by simp, ?_, ?_, ?_, ?_⟩
  · rw [List.drop_left]
    exact hreader
  · rw [List.take_left]
    exact hlast
  · intro k hk
    have hcut : (taken ++ rest).take k = taken.take k := List.take_append_of_le_length hk.le
    have hne : taken.take k ≠ taken := fun heq => by
      have hlength := congrArg List.length heq
      rw [List.length_take] at hlength
      omega
    obtain ⟨place, hplace⟩ := htakes.runsOut (taken.take k) (List.take_prefix k taken) hne
    refine ⟨place, ?_⟩
    rw [hcut, ofTokens, hplace]
    rfl
  · intro others
    rw [List.take_left, ofTokens_of_reader (htakes.eq_ok others)]
    exact hcheck

/-- The tokens of a small world are cut short or followed by others; here there is already one
behind them. -/
theorem ofTokens_cut_or_continued_larder :
    let tokens : List Token := larder.lexemes.map (⟨·, 1⟩) ++ [⟨.bare "end", 2⟩]
    ofTokens tokens = .ok larder ∧
      ∃ m ≤ tokens.length, reader tokens = .ok (larder, tokens.drop m) ∧
        (tokens.take m).getLast?.map Token.lexeme = some (.number larder.header.checksum) ∧
        (∀ k < m, ∃ place, ofTokens (tokens.take k) = .error (.truncated place)) ∧
        ∀ others, ofTokens (tokens.take m ++ others) = .ok larder := by
  intro tokens
  have hread : ofTokens tokens = .ok larder := by decide +kernel
  exact ⟨hread, ofTokens_cut_or_continued hread⟩

end World

end TextAdventure
