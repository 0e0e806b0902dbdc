import Mathlib.Order.Lattice.Nat
import TextAdventure.Proofs.Draws
import TextAdventure.Proofs.PlayerPass
import TextAdventure.Proofs.RankedWords

/-!
# The reserved words

The first word of each kind is reserved: its number is that of the rows that run by themselves.  It
is never matched itself, but a synonym stands for the nearest primary word before it, and nothing
keeps a synonym from being stored before every other primary word of its kind.  In a world that has
been read, such a synonym leads to the reserved word, no other typed word does, and a row that runs
by itself is the first one that a line of the player runs exactly when the line begins with one.

Main results:

- Structure `Word.Numbered` and theorem `World.numbered_of_read`: the words of each kind are
  numbered from zero on.
- Definition `Dictionary.NamesReserved`: a typed word leads to the reserved word.
- Definition `Session.firstRow?`: the row that a line of the player runs first.
- Theorem `Session.reserved_named_iff`: which typed words lead to the reserved word, and which lines
  run a row that runs by itself.
- Theorem `Session.not_reserved_unnamed`: some do.
-/

namespace TextAdventure

open Text

/-! ## Numbered words -/

namespace Word

@[simp]
theorem kind_ofText (text : String) (kind : WordKind) (index : Nat) :
    (ofText text kind index).kind = kind := by
  unfold ofText
  split <;> rfl

@[simp]
theorem index_ofText (text : String) (kind : WordKind) (index : Nat) :
    (ofText text kind index).index = index := by
  unfold ofText
  split <;> rfl

/-- The words of each kind are numbered from zero on, without gaps, in the order in which they are
stored. -/
structure Numbered (words : List Word) : Prop where
  index_lt : ∀ {i j : Nat} {v w : Word}, words[i]? = some v → words[j]? = some w →
    v.kind = w.kind → i < j → v.index < w.index
  exists_of_lt : ∀ {w : Word} {n : Nat}, w ∈ words → n < w.index →
    ∃ v ∈ words, v.kind = w.kind ∧ v.index = n

namespace Numbered

variable {words : List Word} {i j : Nat} {v w : Word}

/-- Words are numbered if the places of each kind are. -/
theorem of_layout (kindAt : Nat → WordKind) (indexAt : Nat → Nat)
    (hwords : ∀ i w, words[i]? = some w → w.kind = kindAt i ∧ w.index = indexAt i)
    (hlt : ∀ i j, kindAt i = kindAt j → i < j → indexAt i < indexAt j)
    (hexists : ∀ j n, n < indexAt j → ∃ i < j, kindAt i = kindAt j ∧ indexAt i = n) :
    Numbered words where
  index_lt {i j v w} hv hw hkind hij := by
    obtain ⟨hkindv, hindexv⟩ := hwords i v hv
    obtain ⟨hkindw, hindexw⟩ := hwords j w hw
    rw [hindexv, hindexw]
    exact hlt i j (hkindv.symm.trans (hkind.trans hkindw)) hij
  exists_of_lt {w n} hw hn := by
    obtain ⟨j, hj, rfl⟩ := List.getElem_of_mem hw
    obtain ⟨hkindw, hindexw⟩ := hwords j _ (List.getElem?_eq_getElem hj)
    rw [hindexw] at hn
    obtain ⟨i, hij, hkind, hindex⟩ := hexists j n hn
    have hi : i < words.length := hij.trans hj
    obtain ⟨hkindv, hindexv⟩ := hwords i _ (List.getElem?_eq_getElem hi)
    exact ⟨words[i], List.getElem_mem hi, by rw [hkindv, hkindw, hkind], hindexv.trans hindex⟩

/-- Of two words of a kind, the one with the lower number is stored first. -/
theorem lt_of_index_lt (h : Numbered words) (hv : words[i]? = some v) (hw : words[j]? = some w)
    (hkind : v.kind = w.kind) (hindex : v.index < w.index) : i < j := by
  rcases Nat.lt_trichotomy i j with hlt | rfl | hlt
  · exact hlt
  · rw [Option.some.inj (hv.symm.trans hw)] at hindex
    exact absurd hindex (Nat.lt_irrefl _)
  · exact absurd (h.index_lt hw hv hkind.symm hlt) (Nat.lt_asymm hindex)

/-- There is one word of each kind with a number. -/
theorem eq_of_index_eq (h : Numbered words) (hv : v ∈ words) (hw : w ∈ words)
    (hkind : v.kind = w.kind) (hindex : v.index = w.index) : v = w := by
  obtain ⟨i, hi⟩ := List.mem_iff_getElem?.1 hv
  obtain ⟨j, hj⟩ := List.mem_iff_getElem?.1 hw
  rcases Nat.lt_trichotomy i j with hlt | rfl | hlt
  · exact absurd hindex (Nat.ne_of_lt (h.index_lt hi hj hkind hlt))
  · exact Option.some.inj (hi.symm.trans hj)
  · exact absurd hindex.symm (Nat.ne_of_lt (h.index_lt hj hi hkind.symm hlt))

end Numbered

/-- Verbs and nouns in turn are numbered. -/
theorem numbered_interleaved (texts : List String) : Numbered (interleaved texts) := by
  refine .of_layout (fun i => if i % 2 = 0 then .verb else .noun) (· / 2) ?_ ?_ ?_
  · intro i w hw
    simp only [interleaved, List.getElem?_map, List.getElem?_zipIdx, Option.map_map, Nat.zero_add,
      Option.map_eq_some_iff] at hw
    obtain ⟨text, -, rfl⟩ := hw
    simp
  · intro i j hkind hij
    show i / 2 < j / 2
    split_ifs at hkind <;> omega
  · intro j n hn
    have hlt : n < j / 2 := hn
    refine ⟨2 * n + j % 2, by omega, ?_, ?_⟩
    · have hparity : (2 * n + j % 2) % 2 = j % 2 := by omega
      simp only [hparity]
    · show (2 * n + j % 2) / 2 = n
      omega

/-- The verbs, and after them the nouns, are numbered. -/
theorem numbered_split (texts : List String) : Numbered (split texts) := by
  let verbs := (texts.length + 1) / 2
  refine .of_layout (fun i => if i < verbs then .verb else .noun)
    (fun i => if i < verbs then i else i - verbs) ?_ ?_ ?_
  · intro i w hw
    simp only [split, List.getElem?_map, List.getElem?_zipIdx, Option.map_map, Nat.zero_add,
      Option.map_eq_some_iff] at hw
    obtain ⟨text, -, rfl⟩ := hw
    show Word.kind (ite (i < verbs) _ _) = _ ∧ Word.index (ite (i < verbs) _ _) = _
    split_ifs <;> simp [verbs]
  · intro i j hkind hij
    split_ifs at hkind ⊢ <;> omega
  · intro j n hn
    split_ifs at hn with hj
    · exact ⟨n, hn, by simp [hj, hn.trans hj], by simp [hn.trans hj]⟩
    · refine ⟨verbs + n, by omega, by simp [hj], by simp⟩

/-- The vocabulary of an adventure is numbered, however it is laid out. -/
theorem numbered_ofTexts (lastWord : Nat) (texts : List String) :
    Numbered (ofTexts lastWord texts) := by
  unfold ofTexts
  split_ifs
  · exact numbered_interleaved texts
  · exact numbered_split texts

end Word

/-- The words of a world that has been read are numbered. -/
theorem World.numbered_of_read {text : String} {world : World} (h : World.read text = .ok world) :
    Word.Numbered world.words := by
  obtain ⟨texts, htexts⟩ := World.words_of_read h
  rw [htexts]
  exact Word.numbered_ofTexts world.header.lastWord texts

/-! ## Words that lead to the reserved word -/

namespace Dictionary

variable {d : Dictionary} {kind : WordKind} {word : String} {v w : Word} {place other : Nat}

/-- Of the words of a kind up to a number, the reserved word is the only primary one. -/
def ReservedAlone (d : Dictionary) (kind : WordKind) (number : Nat) : Prop :=
  ∀ u ∈ d.words, u.kind = kind → u.index ≤ number → (u.isSynonym = true ↔ u.index ≠ 0)

/-- The best match of a typed word is a synonym before which only the reserved word is primary. -/
def NamesReserved (d : Dictionary) (kind : WordKind) (word : String) : Prop :=
  word ≠ "" ∧ ∃ w place, d.IsBest kind word w place ∧ d.ReservedAlone kind w.index

/-- Where the nearest primary word before a synonym is the reserved one, no word between the two is
primary. -/
theorem reservedAlone_of_isPrimaryBefore (hnumbered : Word.Numbered d.words)
    (h : d.Matches kind word w place) (hsynonym : w.isSynonym = true)
    (hv : d.IsPrimaryBefore kind place v other) (hzero : v.index = 0) :
    d.ReservedAlone kind w.index := by
  intro u hu hkind hle
  have hkindw : u.kind = w.kind := hkind.trans h.kind_eq.symm
  have hkindv : v.kind = u.kind := hv.kind_eq.trans hkind.symm
  constructor
  · intro hsyn hindex
    have hsame : u = v := hnumbered.eq_of_index_eq hu (List.mem_of_getElem? hv.stored) hkindv.symm
      (hindex.trans hzero.symm)
    rw [hsame, hv.primary] at hsyn
    cases hsyn
  · intro hindex
    rcases Nat.eq_or_lt_of_le hle with heq | hlt
    · rw [hnumbered.eq_of_index_eq hu (List.mem_of_getElem? h.stored) hkindw heq]
      exact hsynonym
    · -- The word is stored between the reserved word and the match.
      obtain ⟨between, hbetween⟩ := List.mem_iff_getElem?.1 hu
      have hafter : other < between :=
        hnumbered.lt_of_index_lt hv.stored hbetween hkindv (by omega)
      have hbefore : between < place := hnumbered.lt_of_index_lt hbetween h.stored hkindw hlt
      exact hv.nearest between u hafter hbefore hbetween hkind

/-- Where only the reserved word is primary up to a match, it is the nearest primary word before the
match. -/
theorem exists_isPrimaryBefore_of_reservedAlone (hnumbered : Word.Numbered d.words)
    (h : d.Matches kind word w place) (halone : d.ReservedAlone kind w.index) :
    ∃ v other, d.IsPrimaryBefore kind place v other ∧ v.index = 0 := by
  have hpos := Nat.pos_of_ne_zero h.index_ne
  obtain ⟨v, hv, hkind, hzero⟩ := hnumbered.exists_of_lt (List.mem_of_getElem? h.stored) hpos
  obtain ⟨other, hother⟩ := List.mem_iff_getElem?.1 hv
  have hkindv : v.kind = kind := hkind.trans h.kind_eq
  have hprimary : v.isSynonym = false := by
    simpa [hzero] using halone v hv hkindv (by omega)
  have hbefore : other < place := hnumbered.lt_of_index_lt hother h.stored hkind (by omega)
  refine ⟨v, other, ⟨hbefore, hother, hkindv, hprimary, ?_⟩, hzero⟩
  intro between u hafter hlt hu hkindu
  have hlow := hnumbered.index_lt hu h.stored (hkindu.trans h.kind_eq.symm) hlt
  have hhigh := hnumbered.index_lt hother hu (hkindv.trans hkindu.symm) hafter
  exact (halone u (List.mem_of_getElem? hu) hkindu hlow.le).2 (by omega)

/-- A typed word is resolved to the number of the reserved word exactly when it leads there. -/
theorem lookup_eq_zero_iff (hnumbered : Word.Numbered d.words) :
    d.lookup kind word = some 0 ↔ d.NamesReserved kind word := by
  rw [lookup_eq_some_iff]
  constructor
  · rintro ⟨hword, w, place, hbest, ⟨-, hzero⟩ | ⟨hsynonym, v, other, hv, hzero⟩⟩
    · exact absurd hzero hbest.index_ne
    · exact ⟨hword, w, place, hbest,
        reservedAlone_of_isPrimaryBefore hnumbered hbest.toMatches hsynonym hv hzero⟩
  · rintro ⟨hword, w, place, hbest, halone⟩
    have hsynonym : w.isSynonym = true :=
      (halone w (List.mem_of_getElem? hbest.stored) hbest.kind_eq le_rfl).2 hbest.index_ne
    exact ⟨hword, w, place, hbest, Or.inr ⟨hsynonym,
      exists_isPrimaryBefore_of_reservedAlone hnumbered hbest.toMatches halone⟩⟩

/-- Where the word behind the reserved one is primary, no typed word leads to the reserved word. -/
theorem not_namesReserved (hnumbered : Word.Numbered d.words)
    (hfirst : ∀ w ∈ d.words, w.kind = kind → w.index = 1 → w.isSynonym = false) :
    ¬d.NamesReserved kind word := by
  rintro ⟨-, w, place, hbest, halone⟩
  have hw : w ∈ d.words := List.mem_of_getElem? hbest.stored
  have hone : ∃ v ∈ d.words, v.kind = w.kind ∧ v.index = 1 := by
    rcases Nat.lt_or_eq_of_le (Nat.pos_of_ne_zero hbest.index_ne) with hlt | heq
    · exact hnumbered.exists_of_lt hw hlt
    · exact ⟨w, hw, rfl, heq.symm⟩
  obtain ⟨v, hv, hkind, hindex⟩ := hone
  have hvkind : v.kind = kind := hkind.trans hbest.kind_eq
  have hpos := Nat.pos_of_ne_zero hbest.index_ne
  have hsynonym := (halone v hv hvkind (by omega)).2 (by omega)
  rw [hfirst v hv hvkind hindex] at hsynonym
  cases hsynonym

end Dictionary

/-! ## The row that ran first -/

/-- A row is the first one of those that have run. -/
def Progress.RanFirst (i : Nat) (p : Progress) : Prop :=
  p.output.ran.head? = some i

/-- What ran depends on the journal alone. -/
theorem Output.ran_congr {out out' : Output} (h : out'.journal = out.journal) :
    out'.ran = out.ran := by
  rw [ran, ran, h]

namespace Progress

variable {i : Nat} {p : Progress}

/-- A row remains the first one whatever is recorded later. -/
theorem RanFirst.note (h : p.RanFirst i) (entry : Entry) : (p.note entry).RanFirst i := by
  have hran : (p.note entry).output.ran = p.output.ran ++ (Output.ran { journal := [entry] }) :=
    List.filterMap_append
  rw [RanFirst, hran, List.head?_append, h]
  rfl

theorem invariant_ranFirst (ctx : Context) (i : Nat) : Invariant ctx (RanFirst i) where
  note _ entry h := h.note entry
  settle _ h := h
  execute c o p h := by
    rw [RanFirst, Output.ran_congr (Command.journal_execute ctx c o p)]
    exact h

theorem RanFirst.burn (h : p.RanFirst i) (settings : Settings) : (p.burn settings).RanFirst i := by
  have hburnt := h.note (.burned p.state.settled)
  unfold Progress.burn lightRunsOut lightBurns
  dsimp only
  split_ifs
  · exact h
  · exact h
  · exact hburnt
  · exact hburnt
  · exact h

theorem RanFirst.flushLook (h : p.RanFirst i) (ctx : Context) : (p.flushLook ctx).RanFirst i := by
  unfold Progress.flushLook
  split_ifs
  · exact h.note _
  · exact h

end Progress

/-- The first row that a pass of the player runs answers to the words. -/
theorem answers_of_ranFirst_playerPass (ctx : Context) (verb noun : Nat) {p : Progress}
    (hp : p.output.ran = []) {i : Nat}
    (h : (playerPass ctx verb noun .idle p).2.2.RanFirst i) :
    ∃ row, ctx.world.rows[i]? = some row ∧ row.answers verb noun = true := by
  have hscanned : (scanPlayer ctx verb noun .noMatch ctx.world.numberedRows p).2.RanFirst i := h
  rw [Progress.RanFirst] at hscanned
  rcases (ctx.world.respondents verb noun p.state).eq_empty_or_nonempty with hnone | hsome
  · obtain ⟨p', -, hsame, hscan⟩ := scanPlayer_of_refuses ctx verb noun .noMatch
      ctx.world.numberedRows [] p fun row hrow => by
        obtain ⟨k, hk⟩ := List.mem_iff_getElem?.1 hrow
        exact World.refuses_of_notMem (by simp [hnone]) hk
    rw [List.append_nil] at hscan
    rw [hscan, scanPlayer, hsame, hp] at hscanned
    cases hscanned
  · obtain ⟨first, hleast⟩ : ∃ first, IsLeast (ctx.world.respondents verb noun p.state) first :=
      ⟨_, Nat.sInf_mem hsome, fun _ hk => Nat.sInf_le hk⟩
    obtain ⟨row, hrow, hwords, -⟩ := hleast.1
    obtain ⟨final, later, -, hscan, -, -, hmore⟩ :=
      scanPlayer_of_isLeast ctx verb noun .noMatch p hleast hrow
    rw [hscan, hmore, hp] at hscanned
    cases hscanned
    exact ⟨row, hrow, Row.answers_eq_true_iff.2 hwords⟩

/-- A move runs no row. -/
theorem Builtin.ran_go (ctx : Context) (d : Direction) (pass : Pass) :
    (go ctx d pass).progress.output.ran = pass.progress.output.ran := by
  have hdrew (percent : Nat) :
      (pass.progress.note (.drew percent)).output.ran = pass.progress.output.ran := by
    simp [Output.ran, Progress.note, Progress.mapOutput]
  unfold go
  dsimp only
  split_ifs
  · exact hdrew _
  · exact (Output.ran_congr (journal_walk ctx _ d)).trans (hdrew _)
  · exact Output.ran_congr (journal_walk ctx pass.progress d)

/-! ## The verb of an order -/

/-- The noun of a direction stands for a direction. -/
theorem isSome_ofNoun?_of_directionNoun? {word : String} {noun : Nat}
    (h : directionNoun? word = some noun) : (Direction.ofNoun? noun).isSome = true := by
  obtain ⟨entry, hentry, rfl⟩ := Option.map_eq_some_iff.1 h
  have hall : ∀ entry ∈ directionWords, (Direction.ofNoun? entry.2.2).isSome = true := by decide
  exact hall entry (List.mem_of_find?_eq_some hentry)

/-- The verb of an order that is no move is that of the first word of the line. -/
theorem Order.verb?_of_ofLine? {world : World} {settings : Settings} {input : String}
    {order : Order} (h : Order.ofLine? world settings input = some order)
    (hstays : order.direction? settings = none) :
    ∃ verbWord, (words input).head? = some verbWord ∧
      world.dictionary.verb? verbWord = some order.verb := by
  unfold ofLine? at h
  split at h
  · rename_i word hwords
    refine ⟨word, by rw [hwords]; rfl, ?_⟩
    unfold ofWord? at h
    split at h
    · rename_i noun hnoun
      cases h
      have hmoves := isSome_ofNoun?_of_directionNoun? hnoun
      rw [direction?, if_pos rfl] at hstays
      rw [hstays] at hmoves
      cases hmoves
    · obtain ⟨verb, hverb, rfl⟩ := Option.map_eq_some_iff.1 h
      exact hverb
  · rename_i verbWord nounWord hwords
    refine ⟨verbWord, by rw [hwords]; rfl, ?_⟩
    obtain ⟨verb, hverb, rfl⟩ := Option.map_eq_some_iff.1 h
    exact hverb
  · cases h

/-! ## The first row of a turn -/

namespace Session

variable {s : Session} {input : String} {i : Nat}

/-- The row that a line of the player runs first, if it runs any.  A game that has stopped runs
none. -/
def firstRow? (s : Session) (input : String) : Option Nat :=
  match s.halted with
  | some _ => none
  | none => (s.playerPhase input s.opening).progress.output.ran.head?

theorem firstRow?_eq_some_iff :
    s.firstRow? input = some i ↔
      s.halted = none ∧ (s.playerPhase input s.opening).progress.RanFirst i := by
  unfold firstRow? Progress.RanFirst
  cases s.halted with
  | some reason => simp
  | none => simp

/-- The first row that an order runs answers to its verb and noun. -/
theorem answers_of_ranFirst_consult (order : Order) {p : Progress} (hp : p.output.ran = [])
    (h : (s.consult order input p).RanFirst i) :
    ∃ row, s.world.rows[i]? = some row ∧ row.answers order.verb order.noun = true := by
  have hanswers : s.KeptByAnswers fun q => q.RanFirst i →
      ∃ row, s.world.rows[i]? = some row ∧ row.answers order.verb order.noun = true := by
    refine s.keptByAnswers_of_journal fun hjournal hq h => hq ?_
    rwa [Progress.RanFirst, ← Output.ran_congr hjournal]
  exact hanswers.consult input
    (answers_of_ranFirst_playerPass (s.contextOf order) order.verb order.noun hp) h

/-- The row that a line runs first answers to the order of the line, which is no move. -/
theorem exists_order_of_ranFirst (h : (s.playerPhase input s.opening).progress.RanFirst i) :
    ∃ order row, Order.ofLine? s.world s.settings input = some order ∧
      order.direction? s.settings = none ∧ s.world.rows[i]? = some row ∧
      row.answers order.verb order.noun = true := by
  unfold playerPhase at h
  cases horder : Order.ofLine? s.world s.settings input with
  | none =>
    simp only [horder, Progress.RanFirst] at h
    rw [Output.ran_congr (Builtin.journal_answer _ _ _)] at h
    cases h
  | some order =>
    simp only [horder] at h
    unfold obey at h
    cases hdirection : order.direction? s.settings with
    | some d =>
      simp only [hdirection, Progress.RanFirst] at h
      rw [Builtin.ran_go] at h
      cases h
    | none =>
      simp only [hdirection] at h
      obtain ⟨row, hrow, hanswers⟩ := answers_of_ranFirst_consult order rfl h
      exact ⟨order, row, rfl, hdirection, hrow, hanswers⟩

theorem ranFirst_worldPhase {pass : Pass} (h : pass.progress.RanFirst i) :
    (s.worldPhase pass).progress.RanFirst i := by
  let burnt : Pass := { pass with progress := pass.progress.burn s.settings }
  have hburnt : burnt.progress.RanFirst i := h.burn s.settings
  have hpass := (Progress.invariant_ranFirst s.context i).automaticPass .idle hburnt
  exact hpass.flushLook s.context

/-- The row that a line runs first is the first one of the turn. -/
theorem ranFirst_turn (h : s.firstRow? input = some i) : (s.turn input).2.ran.head? = some i := by
  obtain ⟨hgoes, hplayer⟩ := firstRow?_eq_some_iff.1 h
  have hlooked := hplayer.flushLook s.context
  rw [turn_of_not_halted hgoes]
  unfold play
  dsimp only
  split_ifs
  · exact hlooked.flushLook s.context
  · exact (ranFirst_worldPhase hlooked).flushLook s.context

/-- In a world that has been read, a typed word leads to the reserved word exactly when its best
match is a synonym with no other primary word before it, and never where the word behind the
reserved one is primary.  The row that a line of the player runs first has the verb that the first
word of the line is resolved to, so that it is one that runs by itself exactly when this word leads
to the reserved verb. -/
theorem reserved_named_iff {text : String} {world : World} (hread : World.read text = .ok world) :
    (∀ kind word, world.dictionary.lookup kind word = some 0 ↔
      world.dictionary.NamesReserved kind word) ∧
    (∀ kind, (∀ w ∈ world.words, w.kind = kind → w.index = 1 → w.isSynonym = false) →
      ∀ word, world.dictionary.lookup kind word ≠ some 0) ∧
    ∀ s : Session, s.world = world → ∀ input i, s.firstRow? input = some i →
      (s.turn input).2.ran.head? = some i ∧
      ∃ row verbWord, world.rows[i]? = some row ∧ (words input).head? = some verbWord ∧
        world.dictionary.verb? verbWord = some row.trigger.verb ∧
        (row.trigger.isAutomatic = true ↔ world.dictionary.NamesReserved .verb verbWord) := by
  have hnumbered : Word.Numbered world.dictionary.words := World.numbered_of_read hread
  refine ⟨fun kind word => Dictionary.lookup_eq_zero_iff hnumbered, ?_, ?_⟩
  · intro kind hfirst word hlookup
    exact Dictionary.not_namesReserved hnumbered hfirst
      ((Dictionary.lookup_eq_zero_iff hnumbered).1 hlookup)
  · rintro s rfl input i hi
    obtain ⟨order, row, horder, hstays, hrow, hanswers⟩ :=
      exists_order_of_ranFirst (firstRow?_eq_some_iff.1 hi).2
    obtain ⟨verbWord, hfirst, hverb⟩ := Order.verb?_of_ofLine? horder hstays
    simp only [Row.answers, Bool.and_eq_true, beq_iff_eq] at hanswers
    rw [← hanswers.1] at hverb
    refine ⟨ranFirst_turn hi, row, verbWord, hrow, hfirst, hverb, ?_⟩
    rw [← Dictionary.lookup_eq_zero_iff hnumbered, ← Dictionary.verb?, hverb, Trigger.isAutomatic]
    simp

/-- In a world whose only synonym is the word behind the reserved verb, this synonym leads there,
and the player who types it runs the first row, which runs by itself. -/
theorem reserved_named_iff_larder :
    let s := new World.larder {} (Dice.ofSeed 0)
    World.larder.dictionary.NamesReserved .verb "take" ∧
      World.larder.dictionary.lookup .noun "jam" ≠ some 0 ∧ s.firstRow? "take" = some 0 ∧
      ∃ row verbWord, World.larder.rows[0]? = some row ∧ row.trigger.isAutomatic = true ∧
        (words "take").head? = some verbWord ∧
        World.larder.dictionary.verb? verbWord = some row.trigger.verb := by
  intro s
  have hlookup : World.larder.dictionary.lookup .verb "take" = some 0 := by decide +kernel
  have hrow : s.firstRow? "take" = some 0 := by decide +kernel
  obtain ⟨hnamed, hprimary, hfirst⟩ := reserved_named_iff World.read_larder
  obtain ⟨-, row, verbWord, hi, hhead, hverb, -⟩ := hfirst s rfl "take" 0 hrow
  obtain rfl : ⟨0, .replicate 5 0, .replicate 2 0⟩ = row := Option.some.inj hi
  refine ⟨(hnamed _ _).1 hlookup, hprimary .noun ?_ "jam", hrow, _, verbWord, hi, rfl, hhead, hverb⟩
  decide

/-- The reserved words are not out of reach.  In a small world that has been read, a typed word is
resolved to the number of the reserved verb, and the row that it runs first runs by itself. -/
theorem not_reserved_unnamed :
    (¬∀ text world, World.read text = .ok world →
      ∀ kind word, world.dictionary.lookup kind word ≠ some 0) ∧
    ¬∀ text world, World.read text = .ok world →
      ∀ s : Session, s.world = world → s.halted = none →
        ∀ input i row, s.firstRow? input = some i → world.rows[i]? = some row →
          row.trigger.isAutomatic = false := by
  constructor
  · intro h
    exact h _ _ World.read_larder .verb "take" (by decide +kernel)
  · intro h
    have hverb := h _ _ World.read_larder (new World.larder {} (Dice.ofSeed 0)) rfl rfl "take" 0
      ⟨0, .replicate 5 0, .replicate 2 0⟩ (by decide +kernel) rfl
    cases hverb

end Session

end TextAdventure
