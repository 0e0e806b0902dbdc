import Mathlib.Order.Bounds.Basic
import TextAdventure.Proofs.RowRuns

/-!
# What the player's words run

The player pass runs the first row that answers to the words and whose conditions hold, and after it
the rows that continue it.  Here this is said without a scan, by the numbers of the rows: which rows
respond to the words, which rows can continue a given one, and that the least of them is taken.

Main results:

- Definition `World.respondents`: the rows that the words can run.
- Definition `World.continuations`: the rows that can continue a row.
- Inductive `Follows`: the rows that run after a given one.
- Theorem `chain_runsFollowers`: a chain runs exactly the rows that follow.
- Theorem `playerPass_spec`: what the player pass runs, changes and answers.
-/

namespace TextAdventure

/-! ## Rows by their words -/

namespace Row

/-- The row has the verb, and it has the noun or none. -/
def AnswersTo (row : Row) (verb noun : Nat) : Prop :=
  row.trigger.verb = verb ∧ (row.trigger.noun = noun ∨ row.trigger.noun = 0)

instance (row : Row) (verb noun : Nat) : Decidable (row.AnswersTo verb noun) :=
  inferInstanceAs (Decidable (_ ∧ _))

theorem answers_eq_true_iff {row : Row} {verb noun : Nat} :
    row.answers verb noun = true ↔ row.AnswersTo verb noun := by
  simp [answers, AnswersTo]

/-- The row has neither verb nor noun. -/
def HasNoWords (row : Row) : Prop :=
  row.trigger.verb = 0 ∧ row.trigger.noun = 0

theorem isContinuation_eq_true_iff {row : Row} :
    row.trigger.isContinuation = true ↔ row.HasNoWords := by
  simp [Trigger.isContinuation, HasNoWords]

end Row

/-! ## Rows by their numbers -/

namespace World

/-- The rows that answer to the words and whose conditions hold. -/
def respondents (world : World) (verb noun : Nat) (s : State) : Set Nat :=
  {i | ∃ row, world.rows[i]? = some row ∧ row.AnswersTo verb noun ∧ row.holds world s = true}

/-- The rows below row `i` that can continue it: their conditions hold, and from the row below `i`
down to them there are only rows with neither verb nor noun. -/
def continuations (world : World) (i : Nat) (s : State) : Set Nat :=
  {j | i < j ∧ (∀ k, i < k → k ≤ j → ∃ row, world.rows[k]? = some row ∧ row.HasNoWords) ∧
    ∃ row, world.rows[j]? = some row ∧ row.holds world s = true}

theorem numberedRows_getElem? (world : World) (i : Nat) :
    world.numberedRows[i]? = world.rows[i]?.map fun row => (row, i) := by
  simp [numberedRows, List.getElem?_zipIdx]

/-- A row of the rest of the table has the number at which the rest begins. -/
theorem numberedRows_of_drop_eq_cons {world : World} {n : Nat} {row : NumberedRow}
    {rest : List NumberedRow} (h : world.numberedRows.drop n = row :: rest) :
    world.rows[n]? = some row.1 ∧ row.2 = n ∧ world.numberedRows.drop (n + 1) = rest := by
  have hget : world.numberedRows[n]? = some row := by
    rw [← List.head?_drop, h, List.head?_cons]
  have hrest : world.numberedRows.drop (n + 1) = rest := by
    rw [← List.drop_drop, h, List.drop_succ_cons, List.drop_zero]
  rw [numberedRows_getElem?] at hget
  obtain ⟨found, hfound, rfl⟩ := Option.map_eq_some_iff.1 hget
  exact ⟨hfound, rfl, hrest⟩

/-- The table above a row, the row itself, and the table below it. -/
theorem numberedRows_split {world : World} {i : Nat} {row : Row} (h : world.rows[i]? = some row) :
    world.numberedRows =
      world.numberedRows.take i ++ (row, i) :: world.numberedRows.drop (i + 1) := by
  have hget : world.numberedRows[i]? = some (row, i) := by
    rw [numberedRows_getElem?, h, Option.map_some]
  obtain ⟨hlt, hnumbered⟩ := List.getElem?_eq_some_iff.1 hget
  rw [← hnumbered, ← List.drop_eq_getElem_cons hlt, List.take_append_drop]

/-- Where the rest of the table is empty, there is no row. -/
theorem rows_of_drop_eq_nil {world : World} {n : Nat}
    (h : world.numberedRows.drop n = []) : world.rows[n]? = none := by
  have hget : world.numberedRows[n]? = none := by
    rw [← List.head?_drop, h, List.head?_nil]
  simpa [numberedRows_getElem?] using hget

end World

/-! ## The rows that follow -/

/-- Row `last` has run and left the progress `p`.  The rows `later` run after it and leave `q`: none
if the game has stopped, if the row does not ask to be continued or if no row can continue it, and
otherwise the first row that can, with the rows that follow in turn. -/
inductive Follows (ctx : Context) : NumberedRow → Progress → List Nat → Progress → Prop where
  | done {last : NumberedRow} {p : Progress}
      (h : p.isHalted = true ∨ last.1.asksToContinue = false ∨
        ctx.world.continuations last.2 p.state = ∅) :
      Follows ctx last p [] p
  | next {last : NumberedRow} {p q : Progress} {j : Nat} {row : Row} {later : List Nat}
      (hgoes : p.isHalted = false) (hasks : last.1.asksToContinue = true)
      (hleast : IsLeast (ctx.world.continuations last.2 p.state) j)
      (hrow : ctx.world.rows[j]? = some row)
      (hlater : Follows ctx (row, j) (row.effect ctx p) later q) :
      Follows ctx last p (j :: later) q

/-- The rows that follow are below each other. -/
theorem Follows.pairwise {ctx : Context} {last : NumberedRow} {p q : Progress} {later : List Nat}
    (h : Follows ctx last p later q) : (last.2 :: later).Pairwise (· < ·) := by
  induction h with
  | done => simp
  | next hgoes hasks hleast hrow hlater ih =>
    rw [List.pairwise_cons]
    refine ⟨?_, ih⟩
    intro k hk
    have hlt := hleast.1.1
    rcases List.mem_cons.1 hk with rfl | hk
    · exact hlt
    · exact hlt.trans (List.rel_of_pairwise_cons ih hk)

/-! ## Chains -/

/-- The rows after row `last` and before row `n` were passed over: they have neither verb nor noun,
and their conditions fail. -/
def World.PassedOver (world : World) (last n : Nat) (s : State) : Prop :=
  ∀ k, last < k → k < n →
    ∃ row, world.rows[k]? = some row ∧ row.HasNoWords ∧ row.holds world s = false

namespace World.PassedOver

variable {world : World} {last n : Nat} {s : State}

/-- A row that can continue the last one is not among those passed over. -/
theorem le_of_mem_continuations (h : world.PassedOver last n s) {j : Nat}
    (hj : j ∈ world.continuations last s) : n ≤ j := by
  obtain ⟨hlt, -, found, hfound, hholds⟩ := hj
  by_contra hnot
  obtain ⟨row, hrow, -, hfails⟩ := h j hlt (by omega)
  rw [hrow] at hfound
  cases hfound
  rw [hholds] at hfails
  contradiction

/-- Passing over one more row. -/
theorem succ (h : world.PassedOver last n s) {row : Row} (hrow : world.rows[n]? = some row)
    (hcont : row.HasNoWords) (hfails : row.holds world s = false) :
    world.PassedOver last (n + 1) s := by
  intro k hlast hk
  rcases Nat.lt_succ_iff_lt_or_eq.1 hk with hlt | rfl
  · exact h k hlast hlt
  · exact ⟨row, hrow, hcont, hfails⟩

/-- The next row continues the last one if its conditions hold and it has neither verb nor noun. -/
theorem isLeast (h : world.PassedOver last n s) (hlast : last < n) {row : Row}
    (hrow : world.rows[n]? = some row) (hcont : row.HasNoWords)
    (hholds : row.holds world s = true) : IsLeast (world.continuations last s) n := by
  refine ⟨⟨hlast, ?_, row, hrow, hholds⟩, fun j hj => h.le_of_mem_continuations hj⟩
  intro k hk hkn
  rcases Nat.lt_or_eq_of_le hkn with hlt | rfl
  · obtain ⟨found, hfound, hcont', -⟩ := h k hk hlt
    exact ⟨found, hfound, hcont'⟩
  · exact ⟨row, hrow, hcont⟩

/-- No row continues the last one if the next row is missing or has a verb or a noun. -/
theorem continuations_eq_empty (h : world.PassedOver last n s) (hlast : last < n)
    (hnext : ∀ row, world.rows[n]? = some row → ¬row.HasNoWords) :
    world.continuations last s = ∅ := by
  rw [Set.eq_empty_iff_forall_notMem]
  intro j hj
  obtain ⟨row, hrow, hcont⟩ := hj.2.1 n hlast (h.le_of_mem_continuations hj)
  exact hnext row hrow hcont

end World.PassedOver

/-- From the progress `p` on, `final` has run exactly the rows that follow row `last`. -/
def RunsFollowers (ctx : Context) (last : NumberedRow) (p final : Progress) : Prop :=
  ∃ later q, Follows ctx last p.visible later q ∧ final.settle.visible = q.settle ∧
    final.output.ran = p.output.ran ++ later

/-- Nothing more runs where no row follows. -/
theorem RunsFollowers.refl {ctx : Context} {last : NumberedRow} {p : Progress}
    (h : p.isHalted = true ∨ last.1.asksToContinue = false ∨
      ctx.world.continuations last.2 p.state = ∅) : RunsFollowers ctx last p p :=
  ⟨[], p.visible, .done h, p.visible_settle, (List.append_nil _).symm⟩

/-- A chain that closes at once runs no row. -/
theorem RunsFollowers.of_closed {ctx : Context} {last : NumberedRow} {p : Progress}
    {rows : List NumberedRow} (hclosed : (chain ctx rows p).1 = p.settle)
    (h : last.1.asksToContinue = false ∨ ctx.world.continuations last.2 p.state = ∅) :
    RunsFollowers ctx last p (chain ctx rows p).1 := by
  rw [hclosed]
  exact refl (Or.inr h)

/-- A row that follows is run first, and then the rows that follow that row. -/
theorem RunsFollowers.next {ctx : Context} {last : NumberedRow} {row : Row} {n : Nat}
    {p final : Progress} (hgoes : p.isHalted = false) (hasks : last.1.asksToContinue = true)
    (hleast : IsLeast (ctx.world.continuations last.2 p.state) n)
    (hrow : ctx.world.rows[n]? = some row)
    (h : RunsFollowers ctx (row, n) ((p.noteTested (row, n)).runRow ctx (row, n)) final) :
    RunsFollowers ctx last p final := by
  obtain ⟨later, q, hfollows, hend, hran⟩ := h
  rw [Progress.visible_runRow, ← Row.effect_visible, Progress.visible_noteTested] at hfollows
  rw [Progress.ran_runRow, Progress.ran_noteTested, List.append_assoc,
    List.singleton_append] at hran
  exact ⟨n :: later, q, .next hgoes hasks hleast hrow hfollows, hend, hran⟩

/-- A chain runs exactly the rows that follow the last row that ran. -/
theorem chain_runsFollowers (ctx : Context) (rows : List NumberedRow) {n : Nat}
    (hrows : ctx.world.numberedRows.drop n = rows) (last : NumberedRow) (hlast : last.2 < n)
    (p : Progress) (hgoes : p.isHalted = false)
    (hasks : p.state.chaining = last.1.asksToContinue)
    (hpassed : ctx.world.PassedOver last.2 n p.state) :
    RunsFollowers ctx last p (chain ctx rows p).1 := by
  -- The induction is on the rows that are left.  A row that runs becomes the last one.
  induction rows generalizing n last p with
  | nil =>
    have hnone := World.rows_of_drop_eq_nil hrows
    exact .of_closed rfl (Or.inr (hpassed.continuations_eq_empty hlast (by simp [hnone])))
  | cons row rest ih =>
    obtain ⟨hrow, rfl, hrest⟩ := World.numberedRows_of_drop_eq_cons hrows
    by_cases hchaining : p.state.chaining = true
    · by_cases hcont : row.1.trigger.isContinuation = true
      · by_cases hadmits : p.admits ctx row = true
        · have hleast := hpassed.isLeast hlast hrow (Row.isContinuation_eq_true_iff.1 hcont) hadmits
          refine .next hgoes (by rw [← hasks, hchaining]) hleast hrow ?_
          by_cases hhalt : ((p.noteTested row).runRow ctx row).isHalted = true
          · have hstop : (chain ctx (row :: rest) p).1 = (p.noteTested row).runRow ctx row := by
              simp [chain, hchaining, hcont, hadmits, hhalt]
            rw [hstop]
            exact .refl (Or.inl hhalt)
          · have hruns : ((p.noteTested row).runRow ctx row).isHalted = false := by
              simpa using hhalt
            have hmore := ih hrest row (Nat.lt_succ_self _) ((p.noteTested row).runRow ctx row)
              hruns (Progress.chaining_runRow hruns) (fun k hk hkn => by omega)
            simpa [chain, hchaining, hcont, hadmits, hhalt] using hmore
        · have hfails : row.1.holds ctx.world p.state = false := by
            simpa [Progress.admits] using hadmits
          have hmore := ih hrest last (by omega) (p.noteTested row) hgoes hasks
            (hpassed.succ hrow (Row.isContinuation_eq_true_iff.1 hcont) hfails)
          simpa [chain, hchaining, hcont, hadmits, RunsFollowers] using hmore
      · have hempty := hpassed.continuations_eq_empty hlast
          (by simpa [hrow, ← Row.isContinuation_eq_true_iff] using hcont)
        exact .of_closed (by simp [chain, hcont]) (Or.inr hempty)
    · have hsilent : last.1.asksToContinue = false := by simpa [← hasks] using hchaining
      exact .of_closed (by simp [chain, hchaining]) (Or.inl hsilent)

/-- Once a row has run, its chain runs exactly the rows that follow it. -/
theorem runsFollowers_after (ctx : Context) (row : NumberedRow) (after : Progress)
    (hasks : after.isHalted = false → after.state.chaining = row.1.asksToContinue) :
    RunsFollowers ctx row after (if !after.isHalted && after.state.chaining then
      (chain ctx (ctx.world.numberedRows.drop (row.2 + 1)) after).1 else after) := by
  by_cases hhalt : after.isHalted = true
  · rw [if_neg (by simp [hhalt])]
    exact .refl (Or.inl hhalt)
  · have hgoes : after.isHalted = false := by simpa using hhalt
    by_cases hchaining : after.state.chaining = true
    · rw [if_pos (by simp [hgoes, hchaining])]
      exact chain_runsFollowers ctx _ rfl row (Nat.lt_succ_self _) after hgoes (hasks hgoes)
        (fun k hk hkn => by omega)
    · have hsilent : row.1.asksToContinue = false := by
        rw [← hasks hgoes]
        simpa using hchaining
      rw [if_neg (by simp [hchaining])]
      exact .refl (Or.inr (Or.inl hsilent))

/-! ## The player pass -/

/-- The row answers to the words, but its conditions fail. -/
def Row.Refuses (row : Row) (world : World) (verb noun : Nat) (s : State) : Prop :=
  row.answers verb noun = true → row.holds world s = false

/-- The scan goes past rows that do not answer and rows that refuse, and changes nothing. -/
theorem scanPlayer_of_refuses (ctx : Context) (verb noun : Nat) (sofar : Match)
    (before rest : List NumberedRow) (p : Progress)
    (h : ∀ row ∈ before, row.1.Refuses ctx.world verb noun p.state) :
    ∃ p', p'.visible = p.visible ∧ p'.output.ran = p.output.ran ∧
      scanPlayer ctx verb noun sofar (before ++ rest) p =
        scanPlayer ctx verb noun
          (if before.any (fun row => row.1.answers verb noun) then .conditionsFailed else sofar)
          rest p' := by
  induction before generalizing sofar p with
  | nil => exact ⟨p, rfl, rfl, by simp⟩
  | cons row before ih =>
    have hbefore : ∀ row ∈ before, row.1.Refuses ctx.world verb noun p.state :=
      fun row hrow => h row (List.mem_cons_of_mem _ hrow)
    by_cases hanswers : row.1.answers verb noun = true
    · have hfails : p.admits ctx row = false := h row List.mem_cons_self hanswers
      obtain ⟨p', hvisible, hran, hscan⟩ := ih .conditionsFailed (p.noteTested row) hbefore
      refine ⟨p', hvisible, by simpa using hran, ?_⟩
      simp [scanPlayer, hanswers, hfails, hscan]
    · have hsilent : row.1.answers verb noun = false := by simpa using hanswers
      obtain ⟨p', hvisible, hran, hscan⟩ := ih sofar p hbefore
      refine ⟨p', hvisible, hran, ?_⟩
      rw [List.any_cons, hsilent, Bool.false_or, ← hscan]
      simp [scanPlayer, hsilent]

/-- A row that does not respond does not answer or refuses. -/
theorem World.refuses_of_notMem {world : World} {verb noun : Nat} {s : State} {k : Nat}
    (h : k ∉ world.respondents verb noun s) {row : NumberedRow}
    (hrow : world.numberedRows[k]? = some row) : row.1.Refuses world verb noun s := by
  intro hanswers
  rw [numberedRows_getElem?] at hrow
  obtain ⟨found, hfound, rfl⟩ := Option.map_eq_some_iff.1 hrow
  by_contra hholds
  exact h ⟨found, hfound, Row.answers_eq_true_iff.1 hanswers, by simpa using hholds⟩

/-- The scan runs the first row that responds, and the rows that follow it. -/
theorem scanPlayer_of_isLeast (ctx : Context) (verb noun : Nat) (sofar : Match) (p : Progress)
    {i : Nat} {row : Row} (hleast : IsLeast (ctx.world.respondents verb noun p.state) i)
    (hrow : ctx.world.rows[i]? = some row) :
    ∃ final later q, scanPlayer ctx verb noun sofar ctx.world.numberedRows p = (.executed, final) ∧
      Follows ctx (row, i) (row.effect ctx p) later q ∧ final.settle.visible = q.settle ∧
      final.output.ran = p.output.ran ++ i :: later := by
  obtain ⟨found, hfound, hwords, hholds⟩ := hleast.1
  rw [hrow] at hfound
  cases hfound
  have hanswers : row.answers verb noun = true := Row.answers_eq_true_iff.2 hwords
  have hsplit := World.numberedRows_split hrow
  have hrefuses : ∀ above ∈ ctx.world.numberedRows.take i,
      above.1.Refuses ctx.world verb noun p.state := by
    intro above habove
    obtain ⟨k, hk⟩ := List.mem_iff_getElem?.1 habove
    rw [List.getElem?_take] at hk
    split_ifs at hk with hlt
    exact World.refuses_of_notMem (fun hmem => absurd (hleast.2 hmem) (by omega)) hk
  obtain ⟨p', hvisible, hran, hscan⟩ := scanPlayer_of_refuses ctx verb noun sofar
    (ctx.world.numberedRows.take i) ((row, i) :: ctx.world.numberedRows.drop (i + 1)) p hrefuses
  rw [← hsplit] at hscan
  have hstate : p'.state = p.state := congrArg (fun r => r.state) hvisible
  have hadmits : p'.admits ctx (row, i) = true := by
    rw [Progress.admits, hstate]
    exact hholds
  obtain ⟨later, q, hfollows, hend, hmore⟩ := runsFollowers_after ctx (row, i)
    ((p'.noteTested (row, i)).runRow ctx (row, i)) Progress.chaining_runRow
  rw [Progress.visible_runRow, ← Row.effect_visible, Progress.visible_noteTested, hvisible,
    Row.effect_visible] at hfollows
  rw [Progress.ran_runRow, Progress.ran_noteTested, hran, List.append_assoc,
    List.singleton_append] at hmore
  refine ⟨_, later, q, ?_, hfollows, hend, hmore⟩
  rw [hscan]
  simp only [scanPlayer, hanswers, hadmits, if_true]
  split_ifs <;> rfl

/-- The pass of the player over the action table, for words and a state of any kind.

The least row that responds to the words runs, and after it the rows that follow; the state and the
visible output are what these rows make of them one after the other.  Where no row responds, nothing
changes, and the answer tells whether a row would have answered.  The state never asks to be
continued in the end. -/
theorem playerPass_spec (ctx : Context) (verb noun : Nat) (p : Progress) :
    let result := playerPass ctx verb noun .idle p
    (∀ i row, IsLeast (ctx.world.respondents verb noun p.state) i → ctx.world.rows[i]? = some row →
      ∃ later q, Follows ctx (row, i) (row.effect ctx p) later q ∧
        (i :: later).Pairwise (· < ·) ∧ result.1 = .executed ∧
        result.2.2.visible = q.settle ∧ result.2.2.output.ran = p.output.ran ++ i :: later) ∧
    (ctx.world.respondents verb noun p.state = ∅ →
      result.1 = (if ∃ row ∈ ctx.world.rows, row.AnswersTo verb noun then .conditionsFailed
        else .noMatch) ∧
      result.2.2.visible = p.visible.settle ∧ result.2.2.output.ran = p.output.ran) ∧
    result.2.2.state.chaining = false := by
  dsimp only [playerPass]
  refine ⟨?_, ?_, rfl⟩
  · intro i row hleast hrow
    obtain ⟨final, later, q, hscan, hfollows, hend, hran⟩ :=
      scanPlayer_of_isLeast ctx verb noun .noMatch p hleast hrow
    rw [hscan]
    exact ⟨later, q, hfollows, hfollows.pairwise, rfl, hend, hran⟩
  · intro hempty
    have hrefuses : ∀ row ∈ ctx.world.numberedRows,
        row.1.Refuses ctx.world verb noun p.state := by
      intro row hrow
      obtain ⟨k, hk⟩ := List.mem_iff_getElem?.1 hrow
      exact World.refuses_of_notMem (by simp [hempty]) hk
    have hany : ctx.world.numberedRows.any (fun row => row.1.answers verb noun) = true ↔
        ∃ row ∈ ctx.world.rows, row.AnswersTo verb noun := by
      rw [← List.zipIdx_map_fst 0 ctx.world.rows, World.numberedRows]
      simp only [List.any_eq_true, Row.answers_eq_true_iff, List.mem_map, exists_exists_and_eq_and]
    obtain ⟨p', hvisible, hran, hscan⟩ := scanPlayer_of_refuses ctx verb noun .noMatch
      ctx.world.numberedRows [] p hrefuses
    rw [List.append_nil, if_congr hany rfl rfl] at hscan
    rw [hscan]
    exact ⟨rfl, by rw [← hvisible]; rfl, hran⟩

/-- A table whose first row answers to the words 1 and 2 but needs a flag.  The second row answers
to the verb with any noun, sets the flag and asks to be continued.  The third row needs the flag to
be clear, and the fourth one needs it to be set and does not ask to be continued by the fifth. -/
def lampTable : List Row := [
  ⟨152, #v[8, 0, 0, 0, 0], #v[67, 0]⟩, ⟨150, Vector.replicate 5 0, #v[11017, 0]⟩,
  ⟨0, #v[9, 0, 0, 0, 0], #v[70, 0]⟩, ⟨0, #v[8, 0, 0, 0, 0], #v[70, 0]⟩,
  ⟨0, Vector.replicate 5 0, #v[70, 0]⟩]

/-- With this table the second row runs, and after it the fourth. -/
theorem playerPass_spec_lamp :
    let ctx : Context := { world := { rows := lampTable }, settings := {} }
    let p : Progress := ⟨State.initial ctx.world, {}⟩
    let row : Row := ⟨150, Vector.replicate 5 0, #v[11017, 0]⟩
    let result := playerPass ctx 1 2 .idle p
    IsLeast (ctx.world.respondents 1 2 p.state) 1 ∧ result.1 = .executed ∧
      result.2.2.output.ran = [1, 3] ∧
      ∃ q, Follows ctx (row, 1) (row.effect ctx p) [3] q ∧ result.2.2.visible = q.settle := by
  intro ctx p row result
  have hleast : IsLeast (ctx.world.respondents 1 2 p.state) 1 := by
    refine ⟨⟨row, rfl, by decide, by decide⟩, fun k hk => Nat.one_le_iff_ne_zero.2 ?_⟩
    rintro rfl
    obtain ⟨first, hfirst, -, hholds⟩ := hk
    cases hfirst
    revert hholds
    decide
  obtain ⟨later, q, hfollows, -, hexecuted, hvisible, hran⟩ :=
    (playerPass_spec ctx 1 2 p).1 1 row hleast rfl
  have hrows : result.2.2.output.ran = [1, 3] := by decide +kernel
  have hlater : later = [3] := List.cons.inj (hran.symm.trans hrows) |>.2
  rw [hlater] at hfollows
  exact ⟨hleast, hexecuted, hrows, q, hfollows, hvisible⟩

end TextAdventure
