import TextAdventure.Proofs.RowRuns

/-!
# The automatic pass as a plain scan

The automatic pass follows chains: after a row that asks to be continued it hands the table over,
and it takes the table back behind the rows that the chain took up.  None of this can be noticed.
The rows of a chain are automatic rows without a percentage, which the scan would have considered
next in any case, and a chain closes without skipping a row that the scan would consider.

The plain scan knows no chains.  It goes through the table once, one row at a time.

Main results:

- Definition `Pass.plainScan`: the scan without chains.
- Theorem `plainScan_chain`: a chain is a stretch of the plain scan.
- Theorem `automaticPass_eq_plainScan`: the automatic pass is the plain scan.
-/

namespace TextAdventure

namespace Pass

/-! ## The scan without chains -/

/-- Draw a percentage. -/
def draw (pass : Pass) : Nat × Pass :=
  (pass.dice.percent.1, ⟨pass.progress.note (.drew pass.dice.percent.1), pass.dice.percent.2⟩)

/-- Run a row if its conditions hold at this moment. -/
def tryRow (ctx : Context) (row : NumberedRow) (pass : Pass) : Pass :=
  let tested := pass.progress.noteTested row
  { pass with
    progress := if pass.progress.admits ctx row then tested.runRow ctx row else tested }

/-- Deal with one row: a row with a verb is passed over, a row without a noun is tried, and a row
with a noun is tried when a percentage drawn for it does not exceed the noun. -/
def plainStep (ctx : Context) (row : NumberedRow) (pass : Pass) : Pass :=
  if row.1.trigger.verb ≠ 0 then pass
  else if row.1.trigger.noun = 0 then pass.tryRow ctx row
  else if pass.draw.1 ≤ row.1.trigger.noun then pass.draw.2.tryRow ctx row
  else pass.draw.2

/-- Deal with the rows one after the other, and stop right after one that stops the game. -/
def plainScan (ctx : Context) : List NumberedRow → Pass → Pass
  | [], pass => pass
  | row :: rest, pass =>
    let after := pass.plainStep ctx row
    if after.progress.isHalted then after else plainScan ctx rest after

/-- Take back any wish to be continued. -/
def settle (pass : Pass) : Pass :=
  { pass with progress := pass.progress.settle }

@[simp]
theorem settle_settle (pass : Pass) : pass.settle.settle = pass.settle := rfl

@[simp]
theorem isHalted_progress_settle (pass : Pass) :
    pass.settle.progress.isHalted = pass.progress.isHalted := rfl

@[simp]
theorem draw_settle (pass : Pass) :
    pass.settle.draw = (pass.draw.1, pass.draw.2.settle) := rfl

@[simp]
theorem isHalted_draw (pass : Pass) :
    pass.draw.2.progress.isHalted = pass.progress.isHalted := rfl

/-! ## The plain scan ignores the wish to be continued -/

theorem tryRow_settle (ctx : Context) (row : NumberedRow) (pass : Pass) :
    (pass.settle.tryRow ctx row).settle = (pass.tryRow ctx row).settle := by
  unfold tryRow
  by_cases h : pass.progress.admits ctx row = true
  · simp [settle, h, Progress.noteTested_settle]
  · simp [settle, h, Progress.noteTested_settle]

theorem plainStep_settle (ctx : Context) (row : NumberedRow) (pass : Pass) :
    (pass.settle.plainStep ctx row).settle = (pass.plainStep ctx row).settle := by
  by_cases hverb : row.1.trigger.verb = 0
  · by_cases hnoun : row.1.trigger.noun = 0
    · simp [plainStep, hverb, hnoun, tryRow_settle]
    · by_cases hpercent : pass.draw.1 ≤ row.1.trigger.noun
      · simp [plainStep, hverb, hnoun, hpercent, tryRow_settle]
      · simp [plainStep, hverb, hnoun, hpercent]
  · simp [plainStep, hverb]

/-- Two passes that agree once settled are scanned alike. -/
theorem plainScan_congr (ctx : Context) (rows : List NumberedRow) {a b : Pass}
    (h : a.settle = b.settle) :
    (plainScan ctx rows a).settle = (plainScan ctx rows b).settle := by
  induction rows generalizing a b with
  | nil => exact h
  | cons row rest ih =>
    have hstep : (a.plainStep ctx row).settle = (b.plainStep ctx row).settle := by
      rw [← plainStep_settle, h, plainStep_settle]
    have hhalt := congrArg (fun pass => pass.progress.isHalted) hstep
    simp only [isHalted_progress_settle] at hhalt
    simp only [plainScan, hhalt]
    split_ifs
    · exact hstep
    · exact ih hstep

/-! ## Chains are stretches of the plain scan -/

/-- A row that can continue a chain is tried without a draw. -/
theorem plainStep_of_isContinuation {row : NumberedRow}
    (h : row.1.trigger.isContinuation = true) (ctx : Context) (pass : Pass) :
    pass.plainStep ctx row = pass.tryRow ctx row := by
  simp only [Trigger.isContinuation, Bool.and_eq_true, beq_iff_eq] at h
  simp [plainStep, h.1, h.2]

/-- What a chain leaves to the scan: nothing once the game has stopped, and otherwise the rows that
the chain has not taken up. -/
theorem plainScan_chain (ctx : Context) (rows : List NumberedRow) (p : Progress) (dice : Dice)
    (h : p.isHalted = false) :
    (plainScan ctx rows ⟨p, dice⟩).settle =
      if (chain ctx rows p).1.isHalted then (⟨(chain ctx rows p).1, dice⟩ : Pass).settle
      else
        (plainScan ctx (rows.drop (chain ctx rows p).2) ⟨(chain ctx rows p).1, dice⟩).settle := by
  induction rows generalizing p with
  | nil => simp [chain, plainScan, settle, h]
  | cons row rest ih =>
    by_cases hopen : (p.state.chaining && row.1.trigger.isContinuation) = true
    · have hstep := plainStep_of_isContinuation (Bool.and_eq_true_iff.1 hopen).2 ctx ⟨p, dice⟩
      by_cases hadmits : p.admits ctx row = true
      · by_cases hhalt : ((p.noteTested row).runRow ctx row).isHalted = true
        · simp [chain, plainScan, hstep, tryRow, hopen, hadmits, hhalt]
        · simp [chain, plainScan, hstep, tryRow, hopen, hadmits, hhalt, ih]
      · simp [chain, plainScan, hstep, tryRow, hopen, hadmits, h, ih]
    · -- The chain closes before this row, with nothing done but taking back the wish.
      have hsettled :=
        plainScan_congr ctx (row :: rest) (a := ⟨p, dice⟩) (b := ⟨p.settle, dice⟩) rfl
      simpa [chain, hopen, h] using hsettled

/-! ## The scan that follows chains -/

theorem gate_eq_draw (pass : Pass) (noun : Nat) :
    pass.gate noun =
      if noun = 0 then (true, pass) else (decide (pass.draw.1 ≤ noun), pass.draw.2) := by
  rfl

theorem isHalted_gate (pass : Pass) (noun : Nat) :
    (pass.gate noun).2.progress.isHalted = pass.progress.isHalted := by
  rw [gate_eq_draw]
  split_ifs
  · rfl
  · exact isHalted_draw pass

/-- A row without a verb is tried when its gate lets it through. -/
theorem plainStep_of_isAutomatic {row : NumberedRow} (h : row.1.trigger.isAutomatic = true)
    (ctx : Context) (pass : Pass) :
    pass.plainStep ctx row =
      if (pass.gate row.1.trigger.noun).1 then (pass.gate row.1.trigger.noun).2.tryRow ctx row
      else (pass.gate row.1.trigger.noun).2 := by
  have hverb : row.1.trigger.verb = 0 := by simpa [Trigger.isAutomatic] using h
  rw [gate_eq_draw]
  by_cases hnoun : row.1.trigger.noun = 0
  · simp [plainStep, hverb, hnoun]
  · simp [plainStep, hverb, hnoun]

/-- After a row that ran, following its chain and resuming the scan behind the chain comes to the
same as scanning on. -/
theorem settle_resume (ctx : Context) (rest : List NumberedRow) (after : Progress) (dice : Dice)
    (ih : ∀ (skip : Nat) (pass : Pass), pass.progress.isHalted = false →
      (scanAutomatic ctx skip rest pass).settle = (plainScan ctx (rest.drop skip) pass).settle) :
    (if after.isHalted then (⟨after, dice⟩ : Pass)
      else if after.state.chaining then
        if (chain ctx rest after).1.isHalted then ⟨(chain ctx rest after).1, dice⟩
        else scanAutomatic ctx (chain ctx rest after).2 rest ⟨(chain ctx rest after).1, dice⟩
      else scanAutomatic ctx 0 rest ⟨after, dice⟩).settle =
    (if after.isHalted then (⟨after, dice⟩ : Pass)
      else plainScan ctx rest ⟨after, dice⟩).settle := by
  by_cases hhalt : after.isHalted = true
  · simp [hhalt]
  · have hgoes : after.isHalted = false := by simpa using hhalt
    by_cases hchaining : after.state.chaining = true
    · have hchain := plainScan_chain ctx rest after dice hgoes
      by_cases hended : (chain ctx rest after).1.isHalted = true
      · simp [hgoes, hchaining, hended, hchain]
      · have hgoeson : (chain ctx rest after).1.isHalted = false := by simpa using hended
        simp [hgoes, hchaining, hgoeson, hchain, ih]
    · simp [hgoes, hchaining, ih]

/-- The scan that follows chains is the plain scan of the rows that it does not leave out. -/
theorem scanAutomatic_eq_plainScan (ctx : Context) (skip : Nat) (rows : List NumberedRow)
    (pass : Pass) (h : pass.progress.isHalted = false) :
    (scanAutomatic ctx skip rows pass).settle =
      (plainScan ctx (rows.drop skip) pass).settle := by
  induction rows generalizing skip pass with
  | nil => simp [scanAutomatic, plainScan]
  | cons row rest ih =>
    cases skip with
    | succ skip => simpa [scanAutomatic] using ih skip pass h
    | zero =>
      by_cases hauto : row.1.trigger.isAutomatic = true
      · have hstep := plainStep_of_isAutomatic hauto ctx pass
        have hdrawn := isHalted_gate pass row.1.trigger.noun
        rw [h] at hdrawn
        simp only [scanAutomatic, plainScan, List.drop_zero, hauto, if_true, hstep]
        generalize pass.gate row.1.trigger.noun = gated at hdrawn ⊢
        obtain ⟨considered, drawn⟩ := gated
        dsimp only at hdrawn ⊢
        cases considered with
        | false => simpa [hdrawn] using ih 0 drawn hdrawn
        | true =>
          by_cases hadmits : drawn.progress.admits ctx row = true
          · simp only [hadmits, if_true]
            have hresume := settle_resume ctx rest
              ((drawn.progress.noteTested row).runRow ctx row) drawn.dice ih
            simpa [tryRow, hadmits] using hresume
          · have htested := ih 0 { drawn with progress := drawn.progress.noteTested row } hdrawn
            simpa [tryRow, hadmits, hdrawn] using htested
      · have hverb : row.1.trigger.verb ≠ 0 := by simpa [Trigger.isAutomatic] using hauto
        simpa [scanAutomatic, plainScan, plainStep, hauto, hverb, h] using ih 0 pass h

/-! ## Every row at most once -/

theorem ran_tryRow (ctx : Context) (row : NumberedRow) (pass : Pass) :
    (pass.tryRow ctx row).progress.output.ran = pass.progress.output.ran ∨
      (pass.tryRow ctx row).progress.output.ran = pass.progress.output.ran ++ [row.2] := by
  by_cases hadmits : pass.progress.admits ctx row = true
  · right
    simp [tryRow, hadmits, Progress.ran_runRow]
  · left
    simp [tryRow, hadmits]

/-- Dealing with a row runs that row or none. -/
theorem ran_plainStep (ctx : Context) (row : NumberedRow) (pass : Pass) :
    (pass.plainStep ctx row).progress.output.ran = pass.progress.output.ran ∨
      (pass.plainStep ctx row).progress.output.ran = pass.progress.output.ran ++ [row.2] := by
  have hdraw : pass.draw.2.progress.output.ran = pass.progress.output.ran := by
    simp [draw, Progress.note, Progress.mapOutput, Output.ran, Output.note]
  unfold plainStep
  split_ifs
  · exact Or.inl rfl
  · exact ran_tryRow ctx row pass
  · rw [← hdraw]
    exact ran_tryRow ctx row pass.draw.2
  · exact Or.inl hdraw

/-- The plain scan runs some of its rows, each of them once and in their order. -/
theorem ran_plainScan (ctx : Context) (rows : List NumberedRow) (pass : Pass) :
    ∃ later, (plainScan ctx rows pass).progress.output.ran = pass.progress.output.ran ++ later ∧
      later.Sublist (rows.map Prod.snd) := by
  induction rows generalizing pass with
  | nil => exact ⟨[], by simp [plainScan], List.Sublist.refl _⟩
  | cons row rest ih =>
    simp only [plainScan]
    split_ifs
    · rcases ran_plainStep ctx row pass with hstep | hstep
      · exact ⟨[], by simp [hstep], by simp⟩
      · exact ⟨[row.2], hstep, by simp⟩
    · obtain ⟨later, hlater, hsub⟩ := ih (pass.plainStep ctx row)
      rcases ran_plainStep ctx row pass with hstep | hstep
      · exact ⟨later, by rw [hlater, hstep], hsub.cons _⟩
      · exact ⟨row.2 :: later, by rw [hlater, hstep, List.append_assoc, List.singleton_append],
          hsub.cons_cons _⟩

end Pass

/-- The rows of the action table are numbered in ascending order. -/
theorem World.pairwise_numberedRows (world : World) :
    (world.numberedRows.map Prod.snd).Pairwise (· < ·) := by
  rw [numberedRows, List.zipIdx_map_snd]
  exact List.pairwise_lt_range'

/-- The automatic pass is the plain scan: it leaves the same state, output and dice, and ends in the
same phase.  The output includes the journal, which names every draw, test and run, so that no draw
is added or dropped and no row is lost where a chain begins or ends.  The rows that run are
ascending, so that none runs twice. -/
theorem automaticPass_eq_plainScan (ctx : Context) {pass : Pass}
    (h : pass.progress.isHalted = false) :
    (automaticPass ctx .idle pass =
      let after := (Pass.plainScan ctx ctx.world.numberedRows pass).settle
      (.ofOutput after.progress.output, after)) ∧
    ∃ later, (automaticPass ctx .idle pass).2.progress.output.ran =
        pass.progress.output.ran ++ later ∧ later.Pairwise (· < ·) := by
  have hscan := Pass.scanAutomatic_eq_plainScan ctx 0 ctx.world.numberedRows pass h
  simp only [List.drop_zero] at hscan
  have hpass : automaticPass ctx .idle pass =
      (let after := (Pass.plainScan ctx ctx.world.numberedRows pass).settle
      (.ofOutput after.progress.output, after)) := by
    rw [← hscan]
    rfl
  obtain ⟨later, hran, hsub⟩ := Pass.ran_plainScan ctx ctx.world.numberedRows pass
  refine ⟨hpass, later, ?_, ctx.world.pairwise_numberedRows.sublist hsub⟩
  rw [hpass]
  exact hran

/-- A table whose first row asks to be continued by the second.  The third has a percentage, the
fourth a verb.  The fifth asks to be continued, the sixth fails its conditions, and the seventh
stops the game before the eighth can run. -/
def relayTable : List Row := [
  ⟨0, #v[0, 0, 0, 0, 0], #v[223, 0]⟩, ⟨0, #v[0, 0, 0, 0, 0], #v[2, 0]⟩,
  ⟨100, #v[0, 0, 0, 0, 0], #v[3, 0]⟩, ⟨753, #v[0, 0, 0, 0, 0], #v[3, 0]⟩,
  ⟨0, #v[0, 0, 0, 0, 0], #v[73, 0]⟩, ⟨0, #v[28, 0, 0, 0, 0], #v[1, 0]⟩,
  ⟨0, #v[0, 0, 0, 0, 0], #v[9450, 0]⟩, ⟨0, #v[0, 0, 0, 0, 0], #v[1, 0]⟩]

theorem automaticPass_eq_plainScan_relay :
    let ctx : Context :=
      { world := { rows := relayTable, messages := ["", "One.", "Two.", "Three."] }
        settings := {} }
    let pass : Pass := ⟨⟨State.initial ctx.world, {}⟩, Dice.ofSeed 5⟩
    pass.progress.isHalted = false ∧
      (automaticPass ctx .idle pass).2.progress.output.ran = [0, 1, 2, 4, 6] ∧
      automaticPass ctx .idle pass =
        (let after := (Pass.plainScan ctx ctx.world.numberedRows pass).settle
        (.ofOutput after.progress.output, after)) := by
  intro ctx pass
  have hgoes : pass.progress.isHalted = false := rfl
  exact ⟨hgoes, by decide +kernel, (automaticPass_eq_plainScan ctx hgoes).1⟩

end TextAdventure
