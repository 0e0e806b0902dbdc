import TextAdventure.Proofs.RowRuns

/-!
# Passes in lockstep

Two passes over the same action table can be followed side by side.  Suppose that what they have in
common is kept whenever both take the same step, and that it includes the state and whether the game
has stopped.  Then both passes admit the same rows, follow the same chains and draw the same
percentages, so that they have it in common to the end.

A condition on the progress of a single pass is the case of two passes that are the same.

Main results:

- Structure `Progress.Lockstep`: what two passes have in common is kept by single steps.
- Theorems `Progress.Lockstep.automaticPass` and `Progress.Lockstep.playerPass`: it is kept by the
  two passes, which choose the same rows.
- Structure `Progress.Kept`, with the same two theorems: a condition on a single pass.
-/

namespace TextAdventure

/-! ## Two passes -/

/-- What two passes have in common, in contexts that share their world, is kept by the steps that
the action table calls for, and it includes the state and whether the game has stopped. -/
structure Progress.Lockstep (ctx ctx' : Context) (R : Progress → Progress → Prop) : Prop where
  world_eq : ctx'.world = ctx.world
  state_eq : ∀ {p q}, R p q → q.state = p.state
  isHalted_eq : ∀ {p q}, R p q → q.isHalted = p.isHalted
  settle : ∀ {p q}, R p q → R p.settle q.settle
  tested : ∀ {p q row}, row ∈ ctx.world.numberedRows → R p q →
    R (p.noteTested row) (q.noteTested row)
  ran : ∀ {p q row}, row ∈ ctx.world.numberedRows → R p q →
    R (p.note (.ran row.2 p.state.settled)) (q.note (.ran row.2 q.state.settled))
  executed : ∀ {p q row c o}, row ∈ ctx.world.numberedRows → (c, o) ∈ row.1.program → R p q →
    R (Command.execute ctx c o (p.note (.executed c o p.state.settled)))
      (Command.execute ctx' c o (q.note (.executed c o q.state.settled)))

/-- Two passes have the same dice, and something else in common. -/
def Pass.Agree (R : Progress → Progress → Prop) (a b : Pass) : Prop :=
  b.dice = a.dice ∧ R a.progress b.progress

namespace Progress.Lockstep

variable {ctx ctx' : Context} {R : Progress → Progress → Prop} {p q : Progress}

/-- Both passes admit the same rows. -/
theorem admits_eq (h : Lockstep ctx ctx' R) (hpq : R p q) (row : NumberedRow) :
    q.admits ctx' row = p.admits ctx row := by
  unfold admits
  rw [h.world_eq, h.state_eq hpq]

theorem executeAll (h : Lockstep ctx ctx' R) {row : NumberedRow}
    (hrow : row ∈ ctx.world.numberedRows) {cs : List (Command × Operands)}
    (hcs : cs ⊆ row.1.program) (hpq : R p q) :
    R (Command.executeAll ctx cs p) (Command.executeAll ctx' cs q) := by
  induction cs generalizing p q with
  | nil => exact hpq
  | cons entry rest ih =>
    obtain ⟨c, o⟩ := entry
    obtain ⟨hentry, hrest⟩ := List.cons_subset.1 hcs
    have hstep := h.executed hrow hentry hpq
    simp only [Command.executeAll, h.isHalted_eq hstep]
    split_ifs
    · exact hstep
    · exact ih hrest hstep

theorem runRow (h : Lockstep ctx ctx' R) {row : NumberedRow} (hrow : row ∈ ctx.world.numberedRows)
    (hpq : R p q) : R (p.runRow ctx row) (q.runRow ctx' row) :=
  h.executeAll hrow (List.Subset.refl _) (h.ran hrow (h.settle hpq))

/-- Both passes follow a chain through the same rows. -/
theorem chain (h : Lockstep ctx ctx' R) {rows : List NumberedRow}
    (hrows : rows ⊆ ctx.world.numberedRows) (hpq : R p q) :
    R (TextAdventure.chain ctx rows p).1 (TextAdventure.chain ctx' rows q).1 ∧
      (TextAdventure.chain ctx' rows q).2 = (TextAdventure.chain ctx rows p).2 := by
  induction rows generalizing p q with
  | nil => exact ⟨h.settle hpq, rfl⟩
  | cons row rest ih =>
    obtain ⟨hrow, hrest⟩ := List.cons_subset.1 hrows
    have htested := h.tested hrow hpq
    have hran := h.runRow hrow htested
    have hchained := ih hrest hran
    have hskipped := ih hrest htested
    simp only [TextAdventure.chain, h.state_eq hpq, h.admits_eq hpq, h.isHalted_eq hran]
    split_ifs
    · exact ⟨hran, rfl⟩
    · exact ⟨hchained.1, congrArg (· + 1) hchained.2⟩
    · exact ⟨hskipped.1, congrArg (· + 1) hskipped.2⟩
    · exact ⟨h.settle hpq, rfl⟩

/-! ### The player pass -/

theorem scanPlayer (h : Lockstep ctx ctx' R) (verb noun : Nat) (sofar : Match)
    {rows : List NumberedRow} (hrows : rows ⊆ ctx.world.numberedRows) (hpq : R p q) :
    (TextAdventure.scanPlayer ctx' verb noun sofar rows q).1 =
        (TextAdventure.scanPlayer ctx verb noun sofar rows p).1 ∧
      R (TextAdventure.scanPlayer ctx verb noun sofar rows p).2
        (TextAdventure.scanPlayer ctx' verb noun sofar rows q).2 := by
  induction rows generalizing sofar p q with
  | nil => exact ⟨rfl, hpq⟩
  | cons row rest ih =>
    obtain ⟨hrow, hrest⟩ := List.cons_subset.1 hrows
    have htested := h.tested hrow hpq
    have hran := h.runRow hrow htested
    simp only [TextAdventure.scanPlayer, h.admits_eq hpq, h.isHalted_eq hran, h.state_eq hran]
    split_ifs
    · exact ⟨rfl, (h.chain hrest hran).1⟩
    · exact ⟨rfl, hran⟩
    · exact ih .conditionsFailed hrest htested
    · exact ih sofar hrest hpq

/-- Both player passes end with the same match. -/
theorem playerPass (h : Lockstep ctx ctx' R) (verb noun : Nat) (phase : Phase) (hpq : R p q) :
    (TextAdventure.playerPass ctx' verb noun phase q).1 =
        (TextAdventure.playerPass ctx verb noun phase p).1 ∧
      R (TextAdventure.playerPass ctx verb noun phase p).2.2
        (TextAdventure.playerPass ctx' verb noun phase q).2.2 := by
  cases phase with
  | halted reason => exact ⟨rfl, hpq⟩
  | idle =>
    have hscan := h.scanPlayer verb noun .noMatch (List.Subset.refl _) hpq
    simp only [TextAdventure.playerPass, h.world_eq]
    exact ⟨hscan.1, h.settle hscan.2⟩

/-! ### The automatic pass -/

section Draws

variable {a b : Pass}
  (hdrew : ∀ {p q percent}, R p q → R (p.note (.drew percent)) (q.note (.drew percent)))

include hdrew

/-- Both passes draw the same percentage. -/
theorem gate (hab : a.Agree R b) (noun : Nat) :
    (b.gate noun).1 = (a.gate noun).1 ∧ (a.gate noun).2.Agree R (b.gate noun).2 := by
  obtain ⟨hdice, hprogress⟩ := hab
  unfold Pass.gate
  rw [hdice]
  split_ifs
  · exact ⟨rfl, hdice, hprogress⟩
  · exact ⟨rfl, rfl, hdrew hprogress⟩

theorem scanAutomatic (h : Lockstep ctx ctx' R) (skip : Nat) {rows : List NumberedRow}
    (hrows : rows ⊆ ctx.world.numberedRows) (hab : a.Agree R b) :
    (a.scanAutomatic ctx skip rows).Agree R (b.scanAutomatic ctx' skip rows) := by
  induction rows generalizing skip a b with
  | nil =>
    cases skip with
    | zero => exact hab
    | succ skip => exact hab
  | cons row rest ih =>
    obtain ⟨hrow, hrest⟩ := List.cons_subset.1 hrows
    cases skip with
    | succ skip => exact ih skip hrest hab
    | zero =>
      have hgate := gate hdrew hab row.1.trigger.noun
      simp only [Pass.scanAutomatic]
      generalize a.gate row.1.trigger.noun = gated at hgate ⊢
      generalize b.gate row.1.trigger.noun = gated' at hgate ⊢
      obtain ⟨considered, drawn⟩ := gated
      obtain ⟨considered', drawn'⟩ := gated'
      obtain ⟨hconsidered, hdrawn⟩ := hgate
      dsimp only at hconsidered hdrawn ⊢
      subst hconsidered
      obtain ⟨hdice, hprogress⟩ := hdrawn
      have htested := h.tested hrow hprogress
      have hran := h.runRow hrow htested
      have hchained := h.chain hrest hran
      -- Both passes take the same way out of the row.
      simp only [h.admits_eq hprogress, h.isHalted_eq hran, h.state_eq hran,
        h.isHalted_eq hchained.1, hchained.2]
      split_ifs
      · exact ⟨hdice, hran⟩
      · exact ⟨hdice, hchained.1⟩
      · exact ih _ hrest ⟨hdice, hchained.1⟩
      · exact ih 0 hrest ⟨hdice, hran⟩
      · exact ih 0 hrest ⟨hdice, htested⟩
      · exact ih 0 hrest ⟨hdice, hprogress⟩
      · exact ih 0 hrest hab

/-- Both automatic passes end with the same dice. -/
theorem automaticPass (h : Lockstep ctx ctx' R) (phase : Phase) (hab : a.Agree R b) :
    (TextAdventure.automaticPass ctx phase a).2.Agree R
      (TextAdventure.automaticPass ctx' phase b).2 := by
  cases phase with
  | halted reason => exact hab
  | idle =>
    have hscan := h.scanAutomatic hdrew 0 (List.Subset.refl _) hab
    simp only [TextAdventure.automaticPass, h.world_eq]
    exact ⟨hscan.1, h.settle hscan.2⟩

end Draws

end Progress.Lockstep

/-! ## One pass -/

/-- A condition on the progress of a pass is kept by the steps that the action table calls for. -/
structure Progress.Kept (ctx : Context) (P : Progress → Prop) : Prop where
  settle : ∀ {p}, P p → P p.settle
  tested : ∀ {p row}, row ∈ ctx.world.numberedRows → P p → P (p.noteTested row)
  ran : ∀ {p row}, row ∈ ctx.world.numberedRows → P p → P (p.note (.ran row.2 p.state.settled))
  executed : ∀ {p row c o}, row ∈ ctx.world.numberedRows → (c, o) ∈ row.1.program → P p →
    P (Command.execute ctx c o (p.note (.executed c o p.state.settled)))

namespace Progress.Kept

variable {ctx : Context} {P : Progress → Prop} {p : Progress}

/-- A pass is in lockstep with itself. -/
theorem lockstep (h : Kept ctx P) : Lockstep ctx ctx fun p q => q = p ∧ P p where
  world_eq := rfl
  state_eq := fun ⟨heq, _⟩ => congrArg Progress.state heq
  isHalted_eq := fun ⟨heq, _⟩ => congrArg Progress.isHalted heq
  settle := by
    rintro p q ⟨rfl, hp⟩
    exact ⟨rfl, h.settle hp⟩
  tested := by
    rintro p q row hrow ⟨rfl, hp⟩
    exact ⟨rfl, h.tested hrow hp⟩
  ran := by
    rintro p q row hrow ⟨rfl, hp⟩
    exact ⟨rfl, h.ran hrow hp⟩
  executed := by
    rintro p q row c o hrow hentry ⟨rfl, hp⟩
    exact ⟨rfl, h.executed hrow hentry hp⟩

theorem runRow (h : Kept ctx P) {row : NumberedRow} (hrow : row ∈ ctx.world.numberedRows)
    (hp : P p) : P (p.runRow ctx row) :=
  (h.lockstep.runRow hrow ⟨rfl, hp⟩).2

/-- The player pass keeps the condition. -/
theorem playerPass (h : Kept ctx P) (verb noun : Nat) (phase : Phase) (hp : P p) :
    P (TextAdventure.playerPass ctx verb noun phase p).2.2 :=
  (h.lockstep.playerPass verb noun phase ⟨rfl, hp⟩).2.2

/-- The automatic pass keeps the condition, if draws do. -/
theorem automaticPass (h : Kept ctx P) (hdrew : ∀ {p percent}, P p → P (p.note (.drew percent)))
    (phase : Phase) {pass : Pass} (hp : P pass.progress) :
    P (TextAdventure.automaticPass ctx phase pass).2.progress := by
  refine (h.lockstep.automaticPass (a := pass) (b := pass) ?_ phase ⟨rfl, rfl, hp⟩).2.2
  rintro p q percent ⟨rfl, hp⟩
  exact ⟨rfl, hdrew hp⟩

end Progress.Kept

end TextAdventure
