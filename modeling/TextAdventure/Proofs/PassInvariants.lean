import TextAdventure.Game.Session
import TextAdventure.Proofs.Lockstep

/-!
# What passes and answers keep

A pass over the action table records steps, takes back wishes to be continued, and otherwise only
executes commands.  A condition that these three keep is therefore kept by the pass, however its
rows are chosen and chained, and whatever rows there are.  The player's part of a turn is such a
pass followed by an answer, or a move, so that a condition that passes, answers and moves keep is
kept by it.

One such condition is that a game does not stop in silence: the one command that stops it prints a
line first, and nothing that has been printed is taken back.

Main results:

- Structure `Progress.Invariant`: a condition that single steps keep.
- Theorems `Progress.Invariant.automaticPass` and `Progress.Invariant.playerPass`: the two passes
  keep it.
- Structure `Session.KeptByAnswers` and theorem `Session.KeptByAnswers.playerPhase`: a condition
  that passes, answers and moves keep is kept by the player's part of a turn.
- Theorem `Progress.invariant_told`: a game that has stopped has printed something.
-/

namespace TextAdventure

/-! ## Conditions on the progress of a turn -/

/-- A condition on the progress of a turn that is kept when a step is recorded, when a wish to be
continued is taken back, and when a command is executed. -/
structure Progress.Invariant (ctx : Context) (P : Progress → Prop) : Prop where
  note : ∀ p entry, P p → P (p.note entry)
  settle : ∀ p, P p → P p.settle
  execute : ∀ c o p, P p → P (Command.execute ctx c o p)

namespace Progress.Invariant

variable {ctx : Context} {P : Progress → Prop}

/-- What single steps keep is kept by the steps that the action table calls for. -/
theorem kept (h : Invariant ctx P) : Kept ctx P where
  settle := h.settle _
  tested _ := h.note _ _
  ran _ := h.note _ _
  executed _ _ hp := h.execute _ _ _ (h.note _ _ hp)

/-- The automatic pass keeps the condition. -/
theorem automaticPass (h : Invariant ctx P) (phase : Phase) {pass : Pass} (hp : P pass.progress) :
    P (TextAdventure.automaticPass ctx phase pass).2.progress :=
  h.kept.automaticPass (h.note _ _) phase hp

/-- The player pass keeps the condition. -/
theorem playerPass (h : Invariant ctx P) (verb noun : Nat) (phase : Phase) {p : Progress}
    (hp : P p) : P (TextAdventure.playerPass ctx verb noun phase p).2.2 :=
  h.kept.playerPass verb noun phase hp

end Progress.Invariant

/-! ## Built-in orders -/

namespace Builtin

variable (ctx : Context) (p : Progress)

theorem journal_answer (input : String) :
    (answer ctx input p).output.journal = p.output.journal := by
  unfold answer
  dsimp only
  split_ifs <;> rfl

theorem journal_get (noun : String) : (get ctx noun p).output.journal = p.output.journal := by
  unfold get
  split
  · rfl
  · split_ifs <;> rfl

theorem journal_drop (noun : String) : (drop ctx noun p).output.journal = p.output.journal := by
  unfold drop
  split <;> rfl

theorem journal_walk (d : Direction) : (walk ctx d p).output.journal = p.output.journal := by
  unfold walk
  split <;> rfl

end Builtin

/-! ## The player's part of a turn -/

namespace Session

/-- A condition on the progress of a turn that is kept where an order is answered without a row of
the action table. -/
structure KeptByAnswers (s : Session) (P : Progress → Prop) : Prop where
  notYet : ∀ {p : Progress}, P p → P (p.line Builtin.notYet)
  answer : ∀ (input : String) {p : Progress}, P p → P (Builtin.answer s.context input p)
  get : ∀ (noun : String) {p : Progress}, P p → P (Builtin.get s.context noun p)
  drop : ∀ (noun : String) {p : Progress}, P p → P (Builtin.drop s.context noun p)

/-- Answers leave the journal alone. -/
theorem keptByAnswers_of_journal (s : Session) {P : Progress → Prop}
    (hP : ∀ {p q : Progress}, q.output.journal = p.output.journal → P p → P q) :
    s.KeptByAnswers P where
  notYet {p} h := hP (p := p) rfl h
  answer input p h := hP (Builtin.journal_answer s.context p input) h
  get noun p h := hP (Builtin.journal_get s.context p noun) h
  drop noun p h := hP (Builtin.journal_drop s.context p noun) h

namespace KeptByAnswers

variable {s : Session} {P : Progress → Prop} {p : Progress}

theorem unanswered (h : s.KeptByAnswers P) (order : Order) (input : String) (hp : P p) :
    P (s.unanswered order input p) := by
  unfold Session.unanswered
  split
  · split_ifs
    · exact h.get _ hp
    · exact h.drop _ hp
    · exact h.answer input hp
  · exact h.answer input hp

/-- What holds after the pass of the player holds once the order has been answered. -/
theorem consult (h : s.KeptByAnswers P) {order : Order} (input : String)
    (hpass : P (playerPass (s.contextOf order) order.verb order.noun .idle p).2.2) :
    P (s.consult order input p) := by
  unfold Session.consult
  generalize playerPass (s.contextOf order) order.verb order.noun .idle p = done at hpass ⊢
  obtain ⟨found, phase, p'⟩ := done
  cases found with
  | executed => exact hpass
  | conditionsFailed => exact h.notYet hpass
  | noMatch => exact h.unanswered order input hpass

/-- The player's part of a turn keeps the condition, if passes and moves do. -/
theorem playerPhase (h : s.KeptByAnswers P) (input : String) {pass : Pass} (hp : P pass.progress)
    (hpass : ∀ order : Order,
      P (playerPass (s.contextOf order) order.verb order.noun .idle pass.progress).2.2)
    (hgo : ∀ d, P (Builtin.go s.context d pass).progress) :
    P (s.playerPhase input pass).progress := by
  unfold Session.playerPhase
  cases Order.ofLine? s.world s.settings input with
  | none =>
    dsimp only
    exact h.answer input hp
  | some order =>
    dsimp only
    unfold obey
    cases order.direction? s.settings with
    | some d => exact hgo d
    | none => exact h.consult input (hpass order)

end KeptByAnswers

end Session

/-! ## A game that stops says so -/

namespace Command

variable (ctx : Context) (o : Operands) (p : Progress)

/-- Commands add to what has been printed. -/
theorem events_apply (c : Command) : p.output.events <+: (c.apply ctx o p).output.events := by
  cases c with
  | message n =>
    simp only [apply]
    split <;> simp [Progress.line]
  | get =>
    simp only [apply]
    split_ifs <;> simp [Progress.line]
  | drop =>
    simp only [apply]
    split_ifs <;> simp [Progress.line]
  | _ =>
    simp [apply, Progress.line, Progress.lines, Progress.emit, Progress.goTo, Output.look,
      Output.halt]

/-- One command alone stops the game. -/
theorem halted_apply {c : Command} (hc : c ≠ finish) :
    (c.apply ctx o p).output.halted = p.output.halted := by
  cases c with
  | finish => contradiction
  | message n =>
    simp only [apply]
    split <;> simp [Progress.line, Output.line]
  | get =>
    simp only [apply]
    split_ifs <;> simp [Progress.line, Output.line]
  | drop =>
    simp only [apply]
    split_ifs <;> simp [Progress.line, Output.line]
  | _ =>
    simp [apply, Progress.line, Progress.lines, Progress.emit, Progress.goTo, Output.look,
      Output.line]

end Command

/-- If the game has stopped, something has been printed. -/
def Progress.Told (p : Progress) : Prop :=
  p.isHalted = true → p.output.events ≠ []

/-- No command stops the game in silence. -/
theorem Command.told_apply (ctx : Context) (c : Command) (o : Operands) {p : Progress}
    (h : p.Told) : (c.apply ctx o p).Told := by
  by_cases hc : c = finish
  · rw [hc]
    intro _
    simp [apply, Progress.line, Output.halt]
  · intro hhalted hsilent
    have hbefore : p.isHalted = true := by
      simpa [Progress.isHalted, Output.isHalted, halted_apply ctx o p hc] using hhalted
    have hprefix := events_apply ctx o p c
    rw [hsilent, List.prefix_nil] at hprefix
    exact h hbefore hprefix

/-- A game does not stop in silence. -/
theorem Progress.invariant_told (ctx : Context) : Progress.Invariant ctx Progress.Told where
  note _ _ h := h
  settle _ h := h
  execute c o p h := Command.execute_cases ctx c o p h fun _ => Command.told_apply ctx c o h

end TextAdventure
