import TextAdventure.Game.Builtin
import TextAdventure.Game.Light

/-!
# Sessions

A game in progress.  A turn reads a line of the player, moves the player or matches the words
against the action table, falls back on the built-in orders, burns a turn of light and ends with an
automatic pass.

Main results:

- Structure `Session` and definition `Session.new`.
- Definitions `Session.start` and `Session.turn`: the opening and a turn.
- Theorem `Session.turn_of_halted`: a game that has stopped answers no more.
-/

namespace TextAdventure

/-- A game in progress. -/
structure Session where
  world : World
  settings : Settings
  state : State
  dice : Dice
  halted : Option Halt := none
deriving Repr, DecidableEq

/-! ## Looking -/

/-- Describe the room if this is still to be done. -/
def Progress.flushLook (p : Progress) (ctx : Context) : Progress :=
  if p.output.lookPending then
    let p := p.note (.looked p.state.settled)
    (p.mapOutput fun out => { out with lookPending := false }).lines
      (Narration.describeRoom ctx.world p.state ctx.settings.lamp)
  else p

/-- Describe the room if this is still to be done. -/
def Pass.flushLook (pass : Pass) (ctx : Context) : Pass :=
  { pass with progress := pass.progress.flushLook ctx }

/-- No look is pending once the room has been described. -/
@[simp]
theorem Progress.lookPending_flushLook (p : Progress) (ctx : Context) :
    (p.flushLook ctx).output.lookPending = false := by
  unfold flushLook
  split
  · rfl
  · rename_i hlook
    simpa using hlook

namespace Session

/-- A new game in a world. -/
def new (world : World) (settings : Settings) (dice : Dice) : Session :=
  { world, settings, dice, state := State.initial world }

/-- What the automatic rows can read. -/
def context (s : Session) : Context :=
  { world := s.world, settings := s.settings }

/-- What the rows that answer to an order can read. -/
def contextOf (s : Session) (order : Order) : Context :=
  { world := s.world, settings := s.settings, noun? := order.noun? }

/-- The report on the player's room. -/
def describeRoom (s : Session) : List String :=
  Narration.describeRoom s.world s.state s.settings.lamp

/-- The beginning of a turn. -/
def opening (s : Session) : Pass :=
  ⟨⟨s.state, {}⟩, s.dice⟩

/-! ## The player's part of a turn -/

/-- What is done about an order to which no row answers. -/
def unanswered (s : Session) (order : Order) (input : String) (p : Progress) : Progress :=
  match order.noun? with
  | some noun =>
    if order.verb = s.settings.getVerb then Builtin.get s.context noun p
    else if order.verb = s.settings.dropVerb then Builtin.drop s.context noun p
    else Builtin.answer s.context input p
  | none => Builtin.answer s.context input p

/-- Match an order against the action table, and fall back on the built-in orders. -/
def consult (s : Session) (order : Order) (input : String) (p : Progress) : Progress :=
  match playerPass (s.contextOf order) order.verb order.noun .idle p with
  | (.executed, _, p) => p
  | (.conditionsFailed, _, p) => p.line Builtin.notYet
  | (.noMatch, _, p) => s.unanswered order input p

/-- Carry out an order. -/
def obey (s : Session) (order : Order) (input : String) (pass : Pass) : Pass :=
  match order.direction? s.settings with
  | some d => Builtin.go s.context d pass
  | none => { pass with progress := s.consult order input pass.progress }

/-- Carry out the player's line. -/
def playerPhase (s : Session) (input : String) (pass : Pass) : Pass :=
  match Order.ofLine? s.world s.settings input with
  | some order => s.obey order input pass
  | none => { pass with progress := Builtin.answer s.context input pass.progress }

/-! ## The world's part of a turn -/

/-- The automatic pass, and the look it may have asked for. -/
def automaticPhase (s : Session) (pass : Pass) : Pass :=
  (automaticPass s.context .idle pass).2.flushLook s.context

/-- The part of a turn that follows the player's: the light burns, and the automatic rows run. -/
def worldPhase (s : Session) (pass : Pass) : Pass :=
  s.automaticPhase { pass with progress := pass.progress.burn s.settings }

/-! ## Turns -/

/-- The session after a turn, with the output of the turn. -/
def finish (s : Session) (pass : Pass) : Session × Output :=
  let p := pass.progress.flushLook s.context
  ({ s with state := p.state, dice := pass.dice, halted := p.output.halted.or s.halted }, p.output)

/-- The opening of a game: an automatic pass, and a look unless it stops the game. -/
def start (s : Session) : Session × Output :=
  let pass := s.automaticPhase s.opening
  if pass.progress.isHalted then s.finish pass
  else s.finish { pass with progress := pass.progress.mapOutput Output.look }

/-- A turn of a game that goes on. -/
def play (s : Session) (input : String) : Session × Output :=
  let pass := (s.playerPhase input s.opening).flushLook s.context
  if pass.progress.isHalted then s.finish pass else s.finish (s.worldPhase pass)

/-- A turn: one line of the player.  A game that has stopped answers no more. -/
def turn (s : Session) (input : String) : Session × Output :=
  match s.halted with
  | some reason => (s, { halted := some reason })
  | none => s.play input

/-- A game that has stopped answers no more. -/
theorem turn_of_halted {s : Session} {reason : Halt} (h : s.halted = some reason)
    (input : String) : s.turn input = (s, { halted := some reason }) := by
  simp [turn, h]

/-- A game that has not stopped goes on. -/
theorem turn_of_not_halted {s : Session} (h : s.halted = none) (input : String) :
    s.turn input = s.play input := by
  simp [turn, h]

/-- A turn leaves no look pending. -/
theorem lookPending_finish (s : Session) (pass : Pass) :
    (s.finish pass).2.lookPending = false := by
  simp [finish]

end Session

end TextAdventure
