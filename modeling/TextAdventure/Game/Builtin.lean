import TextAdventure.ActionTable.Pass
import TextAdventure.Game.Order

/-!
# Built-in orders

What the interpreter does by itself: it moves the player through exits, picks items up and puts them
down when no row answers to the words, and reports on the inventory, the room and the score.

Main results:

- Definitions `Builtin.go`: a move, which can be fatal in the dark.
- Definitions `Builtin.get` and `Builtin.drop`: the item that a noun names.
- Definition `Builtin.answer`: the answer to a line that nothing else answers.
-/

namespace TextAdventure.Builtin

open Text

/-! ## Answers -/

/-- The answer to a line that means nothing. -/
def notUnderstood : String := "I don't understand your command."

/-- The answer when rows answer to the words but the conditions of none hold. -/
def notYet : String := "I can't do that yet."

/-- The answer to a move without an exit. -/
def noExit : String := "I can't go that way."

/-- What happens on a fatal move in the dark. -/
def darkFall : String := "I fell down and broke my neck."

/-- Inventory, look and score, for a line that nothing else answers. -/
def answer (ctx : Context) (input : String) (p : Progress) : Progress :=
  let first := upper ((words input).head?.getD "")
  if first = "I" ∨ first = "INV" ∨ first = "INVENTORY" then
    p.lines (Narration.inventory ctx.world p.state)
  else if first = "LOOK" then p.mapOutput Output.look
  else if first = "SCORE" then p.lines (Narration.score ctx.world p.state)
  else p.line notUnderstood

/-! ## Items -/

/-- The last word of a description without asterisks. -/
def lastWord? (description : String) : Option String :=
  (words (String.ofList (description.toList.filter (· != '*')))).getLast?

/-- The word an item answers to: its own, or else the last one of its description. -/
def itemWord? (world : World) (item : Nat) : Option String :=
  match world.items[item]? with
  | none => none
  | some i => (i.word?.or (lastWord? i.description)).map fun word =>
      truncate world.header.wordLength (upper word)

/-- The lowest item from 1 on that is at a location and answers to a noun. -/
def findItem? (world : World) (s : State) (noun : String) (location : Nat) : Option Nat :=
  let wanted := truncate world.header.wordLength (upper noun)
  (List.range world.items.length).find? fun item =>
    item != 0 && s.location? item == some location && itemWord? world item == some wanted

/-- Pick up the item that a noun names. -/
def get (ctx : Context) (noun : String) (p : Progress) : Progress :=
  match findItem? ctx.world p.state noun p.state.room with
  | none => p.line "I don't see that here."
  | some item =>
    if ctx.world.header.carryLimit ≤ p.state.carriedCount then p.line "I've too much to carry!"
    else (p.mapState (·.moveItem item carried)).line "O.K."

/-- Put down the item that a noun names. -/
def drop (ctx : Context) (noun : String) (p : Progress) : Progress :=
  match findItem? ctx.world p.state noun carried with
  | none => p.line "I don't have that."
  | some item => (p.mapState fun s => s.moveItem item s.room).line "O.K."

/-! ## Moves -/

/-- Take an exit of the player's room. -/
def walk (ctx : Context) (d : Direction) (p : Progress) : Progress :=
  match (ctx.world.rooms[p.state.room]?).map (·.exit d) with
  | none | some 0 => p.line noExit
  | some room => p.goTo room

/-- A fatal move, after which the player is in the last room. -/
def fall (ctx : Context) (p : Progress) : Progress :=
  (p.line darkFall).goTo ctx.world.header.lastRoom

/-- Move the player.  In the dark, a percentage decides whether the move is fatal. -/
def go (ctx : Context) (d : Direction) (pass : Pass) : Pass :=
  if pass.progress.state.isDark ctx.settings.lamp then
    let (percent, dice) := pass.dice.percent
    let p := pass.progress.note (.drew percent)
    if percent ≤ ctx.settings.fallChance then ⟨fall ctx p, dice⟩ else ⟨walk ctx d p, dice⟩
  else { pass with progress := walk ctx d pass.progress }

end TextAdventure.Builtin
