/-!
# Settings

What a player can set about the interpreter, with the defaults of the classic games.

Main results:

- Structure `Settings`: the nine settings.
-/

namespace TextAdventure

/-- The settings of the interpreter. -/
structure Settings where
  /-- The number of the light source. -/
  lamp : Nat := 9
  /-- The light source goes to the storeroom when it runs out. -/
  destroyLamp : Bool := true
  /-- The player is warned once this many turns of light remain. -/
  lightWarning : Int := 10
  /-- How many times out of a hundred a move in the dark is fatal. -/
  fallChance : Nat := 25
  /-- How long a pause lasts, in milliseconds. -/
  delayMillis : Nat := 500
  /-- The verb that moves the player. -/
  goVerb : Nat := 1
  /-- The verb that picks an item up. -/
  getVerb : Nat := 10
  /-- The verb that puts an item down. -/
  dropVerb : Nat := 18
  /-- The file that a game is saved to. -/
  saveFile : String := "adventure.sav"
deriving Repr, DecidableEq, Inhabited

end TextAdventure
