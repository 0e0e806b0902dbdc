import TextAdventure.ActionTable.Execution

/-!
# Light

The light source burns for one turn at a time while the player holds it.

Main results:

- Definition `Progress.burn`: one turn of light.
- Theorem `burn_of_not_burning`: a light source that is out, or not held, does not burn.
-/

namespace TextAdventure

/-- The light source burns: the player holds it, and it has not run out. -/
def State.burns (s : State) (lamp : Nat) : Bool :=
  s.isCarried lamp && !s.flags.get Flags.lightOut

namespace Progress

/-- The light runs out, and by default the light source leaves the game. -/
def lightRunsOut (p : Progress) (settings : Settings) : Progress :=
  let p := (p.mapState (·.setFlag Flags.lightOut true)).line "Light has run out!"
  if settings.destroyLamp then p.mapState (·.moveItem settings.lamp storeroom) else p

/-- A turn of light is used up, with a warning when few remain. -/
def lightBurns (p : Progress) (settings : Settings) : Progress :=
  let remaining := p.state.light - 1
  let p := p.mapState (·.setLight remaining)
  if remaining ≤ settings.lightWarning then p.line s!"Light runs out in {remaining} turns!" else p

/-- Burn one turn of light.  The light runs out on the first turn that finds none left. -/
def burn (p : Progress) (settings : Settings) : Progress :=
  if p.state.burns settings.lamp then
    if p.state.light ≤ 0 then p.lightRunsOut settings
    else (p.note (.burned p.state.settled)).lightBurns settings
  else p

/-- A light source that is out, or not held, does not burn. -/
theorem burn_of_not_burning {p : Progress} {settings : Settings}
    (h : p.state.burns settings.lamp = false) : p.burn settings = p := by
  simp [burn, h]

end Progress

end TextAdventure
