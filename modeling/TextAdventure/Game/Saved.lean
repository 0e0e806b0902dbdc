import TextAdventure.Game.SaveFile
import TextAdventure.Game.Session

/-!
# Saved games

A session can be saved as text, and can go on from a saved state that fits its world.

Main results:

- Definition `Session.misfit?`: the first part of a state that does not fit a world.
- Definitions `Session.save`, `Session.restore`, `Session.load` and `Session.loadBytes`.
- Theorem `Session.restore_eq_ok`: a state that fits is taken over as it is, once settled.
-/

namespace TextAdventure.Session

/-- The text of the saved game. -/
def save (s : Session) : String :=
  SaveFile.render s.state s.world.header.adventure

/-- The first alternate room that the world does not have. -/
def misfitRoom? (world : World) (st : State) : Option SaveError :=
  st.altRooms.toList.zipIdx.findSome? fun (room, number) =>
    if room > world.header.lastRoom then
      some (.invalidValue (SaveFile.key "alt_room" number) (toString room))
    else none

/-- The first item at a location that the world does not have. -/
def misfitItem? (world : World) (st : State) : Option SaveError :=
  st.locations.zipIdx.findSome? fun (location, number) =>
    if world.isLocation location then none
    else some (.invalidValue (SaveFile.key "item" number) (toString location))

/-- The first part of a state that does not fit the world: the number of items, the room, an
alternate room, or the location of an item. -/
def misfit? (world : World) (st : State) : Option SaveError :=
  if st.locations.length ≠ world.items.length then
    some (.itemCount world.items.length st.locations.length)
  else if st.room > world.header.lastRoom then
    some (.invalidValue "current_room" (toString st.room))
  else (misfitRoom? world st).or (misfitItem? world st)

/-- Go on from another state, provided that it fits the world. -/
def restore (s : Session) (st : State) : Except SaveError Session :=
  match misfit? s.world st with
  | some e => .error e
  | none => .ok { s with state := st.settled }

/-- Go on from the text of a saved game. -/
def load (s : Session) (text : String) : Except SaveError Session := do
  s.restore (← SaveFile.read text s.world.header.adventure)

/-- Go on from the bytes of a saved game. -/
def loadBytes (s : Session) (bytes : ByteArray) : Except SaveError Session :=
  match String.fromUTF8? bytes with
  | some text => s.load text
  | none => .error (.file .notText)

/-- A state that fits is taken over as it is, once settled. -/
theorem restore_eq_ok {s : Session} {st : State} (h : misfit? s.world st = none) :
    s.restore st = .ok { s with state := st.settled } := by
  simp [restore, h]

/-- A state that does not fit is refused. -/
theorem restore_eq_error {s : Session} {st : State} {e : SaveError}
    (h : misfit? s.world st = some e) : s.restore st = .error e := by
  simp [restore, h]

end TextAdventure.Session
