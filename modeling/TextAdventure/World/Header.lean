/-!
# Headers

The counts that the data of an adventure begins with, and the version and number it ends with.

Main results:

- Structure `Header` with `Header.text`: the header as it is shown to the player.
- Definition `Header.checksum`: the number that the data has to end with.
-/

namespace TextAdventure

/-- The counts of an adventure.  Those named `last…` are the highest number of their table. -/
structure Header where
  textBytes : Nat := 0
  lastItem : Nat := 0
  lastRow : Nat := 0
  lastWord : Nat := 0
  lastRoom : Nat := 0
  carryLimit : Nat := 0
  startRoom : Nat := 0
  treasures : Nat := 0
  wordLength : Nat := 0
  lightTime : Nat := 0
  lastMessage : Nat := 0
  treasureRoom : Nat := 0
  version : Nat := 0
  adventure : Nat := 0
deriving Repr, DecidableEq, Inhabited

namespace Header

/-- The number that the data of the adventure has to end with.  The sum is one of natural numbers,
and as the data has to give it as a number of 64 bits with a sign, arithmetic with such numbers
would lead to the same sum for every adventure that is read (`World.checksum_lt_of_read`).  Data in
which it would wrap around is refused. -/
def checksum (h : Header) : Nat :=
  2 * h.lastRow + h.lastItem + h.version

/-- A version is shown with two digits after the point. -/
def versionText (h : Header) : String :=
  let minor := h.version % 100
  let padding := if minor < 10 then "0" else ""
  s!"{h.version / 100}.{padding}{minor}"

/-- The header as it is shown to the player. -/
def text (h : Header) : String :=
  "\n" ++ String.join [
    s!"Adventure number:         {h.adventure}\n",
    s!"Version:                  {h.versionText}\n",
    s!"Items (highest index):    {h.lastItem}\n",
    s!"Actions (highest index):  {h.lastRow}\n",
    s!"Words (highest index):    {h.lastWord}\n",
    s!"Rooms (highest index):    {h.lastRoom}\n",
    s!"Messages (highest index): {h.lastMessage}\n",
    s!"Carry limit:              {h.carryLimit}\n",
    s!"Starting room:            {h.startRoom}\n",
    s!"Treasures:                {h.treasures}\n",
    s!"Treasure room:            {h.treasureRoom}\n",
    s!"Word length:              {h.wordLength}\n",
    s!"Light time:               {h.lightTime}\n",
    s!"Checksum:                 {h.checksum}\n"]

end Header

end TextAdventure
