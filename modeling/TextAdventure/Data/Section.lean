import TextAdventure.Data.Reader
import TextAdventure.World

/-!
# Sections of adventure data

How each part of the data is laid out: the header, a row of the action table, the vocabulary, a
room and an item.

Main results:

- Definitions `Header.reader`, `Row.reader`, `Room.reader` and `Item.reader`.
- Definition `Word.ofTexts`: the vocabulary, whose words are interleaved or split in half.
-/

namespace TextAdventure

namespace Header

/-- The highest number of a room, which keeps rooms apart from the inventory. -/
def roomLimit : Nat := 253

/-- The header holds twelve counts.  They are checked once all of them have been read. -/
def reader : Reader Header := do
  let count := Reader.count .header .header
  let textBytes ← count
  let lastItem ← count
  let lastRow ← count
  let lastWord ← count
  let lastRoom ← count
  let carryLimit ← count
  let startRoom ← count
  let treasures ← count
  let wordLength ← count
  let lightTime ← count
  let lastMessage ← count
  let treasureRoom ← count
  if lastRoom > roomLimit then Reader.fail (.invalidValue .roomCount lastRoom)
  if startRoom > lastRoom then Reader.fail (.invalidValue .startRoom startRoom)
  if lightTime ≥ 0x80000000 then Reader.fail (.invalidValue .lightTime lightTime)
  return {
    textBytes, lastItem, lastRow, lastWord, lastRoom, carryLimit, startRoom, treasures,
    wordLength, lightTime, lastMessage, treasureRoom }

end Header

namespace Row

/-- A field of a row is a number of 32 bits. -/
def field (number : Nat) : Reader UInt32 := do
  let n ← Reader.natural (.row number) .rowField (· < 0x100000000)
  return UInt32.ofNat n

/-- A row holds its trigger, five conditions and two pairs of commands. -/
def reader (number : Nat) : Reader Row := do
  let vocab ← field number
  let c₀ ← field number
  let c₁ ← field number
  let c₂ ← field number
  let c₃ ← field number
  let c₄ ← field number
  let first ← field number
  let second ← field number
  return ⟨vocab, #v[c₀, c₁, c₂, c₃, c₄], #v[first, second]⟩

end Row

namespace Word

/-- Verbs and nouns in turn, where each pair shares a number. -/
def interleaved (texts : List String) : List Word :=
  texts.zipIdx.map fun (text, place) =>
    Word.ofText text (if place % 2 = 0 then .verb else .noun) (place / 2)

/-- The verbs, and after them the nouns; of an odd number of words, the verbs have one more. -/
def split (texts : List String) : List Word :=
  let verbs := (texts.length + 1) / 2
  texts.zipIdx.map fun (text, place) =>
    if place < verbs then Word.ofText text .verb place
    else Word.ofText text .noun (place - verbs)

/-- The vocabulary of an adventure.  It is interleaved when there are exactly as many pairs as the
header says, and split otherwise. -/
def ofTexts (lastWord : Nat) (texts : List String) : List Word :=
  if texts.length = 2 * (lastWord + 1) then interleaved texts else split texts

end Word

namespace Room

/-- A room holds its six exits and its description. -/
def reader (lastRoom number : Nat) : Reader Room := do
  let exit := Reader.natural (.room number) .roomExit (· ≤ lastRoom)
  let north ← exit
  let south ← exit
  let east ← exit
  let west ← exit
  let up ← exit
  let down ← exit
  let description ← Reader.quoted (.room number)
  return ⟨#v[north, south, east, west, up, down], description⟩

end Room

namespace Item

/-- An item holds its text and the location it starts at. -/
def reader (lastRoom number : Nat) : Reader Item := do
  let text ← Reader.quoted (.item number)
  let home ← Reader.natural (.item number) .itemLocation fun l => l == carried || l ≤ lastRoom
  return Item.ofText text home

end Item

end TextAdventure
