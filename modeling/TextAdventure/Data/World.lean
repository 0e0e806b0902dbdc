import TextAdventure.Data.Check
import TextAdventure.Data.Section

/-!
# Reading a world

Adventure data is read token by token in a fixed order: twelve header counts, the action table, the
vocabulary, rooms, messages, items, the titles of the rows, and a trailer of version, adventure
number and checksum.  Whatever follows the trailer is left unread.  The check of the action table
comes after everything else.

Main results:

- Definition `World.reader`: the whole of the data up to the checksum.
- Definitions `World.ofTokens` and `World.read`: the world that tokens, or a text, describe.
-/

namespace TextAdventure.World

/-- The titles of the rows: as many as are there, filled up with empty ones. -/
def titlesReader (lastRow : Nat) : Reader (List String) :=
  fun tokens =>
    let (titles, rest) := Reader.quotedUpTo (lastRow + 1) tokens
    .ok (titles ++ List.replicate (lastRow + 1 - titles.length) "", rest)

/-- The whole of the data up to the checksum, without the check of the action table. -/
def reader : Reader World := do
  let counts ← Header.reader
  let rows ← Reader.table Row.reader 0 (counts.lastRow + 1)
  let texts ← Reader.quotedRun
  let rooms ← Reader.table (Room.reader counts.lastRoom) 0 (counts.lastRoom + 1)
  let messages ← Reader.table (fun n => Reader.quoted (.message n)) 0 (counts.lastMessage + 1)
  let items ← Reader.table (Item.reader counts.lastRoom) 0 (counts.lastItem + 1)
  let titles ← titlesReader counts.lastRow
  let version ← Reader.count .version .version
  let adventure ← Reader.count .adventure .adventure
  let found ← Reader.number .checksum
  let header := { counts with version, adventure }
  if found ≠ header.checksum then Reader.fail (.checksum header.checksum found)
  let words := Word.ofTexts counts.lastWord texts
  return { header, rows, words, rooms, messages, items, titles }

/-- The world that a list of tokens describes. -/
def ofTokens (tokens : List Token) : Except LoadError World := do
  let (world, _) ← reader tokens
  world.checkRows

/-- The world that a text describes. -/
def read (text : String) : Except LoadError World :=
  match Token.scan text with
  | .ok tokens => ofTokens tokens
  | .error e => .error (.ofScan e)

end TextAdventure.World
