/-!
# TOML values

The values of a TOML document and the tree that a document builds from them, line by line.  A table
remembers how it came about, because that decides whether a later line may add to it.

Main results:

- Inductives `Toml.Origin` and `Toml.Value`.
- Definitions `assign`, `openTable` and `openArray`: what the three kinds of lines do to the tree;
  each refuses to define a key twice.
-/

namespace TextAdventure.Toml

/-- How a table came about. -/
inductive Origin where
  /-- By the header of a table inside it. -/
  | implied
  /-- By a dotted key. -/
  | dotted
  /-- By a header of its own. -/
  | headed
  /-- Between braces, which closes it. -/
  | inline
deriving Repr, DecidableEq

/-- A value of a document.  The values of floats and dates are not kept. -/
inductive Value where
  | string (text : String)
  | integer (value : Int)
  | float
  | boolean (value : Bool)
  | date
  | array (elements : List Value)
  | table (origin : Origin) (entries : List (String × Value))
  /-- Tables that share a header in double brackets. -/
  | tables (elements : List (List (String × Value)))
deriving Repr, Inhabited

/-- The entries of a table, in the order they were defined. -/
abbrev Entries := List (String × Value)

/-- A path of keys. -/
abbrev Path := List String

/-- The entries with the value of a key replaced, or added at the end. -/
def put (entries : Entries) (key : String) (v : Value) : Entries :=
  if (entries.lookup key).isSome then
    entries.map fun (k, old) => if k == key then (k, v) else (k, old)
  else entries ++ [(key, v)]

/-- Change the last element of a list. -/
def mapLast? (f : α → Option α) : List α → Option (List α)
  | [] => none
  | [a] => (f a).map ([·])
  | a :: rest => (mapLast? f rest).map (a :: ·)

/-- Change the table at a path.  Tables that are missing are made with the given origin; `enters`
says which tables may be entered. -/
def change (made : Origin) (enters : Origin → Bool) (f : Entries → Option Entries) :
    Path → Entries → Option Entries
  | [], entries => f entries
  | key :: path, entries =>
    match entries.lookup key with
    | none => (change made enters f path []).map fun inner => put entries key (.table made inner)
    | some (.table origin inner) =>
      if enters origin then
        (change made enters f path inner).map fun inner => put entries key (.table origin inner)
      else none
    | some (.tables elements) =>
      (mapLast? (change made enters f path) elements).map fun elements =>
        put entries key (.tables elements)
    | some _ => none

/-- Add a key that is not there yet. -/
def define (key : String) (v : Value) (entries : Entries) : Option Entries :=
  if (entries.lookup key).isSome then none else some (put entries key v)

/-- Change the table at a path that headers have opened. -/
def within (path : Path) (f : Entries → Option Entries) (entries : Entries) : Option Entries :=
  change .implied (· != .inline) f path entries

/-- The table at the end of a dotted key has come about by dotted keys alone, if it is there. -/
def isOpenAt (path : Path) (entries : Entries) : Bool :=
  match path with
  | [] => true
  | key :: rest =>
    match entries.lookup key with
    | none => true
    | some (.table origin inner) => if rest.isEmpty then origin == .dotted else isOpenAt rest inner
    | some (.tables elements) =>
      !rest.isEmpty && elements.getLast?.any fun inner => isOpenAt rest inner
    | some _ => false

/-- A line `key = value` in the table at a path. -/
def assign (path keys : Path) (v : Value) (entries : Entries) : Option Entries :=
  match keys.reverse with
  | [] => none
  | last :: above =>
    let above := above.reverse
    within path (fun table =>
      if isOpenAt above table then
        change .dotted (fun origin => origin == .dotted || origin == .implied) (define last v) above
          table
      else none) entries

/-- A header in single brackets: the table may so far only be implied. -/
def openTable (path : Path) (entries : Entries) : Option Entries :=
  match path.reverse with
  | [] => none
  | last :: above =>
    within above.reverse (fun table =>
      match table.lookup last with
      | none => some (put table last (.table .headed []))
      | some (.table .implied inner) => some (put table last (.table .headed inner))
      | some _ => none) entries

/-- A header in double brackets: a further table under a key that holds such tables only. -/
def openArray (path : Path) (entries : Entries) : Option Entries :=
  match path.reverse with
  | [] => none
  | last :: above =>
    within above.reverse (fun table =>
      match table.lookup last with
      | none => some (put table last (.tables [[]]))
      | some (.tables elements) => some (put table last (.tables (elements ++ [[]])))
      | some _ => none) entries

end TextAdventure.Toml
